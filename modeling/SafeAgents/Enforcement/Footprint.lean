import SafeAgents.Enforcement.Engine

namespace SafeAgents

open Interleaving

namespace Enforcement

def Bookkeeps (claimedKey : Option String) : Op → Prop
  | .store (.getIdempotency key) => claimedKey = some key
  | .store (.putIdempotencyIfAbsent record) => claimedKey = some record.key
  | .store (.completeIdempotency key _ _) => claimedKey = some key
  | .store (.failIdempotency key _) => claimedKey = some key
  | .store (.deleteIdempotency key) => claimedKey = some key
  | .store (.writeLedger _) => True
  | .store (.commitLedger _ _) => True
  | .store (.compensateLedger _ _) => True
  | .store (.escalateLedger _ _) => True
  | .env .nowIso => True
  | .env .uuid => True
  | _ => False

variable {claimedKey : Option String} {key : String}

theorem uses_releaseClaim : Uses (Bookkeeps (some key)) (releaseClaim key) := uses_guarded (uses_store.mpr rfl)

theorem uses_failClaim (error : String) : Uses (Bookkeeps (some key)) (failClaim key error) :=
  uses_guarded (.bind (uses_store.mpr rfl) fun _ => trivial)

theorem uses_claimAbsent : Uses (Bookkeeps (some key)) (claimAbsent key) := by
  refine .bind (uses_env.mpr trivial) fun ts => ?_
  refine .bind (uses_store.mpr rfl) fun won => ?_
  cases won with
  | true => trivial
  | false =>
    refine .bind (uses_store.mpr rfl) fun stored => ?_
    cases stored with
    | none => trivial
    | some row =>
      refine .bind uses_finish fun settled => ?_
      cases settled <;> trivial

theorem uses_claim : Uses (Bookkeeps (some key)) (claim key) := by
  refine .bind (uses_store.mpr rfl) fun stored => ?_
  cases stored with
  | none => exact uses_claimAbsent
  | some row =>
    refine .bind uses_finish fun settled => ?_
    cases settled with
    | some out => trivial
    | none => exact .bind (uses_store.mpr rfl) fun _ => uses_claimAbsent

theorem uses_releaseIfClaimed : Uses (Bookkeeps claimedKey) (releaseIfClaimed claimedKey) := by
  cases claimedKey with
  | none => trivial
  | some key => exact uses_releaseClaim

theorem uses_markLedger (q : Request) (entryId error : String) :
    Uses (Bookkeeps claimedKey) (markLedger q entryId error) := by
  unfold markLedger
  split <;> exact uses_store.mpr trivial

theorem uses_sagaFailure (q : Request) (entryId : String) (e : Exn) :
    Uses (Bookkeeps claimedKey) (sagaFailure q claimedKey entryId e) := by
  refine .bind (uses_markLedger q entryId e.str) fun _ => ?_
  cases claimedKey with
  | none => exact .bind (by trivial) fun _ => trivial
  | some key => exact .bind (uses_failClaim e.str) fun _ => trivial

theorem uses_commit (entryId : String) : Uses (Bookkeeps claimedKey) (commit entryId) :=
  .bind (uses_env.mpr trivial) fun _ => uses_store.mpr trivial

theorem uses_journal (q : Request) (effective : Decision) : Uses (Bookkeeps claimedKey) (journal q effective) :=
  .bind (uses_env.mpr trivial) fun _ => .bind (uses_env.mpr trivial) fun _ =>
    .bind (uses_store.mpr trivial) fun _ => trivial

theorem uses_settleClaim (effective : Decision) (result : ConnectorResult) :
    Uses (Bookkeeps claimedKey) (settleClaim claimedKey effective result) := by
  cases claimedKey with
  | none => trivial
  | some key =>
    simp only [settleClaim]
    split
    · refine .bind uses_finish fun json => ?_
      exact .bind (uses_store.mpr rfl) fun _ => trivial
    · exact uses_releaseClaim

section Draws
variable {P : Op → Prop} (hdraw : ∀ key delta cap, P (.store (.tryIncrementCounter key delta cap)))
include hdraw

theorem uses_drawAncestors (draws : List CounterDraw) (effective : Decision) :
    Uses P (drawAncestors draws effective) := by
  induction draws with
  | nil => trivial
  | cons draw draws ih =>
    refine .bind (uses_store.mpr (hdraw _ _ _)) fun b => ?_
    cases b with
    | false => trivial
    | true => exact ih

theorem uses_drawBudget (key : String) (delta cap : ℚ) (draws : List CounterDraw) (effective : Decision) :
    Uses P (drawBudget key delta cap draws effective) := by
  unfold drawBudget
  split
  · refine .bind (uses_store.mpr (hdraw _ _ _)) fun b => ?_
    cases b with
    | false => trivial
    | true => exact uses_drawAncestors hdraw draws effective
  · trivial

end Draws

structure Footprint (P : Op → Prop) (claimedKey : Option String) (cb : Callbacks) : Prop where
  books : ∀ o, Bookkeeps claimedKey o → P o
  draws : ∀ key delta cap, P (.store (.tryIncrementCounter key delta cap))
  facts : ∀ call, Uses P (cb.freshFacts call)
  decides : ∀ call facts, Uses P (cb.decider call facts)
  executes : ∀ executor, cb.executor = some executor → ∀ call decision, Uses P (executor call decision)

section Enforce
variable {P : Op → Prop} {cb : Callbacks} (q : Request)

theorem uses_prepare (books : ∀ o, Bookkeeps claimedKey o → P o)
    (draws : ∀ key delta cap, P (.store (.tryIncrementCounter key delta cap)))
    (facts : ∀ call, Uses P (cb.freshFacts call)) (decides : ∀ call facts, Uses P (cb.decider call facts)) :
    Uses P (prepare q cb) := by
  refine .bind (facts _) fun currentFacts => .bind (decides _ _) fun revalidated => ?_
  refine .bind (uses_drawBudget draws _ _ _ _ _) fun effective => ?_
  exact .bind ((uses_journal q effective).mono books) fun _ => trivial

theorem uses_executeStep (hP : Footprint P claimedKey cb) (entryId : String) (effective : Decision) :
    Uses P (executeStep q cb claimedKey entryId effective) := by
  have run : ∀ d, Uses P (runExecutor q cb claimedKey entryId d) := by
    intro d
    unfold runExecutor
    split
    · trivial
    · next executor hexecutor =>
      refine .tryCatch (hP.executes executor hexecutor _ _) fun e => ?_
      split
      · exact (uses_sagaFailure q entryId e).mono hP.books
      · trivial
  have committed : Uses P (commit entryId) := (uses_commit entryId).mono hP.books
  cases effective with
  | allow => exact .bind (run _) fun _ => .bind committed fun _ => trivial
  | transform op args => exact .bind (run _) fun _ => .bind committed fun _ => trivial
  | requireApproval r reason => trivial
  | deny reason => exact .bind committed fun _ => trivial
  | abstain escalate reason => exact .bind committed fun _ => trivial

theorem uses_enforceClaimed (hP : Footprint P claimedKey cb) : Uses P (enforceClaimed q cb claimedKey) := by
  have prepared : Uses P (prepareOrRelease q cb claimedKey) :=
    .tryCatch (uses_prepare q hP.books hP.draws hP.facts hP.decides) fun e => .bind (uses_releaseIfClaimed.mono hP.books) fun _ => trivial
  refine .bind prepared fun out => .bind (uses_executeStep q hP out.2 out.1) fun result => ?_
  exact .bind ((uses_settleClaim out.1 result).mono hP.books) fun _ => trivial

theorem uses_enforce (hP : Footprint P q.idempotencyKey cb) : Uses P (enforce q cb) := by
  unfold enforce
  split
  · next hkey => exact uses_enforceClaimed q (hkey ▸ hP)
  · next key hkey =>
    rw [hkey] at hP
    refine .bind (uses_claim.mono hP.books) fun settled => ?_
    cases settled with
    | some out => trivial
    | none => exact uses_enforceClaimed q hP

end Enforce

structure Caller where
  request : Request
  hasExecutor : Bool := true

def callbacks (hasExecutor : Bool) : Callbacks where
  decider call facts := env (.decider call facts)
  freshFacts call := env (.freshFacts call)
  executor := if hasExecutor then some fun call decision => env (.executor call decision) else none

def Caller.program (p : Caller) : Act EnforcementResult := enforce p.request (callbacks p.hasExecutor)

theorem footprint_callbacks {P : Op → Prop} (hasExecutor : Bool) (books : ∀ o, Bookkeeps claimedKey o → P o)
    (draws : ∀ key delta cap, P (.store (.tryIncrementCounter key delta cap)))
    (facts : ∀ call, P (.env (.freshFacts call))) (decides : ∀ call facts, P (.env (.decider call facts)))
    (executes : hasExecutor = true → ∀ call decision, P (.env (.executor call decision))) :
    Footprint P claimedKey (callbacks hasExecutor) where
  books := books
  draws := draws
  facts call := uses_env.mpr (facts call)
  decides call facts := uses_env.mpr (decides call facts)
  executes executor h call decision := by
    cases hasExecutor with
    | false => cases h
    | true =>
      cases h
      exact uses_env.mpr (executes rfl call decision)

end Enforcement

end SafeAgents
