import SafeAgents.Enforcement.Footprint

namespace SafeAgents

open Interleaving

namespace Enforcement

variable {L : Type} {C : Contract Op Op.Ret Exn L} {P : Op → Prop} {S : L → Prop} {l : L}

structure Quiet (C : Contract Op Op.Ret Exn L) (P : Op → Prop) (S : L → Prop) : Prop where
  may : ∀ l o, S l → P o → C.may l o
  next : ∀ l o r, S l → P o → C.next l o r = l

theorem Quiet.yields {α : Type} {V : Except Exn α → Prop} {p : Act α} (h : Quiet C P S) (hl : S l)
    (hp : Yields P V p) : Keeps C (fun l' r => l' = l ∧ V r) l p :=
  hp.keeps (fun o => h.may l o hl) fun o r => h.next l o r hl

theorem Quiet.uses {α : Type} {p : Act α} (h : Quiet C P S) (hl : S l) (hp : Uses P p) :
    Keeps C (fun l' _ => l' = l) l p :=
  hp.keeps (fun o => h.may l o hl) (fun o r => h.next l o r hl) fun _ => rfl

def Enforced (l : L) (Q : L → Except Exn ConnectorResult → Prop) (l' : L) (r : Except Exn EnforcementResult) : Prop :=
  (l' = l ∧ ∀ res, r = .ok res → res.idempotent = true ∨ (res.decision.executes = false ∧ res.result = .none)) ∨
    ∃ out, Q l' out ∧
      ∀ res, r = .ok res → out = .ok res.result ∧ res.idempotent = false ∧ res.decision.executes = true

section Enforce
variable (q : Request) (cb : Callbacks) {claimedKey : Option String} {V : Decision → Prop}
  {Q : L → Except Exn ConnectorResult → Prop} {executor : BrokeredCall → Decision → Act ConnectorResult}

def Given (V : Decision → Prop) (q : Request) (effective : Decision) : Prop :=
  effective.executes = true → ∃ revalidated, V revalidated ∧ effective = q.initialDecision.pickStricter revalidated

theorem yields_drawAncestors (draws : ∀ key delta cap, P (.store (.tryIncrementCounter key delta cap)))
    {effective : Decision} (h : Given V q effective) (pool : List CounterDraw) :
    Yields P (fun r => ∀ d, r = .ok d → Given V q d) (drawAncestors pool effective) := by
  induction pool with
  | nil =>
    rintro d ⟨⟩
    exact h
  | cons draw pool ih =>
    refine .then (uses_store.mpr (draws _ _ _)) (fun b => ?_) error_ne_ok
    cases b with
    | true => exact ih
    | false =>
      rintro d ⟨⟩
      exact nofun

theorem yields_drawBudget (draws : ∀ key delta cap, P (.store (.tryIncrementCounter key delta cap)))
    {effective : Decision} (h : Given V q effective) (key : String) (delta cap : ℚ) (pool : List CounterDraw) :
    Yields P (fun r => ∀ d, r = .ok d → Given V q d) (drawBudget key delta cap pool effective) := by
  unfold drawBudget
  split
  · refine .then (uses_store.mpr (draws _ _ _)) (fun b => ?_) error_ne_ok
    cases b with
    | true => exact yields_drawAncestors q draws h pool
    | false =>
      rintro d ⟨⟩
      exact nofun
  · rintro d ⟨⟩
    exact h

structure Surroundings (P : Op → Prop) (V : Decision → Prop) (q : Request) (cb : Callbacks) (claimedKey : Option String) :
    Prop where
  books : ∀ o, Bookkeeps claimedKey o → P o
  draws : ∀ key delta cap, P (.store (.tryIncrementCounter key delta cap))
  facts : Uses P (cb.freshFacts q.call)
  decides : ∀ facts, Yields P (fun r => ∀ d, r = .ok d → V d) (cb.decider q.call facts)

variable {q cb}

theorem yields_prepare (h : Surroundings P V q cb claimedKey) :
    Yields P (fun r => ∀ out, r = .ok out → Given V q out.1) (prepare q cb) := by
  refine .then h.facts (fun facts => ?_) error_ne_ok
  refine .bind (h.decides facts) (fun revalidated hd => ?_) fun e _ => error_ne_ok e
  refine .bind (yields_drawBudget q h.draws (fun _ => ⟨revalidated,hd _ rfl,rfl⟩) _ _ _ _)
    (fun effective hgiven => ?_) fun e _ => error_ne_ok e
  refine .then ((uses_journal q effective).mono h.books) (fun entryId => ?_) error_ne_ok
  rintro out ⟨⟩
  exact hgiven _ rfl

theorem yields_prepareOrRelease (h : Surroundings P V q cb claimedKey) :
    Yields P (fun r => ∀ out, r = .ok out → Given V q out.1) (prepareOrRelease q cb claimedKey) := by
  refine .tryCatch (yields_prepare h) (fun _ hout => hout) fun e _ => ?_
  exact .then (uses_releaseIfClaimed.mono h.books) (fun _ => error_ne_ok _) error_ne_ok

def Ran (Q : L → Except Exn ConnectorResult → Prop) (l' : L) (r : Except Exn ConnectorResult) : Prop :=
  ∃ out, Q l' out ∧ ∀ result, r = .ok result → out = .ok result

theorem Ran.then {α : Type} {r : Except Exn ConnectorResult} {l' : L} (h : Ran Q l' r) {p : Act α} (hquiet : Quiet C P S)
    (hQ : ∀ l r, Q l r → S l) (hp : Uses P p) : Keeps C (fun l _ => l = l') l' p := by
  obtain ⟨out,hout,-⟩ := h
  exact hquiet.uses (hQ _ _ hout) hp

section Executor
variable (hquiet : Quiet C P S) (hQ : ∀ l r, Q l r → S l) (books : ∀ o, Bookkeeps claimedKey o → P o)
  (hcb : cb.executor = some executor)
include hquiet hQ books hcb

theorem keeps_runExecutor {effective : Decision} (hexec : Keeps C Q l (executor q.call effective)) (entryId : String) :
    Keeps C (Ran Q) l (runExecutor q cb claimedKey entryId effective) := by
  simp only [runExecutor,hcb]
  refine hexec.tryCatch (fun l' a h => ⟨_,h,fun _ h => h⟩) fun l' e h => ?_
  split
  · refine keeps_mono (fun l'' r hl => ?_) ((hquiet.yields (hQ _ _ h) (V := fun r => ∀ a, r ≠ .ok a) ?_))
    · obtain ⟨rfl,hraised⟩ := hl
      exact ⟨_,h,fun a ha => absurd ha (hraised a)⟩
    · refine .then ((uses_markLedger q entryId e.str).mono books) (fun _ => ?_) error_ne_ok
      refine .then ?_ (fun _ => error_ne_ok _) error_ne_ok
      cases claimedKey with
      | none => trivial
      | some key => exact (uses_failClaim e.str).mono books
  · exact ⟨_,h,error_ne_ok _⟩

theorem keeps_executeStep_executing {effective : Decision} (heff : effective.executes = true)
    (hexec : Keeps C Q l (executor q.call effective)) (entryId : String) :
    Keeps C (Ran Q) l (executeStep q cb claimedKey entryId effective) := by
  have hrun : Keeps C (Ran Q) l (runExecutor q cb claimedKey entryId effective) :=
    keeps_runExecutor hquiet hQ books hcb hexec entryId
  have hcommitted : Keeps C (Ran Q) l (do
      let result ← runExecutor q cb claimedKey entryId effective
      commit entryId
      return result) := by
    refine hrun.bind (fun l' result h => ?_) fun l' e h => h.imp fun _ h => ⟨h.1,error_ne_ok _⟩
    refine (h.then hquiet hQ ((uses_commit entryId).mono books)).bind ?_ ?_
    · rintro _ _ rfl
      exact h
    · rintro _ e rfl
      exact h.imp fun _ h => ⟨h.1,error_ne_ok _⟩
  cases effective with
  | allow => exact hcommitted
  | transform op args => exact hcommitted
  | _ => cases heff

end Executor

theorem keeps_executeStep_refusing (hquiet : Quiet C P S) (hl : S l) (books : ∀ o, Bookkeeps claimedKey o → P o)
    {effective : Decision} (heff : effective.executes = false) (entryId : String) :
    Keeps C (fun l' r => l' = l ∧ ∀ result, r = .ok result → result = .none) l
      (executeStep q cb claimedKey entryId effective) := by
  have hcommitted : Keeps C (fun l' (r : Except Exn ConnectorResult) => l' = l ∧ ∀ result, r = .ok result → result = .none)
      l (do
        commit entryId
        return .none) := by
    refine hquiet.yields hl (.then ((uses_commit entryId).mono books) (fun _ => ?_) error_ne_ok)
    rintro result ⟨⟩
    rfl
  cases effective with
  | allow => cases heff
  | transform op args => cases heff
  | requireApproval r reason =>
    refine ⟨rfl,?_⟩
    rintro result ⟨⟩
    rfl
  | deny reason => exact hcommitted
  | abstain escalate reason => exact hcommitted

variable (hquiet : Quiet C P S) (hl : S l) (hQ : ∀ l r, Q l r → S l) (hcb : cb.executor = some executor)
  (hexec : ∀ effective, effective.executes = true → Given V q effective → Keeps C Q l (executor q.call effective))
include hquiet hl hQ hcb hexec

theorem keeps_enforceClaimed (h : Surroundings P V q cb claimedKey) :
    Keeps C (Enforced l Q) l (enforceClaimed q cb claimedKey) := by
  refine (hquiet.yields hl (yields_prepareOrRelease h)).bind ?_ ?_
  · rintro _ ⟨effective,entryId⟩ ⟨rfl,hgiven⟩
    have hsettled (result : ConnectorResult) : Uses P (settleClaim claimedKey effective result) :=
      (uses_settleClaim effective result).mono h.books
    cases heff : effective.executes with
    | true =>
      refine (keeps_executeStep_executing hquiet hQ h.books hcb heff (hexec effective heff (hgiven _ rfl)) entryId).bind
        (fun l' result hran => ?_) fun l' e hran => ?_
      · refine (hran.then hquiet hQ (hsettled result)).bind ?_ ?_
        · rintro _ _ rfl
          obtain ⟨out,hout,hresult⟩ := hran
          refine .inr ⟨out,hout,?_⟩
          rintro _ ⟨⟩
          exact ⟨hresult _ rfl,rfl,heff⟩
        · rintro _ e rfl
          obtain ⟨out,hout,-⟩ := hran
          exact .inr ⟨out,hout,error_ne_ok _⟩
      · obtain ⟨out,hout,-⟩ := hran
        exact .inr ⟨out,hout,error_ne_ok _⟩
    | false =>
      refine (keeps_executeStep_refusing hquiet hl h.books heff entryId).bind ?_ ?_
      · rintro _ result ⟨rfl,hnone⟩
        refine (hquiet.uses hl (hsettled result)).bind ?_ ?_
        · rintro _ _ rfl
          refine .inl ⟨rfl,?_⟩
          rintro _ ⟨⟩
          exact .inr ⟨heff,hnone _ rfl⟩
        · rintro _ e rfl
          exact .inl ⟨rfl,error_ne_ok _⟩
      · rintro _ e ⟨rfl,-⟩
        exact .inl ⟨rfl,error_ne_ok _⟩
  · rintro _ e ⟨rfl,-⟩
    exact .inl ⟨rfl,error_ne_ok _⟩

omit hquiet hl hQ hcb hexec in
theorem settledOutcome_result {stored : IdempotencyRecord} {key : String} {settled : EnforcementResult}
    (h : settledOutcome stored key = .ok (some settled)) :
    settled.idempotent = true ∨ (settled.decision.executes = false ∧ settled.result = .none) := by
  unfold settledOutcome at h
  split at h
  · cases h
    exact .inr ⟨rfl,rfl⟩
  · cases h
    exact .inr ⟨rfl,rfl⟩
  · split at h
    · cases h
    · split at h
      · split at h
        · cases h
        · cases h
          exact .inl rfl
      · cases h

def Settles (r : Except Exn (Option EnforcementResult)) : Prop :=
  ∀ settled, r = .ok (some settled) →
    settled.idempotent = true ∨ (settled.decision.executes = false ∧ settled.result = .none)

omit hquiet hl hQ hcb hexec in
theorem settles_error (e : Exn) : Settles (.error e) := fun _ h => by cases h

omit hquiet hl hQ hcb hexec in
theorem settles_none : Settles (.ok none) := fun _ h => by cases h

omit hquiet hl hQ hcb hexec in
theorem yields_settled {stored : IdempotencyRecord} {key : String} {p : EnforcementResult → Act (Option EnforcementResult)}
    (hp : ∀ settled, settledOutcome stored key = .ok (some settled) → Yields P Settles (p settled))
    {fallback : Act (Option EnforcementResult)} (hfallback : Yields P Settles fallback) :
    Yields P Settles (do
      match ← Prog.finish (settledOutcome stored key) with
      | some settled => p settled
      | none => fallback) := by
  cases hout : settledOutcome stored key with
  | error e => exact settles_error e
  | ok settled =>
    cases settled with
    | none => exact hfallback
    | some settled => exact hp settled hout

omit hquiet hl hQ hcb hexec in
theorem yields_claimAbsent {key : String} (books : ∀ o, Bookkeeps (some key) o → P o) :
    Yields P Settles (claimAbsent key) := by
  have hcontended : Settles (.ok (some (refusal (contendedReason key)))) := by
    rintro _ ⟨⟩
    exact .inr ⟨rfl,rfl⟩
  unfold claimAbsent
  refine .then (uses_env.mpr (books _ trivial)) (fun ts => ?_) settles_error
  refine .then (uses_store.mpr (books _ rfl)) (fun won => ?_) settles_error
  cases won with
  | true => exact settles_none
  | false =>
    refine .then (uses_store.mpr (books _ rfl)) (fun stored => ?_) settles_error
    cases stored with
    | none => exact hcontended
    | some row =>
      refine yields_settled (fun settled hsettled => ?_) hcontended
      rintro _ ⟨⟩
      exact settledOutcome_result hsettled

omit hquiet hl hQ hcb hexec in
theorem yields_claim {key : String} (books : ∀ o, Bookkeeps (some key) o → P o) : Yields P Settles (claim key) := by
  unfold claim
  refine .then (uses_store.mpr (books _ rfl)) (fun stored => ?_) settles_error
  cases stored with
  | none => exact yields_claimAbsent books
  | some row =>
    refine yields_settled (fun settled hsettled => ?_) ?_
    · rintro _ ⟨⟩
      exact settledOutcome_result hsettled
    · exact .then (uses_store.mpr (books _ rfl)) (fun _ => yields_claimAbsent books) settles_error

theorem keeps_enforce (h : Surroundings P V q cb q.idempotencyKey) : Keeps C (Enforced l Q) l (enforce q cb) := by
  unfold enforce
  split
  · next hkey => exact keeps_enforceClaimed hquiet hl hQ hcb hexec (hkey ▸ h)
  · next key hkey =>
    rw [hkey] at h
    refine (hquiet.yields hl (yields_claim h.books)).bind ?_ ?_
    · rintro _ settled ⟨rfl,hsettled⟩
      cases settled with
      | none => exact keeps_enforceClaimed hquiet hl hQ hcb hexec h
      | some settled =>
        refine .inl ⟨rfl,?_⟩
        rintro _ ⟨⟩
        exact hsettled _ rfl
    · rintro _ e ⟨rfl,-⟩
      exact .inl ⟨rfl,error_ne_ok _⟩

end Enforce

end Enforcement

end SafeAgents
