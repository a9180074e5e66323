import SafeAgents.Enforcement.Footprint

namespace SafeAgents

open Interleaving

namespace Enforcement

def legacy (row : IdempotencyRecord) : Bool :=
  row.status = .executed &&
    match row.decision with
    | .ok d => !d.executes
    | .error _ => false

theorem settledOutcome_eq_none {row : IdempotencyRecord} {key : String} :
    settledOutcome row key = .ok none ↔ legacy row = true := by
  unfold settledOutcome legacy
  cases row.status with
  | inFlight => simp
  | failed => simp
  | executed =>
    cases row.decision with
    | error e => simp
    | ok d =>
      cases hd : d.executes with
      | false => simp [hd]
      | true => cases row.result <;> simp [hd]

inductive Phase where
  | start | evicting | cleared | holding | ran | settled
  deriving DecidableEq

namespace Phase

def Live (l : Phase) : Prop := l = .holding ∨ l = .ran

def afterGet : Phase → Except Exn (Option IdempotencyRecord) → Phase
  | .start, .ok none => .cleared
  | .start, .ok (some row) => if legacy row then .evicting else .settled
  | .start, .error _ => .settled
  | l, _ => l

def afterDelete : Phase → Except Exn Unit → Phase
  | .evicting, .ok () => .cleared
  | _, _ => .settled

def afterPut : Except Exn Bool → Phase
  | .ok true => .holding
  | _ => .settled

end Phase

section Contract
variable (k : String) (mine : Bool)

def storeMay (l : Phase) : StoreOp → Prop
  | .getIdempotency key => key = k → l = .start ∨ l = .settled
  | .putIdempotencyIfAbsent record => record.key = k → l = .cleared ∧ record.status = .inFlight
  | .completeIdempotency key d _ => key = k → l.Live ∧ ∃ decision, d = .json decision ∧ decision.executes = true
  | .failIdempotency key _ => key = k → l = .ran
  | .deleteIdempotency key => key = k → l = .evicting ∨ l = .holding
  | _ => True

def storeNext (l : Phase) : (o : StoreOp) → Except Exn o.Ret → Phase
  | .getIdempotency key, r => if key = k then l.afterGet r else l
  | .putIdempotencyIfAbsent record, r => if record.key = k then Phase.afterPut r else l
  | .completeIdempotency key _ _, _ => if key = k then .settled else l
  | .failIdempotency key _, _ => if key = k then .settled else l
  | .deleteIdempotency key, r => if key = k then l.afterDelete r else l
  | _, _ => l

def envMay (l : Phase) : EnvOp → Prop
  | .executor _ _ => mine = true → l = .holding
  | _ => True

def envNext (l : Phase) : EnvOp → Phase
  | .executor _ _ => if mine then .ran else l
  | _ => l

def opMay (l : Phase) : Op → Prop
  | .store o => storeMay k l o
  | .env o => envMay mine l o
  | _ => True

def claimContract : Contract Op Op.Ret Exn Phase where
  may l o := (l = .evicting → o = .store (.deleteIdempotency k)) ∧ opMay k mine l o
  heard _ _ _ := True
  next l
    | .store o, r => storeNext k l o r
    | .env o, _ => envNext mine l o
    | _, _ => l

@[simp] theorem claimContract_next_store (l : Phase) (o : StoreOp) (r : Except Exn o.Ret) :
    (claimContract k mine).next l (.store o) r = storeNext k l o r := rfl

@[simp] theorem claimContract_next_env (l : Phase) (o : EnvOp) (r : Except Exn o.Ret) :
    (claimContract k mine).next l (.env o) r = envNext mine l o := rfl

@[simp] theorem claimContract_heard (l : Phase) (o : Op) (r : Except Exn o.Ret) :
    (claimContract k mine).heard l o r := trivial

def Aside (o : Op) : Prop :=
  ∀ l, l ≠ .evicting → (claimContract k mine).may l o ∧ ∀ r, (claimContract k mine).next l o r = l

variable {k mine}

theorem keeps_aside {α : Type} {p : Act α} (hp : Uses (Aside k mine) p) (l : Phase) (hl : l ≠ .evicting) :
    Keeps (claimContract k mine) (fun l' _ => l' = l) l p :=
  hp.keeps (fun _ h => (h l hl).1) (fun _ r h => (h l hl).2 r) fun _ => rfl

theorem Aside.of {o : Op} (hmay : ∀ l, opMay k mine l o) (hnext : ∀ l r, (claimContract k mine).next l o r = l) :
    Aside k mine o :=
  fun l hl => ⟨⟨(absurd · hl),hmay l⟩,hnext l⟩

theorem aside_of_bookkeeps {claimedKey : Option String} (h : claimedKey ≠ some k) {o : Op}
    (ho : Bookkeeps claimedKey o) : Aside k mine o := by
  have hne : ∀ key, claimedKey = some key → key ≠ k := fun key hkey hk => h (hk ▸ hkey)
  cases o with
  | env o =>
    cases o with
    | nowIso => exact .of (fun _ => trivial) fun _ _ => rfl
    | uuid => exact .of (fun _ => trivial) fun _ _ => rfl
    | _ => exact ho.elim
  | store o =>
    cases o with
    | getIdempotency key => exact .of (fun _ => (absurd · (hne _ ho))) fun _ _ => if_neg (hne _ ho)
    | putIdempotencyIfAbsent record => exact .of (fun _ => (absurd · (hne _ ho))) fun _ _ => if_neg (hne _ ho)
    | completeIdempotency key d res => exact .of (fun _ => (absurd · (hne _ ho))) fun _ _ => if_neg (hne _ ho)
    | failIdempotency key error => exact .of (fun _ => (absurd · (hne _ ho))) fun _ _ => if_neg (hne _ ho)
    | deleteIdempotency key => exact .of (fun _ => (absurd · (hne _ ho))) fun _ _ => if_neg (hne _ ho)
    | _ => exact .of (fun _ => trivial) fun _ _ => rfl
  | _ => exact ho.elim

theorem aside_draw (key : String) (delta cap : ℚ) : Aside k mine (.store (.tryIncrementCounter key delta cap)) :=
  .of (fun _ => trivial) fun _ _ => rfl

theorem aside_bookkeeping {o : Op} (ho : Bookkeeps none o) : Aside k mine o := aside_of_bookkeeps (by simp) ho

theorem aside_prepare (q : Request) (hasExecutor : Bool) :
    Uses (Aside k mine) (prepare q (callbacks hasExecutor)) := by
  refine uses_prepare q (fun _ => aside_bookkeeping) aside_draw (fun _ => ?_) fun _ _ => ?_
  · exact uses_env.mpr (.of (fun _ => trivial) fun _ _ => rfl)
  · exact uses_env.mpr (.of (fun _ => trivial) fun _ _ => rfl)

theorem aside_enforce (q : Request) (hasExecutor : Bool) (h : q.idempotencyKey ≠ some k) :
    Uses (Aside k false) (enforce q (callbacks hasExecutor)) := by
  refine uses_enforce q (footprint_callbacks hasExecutor (fun _ => aside_of_bookkeeps h) aside_draw ?_ ?_ ?_)
  · exact fun _ => .of (fun _ => trivial) fun _ _ => rfl
  · exact fun _ _ => .of (fun _ => trivial) fun _ _ => rfl
  · exact fun _ _ _ => .of (fun _ => nofun) fun _ _ => rfl

end Contract

section Mine
variable {k : String}

def Ends {α : Type} (P : Phase → α → Prop) (l : Phase) (r : Except Exn α) : Prop :=
  l ≠ .evicting ∧ ∀ a, r = .ok a → P l a

def Over {α : Type} : Phase → Except Exn α → Prop := Ends fun _ _ => True

theorem Ends.raised {α β : Type} {P : Phase → α → Prop} {Q : Phase → β → Prop} (l : Phase) (e : Exn)
    (h : Ends P l (.error e)) : Ends Q l (.error e) := ⟨h.1,nofun⟩

theorem Ends.over {α β : Type} {P : Phase → α → Prop} {l : Phase} {r : Except Exn α} (h : Ends P l r)
    (r' : Except Exn β) : Over l r' := ⟨h.1,fun _ _ => trivial⟩

theorem keeps_guarded {p : Act Unit} {l : Phase} (hp : Keeps (claimContract k true) Over l p) :
    Keeps (claimContract k true) Over l (guarded p) := by
  refine hp.tryCatch (fun _ _ h => h) fun l' e h => ?_
  split <;> exact h.over _

theorem keeps_releaseClaim : Keeps (claimContract k true) Over .holding (releaseClaim k) := by
  apply keeps_guarded
  simp only [store,Prog.call,keeps_act,keeps_finish]
  refine ⟨⟨by simp,fun _ => .inr rfl⟩,fun r _ => ?_⟩
  simp [Over,Ends,storeNext,Phase.afterDelete]

theorem keeps_failClaim (error : String) : Keeps (claimContract k true) Over .ran (failClaim k error) := by
  apply keeps_guarded
  simp only [store,Prog.call,keeps_bind,keeps_act,keeps_finish]
  refine ⟨⟨by simp,fun _ => rfl⟩,fun r _ => ?_⟩
  cases r <;> simp [Over,Ends,storeNext]

def Won (l : Phase) (out : Option EnforcementResult) : Prop := out = none → l = .holding

theorem keeps_claimAbsent : Keeps (claimContract k true) (Ends Won) .cleared (claimAbsent k) := by
  have clock : Uses (Aside k true) (env .nowIso) := uses_env.mpr (aside_bookkeeping trivial)
  refine (keeps_aside clock .cleared nofun).bind ?_ ?_
  · rintro _ ts rfl
    simp only [store,Prog.call,keeps_bind,keeps_act,keeps_finish]
    refine ⟨⟨by simp,fun _ => ⟨rfl,rfl⟩⟩,fun won _ => ?_⟩
    rcases won with e | won
    · simp [Ends,storeNext,Phase.afterPut]
    cases won with
    | true => simp [Ends,Won,storeNext,Phase.afterPut]
    | false =>
      simp only [claimContract_next_store,storeNext,Phase.afterPut,if_true,Prog.andThen_ok,
        Bool.false_eq_true,if_false,keeps_bind,keeps_act,keeps_finish]
      refine ⟨⟨by simp,fun _ => .inr rfl⟩,fun stored _ => ?_⟩
      rcases stored with e | stored
      · simp [Ends,Phase.afterGet]
      cases stored with
      | none => simp [Ends,Won,Phase.afterGet]
      | some row =>
        simp only [Phase.afterGet,Prog.andThen_ok,keeps_bind,keeps_finish]
        rcases settledOutcome row k with e | out
        · simp [Ends]
        · cases out <;> simp [Ends,Won]
  · rintro _ e rfl
    simp [Ends]

theorem keeps_claim : Keeps (claimContract k true) (Ends Won) .start (claim k) := by
  simp only [claim,store,Prog.call,keeps_bind,keeps_act,keeps_finish]
  refine ⟨⟨by simp,fun _ => .inl rfl⟩,fun stored _ => ?_⟩
  rcases stored with e | stored
  · simp [Ends,storeNext,Phase.afterGet]
  cases stored with
  | none =>
    simp only [claimContract_next_store,storeNext,if_true,Phase.afterGet]
    exact keeps_claimAbsent
  | some row =>
    simp only [claimContract_next_store,storeNext,if_true,Phase.afterGet,Prog.andThen_ok,keeps_bind,keeps_finish]
    have hlegacy : settledOutcome row k = .ok none ↔ legacy row = true := settledOutcome_eq_none
    rcases hrow : settledOutcome row k with e | out
    · have : legacy row = false := by simpa [hrow] using hlegacy
      simp [Ends,this]
    cases out with
    | some out =>
      have : legacy row = false := by simpa [hrow] using hlegacy
      simp [Ends,Won,this]
    | none =>
      simp only [hlegacy.mp hrow,if_true,Prog.andThen_ok,keeps_bind,keeps_act,keeps_finish]
      refine ⟨⟨fun _ => rfl,fun _ => .inl rfl⟩,fun deleted _ => ?_⟩
      cases deleted with
      | error e => simp [Ends,storeNext,Phase.afterDelete]
      | ok _ =>
        simp only [claimContract_next_store,storeNext,if_true,Phase.afterDelete]
        exact keeps_claimAbsent

theorem keeps_prepareOrRelease (q : Request) (hasExecutor : Bool) :
    Keeps (claimContract k true) (Ends fun l _ => l = .holding) .holding
      (prepareOrRelease q (callbacks hasExecutor) (some k)) := by
  refine (keeps_aside (aside_prepare q hasExecutor) .holding nofun).tryCatch ?_ ?_
  · rintro _ a rfl
    exact ⟨nofun,fun _ _ => rfl⟩
  · rintro _ e rfl
    exact keeps_releaseClaim.bind (fun _ _ h => ⟨h.1,nofun⟩) Ends.raised

theorem keeps_sagaFailure (q : Request) (entryId : String) (e : Exn) :
    Keeps (claimContract k true) (Ends fun l _ => l.Live) .ran (sagaFailure q (some k) entryId e) := by
  refine (keeps_aside ((uses_markLedger q entryId e.str).mono fun _ => aside_bookkeeping) .ran nofun).bind ?_ ?_
  · rintro _ _ rfl
    exact (keeps_failClaim e.str).bind (fun _ _ h => ⟨h.1,nofun⟩) Ends.raised
  · rintro _ _ rfl
    exact ⟨nofun,nofun⟩

theorem keeps_runExecutor_holding (q : Request) (hasExecutor : Bool) (entryId : String) (effective : Decision) :
    Keeps (claimContract k true) (Ends fun l _ => l.Live) .holding
      (runExecutor q (callbacks hasExecutor) (some k) entryId effective) := by
  cases hasExecutor with
  | false => exact ⟨nofun,fun _ _ => .inl rfl⟩
  | true =>
    simp only [runExecutor,callbacks,if_true,env,Prog.call,keeps_tryCatch,keeps_act,keeps_finish]
    refine ⟨⟨by simp,fun _ => rfl⟩,fun r _ => ?_⟩
    cases r with
    | ok result => exact ⟨by simp [envNext],fun _ _ => .inr rfl⟩
    | error e =>
      simp only [Prog.orElse_error,claimContract_next_env,envNext,if_true]
      split
      · exact keeps_sagaFailure q entryId e
      · exact ⟨by simp,by simp⟩

def Settleable (effective : Decision) (l : Phase) : Prop := if effective.executes then l.Live else l = .holding

theorem Settleable.ne_evicting {effective : Decision} {l : Phase} (h : Settleable effective l) : l ≠ .evicting := by
  rintro rfl
  cases he : effective.executes <;> simp [Settleable,he,Phase.Live] at h

theorem keeps_commit_return (entryId : String) (result : ConnectorResult) {effective : Decision} {l : Phase}
    (hl : Settleable effective l) :
    Keeps (claimContract k true) (Ends fun l' _ => Settleable effective l') l
      (do commit entryId; return result) := by
  have quiet : Uses (Aside k true) (do commit entryId; return result) :=
    .bind ((uses_commit entryId).mono fun _ => aside_bookkeeping) fun _ => trivial
  refine keeps_mono ?_ (keeps_aside quiet l hl.ne_evicting)
  rintro _ r rfl
  exact ⟨hl.ne_evicting,fun _ _ => hl⟩

theorem keeps_executeStep (q : Request) (hasExecutor : Bool) (entryId : String) (effective : Decision) :
    Keeps (claimContract k true) (Ends fun l _ => Settleable effective l) .holding
      (executeStep q (callbacks hasExecutor) (some k) entryId effective) := by
  have run := fun d => keeps_runExecutor_holding q hasExecutor entryId d (k := k)
  cases effective with
  | allow => exact (run _).bind (fun l result hl => keeps_commit_return _ _ (hl.2 _ rfl)) Ends.raised
  | transform op args => exact (run _).bind (fun l result hl => keeps_commit_return _ _ (hl.2 _ rfl)) Ends.raised
  | requireApproval r reason => exact ⟨nofun,fun _ _ => rfl⟩
  | deny reason => exact keeps_commit_return _ _ rfl
  | abstain escalate reason => exact keeps_commit_return _ _ rfl

theorem keeps_settleClaim {effective : Decision} (result : ConnectorResult) {l : Phase}
    (hl : Settleable effective l) :
    Keeps (claimContract k true) Over l (settleClaim (some k) effective result) := by
  have hne := hl.ne_evicting
  unfold Settleable at hl
  unfold settleClaim
  split at hl
  · next he =>
    simp only [he,if_true,keeps_bind,keeps_finish]
    cases resultJson result with
    | error e => exact ⟨hne,error_ne_ok e⟩
    | ok json =>
      simp only [Prog.andThen_ok,completeClaim,store,Prog.call,keeps_bind,keeps_act,keeps_finish]
      refine ⟨⟨(absurd · hne),fun _ => ⟨hl,effective,rfl,he⟩⟩,fun r _ => ?_⟩
      cases r <;> simp [Over,Ends,storeNext]
  · next he =>
    simp only [he,Bool.false_eq_true,if_false,hl]
    exact keeps_releaseClaim

theorem keeps_enforceClaimed_holding (q : Request) (hasExecutor : Bool) :
    Keeps (claimContract k true) Over .holding (enforceClaimed q (callbacks hasExecutor) (some k)) := by
  refine (keeps_prepareOrRelease q hasExecutor).bind (fun l prepared hl => ?_) Ends.raised
  obtain rfl := hl.2 prepared rfl
  refine (keeps_executeStep q hasExecutor prepared.2 prepared.1).bind (fun l result hl => ?_) Ends.raised
  exact (keeps_settleClaim result (hl.2 result rfl)).bind (fun _ _ h => h.over _) Ends.raised

end Mine

def mineOf (k : String) (p : Caller) : Bool := p.request.idempotencyKey = some k

def phaseAtEntry (k : String) (p : Caller) : Phase := if mineOf k p then .start else .settled

theorem phaseAtEntry_idle (k : String) (p : Caller) : ¬ (phaseAtEntry k p).Live ∧ phaseAtEntry k p ≠ .evicting := by
  unfold phaseAtEntry
  split <;> simp [Phase.Live]

theorem keeps_program (k : String) (p : Caller) :
    Keeps (claimContract k (mineOf k p)) Over (phaseAtEntry k p) p.program := by
  by_cases h : p.request.idempotencyKey = some k
  · simp only [mineOf,phaseAtEntry,Caller.program,enforce,h,decide_true,if_true]
    refine keeps_claim.bind (fun l out hl => ?_) Ends.raised
    cases out with
    | some settled => exact hl.over _
    | none =>
      obtain rfl := hl.2 none rfl rfl
      exact keeps_enforceClaimed_holding p.request p.hasExecutor
  · simp only [mineOf,phaseAtEntry,Caller.program,h,decide_false,Bool.false_eq_true,if_false]
    refine keeps_mono ?_ (keeps_aside (aside_enforce p.request p.hasExecutor h) .settled nofun)
    rintro _ r rfl
    exact ⟨nofun,fun _ _ => trivial⟩

end Enforcement

end SafeAgents
