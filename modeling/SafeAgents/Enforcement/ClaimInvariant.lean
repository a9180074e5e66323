import SafeAgents.Enforcement.Claim

namespace SafeAgents

open Interleaving

namespace Enforcement

abbrev Pool (ι : Type) := Config ι Op Op.Ret Exn State EnforcementResult

abbrev Trace (ι : Type) := List (Event ι Op Op.Ret Exn)

def row (s : State) (k : String) : Option IdempotencyRecord := s.enforcement.idempotency k

def startPool {ι : Type} (callers : ι → Caller) (s : State) : Pool ι := ⟨s,fun i => (callers i).program⟩

def isExecutor : Op → Bool
  | .env (.executor _ _) => true
  | _ => false

def runsFor {ι : Type} (callers : ι → Caller) (k : String) (tr : Trace ι) : Nat :=
  tr.countP fun e => mineOf k (callers e.thread) && isExecutor e.op

inductive Moves : Option IdempotencyRecord → Phase → Option IdempotencyRecord → Phase → Bool → Prop
  | quiet (r : Option IdempotencyRecord) (l : Phase) : Moves r l r l false
  | concluded (r : Option IdempotencyRecord) (l : Phase) : Moves r l r .settled false
  | absent : Moves none .start none .cleared false
  | spotted (r : IdempotencyRecord) (h : legacy r = true) : Moves (some r) .start (some r) .evicting false
  | claimed (r : IdempotencyRecord) (l : Phase) (h : r.status = .inFlight) (hl : l = .holding ∨ l = .settled) :
      Moves none .cleared (some r) l false
  | ran (r : Option IdempotencyRecord) : Moves r .holding r .ran true
  | settled (r r' : IdempotencyRecord) (l : Phase) (hl : l.Live) (h : r.status = .inFlight)
      (h' : legacy r' = false) : Moves (some r) l (some r') .settled false
  | evicted (r : Option IdempotencyRecord) (l : Phase) (hl : l = .cleared ∨ l = .settled) :
      Moves r .evicting none l false
  | released (r : Option IdempotencyRecord) : Moves r .holding none .settled false

section Steps
variable {k : String} {mine : Bool} {B : Substrate} {s : State} {l : Phase}

theorem legacy_of_status {r : IdempotencyRecord} (h : r.status ≠ .executed) : legacy r = false := by
  simp [legacy,h]

theorem legacy_of_executes {r : IdempotencyRecord} {d : Decision} (hd : r.decisionJson = .json d)
    (he : d.executes = true) : legacy r = false := by
  simp [legacy,IdempotencyRecord.decision,hd,he]

theorem moves_get {b : Backend} {es : EnforcementState} {key : String} (d : Delivery)
    (h : storeMay k l (.getIdempotency key)) :
    Moves (es.idempotency k) l
      ((d.receive (StoreOp.apply b (.getIdempotency key) es) es).2.idempotency k)
      (storeNext k l (.getIdempotency key) (d.receive (StoreOp.apply b (.getIdempotency key) es) es).1) false := by
  have hs : (d.receive (StoreOp.apply b (.getIdempotency key) es) es).2 = es := by cases d <;> rfl
  rw [hs]
  by_cases hk : key = k
  · subst hk
    simp only [storeNext,if_true]
    rcases h rfl with rfl | rfl
    · cases d with
      | fault e => exact .concluded _ _
      | lost e => exact .concluded _ _
      | answered =>
        simp only [Delivery.receive,StoreOp.apply]
        cases hr : es.idempotency key with
        | none => exact .absent
        | some r =>
          cases hl : legacy r with
          | true => simpa [Phase.afterGet,hl] using Moves.spotted r hl
          | false => simpa [Phase.afterGet,hl] using Moves.concluded (some r) .start
    · exact .quiet _ _
  · simp only [storeNext,hk,if_false]
    exact .quiet _ _

theorem moves_put {b : Backend} {es : EnforcementState} {record : IdempotencyRecord} (d : Delivery)
    (h : storeMay k l (.putIdempotencyIfAbsent record)) :
    Moves (es.idempotency k) l
      ((d.receive (StoreOp.apply b (.putIdempotencyIfAbsent record) es) es).2.idempotency k)
      (storeNext k l (.putIdempotencyIfAbsent record)
        (d.receive (StoreOp.apply b (.putIdempotencyIfAbsent record) es) es).1) false := by
  by_cases hk : record.key = k
  · obtain ⟨rfl,hflight⟩ := h hk
    subst hk
    cases hr : es.idempotency record.key with
    | none =>
      cases d with
      | answered => simpa [storeNext,Delivery.receive,StoreOp.apply,hr,EnforcementState.setIdempotency,
          Phase.afterPut] using Moves.claimed record .holding hflight (.inl rfl)
      | fault e => simpa [storeNext,Delivery.receive,hr,Phase.afterPut] using Moves.concluded none .cleared
      | lost e => simpa [storeNext,Delivery.receive,StoreOp.apply,hr,EnforcementState.setIdempotency,
          Phase.afterPut] using Moves.claimed record .settled hflight (.inr rfl)
    | some r =>
      have refused := Moves.concluded (some r) .cleared
      cases d <;> simpa [storeNext,Delivery.receive,StoreOp.apply,hr,Phase.afterPut] using refused
  · have hs : (d.receive (StoreOp.apply b (.putIdempotencyIfAbsent record) es) es).2.idempotency k =
        es.idempotency k := by
      have hk' : k ≠ record.key := fun h => hk h.symm
      cases hr : es.idempotency record.key <;> cases d <;>
        simp [Delivery.receive,StoreOp.apply,hr,EnforcementState.setIdempotency,hk']
    rw [hs]
    simp only [storeNext,hk,if_false]
    exact .quiet _ _

theorem moves_delete {b : Backend} {es : EnforcementState} {key : String} (d : Delivery)
    (h : storeMay k l (.deleteIdempotency key)) :
    Moves (es.idempotency k) l
      ((d.receive (StoreOp.apply b (.deleteIdempotency key) es) es).2.idempotency k)
      (storeNext k l (.deleteIdempotency key)
        (d.receive (StoreOp.apply b (.deleteIdempotency key) es) es).1) false := by
  by_cases hk : key = k
  · subst hk
    simp only [storeNext,if_true]
    rcases h rfl with rfl | rfl
    · cases d with
      | answered => simpa [Delivery.receive,StoreOp.apply,EnforcementState.setIdempotency,Phase.afterDelete]
          using Moves.evicted (es.idempotency key) .cleared (.inl rfl)
      | fault e => exact .concluded _ _
      | lost e => simpa [Delivery.receive,StoreOp.apply,EnforcementState.setIdempotency,Phase.afterDelete]
          using Moves.evicted (es.idempotency key) .settled (.inr rfl)
    · have released := Moves.released (es.idempotency key)
      cases d with
      | fault e => exact .concluded _ _
      | answered => simpa [Delivery.receive,StoreOp.apply,EnforcementState.setIdempotency,Phase.afterDelete]
          using released
      | lost e => simpa [Delivery.receive,StoreOp.apply,EnforcementState.setIdempotency,Phase.afterDelete]
          using released
  · have hk' : k ≠ key := fun h => hk h.symm
    have hs : (d.receive (StoreOp.apply b (.deleteIdempotency key) es) es).2.idempotency k =
        es.idempotency k := by
      cases d <;> simp [Delivery.receive,StoreOp.apply,EnforcementState.setIdempotency,hk']
    rw [hs]
    simp only [storeNext,hk,if_false]
    exact .quiet _ _

theorem moves_settle {es : EnforcementState} {key : String} {f : IdempotencyRecord → IdempotencyRecord}
    {l' : Phase} (d : Delivery) (hl : key = k → l.Live ∧ ∀ r, legacy (f r) = false)
    (hl' : l' = if key = k then .settled else l) :
    Moves (es.idempotency k) l ((d.receive (StoreOp.settle es key f) es).2.idempotency k) l' false := by
  subst hl'
  by_cases hk : key = k
  · subst hk
    obtain ⟨live,clean⟩ := hl rfl
    simp only [if_true]
    cases hr : es.idempotency key with
    | none => cases d <;> simpa [Delivery.receive,StoreOp.settle,hr] using Moves.concluded none l
    | some r =>
      by_cases hflight : r.status = .inFlight
      · have settled := Moves.settled r (f r) l live hflight (clean r)
        cases d with
        | fault e => simpa [Delivery.receive,hr] using Moves.concluded (some r) l
        | answered => simpa [Delivery.receive,StoreOp.settle,hr,hflight,EnforcementState.setIdempotency] using settled
        | lost e => simpa [Delivery.receive,StoreOp.settle,hr,hflight,EnforcementState.setIdempotency] using settled
      · cases d <;> simpa [Delivery.receive,StoreOp.settle,hr,hflight] using Moves.concluded (some r) l
  · have hk' : k ≠ key := fun h => hk h.symm
    have hs : (d.receive (StoreOp.settle es key f) es).2.idempotency k = es.idempotency k := by
      unfold StoreOp.settle
      split
      · split <;> cases d <;> simp [Delivery.receive,EnforcementState.setIdempotency,hk']
      · cases d <;> rfl
    rw [hs]
    simp only [hk,if_false]
    exact .quiet _ _

theorem moves_ledger {es : EnforcementState} {entryId : String} {f : LedgerEntry → LedgerEntry} (d : Delivery) :
    Moves (es.idempotency k) l ((d.receive (StoreOp.amendLedger es entryId f) es).2.idempotency k) l false := by
  have hs : (d.receive (StoreOp.amendLedger es entryId f) es).2.idempotency = es.idempotency :=
    d.receive_state (P := fun t : EnforcementState => t.idempotency = es.idempotency) rfl (StoreOp.amendLedger_idempotency _ _ _)
  rw [hs]
  exact .quiet _ _

theorem moves_store {b : Backend} {es : EnforcementState} (o : StoreOp) (d : Delivery) (h : storeMay k l o) :
    Moves (es.idempotency k) l ((d.receive (o.apply b es) es).2.idempotency k)
      (storeNext k l o (d.receive (o.apply b es) es).1) false := by
  cases o with
  | getIdempotency key => exact moves_get d h
  | putIdempotencyIfAbsent record => exact moves_put d h
  | deleteIdempotency key => exact moves_delete d h
  | completeIdempotency key decisionJson resultJson =>
    refine moves_settle d (fun hk => ⟨(h hk).1,fun r => ?_⟩) rfl
    obtain ⟨-,decision,hd,he⟩ := h hk
    exact legacy_of_executes hd he
  | failIdempotency key error =>
    exact moves_settle d (fun hk => ⟨.inr (h hk),fun r => legacy_of_status nofun⟩) rfl
  | tryIncrementCounter key delta cap => cases d <;> exact .quiet _ _
  | readCounter key => cases d <;> exact .quiet _ _
  | writeLedger entry => cases d <;> exact .quiet _ _
  | commitLedger entryId ts => exact moves_ledger d
  | compensateLedger entryId error => exact moves_ledger d
  | escalateLedger entryId error => exact moves_ledger d

theorem moves_perform (o : Op) (x : Substrate.Input o) (h : (claimContract k mine).may l o) :
    Moves (row s k) l (row (B.perform o x s).2 k) ((claimContract k mine).next l o (B.perform o x s).1)
      (mine && isExecutor o) := by
  cases o with
  | store o =>
    simp only [isExecutor,Bool.and_false]
    exact moves_store o x h.2
  | env o =>
    cases o with
    | executor call decision =>
      cases mine with
      | false => exact .quiet _ _
      | true =>
        have hl : l = .holding := h.2 rfl
        subst hl
        exact .ran _
    | _ =>
      simp only [isExecutor,Bool.and_false]
      exact .quiet _ _
  | _ =>
    simp only [isExecutor,Bool.and_false]
    exact .quiet _ _

end Steps

structure Claims (free : Prop) (r : Option IdempotencyRecord) {ι : Type} (l : ι → Phase) (runs : Nat) : Prop where
  unique : ∀ i j, (l i).Live → (l j).Live → i = j
  held : ∀ i, (l i).Live → ∃ record, r = some record ∧ record.status = .inFlight
  stale : ∀ i, l i = .evicting → ∀ record, r = some record → legacy record = true
  clean : free → (∀ record, r = some record → legacy record = false) ∧ ∀ i, l i ≠ .evicting
  once : runs ≤ 1
  spent : 0 < runs → (∃ record, r = some record ∧ legacy record = false) ∧ ∀ i, l i ≠ .holding

section Invariant
variable {ι : Type} {free : Prop} {r r' : Option IdempotencyRecord} {l : ι → Phase} {runs : Nat}
  {i : ι} {l' : Phase} {ran : Bool}

theorem Claims.not_evicting (h : Claims free r l runs) {j : ι} (hj : (l j).Live) (i : ι) : l i ≠ .evicting := by
  intro hi
  obtain ⟨record,hr,hflight⟩ := h.held j hj
  have hlegacy := h.stale i hi record hr
  rw [legacy_of_status (by simp [hflight])] at hlegacy
  cases hlegacy

theorem Claims.not_spent (h : Claims free r l runs) (hi : l i = .holding) : runs = 0 := by
  by_contra hne
  exact (h.spent (Nat.pos_of_ne_zero hne)).2 i hi

theorem Claims.row_of_spent (h : Claims free r l runs) (hr : 0 < runs) (i : ι) : l i ≠ .evicting := by
  intro hi
  obtain ⟨⟨record,hrow,hclean⟩,-⟩ := h.spent hr
  have hlegacy := h.stale i hi record hrow
  simp [hclean] at hlegacy

theorem Claims.row_permanent {record : IdempotencyRecord} (h : Claims free (some record) l runs)
    (hm : Moves (some record) (l i) r' l' ran) (hs : record.status ≠ .inFlight) (hclean : legacy record = false) :
    r' = some record := by
  have hdead : ∀ j, ¬ (l j).Live := fun j hj => by
    obtain ⟨_,hr,hflight⟩ := h.held j hj
    cases hr
    exact hs hflight
  have hidle : l i ≠ .evicting := fun hi => by simp [h.stale i hi record rfl] at hclean
  generalize hli : l i = li at hm
  cases hm with
  | quiet => rfl
  | concluded => rfl
  | spotted => rfl
  | ran => rfl
  | settled a b _ hl hflight _ => exact absurd hflight hs
  | evicted => exact absurd hli hidle
  | released => exact absurd (.inl hli) (hdead i)

theorem Claims.step [DecidableEq ι] (h : Claims free r l runs) (hm : Moves r (l i) r' l' ran)
    (hguard : free ∨ (r = none → r' ≠ none → ∀ j, j ≠ i → l j ≠ .evicting)) :
    Claims free r' (Function.update l i l') (runs + ran.toNat) := by
  generalize hli : l i = li at hm
  cases hm with
  | quiet =>
    rw [← hli,Function.update_eq_self]
    exact h
  | concluded =>
    obtain ⟨unique,held,stale,clean,once,spent⟩ := h
    constructor <;> grind [Function.update_apply,Phase.Live]
  | absent =>
    obtain ⟨unique,held,stale,clean,once,spent⟩ := h
    constructor <;> grind [Function.update_apply,Phase.Live]
  | spotted _ hlegacy =>
    obtain ⟨unique,held,stale,clean,once,spent⟩ := h
    constructor <;> grind [Function.update_apply,Phase.Live]
  | claimed record _ hflight hl =>
    -- Nobody was live, since the row was absent; the new row is no legacy row, so nobody may be evicting.
    have hdead : ∀ j, ¬ (l j).Live := fun j hj => by
      obtain ⟨_,hnone,-⟩ := h.held j hj
      cases hnone
    have hclean : legacy record = false := legacy_of_status (by simp [hflight])
    obtain ⟨unique,held,stale,clean,once,spent⟩ := h
    constructor <;> grind [Function.update_apply,Phase.Live]
  | ran =>
    -- The first run: the caller held the claim, so none came before it.
    have hzero := h.not_spent hli
    obtain ⟨record,hrow,hflight⟩ := h.held i (.inl hli)
    have hclean : legacy record = false := legacy_of_status (by simp [hflight])
    obtain ⟨unique,held,stale,clean,once,spent⟩ := h
    constructor <;> grind [Function.update_apply,Phase.Live]
  | settled a b _ hl hflight hb =>
    have hidle := h.not_evicting (hli ▸ hl)
    obtain ⟨unique,held,stale,clean,once,spent⟩ := h
    constructor <;> grind [Function.update_apply,Phase.Live]
  | evicted _ _ hl =>
    -- The row was a legacy row or absent: no claim is live and no run has happened.
    have hdead : ∀ j, ¬ (l j).Live := fun j hj => h.not_evicting hj i hli
    have hzero : ¬ 0 < runs := fun hr => h.row_of_spent hr i hli
    obtain ⟨unique,held,stale,clean,once,spent⟩ := h
    constructor <;> grind [Function.update_apply,Phase.Live]
  | released =>
    have hzero := h.not_spent hli
    have hidle := h.not_evicting (.inl hli)
    obtain ⟨unique,held,stale,clean,once,spent⟩ := h
    constructor <;> grind [Function.update_apply,Phase.Live]

end Invariant

def noClaimDuringEviction {ι : Type} (k : String) : Guard ι Op Op.Ret Exn State EnforcementResult :=
  fun c e c' => row c.state k = none → row c'.state k ≠ none →
    ∀ j, j ≠ e.thread → (c.threads j).head ≠ some (.store (.deleteIdempotency k))

theorem head_of_evicting {α : Type} {k : String} {mine : Bool} {p : Act α}
    (h : Keeps (claimContract k mine) Over .evicting p) : p.head = some (.store (.deleteIdempotency k)) := by
  cases p with
  | ret a => exact absurd rfl h.1
  | raise e => exact absurd rfl h.1
  | act o f => simp [Prog.head,h.1.1 rfl]

theorem runsFor_append {ι : Type} (callers : ι → Caller) (k : String) (tr tr' : Trace ι) :
    runsFor callers k (tr ++ tr') = runsFor callers k tr + runsFor callers k tr' := List.countP_append

theorem runsFor_singleton {ι : Type} (callers : ι → Caller) (k : String) (e : Event ι Op Op.Ret Exn) :
    runsFor callers k [e] = (mineOf k (callers e.thread) && isExecutor e.op).toNat := by
  cases h : mineOf k (callers e.thread) && isExecutor e.op <;> simp [runsFor,h]

section Runs
variable {ι : Type} {B : Substrate} {callers : ι → Caller} {k : String} {free : Prop}
  {G : Guard ι Op Op.Ret Exn State EnforcementResult}

def contracts (k : String) (callers : ι → Caller) (i : ι) : Contract Op Op.Ret Exn Phase :=
  claimContract k (mineOf k (callers i))

abbrev ClaimsHold (free : Prop) (callers : ι → Caller) (k : String) (s : State) (l : ι → Phase) (tr : Trace ι) : Prop :=
  Claims free (row s k) l (runsFor callers k tr)

theorem claims_start (callers : ι → Caller) (s : State) (hfree : free → ∀ record, row s k = some record → legacy record = false) :
    KeepsAll (contracts k callers) (fun _ => Over) (fun i => phaseAtEntry k (callers i)) (startPool callers s).threads ∧
      ClaimsHold free callers k s (fun i => phaseAtEntry k (callers i)) [] := by
  have hidle := fun i => phaseAtEntry_idle k (callers i)
  refine ⟨fun i => keeps_program k (callers i),?_⟩
  constructor
  · exact fun i j hi => absurd hi (hidle i).1
  · exact fun i hi => absurd hi (hidle i).1
  · exact fun i hi => absurd hi (hidle i).2
  · exact fun hf => ⟨hfree hf,fun i => (hidle i).2⟩
  · simp [runsFor]
  · simp [runsFor]

variable [DecidableEq ι]

theorem claims_step {c : Pool ι} {l : ι → Phase} {tr : Trace ι} {i : ι} {o : Op} {x : Substrate.Input o}
    {f : Except Exn o.Ret → Act EnforcementResult}
    (hG : free ∨ ∀ c e c', G c e c' → noClaimDuringEviction k c e c')
    (hg : G c ⟨i,o,(B.perform o x c.state).1⟩
      (c.advance i (f (B.perform o x c.state).1) (B.perform o x c.state).2))
    (hk : KeepsAll (contracts k callers) (fun _ => Over) l c.threads)
    (hi : ClaimsHold free callers k c.state l tr) (hmay : (contracts k callers i).may (l i) o) :
    ClaimsHold free callers k (B.perform o x c.state).2
      (Function.update l i ((contracts k callers i).next (l i) o (B.perform o x c.state).1))
      (tr ++ [⟨i,o,(B.perform o x c.state).1⟩]) := by
  rw [ClaimsHold,runsFor_append,runsFor_singleton]
  refine hi.step (moves_perform o x hmay) (hG.imp id fun hG => ?_)
  intro hnone hsome j hj hev
  have hkeeps := hk j
  rw [hev] at hkeeps
  exact hG _ _ _ hg hnone hsome j hj (head_of_evicting hkeeps)

end Runs

end Enforcement

end SafeAgents
