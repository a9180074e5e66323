import SafeAgents.Enforcement.ClaimInvariant

namespace SafeAgents

open Interleaving

namespace Enforcement

section Permanent
variable {ι : Type} [DecidableEq ι] {B : Substrate} {callers : ι → Caller} {k : String} {free : Prop}
  {G : Guard ι Op Op.Ret Exn State EnforcementResult} {record : IdempotencyRecord}

structure Settled (free : Prop) (callers : ι → Caller) (k : String) (record : IdempotencyRecord) (s : State)
    (l : ι → Phase) (tr : Trace ι) : Prop where
  claims : ClaimsHold free callers k s l tr
  row : row s k = some record

theorem settled_preserved (hG : free ∨ ∀ c e c', G c e c' → noClaimDuringEviction k c e c')
    (hs : record.status ≠ .inFlight) (hclean : legacy record = false) :
    Preserved B.device G (contracts k callers) (fun _ => Over) (Settled free callers k record) where
  heard _ _ _ _ _ _ _ _ _ := trivial
  next c l tr i o f x hth hg hk hi hmay := by
    refine ⟨claims_step hG hg hk hi.claims hmay,?_⟩
    have hm := moves_perform (B := B) (s := c.state) o x hmay
    have hclaims := hi.claims
    rw [ClaimsHold,hi.row] at hclaims
    rw [hi.row] at hm
    exact hclaims.row_permanent hm hs hclean

theorem row_permanent {c c' : Pool ι} {l : ι → Phase} {tr tr' : Trace ι}
    (hG : free ∨ ∀ c e c', G c e c' → noClaimDuringEviction k c e c')
    (hk : KeepsAll (contracts k callers) (fun _ => Over) l c.threads) (hi : ClaimsHold free callers k c.state l tr)
    (hrow : row c.state k = some record) (hs : record.status ≠ .inFlight) (hclean : legacy record = false)
    (h : Run B.device G c tr' c') : row c'.state k = some record := by
  obtain ⟨l',-,hi'⟩ := h.invariant (settled_preserved hG hs hclean) hk (⟨hi,hrow⟩ : Settled free callers k record _ l tr)
  exact hi'.row

def Records (k : String) (s : State) (d : Text Decision) (res : Option (Text Json)) : Prop :=
  ∃ record, row s k = some record ∧ record.status = .executed ∧ record.decisionJson = d ∧
    record.resultJson = res ∧ legacy record = false

def Commits (k : String) (d : Text Decision) (res : Option (Text Json)) (tr : Trace ι) : Prop :=
  ∃ i, (⟨i,.store (.completeIdempotency k d res),.ok true⟩ : Event ι Op Op.Ret Exn) ∈ tr

structure Recorded (free : Prop) (callers : ι → Caller) (k : String) (s : State) (l : ι → Phase) (tr : Trace ι) :
    Prop where
  claims : ClaimsHold free callers k s l tr
  recorded : ∀ d res, Commits k d res tr → Records k s d res

theorem complete_records {s : State} {d : Decision} {res : Option (Text Json)} (he : d.executes = true)
    (x : Delivery) (h : (B.perform (.store (.completeIdempotency k (.json d) res)) x s).1 = .ok true) :
    Records k (B.perform (.store (.completeIdempotency k (.json d) res)) x s).2 (.json d) res := by
  cases x with
  | fault e => cases h
  | lost e => cases h
  | answered =>
    simp only [Substrate.perform,Delivery.receive,StoreOp.apply,StoreOp.settle] at h ⊢
    split at h
    · next record hrow =>
      split at h
      · next hflight =>
        simp only [hflight,if_true,Records,row,EnforcementState.setIdempotency,Function.update_self]
        exact ⟨_,rfl,rfl,rfl,rfl,legacy_of_executes rfl he⟩
      · cases h
    · cases h

theorem recorded_preserved (hG : free ∨ ∀ c e c', G c e c' → noClaimDuringEviction k c e c') :
    Preserved B.device G (contracts k callers) (fun _ => Over) (Recorded free callers k) where
  heard _ _ _ _ _ _ _ _ _ := trivial
  next c l tr i o f x hth hg hk hi hmay := by
    refine ⟨claims_step hG hg hk hi.claims hmay,fun d res ⟨j,hmem⟩ => ?_⟩
    rcases List.mem_append.mp hmem with hold | hnew
    · obtain ⟨record,hrow,hs,hd,hres,hclean⟩ := hi.recorded d res ⟨j,hold⟩
      have hm := moves_perform (B := B) (s := c.state) o x hmay
      have hclaims := hi.claims
      rw [ClaimsHold,hrow] at hclaims
      rw [hrow] at hm
      exact ⟨record,hclaims.row_permanent hm (by simp [hs]) hclean,hs,hd,hres,hclean⟩
    · have heq := List.mem_singleton.mp hnew
      injection heq with hj ho hreply
      subst ho
      obtain ⟨-,decision,rfl,he⟩ := hmay.2 rfl
      exact complete_records he x (eq_of_heq hreply).symm

end Permanent

def replay (record : IdempotencyRecord) : Except Exn EnforcementResult :=
  match record.decision with
  | .error e => .error e
  | .ok decision =>
    match record.result with
    | .error e => .error e
    | .ok result => .ok { decision, idempotent := true, ledgerEntryId := none, result }

theorem settledOutcome_replay {record : IdempotencyRecord} {key : String} (hs : record.status = .executed)
    (hclean : legacy record = false) : settledOutcome record key = (replay record).map some := by
  unfold settledOutcome replay
  simp only [hs]
  cases hd : record.decision with
  | error e => rfl
  | ok d =>
    have he : d.executes = true := by simpa [legacy,hs,hd] using hclean
    simp only [he,if_true]
    cases record.result <;> rfl

theorem program_reads_first {p : Caller} {k : String} (h : p.request.idempotencyKey = some k) :
    ∃ f, p.program = .act (.store (.getIdempotency k)) f ∧ (∀ e, f (.error e) = .raise e) ∧
      ∀ record, record.status = .executed → legacy record = false →
        f (.ok (some record)) = .finish (replay record) := by
  refine ⟨_,by simp only [Caller.program,enforce,h]; rfl,fun e => rfl,fun record hs hclean => ?_⟩
  simp only [Prog.finish,Prog.attempt,Prog.andThen_ok]
  rw [settledOutcome_replay hs hclean]
  cases replay record <;> rfl

section Later
variable {ι : Type} {B : Substrate} {callers : ι → Caller} {k : String}
  {G : Guard ι Op Op.Ret Exn State EnforcementResult} {record : IdempotencyRecord}

def Replays (callers : ι → Caller) (k : String) (record : IdempotencyRecord) (i : ι) (p : Act EnforcementResult)
    (tr : Trace ι) : Prop :=
  p = (callers i).program ∨ p = .finish (replay record) ∨
    ∃ e, p = .raise e ∧ (⟨i,.store (.getIdempotency k),.error e⟩ : Event ι Op Op.Ret Exn) ∈ tr

theorem Replays.outcome {i : ι} {p : Act EnforcementResult} {tr : Trace ι} {out : Except Exn EnforcementResult}
    (hi : (callers i).request.idempotencyKey = some k) (h : Replays callers k record i p tr)
    (hout : p.outcome = some out) :
    out = replay record ∨
      ∃ e, out = .error e ∧ (⟨i,.store (.getIdempotency k),.error e⟩ : Event ι Op Op.Ret Exn) ∈ tr := by
  rcases h with rfl | rfl | ⟨e,rfl,hmem⟩
  · obtain ⟨f,hprog,-⟩ := program_reads_first hi
    simp [hprog,Prog.outcome] at hout
  · left
    cases hrep : replay record <;> simpa [hrep,Prog.finish,Prog.outcome] using hout.symm
  · exact .inr ⟨e,by simpa [Prog.outcome] using hout.symm,hmem⟩

variable [DecidableEq ι]

theorem replays_step {c c' : Pool ι} {e : Event ι Op Op.Ret Exn} {tr : Trace ι} {i : ι}
    (hi : (callers i).request.idempotencyKey = some k) (hrow : row c.state k = some record)
    (hs : record.status = .executed) (hclean : legacy record = false) (h : Step B.device c e c')
    (hr : Replays callers k record i (c.threads i) tr) :
    Replays callers k record i (c'.threads i) (tr ++ [e]) ∧ (e.thread = i → isExecutor e.op = false) := by
  obtain ⟨f,hprog,herror,hreplay⟩ := program_reads_first hi
  cases h with
  | act j o g x hth =>
    by_cases hj : j = i
    · subst hj
      rcases hr with hr | hr | ⟨_,hr,-⟩
      · rw [hr,hprog] at hth
        cases hth
        refine ⟨?_,fun _ => rfl⟩
        simp only [Config.advance_threads,Function.update_self]
        cases x with
        | answered =>
          refine .inr (.inl ?_)
          have hreply : (B.device.perform (.store (.getIdempotency k)) .answered c.state).1 = .ok (some record) :=
            congrArg Except.ok hrow
          rw [hreply]
          exact hreplay record hs hclean
        | fault e => exact .inr (.inr ⟨e,herror e,List.mem_append_right _ (List.mem_singleton.mpr rfl)⟩)
        | lost e => exact .inr (.inr ⟨e,herror e,List.mem_append_right _ (List.mem_singleton.mpr rfl)⟩)
      · rw [hr] at hth
        cases hrep : replay record <;> simp [hrep,Prog.finish] at hth
      · rw [hr] at hth
        cases hth
    · refine ⟨?_,fun h => absurd h hj⟩
      have hi' : i ≠ j := fun h => hj h.symm
      simp only [Config.advance_threads,Function.update_of_ne hi']
      rcases hr with hr | hr | ⟨e,hr,hmem⟩
      · exact .inl hr
      · exact .inr (.inl hr)
      · exact .inr (.inr ⟨e,hr,List.mem_append_left _ hmem⟩)

theorem replays_run {c c' : Pool ι} {tr tr' : Trace ι} {l : ι → Phase} {free : Prop} {i : ι}
    (hG : free ∨ ∀ c e c', G c e c' → noClaimDuringEviction k c e c')
    (hk : KeepsAll (contracts k callers) (fun _ => Over) l c.threads) (hinv : ClaimsHold free callers k c.state l tr)
    (hrow : row c.state k = some record) (hs : record.status = .executed) (hclean : legacy record = false)
    (hi : (callers i).request.idempotencyKey = some k) (hstart : c.threads i = (callers i).program)
    (h : Run B.device G c tr' c') :
    Replays callers k record i (c'.threads i) tr' ∧ ∀ e ∈ tr', e.thread = i → isExecutor e.op = false := by
  induction h with
  | refl => exact ⟨.inl hstart,by simp⟩
  | step hrun hstep _ ih =>
    obtain ⟨hr,hquiet⟩ := ih
    have hrow' := row_permanent hG hk hinv hrow (by simp [hs]) hclean hrun
    obtain ⟨hr',hnew⟩ := replays_step hi hrow' hs hclean hstep hr
    refine ⟨hr',fun e he => ?_⟩
    rcases List.mem_append.mp he with hold | hlast
    · exact hquiet e hold
    · rwa [List.mem_singleton.mp hlast]

end Later

theorem enforce_exactly_once {ι : Type} [DecidableEq ι] (B : Substrate) (callers : ι → Caller) (s : State)
    (k : String) (hstart : ∀ record, row s k = some record → legacy record = false) {tr : Trace ι} {c : Pool ι}
    (h : Run B.device anyStep (startPool callers s) tr c) :
    runsFor callers k tr ≤ 1 ∧
      (∀ d res, Commits k d res tr → Records k c.state d res) ∧
      ∀ record, row c.state k = some record → record.status = .executed →
        ∀ tr' c', Run B.device anyStep c tr' c' →
          row c'.state k = some record ∧
          ∀ i, (callers i).request.idempotencyKey = some k → c.threads i = (callers i).program →
            (∀ e ∈ tr', e.thread = i → isExecutor e.op = false) ∧
            ∀ out, (c'.threads i).outcome = some out →
              out = replay record ∨ ∃ e, out = .error e ∧
                (⟨i,.store (.getIdempotency k),.error e⟩ : Event ι Op Op.Ret Exn) ∈ tr' := by
  have hfree : True → ∀ record, row s k = some record → legacy record = false := fun _ => hstart
  have hG : True ∨ ∀ (c : Pool ι) e c', anyStep c e c' → noClaimDuringEviction k c e c' := .inl trivial
  obtain ⟨hk,hi⟩ := claims_start callers s hfree
  obtain ⟨l,hk',hi'⟩ := h.invariant (recorded_preserved hG) hk ⟨hi,fun d res ⟨_,hmem⟩ => by cases hmem⟩
  simp only [List.nil_append] at hi'
  refine ⟨hi'.claims.once,hi'.recorded,fun record hrow hs tr' c' h' => ?_⟩
  have hclean := (hi'.claims.clean trivial).1 record hrow
  refine ⟨row_permanent hG hk' hi'.claims hrow (by simp [hs]) hclean h',fun i hkey hfresh => ?_⟩
  obtain ⟨hr,hquiet⟩ := replays_run hG hk' hi'.claims hrow hs hclean hkey hfresh h'
  exact ⟨hquiet,fun out hout => hr.outcome hkey hout⟩

def ledgerCall : BrokeredCall where
  principal := ⟨"agent","skill","owner",.B⟩
  tool := "payments"
  op := "transfer"
  args := .obj [("amount",.num "5")]
  manifest := { tool := "payments", op := "transfer", effect := .write, external := true, reversible := some true }
  taint := ⟨false,[]⟩
  session := ⟨"turn-1",[]⟩
  ts := "1970-01-01T00:00:00+00:00"

def keyedCaller (key : Option String) : Caller where
  request := {
    call := ledgerCall
    initialDecision := .allow
    idempotencyKey := key
    counterKey := "calls"
    counterDelta := 1
    counterCap := 10 }

def pairOfCallers : Bool → Caller := fun _ => keyedCaller (some "k")

def executedOnce : Trace Bool × Pool Bool := play memory.device (turns true 13) (startPool pairOfCallers emptyState)

def replayedAfter : Trace Bool × Pool Bool := play memory.device (turns false 13) executedOnce.2

theorem enforce_exactly_once_two_callers :
    ∃ record, row executedOnce.2.state "k" = some record ∧ record.status = .executed ∧
      runsFor pairOfCallers "k" executedOnce.1 = 1 ∧ (replayedAfter.2.threads false).outcome.isSome = true ∧
      (∀ e ∈ replayedAfter.1, e.thread = false → isExecutor e.op = false) ∧
      row replayedAfter.2.state "k" = some record := by
  have first := play_run (turns true 13) (startPool pairOfCallers emptyState)
  have second := play_run (turns false 13) executedOnce.2
  have main := enforce_exactly_once memory pairOfCallers emptyState "k" nofun first
  have hexecuted : (row executedOnce.2.state "k").map IdempotencyRecord.status = some .executed := by decide +kernel
  obtain ⟨record,hrow,hs⟩ := Option.map_eq_some_iff.mp hexecuted
  obtain ⟨hpermanent,hreplays⟩ := main.2.2 record hrow hs _ _ second
  refine ⟨record,hrow,hs,by decide +kernel,by decide +kernel,(hreplays false rfl ?_).1,hpermanent⟩
  exact play_unscheduled _ _ (by simp [turns])

end Enforcement

end SafeAgents
