import SafeAgents.Approval.Rows
import SafeAgents.Runtime.Mediation

namespace SafeAgents

open Interleaving Enforcement

namespace Runtime

def Onward : Op → Prop
  | .intents (.transitionStatus _ _ new _ _) => new ≠ .pending
  | _ => True

theorem onward_of_routine {o : Op} (h : Routine o) : Onward o := by
  cases o with
  | intents o =>
    cases o with
    | transitionStatus intentId expected new approvedBy executedAt => exact h.elim
    | _ => trivial
  | _ => trivial

theorem onward_of_plain {o : Op} (h : Plain o) : Onward o := onward_of_routine (routine_of_plain h)

namespace BrokerRuntime
variable (R : BrokerRuntime) {P : Op → Prop}

section Footprint
variable (routine : ∀ o, Routine o → P o) (doer : ∀ path call effective, P (.env (.doer path call effective)))
include routine

theorem uses_surfacing (seam : String) {p : Act Approval.ExecutionResult} {onOk : Approval.ExecutionResult → Act Approval.ExecutionResult}
    (hp : Uses P p) (hok : ∀ result, Uses P (onOk result)) : Uses P (R.surfacing seam p onOk) := by
  refine .bind (.tryCatch (.bind hp fun _ => trivial) fun e => ?_) fun outcome => ?_
  · split <;> trivial
  · rcases outcome with ⟨intentId,reason⟩ | result
    · exact .bind (uses_emit.mpr (routine _ trivial)) fun _ => trivial
    · exact hok result

include doer

theorem uses_runDoer (path : ExecutionPath) (call : BrokeredCall) (effective : Decision) : Uses P (R.runDoer path call effective) :=
  .bind ((R.plain_writeInheritanceIfDeclared call effective).mono (routinely routine)) fun _ => uses_env.mpr (doer path call effective)

theorem uses_executor (ingests : ∀ ref source trusted, P (.process (.ingest ref source trusted))) (ref : TurnRef) (call : BrokeredCall)
    (effective : Decision) : Uses P (R.executor ref call effective) := by
  have inline : Uses P (R.runInline call effective) := by
    refine .tryCatch (R.uses_runDoer routine doer .inline call effective) fun e => ?_
    split
    · exact .bind (uses_emit.mpr (routine _ trivial)) fun _ => trivial
    · trivial
  refine .bind inline fun doerResult => .bind (uses_emit.mpr (routine _ trivial)) fun _ => ?_
  refine .bind (R.uses_afterRead (routinely routine) ingests ref call) fun _ => ?_
  refine .bind ((R.plain_meterErrorBudget call).mono (routinely routine)) fun _ => ?_
  exact .bind ((R.plain_countObservation call).mono (routinely routine)) fun _ => trivial

theorem uses_exec (intentId approvedBy : String) (storedCall : BrokeredCall) : Uses P (R.exec intentId approvedBy storedCall) := by
  have released (receipt : Receipt) (call : BrokeredCall) (effective : Decision) : Uses P (R.releaseExecutor receipt call effective) := by
    refine .bind (.tryCatch (R.uses_runDoer routine doer .release call effective) fun e => ?_) fun doerResult => ?_
    · split
      · refine .bind (uses_emit.mpr (routine _ trivial)) fun _ => ?_
        split <;> trivial
      · trivial
    · refine .bind (uses_emit.mpr (routine _ trivial)) fun _ => ?_
      exact .bind ((R.plain_countObservation call).mono (routinely routine)) fun _ => trivial
  have decides (call : BrokeredCall) (facts : Facts) : Uses P (gate R.approvedDecider call facts) := by
    refine uses_gate (routinely routine) (fun call facts => ?_) call facts
    refine .bind (uses_pure : Uses P (R.decide call facts)) fun decided => ?_
    cases decided <;> trivial
  refine .bind ((plain_counterKey _ _ _ _ _).mono (routinely routine)) fun key => ?_
  refine .bind ((R.plain_treeDraws _ _ _).mono (routinely routine)) fun draws => ?_
  refine .bind (uses_enforce _ ⟨fun _ h => routine _ (routine_of_bookkeeps h),fun _ _ _ => routine _ trivial,
    fun call => (R.plain_pip call).mono (routinely routine),decides,fun executor h call decision => ?_⟩) fun enforced => ?_
  · cases h
    exact released _ call decision
  · split
    · trivial
    · exact .bind (uses_emit.mpr (routine _ trivial)) fun _ => trivial

variable (moves : ∀ id expected new approvedBy executedAt, new ≠ .pending →
  P (.intents (.transitionStatus id expected new approvedBy executedAt)))
include moves

omit doer in
theorem uses_resolvePending (intentId actor : String) {new : IntentStatus} (hnew : new ≠ .pending) (now : Option Instant) (skew : Int)
    {onWin : Intent → Act Approval.ExecutionResult} (wins : ∀ intent, Uses P (onWin intent)) :
    Uses P (Approval.resolvePending intentId actor new now skew onWin) := by
  refine .bind ((plain_resolveNow now).mono (routinely routine)) fun evaluatedAt => ?_
  refine .bind (uses_intents.mpr (routine _ trivial)) fun found => ?_
  cases found with
  | none => trivial
  | some intent =>
    refine .bind uses_finish fun expired => ?_
    cases expired with
    | true => exact .bind (uses_intents.mpr (moves _ _ _ _ _ (by simp))) fun _ => trivial
    | false =>
      refine .bind (uses_intents.mpr (moves _ _ _ _ _ hnew)) fun transitioned => ?_
      cases transitioned with
      | true => exact wins intent
      | false => exact .bind (uses_intents.mpr (routine _ trivial)) fun _ => trivial

theorem uses_approve (intentId approvedBy : String) (now : Option Instant) (skew : Int) :
    Uses P (Approval.approve intentId approvedBy (some (R.exec intentId approvedBy)) now skew) := by
  refine uses_resolvePending routine moves intentId approvedBy (by simp) now skew fun intent =>
    .bind (.tryCatch ?_ fun e => ?_) fun outcome => ?_
  · exact .bind (R.uses_exec routine doer intentId approvedBy _) fun _ => trivial
  · split <;> trivial
  · cases outcome with
    | error reason => exact .bind (uses_intents.mpr (moves _ _ _ _ _ (by simp))) fun _ => trivial
    | ok result =>
      exact .bind (uses_env.mpr (routine _ trivial)) fun _ => .bind (uses_intents.mpr (moves _ _ _ _ _ (by simp))) fun _ => trivial

theorem uses_approveIntent (intentId approvedBy : String) (shownInputDigest : Option String) :
    Uses P (R.approveIntent intentId approvedBy shownInputDigest) := by
  have late (held : Option Intent) (result : Approval.ExecutionResult) : Uses P (R.settleLate held intentId "approve" result) :=
    (routine_settleLate held intentId "approve" result).mono routine
  have approves (held : Option Intent) : Uses P (R.approveHeld held intentId approvedBy) :=
    R.uses_surfacing routine "approve" (R.uses_approve routine doer moves intentId approvedBy none R.clockSkew) (late held)
  refine .bind (uses_env.mpr (routine _ trivial)) fun _ => ?_
  refine .bind ((routine_readIntent intentId).mono routine) fun read => ?_
  rcases read with held | ⟨quarantinedId,reason⟩
  · dsimp only [approveFound]
    split
    · trivial
    · cases held with
      | none => exact approves none
      | some intent =>
        dsimp only
        split
        · exact .bind (uses_emit.mpr (routine _ trivial)) fun _ => trivial
        · split
          · refine .bind (uses_env.mpr (routine _ trivial)) fun now => R.uses_surfacing routine "approve" ?_ (late (some intent))
            exact uses_resolvePending routine moves intentId approvedBy (by simp) (some now) R.clockSkew fun _ => trivial
          · exact approves (some intent)
  · exact .bind (uses_emit.mpr (routine _ trivial)) fun _ => trivial

omit doer in
theorem uses_rejectIntent (intentId rejectedBy : String) : Uses P (R.rejectIntent intentId rejectedBy) := by
  refine .bind ((routine_readIntent intentId).mono routine) fun read => ?_
  rcases read with intent | ⟨quarantinedId,reason⟩
  · dsimp only [rejectFound]
    split
    · trivial
    · refine R.uses_surfacing routine "reject" ?_ fun result => (routine_settleRejection intent intentId rejectedBy result).mono routine
      exact uses_resolvePending routine moves intentId rejectedBy (by simp) none 0 fun _ => trivial
  · exact .bind (uses_emit.mpr (routine _ trivial)) fun _ => trivial

end Footprint

end BrokerRuntime

theorem onward_handleRequest (R : BrokerRuntime) (request : AgentRequest) (turnContext : Option TurnRef) (ingestedSources : List String) :
    Uses Onward (R.handleRequest request turnContext ingestedSources) := by
  unfold BrokerRuntime.handleRequest
  split
  · refine .bind (R.uses_turnFor (fun _ => onward_of_plain) (fun _ => trivial) turnContext) fun ref => ?_
    refine .bind (R.uses_ingestSources (fun _ => trivial) ref ingestedSources) fun _ => ?_
    exact .bind (uses_emit.mpr trivial) fun _ => trivial
  · exact R.uses_pipeline (fun _ => onward_of_routine) (fun _ => trivial) request turnContext ingestedSources none
      (fun call facts => (R.plain_decide call facts).mono fun _ => onward_of_plain)
      (R.uses_executor (fun _ => onward_of_routine) (fun _ _ _ => trivial) fun _ _ _ => trivial)

theorem onward_program (R : BrokerRuntime) (errand : Errand) : Uses Onward (errand.program R) := by
  have turned := R.uses_sessionTurn (P := Onward) (fun _ => onward_of_plain) (fun _ => trivial)
  have moves (id : String) (expected new : IntentStatus) (approvedBy : Option String) (executedAt : Option Instant) (hnew : new ≠ .pending) :
      Onward (.intents (.transitionStatus id expected new approvedBy executedAt)) := hnew
  cases errand with
  | request asked turnContext ingestedSources => exact .bind (onward_handleRequest R asked turnContext ingestedSources) fun _ => trivial
  | decide report =>
    refine .bind (R.uses_decideHarnessCall (fun _ => onward_of_routine) (fun _ => trivial) (fun _ _ new hedge => ?_) report) fun _ => trivial
    rcases hedge with ⟨-,rfl | rfl | rfl⟩ | ⟨-,rfl⟩ <;> simp [Onward]
  | observe report =>
    refine .bind (.bind uses_finish fun event => .bind ?_ fun _ => .bind (uses_emit.mpr trivial) fun _ => trivial) fun _ => trivial
    unfold BrokerRuntime.ingestObserved
    split
    · exact .bind turned fun ref => .bind (uses_process.mpr trivial) fun _ => trivial
    · trivial
  | approve intentId approvedBy shownInputDigest =>
    exact .bind (R.uses_approveIntent (fun _ => onward_of_routine) (fun _ _ _ => trivial) moves intentId approvedBy shownInputDigest)
      fun _ => trivial
  | reject intentId rejectedBy =>
    exact .bind (R.uses_rejectIntent (fun _ => onward_of_routine) moves intentId rejectedBy) fun _ => trivial
  | sweep now =>
    exact .bind (R.uses_sweepExpiredIntents (fun _ => onward_of_routine) (fun _ => trivial) (fun _ => by simp [Onward]) now) fun _ => trivial
  | sessionTurn => exact .bind turned fun _ => trivial
  | newTurn => exact uses_process.mpr trivial

section Counting
variable {ι : Type} {B : Substrate} {id : String} {s : State}

def putsHold (id : String) : Event ι Op Op.Ret Exn → Bool
  | ⟨_,.intents (.putIntent intent),_⟩ => intent.id = id
  | _ => false

def winsApproval (id : String) : Event ι Op Op.Ret Exn → Bool
  | ⟨_,.intents (.transitionStatus id' .pending .approved _ _),.ok true⟩ => id' = id
  | _ => false

def releases (errands : ι → Errand) (id : String) : Event ι Op Op.Ret Exn → Bool
  | ⟨i,.env (.doer .release _ _),_⟩ =>
    match errands i with
    | .approve id' _ _ => id' = id
    | _ => false
  | _ => false

def pendingNow (s : State) (id : String) : Nat := if Approval.rowStatus s id = some .pending then 1 else 0

theorem winsApproval_iff {e : Event ι Op Op.Ret Exn} : winsApproval id e = true ↔ ∃ approvedBy executedAt,
    e = ⟨e.thread,.intents (.transitionStatus id .pending .approved approvedBy executedAt),.ok true⟩ := by
  constructor
  · intro h
    unfold winsApproval at h
    split at h
    · simp only [decide_eq_true_eq] at h
      subst h
      exact ⟨_,_,rfl⟩
    · cases h
  · rintro ⟨approvedBy,executedAt,h⟩
    rw [h]
    simp [winsApproval]

theorem releases_iff {errands : ι → Errand} {e : Event ι Op Op.Ret Exn} : releases errands id e = true ↔
    ∃ call effective r approvedBy shown, e = ⟨e.thread,.env (.doer .release call effective),r⟩ ∧
      errands e.thread = .approve id approvedBy shown := by
  constructor
  · intro h
    unfold releases at h
    split at h
    · next i call effective r =>
      split at h
      · next id' approvedBy shown herrand =>
        obtain rfl : id' = id := by simpa using h
        exact ⟨call,effective,r,approvedBy,shown,rfl,herrand⟩
      · cases h
    · cases h
  · rintro ⟨call,effective,r,approvedBy,shown,h,herrand⟩
    rw [h]
    simp [releases,herrand]

variable {c c' : Config ι Op Op.Ret Exn State Unit} {e : Event ι Op Op.Ret Exn}

theorem pendingNow_le_one : pendingNow s id ≤ 1 := by
  unfold pendingNow
  split <;> omega

theorem pendingNow_won [DecidableEq ι] (hs : Step B.device c e c') (hwon : winsApproval id e = true) :
    pendingNow c.state id = 1 ∧ pendingNow c'.state id = 0 := by
  obtain ⟨approvedBy,executedAt,he⟩ := winsApproval_iff.mp hwon
  rw [he] at hs
  obtain ⟨x,hreply,hstate⟩ := hs.effect
  obtain ⟨item,hrow,hstatus,hnext⟩ := Approval.transition_won hreply.symm
  refine ⟨if_pos (by simp [Approval.rowStatus,hrow,hstatus]),if_neg ?_⟩
  have hafter : Approval.row c'.state id = _ := hstate ▸ hnext
  simp [Approval.rowStatus,hafter,IntentOp.transitioned]

theorem pendingNow_step [DecidableEq ι] (hs : Step B.device c e c') (ho : Onward e.op) :
    (if winsApproval id e then 1 else 0) + pendingNow c'.state id ≤ (if putsHold id e then 1 else 0) + pendingNow c.state id := by
  by_cases hwon : winsApproval id e = true
  · obtain ⟨hbefore,hafter⟩ := pendingNow_won hs hwon
    rw [if_pos hwon]
    omega
  · rw [if_neg hwon,Nat.zero_add]
    obtain ⟨x,-,hstate⟩ := hs.effect
    have hmove := Approval.rowMove_perform B c.state id e.op x
    rw [show (B.perform e.op x c.state).2 = c'.state from hstate.symm] at hmove
    obtain ⟨i,o,r⟩ := e
    generalize hbefore : Approval.row c.state id = before at hmove
    generalize hafter : Approval.row c'.state id = after at hmove
    cases hmove with
    | same => simp [pendingNow,Approval.rowStatus,hbefore,hafter]
    | held _ intent hid hfree hput =>
      obtain rfl : o = .intents (.putIntent intent) := hput
      have hle : pendingNow c'.state id ≤ 1 := pendingNow_le_one
      simp only [putsHold,hid,decide_true,if_true]
      omega
    | moved item expected new approvedBy executedAt hstatus hmoved =>
      obtain rfl : o = .intents (.transitionStatus id expected new approvedBy executedAt) := hmoved
      have hne : new ≠ .pending := ho
      have hnone : pendingNow c'.state id = 0 := if_neg (by simpa [Approval.rowStatus,hafter,IntentOp.transitioned] using hne)
      omega

end Counting

section Runs
variable {ι : Type} [DecidableEq ι] {B : Substrate} {G : Guard ι Op Op.Ret Exn State Unit} {crew : ι → BrokerRuntime}
  {errands : ι → Errand} {s : State} {c : Config ι Op Op.Ret Exn State Unit} {tr : List (Event ι Op Op.Ret Exn)} {id : String}

theorem run_onward {tr₁ tr₂ : List (Event ι Op Op.Ret Exn)} {e : Event ι Op Op.Ret Exn} (h : Run B.device G (staffed crew errands s) tr c)
    (htr : tr = tr₁ ++ e :: tr₂) : Onward e.op :=
  h.follows (i := e.thread) (o := e.op) (r := e.reply)
    ((onward_program (crew e.thread) (errands e.thread)).tells (M := fun _ => Onward) (V := fun _ _ => True)
      (fun _ _ ho => ho) fun _ _ => trivial) htr

theorem approvals_le_holds (h : Run B.device G (staffed crew errands s) tr c) (id : String) :
    tr.countP (winsApproval id) + pendingNow c.state id ≤ tr.countP (putsHold id) + pendingNow s id := by
  generalize hstart : staffed crew errands s = start at h
  induction h with
  | refl =>
    subst hstart
    simp [staffed]
  | @step c' c'' tr e hrun hs hg ih =>
    subst hstart
    have hstep : (if winsApproval id e then 1 else 0) + pendingNow c''.state id ≤
        (if putsHold id e then 1 else 0) + pendingNow c'.state id :=
      pendingNow_step hs (run_onward (.step hrun hs hg) rfl)
    rw [List.countP_append,List.countP_append,List.countP_singleton,List.countP_singleton]
    omega

theorem releases_le_approvals (h : Run B.device G (staffed crew errands s) tr c) (id : String) :
    tr.countP (releases errands id) ≤ tr.countP (winsApproval id) := by
  refine countP_le_of_preceded fun tr₁ e tr₂ htr hrel => ?_
  obtain ⟨call,effective,r,approvedBy,shown,he,herrand⟩ := releases_iff.mp hrel
  rw [he] at htr
  obtain ⟨⟨clearance,hown⟩,hidle⟩ := run_mediated h htr
  constructor
  · intro e' hmem hrel' hthread
    obtain ⟨call',effective',r',approvedBy',shown',he',-⟩ := releases_iff.mp hrel'
    rw [he',hthread] at hmem
    exact hidle _ (mem_own.mpr hmem)
  · obtain ⟨id',approvedBy',shown',intent,herrand',-,hwon,-⟩ := clearance.asked
    cases herrand.symm.trans herrand'
    refine ⟨_,mem_own.mp ?_,winsApproval_iff.mpr ⟨some approvedBy,none,rfl⟩,rfl⟩
    rw [hown]
    exact List.mem_append_left _ hwon

theorem releases_le_holds (h : Run B.device G (staffed crew errands s) tr c) (id : String) :
    tr.countP (releases errands id) + pendingNow c.state id ≤ tr.countP (putsHold id) + pendingNow s id :=
  (Nat.add_le_add_right (releases_le_approvals h id) _).trans (approvals_le_holds h id)

end Runs

def heldMail : Intent where
  id := "m1"
  materializedRequest := mailBroker.materializeCall { tool := "mail", op := "send", args := .obj [] } sendOp ⟨"t1",false,[]⟩ none 0
  renderedForHuman := "mail.send"
  status := .pending
  expiry := 3600 * microsPerSecond
  ts := 0

def mailHeld : State := { emptyState with approval := IntentState.empty.setItem "m1" (intentItemAttrs memory.hmac heldMail) }

def approvers : Fin 2 → Errand := fun i => .approve "m1" (if i = 0 then "ann" else "ben") none

def mailReleased : List (Event (Fin 2) Op Op.Ret Exn) × Config (Fin 2) Op Op.Ret Exn State Unit :=
  play memory.device (turns 0 4 ++ turns 1 20 ++ turns 0 40) (staffed (fun _ => mailBroker) approvers mailHeld)

theorem releases_le_holds_raced : mailReleased.1.countP (releases approvers "m1") = 1 ∧
    mailReleased.1.countP (releases approvers "m1") + pendingNow mailReleased.2.state "m1" ≤
      mailReleased.1.countP (putsHold "m1") + pendingNow mailHeld "m1" :=
  ⟨by decide +kernel,releases_le_holds (G := anyStep) (play_run _ _) "m1"⟩

end Runtime

end SafeAgents
