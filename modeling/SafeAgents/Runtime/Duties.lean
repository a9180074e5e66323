import SafeAgents.Interleaving.History
import SafeAgents.Runtime.Footprint

namespace SafeAgents

open Interleaving

namespace Runtime

def Idle : Op → Prop
  | .env (.doer _ _ _) => False
  | .process (.installTurn _ _) => False
  | _ => True

theorem idle_of_routine {o : Op} (h : Routine o) : Idle o := by
  cases o with
  | env o => cases o <;> trivial
  | process o => exact h.elim
  | _ => trivial

structure Heeds (F : Duty Op Op.Ret Exn) (R : BrokerRuntime) : Prop where
  idle : ∀ o, Idle o → F.owes [] o
  doer : ∀ path call effective, Minds F (R.runDoer path call effective)
  turn : Minds F R.sessionTurn

namespace Heeds
variable {F : Duty Op Op.Ret Exn} {R : BrokerRuntime} {α : Type} (hR : Heeds F R)
include hR

theorem minds_idle {p : Act α} (hp : Uses Idle p) : Minds F p := hp.minds hR.idle

theorem minds_routine {p : Act α} (hp : Uses Routine p) : Minds F p := hR.minds_idle (hp.mono fun _ => idle_of_routine)

theorem minds_plain {p : Act α} (hp : Uses Plain p) : Minds F p := hR.minds_routine (hp.mono fun _ => routine_of_plain)

theorem minds_emit (record : AuditRecord) : Minds F (emit record) := hR.minds_idle (uses_emit.mpr trivial)

theorem minds_runInline (call : BrokeredCall) (effective : Decision) : Minds F (R.runInline call effective) := by
  refine .tryCatch (hR.doer .inline call effective) fun e => ?_
  split
  · exact .bind (hR.minds_emit _) fun _ => minds_throw
  · exact minds_throw

theorem minds_runReleased (receipt : BrokerRuntime.Receipt) (call : BrokeredCall) (effective : Decision) :
    Minds F (R.runReleased receipt call effective) := by
  refine .tryCatch (hR.doer .release call effective) fun e => ?_
  split
  · refine .bind (hR.minds_emit _) fun _ => ?_
    split <;> exact minds_throw
  · exact minds_throw

theorem minds_executor (ref : TurnRef) (call : BrokeredCall) (effective : Decision) :
    Minds F (R.executor ref call effective) := by
  refine .bind (hR.minds_runInline call effective) fun doerResult => .bind (hR.minds_emit _) fun _ => ?_
  refine .bind (hR.minds_idle (R.uses_afterRead (routinely fun _ => idle_of_routine) (fun _ _ _ => trivial) ref call)) fun _ => ?_
  refine .bind (hR.minds_plain (R.plain_meterErrorBudget call)) fun _ => ?_
  exact .bind (hR.minds_plain (R.plain_countObservation call)) fun _ => minds_pure

theorem minds_releaseExecutor (receipt : BrokerRuntime.Receipt) (call : BrokeredCall) (effective : Decision) :
    Minds F (R.releaseExecutor receipt call effective) := by
  refine .bind (hR.minds_runReleased receipt call effective) fun doerResult => .bind (hR.minds_emit _) fun _ => ?_
  exact .bind (hR.minds_plain (R.plain_countObservation call)) fun _ => minds_pure

section Enforced
open Enforcement
variable {q : Request} {cb : Callbacks} {executor : BrokeredCall → Decision → Act ConnectorResult}
  (hcb : cb.executor = some executor) (executes : ∀ call effective, Minds F (executor call effective))
  (facts : ∀ call, Uses Plain (cb.freshFacts call)) (decides : ∀ call facts, Uses Plain (cb.decider call facts))

omit hR in
theorem routine_books {claimedKey : Option String} {p : Act α} (hp : Uses (Bookkeeps claimedKey) p) : Uses Routine p :=
  hp.mono fun _ => routine_of_bookkeeps

include hcb executes

theorem minds_executeStep (claimedKey : Option String) (entryId : String) (effective : Decision) :
    Minds F (executeStep q cb claimedKey entryId effective) := by
  have commits : Minds F (commit entryId) := hR.minds_routine (routine_books (uses_commit entryId : Uses (Bookkeeps none) _))
  have runs : Minds F (do
      let result ← runExecutor q cb claimedKey entryId effective
      commit entryId
      return result) := by
    refine .bind ?_ fun _ => .bind commits fun _ => minds_pure
    simp only [runExecutor,hcb]
    refine .tryCatch (executes _ _) fun e => ?_
    split
    · exact hR.minds_routine (routine_books (uses_sagaFailure q entryId e))
    · exact minds_throw
  cases effective with
  | allow => exact runs
  | transform op args => exact runs
  | requireApproval renderedIntent reason => exact minds_pure
  | deny reason => exact .bind commits fun _ => minds_pure
  | abstain escalate reason => exact .bind commits fun _ => minds_pure

include facts decides

theorem minds_enforceClaimed (claimedKey : Option String) : Minds F (enforceClaimed q cb claimedKey) := by
  have prepared : Uses Routine (prepareOrRelease q cb claimedKey) := by
    refine .tryCatch (uses_prepare q (fun _ (h : Bookkeeps claimedKey _) => routine_of_bookkeeps h) (fun _ _ _ => trivial)
      (fun call => (facts call).mono fun _ => routine_of_plain) fun call facts => (decides call facts).mono fun _ => routine_of_plain)
      fun e => ?_
    exact .bind (routine_books uses_releaseIfClaimed) fun _ => trivial
  refine .bind (hR.minds_routine prepared) fun out => ?_
  refine .bind (hR.minds_executeStep hcb executes claimedKey out.2 out.1) fun result => ?_
  exact .bind (hR.minds_routine (routine_books (uses_settleClaim out.1 result))) fun _ => minds_pure

theorem minds_enforce : Minds F (enforce q cb) := by
  unfold enforce
  split
  · exact hR.minds_enforceClaimed hcb executes facts decides none
  · next key hkey =>
    refine .bind (hR.minds_routine (routine_books uses_claim)) fun settled => ?_
    cases settled with
    | some out => exact minds_pure
    | none => exact hR.minds_enforceClaimed hcb executes facts decides (some key)

end Enforced

section Requests

theorem minds_decideCall (request : AgentRequest) (hooks : Option PipelineHooks) (ref : TurnRef) (call : BrokeredCall)
    (decides : ∀ call facts, Uses Plain (R.deciderFor hooks call facts))
    (executes : ∀ call effective, Minds F (R.executorFor hooks ref call effective)) :
    Minds F (R.decideCall request hooks ref call) := by
  refine .bind (hR.minds_plain (R.plain_pip call)) fun facts => ?_
  refine .bind (hR.minds_plain (R.plain_surfaceQuarantinedGrant hooks call facts)) fun _ => ?_
  refine .bind (hR.minds_plain (decides call facts)) fun initialDecision => ?_
  refine .bind (hR.minds_plain (plain_counterKey _ _ _ _ _)) fun key => .bind ?_ fun out => ?_
  · refine .tryCatch ?_ fun e => ?_
    · refine .bind (hR.minds_plain (R.plain_treeDraws _ _ _)) fun draws => ?_
      exact .bind (hR.minds_enforce rfl executes R.plain_pip decides) fun _ => minds_pure
    · split
      · exact minds_pure
      · exact minds_throw
  · cases out with
    | error e => exact minds_pure
    | ok result => exact hR.minds_plain (R.plain_respond hooks call result)

theorem minds_turnFor (turnContext : Option TurnRef) : Minds F (R.turnFor turnContext) := by
  cases turnContext with
  | some ref => exact minds_pure
  | none => exact hR.turn

theorem minds_ingestSources (ref : TurnRef) (sources : List String) : Minds F (R.ingestSources ref sources) := by
  induction sources with
  | nil => exact minds_pure
  | cons source sources ih => exact .bind (hR.minds_idle (uses_process.mpr trivial)) fun _ => ih

theorem minds_pipeline (request : AgentRequest) (turnContext : Option TurnRef) (ingestedSources : List String)
    (hooks : Option PipelineHooks) (decides : ∀ call facts, Uses Plain (R.deciderFor hooks call facts))
    (executes : ∀ ref call effective, Minds F (R.executorFor hooks ref call effective)) :
    Minds F (R.pipeline request turnContext ingestedSources hooks) := by
  have decided (ref : TurnRef) (entry : ToolOp) (turn : TurnContext) (confidence : Option ConfidenceArtifact) :
      Minds F (R.stampAndDecide request hooks ref entry turn confidence) :=
    .bind (hR.minds_idle (uses_process.mpr trivial)) fun ts => hR.minds_decideCall request hooks ref _ decides (executes ref)
  refine .bind (hR.minds_turnFor turnContext) fun ref => .bind (hR.minds_ingestSources ref ingestedSources) fun _ => ?_
  refine .bind (.bind (hR.minds_idle (uses_process.mpr trivial)) fun found => ?_) fun turn => ?_
  · cases found with
    | none => exact minds_throw
    | some turn => exact minds_pure
  · unfold BrokerRuntime.dispatch
    split
    · exact hR.minds_plain (R.plain_refuseUnlisted request hooks)
    · split
      · exact minds_pure
      · exact decided ref _ turn none
      · exact decided ref _ turn _

theorem minds_handleRequest (request : AgentRequest) (turnContext : Option TurnRef) (ingestedSources : List String) :
    Minds F (R.handleRequest request turnContext ingestedSources) := by
  unfold BrokerRuntime.handleRequest
  split
  · refine .bind (hR.minds_turnFor turnContext) fun ref => .bind (hR.minds_ingestSources ref ingestedSources) fun _ => ?_
    exact .bind (hR.minds_emit _) fun _ => minds_pure
  · exact hR.minds_pipeline request turnContext ingestedSources none R.plain_decide hR.minds_executor

theorem minds_recordObservedEvent (report : ObservedReport) : Minds F (R.recordObservedEvent report) := by
  refine .bind minds_finish fun event => .bind ?_ fun ingested => .bind (hR.minds_emit _) fun _ => minds_pure
  unfold BrokerRuntime.ingestObserved
  split
  · exact .bind hR.turn fun ref => .bind (hR.minds_idle (uses_process.mpr trivial)) fun _ => minds_pure
  · exact minds_pure

end Requests

section Harness

theorem minds_permit (request : DecisionRequest) (release : Option HarnessRelease) (ref : TurnRef) (call : BrokeredCall)
    (effective : Decision) : Minds F (R.permit request release ref call effective) := by
  have moves (id : String) (expected new : IntentStatus) : Minds F (intents (.transitionStatus id expected new none none)) :=
    hR.minds_idle (uses_intents.mpr trivial)
  have records : Minds F (R.recordPermit request release ref call) := by
    unfold BrokerRuntime.recordPermit
    split
    · exact .bind (hR.minds_idle (uses_process.mpr trivial)) fun _ => hR.minds_emit _
    · exact hR.minds_emit _
  unfold BrokerRuntime.permit
  split
  · refine .bind ?_ fun _ => .bind (.tryCatch records fun e => .bind ?_ fun _ => minds_throw) fun _ => minds_pure
    · cases release with
      | none => exact minds_pure
      | some release =>
        refine .bind (moves _ _ _) fun won => ?_
        cases won with
        | false => exact minds_throw
        | true => exact minds_pure
    · cases release with
      | none => exact minds_pure
      | some release =>
        refine .tryCatch (.bind (moves _ _ _) fun _ => minds_pure) fun e => ?_
        split
        · exact minds_pure
        · exact minds_throw
  · exact minds_throw

theorem minds_decideThrough (request : DecisionRequest) (release : Option HarnessRelease) (holdId : String) :
    Minds F (R.decideThrough request release holdId) := by
  have decides := R.uses_harnessDeciderFor (fun _ h => h) request release holdId
  refine .bind (hR.minds_pipeline _ none [] _ decides (hR.minds_permit request release)) fun response => ?_
  unfold BrokerRuntime.answerHarness
  split
  · exact minds_pure
  · refine .bind ?_ fun _ => minds_pure
    cases release with
    | none => exact minds_pure
    | some release => exact .bind (hR.minds_idle (uses_intents.mpr trivial)) fun _ => minds_pure

theorem minds_decideHarness (request : DecisionRequest) : Minds F (R.decideHarness request) := by
  have found := R.uses_approvedHarnessIntent (P := Idle) (fun _ => idle_of_routine) (fun _ _ _ _ => trivial) request
    (R.holdIdFor request)
  refine .bind (hR.minds_idle (uses_env.mpr trivial)) fun _ => .bind (hR.minds_idle found) fun found => ?_
  cases found with
  | answered decision => exact minds_pure
  | fresh => exact hR.minds_decideThrough request none _
  | release release => exact hR.minds_decideThrough request (some release) _

theorem minds_decideHarnessCall (report : DecisionReport) : Minds F (R.decideHarnessCall report) := by
  unfold BrokerRuntime.decideHarnessCall
  split
  · unfold BrokerRuntime.refuseDecisionRequest
    split
    · exact minds_throw
    · split
      · exact minds_throw
      · refine .bind (hR.minds_idle (uses_caught (uses_emit.mpr trivial))) fun recorded => ?_
        cases recorded <;> exact minds_pure
  · refine .tryCatch (hR.minds_decideHarness _) fun e => ?_
    split
    · exact .bind (hR.minds_idle (uses_guarded (uses_emit.mpr trivial))) fun _ => minds_pure
    · exact minds_throw

end Harness

section Intents

theorem minds_resolvePending (intentId actor : String) (new : IntentStatus) (now : Option Instant) (skew : Int)
    {onWin : Intent → Act Approval.ExecutionResult} (wins : ∀ intent, Minds F (onWin intent)) :
    Minds F (Approval.resolvePending intentId actor new now skew onWin) := by
  have intent {o : IntentOp} : Minds F (intents o) := hR.minds_idle (uses_intents.mpr trivial)
  refine .bind (hR.minds_plain (plain_resolveNow now)) fun evaluatedAt => .bind intent fun found => ?_
  cases found with
  | none => exact minds_pure
  | some held =>
    refine .bind minds_finish fun expired => ?_
    cases expired with
    | true => exact .bind intent fun _ => minds_pure
    | false =>
      refine .bind intent fun transitioned => ?_
      cases transitioned with
      | true => exact wins held
      | false => exact .bind intent fun _ => minds_pure

theorem minds_exec (intentId approvedBy : String) (storedCall : BrokeredCall) :
    Minds F (R.exec intentId approvedBy storedCall) := by
  have decides (call : BrokeredCall) (facts : Facts) : Uses Plain (gate R.approvedDecider call facts) := by
    refine uses_gate (fun _ h => h) (fun call facts => ?_) call facts
    refine .bind (uses_pure : Uses Plain (R.decide call facts)) fun decided => ?_
    cases decided <;> trivial
  refine .bind (hR.minds_plain (plain_counterKey _ _ _ _ _)) fun key => ?_
  refine .bind (hR.minds_plain (R.plain_treeDraws _ _ _)) fun draws => ?_
  refine .bind (hR.minds_enforce rfl (hR.minds_releaseExecutor _) R.plain_pip decides) fun enforced => ?_
  split
  · exact minds_pure
  · exact .bind (hR.minds_emit _) fun _ => minds_throw

theorem minds_approve (intentId approvedBy : String) (now : Option Instant) (skew : Int) :
    Minds F (Approval.approve intentId approvedBy (some (R.exec intentId approvedBy)) now skew) := by
  refine hR.minds_resolvePending intentId approvedBy .approved now skew fun intent => .bind ?_ fun outcome => ?_
  · refine .tryCatch (.bind (hR.minds_exec _ _ _) fun _ => minds_pure) fun e => ?_
    split
    · exact minds_pure
    · exact minds_throw
  · cases outcome with
    | error reason => exact .bind (hR.minds_idle (uses_intents.mpr trivial)) fun _ => minds_pure
    | ok result =>
      refine .bind (hR.minds_idle (uses_env.mpr trivial)) fun executedAt => ?_
      exact .bind (hR.minds_idle (uses_intents.mpr trivial)) fun _ => minds_pure

theorem minds_surfacing (seam : String) {p : Act Approval.ExecutionResult} (hp : Minds F p)
    {onOk : Approval.ExecutionResult → Act Approval.ExecutionResult} (hok : ∀ result, Minds F (onOk result)) :
    Minds F (R.surfacing seam p onOk) := by
  refine .bind (.tryCatch (.bind hp fun _ => minds_pure) fun e => ?_) fun outcome => ?_
  · split
    · exact minds_pure
    · exact minds_throw
  · rcases outcome with ⟨intentId,reason⟩ | result
    · exact .bind (hR.minds_emit _) fun _ => minds_pure
    · exact hok result

theorem minds_recordLateExpiry (held : Option Intent) (intentId seam : String) :
    Minds F (R.recordLateExpiry held intentId seam) := by
  have recorded (intent : Intent) : Uses Plain (do
      R.recordExpiry intent
      R.flushAlarm) := .bind (R.plain_recordExpiry intent) fun _ => R.plain_flushAlarm
  cases held with
  | some intent => exact hR.minds_plain (recorded intent)
  | none =>
    refine .bind (hR.minds_plain (plain_readIntent intentId)) fun read => ?_
    rcases read with (_ | intent) | ⟨quarantinedId,reason⟩
    · exact minds_pure
    · exact hR.minds_plain (recorded intent)
    · exact hR.minds_emit _

theorem minds_settleLate (held : Option Intent) (intentId seam : String) (result : Approval.ExecutionResult) :
    Minds F (R.settleLate held intentId seam result) := by
  unfold BrokerRuntime.settleLate
  split
  · exact .bind (hR.minds_recordLateExpiry held intentId seam) fun _ => minds_pure
  · exact minds_pure

theorem minds_approveIntent (intentId approvedBy : String) (shownInputDigest : Option String) :
    Minds F (R.approveIntent intentId approvedBy shownInputDigest) := by
  have approves (held : Option Intent) : Minds F (R.approveHeld held intentId approvedBy) :=
    hR.minds_surfacing "approve" (hR.minds_approve intentId approvedBy none R.clockSkew) (hR.minds_settleLate held intentId "approve")
  refine .bind (hR.minds_idle (uses_env.mpr trivial)) fun _ => ?_
  refine .bind (hR.minds_plain (plain_readIntent intentId)) fun read => ?_
  rcases read with held | ⟨quarantinedId,reason⟩
  · dsimp only [BrokerRuntime.approveFound]
    split
    · exact minds_pure
    · cases held with
      | none => exact approves none
      | some intent =>
        dsimp only
        split
        · exact .bind (hR.minds_emit _) fun _ => minds_pure
        · split
          · refine .bind (hR.minds_idle (uses_env.mpr trivial)) fun now => ?_
            refine hR.minds_surfacing "approve" ?_ (hR.minds_settleLate (some intent) intentId "approve")
            exact hR.minds_resolvePending intentId approvedBy .approved (some now) R.clockSkew fun _ => minds_pure
          · exact approves (some intent)
  · exact .bind (hR.minds_emit _) fun _ => minds_pure

theorem minds_settleRejection (intent : Option Intent) (intentId rejectedBy : String) (result : Approval.ExecutionResult) :
    Minds F (R.settleRejection intent intentId rejectedBy result) := by
  have labels (call : BrokeredCall) (bucket : String) : Uses Routine (BrokerRuntime.labelRejection call bucket) :=
    .bind (uses_caught (.bind (uses_store.mpr trivial) fun _ => .bind (uses_store.mpr trivial) fun _ => trivial))
      fun _ => trivial
  have records (call : BrokeredCall) : Uses Routine (R.recordRejection call intentId rejectedBy) :=
    .bind (.bind (uses_env.mpr trivial) fun _ => trivial) fun bucket => .bind (labels call bucket) fun _ => uses_emit.mpr trivial
  unfold BrokerRuntime.settleRejection
  split
  · exact .bind (hR.minds_recordLateExpiry intent intentId "reject") fun _ => minds_pure
  · split
    · refine .bind ?_ fun found => ?_
      · cases intent with
        | some intent => exact minds_pure
        | none =>
          refine .bind (hR.minds_plain (plain_readIntent intentId)) fun read => ?_
          rcases read with found | ⟨quarantinedId,reason⟩
          · exact minds_pure
          · exact .bind (hR.minds_emit _) fun _ => minds_pure
      · cases found with
        | none => exact minds_pure
        | some intent => exact .bind (hR.minds_routine (records intent.materializedRequest)) fun _ => minds_pure
    · exact minds_pure

theorem minds_rejectIntent (intentId rejectedBy : String) : Minds F (R.rejectIntent intentId rejectedBy) := by
  refine .bind (hR.minds_plain (plain_readIntent intentId)) fun read => ?_
  rcases read with intent | ⟨quarantinedId,reason⟩
  · dsimp only [BrokerRuntime.rejectFound]
    split
    · exact minds_pure
    · refine hR.minds_surfacing "reject" ?_ (hR.minds_settleRejection intent intentId rejectedBy)
      exact hR.minds_resolvePending intentId rejectedBy .rejected none 0 fun _ => minds_pure
  · exact .bind (hR.minds_emit _) fun _ => minds_pure

theorem minds_sweepCandidate (at_ : Instant) (intentId : String) : Minds F (R.sweepCandidate at_ intentId) := by
  refine .bind (hR.minds_plain (plain_readIntent intentId)) fun read => ?_
  rcases read with (_ | intent) | ⟨quarantinedId,reason⟩
  · exact minds_pure
  · dsimp only
    split
    · refine .bind ?_ fun expired => ?_
      · unfold Approval.expireIfDue
        split
        · exact minds_pure
        · refine .bind minds_finish fun due => ?_
          cases due with
          | false => exact minds_pure
          | true => exact hR.minds_idle (uses_intents.mpr trivial)
      · cases expired with
        | false => exact minds_pure
        | true => exact .bind (hR.minds_plain (R.plain_recordExpiry intent)) fun _ => minds_pure
    · exact minds_pure
  · refine .bind (.bind (hR.minds_idle (uses_process.mpr trivial)) fun first => ?_) fun _ => minds_pure
    cases first with
    | false => exact minds_pure
    | true => exact hR.minds_emit _

theorem minds_sweepExpiredIntents (now : Option Instant) : Minds F (R.sweepExpiredIntents now) := by
  have all (at_ : Instant) (candidates : List String) : Minds F (R.sweepCandidates at_ candidates) := by
    induction candidates with
    | nil => exact minds_pure
    | cons intentId candidates ih => exact .bind (hR.minds_sweepCandidate at_ intentId) fun _ => .bind ih fun _ => minds_pure
  refine .bind (hR.minds_plain (plain_resolveNow now)) fun at_ => ?_
  refine .bind (hR.minds_idle (uses_intents.mpr trivial)) fun candidates => ?_
  exact .bind (all at_ candidates) fun _ => .bind (hR.minds_plain R.plain_flushAlarm) fun _ => minds_pure

end Intents

end Heeds

inductive Errand where
  | request (request : AgentRequest) (turnContext : Option TurnRef) (ingestedSources : List String)
  | decide (report : DecisionReport)
  | observe (report : ObservedReport)
  | approve (intentId approvedBy : String) (shownInputDigest : Option String)
  | reject (intentId rejectedBy : String)
  | sweep (now : Option Instant)
  | sessionTurn
  | newTurn

namespace Errand

def program (R : BrokerRuntime) : Errand → Act Unit
  | .request asked turnContext ingestedSources => do let _ ← R.handleRequest asked turnContext ingestedSources
  | .decide report => do let _ ← R.decideHarnessCall report
  | .observe report => do let _ ← R.recordObservedEvent report
  | .approve intentId approvedBy shownInputDigest => do let _ ← R.approveIntent intentId approvedBy shownInputDigest
  | .reject intentId rejectedBy => do let _ ← R.rejectIntent intentId rejectedBy
  | .sweep now => do let _ ← R.sweepExpiredIntents now
  | .sessionTurn => do let _ ← R.sessionTurn
  | .newTurn => R.newTurn

theorem minds_program {F : Duty Op Op.Ret Exn} {R : BrokerRuntime} (hR : Heeds F R) (errand : Errand) :
    Minds F (errand.program R) := by
  cases errand with
  | request asked turnContext ingestedSources =>
    exact .bind (hR.minds_handleRequest asked turnContext ingestedSources) fun _ => minds_pure
  | decide report => exact .bind (hR.minds_decideHarnessCall report) fun _ => minds_pure
  | observe report => exact .bind (hR.minds_recordObservedEvent report) fun _ => minds_pure
  | approve intentId approvedBy shownInputDigest =>
    exact .bind (hR.minds_approveIntent intentId approvedBy shownInputDigest) fun _ => minds_pure
  | reject intentId rejectedBy => exact .bind (hR.minds_rejectIntent intentId rejectedBy) fun _ => minds_pure
  | sweep now => exact .bind (hR.minds_sweepExpiredIntents now) fun _ => minds_pure
  | sessionTurn => exact .bind hR.turn fun _ => minds_pure
  | newTurn => exact hR.minds_idle (uses_process.mpr trivial)

end Errand

end Runtime

end SafeAgents
