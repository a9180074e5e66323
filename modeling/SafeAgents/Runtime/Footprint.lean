import SafeAgents.Runtime.Intents
import SafeAgents.Enforcement.Footprint

namespace SafeAgents

open Interleaving

namespace Runtime

def Routine : Op → Prop
  | .store _ => True
  | .intents (.getIntent _) => True
  | .intents (.putIntent intent) => intent.status = .pending
  | .intents (.expiredPendingCandidates _ _) => True
  | .intents (.transitionStatus _ _ _ _ _) => False
  | .env (.executor _ _) => False
  | .env (.release _) => False
  | .env (.doer _ _ _) => False
  | .env (.answer _) => False
  | .env _ => True
  | .process _ => False
  | .audit _ => True

def Plain : Op → Prop
  | .store (.tryIncrementCounter _ _ _) => True
  | .store (.readCounter _) => True
  | .store _ => False
  | o => Routine o

theorem routine_of_plain {o : Op} (h : Plain o) : Routine o := by
  cases o with
  | store o => trivial
  | _ => exact h

theorem routinely {P : Op → Prop} (routine : ∀ o, Routine o → P o) (o : Op) (h : Plain o) : P o := routine o (routine_of_plain h)

theorem plain_of_pipReads {o : Op} (h : PipReads o) : Plain o := by
  cases o with
  | store o => cases o <;> trivial
  | env o => cases o <;> trivial
  | _ => exact h.elim

theorem routine_of_bookkeeps {claimedKey : Option String} {o : Op} (h : Enforcement.Bookkeeps claimedKey o) :
    Routine o := by
  cases o with
  | store o => trivial
  | env o => cases o <;> trivial
  | _ => exact h.elim

section Parts
variable {α : Type}

theorem uses_caught {P : Op → Prop} {p : Act α} (hp : Uses P p) : Uses P (caught p) := by
  refine .tryCatch (.bind hp fun _ => trivial) fun e => ?_
  split <;> trivial

theorem plain_inputsPastAge : Uses Plain inputsPastAge := by
  refine .tryCatch (.bind (uses_env.mpr trivial) fun _ => trivial) fun e => ?_
  split <;> trivial

theorem uses_gate {P : Op → Prop} {decider : BrokeredCall → Facts → Act Decision} (hP : ∀ o, Plain o → P o)
    (hd : ∀ call facts, Uses P (decider call facts)) (call : BrokeredCall) (facts : Facts) :
    Uses P (gate decider call facts) := by
  refine .bind (plain_inputsPastAge.mono hP) fun stale => ?_
  match stale with
  | .error e => trivial
  | .ok [] => exact hd call facts
  | .ok (_ :: _) => trivial

theorem plain_counterKey (period : CounterPeriod) (principal : Principal) (tool op suffix : String) :
    Uses Plain (counterKey period principal tool op suffix) :=
  .bind (.bind (uses_env.mpr trivial) fun _ => trivial) fun _ => trivial

theorem plain_treeCounterKey (period : CounterPeriod) (anchor tool op suffix : String) :
    Uses Plain (Delegation.treeCounterKey period anchor tool op suffix) := by
  unfold Delegation.treeCounterKey
  split
  · trivial
  · split
    · trivial
    · exact .bind (.bind (uses_env.mpr trivial) fun _ => trivial) fun _ => trivial

theorem plain_resolveTreePool (delegates : Bool) (period : CounterPeriod) (cap : ℚ) (principal : Principal)
    (tool op : String) : Uses Plain (Delegation.resolveTreePool delegates period cap principal tool op) := by
  cases delegates with
  | false => trivial
  | true =>
    refine .bind (uses_env.mpr trivial) fun subGrant => .bind uses_finish fun anchored => ?_
    exact .bind (plain_treeCounterKey _ _ _ _ _) fun _ => trivial

theorem plain_resolveNow (now : Option Instant) : Uses Plain (Approval.resolveNow now) := by
  cases now with
  | none => exact uses_env.mpr trivial
  | some now => trivial

theorem plain_materialize (h : Approval.Hold) : Uses Plain (Approval.materialize h) := by
  have put (holdAt : Instant) : Uses Plain (Approval.putOrCoalesce h holdAt) := by
    refine .tryCatch (.bind (uses_intents.mpr rfl) fun _ => trivial) fun e => ?_
    split
    · split <;> trivial
    · trivial
  have notify (holdAt : Instant) : Uses Plain (Approval.notifyHold h holdAt) := by
    unfold Approval.notifyHold
    split
    · exact uses_env.mpr trivial
    · trivial
  have fresh : Uses Plain (Approval.holdFresh h) := by
    refine .bind (plain_resolveNow h.now) fun holdAt => .bind (put holdAt) fun coalesced => ?_
    cases coalesced with
    | true => trivial
    | false => exact .bind (notify holdAt) fun _ => trivial
  unfold Approval.materialize
  split
  · exact fresh
  · refine .bind (uses_intents.mpr trivial) fun existing => ?_
    split
    · trivial
    · exact fresh

theorem plain_readIntent (intentId : String) : Uses Plain (BrokerRuntime.readIntent intentId) := by
  refine .tryCatch (.bind (uses_intents.mpr trivial) fun _ => trivial) fun e => ?_
  split <;> trivial

end Parts

namespace BrokerRuntime
variable (R : BrokerRuntime) {P : Op → Prop}

theorem plain_pip (call : BrokeredCall) : Uses Plain (R.pip call) :=
  (R.pipReads call).mono fun _ => plain_of_pipReads

theorem plain_treeDraws (principal : Principal) (tool op : String) :
    Uses Plain (R.treeDraws principal tool op) :=
  .bind (plain_resolveTreePool _ _ _ _ _ _) fun _ => trivial

theorem plain_tryHold (hooks : Option PipelineHooks) (call : BrokeredCall) (renderedIntent : RenderedIntent) :
    Uses Plain (R.tryHold hooks call renderedIntent) := by
  refine .tryCatch (.bind (plain_materialize _) fun _ => trivial) fun e => ?_
  split <;> trivial

theorem plain_countHold (call : BrokeredCall) (cap : Nat) : Uses Plain (R.countHold call cap) := by
  refine .bind (plain_counterKey _ _ _ _ _) fun key => .bind (uses_store.mpr trivial) fun withinCap => ?_
  cases withinCap with
  | true => trivial
  | false => exact uses_env.mpr trivial

theorem plain_floodAlarm (call : BrokeredCall) (coalesced : Bool) : Uses Plain (R.floodAlarm call coalesced) := by
  unfold floodAlarm
  split
  · split
    · trivial
    · exact R.plain_countHold call _
  · trivial

theorem plain_hold (hooks : Option PipelineHooks) (call : BrokeredCall) (renderedIntent : RenderedIntent)
    (reason : Option String) : Uses Plain (R.hold hooks call renderedIntent reason) := by
  refine .bind (R.plain_tryHold hooks call renderedIntent) fun outcome => ?_
  cases outcome with
  | quarantined intentId quarantineReason => exact .bind (uses_emit.mpr trivial) fun _ => trivial
  | collision intentId => exact .bind (uses_emit.mpr trivial) fun _ => trivial
  | held approval =>
    exact .bind (R.plain_floodAlarm call approval.coalesced) fun _ => .bind (uses_emit.mpr trivial) fun _ => trivial

theorem plain_respond (hooks : Option PipelineHooks) (call : BrokeredCall) (result : EnforcementResult) :
    Uses Plain (R.respond hooks call result) := by
  unfold respond
  split
  · trivial
  · split
    · trivial
    · trivial
    · exact R.plain_hold hooks call _ _
    · exact .bind (uses_emit.mpr trivial) fun _ => trivial
    · exact .bind (uses_emit.mpr trivial) fun _ => trivial

theorem plain_surfaceQuarantinedGrant (hooks : Option PipelineHooks) (call : BrokeredCall) (facts : Facts) :
    Uses Plain (R.surfaceQuarantinedGrant hooks call facts) := by
  unfold surfaceQuarantinedGrant
  split
  · exact uses_emit.mpr trivial
  · trivial

theorem plain_refuseUnlisted (request : AgentRequest) (hooks : Option PipelineHooks) :
    Uses Plain (R.refuseUnlisted request hooks) := .bind (uses_emit.mpr trivial) fun _ => trivial

theorem plain_recordExpiry (intent : Intent) : Uses Plain (R.recordExpiry intent) := by
  refine .bind ?_ fun counted => uses_emit.mpr trivial
  unfold countExpiry
  split
  · exact uses_env.mpr trivial
  · trivial

theorem plain_flushAlarm : Uses Plain R.flushAlarm := by
  unfold flushAlarm
  split
  · exact uses_env.mpr trivial
  · trivial

theorem uses_afterRead (plain : ∀ o, Plain o → P o) (ingests : ∀ ref source trusted, P (.process (.ingest ref source trusted)))
    (ref : TurnRef) (call : BrokeredCall) : Uses P (R.afterRead ref call) := by
  unfold afterRead
  split
  · refine .bind ?_ fun _ => ?_
    · unfold selfIngest
      simp only []
      split
      · trivial
      · exact uses_process.mpr (ingests _ _ _)
    · unfold meterQueryBytes
      split
      · trivial
      · refine .bind ((plain_counterKey _ _ _ _ _).mono plain) fun _ => ?_
        exact .bind (uses_store.mpr (plain _ trivial)) fun _ => trivial
  · trivial

theorem plain_meterErrorBudget (call : BrokeredCall) : Uses Plain (R.meterErrorBudget call) := by
  unfold meterErrorBudget
  split
  · trivial
  · split
    · trivial
    · split
      · refine .bind uses_finish fun draw => .bind (plain_counterKey _ _ _ _ _) fun key => ?_
        refine .bind (uses_store.mpr trivial) fun _ => .bind (uses_store.mpr trivial) fun spent => ?_
        unfold signalIfCrossed
        split
        · exact uses_guarded (uses_env.mpr trivial)
        · trivial
      · trivial

theorem plain_countObservation (call : BrokeredCall) : Uses Plain (R.countObservation call) :=
  uses_guarded (.bind (plain_counterKey _ _ _ _ _) fun _ => .bind (uses_store.mpr trivial) fun _ => trivial)

theorem plain_decide (call : BrokeredCall) (facts : Facts) : Uses Plain (R.deciderFor none call facts) := by
  have hdecide (call : BrokeredCall) (facts : Facts) : Uses Plain (R.decide call facts) := trivial
  exact uses_gate (fun _ h => h) hdecide call facts

section Enforced
variable (routine : ∀ o, Routine o → P o)
include routine

theorem footprint_of_routine (claimedKey : Option String) (hooks : Option PipelineHooks) (ref : TurnRef)
    (decides : ∀ call facts, Uses P (R.deciderFor hooks call facts))
    (executes : ∀ call decision, Uses P (R.executorFor hooks ref call decision)) :
    Enforcement.Footprint P claimedKey (R.callbacksFor hooks ref) where
  books _ h := routine _ (routine_of_bookkeeps h)
  draws _ _ _ := routine _ trivial
  facts call := (R.plain_pip call).mono (routinely routine)
  decides := decides
  executes executor h call decision := by
    cases h
    exact executes call decision

theorem uses_enforceCall (request : AgentRequest) (hooks : Option PipelineHooks) (ref : TurnRef) (call : BrokeredCall)
    (initialDecision : Decision) (key : String) (decides : ∀ call facts, Uses P (R.deciderFor hooks call facts))
    (executes : ∀ call decision, Uses P (R.executorFor hooks ref call decision)) :
    Uses P (R.enforceCall request hooks ref call initialDecision key) := by
  refine .tryCatch ?_ fun e => ?_
  · refine .bind ((R.plain_treeDraws _ _ _).mono (routinely routine)) fun draws => ?_
    exact .bind (Enforcement.uses_enforce _ (R.footprint_of_routine routine _ hooks ref decides executes)) fun _ => trivial
  · split <;> trivial

theorem uses_decideCall (request : AgentRequest) (hooks : Option PipelineHooks) (ref : TurnRef) (call : BrokeredCall)
    (decides : ∀ call facts, Uses P (R.deciderFor hooks call facts))
    (executes : ∀ call decision, Uses P (R.executorFor hooks ref call decision)) :
    Uses P (R.decideCall request hooks ref call) := by
  refine .bind ((R.plain_pip call).mono (routinely routine)) fun facts => ?_
  refine .bind ((R.plain_surfaceQuarantinedGrant hooks call facts).mono (routinely routine)) fun _ => ?_
  refine .bind (decides call facts) fun initialDecision => ?_
  refine .bind ((plain_counterKey _ _ _ _ _).mono (routinely routine)) fun key => ?_
  refine .bind (R.uses_enforceCall routine request hooks ref call initialDecision key decides executes) fun out => ?_
  cases out with
  | error e => trivial
  | ok result => exact (R.plain_respond hooks call result).mono (routinely routine)

end Enforced

section Turns
variable (routine : ∀ o, Routine o → P o) (memory : ∀ o, P (.process o))

theorem uses_sessionTurn (plain : ∀ o, Plain o → P o) (memory : ∀ o, P (.process o)) : Uses P R.sessionTurn := by
  refine .bind (uses_process.mpr (memory _)) fun current => ?_
  cases current with
  | some ref => trivial
  | none =>
    refine .bind ?_ fun turn => .bind (uses_process.mpr (memory _)) fun _ => trivial
    refine .bind (uses_env.mpr (plain _ trivial)) fun id => ?_
    split
    · refine .bind (uses_env.mpr (plain _ trivial)) fun now => ?_
      refine .bind (uses_caught (uses_env.mpr (plain _ trivial))) fun records => ?_
      cases records <;> trivial
    · trivial

theorem uses_turnFor (plain : ∀ o, Plain o → P o) (memory : ∀ o, P (.process o)) (turnContext : Option TurnRef) :
    Uses P (R.turnFor turnContext) := by
  cases turnContext with
  | some ref => trivial
  | none => exact R.uses_sessionTurn plain memory

include routine memory

omit routine in
theorem uses_ingestSources (ref : TurnRef) (sources : List String) : Uses P (R.ingestSources ref sources) := by
  induction sources with
  | nil => trivial
  | cons source sources ih => exact .bind (uses_process.mpr (memory _)) fun _ => ih

omit routine in
theorem uses_contextOf (ref : TurnRef) : Uses P (contextOf ref) := by
  refine .bind (uses_process.mpr (memory _)) fun turn => ?_
  cases turn <;> trivial

theorem uses_pipeline (request : AgentRequest) (turnContext : Option TurnRef) (ingestedSources : List String)
    (hooks : Option PipelineHooks) (decides : ∀ call facts, Uses P (R.deciderFor hooks call facts))
    (executes : ∀ ref call decision, Uses P (R.executorFor hooks ref call decision)) :
    Uses P (R.pipeline request turnContext ingestedSources hooks) := by
  have decided (ref : TurnRef) (entry : ToolOp) (turn : TurnContext) (confidence : Option ConfidenceArtifact) :
      Uses P (R.stampAndDecide request hooks ref entry turn confidence) :=
    .bind (uses_process.mpr (memory _)) fun _ => R.uses_decideCall routine request hooks ref _ decides (executes ref)
  refine .bind (R.uses_turnFor (routinely routine) memory turnContext) fun ref => ?_
  refine .bind (R.uses_ingestSources memory ref ingestedSources) fun _ => ?_
  refine .bind (uses_contextOf memory ref) fun turn => ?_
  unfold dispatch
  split
  · exact (R.plain_refuseUnlisted request hooks).mono (routinely routine)
  · split
    · trivial
    · exact decided ref _ turn none
    · exact decided ref _ turn _

end Turns

section Harness
variable (routine : ∀ o, Routine o → P o) (memory : ∀ o, P (.process o))

def HarnessEdge (expected new : IntentStatus) : Prop :=
  (expected = .approved ∧ (new = .permitted ∨ new = .refused ∨ new = .expired)) ∨
    (expected = .permitted ∧ new = .refused)

theorem uses_harnessDecider (decider : BrokeredCall → Facts → Act Decision)
    (hd : ∀ call facts, Uses P (decider call facts)) (call : BrokeredCall) (facts : Facts) :
    Uses P (harnessDecider decider call facts) := by
  refine .bind (hd call facts) fun decided => ?_
  cases decided <;> trivial

theorem uses_harnessReleaseDecider (decider : BrokeredCall → Facts → Act Decision)
    (hd : ∀ call facts, Uses P (decider call facts)) (call : BrokeredCall) (facts : Facts) :
    Uses P (harnessReleaseDecider decider call facts) := by
  refine .bind (hd call facts) fun decided => ?_
  cases decided <;> trivial

theorem uses_harnessDeciderFor (plain : ∀ o, Plain o → P o) (request : DecisionRequest) (release : Option HarnessRelease) (holdId : String)
    (call : BrokeredCall) (facts : Facts) :
    Uses P (R.deciderFor (some (R.harnessHooks request release holdId)) call facts) := by
  refine uses_gate plain (fun call facts => ?_) call facts
  cases release with
  | none => exact uses_harnessDecider R.decide (fun _ _ => trivial) call facts
  | some release => exact uses_harnessReleaseDecider R.decide (fun _ _ => trivial) call facts

include routine memory

theorem uses_recordPermit (request : DecisionRequest) (release : Option HarnessRelease) (ref : TurnRef)
    (call : BrokeredCall) : Uses P (R.recordPermit request release ref call) := by
  unfold recordPermit
  split
  · exact .bind (uses_process.mpr (memory _)) fun _ => uses_emit.mpr (routine _ trivial)
  · exact uses_emit.mpr (routine _ trivial)

variable (moves : ∀ id expected new, HarnessEdge expected new →
  P (.intents (.transitionStatus id expected new none none)))
include moves

theorem uses_permit (request : DecisionRequest) (release : Option HarnessRelease) (ref : TurnRef)
    (call : BrokeredCall) (effective : Decision) : Uses P (R.permit request release ref call effective) := by
  have claims : Uses P (claimRelease release) := by
    cases release with
    | none => trivial
    | some release =>
      refine .bind (uses_intents.mpr (moves _ _ _ (.inl ⟨rfl,.inl rfl⟩))) fun won => ?_
      cases won <;> trivial
  have abandons : Uses P (abandonPermit release) := by
    cases release with
    | none => trivial
    | some release =>
      exact uses_guarded (.bind (uses_intents.mpr (moves _ _ _ (.inr ⟨rfl,rfl⟩))) fun _ => trivial)
  unfold permit
  split
  · refine .bind claims fun _ => .bind ?_ fun _ => trivial
    exact .tryCatch (R.uses_recordPermit routine memory request release ref call) fun e => .bind abandons fun _ => trivial
  · trivial

omit memory in
theorem uses_approvedHarnessIntent (request : DecisionRequest) (holdId : String) :
    Uses P (R.approvedHarnessIntent request holdId) := by
  refine .bind ((plain_readIntent holdId).mono (routinely routine)) fun read => ?_
  match read with
  | .quarantined intentId reason => exact .bind (uses_emit.mpr (routine _ trivial)) fun _ => trivial
  | .found none => trivial
  | .found (some held) =>
    dsimp only
    split
    · unfold judgeApproved
      split
      · refine .bind (uses_env.mpr (routine _ trivial)) fun now => .bind uses_finish fun expired => ?_
        cases expired with
        | false => trivial
        | true =>
          refine .bind (uses_intents.mpr (moves _ _ _ (.inl ⟨rfl,.inr (.inr rfl)⟩))) fun won => ?_
          cases won with
          | false => trivial
          | true => exact .bind (uses_emit.mpr (routine _ trivial)) fun _ => trivial
      · exact .bind (uses_emit.mpr (routine _ trivial)) fun _ => trivial
    · trivial

theorem uses_decideThrough (request : DecisionRequest) (release : Option HarnessRelease) (holdId : String) :
    Uses P (R.decideThrough request release holdId) := by
  refine .bind (R.uses_pipeline routine memory _ none [] _ (R.uses_harnessDeciderFor (routinely routine) request release holdId)
    fun ref call decision => R.uses_permit routine memory moves request release ref call decision) fun response => ?_
  unfold answerHarness
  split
  · trivial
  · refine .bind ?_ fun _ => trivial
    cases release with
    | none => trivial
    | some release => exact .bind (uses_intents.mpr (moves _ _ _ (.inl ⟨rfl,.inr (.inl rfl)⟩))) fun _ => trivial

theorem uses_decideHarness (request : DecisionRequest) : Uses P (R.decideHarness request) := by
  refine .bind (uses_env.mpr (routine _ trivial)) fun _ => ?_
  refine .bind (R.uses_approvedHarnessIntent routine moves request _) fun found => ?_
  cases found with
  | answered decision => trivial
  | fresh => exact R.uses_decideThrough routine memory moves request none _
  | release release => exact R.uses_decideThrough routine memory moves request (some release) _

theorem uses_decideHarnessCall (report : DecisionReport) : Uses P (R.decideHarnessCall report) := by
  unfold decideHarnessCall
  split
  · unfold refuseDecisionRequest
    split
    · trivial
    · split
      · trivial
      · refine .bind (uses_caught (uses_emit.mpr (routine _ trivial))) fun recorded => ?_
        cases recorded <;> trivial
  · refine .tryCatch (R.uses_decideHarness routine memory moves _) fun e => ?_
    split
    · exact .bind (uses_guarded (uses_emit.mpr (routine _ trivial))) fun _ => trivial
    · trivial

end Harness

section Sweep
variable (routine : ∀ o, Routine o → P o) (memory : ∀ o, P (.process o))
  (expires : ∀ id, P (.intents (.transitionStatus id .pending .expired none none)))
include routine

theorem uses_surfaceQuarantinedIntent (intentId reason seam : String) :
    Uses P (R.surfaceQuarantinedIntent intentId reason seam) := uses_emit.mpr (routine _ trivial)

include memory expires

theorem uses_sweepCandidate (at_ : Instant) (intentId : String) : Uses P (R.sweepCandidate at_ intentId) := by
  refine .bind ((plain_readIntent intentId).mono (routinely routine)) fun read => ?_
  match read with
  | .quarantined quarantinedId reason =>
    refine .bind (.bind (uses_process.mpr (memory _)) fun first => ?_) fun _ => trivial
    cases first with
    | false => trivial
    | true => exact R.uses_surfaceQuarantinedIntent routine _ _ _
  | .found none => trivial
  | .found (some intent) =>
    dsimp only
    split
    · refine .bind ?_ fun expired => ?_
      · unfold Approval.expireIfDue
        split
        · trivial
        · refine .bind uses_finish fun due => ?_
          cases due with
          | false => trivial
          | true => exact uses_intents.mpr (expires _)
      · cases expired with
        | false => trivial
        | true => exact .bind ((R.plain_recordExpiry intent).mono (routinely routine)) fun _ => trivial
    · trivial

theorem uses_sweepExpiredIntents (now : Option Instant) : Uses P (R.sweepExpiredIntents now) := by
  have all (at_ : Instant) (candidates : List String) : Uses P (R.sweepCandidates at_ candidates) := by
    induction candidates with
    | nil => trivial
    | cons intentId candidates ih =>
      exact .bind (R.uses_sweepCandidate routine memory expires at_ intentId) fun _ => .bind ih fun _ => trivial
  refine .bind ((plain_resolveNow now).mono (routinely routine)) fun at_ => ?_
  refine .bind (uses_intents.mpr (routine _ trivial)) fun candidates => ?_
  exact .bind (all at_ candidates) fun _ => .bind (R.plain_flushAlarm.mono (routinely routine)) fun _ => trivial

end Sweep

end BrokerRuntime

end Runtime

end SafeAgents
