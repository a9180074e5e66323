import SafeAgents.Runtime.Turn
import SafeAgents.Enforcement.Engine
import SafeAgents.Approval.Engine

namespace SafeAgents

open Interleaving

namespace Runtime

def inputPastMaxAgeReason : String := "input past maximum age"

def inputAgeCheckFailedReason : String := "input age check failed"

-- The environment answers with the descriptions of the inputs past their age.
def inputsPastAge : Act (Except Exn (List String)) :=
  tryCatch
    (do
      let stale ← env .staleInputs
      return .ok stale)
    fun e => if e.isException then return .error e else throw e

def gate (decider : BrokeredCall → Facts → Act Decision) (call : BrokeredCall) (facts : Facts) : Act Decision := do
  match ← inputsPastAge with
  | .error e => return .deny (inputAgeCheckFailedReason ++ ": " ++ e.typeName)
  | .ok [] => decider call facts
  | .ok stale => return .deny (inputPastMaxAgeReason ++ ": " ++ "; ".intercalate stale)

namespace BrokerRuntime
variable (R : BrokerRuntime)

def decide (call : BrokeredCall) (facts : Facts) : Act Decision := return Pdp.decide R.digests.sha256 call facts

def record (principal : Principal) (tool op : String) (args : Json) (decision : Kind) (outcome : Outcome) :
    AuditRecord where
  principal := principal
  tool := tool
  op := op
  argsDigest := R.digests.hashArgs args
  decision := decision
  outcome := outcome
  envelopeHash := R.envelopeHash

def callRecord (call : BrokeredCall) (decision : Kind) (outcome : Outcome) : AuditRecord :=
  R.record call.principal call.tool call.op call.args decision outcome

def treeDraws (principal : Principal) (tool op : String) : Act (List CounterDraw) := do
  let draw ← Delegation.resolveTreePool R.delegates R.counterPeriod R.counterCap principal tool op
  return draw.toList

def runDoer (path : ExecutionPath) (call : BrokeredCall) (effective : Decision) : Act DoerResult := do
  R.writeInheritanceIfDeclared call effective
  env (.doer path call effective)

def egressText (call : BrokeredCall) : Option String :=
  match call.manifest.egressArg with
  | none => none
  | some egressArg => (call.args.get? egressArg).bind Json.str?

def meterQueryBytes (call : BrokeredCall) : Act Unit :=
  match egressText call with
  | none => return ()
  | some text => do
    let key ← counterKey R.counterPeriod call.principal call.tool call.op queryBytesSuffix
    let _ ← store (.tryIncrementCounter key text.utf8ByteSize unboundedCounterCap)

def selfIngest (ref : TurnRef) (call : BrokeredCall) : Act Unit :=
  let source := connectorSourceId call.tool call.op
  if R.trustedReadSources.contains source then return () else R.ingestSource ref source

def afterRead (ref : TurnRef) (call : BrokeredCall) : Act Unit := do
  if call.manifest.externalRead then
    R.selfIngest ref call
    R.meterQueryBytes call
  else return ()

def signalIfCrossed (call : BrokeredCall) (draw spent tolerance : ℚ) : Act Unit :=
  if spent ≥ tolerance ∧ spent - draw < tolerance then
    guarded (env (.demotionSignal call spent tolerance))
  else return ()

def drawErrorBudget (call : BrokeredCall) (knob : Confidence) (tolerance : ℚ) : Act Unit := do
  let blast := effectiveBlastClass call.manifest knob.highBlast
  let draw ← Prog.finish (errorBudgetDraw ((call.confidence.map ConfidenceArtifact.errorProb).getD 1) blast knob)
  let key ← counterKey R.counterPeriod call.principal call.tool call.op errorBudgetSuffix
  let _ ← store (.tryIncrementCounter key draw unboundedCounterCap)
  let spent ← store (.readCounter key)
  signalIfCrossed call draw spent tolerance

def meterErrorBudget (call : BrokeredCall) : Act Unit :=
  match R.confidenceKnob with
  | none => return ()
  | some knob =>
    match knob.errorBudgetTolerance with
    | none => return ()
    | some tolerance => if call.manifest.effect = .write then R.drawErrorBudget call knob tolerance else return ()

def countObservation (call : BrokeredCall) : Act Unit :=
  guarded do
    let key ← counterKey R.counterPeriod call.principal call.tool call.op observationsSuffix
    let _ ← store (.tryIncrementCounter key 1 unboundedCounterCap)

def runInline (call : BrokeredCall) (effective : Decision) : Act DoerResult :=
  tryCatch (R.runDoer .inline call effective) fun e =>
    if e.isConnectorExecution then do
      emit { R.callRecord call effective.kind (if e.refused then .refused else .failed) with error := some e.str }
      throw e
    else throw e

def executor (ref : TurnRef) (call : BrokeredCall) (effective : Decision) : Act ConnectorResult := do
  let doerResult ← R.runInline call effective
  emit {
    R.record call.principal call.tool doerResult.op call.args effective.kind .executed with
    resultDigest := some (R.digests.hashResult doerResult.result) }
  R.afterRead ref call
  R.meterErrorBudget call
  R.countObservation call
  return doerResult.result

structure Receipt where
  approvedBy : String
  intentId : String
  storedCallDigest : String

def Receipt.stamp (receipt : Receipt) (record : AuditRecord) : AuditRecord :=
  { record with
    approvedBy := some receipt.approvedBy
    intentId := some receipt.intentId
    storedCallDigest := some receipt.storedCallDigest }

def runReleased (receipt : Receipt) (call : BrokeredCall) (effective : Decision) : Act DoerResult :=
  tryCatch (R.runDoer .release call effective) fun e =>
    if e.isConnectorExecution then do
      emit (receipt.stamp { R.callRecord call effective.kind .failed with error := some e.str })
      match e with
      | .inheritanceWrite message => throw (.releaseRefused message)
      | _ => throw e
    else throw e

def releaseExecutor (receipt : Receipt) (call : BrokeredCall) (effective : Decision) : Act ConnectorResult := do
  let doerResult ← R.runReleased receipt call effective
  emit (receipt.stamp {
    R.record call.principal call.tool doerResult.op call.args effective.kind .executed with
    resultDigest := some (R.digests.hashResult doerResult.result) })
  R.countObservation call
  return doerResult.result

def transformAtReleaseReason (op : String) : String :=
  "release-time revalidation returned transform (op=" ++ pyRepr op ++
    "); the approved call is no longer executable as approved and a release never runs anything other than the bytes the human saw"

def approvedDecider (call : BrokeredCall) (facts : Facts) : Act Decision := do
  match ← R.decide call facts with
  | .allow | .requireApproval _ _ => return .allow
  | .transform op _ => return .deny (transformAtReleaseReason op)
  | decided => return decided

def reasonOf : Decision → Option String
  | .deny reason => some reason
  | .abstain _ reason => some reason
  | .requireApproval _ reason => reason
  | _ => none

-- `getattr(decision, "reason", None) or default`: an absent or empty reason falls to the default.
def reasonOr (default : String) (decision : Decision) : String :=
  match reasonOf decision with
  | some reason => if reason = "" then default else reason
  | none => default

def releaseRequest (storedCall : BrokeredCall) (counterKey : String) (ancestorDraws : List CounterDraw) :
    Enforcement.Request where
  call := storedCall
  initialDecision := .allow
  idempotencyKey := none
  counterKey := counterKey
  counterDelta := 1
  counterCap := R.counterCap
  ancestorDraws := ancestorDraws

def releaseCallbacks (receipt : Receipt) : Enforcement.Callbacks where
  decider := gate R.approvedDecider
  freshFacts := R.pip
  executor := some (R.releaseExecutor receipt)

def exec (intentId approvedBy : String) (storedCall : BrokeredCall) : Act ConnectorResult := do
  let receipt : Receipt := ⟨approvedBy,intentId,R.digests.hashStoredCall storedCall⟩
  let key ← counterKey R.counterPeriod storedCall.principal storedCall.tool storedCall.op actionCapSuffix
  let draws ← R.treeDraws storedCall.principal storedCall.tool storedCall.op
  let enforced ← Enforcement.enforce (R.releaseRequest storedCall key draws) (R.releaseCallbacks receipt)
  if enforced.decision.kind = .allow then return enforced.result
  else
    let reason := reasonOr "release refused" enforced.decision
    emit (receipt.stamp { R.callRecord storedCall enforced.decision.kind .denied with reason := some reason })
    throw (.releaseRefused reason)

end BrokerRuntime

end Runtime

end SafeAgents
