import SafeAgents.Runtime.Execute

namespace SafeAgents

open Interleaving

namespace Runtime

def harnessToolRefusalReason : String :=
  "harness-tool is decided only through the decision mouth; it is not a callable op"

def intentIdCollisionReason : String := "intent id already pending"

def digestPrefix (n : Nat) (digest : String) : String := String.ofList (digest.toList.take n)

def dedupIntentId (sha256 : String → String) (principal : Principal) (tool op argsDigest : String) : String :=
  "intent-dedup-" ++ digestPrefix 16 (sha256 (principal.key ++ ":" ++ tool ++ "." ++ op ++ ":" ++ argsDigest))

def harnessHoldIntentId (sha256 : String → String) (principal : Principal) (op inputDigest : String) : String :=
  "intent-harness-" ++
    digestPrefix 32 (sha256 (principal.key ++ ":" ++ harnessTool ++ "." ++ op ++ ":" ++ inputDigest))

structure PipelineHooks where
  wrapDecider : (BrokeredCall → Facts → Act Decision) → BrokeredCall → Facts → Act Decision
  makeExecutor : TurnRef → BrokeredCall → Decision → Act ConnectorResult
  holdId : Option String
  recordExtra : AuditRecord → AuditRecord

namespace BrokerRuntime
variable (R : BrokerRuntime)

def extra : Option PipelineHooks → AuditRecord → AuditRecord
  | some hooks => hooks.recordExtra
  | none => id

def deciderFor : Option PipelineHooks → BrokeredCall → Facts → Act Decision
  | some hooks => gate (hooks.wrapDecider R.decide)
  | none => gate R.decide

def executorFor (hooks : Option PipelineHooks) (ref : TurnRef) : BrokeredCall → Decision → Act ConnectorResult :=
  match hooks with
  | some hooks => hooks.makeExecutor ref
  | none => R.executor ref

def denied (reason : String) : BrokerResponse := { decisionKind := .deny, reason := some reason }

def surfaceQuarantinedIntent (intentId reason seam : String) : Act Unit :=
  emit {
    R.record R.principal "intent-store" seam (.obj []) .deny .denied with
    reason := some ("intent quarantined: " ++ reason)
    intentId := some intentId }

def denyIntentIdCollision (call : BrokeredCall) (intentId : String) : Act BrokerResponse := do
  let reason := intentIdCollisionReason ++ ": " ++ intentId
  emit { R.callRecord call .deny .denied with reason := some reason, intentId := some intentId }
  return denied reason

def dedupIdFor (hooks : Option PipelineHooks) (call : BrokeredCall) : Option String :=
  match hooks.bind PipelineHooks.holdId with
  | some holdId => some holdId
  | none =>
    match R.approvalQueue with
    | some queue =>
      if queue.dedup then
        some (dedupIntentId R.digests.sha256 call.principal call.tool call.op (R.digests.hashArgs call.args))
      else none
    | none => none

inductive HoldOutcome where
  | held (result : Approval.ApprovalResult)
  | quarantined (intentId reason : String)
  | collision (intentId : String)

def tryHold (hooks : Option PipelineHooks) (call : BrokeredCall) (renderedIntent : RenderedIntent) : Act HoldOutcome :=
  tryCatch
    (do
      let result ← Approval.materialize {
        call, renderedIntent, dedupId := R.dedupIdFor hooks call, notifies := false }
      return .held result)
    fun e =>
      match e with
      | .quarantinedIntent intentId reason => return .quarantined intentId reason
      | .intentAlreadyPending intentId => return .collision intentId
      | _ => throw e

def countHold (call : BrokeredCall) (cap : Nat) : Act Unit := do
  let key ← counterKey R.counterPeriod R.principal call.tool call.op approvalSuffix
  let withinCap ← store (.tryIncrementCounter key 1 cap)
  if withinCap then return () else env (.raiseAlarm call.tool call.op)

def floodAlarm (call : BrokeredCall) (coalesced : Bool) : Act Unit :=
  match R.approvalQueue.bind ApprovalQueue.maxPendingPerOpDay with
  | some cap => if coalesced then return () else R.countHold call cap
  | none => return ()

def recordHold (call : BrokeredCall) (reason : Option String) (approval : Approval.ApprovalResult) : Act Unit :=
  emit {
    R.callRecord call .requireApproval .held with
    reason := if approval.coalesced then some "approval-queue-coalesced" else reason
    intentId := some approval.intentId
    storedCallDigest := if approval.coalesced then none else some (R.digests.hashStoredCall call) }

def hold (hooks : Option PipelineHooks) (call : BrokeredCall) (renderedIntent : RenderedIntent)
    (reason : Option String) : Act BrokerResponse := do
  match ← R.tryHold hooks call renderedIntent with
  | .quarantined intentId quarantineReason =>
    R.surfaceQuarantinedIntent intentId quarantineReason "hold"
    return denied (if hooks.isSome then "intent quarantined" else "intent quarantined: " ++ quarantineReason)
  | .collision intentId => R.denyIntentIdCollision call intentId
  | .held approval =>
    R.floodAlarm call approval.coalesced
    R.recordHold call reason approval
    return {
      decisionKind := .requireApproval
      reason := if hooks.isSome then reason else none
      intentId := some approval.intentId }

def methodText : ConfidenceMethod → String
  | .selfConsistency => "self-consistency"
  | .ensemble => "ensemble"
  | .conformal => "conformal"

def abstainReason (call : BrokeredCall) (reason : String) : String :=
  match call.confidence with
  | none => reason
  | some a =>
    reason ++ " [confidence artifact: method=" ++ methodText a.method ++ " confidence=" ++ R.pyFloat a.confidence ++
      " error_prob=" ++ R.pyFloat a.errorProb ++ " stale=" ++ Pdp.pyBool a.stale ++ "]"

def recordRefusal (hooks : Option PipelineHooks) (call : BrokeredCall) (kind : Kind) (reason : String) :
    Act BrokerResponse := do
  emit (extra hooks { R.callRecord call kind .denied with reason := some reason })
  return { decisionKind := kind, reason := some reason }

def respond (hooks : Option PipelineHooks) (call : BrokeredCall) (result : EnforcementResult) : Act BrokerResponse :=
  if result.idempotent then
    return {
      decisionKind := result.decision.kind
      reason := reasonOf result.decision
      result := result.result
      idempotent := true }
  else
    match result.decision with
    | .allow => return { decisionKind := .allow, result := result.result }
    | .transform _ _ => return { decisionKind := .transform, result := result.result }
    | .requireApproval renderedIntent reason => R.hold hooks call renderedIntent reason
    | .deny reason => R.recordRefusal hooks call .deny reason
    | .abstain _ reason => R.recordRefusal hooks call .abstain (R.abstainReason call reason)

def surfaceQuarantinedGrant (hooks : Option PipelineHooks) (call : BrokeredCall) (facts : Facts) : Act Unit :=
  if facts.quarantined then
    emit (extra hooks {
      R.callRecord call .deny .denied with
      reason := some ("grant quarantined: " ++ facts.quarantineReason.getD "None") })
  else return ()

def requestFor (request : AgentRequest) (call : BrokeredCall) (initialDecision : Decision) (counterKey : String)
    (ancestorDraws : List CounterDraw) : Enforcement.Request where
  call := call
  initialDecision := initialDecision
  idempotencyKey := request.idempotencyKey
  counterKey := counterKey
  counterDelta := 1
  counterCap := R.counterCap
  ancestorDraws := ancestorDraws

def callbacksFor (hooks : Option PipelineHooks) (ref : TurnRef) : Enforcement.Callbacks where
  decider := R.deciderFor hooks
  freshFacts := R.pip
  executor := some (R.executorFor hooks ref)

def enforceCall (request : AgentRequest) (hooks : Option PipelineHooks) (ref : TurnRef) (call : BrokeredCall)
    (initialDecision : Decision) (key : String) : Act (Except Exn EnforcementResult) :=
  tryCatch
    (do
      let draws ← R.treeDraws call.principal call.tool call.op
      let result ← Enforcement.enforce (R.requestFor request call initialDecision key draws) (R.callbacksFor hooks ref)
      return .ok result)
    fun e => if e.isConnectorExecution then return .error e else throw e

def executionFailed (e : Exn) : BrokerResponse where
  decisionKind := .deny
  reason := some "connector execution failed"
  executionOutcome := some (if e.refused then .refused else .failed)

def decideCall (request : AgentRequest) (hooks : Option PipelineHooks) (ref : TurnRef) (call : BrokeredCall) :
    Act BrokerResponse := do
  let initialFacts ← R.pip call
  R.surfaceQuarantinedGrant hooks call initialFacts
  let initialDecision ← R.deciderFor hooks call initialFacts
  let key ← counterKey R.counterPeriod R.principal request.tool request.op actionCapSuffix
  match ← R.enforceCall request hooks ref call initialDecision key with
  | .error e => return executionFailed e
  | .ok result => R.respond hooks call result

def materializeCall (request : AgentRequest) (entry : ToolOp) (turn : TurnContext)
    (confidence : Option ConfidenceArtifact) (ts : Instant) : BrokeredCall where
  principal := R.principal
  tool := request.tool
  op := request.op
  args := request.args
  manifest := entry
  taint := turn.toTaint
  session := { turnId := turn.turnId, ingestedSources := turn.sources }
  ts := Calendar.isoformat ts
  confidence := confidence

def refuseUnlisted (request : AgentRequest) (hooks : Option PipelineHooks) : Act BrokerResponse := do
  let reason := "no manifest entry for " ++ request.tool ++ "." ++ request.op
  emit (extra hooks {
    R.record R.principal request.tool request.op request.args .deny .denied with reason := some reason })
  return denied reason

def stampAndDecide (request : AgentRequest) (hooks : Option PipelineHooks) (ref : TurnRef) (entry : ToolOp)
    (turn : TurnContext) (confidence : Option ConfidenceArtifact) : Act BrokerResponse := do
  let ts ← process (.stampCallTs R.instanceId)
  R.decideCall request hooks ref (R.materializeCall request entry turn confidence ts)

def dispatch (request : AgentRequest) (hooks : Option PipelineHooks) (ref : TurnRef) (turn : TurnContext) :
    Act BrokerResponse :=
  match R.optable.entry request.tool request.op with
  | none => R.refuseUnlisted request hooks
  | some entry =>
    match request.confidence with
    | .malformed => return denied "invalid confidence artifact"
    | .absent => R.stampAndDecide request hooks ref entry turn none
    | .artifact artifact => R.stampAndDecide request hooks ref entry turn (some artifact)

def pipeline (request : AgentRequest) (turnContext : Option TurnRef) (ingestedSources : List String)
    (hooks : Option PipelineHooks) : Act BrokerResponse := do
  let ref ← R.turnFor turnContext
  R.ingestSources ref ingestedSources
  let turn ← contextOf ref
  R.dispatch request hooks ref turn

def handleRequest (request : AgentRequest) (turnContext : Option TurnRef) (ingestedSources : List String) :
    Act BrokerResponse := do
  if request.tool = harnessTool then
    let ref ← R.turnFor turnContext
    R.ingestSources ref ingestedSources
    emit {
      R.record R.principal request.tool request.op request.args .deny .denied with
      reason := some harnessToolRefusalReason }
    return denied harnessToolRefusalReason
  else R.pipeline request turnContext ingestedSources none

def observedArgs (event : ObservedEvent) : Json :=
  .obj [
    ("call",match event.callDigest with
      | some digest => .str digest
      | none => .null),
    ("harness",.str event.harness),
    ("locality",.str event.locality.text),
    ("subject",.str event.subjectDigest)]

def ingestObserved (event : ObservedEvent) : Act (Option String) := do
  if event.taints && !R.trustedReadSources.contains event.sourceId then
    let ref ← R.sessionTurn
    R.ingestSource ref event.sourceId
    return some event.sourceId
  else return none

def recordObservedEvent (report : ObservedReport) : Act (Option String) := do
  let event ← Prog.finish (validateObservedEvent report)
  let ingested ← R.ingestObserved event
  emit {
    R.record R.principal harnessTool event.toolClass.text (observedArgs event) .abstain .observed with
    resultDigest := event.resultDigest
    reason := some ("observed, not decided: " ++ event.harness ++ " " ++ event.toolClass.text ++ " (" ++
      event.locality.text ++ ") reported by mouth " ++ event.mouth) }
  return ingested

end BrokerRuntime

end Runtime

end SafeAgents
