import SafeAgents.Runtime.Pep

namespace SafeAgents

open Interleaving

namespace Runtime

def faultReason : String := "the broker could not decide this call; refused"

def malformedReason : String := "malformed decision request; refused"

def harnessReleaseMismatchReason : String := "an approved intent under this call's id does not match the call; refused"

def harnessApprovalLapsedReason : String :=
  "approval lapsed unused: the harness did not ask again before the intent expired"

def permittedReason (op : String) : Option String → String
  | none => "permitted at " ++ harnessTool ++ "." ++ op ++ " as declared by the manifest; performed by the harness"
  | some intentId =>
    "permitted once at " ++ harnessTool ++ "." ++ op ++ " on the approval of intent " ++ intentId ++
      ", as declared by the manifest; performed by the harness"

def transformReason (op : String) : String :=
  "configuration error: the PDP returned transform at " ++ harnessTool ++ "." ++ op ++
    ", and the broker holds no safer op for a harness tool; refused"

def refused (reason : String) (decisionKind : Option Kind := none) (outcome : Option HarnessOutcome := none)
    (intentId : Option String := none) : HarnessDecision :=
  { answer := .refuse, reason, decisionKind, outcome, intentId }

def harnessDecider (decider : BrokeredCall → Facts → Act Decision) (call : BrokeredCall) (facts : Facts) :
    Act Decision := do
  match ← decider call facts with
  | .transform _ _ => return .deny (transformReason call.op)
  | decided => return decided

def harnessReleaseDecider (decider : BrokeredCall → Facts → Act Decision) (call : BrokeredCall) (facts : Facts) :
    Act Decision := do
  match ← decider call facts with
  | .allow | .requireApproval _ _ => return .allow
  | .transform _ _ => return .deny (transformReason call.op)
  | decided => return decided

structure HarnessRelease where
  intentId : String
  approvedBy : String
  storedCallDigest : String

inductive Found where
  | fresh
  | release (release : HarnessRelease)
  | answered (decision : HarnessDecision)

namespace BrokerRuntime
variable (R : BrokerRuntime)

def releaseExtra : Option HarnessRelease → AuditRecord → AuditRecord
  | none, record => record
  | some release, record => Receipt.stamp ⟨release.approvedBy,release.intentId,release.storedCallDigest⟩ record

def ownsIntent (intent : Intent) : Bool := intent.materializedRequest.principal = R.principal

def matchesRequest (request : DecisionRequest) (held : Intent) : Bool :=
  let stored := held.materializedRequest
  R.ownsIntent held && stored.tool == harnessTool && stored.op == request.op &&
    (stored.args.get? "input").bind Json.str? == some request.inputDigest

def recordLapsedApproval (intent : Intent) : Act Unit :=
  emit {
    R.callRecord intent.materializedRequest .requireApproval .expired with
    reason := some harnessApprovalLapsedReason
    approvedBy := intent.approvedBy
    intentId := some intent.id
    storedCallDigest := some (R.digests.hashStoredCall intent.materializedRequest)
    expiredAt := some intent.expiry }

def lapse (holdId : String) (held : Intent) : Act Found := do
  let won ← intents (.transitionStatus holdId .approved .expired none none)
  if won then
    R.recordLapsedApproval held
    return .fresh
  else return .fresh

def refuseMismatch (request : DecisionRequest) (holdId : String) : Act Found := do
  emit {
    R.record R.principal harnessTool request.op request.args .deny .denied with
    reason := some harnessReleaseMismatchReason
    intentId := some holdId }
  return .answered (refused harnessReleaseMismatchReason (some .deny) (some .denied))

def judgeApproved (request : DecisionRequest) (holdId : String) (held : Intent) : Act Found := do
  if R.matchesRequest request held then
    let now ← env .now
    let expired ← Prog.finish (Approval.pastExpiry held.expiry now R.clockSkew)
    if expired then R.lapse holdId held
    else
      return .release {
        intentId := holdId
        approvedBy := held.approvedBy.getD ""
        storedCallDigest := R.digests.hashStoredCall held.materializedRequest }
  else R.refuseMismatch request holdId

inductive IntentRead where
  | found (intent : Option Intent)
  | quarantined (intentId reason : String)

def readIntent (intentId : String) : Act IntentRead :=
  tryCatch
    (do
      let intent ← intents (.getIntent intentId)
      return .found intent)
    fun e =>
      match e with
      | .quarantinedIntent intentId reason => return .quarantined intentId reason
      | _ => throw e

def approvedHarnessIntent (request : DecisionRequest) (holdId : String) : Act Found := do
  match ← readIntent holdId with
  | .quarantined intentId reason =>
    R.surfaceQuarantinedIntent intentId reason "decide"
    return .answered (refused "intent quarantined" (some .deny) (some .denied))
  | .found none => return .fresh
  | .found (some held) => if held.status = .approved then R.judgeApproved request holdId held else return .fresh

def releasedId (release : Option HarnessRelease) : Option String := release.map HarnessRelease.intentId

def permitRecord (release : Option HarnessRelease) (call : BrokeredCall) : AuditRecord :=
  releaseExtra release {
    R.callRecord call .allow .permitted with reason := some (permittedReason call.op (releasedId release)) }

def recordPermit (request : DecisionRequest) (release : Option HarnessRelease) (ref : TurnRef)
    (call : BrokeredCall) : Act Unit := do
  if request.taints && !R.trustedReadSources.contains request.sourceId then R.ingestSource ref request.sourceId
  emit (R.permitRecord release call)

def abandonPermit (release : Option HarnessRelease) : Act Unit :=
  match release with
  | none => return ()
  | some release =>
    guarded do
      let _ ← intents (.transitionStatus release.intentId .permitted .refused none none)

def recordOrAbandon (request : DecisionRequest) (release : Option HarnessRelease) (ref : TurnRef)
    (call : BrokeredCall) : Act Unit :=
  tryCatch (R.recordPermit request release ref call) fun e => do
    abandonPermit release
    throw e

def claimRelease : Option HarnessRelease → Act Unit
  | none => return ()
  | some release => do
    let won ← intents (.transitionStatus release.intentId .approved .permitted none none)
    if won then return ()
    else throw (.exception ("intent " ++ release.intentId ++ " was no longer approved at release"))

def permit (request : DecisionRequest) (release : Option HarnessRelease) (ref : TurnRef) (call : BrokeredCall)
    (effective : Decision) : Act ConnectorResult := do
  if effective.kind = .allow then
    claimRelease release
    R.recordOrAbandon request release ref call
    return .permitRecorded
  else throw (.exception (harnessTool ++ " is permitted only on allow; got " ++ effective.kind.text))

def harnessHooks (request : DecisionRequest) (release : Option HarnessRelease) (holdId : String) : PipelineHooks where
  wrapDecider := if release.isNone then harnessDecider else harnessReleaseDecider
  makeExecutor := R.permit request release
  holdId := some holdId
  recordExtra := releaseExtra release

def isPermit (response : BrokerResponse) : Bool :=
  response.decisionKind = .allow && !response.idempotent &&
    match response.result with
    | .permitRecorded => true
    | _ => false

def permitAnswer (request : DecisionRequest) (release : Option HarnessRelease) : HarnessDecision where
  answer := .permit
  reason := permittedReason request.op (releasedId release)
  intentId := releasedId release
  decisionKind := some .allow
  outcome := some .permitted

def refusalReason (default : String) : Option String → String
  | some reason => if reason = "" then default else reason
  | none => default

def refusalAnswer (response : BrokerResponse) : HarnessDecision :=
  if response.decisionKind = .requireApproval then
    refused (refusalReason "held for approval" response.reason) (some response.decisionKind) (some .held)
      response.intentId
  else refused (refusalReason "refused" response.reason) (some response.decisionKind) (some .denied)

def refuseRelease : Option HarnessRelease → Act Unit
  | none => return ()
  | some release => do
    let _ ← intents (.transitionStatus release.intentId .approved .refused none none)

def answerHarness (request : DecisionRequest) (release : Option HarnessRelease) (response : BrokerResponse) :
    Act HarnessDecision := do
  if isPermit response then return permitAnswer request release
  else
    refuseRelease release
    return refusalAnswer response

def decideThrough (request : DecisionRequest) (release : Option HarnessRelease) (holdId : String) :
    Act HarnessDecision := do
  let response ← R.pipeline { tool := harnessTool, op := request.op, args := request.args } none []
    (some (R.harnessHooks request release holdId))
  answerHarness request release response

def holdIdFor (request : DecisionRequest) : String :=
  harnessHoldIntentId R.digests.sha256 R.principal request.op request.inputDigest

def decideHarness (request : DecisionRequest) : Act HarnessDecision := do
  -- The intent input is established at a reading taken before the intent is read.
  let _ ← env .now
  let holdId := R.holdIdFor request
  match ← R.approvedHarnessIntent request holdId with
  | .answered decision => return decision
  | .fresh => R.decideThrough request none holdId
  | .release release => R.decideThrough request (some release) holdId

def recordHarnessFault (request : DecisionRequest) (e : Exn) : Act Unit :=
  guarded (emit {
    R.record R.principal harnessTool request.op request.args .deny .denied with
    reason := some (faultReason ++ " (" ++ e.typeName ++ ")") })

def mouthRefusalTool : String := "broker-mouth"

def refusalRecord (mouth cause : String) : AuditRecord :=
  { R.record R.principal mouthRefusalTool mouth (.obj [("cause",.str cause)]) .deny .denied with
    reason := some ("decision request refused before it was decided: " ++ cause) }

def decisionRefusalCauses : List String := ["bad-method","too-large","bad-body","bad-field"]

def refuseDecisionRequest (mouth cause : String) : Act HarnessDecision := do
  if !isShortCode mouth then
    throw (.exception ("mouth must be a short lowercase code, got " ++ pyRepr mouth))
  else if !decisionRefusalCauses.contains cause then
    throw (.exception "cause must be one of the decision refusal causes")
  else
    match ← caught (emit (R.refusalRecord mouth cause)) with
    | some () => return refused malformedReason (some .deny) (some .denied)
    | none => return refused malformedReason

def decideOrRefuse (request : DecisionRequest) : Act HarnessDecision :=
  tryCatch (R.decideHarness request) fun e =>
    if e.isException then do
      R.recordHarnessFault request e
      return refused faultReason
    else throw e

def decideHarnessCall (report : DecisionReport) : Act HarnessDecision :=
  match validateDecisionRequest report with
  | .error _ => R.refuseDecisionRequest report.mouth "bad-field"
  | .ok request => R.decideOrRefuse request

end BrokerRuntime

end Runtime

end SafeAgents
