import SafeAgents.Runtime.Harness

namespace SafeAgents

open Interleaving

namespace Runtime

def shownInputMismatchReason : String :=
  "approval refused: the input the approval surface showed does not digest to the held input digest"

def approvalExpiredReason : String := "approval expired undecided"

def alarmCountWriteFailed : String := "approval alarm count write failed"

def evidenceLabelWriteFailed : String := "evidence label write failed"

def heldInputDigest (intent : Intent) : Option String :=
  if intent.materializedRequest.tool = harnessTool then
    (intent.materializedRequest.args.get? "input").bind Json.str?
  else none

def refusedExecution (intentId reason : String) : Approval.ExecutionResult :=
  { intentId, executed := false, rejectionReason := some reason }

namespace BrokerRuntime
variable (R : BrokerRuntime)

def quarantinedIntentResult (intentId reason seam : String) : Act Approval.ExecutionResult := do
  R.surfaceQuarantinedIntent intentId reason seam
  return refusedExecution intentId ("intent quarantined: " ++ reason)

def foreign (held : Option Intent) : Bool :=
  match held with
  | some intent => !R.ownsIntent intent
  | none => false

def foreignIntentResult (intentId : String) : Approval.ExecutionResult :=
  refusedExecution intentId "intent belongs to a different principal"

-- The alarm exists only with the flood cap.
def hasAlarm : Bool := (R.approvalQueue.bind ApprovalQueue.maxPendingPerOpDay).isSome

def countExpiry (intent : Intent) : Act Bool :=
  if R.hasAlarm then
    env (.countExpiry intent.materializedRequest.tool intent.materializedRequest.op intent.ts intent.expiry)
  else return true

def recordExpiry (intent : Intent) : Act Unit := do
  let counted ← R.countExpiry intent
  emit {
    R.callRecord intent.materializedRequest .requireApproval .expired with
    reason := some approvalExpiredReason
    error := if counted then none else some alarmCountWriteFailed
    intentId := some intent.id
    storedCallDigest := some (R.digests.hashStoredCall intent.materializedRequest)
    expiredAt := some intent.expiry }

def flushAlarm : Act Unit := if R.hasAlarm then env .flushAlarm else return ()

def recordLateExpiry (held : Option Intent) (intentId seam : String) : Act Unit := do
  match held with
  | some intent =>
    R.recordExpiry intent
    R.flushAlarm
  | none =>
    match ← readIntent intentId with
    | .quarantined intentId reason => R.surfaceQuarantinedIntent intentId reason seam
    | .found none => return ()
    | .found (some intent) =>
      R.recordExpiry intent
      R.flushAlarm

def settleLate (held : Option Intent) (intentId seam : String) (result : Approval.ExecutionResult) :
    Act Approval.ExecutionResult := do
  if result.expiredByThisCall then
    R.recordLateExpiry held intentId seam
    return result
  else return result

-- A quarantine met by the engine's own read still refuses.
def surfacing (seam : String) (p : Act Approval.ExecutionResult) (onOk : Approval.ExecutionResult → Act Approval.ExecutionResult) :
    Act Approval.ExecutionResult := do
  let outcome ← tryCatch
    (do
      let result ← p
      return Except.ok result)
    fun e =>
      match e with
      | .quarantinedIntent intentId reason => return Except.error (intentId,reason)
      | _ => throw e
  match outcome with
  | .error (intentId,reason) => R.quarantinedIntentResult intentId reason seam
  | .ok result => onOk result

def refuseShownInput (held : Intent) (intentId approvedBy : String) : Act Approval.ExecutionResult := do
  emit {
    R.callRecord held.materializedRequest .deny .denied with
    reason := some shownInputMismatchReason
    approvedBy := some approvedBy
    intentId := some intentId
    storedCallDigest := some (R.digests.hashStoredCall held.materializedRequest) }
  return refusedExecution intentId shownInputMismatchReason

def showsOther (held : Intent) (shownInputDigest : Option String) : Bool :=
  match shownInputDigest with
  | some shown => heldInputDigest held ≠ some shown
  | none => false

def approveReissue (held : Intent) (intentId approvedBy : String) : Act Approval.ExecutionResult := do
  let now ← env .now
  R.surfacing "approve" (Approval.approveForReissue intentId approvedBy (some now) R.clockSkew)
    (R.settleLate (some held) intentId "approve")

def approveHeld (held : Option Intent) (intentId approvedBy : String) : Act Approval.ExecutionResult :=
  R.surfacing "approve" (Approval.approve intentId approvedBy (some (R.exec intentId approvedBy)) none R.clockSkew)
    (R.settleLate held intentId "approve")

def approveFound (held : Option Intent) (intentId approvedBy : String) (shownInputDigest : Option String) :
    Act Approval.ExecutionResult :=
  if R.foreign held then return foreignIntentResult intentId
  else
    match held with
    | none => R.approveHeld none intentId approvedBy
    | some intent =>
      if showsOther intent shownInputDigest then R.refuseShownInput intent intentId approvedBy
      else if intent.materializedRequest.tool = harnessTool then R.approveReissue intent intentId approvedBy
      else R.approveHeld (some intent) intentId approvedBy

def approveIntent (intentId approvedBy : String) (shownInputDigest : Option String) :
    Act Approval.ExecutionResult := do
  let _ ← env .now
  match ← readIntent intentId with
  | .quarantined intentId reason => R.quarantinedIntentResult intentId reason "approve"
  | .found held => R.approveFound held intentId approvedBy shownInputDigest

def labelRejection (call : BrokeredCall) (bucket : String) : Act Bool := do
  let labelled ← caught do
    let _ ← store (.tryIncrementCounter
      (scopedCounterKey call.principal call.tool call.op bucket humanOverrideSuffix) 1 unboundedCounterCap)
    let _ ← store (.tryIncrementCounter
      (scopedCounterKey call.principal call.tool call.op bucket observationsSuffix) 1 unboundedCounterCap)
  return labelled.isSome

def actorDigest (identity : String) : String := "sha256:" ++ R.digests.sha256 identity

def recordRejection (call : BrokeredCall) (intentId rejectedBy : String) : Act Unit := do
  let bucket ← currentPeriodBucket R.counterPeriod
  let labelled ← labelRejection call bucket
  emit {
    R.callRecord call .requireApproval .rejected with
    reason := some Approval.rejectedByOwnerReason
    error := if labelled then none else some evidenceLabelWriteFailed
    intentId := some intentId
    storedCallDigest := some (R.digests.hashStoredCall call)
    actorDigest := some (R.actorDigest rejectedBy)
    evidenceBucket := if labelled then some bucket else none }

def labelledIntent (intent : Option Intent) (intentId : String) : Act (Option Intent) := do
  match intent with
  | some intent => return some intent
  | none =>
    match ← readIntent intentId with
    | .found intent => return intent
    | .quarantined intentId reason =>
      R.surfaceQuarantinedIntent intentId reason "reject"
      return none

def settleRejection (intent : Option Intent) (intentId rejectedBy : String) (result : Approval.ExecutionResult) :
    Act Approval.ExecutionResult := do
  if result.expiredByThisCall then
    R.recordLateExpiry intent intentId "reject"
    return result
  else if result.rejectionReason = some Approval.rejectedByOwnerReason then
    match ← R.labelledIntent intent intentId with
    | none => return result
    | some intent =>
      R.recordRejection intent.materializedRequest intentId rejectedBy
      return result
  else return result

def rejectFound (intent : Option Intent) (intentId rejectedBy : String) : Act Approval.ExecutionResult :=
  if R.foreign intent then return foreignIntentResult intentId
  else
    R.surfacing "reject" (Approval.reject intentId rejectedBy none) (R.settleRejection intent intentId rejectedBy)

def rejectIntent (intentId rejectedBy : String) : Act Approval.ExecutionResult := do
  match ← readIntent intentId with
  | .quarantined intentId reason => R.quarantinedIntentResult intentId reason "reject"
  | .found intent => R.rejectFound intent intentId rejectedBy

def surfaceOnce (intentId reason rowId : String) : Act Unit := do
  let first ← process (.firstQuarantine R.instanceId rowId)
  if first then R.surfaceQuarantinedIntent intentId reason "expire" else return ()

-- `1` when this pass recorded the expiry of the candidate.
def sweepCandidate (at_ : Instant) (intentId : String) : Act Nat := do
  match ← readIntent intentId with
  | .quarantined quarantinedId reason =>
    R.surfaceOnce quarantinedId reason intentId
    return 0
  | .found none => return 0
  | .found (some intent) =>
    if R.ownsIntent intent then
      let expired ← Approval.expireIfDue intent at_
      if expired then
        R.recordExpiry intent
        return 1
      else return 0
    else return 0

def sweepCandidates (at_ : Instant) : List String → Act Nat
  | [] => return 0
  | intentId :: candidates => do
    let recorded ← R.sweepCandidate at_ intentId
    let rest ← sweepCandidates at_ candidates
    return recorded + rest

def sweepExpiredIntents (now : Option Instant) : Act Nat := do
  let at_ ← Approval.resolveNow now
  let candidates ← intents (.expiredPendingCandidates R.principal.key at_)
  let recorded ← R.sweepCandidates at_ candidates
  R.flushAlarm
  return recorded

end BrokerRuntime

end Runtime

end SafeAgents
