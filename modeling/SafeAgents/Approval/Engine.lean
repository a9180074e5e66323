import SafeAgents.Signature

namespace SafeAgents

open Interleaving

namespace Approval

structure ApprovalResult where
  coalesced : Bool
  intentId : String

def rejectedByOwnerReason : String := "rejected by owner"

def releaseRefusedReasonPrefix : String := "release refused"

def intentExpiredReason : String := "intent expired"

def approvedForReissueReason : String :=
  "approved; nothing was executed by the broker, and the harness's call will be permitted once when the harness asks again with the same input before the intent expires"

def defaultApprovalExpirySeconds : Int := 3600

def isExpired (expiry now : Instant) (skew : Int) : Except Exn Bool :=
  (endJudgedAt now skew).map fun judged => decide (judged ≥ expiry)

theorem isExpired_false {expiry now : Instant} {skew : Int} (h : isExpired expiry now skew = .ok false) :
    now + skew < expiry := by
  unfold isExpired at h
  cases hj : endJudgedAt now skew with
  | error e => simp [hj,Except.map] at h
  | ok judged =>
    rw [← endJudgedAt_ok hj]
    simpa [hj,Except.map] using h

def resolveNow : Option Instant → Act Instant
  | some now => return now
  | none => env .now

def expiredResult (intentId : String) : Act ExecutionResult := do
  let won ← intents (.transitionStatus intentId .pending .expired none none)
  return { intentId, executed := false, rejectionReason := some intentExpiredReason, expiredByThisCall := won }

def notPending (intentId : String) : Act ExecutionResult := do
  let current ← intents (.getIntent intentId)
  let status := (current.map fun intent => intent.status.text).getD "unknown"
  return {
    intentId
    executed := false
    rejectionReason := some ("intent not pending (current status: " ++ status ++ ")") }

structure Hold where
  call : BrokeredCall
  renderedIntent : RenderedIntent
  dedupId : Option String := none
  expirySeconds : Int := defaultApprovalExpirySeconds
  now : Option Instant := none
  notifies : Bool := true

namespace Hold
variable (h : Hold)

def intentId : String := h.dedupId.getD h.renderedIntent.id

def intentAt (holdAt : Instant) : Intent where
  id := h.intentId
  materializedRequest := h.call
  renderedForHuman := h.renderedIntent.renderedForHuman
  status := .pending
  expiry := holdAt + h.expirySeconds * microsPerSecond
  ts := holdAt

end Hold

def notifyHold (h : Hold) (holdAt : Instant) : Act Unit :=
  if h.notifies then
    env (.notify {
      intentId := h.intentId
      renderedForHuman := h.renderedIntent.renderedForHuman
      expiry := (h.intentAt holdAt).expiry
      ts := holdAt })
  else return ()

-- `true` when a pending intent already holds a content-derived id.
def putOrCoalesce (h : Hold) (holdAt : Instant) : Act Bool :=
  tryCatch
    (do
      intents (.putIntent (h.intentAt holdAt))
      return false)
    fun e =>
      match e with
      | .intentAlreadyPending _ => if h.dedupId.isSome then return true else throw e
      | _ => throw e

def holdFresh (h : Hold) : Act ApprovalResult := do
  let holdAt ← resolveNow h.now
  let coalesced ← putOrCoalesce h holdAt
  if coalesced then return { coalesced := true, intentId := h.intentId }
  else
    notifyHold h holdAt
    return { coalesced := false, intentId := h.intentId }

def materialize (h : Hold) : Act ApprovalResult := do
  match h.dedupId with
  | none => holdFresh h
  | some dedupId =>
    let existing ← intents (.getIntent dedupId)
    if (existing.map Intent.status) = some .pending then return { coalesced := true, intentId := dedupId }
    else holdFresh h

def resolvePending (intentId actor : String) (new : IntentStatus) (now : Option Instant) (skew : Int)
    (onWin : Intent → Act ExecutionResult) : Act ExecutionResult := do
  let evaluatedAt ← resolveNow now
  match ← intents (.getIntent intentId) with
  | none => return { intentId, executed := false, rejectionReason := some "intent not found" }
  | some intent =>
    let expired ← Prog.finish (isExpired intent.expiry evaluatedAt skew)
    if expired then expiredResult intentId
    else
      let transitioned ← intents (.transitionStatus intentId .pending new (some actor) none)
      if transitioned then onWin intent else notPending intentId

def runRelease (executor : Option (BrokeredCall → Act ConnectorResult)) (storedCall : BrokeredCall) :
    Act (Except String ConnectorResult) :=
  match executor with
  | none => return .ok .none
  | some executor =>
    tryCatch
      (do
        let result ← executor storedCall
        return .ok result)
      fun e =>
        match e with
        | .releaseRefused reason => return .error reason
        | _ => throw e

def finishRelease (intentId : String) : Except String ConnectorResult → Act ExecutionResult
  | .error reason => do
    let _ ← intents (.transitionStatus intentId .approved .refused none none)
    return { intentId, executed := false, rejectionReason := some (releaseRefusedReasonPrefix ++ ": " ++ reason) }
  | .ok result => do
    let executedAt ← env .now
    let _ ← intents (.transitionStatus intentId .approved .executed none (some executedAt))
    return { intentId, executed := true, result }

def release (intentId : String) (executor : Option (BrokeredCall → Act ConnectorResult)) (intent : Intent) :
    Act ExecutionResult := do
  let outcome ← runRelease executor intent.materializedRequest
  finishRelease intentId outcome

def approve (intentId approvedBy : String) (executor : Option (BrokeredCall → Act ConnectorResult))
    (now : Option Instant) (skew : Int) : Act ExecutionResult :=
  resolvePending intentId approvedBy .approved now skew (release intentId executor)

def pastExpiry (expiry now : Instant) (skew : Int) : Except Exn Bool := isExpired expiry now skew

def approveForReissue (intentId approvedBy : String) (now : Option Instant) (skew : Int) : Act ExecutionResult :=
  resolvePending intentId approvedBy .approved now skew fun _ =>
    return {
      intentId
      executed := false
      rejectionReason := some approvedForReissueReason
      approvedForReissue := true }

def expireIfDue (intent : Intent) (now : Instant) : Act Bool := do
  if intent.status ≠ .pending then return false
  else
    let expired ← Prog.finish (isExpired intent.expiry now 0)
    if expired then intents (.transitionStatus intent.id .pending .expired none none) else return false

def reject (intentId rejectedBy : String) (now : Option Instant) : Act ExecutionResult :=
  resolvePending intentId rejectedBy .rejected now 0 fun _ =>
    return { intentId, executed := false, rejectionReason := some rejectedByOwnerReason }

end Approval

end SafeAgents
