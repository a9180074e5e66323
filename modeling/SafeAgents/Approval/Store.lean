import SafeAgents.Enforcement.Types
import SafeAgents.Schemas.Calendar

namespace SafeAgents

open Interleaving

inductive IntentStatus where
  | pending | approved | rejected | expired | executed | refused | permitted
  deriving DecidableEq

def IntentStatus.text : IntentStatus → String
  | .pending => "pending"
  | .approved => "approved"
  | .rejected => "rejected"
  | .expired => "expired"
  | .executed => "executed"
  | .refused => "refused"
  | .permitted => "permitted"

structure Intent where
  id : String
  materializedRequest : BrokeredCall
  renderedForHuman : String
  status : IntentStatus
  expiry : Instant
  approvedBy : Option String := none
  ts : Instant
  executedAt : Option Instant := none

structure IntentPayload where
  id : String
  materializedRequest : BrokeredCall
  renderedForHuman : String
  expiry : Instant
  ts : Instant

def canonicalIntentPayload (intent : Intent) : IntentPayload :=
  ⟨intent.id,intent.materializedRequest,intent.renderedForHuman,intent.expiry,intent.ts⟩

structure IntentItem where
  data : Option IntentPayload
  intentHash : Option String
  status : IntentStatus
  approvedBy : Option String := none
  executedAt : Option Instant := none
  pendingPrincipal : Option String := none
  pendingExpiry : Option Int := none

def expiryEpoch (expiry : Instant) : Int := expiry / microsPerSecond

def intentItemAttrs (hmac : IntentPayload → String) (intent : Intent) : IntentItem where
  data := some (canonicalIntentPayload intent)
  intentHash := some (hmac (canonicalIntentPayload intent))
  status := intent.status
  approvedBy := intent.approvedBy
  executedAt := intent.executedAt
  pendingPrincipal := if intent.status = .pending then some intent.materializedRequest.principal.key else none
  pendingExpiry := if intent.status = .pending then some (expiryEpoch intent.expiry) else none

def intentFromItem (hmac : IntentPayload → String) (intentId : String) (item : IntentItem) :
    Except Exn Intent :=
  match item.data, item.intentHash with
  | some data, some storedHash =>
    if storedHash ≠ hmac data then
      .error (.quarantinedIntent intentId
        "HMAC mismatch over stored intent bytes; the item cannot be verified and must not release anything")
    else if data.id ≠ intentId then
      .error (.quarantinedIntent intentId
        ("stored payload identity " ++ pyRepr data.id ++ " does not match the row key " ++
          pyRepr intentId ++ " (cross-row replay)"))
    else
      .ok {
        id := intentId
        materializedRequest := data.materializedRequest
        renderedForHuman := data.renderedForHuman
        status := item.status
        expiry := data.expiry
        approvedBy := item.approvedBy
        ts := data.ts
        executedAt := item.executedAt }
  | _, _ =>
    .error (.quarantinedIntent intentId
      "stored item is missing its data or intentHash attribute; the item cannot be verified and must not release anything")

theorem intentFromItem_attrs (hmac : IntentPayload → String) (intent : Intent) :
    intentFromItem hmac intent.id (intentItemAttrs hmac intent) = .ok intent := by
  simp [intentFromItem,intentItemAttrs,canonicalIntentPayload]

theorem intentFromItem_ok {hmac : IntentPayload → String} {intentId : String} {item : IntentItem}
    {intent : Intent} (h : intentFromItem hmac intentId item = .ok intent) :
    intent.id = intentId ∧ intent.status = item.status ∧
      item.data = some (canonicalIntentPayload intent) := by
  unfold intentFromItem at h
  split at h
  · next data storedHash hd _ =>
    split at h
    · cases h
    · split at h
      · cases h
      · next hid =>
        cases h
        rw [hd]
        simp only [ne_eq,not_not] at hid
        subst hid
        simp [canonicalIntentPayload]
  · cases h

structure IntentState where
  items : String → Option IntentItem
  ids : List String

namespace IntentState

def empty : IntentState := ⟨fun _ => none,[]⟩

def setItem (s : IntentState) (intentId : String) (item : IntentItem) : IntentState where
  items := Function.update s.items intentId (some item)
  ids := if s.ids.contains intentId then s.ids else s.ids ++ [intentId]

def status (s : IntentState) (intentId : String) : Option IntentStatus :=
  (s.items intentId).map IntentItem.status

end IntentState

inductive IntentOp where
  | putIntent (intent : Intent)
  | getIntent (intentId : String)
  | transitionStatus (intentId : String) (expected new : IntentStatus) (approvedBy : Option String)
      (executedAt : Option Instant)
  | expiredPendingCandidates (principalKey : String) (now : Instant)

namespace IntentOp

@[reducible] def Ret : IntentOp → Type
  | putIntent _ => Unit
  | getIntent _ => Option Intent
  | transitionStatus _ _ _ _ _ => Bool
  | expiredPendingCandidates _ _ => List String

def transitioned (item : IntentItem) (new : IntentStatus) (approvedBy : Option String)
    (executedAt : Option Instant) : IntentItem where
  data := item.data
  intentHash := item.intentHash
  status := new
  approvedBy := approvedBy.or item.approvedBy
  executedAt := executedAt.or item.executedAt
  pendingPrincipal := if new = .pending then item.pendingPrincipal else none
  pendingExpiry := if new = .pending then item.pendingExpiry else none

def isExpiryCandidate (item : IntentItem) (principalKey : String) (nowEpoch : Int) : Bool :=
  item.status = .pending && item.pendingPrincipal = some principalKey &&
    match item.pendingExpiry with
    | some stored => stored ≤ nowEpoch
    | none => false

def apply (hmac : IntentPayload → String) : (o : IntentOp) → IntentState → Except Exn o.Ret × IntentState
  | putIntent intent, s =>
    if s.status intent.id = some .pending then (.error (.intentAlreadyPending intent.id),s)
    else (.ok (),s.setItem intent.id (intentItemAttrs hmac intent))
  | getIntent intentId, s =>
    match s.items intentId with
    | none => (.ok none,s)
    | some item => ((intentFromItem hmac intentId item).map some,s)
  | transitionStatus intentId expected new approvedBy executedAt, s =>
    match s.items intentId with
    | none => (.ok false,s)
    | some item =>
      if item.status ≠ expected then (.ok false,s)
      else (.ok true,s.setItem intentId (transitioned item new approvedBy executedAt))
  | expiredPendingCandidates principalKey now, s =>
    (.ok (s.ids.filter fun intentId =>
      match s.items intentId with
      | some item => isExpiryCandidate item principalKey (expiryEpoch now)
      | none => false),s)

end IntentOp

end SafeAgents
