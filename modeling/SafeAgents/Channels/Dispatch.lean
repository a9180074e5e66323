import SafeAgents.Channels.TrustMap
import SafeAgents.Interleaving.History
import SafeAgents.Schemas.ClockSkew

namespace SafeAgents.Channels

open Lexical Checked Interleaving
open Calendar (isoformat fromisoformat Representable)

inductive RefusalClass where
  | permanent
  | transient
  deriving DecidableEq

inductive CustodyEvidence where
  | declared
  | attested
  deriving DecidableEq

def CustodyEvidence.text : CustodyEvidence → String
  | .declared => "declared"
  | .attested => "attested"

inductive SignatureFault where
  | missing
  | invalid
  | unknownSigner
  deriving DecidableEq

def SignatureFault.reason : SignatureFault → DropReason
  | .missing => .chainSignatureMissing
  | .invalid => .chainSignatureInvalid
  | .unknownSigner => .chainSignerUnknown

inductive SignerDetail where
  | zoneMismatch
  | identityOutOfScope
  deriving DecidableEq

def SignerDetail.text : SignerDetail → String
  | .zoneMismatch => "signer_zone_mismatch"
  | .identityOutOfScope => "signer_identity_out_of_scope"

inductive ChainVerifyResult where
  | passed (signerKeyId signerZone : Option String) (agentSeparatedCustody : Bool) (custodyEvidence : Option CustodyEvidence)
  | failed (reason : SignatureFault) (detail : Option SignerDetail)
  deriving DecidableEq

structure ScreenVerdict where
  passed : Bool
  reason : Option String
  coded : reason.all isMachineCode = true
  contentless : passed = reason.isNone

inductive ScreenAnswer where
  | verdict (v : ScreenVerdict)
  | plain (passed : Bool)

def ScreenAnswer.passed : ScreenAnswer → Bool
  | .verdict v => v.passed
  | .plain passed => passed

def ScreenAnswer.reason : ScreenAnswer → Option String
  | .verdict v => v.reason
  | .plain _ => none

def screenError : ScreenVerdict := ⟨false,some "screen_error",by decide,rfl⟩

structure ScreenRecord where
  channelType : String
  identityDigest : String
  eventId : String
  passed : Bool
  reason : Option String
  ts : String
  chainVerified : Bool
  signerKeyId : Option String
  deriving DecidableEq

def makeScreenRecord (hasher : Hasher) (channelType : String) (channelIdentity : PyStr) (eventId : String) (passed : Bool)
    (reason : Option String) (ts : String) (verified : Verified) : Except ChannelError ScreenRecord := do
  let identityDigest ← digestIdentity hasher channelIdentity
  refuseIf (isSha256Digest identityDigest = false) (.validation ["identity_digest"])
  refuseIf (reason.all isMachineCode = false) (.validation ["reason"])
  refuseIf (isTzAware ts = false) (.validation ["ts"])
  refuseIf ((verified.signerKeyId.isNone || verified.chainVerified) = false)
    (.refused "signer_key_id may only be set when chain_verified is True")
  return ⟨channelType,identityDigest,eventId,passed,reason,ts,verified.chainVerified,verified.signerKeyId⟩

inductive AirlockOp where
  | verifyChain (envelope : EventTrigger)
  | contains (key : String × String)
  | add (key : String × String)
  | screen (envelope : EventTrigger)
  | drop (record : DropRecord)
  | verdict (record : ScreenRecord)

def AirlockOp.Ret : AirlockOp → Type
  | .verifyChain _ => ChainVerifyResult
  | .contains _ => Bool
  | .add _ => Unit
  | .screen _ => ScreenAnswer
  | .drop _ => Unit
  | .verdict _ => Unit

structure DispatchOutcome where
  envelope : Option EventTrigger
  refusal : Option RefusalClass := none

abbrev Airlocked := Prog AirlockOp AirlockOp.Ret ChannelError DispatchOutcome

-- What `normalize` returns: an envelope, or one whose payload holds an unpaired surrogate and has no wire form.
inductive Normalized where
  | envelope (e : EventTrigger)
  | unwritable

structure InboundAdapter (Request : Type) where
  channelType : String
  originatesEnvelope : Bool := false
  credentialPerSender : Bool := false
  verifyToken : Request → Bool
  extractIdentity : Request → Except ChannelError PyStr
  normalize : Request → Except ChannelError Normalized

structure Airlock (Request : Type) where
  hasher : Hasher
  parser : WireParser
  adapter : InboundAdapter Request
  trustMap : ChannelTrustMap
  screens : Bool
  verifies : Bool
  records : Bool
  now : Instant
  dated : Representable now
  zone : String
  clockSkew : Int

structure Verification extends Verified where
  custodyEvidence : Option CustodyEvidence := none

def EventTrigger.isExpired (e : EventTrigger) (now : Instant) (skew : Int) : Except ChannelError Bool :=
  match endJudgedAt now skew with
  | .error x => .error (.refused x.str)
  | .ok judged =>
    match fromisoformat e.expiry with
    | some ⟨clock,some offset⟩ => .ok (clock - offset < judged)
    | _ => .error (.refused "expiry")

namespace Airlock
variable {Request : Type} (a : Airlock Request)

def dropped (identity : PyStr) (reason : DropReason) (detail : Option String) (verified : Verified) (outcome : DispatchOutcome) :
    Airlocked :=
  match makeDropRecord a.hasher a.adapter.channelType identity reason (isoformat a.now) detail verified with
  | .error e => .raise e
  | .ok record => .act (.drop record) fun reply =>
    match reply with
    | .error e => .raise e
    | .ok _ => .ret outcome

def mapped (identity : PyStr) : Bool :=
  a.adapter.credentialPerSender && (a.trustMap.resolve a.adapter.channelType identity).isSome

def refuse (identity : PyStr) (reason : DropReason) (refusal : RefusalClass) (detail : Option String := none)
    (verified : Verified := {}) : Airlocked :=
  a.dropped identity reason detail verified ⟨none,if a.mapped identity then some refusal else none⟩

def evidence (v : Verification) : List String :=
  "token:pass" :: if v.chainVerified then
    "sig:pass" :: (v.custodyEvidence.map fun custody => "custody:" ++ custody.text).toList
  else []

def stamp (v : Verification) : Stamp where
  zone := a.zone
  source := "channel:" ++ a.adapter.channelType
  evidence := evidence v
  ts := isoformat a.now

def taintStamp (e : EventTrigger) (resolution : TrustResolution) (v : Verification) : Airlocked :=
  match stampInbound e resolution (a.stamp v) with
  | .error x => .raise x
  | .ok accepted => .ret ⟨some accepted,none⟩

def judged (identity : PyStr) (e : EventTrigger) (resolution : TrustResolution) (v : Verification) (answer : ScreenAnswer) :
    Airlocked :=
  if answer.passed then a.taintStamp e resolution v
  else a.dropped identity .screenRefused answer.reason v.toVerified ⟨none,none⟩

def recorded (identity : PyStr) (e : EventTrigger) (resolution : TrustResolution) (v : Verification) (answer : ScreenAnswer) :
    Airlocked :=
  if a.records then
    match makeScreenRecord a.hasher a.adapter.channelType identity e.eventId answer.passed answer.reason (isoformat a.now)
        v.toVerified with
    | .error x => .raise x
    | .ok record => .act (.verdict record) fun reply =>
      match reply with
      | .error x => .raise x
      | .ok _ => a.judged identity e resolution v answer
  else a.judged identity e resolution v answer

def screened (identity : PyStr) (e : EventTrigger) (resolution : TrustResolution) (v : Verification) :
    Except ChannelError ScreenAnswer → Airlocked
  | .error _ => a.recorded identity e resolution v (.verdict screenError)
  | .ok answer => a.recorded identity e resolution v answer

def screenGate (identity : PyStr) (e : EventTrigger) (resolution : TrustResolution) (v : Verification) : Airlocked :=
  if a.screens then .act (.screen e) (a.screened identity e resolution v) else a.taintStamp e resolution v

def storeFailed (identity : PyStr) (v : Verification) : Airlocked :=
  a.refuse identity .notEvaluated .transient (some "dedupe_store") v.toVerified

def claimed (identity : PyStr) (e : EventTrigger) (resolution : TrustResolution) (v : Verification) :
    Except ChannelError Unit → Airlocked
  | .error _ => a.storeFailed identity v
  | .ok _ => a.screenGate identity e resolution v

def looked (identity : PyStr) (e : EventTrigger) (resolution : TrustResolution) (v : Verification) :
    Except ChannelError Bool → Airlocked
  | .error _ => a.storeFailed identity v
  | .ok true => .ret ⟨none,none⟩
  | .ok false => .act (.add e.dedupeKey) (a.claimed identity e resolution v)

def dedupeGate (identity : PyStr) (e : EventTrigger) (resolution : TrustResolution) (v : Verification) : Airlocked :=
  .act (.contains e.dedupeKey) (a.looked identity e resolution v)

def mapGate (identity : PyStr) (e : EventTrigger) (v : Verification) : Airlocked :=
  match a.trustMap.resolve a.adapter.channelType identity with
  | none => a.refuse identity .unmapped .permanent none v.toVerified
  | some resolution =>
    if resolution.principal ≠ e.principal then a.refuse identity .principalMismatch .permanent none v.toVerified
    else a.dedupeGate identity e resolution v

def expiryGate (identity : PyStr) (e : EventTrigger) (v : Verification) : Airlocked :=
  match e.isExpired a.now a.clockSkew with
  | .error x => .raise x
  | .ok true => a.refuse identity .expired .permanent none v.toVerified
  | .ok false => a.mapGate identity e v

def verified (identity : PyStr) (e : EventTrigger) : Except ChannelError ChainVerifyResult → Airlocked
  | .error .keySourceUnavailable => a.refuse identity .notEvaluated .transient (some "key_source")
  | .error x => .raise x
  | .ok (.failed reason detail) => a.refuse identity reason.reason .permanent (detail.map SignerDetail.text)
  | .ok (.passed signerKeyId _ agentSeparatedCustody custodyEvidence) =>
    a.expiryGate identity e { chainVerified := true, signerKeyId,
                              custodyEvidence := if agentSeparatedCustody then custodyEvidence else none }

def chainGate (identity : PyStr) (e : EventTrigger) : Airlocked :=
  if a.verifies && !a.adapter.originatesEnvelope then .act (.verifyChain e) (a.verified identity e)
  else a.expiryGate identity e {}

def formGate (identity : PyStr) (e : EventTrigger) : Airlocked :=
  match e.toWire a.parser (some maxEnvelopeBytes) with
  | .error _ => a.refuse identity .malformed .permanent (some "not_forwardable")
  | .ok _ =>
    if PyStr.ofString e.sender.channelIdentity ≠ identity then
      a.refuse identity .malformed .permanent (some "sender_identity_mismatch")
    else if e.audience ≠ a.zone then a.refuse identity .audienceMismatch .permanent
    else a.chainGate identity e

def schemaGate (identity : PyStr) : Except ChannelError Normalized → Airlocked
  | .error _ => a.refuse identity .malformed .permanent
  | .ok .unwritable => a.refuse identity .malformed .permanent (some "not_forwardable")
  | .ok (.envelope e) => a.formGate identity (e.withClass none)

def dispatchOutcome (request : Request) : Airlocked :=
  if a.adapter.verifyToken request then
    match a.adapter.extractIdentity request with
    | .error _ => a.dropped [] .malformed none {} ⟨none,none⟩
    | .ok identity => a.schemaGate identity (a.adapter.normalize request)
  else a.dropped [] .authenticityFailed none {} ⟨none,none⟩

end Airlock

end SafeAgents.Channels
