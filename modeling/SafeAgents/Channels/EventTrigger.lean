import SafeAgents.Checked
import SafeAgents.Schemas.IsoParse
import SafeAgents.Schemas.WireCall

namespace SafeAgents

-- len(json.dumps(j)): the text is ASCII, so its characters are its bytes.
def Json.size (j : Json) : Nat := j.chars.length

namespace Channels

open Calendar (fromisoformat)
open Checked

def maxPayloadBytes : Nat := 65536

def maxEnvelopeBytes : Nat := 196608

def maxForwardBytes : Nat := 262144

def maxChainSignatures : Nat := 8

inductive ChannelError where
  | validation (fields : List String)
  | refused (message : String)
  | notCompliant
  | overSize (size maxBytes : Nat)
  | notSurviving
  | unicodeEncode
  | keySourceUnavailable
  | seam (text : String)
  deriving DecidableEq

def nonBlank (text : String) : Bool := text.toList.any fun c => !isStripSpace c

def isTzAware (text : String) : Bool := (fromisoformat text).any fun d => d.offset.isSome

-- str.partition at the first colon, both sides non-empty.
def isNamespaced (source : String) : Bool :=
  !(source.toList.takeWhile (· != ':')).isEmpty && !((source.toList.dropWhile (· != ':')).drop 1).isEmpty

def isLowerHex (c : Char) : Bool := c.isDigit || (97 ≤ c.toNat && c.toNat ≤ 102)

def isSha256Digest (text : String) : Bool :=
  let hex := text.toList.drop 7
  text.toList.take 7 == "sha256:".toList && hex.length == 64 && hex.all isLowerHex

def base64Alphabet : List Char := "ABCDEFGHIJKLMNOPQRSTUVWXYZabcdefghijklmnopqrstuvwxyz0123456789+/".toList

-- The canonical base64 text of 64 bytes: 86 letters, the last of which carries four zero bits, and two pads.
def isSignatureText (text : String) : Bool :=
  let letters := text.toList.take 86
  letters.length == 86 && letters.all base64Alphabet.contains && text.toList.drop 86 == ['=','='] &&
    letters.getLast?.any fun c => base64Alphabet.idxOf c % 16 == 0

inductive HopLabel where
  | trusted
  | untrusted
  deriving DecidableEq

def HopLabel.text : HopLabel → String
  | .trusted => "trusted"
  | .untrusted => "untrusted"

inductive SenderClass where
  | owner
  | peerAgent
  | external
  deriving DecidableEq

def SenderClass.text : SenderClass → String
  | .owner => "owner"
  | .peerAgent => "peer-agent"
  | .external => "external"

structure SenderIdentity where
  channelType : String
  channelIdentity : String
  evidence : List String := []
  deriving DecidableEq

structure ProvenanceEntry where
  zone : String
  source : String
  evidence : List String
  label : HopLabel
  ts : String
  namespaced : isNamespaced source = true
  aware : isTzAware ts = true
  deriving DecidableEq

structure ChainSignature where
  keyId : String
  zone : String
  covers : Nat
  payloadType : String
  sig : String
  named : (nonBlank keyId && nonBlank zone && nonBlank sig && isSignatureText sig && decide (1 ≤ covers)) = true
  deriving DecidableEq

-- An envelope's fields before the model's own checks; schema_version is always 1.
structure Draft where
  eventId : String
  principal : String
  audience : String
  sender : SenderIdentity
  payload : List (String × Json)
  payloadDigest : Option String := none
  payloadRef : Option String := none
  provenance : List ProvenanceEntry
  chainSignatures : List ChainSignature := []
  senderClass : Option SenderClass := none
  ts : String
  expiry : String

namespace Draft

def payloadSize (d : Draft) : Nat := (Json.obj d.payload).size

def checks (d : Draft) : List (String × Bool) :=
  [("event_id",nonBlank d.eventId),("principal",nonBlank d.principal),("audience",nonBlank d.audience),
    ("payload",d.payloadSize ≤ maxPayloadBytes),("payload_digest",d.payloadDigest.all isSha256Digest),
    ("payload_ref",d.payloadRef.isNone || d.payloadDigest.isSome),("provenance",!d.provenance.isEmpty),
    ("chain_signatures",d.chainSignatures.length ≤ maxChainSignatures),("ts",isTzAware d.ts),("expiry",isTzAware d.expiry)]

def faults (d : Draft) : List String := (d.checks.filter fun c => !c.2).map Prod.fst

def Valid (d : Draft) : Prop := ∀ c ∈ d.checks, c.2 = true

instance (d : Draft) : Decidable d.Valid := inferInstanceAs (Decidable (∀ c ∈ d.checks, c.2 = true))

end Draft

structure EventTrigger extends Draft where
  valid : toDraft.Valid

def ProvenanceEntry.make (zone source : String) (evidence : List String) (label : HopLabel) (ts : String) :
    Except ChannelError ProvenanceEntry :=
  if hsource : isNamespaced source = true then
    if hts : isTzAware ts = true then .ok ⟨zone,source,evidence,label,ts,hsource,hts⟩
    else .error (.validation ["ts"])
  else .error (.validation ["source"])

def Draft.validated (d : Draft) : Except ChannelError EventTrigger :=
  if h : d.Valid then .ok ⟨d,h⟩ else .error (.validation d.faults)

def SenderIdentity.json (s : SenderIdentity) : Json :=
  .obj [("channel_type",.str s.channelType),("channel_identity",.str s.channelIdentity),
    ("evidence",.arr (s.evidence.map .str))]

def ProvenanceEntry.json (p : ProvenanceEntry) : Json :=
  .obj [("zone",.str p.zone),("source",.str p.source),("evidence",.arr (p.evidence.map .str)),
    ("label",.str p.label.text),("ts",.str p.ts)]

def ChainSignature.json (s : ChainSignature) : Json :=
  .obj [("key_id",.str s.keyId),("zone",.str s.zone),("covers",.ofInt s.covers),("payload_type",.str s.payloadType),
    ("sig",.str s.sig)]

namespace EventTrigger

-- model_dump(mode="json").
def json (e : EventTrigger) : Json :=
  .obj [("schema_version",.ofInt 1),("event_id",.str e.eventId),("principal",.str e.principal),("audience",.str e.audience),
    ("sender",e.sender.json),("payload",.obj e.payload),("payload_digest",.ofOption e.payloadDigest),
    ("payload_ref",.ofOption e.payloadRef),("provenance",.arr (e.provenance.map ProvenanceEntry.json)),
    ("chain_signatures",.arr (e.chainSignatures.map ChainSignature.json)),
    ("sender_class",.ofOption (e.senderClass.map SenderClass.text)),("ts",.str e.ts),("expiry",.str e.expiry)]

def tainted (e : EventTrigger) : Bool := e.provenance.any fun entry => entry.label == .untrusted

def dedupeKey (e : EventTrigger) : String × String := (e.sender.channelIdentity,e.eventId)

end EventTrigger

mutual

def finite : Json → Bool
  | .num text => !Json.nonFinite.contains text.toList
  | .arr items => finiteItems items
  | .obj fields => finiteMembers fields
  | _ => true

def finiteItems : List Json → Bool
  | [] => true
  | item :: rest => finite item && finiteItems rest

def finiteMembers : List (String × Json) → Bool
  | [] => true
  | (_,value) :: rest => finite value && finiteMembers rest

end

-- The parser a receiving worker uses. Text and literals it always gives back as they were written; a payload it gives
-- back unless it nests too deep or holds a number it reads otherwise, and a count unless it has too many digits.
structure WireParser where
  payload : Json → Bool
  count : Nat → Bool

namespace EventTrigger
variable (parser : WireParser)

def readsBack (e : EventTrigger) : Bool :=
  parser.payload (.obj e.payload) && e.chainSignatures.all fun s => parser.count s.covers

def toWire (maxBytes : Option Nat) (e : EventTrigger) : Except ChannelError String := do
  refuseIf (finite (.obj e.payload) = false) .notCompliant
  match maxBytes with
  | some limit => refuseIf (limit < e.json.size) (.overSize e.json.size limit)
  | none => pure ()
  refuseIf (e.readsBack parser = false) .notSurviving
  return e.json.dumps

theorem toWire_ok {limit : Nat} {e : EventTrigger} {body : String} :
    e.toWire parser (some limit) = .ok body ↔
      finite (.obj e.payload) = true ∧ e.json.size ≤ limit ∧ e.readsBack parser = true ∧ body = e.json.dumps := by
  simp only [toWire,then_ok,refuseIf_ok,pure_ok,Bool.not_eq_false,Nat.not_lt]
  exact ⟨fun ⟨hfinite,hsize,hreads,hbody⟩ => ⟨hfinite,hsize,hreads,hbody.symm⟩,
    fun ⟨hfinite,hsize,hreads,hbody⟩ => ⟨hfinite,hsize,hreads,hbody.symm⟩⟩

theorem checked (e : EventTrigger) : nonBlank e.eventId = true ∧ nonBlank e.principal = true ∧ nonBlank e.audience = true ∧
    decide (e.payloadSize ≤ maxPayloadBytes) = true ∧ e.payloadDigest.all isSha256Digest = true ∧
    (e.payloadRef.isNone || e.payloadDigest.isSome) = true ∧ (!e.provenance.isEmpty) = true ∧
    decide (e.chainSignatures.length ≤ maxChainSignatures) = true ∧ isTzAware e.ts = true ∧ isTzAware e.expiry = true ∧ True := by
  have h := e.valid
  simp only [Draft.Valid,Draft.checks,List.forall_mem_cons,List.not_mem_nil,false_imp_iff,implies_true] at h
  exact h

theorem provenance_ne_nil (e : EventTrigger) : e.provenance ≠ [] := by
  have h := e.valid ("provenance",!e.provenance.isEmpty) (by simp [Draft.checks])
  simpa using h

-- `model_copy`: the checked fields stay as they were.
def copied (e : EventTrigger) (d : Draft) (h : d.checks = e.checks) : EventTrigger := ⟨d,by rw [Draft.Valid,h]; exact e.valid⟩

def withClass (e : EventTrigger) (senderClass : Option SenderClass) : EventTrigger :=
  e.copied { e.toDraft with senderClass } rfl

def withSender (e : EventTrigger) (sender : SenderIdentity) : EventTrigger := e.copied { e.toDraft with sender } rfl

def withSignature (e : EventTrigger) (signature : ChainSignature) : EventTrigger where
  toDraft := { e.toDraft with chainSignatures := [signature] }
  valid := by
    obtain ⟨hevent,hprincipal,haudience,hpayload,hdigest,href,hprovenance,-,hts,hexpiry,-⟩ := e.checked
    simp only [Draft.Valid,Draft.checks,List.forall_mem_cons,List.not_mem_nil,false_imp_iff,implies_true]
    exact ⟨hevent,hprincipal,haudience,hpayload,hdigest,href,hprovenance,rfl,hts,hexpiry,trivial⟩

def stamped (e : EventTrigger) (entry : ProvenanceEntry) (senderClass : Option SenderClass) : EventTrigger :=
  e.copied { e.toDraft with provenance := e.provenance ++ [entry], senderClass := senderClass.orElse fun _ => e.senderClass } (by
    have hsame : (e.provenance ++ [entry]).isEmpty = e.provenance.isEmpty := by
      cases hchain : e.provenance with
      | nil => exact absurd hchain e.provenance_ne_nil
      | cons first rest => rfl
    simp only [Draft.checks,hsame]
    rfl)

@[simp] theorem stamped_provenance (e : EventTrigger) (entry : ProvenanceEntry) (senderClass : Option SenderClass) :
    (e.stamped entry senderClass).provenance = e.provenance ++ [entry] := rfl

@[simp] theorem withClass_provenance (e : EventTrigger) (senderClass : Option SenderClass) :
    (e.withClass senderClass).provenance = e.provenance := rfl

@[simp] theorem withSignature_provenance (e : EventTrigger) (signature : ChainSignature) :
    (e.withSignature signature).provenance = e.provenance := rfl

end EventTrigger

end Channels

end SafeAgents
