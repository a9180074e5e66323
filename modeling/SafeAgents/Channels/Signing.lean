import SafeAgents.Channels.Dispatch
import SafeAgents.Channels.Adapters
import SafeAgents.Channels.WireForm
import SafeAgents.Schemas.JsonOrder

namespace SafeAgents.Channels

open Lexical Checked

def dssePayloadType : String := "application/vnd.in-toto+json"

def statementType : String := "https://in-toto.io/Statement/v1"

def predicateType : String := "https://safe-agents.dev/provenance-chain/v3"

-- Ed25519 as the key library gives it, a signature standing by its base64 text.
structure SigningScheme (PrivateKey PublicKey : Type) where
  publicKey : PrivateKey → PublicKey
  sign : PrivateKey → String → String
  verify : PublicKey → String → String → Bool
  accepts : ∀ key message, verify (publicKey key) (sign key message) message = true
  spelled : ∀ key message, (nonBlank (sign key message) && isSignatureText (sign key message)) = true

structure PeerKey (PublicKey : Type) where
  publicKey : PublicKey
  zone : String
  senderIdentities : List String
  signerPosture : Nat
  custodyEvidence : CustodyEvidence

def PeerKey.agentSeparatedCustody {PublicKey : Type} (key : PeerKey PublicKey) : Bool := 2 ≤ key.signerPosture

def CustodyEvidence.strength : CustodyEvidence → Nat
  | .declared => 0
  | .attested => 1

def weakestCustodyEvidence (classes : List CustodyEvidence) : Option CustodyEvidence :=
  classes.foldl (fun weakest evidence => match weakest with
    | none => some evidence
    | some held => if evidence.strength < held.strength then some evidence else some held) none

-- The canonical form of an identity; case folding keeps text text, so it has one.
def canonicalText (folding : Folding) (raw : String) : String :=
  ((canonicalIdentity folding (.ofString raw)).encode).getD ""

section Statement
variable (sha256 : String → String) (folding : Folding)

def inlinePayloadHex (payload : List (String × Json)) : Except ChannelError String := do
  refuseIf (finite (.obj payload) = false) (.refused "Out of range float values are not JSON compliant")
  let canonical := (Json.obj payload).sortKeys.dumps
  refuseIf (((Json.loads canonical).any fun read => read.sortKeys.same (Json.obj payload).sortKeys) = false)
    (.refused "payload does not survive a JSON round trip unchanged")
  return sha256 canonical

-- The dicts below list their members in the order sort_keys gives them.
def boundEnvelope (e : EventTrigger) : Json :=
  .obj [("audience",.str e.audience),("event_id",.str e.eventId),("expiry",.str e.expiry),("principal",.str e.principal),
    ("schema_version",.ofInt 1),
    ("sender",.obj [("channel_identity",.str (canonicalText folding e.sender.channelIdentity)),
      ("channel_type",.str e.sender.channelType),("evidence",.arr (e.sender.evidence.map .str))]),
    ("ts",.str e.ts)]

def subjectJson (name hex : String) (uri : Option String) : Json :=
  .obj (("digest",.obj [("sha256",.str hex)]) :: ("name",.str name) :: match uri with
    | none => []
    | some ref => [("uri",.str ref)])

def digestHex (digest : String) : String := String.ofList (digest.toList.drop 7)

def subjects (e : EventTrigger) : Except ChannelError (List Json) := do
  let hex ← inlinePayloadHex sha256 e.payload
  match e.payloadDigest with
  | none =>
    refuseIf e.payloadRef.isSome (.refused "payload_ref set requires payload_digest to also be set")
    return [subjectJson "payload" hex none]
  | some digest =>
    refuseIf (isSha256Digest digest = false) (.refused "payload_digest must be 'sha256:<64 lowercase hex>'")
    return [subjectJson "payload" hex none,subjectJson "raw_original" (digestHex digest) e.payloadRef]

def hopJson (p : ProvenanceEntry) : Json :=
  .obj [("evidence",.arr (p.evidence.map .str)),("label",.str p.label.text),("source",.str p.source),("ts",.str p.ts),
    ("zone",.str p.zone)]

def statementJson (subject : List Json) (e : EventTrigger) (keyId zone : String) : Json :=
  .obj [("_type",.str statementType),
    ("predicate",.obj [("envelope",boundEnvelope folding e),("hops",.arr (e.provenance.map hopJson)),
      ("signer",.obj [("key_id",.str keyId),("zone",.str zone)])]),
    ("predicateType",.str predicateType),("subject",.arr subject)]

def buildStatement (e : EventTrigger) (keyId zone : String) : Except ChannelError String := do
  let subject ← subjects sha256 e
  return (statementJson folding subject e keyId zone).dumps

-- Both texts are ASCII, so a length in characters is a length in bytes.
def pae (payloadType payload : String) : String :=
  "DSSEv1 " ++ toString payloadType.length ++ " " ++ payloadType ++ " " ++ toString payload.length ++ " " ++ payload

structure ChainSigner (PrivateKey : Type) where
  keyId : String
  zone : String
  privateKey : PrivateKey

variable {PrivateKey PublicKey : Type} (scheme : SigningScheme PrivateKey PublicKey) (parser : WireParser)

def ChainSigner.message (signer : ChainSigner PrivateKey) (e : EventTrigger) : Except ChannelError String := do
  let _ ← e.toWire parser (some maxEnvelopeBytes)
  let statement ← buildStatement sha256 folding e signer.keyId signer.zone
  return pae dssePayloadType statement

def ChainSigner.signEnvelope (signer : ChainSigner PrivateKey) (e : EventTrigger) : Except ChannelError ChainSignature := do
  let message ← signer.message sha256 folding parser e
  ChainSignature.make signer.keyId signer.zone e.provenance.length dssePayloadType (scheme.sign signer.privateKey message)

def verifyOne (signature : ChainSignature) (e : EventTrigger) (publicKey : PublicKey) : Bool :=
  match buildStatement sha256 folding e signature.keyId signature.zone with
  | .error _ => false
  | .ok statement => scheme.verify publicKey signature.sig (pae signature.payloadType statement)

abbrev PeerKeyResolver (PublicKey : Type) := String → Except ChannelError (Option (PeerKey PublicKey))

abbrev SignatureJudgement (α : Type) := Except (SignatureFault × Option SignerDetail) α

def judgeSignature (keyResolver : PeerKeyResolver PublicKey) (e : EventTrigger) (signature : ChainSignature) :
    Except ChannelError (SignatureJudgement (PeerKey PublicKey)) :=
  if signature.covers ≠ e.provenance.length ∨ signature.payloadType ≠ dssePayloadType then .ok (.error (.invalid,none))
  else if e.provenance.getLast?.map ProvenanceEntry.zone ≠ some signature.zone then .ok (.error (.invalid,none))
  else do
    match ← keyResolver signature.keyId with
    | none => return .error (.unknownSigner,none)
    | some key =>
      if key.zone ≠ signature.zone then return .error (.invalid,some .zoneMismatch)
      else if verifyOne sha256 folding scheme signature e key.publicKey = false then return .error (.invalid,none)
      else if canonicalText folding e.sender.channelIdentity ∉ key.senderIdentities then
        return .error (.invalid,some .identityOutOfScope)
      else return .ok key

def judgeSignatures (keyResolver : PeerKeyResolver PublicKey) (e : EventTrigger) :
    List ChainSignature → Except ChannelError (SignatureJudgement (List (PeerKey PublicKey)))
  | [] => .ok (.ok [])
  | signature :: rest => do
    match ← judgeSignature sha256 folding scheme keyResolver e signature with
    | .error fault => return .error fault
    | .ok key =>
      match ← judgeSignatures keyResolver e rest with
      | .error fault => return .error fault
      | .ok keys => return .ok (key :: keys)

def verifyChain (keyResolver : PeerKeyResolver PublicKey) (e : EventTrigger) : Except ChannelError ChainVerifyResult :=
  match e.chainSignatures with
  | [] => .ok (.failed .missing none)
  | first :: rest => do
    match ← judgeSignatures sha256 folding scheme keyResolver e (first :: rest) with
    | .error (reason,detail) => return .failed reason detail
    | .ok keys =>
      return .passed (some first.keyId) (some first.zone) (keys.all PeerKey.agentSeparatedCustody)
        (weakestCustodyEvidence (keys.map PeerKey.custodyEvidence))

end Statement

end SafeAgents.Channels
