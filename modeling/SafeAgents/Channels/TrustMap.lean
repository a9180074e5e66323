import SafeAgents.Dict
import SafeAgents.Channels.EventTrigger
import SafeAgents.Taint.Context
import SafeAgents.Text.PyStr

namespace SafeAgents.Channels

open Lexical Checked

def SenderClass.hopLabel : SenderClass → HopLabel
  | .owner => .trusted
  | .peerAgent => .trusted
  | .external => .untrusted

def isMachineHead (c : Char) : Bool := 97 ≤ c.toNat && c.toNat ≤ 122

def isMachineTail (c : Char) : Bool := isMachineHead c || c.isDigit || c == '_'

def matchesMachineCode : List Char → Bool
  | [] => false
  | c :: rest => isMachineHead c && rest.length ≤ 63 && rest.all isMachineTail

-- re.match with a trailing $, which also stands before one trailing newline.
def isMachineCode (text : String) : Bool :=
  matchesMachineCode text.toList || (text.toList.getLast? == some '\n' && matchesMachineCode text.toList.dropLast)

-- hashlib.sha256(...).hexdigest() under its "sha256:" prefix.
structure Hasher where
  digest : String → String
  format : ∀ text, isSha256Digest (digest text) = true

def digestIdentity (hasher : Hasher) (channelIdentity : PyStr) : Except ChannelError String :=
  match channelIdentity.encode with
  | some bytes => .ok (hasher.digest bytes)
  | none => .error .unicodeEncode

structure TrustMapEntry where
  channelType : String
  channelIdentity : String
  principal : String
  senderClass : SenderClass
  deriving DecidableEq

def TrustMapEntry.key (entry : TrustMapEntry) : String × String := (entry.channelType,entry.channelIdentity)

structure TrustResolution where
  principal : String
  senderClass : SenderClass
  deriving DecidableEq

structure ChannelTrustMap where
  entries : List TrustMapEntry
  unique : (entries.map TrustMapEntry.key).Nodup

def ChannelTrustMap.resolve (trustMap : ChannelTrustMap) (channelType : String) (channelIdentity : PyStr) :
    Option TrustResolution :=
  (trustMap.entries.find? fun entry =>
    entry.channelType == channelType && PyStr.ofString entry.channelIdentity == channelIdentity).map fun entry =>
      ⟨entry.principal,entry.senderClass⟩

inductive DropReason where
  | authenticityFailed
  | malformed
  | audienceMismatch
  | chainSignatureMissing
  | chainSignatureInvalid
  | chainSignerUnknown
  | expired
  | unmapped
  | principalMismatch
  | screenRefused
  | notEvaluated
  deriving DecidableEq

inductive AirlockInputName where
  | manifest
  | webhookToken
  | verifyKeys
  deriving DecidableEq

structure DropRecord where
  channelType : String
  identityDigest : String
  reason : DropReason
  ts : String
  detail : Option String
  chainVerified : Bool
  signerKeyId : Option String
  inputsAsOf : Option (Dict AirlockInputName String) := none
  horizon : Option String := none
  digested : isSha256Digest identityDigest = true
  aware : isTzAware ts = true
  coded : detail.all isMachineCode = true
  attributed : (signerKeyId.isNone || chainVerified) = true
  inputsAware : (inputsAsOf.all fun ages => ages.values.all isTzAware) = true := by rfl
  horizonAware : horizon.all isTzAware = true := by rfl

structure Verified where
  chainVerified : Bool := false
  signerKeyId : Option String := none
  deriving DecidableEq

def makeDropRecord (hasher : Hasher) (channelType : String) (channelIdentity : PyStr) (reason : DropReason) (ts : String)
    (detail : Option String) (verified : Verified) : Except ChannelError DropRecord := do
  let identityDigest ← digestIdentity hasher channelIdentity
  if digested : isSha256Digest identityDigest = true then
    if aware : isTzAware ts = true then
      if coded : detail.all isMachineCode = true then
        if attributed : (verified.signerKeyId.isNone || verified.chainVerified) = true then
          .ok ⟨channelType,identityDigest,reason,ts,detail,verified.chainVerified,verified.signerKeyId,none,none,digested,aware,coded,
            attributed,rfl,rfl⟩
        else .error (.refused "signer_key_id may only be set when chain_verified is True")
      else .error (.validation ["detail"])
    else .error (.validation ["ts"])
  else .error (.validation ["identity_digest"])

theorem makeDropRecord_ok (hasher : Hasher) (channelType : String) (reason : DropReason) {channelIdentity : PyStr}
    {identity ts : String} {detail : Option String} {verified : Verified}
    (hidentity : channelIdentity.encode = some identity) (hts : isTzAware ts = true) (hdetail : detail.all isMachineCode = true)
    (hverified : (verified.signerKeyId.isNone || verified.chainVerified) = true) :
    ∃ record, makeDropRecord hasher channelType channelIdentity reason ts detail verified = .ok record ∧ record.reason = reason := by
  refine ⟨⟨channelType,hasher.digest identity,reason,ts,detail,verified.chainVerified,verified.signerKeyId,none,none,
    hasher.format identity,hts,hdetail,hverified,rfl,rfl⟩,?_,rfl⟩
  have hdigest : digestIdentity hasher channelIdentity = .ok (hasher.digest identity) := by simp [digestIdentity,hidentity]
  rw [makeDropRecord,bind_of_ok hdigest,dif_pos (hasher.format identity),dif_pos hts,dif_pos hdetail,dif_pos hverified]

theorem makeDropRecord_unencodable {hasher : Hasher} {channelType : String} {channelIdentity : PyStr} {reason : DropReason}
    {ts : String} {detail : Option String} {verified : Verified} (hidentity : channelIdentity.encode = none) :
    makeDropRecord hasher channelType channelIdentity reason ts detail verified = .error .unicodeEncode := by
  simp [makeDropRecord,digestIdentity,hidentity,bind,Except.bind]

structure Stamp where
  zone : String
  source : String
  evidence : List String
  ts : String

def stampInbound (envelope : EventTrigger) (resolution : TrustResolution) (stamp : Stamp) : Except ChannelError EventTrigger := do
  let entry ← ProvenanceEntry.make stamp.zone stamp.source stamp.evidence resolution.senderClass.hopLabel stamp.ts
  return envelope.stamped entry (some resolution.senderClass)

def trustedByFloor (receiverMap : InputTrustMap) (entry : ProvenanceEntry) : Bool :=
  entry.label == .trusted && receiverMap entry.source

def ingestChain (envelope : EventTrigger) (turn : TurnContext) (receiverMap : InputTrustMap) : TurnContext :=
  envelope.provenance.foldl (fun turn entry => turn.ingestSource entry.source (trustedByFloor receiverMap entry)) turn

theorem ProvenanceEntry.make_ok {zone source : String} {evidence : List String} {label : HopLabel} {ts : String}
    {entry : ProvenanceEntry} (h : ProvenanceEntry.make zone source evidence label ts = .ok entry) :
    entry.zone = zone ∧ entry.source = source ∧ entry.evidence = evidence ∧ entry.label = label ∧ entry.ts = ts := by
  unfold ProvenanceEntry.make at h
  split at h
  · split at h
    · cases h
      exact ⟨rfl,rfl,rfl,rfl,rfl⟩
    · cases h
  · cases h

theorem stampInbound_ok {envelope accepted : EventTrigger} {resolution : TrustResolution} {stamp : Stamp}
    (h : stampInbound envelope resolution stamp = .ok accepted) :
    ∃ entry, entry.zone = stamp.zone ∧ entry.source = stamp.source ∧ entry.evidence = stamp.evidence ∧
      entry.label = resolution.senderClass.hopLabel ∧ entry.ts = stamp.ts ∧
      accepted = envelope.stamped entry (some resolution.senderClass) := by
  obtain ⟨entry,hentry,h⟩ := bind_ok.mp h
  obtain ⟨hzone,hsource,hevidence,hlabel,hts⟩ := ProvenanceEntry.make_ok hentry
  exact ⟨entry,hzone,hsource,hevidence,hlabel,hts,(pure_ok.mp h).symm⟩

theorem ingestSource_sources (turn : TurnContext) (source : String) (trusted : Bool) (s : String) :
    s ∈ (turn.ingestSource source trusted).sources ↔ s ∈ turn.sources ∨ (source = s ∧ trusted = false) := by
  cases trusted with
  | true => simp [TurnContext.ingestSource]
  | false =>
    simp only [TurnContext.ingestSource,TurnContext.markTainted,Bool.false_eq_true,if_false,and_true]
    split
    · rename_i hheld
      refine ⟨.inl,fun h => h.elim id ?_⟩
      rintro rfl
      simpa using hheld
    · simp [eq_comm]

theorem ingestChain_sources (envelope : EventTrigger) (turn : TurnContext) (receiverMap : InputTrustMap) (s : String) :
    s ∈ (ingestChain envelope turn receiverMap).sources ↔
      s ∈ turn.sources ∨ ∃ entry ∈ envelope.provenance, entry.source = s ∧ trustedByFloor receiverMap entry = false := by
  unfold ingestChain
  induction envelope.provenance generalizing turn with
  | nil => simp
  | cons entry chain ih =>
    rw [List.foldl_cons,ih,ingestSource_sources]
    simp [or_assoc]

theorem ingestChain_tainted (envelope : EventTrigger) (turn : TurnContext) (receiverMap : InputTrustMap) :
    (ingestChain envelope turn receiverMap).tainted = true ↔
      turn.tainted = true ∨ ∃ entry ∈ envelope.provenance, trustedByFloor receiverMap entry = false := by
  unfold ingestChain
  induction envelope.provenance generalizing turn with
  | nil => simp
  | cons entry chain ih =>
    rw [List.foldl_cons,ih]
    cases hfloor : trustedByFloor receiverMap entry with
    | true => simp [TurnContext.ingestSource,hfloor]
    | false => simp [TurnContext.ingestSource,TurnContext.markTainted,hfloor]

theorem trustedByFloor_untrusted {receiverMap : InputTrustMap} {entry : ProvenanceEntry} (h : entry.label = .untrusted) :
    trustedByFloor receiverMap entry = false := by
  simp [trustedByFloor,h]

end SafeAgents.Channels
