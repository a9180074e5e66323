import SafeAgents.Channels.Signing
import SafeAgents.Grants.Operations
import SafeAgents.Grants.StandingSource
import SafeAgents.Schemas.JsonOrder

namespace SafeAgents.Grants

open Channels (dssePayloadType statementType)
open Checked

def recordPredicateType : String := "https://safe-agents.dev/promotion-record/v1"

inductive CheckError where
  | typeError | valueError | overflowError
  | other (name : String)
  deriving DecidableEq

def CheckError.typeName : CheckError → String
  | .typeError => "TypeError"
  | .valueError => "ValueError"
  | .overflowError => "OverflowError"
  | .other name => name

inductive RecordVerifyReason where
  | signatureMissing | signatureMalformed | signatureInvalid | signerUnknown | signerWrongRole | signerRoleAmbiguous
  | roleUnresolved | signerWithdrawn
  deriving DecidableEq

def RecordVerifyReason.text : RecordVerifyReason → String
  | .signatureMissing => "record_signature_missing"
  | .signatureMalformed => "record_signature_malformed"
  | .signatureInvalid => "record_signature_invalid"
  | .signerUnknown => "record_signer_unknown"
  | .signerWrongRole => "record_signer_wrong_role"
  | .signerRoleAmbiguous => "record_signer_role_ambiguous"
  | .roleUnresolved => "record_role_unresolved"
  | .signerWithdrawn => "record_signer_withdrawn"

structure RecordVerifyResult where
  ok : Bool
  reason : Option RecordVerifyReason := none
  keyId : Option String := none
  deriving DecidableEq

def signingRoleForRecordType : RecordType → StandingRole
  | .promotion => .issuer
  | .bootstrap => .issuer
  | .tightening => .issuer
  | .reattestation => .issuer
  | .demotion => .evaluator
  | .lapse => .evaluator
  | .withdrawal => .evaluator

-- A key id out of an envelope is any JSON value; a value that cannot be a dict key makes the lookup raise.
abbrev KeyResolver (Key : Type) := Json → Except CheckError (Option Key)

structure RecordWire (Bytes Key : Type) extends StandingWire Bytes Key where
  encode : String → Bytes
  loadBytes : Bytes → Option Json

def zeroNumber (text : String) : Bool :=
  (text.toList.takeWhile fun c => c ≠ 'e' && c ≠ 'E').all fun c => c = '0' || c = '-' || c = '.'

def isFalsy : Json → Bool
  | .null => true
  | .bool b => !b
  | .num text => zeroNumber text
  | .str s => s.isEmpty
  | .arr items => items.isEmpty
  | .obj fields => fields.isEmpty

structure DsseStatement (Bytes : Type) where
  signatures : List Json
  signer : Json
  bytes : Bytes

section Verify
variable {Bytes Key : Type} [DecidableEq Key] (wire : RecordWire Bytes Key)

def signaturesOf (envelope : Json) : Except RecordVerifyReason (List Json) :=
  match envelope.get? "signatures" with
  | none => .error .signatureMissing
  | some signatures =>
    if isFalsy signatures then .error .signatureMissing
    else
      match signatures with
      | .arr items => .ok items
      | _ => .error .signatureMalformed

def statementBytes (envelope : Json) : Except RecordVerifyReason (Bytes × Json) :=
  match ((envelope.get? "payload").bind Json.str?).bind wire.b64decode with
  | none => .error .signatureMalformed
  | some bytes =>
    match wire.loadBytes bytes with
    | some (.obj fields) => .ok (bytes,.obj fields)
    | _ => .error .signatureMalformed

def subjectHex (statement : Json) : Option Json :=
  match statement.get? "subject" with
  | some (.arr (subject :: _)) => (subject.get? "digest").bind fun digest => digest.get? "sha256"
  | _ => none

def signerKeyId (statement : Json) : Option Json :=
  ((statement.get? "predicate").bind fun predicate => predicate.get? "signer").bind fun signer => signer.get? "key_id"

-- The part of verify_dsse_record before the first key is looked up.
def openEnvelope (envelope : Json) (expectedPredicateType subjectDigestHex : String) :
    Except RecordVerifyReason (DsseStatement Bytes) := do
  let signatures ← signaturesOf envelope
  refuseIf ((envelope.get? "payloadType").bind Json.str? ≠ some dssePayloadType) .signatureInvalid
  let (bytes,statement) ← statementBytes wire envelope
  refuseIf ((statement.get? "_type").bind Json.str? ≠ some statementType) .signatureInvalid
  refuseIf ((statement.get? "predicateType").bind Json.str? ≠ some expectedPredicateType) .signatureInvalid
  match subjectHex statement, signerKeyId statement with
  | some subject, some signer =>
    refuseIf (subject.str? ≠ some subjectDigestHex) .signatureInvalid
    return { signatures, signer, bytes }
  | _, _ => .error .signatureMalformed

def checkSignature (keyResolver : KeyResolver Key) (statement : DsseStatement Bytes) (signature : Json) :
    Except CheckError (Option RecordVerifyReason) :=
  match signature.get? "keyid", signature.get? "sig" with
  | some keyid, some sig =>
    if Json.same keyid statement.signer then do
      match ← keyResolver keyid with
      | none => return some .signerUnknown
      | some publicKey =>
        match sig.str?.bind wire.b64decode with
        | none => return some .signatureInvalid
        | some raw => return if wire.verify publicKey raw dssePayloadType statement.bytes then none else some .signatureInvalid
    else .ok (some .signatureInvalid)
  | _, _ => .ok (some .signatureMalformed)

def checkSignatures (keyResolver : KeyResolver Key) (statement : DsseStatement Bytes) :
    List Json → Except CheckError (Option RecordVerifyReason)
  | [] => .ok none
  | signature :: rest => do
    match ← checkSignature wire keyResolver statement signature with
    | some reason => return some reason
    | none => checkSignatures keyResolver statement rest

def verifyDsseRecord (envelope : Json) (expectedPredicateType subjectDigestHex : String) (keyResolver : KeyResolver Key) :
    Except CheckError (Option RecordVerifyReason) :=
  match openEnvelope wire envelope expectedPredicateType subjectDigestHex with
  | .error reason => .ok (some reason)
  | .ok statement => checkSignatures wire keyResolver statement statement.signatures

def storedRecordDigestHex (stored : String) : String := wire.sha256 (wire.encode stored)

def verifyRecord (stored : String) (envelope : Json) (keyResolver : KeyResolver Key) : Except CheckError RecordVerifyResult := do
  let reason ← verifyDsseRecord wire envelope recordPredicateType (storedRecordDigestHex wire stored) keyResolver
  return { ok := reason.isNone, reason }

structure RoleKeyResolvers (Key : Type) where
  issuer : Option (KeyResolver Key) := none
  evaluator : Option (KeyResolver Key) := none
  standing : StandingRole → Option (String → Option KeyState) := fun _ => none

namespace RoleKeyResolvers

def forRole (resolvers : RoleKeyResolvers Key) : StandingRole → Option (KeyResolver Key)
  | .issuer => resolvers.issuer
  | .evaluator => resolvers.evaluator

def resolves (resolvers : RoleKeyResolvers Key) (keyId : String) (role : StandingRole) : Except CheckError Bool :=
  match resolvers.forRole role with
  | none => .ok false
  | some resolver => (resolver (.str keyId)).map Option.isSome

def rolesResolving (resolvers : RoleKeyResolvers Key) (keyId : String) : Except CheckError (List StandingRole) := do
  let issuer ← resolvers.resolves keyId .issuer
  let evaluator ← resolvers.resolves keyId .evaluator
  return (if issuer then [.issuer] else []) ++ if evaluator then [.evaluator] else []

end RoleKeyResolvers

def envelopeSignerKeyId (envelope : Json) : Option String :=
  match envelope.get? "signatures" with
  | some (.arr (first :: _)) => (first.get? "keyid").bind Json.str?
  | _ => none

def roleRefusal (resolvers : RoleKeyResolvers Key) (role : StandingRole) (envelope : Json) :
    Except CheckError (Option RecordVerifyReason) :=
  match envelopeSignerKeyId envelope with
  | none => .ok none
  | some keyId => do
    let holders ← resolvers.rolesResolving keyId
    if holders.length > 1 then return some .signerRoleAmbiguous
    if holders.any (· ≠ role) then return some .signerWrongRole
    return none

def verifyRecordByType (stored : String) (envelope : Json) (recordType : RecordType) (resolvers : RoleKeyResolvers Key) :
    Except CheckError RecordVerifyResult :=
  let role := signingRoleForRecordType recordType
  match resolvers.forRole role with
  | none => .ok { ok := false, reason := some .roleUnresolved }
  | some resolver => do
    match ← roleRefusal resolvers role envelope with
    | some reason => return { ok := false, reason := some reason }
    | none =>
      let result ← verifyRecord wire stored envelope resolver
      if !result.ok then return result
      let signer := envelopeSignerKeyId envelope
      let state := (resolvers.standing role).bind fun keyState => signer.bind keyState
      if state = some .withdrawn then return { ok := false, reason := some .signerWithdrawn, keyId := signer }
      return { ok := true, keyId := signer }

end Verify

namespace StandingSource
variable {Bytes Key : Type} [DecidableEq Key] (wire : StandingWire Bytes Key)

def resolver (s : StandingSource) : KeyResolver Key
  | .str keyId => .ok (s.keyResolver wire keyId)
  | .arr _ => if s.accepted.isSome then .error .typeError else .ok none
  | .obj _ => if s.accepted.isSome then .error .typeError else .ok none
  | _ => .ok none

def issuerResolvers (s : StandingSource) : RoleKeyResolvers Key where
  issuer := some (s.resolver wire)
  standing
    | .issuer => some s.keyState
    | .evaluator => none

end StandingSource

section Lemmas
variable {Bytes Key : Type} [DecidableEq Key] {wire : RecordWire Bytes Key} {resolver resolver' : KeyResolver Key}
  {statement : DsseStatement Bytes}

structure Vouched (wire : RecordWire Bytes Key) (resolver : KeyResolver Key) (statement : DsseStatement Bytes) (signature : Json) :
    Prop where
  keyid : signature.get? "keyid" = some statement.signer
  verified : ∃ publicKey sig raw, resolver statement.signer = .ok (some publicKey) ∧ signature.get? "sig" = some (.str sig) ∧
    wire.b64decode sig = some raw ∧ wire.verify publicKey raw dssePayloadType statement.bytes = true

omit [DecidableEq Key] in
theorem checkSignature_passes {signature : Json} (h : checkSignature wire resolver statement signature = .ok none) :
    Vouched wire resolver statement signature := by
  rw [checkSignature] at h
  split at h
  next keyid sig hkeyid hsig =>
    split at h
    next hsame =>
      obtain rfl := Json.eq_of_same _ _ hsame
      obtain ⟨found,hfound,hrest⟩ := bind_ok.mp h
      cases found with
      | none => cases hrest
      | some publicKey =>
        cases hraw : sig.str?.bind wire.b64decode with
        | none =>
          rw [hraw] at hrest
          cases hrest
        | some raw =>
          obtain ⟨text,htext,hdecoded⟩ := Option.bind_eq_some_iff.mp hraw
          rw [hraw] at hrest
          have hverified : wire.verify publicKey raw dssePayloadType statement.bytes = true := by
            by_contra hnot
            simp only [if_neg hnot] at hrest
            cases hrest
          refine ⟨hkeyid,publicKey,text,raw,hfound,?_,hdecoded,hverified⟩
          cases sig <;> simp_all [Json.str?]
    · cases h
  · cases h

omit [DecidableEq Key] in
theorem Vouched.passes {signature : Json} (h : Vouched wire resolver statement signature)
    (hsame : resolver' statement.signer = resolver statement.signer) :
    checkSignature wire resolver' statement signature = .ok none := by
  obtain ⟨publicKey,sig,raw,hfound,hsig,hraw,hverified⟩ := h.verified
  rw [checkSignature,h.keyid,hsig]
  simp only [Json.same_self,if_true]
  rw [bind_of_ok (hsame.trans hfound)]
  simp only [Json.str?,Option.bind_some,hraw,hverified,if_true]
  rfl

omit [DecidableEq Key] in
theorem Vouched.unknown {signature : Json} (h : Vouched wire resolver statement signature)
    (hnone : resolver' statement.signer = .ok none) :
    checkSignature wire resolver' statement signature = .ok (some .signerUnknown) := by
  obtain ⟨_,sig,_,_,hsig,_,_⟩ := h.verified
  rw [checkSignature,h.keyid,hsig]
  simp only [Json.same_self,if_true]
  rw [bind_of_ok hnone]
  rfl

omit [DecidableEq Key] in
theorem checkSignatures_pass {signatures : List Json} :
    checkSignatures wire resolver statement signatures = .ok none ↔
      ∀ signature ∈ signatures, Vouched wire resolver statement signature := by
  induction signatures with
  | nil => simp [checkSignatures]
  | cons signature rest ih =>
    rw [checkSignatures,bind_ok,List.forall_mem_cons]
    constructor
    · rintro ⟨reason,hreason,hrest⟩
      cases reason with
      | some reason => cases hrest
      | none => exact ⟨checkSignature_passes hreason,ih.mp hrest⟩
    · rintro ⟨hfirst,hrest⟩
      exact ⟨none,hfirst.passes rfl,ih.mpr hrest⟩

omit [DecidableEq Key] in
theorem openEnvelope_ok {envelope : Json} {expected digest : String}
    (h : openEnvelope wire envelope expected digest = .ok statement) :
    envelope.get? "signatures" = some (.arr statement.signatures) ∧ statement.signatures ≠ [] := by
  obtain ⟨signatures,hsignatures,hrest⟩ := bind_ok.mp h
  obtain ⟨_,hrest⟩ := then_ok.mp hrest
  obtain ⟨⟨bytes,payload⟩,_,hrest⟩ := bind_ok.mp hrest
  obtain ⟨_,hrest⟩ := then_ok.mp hrest
  obtain ⟨_,hrest⟩ := then_ok.mp hrest
  have hkept : statement.signatures = signatures := by
    split at hrest
    · obtain ⟨_,hend⟩ := then_ok.mp hrest
      rw [← pure_ok.mp hend]
    · cases hrest
  rw [hkept]
  rw [signaturesOf] at hsignatures
  split at hsignatures
  · cases hsignatures
  next found hfound =>
    split at hsignatures
    · cases hsignatures
    next hfalsy =>
      split at hsignatures
      next items =>
        cases hsignatures
        refine ⟨hfound,fun hnil => hfalsy ?_⟩
        rw [hnil]
        rfl
      · cases hsignatures

structure VerifiedBy (wire : RecordWire Bytes Key) (stored : String) (envelope : Json) (resolver : KeyResolver Key) (keyId : String)
    (statement : DsseStatement Bytes) : Prop where
  opened : openEnvelope wire envelope recordPredicateType (storedRecordDigestHex wire stored) = .ok statement
  signer : statement.signer = .str keyId
  vouched : ∀ signature ∈ statement.signatures, Vouched wire resolver statement signature

omit [DecidableEq Key] in
theorem verifyRecord_ok {stored : String} {envelope : Json} {result : RecordVerifyResult}
    (h : verifyRecord wire stored envelope resolver = .ok result) (hok : result.ok = true) :
    ∃ statement, openEnvelope wire envelope recordPredicateType (storedRecordDigestHex wire stored) = .ok statement ∧
      ∀ signature ∈ statement.signatures, Vouched wire resolver statement signature := by
  obtain ⟨reason,hreason,hend⟩ := bind_ok.mp h
  have hnone : reason = none := by
    have hresult := pure_ok.mp hend
    rw [← hresult] at hok
    exact Option.isNone_iff_eq_none.mp hok
  rw [verifyDsseRecord] at hreason
  split at hreason
  · rw [hnone] at hreason
    cases hreason
  next statement hopened =>
    rw [hnone] at hreason
    exact ⟨statement,hopened,checkSignatures_pass.mp hreason⟩

omit [DecidableEq Key] in
theorem verifyRecord_of_open {stored : String} {envelope : Json} {statement : DsseStatement Bytes} {reason : Option RecordVerifyReason}
    (hopened : openEnvelope wire envelope recordPredicateType (storedRecordDigestHex wire stored) = .ok statement)
    (hchecked : checkSignatures wire resolver statement statement.signatures = .ok reason) :
    verifyRecord wire stored envelope resolver = .ok { ok := reason.isNone, reason } := by
  rw [verifyRecord,verifyDsseRecord]
  simp only [hopened]
  rw [bind_of_ok hchecked]
  rfl

omit [DecidableEq Key] in
theorem envelopeSignerKeyId_opened {envelope : Json} {expected digest : String} {signature : Json} {rest : List Json}
    (hopened : openEnvelope wire envelope expected digest = .ok statement) (hsignatures : statement.signatures = signature :: rest)
    (hkeyid : signature.get? "keyid" = some statement.signer) :
    envelopeSignerKeyId envelope = statement.signer.str? := by
  rw [envelopeSignerKeyId,(openEnvelope_ok hopened).1,hsignatures]
  simp only [hkeyid,Option.bind_some]

end Lemmas

namespace StandingSource
variable {Bytes Key : Type} [DecidableEq Key] {wire : RecordWire Bytes Key} {s t : StandingSource} {stored keyId : String}
  {envelope : Json} {recordType : RecordType} {result : RecordVerifyResult}

theorem roleRefusal_issuer (s : StandingSource) (envelope : Json) :
    roleRefusal (s.issuerResolvers wire.toStandingWire) .issuer envelope = .ok none := by
  rw [roleRefusal]
  split
  · rfl
  next keyId _ =>
    have hholders : (s.issuerResolvers wire.toStandingWire).rolesResolving keyId =
        .ok (if (s.keyResolver wire.toStandingWire keyId).isSome then [.issuer] else []) := by
      simp only [RoleKeyResolvers.rolesResolving,RoleKeyResolvers.resolves,RoleKeyResolvers.forRole,issuerResolvers,resolver]
      cases s.keyResolver wire.toStandingWire keyId <;> rfl
    rw [bind_of_ok hholders]
    cases s.keyResolver wire.toStandingWire keyId <;> rfl

theorem verifyRecordByType_issuer (s : StandingSource) (stored : String) (envelope : Json)
    (hrole : signingRoleForRecordType recordType = .issuer) :
    verifyRecordByType wire stored envelope recordType (s.issuerResolvers wire.toStandingWire) = (do
      let result ← verifyRecord wire stored envelope (s.resolver wire.toStandingWire)
      if !result.ok then return result
      let signer := envelopeSignerKeyId envelope
      if signer.bind s.keyState = some .withdrawn then return { ok := false, reason := some .signerWithdrawn, keyId := signer }
      return { ok := true, keyId := signer }) := by
  simp only [verifyRecordByType,hrole,RoleKeyResolvers.forRole,issuerResolvers]
  have hrefusal : roleRefusal (s.issuerResolvers wire.toStandingWire) .issuer envelope = .ok none := roleRefusal_issuer s envelope
  rw [issuerResolvers] at hrefusal
  rw [bind_of_ok hrefusal]
  rfl

theorem verifyRecordByType_key (hrole : signingRoleForRecordType recordType = .issuer)
    (h : verifyRecordByType wire stored envelope recordType (s.issuerResolvers wire.toStandingWire) = .ok result)
    (hkey : result.keyId = some keyId) :
    ∃ statement, VerifiedBy wire stored envelope (s.resolver wire.toStandingWire) keyId statement := by
  rw [verifyRecordByType_issuer s stored envelope hrole] at h
  obtain ⟨checked,hchecked,hrest⟩ := bind_ok.mp h
  cases hok : checked.ok with
  | false =>
    simp only [hok,Bool.not_false,if_true] at hrest
    obtain ⟨reason,_,hend⟩ := bind_ok.mp hchecked
    rw [← pure_ok.mp hrest,← pure_ok.mp hend] at hkey
    cases hkey
  | true =>
    simp only [hok,Bool.not_true,Bool.false_eq_true,if_false] at hrest
    have hsigner : envelopeSignerKeyId envelope = some keyId := by
      split at hrest
      · rw [← pure_ok.mp hrest] at hkey
        exact hkey
      · rw [← pure_ok.mp hrest] at hkey
        exact hkey
    obtain ⟨statement,hopened,hvouched⟩ := verifyRecord_ok hchecked hok
    obtain ⟨signature,rest,hsignatures⟩ := List.exists_cons_of_ne_nil (openEnvelope_ok hopened).2
    have hfirst := hvouched signature (by rw [hsignatures]; exact List.mem_cons_self)
    rw [envelopeSignerKeyId_opened hopened hsignatures hfirst.keyid] at hsigner
    refine ⟨statement,hopened,?_,hvouched⟩
    cases hj : statement.signer <;> simp_all [Json.str?]

end StandingSource

section Again
variable {Bytes Key : Type} [DecidableEq Key] {wire : RecordWire Bytes Key} {s t : StandingSource} {stored keyId : String}
  {envelope : Json} {recordType : RecordType}

theorem VerifiedBy.known {statement : DsseStatement Bytes}
    (h : VerifiedBy wire stored envelope (s.resolver wire.toStandingWire) keyId statement) :
    ∃ publicKey, s.keyResolver wire.toStandingWire keyId = some publicKey := by
  obtain ⟨signature,rest,hsignatures⟩ := List.exists_cons_of_ne_nil (openEnvelope_ok h.opened).2
  obtain ⟨publicKey,_,_,hfound,_⟩ := (h.vouched signature (by rw [hsignatures]; exact List.mem_cons_self)).verified
  rw [h.signer] at hfound
  exact ⟨publicKey,Except.ok.inj hfound⟩

theorem VerifiedBy.again {statement : DsseStatement Bytes} (hrole : signingRoleForRecordType recordType = .issuer)
    (h : VerifiedBy wire stored envelope (s.resolver wire.toStandingWire) keyId statement)
    (hsame : t.keyResolver wire.toStandingWire keyId = s.keyResolver wire.toStandingWire keyId) :
    ∃ result, verifyRecordByType wire stored envelope recordType (t.issuerResolvers wire.toStandingWire) = .ok result ∧
      result.keyId = some keyId := by
  have hresolved : t.resolver wire.toStandingWire statement.signer = s.resolver wire.toStandingWire statement.signer := by
    rw [h.signer]
    exact congrArg Except.ok hsame
  have hchecked : checkSignatures wire (t.resolver wire.toStandingWire) statement statement.signatures = .ok none := by
    rw [checkSignatures_pass]
    intro signature hsignature
    exact checkSignature_passes ((h.vouched signature hsignature).passes hresolved)
  obtain ⟨signature,rest,hsignatures⟩ := List.exists_cons_of_ne_nil (openEnvelope_ok h.opened).2
  have hfirst := h.vouched signature (by rw [hsignatures]; exact List.mem_cons_self)
  have hsigner : envelopeSignerKeyId envelope = some keyId := by
    rw [envelopeSignerKeyId_opened h.opened hsignatures hfirst.keyid,h.signer]
    rfl
  rw [StandingSource.verifyRecordByType_issuer t stored envelope hrole,
    bind_of_ok (verifyRecord_of_open h.opened hchecked)]
  simp only [Option.isNone_none,Bool.not_true,Bool.false_eq_true,if_false,hsigner]
  split
  · exact ⟨_,rfl,rfl⟩
  · exact ⟨_,rfl,rfl⟩

theorem VerifiedBy.unlisted {statement : DsseStatement Bytes} (hrole : signingRoleForRecordType recordType = .issuer)
    (h : VerifiedBy wire stored envelope (s.resolver wire.toStandingWire) keyId statement)
    (hnone : t.keyResolver wire.toStandingWire keyId = none) :
    verifyRecordByType wire stored envelope recordType (t.issuerResolvers wire.toStandingWire) =
      .ok { ok := false, reason := some .signerUnknown } := by
  have hunknown : t.resolver wire.toStandingWire statement.signer = .ok none := by
    rw [h.signer]
    exact congrArg Except.ok hnone
  obtain ⟨signature,rest,hsignatures⟩ := List.exists_cons_of_ne_nil (openEnvelope_ok h.opened).2
  have hfirst := h.vouched signature (by rw [hsignatures]; exact List.mem_cons_self)
  have hchecked : checkSignatures wire (t.resolver wire.toStandingWire) statement statement.signatures =
      .ok (some .signerUnknown) := by
    rw [hsignatures,checkSignatures,bind_of_ok (hfirst.unknown hunknown)]
    rfl
  rw [StandingSource.verifyRecordByType_issuer t stored envelope hrole,
    bind_of_ok (verifyRecord_of_open h.opened hchecked)]
  rfl

end Again

end SafeAgents.Grants
