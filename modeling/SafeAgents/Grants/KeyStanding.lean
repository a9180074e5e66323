import SafeAgents.Checked
import SafeAgents.Dict
import SafeAgents.Grants.Ledger

namespace SafeAgents.Grants

open Calendar Checked

inductive StandingRole where
  | issuer | evaluator
  deriving DecidableEq

def StandingRole.text : StandingRole → String
  | .issuer => "issuer"
  | .evaluator => "evaluator"

inductive KeyState where
  | active | retired | withdrawn
  deriving DecidableEq

def KeyState.text : KeyState → String
  | .active => "active"
  | .retired => "retired"
  | .withdrawn => "withdrawn"

inductive RetiredReason where
  | superseded | cessationOfOperation
  deriving DecidableEq

inductive WithdrawnReason where
  | keyCompromise | privilegeWithdrawn
  deriving DecidableEq

inductive LoadVerdict where
  | accepted | unchanged | unreadable
  | malformed | signatureInvalid | signerUnknown | wrongRole | rollback | withdrawalDropped | transitionRefused | keyRebound
  | authorityKeyListed | keyDuplicated
  deriving DecidableEq

inductive StandingError where
  | refused (verdict : LoadVerdict) (detail : String)
  | value (text : String)
  | raised (text : String)
  deriving DecidableEq

structure KeyStandingEntry where
  publicKey : String
  state : KeyState
  retiredAt : Option String := none
  retiredReason : Option RetiredReason := none
  withdrawnAt : Option String := none
  withdrawnReason : Option WithdrawnReason := none
  deriving DecidableEq

structure StandingSigner where
  keyId : String
  zone : String
  deriving DecidableEq

structure KeyStandingDocument where
  role : StandingRole
  version : Int
  issuedAt : String
  signer : StandingSigner
  keys : Dict String KeyStandingEntry
  deriving DecidableEq

def parseStandingInstant (value field : String) : Except StandingError Int :=
  match fromisoformat value with
  | none => .error (.value (field ++ " " ++ pyRepr value ++ " is not a parseable ISO-8601 instant"))
  | some parsed =>
    if parsed.offset = some 0 then .ok parsed.clock
    else .error (.value (field ++ " " ++ pyRepr value ++ " must be an explicit UTC instant (offset 'Z' or '+00:00')"))

-- An empty text is no date here: the source tests the field's truth, not its presence.
def parseGivenInstant (value : Option String) (field : String) : Except StandingError (Option Int) :=
  match value with
  | none => .ok none
  | some text => if text = "" then .ok none else (parseStandingInstant text field).map some

def KeyStandingDocument.issued (document : KeyStandingDocument) : Except StandingError Int :=
  parseStandingInstant document.issuedAt "issuedAt"

-- What lies outside the repository: the JSON and base64 readers, the Ed25519 keys and signatures, the digest.
structure StandingWire (Bytes Key : Type) where
  loads : String → Except String Json
  b64decode : String → Option Bytes
  loadPublicKey : String → Except StandingError Key
  verify : Key → Bytes → String → Bytes → Bool
  parse : Bytes → Except String KeyStandingDocument
  report : String → String
  sha256 : Bytes → String

def standingPayloadType : String := "application/vnd.safe-agents.key-standing.v1+json"

section Document
variable {Bytes Key : Type} [DecidableEq Key] (wire : StandingWire Bytes Key)

namespace KeyStandingEntry

def bearsRetirement (e : KeyStandingEntry) : Prop := e.retiredAt ≠ none ∨ e.retiredReason ≠ none

instance (e : KeyStandingEntry) : Decidable e.bearsRetirement := inferInstanceAs (Decidable (_ ∨ _))

def bearsWithdrawal (e : KeyStandingEntry) : Prop := e.withdrawnAt ≠ none ∨ e.withdrawnReason ≠ none

instance (e : KeyStandingEntry) : Decidable e.bearsWithdrawal := inferInstanceAs (Decidable (_ ∨ _))

def shapeMatchesState (e : KeyStandingEntry) : Except StandingError Unit := do
  let _ ← wire.loadPublicKey e.publicKey
  refuseIf (e.state = .active ∧ (e.bearsRetirement ∨ e.bearsWithdrawal))
    (.value "an active key carries no retirement or withdrawal fields")
  refuseIf (e.state = .retired ∧ (e.retiredAt = none ∨ e.retiredReason = none ∨ e.bearsWithdrawal))
    (.value "a retired key carries retiredAt and retiredReason and no withdrawal fields")
  refuseIf (e.state = .withdrawn ∧ (e.withdrawnAt = none ∨ e.withdrawnReason = none))
    (.value "a withdrawn key carries withdrawnAt and withdrawnReason")
  refuseIf (e.state = .withdrawn ∧ e.retiredAt.isNone ≠ e.retiredReason.isNone)
    (.value "retiredAt and retiredReason are set together or not at all")
  let retiredAt ← parseGivenInstant e.retiredAt "retiredAt"
  let withdrawnAt ← parseGivenInstant e.withdrawnAt "withdrawnAt"
  refuseIf (retiredAt.any fun r => withdrawnAt.any fun w => w < r)
    (.value "withdrawnAt must not be earlier than retiredAt")

end KeyStandingEntry

def KeyStandingDocument.wellFormed (document : KeyStandingDocument) : Except StandingError Unit := do
  refuseIf (document.version < 1) (.value "Input should be greater than or equal to 1")
  refuseIf (document.signer.keyId = "" ∨ document.signer.zone = "") (.value "String should have at least 1 character")
  document.keys.values.forM (KeyStandingEntry.shapeMatchesState wire)
  let _ ← document.issued
  refuseIf (document.keys.keys.any (· = "")) (.value "a key id must be a non-empty string")

def distinctFrom (seen : Dict Key String) : List (String × KeyStandingEntry) → Except StandingError Unit
  | [] => .ok ()
  | (keyId,entry) :: rest => do
    let raw ← wire.loadPublicKey entry.publicKey
    match seen.get? raw with
    | some earlier =>
      .error (.refused .keyDuplicated ("keys " ++ pyRepr earlier ++ " and " ++ pyRepr keyId ++
        " name the same public key; one key holds one entry, and a key trusted again is a new key pair"))
    | none => distinctFrom (seen.set raw keyId) rest

def checkDistinctKeyBytes (document : KeyStandingDocument) : Except StandingError Unit :=
  distinctFrom wire .empty document.keys.entries

def malformed (detail : String) : StandingError := .refused .malformed detail

def parsePayload (payload : Bytes) : Except StandingError KeyStandingDocument :=
  match wire.parse payload with
  | .error text => .error (malformed ("the signed payload is not a standing document (" ++ text ++ ")"))
  | .ok document =>
    match document.wellFormed wire with
    | .ok _ => .ok document
    | .error (.raised text) => .error (.raised text)
    | .error (.value text) =>
      .error (malformed ("the signed payload is not a standing document (" ++ wire.report text ++ ")"))
    | .error (.refused _ detail) =>
      .error (malformed ("the signed payload is not a standing document (" ++ wire.report detail ++ ")"))

def envelopeOf (text : String) : Except StandingError Json :=
  match wire.loads text with
  | .error exc => .error (malformed ("not JSON (" ++ exc ++ ")"))
  | .ok envelope => .ok envelope

def signatureOf (envelope : Json) : Except StandingError Json :=
  match envelope.get? "signatures" with
  | some (.arr [signature]) => .ok signature
  | _ => .error (.refused .signatureInvalid "a standing document carries exactly one signature")

def keyidOf (signature : Json) : Except StandingError String :=
  match (signature.get? "keyid").bind Json.str? with
  | some keyid => .ok keyid
  | none => .error (malformed "the signature has no keyid")

def base64Member (owner : Json) (name : String) : Except StandingError Bytes :=
  match ((owner.get? name).bind Json.str?).bind wire.b64decode with
  | some bytes => .ok bytes
  | none => .error (malformed "payload or sig is not base64")

def authorityKey (authority : String → Option Key) (keyid : String) : Except StandingError Key :=
  match authority keyid with
  | some key => .ok key
  | none => .error (.refused .signerUnknown ("key " ++ pyRepr keyid ++ " is not a standing-authority key bound at deploy"))

def verifyStandingEnvelope (authority : String → Option Key) (role : StandingRole) (text : String) :
    Except StandingError (KeyStandingDocument × String) := do
  let envelope ← envelopeOf wire text
  refuseIf ((envelope.get? "payloadType").bind Json.str? ≠ some standingPayloadType)
    (malformed ("not a DSSE envelope of type " ++ standingPayloadType))
  let signature ← signatureOf envelope
  let keyid ← keyidOf signature
  let payload ← base64Member wire envelope "payload"
  let sig ← base64Member wire signature "sig"
  let publicKey ← authorityKey authority keyid
  refuseIf (wire.verify publicKey sig standingPayloadType payload = false)
    (.refused .signatureInvalid "the signature does not verify over the payload")
  let document ← parsePayload wire payload
  refuseIf (document.signer.keyId ≠ keyid)
    (.refused .signatureInvalid "the document's signer differs from the signature's keyid")
  refuseIf (document.role ≠ role)
    (.refused .wrongRole ("a " ++ document.role.text ++ " document offered as the " ++ role.text ++ " document"))
  checkDistinctKeyBytes wire document
  return (document,wire.sha256 payload)

end Document

def movesForward (old new : KeyStandingEntry) : Bool :=
  if old.state = new.state then old = new
  else
    match old.state with
    | .active => true
    | .retired => new.state = .withdrawn && new.retiredAt = old.retiredAt && new.retiredReason = old.retiredReason
    | .withdrawn => false

section Successor
variable {Bytes Key : Type} [DecidableEq Key] (wire : StandingWire Bytes Key)

def carriesWithdrawal (candidate : KeyStandingDocument) (seen : String × KeyStandingEntry) : Except StandingError Unit :=
  refuseIf (candidate.keys.get? seen.1 ≠ some seen.2)
    (.refused .withdrawalDropped ("key " ++ pyRepr seen.1 ++ " was seen withdrawn and the candidate does not say so"))

def update (known seen : Dict String KeyStandingEntry) : Dict String KeyStandingEntry :=
  seen.entries.foldl (fun d e => d.set e.1 e.2) known

def bytesOf (known : Dict String KeyStandingEntry) : Except StandingError (Dict Key String) :=
  known.entries.foldlM (fun d e => (wire.loadPublicKey e.2.publicKey).map fun raw => d.set raw e.1) .empty

def namesNoKnownKey (known : Dict String KeyStandingEntry) (knownBytes : Dict Key String)
    (e : String × KeyStandingEntry) : Except StandingError Unit :=
  if e.1 ∈ known.keys then .ok ()
  else do
    let raw ← wire.loadPublicKey e.2.publicKey
    match knownBytes.get? raw with
    | none => .ok ()
    | some earlier =>
      .error (.refused .keyRebound ("new key id " ++ pyRepr e.1 ++ " names the public key already listed as " ++
        pyRepr earlier ++ "; a key trusted again is a new key pair"))

def followsEntry (candidate : KeyStandingDocument) (e : String × KeyStandingEntry) : Except StandingError Unit :=
  match candidate.keys.get? e.1 with
  | none => .ok ()
  | some new => do
    refuseIf (new.publicKey ≠ e.2.publicKey)
      (.refused .keyRebound ("key id " ++ pyRepr e.1 ++ " names a different public key"))
    refuseIf (movesForward e.2 new = false)
      (.refused .transitionRefused ("key " ++ pyRepr e.1 ++ " moves from " ++ e.2.state.text ++ " to " ++ new.state.text ++
        ", or changes a recorded date or reason"))

def followsAccepted (accepted : Option KeyStandingDocument) (candidate : KeyStandingDocument) : Except StandingError Unit :=
  match accepted with
  | none => .ok ()
  | some accepted => do
    refuseIf (candidate.version ≤ accepted.version)
      (.refused .rollback ("version " ++ toString candidate.version ++ " is not greater than accepted version " ++
        toString accepted.version))
    accepted.keys.entries.forM (followsEntry candidate)

def checkSuccessor (accepted : Option KeyStandingDocument) (candidate : KeyStandingDocument)
    (seenWithdrawn : Dict String KeyStandingEntry) : Except StandingError Unit := do
  checkDistinctKeyBytes wire candidate
  seenWithdrawn.entries.forM (carriesWithdrawal candidate)
  let known := update ((accepted.map KeyStandingDocument.keys).getD .empty) seenWithdrawn
  let knownBytes ← bytesOf wire known
  candidate.keys.entries.forM (namesNoKnownKey wire known knownBytes)
  followsAccepted accepted candidate

def authorityKeyListed (keyId : String) : StandingError :=
  .refused .authorityKeyListed ("key " ++ pyRepr keyId ++
    " is a standing-authority key; the third role's keys are never the issuer's or the evaluator's")

def checkAuthorityNotListed (authorityKeyIds : List String) (authorityPublicKeys : List Key) (document : KeyStandingDocument) :
    Except StandingError Unit :=
  document.keys.entries.forM fun e => do
    refuseIf (e.1 ∈ authorityKeyIds) (authorityKeyListed e.1)
    let raw ← wire.loadPublicKey e.2.publicKey
    refuseIf (raw ∈ authorityPublicKeys) (authorityKeyListed e.1)

section Lemmas
variable {wire}

structure Carried (wire : StandingWire Bytes Key) (authority : String → Option Key) (role : StandingRole) (text : String)
    (envelope signature : Json) (keyid : String) (payload sig : Bytes) (publicKey : Key) (document : KeyStandingDocument) : Prop where
  read : envelopeOf wire text = .ok envelope
  typed : (envelope.get? "payloadType").bind Json.str? = some standingPayloadType
  single : signatureOf envelope = .ok signature
  named : keyidOf signature = .ok keyid
  decoded : base64Member wire envelope "payload" = .ok payload
  signed : base64Member wire signature "sig" = .ok sig
  resolved : authorityKey authority keyid = .ok publicKey
  verified : wire.verify publicKey sig standingPayloadType payload = true
  parsed : parsePayload wire payload = .ok document
  signer : document.signer.keyId = keyid
  offered : document.role = role
  distinct : checkDistinctKeyBytes wire document = .ok ()

theorem Carried.verifies {authority : String → Option Key} {role : StandingRole} {text : String} {envelope signature : Json}
    {keyid : String} {payload sig : Bytes} {publicKey : Key} {document : KeyStandingDocument}
    (h : Carried wire authority role text envelope signature keyid payload sig publicKey document) :
    verifyStandingEnvelope wire authority role text = .ok (document,wire.sha256 payload) := by
  rw [verifyStandingEnvelope,bind_of_ok h.read,bind_of_ok (refuseIf_pass (not_not.mpr h.typed)),bind_of_ok h.single,
    bind_of_ok h.named,bind_of_ok h.decoded,bind_of_ok h.signed,bind_of_ok h.resolved,
    bind_of_ok (refuseIf_pass (by simp [h.verified])),bind_of_ok h.parsed,bind_of_ok (refuseIf_pass (not_not.mpr h.signer)),
    bind_of_ok (refuseIf_pass (not_not.mpr h.offered)),bind_of_ok h.distinct]
  rfl

theorem distinctFrom_over {wire' : StandingWire Bytes Key} (h : wire'.loadPublicKey = wire.loadPublicKey) (seen : Dict Key String)
    (entries : List (String × KeyStandingEntry)) : distinctFrom wire' seen entries = distinctFrom wire seen entries := by
  induction entries generalizing seen with
  | nil => rfl
  | cons e entries ih => simp only [distinctFrom,h,ih]

theorem Carried.over {wire' : StandingWire Bytes Key} {authority : String → Option Key} {role : StandingRole} {text : String}
    {envelope signature : Json} {keyid : String} {payload sig : Bytes} {publicKey : Key} {document : KeyStandingDocument}
    (h : Carried wire authority role text envelope signature keyid payload sig publicKey document)
    (hloads : wire'.loads = wire.loads) (hb64decode : wire'.b64decode = wire.b64decode)
    (hloadPublicKey : wire'.loadPublicKey = wire.loadPublicKey) (hparse : wire'.parse = wire.parse) (hreport : wire'.report = wire.report)
    (hverified : wire'.verify publicKey sig standingPayloadType payload = true) :
    Carried wire' authority role text envelope signature keyid payload sig publicKey document := by
  have hdistinct : checkDistinctKeyBytes wire' document = .ok () := by
    rw [checkDistinctKeyBytes,distinctFrom_over hloadPublicKey]
    exact h.distinct
  cases wire
  cases wire'
  dsimp only at hloads hb64decode hloadPublicKey hparse hreport
  subst hloads hb64decode hloadPublicKey hparse hreport
  exact ⟨h.read,h.typed,h.single,h.named,h.decoded,h.signed,h.resolved,hverified,h.parsed,h.signer,h.offered,hdistinct⟩

theorem verifyStandingEnvelope_ok {authority : String → Option Key} {role : StandingRole} {text : String}
    {document : KeyStandingDocument} {digest : String}
    (h : verifyStandingEnvelope wire authority role text = .ok (document,digest)) :
    ∃ envelope signature keyid payload sig publicKey,
      Carried wire authority role text envelope signature keyid payload sig publicKey document ∧ digest = wire.sha256 payload := by
  obtain ⟨envelope,hread,h⟩ := bind_ok.mp h
  obtain ⟨htyped,h⟩ := then_ok.mp h
  obtain ⟨signature,hsingle,h⟩ := bind_ok.mp h
  obtain ⟨keyid,hnamed,h⟩ := bind_ok.mp h
  obtain ⟨payload,hdecoded,h⟩ := bind_ok.mp h
  obtain ⟨sig,hsigned,h⟩ := bind_ok.mp h
  obtain ⟨publicKey,hresolved,h⟩ := bind_ok.mp h
  obtain ⟨hverified,h⟩ := then_ok.mp h
  obtain ⟨parsed,hparsed,h⟩ := bind_ok.mp h
  obtain ⟨hsigner,h⟩ := then_ok.mp h
  obtain ⟨hoffered,h⟩ := then_ok.mp h
  obtain ⟨hdistinct,h⟩ := then_ok.mp h
  cases h
  refine ⟨envelope,signature,keyid,payload,sig,publicKey,?_,rfl⟩
  exact ⟨hread,by simpa using htyped,hsingle,hnamed,hdecoded,hsigned,hresolved,by simpa using hverified,hparsed,by simpa using hsigner,
    by simpa using hoffered,hdistinct⟩

theorem distinctFrom_ok {seen : Dict Key String} {entries : List (String × KeyStandingEntry)}
    (h : distinctFrom wire seen entries = .ok ()) :
    (∀ e ∈ entries, ∃ raw, wire.loadPublicKey e.2.publicKey = .ok raw ∧ seen.get? raw = none) ∧
      entries.Pairwise fun a b => wire.loadPublicKey a.2.publicKey ≠ wire.loadPublicKey b.2.publicKey := by
  induction entries generalizing seen with
  | nil => simp
  | cons e entries ih =>
    obtain ⟨keyId,entry⟩ := e
    obtain ⟨raw,hraw,hrest⟩ := bind_ok.mp h
    cases hseen : seen.get? raw with
    | some earlier =>
      rw [hseen] at hrest
      cases hrest
    | none =>
      rw [hseen] at hrest
      obtain ⟨hloads,hpairs⟩ := ih hrest
      have hfresh : ∀ f ∈ entries, ∃ other, wire.loadPublicKey f.2.publicKey = .ok other ∧ other ≠ raw ∧ seen.get? other = none := by
        intro f hf
        obtain ⟨other,hother,hnone⟩ := hloads f hf
        rw [Dict.get?_set] at hnone
        split at hnone
        next => cases hnone
        next hne => exact ⟨other,hother,hne,hnone⟩
      constructor
      · intro f hf
        rcases List.mem_cons.mp hf with rfl | hf
        · exact ⟨raw,hraw,hseen⟩
        · obtain ⟨other,hother,_,hnone⟩ := hfresh f hf
          exact ⟨other,hother,hnone⟩
      · refine List.pairwise_cons.mpr ⟨?_,hpairs⟩
        intro f hf heq
        obtain ⟨other,hother,hne,_⟩ := hfresh f hf
        rw [hraw,hother] at heq
        exact hne (Except.ok.inj heq).symm

theorem checkDistinctKeyBytes_loads {document : KeyStandingDocument} (h : checkDistinctKeyBytes wire document = .ok ())
    {keyId : String} {entry : KeyStandingEntry} (hentry : document.keys.get? keyId = some entry) :
    ∃ raw, wire.loadPublicKey entry.publicKey = .ok raw := by
  obtain ⟨raw,hraw,_⟩ := (distinctFrom_ok h).1 _ (Dict.get?_iff.mp hentry)
  exact ⟨raw,hraw⟩

theorem checkDistinctKeyBytes_names {document : KeyStandingDocument} (h : checkDistinctKeyBytes wire document = .ok ())
    {k j : String} {a b : KeyStandingEntry} (ha : document.keys.get? k = some a) (hb : document.keys.get? j = some b)
    (hsame : wire.loadPublicKey a.publicKey = wire.loadPublicKey b.publicKey) : k = j := by
  have hnodup : (document.keys.entries.map fun e => wire.loadPublicKey e.2.publicKey).Nodup :=
    List.pairwise_map.mpr (distinctFrom_ok h).2
  have hpair := List.inj_on_of_nodup_map hnodup (Dict.get?_iff.mp ha) (Dict.get?_iff.mp hb) hsame
  exact congrArg Prod.fst hpair

omit [DecidableEq Key] in
theorem update_get? (known seen : Dict String KeyStandingEntry) (k : String) :
    (update known seen).get? k = (seen.get? k).or (known.get? k) := by
  obtain ⟨entries,hunique⟩ := seen
  simp only [update,Dict.get?]
  induction entries generalizing known with
  | nil => rfl
  | cons e entries ih =>
    rw [List.map_cons,List.nodup_cons] at hunique
    rw [List.foldl_cons,ih _ hunique.2,List.lookup_cons]
    have hset := known.get?_set e.1 k e.2
    simp only [Dict.get?] at hset
    rw [hset]
    by_cases hk : k = e.1
    · have habsent : entries.lookup k = none := by
        rw [List.lookup_eq_none_iff]
        intro f hf
        have hne : f.1 ≠ k := fun h => hunique.1 (List.mem_map.mpr ⟨f,hf,h.trans hk⟩)
        simpa using Ne.symm hne
      simp [hk,hk ▸ habsent]
    · have hne : (k == e.1) = false := by simpa using hk
      simp [hk,hne]

def known (accepted : Option KeyStandingDocument) (seenWithdrawn : Dict String KeyStandingEntry) : Dict String KeyStandingEntry :=
  update ((accepted.map KeyStandingDocument.keys).getD .empty) seenWithdrawn

theorem bytes_named {names b : Dict Key String} {entries : List (String × KeyStandingEntry)}
    (h : entries.foldlM (fun d e => (wire.loadPublicKey e.2.publicKey).map fun raw => d.set raw e.1) names = .ok b) :
    (∀ e ∈ entries, ∃ raw, wire.loadPublicKey e.2.publicKey = .ok raw) ∧
      ∀ raw, b.get? raw = none ↔ names.get? raw = none ∧ ∀ e ∈ entries, wire.loadPublicKey e.2.publicKey ≠ .ok raw := by
  induction entries generalizing names with
  | nil =>
    cases h
    simp
  | cons e entries ih =>
    obtain ⟨next,hnext,hrest⟩ := bind_ok.mp h
    cases hload : wire.loadPublicKey e.2.publicKey with
    | error err =>
      simp only [hload] at hnext
      cases hnext
    | ok raw =>
      simp only [hload] at hnext
      cases hnext
      obtain ⟨hloads,hnone⟩ := ih hrest
      refine ⟨by simpa [hload] using hloads,?_⟩
      intro other
      rw [hnone,Dict.get?_set]
      by_cases hsame : other = raw
      · simp [hsame,hload]
      · simp [hsame,hload,Ne.symm hsame]

theorem bytes_total (names : Dict Key String) {entries : List (String × KeyStandingEntry)}
    (h : ∀ e ∈ entries, ∃ raw, wire.loadPublicKey e.2.publicKey = .ok raw) :
    ∃ b, entries.foldlM (fun d e => (wire.loadPublicKey e.2.publicKey).map fun raw => d.set raw e.1) names = .ok b := by
  induction entries generalizing names with
  | nil => exact ⟨names,rfl⟩
  | cons e entries ih =>
    obtain ⟨raw,hraw⟩ := h e List.mem_cons_self
    obtain ⟨b,hb⟩ := ih (names.set raw e.1) fun f hf => h f (List.mem_cons_of_mem e hf)
    exact ⟨b,bind_ok.mpr ⟨names.set raw e.1,by simp only [hraw]; rfl,hb⟩⟩

structure Follows (wire : StandingWire Bytes Key) (accepted : Option KeyStandingDocument) (candidate : KeyStandingDocument)
    (seenWithdrawn : Dict String KeyStandingEntry) : Prop where
  distinct : checkDistinctKeyBytes wire candidate = .ok ()
  carries : ∀ k e, seenWithdrawn.get? k = some e → candidate.keys.get? k = some e
  later : ∀ d, accepted = some d → d.version < candidate.version
  loads : ∀ k e, (known accepted seenWithdrawn).get? k = some e → ∃ raw, wire.loadPublicKey e.publicKey = .ok raw
  fresh : ∀ k e j old, candidate.keys.get? k = some e → (known accepted seenWithdrawn).get? k = none →
    (known accepted seenWithdrawn).get? j = some old → wire.loadPublicKey e.publicKey ≠ wire.loadPublicKey old.publicKey
  steps : ∀ d k old new, accepted = some d → d.keys.get? k = some old → candidate.keys.get? k = some new →
    new.publicKey = old.publicKey ∧ movesForward old new = true

theorem carriesWithdrawal_iff {candidate : KeyStandingDocument} {seen : Dict String KeyStandingEntry} :
    seen.entries.forM (carriesWithdrawal candidate) = .ok () ↔ ∀ k e, seen.get? k = some e → candidate.keys.get? k = some e := by
  rw [forM_ok]
  simp only [carriesWithdrawal,refuseIf_ok,not_not,Prod.forall,Dict.get?_iff]

theorem namesNoKnownKey_iff {candidate : KeyStandingDocument} {held : Dict String KeyStandingEntry} {b : Dict Key String}
    (hloads : ∀ k e, candidate.keys.get? k = some e → ∃ raw, wire.loadPublicKey e.publicKey = .ok raw)
    (hb : bytesOf wire held = .ok b) :
    candidate.keys.entries.forM (namesNoKnownKey wire held b) = .ok () ↔
      ∀ k e j old, candidate.keys.get? k = some e → held.get? k = none → held.get? j = some old →
        wire.loadPublicKey e.publicKey ≠ wire.loadPublicKey old.publicKey := by
  obtain ⟨_,hnone⟩ := bytes_named hb
  have hentry : ∀ k e, candidate.keys.get? k = some e → (namesNoKnownKey wire held b (k,e) = .ok () ↔
      (held.get? k = none → ∀ j old, held.get? j = some old → wire.loadPublicKey e.publicKey ≠ wire.loadPublicKey old.publicKey)) := by
    intro k e he
    obtain ⟨raw,hraw⟩ := hloads k e he
    rw [namesNoKnownKey,Dict.get?_none]
    split
    next hmem => simp [hmem]
    next habsent =>
      rw [bind_of_ok hraw]
      have hfree := hnone raw
      cases hget : b.get? raw with
      | none =>
        have hall := (hfree.mp hget).2
        simp only [habsent,not_false_eq_true,forall_const,true_iff]
        intro j old hold hsame
        exact hall (j,old) (Dict.get?_iff.mp hold) (by rw [← hsame,hraw])
      | some earlier =>
        simp only [habsent,not_false_eq_true,forall_const,reduceCtorEq,false_iff]
        intro hall
        have hgone : b.get? raw = none := by
          refine hfree.mpr ⟨rfl,?_⟩
          intro f hf hload
          exact hall f.1 f.2 (Dict.get?_iff.mpr hf) (hraw.trans hload.symm)
        rw [hget] at hgone
        cases hgone
  rw [forM_ok]
  constructor
  · intro h k e j old he hk hj
    exact (hentry k e he).mp (h (k,e) (Dict.get?_iff.mp he)) hk j old hj
  · rintro h ⟨k,e⟩ hmem
    have he := Dict.get?_iff.mpr hmem
    exact (hentry k e he).mpr fun hk j old hj => h k e j old he hk hj

theorem followsAccepted_iff {accepted : Option KeyStandingDocument} {candidate : KeyStandingDocument} :
    followsAccepted accepted candidate = .ok () ↔ ∀ d, accepted = some d → d.version < candidate.version ∧
      ∀ k old new, d.keys.get? k = some old → candidate.keys.get? k = some new →
        new.publicKey = old.publicKey ∧ movesForward old new = true := by
  cases accepted with
  | none => simp [followsAccepted]
  | some d =>
    have hentry : ∀ k old, followsEntry candidate (k,old) = .ok () ↔
        ∀ new, candidate.keys.get? k = some new → new.publicKey = old.publicKey ∧ movesForward old new = true := by
      intro k old
      rw [followsEntry]
      cases candidate.keys.get? k with
      | none => simp
      | some new => simp [then_ok]
    rw [followsAccepted,then_ok,forM_ok]
    simp only [refuseIf_ok,not_le,Prod.forall,hentry,Option.some.injEq,forall_eq',Dict.get?_iff]
    exact and_congr_right fun _ => forall_congr' fun k => forall_congr' fun old => forall_comm

theorem checkSuccessor_iff {accepted : Option KeyStandingDocument} {candidate : KeyStandingDocument}
    {seenWithdrawn : Dict String KeyStandingEntry} :
    checkSuccessor wire accepted candidate seenWithdrawn = .ok () ↔ Follows wire accepted candidate seenWithdrawn := by
  constructor
  · intro h
    obtain ⟨hdistinct,hrest⟩ := then_ok.mp h
    obtain ⟨hcarries,hrest⟩ := then_ok.mp hrest
    obtain ⟨b,hb,hrest⟩ := bind_ok.mp hrest
    obtain ⟨hnames,haccepted⟩ := then_ok.mp hrest
    have hfollows := followsAccepted_iff.mp haccepted
    refine ⟨hdistinct,carriesWithdrawal_iff.mp hcarries,fun d hd => (hfollows d hd).1,?_,?_,fun d k old new hd => (hfollows d hd).2 k old new⟩
    · intro k e he
      exact (bytes_named hb).1 (k,e) (Dict.get?_iff.mp he)
    · exact (namesNoKnownKey_iff (fun k e => checkDistinctKeyBytes_loads hdistinct) hb).mp hnames
  · intro h
    obtain ⟨b,hb⟩ := bytes_total Dict.empty fun e he => h.loads e.1 e.2 (Dict.get?_iff.mpr he)
    refine then_ok.mpr ⟨h.distinct,then_ok.mpr ⟨carriesWithdrawal_iff.mpr h.carries,bind_ok.mpr ⟨b,hb,then_ok.mpr ⟨?_,?_⟩⟩⟩⟩
    · exact (namesNoKnownKey_iff (fun k e => checkDistinctKeyBytes_loads h.distinct) hb).mpr h.fresh
    · exact followsAccepted_iff.mpr fun d hd => ⟨h.later d hd,fun k old new => h.steps d k old new hd⟩

theorem checkAuthorityNotListed_iff {keyIds : List String} {publicKeys : List Key} {document : KeyStandingDocument} :
    checkAuthorityNotListed wire keyIds publicKeys document = .ok () ↔ ∀ k e, document.keys.get? k = some e →
      k ∉ keyIds ∧ ∃ raw, wire.loadPublicKey e.publicKey = .ok raw ∧ raw ∉ publicKeys := by
  rw [checkAuthorityNotListed,forM_ok]
  simp only [bind_ok,refuseIf_ok,Prod.forall,Dict.get?_iff,exists_const]

omit [DecidableEq Key] in
theorem parsePayload_ok {payload : Bytes} {document : KeyStandingDocument} (h : parsePayload wire payload = .ok document) :
    wire.parse payload = .ok document := by
  rw [parsePayload] at h
  cases hparse : wire.parse payload with
  | error text => simp [hparse] at h
  | ok parsed =>
    simp only [hparse] at h
    split at h
    · cases h
      rfl
    · cases h
    · cases h
    · cases h

omit [DecidableEq Key] in
theorem parsePayload_version {payload : Bytes} {document : KeyStandingDocument} (h : parsePayload wire payload = .ok document) :
    1 ≤ document.version := by
  have hparse := parsePayload_ok h
  simp only [parsePayload,hparse] at h
  split at h
  next hwellFormed =>
    obtain ⟨hversion,_⟩ := then_ok.mp hwellFormed
    have hlow := refuseIf_ok.mp hversion
    omega
  · cases h
  · cases h
  · cases h

theorem movesForward_trans {a b c : KeyStandingEntry} (h : movesForward a b = true) (h' : movesForward b c = true) :
    movesForward a c = true := by
  simp only [movesForward] at *
  split at h
  next => simp_all
  next hab =>
    split at h'
    next => simp_all
    next hbc =>
      cases ha : a.state <;> cases hb : b.state <;> cases hc : c.state <;> simp_all

end Lemmas

end Successor

end SafeAgents.Grants
