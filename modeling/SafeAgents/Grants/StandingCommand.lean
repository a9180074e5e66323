import SafeAgents.Grants.StandingSource
import SafeAgents.Schemas.Decode

namespace SafeAgents.Grants

open Calendar Checked

def RetiredReason.text : RetiredReason → String
  | .superseded => "superseded"
  | .cessationOfOperation => "cessationOfOperation"

def WithdrawnReason.text : WithdrawnReason → String
  | .keyCompromise => "keyCompromise"
  | .privilegeWithdrawn => "privilegeWithdrawn"

def KeyStandingEntry.json (e : KeyStandingEntry) : Json :=
  .obj [("publicKey",.str e.publicKey),("retiredAt",Json.ofOption e.retiredAt),
    ("retiredReason",Json.ofOption (e.retiredReason.map RetiredReason.text)),("state",.str e.state.text),
    ("withdrawnAt",Json.ofOption e.withdrawnAt),("withdrawnReason",Json.ofOption (e.withdrawnReason.map WithdrawnReason.text))]

def sortedByName (entries : List (String × KeyStandingEntry)) : List (String × KeyStandingEntry) :=
  entries.mergeSort fun a b => ¬ b.1 < a.1

def KeyStandingDocument.json (document : KeyStandingDocument) : Json :=
  .obj [("issuedAt",.str document.issuedAt),
    ("keys",.obj ((sortedByName document.keys.entries).map fun e => (e.1,e.2.json))),("role",.str document.role.text),
    ("signer",.obj [("keyId",.str document.signer.keyId),("zone",.str document.signer.zone)]),
    ("version",Json.ofInt document.version)]

theorem KeyStandingEntry.json_wellFormed (e : KeyStandingEntry) : e.json.WellFormed :=
  ⟨Json.wellFormed_str _,Json.wellFormed_ofOption _,Json.wellFormed_ofOption _,Json.wellFormed_str _,Json.wellFormed_ofOption _,
    Json.wellFormed_ofOption _,trivial⟩

theorem KeyStandingDocument.json_wellFormed (document : KeyStandingDocument) : document.json.WellFormed := by
  have hkeys : (Json.obj ((sortedByName document.keys.entries).map fun e => (e.1,e.2.json))).WellFormed := by
    rw [Json.WellFormed]
    apply Json.membersWellFormed_of_forall
    intro f hf
    obtain ⟨e,_,rfl⟩ := List.mem_map.mp hf
    exact e.2.json_wellFormed
  have hsigner : (Json.obj [("keyId",.str document.signer.keyId),("zone",.str document.signer.zone)]).WellFormed :=
    ⟨Json.wellFormed_str _,Json.wellFormed_str _,trivial⟩
  exact ⟨Json.wellFormed_str _,hkeys,Json.wellFormed_str _,hsigner,Json.wellFormed_ofInt _,trivial⟩

theorem KeyStandingDocument.issuedAt_of_dumps {a b : KeyStandingDocument} (h : a.json.dumps = b.json.dumps) :
    a.issuedAt = b.issuedAt := by
  have hjson := Json.dumps_injective a.json_wellFormed b.json_wellFormed h
  simp only [KeyStandingDocument.json,Json.obj.injEq,List.cons.injEq,Prod.mk.injEq,Json.str.injEq,true_and] at hjson
  exact hjson.1

-- The writing side of what lies outside the repository.
structure StandingPress (Bytes : Type) where
  encode : String → Bytes
  b64encode : Bytes → String

structure RecordSigner (Bytes Key : Type) where
  keyId : String
  zone : String
  publicKey : Key
  sign : String → Bytes → Bytes

structure AuthorityKeys (Key : Type) where
  keyIds : List String
  resolver : String → Option Key
  publicKeys : List Key

inductive StandingCommandError where
  | refused (text : String)
  | transition (text : String)
  | standing (e : StandingError)
  | config (text : String)
  deriving DecidableEq

inductive Location where
  | param (name : String)
  | file (path : String)
  deriving DecidableEq

def Location.name : Location → String
  | .param name => name
  | .file path => path

inductive ReadFailure where
  | absent
  | other (name : String)
  deriving DecidableEq

abbrev Sources := Location → Except ReadFailure String

inductive StandingChange where
  | init (keyId pem : String)
  | add (keyId pem : String)
  | retire (keyId : String) (reason : RetiredReason)
  | withdraw (keyId : String) (reason : WithdrawnReason)
  | reissue
  deriving DecidableEq

structure Invocation (Bytes Key : Type) where
  change : StandingChange
  publicKeyFile : String := ""
  expectVersion : Option Int := none
  fromPath : Option String := none
  out : Option String := none
  now : { t : Int // Representable t }
  signer : Option (RecordSigner Bytes Key)

structure StandingSite (Key : Type) where
  role : StandingRole
  standingParam : Option String
  standingFile : Option String
  authority : Option (AuthorityKeys Key)

structure Issued where
  document : KeyStandingDocument
  text : String
  destination : Location

namespace StandingCeremony

variable {Bytes Key : Type} [DecidableEq Key] (wire : StandingWire Bytes Key) (press : StandingPress Bytes)

def lift {α : Type} (r : Except StandingError α) : Except StandingCommandError α := r.mapError .standing

def formatStandingInstant (instant : { t : Int // Representable t }) : String := isoformat instant.1

def constructEntry (e : KeyStandingEntry) : Except StandingCommandError KeyStandingEntry := do
  lift (e.shapeMatchesState wire)
  return e

def differsFrom (keyId : String) (raw : Key) (existing : String × KeyStandingEntry) : Except StandingCommandError Unit := do
  let other ← lift (wire.loadPublicKey existing.2.publicKey)
  refuseIf (other = raw) (.transition ("the public key offered for " ++ pyRepr keyId ++ " is already in the document as " ++
    pyRepr existing.1 ++ " (" ++ existing.2.state.text ++ "); a key trusted again is a new key pair"))

def addKey (keys : Dict String KeyStandingEntry) (keyId pem : String) : Except StandingCommandError (Dict String KeyStandingEntry) := do
  match keys.get? keyId with
  | some existing => throw (.transition ("key id " ++ pyRepr keyId ++ " is already in the document (" ++ existing.state.text ++
      "); a key id is never reused"))
  | none =>
    let raw ← lift (wire.loadPublicKey pem)
    keys.entries.forM (differsFrom wire keyId raw)
    let entry ← constructEntry wire { publicKey := pem, state := .active }
    return keys.set keyId entry

def requireKey (keys : Dict String KeyStandingEntry) (keyId : String) : Except StandingCommandError KeyStandingEntry :=
  match keys.get? keyId with
  | none => .error (.transition ("key " ++ pyRepr keyId ++ " is not in the document"))
  | some entry => .ok entry

def retireKey (keys : Dict String KeyStandingEntry) (keyId : String) (reason : RetiredReason) (now : { t : Int // Representable t }) :
    Except StandingCommandError (Dict String KeyStandingEntry) := do
  let entry ← requireKey keys keyId
  refuseIf (entry.state ≠ .active) (.transition ("key " ++ pyRepr keyId ++ " is " ++ entry.state.text ++ "; only an active key retires"))
  let retired ← constructEntry wire
    { publicKey := entry.publicKey, state := .retired, retiredAt := some (formatStandingInstant now), retiredReason := some reason }
  return keys.set keyId retired

def withdrawKey (keys : Dict String KeyStandingEntry) (keyId : String) (reason : WithdrawnReason) (now : { t : Int // Representable t }) :
    Except StandingCommandError (Dict String KeyStandingEntry) := do
  let entry ← requireKey keys keyId
  refuseIf (entry.state = .withdrawn) (.transition ("key " ++ pyRepr keyId ++ " is already withdrawn; withdrawal is terminal"))
  let withdrawn ← constructEntry wire
    { publicKey := entry.publicKey, state := .withdrawn, retiredAt := entry.retiredAt, retiredReason := entry.retiredReason,
      withdrawnAt := some (formatStandingInstant now), withdrawnReason := some reason }
  return keys.set keyId withdrawn

-- The document's own validators; its entries are model instances already and are not validated again.
def constructDocument (document : KeyStandingDocument) : Except StandingCommandError KeyStandingDocument := lift do
  refuseIf (document.version < 1) (.value "Input should be greater than or equal to 1")
  refuseIf (document.signer.keyId = "" ∨ document.signer.zone = "") (.value "String should have at least 1 character")
  let _ ← document.issued
  refuseIf (document.keys.keys.any (· = "")) (.value "a key id must be a non-empty string")
  return document

def withdrawnOf (document : KeyStandingDocument) : Dict String KeyStandingEntry :=
  StandingSource.remember .empty document.keys.entries

def nextDocument (previous : Option KeyStandingDocument) (role : StandingRole) (keys : Dict String KeyStandingEntry)
    (issuedAt : { t : Int // Representable t }) (signer : RecordSigner Bytes Key) : Except StandingCommandError KeyStandingDocument := do
  refuseIf (previous.any fun p => p.role ≠ role)
    (.transition ("the current document is for " ++ (previous.map fun p => p.role.text).getD "" ++ ", not " ++ role.text))
  let document ← constructDocument
    { role, version := (previous.map fun p => p.version + 1).getD 1, issuedAt := formatStandingInstant issuedAt,
      signer := { keyId := signer.keyId, zone := signer.zone }, keys }
  lift (checkSuccessor wire previous document ((previous.map withdrawnOf).getD .empty))
  return document

def canonicalStandingBytes (document : KeyStandingDocument) : Bytes := press.encode document.json.dumps

def envelope (document : KeyStandingDocument) (signer : RecordSigner Bytes Key) : Json :=
  let payload := canonicalStandingBytes press document
  .obj [("payload",.str (press.b64encode payload)),("payloadType",.str standingPayloadType),
    ("signatures",.arr [.obj [("keyid",.str signer.keyId),
      ("sig",.str (press.b64encode (signer.sign standingPayloadType payload)))]])]

def signStandingDocument (document : KeyStandingDocument) (signer : RecordSigner Bytes Key) : Except StandingCommandError String := lift do
  refuseIf (¬ (document.signer.keyId = signer.keyId ∧ document.signer.zone = signer.zone))
    (.value "the document's signer field must name the key and zone that sign it")
  return (envelope press document signer).dumps

def given (value : Option String) : Option String := value.filter fun text => text ≠ ""

def paramEnv (role : StandingRole) : String := role.text.toUpper ++ "_STANDING_PARAM"

def fileEnv (role : StandingRole) : String := role.text.toUpper ++ "_STANDING_FILE"

def configuredSource (site : StandingSite Key) : Except StandingCommandError (Option Location) :=
  match given site.standingParam,given site.standingFile with
  | some _,some _ =>
    .error (.config ("both " ++ paramEnv site.role ++ " and " ++ fileEnv site.role ++ " are set; set exactly one"))
  | some name,none => .ok (some (.param name))
  | none,some path => .ok (some (.file path))
  | none,none => .ok none

def sourceOf (site : StandingSite Key) (i : Invocation Bytes Key) : Except StandingCommandError (Option Location) :=
  match given i.fromPath with
  | some path => .ok (some (.file path))
  | none => configuredSource site

def readCurrent (site : StandingSite Key) (authority : AuthorityKeys Key) (sources : Sources) (i : Invocation Bytes Key) :
    Except StandingCommandError (Option KeyStandingDocument) := do
  match ← sourceOf site i with
  | none => return none
  | some location =>
    match sources location with
    | .error .absent => return none
    | .error (.other name) => throw (.config ("the current " ++ site.role.text ++ " standing document at " ++ location.name ++
        " could not be read (" ++ name ++ ")"))
    | .ok text =>
      let (document,_) ← lift (verifyStandingEnvelope wire authority.resolver site.role text)
      return some document

def signerIsAnAuthorityKey (signer : RecordSigner Bytes Key) (authority : AuthorityKeys Key) : Bool :=
  authority.resolver signer.keyId = some signer.publicKey

def checkExpectedVersion (site : StandingSite Key) (i : Invocation Bytes Key) (current : Option KeyStandingDocument) :
    Except StandingCommandError Unit :=
  match i.change,current with
  | .init _ _,_ => .ok ()
  | _,none => .ok ()
  | _,some document => refuseIf (i.expectVersion ≠ some document.version) (.transition ("the current " ++ site.role.text ++
      " standing document is version " ++ toString document.version ++ ", not the expected version " ++
      (i.expectVersion.map toString).getD "None" ++ ". An older document written back to the source, or a stale --from, is never " ++
      "built on: it may lack a withdrawal. Check the source against the last version issued"))

-- The text of the key file stands in the change; only its path is shown when it holds no key.
def readPem (path pem : String) : Except StandingCommandError String :=
  match wire.loadPublicKey pem with
  | .ok _ => .ok pem
  | .error (.value text) => .error (.transition (path ++ " is not an Ed25519 public key PEM (" ++ text ++ ")"))
  | .error e => .error (.standing e)

def apply (site : StandingSite Key) (i : Invocation Bytes Key) (current : Option KeyStandingDocument) :
    Except StandingCommandError (Dict String KeyStandingEntry) :=
  match i.change,current with
  | .init _ _,some document => .error (.transition ("a " ++ site.role.text ++ " standing document already exists (version " ++
      toString document.version ++ "); use add, retire, withdraw or reissue"))
  | .init keyId pem,none => do addKey wire .empty keyId (← readPem wire i.publicKeyFile pem)
  | _,none => .error (.transition ("there is no current " ++ site.role.text ++
      " standing document to change; run init first, or name it with --from"))
  | .add keyId pem,some document => do addKey wire document.keys keyId (← readPem wire i.publicKeyFile pem)
  | .retire keyId reason,some document => retireKey wire document.keys keyId reason i.now
  | .withdraw keyId reason,some document => withdrawKey wire document.keys keyId reason i.now
  | .reissue,some document => .ok document.keys

def issueFrom (site : StandingSite Key) (authority : AuthorityKeys Key) (signer : RecordSigner Bytes Key) (i : Invocation Bytes Key)
    (current : Option KeyStandingDocument) : Except StandingCommandError (KeyStandingDocument × String) := do
  checkExpectedVersion site i current
  let keys ← apply wire site i current
  let document ← nextDocument wire current site.role keys i.now signer
  lift (checkAuthorityNotListed wire authority.keyIds authority.publicKeys document)
  let text ← signStandingDocument press document signer
  let _ ← lift (verifyStandingEnvelope wire authority.resolver site.role text)
  return (document,text)

def destination (site : StandingSite Key) (i : Invocation Bytes Key) : Except StandingCommandError Location := do
  match given i.out with
  | some path => return .file path
  | none =>
    match ← configuredSource site with
    | some location => return location
    | none => throw (.config ("nowhere to write: pass --out, or set " ++ paramEnv site.role ++ " or " ++ fileEnv site.role))

def requireSigner (i : Invocation Bytes Key) : Except StandingCommandError (RecordSigner Bytes Key) :=
  i.signer.elim (.error (.refused ("a standing document is signed by the standing authority; set " ++
    "STANDING_AUTHORITY_SIGNING_KEY_SECRET_ARN (or STANDING_AUTHORITY_SIGNING_KEY_FILE on the local arm), " ++
    "STANDING_AUTHORITY_SIGNING_KEY_ID and a zone"))) .ok

def requireAuthority (site : StandingSite Key) : Except StandingCommandError (AuthorityKeys Key) :=
  site.authority.elim (.error (.refused ("no standing-authority verify keys are configured " ++
    "(STANDING_AUTHORITY_VERIFY_KEYS_PARAM or STANDING_AUTHORITY_VERIFY_KEYS_FILE); a document no verifier can check is " ++
    "never written"))) .ok

def issue (site : StandingSite Key) (sources : Sources) (i : Invocation Bytes Key) : Except StandingCommandError Issued := do
  let signer ← requireSigner i
  let authority ← requireAuthority site
  refuseIf (signerIsAnAuthorityKey signer authority = false) (.refused ("signing key " ++ pyRepr signer.keyId ++
    " is not published under that key id in the standing-authority verify keys, so no verifier would accept its output"))
  let current ← readCurrent wire site authority sources i
  let (document,text) ← issueFrom wire press site authority signer i current
  return { document, text, destination := ← destination site i }

def standingCommand (site : StandingSite Key) (sources : Sources) (i : Invocation Bytes Key) :
    Except StandingCommandError Issued × Sources :=
  match issue wire press site sources i with
  | .error e => (.error e,sources)
  | .ok issued => (.ok issued,Function.update sources issued.destination (.ok issued.text))

end StandingCeremony

end SafeAgents.Grants
