import SafeAgents.Channels.Signing
import SafeAgents.Interleaving.History
import SafeAgents.Mcp.Render
import SafeAgents.Schemas.ClockSkew
import SafeAgents.Schemas.IsoParse

namespace SafeAgents.Mcp

open Calendar Checked Grants Json Wire Interleaving

def localIdentityPrefix : String := "local-solo:"

def isLocalIdentity (identity : String) : Bool := localIdentityPrefix.toList.isPrefixOf identity.toList

def localRoleOf (identity : String) : Option String :=
  if isLocalIdentity identity && identity.contains '#' then
    some (String.ofList (identity.toList.reverse.takeWhile fun c => c ≠ '#').reverse)
  else none

def isSameOperator (proposedBy ratifier : String) : Bool :=
  proposedBy == ratifier || (localRoleOf proposedBy).isSome && localRoleOf proposedBy == localRoleOf ratifier

def attestationFor (identity : String) : Option String := if isLocalIdentity identity then some "solo-local" else none

def proposalExpired (expiresAt : String) (now : Instant) (skew : Int) : Except Exn Bool :=
  match fromisoformat expiresAt with
  | none => .ok true
  | some parsed => (endJudgedAt now skew).map fun judged => decide (parsed.clock - parsed.offset.getD 0 ≤ judged)

def RegistryStatus.text : RegistryStatus → String
  | .active => "active"
  | .quarantined => "quarantined"

namespace ToolRow

def json (row : ToolRow) : Json :=
  .obj [("admitted_at",.str row.admittedAt),
    ("admitted_by",.str row.admittedBy),
    ("def_hash",.str row.defHash),
    ("status",.str row.status.text),
    ("tool_def",row.toolDef.json)]

def ofJson (j : Json) : Option ToolRow := do
  let fields ← fieldsOf ["tool_def","def_hash","status","admitted_by","admitted_at"] j
  let toolDef ← Json.required fields "tool_def" McpToolDef.ofJson
  let defHash ← Json.required fields "def_hash" str?
  let status ← Json.required fields "status" (oneOf RegistryStatus.text [.active,.quarantined])
  let admittedBy ← Json.required fields "admitted_by" str?
  let admittedAt ← Json.required fields "admitted_at" str?
  return { toolDef, defHash, status, admittedBy, admittedAt }

def modelValidateJson (text : String) : Option ToolRow := (Json.loads text).bind ofJson

end ToolRow

def canonicalRowPayload (row : ToolRow) : String := String.ofList (printed [' '] row.json.sortKeys)

structure McpAdmissionRecord where
  recordType : String
  serverId : String
  toolName : String
  defHash : String
  proposedBy : String
  ratifiedBy : String
  ts : String
  attestation : Option String

namespace McpAdmissionRecord

def json (r : McpAdmissionRecord) : Json :=
  .obj [("attestation",.ofOption r.attestation),
    ("defHash",.str r.defHash),
    ("proposedBy",.str r.proposedBy),
    ("ratifiedBy",.str r.ratifiedBy),
    ("recordType",.str r.recordType),
    ("serverId",.str r.serverId),
    ("toolName",.str r.toolName),
    ("ts",.str r.ts)]

def canonicalPayload (r : McpAdmissionRecord) : String := r.json.dumps

end McpAdmissionRecord

def admissionPredicateType : String := "https://safe-agents.dev/mcp-admission/v1"

-- The issuer's signing identity: sha256 in hex, base64 and Ed25519 over bytes that are ASCII text here.
structure RecordSigner where
  keyId : String
  zone : String
  sha256Hex : String → String
  b64encode : String → String
  signPae : String → String

def buildAdmissionStatement (signer : RecordSigner) (r : McpAdmissionRecord) : String :=
  (Json.obj [("_type",.str Channels.statementType),
    ("predicate",.obj [("record",.obj [("defHash",.str r.defHash),
        ("proposedBy",.str r.proposedBy),
        ("ratifiedBy",.str r.ratifiedBy),
        ("recordType",.str r.recordType),
        ("serverId",.str r.serverId),
        ("toolName",.str r.toolName),
        ("ts",.str r.ts)]),
      ("signer",.obj [("key_id",.str signer.keyId),("zone",.str signer.zone)])]),
    ("predicateType",.str admissionPredicateType),
    ("subject",.arr [.obj [("digest",.obj [("sha256",.str (signer.sha256Hex r.canonicalPayload))]),
      ("name",.str "mcp-admission-record")]])]).dumps

def signAdmissionRecord (signer : RecordSigner) (r : McpAdmissionRecord) : Json :=
  let statement := buildAdmissionStatement signer r
  .obj [("payload",.str (signer.b64encode statement)),
    ("payloadType",.str Channels.dssePayloadType),
    ("signatures",.arr [.obj [("keyid",.str signer.keyId),
      ("sig",.str (signer.b64encode (signer.signPae (Channels.pae Channels.dssePayloadType statement))))]])]

structure RowItem where
  data : Option String
  rowHash : Option String

structure RecordItem where
  data : String
  signature : Option Json

-- What get_tool hands back; `tool` is none of a row that is absent or fails its HMAC.
structure ToolReadResult where
  tool : Option ToolRow := none
  quarantined : Bool := false
  quarantineReason : Option String := none
  rawData : Option String := none
  storedHash : Option String := none

structure AdmissionStore where
  rows : List String → Option RowItem := fun _ => none
  records : List String → Option RecordItem := fun _ => none
  proposals : Dict (List String) AdmissionItem := .empty

inductive CeremonyError where
  | proposal (e : ProposalError)
  | quarantinedRow (text : String)
  | recordExists (text : String)
  | rowConflict (text : String)
  | validation
  | render (e : PyError)
  | clock (e : Exn)

def rowKey (backend : RecordBackend) (serverId toolName : String) : List String :=
  match backend with
  | .memory => [serverId,toolName]
  | _ => ["TOOLDEF#" ++ serverId ++ "#" ++ toolName,"ROW"]

def recordKey (backend : RecordBackend) (r : McpAdmissionRecord) : List String :=
  match backend with
  | .memory => [r.serverId,r.toolName,r.ts]
  | _ => ["TOOLREC#" ++ r.serverId ++ "#" ++ r.toolName,r.ts]

def recordKeyText (backend : RecordBackend) (r : McpAdmissionRecord) : String :=
  match backend with
  | .memory => "(" ++ pyRepr r.serverId ++ ", " ++ pyRepr r.toolName ++ ", " ++ pyRepr r.ts ++ ")"
  | _ => "TOOLREC#" ++ r.serverId ++ "#" ++ r.toolName ++ "/" ++ r.ts

section Store
variable (hmac : String → String) (backend : RecordBackend)

def readResultFromItem (item : RowItem) : Except CeremonyError ToolReadResult :=
  match item.data, item.rowHash with
  | some data, some stored =>
    if stored ≠ hmac data then
      .ok { quarantined := true
            quarantineReason := some ("hash mismatch: stored=" ++ pyRepr stored ++ " expected=" ++ pyRepr (hmac data))
            rawData := some data
            storedHash := some stored }
    else
      match ToolRow.modelValidateJson data with
      | none => .error .validation
      | some tool => .ok { tool := some tool, rawData := some data, storedHash := some stored }
  | data, _ =>
    .ok { quarantined := true
          quarantineReason := some ("stored item is missing its data or rowHash attribute; the item cannot be verified and " ++
            "must not activate anything")
          rawData := data }

def getTool (s : AdmissionStore) (serverId toolName : String) : Except CeremonyError ToolReadResult :=
  match s.rows (rowKey backend serverId toolName) with
  | none => .ok {}
  | some item => readResultFromItem hmac item

def refuseQuarantined (row : ToolRow) (current : ToolReadResult) : Except CeremonyError Unit :=
  refuseIf (current.quarantined = true) (.quarantinedRow ("row " ++ row.toolDef.serverId ++ "/" ++ row.toolDef.toolName ++
    " is HMAC-quarantined (" ++ current.quarantineReason.getD "None" ++
    "); it is NEVER auto-overwritten — root-cause the tamper before re-admitting (M6)"))

def createdConcurrently (row : ToolRow) : CeremonyError :=
  .rowConflict ("row " ++ row.toolDef.serverId ++ "/" ++ row.toolDef.toolName ++ ": expected no existing row (first admission) " ++
    "but one exists — a row was admitted concurrently; re-read and re-vet before retrying")

def notTheOneEvaluated (row : ToolRow) : CeremonyError :=
  .rowConflict ("row " ++ row.toolDef.serverId ++ "/" ++ row.toolDef.toolName ++ ": the stored row is not the one evaluated " ++
    "(concurrently modified, or a data/HMAC tamper landed between the re-read and the write); re-read and re-vet before retrying")

def buildItem (row : ToolRow) : RowItem where
  data := some (canonicalRowPayload row)
  rowHash := some (hmac (canonicalRowPayload row))

-- The memory and sqlite arms read and compare inside the write; DynamoDB evaluates the condition on the item itself.
def checkRowWrite (s : AdmissionStore) (row : ToolRow) (expected : ToolReadResult) : Except CeremonyError Unit :=
  match backend with
  | .dynamo =>
    match s.rows (rowKey backend row.toolDef.serverId row.toolDef.toolName), expected.tool with
    | none, none => .ok ()
    | some item, some _ => refuseIf (item.rowHash ≠ expected.storedHash ∨ item.data ≠ expected.rawData) (notTheOneEvaluated row)
    | _, _ => .error (notTheOneEvaluated row)
  | _ => do
    let current ← getTool hmac backend s row.toolDef.serverId row.toolDef.toolName
    refuseQuarantined row current
    match expected.tool with
    | none => refuseIf (current.tool.isSome = true) (createdConcurrently row)
    | some _ =>
      refuseIf (current.tool.isNone = true ∨ current.storedHash ≠ expected.storedHash ∨ current.rawData ≠ expected.rawData)
        (notTheOneEvaluated row)

def checkRecordWrite (s : AdmissionStore) (record : McpAdmissionRecord) : Except CeremonyError Unit :=
  refuseIf ((s.records (recordKey backend record)).isSome = true) (.recordExists ("admission record " ++
    recordKeyText backend record ++ " already exists; the ledger is append-only and never overwrites" ++
    if backend = .dynamo then " (the row leg was canceled with it — nothing was written)" else ""))

def recordItem (record : McpAdmissionRecord) (signature : Json) : RecordItem where
  data := record.canonicalPayload
  signature := some signature

def admitToolWithRecord (s : AdmissionStore) (record : McpAdmissionRecord) (row : ToolRow) (signature : Json)
    (expected : ToolReadResult) : Except CeremonyError AdmissionStore := do
  checkRowWrite hmac backend s row expected
  checkRecordWrite backend s record
  return { s with
    records := Function.update s.records (recordKey backend record) (some (recordItem record signature))
    rows := Function.update s.rows (rowKey backend row.toolDef.serverId row.toolDef.toolName) (some (buildItem hmac row)) }

def partitionKey (serverId toolName : String) : List String := (admissionKey backend serverId toolName "").dropLast

def partitionOf (proposals : Dict (List String) AdmissionItem) (serverId toolName : String) : List (List String × AdmissionItem) :=
  (proposals.entries.filter fun e => e.1.dropLast == partitionKey backend serverId toolName).mergeSort fun e f =>
    decide (e.1.getLastD "" ≤ f.1.getLastD "")

-- Every proposal of the coordinate is verified, the consumed ones too.
def pendingOf (e : List String × AdmissionItem) (serverId toolName : String) :
    Except CeremonyError (Option (McpAdmissionProposal × ProposalStatus)) :=
  if e.2.proposalHash ≠ hmac e.2.data then
    .error (.proposal (.integrity ("admission proposal " ++ serverId ++ "/" ++ toolName ++
      (if backend = .memory then "" else "/" ++ e.1.getLastD "") ++ " failed integrity verification (stored=" ++
      pyRepr e.2.proposalHash ++ " expected=" ++ pyRepr (hmac e.2.data) ++ "); it must not be used until the tamper is resolved")))
  else if e.2.status ≠ .pending then .ok none
  else
    match McpAdmissionProposal.modelValidateJson e.2.data with
    | none => .error .validation
    | some p => .ok (some (p,e.2.status))

def listPending (proposals : Dict (List String) AdmissionItem) (serverId toolName : String) :
    Except CeremonyError (List (McpAdmissionProposal × ProposalStatus)) :=
  ((partitionOf backend proposals serverId toolName).mapM fun e => pendingOf hmac backend e serverId toolName).map
    (List.filterMap id)

end Store

end SafeAgents.Mcp
