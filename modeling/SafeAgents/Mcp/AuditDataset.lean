import SafeAgents.Mcp.AdmissionStore

namespace SafeAgents.Mcp

open Grants Json Wire

structure AuditViolation where
  rule : String
  coordinate : String
  detail : String
  deriving DecidableEq

def unparseableItem : String := "MCP_UNPARSEABLE_ITEM"

def rowPrefix : String := "TOOLDEF#"

def recordPrefix : String := "TOOLREC#"

def proposalPrefix : String := "TOOLPROP#"

def hasPrefix (marker text : String) : Bool := marker.toList.isPrefixOf text.toList

def removePrefix (marker text : String) : String :=
  if hasPrefix marker text then String.ofList (text.toList.drop marker.toList.length) else text

-- For a finding only; every comparison is on the key itself.
def displayCoordinate (pk marker : String) : String :=
  let rest := (removePrefix marker pk).toList
  String.ofList (rest.takeWhile fun c => c ≠ '#') ++ "/" ++ String.ofList ((rest.dropWhile fun c => c ≠ '#').drop 1)

abbrev Item := List (String × Json)

def textOf (item : Item) (name : String) : Option String := (field item name).bind str?

structure AuditedRow where
  pk : String
  sk : String
  rawData : Option String
  storedHash : Option String
  row : Option ToolRow

structure AuditedRecord where
  pk : String
  sk : String
  rawData : Option String
  signature : Option Json
  record : Option McpAdmissionRecord

structure AuditedProposal where
  pk : String
  sk : String
  rawData : Option String
  storedHash : Option Json
  status : Option Json
  proposal : Option McpAdmissionProposal

def AuditedRow.coordinate (r : AuditedRow) : String := displayCoordinate r.pk rowPrefix

def AuditedRecord.coordinate (r : AuditedRecord) : String := displayCoordinate r.pk recordPrefix

def AuditedProposal.coordinate (p : AuditedProposal) : String := displayCoordinate p.pk proposalPrefix

structure McpAuditDataset where
  rows : List AuditedRow := []
  records : List AuditedRecord := []
  proposals : List AuditedProposal := []
  parseViolations : List AuditViolation := []

namespace McpAdmissionRecord

def ofJson (j : Json) : Option McpAdmissionRecord := do
  let fields ← fieldsOf ["recordType","serverId","toolName","defHash","proposedBy","ratifiedBy","ts","attestation"] j
  let recordType ← Json.required fields "recordType" str?
  let serverId ← Json.required fields "serverId" str?
  let toolName ← Json.required fields "toolName" str?
  let defHash ← Json.required fields "defHash" str?
  let proposedBy ← Json.required fields "proposedBy" str?
  let ratifiedBy ← Json.required fields "ratifiedBy" str?
  let ts ← Json.required fields "ts" str?
  let attestation ← defaulted fields "attestation" none (nullable (oneOf id ["solo-local"]))
  return { recordType, serverId, toolName, defHash, proposedBy, ratifiedBy, ts, attestation }

def modelValidateJson (text : String) : Option McpAdmissionRecord := (Json.loads text).bind ofJson

-- `attestation` is a literal of one value.
def Attested (r : McpAdmissionRecord) : Prop := r.attestation = none ∨ r.attestation = some "solo-local"

theorem attestation_read {r : McpAdmissionRecord} (h : r.Attested) :
    nullable (oneOf id ["solo-local"]) (.ofOption r.attestation) = some r.attestation := by
  rcases h with h | h
  · rw [h]
    rfl
  · rw [h]
    simp [nullable,oneOf,str?,Json.ofOption]

theorem json_proper (r : McpAdmissionRecord) : r.json.Proper := by
  apply proper_obj ["attestation","defHash","proposedBy","ratifiedBy","recordType","serverId","toolName","ts"] rfl (by decide)
  exact ⟨ofOption_proper _,trivial,trivial,trivial,trivial,trivial,trivial,trivial,trivial⟩

theorem modelValidateJson_canonical {r : McpAdmissionRecord} (h : r.Attested) :
    McpAdmissionRecord.modelValidateJson r.canonicalPayload = some r := by
  rw [modelValidateJson,canonicalPayload,loads_dumps (json_proper r),Option.bind_some]
  simp [ofJson,json,fieldsOf,Json.required,defaulted,field,str?,attestation_read h]

end McpAdmissionRecord

section Dataset
-- What pydantic reports of a text that does not validate, by the model and the text; what repr() prints as it is.
variable (explain : String → String → String) (printable : Char → Bool)

def unparseable (pk : String) (sk : Json) (why : String) : AuditViolation where
  rule := unparseableItem
  coordinate := pk
  detail := "item sk=" ++ pyReprJson printable sk ++ " could not be parsed: " ++ why

def parse {α : Type} (model : String) (modelValidateJson : String → Option α) : Option Json → Except String α
  | some (.str data) => (modelValidateJson data).elim (.error (explain model data)) .ok
  | _ => .error "the item carries no data string"

def keyed (marker : String) (item : Item) : Option String := (textOf item "pk").filter (hasPrefix marker)

def sortKey (item : Item) : String := (textOf item "sk").getD ""

-- A signature attribute that is not JSON is kept as it is, for the verifier to refuse.
def signatureOf (item : Item) : Option Json :=
  let signature := match field item "signature" with
    | some (.str text) => (Json.loads text).getD (.str text)
    | some j => j
    | none => .null
  match signature with
  | .null => none
  | j => some j

def parseRow (item : Item) : Except String ToolRow := parse explain "RegisteredTool" ToolRow.modelValidateJson (field item "data")

def parseRecord (item : Item) : Except String McpAdmissionRecord :=
  parse explain "McpAdmissionRecord" McpAdmissionRecord.modelValidateJson (field item "data")

def parseProposal (item : Item) : Except String McpAdmissionProposal :=
  parse explain "McpAdmissionProposal" McpAdmissionProposal.modelValidateJson (field item "data")

def auditedRow (item : Item) : Option AuditedRow :=
  (keyed rowPrefix item).map fun pk => {
    pk
    sk := sortKey item
    rawData := textOf item "data"
    storedHash := textOf item "rowHash"
    row := (parseRow explain item).toOption }

def auditedRecord (item : Item) : Option AuditedRecord :=
  (keyed recordPrefix item).map fun pk => {
    pk
    sk := sortKey item
    rawData := textOf item "data"
    signature := signatureOf item
    record := (parseRecord explain item).toOption }

def auditedProposal (item : Item) : Option AuditedProposal :=
  (keyed proposalPrefix item).map fun pk => {
    pk
    sk := sortKey item
    rawData := textOf item "data"
    storedHash := field item "proposalHash"
    status := field item "status"
    proposal := (parseProposal explain item).toOption }

def whyOf {α : Type} : Except String α → Option String
  | .error why => some why
  | .ok _ => none

-- The item is read under the first prefix its key starts with.
def unread (pk : String) (item : Item) : Option String :=
  if hasPrefix rowPrefix pk then whyOf (parseRow explain item)
  else if hasPrefix recordPrefix pk then whyOf (parseRecord explain item)
  else if hasPrefix proposalPrefix pk then whyOf (parseProposal explain item)
  else none

def registryPk (item : Item) : Option String :=
  (textOf item "pk").filter fun pk => hasPrefix rowPrefix pk || hasPrefix recordPrefix pk || hasPrefix proposalPrefix pk

def parseViolations (item : Item) : List AuditViolation :=
  match registryPk item with
  | none => []
  | some pk =>
    (if (textOf item "sk").isNone then
      [unparseable printable pk ((field item "sk").getD .null) "the item has no string sort key"] else []) ++
    ((unread explain pk item).map fun why => unparseable printable pk (.str (sortKey item)) why).toList

def datasetFromItems (items : List Item) : McpAuditDataset where
  rows := items.filterMap (auditedRow explain)
  records := items.filterMap (auditedRecord explain)
  proposals := items.filterMap (auditedProposal explain)
  parseViolations := items.flatMap (parseViolations explain printable)

end Dataset

-- One row of the items table: the primary key and the attribute column.
structure ItemRow where
  pk : String
  sk : String
  item : String

structure ItemsTable where
  rows : List ItemRow
  ordered : rows.Pairwise fun r r' => r.pk < r'.pk ∨ r.pk = r'.pk ∧ r.sk < r'.sk

-- The attributes are spread after the key columns and take a name of theirs over.
def mergedItem (row : ItemRow) : Option Item :=
  match Json.loads row.item with
  | some (.obj attributes) => some (attributes.foldl setMember [("pk",.str row.pk),("sk",.str row.sk)])
  | _ => none

-- An attribute column that is not a JSON object makes the read raise: the audit did not run.
def readItemsSqlite (table : ItemsTable) : Option (List Item) := table.rows.mapM mergedItem

inductive TableError where
  | notAttributes
  | read (e : CeremonyError)

def getItem (table : ItemsTable) (pk sk : String) : Except TableError (Option Item) :=
  match table.rows.find? fun row => row.pk == pk && row.sk == sk with
  | none => .ok none
  | some row =>
    match Json.loads row.item with
    | some (.obj attributes) => .ok (some attributes)
    | _ => .error .notAttributes

def getToolSqlite (hmac : String → String) (table : ItemsTable) (serverId toolName : String) : Except TableError ToolReadResult := do
  match ← getItem table (rowPrefix ++ serverId ++ "#" ++ toolName) "ROW" with
  | none => return {}
  | some attributes => (readResultFromItem hmac ⟨textOf attributes "data",textOf attributes "rowHash"⟩).mapError .read

end SafeAgents.Mcp
