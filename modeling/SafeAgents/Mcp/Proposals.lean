import SafeAgents.Grants.ProposalStore

namespace SafeAgents.Mcp

open Grants Json Wire

-- A dict or list field of the advertised definition, held as the JSON value the server sent.
structure McpToolDef where
  serverId : String
  toolName : String
  inputSchema : List (String × Json)
  description : String
  title : Option String := none
  outputSchema : Option (List (String × Json)) := none
  icons : Option (List Json) := none
  annotations : Option (List (String × Json)) := none
  advertisedMeta : Option (List (String × Json)) := none
  execution : Option (List (String × Json)) := none

structure McpAdmissionProposal where
  proposalId : String
  expiresAt : String
  toolDef : McpToolDef
  defHash : String
  kind : String
  proposedBy : String

def dict? : Json → Option (List (String × Json))
  | .obj fields => some fields
  | _ => none

def list? : Json → Option (List Json)
  | .arr items => some items
  | _ => none

namespace McpToolDef

def json (d : McpToolDef) : Json :=
  .obj [("annotations",optionJson .obj d.annotations),
    ("description",.str d.description),
    ("execution",optionJson .obj d.execution),
    ("icons",optionJson .arr d.icons),
    ("input_schema",.obj d.inputSchema),
    ("meta",optionJson .obj d.advertisedMeta),
    ("output_schema",optionJson .obj d.outputSchema),
    ("server_id",.str d.serverId),
    ("title",.ofOption d.title),
    ("tool_name",.str d.toolName)]

def ofJson (j : Json) : Option McpToolDef := do
  let fields ← fieldsOf
    ["server_id","tool_name","input_schema","description","title","output_schema","icons","annotations","meta","execution"] j
  let serverId ← required fields "server_id" str?
  let toolName ← required fields "tool_name" str?
  let inputSchema ← required fields "input_schema" dict?
  let description ← required fields "description" str?
  let title ← defaulted fields "title" none (nullable str?)
  let outputSchema ← defaulted fields "output_schema" none (nullable dict?)
  let icons ← defaulted fields "icons" none (nullable list?)
  let annotations ← defaulted fields "annotations" none (nullable dict?)
  let advertisedMeta ← defaulted fields "meta" none (nullable dict?)
  let execution ← defaulted fields "execution" none (nullable dict?)
  return { serverId, toolName, inputSchema, description, title, outputSchema, icons, annotations, advertisedMeta, execution }

structure Admitted (d : McpToolDef) : Prop where
  inputSchema : (Json.obj d.inputSchema).Proper
  outputSchema : ∀ fields, d.outputSchema = some fields → (Json.obj fields).Proper
  icons : ∀ items, d.icons = some items → (Json.arr items).Proper
  annotations : ∀ fields, d.annotations = some fields → (Json.obj fields).Proper
  advertisedMeta : ∀ fields, d.advertisedMeta = some fields → (Json.obj fields).Proper
  execution : ∀ fields, d.execution = some fields → (Json.obj fields).Proper

theorem nullable_dict (o : Option (List (String × Json))) : nullable dict? (optionJson .obj o) = some o :=
  nullable_optionJson (fun _ _ => rfl) (by simp)

theorem nullable_list (o : Option (List Json)) : nullable list? (optionJson .arr o) = some o :=
  nullable_optionJson (fun _ _ => rfl) (by simp)

theorem ofJson_json (d : McpToolDef) : ofJson d.json = some d := by
  simp [ofJson,json,fieldsOf,required,defaulted,field,str?,dict?,nullable_dict,nullable_list,nullable_ofOption]

theorem json_proper {d : McpToolDef} (h : d.Admitted) : d.json.Proper := by
  apply proper_obj ["annotations","description","execution","icons","input_schema","meta","output_schema","server_id","title",
    "tool_name"] rfl (by decide)
  exact ⟨optionJson_proper h.annotations,trivial,optionJson_proper h.execution,optionJson_proper h.icons,h.inputSchema,
    optionJson_proper h.advertisedMeta,optionJson_proper h.outputSchema,trivial,ofOption_proper _,trivial,trivial⟩

end McpToolDef

namespace McpAdmissionProposal

def json (p : McpAdmissionProposal) : Json :=
  .obj [("def_hash",.str p.defHash),
    ("expires_at",.str p.expiresAt),
    ("kind",.str p.kind),
    ("proposal_id",.str p.proposalId),
    ("proposed_by",.str p.proposedBy),
    ("tool_def",p.toolDef.json)]

def ofJson (j : Json) : Option McpAdmissionProposal := do
  let fields ← fieldsOf ["proposal_id","expires_at","tool_def","def_hash","kind","proposed_by"] j
  let proposalId ← required fields "proposal_id" str?
  let expiresAt ← required fields "expires_at" str?
  let toolDef ← required fields "tool_def" McpToolDef.ofJson
  let defHash ← required fields "def_hash" str?
  let kind ← required fields "kind" str?
  let proposedBy ← required fields "proposed_by" str?
  return { proposalId, expiresAt, toolDef, defHash, kind, proposedBy }

def modelValidateJson (text : String) : Option McpAdmissionProposal := (Json.loads text).bind ofJson

end McpAdmissionProposal

-- json.dumps with its default separators.
def canonicalProposalPayload (p : McpAdmissionProposal) : String := String.ofList (printed [' '] p.json)

theorem modelValidateJson_canonical {p : McpAdmissionProposal} (h : p.toolDef.Admitted) :
    McpAdmissionProposal.modelValidateJson (canonicalProposalPayload p) = some p := by
  have hblank : Blank [' '] := by simp [Blank,isSpace]
  have hproper : p.json.Proper := by
    apply proper_obj ["def_hash","expires_at","kind","proposal_id","proposed_by","tool_def"] rfl (by decide)
    exact ⟨trivial,trivial,trivial,trivial,trivial,McpToolDef.json_proper h,trivial⟩
  rw [McpAdmissionProposal.modelValidateJson,canonicalProposalPayload,loads_printed hblank hproper,Option.bind_some]
  simp [McpAdmissionProposal.ofJson,McpAdmissionProposal.json,fieldsOf,required,field,str?,McpToolDef.ofJson_json]

structure AdmissionItem where
  data : String
  proposalHash : String
  status : ProposalStatus

abbrev AdmissionTable := List String → Option AdmissionItem

def admissionKey (backend : RecordBackend) (serverId toolName proposalId : String) : List String :=
  match backend with
  | .memory => [serverId,toolName,proposalId]
  | .sqlite => ["TOOLPROP#" ++ serverId ++ "#" ++ toolName,proposalId]
  | .dynamo => ["TOOLPROP#" ++ serverId ++ "#" ++ toolName,proposalId]

def keyText (backend : RecordBackend) (serverId toolName proposalId : String) : String :=
  match backend with
  | .memory => "(" ++ pyRepr serverId ++ ", " ++ pyRepr toolName ++ ", " ++ pyRepr proposalId ++ ")"
  | .sqlite => "TOOLPROP#" ++ serverId ++ "#" ++ toolName ++ "/" ++ proposalId
  | .dynamo => "TOOLPROP#" ++ serverId ++ "#" ++ toolName ++ "/" ++ proposalId

section Store
variable (hmac : String → String) (backend : RecordBackend)

def admissionItem (p : McpAdmissionProposal) : AdmissionItem where
  data := canonicalProposalPayload p
  proposalHash := hmac (canonicalProposalPayload p)
  status := .pending

def putProposal (table : AdmissionTable) (p : McpAdmissionProposal) : Except ProposalError AdmissionTable :=
  let key := admissionKey backend p.toolDef.serverId p.toolDef.toolName p.proposalId
  if (table key).isSome then
    .error (.alreadyExists ("admission proposal " ++ keyText backend p.toolDef.serverId p.toolDef.toolName p.proposalId ++
      " already exists; proposals are never overwritten — mint a fresh proposal_id"))
  else .ok (Function.update table key (some (admissionItem hmac p)))

def getProposal (table : AdmissionTable) (serverId toolName proposalId : String) :
    Except ProposalError (Option (McpAdmissionProposal × ProposalStatus)) :=
  match table (admissionKey backend serverId toolName proposalId) with
  | none => .ok none
  | some item =>
    if item.proposalHash ≠ hmac item.data then
      .error (.integrity ("admission proposal " ++ serverId ++ "/" ++ toolName ++ "/" ++ proposalId ++
        " failed integrity verification (stored=" ++ pyRepr item.proposalHash ++ " expected=" ++ pyRepr (hmac item.data) ++
        "); it must not be used until the tamper is resolved"))
    else
      match McpAdmissionProposal.modelValidateJson item.data with
      | none => .error .decode
      | some p => .ok (some (p,item.status))

def statusOf (item : Option AdmissionItem) : String := item.elim "absent" fun i => "status=" ++ pyRepr i.status.text

def consumeProposal (table : AdmissionTable) (serverId toolName proposalId : String) (newStatus : ProposalStatus) :
    Except ProposalError AdmissionTable := do
  checkNewStatus newStatus
  let key := admissionKey backend serverId toolName proposalId
  let found := if backend = .dynamo then "" else " (" ++ statusOf (table key) ++ ")"
  let refused := ProposalError.consumed ("admission proposal " ++ proposalId ++ " for " ++ serverId ++ "/" ++ toolName ++
    " is not pending" ++ found ++ "; it was already consumed or never existed")
  match table key with
  | some item =>
    if item.status = .pending then return Function.update table key (some { item with status := newStatus })
    else .error refused
  | none => .error refused

end Store

section Lemmas
variable {hmac : String → String} {backend : RecordBackend} {table t : AdmissionTable} {serverId toolName proposalId : String}
  {p : McpAdmissionProposal} {status : ProposalStatus}

theorem putProposal_ok (h : putProposal hmac backend table p = .ok t) :
    t = Function.update table (admissionKey backend p.toolDef.serverId p.toolDef.toolName p.proposalId)
      (some (admissionItem hmac p)) := by
  rw [putProposal] at h
  split at h
  · cases h
  · exact (Except.ok.inj h).symm

theorem consumeProposal_ok (h : consumeProposal backend table serverId toolName proposalId status = .ok t) :
    ∃ item, table (admissionKey backend serverId toolName proposalId) = some item ∧
      t = Function.update table (admissionKey backend serverId toolName proposalId) (some { item with status }) := by
  obtain ⟨_,_,hrest⟩ := Checked.bind_ok.mp h
  cases hrow : table (admissionKey backend serverId toolName proposalId) with
  | none =>
    simp only [hrow] at hrest
    cases hrest
  | some item =>
    simp only [hrow] at hrest
    split at hrest
    · exact ⟨item,rfl,(Except.ok.inj hrest).symm⟩
    · cases hrest

theorem getProposal_ok (h : getProposal hmac backend table serverId toolName proposalId = .ok (some (p,status))) :
    ∃ item, table (admissionKey backend serverId toolName proposalId) = some item ∧ item.proposalHash = hmac item.data ∧
      McpAdmissionProposal.modelValidateJson item.data = some p := by
  rw [getProposal] at h
  cases hrow : table (admissionKey backend serverId toolName proposalId) with
  | none =>
    rw [hrow] at h
    cases h
  | some item =>
    simp only [hrow] at h
    split at h
    · cases h
    next hhash =>
      cases hread : McpAdmissionProposal.modelValidateJson item.data with
      | none =>
        rw [hread] at h
        cases h
      | some read =>
        rw [hread] at h
        cases h
        exact ⟨item,rfl,not_not.mp hhash,hread⟩

end Lemmas

end SafeAgents.Mcp
