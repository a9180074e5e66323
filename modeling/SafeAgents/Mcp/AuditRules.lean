import SafeAgents.Grants.RecordSigning
import SafeAgents.Mcp.AuditDataset
import SafeAgents.Mcp.Commands

namespace SafeAgents.Mcp

open Checked Grants Json Wire

def keyMatchesContent : String := "MCP_KEY_MATCHES_CONTENT"

def recordSignatureVerifies : String := "MCP_RECORD_SIGNATURE_VERIFIES"

def recordPayloadMatchesStored : String := "MCP_RECORD_PAYLOAD_MATCHES_STORED"

def rowHmacIntact : String := "MCP_ROW_HMAC_INTACT"

def rowMatchesLastRecord : String := "MCP_ROW_MATCHES_LAST_RECORD"

def orphanRow : String := "MCP_ORPHAN_ROW"

def orphanRecord : String := "MCP_ORPHAN_RECORD"

def proposalTamper : String := "MCP_PROPOSAL_TAMPER"

def proposalLifecycle : String := "MCP_PROPOSAL_LIFECYCLE"

def signatureRules : List String := [recordSignatureVerifies,recordPayloadMatchesStored]

def annotationSignaturesUnchecked : String := "mcp-record-signatures-unchecked"

def admissionReasonText : RecordVerifyReason → String
  | .signatureMissing => "admission_signature_missing"
  | .signatureMalformed => "admission_signature_malformed"
  | .signerUnknown => "admission_signer_unknown"
  | _ => "admission_signature_invalid"

def rowKeyOf (row : ToolRow) : String × String := (rowPrefix ++ row.toolDef.serverId ++ "#" ++ row.toolDef.toolName,"ROW")

def recordKeyOf (record : McpAdmissionRecord) : String × String := (recordPrefix ++ record.serverId ++ "#" ++ record.toolName,record.ts)

def proposalKeyOf (p : McpAdmissionProposal) : String × String :=
  (proposalPrefix ++ p.toolDef.serverId ++ "#" ++ p.toolDef.toolName,p.proposalId)

def AuditedRow.expectedKey (r : AuditedRow) : Option (String × String) := r.row.map rowKeyOf

def AuditedRecord.expectedKey (r : AuditedRecord) : Option (String × String) := r.record.map recordKeyOf

def AuditedProposal.expectedKey (p : AuditedProposal) : Option (String × String) := p.proposal.map proposalKeyOf

def AuditedRecord.keyBound (r : AuditedRecord) : Bool := r.expectedKey == some (r.pk,r.sk)

def AuditedRow.suffix (r : AuditedRow) : String := removePrefix rowPrefix r.pk

def AuditedRecord.suffix (r : AuditedRecord) : String := removePrefix recordPrefix r.pk

section Rules
variable {Bytes Key : Type} (wire : RecordWire Bytes Key) (printable : Char → Bool)

def misplaced (kind pk sk coordinate : String) (expected : Option (String × String)) : List AuditViolation :=
  match expected with
  | none => []
  | some key =>
    if key = (pk,sk) then []
    else [{
      rule := keyMatchesContent
      coordinate
      detail := kind ++ " stored at pk=" ++ pyRepr pk ++ " sk=" ++ pyRepr sk ++ " names pk=" ++ pyRepr key.1 ++ " sk=" ++
        pyRepr key.2 ++ " in its own bytes; an item copied under another coordinate's key explains nothing there" }]

def checkKeyMatchesContent (dataset : McpAuditDataset) : List AuditViolation :=
  (dataset.rows.flatMap fun r => misplaced "registry row" r.pk r.sk r.coordinate r.expectedKey) ++
  (dataset.records.flatMap fun r => misplaced "admission record" r.pk r.sk r.coordinate r.expectedKey) ++
  dataset.proposals.flatMap fun p => misplaced "admission proposal" p.pk p.sk p.coordinate p.expectedKey

def verifyAdmissionRecord (stored : String) (envelope : Json) (keyResolver : KeyResolver Key) :
    Except CheckError (Option RecordVerifyReason) :=
  verifyDsseRecord wire envelope admissionPredicateType (storedRecordDigestHex wire stored) keyResolver

def indexMismatches (record : AuditedRecord) : Option (List String) := do
  let envelope ← record.signature
  let payload ← (envelope.get? "payload").bind str?
  let statement ← (wire.b64decode payload).bind wire.loadBytes
  let index ← (statement.get? "predicate").bind fun predicate => predicate.get? "record"
  let fields ← dict? index
  let stored ← (record.rawData.bind Json.loads).bind dict?
  let apart := fields.filter fun f => !(field stored f.1).any fun value => pyEq value f.2
  return (apart.map Prod.fst).mergeSort fun a b => decide (a ≤ b)

def signatureFindings (keyResolver : KeyResolver Key) (record : AuditedRecord) : Except CheckError (List AuditViolation) :=
  let finding (rule detail : String) : AuditViolation := { rule, coordinate := record.coordinate, detail }
  match record.signature, record.rawData with
  | none, _ => .ok [finding recordSignatureVerifies ("admission record sk=" ++ record.sk ++ " carries no DSSE signature; an " ++
      "admission mints callability, so it must be signed by the issuer identity")]
  | some _, none => .ok [finding recordSignatureVerifies ("admission record sk=" ++ record.sk ++ " has no stored bytes; a " ++
      "signature cannot be verified without the exact stored serialization")]
  | some signature, some rawData => do
    match ← verifyAdmissionRecord wire rawData signature keyResolver with
    | some reason => return [finding recordSignatureVerifies ("admission record sk=" ++ record.sk ++
        " failed signature verification (" ++ admissionReasonText reason ++
        ") against its stored bytes under the issuer verify keys")]
    | none =>
      match indexMismatches wire record with
      | none => return [finding recordPayloadMatchesStored ("admission record sk=" ++ record.sk ++
          " verifies, but its signed statement carries no readable record index to compare with the stored record")]
      | some [] => return []
      | some names => return [finding recordPayloadMatchesStored ("admission record sk=" ++ record.sk ++
          " verifies, but the index fields " ++ reprNames names ++ " in its signed statement disagree with the stored record")]

def checkRecordSignatures (dataset : McpAuditDataset) (keyResolver : Option (KeyResolver Key)) :
    Except CheckError (List AuditViolation × List String) :=
  match keyResolver with
  | none => .ok ([],signatureRules)
  | some keyResolver => do
    let findings ← dataset.records.mapM (signatureFindings wire keyResolver)
    return (findings.flatten,[])

def AuditedRow.intact (hmac : String → String) (r : AuditedRow) : Bool :=
  match r.rawData, r.storedHash with
  | some data, some stored => hmac data == stored
  | _, _ => false

def checkRowHmac (dataset : McpAuditDataset) (hmac : Option (String → String)) : List AuditViolation × List String :=
  match hmac with
  | none => ([],[rowHmacIntact])
  | some hmac =>
    ((dataset.rows.filter fun r => !r.intact hmac).map fun r => {
      rule := rowHmacIntact
      coordinate := r.coordinate
      detail := "stored row bytes do not match the recomputed HMAC; the row was written outside the ceremony and reads back " ++
        "quarantined" },[])

def slotRows (dataset : McpAuditDataset) : List AuditedRow := dataset.rows.filter fun r => r.sk == "ROW"

-- The records that can explain the row of a coordinate, oldest first by the stored sort key.
def ledgerAt (dataset : McpAuditDataset) (suffix : String) : List AuditedRecord :=
  (dataset.records.filter fun r => r.keyBound && r.suffix == suffix).mergeSort fun r r' => decide (r.sk ≤ r'.sk)

def firstTwelve (text : String) : String := String.ofList (text.toList.take 12)

def outdated (dataset : McpAuditDataset) (r : AuditedRow) : Option AuditViolation := do
  let row ← r.row
  let newest ← (ledgerAt dataset r.suffix).getLast?
  let record ← newest.record
  if record.defHash = row.defHash then none
  else some {
    rule := rowMatchesLastRecord
    coordinate := r.coordinate
    detail := "row def_hash " ++ firstTwelve row.defHash ++ " != newest record " ++ firstTwelve record.defHash ++ " at " ++ newest.sk }

def checkRowMatchesLastRecord (dataset : McpAuditDataset) : List AuditViolation := (slotRows dataset).filterMap (outdated dataset)

def checkOrphans (dataset : McpAuditDataset) : List AuditViolation :=
  let rows := (slotRows dataset).map AuditedRow.suffix
  let storedAt := dataset.records.map AuditedRecord.suffix
  let unexplained := (sortedNames rows).filter fun suffix => (ledgerAt dataset suffix).isEmpty
  let orphaned := sortedNames (storedAt.filter fun suffix => !rows.contains suffix)
  (unexplained.map fun suffix => {
    rule := orphanRow
    coordinate := displayCoordinate (rowPrefix ++ suffix) rowPrefix
    detail := "row has NO admission record that explains it: callability with no ceremony behind it" ++
      if storedAt.contains suffix then " (records are stored under this key, but none parses and names this coordinate)" else "" }) ++
  orphaned.map fun suffix => {
    rule := orphanRecord
    coordinate := displayCoordinate (recordPrefix ++ suffix) recordPrefix
    detail := "admission record with NO row: the ledger names a tool the registry does not hold" }

def validStatuses : List String := ["pending","ratified","rejected"]

def AuditedProposal.lawful (p : AuditedProposal) : Bool := (p.status.bind str?).any fun status => validStatuses.contains status

def AuditedProposal.intact (hmac : String → String) (p : AuditedProposal) : Bool :=
  p.rawData.any fun data => p.storedHash.any fun stored => stored.str? == some (hmac data)

def checkProposals (dataset : McpAuditDataset) (hmac : Option (String → String)) : List AuditViolation × List String :=
  let lifecycle := (dataset.proposals.filter fun p => !p.lawful).map fun p => {
    rule := proposalLifecycle
    coordinate := p.coordinate
    detail := "proposal " ++ p.sk ++ " has status " ++ pyReprJson printable (p.status.getD .null) ++
      ", outside the closed vocabulary " ++ reprNames validStatuses }
  match hmac with
  | none => (lifecycle,[proposalTamper])
  | some hmac =>
    (lifecycle ++ (dataset.proposals.filter fun p => !p.intact hmac).map fun p => {
      rule := proposalTamper
      coordinate := p.coordinate
      detail := "proposal " ++ p.sk ++ " failed HMAC verification; a tampered proposal launders into a signed admission at " ++
        "ratify time" },[])

structure McpAuditReport where
  violations : List AuditViolation
  skippedRules : List String
  rowsExamined : Nat
  recordsExamined : Nat
  proposalsExamined : Nat
  annotations : List String

def unchecked (records : Nat) : String :=
  annotationSignaturesUnchecked ++ ": no issuer verify keys are configured, so none of the " ++ toString records ++
    " admission record signature(s) was checked, and MCP_KEY_MATCHES_CONTENT compared record bytes that nothing authenticated"

-- Reading a key id that cannot be looked up raises out of the audit.
def runAudit (dataset : McpAuditDataset) (hmac : Option (String → String)) (keyResolver : Option (KeyResolver Key)) :
    Except CheckError McpAuditReport := do
  let (signatureViolations,signatureSkipped) ← checkRecordSignatures wire dataset keyResolver
  let (hmacViolations,hmacSkipped) := checkRowHmac dataset hmac
  let (proposalViolations,proposalSkipped) := checkProposals printable dataset hmac
  return {
    violations := dataset.parseViolations ++ checkKeyMatchesContent dataset ++ signatureViolations ++ hmacViolations ++
      checkRowMatchesLastRecord dataset ++ checkOrphans dataset ++ proposalViolations
    skippedRules := signatureSkipped ++ hmacSkipped ++ proposalSkipped
    rowsExamined := dataset.rows.length
    recordsExamined := dataset.records.length
    proposalsExamined := dataset.proposals.length
    annotations := if signatureSkipped.isEmpty then [] else [unchecked dataset.records.length] }

end Rules

theorem hasPrefix_append (marker rest : String) : hasPrefix marker (marker ++ rest) = true := by
  rw [hasPrefix,String.toList_append]
  exact List.isPrefixOf_iff_prefix.mpr (List.prefix_append _ _)

theorem removePrefix_append (marker rest : String) : removePrefix marker (marker ++ rest) = rest := by
  rw [removePrefix,if_pos (hasPrefix_append marker rest),String.toList_append,List.drop_left,String.ofList_toList]

theorem prefix_removed {marker text : String} (h : hasPrefix marker text = true) : text = marker ++ removePrefix marker text := by
  obtain ⟨rest,hrest⟩ := List.isPrefixOf_iff_prefix.mp h
  apply String.ext
  rw [removePrefix,if_pos h,String.toList_append,String.toList_ofList,← hrest,List.drop_left]

section Items
variable {explain : String → String → String} {printable : Char → Bool} {item : Item} {pk : String}

theorem keyed_some {marker : String} : keyed marker item = some pk ↔ textOf item "pk" = some pk ∧ hasPrefix marker pk = true := by
  rw [keyed,Option.filter_eq_some_iff]

theorem unread_row (hpk : hasPrefix rowPrefix pk = true) : unread explain pk item = whyOf (parseRow explain item) := by
  rw [unread,if_pos hpk]

theorem apart_prefixes {marker marker' : String} (h : ¬ marker.toList <+: marker'.toList) (h' : ¬ marker'.toList <+: marker.toList)
    (hpk : hasPrefix marker pk = true) : hasPrefix marker' pk = false := by
  rw [Bool.eq_false_iff]
  intro hother
  rcases List.prefix_or_prefix_of_prefix (List.isPrefixOf_iff_prefix.mp hpk) (List.isPrefixOf_iff_prefix.mp hother) with hle | hle
  · exact h hle
  · exact h' hle

theorem unread_record (hpk : hasPrefix recordPrefix pk = true) : unread explain pk item = whyOf (parseRecord explain item) := by
  rw [unread,apart_prefixes (by decide) (by decide) hpk,if_pos hpk]
  rfl

theorem parse_of_silent {α : Type} {r : Except String α} (h : whyOf r = none) : ∃ a, r = .ok a := by
  cases r with
  | error why => cases h
  | ok a => exact ⟨a,rfl⟩

theorem silent_reads {violations : List AuditViolation} (h : parseViolations explain printable item = violations)
    (hnone : violations = []) (hpk : registryPk item = some pk) :
    (∃ sk, textOf item "sk" = some sk) ∧ unread explain pk item = none := by
  subst hnone
  rw [parseViolations,hpk] at h
  obtain ⟨hsk,hread⟩ := List.append_eq_nil_iff.mp h
  constructor
  · cases htext : textOf item "sk" with
    | none => simp [htext] at hsk
    | some sk => exact ⟨sk,rfl⟩
  · cases hunread : unread explain pk item with
    | none => rfl
    | some why => simp [hunread] at hread

end Items

section Audit
variable {Bytes Key : Type} {wire : RecordWire Bytes Key} {printable : Char → Bool} {dataset : McpAuditDataset}
  {hmac : String → String} {keyResolver : KeyResolver Key} {report : McpAuditReport}

structure Consistent (wire : RecordWire Bytes Key) (hmac : String → String) (keyResolver : KeyResolver Key) (dataset : McpAuditDataset) :
    Prop where
  parsed : dataset.parseViolations = []
  rowKeys : ∀ r ∈ dataset.rows, ∀ row, r.row = some row → rowKeyOf row = (r.pk,r.sk)
  recordKeys : ∀ r ∈ dataset.records, ∀ record, r.record = some record → recordKeyOf record = (r.pk,r.sk)
  proposalKeys : ∀ p ∈ dataset.proposals, ∀ proposal, p.proposal = some proposal → proposalKeyOf proposal = (p.pk,p.sk)
  signed : ∀ r ∈ dataset.records, signatureFindings wire keyResolver r = .ok []
  intact : ∀ r ∈ dataset.rows, r.intact hmac = true
  newest : ∀ r ∈ slotRows dataset, outdated dataset r = none
  explained : ∀ r ∈ slotRows dataset, ledgerAt dataset r.suffix ≠ []
  held : ∀ r ∈ dataset.records, ∃ row ∈ slotRows dataset, row.suffix = r.suffix
  proposals : ∀ p ∈ dataset.proposals, p.lawful = true ∧ p.intact hmac = true

theorem misplaced_nil {kind pk sk coordinate : String} {expected : Option (String × String)} :
    misplaced kind pk sk coordinate expected = [] ↔ ∀ key, expected = some key → key = (pk,sk) := by
  cases expected with
  | none => simp [misplaced]
  | some key =>
    rw [misplaced]
    split
    next hkey => simp [hkey]
    next hkey => simp [hkey]

theorem checkKeys_nil : checkKeyMatchesContent dataset = [] ↔
    (∀ r ∈ dataset.rows, ∀ row, r.row = some row → rowKeyOf row = (r.pk,r.sk)) ∧
      (∀ r ∈ dataset.records, ∀ record, r.record = some record → recordKeyOf record = (r.pk,r.sk)) ∧
      ∀ p ∈ dataset.proposals, ∀ proposal, p.proposal = some proposal → proposalKeyOf proposal = (p.pk,p.sk) := by
  simp only [checkKeyMatchesContent,List.append_eq_nil_iff,List.flatMap_eq_nil_iff,misplaced_nil,AuditedRow.expectedKey,
    AuditedRecord.expectedKey,AuditedProposal.expectedKey,Option.map_eq_some_iff,forall_exists_index,and_imp,and_assoc]
  refine and_congr ?_ (and_congr ?_ ?_)
  · exact ⟨fun h r hr row hrow => h r hr _ row hrow rfl,fun h r hr _ row hrow hkey => hkey ▸ h r hr row hrow⟩
  · exact ⟨fun h r hr row hrow => h r hr _ row hrow rfl,fun h r hr _ row hrow hkey => hkey ▸ h r hr row hrow⟩
  · exact ⟨fun h r hr row hrow => h r hr _ row hrow rfl,fun h r hr _ row hrow hkey => hkey ▸ h r hr row hrow⟩

theorem mapM_silent {ε α β : Type} {f : α → Except ε (List β)} {l : List α} {findings : List (List β)} :
    l.mapM f = .ok findings ∧ findings.flatten = [] → ∀ a ∈ l, f a = .ok [] := by
  induction l generalizing findings with
  | nil => exact fun _ _ h => by cases h
  | cons a l ih =>
    rintro ⟨hmap,hflat⟩ b hb
    rw [List.mapM_cons] at hmap
    obtain ⟨found,hfound,hrest⟩ := bind_ok.mp hmap
    obtain ⟨rest,hmore,hlist⟩ := bind_ok.mp hrest
    obtain rfl := Except.ok.inj hlist
    obtain ⟨hhead,htail⟩ := List.append_eq_nil_iff.mp hflat
    rcases List.mem_cons.mp hb with rfl | hb
    · rw [hfound,hhead]
    · exact ih ⟨hmore,htail⟩ b hb

theorem mapM_nothing {ε α β : Type} {f : α → Except ε (List β)} {l : List α} (h : ∀ a ∈ l, f a = .ok []) :
    ∃ findings, l.mapM f = .ok findings ∧ findings.flatten = [] := by
  induction l with
  | nil => exact ⟨[],rfl,rfl⟩
  | cons a l ih =>
    obtain ⟨findings,hmap,hflat⟩ := ih fun b hb => h b (List.mem_cons_of_mem _ hb)
    refine ⟨[] :: findings,?_,hflat⟩
    rw [List.mapM_cons,h a List.mem_cons_self,hmap]
    rfl

theorem sortedNames_nil {suffixes : List String} {keep : String → Bool} :
    (sortedNames suffixes).filter keep = [] ↔ ∀ suffix ∈ suffixes, keep suffix = false := by
  simp [sortedNames,List.filter_eq_nil_iff]

theorem checkOrphans_nil : checkOrphans dataset = [] ↔ (∀ r ∈ slotRows dataset, ledgerAt dataset r.suffix ≠ []) ∧
    ∀ r ∈ dataset.records, ∃ row ∈ slotRows dataset, row.suffix = r.suffix := by
  have horphaned : ∀ suffixes : List String, sortedNames suffixes = [] ↔ suffixes = [] := fun suffixes => by
    rw [sortedNames,← List.length_eq_zero_iff,List.length_mergeSort,List.length_eq_zero_iff,List.dedup_eq_nil]
  rw [checkOrphans,List.append_eq_nil_iff,List.map_eq_nil_iff,List.map_eq_nil_iff,sortedNames_nil,horphaned,List.filter_eq_nil_iff]
  simp

theorem checkProposals_nil : (checkProposals printable dataset (some hmac)).1 = [] ↔
    ∀ p ∈ dataset.proposals, p.lawful = true ∧ p.intact hmac = true := by
  simp only [checkProposals,List.append_eq_nil_iff,List.map_eq_nil_iff,List.filter_eq_nil_iff,Bool.not_eq_true',Bool.not_eq_false]
  exact forall₂_and.symm

variable (printable hmac) in
theorem runAudit_findings {findings : List (List AuditViolation)}
    (h : dataset.records.mapM (signatureFindings wire keyResolver) = .ok findings) :
    ∃ report, runAudit wire printable dataset (some hmac) (some keyResolver) = .ok report ∧
      report.violations = dataset.parseViolations ++ checkKeyMatchesContent dataset ++ findings.flatten ++
        (checkRowHmac dataset (some hmac)).1 ++ checkRowMatchesLastRecord dataset ++ checkOrphans dataset ++
        (checkProposals printable dataset (some hmac)).1 := by
  have hsignatures : checkRecordSignatures wire dataset (some keyResolver) = .ok (findings.flatten,[]) := by
    rw [checkRecordSignatures,bind_of_ok h]
    rfl
  exact ⟨_,bind_of_ok hsignatures _,rfl⟩

theorem audit_green : (∃ report, runAudit wire printable dataset (some hmac) (some keyResolver) = .ok report ∧ report.violations = []) ↔
    Consistent wire hmac keyResolver dataset := by
  constructor
  · rintro ⟨report,hrun,hgreen⟩
    obtain ⟨signatures,hsignatures,-⟩ := bind_ok.mp hrun
    obtain ⟨findings,hfindings,-⟩ := bind_ok.mp hsignatures
    obtain ⟨report',hrun',hviolations⟩ := runAudit_findings printable hmac hfindings
    obtain rfl : report' = report := Except.ok.inj (hrun'.symm.trans hrun)
    rw [hviolations] at hgreen
    simp only [List.append_eq_nil_iff] at hgreen
    obtain ⟨⟨⟨⟨⟨⟨hparsed,hkeys⟩,hsilent⟩,hintact⟩,hnewest⟩,horphans⟩,hproposals⟩ := hgreen
    obtain ⟨hrows,hrecords,hproposalKeys⟩ := checkKeys_nil.mp hkeys
    obtain ⟨hexplained,hheld⟩ := checkOrphans_nil.mp horphans
    refine ⟨hparsed,hrows,hrecords,hproposalKeys,mapM_silent ⟨hfindings,hsilent⟩,?_,?_,hexplained,hheld,checkProposals_nil.mp hproposals⟩
    · simpa [checkRowHmac] using hintact
    · simpa [checkRowMatchesLastRecord,List.filterMap_eq_nil_iff] using hnewest
  · intro h
    obtain ⟨findings,hfindings,hflat⟩ := mapM_nothing h.signed
    obtain ⟨report,hrun,hviolations⟩ := runAudit_findings printable hmac hfindings
    have hkeys : checkKeyMatchesContent dataset = [] := checkKeys_nil.mpr ⟨h.rowKeys,h.recordKeys,h.proposalKeys⟩
    have hintact : (checkRowHmac dataset (some hmac)).1 = [] := by simpa [checkRowHmac] using h.intact
    have hnewest : checkRowMatchesLastRecord dataset = [] := by
      simpa [checkRowMatchesLastRecord,List.filterMap_eq_nil_iff] using h.newest
    have horphans : checkOrphans dataset = [] := checkOrphans_nil.mpr ⟨h.explained,h.held⟩
    have hproposals : (checkProposals printable dataset (some hmac)).1 = [] := checkProposals_nil.mpr h.proposals
    refine ⟨report,hrun,?_⟩
    rw [hviolations,h.parsed,hkeys,hflat,hintact,hnewest,horphans,hproposals]
    rfl

end Audit

section Ledger

theorem last_greatest {l : List AuditedRecord} {newest r : AuditedRecord} (hsorted : l.Pairwise fun a b => a.sk ≤ b.sk)
    (hlast : l.getLast? = some newest) (hr : r ∈ l) : r.sk ≤ newest.sk := by
  obtain ⟨front,rfl⟩ := List.getLast?_eq_some_iff.mp hlast
  rcases List.mem_append.mp hr with hfront | hend
  · exact (List.pairwise_append.mp hsorted).2.2 r hfront newest (List.mem_singleton_self _)
  · obtain rfl := List.mem_singleton.mp hend
    exact String.le_refl _

theorem ledger_sorted (dataset : McpAuditDataset) (suffix : String) :
    (ledgerAt dataset suffix).Pairwise fun a b => a.sk ≤ b.sk := by
  have htrans : ∀ a b c : AuditedRecord, decide (a.sk ≤ b.sk) = true → decide (b.sk ≤ c.sk) = true → decide (a.sk ≤ c.sk) = true :=
    fun a b c hab hbc => decide_eq_true (String.le_trans (of_decide_eq_true hab) (of_decide_eq_true hbc))
  have htotal : ∀ a b : AuditedRecord, (decide (a.sk ≤ b.sk) || decide (b.sk ≤ a.sk)) = true :=
    fun a b => by simpa using String.le_total a.sk b.sk
  exact (List.pairwise_mergeSort htrans htotal _).imp of_decide_eq_true

theorem mem_ledger {dataset : McpAuditDataset} {suffix : String} {r : AuditedRecord} :
    r ∈ ledgerAt dataset suffix ↔ r ∈ dataset.records ∧ r.expectedKey = some (r.pk,r.sk) ∧ r.suffix = suffix := by
  simp [ledgerAt,AuditedRecord.keyBound]

end Ledger

end SafeAgents.Mcp
