import SafeAgents.Mcp.HonestAudit
import SafeAgents.Text.Lex
import Mathlib.Data.List.Pairwise

namespace SafeAgents.Mcp

open Channels (dssePayloadType pae)
open Checked Grants Json Wire

section Signature
variable {Bytes Key : Type} (wire : RecordWire Bytes Key)

def Attests (issued : Bytes → Prop) (data : String) : Prop :=
  ∃ bytes statement, issued bytes ∧ wire.loadBytes bytes = some statement ∧
    (statement.get? "predicateType").bind str? = some admissionPredicateType ∧
    (subjectHex statement).bind str? = some (storedRecordDigestHex wire data)

def Unforgeable (keyResolver : KeyResolver Key) (issued : Bytes → Prop) : Prop :=
  ∀ keyId publicKey raw bytes, keyResolver keyId = .ok (some publicKey) →
    wire.verify publicKey raw dssePayloadType bytes = true → issued bytes

variable {wire} {keyResolver : KeyResolver Key} {issued : Bytes → Prop}

theorem openEnvelope_about {envelope : Json} {expected digest : String} {statement : DsseStatement Bytes}
    (h : openEnvelope wire envelope expected digest = .ok statement) :
    ∃ j, wire.loadBytes statement.bytes = some j ∧ (j.get? "predicateType").bind str? = some expected ∧
      (subjectHex j).bind str? = some digest := by
  obtain ⟨signatures,_,hrest⟩ := bind_ok.mp h
  obtain ⟨_,hrest⟩ := then_ok.mp hrest
  obtain ⟨⟨bytes,j⟩,hbytes,hrest⟩ := bind_ok.mp hrest
  obtain ⟨_,hrest⟩ := then_ok.mp hrest
  obtain ⟨hpredicate,hrest⟩ := then_ok.mp hrest
  have hloaded : wire.loadBytes bytes = some j := by
    rw [statementBytes] at hbytes
    split at hbytes
    · cases hbytes
    · split at hbytes
      next hload =>
        cases hbytes
        exact hload
      · cases hbytes
  split at hrest
  next subject signer hsubject _ =>
    obtain ⟨hdigest,hend⟩ := then_ok.mp hrest
    obtain rfl := pure_ok.mp hend
    refine ⟨j,hloaded,not_not.mp (refuseIf_ok.mp hpredicate),?_⟩
    rw [hsubject]
    exact not_not.mp (refuseIf_ok.mp hdigest)
  · cases hrest

theorem verified_attests (hissued : Unforgeable wire keyResolver issued) {stored : String} {envelope : Json}
    (h : verifyAdmissionRecord wire stored envelope keyResolver = .ok none) : Attests wire issued stored := by
  rw [verifyAdmissionRecord,verifyDsseRecord] at h
  split at h
  · cases h
  next statement hopened =>
    obtain ⟨signature,rest,hsignatures⟩ := List.exists_cons_of_ne_nil (openEnvelope_ok hopened).2
    have hvouched := checkSignatures_pass.mp h signature (by rw [hsignatures]; exact List.mem_cons_self)
    obtain ⟨publicKey,sig,raw,hfound,_,_,hverified⟩ := hvouched.verified
    obtain ⟨j,hload,hpredicate,hsubject⟩ := openEnvelope_about hopened
    exact ⟨statement.bytes,j,hissued _ _ _ _ hfound hverified,hload,hpredicate,hsubject⟩

theorem silent_signature {r : AuditedRecord} (h : signatureFindings wire keyResolver r = .ok []) :
    ∃ data signature, r.rawData = some data ∧ r.signature = some signature ∧
      verifyAdmissionRecord wire data signature keyResolver = .ok none := by
  rw [signatureFindings] at h
  split at h
  · cases h
  · cases h
  next signature data hsignature hdata =>
    obtain ⟨reason,hreason,hrest⟩ := bind_ok.mp h
    cases reason with
    | some reason => cases hrest
    | none => exact ⟨data,signature,hdata,hsignature,hreason⟩

end Signature

section Table
variable {explain : String → String → String} {printable : Char → Bool} {table : ItemsTable} {items : List Item} {row : ItemRow}
  {item : Item}

theorem ItemsTable.unique {row row' : ItemRow} (h : row ∈ table.rows) (h' : row' ∈ table.rows) (hpk : row'.pk = row.pk)
    (hsk : row'.sk = row.sk) : row' = row := by
  by_contra hne
  have hapart : ∀ a b : ItemRow, (a.pk < b.pk ∨ a.pk = b.pk ∧ a.sk < b.sk) → ¬ (a.pk = b.pk ∧ a.sk = b.sk) := by
    rintro a b (hlt | ⟨_,hlt⟩) ⟨hpk,hsk⟩
    · rw [hpk] at hlt
      exact String.lt_irrefl _ hlt
    · rw [hsk] at hlt
      exact String.lt_irrefl _ hlt
  have hpair : table.rows.Pairwise fun a b => ¬ (a.pk = b.pk ∧ a.sk = b.sk) := table.ordered.imp fun hlt => hapart _ _ hlt
  have hsymm : Std.Symm fun a b : ItemRow => ¬ (a.pk = b.pk ∧ a.sk = b.sk) := ⟨fun a b hab hba => hab ⟨hba.1.symm,hba.2.symm⟩⟩
  exact hpair.forall h' h hne ⟨hpk,hsk⟩

theorem getItem_row (h : row ∈ table.rows) : getItem table row.pk row.sk =
    match Json.loads row.item with
    | some (.obj attributes) => .ok (some attributes)
    | _ => .error .notAttributes := by
  rw [getItem]
  cases hfind : table.rows.find? fun r => r.pk == row.pk && r.sk == row.sk with
  | none => exact absurd (List.find?_eq_none.mp hfind row h) (by simp)
  | some found =>
    have hmatch := List.find?_some hfind
    simp only [Bool.and_eq_true,beq_iff_eq] at hmatch
    obtain rfl := table.unique h (List.mem_of_find?_eq_some hfind) hmatch.1 hmatch.2
    rfl

theorem getItem_found {pk sk : String} {attributes : Item} (h : getItem table pk sk = .ok (some attributes)) :
    ∃ row ∈ table.rows, row.pk = pk ∧ row.sk = sk ∧ Json.loads row.item = some (.obj attributes) := by
  rw [getItem] at h
  split at h
  · cases h
  next row hfind =>
    have hmatch := List.find?_some hfind
    simp only [Bool.and_eq_true,beq_iff_eq] at hmatch
    split at h
    next hloads =>
      cases h
      exact ⟨row,List.mem_of_find?_eq_some hfind,hmatch.1,hmatch.2,hloads⟩
    · cases h

theorem mergedItem_field (h : mergedItem row = some item) : ∃ attributes, Json.loads row.item = some (.obj attributes) ∧
    ∀ name, name ≠ "pk" → name ≠ "sk" → field item name = field attributes name := by
  rw [mergedItem] at h
  split at h
  next attributes hloads =>
    refine ⟨attributes,hloads,fun name hpk hsk => ?_⟩
    rw [← Option.some.inj h,field_spread (loads_dict hloads),field_cons,field_cons,if_neg fun heq => hpk heq.symm,
      if_neg fun heq => hsk heq.symm]
    exact Option.or_none
  · cases h

theorem mapM_each {α β : Type} {f : α → Option β} {l : List α} {l' : List β} (h : l.mapM f = some l') :
    (∀ a ∈ l, ∃ b ∈ l', f a = some b) ∧ ∀ b ∈ l', ∃ a ∈ l, f a = some b := by
  induction l generalizing l' with
  | nil =>
    cases h
    simp
  | cons a l ih =>
    rw [List.mapM_cons] at h
    obtain ⟨b,hb,hrest⟩ := Option.bind_eq_some_iff.mp h
    obtain ⟨more,hmore,hlist⟩ := Option.bind_eq_some_iff.mp hrest
    obtain rfl := Option.some.inj hlist
    obtain ⟨heach,hall⟩ := ih hmore
    constructor
    · intro x hx
      rcases List.mem_cons.mp hx with rfl | hx
      · exact ⟨b,List.mem_cons_self,hb⟩
      · obtain ⟨y,hy,hfy⟩ := heach x hx
        exact ⟨y,List.mem_cons_of_mem _ hy,hfy⟩
    · intro y hy
      rcases List.mem_cons.mp hy with rfl | hy
      · exact ⟨a,List.mem_cons_self,hb⟩
      · obtain ⟨x,hx,hfx⟩ := hall y hy
        exact ⟨x,List.mem_cons_of_mem _ hx,hfx⟩

end Table

def OwnKeys (table : ItemsTable) : Prop :=
  ∀ row ∈ table.rows, ∀ item, mergedItem row = some item → textOf item "pk" = some row.pk ∧ textOf item "sk" = some row.sk

structure IssuerSigned {Bytes Key : Type} (wire : RecordWire Bytes Key) (issued : Bytes → Prop) (table : ItemsTable) (row : ItemRow)
    (record : McpAdmissionRecord) : Prop where
  stored : row ∈ table.rows
  ledger : hasPrefix recordPrefix row.pk = true
  bytes : ∃ attributes data, Json.loads row.item = some (.obj attributes) ∧ textOf attributes "data" = some data ∧
    McpAdmissionRecord.modelValidateJson data = some record ∧ Attests wire issued data

theorem IssuerSigned.record_unique {Bytes Key : Type} {wire : RecordWire Bytes Key} {issued : Bytes → Prop} {table : ItemsTable}
    {row : ItemRow} {record record' : McpAdmissionRecord} (h : IssuerSigned wire issued table row record)
    (h' : IssuerSigned wire issued table row record') : record = record' := by
  obtain ⟨attributes,data,hloads,htext,hparsed,_⟩ := h.bytes
  obtain ⟨attributes',data',hloads',htext',hparsed',_⟩ := h'.bytes
  obtain rfl : attributes = attributes' := by
    rw [hloads] at hloads'
    simpa using hloads'
  obtain rfl : data = data' := Option.some.inj (htext.symm.trans htext')
  exact Option.some.inj (hparsed.symm.trans hparsed')

def Bounded {Bytes Key : Type} (wire : RecordWire Bytes Key) (issued : Bytes → Prop) (hmac : String → String) (table : ItemsTable)
    (serverId toolName : String) : Prop :=
  ∀ r tool, getToolSqlite hmac table serverId toolName = .ok r → r.quarantined = false → r.tool = some tool →
    tool.toolDef.serverId = serverId ∧ tool.toolDef.toolName = toolName ∧
      ∃ row record, IssuerSigned wire issued table row record ∧ record.serverId = serverId ∧ record.toolName = toolName ∧
        record.defHash = tool.defHash ∧
        ∀ row' record', IssuerSigned wire issued table row' record' → record'.serverId = serverId → record'.toolName = toolName →
          ¬ row.sk < row'.sk

section Green
variable {Bytes Key : Type} {wire : RecordWire Bytes Key} {issued : Bytes → Prop} {hmac : String → String}
  {keyResolver : KeyResolver Key} {explain : String → String → String} {printable : Char → Bool} {table : ItemsTable}
  {items : List Item} {row : ItemRow}

structure RowRead (hmac : String → String) (dataset : McpAuditDataset) (row : ItemRow) (r : AuditedRow) (tool : ToolRow) (data : String)
    (attributes : Item) : Prop where
  mem : r ∈ dataset.rows
  pk : r.pk = row.pk
  sk : r.sk = row.sk
  held : r.row = some tool
  key : rowKeyOf tool = (row.pk,row.sk)
  loads : Json.loads row.item = some (.obj attributes)
  text : textOf attributes "data" = some data
  hash : textOf attributes "rowHash" = some (hmac data)
  parsed : ToolRow.modelValidateJson data = some tool

structure RecordRead (wire : RecordWire Bytes Key) (issued : Bytes → Prop) (dataset : McpAuditDataset) (table : ItemsTable) (row : ItemRow)
    (r : AuditedRecord) (record : McpAdmissionRecord) : Prop where
  mem : r ∈ dataset.records
  pk : r.pk = row.pk
  sk : r.sk = row.sk
  parsed : r.record = some record
  key : recordKeyOf record = (row.pk,row.sk)
  signed : IssuerSigned wire issued table row record

theorem text_field {item attributes : Item} (h : ∀ name, name ≠ "pk" → name ≠ "sk" → field item name = field attributes name)
    {name : String} (hpk : name ≠ "pk") (hsk : name ≠ "sk") : textOf item name = textOf attributes name := by
  rw [textOf,h name hpk hsk,textOf]

theorem parse_ok {α : Type} {model : String} {validate : String → Option α} {data : Option Json} {a : α}
    (h : parse explain model validate data = .ok a) : ∃ text, data = some (.str text) ∧ validate text = some a := by
  unfold parse at h
  split at h
  next text =>
    cases hread : validate text with
    | none =>
      rw [hread] at h
      cases h
    | some b =>
      rw [hread] at h
      cases h
      exact ⟨text,rfl,hread⟩
  · cases h

theorem read_row (hread : readItemsSqlite table = some items) (hkeys : OwnKeys table)
    (hgreen : Consistent wire hmac keyResolver (datasetFromItems explain printable items)) (hrow : row ∈ table.rows)
    (hpk : hasPrefix rowPrefix row.pk = true) :
    ∃ r tool data attributes, RowRead hmac (datasetFromItems explain printable items) row r tool data attributes := by
  obtain ⟨item,hitem,hmerged⟩ := (mapM_each hread).1 row hrow
  obtain ⟨hitempk,hitemsk⟩ := hkeys row hrow item hmerged
  obtain ⟨attributes,hloads,hfield⟩ := mergedItem_field hmerged
  have hregistry : registryPk item = some row.pk := by
    rw [registryPk,hitempk,Option.filter_some,hpk]
    rfl
  have hsilent := List.flatMap_eq_nil_iff.mp hgreen.parsed item hitem
  obtain ⟨-,hunread⟩ := silent_reads hsilent rfl hregistry
  rw [unread_row hpk] at hunread
  obtain ⟨tool,htool⟩ := parse_of_silent hunread
  obtain ⟨data,hdata,hparsed⟩ := parse_ok htool
  have htext : textOf item "data" = some data := by
    rw [textOf,hdata]
    rfl
  have haudited : auditedRow explain item = some ⟨row.pk,row.sk,some data,textOf item "rowHash",some tool⟩ := by
    rw [auditedRow,keyed_some.mpr ⟨hitempk,hpk⟩,sortKey,hitemsk,htext,htool]
    rfl
  have hmem : (⟨row.pk,row.sk,some data,textOf item "rowHash",some tool⟩ : AuditedRow) ∈ (datasetFromItems explain printable items).rows :=
    List.mem_filterMap.mpr ⟨item,hitem,haudited⟩
  have hintact := hgreen.intact _ hmem
  have hhash : textOf item "rowHash" = some (hmac data) := by
    rw [AuditedRow.intact] at hintact
    split at hintact
    next raw stored hraw hstored =>
      obtain rfl : data = raw := Option.some.inj hraw
      rw [beq_iff_eq.mp hintact]
      exact hstored
    · cases hintact
  exact ⟨_,tool,data,attributes,{
    mem := hmem
    pk := rfl
    sk := rfl
    held := rfl
    key := hgreen.rowKeys _ hmem tool rfl
    loads := hloads
    text := (text_field hfield (by decide) (by decide)).symm.trans htext
    hash := (text_field hfield (by decide) (by decide)).symm.trans hhash
    parsed := hparsed }⟩

theorem read_record (hissued : Unforgeable wire keyResolver issued) (hkeys : OwnKeys table)
    (hgreen : Consistent wire hmac keyResolver (datasetFromItems explain printable items)) (hrow : row ∈ table.rows) {item : Item}
    (hitem : item ∈ items) (hmerged : mergedItem row = some item) {r : AuditedRecord} (haudited : auditedRecord explain item = some r) :
    ∃ record, RecordRead wire issued (datasetFromItems explain printable items) table row r record := by
  obtain ⟨hitempk,hitemsk⟩ := hkeys row hrow item hmerged
  obtain ⟨attributes,hloads,hfield⟩ := mergedItem_field hmerged
  have hmem : r ∈ (datasetFromItems explain printable items).records := List.mem_filterMap.mpr ⟨item,hitem,haudited⟩
  obtain ⟨pk,hkeyed,rfl⟩ := Option.map_eq_some_iff.mp haudited
  obtain ⟨hown,hpk⟩ := keyed_some.mp hkeyed
  obtain rfl : row.pk = pk := Option.some.inj (hitempk.symm.trans hown)
  have hregistry : registryPk item = some row.pk := by
    rw [registryPk,hitempk,Option.filter_some,hpk,Bool.or_true]
    rfl
  have hsilent := List.flatMap_eq_nil_iff.mp hgreen.parsed item hitem
  obtain ⟨-,hunread⟩ := silent_reads hsilent rfl hregistry
  rw [unread_record hpk] at hunread
  obtain ⟨record,hrecord⟩ := parse_of_silent hunread
  obtain ⟨data,hdata,hparsed⟩ := parse_ok hrecord
  have htext : textOf item "data" = some data := by
    rw [textOf,hdata]
    rfl
  have hheld : (parseRecord explain item).toOption = some record := by
    rw [hrecord]
    rfl
  have hsk : sortKey item = row.sk := by
    rw [sortKey,hitemsk]
    rfl
  obtain ⟨stored,signature,hraw,_,hverified⟩ := silent_signature (hgreen.signed _ hmem)
  obtain rfl : data = stored := Option.some.inj (htext.symm.trans hraw)
  exact ⟨record,{
    mem := hmem
    pk := rfl
    sk := hsk
    parsed := hheld
    key := hsk ▸ hgreen.recordKeys _ hmem record hheld
    signed := ⟨hrow,hpk,attributes,data,hloads,(text_field hfield (by decide) (by decide)).symm.trans htext,hparsed,
      verified_attests hissued hverified⟩ }⟩

theorem record_of_row (explain : String → String → String) (hread : readItemsSqlite table = some items) (hkeys : OwnKeys table) (hrow : row ∈ table.rows)
    (hpk : hasPrefix recordPrefix row.pk = true) :
    ∃ item ∈ items, mergedItem row = some item ∧ ∃ r, auditedRecord explain item = some r := by
  obtain ⟨item,hitem,hmerged⟩ := (mapM_each hread).1 row hrow
  refine ⟨item,hitem,hmerged,Option.isSome_iff_exists.mp ?_⟩
  rw [auditedRecord,keyed_some.mpr ⟨(hkeys row hrow item hmerged).1,hpk⟩]
  rfl

theorem row_of_record (hread : readItemsSqlite table = some items) {r : AuditedRecord}
    (hr : r ∈ (datasetFromItems explain printable items).records) :
    ∃ row ∈ table.rows, ∃ item ∈ items, mergedItem row = some item ∧ auditedRecord explain item = some r := by
  obtain ⟨item,hitem,haudited⟩ := List.mem_filterMap.mp hr
  obtain ⟨row,hrow,hmerged⟩ := (mapM_each hread).2 item hitem
  exact ⟨row,hrow,item,hitem,hmerged,haudited⟩

theorem getTool_row {tool : ToolRow} {data : String} {attributes : Item} {r : AuditedRow} {dataset : McpAuditDataset}
    (hrow : row ∈ table.rows) (h : RowRead hmac dataset row r tool data attributes) {serverId toolName : String}
    (hpk : row.pk = rowPrefix ++ serverId ++ "#" ++ toolName) (hsk : row.sk = "ROW") :
    getToolSqlite hmac table serverId toolName =
      .ok { tool := some tool, rawData := some data, storedHash := some (hmac data) } := by
  have hitem : getItem table (rowPrefix ++ serverId ++ "#" ++ toolName) "ROW" = .ok (some attributes) := by
    rw [← hpk,← hsk,getItem_row hrow,h.loads]
  rw [getToolSqlite,bind_of_ok hitem]
  simp [readResultFromItem,h.text,h.hash,h.parsed,Except.mapError]

theorem getTool_stored {serverId toolName : String} {r : ToolReadResult} {tool : ToolRow}
    (h : getToolSqlite hmac table serverId toolName = .ok r) (htool : r.tool = some tool) :
    ∃ row ∈ table.rows, row.pk = rowPrefix ++ serverId ++ "#" ++ toolName ∧ row.sk = "ROW" := by
  obtain ⟨found,hfound,hrest⟩ := bind_ok.mp h
  cases found with
  | none =>
    obtain rfl := pure_ok.mp hrest
    cases htool
  | some attributes =>
    obtain ⟨row,hrow,hpk,hsk,-⟩ := getItem_found hfound
    exact ⟨row,hrow,hpk,hsk⟩

theorem names_of_joined {s t s' t' : String} (hone : (s ++ "#" ++ t).toList.count '#' = 1) (h : s ++ "#" ++ t = s' ++ "#" ++ t') :
    s' = s ∧ t' = t := by
  have hjoin : ∀ x y : String, (x ++ "#" ++ y).toList = Lexical.joined '#' [x.toList,y.toList] := by
    intro x y
    have hhash : "#".toList = ['#'] := rfl
    simp [Lexical.joined,hhash]
  have hfree : ∀ part ∈ [s.toList,t.toList], '#' ∉ part := by
    rw [hjoin,Lexical.count_joined] at hone
    exact Lexical.sum_count_eq_zero.mp (by simpa using hone)
  have hlists : Lexical.joined '#' [s.toList,t.toList] = Lexical.joined '#' [s'.toList,t'.toList] := by
    rw [← hjoin,← hjoin,h]
  have hparts := Lexical.joined_injective (a := [s.toList,t.toList]) (b := [s'.toList,t'.toList]) rfl hfree hlists
  simp only [List.cons.injEq,and_true] at hparts
  exact ⟨String.toList_injective hparts.1.symm,String.toList_injective hparts.2.symm⟩

theorem splits_again {s t : String} (h : (s ++ "#" ++ t).toList.count '#' ≠ 1) :
    ∃ s' t', s' ≠ s ∧ s' ++ "#" ++ t' = s ++ "#" ++ t := by
  have hhash : "#".toList = ['#'] := rfl
  have hcount : (s ++ "#" ++ t).toList.count '#' = s.toList.count '#' + 1 + t.toList.count '#' := by
    simp only [String.toList_append,List.count_append,hhash,List.count_singleton_self]
  by_cases hs : '#' ∈ s.toList
  · obtain ⟨x,y,hxy⟩ := List.append_of_mem hs
    refine ⟨String.ofList x,String.ofList y ++ "#" ++ t,fun heq => ?_,?_⟩
    · have hlength := congrArg (List.length ∘ String.toList) heq
      simp [hxy] at hlength
    · apply String.toList_injective
      simp [hxy,hhash]
  · have ht : '#' ∈ t.toList := by
      by_contra hnot
      rw [hcount,List.count_eq_zero.mpr hs,List.count_eq_zero.mpr hnot] at h
      exact h rfl
    obtain ⟨x,y,hxy⟩ := List.append_of_mem ht
    refine ⟨s ++ "#" ++ String.ofList x,String.ofList y,fun heq => ?_,?_⟩
    · have hlength := congrArg (List.length ∘ String.toList) heq
      simp [hhash] at hlength
    · apply String.toList_injective
      simp [hxy,hhash]

def SplitsOnce (table : ItemsTable) : Prop :=
  ∀ row ∈ table.rows, row.sk = "ROW" → hasPrefix rowPrefix row.pk = true → (removePrefix rowPrefix row.pk).toList.count '#' = 1

theorem bounded_of_split (hissued : Unforgeable wire keyResolver issued) (hread : readItemsSqlite table = some items)
    (hkeys : OwnKeys table) (hgreen : Consistent wire hmac keyResolver (datasetFromItems explain printable items))
    (hsplit : SplitsOnce table) (serverId toolName : String) : Bounded wire issued hmac table serverId toolName := by
  intro r tool hget _ htool
  obtain ⟨row,hrow,hpk,hsk⟩ := getTool_stored hget htool
  have hjoined : row.pk = rowPrefix ++ (serverId ++ "#" ++ toolName) := by rw [hpk]; simp only [String.append_assoc]
  have hmarked : hasPrefix rowPrefix row.pk = true := hjoined ▸ hasPrefix_append _ _
  obtain ⟨audited,held,data,attributes,hrowread⟩ := read_row hread hkeys hgreen hrow hmarked
  have hresult := getTool_row hrow hrowread hpk hsk
  obtain rfl : tool = held := by
    rw [hget] at hresult
    obtain rfl := Except.ok.inj hresult
    exact (Option.some.inj htool).symm
  have hone : (serverId ++ "#" ++ toolName).toList.count '#' = 1 := by
    have h := hsplit row hrow hsk hmarked
    rwa [hjoined,removePrefix_append] at h
  have hname : ∀ marker s t : String, marker ++ s ++ "#" ++ t = marker ++ (serverId ++ "#" ++ toolName) → s = serverId ∧ t = toolName := by
    intro marker s t hst
    refine names_of_joined hone ((String.append_right_inj marker).mp ?_)
    rw [← hst]
    simp only [String.append_assoc]
  obtain ⟨hserver,htoolname⟩ := hname rowPrefix _ _ ((congrArg Prod.fst hrowread.key).trans hjoined)
  have hsuffix : audited.suffix = serverId ++ "#" ++ toolName := by
    rw [AuditedRow.suffix,hrowread.pk,hjoined,removePrefix_append]
  have hslot : audited ∈ slotRows (datasetFromItems explain printable items) :=
    List.mem_filter.mpr ⟨hrowread.mem,by rw [hrowread.sk,hsk]; rfl⟩
  obtain ⟨newest,hlast⟩ : ∃ newest, (ledgerAt (datasetFromItems explain printable items) audited.suffix).getLast? = some newest :=
    ⟨_,List.getLast?_eq_some_getLast (hgreen.explained audited hslot)⟩
  obtain ⟨hrecord,-,hgroup⟩ := mem_ledger.mp (List.mem_of_getLast? hlast)
  obtain ⟨stored,hstored,item,hitem,hmerged,haudited⟩ := row_of_record hread hrecord
  obtain ⟨record,hrecordread⟩ := read_record hissued hkeys hgreen hstored hitem hmerged haudited
  have hdef : record.defHash = tool.defHash := by
    have hnewest := hgreen.newest audited hslot
    simp only [outdated,hrowread.held,hlast,hrecordread.parsed,Option.bind_eq_bind,Option.bind_some] at hnewest
    by_contra hne
    rw [if_neg hne] at hnewest
    cases hnewest
  have hpks : ∀ {r : AuditedRecord}, hasPrefix recordPrefix r.pk = true → r.suffix = serverId ++ "#" ++ toolName →
      r.pk = recordPrefix ++ (serverId ++ "#" ++ toolName) := fun hmark hsuffix =>
    (prefix_removed hmark).trans (congrArg (recordPrefix ++ ·) hsuffix)
  have hnewestpk : stored.pk = recordPrefix ++ (serverId ++ "#" ++ toolName) :=
    hrecordread.pk.symm.trans (hpks (hrecordread.pk ▸ hrecordread.signed.ledger) (hgroup.trans hsuffix))
  obtain ⟨hrecordserver,hrecordtool⟩ := hname recordPrefix _ _ ((congrArg Prod.fst hrecordread.key).trans hnewestpk)
  refine ⟨hserver,htoolname,stored,record,hrecordread.signed,hrecordserver,hrecordtool,hdef,?_⟩
  intro row' record' hsigned hserver' htool' hlater
  obtain ⟨item',hitem',hmerged',r',haudited'⟩ := record_of_row explain hread hkeys hsigned.stored hsigned.ledger
  obtain ⟨record'',hread'⟩ := read_record hissued hkeys hgreen hsigned.stored hitem' hmerged' haudited'
  obtain rfl : record'' = record' := hread'.signed.record_unique hsigned
  have hkey' : r'.expectedKey = some (r'.pk,r'.sk) := by
    rw [AuditedRecord.expectedKey,hread'.parsed,Option.map_some,hread'.key,hread'.pk,hread'.sk]
  have hsuffix' : r'.suffix = audited.suffix := by
    have hpk' : r'.pk = recordPrefix ++ (serverId ++ "#" ++ toolName) := by
      have hown : (recordKeyOf record'').1 = row'.pk := congrArg Prod.fst hread'.key
      rw [hread'.pk,← hown,recordKeyOf,hserver',htool']
      simp only [String.append_assoc]
    rw [AuditedRecord.suffix,hpk',removePrefix_append,hsuffix]
  have hle := last_greatest (ledger_sorted _ _) hlast (mem_ledger.mpr ⟨hread'.mem,hkey',hsuffix'⟩)
  rw [hread'.sk,hrecordread.sk] at hle
  exact String.not_lt.mpr hle hlater

theorem split_of_bounded (hread : readItemsSqlite table = some items) (hkeys : OwnKeys table)
    (hgreen : Consistent wire hmac keyResolver (datasetFromItems explain printable items))
    (hbounded : ∀ serverId toolName, Bounded wire issued hmac table serverId toolName) : SplitsOnce table := by
  intro row hrow hsk hmarked
  obtain ⟨audited,tool,data,attributes,hrowread⟩ := read_row hread hkeys hgreen hrow hmarked
  have hjoined : row.pk = rowPrefix ++ (tool.toolDef.serverId ++ "#" ++ tool.toolDef.toolName) := by
    have hown : (rowKeyOf tool).1 = row.pk := congrArg Prod.fst hrowread.key
    rw [← hown,rowKeyOf]
    simp only [String.append_assoc]
  rw [hjoined,removePrefix_append]
  by_contra hcount
  obtain ⟨serverId,toolName,hother,hsame⟩ := splits_again hcount
  have hpk : row.pk = rowPrefix ++ serverId ++ "#" ++ toolName := by
    rw [hjoined,← hsame]
    simp only [String.append_assoc]
  obtain ⟨hserver,-⟩ := hbounded serverId toolName _ tool (getTool_row hrow hrowread hpk hsk) rfl rfl
  exact hother hserver.symm

end Green

theorem audit_bounds_callability {Bytes Key : Type} {wire : RecordWire Bytes Key} {issued : Bytes → Prop} {hmac : String → String}
    {keyResolver : KeyResolver Key} {explain : String → String → String} {printable : Char → Bool} {table : ItemsTable}
    {items : List Item} {report : McpAuditReport} (hissued : Unforgeable wire keyResolver issued)
    (hread : readItemsSqlite table = some items) (hkeys : OwnKeys table)
    (haudit : runAudit wire printable (datasetFromItems explain printable items) (some hmac) (some keyResolver) = .ok report)
    (hgreen : report.violations = []) :
    (∀ serverId toolName, Bounded wire issued hmac table serverId toolName) ↔ SplitsOnce table := by
  have hconsistent := audit_green.mp ⟨report,haudit,hgreen⟩
  exact ⟨split_of_bounded hread hkeys hconsistent,bounded_of_split hissued hread hkeys hconsistent⟩

namespace OneAdmission
variable (serverId toolName : String)

def definition : ToolDefinition where
  serverId
  toolName
  inputSchema := []
  description := "Latest quotes."
  admitted := ⟨⟨.nil,trivial⟩,by simp,by simp,by simp,by simp,by simp⟩

def proposal : McpAdmissionProposal where
  proposalId := "1"
  expiresAt := "2033-05-18T03:33:20+00:00"
  toolDef := (definition serverId toolName).toMcpToolDef
  defHash := computeToolDefHash id (definition serverId toolName).toMcpToolDef
  kind := "admission"
  proposedBy := "maker"

def stamp : String := "1970-01-01T00:00:00+00:00"

def record : McpAdmissionRecord := admissionRecord (proposal serverId toolName) "checker" stamp

def row : ToolRow := activeRowFromProposal (proposal serverId toolName) "checker" stamp

def signature : Json := signAdmissionRecord QuoteRegistry.signer (record serverId toolName)

def issued (bytes : String) : Prop := bytes = buildAdmissionStatement QuoteRegistry.signer (record serverId toolName)

instance (bytes : String) : Decidable (issued serverId toolName bytes) := decEq _ _

def wire : RecordWire String String :=
  { QuoteRegistry.wire with
    verify := fun _ signed payloadType bytes => signed = pae payloadType bytes ∧ issued serverId toolName bytes }

theorem unforgeable : Unforgeable (wire serverId toolName) QuoteRegistry.resolver (issued serverId toolName) := by
  intro keyId publicKey raw bytes _ hverify
  exact (of_decide_eq_true hverify).2

theorem decodes (text : String) :
    (wire serverId toolName).b64decode (QuoteRegistry.signer.b64encode text) = some ((wire serverId toolName).encode text) := rfl

theorem loads (text : String) : (wire serverId toolName).loadBytes ((wire serverId toolName).encode text) = Json.loads text := rfl

theorem signs : Signs (wire serverId toolName) QuoteRegistry.resolver QuoteRegistry.signer (record serverId toolName) where
  digest := rfl
  payload := decodes serverId toolName (buildAdmissionStatement QuoteRegistry.signer (record serverId toolName))
  signature := decodes serverId toolName (QuoteRegistry.signer.signPae (pae dssePayloadType
    (buildAdmissionStatement QuoteRegistry.signer (record serverId toolName))))
  load := loads serverId toolName (buildAdmissionStatement QuoteRegistry.signer (record serverId toolName))
  key := ⟨QuoteRegistry.signer.keyId,rfl,decide_eq_true ⟨rfl,rfl⟩⟩

def store : AdmissionStore where
  rows := Function.update (fun _ => none) (rowKey .sqlite serverId toolName) (some (buildItem id (row serverId toolName)))
  records := Function.update (fun _ => none) (recordKey .sqlite (record serverId toolName))
    (some (recordItem (record serverId toolName) (signature serverId toolName)))

theorem single_stored {β : Type} {k key : List String} {v i : β} (h : Function.update (fun _ => none) k (some v) key = some i) :
    key = k ∧ i = v := by
  by_cases hkey : key = k
  · rw [hkey,Function.update_self] at h
    exact ⟨hkey,(Option.some.inj h).symm⟩
  · rw [Function.update_of_ne hkey] at h
    cases h

theorem store_rows {key : List String} {i : RowItem} (h : (store serverId toolName).rows key = some i) :
    key = rowKey .sqlite serverId toolName ∧ i = buildItem id (row serverId toolName) := single_stored h

theorem store_records {key : List String} {i : RecordItem} (h : (store serverId toolName).records key = some i) :
    key = recordKey .sqlite (record serverId toolName) ∧ i = recordItem (record serverId toolName) (signature serverId toolName) :=
  single_stored h

theorem store_row : (store serverId toolName).rows (rowKey .sqlite serverId toolName) = some (buildItem id (row serverId toolName)) := by
  simp only [store,Function.update_self]

theorem store_record : (store serverId toolName).records (recordKey .sqlite (record serverId toolName)) =
    some (recordItem (record serverId toolName) (signature serverId toolName)) := by
  simp only [store,Function.update_self]

theorem store_honest : Honest id id .sqlite (wire serverId toolName) QuoteRegistry.resolver (store serverId toolName) where
  proposals := by
    intro key item hitem
    cases hitem
  records := by
    intro key item hitem
    obtain ⟨rfl,rfl⟩ := store_records serverId toolName hitem
    refine ⟨proposal serverId toolName,"checker",stamp,QuoteRegistry.signer,signs serverId toolName,rfl,rfl,?_⟩
    exact Option.isSome_of_eq_some (store_row serverId toolName)
  rows := by
    intro key item hitem
    obtain ⟨rfl,rfl⟩ := store_rows serverId toolName hitem
    refine ⟨proposal serverId toolName,"checker",stamp,QuoteRegistry.signer,⟨(definition serverId toolName).admitted,rfl⟩,rfl,rfl,?_,?_⟩
    · exact store_record serverId toolName
    · intro r hr _ hlater
      obtain ⟨i,hi⟩ := Option.isSome_iff_exists.mp hr
      have hts := congrArg List.getLast? (store_records serverId toolName hi).1
      rw [show r.ts = stamp from Option.some.inj hts] at hlater
      exact String.lt_irrefl _ hlater

def rowAttributes : Item :=
  [("data",.str (canonicalRowPayload (row serverId toolName))),("rowHash",.str (canonicalRowPayload (row serverId toolName)))]

def recordAttributes : Item :=
  [("data",.str (record serverId toolName).canonicalPayload),("signature",.str (signatureText (signature serverId toolName)))]

def table : ItemsTable where
  rows := [⟨rowPrefix ++ (serverId ++ "#" ++ toolName),"ROW",(Json.obj (rowAttributes serverId toolName)).dumps⟩,
    ⟨recordPrefix ++ (serverId ++ "#" ++ toolName),stamp,(Json.obj (recordAttributes serverId toolName)).dumps⟩]
  ordered := by
    refine .cons (fun r hr => ?_) (List.pairwise_singleton _ _)
    obtain rfl := List.mem_singleton.mp hr
    left
    have hmarkers : rowPrefix.toList < recordPrefix.toList := by decide
    dsimp only
    rw [String.lt_iff,String.toList_append (s := rowPrefix),String.toList_append (s := recordPrefix)]
    exact Lexical.append_lt_append_of_length_eq (by decide) hmarkers _ _

def items : List Item :=
  [shownRow (rowKey .sqlite serverId toolName) (buildItem id (row serverId toolName)),
    shownRecord (recordKey .sqlite (record serverId toolName)) (recordItem (record serverId toolName) (signature serverId toolName))]

theorem items_scanned : Scans (store serverId toolName) (items serverId toolName) where
  rows := by
    intro key i hi
    obtain ⟨rfl,rfl⟩ := store_rows serverId toolName hi
    exact ⟨_,List.mem_cons_self,shows_row _ _⟩
  records := by
    intro key i hi
    obtain ⟨rfl,rfl⟩ := store_records serverId toolName hi
    exact ⟨_,List.mem_cons_of_mem _ (List.mem_singleton_self _),shows_record _ _⟩
  only := by
    intro item hitem
    rcases List.mem_cons.mp hitem with rfl | hitem
    · exact .inl ⟨_,_,store_row serverId toolName,shows_row _ _⟩
    · obtain rfl := List.mem_singleton.mp hitem
      exact .inr (.inl ⟨_,_,store_record serverId toolName,shows_record _ _⟩)

theorem attributes_read : Json.loads (Json.obj (rowAttributes serverId toolName)).dumps = some (.obj (rowAttributes serverId toolName)) ∧
    Json.loads (Json.obj (recordAttributes serverId toolName)).dumps = some (.obj (recordAttributes serverId toolName)) := by
  constructor
  · exact loads_dumps (proper_obj ["data","rowHash"] rfl (by decide) ⟨trivial,trivial,trivial⟩)
  · exact loads_dumps (proper_obj ["data","signature"] rfl (by decide) ⟨trivial,trivial,trivial⟩)

theorem merged_row :
    mergedItem ⟨rowPrefix ++ (serverId ++ "#" ++ toolName),"ROW",(Json.obj (rowAttributes serverId toolName)).dumps⟩ =
      some (shownRow (rowKey .sqlite serverId toolName) (buildItem id (row serverId toolName))) := by
  rw [mergedItem,(attributes_read serverId toolName).1,rowKey_joined (by decide)]
  rfl

theorem merged_record :
    mergedItem ⟨recordPrefix ++ (serverId ++ "#" ++ toolName),stamp,(Json.obj (recordAttributes serverId toolName)).dumps⟩ =
      some (shownRecord (recordKey .sqlite (record serverId toolName)) (recordItem (record serverId toolName) (signature serverId toolName))) := by
  rw [mergedItem,(attributes_read serverId toolName).2,recordKey_joined (by decide)]
  rfl

theorem items_read : readItemsSqlite (table serverId toolName) = some (items serverId toolName) := by
  rw [readItemsSqlite,table,List.mapM_cons,List.mapM_cons,List.mapM_nil,merged_row,merged_record]
  rfl

theorem table_audits (explain : String → String → String) (printable : Char → Bool) :
    ∃ report, runAudit (wire serverId toolName) printable (datasetFromItems explain printable (items serverId toolName)) (some id)
      (some QuoteRegistry.resolver) = .ok report ∧ report.violations = [] :=
  audit_green.mpr (honest_consistent explain printable (by decide) (store_honest serverId toolName) (items_scanned serverId toolName))

theorem table_ownKeys : OwnKeys (table serverId toolName) := by
  intro r hr item hmerged
  rcases List.mem_cons.mp hr with rfl | hr
  · obtain rfl := Option.some.inj ((merged_row serverId toolName).symm.trans hmerged)
    have hshows := (shows_row (rowKey .sqlite serverId toolName) (buildItem id (row serverId toolName))).toShows
    rw [rowKey_joined (by decide)] at hshows ⊢
    exact ⟨hshows.pk,hshows.sk⟩
  · obtain rfl := List.mem_singleton.mp hr
    obtain rfl := Option.some.inj ((merged_record serverId toolName).symm.trans hmerged)
    have hshows := (shows_record (recordKey .sqlite (record serverId toolName))
      (recordItem (record serverId toolName) (signature serverId toolName))).toShows
    rw [recordKey_joined (by decide)] at hshows ⊢
    exact ⟨hshows.pk,hshows.sk⟩

theorem getItem_head {pk sk : String} {attributes : Item} {l : ItemsTable} (hmem : (⟨pk,sk,(Json.obj attributes).dumps⟩ : ItemRow) ∈ l.rows)
    (hread : Json.loads (Json.obj attributes).dumps = some (.obj attributes)) : getItem l pk sk = .ok (some attributes) := by
  have hrow := getItem_row hmem
  dsimp only at hrow
  rwa [hread] at hrow

theorem row_served {attributes : Item} {l : ItemsTable} {s t : String}
    (hitem : getItem l (rowPrefix ++ s ++ "#" ++ t) "ROW" = .ok (some attributes))
    (hdata : textOf attributes "data" = some (canonicalRowPayload (row serverId toolName)))
    (hhash : textOf attributes "rowHash" = some (canonicalRowPayload (row serverId toolName))) :
    getToolSqlite id l s t = .ok {
      tool := some (row serverId toolName)
      rawData := some (canonicalRowPayload (row serverId toolName))
      storedHash := some (canonicalRowPayload (row serverId toolName)) } := by
  have hadmitted : (row serverId toolName).toolDef.Admitted := (definition serverId toolName).admitted
  have hparsed := ToolRow.modelValidateJson_canonical hadmitted
  generalize canonicalRowPayload (row serverId toolName) = data at *
  rw [getToolSqlite,bind_of_ok hitem]
  simp [hdata,hhash,readResultFromItem,hparsed,Except.mapError]

theorem table_read {s t : String} (h : s ++ "#" ++ t = serverId ++ "#" ++ toolName) :
    getToolSqlite id (table serverId toolName) s t = .ok {
      tool := some (row serverId toolName)
      rawData := some (canonicalRowPayload (row serverId toolName))
      storedHash := some (canonicalRowPayload (row serverId toolName)) } := by
  have hpk : rowPrefix ++ s ++ "#" ++ t = rowPrefix ++ (serverId ++ "#" ++ toolName) := by
    rw [← h]
    simp only [String.append_assoc]
  refine row_served serverId toolName ?_ (show textOf (rowAttributes serverId toolName) "data" = _ from rfl) rfl
  rw [hpk]
  exact getItem_head List.mem_cons_self (attributes_read serverId toolName).1

end OneAdmission

theorem joined_names_misread : ∃ (table : ItemsTable) (items : List Item) (wire : RecordWire String String) (issued : String → Prop)
    (report : McpAuditReport) (r : ToolReadResult) (tool : ToolRow), Unforgeable wire QuoteRegistry.resolver issued ∧ readItemsSqlite table = some items ∧ OwnKeys table ∧
      runAudit wire (fun _ => true) (datasetFromItems (fun _ _ => "") (fun _ => true) items) (some id) (some QuoteRegistry.resolver) =
        .ok report ∧ report.violations = [] ∧ getToolSqlite id table "a#b" "c" = .ok r ∧ r.quarantined = false ∧ r.tool = some tool ∧
      tool.toolDef.serverId = "a" ∧ tool.toolDef.toolName = "b#c" := by
  obtain ⟨report,hreport,hgreen⟩ := OneAdmission.table_audits "a" "b#c" (fun _ _ => "") fun _ => true
  have hread := OneAdmission.table_read "a" "b#c" (show "a#b" ++ "#" ++ "c" = "a" ++ "#" ++ "b#c" by decide)
  exact ⟨OneAdmission.table "a" "b#c",OneAdmission.items "a" "b#c",OneAdmission.wire "a" "b#c",OneAdmission.issued "a" "b#c",report,_,_,
    OneAdmission.unforgeable "a" "b#c",OneAdmission.items_read "a" "b#c",OneAdmission.table_ownKeys "a" "b#c",hreport,hgreen,hread,
    rfl,rfl,rfl,rfl⟩

theorem audit_bounds_quotes : OwnKeys (OneAdmission.table "quotes" "get") ∧ ∀ serverId toolName,
    Bounded (OneAdmission.wire "quotes" "get") (OneAdmission.issued "quotes" "get") id (OneAdmission.table "quotes" "get") serverId
      toolName := by
  obtain ⟨report,hreport,hgreen⟩ := OneAdmission.table_audits "quotes" "get" (fun _ _ => "") fun _ => true
  refine ⟨OneAdmission.table_ownKeys _ _,(audit_bounds_callability (OneAdmission.unforgeable _ _) (OneAdmission.items_read _ _)
    (OneAdmission.table_ownKeys _ _) hreport hgreen).mpr ?_⟩
  intro row hrow hsk hmarked
  rcases List.mem_cons.mp hrow with rfl | hrow
  · dsimp only
    rw [removePrefix_append]
    decide
  · obtain rfl := List.mem_singleton.mp hrow
    exact absurd hmarked (by decide)

namespace OneAdmission
variable (serverId toolName : String)

def strayAttributes : Item :=
  [("data",.str (canonicalRowPayload (row serverId toolName))),("pk",.str "NOTE#1"),
    ("rowHash",.str (canonicalRowPayload (row serverId toolName)))]

theorem stray_attributes_read : Json.loads (Json.obj (strayAttributes serverId toolName)).dumps = some (.obj (strayAttributes serverId toolName)) :=
  loads_dumps (proper_obj ["data","pk","rowHash"] rfl (by decide) ⟨trivial,trivial,trivial,trivial⟩)

def strayTable : ItemsTable where
  rows := [⟨rowPrefix ++ (serverId ++ "#" ++ toolName),"ROW",(Json.obj (strayAttributes serverId toolName)).dumps⟩]
  ordered := List.pairwise_singleton _ _

def strayItem : Item :=
  [("pk",.str "NOTE#1"),("sk",.str "ROW"),("data",.str (canonicalRowPayload (row serverId toolName))),
    ("rowHash",.str (canonicalRowPayload (row serverId toolName)))]

theorem stray_items_read : readItemsSqlite (strayTable serverId toolName) = some [strayItem serverId toolName] := by
  have hmerged : mergedItem ⟨rowPrefix ++ (serverId ++ "#" ++ toolName),"ROW",(Json.obj (strayAttributes serverId toolName)).dumps⟩ =
      some (strayItem serverId toolName) := by
    rw [mergedItem,stray_attributes_read]
    rfl
  rw [readItemsSqlite,strayTable,List.mapM_cons,List.mapM_nil,hmerged]
  rfl

theorem stray_consistent (wire : RecordWire String String) (hmac : String → String) (keyResolver : KeyResolver String)
    (explain : String → String → String) (printable : Char → Bool) :
    Consistent wire hmac keyResolver (datasetFromItems explain printable [strayItem serverId toolName]) := by
  have hpk : textOf (strayItem serverId toolName) "pk" = some "NOTE#1" := rfl
  have hrow : auditedRow explain (strayItem serverId toolName) = none := by rw [auditedRow,keyed_none hpk (by decide)]; rfl
  have hrecord : auditedRecord explain (strayItem serverId toolName) = none := by rw [auditedRecord,keyed_none hpk (by decide)]; rfl
  have hproposal : auditedProposal explain (strayItem serverId toolName) = none := by rw [auditedProposal,keyed_none hpk (by decide)]; rfl
  have hsilent : parseViolations explain printable (strayItem serverId toolName) = [] := by
    rw [parseViolations,registryPk,hpk]
    rfl
  have hdataset : datasetFromItems explain printable [strayItem serverId toolName] = ⟨[],[],[],[]⟩ := by
    simp [datasetFromItems,hrow,hrecord,hproposal,hsilent]
  rw [hdataset]
  constructor <;> simp [slotRows]

theorem stray_read : getToolSqlite id (strayTable serverId toolName) serverId toolName = .ok {
    tool := some (row serverId toolName)
    rawData := some (canonicalRowPayload (row serverId toolName))
    storedHash := some (canonicalRowPayload (row serverId toolName)) } := by
  refine row_served serverId toolName ?_ (show textOf (strayAttributes serverId toolName) "data" = _ from rfl) rfl
  have hpk : rowPrefix ++ serverId ++ "#" ++ toolName = rowPrefix ++ (serverId ++ "#" ++ toolName) := by
    simp only [String.append_assoc]
  rw [hpk]
  exact getItem_head List.mem_cons_self (stray_attributes_read serverId toolName)

end OneAdmission

theorem overridden_key_hides_row {issued : String → Prop} {wire : RecordWire String String} {keyResolver : KeyResolver String}
    (explain : String → String → String) (printable : Char → Bool) (serverId toolName : String) :
    (∃ items report, readItemsSqlite (OneAdmission.strayTable serverId toolName) = some items ∧
      runAudit wire printable (datasetFromItems explain printable items) (some id) (some keyResolver) = .ok report ∧ report.violations = []) ∧
      ¬ Bounded wire issued id (OneAdmission.strayTable serverId toolName) serverId toolName := by
  obtain ⟨report,hreport,hgreen⟩ := audit_green.mpr (OneAdmission.stray_consistent serverId toolName wire id keyResolver explain printable)
  refine ⟨⟨_,report,OneAdmission.stray_items_read serverId toolName,hreport,hgreen⟩,fun hbounded => ?_⟩
  obtain ⟨-,-,stored,record,hsigned,-⟩ := hbounded _ _ (OneAdmission.stray_read serverId toolName) rfl rfl
  have hmarked := hsigned.ledger
  rw [List.mem_singleton.mp hsigned.stored] at hmarked
  have hrow : hasPrefix rowPrefix (rowPrefix ++ (serverId ++ "#" ++ toolName)) = false :=
    apart_prefixes (by decide) (by decide) hmarked
  rw [hasPrefix_append] at hrow
  cases hrow

end SafeAgents.Mcp
