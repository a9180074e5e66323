import SafeAgents.Mcp.Commands

namespace SafeAgents.Mcp

open Calendar Checked Grants Json Wire Interleaving

namespace ToolRow

theorem status_read (status : RegistryStatus) :
    oneOf RegistryStatus.text [.active,.quarantined] (.str status.text) = some status := by
  cases status <;> simp [oneOf,str?,RegistryStatus.text]

theorem modelValidateJson_canonical {row : ToolRow} (h : row.toolDef.Admitted) :
    ToolRow.modelValidateJson (canonicalRowPayload row) = some row := by
  have hblank : Blank [' '] := by simp [Blank,isSpace]
  have hproper : row.json.Proper := by
    apply proper_obj ["admitted_at","admitted_by","def_hash","status","tool_def"] rfl (by decide)
    exact ⟨trivial,trivial,trivial,trivial,McpToolDef.json_proper h,trivial⟩
  rw [ToolRow.modelValidateJson,canonicalRowPayload,sortKeys_proper _ hproper,loads_printed hblank hproper,Option.bind_some]
  simp [ToolRow.ofJson,ToolRow.json,fieldsOf,Json.required,field,str?,McpToolDef.ofJson_json,status_read]

end ToolRow

structure Binds (sha256 : String → String) (d : McpToolDef) (defHash : String) : Prop where
  admitted : d.Admitted
  hash : defHash = computeToolDefHash sha256 d

def McpAdmissionProposal.key (backend : RecordBackend) (p : McpAdmissionProposal) : List String :=
  admissionKey backend p.toolDef.serverId p.toolDef.toolName p.proposalId

structure Genuine (sha256 hmac : String → String) (backend : RecordBackend) (s : AdmissionStore) : Prop where
  proposals : ∀ key item, s.proposals.get? key = some item → item.proposalHash = hmac item.data →
    ∃ p : McpAdmissionProposal, Binds sha256 p.toolDef p.defHash ∧ key = p.key backend ∧ item.data = canonicalProposalPayload p
  rows : ∀ key item data, s.rows key = some item → item.data = some data → item.rowHash = some (hmac data) →
    ∃ row : ToolRow, Binds sha256 row.toolDef row.defHash ∧ data = canonicalRowPayload row

structure Read (hmac : String → String) (s : AdmissionStore) (key : List String) (r : ToolReadResult) : Prop where
  tool : ∀ row, r.tool = some row → ∃ item data, s.rows key = some item ∧ item.data = some data ∧ item.rowHash = some (hmac data) ∧
    r.rawData = some data ∧ r.storedHash = some (hmac data) ∧ ToolRow.modelValidateJson data = some row
  absent : r.tool = none → r.quarantined = false → s.rows key = none

section Store
variable {sha256 hmac : String → String} {backend : RecordBackend} {s s' : AdmissionStore}

theorem getTool_read {serverId toolName : String} {r : ToolReadResult} (h : getTool hmac backend s serverId toolName = .ok r) :
    Read hmac s (rowKey backend serverId toolName) r := by
  rw [getTool] at h
  cases hrow : s.rows (rowKey backend serverId toolName) with
  | none =>
    rw [hrow] at h
    cases h
    exact ⟨fun _ hr => (nomatch hr),fun _ _ => hrow⟩
  | some item =>
    simp only [hrow,readResultFromItem] at h
    cases hdata : item.data with
    | none =>
      simp only [hdata] at h
      cases h
      exact ⟨fun _ hr => (nomatch hr),fun _ hq => (nomatch hq)⟩
    | some data =>
      cases hstored : item.rowHash with
      | none =>
        simp only [hdata,hstored] at h
        cases h
        exact ⟨fun _ hr => (nomatch hr),fun _ hq => (nomatch hq)⟩
      | some stored =>
        simp only [hdata,hstored] at h
        by_cases hhash : stored = hmac data
        · rw [if_neg (not_not.mpr hhash)] at h
          cases hread : ToolRow.modelValidateJson data with
          | none =>
            rw [hread] at h
            cases h
          | some tool =>
            rw [hread] at h
            cases h
            subst hhash
            refine ⟨?_,fun hr => (nomatch hr)⟩
            rintro _ ⟨⟩
            exact ⟨item,data,hrow,hdata,hstored,rfl,rfl,hread⟩
        · rw [if_pos hhash] at h
          cases h
          exact ⟨fun _ hr => (nomatch hr),fun _ hq => (nomatch hq)⟩

structure Replaces (hmac : String → String) (s : AdmissionStore) (key : List String) (expected : ToolReadResult) : Prop where
  present : ∀ item, s.rows key = some item → expected.tool.isSome = true ∧ item.data = expected.rawData ∧ item.rowHash = expected.storedHash
  absent : s.rows key = none → expected.tool = none

theorem checkRowWrite_replaces {row : ToolRow} {expected : ToolReadResult} (h : checkRowWrite hmac backend s row expected = .ok ()) :
    Replaces hmac s (rowKey backend row.toolDef.serverId row.toolDef.toolName) expected := by
  cases backend with
  | memory | sqlite =>
    unfold checkRowWrite at h
    obtain ⟨current,hcurrent,h⟩ := Checked.bind_ok.mp h
    obtain ⟨_,hintact,h⟩ := Checked.bind_ok.mp h
    have hread := getTool_read hcurrent
    have hquarantined : current.quarantined = false := by simpa [refuseQuarantined] using hintact
    cases htool : expected.tool with
    | none =>
      simp only [htool,refuseIf_ok] at h
      have hnone : current.tool = none := by simpa using h
      have habsent := hread.absent hnone hquarantined
      exact ⟨fun item hitem => (by simp [habsent] at hitem),fun _ => htool⟩
    | some found =>
      simp only [htool,refuseIf_ok,not_or,not_not] at h
      obtain ⟨hsome,hhash,hdata⟩ := h
      obtain ⟨tool,hcurrenttool⟩ := Option.ne_none_iff_exists'.mp (by simpa using hsome : current.tool ≠ none)
      obtain ⟨item,data,hitem,hitemdata,hitemhash,hraw,hstored,-⟩ := hread.tool tool hcurrenttool
      refine ⟨?_,fun hnone => (by simp [hitem] at hnone)⟩
      intro item' hitem'
      rw [hitem] at hitem'
      cases hitem'
      exact ⟨by simp [htool],by rw [hitemdata,← hdata,hraw],by rw [hitemhash,← hhash,hstored]⟩
  | dynamo =>
    rw [checkRowWrite] at h
    cases hrow : s.rows (rowKey .dynamo row.toolDef.serverId row.toolDef.toolName) with
    | none =>
      cases htool : expected.tool with
      | none => exact ⟨fun item hitem => (by simp [hrow] at hitem),fun _ => htool⟩
      | some found =>
        simp only [hrow,htool] at h
        cases h
    | some item =>
      cases htool : expected.tool with
      | none =>
        simp only [hrow,htool] at h
        cases h
      | some found =>
        simp only [hrow,htool,refuseIf_ok,not_or,not_not] at h
        refine ⟨?_,fun hnone => (by simp [hrow] at hnone)⟩
        intro item' hitem'
        rw [hrow] at hitem'
        cases hitem'
        exact ⟨by simp [htool],h.2,h.1⟩

structure Wrote (hmac : String → String) (backend : RecordBackend) (s s' : AdmissionStore) (record : McpAdmissionRecord) (row : ToolRow)
    (signature : Json) : Prop where
  fresh : s.records (recordKey backend record) = none
  records : s'.records = Function.update s.records (recordKey backend record) (some (recordItem record signature))
  rows : s'.rows = Function.update s.rows (rowKey backend row.toolDef.serverId row.toolDef.toolName) (some (buildItem hmac row))
  proposals : s'.proposals = s.proposals

theorem admitToolWithRecord_wrote {record : McpAdmissionRecord} {row : ToolRow} {signature : Json} {expected : ToolReadResult}
    (h : admitToolWithRecord hmac backend s record row signature expected = .ok s') :
    Wrote hmac backend s s' record row signature ∧
      Replaces hmac s (rowKey backend row.toolDef.serverId row.toolDef.toolName) expected := by
  rw [admitToolWithRecord] at h
  obtain ⟨_,hrow,h⟩ := Checked.bind_ok.mp h
  obtain ⟨_,hrecord,h⟩ := Checked.bind_ok.mp h
  cases h
  have hfresh : s.records (recordKey backend record) = none := by simpa [checkRecordWrite] using hrecord
  exact ⟨⟨hfresh,rfl,rfl,rfl⟩,checkRowWrite_replaces hrow⟩

inductive Change (hmac : String → String) (backend : RecordBackend) (s : AdmissionStore) : AdmissionOp → AdmissionStore → Prop
  | put (p : McpAdmissionProposal) (hfresh : s.proposals.get? (p.key backend) = none) :
      Change hmac backend s (.putProposal p) { s with proposals := s.proposals.set (p.key backend) (admissionItem hmac p) }
  | burn (serverId toolName proposalId : String) (status : ProposalStatus) (item : AdmissionItem) (hstatus : status ≠ .pending)
      (hitem : s.proposals.get? (admissionKey backend serverId toolName proposalId) = some item) (hpending : item.status = .pending) :
      Change hmac backend s (.consumeProposal serverId toolName proposalId status)
        { s with proposals := s.proposals.set (admissionKey backend serverId toolName proposalId) { item with status } }
  | write (record : McpAdmissionRecord) (row : ToolRow) (signature : Json) (expected : ToolReadResult) (s' : AdmissionStore)
      (hwrote : Wrote hmac backend s s' record row signature) :
      Change hmac backend s (.admitToolWithRecord record row signature expected) s'
  | none (o : AdmissionOp) : Change hmac backend s o s

theorem consumeProposal_burns {table t : AdmissionTable} {serverId toolName proposalId : String} {status : ProposalStatus}
    (h : consumeProposal backend table serverId toolName proposalId status = .ok t) :
    status ≠ .pending ∧ ∃ item, table (admissionKey backend serverId toolName proposalId) = some item ∧ item.status = .pending ∧
      t = Function.update table (admissionKey backend serverId toolName proposalId) (some { item with status }) := by
  rw [consumeProposal] at h
  obtain ⟨_,hstatus,h⟩ := Checked.bind_ok.mp h
  have hnew : status ≠ .pending := by
    rintro rfl
    cases hstatus
  refine ⟨hnew,?_⟩
  cases hrow : table (admissionKey backend serverId toolName proposalId) with
  | none =>
    simp only [hrow] at h
    cases h
  | some item =>
    simp only [hrow] at h
    by_cases hpending : item.status = .pending
    · rw [if_pos hpending] at h
      exact ⟨item,rfl,hpending,(Except.ok.inj h).symm⟩
    · rw [if_neg hpending] at h
      cases h

theorem performAdmission_burn {serverId toolName proposalId : String} {status : ProposalStatus} {x : Unit} {u : Unit}
    (h : (performAdmission hmac backend (.consumeProposal serverId toolName proposalId status) x s).1 = .ok u) :
    status ≠ .pending ∧ ∃ item, s.proposals.get? (admissionKey backend serverId toolName proposalId) = some item ∧
      item.status = .pending ∧ (performAdmission hmac backend (.consumeProposal serverId toolName proposalId status) x s).2 =
        { s with proposals := s.proposals.set (admissionKey backend serverId toolName proposalId) { item with status } } := by
  rw [performAdmission] at h ⊢
  cases hc : consumeProposal backend s.proposals.get? serverId toolName proposalId status with
  | error e =>
    rw [hc] at h
    cases h
  | ok table =>
    obtain ⟨hstatus,item,hitem,hpending,rfl⟩ := consumeProposal_burns hc
    refine ⟨hstatus,item,hitem,hpending,?_⟩
    simp [committed,Except.mapError,Except.map]

theorem performAdmission_write {record : McpAdmissionRecord} {row : ToolRow} {signature : Json} {expected : ToolReadResult}
    {x : Unit} {u : Unit} (h : (performAdmission hmac backend (.admitToolWithRecord record row signature expected) x s).1 = .ok u) :
    Wrote hmac backend s (performAdmission hmac backend (.admitToolWithRecord record row signature expected) x s).2 record row signature ∧
      Replaces hmac s (rowKey backend row.toolDef.serverId row.toolDef.toolName) expected := by
  rw [performAdmission] at h ⊢
  cases hw : admitToolWithRecord hmac backend s record row signature expected with
  | error e =>
    rw [hw] at h
    cases h
  | ok s' => exact admitToolWithRecord_wrote hw

theorem performAdmission_change (o : AdmissionOp) (x : o.Input) :
    Change hmac backend s o (performAdmission hmac backend o x s).2 := by
  cases o with
  | putProposal p =>
    rw [performAdmission]
    cases hput : putProposal hmac backend s.proposals.get? p with
    | error e => exact .none _
    | ok table =>
      refine .put p ?_
      by_contra hfound
      obtain ⟨item,hitem⟩ := Option.ne_none_iff_exists'.mp hfound
      rw [McpAdmissionProposal.key] at hitem
      rw [putProposal,if_pos (by rw [hitem]; rfl)] at hput
      cases hput
  | consumeProposal serverId toolName proposalId status =>
    cases hr : (performAdmission hmac backend (.consumeProposal serverId toolName proposalId status) x s).1 with
    | ok u =>
      obtain ⟨hstatus,item,hitem,hpending,hs⟩ := performAdmission_burn hr
      rw [hs]
      exact .burn serverId toolName proposalId status item hstatus hitem hpending
    | error e =>
      rw [performAdmission] at hr ⊢
      cases hc : consumeProposal backend s.proposals.get? serverId toolName proposalId status with
      | error e' => exact .none _
      | ok table =>
        rw [hc] at hr
        cases hr
  | admitToolWithRecord record row signature expected =>
    cases hr : (performAdmission hmac backend (.admitToolWithRecord record row signature expected) x s).1 with
    | ok u => exact .write record row signature expected _ (performAdmission_write hr).1
    | error e =>
      rw [performAdmission] at hr ⊢
      cases hw : admitToolWithRecord hmac backend s record row signature expected with
      | error e' => exact .none _
      | ok s' =>
        rw [hw] at hr
        cases hr
  | _ => exact .none _

structure Kept (item item' : AdmissionItem) : Prop where
  data : item'.data = item.data
  proposalHash : item'.proposalHash = item.proposalHash
  status : item.status ≠ .pending → item'.status = item.status

theorem Kept.refl (item : AdmissionItem) : Kept item item := ⟨rfl,rfl,fun _ => rfl⟩

theorem Kept.trans {a b c : AdmissionItem} (h : Kept a b) (h' : Kept b c) : Kept a c where
  data := h'.data.trans h.data
  proposalHash := h'.proposalHash.trans h.proposalHash
  status hburnt := by
    have hb := h.status hburnt
    exact (h'.status (hb ▸ hburnt)).trans hb

theorem Change.kept {o : AdmissionOp} (h : Change hmac backend s o s') {key : List String} {item : AdmissionItem}
    (hitem : s.proposals.get? key = some item) : ∃ item', s'.proposals.get? key = some item' ∧ Kept item item' := by
  cases h with
  | put p hfresh =>
    have hne : key ≠ p.key backend := by
      rintro rfl
      rw [hfresh] at hitem
      cases hitem
    exact ⟨item,by rw [Dict.get?_set,if_neg hne,hitem],.refl item⟩
  | burn serverId toolName proposalId status burnt hstatus hburnt hpending =>
    by_cases hkey : key = admissionKey backend serverId toolName proposalId
    · subst hkey
      rw [hburnt] at hitem
      cases hitem
      exact ⟨_,Dict.get?_set_same _ _ _,⟨rfl,rfl,fun hne => absurd hpending hne⟩⟩
    · exact ⟨item,by rw [Dict.get?_set,if_neg hkey,hitem],.refl item⟩
  | write record row signature expected _ hwrote => exact ⟨item,by rw [hwrote.proposals,hitem],.refl item⟩
  | none => exact ⟨item,hitem,.refl item⟩

theorem Change.genuine {o : AdmissionOp} (h : Change hmac backend s o s') (hs : Genuine sha256 hmac backend s)
    (hput : ∀ p, o = .putProposal p → Binds sha256 p.toolDef p.defHash)
    (hwrite : ∀ record row signature expected, o = .admitToolWithRecord record row signature expected →
      Binds sha256 row.toolDef row.defHash) : Genuine sha256 hmac backend s' := by
  cases h with
  | put p hfresh =>
    refine ⟨?_,hs.rows⟩
    intro key item hitem hhash
    rw [Dict.get?_set] at hitem
    split at hitem
    · cases hitem
      exact ⟨p,hput p rfl,‹_›,rfl⟩
    · exact hs.proposals key item hitem hhash
  | burn serverId toolName proposalId status burnt hstatus hburnt hpending =>
    refine ⟨?_,hs.rows⟩
    intro key item hitem hhash
    rw [Dict.get?_set] at hitem
    split at hitem
    · cases hitem
      exact hs.proposals key burnt (by rw [‹key = _›,hburnt]) hhash
    · exact hs.proposals key item hitem hhash
  | write record row signature expected _ hwrote =>
    refine ⟨by rw [hwrote.proposals]; exact hs.proposals,?_⟩
    intro key item data hitem hdata hhash
    rw [hwrote.rows] at hitem
    by_cases hkey : key = rowKey backend row.toolDef.serverId row.toolDef.toolName
    · rw [hkey,Function.update_self] at hitem
      cases hitem
      exact ⟨row,hwrite record row signature expected rfl,(Option.some.inj hdata).symm⟩
    · rw [Function.update_of_ne hkey] at hitem
      exact hs.rows key item data hitem hdata hhash
  | none => exact hs

def Lands (backend : RecordBackend) (key : List String) : (o : AdmissionOp) → Except CeremonyError o.Ret → Prop
  | .admitToolWithRecord _ row _ _, .ok _ => rowKey backend row.toolDef.serverId row.toolDef.toolName = key
  | _, _ => False

def Burns (backend : RecordBackend) (key : List String) : (o : AdmissionOp) → Except CeremonyError o.Ret → Prop
  | .consumeProposal serverId toolName proposalId _, .ok _ => admissionKey backend serverId toolName proposalId = key
  | _, _ => False

theorem rows_still {key : List String} (o : AdmissionOp) (x : o.Input)
    (h : ¬ Lands backend key o (performAdmission hmac backend o x s).1) :
    (performAdmission hmac backend o x s).2.rows key = s.rows key := by
  cases o with
  | admitToolWithRecord record row signature expected =>
    cases hr : (performAdmission hmac backend (.admitToolWithRecord record row signature expected) x s).1 with
    | ok u =>
      rw [hr] at h
      rw [(performAdmission_write hr).1.rows,Function.update_of_ne (fun hkey => h hkey.symm)]
    | error e =>
      rw [performAdmission] at hr ⊢
      cases hw : admitToolWithRecord hmac backend s record row signature expected with
      | error e' => rfl
      | ok s' =>
        rw [hw] at hr
        cases hr
  | putProposal p =>
    rw [performAdmission]
    cases putProposal hmac backend s.proposals.get? p <;> rfl
  | consumeProposal serverId toolName proposalId status =>
    rw [performAdmission]
    cases consumeProposal backend s.proposals.get? serverId toolName proposalId status <;> rfl
  | _ => rfl

theorem burns_item {key : List String} {o : AdmissionOp} {x : o.Input}
    (h : Burns backend key o (performAdmission hmac backend o x s).1) :
    (∃ item, s.proposals.get? key = some item ∧ item.status = .pending) ∧
      ∃ item, (performAdmission hmac backend o x s).2.proposals.get? key = some item ∧ item.status ≠ .pending := by
  cases o with
  | consumeProposal serverId toolName proposalId status =>
    cases hr : (performAdmission hmac backend (.consumeProposal serverId toolName proposalId status) x s).1 with
    | error e =>
      rw [hr] at h
      cases h
    | ok u =>
      obtain ⟨hstatus,item,hitem,hpending,hs⟩ := performAdmission_burn hr
      rw [hr] at h
      cases h
      rw [hs]
      exact ⟨⟨item,hitem,hpending⟩,_,Dict.get?_set_same _ _ _,hstatus⟩
  | _ => cases h

end Store

section Runs
variable {ι β : Type} [DecidableEq ι] {hmac : String → String} {backend : RecordBackend}
  {c c' : Config ι AdmissionOp AdmissionOp.Ret CeremonyError AdmissionStore β}
  {tr tr₁ tr₂ : List (Event ι AdmissionOp AdmissionOp.Ret CeremonyError)}

theorem kept_run (h : Run (admissionDevice hmac backend) anyStep c tr c') {key : List String} {item : AdmissionItem}
    (hitem : c.state.proposals.get? key = some item) : ∃ item', c'.state.proposals.get? key = some item' ∧ Kept item item' := by
  induction h with
  | refl => exact ⟨item,hitem,.refl item⟩
  | step _ hs _ ih =>
    obtain ⟨item',hitem',hkept⟩ := ih
    obtain ⟨x,-,hstate⟩ := hs.effect
    obtain ⟨item'',hitem'',hkept'⟩ := (performAdmission_change _ x).kept hitem'
    rw [hstate]
    exact ⟨item'',hitem'',hkept.trans hkept'⟩

theorem rows_still_run (h : Run (admissionDevice hmac backend) anyStep c tr c') {key : List String}
    (hquiet : ∀ e ∈ tr, ¬ Lands backend key e.op e.reply) : c'.state.rows key = c.state.rows key := by
  induction h with
  | refl => rfl
  | @step c' c'' tr e _ hs _ ih =>
    obtain ⟨x,hreply,hstate⟩ := hs.effect
    have hnow := hquiet e (by simp)
    rw [hreply] at hnow
    rw [hstate,← ih fun e he => hquiet e (by simp [he])]
    exact rows_still e.op x hnow

theorem burnt_once (h : Run (admissionDevice hmac backend) anyStep c tr c') {key : List String}
    {e : Event ι AdmissionOp AdmissionOp.Ret CeremonyError} (htr : tr = tr₁ ++ e :: tr₂) (he : Burns backend key e.op e.reply) :
    ∀ e' ∈ tr₂, ¬ Burns backend key e'.op e'.reply := by
  obtain ⟨c₁,c₂,-,hs,-,hrest⟩ := h.split htr
  intro e' he' hburns
  obtain ⟨tr₃,tr₄,rfl⟩ := List.append_of_mem he'
  obtain ⟨c₃,c₄,hmiddle,hs',-,-⟩ := hrest.split rfl
  obtain ⟨x,hreply,hstate⟩ := hs.effect
  obtain ⟨x',hreply',-⟩ := hs'.effect
  rw [hreply] at he
  rw [hreply'] at hburns
  obtain ⟨-,item,hitem,hburnt⟩ := burns_item he
  obtain ⟨⟨item',hitem',hpending⟩,-⟩ := burns_item hburns
  obtain ⟨item'',hitem'',hkept⟩ := kept_run hmiddle (hstate ▸ hitem)
  rw [hitem'] at hitem''
  cases hitem''
  exact hburnt ((hkept.status hburnt).symm.trans hpending)

theorem burnt_elsewhere (h : Run (admissionDevice hmac backend) anyStep c tr c') {key : List String}
    {e : Event ι AdmissionOp AdmissionOp.Ret CeremonyError} (htr : tr = tr₁ ++ e :: tr₂) (he : Burns backend key e.op e.reply)
    {e' : Event ι AdmissionOp AdmissionOp.Ret CeremonyError} (he' : e' ∈ tr₁ ∨ e' ∈ tr₂) : ¬ Burns backend key e'.op e'.reply := by
  rcases he' with he' | he'
  · intro hburns
    obtain ⟨tr₃,tr₄,rfl⟩ := List.append_of_mem he'
    have hwhole : tr = tr₃ ++ e' :: (tr₄ ++ e :: tr₂) := by simpa using htr
    exact burnt_once h hwhole hburns e (by simp) he
  · exact burnt_once h htr he e' he'

end Runs

end SafeAgents.Mcp
