import SafeAgents.Grants.Operations
import SafeAgents.Text.Lex

namespace SafeAgents.Grants

open Calendar Checked Interleaving PromotionRecord

def PromotionRecord.construct (r : PromotionRecord) : Except GrantError PromotionRecord :=
  if r.accepted then .ok r else .error (.value "PromotionRecord validation error")

-- A tz-aware UTC datetime handed to the ledger clock.
def Moment.reading (now : Moment) : Reading := .datetime { clock := now.1, offset := some 0 }

def quarantineRefusal (g : GrantDocument) (reason : Option String) : CeremonyError :=
  .quarantinedGrant ("grant " ++ g.coordinate ++ " is quarantined (" ++ reason.getD "None" ++
    "); it must not be written until the quarantine is resolved")

section Writer
variable {F : Type}

-- The guarded re-read shared by the evaluator's writers: the stored grant is still the one evaluated.
def acceptReread (g : GrantDocument) (missing changed : CeremonyError) (current : GrantReadResult) :
    Except CeremonyError GrantReadResult :=
  if current.quarantined then .error (quarantineRefusal g current.quarantineReason)
  else
    match current.grant with
    | none => .error missing
    | some stored => if stored = g then .ok current else .error changed

def reread (g : GrantDocument) (missing changed : CeremonyError) : Ceremony F GrantReadResult := do
  let current ← getGrantOp g.principal g.actionClass
  .finish (acceptReread g missing changed current)

def translateConflict (conflict : CeremonyError) : CeremonyError → CeremonyError
  | .store (.grantUpdateConflict _) => conflict
  | e => e

def writeEvaluated (record : PromotionRecord) (updated : GrantDocument) (current : GrantReadResult) (signature : Option Json)
    (conflict : CeremonyError) : Ceremony F Unit :=
  tryCatch (writeOp { record, grant := updated, expected := some current.expected } signature)
    fun e => throw (translateConflict conflict e)

-- Stamp, build, read again, write: the order shared by the lapse and the withdrawal writer.
def applyLowering (g : GrantDocument) (now : Moment) (build : String → Except CeremonyError (GrantDocument × PromotionRecord))
    (modified lost : CeremonyError) (sign : Option (PromotionRecord → Json)) : Ceremony F (GrantDocument × PromotionRecord) := do
  let ts ← ledgerTs g.principal g.actionClass (Moment.reading now)
  let built ← .finish (build ts)
  let current ← reread g modified modified
  writeEvaluated built.2 built.1 current (sign.map fun sign => sign built.2) lost
  return built

end Writer

section Lemmas
variable {F : Type} {d : Deployment F} {s : CeremonyState} {g : GrantDocument}

theorem construct_ok {r r' : PromotionRecord} : r.construct = .ok r' ↔ r.accepted = true ∧ r = r' := by
  rw [PromotionRecord.construct]
  split
  next h => simp [h]
  next h => simp [h]

structure Rereads (d : Deployment F) (s : CeremonyState) (g : GrantDocument) (current : GrantReadResult) : Prop where
  read : getGrant d.hmac d.validate d.backend s.store g.principal g.actionClass = .ok current
  clear : current.quarantined = false
  same : current.grant = some g

theorem acceptReread_ok {missing changed : CeremonyError} {current current' : GrantReadResult}
    (h : acceptReread g missing changed current = .ok current') :
    current' = current ∧ current.quarantined = false ∧ current.grant = some g := by
  rw [acceptReread] at h
  split at h
  · cases h
  next hclear =>
    split at h
    · cases h
    next stored hstored =>
      split at h
      next hsame =>
        cases h
        exact ⟨rfl,Bool.not_eq_true _ ▸ hclear,hsame ▸ hstored⟩
      · cases h

theorem exec_reread (missing changed : CeremonyError) :
    (∃ e, (reread g missing changed : Ceremony F GrantReadResult).exec d.perform s = (.error e,s)) ∨
      ∃ current, Rereads d s g current ∧
        (reread g missing changed : Ceremony F GrantReadResult).exec d.perform s = (.ok current,s) := by
  rw [reread,Prog.exec_bind,exec_getGrant]
  cases hread : getGrant d.hmac d.validate d.backend s.store g.principal g.actionClass with
  | error e => exact .inl ⟨.store e,rfl⟩
  | ok current =>
    simp only [raised,Prog.andThen_ok,Prog.exec_finish]
    cases haccept : acceptReread g missing changed current with
    | error e => exact .inl ⟨e,rfl⟩
    | ok current' =>
      obtain ⟨rfl,hclear,hsame⟩ := acceptReread_ok haccept
      exact .inr ⟨current',⟨hread,hclear,hsame⟩,rfl⟩

def committedState (d : Deployment F) (s : CeremonyState) (q : WriteRequest) (signature : Option Json) (store : GrantState) :
    CeremonyState := { s with store, signatures := d.signed s q signature }

theorem exec_writeEvaluated (record : PromotionRecord) (updated : GrantDocument) (current : GrantReadResult)
    (signature : Option Json) (conflict : CeremonyError) :
    (∃ e, (writeEvaluated record updated current signature conflict : Ceremony F Unit).exec d.perform s = (.error e,s)) ∨
      ∃ store, writeRecordAndGrant d.hmac d.validate d.backend s.store
          { record, grant := updated, expected := some current.expected } = .ok store ∧
        (writeEvaluated record updated current signature conflict : Ceremony F Unit).exec d.perform s =
          (.ok (),committedState d s { record, grant := updated, expected := some current.expected } signature store) := by
  rw [writeEvaluated,Prog.exec_tryCatch]
  cases hwrite : writeRecordAndGrant d.hmac d.validate d.backend s.store
      { record, grant := updated, expected := some current.expected } with
  | error e =>
    rw [exec_write_error hwrite]
    exact .inl ⟨translateConflict conflict (.store e),rfl⟩
  | ok store =>
    rw [exec_write_ok hwrite]
    exact .inr ⟨store,rfl,rfl⟩

structure Lowers (d : Deployment F) (s : CeremonyState) (g : GrantDocument) (now : Moment)
    (sign : Option (PromotionRecord → Json)) (ts : String) (updated : GrantDocument) (record : PromotionRecord)
    (s' : CeremonyState) : Prop where
  stamp : nextLedgerTs d.backend modelValidateJson s.store.records g.principal g.actionClass (Moment.reading now) = .ok ts
  written : ∃ current store, Rereads d s g current ∧
    writeRecordAndGrant d.hmac d.validate d.backend s.store
      { record, grant := updated, expected := some current.expected } = .ok store ∧
    s' = committedState d s { record, grant := updated, expected := some current.expected }
      (sign.map fun sign => sign record) store

theorem exec_applyLowering (g : GrantDocument) (now : Moment)
    (build : String → Except CeremonyError (GrantDocument × PromotionRecord)) (modified lost : CeremonyError)
    (sign : Option (PromotionRecord → Json)) :
    (∃ e, (applyLowering g now build modified lost sign : Ceremony F _).exec d.perform s = (.error e,s)) ∨
      ∃ ts updated record s', build ts = .ok (updated,record) ∧ Lowers d s g now sign ts updated record s' ∧
        (applyLowering g now build modified lost sign : Ceremony F _).exec d.perform s = (.ok (updated,record),s') := by
  rw [applyLowering,Prog.exec_bind,exec_ledgerTs]
  cases hts : nextLedgerTs d.backend modelValidateJson s.store.records g.principal g.actionClass (Moment.reading now) with
  | error e => exact .inl ⟨.store e,rfl⟩
  | ok ts =>
    simp only [raised,Prog.andThen_ok,Prog.exec_bind,Prog.exec_finish]
    cases hbuild : build ts with
    | error e => exact .inl ⟨e,rfl⟩
    | ok built =>
      obtain ⟨updated,record⟩ := built
      simp only [Prog.andThen_ok,Prog.exec_bind]
      rcases exec_reread (F := F) (d := d) (s := s) (g := g) modified modified with ⟨e,hreread⟩ | ⟨current,hcurrent,hreread⟩
      · rw [hreread]
        exact .inl ⟨e,rfl⟩
      · rw [hreread]
        simp only [Prog.andThen_ok,Prog.exec_bind]
        rcases exec_writeEvaluated (F := F) (d := d) (s := s) record updated current (sign.map fun sign => sign record) lost
          with ⟨e,hwrite⟩ | ⟨store,hstore,hwrite⟩
        · rw [hwrite]
          exact .inl ⟨e,rfl⟩
        · rw [hwrite]
          exact .inr ⟨ts,updated,record,_,hbuild,⟨hts,current,store,hcurrent,hstore,rfl⟩,rfl⟩

end Lemmas

section Ledger
variable {backend : RecordBackend} {table : RecordTable} {principal : Principal} {actionClass : String} {now : Reading} {ts : String}

def OwnLedger (backend : RecordBackend) (table : RecordTable) : Prop :=
  ∀ row ∈ table, ∃ r t, r.accepted = true ∧ StampedAt r t ∧ row = recordRow backend r

def RecordRows (backend : RecordBackend) (table : RecordTable) : Prop :=
  ∀ row ∈ table, ∃ r, r.accepted = true ∧ row = recordRow backend r

theorem OwnLedger.recordRows (h : OwnLedger backend table) : RecordRows backend table := by
  intro row hrow
  obtain ⟨r,_,haccepted,_,hsame⟩ := h row hrow
  exact ⟨r,haccepted,hsame⟩

theorem mem_partition {pk : String} {row : RecordRow} : row ∈ partition table pk ↔ row ∈ table ∧ row.pk = pk := by
  rw [partition,List.mem_mergeSort,List.mem_filter,beq_iff_eq]

theorem parseRow_own {r : PromotionRecord} (h : r.accepted = true) :
    parseRow modelValidateJson (recordRow backend r) = .ok r := by
  simp [parseRow,recordRow,modelValidateJson_canonical h]

theorem listRecords_own (h : RecordRows backend table) (principal : Principal) (actionClass : String) :
    ∃ records, listRecords backend modelValidateJson table principal actionClass = .ok records ∧
      ∀ r, r ∈ records ↔ r.accepted = true ∧ recordRow backend r ∈ table ∧ pkOf backend r = recordPk backend principal actionClass := by
  have hparse : ∀ row ∈ partition table (recordPk backend principal actionClass), ∃ r, parseRow modelValidateJson row = .ok r := by
    intro row hrow
    obtain ⟨r,haccepted,rfl⟩ := h row (mem_partition.mp hrow).1
    exact ⟨r,parseRow_own haccepted⟩
  obtain ⟨records,hlist,hmap⟩ := mapM_ok hparse
  refine ⟨records,hlist,fun r => ?_⟩
  rw [mem_of_mapM hmap]
  constructor
  · rintro ⟨row,hrow,hread⟩
    obtain ⟨htable,hpk⟩ := mem_partition.mp hrow
    obtain ⟨q,haccepted,rfl⟩ := h row htable
    rw [parseRow_own haccepted] at hread
    cases hread
    exact ⟨haccepted,htable,hpk⟩
  · rintro ⟨haccepted,htable,hpk⟩
    exact ⟨recordRow backend r,mem_partition.mpr ⟨htable,hpk⟩,parseRow_own haccepted⟩

theorem listRecords_one {r : PromotionRecord} (h : r.accepted = true) (hpk : pkOf backend r = recordPk backend principal actionClass) :
    listRecords backend modelValidateJson [recordRow backend r] principal actionClass = .ok [r] := by
  have hsame : ((recordRow backend r).pk == recordPk backend principal actionClass) = true := beq_iff_eq.mpr hpk
  have hrows : partition [recordRow backend r] (recordPk backend principal actionClass) = [recordRow backend r] := by
    simp only [partition,List.filter_cons,hsame,if_true,List.filter_nil,List.mergeSort_singleton]
  rw [listRecords,hrows,List.mapM_cons,parseRow_own h]
  rfl

theorem advance_wall {wall next : Int} {recorded : List Int} (h : advance wall recorded = .ok next) : wall ≤ next := by
  rw [advance] at h
  split at h
  · cases h
    exact Int.le_refl _
  · split at h
    · cases h
      exact Int.le_max_left _ _
    · cases h

structure Stamps (backend : RecordBackend) (table : RecordTable) (principal : Principal) (actionClass : String) (now : Reading)
    (t : Int) : Prop where
  representable : Representable t
  reading : ∃ wall, wallClock now = .ok wall ∧ wall ≤ t
  later : ∃ records, listRecords backend modelValidateJson table principal actionClass = .ok records ∧
    ∀ r ∈ records, ∃ u, recordedInstant r = .ok u ∧ u < t

theorem nextLedgerTs_stamps (h : nextLedgerTs backend modelValidateJson table principal actionClass now = .ok ts) :
    ∃ t, ts = isoformat t ∧ Stamps backend table principal actionClass now t := by
  obtain ⟨wall,hwall,hrest⟩ := bind_ok.mp h
  obtain ⟨records,hrecords,hrest⟩ := bind_ok.mp hrest
  obtain ⟨recorded,hrecorded,hrest⟩ := bind_ok.mp hrest
  obtain ⟨next,hnext,hend⟩ := bind_ok.mp hrest
  obtain ⟨hrep,hlater⟩ := advance_ok (wallClock_ok hwall) hnext
  refine ⟨next,(pure_ok.mp hend).symm,hrep,⟨wall,hwall,advance_wall hnext⟩,records,hrecords,?_⟩
  intro r hr
  have hmap := map_of_mapM_ok hrecorded
  have hmem : recordedInstant r ∈ recorded.map .ok := hmap ▸ List.mem_map_of_mem hr
  obtain ⟨u,hu,heq⟩ := List.mem_map.mp hmem
  exact ⟨u,heq.symm,hlater u hu⟩

theorem recordType_text_free (t : RecordType) : '#' ∉ t.text.toList := by
  cases t <;> decide

theorem recordSk_ts {a b : PromotionRecord} (h : recordSk a = recordSk b) : a.ts = b.ts := by
  have hlists := congrArg String.toList h
  have hsep : "#".toList = ['#'] := rfl
  simp only [recordSk,String.toList_append,hsep,List.append_assoc,List.singleton_append] at hlists
  have hcut := Lexical.lastCut_unique (recordType_text_free a.recordType) (recordType_text_free b.recordType) hlists
  exact String.toList_inj.mp hcut.1

theorem stamp_free (h : RecordRows backend table) {t : Int} (hstamps : Stamps backend table principal actionClass now t)
    {r : PromotionRecord} (hpk : pkOf backend r = recordPk backend principal actionClass) (hts : r.ts = isoformat t) :
    holdsKey table (recordRow backend r) = false := by
  rw [holdsKey,List.any_eq_false]
  intro row hrow hsame
  obtain ⟨q,haccepted,rfl⟩ := h row hrow
  have hkeys : pkOf backend q = pkOf backend r ∧ recordSk q = recordSk r := by simpa [recordRow,pkOf] using hsame
  obtain ⟨records,hlist,hall⟩ := listRecords_own h principal actionClass
  obtain ⟨records',hlist',hlater⟩ := hstamps.later
  rw [hlist] at hlist'
  cases hlist'
  obtain ⟨v,hv,hlt⟩ := hlater q ((hall q).mpr ⟨haccepted,hrow,hkeys.1.trans hpk⟩)
  have hinstant : recordedInstant q = .ok t := by
    apply recordedInstant_stamped
    exact ⟨hstamps.representable,by rw [recordSk_ts hkeys.2,hts]⟩
  rw [hinstant] at hv
  cases hv
  exact Int.lt_irrefl t hlt

end Ledger

section Commits
variable {hmac : String → String} {validate : String → Option GrantDocument} {backend : RecordBackend} {s : GrantState}
  {q : WriteRequest} {item : GrantItem}

theorem write_commits (hitem : s.grants (grantKey backend q.grant) = some item) (hcreating : q.creating = false)
    (hraw : q.prevRawData = some item.data) (hhash : q.expectedHash = some item.grantHash)
    (hterm : refuseTermExtension validate q.prevRawData q.grant q.record.recordType = .ok ())
    (hreattest : refuseReattestationDrift validate q.prevRawData q.record q.grant = .ok ())
    (hlapse : refuseLapseDrift validate q.prevRawData q.record q.grant = .ok ())
    (hts : validateRecordTs q.record.ts = .ok ()) (hfree : holdsKey s.records (recordRow backend q.record) = false) :
    writeRecordAndGrant hmac validate backend s q = .ok (applied hmac backend s q) := by
  have hleg : checkGrantLeg validate (some item) q = .ok () := by
    have hconditions : checkUpdateConditions (some item) q.grant q.expectedHash q.prevRawData = .ok () := by
      simp [checkUpdateConditions,hraw,hhash]
    rw [checkGrantLeg,hcreating]
    exact then_ok.mpr ⟨hconditions,hterm⟩
  cases backend with
  | memory => exact writeMemory_commits hreattest (hitem ▸ hleg) hlapse hts hfree
  | sqlite =>
    rw [writeRecordAndGrant,writeSqlite,hts,hreattest,hitem,hleg,hlapse]
    simp only [putNewRecord,hfree]
    rfl
  | dynamo =>
    have hgranted : grantCondition (some item) q.expectedHash q.prevRawData = true := by simp [grantCondition,hhash,hraw]
    rw [writeRecordAndGrant,writeDynamo,hts,hreattest,refuseTermExtensionOnUpdate,hcreating,hlapse]
    simp only [Bool.false_eq_true,if_false,hterm,transactWriteItems,hitem,hgranted,hfree]
    rfl

end Commits

section Lowering
variable {F : Type} {d : Deployment F} {s s' : CeremonyState} {g updated : GrantDocument} {record : PromotionRecord} {ts : String}
  {now : Moment} {sign : Option (PromotionRecord → Json)} {principal : Principal} {actionClass : String}

structure Intact (d : Deployment F) (s : CeremonyState) : Prop where
  rows : ∀ key item g, s.store.grants key = some item → item.grantHash = d.hmac item.data → d.validate item.data = some g →
    grantKey d.backend g = key
  ledger : OwnLedger d.backend s.store.records

structure Kept (d : Deployment F) (s : CeremonyState) : Prop where
  rows : ∀ key item g, s.store.grants key = some item → item.grantHash = d.hmac item.data → d.validate item.data = some g →
    grantKey d.backend g = key
  ledger : RecordRows d.backend s.store.records

theorem kept_one {records : RecordTable} (hg : g.accepted d.isLabelLatency = true) (hledger : RecordRows d.backend records) :
    Kept d { store := { records, grants := Function.update (fun _ => none) (grantKey d.backend g) (some (buildItem d.hmac g)) } } := by
  refine ⟨fun key item g' hitem _ hparse => ?_,hledger⟩
  by_cases hkey : key = grantKey d.backend g
  · rw [hkey] at hitem ⊢
    simp only [Function.update_self] at hitem
    obtain rfl := Option.some.inj hitem
    have hread : d.validate (buildItem d.hmac g).data = some g := GrantDocument.modelValidateJson_canonical hg
    rw [hread] at hparse
    rw [← Option.some.inj hparse]
  · simp only [Function.update_of_ne hkey] at hitem
    cases hitem

theorem Intact.kept (hs : Intact d s) : Kept d s := ⟨hs.rows,hs.ledger.recordRows⟩

def Holds (d : Deployment F) (s : CeremonyState) (principal : Principal) (actionClass : String) (g : GrantDocument) : Prop :=
  ∃ r, getGrant d.hmac d.validate d.backend s.store principal actionClass = .ok r ∧ r.grant = some g

theorem holds_one {records : RecordTable} (hg : g.accepted d.isLabelLatency = true) :
    Holds d { store := { records, grants := Function.update (fun _ => none) (grantKey d.backend g) (some (buildItem d.hmac g)) } }
      g.principal g.actionClass g := by
  have hrow : Function.update (fun _ => none) (grantKey d.backend g) (some (buildItem d.hmac g))
      (grantRowKey d.backend g.principal g.actionClass) = some (buildItem d.hmac g) := by
    rw [← grantKey_eq,Function.update_self]
  exact ⟨_,getGrant_written hg hrow,rfl⟩

theorem validate_accepted {text : String} (h : d.validate text = some g) : g.accepted d.isLabelLatency = true := by
  rw [Deployment.validate,GrantDocument.modelValidateJson,Option.filter_eq_some_iff] at h
  exact h.2

theorem Holds.accepted (h : Holds d s principal actionClass g) : g.accepted d.isLabelLatency = true := by
  obtain ⟨r,hread,hg⟩ := h
  obtain ⟨item,_,_,hparse,_⟩ := getGrant_grant hread hg
  exact validate_accepted hparse

theorem Holds.own (hs : Kept d s) (h : Holds d s principal actionClass g) :
    grantRowKey d.backend g.principal g.actionClass = grantRowKey d.backend principal actionClass ∧
      ∃ item, s.store.grants (grantKey d.backend g) = some item ∧ d.validate item.data = some g ∧
        Rereads d s g { grant := some g, rawData := some item.data, storedHash := some item.grantHash } := by
  obtain ⟨r,hread,hg⟩ := h
  obtain ⟨item,hitem,hhash,hparse,hr⟩ := getGrant_grant hread hg
  have hkey := hs.rows _ item g hitem hhash hparse
  have hrow : s.store.grants (grantKey d.backend g) = some item := hkey ▸ hitem
  refine ⟨(grantKey_eq d.backend g).symm.trans hkey,item,hrow,hparse,?_,rfl,rfl⟩
  rw [grantKey_eq] at hrow
  exact getGrant_stored hrow hhash hparse

structure LoweringOf (g updated : GrantDocument) (record : PromotionRecord) (ts : String) : Prop where
  principal : updated.principal = g.principal
  actionClass : updated.actionClass = g.actionClass
  term : updated.certifiedUntil = g.certifiedUntil
  recordPrincipal : record.principal = g.principal
  recordClass : record.actionClass = g.actionClass
  recordTs : record.ts = ts
  notReattestation : record.recordType ≠ .reattestation
  lapse : record.recordType = .lapse → record.certifiedUntil = g.certifiedUntil ∧ updated.lastSafeLevel = g.lastSafeLevel

theorem extendsTerm_same {isLabelLatency : String → Bool} (h : g.accepted isLabelLatency = true) :
    extendsTerm g.certifiedUntil g.certifiedUntil = .ok false := by
  cases hterm : g.certifiedUntil with
  | none => rfl
  | some certified =>
    have hutc : isUtcInstant certified = true := by
      simp only [GrantDocument.accepted,hterm,Option.all_some,Bool.and_eq_true] at h
      exact h.1.1
    rw [isUtcInstant] at hutc
    cases hparse : parseCertifiedUntil certified with
    | error e =>
      rw [hparse] at hutc
      cases hutc
    | ok term =>
      simp only [extendsTerm,hparse]
      simp [bind,Except.bind,pure,Except.pure]

theorem lowering_writes (hs : Kept d s) (hholds : Holds d s principal actionClass g) (hlow : LoweringOf g updated record ts)
    {reading : Reading} (hstamp : nextLedgerTs d.backend modelValidateJson s.store.records g.principal g.actionClass reading = .ok ts) :
    ∃ current, Rereads d s g current ∧
      writeRecordAndGrant d.hmac d.validate d.backend s.store { record, grant := updated, expected := some current.expected } =
        .ok (applied d.hmac d.backend s.store { record, grant := updated, expected := some current.expected }) := by
  obtain ⟨_,item,hrow,hparse,hreread⟩ := hholds.own hs
  refine ⟨_,hreread,?_⟩
  obtain ⟨t,hiso,hstamps⟩ := nextLedgerTs_stamps hstamp
  have hkey : grantKey d.backend updated = grantKey d.backend g := by
    rw [grantKey_eq,grantKey_eq,hlow.principal,hlow.actionClass]
  have hpk : pkOf d.backend record = recordPk d.backend g.principal g.actionClass := by
    rw [pkOf,hlow.recordPrincipal,hlow.recordClass]
  have hfree := stamp_free hs.ledger hstamps hpk (hlow.recordTs.trans hiso)
  have hts : validateRecordTs record.ts = .ok () := by
    rw [hlow.recordTs,hiso]
    exact validateRecordTs_isoformat hstamps.representable
  have hsame := extendsTerm_same (validate_accepted hparse)
  have hheld : s.store.grants (grantKey d.backend updated) = some item := by
    rw [hkey]
    exact hrow
  refine write_commits hheld rfl rfl rfl ?_ ?_ ?_ hts hfree
  · show refuseTermExtension d.validate (some item.data) updated record.recordType = .ok ()
    simp only [refuseTermExtension,Option.bind_some,hparse,hlow.term,hsame]
    split
    · rfl
    · rfl
  · simp only [refuseReattestationDrift,hlow.notReattestation,ne_eq,not_false_eq_true,if_true]
  · show refuseLapseDrift d.validate (some item.data) record updated = .ok ()
    rw [refuseLapseDrift]
    split
    · rfl
    next htype =>
      obtain ⟨hterm,hsafe⟩ := hlow.lapse (not_not.mp htype)
      refine then_ok.mpr ⟨refuseIf_pass ?_,?_⟩
      · rintro ⟨_,hne⟩
        exact hne (hterm.trans hlow.term.symm)
      · simp [hparse,movedFields,hlow.term,hsafe]

theorem exec_reread_lands {current : GrantReadResult} (h : Rereads d s g current) (missing changed : CeremonyError) :
    (reread g missing changed : Ceremony F GrantReadResult).exec d.perform s = (.ok current,s) := by
  rw [reread,Prog.exec_bind,exec_getGrant,h.read]
  simp [raised,acceptReread,h.clear,h.same]

theorem exec_writeEvaluated_lands {current : GrantReadResult} {store : GrantState} (signature : Option Json) (lost : CeremonyError)
    (h : writeRecordAndGrant d.hmac d.validate d.backend s.store { record, grant := updated, expected := some current.expected } =
      .ok store) :
    (writeEvaluated record updated current signature lost : Ceremony F Unit).exec d.perform s =
      (.ok (),committedState d s { record, grant := updated, expected := some current.expected } signature store) := by
  rw [writeEvaluated,Prog.exec_tryCatch,exec_write_ok h]
  rfl

theorem applyLowering_lands (sign : Option (PromotionRecord → Json))
    (build : String → Except CeremonyError (GrantDocument × PromotionRecord)) (hs : Kept d s)
    (hholds : Holds d s principal actionClass g) (hbuild : build ts = .ok (updated,record)) (hlow : LoweringOf g updated record ts)
    (hstamp : nextLedgerTs d.backend modelValidateJson s.store.records g.principal g.actionClass (Moment.reading now) = .ok ts)
    (modified lost : CeremonyError) :
    ∃ s', Lowers d s g now sign ts updated record s' ∧
      (applyLowering g now build modified lost sign : Ceremony F _).exec d.perform s = (.ok (updated,record),s') := by
  obtain ⟨current,hcurrent,hwrite⟩ := lowering_writes hs hholds hlow hstamp
  refine ⟨_,⟨hstamp,current,_,hcurrent,hwrite,rfl⟩,?_⟩
  have hts : (ledgerTs g.principal g.actionClass (Moment.reading now) : Ceremony F String).exec d.perform s = (.ok ts,s) := by
    rw [exec_ledgerTs,hstamp]
    rfl
  have hfinish : (Prog.finish (build ts) : Ceremony F _).exec d.perform s = (.ok (updated,record),s) := by
    rw [Prog.exec_finish,hbuild]
  have hlanded := exec_writeEvaluated_lands (sign.map fun sign => sign record) lost hwrite
  rw [applyLowering,Prog.exec_bind_of _ _ hts,Prog.exec_bind_of _ _ hfinish,
    Prog.exec_bind_of _ _ (exec_reread_lands hcurrent modified modified),Prog.exec_bind_of _ _ hlanded]
  rfl

theorem Lowers.effect (h : Lowers d s g now sign ts updated record s') :
    s'.store.grants = Function.update s.store.grants (grantKey d.backend updated) (some (buildItem d.hmac updated)) ∧
      s'.store.records = s.store.records ++ [recordRow d.backend record] ∧ s'.proposals = s.proposals := by
  obtain ⟨current,store,_,hwrite,rfl⟩ := h.written
  have hcommitted := write_ok hwrite
  exact ⟨hcommitted.grants,hcommitted.records,rfl⟩

theorem Lowers.kept (hs : Kept d s) (h : Lowers d s g now sign ts updated record s') (haccepted : record.accepted = true)
    (hupdated : updated.accepted d.isLabelLatency = true) : Kept d s' := by
  obtain ⟨hgrants,hrecords,_⟩ := h.effect
  constructor
  · intro key item g' hitem hhash hparse
    rw [hgrants] at hitem
    by_cases hkey : key = grantKey d.backend updated
    · rw [hkey,Function.update_self] at hitem
      obtain rfl := Option.some.inj hitem
      have hread : d.validate (canonicalGrantPayload updated) = some updated := GrantDocument.modelValidateJson_canonical hupdated
      rw [buildItem,hread] at hparse
      rw [hkey,← Option.some.inj hparse]
    · rw [Function.update_of_ne hkey] at hitem
      exact hs.rows key item g' hitem hhash hparse
  · intro row hrow
    rw [hrecords] at hrow
    rcases List.mem_append.mp hrow with hold | hnew
    · exact hs.ledger row hold
    · exact ⟨record,haccepted,List.mem_singleton.mp hnew⟩

theorem Lowers.intact (hs : Intact d s) (h : Lowers d s g now sign ts updated record s') (haccepted : record.accepted = true)
    (hts : record.ts = ts) (hupdated : updated.accepted d.isLabelLatency = true) : Intact d s' := by
  obtain ⟨_,hrecords,_⟩ := h.effect
  refine ⟨(h.kept hs.kept haccepted hupdated).rows,?_⟩
  intro row hrow
  rw [hrecords] at hrow
  rcases List.mem_append.mp hrow with hold | hnew
  · exact hs.ledger row hold
  · obtain ⟨t,hiso,hstamps⟩ := nextLedgerTs_stamps h.stamp
    exact ⟨record,t,haccepted,⟨hstamps.representable,hts.trans hiso⟩,List.mem_singleton.mp hnew⟩

end Lowering

end SafeAgents.Grants
