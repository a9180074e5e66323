import SafeAgents.Checked
import SafeAgents.Grants.Ledger

namespace SafeAgents.Grants

open Calendar

def ledgerTsTick : Int := 1

abbrev Moment := { t : Int // Representable t }

inductive Reading where
  | system (t : Moment)
  | text (s : String)
  | datetime (d : Datetime)

def toUtc (d : Datetime) : Except GrantError Int :=
  match d.instant? with
  | none => .error .overflow
  | some t => .ok t

def naiveIsoformat (clock : Int) : String :=
  String.ofList (secondChars (secondOf clock) ++ fractionChars (clock % microsPerSecond))

def wallClock : Reading → Except GrantError Int
  | .system t => .ok t.1
  | .text s => do
    validateRecordTs s
    match fromisoformat s with
    | none => .error (.value ("Invalid isoformat string: " ++ pyRepr s))
    | some parsed => toUtc parsed
  | .datetime d =>
    if d.offset = none then
      .error (.value ("ledger clock reading " ++ pyRepr (naiveIsoformat d.clock) ++
        " is naive; pass a tz-aware UTC instant"))
    else toUtc d

def recordedInstant (r : PromotionRecord) : Except GrantError Int :=
  match fromisoformat r.ts with
  | none => .error (.value ("Invalid isoformat string: " ++ pyRepr r.ts))
  | some parsed =>
    match parsed.offset with
    | none => .ok parsed.clock
    | some _ => toUtc parsed

def advance (wall : Int) (recorded : List Int) : Except GrantError Int :=
  match recorded.max? with
  | none => .ok wall
  | some last => if Representable (last + ledgerTsTick) then .ok (max wall (last + ledgerTsTick)) else .error .overflow

section Clock
variable (backend : RecordBackend) (validate : String → Option PromotionRecord)

def nextLedgerTs (table : RecordTable) (principal : Principal) (actionClass : String) (now : Reading) :
    Except GrantError String := do
  let wall ← wallClock now
  let records ← listRecords backend validate table principal actionClass
  let recorded ← records.mapM recordedInstant
  let next ← advance wall recorded
  return isoformat next

structure LedgerWrite where
  draft : PromotionRecord
  now : Reading

def appendStamped (table : RecordTable) (w : LedgerWrite) : Except GrantError (RecordTable × PromotionRecord) := do
  let ts ← nextLedgerTs backend validate table w.draft.principal w.draft.actionClass w.now
  let record := { w.draft with ts }
  if record.accepted then
    let table ← putRecord backend table record
    return (table,record)
  else .error (.value "PromotionRecord validation error")

structure Ledger where
  table : RecordTable := []
  written : List PromotionRecord := []

def Ledger.write (l : Ledger) (w : LedgerWrite) : Ledger :=
  match appendStamped backend validate l.table w with
  | .ok (table,record) => { table, written := l.written ++ [record] }
  | .error _ => l

def Ledger.writeAll (writes : List LedgerWrite) : Ledger := writes.foldl (Ledger.write backend validate) {}

end Clock

section Order
variable {backend : RecordBackend} {validate : String → Option PromotionRecord}

theorem accepted_ts (r : PromotionRecord) (ts : String) : { r with ts }.accepted = r.accepted := rfl

def pkOf (backend : RecordBackend) (r : PromotionRecord) : String := recordPk backend r.principal r.actionClass

def StampedAt (r : PromotionRecord) (t : Int) : Prop := Representable t ∧ r.ts = isoformat t

def Earlier (a b : PromotionRecord) : Prop := ∃ t u, StampedAt a t ∧ StampedAt b u ∧ t < u

theorem Earlier.sk_lt {a b : PromotionRecord} (h : Earlier a b) : recordSk a < recordSk b := by
  obtain ⟨t,u,ht,hu,hlt⟩ := h
  rw [recordSk,recordSk,ht.2,hu.2,String.append_assoc,String.append_assoc]
  exact isoformat_append_lt ht.1 hu.1 hlt _ _

structure InOrder (backend : RecordBackend) (l : Ledger) : Prop where
  rows : l.table = l.written.map (recordRow backend)
  accepted : ∀ r ∈ l.written, r.accepted = true
  stamped : ∀ r ∈ l.written, ∃ t, StampedAt r t
  ordered : l.written.Pairwise fun a b => pkOf backend a = pkOf backend b → Earlier a b

theorem inOrder_empty : InOrder backend {} where
  rows := rfl
  accepted := by simp
  stamped := by simp
  ordered := .nil

def writtenUnder (backend : RecordBackend) (l : Ledger) (pk : String) : List PromotionRecord :=
  l.written.filter fun r => pkOf backend r == pk

theorem filter_rows {l : Ledger} (h : InOrder backend l) (pk : String) :
    (l.table.filter fun row => row.pk == pk) = (writtenUnder backend l pk).map (recordRow backend) := by
  rw [h.rows,List.filter_map]
  rfl

theorem writtenUnder_ordered {l : Ledger} (h : InOrder backend l) (pk : String) :
    (writtenUnder backend l pk).Pairwise Earlier := by
  have hfiltered := h.ordered.filter fun r => pkOf backend r == pk
  refine List.Pairwise.imp_of_mem ?_ hfiltered
  intro a b ha hb hab
  have hapk : pkOf backend a = pk := by simpa using (List.mem_filter.mp ha).2
  have hbpk : pkOf backend b = pk := by simpa using (List.mem_filter.mp hb).2
  exact hab (by rw [hapk,hbpk])

theorem sks_increasing {l : Ledger} (h : InOrder backend l) (pk : String) :
    ((l.table.filter fun row => row.pk == pk).map RecordRow.sk).Pairwise (· < ·) := by
  rw [filter_rows h pk,List.map_map]
  exact List.pairwise_map.mpr ((writtenUnder_ordered h pk).imp fun hab => hab.sk_lt)

theorem partition_eq {l : Ledger} (h : InOrder backend l) (pk : String) :
    partition l.table pk = (writtenUnder backend l pk).map (recordRow backend) := by
  have hsorted : (l.table.filter fun row => row.pk == pk).Pairwise fun a b => decide (a.sk ≤ b.sk) = true := by
    have hlt := List.pairwise_map.mp (sks_increasing h pk)
    exact hlt.imp fun hab => decide_eq_true (String.lt_asymm hab)
  rw [partition,List.mergeSort_of_pairwise hsorted,filter_rows h pk]

theorem mapM_parseRow {records : List PromotionRecord}
    (h : ∀ r ∈ records, validate (canonicalRecordPayload r) = some r) :
    (records.map (recordRow backend)).mapM (parseRow validate) = .ok records := by
  induction records with
  | nil => rfl
  | cons r records ih =>
    have hr := h r (by simp)
    have hrest := ih fun q hq => h q (by simp [hq])
    have hparse : parseRow validate (recordRow backend r) = .ok r := by simp only [parseRow,recordRow,hr]
    rw [List.map_cons,List.mapM_cons,hparse,hrest]
    rfl

variable (hround : ∀ r : PromotionRecord, r.accepted = true → validate (canonicalRecordPayload r) = some r)
include hround

theorem listRecords_eq {l : Ledger} (h : InOrder backend l) (principal : Principal) (actionClass : String) :
    listRecords backend validate l.table principal actionClass =
      .ok (writtenUnder backend l (recordPk backend principal actionClass)) := by
  rw [listRecords,partition_eq h]
  apply mapM_parseRow
  intro r hr
  exact hround r (h.accepted r (List.mem_of_mem_filter hr))

omit hround

theorem recordedInstant_stamped {r : PromotionRecord} {t : Int} (h : StampedAt r t) : recordedInstant r = .ok t := by
  have hinstant : Datetime.instant? { clock := t, offset := some 0 } = some t := by simp [Datetime.instant?,h.1]
  simp only [recordedInstant,h.2,fromisoformat_isoformat h.1,toUtc,hinstant]

theorem mapM_recordedInstant {records : List PromotionRecord} (h : ∀ r ∈ records, ∃ t, StampedAt r t) :
    ∃ instants, records.mapM recordedInstant = .ok instants ∧ (∀ r ∈ records, ∃ t ∈ instants, StampedAt r t) ∧
      ∀ t ∈ instants, ∃ r ∈ records, StampedAt r t := by
  induction records with
  | nil => exact ⟨[],rfl,by simp,by simp⟩
  | cons r records ih =>
    obtain ⟨t,ht⟩ := h r (by simp)
    obtain ⟨instants,hmap,hread,hwritten⟩ := ih fun q hq => h q (by simp [hq])
    have hcons : (r :: records).mapM recordedInstant = .ok (t :: instants) := by
      rw [List.mapM_cons,recordedInstant_stamped ht,hmap]
      rfl
    refine ⟨t :: instants,hcons,?_,?_⟩
    · intro q hq
      rcases List.mem_cons.mp hq with rfl | hq
      · exact ⟨t,by simp,ht⟩
      · obtain ⟨u,hu,hqu⟩ := hread q hq
        exact ⟨u,by simp [hu],hqu⟩
    · intro u hu
      rcases List.mem_cons.mp hu with rfl | hu
      · exact ⟨r,by simp,ht⟩
      · obtain ⟨q,hq,hqu⟩ := hwritten u hu
        exact ⟨q,by simp [hq],hqu⟩

theorem toUtc_ok {d : Datetime} {t : Int} (h : toUtc d = .ok t) : Representable t := by
  simp only [toUtc] at h
  split at h
  · cases h
  next u hu =>
    cases h
    simp only [Datetime.instant?] at hu
    split at hu
    · cases hu
    · split at hu
      next hrep =>
        cases hu
        exact hrep
      · cases hu

theorem wallClock_ok {now : Reading} {t : Int} (h : wallClock now = .ok t) : Representable t := by
  cases now with
  | system m =>
    simp only [wallClock,Except.ok.injEq] at h
    rw [← h]
    exact m.2
  | text s =>
    simp only [wallClock] at h
    cases hts : validateRecordTs s with
    | error e =>
      rw [hts] at h
      cases h
    | ok u =>
      rw [hts] at h
      cases hparsed : fromisoformat s with
      | none =>
        rw [hparsed] at h
        cases h
      | some parsed =>
        rw [hparsed] at h
        exact toUtc_ok h
  | datetime d =>
    simp only [wallClock] at h
    split at h
    · cases h
    · exact toUtc_ok h

theorem advance_ok {wall next : Int} {recorded : List Int} (hwall : Representable wall) (h : advance wall recorded = .ok next) :
    Representable next ∧ ∀ t ∈ recorded, t < next := by
  simp only [advance] at h
  split at h
  next hnone =>
    cases h
    have hempty : recorded = [] := List.max?_eq_none_iff.mp hnone
    exact ⟨hwall,by simp [hempty]⟩
  next last hsome =>
    split at h
    next hrep =>
      cases h
      constructor
      · rcases Int.le_total wall (last + ledgerTsTick) with hle | hge
        · rwa [Int.max_eq_right hle]
        · rwa [Int.max_eq_left hge]
      · intro t ht
        have hle : t ≤ last := (List.max?_eq_some_iff.mp hsome).2 t ht
        have hnext : last + ledgerTsTick ≤ max wall (last + ledgerTsTick) := Int.le_max_right _ _
        rw [ledgerTsTick] at hnext ⊢
        omega
    · cases h

theorem validateRecordTs_isoformat {t : Int} (h : Representable t) : validateRecordTs (isoformat t) = .ok () := by
  have hsuffix : zone <:+ (isoformat t).toList := by
    rw [isoformat_toList,← List.append_assoc]
    exact List.suffix_append _ _
  have hzero : ¬ ((0 : Int) ≠ 0 ∨ ¬ zone <:+ (isoformat t).toList) := by
    rintro (hne | hnot)
    · exact hne rfl
    · exact hnot hsuffix
  simp only [validateRecordTs,fromisoformat_isoformat h]
  rw [if_neg hzero]

theorem holdsKey_false {l : Ledger} {r : PromotionRecord} (h : InOrder backend l)
    (hlater : ∀ q ∈ writtenUnder backend l (pkOf backend r), Earlier q r) : holdsKey l.table (recordRow backend r) = false := by
  rw [holdsKey,List.any_eq_false]
  intro row hrow hsame
  rw [h.rows] at hrow
  obtain ⟨q,hq,rfl⟩ := List.mem_map.mp hrow
  have hkeys : pkOf backend q = pkOf backend r ∧ recordSk q = recordSk r := by
    simpa [recordRow,pkOf] using hsame
  have hmem : q ∈ writtenUnder backend l (pkOf backend r) := List.mem_filter.mpr ⟨hq,by simp [hkeys.1]⟩
  have hlt := (hlater q hmem).sk_lt
  rw [hkeys.2] at hlt
  exact String.lt_irrefl _ hlt

include hround

theorem nextLedgerTs_ok {l : Ledger} (h : InOrder backend l) {principal : Principal} {actionClass : String} {now : Reading}
    {ts : String} (hts : nextLedgerTs backend validate l.table principal actionClass now = .ok ts) :
    ∃ t, Representable t ∧ ts = isoformat t ∧
      ∀ q ∈ writtenUnder backend l (recordPk backend principal actionClass), ∃ u, StampedAt q u ∧ u < t := by
  have hstamps : ∀ r ∈ writtenUnder backend l (recordPk backend principal actionClass), ∃ t, StampedAt r t := fun r hr =>
    h.stamped r (List.mem_of_mem_filter hr)
  obtain ⟨instants,hmap,hall,_⟩ := mapM_recordedInstant hstamps
  rw [nextLedgerTs,Checked.bind_ok] at hts
  obtain ⟨wall,hwall,hrest⟩ := hts
  rw [listRecords_eq hround h,Checked.bind_ok] at hrest
  obtain ⟨records,hrecords,hrest⟩ := hrest
  rw [← Except.ok.inj hrecords,hmap,Checked.bind_ok] at hrest
  obtain ⟨recorded,hrecorded,hrest⟩ := hrest
  rw [← Except.ok.inj hrecorded,Checked.bind_ok] at hrest
  obtain ⟨next,hnext,hend⟩ := hrest
  have hts := (Checked.pure_ok.mp hend).symm
  obtain ⟨hrep,hlater⟩ := advance_ok (wallClock_ok hwall) hnext
  refine ⟨next,hrep,hts,?_⟩
  intro q hq
  obtain ⟨u,hu,hqu⟩ := hall q hq
  exact ⟨u,hqu,hlater u hu⟩

theorem stamp_later {l : Ledger} (h : InOrder backend l) {w : LedgerWrite} {ts : String}
    (hts : nextLedgerTs backend validate l.table w.draft.principal w.draft.actionClass w.now = .ok ts) :
    (∃ t, StampedAt { w.draft with ts } t) ∧
      ∀ q ∈ writtenUnder backend l (pkOf backend { w.draft with ts }), Earlier q { w.draft with ts } := by
  obtain ⟨t,hrep,hiso,hlater⟩ := nextLedgerTs_ok hround h hts
  have hstamp : StampedAt { w.draft with ts } t := ⟨hrep,hiso⟩
  refine ⟨⟨t,hstamp⟩,?_⟩
  intro q hq
  obtain ⟨u,hu,hlt⟩ := hlater q hq
  exact ⟨u,t,hu,hstamp,hlt⟩

theorem putRecord_stamped {l : Ledger} (h : InOrder backend l) {w : LedgerWrite} {ts : String}
    (hts : nextLedgerTs backend validate l.table w.draft.principal w.draft.actionClass w.now = .ok ts) :
    putRecord backend l.table { w.draft with ts } = .ok (l.table ++ [recordRow backend { w.draft with ts }]) := by
  obtain ⟨⟨t,hrep,hiso⟩,hlater⟩ := stamp_later hround h hts
  have hvalid : validateRecordTs ts = .ok () := by
    have hts' : ts = isoformat t := hiso
    rw [hts',validateRecordTs_isoformat hrep]
  have hfree := holdsKey_false h hlater
  rw [putRecord,hvalid]
  simp only [hfree]
  rfl

omit hround in
theorem inOrder_extend {l : Ledger} (h : InOrder backend l) {r : PromotionRecord} {t : Int} (haccepted : r.accepted = true)
    (hstamp : StampedAt r t) (hlater : ∀ q ∈ writtenUnder backend l (pkOf backend r), Earlier q r) :
    InOrder backend { table := l.table ++ [recordRow backend r], written := l.written ++ [r] } where
  rows := by
    rw [h.rows]
    simp
  accepted := by
    intro q hq
    rcases List.mem_append.mp hq with hq | hq
    · exact h.accepted q hq
    · rw [List.mem_singleton.mp hq]
      exact haccepted
  stamped := by
    intro q hq
    rcases List.mem_append.mp hq with hq | hq
    · exact h.stamped q hq
    · rw [List.mem_singleton.mp hq]
      exact ⟨t,hstamp⟩
  ordered := by
    rw [List.pairwise_append]
    refine ⟨h.ordered,List.pairwise_singleton _ _,?_⟩
    intro a ha b hb hpk
    rw [List.mem_singleton.mp hb] at hpk ⊢
    exact hlater a (List.mem_filter.mpr ⟨ha,by simp [hpk]⟩)

theorem inOrder_append {l : Ledger} (h : InOrder backend l) {w : LedgerWrite} {table : RecordTable} {r : PromotionRecord}
    (happend : appendStamped backend validate l.table w = .ok (table,r)) :
    InOrder backend { table, written := l.written ++ [r] } := by
  obtain ⟨ts,hts,hrest⟩ := Checked.bind_ok.mp happend
  obtain ⟨⟨t,hstamp⟩,hlater⟩ := stamp_later hround h hts
  simp only [putRecord_stamped hround h hts] at hrest
  split at hrest
  next haccepted =>
    cases hrest
    exact inOrder_extend h haccepted hstamp hlater
  · cases hrest

theorem inOrder_write {l : Ledger} (h : InOrder backend l) (w : LedgerWrite) :
    InOrder backend (Ledger.write backend validate l w) := by
  cases happend : appendStamped backend validate l.table w with
  | error e =>
    rw [Ledger.write,happend]
    exact h
  | ok out =>
    obtain ⟨table,r⟩ := out
    rw [Ledger.write,happend]
    exact inOrder_append hround h happend

theorem inOrder_writeAll (writes : List LedgerWrite) : InOrder backend (Ledger.writeAll backend validate writes) := by
  have hfold : ∀ (ws : List LedgerWrite) (l : Ledger), InOrder backend l →
      InOrder backend (ws.foldl (Ledger.write backend validate) l) := by
    intro ws
    induction ws with
    | nil =>
      intro l h
      exact h
    | cons w ws ih =>
      intro l h
      exact ih _ (inOrder_write hround h w)
  exact hfold writes {} inOrder_empty

omit hround

def GrantError.isCollision : GrantError → Bool
  | .recordAlreadyExists _ => true
  | _ => false

theorem toUtc_error {d : Datetime} {e : GrantError} (h : toUtc d = .error e) : e.isCollision = false := by
  simp only [toUtc] at h
  split at h
  · cases h
    rfl
  · cases h

theorem validateRecordTs_error {ts : String} {e : GrantError} (h : validateRecordTs ts = .error e) : e.isCollision = false := by
  simp only [validateRecordTs] at h
  split at h
  · cases h
    rfl
  · split at h
    · cases h
      rfl
    · split at h
      · cases h
        rfl
      · cases h

theorem wallClock_error {now : Reading} {e : GrantError} (h : wallClock now = .error e) : e.isCollision = false := by
  cases now with
  | system m => cases h
  | text s =>
    rcases Checked.bind_error.mp h with hts | ⟨_,_,hrest⟩
    · exact validateRecordTs_error hts
    · split at hrest
      · cases hrest
        rfl
      · exact toUtc_error hrest
  | datetime d =>
    simp only [wallClock] at h
    split at h
    · cases h
      rfl
    · exact toUtc_error h

theorem advance_lands (wall : Int) {recorded : List Int} (h : ∀ t ∈ recorded, Representable t ∧ t < maxInstant) :
    ∃ next, advance wall recorded = .ok next := by
  cases hlast : recorded.max? with
  | none => exact ⟨wall,by simp [advance,hlast]⟩
  | some last =>
    obtain ⟨hrep,hlt⟩ := h last (List.max?_eq_some_iff.mp hlast).1
    have hnext : Representable (last + ledgerTsTick) := by
      simp only [Representable,ledgerTsTick] at hrep ⊢
      omega
    exact ⟨max wall (last + ledgerTsTick),by simp [advance,hlast,hnext]⟩

theorem advance_error {wall : Int} {recorded : List Int} {e : GrantError} (h : advance wall recorded = .error e) :
    e.isCollision = false := by
  simp only [advance] at h
  split at h
  · cases h
  · split at h
    · cases h
    · cases h
      rfl

include hround

theorem nextLedgerTs_error {l : Ledger} (h : InOrder backend l) {principal : Principal} {actionClass : String}
    {now : Reading} {e : GrantError} (hts : nextLedgerTs backend validate l.table principal actionClass now = .error e) :
    e.isCollision = false := by
  obtain ⟨instants,hmap,_,_⟩ := mapM_recordedInstant fun r hr =>
    h.stamped r (List.mem_of_mem_filter (p := fun q => pkOf backend q == recordPk backend principal actionClass) hr)
  rw [nextLedgerTs] at hts
  rcases Checked.bind_error.mp hts with hwall | ⟨wall,_,hrest⟩
  · exact wallClock_error hwall
  · rw [listRecords_eq hround h,Checked.bind_error] at hrest
    rcases hrest with hlist | ⟨records,hlist,hrest⟩
    · cases hlist
    · have hrecords : records.mapM recordedInstant = .ok instants := by
        rw [← Except.ok.inj hlist]
        exact hmap
      rw [hrecords,Checked.bind_error] at hrest
      rcases hrest with hinstants | ⟨recorded,_,hrest⟩
      · cases hinstants
      · rcases Checked.bind_error.mp hrest with hadvance | ⟨next,_,hend⟩
        · exact advance_error hadvance
        · cases hend

theorem no_collision {l : Ledger} (h : InOrder backend l) (w : LedgerWrite) (text : String) :
    appendStamped backend validate l.table w ≠ .error (.recordAlreadyExists text) := by
  intro hcollision
  rcases Checked.bind_error.mp hcollision with hts | ⟨ts,hts,hrest⟩
  · have hfalse := nextLedgerTs_error hround h hts
    simp [GrantError.isCollision] at hfalse
  · simp only [putRecord_stamped hround h hts] at hrest
    split at hrest
    · cases hrest
    · cases hrest

theorem append_lands {l : Ledger} (h : InOrder backend l) {w : LedgerWrite} {wall : Int} (hwall : wallClock w.now = .ok wall)
    (haccepted : w.draft.accepted = true)
    (hroom : ∀ r ∈ writtenUnder backend l (pkOf backend w.draft), ∀ t, StampedAt r t → t < maxInstant) :
    ∃ out, appendStamped backend validate l.table w = .ok out := by
  have hstamps : ∀ r ∈ writtenUnder backend l (pkOf backend w.draft), ∃ t, StampedAt r t := fun r hr =>
    h.stamped r (List.mem_of_mem_filter hr)
  obtain ⟨instants,hmap,_,hwritten⟩ := mapM_recordedInstant hstamps
  have hbelow : ∀ t ∈ instants, Representable t ∧ t < maxInstant := by
    intro t ht
    obtain ⟨r,hr,hrt⟩ := hwritten t ht
    exact ⟨hrt.1,hroom r hr t hrt⟩
  obtain ⟨next,hnext⟩ := advance_lands wall hbelow
  have hlist : listRecords backend validate l.table w.draft.principal w.draft.actionClass =
      .ok (writtenUnder backend l (pkOf backend w.draft)) := listRecords_eq hround h _ _
  have hts : nextLedgerTs backend validate l.table w.draft.principal w.draft.actionClass w.now = .ok (isoformat next) := by
    rw [nextLedgerTs,Checked.bind_ok]
    refine ⟨wall,hwall,?_⟩
    rw [hlist,Checked.bind_ok]
    refine ⟨_,rfl,?_⟩
    rw [hmap,Checked.bind_ok]
    refine ⟨instants,rfl,?_⟩
    rw [hnext]
    rfl
  generalize isoformat next = ts at hts
  have hput := putRecord_stamped hround h hts
  refine ⟨(l.table ++ [recordRow backend { w.draft with ts }],{ w.draft with ts }),?_⟩
  rw [appendStamped,Checked.bind_ok]
  refine ⟨ts,hts,?_⟩
  rw [if_pos (by rwa [accepted_ts]),hput]
  rfl

theorem ledger_write_order (writes : List LedgerWrite) :
    let l := Ledger.writeAll backend validate writes
    l.table = l.written.map (recordRow backend) ∧
      (∀ pk, ((l.table.filter fun row => row.pk == pk).map RecordRow.sk).Pairwise (· < ·)) ∧
      (∀ principal actionClass, listRecords backend validate l.table principal actionClass =
        .ok (l.written.filter fun r => pkOf backend r == recordPk backend principal actionClass)) ∧
      (∀ w text, appendStamped backend validate l.table w ≠ .error (.recordAlreadyExists text)) ∧
      ∀ w wall, wallClock w.now = .ok wall → w.draft.accepted = true →
        (∀ r ∈ l.written, pkOf backend r = pkOf backend w.draft → ∀ t, StampedAt r t → t < maxInstant) →
        ∃ out, appendStamped backend validate l.table w = .ok out := by
  have h : InOrder backend (Ledger.writeAll backend validate writes) := inOrder_writeAll hround writes
  refine ⟨h.rows,sks_increasing h,listRecords_eq hround h,no_collision hround h,?_⟩
  intro w wall hwall haccepted hroom
  apply append_lands hround h hwall haccepted
  intro r hr
  obtain ⟨hmem,hpk⟩ := List.mem_filter.mp hr
  exact hroom r hmem (by simpa using hpk)

end Order

noncomputable def readBack : String → Option PromotionRecord := Function.partialInv canonicalRecordPayload

theorem readBack_payload (r : PromotionRecord) : readBack (canonicalRecordPayload r) = some r :=
  Function.partialInv_left (fun _ _ => canonicalRecordPayload_injective) r

def seedDraft : PromotionRecord where
  recordType := .bootstrap
  actionClass := "email.send"
  principal := { agentId := "mailer", skill := "inbox", user := "sam", tier := .B }
  fromLevel := none
  toLevel := .inLoop
  evidence := "seed"
  proposedBy := "local:owner"
  ratifiedBy := "local:owner"
  envelopeHash := "e0"
  ts := ""

def steppedBack : List LedgerWrite :=
  [{ draft := seedDraft, now := .system ⟨1709164800000000,by decide⟩ },
   { draft := seedDraft, now := .text "2024-02-29T00:00:00+00:00" },
   { draft := { seedDraft with recordType := .tightening, fromLevel := some .onLoop },
     now := .datetime { clock := 1709164799999999, offset := some 0 } }]

theorem ledger_write_order_steppedBack :
    (∀ r : PromotionRecord, r.accepted = true → readBack (canonicalRecordPayload r) = some r) ∧
      (listRecords .dynamo readBack (Ledger.writeAll .dynamo readBack steppedBack).table seedDraft.principal "email.send" =
        .ok ((Ledger.writeAll .dynamo readBack steppedBack).written.filter fun r =>
          pkOf .dynamo r == recordPk .dynamo seedDraft.principal "email.send")) :=
  ⟨fun r _ => readBack_payload r,(ledger_write_order (fun r _ => readBack_payload r) steppedBack).2.2.1 _ _⟩

end SafeAgents.Grants
