import Mathlib.Data.List.Induction
import Mathlib.Data.Multiset.Basic
import SafeAgents.Enforcement.Backends

namespace SafeAgents

open ItemTable

section Keys

theorem head_ne {a b : String} (x y : String) (ha : a.toList.head?.isSome) (hb : b.toList.head?.isSome)
    (h : a.toList.head? ≠ b.toList.head?) : a ++ x ≠ b ++ y := by
  intro heq
  have hlists := congrArg (fun text => text.toList.head?) heq
  simp only [String.toList_append,List.head?_append] at hlists
  obtain ⟨c,hc⟩ := Option.isSome_iff_exists.mp ha
  obtain ⟨d,hd⟩ := Option.isSome_iff_exists.mp hb
  rw [hc,hd] at hlists h
  exact h (by simpa using hlists)

theorem idem_ne_counter (x y : String) : idemKey x ≠ counterItemKey y := by
  intro h
  exact head_ne x y (by decide) (by decide) (by decide) (Prod.mk.inj h).1

theorem idem_ne_ledger (x y : String) : idemKey x ≠ ledgerItemKey y := by
  intro h
  exact head_ne x y (by decide) (by decide) (by decide) (Prod.mk.inj h).1

theorem counter_ne_ledger (x y : String) : counterItemKey x ≠ ledgerItemKey y := by
  intro h
  exact head_ne x y (by decide) (by decide) (by decide) (Prod.mk.inj h).1

theorem idemKey_inj {x y : String} : idemKey x = idemKey y ↔ x = y := by simp [idemKey,String.append_right_inj]

theorem counterItemKey_inj {x y : String} : counterItemKey x = counterItemKey y ↔ x = y := by
  simp [counterItemKey,String.append_right_inj]

theorem ledgerItemKey_inj {x y : String} : ledgerItemKey x = ledgerItemKey y ↔ x = y := by
  simp [ledgerItemKey,String.append_right_inj]

theorem removePrefix_append (pre text : String) : removePrefix pre (pre ++ text) = text := by
  have hprefix : pre.toList.isPrefixOf (pre ++ text).toList = true := by simp
  rw [removePrefix,if_pos hprefix,String.toList_append,← String.length_toList,List.drop_left,String.ofList_toList]

end Keys

section Items

theorem IdempotencyStatus.ofText_text (s : IdempotencyStatus) : ofText s.text = some s := by cases s <;> decide

theorem LedgerStatus.ofText_text (s : LedgerStatus) : ofText s.text = some s := by cases s <;> decide

theorem IdempotencyStatus.text_inFlight {s : IdempotencyStatus} : s.text = "in_flight" ↔ s = .inFlight := by
  cases s <;> decide

theorem IdempotencyStatus.text_ne_uncommitted (s : IdempotencyStatus) : s.text ≠ "uncommitted" := by cases s <;> decide

theorem LedgerStatus.text_uncommitted {s : LedgerStatus} : s.text = "uncommitted" ↔ s = .uncommitted := by
  cases s <;> decide

theorem StoreItem.readIdem_idem (record : IdempotencyRecord) : (idem record).readIdem record.key = .ok record := by
  simp only [readIdem,idem,attr,Option.elim_some,IdempotencyStatus.ofText_text]
  rfl

theorem StoreItem.readLedger_ledger (entry : LedgerEntry) :
    readLedger (ledgerItemKey entry.entryId,ledger entry) = .ok entry := by
  simp only [readLedger,ledger,attr,Option.bind_some,Option.elim_some,LedgerStatus.ofText_text,ledgerItemKey,removePrefix_append]
  rfl

theorem StoreItem.listed_rows {rows : List ((String × String) × StoreItem)} {P : LedgerEntry → Prop}
    (hrow : ∀ row ∈ rows, ∃ e, StoreItem.readLedger row = .ok e ∧ row.1 = ledgerItemKey e.entryId ∧ P e)
    (hnodup : (rows.map Prod.fst).Nodup) (hall : ∀ e, P e → (ledgerItemKey e.entryId,StoreItem.ledger e) ∈ rows) :
    ∃ entries, rows.mapM StoreItem.readLedger = .ok entries ∧ entries.Nodup ∧ ∀ e, e ∈ entries ↔ P e := by
  obtain ⟨entries,hread,hmap⟩ := Checked.mapM_ok (f := StoreItem.readLedger) (l := rows) fun row hr => (hrow row hr).imp fun _ he => he.1
  have hkeys : entries.map (fun e => ledgerItemKey e.entryId) = rows.map Prod.fst := by
    apply Checked.map_of_mapM hmap
    intro row hr e he
    obtain ⟨found,hfound,hkey,_⟩ := hrow row hr
    rw [hfound] at he
    exact Except.ok.inj he ▸ hkey.symm
  refine ⟨entries,hread,List.Nodup.of_map _ (hkeys ▸ hnodup),?_⟩
  intro e
  rw [Checked.mem_of_mapM hmap]
  constructor
  · rintro ⟨row,hr,he⟩
    obtain ⟨found,hfound,_,hP⟩ := hrow row hr
    rw [hfound] at he
    exact Except.ok.inj he ▸ hP
  · intro hP
    exact ⟨_,hall e hP,StoreItem.readLedger_ledger e⟩

end Items

namespace EnforcementState

structure Coherent (a : EnforcementState) : Prop where
  idem : ∀ key record, a.idempotency key = some record → record.key = key
  ledger : ∀ entryId entry, a.ledger entryId = some entry → entry.entryId = entryId
  counters : ∀ key spent, a.counters key = some spent → 0 ≤ spent

variable {a : EnforcementState}

theorem Coherent.setIdempotency (h : a.Coherent) {key : String} {row : Option IdempotencyRecord}
    (hrow : ∀ record, row = some record → record.key = key) : (a.setIdempotency key row).Coherent := by
  refine ⟨?_,h.ledger,h.counters⟩
  intro j record hrecord
  by_cases hj : j = key
  · subst hj
    exact hrow record (by simpa [EnforcementState.setIdempotency] using hrecord)
  · exact h.idem j record (by simpa [EnforcementState.setIdempotency,hj] using hrecord)

theorem Coherent.setCounter (h : a.Coherent) {key : String} {value : Option ℚ} (hvalue : ∀ spent, value = some spent → 0 ≤ spent) :
    (a.setCounter key value).Coherent := by
  refine ⟨h.idem,h.ledger,?_⟩
  intro j spent hspent
  by_cases hj : j = key
  · subst hj
    exact hvalue spent (by simpa [EnforcementState.setCounter] using hspent)
  · exact h.counters j spent (by simpa [EnforcementState.setCounter,hj] using hspent)

theorem Coherent.setLedger (h : a.Coherent) {entryId : String} {entry : LedgerEntry} (hentry : entry.entryId = entryId) :
    (a.setLedger entryId entry).Coherent := by
  refine ⟨h.idem,?_,h.counters⟩
  intro j found hfound
  by_cases hj : j = entryId
  · subst hj
    obtain rfl : entry = found := by simpa [EnforcementState.setLedger] using hfound
    exact hentry
  · exact h.ledger j found (by simpa [EnforcementState.setLedger,hj] using hfound)

theorem Coherent.settle (h : a.Coherent) {key : String} {f : IdempotencyRecord → IdempotencyRecord}
    (hf : ∀ record, (f record).key = record.key) : (StoreOp.settle a key f).2.Coherent := by
  rw [StoreOp.settle]
  split
  next record hrecord =>
    split
    · apply h.setIdempotency
      rintro _ ⟨rfl⟩
      rw [hf]
      exact h.idem key record hrecord
    · exact h
  · exact h

theorem Coherent.amendLedger (h : a.Coherent) {entryId : String} {f : LedgerEntry → LedgerEntry}
    (hf : ∀ entry, (f entry).entryId = entry.entryId) : (StoreOp.amendLedger a entryId f).2.Coherent := by
  rw [StoreOp.amendLedger]
  split
  next entry hentry =>
    apply h.setLedger
    rw [hf]
    exact h.ledger entryId entry hentry
  · exact h

theorem Coherent.spent_nonneg (h : a.Coherent) (key : String) : 0 ≤ (a.counters key).getD 0 := by
  cases hrow : a.counters key with
  | none => exact le_refl _
  | some spent => exact h.counters key spent hrow

end EnforcementState

namespace ContractOp

def Allowed (a : EnforcementState) (o : ContractOp) : Prop :=
  (∀ delta, o.delta = some delta → 0 ≤ delta) ∧ ∀ entryId, o.transition = some entryId → (a.ledger entryId).isSome

def Answers (a : EnforcementState) : (o : ContractOp) → Except Exn o.Ret → EnforcementState → Prop
  | op o,answer,a' => o.apply .memory a = (answer,a')
  | getUncommittedEntries,answer,a' =>
    a' = a ∧ ∃ entries : Multiset LedgerEntry, answer = .ok entries ∧ entries.Nodup ∧
      ∀ e, e ∈ entries ↔ a.ledger e.entryId = some e ∧ e.status = .uncommitted

theorem answers_unique {a a₁ a₂ : EnforcementState} {o : ContractOp} {r₁ r₂ : Except Exn o.Ret} (h₁ : Answers a o r₁ a₁)
    (h₂ : Answers a o r₂ a₂) : r₁ = r₂ ∧ a₁ = a₂ := by
  cases o with
  | op o => exact Prod.mk.inj (h₁.symm.trans h₂)
  | getUncommittedEntries =>
    obtain ⟨ha₁,m₁,rfl,hnodup₁,hmem₁⟩ := h₁
    obtain ⟨ha₂,m₂,rfl,hnodup₂,hmem₂⟩ := h₂
    have hentries : m₁ = m₂ := (Multiset.Nodup.ext hnodup₁ hnodup₂).mpr fun e => (hmem₁ e).trans (hmem₂ e).symm
    exact ⟨congrArg _ hentries,ha₁.trans ha₂.symm⟩

theorem answers_coherent {a a' : EnforcementState} (h : a.Coherent) {o : ContractOp} {r : Except Exn o.Ret} (hallowed : Allowed a o)
    (hanswers : Answers a o r a') : a'.Coherent := by
  cases o with
  | getUncommittedEntries => exact hanswers.1 ▸ h
  | op o =>
    have ha' : (o.apply .memory a).2 = a' := congrArg Prod.snd hanswers
    subst ha'
    cases o with
    | getIdempotency key => exact h
    | putIdempotencyIfAbsent record =>
      rw [StoreOp.apply]
      split
      · exact h
      · apply h.setIdempotency
        rintro _ ⟨rfl⟩
        rfl
    | completeIdempotency key decisionJson resultJson => exact h.settle fun _ => rfl
    | failIdempotency key error => exact h.settle fun _ => rfl
    | deleteIdempotency key => exact h.setIdempotency (by simp)
    | tryIncrementCounter key delta cap =>
      have hdelta : 0 ≤ delta := hallowed.1 delta rfl
      have hspent := h.spent_nonneg key
      apply h.setCounter
      intro spent hvalue
      rcases Backend.tryIncrementCounter_spec .memory (a.counters key) delta cap with hout | ⟨hout,_⟩
      · rw [hout] at hvalue
        exact h.counters key spent hvalue
      · rw [hout] at hvalue
        obtain rfl := Option.some.inj hvalue
        exact add_nonneg hspent hdelta
    | readCounter key => exact h
    | writeLedger entry => exact h.setLedger rfl
    | commitLedger entryId ts => exact h.amendLedger fun _ => rfl
    | compensateLedger entryId error => exact h.amendLedger fun _ => rfl
    | escalateLedger entryId error => exact h.amendLedger fun _ => rfl

end ContractOp

namespace InMemoryStore

variable {s : InMemoryStore}

theorem replaceInFlight_settle (s : InMemoryStore) (key : String) (f : IdempotencyRecord → IdempotencyRecord) :
    StoreOp.settle s.contents key f = (.ok (s.replaceInFlight key f).1,(s.replaceInFlight key f).2.contents) := by
  rw [StoreOp.settle,replaceInFlight]
  simp only [contents]
  cases hrow : s.idempotency.get? key with
  | none => rfl
  | some record =>
    by_cases hstatus : record.status = .inFlight
    · simp [hstatus,EnforcementState.setIdempotency,Dict.update_set]
    · simp [hstatus]

theorem amendEntry_amends (s : InMemoryStore) (entryId : String) (f : LedgerEntry → LedgerEntry) :
    StoreOp.amendLedger s.contents entryId f = ((s.amendEntry entryId f).1,(s.amendEntry entryId f).2.contents) := by
  rw [StoreOp.amendLedger,amendEntry]
  simp only [contents]
  cases hrow : s.ledger.get? entryId with
  | none => rfl
  | some entry => simp [EnforcementState.setLedger,Dict.update_set]

theorem incrementCounter_apply (s : InMemoryStore) (key : String) (delta cap : ℚ) :
    StoreOp.apply .memory (.tryIncrementCounter key delta cap) s.contents =
      (.ok (s.incrementCounter key delta cap).1,(s.incrementCounter key delta cap).2.contents) := by
  rw [StoreOp.apply,incrementCounter]
  simp only [contents,Backend.tryIncrementCounter,tryIncrementCounter]
  by_cases hcap : (s.counters.get? key).getD 0 + delta > cap
  · simp [hcap,EnforcementState.setCounter]
  · simp [hcap,EnforcementState.setCounter,Dict.update_set]

theorem mem_uncommitted (hnamed : ∀ entryId entry, s.ledger.get? entryId = some entry → entry.entryId = entryId) (e : LedgerEntry) :
    e ∈ s.getUncommittedEntries ↔ s.contents.ledger e.entryId = some e ∧ e.status = .uncommitted := by
  have hvalues : e ∈ s.ledger.values ↔ s.ledger.get? e.entryId = some e := by
    rw [Dict.values,List.mem_map]
    constructor
    · rintro ⟨⟨name,entry⟩,hmem,rfl⟩
      have hget := Dict.get?_iff.mpr hmem
      have hname : entry.entryId = name := hnamed name entry hget
      exact hname ▸ hget
    · intro hget
      exact ⟨_,Dict.get?_iff.mp hget,rfl⟩
  simp [getUncommittedEntries,contents,hvalues]

theorem nodup_uncommitted (hnamed : ∀ entryId entry, s.ledger.get? entryId = some entry → entry.entryId = entryId) :
    s.getUncommittedEntries.Nodup := by
  have hids : s.ledger.values.map LedgerEntry.entryId = s.ledger.entries.map Prod.fst := by
    rw [Dict.values,List.map_map]
    apply List.map_congr_left
    rintro ⟨name,entry⟩ hmem
    exact hnamed name entry (Dict.get?_iff.mpr hmem)
  have hvalues : s.ledger.values.Nodup := List.Nodup.of_map LedgerEntry.entryId (hids ▸ s.ledger.unique)
  exact hvalues.filter _

theorem run_answers (hcoherent : s.contents.Coherent) (o : ContractOp) : o.Answers s.contents (run o s).1 (run o s).2.contents := by
  cases o with
  | getUncommittedEntries =>
    refine ⟨rfl,_,rfl,?_,?_⟩
    · exact Multiset.coe_nodup.mpr (nodup_uncommitted hcoherent.ledger)
    · intro e
      exact Multiset.mem_coe.trans (mem_uncommitted hcoherent.ledger e)
  | op o =>
    cases o with
    | getIdempotency key => rfl
    | putIdempotencyIfAbsent record =>
      simp only [ContractOp.Answers,StoreOp.apply,run,putIdempotencyIfAbsent,contents]
      cases hrow : s.idempotency.get? record.key with
      | none => simp [EnforcementState.setIdempotency,Dict.update_set]
      | some found => simp
    | completeIdempotency key decisionJson resultJson => exact replaceInFlight_settle s key _
    | failIdempotency key error => exact replaceInFlight_settle s key _
    | deleteIdempotency key =>
      simp only [ContractOp.Answers,StoreOp.apply,run,deleteIdempotency,contents,EnforcementState.setIdempotency,Dict.update_erase]
    | tryIncrementCounter key delta cap => exact incrementCounter_apply s key delta cap
    | readCounter key => rfl
    | writeLedger entry =>
      simp only [ContractOp.Answers,StoreOp.apply,run,writeLedger,contents,EnforcementState.setLedger,Dict.update_set]
    | commitLedger entryId ts => exact amendEntry_amends s entryId _
    | compensateLedger entryId error => exact amendEntry_amends s entryId _
    | escalateLedger entryId error => exact amendEntry_amends s entryId _

end InMemoryStore

structure Holds (table : StoreTable) (a : EnforcementState) : Prop where
  idem : ∀ key, table.get? (idemKey key) = (a.idempotency key).map .idem
  counters : ∀ key, table.get? (counterItemKey key) = (a.counters key).map .counter
  ledger : ∀ entryId, table.get? (ledgerItemKey entryId) = (a.ledger entryId).map .ledger
  keys : ∀ k item, table.get? k = some item →
    (∃ key, k = idemKey key) ∨ (∃ key, k = counterItemKey key) ∨ ∃ entryId, k = ledgerItemKey entryId

namespace Holds

variable {table : StoreTable} {a : EnforcementState}

theorem empty : Holds .empty .empty := ⟨fun _ => rfl,fun _ => rfl,fun _ => rfl,by simp⟩

theorem keys_set (h : Holds table a) {k : String × String} {item : StoreItem}
    (hk : (∃ key, k = idemKey key) ∨ (∃ key, k = counterItemKey key) ∨ ∃ entryId, k = ledgerItemKey entryId) :
    ∀ j found, (table.set k item).get? j = some found →
      (∃ key, j = idemKey key) ∨ (∃ key, j = counterItemKey key) ∨ ∃ entryId, j = ledgerItemKey entryId := by
  intro j found hfound
  by_cases hj : j = k
  · exact hj ▸ hk
  · rw [Dict.get?_set,if_neg hj] at hfound
    exact h.keys j found hfound

theorem setIdem (h : Holds table a) (key : String) (record : IdempotencyRecord) :
    Holds (table.set (idemKey key) (.idem record)) (a.setIdempotency key (some record)) := by
  refine ⟨?_,?_,?_,h.keys_set (.inl ⟨key,rfl⟩)⟩
  · intro j
    rw [Dict.get?_set,EnforcementState.setIdempotency]
    by_cases hj : j = key
    · simp [hj]
    · simp [hj,idemKey_inj,h.idem]
  · intro j
    rw [Dict.get?_set,if_neg (idem_ne_counter key j).symm]
    exact h.counters j
  · intro j
    rw [Dict.get?_set,if_neg (idem_ne_ledger key j).symm]
    exact h.ledger j

theorem eraseIdem (h : Holds table a) (key : String) : Holds (table.erase (idemKey key)) (a.setIdempotency key none) := by
  refine ⟨?_,?_,?_,?_⟩
  · intro j
    rw [Dict.get?_erase,EnforcementState.setIdempotency]
    by_cases hj : j = key
    · simp [hj]
    · simp [hj,idemKey_inj,h.idem]
  · intro j
    rw [Dict.get?_erase,if_neg (idem_ne_counter key j).symm]
    exact h.counters j
  · intro j
    rw [Dict.get?_erase,if_neg (idem_ne_ledger key j).symm]
    exact h.ledger j
  · intro j found hfound
    rw [Dict.get?_erase] at hfound
    split at hfound
    · cases hfound
    · exact h.keys j found hfound

theorem setCounter (h : Holds table a) (key : String) (spent : ℚ) :
    Holds (table.set (counterItemKey key) (.counter spent)) (a.setCounter key (some spent)) := by
  refine ⟨?_,?_,?_,h.keys_set (.inr (.inl ⟨key,rfl⟩))⟩
  · intro j
    rw [Dict.get?_set,if_neg (idem_ne_counter j key)]
    exact h.idem j
  · intro j
    rw [Dict.get?_set,EnforcementState.setCounter]
    by_cases hj : j = key
    · simp [hj]
    · simp [hj,counterItemKey_inj,h.counters]
  · intro j
    rw [Dict.get?_set,if_neg (counter_ne_ledger key j).symm]
    exact h.ledger j

theorem setLedger (h : Holds table a) (entryId : String) (entry : LedgerEntry) :
    Holds (table.set (ledgerItemKey entryId) (.ledger entry)) (a.setLedger entryId entry) := by
  refine ⟨?_,?_,?_,h.keys_set (.inr (.inr ⟨entryId,rfl⟩))⟩
  · intro j
    rw [Dict.get?_set,if_neg (idem_ne_ledger j entryId)]
    exact h.idem j
  · intro j
    rw [Dict.get?_set,if_neg (counter_ne_ledger j entryId)]
    exact h.counters j
  · intro j
    rw [Dict.get?_set,EnforcementState.setLedger]
    by_cases hj : j = entryId
    · simp [hj]
    · simp [hj,ledgerItemKey_inj,h.ledger]

theorem readIdemRow (h : Holds table a) (hcoherent : a.Coherent) (key : String) : readIdemRow table key = .ok (a.idempotency key) := by
  rw [SafeAgents.readIdemRow,h.idem]
  cases hrow : a.idempotency key with
  | none => rfl
  | some record =>
    obtain rfl := hcoherent.idem key record hrow
    simp only [Option.map_some,StoreItem.readIdem_idem]
    rfl

theorem readCounterRow (h : Holds table a) (key : String) : readCounterRow table key = a.counter key := by
  rw [SafeAgents.readCounterRow,h.counters,EnforcementState.counter]
  cases a.counters key <;> rfl

theorem contents (h : Holds table a) (hcoherent : a.Coherent) : table.contents = a := by
  have hidem : (fun key => (SafeAgents.readIdemRow table key).toOption.join) = a.idempotency := by
    funext key
    rw [h.readIdemRow hcoherent]
    rfl
  have hcounters : (fun key => (table.get? (counterItemKey key)).bind StoreItem.spent) = a.counters := by
    funext key
    rw [h.counters]
    cases a.counters key <;> rfl
  have hledger : (fun entryId => (table.get? (ledgerItemKey entryId)).bind fun item =>
      (StoreItem.readLedger (ledgerItemKey entryId,item)).toOption) = a.ledger := by
    funext entryId
    rw [h.ledger]
    cases hrow : a.ledger entryId with
    | none => rfl
    | some entry =>
      obtain rfl := hcoherent.ledger entryId entry hrow
      simp only [Option.map_some,Option.bind_some,StoreItem.readLedger_ledger]
      rfl
  rw [StoreTable.contents,hidem,hcounters,hledger]

theorem uncommitted_row (h : Holds table a) (hcoherent : a.Coherent) {row : (String × String) × StoreItem}
    (hrow : row ∈ table.entries) (hstatus : row.2.status = some "uncommitted") :
    ∃ e, StoreItem.readLedger row = .ok e ∧ row.1 = ledgerItemKey e.entryId ∧ a.ledger e.entryId = some e ∧
      e.status = .uncommitted := by
  obtain ⟨k,item⟩ := row
  have hget : table.get? k = some item := Dict.get?_iff.mpr hrow
  rcases h.keys k item hget with ⟨key,rfl⟩ | ⟨key,rfl⟩ | ⟨entryId,rfl⟩
  · rw [h.idem] at hget
    obtain ⟨record,_,rfl⟩ := Option.map_eq_some_iff.mp hget
    exact absurd (Option.some.inj hstatus) record.status.text_ne_uncommitted
  · rw [h.counters] at hget
    obtain ⟨spent,_,rfl⟩ := Option.map_eq_some_iff.mp hget
    cases hstatus
  · rw [h.ledger] at hget
    obtain ⟨entry,hentry,rfl⟩ := Option.map_eq_some_iff.mp hget
    obtain rfl := hcoherent.ledger entryId entry hentry
    exact ⟨entry,StoreItem.readLedger_ledger entry,rfl,hentry,LedgerStatus.text_uncommitted.mp (Option.some.inj hstatus)⟩

theorem row_of_uncommitted (h : Holds table a) {e : LedgerEntry} (hentry : a.ledger e.entryId = some e)
    (hstatus : e.status = .uncommitted) :
    (ledgerItemKey e.entryId,StoreItem.ledger e) ∈ table.entries ∧ (StoreItem.ledger e).status = some "uncommitted" := by
  refine ⟨Dict.get?_iff.mp (by rw [h.ledger,hentry]; rfl),?_⟩
  rw [StoreItem.ledger,hstatus]
  rfl

theorem listed (h : Holds table a) (hcoherent : a.Coherent) {rows : List ((String × String) × StoreItem)}
    (hmem : ∀ row, row ∈ rows ↔ row ∈ table.entries ∧ row.2.status = some "uncommitted") (hnodup : (rows.map Prod.fst).Nodup) :
    ∃ entries, rows.mapM StoreItem.readLedger = .ok entries ∧ entries.Nodup ∧
      ∀ e, e ∈ entries ↔ a.ledger e.entryId = some e ∧ e.status = .uncommitted := by
  refine StoreItem.listed_rows ?_ hnodup ?_
  · intro row hr
    obtain ⟨hentries,hstatus⟩ := (hmem row).mp hr
    exact h.uncommitted_row hcoherent hentries hstatus
  · rintro e ⟨hentry,hstatus⟩
    exact (hmem _).mpr (h.row_of_uncommitted hentry hstatus)

end Holds

def Matches (a : EnforcementState) (o : StoreOp) (out : Except Exn o.Ret × StoreTable) : Prop :=
  (o.apply .memory a).1 = out.1 ∧ Holds out.2 (o.apply .memory a).2

theorem Matches.answers {a : EnforcementState} {o : StoreOp} {out : Except Exn o.Ret × StoreTable} (h : Matches a o out) :
    ∃ a', (ContractOp.op o).Answers a out.1 a' ∧ Holds out.2 a' := ⟨_,Prod.ext h.1 rfl,h.2⟩

theorem tryIncrementCounter_headroom {current : Option ℚ} (delta cap : ℚ) (hcurrent : 0 ≤ current.getD 0) :
    InMemoryStore.tryIncrementCounter current delta cap =
      if cap - delta < 0 ∨ cap < current.getD 0 + delta then (false,current) else (true,some (current.getD 0 + delta)) := by
  rw [InMemoryStore.tryIncrementCounter]
  by_cases hcap : cap < current.getD 0 + delta
  · simp [hcap]
  · have hroom : ¬ (cap - delta < 0 ∨ cap < current.getD 0 + delta) := by
      rintro (hroom | hmore)
      · linarith
      · exact hcap hmore
    rw [if_neg hcap,if_neg hroom]

theorem matches_increment {table : StoreTable} {a : EnforcementState} (h : Holds table a) (hcoherent : a.Coherent) {key : String}
    {delta cap : ℚ} {out : Except Exn Bool × StoreTable}
    (hrefused : cap - delta < 0 ∨ cap < (a.counters key).getD 0 + delta → out = (.ok false,table))
    (hdrawn : ¬ (cap - delta < 0 ∨ cap < (a.counters key).getD 0 + delta) →
      out = (.ok true,table.set (counterItemKey key) (.counter ((a.counters key).getD 0 + delta)))) :
    Matches a (.tryIncrementCounter key delta cap) out := by
  have hmemory := tryIncrementCounter_headroom delta cap (hcoherent.spent_nonneg key)
  rw [Matches,StoreOp.apply]
  simp only [Backend.tryIncrementCounter,hmemory]
  by_cases hcap : cap - delta < 0 ∨ cap < (a.counters key).getD 0 + delta
  · have hsame : a.setCounter key (a.counters key) = a := by simp [EnforcementState.setCounter]
    rw [hrefused hcap,if_pos hcap,hsame]
    exact ⟨rfl,h⟩
  · rw [hdrawn hcap,if_neg hcap]
    exact ⟨rfl,h.setCounter key _⟩

namespace DynamoStore

variable {table : StoreTable} {a : EnforcementState}

theorem put_matches (h : Holds table a) (record : IdempotencyRecord) :
    Matches a (.putIdempotencyIfAbsent record) ((putIdempotencyIfAbsent table record).map .ok id) := by
  rw [Matches,StoreOp.apply,putIdempotencyIfAbsent,putItem,h.idem]
  cases hrow : a.idempotency record.key with
  | none => exact ⟨rfl,h.setIdem record.key record⟩
  | some found => exact ⟨rfl,h⟩

theorem transition_settles (h : Holds table a) {key : String} {f : IdempotencyRecord → IdempotencyRecord} {g : StoreItem → StoreItem}
    (hfg : ∀ record, g (.idem record) = .idem (f record)) :
    (StoreOp.settle a key f).1 = .ok (transitionIdempotency table key g).1 ∧
      Holds (transitionIdempotency table key g).2 (StoreOp.settle a key f).2 := by
  rw [StoreOp.settle,transitionIdempotency,updateItem,h.idem]
  cases hrow : a.idempotency key with
  | none => exact ⟨rfl,h⟩
  | some record =>
    by_cases hstatus : record.status = .inFlight
    · have htext : (StoreItem.idem record).status = some "in_flight" := by
        rw [StoreItem.idem,hstatus]
        rfl
      simp only [hstatus,if_true,Option.map_some,Option.any_some,htext,beq_self_eq_true,Option.getD_some,hfg,ran,Option.isSome_some]
      exact ⟨trivial,h.setIdem key (f record)⟩
    · have htext : ((StoreItem.idem record).status == some "in_flight") = false := by
        simp only [StoreItem.idem,beq_eq_false_iff_ne,ne_eq,Option.some.injEq]
        exact fun heq => hstatus (IdempotencyStatus.text_inFlight.mp heq)
      simp only [hstatus,if_false,Option.map_some,Option.any_some,htext,Bool.false_eq_true,ran,Option.isSome_none,Option.getD_none]
      exact ⟨trivial,h⟩

theorem update_amends (h : Holds table a) {entryId : String} {f : LedgerEntry → LedgerEntry} {g : StoreItem → StoreItem}
    (hfg : ∀ entry, g (.ledger entry) = .ledger (f entry)) (hwritten : (a.ledger entryId).isSome) :
    (StoreOp.amendLedger a entryId f).1 = .ok () ∧ Holds (updateLedger table entryId g) (StoreOp.amendLedger a entryId f).2 := by
  obtain ⟨entry,hentry⟩ := Option.isSome_iff_exists.mp hwritten
  rw [StoreOp.amendLedger,updateLedger,updateItem,h.ledger,hentry]
  simp only [if_true,Option.map_some,Option.getD_some,hfg]
  exact ⟨trivial,h.setLedger entryId (f entry)⟩

theorem increment_matches (h : Holds table a) (hcoherent : a.Coherent) (key : String) (delta cap : ℚ) :
    Matches a (.tryIncrementCounter key delta cap) ((incrementCounter table key delta cap).map .ok id) := by
  have hspent : (table.get? (counterItemKey key)).bind StoreItem.spent = a.counters key := by
    rw [h.counters]
    cases a.counters key <;> rfl
  have hitem : ((table.get? (counterItemKey key)).getD {}).spent = a.counters key ∧
      ({ (table.get? (counterItemKey key)).getD {} with spent := some ((a.counters key).getD 0 + delta) } : StoreItem) =
        .counter ((a.counters key).getD 0 + delta) := by
    rw [h.counters]
    cases a.counters key <;> exact ⟨rfl,rfl⟩
  apply matches_increment h hcoherent
  · intro hcap
    rw [incrementCounter]
    by_cases hroom : cap - delta < 0
    · simp [hroom]
    · have hover : cap < (a.counters key).getD 0 + delta := hcap.resolve_left hroom
      cases hcounter : a.counters key with
      | none =>
        rw [hcounter,Option.getD_none] at hover
        exact absurd (show cap - delta < 0 by linarith) hroom
      | some spent =>
        rw [hcounter,Option.getD_some] at hover
        have hcondition : ¬ spent ≤ cap - delta := by linarith
        simp [hroom,updateItem,hspent,hcounter,hcondition,ran]
  · intro hcap
    obtain ⟨hroom,hover⟩ := not_or.mp hcap
    have hcondition : ((a.counters key).all fun spent => decide (spent ≤ cap - delta)) = true := by
      cases hcounter : a.counters key with
      | none => rfl
      | some spent =>
        rw [hcounter,Option.getD_some] at hover
        simp only [Option.all_some,decide_eq_true_eq]
        linarith
    simp only [incrementCounter,if_neg hroom,updateItem,hspent,hcondition,if_true,hitem.1,hitem.2,ran,Option.isSome_some,
      Option.getD_some]
    rfl

theorem list_answers (h : Holds table a) (hcoherent : a.Coherent) {scan : Scan (String × String) StoreItem} (hfits : scan.Fits table) :
    ContractOp.getUncommittedEntries.Answers a ((getUncommittedEntries table scan).map (↑·)) a := by
  have hperm := scan.page_fits hfits
  have hmem : ∀ row, row ∈ (scan.page table).filter (fun row => row.2.status == some "uncommitted") ↔
      row ∈ table.entries ∧ row.2.status = some "uncommitted" := by
    intro row
    rw [List.mem_filter,hperm.mem_iff,beq_iff_eq]
  have hnodup : (((scan.page table).filter fun row => row.2.status == some "uncommitted").map Prod.fst).Nodup :=
    (List.filter_sublist.map Prod.fst).nodup ((hperm.map Prod.fst).nodup_iff.mpr table.unique)
  obtain ⟨entries,hread,hentries,hall⟩ := h.listed hcoherent hmem hnodup
  refine ⟨rfl,entries,?_,Multiset.coe_nodup.mpr hentries,fun e => Multiset.mem_coe.trans (hall e)⟩
  rw [getUncommittedEntries,hread]
  rfl

theorem run_answers (h : Holds table a) (hcoherent : a.Coherent) {scan : Scan (String × String) StoreItem} (hfits : scan.Fits table)
    {o : ContractOp} (hallowed : o.Allowed a) : ∃ a', o.Answers a (run scan o table).1 a' ∧ Holds (run scan o table).2 a' := by
  cases o with
  | getUncommittedEntries => exact ⟨a,list_answers h hcoherent hfits,h⟩
  | op o =>
    apply Matches.answers
    cases o with
    | getIdempotency key => exact ⟨(h.readIdemRow hcoherent key).symm,h⟩
    | putIdempotencyIfAbsent record => exact put_matches h record
    | completeIdempotency key decisionJson resultJson => cases resultJson <;> exact transition_settles h fun _ => rfl
    | failIdempotency key error => exact transition_settles h fun _ => rfl
    | deleteIdempotency key => exact ⟨rfl,h.eraseIdem key⟩
    | tryIncrementCounter key delta cap => exact increment_matches h hcoherent key delta cap
    | readCounter key => exact ⟨congrArg _ (h.readCounterRow key).symm,h⟩
    | writeLedger entry => exact ⟨rfl,h.setLedger entry.entryId entry⟩
    | commitLedger entryId ts =>
      have hmatch : _ ∧ Holds (commitLedger table entryId ts) _ :=
        update_amends h (f := fun e => { e with status := .committed, tsCommitted := some ts }) (fun _ => rfl) (hallowed.2 entryId rfl)
      exact hmatch
    | compensateLedger entryId error =>
      have hmatch : _ ∧ Holds (compensateLedger table entryId error) _ :=
        update_amends h (f := fun e => { e with status := .compensated, error := some error }) (fun _ => rfl) (hallowed.2 entryId rfl)
      exact hmatch
    | escalateLedger entryId error =>
      have hmatch : _ ∧ Holds (escalateLedger table entryId error) _ :=
        update_amends h (f := fun e => { e with status := .escalated, error := some error }) (fun _ => rfl) (hallowed.2 entryId rfl)
      exact hmatch

end DynamoStore

namespace SqliteEnforcementStore

variable {table : StoreTable} {a : EnforcementState}

theorem updateExistingItem_present {k : String × String} {found : StoreItem} (hrow : table.get? k = some found) (item : StoreItem) :
    updateExistingItem table k item = .ok (table.set k item) := by simp [updateExistingItem,hrow]

theorem putNewItem_absent {k : String × String} (hrow : table.get? k = none) (item : StoreItem) :
    putNewItem table k item = .ok (table.set k item) := by simp [putNewItem,hrow]

theorem put_matches (h : Holds table a) (record : IdempotencyRecord) :
    Matches a (.putIdempotencyIfAbsent record) (putIdempotencyIfAbsent table record) := by
  have hget := h.idem record.key
  rw [Matches,StoreOp.apply,putIdempotencyIfAbsent]
  cases hrow : a.idempotency record.key with
  | none =>
    rw [hrow,Option.map_none] at hget
    rw [putNewItem_absent hget,hget]
    exact ⟨rfl,h.setIdem record.key record⟩
  | some found =>
    rw [hget,hrow]
    exact ⟨rfl,h⟩

theorem transition_settles (h : Holds table a) {key : String} {f : IdempotencyRecord → IdempotencyRecord} {g : StoreItem → StoreItem}
    (hfg : ∀ record, g (.idem record) = .idem (f record)) :
    (StoreOp.settle a key f).1 = (transitionIdempotency table key g).1 ∧
      Holds (transitionIdempotency table key g).2 (StoreOp.settle a key f).2 := by
  have hget := h.idem key
  rw [StoreOp.settle,transitionIdempotency]
  cases hrow : a.idempotency key with
  | none =>
    rw [hget,hrow]
    exact ⟨rfl,h⟩
  | some record =>
    rw [hrow,Option.map_some] at hget
    by_cases hstatus : record.status = .inFlight
    · have htext : (StoreItem.idem record).status = some "in_flight" := by
        rw [StoreItem.idem,hstatus]
        rfl
      simp only [hget,hstatus,if_true,htext,ne_eq,not_true,if_false,updateExistingItem_present hget,hfg]
      exact ⟨rfl,h.setIdem key (f record)⟩
    · have htext : (StoreItem.idem record).status ≠ some "in_flight" := by
        simp only [StoreItem.idem,ne_eq,Option.some.injEq]
        exact fun heq => hstatus (IdempotencyStatus.text_inFlight.mp heq)
      simp only [hget,hstatus,if_false,if_pos htext]
      exact ⟨rfl,h⟩

theorem attr_spent (spent : ℚ) : StoreItem.attr "spent" (StoreItem.counter spent).spent = .ok spent := rfl

theorem increment_matches (h : Holds table a) (hcoherent : a.Coherent) (key : String) (delta cap : ℚ) :
    Matches a (.tryIncrementCounter key delta cap) (incrementCounter table key delta cap) := by
  have hget := h.counters key
  apply matches_increment h hcoherent
  · intro hcap
    rw [incrementCounter]
    by_cases hroom : cap - delta < 0
    · exact if_pos hroom
    · have hover := hcap.resolve_left hroom
      rw [if_neg hroom,hget]
      cases hcounter : a.counters key with
      | none =>
        rw [hcounter,Option.getD_none] at hover
        simp only [Option.map_none,gt_iff_lt,if_pos hover]
        rfl
      | some spent =>
        rw [hcounter,Option.getD_some] at hover
        simp only [Option.map_some]
        rw [Checked.bind_of_ok (attr_spent spent),if_pos hover]
        rfl
  · intro hcap
    obtain ⟨hroom,hover⟩ := not_or.mp hcap
    rw [incrementCounter,if_neg hroom]
    cases hcounter : a.counters key with
    | none =>
      rw [hcounter,Option.getD_none] at hover
      rw [hcounter,Option.map_none] at hget
      simp only [hget,gt_iff_lt,if_neg hover,putNewItem_absent hget]
      rfl
    | some spent =>
      rw [hcounter,Option.getD_some] at hover
      rw [hcounter,Option.map_some] at hget
      simp only [hget]
      rw [Checked.bind_of_ok (attr_spent spent),if_neg hover,updateExistingItem_present hget]
      rfl

theorem write_matches (h : Holds table a) (entry : LedgerEntry) : Matches a (.writeLedger entry) (writeLedger table entry) := by
  have hset : writeLedger table entry = (.ok (),table.set (ledgerItemKey entry.entryId) (.ledger entry)) := by
    rw [writeLedger]
    cases hrow : table.get? (ledgerItemKey entry.entryId) with
    | none =>
      simp only [putNewItem_absent hrow]
      rfl
    | some found =>
      simp only [updateExistingItem_present hrow]
      rfl
  rw [hset]
  exact ⟨rfl,h.setLedger entry.entryId entry⟩

theorem transition_amends (h : Holds table a) {entryId : String} {f : LedgerEntry → LedgerEntry} {g : StoreItem → StoreItem}
    (hfg : ∀ entry, g (.ledger entry) = .ledger (f entry)) :
    (StoreOp.amendLedger a entryId f).1 = (transitionLedger table entryId g).1 ∧
      Holds (transitionLedger table entryId g).2 (StoreOp.amendLedger a entryId f).2 := by
  have hget := h.ledger entryId
  rw [StoreOp.amendLedger,transitionLedger]
  cases hrow : a.ledger entryId with
  | none =>
    rw [hrow,Option.map_none] at hget
    simp only [hget]
    exact ⟨rfl,h⟩
  | some entry =>
    rw [hrow,Option.map_some] at hget
    simp only [hget,updateExistingItem_present hget,hfg]
    exact ⟨rfl,h.setLedger entryId (f entry)⟩

theorem likeLedger_ledger (entryId : String) : likeLedger ("LEDGER#" ++ entryId) = true := by
  have hname : "LEDGER#".toList.map Char.toLower = "ledger#".toList := by decide
  rw [likeLedger,String.toList_append,List.map_append,hname]
  exact List.isPrefixOf_iff_prefix.mpr (List.prefix_append _ _)

theorem likeLedger_other (pre : List Char) {c : Char} {rest : List Char} (hpre : pre.map Char.toLower = c :: rest) (hc : c ≠ 'l')
    {text : String} (htext : pre <+: text.toList) : likeLedger text = false := by
  obtain ⟨tail,htail⟩ := htext
  rw [likeLedger,← htail,List.map_append,hpre]
  have hhead : "ledger#".toList = 'l' :: "edger#".toList := by decide
  rw [hhead,List.cons_append,List.isPrefixOf]
  simp [hc.symm]

theorem collect_filter {rows : List ((String × String) × StoreItem)} (h : ∀ row ∈ rows, row.2.status.isSome) :
    collect rows = (rows.filter fun row => row.2.status == some "uncommitted").mapM StoreItem.readLedger := by
  induction rows with
  | nil => rfl
  | cons row rows ih =>
    obtain ⟨status,hstatus⟩ := Option.isSome_iff_exists.mp (h row List.mem_cons_self)
    have hrest := ih fun r hr => h r (List.mem_cons_of_mem row hr)
    have hattr : StoreItem.attr "status" row.2.status = .ok status := by rw [hstatus]; rfl
    rw [collect,Checked.bind_of_ok hattr]
    by_cases huncommitted : status = "uncommitted"
    · have hkeep : (row.2.status == some "uncommitted") = true := by simp [hstatus,huncommitted]
      rw [if_neg (not_not.mpr huncommitted),List.filter_cons,if_pos hkeep,List.mapM_cons,hrest]
    · have hdrop : ¬ (row.2.status == some "uncommitted") = true := by simp [hstatus,huncommitted]
      rw [if_pos huncommitted,List.filter_cons,if_neg hdrop,hrest]

theorem list_answers (h : Holds table a) (hcoherent : a.Coherent) (select : RowOrder (String × String) StoreItem) :
    ContractOp.getUncommittedEntries.Answers a ((getUncommittedEntries table select).map (↑·)) a := by
  have hperm := select.perm table.entries
  have hledger : ∀ row ∈ table.entries, likeLedger row.1.1 = true → row.2.status.isSome := by
    rintro ⟨k,item⟩ hrow hlike
    have hget : table.get? k = some item := Dict.get?_iff.mpr hrow
    rcases h.keys k item hget with ⟨key,rfl⟩ | ⟨key,rfl⟩ | ⟨entryId,rfl⟩
    · have hother : likeLedger ("IDEM#" ++ key) = false :=
        likeLedger_other "IDEM#".toList rfl (by decide) ⟨key.toList,by simp⟩
      exact absurd hlike (by simp [idemKey,hother])
    · have hother : likeLedger ("COUNTER#" ++ key) = false :=
        likeLedger_other "COUNTER#".toList rfl (by decide) ⟨key.toList,by simp⟩
      exact absurd hlike (by simp [counterItemKey,hother])
    · rw [h.ledger] at hget
      obtain ⟨entry,_,rfl⟩ := Option.map_eq_some_iff.mp hget
      rfl
  have hlisted : getUncommittedEntries table select =
      (((select.order table.entries).filter fun row => likeLedger row.1.1).filter
        fun row => row.2.status == some "uncommitted").mapM StoreItem.readLedger := by
    apply collect_filter
    intro row hrow
    rw [List.mem_filter,hperm.mem_iff] at hrow
    exact hledger row hrow.1 hrow.2
  have hmem : ∀ row, row ∈ ((select.order table.entries).filter fun row => likeLedger row.1.1).filter
      (fun row => row.2.status == some "uncommitted") ↔ row ∈ table.entries ∧ row.2.status = some "uncommitted" := by
    intro row
    rw [List.mem_filter,List.mem_filter,hperm.mem_iff,beq_iff_eq]
    constructor
    · rintro ⟨⟨hrow,_⟩,hstatus⟩
      exact ⟨hrow,hstatus⟩
    · rintro ⟨hrow,hstatus⟩
      obtain ⟨e,_,hkey,_⟩ := h.uncommitted_row hcoherent hrow hstatus
      exact ⟨⟨hrow,by rw [hkey]; exact likeLedger_ledger e.entryId⟩,hstatus⟩
  have hnodup : ((((select.order table.entries).filter fun row => likeLedger row.1.1).filter
      fun row => row.2.status == some "uncommitted").map Prod.fst).Nodup :=
    ((List.filter_sublist.trans List.filter_sublist).map Prod.fst).nodup ((hperm.map Prod.fst).nodup_iff.mpr table.unique)
  obtain ⟨entries,hread,hentries,hall⟩ := h.listed hcoherent hmem hnodup
  refine ⟨rfl,entries,?_,Multiset.coe_nodup.mpr hentries,fun e => Multiset.mem_coe.trans (hall e)⟩
  rw [hlisted,hread]
  rfl

theorem run_answers (h : Holds table a) (hcoherent : a.Coherent) (select : RowOrder (String × String) StoreItem) (o : ContractOp) :
    ∃ a', o.Answers a (run select o table).1 a' ∧ Holds (run select o table).2 a' := by
  cases o with
  | getUncommittedEntries => exact ⟨a,list_answers h hcoherent select,h⟩
  | op o =>
    apply Matches.answers
    cases o with
    | getIdempotency key => exact ⟨(h.readIdemRow hcoherent key).symm,h⟩
    | putIdempotencyIfAbsent record => exact put_matches h record
    | completeIdempotency key decisionJson resultJson => exact transition_settles h fun _ => rfl
    | failIdempotency key error => exact transition_settles h fun _ => rfl
    | deleteIdempotency key => exact ⟨rfl,h.eraseIdem key⟩
    | tryIncrementCounter key delta cap => exact increment_matches h hcoherent key delta cap
    | readCounter key => exact ⟨congrArg _ (h.readCounterRow key).symm,h⟩
    | writeLedger entry => exact write_matches h entry
    | commitLedger entryId ts => exact transition_amends h fun _ => rfl
    | compensateLedger entryId error => exact transition_amends h fun _ => rfl
    | escalateLedger entryId error => exact transition_amends h fun _ => rfl

end SqliteEnforcementStore

theorem ledger_settle (a : EnforcementState) (key : String) (f : IdempotencyRecord → IdempotencyRecord) :
    (StoreOp.settle a key f).2.ledger = a.ledger := by
  rw [StoreOp.settle]
  split
  · split <;> rfl
  · rfl

theorem isSome_setLedger {a : EnforcementState} {entryId : String} (h : (a.ledger entryId).isSome) (j : String) (e : LedgerEntry) :
    ((a.setLedger j e).ledger entryId).isSome := by
  simp only [EnforcementState.setLedger,Function.update_apply]
  split
  · rfl
  · exact h

theorem isSome_amendLedger {a : EnforcementState} {entryId : String} (h : (a.ledger entryId).isSome) (j : String)
    (f : LedgerEntry → LedgerEntry) : ((StoreOp.amendLedger a j f).2.ledger entryId).isSome := by
  rw [StoreOp.amendLedger]
  split
  · exact isSome_setLedger h j _
  · exact h

theorem isSome_apply {a : EnforcementState} {entryId : String} (h : (a.ledger entryId).isSome) (o : StoreOp) :
    ((o.apply .memory a).2.ledger entryId).isSome := by
  cases o with
  | getIdempotency key => exact h
  | putIdempotencyIfAbsent record =>
    rw [StoreOp.apply]
    split <;> exact h
  | completeIdempotency key decisionJson resultJson =>
    rw [StoreOp.apply,ledger_settle]
    exact h
  | failIdempotency key error =>
    rw [StoreOp.apply,ledger_settle]
    exact h
  | deleteIdempotency key => exact h
  | tryIncrementCounter key delta cap => exact h
  | readCounter key => exact h
  | writeLedger entry => exact isSome_setLedger h entry.entryId entry
  | commitLedger j ts => exact isSome_amendLedger h j _
  | compensateLedger j error => exact isSome_amendLedger h j _
  | escalateLedger j error => exact isSome_amendLedger h j _

theorem ContractOp.answers_ledger {a a' : EnforcementState} {o : ContractOp} {r : Except Exn o.Ret} (h : o.Answers a r a')
    {entryId : String} (hwritten : (a.ledger entryId).isSome) : (a'.ledger entryId).isSome := by
  cases o with
  | getUncommittedEntries => exact h.1 ▸ hwritten
  | op o =>
    have ha' : (o.apply .memory a).2 = a' := congrArg Prod.snd h
    exact ha' ▸ isSome_apply hwritten o

theorem ContractOp.answers_write {a a' : EnforcementState} {e : LedgerEntry} {r : Except Exn Unit}
    (h : (ContractOp.op (.writeLedger e)).Answers a r a') : (a'.ledger e.entryId).isSome := by
  have ha' : a.setLedger e.entryId e = a' := congrArg Prod.snd h
  rw [← ha']
  simp [EnforcementState.setLedger]

def runs {σ : Type} (run : (o : ContractOp) → σ → Except Exn o.Ret × σ) (s : σ) (ops : List ContractOp) :
    List ((o : ContractOp) × Except Exn o.Ret) × σ :=
  ops.foldl (fun out o => (out.1 ++ [⟨o,(run o out.2).1⟩],(run o out.2).2)) ([],s)

theorem runs_concat {σ : Type} (run : (o : ContractOp) → σ → Except Exn o.Ret × σ) (s : σ) (ops : List ContractOp) (o : ContractOp) :
    runs run s (ops ++ [o]) = ((runs run s ops).1 ++ [⟨o,(run o (runs run s ops).2).1⟩],(run o (runs run s ops).2).2) := by
  simp [runs]

section Agreement
variable (scan : Scan (String × String) StoreItem) (select : RowOrder (String × String) StoreItem)

structure InContract (ops : List ContractOp) : Prop where
  deltas : ∀ o ∈ ops, ∀ delta, o.delta = some delta → 0 ≤ delta
  written : ∀ before o after, ops = before ++ o :: after → ∀ entryId, o.transition = some entryId →
    ∃ e, .op (.writeLedger e) ∈ before ∧ e.entryId = entryId
  fits : ∀ before after, ops = before ++ after → scan.Fits (runs (DynamoStore.run scan) .empty before).2

variable {scan}

theorem InContract.init {ops : List ContractOp} {o : ContractOp} (h : InContract scan (ops ++ [o])) : InContract scan ops := by
  refine ⟨?_,?_,?_⟩
  · intro p hp
    exact h.deltas p (List.mem_append_left _ hp)
  · rintro before p after rfl
    exact h.written before p (after ++ [o]) (by simp)
  · rintro before after rfl
    exact h.fits before (after ++ [o]) (by simp)

theorem runs_simulate {ops : List ContractOp} (h : InContract scan ops) :
    ∃ a : EnforcementState, a.Coherent ∧ (runs InMemoryStore.run {} ops).2.contents = a ∧
      Holds (runs (DynamoStore.run scan) .empty ops).2 a ∧ Holds (runs (SqliteEnforcementStore.run select) .empty ops).2 a ∧
      (∀ e, .op (.writeLedger e) ∈ ops → (a.ledger e.entryId).isSome) ∧
      (runs InMemoryStore.run {} ops).1 = (runs (DynamoStore.run scan) .empty ops).1 ∧
      (runs InMemoryStore.run {} ops).1 = (runs (SqliteEnforcementStore.run select) .empty ops).1 := by
  induction ops using List.reverseRecOn with
  | nil =>
    refine ⟨.empty,⟨?_,?_,?_⟩,rfl,.empty,.empty,?_,rfl,rfl⟩ <;> simp [EnforcementState.empty]
  | append_singleton ops o ih =>
    obtain ⟨a,hcoherent,rfl,hdynamo,hsqlite,hledger,hansd,hanss⟩ := ih h.init
    have hallowed : o.Allowed (runs InMemoryStore.run {} ops).2.contents := by
      refine ⟨h.deltas o (by simp),?_⟩
      intro entryId htransition
      obtain ⟨e,he,rfl⟩ := h.written ops o [] rfl entryId htransition
      exact hledger e he
    have hmemory := InMemoryStore.run_answers hcoherent o
    obtain ⟨d,hd,hholdsd⟩ := DynamoStore.run_answers hdynamo hcoherent (h.fits ops [o] rfl) hallowed
    obtain ⟨q,hq,hholdsq⟩ := SqliteEnforcementStore.run_answers hsqlite hcoherent select o
    obtain ⟨hsamed,rfl⟩ := ContractOp.answers_unique hmemory hd
    obtain ⟨hsameq,hstate⟩ := ContractOp.answers_unique hmemory hq
    simp only [runs_concat]
    refine ⟨_,ContractOp.answers_coherent hcoherent hallowed hmemory,rfl,hholdsd,hstate ▸ hholdsq,?_,?_,?_⟩
    · intro e he
      rcases List.mem_append.mp he with he | he
      · exact ContractOp.answers_ledger hmemory (hledger e he)
      · obtain rfl := List.mem_singleton.mp he
        exact ContractOp.answers_write hmemory
    · rw [hansd,hsamed]
    · rw [hanss,hsameq]

theorem stores_agree (ops : List ContractOp) (h : InContract scan ops) :
    (runs InMemoryStore.run {} ops).1 = (runs (DynamoStore.run scan) .empty ops).1 ∧
      (runs InMemoryStore.run {} ops).1 = (runs (SqliteEnforcementStore.run select) .empty ops).1 ∧
      (runs InMemoryStore.run {} ops).2.contents = (runs (DynamoStore.run scan) .empty ops).2.contents ∧
      (runs InMemoryStore.run {} ops).2.contents = (runs (SqliteEnforcementStore.run select) .empty ops).2.contents := by
  obtain ⟨a,hcoherent,hmemory,hdynamo,hsqlite,_,hansd,hanss⟩ := runs_simulate select h
  exact ⟨hansd,hanss,hmemory.trans (hdynamo.contents hcoherent).symm,hmemory.trans (hsqlite.contents hcoherent).symm⟩

end Agreement

namespace Agreed

def entry : LedgerEntry where
  entryId := "entry-1"
  idempotencyKey := some "k"
  callJson :=
    { principal := ⟨"agent","skill","owner",.B⟩, tool := "payments", op := "transfer", args := .obj [("amount",.num "5")],
      manifest := { tool := "payments", op := "transfer", effect := .write, external := true, reversible := some true },
      taint := ⟨false,[]⟩, session := ⟨"turn-1",[]⟩, ts := "1970-01-01T00:00:00+00:00" }
  decisionKind := .allow
  status := .uncommitted
  tsCreated := "1970-01-01T00:00:00+00:00"

def ops : List ContractOp :=
  [.op (.writeLedger entry),.op (.tryIncrementCounter "calls" 1 1),.op (.tryIncrementCounter "calls" 1 1),.getUncommittedEntries,
   .op (.commitLedger "entry-1" "1970-01-01T00:00:01+00:00")]

def inOrder : RowOrder (String × String) StoreItem := ⟨id,fun rows => List.Perm.refl rows⟩

def megabyte : Scan (String × String) StoreItem := { inOrder with size := fun _ => 400, limit := 1000000 }

theorem ops_fit (n : Nat) : megabyte.Fits (runs (DynamoStore.run megabyte) .empty (ops.take n)).2 := by
  have hfew : ∀ m ≤ 5, megabyte.Fits (runs (DynamoStore.run megabyte) .empty (ops.take m)).2 := by
    unfold Scan.Fits
    decide +kernel
  rcases Nat.lt_or_ge n 5 with hn | hn
  · exact hfew n (by omega)
  · have hall : ops.take n = ops.take 5 := by rw [List.take_of_length_le hn,List.take_of_length_le (by decide)]
    rw [hall]
    exact hfew 5 (by omega)

theorem ops_inContract : InContract megabyte ops := by
  refine ⟨?_,?_,?_⟩
  · decide
  · intro before o after hops entryId htransition
    have hbefore : before = ops.take before.length := by rw [hops,List.take_left]
    have hget : ops[before.length]? = some o := by rw [hops,List.getElem?_append_right (Nat.le_refl _),Nat.sub_self]; rfl
    have hlast : ∀ n, ∀ p, ops[n]? = some p → p.transition.isSome → n = 4 ∧ p.transition = some "entry-1" := by
      intro n p hp hsome
      match n with
      | 0 | 1 | 2 | 3 =>
        obtain rfl := Option.some.inj hp
        cases hsome
      | 4 =>
        obtain rfl := Option.some.inj hp
        exact ⟨rfl,rfl⟩
      | n + 5 => cases hp
    obtain ⟨hfour,hentry⟩ := hlast before.length o hget (by rw [htransition]; rfl)
    refine ⟨entry,?_,Option.some.inj (hentry.symm.trans htransition)⟩
    rw [hbefore,hfour]
    exact List.mem_cons_self
  · intro before after hops
    have hbefore : before = ops.take before.length := by rw [hops,List.take_left]
    rw [hbefore]
    exact ops_fit before.length

theorem stores_agree_transfer :
    InContract megabyte ops ∧ (runs InMemoryStore.run {} ops).1 = (runs (DynamoStore.run megabyte) .empty ops).1 :=
  ⟨ops_inContract,(stores_agree inOrder ops ops_inContract).1⟩

end Agreed

end SafeAgents
