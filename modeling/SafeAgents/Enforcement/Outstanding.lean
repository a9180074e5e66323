import SafeAgents.Enforcement.Agreement
import SafeAgents.Enforcement.ExactlyOnce

namespace SafeAgents

open Interleaving ItemTable Enforcement

namespace StoreOp

def amended (ledger : String → Option LedgerEntry) (entryId : String) (f : LedgerEntry → LedgerEntry) : String → Option LedgerEntry :=
  Function.update ledger entryId ((ledger entryId).map f)

def ledgerAfter (ledger : String → Option LedgerEntry) : StoreOp → String → Option LedgerEntry
  | writeLedger entry => Function.update ledger entry.entryId (some entry)
  | commitLedger entryId ts => amended ledger entryId fun e => { e with status := .committed, tsCommitted := some ts }
  | compensateLedger entryId error => amended ledger entryId fun e => { e with status := .compensated, error := some error }
  | escalateLedger entryId error => amended ledger entryId fun e => { e with status := .escalated, error := some error }
  | _ => ledger

theorem amended_absent {ledger : String → Option LedgerEntry} {entryId : String} (h : ledger entryId = none)
    (f : LedgerEntry → LedgerEntry) : amended ledger entryId f = ledger := by
  rw [amended,h,Option.map_none,← h,Function.update_eq_self]

theorem amendLedger_ledger (s : EnforcementState) (entryId : String) (f : LedgerEntry → LedgerEntry) :
    (amendLedger s entryId f).2.ledger = amended s.ledger entryId f := by
  rw [amendLedger]
  cases h : s.ledger entryId with
  | none => exact (amended_absent h f).symm
  | some entry => simp [EnforcementState.setLedger,amended,h]

theorem settle_ledger (s : EnforcementState) (key : String) (f : IdempotencyRecord → IdempotencyRecord) :
    (settle s key f).2.ledger = s.ledger := by
  unfold settle
  split
  · split <;> rfl
  · rfl

theorem apply_ledger (b : Backend) (o : StoreOp) (s : EnforcementState) : (o.apply b s).2.ledger = o.ledgerAfter s.ledger := by
  cases o with
  | getIdempotency key => rfl
  | putIdempotencyIfAbsent record =>
    rw [apply]
    split <;> rfl
  | completeIdempotency key decisionJson resultJson => exact settle_ledger s key _
  | failIdempotency key error => exact settle_ledger s key _
  | deleteIdempotency key => rfl
  | tryIncrementCounter key delta cap => rfl
  | readCounter key => rfl
  | writeLedger entry => rfl
  | commitLedger entryId ts => exact amendLedger_ledger s entryId _
  | compensateLedger entryId error => exact amendLedger_ledger s entryId _
  | escalateLedger entryId error => exact amendLedger_ledger s entryId _

def ledgerOf (requests : List StoreOp) : String → Option LedgerEntry := requests.foldl ledgerAfter fun _ => none

end StoreOp

def Outstanding (ledger : String → Option LedgerEntry) (e : LedgerEntry) : Prop :=
  ledger e.entryId = some e ∧ e.status = .uncommitted

def Lists (answer : Except Exn (List LedgerEntry)) (ledger : String → Option LedgerEntry) : Prop :=
  ∃ entries, answer = .ok entries ∧ entries.Nodup ∧ ∀ e, e ∈ entries ↔ Outstanding ledger e

section Ledger
variable {ledger : String → Option LedgerEntry}

def Named (ledger : String → Option LedgerEntry) : Prop := ∀ entryId e, ledger entryId = some e → e.entryId = entryId

theorem Named.write (h : Named ledger) (entry : LedgerEntry) : Named (Function.update ledger entry.entryId (some entry)) := by
  intro j e he
  by_cases hj : j = entry.entryId
  · subst hj
    rw [Function.update_self] at he
    obtain rfl := Option.some.inj he
    rfl
  · rw [Function.update_of_ne hj] at he
    exact h j e he

theorem Named.amended (h : Named ledger) {f : LedgerEntry → LedgerEntry} (hf : ∀ e, (f e).entryId = e.entryId) (entryId : String) :
    Named (StoreOp.amended ledger entryId f) := by
  intro j e he
  by_cases hj : j = entryId
  · subst hj
    rw [StoreOp.amended,Function.update_self] at he
    obtain ⟨old,hold,rfl⟩ := Option.map_eq_some_iff.mp he
    rw [hf]
    exact h j old hold
  · rw [StoreOp.amended,Function.update_of_ne hj] at he
    exact h j e he

theorem Named.after (h : Named ledger) (o : StoreOp) : Named (o.ledgerAfter ledger) := by
  have hamended : ∀ (f : LedgerEntry → LedgerEntry) (entryId : String), (∀ e, (f e).entryId = e.entryId) →
      Named (StoreOp.amended ledger entryId f) := fun _ entryId hf => h.amended hf entryId
  cases o with
  | writeLedger entry => exact h.write entry
  | commitLedger entryId ts => exact hamended _ entryId fun _ => rfl
  | compensateLedger entryId error => exact hamended _ entryId fun _ => rfl
  | escalateLedger entryId error => exact hamended _ entryId fun _ => rfl
  | _ => exact h

theorem not_outstanding_amended {f : LedgerEntry → LedgerEntry} (hf : ∀ e, (f e).status ≠ .uncommitted) {entryId : String}
    {e : LedgerEntry} (h : Outstanding (StoreOp.amended ledger entryId f) e) : e.entryId ≠ entryId ∧ Outstanding ledger e := by
  obtain ⟨he,hstatus⟩ := h
  by_cases hj : e.entryId = entryId
  · rw [StoreOp.amended,hj,Function.update_self] at he
    obtain ⟨old,_,rfl⟩ := Option.map_eq_some_iff.mp he
    exact absurd hstatus (hf old)
  · rw [StoreOp.amended,Function.update_of_ne hj] at he
    exact ⟨hj,he,hstatus⟩

theorem written_after {o : StoreOp} {e : LedgerEntry} (h : Outstanding (o.ledgerAfter ledger) e) :
    o = .writeLedger e ∨ Outstanding ledger e := by
  cases o with
  | writeLedger entry =>
    obtain ⟨he,hstatus⟩ := h
    by_cases hj : e.entryId = entry.entryId
    · rw [StoreOp.ledgerAfter,hj,Function.update_self] at he
      obtain rfl := Option.some.inj he
      exact .inl rfl
    · rw [StoreOp.ledgerAfter,Function.update_of_ne hj] at he
      exact .inr ⟨he,hstatus⟩
  | commitLedger entryId ts => exact .inr (not_outstanding_amended (by simp) h).2
  | compensateLedger entryId error => exact .inr (not_outstanding_amended (by simp) h).2
  | escalateLedger entryId error => exact .inr (not_outstanding_amended (by simp) h).2
  | _ => exact .inr h

theorem named_ledgerOf (requests : List StoreOp) : Named (StoreOp.ledgerOf requests) := by
  have hfold : ∀ ledger, Named ledger → Named (requests.foldl (fun l o => o.ledgerAfter l) ledger) := by
    induction requests with
    | nil => exact fun _ h => h
    | cons o rest ih => exact fun ledger h => ih _ (h.after o)
  exact hfold _ (by simp [Named])

theorem written_of_outstanding {requests : List StoreOp} {e : LedgerEntry} (h : Outstanding (StoreOp.ledgerOf requests) e) :
    StoreOp.writeLedger e ∈ requests := by
  induction requests using List.reverseRecOn with
  | nil => simp [Outstanding,StoreOp.ledgerOf] at h
  | append_singleton requests o ih =>
    rw [StoreOp.ledgerOf,List.foldl_append] at h
    rcases written_after h with rfl | hold
    · simp
    · exact List.mem_append_left _ (ih hold)

end Ledger

def otherFamilies : List (String × List String) :=
  [("GRANT#",[]),("RECORD#",[]),("PROPOSAL#",["pending","ratified","rejected"]),("ACK#",[]),("ENVELOPE#",[]),("INHERIT#",[]),
   ("INTENT#",["pending","approved","rejected","expired","executed","refused","permitted"]),("TOOLDEF#",[]),("TOOLREC#",[]),
   ("TOOLPROP#",["pending","ratified","rejected"])]

structure OtherRow where
  key : String × String
  item : Option StoreItem
  family : ∃ f ∈ otherFamilies, f.1.toList <+: key.1.toList ∧ ∀ i, item = some i → ∀ status, i.status = some status → status ∈ f.2

def OtherRow.write (row : OtherRow) (table : StoreTable) : StoreTable :=
  match row.item with
  | some item => table.set row.key item
  | none => table.erase row.key

theorem OtherRow.not_ledger (row : OtherRow) : SqliteEnforcementStore.likeLedger row.key.1 = false := by
  obtain ⟨f,hf,hpre,-⟩ := row.family
  have hheads : ∀ f ∈ otherFamilies, (f.1.toList.map Char.toLower).head?.any fun c => decide (c ≠ 'l') := by decide
  have hhead := hheads f hf
  cases hname : f.1.toList.map Char.toLower with
  | nil => simp [hname] at hhead
  | cons c rest =>
    rw [hname] at hhead
    exact SqliteEnforcementStore.likeLedger_other f.1.toList hname (by simpa using hhead) hpre

theorem OtherRow.not_uncommitted (row : OtherRow) {item : StoreItem} (h : row.item = some item) : item.status ≠ some "uncommitted" := by
  obtain ⟨f,hf,-,hstatus⟩ := row.family
  have hnone : ∀ f ∈ otherFamilies, "uncommitted" ∉ f.2 := by decide
  exact fun hu => hnone f hf (hstatus item h "uncommitted" hu)

structure Mirrors (table : StoreTable) (ledger : String → Option LedgerEntry) : Prop where
  kept : ∀ e, Outstanding ledger e → table.get? (ledgerItemKey e.entryId) = some (.ledger e)
  only : ∀ k item, table.get? k = some item → item.status = some "uncommitted" →
    ∃ e, k = ledgerItemKey e.entryId ∧ item = .ledger e ∧ Outstanding ledger e
  tagged : ∀ k item, table.get? k = some item → SqliteEnforcementStore.likeLedger k.1 = true → item.status.isSome

namespace Mirrors

variable {table : StoreTable} {ledger : String → Option LedgerEntry}

theorem empty : Mirrors .empty fun _ => none := ⟨by simp [Outstanding],by simp,by simp⟩

theorem ledger_key {k : String × String} (h : SqliteEnforcementStore.likeLedger k.1 = false) (entryId : String) : ledgerItemKey entryId ≠ k := by
  rintro rfl
  rw [ledgerItemKey,SqliteEnforcementStore.likeLedger_ledger] at h
  cases h

theorem set_other (h : Mirrors table ledger) {k : String × String} (hk : SqliteEnforcementStore.likeLedger k.1 = false) {item : StoreItem}
    (hstatus : item.status ≠ some "uncommitted") : Mirrors (table.set k item) ledger := by
  refine ⟨?_,?_,?_⟩
  · intro e he
    rw [Dict.get?_set,if_neg (ledger_key hk e.entryId)]
    exact h.kept e he
  · intro j found hfound hu
    rw [Dict.get?_set] at hfound
    split at hfound
    · obtain rfl := Option.some.inj hfound
      exact absurd hu hstatus
    · exact h.only j found hfound hu
  · intro j found hfound hlike
    rw [Dict.get?_set] at hfound
    split at hfound
    next hj =>
      rw [hj,hk] at hlike
      cases hlike
    next => exact h.tagged j found hfound hlike

theorem erase_other (h : Mirrors table ledger) {k : String × String} (hk : SqliteEnforcementStore.likeLedger k.1 = false) :
    Mirrors (table.erase k) ledger := by
  have hold : ∀ j item, (table.erase k).get? j = some item → table.get? j = some item := by
    intro j item hj
    rw [Dict.get?_erase] at hj
    split at hj
    · cases hj
    · exact hj
  refine ⟨?_,fun j item hj => h.only j item (hold j item hj),fun j item hj => h.tagged j item (hold j item hj)⟩
  intro e he
  rw [Dict.get?_erase,if_neg (ledger_key hk e.entryId)]
  exact h.kept e he

theorem write (h : Mirrors table ledger) (entry : LedgerEntry) :
    Mirrors (table.set (ledgerItemKey entry.entryId) (.ledger entry)) (Function.update ledger entry.entryId (some entry)) := by
  refine ⟨?_,?_,?_⟩
  · rintro e ⟨he,hstatus⟩
    by_cases hj : e.entryId = entry.entryId
    · rw [hj,Function.update_self] at he
      obtain rfl := Option.some.inj he
      exact Dict.get?_set_same _ _ _
    · rw [Function.update_of_ne hj] at he
      rw [Dict.get?_set,if_neg fun hkey => hj (ledgerItemKey_inj.mp hkey)]
      exact h.kept e ⟨he,hstatus⟩
  · intro j item hitem hu
    rw [Dict.get?_set] at hitem
    split at hitem
    next hj =>
      obtain rfl := Option.some.inj hitem
      refine ⟨entry,hj,rfl,Function.update_self ..,LedgerStatus.text_uncommitted.mp (Option.some.inj hu)⟩
    next hj =>
      obtain ⟨e,rfl,hitem,he,hstatus⟩ := h.only j item hitem hu
      have hne : e.entryId ≠ entry.entryId := fun heq => hj (congrArg ledgerItemKey heq)
      refine ⟨e,rfl,hitem,?_,hstatus⟩
      rw [Function.update_of_ne hne]
      exact he
  · intro j item hitem hlike
    rw [Dict.get?_set] at hitem
    split at hitem
    next =>
      obtain rfl := Option.some.inj hitem
      rfl
    next => exact h.tagged j item hitem hlike

variable {f : LedgerEntry → LedgerEntry} {entryId : String}

theorem amended_only (h : Mirrors table ledger) {k : String × String} {item : StoreItem} (hk : k ≠ ledgerItemKey entryId)
    (hitem : table.get? k = some item) (hu : item.status = some "uncommitted") :
    ∃ e, k = ledgerItemKey e.entryId ∧ item = .ledger e ∧ Outstanding (StoreOp.amended ledger entryId f) e := by
  obtain ⟨e,rfl,rfl,he,hstatus⟩ := h.only k item hitem hu
  have hne : e.entryId ≠ entryId := fun heq => hk (congrArg ledgerItemKey heq)
  refine ⟨e,rfl,rfl,?_,hstatus⟩
  rw [StoreOp.amended,Function.update_of_ne hne]
  exact he

theorem settle (h : Mirrors table ledger) (hf : ∀ e, (f e).status ≠ .uncommitted) {item : StoreItem} {text : String}
    (hitem : item.status = some text) (htext : text ≠ "uncommitted") :
    Mirrors (table.set (ledgerItemKey entryId) item) (StoreOp.amended ledger entryId f) := by
  refine ⟨?_,?_,?_⟩
  · intro e he
    obtain ⟨hne,hold⟩ := not_outstanding_amended hf he
    rw [Dict.get?_set,if_neg fun hkey => hne (ledgerItemKey_inj.mp hkey)]
    exact h.kept e hold
  · intro j found hfound hu
    rw [Dict.get?_set] at hfound
    split at hfound
    next =>
      obtain rfl := Option.some.inj hfound
      exact absurd (Option.some.inj (hitem.symm.trans hu)) htext
    next hj => exact h.amended_only hj hfound hu
  · intro j found hfound hlike
    rw [Dict.get?_set] at hfound
    split at hfound
    next =>
      obtain rfl := Option.some.inj hfound
      rw [hitem]
      rfl
    next => exact h.tagged j found hfound hlike

theorem settle_absent (h : Mirrors table ledger) (hf : ∀ e, (f e).status ≠ .uncommitted)
    (habsent : table.get? (ledgerItemKey entryId) = none) : Mirrors table (StoreOp.amended ledger entryId f) := by
  refine ⟨fun e he => h.kept e (not_outstanding_amended hf he).2,fun k item hitem hu => ?_,h.tagged⟩
  refine h.amended_only ?_ hitem hu
  rintro rfl
  rw [habsent] at hitem
  cases hitem

theorem other (h : Mirrors table ledger) (row : OtherRow) : Mirrors (row.write table) ledger := by
  rw [OtherRow.write]
  cases hitem : row.item with
  | none => exact h.erase_other row.not_ledger
  | some item => exact h.set_other row.not_ledger (row.not_uncommitted hitem)

end Mirrors

inductive TableWrite where
  | request (o : StoreOp)
  | other (row : OtherRow)

def requestsOf (writes : List TableWrite) : List StoreOp :=
  writes.filterMap fun
    | .request o => some o
    | .other _ => none

theorem IdempotencyStatus.text_other (s : IdempotencyStatus) : some s.text ≠ some "uncommitted" := by
  rw [ne_eq,Option.some.injEq]
  exact s.text_ne_uncommitted

theorem idemKey_other (key : String) : SqliteEnforcementStore.likeLedger (idemKey key).1 = false :=
  SqliteEnforcementStore.likeLedger_other "IDEM#".toList rfl (by decide) ⟨key.toList,by simp [idemKey]⟩

theorem counterKey_other (key : String) : SqliteEnforcementStore.likeLedger (counterItemKey key).1 = false :=
  SqliteEnforcementStore.likeLedger_other "COUNTER#".toList rfl (by decide) ⟨key.toList,by simp [counterItemKey]⟩

section Steps
variable {table : StoreTable} {ledger : String → Option LedgerEntry}

theorem Mirrors.counter_status (h : Mirrors table ledger) (key : String) :
    ((table.get? (counterItemKey key)).getD {}).status ≠ some "uncommitted" := by
  cases hrow : table.get? (counterItemKey key) with
  | none => simp
  | some item =>
    intro hu
    obtain ⟨e,hkey,-⟩ := h.only _ item hrow hu
    exact counter_ne_ledger key e.entryId hkey

namespace DynamoStore

theorem mirrors_transition (h : Mirrors table ledger) (key : String) {update : StoreItem → StoreItem}
    (hupdate : ∀ item, (update item).status ≠ some "uncommitted") : Mirrors (transitionIdempotency table key update).2 ledger := by
  rw [transitionIdempotency,updateItem]
  split
  · exact h.set_other (idemKey_other key) (hupdate _)
  · exact h

theorem mirrors_update (h : Mirrors table ledger) {f : LedgerEntry → LedgerEntry} (hf : ∀ e, (f e).status ≠ .uncommitted)
    {update : StoreItem → StoreItem} {text : String} (hupdate : ∀ item, (update item).status = some text) (htext : text ≠ "uncommitted")
    (entryId : String) : Mirrors (updateLedger table entryId update) (StoreOp.amended ledger entryId f) := by
  rw [updateLedger,updateItem,if_pos rfl,Option.getD_some]
  exact h.settle hf (hupdate _) htext

theorem mirrors_run (h : Mirrors table ledger) (scan : Scan (String × String) StoreItem) (o : StoreOp) :
    Mirrors (run scan (.op o) table).2 (o.ledgerAfter ledger) := by
  cases o with
  | getIdempotency key => exact h
  | putIdempotencyIfAbsent record =>
    simp only [run,putIdempotencyIfAbsent,ran,putItem,Prod.map_snd,id]
    split
    · exact h.set_other (idemKey_other _) record.status.text_other
    · exact h
  | completeIdempotency key decisionJson resultJson => cases resultJson <;> exact mirrors_transition h key fun _ => by simp
  | failIdempotency key error => exact mirrors_transition h key fun _ => by simp
  | deleteIdempotency key => exact h.erase_other (idemKey_other key)
  | tryIncrementCounter key delta cap =>
    simp only [run,incrementCounter,ran,updateItem,Prod.map_snd,id]
    split
    · exact h
    · split
      · exact h.set_other (counterKey_other key) (h.counter_status key)
      · exact h
  | readCounter key => exact h
  | writeLedger entry => exact h.write entry
  | commitLedger entryId ts =>
    have hsettled : Mirrors (commitLedger table entryId ts) (StoreOp.ledgerAfter ledger (.commitLedger entryId ts)) :=
      mirrors_update h (by simp) (fun _ => rfl) (show "committed" ≠ "uncommitted" by decide) entryId
    exact hsettled
  | compensateLedger entryId error =>
    have hsettled : Mirrors (compensateLedger table entryId error) (StoreOp.ledgerAfter ledger (.compensateLedger entryId error)) :=
      mirrors_update h (by simp) (fun _ => rfl) (show "compensated" ≠ "uncommitted" by decide) entryId
    exact hsettled
  | escalateLedger entryId error =>
    have hsettled : Mirrors (escalateLedger table entryId error) (StoreOp.ledgerAfter ledger (.escalateLedger entryId error)) :=
      mirrors_update h (by simp) (fun _ => rfl) (show "escalated" ≠ "uncommitted" by decide) entryId
    exact hsettled

def after (scan : Scan (String × String) StoreItem) (table : StoreTable) : TableWrite → StoreTable
  | .request o => (run scan (.op o) table).2
  | .other row => row.write table

def tableOf (scan : Scan (String × String) StoreItem) (writes : List TableWrite) : StoreTable := writes.foldl (after scan) .empty

end DynamoStore

namespace SqliteEnforcementStore

theorem mirrors_transition (h : Mirrors table ledger) (key : String) {mutate : StoreItem → StoreItem}
    (hmutate : ∀ item, (mutate item).status ≠ some "uncommitted") : Mirrors (transitionIdempotency table key mutate).2 ledger := by
  rw [transitionIdempotency]
  cases hrow : table.get? (idemKey key) with
  | none => exact h
  | some attrs =>
    simp only [updateExistingItem_present hrow]
    split
    · exact h
    · exact h.set_other (idemKey_other key) (hmutate attrs)

theorem mirrors_increment (h : Mirrors table ledger) (key : String) (delta cap : ℚ) :
    Mirrors (incrementCounter table key delta cap).2 ledger := by
  have hcounter : ∀ spent, Mirrors (table.set (counterItemKey key) (.counter spent)) ledger := fun spent =>
    h.set_other (counterKey_other key) (by simp [StoreItem.counter])
  rw [incrementCounter]
  split
  · exact h
  · cases hrow : table.get? (counterItemKey key) with
    | none =>
      simp only [putNewItem_absent hrow]
      split
      · exact h
      · exact hcounter _
    | some attrs =>
      simp only [updateExistingItem_present hrow]
      cases hspent : attrs.spent with
      | none => exact h
      | some spent =>
        have hattr : StoreItem.attr "spent" (some spent) = .ok spent := rfl
        rw [Checked.bind_of_ok hattr]
        split
        · exact h
        · exact hcounter _

theorem mirrors_ledger (h : Mirrors table ledger) {f : LedgerEntry → LedgerEntry} (hf : ∀ e, (f e).status ≠ .uncommitted)
    {update : StoreItem → StoreItem} {text : String} (hupdate : ∀ item, (update item).status = some text) (htext : text ≠ "uncommitted")
    (entryId : String) : Mirrors (transitionLedger table entryId update).2 (StoreOp.amended ledger entryId f) := by
  rw [transitionLedger]
  cases hrow : table.get? (ledgerItemKey entryId) with
  | none => exact h.settle_absent hf hrow
  | some attrs =>
    simp only [updateExistingItem_present hrow]
    exact h.settle hf (hupdate attrs) htext

theorem mirrors_run (h : Mirrors table ledger) (select : RowOrder (String × String) StoreItem) (o : StoreOp) :
    Mirrors (run select (.op o) table).2 (o.ledgerAfter ledger) := by
  cases o with
  | getIdempotency key => exact h
  | putIdempotencyIfAbsent record =>
    rw [run,putIdempotencyIfAbsent]
    cases hrow : table.get? (idemKey record.key) with
    | none =>
      simp only [putNewItem_absent hrow]
      exact h.set_other (idemKey_other _) record.status.text_other
    | some found => exact h
  | completeIdempotency key decisionJson resultJson => exact mirrors_transition h key fun _ => by simp
  | failIdempotency key error => exact mirrors_transition h key fun _ => by simp
  | deleteIdempotency key => exact h.erase_other (idemKey_other key)
  | tryIncrementCounter key delta cap => exact mirrors_increment h key delta cap
  | readCounter key => exact h
  | writeLedger entry =>
    rw [run,writeLedger]
    cases hrow : table.get? (ledgerItemKey entry.entryId) with
    | none =>
      simp only [putNewItem_absent hrow]
      exact h.write entry
    | some found =>
      simp only [updateExistingItem_present hrow]
      exact h.write entry
  | commitLedger entryId ts => exact mirrors_ledger h (by simp) (fun _ => rfl) (show "committed" ≠ "uncommitted" by decide) entryId
  | compensateLedger entryId error =>
    exact mirrors_ledger h (by simp) (fun _ => rfl) (show "compensated" ≠ "uncommitted" by decide) entryId
  | escalateLedger entryId error => exact mirrors_ledger h (by simp) (fun _ => rfl) (show "escalated" ≠ "uncommitted" by decide) entryId

def after (select : RowOrder (String × String) StoreItem) (table : StoreTable) : TableWrite → StoreTable
  | .request o => (run select (.op o) table).2
  | .other row => row.write table

def tableOf (select : RowOrder (String × String) StoreItem) (writes : List TableWrite) : StoreTable :=
  writes.foldl (after select) .empty

end SqliteEnforcementStore

namespace InMemoryStore

theorem replaceInFlight_ledger (s : InMemoryStore) (key : String) (f : IdempotencyRecord → IdempotencyRecord) :
    (s.replaceInFlight key f).2.ledger = s.ledger := by
  rw [replaceInFlight]
  split
  · rfl
  · split <;> rfl

theorem amendEntry_ledger (s : InMemoryStore) (entryId : String) (f : LedgerEntry → LedgerEntry) :
    (s.amendEntry entryId f).2.ledger.get? = StoreOp.amended s.ledger.get? entryId f := by
  rw [amendEntry]
  cases h : s.ledger.get? entryId with
  | none => exact (StoreOp.amended_absent h f).symm
  | some entry => simp [StoreOp.amended,h,Dict.update_set]

theorem run_ledger (s : InMemoryStore) (o : StoreOp) : (run (.op o) s).2.ledger.get? = o.ledgerAfter s.ledger.get? := by
  cases o with
  | getIdempotency key => rfl
  | putIdempotencyIfAbsent record =>
    simp only [run,putIdempotencyIfAbsent]
    split <;> rfl
  | completeIdempotency key decisionJson resultJson => exact congrArg Dict.get? (replaceInFlight_ledger s key _)
  | failIdempotency key error => exact congrArg Dict.get? (replaceInFlight_ledger s key _)
  | deleteIdempotency key => rfl
  | tryIncrementCounter key delta cap =>
    simp only [run,incrementCounter]
    split <;> rfl
  | readCounter key => rfl
  | writeLedger entry => exact Dict.update_set _ _ _
  | commitLedger entryId ts => exact amendEntry_ledger s entryId _
  | compensateLedger entryId error => exact amendEntry_ledger s entryId _
  | escalateLedger entryId error => exact amendEntry_ledger s entryId _

def storeOf (requests : List StoreOp) : InMemoryStore := requests.foldl (fun s o => (run (.op o) s).2) {}

theorem storeOf_ledger (requests : List StoreOp) : (storeOf requests).ledger.get? = StoreOp.ledgerOf requests := by
  have hfold : ∀ (s : InMemoryStore), (requests.foldl (fun s o => (run (.op o) s).2) s).ledger.get? =
      requests.foldl (fun l o => StoreOp.ledgerAfter l o) s.ledger.get? := by
    induction requests with
    | nil => exact fun _ => rfl
    | cons o rest ih =>
      intro s
      rw [List.foldl_cons,List.foldl_cons,ih,run_ledger]
  exact hfold {}

end InMemoryStore

end Steps

section Listing
variable {table : StoreTable} {ledger : String → Option LedgerEntry}

theorem Mirrors.row (h : Mirrors table ledger) {row : (String × String) × StoreItem} (hrow : row ∈ table.entries)
    (hu : row.2.status = some "uncommitted") : ∃ e, row = (ledgerItemKey e.entryId,.ledger e) ∧ Outstanding ledger e := by
  obtain ⟨k,item⟩ := row
  obtain ⟨e,rfl,rfl,he⟩ := h.only k item (Dict.get?_iff.mpr hrow) hu
  exact ⟨e,rfl,he⟩

theorem Mirrors.entry (h : Mirrors table ledger) {e : LedgerEntry} (he : Outstanding ledger e) :
    (ledgerItemKey e.entryId,StoreItem.ledger e) ∈ table.entries ∧ (StoreItem.ledger e).status = some "uncommitted" := by
  refine ⟨Dict.get?_iff.mp (h.kept e he),?_⟩
  rw [StoreItem.ledger,he.2]
  rfl

theorem Mirrors.lists (h : Mirrors table ledger) {rows : List ((String × String) × StoreItem)}
    (hrows : ∀ row ∈ rows, row ∈ table.entries ∧ row.2.status = some "uncommitted") (hnodup : (rows.map Prod.fst).Nodup)
    (hall : ∀ row ∈ table.entries, row.2.status = some "uncommitted" → row ∈ rows) : Lists (rows.mapM StoreItem.readLedger) ledger := by
  refine StoreItem.listed_rows (fun row hrow => ?_) hnodup fun e he => hall _ (h.entry he).1 (h.entry he).2
  obtain ⟨e,rfl,he⟩ := h.row (hrows row hrow).1 (hrows row hrow).2
  exact ⟨e,StoreItem.readLedger_ledger e,rfl,he⟩

def OnFirstPage (scan : Scan (String × String) StoreItem) (table : StoreTable) : Prop :=
  ∀ row ∈ table.entries, row.2.status = some "uncommitted" → row ∈ scan.page table

theorem DynamoStore.lists_iff (h : Mirrors table ledger) (scan : Scan (String × String) StoreItem) :
    Lists (getUncommittedEntries table scan) ledger ↔ OnFirstPage scan table := by
  have hmem : ∀ row, row ∈ (scan.page table).filter (fun row => row.2.status == some "uncommitted") ↔
      row ∈ scan.page table ∧ row.2.status = some "uncommitted" := by
    intro row
    rw [List.mem_filter,beq_iff_eq]
  constructor
  · rintro ⟨entries,hread,-,hentries⟩ row hrow hu
    obtain ⟨e,rfl,he⟩ := h.row hrow hu
    obtain ⟨found,hfound,hreads⟩ := (Checked.mem_of_mapM (Checked.map_of_mapM_ok hread)).mp ((hentries e).mpr he)
    obtain ⟨hpage,hstatus⟩ := (hmem found).mp hfound
    obtain ⟨e',rfl,-⟩ := h.row (scan.mem_page hpage) hstatus
    rw [StoreItem.readLedger_ledger] at hreads
    obtain rfl := Except.ok.inj hreads
    exact hpage
  · intro hpage
    refine h.lists (fun row hrow => ?_) ((List.filter_sublist.map Prod.fst).nodup (scan.page_unique table)) fun row hrow hu => ?_
    · obtain ⟨hin,hstatus⟩ := (hmem row).mp hrow
      exact ⟨scan.mem_page hin,hstatus⟩
    · exact (hmem row).mpr ⟨hpage row hrow hu,hu⟩

theorem SqliteEnforcementStore.lists (h : Mirrors table ledger) (select : RowOrder (String × String) StoreItem) :
    Lists (getUncommittedEntries table select) ledger := by
  have hperm := select.perm table.entries
  have hlisted : getUncommittedEntries table select =
      (((select.order table.entries).filter fun row => likeLedger row.1.1).filter
        fun row => row.2.status == some "uncommitted").mapM StoreItem.readLedger := by
    apply collect_filter
    rintro ⟨k,item⟩ hrow
    rw [List.mem_filter,hperm.mem_iff] at hrow
    exact h.tagged k item (Dict.get?_iff.mpr hrow.1) hrow.2
  rw [hlisted]
  refine h.lists (fun row hrow => ?_) ?_ fun row hrow hu => ?_
  · rw [List.mem_filter,List.mem_filter,hperm.mem_iff,beq_iff_eq] at hrow
    exact ⟨hrow.1.1,hrow.2⟩
  · exact ((List.filter_sublist.trans List.filter_sublist).map Prod.fst).nodup ((hperm.map Prod.fst).nodup_iff.mpr table.unique)
  · rw [List.mem_filter,List.mem_filter,hperm.mem_iff,beq_iff_eq]
    obtain ⟨e,rfl,-⟩ := h.row hrow hu
    exact ⟨⟨hrow,likeLedger_ledger e.entryId⟩,hu⟩

theorem InMemoryStore.lists (requests : List StoreOp) : Lists (.ok (storeOf requests).getUncommittedEntries) (StoreOp.ledgerOf requests) := by
  have hledger := storeOf_ledger requests
  have hnamed : ∀ entryId entry, (storeOf requests).ledger.get? entryId = some entry → entry.entryId = entryId := by
    rw [hledger]
    exact named_ledgerOf requests
  refine ⟨_,rfl,nodup_uncommitted hnamed,fun e => ?_⟩
  rw [mem_uncommitted hnamed,contents,hledger]
  rfl

end Listing

section History
variable {ι : Type} [DecidableEq ι] {B : Substrate} {G : Guard ι Op Op.Ret Exn State EnforcementResult}

theorem requests_of_run {c c' : Pool ι} {tr : Trace ι} (h : Run B.device G c tr c') :
    ∃ requests : List StoreOp, (∀ o ∈ requests, ∃ e ∈ tr, e.op = .store o) ∧
      requests.foldl (fun s o => (o.apply B.backend s).2) c.state.enforcement = c'.state.enforcement := by
  induction h with
  | refl => exact ⟨[],by simp,rfl⟩
  | @step c' c'' tr e hrun hs hg ih =>
    obtain ⟨requests,hmem,hfold⟩ := ih
    have hold : ∀ o ∈ requests, ∃ e' ∈ tr ++ [e], e'.op = .store o := fun o ho =>
      (hmem o ho).imp fun e' he' => ⟨List.mem_append_left _ he'.1,he'.2⟩
    obtain ⟨x,-,hstate⟩ := hs.effect
    have hquiet : c''.state.enforcement = c'.state.enforcement →
        ∃ requests : List StoreOp, (∀ o ∈ requests, ∃ e' ∈ tr ++ [e], e'.op = .store o) ∧
          requests.foldl (fun s o => (o.apply B.backend s).2) c.state.enforcement = c''.state.enforcement := fun heq =>
      ⟨requests,hold,hfold.trans heq.symm⟩
    obtain ⟨i,o,r⟩ := e
    cases o with
    | store o =>
      have happlied : c''.state.enforcement = (o.apply B.backend c'.state.enforcement).2 →
          ∃ requests : List StoreOp, (∀ o' ∈ requests, ∃ e' ∈ tr ++ [⟨i,.store o,r⟩], e'.op = .store o') ∧
            requests.foldl (fun s o => (o.apply B.backend s).2) c.state.enforcement = c''.state.enforcement := by
        intro heq
        refine ⟨requests ++ [o],fun o' ho' => ?_,?_⟩
        · rcases List.mem_append.mp ho' with ho' | ho'
          · exact hold o' ho'
          · obtain rfl := List.mem_singleton.mp ho'
            exact ⟨_,List.mem_append_right _ List.mem_cons_self,rfl⟩
        · rw [List.foldl_append,hfold,heq]
          rfl
      cases x with
      | answered => exact happlied (by rw [hstate]; rfl)
      | fault e => exact hquiet (by rw [hstate]; rfl)
      | lost e => exact happlied (by rw [hstate]; rfl)
    | intents o => exact hquiet (by rw [hstate]; rfl)
    | env o => exact hquiet (by rw [hstate]; rfl)
    | process o => exact hquiet (by rw [hstate]; rfl)
    | audit record => exact hquiet (by rw [hstate]; rfl)

theorem ledgerOf_requests (b : Backend) (requests : List StoreOp) (s : EnforcementState) :
    (requests.foldl (fun s o => (o.apply b s).2) s).ledger = requests.foldl (fun l o => StoreOp.ledgerAfter l o) s.ledger := by
  induction requests generalizing s with
  | nil => rfl
  | cons o rest ih => rw [List.foldl_cons,List.foldl_cons,ih,StoreOp.apply_ledger]

theorem mirrors_writes {after : StoreTable → TableWrite → StoreTable} {ledger : String → Option LedgerEntry} {table : StoreTable}
    (hrequest : ∀ {table ledger}, Mirrors table ledger → ∀ o : StoreOp, Mirrors (after table (.request o)) (o.ledgerAfter ledger))
    (hother : ∀ table row, after table (.other row) = row.write table) (h : Mirrors table ledger) (writes : List TableWrite) :
    Mirrors (writes.foldl after table) ((requestsOf writes).foldl (fun l o => StoreOp.ledgerAfter l o) ledger) := by
  induction writes generalizing table ledger with
  | nil => exact h
  | cons w rest ih =>
    cases w with
    | request o => exact ih (hrequest h o)
    | other row => exact ih (by rw [hother]; exact h.other row)

theorem uncommitted_listed_iff {callers : ι → Caller} {s : State} (hs : s.enforcement = .empty) {c : Pool ι} {tr : Trace ι}
    (h : Run B.device G (startPool callers s) tr c) :
    ∃ requests : List StoreOp, (∀ o ∈ requests, ∃ e ∈ tr, e.op = .store o) ∧
      requests.foldl (fun s o => (o.apply B.backend s).2) .empty = c.state.enforcement ∧
      (∀ e, Outstanding c.state.enforcement.ledger e → StoreOp.writeLedger e ∈ requests) ∧
      ∀ writes, requestsOf writes = requests → ∀ (scan : Scan (String × String) StoreItem) (select : RowOrder (String × String) StoreItem),
        Lists (.ok (InMemoryStore.storeOf requests).getUncommittedEntries) c.state.enforcement.ledger ∧
        Lists (SqliteEnforcementStore.getUncommittedEntries (SqliteEnforcementStore.tableOf select writes) select)
          c.state.enforcement.ledger ∧
        (Lists (DynamoStore.getUncommittedEntries (DynamoStore.tableOf scan writes) scan) c.state.enforcement.ledger ↔
          OnFirstPage scan (DynamoStore.tableOf scan writes)) := by
  obtain ⟨requests,hmem,hfold⟩ := requests_of_run h
  have hstart : (startPool callers s).state.enforcement = .empty := hs
  rw [hstart] at hfold
  have hledger : c.state.enforcement.ledger = StoreOp.ledgerOf requests := by
    rw [← hfold,ledgerOf_requests]
    rfl
  refine ⟨requests,hmem,hfold,fun e he => written_of_outstanding (hledger ▸ he),?_⟩
  rintro writes rfl scan select
  rw [hledger]
  have hsqlite : Mirrors (SqliteEnforcementStore.tableOf select writes) (StoreOp.ledgerOf (requestsOf writes)) :=
    mirrors_writes (fun hm o => SqliteEnforcementStore.mirrors_run hm select o) (fun _ _ => rfl) .empty writes
  have hdynamo : Mirrors (DynamoStore.tableOf scan writes) (StoreOp.ledgerOf (requestsOf writes)) :=
    mirrors_writes (fun hm o => DynamoStore.mirrors_run hm scan o) (fun _ _ => rfl) .empty writes
  exact ⟨InMemoryStore.lists _,SqliteEnforcementStore.lists hsqlite select,DynamoStore.lists_iff hdynamo scan⟩

end History

def heldCaller : Unit → Caller := fun _ =>
  { request := { (keyedCaller none).request with initialDecision := .requireApproval ⟨"intent-1","payments.transfer 5"⟩ none } }

def crashed : Trace Unit × Pool Unit := play memory.device (turns () 5) (startPool heldCaller emptyState)

def heldEntry : LedgerEntry where
  entryId := "00000000-0000-4000-8000-000000000000"
  idempotencyKey := none
  callJson := ledgerCall
  decisionKind := .requireApproval
  status := .uncommitted
  tsCreated := "1970-01-01T00:00:00+00:00"

def grantRow : OtherRow where
  key := ("GRANT#agent#skill#owner#B","CLASS#payments.transfer")
  item := some {}
  family := ⟨("GRANT#",[]),by decide,by decide,by simp⟩

def onePerPage : Scan (String × String) StoreItem where
  order := id
  perm := fun _ => .rfl
  size := fun _ => 1
  limit := 1

theorem second_page_unseen :
    Run memory.device anyStep (startPool heldCaller emptyState) crashed.1 crashed.2 ∧
    Outstanding crashed.2.state.enforcement.ledger heldEntry ∧
    ¬ Lists (DynamoStore.getUncommittedEntries (DynamoStore.tableOf onePerPage [.other grantRow,.request (.writeLedger heldEntry)])
      onePerPage) crashed.2.state.enforcement.ledger := by
  have hseen : DynamoStore.getUncommittedEntries
      (DynamoStore.tableOf onePerPage [.other grantRow,.request (.writeLedger heldEntry)]) onePerPage = .ok [] := rfl
  have hentry : Outstanding crashed.2.state.enforcement.ledger heldEntry := ⟨rfl,rfl⟩
  refine ⟨play_run _ _,hentry,?_⟩
  rw [hseen]
  rintro ⟨entries,hentries,-,hall⟩
  obtain rfl := Except.ok.inj hentries
  exact List.not_mem_nil ((hall heldEntry).mpr hentry)

theorem uncommitted_listed_crashed :
    ∃ requests : List StoreOp, (∀ o ∈ requests, ∃ e ∈ crashed.1, e.op = .store o) ∧
      requests.foldl (fun s o => (o.apply memory.backend s).2) .empty = crashed.2.state.enforcement ∧
      (∀ e, Outstanding crashed.2.state.enforcement.ledger e → StoreOp.writeLedger e ∈ requests) ∧
      ∀ writes, requestsOf writes = requests → ∀ (scan : Scan (String × String) StoreItem) (select : RowOrder (String × String) StoreItem),
        Lists (.ok (InMemoryStore.storeOf requests).getUncommittedEntries) crashed.2.state.enforcement.ledger ∧
        Lists (SqliteEnforcementStore.getUncommittedEntries (SqliteEnforcementStore.tableOf select writes) select)
          crashed.2.state.enforcement.ledger ∧
        (Lists (DynamoStore.getUncommittedEntries (DynamoStore.tableOf scan writes) scan) crashed.2.state.enforcement.ledger ↔
          OnFirstPage scan (DynamoStore.tableOf scan writes)) :=
  uncommitted_listed_iff (s := emptyState) rfl (play_run (turns () 5) (startPool heldCaller emptyState))

end SafeAgents
