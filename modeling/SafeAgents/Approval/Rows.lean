import SafeAgents.Signature

namespace SafeAgents

open Interleaving

namespace Approval

def row (s : State) (id : String) : Option IntentItem := s.approval.items id

def rowStatus (s : State) (id : String) : Option IntentStatus := (row s id).map IntentItem.status

inductive RowMove (hmac : IntentPayload → String) (id : String) (o : Op) :
    Option IntentItem → Option IntentItem → Prop
  | same (r : Option IntentItem) : RowMove hmac id o r r
  | held (r : Option IntentItem) (intent : Intent) (hid : intent.id = id)
      (hfree : r.map IntentItem.status ≠ some .pending) (ho : o = .intents (.putIntent intent)) :
      RowMove hmac id o r (some (intentItemAttrs hmac intent))
  | moved (item : IntentItem) (expected new : IntentStatus) (approvedBy : Option String) (executedAt : Option Instant)
      (hstatus : item.status = expected)
      (ho : o = .intents (.transitionStatus id expected new approvedBy executedAt)) :
      RowMove hmac id o (some item) (some (IntentOp.transitioned item new approvedBy executedAt))

variable {B : Substrate} {s : State} {id : String}

@[simp] theorem setItem_items_self (s : IntentState) (id : String) (item : IntentItem) :
    (s.setItem id item).items id = some item := by simp [IntentState.setItem]

theorem setItem_items_of_ne {s : IntentState} {id id' : String} {item : IntentItem} (h : id ≠ id') :
    (s.setItem id' item).items id = s.items id := by simp [IntentState.setItem,h]

theorem rowMove_apply (hmac : IntentPayload → String) (id : String) (o : IntentOp) (s : IntentState) :
    RowMove hmac id (.intents o) (s.items id) ((o.apply hmac s).2.items id) := by
  cases o with
  | putIntent intent =>
    simp only [IntentOp.apply]
    split
    · exact .same _
    · next hfree =>
      by_cases hid : intent.id = id
      · subst hid
        rw [setItem_items_self]
        exact .held _ intent rfl hfree rfl
      · rw [setItem_items_of_ne (Ne.symm hid)]
        exact .same _
  | getIntent intentId =>
    simp only [IntentOp.apply]
    split <;> exact .same _
  | transitionStatus intentId expected new approvedBy executedAt =>
    simp only [IntentOp.apply]
    split
    · exact .same _
    · next item hitem =>
      split
      · exact .same _
      · next hstatus =>
        by_cases hid : intentId = id
        · subst hid
          rw [setItem_items_self,hitem]
          exact .moved item expected new approvedBy executedAt (by simpa using hstatus) rfl
        · rw [setItem_items_of_ne (Ne.symm hid)]
          exact .same _
  | expiredPendingCandidates principalKey now => exact .same _

theorem rowMove_perform (B : Substrate) (s : State) (id : String) (o : Op) (x : Substrate.Input o) :
    RowMove B.hmac id o (row s id) (row (B.perform o x s).2 id) := by
  cases o with
  | intents o =>
    have happly := rowMove_apply B.hmac id o s.approval
    cases x with
    | answered => exact happly
    | fault e => exact .same _
    | lost e => exact happly
  | _ => exact .same _

section Replies
variable {expected new : IntentStatus} {approvedBy : Option String} {executedAt : Option Instant}

theorem transition_won
    {x : Delivery} (h : (B.perform (.intents (.transitionStatus id expected new approvedBy executedAt)) x s).1 = .ok true) :
    ∃ item, row s id = some item ∧ item.status = expected ∧
      row (B.perform (.intents (.transitionStatus id expected new approvedBy executedAt)) x s).2 id =
        some (IntentOp.transitioned item new approvedBy executedAt) := by
  cases x with
  | fault e => cases h
  | lost e => cases h
  | answered =>
    simp only [Substrate.perform,Delivery.receive,IntentOp.apply,row] at h ⊢
    split at h
    · cases h
    · next item hitem =>
      split at h
      · cases h
      · next hstatus =>
        have hstatus' : item.status = expected := by simpa using hstatus
        simp only [hstatus',ne_eq,not_true_eq_false,if_false]
        exact ⟨item,hitem,hstatus',setItem_items_self _ _ _⟩

theorem transition_refused
    {x : Delivery} (h : (B.perform (.intents (.transitionStatus id expected new approvedBy executedAt)) x s).1 = .ok false) :
    rowStatus s id ≠ some expected := by
  cases x with
  | fault e => cases h
  | lost e => cases h
  | answered =>
    simp only [Substrate.perform,Delivery.receive,IntentOp.apply] at h
    split at h
    · next hitem => simp [rowStatus,row,hitem]
    · next item hitem =>
      split at h
      · next hstatus => simpa [rowStatus,row,hitem] using hstatus
      · cases h

theorem get_read {x : Delivery} {intent : Intent} (h : (B.perform (.intents (.getIntent id)) x s).1 = .ok (some intent)) :
    ∃ item, row s id = some item ∧ item.status = intent.status ∧ item.data = some (canonicalIntentPayload intent) ∧
      intent.id = id := by
  cases x with
  | fault e => cases h
  | lost e => cases h
  | answered =>
    simp only [Substrate.perform,Delivery.receive,IntentOp.apply] at h
    split at h
    · cases h
    · next item hitem =>
      cases hread : intentFromItem B.hmac id item with
      | error e => simp [hread,Except.map] at h
      | ok found =>
        simp only [hread,Except.map,Except.ok.injEq,Option.some.injEq] at h
        subst h
        obtain ⟨hid,hstatus,hdata⟩ := intentFromItem_ok hread
        exact ⟨item,hitem,hstatus.symm,hdata,hid⟩

end Replies

end Approval

end SafeAgents
