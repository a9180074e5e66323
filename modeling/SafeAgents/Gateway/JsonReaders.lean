import SafeAgents.Gateway.JsonHook

namespace SafeAgents

open Lexical Channels

namespace JsonHook

section Readers

theorem scanScalar_nil (i : Interpreter) : PyValue.scanScalar i [] = none := rfl

theorem scanScalar_square (i : Interpreter) (rest : PyStr) : PyValue.scanScalar i (91 :: rest) = none := rfl

theorem scanScalar_curly (i : Interpreter) (rest : PyStr) : PyValue.scanScalar i (123 :: rest) = none := rfl

variable (ε : Type) (i : Interpreter)

def Follows {ε α : Type} (scan : Nat → Nat → PyStr → Option (α × PyStr)) (kept : Nat → Nat → PyStr → Except (LoadsError ε) (α × PyStr)) (fuel : Nat) :
    Prop := ∀ more depth l r, scan fuel depth l = some r → kept (fuel + more) depth l = .ok r

def goesOn {ε α : Type} (close : Nat) (more : PyStr → Except (LoadsError ε) (List α × PyStr)) (l : PyStr) :
    Except (LoadsError ε) (List α × PyStr) :=
  if l.head? = some close then .ok ([],l.tail)
  else if l.head? = some 44 then more (PyValue.skipBlanks l.tail)
  else .error .malformed

def itemsAfter (fuel depth : Nat) : PyStr → Except (LoadsError ε) (List PyValue × PyStr) :=
  goesOn 93 (scanItems i (keepMembers ε) fuel depth)

def membersAfter (fuel depth : Nat) : PyStr → Except (LoadsError ε) (List (PyStr × PyValue) × PyStr) :=
  goesOn 125 (scanMembers i (keepMembers ε) fuel depth)

def FollowsMember (fuel : Nat) : Prop :=
  ∀ depth l member rest, PyValue.scanMember i fuel depth l = some (member,rest) → ∃ named, scanName l = some (member.1,named) ∧
    ∀ more, scanOnce i (keepMembers ε) (fuel + more) depth named = .ok (member.2,rest)

variable {ε i} {fuel : Nat}

theorem goesOn_cons {α : Type} {close : Nat} {more : PyStr → Except (LoadsError ε) (List α × PyStr)} {l rest : PyStr} {entries : List α}
    (h : goesOn close more l = .ok (entries,rest)) (entry : α) :
    (if l.head? = some close then .ok ([entry],l.tail)
      else if l.head? = some 44 then more (PyValue.skipBlanks l.tail) >>= fun r => .ok (entry :: r.1,r.2)
      else .error .malformed) = (.ok (entry :: entries,rest) : Except (LoadsError ε) (List α × PyStr)) := by
  unfold goesOn at h
  by_cases hclose : l.head? = some close
  · rw [if_pos hclose] at h ⊢
    cases h
    rfl
  · rw [if_neg hclose] at h ⊢
    by_cases hcomma : l.head? = some 44
    · rw [if_pos hcomma] at h ⊢
      exact Checked.bind_ok.mpr ⟨_,h,rfl⟩
    · rw [if_neg hcomma] at h
      cases h

theorem items_step (hvalue : Follows (PyValue.scanValue i) (scanOnce i (keepMembers ε)) fuel)
    (hmore : Follows (PyValue.scanMoreItems i) (itemsAfter ε i) fuel) {more depth : Nat} {l rest rest' : PyStr} {item : PyValue}
    {items : List PyValue} (hitem : PyValue.scanValue i fuel depth l = some (item,rest))
    (hitems : PyValue.scanMoreItems i fuel depth (PyValue.skipBlanks rest) = some (items,rest')) :
    scanItems i (keepMembers ε) (fuel + 1 + more) depth l = .ok (item :: items,rest') := by
  rw [Nat.add_right_comm,scanItems]
  exact Checked.bind_ok.mpr ⟨_,hvalue more depth l _ hitem,goesOn_cons (hmore more depth _ _ hitems) item⟩

theorem members_step (hmember : FollowsMember ε i fuel)
    (hmore : Follows (PyValue.scanMoreMembers i) (membersAfter ε i) fuel) {more depth : Nat} {l rest rest' : PyStr}
    {member : PyStr × PyValue} {members : List (PyStr × PyValue)} (hfirst : PyValue.scanMember i fuel depth l = some (member,rest))
    (hmembers : PyValue.scanMoreMembers i fuel depth (PyValue.skipBlanks rest) = some (members,rest')) :
    scanMembers i (keepMembers ε) (fuel + 1 + more) depth l = .ok (member :: members,rest') := by
  obtain ⟨named,hname,hscan⟩ := hmember depth l member rest hfirst
  rw [Nat.add_right_comm,scanMembers]
  exact Checked.bind_ok.mpr ⟨_,orMalformed_ok.mpr hname,
    Checked.bind_ok.mpr ⟨_,hscan more,goesOn_cons (hmore more depth _ _ hmembers) member⟩⟩

theorem follows_items (hvalue : Follows (PyValue.scanValue i) (scanOnce i (keepMembers ε)) fuel)
    (hmore : Follows (PyValue.scanMoreItems i) (itemsAfter ε i) fuel) {more depth : Nat} {l : PyStr} {r : List PyValue × PyStr}
    (h : PyValue.scanItems i (fuel + 1) depth l = some r) :
    (if l.head? = some 93 then .ok ([],l.tail) else scanItems i (keepMembers ε) (fuel + 1 + more) depth l) = .ok r := by
  by_cases hclose : l.head? = some 93
  · obtain ⟨tail,rfl⟩ := List.head?_eq_some_iff.mp hclose
    rw [PyValue.scanItems] at h
    cases h
    rfl
  · have hopen : ∀ tail, l = 93 :: tail → False := fun tail hsame => hclose (hsame ▸ rfl)
    rw [PyValue.scanItems.eq_3 i depth l fuel hopen] at h
    obtain ⟨⟨item,rest⟩,hfirst,h⟩ := Option.bind_eq_some_iff.mp h
    obtain ⟨⟨items,rest'⟩,hitems,h⟩ := Option.bind_eq_some_iff.mp h
    cases h
    rw [if_neg hclose]
    exact items_step hvalue hmore hfirst hitems

theorem follows_moreItems (hvalue : Follows (PyValue.scanValue i) (scanOnce i (keepMembers ε)) fuel)
    (hmore : Follows (PyValue.scanMoreItems i) (itemsAfter ε i) fuel) : Follows (PyValue.scanMoreItems i) (itemsAfter ε i) (fuel + 1) := by
  intro more depth l r h
  rw [PyValue.scanMoreItems.eq_def] at h
  dsimp only at h
  split at h
  next => cases h
  next rest heq =>
    cases h
    rfl
  next fuel' rest heq =>
    obtain rfl := Nat.succ.inj heq
    obtain ⟨⟨item,rest⟩,hitem,h⟩ := Option.bind_eq_some_iff.mp h
    obtain ⟨⟨items,rest'⟩,hitems,h⟩ := Option.bind_eq_some_iff.mp h
    cases h
    exact items_step hvalue hmore hitem hitems
  next => cases h

theorem follows_members (hmember : FollowsMember ε i fuel)
    (hmore : Follows (PyValue.scanMoreMembers i) (membersAfter ε i) fuel) {more depth : Nat} {l : PyStr} {r : List (PyStr × PyValue) × PyStr}
    (h : PyValue.scanMembers i (fuel + 1) depth l = some r) :
    (if l.head? = some 125 then .ok ([],l.tail) else scanMembers i (keepMembers ε) (fuel + 1 + more) depth l) = .ok r := by
  by_cases hclose : l.head? = some 125
  · obtain ⟨tail,rfl⟩ := List.head?_eq_some_iff.mp hclose
    rw [PyValue.scanMembers] at h
    cases h
    rfl
  · have hopen : ∀ tail, l = 125 :: tail → False := fun tail hsame => hclose (hsame ▸ rfl)
    rw [PyValue.scanMembers.eq_3 i depth l fuel hopen] at h
    obtain ⟨⟨member,rest⟩,hfirst,h⟩ := Option.bind_eq_some_iff.mp h
    obtain ⟨⟨members,rest'⟩,hmembers,h⟩ := Option.bind_eq_some_iff.mp h
    cases h
    rw [if_neg hclose]
    exact members_step hmember hmore hfirst hmembers

theorem follows_moreMembers (hmember : FollowsMember ε i fuel)
    (hmore : Follows (PyValue.scanMoreMembers i) (membersAfter ε i) fuel) :
    Follows (PyValue.scanMoreMembers i) (membersAfter ε i) (fuel + 1) := by
  intro more depth l r h
  rw [PyValue.scanMoreMembers.eq_def] at h
  dsimp only at h
  split at h
  next => cases h
  next rest heq =>
    cases h
    rfl
  next fuel' rest heq =>
    obtain rfl := Nat.succ.inj heq
    obtain ⟨⟨member,rest⟩,hfirst,h⟩ := Option.bind_eq_some_iff.mp h
    obtain ⟨⟨members,rest'⟩,hmembers,h⟩ := Option.bind_eq_some_iff.mp h
    cases h
    exact members_step hmember hmore hfirst hmembers
  next => cases h

-- The hook's scanner takes a member's name and its value in one turn, the other in two.
theorem follows_member (hvalue : Follows (PyValue.scanValue i) (scanOnce i (keepMembers ε)) fuel) : FollowsMember ε i (fuel + 1) := by
  intro depth l member rest h
  rw [PyValue.scanMember.eq_def] at h
  dsimp only at h
  split at h
  next => cases h
  next fuel' tail heq =>
    obtain rfl := Nat.succ.inj heq
    obtain ⟨⟨name,after⟩,hstring,h⟩ := Option.bind_eq_some_iff.mp h
    dsimp only at h
    split at h
    next after' hcolon =>
      obtain ⟨⟨value,rest'⟩,hscan,h⟩ := Option.bind_eq_some_iff.mp h
      cases h
      refine ⟨PyValue.skipBlanks after',?_,fun more => ?_⟩
      · refine Option.bind_eq_some_iff.mpr ⟨_,hstring,?_⟩
        dsimp only
        rw [hcolon]
        rfl
      · rw [Nat.add_assoc]
        exact hvalue (1 + more) _ _ _ hscan
    next => cases h
  next => cases h

theorem follows_value (hitems : ∀ more depth l r, PyValue.scanItems i fuel depth l = some r →
      (if l.head? = some 93 then .ok ([],l.tail) else scanItems i (keepMembers ε) (fuel + more) depth l) = .ok r)
    (hmembers : ∀ more depth l r, PyValue.scanMembers i fuel depth l = some r →
      (if l.head? = some 125 then .ok ([],l.tail) else scanMembers i (keepMembers ε) (fuel + more) depth l) = .ok r) :
    Follows (PyValue.scanValue i) (scanOnce i (keepMembers ε)) (fuel + 1) := by
  intro more depth l r h
  rw [Nat.add_right_comm]
  rw [PyValue.scanValue.eq_def] at h
  dsimp only at h
  split at h
  next rest =>
    obtain ⟨⟨s,rest'⟩,hstring,h⟩ := Option.map_eq_some_iff.mp h
    cases h
    rw [scanOnce_quote]
    exact Checked.bind_ok.mpr ⟨_,orMalformed_ok.mpr hstring,rfl⟩
  next rest depth =>
    obtain ⟨⟨items,rest'⟩,hscan,h⟩ := Option.map_eq_some_iff.mp h
    cases h
    rw [scanOnce_square,hitems more depth _ _ hscan]
    rfl
  next rest depth =>
    obtain ⟨⟨members,rest'⟩,hscan,h⟩ := Option.map_eq_some_iff.mp h
    cases h
    rw [scanOnce_curly,hmembers more depth _ _ hscan]
    rfl
  next hquote hsquare hcurly =>
    cases l with
    | nil =>
      rw [scanScalar_nil] at h
      cases h
    | cons c tail =>
      by_cases hsame : c = 34
      · exact (hquote tail (by rw [hsame])).elim
      by_cases hopen : c = 91
      · subst hopen
        rw [scanScalar_square] at h
        cases h
      by_cases hbrace : c = 123
      · subst hbrace
        rw [scanScalar_curly] at h
        cases h
      · rw [scanOnce_atom i (keepMembers ε) hsame hopen hbrace]
        exact orMalformed_ok.mpr h

theorem follows (fuel : Nat) : Follows (PyValue.scanValue i) (scanOnce i (keepMembers ε)) fuel ∧
    (∀ more depth l r, PyValue.scanItems i fuel depth l = some r →
      (if l.head? = some 93 then .ok ([],l.tail) else scanItems i (keepMembers ε) (fuel + more) depth l) = .ok r) ∧
    Follows (PyValue.scanMoreItems i) (itemsAfter ε i) fuel ∧
    (∀ more depth l r, PyValue.scanMembers i fuel depth l = some r →
      (if l.head? = some 125 then .ok ([],l.tail) else scanMembers i (keepMembers ε) (fuel + more) depth l) = .ok r) ∧
    Follows (PyValue.scanMoreMembers i) (membersAfter ε i) fuel ∧ FollowsMember ε i fuel := by
  induction fuel with
  | zero =>
    simp [Follows,FollowsMember,PyValue.scanValue,PyValue.scanItems,PyValue.scanMoreItems,PyValue.scanMembers,PyValue.scanMoreMembers,
      PyValue.scanMember]
  | succ fuel ih =>
    obtain ⟨hvalue,hitems,hmoreItems,hmembers,hmoreMembers,hmember⟩ := ih
    exact ⟨follows_value hitems hmembers,fun _ _ _ _ h => follows_items hvalue hmoreItems h,follows_moreItems hvalue hmoreItems,
      fun _ _ _ _ h => follows_members hmember hmoreMembers h,follows_moreMembers hmember hmoreMembers,follows_member hvalue⟩

theorem loads_agree {text : PyStr} {value : PyValue} (h : PyValue.loads i text = some value) : loads i (keepMembers ε) text = .ok value := by
  unfold PyValue.loads at h
  split at h
  next scanned rest hscan =>
    have hfollowed := (follows (ε := ε) (2 * text.length + 2)).1 0 _ _ _ hscan
    rw [← loads_fuel i (keepMembers ε) text 1]
    refine Checked.bind_ok.mpr ⟨_,hfollowed,?_⟩
    dsimp only
    by_cases hrest : PyValue.skipBlanks rest = []
    · rw [if_pos hrest] at h ⊢
      cases h
      rfl
    · rw [if_neg hrest] at h
      cases h
  next => cases h

end Readers

end JsonHook

end SafeAgents
