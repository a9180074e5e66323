import SafeAgents.Checked
import SafeAgents.Channels.Body

namespace SafeAgents

open Lexical Channels

namespace JsonHook

-- What json.loads raises: a ValueError, a RecursionError, or whatever its hook raised.
inductive LoadsError (ε : Type) where
  | malformed
  | recursion
  | hook (e : ε)

def scanName (l : PyStr) : Option (PyStr × PyStr) := do
  let (name,rest) ← (if l.head? = some 34 then PyValue.scanString (l.tail.length + 1) l.tail else none)
  if (PyValue.skipBlanks rest).head? = some 58 then return (name,PyValue.skipBlanks (PyValue.skipBlanks rest).tail) else none

def orMalformed {ε α : Type} : Option α → Except (LoadsError ε) α
  | none => .error .malformed
  | some a => .ok a

section Scanner
variable {ε : Type} (i : Interpreter) (hook : List (PyStr × PyValue) → Except ε PyValue)

def hooked (members : List (PyStr × PyValue)) : Except (LoadsError ε) PyValue := (hook members).mapError .hook

mutual

-- The depth is what the interpreter's stack still takes.
def scanOnce : Nat → Nat → PyStr → Except (LoadsError ε) (PyValue × PyStr)
  | 0, _, _ => .error .malformed
  | _ + 1, _, [] => .error .malformed
  | fuel + 1, depth, c :: rest =>
    if c = 34 then do
      let (s,rest) ← orMalformed (PyValue.scanString (rest.length + 1) rest)
      return (.str s,rest)
    else if c = 91 then
      match depth with
      | 0 => .error .recursion
      | depth + 1 => do
        let (items,rest) ← (if (PyValue.skipBlanks rest).head? = some 93 then .ok ([],(PyValue.skipBlanks rest).tail)
          else scanItems fuel depth (PyValue.skipBlanks rest))
        return (.arr items,rest)
    else if c = 123 then
      match depth with
      | 0 => .error .recursion
      | depth + 1 => do
        let (members,rest) ← (if (PyValue.skipBlanks rest).head? = some 125 then .ok ([],(PyValue.skipBlanks rest).tail)
          else scanMembers fuel depth (PyValue.skipBlanks rest))
        let value ← hooked hook members
        return (value,rest)
    else orMalformed (PyValue.scanScalar i (c :: rest))

def scanItems : Nat → Nat → PyStr → Except (LoadsError ε) (List PyValue × PyStr)
  | 0, _, _ => .error .malformed
  | fuel + 1, depth, l => do
    let (item,rest) ← scanOnce fuel depth l
    if (PyValue.skipBlanks rest).head? = some 93 then return ([item],(PyValue.skipBlanks rest).tail)
    else if (PyValue.skipBlanks rest).head? = some 44 then
      let (items,rest) ← scanItems fuel depth (PyValue.skipBlanks (PyValue.skipBlanks rest).tail)
      return (item :: items,rest)
    else .error .malformed

def scanMembers : Nat → Nat → PyStr → Except (LoadsError ε) (List (PyStr × PyValue) × PyStr)
  | 0, _, _ => .error .malformed
  | fuel + 1, depth, l => do
    let (name,rest) ← orMalformed (scanName l)
    let (value,rest) ← scanOnce fuel depth rest
    if (PyValue.skipBlanks rest).head? = some 125 then return ([(name,value)],(PyValue.skipBlanks rest).tail)
    else if (PyValue.skipBlanks rest).head? = some 44 then
      let (members,rest) ← scanMembers fuel depth (PyValue.skipBlanks (PyValue.skipBlanks rest).tail)
      return ((name,value) :: members,rest)
    else .error .malformed

end

def loads (text : PyStr) : Except (LoadsError ε) PyValue := do
  let (value,rest) ← scanOnce i hook (2 * text.length + 1) i.maxDepth (PyValue.skipBlanks text)
  if PyValue.skipBlanks rest = [] then return value else .error .malformed

end Scanner

section Branches
variable {ε : Type} (i : Interpreter) (hook : List (PyStr × PyValue) → Except ε PyValue)

theorem scanOnce_quote (fuel depth : Nat) (rest : PyStr) : scanOnce i hook (fuel + 1) depth (34 :: rest) =
    (orMalformed (PyValue.scanString (rest.length + 1) rest) >>= fun r => .ok (.str r.1,r.2)) := by
  rw [scanOnce.eq_def]
  rfl

theorem scanOnce_square (fuel depth : Nat) (rest : PyStr) : scanOnce i hook (fuel + 1) (depth + 1) (91 :: rest) =
    ((if (PyValue.skipBlanks rest).head? = some 93 then .ok ([],(PyValue.skipBlanks rest).tail) else scanItems i hook fuel depth (PyValue.skipBlanks rest)) >>=
      fun r => .ok (.arr r.1,r.2)) := by
  rw [scanOnce.eq_def]
  rfl

theorem scanOnce_curly (fuel depth : Nat) (rest : PyStr) : scanOnce i hook (fuel + 1) (depth + 1) (123 :: rest) =
    ((if (PyValue.skipBlanks rest).head? = some 125 then .ok ([],(PyValue.skipBlanks rest).tail) else scanMembers i hook fuel depth (PyValue.skipBlanks rest)) >>=
      fun r => hooked hook r.1 >>= fun value => .ok (value,r.2)) := by
  rw [scanOnce.eq_def]
  rfl

theorem scanOnce_atom {c : Nat} (hquote : c ≠ 34) (hsquare : c ≠ 91) (hcurly : c ≠ 123) (fuel depth : Nat) (rest : PyStr) :
    scanOnce i hook (fuel + 1) depth (c :: rest) = orMalformed (PyValue.scanScalar i (c :: rest)) := by
  rw [scanOnce.eq_def]
  simp only [hquote,hsquare,hcurly,if_false]

theorem orMalformed_ok {α : Type} {o : Option α} {a : α} : (orMalformed o : Except (LoadsError ε) α) = .ok a ↔ o = some a := by
  cases o <;> simp [orMalformed]

end Branches

section Rest
variable {l rest : PyStr}

theorem skipBlanks_le (l : PyStr) : (PyValue.skipBlanks l).length ≤ l.length := (List.dropWhile_suffix PyValue.isBlank).length_le

theorem scanDigits_le (l : PyStr) : (PyValue.scanDigits l).2.length ≤ l.length := (List.dropWhile_suffix PyValue.isDigit).length_le

theorem scanHex_le {n : Nat} (h : PyValue.scanHex l = some (n,rest)) : rest.length ≤ l.length := by
  unfold PyValue.scanHex at h
  split at h
  next a b c d rest' =>
    simp only [bind,Option.bind_eq_some_iff,pure,Option.some.injEq,Prod.mk.injEq] at h
    obtain ⟨-,-,-,-,-,-,-,-,-,rfl⟩ := h
    simp only [List.length_cons]
    omega
  next => cases h

theorem scanPair_le (high : Nat) (l : PyStr) : (PyValue.scanPair high l).2.length ≤ l.length := by
  unfold PyValue.scanPair
  split
  next tail =>
    split
    next low after hhex =>
      have hle := scanHex_le hhex
      split
      · simp only [List.length_cons]
        omega
      · exact Nat.le_refl _
    next => exact Nat.le_refl _
  next => exact Nat.le_refl _

theorem scanString_lt (fuel : Nat) (l : PyStr) : ∀ body rest, PyValue.scanString fuel l = some (body,rest) → rest.length < l.length := by
  induction fuel generalizing l with
  | zero =>
    intro body rest h
    cases h
  | succ fuel ih =>
    intro body rest h
    unfold PyValue.scanString at h
    split at h
    next => cases h
    next => cases h
    next fuel' tail hfuel =>
      obtain ⟨-,rfl⟩ := Prod.mk.inj (Option.some.inj h)
      exact Nat.lt_succ_self _
    next fuel' tail hfuel =>
      obtain rfl := Nat.succ.inj hfuel
      obtain ⟨⟨n,after⟩,hhex,h⟩ := Option.bind_eq_some_iff.mp h
      dsimp only at h
      have hle := scanHex_le hhex
      have hpair := scanPair_le n after
      generalize PyValue.scanPair n after = paired at h hpair
      obtain ⟨c,after'⟩ := paired
      obtain ⟨⟨body',rest'⟩,hbody,h⟩ := Option.bind_eq_some_iff.mp h
      obtain ⟨-,rfl⟩ := Prod.mk.inj (Option.some.inj h)
      have hlt := ih _ _ _ hbody
      simp only [List.length_cons]
      omega
    next fuel' mark tail _ hfuel =>
      obtain rfl := Nat.succ.inj hfuel
      obtain ⟨c,-,h⟩ := Option.bind_eq_some_iff.mp h
      obtain ⟨⟨body',rest'⟩,hbody,h⟩ := Option.bind_eq_some_iff.mp h
      obtain ⟨-,rfl⟩ := Prod.mk.inj (Option.some.inj h)
      have hlt := ih _ _ _ hbody
      simp only [List.length_cons]
      omega
    next fuel' c tail _ _ _ hfuel =>
      obtain rfl := Nat.succ.inj hfuel
      split at h
      · cases h
      · obtain ⟨⟨body',rest'⟩,hbody,h⟩ := Option.bind_eq_some_iff.mp h
        obtain ⟨-,rfl⟩ := Prod.mk.inj (Option.some.inj h)
        have hlt := ih _ _ _ hbody
        rw [List.length_cons]
        omega

theorem scanName_le {name : PyStr} (h : scanName l = some (name,rest)) : rest.length ≤ l.length := by
  unfold scanName at h
  obtain ⟨⟨name',after⟩,hstring,h⟩ := Option.bind_eq_some_iff.mp h
  dsimp only at h
  split at hstring
  · split at h
    · obtain ⟨-,rfl⟩ := Prod.mk.inj (Option.some.inj h)
      have hlt := scanString_lt _ _ _ _ hstring
      have hspace := skipBlanks_le after
      have hspace' := skipBlanks_le (PyValue.skipBlanks after).tail
      rw [List.length_tail] at hlt hspace'
      omega
    · cases h
  · cases hstring

theorem scanInteger_le {whole : PyStr} (h : PyValue.scanInteger l = some (whole,rest)) : rest.length ≤ l.length := by
  unfold PyValue.scanInteger at h
  split at h
  next tail =>
    obtain ⟨-,rfl⟩ := Prod.mk.inj (Option.some.inj h)
    exact Nat.le_succ _
  next =>
    split at h
    · cases h
    · rw [← (Prod.mk.inj (Option.some.inj h)).2]
      exact (List.dropWhile_suffix PyValue.isDigit).length_le

theorem scanFraction_le (l : PyStr) : (PyValue.scanFraction l).2.length ≤ l.length := by
  unfold PyValue.scanFraction
  split
  next tail =>
    split
    · exact Nat.le_refl _
    · exact Nat.le_trans (scanDigits_le tail) (Nat.le_succ _)
  next => exact Nat.le_refl _

theorem scanSign_le (l : PyStr) : (PyValue.scanSign l).2.length ≤ l.length := by
  unfold PyValue.scanSign
  split
  next => exact Nat.le_succ _
  next => exact Nat.le_succ _
  next => exact Nat.le_refl _

theorem scanExponent_le (l : PyStr) : (PyValue.scanExponent l).2.length ≤ l.length := by
  cases l with
  | nil => exact Nat.le_refl _
  | cons e tail =>
    simp only [PyValue.scanExponent]
    split
    · have hdigits := scanDigits_le (PyValue.scanSign tail).2
      have hsign := scanSign_le tail
      simp only [List.length_cons]
      omega
    · exact Nat.le_refl _

theorem scanMagnitude_le {text : PyStr} (h : PyValue.scanMagnitude l = some (text,rest)) : rest.length ≤ l.length := by
  unfold PyValue.scanMagnitude at h
  obtain ⟨⟨whole,after⟩,hwhole,h⟩ := Option.bind_eq_some_iff.mp h
  have hle := scanInteger_le hwhole
  have hfraction := scanFraction_le after
  dsimp only at h
  generalize PyValue.scanFraction after = fraction at h hfraction
  obtain ⟨fraction,after'⟩ := fraction
  have hexponent := scanExponent_le after'
  dsimp only at h hfraction
  generalize PyValue.scanExponent after' = exponent at h hexponent
  obtain ⟨-,rfl⟩ := Prod.mk.inj (Option.some.inj h)
  omega

theorem scanNumber_spec {i : Interpreter} {value : PyValue} (h : PyValue.scanNumber i l = some (value,rest)) :
    rest.length ≤ l.length ∧ ∃ text, value = .num text := by
  unfold PyValue.scanNumber at h
  have hsign : (if l.head? = some 45 then ([45],l.tail) else ([],l)).2.length ≤ l.length := by
    split
    · exact List.length_tail ▸ Nat.sub_le _ _
    · exact Nat.le_refl _
  generalize (if l.head? = some 45 then (([45] : PyStr),l.tail) else ([],l)) = signed at h hsign
  obtain ⟨⟨text,after⟩,htext,h⟩ := Option.bind_eq_some_iff.mp h
  have hle := scanMagnitude_le htext
  dsimp only at h
  split at h
  · obtain ⟨rfl,rfl⟩ := Prod.mk.inj (Option.some.inj h)
    exact ⟨Nat.le_trans hle hsign,_,rfl⟩
  · cases h

theorem scanScalar_spec {i : Interpreter} {value : PyValue} (h : PyValue.scanScalar i l = some (value,rest)) :
    rest.length ≤ l.length ∧ ∀ members, value ≠ .obj members := by
  unfold PyValue.scanScalar at h
  split at h
  next word found hfind =>
    obtain ⟨rfl,rfl⟩ := Prod.mk.inj (Option.some.inj h)
    refine ⟨?_,fun members => ?_⟩
    · rw [List.length_drop]
      omega
    · have hwords : ∀ w ∈ PyValue.words, w.2 ≠ .obj members := by simp [PyValue.words]
      exact hwords _ (List.mem_of_find?_eq_some hfind)
  next =>
    obtain ⟨hle,text,rfl⟩ := scanNumber_spec h
    refine ⟨hle,fun members hsame => ?_⟩
    cases hsame

end Rest

section Fuel
variable {ε : Type} (i : Interpreter) (hook : List (PyStr × PyValue) → Except ε PyValue)

theorem tail_skipBlanks_le (l : PyStr) : (PyValue.skipBlanks l).tail.length ≤ l.length - 1 := by
  have hle := skipBlanks_le l
  rw [List.length_tail]
  omega

theorem tail_head_lt {l : PyStr} {c : Nat} (h : (PyValue.skipBlanks l).head? = some c) : (PyValue.skipBlanks l).tail.length < l.length := by
  have hle := skipBlanks_le l
  cases hspace : PyValue.skipBlanks l with
  | nil =>
    rw [hspace] at h
    cases h
  | cons d tail =>
    rw [hspace,List.length_cons] at hle
    exact hle

-- A scan leaves no more text than it was given, and fuel past what the text needs changes nothing.
def Settles {ε α : Type} (scan : Nat → Nat → PyStr → Except (LoadsError ε) (α × PyStr)) (spare fuel : Nat) : Prop :=
  ∀ depth l, (∀ r, scan fuel depth l = .ok r → r.2.length ≤ l.length) ∧
    (2 * l.length + spare ≤ fuel → ∀ extra, scan (fuel + extra) depth l = scan fuel depth l)

theorem settles_once {fuel : Nat} (ihItems : Settles (scanItems i hook) 2 fuel) (ihMembers : Settles (scanMembers i hook) 2 fuel) :
    Settles (scanOnce i hook) 1 (fuel + 1) := by
  intro depth l
  cases l with
  | nil =>
    refine ⟨?_,fun _ extra => ?_⟩
    · intro r h
      cases h
    · rw [Nat.add_right_comm]
      rfl
  | cons c tail =>
    rw [List.length_cons]
    by_cases hquote : c = 34
    · subst hquote
      refine ⟨?_,fun hfuel extra => ?_⟩
      · intro r h
        rw [scanOnce_quote] at h
        obtain ⟨⟨s,rest⟩,hstring,h⟩ := Checked.bind_ok.mp h
        cases h
        have hlt := scanString_lt _ _ _ _ (orMalformed_ok.mp hstring)
        dsimp only
        omega
      · rw [Nat.add_right_comm,scanOnce_quote,scanOnce_quote]
    by_cases hsquare : c = 91
    · subst hsquare
      cases depth with
      | zero =>
        refine ⟨?_,fun _ extra => ?_⟩
        · intro r h
          cases h
        · rw [Nat.add_right_comm]
          rfl
      | succ depth =>
        have hspace := skipBlanks_le tail
        refine ⟨?_,fun hfuel extra => ?_⟩
        · intro r h
          rw [scanOnce_square] at h
          obtain ⟨items,hitems,h⟩ := Checked.bind_ok.mp h
          cases h
          dsimp only
          split at hitems
          · cases hitems
            have htail := tail_skipBlanks_le tail
            dsimp only
            omega
          · have hle := (ihItems depth (PyValue.skipBlanks tail)).1 _ hitems
            omega
        · rw [Nat.add_right_comm,scanOnce_square,scanOnce_square,(ihItems depth (PyValue.skipBlanks tail)).2 (by omega) extra]
    by_cases hcurly : c = 123
    · subst hcurly
      cases depth with
      | zero =>
        refine ⟨?_,fun _ extra => ?_⟩
        · intro r h
          cases h
        · rw [Nat.add_right_comm]
          rfl
      | succ depth =>
        have hspace := skipBlanks_le tail
        refine ⟨?_,fun hfuel extra => ?_⟩
        · intro r h
          rw [scanOnce_curly] at h
          obtain ⟨members,hmembers,h⟩ := Checked.bind_ok.mp h
          obtain ⟨value,-,h⟩ := Checked.bind_ok.mp h
          cases h
          dsimp only
          split at hmembers
          · cases hmembers
            have htail := tail_skipBlanks_le tail
            dsimp only
            omega
          · have hle := (ihMembers depth (PyValue.skipBlanks tail)).1 _ hmembers
            omega
        · rw [Nat.add_right_comm,scanOnce_curly,scanOnce_curly,(ihMembers depth (PyValue.skipBlanks tail)).2 (by omega) extra]
    · refine ⟨?_,fun _ extra => ?_⟩
      · intro r h
        rw [scanOnce_atom i hook hquote hsquare hcurly] at h
        exact (scanScalar_spec (orMalformed_ok.mp h)).1
      · rw [Nat.add_right_comm,scanOnce_atom i hook hquote hsquare hcurly,scanOnce_atom i hook hquote hsquare hcurly]

theorem settles_items {fuel : Nat} (ihOnce : Settles (scanOnce i hook) 1 fuel) (ihItems : Settles (scanItems i hook) 2 fuel) :
    Settles (scanItems i hook) 2 (fuel + 1) := by
  intro depth l
  refine ⟨?_,fun hfuel extra => ?_⟩
  · intro r h
    rw [scanItems] at h
    obtain ⟨⟨item,rest⟩,hitem,h⟩ := Checked.bind_ok.mp h
    have hle := (ihOnce depth l).1 _ hitem
    have htail := tail_skipBlanks_le rest
    dsimp only at h hle
    split at h
    · cases h
      dsimp only
      omega
    · split at h
      · obtain ⟨⟨items,rest'⟩,hitems,h⟩ := Checked.bind_ok.mp h
        cases h
        have hle' := (ihItems depth _).1 _ hitems
        have hspace := skipBlanks_le (PyValue.skipBlanks rest).tail
        dsimp only at hle' ⊢
        omega
      · cases h
  · rw [Nat.add_right_comm,scanItems,scanItems,(ihOnce depth l).2 (by omega) extra]
    cases hitem : scanOnce i hook fuel depth l with
    | error e => rfl
    | ok r =>
      have hle := (ihOnce depth l).1 _ hitem
      rw [Checked.bind_of_ok rfl,Checked.bind_of_ok rfl]
      dsimp only
      by_cases hcomma : (PyValue.skipBlanks r.2).head? = some 44
      · have hlt := tail_head_lt hcomma
        have hspace := skipBlanks_le (PyValue.skipBlanks r.2).tail
        rw [(ihItems depth (PyValue.skipBlanks (PyValue.skipBlanks r.2).tail)).2 (by omega) extra]
      · rw [if_neg hcomma,if_neg hcomma]

theorem settles_members {fuel : Nat} (ihOnce : Settles (scanOnce i hook) 1 fuel) (ihMembers : Settles (scanMembers i hook) 2 fuel) :
    Settles (scanMembers i hook) 2 (fuel + 1) := by
  intro depth l
  refine ⟨?_,fun hfuel extra => ?_⟩
  · intro r h
    rw [scanMembers] at h
    obtain ⟨⟨name,named⟩,hname,h⟩ := Checked.bind_ok.mp h
    obtain ⟨⟨value,rest⟩,hvalue,h⟩ := Checked.bind_ok.mp h
    have hnamed := scanName_le (orMalformed_ok.mp hname)
    have hle := (ihOnce depth named).1 _ hvalue
    have htail := tail_skipBlanks_le rest
    dsimp only at h hle
    split at h
    · cases h
      dsimp only
      omega
    · split at h
      · obtain ⟨⟨members,rest'⟩,hmembers,h⟩ := Checked.bind_ok.mp h
        cases h
        have hle' := (ihMembers depth _).1 _ hmembers
        have hspace := skipBlanks_le (PyValue.skipBlanks rest).tail
        dsimp only at hle' ⊢
        omega
      · cases h
  · rw [Nat.add_right_comm,scanMembers,scanMembers]
    cases hname : scanName l with
    | none => rfl
    | some named =>
      have hnamed := scanName_le hname
      have hok : (orMalformed (some named) : Except (LoadsError ε) (PyStr × PyStr)) = .ok named := rfl
      rw [Checked.bind_of_ok hok,Checked.bind_of_ok hok]
      dsimp only
      rw [(ihOnce depth named.2).2 (by omega) extra]
      cases hvalue : scanOnce i hook fuel depth named.2 with
      | error e => rfl
      | ok r =>
        have hle := (ihOnce depth named.2).1 _ hvalue
        rw [Checked.bind_of_ok rfl,Checked.bind_of_ok rfl]
        by_cases hcomma : (PyValue.skipBlanks r.2).head? = some 44
        · have hlt := tail_head_lt hcomma
          have hspace := skipBlanks_le (PyValue.skipBlanks r.2).tail
          rw [(ihMembers depth (PyValue.skipBlanks (PyValue.skipBlanks r.2).tail)).2 (by omega) extra]
        · rw [if_neg hcomma,if_neg hcomma]

theorem settles (fuel : Nat) :
    Settles (scanOnce i hook) 1 fuel ∧ Settles (scanItems i hook) 2 fuel ∧ Settles (scanMembers i hook) 2 fuel := by
  induction fuel with
  | zero =>
    refine ⟨?_,?_,?_⟩
    · refine fun depth l => ⟨?_,fun h => absurd h (by omega)⟩
      intro r h
      cases h
    · refine fun depth l => ⟨?_,fun h => absurd h (by omega)⟩
      intro r h
      cases h
    · refine fun depth l => ⟨?_,fun h => absurd h (by omega)⟩
      intro r h
      cases h
  | succ fuel ih =>
    obtain ⟨ihOnce,ihItems,ihMembers⟩ := ih
    exact ⟨settles_once i hook ihItems ihMembers,settles_items i hook ihOnce ihItems,settles_members i hook ihOnce ihMembers⟩

theorem loads_fuel (text : PyStr) (extra : Nat) :
    (do
      let (value,rest) ← scanOnce i hook (2 * text.length + 1 + extra) i.maxDepth (PyValue.skipBlanks text)
      if PyValue.skipBlanks rest = [] then return value else .error .malformed) = loads i hook text := by
  have hspace := skipBlanks_le text
  rw [loads,((settles i hook (2 * text.length + 1)).1 i.maxDepth (PyValue.skipBlanks text)).2 (by omega) extra]

end Fuel

section Depth
variable {ε : Type} (i : Interpreter) (hook : List (PyStr × PyValue) → Except ε PyValue)

theorem skipBlanks_brackets (n : Nat) : PyValue.skipBlanks (List.replicate n 91) = List.replicate n 91 := by
  cases n <;> rfl

theorem scanOnce_brackets (depth extra : Nat) :
    scanOnce i hook (2 * depth + 1 + extra) depth (List.replicate (depth + 1) 91) = .error .recursion := by
  induction depth with
  | zero =>
    rw [show 2 * 0 + 1 + extra = extra + 1 by omega]
    rfl
  | succ depth ih =>
    have hnext : (List.replicate (depth + 1) 91).head? ≠ some 93 := by simp [List.replicate_succ]
    rw [show 2 * (depth + 1) + 1 + extra = (2 * depth + 1 + extra) + 1 + 1 by omega,List.replicate_succ,scanOnce,if_neg (by decide),
      if_pos rfl]
    simp only [skipBlanks_brackets]
    rw [if_neg hnext,scanItems,ih]
    rfl

theorem loads_brackets : loads i hook (List.replicate (i.maxDepth + 1) 91) = .error .recursion := by
  rw [loads,skipBlanks_brackets,List.length_replicate,show 2 * (i.maxDepth + 1) + 1 = 2 * i.maxDepth + 1 + 2 by omega,scanOnce_brackets]
  rfl

end Depth

-- What json.loads does without a hook, except that it keeps every member.
def keepMembers (ε : Type) (members : List (PyStr × PyValue)) : Except ε PyValue := .ok (.obj members)

section Kept
variable {ε : Type} {i : Interpreter} {hook : List (PyStr × PyValue) → Except ε PyValue}

theorem hooked_ok {members : List (PyStr × PyValue)} {value : PyValue} :
    hooked hook members = .ok value ↔ hook members = .ok value := by
  rw [hooked]
  cases hook members <;> simp [Except.mapError]

def Keeps {α : Type} (scan kept : Nat → Nat → PyStr → Except (LoadsError ε) (α × PyStr)) (fuel : Nat) : Prop :=
  ∀ depth l r, scan fuel depth l = .ok r → kept fuel depth l = .ok r

theorem kept_once (hhook : ∀ members value, hook members = .ok value → value = .obj members) {fuel : Nat}
    (ihItems : Keeps (scanItems i hook) (scanItems i (keepMembers ε)) fuel)
    (ihMembers : Keeps (scanMembers i hook) (scanMembers i (keepMembers ε)) fuel) :
    Keeps (scanOnce i hook) (scanOnce i (keepMembers ε)) (fuel + 1) := by
  intro depth l r h
  cases l with
  | nil => cases h
  | cons c rest =>
    by_cases hquote : c = 34
    · subst hquote
      rw [scanOnce_quote] at h ⊢
      exact h
    by_cases hsquare : c = 91
    · subst hsquare
      cases depth with
      | zero => cases h
      | succ depth =>
        rw [scanOnce_square] at h ⊢
        obtain ⟨items,hitems,h⟩ := Checked.bind_ok.mp h
        refine Checked.bind_ok.mpr ⟨items,?_,h⟩
        by_cases hempty : (PyValue.skipBlanks rest).head? = some 93
        · rw [if_pos hempty] at hitems ⊢
          exact hitems
        · rw [if_neg hempty] at hitems ⊢
          exact ihItems _ _ _ hitems
    by_cases hcurly : c = 123
    · subst hcurly
      cases depth with
      | zero => cases h
      | succ depth =>
        rw [scanOnce_curly] at h ⊢
        obtain ⟨members,hmembers,h⟩ := Checked.bind_ok.mp h
        obtain ⟨value,hvalue,h⟩ := Checked.bind_ok.mp h
        have hsame := hhook _ _ (hooked_ok.mp hvalue)
        refine Checked.bind_ok.mpr ⟨members,?_,Checked.bind_ok.mpr ⟨value,hooked_ok.mpr (hsame ▸ rfl),h⟩⟩
        by_cases hempty : (PyValue.skipBlanks rest).head? = some 125
        · rw [if_pos hempty] at hmembers ⊢
          exact hmembers
        · rw [if_neg hempty] at hmembers ⊢
          exact ihMembers _ _ _ hmembers
    · rw [scanOnce_atom i hook hquote hsquare hcurly] at h
      rw [scanOnce_atom i (keepMembers ε) hquote hsquare hcurly]
      exact orMalformed_ok.mpr (orMalformed_ok.mp h)

theorem kept_items {fuel : Nat} (ihOnce : Keeps (scanOnce i hook) (scanOnce i (keepMembers ε)) fuel)
    (ihItems : Keeps (scanItems i hook) (scanItems i (keepMembers ε)) fuel) :
    Keeps (scanItems i hook) (scanItems i (keepMembers ε)) (fuel + 1) := by
  intro depth l r h
  rw [scanItems] at h ⊢
  obtain ⟨⟨item,rest⟩,hitem,h⟩ := Checked.bind_ok.mp h
  refine Checked.bind_ok.mpr ⟨_,ihOnce _ _ _ hitem,?_⟩
  dsimp only at h ⊢
  by_cases hclose : (PyValue.skipBlanks rest).head? = some 93
  · rw [if_pos hclose] at h ⊢
    exact h
  · rw [if_neg hclose] at h ⊢
    by_cases hcomma : (PyValue.skipBlanks rest).head? = some 44
    · rw [if_pos hcomma] at h ⊢
      obtain ⟨items,hitems,h⟩ := Checked.bind_ok.mp h
      exact Checked.bind_ok.mpr ⟨_,ihItems _ _ _ hitems,h⟩
    · rw [if_neg hcomma] at h
      cases h

theorem kept_members {fuel : Nat} (ihOnce : Keeps (scanOnce i hook) (scanOnce i (keepMembers ε)) fuel)
    (ihMembers : Keeps (scanMembers i hook) (scanMembers i (keepMembers ε)) fuel) :
    Keeps (scanMembers i hook) (scanMembers i (keepMembers ε)) (fuel + 1) := by
  intro depth l r h
  rw [scanMembers] at h ⊢
  obtain ⟨⟨name,named⟩,hname,h⟩ := Checked.bind_ok.mp h
  obtain ⟨⟨value,rest⟩,hvalue,h⟩ := Checked.bind_ok.mp h
  refine Checked.bind_ok.mpr ⟨_,orMalformed_ok.mpr (orMalformed_ok.mp hname),Checked.bind_ok.mpr ⟨_,ihOnce _ _ _ hvalue,?_⟩⟩
  dsimp only at h ⊢
  by_cases hclose : (PyValue.skipBlanks rest).head? = some 125
  · rw [if_pos hclose] at h ⊢
    exact h
  · rw [if_neg hclose] at h ⊢
    by_cases hcomma : (PyValue.skipBlanks rest).head? = some 44
    · rw [if_pos hcomma] at h ⊢
      obtain ⟨members,hmembers,h⟩ := Checked.bind_ok.mp h
      exact Checked.bind_ok.mpr ⟨_,ihMembers _ _ _ hmembers,h⟩
    · rw [if_neg hcomma] at h
      cases h

theorem kept (hhook : ∀ members value, hook members = .ok value → value = .obj members) (fuel : Nat) :
    Keeps (scanOnce i hook) (scanOnce i (keepMembers ε)) fuel ∧ Keeps (scanItems i hook) (scanItems i (keepMembers ε)) fuel ∧
      Keeps (scanMembers i hook) (scanMembers i (keepMembers ε)) fuel := by
  induction fuel with
  | zero =>
    refine ⟨?_,?_,?_⟩
    · intro depth l r h
      cases h
    · intro depth l r h
      cases h
    · intro depth l r h
      cases h
  | succ fuel ih =>
    obtain ⟨ihOnce,ihItems,ihMembers⟩ := ih
    exact ⟨kept_once hhook ihItems ihMembers,kept_items ihOnce ihItems,kept_members ihOnce ihMembers⟩

theorem loads_kept (hhook : ∀ members value, hook members = .ok value → value = .obj members) {text : PyStr}
    {value : PyValue} (h : loads i hook text = .ok value) : loads i (keepMembers ε) text = .ok value := by
  rw [loads] at h ⊢
  obtain ⟨⟨scanned,rest⟩,hscan,h⟩ := Checked.bind_ok.mp h
  refine Checked.bind_ok.mpr ⟨_,(kept hhook _).1 _ _ _ hscan,?_⟩
  dsimp only at h ⊢
  by_cases hrest : PyValue.skipBlanks rest = []
  · rw [if_pos hrest] at h ⊢
    exact h
  · rw [if_neg hrest] at h
    cases h

theorem loads_obj {text : PyStr} {members : List (PyStr × PyValue)} (h : loads i hook text = .ok (.obj members)) :
    ∃ pairs, hook pairs = .ok (.obj members) := by
  rw [loads] at h
  obtain ⟨⟨value,rest⟩,hscan,h⟩ := Checked.bind_ok.mp h
  dsimp only at h
  split at h
  · cases h
    cases hspace : PyValue.skipBlanks text with
    | nil =>
      rw [hspace] at hscan
      cases hscan
    | cons c tail =>
      rw [hspace] at hscan
      by_cases hquote : c = 34
      · subst hquote
        rw [scanOnce_quote] at hscan
        obtain ⟨s,-,hs⟩ := Checked.bind_ok.mp hscan
        cases hs
      by_cases hsquare : c = 91
      · subst hsquare
        cases hdepth : i.maxDepth with
        | zero =>
          rw [hdepth] at hscan
          cases hscan
        | succ depth =>
          rw [hdepth,scanOnce_square] at hscan
          obtain ⟨items,-,hitems⟩ := Checked.bind_ok.mp hscan
          cases hitems
      by_cases hcurly : c = 123
      · subst hcurly
        cases hdepth : i.maxDepth with
        | zero =>
          rw [hdepth] at hscan
          cases hscan
        | succ depth =>
          rw [hdepth,scanOnce_curly] at hscan
          obtain ⟨pairs,-,hpairs⟩ := Checked.bind_ok.mp hscan
          obtain ⟨value,hvalue,hpairs⟩ := Checked.bind_ok.mp hpairs
          cases hpairs
          exact ⟨pairs.1,hooked_ok.mp hvalue⟩
      · rw [scanOnce_atom i hook hquote hsquare hcurly] at hscan
        exact absurd rfl ((scanScalar_spec (orMalformed_ok.mp hscan)).2 members)
  · cases h

end Kept

end JsonHook

end SafeAgents
