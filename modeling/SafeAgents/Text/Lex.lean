import Mathlib.Data.List.Basic
import Mathlib.Algebra.Order.Ring.Nat

namespace Lexical

section Blocks
variable {α : Type} [LT α]

theorem append_lt_append_of_length_eq {a b : List α} (hlen : a.length = b.length) (hab : a < b) (x y : List α) :
    a ++ x < b ++ y := by
  induction a generalizing b with
  | nil =>
    have hb : b = [] := List.length_eq_zero_iff.mp hlen.symm
    subst hb
    exact absurd hab (List.not_lt_nil _)
  | cons c a ih =>
    cases b with
    | nil => simp at hlen
    | cons d b =>
      have htail : a.length = b.length := by simpa using hlen
      rcases List.cons_lt_cons_iff.mp hab with hcd | ⟨rfl,hrest⟩
      · exact List.cons_lt_cons_iff.mpr (.inl hcd)
      · exact List.cons_lt_cons_iff.mpr (.inr ⟨rfl,ih htail hrest⟩)

theorem append_lt_append_of_blocks {a b x y : List α} (hlen : a.length = b.length) (h : a < b ∨ a = b ∧ x < y) :
    a ++ x < b ++ y := by
  rcases h with hlt | ⟨rfl,hrest⟩
  · exact append_lt_append_of_length_eq hlen hlt x y
  · exact List.append_left_lt hrest

end Blocks

section Digits

def AllDigits (l : List Char) : Prop := ∀ c ∈ l, c.isDigit = true

theorem digit_bounds {c : Char} (h : c.isDigit = true) : 48 ≤ c.toNat ∧ c.toNat ≤ 57 := by
  have hb := Char.isDigit_iff_toNat.mp h
  simpa using hb

theorem char_lt_iff {c d : Char} : c < d ↔ c.toNat < d.toNat := UInt32.lt_iff_toNat_lt

theorem ofDigitChars_cons_zero (c : Char) (l : List Char) :
    Nat.ofDigitChars 10 (c :: l) 0 = 10 ^ l.length * (c.toNat - 48) + Nat.ofDigitChars 10 l 0 := by
  rw [Nat.ofDigitChars_cons,Nat.ofDigitChars_eq_ofDigitChars_zero]
  simp

theorem ofDigitChars_lt {l : List Char} (h : AllDigits l) : Nat.ofDigitChars 10 l 0 < 10 ^ l.length := by
  induction l with
  | nil => simp
  | cons c l ih =>
    have hc := digit_bounds (h c (by simp))
    have hl := ih fun d hd => h d (by simp [hd])
    have hd : c.toNat - 48 ≤ 9 := by omega
    have hmul : 10 ^ l.length * (c.toNat - 48) ≤ 10 ^ l.length * 9 := Nat.mul_le_mul_left _ hd
    rw [ofDigitChars_cons_zero,List.length_cons,Nat.pow_succ]
    omega

theorem lt_of_ofDigitChars_lt {l l' : List Char} (h : AllDigits l) (h' : AllDigits l')
    (hlen : l.length = l'.length) (hval : Nat.ofDigitChars 10 l 0 < Nat.ofDigitChars 10 l' 0) : l < l' := by
  induction l generalizing l' with
  | nil =>
    have hl' : l' = [] := List.length_eq_zero_iff.mp hlen.symm
    subst hl'
    exact absurd hval (Nat.lt_irrefl _)
  | cons c l ih =>
    cases l' with
    | nil => simp at hlen
    | cons d l' =>
      have htail : l.length = l'.length := by simpa using hlen
      have hl : AllDigits l := fun x hx => h x (by simp [hx])
      have hl' : AllDigits l' := fun x hx => h' x (by simp [hx])
      have hc := digit_bounds (h c (by simp))
      have hd := digit_bounds (h' d (by simp))
      rw [ofDigitChars_cons_zero,ofDigitChars_cons_zero,← htail] at hval
      rw [List.cons_lt_cons_iff,char_lt_iff]
      rcases lt_trichotomy c.toNat d.toNat with hlt | heq | hgt
      · exact .inl hlt
      · have hcd := Char.toNat_inj.mp heq
        subst hcd
        exact .inr ⟨rfl,ih hl hl' htail (by omega)⟩
      · have hb := ofDigitChars_lt hl'
        rw [← htail] at hb
        have hstep : 10 ^ l.length * (d.toNat - 48 + 1) ≤ 10 ^ l.length * (c.toNat - 48) :=
          Nat.mul_le_mul_left _ (by omega)
        rw [Nat.mul_add] at hstep
        omega

def fixedWidth (w n : Nat) : List Char :=
  List.replicate (w - (Nat.toDigits 10 n).length) '0' ++ Nat.toDigits 10 n

theorem allDigits_fixedWidth (w n : Nat) : AllDigits (fixedWidth w n) := by
  intro c hc
  rcases List.mem_append.mp hc with hzero | hdigit
  · rw [List.eq_of_mem_replicate hzero]
    rfl
  · exact Nat.isDigit_of_mem_toDigits (by decide) (by decide) hdigit

theorem length_fixedWidth {w n : Nat} (hw : 0 < w) (h : n < 10 ^ w) : (fixedWidth w n).length = w := by
  have hlen : (Nat.toDigits 10 n).length ≤ w := (Nat.length_toDigits_le_iff (by decide) hw).mpr h
  simp only [fixedWidth,List.length_append,List.length_replicate]
  omega

@[simp] theorem ofDigitChars_fixedWidth (w n : Nat) : Nat.ofDigitChars 10 (fixedWidth w n) 0 = n := by
  rw [fixedWidth,Nat.ofDigitChars_append]
  simp

theorem fixedWidth_lt {w n m : Nat} (hw : 0 < w) (hm : m < 10 ^ w) (h : n < m) : fixedWidth w n < fixedWidth w m := by
  refine lt_of_ofDigitChars_lt (allDigits_fixedWidth w n) (allDigits_fixedWidth w m) ?_ (by simpa using h)
  rw [length_fixedWidth hw (Nat.lt_trans h hm),length_fixedWidth hw hm]

end Digits

section Cuts
variable {α : Type}

theorem cut_unique {s : α} {a b x y : List α} (ha : s ∉ a) (hb : s ∉ b) (h : a ++ s :: x = b ++ s :: y) :
    a = b ∧ x = y := by
  induction a generalizing b with
  | nil =>
    cases b with
    | nil => simpa using h
    | cons d b =>
      have hd : s = d := by simpa using congrArg List.head? h
      exact absurd (by simp [hd]) hb
  | cons c a ih =>
    cases b with
    | nil =>
      have hc : c = s := by simpa using congrArg List.head? h
      exact absurd (by simp [hc]) ha
    | cons d b =>
      simp only [List.cons_append,List.cons.injEq] at h
      obtain ⟨rfl,rfl⟩ := ih (fun hs => ha (by simp [hs])) (fun hs => hb (by simp [hs])) h.2
      exact ⟨by rw [h.1],rfl⟩

theorem lastCut_unique {s : α} {a b x y : List α} (hx : s ∉ x) (hy : s ∉ y) (h : a ++ s :: x = b ++ s :: y) :
    a = b ∧ x = y := by
  have hreversed : x.reverse ++ s :: a.reverse = y.reverse ++ s :: b.reverse := by
    have hr := congrArg List.reverse h
    simpa using hr
  obtain ⟨hxy,hab⟩ := cut_unique (by simpa using hx) (by simpa using hy) hreversed
  exact ⟨List.reverse_injective hab,List.reverse_injective hxy⟩

theorem cut_later {s : α} [DecidableEq α] {a b x y : List α} (hcount : a.count s < b.count s) (h : a ++ x = b ++ y) :
    ∃ c, c ≠ [] ∧ b = a ++ c ∧ x = c ++ y := by
  rcases List.append_eq_append_iff.mp h with ⟨c,hb,hx⟩ | ⟨c,ha,_⟩
  · refine ⟨c,?_,hb,hx⟩
    rintro rfl
    simp [hb] at hcount
  · rw [ha,List.count_append] at hcount
    omega

end Cuts

section Joined
variable {α : Type}

def joined (sep : α) : List (List α) → List α
  | [] => []
  | [part] => part
  | part :: next :: rest => part ++ sep :: joined sep (next :: rest)

theorem count_joined [DecidableEq α] (sep : α) (part : List α) (rest : List (List α)) :
    (joined sep (part :: rest)).count sep = rest.length + ((part :: rest).map (List.count sep)).sum := by
  induction rest generalizing part with
  | nil => simp [joined]
  | cons next rest ih =>
    rw [joined,List.count_append,List.count_cons_self,ih]
    simp only [List.map_cons,List.sum_cons,List.length_cons]
    omega

theorem sum_count_eq_zero [DecidableEq α] {sep : α} {parts : List (List α)} :
    (parts.map (List.count sep)).sum = 0 ↔ ∀ part ∈ parts, sep ∉ part := by
  induction parts with
  | nil => simp
  | cons part parts ih =>
    rw [List.map_cons,List.sum_cons,Nat.add_eq_zero_iff,ih,List.forall_mem_cons,List.count_eq_zero]

theorem joined_of_free {sep : α} {a b : List (List α)} (hlen : a.length = b.length) (ha : ∀ part ∈ a, sep ∉ part)
    (hb : ∀ part ∈ b, sep ∉ part) (h : joined sep a = joined sep b) : a = b := by
  induction a generalizing b with
  | nil => simpa using hlen.symm
  | cons x a ih =>
    cases b with
    | nil => simp at hlen
    | cons y b =>
      match a,b with
      | [],[] => simpa [joined] using h
      | [],_ :: _ => simp at hlen
      | _ :: _,[] => simp at hlen
      | x' :: a,y' :: b =>
        obtain ⟨rfl,hrest⟩ := cut_unique (ha x (by simp)) (hb y (by simp)) h
        rw [ih (by simpa using hlen) (fun p hp => ha p (List.mem_cons_of_mem _ hp)) (fun p hp => hb p (List.mem_cons_of_mem _ hp))
          hrest]

theorem joined_injective [DecidableEq α] {sep : α} {a b : List (List α)} (hlen : a.length = b.length)
    (ha : ∀ part ∈ a, sep ∉ part) (h : joined sep a = joined sep b) : a = b := by
  cases a with
  | nil => simpa using hlen.symm
  | cons x a =>
    cases b with
    | nil => simp at hlen
    | cons y b =>
      have hcount := congrArg (List.count sep) h
      rw [count_joined,count_joined,sum_count_eq_zero.mpr ha] at hcount
      have hlen' : a.length = b.length := by simpa using hlen
      exact joined_of_free hlen ha (sum_count_eq_zero.mp (by omega)) h

end Joined

end Lexical
