import Mathlib.Data.List.Basic

namespace LineLog

def newline : UInt8 := 10

def white (b : UInt8) : Bool := b == 32 || (9 ≤ b && b ≤ 13)

def strip (line : List UInt8) : List UInt8 := (line.dropWhile white).reverse.dropWhile white |>.reverse

structure Codec (α : Type) where
  dump : α → List UInt8
  validate : List UInt8 → Except String α

structure Codec.Lawful {α : Type} (c : Codec α) : Prop where
  validate_dump : ∀ r, c.validate (c.dump r) = .ok r
  oneLine : ∀ r, newline ∉ c.dump r
  opens : ∀ r, ∃ b, (c.dump r).head? = some b ∧ white b = false
  closes : ∀ r, ∃ b, (c.dump r).getLast? = some b ∧ white b = false

theorem dropWhile_solid {line : List UInt8} {b : UInt8} (hb : line.head? = some b) (hwhite : white b = false) :
    line.dropWhile white = line := by
  obtain ⟨rest,rfl⟩ := List.head?_eq_some_iff.mp hb
  simp [hwhite]

theorem strip_solid {line : List UInt8} {b d : UInt8} (hb : line.head? = some b) (hopens : white b = false)
    (hd : line.getLast? = some d) (hcloses : white d = false) : strip line = line := by
  have hback : line.reverse.head? = some d := by rw [List.head?_reverse,hd]
  rw [strip,dropWhile_solid hb hopens,dropWhile_solid hback hcloses,List.reverse_reverse]

theorem strip_nonempty {line : List UInt8} {b : UInt8} (hb : line.head? = some b) (hopens : white b = false) :
    (strip line).isEmpty = false := by
  obtain ⟨rest,rfl⟩ := List.head?_eq_some_iff.mp hb
  have hkept : b ∈ (b :: rest).reverse.dropWhile white := by
    rw [List.reverse_cons,List.dropWhile_append]
    split
    · simp [hopens]
    · simp
  rw [strip,dropWhile_solid hb hopens,List.isEmpty_reverse]
  cases hstripped : (b :: rest).reverse.dropWhile white with
  | nil =>
    rw [hstripped] at hkept
    cases hkept
  | cons x xs => rfl

theorem findIdx_line {line : List UInt8} (h : newline ∉ line) (rest : List UInt8) :
    (line ++ newline :: rest).findIdx? (· == newline) = some line.length := by
  induction line with
  | nil => rfl
  | cons b line ih =>
    simp only [List.mem_cons,not_or] at h
    have hb : (b == newline) = false := by simpa using Ne.symm h.1
    simp [List.findIdx?_cons,hb,ih h.2]

theorem findIdx_tail {tail : List UInt8} (h : newline ∉ tail) : tail.findIdx? (· == newline) = none := by
  rw [List.findIdx?_eq_none_iff]
  intro b hb
  have hne : b ≠ newline := by
    rintro rfl
    exact h hb
  simpa using hne

section Log
variable {α : Type} (c : Codec α)

def line (r : α) : List UInt8 := c.dump r ++ [newline]

def lines (rs : List α) : List UInt8 := rs.flatMap (line c)

@[simp] theorem lines_nil : lines c [] = [] := rfl

@[simp] theorem lines_cons (r : α) (rs : List α) : lines c (r :: rs) = line c r ++ lines c rs := by simp [lines]

@[simp] theorem lines_append (rs rs' : List α) : lines c (rs ++ rs') = lines c rs ++ lines c rs' := by simp [lines]

def Torn (tail : List UInt8) : Prop := tail = [] ∨ ∃ r, tail <+: c.dump r

variable {c}

theorem take_line (r : α) (kept : Nat) : (line c r).take kept = line c r ∨ (line c r).take kept <+: c.dump r := by
  by_cases hkept : kept ≤ (c.dump r).length
  · right
    rw [line,List.take_append_of_le_length hkept]
    exact List.take_prefix _ _
  · left
    apply List.take_of_length_le
    simp only [line,List.length_append,List.length_singleton]
    omega

theorem Torn.oneLine {tail : List UInt8} (hc : c.Lawful) (h : Torn c tail) : newline ∉ tail := by
  rcases h with rfl | ⟨r,hr⟩
  · simp
  · exact fun hmem => hc.oneLine r (hr.subset hmem)

theorem Torn.strip_isEmpty {tail : List UInt8} (hc : c.Lawful) (h : Torn c tail) : (strip tail).isEmpty = tail.isEmpty := by
  rcases h with rfl | ⟨r,rest,hr⟩
  · rfl
  · cases tail with
    | nil => rfl
    | cons b tail =>
      obtain ⟨d,hd,hopens⟩ := hc.opens r
      have hbd : b = d := by
        rw [← hr] at hd
        simpa using hd
      exact strip_nonempty (b := b) rfl (hbd ▸ hopens)

theorem strip_dump (hc : c.Lawful) (r : α) : strip (c.dump r) = c.dump r := by
  obtain ⟨b,hb,hopens⟩ := hc.opens r
  obtain ⟨d,hd,hcloses⟩ := hc.closes r
  exact strip_solid hb hopens hd hcloses

theorem dump_isEmpty (hc : c.Lawful) (r : α) : (c.dump r).isEmpty = false := by
  obtain ⟨b,hb,-⟩ := hc.opens r
  obtain ⟨rest,hrest⟩ := List.head?_eq_some_iff.mp hb
  rw [hrest]
  rfl

end Log

end LineLog
