import Mathlib.Data.List.Induction
import Mathlib.Tactic.Common

namespace HashChain

structure Links (α η : Type) where
  seq : α → Int
  prev : α → η
  hash : α → η
  digest : α → η

namespace Links
variable {α η : Type} (L : Links α η)

def Linked : Int → η → List α → Prop
  | _, _, [] => True
  | n, p, r :: rs => L.seq r = n ∧ L.prev r = p ∧ L.hash r = L.digest r ∧ Linked (n + 1) (L.hash r) rs

def lastHash (p : η) (rs : List α) : η := rs.foldl (fun _ r => L.hash r) p

@[simp] theorem lastHash_snoc (p : η) (rs : List α) (r : α) : L.lastHash p (rs ++ [r]) = L.hash r := by
  simp [lastHash]

variable {L} {n : Int} {p : η} {rs : List α} {r : α}

theorem linked_snoc :
    L.Linked n p (rs ++ [r]) ↔
      L.Linked n p rs ∧ L.seq r = n + rs.length ∧ L.prev r = L.lastHash p rs ∧ L.hash r = L.digest r := by
  induction rs generalizing n p with
  | nil => simp [Linked,lastHash]
  | cons x rs ih =>
    have hlength : n + 1 + (rs.length : Int) = n + ((x :: rs).length : Int) := by
      simp only [List.length_cons]
      omega
    simp only [List.cons_append,Linked,ih,hlength]
    constructor
    · rintro ⟨hseq,hprev,hhash,hrest,hlast⟩
      exact ⟨⟨hseq,hprev,hhash,hrest⟩,hlast⟩
    · rintro ⟨⟨hseq,hprev,hhash,hrest⟩,hlast⟩
      exact ⟨hseq,hprev,hhash,hrest,hlast⟩

theorem eq_of_lastHash {xs ys : List α} {q : η} (hx : L.Linked n p xs) (hy : L.Linked n q ys)
    (hinj : ∀ x ∈ xs, ∀ y ∈ ys, L.digest x = L.digest y → L.hash x = L.hash y → x = y)
    (hxs : xs ≠ []) (hys : ys ≠ []) (hlast : L.lastHash p xs = L.lastHash q ys) : xs = ys := by
  induction xs using List.reverseRecOn generalizing ys with
  | nil => exact absurd rfl hxs
  | append_singleton xs x ih =>
    obtain ⟨ys,y,rfl⟩ : ∃ ys' y, ys = ys' ++ [y] := ⟨_,_,(List.dropLast_concat_getLast hys).symm⟩
    obtain ⟨hxs',hxseq,hxprev,hxhash⟩ := linked_snoc.mp hx
    obtain ⟨hys',hyseq,hyprev,hyhash⟩ := linked_snoc.mp hy
    have hhash : L.hash x = L.hash y := by simpa using hlast
    have hsame : x = y := hinj x (by simp) y (by simp) (hxhash.symm.trans (hhash.trans hyhash)) hhash
    subst hsame
    have hlength : xs.length = ys.length := by omega
    congr 1
    by_cases hempty : xs = []
    · have hother : ys = [] := List.eq_nil_of_length_eq_zero (by simpa [hempty] using hlength.symm)
      rw [hempty,hother]
    · have hother : ys ≠ [] := by
        rintro rfl
        exact hempty (List.eq_nil_of_length_eq_zero hlength)
      exact ih hxs' hys' (fun a ha b hb => hinj a (by simp [ha]) b (by simp [hb])) hempty hother (hxprev.symm.trans hyprev)

end Links

end HashChain
