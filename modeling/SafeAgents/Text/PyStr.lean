import Mathlib.Data.List.Basic

namespace Lexical

-- A str: a sequence of code points, surrogates among them.
abbrev PyStr := List Nat

namespace PyStr

def ofString (s : String) : PyStr := s.toList.map Char.toNat

-- encode("utf-8"), which takes no surrogate.
def encode (p : PyStr) : Option String :=
  if p.all fun n => decide n.isValidChar then some (String.ofList (p.map Char.ofNat)) else none

theorem encode_ofString (s : String) : encode (ofString s) = some s := by
  have hall : ((ofString s).all fun n => decide n.isValidChar) = true := by
    simp only [ofString,List.all_map,List.all_eq_true,Function.comp_apply,decide_eq_true_eq]
    intro c _
    exact c.valid
  have hid : Char.ofNat ∘ Char.toNat = id := funext fun c => Char.ofNat_toNat c
  have hback : (ofString s).map Char.ofNat = s.toList := by rw [ofString,List.map_map,hid,List.map_id]
  rw [encode,if_pos hall,hback,String.ofList_toList]

theorem encode_eq_some {p : PyStr} {s : String} : encode p = some s ↔ p = ofString s := by
  refine ⟨fun h => ?_,fun h => h ▸ encode_ofString s⟩
  unfold encode at h
  split at h
  · rename_i hall
    cases h
    simp only [List.all_eq_true,decide_eq_true_eq] at hall
    have hsame : p.map (Char.toNat ∘ Char.ofNat) = p.map id := by
      refine List.map_congr_left fun n hn => ?_
      have hchar : (Char.ofNat n).toNat = n := by
        rw [Char.ofNat,dif_pos (hall n hn)]
        exact UInt32.toNat_ofNatLT
      exact hchar
    rw [ofString,String.toList_ofList,List.map_map,hsame,List.map_id]
  · cases h

end PyStr

end Lexical
