import SafeAgents.Schemas.Decode
import Mathlib.Data.List.Nodup

namespace SafeAgents.Json

theorem field_cons (f : String × Json) (fields : List (String × Json)) (name : String) :
    field (f :: fields) name = if f.1 = name then some f.2 else field fields name := by
  by_cases h : f.1 = name <;> simp [field,h]

theorem field_replaced (fields : List (String × Json)) (f : String × Json) (name : String) :
    field (fields.map fun g => if g.1 == f.1 then f else g) name =
      if f.1 = name then (field fields name).map fun _ => f.2 else field fields name := by
  induction fields with
  | nil => split <;> rfl
  | cons g rest ih =>
    rw [List.map_cons,field_cons,field_cons,ih]
    by_cases hg : g.1 = f.1
    · by_cases hname : f.1 = name <;> simp [hg,hname]
    · by_cases hgn : g.1 = name
      · have hname : f.1 ≠ name := fun h => hg (hgn.trans h.symm)
        rw [beq_false_of_ne hg]
        simp [hgn,hname]
      · rw [beq_false_of_ne hg]
        simp [hgn]

theorem field_setMember (fields : List (String × Json)) (f : String × Json) (name : String) :
    field (setMember fields f) name = if f.1 = name then some f.2 else field fields name := by
  rw [setMember]
  split
  next hany =>
    rw [field_replaced]
    split
    next hname =>
      obtain ⟨g,hg,heq⟩ := List.any_eq_true.mp hany
      have hfound : (fields.find? fun g => g.1 == name).isSome = true := by
        rw [List.find?_isSome]
        exact ⟨g,hg,hname ▸ heq⟩
      obtain ⟨found,hfind⟩ := Option.isSome_iff_exists.mp hfound
      rw [field,hfind]
      rfl
    next => rfl
  next hnone =>
    have hfresh : (fields.find? fun g => g.1 == f.1) = none := by
      rw [List.find?_eq_none]
      intro g hg heq
      exact hnone (List.any_eq_true.mpr ⟨g,hg,heq⟩)
    by_cases hname : f.1 = name
    · rw [if_pos hname,field,List.find?_append,← hname,hfresh]
      simp
    · rw [if_neg hname,field,List.find?_append]
      simp [field,hname]

theorem field_absent {fields : List (String × Json)} {name : String} (h : name ∉ fields.map Prod.fst) : field fields name = none := by
  rw [field,Option.map_eq_none_iff,List.find?_eq_none]
  intro f hf heq
  exact h (List.mem_map.mpr ⟨f,hf,by simpa using heq⟩)

theorem field_spread {fields : List (String × Json)} (h : (fields.map Prod.fst).Nodup) (acc : List (String × Json)) (name : String) :
    field (fields.foldl setMember acc) name = (field fields name).or (field acc name) := by
  induction fields generalizing acc with
  | nil => rfl
  | cons f rest ih =>
    obtain ⟨hfresh,hrest⟩ := List.nodup_cons.mp h
    rw [List.foldl_cons,ih hrest,field_setMember]
    by_cases hname : f.1 = name
    · rw [field_absent (hname ▸ hfresh)]
      simp [field,hname]
    · simp [field,hname]

theorem setMember_nodup {fields : List (String × Json)} (h : (fields.map Prod.fst).Nodup) (f : String × Json) :
    ((setMember fields f).map Prod.fst).Nodup := by
  rw [setMember]
  split
  next =>
    have hnames : (fields.map fun g => if g.1 == f.1 then f else g).map Prod.fst = fields.map Prod.fst := by
      rw [List.map_map]
      apply List.map_congr_left
      intro g _
      by_cases hg : g.1 = f.1 <;> simp [hg]
    rw [hnames]
    exact h
  next hnone =>
    rw [List.map_append,List.map_cons,List.map_nil]
    refine List.nodup_append.mpr ⟨h,List.nodup_singleton _,fun name hname other hother => ?_⟩
    rw [List.mem_singleton.mp hother]
    rintro rfl
    obtain ⟨g,hg,hname⟩ := List.mem_map.mp hname
    exact hnone (List.any_eq_true.mpr ⟨g,hg,by simpa using hname⟩)

theorem asDict_nodup (fields : List (String × Json)) : ((asDict fields).map Prod.fst).Nodup := by
  have hfold : ∀ acc : List (String × Json), (acc.map Prod.fst).Nodup → ((fields.foldl setMember acc).map Prod.fst).Nodup := by
    induction fields with
    | nil => exact fun acc hacc => hacc
    | cons f rest ih => exact fun acc hacc => ih _ (setMember_nodup hacc f)
  exact hfold [] List.nodup_nil

theorem loads_dict {text : String} {fields : List (String × Json)} (h : loads text = some (.obj fields)) :
    (fields.map Prod.fst).Nodup := by
  rw [loads] at h
  cases hscan : scanValue (text.toList.length + 1) text.toList with
  | none => simp [hscan] at h
  | some r =>
    obtain ⟨j,rest⟩ := r
    simp only [hscan] at h
    split at h
    next =>
      obtain rfl := Option.some.inj h
      rw [scanValue] at hscan
      split at hscan
      next => cases hscan
      next c more _ =>
        cases hkind : kindOfChar c with
        | null => simp [hkind,scanWord] at hscan
        | yes => simp [hkind,scanWord] at hscan
        | no => simp [hkind,scanWord] at hscan
        | num =>
          simp only [hkind,scanNumber] at hscan
          split at hscan <;> simp at hscan
        | str => simp [hkind] at hscan
        | arr => simp [hkind] at hscan
        | obj =>
          simp only [hkind,Option.map_eq_some_iff] at hscan
          obtain ⟨members,_,hmembers⟩ := hscan
          have hfields : asDict members.1 = fields := by simpa using congrArg (fun p => p.1) hmembers
          rw [← hfields]
          exact asDict_nodup members.1
    next => cases h

end SafeAgents.Json
