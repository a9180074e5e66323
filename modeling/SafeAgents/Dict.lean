import Mathlib.Data.List.Nodup
import Mathlib.Logic.Function.Basic

-- A mapping that keeps the order in which its keys were first set.
structure Dict (κ ν : Type) where
  entries : List (κ × ν)
  unique : (entries.map Prod.fst).Nodup
  deriving DecidableEq

namespace Dict

variable {κ ν : Type}

def empty : Dict κ ν := ⟨[],List.nodup_nil⟩

@[simp] theorem entries_empty : (empty : Dict κ ν).entries = [] := rfl

def keys (d : Dict κ ν) : List κ := d.entries.map Prod.fst

def values (d : Dict κ ν) : List ν := d.entries.map Prod.snd

theorem nodup_appended {k : κ} {v : ν} {entries : List (κ × ν)} (hunique : (entries.map Prod.fst).Nodup)
    (hfresh : k ∉ entries.map Prod.fst) : ((entries ++ [(k,v)]).map Prod.fst).Nodup := by
  rw [List.map_append,List.nodup_append]
  refine ⟨hunique,List.nodup_singleton _,?_⟩
  intro a ha b hb hab
  have hbk : b = k := by simpa using hb
  exact hfresh (hbk ▸ hab ▸ ha)

variable [DecidableEq κ]

def get? (d : Dict κ ν) (k : κ) : Option ν := d.entries.lookup k

def replaced (k : κ) (v : ν) (entries : List (κ × ν)) : List (κ × ν) :=
  entries.map fun e => if e.1 = k then (k,v) else e

theorem keys_replaced (k : κ) (v : ν) (entries : List (κ × ν)) :
    (replaced k v entries).map Prod.fst = entries.map Prod.fst := by
  induction entries with
  | nil => rfl
  | cons e entries ih =>
    have hhead : (if e.1 = k then (k,v) else e).1 = e.1 := by
      split
      next h => exact h.symm
      next => rfl
    rw [replaced,List.map_cons,List.map_cons,List.map_cons,hhead]
    exact congrArg _ ih

def set (d : Dict κ ν) (k : κ) (v : ν) : Dict κ ν :=
  if h : k ∈ d.keys then ⟨replaced k v d.entries,by rw [keys_replaced]; exact d.unique⟩
  else ⟨d.entries ++ [(k,v)],nodup_appended d.unique h⟩

def erase (d : Dict κ ν) (k : κ) : Dict κ ν :=
  ⟨d.entries.filter fun e => e.1 ≠ k,(List.filter_sublist.map Prod.fst).nodup d.unique⟩

theorem lookup_iff {entries : List (κ × ν)} (hunique : (entries.map Prod.fst).Nodup) {k : κ} {v : ν} :
    entries.lookup k = some v ↔ (k,v) ∈ entries := by
  induction entries with
  | nil => simp
  | cons e entries ih =>
    obtain ⟨name,value⟩ := e
    rw [List.map_cons,List.nodup_cons] at hunique
    rw [List.lookup_cons]
    by_cases hk : k = name
    · subst hk
      have habsent : (k,v) ∉ entries := fun hmem => hunique.1 (List.mem_map.mpr ⟨(k,v),hmem,rfl⟩)
      simp [habsent,eq_comm]
    · have hne : (k == name) = false := by simpa using hk
      simp [hne,ih hunique.2,hk]

theorem get?_iff {d : Dict κ ν} {k : κ} {v : ν} : d.get? k = some v ↔ (k,v) ∈ d.entries := lookup_iff d.unique

theorem mem_keys {d : Dict κ ν} {k : κ} : k ∈ d.keys ↔ ∃ v, d.get? k = some v := by
  constructor
  · intro h
    obtain ⟨e,he,rfl⟩ := List.mem_map.mp h
    exact ⟨e.2,get?_iff.mpr he⟩
  · rintro ⟨v,h⟩
    exact List.mem_map.mpr ⟨(k,v),get?_iff.mp h,rfl⟩

theorem get?_none {d : Dict κ ν} {k : κ} : d.get? k = none ↔ k ∉ d.keys := by
  rw [mem_keys]
  cases d.get? k <;> simp

theorem mem_replaced {k : κ} {v : ν} {entries : List (κ × ν)} {j : κ} {w : ν} (hk : k ∈ entries.map Prod.fst) :
    (j,w) ∈ replaced k v entries ↔ if j = k then w = v else (j,w) ∈ entries := by
  rw [replaced,List.mem_map]
  split
  next hj =>
    subst hj
    constructor
    · rintro ⟨e,_,he⟩
      split at he
      next => exact (Prod.mk.inj he).2.symm
      next hne => exact absurd (congrArg Prod.fst he) hne
    · rintro rfl
      obtain ⟨e,he,hname⟩ := List.mem_map.mp hk
      exact ⟨e,he,by rw [if_pos hname]⟩
  next hj =>
    constructor
    · rintro ⟨e,he,heq⟩
      split at heq
      next => exact absurd (Prod.mk.inj heq).1.symm hj
      next => exact heq ▸ he
    · intro hmem
      exact ⟨(j,w),hmem,by rw [if_neg hj]⟩

@[simp] theorem get?_empty (k : κ) : (empty : Dict κ ν).get? k = none := rfl

theorem get?_set (d : Dict κ ν) (k j : κ) (v : ν) : (d.set k v).get? j = if j = k then some v else d.get? j := by
  apply Option.ext
  intro w
  rw [get?_iff]
  by_cases hk : k ∈ d.keys
  · have hentries : (d.set k v).entries = replaced k v d.entries := by rw [set,dif_pos hk]
    rw [hentries,mem_replaced hk]
    split
    next => simp [eq_comm]
    next => exact get?_iff.symm
  · have hentries : (d.set k v).entries = d.entries ++ [(k,v)] := by rw [set,dif_neg hk]
    rw [hentries,List.mem_append,← get?_iff]
    split
    next hj =>
      subst hj
      rw [get?_none.mpr hk]
      simp [eq_comm]
    next hj => simp [hj]

@[simp] theorem get?_set_same (d : Dict κ ν) (k : κ) (v : ν) : (d.set k v).get? k = some v := by simp [get?_set]

theorem get?_erase (d : Dict κ ν) (k j : κ) : (d.erase k).get? j = if j = k then none else d.get? j := by
  apply Option.ext
  intro w
  rw [get?_iff]
  have hentries : (d.erase k).entries = d.entries.filter fun e => e.1 ≠ k := rfl
  rw [hentries,List.mem_filter,← get?_iff]
  by_cases hj : j = k <;> simp [hj]

theorem update_set (d : Dict κ ν) (k : κ) (v : ν) : (d.set k v).get? = Function.update d.get? k (some v) := by
  funext j
  rw [get?_set,Function.update_apply]

theorem update_erase (d : Dict κ ν) (k : κ) : (d.erase k).get? = Function.update d.get? k none := by
  funext j
  rw [get?_erase,Function.update_apply]

theorem lookup_filter {entries : List (κ × ν)} (hunique : (entries.map Prod.fst).Nodup) (k : κ) :
    entries.filter (fun e => e.1 = k) = ((entries.lookup k).map fun v => (k,v)).toList := by
  induction entries with
  | nil => rfl
  | cons e entries ih =>
    obtain ⟨name,value⟩ := e
    obtain ⟨hfresh,hrest⟩ := List.nodup_cons.mp hunique
    by_cases hk : name = k
    · subst hk
      have hnone : entries.filter (fun e => e.1 = name) = [] := by
        rw [List.filter_eq_nil_iff]
        intro e he hname
        exact hfresh (List.mem_map.mpr ⟨e,he,by simpa using hname⟩)
      simp [hnone]
    · have hne : (k == name) = false := by simpa using fun heq => hk heq.symm
      rw [List.filter_cons_of_neg (by simpa using hk),List.lookup_cons,hne]
      exact ih hrest

theorem filter_perm {d : Dict κ ν} {items : List (κ × ν)} (h : items.Perm d.entries) (k : κ) :
    items.filter (fun e => e.1 = k) = ((d.get? k).map fun v => (k,v)).toList := by
  have hfiltered := (h.filter fun e => decide (e.1 = k)).trans (List.Perm.of_eq (lookup_filter d.unique k))
  cases hget : d.entries.lookup k with
  | none =>
    rw [hget] at hfiltered
    rw [Dict.get?,hget]
    exact List.perm_nil.mp hfiltered
  | some v =>
    rw [hget] at hfiltered
    rw [Dict.get?,hget]
    exact List.perm_singleton.mp hfiltered

theorem get?_erased {d : Dict κ ν} {keys : List κ} {k : κ} {v : ν} :
    (keys.foldl Dict.erase d).get? k = some v ↔ k ∉ keys ∧ d.get? k = some v := by
  induction keys generalizing d with
  | nil => simp
  | cons j keys ih =>
    rw [List.foldl_cons,ih,Dict.get?_erase,List.mem_cons,not_or]
    by_cases hj : k = j <;> simp [hj]

def merge (d e : Dict κ ν) : Dict κ ν := e.entries.foldl (fun d f => d.set f.1 f.2) d

theorem get?_foldl_set {entries : List (κ × ν)} (hunique : (entries.map Prod.fst).Nodup) (d : Dict κ ν) (k : κ) :
    (entries.foldl (fun d f => d.set f.1 f.2) d).get? k = (entries.lookup k).or (d.get? k) := by
  induction entries generalizing d with
  | nil => rfl
  | cons f entries ih =>
    obtain ⟨name,value⟩ := f
    obtain ⟨hfresh,hrest⟩ := List.nodup_cons.mp hunique
    rw [List.foldl_cons,ih hrest,get?_set,List.lookup_cons]
    by_cases hk : k = name
    · subst hk
      have hnone : entries.lookup k = none := by
        cases hlookup : entries.lookup k with
        | none => rfl
        | some v => exact absurd (List.mem_map.mpr ⟨_,(lookup_iff hrest).mp hlookup,rfl⟩) hfresh
      rw [hnone,if_pos rfl,beq_self_eq_true]
      rfl
    · rw [if_neg hk,beq_false_of_ne hk]

theorem get?_merge (d e : Dict κ ν) (k : κ) : (d.merge e).get? k = (e.get? k).or (d.get? k) := get?_foldl_set e.unique d k

end Dict
