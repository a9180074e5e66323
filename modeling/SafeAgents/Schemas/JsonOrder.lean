import SafeAgents.Schemas.JsonParse
import Mathlib.Data.List.Sort

namespace SafeAgents

namespace Json

-- json.dumps with sort_keys=True: every dict by its names, code point by code point.
mutual

def sortKeys : Json → Json
  | .arr items => .arr (sortItems items)
  | .obj fields => .obj ((sortMembers fields).insertionSort fun f g => f.1 ≤ g.1)
  | j => j

def sortItems : List Json → List Json
  | [] => []
  | item :: rest => sortKeys item :: sortItems rest

def sortMembers : List (String × Json) → List (String × Json)
  | [] => []
  | (name,value) :: rest => (name,sortKeys value) :: sortMembers rest

end

mutual

def same : Json → Json → Bool
  | .null, .null => true
  | .bool a, .bool b => a == b
  | .num a, .num b => a == b
  | .str a, .str b => a == b
  | .arr a, .arr b => sameItems a b
  | .obj a, .obj b => sameMembers a b
  | _, _ => false

def sameItems : List Json → List Json → Bool
  | [], [] => true
  | a :: as, b :: bs => same a b && sameItems as bs
  | _, _ => false

def sameMembers : List (String × Json) → List (String × Json) → Bool
  | [], [] => true
  | (n,a) :: as, (m,b) :: bs => n == m && (same a b && sameMembers as bs)
  | _, _ => false

end

mutual

theorem eq_of_same : ∀ a b : Json, same a b = true → a = b := by
  intro a b h
  match a, b with
  | .null, .null => rfl
  | .bool a, .bool b => rw [eq_of_beq (show (a == b) = true from h)]
  | .num a, .num b => rw [eq_of_beq (show (a == b) = true from h)]
  | .str a, .str b => rw [eq_of_beq (show (a == b) = true from h)]
  | .arr a, .arr b => rw [eq_of_sameItems a b h]
  | .obj a, .obj b => rw [eq_of_sameMembers a b h]

theorem eq_of_sameItems : ∀ a b : List Json, sameItems a b = true → a = b := by
  intro a b h
  match a, b with
  | [], [] => rfl
  | a :: as, b :: bs =>
    obtain ⟨hhead,hrest⟩ := Bool.and_eq_true_iff.mp h
    rw [eq_of_same a b hhead,eq_of_sameItems as bs hrest]

theorem eq_of_sameMembers : ∀ a b : List (String × Json), sameMembers a b = true → a = b := by
  intro a b h
  match a, b with
  | [], [] => rfl
  | (n,a) :: as, (m,b) :: bs =>
    obtain ⟨hname,hmore⟩ := Bool.and_eq_true_iff.mp h
    obtain ⟨hhead,hrest⟩ := Bool.and_eq_true_iff.mp hmore
    rw [eq_of_beq hname,eq_of_same a b hhead,eq_of_sameMembers as bs hrest]

end

mutual

theorem same_self : ∀ a : Json, same a a = true := by
  intro a
  match a with
  | .null => rfl
  | .bool a => exact beq_self_eq_true a
  | .num a => exact beq_self_eq_true a
  | .str a => exact beq_self_eq_true a
  | .arr a => exact sameItems_self a
  | .obj a => exact sameMembers_self a

theorem sameItems_self : ∀ a : List Json, sameItems a a = true := by
  intro a
  match a with
  | [] => rfl
  | a :: as => exact Bool.and_eq_true_iff.mpr ⟨same_self a,sameItems_self as⟩

theorem sameMembers_self : ∀ a : List (String × Json), sameMembers a a = true := by
  intro a
  match a with
  | [] => rfl
  | (n,a) :: as =>
    exact Bool.and_eq_true_iff.mpr ⟨beq_self_eq_true n,Bool.and_eq_true_iff.mpr ⟨same_self a,sameMembers_self as⟩⟩

end

mutual

theorem sortKeys_proper : ∀ j : Json, j.Proper → j.sortKeys = j := by
  intro j h
  match j, h with
  | .null, _ => rfl
  | .bool _, _ => rfl
  | .num _, _ => rfl
  | .str _, _ => rfl
  | .arr items, h => rw [sortKeys,sortItems_proper items h]
  | .obj fields, ⟨hsorted,hfields⟩ =>
    have hle : fields.Pairwise fun f g => f.1 ≤ g.1 := (List.pairwise_map.mp hsorted).imp fun hlt => Std.le_of_lt hlt
    rw [sortKeys,sortMembers_proper fields hfields,hle.insertionSort_eq]

theorem sortItems_proper : ∀ items : List Json, ItemsProper items → sortItems items = items := by
  intro items h
  match items, h with
  | [], _ => rfl
  | item :: rest, ⟨hitem,hrest⟩ => rw [sortItems,sortKeys_proper item hitem,sortItems_proper rest hrest]

theorem sortMembers_proper : ∀ fields : List (String × Json), MembersProper fields → sortMembers fields = fields := by
  intro fields h
  match fields, h with
  | [], _ => rfl
  | (name,value) :: rest, ⟨hvalue,hrest⟩ => rw [sortMembers,sortKeys_proper value hvalue,sortMembers_proper rest hrest]

end

end Json

end SafeAgents
