import SafeAgents.Schemas.JsonParse

namespace SafeAgents.Json

section Read
variable {α : Type}

-- A schema class that forbids extra fields, read from a dict.
def fieldsOf (names : List String) : Json → Option (List (String × Json))
  | .obj fields => if fields.all fun f => names.contains f.1 then some fields else none
  | _ => none

def field (fields : List (String × Json)) (name : String) : Option Json := (fields.find? fun f => f.1 == name).map Prod.snd

def required (fields : List (String × Json)) (name : String) (read : Json → Option α) : Option α := (field fields name).bind read

def defaulted (fields : List (String × Json)) (name : String) (default : α) (read : Json → Option α) : Option α :=
  match field fields name with
  | none => some default
  | some j => read j

def nullable (read : Json → Option α) : Json → Option (Option α)
  | .null => some none
  | j => (read j).map some

def listOf (read : Json → Option α) : Json → Option (List α)
  | .arr items => items.mapM read
  | _ => none

def oneOf (text : α → String) (members : List α) (j : Json) : Option α :=
  j.str?.bind fun s => members.find? fun a => text a == s

theorem field_dropAbsent {members : List (String × Option Json)} (hnodup : (members.map Prod.fst).Nodup) {name : String}
    {value : Option Json} (h : (name,value) ∈ members) : field (dropAbsent members) name = value := by
  induction members with
  | nil => simp at h
  | cons f members ih =>
    obtain ⟨first,v⟩ := f
    simp only [List.map_cons,List.nodup_cons] at hnodup
    rcases List.mem_cons.mp h with heq | hmem
    · obtain ⟨rfl,rfl⟩ := Prod.mk.inj heq
      cases value with
      | some j => simp [field,dropAbsent]
      | none =>
        have hnone : (dropAbsent members).find? (fun f => f.1 == name) = none := by
          rw [List.find?_eq_none]
          intro g hg heq
          have hname : g.1 = name := by simpa using heq
          exact hnodup.1 (hname ▸ name_mem_of_mem_dropAbsent hg)
        simpa [field,dropAbsent] using hnone
    · have hne : first ≠ name := by
        rintro rfl
        exact hnodup.1 (List.mem_map.mpr ⟨_,hmem,rfl⟩)
      have hrest := ih hnodup.2 hmem
      cases v with
      | none => simpa [field,dropAbsent] using hrest
      | some j => simpa [field,dropAbsent,hne] using hrest

theorem required_dropAbsent {members : List (String × Option Json)} (hnodup : (members.map Prod.fst).Nodup) {name : String}
    {j : Json} (h : (name,some j) ∈ members) {read : Json → Option α} {a : α} (hread : read j = some a) :
    required (dropAbsent members) name read = some a := by
  rw [required,field_dropAbsent hnodup h,Option.bind_some,hread]

theorem defaulted_dropAbsent {members : List (String × Option Json)} (hnodup : (members.map Prod.fst).Nodup) {name : String}
    {j : Json} (h : (name,some j) ∈ members) {read : Json → Option α} {a default : α} (hread : read j = some a) :
    defaulted (dropAbsent members) name default read = some a := by
  rw [defaulted,field_dropAbsent hnodup h]
  exact hread

theorem bind_of_some {β : Type} {x : Option α} {a : α} (h : x = some a) (f : α → Option β) : (x >>= f) = f a := by
  rw [h]
  rfl

theorem fieldsOf_dropAbsent {names : List String} {members : List (String × Option Json)}
    (h : ∀ name ∈ members.map Prod.fst, name ∈ names) : fieldsOf names (.obj (dropAbsent members)) = some (dropAbsent members) := by
  have hall : ((dropAbsent members).all fun f => names.contains f.1) = true := by
    rw [List.all_eq_true]
    intro f hf
    simpa using h f.1 (name_mem_of_mem_dropAbsent hf)
  rw [fieldsOf,if_pos hall]

theorem oneOf_text {text : α → String} (h : ∀ {a b}, text a = text b → a = b) {members : List α} {a : α} (ha : a ∈ members) :
    oneOf text members (.str (text a)) = some a := by
  induction members with
  | nil => simp at ha
  | cons b members ih =>
    by_cases hb : text b = text a
    · simp [oneOf,str?,h hb]
    · rcases List.mem_cons.mp ha with rfl | hmem
      · exact absurd rfl hb
      · simpa [oneOf,str?,hb] using ih hmem

theorem listOf_map {read : Json → Option α} {write : α → Json} {items : List α} (h : ∀ a ∈ items, read (write a) = some a) :
    listOf read (.arr (items.map write)) = some items := by
  rw [listOf]
  induction items with
  | nil => rfl
  | cons a items ih =>
    simp [h a (by simp),ih fun b hb => h b (by simp [hb])]

end Read

theorem proper_obj {fields : List (String × Json)} (names : List String) (hnames : fields.map Prod.fst = names)
    (hsorted : names.Pairwise (· < ·)) (h : MembersProper fields) : Proper (.obj fields) := by
  rw [Proper,hnames]
  exact ⟨hsorted,h⟩

def OptionProper (o : Option Json) : Prop := ∀ j, o = some j → j.Proper

theorem optionProper_some {j : Json} (h : j.Proper) : OptionProper (some j) := by
  rintro _ ⟨⟩
  exact h

theorem optionProper_text (o : Option String) : OptionProper (o.map .str) := by
  cases o with
  | none => simp [OptionProper]
  | some s => exact optionProper_some trivial

theorem proper_dropAbsent {members : List (String × Option Json)} (hnames : (members.map Prod.fst).Pairwise (· < ·))
    (h : ∀ f ∈ members, OptionProper f.2) : Proper (.obj (dropAbsent members)) := by
  have hsub : List.Sublist ((dropAbsent members).map Prod.fst) (members.map Prod.fst) := by
    clear hnames h
    induction members with
    | nil => exact .slnil
    | cons f members ih =>
      obtain ⟨name,value⟩ := f
      cases value with
      | none => exact ih.cons _
      | some j => exact ih.cons_cons _
  rw [Proper]
  refine ⟨hnames.sublist hsub,?_⟩
  clear hnames hsub
  induction members with
  | nil => simp [dropAbsent,MembersProper]
  | cons f members ih =>
    obtain ⟨name,value⟩ := f
    have hrest := ih fun g hg => h g (by simp [hg])
    cases value with
    | none => exact hrest
    | some j => exact ⟨h (name,some j) (by simp) j rfl,hrest⟩

theorem proper_str (s : String) : Proper (.str s) := by simp [Proper]

theorem proper_strs (texts : List String) : Proper (.arr (texts.map Json.str)) := by
  rw [Proper]
  induction texts with
  | nil => simp [ItemsProper]
  | cons s texts ih => exact ⟨trivial,ih⟩

end SafeAgents.Json

namespace SafeAgents

open Json

def Tier.all : List Tier := [.A,.B,.C,.D]

def Principal.ofJson (j : Json) : Option Principal := do
  let fields ← fieldsOf ["agentId","skill","user","tier"] j
  let agentId ← required fields "agentId" str?
  let skill ← required fields "skill" str?
  let user ← required fields "user" str?
  let tier ← required fields "tier" (oneOf Tier.text Tier.all)
  return ⟨agentId,skill,user,tier⟩

theorem Principal.ofJson_json (p : Principal) : Principal.ofJson p.json = some p := by
  have htier : oneOf Tier.text Tier.all (.str p.tier.text) = some p.tier :=
    oneOf_text Tier.text_injective (by cases p.tier <;> simp [Tier.all])
  simp [Principal.ofJson,Principal.json,fieldsOf,required,field,str?,htier]

theorem Principal.json_proper (p : Principal) : p.json.Proper := by
  apply proper_obj ["agentId","skill","tier","user"] rfl (by decide)
  exact ⟨trivial,trivial,trivial,trivial,trivial⟩

end SafeAgents
