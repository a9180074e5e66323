import SafeAgents.Schemas.Call
import SafeAgents.Text.Escape

namespace SafeAgents.Json

open Lexical

def isNumberChar (c : Char) : Bool := c.isDigit || c == '-' || c == '+' || c == '.' || c == 'e' || c == 'E'

-- json.dumps with compact separators and ASCII output; members stand in the order they are given.
mutual

def chars : Json → List Char
  | .null => ['n','u','l','l']
  | .bool true => ['t','r','u','e']
  | .bool false => ['f','a','l','s','e']
  | .num text => text.toList
  | .str s => quoted s
  | .arr items => '[' :: itemsChars items
  | .obj fields => '\x7b' :: membersChars fields

def itemsChars : List Json → List Char
  | [] => [']']
  | item :: rest => chars item ++ moreItemsChars rest

def moreItemsChars : List Json → List Char
  | [] => [']']
  | item :: rest => ',' :: (chars item ++ moreItemsChars rest)

def membersChars : List (String × Json) → List Char
  | [] => ['\x7d']
  | (name,value) :: rest => quoted name ++ ':' :: (chars value ++ moreMembersChars rest)

def moreMembersChars : List (String × Json) → List Char
  | [] => ['\x7d']
  | (name,value) :: rest => ',' :: (quoted name ++ ':' :: (chars value ++ moreMembersChars rest))

end

def dumps (j : Json) : String := String.ofList j.chars

mutual

def WellFormed : Json → Prop
  | .num text => text.toList ≠ [] ∧ ∀ c ∈ text.toList, isNumberChar c = true
  | .arr items => ItemsWellFormed items
  | .obj fields => MembersWellFormed fields
  | _ => True

def ItemsWellFormed : List Json → Prop
  | [] => True
  | item :: rest => WellFormed item ∧ ItemsWellFormed rest

def MembersWellFormed : List (String × Json) → Prop
  | [] => True
  | (_,value) :: rest => WellFormed value ∧ MembersWellFormed rest

end

theorem itemsWellFormed_of_forall {items : List Json} (h : ∀ item ∈ items, WellFormed item) : ItemsWellFormed items := by
  induction items with
  | nil => simp [ItemsWellFormed]
  | cons item items ih =>
    simp only [ItemsWellFormed]
    exact ⟨h item (by simp),ih fun j hj => h j (by simp [hj])⟩

theorem membersWellFormed_of_forall {fields : List (String × Json)} (h : ∀ f ∈ fields, WellFormed f.2) :
    MembersWellFormed fields := by
  induction fields with
  | nil => simp [MembersWellFormed]
  | cons f fields ih =>
    obtain ⟨name,value⟩ := f
    simp only [MembersWellFormed]
    exact ⟨h (name,value) (by simp),ih fun g hg => h g (by simp [hg])⟩

theorem wellFormed_str (s : String) : WellFormed (.str s) := by simp [WellFormed]

theorem wellFormed_strs (texts : List String) : WellFormed (.arr (texts.map Json.str)) := by
  simp only [WellFormed]
  apply itemsWellFormed_of_forall
  intro item hitem
  obtain ⟨s,_,rfl⟩ := List.mem_map.mp hitem
  exact wellFormed_str s

theorem wellFormed_strMembers (fields : List (String × String)) :
    WellFormed (.obj (fields.map fun f => (f.1,Json.str f.2))) := by
  simp only [WellFormed]
  apply membersWellFormed_of_forall
  intro f hf
  obtain ⟨g,_,rfl⟩ := List.mem_map.mp hf
  exact wellFormed_str g.2

def Ends (x : List Char) : Prop := ∀ c, x.head? = some c → isNumberChar c = false

theorem ends_nil : Ends [] := by
  intro c hc
  simp at hc

theorem ends_cons {c : Char} (h : isNumberChar c = false) (x : List Char) : Ends (c :: x) := by
  intro d hd
  have hcd : c = d := by simpa using hd
  rwa [← hcd]

theorem numbers_split {a b x y : List Char} (ha : ∀ c ∈ a, isNumberChar c = true) (hb : ∀ c ∈ b, isNumberChar c = true)
    (hx : Ends x) (hy : Ends y) (h : a ++ x = b ++ y) : a = b ∧ x = y := by
  induction a generalizing b with
  | nil =>
    cases b with
    | nil => exact ⟨rfl,h⟩
    | cons d b =>
      have hd := hb d (by simp)
      have hend := hx d (by simpa using congrArg List.head? h)
      rw [hd] at hend
      cases hend
  | cons c a ih =>
    cases b with
    | nil =>
      have hc := ha c (by simp)
      have hend := hy c (by simpa using (congrArg List.head? h).symm)
      rw [hc] at hend
      cases hend
    | cons d b =>
      simp only [List.cons_append,List.cons.injEq] at h
      obtain ⟨rfl,rfl⟩ := ih (fun e he => ha e (by simp [he])) (fun e he => hb e (by simp [he])) h.2
      exact ⟨by rw [h.1],rfl⟩

theorem ends_moreItems (items : List Json) (x : List Char) : Ends (moreItemsChars items ++ x) := by
  cases items with
  | nil => exact ends_cons (by decide) _
  | cons item rest => exact ends_cons (by decide) _

theorem ends_moreMembers (fields : List (String × Json)) (x : List Char) : Ends (moreMembersChars fields ++ x) := by
  cases fields with
  | nil => exact ends_cons (by decide) _
  | cons field rest => exact ends_cons (by decide) _

inductive Kind where
  | null | yes | no | num | str | arr | obj
  deriving DecidableEq

def kind : Json → Kind
  | .null => .null
  | .bool true => .yes
  | .bool false => .no
  | .num _ => .num
  | .str _ => .str
  | .arr _ => .arr
  | .obj _ => .obj

def kindOfChar (c : Char) : Kind :=
  if c = 'n' then .null else if c = 't' then .yes else if c = 'f' then .no else if c = '"' then .str
  else if c = '[' then .arr else if c = '\x7b' then .obj else .num

theorem kindOfChar_number {c : Char} (h : isNumberChar c = true) : kindOfChar c = .num := by
  have hne : ∀ d : Char, isNumberChar d = false → c ≠ d := by
    rintro d hd rfl
    rw [h] at hd
    cases hd
  simp [kindOfChar,hne 'n' (by decide),hne 't' (by decide),hne 'f' (by decide),hne '"' (by decide),hne '[' (by decide),
    hne '\x7b' (by decide)]

theorem kind_eq_head {j : Json} (hj : j.WellFormed) (x : List Char) : ((j.chars ++ x).head?.map kindOfChar) = some j.kind := by
  cases j with
  | null => rfl
  | bool b => cases b <;> rfl
  | num text =>
    simp only [WellFormed] at hj
    cases hl : text.toList with
    | nil => exact absurd hl hj.1
    | cons c l =>
      have hc := hj.2 c (by simp [hl])
      simp [chars,hl,kind,kindOfChar_number hc]
  | str s => rfl
  | arr items => rfl
  | obj fields => rfl

theorem kind_eq_of_chars {a b : Json} {x y : List Char} (ha : a.WellFormed) (hb : b.WellFormed)
    (h : a.chars ++ x = b.chars ++ y) : a.kind = b.kind := by
  have hka := kind_eq_head ha x
  rw [h,kind_eq_head hb y] at hka
  exact (Option.some.inj hka).symm

theorem chars_ne_bracket {j : Json} (hj : j.WellFormed) (x y : List Char) : j.chars ++ x ≠ ']' :: y := by
  intro h
  have hkind := kind_eq_head hj x
  rw [h] at hkind
  have hnum : j.kind = .num := (Option.some.inj hkind).symm
  cases j with
  | num text =>
    simp only [WellFormed] at hj
    cases hl : text.toList with
    | nil => exact absurd hl hj.1
    | cons c l =>
      have hc : c = ']' := by simpa [chars,hl] using congrArg List.head? h
      have hcn := hj.2 c (by simp [hl])
      rw [hc] at hcn
      exact absurd hcn (by decide)
  | bool b => cases b <;> simp [kind] at hnum
  | _ => simp [kind] at hnum

theorem moreItems_of_items {a b : List Json} {x y : List Char} (ha : ItemsWellFormed a) (hb : ItemsWellFormed b)
    (h : itemsChars a ++ x = itemsChars b ++ y) : moreItemsChars a ++ x = moreItemsChars b ++ y := by
  match a,b with
  | [],[] => simpa [itemsChars,moreItemsChars] using h
  | [],item :: rest =>
    simp only [ItemsWellFormed] at hb
    simp only [itemsChars,List.append_assoc] at h
    exact absurd h.symm (chars_ne_bracket hb.1 _ _)
  | item :: rest,[] =>
    simp only [ItemsWellFormed] at ha
    simp only [itemsChars,List.append_assoc] at h
    exact absurd h (chars_ne_bracket ha.1 _ _)
  | item :: rest,item' :: rest' =>
    simp only [itemsChars] at h
    simp only [moreItemsChars,List.cons_append,h]

theorem moreMembers_of_members {a b : List (String × Json)} {x y : List Char}
    (h : membersChars a ++ x = membersChars b ++ y) : moreMembersChars a ++ x = moreMembersChars b ++ y := by
  match a,b with
  | [],[] => simpa [membersChars,moreMembersChars] using h
  | [],(name,value) :: rest => simp [membersChars,quoted] at h
  | (name,value) :: rest,[] => simp [membersChars,quoted] at h
  | (name,value) :: rest,(name',value') :: rest' =>
    simp only [membersChars] at h
    simp only [moreMembersChars,List.cons_append,h]

mutual

theorem chars_split : ∀ (a b : Json) (x y : List Char), a.WellFormed → b.WellFormed → Ends x → Ends y →
    a.chars ++ x = b.chars ++ y → a = b ∧ x = y := by
  intro a b x y ha hb hx hy h
  have hkind := kind_eq_of_chars ha hb h
  match a,b with
  | .null,.null => simpa [chars] using h
  | .bool true,.bool true => simpa [chars] using h
  | .bool false,.bool false => simpa [chars] using h
  | .num s,.num t =>
    simp only [WellFormed] at ha hb
    obtain ⟨hst,hxy⟩ := numbers_split ha.2 hb.2 hx hy (by simpa only [chars] using h)
    exact ⟨by rw [String.toList_injective hst],hxy⟩
  | .str s,.str t =>
    obtain ⟨hst,hxy⟩ := selfDelimiting_quoted (by simpa only [chars] using h)
    exact ⟨by rw [hst],hxy⟩
  | .arr items,.arr items' =>
    simp only [WellFormed] at ha hb
    have hmore := moreItems_of_items ha hb (by simpa [chars] using h)
    obtain ⟨hitems,hxy⟩ := moreItemsChars_split items items' x y ha hb hmore
    exact ⟨by rw [hitems],hxy⟩
  | .obj fields,.obj fields' =>
    simp only [WellFormed] at ha hb
    have hmore := moreMembers_of_members (by simpa [chars] using h)
    obtain ⟨hfields,hxy⟩ := moreMembersChars_split fields fields' x y ha hb hmore
    exact ⟨by rw [hfields],hxy⟩

theorem moreItemsChars_split : ∀ (a b : List Json) (x y : List Char), ItemsWellFormed a → ItemsWellFormed b →
    moreItemsChars a ++ x = moreItemsChars b ++ y → a = b ∧ x = y := by
  intro a b x y ha hb h
  match a,b with
  | [],[] => simpa [moreItemsChars] using h
  | [],item :: rest => simp [moreItemsChars] at h
  | item :: rest,[] => simp [moreItemsChars] at h
  | item :: rest,item' :: rest' =>
    simp only [ItemsWellFormed] at ha hb
    have hsplit : item.chars ++ (moreItemsChars rest ++ x) = item'.chars ++ (moreItemsChars rest' ++ y) := by
      simpa [moreItemsChars] using h
    obtain ⟨hitem,hmore⟩ := chars_split item item' _ _ ha.1 hb.1 (ends_moreItems _ _) (ends_moreItems _ _) hsplit
    obtain ⟨hrest,hxy⟩ := moreItemsChars_split rest rest' x y ha.2 hb.2 hmore
    exact ⟨by rw [hitem,hrest],hxy⟩

theorem moreMembersChars_split : ∀ (a b : List (String × Json)) (x y : List Char), MembersWellFormed a → MembersWellFormed b →
    moreMembersChars a ++ x = moreMembersChars b ++ y → a = b ∧ x = y := by
  intro a b x y ha hb h
  match a,b with
  | [],[] => simpa [moreMembersChars] using h
  | [],(name,value) :: rest => simp [moreMembersChars] at h
  | (name,value) :: rest,[] => simp [moreMembersChars] at h
  | (name,value) :: rest,(name',value') :: rest' =>
    simp only [MembersWellFormed] at ha hb
    have hsplit : quoted name ++ (':' :: (value.chars ++ (moreMembersChars rest ++ x))) =
        quoted name' ++ (':' :: (value'.chars ++ (moreMembersChars rest' ++ y))) := by
      simpa [moreMembersChars] using h
    obtain ⟨hname,hvalues⟩ := selfDelimiting_quoted hsplit
    have hvalues' : value.chars ++ (moreMembersChars rest ++ x) = value'.chars ++ (moreMembersChars rest' ++ y) := by
      simpa using hvalues
    obtain ⟨hvalue,hmore⟩ := chars_split value value' _ _ ha.1 hb.1 (ends_moreMembers _ _) (ends_moreMembers _ _) hvalues'
    obtain ⟨hrest,hxy⟩ := moreMembersChars_split rest rest' x y ha.2 hb.2 hmore
    exact ⟨by rw [hname,hvalue,hrest],hxy⟩

end

theorem mem_moreItems {items : List Json} {c : Char} (h : c ∈ itemsChars items) : c ∈ moreItemsChars items := by
  cases items with
  | nil => exact h
  | cons item rest =>
    rw [itemsChars] at h
    rw [moreItemsChars]
    exact List.mem_cons_of_mem _ h

theorem mem_moreMembers {fields : List (String × Json)} {c : Char} (h : c ∈ membersChars fields) :
    c ∈ moreMembersChars fields := by
  cases fields with
  | nil => exact h
  | cons f rest =>
    rw [membersChars] at h
    rw [moreMembersChars]
    exact List.mem_cons_of_mem _ h

theorem printable_number {c : Char} (h : isNumberChar c = true) : Printable c := by
  simp only [isNumberChar,Bool.or_eq_true,beq_iff_eq] at h
  rcases h with ((((hdigit | rfl) | rfl) | rfl) | rfl) | rfl
  · have hbounds : 48 ≤ c.toNat ∧ c.toNat ≤ 57 := Char.isDigit_iff_toNat.mp hdigit
    constructor <;> omega
  all_goals decide

theorem printable_word {word : List Char} (h : word.all (fun c => decide (Printable c)) = true) {c : Char} (hc : c ∈ word) :
    Printable c := by
  simpa using List.all_eq_true.mp h c hc

mutual

theorem printable_chars : ∀ j : Json, j.WellFormed → ∀ c ∈ j.chars, Printable c := by
  intro j hj c hc
  match j with
  | .null => exact printable_word (by decide) hc
  | .bool true => exact printable_word (by decide) hc
  | .bool false => exact printable_word (by decide) hc
  | .num text =>
    simp only [WellFormed] at hj
    exact printable_number (hj.2 c hc)
  | .str s => exact printable_quoted s c hc
  | .arr items =>
    rcases List.mem_cons.mp hc with rfl | hc
    · decide
    · exact printable_moreItems items hj c (mem_moreItems hc)
  | .obj fields =>
    rcases List.mem_cons.mp hc with rfl | hc
    · decide
    · exact printable_moreMembers fields hj c (mem_moreMembers hc)

theorem printable_moreItems : ∀ items : List Json, ItemsWellFormed items → ∀ c ∈ moreItemsChars items, Printable c := by
  intro items hitems c hc
  match items with
  | [] =>
    rw [List.mem_singleton.mp hc]
    decide
  | item :: rest =>
    simp only [ItemsWellFormed] at hitems
    simp only [moreItemsChars,List.mem_cons,List.mem_append] at hc
    rcases hc with rfl | hc | hc
    · decide
    · exact printable_chars item hitems.1 c hc
    · exact printable_moreItems rest hitems.2 c hc

theorem printable_moreMembers : ∀ fields : List (String × Json), MembersWellFormed fields →
    ∀ c ∈ moreMembersChars fields, Printable c := by
  intro fields hfields c hc
  match fields with
  | [] =>
    rw [List.mem_singleton.mp hc]
    decide
  | (name,value) :: rest =>
    simp only [MembersWellFormed] at hfields
    simp only [moreMembersChars,List.mem_cons,List.mem_append] at hc
    rcases hc with rfl | hc | rfl | hc | hc
    · decide
    · exact printable_quoted name c hc
    · decide
    · exact printable_chars value hfields.1 c hc
    · exact printable_moreMembers rest hfields.2 c hc

end

theorem dumps_injective {a b : Json} (ha : a.WellFormed) (hb : b.WellFormed) (h : a.dumps = b.dumps) : a = b := by
  have hchars : a.chars ++ [] = b.chars ++ [] := by
    have hlist := congrArg String.toList h
    simpa [dumps] using hlist
  exact (chars_split a b [] [] ha hb ends_nil ends_nil hchars).1

def dropAbsent (fields : List (String × Option Json)) : List (String × Json) :=
  fields.filterMap fun f => f.2.map (f.1,·)

theorem name_mem_of_mem_dropAbsent {fields : List (String × Option Json)} {f : String × Json} (h : f ∈ dropAbsent fields) :
    f.1 ∈ fields.map Prod.fst := by
  obtain ⟨g,hg,hgf⟩ := List.mem_filterMap.mp h
  obtain ⟨value,hvalue,rfl⟩ := Option.map_eq_some_iff.mp hgf
  exact List.mem_map_of_mem hg

theorem wellFormed_dropAbsent {fields : List (String × Option Json)}
    (h : ∀ f ∈ fields, ∀ value, f.2 = some value → WellFormed value) : WellFormed (.obj (dropAbsent fields)) := by
  simp only [WellFormed]
  apply membersWellFormed_of_forall
  intro f hf
  obtain ⟨g,hg,hgf⟩ := List.mem_filterMap.mp hf
  obtain ⟨value,hvalue,rfl⟩ := Option.map_eq_some_iff.mp hgf
  exact h g hg value hvalue

theorem dropAbsent_injective {a b : List (String × Option Json)} (hnames : a.map Prod.fst = b.map Prod.fst)
    (hnodup : (a.map Prod.fst).Nodup) (h : dropAbsent a = dropAbsent b) : a = b := by
  induction a generalizing b with
  | nil =>
    cases b with
    | nil => rfl
    | cons g b => simp at hnames
  | cons f a ih =>
    cases b with
    | nil => simp at hnames
    | cons g b =>
      obtain ⟨name,value⟩ := f
      obtain ⟨name',value'⟩ := g
      simp only [List.map_cons,List.cons.injEq] at hnames
      obtain ⟨rfl,hrest⟩ := hnames
      simp only [List.map_cons,List.nodup_cons] at hnodup
      have hnotb : name ∉ b.map Prod.fst := by
        rw [← hrest]
        exact hnodup.1
      have hmem : ∀ {c : List (String × Option Json)} {v : Json} {l}, name ∉ c.map Prod.fst → dropAbsent c ≠ (name,v) :: l := by
        intro c v l hc hl
        exact hc (name_mem_of_mem_dropAbsent (f := (name,v)) (by rw [hl]; simp))
      cases value with
      | none =>
        cases value' with
        | none => rw [ih hrest hnodup.2 (by simpa [dropAbsent] using h)]
        | some v => exact absurd (by simpa [dropAbsent] using h) (hmem (v := v) (l := dropAbsent b) hnodup.1)
      | some v =>
        cases value' with
        | none => exact absurd (by simpa [dropAbsent] using h.symm) (hmem (v := v) (l := dropAbsent a) hnotb)
        | some v' =>
          have hboth : v = v' ∧ dropAbsent a = dropAbsent b := by simpa [dropAbsent] using h
          rw [hboth.1,ih hrest hnodup.2 hboth.2]

theorem dumps_dropAbsent_injective {a b : List (String × Option Json)} (hnames : a.map Prod.fst = b.map Prod.fst)
    (hnodup : (a.map Prod.fst).Nodup) (ha : ∀ f ∈ a, ∀ value, f.2 = some value → WellFormed value)
    (hb : ∀ f ∈ b, ∀ value, f.2 = some value → WellFormed value)
    (h : (Json.obj (dropAbsent a)).dumps = (Json.obj (dropAbsent b)).dumps) : a = b := by
  have hobj := dumps_injective (wellFormed_dropAbsent ha) (wellFormed_dropAbsent hb) h
  exact dropAbsent_injective hnames hnodup (by simpa using hobj)

def ofInt (n : Int) : Json := .num (toString n)

theorem ofInt_digits (n : Nat) : (toString (n : Int)).toList = Nat.toDigits 10 n := by
  change (Nat.repr n).toList = _
  rw [Nat.repr_eq_ofList_toDigits,String.toList_ofList]

theorem ofInt_negative (n : Nat) : (toString (Int.negSucc n)).toList = '-' :: Nat.toDigits 10 (n + 1) := by
  change ("-" ++ Nat.repr (n + 1)).toList = _
  have hminus : "-".toList = ['-'] := rfl
  rw [String.toList_append,hminus,Nat.repr_eq_ofList_toDigits,String.toList_ofList,List.singleton_append]

theorem digits_number {n : Nat} {c : Char} (h : c ∈ Nat.toDigits 10 n) : isNumberChar c = true := by
  have hdigit := Nat.isDigit_of_mem_toDigits (by decide) (by decide) h
  simp [isNumberChar,hdigit]

theorem wellFormed_ofInt (n : Int) : WellFormed (ofInt n) := by
  simp only [ofInt,WellFormed]
  cases n with
  | ofNat n =>
    rw [Int.ofNat_eq_natCast,ofInt_digits]
    exact ⟨Nat.toDigits_ne_nil,fun c hc => digits_number hc⟩
  | negSucc n =>
    rw [ofInt_negative]
    refine ⟨by simp,?_⟩
    intro c hc
    rcases List.mem_cons.mp hc with rfl | hc
    · decide
    · exact digits_number hc

theorem toDigits_injective {m n : Nat} (h : Nat.toDigits 10 m = Nat.toDigits 10 n) : m = n := by
  have hvalue := congrArg (fun l => Nat.ofDigitChars 10 l 0) h
  simpa using hvalue

theorem minus_not_digit (n : Nat) (l : List Char) : Nat.toDigits 10 n ≠ '-' :: l := by
  intro h
  have hminus : '-' ∈ Nat.toDigits 10 n := by simp [h]
  exact absurd (Nat.isDigit_of_mem_toDigits (by decide) (by decide) hminus) (by decide)

theorem ofInt_injective {m n : Int} (h : ofInt m = ofInt n) : m = n := by
  have hlists : (toString m).toList = (toString n).toList := by
    simp only [ofInt,num.injEq] at h
    rw [h]
  cases m with
  | ofNat m =>
    rw [Int.ofNat_eq_natCast,ofInt_digits] at hlists
    cases n with
    | ofNat n =>
      rw [Int.ofNat_eq_natCast,ofInt_digits] at hlists
      rw [toDigits_injective hlists]
    | negSucc n =>
      rw [ofInt_negative] at hlists
      exact absurd hlists (minus_not_digit m _)
  | negSucc m =>
    rw [ofInt_negative] at hlists
    cases n with
    | ofNat n =>
      rw [Int.ofNat_eq_natCast,ofInt_digits] at hlists
      exact absurd hlists.symm (minus_not_digit n _)
    | negSucc n =>
      rw [ofInt_negative,List.cons.injEq] at hlists
      have hsame := toDigits_injective hlists.2
      rw [Nat.succ.inj hsame]

def ofOption : Option String → Json
  | none => .null
  | some text => .str text

theorem wellFormed_ofOption (o : Option String) : WellFormed (ofOption o) := by
  cases o <;> simp [ofOption,WellFormed]

theorem ofOption_injective {a b : Option String} (h : ofOption a = ofOption b) : a = b := by
  cases a <;> cases b <;> simp_all [ofOption]

end SafeAgents.Json

namespace SafeAgents

def Principal.json (p : Principal) : Json :=
  .obj [("agentId",.str p.agentId),("skill",.str p.skill),("tier",.str p.tier.text),("user",.str p.user)]

theorem Tier.text_injective {a b : Tier} (h : a.text = b.text) : a = b := by
  revert h
  cases a <;> cases b <;> decide

theorem Principal.json_wellFormed (p : Principal) : p.json.WellFormed :=
  Json.wellFormed_strMembers [("agentId",p.agentId),("skill",p.skill),("tier",p.tier.text),("user",p.user)]

theorem Principal.json_injective {p q : Principal} (h : p.json = q.json) : p = q := by
  have hfields : p.agentId = q.agentId ∧ p.skill = q.skill ∧ p.tier.text = q.tier.text ∧ p.user = q.user := by
    simpa [Principal.json] using h
  obtain ⟨hagent,hskill,htier,huser⟩ := hfields
  have hsame := Tier.text_injective htier
  cases p
  cases q
  simp_all

end SafeAgents
