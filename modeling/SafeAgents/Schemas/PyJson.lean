import SafeAgents.Checked
import SafeAgents.Schemas.JsonParse
import Mathlib.Data.List.Sort
import Mathlib.Data.Int.Log
import Mathlib.Data.Rat.Floor

namespace SafeAgents

-- What a JSON number reads as in Python: an int as written, a float as the nearest double.
inductive PyNumber where
  | finite (q : ℚ)
  | infinite (negative : Bool)
  | nan
  deriving DecidableEq

namespace PyNumber

def eq : PyNumber → PyNumber → Bool
  | .finite p, .finite q => p == q
  | .infinite a, .infinite b => a == b
  | _, _ => false

def le : PyNumber → PyNumber → Bool
  | .finite p, .finite q => p ≤ q
  | .infinite negative, .finite _ => negative
  | .finite _, .infinite negative => !negative
  | .infinite a, .infinite b => a || !b
  | _, .nan => true
  | .nan, _ => false

theorem eq_symm {a b : PyNumber} (h : a.eq b = true) : b.eq a = true := by
  cases a <;> cases b <;> simp_all [eq]

theorem eq_trans {a b c : PyNumber} (h : a.eq b = true) (h' : b.eq c = true) : a.eq c = true := by
  cases a <;> cases b <;> cases c <;> simp_all [eq]

end PyNumber

def digits (l : List Char) : Nat := l.foldl (fun n c => 10 * n + (c.toNat - '0'.toNat)) 0

def isFloatText (l : List Char) : Bool := l.any fun c => c == '.' || c == 'e' || c == 'E'

def exponentOf : List Char → Int
  | _ :: '-' :: more => -digits more
  | _ :: '+' :: more => digits more
  | _ :: more => digits more
  | [] => 0

def magnitudeOf (l : List Char) : ℚ :=
  let whole := l.takeWhile Char.isDigit
  let tail := l.dropWhile Char.isDigit
  let fraction := if tail.head? = some '.' then tail.tail.takeWhile Char.isDigit else []
  let power := if tail.head? = some '.' then tail.tail.dropWhile Char.isDigit else tail
  (digits (whole ++ fraction) : ℚ) * (10 : ℚ) ^ (exponentOf power - fraction.length)

def roundHalfEven (q : ℚ) : Int :=
  let below := ⌊q⌋
  if q - below < 1 / 2 then below
  else if 1 / 2 < q - below then below + 1
  else if below % 2 = 0 then below
  else below + 1

-- binary64: fifty-three bits of precision down to the subnormal spacing.
def toDouble (q : ℚ) : PyNumber :=
  let spacing : ℚ := (2 : ℚ) ^ max (Int.log 2 q - 52) (-1074)
  let rounded := roundHalfEven (q / spacing) * spacing
  if (2 : ℚ) ^ (1024 : Int) ≤ rounded then .infinite false else .finite rounded

def PyNumber.negate : PyNumber → PyNumber
  | .finite q => .finite (-q)
  | .infinite negative => .infinite (!negative)
  | .nan => .nan

def unsigned (l : List Char) : PyNumber := if isFloatText l then toDouble (magnitudeOf l) else .finite (magnitudeOf l)

def pyNumber (text : String) : PyNumber :=
  if text = "NaN" then .nan
  else if text = "Infinity" then .infinite false
  else if text = "-Infinity" then .infinite true
  else if text.toList.head? = some '-' then (unsigned text.toList.tail).negate
  else unsigned text.toList

namespace Json

def number? : Json → Option PyNumber
  | .bool b => some (.finite (if b then 1 else 0))
  | .num text => some (pyNumber text)
  | _ => none

-- Python's == on what json.loads returns.
mutual

def pyEq : Json → Json → Bool
  | .null, .null => true
  | .str a, .str b => a == b
  | .arr a, .arr b => pyEqItems a b
  | .obj a, .obj b => a.length == b.length && pyEqMembers a b
  | a, b =>
    match number? a, number? b with
    | some x, some y => x.eq y
    | _, _ => false

def pyEqItems : List Json → List Json → Bool
  | [], [] => true
  | a :: as, b :: bs => pyEq a b && pyEqItems as bs
  | _, _ => false

def pyEqMembers : List (String × Json) → List (String × Json) → Bool
  | [], _ => true
  | (name,value) :: rest, fields =>
    (match fields.find? fun f => f.1 == name with
      | some (_,other) => pyEq value other
      | none => false) && pyEqMembers rest fields

end

def pyEqOption : Option Json → Option Json → Bool
  | none, none => true
  | some a, some b => pyEq a b
  | _, _ => false

def truthy : Json → Bool
  | .null => false
  | .bool b => b
  | .num text => !(pyNumber text).eq (.finite 0)
  | .str s => s != ""
  | .arr items => !items.isEmpty
  | .obj fields => !fields.isEmpty

inductive PyError where
  | typeError
  | indexError
  | keyError
  | assertionError
  deriving DecidableEq

def hashable : Json → Bool
  | .arr _ => false
  | .obj _ => false
  | _ => true

def pyIter : Json → Except PyError (List Json)
  | .str s => .ok (s.toList.map fun c => .str (String.singleton c))
  | .arr items => .ok items
  | .obj fields => .ok (fields.map fun f => .str f.1)
  | _ => .error .typeError

def isMember (l : List Json) (j : Json) : Bool := l.any fun k => pyEq k j

def addNew (l : List Json) (j : Json) : List Json := if isMember l j then l else l ++ [j]

def pySet (j : Json) : Except PyError (List Json) := do
  let items ← pyIter j
  if items.all hashable then .ok (items.foldl addNew []) else .error .typeError

def setMinus (a b : List Json) : List Json := a.filter fun j => !isMember b j

-- The smaller operand is the one walked.
def setMeet (a b : List Json) : List Json :=
  if a.length < b.length then a.filter (isMember b) else b.filter (isMember a)

def textLe (a b : Json) : Bool :=
  match a, b with
  | .str a, .str b => a ≤ b
  | _, _ => true

def numberLe (a b : Json) : Bool :=
  match number? a, number? b with
  | some a, some b => a.le b
  | _, _ => true

def pySorted (l : List Json) : Except PyError (List Json) :=
  if l.length ≤ 1 then .ok l
  else if l.all fun j => j.str?.isSome then .ok (l.insertionSort fun a b => textLe a b)
  else if l.all fun j => j.number?.isSome then .ok (l.insertionSort fun a b => numberLe a b)
  else .error .typeError

def pyIndex (items : List Json) (i : Int) : Except PyError Json :=
  let position := if i < 0 then i + items.length else i
  if position < 0 then .error .indexError else (items[position.toNat]?).elim (.error .indexError) .ok

def intText (text : String) : Option Int :=
  if isFloatText text.toList then none
  else
    match pyNumber text with
    | .finite q => some q.num
    | _ => none

def pyGetItem : Json → Json → Except PyError Json
  | .obj fields, .str name => ((Json.obj fields).get? name).elim (.error .keyError) .ok
  | .obj _, _ => .error .keyError
  | .arr items, .bool b => pyIndex items (if b then 1 else 0)
  | .arr items, .num text => (intText text).elim (.error .typeError) (pyIndex items)
  | _, _ => .error .typeError

theorem pyEq_scalar {a b : Json} (ha : hashable a = true) (hb : hashable b = true) :
    pyEq a b = true ↔ (a = .null ∧ b = .null) ∨ (∃ s, a = .str s ∧ b = .str s) ∨
      ∃ x y, number? a = some x ∧ number? b = some y ∧ x.eq y = true := by
  cases a <;> cases b
  all_goals first
    | exact (Bool.false_ne_true ha).elim
    | exact (Bool.false_ne_true hb).elim
    | simp [pyEq,number?]
  exact ⟨fun h => h ▸ rfl,fun h => h ▸ rfl⟩

theorem pyEq_symm {a b : Json} (ha : hashable a = true) (hb : hashable b = true) (h : pyEq a b = true) : pyEq b a = true := by
  rw [pyEq_scalar hb ha]
  rcases (pyEq_scalar ha hb).mp h with ⟨hnull,hnull'⟩ | ⟨s,hs,hs'⟩ | ⟨x,y,hx,hy,hxy⟩
  · exact .inl ⟨hnull',hnull⟩
  · exact .inr (.inl ⟨s,hs',hs⟩)
  · exact .inr (.inr ⟨y,x,hy,hx,PyNumber.eq_symm hxy⟩)

theorem pyEq_trans {a b c : Json} (ha : hashable a = true) (hb : hashable b = true) (hc : hashable c = true)
    (h : pyEq a b = true) (h' : pyEq b c = true) : pyEq a c = true := by
  rw [pyEq_scalar ha hc]
  rcases (pyEq_scalar ha hb).mp h with ⟨hnull,rfl⟩ | ⟨s,hs,rfl⟩ | ⟨x,y,hx,hy,hxy⟩
  · rcases (pyEq_scalar hb hc).mp h' with ⟨_,hnull'⟩ | ⟨t,ht,_⟩ | ⟨y',_,hy',_⟩
    · exact .inl ⟨hnull,hnull'⟩
    · cases ht
    · cases hy'
  · rcases (pyEq_scalar hb hc).mp h' with ⟨ht,_⟩ | ⟨t,ht,ht'⟩ | ⟨y',_,hy',_⟩
    · cases ht
    · exact .inr (.inl ⟨t,hs.trans ht,ht'⟩)
    · cases hy'
  · rcases (pyEq_scalar hb hc).mp h' with ⟨rfl,_⟩ | ⟨t,rfl,_⟩ | ⟨y',z,hy',hz,hyz⟩
    · cases hy
    · cases hy
    · cases hy.symm.trans hy'
      exact .inr (.inr ⟨x,z,hx,hz,PyNumber.eq_trans hxy hyz⟩)

theorem isMember_iff {l : List Json} {j : Json} : isMember l j = true ↔ ∃ k ∈ l, pyEq k j = true := by
  simp [isMember]

theorem isMember_perm {l l' : List Json} (h : l.Perm l') (j : Json) : isMember l j = isMember l' j := by
  rw [Bool.eq_iff_iff,isMember_iff,isMember_iff]
  simp only [h.mem_iff]

theorem isMember_append (l l' : List Json) (j : Json) : isMember (l ++ l') j = (isMember l j || isMember l' j) := by
  simp [isMember]

theorem pySorted_perm {l l' : List Json} (h : pySorted l = .ok l') : l'.Perm l := by
  unfold pySorted at h
  split at h
  · cases h
    rfl
  · split at h
    · cases h
      exact List.perm_insertionSort _ _
    · split at h
      · cases h
        exact List.perm_insertionSort _ _
      · cases h

theorem mem_foldl_addNew {items acc : List Json} {j : Json} (h : j ∈ items.foldl addNew acc) : j ∈ acc ∨ j ∈ items := by
  induction items generalizing acc with
  | nil => exact .inl h
  | cons item items ih =>
    rcases ih h with hacc | hrest
    · unfold addNew at hacc
      split at hacc
      · exact .inl hacc
      · rcases List.mem_append.mp hacc with hold | hnew
        · exact .inl hold
        · exact .inr (List.mem_cons.mpr (.inl (List.mem_singleton.mp hnew)))
    · exact .inr (List.mem_cons_of_mem _ hrest)

theorem pySet_hashable {j : Json} {l : List Json} (h : pySet j = .ok l) : ∀ k ∈ l, hashable k = true := by
  unfold pySet at h
  obtain ⟨items,_,hset⟩ := Checked.bind_ok.mp h
  split at hset
  · next hall =>
    cases hset
    intro k hk
    rcases mem_foldl_addNew hk with hnil | hitem
    · cases hnil
    · exact List.all_eq_true.mp hall k hitem
  · cases hset

section Repr
-- str.isprintable, by the interpreter's Unicode table.
variable (printable : Char → Bool)

def hexDigits (width n : Nat) : String :=
  let text := Nat.toDigits 16 n
  String.ofList (List.replicate (width - text.length) '0' ++ text)

def reprChar (quote c : Char) : String :=
  if c == quote || c == '\\' then String.ofList ['\\',c]
  else if c == '\n' then "\\n"
  else if c == '\r' then "\\r"
  else if c == '\t' then "\\t"
  else if c.toNat < 32 || c.toNat = 127 then "\\x" ++ hexDigits 2 c.toNat
  else if c.toNat < 127 || printable c then String.singleton c
  else if c.toNat ≤ 255 then "\\x" ++ hexDigits 2 c.toNat
  else if c.toNat ≤ 65535 then "\\u" ++ hexDigits 4 c.toNat
  else "\\U" ++ hexDigits 8 c.toNat

def reprStr (s : String) : String :=
  let quote := if s.contains '\'' && !s.contains '"' then '"' else '\''
  String.singleton quote ++ String.join (s.toList.map (reprChar printable quote)) ++ String.singleton quote

mutual

def pyReprJson : Json → String
  | .null => "None"
  | .bool b => if b then "True" else "False"
  | .num text => if text = "NaN" then "nan" else if text = "Infinity" then "inf" else if text = "-Infinity" then "-inf" else text
  | .str s => reprStr printable s
  | .arr items => "[" ++ ", ".intercalate (reprItems items) ++ "]"
  | .obj fields => "\x7b" ++ ", ".intercalate (reprMembers fields) ++ "\x7d"

def reprItems : List Json → List String
  | [] => []
  | item :: rest => pyReprJson item :: reprItems rest

def reprMembers : List (String × Json) → List String
  | [] => []
  | (name,value) :: rest => (reprStr printable name ++ ": " ++ pyReprJson value) :: reprMembers rest

end

def pyText : Json → String
  | .str s => s
  | j => pyReprJson printable j

end Repr

end Json

end SafeAgents
