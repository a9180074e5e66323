import Mathlib.Logic.Function.Basic

-- Rows of bytes under a tag, written at the key of their own content and moved by someone who holds no key.
namespace SealedRows

structure Item (Status : Type) where
  data : String
  tag : String
  status : Status

structure Scheme (Key Coordinate Content : Type) where
  keyOf : Coordinate → Key
  coordinate : Content → Coordinate
  serialize : Content → String
  parse : String → Option Content
  mac : String → String
  Admitted : Content → Prop
  parse_serialize : ∀ c, Admitted c → parse (serialize c) = some c

structure Table (Key Content Status : Type) where
  rows : Key → Option (Item Status)
  written : List Content

inductive Move (Key : Type) where
  | copy (src dst : Key)
  | swap (a b : Key)
  | delete (k : Key)

variable {Key Coordinate Content Status Row : Type} [DecidableEq Key]

namespace Move

def apply (rows : Key → Option Row) : Move Key → Key → Option Row
  | .copy src dst => Function.update rows dst (rows src)
  | .swap a b => Function.update (Function.update rows a (rows b)) b (rows a)
  | .delete k => Function.update rows k none

def lands (rows : Key → Option Row) : Move Key → List (Key × Row)
  | .copy src dst => (rows src).toList.map fun row => (dst,row)
  | .swap a b => ((rows b).toList.map fun row => (a,row)) ++ (rows a).toList.map fun row => (b,row)
  | .delete _ => []

theorem apply_some {rows : Key → Option Row} {m : Move Key} {k : Key} {row : Row} (hrow : m.apply rows k = some row) :
    rows k = some row ∨ (k,row) ∈ m.lands rows ∧ ∃ j, rows j = some row := by
  cases m with
  | copy src dst =>
    by_cases hk : k = dst
    · subst hk
      have hsrc : rows src = some row := by simpa [apply] using hrow
      exact .inr ⟨by simp [lands,hsrc],src,hsrc⟩
    · exact .inl (by simpa [apply,hk] using hrow)
  | swap a b =>
    by_cases hkb : k = b
    · subst hkb
      have ha : rows a = some row := by simpa [apply] using hrow
      exact .inr ⟨by simp [lands,ha],a,ha⟩
    · by_cases hka : k = a
      · subst hka
        have hb : rows b = some row := by simpa [apply,hkb] using hrow
        exact .inr ⟨by simp [lands,hb],b,hb⟩
      · exact .inl (by simpa [apply,hkb,hka] using hrow)
  | delete d =>
    by_cases hk : k = d
    · subst hk
      simp [apply] at hrow
    · exact .inl (by simpa [apply,hk] using hrow)

theorem apply_map {Row' : Type} (f : Row → Row') (rows : Key → Option Row) (m : Move Key) :
    Option.map f ∘ m.apply rows = m.apply (Option.map f ∘ rows) := by
  cases m with
  | copy src dst => exact Function.comp_update _ _ _ _
  | swap a b => simp only [apply,Function.comp_update,Function.comp_apply]
  | delete d => exact Function.comp_update _ _ _ _

end Move

section Runs
variable (scheme : Scheme Key Coordinate Content)

def Scheme.seal (c : Content) (status : Status) : Item Status where
  data := scheme.serialize c
  tag := scheme.mac (scheme.serialize c)
  status := status

-- Where a coordinate's row is read, the item is one whose content has that row key. Anything may stand under other keys.
def Scheme.AtHome (k : Key) (item : Item Status) : Prop :=
  ∀ q c, scheme.keyOf q = k → scheme.parse item.data = some c → scheme.keyOf (scheme.coordinate c) = k

def Move.OwnRows (rows : Key → Option (Item Status)) (m : Move Key) : Prop := ∀ landed ∈ m.lands rows, scheme.AtHome landed.1 landed.2

inductive Step (allowed : (Key → Option (Item Status)) → Move Key → Prop) :
    Table Key Content Status → Table Key Content Status → Prop where
  | write {t : Table Key Content Status} (c : Content) (status : Status) (hadmitted : scheme.Admitted c) :
      Step allowed t ⟨Function.update t.rows (scheme.keyOf (scheme.coordinate c)) (some (scheme.seal c status)),c :: t.written⟩
  | restatus {t : Table Key Content Status} (k : Key) (item : Item Status) (status : Status) (hrow : t.rows k = some item) :
      Step allowed t ⟨Function.update t.rows k (some { item with status }),t.written⟩
  | move {t : Table Key Content Status} (m : Move Key) (hallowed : allowed t.rows m) :
      Step allowed t ⟨m.apply t.rows,t.written⟩

def Table.read (t : Table Key Content Status) (q : Coordinate) : Option Content :=
  match t.rows (scheme.keyOf q) with
  | none => none
  | some item => if item.tag = scheme.mac item.data then scheme.parse item.data else none

structure Bound (t : Table Key Content Status) : Prop where
  admitted : ∀ c ∈ t.written, scheme.Admitted c
  written : ∀ k item, t.rows k = some item →
    ∃ c ∈ t.written, item.data = scheme.serialize c ∧ item.tag = scheme.mac (scheme.serialize c) ∧
      ∀ q, scheme.keyOf q = k → scheme.keyOf (scheme.coordinate c) = k

variable {scheme}

theorem bound_step {t t' : Table Key Content Status} (h : Bound scheme t) (hstep : Step scheme (Move.OwnRows scheme) t t') :
    Bound scheme t' := by
  cases hstep with
  | write c status hadmitted =>
    refine ⟨?_,?_⟩
    · intro d hd
      rcases List.mem_cons.mp hd with rfl | hd
      · exact hadmitted
      · exact h.admitted d hd
    · intro k item hitem
      by_cases hk : k = scheme.keyOf (scheme.coordinate c)
      · subst hk
        obtain rfl : scheme.seal c status = item := by simpa using hitem
        exact ⟨c,by simp,rfl,rfl,fun _ _ => rfl⟩
      · obtain ⟨d,hd,hrest⟩ := h.written k item (by simpa [hk] using hitem)
        exact ⟨d,List.mem_cons_of_mem _ hd,hrest⟩
  | restatus k item status hrow =>
    refine ⟨h.admitted,?_⟩
    intro j stored hstored
    by_cases hj : j = k
    · subst hj
      obtain rfl : { item with status } = stored := by simpa using hstored
      exact h.written j item hrow
    · exact h.written j stored (by simpa [hj] using hstored)
  | move m hallowed =>
    refine ⟨h.admitted,?_⟩
    intro k item hitem
    rcases Move.apply_some hitem with hold | ⟨hlands,j,hj⟩
    · exact h.written k item hold
    · obtain ⟨c,hc,hdata,htag,-⟩ := h.written j item hj
      refine ⟨c,hc,hdata,htag,fun q hq => hallowed _ hlands q c hq ?_⟩
      rw [hdata]
      exact scheme.parse_serialize c (h.admitted c hc)

omit [DecidableEq Key] in
theorem bound_empty : Bound scheme (⟨fun _ => none,[]⟩ : Table Key Content Status) := ⟨by simp,by simp⟩

omit [DecidableEq Key] in
theorem read_bound {t : Table Key Content Status} (h : Bound scheme t) {q : Coordinate} {c : Content}
    (hread : t.read scheme q = some c) : c ∈ t.written ∧ scheme.keyOf (scheme.coordinate c) = scheme.keyOf q := by
  rw [Table.read] at hread
  cases hrow : t.rows (scheme.keyOf q) with
  | none => simp [hrow] at hread
  | some item =>
    obtain ⟨d,hd,hdata,htag,hkey⟩ := h.written _ _ hrow
    simp only [hrow,hdata,htag,if_true,scheme.parse_serialize d (h.admitted d hd),Option.some.injEq] at hread
    subst hread
    exact ⟨hd,hkey q rfl⟩

end Runs

end SealedRows
