import Mathlib.Algebra.BigOperators.Group.List.Basic
import Mathlib.Algebra.Order.Ring.Nat
import SafeAgents.Dict

namespace ItemTable

variable {Key Attrs : Type} [DecidableEq Key]

section Writes
variable (table : Dict Key Attrs) (key : Key)

-- No answer is a failed condition; the table is then as it was.
def putItem (condition : Option Attrs → Bool) (attrs : Attrs) : Option (Dict Key Attrs) :=
  if condition (table.get? key) then some (table.set key attrs) else none

-- An update of an absent item starts from an item without attributes.
def updateItem (blank : Attrs) (condition : Option Attrs → Bool) (update : Attrs → Attrs) : Option (Dict Key Attrs) :=
  if condition (table.get? key) then some (table.set key (update ((table.get? key).getD blank))) else none

def deleteItem : Dict Key Attrs := table.erase key

end Writes

-- Rows come back in an order of the table's own.
structure RowOrder (Key Attrs : Type) where
  order : List (Key × Attrs) → List (Key × Attrs)
  perm : ∀ rows, (order rows).Perm rows

structure Scan (Key Attrs : Type) extends RowOrder Key Attrs where
  size : Key × Attrs → Nat
  limit : Nat

namespace Scan

variable (scan : Scan Key Attrs)

-- Rows are evaluated until the next one would pass the page's limit.
def pageFrom (scan : Scan Key Attrs) : Nat → List (Key × Attrs) → List (Key × Attrs)
  | _,[] => []
  | used,row :: rows => if used + scan.size row ≤ scan.limit then row :: pageFrom scan (used + scan.size row) rows else []

def page (table : Dict Key Attrs) : List (Key × Attrs) := scan.pageFrom 0 (scan.order table.entries)

def Fits (table : Dict Key Attrs) : Prop := (table.entries.map scan.size).sum ≤ scan.limit

omit [DecidableEq Key] in
theorem pageFrom_fits {used : Nat} {rows : List (Key × Attrs)} (h : used + (rows.map scan.size).sum ≤ scan.limit) :
    scan.pageFrom used rows = rows := by
  induction rows generalizing used with
  | nil => rfl
  | cons row rows ih =>
    rw [List.map_cons,List.sum_cons] at h
    rw [pageFrom,if_pos (by omega),ih (by omega)]

omit [DecidableEq Key] in
theorem pageFrom_prefix (used : Nat) (rows : List (Key × Attrs)) : scan.pageFrom used rows <+: rows := by
  induction rows generalizing used with
  | nil => exact List.prefix_rfl
  | cons row rows ih =>
    rw [pageFrom]
    split
    · exact (List.prefix_cons_inj row).mpr (ih _)
    · exact List.nil_prefix

omit [DecidableEq Key] in
theorem mem_page {table : Dict Key Attrs} {row : Key × Attrs} (h : row ∈ scan.page table) : row ∈ table.entries :=
  (scan.perm table.entries).mem_iff.mp ((scan.pageFrom_prefix 0 _).subset h)

omit [DecidableEq Key] in
theorem page_unique (table : Dict Key Attrs) : ((scan.page table).map Prod.fst).Nodup :=
  ((scan.pageFrom_prefix 0 _).sublist.map Prod.fst).nodup (((scan.perm table.entries).map Prod.fst).nodup_iff.mpr table.unique)

omit [DecidableEq Key] in
theorem page_fits {table : Dict Key Attrs} (h : scan.Fits table) : (scan.page table).Perm table.entries := by
  have hsum : (((scan.order table.entries).map scan.size)).sum = (table.entries.map scan.size).sum :=
    ((scan.perm table.entries).map scan.size).sum_eq
  rw [page,pageFrom_fits scan (by rw [Nat.zero_add,hsum]; exact h)]
  exact scan.perm table.entries

end Scan

end ItemTable
