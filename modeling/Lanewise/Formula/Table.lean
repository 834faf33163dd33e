import Lanewise.Catalog.Basic
import Lanewise.Formula.Basic

/-!
# Tables of formulas

A table assigns formulas to the keys of overloads. It fits a catalog when it has the same keys and
each closed form has one partial for each varying argument; where it does not fit, its drift tells
how.
-/

namespace Lanewise

namespace Formula

/-- Formulas by key. -/
structure Table where
  rows : List (String × Formula)
  keys_nodup : (rows.map Prod.fst).Nodup

namespace Table

/-- The table without formulas. -/
def empty : Table :=
  ⟨[], List.nodup_nil⟩

/-- The keys of a table. -/
def keys (t : Table) : List String :=
  t.rows.map Prod.fst

/-- The formula of a key. -/
def find? (t : Table) (key : String) : Option Formula :=
  (t.rows.find? (·.1 = key)).map Prod.snd

/-- The table without a key. -/
def erase (t : Table) (key : String) : Table where
  rows := t.rows.filter (·.1 ≠ key)
  keys_nodup := t.keys_nodup.sublist (List.filter_sublist.map _)

/-- The table with a formula for a key, in place of the one it had. -/
def insert (t : Table) (key : String) (f : Formula) : Table where
  rows := (key, f) :: (t.erase key).rows
  keys_nodup := by
    refine List.nodup_cons.2 ⟨fun mem => ?_, (t.erase key).keys_nodup⟩
    obtain ⟨row, mem, same⟩ := List.mem_map.1 mem
    have other : row.1 ≠ key := by simpa using (List.mem_filter.1 mem).2
    exact other same

@[simp]
theorem find?_empty (key : String) : empty.find? key = none := rfl

theorem find?_erase (t : Table) (gone key : String) :
    (t.erase gone).find? key = if key = gone then none else t.find? key := by
  simp only [find?, erase]
  induction t.rows with
  | nil => simp
  | cons row rest ih => grind

theorem find?_insert (t : Table) (new key : String) (f : Formula) :
    (t.insert new f).find? key = if key = new then some f else t.find? key := by
  have erased := find?_erase t new key
  simp only [find?, insert] at erased ⊢
  grind

theorem find?_eq_none_iff (t : Table) (key : String) : t.find? key = none ↔ key ∉ t.keys := by
  simp only [find?, keys, Option.map_eq_none_iff, List.find?_eq_none, List.mem_map,
    decide_eq_true_eq]
  grind

/-- The table of some rows, of which the last counts for each key. -/
def ofList (rows : List (String × Formula)) : Table :=
  rows.foldl (fun t row => t.insert row.1 row.2) empty

/-- The formula of an overload, which has to exist. -/
def find (t : Table) (o : Overload) : Except Failure Formula :=
  (t.find? o.key).elim (.error (.missingFormula o.key)) .ok

/-- Texts in the order of their code points. -/
def sorted (texts : List String) : List String :=
  texts.mergeSort fun a b => decide (a ≤ b)

/-- What is wrong with the number of partials of an overload's closed form. -/
def mismatch? (t : Table) (o : Overload) : Option ArityMismatch :=
  match t.find? o.key with
  | some f =>
    if f.kind = .closedForm ∧ f.partials.length ≠ o.arity then
      some { key := o.key, partials := f.partials.length, varying := o.arity }
    else none
  | none => none

/-- How the table differs from a catalog. -/
def drift (t : Table) (c : Catalog) : Drift where
  missing := sorted (c.keys.filter (· ∉ t.keys))
  unexpected := sorted (t.keys.filter (· ∉ c.keys))
  mismatches := (c.overloads.filterMap t.mismatch?).mergeSort fun a b => decide (a.key ≤ b.key)

/-- A table is valid for a catalog from which it does not differ. -/
def validate (t : Table) (c : Catalog) : Except Failure Unit :=
  if t.drift c = ⟨[], [], []⟩ then .ok () else .error (.tableDrift (t.drift c))

end Table

end Formula

end Lanewise
