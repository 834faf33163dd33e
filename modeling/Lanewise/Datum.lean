import Lanewise.Decimal
import Lanewise.Text.Listed
import Lanewise.Text.Quoted

/-!
# Unchecked values

The rows of a catalog come from outside, and a field may hold a value of any kind. A datum is such a
value before it is checked. Diagnostics show a datum in full, so every kind has a written form.
-/

namespace Lanewise

/-- A value that has not been checked yet. -/
inductive Datum where
  | null
  | bool (value : Bool)
  | int (value : Int)
  | decimal (value : Decimal)
  | text (value : String)
  | list (items : List Datum)
  /-- Values by name, in the order in which they were given. -/
  | record (fields : List (String × Datum))
deriving Inhabited, Repr

namespace Datum

mutual

/-- Equality of values is decidable. -/
def decEq : (a b : Datum) → Decidable (a = b)
  | .null, .null => isTrue rfl
  | .bool a, .bool b => decidable_of_iff (a = b) (by simp)
  | .int a, .int b => decidable_of_iff (a = b) (by simp)
  | .decimal a, .decimal b => decidable_of_iff (a = b) (by simp)
  | .text a, .text b => decidable_of_iff (a = b) (by simp)
  | .list a, .list b => @decidable_of_iff _ (a = b) (by simp) (decEqItems a b)
  | .record a, .record b => @decidable_of_iff _ (a = b) (by simp) (decEqFields a b)
  | .null, .bool _ | .null, .int _ | .null, .decimal _ | .null, .text _ | .null, .list _
  | .null, .record _ | .bool _, .null | .bool _, .int _ | .bool _, .decimal _ | .bool _, .text _
  | .bool _, .list _ | .bool _, .record _ | .int _, .null | .int _, .bool _ | .int _, .decimal _
  | .int _, .text _ | .int _, .list _ | .int _, .record _ | .decimal _, .null | .decimal _, .bool _
  | .decimal _, .int _ | .decimal _, .text _ | .decimal _, .list _ | .decimal _, .record _
  | .text _, .null | .text _, .bool _ | .text _, .int _ | .text _, .decimal _ | .text _, .list _
  | .text _, .record _ | .list _, .null | .list _, .bool _ | .list _, .int _ | .list _, .decimal _
  | .list _, .text _ | .list _, .record _ | .record _, .null | .record _, .bool _
  | .record _, .int _ | .record _, .decimal _ | .record _, .text _ | .record _, .list _ =>
    isFalse nofun

/-- Equality of lists of values is decidable. -/
def decEqItems : (a b : List Datum) → Decidable (a = b)
  | [], [] => isTrue rfl
  | [], _ :: _ | _ :: _, [] => isFalse nofun
  | a :: as, b :: bs =>
    @decidable_of_iff _ (a = b ∧ as = bs) (by simp)
      (@instDecidableAnd _ _ (decEq a b) (decEqItems as bs))

/-- Equality of the fields of records is decidable. -/
def decEqFields : (a b : List (String × Datum)) → Decidable (a = b)
  | [], [] => isTrue rfl
  | [], _ :: _ | _ :: _, [] => isFalse nofun
  | (name, a) :: as, (other, b) :: bs =>
    @decidable_of_iff _ (name = other ∧ a = b ∧ as = bs) (by simp [and_assoc])
      (@instDecidableAnd _ _ _ (@instDecidableAnd _ _ (decEq a b) (decEqFields as bs)))

end

instance : DecidableEq Datum := decEq

mutual

/-- The written form of a value, with texts in quotation marks. -/
def quoted : Datum → String
  | .null => "None"
  | .bool true => "True"
  | .bool false => "False"
  | .int value => toString value
  | .decimal value => toString value
  | .text value => Text.quoted value
  | .list items => Text.bracketed (quotedItems items)
  | .record fields => "\x7b" ++ Text.commaSeparated (quotedFields fields) ++ "\x7d"

/-- The written forms of several values. -/
def quotedItems : List Datum → List String
  | [] => []
  | item :: items => item.quoted :: quotedItems items

/-- The written forms of fields, each with its name. -/
def quotedFields : List (String × Datum) → List String
  | [] => []
  | (name, value) :: fields => (Text.quoted name ++ ": " ++ value.quoted) :: quotedFields fields

end

/-- The word that diagnostics have for the kind of a value. -/
def kindName : Datum → String
  | .null => "NoneType"
  | .bool _ => "bool"
  | .int _ => "int"
  | .decimal _ => "float"
  | .text _ => "str"
  | .list _ => "list"
  | .record _ => "dict"

/-- The written form of a value, where a text stands for itself. -/
def plain : Datum → String
  | .text value => value
  | other => other.quoted

/-- A text that may be missing. -/
def ofText? : Option String → Datum
  | none => .null
  | some value => .text value

end Datum

end Lanewise
