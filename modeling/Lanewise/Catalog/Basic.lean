import Lanewise.Overload.Basic

/-!
# Catalogs

A catalog lists overloads in sections, and no two of them have the same key. So a key finds at most
one, while a name may stand for several, which labels and fixed types narrow down.
-/

namespace Lanewise

/-- Overloads that go into one extension. -/
structure Section where
  title : String
  /-- The protocol that the generic extension asks of the scalar. -/
  conformance : String
  overloads : List Overload

/-- The first of some texts that repeats an earlier one, where `seen` came before them. -/
def firstRepeated (seen : List String) : List String → Option String
  | [] => none
  | text :: rest => if text ∈ seen then some text else firstRepeated (text :: seen) rest

theorem firstRepeated_eq_none_iff {seen texts : List String} :
    firstRepeated seen texts = none ↔ texts.Nodup ∧ ∀ text ∈ texts, text ∉ seen := by
  induction texts generalizing seen with
  | nil => simp [firstRepeated]
  | cons text rest ih =>
    by_cases old : text ∈ seen
    · simp [firstRepeated, old]
    · simp only [firstRepeated, old, if_false, ih, List.nodup_cons, List.mem_cons]
      grind

/-- Sections in which no key occurs twice. -/
structure Catalog where
  sections : List Section
  keys_nodup : ((sections.flatMap Section.overloads).map Overload.key).Nodup

namespace Catalog

/-- The overloads of all sections, in order. -/
def overloads (c : Catalog) : List Overload :=
  c.sections.flatMap Section.overloads

/-- The keys of all overloads, in order. -/
def keys (c : Catalog) : List String :=
  c.overloads.map Overload.key

/-- The catalog of some sections. It is refused at the first key that repeats an earlier one. -/
def ofSections (sections : List Section) : Except Failure Catalog :=
  match unique : firstRepeated [] ((sections.flatMap Section.overloads).map Overload.key) with
  | none => .ok ⟨sections, (firstRepeated_eq_none_iff.1 unique).1⟩
  | some key => .error (.duplicateEntry key)

/-- The overload of a key. -/
def find? (c : Catalog) (key : String) : Option Overload :=
  c.overloads.find? (·.key = key)

theorem find?_eq_some_iff (c : Catalog) (key : String) (o : Overload) :
    c.find? key = some o ↔ o ∈ c.overloads ∧ o.key = key := by
  have unique : ∀ {os : List Overload}, (os.map Overload.key).Nodup →
      (os.find? (·.key = key) = some o ↔ o ∈ os ∧ o.key = key) := by
    intro os nodup
    induction os with
    | nil => simp
    | cons first rest ih => grind
  exact unique c.keys_nodup

/-- The overload of a key, which has to exist. -/
def find (c : Catalog) (key : String) : Except Failure Overload :=
  (c.find? key).elim (.error (.unknownFunction key)) .ok

/-- The overload of a key that is given as a value of any kind. -/
def findDatum (c : Catalog) : Datum → Except Failure Overload
  | .text key => c.find key
  | .list items => .error (.compoundKey (Datum.list items).kindName)
  | .record fields => .error (.compoundKey (Datum.record fields).kindName)
  | other => .error (.unknownFunction other.plain)

/-- A question for an overload by name, narrowed by labels and by fixed types if they are given. -/
structure Query where
  name : Datum
  labels : Option (List Datum)
  fixedTypes : Option (List Datum)

/-- Whether an overload answers a question. -/
def Query.admits (q : Query) (o : Overload) : Bool :=
  Datum.text o.name.text = q.name
    && q.labels.all (· = o.labels.map Datum.text)
    && q.fixedTypes.all (· = o.fixedTypes.map Datum.ofText?)

/-- The one overload that answers a question. -/
def lookup (c : Catalog) (q : Query) : Except Failure Overload :=
  match c.overloads.filter q.admits with
  | [] => .error (.unknownFunction q.name.plain)
  | [o] => .ok o
  | several => .error (.ambiguousFunction q.name.plain (several.map Overload.key))

/-- How a derivative refers to the function it is for. Overloads of one name that differ only in
types are told apart by the signature of the registration, others need the selector. -/
def reference (c : Catalog) (o : Overload) : String :=
  if c.overloads.any fun other => other.name.text = o.name.text && other.selector ≠ o.selector then
    o.selector
  else o.name.text

end Catalog

end Lanewise
