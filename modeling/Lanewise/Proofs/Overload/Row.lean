import Lanewise.Proofs.Checks
import Lanewise.Proofs.Overload.LineBreak
import Mathlib.Data.Set.List

/-!
# Rows of a catalog

A row gives a function as unchecked values: its name, the name of its accelerated form, and a name,
a label and a type for each argument. The check of a row succeeds when every value that has to be a
name is one, no two arguments have one name, and there is a first argument, which has no type. The
function that it gives shows the whole row.

The check also takes names with a line feed behind them. A row without such names is accepted
exactly when it is well formed. What is rendered of an accepted row has a line break exactly when
one of the names in it ends in a line feed.
-/

namespace Lanewise

namespace Datum

/-- The value is a text of a certain kind. -/
def Holds (p : String → Prop) (value : Datum) : Prop :=
  ∃ text, value = .text text ∧ p text

/-- The value is a text of a certain kind, if it is given. -/
def MayHold (p : String → Prop) (value : Datum) : Prop :=
  value = .null ∨ value.Holds p

/-- The value is a text that ends in a line feed. -/
def EndsInFeed (value : Datum) : Prop :=
  value.Holds (Text.endsInFeed ·)

end Datum

/-- The values that are given for an argument. -/
structure Argument.Row where
  name : Datum
  label : Datum
  fixedType : Datum
deriving DecidableEq, Repr

/-- The values that are given for a function. -/
structure Overload.Row where
  name : Datum
  acceleratedName : Datum
  arguments : List Argument.Row
deriving DecidableEq, Repr

namespace Argument

namespace Row

/-- The argument of a row. -/
def check (r : Row) : Except Failure Argument :=
  ofRow r.name r.label r.fixedType

def fields (r : Row) : List Datum :=
  [r.name, r.label, r.fixedType]

/-- The row names an argument, where `p` says which texts are names. -/
@[mk_iff]
structure IsWellFormed (p : String → Prop) (r : Row) : Prop where
  name : r.name.Holds p
  label : r.label.MayHold p
  fixedType : r.fixedType.MayHold p

end Row

/-- The row that shows an argument. -/
def row (a : Argument) : Row where
  name := .text a.name.text
  label := .ofText? (a.label.map (·.text))
  fixedType := .ofText? a.fixedTypeName

end Argument

namespace Overload

namespace Row

/-- The function of a row. The arguments are checked first. -/
def check (r : Row) : Except Failure Overload := do
  ofRow r.name r.acceleratedName (← r.arguments.mapM Argument.Row.check)

def fields (r : Row) : List Datum :=
  r.name :: r.acceleratedName :: r.arguments.flatMap (·.fields)

/-- The row describes a function, where `p` says which texts are names. -/
@[mk_iff]
structure IsWellFormed (p : String → Prop) (r : Row) : Prop where
  name : r.name.Holds p
  acceleratedName : r.acceleratedName.MayHold p
  arguments : ∀ a ∈ r.arguments, a.IsWellFormed p
  arguments_ne_nil : r.arguments ≠ []
  names_nodup : (r.arguments.map (·.name)).Nodup
  head_varying : ∀ first ∈ r.arguments.head?, first.fixedType = .null

end Row

/-- The row that shows a function. -/
def row (o : Overload) : Row where
  name := .text o.name.text
  acceleratedName := .ofText? (o.acceleratedName.map (·.text))
  arguments := o.arguments.map (·.row)

end Overload

/-! ## What the check gives -/

namespace Identifier

theorem ofDatum_eq_ok_iff {role : NameRole} {value : Datum} {i : Identifier} :
    ofDatum role value = .ok i ↔ .text i.text = value := by
  cases value with
  | text text =>
    rw [ofDatum, Datum.text.injEq]
    split
    · rw [Except.ok.injEq]
      constructor
      · rintro rfl
        rfl
      · exact fun h => text_injective h.symm
    · rename_i hrefused
      constructor
      · intro h
        cases h
      · rintro rfl
        exact absurd i.valid hrefused
  | _ => simp [ofDatum]

theorem ofDatum?_eq_ok_iff {role : NameRole} {value : Datum} {i : Option Identifier} :
    ofDatum? role value = .ok i ↔ .ofText? (i.map (·.text)) = value := by
  by_cases hnull : value = .null
  · subst hnull
    cases i <;> simp [ofDatum?, Datum.ofText?]
  · have hmap : ofDatum? role value = some <$> ofDatum role value := by
      cases value <;> first | rfl | exact absurd rfl hnull
    rw [hmap, ← bind_pure_comp, bind_eq_ok_iff]
    simp only [ofDatum_eq_ok_iff, pure, Except.pure, Except.ok.injEq]
    constructor
    · rintro ⟨name, hname, rfl⟩
      exact hname
    · cases i with
      | none => exact fun h => absurd h.symm hnull
      | some name => exact fun h => ⟨name, h, rfl⟩

end Identifier

namespace Argument

theorem row_fixedType_eq_null_iff (a : Argument) :
    a.row.fixedType = .null ↔ a.fixedType = none := by
  unfold row fixedTypeName
  cases a.fixedType <;> simp [Datum.ofText?]

theorem Row.check_eq_ok_iff {r : Row} {a : Argument} : r.check = .ok a ↔ a.row = r := by
  obtain ⟨name, label, fixedType⟩ := r
  rw [Row.check, ofRow]
  simp only [bind_eq_ok_iff, Identifier.ofDatum_eq_ok_iff, Identifier.ofDatum?_eq_ok_iff, pure,
    Except.pure, Except.ok.injEq]
  constructor
  · rintro ⟨_, rfl, _, rfl, _, rfl, rfl⟩
    rfl
  · intro h
    obtain ⟨hname, hlabel, htype⟩ := (Row.mk.injEq ..).mp h
    exact ⟨a.name, hname, a.label, hlabel, a.fixedType, htype, rfl⟩

end Argument

namespace Overload

theorem ofParts_eq_ok_iff {name : Identifier} {acceleratedName : Option Identifier}
    {arguments : List Argument} {o : Overload} :
    ofParts name acceleratedName arguments = .ok o ↔
      o.name = name ∧ o.acceleratedName = acceleratedName ∧ o.arguments = arguments := by
  constructor
  · intro h
    cases arguments with
    | nil => cases h
    | cons first rest =>
      rw [ofParts] at h
      split at h
      · split at h
        · cases h
          exact ⟨rfl, rfl, rfl⟩
        · cases h
      · cases h
  · rintro ⟨rfl, rfl, rfl⟩
    obtain ⟨name, acceleratedName, arguments, hnodup, first, hfirst, hvarying⟩ := o
    obtain ⟨rest, rfl⟩ := List.head?_eq_some_iff.1 hfirst
    rw [ofParts, dif_pos hnodup, dif_pos hvarying]

/-- The check of a row gives the function whose row it is. -/
theorem Row.check_eq_ok_iff {r : Row} {o : Overload} : r.check = .ok o ↔ o.row = r := by
  obtain ⟨name, acceleratedName, arguments⟩ := r
  rw [Row.check, bind_eq_ok_iff]
  simp only [mapM_eq_ok_iff fun _ _ => Argument.Row.check_eq_ok_iff, ofRow, bind_eq_ok_iff,
    Identifier.ofDatum_eq_ok_iff, Identifier.ofDatum?_eq_ok_iff, ofParts_eq_ok_iff]
  constructor
  · rintro ⟨_, rfl, _, rfl, _, rfl, rfl, rfl, rfl⟩
    rfl
  · intro h
    obtain ⟨hname, haccelerated, harguments⟩ := (Row.mk.injEq ..).mp h
    exact ⟨o.arguments, harguments, o.name, hname, o.acceleratedName, haccelerated, rfl, rfl, rfl⟩

end Overload

/-! ## What the check accepts -/

namespace Datum

variable {value : Datum}

theorem holds_isToleratedName_iff :
    value.Holds Identifier.IsToleratedName ↔ ∃ i : Identifier, .text i.text = value := by
  constructor
  · rintro ⟨text, rfl, h⟩
    exact ⟨⟨text, (Identifier.accepts_iff text).2 h⟩, rfl⟩
  · rintro ⟨i, rfl⟩
    exact ⟨i.text, rfl, (Identifier.accepts_iff i.text).1 i.valid⟩

theorem mayHold_isToleratedName_iff :
    value.MayHold Identifier.IsToleratedName ↔
      ∃ i : Option Identifier, .ofText? (i.map (·.text)) = value := by
  rw [MayHold, holds_isToleratedName_iff, Option.exists]
  exact or_congr eq_comm Iff.rfl

theorem holds_isName_iff :
    value.Holds Identifier.IsName ↔
      value.Holds Identifier.IsToleratedName ∧ ¬ value.EndsInFeed := by
  constructor
  · rintro ⟨text, rfl, h⟩
    obtain ⟨haccepts, hlast⟩ := (Identifier.isName_iff_accepts text).1 h
    refine ⟨⟨text, rfl, (Identifier.accepts_iff text).1 haccepts⟩, ?_⟩
    rintro ⟨text', htext, hfeed⟩
    obtain rfl := Datum.text.inj htext
    exact hlast (of_decide_eq_true hfeed)
  · rintro ⟨⟨text, rfl, h⟩, hfeed⟩
    refine ⟨text, rfl, (Identifier.isName_iff_accepts text).2
      ⟨(Identifier.accepts_iff text).2 h, fun hlast => hfeed ⟨text, rfl, decide_eq_true hlast⟩⟩⟩

theorem mayHold_isName_iff :
    value.MayHold Identifier.IsName ↔
      value.MayHold Identifier.IsToleratedName ∧ ¬ value.EndsInFeed := by
  have hnull : value = .null → ¬ value.EndsInFeed := by
    rintro rfl ⟨text, htext, -⟩
    cases htext
  rw [MayHold, MayHold, holds_isName_iff]
  tauto

end Datum

namespace Argument.Row

theorem exists_row_iff {r : Row} :
    (∃ a : Argument, a.row = r) ↔ r.IsWellFormed Identifier.IsToleratedName := by
  rw [isWellFormed_iff, Datum.holds_isToleratedName_iff, Datum.mayHold_isToleratedName_iff,
    Datum.mayHold_isToleratedName_iff]
  constructor
  · rintro ⟨a, rfl⟩
    exact ⟨⟨a.name, rfl⟩, ⟨a.label, rfl⟩, ⟨a.fixedType, rfl⟩⟩
  · rintro ⟨⟨name, hname⟩, ⟨label, hlabel⟩, ⟨fixedType, htype⟩⟩
    exact ⟨⟨name, label, fixedType⟩, (Row.mk.injEq ..).mpr ⟨hname, hlabel, htype⟩⟩

theorem isWellFormed_isName_iff {r : Row} :
    r.IsWellFormed Identifier.IsName ↔
      r.IsWellFormed Identifier.IsToleratedName ∧
        ∀ field ∈ r.fields, ¬ field.EndsInFeed := by
  rw [isWellFormed_iff, isWellFormed_iff, Datum.holds_isName_iff, Datum.mayHold_isName_iff,
    Datum.mayHold_isName_iff, fields, List.forall_mem_cons, List.forall_mem_cons,
    List.forall_mem_singleton]
  tauto

end Argument.Row

namespace Overload.Row

theorem isWellFormed_row (o : Overload) : o.row.IsWellFormed Identifier.IsToleratedName where
  name := Datum.holds_isToleratedName_iff.2 ⟨o.name, rfl⟩
  acceleratedName := Datum.mayHold_isToleratedName_iff.2 ⟨o.acceleratedName, rfl⟩
  arguments := by
    rw [row, List.forall_mem_map]
    exact fun a _ => Argument.Row.exists_row_iff.1 ⟨a, rfl⟩
  arguments_ne_nil := by
    obtain ⟨first, hfirst, -⟩ := o.head_varying
    rw [row, ne_eq, List.map_eq_nil_iff]
    exact List.ne_nil_of_mem (List.mem_of_mem_head? hfirst)
  names_nodup := by
    have hinj : Function.Injective fun i : Identifier => Datum.text i.text :=
      fun _ _ h => Identifier.text_injective (Datum.text.inj h)
    have hnames := o.names_nodup.map hinj
    rw [List.map_map] at hnames
    rw [row, List.map_map]
    exact hnames
  head_varying := by
    obtain ⟨first, hfirst, hvarying⟩ := o.head_varying
    rw [row, List.head?_map, Option.mem_def.1 hfirst]
    rintro _ ⟨⟩
    exact first.row_fixedType_eq_null_iff.2 hvarying

/-- Functions have the rows that describe one, with names that may have a line feed behind them. -/
theorem exists_row_iff {r : Row} :
    (∃ o : Overload, o.row = r) ↔ r.IsWellFormed Identifier.IsToleratedName := by
  constructor
  · rintro ⟨o, rfl⟩
    exact isWellFormed_row o
  · intro h
    obtain ⟨name, hname⟩ := Datum.holds_isToleratedName_iff.1 h.name
    obtain ⟨acceleratedName, haccelerated⟩ :=
      Datum.mayHold_isToleratedName_iff.1 h.acceleratedName
    obtain ⟨arguments, harguments⟩ : r.arguments ∈ Set.range (List.map Argument.row) := by
      rw [Set.range_list_map]
      exact fun a ha => Argument.Row.exists_row_iff.2 (h.arguments a ha)
    -- The row compares names as values, the function as identifiers.
    have hnodup : (arguments.map (·.name)).Nodup := by
      have hnames := h.names_nodup
      rw [← harguments, List.map_map] at hnames
      refine List.Nodup.of_map (fun i : Identifier => Datum.text i.text) ?_
      rwa [List.map_map]
    have hhead : ∃ first ∈ arguments.head?, first.fixedType = none := by
      cases arguments with
      | nil => exact absurd harguments.symm h.arguments_ne_nil
      | cons first rest =>
        have hfirst := h.head_varying first.row (by rw [← harguments]; rfl)
        exact ⟨first, rfl, first.row_fixedType_eq_null_iff.1 hfirst⟩
    exact ⟨⟨name, acceleratedName, arguments, hnodup, hhead⟩,
      (Row.mk.injEq ..).mpr ⟨hname, haccelerated, harguments⟩⟩

/-- A row is well formed when it is accepted and no name in it has a line feed behind it. -/
theorem isWellFormed_isName_iff {r : Row} :
    r.IsWellFormed Identifier.IsName ↔
      r.IsWellFormed Identifier.IsToleratedName ∧ ∀ field ∈ r.fields, ¬ field.EndsInFeed := by
  have harguments : (∀ a ∈ r.arguments, a.IsWellFormed Identifier.IsName) ↔
      (∀ a ∈ r.arguments, a.IsWellFormed Identifier.IsToleratedName) ∧
        ∀ field ∈ r.arguments.flatMap (·.fields), ¬ field.EndsInFeed := by
    rw [List.forall_mem_flatMap]
    simp only [Argument.Row.isWellFormed_isName_iff]
    exact forall₂_and
  rw [isWellFormed_iff, isWellFormed_iff, Datum.holds_isName_iff, Datum.mayHold_isName_iff,
    harguments, fields, List.forall_mem_cons, List.forall_mem_cons]
  tauto

end Overload.Row

/-! ## Rows and the texts of their functions -/

namespace Argument

theorem external_mem_names (a : Argument) : a.external ∈ a.names := by
  unfold external names
  cases a.label <;> simp

theorem text_mem_fields_row {a : Argument} {i : Identifier} (h : i ∈ a.names) :
    Datum.text i.text ∈ a.row.fields := by
  rw [names, List.mem_append, List.mem_cons, Option.mem_toList, Option.mem_toList] at h
  rcases h with hlabel | rfl | htype
  · simp [row, Row.fields, hlabel, Datum.ofText?]
  · exact List.mem_cons_self
  · simp [row, Row.fields, fixedTypeName, htype, Datum.ofText?]

end Argument

namespace Overload

open Text

theorem text_mem_fields_row {o : Overload} {i : Identifier} (h : i ∈ o.declarationNames) :
    Datum.text i.text ∈ o.row.fields := by
  rcases List.mem_cons.1 h with rfl | h
  · exact List.mem_cons_self
  · obtain ⟨a, ha, hi⟩ := List.mem_flatMap.1 h
    have hfields : Datum.text i.text ∈ o.row.arguments.flatMap (·.fields) :=
      List.mem_flatMap.2 ⟨a.row, List.mem_map_of_mem ha, Argument.text_mem_fields_row hi⟩
    exact List.mem_cons_of_mem _ (List.mem_cons_of_mem _ hfields)

/-- A declaration shows all names that any of the texts shows. -/
theorem names_subset_declarationNames (o : Overload) :
    o.selectorNames ++ o.keyNames ++ o.declarationNames ++ o.callNames ⊆ o.declarationNames := by
  have hflat : ∀ {names : Argument → List Identifier},
      (∀ a, names a ⊆ a.names) → o.name :: o.arguments.flatMap names ⊆ o.declarationNames := by
    intro names hnames
    refine List.cons_subset_cons _ fun i hi => ?_
    obtain ⟨a, ha, hm⟩ := List.mem_flatMap.1 hi
    exact List.mem_flatMap.2 ⟨a, ha, hnames a hm⟩
  have hselector : o.selectorNames ⊆ o.declarationNames := by
    rw [selectorNames, List.map_eq_flatMap]
    exact hflat fun a => List.cons_subset.2 ⟨a.external_mem_names, List.nil_subset _⟩
  have hkey : o.keyNames ⊆ o.declarationNames :=
    hflat fun a => List.cons_subset.2
      ⟨a.external_mem_names, fun i hi => List.mem_append_right _ (List.mem_cons_of_mem _ hi)⟩
  have hcall : o.callNames ⊆ o.declarationNames :=
    hflat fun a => List.cons_subset.2 ⟨a.external_mem_names, List.cons_subset.2
      ⟨List.mem_append_right _ List.mem_cons_self, List.nil_subset _⟩⟩
  simp only [List.append_subset]
  exact ⟨⟨⟨hselector, hkey⟩, List.Subset.refl _⟩, hcall⟩

/-- A row is accepted when it describes a function with names that may have a line feed behind
them, and the function is that of the row. A row describes a function with names proper when it is
accepted and no value in it ends in a line feed. What is rendered of a function has a line break
exactly when one of the names that it shows ends in a line feed, and these are values of its row. -/
theorem check_exact (r : Row) :
    ((∃ o, r.check = .ok o) ↔ r.IsWellFormed Identifier.IsToleratedName) ∧
    (r.IsWellFormed Identifier.IsName ↔
      (∃ o, r.check = .ok o) ∧ ∀ field ∈ r.fields, ¬ field.EndsInFeed) ∧
    (∀ o, r.check = .ok o ↔ o.row = r) ∧
    ∀ (o : Overload) (t : Target) (indexed : Bool) (qualifier : String),
      hasLineBreak o.selector = o.selectorNames.any (·.endsInFeed) ∧
      hasLineBreak o.key = o.keyNames.any (·.endsInFeed) ∧
      hasLineBreak (o.declaration t.typeName) = o.declarationNames.any (·.endsInFeed) ∧
      hasLineBreak (o.call indexed qualifier) =
        (hasLineBreak qualifier || o.callNames.any (·.endsInFeed)) ∧
      ∀ shown ∈ o.selectorNames ++ o.keyNames ++ o.declarationNames ++ o.callNames,
        Datum.text shown.text ∈ o.row.fields := by
  have haccepted : (∃ o, r.check = .ok o) ↔ r.IsWellFormed Identifier.IsToleratedName := by
    simp only [Row.check_eq_ok_iff, Row.exists_row_iff]
  refine ⟨haccepted, ?_, fun o => Row.check_eq_ok_iff, fun o t indexed qualifier => ?_⟩
  · rw [haccepted]
    exact Row.isWellFormed_isName_iff
  · exact ⟨o.hasLineBreak_selector, o.hasLineBreak_key, o.hasLineBreak_declaration t,
      o.hasLineBreak_call indexed qualifier,
      fun shown hshown => text_mem_fields_row (o.names_subset_declarationNames hshown)⟩

/-- A row whose first name has a line feed behind it. -/
def Row.broken : Row where
  name := .text "f\n"
  acceleratedName := .null
  arguments := [⟨.text "x", .text "_", .null⟩]

/-- The row is accepted, and its texts have a line break, though its first value is no name. -/
theorem broken_accepted :
    ¬ Row.broken.IsWellFormed Identifier.IsName ∧
      ∃ o, Row.broken.check = .ok o ∧ hasLineBreak o.selector = true ∧ hasLineBreak o.key = true ∧
        hasLineBreak (o.declaration (Target.scalar .float).typeName) = true ∧
          hasLineBreak (o.call false "") = true := by
  constructor
  · intro h
    have hfields := (Row.isWellFormed_isName_iff.1 h).2
    exact hfields (.text "f\n") List.mem_cons_self ⟨"f\n", rfl, rfl⟩
  · exact ⟨_, rfl, rfl, rfl, rfl, rfl⟩

end Overload

end Lanewise
