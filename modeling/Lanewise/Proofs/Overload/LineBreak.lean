import Lanewise.Proofs.Overload.Call

/-!
# Line breaks in the texts of a function

The only line break in an identifier is a line feed behind it, and there is none in the name of a
target. So a selector, a key, a declaration or a call has a line break exactly when one of the names
that it shows has a line feed behind it. The lone underscore that a call leaves out has none.
-/

namespace Lanewise

namespace Text

/-- The characters at which a line ends. -/
def lineBreaks : List Char :=
  ['\n', '\r', '\x0b', '\x0c', '\x1c', '\x1d', '\x1e', '\x85', '\u2028', '\u2029']

def hasLineBreak (text : String) : Bool :=
  text.toList.any lineBreaks.contains

def endsInFeed (text : String) : Bool :=
  text.toList.getLast? = some '\n'

theorem hasLineBreak_append (a b : String) :
    hasLineBreak (a ++ b) = (hasLineBreak a || hasLineBreak b) := by
  rw [hasLineBreak, String.toList_append, List.any_append]
  rfl

theorem hasLineBreak_parenthesized (front inside : String) :
    hasLineBreak (front ++ "(" ++ inside ++ ")") = (hasLineBreak front || hasLineBreak inside) := by
  have hopening : hasLineBreak "(" = false := rfl
  have hclosing : hasLineBreak ")" = false := rfl
  rw [hasLineBreak_append, hasLineBreak_append, hasLineBreak_append, hopening, hclosing,
    Bool.or_false, Bool.or_false]

theorem hasLineBreak_join (texts : List String) :
    hasLineBreak (String.join texts) = texts.any hasLineBreak := by
  rw [hasLineBreak, String.toList_join, List.any_flatMap]
  rfl

theorem hasLineBreak_commaSeparated (items : List String) :
    hasLineBreak (commaSeparated items) = items.any hasLineBreak := by
  unfold commaSeparated
  induction items with
  | nil => rfl
  | cons item rest ih =>
    cases rest with
    | nil => simp
    | cons next rest =>
      have hcomma : hasLineBreak ", " = false := rfl
      rw [String.intercalate_cons_cons, hasLineBreak_append, hasLineBreak_append, ih, hcomma,
        Bool.or_false]
      rfl

/-- The only line break in signatures and calls is the line feed. -/
theorem hasLineBreak_iff_of_signatureText {text : String} (h : SignatureText text) :
    hasLineBreak text = true ↔ '\n' ∈ text.toList := by
  have hbreaks : lineBreaks.all (fun c => !isSignatureChar c || c == '\n') = true := rfl
  rw [hasLineBreak, List.any_eq_true]
  constructor
  · rintro ⟨c, hc, hbreak⟩
    have hfeed := List.all_eq_true.1 hbreaks c (List.contains_iff_mem.1 hbreak)
    rw [h.chars c hc, Bool.not_true, Bool.false_or, beq_iff_eq] at hfeed
    exact hfeed ▸ hc
  · exact fun hm => ⟨'\n', hm, rfl⟩

end Text

namespace Identifier

/-- The identifier has a line feed behind it. -/
def endsInFeed (i : Identifier) : Bool :=
  Text.endsInFeed i.text

theorem hasLineBreak_text (i : Identifier) : Text.hasLineBreak i.text = i.endsInFeed := by
  rw [Bool.eq_iff_iff, Text.hasLineBreak_iff_of_signatureText (.identifier i), endsInFeed,
    Text.endsInFeed, decide_eq_true_iff]
  constructor
  · intro hm
    by_contra hlast
    exact line_feed_not_mem_of_getLast? i.valid hlast hm
  · exact List.mem_of_getLast?

end Identifier

theorem Target.hasLineBreak_typeName (t : Target) : Text.hasLineBreak t.typeName = false := by
  rw [Bool.eq_false_iff, ne_eq, Text.hasLineBreak_iff_of_signatureText (.typeName t)]
  exact t.line_feed_not_mem_typeName

namespace Argument

open Text

variable (a : Argument)

/-- The identifier that callers see. -/
def external : Identifier :=
  a.label.getD a.name

/-- All names that are given for the argument. -/
def names : List Identifier :=
  a.label.toList ++ a.name :: a.fixedType.toList

theorem hasLineBreak_externalName : hasLineBreak a.externalName = a.external.endsInFeed :=
  a.external.hasLineBreak_text

theorem hasLineBreak_typeIn {typeName : String} (h : hasLineBreak typeName = false) :
    hasLineBreak (a.typeIn typeName) = a.fixedType.toList.any (·.endsInFeed) := by
  unfold typeIn fixedTypeName
  cases a.fixedType with
  | none => exact h
  | some type => simpa using type.hasLineBreak_text

theorem hasLineBreak_parameter {typeName : String} (h : hasLineBreak typeName = false) :
    hasLineBreak (a.parameter typeName) = a.names.any (·.endsInFeed) := by
  have hcolon : hasLineBreak ": " = false := rfl
  have hblank : hasLineBreak " " = false := rfl
  have htyped : hasLineBreak (a.name.text ++ ": " ++ a.typeIn typeName) =
      (a.name :: a.fixedType.toList).any (·.endsInFeed) := by
    rw [hasLineBreak_append, hasLineBreak_append, hcolon, Bool.or_false, a.name.hasLineBreak_text,
      a.hasLineBreak_typeIn h, List.any_cons]
  unfold parameter names
  cases a.label with
  | none => exact htyped
  | some label =>
    simp only [hasLineBreak_append, htyped, hblank, Bool.or_false, label.hasLineBreak_text,
      Option.toList_some, List.singleton_append, List.any_cons]

theorem hasLineBreak_value (indexed : Bool) :
    hasLineBreak (a.value indexed) = a.name.endsInFeed := by
  have hlane : hasLineBreak "[i]" = false := rfl
  unfold value
  split
  · rw [hasLineBreak_append, hlane, Bool.or_false, a.name.hasLineBreak_text]
  · exact a.name.hasLineBreak_text

/-- The label that a call leaves out is the lone underscore, without a line feed. -/
theorem hasLineBreak_callPiece (indexed : Bool) :
    hasLineBreak (a.callPiece indexed) = [a.external, a.name].any (·.endsInFeed) := by
  have hcolon : hasLineBreak ": " = false := rfl
  rw [List.any_cons, List.any_cons, List.any_nil, Bool.or_false]
  unfold callPiece
  split
  · rename_i hpositional
    have hexternal : a.external.endsInFeed = false := by
      rw [← hasLineBreak_externalName, externalName_of_isPositional hpositional]
      rfl
    rw [hexternal, Bool.false_or, hasLineBreak_value]
  · rw [hasLineBreak_append, hasLineBreak_append, hcolon, Bool.or_false, hasLineBreak_externalName,
      hasLineBreak_value]

end Argument

namespace Overload

open Text

variable (o : Overload)

/-- The names that the selector shows. -/
def selectorNames : List Identifier :=
  o.name :: o.arguments.map (·.external)

/-- The names that the key shows. -/
def keyNames : List Identifier :=
  o.name :: o.arguments.flatMap fun a => a.external :: a.fixedType.toList

/-- The names that a declaration shows, but for that of the target. -/
def declarationNames : List Identifier :=
  o.name :: o.arguments.flatMap (·.names)

/-- The names that a call shows. -/
def callNames : List Identifier :=
  o.name :: o.arguments.flatMap fun a => [a.external, a.name]

theorem hasLineBreak_selector :
    hasLineBreak o.selector = o.selectorNames.any (·.endsInFeed) := by
  have hcolon : hasLineBreak ":" = false := rfl
  rw [selector, hasLineBreak_parenthesized, hasLineBreak_join, labels, selectorNames]
  simp only [hasLineBreak_append, hcolon, Bool.or_false, List.any_map, List.any_cons,
    Function.comp_def, Argument.hasLineBreak_externalName, Identifier.hasLineBreak_text]

theorem hasLineBreak_key : hasLineBreak o.key = o.keyNames.any (·.endsInFeed) := by
  have hcolon : hasLineBreak ":" = false := rfl
  have htype : ∀ a : Argument, hasLineBreak (a.fixedTypeName.getD "") =
      a.fixedType.toList.any (·.endsInFeed) :=
    fun a => a.hasLineBreak_typeIn (rfl : hasLineBreak "" = false)
  rw [key, hasLineBreak_parenthesized, hasLineBreak_join, keyNames]
  simp only [hasLineBreak_append, hcolon, Bool.or_false, List.any_map, List.any_cons,
    List.any_flatMap, Function.comp_def, htype, Argument.hasLineBreak_externalName,
    Identifier.hasLineBreak_text]

theorem hasLineBreak_declaration (t : Target) :
    hasLineBreak (o.declaration t.typeName) = o.declarationNames.any (·.endsInFeed) := by
  have hfront : hasLineBreak "public static func " = false := rfl
  have hopening : hasLineBreak "(" = false := rfl
  have harrow : hasLineBreak ") -> " = false := rfl
  have ht := t.hasLineBreak_typeName
  unfold declaration parameters declarationNames
  simp only [hasLineBreak_append, hasLineBreak_commaSeparated, hfront, hopening, harrow, ht,
    Bool.or_false, Bool.false_or, List.any_map, List.any_cons, List.any_flatMap, Function.comp_def,
    Argument.hasLineBreak_parameter _ ht, Identifier.hasLineBreak_text]

theorem hasLineBreak_call (indexed : Bool) (qualifier : String) :
    hasLineBreak (o.call indexed qualifier) =
      (hasLineBreak qualifier || o.callNames.any (·.endsInFeed)) := by
  rw [call, hasLineBreak_parenthesized, hasLineBreak_append, callArguments,
    hasLineBreak_commaSeparated, callNames]
  simp only [Bool.or_assoc, List.any_map, List.any_cons, List.any_flatMap, Function.comp_def,
    Argument.hasLineBreak_callPiece, Identifier.hasLineBreak_text]

end Overload

end Lanewise
