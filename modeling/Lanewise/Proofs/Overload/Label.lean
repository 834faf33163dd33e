import Lanewise.Proofs.Overload.Capture

/-!
# The labels that texts show

A selector, a declaration and a call show the labels of the arguments, each by a rule of its own. A
selector has every external name with a colon behind it. A declaration has the label in front of the
name, or the name alone if there is no label. A call leaves a label out when it is the lone
underscore. The three show the same labels in the same order.

A parameter is positional when the lone underscore is its first word, and then its argument should be
passed bare. This is so when the underscore is the label. It may also be the name of an argument
without a label, or be a label or such a name with a line feed behind it: then the call passes the
argument with the underscore as a label.
-/

namespace Lanewise

open Swift

namespace Signature

/-- The labels in a selector, in order. Each has a colon behind it. -/
def selectorLabels (selector : String) : List String :=
  ((inside selector.toList).splitOn ':').dropLast.map String.ofList

/-- The labels in the parameters of a declaration, in order. -/
def parameterLabels (parameters : String) : List String :=
  (pieces parameters.toList).map label

/-- The labels in the arguments of a call, in order. The lone underscore stands for an argument that
is passed without a label. -/
def argumentLabels (arguments : String) : List String :=
  (pieces arguments.toList).map fun piece =>
    (Passed.ofPiece piece).label.getD Argument.positionalLabel

/-- Whether a parameter is positional: its first word is the lone underscore. -/
def isPositional (piece : List Char) : Bool :=
  firstWord (String.ofList piece) = Argument.positionalLabel

/-- Texts are read back when each is followed by a mark that it does not have. -/
theorem splitOn_flatMap_terminated {mark : Char} {texts : List String}
    (h : ∀ text ∈ texts, mark ∉ text.toList) :
    (texts.flatMap fun text => text.toList ++ [mark]).splitOn mark =
      texts.map String.toList ++ [[]] := by
  induction texts with
  | nil => exact List.splitOn_nil mark
  | cons text rest ih =>
    rw [List.forall_mem_cons] at h
    rw [List.flatMap_cons, List.append_assoc, List.singleton_append,
      List.splitOn_append_cons_self_of_not_mem h.1, ih h.2]
    rfl

end Signature

namespace Argument

variable (a : Argument) (typeName : String)

/-- The first word of a parameter is that of the external name. -/
theorem firstWord_parameter : firstWord (a.parameter typeName) = firstWord a.externalName := by
  have hbehind : (a.behindLabel ++ ':' :: ' ' :: (a.typeIn typeName).toList).head?.any
      Identifier.isTail = false := by
    unfold behindLabel
    cases a.label <;> rfl
  rw [firstWord, toList_parameter, List.append_assoc, takeWhile_append_of_head? hbehind, firstWord]

/-- An argument is passed without a label when it is positional. -/
theorem label_passed_eq_none_iff (indexed : Bool) :
    (a.passed indexed).label = none ↔ a.isPositional = true := by
  unfold passed
  cases a.isPositional <;> simp

/-- The label of an argument is read back from a call, where it is shown or is the lone underscore.
-/
theorem label_passed_getD (indexed : Bool) :
    (a.passed indexed).label.getD positionalLabel = a.externalName := by
  unfold passed
  by_cases h : a.isPositional = true
  · rw [if_pos h, externalName_of_isPositional h]
    rfl
  · rw [if_neg h]
    rfl

/-- The call of an argument agrees with the declaration when a lone underscore in front is the label.
-/
theorem passed_bare_iff_positional_iff (indexed : Bool) :
    ((a.passed indexed).label = none ↔
        Signature.isPositional (a.parameter typeName).toList = true) ↔
      (firstWord a.externalName = positionalLabel → a.isPositional = true) := by
  have hword : a.isPositional = true → firstWord a.externalName = positionalLabel := by
    intro h
    rw [externalName_of_isPositional h]
    rfl
  rw [label_passed_eq_none_iff, Signature.isPositional, String.ofList_toList, firstWord_parameter,
    decide_eq_true_iff]
  exact ⟨fun h => h.2, fun h => ⟨hword, h⟩⟩

end Argument

namespace Overload

open Signature

theorem inside_selector (o : Overload) :
    inside o.selector.toList = o.labels.flatMap fun label => label.toList ++ [':'] := by
  have hlabels : ')' ∉ o.labels.flatMap fun label => label.toList ++ [':'] := by
    intro hm
    obtain ⟨label, hl, hm⟩ := List.mem_flatMap.1 hm
    obtain ⟨a, -, rfl⟩ := List.mem_map.1 hl
    rcases List.mem_append.1 hm with hm | hm
    · exact a.not_mem_externalName (by decide) (by decide) hm
    · exact absurd hm (by decide)
  rw [toList_selector, inside_append o.parenthesis_not_mem_name hlabels]

theorem selectorLabels_selector (o : Overload) : selectorLabels o.selector = o.labels := by
  rw [selectorLabels, inside_selector, splitOn_flatMap_terminated o.colon_not_mem_labels,
    List.dropLast_concat, List.map_map]
  simp [Function.comp_def]

theorem parameterLabels_parameters (o : Overload) (t : Target) :
    parameterLabels (o.parameters t.typeName) = o.labels := by
  rw [parameterLabels, pieces_parameters o (t.not_mem_typeName (by decide)), List.map_map]
  exact List.map_congr_left fun a _ => a.label_parameter t.typeName

theorem argumentLabels_callArguments (o : Overload) (indexed : Bool) :
    argumentLabels (o.callArguments indexed) = o.labels := by
  rw [argumentLabels, pieces_callArguments, List.map_map]
  refine List.map_congr_left fun a _ => ?_
  rw [Function.comp_apply, Argument.ofPiece_callPiece, Argument.label_passed_getD]

/-- The selector, the declaration and the call show the same labels, those of the overload. The
arguments that the call passes without a label are those whose parameters are positional, exactly when
every argument with the lone underscore in front has it as its label. -/
theorem labels_read_back (o : Overload) (t : Target) (indexed : Bool) :
    selectorLabels o.selector = o.labels ∧
    parameterLabels (o.parameters t.typeName) = o.labels ∧
    argumentLabels (o.callArguments indexed) = o.labels ∧
    ((∀ shown ∈ (pieces (o.parameters t.typeName).toList).zip
          (pieces (o.callArguments indexed).toList),
        (Passed.ofPiece shown.2).label = none ↔ Signature.isPositional shown.1 = true) ↔
      ∀ a ∈ o.arguments,
        firstWord a.externalName = Argument.positionalLabel → a.isPositional = true) := by
  refine ⟨o.selectorLabels_selector, o.parameterLabels_parameters t,
    o.argumentLabels_callArguments indexed, ?_⟩
  rw [pieces_parameters o (t.not_mem_typeName (by decide)), pieces_callArguments, List.zip_map',
    List.forall_mem_map]
  refine forall₂_congr fun a _ => ?_
  rw [a.ofPiece_callPiece indexed]
  exact a.passed_bare_iff_positional_iff t.typeName indexed

/-- A function of one argument without a label, whose name is the lone underscore. -/
def wildcard : Overload :=
  Catalog.Standard.unary (.literal "same") none
    { name := .literal "_", label := none, fixedType := none }

/-- The selector and the declaration make the argument positional, and the call passes it under a
label. -/
theorem wildcard_not_passed_bare :
    wildcard.selector = "same(_:)" ∧ wildcard.parameters (Target.scalar .float).typeName = "_: Float" ∧
      wildcard.callArguments false = "_: _" ∧
    ¬ ∀ shown ∈ (pieces (wildcard.parameters (Target.scalar .float).typeName).toList).zip
          (pieces (wildcard.callArguments false).toList),
        (Passed.ofPiece shown.2).label = none ↔ Signature.isPositional shown.1 = true := by
  refine ⟨rfl, rfl, rfl, ?_⟩
  decide

end Overload

end Lanewise
