import Lanewise.Proofs.Overload.Declaration
import Lanewise.Proofs.Overload.Nesting
import Mathlib.Data.List.TakeWhile

/-!
# Reading names back from declarations and calls

The body of a function knows a parameter by the last word before the colon, and a call passes an
argument under its label, with the lane index if the argument is read at a lane. Both are read back
from the texts, so it can be told what the names in a call refer to.
-/

namespace Lanewise

/-- An argument as a call shows it. -/
structure Passed where
  label : Option String
  name : String
  /-- Whether it is read at the lane. -/
  isIndexed : Bool
deriving DecidableEq, Repr

namespace Passed

/-- The argument that is passed with a value. -/
def ofValue (label : Option String) (value : List Char) : Passed where
  label
  name := String.ofList (value.takeWhile (· ≠ '['))
  isIndexed := value.dropWhile (· ≠ '[') = "[i]".toList

/-- The argument in a piece of a call. A label stands before a colon. -/
def ofPiece (piece : List Char) : Passed :=
  if ':' ∈ piece then
    ofValue (some (String.ofList (piece.takeWhile (· ≠ ':')))) ((piece.dropWhile (· ≠ ':')).drop 2)
  else ofValue none piece

/-- What a call calls: all that stands before the arguments. -/
def callee (call : String) : String :=
  String.ofList (call.toList.takeWhile (· ≠ '('))

/-- The arguments of a call, in order. -/
def ofCall (call : String) : List Passed :=
  (Signature.pieces (Signature.inside call.toList)).map ofPiece

end Passed

namespace Signature

/-- The name of a parameter in its function, which is the last word before the colon. -/
def parameterName (piece : List Char) : String :=
  let front := piece.takeWhile (· ≠ ':')
  String.ofList (if ' ' ∈ front then (front.dropWhile (· ≠ ' ')).drop 1 else front)

/-- The names of the parameters that a text declares, in order. -/
def parameterNames (text : String) : List String :=
  (pieces (inside text.toList)).map parameterName

end Signature

namespace Argument

/-- The argument as a call should show it. -/
def passed (a : Argument) (indexed : Bool) : Passed where
  label := if a.isPositional then none else some a.externalName
  name := a.name.text
  isIndexed := indexed && a.isVarying

/-- An argument that is passed by position has the lone underscore as its external name. -/
theorem externalName_of_isPositional {a : Argument} (h : a.isPositional = true) :
    a.externalName = positionalLabel := by
  unfold isPositional at h
  unfold externalName
  cases hl : a.label with
  | none => simp [hl] at h
  | some label => simpa [hl] using h

theorem not_mem_name (a : Argument) {c : Char} (hc : Identifier.isTail c = false := by decide)
    (hn : c ≠ '\n' := by decide) : c ∉ a.name.text.toList :=
  Identifier.not_mem_of_isTail_eq_false a.name.valid hc hn

theorem toList_value (a : Argument) (indexed : Bool) :
    (a.value indexed).toList =
      a.name.text.toList ++ if indexed && a.isVarying then "[i]".toList else [] := by
  unfold value
  split
  · rw [String.toList_append]
  · rw [List.append_nil]

theorem ofValue_value (a : Argument) (indexed : Bool) (label : Option String) :
    Passed.ofValue label (a.value indexed).toList =
      ⟨label, a.name.text, indexed && a.isVarying⟩ := by
  have hname : '[' ∉ a.name.text.toList := a.not_mem_name
  have hlane : "[i]".toList = '[' :: ['i', ']'] := rfl
  have hall : ∀ c ∈ a.name.text.toList, decide (c ≠ '[') = true :=
    fun c hc => decide_eq_true (ne_of_mem_of_not_mem hc hname)
  rw [toList_value]
  by_cases h : (indexed && a.isVarying) = true
  · rw [if_pos h, h, Passed.ofValue, hlane, Signature.takeWhile_append_mark hname,
      Signature.dropWhile_append_mark hname, String.ofList_toList]
    rfl
  · rw [Bool.not_eq_true] at h
    have hend : a.name.text.toList.dropWhile (fun c => decide (c ≠ '[')) = [] :=
      List.dropWhile_eq_nil_iff.2 hall
    rw [h, Passed.ofValue]
    simp only [Bool.false_eq_true, if_false, List.append_nil, hend, List.takeWhile_eq_self_iff.2 hall,
      String.ofList_toList]
    rfl

theorem not_mem_value (a : Argument) (indexed : Bool) {c : Char}
    (hc : Identifier.isTail c = false := by decide) (hn : c ∉ ['\n', '[', ']'] := by decide) :
    c ∉ (a.value indexed).toList := by
  simp only [List.mem_cons, List.not_mem_nil, or_false, not_or] at hn
  have hi : c ≠ 'i' := by
    rintro rfl
    exact absurd hc (by decide)
  rw [toList_value, List.mem_append, not_or]
  refine ⟨a.not_mem_name hc hn.1, ?_⟩
  split
  · have hlane : "[i]".toList = ['[', 'i', ']'] := rfl
    rw [hlane]
    simp [hn.2.1, hn.2.2, hi]
  · exact List.not_mem_nil

/-- An argument is read back from what a call shows of it. -/
theorem ofPiece_callPiece (a : Argument) (indexed : Bool) :
    Passed.ofPiece (a.callPiece indexed).toList = a.passed indexed := by
  have hlabel : ':' ∉ a.externalName.toList := a.not_mem_externalName (by decide) (by decide)
  unfold callPiece passed
  split
  · rw [Passed.ofPiece, if_neg (a.not_mem_value indexed), ofValue_value]
  · have hcolon : (a.externalName ++ ": " ++ a.value indexed).toList =
        a.externalName.toList ++ ':' :: ' ' :: (a.value indexed).toList := by
      simp [String.toList_append]
    rw [hcolon, Passed.ofPiece, if_pos (by simp), Signature.takeWhile_append_mark hlabel,
      Signature.dropWhile_append_mark hlabel, List.drop_succ_cons, List.drop_succ_cons,
      List.drop_zero, ofValue_value, String.ofList_toList]

theorem not_mem_callPiece (a : Argument) (indexed : Bool) {c : Char}
    (hc : Identifier.isTail c = false := by decide)
    (hn : c ∉ ['\n', '[', ']', ':', ' '] := by decide) : c ∉ (a.callPiece indexed).toList := by
  simp only [List.mem_cons, List.not_mem_nil, or_false, not_or] at hn
  have hvalue : c ∉ (a.value indexed).toList := a.not_mem_value indexed hc (by simp [hn])
  unfold callPiece
  split
  · exact hvalue
  · have hcolon : c ∉ ": ".toList := by simp [hn]
    exact not_mem_append (not_mem_append (a.not_mem_externalName hc hn.1) hcolon) hvalue

/-- The name of a parameter is read back. -/
theorem parameterName_parameter (a : Argument) (typeName : String) :
    Signature.parameterName (a.parameter typeName).toList = a.name.text := by
  have hfront : ':' ∉ a.externalName.toList ++ a.behindLabel :=
    a.not_mem_front (by decide) (by decide) (by decide)
  have hblank : ' ' ∉ a.externalName.toList := a.not_mem_externalName (by decide) (by decide)
  rw [Signature.parameterName, toList_parameter, Signature.takeWhile_append_mark hfront]
  cases hl : a.label with
  | none =>
    have hname : a.externalName = a.name.text := by rw [externalName, hl]; rfl
    rw [behindLabel, hl, Option.elim_none, List.append_nil, if_neg hblank, hname,
      String.ofList_toList]
  | some label =>
    rw [behindLabel, hl, Option.elim_some, if_pos (by simp), Signature.dropWhile_append_mark hblank,
      List.drop_succ_cons, List.drop_zero, String.ofList_toList]

end Argument

namespace Overload

theorem toList_call (o : Overload) (indexed : Bool) (qualifier : String) :
    (o.call indexed qualifier).toList = (qualifier ++ o.name.text).toList ++
      '(' :: ((o.callArguments indexed).toList ++ [')']) := by
  simp [call, String.toList_append]

theorem not_mem_callee (o : Overload) {qualifier : String} (hq : '(' ∉ qualifier.toList) :
    '(' ∉ (qualifier ++ o.name.text).toList :=
  not_mem_append hq (Identifier.not_mem_of_isTail_eq_false o.name.valid (by decide) (by decide))

/-- The name of the function is read back from a call. -/
theorem callee_call (o : Overload) (indexed : Bool) {qualifier : String}
    (hq : '(' ∉ qualifier.toList := by decide) :
    Passed.callee (o.call indexed qualifier) = qualifier ++ o.name.text := by
  rw [Passed.callee, toList_call, Signature.takeWhile_append_mark (o.not_mem_callee hq),
    String.ofList_toList]

/-- The arguments of a call are found again between the separators. -/
theorem pieces_callArguments (o : Overload) (indexed : Bool) :
    Signature.pieces (o.callArguments indexed).toList =
      o.arguments.map fun a => (a.callPiece indexed).toList := by
  rw [callArguments, Signature.pieces_commaSeparated, List.map_map]
  · rfl
  · simpa using o.arguments_ne_nil
  · intro item hi
    obtain ⟨a, -, rfl⟩ := List.mem_map.1 hi
    exact a.not_mem_callPiece indexed

/-- The arguments of a call are read back, each with its label and its name, and with the lane index
if it is read at a lane. -/
theorem ofCall_call (o : Overload) (indexed : Bool) {qualifier : String}
    (hq : '(' ∉ qualifier.toList := by decide) :
    Passed.ofCall (o.call indexed qualifier) = o.arguments.map (·.passed indexed) := by
  have harguments : ')' ∉ (o.callArguments indexed).toList := by
    refine Text.commaSeparated_closed (P := fun text => ')' ∉ text.toList) (by simp) ?_ ?_
    · intro a b ha hb
      exact not_mem_append (not_mem_append ha (by decide)) hb
    · intro item hi
      obtain ⟨a, -, rfl⟩ := List.mem_map.1 hi
      exact a.not_mem_callPiece indexed
  rw [Passed.ofCall, toList_call, Signature.inside_append (o.not_mem_callee hq) harguments,
    pieces_callArguments, List.map_map]
  exact List.map_congr_left fun a _ => a.ofPiece_callPiece indexed

/-- The names of the parameters are read back from every text that shows them in its first
parentheses. -/
theorem parameterNames_eq (o : Overload) (t : Target) {front closing : String} (rest : String)
    (hfront : '(' ∉ front.toList) (hclosing : closing.toList.head? = some ')') :
    Signature.parameterNames (front ++ "(" ++ o.parameters t.typeName ++ closing ++ rest) =
      o.arguments.map (·.name.text) := by
  have hparameters : ')' ∉ (o.parameters t.typeName).toList :=
    o.not_mem_parameters (by decide) (by decide) (by decide) (t.not_mem_typeName (by decide))
  obtain ⟨behind, hbehind⟩ := List.head?_eq_some_iff.1 hclosing
  have hopen : "(".toList = ['('] := rfl
  have hmarks : (front ++ "(" ++ o.parameters t.typeName ++ closing ++ rest).toList =
      front.toList ++ '(' :: ((o.parameters t.typeName).toList ++ ')' :: (behind ++ rest.toList)) := by
    simp only [String.toList_append, List.append_assoc, hopen, hbehind, List.cons_append,
      List.nil_append]
  rw [Signature.parameterNames, hmarks, Signature.inside_append hfront hparameters,
    pieces_parameters o (t.not_mem_typeName (by decide)), List.map_map]
  exact List.map_congr_left fun a _ => a.parameterName_parameter t.typeName

theorem parameterNames_declaration (o : Overload) (t : Target) :
    Signature.parameterNames (o.declaration t.typeName) = o.arguments.map (·.name.text) := by
  have hname : '(' ∉ ("public static func " ++ o.name.text).toList :=
    not_mem_append (by decide)
      (Identifier.not_mem_of_isTail_eq_false o.name.valid (by decide) (by decide))
  exact o.parameterNames_eq t t.typeName hname rfl

theorem parameterNames_head (o : Overload) (t : Target) :
    Signature.parameterNames (Derivative.head o t.typeName) = o.arguments.map (·.name.text) := by
  have hname : '(' ∉ ("public static func " ++ o.registrationName).toList :=
    not_mem_append (by decide)
      (Identifier.not_mem_of_isTail_eq_false o.accepts_registrationName (by decide) (by decide))
  have hhead : Derivative.head o t.typeName =
      "public static func " ++ o.registrationName ++ "(" ++ o.parameters t.typeName ++
        ") -> (value: " ++ (t.typeName ++ ", pullback: (" ++ t.typeName ++ ") -> " ++
          o.cotangentType t.typeName ++ ")") := by
    unfold Derivative.head
    simp only [String.append_assoc]
  rw [hhead]
  exact o.parameterNames_eq t _ hname rfl

end Overload

end Lanewise
