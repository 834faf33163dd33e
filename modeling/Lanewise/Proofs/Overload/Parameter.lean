import Lanewise.Proofs.Overload.Call

/-!
# Arguments in declarations and calls

A declaration, a call for one lane and an accelerated call list the arguments with a comma and a blank
from one to the next. None of them loses an argument, moves it or takes it for another: between the
separators stands one piece for each argument, in order, and what the piece shows is read back from
it. A declaration shows the label, the name and the type, a call for a lane whether the argument is
read at the lane, and an accelerated call whether it is broadcast.

The name of a vector type is no identifier, so a declaration for such a type also shows which
arguments are varying. It is the declaration of one name with one list of arguments.
-/

namespace Lanewise

/-- A parameter as a declaration shows it. -/
structure Parameter where
  /-- The word in front of the name, if there is one. -/
  label : Option String
  name : String
  type : String
deriving DecidableEq, Repr

namespace Parameter

/-- The parameter in a piece of a declaration. Of two words in front of the colon the first is the
label; a single one is the name. -/
def ofPiece (piece : List Char) : Parameter where
  label := if ' ' ∈ piece.takeWhile (· ≠ ':') then some (Signature.label piece) else none
  name := Signature.parameterName piece
  type := Signature.type piece

end Parameter

/-- An argument as an accelerated call shows it. -/
structure Widened where
  name : String
  /-- Whether it is broadcast to all lanes. -/
  isBroadcast : Bool
deriving DecidableEq, Repr

namespace Widened

/-- What a broadcast has in front of the name. -/
def opening : List Char :=
  ".init(repeating: .init(".toList

/-- The argument in a piece of an accelerated call. -/
def ofPiece (piece : List Char) : Widened :=
  match Swift.between? opening "))".toList piece with
  | some name => ⟨String.ofList name, true⟩
  | none => ⟨String.ofList piece, false⟩

end Widened

namespace Argument

/-- The argument as a declaration for the named type should show it. -/
def declared (a : Argument) (typeName : String) : Parameter where
  label := a.label.map (·.text)
  name := a.name.text
  type := a.typeIn typeName

/-- The argument as an accelerated call should show it. -/
def widened (a : Argument) : Widened where
  name := a.name.text
  isBroadcast := a.isFixed

/-- A parameter is read back from what a declaration shows of it. -/
theorem ofPiece_parameter (a : Argument) (typeName : String) :
    Parameter.ofPiece (a.parameter typeName).toList = a.declared typeName := by
  have hfront : ':' ∉ a.externalName.toList ++ a.behindLabel :=
    a.not_mem_front (by decide) (by decide) (by decide)
  have htake : (a.parameter typeName).toList.takeWhile (· ≠ ':') =
      a.externalName.toList ++ a.behindLabel := by
    rw [toList_parameter, Signature.takeWhile_append_mark hfront]
  have hblank : ' ' ∉ a.externalName.toList := a.not_mem_externalName (by decide) (by decide)
  rw [Parameter.ofPiece, declared, parameterName_parameter, type_parameter, label_parameter, htake,
    Parameter.mk.injEq]
  refine ⟨?_, rfl, rfl⟩
  cases hl : a.label with
  | none =>
    rw [behindLabel, hl, Option.elim_none, List.append_nil, if_neg hblank]
    rfl
  | some label =>
    rw [behindLabel, hl, Option.elim_some, if_pos (by simp), externalName, hl]
    rfl

/-- An argument is read back from what an accelerated call shows of it. -/
theorem ofPiece_acceleratedPiece (a : Argument) :
    Widened.ofPiece a.acceleratedPiece.toList = a.widened := by
  unfold acceleratedPiece widened
  split
  · rename_i hfixed
    have hpiece : (".init(repeating: .init(" ++ a.name.text ++ "))").toList =
        Widened.opening ++ (a.name.text.toList ++ "))".toList) := by
      rw [String.toList_append, String.toList_append, List.append_assoc]
      rfl
    rw [hpiece, Widened.ofPiece, Swift.between?_append, hfixed]
    simp only [String.ofList_toList]
  · rename_i hvarying
    -- No name starts with a point, so a name is not taken for a broadcast.
    have hpoint : '.' ∉ a.name.text.toList := a.not_mem_name
    have hnone : Swift.between? Widened.opening "))".toList a.name.text.toList = none := by
      have hprefix : a.name.text.toList.dropPrefix? Widened.opening = none := by
        cases h : a.name.text.toList.dropPrefix? Widened.opening with
        | none => rfl
        | some rest =>
          obtain ⟨front, hname, hopening⟩ := List.dropPrefix?_eq_some_iff.1 h
          rw [beq_iff_eq] at hopening
          rw [hname, hopening] at hpoint
          exact absurd (List.mem_append_left rest (List.mem_cons_self)) hpoint
      rw [Swift.between?, hprefix]
      rfl
    rw [Bool.not_eq_true] at hvarying
    rw [Widened.ofPiece, hnone, hvarying]
    simp only [String.ofList_toList]

theorem comma_not_mem_acceleratedPiece (a : Argument) : ',' ∉ a.acceleratedPiece.toList := by
  have hname : ',' ∉ a.name.text.toList := a.not_mem_name
  unfold acceleratedPiece
  split
  · exact not_mem_append (not_mem_append (by decide) hname) (by decide)
  · exact hname

/-- Declarations for a vector of a width show arguments as they are, with the types that they have of
their own. -/
theorem declared_vector_injective (precision : Precision) (width : Int) :
    Function.Injective fun a : Argument => a.declared (Target.vector precision width).typeName := by
  intro a b h
  obtain ⟨hlabel, hname, htype⟩ := (Parameter.mk.injEq ..).mp h
  have hl : a.label = b.label :=
    Option.map_injective (fun _ _ => Identifier.text_injective) hlabel
  have hn : a.name = b.name := Identifier.text_injective hname
  have ht : a.fixedType = b.fixedType := by
    unfold typeIn fixedTypeName at htype
    cases ha : a.fixedType with
    | none =>
      cases hb : b.fixedType with
      | none => rfl
      | some type =>
        rw [ha, hb] at htype
        exact absurd htype.symm (type.text_ne_vector_typeName precision width)
    | some type =>
      cases hb : b.fixedType with
      | none =>
        rw [ha, hb] at htype
        exact absurd htype (type.text_ne_vector_typeName precision width)
      | some other =>
        rw [ha, hb] at htype
        rw [Identifier.text_injective htype]
  obtain ⟨name, label, fixedType⟩ := a
  exact (Argument.mk.injEq ..).mpr ⟨hn, hl, ht⟩

end Argument

namespace Overload

open Signature

theorem map_ofPiece_parameters (o : Overload) (t : Target) :
    (pieces (o.parameters t.typeName).toList).map Parameter.ofPiece =
      o.arguments.map (·.declared t.typeName) := by
  rw [pieces_parameters o (t.not_mem_typeName (by decide)), List.map_map]
  exact List.map_congr_left fun a _ => a.ofPiece_parameter t.typeName

theorem map_ofPiece_callArguments (o : Overload) (indexed : Bool) :
    (pieces (o.callArguments indexed).toList).map Passed.ofPiece =
      o.arguments.map (·.passed indexed) := by
  rw [pieces_callArguments, List.map_map]
  exact List.map_congr_left fun a _ => a.ofPiece_callPiece indexed

theorem map_ofPiece_acceleratedArguments (o : Overload) :
    (pieces o.acceleratedArguments.toList).map Widened.ofPiece = o.arguments.map (·.widened) := by
  have hpieces : pieces o.acceleratedArguments.toList =
      o.arguments.map fun a => a.acceleratedPiece.toList := by
    rw [acceleratedArguments, pieces_commaSeparated, List.map_map]
    · rfl
    · simpa using o.arguments_ne_nil
    · intro item hi
      obtain ⟨a, -, rfl⟩ := List.mem_map.1 hi
      exact a.comma_not_mem_acceleratedPiece
  rw [hpieces, List.map_map]
  exact List.map_congr_left fun a _ => a.ofPiece_acceleratedPiece

/-- A declaration shows the name and the parameters, each as it is. -/
theorem declaration_eq_iff (a b : Overload) (typeName : String) :
    a.declaration typeName = b.declaration typeName ↔
      a.name = b.name ∧ a.parameters typeName = b.parameters typeName := by
  constructor
  · intro h
    have htext := congrArg String.toList h
    rw [toList_declaration, toList_declaration, List.append_cancel_left_eq,
      append_cons_inj a.parenthesis_not_mem_name b.parenthesis_not_mem_name] at htext
    obtain ⟨hname, hparameters⟩ := htext
    exact ⟨Identifier.text_injective (String.toList_injective hname),
      String.toList_injective (List.append_cancel_right hparameters)⟩
  · rintro ⟨hname, hparameters⟩
    unfold declaration
    rw [hname, hparameters]

/-- Overloads with one declaration for a vector of a width have one name and the same arguments. -/
theorem declaration_vector_eq_iff (a b : Overload) (precision : Precision) (width : Int) :
    a.declaration (Target.vector precision width).typeName =
        b.declaration (Target.vector precision width).typeName ↔
      a.name = b.name ∧ a.arguments = b.arguments := by
  have hinjective := Argument.declared_vector_injective precision width
  have ha := a.map_ofPiece_parameters (.vector precision width)
  have hb := b.map_ofPiece_parameters (.vector precision width)
  rw [declaration_eq_iff]
  constructor
  · rintro ⟨hname, hparameters⟩
    rw [hparameters, hb] at ha
    exact ⟨hname, List.map_injective_iff.2 hinjective ha.symm⟩
  · rintro ⟨hname, harguments⟩
    rw [parameters, parameters, harguments]
    exact ⟨hname, rfl⟩

/-- Between the separators of a declaration, of a call for a lane and of an accelerated call stand the
arguments, one after another, each as it should be shown. So overloads with one declaration for a
vector of a width have one name and the same arguments. -/
theorem arguments_read_back (o : Overload) (t : Target) :
    (pieces (o.parameters t.typeName).toList).map Parameter.ofPiece =
      o.arguments.map (·.declared t.typeName) ∧
    (pieces (o.callArguments true).toList).map Passed.ofPiece = o.arguments.map (·.passed true) ∧
    (pieces o.acceleratedArguments.toList).map Widened.ofPiece = o.arguments.map (·.widened) ∧
    ∀ (other : Overload) (precision : Precision) (width : Int),
      o.declaration (Target.vector precision width).typeName =
          other.declaration (Target.vector precision width).typeName ↔
        o.name = other.name ∧ o.arguments = other.arguments :=
  ⟨o.map_ofPiece_parameters t, o.map_ofPiece_callArguments true,
    o.map_ofPiece_acceleratedArguments, o.declaration_vector_eq_iff⟩

end Overload

end Lanewise
