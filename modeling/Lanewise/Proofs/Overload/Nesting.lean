import Lanewise.Derivative
import Lanewise.Proofs.Swift.Bracket

/-!
# Brackets in signatures and calls

Neither identifiers nor the names of targets have brackets. So the brackets of a signature or a call
are those that are written around the arguments, and they are balanced.
-/

namespace Lanewise

open Swift

theorem Identifier.unbracketed_of_accepts {cs : List Char} (h : accepts cs = true) :
    Unbracketed cs := by
  intro c hc hmark
  have hmarks : Bracket.marks.all (fun d => !isTail d && d != '\n') = true := rfl
  have hno := List.all_eq_true.1 hmarks c hmark
  rw [Bool.and_eq_true, Bool.not_eq_true', bne_iff_ne] at hno
  exact not_mem_of_isTail_eq_false h hno.1 hno.2 hc

theorem Identifier.balanced (i : Identifier) : IsBalanced i.text.toList :=
  (unbracketed_of_accepts i.valid).balanced

theorem Target.unbracketed_typeName (t : Target) : Unbracketed t.typeName.toList := by
  intro c hc hmark
  have hmarks : Bracket.marks.all (fun d => !isTargetChar d) = true := rfl
  have hno := List.all_eq_true.1 hmarks c hmark
  exact t.not_mem_typeName (Bool.not_eq_true' _ ▸ hno) hc

theorem Target.balanced_typeName (t : Target) : IsBalanced t.typeName.toList :=
  t.unbracketed_typeName.balanced

namespace Argument

theorem balanced_parameter (a : Argument) (t : Target) :
    IsBalanced (a.parameter t.typeName).toList := by
  have hcolon : IsBalanced ": ".toList := by decide
  have hblank : IsBalanced " ".toList := by decide
  have htype : IsBalanced (a.typeIn t.typeName).toList := by
    unfold typeIn fixedTypeName
    cases a.fixedType with
    | none => exact t.balanced_typeName
    | some fixed => exact fixed.balanced
  have htyped : IsBalanced (a.name.text ++ ": " ++ a.typeIn t.typeName).toList :=
    (a.name.balanced.text_append hcolon).text_append htype
  unfold parameter
  cases a.label with
  | none => exact htyped
  | some label => exact (label.balanced.text_append hblank).text_append htyped

theorem balanced_callPiece (a : Argument) (indexed : Bool) :
    IsBalanced (a.callPiece indexed).toList := by
  have hindex : IsBalanced "[i]".toList := by decide
  have hcolon : IsBalanced ": ".toList := by decide
  have hvalue : IsBalanced (a.value indexed).toList := by
    unfold value
    split
    · exact a.name.balanced.text_append hindex
    · exact a.name.balanced
  unfold callPiece
  split
  · exact hvalue
  · exact ((Identifier.balanced _).text_append hcolon).text_append hvalue

theorem balanced_acceleratedPiece (a : Argument) : IsBalanced a.acceleratedPiece.toList := by
  unfold acceleratedPiece
  split
  · have hopen : openAfter [] (".init(repeating: .init(" ++ a.name.text).toList =
        some [.parenthesis, .parenthesis] :=
      openAfter_text_append rfl (a.name.balanced.openAfter _)
    exact openAfter_text_append hopen rfl
  · exact a.name.balanced

end Argument

namespace Overload

variable (o : Overload)

theorem balanced_parameters (t : Target) : IsBalanced (o.parameters t.typeName).toList := by
  refine IsBalanced.commaSeparated fun item hi => ?_
  obtain ⟨a, -, rfl⟩ := List.mem_map.1 hi
  exact a.balanced_parameter t

theorem balanced_declaration (t : Target) : IsBalanced (o.declaration t.typeName).toList := by
  have hfunc : IsBalanced "public static func ".toList := by decide
  have hopen : openAfter [] ("public static func " ++ o.name.text ++ "(").toList =
      some [.parenthesis] :=
    openAfter_text_append (hfunc.text_append o.name.balanced) rfl
  have hparameters := openAfter_text_append hopen ((o.balanced_parameters t).openAfter _)
  exact openAfter_text_append (openAfter_text_append hparameters rfl) t.balanced_typeName

theorem balanced_call (indexed : Bool) {qualifier : String} (hq : IsBalanced qualifier.toList) :
    IsBalanced (o.call indexed qualifier).toList := by
  have harguments : IsBalanced (o.callArguments indexed).toList := by
    refine IsBalanced.commaSeparated fun item hi => ?_
    obtain ⟨a, -, rfl⟩ := List.mem_map.1 hi
    exact a.balanced_callPiece indexed
  exact (hq.text_append o.name.balanced).call harguments

theorem balanced_acceleratedCall (i : Identifier) :
    IsBalanced (o.acceleratedCall i.text).toList := by
  have hsimd : IsBalanced "simd.".toList := by decide
  have harguments : IsBalanced o.acceleratedArguments.toList := by
    refine IsBalanced.commaSeparated fun item hi => ?_
    obtain ⟨a, -, rfl⟩ := List.mem_map.1 hi
    exact a.balanced_acceleratedPiece
  exact (hsimd.text_append i.balanced).call harguments

/-! ## Registrations -/

/-- The name of a registration is an identifier again. -/
theorem accepts_registrationName : Identifier.accepts o.registrationName.toList = true := by
  obtain ⟨c, cs, hcs, hhead, hcompletes⟩ := o.name.exists_eq_cons
  have hupper : Identifier.isTail c.toUpper = true :=
    Identifier.isTail_toUpper (Identifier.isTail_of_isHead hhead)
  have hname : Identifier.completes (c.toUpper :: cs) = true := by
    simp [Identifier.completes, hupper, hcompletes]
  have hvjp : ∀ d ∈ ['v', 'j', 'p'], Identifier.isTail d = true :=
    List.all_eq_true.1 (rfl : ['v', 'j', 'p'].all Identifier.isTail = true)
  have hrest := (Identifier.completes_append (List.cons_ne_nil c.toUpper cs)).2 ⟨hvjp, hname⟩
  have htext : o.registrationName.toList = '_' :: (['v', 'j', 'p'] ++ c.toUpper :: cs) := by
    rw [registrationName, hcs, List.modifyHead_cons, String.toList_append, String.toList_ofList,
      String.toList_ofList]
    rfl
  rw [htext, Identifier.accepts, hrest]
  rfl

/-- The name of a registration. -/
def registrationIdentifier : Identifier :=
  ⟨o.registrationName, o.accepts_registrationName⟩

theorem balanced_cotangentType (t : Target) : IsBalanced (o.cotangentType t.typeName).toList := by
  unfold cotangentType
  split
  · exact t.balanced_typeName
  · refine IsBalanced.parenthesized fun item hi => ?_
    obtain ⟨a, -, rfl⟩ := List.mem_map.1 hi
    exact t.balanced_typeName

theorem balanced_head (t : Target) : IsBalanced (Derivative.head o t.typeName).toList := by
  have hfunc : IsBalanced "public static func ".toList := by decide
  have hname := hfunc.text_append o.registrationIdentifier.balanced
  have hopen : openAfter [] ("public static func " ++ o.registrationName ++ "(").toList =
      some [.parenthesis] := openAfter_text_append hname rfl
  have hparameters := openAfter_text_append hopen ((o.balanced_parameters t).openAfter _)
  have hresult := openAfter_text_append hparameters
    (rfl : openAfter [.parenthesis] ") -> (value: ".toList = some [.parenthesis])
  have hvalue := openAfter_text_append hresult (t.balanced_typeName.openAfter _)
  have hpullback := openAfter_text_append hvalue (rfl : openAfter [.parenthesis]
    ", pullback: (".toList = some [.parenthesis, .parenthesis])
  have hcotangent := openAfter_text_append hpullback (t.balanced_typeName.openAfter _)
  have harrow := openAfter_text_append hcotangent
    (rfl : openAfter [.parenthesis, .parenthesis] ") -> ".toList = some [.parenthesis])
  have htype := openAfter_text_append harrow ((o.balanced_cotangentType t).openAfter _)
  exact openAfter_text_append htype rfl

/-- The texts of registrations hold what signatures hold. -/
theorem signatureText_head (t : Target) : SignatureText (Derivative.head o t.typeName) := by
  have hcotangent : SignatureText (o.cotangentType t.typeName) := by
    unfold cotangentType
    split
    · exact .typeName t
    · have hlist : SignatureText (Text.commaSeparated (o.varying.map fun _ => t.typeName)) := by
        refine .commaSeparated fun item hi => ?_
        obtain ⟨a, -, rfl⟩ := List.mem_map.1 hi
        exact .typeName t
      have hopen : SignatureText ("(" ++ Text.commaSeparated (o.varying.map fun _ => t.typeName)) :=
        hlist.before
      exact hopen.after
  have hname : SignatureText ("public static func " ++ o.registrationName) :=
    (SignatureText.identifier o.registrationIdentifier).before
  have hparameters : SignatureText ("public static func " ++ o.registrationName ++ "(" ++
      o.parameters t.typeName) := hname.join (.parameters o t)
  have hvalue : SignatureText ("public static func " ++ o.registrationName ++ "(" ++
      o.parameters t.typeName ++ ") -> (value: " ++ t.typeName) := hparameters.join (.typeName t)
  have hpullback : SignatureText ("public static func " ++ o.registrationName ++ "(" ++
      o.parameters t.typeName ++ ") -> (value: " ++ t.typeName ++ ", pullback: (" ++
      t.typeName) := hvalue.join (.typeName t)
  have hresult : SignatureText ("public static func " ++ o.registrationName ++ "(" ++
      o.parameters t.typeName ++ ") -> (value: " ++ t.typeName ++ ", pullback: (" ++
      t.typeName ++ ") -> " ++ o.cotangentType t.typeName) := hpullback.join hcotangent
  exact hresult.after

/-! ## References -/

/-- The labels of a selector. -/
theorem not_mem_labels {c : Char} (hc : Identifier.isTail c = false) (hn : c ≠ '\n')
    (hcolon : c ≠ ':') : c ∉ (String.join (o.labels.map (· ++ ":"))).toList := by
  intro hm
  rw [String.toList_join, List.mem_flatMap] at hm
  obtain ⟨text, ht, hm⟩ := hm
  obtain ⟨label, hl, rfl⟩ := List.mem_map.1 ht
  obtain ⟨a, -, rfl⟩ := List.mem_map.1 hl
  have hend : c ∉ ":".toList := fun h => hcolon (List.mem_singleton.1 h)
  exact not_mem_append (a.not_mem_externalName hc hn) hend hm

theorem balanced_reference (c : Catalog) : IsBalanced (c.reference o).toList := by
  have hlabels : Unbracketed (String.join (o.labels.map (· ++ ":"))).toList := by
    intro d hd hmark
    have hmarks : Bracket.marks.all (fun d => !Identifier.isTail d && d != '\n' && d != ':') =
        true := rfl
    have hno := List.all_eq_true.1 hmarks d hmark
    rw [Bool.and_eq_true, Bool.and_eq_true, Bool.not_eq_true', bne_iff_ne, bne_iff_ne] at hno
    exact o.not_mem_labels hno.1.1 hno.1.2 hno.2 hd
  unfold Catalog.reference
  split
  · exact o.name.balanced.call hlabels.balanced
  · exact o.name.balanced

/-- A reference has no marks but those of a selector. -/
theorem not_mem_reference (catalog : Catalog) {c : Char} (hc : Identifier.isTail c = false)
    (hn : c ≠ '\n') (hmarks : c ∉ ['(', ':', ')']) : c ∉ (catalog.reference o).toList := by
  simp only [List.mem_cons, List.not_mem_nil, or_false, not_or] at hmarks
  obtain ⟨hopen, hcolon, hclose⟩ := hmarks
  have hname : c ∉ o.name.text.toList := Identifier.not_mem_of_isTail_eq_false o.name.valid hc hn
  have hlabels := o.not_mem_labels hc hn hcolon
  unfold Catalog.reference
  split
  · have hfront : c ∉ (o.name.text ++ "(").toList :=
      not_mem_append hname fun h => hopen (List.mem_singleton.1 h)
    exact not_mem_append (not_mem_append hfront hlabels) fun h => hclose (List.mem_singleton.1 h)
  · exact hname

end Overload

end Lanewise
