import Lanewise.Proofs.Catalog.Registration
import Lanewise.Proofs.Overload.Signature
import Lanewise.Proofs.Swift.Component

/-!
# Reading declarations back

The text of a declaration shows the name of a function up to the first parenthesis and its
parameters between the parentheses, with a comma and a blank from one to the next. A parameter shows
its label first, and its type behind a colon. None of the marks is part of what stands between them,
so the name, the labels and the types are read back as they are. Those for a vector of a width tell
the overloads of a catalog apart, because the name of a vector type is the name of no other type.
-/

namespace Lanewise

/-- What tells a function from others in its extension: its name, the labels and the types of its
parameters. -/
structure Signature where
  name : String
  labels : List String
  types : List String
deriving DecidableEq, Repr

namespace Signature

/-- What declarations start with. -/
def opening : List Char :=
  "public static func ".toList

/-- The stretches of a text between its separators, which are a comma and a blank. -/
def pieces : List Char → List (List Char)
  | [] => [[]]
  | ',' :: ' ' :: rest => [] :: pieces rest
  | c :: rest => (pieces rest).modifyHead (c :: ·)

/-- The label of a parameter, which is its first word. -/
def label (piece : List Char) : String :=
  String.ofList (piece.takeWhile fun c => c ≠ ' ' ∧ c ≠ ':')

/-- The type of a parameter, which is what stands behind the colon and a blank. -/
def type (piece : List Char) : String :=
  String.ofList ((piece.dropWhile (· ≠ ':')).drop 2)

/-- The text between the parentheses, where the first one opens. -/
def inside (text : List Char) : List Char :=
  ((text.dropWhile (· ≠ '(')).drop 1).takeWhile (· ≠ ')')

/-- The signature of what stands behind the first words of a declaration. -/
def ofHead (text : List Char) : Signature where
  name := String.ofList (text.takeWhile (· ≠ '('))
  labels := (pieces (inside text)).map label
  types := (pieces (inside text)).map type

/-- The signature that a declaration shows. -/
def ofDeclaration? (text : String) : Option Signature :=
  if opening.isPrefixOf text.toList then some (ofHead (text.toList.drop opening.length)) else none

/-! ## Marks and what stands between them -/

/-- A text is read up to a mark that it does not have, and goes on with the mark. -/
theorem span_append_mark {mark : Char} {a : List Char} (h : mark ∉ a) (rest : List Char) :
    (a ++ mark :: rest).takeWhile (· ≠ mark) = a ∧
      (a ++ mark :: rest).dropWhile (· ≠ mark) = mark :: rest :=
  Swift.span_append (fun _ hc => decide_eq_true (ne_of_mem_of_not_mem hc h)) (by simp)

theorem takeWhile_append_mark {mark : Char} {a : List Char} (h : mark ∉ a) (rest : List Char) :
    (a ++ mark :: rest).takeWhile (· ≠ mark) = a :=
  (span_append_mark h rest).1

theorem dropWhile_append_mark {mark : Char} {a : List Char} (h : mark ∉ a) (rest : List Char) :
    (a ++ mark :: rest).dropWhile (· ≠ mark) = mark :: rest :=
  (span_append_mark h rest).2

theorem inside_append {name parameters : List Char} (hname : '(' ∉ name)
    (hparameters : ')' ∉ parameters) (rest : List Char) :
    inside (name ++ '(' :: (parameters ++ ')' :: rest)) = parameters := by
  rw [inside, dropWhile_append_mark hname, List.drop_succ_cons, List.drop_zero,
    takeWhile_append_mark hparameters]

theorem pieces_cons_of_ne {c : Char} (h : c ≠ ',') (rest : List Char) :
    pieces (c :: rest) = (pieces rest).modifyHead (c :: ·) := by
  rw [pieces]
  intro rest' hc
  exact absurd hc h

theorem pieces_append_separator {a : List Char} (h : ',' ∉ a) (rest : List Char) :
    pieces (a ++ ',' :: ' ' :: rest) = a :: pieces rest := by
  induction a with
  | nil => rfl
  | cons c a ih =>
    rw [List.mem_cons, not_or] at h
    rw [List.cons_append, pieces_cons_of_ne (Ne.symm h.1), ih h.2, List.modifyHead_cons]

theorem pieces_of_not_mem {a : List Char} (h : ',' ∉ a) : pieces a = [a] := by
  induction a with
  | nil => rfl
  | cons c a ih =>
    rw [List.mem_cons, not_or] at h
    rw [pieces_cons_of_ne (Ne.symm h.1), ih h.2, List.modifyHead_cons]

/-- What is separated by commas is found again, if it has none itself. -/
theorem pieces_commaSeparated {items : List String} (hne : items ≠ [])
    (h : ∀ item ∈ items, ',' ∉ item.toList) :
    pieces (Text.commaSeparated items).toList = items.map String.toList := by
  unfold Text.commaSeparated
  induction items with
  | nil => exact absurd rfl hne
  | cons item rest ih =>
    rw [List.forall_mem_cons] at h
    cases rest with
    | nil =>
      rw [String.intercalate_singleton, pieces_of_not_mem h.1]
      rfl
    | cons next rest =>
      have hseparator : ", ".toList = [',', ' '] := rfl
      rw [String.intercalate_cons_cons, String.toList_append, String.toList_append, hseparator,
        List.append_assoc, List.cons_append, List.singleton_append, pieces_append_separator h.1,
        ih (by simp) h.2]
      rfl

end Signature

/-! ## Parameters -/

/-- The characters of the names of targets. -/
def isTargetChar (c : Char) : Bool :=
  Identifier.isTail c || "<>-".toList.contains c

theorem Target.all_isTargetChar_typeName (t : Target) :
    t.typeName.toList.all isTargetChar = true := by
  have hprecision : ∀ precision : Precision,
      precision.typeName.toList.all isTargetChar = true := by
    intro precision
    cases precision <;> decide
  cases t with
  | generic => decide
  | scalar precision => exact hprecision precision
  | vector precision width =>
    have hwidth : (toString width).toList.all isTargetChar = true := by
      rw [List.all_eq_true]
      intro c hc
      rcases isDigit_or_eq_of_mem_toString hc with hd | rfl
      · simp [isTargetChar, Identifier.isTail, Char.isAlphanum, hd]
      · decide
    rw [typeName]
    simp only [String.toList_append, List.all_append, hwidth, hprecision]
    decide

theorem Target.not_mem_typeName (t : Target) {c : Char} (hc : isTargetChar c = false) :
    c ∉ t.typeName.toList := by
  intro hm
  rw [List.all_eq_true.1 t.all_isTargetChar_typeName c hm] at hc
  cases hc

namespace Argument

variable {typeName : String}

theorem not_mem_typeIn (a : Argument) {c : Char} (hc : Identifier.isTail c = false)
    (hn : c ≠ '\n') (htype : c ∉ typeName.toList) : c ∉ (a.typeIn typeName).toList := by
  unfold typeIn fixedTypeName
  cases a.fixedType with
  | none => exact htype
  | some fixed => exact Identifier.not_mem_of_isTail_eq_false fixed.valid hc hn

/-- What stands between the label and the colon: nothing, or the name if it is not the label. -/
def behindLabel (a : Argument) : List Char :=
  a.label.elim [] fun _ => ' ' :: a.name.text.toList

theorem toList_parameter (a : Argument) (typeName : String) :
    (a.parameter typeName).toList =
      a.externalName.toList ++ a.behindLabel ++ ':' :: ' ' :: (a.typeIn typeName).toList := by
  unfold parameter externalName behindLabel
  cases a.label <;> simp [String.toList_append]

theorem not_mem_front (a : Argument) {c : Char} (hc : Identifier.isTail c = false)
    (hn : c ≠ '\n') (hblank : c ≠ ' ') : c ∉ a.externalName.toList ++ a.behindLabel := by
  have hname : c ∉ a.name.text.toList := Identifier.not_mem_of_isTail_eq_false a.name.valid hc hn
  rw [List.mem_append]
  rintro (h | h)
  · exact a.not_mem_externalName hc hn h
  · unfold behindLabel at h
    cases hl : a.label with
    | none => simp [hl] at h
    | some label =>
      rw [hl, Option.elim_some, List.mem_cons] at h
      exact h.elim hblank hname

/-- No mark is in a parameter but those that a reader of parameters goes by. -/
theorem not_mem_parameter (a : Argument) {c : Char} (hc : Identifier.isTail c = false)
    (hn : c ≠ '\n') (hmarks : c ∉ [' ', ':']) (htype : c ∉ typeName.toList) :
    c ∉ (a.parameter typeName).toList := by
  rw [List.mem_cons, List.mem_singleton, not_or] at hmarks
  rw [toList_parameter, List.mem_append, List.mem_cons, List.mem_cons]
  rintro (h | h | h | h)
  · exact a.not_mem_front hc hn hmarks.1 h
  · exact hmarks.2 h
  · exact hmarks.1 h
  · exact a.not_mem_typeIn hc hn htype h

/-- The label of a parameter is read back. -/
theorem label_parameter (a : Argument) (typeName : String) :
    Signature.label (a.parameter typeName).toList = a.externalName := by
  have hword : ∀ c ∈ a.externalName.toList, decide (c ≠ ' ' ∧ c ≠ ':') = true := by
    intro c hc
    rw [decide_eq_true_eq]
    constructor
    · exact ne_of_mem_of_not_mem hc (a.not_mem_externalName (by decide) (by decide))
    · exact ne_of_mem_of_not_mem hc (a.not_mem_externalName (by decide) (by decide))
  have hrest : (a.behindLabel ++ ':' :: ' ' :: (a.typeIn typeName).toList).takeWhile
      (fun c => decide (c ≠ ' ' ∧ c ≠ ':')) = [] := by
    unfold behindLabel
    cases a.label <;> simp
  rw [Signature.label, toList_parameter, List.append_assoc, List.takeWhile_append_of_pos hword,
    hrest, List.append_nil, String.ofList_toList]

/-- The type of a parameter is read back. -/
theorem type_parameter (a : Argument) (typeName : String) :
    Signature.type (a.parameter typeName).toList = a.typeIn typeName := by
  have hfront : ':' ∉ a.externalName.toList ++ a.behindLabel :=
    a.not_mem_front (by decide) (by decide) (by decide)
  rw [Signature.type, toList_parameter, Signature.dropWhile_append_mark hfront, List.drop_succ_cons,
    List.drop_succ_cons, List.drop_zero, String.ofList_toList]

end Argument

/-! ## Declarations -/

namespace Overload

/-- The signature of an overload in the extension of a type. -/
def signature (o : Overload) (typeName : String) : Signature where
  name := o.name.text
  labels := o.labels
  types := o.arguments.map (·.typeIn typeName)

theorem arguments_ne_nil (o : Overload) : o.arguments ≠ [] := by
  intro h
  obtain ⟨first, hfirst, -⟩ := o.head_varying
  rw [h] at hfirst
  cases hfirst

theorem pieces_parameters (o : Overload) {typeName : String} (h : ',' ∉ typeName.toList) :
    Signature.pieces (o.parameters typeName).toList =
      o.arguments.map fun a => (a.parameter typeName).toList := by
  unfold parameters
  rw [Signature.pieces_commaSeparated, List.map_map]
  · rfl
  · simpa using o.arguments_ne_nil
  · intro item hi
    obtain ⟨a, -, rfl⟩ := List.mem_map.1 hi
    exact a.not_mem_parameter (by decide) (by decide) (by decide) h

theorem not_mem_parameters (o : Overload) {typeName : String} {c : Char}
    (hc : Identifier.isTail c = false) (hn : c ≠ '\n') (hmarks : c ∉ [' ', ':', ','])
    (htype : c ∉ typeName.toList) : c ∉ (o.parameters typeName).toList := by
  simp only [List.mem_cons, List.not_mem_nil, or_false, not_or] at hmarks
  obtain ⟨hblank, hcolon, hcomma⟩ := hmarks
  have hseparator : c ∉ ", ".toList := by
    intro hm
    rcases List.mem_cons.1 hm with rfl | hm
    · exact hcomma rfl
    · exact hblank (List.mem_singleton.1 hm)
  refine Text.commaSeparated_closed (P := fun text => c ∉ text.toList) (by simp) ?_ ?_
  · intro a b ha hb
    exact not_mem_append (not_mem_append ha hseparator) hb
  · intro item hi
    obtain ⟨a, -, rfl⟩ := List.mem_map.1 hi
    exact a.not_mem_parameter hc hn (by simp [hblank, hcolon]) htype

theorem toList_declaration (o : Overload) (typeName : String) :
    (o.declaration typeName).toList = Signature.opening ++ (o.name.text.toList ++
      '(' :: ((o.parameters typeName).toList ++ ')' :: (" -> ".toList ++ typeName.toList))) := by
  have hopen : "(".toList = ['('] := rfl
  have hclose : ") -> ".toList = ')' :: " -> ".toList := by decide
  have happend : ∀ {a b c d e f : String} {x y : Char} {g : List Char}, c.toList = [x] →
      e.toList = y :: g → (a ++ b ++ c ++ d ++ e ++ f).toList =
        a.toList ++ (b.toList ++ x :: (d.toList ++ y :: (g ++ f.toList))) := by
    intro a b c d e f x y g hc he
    simp only [String.toList_append, List.append_assoc, hc, he, List.cons_append,
      List.nil_append]
  exact happend hopen hclose

/-- The signature of an overload is what its declaration shows. -/
theorem ofDeclaration?_declaration (o : Overload) (t : Target) :
    Signature.ofDeclaration? (o.declaration t.typeName) = some (o.signature t.typeName) := by
  have hname : '(' ∉ o.name.text.toList :=
    Identifier.not_mem_of_isTail_eq_false o.name.valid (by decide) (by decide)
  have hparameters : ')' ∉ (o.parameters t.typeName).toList :=
    o.not_mem_parameters (by decide) (by decide) (by decide) (t.not_mem_typeName (by decide))
  have hcomma : ',' ∉ t.typeName.toList := t.not_mem_typeName (by decide)
  have hlabels : (o.arguments.map fun a => (a.parameter t.typeName).toList).map Signature.label =
      o.labels := by
    rw [List.map_map]
    exact List.map_congr_left fun a _ => a.label_parameter _
  have htypes : (o.arguments.map fun a => (a.parameter t.typeName).toList).map Signature.type =
      o.arguments.map (·.typeIn t.typeName) := by
    rw [List.map_map]
    exact List.map_congr_left fun a _ => a.type_parameter _
  have hprefix : Signature.opening.isPrefixOf (o.declaration t.typeName).toList = true := by
    rw [toList_declaration, List.isPrefixOf_iff_prefix]
    exact List.prefix_append _ _
  rw [Signature.ofDeclaration?, if_pos hprefix, toList_declaration, List.drop_left,
    Signature.ofHead, Signature.takeWhile_append_mark hname,
    Signature.inside_append hname hparameters, pieces_parameters o hcomma, hlabels, htypes,
    String.ofList_toList, signature]

end Overload

end Lanewise
