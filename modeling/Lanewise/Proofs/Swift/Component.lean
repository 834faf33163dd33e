import Lanewise.Text.Listed
import Mathlib.Data.List.Basic
import Mathlib.Data.List.TakeWhile

/-!
# Ends and components of texts

What stands behind the start of a text, or between two ends of it, is read as it is. What is listed
with a comma and a blank from one item to the next is split again at the separators that stand outside
all parentheses. The items are found as they are when each of them is a component: its parentheses
match, and it has no comma outside of them. A single component stands for itself; several are listed
in parentheses.
-/

namespace Lanewise

namespace Swift

/-! ## Ends -/

/-- What stands between two ends of a text, if it has them. -/
def between? (opening closing text : List Char) : Option (List Char) :=
  (text.dropPrefix? opening).bind (·.dropSuffix? closing)

/-- What stands behind the start of a line, if the line starts so. -/
def behind? (start line : String) : Option String :=
  (line.toList.dropPrefix? start.toList).map String.ofList

/-- What stands between the ends of a line, if it has them. -/
def inside? (opening closing line : String) : Option String :=
  (between? opening.toList closing.toList line.toList).map String.ofList

theorem dropPrefix?_append (opening text : List Char) :
    (opening ++ text).dropPrefix? opening = some text :=
  List.dropPrefix?_append_of_beq text (BEq.refl opening)

theorem dropSuffix?_append (text closing : List Char) :
    (text ++ closing).dropSuffix? closing = some text :=
  List.dropSuffix?_eq_some_iff.2 ⟨closing, rfl, BEq.refl closing⟩

theorem between?_append (opening text closing : List Char) :
    between? opening closing (opening ++ (text ++ closing)) = some text := by
  rw [between?, dropPrefix?_append, Option.bind_some, dropSuffix?_append]

theorem behind?_append (start rest : String) : behind? start (start ++ rest) = some rest := by
  rw [behind?, String.toList_append, dropPrefix?_append, Option.map_some, String.ofList_toList]

theorem inside?_append (opening text closing : String) :
    inside? opening closing (opening ++ text ++ closing) = some text := by
  rw [inside?, String.toList_append, String.toList_append, List.append_assoc, between?_append,
    Option.map_some, String.ofList_toList]

/-- What follows with another character does not matter for what a text starts with. -/
theorem takeWhile_append_of_head? {p : Char → Bool} {rest : List Char}
    (hrest : rest.head?.any p = false) (text : List Char) :
    (text ++ rest).takeWhile p = text.takeWhile p := by
  induction text with
  | nil =>
    cases rest with
    | nil => rfl
    | cons c rest =>
      have hc : p c = false := hrest
      exact List.takeWhile_cons_of_neg (by simp [hc])
  | cons c text ih =>
    by_cases hc : p c = true
    · rw [List.cons_append, List.takeWhile_cons_of_pos hc, List.takeWhile_cons_of_pos hc, ih]
    · rw [List.cons_append, List.takeWhile_cons_of_neg hc, List.takeWhile_cons_of_neg hc]

/-- A run of characters ends where another character follows. -/
theorem span_append {p : Char → Bool} {run rest : List Char} (hrun : ∀ c ∈ run, p c = true)
    (hrest : rest.head?.any p = false) :
    (run ++ rest).takeWhile p = run ∧ (run ++ rest).dropWhile p = rest := by
  have htake : (run ++ rest).takeWhile p = run := by
    rw [takeWhile_append_of_head? hrest, List.takeWhile_eq_self_iff.2 hrun]
  have hwhole : (run ++ rest).takeWhile p ++ (run ++ rest).dropWhile p = run ++ rest :=
    List.takeWhile_append_dropWhile
  rw [htake] at hwhole
  exact ⟨htake, List.append_cancel_left hwhole⟩

/-! ## Components -/

/-- The depth in parentheses behind a character. -/
def depthAfter (depth : Nat) (c : Char) : Nat :=
  if c = '(' then depth + 1 else if c = ')' then depth - 1 else depth

/-- Whether parentheses match in the rest of a text that starts at a depth, all of them being closed
at the end, and no comma stands outside of them. -/
def isComponent (depth : Nat) : List Char → Bool
  | [] => depth == 0
  | c :: rest => !(depth == 0 && (c == ')' || c == ',')) && isComponent (depthAfter depth c) rest

/-- The stretches of a text between the separators outside all parentheses. -/
def splitOutside (depth : Nat) : List Char → List (List Char)
  | [] => [[]]
  | ',' :: ' ' :: rest =>
    if depth = 0 then [] :: splitOutside 0 rest
    else (splitOutside depth (' ' :: rest)).modifyHead (',' :: ·)
  | c :: rest => (splitOutside (depthAfter depth c) rest).modifyHead (c :: ·)

/-- The components of a text that shows so many of them: one without parentheses, several in
parentheses. -/
def components? (count : Nat) (text : String) : Option (List String) :=
  (if count = 1 then some text.toList else between? ['('] [')'] text.toList).map fun listed =>
    (splitOutside 0 listed).map String.ofList

variable {depth : Nat} {a b : List Char}

theorem isComponent_cons {c : Char} {rest : List Char} :
    isComponent depth (c :: rest) = true ↔
      ¬ (depth = 0 ∧ (c = ')' ∨ c = ',')) ∧ isComponent (depthAfter depth c) rest = true := by
  rw [isComponent, Bool.and_eq_true]
  exact and_congr_left fun _ => by simp [imp_iff_not_or]

/-- Inside of more parentheses a component closes what it opens, and no more. -/
theorem isComponent_append (ha : isComponent depth a = true) (outer : Nat) :
    isComponent (depth + outer) (a ++ b) = isComponent outer b := by
  induction a generalizing depth with
  | nil =>
    have hdepth : depth = 0 := by simpa [isComponent] using ha
    rw [hdepth, Nat.zero_add, List.nil_append]
  | cons c rest ih =>
    obtain ⟨hc, hrest⟩ := isComponent_cons.1 ha
    have hdepth : depthAfter (depth + outer) c = depthAfter depth c + outer := by
      unfold depthAfter
      split_ifs with hopen hclose
      · omega
      · have hpos : depth ≠ 0 := fun h => hc ⟨h, .inl hclose⟩
        omega
      · rfl
    have hmark : ¬ (depth + outer = 0 ∧ (c = ')' ∨ c = ',')) := by
      rintro ⟨hzero, h⟩
      exact hc ⟨by omega, h⟩
    rw [List.cons_append, Bool.eq_iff_iff, isComponent_cons, hdepth, ih hrest]
    exact and_iff_right hmark

theorem isComponent.append (ha : isComponent 0 a = true) (hb : isComponent 0 b = true) :
    isComponent 0 (a ++ b) = true := by
  rw [← hb]
  exact isComponent_append ha 0

/-- In parentheses a component is one again. -/
theorem isComponent.parenthesized (ha : isComponent 0 a = true) :
    isComponent 0 ('(' :: a ++ [')']) = true := by
  have hinside : isComponent (0 + 1) (a ++ [')']) = isComponent 1 [')'] := isComponent_append ha 1
  rw [List.cons_append, isComponent_cons]
  exact ⟨by decide, hinside.trans rfl⟩

theorem isComponent_of_not_mem (hopen : '(' ∉ a) (hclose : ')' ∉ a) (hcomma : ',' ∉ a) :
    isComponent 0 a = true := by
  induction a with
  | nil => rfl
  | cons c rest ih =>
    rw [List.mem_cons, not_or] at hopen hclose hcomma
    have hdepth : depthAfter 0 c = 0 := by
      rw [depthAfter, if_neg (Ne.symm hopen.1), if_neg (Ne.symm hclose.1)]
    rw [isComponent_cons, hdepth]
    refine ⟨?_, ih hopen.2 hclose.2 hcomma.2⟩
    rintro ⟨-, rfl | rfl⟩
    · exact hclose.1 rfl
    · exact hcomma.1 rfl

/-! ## Splitting -/

/-- Only a comma outside of parentheses may separate. -/
theorem splitOutside_cons {c : Char} (hc : ¬ (depth = 0 ∧ c = ',')) (rest : List Char) :
    splitOutside depth (c :: rest) =
      (splitOutside (depthAfter depth c) rest).modifyHead (c :: ·) := by
  by_cases hseparator : ∃ after, c = ',' ∧ rest = ' ' :: after
  · obtain ⟨after, rfl, rfl⟩ := hseparator
    rw [splitOutside, if_neg fun hdepth => hc ⟨hdepth, rfl⟩]
    rfl
  · rw [splitOutside]
    rintro after rfl rfl
    exact hseparator ⟨after, rfl, rfl⟩

/-- A component is not split. -/
theorem splitOutside_append (ha : isComponent depth a = true) :
    splitOutside depth (a ++ b) = (splitOutside 0 b).modifyHead (a ++ ·) := by
  induction a generalizing depth with
  | nil =>
    have hdepth : depth = 0 := by simpa [isComponent] using ha
    have hnothing : ([] ++ ·) = (id : List Char → List Char) := rfl
    rw [hdepth, hnothing, List.modifyHead_id]
    rfl
  | cons c rest ih =>
    obtain ⟨hc, hrest⟩ := isComponent_cons.1 ha
    have hcomma : ¬ (depth = 0 ∧ c = ',') := fun h => hc ⟨h.1, .inr h.2⟩
    rw [List.cons_append, splitOutside_cons hcomma, ih hrest, List.modifyHead_modifyHead]
    rfl

/-- The items of a list are found again. -/
theorem splitOutside_commaSeparated {items : List String} (hne : items ≠ [])
    (h : ∀ item ∈ items, isComponent 0 item.toList = true) :
    splitOutside 0 (Text.commaSeparated items).toList = items.map String.toList := by
  unfold Text.commaSeparated
  induction items with
  | nil => exact absurd rfl hne
  | cons item rest ih =>
    rw [List.forall_mem_cons] at h
    cases rest with
    | nil =>
      have hend := splitOutside_append (b := []) h.1
      rw [List.append_nil] at hend
      rw [String.intercalate_singleton, hend]
      simp [splitOutside]
    | cons next rest =>
      have hseparator : ", ".toList = [',', ' '] := rfl
      rw [String.intercalate_cons_cons, String.toList_append, String.toList_append, hseparator,
        List.append_assoc, splitOutside_append h.1, List.cons_append, List.cons_append,
        List.nil_append, splitOutside, if_pos rfl, ih (by simp) h.2]
      simp

/-- One component is read as it stands. -/
theorem components?_one {item : String} (h : isComponent 0 item.toList = true) :
    components? 1 item = some [item] := by
  have hsplit := splitOutside_append (b := []) h
  rw [List.append_nil] at hsplit
  rw [components?, if_pos rfl, Option.map_some, hsplit]
  simp [splitOutside]

/-- Several components are read out of their parentheses. -/
theorem components?_parenthesized {items : List String} (hne : items ≠ [])
    (hlength : items.length ≠ 1) (h : ∀ item ∈ items, isComponent 0 item.toList = true) :
    components? items.length (Text.parenthesized items) = some items := by
  have hlist : (Text.parenthesized items).toList =
      ['('] ++ ((Text.commaSeparated items).toList ++ [')']) := by
    simp [Text.parenthesized, String.toList_append]
  have hitems : (items.map String.toList).map String.ofList = items := by simp
  rw [components?, if_neg hlength, hlist, between?_append, Option.map_some,
    splitOutside_commaSeparated hne h, hitems]

end Swift

end Lanewise
