import Lanewise.Proofs.Overload.Declaration
import Lanewise.Swift.Source

/-!
# Brackets that nest

The parentheses and braces of a text nest when each that closes is of the kind of the innermost one
that is open. A text is balanced when they nest and none is left open. A balanced text leaves open
what was open before it, so that balanced texts may stand one after another, between brackets, and
line by line in the body of a block.
-/

namespace Lanewise

namespace Swift

/-- A kind of brackets. -/
inductive Bracket where
  | parenthesis
  | brace
deriving DecidableEq, Repr

namespace Bracket

/-- The open brackets, the innermost first, after one of a kind is closed. -/
def close (b : Bracket) : List Bracket → Option (List Bracket)
  | [] => none
  | innermost :: outer => if innermost = b then some outer else none

/-- The open brackets after one more character, unless that closes one that is not the innermost. -/
def after (opened : List Bracket) (c : Char) : Option (List Bracket) :=
  if c = '(' then some (parenthesis :: opened)
  else if c = '\x7b' then some (brace :: opened)
  else if c = ')' then parenthesis.close opened
  else if c = '\x7d' then brace.close opened
  else some opened

/-- The characters that are brackets. -/
def marks : List Char :=
  ['(', ')', '\x7b', '\x7d']

end Bracket

/-- The brackets that are open after a text, unless they do not nest. -/
def openAfter (opened : List Bracket) (text : List Char) : Option (List Bracket) :=
  text.foldlM Bracket.after opened

/-- A text in which brackets nest and are all closed at the end. -/
def IsBalanced (text : List Char) : Prop :=
  openAfter [] text = some []

instance (text : List Char) : Decidable (IsBalanced text) :=
  inferInstanceAs (Decidable (openAfter [] text = some []))

/-- A text without brackets. -/
def Unbracketed (text : List Char) : Prop :=
  ∀ c ∈ text, c ∉ Bracket.marks

instance (text : List Char) : Decidable (Unbracketed text) :=
  List.decidableBAll _ text

section

variable {a b : List Char}

theorem openAfter_append (opened : List Bracket) (a b : List Char) :
    openAfter opened (a ++ b) = (openAfter opened a).bind fun opened' => openAfter opened' b :=
  List.foldlM_append

theorem openAfter_cons (opened : List Bracket) (c : Char) (rest : List Char) :
    openAfter opened (c :: rest) =
      (Bracket.after opened c).bind fun opened' => openAfter opened' rest :=
  List.foldlM_cons

/-- What a text leaves open stays open for the next one. -/
theorem openAfter_text_append {a b : String} {opened between opened' : List Bracket}
    (ha : openAfter opened a.toList = some between)
    (hb : openAfter between b.toList = some opened') :
    openAfter opened (a ++ b).toList = some opened' := by
  rw [String.toList_append, openAfter_append, ha, Option.bind_some, hb]

theorem Unbracketed.openAfter (h : Unbracketed a) (opened : List Bracket) :
    openAfter opened a = some opened := by
  induction a with
  | nil => rfl
  | cons c rest ih =>
    rw [Unbracketed, List.forall_mem_cons] at h
    obtain ⟨hc, hrest⟩ := h
    simp only [Bracket.marks, List.mem_cons, List.not_mem_nil, or_false, not_or] at hc
    have hafter : Bracket.after opened c = some opened := by simp [Bracket.after, hc]
    rw [openAfter_cons, hafter, Option.bind_some, ih hrest]

theorem Unbracketed.text_append {a b : String} (ha : Unbracketed a.toList)
    (hb : Unbracketed b.toList) : Unbracketed (a ++ b).toList := by
  rw [Unbracketed, String.toList_append, List.forall_mem_append]
  exact ⟨ha, hb⟩

theorem Unbracketed.balanced (h : Unbracketed a) : IsBalanced a :=
  h.openAfter []

theorem Bracket.close_append {b : Bracket} {opened opened' : List Bracket}
    (h : b.close opened = some opened') (outer : List Bracket) :
    b.close (opened ++ outer) = some (opened' ++ outer) := by
  cases opened with
  | nil => cases h
  | cons innermost rest =>
    rw [close] at h
    split at h
    · rename_i heq
      rw [List.cons_append, close, if_pos heq, Option.some.inj h]
    · cases h

theorem Bracket.after_append {opened opened' : List Bracket} {c : Char}
    (h : after opened c = some opened') (outer : List Bracket) :
    after (opened ++ outer) c = some (opened' ++ outer) := by
  unfold after at h ⊢
  split_ifs at h ⊢
  · rw [← Option.some.inj h, List.cons_append]
  · rw [← Option.some.inj h, List.cons_append]
  · exact close_append h outer
  · exact close_append h outer
  · rw [Option.some.inj h]

/-- What is open outside of a text stays as it is. -/
theorem openAfter_outer {opened opened' : List Bracket} (h : openAfter opened a = some opened')
    (outer : List Bracket) : openAfter (opened ++ outer) a = some (opened' ++ outer) := by
  induction a generalizing opened with
  | nil =>
    obtain rfl : opened = opened' := Option.some.inj h
    rfl
  | cons c rest ih =>
    rw [openAfter_cons, Option.bind_eq_some_iff] at h
    obtain ⟨between, hc, hrest⟩ := h
    rw [openAfter_cons, Bracket.after_append hc, Option.bind_some, ih hrest]

namespace IsBalanced

/-- A balanced text leaves open what was open before it. -/
theorem openAfter (h : IsBalanced a) (opened : List Bracket) :
    openAfter opened a = some opened :=
  openAfter_outer h opened

theorem append (ha : IsBalanced a) (hb : IsBalanced b) : IsBalanced (a ++ b) := by
  rw [IsBalanced, openAfter_append, ha.openAfter, Option.bind_some, hb]

theorem text_append {a b : String} (ha : IsBalanced a.toList) (hb : IsBalanced b.toList) :
    IsBalanced (a ++ b).toList := by
  rw [String.toList_append]
  exact ha.append hb

theorem commaSeparated {items : List String} (h : ∀ item ∈ items, IsBalanced item.toList) :
    IsBalanced (Text.commaSeparated items).toList := by
  have hcomma : IsBalanced ", ".toList := by decide
  exact Text.commaSeparated_closed (P := fun text => IsBalanced text.toList) rfl
    (fun ha hb => text_append (text_append ha hcomma) hb) h

/-- Arguments stand in parentheses behind a name. -/
theorem call {name arguments : String} (hname : IsBalanced name.toList)
    (harguments : IsBalanced arguments.toList) :
    IsBalanced (name ++ "(" ++ arguments ++ ")").toList := by
  have hopen : Swift.openAfter [] (name ++ "(").toList = some [.parenthesis] :=
    openAfter_text_append hname rfl
  have hinside : Swift.openAfter [] (name ++ "(" ++ arguments).toList = some [.parenthesis] :=
    openAfter_text_append hopen (harguments.openAfter _)
  exact openAfter_text_append hinside rfl

theorem parenthesized {items : List String} (h : ∀ item ∈ items, IsBalanced item.toList) :
    IsBalanced (Text.parenthesized items).toList := by
  have hcall : IsBalanced ("" ++ "(" ++ Text.commaSeparated items ++ ")").toList :=
    call rfl (commaSeparated h)
  rwa [String.empty_append] at hcall

end IsBalanced

end

/-! ## Lines -/

/-- The text of some lines, with a line feed behind each. -/
def rows (lines : List String) : List Char :=
  lines.flatMap fun line => line.toList ++ ['\n']

section

variable {lines : List String}

theorem rows_nil : rows [] = [] := rfl

theorem rows_cons (line : String) (rest : List String) :
    rows (line :: rest) = line.toList ++ '\n' :: rows rest := by
  rw [rows, List.flatMap_cons, List.append_assoc]
  rfl

theorem rows_append (a b : List String) : rows (a ++ b) = rows a ++ rows b :=
  List.flatMap_append

theorem openAfter_rows_cons (opened : List Bracket) (line : String) (rest : List String) :
    openAfter opened (rows (line :: rest)) =
      (openAfter opened line.toList).bind fun opened' => openAfter opened' (rows rest) := by
  have hfeed : ∀ opened' : List Bracket,
      openAfter opened' ('\n' :: rows rest) = openAfter opened' (rows rest) := fun _ => rfl
  rw [rows_cons, openAfter_append]
  simp only [hfeed]

theorem IsBalanced.rows (h : ∀ line ∈ lines, IsBalanced line.toList) : IsBalanced (rows lines) := by
  induction lines with
  | nil => rfl
  | cons line rest ih =>
    rw [List.forall_mem_cons] at h
    rw [IsBalanced, openAfter_rows_cons, h.1.openAfter, Option.bind_some]
    exact ih h.2

theorem IsBalanced.rows_append {a b : List String} (ha : IsBalanced (Swift.rows a))
    (hb : IsBalanced (Swift.rows b)) : IsBalanced (Swift.rows (a ++ b)) := by
  rw [Swift.rows_append]
  exact ha.append hb

/-- Margins do not count. -/
theorem openAfter_rows_indented {margin : String} (hmargin : Unbracketed margin.toList)
    (opened : List Bracket) (lines : List String) :
    openAfter opened (rows (indented margin lines)) = openAfter opened (rows lines) := by
  induction lines generalizing opened with
  | nil => rfl
  | cons line rest ih =>
    have hcons : indented margin (line :: rest) = (margin ++ line) :: indented margin rest := rfl
    rw [hcons, openAfter_rows_cons, openAfter_rows_cons, String.toList_append, openAfter_append,
      hmargin.openAfter, Option.bind_some]
    simp only [ih]

/-- A block is balanced when its head and its body are. -/
theorem IsBalanced.block {margin head : String} {body : List String}
    (hmargin : Unbracketed margin.toList) (hhead : IsBalanced head.toList)
    (hbody : IsBalanced (Swift.rows body)) : IsBalanced (Swift.rows (block margin head body)) := by
  have hopen : Swift.openAfter [] (margin ++ head ++ " \x7b").toList = some [.brace] := by
    rw [String.toList_append, openAfter_append,
      (text_append hmargin.balanced hhead).openAfter, Option.bind_some]
    rfl
  have hclose : Swift.openAfter [.brace] (margin ++ "\x7d").toList = some [] := by
    rw [String.toList_append, openAfter_append, hmargin.openAfter, Option.bind_some]
    rfl
  rw [Swift.block, List.append_assoc, List.singleton_append, IsBalanced, openAfter_rows_cons, hopen,
    Option.bind_some, Swift.rows_append, openAfter_append, hbody.openAfter, Option.bind_some,
    openAfter_rows_cons, hclose]
  rfl

end

end Swift

end Lanewise
