import Lanewise.Proofs.Swift.Conditional

/-!
# Reading the functions of extensions

The functions of an extension can be read back from a text: each starts with a line that declares
it, and the next line that closes a member ends it. The declaration is what stands before the first
brace.
-/

namespace Lanewise

namespace Swift

/-- A function of an extension as it stands in a text. -/
structure Member where
  declaration : String
  body : String
deriving DecidableEq, Repr

namespace Member

/-- What the first line of a function starts with. -/
def opening : List Char :=
  "    public static func ".toList

/-- The last line of a function. -/
def closing : List Char :=
  "    \x7d".toList

/-- The function of some lines, of which the closing one is left out. The declaration stands between
the margin and the blank before the brace, the body below that line. -/
def ofLines (lines : List (List Char)) : Member :=
  let text := ['\n'].intercalate lines
  { declaration := String.ofList (((text.takeWhile (· ≠ '\x7b')).drop 4).dropLast)
    body := String.ofList ((text.dropWhile (· ≠ '\x7b')).drop 2) }

/-- The lines of each function, behind those that were read of one already. -/
def groups : Option (List (List Char)) → List (List Char) → List (List (List Char))
  | _, [] => []
  | none, line :: rest =>
    if opening.isPrefixOf line then groups (some [line]) rest else groups none rest
  | some seen, line :: rest =>
    if line = closing then seen :: groups none rest else groups (some (seen ++ [line])) rest

/-- The functions of a text, in order. -/
def readAll (text : String) : List Member :=
  (groups none (textLines text)).map ofLines

theorem groups_none_append {lines : List (List Char)}
    (h : ∀ line ∈ lines, ¬ opening <+: line) (rest : List (List Char)) :
    groups none (lines ++ rest) = groups none rest := by
  induction lines with
  | nil => rfl
  | cons line lines ih =>
    rw [List.forall_mem_cons] at h
    rw [List.cons_append, groups, if_neg (by simpa using h.1), ih h.2]

theorem groups_some_append {lines : List (List Char)} (h : ∀ line ∈ lines, line ≠ closing)
    (seen rest : List (List Char)) :
    groups (some seen) (lines ++ closing :: rest) = (seen ++ lines) :: groups none rest := by
  induction lines generalizing seen with
  | nil => simp [groups]
  | cons line lines ih =>
    rw [List.forall_mem_cons] at h
    rw [List.cons_append, groups, if_neg h.1, ih h.2, List.append_assoc, List.singleton_append]

/-- A line that starts no function. It is looked at after its line feeds too. -/
def Outside (line : String) : Prop :=
  ∀ piece ∈ textLines line, ¬ opening <+: piece

theorem outside_of_not_prefix {line : String} (hfeed : '\n' ∉ line.toList)
    (h : ¬ opening <+: line.toList) : Outside line := by
  intro piece hp
  rw [textLines_of_not_mem hfeed, List.mem_singleton] at hp
  exact hp ▸ h

theorem groups_none_lines {lines : List String} (h : ∀ line ∈ lines, Outside line)
    (rest : List (List Char)) :
    groups none (lines.flatMap textLines ++ rest) = groups none rest := by
  refine groups_none_append (fun piece hp => ?_) rest
  obtain ⟨line, hl, hp⟩ := List.mem_flatMap.1 hp
  exact h line hl piece hp

/-- The lines of one function are read together. -/
theorem groups_function {first : List Char} {lines : List (List Char)} (hfirst : opening <+: first)
    (h : ∀ line ∈ lines, line ≠ closing) (rest : List (List Char)) :
    groups none (first :: lines ++ closing :: rest) = (first :: lines) :: groups none rest := by
  rw [List.cons_append, groups, if_pos (by simpa using hfirst), groups_some_append h,
    List.singleton_append]

/-- The first line of a text starts as the text does, up to a line feed. -/
theorem prefix_head_textLines {start : List Char} (hstart : '\n' ∉ start) {text : String}
    (h : start <+: text.toList) :
    ∃ first others, textLines text = first :: others ∧ start <+: first := by
  obtain ⟨rest, hrest⟩ := h
  rw [textLines, ← hrest]
  clear hrest
  induction start with
  | nil =>
    obtain ⟨first, others, hsplit⟩ := List.exists_cons_of_ne_nil (List.splitOn_ne_nil '\n' rest)
    exact ⟨first, others, hsplit, List.nil_prefix⟩
  | cons c start ih =>
    rw [List.mem_cons, not_or] at hstart
    obtain ⟨first, others, hsplit, hprefix⟩ := ih hstart.2
    refine ⟨c :: first, others, ?_, List.cons_prefix_cons.2 ⟨rfl, hprefix⟩⟩
    rw [List.cons_append, List.splitOn_cons_eq_if_modifyHead, hsplit,
      if_neg (by simpa using Ne.symm hstart.1), List.modifyHead_cons]

/-- Reading the lines of a declaration and a body. -/
theorem ofLines_textLines {declaration : String} {body : List String}
    (hbrace : '\x7b' ∉ declaration.toList) (hne : body ≠ []) :
    ofLines ((("    " ++ declaration ++ " \x7b") :: body).flatMap textLines) =
      { declaration, body := "\n".intercalate body } := by
  have htext : ['\n'].intercalate
      ((("    " ++ declaration ++ " \x7b") :: body).flatMap textLines) =
        ("    ".toList ++ declaration.toList ++ [' ']) ++
          '\x7b' :: '\n' :: ("\n".intercalate body).toList := by
    rw [← textLines_intercalate (by simp), textLines, List.intercalate_splitOn,
      String.intercalate_cons_of_ne_nil hne]
    simp [String.toList_append]
  have hbefore : ∀ c ∈ "    ".toList ++ declaration.toList ++ [' '],
      decide (c ≠ '\x7b') = true := by
    intro c hc
    rw [decide_eq_true_eq]
    rintro rfl
    rw [List.mem_append, List.mem_append] at hc
    rcases hc with (hc | hc) | hc
    · exact absurd hc (by decide)
    · exact hbrace hc
    · exact absurd hc (by decide)
  rw [ofLines, htext]
  simp only [List.takeWhile_append_of_pos hbefore, List.dropWhile_append_of_pos hbefore]
  simp [-String.toList_intercalate]

end Member

end Swift

end Lanewise
