import Lanewise.Implementation
import Lanewise.Proofs.Overload.Signature
import Lanewise.Proofs.Swift.Functions

/-!
# The implementation of a function

A function is implemented by one of two bodies: a call of its accelerated form, or a loop over the
lanes. Neither holds anything that a reader of the text may take for a directive, for an import or
for the end of the function, so that each is read back as the function that it implements.
-/

namespace Lanewise

open Swift

namespace Swift

/-- In a text in which no word follows a line feed, only the first line may start with a word. -/
theorem head?_of_mem_textLines {text : String} (hsafe : FeedSafe text)
    (hhead : ∀ c ∈ text.toList.head?, Identifier.isTail c = false) :
    ∀ piece ∈ textLines text, ∀ c ∈ piece.head?, Identifier.isTail c = false := by
  have hsplit : ∀ cs : List Char, cs.IsChain Severed → ∃ first others,
      cs.splitOn '\n' = first :: others ∧ (∀ c ∈ first.head?, c ∈ cs.head?) ∧
        ∀ piece ∈ others, ∀ c ∈ piece.head?, Identifier.isTail c = false := by
    intro cs
    induction cs with
    | nil => exact fun _ => ⟨[], [], List.splitOn_nil _, by simp, by simp⟩
    | cons d rest ih =>
      intro hchain
      rw [List.isChain_cons] at hchain
      obtain ⟨first, others, hrest, hfirst, hothers⟩ := ih hchain.2
      rw [List.splitOn_cons_eq_if_modifyHead, hrest]
      by_cases hd : d = '\n'
      · refine ⟨[], first :: others, by simp [hd], by simp, ?_⟩
        rw [List.forall_mem_cons]
        exact ⟨fun c hc => hchain.1 c (hfirst c hc) hd, hothers⟩
      · exact ⟨d :: first, others, by simp [hd], by simp, hothers⟩
  obtain ⟨first, others, htext, hfirst, hothers⟩ := hsplit _ hsafe
  rw [textLines, htext, List.forall_mem_cons]
  exact ⟨fun c hc => hhead c (hfirst c hc), hothers⟩

theorem head?_of_margin {line : String} (hsafe : FeedSafe line)
    (hmargin : line.toList.head? = some ' ') :
    ∀ piece ∈ textLines line, ∀ c ∈ piece.head?, Identifier.isTail c = false := by
  refine head?_of_mem_textLines hsafe fun c hc => ?_
  rw [hmargin, Option.mem_some_iff] at hc
  rw [← hc]
  decide

theorem head?_toList_append {a : String} {c : Char} (h : a.toList.head? = some c) (b : String) :
    (a ++ b).toList.head? = some c := by
  obtain ⟨rest, ha⟩ := List.head?_eq_some_iff.1 h
  rw [String.toList_append, ha, List.cons_append, List.head?_cons]

/-- A line inside of a function. -/
structure Inner (line : String) : Prop where
  /-- It starts with a blank. -/
  margin : line.toList.head? = some ' '
  /-- No directive starts in it. -/
  hash : '#' ∉ line.toList
  /-- After a line feed in it comes no word. -/
  feedSafe : FeedSafe line
  /-- It does not close the function. -/
  goesOn : ∀ piece ∈ textLines line, piece ≠ Member.closing

namespace Inner

theorem of_not_mem {line : String} (hmargin : line.toList.head? = some ' ')
    (hhash : '#' ∉ line.toList) (hsafe : FeedSafe line) (hbrace : '\x7d' ∉ line.toList) :
    Inner line := by
  refine ⟨hmargin, hhash, hsafe, ?_⟩
  rintro piece hp rfl
  exact hbrace (mem_and_ne_of_mem_textLines hp (by decide)).1

theorem literal {line : String} (hmargin : line.toList.head? = some ' ' := by decide)
    (hhash : '#' ∉ line.toList := by decide) (hfeed : '\n' ∉ line.toList := by decide)
    (hclosing : line.toList ≠ Member.closing := by decide) : Inner line := by
  refine ⟨hmargin, hhash, .of_not_mem hfeed, ?_⟩
  rw [textLines_of_not_mem hfeed, List.forall_mem_singleton]
  exact hclosing

/-- A margin with a text of signatures and calls behind it. -/
theorem signature {start text : String} (h : SignatureText text)
    (hmargin : start.toList.head? = some ' ' := by decide)
    (hhash : '#' ∉ start.toList := by decide) (hfeed : '\n' ∉ start.toList := by decide)
    (hbrace : '\x7d' ∉ start.toList := by decide) : Inner (start ++ text) := by
  have hhash' : '#' ∉ text.toList := h.not_mem (by decide)
  have hbrace' : '\x7d' ∉ text.toList := h.not_mem (by decide)
  exact of_not_mem (head?_toList_append hmargin text) (not_mem_append hhash hhash')
    (h.feedSafe.before hfeed) (not_mem_append hbrace hbrace')

theorem declaration (o : Overload) (t : Target) :
    Inner ("    " ++ o.declaration t.typeName ++ " \x7b") := by
  have hline : Inner ("    " ++ o.declaration t.typeName) := signature (.declaration o t)
  have hbrace : '\x7d' ∉ ("    " ++ o.declaration t.typeName).toList :=
    not_mem_append (by decide) ((SignatureText.declaration o t).not_mem (by decide))
  exact of_not_mem (head?_toList_append hline.margin _) (not_mem_append hline.hash (by decide))
    (hline.feedSafe.after .of_not_mem (by decide)) (not_mem_append hbrace (by decide))

/-- No line of it starts with a word. -/
theorem head? {line : String} (h : Inner line) :
    ∀ piece ∈ textLines line, ∀ c ∈ piece.head?, Identifier.isTail c = false :=
  head?_of_margin h.feedSafe h.margin

end Inner

end Swift

namespace Overload

/-- An accelerated form needs a name for it and a target that allows it. -/
theorem accelerated?_eq_some_iff {o : Overload} {t : Target} {name : String} :
    o.accelerated? t = some name ↔
      t.isAccelerable = true ∧ ∃ i, o.acceleratedName = some i ∧ i.text = name := by
  unfold accelerated?
  by_cases ht : t.isAccelerable = true
  · rw [if_pos ht, Option.map_eq_some_iff]
    simp [ht]
  · rw [if_neg ht]
    simp [ht]

/-- The body that calls the accelerated form. -/
def callBody (o : Overload) (acceleratedName : String) : List String :=
  ["        " ++ o.acceleratedCall acceleratedName]

/-- The body that loops over the lanes. -/
def loopBody (o : Overload) : List String :=
  ["        var v = Self()", "        for i in v.indices \x7b",
    "            v[i] = " ++ o.call true ".", "        \x7d", "        return v"]

/-- The body for a compiler that can import the module of the accelerated forms, or cannot. -/
def bodyLines (o : Overload) (t : Target) (available : Bool) : List String :=
  match o.accelerated? t, available with
  | some name, true => o.callBody name
  | _, _ => o.loopBody

theorem bodyLines_false (o : Overload) (t : Target) : o.bodyLines t false = o.loopBody := by
  unfold bodyLines
  cases o.accelerated? t <;> rfl

theorem bodyLines_true (o : Overload) (t : Target) :
    o.bodyLines t true = (o.accelerated? t).elim o.loopBody o.callBody := by
  unfold bodyLines
  cases o.accelerated? t <;> rfl

/-- The function with a body. -/
def functionLines (o : Overload) (typeName : String) (body : List String) : List String :=
  "    @_transparent" :: block "    " (o.declaration typeName) body

theorem elementWiseLines_eq (o : Overload) (typeName : String) :
    o.elementWiseLines typeName = o.functionLines typeName o.loopBody := rfl

theorem margin_acceleratedCall (o : Overload) (name : String) :
    "        " ++ o.acceleratedCall name =
      "        simd." ++ (name ++ ("(" ++ (o.acceleratedArguments ++ ")"))) := by
  have hstart : "        simd." = "        " ++ "simd." := by decide
  rw [acceleratedCall, hstart]
  simp only [String.append_assoc]

theorem acceleratedLines_eq (o : Overload) (name typeName : String) :
    o.acceleratedLines name typeName = o.functionLines typeName (o.callBody name) := by
  rw [callBody, margin_acceleratedCall]
  simp only [← String.append_assoc]
  rfl

/-- One of the two bodies remains. -/
theorem resolve_implementation (o : Overload) (t : Target) (available : Bool) :
    (o.implementation t).resolve (fun _ => available) =
      o.functionLines t.typeName (o.bodyLines t available) := by
  unfold implementation bodyLines
  cases o.accelerated? t with
  | none => simp [Chunk.resolve, elementWiseLines_eq]
  | some name =>
    cases available
    · simp [Chunk.resolve, elementWiseLines_eq]
    · simp [Chunk.resolve, acceleratedLines_eq]

theorem inner_callBody (o : Overload) (i : Identifier) :
    ∀ line ∈ o.callBody i.text, Inner line := by
  rw [callBody, List.forall_mem_singleton]
  exact .signature (.acceleratedCall o i)

theorem inner_loopBody (o : Overload) : ∀ line ∈ o.loopBody, Inner line := by
  have hassign : Inner ("            v[i] = " ++ o.call true ".") := .signature (.call o true)
  rw [loopBody]
  simp only [List.forall_mem_cons]
  exact ⟨.literal, .literal, hassign, .literal, .literal, by simp⟩

theorem inner_bodyLines (o : Overload) (t : Target) (available : Bool) :
    ∀ line ∈ o.bodyLines t available, Inner line := by
  unfold bodyLines
  split
  · rename_i name h
    obtain ⟨-, i, -, rfl⟩ := accelerated?_eq_some_iff.1 h
    exact o.inner_callBody i
  · exact o.inner_loopBody

/-- The last line of a function is the only one that may close it. -/
theorem eq_or_inner_of_mem_functionLines {o : Overload} {t : Target} {body : List String}
    (hbody : ∀ line ∈ body, Inner line) :
    ∀ line ∈ o.functionLines t.typeName body, line = "    \x7d" ∨ Inner line := by
  rw [functionLines, block, List.forall_mem_cons, List.forall_mem_append, List.forall_mem_append,
    List.forall_mem_singleton, List.forall_mem_singleton]
  have hdeclaration : Inner ("    " ++ o.declaration t.typeName ++ " \x7b") := .declaration o t
  exact ⟨.inr .literal, ⟨.inr hdeclaration, fun line hl => .inr (hbody line hl)⟩, .inl rfl⟩

theorem quiet_functionLines (o : Overload) (t : Target) {body : List String}
    (hbody : ∀ line ∈ body, Inner line) :
    ∀ line ∈ o.functionLines t.typeName body, Quiet "simd" line := by
  intro line hl
  rcases eq_or_inner_of_mem_functionLines hbody line hl with rfl | h
  · exact quiet_of_not_mem
  · exact quiet_of_not_mem h.hash

/-- In the implementation of a function only the directives look like directives. -/
theorem quiet_implementation (o : Overload) (t : Target) :
    ∀ c ∈ o.implementation t, c.Quiet "simd" := by
  have hloop := o.quiet_functionLines t o.inner_loopBody
  unfold implementation
  rw [elementWiseLines_eq]
  cases h : o.accelerated? t with
  | none => exact List.forall_mem_singleton.2 hloop
  | some name =>
    obtain ⟨-, i, -, rfl⟩ := accelerated?_eq_some_iff.1 h
    rw [List.forall_mem_singleton, acceleratedLines_eq]
    exact ⟨by decide, rfl, o.quiet_functionLines t (o.inner_callBody i), hloop⟩

/-- No line of a function starts with a word. -/
theorem head?_of_mem_implementation (o : Overload) (t : Target) (available : Bool) :
    ∀ line ∈ (o.implementation t).resolve (fun _ => available), ∀ piece ∈ textLines line,
      ∀ c ∈ piece.head?, Identifier.isTail c = false := by
  intro line hl
  rw [resolve_implementation] at hl
  rcases eq_or_inner_of_mem_functionLines (o.inner_bodyLines t available) line hl with rfl | h
  · exact head?_of_margin .of_not_mem rfl
  · exact h.head?

/-! ## Reading a function back -/

theorem prefix_toList_append (a b : String) : a.toList <+: (a ++ b).toList := by
  rw [String.toList_append]
  exact List.prefix_append _ _

theorem declaration_eq (o : Overload) (type : String) :
    o.declaration type = "public static func " ++
      (o.name.text ++ ("(" ++ (o.parameters type ++ (") -> " ++ type)))) := by
  unfold declaration
  rw [String.append_assoc, String.append_assoc, String.append_assoc, String.append_assoc]

/-- The lines of a function as a reader finds them. -/
def memberLines (o : Overload) (t : Target) (available : Bool) : List (List Char) :=
  (("    " ++ o.declaration t.typeName ++ " \x7b") :: o.bodyLines t available).flatMap textLines

theorem prefix_declaration (o : Overload) (typeName : String) :
    Member.opening <+: ("    " ++ o.declaration typeName ++ " \x7b").toList := by
  have hstart : Member.opening = "    ".toList ++ "public static func ".toList := by decide
  have hdeclaration : "public static func ".toList <+: (o.declaration typeName).toList := by
    rw [o.declaration_eq]
    exact prefix_toList_append _ _
  rw [hstart, String.append_assoc, String.toList_append]
  exact (List.prefix_append_right_inj _).2 (hdeclaration.trans (prefix_toList_append _ _))

/-- The implementation of a function is read as one function. -/
theorem groups_implementation (o : Overload) (t : Target) (available : Bool)
    (rest : List (List Char)) :
    Member.groups none
        (((o.implementation t).resolve fun _ => available).flatMap textLines ++ rest) =
      o.memberLines t available :: Member.groups none rest := by
  obtain ⟨first, others, hfirst, hprefix⟩ :=
    Member.prefix_head_textLines (by decide) (o.prefix_declaration t.typeName)
  have hclosing : textLines "    \x7d" = [Member.closing] := textLines_of_not_mem (by decide)
  have hpieces : ∀ piece ∈ others ++ (o.bodyLines t available).flatMap textLines,
      piece ≠ Member.closing := by
    rw [List.forall_mem_append]
    constructor
    · intro piece hp
      exact (Inner.declaration o t).goesOn piece (hfirst ▸ List.mem_cons_of_mem _ hp)
    · intro piece hp
      obtain ⟨line, hl, hp⟩ := List.mem_flatMap.1 hp
      exact (o.inner_bodyLines t available line hl).goesOn piece hp
  have houtside : Member.Outside "    @_transparent" :=
    Member.outside_of_not_prefix (by decide) (by decide)
  have hlines : ((o.implementation t).resolve fun _ => available).flatMap textLines ++ rest =
      ["    @_transparent"].flatMap textLines ++
        (first :: (others ++ (o.bodyLines t available).flatMap textLines) ++
          Member.closing :: rest) := by
    rw [resolve_implementation, functionLines, block]
    simp [hfirst, hclosing]
  rw [hlines, Member.groups_none_lines (List.forall_mem_singleton.2 houtside),
    Member.groups_function hprefix hpieces, memberLines, List.flatMap_cons, hfirst,
    List.cons_append]

/-- What is read as the implementation of a function. -/
def member (o : Overload) (t : Target) (available : Bool) : Member where
  declaration := o.declaration t.typeName
  body := "\n".intercalate (o.bodyLines t available)

theorem ofLines_memberLines (o : Overload) (t : Target) (available : Bool) :
    Member.ofLines (o.memberLines t available) = o.member t available := by
  refine Member.ofLines_textLines ?_ ?_
  · exact (SignatureText.declaration o t).not_mem (by decide)
  · unfold bodyLines
    split
    · simp [callBody]
    · simp [loopBody]

end Overload

end Lanewise
