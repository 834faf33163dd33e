import Lanewise.Swift.Source

/-!
# Reading conditional compilation

A compiler sees the text of a file, not its chunks: it splits the text at line feeds, and takes the
lines that hold a directive for instructions to keep or to skip what follows. On the text of a
source it keeps exactly what `Source.resolve` keeps, provided no other line looks like a directive.
A line of a source may hold line feeds, so that it is several lines of the text.
-/

namespace Lanewise

namespace Swift

/-- The lines of a text. -/
def textLines (text : String) : List (List Char) :=
  text.toList.splitOn '\n'

/-- The text of some lines. -/
def joinLines (lines : List (List Char)) : String :=
  String.ofList (['\n'].intercalate lines)

theorem joinLines_textLines (text : String) : joinLines (textLines text) = text := by
  rw [joinLines, textLines, List.intercalate_splitOn, String.ofList_toList]

theorem textLines_append (a b : String) :
    textLines (a ++ "\n" ++ b) = textLines a ++ textLines b := by
  rw [textLines, String.toList_append, String.toList_append]
  have hfeed : "\n".toList = ['\n'] := rfl
  rw [hfeed, List.append_assoc, List.singleton_append, List.splitOn_append_cons_self]
  rfl

theorem textLines_of_not_mem {text : String} (h : '\n' ∉ text.toList) :
    textLines text = [text.toList] :=
  List.splitOn_eq_singleton h

/-- The lines of a text hold characters of the text, but no line feed. -/
theorem mem_and_ne_of_mem_textLines {text : String} {piece : List Char}
    (hp : piece ∈ textLines text) {c : Char} (hc : c ∈ piece) : c ∈ text.toList ∧ c ≠ '\n' := by
  unfold textLines at hp
  generalize text.toList = cs at hp ⊢
  have htail : ∀ {d : Char} {rest : List Char}, c ∈ rest ∧ c ≠ '\n' → c ∈ d :: rest ∧ c ≠ '\n' :=
    fun h => ⟨List.mem_cons_of_mem _ h.1, h.2⟩
  induction cs generalizing piece with
  | nil =>
    rw [List.splitOn_nil, List.mem_singleton] at hp
    exact absurd (hp ▸ hc) List.not_mem_nil
  | cons d rest ih =>
    rw [List.splitOn_cons_eq_if_modifyHead] at hp
    split at hp
    · rcases List.mem_cons.1 hp with rfl | hp
      · exact absurd hc List.not_mem_nil
      · exact htail (ih hc hp)
    · rename_i hd
      obtain ⟨first, others, hsplit⟩ := List.exists_cons_of_ne_nil (List.splitOn_ne_nil '\n' rest)
      rw [hsplit, List.modifyHead_cons] at hp
      rcases List.mem_cons.1 hp with rfl | hp
      · rcases List.mem_cons.1 hc with rfl | hc
        · exact ⟨List.mem_cons_self, by simpa using hd⟩
        · exact htail (ih hc (hsplit ▸ List.mem_cons_self))
      · exact htail (ih hc (hsplit ▸ List.mem_cons_of_mem _ hp))

theorem textLines_intercalate {lines : List String} (h : lines ≠ []) :
    textLines ("\n".intercalate lines) = lines.flatMap textLines := by
  induction lines with
  | nil => exact absurd rfl h
  | cons line rest ih =>
    cases rest with
    | nil => simp
    | cons next rest =>
      rw [String.intercalate_cons_cons, textLines_append, ih (by simp)]
      rfl

theorem Source.textLines_text {s : Source} (h : s.lines ≠ []) :
    textLines s.text = s.lines.flatMap textLines ++ [[]] := by
  have hend : s.text = s.body ++ "\n" ++ "" := by simp [text]
  rw [hend, textLines_append, body, textLines_intercalate h]
  rfl

/-- The text of a source has a line feed behind each line. -/
theorem Source.toList_text {s : Source} (h : s.lines ≠ []) :
    s.text.toList = s.lines.flatMap fun line => line.toList ++ ['\n'] := by
  have hfeed : "\n".toList = ['\n'] := rfl
  rw [text, body, String.toList_append, hfeed]
  generalize s.lines = lines at h
  induction lines with
  | nil => exact absurd rfl h
  | cons line rest ih =>
    cases rest with
    | nil => simp
    | cons next rest =>
      rw [String.intercalate_cons_cons, String.toList_append, String.toList_append, hfeed,
        List.append_assoc, List.append_assoc, ih (by simp),
        List.flatMap_cons (f := fun line => line.toList ++ ['\n']) (x := line),
        List.append_assoc]

/-- The text of a source shows each part of it. -/
theorem Source.infix_text (before after : Source) {s : Source} (h : s.lines ≠ []) :
    s.body.toList <:+: (before ++ s ++ after).text.toList := by
  have hne : (before ++ s ++ after).lines ≠ [] := by simp [h]
  have hbody : s.body.toList <+: s.text.toList := by
    rw [text, String.toList_append]
    exact List.prefix_append _ _
  refine hbody.isInfix.trans ?_
  rw [toList_text h, toList_text hne, lines_append, lines_append, List.flatMap_append,
    List.flatMap_append]
  exact List.infix_append _ _ _

/-! ## Directives -/

/-- What a line of a text instructs a compiler to do. -/
inductive Directive where
  /-- To keep what follows if the module can be imported. -/
  | opening
  /-- To keep what follows if the module cannot be imported. -/
  | alternative
  /-- To end the condition. -/
  | closing
deriving DecidableEq, Repr

/-- The directive of a line, for a module. -/
def directive? (module : String) (line : List Char) : Option Directive :=
  let told := line.dropWhile (· = ' ')
  if told = ("#if canImport(" ++ module ++ ")").toList then some .opening
  else if told = "#else".toList then some .alternative
  else if told = "#endif".toList then some .closing
  else none

/-- The conditions after a directive, of which each is known to hold or not. The innermost one comes
first. -/
def Directive.apply (available : Bool) (conditions : List Bool) : Directive → List Bool
  | opening => available :: conditions
  | alternative => conditions.modifyHead not
  | closing => conditions.tail

/-- The lines that remain when the conditions are read from the lines themselves, inside of some
conditions. -/
def resolveLines (module : String) (available : Bool) (conditions : List Bool) :
    List (List Char) → List (List Char)
  | [] => []
  | line :: rest =>
    match directive? module line with
    | some d => resolveLines module available (d.apply available conditions) rest
    | none =>
      if conditions.all id then line :: resolveLines module available conditions rest
      else resolveLines module available conditions rest

/-- The text that remains for a compiler that can import the module, or cannot. -/
def resolveText (module : String) (available : Bool) (text : String) : String :=
  joinLines (resolveLines module available [] (textLines text))

theorem resolveLines_sublist (module : String) (available : Bool) (conditions : List Bool)
    (lines : List (List Char)) :
    (resolveLines module available conditions lines).Sublist lines := by
  induction lines generalizing conditions with
  | nil => exact .slnil
  | cons line rest ih =>
    rw [resolveLines]
    split
    · exact (ih _).cons _
    · split
      · exact (ih _).cons_cons _
      · exact (ih _).cons _

/-- The lines of a resolved text are those that are kept, if there are any. -/
theorem textLines_resolveText {module : String} {available : Bool} {text : String}
    (hne : resolveLines module available [] (textLines text) ≠ []) :
    textLines (resolveText module available text) =
      resolveLines module available [] (textLines text) := by
  rw [resolveText, joinLines, textLines, String.toList_ofList]
  refine List.splitOn_intercalate '\n' (fun line hl hfeed => ?_) hne
  exact (mem_and_ne_of_mem_textLines ((resolveLines_sublist _ _ _ _).subset hl) hfeed).2 rfl

/-- A line that does not look like a directive. It is looked at after its line feeds too. -/
def Quiet (module line : String) : Prop :=
  ∀ piece ∈ textLines line, directive? module piece = none

theorem directive?_eq_none {line : List Char} (h : (line.dropWhile (· = ' ')).head? ≠ some '#')
    (module : String) : directive? module line = none := by
  have hne : ∀ told : String, told.toList.head? = some '#' →
      line.dropWhile (· = ' ') ≠ told.toList := by
    intro told ht he
    exact h (he ▸ ht)
  have hopening : ("#if canImport(" ++ module ++ ")").toList.head? = some '#' := by
    simp [String.toList_append]
  unfold directive?
  rw [if_neg (hne _ hopening), if_neg (hne _ rfl), if_neg (hne _ rfl)]

/-- A line that does not start with a hash behind a margin. It is looked at after its line feeds
too. -/
def Unmarked (line : String) : Prop :=
  ∀ piece ∈ textLines line, (piece.dropWhile (· = ' ')).head? ≠ some '#'

theorem Unmarked.quiet {line : String} (h : Unmarked line) (module : String) :
    Quiet module line :=
  fun piece hp => directive?_eq_none (h piece hp) module

theorem unmarked_of_not_mem {line : String} (h : '#' ∉ line.toList) : Unmarked line := by
  intro piece hp hh
  have hpiece := (List.dropWhile_sublist _).subset (List.mem_of_mem_head? (Option.mem_def.2 hh))
  exact h (mem_and_ne_of_mem_textLines hp hpiece).1

theorem unmarked_of_head {line : String} (hfeed : '\n' ∉ line.toList) {c : Char}
    (hc : line.toList.head? = some c) (hspace : c ≠ ' ') (hhash : c ≠ '#') : Unmarked line := by
  intro piece hp
  rw [textLines_of_not_mem hfeed, List.mem_singleton] at hp
  subst hp
  obtain ⟨rest, hl⟩ := List.head?_eq_some_iff.1 hc
  rw [hl, List.dropWhile_cons_of_neg (by simpa using hspace), List.head?_cons]
  simpa using hhash

theorem quiet_of_not_mem {module line : String} (h : '#' ∉ line.toList := by decide) :
    Quiet module line :=
  (unmarked_of_not_mem h).quiet module

theorem quiet_of_head {module line : String} (hfeed : '\n' ∉ line.toList) {c : Char}
    (hc : line.toList.head? = some c) (hspace : c ≠ ' ' := by decide)
    (hhash : c ≠ '#' := by decide) : Quiet module line :=
  (unmarked_of_head hfeed hc hspace hhash).quiet module

/-! ## Sources -/

namespace Source

/-- The text of a source depends on its lines only. -/
theorem text_plain_lines (s : Source) : Source.text [.plain s.lines] = s.text := by
  simp [text, body, Chunk.lines]

theorem spaced_cons_cons (first next : Source) (rest : List Source) :
    spaced (first :: next :: rest) = first ++ .plain [""] :: spaced (next :: rest) := rfl

/-- Sources are resolved one by one. -/
theorem resolve_spaced (canImport : String → Bool) (ss : List Source) :
    (spaced ss).resolve canImport =
      Source.lines (spaced (ss.map fun s => [.plain (s.resolve canImport)])) := by
  match ss with
  | [] => rfl
  | [only] => simp [spaced, Chunk.lines]
  | first :: next :: rest =>
    have ih := resolve_spaced canImport (next :: rest)
    rw [List.map_cons] at ih
    rw [List.map_cons, List.map_cons, spaced_cons_cons, spaced_cons_cons, resolve_append,
      resolve_cons, ih, lines_append, lines_cons]
    simp [Chunk.lines, Chunk.resolve]

/-- Separated sources show each of them. -/
theorem exists_spaced_eq {s : Source} {ss : List Source} (hs : s ∈ ss) :
    ∃ before after, spaced ss = before ++ s ++ after := by
  match ss with
  | [] => cases hs
  | [only] =>
    obtain rfl := List.mem_singleton.1 hs
    exact ⟨[], [], by simp [spaced]⟩
  | first :: next :: rest =>
    rw [spaced_cons_cons]
    rcases List.mem_cons.1 hs with rfl | hs
    · exact ⟨[], _, rfl⟩
    · obtain ⟨before, after, heq⟩ := exists_spaced_eq hs
      exact ⟨first ++ .plain [""] :: before, after, by simp [heq]⟩

/-- Where sources are separated, there are the chunks of the sources and empty lines. -/
theorem mem_spaced {c : Chunk} {ss : List Source} (hc : c ∈ spaced ss) :
    c = .plain [""] ∨ ∃ s ∈ ss, c ∈ s := by
  match ss with
  | [] => exact .inl (List.mem_singleton.1 hc)
  | [only] => exact .inr ⟨only, List.mem_singleton_self only, hc⟩
  | first :: next :: rest =>
    rw [spaced_cons_cons, List.mem_append, List.mem_cons] at hc
    rcases hc with hc | rfl | hc
    · exact .inr ⟨first, List.mem_cons_self, hc⟩
    · exact .inl rfl
    · rcases mem_spaced hc with rfl | ⟨s, hs, hc⟩
      · exact .inl rfl
      · exact .inr ⟨s, List.mem_cons_of_mem _ hs, hc⟩

end Source

section

variable {module : String} {available : Bool}

/-- Lines that do not look like directives are kept or skipped together. -/
theorem resolveLines_quiet {lines : List String} (hq : ∀ line ∈ lines, Quiet module line)
    (conditions : List Bool) (rest : List (List Char)) :
    resolveLines module available conditions (lines.flatMap textLines ++ rest) =
      (if conditions.all id then lines.flatMap textLines else []) ++
        resolveLines module available conditions rest := by
  have hpieces : ∀ piece ∈ lines.flatMap textLines, directive? module piece = none := by
    intro piece hp
    obtain ⟨line, hl, hp⟩ := List.mem_flatMap.1 hp
    exact hq line hl piece hp
  generalize lines.flatMap textLines = pieces at hpieces ⊢
  induction pieces with
  | nil => simp
  | cons piece pieces ih =>
    rw [List.forall_mem_cons] at hpieces
    rw [List.cons_append, resolveLines, hpieces.1]
    simp only [ih hpieces.2]
    split <;> rfl

/-- A chunk of which only the directives look like directives. -/
def Chunk.Quiet (module : String) : Chunk → Prop
  | plain lines => ∀ line ∈ lines, Swift.Quiet module line
  | conditional margin guard present absent =>
    margin.toList.all (· = ' ') = true ∧ guard = module ∧
      (∀ line ∈ present, Swift.Quiet module line) ∧ ∀ line ∈ absent, Swift.Quiet module line

/-- A line with a directive behind a margin. -/
theorem textLines_directive {margin told : String}
    (hmargin : margin.toList.all (· = ' ') = true) (htold : '\n' ∉ told.toList) :
    textLines (margin ++ told) = [margin.toList ++ told.toList] := by
  rw [textLines_of_not_mem, String.toList_append]
  rw [String.toList_append, List.mem_append]
  rintro (h | h)
  · have hspace := List.all_eq_true.1 hmargin _ h
    exact absurd hspace (by decide)
  · exact htold h

theorem directive?_margin {margin : List Char} (hmargin : margin.all (· = ' ') = true)
    (told : List Char) : directive? module (margin ++ told) = directive? module told := by
  unfold directive?
  rw [List.dropWhile_append_of_pos (List.all_eq_true.1 hmargin)]

theorem directive?_opening :
    directive? module ("#if canImport(" ++ module ++ ")").toList = some .opening := by
  have htold : ("#if canImport(" ++ module ++ ")").toList.dropWhile (· = ' ') =
      ("#if canImport(" ++ module ++ ")").toList := by
    simp [String.toList_append]
  rw [directive?, htold, if_pos rfl]

theorem directive?_alternative : directive? module "#else".toList = some .alternative := by
  have hne : "#else".toList ≠ ("#if canImport(" ++ module ++ ")").toList := by
    simp [String.toList_append]
  have htold : "#else".toList.dropWhile (· = ' ') = "#else".toList := rfl
  rw [directive?, htold, if_neg hne, if_pos rfl]

theorem directive?_closing : directive? module "#endif".toList = some .closing := by
  have hne : "#endif".toList ≠ ("#if canImport(" ++ module ++ ")").toList := by
    simp [String.toList_append]
  have htold : "#endif".toList.dropWhile (· = ' ') = "#endif".toList := rfl
  rw [directive?, htold, if_neg hne, if_neg (by decide), if_pos rfl]

/-- A directive sets the conditions for what follows. -/
theorem resolveLines_directive {margin told : String}
    (hmargin : margin.toList.all (· = ' ') = true) (htold : '\n' ∉ told.toList) {d : Directive}
    (hd : directive? module told.toList = some d)
    (conditions : List Bool) (rest : List (List Char)) :
    resolveLines module available conditions (textLines (margin ++ told) ++ rest) =
      resolveLines module available (d.apply available conditions) rest := by
  rw [textLines_directive hmargin htold, List.singleton_append, resolveLines,
    directive?_margin hmargin, hd]

/-- A chunk is resolved on its lines as it is on itself. -/
theorem resolveLines_chunk (hmodule : '\n' ∉ module.toList) {c : Chunk} (hq : c.Quiet module)
    {canImport : String → Bool} (rest : List (List Char)) :
    resolveLines module (canImport module) [] (c.lines.flatMap textLines ++ rest) =
      (c.resolve canImport).flatMap textLines ++
        resolveLines module (canImport module) [] rest := by
  cases c with
  | plain lines =>
    rw [Chunk.lines, resolveLines_quiet hq]
    rfl
  | conditional margin guard present absent =>
    obtain ⟨hmargin, rfl, hpresent, habsent⟩ := hq
    have hopening : '\n' ∉ ("#if canImport(" ++ guard ++ ")").toList := by
      simpa [String.toList_append] using hmodule
    have hend : ∀ (conditions : List Bool) (rest : List (List Char)),
        resolveLines guard (canImport guard) conditions (textLines (margin ++ "#endif") ++ rest) =
          resolveLines guard (canImport guard) conditions.tail rest :=
      resolveLines_directive hmargin (by decide) directive?_closing
    have hassoc : margin ++ "#if canImport(" ++ guard ++ ")" =
        margin ++ ("#if canImport(" ++ guard ++ ")") := by
      simp only [String.append_assoc]
    rw [Chunk.lines, Chunk.resolve, hassoc]
    simp only [List.flatMap_append, List.flatMap_cons, List.flatMap_nil, List.append_nil,
      List.append_assoc]
    rw [resolveLines_directive hmargin hopening directive?_opening, resolveLines_quiet hpresent]
    by_cases hempty : absent = []
    · subst hempty
      simp only [Directive.apply, List.isEmpty_nil, if_true, List.flatMap_nil, List.nil_append,
        hend]
      cases canImport guard <;> simp
    · have habsent' : absent.isEmpty = false := by simp [hempty]
      rw [habsent', if_neg Bool.false_ne_true, List.flatMap_cons, List.append_assoc,
        resolveLines_directive hmargin (by decide) directive?_alternative,
        resolveLines_quiet habsent, hend]
      cases canImport guard <;> simp [Directive.apply]

/-- A source is resolved on its lines as it is on its chunks. -/
theorem resolveLines_source (hmodule : '\n' ∉ module.toList) {s : Source}
    (hq : ∀ c ∈ s, c.Quiet module) (canImport : String → Bool) (rest : List (List Char)) :
    resolveLines module (canImport module) [] (s.lines.flatMap textLines ++ rest) =
      (s.resolve canImport).flatMap textLines ++
        resolveLines module (canImport module) [] rest := by
  induction s generalizing rest with
  | nil => simp
  | cons c s ih =>
    rw [List.forall_mem_cons] at hq
    rw [Source.lines_cons, Source.resolve_cons, List.flatMap_append, List.flatMap_append,
      List.append_assoc, resolveLines_chunk hmodule hq.1, ih hq.2, List.append_assoc]

/-- A source is resolved on its text as it is on its chunks. -/
theorem resolveText_text (hmodule : '\n' ∉ module.toList) {s : Source}
    (hq : ∀ c ∈ s, c.Quiet module) (canImport : String → Bool)
    (hne : s.resolve canImport ≠ []) :
    resolveText module (canImport module) s.text =
      Source.text [.plain (s.resolve canImport)] := by
  have hresolve := resolveLines_source hmodule hq canImport
  have hlines : s.lines ≠ [] := by
    intro h
    have hnil := hresolve []
    rw [h, List.flatMap_nil, List.nil_append, List.self_eq_append_left,
      List.flatMap_eq_nil_iff] at hnil
    refine hne (List.eq_nil_iff_forall_not_mem.2 fun line hl => ?_)
    exact List.splitOn_ne_nil _ _ (hnil line hl)
  have hlast : resolveLines module (canImport module) [] [[]] = [[]] := by
    rw [resolveLines, directive?_eq_none (by simp) module]
    rfl
  have hplain : Source.lines [.plain (s.resolve canImport)] = s.resolve canImport := by
    simp [Chunk.lines]
  have htext : textLines (Source.text [.plain (s.resolve canImport)]) =
      (s.resolve canImport).flatMap textLines ++ [[]] := by
    rw [Source.textLines_text (by rwa [hplain]), hplain]
  rw [resolveText, Source.textLines_text hlines, hresolve, hlast, ← htext, joinLines_textLines]

end

end Swift

end Lanewise
