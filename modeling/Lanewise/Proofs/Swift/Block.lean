import Lanewise.Proofs.Swift.Branch
import Mathlib.Data.List.DropRight

/-!
# Blocks and their functions

Where a brace opens outside of all others a block begins, of which the last line before the brace is
the heading. Where one opens inside of a block and outside of its functions, a function is declared:
the declaration is what stands from its first words to the brace. What stands between the braces of
a function is not looked at, so that functions with balanced bodies are read one after another.
-/

namespace Lanewise

namespace Swift

/-- A block with the functions that are declared in it. -/
structure Block where
  /-- The line that opens it. -/
  heading : String
  /-- The declarations, each with its opening brace. -/
  functions : List String
deriving DecidableEq, Repr

namespace Block

/-- What stands from the first words of a declaration on. -/
def declared : List Char → List Char
  | [] => []
  | c :: rest =>
    if Signature.opening.isPrefixOf (c :: rest) then c :: rest else declared rest

/-- The declaration that a brace ends. -/
def declaration (before : List Char) : String :=
  String.ofList (declared before ++ ['\x7b'])

/-- The heading that a brace ends. -/
def headingOf (before : List Char) : String :=
  String.ofList (before.rtakeWhile (· ≠ '\n') ++ ['\x7b'])

/-- The functions that are declared before the next block, and the blocks, with one more brace that
opens inside of so many. What stands before the brace comes second, what is read behind it last. -/
def openBrace (depth : Nat) (before : List Char) (read : List String × List Block) :
    List String × List Block :=
  match depth with
  | 0 => ([], ⟨headingOf before, read.1⟩ :: read.2)
  | 1 => (declaration before :: read.1, read.2)
  | _ => read

/-- The functions that are declared before the next block, and the blocks, in what follows where so
many braces are open. The text since the last brace comes second. -/
def readFrom (depth : Nat) (before : List Char) : List Char → List String × List Block
  | [] => ([], [])
  | c :: rest =>
    if c = '\x7b' then openBrace depth before (readFrom (depth + 1) [] rest)
    else if c = '\x7d' then readFrom (depth - 1) [] rest
    else readFrom depth (before ++ [c]) rest

/-- The blocks of a text. -/
def readAll (text : String) : List Block :=
  (readFrom 0 [] text.toList).2

/-! ## What is passed over -/

/-- A text without braces. -/
def Braceless (text : List Char) : Prop :=
  '\x7b' ∉ text ∧ '\x7d' ∉ text

instance (text : List Char) : Decidable (Braceless text) :=
  inferInstanceAs (Decidable ('\x7b' ∉ text ∧ '\x7d' ∉ text))

theorem Braceless.append {a b : List Char} (ha : Braceless a) (hb : Braceless b) :
    Braceless (a ++ b) := by
  rw [Braceless, List.mem_append, List.mem_append, not_or, not_or]
  exact ⟨⟨ha.1, hb.1⟩, ha.2, hb.2⟩

theorem braceless_of_unbracketed {a : List Char} (h : Unbracketed a) : Braceless a :=
  ⟨fun hc => h _ hc (by decide), fun hc => h _ hc (by decide)⟩

section

variable {depth : Nat} {before a rest : List Char}

theorem readFrom_open (depth : Nat) (before rest : List Char) :
    readFrom depth before ('\x7b' :: rest) =
      openBrace depth before (readFrom (depth + 1) [] rest) :=
  rfl

theorem readFrom_close (depth : Nat) (before rest : List Char) :
    readFrom depth before ('\x7d' :: rest) = readFrom (depth - 1) [] rest :=
  rfl

theorem readFrom_cons {c : Char} (hopen : c ≠ '\x7b') (hclose : c ≠ '\x7d') (depth : Nat)
    (before rest : List Char) :
    readFrom depth before (c :: rest) = readFrom depth (before ++ [c]) rest := by
  rw [readFrom, if_neg hopen, if_neg hclose]

/-- A text without braces is kept in mind. -/
theorem readFrom_append (h : Braceless a) (depth : Nat) (before rest : List Char) :
    readFrom depth before (a ++ rest) = readFrom depth (before ++ a) rest := by
  induction a generalizing before with
  | nil => rw [List.nil_append, List.append_nil]
  | cons c a ih =>
    rw [Braceless, List.mem_cons, List.mem_cons, not_or, not_or] at h
    obtain ⟨⟨hopen, hopen'⟩, hclose, hclose'⟩ := h
    rw [List.cons_append, readFrom_cons (Ne.symm hopen) (Ne.symm hclose), ih ⟨hopen', hclose'⟩,
      List.append_assoc, List.singleton_append]

/-- Outside of all braces no function is declared. -/
theorem readFrom_zero_fst (before rest : List Char) : (readFrom 0 before rest).1 = [] := by
  induction rest generalizing before with
  | nil => rfl
  | cons c rest ih =>
    rw [readFrom]
    split
    · rfl
    · split
      · exact ih []
      · exact ih _

/-- Inside of a function nothing is read, as far as its brackets nest. -/
theorem exists_readFrom_openAfter {opened opened' : List Bracket}
    (h : openAfter opened a = some opened') (before rest : List Char) :
    ∃ before', readFrom (2 + opened.count .brace) before (a ++ rest) =
      readFrom (2 + opened'.count .brace) before' rest := by
  induction a generalizing opened before with
  | nil =>
    obtain rfl : opened = opened' := Option.some.inj h
    exact ⟨before, rfl⟩
  | cons c a ih =>
    rw [openAfter_cons, Option.bind_eq_some_iff] at h
    obtain ⟨next, hnext, h⟩ := h
    rw [List.cons_append]
    unfold Bracket.after at hnext
    split_ifs at hnext with hparenthesis hbrace hparenthesis' hbrace'
    · obtain rfl := Option.some.inj hnext
      rw [readFrom_cons (by simp [hparenthesis]) (by simp [hparenthesis])]
      exact ih h _
    · obtain rfl := Option.some.inj hnext
      have hdeep : ∀ read, openBrace (2 + opened.count .brace) before read = read := by
        intro read
        rw [Nat.add_comm]
        rfl
      rw [hbrace, readFrom_open, hdeep]
      have hcount : 2 + opened.count .brace + 1 = 2 + (Bracket.brace :: opened).count .brace := by
        rw [List.count_cons_self, Nat.add_assoc]
      rw [hcount]
      exact ih h []
    · cases opened with
      | nil => cases hnext
      | cons innermost outer =>
        rw [Bracket.close] at hnext
        split_ifs at hnext with hkind
        obtain rfl := Option.some.inj hnext
        rw [readFrom_cons (by simp [hparenthesis']) (by simp [hparenthesis']), hkind,
          List.count_cons_of_ne (by decide)]
        exact ih h _
    · cases opened with
      | nil => cases hnext
      | cons innermost outer =>
        rw [Bracket.close] at hnext
        split_ifs at hnext with hkind
        obtain rfl := Option.some.inj hnext
        rw [hbrace', readFrom_close, hkind, List.count_cons_self]
        exact ih h []
    · obtain rfl := Option.some.inj hnext
      rw [readFrom_cons hbrace hbrace']
      exact ih h _

/-- The body of a function is passed over. -/
theorem exists_readFrom_balanced (h : IsBalanced a) (before rest : List Char) :
    ∃ before', readFrom 2 before (a ++ rest) = readFrom 2 before' rest :=
  exists_readFrom_openAfter h before rest

end

/-! ## Declarations -/

/-- A text in which the first words of a declaration do not begin: in these a blank follows a `c`,
which it does not in such a text. -/
structure Calm (text : List Char) : Prop where
  chain : text.IsChain fun c d => ¬ (c = 'c' ∧ d = ' ')
  last : text.getLast? ≠ some 'c'

namespace Calm

variable {a b : List Char}

theorem append (ha : Calm a) (hb : Calm b) : Calm (a ++ b) := by
  constructor
  · rw [List.isChain_append]
    refine ⟨ha.chain, hb.chain, fun c hc d _ h => ha.last ?_⟩
    rw [← h.1]
    exact hc
  · rw [List.getLast?_append]
    cases hlast : b.getLast? with
    | none => exact ha.last
    | some d =>
      rw [Option.some_or]
      exact hlast ▸ hb.last

theorem of_not_mem (h : ' ' ∉ a) (hlast : a.getLast? ≠ some 'c') : Calm a := by
  refine ⟨?_, hlast⟩
  clear hlast
  induction a with
  | nil => exact .nil
  | cons c rest ih =>
    rw [List.mem_cons, not_or] at h
    rw [List.isChain_cons]
    refine ⟨fun d hd hcd => h.2 ?_, ih h.2⟩
    rw [← hcd.2]
    exact List.mem_of_mem_head? hd

/-- A declaration does not begin in a calm text. -/
theorem not_prefix {c : Char} {before text : List Char} (h : Calm (c :: before))
    (htext : Signature.opening <+: text) : ¬ Signature.opening <+: c :: before ++ text := by
  obtain ⟨rest, rfl⟩ := htext
  obtain ⟨hchain, hlast⟩ := h
  have hopening : Signature.opening = ['p', 'u', 'b', 'l', 'i', 'c', ' '] ++
      "static func ".toList := by decide
  rw [hopening]
  intro hprefix
  -- The first six letters of the words are in the text or go beyond it.
  match before with
  | [] => simp [List.cons_prefix_cons] at hprefix
  | [_] => simp [List.cons_prefix_cons] at hprefix
  | [_, _] => simp [List.cons_prefix_cons] at hprefix
  | [_, _, _] => simp [List.cons_prefix_cons] at hprefix
  | [_, _, _, _] => simp [List.cons_prefix_cons] at hprefix
  | [_, _, _, _, e] =>
    simp only [List.cons_append, List.nil_append, List.cons_prefix_cons] at hprefix
    obtain ⟨-, -, -, -, -, rfl, -⟩ := hprefix
    exact hlast rfl
  | _ :: _ :: _ :: _ :: e :: f :: more =>
    simp only [List.cons_append, List.cons_prefix_cons] at hprefix
    obtain ⟨-, -, -, -, -, rfl, rfl, -⟩ := hprefix
    simp only [List.isChain_cons_cons] at hchain
    obtain ⟨-, -, -, -, -, hspace, -⟩ := hchain
    exact hspace ⟨trivial, trivial⟩

/-- Behind a calm text the declaration is read. -/
theorem declared_append {before text : List Char} (h : Calm before)
    (htext : Signature.opening <+: text) : declared (before ++ text) = text := by
  induction before with
  | nil =>
    rw [List.nil_append]
    cases text with
    | nil => rfl
    | cons c rest => rw [declared, if_pos (List.isPrefixOf_iff_prefix.2 htext)]
  | cons c before ih =>
    have hbefore : Calm before := by
      refine ⟨h.chain.tail, fun hlast => h.last ?_⟩
      rw [List.getLast?_cons, hlast]
      rfl
    have hno : ¬ Signature.opening.isPrefixOf (c :: (before ++ text)) := by
      rw [List.isPrefixOf_iff_prefix]
      exact h.not_prefix htext
    rw [List.cons_append, declared, if_neg hno, ih hbefore]

end Calm

/-! ## Functions and blocks -/

/-- Lines inside of a block in which some functions are declared. They are read whatever calm text
stands before them, and leave such a text for what follows. -/
structure Declares (lines : List String) (functions : List String) : Prop where
  balanced : IsBalanced (rows lines)
  read : ∀ before, Calm before → ∃ before', Calm before' ∧ ∀ rest,
    readFrom 1 before (rows lines ++ rest) =
      (functions ++ (readFrom 1 before' rest).1, (readFrom 1 before' rest).2)

namespace Declares

variable {lines lines' functions functions' : List String}

theorem nil : Declares [] [] :=
  ⟨rfl, fun before hbefore => ⟨before, hbefore, fun _ => rfl⟩⟩

theorem append (h : Declares lines functions) (h' : Declares lines' functions') :
    Declares (lines ++ lines') (functions ++ functions') := by
  refine ⟨h.balanced.rows_append h'.balanced, fun before hbefore => ?_⟩
  obtain ⟨between, hbetween, hread⟩ := h.read before hbefore
  obtain ⟨before', hbefore', hread'⟩ := h'.read between hbetween
  refine ⟨before', hbefore', fun rest => ?_⟩
  rw [rows_append, List.append_assoc, hread, hread']
  simp only [List.append_assoc]

/-- Lines without braces declare nothing. -/
theorem of_calm (hcalm : Calm (rows lines)) (hbraceless : Braceless (rows lines))
    (hbalanced : IsBalanced (rows lines)) : Declares lines [] := by
  refine ⟨hbalanced, fun before hbefore => ?_⟩
  refine ⟨before ++ rows lines, hbefore.append hcalm, fun rest => ?_⟩
  rw [readFrom_append hbraceless]
  rfl

/-- A function is declared by its head. -/
theorem function {head : String} {body : List String} (hbraceless : Braceless head.toList)
    (hbalanced : IsBalanced head.toList) (hhead : Signature.opening <+: head.toList)
    (hbody : IsBalanced (rows body)) :
    Declares (block "    " head body) [head ++ " \x7b"] := by
  refine ⟨.block (by decide) hbalanced hbody, fun before hbefore => ?_⟩
  have hmargin : Calm "    ".toList := ⟨by decide, by decide⟩
  have hfeed : Calm ['\n'] := .of_not_mem (by decide) (by decide)
  refine ⟨['\n'], hfeed, fun rest => ?_⟩
  have hrows : rows (block "    " head body) ++ rest = "    ".toList ++ (head.toList ++ [' ']) ++
      '\x7b' :: (('\n' :: rows body) ++ ("    ".toList ++ '\x7d' :: '\n' :: rest)) := by
    have hopening : " \x7b".toList = [' ', '\x7b'] := rfl
    have hclosing : "\x7d".toList = ['\x7d'] := rfl
    rw [block, List.append_assoc, List.singleton_append, rows_cons, rows_append, rows_cons]
    simp only [String.toList_append, hopening, hclosing, rows_nil, List.append_assoc,
      List.cons_append, List.nil_append]
  have hline : Signature.opening <+: head.toList ++ [' '] := hhead.trans (List.prefix_append _ _)
  have hbefore' : Braceless ("    ".toList ++ (head.toList ++ [' '])) := by
    have hblank : Braceless [' '] := by decide
    have hmargin' : Braceless "    ".toList := by decide
    exact hmargin'.append (hbraceless.append hblank)
  have hdeclaration : declaration (before ++ ("    ".toList ++ (head.toList ++ [' ']))) =
      head ++ " \x7b" := by
    rw [declaration, ← List.append_assoc, (hbefore.append hmargin).declared_append hline,
      List.append_assoc, String.ofList_append, String.ofList_toList]
    rfl
  have hinside : IsBalanced ('\n' :: rows body) := by
    have hstart : IsBalanced ['\n'] := rfl
    exact hstart.append hbody
  obtain ⟨inside, hread⟩ := exists_readFrom_balanced hinside []
    ("    ".toList ++ '\x7d' :: '\n' :: rest)
  rw [hrows, readFrom_append hbefore', readFrom_open, hread, readFrom_append (by decide),
    readFrom_close, readFrom_cons (by decide) (by decide), openBrace, hdeclaration]
  rfl

/-- Functions are declared one after another. -/
theorem spaced {α : Type} {items : List α} {source : α → Source} {functions : α → List String}
    (h : ∀ item ∈ items, Declares (source item).lines (functions item)) :
    Declares (Source.spaced (items.map source)).lines (items.flatMap functions) := by
  have hblank : Declares (Source.lines [.plain [""]]) [] :=
    .of_calm ⟨by decide, by decide⟩ (by decide) (by decide)
  match items with
  | [] => exact hblank
  | [only] => simpa [Source.spaced] using h
  | first :: next :: rest =>
    rw [List.forall_mem_cons] at h
    have ih := spaced h.2
    rw [List.map_cons] at ih
    rw [List.map_cons, List.map_cons, Source.spaced_cons_cons, Source.lines_append,
      List.flatMap_cons]
    exact h.1.append (hblank.append ih)

end Declares

/-- No line is begun. -/
def AtLine (before : List Char) : Prop :=
  before.rtakeWhile (· ≠ '\n') = []

theorem atLine_rows {before : List Char} (h : AtLine before) (lines : List String) :
    AtLine (before ++ rows lines) := by
  rcases List.eq_nil_or_concat lines with rfl | ⟨front, last, rfl⟩
  · rwa [rows_nil, List.append_nil]
  · rw [List.concat_eq_append, rows_append, rows_cons, rows_nil, AtLine,
      ← List.append_assoc, ← List.append_assoc]
    exact List.rtakeWhile_concat_neg _ _ _ (by simp)

/-- The heading is the line before the brace. -/
theorem headingOf_append {before heading : List Char} (h : AtLine before)
    (hfeed : '\n' ∉ heading) :
    headingOf (before ++ heading) = String.ofList (heading ++ ['\x7b']) := by
  have hline : ∀ c ∈ heading.reverse, decide (c ≠ '\n') = true := by
    intro c hc
    rw [List.mem_reverse] at hc
    simpa using ne_of_mem_of_not_mem hc hfeed
  rw [AtLine, List.rtakeWhile, List.reverse_eq_nil_iff] at h
  rw [headingOf, List.rtakeWhile, List.reverse_append, List.takeWhile_append_of_pos hline, h,
    List.append_nil, List.reverse_reverse]

/-- Lines outside of all braces that hold some blocks. -/
structure Holds (lines : List String) (blocks : List Block) : Prop where
  balanced : IsBalanced (rows lines)
  read : ∀ before, AtLine before → ∃ before', AtLine before' ∧ ∀ rest,
    (readFrom 0 before (rows lines ++ rest)).2 = blocks ++ (readFrom 0 before' rest).2

namespace Holds

variable {lines lines' : List String} {blocks blocks' : List Block}

theorem nil : Holds [] [] :=
  ⟨rfl, fun before hbefore => ⟨before, hbefore, fun _ => rfl⟩⟩

theorem append (h : Holds lines blocks) (h' : Holds lines' blocks') :
    Holds (lines ++ lines') (blocks ++ blocks') := by
  refine ⟨h.balanced.rows_append h'.balanced, fun before hbefore => ?_⟩
  obtain ⟨between, hbetween, hread⟩ := h.read before hbefore
  obtain ⟨before', hbefore', hread'⟩ := h'.read between hbetween
  refine ⟨before', hbefore', fun rest => ?_⟩
  rw [rows_append, List.append_assoc, hread, hread', List.append_assoc]

/-- Lines without braces hold no block. -/
theorem of_braceless (hbraceless : Braceless (rows lines)) (hbalanced : IsBalanced (rows lines)) :
    Holds lines [] := by
  refine ⟨hbalanced, fun before hbefore => ?_⟩
  refine ⟨before ++ rows lines, atLine_rows hbefore lines, fun rest => ?_⟩
  rw [readFrom_append hbraceless]
  rfl

/-- A block holds what is declared between its braces. -/
theorem block {heading : String} {functions : List String} (hfeed : '\n' ∉ heading.toList)
    (hheading : Unbracketed heading.toList) (h : Declares lines functions) :
    Holds ([heading ++ " \x7b"] ++ lines ++ ["\x7d"]) [⟨heading ++ " \x7b", functions⟩] := by
  have hbalanced : IsBalanced (rows (Swift.block "" heading lines)) :=
    .block (by decide) hheading.balanced h.balanced
  rw [Swift.block, String.empty_append, String.empty_append] at hbalanced
  refine ⟨hbalanced, fun before hbefore => ⟨['\n'], rfl, fun rest => ?_⟩⟩
  have hstart : Calm ['\n'] := .of_not_mem (by decide) (by decide)
  obtain ⟨before', -, hread⟩ := h.read ['\n'] hstart
  have hrows : rows ([heading ++ " \x7b"] ++ lines ++ ["\x7d"]) ++ rest =
      (heading.toList ++ [' ']) ++ '\x7b' :: '\n' :: (rows lines ++ '\x7d' :: '\n' :: rest) := by
    have hopening : " \x7b".toList = [' ', '\x7b'] := rfl
    have hclosing : "\x7d".toList = ['\x7d'] := rfl
    rw [List.append_assoc, List.singleton_append, rows_cons, rows_append, rows_cons]
    simp only [String.toList_append, hopening, hclosing, rows_nil, List.append_assoc,
      List.cons_append, List.nil_append]
  have hbraceless : Braceless (heading.toList ++ [' ']) := by
    have hblank : Braceless [' '] := by decide
    exact (braceless_of_unbracketed hheading).append hblank
  have hline : headingOf (before ++ (heading.toList ++ [' '])) = heading ++ " \x7b" := by
    rw [headingOf_append hbefore (by simpa using hfeed), List.append_assoc, String.ofList_append,
      String.ofList_toList]
    rfl
  rw [hrows, readFrom_append hbraceless, readFrom_open, readFrom_cons (by decide) (by decide),
    List.nil_append, hread, readFrom_close, readFrom_cons (by decide) (by decide), openBrace,
    hline, readFrom_zero_fst, List.append_nil]
  rfl

/-- An extension with an empty line and a remark before it. -/
theorem extension {mark heading : String} {functions : List String}
    (hmark : Unbracketed mark.toList) (hfeed : '\n' ∉ heading.toList)
    (hheading : Unbracketed heading.toList) (h : Declares lines functions) :
    Holds (["", mark, heading ++ " \x7b"] ++ lines ++ ["\x7d"])
      [⟨heading ++ " \x7b", functions⟩] := by
  have hfront : Unbracketed (rows ["", mark]) := by
    intro c hc
    rw [rows_cons, rows_cons, rows_nil, List.mem_append, List.mem_cons, List.mem_append,
      List.mem_singleton] at hc
    rcases hc with hc | rfl | hc | rfl
    · cases hc
    · decide
    · exact hmark c hc
    · decide
  have hremark : Holds ["", mark] [] :=
    .of_braceless (braceless_of_unbracketed hfront) hfront.balanced
  exact hremark.append (block hfeed hheading h)

/-- Lines that hold one block each are read one after another. -/
theorem flatMap {α : Type} {items : List α} {lines : α → List String} {block : α → Block}
    (h : ∀ item ∈ items, Holds (lines item) [block item]) :
    Holds (items.flatMap lines) (items.map block) := by
  induction items with
  | nil => exact nil
  | cons item rest ih =>
    rw [List.forall_mem_cons] at h
    rw [List.flatMap_cons, List.map_cons]
    exact h.1.append (ih h.2)

/-- The blocks are those of the text. -/
theorem readAll {text : String} (h : Holds lines blocks) (htext : text.toList = rows lines) :
    Block.readAll text = blocks := by
  obtain ⟨before', -, hread⟩ := h.read [] rfl
  have hend := hread []
  rw [List.append_nil] at hend
  rw [Block.readAll, htext, hend]
  exact List.append_nil _

end Holds

end Block

/-- A text that is nested properly and holds some blocks, outside of which there are none. -/
structure Nests (blocks : List Block) (text : String) : Prop where
  /-- The brackets nest and are all closed. -/
  brackets : IsBalanced text.toList
  /-- The directives nest, the conditions are all ended, and each branch is balanced on its own. -/
  branches : ∃ branches, branches? text = some branches ∧ ∀ branch ∈ branches, IsBalanced branch
  blocks : Block.readAll text = blocks

/-- The text of a source is nested properly when its lines hold blocks and its branches are
balanced. -/
theorem Nests.of_source {s : Source} {blocks : List Block} (hne : s.lines ≠ [])
    (h : Block.Holds s.lines blocks) (hunmarked : ∀ c ∈ s, c.Unmarked)
    (hbranches : ∀ c ∈ s, ∀ branch ∈ c.branches, IsBalanced branch) : Nests blocks s.text := by
  have htext : s.text.toList = rows s.lines := Source.toList_text hne
  refine ⟨?_, ⟨_, branches?_text hne hunmarked, fun branch hb => ?_⟩, h.readAll htext⟩
  · rw [htext]
    exact h.balanced
  · obtain ⟨c, hc, hb⟩ := List.mem_flatMap.1 hb
    exact hbranches c hc branch hb

end Swift

end Lanewise
