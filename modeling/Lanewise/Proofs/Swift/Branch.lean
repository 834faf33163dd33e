import Lanewise.Proofs.Swift.Bracket
import Lanewise.Proofs.Swift.Conditional
import Mathlib.Data.List.TakeWhile

/-!
# Directives that nest

The directives of a text nest when each alternative and each end belongs to a condition that is
open, and no condition is left open. Then the text has certain branches: what stands between a
condition and its alternative or its end, and between the alternative and the end. The branches of
the text of a source are those of its chunks, provided no other line looks like a directive.
-/

namespace Lanewise

namespace Swift

/-- The directive of a line, whatever its condition is. -/
def Directive.ofLine? (line : List Char) : Option Directive :=
  let told := line.dropWhile (· = ' ')
  if "#if".toList.isPrefixOf told then some .opening
  else if "#else".toList.isPrefixOf told then some .alternative
  else if "#endif".toList.isPrefixOf told then some .closing
  else none

/-- A condition that is not ended yet. -/
structure OpenCondition where
  /-- Whether its second branch has begun. -/
  alternative : Bool
  /-- The text of the branch so far. -/
  branch : List Char

/-- The condition with one more line in its branch. -/
def OpenCondition.add (line : List Char) (condition : OpenCondition) : OpenCondition :=
  { condition with branch := condition.branch ++ line ++ ['\n'] }

/-- The branches in some lines, inside of some conditions of which the innermost comes first. A
branch counts where it ends. There are none if the directives do not nest. -/
def branchesFrom (conditions : List OpenCondition) :
    List (List Char) → Option (List (List Char))
  | [] => if conditions.isEmpty then some [] else none
  | line :: rest =>
    match Directive.ofLine? line, conditions with
    | none, _ => branchesFrom (conditions.map (·.add line)) rest
    | some .opening, _ => branchesFrom (⟨false, []⟩ :: conditions) rest
    | some .alternative, ⟨false, branch⟩ :: outer =>
      (branchesFrom (⟨true, []⟩ :: outer) rest).map (branch :: ·)
    | some .closing, ⟨_, branch⟩ :: outer => (branchesFrom outer rest).map (branch :: ·)
    | _, _ => none

/-- The branches of a text, if its directives nest. -/
def branches? (text : String) : Option (List (List Char)) :=
  branchesFrom [] (textLines text)

/-! ## Reading one line -/

section

variable {line : List Char} (rest : List (List Char))

theorem branchesFrom_none (h : Directive.ofLine? line = none) (conditions : List OpenCondition) :
    branchesFrom conditions (line :: rest) =
      branchesFrom (conditions.map (·.add line)) rest := by
  rw [branchesFrom.eq_def]
  simp only [h]

theorem branchesFrom_opening (h : Directive.ofLine? line = some .opening)
    (conditions : List OpenCondition) :
    branchesFrom conditions (line :: rest) = branchesFrom (⟨false, []⟩ :: conditions) rest := by
  rw [branchesFrom.eq_def]
  simp only [h]

theorem branchesFrom_alternative (h : Directive.ofLine? line = some .alternative)
    (branch : List Char) (outer : List OpenCondition) :
    branchesFrom (⟨false, branch⟩ :: outer) (line :: rest) =
      (branchesFrom (⟨true, []⟩ :: outer) rest).map (branch :: ·) := by
  rw [branchesFrom.eq_def]
  simp only [h]

theorem branchesFrom_closing (h : Directive.ofLine? line = some .closing)
    (condition : OpenCondition) (outer : List OpenCondition) :
    branchesFrom (condition :: outer) (line :: rest) =
      (branchesFrom outer rest).map (condition.branch :: ·) := by
  rw [branchesFrom.eq_def]
  simp only [h]

end

/-! ## Lines that are no directives -/

theorem Directive.ofLine?_eq_none {line : List Char}
    (h : (line.dropWhile (· = ' ')).head? ≠ some '#') : ofLine? line = none := by
  have hne : ∀ word : String, word.toList.head? = some '#' →
      ¬ word.toList.isPrefixOf (line.dropWhile (· = ' ')) := by
    intro word hword hprefix
    obtain ⟨letters, hletters⟩ := List.head?_eq_some_iff.1 hword
    rw [hletters, List.isPrefixOf_iff_prefix] at hprefix
    obtain ⟨rest, hrest⟩ := hprefix
    rw [← hrest] at h
    exact h rfl
  unfold ofLine?
  rw [if_neg (hne _ rfl), if_neg (hne _ rfl), if_neg (hne _ rfl)]

/-- In front of a text without line feeds, only the last line of another one goes on. -/
theorem mem_textLines_append {a b : String} (hb : '\n' ∉ b.toList) {piece : List Char}
    (hp : piece ∈ textLines (a ++ b)) :
    piece ⊆ a.toList ∨ ∃ last ⊆ a.toList, piece = last ++ b.toList := by
  rw [textLines, String.toList_append] at hp
  generalize a.toList = cs at hp ⊢
  generalize b.toList = ds at hb hp ⊢
  induction cs generalizing piece with
  | nil =>
    rw [List.nil_append, List.splitOn_eq_singleton hb, List.mem_singleton] at hp
    exact .inr ⟨[], List.nil_subset _, hp⟩
  | cons c rest ih =>
    have hstep : ∀ {piece}, piece ∈ (rest ++ ds).splitOn '\n' → piece ⊆ c :: rest ∨
        ∃ last ⊆ c :: rest, piece = last ++ ds := by
      intro piece hp
      rcases ih hp with h | ⟨last, hlast, rfl⟩
      · exact .inl (List.subset_cons_of_subset c h)
      · exact .inr ⟨last, List.subset_cons_of_subset c hlast, rfl⟩
    rw [List.cons_append, List.splitOn_cons_eq_if_modifyHead] at hp
    split at hp
    · rcases List.mem_cons.1 hp with rfl | hp
      · exact .inl (List.nil_subset _)
      · exact hstep hp
    · obtain ⟨first, others, hsplit⟩ :=
        List.exists_cons_of_ne_nil (List.splitOn_ne_nil '\n' (rest ++ ds))
      rw [hsplit, List.modifyHead_cons] at hp
      rcases List.mem_cons.1 hp with rfl | hp
      · rcases ih (hsplit ▸ List.mem_cons_self) with h | ⟨last, hlast, rfl⟩
        · exact .inl (List.cons_subset_cons c h)
        · exact .inr ⟨c :: last, List.cons_subset_cons c hlast, rfl⟩
      · exact hstep (hsplit ▸ List.mem_cons_of_mem _ hp)

/-- A hash starts no line if a mark stands before it that is no blank. -/
theorem Unmarked.of_mark {a mark b : String} (ha : '#' ∉ a.toList) (hb : '\n' ∉ b.toList)
    (hhash : '#' ∉ mark.toList) (hfeed : '\n' ∉ mark.toList)
    (hmark : ∃ c ∈ mark.toList, c ≠ ' ') : Unmarked (a ++ mark ++ b) := by
  have hhead : ∀ front : List Char, '#' ∉ front → (∃ c ∈ front, c ≠ ' ') → ∀ back : List Char,
      ((front ++ back).dropWhile (· = ' ')).head? ≠ some '#' := by
    intro front hfront hword back hh
    have hne : front.dropWhile (· = ' ') ≠ [] := by
      simpa [List.dropWhile_eq_nil_iff] using hword
    rw [List.dropWhile_append, if_neg (by simpa using hne), List.head?_append_of_ne_nil _ hne] at hh
    exact hfront ((List.dropWhile_sublist _).subset (List.mem_of_mem_head? (Option.mem_def.2 hh)))
  rw [String.append_assoc]
  intro piece hp
  rcases mem_textLines_append (not_mem_append hfeed hb) hp with hsubset | ⟨last, hlast, rfl⟩
  · intro hh
    have hpiece := (List.dropWhile_sublist _).subset (List.mem_of_mem_head? (Option.mem_def.2 hh))
    exact ha (hsubset hpiece)
  · rw [String.toList_append, ← List.append_assoc]
    refine hhead _ ?_ ?_ _
    · rw [List.mem_append]
      rintro (h | h)
      · exact ha (hlast h)
      · exact hhash h
    · obtain ⟨c, hc, hne⟩ := hmark
      exact ⟨c, List.mem_append_right _ hc, hne⟩

/-! ## The branches of sources -/

/-- A chunk of which only the directives look like directives. -/
def Chunk.Unmarked : Chunk → Prop
  | plain lines => ∀ line ∈ lines, Swift.Unmarked line
  | conditional margin module present absent =>
    margin.toList.all (· = ' ') = true ∧ '\n' ∉ module.toList ∧
      (∀ line ∈ present, Swift.Unmarked line) ∧ ∀ line ∈ absent, Swift.Unmarked line

/-- The branches of a chunk. -/
def Chunk.branches : Chunk → List (List Char)
  | plain _ => []
  | conditional _ _ present absent =>
    rows present :: if absent.isEmpty then [] else [rows absent]

theorem textLines_flatMap (line : String) :
    (textLines line).flatMap (· ++ ['\n']) = line.toList ++ ['\n'] := by
  have hjoin : ∀ lines : List (List Char), lines ≠ [] →
      lines.flatMap (· ++ ['\n']) = ['\n'].intercalate lines ++ ['\n'] := by
    intro lines hne
    induction lines with
    | nil => exact absurd rfl hne
    | cons first rest ih =>
      cases rest with
      | nil => simp
      | cons second rest =>
        rw [List.flatMap_cons, ih (by simp), List.intercalate_cons_cons]
        simp only [List.append_assoc]
  rw [textLines, hjoin _ (List.splitOn_ne_nil _ _), List.intercalate_splitOn]

/-- Lines that do not look like directives belong to all branches that are open. -/
theorem branchesFrom_unmarked {lines : List String} (h : ∀ line ∈ lines, Unmarked line)
    (conditions : List OpenCondition) (rest : List (List Char)) :
    branchesFrom conditions (lines.flatMap textLines ++ rest) =
      branchesFrom (conditions.map fun condition =>
        { condition with branch := condition.branch ++ rows lines }) rest := by
  have hrows : rows lines = (lines.flatMap textLines).flatMap (· ++ ['\n']) := by
    rw [List.flatMap_assoc, rows]
    simp only [textLines_flatMap]
  have hpieces : ∀ piece ∈ lines.flatMap textLines, Directive.ofLine? piece = none := by
    intro piece hp
    obtain ⟨line, hl, hp⟩ := List.mem_flatMap.1 hp
    exact Directive.ofLine?_eq_none (h line hl piece hp)
  rw [hrows]
  generalize lines.flatMap textLines = pieces at hpieces ⊢
  induction pieces generalizing conditions with
  | nil => simp
  | cons piece pieces ih =>
    rw [List.forall_mem_cons] at hpieces
    rw [List.cons_append, branchesFrom_none _ hpieces.1, ih _ hpieces.2, List.map_map,
      List.flatMap_cons]
    congr 1
    refine List.map_congr_left fun condition _ => ?_
    simp [OpenCondition.add]

/-- A directive stands behind a margin. -/
theorem ofLine?_margin {margin : String} (hmargin : margin.toList.all (· = ' ') = true)
    {told : List Char} {d : Directive} (h : Directive.ofLine? told = some d) :
    Directive.ofLine? (margin.toList ++ told) = some d := by
  rw [← h]
  unfold Directive.ofLine?
  rw [List.dropWhile_append_of_pos (List.all_eq_true.1 hmargin)]

theorem ofLine?_opening (module : String) :
    Directive.ofLine? ("#if canImport(" ++ module ++ ")").toList = some .opening := by
  simp [Directive.ofLine?, String.toList_append]

/-- The branches of a chunk come before those of what follows. -/
theorem branchesFrom_chunk {c : Chunk} (h : c.Unmarked) (rest : List (List Char)) :
    branchesFrom [] (c.lines.flatMap textLines ++ rest) =
      (branchesFrom [] rest).map (c.branches ++ ·) := by
  cases c with
  | plain lines =>
    rw [Chunk.lines, branchesFrom_unmarked h, Chunk.branches]
    simp
  | conditional margin module present absent =>
    obtain ⟨hmargin, hmodule, hpresent, habsent⟩ := h
    have hfeed : '\n' ∉ ("#if canImport(" ++ module ++ ")").toList := by
      simpa [String.toList_append] using hmodule
    have hassoc : margin ++ "#if canImport(" ++ module ++ ")" =
        margin ++ ("#if canImport(" ++ module ++ ")") := by
      simp only [String.append_assoc]
    have hopening := ofLine?_margin hmargin (ofLine?_opening module)
    have halternative : Directive.ofLine? (margin.toList ++ "#else".toList) = some .alternative :=
      ofLine?_margin hmargin (by decide)
    have hclosing : Directive.ofLine? (margin.toList ++ "#endif".toList) = some .closing :=
      ofLine?_margin hmargin (by decide)
    have hend : ∀ condition : OpenCondition,
        branchesFrom [condition] (textLines (margin ++ "#endif") ++ rest) =
          (branchesFrom [] rest).map (condition.branch :: ·) := by
      intro condition
      rw [textLines_directive hmargin (by decide), List.singleton_append,
        branchesFrom_closing _ hclosing]
    rw [Chunk.lines, Chunk.branches, hassoc]
    simp only [List.flatMap_append, List.flatMap_cons, List.flatMap_nil, List.append_nil,
      List.append_assoc]
    rw [textLines_directive hmargin hfeed, List.singleton_append, branchesFrom_opening _ hopening,
      branchesFrom_unmarked hpresent, List.map_cons, List.map_nil]
    by_cases hempty : absent = []
    · subst hempty
      rw [List.isEmpty_nil, if_pos rfl, if_pos rfl, List.flatMap_nil, List.nil_append,
        List.nil_append, hend]
      rfl
    · have habsent' : absent.isEmpty = false := by simp [hempty]
      rw [habsent', if_neg Bool.false_ne_true, if_neg Bool.false_ne_true, List.flatMap_cons,
        List.append_assoc, textLines_directive hmargin (by decide), List.singleton_append,
        branchesFrom_alternative _ halternative, branchesFrom_unmarked habsent, List.map_cons,
        List.map_nil, hend, Option.map_map]
      rfl

/-- The directives of a source nest, and its branches are those of its chunks. -/
theorem branches?_text {s : Source} (hne : s.lines ≠ []) (h : ∀ c ∈ s, c.Unmarked) :
    branches? s.text = some (s.flatMap Chunk.branches) := by
  have hsource : branchesFrom [] (s.lines.flatMap textLines ++ [[]]) =
      some (s.flatMap Chunk.branches) := by
    clear hne
    induction s with
    | nil => rfl
    | cons c s ih =>
      rw [List.forall_mem_cons] at h
      rw [Source.lines_cons, List.flatMap_append, List.append_assoc, branchesFrom_chunk h.1,
        ih h.2, List.flatMap_cons]
      rfl
  rw [branches?, Source.textLines_text hne, hsource]

end Swift

end Lanewise
