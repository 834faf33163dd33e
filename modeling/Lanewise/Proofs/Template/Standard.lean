import Lanewise.Proofs.Identifier
import Lanewise.Proofs.Swift.Component
import Lanewise.Proofs.Template.Engine
import Lanewise.Template.Standard

/-!
# The standard engine is lawful

The standard engine cuts a source into pieces, and the pieces of a template are found from its front:
a character of the text is a piece, unless it is a line break that is not shown, and a placeholder is
one. White space never goes on with a name, so the name of a placeholder ends where it was written to
end. An ordinary name shares its slot with no other ordinary name, since it is its own compatibility
form.
-/

namespace Lanewise

namespace Template

open Text

/-! ## Characters -/

/-- Ranges that keep apart have no character in common. -/
theorem inRanges_eq_false {ranges others : List (Nat × Nat)} {c : Char}
    (hapart : ranges.all (fun range =>
      others.all fun other => range.2 < other.1 || other.2 < range.1) = true)
    (h : inRanges ranges c = true) : inRanges others c = false := by
  rw [inRanges, List.any_eq_true] at h
  obtain ⟨range, hmem, hrange⟩ := h
  rw [Bool.and_eq_true, decide_eq_true_eq, decide_eq_true_eq] at hrange
  rw [inRanges, List.any_eq_false]
  intro other hother
  have hbetween := List.all_eq_true.1 (List.all_eq_true.1 hapart range hmem) other hother
  rw [Bool.or_eq_true, decide_eq_true_eq, decide_eq_true_eq] at hbetween
  rw [Bool.and_eq_true, decide_eq_true_eq, decide_eq_true_eq]
  omega

/-- The characters that end a name in a placeholder: white space and the closing brace. -/
def endingRanges : List (Nat × Nat) :=
  (0x7d, 0x7d) :: blankRanges

/-- What ends a name does not go on with it. -/
theorem continuesName_of_ending {c : Char} (h : inRanges endingRanges c = true) :
    continuesName c = false := by
  have hapart : endingRanges.all (fun range => (alphanumericRanges ++ joiningRanges).all
      fun other => range.2 < other.1 || other.2 < range.1) = true := by
    decide +kernel
  have hothers := inRanges_eq_false hapart h
  rw [inRanges, List.any_append, Bool.or_eq_false_iff] at hothers
  obtain ⟨halphanumeric, hjoining⟩ := hothers
  have htail : Identifier.isTail c = false := by
    rw [Bool.eq_false_iff]
    intro htail
    obtain ⟨hlow, hhigh⟩ := Identifier.toNat_of_isTail htail
    simp only [inRanges, endingRanges, blankRanges, List.any_cons, List.any_nil, Bool.or_eq_true,
      Bool.and_eq_true, decide_eq_true_eq, Bool.false_eq_true, or_false] at h
    omega
  rw [Identifier.isTail, Bool.or_eq_false_iff] at htail
  have hword : isWordChar c = false := by
    rw [isWordChar, htail.2, Bool.false_or, isAlphanumeric]
    split
    · exact htail.1
    · exact halphanumeric
  rw [continuesName, hword, Bool.false_or]
  exact hjoining

/-- White space does not go on with a name. -/
theorem continuesName_eq_false {c : Char} (h : isBlank c = true) : continuesName c = false := by
  refine continuesName_of_ending ?_
  rw [inRanges, endingRanges, List.any_cons, Bool.or_eq_true]
  exact .inr h

theorem isBlank_of_continuesName {c : Char} (h : continuesName c = true) : isBlank c = false := by
  rw [Bool.eq_false_iff]
  intro hblank
  rw [continuesName_eq_false hblank] at h
  cases h

theorem isBlank_lineBreak : isBlank '\r' = true ∧ isBlank '\n' = true := by
  decide

theorem continuesName_of_isTail {c : Char} (h : Identifier.isTail c = true) :
    continuesName c = true := by
  obtain ⟨-, hhigh⟩ := Identifier.toNat_of_isTail h
  have hcode : c.toNat < 0x80 := by omega
  have hword : isWordChar c = true := by
    rw [isWordChar, isAlphanumeric, if_pos hcode, Bool.or_comm]
    exact h
  rw [continuesName, hword, Bool.true_or]

theorem isDigit_of_isHead {c : Char} (h : Identifier.isHead c = true) : c.isDigit = false := by
  rw [Bool.eq_false_iff]
  intro hdigit
  exact ((Identifier.isHead_iff c).1 h).2 ((Identifier.isDigit_iff c).1 hdigit)

/-! ## Line breaks -/

theorem unifyBreaks_cons {c : Char} (h : c ≠ '\r') (rest : List Char) :
    unifyBreaks (c :: rest) = c :: unifyBreaks rest := by
  rw [unifyBreaks.eq_3 c rest (fun _ hc _ => h hc), if_neg h]

/-- A return becomes a line feed, or goes away in front of one. -/
theorem unifyBreaks_return (rest : List Char) :
    unifyBreaks ('\r' :: rest) =
      unifyBreaks (if rest.head? = some '\n' then rest else '\n' :: rest) := by
  by_cases hnext : rest.head? = some '\n'
  · obtain ⟨after, rfl⟩ := List.head?_eq_some_iff.1 hnext
    rfl
  · have hpair : ∀ after, '\r' = '\r' → rest = '\n' :: after → False := by
      rintro after - rfl
      exact hnext rfl
    rw [if_neg hnext, unifyBreaks.eq_3 _ _ hpair]
    rfl

theorem unifyBreaks_ne_nil {text : List Char} (h : text ≠ []) : unifyBreaks text ≠ [] := by
  cases text using unifyBreaks.fun_cases with
  | case1 => exact absurd rfl h
  | case2 rest => exact List.cons_ne_nil _ _
  | case3 c rest hpair =>
    rw [unifyBreaks.eq_3 _ _ hpair]
    exact List.cons_ne_nil _ _

/-- Line breaks are unified on both sides of a place that does not split one. -/
theorem unifyBreaks_append {front rest : List Char}
    (h : front.getLast? ≠ some '\r' ∨ rest.head? ≠ some '\n') :
    unifyBreaks (front ++ rest) = unifyBreaks front ++ unifyBreaks rest := by
  induction front using unifyBreaks.induct with
  | case1 => rfl
  | case2 front ih =>
    have hfront : front.getLast? ≠ some '\r' ∨ rest.head? ≠ some '\n' := by
      refine h.imp_left fun hlast => ?_
      cases front with
      | nil => exact nofun
      | cons d front => exact hlast
    exact congrArg ('\n' :: ·) (ih hfront)
  | case3 c front hpair ih =>
    have hfront : front.getLast? ≠ some '\r' ∨ rest.head? ≠ some '\n' := by
      refine h.imp_left fun hlast => ?_
      cases front with
      | nil => exact nofun
      | cons d front => exact hlast
    have hpair' : ∀ after, c = '\r' → front ++ rest = '\n' :: after → False := by
      intro after hc happend
      cases front with
      | nil =>
        refine h.elim (fun hlast => hlast (congrArg some hc)) fun hhead => hhead ?_
        rw [← List.nil_append rest, happend]
        rfl
      | cons d front =>
        obtain ⟨rfl, -⟩ := List.cons.inj happend
        exact hpair front hc rfl
    rw [List.cons_append, unifyBreaks.eq_3 _ _ hpair', unifyBreaks.eq_3 _ _ hpair, ih hfront]
    rfl

theorem isBlank_of_mem_unifyBreaks {c : Char} {text : List Char}
    (h : ∀ d ∈ text, isBlank d = true) (hc : c ∈ unifyBreaks text) : isBlank c = true := by
  induction text using unifyBreaks.induct with
  | case1 => cases hc
  | case2 rest ih =>
    simp only [List.forall_mem_cons] at h
    rcases List.mem_cons.1 hc with rfl | hmem
    · exact isBlank_lineBreak.2
    · exact ih h.2.2 hmem
  | case3 d rest hpair ih =>
    rw [List.forall_mem_cons] at h
    rw [unifyBreaks.eq_3 _ _ hpair] at hc
    rcases List.mem_cons.1 hc with rfl | hmem
    · split
      · exact isBlank_lineBreak.2
      · exact h.1
    · exact ih h.2 hmem

theorem head?_of_unifyBreaks {text : List Char} (h : (unifyBreaks text).head? = some '{') :
    text.head? = some '{' := by
  cases text using unifyBreaks.fun_cases with
  | case1 => cases h
  | case2 rest => cases h
  | case3 c rest hpair =>
    rw [unifyBreaks.eq_3 _ _ hpair, List.head?_cons] at h
    split at h
    · cases h
    · exact h

theorem dropFinalBreak_cons {c : Char} {text : List Char} (h : c = '\n' → text ≠ []) :
    dropFinalBreak (c :: text) = c :: dropFinalBreak text := by
  cases text with
  | nil =>
    have hc : [c].getLast? ≠ some '\n' := by
      rintro ⟨⟩
      exact h rfl rfl
    exact if_neg hc
  | cons d rest =>
    have hlast : (c :: d :: rest).getLast? = (d :: rest).getLast? := rfl
    rw [dropFinalBreak, dropFinalBreak, hlast]
    split <;> rfl

theorem dropFinalBreak_append {front : List Char} (h : front.getLast? ≠ some '\n')
    (rest : List Char) : dropFinalBreak (front ++ rest) = front ++ dropFinalBreak rest := by
  unfold dropFinalBreak
  by_cases hrest : rest = []
  · subst hrest
    rw [List.append_nil, if_neg h]
    exact (List.append_nil front).symm
  · rw [List.getLast?_append_of_ne_nil _ hrest]
    split
    · rw [List.dropLast_append_of_ne_nil hrest]
    · rfl

theorem head?_of_dropFinalBreak {text : List Char} {c : Char}
    (h : (dropFinalBreak text).head? = some c) : text.head? = some c := by
  have hstart : dropFinalBreak text <+: text := by
    unfold dropFinalBreak
    split
    · exact List.dropLast_prefix text
    · exact List.prefix_refl text
  obtain ⟨behind, hbehind⟩ := hstart
  obtain ⟨rest, hrest⟩ := List.head?_eq_some_iff.1 h
  rw [← hbehind, hrest]
  rfl

/-! ## Pieces -/

theorem pieces_of_hole? {chars rest : List Char} {name : String}
    (h : hole? chars = some (name, rest)) :
    pieces ('{' :: '{' :: chars) = .hole name :: pieces rest := by
  rw [pieces]
  split
  · rename_i hfound
    rw [h] at hfound
    cases hfound
    rfl
  · rename_i hnone
    rw [h] at hnone
    cases hnone

/-- A name with white space around it is found in front of closing braces. -/
theorem hole?_append {before after name : List Char} (hbefore : ∀ c ∈ before, isBlank c = true)
    (hafter : ∀ c ∈ after, isBlank c = true) (hstart : isHoleName name = true)
    (hname : ∀ c ∈ name, continuesName c = true) (rest : List Char) :
    hole? (before ++ (name ++ (after ++ '}' :: '}' :: rest))) =
      some (String.ofList name, rest) := by
  have hbrace : isBlank '}' = false ∧ continuesName '}' = false :=
    ⟨rfl, continuesName_of_ending rfl⟩
  have hfirst : (name ++ (after ++ '}' :: '}' :: rest)).head?.any isBlank = false := by
    cases name with
    | nil => cases hstart
    | cons c name => exact isBlank_of_continuesName (hname c List.mem_cons_self)
  have hend : (after ++ '}' :: '}' :: rest).head?.any continuesName = false := by
    cases after with
    | nil =>
      rw [List.nil_append, List.head?_cons, Option.any_some]
      exact hbrace.2
    | cons c after => exact continuesName_eq_false (hafter c List.mem_cons_self)
  have hclosed : ('}' :: '}' :: rest).head?.any isBlank = false := hbrace.1
  have hspace := Swift.span_append hbefore hfirst
  have hword := Swift.span_append hname hend
  have hclosing := Swift.span_append hafter hclosed
  simp only [hole?, hspace.2, hword.1, hword.2, hclosing.2]
  rw [if_pos hstart]

/-- A character is text, if no placeholder opens there. -/
theorem pieces_cons {c : Char} {rest : List Char} (h : c = '{' → rest.head? ≠ some '{') :
    pieces (c :: rest) = .char c :: pieces rest := by
  rw [pieces.eq_3]
  rintro after rfl rfl
  exact h rfl rfl

namespace IsOrdinary

variable {name : String}

theorem continuesName (h : IsOrdinary name) : ∀ c ∈ name.toList, continuesName c = true :=
  fun c hc => continuesName_of_isTail (List.all_eq_true.1 h.continued c hc)

theorem isHoleName (h : IsOrdinary name) : isHoleName name.toList = true := by
  have hstart := h.start
  cases hname : name.toList with
  | nil =>
    rw [hname] at hstart
    cases hstart
  | cons c rest =>
    rw [hname] at hstart
    exact congrArg not (isDigit_of_isHead hstart)

theorem not_mem_of_isBlank (h : IsOrdinary name) {c : Char} (hblank : isBlank c = true) :
    c ∉ name.toList := by
  intro hmem
  have hname := h.continuesName c hmem
  rw [continuesName_eq_false hblank] at hname
  cases hname

end IsOrdinary

/-- The line breaks of a placeholder are in the white space around its name. -/
theorem Placeholder.unifyBreaks_source (p : Placeholder) (h : IsOrdinary p.name)
    (rest : List Char) :
    unifyBreaks (p.source ++ rest) =
      '{' :: '{' :: (unifyBreaks p.before ++
        (p.name.toList ++ (unifyBreaks p.after ++ '}' :: '}' :: unifyBreaks rest))) := by
  have hreturn : '\r' ∉ p.name.toList := h.not_mem_of_isBlank isBlank_lineBreak.1
  have hfeed : '\n' ∉ p.name.toList := h.not_mem_of_isBlank isBlank_lineBreak.2
  have hbefore : (p.name.toList ++ (p.after ++ '}' :: '}' :: rest)).head? ≠ some '\n' := by
    have hstart := h.isHoleName
    cases hname : p.name.toList with
    | nil =>
      rw [hname] at hstart
      cases hstart
    | cons c rest =>
      rintro ⟨⟩
      exact hfeed (hname ▸ List.mem_cons_self)
  have hname : p.name.toList.getLast? ≠ some '\r' := fun hlast =>
    hreturn (List.mem_of_getLast? hlast)
  have hself : ∀ text : List Char, '\r' ∉ text → unifyBreaks text = text := by
    intro text htext
    induction text with
    | nil => rfl
    | cons c text ih =>
      rw [List.mem_cons, not_or] at htext
      rw [unifyBreaks_cons (Ne.symm htext.1), ih htext.2]
  have hafter : ('}' :: '}' :: rest).head? ≠ some '\n' := nofun
  have hclosing : unifyBreaks ('}' :: '}' :: rest) = '}' :: '}' :: unifyBreaks rest := by
    rw [unifyBreaks_cons (by decide), unifyBreaks_cons (by decide)]
  have hsource : p.source ++ rest =
      '{' :: '{' :: (p.before ++ (p.name.toList ++ (p.after ++ '}' :: '}' :: rest))) := by
    simp [source]
  rw [hsource, unifyBreaks_cons (by decide), unifyBreaks_cons (by decide),
    unifyBreaks_append (.inr hbefore), unifyBreaks_append (.inl hname), hself _ hreturn,
    unifyBreaks_append (.inr hafter), hclosing]

/-- A character of the text is a piece. -/
theorem piecesOf_cons {c : Char} {rest : List Char} (hopens : opens c rest = false)
    (hreturn : c ≠ '\r') (hlast : c = '\n' → rest ≠ []) :
    piecesOf (c :: rest) = .char c :: piecesOf rest := by
  have hdrop : dropFinalBreak (unifyBreaks (c :: rest)) =
      c :: dropFinalBreak (unifyBreaks rest) := by
    rw [unifyBreaks_cons hreturn, dropFinalBreak_cons fun hc => unifyBreaks_ne_nil (hlast hc)]
  rw [piecesOf, hdrop]
  refine pieces_cons fun hc hhead => ?_
  subst hc
  rw [opens, head?_of_unifyBreaks (head?_of_dropFinalBreak hhead)] at hopens
  cases hopens

/-- A placeholder is a piece. -/
theorem piecesOf_placeholder (p : Placeholder) (h : IsOrdinary p.name) (rest : List Char) :
    piecesOf (p.source ++ rest) = .hole p.name :: piecesOf rest := by
  have hbefore : ∀ c ∈ unifyBreaks p.before, isBlank c = true := fun c =>
    isBlank_of_mem_unifyBreaks fun d hd => p.blank d (List.mem_append_left _ hd)
  have hafter : ∀ c ∈ unifyBreaks p.after, isBlank c = true := fun c =>
    isBlank_of_mem_unifyBreaks fun d hd => p.blank d (List.mem_append_right _ hd)
  let front := '{' :: '{' :: (unifyBreaks p.before ++
    (p.name.toList ++ (unifyBreaks p.after ++ ['}', '}'])))
  have hfront : ∀ text, '{' :: '{' :: (unifyBreaks p.before ++
      (p.name.toList ++ (unifyBreaks p.after ++ '}' :: '}' :: text))) = front ++ text := by
    intro text
    simp [front]
  have hend : front.getLast? ≠ some '\n' := by
    simp [front, List.getLast?_append, List.getLast?_cons]
  rw [piecesOf, p.unifyBreaks_source h, hfront, dropFinalBreak_append hend, ← hfront,
    pieces_of_hole? (hole?_append hbefore hafter h.isHoleName h.continuesName _),
    String.ofList_toList]
  rfl

theorem piecesOf_nil : piecesOf [] = [] := by
  simp [piecesOf, unifyBreaks, dropFinalBreak, pieces]

theorem piecesOf_lastFeed : piecesOf ['\n'] = [] :=
  piecesOf_nil

theorem hole_mem_of_mem_cons_char {name : String} {c : Char} {template : List Piece}
    (h : .hole name ∈ .char c :: template) : .hole name ∈ template := by
  cases h with
  | tail _ hmem => exact hmem

/-- The names in the holes of a template are allowed ones. -/
theorem allowed_of_mem_piecesOf {allowed : String → Prop}
    (hallowed : ∀ name, allowed name → IsOrdinary name) {source : List Char}
    (h : IsTemplate allowed source) {name : String} (hmem : .hole name ∈ piecesOf source) :
    allowed name := by
  induction h with
  | nil =>
    rw [piecesOf_nil] at hmem
    cases hmem
  | @char c rest hopens h ih =>
    have hfeed : .hole name ∈ piecesOf ('\n' :: rest) → allowed name := by
      intro hmem
      by_cases hrest : rest = []
      · subst hrest
        rw [piecesOf_lastFeed] at hmem
        cases hmem
      · rw [piecesOf_cons rfl (by decide) fun _ => hrest] at hmem
        exact ih (hole_mem_of_mem_cons_char hmem)
    by_cases hreturn : c = '\r'
    · rw [hreturn, piecesOf, unifyBreaks_return, ← piecesOf] at hmem
      split at hmem
      · exact ih hmem
      · exact hfeed hmem
    · by_cases hc : c = '\n'
      · exact hfeed (hc ▸ hmem)
      · rw [piecesOf_cons hopens hreturn fun h => absurd h hc] at hmem
        exact ih (hole_mem_of_mem_cons_char hmem)
  | @placeholder p rest hname _ ih =>
    rw [piecesOf_placeholder p (hallowed _ hname)] at hmem
    rcases List.mem_cons.1 hmem with hhole | hmem
    · exact Piece.hole.inj hhole ▸ hname
    · exact ih hmem

/-! ## Names -/

theorem decomposed_eq_singleton {c : Char} (h : Identifier.isTail c = true) :
    decomposed c = [c] := by
  obtain ⟨-, hhigh⟩ := Identifier.toNat_of_isTail h
  have hcode : c.toNat < 0xa0 := by omega
  rw [decomposed, spelling, if_pos hcode, List.map_singleton, Char.ofNat_toNat]

/-- Texts of ASCII are their own compatibility forms. -/
theorem compatibilityForm_eq_self {text : List Char} (h : text.all Identifier.isTail = true) :
    compatibilityForm text = text := by
  have hchars := List.all_eq_true.1 h
  have hdecomposed : text.flatMap decomposed = text := by
    rw [List.flatMap_congr fun c hc => decomposed_eq_singleton (hchars c hc)]
    exact List.flatMap_singleton' text
  rw [compatibilityForm, hdecomposed]
  clear h hdecomposed
  induction text with
  | nil => rfl
  | cons c text ih =>
    rw [List.forall_mem_cons] at hchars
    rw [List.foldr_cons, ih hchars.2]
    cases text with
    | nil => rfl
    | cons d text =>
      obtain ⟨-, hhigh⟩ := Identifier.toNat_of_isTail (hchars.2 d List.mem_cons_self)
      have hclass : combiningClass d = 0 := if_pos (by omega)
      exact if_neg fun hmark => absurd hmark.1 (by omega)

namespace IsOrdinary

variable {name : String}

theorem eq_of_sharesSlot (h : IsOrdinary name) {other : String} (hother : IsOrdinary other)
    (hslot : sharesSlot name other = true) : other = name := by
  have hform := of_decide_eq_true hslot
  rw [compatibilityForm_eq_self h.continued, compatibilityForm_eq_self hother.continued] at hform
  exact (String.toList_injective hform).symm

/-- Among ordinary names each fills its own slot. -/
theorem filler_eq_self (h : IsOrdinary name) {names : List String}
    (hnames : ∀ other ∈ names, IsOrdinary other) : filler names name = name := by
  rw [filler]
  cases hfound : names.reverse.find? (sharesSlot name) with
  | none => rfl
  | some other =>
    have hmem : other ∈ names := List.mem_reverse.1 (List.mem_of_find?_eq_some hfound)
    exact h.eq_of_sharesSlot (hnames other hmem) (List.find?_some hfound)

theorem lookup_constants (h : IsOrdinary name) : constants.lookup name = none := by
  have hreserved := h.unreserved
  simp only [reservedWords, List.mem_cons, List.not_mem_nil, or_false, not_or] at hreserved
  simp [List.lookup_eq_none_iff, constants, hreserved]

/-- An ordinary name has no meaning but what the context has for it. -/
theorem meaning?_eq (h : IsOrdinary name) (context : String → Option String) :
    meaning? context name = context name := by
  have hreserved := h.unreserved
  simp only [reservedWords, List.mem_cons, List.not_mem_nil, or_false, not_or] at hreserved
  have hstanding : standingNames.lookup name = none := by
    simp [List.lookup_eq_none_iff, standingNames, hreserved]
  rw [meaning?, hstanding]
  cases context name <;> rfl

theorem ne_selfName (h : IsOrdinary name) : name ≠ selfName := by
  rintro rfl
  exact h.unreserved (by decide)

end IsOrdinary

theorem mem_pieces_of_mem_names {template : List Piece} {name : String}
    (h : name ∈ names template) : .hole name ∈ template := by
  have happearing : name ∈ (template.filterMap Piece.name?).eraseDups := by
    grind [names]
  obtain ⟨piece, hpiece, hname⟩ := List.mem_filterMap.1 (List.mem_eraseDups.1 happearing)
  cases piece with
  | char c => cases hname
  | hole other =>
    have hother : other = name := by grind [Piece.name?]
    exact hother ▸ hpiece

/-! ## The laws -/

/-- A piece whose name stands for itself. -/
def Piece.fillAlone (context : String → Option String) : Piece → List Char
  | .char c => [c]
  | .hole name => ((context name).getD "").toList

/-- The pieces of a template are filled one by one. -/
theorem standardOutput_eq {source : List Char} (h : IsTemplate IsOrdinary source)
    (context : String → Option String) :
    standardOutput source context = (piecesOf source).flatMap (Piece.fillAlone context) := by
  have hordinary : ∀ name, .hole name ∈ piecesOf source → IsOrdinary name := fun name =>
    allowed_of_mem_piecesOf (fun _ hname => hname) h
  have hnames : ∀ name ∈ names (piecesOf source), IsOrdinary name := fun name hname =>
    hordinary name (mem_pieces_of_mem_names hname)
  refine List.flatMap_congr fun piece hpiece => ?_
  cases piece with
  | char c => rfl
  | hole name =>
    have hname := hordinary name hpiece
    have hvacant : vacant name = "" := if_neg hname.ne_selfName
    rw [Piece.fill, hname.lookup_constants, hname.filler_eq_self hnames, hname.meaning?_eq, hvacant]
    rfl

instance : LawfulEngine where
  output_nil context := by
    show standardOutput [] context = []
    rw [standardOutput_eq .nil, piecesOf_nil, List.flatMap_nil]
  output_char context _ _ hopens hreturn hlast h := by
    show standardOutput _ context = _ :: standardOutput _ context
    rw [standardOutput_eq (.char _ hopens h), standardOutput_eq h,
      piecesOf_cons hopens hreturn hlast]
    rfl
  output_lastFeed context := by
    show standardOutput ['\n'] context = []
    rw [standardOutput_eq (.char _ rfl .nil), piecesOf_lastFeed, List.flatMap_nil]
  output_return context rest h := by
    have hpieces : piecesOf ('\r' :: rest) =
        piecesOf (if rest.head? = some '\n' then rest else '\n' :: rest) := by
      rw [piecesOf, unifyBreaks_return, ← piecesOf]
    show standardOutput _ context = standardOutput _ context
    rw [standardOutput, standardOutput, hpieces]
  output_placeholder context p rest hname h := by
    show standardOutput _ context = _ ++ standardOutput _ context
    rw [standardOutput_eq (.placeholder p hname h), standardOutput_eq h,
      piecesOf_placeholder p hname]
    rfl

end Template

end Lanewise
