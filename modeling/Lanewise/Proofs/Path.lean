import Lanewise.Path
import Mathlib.Data.List.Basic
import Mathlib.Data.List.TakeWhile

/-!
# Paths and their texts

The name of a path comes last in its text, behind the text of the path that it is below and a slash.
The names in a path that a text denotes are not empty, are not a single dot and have no slash. Such
a path is read back from its own text, and a name below it from both texts with a slash between.
-/

namespace Lanewise

namespace Path

/-- The text of a path is what it is below, then the name. -/
theorem toString_child (p : Path) (name : String) :
    (p.child name).toString =
      (if p.parts = [] then p.anchor.text else p.toString ++ "/") ++ name := by
  have hparts : (p.child name).parts ≠ [] := by simp [child]
  rw [toString, if_neg fun h => hparts h.2]
  show p.anchor.text ++ "/".intercalate (p.parts ++ [name]) = _
  by_cases hp : p.parts = []
  · simp [hp]
  · have hjoin := String.intercalate_append_of_ne_nil (s := "/") hp (List.cons_ne_nil name [])
    rw [if_neg hp, toString, if_neg fun h => hp h.2, hjoin]
    simp [String.append_assoc]

/-- What is added to the last name of a path comes last in its text. -/
theorem toString_child_append (p : Path) (name added : String) :
    (p.child (name ++ added)).toString = (p.child name).toString ++ added := by
  rw [toString_child, toString_child, String.append_assoc]

theorem child_withName (p : Path) (a b : String) : (p.child a).withName b = p.child b := by
  simp [withName, parent, child]

theorem name?_child (p : Path) (name : String) : (p.child name).name? = some name := by
  simp [name?, child]

theorem parent_child (root : Path) (name : String) : (root.child name).parent = root := by
  simp [parent, child]

/-- A path that has a last name is that name below another path. -/
theorem exists_eq_child {p : Path} {name : String} (h : p.name? = some name) :
    ∃ root : Path, p = root.child name := by
  obtain ⟨anchor, parts⟩ := p
  obtain ⟨front, rfl⟩ := List.getLast?_eq_some_iff.1 h
  exact ⟨⟨anchor, front⟩, rfl⟩

/-- A name without a null character adds none to a path. -/
theorem hasNull_child {p : Path} {name : String} (hp : p.hasNull = false)
    (hname : '\x00' ∉ name.toList) : (p.child name).hasNull = false := by
  have hfront : '\x00' ∉ (if p.parts = [] then p.anchor.text else p.toString ++ "/").toList := by
    by_cases hparts : p.parts = []
    · rw [if_pos hparts]
      cases p.anchor <;> decide
    · rw [if_neg hparts, String.toList_append, List.mem_append]
      rintro (h | h)
      · rw [hasNull, List.contains_eq_mem, decide_eq_false_iff_not] at hp
        exact hp h
      · exact absurd h (by decide)
  rw [hasNull, toString_child, String.toList_append, List.contains_eq_mem,
    decide_eq_false_iff_not, List.mem_append]
  rintro (h | h)
  · exact hfront h
  · exact hname h

/-! ## Reading paths back -/

/-- A name that a text can give to a path. -/
structure IsPart (name : String) : Prop where
  ne_empty : name ≠ ""
  ne_dot : name ≠ "."
  slash_not_mem : '/' ∉ name.toList

/-- A name is one for a path when it has no slash and does not end in a point. -/
theorem IsPart.of_getLast? {name : String} {c : Char} (hlast : name.toList.getLast? = some c)
    (hpoint : c ≠ '.') (hslash : '/' ∉ name.toList) : IsPart name := by
  refine ⟨?_, ?_, hslash⟩
  · rintro rfl
    cases hlast
  · rintro rfl
    exact hpoint (Option.some.inj hlast).symm

/-- A path that a text denotes. -/
def IsNormal (p : Path) : Prop :=
  ∀ name ∈ p.parts, IsPart name

/-- The text of a name below a path that is given as text. A slash comes between them, unless there
is one already or nothing is in front. -/
def joined (text name : String) : String :=
  if text.toList.getLast?.any (· ≠ '/') then text ++ "/" ++ name else text ++ name

/-- The names in a text. -/
def partsOf (chars : List Char) : List String :=
  ((stretches chars).map String.ofList).filter fun name => name ≠ "" ∧ name ≠ "."

theorem stretches_eq_splitOn (chars : List Char) : stretches chars = chars.splitOn '/' := by
  fun_induction stretches chars with
  | case1 => rfl
  | case2 rest ih => rw [ih, List.splitOn_cons_eq_if_modifyHead, if_pos (beq_self_eq_true '/')]
  | case3 c rest hc ih =>
    have hne : ¬ (c == '/') = true := fun he => hc (eq_of_beq he)
    rw [ih, List.splitOn_cons_eq_if_modifyHead, if_neg hne]

/-- The names in two texts with a slash between them are those in the one and those in the other. -/
theorem partsOf_append_slash (a b : List Char) :
    partsOf (a ++ '/' :: b) = partsOf a ++ partsOf b := by
  simp only [partsOf, stretches_eq_splitOn, List.splitOn_append_cons_self, List.map_append,
    List.filter_append]

theorem partsOf_slash (b : List Char) : partsOf ('/' :: b) = partsOf b :=
  partsOf_append_slash [] b

theorem IsPart.partsOf_eq {name : String} (h : IsPart name) : partsOf name.toList = [name] := by
  rw [partsOf, stretches_eq_splitOn, List.splitOn_eq_singleton h.slash_not_mem, List.map_singleton,
    String.ofList_toList]
  exact List.filter_cons_of_pos (decide_eq_true ⟨h.ne_empty, h.ne_dot⟩)

theorem partsOf_intercalate {names : List String} (h : ∀ name ∈ names, IsPart name) :
    partsOf ("/".intercalate names).toList = names := by
  induction names with
  | nil => rfl
  | cons name rest ih =>
    rw [List.forall_mem_cons] at h
    cases rest with
    | nil =>
      rw [String.intercalate_singleton]
      exact h.1.partsOf_eq
    | cons next rest =>
      have hslash : (name ++ "/" ++ "/".intercalate (next :: rest)).toList =
          name.toList ++ '/' :: ("/".intercalate (next :: rest)).toList := by
        rw [String.toList_append, String.toList_append, List.append_assoc]
        rfl
      rw [String.intercalate_cons_cons, hslash, partsOf_append_slash, h.1.partsOf_eq, ih h.2]
      rfl

theorem isPart_of_mem_partsOf {chars : List Char} : ∀ name ∈ partsOf chars, IsPart name := by
  have hslash : ∀ stretch ∈ stretches chars, '/' ∉ stretch := by
    fun_induction stretches chars with
    | case1 => simp
    | case2 rest ih => exact List.forall_mem_cons.2 ⟨List.not_mem_nil, ih⟩
    | case3 c rest hc ih =>
      cases hs : stretches rest with
      | nil => simp
      | cons stretch others =>
        rw [hs, List.forall_mem_cons] at ih
        rw [List.modifyHead_cons, List.forall_mem_cons]
        refine ⟨fun hm => ?_, ih.2⟩
        rcases List.mem_cons.1 hm with rfl | hm
        · exact hc rfl
        · exact ih.1 hm
  intro name hname
  obtain ⟨hm, hkept⟩ := List.mem_filter.1 hname
  obtain ⟨stretch, hstretch, rfl⟩ := List.mem_map.1 hm
  obtain ⟨hne, hdot⟩ := of_decide_eq_true hkept
  exact ⟨hne, hdot, by simpa using hslash stretch hstretch⟩

theorem isNormal_ofString (text : String) : (ofString text).IsNormal :=
  isPart_of_mem_partsOf

theorem IsNormal.child {p : Path} (h : p.IsNormal) {name : String} (hname : IsPart name) :
    (p.child name).IsNormal :=
  List.forall_mem_append.2 ⟨h, List.forall_mem_singleton.2 hname⟩

/-! ### Anchors -/

theorem anchorOf_text (anchor : Anchor) : anchorOf anchor.text.toList = anchor := by
  cases anchor <;> rfl

theorem IsPart.takeWhile_eq_nil {name : String} (h : IsPart name) (rest : List Char) :
    (name.toList ++ rest).takeWhile (· = '/') = [] := by
  cases hcs : name.toList with
  | nil => exact absurd (String.toList_eq_nil_iff.1 hcs) h.ne_empty
  | cons c cs =>
    have hc : c ≠ '/' := by
      rintro rfl
      exact h.slash_not_mem (hcs ▸ List.mem_cons_self)
    exact List.takeWhile_cons_of_neg (by simpa using hc)

theorem takeWhile_intercalate_eq_nil {names : List String} (h : ∀ name ∈ names, IsPart name) :
    ("/".intercalate names).toList.takeWhile (· = '/') = [] := by
  cases names with
  | nil => rfl
  | cons name rest =>
    have hname := (h name List.mem_cons_self).takeWhile_eq_nil
    cases rest with
    | nil => simpa using hname []
    | cons next rest =>
      rw [String.intercalate_cons_cons, String.toList_append, String.toList_append,
        List.append_assoc]
      exact hname _

/-- What follows without a slash in front does not change the anchor. -/
theorem anchorOf_append (chars : List Char) {rest : List Char}
    (h : rest.takeWhile (· = '/') = []) : anchorOf (chars ++ rest) = anchorOf chars := by
  have htake : (chars ++ rest).takeWhile (· = '/') = chars.takeWhile (· = '/') := by
    rw [List.takeWhile_append]
    split
    · rename_i hall
      rw [h, List.append_nil]
      exact ((List.takeWhile_sublist _).eq_of_length hall).symm
    · rfl
  rw [anchorOf, htake, anchorOf]

/-- What follows another character than a slash does not change the anchor. -/
theorem anchorOf_append_of_getLast? {chars : List Char}
    (h : chars.getLast?.any (· ≠ '/') = true) (rest : List Char) :
    anchorOf (chars ++ rest) = anchorOf chars := by
  obtain ⟨c, hc, hne⟩ := Option.any_eq_true _ _ |>.1 h
  have htake : (chars ++ rest).takeWhile (· = '/') = chars.takeWhile (· = '/') := by
    rw [List.takeWhile_append, if_neg]
    intro hall
    have hwhole := (List.takeWhile_sublist _).eq_of_length hall
    have hslash := List.takeWhile_eq_self_iff.1 hwhole c (List.mem_of_getLast? hc)
    exact of_decide_eq_true hne (of_decide_eq_true hslash)
  rw [anchorOf, htake, anchorOf]

/-- A path that a text denotes is read back from its own text. -/
theorem IsNormal.ofString_toString {p : Path} (h : p.IsNormal) : ofString p.toString = p := by
  obtain ⟨anchor, parts⟩ := p
  rw [toString]
  split
  -- The text of the path without anchor and names is a dot, and that is no name.
  · rename_i hempty
    obtain ⟨rfl, rfl⟩ := hempty
    rfl
  · have hanchor : anchorOf (anchor.text ++ "/".intercalate parts).toList = anchor := by
      rw [String.toList_append]
      exact (anchorOf_append _ (takeWhile_intercalate_eq_nil h)).trans (anchorOf_text anchor)
    have hparts : partsOf (anchor.text ++ "/".intercalate parts).toList = parts := by
      have hread := partsOf_intercalate h
      rw [String.toList_append]
      cases anchor with
      | relative => exact hread
      | root => exact (partsOf_slash _).trans hread
      | doubleRoot => exact (partsOf_slash _).trans ((partsOf_slash _).trans hread)
    exact (Path.mk.injEq ..).mpr ⟨hanchor, hparts⟩

/-- The text of a name below a path denotes the path of the name below that path. -/
theorem ofString_joined (text : String) {name : String} (h : IsPart name) :
    ofString (joined text name) = (ofString text).child name := by
  have hname := h.partsOf_eq
  refine (Path.mk.injEq ..).mpr ?_
  show anchorOf (joined text name).toList = anchorOf text.toList ∧
    partsOf (joined text name).toList = partsOf text.toList ++ [name]
  unfold joined
  -- Behind a root of nothing but slashes one more could make another anchor, so none is added.
  split
  · rename_i hlast
    have hslash : (text ++ "/" ++ name).toList = text.toList ++ '/' :: name.toList := by
      rw [String.toList_append, String.toList_append, List.append_assoc]
      rfl
    rw [hslash, partsOf_append_slash, hname]
    exact ⟨anchorOf_append_of_getLast? hlast _, rfl⟩
  · rename_i hlast
    rw [String.toList_append]
    refine ⟨anchorOf_append _ (by simpa using h.takeWhile_eq_nil []), ?_⟩
    cases hcs : text.toList.getLast? with
    | none =>
      rw [List.getLast?_eq_none_iff.1 hcs]
      exact hname
    | some c =>
      obtain ⟨front, hfront⟩ := List.getLast?_eq_some_iff.1 hcs
      obtain rfl : c = '/' := by simpa [hcs] using hlast
      rw [hfront, List.append_assoc, List.singleton_append, partsOf_append_slash,
        partsOf_append_slash, hname]
      exact congrArg (· ++ [name]) (List.append_nil _).symm

end Path

end Lanewise
