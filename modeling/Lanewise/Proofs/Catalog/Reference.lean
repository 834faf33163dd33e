import Lanewise.Catalog.Standard
import Lanewise.Proofs.Overload.Key
import Mathlib.Data.List.Nodup

/-!
# What the reference of a derivative denotes

A registration refers to the function it is for by the bare name or by the selector, and a compiler
goes by the types of its parameters where the reference leaves a choice. A selector shows the name
and the labels and no name has a parenthesis, so the two forms are never confused. The bare name is
used where all overloads of that name have the same labels; labels and types together tell the
overloads of a catalog apart.
-/

namespace Lanewise

namespace Overload

/-- Whether a reference denotes an overload. With a parenthesis in it, the reference is a selector
and denotes the overloads that have it. Without one it is a name and denotes all that have the name.
-/
def isDenotedBy (o : Overload) (reference : String) : Bool :=
  if '(' ∈ reference.toList then o.selector = reference else o.name.text = reference

/-! ## Selectors -/

theorem parenthesis_not_mem_name (o : Overload) : '(' ∉ o.name.text.toList :=
  Identifier.not_mem_of_isTail_eq_false o.name.valid (by decide) (by decide)

theorem colon_not_mem_labels (o : Overload) : ∀ label ∈ o.labels, ':' ∉ label.toList := by
  intro label hl
  obtain ⟨a, -, rfl⟩ := List.mem_map.1 hl
  exact a.not_mem_externalName (by decide) (by decide)

theorem toList_selector (o : Overload) :
    o.selector.toList = o.name.text.toList ++
      '(' :: ((o.labels.flatMap fun label => label.toList ++ [':']) ++ [')']) := by
  simp [selector, String.toList_join, List.flatMap_map]

/-- What stands before the first occurrence of a mark, and what stands after it. -/
theorem append_cons_inj {mark : Char} {a b a' b' : List Char} (ha : mark ∉ a) (hb : mark ∉ b) :
    a ++ mark :: a' = b ++ mark :: b' ↔ a = b ∧ a' = b' := by
  induction a generalizing b with
  | nil =>
    cases b with
    | nil => simp
    | cons d b =>
      rw [List.mem_cons, not_or] at hb
      simp [hb.1]
  | cons c a ih =>
    rw [List.mem_cons, not_or] at ha
    cases b with
    | nil => simp [Ne.symm ha.1]
    | cons d b =>
      rw [List.mem_cons, not_or] at hb
      simp [ih ha.2 hb.2, and_assoc]

/-- Texts are told apart when each is followed by a mark that it does not have. -/
theorem eq_of_flatMap_terminated_eq {mark : Char} {as bs : List String}
    (ha : ∀ a ∈ as, mark ∉ a.toList) (hb : ∀ b ∈ bs, mark ∉ b.toList)
    (h : (as.flatMap fun a => a.toList ++ [mark]) = bs.flatMap fun b => b.toList ++ [mark]) :
    as = bs := by
  induction as generalizing bs with
  | nil =>
    cases bs with
    | nil => rfl
    | cons b bs => simp at h
  | cons a as ih =>
    cases bs with
    | nil => simp at h
    | cons b bs =>
      rw [List.forall_mem_cons] at ha hb
      rw [List.flatMap_cons, List.flatMap_cons, List.append_assoc, List.append_assoc,
        List.singleton_append, List.singleton_append, append_cons_inj ha.1 hb.1] at h
      rw [String.toList_injective h.1, ih ha.2 hb.2 h.2]

/-- The selector tells the name and the labels, and nothing else. -/
theorem selector_eq_iff (a b : Overload) :
    a.selector = b.selector ↔ a.name.text = b.name.text ∧ a.labels = b.labels := by
  constructor
  · intro h
    have htext := congrArg String.toList h
    rw [toList_selector, toList_selector,
      append_cons_inj a.parenthesis_not_mem_name b.parenthesis_not_mem_name] at htext
    obtain ⟨hname, hlabels⟩ := htext
    exact ⟨String.toList_injective hname, eq_of_flatMap_terminated_eq a.colon_not_mem_labels
      b.colon_not_mem_labels (List.append_cancel_right hlabels)⟩
  · rintro ⟨hname, hlabels⟩
    rw [selector, selector, hname, hlabels]

theorem isDenotedBy_selector (o s : Overload) :
    o.isDenotedBy s.selector = true ↔ o.name.text = s.name.text ∧ o.labels = s.labels := by
  have hparenthesis : '(' ∈ s.selector.toList := by
    rw [toList_selector]
    simp
  rw [isDenotedBy, if_pos hparenthesis, decide_eq_true_iff, selector_eq_iff]

theorem isDenotedBy_name (o s : Overload) :
    o.isDenotedBy s.name.text = true ↔ o.name.text = s.name.text := by
  rw [isDenotedBy, if_neg s.parenthesis_not_mem_name, decide_eq_true_iff]

end Overload

/-! ## References in a catalog -/

namespace Catalog

variable {c : Catalog}

/-- The overloads of a catalog are told apart by name, labels and types. -/
theorem eq_of_identity_eq {a b : Overload} (ha : a ∈ c.overloads) (hb : b ∈ c.overloads)
    (h : a.identity = b.identity) : a = b :=
  List.inj_on_of_nodup_map c.keys_nodup ha hb (Overload.key_eq_of_identity_eq h)

theorem nodup_overloads (c : Catalog) : c.overloads.Nodup :=
  List.Nodup.of_map _ c.keys_nodup

/-- In both forms a reference denotes the overloads that have the name and the labels. -/
theorem isDenotedBy_reference {s o : Overload} (ho : o ∈ c.overloads) :
    o.isDenotedBy (c.reference s) = true ↔
      o.name.text = s.name.text ∧ o.labels = s.labels := by
  unfold reference
  split
  · exact o.isDenotedBy_selector s
  · rename_i hsame
    rw [o.isDenotedBy_name s]
    constructor
    · intro hname
      -- An overload of the name with another selector would have made the reference a selector.
      have hselector : o.selector = s.selector := by
        by_contra hne
        exact hsame (List.any_eq_true.2 ⟨o, ho, by simp [hname, hne]⟩)
      exact (Overload.selector_eq_iff o s).1 hselector
    · exact And.left

/-- The registration of an overload refers to that overload alone: no other in the catalog is
denoted by the reference and has the same types. -/
theorem filter_isDenotedBy_reference (c : Catalog) {s : Overload} (hs : s ∈ c.overloads) :
    (c.overloads.filter fun o =>
        o.isDenotedBy (c.reference s) && decide (o.fixedTypes = s.fixedTypes)) = [s] ∧
      ∀ a b : Overload,
        a.selector = b.selector ↔ a.name.text = b.name.text ∧ a.labels = b.labels := by
  refine ⟨?_, Overload.selector_eq_iff⟩
  have honly : ∀ o ∈ c.overloads,
      (o.isDenotedBy (c.reference s) && decide (o.fixedTypes = s.fixedTypes)) = (o == s) := by
    intro o ho
    rw [Bool.eq_iff_iff, Bool.and_eq_true, isDenotedBy_reference ho, decide_eq_true_iff,
      beq_iff_eq]
    constructor
    · rintro ⟨⟨hname, hlabels⟩, htypes⟩
      refine eq_of_identity_eq ho hs ?_
      rw [Overload.identity, Overload.identity, hname, hlabels, htypes]
    · rintro rfl
      exact ⟨⟨rfl, rfl⟩, rfl⟩
  rw [List.filter_congr honly, List.filter_beq, List.count_eq_one_of_mem c.nodup_overloads hs]
  rfl

namespace Standard

/-- The power with an integer exponent, as the standard catalog has it. -/
def integerPower : Overload :=
  elementary.get ⟨16, by decide⟩

/-- The power of two numbers, as the standard catalog has it. -/
def power : Overload :=
  elementary.get ⟨17, by decide⟩

end Standard

/-- The integer power has the same selector as the power, so the types choose between the two. -/
theorem filter_isDenotedBy_reference_integerPower :
    Standard.integerPower ∈ standard.overloads ∧
      (standard.overloads.filter fun o =>
        o.isDenotedBy (standard.reference Standard.integerPower) &&
          decide (o.fixedTypes = [none, some "Int"])) = [Standard.integerPower] := by
  have hs : Standard.integerPower ∈ standard.overloads :=
    List.mem_append_left _ (List.get_mem _ _)
  exact ⟨hs, (filter_isDenotedBy_reference standard hs).1⟩

end Catalog

end Lanewise
