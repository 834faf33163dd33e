import Lanewise.Formula.Table
import Mathlib.Data.List.Nodup
import Mathlib.Data.String.Basic

/-!
# When a table fits a catalog

A table fits a catalog when the two have the same keys and every closed form has one partial for
each varying argument. Validation accepts exactly the tables that fit. Where one does not fit, the
reported drift has each key that is missing, each that is unexpected, and each wrong number of
partials, once and in order; there is never a report of nothing.
-/

namespace Lanewise

/-- A report that says how a table differs from a catalog: all of it, in order, and nothing else. -/
structure Drift.Reports (d : Drift) (t : Formula.Table) (c : Catalog) : Prop where
  /-- The keys of functions without a formula, ascending. -/
  missing : d.missing.Pairwise (· < ·) ∧ ∀ key, key ∈ d.missing ↔ key ∈ c.keys ∧ key ∉ t.keys
  /-- The keys of formulas without a function, ascending. -/
  unexpected :
    d.unexpected.Pairwise (· < ·) ∧ ∀ key, key ∈ d.unexpected ↔ key ∈ t.keys ∧ key ∉ c.keys
  /-- The closed forms with another number of partials than their function has varying arguments,
  by ascending keys. -/
  mismatches : (d.mismatches.map ArityMismatch.key).Pairwise (· < ·) ∧
    ∀ m, m ∈ d.mismatches ↔ ∃ o f, c.find? m.key = some o ∧ t.find? m.key = some f ∧
      f.kind = .closedForm ∧ m.partials = f.partials.length ∧ m.varying = o.arity ∧
      m.partials ≠ m.varying

namespace Formula.Table

/-- A table with the keys of a catalog and with as many partials as there are varying arguments. -/
structure Fits (t : Table) (c : Catalog) : Prop where
  keys : ∀ key, key ∈ t.keys ↔ key ∈ c.keys
  partials : ∀ o ∈ c.overloads, ∀ f, t.find? o.key = some f → f.kind = .closedForm →
    f.partials.length = o.arity

/-! ## Sorting by keys -/

/-- What is sorted by keys that do not repeat has ascending keys. -/
theorem pairwise_map_mergeSort {α : Type} (key : α → String) {items : List α}
    (h : (items.map key).Nodup) :
    ((items.mergeSort fun a b => decide (key a ≤ key b)).map key).Pairwise (· < ·) := by
  have hle : (items.mergeSort fun a b => decide (key a ≤ key b)).Pairwise
      fun a b => decide (key a ≤ key b) = true := by
    refine List.pairwise_mergeSort (fun a b c hab hbc => ?_) (fun a b => ?_) items
    · rw [decide_eq_true_iff] at hab hbc ⊢
      exact String.le_trans hab hbc
    · rw [Bool.or_eq_true, decide_eq_true_iff, decide_eq_true_iff]
      exact String.le_total _ _
  have hne : ((items.mergeSort fun a b => decide (key a ≤ key b)).map key).Nodup :=
    ((List.mergeSort_perm items _).map key).nodup_iff.2 h
  rw [List.Nodup, List.pairwise_map] at hne
  rw [List.pairwise_map]
  refine (hle.and hne).imp ?_
  rintro a b ⟨hab, hab'⟩
  exact Std.lt_of_le_of_ne (of_decide_eq_true hab) hab'

theorem pairwise_sorted {texts : List String} (h : texts.Nodup) :
    (sorted texts).Pairwise (· < ·) := by
  simpa [sorted] using pairwise_map_mergeSort id (by simpa using h)

theorem mem_sorted {texts : List String} {text : String} : text ∈ sorted texts ↔ text ∈ texts :=
  List.mem_mergeSort

/-! ## The drift -/

variable (t : Table) (c : Catalog)

theorem mismatch?_eq_some_iff (o : Overload) (m : ArityMismatch) :
    t.mismatch? o = some m ↔ m.key = o.key ∧ ∃ f, t.find? m.key = some f ∧
      f.kind = .closedForm ∧ m.partials = f.partials.length ∧ m.varying = o.arity ∧
      m.partials ≠ m.varying := by
  unfold mismatch?
  obtain ⟨key, partials, varying⟩ := m
  cases hf : t.find? o.key with
  | none =>
    constructor
    · intro h
      cases h
    · rintro ⟨rfl, f, hfound, -⟩
      rw [hf] at hfound
      cases hfound
  | some f =>
    simp only [Option.ite_none_right_eq_some, Option.some.injEq, ArityMismatch.mk.injEq]
    constructor
    · rintro ⟨⟨hkind, hlength⟩, rfl, rfl, rfl⟩
      exact ⟨rfl, f, hf, hkind, rfl, rfl, hlength⟩
    · rintro ⟨rfl, f', hf', hkind, rfl, rfl, hlength⟩
      rw [hf, Option.some.injEq] at hf'
      subst hf'
      exact ⟨⟨hkind, hlength⟩, rfl, rfl, rfl⟩

/-- The keys of the mismatches are keys of the catalog, so they do not repeat. -/
theorem nodup_keys_mismatches :
    ((c.overloads.filterMap t.mismatch?).map ArityMismatch.key).Nodup := by
  have hkey : ∀ o m, t.mismatch? o = some m → m.key = o.key := fun o m h =>
    ((t.mismatch?_eq_some_iff o m).1 h).1
  have hsub : (c.overloads.filterMap t.mismatch?).map ArityMismatch.key =
      (c.overloads.filter fun o => (t.mismatch? o).isSome).map Overload.key := by
    induction c.overloads with
    | nil => rfl
    | cons o os ih =>
      cases hm : t.mismatch? o with
      | none => simp [hm, ih]
      | some m => simp [hm, ih, hkey o m hm]
  rw [hsub]
  exact c.keys_nodup.sublist (List.filter_sublist.map _)

/-- The drift is a full report. -/
theorem reports_drift : (t.drift c).Reports t c := by
  refine ⟨⟨pairwise_sorted (c.keys_nodup.filter _), fun key => ?_⟩,
    ⟨pairwise_sorted (t.keys_nodup.filter _), fun key => ?_⟩,
    ⟨pairwise_map_mergeSort _ (nodup_keys_mismatches t c), fun m => ?_⟩⟩
  · simp [drift, mem_sorted]
  · simp [drift, mem_sorted]
  · have hmem : m ∈ (t.drift c).mismatches ↔ ∃ o ∈ c.overloads, t.mismatch? o = some m := by
      rw [drift, List.mem_mergeSort, List.mem_filterMap]
    rw [hmem]
    constructor
    · rintro ⟨o, ho, hm⟩
      obtain ⟨hkey, f, hf⟩ := (t.mismatch?_eq_some_iff o m).1 hm
      exact ⟨o, f, (c.find?_eq_some_iff m.key o).2 ⟨ho, hkey.symm⟩, hf⟩
    · rintro ⟨o, f, ho, hf⟩
      obtain ⟨ho, hkey⟩ := (c.find?_eq_some_iff m.key o).1 ho
      exact ⟨o, ho, (t.mismatch?_eq_some_iff o m).2 ⟨hkey.symm, f, hf⟩⟩

/-- Nothing is reported exactly when the table fits. -/
theorem drift_eq_empty_iff : t.drift c = ⟨[], [], []⟩ ↔ t.Fits c := by
  have h := t.reports_drift c
  have hempty : t.drift c = ⟨[], [], []⟩ ↔ (t.drift c).missing = [] ∧
      (t.drift c).unexpected = [] ∧ (t.drift c).mismatches = [] := by
    cases t.drift c
    exact Drift.mk.injEq .. ▸ Iff.rfl
  rw [hempty, List.eq_nil_iff_forall_not_mem, List.eq_nil_iff_forall_not_mem,
    List.eq_nil_iff_forall_not_mem]
  constructor
  · rintro ⟨hmissing, hunexpected, hmismatches⟩
    refine ⟨fun key => ⟨fun hkey => ?_, fun hkey => ?_⟩, fun o ho f hf hkind => ?_⟩
    · by_contra hc
      exact hunexpected key ((h.unexpected.2 key).2 ⟨hkey, hc⟩)
    · by_contra ht
      exact hmissing key ((h.missing.2 key).2 ⟨hkey, ht⟩)
    · by_contra hlength
      refine hmismatches ⟨o.key, f.partials.length, o.arity⟩ ((h.mismatches.2 _).2 ?_)
      exact ⟨o, f, (c.find?_eq_some_iff o.key o).2 ⟨ho, rfl⟩, hf, hkind, rfl, rfl, hlength⟩
  · intro hfits
    refine ⟨fun key hkey => ?_, fun key hkey => ?_, fun m hm => ?_⟩
    · obtain ⟨hc, ht⟩ := (h.missing.2 key).1 hkey
      exact ht ((hfits.keys key).2 hc)
    · obtain ⟨ht, hc⟩ := (h.unexpected.2 key).1 hkey
      exact hc ((hfits.keys key).1 ht)
    · obtain ⟨o, f, ho, hf, hkind, hpartials, hvarying, hne⟩ := (h.mismatches.2 m).1 hm
      obtain ⟨ho, hkey⟩ := (c.find?_eq_some_iff m.key o).1 ho
      rw [← hkey] at hf
      rw [hpartials, hvarying] at hne
      exact hne (hfits.partials o ho f hf hkind)

/-- Validation accepts exactly the tables that fit. -/
theorem validate_eq_ok_iff : t.validate c = .ok () ↔ t.Fits c := by
  rw [← drift_eq_empty_iff, validate]
  split
  · rename_i h
    exact ⟨fun _ => h, fun _ => rfl⟩
  · rename_i h
    exact ⟨fun he => (nomatch he), fun he => absurd he h⟩

/-- A table that does not fit is refused with its drift. -/
theorem validate_eq_error (h : ¬ t.Fits c) :
    t.validate c = .error (.tableDrift (t.drift c)) := by
  rw [validate, if_neg fun he => h ((t.drift_eq_empty_iff c).1 he)]

/-- In a table that fits, every function of the catalog has its formula. -/
theorem Fits.exists_find_eq_ok {t : Table} {c : Catalog} (h : t.Fits c) {o : Overload}
    (ho : o ∈ c.overloads) : ∃ f, t.find o = .ok f := by
  have hkey : o.key ∈ t.keys := (h.keys o.key).2 (List.mem_map_of_mem ho)
  cases hf : t.find? o.key with
  | none => exact absurd hkey ((t.find?_eq_none_iff o.key).1 hf)
  | some f => exact ⟨f, by rw [find, hf]; rfl⟩

end Formula.Table

end Lanewise
