import Lanewise.Proofs.FileTree.Operation
import Lanewise.Proofs.Path

/-!
# Directories that can be made

A path can be made a directory if no location that it passes holds a file and nothing in it is too
long. Making it succeeds exactly then. When it fails, some of the directories on the way may be
there afterwards, and nothing else has changed.
-/

namespace Lanewise

namespace FileTree

open FileError

/-- The directory of a path is there or can be made. -/
structure Makeable (t : FileTree) (p : Path) : Prop where
  /-- The path is not too long. -/
  short : p.toString.utf8ByteSize ≤ pathLimit
  /-- No name is too long. -/
  fits : ∀ name ∈ p.parts, name = above ∨ name.utf8ByteSize ≤ nameLimit
  /-- No location that is passed holds a file. -/
  free : ∀ l ∈ walk [] p.parts, t.find? l = none ∨ t.find? l = some .directory

/-- Directories may have been made where nothing was. Nothing else changed. -/
def Extends (t u : FileTree) : Prop :=
  ∀ l, u.find? l = t.find? l ∨ t.find? l = none ∧ u.find? l = some .directory

theorem Extends.refl (t : FileTree) : t.Extends t := fun _ => .inl rfl

theorem Extends.trans {t u v : FileTree} (h : t.Extends u) (h' : u.Extends v) : t.Extends v := by
  intro l
  rcases h' l with hv | ⟨hu, hv⟩
  · rw [hv]
    exact h l
  · rcases h l with ht | ⟨-, hd⟩
    · exact .inr ⟨ht ▸ hu, hv⟩
    · rw [hd] at hu
      cases hu

section

variable {t u : FileTree} {p : Path}

theorem MadeAlong.makeable (h : t.MadeAlong u p.parts)
    (hshort : p.toString.utf8ByteSize ≤ pathLimit) : t.Makeable p :=
  ⟨hshort, h.leads.fits, h.free⟩

/-- What can be made has a parent that can be made. -/
theorem Makeable.parent (h : t.Makeable p) : t.Makeable p.parent := by
  rcases List.eq_nil_or_concat p.parts with hn | ⟨front, name, hn⟩
  · have hp : p.parent = p := by
      obtain ⟨anchor, parts⟩ := p
      obtain rfl : parts = [] := hn
      rfl
    rwa [hp]
  · rw [List.concat_eq_append] at hn
    have hparent : p.parent.parts = front := by rw [Path.parent, hn, List.dropLast_concat]
    have hp : p = p.parent.child name := by
      obtain ⟨anchor, parts⟩ := p
      obtain rfl : parts = front ++ [name] := hn
      simp [Path.child, Path.parent]
    refine ⟨?_, fun n hf => h.fits n ?_, fun l hl => h.free l ?_⟩
    · by_cases hfront : p.parent.parts = []
      · rw [Path.toString, hfront]
        cases p.parent.anchor <;> decide
      · have hshort := h.short
        rw [hp, Path.toString_child, if_neg hfront] at hshort
        simp only [String.utf8ByteSize_append] at hshort
        omega
    · rw [hn]
      exact List.mem_append_left _ (hparent ▸ hf)
    · rw [hn, walk_append]
      exact List.mem_append_left _ (hparent ▸ hl)

theorem Reached.follow {here : Location} {names : List String} (h : t.Reached here)
    (hpassed : ∀ l ∈ walk here names, t.find? l = some .directory) :
    t.Reached (follow here names) := by
  induction names generalizing here with
  | nil => exact h
  | cons name rest ih =>
    rw [walk_cons, List.forall_mem_cons] at hpassed
    have hstep : t.Reached (step here name) := by
      by_cases hup : name = above
      · rw [step, if_pos hup]
        exact h.dropLast
      · have hd := hpassed.1
        rw [step_name hup] at hd ⊢
        exact h.concat hd
    rw [follow_cons]
    exact ih hstep hpassed.2

/-- Two dots after a path to a directory lead to a directory. -/
theorem Leads.concat_above {front : List String} (h : t.Leads front) :
    t.Leads (front ++ [above]) := by
  have hr : t.Reached (FileTree.follow [] front) := t.reached_nil.follow h.passed
  have hstep : step (FileTree.follow [] front) above = (FileTree.follow [] front).dropLast :=
    if_pos rfl
  refine ⟨?_, ?_⟩
  · rw [walk_append, walk_cons, walk_nil, hstep, List.forall_mem_append,
      List.forall_mem_singleton]
    exact ⟨h.passed, hr.dropLast _ List.prefix_rfl⟩
  · rw [List.forall_mem_append, List.forall_mem_singleton]
    exact ⟨h.fits, .inl rfl⟩

/-- Where no file is in the way, a descent fails only because something is missing. -/
theorem reason_of_descend {here : Location} {names : List String} {reason : Reason}
    (hfits : ∀ name ∈ names, name = above ∨ name.utf8ByteSize ≤ nameLimit)
    (hfree : ∀ l ∈ walk here names, t.find? l = none ∨ t.find? l = some .directory)
    (h : t.descend here names = .error reason) : reason = .noSuchEntry := by
  induction names generalizing here with
  | nil => cases h
  | cons name rest ih =>
    rw [List.forall_mem_cons] at hfits
    rw [walk_cons, List.forall_mem_cons] at hfree
    rw [descend] at h
    by_cases hup : name = above
    · rw [if_pos hup] at h
      rw [step, if_pos hup] at hfree
      exact ih hfits.2 hfree.2 h
    · have hlong : ¬ nameLimit < name.utf8ByteSize := Nat.not_lt.2 (hfits.1.resolve_left hup)
      rw [if_neg hup, if_neg hlong] at h
      rw [step_name hup] at hfree
      rcases hfree.1 with hnone | hd
      · rw [hnone] at h
        exact (Except.error.inj h).symm
      · rw [hd] at h
        exact ih hfits.2 hfree.2 h

/-- A path that can be made leads somewhere unless something on the way is missing. -/
theorem Makeable.reason_of_place (h : t.Makeable p) {reason : Reason}
    (hp : t.place p = .error reason) : reason = .noSuchEntry ∧ p.parts ≠ [] := by
  have hdescend : ∀ {q : Path} {r : Reason}, t.Makeable q → t.descend [] q.parts = .error r →
      r = .noSuchEntry :=
    fun hq hr => reason_of_descend hq.fits hq.free hr
  unfold place at hp
  rw [if_neg (Nat.not_lt.2 h.short)] at hp
  cases hn : p.name? with
  | none =>
    rw [hn] at hp
    cases hp
  | some name =>
    have hparts : p.parts ≠ [] := by
      intro hnil
      rw [Path.name?, hnil] at hn
      cases hn
    refine ⟨?_, hparts⟩
    rw [hn] at hp
    simp only at hp
    by_cases hup : name = above
    · rw [if_pos hup] at hp
      cases hd : t.descend [] p.parts with
      | error r =>
        rw [hd] at hp
        cases hp
        exact hdescend h hd
      | ok there =>
        rw [hd] at hp
        cases hp
    · have hlong : ¬ nameLimit < name.utf8ByteSize :=
        Nat.not_lt.2 ((h.fits name (List.mem_of_getLast? hn)).resolve_left hup)
      rw [if_neg hup] at hp
      cases hd : t.descend [] p.parent.parts with
      | error r =>
        rw [hd] at hp
        cases hp
        exact hdescend h.parent hd
      | ok there =>
        rw [hd] at hp
        simp only [bind, Except.bind, if_neg hlong] at hp
        cases hp

theorem follow_mem_walk {names : List String} (h : names ≠ []) :
    FileTree.follow [] names ∈ walk [] names := by
  rcases List.eq_nil_or_concat names with rfl | ⟨front, name, rfl⟩
  · exact absurd rfl h
  · rw [List.concat_eq_append, walk_append, follow_append]
    simp

/-- No file is where a path that can be made ends. -/
theorem Makeable.free_location (h : t.Makeable p) :
    t.find? p.location = none ∨ t.find? p.location = some .directory := by
  by_cases hparts : p.parts = []
  · rw [Path.location, hparts]
    exact .inr rfl
  · exact h.free _ (follow_mem_walk hparts)

/-- Where a directory can be made but is not, it is there already or something above it is missing.
-/
theorem Makeable.of_makeDirectory_error (h : t.Makeable p) {e : FileError}
    (he : t.makeDirectory p = .error e) :
    (e.reason = .noSuchEntry ∧ p.parts ≠ []) ∨ t.isDirectory p = true := by
  unfold makeDirectory at he
  cases hp : t.place p with
  | error reason =>
    rw [hp] at he
    cases he
    exact .inl (h.reason_of_place hp)
  | ok found =>
    have hleadsTo := (place_eq_ok_iff.1 hp).2
    have hl : found.location = p.location := hleadsTo.location
    have hd : t.find? p.location = some .directory := by
      rcases h.free_location with hnone | hd
      · cases found with
        | entry d n =>
          rw [hp] at he
          simp only [hl, hnone] at he
          cases he
        | unnamed d =>
          rw [Path.location] at hnone
          generalize p.parts = names at hleadsTo hnone
          cases hleadsTo with
          | top => cases hnone
          | dots hleads =>
            rw [hleads.find?_follow] at hnone
            cases hnone
      · exact hd
    exact .inr (isDirectory_iff.2 (node_eq_directory_iff.1 (node_eq_ok_iff.2 ⟨⟨found, hp⟩, hd⟩)))

theorem makeLast_of_isDirectory (h : t.isDirectory p = true) : t.makeLast p = (.ok (), t) := by
  rw [makeLast, makeDirectory_of_isDirectory h]
  simp [h]

/-- Below directories that are there, the last one can be made. -/
theorem exists_makeLast_eq_ok {front : List String} {name : String}
    (hn : p.parts = front ++ [name]) (hshort : p.toString.utf8ByteSize ≤ pathLimit)
    (hfits : name = above ∨ name.utf8ByteSize ≤ nameLimit) (hleads : t.Leads front)
    (hfree : t.find? p.location = none ∨ t.find? p.location = some .directory) :
    ∃ u, t.makeLast p = (.ok (), u) := by
  by_cases hup : name = above
  · have hd : t.isDirectory p = true := by
      rw [isDirectory_iff, hn, hup]
      exact ⟨hshort, hleads.concat_above⟩
    exact ⟨t, makeLast_of_isDirectory hd⟩
  · have hfits := hfits.resolve_left hup
    rcases hfree with hnone | hd
    · have hmade := makeDirectory_eq_ok_iff.2
        ⟨front, name, hn, hup, hleads, hfits, hshort, hnone, rfl⟩
      refine ⟨t.insert p.location .directory, ?_⟩
      rw [makeLast, hmade]
    · have hl : p.location = FileTree.follow [] front ++ [name] := by
        rw [Path.location, hn, follow_append, follow_cons, step_name hup, follow_nil]
      have hd' : t.isDirectory p = true := by
        rw [isDirectory_iff, hn, leads_concat_iff hup, ← hl]
        exact ⟨hshort, hleads, hfits, hd⟩
      exact ⟨t, makeLast_of_isDirectory hd'⟩

/-- Directories are made exactly where that is possible. -/
theorem exists_makeDirectories_eq_ok_iff :
    (∃ u, t.makeDirectories p = (.ok (), u)) ↔ t.Makeable p := by
  constructor
  · rintro ⟨u, hu⟩
    obtain ⟨hmade, hshort⟩ := MadeAlong.of_makeDirectories hu
    exact hmade.makeable hshort
  · intro h
    induction p using makeDirectories.induct t with
    | case1 p made hm =>
      refine ⟨made, ?_⟩
      rw [makeDirectories, hm]
    | case2 p e hm hmissing e' t' hparent ih =>
      obtain ⟨u, hu⟩ := ih h.parent
      rw [hparent] at hu
      cases hu
    | case3 p e hm hmissing t' hparent ih =>
      have hn : p.parts = p.parent.parts ++ [p.parts.getLast hmissing.2] :=
        (List.dropLast_concat_getLast hmissing.2).symm
      have hmade := (MadeAlong.of_makeDirectories hparent).1
      have hfree : t'.find? p.location = none ∨ t'.find? p.location = some .directory := by
        rw [hmade.find?_eq]
        by_cases hw : p.location ∈ walk [] p.parent.parts
        · rw [if_pos hw]
          exact .inr rfl
        · rw [if_neg hw]
          exact h.free_location
      obtain ⟨u, hu⟩ := exists_makeLast_eq_ok hn h.short
        (h.fits _ (List.getLast_mem hmissing.2)) hmade.leads hfree
      refine ⟨u, ?_⟩
      rw [makeDirectories, hm]
      simp only [if_pos hmissing, hparent]
      exact hu
    | case4 p e hm hpresent =>
      have hd := (h.of_makeDirectory_error hm).resolve_left hpresent
      refine ⟨t, ?_⟩
      rw [makeDirectories, hm]
      simp only [if_neg hpresent, hd, if_true]

theorem Extends.makeDirectory (h : t.makeDirectory p = .ok u) : t.Extends u := by
  obtain ⟨front, name, hn, hnamed, -, -, -, hnone, rfl⟩ := makeDirectory_eq_ok_iff.1 h
  have hnew : p.location ≠ [] := by
    intro htop
    rw [htop] at hnone
    cases hnone
  intro l
  rw [find?_insert t hnew]
  by_cases hl : l = p.location
  · rw [if_pos hl, hl]
    exact .inr ⟨hnone, rfl⟩
  · rw [if_neg hl]
    exact .inl rfl

theorem Extends.makeLast (t : FileTree) (p : Path) : t.Extends (t.makeLast p).2 := by
  unfold FileTree.makeLast
  cases hm : t.makeDirectory p with
  | ok made => exact .makeDirectory hm
  | error e => exact .refl t

/-- Whether or not it succeeds, making directories changes nothing else. -/
theorem Extends.makeDirectories (t : FileTree) (p : Path) : t.Extends (t.makeDirectories p).2 := by
  induction p using makeDirectories.induct t with
  | case1 p made hm =>
    rw [FileTree.makeDirectories, hm]
    exact .makeDirectory hm
  | case2 p e hm hmissing e' t' hparent ih =>
    rw [hparent] at ih
    rw [FileTree.makeDirectories, hm]
    simp only [if_pos hmissing, hparent]
    exact ih
  | case3 p e hm hmissing t' hparent ih =>
    rw [hparent] at ih
    rw [FileTree.makeDirectories, hm]
    simp only [if_pos hmissing, hparent]
    exact ih.trans (.makeLast t' p)
  | case4 p e hm hpresent =>
    rw [FileTree.makeDirectories, hm]
    simp only [if_neg hpresent]
    exact .refl t

end

end FileTree

end Lanewise
