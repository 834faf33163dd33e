import Lanewise.Proofs.FileTree.Walk

/-!
# What operations on file trees do

When an operation succeeds and what the tree is afterwards, told by `find?`. Writing, renaming and
removing files leave all directories as they are, so they change no place that a path leads to.
-/

namespace Lanewise

namespace FileTree

open FileError

/-- Directories were made where they were missing along some names. Nothing else changed. -/
structure MadeAlong (t u : FileTree) (names : List String) : Prop where
  leads : u.Leads names
  free : ∀ l ∈ walk [] names, t.find? l = none ∨ t.find? l = some .directory
  find?_eq : ∀ l, u.find? l = if l ∈ walk [] names then some .directory else t.find? l

theorem MadeAlong.refl {t : FileTree} {names : List String} (h : t.Leads names) :
    t.MadeAlong t names := by
  refine ⟨h, fun l hl => .inr (h.passed l hl), fun l => ?_⟩
  by_cases hl : l ∈ walk [] names
  · rw [if_pos hl, h.passed l hl]
  · rw [if_neg hl]

/-- Making the last directory of a path after those above it. -/
theorem MadeAlong.concat {t u v : FileTree} {front : List String} {name : String}
    (h : t.MadeAlong u front) (h' : u.MadeAlong v (front ++ [name])) :
    t.MadeAlong v (front ++ [name]) := by
  have hw : ∀ l ∈ walk [] front, l ∈ walk [] (front ++ [name]) := by
    intro l hl
    rw [walk_append]
    exact List.mem_append_left _ hl
  refine ⟨h'.leads, fun l hl => ?_, fun l => ?_⟩
  · by_cases hf : l ∈ walk [] front
    · exact h.free l hf
    · have hk := h'.free l hl
      rwa [h.find?_eq, if_neg hf] at hk
  · rw [h'.find?_eq, h.find?_eq]
    by_cases hf : l ∈ walk [] front
    · simp only [if_pos hf, if_pos (hw l hf)]
    · rw [if_neg hf]

theorem makeDirectory_eq_ok_iff {t made : FileTree} {p : Path} :
    t.makeDirectory p = .ok made ↔
      ∃ front name, p.parts = front ++ [name] ∧ name ≠ above ∧ t.Leads front ∧
        name.utf8ByteSize ≤ nameLimit ∧ p.toString.utf8ByteSize ≤ pathLimit ∧
        t.find? p.location = none ∧ made = t.insert p.location .directory := by
  unfold makeDirectory
  constructor
  · intro h
    cases hp : t.place p with
    | error reason => simp [hp] at h
    | ok found =>
      obtain ⟨hshort, hleadsTo⟩ := place_eq_ok_iff.1 hp
      have hl := hleadsTo.location
      rw [hp] at h
      cases found with
      | unnamed d => simp at h
      | entry d n =>
        simp only at h
        rw [hl] at h
        cases hf : t.find? (follow [] p.parts) with
        | some node => simp [hf] at h
        | none =>
          rw [hf] at h
          rcases List.eq_nil_or_concat p.parts with hn | ⟨front, name, hn⟩
          · rw [hn, leadsTo_nil_iff] at hleadsTo
            cases hleadsTo
          · rw [List.concat_eq_append] at hn
            rw [hn, leadsTo_concat_iff] at hleadsTo
            rcases hleadsTo with ⟨-, -, he⟩ | ⟨hnamed, hleads, hfits, -⟩
            · cases he
            · exact ⟨front, name, hn, hnamed, hleads, hfits, hshort, hf, (Except.ok.inj h).symm⟩
  · rintro ⟨front, name, hn, hnamed, hleads, hfits, hshort, hf, rfl⟩
    have hp : t.place p = .ok (.entry (follow [] front) name) := by
      rw [place_eq_ok_iff, hn, leadsTo_concat_iff]
      exact ⟨hshort, .inr ⟨hnamed, hleads, hfits, rfl⟩⟩
    have hl : (Place.entry (follow [] front) name).location = p.location := by
      rw [Path.location, hn, ← LeadsTo.location (.entry hnamed hleads hfits)]
    rw [hp]
    simp only [hl, hf]

theorem node_of_place {t : FileTree} {p : Path} {place : Place} (hp : t.place p = .ok place) :
    t.node p = (t.find? p.location).elim (.error .noSuchEntry) .ok := by
  have hl : place.location = p.location := (place_eq_ok_iff.1 hp).2.location
  rw [node, hp, ← hl]
  rfl

theorem node_eq_ok_iff {t : FileTree} {p : Path} {found : Node} :
    t.node p = .ok found ↔
      (∃ place, t.place p = .ok place) ∧ t.find? p.location = some found := by
  cases hp : t.place p with
  | error reason => simp [node, hp, bind, Except.bind]
  | ok place =>
    rw [node_of_place hp]
    cases t.find? p.location <;> simp

/-- A path leads to a directory if its names lead along directories only. -/
theorem node_eq_directory_iff {t : FileTree} {p : Path} :
    t.node p = .ok .directory ↔ p.toString.utf8ByteSize ≤ pathLimit ∧ t.Leads p.parts := by
  rw [node_eq_ok_iff]
  constructor
  · rintro ⟨⟨place, hp⟩, hd⟩
    obtain ⟨hshort, hleadsTo⟩ := place_eq_ok_iff.1 hp
    refine ⟨hshort, ?_⟩
    rw [Path.location] at hd
    generalize p.parts = names at hleadsTo hd
    cases hleadsTo with
    | top => exact .nil t
    | dots hleads => exact hleads
    | entry hnamed hleads hfits =>
      rw [follow_append, follow_cons, step_name hnamed] at hd
      exact (leads_concat_iff hnamed).2 ⟨hleads, hfits, hd⟩
  · rintro ⟨hshort, hleads⟩
    refine ⟨?_, hleads.find?_follow⟩
    simp only [place_eq_ok_iff]
    generalize p.parts = names at hleads
    rcases List.eq_nil_or_concat names with rfl | ⟨front, name, rfl⟩
    · exact ⟨_, hshort, .top⟩
    · rw [List.concat_eq_append] at hleads ⊢
      by_cases hup : name = above
      · subst hup
        exact ⟨_, hshort, .dots hleads⟩
      · obtain ⟨hleads, hfits, -⟩ := (leads_concat_iff hup).1 hleads
        exact ⟨_, hshort, .entry hup hleads hfits⟩

theorem isDirectory_iff {t : FileTree} {p : Path} :
    t.isDirectory p = true ↔ p.toString.utf8ByteSize ≤ pathLimit ∧ t.Leads p.parts := by
  rw [← node_eq_directory_iff]
  unfold isDirectory
  cases t.node p with
  | error reason => simp
  | ok found => cases found <;> simp

/-- Making a directory that is there already finds that it exists. -/
theorem makeDirectory_of_isDirectory {t : FileTree} {p : Path} (h : t.isDirectory p = true) :
    t.makeDirectory p = .error (errorAt p .alreadyExists) := by
  obtain ⟨⟨place, hp⟩, hd⟩ := node_eq_ok_iff.1 (node_eq_directory_iff.2 (isDirectory_iff.1 h))
  have hl : place.location = p.location := (place_eq_ok_iff.1 hp).2.location
  rw [makeDirectory, hp]
  simp only [hl, hd]

theorem MadeAlong.of_makeDirectory {t made : FileTree} {p : Path}
    (h : t.makeDirectory p = .ok made) : t.MadeAlong made p.parts := by
  obtain ⟨front, name, hn, hnamed, hleads, hfits, -, hf, rfl⟩ := makeDirectory_eq_ok_iff.1 h
  have hl : p.location = follow [] front ++ [name] := by
    rw [Path.location, hn, follow_append, follow_cons, step_name hnamed, follow_nil]
  have hnew : p.location ≠ [] := by simp [hl]
  have hw : walk [] p.parts = walk [] front ++ [p.location] := by
    rw [hn, walk_concat hnamed, hl]
  have hk : ∀ l, (t.insert p.location .directory).find? l =
      if l ∈ walk [] p.parts then some .directory else t.find? l := by
    intro l
    rw [find?_insert t hnew]
    simp only [hw, List.mem_append, List.mem_singleton]
    by_cases hlast : l = p.location
    · simp [hlast]
    · by_cases hfront : l ∈ walk [] front
      · simp [hfront, hleads.passed l hfront]
      · simp [hlast, hfront]
  refine ⟨⟨fun l hl => ?_, ?_⟩, fun l hl => ?_, hk⟩
  · rw [hk, if_pos hl]
  · rw [hn, List.forall_mem_append, List.forall_mem_singleton]
    exact ⟨hleads.fits, .inr hfits⟩
  · rw [hw, List.mem_append, List.mem_singleton] at hl
    rcases hl with hl | rfl
    · exact .inr (hleads.passed l hl)
    · exact .inl hf

theorem MadeAlong.of_makeLast {t u : FileTree} {p : Path} (h : t.makeLast p = (.ok (), u)) :
    t.MadeAlong u p.parts ∧ p.toString.utf8ByteSize ≤ pathLimit := by
  unfold makeLast at h
  cases hm : t.makeDirectory p with
  | ok made =>
    rw [hm] at h
    obtain rfl : made = u := congrArg Prod.snd h
    obtain ⟨-, -, -, -, -, -, hshort, -⟩ := makeDirectory_eq_ok_iff.1 hm
    exact ⟨.of_makeDirectory hm, hshort⟩
  | error e =>
    rw [hm] at h
    obtain rfl : t = u := congrArg Prod.snd h
    by_cases hd : t.isDirectory p = true
    · obtain ⟨hshort, hleads⟩ := isDirectory_iff.1 hd
      exact ⟨.refl hleads, hshort⟩
    · simp [hd] at h

/-- Making directories makes those that are missing along a path. -/
theorem MadeAlong.of_makeDirectories {t u : FileTree} {p : Path}
    (h : t.makeDirectories p = (.ok (), u)) :
    t.MadeAlong u p.parts ∧ p.toString.utf8ByteSize ≤ pathLimit := by
  induction p using makeDirectories.induct t generalizing u with
  | case1 p made hm =>
    have hlast : t.makeLast p = (.ok (), u) := by
      rw [makeDirectories, hm] at h
      rw [makeLast, hm]
      exact h
    exact MadeAlong.of_makeLast hlast
  | case2 p e hm hmissing e' t' hparent ih =>
    rw [makeDirectories, hm] at h
    simp only [if_pos hmissing, hparent] at h
    cases h
  | case3 p e hm hmissing t' hparent ih =>
    rw [makeDirectories, hm] at h
    simp only [if_pos hmissing, hparent] at h
    obtain ⟨hlast, hshort⟩ := MadeAlong.of_makeLast h
    refine ⟨?_, hshort⟩
    have hn : p.parts = p.parent.parts ++ [p.parts.getLast hmissing.2] :=
      (List.dropLast_concat_getLast hmissing.2).symm
    rw [hn] at hlast ⊢
    exact (ih hparent).1.concat hlast
  | case4 p e hm hpresent =>
    have hlast : t.makeLast p = (.ok (), u) := by
      rw [makeDirectories, hm] at h
      simp only [if_neg hpresent] at h
      rw [makeLast, hm]
      exact h
    exact MadeAlong.of_makeLast hlast

/-- Directories that are there already are left as they are. -/
theorem makeDirectories_of_leads {t : FileTree} {p : Path}
    (hshort : p.toString.utf8ByteSize ≤ pathLimit) (hleads : t.Leads p.parts) :
    t.makeDirectories p = (.ok (), t) := by
  have hd : t.isDirectory p = true := isDirectory_iff.2 ⟨hshort, hleads⟩
  have hr : ¬ ((errorAt p .alreadyExists).reason = .noSuchEntry ∧ p.parts ≠ []) := by
    rintro ⟨⟨⟩, -⟩
  rw [makeDirectories, makeDirectory_of_isDirectory hd]
  simp only [if_neg hr, hd, if_true]

section

variable {t u : FileTree} {root : Path}

theorem write_child_eq_ok_iff {name : String} (hnamed : name ≠ above) {content : ByteArray} :
    t.write (root.child name) content = .ok u ↔ t.Admits root name ∧
      t.find? (root.location ++ [name]) ≠ some .directory ∧
      u = t.insert (root.location ++ [name]) (.file content) := by
  unfold write
  cases hp : t.place (root.child name) with
  | error reason => simp [not_admits_of_place hnamed hp]
  | ok found =>
    obtain ⟨hadmits, rfl⟩ := (place_child_eq_ok_iff hnamed).1 hp
    simp only [Place.location, hadmits, true_and]
    cases hf : t.find? (root.location ++ [name]) with
    | none => simp [eq_comm]
    | some node => cases node <;> simp [eq_comm]

theorem rename_child_eq_ok_iff {old new : String} (oldNamed : old ≠ above)
    (newNamed : new ≠ above) :
    t.rename (root.child old) (root.child new) = .ok u ↔
      t.Admits root old ∧ t.Admits root new ∧
      t.find? (root.location ++ [new]) ≠ some .directory ∧
      ∃ content, t.find? (root.location ++ [old]) = some (.file content) ∧
        u = (t.erase (root.location ++ [old])).insert (root.location ++ [new])
          (.file content) := by
  unfold rename
  cases hold : t.place (root.child old) with
  | error reason => simp [not_admits_of_place oldNamed hold]
  | ok found =>
    obtain ⟨hadmits, rfl⟩ := (place_child_eq_ok_iff oldNamed).1 hold
    cases hnew : t.place (root.child new) with
    | error reason => simp [not_admits_of_place newNamed hnew]
    | ok found' =>
      obtain ⟨hadmits', rfl⟩ := (place_child_eq_ok_iff newNamed).1 hnew
      simp only [Place.location, renameObstacle?, hadmits, hadmits', true_and]
      cases hf : t.find? (root.location ++ [old]) with
      | none => simp
      | some node =>
        cases node with
        | directory => simp
        | file content =>
          cases hf' : t.find? (root.location ++ [new]) with
          | none => simp [eq_comm]
          | some node' => cases node' <;> simp [eq_comm]

end

end FileTree

end Lanewise
