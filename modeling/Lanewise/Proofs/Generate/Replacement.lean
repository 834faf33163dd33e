import Lanewise.Proofs.Generate.Obstruction

/-!
# What writing a file leaves behind

A file is either replaced as a whole or gone. When it cannot be written, neither an old file nor the
temporary one stays where a later reader could take it for the result, and nothing else has changed.
Writing, renaming and removing leave all directories as they are, so every step of an attempt finds
the paths leading where they led before it.
-/

namespace Lanewise

namespace FileTree

open FileError

/-- A path leads to a location, where something may be or not. -/
def Locates (t : FileTree) (p : Path) (l : Location) : Prop :=
  ∃ found, t.place p = .ok found ∧ found.location = l

/-- A change that leaves all directories and what none of some paths leads to. -/
structure Confined (paths : List Path) (t u : FileTree) : Prop where
  directories : t.SameDirectories u
  elsewhere : ∀ l, (∀ p ∈ paths, ¬ t.Locates p l) → u.find? l = t.find? l

/-- A path leads to a file. -/
def IsFile (t : FileTree) (p : Path) : Prop :=
  ∃ content, t.node p = .ok (.file content)

/-- What a written file leaves: its text under the path, and nothing else that is new. -/
structure Replaces (t u : FileTree) (temporary p : Path) (text : String) : Prop where
  written : u.node p = .ok (.file text.toUTF8)
  temporaryGone : u.node temporary = .error .noSuchEntry
  confined : t.Confined [temporary, p] u

/-- What a file that could not be written leaves: neither an old file nor half of a new one. -/
structure Clears (t u : FileTree) (temporary p : Path) : Prop where
  gone : ¬ u.IsFile p
  temporaryGone : ¬ u.IsFile temporary
  confined : t.Confined [temporary, p] u

/-- What keeps a file from being written by way of a temporary one. -/
inductive Refuses (t : FileTree) (temporary p : Path) : Prop
  /-- What it is below is not a directory. -/
  | noParent (h : t.isDirectory p.parent = false)
  /-- It is a directory. -/
  | occupied (h : t.isDirectory p = true)
  /-- Its temporary file is a directory. -/
  | temporaryOccupied (h : t.isDirectory temporary = true)
  /-- The name of its temporary file is too long. -/
  | longName (name : String) (h : temporary.name? = some name)
    (long : nameLimit < name.utf8ByteSize)
  /-- The path of its temporary file is too long. -/
  | longPath (long : pathLimit < temporary.toString.utf8ByteSize)

section

variable {t u v : FileTree} {paths : List Path} {p q : Path}

/-- What a path leads to depends on the directories only. -/
theorem SameDirectories.place_eq_ok_iff (h : t.SameDirectories u) {found : Place} :
    t.place p = .ok found ↔ u.place p = .ok found := by
  have hleads : t.LeadsTo p.parts found ↔ u.LeadsTo p.parts found := by
    generalize p.parts = names
    constructor
    · intro hl
      cases hl with
      | top => exact .top
      | dots hleads => exact .dots ((h.leads_iff _).1 hleads)
      | entry hnamed hleads hfits => exact .entry hnamed ((h.leads_iff _).1 hleads) hfits
    · intro hl
      cases hl with
      | top => exact .top
      | dots hleads => exact .dots ((h.leads_iff _).2 hleads)
      | entry hnamed hleads hfits => exact .entry hnamed ((h.leads_iff _).2 hleads) hfits
  rw [FileTree.place_eq_ok_iff, FileTree.place_eq_ok_iff, hleads]

theorem SameDirectories.locates_iff (h : t.SameDirectories u) (l : Location) :
    t.Locates p l ↔ u.Locates p l := by
  unfold Locates
  simp only [h.place_eq_ok_iff]

theorem Confined.refl (paths : List Path) (t : FileTree) : t.Confined paths t :=
  ⟨.refl t, fun _ _ => rfl⟩

theorem Confined.trans (h : Confined paths t u) (h' : Confined paths u v) :
    Confined paths t v := by
  refine ⟨h.directories.trans h'.directories, ?_⟩
  intro l hl
  have hfirst : u.find? l = t.find? l := h.elsewhere l hl
  have hsecond : v.find? l = u.find? l := by
    refine h'.elsewhere l ?_
    intro p hp hlocates
    exact hl p hp ((h.directories.locates_iff l).2 hlocates)
  rw [hsecond, hfirst]

theorem Confined.mono {more : List Path} (h : Confined paths t u) (hsub : paths ⊆ more) :
    Confined more t u :=
  ⟨h.directories, fun l hl => h.elsewhere l fun p hp => hl p (hsub hp)⟩

/-- A file that is put where a path leads, in a place that no directory has. -/
theorem Confined.insert_file {found : Place} (hp : t.place p = .ok found)
    (hfree : t.find? found.location ≠ some .directory) (content : ByteArray) :
    Confined [p] t (t.insert found.location (.file content)) := by
  have hbelow : found.location ≠ [] := ne_nil_of_find?_ne_directory hfree
  refine ⟨.insert_file hbelow hfree content, ?_⟩
  intro l hl
  have hne : l ≠ found.location := by
    rintro rfl
    exact hl p List.mem_cons_self ⟨found, hp, rfl⟩
  rw [find?_insert t hbelow, if_neg hne]

/-- A file that is taken away where a path leads. -/
theorem Confined.erase_file {found : Place} {content : ByteArray} (hp : t.place p = .ok found)
    (hf : t.find? found.location = some (.file content)) :
    Confined [p] t (t.erase found.location) := by
  have hbelow : found.location ≠ [] := ne_nil_of_find?_file hf
  have hk := find?_erase t hbelow
  refine ⟨fun l => ?_, fun l hl => ?_⟩
  · by_cases heq : l = found.location
    · simp [hk, heq, hf]
    · rw [hk, if_neg heq]
  · have hne : l ≠ found.location := by
      rintro rfl
      exact hl p List.mem_cons_self ⟨found, hp, rfl⟩
    rw [hk, if_neg hne]

theorem Confined.of_write {content : ByteArray} (h : t.write p content = .ok u) :
    Confined [p] t u := by
  unfold write at h
  cases hp : t.place p with
  | error reason => simp [hp] at h
  | ok found =>
    cases found with
    | unnamed d => simp [hp] at h
    | entry d name =>
      rw [hp] at h
      simp only at h
      split at h
      · cases h
      · rename_i hfree
        obtain rfl := Except.ok.inj h
        exact .insert_file hp hfree content

theorem Confined.of_remove (h : t.remove p = .ok u) : Confined [p] t u := by
  unfold remove at h
  cases hp : t.place p with
  | error reason => simp [hp] at h
  | ok found =>
    rw [hp] at h
    simp only at h
    split at h
    · rename_i content hf
      obtain rfl := Except.ok.inj h
      exact .erase_file hp hf
    · cases h
    · cases h

theorem not_directory_of_renameObstacle? {found : Place} (h : t.renameObstacle? found = none) :
    t.find? found.location ≠ some .directory := by
  cases found with
  | unnamed d => cases h
  | entry d name =>
    intro hd
    simp [renameObstacle?, hd] at h

theorem Confined.of_rename (h : t.rename p q = .ok u) : Confined [p, q] t u := by
  unfold rename at h
  cases hp : t.place p with
  | error reason => simp [hp] at h
  | ok old =>
    cases hq : t.place q with
    | error reason => simp [hp, hq] at h
    | ok new =>
      simp only [hp, hq] at h
      cases hf : t.find? old.location with
      | none => simp [hf] at h
      | some node =>
        cases node with
        | directory => simp [hf] at h
        | file content =>
          cases hfree : t.renameObstacle? new with
          | some reason => simp [hf, hfree] at h
          | none =>
            simp only [hf, hfree] at h
            obtain rfl := Except.ok.inj h
            -- First the old name goes, then the new one comes.
            have herase := Confined.erase_file hp hf
            have hq' := herase.directories.place_eq_ok_iff.1 hq
            have hfree' : (t.erase old.location).find? new.location ≠ some .directory :=
              mt (herase.directories _).2 (not_directory_of_renameObstacle? hfree)
            have hinsert := Confined.insert_file hq' hfree' content
            exact (herase.mono (by simp)).trans (hinsert.mono (by simp))

/-- What an operation changes when it succeeds is what it changes. -/
theorem Confined.of_outcome {r : Except FileError FileTree}
    (h : ∀ u, r = .ok u → Confined paths t u) : Confined paths t (t.outcome r).2 := by
  cases r with
  | error e => exact .refl paths t
  | ok u => exact h u rfl

/-- Replacing a file stays with the file and its temporary one, whether it succeeds or not. -/
theorem Confined.of_replaceFile (temporary p : Path) (text : String) (t : FileTree) :
    Confined [temporary, p] t (t.run (replaceFile temporary p text)).2 := by
  rw [replaceFile, run_bind, run_writeText]
  cases hw : t.write temporary text.toUTF8 with
  | error e => exact .refl _ t
  | ok between =>
    rw [outcome, run_rename]
    have hfirst : Confined [temporary, p] t between := (Confined.of_write hw).mono (by simp)
    have hsecond : Confined [temporary, p] between
        (between.outcome (between.rename temporary p)).2 :=
      .of_outcome fun u hr => .of_rename hr
    exact hfirst.trans hsecond

theorem isFile_iff : t.IsFile p ↔
    ∃ found content, t.place p = .ok found ∧ t.find? found.location = some (.file content) := by
  constructor
  · rintro ⟨content, hc⟩
    obtain ⟨⟨found, hp⟩, hf⟩ := node_eq_ok_iff.1 hc
    have hl : found.location = p.location := (place_eq_ok_iff.1 hp).2.location
    exact ⟨found, content, hp, hl ▸ hf⟩
  · rintro ⟨found, content, hp, hf⟩
    have hl : found.location = p.location := (place_eq_ok_iff.1 hp).2.location
    exact ⟨content, node_eq_ok_iff.2 ⟨⟨found, hp⟩, hl ▸ hf⟩⟩

/-- The tree after an attempt to remove a file. -/
def without (t : FileTree) (p : Path) : FileTree :=
  (t.outcome (t.remove p)).2

theorem Confined.without (t : FileTree) (p : Path) : Confined [p] t (t.without p) :=
  .of_outcome fun _ hr => .of_remove hr

/-- Removing makes no files. -/
theorem find?_without (t : FileTree) (p : Path) (l : Location) :
    (t.without p).find? l = t.find? l ∨ (t.without p).find? l = none := by
  by_cases hl : t.Locates p l
  · obtain ⟨found, hp, rfl⟩ := hl
    rw [FileTree.without, remove, hp]
    simp only
    cases hf : t.find? found.location with
    | none => exact .inl hf
    | some node =>
      cases node with
      | directory => exact .inl hf
      | file content =>
        have hbelow : found.location ≠ [] := ne_nil_of_find?_file hf
        right
        rw [outcome, find?_erase t hbelow, if_pos rfl]
  · left
    refine (Confined.without t p).elsewhere l ?_
    rintro q hq
    rwa [List.mem_singleton.1 hq]

theorem IsFile.of_without (h : (t.without p).IsFile q) : t.IsFile q := by
  rw [isFile_iff] at h ⊢
  obtain ⟨found, content, hq, hf⟩ := h
  have hplace := (Confined.without t p).directories.place_eq_ok_iff.2 hq
  rcases find?_without t p found.location with heq | hnone
  · exact ⟨found, content, hplace, heq ▸ hf⟩
  · rw [hnone] at hf
    cases hf

/-- After an attempt to remove it, a path leads to no file. -/
theorem not_isFile_without (t : FileTree) (p : Path) : ¬ (t.without p).IsFile p := by
  intro h
  have hfile := h.of_without
  rw [isFile_iff] at h hfile
  obtain ⟨found, content, hp, hf⟩ := hfile
  obtain ⟨found', content', hp', hf'⟩ := h
  have hplace := (Confined.without t p).directories.place_eq_ok_iff.2 hp'
  obtain rfl : found = found' := Except.ok.inj (hp ▸ hplace)
  have hbelow : found.location ≠ [] := ne_nil_of_find?_file hf
  rw [FileTree.without, remove, hp] at hf'
  simp only [hf] at hf'
  rw [outcome, find?_erase t hbelow, if_pos rfl] at hf'
  cases hf'

end

section

variable {t u : FileTree} {root p : Path} {name text : String}

theorem parent_fits
    (hshort : (root.child (name ++ temporarySuffix)).toString.utf8ByteSize ≤ pathLimit) :
    root.toString.utf8ByteSize ≤ pathLimit := by
  rw [Path.toString_child, String.utf8ByteSize_append] at hshort
  by_cases hparts : root.parts = []
  · rw [Path.toString, hparts]
    cases root.anchor <;> decide
  · rw [if_neg hparts, String.utf8ByteSize_append] at hshort
    omega

/-- A file can be written in its place unless something keeps it from being written. -/
theorem writable_iff_not_refuses (hnamed : name ≠ above) : t.Writable root name ↔
    ¬ t.Refuses (root.child (name ++ temporarySuffix)) (root.child name) := by
  have htemporary := append_temporarySuffix_ne_above name
  constructor
  · rintro ⟨hadmits, hfree, htfree⟩ hrefuses
    cases hrefuses with
    | noParent h =>
      rw [Path.parent_child] at h
      exact Bool.eq_false_iff.1 h (isDirectory_iff.2 ⟨parent_fits hadmits.short, hadmits.leads⟩)
    | occupied h => exact hfree ((isDirectory_child_iff hnamed hadmits.of_temporary).1 h)
    | temporaryOccupied h => exact htfree ((isDirectory_child_iff htemporary hadmits).1 h)
    | longName name' h long =>
      rw [Path.name?_child] at h
      obtain rfl := Option.some.inj h
      exact absurd hadmits.fits (Nat.not_le.2 long)
    | longPath long => exact absurd hadmits.short (Nat.not_le.2 long)
  · intro hno
    have hshort : (root.child (name ++ temporarySuffix)).toString.utf8ByteSize ≤ pathLimit :=
      Nat.le_of_not_lt fun long => hno (.longPath long)
    have hfits : (name ++ temporarySuffix).utf8ByteSize ≤ nameLimit :=
      Nat.le_of_not_lt fun long => hno (.longName _ (Path.name?_child _ _) long)
    have hparent : t.isDirectory root = true := by
      by_contra h
      refine hno (.noParent ?_)
      rwa [Path.parent_child, ← Bool.not_eq_true]
    have hadmits : t.Admits root (name ++ temporarySuffix) :=
      ⟨(isDirectory_iff.1 hparent).2, hfits, hshort⟩
    refine ⟨hadmits, ?_, ?_⟩
    · intro hd
      exact hno (.occupied ((isDirectory_child_iff hnamed hadmits.of_temporary).2 hd))
    · intro hd
      exact hno (.temporaryOccupied ((isDirectory_child_iff htemporary hadmits).2 hd))

/-- A path that ends in two dots is a directory whenever the one below which it stands is. -/
theorem refuses_above (temporary : Path)
    (hshort : temporary.toString.utf8ByteSize ≤ pathLimit →
      (root.child above).toString.utf8ByteSize ≤ pathLimit) :
    t.Refuses temporary (root.child above) := by
  by_cases hlong : pathLimit < temporary.toString.utf8ByteSize
  · exact .longPath hlong
  · by_cases hparent : t.isDirectory root = true
    · refine .occupied (isDirectory_iff.2 ⟨hshort (Nat.le_of_not_lt hlong), ?_⟩)
      exact (isDirectory_iff.1 hparent).2.concat_above
    · refine .noParent ?_
      rwa [Path.parent_child, ← Bool.not_eq_true]

/-- No file gets a name that is two dots. -/
theorem rename_above_ne_ok (source : Path) : t.rename source (root.child above) ≠ .ok u := by
  intro h
  unfold rename at h
  cases hs : t.place source with
  | error reason => simp [hs] at h
  | ok old =>
    cases hd : t.place (root.child above) with
    | error reason => simp [hs, hd] at h
    | ok new =>
      obtain ⟨-, hleads⟩ := place_eq_ok_iff.1 hd
      rw [Path.child, leadsTo_concat_iff] at hleads
      rcases hleads with ⟨-, -, rfl⟩ | ⟨hne, -⟩
      · simp only [hs, hd, renameObstacle?] at h
        split at h <;> cases h
      · exact absurd rfl hne

/-- What an attempt to write a file comes down to. -/
theorem run_writeFile (hname : p.name? = some name) (hnull : p.hasNull = false) (text : String)
    (t : FileTree) :
    t.run (writeFile p text) =
      match t.run (replaceFile (p.withName (name ++ temporarySuffix)) p text) with
      | (.ok _, u) => (.ok (), u)
      | (.error e, u) => (.error (.notWritten p.toString e),
          (u.without (p.withName (name ++ temporarySuffix))).without p) := by
  unfold writeFile
  simp only [hname, hnull, Bool.false_eq_true, if_false]
  rw [run_bind]
  cases t.run (replaceFile (p.withName (name ++ temporarySuffix)) p text) with
  | mk result between => cases result <;> rfl

/-- A file that was written has a name of its own. -/
theorem ne_above_of_writeFile (h : t.run (writeFile (root.child name) text) = (.ok (), u)) :
    name ≠ above := by
  rintro rfl
  obtain ⟨_, _, _, hreplace⟩ := writeFile_eq_ok_iff.1 h
  obtain ⟨between, -, hrename⟩ := replaceFile_eq_ok_iff.1 hreplace
  exact rename_above_ne_ok _ hrename

theorem writeFile_eq_ok_iff_not_refuses (hname : p.name? = some name)
    (hnull : p.hasNull = false) :
    (∃ u, t.run (writeFile p text) = (.ok (), u)) ↔
      ¬ t.Refuses (p.withName (name ++ temporarySuffix)) p := by
  obtain ⟨root, rfl⟩ := Path.exists_eq_child hname
  rw [Path.child_withName]
  by_cases hnamed : name = above
  · subst hnamed
    have hshort : (root.child (above ++ temporarySuffix)).toString.utf8ByteSize ≤ pathLimit →
        (root.child above).toString.utf8ByteSize ≤ pathLimit := by
      rw [Path.toString_child_append, String.utf8ByteSize_append]
      omega
    constructor
    · rintro ⟨u, hu⟩
      exact absurd rfl (ne_above_of_writeFile hu)
    · intro hno
      exact absurd (refuses_above _ hshort) hno
  · rw [← writable_iff_not_refuses hnamed]
    simp only [writeFile_child_eq_ok_iff hnamed, hnull, true_and]
    exact ⟨fun ⟨_, hw, _⟩ => hw, fun hw => ⟨_, hw, rfl⟩⟩

theorem Confined.of_writeFile (hname : p.name? = some name) (hnull : p.hasNull = false)
    (text : String) (t : FileTree) :
    Confined [p.withName (name ++ temporarySuffix), p] t (t.run (writeFile p text)).2 := by
  have hreplace := Confined.of_replaceFile (p.withName (name ++ temporarySuffix)) p text t
  rw [run_writeFile hname hnull]
  cases hr : t.run (replaceFile (p.withName (name ++ temporarySuffix)) p text) with
  | mk result between =>
    rw [hr] at hreplace
    cases result with
    | ok _ => exact hreplace
    | error e =>
      have htemporary := Confined.without between (p.withName (name ++ temporarySuffix))
      have hown := Confined.without (between.without (p.withName (name ++ temporarySuffix))) p
      exact (hreplace.trans (htemporary.mono (by simp))).trans (hown.mono (by simp))

/-- A file that was written holds its text. -/
theorem Replaces.of_writeFile (hname : p.name? = some name)
    (h : t.run (writeFile p text) = (.ok (), u)) :
    t.Replaces u (p.withName (name ++ temporarySuffix)) p text := by
  have hnull : p.hasNull = false := by
    obtain ⟨-, -, hnull, -⟩ := writeFile_eq_ok_iff.1 h
    exact hnull
  have hconfined := Confined.of_writeFile hname hnull text t
  rw [h] at hconfined
  have hfree := (writeFile_eq_ok_iff_not_refuses hname hnull).1 ⟨u, h⟩
  obtain ⟨root, rfl⟩ := Path.exists_eq_child hname
  rw [Path.child_withName] at hconfined hfree ⊢
  have hnamed : name ≠ above := ne_above_of_writeFile h
  have htemporary := append_temporarySuffix_ne_above name
  obtain ⟨-, hwritable, rfl⟩ := (writeFile_child_eq_ok_iff hnamed).1 h
  have hsame := hwritable.sameDirectories_replaced text
  have hadmits := (hsame.admits_iff _ _).1 hwritable.admits
  have hplace := (place_child_eq_ok_iff htemporary).2 ⟨hadmits, rfl⟩
  have hplace' := (place_child_eq_ok_iff hnamed).2 ⟨hadmits.of_temporary, rfl⟩
  have hne : root.location ++ [name ++ temporarySuffix] ≠ root.location ++ [name] := by
    intro heq
    exact ne_append_temporarySuffix name (by simpa using heq.symm)
  refine ⟨?_, ?_, hconfined⟩
  · rw [node_of_place hplace', root.location_child hnamed, find?_replaced, if_pos rfl]
    rfl
  · rw [node_of_place hplace, root.location_child htemporary, find?_replaced, if_neg hne,
      if_pos rfl]
    rfl

/-- After an attempt that failed, neither path leads to a file. -/
theorem Clears.of_writeFile {failure : Failure} (hname : p.name? = some name)
    (hnull : p.hasNull = false) (h : t.run (writeFile p text) = (.error failure, u)) :
    (∃ e, failure = .notWritten p.toString e) ∧
      t.Clears u (p.withName (name ++ temporarySuffix)) p := by
  have hconfined := Confined.of_writeFile hname hnull text t
  rw [h] at hconfined
  rw [run_writeFile hname hnull] at h
  cases hr : t.run (replaceFile (p.withName (name ++ temporarySuffix)) p text) with
  | mk result between =>
    rw [hr] at h
    cases result with
    | ok _ => cases h
    | error e =>
      obtain rfl := Except.error.inj (congrArg Prod.fst h)
      obtain rfl := congrArg Prod.snd h
      refine ⟨⟨e, rfl⟩, not_isFile_without _ p, ?_, hconfined⟩
      intro hfile
      exact not_isFile_without between _ hfile.of_without

/-- A file that is written is there with its text and without its temporary file. A file that cannot
be written is not there, and neither is its temporary file; the failure names its path. Directories
and other files are never touched. Which of the two it is depends on what is at its parent, at its
path and at its temporary path, and on how long the latter is. A path with a null character is
refused before anything is done. -/
theorem writeFile_replaces_or_clears (hname : p.name? = some name) (text : String)
    (t : FileTree) :
    (p.hasNull = true → t.run (writeFile p text) = (.error .nullInPath, t)) ∧
    (p.hasNull = false →
      (¬ t.Refuses (p.withName (name ++ temporarySuffix)) p →
        ∃ u, t.run (writeFile p text) = (.ok (), u) ∧
          t.Replaces u (p.withName (name ++ temporarySuffix)) p text) ∧
      (t.Refuses (p.withName (name ++ temporarySuffix)) p →
        ∃ e u, t.run (writeFile p text) = (.error (.notWritten p.toString e), u) ∧
          t.Clears u (p.withName (name ++ temporarySuffix)) p)) := by
  refine ⟨?_, fun hnull => ⟨?_, ?_⟩⟩
  · intro hnull
    unfold writeFile
    simp only [hname, hnull, if_true]
    rfl
  · intro hfree
    have hwritten : ∃ u, t.run (writeFile p text) = (.ok (), u) :=
      (writeFile_eq_ok_iff_not_refuses hname hnull).2 hfree
    obtain ⟨u, hu⟩ := hwritten
    exact ⟨u, hu, .of_writeFile hname hu⟩
  · intro hrefuses
    cases hrun : t.run (writeFile p text) with
    | mk result u =>
      cases result with
      | ok _ =>
        exact absurd hrefuses ((writeFile_eq_ok_iff_not_refuses hname hnull).1 ⟨u, hrun⟩)
      | error failure =>
        obtain ⟨⟨e, rfl⟩, hclears⟩ := Clears.of_writeFile hname hnull hrun
        exact ⟨e, u, rfl, hclears⟩

end

/-- A tree where a directory has the name of the temporary file of an older file. -/
def jammed : FileTree :=
  ⟨[(["a"], .file "old".toUTF8), (["a.tmp"], .directory)]⟩

/-- The older file is removed when it cannot be replaced, and a file that is not obstructed is
written. -/
theorem writeFile_on_jammed :
    (Path.ofString "a").name? = some "a" ∧ (Path.ofString "b").name? = some "b" ∧
      jammed.IsFile (.ofString "a") ∧
      (∃ e u, jammed.run (writeFile (.ofString "a") "new") = (.error (.notWritten "a" e), u) ∧
        ¬ u.IsFile (.ofString "a")) ∧
      ∃ u, jammed.run (writeFile (.ofString "b") "new") = (.ok (), u) ∧
        u.node (.ofString "b") = .ok (.file "new".toUTF8) := by
  have ha : (Path.ofString "a").name? = some "a" := by decide +kernel
  have hb : (Path.ofString "b").name? = some "b" := by decide +kernel
  have hplace : jammed.place (.ofString "a") = .ok (.entry [] "a") := by decide +kernel
  have hold : jammed.IsFile (.ofString "a") :=
    isFile_iff.2 ⟨.entry [] "a", "old".toUTF8, hplace, rfl⟩
  obtain ⟨-, hclears⟩ := (writeFile_replaces_or_clears ha "new" jammed).2 (by decide +kernel)
  obtain ⟨hreplaces, -⟩ := (writeFile_replaces_or_clears hb "new" jammed).2 (by decide +kernel)
  have hrefuses : jammed.Refuses ((Path.ofString "a").withName ("a" ++ temporarySuffix))
      (.ofString "a") := .temporaryOccupied (by decide +kernel)
  have hfree : ¬ jammed.Refuses ((Path.ofString "b").withName ("b" ++ temporarySuffix))
      (.ofString "b") := by
    intro h
    cases h with
    | noParent h => exact absurd h (by decide +kernel)
    | occupied h => exact absurd h (by decide +kernel)
    | temporaryOccupied h => exact absurd h (by decide +kernel)
    | longName name h long =>
      obtain rfl := Option.some.inj h
      exact absurd long (by decide +kernel)
    | longPath long => exact absurd long (by decide +kernel)
  obtain ⟨e, u, hrun, hgone⟩ := hclears hrefuses
  obtain ⟨u', hrun', hwritten⟩ := hreplaces hfree
  exact ⟨ha, hb, hold, ⟨e, u, hrun, hgone.gone⟩, u', hrun', hwritten.written⟩

/-- The tree after a root was made that leaves little room for the paths below it. -/
def longTree : FileTree :=
  (empty.makeDirectories longRoot).2

theorem madeAlong_longTree : empty.MadeAlong longTree longRoot.parts := by
  obtain ⟨between, hm⟩ := exists_makeDirectories_eq_ok_iff.2 makeable_longRoot
  rw [longTree, hm]
  exact (MadeAlong.of_makeDirectories hm).1

theorem above_not_mem_longRoot : above ∉ longRoot.parts := by
  intro h
  rw [longRoot, Path.child, longPath, List.mem_append, List.mem_singleton] at h
  have hsize : above.utf8ByteSize = 2 := by decide
  rcases h with h | h
  · rw [List.eq_of_mem_replicate h, utf8ByteSize_letters] at hsize
    exact absurd hsize (by decide)
  · rw [h, utf8ByteSize_letters] at hsize
    exact absurd hsize (by decide)

/-- Below a directory there can be no room for a temporary path, although its name is short and no
directory has it. And a path with a null character is neither written nor named by the failure. -/
theorem writeFile_fails_without_obstacle :
    (longTree.isDirectory longRoot = true ∧
      longTree.isDirectory (longRoot.child (letters 38)) = false ∧
      longTree.isDirectory (longRoot.child (letters 38 ++ temporarySuffix)) = false ∧
      (letters 38 ++ temporarySuffix).utf8ByteSize ≤ nameLimit ∧
      ∃ e u, longTree.run (writeFile (longRoot.child (letters 38)) "x") =
        (.error (.notWritten (longRoot.child (letters 38)).toString e), u)) ∧
    empty.run (writeFile (.ofString "a\x00b") "x") = (.error .nullInPath, empty) := by
  have hmade := madeAlong_longTree
  have hroot : longTree.isDirectory longRoot = true :=
    isDirectory_iff.2 ⟨makeable_longRoot.short, hmade.leads⟩
  have hfree : ∀ name, name ≠ above → longTree.isDirectory (longRoot.child name) = false := by
    intro name hnamed
    rw [← Bool.not_eq_true, isDirectory_iff]
    rintro ⟨-, hleads⟩
    rw [Path.child, leads_concat_iff hnamed] at hleads
    have hd := (hmade.find?_eq_directory_iff _).1 hleads.2.2
    rw [← Path.location, occupied_child_iff_of_not_mem above_not_mem_longRoot, find?_empty,
      if_neg (by simp)] at hd
    cases hd
  have hsize : (letters 38 ++ temporarySuffix).utf8ByteSize = 42 := by
    rw [String.utf8ByteSize_append, utf8ByteSize_letters]
    rfl
  have hnamed : letters 38 ≠ above := by
    intro h
    have hletters := utf8ByteSize_letters 38
    rw [h] at hletters
    exact absurd hletters (by decide)
  have hnull : (longRoot.child (letters 38)).hasNull = false :=
    Path.hasNull_child (Path.hasNull_child (hasNull_longPath 14) (null_not_mem_letters 213))
      (null_not_mem_letters 38)
  have hlong : pathLimit <
      (longRoot.child (letters 38 ++ temporarySuffix)).toString.utf8ByteSize := by
    have hparts : longRoot.parts ≠ [] := by simp [longRoot, Path.child]
    rw [Path.toString_child, if_neg hparts, String.utf8ByteSize_append,
      String.utf8ByteSize_append, utf8ByteSize_longRoot, hsize]
    decide
  refine ⟨⟨hroot, hfree _ hnamed, hfree _ (append_temporarySuffix_ne_above _), ?_, ?_⟩, ?_⟩
  · rw [hsize]
    decide
  · cases hrun : longTree.run (writeFile (longRoot.child (letters 38)) "x") with
    | mk result u =>
      cases result with
      | ok _ =>
        have hshort := ((writeFile_child_eq_ok_iff hnamed).1 hrun).2.1.admits.short
        exact absurd hshort (Nat.not_le.2 hlong)
      | error failure =>
        obtain ⟨-, e, rfl⟩ := writeFile_child_eq_error hnamed hnull hrun
        exact ⟨e, u, rfl⟩
  · have hname : (Path.ofString "a\x00b").name? = some "a\x00b" := by decide +kernel
    have hnull : (Path.ofString "a\x00b").hasNull = true := by decide +kernel
    unfold writeFile
    simp only [hname, hnull, if_true]
    rfl

end FileTree

end Lanewise
