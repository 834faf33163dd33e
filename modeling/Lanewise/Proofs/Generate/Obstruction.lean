import Lanewise.Proofs.Artifact.FileName
import Lanewise.Proofs.Artifact.Rendering
import Lanewise.Proofs.FileTree.Making
import Lanewise.Proofs.Generate.Effect

/-!
# What a generation fails on

A file cannot be written where a directory has its name or its temporary name. Writing a file makes
no directory, so which artifacts are blocked depends only on what was there before the first was
written, and a generation fails if one of them is, in whatever order they are written. Making the
root comes before all of that. It can itself put a directory where a file belongs, because two dots
in the root lead back above what was made.

The expressions of the formulas are plain text and placeholders, which every engine fills. Rendering
can then fail only for want of a formula. An expression that is no such template can be refused by an
engine; that failure is not one of those considered here.
-/

namespace Lanewise

/-- The temporary file of an artifact has neither a name nor a path that is too long. Then neither
has the file itself. -/
structure Artifact.FitsBelow (root : Path) (a : Artifact) : Prop where
  name : (a.fileName ++ temporarySuffix).utf8ByteSize ≤ FileTree.nameLimit
  path : (a.temporaryPath root).toString.utf8ByteSize ≤ FileTree.pathLimit

namespace FileTree

/-- A directory is at a location, or will be when a path has been made a directory. -/
def Occupied (t : FileTree) (root : Path) (l : Location) : Prop :=
  t.find? l = some .directory ∨ l ∈ walk [] root.parts

/-- What keeps an artifact from being written below a root that is there or can be made. -/
inductive Blocked (t : FileTree) (root : Path) (a : Artifact) : Prop
  /-- A directory has its path. -/
  | occupied (h : t.Occupied root (a.path root).location)
  /-- A directory has its temporary path. -/
  | temporaryOccupied (h : t.Occupied root (a.temporaryPath root).location)
  /-- Its temporary path is too long. -/
  | tooLong (h : ¬ a.FitsBelow root)

section

variable {t u : FileTree} {root : Path}

theorem MadeAlong.find?_eq_directory_iff (h : t.MadeAlong u root.parts) (l : Location) :
    u.find? l = some .directory ↔ t.Occupied root l := by
  rw [h.find?_eq, Occupied]
  by_cases hw : l ∈ walk [] root.parts
  · simp [hw]
  · simp [hw]

/-- Once the root is made, the places of an artifact are there unless it was blocked. -/
theorem MadeAlong.writable_iff (h : t.MadeAlong u root.parts) (a : Artifact) :
    u.Writable root a.fileName ↔ ¬ t.Blocked root a := by
  have hpath := h.find?_eq_directory_iff (a.path root).location
  have htemporary := h.find?_eq_directory_iff (a.temporaryPath root).location
  rw [a.location_path] at hpath
  rw [a.location_temporaryPath] at htemporary
  constructor
  · rintro ⟨hadmits, hfree, htfree⟩ hblocked
    cases hblocked with
    | occupied ho =>
      rw [a.location_path] at ho
      exact hfree (hpath.2 ho)
    | temporaryOccupied ho =>
      rw [a.location_temporaryPath] at ho
      exact htfree (htemporary.2 ho)
    | tooLong hl => exact hl ⟨hadmits.fits, hadmits.short⟩
  · intro hfree
    have hbelow : a.FitsBelow root := not_not.1 fun hl => hfree (.tooLong hl)
    refine ⟨⟨h.leads, hbelow.name, hbelow.path⟩, ?_, ?_⟩
    · intro hd
      refine hfree (.occupied ?_)
      rw [a.location_path]
      exact hpath.1 hd
    · intro hd
      refine hfree (.temporaryOccupied ?_)
      rw [a.location_temporaryPath]
      exact htemporary.1 hd

/-- A file that cannot be written is the one that the failure names. -/
theorem writeFile_child_eq_error {name text : String} {failure : Failure}
    (hnamed : name ≠ above) (hnull : (root.child name).hasNull = false)
    (h : t.run (writeFile (root.child name) text) = (.error failure, u)) :
    ¬ t.Writable root name ∧ ∃ e, failure = .notWritten (root.child name).toString e := by
  constructor
  · intro hwritable
    rw [(writeFile_child_eq_ok_iff hnamed).2 ⟨hnull, hwritable, rfl⟩] at h
    cases h
  · unfold writeFile at h
    simp only [Path.name?_child, hnull, Bool.false_eq_true, if_false] at h
    rw [run_bind] at h
    cases hr : t.run (replaceFile ((root.child name).withName (name ++ temporarySuffix))
        (root.child name) text) with
    | mk result between =>
      cases result with
      | ok _ =>
        rw [hr] at h
        cases h
      | error e =>
        rw [hr] at h
        exact ⟨e, (Except.error.inj (congrArg Prod.fst h)).symm⟩

/-- Without dots in the root, making it puts no directory in the place of a file. -/
theorem occupied_child_iff_of_not_mem (h : above ∉ root.parts) (name : String) :
    t.Occupied root (root.location ++ [name]) ↔
      t.find? (root.location ++ [name]) = some .directory := by
  refine ⟨?_, .inl⟩
  rintro (hd | hw)
  · exact hd
  · have hprefix := (prefix_of_mem_walk h hw).length_le
    rw [Path.location, follow_of_not_mem h] at hprefix
    simp at hprefix

theorem isDirectory_child_iff {name : String} (hnamed : name ≠ above)
    (hadmits : t.Admits root name) :
    t.isDirectory (root.child name) = true ↔
      t.find? (root.location ++ [name]) = some .directory := by
  rw [isDirectory_iff, Path.child, leads_concat_iff hnamed]
  constructor
  · rintro ⟨-, -, -, hd⟩
    exact hd
  · intro hd
    exact ⟨hadmits.short, hadmits.leads, hadmits.fits, hd⟩

/-- Below a root without dots, an artifact that fits is blocked by the directories that are at its
path or its temporary path, and by nothing else. -/
theorem blocked_iff_of_not_mem {a : Artifact} (h : above ∉ root.parts) (hfits : a.FitsBelow root) :
    t.Blocked root a ↔ t.find? (a.path root).location = some .directory ∨
      t.find? (a.temporaryPath root).location = some .directory := by
  have hpath := occupied_child_iff_of_not_mem (t := t) h a.fileName
  have htemporary := occupied_child_iff_of_not_mem (t := t) h (a.fileName ++ temporarySuffix)
  rw [← a.location_path] at hpath
  rw [← a.location_temporaryPath] at htemporary
  constructor
  · intro hblocked
    cases hblocked with
    | occupied ho => exact .inl (hpath.1 ho)
    | temporaryOccupied ho => exact .inr (htemporary.1 ho)
    | tooLong hl => exact absurd hfits hl
  · rintro (hd | hd)
    · exact .occupied (hpath.2 hd)
    · exact .temporaryOccupied (htemporary.2 hd)

/-- Below a root that is there, an artifact that fits is blocked when its path or its temporary path
leads to a directory, and by nothing else. -/
theorem blocked_iff_of_isDirectory {a : Artifact} (h : t.isDirectory root = true)
    (hfits : a.FitsBelow root) :
    t.Blocked root a ↔
      t.isDirectory (a.path root) = true ∨ t.isDirectory (a.temporaryPath root) = true := by
  have hleads := (isDirectory_iff.1 h).2
  have hadmits : t.Admits root (a.fileName ++ temporarySuffix) := ⟨hleads, hfits.name, hfits.path⟩
  -- Nothing is made on the way to a root that is there, so it is writable as it is.
  have hwritable := (MadeAlong.refl hleads).writable_iff a
  rw [Artifact.path, Artifact.temporaryPath,
    isDirectory_child_iff a.fileName_ne_above hadmits.of_temporary,
    isDirectory_child_iff (append_temporarySuffix_ne_above _) hadmits]
  constructor
  · intro hblocked
    by_contra hno
    rw [not_or] at hno
    exact hwritable.1 ⟨hadmits, hno.1, hno.2⟩ hblocked
  · intro hd
    by_contra hno
    obtain ⟨-, hfree, htfree⟩ := hwritable.2 hno
    rcases hd with hd | hd
    · exact hfree hd
    · exact htfree hd

theorem any_workers_eq_false {workers : Option Int} (h : ∀ n ∈ workers, 0 < n) :
    workers.any (· ≤ 0) = false := by
  cases workers with
  | none => rfl
  | some n =>
    have hn : 0 < n := h n rfl
    simpa using hn

end

section

variable [Template.Engine]
variable {t u : FileTree} {root : Path} {tables : Tables} {order : List Artifact}

theorem writeArtifacts_cons_eq_error_iff {a : Artifact} {rest : List Artifact}
    {r : Artifact.Rendered} {failure : Failure} (hr : a.render tables root = .ok r) :
    t.run (writeArtifacts tables root (a :: rest)) = (.error failure, u) ↔
      t.run (writeFile r.path r.text) = (.error failure, u) ∨
      ∃ between, t.run (writeFile r.path r.text) = (.ok (), between) ∧
        between.run (writeArtifacts tables root rest) = (.error failure, u) := by
  rw [writeArtifacts, hr]
  simp only
  rw [run_bind]
  cases hw : t.run (writeFile r.path r.text) with
  | mk result between =>
    cases result with
    | error failure' => simp [run_pure]
    | ok _ =>
      simp only
      rw [run_bind]
      cases ho : between.run (writeArtifacts tables root rest) with
      | mk result after =>
        cases result with
        | error failure' => simp [run_pure, ho]
        | ok others => simp [run_pure, ho]

/-- Writing artifacts that can be rendered fails on one whose places are not there. -/
theorem writeArtifacts_eq_error {failure : Failure}
    (hrender : ∀ a ∈ order, ∃ r, a.render tables root = .ok r)
    (hnull : ∀ a ∈ order, (a.path root).hasNull = false)
    (h : t.run (writeArtifacts tables root order) = (.error failure, u)) :
    ∃ a ∈ order, ¬ t.Writable root a.fileName ∧
      ∃ e, failure = .notWritten (a.path root).toString e := by
  induction order generalizing t with
  | nil => cases h
  | cons a rest ih =>
    rw [List.forall_mem_cons] at hrender hnull
    obtain ⟨r, hr⟩ := hrender.1
    obtain ⟨-, hpath, -⟩ := Artifact.render_eq_ok_iff.1 hr
    rw [writeArtifacts_cons_eq_error_iff hr, hpath, Artifact.path] at h
    rcases h with hw | ⟨between, hw, ho⟩
    · obtain ⟨hno, e, he⟩ := writeFile_child_eq_error a.fileName_ne_above hnull.1 hw
      exact ⟨a, List.mem_cons_self, hno, e, he⟩
    · obtain ⟨-, hwritable, rfl⟩ := (writeFile_child_eq_ok_iff a.fileName_ne_above).1 hw
      obtain ⟨b, hb, hno, he⟩ := ih hrender.2 hnull.2 ho
      -- What was written so far made no directory, so it has blocked nothing.
      have hsame := hwritable.sameDirectories_replaced r.text
      exact ⟨b, List.mem_cons_of_mem a hb, mt hsame.writable_iff.1 hno, he⟩

theorem generateInOrder_of_hasNull (hnull : root.hasNull = true) (workers : Option Int) :
    t.run (generateInOrder order tables root workers) = (.error .nullInPath, t) := by
  rw [generateInOrder, if_pos hnull]
  rfl

/-- A root that cannot be made is the one that the failure names. -/
theorem generateInOrder_of_makeDirectories_error {e : FileError} (hnull : root.hasNull = false)
    (hm : t.makeDirectories root = (.error e, u)) (workers : Option Int) :
    t.run (generateInOrder order tables root workers) =
      (.error (.notWritten root.toString e), u) := by
  rw [generateInOrder, if_neg (Bool.eq_false_iff.1 hnull), run_bind, run_makeDirectories, hm]
  rfl

theorem generateInOrder_eq_error_iff {between : FileTree} {workers : Option Int}
    {failure : Failure} (hnull : root.hasNull = false)
    (hm : t.makeDirectories root = (.ok (), between))
    (hnames : ((Artifact.matrix tables.widths).map Artifact.fileName).Nodup)
    (hworkers : workers.any (· ≤ 0) = false) :
    t.run (generateInOrder order tables root workers) = (.error failure, u) ↔
      between.run (writeArtifacts tables root order) = (.error failure, u) := by
  have hdeclared : Artifact.declaredOutputs tables.widths root =
      .ok (Artifact.paths tables.widths root) :=
    Artifact.declaredOutputs_eq_ok_iff.2 ⟨hnames, rfl⟩
  rw [generateInOrder, if_neg (Bool.eq_false_iff.1 hnull), run_bind, run_makeDirectories, hm]
  simp only [hdeclared, hworkers, Bool.false_eq_true, if_false]
  rw [run_bind]
  cases ho : between.run (writeArtifacts tables root order) with
  | mk result after =>
    cases result with
    | error failure' => simp [run_pure]
    | ok written => simp [run_pure]

theorem exists_render_eq_ok (hformulas : tables.formulas.validate tables.catalog = .ok ())
    (root : Path) (a : Artifact) : ∃ r, a.render tables root = .ok r := by
  have hfits := (tables.formulas.validate_eq_ok_iff tables.catalog).1 hformulas
  obtain ⟨text, htext⟩ := (Artifact.isRendered_of_fits hfits a).text
  exact ⟨⟨a, a.path root, text⟩, Artifact.render_eq_ok_iff.2 ⟨rfl, rfl, htext⟩⟩

/-- Below a root that can be made, a generation that fails names an artifact that was blocked. -/
theorem exists_blocked_of_generateInOrder {workers : Option Int} {failure : Failure}
    (horder : order.Perm (Artifact.matrix tables.widths)) (hwidths : tables.widths.Nodup)
    (hformulas : tables.formulas.validate tables.catalog = .ok ())
    (hworkers : ∀ n ∈ workers, 0 < n) (hnull : root.hasNull = false) (hmake : t.Makeable root)
    (h : t.run (generateInOrder order tables root workers) = (.error failure, u)) :
    ∃ a ∈ Artifact.matrix tables.widths, t.Blocked root a ∧
      ∃ e, failure = .notWritten (a.path root).toString e := by
  obtain ⟨between, hm⟩ := exists_makeDirectories_eq_ok_iff.2 hmake
  have hmade := (MadeAlong.of_makeDirectories hm).1
  rw [generateInOrder_eq_error_iff hnull hm (Artifact.nodup_fileNames hwidths)
    (any_workers_eq_false hworkers)] at h
  obtain ⟨a, ha, hno, he⟩ := writeArtifacts_eq_error
    (fun a _ => exists_render_eq_ok hformulas root a)
    (fun a _ => Path.hasNull_child hnull a.null_not_mem_fileName) h
  rw [hmade.writable_iff, not_not] at hno
  exact ⟨a, horder.mem_iff.1 ha, hno, he⟩

/-- A generation does not succeed if an artifact is blocked. -/
theorem exists_failure_of_blocked {a : Artifact}
    (horder : order.Perm (Artifact.matrix tables.widths))
    (ha : a ∈ Artifact.matrix tables.widths) (hblocked : t.Blocked root a)
    (workers : Option Int) :
    ∃ failure u, t.run (generateInOrder order tables root workers) = (.error failure, u) := by
  cases h : t.run (generateInOrder order tables root workers) with
  | mk result u =>
    cases result with
    | error failure => exact ⟨failure, u, rfl⟩
    | ok rs =>
      obtain ⟨-, -, -, between, written, hm, hw, -⟩ := generateInOrder_eq_ok_iff.1 h
      have hmade := (MadeAlong.of_makeDirectories hm).1
      have hwritable := ((writeArtifacts_eq_ok_iff.1 hw).2.1 a (horder.mem_iff.2 ha)).2
      exact absurd hblocked ((hmade.writable_iff a).1 hwritable)

/-- A generation fails exactly when an artifact is blocked, and names one that is. Which ones are
blocked depends on the files and directories that were there before, and not on the order in which
the artifacts are written. If the root cannot be made, the failure names the root and no file is
made, changed or removed. A root with a null character is refused before anything is done. All of
this is about expressions of plain text and placeholders, since other sources may be refused by the
template engine. -/
theorem generateInOrder_fails_iff_blocked {workers : Option Int}
    (horder : order.Perm (Artifact.matrix tables.widths)) (hwidths : tables.widths.Nodup)
    (hformulas : tables.formulas.validate tables.catalog = .ok ())
    (hworkers : ∀ n ∈ workers, 0 < n) :
    Artifact.declaredOutputs tables.widths root =
        .ok ((Artifact.matrix tables.widths).map (Artifact.path root)) ∧
    (root.hasNull = true →
      t.run (generateInOrder order tables root workers) = (.error .nullInPath, t)) ∧
    (root.hasNull = false → ¬ t.Makeable root → ∃ e u,
      t.run (generateInOrder order tables root workers) =
        (.error (.notWritten root.toString e), u) ∧ t.Extends u) ∧
    (root.hasNull = false → t.Makeable root →
      ((∃ p e u, t.run (generateInOrder order tables root workers) =
          (.error (.notWritten p e), u)) ↔
        ∃ a ∈ Artifact.matrix tables.widths, t.Blocked root a) ∧
      ∀ failure u, t.run (generateInOrder order tables root workers) = (.error failure, u) →
        ∃ a ∈ Artifact.matrix tables.widths, t.Blocked root a ∧
          ∃ e, failure = .notWritten (a.path root).toString e) ∧
    (∀ a : Artifact, a.FitsBelow root →
      (t.isDirectory root = true → (t.Blocked root a ↔
        t.isDirectory (a.path root) = true ∨ t.isDirectory (a.temporaryPath root) = true)) ∧
      (above ∉ root.parts → (t.Blocked root a ↔
        t.find? (a.path root).location = some .directory ∨
          t.find? (a.temporaryPath root).location = some .directory))) := by
  refine ⟨?_, ?_, ?_, ?_, ?_⟩
  · exact Artifact.declaredOutputs_eq_ok_iff.2 ⟨Artifact.nodup_fileNames hwidths, rfl⟩
  · intro hnull
    exact generateInOrder_of_hasNull hnull workers
  · intro hnull hmake
    have hextends := Extends.makeDirectories t root
    cases hm : t.makeDirectories root with
    | mk result u =>
      cases result with
      | ok _ => exact absurd (exists_makeDirectories_eq_ok_iff.1 ⟨u, hm⟩) hmake
      | error e =>
        rw [hm] at hextends
        exact ⟨e, u, generateInOrder_of_makeDirectories_error hnull hm workers, hextends⟩
  · intro hnull hmake
    refine ⟨⟨?_, ?_⟩, fun failure u h => ?_⟩
    · rintro ⟨p, e, u, h⟩
      obtain ⟨a, ha, hblocked, -⟩ := exists_blocked_of_generateInOrder horder hwidths hformulas
        hworkers hnull hmake h
      exact ⟨a, ha, hblocked⟩
    · rintro ⟨a, ha, hblocked⟩
      obtain ⟨failure, u, h⟩ := exists_failure_of_blocked horder ha hblocked workers
      obtain ⟨b, -, -, e, rfl⟩ := exists_blocked_of_generateInOrder horder hwidths hformulas
        hworkers hnull hmake h
      exact ⟨_, e, u, h⟩
    · exact exists_blocked_of_generateInOrder horder hwidths hformulas hworkers hnull hmake h
  · intro a hfits
    exact ⟨fun h => blocked_iff_of_isDirectory h hfits, fun h => blocked_iff_of_not_mem h hfits⟩

end

/-- A tree where a directory has the temporary name of an artifact. -/
def obstructed : FileTree :=
  ⟨[(["out"], .directory),
    (["out", "SIMD+RealFunctions.swift"], .file "old".toUTF8),
    (["out", "SIMD4+Float+RealFunctions.swift.tmp"], .directory)]⟩

/-- The generation that comes upon that directory names an artifact that is blocked by it. -/
theorem generateInOrder_fails_on_obstructed :
    (Artifact.matrix Tables.exponential.widths).reverse.Perm
        (Artifact.matrix Tables.exponential.widths) ∧
      Tables.exponential.widths.Nodup ∧
      Tables.exponential.formulas.validate Tables.exponential.catalog = .ok () ∧
      (∀ n ∈ some (2 : Int), 0 < n) ∧
      ∃ a ∈ Artifact.matrix Tables.exponential.widths, ∃ e u,
        obstructed.Blocked (.ofString "out") a ∧
        obstructed.run (generateInOrder (Artifact.matrix Tables.exponential.widths).reverse
          .exponential (.ofString "out") (some 2)) =
            (.error (.notWritten (a.path (.ofString "out")).toString e), u) := by
  have horder := List.reverse_perm (Artifact.matrix Tables.exponential.widths)
  have hwidths : Tables.exponential.widths.Nodup := List.nodup_singleton 4
  have hformulas : Tables.exponential.formulas.validate Tables.exponential.catalog = .ok () := by
    decide +kernel
  have hworkers : ∀ n ∈ some (2 : Int), 0 < n := by decide
  have hnull : (Path.ofString "out").hasNull = false := by decide +kernel
  have hd : obstructed.isDirectory (.ofString "out") = true := by decide +kernel
  obtain ⟨hshort, hleads⟩ := isDirectory_iff.1 hd
  obtain ⟨hfails, hnames⟩ := (generateInOrder_fails_iff_blocked horder hwidths hformulas
    hworkers).2.2.2.1 hnull ((MadeAlong.refl hleads).makeable hshort)
  have hblocked : obstructed.Blocked (.ofString "out") ⟨.vector .float 4, .implementations, rfl⟩ :=
    .temporaryOccupied (.inl rfl)
  have hmatrix : (⟨.vector .float 4, .implementations, rfl⟩ : Artifact) ∈
      Artifact.matrix Tables.exponential.widths := by decide
  obtain ⟨p, e, u, h⟩ := hfails.2 ⟨_, hmatrix, hblocked⟩
  obtain ⟨a, ha, hb, e', he⟩ := hnames _ u h
  exact ⟨horder, hwidths, hformulas, hworkers, a, ha, e', u, hb, he ▸ h⟩

end FileTree

/-- The standard tables when no width is offered. -/
def Tables.withoutWidths : Tables := { Tables.standard with widths := [] }

namespace FileTree

theorem find?_empty (l : Location) : empty.find? l = if l = [] then some .directory else none := by
  rw [find?]
  rfl

theorem isDirectory_child_empty (root : Path) {name : String} (hnamed : name ≠ above) :
    empty.isDirectory (root.child name) = false := by
  rw [← Bool.not_eq_true, isDirectory_iff]
  rintro ⟨-, hleads⟩
  rw [Path.child, leads_concat_iff hnamed, find?_empty, if_neg (by simp)] at hleads
  cases hleads.2.2

theorem makeable_empty {root : Path} (hshort : root.toString.utf8ByteSize ≤ pathLimit)
    (hfits : ∀ name ∈ root.parts, name = above ∨ name.utf8ByteSize ≤ nameLimit) :
    empty.Makeable root := by
  refine ⟨hshort, hfits, fun l _ => ?_⟩
  rw [find?_empty]
  by_cases hl : l = []
  · rw [if_pos hl]
    exact .inr rfl
  · rw [if_neg hl]
    exact .inl rfl

/-- A root that leads back above a directory with the name of an artifact. -/
def dottedRoot : Path := .ofString "out/SIMD+RealFunctions.swift/.."

/-- A name of so many letters. -/
def letters (n : Nat) : String := String.ofList (List.replicate n 'r')

theorem utf8ByteSize_letters (n : Nat) : (letters n).utf8ByteSize = n := by
  induction n with
  | zero => rfl
  | succ n ih =>
    rw [letters, List.replicate_succ, String.ofList_cons, String.utf8ByteSize_append, ← letters,
      ih, String.utf8ByteSize_singleton]
    exact Nat.add_comm 1 n

theorem null_not_mem_letters (n : Nat) : '\x00' ∉ (letters n).toList := by
  rw [letters, String.toList_ofList]
  intro h
  exact absurd (List.eq_of_mem_replicate h) (by decide)

/-- A path of names that are as long as they may be. -/
def longPath (n : Nat) : Path := ⟨.relative, List.replicate (n + 1) (letters nameLimit)⟩

theorem longPath_succ (n : Nat) : longPath (n + 1) = (longPath n).child (letters nameLimit) := by
  rw [longPath, List.replicate_succ']
  rfl

theorem utf8ByteSize_child_longPath (n : Nat) (name : String) :
    ((longPath n).child name).toString.utf8ByteSize =
      (longPath n).toString.utf8ByteSize + 1 + name.utf8ByteSize := by
  have hparts : (longPath n).parts ≠ [] := by simp [longPath]
  rw [Path.toString_child, if_neg hparts, String.utf8ByteSize_append, String.utf8ByteSize_append]
  rfl

theorem utf8ByteSize_longPath (n : Nat) :
    (longPath n).toString.utf8ByteSize = n * (nameLimit + 1) + nameLimit := by
  induction n with
  | zero =>
    have hfirst : (longPath 0).toString = letters nameLimit := by
      show "" ++ "/".intercalate [letters nameLimit] = letters nameLimit
      rw [String.intercalate_singleton, String.empty_append]
    rw [hfirst, utf8ByteSize_letters, Nat.zero_mul, Nat.zero_add]
  | succ n ih =>
    rw [longPath_succ, utf8ByteSize_child_longPath, ih, utf8ByteSize_letters, Nat.succ_mul]
    omega

theorem hasNull_longPath (n : Nat) : (longPath n).hasNull = false := by
  induction n with
  | zero =>
    have hfirst : longPath 0 = Path.child ⟨.relative, []⟩ (letters nameLimit) := rfl
    rw [hfirst]
    exact Path.hasNull_child (by decide +kernel) (null_not_mem_letters _)
  | succ n ih =>
    rw [longPath_succ]
    exact Path.hasNull_child ih (null_not_mem_letters _)

/-- A root that leaves no room for all of the temporary paths. -/
def longRoot : Path := (longPath 14).child (letters 213)

theorem utf8ByteSize_longRoot : longRoot.toString.utf8ByteSize = 4053 := by
  rw [longRoot, utf8ByteSize_child_longPath, utf8ByteSize_longPath, utf8ByteSize_letters]
  rfl

theorem makeable_longRoot : empty.Makeable longRoot := by
  refine makeable_empty ?_ fun name hname => .inr ?_
  · rw [utf8ByteSize_longRoot]
    decide
  · rw [longRoot, Path.child, longPath, List.mem_append, List.mem_singleton] at hname
    rcases hname with hname | rfl
    · rw [List.eq_of_mem_replicate hname, utf8ByteSize_letters]
    · rw [utf8ByteSize_letters]
      decide

theorem blocked_longRoot : empty.Blocked longRoot ⟨.scalar .double, .derivatives, rfl⟩ := by
  refine .tooLong fun hfits => ?_
  have hpath := hfits.path
  have hparts : longRoot.parts ≠ [] := by simp [longRoot, Path.child]
  rw [Artifact.temporaryPath, Path.toString_child, if_neg hparts, String.utf8ByteSize_append,
    String.utf8ByteSize_append, utf8ByteSize_longRoot] at hpath
  revert hpath
  decide +kernel

theorem generate_withoutWidths_fails [Template.Engine] {root : Path} {a : Artifact}
    (hnull : root.hasNull = false) (hmake : empty.Makeable root) (ha : a ∈ Artifact.matrix [])
    (hblocked : empty.Blocked root a) :
    ∃ p e u, empty.run (generate .withoutWidths root none) = (.error (.notWritten p e), u) := by
  have hformulas :
      Tables.withoutWidths.formulas.validate Tables.withoutWidths.catalog = .ok () := by
    decide +kernel
  have hfails : ∃ failure u,
      empty.run (generate .withoutWidths root none) = (.error failure, u) :=
    exists_failure_of_blocked (.refl _) ha hblocked none
  obtain ⟨failure, u, h⟩ := hfails
  obtain ⟨b, -, -, e, rfl⟩ := exists_blocked_of_generateInOrder (.refl _) List.nodup_nil hformulas
    (by simp) hnull hmake h
  exact ⟨_, e, u, h⟩

/-- In the empty tree no path leads to a directory, and yet a generation can fail: below a root that
leads back to what was made, and below a root that is too long. And not every root that cannot be
made is named by the failure: one with a null character is not. -/
theorem generate_fails_without_directories :
    (Tables.withoutWidths.formulas.validate Tables.withoutWidths.catalog = .ok () ∧
      Tables.withoutWidths.widths.Nodup) ∧
    (∀ root ∈ [dottedRoot, longRoot], empty.Makeable root ∧
      (∀ a ∈ Artifact.matrix Tables.withoutWidths.widths,
        empty.isDirectory (a.path root) = false ∧
          empty.isDirectory (a.temporaryPath root) = false) ∧
      ∃ p e u, empty.run (generate .withoutWidths root none) = (.error (.notWritten p e), u)) ∧
    empty.run (generate .withoutWidths (.ofString "a\x00b") none) =
      (.error .nullInPath, empty) := by
  have hformulas :
      Tables.withoutWidths.formulas.validate Tables.withoutWidths.catalog = .ok () := by
    decide +kernel
  have hfree : ∀ (root : Path) (a : Artifact), empty.isDirectory (a.path root) = false ∧
      empty.isDirectory (a.temporaryPath root) = false := by
    intro root a
    exact ⟨isDirectory_child_empty root a.fileName_ne_above,
      isDirectory_child_empty root (append_temporarySuffix_ne_above _)⟩
  have hdotted : empty.Makeable dottedRoot :=
    makeable_empty (by decide +kernel) (by decide +kernel)
  refine ⟨⟨hformulas, List.nodup_nil⟩, ?_, generateInOrder_of_hasNull (by decide +kernel) none⟩
  rw [List.forall_mem_cons, List.forall_mem_singleton]
  refine ⟨⟨hdotted, fun a _ => hfree _ a, ?_⟩, ⟨makeable_longRoot, fun a _ => hfree _ a, ?_⟩⟩
  · have hblocked : empty.Blocked dottedRoot ⟨.generic, .implementations, rfl⟩ :=
      .occupied (.inr (by decide +kernel))
    exact generate_withoutWidths_fails (by decide +kernel) hdotted List.mem_cons_self hblocked
  · exact generate_withoutWidths_fails (Path.hasNull_child (hasNull_longPath 14)
      (null_not_mem_letters 213)) makeable_longRoot (by decide) blocked_longRoot

end FileTree

end Lanewise
