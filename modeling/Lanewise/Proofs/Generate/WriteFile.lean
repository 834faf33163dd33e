import Lanewise.Generate
import Lanewise.Proofs.FileTree.Operation
import Lanewise.Proofs.Path

/-!
# Writing one file

A file is written under a temporary name and renamed. That succeeds if the path below which both
names stand can be walked and neither name is that of a directory, and then the tree changes at the
two names only.
-/

namespace Lanewise

theorem append_temporarySuffix_ne_above (name : String) :
    name ++ temporarySuffix ≠ FileTree.above := by
  intro h
  have hl := congrArg String.length h
  rw [String.length_append] at hl
  have hs : temporarySuffix.length = 4 := by decide
  have ha : FileTree.above.length = 2 := by decide
  omega

theorem ne_append_temporarySuffix (name : String) : name ≠ name ++ temporarySuffix := by
  intro h
  have hl := congrArg String.length h
  rw [String.length_append] at hl
  have hs : temporarySuffix.length = 4 := by decide
  omega

namespace FileTree

/-- The result of an action on files and the tree after it. -/
def run {α : Type} (t : FileTree) (action : StateM FileTree α) : α × FileTree :=
  action t

theorem run_pure {α : Type} (t : FileTree) (a : α) : t.run (pure a) = (a, t) := rfl

theorem run_bind {α β : Type} (t : FileTree) (x : StateM FileTree α) (f : α → StateM FileTree β) :
    t.run (x >>= f) = (t.run x).2.run (f (t.run x).1) := rfl

theorem run_map {α β : Type} (t : FileTree) (f : α → β) (x : StateM FileTree α) :
    t.run (f <$> x) = (f (t.run x).1, (t.run x).2) := rfl

theorem run_makeDirectories (t : FileTree) (p : Path) :
    t.run (FileStore.makeDirectories p) = t.makeDirectories p := rfl

theorem run_writeText (t : FileTree) (p : Path) (text : String) :
    t.run (FileStore.writeText p text) = t.outcome (t.write p text.toUTF8) := rfl

theorem run_rename (t : FileTree) (source destination : Path) :
    t.run (FileStore.rename source destination) =
      t.outcome (t.rename source destination) := rfl

section

variable {t u : FileTree}

theorem outcome_eq_ok_iff {r : Except FileError FileTree} :
    t.outcome r = (.ok (), u) ↔ r = .ok u := by
  cases r <;> simp [outcome]

theorem replaceFile_eq_ok_iff {temporary p : Path} {text : String} :
    t.run (replaceFile temporary p text) = (.ok (), u) ↔
      ∃ between, t.write temporary text.toUTF8 = .ok between ∧
        between.rename temporary p = .ok u := by
  rw [replaceFile, run_bind, run_writeText]
  cases hw : t.write temporary text.toUTF8 with
  | error e => simp [outcome, run_pure]
  | ok between =>
    rw [outcome, run_rename, outcome_eq_ok_iff]
    simp

theorem writeFile_eq_ok_iff {p : Path} {text : String} :
    t.run (writeFile p text) = (.ok (), u) ↔
      ∃ name, p.name? = some name ∧ p.hasNull = false ∧
        t.run (replaceFile (p.withName (name ++ temporarySuffix)) p text) = (.ok (), u) := by
  unfold writeFile
  cases hn : p.name? with
  | none => simp [run_pure]
  | some name =>
    by_cases hnull : p.hasNull = true
    · simp [hnull, run_pure]
    · rw [Bool.not_eq_true] at hnull
      simp only [hnull, Bool.false_eq_true, if_false]
      rw [run_bind]
      cases hr : t.run (replaceFile (p.withName (name ++ temporarySuffix)) p text) with
      | mk result between =>
        cases result with
        | error e => simp [run_bind, run_map, hr]
        | ok _ => simp [run_pure, hr]

end

/-- The places of a file and of its temporary one below a path are there to be written. -/
structure Writable (t : FileTree) (root : Path) (name : String) : Prop where
  /-- The temporary name can be walked to, and so can the shorter one. -/
  admits : t.Admits root (name ++ temporarySuffix)
  /-- No directory has the name. -/
  free : t.find? (root.location ++ [name]) ≠ some .directory
  /-- No directory has the temporary name. -/
  temporaryFree : t.find? (root.location ++ [name ++ temporarySuffix]) ≠ some .directory

/-- The tree with a text under a name and nothing under the temporary name. -/
def replaced (t : FileTree) (root : Path) (name text : String) : FileTree :=
  ((t.insert (root.location ++ [name ++ temporarySuffix]) (.file text.toUTF8)).erase
    (root.location ++ [name ++ temporarySuffix])).insert (root.location ++ [name])
    (.file text.toUTF8)

theorem find?_replaced (t : FileTree) (root : Path) (name text : String) (l : Location) :
    (t.replaced root name text).find? l =
      if l = root.location ++ [name] then some (.file text.toUTF8)
      else if l = root.location ++ [name ++ temporarySuffix] then none
      else t.find? l := by
  rw [replaced, find?_insert _ (by simp), find?_erase _ (by simp), find?_insert _ (by simp)]
  by_cases hl : l = root.location ++ [name ++ temporarySuffix]
  · simp only [hl, if_true]
  · simp only [hl, if_false]

section

variable {t u : FileTree} {root : Path} {name : String}

/-- A name is shorter than its temporary one. -/
theorem Admits.of_temporary (h : t.Admits root (name ++ temporarySuffix)) :
    t.Admits root name := by
  have hfits := h.fits
  have hshort := h.short
  rw [Path.toString_child_append] at hshort
  rw [String.utf8ByteSize_append] at hfits hshort
  exact ⟨h.leads, by omega, by omega⟩

/-- Writing a file succeeds if its places are there to be written, and replaces it. -/
theorem writeFile_child_eq_ok_iff (hnamed : name ≠ above) {text : String} :
    t.run (writeFile (root.child name) text) = (.ok (), u) ↔
      (root.child name).hasNull = false ∧ t.Writable root name ∧
        u = t.replaced root name text := by
  have htemporary := append_temporarySuffix_ne_above name
  simp only [writeFile_eq_ok_iff, Path.name?_child, Option.some.injEq, exists_eq_left',
    Path.child_withName, replaceFile_eq_ok_iff, write_child_eq_ok_iff htemporary,
    rename_child_eq_ok_iff htemporary hnamed]
  have hne : root.location ++ [name] ≠ root.location ++ [name ++ temporarySuffix] := by
    simp [ne_append_temporarySuffix]
  constructor
  · rintro ⟨hnull, between, ⟨hadmits, htfree, rfl⟩, -, -, hfree, content, hcontent, rfl⟩
    rw [find?_insert _ (by simp), if_neg hne] at hfree
    rw [find?_insert _ (by simp), if_pos rfl] at hcontent
    cases hcontent
    exact ⟨hnull, ⟨hadmits, hfree, htfree⟩, rfl⟩
  · rintro ⟨hnull, ⟨hadmits, hfree, htfree⟩, rfl⟩
    refine ⟨hnull, _, ⟨hadmits, htfree, rfl⟩, ?_⟩
    have hsame := SameDirectories.insert_file (by simp) htfree text.toUTF8
    refine ⟨(hsame.admits_iff _ _).1 hadmits, (hsame.admits_iff _ _).1 hadmits.of_temporary,
      ?_, text.toUTF8, ?_, rfl⟩
    · rwa [find?_insert _ (by simp), if_neg hne]
    · rw [find?_insert _ (by simp), if_pos rfl]

theorem Writable.sameDirectories_replaced (h : t.Writable root name) (text : String) :
    t.SameDirectories (t.replaced root name text) := by
  intro l
  have hfree := h.free
  have htfree := h.temporaryFree
  rw [find?_replaced]
  by_cases hl : l = root.location ++ [name]
  · simp [hl, hfree]
  · by_cases hl' : l = root.location ++ [name ++ temporarySuffix]
    · simp [hl', htfree]
    · rw [if_neg hl, if_neg hl']

theorem SameDirectories.writable_iff (h : t.SameDirectories u) :
    t.Writable root name ↔ u.Writable root name := by
  constructor
  · rintro ⟨hadmits, hfree, htfree⟩
    exact ⟨(h.admits_iff _ _).1 hadmits, mt (h _).2 hfree, mt (h _).2 htfree⟩
  · rintro ⟨hadmits, hfree, htfree⟩
    exact ⟨(h.admits_iff _ _).2 hadmits, mt (h _).1 hfree, mt (h _).1 htfree⟩

end

end FileTree

end Lanewise
