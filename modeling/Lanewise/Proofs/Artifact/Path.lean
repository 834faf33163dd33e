import Lanewise.Proofs.Artifact.FileName
import Lanewise.Proofs.Generate.Artifact

/-!
# The paths of artifacts

The name of a file is one name for a path, and so is that of the temporary file beside it. So below
a root, which may be any text, each artifact has a path that is read back from its text, and no
other artifact has that path. Paths collide only when a width is listed twice. A temporary path is
never that of an artifact.
-/

namespace Lanewise

namespace Artifact

theorem isPart_fileName (a : Artifact) : Path.IsPart a.fileName :=
  .of_getLast? a.getLast?_fileName (by decide) (a.not_mem_fileName rfl)

theorem isPart_temporaryName (a : Artifact) : Path.IsPart (a.fileName ++ temporarySuffix) := by
  have hlast : (a.fileName ++ temporarySuffix).toList.getLast? = some 'p' := by
    rw [String.toList_append, List.getLast?_append]
    rfl
  exact .of_getLast? hlast (by decide) (not_mem_append (a.not_mem_fileName rfl) (by decide))

theorem isNormal_path (text : String) (a : Artifact) :
    (a.path (Path.ofString text)).IsNormal :=
  (Path.isNormal_ofString text).child a.isPart_fileName

theorem path_inj (root : Path) {a b : Artifact} : a.path root = b.path root ↔ a = b := by
  rw [path, path, Path.child_inj]
  exact fileName_injective.eq_iff

theorem declaredOutputs_eq (widths : List Int) (root : Path) :
    declaredOutputs widths root =
      if widths.Nodup then .ok (paths widths root) else .error .pathsCollide :=
  if_congr (nodup_paths_iff_nodup_fileNames.trans nodup_fileNames_iff) rfl rfl

/-- What is added to the text of a path makes the text of the temporary path. -/
theorem ofString_path_append (text : String) (a : Artifact) :
    Path.ofString ((a.path (Path.ofString text)).toString ++ temporarySuffix) =
      a.temporaryPath (Path.ofString text) := by
  have hnormal : (a.temporaryPath (Path.ofString text)).IsNormal :=
    (Path.isNormal_ofString text).child a.isPart_temporaryName
  rw [path, ← Path.toString_child_append]
  exact hnormal.ofString_toString

theorem path_ne_temporaryPath (root : Path) (a b : Artifact) :
    a.path root ≠ b.temporaryPath root := by
  rw [path, temporaryPath, ne_eq, Path.child_inj]
  exact fileName_ne_temporary a b

/-- Below a root that is given as text, the paths of the matrix collide exactly when a width is
listed twice. The path of an artifact is what the text of the root with the name of the file
denotes, and it is the path of no other artifact. With the suffix of temporary files it is the path
of no artifact. -/
theorem paths_collide_iff (widths : List Int) (text : String) :
    ((declaredOutputs widths (Path.ofString text)).mapError Failure.message =
        .error "artifact paths collide" ↔ ¬ widths.Nodup) ∧
    (declaredOutputs widths (Path.ofString text) = .ok (paths widths (Path.ofString text)) ↔
      widths.Nodup) ∧
    (∀ a : Artifact,
      a.path (Path.ofString text) = Path.ofString (Path.joined text a.fileName) ∧
      Path.ofString (a.path (Path.ofString text)).toString = a.path (Path.ofString text)) ∧
    (∀ a b : Artifact, a.path (Path.ofString text) = b.path (Path.ofString text) ↔ a = b) ∧
    ∀ a b : Artifact, a.path (Path.ofString text) ≠
      Path.ofString ((b.path (Path.ofString text)).toString ++ temporarySuffix) := by
  refine ⟨?_, ?_, fun a => ⟨?_, ?_⟩, fun a b => path_inj _, fun a b => ?_⟩
  · rw [declaredOutputs_eq]
    by_cases hwidths : widths.Nodup
    · rw [if_pos hwidths]
      exact iff_of_false nofun (not_not_intro hwidths)
    · rw [if_neg hwidths]
      exact iff_of_true rfl hwidths
  · rw [declaredOutputs_eq]
    by_cases hwidths : widths.Nodup
    · rw [if_pos hwidths]
      exact iff_of_true rfl hwidths
    · rw [if_neg hwidths]
      exact iff_of_false nofun hwidths
  · exact (Path.ofString_joined text a.isPart_fileName).symm
  · exact (isNormal_path text a).ofString_toString
  · rw [ofString_path_append]
    exact path_ne_temporaryPath _ a b

end Artifact

end Lanewise
