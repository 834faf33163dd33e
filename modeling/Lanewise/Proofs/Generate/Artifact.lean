import Lanewise.Proofs.Generate.WriteFile
import Mathlib.Data.List.Nodup

/-!
# The names and texts of artifacts

The name of an artifact ends in a letter with which no temporary name ends, so that no artifact has
the temporary name of another. Rendering artifacts gives the same texts in whatever order it is
done.
-/

namespace Lanewise

namespace Artifact

theorem render_eq_ok_iff [Template.Engine] {tables : Tables} {root : Path} {a : Artifact}
    {r : Rendered} :
    a.render tables root = .ok r ↔
      r.artifact = a ∧ r.path = a.path root ∧ a.text tables = .ok r.text := by
  unfold render
  cases ht : a.text tables with
  | error failure => simp [bind, Except.bind]
  | ok text =>
    obtain ⟨artifact, path, text'⟩ := r
    simp [bind, Except.bind, pure, Except.pure, eq_comm]

theorem getLast?_fileName (a : Artifact) : a.fileName.toList.getLast? = some 't' := by
  rw [fileName, String.toList_append]
  simp

theorem fileName_ne_above (a : Artifact) : a.fileName ≠ FileTree.above := by
  intro h
  have hl := a.getLast?_fileName
  rw [h] at hl
  revert hl
  decide

theorem fileName_ne_temporary (a b : Artifact) : a.fileName ≠ b.fileName ++ temporarySuffix := by
  intro h
  have hl := a.getLast?_fileName
  rw [h, String.toList_append, List.getLast?_append] at hl
  revert hl
  simp [temporarySuffix]

/-- Paths below a root are told apart by their names. -/
theorem nodup_paths_iff_nodup_fileNames {widths : List Int} {root : Path} :
    (paths widths root).Nodup ↔ ((matrix widths).map fileName).Nodup := by
  have hp : paths widths root = ((matrix widths).map fileName).map root.child := by
    simp [paths, path, Function.comp_def]
  rw [hp, List.nodup_map_iff fun a b h => (root.child_inj).1 h]

theorem declaredOutputs_eq_ok_iff {widths : List Int} {root : Path} {declared : List Path} :
    declaredOutputs widths root = .ok declared ↔
      ((matrix widths).map fileName).Nodup ∧ declared = paths widths root := by
  rw [declaredOutputs, ← @nodup_paths_iff_nodup_fileNames widths root]
  by_cases hn : (paths widths root).Nodup
  · rw [if_pos hn]
    simp [hn, eq_comm]
  · rw [if_neg hn]
    simp [hn]

/-- The path of the temporary file. -/
def temporaryPath (root : Path) (a : Artifact) : Path :=
  root.child (a.fileName ++ temporarySuffix)

theorem location_path (root : Path) (a : Artifact) :
    (a.path root).location = root.location ++ [a.fileName] :=
  root.location_child a.fileName_ne_above

theorem location_temporaryPath (root : Path) (a : Artifact) :
    (a.temporaryPath root).location = root.location ++ [a.fileName ++ temporarySuffix] :=
  root.location_child (append_temporarySuffix_ne_above _)

/-- Some artifacts with their paths and texts. -/
structure Renders [Template.Engine] (tables : Tables) (root : Path) (order : List Artifact)
    (written : List Rendered) : Prop where
  artifacts : written.map (·.artifact) = order
  rendered : ∀ r ∈ written, r.artifact.render tables root = .ok r

namespace Renders

variable [Template.Engine]
variable {tables : Tables} {root : Path} {order : List Artifact} {written : List Rendered}

theorem paths (h : Renders tables root order written) :
    written.map (·.path) = order.map (path root) := by
  rw [← h.artifacts, List.map_map]
  exact List.map_congr_left fun r hr => (render_eq_ok_iff.1 (h.rendered r hr)).2.1

theorem nodup_fileName (h : Renders tables root order written)
    (hnodup : (order.map fileName).Nodup) : (written.map (·.artifact.fileName)).Nodup := by
  rw [← h.artifacts, List.map_map] at hnodup
  exact hnodup

/-- Artifacts are rendered in one way. -/
theorem unique (h : Renders tables root order written) {written' : List Rendered}
    (h' : Renders tables root order written') : written = written' := by
  have hrender : ∀ {ws : List Rendered}, Renders tables root order ws →
      ws.map Except.ok = order.map (render tables root) := by
    rintro ws ⟨rfl, hws⟩
    rw [List.map_map]
    exact List.map_congr_left fun r hr => (hws r hr).symm
  have hinj : Function.Injective (Except.ok : Rendered → Except Failure Rendered) := by
    intro r r' hr
    exact Except.ok.inj hr
  exact List.map_injective_iff.2 hinj ((hrender h).trans (hrender h').symm)

/-- What was rendered, in another order. -/
theorem reorder (h : Renders tables root order written) {order' : List Artifact}
    (hsub : ∀ a ∈ order', a ∈ order) :
    Renders tables root order' (order'.filterMap fun a => written.find? (·.artifact = a)) ∧
      ∀ r ∈ order'.filterMap fun a => written.find? (·.artifact = a), r ∈ written := by
  have hmem : ∀ r ∈ order'.filterMap fun a => written.find? (·.artifact = a), r ∈ written := by
    intro r hr
    obtain ⟨a, -, hf⟩ := List.mem_filterMap.1 hr
    exact List.mem_of_find?_eq_some hf
  refine ⟨⟨?_, fun r hr => h.rendered r (hmem r hr)⟩, hmem⟩
  clear hmem
  induction order' with
  | nil => rfl
  | cons a rest ih =>
    rw [List.forall_mem_cons, ← h.artifacts, List.mem_map] at hsub
    obtain ⟨⟨r, hr, hra⟩, hrest⟩ := hsub
    cases hf : written.find? (·.artifact = a) with
    | none =>
      rw [List.find?_eq_none] at hf
      exact absurd (decide_eq_true hra) (hf r hr)
    | some r' =>
      have hr' := List.find?_some hf
      rw [List.filterMap_cons, hf]
      simp only [List.map_cons, of_decide_eq_true hr', ih (h.artifacts ▸ hrest)]

end Renders

end Artifact

end Lanewise
