import Lanewise.Proofs.Generate.Artifact
import Lanewise.Template.Standard

/-!
# The effect of a generation

Each artifact has a name and a temporary name of its own, and none has the temporary name of
another. So it does not matter in which order the files are written: a generation that succeeds
leaves the text of every artifact under its name, nothing under the temporary names, and all else as
it was except that the directories on the way to the root are there. A second generation finds
everything in place and changes nothing.
-/

namespace Lanewise

namespace FileTree

/-- The tree after some artifacts were written one after another. -/
def replacedAll (t : FileTree) (root : Path) (written : List Artifact.Rendered) : FileTree :=
  written.foldl (fun t r => t.replaced root r.artifact.fileName r.text) t

section

variable {root : Path} {t : FileTree}

/-- Where no artifact is written, writing artifacts changes nothing. -/
theorem find?_replacedAll_of_ne {written : List Artifact.Rendered} {l : Location}
    (hne : ∀ r ∈ written, l ≠ root.location ++ [r.artifact.fileName] ∧
      l ≠ root.location ++ [r.artifact.fileName ++ temporarySuffix]) :
    (t.replacedAll root written).find? l = t.find? l := by
  induction written generalizing t with
  | nil => rfl
  | cons r rest ih =>
    rw [List.forall_mem_cons] at hne
    rw [replacedAll, List.foldl_cons, ← replacedAll, ih hne.2, find?_replaced, if_neg hne.1.1,
      if_neg hne.1.2]

/-- Writing artifacts with different names leaves each under its name. -/
theorem find?_replacedAll (t : FileTree) (root : Path) {written : List Artifact.Rendered}
    (hnodup : (written.map (·.artifact.fileName)).Nodup) :
    ∀ r ∈ written,
      (t.replacedAll root written).find? (root.location ++ [r.artifact.fileName]) =
          some (.file r.text.toUTF8) ∧
      (t.replacedAll root written).find?
        (root.location ++ [r.artifact.fileName ++ temporarySuffix]) = none := by
  induction written generalizing t with
  | nil => simp
  | cons r rest ih =>
    rw [List.map_cons, List.nodup_cons] at hnodup
    rw [List.forall_mem_cons, replacedAll, List.foldl_cons, ← replacedAll]
    have hname : ∀ r' ∈ rest, r.artifact.fileName ≠ r'.artifact.fileName := by
      intro r' hr' h
      exact hnodup.1 (h ▸ List.mem_map_of_mem hr')
    refine ⟨⟨?_, ?_⟩, ih _ hnodup.2⟩
    · rw [find?_replacedAll_of_ne, find?_replaced, if_pos rfl]
      intro r' hr'
      simp only [ne_eq, List.append_cancel_left_eq, List.cons.injEq, and_true]
      exact ⟨hname r' hr', Artifact.fileName_ne_temporary _ _⟩
    · rw [find?_replacedAll_of_ne, find?_replaced, if_neg, if_pos rfl]
      · simp only [List.append_cancel_left_eq, List.cons.injEq, and_true]
        exact (ne_append_temporarySuffix _).symm
      · intro r' hr'
        simp only [ne_eq, List.append_cancel_left_eq, List.cons.injEq, and_true,
          String.append_left_inj]
        exact ⟨(Artifact.fileName_ne_temporary _ _).symm, hname r' hr'⟩

/-- Writing some of the artifacts again changes nothing. -/
theorem find?_replacedAll_again {written again : List Artifact.Rendered}
    (hnodup : (written.map (·.artifact.fileName)).Nodup) (hsub : ∀ r ∈ again, r ∈ written)
    (hagain : (again.map (·.artifact.fileName)).Nodup) (l : Location) :
    ((t.replacedAll root written).replacedAll root again).find? l =
      (t.replacedAll root written).find? l := by
  by_cases hl : ∃ r ∈ again, l = root.location ++ [r.artifact.fileName] ∨
      l = root.location ++ [r.artifact.fileName ++ temporarySuffix]
  · obtain ⟨r, hr, hl⟩ := hl
    obtain ⟨hfile, hnone⟩ := find?_replacedAll t root hnodup r (hsub r hr)
    obtain ⟨hfile', hnone'⟩ := find?_replacedAll (t.replacedAll root written) root hagain r hr
    rcases hl with rfl | rfl
    · rw [hfile, hfile']
    · rw [hnone, hnone']
  · refine find?_replacedAll_of_ne fun r hr => ?_
    exact ⟨fun h => hl ⟨r, hr, .inl h⟩, fun h => hl ⟨r, hr, .inr h⟩⟩

/-- Writing artifacts leaves the directories as they are. -/
theorem sameDirectories_replacedAll {written : List Artifact.Rendered}
    (hwritable : ∀ r ∈ written, t.Writable root r.artifact.fileName) :
    t.SameDirectories (t.replacedAll root written) := by
  induction written generalizing t with
  | nil => exact .refl t
  | cons r rest ih =>
    rw [List.forall_mem_cons] at hwritable
    have hsame := hwritable.1.sameDirectories_replaced r.text
    refine hsame.trans (ih fun r' hr' => ?_)
    exact hsame.writable_iff.1 (hwritable.2 r' hr')

end

section

variable [Template.Engine]
variable {tables : Tables} {root : Path} {t u : FileTree}

theorem writeArtifacts_cons_eq_ok_iff {a : Artifact} {rest : List Artifact}
    {written : List Artifact.Rendered} :
    t.run (writeArtifacts tables root (a :: rest)) = (.ok written, u) ↔
      ∃ r between others, a.render tables root = .ok r ∧
        t.run (writeFile r.path r.text) = (.ok (), between) ∧
        between.run (writeArtifacts tables root rest) = (.ok others, u) ∧
        written = r :: others := by
  rw [writeArtifacts]
  cases hr : a.render tables root with
  | error failure => simp [run_pure]
  | ok r =>
    rw [run_bind]
    cases hw : t.run (writeFile r.path r.text) with
    | mk result between =>
      cases result with
      | error failure => simp [run_pure, hw]
      | ok _ =>
        rw [run_bind]
        cases ho : between.run (writeArtifacts tables root rest) with
        | mk result after =>
          cases result with
          | error failure => simp [run_pure, hw, ho]
          | ok others =>
            simp only [run_pure, Prod.mk.injEq, Except.ok.injEq]
            constructor
            · rintro ⟨rfl, rfl⟩
              exact ⟨r, between, others, rfl, hw, ho, rfl⟩
            · rintro ⟨r', between', others', rfl, hw', ho', rfl⟩
              obtain rfl : between = between' := by simpa [hw] using hw'
              simpa [ho] using ho'

/-- Writing artifacts succeeds if each can be rendered and the places of all are there. -/
theorem writeArtifacts_eq_ok_iff {order : List Artifact} {written : List Artifact.Rendered} :
    t.run (writeArtifacts tables root order) = (.ok written, u) ↔
      Artifact.Renders tables root order written ∧
      (∀ a ∈ order, (a.path root).hasNull = false ∧ t.Writable root a.fileName) ∧
      u = t.replacedAll root written := by
  induction order generalizing t written with
  | nil =>
    rw [writeArtifacts, run_pure]
    constructor
    · rintro ⟨⟩
      exact ⟨⟨rfl, by simp⟩, by simp, rfl⟩
    · rintro ⟨⟨hmap, -⟩, -, rfl⟩
      rw [List.map_eq_nil_iff] at hmap
      rw [hmap]
      rfl
  | cons a rest ih =>
    rw [writeArtifacts_cons_eq_ok_iff]
    constructor
    · rintro ⟨r, between, others, hr, hw, ho, rfl⟩
      obtain ⟨rfl, hpath, -⟩ := Artifact.render_eq_ok_iff.1 hr
      rw [hpath, Artifact.path, writeFile_child_eq_ok_iff r.artifact.fileName_ne_above] at hw
      obtain ⟨hnull, hwritable, rfl⟩ := hw
      obtain ⟨⟨hmap, hall⟩, hrest, rfl⟩ := ih.1 ho
      refine ⟨⟨by rw [List.map_cons, hmap], List.forall_mem_cons.2 ⟨hr, hall⟩⟩, ?_, rfl⟩
      rw [List.forall_mem_cons]
      refine ⟨⟨hnull, hwritable⟩, fun b hb => ⟨(hrest b hb).1, ?_⟩⟩
      exact (hwritable.sameDirectories_replaced r.text).writable_iff.2 (hrest b hb).2
    · rintro ⟨⟨hmap, hall⟩, hplaces, rfl⟩
      obtain ⟨r, others, rfl, rfl, hothers⟩ := List.map_eq_cons_iff.1 hmap
      rw [List.forall_mem_cons] at hall hplaces
      obtain ⟨⟨hnull, hwritable⟩, hrest⟩ := hplaces
      have hsame := hwritable.sameDirectories_replaced r.text
      refine ⟨r, t.replaced root r.artifact.fileName r.text, others, hall.1, ?_, ?_, rfl⟩
      · rw [(Artifact.render_eq_ok_iff.1 hall.1).2.1, Artifact.path,
          writeFile_child_eq_ok_iff r.artifact.fileName_ne_above]
        exact ⟨hnull, hwritable, rfl⟩
      · rw [ih]
        exact ⟨⟨hothers, hall.2⟩,
          fun b hb => ⟨(hrest b hb).1, hsame.writable_iff.1 (hrest b hb).2⟩, rfl⟩

theorem generateInOrder_eq_ok_iff {order : List Artifact} {workers : Option Int}
    {rs : List Artifact.Rendered} :
    t.run (generateInOrder order tables root workers) = (.ok rs, u) ↔
      root.hasNull = false ∧ workers.any (· ≤ 0) = false ∧
      ((Artifact.matrix tables.widths).map Artifact.fileName).Nodup ∧
      ∃ between written, t.makeDirectories root = (.ok (), between) ∧
        between.run (writeArtifacts tables root order) = (.ok written, u) ∧
        rs = inMatrixOrder tables.widths written := by
  unfold generateInOrder
  by_cases hnull : root.hasNull = true
  · simp [hnull, run_pure]
  rw [if_neg hnull, run_bind, run_makeDirectories]
  rw [Bool.not_eq_true] at hnull
  cases hm : t.makeDirectories root with
  | mk result between =>
    cases result with
    | error e => simp [run_pure]
    | ok _ =>
      cases hd : Artifact.declaredOutputs tables.widths root with
      | error failure =>
        have hno : ¬ ((Artifact.matrix tables.widths).map Artifact.fileName).Nodup := by
          intro hn
          rw [Artifact.declaredOutputs_eq_ok_iff.2 ⟨hn, rfl⟩] at hd
          cases hd
        simp [run_pure, hno]
      | ok declared =>
        have hn := (Artifact.declaredOutputs_eq_ok_iff.1 hd).1
        by_cases hw : workers.any (· ≤ 0) = true
        · simp [run_pure, hw]
        · rw [if_neg hw, run_bind]
          rw [Bool.not_eq_true] at hw
          cases ho : between.run (writeArtifacts tables root order) with
          | mk result after =>
            cases result with
            | error failure => simp [run_pure, hw, hn, ho]
            | ok written =>
              simp only [run_pure, hw, hn, hnull, true_and, Prod.mk.injEq, Except.ok.injEq]
              constructor
              · rintro ⟨rfl, rfl⟩
                exact ⟨between, written, rfl, ho, rfl⟩
              · rintro ⟨between', written', ⟨-, rfl⟩, ho', rfl⟩
                obtain ⟨rfl, rfl⟩ : written = written' ∧ after = u := by simpa [ho] using ho'
                exact ⟨rfl, rfl⟩

/-- What a generation leaves behind. -/
structure Generated (tables : Tables) (root : Path) (rs : List Artifact.Rendered)
    (t u : FileTree) : Prop where
  /-- The artifacts are those of the matrix in its order. -/
  artifacts : rs.map (·.artifact) = Artifact.matrix tables.widths
  /-- Their paths are the declared ones. -/
  declared : Artifact.declaredOutputs tables.widths root = .ok (rs.map (·.path))
  /-- At each path there is a file with the text of the artifact. -/
  files : ∀ r ∈ rs, r.artifact.text tables = .ok r.text ∧
    u.node r.path = .ok (.file r.text.toUTF8)
  /-- There are no temporary files. -/
  temporaries : ∀ r ∈ rs, u.node (r.artifact.temporaryPath root) = .error .noSuchEntry
  /-- The directories on the way to the root were made where nothing was. -/
  directories : ∀ l ∈ walk [] root.parts,
    (t.find? l = none ∨ t.find? l = some .directory) ∧ u.find? l = some .directory
  /-- All else is as it was. -/
  unchanged : ∀ l, l ∉ walk [] root.parts →
    (∀ r ∈ rs, l ≠ r.path.location ∧ l ≠ (r.artifact.temporaryPath root).location) →
    u.find? l = t.find? l

/-- Artifacts of the matrix that were written in any order. -/
theorem inMatrixOrder_renders {order : List Artifact} {written : List Artifact.Rendered}
    (horder : order.Perm (Artifact.matrix tables.widths))
    (hrenders : Artifact.Renders tables root order written) :
    Artifact.Renders tables root (Artifact.matrix tables.widths)
        (inMatrixOrder tables.widths written) ∧
      ∀ r, r ∈ inMatrixOrder tables.widths written ↔ r ∈ written := by
  obtain ⟨hmatrix, hmem⟩ := hrenders.reorder fun a ha => horder.mem_iff.2 ha
  refine ⟨hmatrix, fun r => ⟨hmem r, fun hr => ?_⟩⟩
  have ha : r.artifact ∈ (inMatrixOrder tables.widths written).map (·.artifact) := by
    rw [inMatrixOrder, hmatrix.artifacts, ← horder.mem_iff, ← hrenders.artifacts]
    exact List.mem_map_of_mem hr
  obtain ⟨r', hr', hra⟩ := List.mem_map.1 ha
  have heq : r'.artifact.render tables root = .ok r := hra ▸ hrenders.rendered r hr
  rw [hmatrix.rendered r' hr', Except.ok.injEq] at heq
  exact heq ▸ hr'

theorem Generated.of_replacedAll {order : List Artifact} {written : List Artifact.Rendered}
    {between : FileTree} (horder : order.Perm (Artifact.matrix tables.widths))
    (hnodup : ((Artifact.matrix tables.widths).map Artifact.fileName).Nodup)
    (hmade : t.MadeAlong between root.parts)
    (hrenders : Artifact.Renders tables root order written)
    (hwritable : ∀ a ∈ order, between.Writable root a.fileName) :
    Generated tables root (inMatrixOrder tables.widths written) t
      (between.replacedAll root written) := by
  obtain ⟨hmatrix, hmem⟩ := inMatrixOrder_renders horder hrenders
  have hwritable' : ∀ r ∈ written, between.Writable root r.artifact.fileName := by
    intro r hr
    refine hwritable _ ?_
    rw [← hrenders.artifacts]
    exact List.mem_map_of_mem hr
  have hnames := hrenders.nodup_fileName (((horder.map _).nodup_iff).2 hnodup)
  have hsame := sameDirectories_replacedAll hwritable'
  have hfind := find?_replacedAll between root hnames
  have hadmits : ∀ r ∈ written,
      (between.replacedAll root written).Admits root (r.artifact.fileName ++ temporarySuffix) :=
    fun r hr => (hsame.admits_iff _ _).1 (hwritable' r hr).admits
  refine ⟨hmatrix.artifacts, ?_, ?_, ?_, ?_, ?_⟩
  · rw [Artifact.declaredOutputs_eq_ok_iff]
    exact ⟨hnodup, hmatrix.paths⟩
  · intro r hr
    obtain ⟨-, hpath, htext⟩ := Artifact.render_eq_ok_iff.1 (hmatrix.rendered r hr)
    refine ⟨htext, ?_⟩
    have hplace := (place_child_eq_ok_iff r.artifact.fileName_ne_above).2
      ⟨(hadmits r ((hmem r).1 hr)).of_temporary, rfl⟩
    rw [hpath, Artifact.path, node_of_place hplace, ← Artifact.path, Artifact.location_path,
      (hfind r ((hmem r).1 hr)).1]
    rfl
  · intro r hr
    have hplace := (place_child_eq_ok_iff (append_temporarySuffix_ne_above _)).2
      ⟨hadmits r ((hmem r).1 hr), rfl⟩
    rw [Artifact.temporaryPath, node_of_place hplace, ← Artifact.temporaryPath,
      Artifact.location_temporaryPath, (hfind r ((hmem r).1 hr)).2]
    rfl
  · intro l hl
    exact ⟨hmade.free l hl, (hsame l).1 (hmade.leads.passed l hl)⟩
  · intro l hl hne
    rw [find?_replacedAll_of_ne, hmade.find?_eq, if_neg hl]
    intro r hr
    obtain ⟨hp, ht⟩ := hne r ((hmem r).2 hr)
    rw [(Artifact.render_eq_ok_iff.1 (hrenders.rendered r hr)).2.1, Artifact.location_path] at hp
    rw [Artifact.location_temporaryPath] at ht
    exact ⟨hp, ht⟩

/-- A generation that succeeds has the declared effect, whatever the order in which the files are
written, and another one with the same tables succeeds and changes nothing. -/
theorem generateInOrder_effect {order : List Artifact} {workers : Option Int}
    {rs : List Artifact.Rendered} (horder : order.Perm (Artifact.matrix tables.widths))
    (h : t.run (generateInOrder order tables root workers) = (.ok rs, u)) :
    Generated tables root rs t u ∧
      ∀ order' : List Artifact, order'.Perm (Artifact.matrix tables.widths) →
        ∃ v, u.run (generateInOrder order' tables root workers) = (.ok rs, v) ∧
          ∀ l, v.find? l = u.find? l := by
  obtain ⟨hnull, hworkers, hnodup, between, written, hm, hw, rfl⟩ := generateInOrder_eq_ok_iff.1 h
  obtain ⟨hmade, hshort⟩ := MadeAlong.of_makeDirectories hm
  obtain ⟨hrenders, hplaces, rfl⟩ := writeArtifacts_eq_ok_iff.1 hw
  have hwritable : ∀ r ∈ written, between.Writable root r.artifact.fileName := by
    intro r hr
    refine (hplaces _ ?_).2
    rw [← hrenders.artifacts]
    exact List.mem_map_of_mem hr
  refine ⟨.of_replacedAll horder hnodup hmade hrenders fun a ha => (hplaces a ha).2, ?_⟩
  intro order' horder'
  -- What the second run renders is what the first one rendered, in another order.
  have hmem : ∀ a, a ∈ order' ↔ a ∈ order := fun a => horder'.mem_iff.trans horder.mem_iff.symm
  obtain ⟨hagain, hsub⟩ := hrenders.reorder fun a ha => (hmem a).1 ha
  generalize order'.filterMap (fun a => written.find? (·.artifact = a)) = again at hagain hsub
  have hsame := sameDirectories_replacedAll hwritable
  refine ⟨(between.replacedAll root written).replacedAll root again, ?_, ?_⟩
  · rw [generateInOrder_eq_ok_iff]
    refine ⟨hnull, hworkers, hnodup, _, again,
      makeDirectories_of_leads hshort ((hsame.leads_iff _).1 hmade.leads), ?_, ?_⟩
    · rw [writeArtifacts_eq_ok_iff]
      refine ⟨hagain, fun a ha => ?_, rfl⟩
      obtain ⟨hnull', hwritable'⟩ := hplaces a ((hmem a).1 ha)
      exact ⟨hnull', hsame.writable_iff.1 hwritable'⟩
    · exact (inMatrixOrder_renders horder hrenders).1.unique
        (inMatrixOrder_renders horder' hagain).1
  · exact find?_replacedAll_again
      (hrenders.nodup_fileName (((horder.map _).nodup_iff).2 hnodup)) hsub
      (hagain.nodup_fileName (((horder'.map _).nodup_iff).2 hnodup))

end

end FileTree

/-- A catalog with one function and its derivative, for vectors of four lanes. -/
def Tables.exponential : Tables where
  widths := [4]
  catalog := ⟨[⟨"Functions", "Real", Catalog.Standard.elementary.take 1⟩], List.nodup_singleton _⟩
  formulas := .ofList [("exp(_:)", .closed ["value"])]

namespace FileTree

/-- A directory with a file and a temporary file of an earlier run, and a file beside it. -/
def stale : FileTree :=
  ⟨[(["out"], .directory),
    (["out", "SIMD+RealFunctions.swift"], .file "old".toUTF8),
    (["out", "SIMD+RealFunctions.swift.tmp"], .file "half".toUTF8),
    (["notes"], .file "mine".toUTF8)]⟩

/-- A generation that writes over what an earlier run left, from the last artifact to the first. -/
theorem generateInOrder_effect_over_stale :
    ∃ rs u,
      stale.run (generateInOrder (Artifact.matrix Tables.exponential.widths).reverse
        .exponential (.ofString "out") none) = (.ok rs, u) ∧
      Generated .exponential (.ofString "out") rs stale u ∧
      ∃ v, u.run (generateInOrder (Artifact.matrix Tables.exponential.widths)
          .exponential (.ofString "out") none) = (.ok rs, v) ∧
        ∀ l, v.find? l = u.find? l := by
  cases h : stale.run (generateInOrder (Artifact.matrix Tables.exponential.widths).reverse
      .exponential (.ofString "out") none) with
  | mk result u =>
    cases result with
    | error failure =>
      have hok : (stale.run (generateInOrder (Artifact.matrix Tables.exponential.widths).reverse
          .exponential (.ofString "out") none)).1.isOk = true := by
        decide +kernel
      rw [h] at hok
      cases hok
    | ok rs =>
      obtain ⟨hgenerated, hagain⟩ := generateInOrder_effect (List.reverse_perm _) h
      exact ⟨rs, u, rfl, hgenerated, hagain _ (.refl _)⟩

end FileTree

end Lanewise
