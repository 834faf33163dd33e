import Lanewise.Artifact
import Lanewise.Proofs.Checks
import Mathlib.Data.List.Nodup

/-!
# What the matrix lists

A row of values makes an artifact when it passes the checks of the target and those of the pair: a
width needs a precision and has to be offered, the generic vector has no derivatives and scalars
have no implementations. The matrix is written by nested loops and asks for none of this. The two
agree: what the rows make is what the matrix lists, for any widths, and a width that is offered
once gives each of its files once.
-/

namespace Lanewise

namespace Precision

theorem ofName?_eq_some_iff {name : String} {p : Precision} :
    ofName? name = some p ↔ name = p.typeName := by
  constructor
  · intro h
    have hname := List.find?_some h
    exact (of_decide_eq_true hname).symm
  · rintro rfl
    cases p <;> decide

end Precision

namespace Target

/-- The precision and the width in the row of a target. -/
def row : Target → Datum × Datum
  | generic => (.null, .null)
  | scalar precision => (.text precision.typeName, .null)
  | vector precision width => (.text precision.typeName, .int width)

/-- Whether the width of a target, if it has one, is offered. -/
def IsOffered (widths : List Int) : Target → Prop
  | vector _ width => width ∈ widths
  | _ => True

theorem givenPrecision_eq_ok_iff {value : Datum} {p : Precision} :
    givenPrecision value = .ok p ↔ value = .text p.typeName := by
  cases value with
  | text name =>
    rw [Datum.text.injEq, ← Precision.ofName?_eq_some_iff]
    show (Precision.ofName? name).elim (Except.error _) Except.ok = _ ↔ _
    cases Precision.ofName? name <;> simp
  | _ => simp [givenPrecision]

theorem offeredWidth_eq_ok_iff {widths : List Int} {value : Datum} {width : Int} :
    offeredWidth widths value = .ok width ↔ value = .int width ∧ width ∈ widths := by
  cases value with
  | int given =>
    show (if given ∈ widths then Except.ok given else _) = _ ↔ _
    by_cases hg : given ∈ widths
    · rw [if_pos hg, Except.ok.injEq, Datum.int.injEq]
      constructor
      · rintro rfl
        exact ⟨rfl, hg⟩
      · exact And.left
    · rw [if_neg hg, Datum.int.injEq]
      constructor
      · intro h
        cases h
      · rintro ⟨rfl, hw⟩
        exact absurd hw hg
  | _ => simp [offeredWidth]

/-- A row makes the target whose row it is, if the width is offered. -/
theorem ofRow_eq_ok_iff {widths : List Int} {precision width : Datum} {t : Target} :
    ofRow widths precision width = .ok t ↔ t.row = (precision, width) ∧ t.IsOffered widths := by
  unfold ofRow
  split
  · cases t <;> simp [row, IsOffered]
  · rename_i hwidth
    cases t with
    | generic => simpa [row] using fun h => absurd h.symm hwidth
    | _ => simp [row]
  · rename_i hprecision
    simp only [bind_eq_ok_iff, givenPrecision_eq_ok_iff, pure, Except.pure]
    cases t with
    | generic => simpa [row] using fun h => absurd h.symm hprecision
    | scalar p => simp [row, IsOffered, eq_comm]
    | vector p w => simp [row]
  · rename_i hprecision hwidth _
    simp only [bind_eq_ok_iff, givenPrecision_eq_ok_iff, offeredWidth_eq_ok_iff, pure, Except.pure]
    cases t with
    | generic => simpa [row] using fun h => absurd h.symm hprecision
    | scalar p => simpa [row] using fun _ h => absurd h.symm hwidth
    | vector p w =>
      simp only [row, IsOffered, Prod.mk.injEq]
      constructor
      · rintro ⟨w', ⟨rfl, hw⟩, p', rfl, he⟩
        cases he
        exact ⟨⟨rfl, rfl⟩, hw⟩
      · rintro ⟨⟨rfl, rfl⟩, hw⟩
        exact ⟨w, ⟨rfl, hw⟩, p, rfl, rfl⟩

end Target

namespace Artifact

/-- The artifact of a row. The target is checked first, then the pair of target and kind. -/
def ofRow (widths : List Int) (precision width : Datum) (kind : Kind) : Except Failure Artifact := do
  ofParts (← Target.ofRow widths precision width) kind

theorem ofParts_eq_ok_iff {t : Target} {kind : Kind} {a : Artifact} :
    ofParts t kind = .ok a ↔ a.target = t ∧ a.kind = kind := by
  unfold ofParts
  split
  · rename_i hadmitted
    rw [Except.ok.injEq]
    constructor
    · rintro rfl
      exact ⟨rfl, rfl⟩
    · rintro ⟨rfl, rfl⟩
      rfl
  · rename_i failure hrefused
    constructor
    · intro h
      cases h
    · rintro ⟨rfl, rfl⟩
      rw [a.admitted] at hrefused
      cases hrefused

theorem ofRow_eq_ok_iff {widths : List Int} {precision width : Datum} {kind : Kind}
    {a : Artifact} :
    ofRow widths precision width kind = .ok a ↔
      a.target.row = (precision, width) ∧ a.target.IsOffered widths ∧ a.kind = kind := by
  unfold ofRow
  rw [bind_eq_ok_iff]
  simp only [ofParts_eq_ok_iff, Target.ofRow_eq_ok_iff]
  constructor
  · rintro ⟨t, ⟨hrow, hoffered⟩, rfl, hkind⟩
    exact ⟨hrow, hoffered, hkind⟩
  · rintro ⟨hrow, hoffered, hkind⟩
    exact ⟨a.target, ⟨hrow, hoffered⟩, rfl, hkind⟩

theorem eq_iff (a b : Artifact) : a = b ↔ a.target = b.target ∧ a.kind = b.kind := by
  obtain ⟨target, kind, hadmitted⟩ := a
  obtain ⟨target', kind', hadmitted'⟩ := b
  exact Artifact.mk.injEq .. ▸ Iff.rfl

theorem count_cons_eq (a b : Artifact) (rest : List Artifact) :
    (b :: rest).count a =
      rest.count a + if b.target = a.target ∧ b.kind = a.kind then 1 else 0 := by
  simp only [List.count_cons, beq_iff_eq, eq_iff]

/-- How often the vectors of a precision have an artifact: once for each time its width is listed.
-/
theorem count_vectors (widths : List Int) (precision : Precision) (a : Artifact) :
    (widths.flatMap fun width =>
      [(⟨.vector precision width, .implementations, rfl⟩ : Artifact),
       ⟨.vector precision width, .derivatives, rfl⟩]).count a =
      match a.target with
      | .vector p width => if p = precision then widths.count width else 0
      | _ => 0 := by
  induction widths with
  | nil => cases a.target <;> simp
  | cons width rest ih =>
    rw [List.flatMap_cons, List.count_append, ih, count_cons_eq, count_cons_eq, List.count_nil]
    cases a.target with
    | vector p w =>
      have hkind : a.kind = .implementations ∨ a.kind = .derivatives := by cases a.kind <;> simp
      by_cases hp : precision = p
      · by_cases hw : width = w
        · rcases hkind with hk | hk <;> simp [hp, hw, hk] <;> omega
        · simp [hp, hw]
      · simp [hp, Ne.symm hp]
    | _ => simp

theorem count_row (widths : List Int) (precision : Precision) (a : Artifact) :
    (row widths precision).count a =
      match a.target with
      | .generic => 0
      | .scalar p => if p = precision then 1 else 0
      | .vector p width => if p = precision then widths.count width else 0 := by
  rw [row, count_cons_eq, count_vectors]
  obtain ⟨target, kind, hadmitted⟩ := a
  cases target with
  | generic => simp
  | scalar p =>
    cases kind with
    | implementations => cases hadmitted
    | derivatives => simp [eq_comm]
  | vector p width => simp

/-- The matrix has the files of a vector as often as its width is listed, and all others once. -/
theorem count_matrix (widths : List Int) (a : Artifact) :
    (matrix widths).count a =
      match a.target with
      | .vector _ width => widths.count width
      | _ => 1 := by
  have hrows : (Precision.all.flatMap (row widths)).count a =
      (row widths .float).count a + (row widths .double).count a := by
    simp [Precision.all]
  rw [matrix, count_cons_eq, hrows, count_row, count_row]
  obtain ⟨target, kind, hadmitted⟩ := a
  cases target with
  | generic =>
    cases kind with
    | implementations => simp
    | derivatives => cases hadmitted
  | scalar p => cases p <;> simp
  | vector p width => cases p <;> simp

theorem mem_matrix_iff (widths : List Int) (a : Artifact) :
    a ∈ matrix widths ↔ a.target.IsOffered widths := by
  rw [← List.count_pos_iff, count_matrix]
  cases a.target with
  | vector p width => exact List.count_pos_iff
  | _ => simp [Target.IsOffered]

/-- The matrix, where each artifact is made from its row and checked. -/
def checkedMatrix (widths : List Int) : Except Failure (List Artifact) := do
  let generic ← ofRow widths .null .null .implementations
  let rows ← Precision.all.mapM fun precision => do
    let scalar ← ofRow widths (.text precision.typeName) .null .derivatives
    let vectors ← widths.mapM fun width => do
      let implementations ←
        ofRow widths (.text precision.typeName) (.int width) .implementations
      let derivatives ← ofRow widths (.text precision.typeName) (.int width) .derivatives
      return [implementations, derivatives]
    return scalar :: vectors.flatten
  return generic :: rows.flatten

/-- No check fails while the matrix is made. -/
theorem checkedMatrix_eq_ok (widths : List Int) : checkedMatrix widths = .ok (matrix widths) := by
  have hgeneric : ofRow widths .null .null .implementations =
      .ok ⟨.generic, .implementations, rfl⟩ :=
    ofRow_eq_ok_iff.2 ⟨rfl, trivial, rfl⟩
  have hscalar : ∀ precision : Precision,
      ofRow widths (.text precision.typeName) .null .derivatives =
        .ok ⟨.scalar precision, .derivatives, rfl⟩ :=
    fun precision => ofRow_eq_ok_iff.2 ⟨rfl, trivial, rfl⟩
  have hvector : ∀ precision : Precision, ∀ width ∈ widths, ∀ kind : Kind,
      ofRow widths (.text precision.typeName) (.int width) kind =
        .ok ⟨.vector precision width, kind, rfl⟩ :=
    fun precision width hw kind => ofRow_eq_ok_iff.2 ⟨rfl, hw, rfl⟩
  have hvectors : ∀ precision : Precision,
      (widths.mapM fun width => do
        let implementations ←
          ofRow widths (.text precision.typeName) (.int width) .implementations
        let derivatives ← ofRow widths (.text precision.typeName) (.int width) .derivatives
        return [implementations, derivatives]) =
      .ok (widths.map fun width =>
        [(⟨.vector precision width, .implementations, rfl⟩ : Artifact),
         ⟨.vector precision width, .derivatives, rfl⟩]) := by
    intro precision
    refine mapM_eq_ok_map fun width hw => ?_
    rw [hvector precision width hw .implementations, hvector precision width hw .derivatives]
    rfl
  unfold checkedMatrix
  rw [hgeneric]
  simp only [hscalar, hvectors]
  rfl

/-- The matrix is complete and exact. Making it from rows fails at no check; an artifact is in it
exactly when some row makes that artifact; and if no width is listed twice, each is in it once. -/
theorem matrix_complete (widths : List Int) :
    checkedMatrix widths = .ok (matrix widths) ∧
    (∀ a : Artifact, a ∈ matrix widths ↔
      ∃ precision width kind, ofRow widths precision width kind = .ok a) ∧
    (widths.Nodup → ∀ precision width kind, ∀ a : Artifact,
      ofRow widths precision width kind = .ok a → (matrix widths).count a = 1) := by
  refine ⟨checkedMatrix_eq_ok widths, fun a => ?_, fun hnodup precision width kind a h => ?_⟩
  · rw [mem_matrix_iff]
    simp only [ofRow_eq_ok_iff]
    constructor
    · intro hoffered
      exact ⟨_, _, _, rfl, hoffered, rfl⟩
    · rintro ⟨precision, width, kind, -, hoffered, -⟩
      exact hoffered
  · obtain ⟨-, hoffered, -⟩ := ofRow_eq_ok_iff.1 h
    rw [count_matrix]
    cases ht : a.target with
    | vector p w =>
      rw [ht] at hoffered
      exact List.count_eq_one_of_mem hnodup hoffered
    | _ => rfl

/-- With the widths 2 and 4, the derivatives for four doubles are listed once. -/
theorem matrix_complete_fourDoubles :
    [2, 4].Nodup ∧ ∃ a : Artifact, ofRow [2, 4] (.text "Double") (.int 4) .derivatives = .ok a ∧
      (matrix [2, 4]).count a = 1 := by
  have hrow : ofRow [2, 4] (.text "Double") (.int 4) .derivatives =
      .ok ⟨.vector .double 4, .derivatives, rfl⟩ := rfl
  exact ⟨by decide, _, hrow, (matrix_complete [2, 4]).2.2 (by decide) _ _ _ _ hrow⟩

end Artifact

end Lanewise
