import Lanewise.Proofs.Artifact.Matrix
import Lanewise.Proofs.Catalog.Reference
import Lanewise.Proofs.Overload.Signature

/-!
# What the name of a file tells

The name of a file shows the target and the kind of its artifact. In front of the first plus sign
stands the width of a vector or the precision of a scalar, and behind it what is left of the
target and the kind. So no two artifacts have the same name, and the paths of the matrix are
different when no width is listed twice.
-/

namespace Lanewise

/-- Numbers are told apart by their digits. -/
theorem toString_int_injective {m n : Int} (h : toString m = toString n) : m = n := by
  have hdigits : ∀ a b : Nat, a.repr = b.repr → a = b := by
    intro a b hab
    have hlist := congrArg String.toList hab
    rw [Nat.toList_repr, Nat.toList_repr] at hlist
    have hread := congrArg (fun digits => Nat.ofDigitChars 10 digits 0) hlist
    simpa using hread
  have hsign : ∀ a b : Nat, a.repr ≠ "-" ++ b.repr := by
    intro a b hab
    have hlist := congrArg String.toList hab
    rw [String.toList_append, Nat.toList_repr] at hlist
    have hminus : '-' ∈ Nat.toDigits 10 a := by
      rw [hlist]
      exact List.mem_cons_self
    exact absurd (Nat.isDigit_of_mem_toDigits (by decide) (by decide) hminus) (by decide)
  rw [Int.toString_eq_repr, Int.toString_eq_repr, Int.repr_eq_if, Int.repr_eq_if] at h
  split at h <;> split at h
  · have hnat := hdigits _ _ h
    omega
  · exact absurd h (hsign _ _)
  · exact absurd h.symm (hsign _ _)
  · rw [String.append_right_inj] at h
    have hnat := hdigits _ _ h
    omega

theorem Precision.typeName_injective : Function.Injective typeName := by
  intro p q
  cases p <;> cases q <;> decide

namespace Artifact

/-- What the name of a file has in front of the first plus sign. -/
def nameFront : Target → String
  | .generic => "SIMD"
  | .scalar precision => precision.typeName
  | .vector _ width => "SIMD" ++ toString width

/-- The precision of the lanes, for a vector of a width. -/
def lanes? : Target → Option Precision
  | .vector precision _ => some precision
  | _ => none

/-- What the name of a file has behind the first plus sign. -/
def nameBack (lanes : Option Precision) (kind : Kind) : String :=
  lanes.elim "" (fun precision => precision.typeName ++ "+") ++ "RealFunctions"
    ++ (match kind with
      | .implementations => ""
      | .derivatives => "+Derivatives")
    ++ ".swift"

theorem fileName_eq (a : Artifact) :
    a.fileName = nameFront a.target ++ "+" ++ nameBack (lanes? a.target) a.kind := by
  have hgeneric : "SIMD+RealFunctions" = "SIMD" ++ ("+" ++ "RealFunctions") := by decide
  have hjoin : "+RealFunctions" = "+" ++ "RealFunctions" := by decide
  unfold fileName nameBack targetStem nameFront lanes?
  cases a.target with
  | generic =>
    cases a.kind <;> simp only [hgeneric, String.append_assoc, Option.elim, String.empty_append]
  | scalar precision =>
    cases a.kind <;> simp only [hjoin, String.append_assoc, Option.elim, String.empty_append]
  | vector precision width =>
    cases a.kind <;> simp only [hjoin, String.append_assoc, Option.elim]

/-- A character that is in no fixed part of the front is not in the front. -/
theorem not_mem_nameFront {c : Char} (hfixed : c ∉ "SIMD".toList)
    (hprecision : ∀ precision : Precision, c ∉ precision.typeName.toList)
    (hdigit : c.isDigit = false) (hminus : c ≠ '-') (t : Target) : c ∉ (nameFront t).toList := by
  cases t with
  | generic => exact hfixed
  | scalar precision => exact hprecision precision
  | vector precision width =>
    refine not_mem_append hfixed fun hc => ?_
    rcases isDigit_or_eq_of_mem_toString hc with hd | hm
    · rw [hdigit] at hd
      cases hd
    · exact hminus hm

theorem plus_not_mem_nameFront (t : Target) : '+' ∉ (nameFront t).toList :=
  not_mem_nameFront (by decide) (by rintro (_ | _) <;> decide) (by decide) (by decide) t

theorem nameBack_inj {lanes lanes' : Option Precision} {kind kind' : Kind} :
    nameBack lanes kind = nameBack lanes' kind' ↔ lanes = lanes' ∧ kind = kind' := by
  rcases lanes with _ | _ | _ <;> rcases lanes' with _ | _ | _ <;> cases kind <;> cases kind' <;>
    decide

/-- The front of a name and the lanes tell the target. -/
theorem target_eq_of_front {s t : Target} (hfront : nameFront s = nameFront t)
    (hlanes : lanes? s = lanes? t) : s = t := by
  cases s with
  | generic =>
    cases t with
    | generic => rfl
    | scalar precision => cases precision <;> exact absurd hfront (by decide)
    | vector precision width => cases hlanes
  | scalar precision =>
    cases t with
    | generic => cases precision <;> exact absurd hfront (by decide)
    | scalar precision' => rw [Precision.typeName_injective hfront]
    | vector precision' width => cases hlanes
  | vector precision width =>
    cases t with
    | generic => cases hlanes
    | scalar precision' => cases hlanes
    | vector precision' width' =>
      rw [nameFront, nameFront, String.append_right_inj] at hfront
      rw [toString_int_injective hfront, Option.some.inj hlanes]

/-- Artifacts are told apart by the names of their files. -/
theorem fileName_injective : Function.Injective fileName := by
  intro a b h
  have hlist := congrArg String.toList h
  rw [fileName_eq, fileName_eq] at hlist
  simp only [String.toList_append, List.append_assoc] at hlist
  obtain ⟨hfront, hback⟩ := (Overload.append_cons_inj (plus_not_mem_nameFront a.target)
    (plus_not_mem_nameFront b.target)).1 hlist
  obtain ⟨hlanes, hkind⟩ := nameBack_inj.1 (String.toList_injective hback)
  exact (a.eq_iff b).2 ⟨target_eq_of_front (String.toList_injective hfront) hlanes, hkind⟩

/-- The characters of file names: letters, digits, the signs and the point. -/
def isFileNameChar (c : Char) : Bool :=
  c.isAlphanum || "+-.".toList.contains c

theorem not_mem_fileName (a : Artifact) {c : Char} (hc : isFileNameChar c = false) :
    c ∉ a.fileName.toList := by
  have hfixed : ∀ {text : String}, text.toList.all isFileNameChar = true → c ∉ text.toList := by
    intro text htext hm
    rw [List.all_eq_true.1 htext c hm] at hc
    cases hc
  have hback : c ∉ (nameBack (lanes? a.target) a.kind).toList := by
    refine hfixed ?_
    rcases lanes? a.target with _ | _ | _ <;> cases a.kind <;> rfl
  have hdigit : c.isDigit = false := by
    rw [Bool.eq_false_iff]
    intro hd
    rw [isFileNameChar, Char.isAlphanum, hd, Bool.or_true, Bool.true_or] at hc
    cases hc
  have hminus : c ≠ '-' := by
    rintro rfl
    cases hc
  rw [fileName_eq]
  refine not_mem_append (not_mem_append ?_ (hfixed rfl)) hback
  exact not_mem_nameFront (hfixed rfl) (by rintro (_ | _) <;> exact hfixed rfl) hdigit hminus _

/-- No name holds a null character. -/
theorem null_not_mem_fileName (a : Artifact) : '\x00' ∉ a.fileName.toList :=
  a.not_mem_fileName rfl

/-- The matrix lists an artifact twice exactly when a width is listed twice. -/
theorem nodup_matrix_iff {widths : List Int} : (matrix widths).Nodup ↔ widths.Nodup := by
  rw [List.nodup_iff_count_le_one, List.nodup_iff_count_le_one]
  constructor
  · intro h width
    have hcount := h ⟨.vector .float width, .implementations, rfl⟩
    rwa [count_matrix] at hcount
  · intro h a
    rw [count_matrix]
    cases a.target with
    | vector precision width => exact h width
    | _ => exact Nat.le_refl 1

theorem nodup_fileNames_iff {widths : List Int} :
    ((matrix widths).map fileName).Nodup ↔ widths.Nodup := by
  rw [List.nodup_map_iff fileName_injective, nodup_matrix_iff]

/-- With different widths, the names in the matrix are different. -/
theorem nodup_fileNames {widths : List Int} (h : widths.Nodup) :
    ((matrix widths).map fileName).Nodup :=
  nodup_fileNames_iff.2 h

end Artifact

end Lanewise
