import Lanewise.Formula.Cotangent
import Lanewise.Proofs.Template.Engine
import Lanewise.Target

/-!
# Reading the texts of a formula

An expression of a formula that has no braces but those of holes for the scalar type, and no line
break, is filled by writing the scalar type into these holes. So the bindings and the cotangents of
a formula can be read back as expressions from the characters of its source.
-/

namespace Lanewise

open Template

theorem Target.scalarName_eq (t : Target) :
    t.scalarName = "Scalar" ∨ t.scalarName = "Float" ∨ t.scalarName = "Double" := by
  rcases t with _ | (_ | _) | ⟨_ | _, _⟩ <;> simp [Target.scalarName, Precision.typeName]

namespace Formula

/-! ## Filling the holes -/

/-- A text with the scalar type written into its holes. -/
def substitute (scalarName : List Char) : List Char → List Char
  | '{' :: '{' :: ' ' :: 'T' :: ' ' :: '}' :: '}' :: rest =>
    scalarName ++ substitute scalarName rest
  | c :: rest => c :: substitute scalarName rest
  | [] => []

/-- Whether all braces of a text are those of holes for the scalar type, and no line ends. -/
def hasOnlyScalarHoles : List Char → Bool
  | '{' :: '{' :: ' ' :: 'T' :: ' ' :: '}' :: '}' :: rest => hasOnlyScalarHoles rest
  | c :: rest => c ∉ ['{', '\n', '\r'] && hasOnlyScalarHoles rest
  | [] => true

/-- The placeholder for the scalar type, as the expressions of a formula are written. -/
def scalarPlaceholder : Placeholder :=
  .spaced "T"

/-- A template with no other placeholders than those for the scalar type. -/
def IsScalarTemplate (expression : String) : Prop :=
  IsTemplate (· = "T") expression.toList

theorem isOrdinary_of_eq_scalarName {name : String} (h : name = "T") : IsOrdinary name := by
  subst h
  exact ⟨by decide, by decide, by decide⟩

theorem isTemplate_of_scalarTemplate {source : List Char} (h : IsTemplate (· = "T") source) :
    IsTemplate IsOrdinary source :=
  h.mono fun _ => isOrdinary_of_eq_scalarName

theorem isTemplate_of_hasOnlyScalarHoles {chars : List Char} (hplain : hasOnlyScalarHoles chars) :
    IsTemplate (· = "T") chars := by
  fun_induction hasOnlyScalarHoles chars with
  | case1 rest ih => exact .placeholder scalarPlaceholder rfl (ih hplain)
  | case2 c rest _ ih =>
    rw [Bool.and_eq_true, decide_eq_true_eq] at hplain
    have hbrace : c ≠ '{' := by grind
    exact .char c (opens_eq_false hbrace rest) (ih hplain.2)
  | case3 => exact .nil

section

variable [Engine] [LawfulEngine]

theorem output_eq_substitute {context : String → Option String} {scalarName : String}
    (hknown : context "T" = some scalarName) {chars : List Char}
    (hplain : hasOnlyScalarHoles chars) :
    Engine.output chars context = substitute scalarName.toList chars := by
  fun_induction hasOnlyScalarHoles chars with
  | case1 rest ih =>
    have hrest := isTemplate_of_scalarTemplate (isTemplate_of_hasOnlyScalarHoles hplain)
    have hfilled := LawfulEngine.output_placeholder context scalarPlaceholder
      (isOrdinary_of_eq_scalarName rfl) hrest
    rw [ih hplain] at hfilled
    have hname : context scalarPlaceholder.name = some scalarName := hknown
    rw [hname, Option.getD_some] at hfilled
    rw [substitute]
    exact hfilled
  | case2 c rest hother ih =>
    rw [Bool.and_eq_true, decide_eq_true_eq] at hplain
    have hbrace : c ≠ '{' := by grind
    have hrest := isTemplate_of_scalarTemplate (isTemplate_of_hasOnlyScalarHoles hplain.2)
    have hreturn : c ≠ '\r' := by grind
    have hfeed : c = '\n' → rest ≠ [] := by grind
    rw [LawfulEngine.output_char context (opens_eq_false hbrace rest) hreturn hfeed hrest,
      ih hplain.2, substitute]
    exact hother
  | case3 => exact LawfulEngine.output_nil context

/-- An expression is filled by writing the scalar type into its holes. -/
theorem instantiate_eq_substitute (scalarName : String) {source : String}
    (hplain : hasOnlyScalarHoles source.toList) :
    instantiate scalarName source = String.ofList (substitute scalarName.toList source.toList) := by
  rw [instantiate, fill, output_eq_substitute (if_pos rfl) hplain]

end

/-- A leading minus moves to the front. -/
theorem scaleChars_minus {cotangent rest : List Char} (hsum : isSum ('-' :: rest) = false) :
    scaleChars cotangent ('-' :: rest) = '-' :: scaleChars cotangent rest := by
  rw [scaleChars]
  simp [hsum]

/-- Whether the expressions of a formula have no other holes than those for the scalar type. -/
def isPlain (f : Formula) : Bool :=
  (f.partials ++ f.bindings.map Prod.snd).all fun expression =>
    hasOnlyScalarHoles expression.toList

/-! ## Values -/

section

variable {K : Type}

/-- The names in scope behind some bindings, each with its value, the latest first. A binding can
use the names before it. -/
def bind? (value? : List (String × K) → String → Option K) :
    List (String × K) → List (String × String) → Option (List (String × K))
  | scope, [] => some scope
  | scope, (name, text) :: rest => do
    let value ← value? scope text
    bind? value? ((name, value) :: scope) rest

theorem bind?_map {value? : List (String × K) → String → Option K} {change : String → String}
    (scope : List (String × K)) (bindings : List (String × String)) :
    bind? value? scope (bindings.map fun (name, text) => (name, change text))
      = bind? (fun scope text => value? scope (change text)) scope bindings := by
  induction bindings generalizing scope with
  | nil => rfl
  | cons binding rest ih => simp only [List.map_cons, bind?, ih]

theorem bind?_congr {value? value'? : List (String × K) → String → Option K}
    (scope : List (String × K)) {bindings : List (String × String)}
    (h : ∀ binding ∈ bindings, ∀ scope, value? scope binding.2 = value'? scope binding.2) :
    bind? value? scope bindings = bind? value'? scope bindings := by
  induction bindings generalizing scope with
  | nil => rfl
  | cons binding rest ih =>
    simp only [bind?, h binding List.mem_cons_self scope,
      ih _ fun binding hmem => h binding (List.mem_cons_of_mem _ hmem)]

theorem mapM_congr {α : Type} {f g : α → Option K} {items : List α}
    (h : ∀ item ∈ items, f item = g item) : items.mapM f = items.mapM g := by
  induction items with
  | nil => rfl
  | cons item rest ih =>
    simp only [List.mapM_cons, h item List.mem_cons_self,
      ih fun item hmem => h item (List.mem_cons_of_mem _ hmem)]

/-- The values of the cotangents behind the bindings, in order, where characters have a value as soon
as the names in scope have one. -/
def cotangentValues? [Engine] (f : Formula) (scalarName : String)
    (value? : List (String × K) → List Char → Option K) (scope : List (String × K)) :
    Option (List K) := do
  let scope ← bind? (fun scope text => value? scope text.toList) scope
    (f.boundExpressions scalarName)
  (f.cotangents scalarName).mapM fun text => value? scope text.toList

/-- The same values from the sources of the expressions, with the scalar type written into their
holes. -/
def substitutedValues? (f : Formula) (scalarName : String)
    (value? : List (String × K) → List Char → Option K) (scope : List (String × K)) :
    Option (List K) := do
  let scope ← bind? (fun scope expression => value? scope
    (substitute scalarName.toList expression.toList)) scope f.bindings
  f.partials.mapM fun expression => value? scope
    (scaleChars ['v'] (substitute scalarName.toList expression.toList))

theorem cotangentValues?_eq_substitutedValues? [Engine] [LawfulEngine] {f : Formula}
    (hplain : f.isPlain) (scalarName : String)
    (value? : List (String × K) → List Char → Option K) (scope : List (String × K)) :
    f.cotangentValues? scalarName value? scope = f.substitutedValues? scalarName value? scope := by
  have hwritten : ∀ expression ∈ f.partials ++ f.bindings.map Prod.snd,
      (instantiate scalarName expression).toList
        = substitute scalarName.toList expression.toList := by
    intro expression hmem
    rw [instantiate_eq_substitute scalarName (List.all_eq_true.1 hplain expression hmem),
      String.toList_ofList]
  have hbound : bind? (fun scope text => value? scope text.toList) scope
      (f.boundExpressions scalarName)
      = bind? (fun scope expression => value? scope
          (substitute scalarName.toList expression.toList)) scope f.bindings := by
    rw [boundExpressions, bind?_map]
    refine bind?_congr scope fun binding hmem scope => ?_
    rw [hwritten _ (List.mem_append_right _ (List.mem_map_of_mem hmem))]
  have hscaled : ∀ scope,
      (f.cotangents scalarName).mapM (fun text => value? scope text.toList)
        = f.partials.mapM fun expression => value? scope
            (scaleChars ['v'] (substitute scalarName.toList expression.toList)) := by
    intro scope
    rw [cotangents, List.mapM_map]
    refine mapM_congr fun expression hmem => ?_
    rw [Function.comp_apply, scale, String.toList_ofList,
      hwritten _ (List.mem_append_left _ hmem)]
    rfl
  simp only [cotangentValues?, substitutedValues?, hbound, hscaled]

end

end Formula

end Lanewise
