import Lanewise.Catalog.Standard
import Lanewise.Formula.Standard
import Lanewise.Proofs.Derivative.Body
import Lanewise.Proofs.Derivative.Uniform
import Lanewise.Proofs.Template.Standard
import Lanewise.Proofs.Text.Word

/-!
# Where a formula mentions the value

Whether an expression mentions the value of the function is decided on its source, before the name of
the scalar type stands in its holes and before its line breaks are unified. What is written is the
filled expression. Filling makes no word `value` that the source does not have: the names of scalar
types do not start with a letter of that word, and a line break never stands in it. So wherever the
pullback mentions the value, the body has declared it before.
-/

namespace Lanewise

open Lanewise.Derivative Swift Template Text

namespace Formula

/-! ## Words in filled templates -/

section

variable {word : List Char}

/-- A return in front of a line feed is shown with it. -/
theorem shows_return (hbreak : '\n' ∉ word) {rest text : List Char}
    (h : Shows word ('\n' :: rest) text) : Shows word ('\r' :: '\n' :: rest) text := by
  generalize hsource : '\n' :: rest = source at h
  cases h with
  | ending _ => exact .ending rfl
  | char c hrest =>
    obtain ⟨rfl, rfl⟩ := List.cons.inj hsource
    have hmarks : ∀ d ∈ ['\r', '\n'], isWordChar d = false :=
      List.forall_mem_cons.2 ⟨rfl, List.forall_mem_singleton.2 rfl⟩
    exact .mark (List.cons_ne_nil _ _) hmarks hbreak hrest
  | @mark front c source text hfront hmarks hc hrest =>
    exact .mark (List.cons_ne_nil '\r' front) (List.forall_mem_cons.2 ⟨rfl, hmarks⟩) hc hrest
  | @name front c tail source text hname hc hrest =>
    have hshows : Shows word (('\r' :: front) ++ source) (c :: tail ++ text) := .name hname hc hrest
    exact hshows

/-- What is shown for a character makes no word. -/
theorem shows_shown_append (hbreak : '\n' ∉ word) (c : Char) {rest text : List Char}
    (hnil : rest = [] → text = []) (h : Shows word rest text) :
    Shows word (c :: rest) (shown c rest ++ text) := by
  have hmark : ∀ d ∈ ['\r'], isWordChar d = false := List.forall_mem_singleton.2 rfl
  unfold shown
  by_cases hreturn : c = '\r'
  · subst hreturn
    by_cases hlast : rest = []
    · rw [if_pos rfl, if_pos (.inl hlast), hnil hlast]
      exact .ending rfl
    · by_cases hnext : rest.head? = some '\n'
      · obtain ⟨after, rfl⟩ := List.head?_eq_some_iff.1 hnext
        exact shows_return hbreak h
      · rw [if_pos rfl, if_neg (not_or.2 ⟨hlast, hnext⟩)]
        exact .mark (List.cons_ne_nil _ _) hmark hbreak h
  · rw [if_neg hreturn]
    split
    · rename_i hlast
      rw [hnil hlast.2, hlast.1]
      exact .ending rfl
    · exact .char c h

variable [Engine] [LawfulEngine]

/-- The name in the places of placeholders makes no word when it starts with another character. -/
theorem shows_output {context : String → Option String} {name : String} {c : Char}
    {rest : List Char} (hbreak : '\n' ∉ word) (hcontext : context "T" = some name)
    (hname : name.toList = c :: rest) (hchars : ∀ d ∈ c :: rest, isWordChar d = true)
    (hc : c ∉ word) {source : List Char} (h : IsTemplate (· = "T") source) :
    Shows word source (Engine.output source context) := by
  induction h with
  | nil =>
    rw [LawfulEngine.output_nil]
    exact .ending rfl
  | @char d behind hopens hbehind ih =>
    rw [output_cons context hopens (isTemplate_of_scalarTemplate hbehind)]
    refine shows_shown_append hbreak d (fun hnil => ?_) ih
    rw [hnil, LawfulEngine.output_nil]
  | @placeholder p behind hp hbehind ih =>
    rw [LawfulEngine.output_placeholder context p (isOrdinary_of_eq_scalarName hp)
      (isTemplate_of_scalarTemplate hbehind), hp, hcontext, Option.getD_some, hname]
    exact .name hchars hc ih

/-- A value that a filled expression mentions is mentioned in its source. -/
theorem hasWord_value_of_instantiate (t : Target) {expression : String}
    (h : IsScalarTemplate expression)
    (hword : HasWholeWord "value".toList (instantiate t.scalarName expression).toList) :
    hasWord "value" expression = true := by
  have hvalue : "value".toList ≠ [] := by decide
  have hscalar : ∃ c rest, t.scalarName.toList = c :: rest ∧
      (∀ d ∈ c :: rest, isWordChar d = true) ∧ c ∉ "value".toList := by
    rcases t.scalarName_eq with hname | hname | hname <;> rw [hname]
    all_goals exact ⟨_, _, rfl, List.all_eq_true.1 rfl, by decide⟩
  obtain ⟨c, rest, hname, hchars, hc⟩ := hscalar
  let context : String → Option String := fun name => if name = "T" then some t.scalarName else none
  have hshows : Shows "value".toList expression.toList
      (Engine.output expression.toList context) :=
    shows_output (by decide) (if_pos rfl) hname hchars hc h
  have hfilled : (instantiate t.scalarName expression).toList =
      Engine.output expression.toList context := String.toList_ofList
  rw [hfilled] at hword
  exact (hasWord_iff hvalue).2 (hshows.hasWholeWord hvalue hword)

/-- The value is used as soon as an expression mentions it for one target. -/
theorem usesValue_of_hasWholeWord {f : Formula} (h : f.IsScalar) (t : Target) {expression : String}
    (hmem : expression ∈ f.partials ++ f.bindings.map Prod.snd)
    (hword : HasWholeWord "value".toList (instantiate t.scalarName expression).toList) :
    f.usesValue = true :=
  List.any_eq_true.2 ⟨expression, hmem, hasWord_value_of_instantiate t (h expression hmem) hword⟩

end

/-! ## Where the value is computed -/

/-- A call is no name. -/
theorem call_ne_value (o : Overload) : o.call false "" ≠ "value" := by
  intro h
  have hopen : '(' ∈ (o.call false "").toList := by simp [Overload.call, String.toList_append]
  rw [h] at hopen
  exact absurd hopen (by decide)

/-- The value is declared before the pullback uses it, and it is computed once for the body. The body
of a closed form is read back as a value with a pullback that declares the bindings of the formula,
each with its expression for the scalar type, in the order of the table, and then returns the
cotangents. If an expression of the formula, as it is written for the target, has the word `value`,
then the first line declares it as the forward call, and it is the value that is returned. In every
case the forward call is either what is declared as `value` or what is returned as the value, and not
both. The expressions of the formula are written as they are: they may have the call in them again. -/
theorem closedFormBody_declares_value [Engine] [LawfulEngine] (f : Formula) (h : f.IsScalar)
    (o : Overload) (t : Target) :
    ∃ declaration value,
      Body.ofLines? (f.closedFormBody o t.scalarName) = some (.returns declaration {
        value
        pullback := {
          cotangent := cotangentName
          declarations := f.bindings.map fun (name, expression) =>
            name ++ " = " ++ instantiate t.scalarName expression
          result := f.pullback t.scalarName } }) ∧
      ((∃ expression ∈ f.partials ++ f.bindings.map Prod.snd,
          HasWholeWord "value".toList (instantiate t.scalarName expression).toList) →
        (f.closedFormBody o t.scalarName).head? = some ("let value = " ++ o.call false "") ∧
          value = "value") ∧
      ((declaration.bind (behind? "value = ")).toList ++ [value]).count (o.call false "") = 1 := by
  have hread := f.ofLines?_closedFormBody o t.scalarName
  rw [differential, boundExpressions, List.map_map] at hread
  refine ⟨f.declaration? o, if f.usesValue then "value" else o.call false "", hread, ?_, ?_⟩
  · rintro ⟨expression, hmem, hword⟩
    have huses := usesValue_of_hasWholeWord h t hmem hword
    refine ⟨?_, if_pos huses⟩
    rw [closedFormBody, if_pos huses]
    split <;> rfl
  · unfold declaration?
    split
    · rw [Option.bind_some, behind?_append, Option.toList_some, List.singleton_append,
        List.count_cons_self, List.count_singleton, if_neg]
      simpa using (call_ne_value o).symm
    · exact List.count_singleton_self

/-- Next to a hole the value is seen too, and a binding is declared behind it. -/
theorem closedFormBody_declares_value_exp2 :
    let f := closed ["value * c"] [("c", Standard.scalar ++ ".log(2)")]
    let o := Catalog.Standard.sameName (.literal "exp2")
    f.IsScalar ∧ ∃ declaration value,
      Body.ofLines? (f.closedFormBody o "Float") = some (.returns declaration {
        value
        pullback := {
          cotangent := "v"
          declarations := ["c = Float.log(2)"]
          result := "v * value * c" } }) ∧
      (f.closedFormBody o "Float").head? = some "let value = exp2(x)" ∧ value = "value" ∧
      ((declaration.bind (behind? "value = ")).toList ++ [value]).count "exp2(x)" = 1 := by
  intro f o
  have hscalar : f.IsScalar := isScalar_of_isPlain (by decide)
  have hpartial : instantiate "Float" "value * c" = "value * c" :=
    instantiate_eq_substitute "Float" (by decide)
  have hbinding : instantiate "Float" (Standard.scalar ++ ".log(2)") = "Float.log(2)" :=
    instantiate_eq_substitute "Float" (by decide)
  have hpullback : f.pullback "Float" = "v * value * c" := by
    show scale cotangentName (instantiate _ _) = _
    rw [hpartial]
    rfl
  have hdeclarations : (f.bindings.map fun (name, expression) =>
      name ++ " = " ++ instantiate "Float" expression) = ["c = Float.log(2)"] := by
    show ["c = " ++ instantiate _ _] = _
    rw [hbinding]
    rfl
  have hword : HasWholeWord "value".toList (instantiate "Float" "value * c").toList := by
    rw [hpartial]
    exact ⟨[], " * c".toList, rfl, rfl, rfl⟩
  obtain ⟨declaration, value, hread, hdeclared, hcount⟩ :=
    closedFormBody_declares_value f hscalar o (.vector .float 4)
  obtain ⟨hfirst, hvalue⟩ := hdeclared ⟨_, List.mem_cons_self, hword⟩
  rw [← hpullback, ← hdeclarations]
  exact ⟨hscalar, declaration, value, hread, hfirst, hvalue, hcount⟩

/-- The number of places where a word stands in a text. -/
def occurrences (word text : String) : Nat :=
  text.toList.tails.countP fun rest => word.toList.isPrefixOf rest

/-- A formula may call the function itself. Then the forward call stands in two places of the body. -/
theorem closedFormBody_calls_twice :
    let f := closed ["exp(x)"]
    let o := Catalog.Standard.sameName (.literal "exp")
    f.IsScalar ∧ o.call false "" = "exp(x)" ∧
      f.closedFormBody o "Float" = ["(value: exp(x), pullback: \x7b v in v * exp(x) \x7d)"] ∧
      (f.closedFormBody o "Float").map (occurrences "exp(x)") = [2] := by
  intro f o
  have hscalar : f.IsScalar := isScalar_of_isPlain (by decide)
  have hcall : o.call false "" = "exp(x)" := rfl
  have hpartial : instantiate "Float" "exp(x)" = "exp(x)" :=
    instantiate_eq_substitute "Float" (by decide)
  have hpullback : f.pullback "Float" = "v * exp(x)" := by
    show scale cotangentName (instantiate _ _) = _
    rw [hpartial]
    rfl
  have hlines : f.closedFormBody o "Float" =
      ["(value: exp(x), pullback: \x7b v in v * exp(x) \x7d)"] := by
    show ["(value: exp(x), pullback: \x7b v in " ++ f.pullback "Float" ++ " \x7d)"] = _
    rw [hpullback]
    rfl
  refine ⟨hscalar, hcall, hlines, ?_⟩
  rw [hlines]
  rfl

end Formula

end Lanewise
