import Lanewise.Proofs.Formula.Scaling
import Lanewise.Proofs.Overload.Nesting
import Lanewise.Proofs.Swift.Branch

/-!
# Brackets in registrations

The expressions of a formula stand in the body of a registration, scaled by the cotangent, listed in
parentheses, and in the braces of the pullback. Where each of them is balanced, the body is, in the
layout of one line as in the one with bindings. Where each takes one line, no line of the body looks
like a directive, because something is always written before an expression.
-/

namespace Lanewise

open Swift

/-- A balanced text on one line. -/
structure Inline (text : List Char) : Prop where
  oneLine : '\n' ∉ text
  balanced : IsBalanced text

instance (text : List Char) : Decidable (Inline text) :=
  decidable_of_iff ('\n' ∉ text ∧ IsBalanced text)
    ⟨fun h => ⟨h.1, h.2⟩, fun h => ⟨h.oneLine, h.balanced⟩⟩

namespace Inline

theorem append {a b : List Char} (ha : Inline a) (hb : Inline b) : Inline (a ++ b) := by
  refine ⟨?_, ha.balanced.append hb.balanced⟩
  rw [List.mem_append, not_or]
  exact ⟨ha.oneLine, hb.oneLine⟩

end Inline

namespace Formula

/-- A formula whose expressions, written for a scalar type, are balanced and take one line each, and
whose bindings are for identifiers. -/
structure IsNested [Template.Engine] (f : Formula) (scalarName : String) : Prop where
  partials : ∀ expression ∈ f.partials, Inline (instantiate scalarName expression).toList
  bindings : ∀ binding ∈ f.bindings, Identifier.accepts binding.1.toList = true ∧
    Inline (instantiate scalarName binding.2).toList

instance [Template.Engine] (f : Formula) (scalarName : String) :
    Decidable (f.IsNested scalarName) :=
  decidable_of_iff
    ((∀ expression ∈ f.partials, Inline (instantiate scalarName expression).toList) ∧
      ∀ binding ∈ f.bindings, Identifier.accepts binding.1.toList = true ∧
        Inline (instantiate scalarName binding.2).toList)
    ⟨fun h => ⟨h.1, h.2⟩, fun h => ⟨h.partials, h.bindings⟩⟩

/-! ## Scaled expressions -/

/-- Scaling moves minus signs, drops the start of a reciprocal, or puts an expression into
parentheses. None of it takes a bracket away from another. -/
theorem inline_scaleChars {cotangent expression : List Char} (hc : Inline cotangent)
    (he : Inline expression) : Inline (scaleChars cotangent expression) := by
  have hproduct : Inline " * ".toList := ⟨by decide, by decide⟩
  have hquotient : Inline " / ".toList := ⟨by decide, by decide⟩
  have hsign : Inline ['-'] := ⟨by decide, by decide⟩
  induction expression using scaleChars.induct with
  | case1 expression hsum =>
    have hopen : openAfter [] (cotangent ++ " * (".toList) = some [.parenthesis] := by
      rw [openAfter_append, hc.balanced.openAfter, Option.bind_some]
      rfl
    rw [scaleChars_of_isSum hsum]
    refine ⟨?_, ?_⟩
    · simpa using ⟨hc.oneLine, by simpa using he.oneLine⟩
    · rw [IsBalanced, openAfter_append, openAfter_append, hopen, Option.bind_some,
        he.balanced.openAfter, Option.bind_some]
      rfl
  | case2 rest hsum ih =>
    have hrest : Inline rest := ⟨fun h => he.oneLine (List.mem_cons_of_mem _ h), he.balanced⟩
    rw [Bool.not_eq_true] at hsum
    rw [scaleChars_minus hsum]
    exact hsign.append (ih hrest)
  | case3 rest hsum =>
    have hdivisor : Inline rest := ⟨fun h => he.oneLine (by simp [h]), he.balanced⟩
    rw [Bool.not_eq_true] at hsum
    rw [scaleChars_reciprocal hsum]
    exact (hc.append hquotient).append hdivisor
  | case4 expression hminus hreciprocal hsum =>
    rw [Bool.not_eq_true] at hsum
    rw [scaleChars_factor hsum hminus hreciprocal]
    exact (hc.append hproduct).append he

theorem inline_scale {expression : String} (h : Inline expression.toList) :
    Inline (scale cotangentName expression).toList := by
  have hname : Inline cotangentName.toList := ⟨by decide, by decide⟩
  rw [scale, String.toList_ofList]
  exact inline_scaleChars hname h

variable {f : Formula} {scalarName : String}

theorem inline_pullback [Template.Engine] (h : f.IsNested scalarName) :
    Inline (f.pullback scalarName).toList := by
  have hcotangents : ∀ text ∈ f.cotangents scalarName, Inline text.toList := by
    intro text ht
    obtain ⟨expression, hmem, rfl⟩ := List.mem_map.1 ht
    exact inline_scale (h.partials expression hmem)
  unfold pullback
  split
  · rename_i only honly
    exact hcotangents only (honly ▸ List.mem_cons_self)
  · have hcommas : '\n' ∉ (Text.commaSeparated (f.cotangents scalarName)).toList :=
      Text.commaSeparated_closed (P := fun text => '\n' ∉ text.toList) (by decide)
        (fun ha hb => not_mem_append (not_mem_append ha (by decide)) hb)
        (fun text ht => (hcotangents text ht).oneLine)
    have hopen : '\n' ∉ ("(" ++ Text.commaSeparated (f.cotangents scalarName)).toList :=
      not_mem_append (by decide) hcommas
    exact ⟨not_mem_append hopen (by decide),
      .parenthesized fun text ht => (hcotangents text ht).balanced⟩

/-! ## Bodies -/

/-- The lines of a body: they are balanced, and behind their margin none looks like a directive. -/
structure IsBody (lines : List String) : Prop where
  balanced : IsBalanced (rows lines)
  unmarked : ∀ line ∈ lines, Unmarked ("        " ++ line)

namespace IsBody

theorem append {a b : List String} (ha : IsBody a) (hb : IsBody b) : IsBody (a ++ b) := by
  refine ⟨ha.balanced.rows_append hb.balanced, ?_⟩
  rw [List.forall_mem_append]
  exact ⟨ha.unmarked, hb.unmarked⟩

theorem of_not_mem {lines : List String} (hbalanced : IsBalanced (rows lines))
    (h : ∀ line ∈ lines, '#' ∉ line.toList) : IsBody lines :=
  ⟨hbalanced, fun line hl => unmarked_of_not_mem (not_mem_append (by decide) (h line hl))⟩

end IsBody

section

variable {returning value result : String}

/-- The layout without bindings. -/
theorem isBody_oneLine (hreturning : openAfter [] returning.toList = some [.parenthesis])
    (hreturningHash : '#' ∉ returning.toList) (hvalue : IsBalanced value.toList)
    (hvalueHash : '#' ∉ value.toList) (hresult : Inline result.toList) :
    IsBody [returning ++ "value: " ++ value ++ ", pullback: \x7b v in " ++ result ++ " \x7d)"] := by
  constructor
  · have hname := openAfter_text_append hreturning
      (rfl : openAfter [.parenthesis] "value: ".toList = some [.parenthesis])
    have hpassed := openAfter_text_append hname (hvalue.openAfter _)
    have hpullback := openAfter_text_append hpassed (rfl : openAfter [.parenthesis]
      ", pullback: \x7b v in ".toList = some [.brace, .parenthesis])
    have hresult' := openAfter_text_append hpullback (hresult.balanced.openAfter _)
    exact IsBalanced.rows (List.forall_mem_singleton.2 (openAfter_text_append hresult' rfl))
  · rw [List.forall_mem_singleton]
    have hassoc : "        " ++ (returning ++ "value: " ++ value ++ ", pullback: \x7b v in " ++
        result ++ " \x7d)") = ("        " ++ returning ++ "value: " ++ value) ++
          ", pullback: \x7b v in " ++ (result ++ " \x7d)") := by
      simp only [String.append_assoc]
    have hfront : '#' ∉ ("        " ++ returning ++ "value: ").toList :=
      not_mem_append (not_mem_append (by decide) hreturningHash) (by decide)
    have hback : '\n' ∉ (result ++ " \x7d)").toList := not_mem_append hresult.oneLine (by decide)
    rw [hassoc]
    exact .of_mark (not_mem_append hfront hvalueHash) hback (by decide) (by decide)
      ⟨'v', by decide, by decide⟩

/-- The layout with bindings. -/
theorem isBody_bound (hreturning : openAfter [] returning.toList = some [.parenthesis])
    (hreturningHash : '#' ∉ returning.toList) (hvalue : IsBalanced value.toList)
    (hvalueHash : '#' ∉ value.toList) (hresult : Inline result.toList)
    {bindings : List (String × String)}
    (hbindings : ∀ binding ∈ bindings, Identifier.accepts binding.1.toList = true ∧
      Inline binding.2.toList) :
    IsBody ([returning, "    value: " ++ value ++ ",", "    pullback: \x7b v in"] ++
      (bindings.map (fun (name, expression) => "        let " ++ name ++ " = " ++ expression) ++
        ["        return " ++ result, "    \x7d", ")"])) := by
  have hbound : ∀ line ∈ bindings.map fun (name, expression) =>
      "        let " ++ name ++ " = " ++ expression,
      IsBalanced line.toList ∧ Unmarked ("        " ++ line) := by
    intro line hl
    obtain ⟨⟨name, expression⟩, hmem, rfl⟩ := List.mem_map.1 hl
    obtain ⟨hname, hexpression⟩ := hbindings _ hmem
    have hlet : IsBalanced "        let ".toList := by decide
    have hequal : IsBalanced " = ".toList := by decide
    have hname' : '#' ∉ name.toList :=
      Identifier.not_mem_of_isTail_eq_false hname (by decide) (by decide)
    have hassoc : "        " ++ ("        let " ++ name ++ " = " ++ expression) =
        ("        " ++ "        let " ++ name) ++ " = " ++ expression := by
      simp only [String.append_assoc]
    have hfront : '#' ∉ ("        " ++ "        let ").toList := by decide
    constructor
    · have hleft := hlet.text_append (Identifier.unbracketed_of_accepts hname).balanced
      exact (hleft.text_append hequal).text_append hexpression.balanced
    · rw [hassoc]
      exact .of_mark (not_mem_append hfront hname') hexpression.oneLine (by decide) (by decide)
        ⟨'=', by decide, by decide⟩
  constructor
  · have hcolon : IsBalanced "    value: ".toList := by decide
    have hcomma : IsBalanced ",".toList := by decide
    have hreturn : IsBalanced "        return ".toList := by decide
    have hpassed : IsBalanced ("    value: " ++ value ++ ",").toList :=
      (hcolon.text_append hvalue).text_append hcomma
    have hresult' : IsBalanced ("        return " ++ result).toList :=
      hreturn.text_append hresult.balanced
    have hlets := IsBalanced.rows fun line hl => (hbound line hl).1
    have hpullback : openAfter [.parenthesis] "    pullback: \x7b v in".toList =
        some [.brace, .parenthesis] := rfl
    have hbrace : openAfter [.brace, .parenthesis] "    \x7d".toList = some [.parenthesis] := rfl
    rw [List.cons_append, List.cons_append, List.cons_append, List.nil_append, IsBalanced,
      openAfter_rows_cons, hreturning, Option.bind_some, openAfter_rows_cons, hpassed.openAfter,
      Option.bind_some, openAfter_rows_cons, hpullback, Option.bind_some, rows_append,
      openAfter_append, hlets.openAfter, Option.bind_some, openAfter_rows_cons, hresult'.openAfter,
      Option.bind_some, openAfter_rows_cons, hbrace, Option.bind_some]
    rfl
  · rw [List.forall_mem_append, List.forall_mem_append]
    refine ⟨?_, fun line hl => (hbound line hl).2, ?_⟩
    · have hvalue' : '#' ∉ ("    value: " ++ value ++ ",").toList :=
        not_mem_append (not_mem_append (by decide) hvalueHash) (by decide)
      simp only [List.forall_mem_cons]
      exact ⟨unmarked_of_not_mem (not_mem_append (by decide) hreturningHash),
        unmarked_of_not_mem (not_mem_append (by decide) hvalue'),
        unmarked_of_not_mem (by decide), by simp⟩
    · have hresult' : Unmarked ("        " ++ ("        return " ++ result)) := by
        rw [← String.append_assoc]
        exact .of_mark (by decide) hresult.oneLine (by decide) (by decide)
          ⟨'r', by decide, by decide⟩
      simp only [List.forall_mem_cons]
      exact ⟨hresult', unmarked_of_not_mem (by decide), unmarked_of_not_mem (by decide), by simp⟩

end

variable [Template.Engine]

theorem isBody_closedFormBody (h : f.IsNested scalarName) (o : Overload) :
    IsBody (f.closedFormBody o scalarName) := by
  have hforward : IsBalanced (o.call false "").toList := o.balanced_call false rfl
  have hforwardHash : '#' ∉ (o.call false "").toList :=
    (SignatureText.call o false).not_mem (by decide)
  have hresult := inline_pullback h
  have hbindings : ∀ binding ∈ f.boundExpressions scalarName,
      Identifier.accepts binding.1.toList = true ∧ Inline binding.2.toList := by
    intro binding hmem
    obtain ⟨source, hsource, rfl⟩ := List.mem_map.1 hmem
    exact h.bindings source hsource
  have hlet : IsBody ["let value = " ++ o.call false ""] := by
    have hequal : IsBalanced "let value = ".toList := by decide
    have hhash : '#' ∉ ("let value = " ++ o.call false "").toList :=
      not_mem_append (by decide) hforwardHash
    exact .of_not_mem (.rows (List.forall_mem_singleton.2 (hequal.text_append hforward)))
      (List.forall_mem_singleton.2 hhash)
  have hnothing : IsBody [] := ⟨rfl, by simp⟩
  have hname : IsBalanced "value".toList := by decide
  have hnameHash : '#' ∉ "value".toList := by decide
  have hopen : openAfter [] "(".toList = some [.parenthesis] := rfl
  have hreturn : openAfter [] "return (".toList = some [.parenthesis] := rfl
  unfold closedFormBody
  cases hbound : f.boundExpressions scalarName with
  | nil =>
    cases f.usesValue with
    | false =>
      exact hnothing.append
        (isBody_oneLine hopen (by decide) hforward hforwardHash hresult)
    | true =>
      exact hlet.append
        (isBody_oneLine hreturn (by decide) hname hnameHash hresult)
  | cons first rest =>
    rw [hbound] at hbindings
    cases f.usesValue with
    | false =>
      have hlist := hnothing.append
        (isBody_bound hopen (by decide) hforward hforwardHash hresult hbindings)
      rw [← List.append_assoc, ← List.append_assoc] at hlist
      exact hlist
    | true =>
      have hlist := hlet.append
        (isBody_bound hreturn (by decide) hname hnameHash hresult hbindings)
      rw [← List.append_assoc, ← List.append_assoc] at hlist
      exact hlist

theorem isBody_body (t : Target) (h : f.kind = .closedForm → f.IsNested t.scalarName)
    (o : Overload) : IsBody (f.body o t) := by
  unfold body
  cases hkind : f.kind with
  | closedForm => exact isBody_closedFormBody (h hkind) o
  | signPiecewise =>
    simp only []
    unfold signPiecewiseBody
    split
    · exact .of_not_mem (by decide) (by decide)
    · exact .of_not_mem (by decide) (by decide)
  | unimplemented =>
    have hfails : IsBody ["fatalError(\"unimplemented\")"] := .of_not_mem (by decide) (by decide)
    exact hfails

end Formula

end Lanewise
