import Lanewise.Catalog.Standard
import Lanewise.Implementation
import Lanewise.Proofs.Derivative.Body
import Lanewise.Proofs.Overload.Call
import Lanewise.Template.Standard

/-!
# What the names in a call refer to

The body of a function introduces names of its own: a loop has an accumulator and a lane index, a
registration may declare the value, names a cotangent and binds what its formula asks for. An
argument in a call refers to the parameter of that name unless such a name hides it. All names are
read from the texts: those of the parameters from the declaration, those of the arguments from the
call, the others from the body.
-/

namespace Lanewise

open Swift

/-! ## Scopes -/

namespace Swift

/-- Where a name comes from. -/
inductive Origin where
  /-- The declaration of the function. -/
  | parameter
  /-- The body of the function. -/
  | body
deriving DecidableEq

/-- The word that a text starts with. -/
def firstWord (text : String) : String :=
  String.ofList (text.toList.takeWhile Identifier.isTail)

/-- What follows the first word does not matter. -/
theorem firstWord_append (text : String) {rest : String}
    (hrest : rest.toList.head?.any Identifier.isTail = false) :
    firstWord (text ++ rest) = firstWord text := by
  rw [firstWord, String.toList_append, takeWhile_append_of_head? hrest, firstWord]

/-- The declarations around a place, the innermost first. -/
abbrev Scope := List (String × Origin)

/-- The scope of a place in a body, behind some declarations of the body. Each declares the word that
it starts with. -/
def Scope.inBody (declarations parameters : List String) : Scope :=
  declarations.map (firstWord ·, .body) ++ parameters.map (firstWord ·, .parameter)

/-- Where a name comes from: the innermost declaration hides the others. -/
def Scope.origin? (scope : Scope) (name : String) : Option Origin :=
  scope.lookup (firstWord name)

theorem lookup_map_const (words : List String) (origin : Origin) (word : String) :
    (words.map (firstWord ·, origin)).lookup word =
      if word ∈ words.map firstWord then some origin else none := by
  induction words with
  | nil => rfl
  | cons first rest ih =>
    rw [List.map_cons, List.lookup_cons, ih, List.map_cons]
    by_cases h : word = firstWord first
    · rw [h, beq_self_eq_true, if_pos List.mem_cons_self]
    · simp only [beq_false_of_ne h, List.mem_cons, or_iff_right h]

/-- A parameter is seen unless a declaration of the body has the same name. -/
theorem Scope.origin?_inBody_eq_parameter_iff {declarations parameters : List String} {name : String}
    (hname : name ∈ parameters) :
    (Scope.inBody declarations parameters).origin? name = some .parameter ↔
      ∀ declaration ∈ declarations, firstWord name ≠ firstWord declaration := by
  have hparameter : firstWord name ∈ parameters.map firstWord := List.mem_map_of_mem hname
  have hmem : firstWord name ∈ declarations.map firstWord ↔
      ∃ declaration ∈ declarations, firstWord declaration = firstWord name := List.mem_map
  rw [origin?, inBody, List.lookup_append, lookup_map_const, lookup_map_const, if_pos hparameter]
  by_cases h : firstWord name ∈ declarations.map firstWord
  · obtain ⟨declaration, hdeclaration, heq⟩ := hmem.1 h
    rw [if_pos h]
    exact iff_of_false (by simp) fun hall => hall declaration hdeclaration heq.symm
  · rw [if_neg h]
    refine iff_of_true rfl fun declaration hdeclaration heq => ?_
    exact h (hmem.2 ⟨declaration, hdeclaration, heq.symm⟩)

end Swift

/-! ## Loops -/

/-- The loop of a function over the lanes. -/
structure Loop where
  /-- The declaration of the function. -/
  declaration : String
  accumulator : String
  lane : String
  /-- What is assigned to the lane of the accumulator. -/
  call : String
deriving DecidableEq

/-- The loop in the lines of a function. -/
def Loop.ofLines? : List String → Option Loop
  | [_, declaration, accumulator, lane, assignment, _, _, _] => do
    let declaration ← inside? "    " " \x7b" declaration
    let accumulator ← inside? "        var " " = Self()" accumulator
    let lane ← inside? "        for " (" in " ++ accumulator ++ ".indices \x7b") lane
    let call ← behind? ("            " ++ accumulator ++ "[" ++ lane ++ "] = ") assignment
    return { declaration, accumulator, lane, call }
  | _ => none

namespace Overload

theorem ofLines?_elementWiseLines (o : Overload) (typeName : String) :
    Loop.ofLines? (o.elementWiseLines typeName) =
      some ⟨o.declaration typeName, "v", "i", o.call true "."⟩ := by
  have haccumulator : inside? "        var " " = Self()" "        var v = Self()" = some "v" :=
    inside?_append "        var " "v" " = Self()"
  have hlane : inside? "        for " (" in " ++ "v" ++ ".indices \x7b")
      "        for i in v.indices \x7b" = some "i" :=
    inside?_append "        for " "i" " in v.indices \x7b"
  have hassign : "            " ++ "v" ++ "[" ++ "i" ++ "] = " = "            v[i] = " := rfl
  show Loop.ofLines? ["    @_transparent", "    " ++ o.declaration typeName ++ " \x7b",
    "        var v = Self()", "        for i in v.indices \x7b",
    "            v[i] = " ++ o.call true ".", "        \x7d", "        return v", "    \x7d"] = _
  rw [Loop.ofLines?]
  simp only [inside?_append, haccumulator, hlane, hassign, behind?_append, Option.bind_eq_bind,
    Option.bind_some]
  rfl

end Overload

/-! ## Registrations -/

namespace Derivative

/-- The forward call of a body: what it declares as the value, or else the value itself. -/
def forwardCall (declaration : Option String) (d : Differential) : String :=
  (declaration.bind (behind? "value = ")).getD d.value

/-- What a body declares around the result of its pullback, the innermost first. -/
def declarationsAround (declaration : Option String) (d : Differential) : List String :=
  d.pullback.declarations.reverse ++ d.pullback.cotangent :: declaration.toList

end Derivative

open Lanewise.Derivative

namespace Formula

variable [Template.Engine]
variable {f : Formula} {o : Overload} {scalarName : String}

theorem forwardCall_differential (f : Formula) (o : Overload) (scalarName : String) :
    forwardCall (f.declaration? o) (f.differential o scalarName) = o.call false "" := by
  unfold forwardCall declaration? differential
  split
  · rw [Option.bind_some, behind?_append, Option.getD_some]
  · rfl

/-- Around the result of a pullback the names are those of the cotangent, of the value if it is
declared, and of the bindings. -/
theorem forall_declarationsAround_iff (name : String) :
    (∀ declaration ∈ declarationsAround (f.declaration? o) (f.differential o scalarName),
        firstWord name ≠ firstWord declaration) ↔
      firstWord name ≠ "v" ∧ (f.usesValue = true → firstWord name ≠ "value") ∧
        ∀ binding ∈ f.bindings, firstWord name ≠ firstWord binding.1 := by
  have hequals : ∀ expression : String,
      (" = " ++ expression).toList.head?.any Identifier.isTail = false := by
    intro expression
    rw [String.toList_append]
    rfl
  have hbinding : ∀ binding : String × String, firstWord (binding.1 ++ " = " ++
      instantiate scalarName binding.2) = firstWord binding.1 := by
    intro binding
    rw [String.append_assoc]
    exact firstWord_append binding.1 (hequals _)
  have hcotangent : firstWord (f.differential o scalarName).pullback.cotangent = "v" := by
    show firstWord "v" = "v"
    rfl
  have hvalue : firstWord ("value = " ++ o.call false "") = "value" := by
    have hname : "value = " = "value" ++ " = " := rfl
    rw [hname, String.append_assoc, firstWord_append "value" (hequals _)]
    rfl
  have hdeclared : (∀ declaration ∈ (f.declaration? o).toList, firstWord name ≠ firstWord declaration) ↔
      (f.usesValue = true → firstWord name ≠ "value") := by
    unfold declaration?
    split
    · rename_i huses
      rw [Option.toList_some, List.forall_mem_singleton, hvalue]
      exact ⟨fun h _ => h, fun h => h huses⟩
    · rename_i huses
      exact iff_of_true nofun fun h => absurd h huses
  have hbindings : (∀ declaration ∈ (f.differential o scalarName).pullback.declarations.reverse,
      firstWord name ≠ firstWord declaration) ↔
        ∀ binding ∈ f.bindings, firstWord name ≠ firstWord binding.1 := by
    simp only [List.mem_reverse, differential, boundExpressions, List.map_map, List.forall_mem_map,
      Function.comp_apply, hbinding]
  rw [declarationsAround, List.forall_mem_append, List.forall_mem_cons, hbindings,
    hdeclared, hcotangent]
  exact and_rotate

end Formula

namespace Overload

/-- The arguments of a call come from parameters when no declaration around it has the name of one. -/
theorem forall_ofCall_iff (o : Overload) {call : String} {indexed : Bool}
    (hcall : Passed.ofCall call = o.arguments.map (·.passed indexed)) (declarations : List String) :
    (∀ argument ∈ Passed.ofCall call,
        (Scope.inBody declarations (o.arguments.map (·.name.text))).origin? argument.name =
          some .parameter) ↔
      ∀ a ∈ o.arguments, ∀ declaration ∈ declarations,
        firstWord a.name.text ≠ firstWord declaration := by
  rw [hcall, List.forall_mem_map]
  exact forall₂_congr fun a ha => Scope.origin?_inBody_eq_parameter_iff (List.mem_map_of_mem ha)

/-- What the arguments in calls refer to. In the loop over the lanes they come from the parameters
exactly when no argument is named like the accumulator or the lane index. In the body of a closed form
the arguments of the forward call always come from the parameters. Around the result of the pullback
they still do exactly when no argument is named like the cotangent, like the value where that is
declared, or like a binding. -/
theorem arguments_come_from_parameters_iff [Template.Engine] (o : Overload) (t : Target) :
    (∃ loop, Loop.ofLines? (o.elementWiseLines t.typeName) = some loop ∧
      Passed.ofCall loop.call = o.arguments.map (·.passed true) ∧
      ((∀ argument ∈ Passed.ofCall loop.call,
          (Scope.inBody [loop.lane, loop.accumulator]
            (Signature.parameterNames loop.declaration)).origin? argument.name = some .parameter) ↔
        ∀ a ∈ o.arguments, firstWord a.name.text ≠ "i" ∧ firstWord a.name.text ≠ "v")) ∧
    ∀ f : Formula, ∃ declaration differential,
      Body.ofLines? (f.closedFormBody o t.scalarName) = some (.returns declaration differential) ∧
      forwardCall declaration differential = o.call false "" ∧
      (∀ argument ∈ Passed.ofCall (forwardCall declaration differential),
        (Scope.inBody [] (Signature.parameterNames (Derivative.head o t.typeName))).origin?
          argument.name = some .parameter) ∧
      ((∀ argument ∈ Passed.ofCall (forwardCall declaration differential),
          (Scope.inBody (declarationsAround declaration differential)
            (Signature.parameterNames (Derivative.head o t.typeName))).origin? argument.name =
              some .parameter) ↔
        ∀ a ∈ o.arguments, firstWord a.name.text ≠ "v" ∧
          (f.usesValue = true → firstWord a.name.text ≠ "value") ∧
          ∀ binding ∈ f.bindings, firstWord a.name.text ≠ firstWord binding.1) := by
  have hplain : Passed.ofCall (o.call false "") = o.arguments.map (·.passed false) :=
    o.ofCall_call false
  constructor
  · have hindexed : Passed.ofCall (o.call true ".") = o.arguments.map (·.passed true) :=
      o.ofCall_call true
    refine ⟨_, o.ofLines?_elementWiseLines t.typeName, hindexed, ?_⟩
    have hlane : firstWord "i" = "i" := rfl
    have haccumulator : firstWord "v" = "v" := rfl
    rw [parameterNames_declaration, o.forall_ofCall_iff hindexed]
    refine forall₂_congr fun a _ => ?_
    rw [List.forall_mem_cons, List.forall_mem_singleton, hlane, haccumulator]
  · intro f
    refine ⟨_, _, f.ofLines?_closedFormBody o t.scalarName,
      f.forwardCall_differential o t.scalarName, ?_, ?_⟩
    · rw [f.forwardCall_differential, parameterNames_head, o.forall_ofCall_iff hplain]
      exact fun _ _ => List.forall_mem_nil _
    · rw [f.forwardCall_differential, parameterNames_head, o.forall_ofCall_iff hplain]
      exact forall₂_congr fun a _ => Formula.forall_declarationsAround_iff a.name.text

/-- A function of one argument that has the name of the accumulator, of the lane index or of the
cotangent. -/
def captured (name : Identifier) : Overload :=
  Catalog.Standard.unary (.literal "ramp") none (Catalog.Standard.argument name)

/-- In the loop the argument is the accumulator, and in the pullback it is the cotangent. -/
theorem captured_not_from_parameters :
    let o := captured (.literal "v")
    let t := Target.vector .float 4
    (∃ loop, Loop.ofLines? (o.elementWiseLines t.typeName) = some loop ∧ loop.call = ".ramp(v[i])" ∧
      ¬ ∀ argument ∈ Passed.ofCall loop.call,
        (Scope.inBody [loop.lane, loop.accumulator]
          (Signature.parameterNames loop.declaration)).origin? argument.name = some .parameter) ∧
    ∃ declaration differential,
      Body.ofLines? ((Formula.closed ["ramp(v)"]).closedFormBody o t.scalarName) =
        some (.returns declaration differential) ∧
      forwardCall declaration differential = "ramp(v)" ∧
      ¬ ∀ argument ∈ Passed.ofCall (forwardCall declaration differential),
        (Scope.inBody (declarationsAround declaration differential)
          (Signature.parameterNames (Derivative.head o t.typeName))).origin? argument.name =
            some .parameter := by
  intro o t
  have hv : firstWord "v" = "v" := rfl
  constructor
  · have hindexed : Passed.ofCall (o.call true ".") = o.arguments.map (·.passed true) :=
      o.ofCall_call true
    refine ⟨_, o.ofLines?_elementWiseLines t.typeName, rfl, ?_⟩
    rw [parameterNames_declaration, o.forall_ofCall_iff hindexed]
    intro h
    exact h _ List.mem_cons_self "v" (by simp) rfl
  · have hplain : Passed.ofCall (o.call false "") = o.arguments.map (·.passed false) :=
      o.ofCall_call false
    have hforward := (Formula.closed ["ramp(v)"]).forwardCall_differential o t.scalarName
    refine ⟨_, _, Formula.ofLines?_closedFormBody _ o t.scalarName, hforward.trans rfl, ?_⟩
    rw [hforward, parameterNames_head, o.forall_ofCall_iff hplain]
    intro h
    exact h _ List.mem_cons_self "v" (List.mem_append_right _ List.mem_cons_self) rfl

end Overload

end Lanewise
