import Lanewise.Proofs.Formula.Gradient
import Lanewise.Proofs.Formula.Pullback
import Lanewise.Proofs.Formula.Validation
import Lanewise.Proofs.Overload.Capture

/-!
# Piecewise bodies

A body fits an overload when it refers only to parameters of the overload, its value is that of the
function, and its pullback has a cotangent for each varying argument. The piecewise bodies are fixed:
they are those of the absolute value, and validation does not look at the overload that a table gives
them to. So a piecewise body fits exactly where the overload has what the body takes for granted. On
a vector this is the absolute value of one argument `x` that is passed by position, since the body
calls it; on a scalar any overload will do that has a parameter `x` and one varying argument, and that
stands for the absolute value of `x`.
-/

noncomputable section

namespace Lanewise

open Swift

/-! ## Names that a text refers to -/

namespace Swift

/-- A word as a name. Members have another name in front of them, and numbers are no names. -/
def nameOf (word : List Char) (isMember : Bool) : List String :=
  if word.head?.any Identifier.isHead && !isMember then [String.ofList word] else []

/-- The names in a text, the start of whose first word has been read. What is called is no name, nor
is a label. -/
def namesAfter (word : List Char) (isMember : Bool) : List Char → List String
  | [] => nameOf word isMember
  | c :: rest =>
    if Identifier.isTail c then namesAfter (word ++ [c]) isMember rest
    else if c = '(' ∨ c = ':' then namesAfter [] false rest
    else nameOf word isMember ++ namesAfter [] (c = '.') rest

/-- The names that a text refers to. -/
def names (text : String) : List String :=
  namesAfter [] false text.toList

end Swift

namespace Derivative

/-- The names that a pullback refers to and does not introduce. -/
def Pullback.names (p : Pullback) : List String :=
  ((p.declarations ++ [p.result]).flatMap Swift.names).filter
    (· ∉ p.cotangent :: p.declarations.map firstWord)

/-- The names that a value and its pullback refer to. -/
def Differential.names (d : Differential) : List String :=
  Swift.names d.value ++ d.pullback.names

namespace Body

/-- The names that a body refers to and does not introduce. -/
def names : Body → List String
  | returns declaration d =>
    (declaration.toList.flatMap Swift.names ++ d.names).filter
      (· ∉ declaration.toList.map firstWord)
  | chooses condition yes no => Swift.names condition ++ yes.names ++ no.names

/-- What the pullbacks of a body return. -/
def results : Body → List String
  | returns _ d => [d.pullback.result]
  | chooses _ yes no => [yes.pullback.result, no.pullback.result]

/-- The two sides of a condition, of which the left one has to be less. -/
def sides? (condition : String) : Option (String × String) := do
  let left ← (condition.toList.takeWhile (· ≠ '<')).dropSuffix? [' ']
  let right ← (condition.toList.dropWhile (· ≠ '<')).dropPrefix? "< ".toList
  return (String.ofList left, String.ofList right)

open Classical in
/-- The real number that a body gives as the value. -/
def value? (i : Expression.Interpretation PartialReal) : Body → Option ℝ
  | returns declaration d => Formula.valueOfText? i (forwardCall declaration d)
  | chooses condition yes no => do
    let (left, right) ← sides? condition
    let a ← Formula.valueOfText? i left
    let b ← Formula.valueOfText? i right
    if a < b then Formula.valueOfText? i yes.value else Formula.valueOfText? i no.value

/-- The arguments of a body over the reals, under the words that stand for them. -/
def arguments (o : Overload) (input : String → ℝ) : List (String × ℝ) :=
  o.arguments.map fun a => (firstWord a.name.text, input a.name.text)

/-- A pullback of an overload returns as many cotangents as its type says. -/
def ReturnsAnnounced (o : Overload) (t : Target) (result : String) : Prop :=
  ∃ cotangents types, components? o.arity result = some cotangents ∧
    components? o.arity (o.cotangentType t.typeName) = some types ∧
    cotangents.length = types.length

/-- A body fits an overload that stands for a function of real numbers. On a vector the value is the
call of the function itself, lane by lane; on a scalar it is what the function gives. -/
structure Fits (b : Body) (o : Overload) (t : Target) (F : RealFunction) : Prop where
  /-- The body refers only to parameters that the registration declares. -/
  names : ∀ name ∈ b.names,
    name ∈ (Signature.parameterNames (Derivative.head o t.typeName)).map firstWord
  value : if t.isVector then ∃ declaration d, b = .returns declaration d ∧
      forwardCall declaration d = o.call false ""
    else ∀ input, b.value? (Formula.realReading t.scalarName (arguments o input)) =
      some (F.value input)
  cotangents : ∀ result ∈ b.results, ReturnsAnnounced o t result

/-! ## The bodies of the absolute value -/

/-- The absolute value on a vector. -/
def absoluteOnVector : Body :=
  .returns none ⟨"abs(x)", "v", [], "v.replacing(with: -v, where: x .< .zero)"⟩

/-- The absolute value on a scalar. -/
def absoluteOnScalar : Body :=
  .chooses "x < 0" ⟨"-x", "v", [], ".zero - v"⟩ ⟨"x", "v", [], "v"⟩

theorem ofLines?_signPiecewiseBody (t : Target) :
    Body.ofLines? (Formula.signPiecewiseBody t) =
      some (if t.isVector then absoluteOnVector else absoluteOnScalar) := by
  cases t <;> rfl

theorem names_absoluteOnVector : absoluteOnVector.names = ["x", "x"] := by
  decide

theorem names_absoluteOnScalar : absoluteOnScalar.names = ["x", "x", "x"] := by
  decide

variable {o : Overload} {t : Target} {F : RealFunction}

theorem map_firstWord_parameterNames (o : Overload) (t : Target) :
    (Signature.parameterNames (Derivative.head o t.typeName)).map firstWord =
      o.arguments.map fun a => firstWord a.name.text := by
  rw [o.parameterNames_head, List.map_map]
  rfl

/-- A text that shows one cotangent without parentheses is right for one varying argument only. -/
theorem returnsAnnounced_iff {result : String} (hcomponent : isComponent 0 result.toList = true)
    (hopen : result.toList.head? ≠ some '(') : ReturnsAnnounced o t result ↔ o.arity = 1 := by
  constructor
  · rintro ⟨cotangents, -, hread, -⟩
    by_contra harity
    have hparenthesis : result.toList.dropPrefix? ['('] = none := by
      cases hresult : result.toList with
      | nil => rfl
      | cons c rest =>
        rw [hresult] at hopen
        have hc : c ≠ '(' := fun h => hopen (congrArg some h)
        simp [List.dropPrefix?, hc]
    rw [components?, if_neg harity, between?, hparenthesis] at hread
    cases hread
  · intro harity
    have htypes := o.components?_cotangentType t
    refine ⟨[result], _, ?_, htypes, ?_⟩
    · rw [harity]
      exact components?_one hcomponent
    · rw [List.length_map]
      exact harity.symm

theorem results_ne_nil (b : Body) : b.results ≠ [] := by
  cases b with
  | returns _ d => exact List.cons_ne_nil _ _
  | chooses _ yes no => exact List.cons_ne_nil _ _

/-- Pullbacks that show one cotangent without parentheses are right for one varying argument only. -/
theorem forall_results_iff {b : Body} (hshown : ∀ result ∈ b.results,
      isComponent 0 result.toList = true ∧ result.toList.head? ≠ some '(') :
    (∀ result ∈ b.results, ReturnsAnnounced o t result) ↔ o.arity = 1 := by
  constructor
  · intro h
    obtain ⟨result, hmem⟩ := List.exists_mem_of_ne_nil _ b.results_ne_nil
    obtain ⟨hcomponent, hopen⟩ := hshown result hmem
    exact (returnsAnnounced_iff hcomponent hopen).1 (h result hmem)
  · intro harity result hmem
    obtain ⟨hcomponent, hopen⟩ := hshown result hmem
    exact (returnsAnnounced_iff hcomponent hopen).2 harity

theorem forall_results_absoluteOnScalar :
    ∀ result ∈ absoluteOnScalar.results,
      isComponent 0 result.toList = true ∧ result.toList.head? ≠ some '(' :=
  List.forall_mem_cons.2 ⟨⟨rfl, by decide⟩, List.forall_mem_singleton.2 ⟨rfl, by decide⟩⟩

theorem forall_results_absoluteOnVector :
    ∀ result ∈ absoluteOnVector.results,
      isComponent 0 result.toList = true ∧ result.toList.head? ≠ some '(' :=
  List.forall_mem_singleton.2 ⟨rfl, by decide⟩

/-- The value of the first argument that has a word for its name. -/
theorem lookup_arguments (o : Overload) (input : String → ℝ) (word : String) :
    (arguments o input).lookup word =
      (o.arguments.find? fun a => firstWord a.name.text = word).map fun a => input a.name.text := by
  unfold arguments
  induction o.arguments with
  | nil => rfl
  | cons a rest ih =>
    rw [List.map_cons, List.lookup_cons, List.find?_cons, ih]
    by_cases h : firstWord a.name.text = word
    · simp [h]
    · have hword : (word == firstWord a.name.text) = false := beq_false_of_ne (Ne.symm h)
      simp [h, hword]

/-- On a scalar the body takes the absolute value of what is called `x`. -/
theorem value?_absoluteOnScalar (scalarName : String) (scope : List (String × ℝ)) :
    absoluteOnScalar.value? (Formula.realReading scalarName scope) =
      (scope.lookup "x").map fun x => |x| := by
  have hsides : sides? "x < 0" = some ("x", "0") := rfl
  have hx : Formula.valueOfText? (Formula.realReading scalarName scope) "x" = scope.lookup "x" := by
    show ((scope.lookup "x").map PartialReal.of).bind PartialReal.value? = _
    cases scope.lookup "x" <;> simp
  have hminus : Formula.valueOfText? (Formula.realReading scalarName scope) "-x" =
      (scope.lookup "x").map (- ·) := by
    show (((scope.lookup "x").map PartialReal.of).map (- ·)).bind PartialReal.value? = _
    cases scope.lookup "x" <;> simp
  have hzero : Formula.valueOfText? (Formula.realReading scalarName scope) "0" =
      some ((0 : ℕ) : ℝ) := by
    show (PartialReal.of (0 : ℕ)).value? = _
    simp
  rw [absoluteOnScalar, value?, hsides]
  simp only [Option.bind_eq_bind, Option.bind_some, hx, hminus, hzero, Nat.cast_zero]
  cases scope.lookup "x" with
  | none => rfl
  | some x =>
    rw [Option.bind_some, Option.map_some, Option.map_some]
    split
    · rename_i hneg
      rw [abs_of_neg hneg]
    · rename_i hpos
      rw [abs_of_nonneg (not_lt.1 hpos)]

/-- On a scalar the body fits every absolute value of a parameter `x`, with one varying argument. -/
theorem absoluteOnScalar_fits_iff (ht : t.isVector = false) :
    absoluteOnScalar.Fits o t F ↔ o.arity = 1 ∧
      ∃ a, o.arguments.find? (fun a => firstWord a.name.text = "x") = some a ∧
        ∀ input, F.value input = |input a.name.text| := by
  have hvalue : (∀ input, absoluteOnScalar.value?
      (Formula.realReading t.scalarName (arguments o input)) = some (F.value input)) ↔
        ∃ a, o.arguments.find? (fun a => firstWord a.name.text = "x") = some a ∧
          ∀ input, F.value input = |input a.name.text| := by
    simp only [value?_absoluteOnScalar, lookup_arguments, Option.map_map]
    cases hfind : o.arguments.find? fun a => firstWord a.name.text = "x" with
    | none => simp
    | some a => simp [eq_comm]
  have hcotangents : (∀ result ∈ absoluteOnScalar.results, ReturnsAnnounced o t result) ↔
      o.arity = 1 :=
    forall_results_iff forall_results_absoluteOnScalar
  constructor
  · intro h
    refine ⟨hcotangents.1 h.cotangents, hvalue.1 ?_⟩
    simpa [ht] using h.value
  · rintro ⟨harity, a, hfind, habs⟩
    have hmem : "x" ∈ o.arguments.map fun a => firstWord a.name.text :=
      List.mem_map.2 ⟨a, List.mem_of_find?_eq_some hfind, by simpa using List.find?_some hfind⟩
    constructor
    · rw [map_firstWord_parameterNames, names_absoluteOnScalar]
      simpa using hmem
    · rw [ht]
      exact hvalue.2 ⟨a, hfind, habs⟩
    · exact hcotangents.2 harity

/-- A call that passes one argument `x` by position. -/
theorem exists_argument_of_passed
    (h : o.arguments.map (·.passed false) = [⟨none, "x", false⟩]) :
    ∃ a, o.arguments = [a] ∧ a.isPositional = true ∧ a.name.text = "x" := by
  obtain ⟨a, harguments, hpassed⟩ := List.map_eq_singleton_iff.1 h
  have hlabel : (if a.isPositional then none else some a.externalName) = none :=
    congrArg Passed.label hpassed
  refine ⟨a, harguments, ?_, congrArg Passed.name hpassed⟩
  by_contra hpositional
  rw [if_neg hpositional] at hlabel
  cases hlabel

/-- The only argument of an overload is a varying one. -/
theorem arity_of_singleton {a : Argument} (h : o.arguments = [a]) : o.arity = 1 := by
  obtain ⟨first, hfirst, hvarying⟩ := o.head_varying
  rw [h, List.head?_cons] at hfirst
  obtain rfl : a = first := Option.some.inj hfirst
  simp [Overload.arity, Overload.varying, h, Argument.isVarying, Argument.isFixed, hvarying]

/-- The call in the body is the call of the overload only for the absolute value of `x`. -/
theorem call_eq_absolute_iff :
    o.call false "" = "abs(x)" ↔ o.name.text = "abs" ∧
      o.arguments.map (·.passed false) = [⟨none, "x", false⟩] := by
  constructor
  · intro hcall
    have hname : Passed.callee (o.call false "") = "" ++ o.name.text := o.callee_call false
    have harguments : Passed.ofCall (o.call false "") = o.arguments.map (·.passed false) :=
      o.ofCall_call false
    rw [hcall] at hname harguments
    rw [String.empty_append] at hname
    exact ⟨hname.symm, harguments.symm⟩
  · rintro ⟨hname, hpassed⟩
    obtain ⟨a, harguments, hpositional, hx⟩ := exists_argument_of_passed hpassed
    have hpiece : a.callPiece false = "x" := by
      rw [Argument.callPiece, if_pos hpositional]
      exact hx
    rw [Overload.call, Overload.callArguments, harguments, hname, List.map_singleton, hpiece]
    rfl

/-- On a vector the body fits the function `abs` of one argument `x` that is passed by position. -/
theorem absoluteOnVector_fits_iff (ht : t.isVector = true) :
    absoluteOnVector.Fits o t F ↔ o.name.text = "abs" ∧
      o.arguments.map (·.passed false) = [⟨none, "x", false⟩] := by
  have hvalue : (∃ declaration d, absoluteOnVector = .returns declaration d ∧
      forwardCall declaration d = o.call false "") ↔ o.call false "" = "abs(x)" := by
    constructor
    · rintro ⟨declaration, d, hbody, hcall⟩
      cases hbody
      exact hcall.symm
    · intro hcall
      exact ⟨_, _, rfl, hcall.symm⟩
  constructor
  · intro h
    exact call_eq_absolute_iff.1 (hvalue.1 (by simpa [ht] using h.value))
  · intro h
    obtain ⟨a, harguments, -, hx⟩ := exists_argument_of_passed h.2
    have hmem : "x" ∈ o.arguments.map fun a => firstWord a.name.text := by
      rw [harguments, List.map_singleton, hx]
      exact List.mem_singleton_self _
    constructor
    · rw [map_firstWord_parameterNames, names_absoluteOnVector]
      simpa using hmem
    · rw [ht]
      exact hvalue.2 (call_eq_absolute_iff.2 h)
    · exact (forall_results_iff forall_results_absoluteOnVector).2 (arity_of_singleton harguments)

end Body

/-- A piecewise body fits exactly the absolute value. If a table is valid for a catalog and a function
of the catalog has a piecewise formula, then the body of its registration is read back. On a vector it
fits the function exactly when this is the function `abs` of one argument `x` that is passed by
position. On a scalar it fits exactly when one argument varies, a parameter is called `x`, and the
function is the absolute value of that parameter. -/
theorem signPiecewise_fits_iff [Template.Engine] {c : Catalog} {formulas : Formula.Table}
    (hvalid : formulas.validate c = .ok ()) {o : Overload} (ho : o ∈ c.overloads)
    (hkind : ∀ f, formulas.find o = .ok f → f.kind = .signPiecewise) (t : Target)
    (F : RealFunction) :
    ∃ lines b, body formulas t o = .ok lines ∧ Body.ofLines? lines = some b ∧
      (t.isVector = true → (b.Fits o t F ↔ o.name.text = "abs" ∧
        o.arguments.map (·.passed false) = [⟨none, "x", false⟩])) ∧
      (t.isVector = false → (b.Fits o t F ↔ o.arity = 1 ∧
        ∃ a, o.arguments.find? (fun a => firstWord a.name.text = "x") = some a ∧
          ∀ input, F.value input = |input a.name.text|)) := by
  obtain ⟨f, hf⟩ := ((formulas.validate_eq_ok_iff c).1 hvalid).exists_find_eq_ok ho
  have hlines : body formulas t o = .ok (Formula.signPiecewiseBody t) := by
    rw [body, hf]
    show Except.ok (f.body o t) = _
    rw [Formula.body, hkind f hf]
  refine ⟨_, _, hlines, Body.ofLines?_signPiecewiseBody t, fun ht => ?_, fun ht => ?_⟩
  · rw [if_pos ht]
    exact Body.absoluteOnVector_fits_iff ht
  · rw [if_neg (by simp [ht])]
    exact Body.absoluteOnScalar_fits_iff ht

/-- The absolute value of the standard catalog has a body that fits, on vectors and on scalars. -/
theorem signPiecewise_fits_abs :
    let o := Catalog.Standard.unary (.literal "abs") (some (.literal "simd_abs"))
    let F := RealFunction.unary fun x => |x|
    (Formula.Table.standard.validate .standard = .ok () ∧ o ∈ Catalog.standard.overloads ∧
      ∀ f, Formula.Table.standard.find o = .ok f → f.kind = .signPiecewise) ∧
    (∃ lines b, body .standard (.vector .float 4) o = .ok lines ∧ Body.ofLines? lines = some b ∧
      b.Fits o (.vector .float 4) F) ∧
    ∃ lines b, body .standard (.scalar .double) o = .ok lines ∧ Body.ofLines? lines = some b ∧
      b.Fits o (.scalar .double) F := by
  intro o F
  have hvalid : Formula.Table.standard.validate .standard = .ok () := by decide +kernel
  have ho : o ∈ Catalog.standard.overloads :=
    List.mem_append_right _ (List.mem_append_right _ List.mem_cons_self)
  have hkind : ∀ f, Formula.Table.standard.find o = .ok f → f.kind = .signPiecewise := by
    intro f hf
    have hfind : Formula.Table.standard.find o = .ok { kind := .signPiecewise } := by rfl
    rw [hfind] at hf
    cases hf
    rfl
  refine ⟨⟨hvalid, ho, hkind⟩, ?_, ?_⟩
  · obtain ⟨lines, b, hlines, hread, hvector, -⟩ :=
      signPiecewise_fits_iff hvalid ho hkind (.vector .float 4) F
    exact ⟨lines, b, hlines, hread, (hvector rfl).2 ⟨rfl, rfl⟩⟩
  · obtain ⟨lines, b, hlines, hread, -, hscalar⟩ :=
      signPiecewise_fits_iff hvalid ho hkind (.scalar .double) F
    exact ⟨lines, b, hlines, hread, (hscalar rfl).2 ⟨rfl, Catalog.Standard.x, rfl, fun _ => rfl⟩⟩

/-- A function of two arguments. -/
def twoArguments : Overload :=
  Catalog.Standard.binary (.literal "blend") none (Catalog.Standard.argument (.literal "left"))
    (Catalog.Standard.argument (.literal "right"))

/-- A catalog with this function only. -/
def twoArgumentsCatalog : Catalog where
  sections := [⟨"Functions", "Functions", [twoArguments]⟩]
  keys_nodup := by decide

/-- A table that gives a piecewise formula to this function. -/
def twoArgumentsTable : Formula.Table where
  rows := [("blend(_:_:)", { kind := .signPiecewise })]
  keys_nodup := by decide

/-- A valid table can give a piecewise formula to a function that the body does not fit. -/
theorem twoArguments_not_fits :
    twoArgumentsTable.validate twoArgumentsCatalog = .ok () ∧
    twoArguments ∈ twoArgumentsCatalog.overloads ∧
    (∃ f, twoArgumentsTable.find twoArguments = .ok f ∧ f.kind = .signPiecewise) ∧
    ∀ t : Target, ∃ lines b, body twoArgumentsTable t twoArguments = .ok lines ∧
      Body.ofLines? lines = some b ∧ ∀ F, ¬ b.Fits twoArguments t F := by
  have hfind : twoArgumentsTable.find twoArguments = .ok { kind := .signPiecewise } := by rfl
  refine ⟨by decide +kernel, by simp [twoArgumentsCatalog, Catalog.overloads], ⟨_, hfind, rfl⟩,
    fun t => ⟨_, _, ?_, Body.ofLines?_signPiecewiseBody t, fun F => ?_⟩⟩
  · rw [body, hfind]
    rfl
  · by_cases ht : t.isVector = true
    · rw [if_pos ht, Body.absoluteOnVector_fits_iff ht]
      rintro ⟨hname, -⟩
      exact absurd hname (by decide)
    · rw [if_neg ht, Body.absoluteOnScalar_fits_iff (by simpa using ht)]
      rintro ⟨harity, -⟩
      exact absurd harity (by decide)

end Derivative

end Lanewise

end
