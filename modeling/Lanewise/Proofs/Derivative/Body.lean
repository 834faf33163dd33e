import Lanewise.Derivative
import Lanewise.Proofs.Overload.Declaration
import Lanewise.Proofs.Swift.Component

/-!
# Reading the bodies of registrations

The body of a registration returns a value together with a pullback, either on one line or, when the
pullback declares names, on several. A name for the value may be declared before. The body for the
sign of an argument chooses between two such pairs. All of this is read back from the lines of a body;
a pullback opens at the first brace, since no value has one.
-/

namespace Lanewise

open Swift

namespace Derivative

/-- What a pullback does with a cotangent. -/
structure Pullback where
  /-- The name of the cotangent. -/
  cotangent : String
  /-- What stands behind `let` in each declaration, in order. -/
  declarations : List String
  result : String
deriving DecidableEq

/-- A value with its pullback. -/
structure Differential where
  value : String
  pullback : Pullback
deriving DecidableEq

/-- The body of a registration. -/
inductive Body where
  /-- A value with its pullback, behind a declaration if there is one. -/
  | returns (declaration : Option String) (differential : Differential)
  /-- One of two, by a condition. -/
  | chooses (condition : String) (yes no : Differential)
deriving DecidableEq

/-! ## Reading -/

namespace Differential

/-- The differential on a line. -/
def ofLine? (line : String) : Option Differential := do
  let inside ← between? "(value: ".toList " \x7d)".toList line.toList
  let value ← (inside.takeWhile (· ≠ '\x7b')).dropSuffix? ", pullback: ".toList
  let closure ← (inside.dropWhile (· ≠ '\x7b')).dropPrefix? "\x7b ".toList
  let result ← (closure.dropWhile Identifier.isTail).dropPrefix? " in ".toList
  return {
    value := String.ofList value
    pullback := {
      cotangent := String.ofList (closure.takeWhile Identifier.isTail)
      declarations := []
      result := String.ofList result } }

/-- The differential on some lines. -/
def ofLines? : List String → Option Differential
  | [line] => ofLine? line
  | "(" :: value :: closure :: rest => do
    let value ← inside? "    value: " "," value
    let cotangent ← inside? "    pullback: \x7b " " in" closure
    let inner ← rest.dropSuffix? ["    \x7d", ")"]
    let result ← inner.getLast?.bind (behind? "        return ")
    let declarations ← inner.dropLast.mapM (behind? "        let ")
    return { value, pullback := { cotangent, declarations, result } }
  | _ => none

end Differential

namespace Body

/-- The choice on a line. The first brace that closes is that of the first differential. -/
def choice? (line : String) : Option Body := do
  let condition ← (line.toList.takeWhile (· ≠ '?')).dropSuffix? [' ']
  let choices ← (line.toList.dropWhile (· ≠ '?')).dropPrefix? "? ".toList
  let yes ← Differential.ofLine? (String.ofList (choices.takeWhile (· ≠ '\x7d') ++ "\x7d)".toList))
  let rest ← (choices.dropWhile (· ≠ '\x7d')).dropPrefix? "\x7d) : ".toList
  let no ← Differential.ofLine? (String.ofList rest)
  return chooses (String.ofList condition) yes no

/-- The body on some lines. Behind a declaration, what is returned says so. -/
def ofLines? : List String → Option Body
  | [] => none
  | first :: rest =>
    match behind? "let " first with
    | some declaration => do
      let returned ← rest.head?.bind (behind? "return ")
      let differential ← Differential.ofLines? (returned :: rest.tail)
      return returns declaration differential
    | none =>
      match Differential.ofLines? (first :: rest) with
      | some differential => some (returns none differential)
      | none => if rest = [] then choice? first else none

end Body

/-! ## Differentials -/

variable {value cotangent result : String} {declarations : List String}

namespace Differential

/-- A differential on one line is read back, if its value has no brace. -/
theorem ofLine?_eq (hvalue : '\x7b' ∉ value.toList)
    (hcotangent : ∀ c ∈ cotangent.toList, Identifier.isTail c = true) (result : String) :
    ofLine? ("(value: " ++ value ++ ", pullback: \x7b " ++ cotangent ++ " in " ++ result
      ++ " \x7d)") = some ⟨value, cotangent, [], result⟩ := by
  have hfront : '\x7b' ∉ value.toList ++ ", pullback: ".toList := by
    rw [List.mem_append, not_or]
    exact ⟨hvalue, by decide⟩
  have hlabel : ", pullback: \x7b ".toList = ", pullback: ".toList ++ ['\x7b', ' '] := rfl
  have hline : ("(value: " ++ value ++ ", pullback: \x7b " ++ cotangent ++ " in " ++ result
      ++ " \x7d)").toList = "(value: ".toList ++ ((value.toList ++ ", pullback: ".toList ++
        '\x7b' :: ' ' :: (cotangent.toList ++ (" in ".toList ++ result.toList)))
          ++ " \x7d)".toList) := by
    simp only [String.toList_append, hlabel, List.append_assoc, List.cons_append, List.nil_append]
  have hblank : (" in ".toList ++ result.toList).head?.any Identifier.isTail = false := rfl
  obtain ⟨hname, hbehind⟩ := span_append hcotangent hblank
  have hopened : ('\x7b' :: ' ' :: (cotangent.toList ++ (" in ".toList ++ result.toList))).dropPrefix?
      "\x7b ".toList = some (cotangent.toList ++ (" in ".toList ++ result.toList)) :=
    dropPrefix?_append "\x7b ".toList _
  rw [ofLine?, hline, between?_append]
  simp only [Option.bind_eq_bind, Option.bind_some, Signature.takeWhile_append_mark hfront,
    Signature.dropWhile_append_mark hfront, dropSuffix?_append, hopened, hname, hbehind,
    dropPrefix?_append, String.ofList_toList]
  rfl

/-- A differential on several lines is read back. -/
theorem ofLines?_eq (value cotangent result : String) (declarations : List String) :
    ofLines? ("(" :: ("    value: " ++ value ++ ",") :: ("    pullback: \x7b " ++ cotangent ++ " in") ::
      (declarations.map ("        let " ++ ·) ++ ["        return " ++ result, "    \x7d", ")"])) =
        some ⟨value, cotangent, declarations, result⟩ := by
  have hrest : declarations.map ("        let " ++ ·) ++ ["        return " ++ result, "    \x7d", ")"] =
      (declarations.map ("        let " ++ ·) ++ ["        return " ++ result]) ++
        ["    \x7d", ")"] := by
    rw [List.append_assoc]
    rfl
  have hinner : ((declarations.map ("        let " ++ ·) ++ ["        return " ++ result]) ++
      ["    \x7d", ")"]).dropSuffix? ["    \x7d", ")"] =
        some (declarations.map ("        let " ++ ·) ++ ["        return " ++ result]) :=
    List.dropSuffix?_eq_some_iff.2 ⟨_, rfl, by simp⟩
  have hdeclarations : (declarations.map ("        let " ++ ·)).mapM (behind? "        let ") =
      some declarations := by
    have hread : behind? "        let " ∘ ("        let " ++ ·) = fun declaration => pure declaration :=
      funext (behind?_append "        let ")
    rw [List.mapM_map, hread, List.mapM_pure, List.map_id']
    rfl
  rw [ofLines?, hrest]
  simp only [inside?_append, hinner, Option.bind_eq_bind, Option.bind_some, List.getLast?_concat,
    List.dropLast_concat, behind?_append, hdeclarations]
  rfl

end Differential

/-! ## Bodies -/

/-- What starts with a parenthesis declares nothing. -/
theorem behind?_let_parenthesis (line : String) : behind? "let " ("(" ++ line) = none := by
  rw [behind?, String.toList_append]
  rfl

/-- A differential is returned as it stands, or behind a declaration. -/
theorem Body.ofLines?_of_differential {line : String} {rest : List String} {d : Differential}
    (h : Differential.ofLines? (("(" ++ line) :: rest) = some d) :
    Body.ofLines? (("(" ++ line) :: rest) = some (.returns none d) ∧
      ∀ declaration, Body.ofLines? (("let " ++ declaration) :: ("return " ++ ("(" ++ line)) :: rest) =
        some (.returns (some declaration) d) := by
  constructor
  · rw [Body.ofLines?, behind?_let_parenthesis, h]
  · intro declaration
    rw [Body.ofLines?, behind?_append, List.head?_cons, Option.bind_some, behind?_append,
      List.tail_cons]
    simp only [Option.bind_eq_bind, Option.bind_some, h]
    rfl

end Derivative

namespace Formula

open Lanewise.Derivative

/-- What a closed form declares before it returns. -/
def declaration? (f : Formula) (o : Overload) : Option String :=
  if f.usesValue then some ("value = " ++ o.call false "") else none

variable [Template.Engine]

/-- What a closed form returns: the forward value under its name or as a call, with the pullback. -/
def differential (f : Formula) (o : Overload) (scalarName : String) : Differential where
  value := if f.usesValue then "value" else o.call false ""
  pullback := {
    cotangent := cotangentName
    declarations := (f.boundExpressions scalarName).map fun (name, expression) =>
      name ++ " = " ++ expression
    result := f.pullback scalarName }

/-- What a closed form returns is read back from its lines, in both layouts. -/
theorem exists_closedFormBody_eq (f : Formula) (o : Overload) (scalarName : String) :
    ∃ line rest, f.closedFormBody o scalarName =
        (if f.usesValue then
          ("let " ++ ("value = " ++ o.call false "")) :: ("return " ++ ("(" ++ line)) :: rest
        else ("(" ++ line) :: rest) ∧
      Differential.ofLines? (("(" ++ line) :: rest) = some (f.differential o scalarName) := by
  have hvalue : '\x7b' ∉ (if f.usesValue then "value" else o.call false "").toList := by
    split
    · decide
    · exact (SignatureText.call o false).not_mem (by decide)
  have hcotangent : ∀ c ∈ cotangentName.toList, Identifier.isTail c = true :=
    List.all_eq_true.1 rfl
  have hlet : "let value = " = "let " ++ "value = " := rfl
  have hreturn : "return (" = "return " ++ "(" := rfl
  unfold closedFormBody differential
  cases f.boundExpressions scalarName with
  | nil =>
    have hopening : "(value: " = "(" ++ "value: " := rfl
    have hclosure : ", pullback: \x7b v in " = ", pullback: \x7b " ++ cotangentName ++ " in " := rfl
    have hread := Differential.ofLine?_eq hvalue hcotangent (f.pullback scalarName)
    refine ⟨"value: " ++ (if f.usesValue then "value" else o.call false "") ++ ", pullback: \x7b " ++
      cotangentName ++ " in " ++ f.pullback scalarName ++ " \x7d)", [], ?_, ?_⟩
    · rw [hlet, hreturn, hclosure]
      split <;> simp only [String.append_assoc, List.nil_append, List.singleton_append]
    · rw [hopening] at hread
      rw [Differential.ofLines?, List.map_nil]
      simpa only [String.append_assoc] using hread
  | cons binding bindings =>
    have hread := Differential.ofLines?_eq (if f.usesValue then "value" else o.call false "")
      cotangentName (f.pullback scalarName)
      ((binding :: bindings).map fun (name, expression) => name ++ " = " ++ expression)
    have hclosure : "    pullback: \x7b v in" = "    pullback: \x7b " ++ cotangentName ++ " in" := rfl
    have hdeclarations : ((binding :: bindings).map fun (name, expression) =>
        name ++ " = " ++ expression).map ("        let " ++ ·) =
          (binding :: bindings).map fun (name, expression) =>
            "        let " ++ name ++ " = " ++ expression := by
      rw [List.map_map]
      exact List.map_congr_left fun _ _ => by simp only [Function.comp_apply, String.append_assoc]
    refine ⟨"", _, ?_, hread⟩
    rw [hlet, hreturn, hclosure, hdeclarations]
    split <;> simp only [String.append_empty, String.append_assoc, List.cons_append,
      List.nil_append]

/-- The body of a closed form is read back. -/
theorem ofLines?_closedFormBody (f : Formula) (o : Overload) (scalarName : String) :
    Body.ofLines? (f.closedFormBody o scalarName) =
      some (.returns (f.declaration? o) (f.differential o scalarName)) := by
  obtain ⟨line, rest, hlines, hread⟩ := f.exists_closedFormBody_eq o scalarName
  obtain ⟨hplain, hdeclared⟩ := Body.ofLines?_of_differential hread
  rw [hlines, declaration?]
  split
  · exact hdeclared _
  · exact hplain

end Formula

end Lanewise
