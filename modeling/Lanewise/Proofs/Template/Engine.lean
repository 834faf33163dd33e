import Lanewise.Identifier
import Lanewise.Template
import Lanewise.Text.Blank

/-!
# What is assumed of a template engine

The templates of the program are plain text and placeholders: a name between double braces, with any
white space around it. A lawful engine shows plain text as it is, but for its line breaks, and in the
place of a placeholder what the context has for the name. Each law says this of the beginning of a
template. Of other sources nothing is assumed: statements and comments, names that have a meaning of
their own, and names that are not written with letters, digits and underscores of ASCII.
-/

namespace Lanewise

namespace Template

/-! ## Templates -/

/-- The words that have a meaning of their own in a placeholder. -/
def reservedWords : List String :=
  ["true", "True", "false", "False", "none", "None", "not", "range", "dict", "cycler", "joiner",
   "namespace", "lipsum", "self"]

/-- A name that only stands for what the context has for it. -/
structure IsOrdinary (name : String) : Prop where
  /-- A name starts with a letter or an underscore. -/
  start : name.toList.head?.any Identifier.isHead = true
  /-- A name has letters, digits and underscores. -/
  continued : name.toList.all Identifier.isTail = true
  unreserved : name ∉ reservedWords

/-- A name between double braces, with white space around it. -/
structure Placeholder where
  before : List Char
  name : String
  after : List Char
  blank : ∀ c ∈ before ++ after, Text.isBlank c = true

/-- How a placeholder is written. -/
def Placeholder.source (p : Placeholder) : List Char :=
  '{' :: '{' :: (p.before ++ (p.name.toList ++ (p.after ++ ['}', '}'])))

/-- A placeholder as it is usually written. -/
def Placeholder.spaced (name : String) : Placeholder where
  before := [' ']
  name := name
  after := [' ']
  blank := List.all_eq_true.1 rfl

/-- Whether a character opens a placeholder, a statement or a comment together with the character
behind it. -/
def opens (c : Char) (rest : List Char) : Bool :=
  c == '{' && rest.head?.any fun mark => mark ∈ ['{', '%', '#']

theorem opens_eq_false {c : Char} (h : c ≠ '{') (rest : List Char) : opens c rest = false := by
  rw [opens, beq_eq_false_iff_ne.2 h, Bool.false_and]

/-- Plain text in which placeholders for some names stand. -/
inductive IsTemplate (allowed : String → Prop) : List Char → Prop
  | nil : IsTemplate allowed []
  /-- A character of the text. -/
  | char (c : Char) {rest : List Char} (hopens : opens c rest = false)
      (h : IsTemplate allowed rest) : IsTemplate allowed (c :: rest)
  /-- A placeholder for one of the names. -/
  | placeholder (p : Placeholder) {rest : List Char} (hname : allowed p.name)
      (h : IsTemplate allowed rest) : IsTemplate allowed (p.source ++ rest)

theorem IsTemplate.mono {allowed allowed' : String → Prop} {source : List Char}
    (h : IsTemplate allowed source) (hallowed : ∀ name, allowed name → allowed' name) :
    IsTemplate allowed' source := by
  induction h with
  | nil => exact .nil
  | char c hopens _ ih => exact .char c hopens ih
  | placeholder p hname _ ih => exact .placeholder p (hallowed p.name hname) ih

/-! ## Laws -/

/-- The laws of a template engine, for templates with ordinary names. -/
class LawfulEngine [Engine] : Prop where
  output_nil (context : String → Option String) : Engine.output [] context = []
  /-- A character of the text is shown as it is, unless it is a line break that is not. -/
  output_char (context : String → Option String) {c : Char} {rest : List Char}
    (hopens : opens c rest = false) (hreturn : c ≠ '\r') (hlast : c = '\n' → rest ≠ [])
    (h : IsTemplate IsOrdinary rest) :
    Engine.output (c :: rest) context = c :: Engine.output rest context
  /-- A line feed at the very end is dropped. -/
  output_lastFeed (context : String → Option String) : Engine.output ['\n'] context = []
  /-- A return counts as a line feed, or as one together with the line feed behind it. -/
  output_return (context : String → Option String) {rest : List Char}
    (h : IsTemplate IsOrdinary rest) :
    Engine.output ('\r' :: rest) context =
      Engine.output (if rest.head? = some '\n' then rest else '\n' :: rest) context
  /-- In the place of a placeholder stands the string of its name, or nothing. -/
  output_placeholder (context : String → Option String) (p : Placeholder) {rest : List Char}
    (hname : IsOrdinary p.name) (h : IsTemplate IsOrdinary rest) :
    Engine.output (p.source ++ rest) context =
      ((context p.name).getD "").toList ++ Engine.output rest context

/-- What is shown for a character of the text in front of the rest of a template: line feeds for
line breaks, and nothing for a line break at the very end. -/
def shown (c : Char) (rest : List Char) : List Char :=
  if c = '\r' then if rest = [] ∨ rest.head? = some '\n' then [] else ['\n']
  else if c = '\n' ∧ rest = [] then []
  else [c]

/-- What is shown for a character does not depend on the context. -/
theorem output_cons [Engine] [LawfulEngine] (context : String → Option String) {c : Char}
    {rest : List Char} (hopens : opens c rest = false) (h : IsTemplate IsOrdinary rest) :
    Engine.output (c :: rest) context = shown c rest ++ Engine.output rest context := by
  have hnil := LawfulEngine.output_nil context
  have hfeed := LawfulEngine.output_lastFeed context
  unfold shown
  by_cases hreturn : c = '\r'
  · rw [if_pos hreturn, hreturn, LawfulEngine.output_return context h]
    by_cases hlast : rest = []
    · subst hlast
      rw [hnil]
      exact hfeed
    · by_cases hnext : rest.head? = some '\n'
      · rw [if_pos hnext, if_pos (.inr hnext)]
        rfl
      · rw [if_neg hnext, if_neg (not_or.2 ⟨hlast, hnext⟩)]
        exact LawfulEngine.output_char context rfl (by decide) (fun _ => hlast) h
  · rw [if_neg hreturn]
    by_cases hlast : c = '\n' ∧ rest = []
    · rw [if_pos hlast, hlast.1, hlast.2, hnil]
      exact hfeed
    · rw [if_neg hlast]
      exact LawfulEngine.output_char context hopens hreturn
        (fun hc hrest => hlast ⟨hc, hrest⟩) h

end Template

end Lanewise
