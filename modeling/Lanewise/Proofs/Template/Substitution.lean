import Lanewise.Formula.Basic
import Lanewise.Proofs.Template.Standard
import Mathlib.Data.List.Infix

/-!
# Templates are filled in one pass

A template is put together from texts and placeholders: braces around a name, with any white space.
Filling it shows the texts with their line breaks unified, and in the place of each placeholder the
string that the context has for its name. The strings are not looked at, whatever they contain.
-/

namespace Lanewise

namespace Template

/-! ## What a template is put together from -/

/-- A text in which nothing opens: no placeholder, no statement and no comment. -/
def IsPlain (text : List Char) : Prop :=
  ∀ mark ∈ ['{', '%', '#'], ¬ ['{', mark] <:+: text

instance (text : List Char) : Decidable (IsPlain text) :=
  List.decidableBAll (fun mark => ¬ ['{', mark] <:+: text) ['{', '%', '#']

/-- Plain texts, each with a placeholder behind it, and a plain text at the end. Any of the texts may
be empty. -/
structure Composition where
  parts : List (List Char × Placeholder)
  last : List Char
  plain : ∀ text ∈ last :: parts.map Prod.fst, IsPlain text
  /-- No text ends with a brace that would open a placeholder too early. -/
  closed : ∀ part ∈ parts, part.1.getLast? ≠ some '{'
  ordinary : ∀ part ∈ parts, IsOrdinary part.2.name

/-- A text with a line feed for each of its line breaks: a return in front of a line feed goes away,
and every other return becomes a line feed. -/
def withLineFeeds : List Char → List Char
  | [] => []
  | c :: rest =>
    if c = '\r' then
      if rest.head? = some '\n' then withLineFeeds rest else '\n' :: withLineFeeds rest
    else c :: withLineFeeds rest

/-- A text without the line feed at its end, if it ends with one. -/
def withoutFinalFeed (text : List Char) : List Char :=
  (text.dropSuffix? ['\n']).getD text

namespace Composition

/-- How a composition is written. -/
def source (c : Composition) : List Char :=
  c.parts.flatMap (fun part => part.1 ++ part.2.source) ++ c.last

/-- What a composition shows when each name stands for a string: the texts with unified line breaks,
without the one at the very end, and the strings as they are. -/
def rendered (c : Composition) (value : String → String) : List Char :=
  c.parts.flatMap (fun part => withLineFeeds part.1 ++ (value part.2.name).toList) ++
    withoutFinalFeed (withLineFeeds c.last)

end Composition

/-! ## Line breaks -/

theorem IsPlain.tail {c : Char} {text : List Char} (h : IsPlain (c :: text)) : IsPlain text :=
  fun mark hmark hopen => h mark hmark (hopen.trans (List.suffix_cons c text).isInfix)

theorem IsPlain.opens_eq_false {c : Char} {text : List Char} (h : IsPlain (c :: text)) :
    opens c text = false := by
  rw [opens, Bool.eq_false_iff, ne_eq, Bool.and_eq_true, beq_iff_eq, Option.any_eq_true]
  rintro ⟨rfl, mark, hmark, hopen⟩
  obtain ⟨rest, rfl⟩ := List.head?_eq_some_iff.1 hmark
  exact h mark (of_decide_eq_true hopen) ⟨[], rest, rfl⟩

section

variable [Engine] [LawfulEngine] {text rest : List Char}

namespace Composition

end Composition

/-! ## Rendering -/

end

end Template

end Lanewise
