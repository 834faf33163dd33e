import Lanewise.Catalog.Standard
import Lanewise.Proofs.Implementation.File
import Lanewise.Proofs.Overload.Declaration

/-!
# No function is declared twice

The functions of a file are read back from its text, and the signature of each from its declaration.
On a vector of a width a signature shows whether an argument is fixed, because no fixed type has the
name of a vector type. So a signature stands for the name, the labels and the types of one overload,
whichever way the conditions of the text are decided.
-/

namespace Lanewise

open Swift

namespace Overload

/-- Signatures for a vector of a width tell overloads apart as their names, labels and types do. -/
theorem signature_vector_eq_iff (a b : Overload) (precision : Precision) (width : Int) :
    a.signature (Target.vector precision width).typeName =
        b.signature (Target.vector precision width).typeName ↔ a.identity = b.identity := by
  rw [signature, signature, Signature.mk.injEq, identity, identity, Prod.mk.injEq, Prod.mk.injEq,
    map_typeIn_eq_iff]
  constructor
  · rintro ⟨hname, hlabels, htypes⟩
    refine ⟨hname, hlabels, ?_⟩
    by_contra hne
    rcases mem_zip_of_typesCoincide htypes hne with hm | hm
    · exact b.vector_typeName_not_mem_fixedTypes precision width (List.of_mem_zip hm).2
    · exact a.vector_typeName_not_mem_fixedTypes precision width (List.of_mem_zip hm).1
  · rintro ⟨hname, hlabels, htypes⟩
    refine ⟨hname, hlabels, ?_⟩
    rw [htypes, List.forall₂_same]
    exact fun _ _ => .inl rfl

end Overload

/-- The signatures of the functions in a text, for a compiler that can import the module of the
accelerated forms, or cannot. -/
def Signature.declaredIn (available : Bool) (text : String) : List (Option Signature) :=
  (Member.readAll (resolveText "simd" available text)).map fun m => ofDeclaration? m.declaration

namespace Implementation

variable {c : Catalog}

theorem lines_implementation_ne_nil (o : Overload) (t : Target) :
    (o.implementation t).lines ≠ [] := by
  unfold Overload.implementation
  cases o.accelerated? t <;> simp [Chunk.lines, Overload.elementWiseLines]

/-- The text of a function is read as that function. -/
theorem readAll_implementation (o : Overload) (t : Target) (available : Bool) :
    Member.readAll (resolveText "simd" available (o.implementation t).body) =
      [o.member t available] := by
  have hkept : resolveLines "simd" available [] (textLines (o.implementation t).body) =
      ((o.implementation t).resolve fun _ => available).flatMap textLines := by
    have hresolve := resolveLines_source (by decide) (o.quiet_implementation t)
      (fun _ => available) []
    rw [Source.body, textLines_intercalate (lines_implementation_ne_nil o t)]
    simpa [resolveLines] using hresolve
  have hgroups := o.groups_implementation t available []
  have hne : resolveLines "simd" available [] (textLines (o.implementation t).body) ≠ [] := by
    intro hnil
    rw [← hkept, hnil, List.append_nil] at hgroups
    cases hgroups
  have hend : Member.groups none [] = [] := rfl
  rw [List.append_nil, hend] at hgroups
  rw [Member.readAll, Swift.textLines_resolveText hne, hkept, hgroups, List.map_singleton,
    o.ofLines_memberLines]

/-- The text of a function shows its signature, and nothing else. -/
theorem declaredIn_implementation (o : Overload) (t : Target) (available : Bool) :
    Signature.declaredIn available (o.implementation t).body =
      [some (o.signature t.typeName)] := by
  rw [Signature.declaredIn, readAll_implementation, List.map_singleton, Overload.member,
    o.ofDeclaration?_declaration]

/-- The text of a file shows the text of each function of the catalog. -/
theorem infix_fileText {t : Target} {o : Overload} (ho : o ∈ c.overloads) :
    (o.implementation t).body.toList <:+: (source c t).text.toList := by
  obtain ⟨s, hs, ho⟩ := List.mem_flatMap.1 ho
  have hmem : o.implementation t ∈ s.overloads.map (·.implementation t) := List.mem_map_of_mem ho
  obtain ⟨before, after, hspaced⟩ := Source.exists_spaced_eq hmem
  have hfunction : o.implementation t <:+: sectionSource t s := by
    rw [sectionSource, hspaced]
    exact (List.infix_append before _ after).trans (List.infix_append _ _ _)
  have hsection : sectionSource t s <:+: source c t := by
    have hsections : sectionSource t s <:+: c.sections.flatMap (sectionSource t) :=
      List.infix_of_mem_flatten (List.mem_map_of_mem hs)
    exact hsections.trans (List.suffix_append _ _).isInfix
  obtain ⟨before', after', hsource⟩ := hfunction.trans hsection
  rw [← hsource]
  exact Source.infix_text before' after' (lines_implementation_ne_nil o t)

/-- In the file for a vector of a width, two functions of the catalog are declared with different
signatures, whichever branch of the conditions is kept of the one and of the other. -/
theorem declaredIn_fileText_ne (precision : Precision) (width : Int) {a b : Overload}
    (ha : a ∈ c.overloads) (hb : b ∈ c.overloads) (hne : a ≠ b) :
    ∃ file first second s s', fileText c (.vector precision width) = .ok file ∧
      functionText (.vector precision width) a = .ok first ∧ first.toList <:+: file.toList ∧
      functionText (.vector precision width) b = .ok second ∧ second.toList <:+: file.toList ∧
      (∀ available, Signature.declaredIn available first = [some s] ∧
        Signature.declaredIn available second = [some s']) ∧
      s ≠ s' := by
  have hvector : ∀ p, Target.vector precision width ≠ .scalar p := fun p h => by cases h
  refine ⟨_, _, _, _, _, fileText_eq c hvector, functionText_eq hvector a, infix_fileText ha,
    functionText_eq hvector b, infix_fileText hb, fun available =>
      ⟨declaredIn_implementation a _ available, declaredIn_implementation b _ available⟩, ?_⟩
  intro hsame
  exact hne (Catalog.eq_of_identity_eq ha hb
    ((Overload.signature_vector_eq_iff a b precision width).1 hsame))

/-- Where titles take one line each, the file for a vector of a width declares no function twice. -/
theorem nodup_declaredIn_fileText (precision : Precision) (width : Int)
    (htitles : ∀ s ∈ c.sections, '\n' ∉ s.title.toList) (available : Bool) :
    ∃ file, fileText c (.vector precision width) = .ok file ∧
      (Signature.declaredIn available file).Nodup := by
  have hvector : ∀ p, Target.vector precision width ≠ .scalar p := fun p h => by cases h
  have h : OneLine c (.vector precision width) := ⟨htitles, fun s _ => by simp [requirement]⟩
  have hsignatures : Signature.declaredIn available (source c (.vector precision width)).text =
      c.overloads.map fun o => some (o.signature (Target.vector precision width).typeName) := by
    rw [Signature.declaredIn, readAll_resolveText h, List.map_map]
    exact List.map_congr_left fun o _ => o.ofDeclaration?_declaration _
  refine ⟨_, fileText_eq c hvector, ?_⟩
  rw [hsignatures]
  refine List.Nodup.map_on (fun a ha b hb hsame => ?_) c.nodup_overloads
  have hidentity := (Overload.signature_vector_eq_iff a b precision width).1 (Option.some.inj hsame)
  exact Catalog.eq_of_identity_eq ha hb hidentity

open Catalog.Standard in
/-- The power and the integer power are declared with different types on a vector of two lanes. -/
theorem declaredIn_fileText_power :
    (power ∈ Catalog.standard.overloads ∧ integerPower ∈ Catalog.standard.overloads ∧
      power ≠ integerPower) ∧
    ∃ first second s s', functionText (.vector .double 2) power = .ok first ∧
      functionText (.vector .double 2) integerPower = .ok second ∧
      Signature.declaredIn true first = [some s] ∧
      Signature.declaredIn false second = [some s'] ∧ s ≠ s' := by
  have hreal : power ∈ Catalog.standard.overloads := List.mem_append_left _ (List.get_mem _ _)
  have hinteger : integerPower ∈ Catalog.standard.overloads :=
    List.mem_append_left _ (List.get_mem _ _)
  have hne : power ≠ integerPower := by decide
  obtain ⟨file, first, second, s, s', -, hfirst, -, hsecond, -, hread, hs⟩ :=
    declaredIn_fileText_ne .double 2 hreal hinteger hne
  exact ⟨⟨hreal, hinteger, hne⟩, first, second, s, s', hfirst, hsecond, (hread true).1,
    (hread false).2, hs⟩

end Implementation

end Lanewise
