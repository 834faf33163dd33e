import Lanewise.Overload.Basic
import Lanewise.Proofs.Identifier
import Mathlib.Data.List.Chain

/-!
# What a key tells about its overload

A key shows each label with a colon behind it and then the type of the argument, if that is fixed.
Between a type and the next label stands nothing. So the colons cut a key into *seams*: the first
label, then every type together with the label of the next argument, and the last type. Two
overloads have the same key exactly when their names and their seams agree.

A seam is open when its text can be cut into a type and a label in another way. An overload without
open seams is the only one with its labels and types that has its key; any open seam gives another
overload with the same key, and a catalog with both is refused.
-/

namespace Lanewise

namespace Argument

/-- The text of the argument's own type, which is empty for a varying argument. -/
def typeText (a : Argument) : String :=
  a.fixedTypeName.getD ""

/-- Whether the type of an argument and the label of the next one, written without anything between
them, are also the type and the label of other arguments. A type that ends in a line feed shows
where it ends; any other type can be taken into the label. Without a type, a part of the label can
be taken for one where the other part still is an identifier. -/
def opensInto (a next : Argument) : Bool :=
  match a.fixedType with
  | some type => type.text.toList.getLast? ≠ some '\n'
  | none => next.externalName.toList.tail.any Identifier.isHead

end Argument

namespace Overload

/-- What tells an overload from all others: the name, the labels and the fixed types. -/
def identity (o : Overload) : String × List String × List (Option String) :=
  (o.name.text, o.labels, o.fixedTypes)

/-- The texts between the colons of some arguments, the first with another text in front. -/
def seamsFrom (before : String) : List Argument → List String
  | [] => [before]
  | a :: rest => (before ++ a.externalName) :: seamsFrom a.typeText rest

/-- The texts between the colons of the key. -/
def seams (o : Overload) : List String :=
  seamsFrom "" o.arguments

/-- Whether every type ends where the key shows it. The first argument has no type, so nothing is
asked of it. -/
def SeamsClosed (o : Overload) : Prop :=
  o.arguments.tail.IsChain fun a next => a.opensInto next = false

instance (o : Overload) : Decidable o.SeamsClosed :=
  inferInstanceAs (Decidable (List.IsChain _ _))

end Overload

/-! ## The text of a key -/

namespace Argument

theorem accepts_externalName (a : Argument) :
    Identifier.accepts a.externalName.toList = true :=
  (a.label.getD a.name).valid

theorem typeText_of_none {a : Argument} (h : a.fixedType = none) : a.typeText = "" := by
  simp [typeText, fixedTypeName, h]

theorem typeText_of_some {a : Argument} {type : Identifier} (h : a.fixedType = some type) :
    a.typeText = type.text := by
  simp [typeText, fixedTypeName, h]

theorem accepts_typeText {a : Argument} (h : a.typeText.toList ≠ []) :
    Identifier.accepts a.typeText.toList = true := by
  cases ha : a.fixedType with
  | none => exact absurd (by rw [typeText_of_none ha]; rfl) h
  | some type =>
    rw [typeText_of_some ha]
    exact type.valid

theorem not_mem_externalName (a : Argument) {c : Char} (hc : Identifier.isTail c = false)
    (hn : c ≠ '\n') : c ∉ a.externalName.toList :=
  Identifier.not_mem_of_isTail_eq_false a.accepts_externalName hc hn

theorem not_mem_typeText (a : Argument) {c : Char} (hc : Identifier.isTail c = false)
    (hn : c ≠ '\n') : c ∉ a.typeText.toList := by
  intro hm
  exact Identifier.not_mem_of_isTail_eq_false (accepts_typeText (List.ne_nil_of_mem hm)) hc hn hm

/-- No type is empty, so the text also tells whether there is a type. -/
theorem typeText_inj {a b : Argument} (h : a.typeText = b.typeText) :
    a.fixedTypeName = b.fixedTypeName := by
  have hne : ∀ type : Identifier, type.text ≠ "" := fun type he =>
    Identifier.ne_nil_of_accepts type.valid (by rw [he]; rfl)
  unfold fixedTypeName
  cases ha : a.fixedType with
  | none =>
    cases hb : b.fixedType with
    | none => rfl
    | some type =>
      rw [typeText_of_none ha, typeText_of_some hb] at h
      exact absurd h.symm (hne type)
  | some type =>
    cases hb : b.fixedType with
    | none =>
      rw [typeText_of_some ha, typeText_of_none hb] at h
      exact absurd h (hne type)
    | some other =>
      rw [typeText_of_some ha, typeText_of_some hb] at h
      exact congrArg some h

end Argument

namespace Overload

theorem seamsFrom_ne_nil (before : String) (as : List Argument) : seamsFrom before as ≠ [] := by
  cases as <;> simp [seamsFrom]

theorem seamsFrom_cons_ne_singleton (before seam : String) (a : Argument) (rest : List Argument) :
    seamsFrom before (a :: rest) ≠ [seam] := by
  rw [seamsFrom, ne_eq, List.cons.injEq]
  exact fun h => seamsFrom_ne_nil _ _ h.2

theorem toList_intercalate_seamsFrom (before : String) (as : List Argument) :
    (":".intercalate (seamsFrom before as)).toList = before.toList
      ++ as.flatMap fun a => a.externalName.toList ++ ':' :: a.typeText.toList := by
  induction as generalizing before with
  | nil => simp [seamsFrom]
  | cons a rest ih =>
    rw [seamsFrom, String.intercalate_cons_of_ne_nil (seamsFrom_ne_nil _ _), String.toList_append,
      String.toList_append, String.toList_append, ih]
    simp

theorem toList_key (o : Overload) :
    o.key.toList = o.name.text.toList ++ '(' :: ((":".intercalate o.seams).toList ++ [')']) := by
  rw [seams, toList_intercalate_seamsFrom]
  simp [key, String.toList_join, List.flatMap_map, Argument.typeText]

theorem colon_not_mem_seamsFrom {before : String} (hb : ':' ∉ before.toList)
    (as : List Argument) : ∀ seam ∈ seamsFrom before as, ':' ∉ seam.toList := by
  induction as generalizing before with
  | nil => simpa [seamsFrom] using hb
  | cons a rest ih =>
    rw [seamsFrom, List.forall_mem_cons]
    refine ⟨?_, ih (a.not_mem_typeText (by decide) (by decide))⟩
    rw [String.toList_append, List.mem_append]
    rintro (h | h)
    · exact hb h
    · exact a.not_mem_externalName (by decide) (by decide) h

theorem not_mem_intercalate_seams (o : Overload) {c : Char} (hc : Identifier.isTail c = false)
    (hn : c ≠ '\n') (hs : c ≠ ':') : c ∉ (":".intercalate o.seams).toList := by
  rw [seams, toList_intercalate_seamsFrom]
  intro h
  rcases List.mem_append.1 h with h | h
  · exact absurd h (by simp)
  · obtain ⟨a, -, h⟩ := List.mem_flatMap.1 h
    rcases List.mem_append.1 h with h | h
    · exact a.not_mem_externalName hc hn h
    · rcases List.mem_cons.1 h with h | h
      · exact hs h
      · exact a.not_mem_typeText hc hn h

theorem seams_inj {a b : Overload}
    (h : (":".intercalate a.seams).toList = (":".intercalate b.seams).toList) :
    a.seams = b.seams := by
  have read : ∀ o : Overload,
      (":".intercalate o.seams).toList.splitOn ':' = o.seams.map String.toList := by
    intro o
    rw [String.toList_intercalate]
    refine List.splitOn_intercalate ':' ?_ (by simp [seams, seamsFrom_ne_nil])
    rw [List.forall_mem_map]
    exact colon_not_mem_seamsFrom (by simp) o.arguments
  have hmap := congrArg (List.splitOn ':') h
  rw [read, read] at hmap
  exact List.map_injective_iff.2 (fun _ _ => String.toList_injective) hmap

/-- Keys are equal when names and seams are. -/
theorem key_eq_iff (a b : Overload) :
    a.key = b.key ↔ a.name.text = b.name.text ∧ a.seams = b.seams := by
  constructor
  · intro h
    have htext := congrArg String.toList h
    rw [toList_key, toList_key, List.append_cons_inj_of_notMem] at htext
    · obtain ⟨hname, -, hrest⟩ := htext
      exact ⟨String.toList_injective hname, seams_inj (List.append_cancel_right hrest)⟩
    · exact Identifier.not_mem_of_isTail_eq_false a.name.valid (by decide) (by decide)
    · simpa using a.not_mem_intercalate_seams (by decide) (by decide) (by decide)
  · rintro ⟨hname, hseams⟩
    apply String.toList_injective
    rw [toList_key, toList_key, hname, hseams]

end Overload

/-! ## Cutting a seam -/

namespace Argument

/-- A seam that is cut in two ways is open. -/
theorem opensInto_of_cut {x y x' y' : Argument}
    (h : x.typeText ++ y.externalName = x'.typeText ++ y'.externalName)
    (hne : x.typeText ≠ x'.typeText) : x.opensInto y = true := by
  have hlist := congrArg String.toList h
  rw [String.toList_append, String.toList_append] at hlist
  have hy' := y'.accepts_externalName
  unfold opensInto
  cases hx : x.fixedType with
  | none =>
    -- The other type is a part of the label, and what follows it starts an identifier.
    have htype : x'.typeText.toList ≠ [] := fun he => hne (by
      rw [typeText_of_none hx]
      exact String.toList_injective he.symm)
    obtain ⟨d, post, hd⟩ := List.exists_cons_of_ne_nil (Identifier.ne_nil_of_accepts hy')
    have hhead : Identifier.isHead d = true := by
      rw [hd, Identifier.accepts, Bool.and_eq_true] at hy'
      exact hy'.1
    rw [typeText_of_none hx, hd] at hlist
    change y.externalName.toList.tail.any Identifier.isHead = true
    rw [show y.externalName.toList = _ from hlist, List.tail_append_of_ne_nil htype]
    simp [hhead]
  | some type =>
    rw [typeText_of_some hx] at hlist hne
    change decide (type.text.toList.getLast? ≠ some '\n') = true
    rw [decide_eq_true_iff]
    intro hlast
    rcases List.append_eq_append_iff.1 hlist with ⟨more, hmore, -⟩ | ⟨more, hmore, hlabel⟩
    · -- The other type would go on behind the line feed.
      have hm : more ≠ [] := by
        rintro rfl
        exact hne (String.toList_injective (by rw [hmore, List.append_nil]))
      have hx' := accepts_typeText (a := x') (by rw [hmore]; simp [hm])
      rw [hmore, Identifier.accepts_append (Identifier.ne_nil_of_accepts type.valid) hm] at hx'
      exact hx'.2.1 (List.mem_of_getLast? hlast)
    · -- The other label would start before the line feed.
      have hm : more ≠ [] := by
        rintro rfl
        exact hne (String.toList_injective (by rw [hmore, List.append_nil]))
      rw [hlabel, Identifier.accepts_append hm
        (Identifier.ne_nil_of_accepts y.accepts_externalName)] at hy'
      rw [hmore, List.getLast?_append_of_ne_nil _ hm] at hlast
      exact hy'.2.1 (List.mem_of_getLast? hlast)

/-- An open seam can be cut in another way. -/
theorem exists_cut_of_opensInto {x y : Argument} (h : x.opensInto y = true) :
    ∃ x' y' : Argument, x'.name = x.name ∧ x'.externalName = x.externalName ∧
      x'.fixedTypeName ≠ x.fixedTypeName ∧ y'.name = y.name ∧ y'.typeText = y.typeText ∧
      x'.typeText ++ y'.externalName = x.typeText ++ y.externalName := by
  have hy := y.accepts_externalName
  unfold opensInto at h
  cases hx : x.fixedType with
  | none =>
    rw [hx] at h
    obtain ⟨c, tail, hc⟩ := List.exists_cons_of_ne_nil (Identifier.ne_nil_of_accepts hy)
    change y.externalName.toList.tail.any Identifier.isHead = true at h
    rw [hc, List.tail_cons, List.any_eq_true] at h
    obtain ⟨d, hd, hhead⟩ := h
    obtain ⟨pre, post, rfl⟩ := List.append_of_mem hd
    rw [hc, ← List.cons_append, Identifier.accepts_append (by simp) (by simp)] at hy
    obtain ⟨htype, -, hrest⟩ := hy
    have hlabel := Identifier.accepts_of_completes hhead hrest
    refine ⟨{ x with fixedType := some ⟨String.ofList (c :: pre), by
        rw [String.toList_ofList]; exact htype⟩ },
      { y with label := some ⟨String.ofList (d :: post), by
        rw [String.toList_ofList]; exact hlabel⟩ }, rfl, rfl, by simp [fixedTypeName, hx], rfl,
      rfl, ?_⟩
    rw [typeText_of_none hx, typeText_of_some rfl, String.empty_append]
    change String.ofList (c :: pre) ++ String.ofList (d :: post) = y.externalName
    apply String.toList_injective
    rw [String.toList_append, String.toList_ofList, String.toList_ofList, hc, List.cons_append]
  | some type =>
    rw [hx] at h
    have hn := Identifier.line_feed_not_mem_of_getLast? type.valid (of_decide_eq_true h)
    have hlabel := (Identifier.accepts_append (Identifier.ne_nil_of_accepts type.valid)
      (Identifier.ne_nil_of_accepts hy)).2 ⟨type.valid, hn, Identifier.completes_of_accepts hy⟩
    refine ⟨{ x with fixedType := none }, { y with label := some ⟨type.text ++ y.externalName, by
        rw [String.toList_append]; exact hlabel⟩ }, rfl, rfl, by simp [fixedTypeName, hx], rfl,
      rfl, ?_⟩
    rw [typeText_of_some hx, typeText_of_none rfl, String.empty_append]
    rfl

end Argument

namespace Overload

theorem arguments_eq_cons (o : Overload) :
    ∃ first rest, o.arguments = first :: rest ∧ first.fixedType = none := by
  obtain ⟨first, hfirst, hnone⟩ := o.head_varying
  cases ha : o.arguments with
  | nil =>
    rw [ha] at hfirst
    cases hfirst
  | cons a rest =>
    rw [ha, List.head?_cons, Option.mem_some_iff] at hfirst
    exact ⟨a, rest, rfl, hfirst ▸ hnone⟩

/-- The induction runs over the arguments behind `x` and `y`, whose types stand at the front of the
seams. As long as no seam is open, each can only be cut where the other overload cuts it. -/
theorem labels_eq_of_seamsFrom_eq {as bs : List Argument} {x y : Argument}
    (hc : (x :: as).IsChain fun a next => a.opensInto next = false)
    (h : seamsFrom x.typeText as = seamsFrom y.typeText bs) :
    x.typeText = y.typeText ∧ as.map (·.externalName) = bs.map (·.externalName) ∧
      as.map (·.fixedTypeName) = bs.map (·.fixedTypeName) := by
  induction as generalizing bs x y with
  | nil =>
    cases bs with
    | nil => exact ⟨by simpa [seamsFrom] using h, rfl, rfl⟩
    | cons b bs => exact absurd h.symm (seamsFrom_cons_ne_singleton _ _ b bs)
  | cons a as ih =>
    cases bs with
    | nil => exact absurd h (seamsFrom_cons_ne_singleton _ _ a as)
    | cons b bs =>
      rw [List.isChain_cons_cons] at hc
      rw [seamsFrom, seamsFrom, List.cons.injEq] at h
      obtain ⟨hclosed, hc⟩ := hc
      obtain ⟨hseam, h⟩ := h
      have htype : x.typeText = y.typeText := by
        by_contra hne
        rw [Argument.opensInto_of_cut hseam hne] at hclosed
        exact absurd hclosed (by decide)
      rw [htype, String.append_right_inj] at hseam
      obtain ⟨ha, hlabels, htypes⟩ := ih hc h
      refine ⟨htype, ?_, ?_⟩
      · rw [List.map_cons, List.map_cons, hseam, hlabels]
      · rw [List.map_cons, List.map_cons, Argument.typeText_inj ha, htypes]

/-- An overload without open seams shares its key with no other labels and types. -/
theorem identity_eq_of_key_eq {a b : Overload} (hc : a.SeamsClosed) (h : a.key = b.key) :
    a.identity = b.identity := by
  obtain ⟨hname, hseams⟩ := (key_eq_iff a b).1 h
  obtain ⟨x, as, ha, hx⟩ := a.arguments_eq_cons
  obtain ⟨y, bs, hb, hy⟩ := b.arguments_eq_cons
  rw [seams, seams, ha, hb, seamsFrom, seamsFrom, List.cons.injEq,
    String.append_right_inj] at hseams
  obtain ⟨hlabel, hseams⟩ := hseams
  unfold SeamsClosed at hc
  rw [ha, List.tail_cons] at hc
  -- The first type is missing on both sides, so the seam behind it is not asked to be closed.
  have hrest : as.map (·.externalName) = bs.map (·.externalName) ∧
      as.map (·.fixedTypeName) = bs.map (·.fixedTypeName) := by
    rw [Argument.typeText_of_none hx, Argument.typeText_of_none hy] at hseams
    cases as with
    | nil =>
      cases bs with
      | nil => exact ⟨rfl, rfl⟩
      | cons b bs => exact absurd hseams.symm (seamsFrom_cons_ne_singleton _ _ b bs)
    | cons a as =>
      cases bs with
      | nil => exact absurd hseams (seamsFrom_cons_ne_singleton _ _ a as)
      | cons b bs =>
        rw [seamsFrom, seamsFrom, List.cons.injEq, String.append_right_inj] at hseams
        obtain ⟨htype, hlabels, htypes⟩ := labels_eq_of_seamsFrom_eq hc hseams.2
        rw [List.map_cons, List.map_cons, List.map_cons, List.map_cons, hseams.1, hlabels,
          Argument.typeText_inj htype, htypes]
        exact ⟨rfl, rfl⟩
  have hfirst : x.fixedTypeName = y.fixedTypeName := by
    unfold Argument.fixedTypeName
    rw [hx, hy]
  unfold identity labels fixedTypes
  rw [hname, ha, hb, List.map_cons, List.map_cons, List.map_cons, List.map_cons, hlabel, hfirst,
    hrest.1, hrest.2]

theorem seamsFrom_append_cons_cons (before : String) (pre post : List Argument)
    {x y x' y' : Argument}
    (hx : x'.externalName = x.externalName) (hy : y'.typeText = y.typeText)
    (h : x'.typeText ++ y'.externalName = x.typeText ++ y.externalName) :
    seamsFrom before (pre ++ x' :: y' :: post) = seamsFrom before (pre ++ x :: y :: post) := by
  induction pre generalizing before with
  | nil =>
    simp only [List.nil_append, seamsFrom]
    rw [hx, hy, h]
  | cons a pre ih =>
    rw [List.cons_append, List.cons_append, seamsFrom, seamsFrom, ih]

/-- An open seam, cut in the other way, gives an overload with the same key and other types. -/
theorem exists_key_eq_of_not_seamsClosed {a : Overload} (h : ¬ a.SeamsClosed) :
    ∃ b : Overload, a.key = b.key ∧ a.identity ≠ b.identity := by
  obtain ⟨first, rest, ha, hfirst⟩ := a.arguments_eq_cons
  unfold SeamsClosed at h
  rw [ha, List.tail_cons, List.isChain_iff_forall_rel_of_append_cons_cons] at h
  push Not at h
  obtain ⟨x, y, pre, post, rfl, hopen⟩ := h
  obtain ⟨x', y', hxn, hxl, hxt, hyn, hyt, hcut⟩ :=
    Argument.exists_cut_of_opensInto (eq_true_of_ne_false hopen)
  have hnames : (first :: (pre ++ x' :: y' :: post)).map (·.name) = a.arguments.map (·.name) := by
    rw [ha]
    simp [hxn, hyn]
  obtain ⟨b, hname, hb⟩ : ∃ b : Overload, b.name = a.name ∧
      b.arguments = first :: (pre ++ x' :: y' :: post) :=
    ⟨⟨a.name, none, _, hnames ▸ a.names_nodup, first, rfl, hfirst⟩, rfl, rfl⟩
  refine ⟨b, ?_, ?_⟩
  · rw [key_eq_iff, hname, seams, seams, ha, hb, ← List.cons_append, ← List.cons_append]
    exact ⟨rfl, (seamsFrom_append_cons_cons "" _ post hxl hyt hcut).symm⟩
  · intro he
    have htypes : a.fixedTypes = b.fixedTypes := congrArg (fun i => i.2.2) he
    rw [fixedTypes, fixedTypes, ha, hb] at htypes
    simp only [List.map_cons, List.map_append, List.cons.injEq,
      List.append_cancel_left_eq] at htypes
    exact hxt htypes.2.1.symm

/-- Labels and types are all that a key shows of the arguments. -/
theorem key_eq_of_identity_eq {a b : Overload} (h : a.identity = b.identity) : a.key = b.key := by
  have pieces : ∀ o : Overload,
      (o.arguments.map fun a => a.externalName ++ ":" ++ a.fixedTypeName.getD "") =
        List.zipWith (fun label type => label ++ ":" ++ type.getD "") o.labels o.fixedTypes := by
    intro o
    simp [labels, fixedTypes, List.zipWith_map]
  simp only [identity, Prod.mk.injEq] at h
  obtain ⟨hname, hlabels, htypes⟩ := h
  rw [key, key, pieces, pieces, hname, hlabels, htypes]

/-- The key tells an overload from all others exactly when none of its seams is open. -/
theorem key_faithful_iff (a : Overload) :
    (∀ b : Overload, a.key = b.key ↔ a.identity = b.identity) ↔ a.SeamsClosed := by
  constructor
  · intro h
    by_contra hopen
    obtain ⟨b, hkey, hne⟩ := exists_key_eq_of_not_seamsClosed hopen
    exact hne ((h b).1 hkey)
  · intro hc b
    exact ⟨identity_eq_of_key_eq hc, key_eq_of_identity_eq⟩

end Overload

end Lanewise
