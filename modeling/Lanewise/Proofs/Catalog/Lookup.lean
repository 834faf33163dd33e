import Lanewise.Proofs.Catalog.Reference

/-!
# Looking up overloads

There are two ways to an overload: by its key, and by its name with labels and fixed types if they
are needed. A key finds at most one overload, because a catalog is refused at the first key that
repeats an earlier one. A question by name has one of three answers, and which one depends only on
the overloads that fit it: the only one, or that there is none, or the keys of all of them. Name,
labels and types together are never ambiguous, and they find what the key finds.
-/

namespace Lanewise

/-! ## The index of keys -/

/-- The first text that repeats an earlier one. -/
theorem firstRepeated_eq_some_iff {seen texts : List String} {text : String} :
    firstRepeated seen texts = some text ↔
      ∃ before after, texts = before ++ text :: after ∧ before.Nodup ∧
        (∀ earlier ∈ before, earlier ∉ seen) ∧ (text ∈ seen ∨ text ∈ before) := by
  induction texts generalizing seen with
  | nil => simp [firstRepeated]
  | cons first rest ih =>
    rw [firstRepeated]
    by_cases hold : first ∈ seen
    · rw [if_pos hold, Option.some.injEq]
      constructor
      · rintro rfl
        exact ⟨[], rest, rfl, List.nodup_nil, by simp, .inl hold⟩
      · rintro ⟨before, after, htexts, -, hnew, -⟩
        cases before with
        | nil => exact (List.cons.inj htexts).1
        | cons earlier before =>
          obtain ⟨rfl, -⟩ := List.cons.inj htexts
          exact absurd hold (hnew first List.mem_cons_self)
    · rw [if_neg hold, ih]
      constructor
      · rintro ⟨before, after, rfl, hnodup, hnew, hrepeats⟩
        simp only [List.mem_cons, not_or] at hnew hrepeats
        refine ⟨first :: before, after, rfl, ?_, ?_, ?_⟩
        · exact List.nodup_cons.2 ⟨fun hm => (hnew first hm).1 rfl, hnodup⟩
        · rw [List.forall_mem_cons]
          exact ⟨hold, fun earlier hm => (hnew earlier hm).2⟩
        · rw [List.mem_cons]
          tauto
      · rintro ⟨before, after, htexts, hnodup, hnew, hrepeats⟩
        cases before with
        | nil =>
          obtain ⟨rfl, -⟩ := List.cons.inj htexts
          rcases hrepeats with h | h
          · exact absurd h hold
          · cases h
        | cons earlier before =>
          obtain ⟨rfl, rfl⟩ := List.cons.inj htexts
          rw [List.nodup_cons] at hnodup
          rw [List.forall_mem_cons] at hnew
          rw [List.mem_cons] at hrepeats
          refine ⟨before, after, rfl, hnodup.2, fun other hm => ?_, ?_⟩
          · rw [List.mem_cons, not_or]
            refine ⟨?_, hnew.2 other hm⟩
            rintro rfl
            exact hnodup.1 hm
          · rw [List.mem_cons]
            tauto

namespace Catalog

/-- An overload is the first in some sections whose key an earlier one has. -/
def IsFirstRepeat (sections : List Section) (o : Overload) : Prop :=
  ∃ before after, sections.flatMap Section.overloads = before ++ o :: after ∧
    (before.map Overload.key).Nodup ∧ o.key ∈ before.map Overload.key

/-- Sections are refused at the first key that repeats an earlier one, and for no other reason. -/
theorem ofSections_eq_error_iff {sections : List Section} {failure : Failure} :
    ofSections sections = .error failure ↔
      ∃ o, IsFirstRepeat sections o ∧ failure = .duplicateEntry o.key := by
  have hrepeat : ∀ key,
      firstRepeated [] ((sections.flatMap Section.overloads).map Overload.key) = some key ↔
        ∃ o, IsFirstRepeat sections o ∧ key = o.key := by
    intro key
    rw [firstRepeated_eq_some_iff]
    constructor
    · rintro ⟨before, after, hkeys, hnodup, -, hrepeats⟩
      obtain ⟨os, os', hos, rfl, hafter⟩ := List.map_eq_append_iff.1 hkeys
      obtain ⟨o, os', rfl, rfl, -⟩ := List.map_eq_cons_iff.1 hafter
      refine ⟨o, ⟨os, os', hos, hnodup, ?_⟩, rfl⟩
      simpa using hrepeats
    · rintro ⟨o, ⟨os, os', hos, hnodup, hrepeats⟩, rfl⟩
      refine ⟨os.map Overload.key, os'.map Overload.key, ?_, hnodup, by simp, .inr hrepeats⟩
      rw [hos, List.map_append, List.map_cons]
  unfold ofSections
  split
  · rename_i hunique
    rw [hunique] at hrepeat
    constructor
    · intro h
      cases h
    · rintro ⟨o, ho, -⟩
      cases (hrepeat o.key).2 ⟨o, ho, rfl⟩
  · rename_i key hfound
    obtain ⟨o, ho, rfl⟩ := (hrepeat key).1 hfound
    rw [Except.error.injEq]
    constructor
    · rintro rfl
      exact ⟨o, ho, rfl⟩
    · rintro ⟨o', ho', rfl⟩
      have hsame := (hrepeat o'.key).2 ⟨o', ho', rfl⟩
      rw [hfound, Option.some.injEq] at hsame
      rw [hsame]

theorem ofSections_eq_ok_iff {sections : List Section} {c : Catalog} :
    ofSections sections = .ok c ↔ c.sections = sections := by
  unfold ofSections
  split
  · rw [Except.ok.injEq]
    constructor
    · rintro rfl
      rfl
    · rintro rfl
      rfl
  · rename_i key hfound
    constructor
    · intro h
      cases h
    · rintro rfl
      rw [firstRepeated_eq_none_iff.2 ⟨c.keys_nodup, by simp⟩] at hfound
      cases hfound

/-- Sections are refused exactly when two of their overloads have the same key. -/
theorem exists_ofSections_eq_error_iff (sections : List Section) :
    (∃ failure, ofSections sections = .error failure) ↔
      ¬ ((sections.flatMap Section.overloads).map Overload.key).Nodup := by
  constructor
  · rintro ⟨failure, h⟩ hnodup
    obtain ⟨o, ⟨before, after, hos, -, hrepeats⟩, -⟩ := ofSections_eq_error_iff.1 h
    rw [hos, List.map_append, List.map_cons, List.nodup_append] at hnodup
    exact hnodup.2.2 _ hrepeats _ List.mem_cons_self rfl
  · intro hrepeated
    cases h : ofSections sections with
    | error failure => exact ⟨failure, rfl⟩
    | ok c => exact absurd (ofSections_eq_ok_iff.1 h ▸ c.keys_nodup) hrepeated

/-! ## Answers -/

/-- An overload has the name that a question asks for, and the labels and the fixed types if it
asks for any. -/
structure Query.Fits (q : Query) (o : Overload) : Prop where
  name : q.name = .text o.name.text
  labels : ∀ labels, q.labels = some labels → labels = o.labels.map .text
  fixedTypes : ∀ types, q.fixedTypes = some types → types = o.fixedTypes.map .ofText?

/-- The answer to a question. It depends only on the overloads that fit. -/
inductive IsAnswer (c : Catalog) (q : Query) : Except Failure Overload → Prop
  /-- One overload fits and no other does. -/
  | found {o : Overload} (mem : o ∈ c.overloads) (fits : q.Fits o)
    (only : ∀ other ∈ c.overloads, q.Fits other → other = o) : IsAnswer c q (.ok o)
  /-- No overload fits. -/
  | unknown (none : ∀ o ∈ c.overloads, ¬ q.Fits o) :
    IsAnswer c q (.error (.unknownFunction q.name.plain))
  /-- Several overloads fit. The answer has their keys, in the order of the catalog, and no other.
  -/
  | ambiguous {a b : Overload} {keys : List String} (memA : a ∈ c.overloads)
    (memB : b ∈ c.overloads) (differ : a ≠ b) (fitsA : q.Fits a) (fitsB : q.Fits b)
    (inOrder : keys.Sublist c.keys) (exact : ∀ o ∈ c.overloads, o.key ∈ keys ↔ q.Fits o) :
    IsAnswer c q (.error (.ambiguousFunction q.name.plain keys))

theorem Query.admits_iff (q : Query) (o : Overload) : q.admits o = true ↔ q.Fits o := by
  obtain ⟨name, labels, fixedTypes⟩ := q
  unfold admits
  rw [Bool.and_eq_true, Bool.and_eq_true, decide_eq_true_iff, Option.all_eq_true,
    Option.all_eq_true]
  simp only [decide_eq_true_iff]
  constructor
  · rintro ⟨⟨hname, hlabels⟩, htypes⟩
    exact ⟨hname.symm, hlabels, htypes⟩
  · rintro ⟨hname, hlabels, htypes⟩
    exact ⟨⟨hname.symm, hlabels⟩, htypes⟩

theorem mem_filter_admits {c : Catalog} {q : Query} {o : Overload} :
    o ∈ c.overloads.filter q.admits ↔ o ∈ c.overloads ∧ q.Fits o := by
  rw [List.mem_filter, Query.admits_iff]

/-- The keys of some of the overloads tell which these are. -/
theorem key_mem_map_filter {c : Catalog} {q : Query} {o : Overload} (ho : o ∈ c.overloads) :
    o.key ∈ (c.overloads.filter q.admits).map Overload.key ↔ q.Fits o := by
  constructor
  · intro hkey
    obtain ⟨other, hother, hsame⟩ := List.mem_map.1 hkey
    obtain ⟨hmem, hfits⟩ := mem_filter_admits.1 hother
    rwa [← List.inj_on_of_nodup_map c.keys_nodup hmem ho hsame]
  · intro hfits
    exact List.mem_map_of_mem (mem_filter_admits.2 ⟨ho, hfits⟩)

theorem isAnswer_lookup (c : Catalog) (q : Query) : c.IsAnswer q (c.lookup q) := by
  have hmem : ∀ o, o ∈ c.overloads.filter q.admits ↔ o ∈ c.overloads ∧ q.Fits o :=
    fun o => mem_filter_admits
  have hnodup : (c.overloads.filter q.admits).Nodup := c.nodup_overloads.filter _
  have hkeys : ((c.overloads.filter q.admits).map Overload.key).Sublist c.keys :=
    List.filter_sublist.map _
  have hexact : ∀ o ∈ c.overloads,
      (o.key ∈ (c.overloads.filter q.admits).map Overload.key ↔ q.Fits o) :=
    fun o ho => key_mem_map_filter ho
  unfold lookup
  generalize c.overloads.filter q.admits = fitting at hmem hnodup hkeys hexact
  match fitting with
  | [] =>
    refine .unknown fun o ho hfits => ?_
    cases (hmem o).2 ⟨ho, hfits⟩
  | [o] =>
    obtain ⟨ho, hfits⟩ := (hmem o).1 List.mem_cons_self
    refine .found ho hfits fun other hother hother' => ?_
    exact List.mem_singleton.1 ((hmem other).2 ⟨hother, hother'⟩)
  | a :: b :: rest =>
    obtain ⟨ha, ha'⟩ := (hmem a).1 List.mem_cons_self
    obtain ⟨hb, hb'⟩ := (hmem b).1 (List.mem_cons_of_mem _ List.mem_cons_self)
    have hne : a ≠ b := by
      rintro rfl
      exact (List.nodup_cons.1 hnodup).1 List.mem_cons_self
    exact .ambiguous ha hb hne ha' hb' hkeys hexact

/-- What is taken from a list without repetitions, in order, is told by its members. -/
theorem filter_mem_eq_of_sublist {keys all : List String} (hnodup : all.Nodup)
    (h : keys.Sublist all) : all.filter (· ∈ keys) = keys := by
  induction h with
  | slnil => rfl
  | cons key h ih =>
    rw [List.nodup_cons] at hnodup
    have hout : key ∉ _ := fun hm => hnodup.1 (h.subset hm)
    rw [List.filter_cons_of_neg (by simpa using hout), ih hnodup.2]
  | @cons_cons keys all key h ih =>
    rw [List.nodup_cons] at hnodup
    have hrest : all.filter (· ∈ key :: keys) = all.filter (· ∈ keys) := by
      refine List.filter_congr fun other hm => ?_
      have hne : other ≠ key := fun he => hnodup.1 (he ▸ hm)
      simp [hne]
    rw [List.filter_cons_of_pos (by simp), hrest, ih hnodup.2]

/-- A question has one answer. -/
theorem IsAnswer.unique {c : Catalog} {q : Query} {r r' : Except Failure Overload}
    (h : c.IsAnswer q r) (h' : c.IsAnswer q r') : r = r' := by
  cases h with
  | found mem fits only =>
    cases h' with
    | found mem' fits' _ => rw [only _ mem' fits']
    | unknown none => exact absurd fits (none _ mem)
    | ambiguous memA memB differ fitsA fitsB _ _ =>
      exact absurd ((only _ memA fitsA).trans (only _ memB fitsB).symm) differ
  | unknown none =>
    cases h' with
    | found mem' fits' _ => exact absurd fits' (none _ mem')
    | unknown _ => rfl
    | ambiguous memA _ _ fitsA _ _ _ => exact absurd fitsA (none _ memA)
  | @ambiguous _ _ keys memA memB differ fitsA fitsB inOrder exact =>
    cases h' with
    | found _ _ only' =>
      exact absurd ((only' _ memA fitsA).trans (only' _ memB fitsB).symm) differ
    | unknown none => exact absurd fitsA (none _ memA)
    | @ambiguous _ _ keys' _ _ _ _ _ inOrder' exact' =>
      have hsame : ∀ key ∈ c.keys, key ∈ keys ↔ key ∈ keys' := by
        intro key hkey
        obtain ⟨o, ho, rfl⟩ := List.mem_map.1 hkey
        rw [exact o ho, exact' o ho]
      have hkeys : keys = keys' := by
        rw [← filter_mem_eq_of_sublist c.keys_nodup inOrder,
          ← filter_mem_eq_of_sublist c.keys_nodup inOrder']
        exact List.filter_congr fun key hkey => by simp [hsame key hkey]
      rw [hkeys]

theorem lookup_eq_iff (c : Catalog) (q : Query) (r : Except Failure Overload) :
    c.lookup q = r ↔ c.IsAnswer q r := by
  constructor
  · rintro rfl
    exact c.isAnswer_lookup q
  · exact (c.isAnswer_lookup q).unique

/-- The question that asks for all that tells an overload from others. -/
def Query.ofOverload (o : Overload) : Query where
  name := .text o.name.text
  labels := some (o.labels.map .text)
  fixedTypes := some (o.fixedTypes.map .ofText?)

theorem ofText?_injective : Function.Injective Datum.ofText? := by
  intro a b h
  cases a <;> cases b <;> simp_all [Datum.ofText?]

/-- Two overloads of a catalog that fit one full question are the same. -/
theorem Query.Fits.unique {c : Catalog} {q : Query} (hlabels : q.labels.isSome)
    (htypes : q.fixedTypes.isSome) {a b : Overload} (ha : a ∈ c.overloads) (hb : b ∈ c.overloads)
    (hfits : q.Fits a) (hfits' : q.Fits b) : a = b := by
  obtain ⟨labels, hlabels⟩ := Option.isSome_iff_exists.1 hlabels
  obtain ⟨types, htypes⟩ := Option.isSome_iff_exists.1 htypes
  have hname : a.name.text = b.name.text :=
    Datum.text.inj (hfits.name.symm.trans hfits'.name)
  have hsameLabels : a.labels = b.labels := by
    refine List.map_injective_iff.2 (fun _ _ => Datum.text.inj) ?_
    exact (hfits.labels _ hlabels).symm.trans (hfits'.labels _ hlabels)
  have hsameTypes : a.fixedTypes = b.fixedTypes := by
    refine List.map_injective_iff.2 ofText?_injective ?_
    exact (hfits.fixedTypes _ htypes).symm.trans (hfits'.fixedTypes _ htypes)
  refine eq_of_identity_eq ha hb ?_
  unfold Overload.identity
  rw [hname, hsameLabels, hsameTypes]

/-- A question that gives name, labels and types is not ambiguous. -/
theorem lookup_ne_ambiguousFunction (c : Catalog) {q : Query} (hlabels : q.labels.isSome)
    (htypes : q.fixedTypes.isSome) (name : String) (keys : List String) :
    c.lookup q ≠ .error (.ambiguousFunction name keys) := by
  intro h
  have hanswer := c.isAnswer_lookup q
  rw [h] at hanswer
  cases hanswer with
  | ambiguous memA memB differ fitsA fitsB _ _ =>
    exact differ (Query.Fits.unique hlabels htypes memA memB fitsA fitsB)

theorem lookup_ofOverload {c : Catalog} {o : Overload} (ho : o ∈ c.overloads) :
    c.lookup (.ofOverload o) = .ok o := by
  have hfits : (Query.ofOverload o).Fits o := by
    refine ⟨rfl, ?_, ?_⟩
    · rintro _ ⟨⟩
      rfl
    · rintro _ ⟨⟩
      rfl
  rw [lookup_eq_iff]
  exact .found ho hfits fun other hother hother' =>
    Query.Fits.unique rfl rfl hother ho hother' hfits

theorem find_eq_ok_iff (c : Catalog) (key : String) (o : Overload) :
    c.find key = .ok o ↔ o ∈ c.overloads ∧ o.key = key := by
  rw [← find?_eq_some_iff]
  unfold find
  cases c.find? key <;> simp

/-- Looking up by name and by key agree. Sections are refused exactly when two of their overloads
have the same key, and then the first key is named that repeats an earlier one. In every catalog
that is accepted each question gets its answer; full questions are not ambiguous; and each overload
is found by its name, labels and types as it is by its key. -/
theorem lookup_and_find (sections : List Section) :
    ((∃ failure, ofSections sections = .error failure) ↔
      ¬ ((sections.flatMap Section.overloads).map Overload.key).Nodup) ∧
    (∀ failure, ofSections sections = .error failure ↔
      ∃ o, IsFirstRepeat sections o ∧ failure = .duplicateEntry o.key) ∧
    ∀ c, ofSections sections = .ok c → c.sections = sections ∧
      (∀ (q : Query) (r : Except Failure Overload), c.lookup q = r ↔ c.IsAnswer q r) ∧
      (∀ q : Query, q.labels.isSome → q.fixedTypes.isSome →
        ∀ name keys, c.lookup q ≠ .error (.ambiguousFunction name keys)) ∧
      (∀ key o, c.find key = .ok o ↔ o ∈ c.overloads ∧ o.key = key) ∧
      ∀ o ∈ c.overloads, c.lookup (.ofOverload o) = .ok o ∧ c.find o.key = .ok o := by
  refine ⟨exists_ofSections_eq_error_iff sections, fun failure => ofSections_eq_error_iff,
    fun c hc => ⟨ofSections_eq_ok_iff.1 hc, c.lookup_eq_iff, fun q hlabels htypes name keys =>
      c.lookup_ne_ambiguousFunction hlabels htypes name keys, c.find_eq_ok_iff, fun o ho => ?_⟩⟩
  exact ⟨lookup_ofOverload ho, (c.find_eq_ok_iff o.key o).2 ⟨ho, rfl⟩⟩

/-- The power with an integer exponent is found among the two with its name and labels. -/
theorem lookup_and_find_integerPower :
    ofSections standard.sections = .ok standard ∧
      standard.lookup ⟨.text "pow", some [.text "_", .text "_"], some [.null, .text "Int"]⟩ =
        .ok Standard.integerPower ∧
      standard.find "pow(_:_:Int)" = .ok Standard.integerPower := by
  have hc : ofSections standard.sections = .ok standard := ofSections_eq_ok_iff.2 rfl
  have ho : Standard.integerPower ∈ standard.overloads :=
    List.mem_append_left _ (List.get_mem _ _)
  obtain ⟨-, -, -, -, hfound⟩ := (lookup_and_find standard.sections).2.2 standard hc
  exact ⟨hc, hfound _ ho⟩

end Catalog

end Lanewise
