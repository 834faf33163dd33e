import Lanewise.FileTree.Operation

/-!
# Walking along a path

Without links, the locations that a path passes depend on its names only, and the files decide
whether it can be walked: every location that it passes has to be a directory. So a path that can be
walked leads to the same place after any change that leaves directories as they are.
-/

namespace Lanewise

namespace FileTree

/-- The location that a name leads to. -/
def step (here : Location) (name : String) : Location :=
  if name = above then here.dropLast else here ++ [name]

/-- The location that some names lead to. -/
def follow (here : Location) (names : List String) : Location :=
  names.foldl step here

/-- The locations that are passed on the way along some names, where it ends among them. -/
def walk (here : Location) : List String → List Location
  | [] => []
  | name :: rest => step here name :: walk (step here name) rest

/-- Some names lead from the top to a directory. -/
structure Leads (t : FileTree) (names : List String) : Prop where
  /-- All that is passed are directories. -/
  passed : ∀ l ∈ walk [] names, t.find? l = some .directory
  /-- No name is too long. -/
  fits : ∀ name ∈ names, name = above ∨ name.utf8ByteSize ≤ nameLimit

/-- A location below directories only, which itself is one. -/
def Reached (t : FileTree) (here : Location) : Prop :=
  ∀ l, l <+: here → t.find? l = some .directory

theorem reached_nil (t : FileTree) : t.Reached [] := by
  intro l hl
  rw [List.prefix_nil.1 hl, find?_nil]

theorem Reached.dropLast {t : FileTree} {here : Location} (h : t.Reached here) :
    t.Reached here.dropLast :=
  fun l hl => h l (hl.trans (List.dropLast_prefix here))

theorem Reached.concat {t : FileTree} {here : Location} (h : t.Reached here) {name : String}
    (hd : t.find? (here ++ [name]) = some .directory) : t.Reached (here ++ [name]) := by
  intro l hl
  rcases List.prefix_concat_iff.1 hl with rfl | hl
  · exact hd
  · exact h l hl

@[simp]
theorem follow_nil (here : Location) : follow here [] = here := rfl

@[simp]
theorem follow_cons (here : Location) (name : String) (rest : List String) :
    follow here (name :: rest) = follow (step here name) rest := rfl

@[simp]
theorem walk_nil (here : Location) : walk here [] = [] := rfl

@[simp]
theorem walk_cons (here : Location) (name : String) (rest : List String) :
    walk here (name :: rest) = step here name :: walk (step here name) rest := rfl

theorem follow_append (here : Location) (a b : List String) :
    follow here (a ++ b) = follow (follow here a) b := by
  simp [follow]

theorem walk_append (here : Location) (a b : List String) :
    walk here (a ++ b) = walk here a ++ walk (follow here a) b := by
  induction a generalizing here with
  | nil => rfl
  | cons name rest ih => simp [ih]

theorem step_name {name : String} (hn : name ≠ above) (here : Location) :
    step here name = here ++ [name] := by
  simp [step, hn]

/-- Descending succeeds along names that are not too long and pass directories only. -/
theorem descend_eq_ok_iff {t : FileTree} {here : Location} (hr : t.Reached here)
    (names : List String) (there : Location) :
    t.descend here names = .ok there ↔ there = follow here names ∧
      (∀ l ∈ walk here names, t.find? l = some .directory) ∧
      ∀ name ∈ names, name = above ∨ name.utf8ByteSize ≤ nameLimit := by
  induction names generalizing here with
  | nil => simp [descend, eq_comm]
  | cons name rest ih =>
    rw [descend, follow_cons, walk_cons, List.forall_mem_cons, List.forall_mem_cons]
    by_cases hup : name = above
    · have hd := hr.dropLast
      rw [if_pos hup, ih hd, step, if_pos hup]
      simp [hup, hd _ List.prefix_rfl]
    · rw [if_neg hup, step_name hup]
      by_cases hlong : nameLimit < name.utf8ByteSize
      · rw [if_pos hlong]
        constructor
        · rintro ⟨⟩
        · rintro ⟨-, -, hfits, -⟩
          rcases hfits with h | h
          · exact absurd h hup
          · omega
      · rw [if_neg hlong]
        have hfits : name.utf8ByteSize ≤ nameLimit := Nat.le_of_not_lt hlong
        cases hf : t.find? (here ++ [name]) with
        | none => simp
        | some node =>
          cases node with
          | file content => simp
          | directory =>
            simp [ih (hr.concat hf), hfits]

theorem descend_nil_eq_ok_iff {t : FileTree} {names : List String} {there : Location} :
    t.descend [] names = .ok there ↔ there = follow [] names ∧ t.Leads names := by
  rw [descend_eq_ok_iff t.reached_nil]
  exact ⟨fun h => ⟨h.1, h.2.1, h.2.2⟩, fun h => ⟨h.1, h.2.passed, h.2.fits⟩⟩

theorem not_leads_of_descend {t : FileTree} {names : List String} {reason : FileError.Reason}
    (h : t.descend [] names = .error reason) : ¬ t.Leads names := by
  intro hleads
  rw [descend_nil_eq_ok_iff.2 ⟨rfl, hleads⟩] at h
  cases h

theorem Leads.nil (t : FileTree) : t.Leads [] :=
  ⟨by simp, by simp⟩

theorem walk_concat {front : List String} {name : String} (hnamed : name ≠ above) :
    walk [] (front ++ [name]) = walk [] front ++ [follow [] front ++ [name]] := by
  rw [walk_append, walk_cons, walk_nil, step_name hnamed]

/-- Without dots, a path passes what is above its location and that itself. -/
theorem prefix_of_mem_walk {here : Location} {names : List String} (h : above ∉ names)
    {l : Location} (hl : l ∈ walk here names) : l <+: here ++ names := by
  induction names generalizing here with
  | nil => cases hl
  | cons name rest ih =>
    rw [List.mem_cons, not_or] at h
    rw [walk_cons, step_name (Ne.symm h.1), List.mem_cons] at hl
    rw [List.append_cons]
    rcases hl with rfl | hl
    · exact List.prefix_append _ _
    · exact ih h.2 hl

theorem follow_of_not_mem {here : Location} {names : List String} (h : above ∉ names) :
    follow here names = here ++ names := by
  induction names generalizing here with
  | nil => rw [follow_nil, List.append_nil]
  | cons name rest ih =>
    rw [List.mem_cons, not_or] at h
    rw [follow_cons, step_name (Ne.symm h.1), ih h.2, List.append_assoc, List.singleton_append]

theorem leads_concat_iff {t : FileTree} {front : List String} {name : String}
    (hnamed : name ≠ above) :
    t.Leads (front ++ [name]) ↔ t.Leads front ∧ name.utf8ByteSize ≤ nameLimit ∧
      t.find? (follow [] front ++ [name]) = some .directory := by
  constructor
  · rintro ⟨hpassed, hfits⟩
    rw [walk_concat hnamed, List.forall_mem_append, List.forall_mem_singleton] at hpassed
    rw [List.forall_mem_append, List.forall_mem_singleton] at hfits
    exact ⟨⟨hpassed.1, hfits.1⟩, hfits.2.resolve_left hnamed, hpassed.2⟩
  · rintro ⟨⟨hpassed, hfront⟩, hfits, hd⟩
    refine ⟨?_, ?_⟩
    · rw [walk_concat hnamed, List.forall_mem_append, List.forall_mem_singleton]
      exact ⟨hpassed, hd⟩
    · rw [List.forall_mem_append, List.forall_mem_singleton]
      exact ⟨hfront, .inr hfits⟩

/-- Where a walk along directories ends, there is a directory. -/
theorem Leads.find?_follow {t : FileTree} {names : List String} (h : t.Leads names) :
    t.find? (follow [] names) = some .directory := by
  rcases List.eq_nil_or_concat names with rfl | ⟨front, name, rfl⟩
  · rfl
  · refine h.passed _ ?_
    rw [List.concat_eq_append, walk_append, follow_append]
    simp

/-- The same locations are directories in two trees. -/
def SameDirectories (t u : FileTree) : Prop :=
  ∀ l, t.find? l = some .directory ↔ u.find? l = some .directory

theorem SameDirectories.refl (t : FileTree) : t.SameDirectories t := fun _ => Iff.rfl

theorem SameDirectories.trans {t u v : FileTree} (h : t.SameDirectories u)
    (h' : u.SameDirectories v) : t.SameDirectories v :=
  fun l => (h l).trans (h' l)

/-- The top is a directory. -/
theorem ne_nil_of_find?_ne_directory {t : FileTree} {l : Location}
    (h : t.find? l ≠ some .directory) : l ≠ [] := by
  rintro rfl
  exact h (find?_nil t)

theorem ne_nil_of_find?_file {t : FileTree} {l : Location} {content : ByteArray}
    (h : t.find? l = some (.file content)) : l ≠ [] :=
  ne_nil_of_find?_ne_directory (t := t) (by simp [h])

/-- A file in a place where no directory is leaves the directories as they are. -/
theorem SameDirectories.insert_file {t : FileTree} {new : Location} (below : new ≠ [])
    (hfree : t.find? new ≠ some .directory) (content : ByteArray) :
    t.SameDirectories (t.insert new (.file content)) := by
  intro l
  rw [find?_insert t below]
  by_cases hl : l = new
  · simp [hl, hfree]
  · rw [if_neg hl]

/-- Where a path can be walked to depends on the directories only. -/
theorem SameDirectories.leads_iff {t u : FileTree} (h : t.SameDirectories u)
    (names : List String) : t.Leads names ↔ u.Leads names :=
  ⟨fun k => ⟨fun l hl => (h l).1 (k.passed l hl), k.fits⟩,
    fun k => ⟨fun l hl => (h l).2 (k.passed l hl), k.fits⟩⟩

/-- What the names of a path lead to. -/
inductive LeadsTo (t : FileTree) : List String → Place → Prop
  | top : t.LeadsTo [] (.unnamed [])
  | dots {front : List String} (hleads : t.Leads (front ++ [above])) :
    t.LeadsTo (front ++ [above]) (.unnamed (follow [] (front ++ [above])))
  | entry {front : List String} {name : String} (hnamed : name ≠ above) (hleads : t.Leads front)
    (hfits : name.utf8ByteSize ≤ nameLimit) :
    t.LeadsTo (front ++ [name]) (.entry (follow [] front) name)

theorem LeadsTo.location {t : FileTree} {names : List String} {found : Place}
    (h : t.LeadsTo names found) : found.location = follow [] names := by
  cases h with
  | top => rfl
  | dots => rfl
  | entry hnamed => rw [follow_append, follow_cons, step_name hnamed, follow_nil, Place.location]

theorem leadsTo_nil_iff {t : FileTree} {found : Place} :
    t.LeadsTo [] found ↔ found = .unnamed [] := by
  constructor
  · generalize hn : ([] : List String) = names
    rintro (_ | _ | _)
    · rfl
    all_goals simp at hn
  · rintro rfl
    exact .top

theorem leadsTo_concat_iff {t : FileTree} {front : List String} {name : String} {found : Place} :
    t.LeadsTo (front ++ [name]) found ↔
      (name = above ∧ t.Leads (front ++ [name]) ∧ found = .unnamed (follow [] (front ++ [name]))) ∨
      (name ≠ above ∧ t.Leads front ∧ name.utf8ByteSize ≤ nameLimit ∧
        found = .entry (follow [] front) name) := by
  constructor
  · generalize hn : front ++ [name] = names
    intro h
    cases h with
    | top => simp at hn
    | dots hleads =>
      obtain ⟨rfl, hname⟩ := List.append_inj' hn rfl
      obtain rfl := List.singleton_inj.1 hname
      exact .inl ⟨rfl, hleads, rfl⟩
    | entry hnamed hleads hfits =>
      obtain ⟨rfl, hname⟩ := List.append_inj' hn rfl
      obtain rfl := List.singleton_inj.1 hname
      exact .inr ⟨hnamed, hleads, hfits, rfl⟩
  · rintro (⟨rfl, hleads, rfl⟩ | ⟨hnamed, hleads, hfits, rfl⟩)
    · exact .dots hleads
    · exact .entry hnamed hleads hfits

/-- A path that is short enough leads where its names do. -/
theorem place_eq_ok_iff {t : FileTree} {p : Path} {found : Place} :
    t.place p = .ok found ↔
      p.toString.utf8ByteSize ≤ pathLimit ∧ t.LeadsTo p.parts found := by
  unfold place
  by_cases hlong : pathLimit < p.toString.utf8ByteSize
  · rw [if_pos hlong]
    constructor
    · rintro ⟨⟩
    · rintro ⟨hs, -⟩
      omega
  rw [if_neg hlong, and_iff_right (Nat.le_of_not_lt hlong)]
  clear hlong
  obtain ⟨anchor, parts⟩ := p
  simp only [Path.name?, Path.parent]
  rcases List.eq_nil_or_concat parts with rfl | ⟨front, name, rfl⟩
  · rw [leadsTo_nil_iff, List.getLast?_nil, Except.ok.injEq, eq_comm]
  · rw [List.concat_eq_append, leadsTo_concat_iff, List.getLast?_concat, List.dropLast_concat]
    by_cases hup : name = above
    · simp only [hup, if_true, ne_eq, not_true_eq_false, false_and, or_false, true_and]
      cases hd : t.descend [] (front ++ [above]) with
      | error reason => simp [Except.map, not_leads_of_descend hd]
      | ok there =>
        obtain ⟨rfl, hleads⟩ := descend_nil_eq_ok_iff.1 hd
        simp [Except.map, hleads, eq_comm]
    · simp only [hup, if_false, ne_eq, not_false_eq_true, false_and, false_or, true_and]
      cases hd : t.descend [] front with
      | error reason => simp [bind, Except.bind, not_leads_of_descend hd]
      | ok there =>
        obtain ⟨rfl, hleads⟩ := descend_nil_eq_ok_iff.1 hd
        by_cases hl : nameLimit < name.utf8ByteSize
        · simp [bind, Except.bind, hleads, hl, throw, throwThe, MonadExceptOf.throw, Nat.not_le.2 hl]
        · simp [bind, Except.bind, hleads, hl, Nat.le_of_not_lt hl, pure, Except.pure, eq_comm]

end FileTree

open FileTree

/-- The location that a path leads to. -/
def Path.location (p : Path) : Location :=
  follow [] p.parts

theorem Path.location_child (p : Path) {name : String} (hnamed : name ≠ above) :
    (p.child name).location = p.location ++ [name] := by
  rw [Path.location, Path.child, follow_append, follow_cons, step_name hnamed]
  rfl

namespace FileTree

/-- A name below a path whose directory can be walked to. -/
structure Admits (t : FileTree) (root : Path) (name : String) : Prop where
  /-- The path leads to a directory. -/
  leads : t.Leads root.parts
  /-- The name is not too long. -/
  fits : name.utf8ByteSize ≤ nameLimit
  /-- The path of the name is not too long. -/
  short : (root.child name).toString.utf8ByteSize ≤ pathLimit

theorem SameDirectories.admits_iff {t u : FileTree} (h : t.SameDirectories u) (root : Path)
    (name : String) : t.Admits root name ↔ u.Admits root name :=
  ⟨fun k => ⟨(h.leads_iff _).1 k.leads, k.fits, k.short⟩,
    fun k => ⟨(h.leads_iff _).2 k.leads, k.fits, k.short⟩⟩

theorem place_child_eq_ok_iff {t : FileTree} {root : Path} {name : String}
    (hnamed : name ≠ above) {found : Place} :
    t.place (root.child name) = .ok found ↔
      t.Admits root name ∧ found = .entry root.location name := by
  rw [place_eq_ok_iff, Path.child, leadsTo_concat_iff]
  constructor
  · rintro ⟨hshort, ⟨hup, -⟩ | ⟨-, hleads, hfits, rfl⟩⟩
    · exact absurd hup hnamed
    · exact ⟨⟨hleads, hfits, hshort⟩, rfl⟩
  · rintro ⟨⟨hleads, hfits, hshort⟩, rfl⟩
    exact ⟨hshort, .inr ⟨hnamed, hleads, hfits, rfl⟩⟩

theorem not_admits_of_place {t : FileTree} {root : Path} {name : String} (hnamed : name ≠ above)
    {reason : FileError.Reason} (h : t.place (root.child name) = .error reason) :
    ¬ t.Admits root name := by
  intro hadmits
  rw [(place_child_eq_ok_iff hnamed).2 ⟨hadmits, rfl⟩] at h
  cases h

end FileTree

end Lanewise
