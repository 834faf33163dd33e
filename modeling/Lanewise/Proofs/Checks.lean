import Mathlib.Data.List.Basic

/-!
# Checks one after another

A sequence of checks succeeds when each of them does, and its result is put together from theirs.
-/

namespace Lanewise

variable {α β ε : Type}

theorem bind_eq_ok_iff {x : Except ε α} {f : α → Except ε β} {b : β} :
    (x >>= f) = .ok b ↔ ∃ a, x = .ok a ∧ f a = .ok b := by
  cases x with
  | error failure => simp [bind, Except.bind]
  | ok a => simp [bind, Except.bind]

theorem mapM_eq_ok_map {f : α → Except ε β} {g : α → β} {items : List α}
    (h : ∀ item ∈ items, f item = .ok (g item)) : items.mapM f = .ok (items.map g) := by
  induction items with
  | nil => rfl
  | cons item rest ih =>
    rw [List.forall_mem_cons] at h
    rw [List.mapM_cons, h.1, ih h.2]
    rfl

/-- When each check has the result of another one changed, so has the sequence. -/
theorem mapM_eq_map_mapM {γ : Type} {f : α → Except ε γ} {g : α → Except ε β} {h : β → γ}
    {items : List α} (hf : ∀ item ∈ items, f item = (g item).map h) :
    items.mapM f = (items.mapM g).map (List.map h) := by
  induction items with
  | nil => rfl
  | cons item rest ih =>
    rw [List.forall_mem_cons] at hf
    rw [List.mapM_cons, List.mapM_cons, hf.1, ih hf.2]
    cases g item with
    | error failure => rfl
    | ok b =>
      cases rest.mapM g with
      | error failure => rfl
      | ok bs => rfl

/-- What a sequence of checks results in comes from the checks. -/
theorem exists_of_mem_mapM {f : α → Except ε β} {items : List α} {results : List β}
    (h : items.mapM f = .ok results) : ∀ b ∈ results, ∃ item ∈ items, f item = .ok b := by
  induction items generalizing results with
  | nil =>
    obtain rfl : [] = results := Except.ok.inj h
    simp
  | cons item rest ih =>
    rw [List.mapM_cons, bind_eq_ok_iff] at h
    obtain ⟨b, hb, h⟩ := h
    rw [bind_eq_ok_iff] at h
    obtain ⟨bs, hbs, h⟩ := h
    obtain rfl : b :: bs = results := Except.ok.inj h
    rw [List.forall_mem_cons]
    refine ⟨⟨item, List.mem_cons_self, hb⟩, fun b' hb' => ?_⟩
    obtain ⟨item', hitem', hf⟩ := ih hbs b' hb'
    exact ⟨item', List.mem_cons_of_mem item hitem', hf⟩

/-- A sequence of checks goes through its items in order, as their results tell. -/
theorem map_eq_of_mapM {f : α → Except ε β} {item : β → α} {items : List α} {results : List β}
    (h : items.mapM f = .ok results) (hf : ∀ a b, f a = .ok b → item b = a) :
    results.map item = items := by
  induction items generalizing results with
  | nil =>
    obtain rfl : [] = results := Except.ok.inj h
    rfl
  | cons a rest ih =>
    rw [List.mapM_cons, bind_eq_ok_iff] at h
    obtain ⟨b, hb, h⟩ := h
    rw [bind_eq_ok_iff] at h
    obtain ⟨bs, hbs, h⟩ := h
    obtain rfl : b :: bs = results := Except.ok.inj h
    rw [List.map_cons, hf a b hb, ih hbs]

/-- Where `item` tells what each check succeeds on, it tells so for a sequence of checks. -/
theorem mapM_eq_ok_iff {f : α → Except ε β} {item : β → α}
    (hf : ∀ a b, f a = .ok b ↔ item b = a) {items : List α} {results : List β} :
    items.mapM f = .ok results ↔ results.map item = items := by
  constructor
  · intro h
    exact map_eq_of_mapM h fun a b => (hf a b).1
  · rintro rfl
    induction results with
    | nil => rfl
    | cons b rest ih =>
      rw [List.map_cons, List.mapM_cons, (hf _ b).2 rfl, ih]
      rfl

end Lanewise
