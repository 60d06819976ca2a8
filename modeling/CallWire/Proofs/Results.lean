import Mathlib.Data.List.Forall2

/-!
This module contains how steps succeed and fail that come one after another, and how the items of a
list do that each have such a step made on them. The first step that fails says what is wrong.
-/

namespace CallWire

section

variable {ε δ α β : Type} {x : Except ε α} {next : α → Except ε β} {a : α} {b : β} {e : ε}

theorem ok_of_bind (h : x >>= next = .ok b) : ∃ a, x = .ok a ∧ next a = .ok b := by
  cases x with
  | error e => cases h
  | ok a => exact ⟨a, rfl, h⟩

theorem error_of_bind (h : x >>= next = .error e)
    : x = .error e ∨ ∃ a, x = .ok a ∧ next a = .error e := by
  cases x with
  | error e' =>
    cases h
    exact .inl rfl
  | ok a => exact .inr ⟨a, rfl, h⟩

theorem map_eq_error_iff {g : α → β} : x.map g = .error e ↔ x = .error e := by
  cases x <;> simp [Except.map]

theorem mapError_eq_ok_iff {f : ε → δ} : x.mapError f = .ok a ↔ x = .ok a := by
  cases x with
  | error e => exact ⟨nofun, nofun⟩
  | ok b => exact ⟨fun h => congrArg Except.ok (Except.ok.inj h),
      fun h => congrArg Except.ok (Except.ok.inj h)⟩

end

section

variable {α β ε δ : Type} {f : α → Except ε β} {items : List α} {values : List β} {e : ε}

theorem exceptMapM_nil (f : α → Except ε β) : [].mapM f = .ok [] := rfl

theorem exceptMapM_cons (f : α → Except ε β) (item : α) (items : List α)
    : (item :: items).mapM f
        =
      match f item with
      | .error e => .error e
      | .ok value => (items.mapM f).map (value :: ·) := by
  rw [List.mapM_cons]
  cases f item with
  | error e => rfl
  | ok value => rfl

theorem exceptMapM_eq_error_iff
    : items.mapM f = .error e
        ↔
      ∃ front item back, items = front ++ item :: back
        ∧ (∀ x ∈ front, ∃ value, f x = .ok value) ∧ f item = .error e := by
  constructor
  . intro h
    induction items with
    | nil => cases h
    | cons first items ih =>
      rw [exceptMapM_cons] at h
      cases hfirst : f first with
      | error e' =>
        rw [hfirst] at h
        cases h
        exact ⟨[], first, items, rfl, nofun, hfirst⟩
      | ok value =>
        rw [hfirst] at h
        obtain ⟨front, item, back, rfl, hfront, hitem⟩ := ih (map_eq_error_iff.mp h)
        refine ⟨first :: front, item, back, rfl, ?_, hitem⟩
        exact List.forall_mem_cons.mpr ⟨⟨value, hfirst⟩, hfront⟩
  . rintro ⟨front, item, back, rfl, hfront, hitem⟩
    induction front with
    | nil => rw [List.nil_append, exceptMapM_cons, hitem]
    | cons first front ih =>
      obtain ⟨⟨value, hfirst⟩, hfront⟩ := List.forall_mem_cons.mp hfront
      rw [List.cons_append, exceptMapM_cons, hfirst]
      exact map_eq_error_iff.mpr (ih hfront)

theorem exists_exceptMapM_iff
    : (∃ values, items.mapM f = .ok values) ↔ ∀ item ∈ items, ∃ value, f item = .ok value := by
  induction items with
  | nil => exact ⟨fun _ => nofun, fun _ => ⟨[], rfl⟩⟩
  | cons item items ih =>
    rw [exceptMapM_cons, List.forall_mem_cons, ← ih]
    cases f item with
    | error e => simp
    | ok value => cases items.mapM f <;> simp [Except.map]

theorem forall₂_of_exceptMapM (h : items.mapM f = .ok values)
    : List.Forall₂ (fun item value => f item = .ok value) items values := by
  induction items generalizing values with
  | nil =>
    cases h
    exact .nil
  | cons item items ih =>
    rw [exceptMapM_cons] at h
    cases hitem : f item with
    | error e =>
      rw [hitem] at h
      cases h
    | ok value =>
      rw [hitem] at h
      cases hitems : items.mapM f with
      | error e =>
        rw [hitems] at h
        cases h
      | ok more =>
        rw [hitems] at h
        cases h
        exact .cons hitem (ih hitems)

theorem exceptMapM_mapError (f : α → Except ε β) (wrap : ε → δ) (items : List α)
    : items.mapM (fun item => (f item).mapError wrap) = (items.mapM f).mapError wrap := by
  induction items with
  | nil => rfl
  | cons item items ih =>
    rw [exceptMapM_cons, exceptMapM_cons, ih]
    cases f item with
    | error e => rfl
    | ok value => cases items.mapM f <;> rfl

end

end CallWire
