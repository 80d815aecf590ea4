import Mathlib.Logic.Basic

/-!
# Rules for checked computations

A checked computation returns a value or one error. Successful runs are taken apart at
their binds; a computation avoids an error when each of its parts does.
-/

namespace CheckedOutcome

variable {ε α β : Type}

/-- Stop with an error unless a condition holds. -/
def require (c : Prop) [Decidable c] (e : ε) : Except ε Unit := if c then .ok () else .error e

/-- Turn a missing value into an error. -/
def orError (x : Option α) (e : ε) : Except ε α :=
  match x with
  | some a => .ok a
  | none => .error e

@[simp] theorem bind_eq_ok {x : Except ε α} {f : α → Except ε β} {b : β} :
    (x >>= f) = .ok b ↔ ∃ a, x = .ok a ∧ f a = .ok b := by
  cases x with
  | error e => simp [bind, Except.bind]
  | ok a => simp [bind, Except.bind]

@[simp] theorem bind_eq_error {x : Except ε α} {f : α → Except ε β} {e : ε} :
    (x >>= f) = .error e ↔ x = .error e ∨ ∃ a, x = .ok a ∧ f a = .error e := by
  cases x with
  | error e' => simp [bind, Except.bind]
  | ok a => simp [bind, Except.bind]

theorem eq_ok_of_toBool {x : Except ε α} (h : x.toBool = true) : ∃ a, x = .ok a := by
  cases x with
  | error e => cases h
  | ok a => exact ⟨a, rfl⟩

/-- Binds whose value is trivial leave no witness behind. -/
theorem exists_unit {p : Unit → Prop} : (∃ u, p u) ↔ p () := by
  constructor
  · rintro ⟨u, h⟩
    exact h
  · intro h
    exact ⟨(), h⟩

@[simp] theorem pure_eq_ok {a b : α} : (pure a : Except ε α) = .ok b ↔ a = b := by
  simp [pure, Except.pure]

@[simp] theorem pure_ne_error {a : α} {e : ε} : (pure a : Except ε α) ≠ .error e := by
  simp [pure, Except.pure]

@[simp] theorem require_eq_ok {c : Prop} [Decidable c] {e : ε} {u : Unit} :
    require c e = .ok u ↔ c := by
  unfold require
  split <;> simp_all

@[simp] theorem require_eq_error {c : Prop} [Decidable c] {e e' : ε} :
    require c e = .error e' ↔ ¬c ∧ e = e' := by
  unfold require
  split <;> simp_all

@[simp] theorem orError_eq_ok {x : Option α} {e : ε} {a : α} :
    orError x e = .ok a ↔ x = some a := by
  cases x <;> simp [orError]

@[simp] theorem orError_eq_error {x : Option α} {e e' : ε} :
    orError x e = .error e' ↔ x = none ∧ e = e' := by
  cases x <;> simp [orError]

/-- The computation never stops with an error of the given kind. -/
def Avoids (bad : ε → Prop) (x : Except ε α) : Prop := ∀ e, x = .error e → ¬bad e

theorem Avoids.ok {bad : ε → Prop} (a : α) : Avoids bad (.ok a : Except ε α) := by
  intro e h
  cases h

theorem Avoids.bind {bad : ε → Prop} {x : Except ε α} {f : α → Except ε β} (hx : Avoids bad x)
    (hf : ∀ a, x = .ok a → Avoids bad (f a)) : Avoids bad (x >>= f) := by
  intro e h
  rcases bind_eq_error.mp h with h | ⟨a, ha, h⟩
  · exact hx e h
  · exact hf a ha e h

theorem Avoids.require {bad : ε → Prop} {c : Prop} [Decidable c] {e : ε} (he : ¬bad e) :
    Avoids bad (require c e) := by
  intro e' h
  obtain ⟨-, rfl⟩ := require_eq_error.mp h
  exact he

theorem Avoids.orError {bad : ε → Prop} {x : Option α} {e : ε} (he : ¬bad e) :
    Avoids bad (orError x e) := by
  intro e' h
  obtain ⟨-, rfl⟩ := orError_eq_error.mp h
  exact he

end CheckedOutcome
