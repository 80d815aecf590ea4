import VeriAgentPay.ScheduledPrograms

/-!
# Programs of a part of a system

A program is run by a system whose requests include its own. A program all of whose requests are
harmless keeps to a discipline, whatever it does with the answers.
-/

namespace InterleavedPrograms

variable {σ ω ρ α φ : Type} {answer : ρ → Type}

namespace Program

variable {ρ' : Type} {answer' : ρ' → Type} {lift : ρ → ρ'} {back : (r : ρ) →
  answer' (lift r) → answer r}

/-- The program with its requests put to the larger system. -/
def translate (lift : ρ → ρ') (back : (r : ρ) → answer' (lift r) → answer r) :
    Program ρ answer α → Program ρ' answer' α
  | ret a => ret a
  | ask r next => ask (lift r) fun x => (next (back r x)).translate lift back

theorem within_translate (p : Program ρ answer α) :
    (p.translate lift back).Within fun r' => ∃ r, r' = lift r := by
  induction p with
  | ret a => trivial
  | ask r next ih => exact ⟨⟨r, rfl⟩, fun x => ih (back r x)⟩

end Program

namespace Discipline

variable {D : Discipline σ ω ρ answer} {i : ℕ} {op : ω} {K : σ → Prop}

/-- Requests that every process may make keep to the discipline. -/
theorem follows_within {allowed : ρ → Prop} {p : Program ρ answer α} (hp : p.Within allowed)
    (hstep : ∀ s r, allowed r → D.inv s → D.conditions.allows i op s r →
      D.grows s (D.service.carry i op s r).2 ∧ D.inv (D.service.carry i op s r).2) :
    D.protocol.Follows (D.service.within D.conditions) i op p K () fun _ _ _ => True := by
  induction p generalizing K with
  | ret a => exact fun _ _ _ _ _ => trivial
  | ask r next ih =>
    rintro s H x s' hinv - - ⟨hcarry, hallows⟩
    have hcarry' : D.service.carry i op s r = (x, s') := hcarry
    have hkept := hstep s r hp.1 hinv hallows
    rw [hcarry'] at hkept
    exact ⟨hkept.1, fun _ => True, (), fun _ _ _ _ => trivial, trivial, hkept.2, ih x (hp.2 x)⟩

theorem plays_within {allowed : ρ → Prop} {p : Program ρ answer Unit} (hp : p.Within allowed)
    (hstep : ∀ s r, allowed r → D.inv s → D.conditions.allows i op s r →
      D.grows s (D.service.carry i op s r).2 ∧ D.inv (D.service.carry i op s r).2) :
      D.Plays i op p := by
  unfold Plays
  exact follows_within hp hstep

end Discipline

end InterleavedPrograms
