import Mathlib.Algebra.BigOperators.Group.Finset.Basic
import Mathlib.Algebra.Order.Ring.Int
import VeriAgentPay.LabelledRuns

/-!
# Totals that steps conserve

A move between two accounts keeps the total over all of them. Over a run, a measure that some
events conserve changes by exactly what the other events did to it.
-/

namespace LabelledRuns

section Totals

variable {κ : Type*} [Fintype κ] [DecidableEq κ] {f g : κ → ℕ} {a b : κ}

/-- Two accounts may trade, every other balance is as it was. -/
theorem sum_eq_of_trade (hne : a ≠ b) (hpair : f a + f b = g a + g b)
    (hothers : ∀ k, k ≠ a → k ≠ b → f k = g k) :
    ∑ k, f k = ∑ k, g k := by
  have hb : b ∈ Finset.univ.erase a := Finset.mem_erase.mpr ⟨hne.symm, Finset.mem_univ b⟩
  have hrest : ∑ k ∈ (Finset.univ.erase a).erase b,
      f k = ∑ k ∈ (Finset.univ.erase a).erase b, g k := by
    refine Finset.sum_congr rfl fun k hk => ?_
    rw [Finset.mem_erase, Finset.mem_erase] at hk
    exact hothers k hk.2.1 hk.1
  rw [← Finset.add_sum_erase _ f (Finset.mem_univ a), ← Finset.add_sum_erase _ f hb,
    ← Finset.add_sum_erase _ g (Finset.mem_univ a), ← Finset.add_sum_erase _ g hb, hrest]
  omega

/-- Two accounts hold no more than all of them. -/
theorem pair_le_sum (hne : a ≠ b) : f a + f b ≤ ∑ k, f k := by
  have hb : b ∈ Finset.univ.erase a := Finset.mem_erase.mpr ⟨hne.symm, Finset.mem_univ b⟩
  rw [← Finset.add_sum_erase _ f (Finset.mem_univ a), ← Finset.add_sum_erase _ f hb]
  omega

end Totals

section Measures

variable {σ ε : Type*} {step : σ → ε → σ → Prop} {start finish : σ} {tr : List (Transition σ ε)}

/-- What a transition does to a measure, where its event is one of those that may change it. -/
def changeBy (outside : ε → Bool) (measure : σ → ℕ) (t : Transition σ ε) : ℤ :=
  if outside t.event then (measure t.after : ℤ) - measure t.before else 0

theorem Run.sum_changes {outside : ε → Bool} {measure : σ → ℕ} (h : Run step start tr finish)
    (hkept : ∀ u e v, step u e v → outside e = false → measure v = measure u) :
    (measure finish : ℤ) = measure start + (tr.map (changeBy outside measure)).sum := by
  induction h with
  | nil => simp
  | @snoc tr u e v run last ih =>
    cases hout : outside e with
    | false => simp [ih, hkept u e v last hout, changeBy, hout]
    | true =>
      simp only [List.map_append, List.map_cons, List.map_nil, List.sum_append, List.sum_singleton,
        changeBy, hout,
        if_true]
      omega

/-- Where no such event happens nothing is changed. -/
theorem sum_changeBy_eq_zero {outside : ε → Bool} {measure : σ → ℕ}
    (hinside : ∀ t ∈ tr, outside t.event = false) :
    (tr.map (changeBy outside measure)).sum = 0 := by
  induction tr with
  | nil => rfl
  | cons t tr ih =>
    rw [List.map_cons, List.sum_cons,
      ih fun t' ht' => hinside t' (List.mem_cons_of_mem t ht'), changeBy,
      hinside t List.mem_cons_self]
    rfl

end Measures

end LabelledRuns
