import Mathlib.Algebra.BigOperators.Group.List.Basic
import Mathlib.Algebra.GroupWithZero.Nat
import Mathlib.Data.List.Induction

/-!
# Runs of a labelled transition relation

A run keeps every transition it made, so a statement about a whole history is a
statement about this list. The rules below are the inductions over runs: an invariant,
a quantity that every transition moves by a known amount, and a fact that one
transition establishes and no later one destroys.
-/

namespace LabelledRuns

variable {σ ε : Type*}

structure Transition (σ ε : Type*) where
  before : σ
  event : ε
  after : σ

/-- Runs from a fixed start, extended at the end. -/
inductive Run (step : σ → ε → σ → Prop) (start : σ) : List (Transition σ ε) → σ → Prop
  | nil : Run step start [] start
  | snoc {tr : List (Transition σ ε)} {u : σ} {e : ε} {v : σ} (run : Run step start tr u)
      (last : step u e v) : Run step start (tr ++ [⟨u, e, v⟩]) v

variable {step : σ → ε → σ → Prop} {start finish : σ} {tr : List (Transition σ ε)}

theorem Run.invariant {I : σ → Prop} (h : Run step start tr finish) (hstart : I start)
    (hstep : ∀ u e v, I u → step u e v → I v) : I finish := by
  induction h with
  | nil => exact hstart
  | snoc run last ih => exact hstep _ _ _ ih last

/-- A run whose transitions all satisfy more is a run of the stronger relation. -/
theorem Run.strengthen {step' : σ → ε → σ → Prop} (h : Run step start tr finish)
    (hstep : ∀ t ∈ tr, step t.before t.event t.after → step' t.before t.event t.after) :
    Run step' start tr finish := by
  induction h with
  | nil => exact .nil
  | snoc run last ih =>
    have hinit := ih fun t ht => hstep t (List.mem_append_left _ ht)
    exact hinit.snoc (hstep _ (List.mem_append_right _ (List.mem_singleton_self _)) last)

theorem Run.step_of_mem (h : Run step start tr finish) {t : Transition σ ε} (ht : t ∈ tr) :
    step t.before t.event t.after := by
  induction h with
  | nil => simp at ht
  | snoc run last ih =>
    rcases List.mem_append.mp ht with ht | ht
    · exact ih ht
    · obtain rfl := List.mem_singleton.mp ht
      exact last

/-- A run up to one of its transitions is a run. -/
theorem Run.split_of_mem (h : Run step start tr finish) {t : Transition σ ε} (ht : t ∈ tr) :
    ∃ tr₁ tr₂, tr = tr₁ ++ t :: tr₂ ∧ Run step start tr₁ t.before := by
  induction h with
  | nil => simp at ht
  | snoc run last ih =>
    rcases List.mem_append.mp ht with ht | ht
    · obtain ⟨tr₁, tr₂, rfl, hrun⟩ := ih ht
      exact ⟨tr₁, _, by rw [List.append_assoc]; rfl, hrun⟩
    · obtain rfl := List.mem_singleton.mp ht
      exact ⟨_, [], rfl, run⟩

/-- The state in which any transition of a run fires is itself reached by a run. -/
theorem Run.reached_of_mem (h : Run step start tr finish) {t : Transition σ ε} (ht : t ∈ tr) :
    ∃ tr', Run step start tr' t.before := by
  obtain ⟨tr₁, -, -, hrun⟩ := h.split_of_mem ht
  exact ⟨tr₁, hrun⟩

theorem Run.invariant_before {I : σ → Prop} (h : Run step start tr finish) (hstart : I start)
    (hstep : ∀ u e v, I u → step u e v → I v) {t : Transition σ ε} (ht : t ∈ tr) : I t.before := by
  obtain ⟨tr', h'⟩ := h.reached_of_mem ht
  exact h'.invariant hstart hstep

/-- A run without its last transition. -/
theorem Run.init {t : Transition σ ε} (h : Run step start (tr ++ [t]) finish) :
    Run step start tr t.before := by
  generalize hlist : tr ++ [t] = all at h
  cases h with
  | nil => simp at hlist
  | snoc run last =>
    obtain ⟨rfl, hlast⟩ := List.append_inj' hlist rfl
    obtain rfl := List.singleton_inj.mp hlast
    exact run

/-- A run up to a given transition of it. -/
theorem Run.upto {tr' : List (Transition σ ε)} {t : Transition σ ε}
    (h : Run step start (tr ++ t :: tr') finish) : Run step start tr t.before := by
  induction tr' using List.reverseRecOn generalizing finish with
  | nil => exact h.init
  | append_singleton rest last ih =>
    rw [← List.cons_append, ← List.append_assoc] at h
    exact ih h.init

/-- What holds after a transition and no later one destroys holds at the end. -/
theorem Run.kept_since {K : σ → Prop} (h : Run step start tr finish)
    (hkeep : ∀ t ∈ tr, K t.before → K t.after) {t : Transition σ ε} (ht : t ∈ tr) (hK : K t.after) :
    K finish := by
  induction h with
  | nil => cases ht
  | snoc run last ih =>
    rcases List.mem_append.mp ht with ht | ht
    · have hlast := hkeep _ (List.mem_append_right _ List.mem_cons_self)
      exact hlast (ih (fun t' ht' => hkeep t' (List.mem_append_left _ ht')) ht)
    · obtain rfl := List.mem_singleton.mp ht
      exact hK

/-- A quantity that each transition raises by its own weight ends at the total weight. -/
theorem Run.sum_weights {I : σ → Prop} (h : Run step start tr finish) (hstart : I start)
    (hstep : ∀ u e v, I u → step u e v → I v) (measure : σ → ℕ) (weight : Transition σ ε → ℕ)
    (hweight : ∀ u e v, I u → step u e v → measure v = measure u + weight ⟨u, e, v⟩) :
    measure finish = measure start + (tr.map weight).sum := by
  induction h with
  | nil => simp
  | snoc run last ih =>
    rw [hweight _ _ _ (run.invariant hstart hstep) last, ih]
    simp [Nat.add_assoc]

/-- A counter that exactly the marked transitions raise ends at their number. -/
theorem Run.count_steps {I : σ → Prop} (h : Run step start tr finish) (hstart : I start)
    (hstep : ∀ u e v, I u → step u e v → I v) (counter : σ → ℕ) (marked : Transition σ ε → Bool)
    (hzero : counter start = 0)
    (hcount : ∀ u e v, I u → step u e v → counter v = counter u + if marked ⟨u, e, v⟩ then
      1 else 0) :
    tr.countP marked = counter finish := by
  have hsum := h.sum_weights hstart hstep counter (fun t => if marked t then 1 else 0) hcount
  rw [hsum, hzero, Nat.zero_add]
  clear hsum h hcount
  induction tr with
  | nil => rfl
  | cons t tr ih =>
    rw [List.countP_cons, ih, List.map_cons, List.sum_cons, Nat.add_comm]

/-- What a transition establishes and no step destroys still holds at the end. -/
theorem Run.fact_of_mem {I : σ → Prop} (h : Run step start tr finish) (hstart : I start)
    (hstep : ∀ u e v, I u → step u e v → I v) (fact : Transition σ ε → σ → Prop)
    (establish : ∀ u e v, I u → step u e v → fact ⟨u, e, v⟩ v)
    (stable : ∀ t u e v, I u → fact t u → step u e v → fact t v) :
    ∀ t ∈ tr, fact t finish := by
  induction h with
  | nil => simp
  | snoc run last ih =>
    have hu := run.invariant hstart hstep
    intro t ht
    rcases List.mem_append.mp ht with ht | ht
    · exact stable _ _ _ _ hu (ih t ht) last
    · obtain rfl := List.mem_singleton.mp ht
      exact establish _ _ _ hu last

/-- The same fact holds when any later transition of the run fires. -/
theorem Run.pairwise_fact {I : σ → Prop} (h : Run step start tr finish) (hstart : I start)
    (hstep : ∀ u e v, I u → step u e v → I v) (fact : Transition σ ε → σ → Prop)
    (establish : ∀ u e v, I u → step u e v → fact ⟨u, e, v⟩ v)
    (stable : ∀ t u e v, I u → fact t u → step u e v → fact t v) :
    tr.Pairwise (fun t t' => fact t t'.before ∧ step t'.before t'.event t'.after) := by
  induction h with
  | nil => exact List.Pairwise.nil
  | snoc run last ih =>
    rw [List.pairwise_append]
    refine ⟨ih, List.pairwise_singleton _ _, ?_⟩
    intro t ht t' ht'
    obtain rfl := List.mem_singleton.mp ht'
    exact ⟨run.fact_of_mem hstart hstep fact establish stable t ht, last⟩

section Commands

variable {run : σ → ε → σ} {I : σ → Prop} {R M : σ → ε → Prop} {s : σ} {es : List ε}

/-- Each command of a list, in the state in which it is run, is as required. -/
def Throughout (run : σ → ε → σ) (R : σ → ε → Prop) : σ → List ε → Prop
  | _, [] => True
  | s, e :: es => R s e ∧ Throughout run R (run s e) es

/-- A condition on commands under which, and only under which, one command keeps the invariant and
does what is required, is that condition for a whole list. -/
theorem throughout_iff (hstep : ∀ s e, I s → (I (run s e) ∧ R s e ↔ M s e)) (h : I s) :
    Throughout run (fun s e => I (run s e) ∧ R s e) s es ↔ Throughout run M s es := by
  induction es generalizing s with
  | nil => exact Iff.rfl
  | cons e es ih =>
    constructor
    · rintro ⟨hfirst, hrest⟩
      exact ⟨(hstep s e h).mp hfirst, (ih hfirst.1).mp hrest⟩
    · rintro ⟨hfirst, hrest⟩
      have hdone := (hstep s e h).mpr hfirst
      exact ⟨hdone, (ih hdone.1).mpr hrest⟩

theorem throughout_invariant_iff (hstep : ∀ s e, I s → (I (run s e) ↔ M s e)) (h : I s) :
    Throughout run (fun s e => I (run s e)) s es ↔ Throughout run M s es := by
  simpa only [and_true] using throughout_iff (R := fun _ _ => True)
    (fun s e hs => by rw [and_true, hstep s e hs]) h

end Commands

end LabelledRuns
