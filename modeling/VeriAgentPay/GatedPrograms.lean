import VeriAgentPay.ScheduledPrograms

/-!
# Requests behind a gate

A call makes some of its requests only after another one got a certain answer. In a run these
requests therefore come after that answer to the same call.
-/

namespace InterleavedPrograms
open LabelledRuns

variable {σ ω ρ α β φ : Type} {answer : ρ → Type}

namespace Program

/-- Until an answer opens the gate, the program makes requests of one kind only, and it may end in
`Q`. -/
def Gated (A gate : (r : ρ) → answer r → Prop) (before : ρ → Prop) (Q : α → Prop) :
    Program ρ answer α → Prop
  | ret a => Q a
  | ask r next => before r ∧ ∀ x, A r x → gate r x ∨ (next x).Gated A gate before Q

variable {A gate : (r : ρ) → answer r → Prop} {before : ρ → Prop} {Q : α → Prop} {R : β → Prop}

theorem Gated.bind {p : Program ρ answer α} {f : α → Program ρ answer β}
    (hp : p.Gated A gate before Q) (hf : ∀ a, Q a → (f a).Gated A gate before R) :
    (p.bind f).Gated A gate before R := by
  induction p with
  | ret a => exact hf a hp
  | ask r next ih =>
    refine ⟨hp.1, fun x hx => ?_⟩
    rcases hp.2 x hx with hopen | hnext
    · exact .inl hopen
    · exact .inr (ih x hnext)

theorem Gated.mono {before' : ρ → Prop} {Q' : α → Prop} {p : Program ρ answer α}
    (hp : p.Gated A gate before Q) (hbefore : ∀ r, before r → before' r) (h : ∀ a, Q a → Q' a) :
    p.Gated A gate before' Q' := by
  induction p with
  | ret a => exact h a hp
  | ask r next ih =>
    refine ⟨hbefore r hp.1, fun x hx => ?_⟩
    rcases hp.2 x hx with hopen | hnext
    · exact .inl hopen
    · exact .inr (ih x hnext)

theorem gated_any (hbefore : ∀ r, before r) (hQ : ∀ a, Q a) (p : Program ρ answer α) :
    p.Gated A gate before Q := by
  induction p with
  | ret a => exact hQ a
  | ask r next ih => exact ⟨hbefore r, fun x _ => .inr (ih x)⟩

end Program

namespace Fallible

variable {A gate : (r : ρ) → answer r → Prop} {before : ρ → Prop} {Q : α → Prop} {R : β → Prop}

/-- With the gate closed the call gives a result in `Q`, or fails. -/
def Gated (A gate : (r : ρ) → answer r → Prop) (before : ρ → Prop) (Q : α → Prop)
    (x : Fallible φ ρ answer α) : Prop :=
  x.run.Gated A gate before fun result => ∀ a, result = .ok a → Q a

theorem gated_checked {r : Except φ α} (h : ∀ a, r = .ok a → Q a) :
    (checked r : Fallible φ ρ answer α).Gated A gate before Q := h

theorem gated_check {c : Prop} [Decidable c] {e : φ} {Q : Unit → Prop} (h : c → Q ()) :
    (check c e : Fallible φ ρ answer Unit).Gated A gate before Q := by
  refine gated_checked fun u hu => ?_
  split at hu
  · exact h ‹c›
  · cases hu

theorem gated_ask {r : ρ} {Q : answer r → Prop} (hr : before r) (h : ∀ x, A r x → gate r x ∨ Q x) :
    (ask r : Fallible φ ρ answer (answer r)).Gated A gate before Q := by
  refine ⟨hr, fun x hx => ?_⟩
  rcases h x hx with hopen | hQ
  · exact .inl hopen
  · refine .inr ?_
    rintro _ ⟨⟩
    exact hQ

theorem Gated.andThen {x : Fallible φ ρ answer α} {f : α → Fallible φ ρ answer β}
    (hx : x.Gated A gate before Q) (hf : ∀ a, Q a → (f a).Gated A gate before R) :
    (x >>= f).Gated A gate before R := by
  refine Program.Gated.bind hx fun result hresult => ?_
  cases result with
  | ok a => exact hf a (hresult a rfl)
  | error e =>
    rintro _ ⟨⟩

theorem Gated.dropResult {x : Fallible φ ρ answer α} (hx : x.Gated A gate before Q) :
    (Fallible.dropResult x).Gated A gate before fun _ => True :=
  Program.Gated.bind hx fun _ _ => trivial

/-- The same where it matters what the call fails with. -/
def GatedWith (A gate : (r : ρ) → answer r → Prop) (before : ρ → Prop) (Q : α → Prop) (E : φ → Prop)
    (x : Fallible φ ρ answer α) : Prop :=
  x.run.Gated A gate before fun result => (∀ a, result = .ok a → Q a) ∧ ∀ e, result = .error e → E e

variable {E : φ → Prop}

theorem gatedWith_checked {r : Except φ α} (h : ∀ a, r = .ok a → Q a)
    (hE : ∀ e, r = .error e → E e) :
    (checked r : Fallible φ ρ answer α).GatedWith A gate before Q E := ⟨h, hE⟩

theorem gatedWith_check {c : Prop} [Decidable c] {e : φ} {Q : Unit → Prop} (h : c → Q ())
    (hE : E e) :
    (check c e : Fallible φ ρ answer Unit).GatedWith A gate before Q E := by
  refine gatedWith_checked ?_ ?_
  · intro u hu
    split at hu
    · exact h ‹c›
    · cases hu
  · intro e' he
    split at he
    · cases he
    · cases he
      exact hE

theorem gatedWith_ask {r : ρ} {Q : answer r → Prop} (hr : before r)
    (h : ∀ x, A r x → gate r x ∨ Q x) :
    (ask r : Fallible φ ρ answer (answer r)).GatedWith A gate before Q E := by
  refine ⟨hr, fun x hx => ?_⟩
  rcases h x hx with hopen | hQ
  · exact .inl hopen
  · refine .inr ⟨?_, ?_⟩
    · rintro _ ⟨⟩
      exact hQ
    · rintro _ ⟨⟩

theorem GatedWith.andThen {x : Fallible φ ρ answer α} {f : α → Fallible φ ρ answer β}
    (hx : x.GatedWith A gate before Q E) (hf : ∀ a, Q a → (f a).GatedWith A gate before R E) :
    (x >>= f).GatedWith A gate before R E := by
  refine Program.Gated.bind hx fun result hresult => ?_
  cases result with
  | ok a => exact hf a (hresult.1 a rfl)
  | error e =>
    refine ⟨?_, ?_⟩
    · rintro _ ⟨⟩
    · rintro _ ⟨⟩
      exact hresult.2 e rfl

end Fallible

section Runs

variable {sem : Semantics σ ω ρ answer} {start : σ} {tr : Trace σ ω ρ answer}
  {c : Config σ ω ρ answer}
  {A : (r : ρ) → answer r → Prop} {gate : ω → (r : ρ) → answer r → Prop} {before : ω → ρ → Prop}

/-- A request of the call has got an answer that opens the gate. -/
def Passed (tr : Trace σ ω ρ answer) (i : ℕ) (gate : (r : ρ) → answer r → Prop) : Prop :=
  ∃ t ∈ tr, ∃ r x, t.event = .performed i r x ∧ gate r x

/-- Each call that still runs has passed its gate or is before it. -/
def Gating (A : (r : ρ) → answer r → Prop) (gate : ω → (r : ρ) → answer r → Prop)
    (before : ω → ρ → Prop) (tr : Trace σ ω ρ answer) (c : Config σ ω ρ answer) : Prop :=
  ∀ i op p, c.processes i = some ⟨op, .running p⟩ →
    Passed tr i (gate op) ∨ p.Gated A (gate op) (before op) fun _ => True

theorem Passed.mono {gate : (r : ρ) → answer r → Prop} {i : ℕ} {tr' : Trace σ ω ρ answer}
    (h : Passed tr i gate) :
    Passed (tr ++ tr') i gate := by
  obtain ⟨t, ht, hopen⟩ := h
  exact ⟨t, List.mem_append_left _ ht, hopen⟩

theorem gating_of_run (hrun : Run (Step sem) (Config.initial start) tr c)
    (hanswers : ∀ i op s r x s', sem.perform i op s r x s' → A r x)
    (hprograms : ∀ op, sem.mayStart op → (sem.program op).Gated A (gate op) (before op)
      fun _ => True) :
    Gating A gate before tr c := by
  induction hrun with
  | nil =>
    intro i op p h
    cases h
  | @snoc tr u e v run last ih =>
    have hother : ∀ {i j : ℕ} {op op' : ω} {stage : Stage ρ answer} {p : Program ρ answer Unit}
        (s : σ), j ≠ i →
        ({ u with state := s }.setStage i op stage).processes j = some ⟨op', .running p⟩ →
        Passed (tr ++ [⟨u, e, v⟩]) j (gate op') ∨
        p.Gated A (gate op') (before op') fun _ => True := by
      intro i j op op' stage p s hji hj
      simp only [Config.setStage, Function.update_of_ne hji] at hj
      exact (ih j op' p hj).imp_left Passed.mono
    intro j op' p hj
    cases last with
    | @start i op fresh allowed =>
      by_cases hji : j = i
      · subst hji
        simp only [Config.setStage, Function.update_self, Option.some.injEq, Process.mk.injEq,
          Stage.running.injEq] at hj
        obtain ⟨rfl, rfl⟩ := hj
        exact .inr (hprograms op allowed)
      · exact hother u.state hji hj
    | @performed i op r x next s here done =>
      by_cases hji : j = i
      · subst hji
        simp only [Config.setStage, Function.update_self, Option.some.injEq, Process.mk.injEq,
          Stage.running.injEq] at hj
        obtain ⟨rfl, rfl⟩ := hj
        rcases ih j op _ here with hpassed | hgated
        · exact .inl hpassed.mono
        · rcases hgated.2 x (hanswers j op u.state r x s done) with hopen | hnext
          · exact .inl ⟨_, List.mem_append_right _ List.mem_cons_self, r, x, rfl, hopen⟩
          · exact .inr hnext
      · exact hother s hji hj
    | @crash i op q here allowed =>
      by_cases hji : j = i
      · subst hji
        simp [Config.setStage] at hj
      · exact hother u.state hji hj
    | environment acts => exact (ih j op' p hj).imp_left Passed.mono

/-- A request from behind the gate comes after the answer that opened it. -/
theorem passed_of_mem (hrun : Run (Step sem) (Config.initial start) tr c)
    (hanswers : ∀ i op s r x s', sem.perform i op s r x s' → A r x)
    (hprograms : ∀ op, sem.mayStart op → (sem.program op).Gated A (gate op) (before op)
      fun _ => True)
    {t : Transition (Config σ ω ρ answer) (Event ω ρ answer)} (ht : t ∈ tr) {i : ℕ} {r : ρ}
    {x : answer r} (hevent : t.event = .performed i r x) {proc : Process ω ρ answer}
    (hproc : t.before.processes i = some proc) (hbehind : ¬before proc.operation r) :
    ∃ tr₁ tr₂, tr = tr₁ ++ t :: tr₂ ∧ Passed tr₁ i (gate proc.operation) := by
  obtain ⟨tr₁, tr₂, htr, hrun₁⟩ := hrun.split_of_mem ht
  refine ⟨tr₁, tr₂, htr, ?_⟩
  have hstep := hrun.step_of_mem ht
  obtain ⟨u, e, v⟩ := t
  dsimp only at hevent hproc hrun₁ hstep
  subst hevent
  cases hstep with
  | @performed _ op _ _ next s here done =>
    obtain rfl := Option.some.inj (here.symm.trans hproc)
    rcases gating_of_run hrun₁ hanswers hprograms i op _ here with hpassed | hgated
    · exact hpassed
    · exact absurd hgated.1 hbehind

end Runs

end InterleavedPrograms
