import VeriAgentPay.ScheduledPrograms

/-!
# What a program has asked so far

A program is checked against its own history: which request it may make is told by the requests it
has made and the answers it has got. In a run the history of a process is read off the transitions,
so what was checked of the program holds of them.
-/

namespace InterleavedPrograms
open LabelledRuns

variable {σ ω ρ α β φ : Type} {answer : ρ → Type}

/-- Requests with their answers, the latest first. -/
abbrev History (ρ : Type) (answer : ρ → Type) := List ((r : ρ) × answer r)

namespace Program

/-- Each request is one that the history so far allows, and the program ends in `Q`. -/
def Heeds (may : History ρ answer → ρ → Prop) :
    Program ρ answer α → History ρ answer → (α → History ρ answer → Prop) → Prop
  | ret a, h, Q => Q a h
  | ask r next, h, Q => may h r ∧ ∀ x, (next x).Heeds may (⟨r, x⟩ :: h) Q

variable {may : History ρ answer → ρ → Prop} {h : History ρ answer} {Q Q' : α →
  History ρ answer → Prop}
  {R : β → History ρ answer → Prop}

theorem Heeds.bind {p : Program ρ answer α} {f : α → Program ρ answer β} (hp : p.Heeds may h Q)
    (hf : ∀ a h', Q a h' → (f a).Heeds may h' R) : (p.bind f).Heeds may h R := by
  induction p generalizing h with
  | ret a => exact hf a h hp
  | ask r next ih => exact ⟨hp.1, fun x => ih x (hp.2 x)⟩

theorem Heeds.mono {p : Program ρ answer α} (hp : p.Heeds may h Q) (hQ : ∀ a h', Q a h' → Q' a h') :
    p.Heeds may h Q' := by
  induction p generalizing h with
  | ret a => exact hQ a h hp
  | ask r next ih => exact ⟨hp.1, fun x => ih x (hp.2 x)⟩

/-- Requests of one kind that are always allowed: the history grows by such requests only. -/
theorem Within.heeds {allowed : ρ → Prop} {p : Program ρ answer α} (hp : p.Within allowed)
    (hmay : ∀ h r, allowed r → may h r) :
    p.Heeds may h fun _ h' => ∃ new, h' = new ++ h ∧ ∀ e ∈ new, allowed e.1 := by
  induction p generalizing h with
  | ret a => exact ⟨[], rfl, by simp⟩
  | ask r next ih =>
    refine ⟨hmay h r hp.1, fun x => (ih x (hp.2 x)).mono ?_⟩
    intro _ h' hnew
    obtain ⟨new, rfl, hallowed⟩ := hnew
    refine ⟨new ++ [⟨r, x⟩], by simp, ?_⟩
    simpa [or_imp, forall_and] using ⟨hallowed, hp.1⟩

end Program

namespace Fallible

variable {may : History ρ answer → ρ → Prop} {h : History ρ answer} {Q : α →
  History ρ answer → Prop}
  {R : β → History ρ answer → Prop}

/-- A call that does not fail ends in `Q`. -/
def Heeds (may : History ρ answer → ρ → Prop) (x : Fallible φ ρ answer α) (h : History ρ answer)
    (Q : α → History ρ answer → Prop) : Prop :=
  x.run.Heeds may h fun result h' => ∀ a, result = .ok a → Q a h'

theorem Heeds.andThen {x : Fallible φ ρ answer α} {f : α → Fallible φ ρ answer β}
    (hx : x.Heeds may h Q) (hf : ∀ a h', Q a h' → (f a).Heeds may h' R) :
    (x >>= f).Heeds may h R := by
  refine Program.Heeds.bind hx fun result h' hresult => ?_
  cases result with
  | ok a => exact hf a h' (hresult a rfl)
  | error e =>
    rintro _ ⟨⟩

theorem Heeds.mono {x : Fallible φ ρ answer α} {Q' : α → History ρ answer → Prop}
    (hx : x.Heeds may h Q) (hQ : ∀ a h', Q a h' → Q' a h') : x.Heeds may h Q' :=
  Program.Heeds.mono hx fun _ h' hresult a ha => hQ a h' (hresult a ha)

/-- The call seen as a program that may also fail. -/
theorem Heeds.run {x : Fallible φ ρ answer α} {E : Except φ α → History ρ answer → Prop}
    (hx : x.Heeds may h Q) (hE : ∀ result h', E result h') : x.run.Heeds may h E :=
  Program.Heeds.mono hx fun result h' _ => hE result h'

theorem heeds_pure {a : α} (hQ : Q a h) : Heeds may (pure a : Fallible φ ρ answer α) h Q := by
  rintro _ ⟨⟩
  exact hQ

theorem heeds_tryCatch {x : Fallible φ ρ answer α} {handler : φ → Fallible φ ρ answer α}
    {E : History ρ answer → Prop}
    (hx : x.run.Heeds may h fun result h' => (∀ a, result = .ok a → Q a h') ∧
      ∀ e, result = .error e → E h')
    (hhandler : ∀ e h', E h' → (handler e).Heeds may h' Q) :
    (tryCatchThe φ x handler).Heeds may h Q := by
  refine Program.Heeds.bind hx fun result h' hresult => ?_
  cases result with
  | ok a => exact hresult.1
  | error e => exact hhandler e h' (hresult.2 e rfl)

end Fallible

section Runs

variable {sem : Semantics σ ω ρ answer} {start : σ} {tr : Trace σ ω ρ answer}
  {c : Config σ ω ρ answer}
  {may : ω → History ρ answer → ρ → Prop}

/-- What a transition adds to the history of a process. -/
def recorded (i : ℕ) (t : Transition (Config σ ω ρ answer) (Event ω ρ answer)) : History ρ answer :=
  match t.event with
  | .performed j r x => if j = i then [⟨r, x⟩] else []
  | _ => []

def history (tr : Trace σ ω ρ answer) (i : ℕ) : History ρ answer :=
  (tr.reverse.map (recorded i)).flatten

@[simp] theorem history_nil (i : ℕ) : history ([] : Trace σ ω ρ answer) i = [] := rfl

@[simp] theorem history_snoc (tr : Trace σ ω ρ answer)
    (t : Transition (Config σ ω ρ answer) (Event ω ρ answer)) (i : ℕ) :
    history (tr ++ [t]) i = recorded i t ++ history tr i := by
  simp [history]

theorem mem_history {i : ℕ} {r : ρ} {x : answer r} :
    (⟨r, x⟩ : (r : ρ) × answer r) ∈ history tr i ↔ ∃ t ∈ tr, t.event = .performed i r x := by
  simp only [history, List.mem_flatten, List.mem_map, List.mem_reverse]
  constructor
  · rintro ⟨_, ⟨t, ht, rfl⟩, hmem⟩
    refine ⟨t, ht, ?_⟩
    obtain ⟨u, e, v⟩ := t
    cases e with
    | performed j r' x' =>
      by_cases hj : j = i
      · subst hj
        have hsame : (⟨r, x⟩ : (r : ρ) × answer r) = ⟨r', x'⟩ :=
          List.mem_singleton.mp (by simpa [recorded] using hmem)
        cases hsame
        rfl
      · simp [recorded, hj] at hmem
    | _ => simp [recorded] at hmem
  · rintro ⟨t, ht, hevent⟩
    exact ⟨_, ⟨t, ht, rfl⟩, by simp [recorded, hevent]⟩

/-- Every process goes on as its history allows; one that was not started has none. -/
def Heeding (may : ω → History ρ answer → ρ → Prop) (tr : Trace σ ω ρ answer)
    (c : Config σ ω ρ answer) : Prop :=
  ∀ i, match c.processes i with
    | none => history tr i = []
    | some ⟨op, .running p⟩ => p.Heeds (may op) (history tr i) fun _ _ => True
    | some ⟨_, .crashed⟩ => True

theorem heeding_of_run (hrun : Run (Step sem) (Config.initial start) tr c)
    (hprograms : ∀ op, sem.mayStart op → (sem.program op).Heeds (may op) [] fun _ _ => True) :
    Heeding may tr c := by
  induction hrun with
  | nil => exact fun i => rfl
  | @snoc tr u e v run last ih =>
    intro j
    have hj := ih j
    cases last with
    | @start i op fresh allowed =>
      by_cases hji : j = i
      · subst hji
        rw [fresh] at hj
        simpa [Config.setStage, recorded, hj] using hprograms op allowed
      · simpa [Config.setStage, recorded, hji] using hj
    | @performed i op r x next s here done =>
      by_cases hji : j = i
      · subst hji
        rw [here] at hj
        simpa [Config.setStage, recorded] using hj.2 x
      · simpa [Config.setStage, recorded, hji, Ne.symm hji] using hj
    | @crash i op p here allowed =>
      by_cases hji : j = i
      · simp [Config.setStage, hji]
      · simpa [Config.setStage, recorded, hji] using hj
    | environment acts => simpa [recorded] using hj

/-- A request of a run is one that the history of its process allowed. -/
theorem allowed_of_performed {tr₁ tr₂ : Trace σ ω ρ answer}
    {t : Transition (Config σ ω ρ answer) (Event ω ρ answer)}
    (hrun : Run (Step sem) (Config.initial start) (tr₁ ++ t :: tr₂) c)
    (hprograms : ∀ op, sem.mayStart op → (sem.program op).Heeds (may op) [] fun _ _ => True)
    {i : ℕ} {r : ρ} {x : answer r} (hevent : t.event = .performed i r x) {proc : Process ω ρ answer}
    (hproc : t.before.processes i = some proc) : may proc.operation (history tr₁ i) r := by
  have hstep := hrun.step_of_mem (List.mem_append_right _ List.mem_cons_self)
  have hheeding := heeding_of_run hrun.upto hprograms i
  obtain ⟨u, e, v⟩ := t
  dsimp only at hevent hproc hheeding hstep
  subst hevent
  cases hstep with
  | @performed _ op _ _ next s here done =>
    obtain rfl := Option.some.inj (here.symm.trans hproc)
    rw [here] at hheeding
    exact hheeding.1

end Runs

end InterleavedPrograms
