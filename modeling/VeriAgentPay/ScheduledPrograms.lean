import VeriAgentPay.InterleavedPrograms

/-!
# Programs on a store that carries each request out at once

Everything that is left open about a call (what a service outside answers, which request
fails) is part of the operation, so a request has one answer. A run is then determined by its
schedule and can be computed, together with a condition that every step of it has to meet.
-/

namespace InterleavedPrograms
open LabelledRuns

variable {σ ω ρ α β : Type} {answer : ρ → Type}

/-- The history of a run. -/
abbrev Trace (σ ω ρ : Type) (answer : ρ → Type) :=
  List (Transition (Config σ ω ρ answer) (Event ω ρ answer))

namespace Program

/-- The requests satisfy `Q` as long as the answers satisfy `A`. -/
def Asks (Q : ρ → Prop) (A : (r : ρ) → answer r → Prop) : Program ρ answer α → Prop
  | ret _ => True
  | ask r next => Q r ∧ ∀ x, A r x → (next x).Asks Q A

theorem Asks.bind {Q : ρ → Prop} {A : (r : ρ) → answer r → Prop} {p : Program ρ answer α}
    {f : α → Program ρ answer β} (hp : p.Asks Q A) (hf : ∀ a, (f a).Asks Q A) :
    (p.bind f).Asks Q A := by
  induction p with
  | ret a => exact hf a
  | ask r next ih => exact ⟨hp.1, fun x hx => ih x (hp.2 x hx)⟩

theorem asks_any (p : Program ρ answer α) : p.Asks (fun _ => True) fun _ _ => True := by
  induction p with
  | ret a => trivial
  | ask r next ih => exact ⟨trivial, fun x _ => ih x⟩

theorem Asks.mono {Q Q' : ρ → Prop} {A : (r : ρ) → answer r → Prop} {p : Program ρ answer α}
    (hp : p.Asks Q A) (hQ : ∀ r, Q r → Q' r) : p.Asks Q' A := by
  induction p with
  | ret a => trivial
  | ask r next ih => exact ⟨hQ r hp.1, fun x hx => ih x (hp.2 x hx)⟩

/-- A program whose requests are all of some kind. -/
theorem Within.asks {allowed : ρ → Prop} {Q : ρ → Prop} {A : (r : ρ) → answer r → Prop}
    {p : Program ρ answer α} (hp : p.Within allowed) (hallowed : ∀ r, allowed r → Q r) :
    p.Asks Q A := by
  induction p with
  | ret a => trivial
  | ask r next ih => exact ⟨hallowed r hp.1, fun x _ => ih x (hp.2 x)⟩

/-- What a program gives when nothing else runs. -/
def eval (carry : σ → (r : ρ) → answer r × σ) : Program ρ answer α → σ → α × σ
  | ret a, s => (a, s)
  | ask r next, s => (next (carry s r).1).eval carry (carry s r).2

theorem eval_bind (carry : σ → (r : ρ) → answer r × σ) (p : Program ρ answer α)
    (f : α → Program ρ answer β) (s : σ) :
    (p.bind f).eval carry s = (f (p.eval carry s).1).eval carry (p.eval carry s).2 := by
  induction p generalizing s with
  | ret a => rfl
  | ask r next ih => exact ih _ _

/-- What a program requests when nothing else runs. -/
def requests (carry : σ → (r : ρ) → answer r × σ) : Program ρ answer α → σ → List ρ
  | ret _, _ => []
  | ask r next, s => r :: (next (carry s r).1).requests carry (carry s r).2

theorem requests_bind (carry : σ → (r : ρ) → answer r × σ) (p : Program ρ answer α)
    (f : α → Program ρ answer β) (s : σ) :
    (p.bind f).requests carry s = p.requests carry s ++
      (f (p.eval carry s).1).requests carry (p.eval carry s).2 := by
  induction p generalizing s with
  | ret a => rfl
  | ask r next ih => exact congrArg (r :: ·) (ih _ _)

theorem Asks.requests {carry : σ → (r : ρ) → answer r × σ} {Q : ρ → Prop}
    {p : Program ρ answer α} {s : σ} (hp : p.Asks Q fun _ _ => True) :
    ∀ r ∈ p.requests carry s, Q r := by
  induction p generalizing s with
  | ret a => exact fun r hr => nomatch hr
  | ask r next ih => exact List.forall_mem_cons.mpr ⟨hp.1, ih _ (hp.2 _ trivial)⟩

end Program

namespace Fallible

variable {φ : Type}

def ask (r : ρ) : Fallible φ ρ answer (answer r) := ExceptT.mk (.ask r fun x => .ret (.ok x))

def checked (x : Except φ α) : Fallible φ ρ answer α := ExceptT.mk (.ret x)

def check (c : Prop) [Decidable c] (e : φ) : Fallible φ ρ answer Unit :=
  checked (if c then .ok () else .error e)

/-- Run `handler` when a service fails, and fail with the same error. -/
def onFailure (x : Fallible φ ρ answer α) (handler : Fallible φ ρ answer Unit) :
    Fallible φ ρ answer α :=
  tryCatchThe φ x fun e => do
    handler
    checked (.error e)

/-- A call's result goes to the caller; what remains is what it did. -/
def dropResult (x : Fallible φ ρ answer α) : Program ρ answer Unit := x.run.bind fun _ => .ret ()

/-- A call of which only matters whether it failed. -/
def silent (x : Fallible φ ρ answer α) : Fallible φ ρ answer Unit := do
  let _ ← x
  pure ()

/-- A loop over a list; a failure ends it. -/
def forEach (f : β → Fallible φ ρ answer Unit) : List β → Fallible φ ρ answer Unit
  | [] => pure ()
  | b :: rest => do
    f b
    forEach f rest

variable {Q : ρ → Prop} {A : (r : ρ) → answer r → Prop} {x : Fallible φ ρ answer α}

theorem asks_ask {r : ρ} (h : Q r) : (ask r : Fallible φ ρ answer (answer r)).run.Asks Q A :=
  ⟨h, fun _ _ => trivial⟩

theorem asks_checked (x : Except φ α) : (checked x : Fallible φ ρ answer α).run.Asks Q A := trivial

theorem asks_andThen {f : α → Fallible φ ρ answer β} (hx : x.run.Asks Q A)
    (hf : ∀ a, (f a).run.Asks Q A) :
    (x >>= f).run.Asks Q A := by
  refine Program.Asks.bind hx fun result => ?_
  cases result with
  | ok a => exact hf a
  | error e => trivial

theorem asks_checkedThen {r : Except φ β} {f : β → Fallible φ ρ answer α}
    (hf : ∀ b, r = .ok b → (f b).run.Asks Q A) :
    (checked r >>= f).run.Asks Q A := by
  cases r with
  | ok b => exact hf b rfl
  | error e => trivial

theorem asks_pure (a : α) : (pure a : Fallible φ ρ answer α).run.Asks Q A := trivial

theorem asks_checkThen {c : Prop} [Decidable c] {e : φ} (hx : c → x.run.Asks Q A) :
    (check c e >>= fun _ => x).run.Asks Q A := by
  by_cases hc : c
  · rw [check, if_pos hc]
    exact hx hc
  · rw [check, if_neg hc]
    trivial

theorem asks_tryCatch {handler : φ → Fallible φ ρ answer α} (hx : x.run.Asks Q A)
    (hh : ∀ e, (handler e).run.Asks Q A) :
    (tryCatchThe φ x handler).run.Asks Q A := by
  refine Program.Asks.bind hx fun result => ?_
  cases result with
  | ok a => trivial
  | error e => exact hh e

theorem asks_dropResult (hx : x.run.Asks Q A) : (dropResult x).Asks Q A :=
  Program.Asks.bind hx fun _ => trivial

section Alone

variable {carry : σ → (r : ρ) → answer r × σ} {s s' : σ}

/-- What a call gives when nothing else runs. -/
def eval (carry : σ → (r : ρ) → answer r × σ) (x : Fallible φ ρ answer α) (s : σ) :
    Except φ α × σ := x.run.eval carry s

@[simp] theorem eval_pure (a : α) : (pure a : Fallible φ ρ answer α).eval carry s = (.ok a, s) :=
  rfl

@[simp] theorem eval_checked (r : Except φ α) :
    (checked r : Fallible φ ρ answer α).eval carry s = (r, s) := rfl

@[simp] theorem eval_ask (r : ρ) :
    (ask r : Fallible φ ρ answer (answer r)).eval carry s = (.ok (carry s r).1, (carry s r).2) :=
  rfl

theorem eval_andThen_ok {x : Fallible φ ρ answer α} {f : α → Fallible φ ρ answer β} {a : α}
    (h : x.eval carry s = (.ok a, s')) :
    (x >>= f).eval carry s = (f a).eval carry s' := by
  have hx : Program.eval carry x.run s = (.ok a, s') := h
  refine (Program.eval_bind carry x.run _ s).trans ?_
  rw [hx]
  rfl

theorem eval_andThen_error {x : Fallible φ ρ answer α} {f : α → Fallible φ ρ answer β} {e : φ}
    (h : x.eval carry s = (.error e, s')) : (x >>= f).eval carry s = (.error e, s') := by
  have hx : Program.eval carry x.run s = (.error e, s') := h
  refine (Program.eval_bind carry x.run _ s).trans ?_
  rw [hx]
  rfl

/-- A call that succeeds has succeeded in its first part. -/
theorem ok_of_eval_andThen {x : Fallible φ ρ answer α} {f : α → Fallible φ ρ answer β} {b : β}
    (h : (x >>= f).eval carry s = (.ok b, s')) :
    ∃ a s₁, x.eval carry s = (.ok a, s₁) ∧ (f a).eval carry s₁ = (.ok b, s') := by
  rcases hx : x.eval carry s with ⟨_ | a, s₁⟩
  · rw [eval_andThen_error hx] at h
    cases h
  · exact ⟨a, s₁, rfl, (eval_andThen_ok hx).symm.trans h⟩

theorem eval_ask_of {r : ρ} {x : answer r} {f : answer r → Fallible φ ρ answer β}
    (h : carry s r = (x, s')) :
    (ask r >>= f).eval carry s = (f x).eval carry s' := by
  refine eval_andThen_ok ?_
  rw [eval_ask, h]

theorem eval_check_of {c : Prop} [Decidable c] {e : φ} {f : Unit → Fallible φ ρ answer β} (hc : c) :
    (check c e >>= f).eval carry s = (f ()).eval carry s :=
  eval_andThen_ok (by simp [check, if_pos hc])

theorem eval_check_not {c : Prop} [Decidable c] {e : φ} {f : Unit → Fallible φ ρ answer β}
    (hc : ¬c) :
    (check c e >>= f).eval carry s = (.error e, s) :=
  eval_andThen_error (by simp [check, if_neg hc])

/-- What a call requests when nothing else runs. -/
def requests (carry : σ → (r : ρ) → answer r × σ) (x : Fallible φ ρ answer α) (s : σ) : List ρ :=
  x.run.requests carry s

theorem requests_andThen_ok {x : Fallible φ ρ answer α} {f : α → Fallible φ ρ answer β} {a : α}
    (h : x.eval carry s = (.ok a, s')) :
    (x >>= f).requests carry s = x.requests carry s ++ (f a).requests carry s' := by
  have hx : Program.eval carry x.run s = (.ok a, s') := h
  refine (Program.requests_bind carry x.run _ s).trans ?_
  rw [hx]
  rfl

theorem mem_requests_checkThen {c : Prop} [Decidable c] {e : φ}
    {f : Unit → Fallible φ ρ answer β} {r : ρ} :
    r ∈ (check c e >>= f).requests carry s ↔ c ∧ r ∈ (f ()).requests carry s := by
  by_cases hc : c
  · rw [check, if_pos hc]
    exact (and_iff_right hc).symm
  · rw [check, if_neg hc]
    exact iff_of_false (fun hr => nomatch hr) fun hr => hc hr.1

end Alone

end Fallible

/-- How a request to a store or a service ends that may fail. -/
inductive Fate where
  | answered
  /-- It is carried out, but the answer is lost. -/
  | lost
  | refused
  deriving DecidableEq

def Fate.carried : Fate → Bool
  | answered | lost => true
  | refused => false

/-- What the caller is told. -/
def Fate.told {φ : Type} (e : φ) (fate : Fate) (a : α) : Except φ α :=
  if fate = .answered then .ok a else .error e

theorem Fate.told_eq_ok {φ : Type} {e : φ} {fate : Fate} {a b : α} :
    fate.told e a = .ok b ↔ fate = .answered ∧ a = b := by
  cases fate <;> simp [told]

theorem Fate.carried_of_told {φ : Type} {e : φ} {fate : Fate} {a b : α}
    (h : fate.told e a = .ok b) : fate.carried := by
  rw [(told_eq_ok.mp h).1]
  rfl

/-- Go on after a failure as after a result. -/
def Fallible.ignoringFailure {φ : Type} (x : Fallible φ ρ answer Unit) : Fallible φ ρ answer Unit :=
  tryCatchThe φ x fun _ => pure ()

theorem Fallible.asks_ignoringFailure {φ : Type} {x : Fallible φ ρ answer Unit} {Q : ρ → Prop}
    {A : (r : ρ) → answer r → Prop} (hx : x.run.Asks Q A) : (ignoringFailure x).run.Asks Q A :=
  asks_tryCatch hx fun _ => asks_pure ()

theorem Fallible.requests_ignoringFailure {φ : Type} {x : Fallible φ ρ answer Unit}
    {carry : σ → (r : ρ) → answer r × σ} {s : σ} :
    (ignoringFailure x).requests carry s = x.requests carry s := by
  refine (Program.requests_bind carry x.run _ s).trans ?_
  cases (x.run.eval carry s).1 with
  | ok _ => exact List.append_nil _
  | error _ => exact List.append_nil _

/-- The operations of a service, its store, and what may happen to the store by itself. -/
structure StoreService (σ ω ρ : Type) (answer : ρ → Type) where
  program : ω → Program ρ answer Unit
  carry : ℕ → ω → σ → (r : ρ) → answer r × σ
  passes : ℕ → σ → σ

namespace StoreService

variable (S : StoreService σ ω ρ answer)

def semantics : Semantics σ ω ρ answer where
  program := S.program
  perform i op s r x s' := S.carry i op s r = (x, s')
  environment s s' := ∃ n, s' = S.passes n s
  mayStart _ := True
  mayCrash _ _ := False

/-- The conditions that the calls and the requests of a run meet. -/
structure Conditions (σ ω ρ : Type) where
  starts : ω → Prop
  allows : ℕ → ω → σ → ρ → Prop
  passes : σ → σ → Prop

variable (C : Conditions σ ω ρ)

def within : Semantics σ ω ρ answer :=
  S.semantics.restrict C.starts (fun i op s r _ _ => C.allows i op s r) (fun _ _ => True) C.passes

/-- The transition meets the conditions. -/
abbrev Meets (t : Transition (Config σ ω ρ answer) (Event ω ρ answer)) : Prop :=
  InterleavedPrograms.Meets C.starts (fun i op s r _ _ => C.allows i op s r)
    (fun _ _ => True) C.passes t

/-- A run of the service: any number of operations, interleaved between requests. -/
abbrev Runs (start : σ) (tr : Trace σ ω ρ answer) (c : Config σ ω ρ answer) : Prop :=
  Run (Step S.semantics) (Config.initial start) tr c

end StoreService

section Invariants

variable {S : StoreService σ ω ρ answer} {C : StoreService.Conditions σ ω ρ} {I : σ → Prop}
  {Q : ω → ρ → Prop}
  {A : (r : ρ) → answer r → Prop}

/-- Every program that still runs asks only for what its operation may ask. -/
def Asking (Q : ω → ρ → Prop) (A : (r : ρ) → answer r → Prop) (c : Config σ ω ρ answer) : Prop :=
  ∀ i op p, c.processes i = some ⟨op, .running p⟩ → p.Asks (Q op) A

theorem Asking.setStage {c : Config σ ω ρ answer} (h : Asking Q A c) (s : σ) {i : ℕ} {op : ω}
    {stage : Stage ρ answer} (hstage : ∀ p, stage = .running p → p.Asks (Q op) A) :
    Asking Q A ({ c with state := s }.setStage i op stage) := by
  intro j op' p hj
  by_cases hsame : j = i
  · subst hsame
    simp only [Config.setStage, Function.update_self, Option.some.injEq, Process.mk.injEq] at hj
    obtain ⟨rfl, hp⟩ := hj
    exact hstage p hp
  · simp only [Config.setStage, Function.update_of_ne hsame] at hj
    exact h j op' p hj

/-- What every request keeps that a program can ask for, every run keeps. -/
theorem StoreService.kept_of_run {start : σ} {tr : Trace σ ω ρ answer}
    {c : Config σ ω ρ answer} (hrun : S.Runs start tr c) (hmeets : ∀ t ∈ tr, StoreService.Meets C t)
    (hstart : I start) (hprograms : ∀ op, C.starts op → (S.program op).Asks (Q op) A)
    (hanswers : ∀ i op s r, I s → A r (S.carry i op s r).1)
    (hcarry : ∀ i op s r, I s → Q op r → C.allows i op s r → I (S.carry i op s r).2)
    (hpasses : ∀ n s, I s → C.passes s (S.passes n s) → I (S.passes n s)) :
    (∀ t ∈ tr, I t.before.state ∧
      ∀ i r x, t.event = .performed i r x → ∃ op, Q op r ∧ C.allows i op t.before.state r ∧
      t.after.state = (S.carry i op t.before.state r).2) ∧ I c.state := by
  have hrun' := run_restrict hrun hmeets
  have hstep : ∀ u e v, I u.state ∧ Asking Q A u → Step (S.within C) u e v → I v.state ∧
      Asking Q A v := by
    rintro u e v ⟨hu, hasking⟩ hstep
    cases hstep with
    | start fresh may =>
      refine ⟨hu, hasking.setStage u.state ?_⟩
      rintro p ⟨⟩
      exact hprograms _ may.2
    | @performed i op r x next s here done =>
      obtain ⟨hdone, hallows⟩ := done
      have hdone' : S.carry i op u.state r = (x, s) := hdone
      have hasks := hasking i op _ here
      have hs : (S.carry i op u.state r).2 = s := by rw [hdone']
      have hx : (S.carry i op u.state r).1 = x := by rw [hdone']
      refine ⟨hs ▸ hcarry i op u.state r hu hasks.1 hallows, hasking.setStage s ?_⟩
      rintro p ⟨⟩
      exact hasks.2 x (hx ▸ hanswers i op u.state r hu)
    | crash here may => exact absurd may.1 id
    | environment acts =>
      obtain ⟨⟨n, rfl⟩, hpass⟩ := acts
      exact ⟨hpasses n u.state hu hpass, hasking⟩
  have hinit : I (Config.initial start : Config σ ω ρ answer).state ∧
      Asking Q A (Config.initial start) := by
    refine ⟨hstart, ?_⟩
    intro i op p h
    cases h
  refine ⟨?_, (hrun'.invariant hinit hstep).1⟩
  intro t ht
  obtain ⟨hu, hasking⟩ := hrun'.invariant_before hinit hstep ht
  refine ⟨hu, ?_⟩
  intro i r x hevent
  obtain ⟨u, e, v⟩ := t
  have hlast : Step (S.within C) u e v := hrun'.step_of_mem ht
  dsimp only at hevent
  subst hevent
  cases hlast with
  | @performed _ op _ _ next s here done =>
    obtain ⟨hdone, hallows⟩ := done
    have hdone' : S.carry i op u.state r = (x, s) := hdone
    refine ⟨op, (hasking i op _ here).1, hallows, ?_⟩
    rw [hdone']
    rfl

/-- What every request keeps that meets the conditions, every run keeps whose steps meet them. -/
theorem StoreService.invariant_of_run {start : σ} {tr : Trace σ ω ρ answer}
    {c : Config σ ω ρ answer} (hrun : S.Runs start tr c) (hmeets : ∀ t ∈ tr, StoreService.Meets C t)
    (hstart : I start) (hcarry : ∀ i op s r, I s → C.allows i op s r → I (S.carry i op s r).2)
    (hpasses : ∀ n s, I s → C.passes s (S.passes n s) → I (S.passes n s)) : I c.state :=
  (S.kept_of_run hrun hmeets hstart (fun _ _ => Program.asks_any _) (fun _ _ _ _ _ => trivial)
    (fun i op s r hs _ => hcarry i op s r hs) hpasses).2

/-- What a step of a run does to the store. -/
theorem StoreService.effect_of_mem {start : σ} {tr : Trace σ ω ρ answer} {c : Config σ ω ρ answer}
    (hrun : S.Runs start tr c) (hmeets : ∀ t ∈ tr, StoreService.Meets C t)
    {t : Transition (Config σ ω ρ answer) (Event ω ρ answer)} (ht : t ∈ tr) :
    (∃ i op r x, t.event = .performed i r x ∧ C.allows i op t.before.state r ∧
        t.after.state = (S.carry i op t.before.state r).2) ∨
      t.after.state = t.before.state ∨ ∃ n, t.after.state = S.passes n t.before.state := by
  obtain ⟨u, e, v⟩ := t
  have hstep : Step (S.within C) u e v := (run_restrict hrun hmeets).step_of_mem ht
  cases hstep with
  | start fresh may => exact .inr (.inl rfl)
  | @performed i op r x next s here done =>
    obtain ⟨hdone, hallows⟩ := done
    have hdone' : S.carry i op u.state r = (x, s) := hdone
    refine .inl ⟨i, op, r, x, rfl, hallows, ?_⟩
    rw [hdone']
    rfl
  | crash here may => exact absurd may.1 id
  | environment acts =>
    obtain ⟨⟨n, rfl⟩, -⟩ := acts
    exact .inr (.inr ⟨n, rfl⟩)

/-- A request of a run, as the store has carried it out. -/
theorem StoreService.performed_of_mem {start : σ} {tr : Trace σ ω ρ answer}
    {c : Config σ ω ρ answer} (hrun : S.Runs start tr c) (hmeets : ∀ t ∈ tr, StoreService.Meets C t)
    {t : Transition (Config σ ω ρ answer) (Event ω ρ answer)} (ht : t ∈ tr) {i : ℕ} {r : ρ}
    {x : answer r} (hevent : t.event = .performed i r x) :
    ∃ op stage, t.before.processes i = some ⟨op, stage⟩ ∧
      C.allows i op t.before.state r ∧ S.carry i op t.before.state r = (x, t.after.state) := by
  obtain ⟨u, e, v⟩ := t
  have hstep : Step (S.within C) u e v := (run_restrict hrun hmeets).step_of_mem ht
  dsimp only at hevent
  subst hevent
  cases hstep with
  | @performed _ op _ _ next s here done => exact ⟨op, _, here, done.2, done.1⟩

/-- A step of a run is a request of a process, which its program asks for, or leaves the store to
itself. -/
theorem StoreService.asked_of_mem {start : σ} {tr : Trace σ ω ρ answer} {c : Config σ ω ρ answer}
    (hrun : S.Runs start tr c) (hmeets : ∀ t ∈ tr, StoreService.Meets C t)
    (hprograms : ∀ op, C.starts op → (S.program op).Asks (Q op) fun _ _ => True)
    {t : Transition (Config σ ω ρ answer) (Event ω ρ answer)} (ht : t ∈ tr) :
    (∃ i op r x next, t.event = .performed i r x ∧
      t.before.processes i = some ⟨op, .running (.ask r next)⟩ ∧ Q op r ∧
        C.allows i op t.before.state r ∧ t.after.state = (S.carry i op t.before.state r).2) ∨
      t.after.state = t.before.state ∨ ∃ n, t.after.state = S.passes n t.before.state := by
  have hrun' := run_restrict hrun hmeets
  have hinit : Asking Q (fun _ _ => True) (Config.initial start : Config σ ω ρ answer) := by
    intro i op p h
    cases h
  have hasking : Asking Q (fun _ _ => True) t.before := by
    refine hrun'.invariant_before hinit ?_ ht
    intro u e v hu hstep
    cases hstep with
    | start fresh may =>
      refine hu.setStage u.state ?_
      rintro p ⟨⟩
      exact hprograms _ may.2
    | @performed i op r x next s here done =>
      refine hu.setStage s ?_
      rintro p ⟨⟩
      exact (hu i op _ here).2 x trivial
    | crash here may => exact absurd may.1 id
    | environment acts => exact hu
  obtain ⟨u, e, v⟩ := t
  have hstep : Step (S.within C) u e v := hrun'.step_of_mem ht
  cases hstep with
  | start fresh may => exact .inr (.inl rfl)
  | @performed i op r x next s here done =>
    obtain ⟨hdone, hallows⟩ := done
    have hdone' : S.carry i op u.state r = (x, s) := hdone
    refine .inl ⟨i, op, r, x, next, rfl, here, (hasking i op _ here).1, hallows, ?_⟩
    rw [hdone']
    rfl
  | crash here may => exact absurd may.1 id
  | environment acts =>
    obtain ⟨⟨n, rfl⟩, -⟩ := acts
    exact .inr (.inr ⟨n, rfl⟩)

/-- What requests have entered in a log of the store, with who made them, was entered by a call of
an operation whose program asks for that. -/
theorem StoreService.logged_of_run {L : Type} (log : σ → List L) (caller : L → ℕ)
    {P : L → ω → Prop} {start : σ} {tr : Trace σ ω ρ answer} {c : Config σ ω ρ answer}
    (hrun : S.Runs start tr c) (hmeets : ∀ t ∈ tr, StoreService.Meets C t)
    (hprograms : ∀ op, C.starts op → (S.program op).Asks (Q op) fun _ _ => True)
    (hstart : log start = [])
    (hcarry : ∀ i op s r, Q op r → ∀ e ∈ log (S.carry i op s r).2,
      e ∈ log s ∨ caller e = i ∧ P e op)
    (hpasses : ∀ n s, log (S.passes n s) = log s) :
    ∀ e ∈ log c.state, ∃ op stage, c.processes (caller e) = some ⟨op, stage⟩ ∧ P e op := by
  have hkept : ∀ t ∈ tr, ∀ e ∈ log t.after.state, e ∈ log t.before.state ∨
      ∃ op stage, t.before.processes (caller e) = some ⟨op, stage⟩ ∧ P e op := by
    intro t ht e he
    rcases S.asked_of_mem hrun hmeets hprograms ht with
      ⟨i, op, r, x, next, -, hhere, hQ, -, hafter⟩ | hsame | ⟨n, hpassed⟩
    · rw [hafter] at he
      rcases hcarry i op _ r hQ e he with hold | ⟨rfl, hP⟩
      · exact .inl hold
      · exact .inr ⟨op, _, hhere, hP⟩
    · exact .inl (hsame ▸ he)
    · rw [hpassed, hpasses] at he
      exact .inl he
  clear hmeets
  induction hrun with
  | nil =>
    intro e he
    have hnone : e ∈ log start := he
    rw [hstart] at hnone
    cases hnone
  | snoc run last ih =>
    intro e he
    have hlast := hkept _ (List.mem_append_right _ List.mem_cons_self) e he
    rcases hlast with hold | ⟨op, stage, hhere, hP⟩
    · obtain ⟨op, stage, hhere, hP⟩ := ih (fun t ht => hkept t (List.mem_append_left _ ht)) e hold
      obtain ⟨stage', hhere'⟩ := last.operation hhere
      exact ⟨op, stage', hhere', hP⟩
    · obtain ⟨stage', hhere'⟩ := last.operation hhere
      exact ⟨op, stage', hhere', hP⟩

end Invariants

/-- What the calls of a service keep to: an invariant of the store, and how the store may change. -/
structure Discipline (σ ω ρ : Type) (answer : ρ → Type) where
  service : StoreService σ ω ρ answer
  conditions : StoreService.Conditions σ ω ρ
  inv : σ → Prop
  grows : σ → σ → Prop

namespace Discipline

variable {φ : Type} (D : Discipline σ ω ρ answer)

def protocol : Protocol σ Unit where
  inv s _ := D.inv s
  grows := D.grows
  idle := ()
  resting _ := True

/-- Knowledge that outlasts every step. -/
def Stable (K : σ → Prop) : Prop := D.protocol.Stable K

/-- From states where `K` is known the call keeps to the discipline, whatever runs besides it; a
result leaves `Q` and an error `E`. -/
def Upholds (i : ℕ) (op : ω) (x : Fallible φ ρ answer α) (K : σ → Prop) (Q : α → σ → Prop)
    (E : σ → Prop) : Prop :=
  D.protocol.Follows (D.service.within D.conditions) i op x.run K () fun result s _ =>
    match result with
    | .ok a => Q a s
    | .error _ => E s

variable {D} {i : ℕ} {op : ω} {x : Fallible φ ρ answer α} {K K' : σ → Prop} {Q Q' : α → σ → Prop}
  {E E' : σ → Prop}

theorem stable_const (p : Prop) : D.Stable fun _ => p := fun _ _ _ h => h

theorem Stable.and (h : D.Stable K) (h' : D.Stable K') : D.Stable fun s => K s ∧ K' s :=
  Protocol.Stable.and h h'

theorem Upholds.weaken (h : D.Upholds i op x K Q E) (hK : ∀ s, D.inv s → K' s → K s)
    (hQ : ∀ a s, Q a s → Q' a s) (hE : ∀ s, E s → E' s) : D.Upholds i op x K' Q' E' := by
  refine Protocol.Follows.weaken h (fun s _ hinv _ hs => hK s hinv hs) ?_
  intro result s _ hs
  cases result with
  | ok a => exact hQ a s hs
  | error e => exact hE s hs

theorem Upholds.pure {a : α} (h : ∀ s, D.inv s → K s → Q a s) :
    D.Upholds i op (pure a : Fallible φ ρ answer α) K Q E :=
  fun s _ hinv hs _ => h s hinv hs

theorem Upholds.checked {r : Except φ α} (hok : ∀ a s, r = .ok a → D.inv s → K s → Q a s)
    (herror : ∀ s, K s → E s) :
    D.Upholds i op (Fallible.checked r) K Q E := by
  intro s _ hinv hs _
  cases r with
  | ok a => exact hok a s rfl hinv hs
  | error e => exact herror s hs

theorem Upholds.check {c : Prop} [Decidable c] {e : φ} (herror : ∀ s, K s → E s) :
    D.Upholds i op (Fallible.check c e : Fallible φ ρ answer Unit) K (fun _ s => c ∧ K s) E := by
  refine Upholds.checked ?_ herror
  rintro ⟨⟩ s hr - hs
  by_cases hc : c
  · exact ⟨hc, hs⟩
  · rw [if_neg hc] at hr
    cases hr

theorem Upholds.bind {R : α → σ → Prop} {Q : β → σ → Prop} {f : α → Fallible φ ρ answer β}
    (hx : D.Upholds i op x K R E) (hf : ∀ a, D.Upholds i op (f a) (R a) Q E) :
    D.Upholds i op (x >>= f) K Q E := by
  refine Protocol.Follows.andThen hx (fun a _ => hf a) ?_
  exact fun _ _ _ hs => hs

theorem Upholds.silent (h : D.Upholds i op x K (fun _ _ => True) E) :
    D.Upholds i op (Fallible.silent x) K (fun _ _ => True) E :=
  Upholds.bind h fun _ => Upholds.pure fun _ _ _ => trivial

theorem Upholds.onFailure {handler : Fallible φ ρ answer Unit} {R : σ → Prop}
    (hx : D.Upholds i op x K Q R) (hh : D.Upholds i op handler R (fun _ => E) E) :
    D.Upholds i op (Fallible.onFailure x handler) K Q E := by
  refine Protocol.Follows.tryCatch hx (fun e _ => ?_) fun _ _ _ hs => hs
  refine Upholds.bind hh fun _ => ?_
  exact Upholds.checked (fun _ _ h => nomatch h) fun _ hs => hs

theorem Upholds.tryCatch {handler : φ → Fallible φ ρ answer α} {R : σ → Prop}
    (hx : D.Upholds i op x K Q R) (hh : ∀ e, D.Upholds i op (handler e) R Q E) :
    D.Upholds i op (tryCatchThe φ x handler) K Q E :=
  Protocol.Follows.tryCatch hx (fun e _ => hh e) fun _ _ _ hs => hs

/-- A fact that does not depend on the store may be used from the start. -/
theorem Upholds.assuming {p : Prop} (h : p → D.Upholds i op x K Q E) :
    D.Upholds i op x (fun s => p ∧ K s) Q E :=
  Protocol.Follows.assuming h

/-- A request: what is known of its answer afterwards has to outlast the steps of others. -/
theorem Upholds.ask {r : ρ} {Q : answer r → σ → Prop} (hstable : ∀ x, D.Stable (Q x))
    (h : ∀ s, D.inv s → K s → D.conditions.allows i op s r →
      D.grows s (D.service.carry i op s r).2 ∧ D.inv (D.service.carry i op s r).2 ∧
        Q (D.service.carry i op s r).1 (D.service.carry i op s r).2) :
    D.Upholds i op (Fallible.ask r : Fallible φ ρ answer (answer r)) K Q E := by
  intro s _ x s' hinv hs _ hdone
  obtain ⟨hcarry, hallows⟩ := hdone
  have hcarry' : D.service.carry i op s r = (x, s') := hcarry
  have hstep := h s hinv hs hallows
  rw [hcarry'] at hstep
  exact ⟨hstep.1, Q x, (), hstable x, hstep.2.2, hstep.2.1, fun s'' _ _ hs'' _ => hs''⟩

/-- A request that leaves the store alone. -/
theorem Upholds.read {r : ρ} {Q : answer r → σ → Prop} (hrefl : ∀ s, D.grows s s)
    (hsame : ∀ s, (D.service.carry i op s r).2 = s) (hstable : ∀ x, D.Stable (Q x))
    (h : ∀ s, D.inv s → K s → Q (D.service.carry i op s r).1 s) :
    D.Upholds i op (Fallible.ask r : Fallible φ ρ answer (answer r)) K Q E := by
  refine Upholds.ask hstable fun s hinv hs _ => ?_
  rw [hsame s]
  exact ⟨hrefl s, hinv, h s hinv hs⟩

/-- A check, where what is known matters afterwards but not what was checked. -/
theorem Upholds.require {c : Prop} [Decidable c] {e : φ} (herror : ∀ s, K s → E s) :
    D.Upholds i op (Fallible.check c e : Fallible φ ρ answer Unit) K (fun _ => K) E :=
  (Upholds.check herror).weaken (fun _ _ hs => hs) (fun _ _ hs => hs.2) fun _ hs => hs

/-- A request that leaves the store alone and whose answer does not matter. -/
theorem Upholds.look {r : ρ} (hrefl : ∀ s, D.grows s s)
    (hsame : ∀ s, (D.service.carry i op s r).2 = s) (hK : D.Stable K) :
    D.Upholds i op (Fallible.ask r : Fallible φ ρ answer (answer r)) K (fun _ => K) E :=
  Upholds.read hrefl hsame (fun _ => hK) fun _ _ hs => hs

/-- A call of whose requests none needs knowledge. -/
theorem Upholds.of_asks {P : ρ → Prop} (hK : D.Stable K) (hx : x.run.Asks P fun _ _ => True)
    (hstep : ∀ r, P r → ∀ s, D.inv s → D.conditions.allows i op s r →
      D.grows s (D.service.carry i op s r).2 ∧ D.inv (D.service.carry i op s r).2) :
    D.Upholds i op x K (fun _ => K) K := by
  have hfollows : ∀ p : Program ρ answer (Except φ α), p.Asks P (fun _ _ => True) →
      D.protocol.Follows (D.service.within D.conditions) i op p K () fun _ s _ => K s := by
    intro p hp
    induction p with
    | ret a => exact fun s _ _ hs _ => hs
    | ask r next ih =>
      rintro s H y s' hinv hs - ⟨hcarry, hallows⟩
      have hcarry' : D.service.carry i op s r = (y, s') := hcarry
      obtain ⟨hgrows, hinv'⟩ := hstep r hp.1 s hinv hallows
      rw [hcarry'] at hgrows hinv'
      exact ⟨hgrows, K, (), hK, hK s s' hgrows hs, hinv', ih y (hp.2 y trivial)⟩
  refine Protocol.Follows.weaken (hfollows x.run hx) (fun _ _ _ _ hs => hs) ?_
  intro result s _ hs
  cases result with
  | ok a => exact hs
  | error e => exact hs

/-- The programs of all operations keep to the discipline. -/
structure Kept (D : Discipline σ ω ρ answer) : Prop where
  refl : ∀ s, D.grows s s
  programs : ∀ i op, D.conditions.starts op →
    D.protocol.Follows (D.service.within D.conditions) i op (D.service.program op) (fun _ => True)
      () fun _ _ _ => True
  passes : ∀ n s, D.inv s → D.conditions.passes s (D.service.passes n s) →
    D.grows s (D.service.passes n s) ∧ D.inv (D.service.passes n s)

/-- A program that an operation starts with. -/
def Plays (D : Discipline σ ω ρ answer) (i : ℕ) (op : ω) (p : Program ρ answer Unit) : Prop :=
  D.protocol.Follows (D.service.within D.conditions) i op p (fun _ => True) () fun _ _ _ => True

theorem Upholds.plays (h : D.Upholds i op x (fun _ => True) (fun _ _ => True) fun _ => True) :
    D.Plays i op (Fallible.dropResult x) :=
  Protocol.Follows.bind h fun _ _ _ _ _ _ _ => trivial

theorem kept_of_plays (hrefl : ∀ s, D.grows s s)
    (hprograms : ∀ i op, D.conditions.starts op → D.Plays i op (D.service.program op))
    (hpasses : ∀ n s, D.inv s → D.conditions.passes s (D.service.passes n s) →
      D.grows s (D.service.passes n s) ∧ D.inv (D.service.passes n s)) : D.Kept :=
  ⟨hrefl, hprograms, hpasses⟩

/-- Every run whose steps meet the conditions keeps the invariant, and all its steps are as the
discipline says. -/
theorem Kept.run (hkept : D.Kept) {start : σ} {tr : Trace σ ω ρ answer}
    {c : Config σ ω ρ answer} (hrun : D.service.Runs start tr c)
    (hmeets : ∀ t ∈ tr, StoreService.Meets D.conditions t) (hstart : D.inv start) :
    D.inv c.state ∧ ∀ t ∈ tr, D.inv t.before.state ∧ D.grows t.before.state t.after.state := by
  have hrun' := run_restrict hrun hmeets
  have hobeyed : D.protocol.Obeyed (D.service.within D.conditions) := by
    refine ⟨?_, ?_, ?_, hkept.refl⟩
    · intro i op hstarts
      exact hkept.programs i op hstarts.2
    · intro s H i _ hcrash
      exact absurd hcrash.1 id
    · rintro s H s' hinv ⟨⟨n, rfl⟩, hpasses⟩
      exact hkept.passes n s hinv hpasses
  obtain ⟨H, hfinish⟩ := Protocol.kept_of_run hobeyed hstart hrun'
  refine ⟨hfinish.inv, ?_⟩
  intro t ht
  obtain ⟨tr', hreached⟩ := hrun'.reached_of_mem ht
  obtain ⟨H', hbefore⟩ := Protocol.kept_of_run hobeyed hstart hreached
  exact ⟨hbefore.inv, Protocol.grows_of_mem hobeyed hstart hrun' t ht⟩

-- A goal is not to be reduced to the program that it is about.
attribute [irreducible] Upholds Plays

end Discipline

section Schedules

/-- One step of a schedule. -/
inductive Move (ω : Type) where
  | start (i : ℕ) (op : ω)
  | step (i : ℕ)
  | pass (n : ℕ)

variable (S : StoreService σ ω ρ answer) (C : StoreService.Conditions σ ω ρ)
  [DecidablePred C.starts]
  [∀ i op s r, Decidable (C.allows i op s r)] [∀ s s', Decidable (C.passes s s')]

/-- The configuration after a step of the schedule, if the step can be made and meets the
conditions. -/
def StoreService.move (c : Config σ ω ρ answer) : Move ω → Option (Config σ ω ρ answer)
  | .start i op => if (c.processes i).isNone ∧
  C.starts op then some (c.setStage i op (.running (S.program op))) else none
  | .step i =>
    match c.processes i with
    | some ⟨op, .running (.ask r next)⟩ =>
      if C.allows i op c.state r then
        some ({ c with state := (S.carry i op c.state r).2 }.setStage i op
          (.running (next (S.carry i op c.state r).1)))
      else none
    | _ => none
  | .pass n =>
    if C.passes c.state (S.passes n c.state) then
      some { c with state := S.passes n c.state } else none

def StoreService.moves (c : Config σ ω ρ answer) (schedule : List (Move ω)) :
    Option (Config σ ω ρ answer) :=
  schedule.foldlM (S.move C) c

variable {S C} {c c' : Config σ ω ρ answer}

theorem StoreService.step_of_move {m : Move ω} (h : S.move C c m = some c') :
    ∃ e, Step (S.within C) c e c' ∧ ∀ i op, m = .start i op → e = .start i op := by
  cases m with
  | start i op =>
    simp only [move, Option.ite_none_right_eq_some, Option.some.injEq,
      Option.isNone_iff_eq_none] at h
    obtain ⟨⟨hfresh, hstarts⟩, rfl⟩ := h
    have hmay : (S.within C).mayStart op := ⟨trivial, hstarts⟩
    refine ⟨_, Step.start hfresh hmay, ?_⟩
    rintro _ _ ⟨⟩
    rfl
  | step i =>
    simp only [move] at h
    split at h
    · next op r next hprocess =>
      simp only [Option.ite_none_right_eq_some, Option.some.injEq] at h
      obtain ⟨hallows, rfl⟩ := h
      have hdone : (S.within C).perform i op c.state r _ _ := ⟨rfl, hallows⟩
      exact ⟨_, Step.performed hprocess hdone, fun _ _ h => nomatch h⟩
    · cases h
  | pass n =>
    simp only [move, Option.ite_none_right_eq_some, Option.some.injEq] at h
    obtain ⟨hpasses, rfl⟩ := h
    have hacts : (S.within C).environment c.state _ := ⟨⟨n, rfl⟩, hpasses⟩
    exact ⟨_, Step.environment hacts, fun _ _ h => nomatch h⟩

/-- A run goes on as a schedule says, and each call is started where the schedule has it. -/
theorem StoreService.run_of_moves {start : Config σ ω ρ answer} {tr : Trace σ ω ρ answer}
    {schedule : List (Move ω)} (hrun : Run (Step (S.within C)) start tr c)
    (h : S.moves C c schedule = some c') :
    ∃ tr', Run (Step (S.within C)) start (tr ++ tr') c' ∧
      ∀ before i op rest, schedule = before ++ .start i op :: rest →
        ∃ u ∈ tr', u.event = .start i op ∧ S.moves C c before = some u.before := by
  induction schedule generalizing c tr with
  | nil =>
    obtain rfl := Option.some.inj h
    refine ⟨[], by rwa [List.append_nil], ?_⟩
    intro before i op rest hempty
    simp at hempty
  | cons m schedule ih =>
    obtain ⟨c₁, hmove, hmoves⟩ := Option.bind_eq_some_iff.mp h
    obtain ⟨e, hstep, hevent⟩ := step_of_move hmove
    obtain ⟨tr', hrun', hstarts⟩ := ih (hrun.snoc hstep) hmoves
    rw [List.append_assoc] at hrun'
    refine ⟨_, hrun', ?_⟩
    intro before i op rest hschedule
    cases before with
    | nil =>
      obtain ⟨hm, -⟩ := List.cons.inj hschedule
      exact ⟨_, List.mem_cons_self, hevent i op hm, rfl⟩
    | cons m' before =>
      obtain ⟨rfl, hrest⟩ := List.cons.inj hschedule
      obtain ⟨u, hu, hstart, hbefore⟩ := hstarts before i op rest hrest
      exact ⟨u, List.mem_cons_of_mem _ hu, hstart, Option.bind_eq_some_iff.mpr ⟨c₁, hmove, hbefore⟩⟩

/-- A schedule that can be followed gives a run whose steps meet the conditions. -/
theorem StoreService.runs_with_starts {s : σ} {schedule : List (Move ω)}
    (h : S.moves C (Config.initial s) schedule = some c) :
    ∃ tr, S.Runs s tr c ∧ (∀ t ∈ tr, StoreService.Meets C t) ∧
      ∀ before i op rest, schedule = before ++ .start i op :: rest →
        ∃ u ∈ tr, u.event = .start i op ∧ S.moves C (Config.initial s) before = some u.before := by
  obtain ⟨tr, hrun, hstarts⟩ := run_of_moves Run.nil h
  obtain ⟨hruns, hmeets⟩ := run_of_restrict hrun
  exact ⟨tr, hruns, hmeets, hstarts⟩

theorem StoreService.runs_of_moves {s : σ} {schedule : List (Move ω)}
    (h : S.moves C (Config.initial s) schedule = some c) :
    ∃ tr, S.Runs s tr c ∧ ∀ t ∈ tr, StoreService.Meets C t := by
  obtain ⟨tr, hrun, hmeets, -⟩ := runs_with_starts h
  exact ⟨tr, hrun, hmeets⟩

/-- The configuration at the end of a schedule, as far as it is computed. -/
theorem StoreService.runs_of_computed {γ : Type} {s : σ} {schedule : List (Move ω)}
    {f : Config σ ω ρ answer → γ} {a : γ}
    (h : (S.moves C (Config.initial s) schedule).map f = some a) :
    ∃ tr c, S.Runs s tr c ∧ (∀ t ∈ tr, StoreService.Meets C t) ∧
      S.moves C (Config.initial s) schedule = some c ∧ f c = a := by
  obtain ⟨c, hc, hf⟩ := Option.map_eq_some_iff.mp h
  obtain ⟨tr, hrun, hmeets⟩ := runs_of_moves hc
  exact ⟨tr, c, hrun, hmeets, hc, hf⟩

/-- The same for the last step of a schedule. -/
theorem StoreService.runs_of_last {γ : Type} {s : σ} {schedule : List (Move ω)} {m : Move ω}
    {f : Config σ ω ρ answer → Config σ ω ρ answer → γ} {a : γ}
    (h : ((S.moves C (Config.initial s) schedule).bind fun c => (S.move C c m).map (f c)) =
      some a) :
    ∃ tr c e c', S.Runs s (tr ++ [⟨c, e, c'⟩]) c' ∧
      (∀ t ∈ tr ++ [⟨c, e, c'⟩], StoreService.Meets C t) ∧ f c c' = a := by
  obtain ⟨c, hc, hlast⟩ := Option.bind_eq_some_iff.mp h
  obtain ⟨c', hc', hf⟩ := Option.map_eq_some_iff.mp hlast
  obtain ⟨tr, hrun, -⟩ := run_of_moves Run.nil hc
  obtain ⟨e, hstep, -⟩ := step_of_move hc'
  have hboth := run_of_restrict (hrun.snoc hstep)
  exact ⟨tr, c, e, c', hboth.1, hboth.2, hf⟩

/-- The request with which a process goes on. -/
def Config.pending (c : Config σ ω ρ answer) (i : ℕ) : Option ρ :=
  match c.processes i with
  | some ⟨_, .running (.ask r _)⟩ => some r
  | _ => none

theorem Config.process_of_pending {i : ℕ} {r : ρ} (h : c.pending i = some r) :
    ∃ op next, c.processes i = some ⟨op, .running (.ask r next)⟩ := by
  unfold Config.pending at h
  split at h
  · next op r' next hprocess =>
    obtain rfl := Option.some.inj h
    exact ⟨op, next, hprocess⟩
  · cases h

theorem StoreService.performed_of_move {i : ℕ} (h : S.move C c (.step i) = some c') :
    ∃ r x, c.pending i = some r ∧ Step (S.within C) c (.performed i r x) c' := by
  simp only [move] at h
  split at h
  · next op r next hprocess =>
    simp only [Option.ite_none_right_eq_some, Option.some.injEq] at h
    obtain ⟨hallows, rfl⟩ := h
    have hdone : (S.within C).perform i op c.state r _ _ := ⟨rfl, hallows⟩
    refine ⟨r, _, ?_, Step.performed hprocess hdone⟩
    simp only [Config.pending, hprocess]
  · cases h

/-- The same where the last step is a request. -/
theorem StoreService.runs_of_request {γ : Type} {s : σ} {schedule : List (Move ω)} {i : ℕ}
    {f : Config σ ω ρ answer → Config σ ω ρ answer → γ} {a : γ}
    (h : ((S.moves C (Config.initial s) schedule).bind fun c => (S.move C c (.step i)).map (f c)) =
      some a) :
    ∃ tr c r x c', S.Runs s (tr ++ [⟨c, .performed i r x, c'⟩]) c' ∧
      (∀ t ∈ tr ++ [⟨c, .performed i r x, c'⟩], StoreService.Meets C t) ∧ c.pending i = some r ∧
      f c c' = a := by
  obtain ⟨c, hc, hlast⟩ := Option.bind_eq_some_iff.mp h
  obtain ⟨c', hc', hf⟩ := Option.map_eq_some_iff.mp hlast
  obtain ⟨tr, hrun, -⟩ := run_of_moves Run.nil hc
  obtain ⟨r, x, hpending, hstep⟩ := performed_of_move hc'
  obtain ⟨hboth, hmeets⟩ := run_of_restrict (hrun.snoc hstep)
  exact ⟨tr, c, r, x, c', hboth, hmeets, hpending, hf⟩

end Schedules

section Finished

/-- The process has not been started, or is over. -/
def Config.finished (c : Config σ ω ρ answer) (i : ℕ) : Bool :=
  match c.processes i with
  | none => true
  | some ⟨_, .running (.ret _)⟩ => true
  | some ⟨_, .running (.ask _ _)⟩ => false
  | some ⟨_, .crashed⟩ => true

variable {S : StoreService σ ω ρ answer} {C : StoreService.Conditions σ ω ρ}
  [DecidablePred C.starts]
  [∀ i op s r, Decidable (C.allows i op s r)] [∀ s s', Decidable (C.passes s s')]
  {c c' : Config σ ω ρ answer}

/-- The processes that the schedule starts. -/
def Move.starts : Move ω → Option ℕ
  | .start i _ => some i
  | _ => none

theorem StoreService.fresh_of_moves {schedule : List (Move ω)} {i : ℕ}
    (hi : ∀ m ∈ schedule, m.starts ≠ some i) (hfresh : c.processes i = none)
    (h : S.moves C c schedule = some c') : c'.processes i = none := by
  induction schedule generalizing c with
  | nil => exact Option.some.inj h ▸ hfresh
  | cons m schedule ih =>
    obtain ⟨c₁, hmove, hmoves⟩ := Option.bind_eq_some_iff.mp h
    refine ih (fun m hm => hi m (List.mem_cons_of_mem _ hm)) ?_ hmoves
    cases m with
    | start j op =>
      simp only [move, Option.ite_none_right_eq_some, Option.some.injEq] at hmove
      obtain ⟨-, rfl⟩ := hmove
      have hne : i ≠ j := fun heq => hi _ List.mem_cons_self (congrArg some heq.symm)
      simpa only [Config.setStage, Function.update_of_ne hne] using hfresh
    | step j =>
      simp only [move] at hmove
      split at hmove
      · next op r next hprocess =>
        simp only [Option.ite_none_right_eq_some, Option.some.injEq] at hmove
        obtain ⟨-, rfl⟩ := hmove
        have hne : i ≠ j := by
          rintro rfl
          rw [hfresh] at hprocess
          cases hprocess
        simpa only [Config.setStage, Function.update_of_ne hne] using hfresh
      · cases hmove
    | pass n =>
      simp only [move, Option.ite_none_right_eq_some, Option.some.injEq] at hmove
      obtain ⟨-, rfl⟩ := hmove
      exact hfresh

/-- Every process that the schedule has started is over. -/
theorem StoreService.quiescent_of_moves {s : σ} {schedule : List (Move ω)}
    (h : S.moves C (Config.initial s) schedule = some c)
    (hover : (schedule.filterMap Move.starts).all c.finished) : c.Quiescent := by
  intro i proc hproc
  have hstarted : i ∈ schedule.filterMap Move.starts := by
    by_contra hnot
    have hfresh :=
      fresh_of_moves (fun m hm hstarts => hnot (List.mem_filterMap.mpr ⟨m, hm, hstarts⟩)) rfl h
    rw [hproc] at hfresh
    cases hfresh
  have hfinished := List.all_eq_true.mp hover i hstarted
  unfold Config.finished at hfinished
  rw [hproc] at hfinished
  obtain ⟨op, p | _⟩ := proc
  · cases p with
    | ret u => exact .inl rfl
    | ask r next => cases hfinished
  · exact .inr rfl

end Finished

section Free

/-- No condition at all. -/
def StoreService.anything : StoreService.Conditions σ ω ρ :=
  ⟨fun _ => True, fun _ _ _ _ => True, fun _ _ => True⟩

/-- Conditions that nothing can break. -/
theorem StoreService.meets_of_forall {C : StoreService.Conditions σ ω ρ}
    (hstarts : ∀ op, C.starts op) (hallows : ∀ i op s r, C.allows i op s r)
    (hpasses : ∀ s s', C.passes s s') (t : Transition (Config σ ω ρ answer) (Event ω ρ answer)) :
    StoreService.Meets C t := by
  obtain ⟨u, e, v⟩ := t
  cases e with
  | start i op => exact hstarts op
  | performed i r x => exact fun _ _ => hallows _ _ _ _
  | crash i => trivial
  | environment => exact hpasses _ _

/-- Conditions of which one admits more. -/
theorem StoreService.Meets.weaken {C C' : StoreService.Conditions σ ω ρ}
    {t : Transition (Config σ ω ρ answer) (Event ω ρ answer)} (h : StoreService.Meets C t)
    (hstarts : ∀ op, C.starts op → C'.starts op)
    (hallows : ∀ i op s r, C.allows i op s r → C'.allows i op s r)
    (hpasses : ∀ s s', C.passes s s' → C'.passes s s') : StoreService.Meets C' t := by
  obtain ⟨u, e, v⟩ := t
  cases e with
  | start i op => exact hstarts op h
  | performed i r x => exact fun proc hproc => hallows _ _ _ _ (h proc hproc)
  | crash i => trivial
  | environment => exact hpasses _ _ h

theorem StoreService.meets_anything (t : Transition (Config σ ω ρ answer) (Event ω ρ answer)) :
    StoreService.Meets (StoreService.anything : StoreService.Conditions σ ω ρ) t :=
  StoreService.meets_of_forall (fun _ => trivial) (fun _ _ _ _ => trivial) (fun _ _ => trivial) t

instance : DecidablePred (StoreService.anything : StoreService.Conditions σ ω ρ).starts :=
  fun _ => inferInstanceAs (Decidable True)
instance (i : ℕ) (op : ω) (s : σ) (r : ρ) :
    Decidable ((StoreService.anything : StoreService.Conditions σ ω ρ).allows i op s r) :=
  inferInstanceAs (Decidable True)
instance (s s' : σ) :
    Decidable ((StoreService.anything : StoreService.Conditions σ ω ρ).passes s s') :=
  inferInstanceAs (Decidable True)

end Free

end InterleavedPrograms
