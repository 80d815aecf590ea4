import Mathlib.Logic.Function.Basic
import VeriAgentPay.LabelledRuns

/-!
# Programs that run side by side on shared state

A program asks for one request at a time and goes on with the answer. Any number of them
run on one state, interleaved between requests, and each may stop for good at any point.
A protocol is checked program by program: every request keeps an invariant on the state and
on what each program holds, and the knowledge a program has gathered is of a kind that no
step of another one destroys.
-/

namespace InterleavedPrograms
open LabelledRuns

inductive Program (ρ : Type) (answer : ρ → Type) (α : Type) : Type
  | ret (a : α)
  | ask (r : ρ) (next : answer r → Program ρ answer α)

variable {σ ω ρ η φ α β : Type} {answer : ρ → Type}

namespace Program

def bind : Program ρ answer α → (α → Program ρ answer β) → Program ρ answer β
  | ret a, f => f a
  | ask r next, f => ask r fun x => (next x).bind f

instance : Monad (Program ρ answer) where
  pure := ret
  bind := bind

/-- Whatever the answers are, the program asks only for allowed requests. -/
def Within (allowed : ρ → Prop) : Program ρ answer α → Prop
  | ret _ => True
  | ask r next => allowed r ∧ ∀ x, (next x).Within allowed

theorem Within.bind {allowed : ρ → Prop} {p : Program ρ answer α} {f : α → Program ρ answer β}
    (hp : p.Within allowed) (hf : ∀ a, (f a).Within allowed) : (p.bind f).Within allowed := by
  induction p with
  | ret a => exact hf a
  | ask r next ih => exact ⟨hp.1, fun x => ih x (hp.2 x)⟩

end Program

/-- Programs that may also fail. -/
abbrev Fallible (φ ρ : Type) (answer : ρ → Type) := ExceptT φ (Program ρ answer)

theorem Program.Within.andThen {allowed : ρ → Prop} {x : Fallible φ ρ answer α}
    {f : α → Fallible φ ρ answer β} (hx : x.run.Within allowed)
    (hf : ∀ a, (f a).run.Within allowed) : (x >>= f).run.Within allowed := by
  refine Program.Within.bind hx fun result => ?_
  cases result with
  | ok a => exact hf a
  | error e => trivial

/-- What is left of an operation: a program, or nothing after a crash. -/
inductive Stage (ρ : Type) (answer : ρ → Type) where
  | running (p : Program ρ answer Unit)
  | crashed

structure Process (ω ρ : Type) (answer : ρ → Type) where
  operation : ω
  stage : Stage ρ answer

structure Config (σ ω ρ : Type) (answer : ρ → Type) where
  state : σ
  processes : ℕ → Option (Process ω ρ answer)

inductive Event (ω ρ : Type) (answer : ρ → Type) where
  | start (i : ℕ) (op : ω)
  | performed (i : ℕ) (r : ρ) (x : answer r)
  | crash (i : ℕ)
  | environment

structure Semantics (σ ω ρ : Type) (answer : ρ → Type) where
  program : ω → Program ρ answer Unit
  perform : ℕ → ω → σ → (r : ρ) → answer r → σ → Prop
  environment : σ → σ → Prop
  mayStart : ω → Prop
  mayCrash : ℕ → σ → Prop

/-- The same programs where less may happen. -/
def Semantics.restrict (sem : Semantics σ ω ρ answer) (mayStart : ω → Prop)
    (allowed : ℕ → ω → σ → (r : ρ) → answer r → σ → Prop) (mayCrash : ℕ → σ → Prop)
    (mayAct : σ → σ → Prop) :
    Semantics σ ω ρ answer where
  program := sem.program
  perform i op s r x s' := sem.perform i op s r x s' ∧ allowed i op s r x s'
  environment s s' := sem.environment s s' ∧ mayAct s s'
  mayStart op := sem.mayStart op ∧ mayStart op
  mayCrash i s := sem.mayCrash i s ∧ mayCrash i s

namespace Config

def setStage (c : Config σ ω ρ answer) (i : ℕ) (op : ω) (stage : Stage ρ answer) :
    Config σ ω ρ answer :=
  { c with processes := Function.update c.processes i (some ⟨op, stage⟩) }

/-- Every operation that was started has finished or crashed. -/
def Quiescent (c : Config σ ω ρ answer) : Prop :=
  ∀ i proc, c.processes i = some proc → proc.stage = .running (.ret ()) ∨ proc.stage = .crashed

end Config

inductive Step (sem : Semantics σ ω ρ answer) :
    Config σ ω ρ answer → Event ω ρ answer → Config σ ω ρ answer → Prop
  | start {c : Config σ ω ρ answer} {i : ℕ} {op : ω} (fresh : c.processes i = none)
    (allowed : sem.mayStart op) :
    Step sem c (.start i op) (c.setStage i op (.running (sem.program op)))
  | performed {c : Config σ ω ρ answer} {i : ℕ} {op : ω} {r : ρ} {x : answer r}
      {next : answer r → Program ρ answer Unit} {s : σ}
      (here : c.processes i = some ⟨op, .running (.ask r next)⟩)
        (done : sem.perform i op c.state r x s) :
    Step sem c (.performed i r x) ({ c with state := s }.setStage i op (.running (next x)))
  | crash {c : Config σ ω ρ answer} {i : ℕ} {op : ω} {p : Program ρ answer Unit}
      (here : c.processes i = some ⟨op, .running p⟩) (allowed : sem.mayCrash i c.state) :
    Step sem c (.crash i) (c.setStage i op .crashed)
  | environment {c : Config σ ω ρ answer} {s : σ} (acts : sem.environment c.state s) :
    Step sem c .environment { c with state := s }

def Config.initial (s : σ) : Config σ ω ρ answer := ⟨s, fun _ => none⟩

/-- A process keeps its operation. -/
theorem Step.operation {sem : Semantics σ ω ρ answer} {c c' : Config σ ω ρ answer}
    {e : Event ω ρ answer} (h : Step sem c e c') {i : ℕ} {op : ω} {stage : Stage ρ answer}
    (hi : c.processes i = some ⟨op, stage⟩) :
    ∃ stage', c'.processes i = some ⟨op, stage'⟩ := by
  have hset : ∀ (s : σ) (j : ℕ) (op' : ω) (stage' : Stage ρ answer),
      (∀ proc, c.processes j = some proc → proc.operation = op') →
      ∃ stage'', ({ c with state := s }.setStage j op' stage').processes i = some
        ⟨op, stage''⟩ := by
    intro s j op' stage' hj
    by_cases hij : i = j
    · subst hij
      obtain rfl : op = op' := hj _ hi
      exact ⟨stage', Function.update_self ..⟩
    · exact ⟨stage, (Function.update_of_ne hij _ _).trans hi⟩
  cases h with
  | start fresh =>
    refine hset c.state _ _ _ fun proc hproc => ?_
    rw [fresh] at hproc
    cases hproc
  | performed here =>
    refine hset _ _ _ _ fun proc hproc => ?_
    rw [← Option.some.inj (here.symm.trans hproc)]
  | crash here =>
    refine hset c.state _ _ _ fun proc hproc => ?_
    rw [← Option.some.inj (here.symm.trans hproc)]
  | environment => exact ⟨stage, hi⟩

theorem operation_of_run {sem : Semantics σ ω ρ answer} {start c : Config σ ω ρ answer}
    {tr : List (Transition (Config σ ω ρ answer) (Event ω ρ answer))}
    (hrun : Run (Step sem) start tr c) {t : Transition (Config σ ω ρ answer) (Event ω ρ answer)}
    (ht : t ∈ tr) {i : ℕ} {op : ω} {stage : Stage ρ answer}
    (hi : t.before.processes i = some ⟨op, stage⟩) :
    ∃ stage', c.processes i = some ⟨op, stage'⟩ := by
  induction hrun with
  | nil => cases ht
  | snoc run last ih =>
    rcases List.mem_append.mp ht with ht | ht
    · obtain ⟨stage', hstage⟩ := ih ht
      exact last.operation hstage
    · obtain rfl := List.mem_singleton.mp ht
      exact last.operation hi

/-- A process starts before it does anything else. -/
theorem started_before {sem : Semantics σ ω ρ answer} {start c : Config σ ω ρ answer}
    {tr tr' : List (Transition (Config σ ω ρ answer) (Event ω ρ answer))}
    {s t : Transition (Config σ ω ρ answer) (Event ω ρ answer)}
    (hrun : Run (Step sem) start (tr ++ t :: tr') c) (hs : s ∈ tr ++ t :: tr') {i : ℕ} {op : ω}
    (hstart : s.event = .start i op) {proc : Process ω ρ answer}
    (ht : t.before.processes i = some proc) : s ∈ tr := by
  have hfresh : s.before.processes i = none := by
    have hstep := hrun.step_of_mem hs
    rw [hstart] at hstep
    generalize s.before = u, s.after = v at hstep ⊢
    cases hstep with
    | start fresh => exact fresh
  rcases List.mem_append.mp hs with hbefore | hafter
  · exact hbefore
  · rcases List.mem_cons.mp hafter with rfl | hlater
    · rw [hfresh] at ht
      cases ht
    · exfalso
      clear hs hafter
      induction tr' using List.reverseRecOn generalizing c with
      | nil => cases hlater
      | append_singleton rest last ih =>
        rw [← List.cons_append, ← List.append_assoc] at hrun
        rcases List.mem_append.mp hlater with hrest | hlast
        · exact ih hrun.init hrest
        · obtain rfl := List.mem_singleton.mp hlast
          have hmem : t ∈ tr ++ t :: rest := List.mem_append_right _ List.mem_cons_self
          obtain ⟨op', stage⟩ := proc
          obtain ⟨stage', hsome⟩ := operation_of_run hrun.init hmem ht
          rw [hfresh] at hsome
          cases hsome

section Restriction

variable {sem : Semantics σ ω ρ answer} (mayStart : ω → Prop)
  (allowed : ℕ → ω → σ → (r : ρ) → answer r → σ → Prop) (mayCrash : ℕ → σ → Prop)
  (mayAct : σ → σ → Prop)

/-- The transition is one that the restriction admits. -/
def Meets (t : Transition (Config σ ω ρ answer) (Event ω ρ answer)) : Prop :=
  match t.event with
  | .start _ op => mayStart op
  | .performed i r x => ∀ proc, t.before.processes i = some proc →
      allowed i proc.operation t.before.state r x t.after.state
  | .crash i => mayCrash i t.before.state
  | .environment => mayAct t.before.state t.after.state

variable {mayStart allowed mayCrash mayAct}

theorem Step.restrict {c c' : Config σ ω ρ answer} {e : Event ω ρ answer} (h : Step sem c e c')
    (hmeets : Meets mayStart allowed mayCrash mayAct ⟨c, e, c'⟩) :
    Step (sem.restrict mayStart allowed mayCrash mayAct) c e c' := by
  cases h with
  | start fresh may =>
    refine .start fresh ?_
    exact ⟨may, hmeets⟩
  | performed here done =>
    refine .performed here ?_
    exact ⟨done, hmeets _ here⟩
  | crash here may => exact .crash here ⟨may, hmeets⟩
  | environment acts => exact .environment ⟨acts, hmeets⟩

theorem run_restrict {start c : Config σ ω ρ answer}
    {tr : List (Transition (Config σ ω ρ answer) (Event ω ρ answer))}
    (hrun : Run (Step sem) start tr c) (h : ∀ t ∈ tr, Meets mayStart allowed mayCrash mayAct t) :
    Run (Step (sem.restrict mayStart allowed mayCrash mayAct)) start tr c :=
  hrun.strengthen fun t ht hstep => hstep.restrict (h t ht)

theorem Step.meets {c c' : Config σ ω ρ answer} {e : Event ω ρ answer}
    (h : Step (sem.restrict mayStart allowed mayCrash mayAct) c e c') :
    Step sem c e c' ∧ Meets mayStart allowed mayCrash mayAct ⟨c, e, c'⟩ := by
  cases h with
  | start fresh may => exact ⟨.start fresh may.1, may.2⟩
  | performed here done =>
    refine ⟨.performed here done.1, fun proc hproc => ?_⟩
    obtain rfl := Option.some.inj (here.symm.trans hproc)
    exact done.2
  | crash here may => exact ⟨.crash here may.1, may.2⟩
  | environment acts => exact ⟨.environment acts.1, acts.2⟩

/-- A run of the restricted programs is a run whose transitions the restriction admits. -/
theorem run_of_restrict {start c : Config σ ω ρ answer}
    {tr : List (Transition (Config σ ω ρ answer) (Event ω ρ answer))}
    (hrun : Run (Step (sem.restrict mayStart allowed mayCrash mayAct)) start tr c) :
    Run (Step sem) start tr c ∧ ∀ t ∈ tr, Meets mayStart allowed mayCrash mayAct t :=
  ⟨hrun.strengthen fun _ _ hstep => hstep.meets.1, fun _ ht => (hrun.step_of_mem ht).meets.2⟩

end Restriction

/-- What a family of programs keeps to. Each of them holds something; `resting` tells what it may
still hold when it is over. -/
structure Protocol (σ η : Type) where
  inv : σ → (ℕ → η) → Prop
  grows : σ → σ → Prop
  idle : η
  resting : η → Prop

namespace Protocol

variable (P : Protocol σ η)

/-- Knowledge that outlasts every step. -/
def Stable (K : σ → Prop) : Prop := ∀ s s', P.grows s s' → K s → K s'

variable (sem : Semantics σ ω ρ answer) (i : ℕ) (op : ω)

/-- From a state it knows `K` about, and holding `h`, the program keeps to the protocol and ends
with `Q`. -/
def Follows : Program ρ answer α → (σ → Prop) → η → (α → σ → η → Prop) → Prop
  | .ret a, K, h, Q => ∀ s H, P.inv s H → K s → H i = h → Q a s h
  | .ask r next, K, h, Q => ∀ s H x s', P.inv s H → K s → H i = h → sem.perform i op s r x s' →
    P.grows s s' ∧ ∃ K' h', P.Stable K' ∧ K' s' ∧ P.inv s' (Function.update H i h') ∧
      Follows (next x) K' h' Q

end Protocol

section Rules

variable {P : Protocol σ η} {sem : Semantics σ ω ρ answer} {i : ℕ} {op : ω}

theorem Protocol.stable_true : P.Stable fun _ => True := fun _ _ _ _ => trivial

theorem Protocol.Stable.and {K K' : σ → Prop} (h : P.Stable K) (h' : P.Stable K') :
    P.Stable fun s => K s ∧ K' s := by
  intro s s' hgrows hboth
  exact ⟨h s s' hgrows hboth.1, h' s s' hgrows hboth.2⟩

namespace Protocol.Follows

/-- What is asked of the start may use what the protocol says there. -/
theorem weaken {p : Program ρ answer α} {K K' : σ → Prop} {h : η} {Q Q' : α → σ → η → Prop}
    (hp : P.Follows sem i op p K h Q) (hK : ∀ s H, P.inv s H → H i = h → K' s → K s)
    (hQ : ∀ a s h', Q a s h' → Q' a s h') : P.Follows sem i op p K' h Q' := by
  induction p generalizing K K' h with
  | ret a =>
    intro s H hinv hs hh
    exact hQ _ _ _ (hp s H hinv (hK s H hinv hh hs) hh)
  | ask r next ih =>
    intro s H x s' hinv hs hh hdone
    obtain ⟨hgrows, K₁, h₁, hstable, hs', hinv', hnext⟩ :=
      hp s H x s' hinv (hK s H hinv hh hs) hh hdone
    exact ⟨hgrows, K₁, h₁, hstable, hs', hinv', ih x hnext (fun _ _ _ _ hK₁ => hK₁)⟩

/-- Programs run one after the other. -/
theorem bind {p : Program ρ answer α} {f : α → Program ρ answer β} {K : σ → Prop} {h : η}
    {Q : α → σ → η → Prop} {Q' : β → σ → η → Prop} (hp : P.Follows sem i op p K h Q)
    (hf : ∀ a h', P.Follows sem i op (f a) (fun s => Q a s h') h' Q') :
    P.Follows sem i op (p.bind f) K h Q' := by
  induction p generalizing K h with
  | ret a => exact (hf a h).weaken (fun s H hinv hh hs => hp s H hinv hs hh) (fun _ _ _ hQ' => hQ')
  | ask r next ih =>
    intro s H x s' hinv hs hh hdone
    obtain ⟨hgrows, K₁, h₁, hstable, hs', hinv', hnext⟩ := hp s H x s' hinv hs hh hdone
    exact ⟨hgrows, K₁, h₁, hstable, hs', hinv', ih x hnext⟩

/-- Knowledge that outlasts every step is still there at the end. -/
theorem frame {p : Program ρ answer α} {K K₀ : σ → Prop} {h : η} {Q : α → σ → η → Prop}
    (hp : P.Follows sem i op p K h Q) (hstable₀ : P.Stable K₀) :
    P.Follows sem i op p (fun s => K s ∧ K₀ s) h (fun a s h' => Q a s h' ∧ K₀ s) := by
  induction p generalizing K h with
  | ret a =>
    intro s H hinv hs hh
    exact ⟨hp s H hinv hs.1 hh, hs.2⟩
  | ask r next ih =>
    intro s H x s' hinv hs hh hdone
    obtain ⟨hgrows, K₁, h₁, hstable, hs', hinv', hnext⟩ := hp s H x s' hinv hs.1 hh hdone
    exact ⟨hgrows, _, h₁, hstable.and hstable₀, ⟨hs', hstable₀ s s' hgrows hs.2⟩, hinv', ih x hnext⟩

/-- What a program may still hold when it is over does not matter before. -/
theorem alike {P' : Protocol σ η} {p : Program ρ answer α} {K : σ → Prop} {h : η}
    {Q : α → σ → η → Prop} (hp : P.Follows sem i op p K h Q) (hinv : P'.inv = P.inv)
    (hgrows : P'.grows = P.grows) : P'.Follows sem i op p K h Q := by
  induction p generalizing K h with
  | ret a =>
    intro s H hs
    rw [hinv] at hs
    exact hp s H hs
  | ask r next ih =>
    intro s H x s' hs hK hh hdone
    rw [hinv] at hs
    obtain ⟨hgrows', K₁, h₁, hstable, hs', hinv', hnext⟩ := hp s H x s' hs hK hh hdone
    rw [Protocol.Stable, ← hgrows] at hstable
    exact ⟨hgrows ▸ hgrows', K₁, h₁, hstable, hs', hinv ▸ hinv', ih x hnext⟩

/-- A fact that does not depend on the state is available from the start. -/
theorem assuming {p : Program ρ answer α} {φ : Prop} {K : σ → Prop} {h : η} {Q : α → σ → η → Prop}
    (hp : φ → P.Follows sem i op p K h Q) : P.Follows sem i op p (fun s => φ ∧ K s) h Q := by
  cases p with
  | ret a => exact fun s H hinv hs hh => hp hs.1 s H hinv hs.2 hh
  | ask r next => exact fun s H x s' hinv hs hh hdone => hp hs.1 s H x s' hinv hs.2 hh hdone

/-- Requests that leave the state alone leave everything alone. -/
theorem within {allowed : ρ → Prop} {p : Program ρ answer α} {K : σ → Prop} {h : η}
    (hp : p.Within allowed) (hallowed : ∀ s r x s', allowed r → sem.perform i op s r x s' → s' = s)
    (hrefl : ∀ s, P.grows s s) (hstable : P.Stable K) :
    P.Follows sem i op p K h (fun _ s h' => h' = h ∧ K s) := by
  induction p with
  | ret a => exact fun s H _ hs _ => ⟨rfl, hs⟩
  | ask r next ih =>
    intro s H x s' hinv hs hh hdone
    obtain rfl := hallowed s r x s' hp.1 hdone
    refine ⟨hrefl _, K, h, hstable, hs, ?_, ih x (hp.2 x)⟩
    rw [← hh, Function.update_eq_self]
    exact hinv

section Failing

variable {x : Fallible φ ρ answer α} {f : α → Fallible φ ρ answer β} {K : σ → Prop} {h : η}
  {Q : Except φ α → σ → η → Prop} {Q' : Except φ β → σ → η → Prop}

/-- Failing programs run one after the other: a failure of the first ends both. -/
theorem andThen (hx : P.Follows sem i op x.run K h Q)
    (hf : ∀ a h', P.Follows sem i op (f a).run (fun s => Q (.ok a) s h') h' Q')
    (herror : ∀ e s h', Q (.error e) s h' → Q' (.error e) s h') :
    P.Follows sem i op (x >>= f).run K h Q' := by
  refine Protocol.Follows.bind hx fun result h' => ?_
  cases result with
  | ok a => exact hf a h'
  | error e => exact fun s H _ hs _ => herror e s h' hs

theorem tryCatch {handler : φ → Fallible φ ρ answer α} {Q' : Except φ α → σ → η → Prop}
    (hx : P.Follows sem i op x.run K h Q)
    (hhandler : ∀ e h', P.Follows sem i op (handler e).run (fun s => Q (.error e) s h') h' Q')
    (hok : ∀ a s h', Q (.ok a) s h' → Q' (.ok a) s h') :
    P.Follows sem i op (tryCatchThe φ x handler).run K h Q' := by
  refine Protocol.Follows.bind hx fun result h' => ?_
  cases result with
  | ok a => exact fun s H _ hs _ => hok a s h' hs
  | error e => exact hhandler e h'

end Failing

end Protocol.Follows

end Rules

section Runs

variable {P : Protocol σ η} {sem : Semantics σ ω ρ answer}

/-- The obligations of a protocol: one for each kind of step. -/
structure Protocol.Obeyed (P : Protocol σ η) (sem : Semantics σ ω ρ answer) : Prop where
  programs : ∀ i op, sem.mayStart op →
    P.Follows sem i op (sem.program op) (fun _ => True) P.idle (fun _ _ h => P.resting h)
  crashes : ∀ s H i, P.inv s H → sem.mayCrash i s →
    ∃ h, P.resting h ∧ P.inv s (Function.update H i h)
  environment : ∀ s H s', P.inv s H → sem.environment s s' → P.grows s s' ∧ P.inv s' H
  refl : ∀ s, P.grows s s

/-- What the protocol has arranged for one process. -/
def Protocol.Arranged (P : Protocol σ η) (sem : Semantics σ ω ρ answer) (s : σ) (i : ℕ) (h : η) :
    Option (Process ω ρ answer) → Prop
  | none => h = P.idle
  | some ⟨op, .running p⟩ =>
    ∃ K, P.Stable K ∧ K s ∧ P.Follows sem i op p K h (fun _ _ h => P.resting h)
  | some ⟨_, .crashed⟩ => P.resting h

theorem Protocol.Arranged.later {s s' : σ} {i : ℕ} {h : η} {process : Option (Process ω ρ answer)}
    (harranged : P.Arranged sem s i h process) (hgrows : P.grows s s') :
    P.Arranged sem s' i h process := by
  rcases process with _ | ⟨op, p | _⟩
  · exact harranged
  · obtain ⟨K, hstable, hs, hfollows⟩ := harranged
    exact ⟨K, hstable, hstable s s' hgrows hs, hfollows⟩
  · exact harranged

structure Protocol.Kept (P : Protocol σ η) (sem : Semantics σ ω ρ answer) (c : Config σ ω ρ answer)
    (H : ℕ → η) : Prop where
  inv : P.inv c.state H
  arranged : ∀ i, P.Arranged sem c.state i (H i) (c.processes i)

/-- A step that concerns one process leaves the arrangements of the others. -/
theorem Protocol.Kept.update {c : Config σ ω ρ answer} {s : σ} {H : ℕ → η} {i : ℕ} {op : ω}
    {stage : Stage ρ answer} {h : η} (hkept : P.Kept sem c H) (hgrows : P.grows c.state s)
    (hinv : P.inv s (Function.update H i h)) (harranged : P.Arranged sem s i h (some ⟨op, stage⟩)) :
    P.Kept sem ({ c with state := s }.setStage i op stage) (Function.update H i h) where
  inv := hinv
  arranged j := by
    by_cases hj : j = i
    · subst hj
      simpa [Config.setStage] using harranged
    · simpa [Config.setStage, hj] using (hkept.arranged j).later hgrows

theorem Protocol.Kept.step {c c' : Config σ ω ρ answer} {e : Event ω ρ answer} {H : ℕ → η}
    (hobeyed : P.Obeyed sem) (hkept : P.Kept sem c H) (h : Step sem c e c') :
    P.grows c.state c'.state ∧ ∃ H', P.Kept sem c' H' := by
  cases h with
  | @start i op fresh allowed =>
    have hidle : H i = P.idle := by
      have := hkept.arranged i
      rwa [fresh] at this
    have hsame : Function.update H i (H i) = H := Function.update_eq_self i H
    refine ⟨hobeyed.refl _, Function.update H i (H i),
      hkept.update (hobeyed.refl _) (hsame.symm ▸ hkept.inv) ?_⟩
    exact ⟨_, P.stable_true, trivial, hidle ▸ hobeyed.programs i op allowed⟩
  | @performed i op r x next s here done =>
    have harranged := hkept.arranged i
    rw [here] at harranged
    obtain ⟨K, -, hs, hfollows⟩ := harranged
    obtain ⟨hgrows, K', h', hstable, hs', hinv, hnext⟩ := hfollows _ H x s hkept.inv hs rfl done
    exact ⟨hgrows, _, hkept.update hgrows hinv ⟨K', hstable, hs', hnext⟩⟩
  | @crash i op p here allowed =>
    obtain ⟨h', hresting, hinv⟩ := hobeyed.crashes _ H i hkept.inv allowed
    exact ⟨hobeyed.refl _, _, hkept.update (hobeyed.refl _) hinv hresting⟩
  | environment acts =>
    obtain ⟨hgrows, hinv⟩ := hobeyed.environment _ H _ hkept.inv acts
    exact ⟨hgrows, H, hinv, fun i => (hkept.arranged i).later hgrows⟩

variable {s₀ : σ} {tr : List (Transition (Config σ ω ρ answer) (Event ω ρ answer))}
  {c : Config σ ω ρ answer}

theorem Protocol.kept_of_run (hobeyed : P.Obeyed sem) (hstart : P.inv s₀ fun _ => P.idle)
    (hrun : Run (Step sem) (Config.initial s₀) tr c) : ∃ H, P.Kept sem c H :=
  hrun.invariant (I := fun c => ∃ H, P.Kept sem c H) ⟨_, hstart, fun _ => rfl⟩
    (fun _ _ _ ⟨_, hkept⟩ h => (hkept.step hobeyed h).2)

theorem Protocol.grows_of_mem (hobeyed : P.Obeyed sem) (hstart : P.inv s₀ fun _ => P.idle)
    (hrun : Run (Step sem) (Config.initial s₀) tr c) :
    ∀ t ∈ tr, P.grows t.before.state t.after.state := by
  intro t ht
  obtain ⟨tr', hrun'⟩ := hrun.reached_of_mem ht
  obtain ⟨H, hkept⟩ := P.kept_of_run hobeyed hstart hrun'
  exact (hkept.step hobeyed (hrun.step_of_mem ht)).1

/-- When nothing runs any more, every process is down to what it may rest with. -/
theorem Protocol.resting_of_quiescent {H : ℕ → η} (hidle : P.resting P.idle)
    (hkept : P.Kept sem c H) (hquiescent : c.Quiescent) (i : ℕ) : P.resting (H i) := by
  have harranged := hkept.arranged i
  cases hprocess : c.processes i with
  | none =>
    rw [hprocess] at harranged
    exact harranged.symm ▸ hidle
  | some proc =>
    obtain ⟨op, stage⟩ := proc
    rw [hprocess] at harranged
    rcases hquiescent i _ hprocess with rfl | rfl
    · obtain ⟨K, -, hs, hfollows⟩ := harranged
      exact hfollows _ H hkept.inv hs rfl
    · exact harranged

end Runs

section Schedules

variable {sem : Semantics σ ω ρ answer} {start : Config σ ω ρ answer}
  {tr : List (Transition (Config σ ω ρ answer) (Event ω ρ answer))} {c : Config σ ω ρ answer}

/-- A stretch in which one process runs on its own. -/
inductive Executes (sem : Semantics σ ω ρ answer) (i : ℕ) (op : ω) :
    σ → Program ρ answer α → σ → Program ρ answer α → Prop
  | refl (s : σ) (p : Program ρ answer α) : Executes sem i op s p s p
  | ask {s s' s'' : σ} {r : ρ} {x : answer r} {next : answer r → Program ρ answer α}
      {p : Program ρ answer α} (done : sem.perform i op s r x s')
      (rest : Executes sem i op s' (next x) s'' p) : Executes sem i op s (.ask r next) s'' p

variable {i : ℕ} {op : ω} {s s' s'' : σ}

theorem Executes.trans {p p' p'' : Program ρ answer α} (h : Executes sem i op s p s' p')
    (h' : Executes sem i op s' p' s'' p'') : Executes sem i op s p s'' p'' := by
  induction h with
  | refl s p => exact h'
  | ask done rest ih => exact .ask done (ih h')

theorem Executes.bind {p p' : Program ρ answer α} (f : α → Program ρ answer β)
    (h : Executes sem i op s p s' p') :
    Executes sem i op s (p.bind f) s' (p'.bind f) := by
  induction h with
  | refl s p => exact .refl s _
  | ask done rest ih => exact .ask done ih

/-- The program runs to its end on its own. -/
def Returns (sem : Semantics σ ω ρ answer) (i : ℕ) (op : ω) (s : σ) (p : Program ρ answer α)
    (s' : σ) (a : α) : Prop :=
  Executes sem i op s p s' (.ret a)

theorem Returns.bind {p : Program ρ answer α} {f : α → Program ρ answer β} {b : β} (s' : σ) (a : α)
    (h : Returns sem i op s p s' a) (h' : Returns sem i op s' (f a) s'' b) :
    Returns sem i op s (p.bind f) s'' b :=
  (Executes.bind f h).trans h'

theorem Returns.andThen {x : Fallible φ ρ answer α} {f : α → Fallible φ ρ answer β} {b : Except φ β}
    (s' : σ) (a : α) (h : Returns sem i op s x.run s' (.ok a))
    (h' : Returns sem i op s' (f a).run s'' b) :
    Returns sem i op s (x >>= f).run s'' b :=
  Returns.bind _ _ h h'

/-- A failure ends what follows. -/
theorem Returns.failed {x : Fallible φ ρ answer α} {f : α → Fallible φ ρ answer β} {e : φ}
    (h : Returns sem i op s x.run s' (.error e)) : Returns sem i op s (x >>= f).run s' (.error e) :=
  Returns.bind _ _ h (.refl s' _)

theorem Returns.caught {x : Fallible φ ρ answer α} {handler : φ → Fallible φ ρ answer α} {e : φ}
    {b : Except φ α} (s' : σ) (h : Returns sem i op s x.run s' (.error e))
    (h' : Returns sem i op s' (handler e).run s'' b) :
    Returns sem i op s (tryCatchThe φ x handler).run s'' b :=
  Returns.bind _ _ h h'

theorem Returns.untouched {x : Fallible φ ρ answer α} {handler : φ → Fallible φ ρ answer α} {a : α}
    (h : Returns sem i op s x.run s' (.ok a)) :
    Returns sem i op s (tryCatchThe φ x handler).run s' (.ok a) :=
  Returns.bind _ _ h (.refl s' _)

theorem run_of_executes {p p' : Program ρ answer Unit}
    (hrun : Run (Step sem) start tr (c.setStage i op (.running p)))
    (h : Executes sem i op c.state p s p') :
    ∃ tr', Run (Step sem) start tr' ({ c with state := s }.setStage i op (.running p')) := by
  obtain ⟨s₀, hs₀⟩ : ∃ s₀, s₀ = c.state := ⟨_, rfl⟩
  rw [← hs₀] at h
  induction h generalizing c tr with
  | refl s p =>
    subst hs₀
    exact ⟨tr, hrun⟩
  | @ask s s' s'' r x next p done rest ih =>
    subst hs₀
    have hstep : Step sem (c.setStage i op (.running (.ask r next))) (.performed i r x)
        ({ c.setStage i op (.running (.ask r next)) with state := s' }.setStage i op
          (.running (next x))) :=
      .performed (by simp [Config.setStage]) done
    have hsame :
        ({ c.setStage i op (.running (.ask r next)) with state := s' } :
          Config σ ω ρ answer).setStage i op
        (.running (next x)) = ({ c with state := s' } : Config σ ω ρ answer).setStage i op
          (.running (next x)) := by
      simp [Config.setStage]
    rw [hsame] at hstep
    exact ih (c := { c with state := s' }) (hrun.snoc hstep) rfl

/-- An operation is started and runs to its end. -/
theorem run_of_returns (hrun : Run (Step sem) start tr c) (hfresh : c.processes i = none)
    (hmay : sem.mayStart op) (h : Returns sem i op c.state (sem.program op) s ()) :
    ∃ tr', Run (Step sem) start tr' ({ c with state := s }.setStage i op (.running (.ret ()))) :=
  run_of_executes (hrun.snoc (Step.start hfresh hmay)) h

end Schedules

end InterleavedPrograms
