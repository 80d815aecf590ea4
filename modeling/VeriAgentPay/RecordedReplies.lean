import VeriAgentPay.GatedPrograms

/-!
# Calls whose replies are recorded

The last thing a call does is to reply to its caller. Here the store is kept together with the
replies that have gone out, so that what callers were told can be stated of a run. What a
discipline knows of the store when a call ends, it still knows of every reply that was recorded.
-/

namespace InterleavedPrograms
open LabelledRuns

/-- A request to the store, or the reply with which a call ends. -/
inductive Spoken (ρ β : Type) where
  | request (r : ρ)
  | reply (b : β)

variable {σ ω ρ φ α β : Type} {answer : ρ → Type}

abbrev Spoken.Answer (answer : ρ → Type) : Spoken ρ β → Type
  | .request r => answer r
  | .reply _ => Unit

/-- The program with its reply as its last request. -/
def Program.spoken : Program ρ answer β → Program (Spoken ρ β) (Spoken.Answer answer) Unit
  | ret b => ask (.reply b) fun _ => ret ()
  | ask r next => ask (.request r) fun x => (next x).spoken

/-- The requests and the replies of a call before its gate. -/
def Spoken.Before (before : ρ → Prop) (Q : β → Prop) : Spoken ρ β → Prop
  | .request r => before r
  | .reply b => Q b

/-- A gate that answers to requests open. -/
def Spoken.Opens (gate : (r : ρ) → answer r → Prop) :
    (r : Spoken ρ β) → Spoken.Answer answer r → Prop
  | .request r, x => gate r x
  | .reply _, _ => False

/-- What a call replies is behind a gate if the gate is in its program. -/
theorem Program.Gated.spoken {gate : (r : ρ) → answer r → Prop} {before : ρ → Prop} {Q : β → Prop}
    {p : Program ρ answer β} (hp : p.Gated (fun _ _ => True) gate before Q) :
    p.spoken.Gated (fun _ _ => True) (Spoken.Opens gate) (Spoken.Before before Q)
      fun _ => True := by
  induction p with
  | ret b => exact ⟨hp, fun _ _ => .inr trivial⟩
  | ask r next ih =>
    refine ⟨hp.1, fun x _ => ?_⟩
    rcases hp.2 x trivial with hopen | hnext
    · exact .inl hopen
    · exact .inr (ih x hnext)

/-- A store and the reply of each call that is over, with its operation. -/
structure Recorded (σ ω β : Type) where
  store : σ
  replies : ℕ → Option (ω × β)

def Recorded.opened (s : σ) : Recorded σ ω β := ⟨s, fun _ => none⟩

namespace StoreService

/-- The calls of a service on its store, with their replies recorded. -/
def recording (S : StoreService σ ω ρ answer) (call : ω → Program ρ answer β) :
    StoreService (Recorded σ ω β) ω (Spoken ρ β) (Spoken.Answer answer) where
  program op := (call op).spoken
  carry i op s
    | .request r => ((S.carry i op s.store r).1, { s with store := (S.carry i op s.store r).2 })
    | .reply b => ((), { s with replies := Function.update s.replies i (some (op, b)) })
  passes n s := { s with store := S.passes n s.store }

/-- Conditions on the store; a reply may always go out. -/
def Conditions.recording (C : Conditions σ ω ρ) : Conditions (Recorded σ ω β) ω (Spoken ρ β) where
  starts := C.starts
  allows i op s
    | .request r => C.allows i op s.store r
    | .reply _ => True
  passes s s' := C.passes s.store s'.store

variable {C : Conditions σ ω ρ}

instance [DecidablePred C.starts] : DecidablePred (C.recording (β := β)).starts :=
  inferInstanceAs (DecidablePred C.starts)

instance [∀ i op s r, Decidable (C.allows i op s r)] (i : ℕ) (op : ω) (s : Recorded σ ω β)
    (r : Spoken ρ β) :
    Decidable (C.recording.allows i op s r) :=
  match r with
  | .request r => inferInstanceAs (Decidable (C.allows i op s.store r))
  | .reply _ => inferInstanceAs (Decidable True)

instance [∀ s s', Decidable (C.passes s s')] (s s' : Recorded σ ω β) :
    Decidable (C.recording.passes s s') :=
  inferInstanceAs (Decidable (C.passes s.store s'.store))

end StoreService

section Gates

variable {S : StoreService σ ω ρ answer} {call : ω → Program ρ answer β} {start : Recorded σ ω β}
  {tr : Trace (Recorded σ ω β) ω (Spoken ρ β) (Spoken.Answer answer)}
  {c : Config (Recorded σ ω β) ω (Spoken ρ β) (Spoken.Answer answer)}
  {gate : ω → (r : ρ) → answer r → Prop} {before : ω → ρ → Prop} {Q : ω → β → Prop}
  {t : Transition (Config (Recorded σ ω β) ω (Spoken ρ β) (Spoken.Answer answer))
    (Event ω (Spoken ρ β) (Spoken.Answer answer))} {i : ℕ}

/-- What comes from behind the gate, a request or a reply, comes after an answer that opens it. -/
theorem StoreService.after_gate (hrun : (S.recording call).Runs start tr c)
    (hprograms : ∀ op, (call op).Gated (fun _ _ => True) (gate op) (before op) (Q op)) (ht : t ∈ tr)
    {r : Spoken ρ β} {x : Spoken.Answer answer r} (hevent : t.event = .performed i r x) {op : ω}
    {stage : Stage (Spoken ρ β) (Spoken.Answer answer)}
    (hproc : t.before.processes i = some ⟨op, stage⟩) (hbehind : ¬r.Before (before op) (Q op)) :
    ∃ tr₁ tr₂, tr = tr₁ ++ t :: tr₂ ∧ (S.recording call).Runs start tr₁ t.before ∧
      ∃ u ∈ tr₁, ∃ r y, u.event = .performed i (.request r) y ∧ gate op r y := by
  have hgated : ∀ op, (S.recording call).semantics.mayStart op →
      ((S.recording call).semantics.program op).Gated
      (fun _ _ => True) (Spoken.Opens (gate op)) (Spoken.Before (before op) (Q op)) fun _ => True :=
    fun op _ => (hprograms op).spoken
  obtain ⟨tr₁, tr₂, htr, hrun₁⟩ := hrun.split_of_mem ht
  refine ⟨tr₁, tr₂, htr, hrun₁, ?_⟩
  have hstep := hrun.step_of_mem ht
  obtain ⟨u, e, v⟩ := t
  dsimp only at hevent hproc hrun₁ hstep
  subst hevent
  cases hstep with
  | @performed _ op' _ _ next s here done =>
    obtain ⟨rfl, -⟩ := Process.mk.inj (Option.some.inj (here.symm.trans hproc))
    rcases gating_of_run hrun₁ (fun _ _ _ _ _ _ _ => trivial) hgated i op' _ here with ⟨u', hu, r',
      y, hopened, hopens⟩ | hbefore
    · cases r' with
      | request r' => exact ⟨u', hu, r', y, hopened, hopens⟩
      | reply b => exact absurd hopens id
    · exact absurd hbefore.1 hbehind

/-- A reply that is recorded was given by its call. -/
theorem StoreService.replied_of_run {s : σ} (hrun : (S.recording call).Runs (.opened s) tr c)
    {op : ω} {b : β} (hreply : c.state.replies i = some (op, b)) :
    ∃ t ∈ tr, t.event = .performed i (.reply b) () ∧
      ∃ stage, t.before.processes i = some ⟨op, stage⟩ := by
  induction hrun with
  | nil => cases hreply
  | @snoc tr u e v run last ih =>
    have hbefore : u.state.replies i = some (op, b) → ∃ t ∈ tr ++ [⟨u, e, v⟩],
        t.event = .performed i (.reply b) () ∧
          ∃ stage, t.before.processes i = some ⟨op, stage⟩ := fun hold => by
      obtain ⟨t, ht, hfacts⟩ := ih hold
      exact ⟨t, List.mem_append_left _ ht, hfacts⟩
    cases last with
    | start | crash => exact hbefore hreply
    | environment acts =>
      obtain ⟨n, rfl⟩ := acts
      exact hbefore hreply
    | @performed j op' r x next s' here done =>
      obtain rfl : ((S.recording call).carry j op' u.state r).2 = s' := congrArg Prod.snd done
      cases r with
      | request r => exact hbefore hreply
      | reply b' =>
        have hupdated : Function.update u.state.replies j (some (op', b')) i = some (op, b) :=
          hreply
        by_cases hij : i = j
        · subst hij
          rw [Function.update_self] at hupdated
          obtain ⟨rfl, rfl⟩ := Prod.mk.inj (Option.some.inj hupdated)
          exact ⟨_, List.mem_append_right _ List.mem_cons_self, rfl, _, here⟩
        · rw [Function.update_of_ne hij] at hupdated
          exact hbefore hupdated

/-- A call was started, when something held of the store, and has given a reply, when something
held of it. -/
structure Replied (tr : Trace (Recorded σ ω β) ω (Spoken ρ β) (Spoken.Answer answer)) (i : ℕ)
    (op : ω) (b : β) (K L : σ → Prop) : Prop where
  started : ∃ s ∈ tr, s.event = .start i op ∧ K s.before.state.store
  replied : ∃ t ∈ tr, t.event = .performed i (.reply b) () ∧ L t.before.state.store

variable {op : ω} {b : β} {K L : σ → Prop}

theorem Replied.weaken {K' L' : σ → Prop} (h : Replied tr i op b K L) (hK : ∀ s, K s → K' s)
    (hL : ∀ s, L s → L' s) : Replied tr i op b K' L' := by
  obtain ⟨⟨s, hs, hstart, hbegun⟩, t, ht, hreply, hended⟩ := h
  exact ⟨⟨s, hs, hstart, hK _ hbegun⟩, t, ht, hreply, hL _ hended⟩

/-- The step of a process finds it there. -/
theorem process_of_performed {sem : Semantics σ ω ρ answer} {c c' : Config σ ω ρ answer} {r : ρ}
    {x : answer r} (h : Step sem c (.performed i r x) c') : ∃ op stage,
      c.processes i = some ⟨op, stage⟩ := by
  cases h with
  | performed here => exact ⟨_, _, here⟩

/-- A step of a run that meets the conditions was allowed. -/
theorem met_of_performed {C : StoreService.Conditions σ ω ρ} {s : StoreService σ ω ρ answer}
    {start : σ} {tr : Trace σ ω ρ answer} {c : Config σ ω ρ answer} (hrun : s.Runs start tr c)
    {t : Transition (Config σ ω ρ answer) (Event ω ρ answer)} (ht : t ∈ tr)
    (hmeets : StoreService.Meets C t) {r : ρ} {x : answer r} (hevent : t.event = .performed i r x) :
    ∃ op, C.allows i op t.before.state r := by
  have hstep := hrun.step_of_mem ht
  obtain ⟨u, e, v⟩ := t
  dsimp only at hevent hstep
  subst hevent
  obtain ⟨op, stage, hproc⟩ := process_of_performed hstep
  exact ⟨op, hmeets _ hproc⟩

/-- The process of a call is there from its start on. -/
theorem process_of_started {sem : Semantics σ ω ρ answer} {start c : Config σ ω ρ answer}
    {tr : Trace σ ω ρ answer} (hrun : Run (Step sem) start tr c)
    {s : Transition (Config σ ω ρ answer) (Event ω ρ answer)} (hs : s ∈ tr)
    (hstart : s.event = .start i op) : ∃ stage, c.processes i = some ⟨op, stage⟩ := by
  have hbegun : ∃ stage, s.after.processes i = some ⟨op, stage⟩ := by
    have hstep := hrun.step_of_mem hs
    rw [hstart] at hstep
    generalize s.before = u, s.after = v at hstep ⊢
    cases hstep with
    | start => exact ⟨.running (sem.program op), by simp [Config.setStage]⟩
  refine hrun.kept_since (K := fun d => ∃ stage, d.processes i = some ⟨op, stage⟩) ?_ hs hbegun
  rintro t ht ⟨stage, hstage⟩
  exact (hrun.step_of_mem ht).operation hstage

/-- A call that was started and whose reply is recorded. -/
theorem Replied.of_started {s : σ} (hrun : (S.recording call).Runs (.opened s) tr c) (ht : t ∈ tr)
    (hstart : t.event = .start i op) (hK : K t.before.state.store)
    (hreply : (c.state.replies i).map Prod.snd = some b)
    (hback : ∀ t ∈ tr, L t.after.state.store → L t.before.state.store) (hL : L c.state.store) :
    Replied tr i op b K L := by
  obtain ⟨⟨op', b'⟩, hrecorded, rfl⟩ := Option.map_eq_some_iff.mp hreply
  obtain ⟨u, hu, hevent, -⟩ := StoreService.replied_of_run hrun hrecorded
  refine ⟨⟨t, ht, hstart, hK⟩, u, hu, hevent, ?_⟩
  by_contra hnot
  refine hrun.kept_since (K := fun d => ¬L d.state.store) ?_ hu ?_ hL
  · exact fun v hv hbefore hafter => hbefore (hback v hv hafter)
  · exact fun hafter => hnot (hback u hu hafter)

/-- A call that has replied from behind its gate has opened it before. -/
theorem StoreService.opened_of_reply {gate : (r : ρ) → answer r → Prop} {Q : β → Prop}
    (hrun : (S.recording call).Runs start tr c) (ht : t ∈ tr)
    (hevent : t.event = .performed i (.reply b) ())
    {stage : Stage (Spoken ρ β) (Spoken.Answer answer)}
    (hproc : t.before.processes i = some ⟨op, stage⟩)
    (hgated : (call op).Gated (fun _ _ => True) gate (fun _ => True) Q) (hbehind : ¬Q b) :
    ∃ tr₁ u tr₂ tr₃, tr = tr₁ ++ u :: (tr₂ ++ t :: tr₃) ∧
      (S.recording call).Runs start tr₁ u.before ∧
      (S.recording call).Runs start (tr₁ ++ u :: tr₂) t.before ∧
      ∃ r y, u.event = .performed i (.request r) y ∧ gate r y := by
  have hprograms : ∀ op', (call op').Gated (fun _ _ => True) gate (fun _ => True)
      fun b => op' = op → Q b := by
    intro op'
    by_cases hop : op' = op
    · subst hop
      exact hgated.mono (fun _ h => h) fun _ h _ => h
    · exact Program.gated_any (fun _ => trivial) (fun _ heq => absurd heq hop) _
  obtain ⟨tr₀, tr₃, rfl, hrun₀, u, hu, r, y, hopens, hgate⟩ :=
    StoreService.after_gate hrun hprograms ht hevent hproc fun h => hbehind (h rfl)
  obtain ⟨tr₁, tr₂, rfl, hrun₁⟩ := hrun₀.split_of_mem hu
  exact ⟨tr₁, u, tr₂, tr₃, by simp, hrun₁, hrun₀, r, y, hopens, hgate⟩

/-- What held of the store when such a call was started, and is kept by every step, held when it
opened its gate, and so did what held at its reply and no step brings about. -/
theorem Replied.opened {gate : (r : ρ) → answer r → Prop} {Q : β → Prop}
    (h : Replied tr i op b K L) (hrun : (S.recording call).Runs start tr c)
    (hgated : (call op).Gated (fun _ _ => True) gate (fun _ => True) Q) (hbehind : ¬Q b)
    (hkeep : ∀ t ∈ tr, K t.before.state.store → K t.after.state.store)
    (hback : ∀ t ∈ tr, L t.after.state.store → L t.before.state.store) :
    ∃ u ∈ tr, K u.before.state.store ∧ L u.before.state.store ∧
      ∃ r y, u.event = .performed i (.request r) y ∧ gate r y := by
  obtain ⟨⟨begun, hbegun, hstart, hK⟩, t, ht, hevent, hL⟩ := h
  have hproc : ∃ stage, t.before.processes i = some ⟨op, stage⟩ := by
    have hstep := hrun.step_of_mem ht
    rw [hevent] at hstep
    obtain ⟨op', stage', hproc'⟩ := process_of_performed hstep
    obtain ⟨tr₁, tr₂, rfl, hrun₁⟩ := hrun.split_of_mem ht
    exact process_of_started hrun₁ (started_before hrun hbegun hstart hproc') hstart
  obtain ⟨stage, hproc⟩ := hproc
  obtain ⟨tr₁, u, tr₂, tr₃, rfl, hrun₁, hrun₂, r, y, hopens, hgate⟩ :=
    StoreService.opened_of_reply hrun ht hevent hproc hgated hbehind
  have hu : u ∈ tr₁ ++ u :: (tr₂ ++ t :: tr₃) := List.mem_append_right _ List.mem_cons_self
  refine ⟨u, hu, ?_, ?_, r, y, hopens, hgate⟩
  · have hstep := hrun.step_of_mem hu
    rw [hopens] at hstep
    obtain ⟨op', stage', hproc'⟩ := process_of_performed hstep
    have hbefore : begun ∈ tr₁ := started_before hrun hbegun hstart hproc'
    refine hrun₁.kept_since (K := fun d => K d.state.store) (fun v hv => hkeep v ?_) hbefore ?_
    · exact List.mem_append_left _ hv
    · exact hkeep begun hbegun hK
  · by_contra hnot
    have hmem : ∀ v ∈ tr₁ ++ u :: tr₂, v ∈ tr₁ ++ u :: (tr₂ ++ t :: tr₃) := by
      intro v hv
      rw [← List.cons_append, ← List.append_assoc]
      exact List.mem_append_left _ hv
    have hu₂ : u ∈ tr₁ ++ u :: tr₂ := List.mem_append_right _ List.mem_cons_self
    refine hrun₂.kept_since (K := fun d => ¬L d.state.store) ?_ hu₂ ?_ hL
    · exact fun v hv hbefore hafter => hbefore (hback v (hmem v hv) hafter)
    · exact fun hafter => hnot (hback u hu hafter)

end Gates

namespace Discipline

variable (D : Discipline σ ω ρ answer) (call : ω → Program ρ answer β) (Q : ℕ → ω → β → σ → Prop)

/-- The discipline on stores with replies: of every reply it is known what its call ended with. -/
def recording : Discipline (Recorded σ ω β) ω (Spoken ρ β) (Spoken.Answer answer) where
  service := D.service.recording call
  conditions := D.conditions.recording
  inv s := D.inv s.store ∧ ∀ i op b, s.replies i = some (op, b) → Q i op b s.store
  grows s s' := D.grows s.store s'.store

variable {D call Q}

/-- Whatever a program follows on the store, it follows with its reply at the end. -/
theorem follows_spoken (hstable : ∀ i op b, D.Stable (Q i op b)) (hrefl : ∀ s, D.grows s s)
    {i : ℕ} {op : ω} {p : Program ρ answer β} {K : σ → Prop}
    (hp : D.protocol.Follows (D.service.within D.conditions) i op p K () fun b s _ => Q i op b s) :
    (D.recording call Q).protocol.Follows
      ((D.recording call Q).service.within (D.recording call Q).conditions) i op
      p.spoken (fun s => K s.store) () fun _ _ _ => True := by
  induction p generalizing K with
  | ret b =>
    rintro s H x s' ⟨hinv, hreplies⟩ hs - ⟨hcarry, -⟩
    have hs' : s' = { s with replies := Function.update s.replies i (some (op, b)) } :=
      (congrArg Prod.snd hcarry).symm
    subst hs'
    have hQ : Q i op b s.store := hp s.store (fun _ => ()) hinv hs rfl
    refine ⟨hrefl _,
      fun _ => True, (), fun _ _ _ _ => trivial, trivial, ⟨hinv, ?_⟩, fun _ _ _ _ _ => trivial⟩
    intro j op' b' hj
    by_cases hsame : j = i
    · subst hsame
      simp only [Function.update_self, Option.some.injEq, Prod.mk.injEq] at hj
      exact hj.1 ▸ hj.2 ▸ hQ
    · simp only [Function.update_of_ne hsame] at hj
      exact hreplies j op' b' hj
  | ask r next ih =>
    rintro s H x s' ⟨hinv, hreplies⟩ hs - ⟨hcarry, hallows⟩
    have hx : (D.service.carry i op s.store r).1 = x := congrArg Prod.fst hcarry
    have hs' : s' = { s with store := (D.service.carry i op s.store r).2 } :=
      (congrArg Prod.snd hcarry).symm
    subst hs'
    have hdone : (D.service.within D.conditions).perform i op s.store r x
        (D.service.carry i op s.store r).2 :=
      ⟨hx ▸ rfl, hallows⟩
    obtain ⟨hgrows, K', ⟨⟩, hstable', hK', hinv', hnext⟩ :=
      hp s.store (fun _ => ()) x _ hinv hs rfl hdone
    refine ⟨hgrows, fun s => K' s.store, (), fun u v huv => hstable' u.store v.store huv, hK',
      ⟨hinv', ?_⟩, ih x hnext⟩
    intro j op' b hj
    exact hstable j op' b _ _ hgrows (hreplies j op' b hj)

/-- In every run whose steps meet the conditions the store keeps to the discipline, and what every
reply stands for holds. -/
theorem recording_run (call : ω → Program ρ answer β) (hstable : ∀ i op b, D.Stable (Q i op b))
    (hrefl : ∀ s, D.grows s s) (hprograms : ∀ i op, D.conditions.starts op →
      D.protocol.Follows (D.service.within D.conditions) i op (call op) (fun _ => True)
      () fun b s _ => Q i op b s)
    (hpasses : ∀ n s, D.inv s → D.conditions.passes s (D.service.passes n s) →
      D.grows s (D.service.passes n s) ∧ D.inv (D.service.passes n s))
    {start : σ} {tr : Trace (Recorded σ ω β) ω (Spoken ρ β) (Spoken.Answer answer)}
    {c : Config (Recorded σ ω β) ω (Spoken ρ β) (Spoken.Answer answer)}
    (hrun : (D.service.recording call).Runs (.opened start) tr c)
    (hmeets : ∀ t ∈ tr, StoreService.Meets D.conditions.recording t) (hstart : D.inv start) :
    (D.inv c.state.store ∧ ∀ i op b, c.state.replies i = some (op, b) → Q i op b c.state.store) ∧
      ∀ t ∈ tr, (D.inv t.before.state.store ∧
        ∀ i op b, t.before.state.replies i = some (op, b) → Q i op b t.before.state.store) ∧
          D.grows t.before.state.store t.after.state.store := by
  have hkept : (D.recording call Q).Kept := by
    refine ⟨fun s => hrefl s.store, ?_, ?_⟩
    · intro i op hstarts
      exact follows_spoken hstable hrefl (hprograms i op hstarts)
    · rintro n s ⟨hinv, hreplies⟩ hpass
      obtain ⟨hgrows, hinv'⟩ := hpasses n s.store hinv hpass
      exact ⟨hgrows, hinv', fun i op b hb => hstable i op b _ _ hgrows (hreplies i op b hb)⟩
  have hopened : (D.recording call Q).inv (.opened start) := by
    refine ⟨hstart, ?_⟩
    rintro i op b ⟨⟩
  obtain ⟨hfinish, hsteps⟩ := hkept.run hrun hmeets hopened
  exact ⟨hfinish, fun t ht => ⟨(hsteps t ht).1, (hsteps t ht).2⟩⟩

/-- What is known of the result of a call that may fail. -/
theorem Upholds.follows {i : ℕ} {op : ω} {x : Fallible φ ρ answer α} {R : α → σ → Prop}
    {E : σ → Prop} (h : D.Upholds i op x (fun _ => True) R E) :
    D.protocol.Follows (D.service.within D.conditions) i op x.run (fun _ => True) ()
      fun result s _ =>
      (∀ a, result = .ok a → R a s) ∧ ∀ e, result = .error e → E s := by
  delta Upholds at h
  refine Protocol.Follows.weaken h (fun _ _ _ _ hs => hs) ?_
  intro result s _ hs
  cases result with
  | ok a =>
    refine ⟨?_, fun e he => (nomatch he)⟩
    rintro _ ⟨⟩
    exact hs
  | error e =>
    refine ⟨fun a ha => (nomatch ha), ?_⟩
    rintro _ ⟨⟩
    exact hs

end Discipline

end InterleavedPrograms
