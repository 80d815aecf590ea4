import VeriAgentPay.ScheduledPrograms

/-!
# Programs that hold something

The calls of a service keep to an invariant of the store and of what each of them holds: a row that
it has claimed, say. What a call holds changes with its own requests only, so it need not be guarded
against the others.
-/

namespace InterleavedPrograms

variable {σ ω ρ α β η φ : Type} {answer : ρ → Type}

structure Custody (σ ω ρ : Type) (answer : ρ → Type) (η : Type) where
  service : StoreService σ ω ρ answer
  conditions : StoreService.Conditions σ ω ρ
  inv : σ → (ℕ → η) → Prop
  grows : σ → σ → Prop
  idle : η

section Holders

variable {κ : Type} {H : ℕ → η} {i : ℕ} {held : η}

/-- A call has moved; the others hold what they did. -/
theorem update_cases {P : ℕ → η → Prop} (hi : P i held) (hothers : ∀ j, j ≠ i → P j (H j)) :
    ∀ j, P j (Function.update H i held j) := by
  intro j
  by_cases hji : j = i
  · subst hji
    rw [Function.update_self]
    exact hi
  · rw [Function.update_of_ne hji]
    exact hothers j hji

/-- A call that holds nothing, or what no other does, leaves every key with one holder at most. -/
theorem alone_update {key : η → Option κ}
    (halone : ∀ i j k, key (H i) = some k → key (H j) = some k → i = j)
    (hfree : ∀ k, key held = some k → ∀ j, j ≠ i → key (H j) ≠ some k) :
    ∀ i' j k, key (Function.update H i held i') = some k →
      key (Function.update H i held j) = some k → i' = j := by
  intro i' j k hi' hj
  by_cases hi'i : i' = i
  · subst hi'i
    rw [Function.update_self] at hi'
    by_contra hne
    have hji' : j ≠ i' := fun h => hne h.symm
    rw [Function.update_of_ne hji'] at hj
    exact hfree k hi' j hji' hj
  · rw [Function.update_of_ne hi'i] at hi'
    by_cases hji : j = i
    · subst hji
      rw [Function.update_self] at hj
      exact absurd hi' (hfree k hj i' hi'i)
    · rw [Function.update_of_ne hji] at hj
      exact halone i' j k hi' hj

end Holders

namespace Custody

variable (D : Custody σ ω ρ answer η)

def protocol : Protocol σ η where
  inv := D.inv
  grows := D.grows
  idle := D.idle
  resting _ := True

/-- Knowledge that outlasts every step. -/
def Stable (K : σ → Prop) : Prop := D.protocol.Stable K

/-- From states where `K` is known, and holding `h`, the call keeps to the invariant, whatever runs
besides it; a result leaves `Q` and an error `E`, of the store and of what is held then. -/
def Upholds (i : ℕ) (op : ω) (x : Fallible φ ρ answer α) (K : σ → Prop) (h : η)
    (Q : α → σ → η → Prop) (E : σ → η → Prop) : Prop :=
  D.protocol.Follows (D.service.within D.conditions) i op x.run K h fun result s h' =>
    match result with
    | .ok a => Q a s h'
    | .error _ => E s h'

/-- The call holds the same at its end. -/
abbrev Keeps (i : ℕ) (op : ω) (x : Fallible φ ρ answer α) (K : σ → Prop) (h : η) (R : α → σ → Prop)
    (E : σ → Prop) : Prop :=
  D.Upholds i op x K h (fun a s h' => h' = h ∧ R a s) fun s h' => h' = h ∧ E s

variable {D} {i : ℕ} {op : ω} {x : Fallible φ ρ answer α} {K K' : σ → Prop} {h : η} {Q Q' : α → σ →
  η → Prop} {E E' : σ → η → Prop}
  {R : α → σ → Prop} {F : σ → Prop}

theorem stable_const (p : Prop) : D.Stable fun _ => p := fun _ _ _ h => h

theorem Stable.and (hK : D.Stable K) (hK' : D.Stable K') : D.Stable fun s => K s ∧ K' s :=
  Protocol.Stable.and hK hK'

theorem Upholds.weaken (hx : D.Upholds i op x K h Q E) (hK : ∀ s, K' s → K s)
    (hQ : ∀ a s h', Q a s h' → Q' a s h') (hE : ∀ s h', E s h' → E' s h') :
    D.Upholds i op x K' h Q' E' := by
  refine Protocol.Follows.weaken hx (fun s _ _ _ hs => hK s hs) ?_
  intro result s h' hs
  cases result with
  | ok a => exact hQ a s h' hs
  | error e => exact hE s h' hs

/-- More is known at the start. -/
theorem Upholds.knowing (hx : D.Upholds i op x K h Q E) (hK : ∀ s, K' s → K s) :
    D.Upholds i op x K' h Q E :=
  hx.weaken hK (fun _ _ _ hs => hs) fun _ _ hs => hs

theorem Upholds.pure {a : α} (hQ : ∀ s, K s → Q a s h) :
    D.Upholds i op (pure a : Fallible φ ρ answer α) K h Q E :=
  fun s _ _ hs _ => hQ s hs

theorem Upholds.checked {r : Except φ α} (hok : ∀ a s, r = .ok a → K s → Q a s h)
    (herror : ∀ e s, r = .error e → K s → E s h) :
    D.Upholds i op (Fallible.checked r) K h Q E := by
  intro s _ _ hs _
  cases r with
  | ok a => exact hok a s rfl hs
  | error e => exact herror e s rfl hs

theorem Upholds.bind {S : α → σ → η → Prop} {Q : β → σ → η → Prop} {f : α → Fallible φ ρ answer β}
    (hx : D.Upholds i op x K h S E) (hf : ∀ a h', D.Upholds i op (f a) (fun s => S a s h') h' Q E) :
    D.Upholds i op (x >>= f) K h Q E := by
  refine Protocol.Follows.andThen hx hf ?_
  exact fun _ _ _ hs => hs

/-- A fact that does not depend on the store may be used from the start. -/
theorem Upholds.assuming {p : Prop} (hx : p → D.Upholds i op x K h Q E) :
    D.Upholds i op x (fun s => p ∧ K s) h Q E :=
  Protocol.Follows.assuming hx

theorem Upholds.given {p : Prop} (hp : ∀ s, K s → p) (hx : p → D.Upholds i op x K h Q E) :
    D.Upholds i op x K h Q E := by
  refine (Upholds.assuming hx).knowing ?_
  exact fun s hs => ⟨hp s hs, hs⟩

/-- What is known for good is still known at the end. -/
theorem Upholds.frame (hx : D.Upholds i op x K h Q E) (hK' : D.Stable K') :
    D.Upholds i op x (fun s => K s ∧ K' s) h (fun a s h' => Q a s h' ∧ K' s) fun s h' => E s h' ∧
      K' s := by
  refine Protocol.Follows.weaken (Protocol.Follows.frame hx hK') (fun _ _ _ _ hs => hs) ?_
  intro result s h' hs
  cases result with
  | ok a => exact hs
  | error e => exact hs

theorem Upholds.tryCatch {handler : φ → Fallible φ ρ answer α} (hx : D.Upholds i op x K h Q E)
    (hh : ∀ e h', D.Upholds i op (handler e) (fun s => E s h') h' Q E') :
    D.Upholds i op (tryCatchThe φ x handler) K h Q E' :=
  Protocol.Follows.tryCatch hx hh fun _ _ _ hs => hs

theorem Upholds.onFailure {handler : Fallible φ ρ answer Unit} (hx : D.Upholds i op x K h Q E)
    (hh : ∀ h', D.Upholds i op handler (fun s => E s h') h' (fun _ => E') E') :
    D.Upholds i op (Fallible.onFailure x handler) K h Q E' := by
  refine hx.tryCatch fun e h' => ?_
  refine Upholds.bind (hh h') fun _ h'' => ?_
  exact Upholds.checked (fun _ _ h => nomatch h) fun _ _ _ hs => hs

theorem Upholds.ignoringFailure {x : Fallible φ ρ answer Unit}
    (hx : D.Upholds i op x K h (fun _ s h' => E s h') E) :
    D.Upholds i op (Fallible.ignoringFailure x) K h (fun _ s h' => E s h') E' :=
  hx.tryCatch fun _ _ => Upholds.pure fun _ hs => hs

/-- A call that holds the same so far goes on. -/
theorem Keeps.andThen {Q : β → σ → η → Prop} {f : α → Fallible φ ρ answer β}
    (hx : D.Keeps i op x K h R F) (hf : ∀ a, D.Upholds i op (f a) (R a) h Q E)
    (hE : ∀ s, F s → E s h) : D.Upholds i op (x >>= f) K h Q E := by
  refine Upholds.bind (hx.weaken (fun _ hs => hs) (fun _ _ _ hs => hs) ?_) fun a h' => ?_
  · rintro s h' ⟨rfl, hs⟩
    exact hE s hs
  · refine Upholds.assuming fun hh => ?_
    subst hh
    exact hf a

/-- A request: what is known of its answer afterwards has to outlast the steps of others. -/
theorem Upholds.ask {r : ρ} {S : answer r → σ → Prop} (held : answer r → η)
    (hstable : ∀ x, D.Stable (S x))
    (hstep : ∀ s H, D.inv s H → K s → H i = h → D.conditions.allows i op s r →
      D.grows s (D.service.carry i op s r).2 ∧
        D.inv (D.service.carry i op s r).2
        (Function.update H i (held (D.service.carry i op s r).1)) ∧
        S (D.service.carry i op s r).1 (D.service.carry i op s r).2) :
    D.Upholds i op (Fallible.ask r : Fallible φ ρ answer (answer r)) K h
      (fun x s h' => h' = held x ∧ S x s) E := by
  intro s H x s' hinv hs hh hdone
  obtain ⟨hcarry, hallows⟩ := hdone
  have hcarry' : D.service.carry i op s r = (x, s') := hcarry
  have hafter := hstep s H hinv hs hh hallows
  rw [hcarry'] at hafter
  exact ⟨hafter.1, S x, held x, hstable x, hafter.2.2, hafter.2.1,
    fun s'' _ _ hs'' _ => ⟨rfl, hs''⟩⟩

/-- A request that changes what the call holds, whatever the answer is. -/
theorem Upholds.handOver {r : ρ} (h' : η)
    (hstep : ∀ s H, D.inv s H → K s → H i = h → D.conditions.allows i op s r →
      D.grows s (D.service.carry i op s r).2 ∧ D.inv (D.service.carry i op s r).2
      (Function.update H i h')) :
    D.Upholds i op (Fallible.ask r : Fallible φ ρ answer (answer r)) K h
      (fun _ _ h'' => h'' = h') E := by
  refine (Upholds.ask (S := fun _ _ => True) (fun _ => h') (fun _ => stable_const True) ?_).weaken
    (fun _ hs => hs)
    (fun _ _ _ hs => hs.1) fun _ _ hs => hs
  intro s H hinv hs hh hallows
  have hafter := hstep s H hinv hs hh hallows
  exact ⟨hafter.1, hafter.2, trivial⟩

/-- A request with which the call holds the same. -/
theorem Keeps.ask {r : ρ} {S : answer r → σ → Prop} (hstable : ∀ x, D.Stable (S x))
    (hstep : ∀ s H, D.inv s H → K s → H i = h → D.conditions.allows i op s r →
      D.grows s (D.service.carry i op s r).2 ∧ D.inv (D.service.carry i op s r).2 H ∧
        S (D.service.carry i op s r).1 (D.service.carry i op s r).2) :
    D.Keeps i op (Fallible.ask r : Fallible φ ρ answer (answer r)) K h S F := by
  refine (Upholds.ask (E := fun s h' => h' = h ∧ F s) (fun _ => h) hstable ?_)
  intro s H hinv hs hh hallows
  have hafter := hstep s H hinv hs hh hallows
  have hsame : Function.update H i h = H := by
    rw [← hh]
    exact Function.update_eq_self i H
  exact ⟨hafter.1, hsame.symm ▸ hafter.2.1, hafter.2.2⟩

/-- A request that leaves the store alone. -/
theorem Keeps.read {r : ρ} {S : answer r → σ → Prop} (hrefl : ∀ s, D.grows s s)
    (hsame : ∀ s, (D.service.carry i op s r).2 = s) (hstable : ∀ x, D.Stable (S x))
    (hread : ∀ s H, D.inv s H → K s → S (D.service.carry i op s r).1 s) :
    D.Keeps i op (Fallible.ask r : Fallible φ ρ answer (answer r)) K h S F := by
  refine Keeps.ask hstable fun s H hinv hs _ _ => ?_
  rw [hsame s]
  exact ⟨hrefl s, hinv, hread s H hinv hs⟩

/-- A request that leaves the store alone and whose answer does not matter. -/
theorem Keeps.look {r : ρ} (hrefl : ∀ s, D.grows s s)
    (hsame : ∀ s, (D.service.carry i op s r).2 = s) (hK : D.Stable K) :
    D.Keeps i op (Fallible.ask r : Fallible φ ρ answer (answer r)) K h (fun _ => K) F :=
  Keeps.read hrefl hsame (fun _ => hK) fun _ _ _ hs => hs

theorem Keeps.check {c : Prop} [Decidable c] {e : φ} (hF : ¬c → ∀ s, K s → F s) :
    D.Keeps i op (Fallible.check c e : Fallible φ ρ answer Unit) K h (fun _ s => c ∧ K s) F := by
  unfold Fallible.check
  apply Upholds.checked
  · intro _ s hr hs
    by_cases hc : c
    · exact ⟨rfl, hc, hs⟩
    · rw [if_neg hc] at hr
      cases hr
  · intro _ s hr hs
    by_cases hc : c
    · rw [if_pos hc] at hr
      cases hr
    · exact ⟨rfl, hF hc s hs⟩

theorem Upholds.checkThen {c : Prop} [Decidable c] {e : φ} {x : Fallible φ ρ answer α}
    (hE : ¬c → ∀ s, K s → E s h) (hx : c → D.Upholds i op x K h Q E) :
    D.Upholds i op (Fallible.check c e >>= fun _ => x) K h Q E := by
  refine Keeps.andThen (F := fun s => E s h) (Keeps.check hE) ?_ fun _ hs => hs
  intro _
  exact Upholds.assuming hx

theorem Upholds.checkedThen {r : Except φ α} {Q : β → σ → η → Prop} {f : α → Fallible φ ρ answer β}
    (hE : ∀ e, r = .error e → ∀ s, K s → E s h)
    (hf : ∀ a, r = .ok a → D.Upholds i op (f a) K h Q E) :
    D.Upholds i op (Fallible.checked r >>= f) K h Q E := by
  refine Keeps.andThen (R := fun a s => r = .ok a ∧ K s) (F := fun s => E s h)
    (Upholds.checked (fun a s hr hs => ⟨rfl, hr, hs⟩) fun e s hr hs => ⟨rfl, hE e hr s hs⟩) ?_
      fun _ hs => hs
  intro a
  exact Upholds.assuming (hf a)

/-- A request that leaves the store alone, and what follows it. -/
theorem Upholds.lookThen {r : ρ} {Q : β → σ → η → Prop} {f : answer r → Fallible φ ρ answer β}
    (hrefl : ∀ s, D.grows s s) (hsame : ∀ s, (D.service.carry i op s r).2 = s) (hK : D.Stable K)
    (hf : ∀ x, D.Upholds i op (f x) K h Q E) :
    D.Upholds i op (Fallible.ask r >>= f) K h Q E := by
  refine Keeps.andThen (F := fun _ => False) (Keeps.look hrefl hsame hK) hf ?_
  exact fun _ hnever => hnever.elim

/-- A loop, round by round. -/
theorem Keeps.forEach {f : β → Fallible φ ρ answer Unit} {bs : List β}
    (hf : ∀ b ∈ bs, D.Keeps i op (f b) K h (fun _ => K) F) :
    D.Keeps i op (Fallible.forEach f bs) K h (fun _ => K) F := by
  induction bs with
  | nil => exact Upholds.pure fun s hs => ⟨rfl, hs⟩
  | cons b rest ih =>
    refine Keeps.andThen (hf b List.mem_cons_self) (fun _ => ?_) fun _ hs => ⟨rfl, hs⟩
    exact ih fun b' hb' => hf b' (List.mem_cons_of_mem _ hb')

/-- A loop of which every round leaves something behind for good. -/
theorem Keeps.forEachLeaving {f : β → Fallible φ ρ answer Unit} {bs : List β} {Z : β → σ → Prop}
    (hZ : ∀ b, D.Stable (Z b)) (hf : ∀ b ∈ bs, D.Keeps i op (f b) K h (fun _ s => K s ∧ Z b s) F) :
    D.Keeps i op (Fallible.forEach f bs) K h (fun _ s => ∀ b ∈ bs, Z b s) F := by
  induction bs with
  | nil => exact Upholds.pure fun s _ => ⟨rfl, fun _ hb => nomatch hb⟩
  | cons b rest ih =>
    refine Keeps.andThen (hf b List.mem_cons_self) (fun _ => ?_) fun _ hs => ⟨rfl, hs⟩
    have hrest := ih fun b' hb' => hf b' (List.mem_cons_of_mem _ hb')
    refine (Upholds.frame hrest (hZ b)).weaken (fun _ hs => hs) ?_ fun _ _ hs => hs.1
    rintro _ s h' ⟨⟨hh, hleft⟩, hb⟩
    exact ⟨hh, List.forall_mem_cons.mpr ⟨hb, hleft⟩⟩

/-- A program that an operation starts with, whatever it ends with. -/
def Plays (D : Custody σ ω ρ answer η) (i : ℕ) (op : ω) (p : Program ρ answer Unit) : Prop :=
  D.protocol.Follows (D.service.within D.conditions) i op p (fun _ => True) D.idle fun _ _ _ => True

theorem Upholds.dropResult
    (hx : D.Upholds i op x (fun _ => True) D.idle (fun _ _ _ => True) fun _ _ => True) :
    D.Plays i op (Fallible.dropResult x) :=
  Protocol.Follows.bind hx fun _ _ _ _ _ _ _ => trivial

/-- The call keeps to the invariant and holds the same at its end; nothing else is known of the
store. -/
abbrev Heeds (D : Custody σ ω ρ answer η) (i : ℕ) (op : ω) (x : Fallible φ ρ answer α)
    (h : η) : Prop :=
  D.Keeps i op x (fun _ => True) h (fun _ _ => True) fun _ => True

theorem Heeds.pure {a : α} : D.Heeds i op (pure a : Fallible φ ρ answer α) h :=
  Upholds.pure fun _ _ => ⟨rfl, trivial⟩

theorem Heeds.checked {r : Except φ α} :
    D.Heeds i op (Fallible.checked r : Fallible φ ρ answer α) h :=
  Upholds.checked (fun _ _ _ _ => ⟨rfl, trivial⟩) fun _ _ _ _ => ⟨rfl, trivial⟩

theorem Heeds.andThen {f : α → Fallible φ ρ answer β} (hx : D.Heeds i op x h)
    (hf : ∀ a, D.Heeds i op (f a) h) :
    D.Heeds i op (x >>= f) h :=
  Keeps.andThen hx hf fun _ _ => ⟨rfl, trivial⟩

theorem Heeds.checkThen {c : Prop} [Decidable c] {e : φ} (hx : c → D.Heeds i op x h) :
    D.Heeds i op (Fallible.check c e >>= fun _ => x) h :=
  Upholds.checkThen (fun _ _ _ => ⟨rfl, trivial⟩) hx

theorem Heeds.look {r : ρ} (hrefl : ∀ s, D.grows s s)
    (hsame : ∀ s, (D.service.carry i op s r).2 = s) :
    D.Heeds i op (Fallible.ask r : Fallible φ ρ answer (answer r)) h :=
  Keeps.look hrefl hsame (stable_const True)

theorem Heeds.ignoringFailure {x : Fallible φ ρ answer Unit} (hx : D.Heeds i op x h) :
    D.Heeds i op (Fallible.ignoringFailure x) h :=
  Upholds.ignoringFailure hx

/-- Only the start of the call matters. -/
theorem Keeps.heeds (hx : D.Keeps i op x K h R F) (hK : ∀ s, K s) : D.Heeds i op x h :=
  hx.weaken (fun s _ => hK s) (fun _ _ _ hs => ⟨hs.1, trivial⟩) fun _ _ hs => ⟨hs.1, trivial⟩

theorem Heeds.plays (hx : D.Heeds i op x D.idle) : D.Plays i op (Fallible.dropResult x) :=
  Upholds.dropResult (hx.weaken (fun _ hs => hs) (fun _ _ _ _ => trivial) fun _ _ _ => trivial)

/-- A program that holds nothing at its end. -/
def Ends (D : Custody σ ω ρ answer η) (i : ℕ) (op : ω) (p : Program ρ answer Unit) : Prop :=
  D.protocol.Follows (D.service.within D.conditions) i op p (fun _ => True) D.idle
    fun _ _ h => h = D.idle

theorem Heeds.ends (hx : D.Heeds i op x D.idle) : D.Ends i op (Fallible.dropResult x) := by
  refine Protocol.Follows.bind hx fun result h s H _ hs _ => ?_
  cases result with
  | ok a => exact hs.1
  | error e => exact hs.1

theorem Ends.plays {p : Program ρ answer Unit} (hp : D.Ends i op p) : D.Plays i op p :=
  Protocol.Follows.weaken hp (fun _ _ _ _ hs => hs) fun _ _ _ _ => trivial

/-- The programs of all operations keep to it. -/
structure Kept (D : Custody σ ω ρ answer η) : Prop where
  refl : ∀ s, D.grows s s
  programs : ∀ i op, D.conditions.starts op → D.Plays i op (D.service.program op)
  passes : ∀ n s H, D.inv s H → D.conditions.passes s (D.service.passes n s) →
    D.grows s (D.service.passes n s) ∧ D.inv (D.service.passes n s) H

theorem Kept.obeyed (hkept : D.Kept) : D.protocol.Obeyed (D.service.within D.conditions) := by
  refine ⟨?_, ?_, ?_, hkept.refl⟩
  · intro i op hstarts
    exact hkept.programs i op hstarts.2
  · intro s H i _ hcrash
    exact absurd hcrash.1 id
  · rintro s H s' hinv ⟨⟨n, rfl⟩, hpasses⟩
    exact hkept.passes n s H hinv hpasses

variable {start : σ} {tr : Trace σ ω ρ answer} {c : Config σ ω ρ answer}

/-- Every run whose steps meet the conditions keeps the invariant. -/
theorem Kept.run (hkept : D.Kept) (hrun : D.service.Runs start tr c)
    (hmeets : ∀ t ∈ tr, StoreService.Meets D.conditions t) (hstart : D.inv start fun _ => D.idle) :
    ∃ H, D.inv c.state H := by
  obtain ⟨H, hfinish⟩ := Protocol.kept_of_run hkept.obeyed hstart (run_restrict hrun hmeets)
  exact ⟨H, hfinish.inv⟩

/-- Every step of such a run is as the store may change. -/
theorem Kept.steps (hkept : D.Kept) (hrun : D.service.Runs start tr c)
    (hmeets : ∀ t ∈ tr, StoreService.Meets D.conditions t) (hstart : D.inv start fun _ => D.idle) :
    ∀ t ∈ tr, D.grows t.before.state t.after.state :=
  Protocol.grows_of_mem hkept.obeyed hstart (run_restrict hrun hmeets)

/-- What is held is held by a call that is under way. -/
theorem Kept.holder (hkept : D.Kept)
    (hends : ∀ i op, D.conditions.starts op → D.Ends i op (D.service.program op))
    (hrun : D.service.Runs start tr c) (hmeets : ∀ t ∈ tr, StoreService.Meets D.conditions t)
    (hstart : D.inv start fun _ => D.idle) :
    ∃ H, D.inv c.state H ∧ ∀ i, H i ≠ D.idle → ∃ op r next, c.processes i = some
      ⟨op, .running (.ask r next)⟩ := by
  let P : Protocol σ η := { D.protocol with resting := fun h => h = D.idle }
  have hobeyed : P.Obeyed (D.service.within D.conditions) := by
    refine ⟨?_, ?_, hkept.obeyed.environment, hkept.refl⟩
    · exact fun i op hstarts => (hends i op hstarts.2).alike rfl rfl
    · exact fun s H i _ hcrash => absurd hcrash.1 id
  obtain ⟨H, hfinish⟩ := P.kept_of_run hobeyed hstart (run_restrict hrun hmeets)
  refine ⟨H, hfinish.inv, fun i hheld => ?_⟩
  have harranged := hfinish.arranged i
  rcases hprocess : c.processes i with _ | ⟨op, (⟨⟩ | ⟨r, next⟩) | _⟩
  · rw [hprocess] at harranged
    exact absurd harranged hheld
  · rw [hprocess] at harranged
    obtain ⟨K, -, hs, hfollows⟩ := harranged
    exact absurd (hfollows _ H hfinish.inv hs rfl) hheld
  · exact ⟨op, r, next, rfl⟩
  · rw [hprocess] at harranged
    exact absurd harranged hheld

section Results

variable {Q Q' : Except φ α → η → Prop}

/-- The call keeps to the invariant, and what it holds at its end depends on its result, of which
errors are told apart. -/
def Hands (D : Custody σ ω ρ answer η) (i : ℕ) (op : ω) (x : Fallible φ ρ answer α) (h : η)
    (Q : Except φ α → η → Prop) : Prop :=
  D.protocol.Follows (D.service.within D.conditions) i op x.run (fun _ => True) h
    fun result _ h' => Q result h'

theorem Hands.weaken (hx : D.Hands i op x h Q) (hQ : ∀ result h', Q result h' → Q' result h') :
    D.Hands i op x h Q' :=
  Protocol.Follows.weaken hx (fun _ _ _ _ hs => hs) fun result _ h' hs => hQ result h' hs

theorem Hands.checked {r : Except φ α} (hQ : Q r h) : D.Hands i op (Fallible.checked r) h Q :=
  fun _ _ _ _ _ => hQ

theorem Hands.pure {a : α} (hQ : Q (.ok a) h) : D.Hands i op (pure a : Fallible φ ρ answer α) h Q :=
  fun _ _ _ _ _ => hQ

theorem Hands.andThen {Q' : Except φ β → η → Prop} {f : α → Fallible φ ρ answer β}
    (hx : D.Hands i op x h Q) (hf : ∀ a h', Q (.ok a) h' → D.Hands i op (f a) h' Q')
    (herror : ∀ e h', Q (.error e) h' → Q' (.error e) h') :
    D.Hands i op (x >>= f) h Q' := by
  refine Protocol.Follows.andThen hx (fun a h' => ?_) fun e _ h' hs => herror e h' hs
  refine Protocol.Follows.weaken (Protocol.Follows.assuming (hf a h')) ?_ fun _ _ _ hs => hs
  exact fun _ _ _ _ hs => ⟨hs, trivial⟩

theorem Hands.tryCatch {handler : φ → Fallible φ ρ answer α} (hx : D.Hands i op x h Q)
    (hhandler : ∀ e h', Q (.error e) h' → D.Hands i op (handler e) h' Q')
    (hok : ∀ a h', Q (.ok a) h' → Q' (.ok a) h') :
    D.Hands i op (tryCatchThe φ x handler) h Q' := by
  refine Protocol.Follows.tryCatch hx (fun e h' => ?_) fun a _ h' hs => hok a h' hs
  refine Protocol.Follows.weaken (Protocol.Follows.assuming (hhandler e h')) ?_ fun _ _ _ hs => hs
  exact fun _ _ _ _ hs => ⟨hs, trivial⟩

/-- A request after which the call holds what the answer says. -/
theorem Hands.ask {r : ρ} (held : answer r → η) (hgrows : ∀ s s', D.grows s s')
    (hstep : ∀ s H, D.inv s H → H i = h → D.conditions.allows i op s r →
      D.inv (D.service.carry i op s r).2
      (Function.update H i (held (D.service.carry i op s r).1))) :
    D.Hands i op (Fallible.ask r : Fallible φ ρ answer (answer r)) h
      fun result h' => ∃ x, result = .ok x ∧ h' = held x := by
  intro s H x s' hinv _ hh hdone
  obtain ⟨hcarry, hallows⟩ := hdone
  have hcarry' : D.service.carry i op s r = (x, s') := hcarry
  have hafter := hstep s H hinv hh hallows
  rw [hcarry'] at hafter
  exact ⟨hgrows s s',
    fun _ => True, held x, fun _ _ _ _ => trivial, trivial, hafter, fun _ _ _ _ _ => ⟨x, rfl, rfl⟩⟩

theorem Hands.ends (hx : D.Hands i op x D.idle Q) (hQ : ∀ result h', Q result h' → h' = D.idle) :
    D.Ends i op (Fallible.dropResult x) := by
  refine Protocol.Follows.bind hx fun result h' => ?_
  exact fun _ _ _ hs _ => hQ result h' hs

end Results

-- A goal is not to be reduced to the program that it is about.
attribute [irreducible] Upholds Plays Ends Hands

end Custody

end InterleavedPrograms
