import VeriAgentPay.GatedPrograms
import VeriAgentPay.ProgramCustody

/-!
# Calls that fail

A call that ends in an error whatever its requests are answered, as far as the answers can be
restricted at all. What the program would do next is never asked for.
-/

namespace InterleavedPrograms

variable {σ ω ρ α β φ η : Type} {answer : ρ → Type}

namespace Program

variable {A : (r : ρ) → answer r → Prop} {before : ρ → Prop} {Q : α → Prop}

/-- Without a gate all requests are of the one kind. -/
theorem Gated.asks {p : Program ρ answer α} (hp : p.Gated A (fun _ _ => False) before Q) :
    p.Asks before A := by
  induction p with
  | ret a => trivial
  | ask r next ih => exact ⟨hp.1, fun x hx => ih x ((hp.2 x hx).resolve_left id)⟩

/-- What holds of the results holds of the one that is computed. -/
theorem Gated.eval {carry : σ → (r : ρ) → answer r × σ} {p : Program ρ answer α}
    (hp : p.Gated A (fun _ _ => False) before Q) (hanswers : ∀ s r, A r (carry s r).1) (s : σ) :
    Q (p.eval carry s).1 := by
  induction p generalizing s with
  | ret a => exact hp
  | ask r next ih => exact ih _ ((hp.2 _ (hanswers s r)).resolve_left id) _

/-- The requests that are made are of the one kind. -/
theorem Gated.requests {carry : σ → (r : ρ) → answer r × σ} {p : Program ρ answer α}
    (hp : p.Gated A (fun _ _ => False) before Q) (hanswers : ∀ s r, A r (carry s r).1) (s : σ) :
    ∀ r ∈ p.requests carry s, before r := by
  induction p generalizing s with
  | ret a => exact fun r hr => nomatch hr
  | ask r next ih =>
    exact List.forall_mem_cons.mpr
      ⟨hp.1, ih _ ((hp.2 _ (hanswers s r)).resolve_left id) _⟩

/-- Requests that leave the state alone. -/
theorem Gated.state {carry : σ → (r : ρ) → answer r × σ} {p : Program ρ answer α}
    (hp : p.Gated A (fun _ _ => False) before Q) (hanswers : ∀ s r, A r (carry s r).1)
    (hstill : ∀ s r, before r → (carry s r).2 = s) (s : σ) : (p.eval carry s).2 = s := by
  induction p generalizing s with
  | ret a => rfl
  | ask r next ih =>
    exact (ih _ ((hp.2 _ (hanswers s r)).resolve_left id) _).trans (hstill s r hp.1)

end Program

namespace Fallible

variable {A : (r : ρ) → answer r → Prop} {before : ρ → Prop} {Q : α → Prop}
  {x : Fallible φ ρ answer α} {f : α → Fallible φ ρ answer β}

/-- The requests of the call are of one kind, and its result is in `Q` if it has one. -/
abbrev Limited (A : (r : ρ) → answer r → Prop) (before : ρ → Prop) (Q : α → Prop)
    (x : Fallible φ ρ answer α) : Prop :=
  x.Gated A (fun _ _ => False) before Q

/-- The requests of the call are of one kind, and it has no result. -/
abbrev Refused (A : (r : ρ) → answer r → Prop) (before : ρ → Prop) (x : Fallible φ ρ answer α) :
    Prop :=
  x.Limited A before fun _ => False

theorem refused_throw (e : φ) :
    (checked (.error e) : Fallible φ ρ answer α).Refused A before :=
  gated_checked fun _ h => nomatch h

theorem limited_ask {r : ρ} {Q : answer r → Prop} (hr : before r) (h : ∀ x, A r x → Q x) :
    (ask r : Fallible φ ρ answer (answer r)).Limited A before Q :=
  gated_ask hr fun x hx => .inr (h x hx)

/-- Nothing follows a failure. -/
theorem Refused.andThen (hx : x.Refused A before) : (x >>= f).Refused A before :=
  Gated.andThen hx fun _ h => h.elim

theorem Limited.tryCatch {handler : φ → Fallible φ ρ answer α} (hx : x.Limited A before Q)
    (hh : ∀ e, (handler e).Limited A before Q) :
    (tryCatchThe φ x handler).Limited A before Q := by
  refine Program.Gated.bind hx fun result hresult => ?_
  cases result with
  | ok a => exact hresult
  | error e => exact hh e

theorem Limited.weaken {before' : ρ → Prop} {Q' : α → Prop} (hx : x.Limited A before Q)
    (hbefore : ∀ r, before r → before' r) (h : ∀ a, Q a → Q' a) : x.Limited A before' Q' :=
  Program.Gated.mono hx hbefore fun _ hresult a hok => h a (hresult a hok)

theorem limited_forEach {f : β → Fallible φ ρ answer Unit} {bs : List β}
    (hf : ∀ b ∈ bs, (f b).Limited A before fun _ => True) :
    (forEach f bs).Limited A before fun _ => True := by
  induction bs with
  | nil => exact gated_checked fun _ _ => trivial
  | cons b rest ih =>
    refine Gated.andThen (hf b List.mem_cons_self) fun _ _ => ?_
    exact ih fun b' hb' => hf b' (List.mem_cons_of_mem _ hb')

theorem Limited.asks (hx : x.Limited A before Q) : x.run.Asks before A := Program.Gated.asks hx

theorem Limited.asks_dropResult (hx : x.Limited A before Q) : (dropResult x).Asks before A :=
  Fallible.asks_dropResult hx.asks

/-- With nothing else running the call gives an error. -/
theorem Refused.eval {carry : σ → (r : ρ) → answer r × σ} (hx : x.Refused A before)
    (hanswers : ∀ s r, A r (carry s r).1) (s : σ) :
    ∃ e s', x.eval carry s = (.error e, s') := by
  rcases hresult : x.eval carry s with ⟨_ | a, s'⟩
  · exact ⟨_, s', rfl⟩
  · exact (Program.Gated.eval hx hanswers s a (congrArg Prod.fst hresult)).elim

end Fallible

section Custodies

variable {D : Custody σ ω ρ answer η} {A : (r : ρ) → answer r → Prop} {before : ρ → Prop}
  {i : ℕ} {op : ω} {K : σ → Prop} {h : η}

theorem Custody.follows_limited {Q : α → Prop} {p : Program ρ answer α}
    (hp : p.Gated A (fun _ _ => False) before Q)
    (hstep : ∀ s H r, before r → D.inv s H → D.conditions.allows i op s r →
      A r (D.service.carry i op s r).1 ∧ D.grows s (D.service.carry i op s r).2 ∧
        D.inv (D.service.carry i op s r).2 H) :
    D.protocol.Follows (D.service.within D.conditions) i op p K h fun a _ h' => h' = h ∧ Q a := by
  induction p generalizing K with
  | ret a => exact fun s H _ _ _ => ⟨rfl, hp⟩
  | ask r next ih =>
    rintro s H x s' hinv - hheld ⟨hcarry, hallows⟩
    have hcarry' : D.service.carry i op s r = (x, s') := hcarry
    have hkept := hstep s H r hp.1 hinv hallows
    rw [hcarry'] at hkept
    obtain ⟨hanswer, hgrows, hinv'⟩ := hkept
    have hsame : Function.update H i h = H := by
      rw [← hheld]
      exact Function.update_eq_self i H
    refine ⟨hgrows, fun _ => True, h, fun _ _ _ _ => trivial, trivial, ?_, ?_⟩
    · rw [hsame]
      exact hinv'
    · exact ih x ((hp.2 x hanswer).resolve_left id)

/-- A call whose requests leave the invariant as it is, whatever the call holds. -/
theorem Custody.keeps_limited {Q : α → Prop} {x : Fallible φ ρ answer α}
    (hx : x.Limited A before Q)
    (hstep : ∀ s H r, before r → D.inv s H → D.conditions.allows i op s r →
      A r (D.service.carry i op s r).1 ∧ D.grows s (D.service.carry i op s r).2 ∧
        D.inv (D.service.carry i op s r).2 H) :
    D.Keeps i op x (fun _ => True) h (fun a _ => Q a) fun _ => True := by
  have hfollows : D.protocol.Follows (D.service.within D.conditions) i op x.run (fun _ => True) h
      fun result _ h' => h' = h ∧ ∀ a, result = .ok a → Q a := Custody.follows_limited hx hstep
  unfold Custody.Keeps Custody.Upholds
  refine Protocol.Follows.weaken hfollows (fun _ _ _ _ hs => hs) ?_
  rintro result s h' ⟨hheld, hresult⟩
  cases result with
  | ok a => exact ⟨hheld, hresult a rfl⟩
  | error e => exact ⟨hheld, trivial⟩

end Custodies

end InterleavedPrograms
