import Mathlib.Data.Fintype.Vector
import VeriAgentPay.ConservedTotals
import VeriAgentPay.LedgerEffects

/-!
# The program neither mints nor burns

The lamports of all accounts together, and the tokens of each mint together, are the same
after every call as before it. Over a run they change by what others did to them, and by
nothing else.
-/

namespace VeriAgentPay
open FixedWidth CheckedOutcome LabelledRuns

instance finiteUInt8 : Finite UInt8 := Finite.of_injective UInt8.toFin fun _ _ => UInt8.toFin_inj.mp

noncomputable instance fintypeUInt8 : Fintype UInt8 := Fintype.ofFinite UInt8

/-- The tokens of one mint held at an address. -/
def World.tokensOf (w : World) (mint k : Pubkey) : ℕ :=
  match w.data k with
  | .token t => if t.mint = mint then t.amount.toNat else 0
  | _ => 0

noncomputable def World.lamportSupply (w : World) : ℕ := ∑ k, (w.lamports k).toNat

noncomputable def World.tokenSupply (mint : Pubkey) (w : World) : ℕ := ∑ k, w.tokensOf mint k

section Effects

variable {rt : Runtime} {w w' : World} {mint k : Pubkey}

theorem World.tokensOf_congr (h : w'.data k = w.data k) :
    w'.tokensOf mint k = w.tokensOf mint k := by
  simp [World.tokensOf, h]

theorem World.tokensOf_token {t : TokenAccount} (h : w.data k = .token t) :
    w.tokensOf mint k = if t.mint = mint then t.amount.toNat else 0 := by
  simp [World.tokensOf, h]

theorem World.tokensOf_none (h : (w.data k).token? = none) : w.tokensOf mint k = 0 := by
  unfold World.tokensOf
  split
  · rename_i t ht
    simp [ht, AccountData.token?] at h
  · rfl

theorem Effect.lamportSupply (h : Effect rt w w') : w'.lamportSupply = w.lamportSupply := by
  cases h with
  | created allocated paid canonical empty =>
    refine sum_eq_of_trade allocated.payer_ne paid.total ?_
    intro k hp hk
    rw [allocated.others k hp hk]
  | rewritten before owned owned' canonical => rfl
  | tokensMoved ne moved => rw [World.lamportSupply, World.lamportSupply, moved.lamports_eq]
  | lamportsMoved ne moved =>
    refine sum_eq_of_trade ne ?_ ?_
    · have hsource := moved.source_eq
      have hdestination := moved.destination_eq
      omega
    · intro k hs hd
      rw [moved.others k hs hd]

theorem Effect.tokenSupply (h : Effect rt w w') (mint : Pubkey) :
    w'.tokenSupply mint = w.tokenSupply mint := by
  cases h with
  | @created w' payer key d allocated paid canonical empty =>
    refine Finset.sum_congr rfl fun k _ => ?_
    by_cases hk : k = key
    · have hbefore : w.tokensOf mint key = 0 := World.tokensOf_none (by rw [allocated.fresh]; rfl)
      rw [hk, hbefore]
      cases hd : d with
      | token t => simp [World.tokensOf_token (allocated.at_key.trans hd), (empty t hd).1]
      | _ => exact World.tokensOf_none (by rw [allocated.at_key, hd]; rfl)
    · exact World.tokensOf_congr (by rw [allocated.data_eq, Function.update_of_ne hk])
  | @rewritten key d d' before owned owned' canonical =>
    refine Finset.sum_congr rfl fun k _ => ?_
    have hnone : ∀ {x : AccountData}, x.programOwned = true → x.token? = none := by
      intro x hx
      cases x <;> simp_all [AccountData.programOwned, AccountData.token?]
    by_cases hk : k = key
    · subst hk
      rw [World.tokensOf_none (by simpa using hnone owned'),
        World.tokensOf_none (by rw [before]; exact hnone owned)]
    · exact World.tokensOf_congr (by simp [hk])
  | @tokensMoved w' source destination authority mint' amount s d ne moved =>
    obtain ⟨r, hr, hdestination⟩ := moved.destination_after
    refine sum_eq_of_trade ne ?_ fun k hs hd => World.tokensOf_congr (moved.others k hs hd)
    have hle : amount ≤ s.amount := UInt64.le_iff_toNat_le.mpr moved.enough
    have henough := moved.enough
    rw [World.tokensOf_token moved.source_after, World.tokensOf_token hdestination,
      World.tokensOf_token moved.source_before, World.tokensOf_token moved.destination_before]
    simp only [moved.mint_eq, moved.destination_mint, UInt64.toNat_sub_of_le _ _ hle, hr]
    split
    · omega
    · rfl
  | lamportsMoved ne moved =>
    exact Finset.sum_congr rfl fun k _ => World.tokensOf_congr (by rw [moved.data_eq])

theorem Effects.lamportSupply (h : Effects rt w w') : w'.lamportSupply = w.lamportSupply := by
  induction h with
  | refl => rfl
  | tail _ hlast ih => rw [hlast.lamportSupply, ih]

theorem Effects.tokenSupply (h : Effects rt w w') (mint : Pubkey) :
    w'.tokenSupply mint = w.tokenSupply mint := by
  induction h with
  | refl => rfl
  | tail _ hlast ih => rw [hlast.tokenSupply mint, ih]

end Effects

section Runs

variable {rt : Runtime} {start finish : World} {tr : List (Transition World Event)}

theorem supplies_conserved (hrun : Run (Step rt) start tr finish) :
    (finish.lamportSupply : ℤ) = start.lamportSupply +
      (tr.map (changeBy Event.isEnv World.lamportSupply)).sum ∧
      ∀ mint, (finish.tokenSupply mint : ℤ) =
        start.tokenSupply mint + (tr.map (changeBy Event.isEnv (World.tokenSupply mint))).sum := by
  refine ⟨hrun.sum_changes ?_, fun mint => hrun.sum_changes ?_⟩
  · intro u e v hstep hcall
    exact (step_effects hstep hcall).lamportSupply
  · intro u e v hstep hcall
    exact (step_effects hstep hcall).tokenSupply mint

/-- Five calls on the shared ledger, two of which create links, move lamports and tokens around and
keep both totals. -/
theorem supplies_conserved_devnet : ∃ tr w, Run (Step Devnet.runtime) Devnet.genesis tr w ∧
    w.lamports Devnet.solLink ≠ Devnet.genesis.lamports Devnet.solLink ∧
    w.lamportSupply = Devnet.genesis.lamportSupply ∧
    w.tokenSupply Devnet.stablecoinMint = Devnet.genesis.tokenSupply Devnet.stablecoinMint := by
  obtain ⟨tr, w, hrun, hw⟩ := Devnet.reached 5
    (p := fun tr w => tr.all (fun t => !t.event.isEnv) &&
      decide (w.lamports Devnet.solLink ≠ Devnet.genesis.lamports Devnet.solLink))
    (by decide +kernel)
  obtain ⟨hcalls, hmoved⟩ := Bool.and_eq_true_iff.mp hw
  have hinside : ∀ t ∈ tr, t.event.isEnv = false := fun t ht => by
    simpa using List.all_eq_true.mp hcalls t ht
  obtain ⟨hlamports, htokens⟩ := supplies_conserved hrun
  rw [sum_changeBy_eq_zero hinside, add_zero, Int.natCast_inj] at hlamports
  have htoken := htokens Devnet.stablecoinMint
  rw [sum_changeBy_eq_zero hinside, add_zero, Int.natCast_inj] at htoken
  exact ⟨tr, w, hrun, of_decide_eq_true hmoved, hlamports, htoken⟩

end Runs

end VeriAgentPay
