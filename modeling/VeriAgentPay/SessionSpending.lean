import VeriAgentPay.LedgerRuns

/-!
# What a session spends over a whole run

A session's record keeps two running totals: the tokens that left its vault under it, and
the number of calls that used it. Both are sums over the history, and the policy the record
was created with bounds every step of it.
-/

namespace VeriAgentPay
open FixedWidth CheckedOutcome LabelledRuns

/-- The session, the token account and the mint of a call that spends under a session. -/
def Call.sessionSpend? : Call → Option (Pubkey × Pubkey × Pubkey)
  | transferWithSession a _ => some (a.session, a.vaultTokenAccount, a.stablecoinMint)
  | createPaymentLinkWithSession a _ => some (a.session, a.vaultTokenAccount, a.stablecoinMint)
  | _ => none

/-- The tokens that left the vault's account in a step that spends under the session. -/
def sessionDebit (key : Pubkey) (t : Transition World Event) : ℕ :=
  match t.event with
  | .call _ c =>
    match c.sessionSpend? with
    | some (session, source, _) =>
      if session = key then t.before.tokenBalance source - t.after.tokenBalance source else 0
    | none => 0
  | .env => 0

/-- The amount and the nonce of a step that uses the session. -/
def Event.sessionUse? (key : Pubkey) : Event → Option (ℕ × UInt64)
  | .call _ c =>
    match c.sessionUse? with
    | some (session, amount, nonce) => if session = key then some (amount, nonce) else none
    | none => none
  | .env => none

def usesSession (key : Pubkey) (t : Transition World Event) : Bool :=
  (t.event.sessionUse? key).isSome

/-- What no step undoes: a session keeps its terms and its counters only grow. -/
structure SessionTightens (s s' : Session) : Prop where
  vault : s'.vault = s.vault
  publicKey : s'.publicKey = s.publicKey
  actionBitmap : s'.actionBitmap = s.actionBitmap
  perActionLimit : s'.perActionLimit = s.perActionLimit
  cumulativeLimit : s'.cumulativeLimit = s.cumulativeLimit
  validAfter : s'.validAfter = s.validAfter
  validUntil : s'.validUntil = s.validUntil
  revoked : s'.revoked = s.revoked
  spent : s.spent.toNat ≤ s'.spent.toNat
  nonce : s.nonce.toNat ≤ s'.nonce.toNat

theorem SessionTightens.refl (s : Session) : SessionTightens s s :=
  ⟨rfl, rfl, rfl, rfl, rfl, rfl, rfl, rfl, le_rfl, le_rfl⟩

theorem SessionTightens.trans {s s' s'' : Session} (h : SessionTightens s s')
    (h' : SessionTightens s' s'') :
    SessionTightens s s'' where
  vault := h'.vault.trans h.vault
  publicKey := h'.publicKey.trans h.publicKey
  actionBitmap := h'.actionBitmap.trans h.actionBitmap
  perActionLimit := h'.perActionLimit.trans h.perActionLimit
  cumulativeLimit := h'.cumulativeLimit.trans h.cumulativeLimit
  validAfter := h'.validAfter.trans h.validAfter
  validUntil := h'.validUntil.trans h.validUntil
  revoked := h'.revoked.trans h.revoked
  spent := h.spent.trans h'.spent
  nonce := h.nonce.trans h'.nonce

/-- The bounds a session's record satisfies in every reachable ledger. -/
structure SessionBounded (s : Session) : Prop where
  window : s.validUntil.toInt - s.validAfter.toInt ≤ 30 * 24 * 60 * 60
  spent : s.spent.toNat ≤ s.cumulativeLimit.toNat
  perAction : s.perActionLimit.toNat ≤ s.cumulativeLimit.toNat

/-- A step that uses a session: who signed it, when, at which nonce, and what left the vault. -/
structure SessionStep (rt : Runtime) (ctx : Context) (c : Call) (key : Pubkey) (amount : ℕ)
    (nonce : UInt64) (t : Transition World Event) (s : Session) : Prop where
  before : t.before.data key = .session s
  signed : s.publicKey ∈ ctx.signers
  not_revoked : s.revoked = false
  opened : s.validAfter ≤ t.before.now
  not_closed : t.before.now ≤ s.validUntil
  nonce_eq : s.nonce = nonce
  debit : sessionDebit key t = amount
  spends : ∀ source mint, c.sessionSpend? = some (key, source, mint) →
    associatedTokenAddress rt s.vault mint = some source ∧ 0 < amount ∧
    amount ≤ s.perActionLimit.toNat

section Steps

variable {rt : Runtime} {w w' : World} {e : Event} {key : Pubkey}

theorem usesSession_of_call {ctx : Context} {c : Call} {amount : ℕ} {nonce : UInt64}
    (h : c.sessionUse? = some (key, amount, nonce)) :
    (Event.call ctx c).sessionUse? key = some (amount, nonce) := by
  simp [Event.sessionUse?, h]

/-- The three instructions that use a session. -/
theorem exec_sessionUse {ctx : Context} {c : Call} {amount : ℕ} {nonce : UInt64}
    (h : exec rt ctx c w = .ok w') (hcall : c.sessionUse? = some (key, amount, nonce)) :
    ∃ s, SessionUse ctx w w' key s.vault s amount nonce ∧ (PolicyAdmits s amount ∨ amount = 0) ∧
      SessionStep rt ctx c key amount nonce ⟨w, .call ctx c, w'⟩ s := by
  cases c with
  | transferWithSession a args =>
    obtain ⟨s, huse, hwithin, -, haddress, hflow, -⟩ := transferWithSession_ok h
    obtain ⟨rfl, rfl, rfl⟩ : a.session = key ∧ args.amount.toNat = amount ∧
      args.sessionNonce = nonce := by
      simpa [Call.sessionUse?] using hcall
    have hsource := hflow.source_eq
    refine ⟨s, huse.vault_eq ▸ huse, .inl hwithin,
      ⟨huse.before, huse.signed, huse.not_revoked, huse.opened,
      huse.not_closed, huse.nonce_eq, ?_, ?_⟩⟩
    · simp only [sessionDebit, Call.sessionSpend?, if_pos]
      omega
    · intro source mint hspend
      obtain ⟨rfl, rfl⟩ : a.vaultTokenAccount = source ∧ a.stablecoinMint = mint := by
        simpa [Call.sessionSpend?] using hspend
      exact ⟨huse.vault_eq ▸ haddress, hwithin.positive, hwithin.per_action⟩
  | createPaymentLinkWithSession a args =>
    obtain ⟨s, huse, hwithin, -, -, -, haddress, -, -, hflow, -⟩ :=
      createPaymentLinkWithSession_ok h
    obtain ⟨rfl, rfl, rfl⟩ : a.session = key ∧ args.amount.toNat = amount ∧
      args.sessionNonce = nonce := by
      simpa [Call.sessionUse?] using hcall
    have hsource := hflow.source_eq
    refine ⟨s, huse.vault_eq ▸ huse, .inl hwithin,
      ⟨huse.before, huse.signed, huse.not_revoked, huse.opened,
      huse.not_closed, huse.nonce_eq, ?_, ?_⟩⟩
    · simp only [sessionDebit, Call.sessionSpend?, if_pos]
      omega
    · intro source mint hspend
      obtain ⟨rfl, rfl⟩ : a.vaultTokenAccount = source ∧ a.stablecoinMint = mint := by
        simpa [Call.sessionSpend?] using hspend
      exact ⟨huse.vault_eq ▸ haddress, hwithin.positive, hwithin.per_action⟩
  | cancelPaymentLinkWithSession a args =>
    obtain ⟨s, link, huse, -⟩ := cancelPaymentLinkWithSession_ok h
    obtain ⟨rfl, rfl, rfl⟩ : a.session = key ∧ 0 = amount ∧ args.sessionNonce = nonce := by
      simpa [Call.sessionUse?] using hcall
    exact ⟨s, huse.vault_eq ▸ huse, .inr rfl,
      ⟨huse.before, huse.signed, huse.not_revoked, huse.opened,
      huse.not_closed, huse.nonce_eq, rfl, fun _ _ hspend => by cases hspend⟩⟩
  | _ => cases hcall

/-- Spending under a session is using it. -/
theorem sessionDebit_eq_zero (h : e.sessionUse? key = none) : sessionDebit key ⟨w, e, w'⟩ = 0 := by
  cases e with
  | env => rfl
  | call ctx c =>
    cases c <;> simp_all [sessionDebit, Event.sessionUse?, Call.sessionUse?, Call.sessionSpend?]

/-- A step creates the session, uses it, or leaves it as it is. -/
theorem session_step (key : Pubkey) (h : Step rt w e w') :
    (e.sessionUse? key = none ∧ (w'.data key).session? = (w.data key).session?) ∨
    (e.sessionUse? key = none ∧ w.data key = .empty ∧ ∃ bump vault policy,
      validateSessionPolicy policy = .ok () ∧
      w'.data key = .session (writeSession bump vault policy)) ∨
    ∃ ctx c amount nonce s, e = .call ctx c ∧ c.sessionUse? = some (key, amount, nonce) ∧
      SessionUse ctx w w' key s.vault s amount nonce ∧ (PolicyAdmits s amount ∨ amount = 0) ∧
      SessionStep rt ctx c key amount nonce ⟨w, e, w'⟩ s := by
  cases huse : e.sessionUse? key with
  | some use =>
    cases e with
    | env => cases huse
    | call ctx c =>
      refine .inr (.inr ?_)
      simp only [Event.sessionUse?] at huse
      split at huse
      · rename_i session amount nonce hcall
        split at huse
        · rename_i heq
          subst heq
          obtain ⟨s, hs⟩ := exec_sessionUse h hcall
          exact ⟨ctx, c, amount, nonce, s, rfl, hcall, hs⟩
        · cases huse
      · cases huse
  | none =>
    cases hafter : (w'.data key).session? with
    | some s' =>
      rcases step_record_after h (AccountData.session?_eq_some.mp hafter) rfl with hbefore | ⟨ctx,
        c, before, rfl, hbefore, hchange⟩
      · simp [hbefore]
      · cases hchange with
        | sessionCreated vault policy bump valid =>
          exact .inr (.inl ⟨rfl, hbefore, bump, vault, policy, valid,
            AccountData.session?_eq_some.mp hafter⟩)
        | sessionUsed vault session amount nonce call =>
          rw [usesSession_of_call call] at huse
          cases huse
    | none =>
      cases hbefore : (w.data key).session? with
      | none => exact .inl ⟨rfl, rfl⟩
      | some s =>
        have hs := AccountData.session?_eq_some.mp hbefore
        rcases step_record_before h hs rfl with heq | ⟨ctx, c, after, rfl, -, -, hafter', hchange⟩
        · simp [heq] at hafter
        · cases hchange with
          | sessionUsed => simp [hafter', AccountData.session?] at hafter

/-- The same step, for a session that was there before it. -/
theorem session_step_tightens (h : Step rt w e w') {s : Session} (hs : w.data key = .session s) :
    ∃ s', w'.data key = .session s' ∧ SessionTightens s s' := by
  rcases step_record_before h hs rfl with heq | ⟨ctx, c, after, rfl, -, -, hafter, hchange⟩
  · exact ⟨s, heq, SessionTightens.refl s⟩
  · cases hchange with
    | sessionUsed vault _ amount nonce call use admitted spent n spent_eq next =>
      exact ⟨_, hafter, rfl, rfl, rfl, rfl, rfl, rfl, rfl,
        rfl, by simp only; omega, by simp only; omega⟩

theorem session_bounded_step (hbounded : ∀ k s, w.data k = .session s → SessionBounded s)
    (h : Step rt w e w') :
    ∀ k s, w'.data k = .session s → SessionBounded s := by
  intro k s' hafter
  rcases step_record_after h hafter rfl with hbefore | ⟨ctx, c, before, rfl, hbefore, hchange⟩
  · exact hbounded k s' hbefore
  · cases hchange with
    | sessionCreated vault policy bump valid =>
      obtain ⟨hwindow, -, -, hlimits⟩ := validateSessionPolicy_ok valid
      exact ⟨hwindow, Nat.zero_le _, hlimits⟩
    | sessionUsed vault s amount nonce call use admitted spent n spent_eq next =>
      have hs := hbounded k s hbefore
      refine ⟨hs.window, ?_, hs.perAction⟩
      rcases admitted with hwithin | hzero
      · exact spent_eq ▸ hwithin.cumulative
      · rw [spent_eq, hzero]
        exact hs.spent

/-- The tokens a session has let out and the number of its uses, as its record counts them. -/
def spentSoFar (key : Pubkey) (w : World) : ℕ :=
  ((w.data key).session?.map (fun s => s.spent.toNat)).getD 0

def usesSoFar (key : Pubkey) (w : World) : ℕ :=
  ((w.data key).session?.map (fun s => s.nonce.toNat)).getD 0

theorem spentSoFar_step (h : Step rt w e w') :
    spentSoFar key w' = spentSoFar key w + sessionDebit key ⟨w, e, w'⟩ := by
  rcases session_step key h with ⟨hnone, hkept⟩ | ⟨hnone, hfresh, bump, vault, policy, -, hafter⟩ |
    ⟨ctx, c, amount, nonce, s, rfl, hcall, huse, -, hstep⟩
  · rw [sessionDebit_eq_zero hnone, spentSoFar, hkept, spentSoFar, Nat.add_zero]
  · rw [sessionDebit_eq_zero hnone]
    simp [spentSoFar, hfresh, hafter, writeSession]
  · obtain ⟨spent, n, hspent, -, hafter⟩ := huse.after
    rw [hstep.debit]
    simpa [spentSoFar, huse.before, hafter] using hspent

theorem usesSoFar_step (h : Step rt w e w') :
    usesSoFar key w' = usesSoFar key w + if usesSession key ⟨w, e, w'⟩ then 1 else 0 := by
  rcases session_step key h with ⟨hnone, hkept⟩ | ⟨hnone, hfresh, bump, vault, policy, -, hafter⟩ |
    ⟨ctx, c, amount, nonce, s, rfl, hcall, huse, -, hstep⟩
  · simp [usesSession, hnone, usesSoFar, hkept]
  · simp [usesSession, hnone, usesSoFar, hfresh, hafter, writeSession]
  · obtain ⟨spent, n, -, hn, hafter⟩ := huse.after
    simpa [usesSession, usesSession_of_call hcall, usesSoFar, huse.before, hafter] using hn

end Steps

section Runs

variable {rt : Runtime} {start w : World} {tr : List (Transition World Event)} {key : Pubkey}

/-- After a step used a session, its record stands above the nonce of that step. -/
private def NonceSpent (key : Pubkey) (t : Transition World Event) (w : World) : Prop :=
  ∀ amount nonce, t.event.sessionUse? key = some (amount, nonce) →
    ∃ s, w.data key = .session s ∧ nonce.toNat < s.nonce.toNat

private theorem nonceSpent_establish {u v : World} {e : Event} (h : Step rt u e v) :
    NonceSpent key ⟨u, e, v⟩ v := by
  intro amount nonce huse
  rcases session_step key h with ⟨hnone, -⟩ | ⟨hnone, -⟩ | ⟨ctx, c, amount', nonce', s, rfl,
    hcall, hs, -⟩
  · rw [hnone] at huse
    cases huse
  · rw [hnone] at huse
    cases huse
  · rw [usesSession_of_call hcall] at huse
    obtain ⟨-, rfl⟩ := Prod.mk.inj (Option.some.inj huse)
    obtain ⟨spent, n, -, hn, hafter⟩ := hs.after
    have hnonce := congrArg UInt64.toNat hs.nonce_eq
    exact ⟨_, hafter, by simp only; omega⟩

private theorem nonceSpent_stable {t : Transition World Event} {u v : World} {e : Event}
    (hfact : NonceSpent key t u) (h : Step rt u e v) : NonceSpent key t v := by
  intro amount nonce huse
  obtain ⟨s, hs, hlt⟩ := hfact amount nonce huse
  obtain ⟨s', hs', htightens⟩ := session_step_tightens h hs
  exact ⟨s', hs', hlt.trans_le htightens.nonce⟩

/-- The spending cap of a session over any run: the tokens that left its vault under it are its
`spent`, which the cumulative limit bounds; its nonce counts its uses, each at a nonce of its
own; each use was signed, in time and within the limits; and no step loosens its terms. -/
theorem session_spending_capped (hgenesis : Genesis start) (hrun : Run (Step rt) start tr w)
    {s : Session} (hs : w.data key = .session s) :
    (tr.map (sessionDebit key)).sum = s.spent.toNat ∧ s.spent.toNat ≤ s.cumulativeLimit.toNat ∧
    tr.countP (usesSession key) = s.nonce.toNat ∧
    s.validUntil.toInt - s.validAfter.toInt ≤ 30 * 24 * 60 * 60 ∧
    (∀ t ∈ tr, ∀ amount nonce, t.event.sessionUse? key = some (amount, nonce) →
      ∃ ctx c s₁, t.event = .call ctx c ∧ SessionStep rt ctx c key amount nonce t s₁ ∧
        SessionTightens s₁ s) ∧
    tr.Pairwise (fun t t' => ∀ amount nonce amount' nonce', t.event.sessionUse? key = some
      (amount, nonce) →
      t'.event.sessionUse? key = some (amount', nonce') → nonce < nonce') ∧
    (∀ t ∈ tr, ∀ s₁, t.before.data key = .session s₁ →
      ∃ s₂, t.after.data key = .session s₂ ∧ SessionTightens s₁ s₂) := by
  have hnone : (start.data key).session? = none := by
    have := hgenesis.no_records key
    cases hdata : start.data key <;> simp_all [AccountData.session?, AccountData.programOwned]
  have hspent : spentSoFar key w = s.spent.toNat := by simp [spentSoFar, hs]
  have huses : usesSoFar key w = s.nonce.toNat := by simp [usesSoFar, hs]
  have hbounded := hrun.invariant (I := fun v => ∀ k s, v.data k = .session s → SessionBounded s)
    (by
      intro k s' hs'
      have := hgenesis.no_records k
      simp [hs', AccountData.programOwned] at this)
    (fun _ _ _ hbounded h => session_bounded_step hbounded h) key s hs
  refine ⟨?_, hbounded.spent, ?_, hbounded.window, ?_, ?_, ?_⟩
  · have hsum :=
      hrun.sum_weights (I := fun _ => True) trivial (fun _ _ _ _ _ => trivial) (spentSoFar key)
      (sessionDebit key) (fun _ _ _ _ h => spentSoFar_step h)
    rw [hspent, spentSoFar, hnone] at hsum
    simpa using hsum.symm
  · rw [← huses]
    exact hrun.count_steps (I := fun _ => True) trivial (fun _ _ _ _ _ => trivial) (usesSoFar key)
      (usesSession key) (by simp [usesSoFar, hnone]) (fun _ _ _ _ h => usesSoFar_step h)
  · -- the record of the step and the final record are linked by the steps in between
    have hfact := hrun.fact_of_mem (I := fun _ => True) trivial (fun _ _ _ _ _ => trivial)
      (fun t v => ∀ s₁, t.before.data key = .session s₁ →
        ∃ s₂, v.data key = .session s₂ ∧ SessionTightens s₁ s₂)
      (fun u e v _ h s₁ hs₁ => session_step_tightens h hs₁)
      (by
        intro t u e v _ hfact h s₁ hs₁
        obtain ⟨s₂, hs₂, htightens⟩ := hfact s₁ hs₁
        obtain ⟨s₃, hs₃, htightens'⟩ := session_step_tightens h hs₂
        exact ⟨s₃, hs₃, htightens.trans htightens'⟩)
    intro t ht amount nonce huse
    rcases session_step key (hrun.step_of_mem ht) with ⟨hnone, -⟩ | ⟨hnone, -⟩ |
      ⟨ctx, c, amount', nonce', s₁, he, hcall, hs₁, -, hstep⟩
    · rw [hnone] at huse
      cases huse
    · rw [hnone] at huse
      cases huse
    · rw [he, usesSession_of_call hcall] at huse
      obtain ⟨rfl, rfl⟩ := Prod.mk.inj (Option.some.inj huse)
      obtain ⟨s₂, hs₂, htightens⟩ := hfact t ht s₁ hs₁.before
      obtain rfl := AccountData.session.inj (hs₂.symm.trans hs)
      exact ⟨ctx, c, s₁, he, hstep, htightens⟩
  · refine (hrun.pairwise_fact (I := fun _ => True) trivial (fun _ _ _ _ _ => trivial)
      (NonceSpent key) (fun _ _ _ _ h => nonceSpent_establish h)
      (fun _ _ _ _ _ hfact h => nonceSpent_stable hfact h)).imp ?_
    rintro t t' ⟨hfact, hstep⟩ amount nonce amount' nonce' huse huse'
    obtain ⟨s₁, hs₁, hlt⟩ := hfact amount nonce huse
    rcases session_step key hstep with ⟨hnone, -⟩ | ⟨hnone, -⟩ | ⟨ctx, c, _, _, s₂, he,
      hcall, hs₂, -⟩
    · rw [hnone] at huse'
      cases huse'
    · rw [hnone] at huse'
      cases huse'
    · rw [he, usesSession_of_call hcall] at huse'
      obtain ⟨-, rfl⟩ := Prod.mk.inj (Option.some.inj huse')
      obtain rfl := AccountData.session.inj (hs₁.symm.trans hs₂.before)
      rw [UInt64.lt_iff_toNat_lt, ← hs₂.nonce_eq]
      exact hlt
  · intro t ht s₁ hs₁
    exact session_step_tightens (hrun.step_of_mem ht) hs₁

theorem session_spending_capped_devnet : ∃ tr w, Run (Step Devnet.runtime) Devnet.genesis tr w ∧
    (tr.map (sessionDebit Devnet.session)).sum = 2000000 ∧
    tr.countP (usesSession Devnet.session) = 2 := by
  obtain ⟨tr, w, hrun, hw⟩ := Devnet.reached 4
    (p := fun _ w => (w.data Devnet.session).session?.any fun s => s.spent = 2000000 ∧ s.nonce = 2)
    (by decide +kernel)
  obtain ⟨s, hs, hvalues⟩ := (Option.any_eq_true _ _).mp hw
  obtain ⟨hspent, hnonce⟩ := of_decide_eq_true hvalues
  rw [AccountData.session?_eq_some] at hs
  have hcapped := session_spending_capped Devnet.genesis_fresh hrun hs
  rw [hspent, hnonce] at hcapped
  exact ⟨tr, w, hrun, hcapped.1, hcapped.2.2.1⟩

end Runs

end VeriAgentPay
