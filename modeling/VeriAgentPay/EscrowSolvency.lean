import VeriAgentPay.LinkSettlement

/-!
# Every active link can be paid

Two reserves hold in every reachable ledger: an active link's escrow covers its amount on top
of any rent it needs, and a vault keeps its rent. No settlement of a reachable ledger then
fails for want of funds.
-/

namespace VeriAgentPay
open FixedWidth CheckedOutcome LabelledRuns

def rentMinimum (rt : Runtime) (d : AccountData) : ℕ := (rt.minimumBalance d.dataLen).toNat

/-- The escrow of a native link: its amount on top of the rent of its record. -/
def NativeFunded (rt : Runtime) (w : World) (key : Pubkey) (link : PaymentLink) : Prop :=
  rentMinimum rt (.link link) + link.amount.toNat ≤ (w.lamports key).toNat

/-- The escrow of a stablecoin link: an associated token account of its own that covers the
amount. -/
def TokenFunded (rt : Runtime) (w : World) (key : Pubkey) (link : PaymentLink) : Prop :=
  ∃ escrow t, associatedTokenAddress rt key link.mint = some escrow ∧ w.data escrow = .token t ∧
    t.mint = link.mint ∧ t.owner = key ∧ link.amount.toNat ≤ t.amount.toNat

structure Solvent (rt : Runtime) (w : World) : Prop where
  native : ∀ key link, w.data key = .link link → link.status = paymentLinkStatusActive →
    link.mint = defaultPubkey → NativeFunded rt w key link
  token : ∀ key link, w.data key = .link link → link.status = paymentLinkStatusActive →
    link.mint ≠ defaultPubkey → TokenFunded rt w key link
  vault : ∀ key vault, w.data key = .vault vault →
    rentMinimum rt (.vault vault) ≤ (w.lamports key).toNat

section Steps

variable {rt : Runtime} {ctx : Context} {c : Call} {w w' : World} {e : Event} {key : Pubkey}

theorem Genesis.solvent (h : Genesis w) : Solvent rt w where
  native key link hlink := by
    have := h.no_records key
    simp [hlink, AccountData.programOwned] at this
  token key link hlink := by
    have := h.no_records key
    simp [hlink, AccountData.programOwned] at this
  vault key vault hvault := by
    have := h.no_records key
    simp [hvault, AccountData.programOwned] at this

/-- An active link after a step was there before, with no less in escrow, or was just funded. -/
theorem active_link_origin (hwf : WellFormed rt w) (h : Step rt w e w')
    {link : PaymentLink} (hafter : w'.data key = .link link)
    (hactive : link.status = paymentLinkStatusActive) :
    (w.data key = .link link ∧ (e = .env ∨ ∃ ctx c, e = .call ctx c ∧ key ∉ c.writes)) ∨
      (∃ m, w.data link.mint = .mint m) ∧ TokenFunded rt w' key link ∨
      link.mint = defaultPubkey ∧ NativeFunded rt w' key link := by
  cases e with
  | env => exact .inl ⟨(EnvStep.not_forged h key (by rw [hafter]; rfl)) ▸ hafter, .inl rfl⟩
  | call ctx c =>
    have hexec : exec rt ctx c w = .ok w' := h
    by_cases hkey : key ∈ c.writes
    · obtain ⟨before, after, hbefore, hafter', hchange⟩ := exec_write hexec hkey
      obtain rfl := hafter'.symm.trans hafter
      cases hchange with
      | linkCreated bump vault mint linkId commitment amount expiresAt positive address
          authorized funded =>
        rcases funded with ⟨hmint, escrow, t, hescrow, ht, htmint, htowner, hamount⟩ | ⟨hnative,
          hlamports⟩
        · exact .inr (.inl ⟨hmint, escrow, t, hescrow, ht, htmint, htowner, hamount⟩)
        · exact .inr (.inr ⟨hnative, hlamports _⟩)
      | linkSettled link₀ _ active how => exact absurd hactive (how.settledAs hwf).not_active
    · have hkept := (exec_frame hexec).fresh key hkey (by rw [hafter]; rfl)
      exact .inl ⟨hkept ▸ hafter, .inr ⟨ctx, c, rfl, hkey⟩⟩

/-- A token escrow that covers the amount still does after a step that leaves its link alone. -/
theorem TokenFunded.step {link : PaymentLink} (hpda : PdaInjective rt) (hwf : WellFormed rt w)
    (h : Step rt w e w') (hlink : w.data key = .link link) (hmint : link.mint ≠ defaultPubkey)
    (hkept : e = .env ∨ ∃ ctx c, e = .call ctx c ∧ key ∉ c.writes)
    (hfunded : TokenFunded rt w key link) :
    TokenFunded rt w' key link := by
  obtain ⟨escrow, t, hescrow, ht, htmint, htowner, hamount⟩ := hfunded
  rcases hkept with rfl | ⟨ctx, c, rfl, hkey⟩
  · have howner : IsProgramAddress rt t.owner := htowner ▸ hwf.link_address key link hlink
    obtain ⟨t', ht', htmint', htowner', hle⟩ := EnvStep.token_kept h escrow t ht howner
    exact ⟨escrow, t', hescrow, ht', htmint'.trans htmint, htowner'.trans htowner,
      hamount.trans hle⟩
  · have hexec : exec rt ctx c w = .ok w' := h
    obtain ⟨t', ht', htmint', htowner', -⟩ := (exec_frame hexec).token escrow t ht
    have hle := escrowBalance_le hpda hexec hlink hkey
    simp only [escrowBalance, if_neg hmint, hescrow, Option.map_some, Option.getD_some,
      World.tokenBalance_of_token ht, World.tokenBalance_of_token ht'] at hle
    exact ⟨escrow, t', hescrow, ht', htmint'.trans htmint, htowner'.trans htowner,
      hamount.trans hle⟩

theorem NativeFunded.step {link : PaymentLink} (hpda : PdaInjective rt) (h : Step rt w e w')
    (hlink : w.data key = .link link) (hmint : link.mint = defaultPubkey)
    (hkept : e = .env ∨ ∃ ctx c, e = .call ctx c ∧ key ∉ c.writes)
    (hfunded : NativeFunded rt w key link) :
    NativeFunded rt w' key link := by
  rcases hkept with rfl | ⟨ctx, c, rfl, hkey⟩
  · exact hfunded.trans (EnvStep.record_lamports h key (by rw [hlink]; rfl))
  · have hle := escrowBalance_le hpda h hlink hkey
    simp only [escrowBalance, if_pos hmint] at hle
    exact hfunded.trans hle

/-- A debit of a vault's lamports keeps its rent reserve. -/
theorem vault_rent_kept (h : exec rt ctx c w = .ok w') {vault vault' : Vault}
    (hbefore : w.data key = .vault vault)
    (hrent : rentMinimum rt (.vault vault) ≤ (w.lamports key).toNat) :
    rentMinimum rt (.vault vault') ≤ (w'.lamports key).toNat := by
  by_cases hdebit : key ∈ c.lamportDebits
  · cases exec_lamportDebit h hdebit with
    | byTransfer _ _ _ _ _ _ _ _ _ _ reserve => exact reserve
    | byLinkCreation _ _ _ _ _ _ _ _ _ _ _ _ _ _ _ reserve => exact reserve
    | bySettlement link before => exact absurd rfl (World.ne_of_data hbefore before (by simp))
  · exact hrent.trans ((exec_frame h).lamports key (by simp [hbefore]) hdebit)

theorem Solvent.step (hpda : PdaInjective rt) (hwf : WellFormed rt w) (hsolvent : Solvent rt w)
    (h : Step rt w e w') : Solvent rt w' where
  native := by
    intro key link hafter hactive hmint
    rcases active_link_origin hwf h hafter hactive with ⟨hbefore, hkept⟩ | ⟨⟨m, hm⟩,
      -⟩ | ⟨-, hfunded⟩
    · exact (hsolvent.native key link hbefore hactive hmint).step hpda h hbefore hmint hkept
    · exact absurd hmint (World.ne_of_data hm hwf.system (by simp))
    · exact hfunded
  token := by
    intro key link hafter hactive hmint
    rcases active_link_origin hwf h hafter hactive with ⟨hbefore, hkept⟩ | ⟨-,
      hfunded⟩ | ⟨hnative, -⟩
    · exact (hsolvent.token key link hbefore hactive hmint).step hpda hwf h hbefore hmint hkept
    · exact hfunded
    · exact absurd hnative hmint
  vault := by
    intro key vault hafter
    cases e with
    | env =>
      have hkept := EnvStep.not_forged h key (by rw [hafter]; rfl)
      have hbefore : w.data key = .vault vault := hkept ▸ hafter
      exact (hsolvent.vault key vault hbefore).trans
        (EnvStep.record_lamports h key (by rw [hbefore]; rfl))
    | call ctx c =>
      have hexec : exec rt ctx c w = .ok w' := h
      rcases step_record_after h hafter rfl with hbefore | ⟨_, _, before, he, hbefore, hchange⟩
      · exact vault_rent_kept hexec hbefore (hsolvent.vault key vault hbefore)
      · cases hchange with
        | vaultCreated _ action proof call vault_eq nonce_eq nonce rent => exact rent
        | vaultUsed v action key_eq use n next =>
          exact vault_rent_kept hexec hbefore (hsolvent.vault key v hbefore)

theorem solvent_of_run {start : World} {tr : List (Transition World Event)} (hpda : PdaInjective rt)
    (hgenesis : Genesis start) (hrun : Run (Step rt) start tr w) : Solvent rt w := by
  have hboth := hrun.invariant (I := fun v => WellFormed rt v ∧ Solvent rt v)
    ⟨hgenesis.wellFormed, hgenesis.solvent⟩
    (fun _ _ _ hinv h => ⟨hinv.1.step h, hinv.2.step hpda hinv.1 h⟩)
  exact hboth.2

end Steps

/-- The errors that say an escrow is short. -/
def IsInsufficient (e : ProgramError) : Prop :=
  e = .custom .insufficientEscrowLamports ∨ e = .token .insufficientFunds

/-- The six settlements of a link. -/
def Call.settles : Call → Bool
  | claimPaymentLink _ | cancelPaymentLinkWithSession _ _ | refundExpiredPaymentLink _
  | claimSolPaymentLink _ | cancelSolPaymentLinkWithPasskey _ _ | refundExpiredSolPaymentLink _ =>
    true
  | _ => false

section Failures

variable {rt : Runtime} {ctx : Context} {c : Call} {w : World}

@[simp] theorem not_insufficient_anchor (e : AnchorError) : ¬IsInsufficient (.anchor e) := by
  simp [IsInsufficient]

@[simp] theorem not_insufficient_system (e : SystemError) : ¬IsInsufficient (.system e) := by
  simp [IsInsufficient]

@[simp] theorem isInsufficient_custom (e : VeriAgentError) :
    IsInsufficient (.custom e) ↔ e = .insufficientEscrowLamports := by simp [IsInsufficient]

@[simp] theorem isInsufficient_token (e : TokenError) :
    IsInsufficient (.token e) ↔ e = .insufficientFunds := by
  simp [IsInsufficient]

theorem avoids_load {α : Type} {kind : AccountData → Option α} {key : Pubkey} :
    Avoids IsInsufficient (load kind w key) := by
  intro e h
  obtain ⟨e', rfl⟩ := load_error h
  exact not_insufficient_anchor e'

theorem avoids_requireAssociatedToken {t : TokenAccount} {key wallet mint : Pubkey} :
    Avoids IsInsufficient (requireAssociatedToken rt t key wallet mint) :=
  (Avoids.require (by simp)).bind fun _ _ => Avoids.require (by simp)

theorem avoids_requireSession {session : Session} {key vault signer : Pubkey} :
    Avoids IsInsufficient (requireSession rt session key vault signer) :=
  (Avoids.require (by simp)).bind fun _ _ => (Avoids.require (by simp)).bind
    fun _ _ => Avoids.require (by simp)

theorem avoids_requireClaimAuthority {config : ClaimAuthorityConfig} {key authority : Pubkey} :
    Avoids IsInsufficient (requireClaimAuthority rt config key authority) :=
  (Avoids.require (by simp)).bind fun _ _ => Avoids.require (by simp)

theorem avoids_useSession {now : Int64} {session : Session} {nonce : UInt64} :
    Avoids IsInsufficient (useSession now session nonce) :=
  (Avoids.require (by simp)).bind fun _ _ => (Avoids.require (by simp)).bind fun _ _ =>
    (Avoids.require (by simp)).bind fun _ _ => Avoids.require (by simp)

theorem avoids_systemTransfer {source destination : Pubkey} {amount : UInt64} :
    Avoids IsInsufficient (systemTransfer w source destination amount) :=
  (Avoids.require (by simp)).bind fun _ _ => (Avoids.orError (by simp)).bind fun _ _ =>
    (Avoids.orError (by simp)).bind fun _ _ => Avoids.ok _

theorem avoids_fundAccount {payer key : Pubkey} {space : ℕ} :
    Avoids IsInsufficient (fundAccount rt w payer key space) := by
  simp only [fundAccount]
  split
  · exact avoids_systemTransfer
  · split
    · exact avoids_systemTransfer
    · exact Avoids.ok _

theorem avoids_createAssociatedTokenIfNeeded {payer key wallet mint : Pubkey} :
    Avoids IsInsufficient (createAssociatedTokenIfNeeded rt ctx w payer key wallet mint) := by
  unfold createAssociatedTokenIfNeeded
  split
  · refine (Avoids.require (by simp)).bind fun _ _ => (Avoids.require (by simp)).bind fun _ _ => ?_
    exact (Avoids.require (by simp)).bind fun _ _ => (Avoids.require (by simp)).bind fun _ _ =>
      avoids_fundAccount.bind fun _ _ => Avoids.ok _
  · exact avoids_load.bind fun _ _ => (Avoids.require (by simp)).bind fun _ _ =>
      (Avoids.require (by simp)).bind fun _ _ => (Avoids.require (by simp)).bind
        fun _ _ => Avoids.ok _

theorem avoids_readU16 {data : Bytes} {offset : ℕ} :
    Avoids IsInsufficient (readU16 data offset) := by
  intro e h
  unfold readU16 at h
  split at h
  · cases h
  · obtain rfl := Except.error.inj h
    simp

theorem avoids_validateSecp256r1Instruction {instruction : TransactionInstruction}
    {key : FixedBytes 33} {message : Bytes} :
    Avoids IsInsufficient (validateSecp256r1Instruction instruction key message) := by
  refine (Avoids.require (by simp)).bind fun _ _ => (Avoids.require (by simp)).bind fun _ _ =>
    (Avoids.require (by simp)).bind fun _ _ => ?_
  refine avoids_readU16.bind fun _ _ => avoids_readU16.bind fun _ _ => avoids_readU16.bind
    fun _ _ =>
    avoids_readU16.bind fun _ _ => avoids_readU16.bind fun _ _ => avoids_readU16.bind fun _ _ =>
    avoids_readU16.bind fun _ _ => ?_
  exact (Avoids.require (by simp)).bind fun _ _ => (Avoids.require (by simp)).bind fun _ _ =>
    Avoids.require (by simp)

theorem avoids_validateWebauthnData {config : ProtocolConfig}
    {authenticatorData clientDataJson : Bytes} {expected : FixedBytes 32} :
    Avoids IsInsufficient
      (validateWebauthnData rt config authenticatorData clientDataJson expected) := by
  refine (Avoids.require (by simp)).bind fun _ _ => (Avoids.require (by simp)).bind fun _ _ =>
    (Avoids.require (by simp)).bind fun _ _ => (Avoids.orError (by simp)).bind fun _ _ => ?_
  exact (Avoids.require (by simp)).bind fun _ _ => (Avoids.require (by simp)).bind fun _ _ =>
    (Avoids.require (by simp)).bind fun _ _ => (Avoids.orError (by simp)).bind fun _ _ =>
    Avoids.require (by simp)

theorem avoids_authorizeRoot {config : ProtocolConfig} {now : Int64} {key : FixedBytes 33}
    {action : RootAction} {proof : RootProof} :
    Avoids IsInsufficient (authorizeRoot rt config ctx now key action proof) :=
  (Avoids.require (by simp)).bind fun _ _ => avoids_validateWebauthnData.bind fun _ _ =>
    (Avoids.require (by simp)).bind fun _ _ => (Avoids.orError (by simp)).bind fun _ _ =>
    avoids_validateSecp256r1Instruction

/-- A lamport debit that leaves the reserve in place does not fail for want of lamports. -/
theorem avoids_transferProgramLamports {source destination : Pubkey} {amount : UInt64}
    {e : VeriAgentError}
    (hfunds : rentMinimum rt (w.data source) + amount.toNat ≤ (w.lamports source).toNat) :
    Avoids IsInsufficient (transferProgramLamports rt w source destination amount e) := by
  intro e' h
  simp only [transferProgramLamports, bind_eq_error, orError_eq_error, orError_eq_ok,
    require_eq_error,
    pure_ne_error] at h
  rcases h with ⟨hnone, -⟩ | ⟨remaining, hremaining,
    ⟨hreserve, -⟩ | ⟨-, -, ⟨-, rfl⟩ | ⟨_, -, hfalse⟩⟩⟩
  · have hle : amount ≤ w.lamports source := UInt64.le_iff_toNat_le.mpr (by omega)
    simp [checkedSub, hle] at hnone
  · have hsub := toNat_checkedSub hremaining
    rw [not_not, UInt64.lt_iff_toNat_lt] at hreserve
    simp only [rentMinimum] at hfunds
    omega
  · simp
  · cases hfalse

/-- A token debit that the source covers does not fail for want of tokens. -/
theorem avoids_transferCheckedSigned {source mint destination authority : Pubkey}
    {seeds : List Bytes} {bump : UInt8} {amount : UInt64} {decimals : UInt8} {t : TokenAccount}
    (ht : w.data source = .token t) (hfunds : amount.toNat ≤ t.amount.toNat) :
    Avoids IsInsufficient
      (transferCheckedSigned rt w source mint destination authority seeds bump amount
        decimals) := by
  refine (Avoids.require (by simp)).bind fun _ _ => avoids_load.bind fun s hs => avoids_load.bind
    fun _ _ =>
    (Avoids.require (by simp)).bind fun _ _ => ?_
  rw [load_eq_ok, AccountData.token?_eq_some, ht] at hs
  obtain rfl := AccountData.token.inj hs
  have hle : amount ≤ t.amount := UInt64.le_iff_toNat_le.mpr hfunds
  refine Avoids.bind ?_ fun _ _ => (Avoids.require (by simp)).bind fun _ _ => avoids_load.bind
    fun _ _ =>
    (Avoids.require (by simp)).bind fun _ _ => (Avoids.require (by simp)).bind fun _ _ => ?_
  · intro e h
    exact absurd hle (require_eq_error.mp h).1
  · split
    · exact Avoids.ok _
    · exact (Avoids.orError (by simp)).bind fun _ _ => Avoids.ok _

/-- A settlement's token transfer out of an active link's own escrow account. -/
private theorem avoids_transferFromLink (hsolvent : Solvent rt w) {w₁ : World}
    (hframe : Frame w w₁ [] [] []) (hwf : WellFormed rt w) {key escrow destination mint : Pubkey}
    {link : PaymentLink} {decimals : UInt8} (hlink : w.data key = .link link)
    (hactive : link.status = paymentLinkStatusActive) (hmint : ∃ m, w.data mint = .mint m)
    (hlinkMint : link.mint = mint) (hescrow : associatedTokenAddress rt key mint = some escrow) :
    Avoids IsInsufficient
      (transferFromLink rt w₁ key link escrow destination mint decimals link.amount) := by
  obtain ⟨m, hm⟩ := hmint
  have hne : link.mint ≠ defaultPubkey := World.ne_of_data (hlinkMint ▸ hm) hwf.system (by simp)
  obtain ⟨account, t, haccount, ht, -, -, hamount⟩ := hsolvent.token key link hlink hactive hne
  rw [hlinkMint, hescrow] at haccount
  obtain rfl := Option.some.inj haccount
  obtain ⟨t₁, ht₁, -, -, hle⟩ := hframe.token escrow t ht
  exact avoids_transferCheckedSigned ht₁ (hamount.trans (hle (by simp)))

private theorem avoids_nativePayment (hsolvent : Solvent rt w) {key vault : Pubkey}
    {link : PaymentLink} {e : VeriAgentError} (hlink : w.data key = .link link)
    (hactive : link.status = paymentLinkStatusActive) (hnative : link.mint = defaultPubkey) :
    Avoids IsInsufficient (transferProgramLamports rt w key vault link.amount e) := by
  refine avoids_transferProgramLamports ?_
  rw [hlink]
  exact hsolvent.native key link hlink hactive hnative

theorem claimPaymentLink_funded (hwf : WellFormed rt w) (hsolvent : Solvent rt w)
    (a : ClaimPaymentLink) :
    Avoids IsInsufficient (claimPaymentLink rt ctx a w) := by
  refine (Avoids.require (by simp)).bind fun _ _ => avoids_load.bind
    fun config _ => avoids_load.bind fun _ _ =>
    avoids_load.bind fun _ _ => avoids_load.bind fun link hlink => avoids_load.bind
      fun mint hmint =>
    avoids_load.bind fun escrow _ => avoids_createAssociatedTokenIfNeeded.bind fun w₁ htoken => ?_
  refine (Avoids.require (by simp)).bind fun _ _ => (Avoids.require (by simp)).bind fun _ _ =>
    (Avoids.require (by simp)).bind fun _ _ => avoids_requireClaimAuthority.bind fun _ _ =>
    (Avoids.require (by simp)).bind fun _ _ => (Avoids.require (by simp)).bind fun _ _ =>
    (Avoids.require (by simp)).bind fun _ hlinkMint => (Avoids.require (by simp)).bind fun _ _ =>
    avoids_requireAssociatedToken.bind fun _ hescrow => (Avoids.require (by simp)).bind
      fun _ hactive =>
    (Avoids.require (by simp)).bind fun _ _ => ?_
  simp only [load_eq_ok, AccountData.link?_eq_some, AccountData.mint?_eq_some] at hlink hmint
  rw [requireAssociatedToken_eq_ok] at hescrow
  exact (avoids_transferFromLink hsolvent (createAssociatedTokenIfNeeded_frame htoken).1 hwf hlink
    (requireActiveLink_eq_ok.mp hactive) ⟨mint, hmint⟩ (requireLinkMint_eq_ok.mp hlinkMint)
    hescrow.2).bind fun _ _ => Avoids.ok _

theorem cancelPaymentLinkWithSession_funded (hwf : WellFormed rt w) (hsolvent : Solvent rt w)
    (a : CancelPaymentLinkWithSession) (args : CancelPaymentLinkWithSessionArgs) :
    Avoids IsInsufficient (cancelPaymentLinkWithSession rt ctx a args w) := by
  refine avoids_load.bind fun config _ => avoids_load.bind fun _ _ => avoids_load.bind fun _ _ =>
    (Avoids.require (by simp)).bind fun _ _ => avoids_load.bind fun link hlink =>
    avoids_load.bind fun mint hmint => avoids_load.bind fun escrow _ => avoids_load.bind
      fun _ _ => ?_
  refine (Avoids.require (by simp)).bind fun _ _ => (Avoids.require (by simp)).bind fun _ _ =>
    (Avoids.require (by simp)).bind fun _ _ => avoids_requireSession.bind fun _ _ =>
    (Avoids.require (by simp)).bind fun _ _ => (Avoids.require (by simp)).bind fun _ _ =>
    (Avoids.require (by simp)).bind fun _ hlinkMint => (Avoids.require (by simp)).bind fun _ _ =>
    avoids_requireAssociatedToken.bind fun _ hescrow => avoids_requireAssociatedToken.bind
      fun _ _ =>
    (Avoids.require (by simp)).bind fun _ hactive => avoids_useSession.bind fun _ _ =>
    (Avoids.orError (by simp)).bind fun _ _ => ?_
  simp only [load_eq_ok, AccountData.link?_eq_some, AccountData.mint?_eq_some] at hlink hmint
  rw [requireAssociatedToken_eq_ok] at hescrow
  exact (avoids_transferFromLink hsolvent (Frame.refl w) hwf hlink
    (requireActiveLink_eq_ok.mp hactive)
    ⟨mint, hmint⟩ (requireLinkMint_eq_ok.mp hlinkMint) hescrow.2).bind fun _ _ => Avoids.ok _

theorem refundExpiredPaymentLink_funded (hwf : WellFormed rt w) (hsolvent : Solvent rt w)
    (a : RefundExpiredPaymentLink) : Avoids IsInsufficient (refundExpiredPaymentLink rt a w) := by
  refine avoids_load.bind fun config _ => avoids_load.bind fun _ _ => avoids_load.bind
    fun link hlink =>
    avoids_load.bind fun mint hmint => avoids_load.bind fun escrow _ => avoids_load.bind
      fun _ _ => ?_
  refine (Avoids.require (by simp)).bind fun _ _ => (Avoids.require (by simp)).bind fun _ _ =>
    (Avoids.require (by simp)).bind fun _ _ => (Avoids.require (by simp)).bind fun _ _ =>
    (Avoids.require (by simp)).bind fun _ hlinkMint => (Avoids.require (by simp)).bind fun _ _ =>
    avoids_requireAssociatedToken.bind fun _ hescrow => avoids_requireAssociatedToken.bind
      fun _ _ =>
    (Avoids.require (by simp)).bind fun _ hactive => (Avoids.require (by simp)).bind fun _ _ => ?_
  simp only [load_eq_ok, AccountData.link?_eq_some, AccountData.mint?_eq_some] at hlink hmint
  rw [requireAssociatedToken_eq_ok] at hescrow
  exact (avoids_transferFromLink hsolvent (Frame.refl w) hwf hlink
    (requireActiveLink_eq_ok.mp hactive)
    ⟨mint, hmint⟩ (requireLinkMint_eq_ok.mp hlinkMint) hescrow.2).bind fun _ _ => Avoids.ok _

theorem claimSolPaymentLink_funded (hsolvent : Solvent rt w) (a : ClaimSolPaymentLink) :
    Avoids IsInsufficient (claimSolPaymentLink rt ctx a w) := by
  refine (Avoids.require (by simp)).bind fun _ _ => avoids_load.bind
    fun config _ => avoids_load.bind fun _ _ =>
    avoids_load.bind fun _ _ => avoids_load.bind fun link hlink => ?_
  refine (Avoids.require (by simp)).bind fun _ _ => (Avoids.require (by simp)).bind fun _ _ =>
    avoids_requireClaimAuthority.bind fun _ _ => (Avoids.require (by simp)).bind fun _ _ =>
    (Avoids.require (by simp)).bind fun _ _ => (Avoids.require (by simp)).bind fun _ hnative =>
    (Avoids.require (by simp)).bind fun _ hactive => (Avoids.require (by simp)).bind fun _ _ => ?_
  rw [load_eq_ok, AccountData.link?_eq_some] at hlink
  exact (avoids_nativePayment hsolvent hlink (requireActiveLink_eq_ok.mp hactive)
    (requireNativeLink_eq_ok.mp hnative)).bind fun _ _ => Avoids.ok _

theorem cancelSolPaymentLinkWithPasskey_funded (hsolvent : Solvent rt w)
    (a : CancelSolPaymentLinkWithPasskey) (args : CancelSolPaymentLinkWithPasskeyArgs) :
    Avoids IsInsufficient (cancelSolPaymentLinkWithPasskey rt ctx a args w) := by
  refine (Avoids.require (by simp)).bind fun _ _ => avoids_load.bind
    fun config _ => avoids_load.bind fun _ _ =>
    avoids_load.bind fun link hlink => ?_
  refine (Avoids.require (by simp)).bind fun _ _ => (Avoids.require (by simp)).bind fun _ _ =>
    (Avoids.require (by simp)).bind fun _ _ => (Avoids.require (by simp)).bind fun _ _ =>
    (Avoids.require (by simp)).bind fun _ _ => (Avoids.require (by simp)).bind fun _ hnative =>
    (Avoids.require (by simp)).bind fun _ hactive => (Avoids.require (by simp)).bind fun _ _ =>
    avoids_authorizeRoot.bind fun _ _ => (Avoids.orError (by simp)).bind fun _ _ => ?_
  rw [load_eq_ok, AccountData.link?_eq_some] at hlink
  exact (avoids_nativePayment hsolvent hlink (requireActiveLink_eq_ok.mp hactive)
    (requireNativeLink_eq_ok.mp hnative)).bind fun _ _ => Avoids.ok _

theorem refundExpiredSolPaymentLink_funded (hsolvent : Solvent rt w)
    (a : RefundExpiredSolPaymentLink) :
    Avoids IsInsufficient (refundExpiredSolPaymentLink rt a w) := by
  refine avoids_load.bind fun config _ => avoids_load.bind fun _ _ => avoids_load.bind
    fun link hlink => ?_
  refine (Avoids.require (by simp)).bind fun _ _ => (Avoids.require (by simp)).bind fun _ _ =>
    (Avoids.require (by simp)).bind fun _ _ => (Avoids.require (by simp)).bind fun _ _ =>
    (Avoids.require (by simp)).bind fun _ hnative => (Avoids.require (by simp)).bind
      fun _ hactive =>
    (Avoids.require (by simp)).bind fun _ _ => ?_
  rw [load_eq_ok, AccountData.link?_eq_some] at hlink
  exact (avoids_nativePayment hsolvent hlink (requireActiveLink_eq_ok.mp hactive)
    (requireNativeLink_eq_ok.mp hnative)).bind fun _ _ => Avoids.ok _

/-- In every reachable ledger the reserves hold, and no settlement fails for a short escrow. -/
theorem escrow_solvent {start : World} {tr : List (Transition World Event)} (hpda : PdaInjective rt)
    (hgenesis : Genesis start) (hrun : Run (Step rt) start tr w) :
    (∀ key link, w.data key = .link link → link.status = paymentLinkStatusActive →
      if link.mint = defaultPubkey then NativeFunded rt w key link else TokenFunded rt w key link) ∧
    (∀ key vault, w.data key = .vault vault →
      rentMinimum rt (.vault vault) ≤ (w.lamports key).toNat) ∧
    ∀ ctx c e, c.settles = true → exec rt ctx c w = .error e → ¬IsInsufficient e := by
  have hwf := wellFormed_of_run hgenesis hrun
  have hsolvent := solvent_of_run hpda hgenesis hrun
  refine ⟨?_, hsolvent.vault, ?_⟩
  · intro key link hlink hactive
    split
    · rename_i hmint
      exact hsolvent.native key link hlink hactive hmint
    · rename_i hmint
      exact hsolvent.token key link hlink hactive hmint
  · intro ctx c e hsettles h
    cases c with
    | claimPaymentLink a => exact claimPaymentLink_funded hwf hsolvent a e h
    | cancelPaymentLinkWithSession a args =>
      exact cancelPaymentLinkWithSession_funded hwf hsolvent a args e h
    | refundExpiredPaymentLink a => exact refundExpiredPaymentLink_funded hwf hsolvent a e h
    | claimSolPaymentLink a => exact claimSolPaymentLink_funded hsolvent a e h
    | cancelSolPaymentLinkWithPasskey a args =>
      exact cancelSolPaymentLinkWithPasskey_funded hsolvent a args e h
    | refundExpiredSolPaymentLink a => exact refundExpiredSolPaymentLink_funded hsolvent a e h
    | _ => cases hsettles

theorem escrow_solvent_devnet : ∃ tr w link, Run (Step Devnet.runtime) Devnet.genesis tr w ∧
    w.data Devnet.solLink = .link link ∧ NativeFunded Devnet.runtime w Devnet.solLink link := by
  obtain ⟨tr, w, hrun, hw⟩ := Devnet.reached 5
    (p := fun _ w => (w.data Devnet.solLink).link?.any
      fun link => link.status = 0 ∧ link.mint = defaultPubkey)
    (by decide +kernel)
  obtain ⟨link, hlink, hvalues⟩ := (Option.any_eq_true _ _).mp hw
  obtain ⟨hstatus, hmint⟩ := of_decide_eq_true hvalues
  rw [AccountData.link?_eq_some] at hlink
  have hfunded :=
    (escrow_solvent Devnet.pdaInjective Devnet.genesis_fresh hrun).1 _ link hlink hstatus
  rw [if_pos hmint] at hfunded
  exact ⟨tr, w, link, hrun, hlink, hfunded⟩

end Failures

end VeriAgentPay
