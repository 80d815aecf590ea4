import VeriAgentPay.LedgerFrames
import VeriAgentPay.PaymentLinkInstructions

/-!
# What each instruction does when it succeeds

One theorem for each instruction: the authorization it checked, the records it read and
wrote, the value it moved, and the frame outside of these. Nothing later unfolds an
instruction again, except to ask which errors it can return.
-/

namespace VeriAgentPay
open FixedWidth CheckedOutcome

/-- A root proof for `action` was accepted under a root key. -/
structure RootVerified (rt : Runtime) (ctx : Context) (w : World) (rootPublicKey : FixedBytes 33)
    (action : RootAction) (proof : RootProof) (config : ProtocolConfig) : Prop where
  config_at : w.data action.scope.config = .config config
  scope_eq : action.scope = scopeOf rt config action.scope.config
  accepted : authorizeRoot rt config ctx w.now rootPublicKey action proof = .ok ()

/-- A root action was verified for a vault that exists, and consumed its nonce. -/
structure RootUse (rt : Runtime) (ctx : Context) (w w' : World) (action : RootAction)
    (proof : RootProof) (config : ProtocolConfig) (vault : Vault) : Prop where
  verified : RootVerified rt ctx w vault.rootPublicKey action proof config
  before : w.data action.vault = .vault vault
  nonce_eq : action.consumedNonce = some vault.nonce
  after : ∃ n : UInt64, n.toNat = vault.nonce.toNat + 1 ∧
    w'.data action.vault = .vault { vault with nonce := n }

/-- A vault was created by a root proof under the key it stores. -/
structure VaultCreated (rt : Runtime) (ctx : Context) (w w' : World) (key : Pubkey)
    (action : RootAction) (proof : RootProof) (config : ProtocolConfig) (vault : Vault) : Prop where
  verified : RootVerified rt ctx w vault.rootPublicKey action proof config
  vault_eq : action.vault = key
  nonce_eq : action.consumedNonce = none
  fresh : w.data key = .empty
  after : w'.data key = .vault vault
  rent : (rt.minimumBalance (AccountData.vault vault).dataLen).toNat ≤ (w'.lamports key).toNat

/-- A session was used by its own key inside its window, at its current nonce. -/
structure SessionUse (ctx : Context) (w w' : World) (key vault : Pubkey) (session : Session)
    (amount : ℕ) (sessionNonce : UInt64) : Prop where
  before : w.data key = .session session
  vault_eq : session.vault = vault
  nonce_eq : session.nonce = sessionNonce
  signed : session.publicKey ∈ ctx.signers
  not_revoked : session.revoked = false
  opened : session.validAfter ≤ w.now
  not_closed : w.now ≤ session.validUntil
  allowed : session.actionBitmap &&& sessionActionTransfer ≠ 0
  after : ∃ spent nonce : UInt64, spent.toNat = session.spent.toNat + amount ∧
    nonce.toNat = session.nonce.toNat + 1 ∧
    w'.data key = .session { session with spent := spent, nonce := nonce }

/-- The policy lets `amount` leave the vault now. -/
structure PolicyAdmits (session : Session) (amount : ℕ) : Prop where
  positive : 0 < amount
  per_action : amount ≤ session.perActionLimit.toNat
  cumulative : session.spent.toNat + amount ≤ session.cumulativeLimit.toNat

/-- A session was created under a policy that passed its validation. -/
structure SessionCreated (w w' : World) (key vault : Pubkey) (policy : SessionPolicy) : Prop where
  fresh : w.data key = .empty
  valid : validateSessionPolicy policy = .ok ()
  after : ∃ bump, w'.data key = .session (writeSession bump vault policy)

/-- An active link took another record. -/
structure LinkSettled (w w' : World) (key : Pubkey) (link link' : PaymentLink) : Prop where
  before : w.data key = .link link
  active : link.status = paymentLinkStatusActive
  after : w'.data key = .link link'

/-- A link was created, active, by its sender vault. -/
structure LinkCreated (rt : Runtime) (w w' : World) (key vault mint : Pubkey)
    (linkId recipientCommitment : FixedBytes 32) (amount : UInt64) (expiresAt : Int64) : Prop where
  fresh : w.data key = .empty
  positive : 0 < amount.toNat
  address : ∃ bump, findProgramAddress rt rt.programId (paymentLinkSeeds vault linkId) = some
    (key, bump)
  after : ∃ bump, w'.data key =
    .link (newPaymentLink bump vault mint linkId recipientCommitment amount expiresAt w.now)

/-- The token escrow of a link paid the whole amount to the vault's token account. -/
def TokenEscrowPaid (rt : Runtime) (w w' : World) (key vault : Pubkey)
    (link : PaymentLink) : Prop :=
  (∃ m, w.data link.mint = .mint m) ∧ ∃ escrow destination,
    associatedTokenAddress rt key link.mint = some escrow ∧
    associatedTokenAddress rt vault link.mint = some destination ∧
    TokenFlow w w' escrow destination link.amount.toNat

/-- The lamport escrow of a native link paid the whole amount to the vault. -/
def NativeEscrowPaid (w w' : World) (key vault : Pubkey) (link : PaymentLink) : Prop :=
  link.mint = defaultPubkey ∧ LamportFlow w w' key vault link.amount.toNat

/-- The signer named by a claim-authority record at its address signed the call. -/
def ClaimSigned (rt : Runtime) (ctx : Context) (w : World) : Prop :=
  ∃ key c, w.data key = .claimAuthority c ∧ c.authority ∈ ctx.signers ∧
    rt.createProgramAddress rt.programId ([claimAuthoritySeed].flatten ++ [c.bump]) = some key

section Checks

variable {rt : Runtime} {ctx : Context} {now : Int64}

@[simp] theorem requireSigner_eq_ok {key : Pubkey} {u : Unit} :
    requireSigner ctx key = .ok u ↔ key ∈ ctx.signers := require_eq_ok

@[simp] theorem requireStablecoinAddress_eq_ok {config : ProtocolConfig} {mint : Pubkey}
    {u : Unit} :
    requireStablecoinAddress config mint = .ok u ↔ mint = config.stablecoinMint := require_eq_ok

@[simp] theorem requireLinkSender_eq_ok {link : PaymentLink} {vault : Pubkey} {u : Unit} :
    requireLinkSender link vault = .ok u ↔ link.senderVault = vault := require_eq_ok

@[simp] theorem requireLinkMint_eq_ok {link : PaymentLink} {mint : Pubkey} {u : Unit} :
    requireLinkMint link mint = .ok u ↔ link.mint = mint := require_eq_ok

@[simp] theorem requireNativeLink_eq_ok {link : PaymentLink} {u : Unit} :
    requireNativeLink link = .ok u ↔ link.mint = defaultPubkey := require_eq_ok

@[simp] theorem requireActiveLink_eq_ok {link : PaymentLink} {u : Unit} :
    requireActiveLink link = .ok u ↔ link.status = paymentLinkStatusActive := require_eq_ok

theorem nextNonce_ok {nonce n : UInt64} (h : nextNonce nonce = .ok n) :
    n.toNat = nonce.toNat + 1 := by
  rw [nextNonce, orError_eq_ok] at h
  simpa using toNat_checkedAdd h

/-- The session account belongs to the vault and to the signer. -/
theorem requireSession_ok {session : Session} {key vault signer : Pubkey} {u : Unit}
    (h : requireSession rt session key vault signer = .ok u) :
    session.vault = vault ∧ session.publicKey = signer := by
  simp only [requireSession, bind_eq_ok, require_eq_ok, exists_const] at h
  obtain ⟨-, -, hvault, hsigner⟩ := h
  exact ⟨hvault, hsigner⟩

theorem useSession_ok {session : Session} {nonce : UInt64} {u : Unit}
    (h : useSession now session nonce = .ok u) :
    session.revoked = false ∧ session.validAfter ≤ now ∧ now ≤ session.validUntil ∧
      session.actionBitmap &&& sessionActionTransfer ≠ 0 ∧ session.nonce = nonce := by
  simp only [useSession, bind_eq_ok, require_eq_ok, exists_const] at h
  obtain ⟨hrevoked, hwindow, hallowed, hnonce⟩ := h
  exact ⟨hrevoked, hwindow.1, hwindow.2, hallowed, hnonce⟩

theorem spendFromSession_ok {session session' : Session} {amount nonce : UInt64}
    (h : spendFromSession now session amount nonce = .ok session') :
    useSession now session nonce = .ok () ∧ amount.toNat ≤ session.perActionLimit.toNat ∧
      session.spent.toNat + amount.toNat ≤ session.cumulativeLimit.toNat ∧
      ∃ spent n : UInt64, spent.toNat = session.spent.toNat + amount.toNat ∧
        n.toNat = session.nonce.toNat + 1 ∧
        session' = { session with spent := spent, nonce := n } := by
  simp only [spendFromSession, bind_eq_ok, require_eq_ok, orError_eq_ok, pure_eq_ok,
    exists_unit] at h
  obtain ⟨huse, hlimit, spent, hspent, hcumulative, n, hn, rfl⟩ := h
  rw [UInt64.le_iff_toNat_le] at hlimit hcumulative
  rw [toNat_checkedAdd hspent] at hcumulative
  exact ⟨huse, hlimit, hcumulative, spent, n, toNat_checkedAdd hspent, nextNonce_ok hn, rfl⟩

/-- The window of a valid policy is at most thirty days, also where the difference saturates. -/
theorem validateSessionPolicy_ok {policy : SessionPolicy} {u : Unit}
    (h : validateSessionPolicy policy = .ok u) :
    policy.validUntil.toInt - policy.validAfter.toInt ≤ 2592000 ∧ policy.actionBitmap ≠ 0 ∧
      0 < policy.perActionLimit.toNat ∧
      policy.perActionLimit.toNat ≤ policy.cumulativeLimit.toNat := by
  simp only [validateSessionPolicy, bind_eq_ok, require_eq_ok, exists_const] at h
  obtain ⟨⟨-, hwindow⟩, ⟨hbitmap, -⟩, hpositive, hle⟩ := h
  refine ⟨sub_le_of_saturatingSub_le hwindow (by decide), hbitmap, ?_,
    UInt64.le_iff_toNat_le.mp hle⟩
  simpa [UInt64.lt_iff_toNat_lt] using hpositive

end Checks

section Wallet

variable {rt : Runtime} {ctx : Context} {w w' : World}

theorem initializeProtocol_ok {a : InitializeProtocol} {args : InitializeProtocolArgs}
    (h : initializeProtocol rt ctx a args w = .ok w') :
    w.data a.config = .empty ∧ (∃ config, w'.data a.config = .config config) ∧
    Frame w w' [a.config] [] [] := by
  simp only [initializeProtocol, bind_eq_ok, load_eq_ok] at h
  obtain ⟨-, -, h⟩ := h
  obtain ⟨bump, -, -, hcreated⟩ := initAccount_ok h
  exact ⟨hcreated.fresh, ⟨_, hcreated.at_key⟩, hcreated.frame (by simp)⟩

/-- `init_if_needed` of a token account touches no record and moves no token. -/
theorem createAssociatedTokenIfNeeded_frame {payer key wallet mint : Pubkey}
    (h : createAssociatedTokenIfNeeded rt ctx w payer key wallet mint = .ok w') :
    Frame w w' [] [] [] ∧ TokensKept w w' := by
  obtain ⟨-, hcreated | ⟨rfl, -⟩⟩ := createAssociatedTokenIfNeeded_ok h
  · refine ⟨hcreated.frame_token, hcreated.tokensKept ?_⟩
    intro t ht
    rw [← AccountData.token.inj ht]
  · exact ⟨Frame.refl w', TokensKept.refl w'⟩

theorem initializeVault_ok {a : InitializeVault} {args : InitializeVaultArgs}
    (h : initializeVault rt ctx a args w = .ok w') :
    ∃ config vault, VaultCreated rt ctx w w' a.vault
        (.initializeVault
          (scopeOf rt config a.config) a.vault a.vaultTokenAccount args.rootPublicKey
          args.rootKeyHash args.userSalt args.proofExpiresAt) args.toRootProof config vault ∧
      vault.nonce = 0 ∧
      associatedTokenAddress rt a.vault a.stablecoinMint = some a.vaultTokenAccount ∧
      config.stablecoinMint = a.stablecoinMint ∧ Frame w w' [a.vault] [] [] := by
  simp only [initializeVault, bind_eq_ok, load_eq_ok, AccountData.config?_eq_some, require_eq_ok,
    requireStablecoinAddress_eq_ok, pure_eq_ok, exists_unit] at h
  obtain ⟨config, hconfig, -, -, w₁, hinit, w₂, htoken, -, -, -, hmint, -, hroot, rfl⟩ := h
  obtain ⟨bump, -, -, hcreated⟩ := initAccount_ok hinit
  have haddress := (createAssociatedTokenIfNeeded_ok htoken).1
  have hframe := (createAssociatedTokenIfNeeded_frame htoken).1
  have hvault := hcreated.at_key
  refine ⟨config, newVault bump args.rootPublicKey args.rootKeyHash args.userSalt 0 w.now,
    ⟨⟨hconfig, rfl, hroot⟩, rfl, rfl, hcreated.fresh, ?_, ?_⟩, rfl, haddress, hmint.symm,
    (hcreated.frame (by simp)).trans hframe⟩
  · rw [hframe.record_kept (by simp) (by rw [hvault]; rfl), hvault]
  · exact hcreated.rent.trans (hframe.lamports _ (by simp [hvault]) (by simp))

theorem grantSession_ok {a : GrantSession} {args : GrantSessionArgs}
    (h : grantSession rt ctx a args w = .ok w') :
    ∃ config vault, RootUse rt ctx w w'
        (.grantSession (scopeOf rt config a.config) a.vault a.session args.toSessionPolicy
          args.vaultNonce
          args.proofExpiresAt) args.toRootProof config vault ∧
      SessionCreated w w' a.session a.vault args.toSessionPolicy ∧
      (∃ bump, findProgramAddress rt rt.programId (sessionSeeds a.vault args.sessionPublicKey) =
        some (a.session, bump)) ∧
      TokensKept w w' ∧ Frame w w' [a.session, a.vault] [] [] := by
  simp only [grantSession_eq, bind_eq_ok, load_eq_ok, AccountData.config?_eq_some,
    AccountData.vault?_eq_some,
    require_eq_ok, pure_eq_ok, exists_unit] at h
  obtain ⟨config, hconfig, vault, hvault, w₁, hinit, -, -, -, hnonce, hpolicy, hroot, n, hn, rfl⟩ :=
    h
  obtain ⟨bump, hfind, -, hcreated⟩ := initAccount_ok hinit
  have hne : a.vault ≠ a.session := World.ne_of_data hvault hcreated.fresh (by simp)
  have hvault₁ : w₁.data a.vault = .vault vault := by
    rw [hcreated.data_eq, Function.update_of_ne hne, hvault]
  refine ⟨config, vault, ⟨⟨hconfig, rfl, hroot⟩, hvault, congrArg some hnonce.symm, n,
    nextNonce_ok hn, ?_⟩, ⟨hcreated.fresh, hpolicy, bump, ?_⟩, ⟨bump, hfind⟩, ?_, ?_⟩
  · simp [RootAction.vault]
  · simp [hne.symm, hcreated.data_eq]
  · exact (hcreated.tokensKept (by simp)).trans
      (tokensKept_setData (by simp [hvault₁, AccountData.token?]) rfl)
  · exact (hcreated.frame (by simp)).trans
      (frame_setData (by simp [hvault₁, AccountData.programOwned]) (by simp))

theorem initializeVaultAndGrantSession_ok {a : InitializeVaultAndGrantSession}
    {args : InitializeVaultAndGrantSessionArgs}
    (h : initializeVaultAndGrantSession rt ctx a args w = .ok w') :
    ∃ config vault, VaultCreated rt ctx w w' a.vault
        (.initializeVaultAndGrantSession
          (scopeOf rt config a.config) a.vault a.session a.vaultTokenAccount
          a.stablecoinMint args.rootPublicKey args.rootKeyHash args.userSalt args.toSessionPolicy
          args.proofExpiresAt) args.toRootProof config vault ∧
      vault.nonce = 1 ∧ SessionCreated w w' a.session a.vault args.toSessionPolicy ∧
      Frame w w' [a.vault, a.session] [] [] := by
  simp only [initializeVaultAndGrantSession, bind_eq_ok, load_eq_ok, AccountData.config?_eq_some,
    require_eq_ok, pure_eq_ok, exists_unit] at h
  obtain ⟨config, hconfig, -, -, w₁, hinit, w₂, hinit', w₃, htoken, -, -, -, -, -, hpolicy,
    hroot, rfl⟩ := h
  obtain ⟨bump, -, -, hcreated⟩ := initAccount_ok hinit
  obtain ⟨bump', -, -, hcreated'⟩ := initAccount_ok hinit'
  have hframe := (createAssociatedTokenIfNeeded_frame htoken).1
  have hne : a.session ≠ a.vault := World.ne_of_data hcreated'.fresh hcreated.at_key (by simp)
  have hsessionFresh : w.data a.session = .empty := by
    have hfresh := hcreated'.fresh
    rwa [hcreated.data_eq, Function.update_of_ne hne] at hfresh
  have hvault := hcreated.at_key
  have hvault₂ : w₂.data a.vault = w₁.data a.vault := by
    rw [hcreated'.data_eq, Function.update_of_ne hne.symm]
  have hsession := hcreated'.at_key
  refine ⟨config, newVault bump args.rootPublicKey args.rootKeyHash args.userSalt 1 w.now,
    ⟨⟨hconfig, rfl, hroot⟩, rfl, rfl, hcreated.fresh, ?_, ?_⟩, rfl,
    ⟨hsessionFresh, hpolicy, bump', ?_⟩,
    ((hcreated.frame (by simp)).trans (hcreated'.frame (by simp))).trans hframe⟩
  · rw [hframe.record_kept (by simp) (by rw [hvault₂, hvault]; rfl), hvault₂, hvault]
  · have hlamports := (hcreated'.frame (by simp)).lamports a.vault (by simp [hvault]) (by simp)
    exact (hcreated.rent.trans hlamports).trans
      (hframe.lamports _ (by simp [hvault₂, hvault]) (by simp))
  · rw [hframe.record_kept (by simp) (by rw [hsession]; rfl), hsession]

/-- Tokens moved by a CPI that one of this program's addresses signs. -/
theorem transferCheckedSigned_effect {source mint destination authority : Pubkey}
    {signerSeeds : List Bytes} {bump : UInt8} {amount : UInt64} {decimals : UInt8}
    (hne : source ≠ destination)
    (h : transferCheckedSigned rt w source mint destination authority signerSeeds bump amount
      decimals =
      .ok w') :
    TokenFlow w w' source destination amount.toNat ∧ Frame w w' [] [source] [] := by
  obtain ⟨s, d, hmoved⟩ := transferCheckedSigned_ok hne h
  exact ⟨hmoved.flow hne, hmoved.frame⟩

theorem transferWithPasskey_ok {a : TransferWithPasskey} {args : PasskeyTransferArgs}
    (h : transferWithPasskey rt ctx a args w = .ok w') :
    ∃ config vault, RootUse rt ctx w w'
        (.transfer (scopeOf rt config a.config) a.vault a.vaultTokenAccount
          a.destinationTokenAccount
          a.stablecoinMint args.amount args.vaultNonce args.proofExpiresAt) args.toRootProof
            config vault ∧
      associatedTokenAddress rt a.vault a.stablecoinMint = some a.vaultTokenAccount ∧
      TokenFlow w w' a.vaultTokenAccount a.destinationTokenAccount args.amount.toNat ∧
      Frame w w' [a.vault] [a.vaultTokenAccount] [] := by
  simp only [transferWithPasskey, bind_eq_ok, load_eq_ok, AccountData.config?_eq_some,
    AccountData.vault?_eq_some, require_eq_ok, requireAssociatedToken_eq_ok, pure_eq_ok,
    exists_unit] at h
  obtain ⟨-, config, hconfig, vault, hvault, mint, -, vaultToken, -, destinationToken, -, -,
    -, -, -, -,
    ⟨-, haddress⟩, -, -, hne, hnonce, hroot, n, hn, w₁, htransfer, rfl⟩ := h
  obtain ⟨hflow, hframe⟩ := transferCheckedSigned_effect hne htransfer
  have hvault₁ : w₁.data a.vault = .vault vault := by
    rw [hframe.record_kept (by simp) (by rw [hvault]; rfl), hvault]
  refine ⟨config, vault, ⟨⟨hconfig, rfl, hroot⟩, hvault, congrArg some hnonce.symm, n,
    nextNonce_ok hn, ?_⟩, haddress, ?_, ?_⟩
  · simp [RootAction.vault]
  · exact hflow.before_kept (tokensKept_setData (by simp [hvault₁, AccountData.token?]) rfl)
  · exact hframe.trans (frame_setData (by simp [hvault₁, AccountData.programOwned]) (by simp))

theorem transferWithSession_ok {a : TransferWithSession} {args : SessionTransferArgs}
    (h : transferWithSession rt ctx a args w = .ok w') :
    ∃ session, SessionUse ctx w w' a.session a.vault session args.amount.toNat
        args.sessionNonce ∧ PolicyAdmits session args.amount.toNat ∧
        (∃ v, w.data a.vault = .vault v) ∧
      associatedTokenAddress rt a.vault a.stablecoinMint = some a.vaultTokenAccount ∧
      TokenFlow w w' a.vaultTokenAccount a.destinationTokenAccount args.amount.toNat ∧
      Frame w w' [a.session] [a.vaultTokenAccount] [] := by
  simp only [transferWithSession, bind_eq_ok, load_eq_ok, AccountData.vault?_eq_some,
    AccountData.session?_eq_some, require_eq_ok, requireSigner_eq_ok, requireAssociatedToken_eq_ok,
    pure_eq_ok, exists_unit] at h
  obtain ⟨config, -, vault, hvaultData, session, hsession, hsigner, mint, -, vaultToken, -,
    destinationToken, -,
    -, -, -, -, hchecks, -, ⟨-, haddress⟩, -, hpositive, hne, session', hspend, w₁,
    htransfer, rfl⟩ := h
  obtain ⟨hvault, hkey⟩ := requireSession_ok hchecks
  obtain ⟨huse, hlimit, hcumulative, spent, n, hspent, hn, rfl⟩ := spendFromSession_ok hspend
  obtain ⟨hrevoked, hopened, hclosed, hallowed, hnonce⟩ := useSession_ok huse
  obtain ⟨hflow, hframe⟩ := transferCheckedSigned_effect hne htransfer
  have hsession₁ : w₁.data a.session = .session session := by
    rw [hframe.record_kept (by simp) (by rw [hsession]; rfl), hsession]
  refine ⟨session,
    ⟨hsession, hvault, hnonce, hkey ▸ hsigner, hrevoked, hopened, hclosed, hallowed, spent, n,
    hspent, hn, ?_⟩,
    ⟨?_, hlimit, hcumulative⟩, ⟨vault, hvaultData⟩, haddress, ?_, ?_⟩
  · simp
  · simpa [UInt64.lt_iff_toNat_lt] using hpositive
  · exact hflow.before_kept (tokensKept_setData (by simp [hsession₁, AccountData.token?]) rfl)
  · exact hframe.trans (frame_setData (by simp [hsession₁, AccountData.programOwned]) (by simp))

theorem transferSolWithPasskey_ok {a : TransferSolWithPasskey} {args : SolPasskeyTransferArgs}
    (h : transferSolWithPasskey rt ctx a args w = .ok w') :
    ∃ config vault, RootUse rt ctx w w'
        (.transferSol (scopeOf rt config a.config) a.vault a.recipient args.amount args.vaultNonce
          args.proofExpiresAt) args.toRootProof config vault ∧
      LamportFlow w w' a.vault a.recipient args.amount.toNat ∧
      (rt.minimumBalance (AccountData.vault vault).dataLen).toNat ≤ (w'.lamports a.vault).toNat ∧
      Frame w w' [a.vault] [] [a.vault] := by
  simp only [transferSolWithPasskey, bind_eq_ok, load_eq_ok, AccountData.config?_eq_some,
    AccountData.vault?_eq_some, require_eq_ok, pure_eq_ok, exists_unit] at h
  obtain ⟨-, config, hconfig, vault, hvault, -, -, -, -, hne, hnonce, hroot, n, hn, w₁,
    htransfer, rfl⟩ := h
  have hmoved := transferProgramLamports_ok hne htransfer
  have hvault₁ : w₁.data a.vault = .vault vault := by rw [hmoved.data_eq, hvault]
  refine ⟨config, vault, ⟨⟨hconfig, rfl, hroot⟩, hvault, congrArg some hnonce.symm, n,
    nextNonce_ok hn, ?_⟩, ⟨hne, hmoved.source_eq, hmoved.destination_eq⟩, ?_, ?_⟩
  · simp [RootAction.vault]
  · have hreserve := hmoved.reserve
    rwa [hvault] at hreserve
  · exact hmoved.frame.trans (frame_setData (by simp [hvault₁, AccountData.programOwned]) (by simp))

end Wallet

section PaymentLinks

variable {rt : Runtime} {ctx : Context} {w w' : World}

theorem initializeClaimAuthority_ok {a : InitializeClaimAuthority}
    {args : InitializeClaimAuthorityArgs} (h : initializeClaimAuthority rt ctx a args w = .ok w') :
    w.data a.claimAuthorityConfig = .empty ∧
      (∃ c, w'.data a.claimAuthorityConfig = .claimAuthority c ∧
        findProgramAddress rt rt.programId [claimAuthoritySeed] = some (a.claimAuthorityConfig,
          c.bump)) ∧
      Frame w w' [a.claimAuthorityConfig] [] [] := by
  simp only [initializeClaimAuthority, bind_eq_ok, require_eq_ok, pure_eq_ok, exists_unit] at h
  obtain ⟨config, -, w₁, hinit, -, -, -, rfl⟩ := h
  obtain ⟨bump, hfind, -, hcreated⟩ := initAccount_ok hinit
  exact ⟨hcreated.fresh, ⟨_, hcreated.at_key, hfind⟩, hcreated.frame (by simp)⟩

theorem requireClaimAuthority_ok {c : ClaimAuthorityConfig} {key claimAuthority : Pubkey} {u : Unit}
    (h : requireClaimAuthority rt c key claimAuthority = .ok u) :
    c.authority = claimAuthority ∧
      rt.createProgramAddress rt.programId ([claimAuthoritySeed].flatten ++ [c.bump]) =
        some key := by
  simp only [requireClaimAuthority, requireSeeds, bind_eq_ok, require_eq_ok, exists_const] at h
  exact ⟨h.2, h.1⟩

theorem createPaymentLinkWithSession_ok {a : CreatePaymentLinkWithSession}
    {args : CreatePaymentLinkWithSessionArgs}
    (h : createPaymentLinkWithSession rt ctx a args w = .ok w') :
    ∃ session, SessionUse ctx w w' a.session a.vault session args.amount.toNat
        args.sessionNonce ∧ PolicyAdmits session args.amount.toNat ∧
        (∃ v, w.data a.vault = .vault v) ∧
      LinkCreated rt w w' a.paymentLink a.vault a.stablecoinMint args.linkId
        args.recipientCommitment
        args.amount args.expiresAt ∧
      (∃ m, w.data a.stablecoinMint = .mint m) ∧
      associatedTokenAddress rt a.vault a.stablecoinMint = some a.vaultTokenAccount ∧
      associatedTokenAddress rt a.paymentLink a.stablecoinMint = some a.escrowTokenAccount ∧
      (∃ t, w'.data a.escrowTokenAccount = .token t ∧ t.mint = a.stablecoinMint ∧
        t.owner = a.paymentLink) ∧
      TokenFlow w w' a.vaultTokenAccount a.escrowTokenAccount args.amount.toNat ∧
      Frame w w' [a.paymentLink, a.session] [a.vaultTokenAccount] [] := by
  simp only [createPaymentLinkWithSession, bind_eq_ok, load_eq_ok, AccountData.vault?_eq_some,
    AccountData.session?_eq_some, AccountData.token?_eq_some, AccountData.mint?_eq_some,
    require_eq_ok,
    requireSigner_eq_ok, requireAssociatedToken_eq_ok, pure_eq_ok, exists_unit] at h
  obtain ⟨config, -, vault, hvaultData, session, hsession, hsigner, mint, hmint, vaultToken,
    hvaultToken, w₁, hinit,
    w₂, hescrow, -, -, -, -, hchecks, -, ⟨-, haddress⟩, hpositive, -, -, session', hspend, w₃,
    htransfer,
    rfl⟩ := h
  obtain ⟨bump, hfind, -, hcreated⟩ := initAccount_ok hinit
  obtain ⟨hescrowAddress, hcreated'⟩ := createAssociatedToken_ok hescrow
  obtain ⟨hvault, hkey⟩ := requireSession_ok hchecks
  obtain ⟨huse, hlimit, hcumulative, spent, n, hspent, hn, rfl⟩ := spendFromSession_ok hspend
  obtain ⟨hrevoked, hopened, hclosed, hallowed, hnonce⟩ := useSession_ok huse
  have hframe₂ := (hcreated.frame (by simp)).trans hcreated'.frame_token
  -- the vault's token account existed before, the escrow was allocated here
  have hne : a.vaultTokenAccount ≠ a.escrowTokenAccount := by
    obtain ⟨t, ht, -⟩ := (hcreated.frame (by simp)).token _ _ hvaultToken
    exact World.ne_of_data ht hcreated'.fresh (by simp)
  obtain ⟨hflow, hframe₃⟩ := transferCheckedSigned_effect hne htransfer
  have hlinkSession : a.paymentLink ≠ a.session :=
    World.ne_of_data hcreated.fresh hsession (by simp)
  have hsession₂ : w₂.data a.session = .session session := by
    rw [hframe₂.record_kept (by simpa using hlinkSession.symm) (by rw [hsession]; rfl), hsession]
  have hsession₃ : w₃.data a.session = .session session := by
    rw [hframe₃.record_kept (by simp) (by rw [hsession₂]; rfl), hsession₂]
  have hlink₁ := hcreated.at_key
  have hlink₂ : w₂.data a.paymentLink = w₁.data a.paymentLink :=
    hcreated'.frame_token.record_kept (by simp) (by rw [hlink₁]; rfl)
  have hlink₃ : w₃.data a.paymentLink = w₂.data a.paymentLink :=
    hframe₃.record_kept (by simp) (by rw [hlink₂, hlink₁]; rfl)
  have hkept : TokensKept w w₂ :=
    (hcreated.tokensKept (by simp)).trans
      (hcreated'.tokensKept (fun t ht => by rw [← AccountData.token.inj ht]))
  obtain ⟨t, ht, htmint, htowner, -⟩ := hframe₃.token _ _ hcreated'.at_key
  have hescrowSession : a.escrowTokenAccount ≠ a.session := World.ne_of_data ht hsession₃ (by simp)
  refine ⟨session,
    ⟨hsession, hvault, hnonce, hkey ▸ hsigner, hrevoked, hopened, hclosed, hallowed, spent, n,
    hspent, hn, ?_⟩,
    ⟨?_, hlimit, hcumulative⟩, ⟨vault, hvaultData⟩, ⟨hcreated.fresh, ?_, ⟨bump, hfind⟩, bump, ?_⟩,
    ⟨mint, hmint⟩, haddress, hescrowAddress, ⟨t, ?_, htmint, htowner⟩, ?_, ?_⟩
  · simp
  · simpa [UInt64.lt_iff_toNat_lt] using hpositive
  · simpa [UInt64.lt_iff_toNat_lt] using hpositive
  · simp [hlinkSession, hlink₃, hlink₂, hlink₁]
  · simp [hescrowSession, ht]
  · exact (hflow.after_kept hkept).before_kept
      (tokensKept_setData (by simp [hsession₃, AccountData.token?]) rfl)
  · exact (hframe₂.trans hframe₃).trans
      (frame_setData (by simp [hsession₃, AccountData.programOwned]) (by simp))

/-- The record of an active link rewritten after its tokens moved. -/
private theorem settle_tokens {w₁ : World} {key escrow destination : Pubkey} {link : PaymentLink}
    {amount : ℕ} (link' : PaymentLink) (hlink : w.data key = .link link)
    (hactive : link.status = paymentLinkStatusActive)
    (hflow : TokenFlow w w₁ escrow destination amount) (hframe : Frame w w₁ [] [escrow] []) :
    LinkSettled w (w₁.setData key (.link link')) key link link' ∧
      TokenFlow w (w₁.setData key (.link link')) escrow destination amount ∧
      Frame w (w₁.setData key (.link link')) [key] [escrow] [] := by
  have hlink₁ : w₁.data key = .link link := by
    rw [hframe.record_kept (by simp) (by rw [hlink]; rfl), hlink]
  refine ⟨⟨hlink, hactive, by simp⟩, ?_, ?_⟩
  · exact hflow.before_kept (tokensKept_setData (by simp [hlink₁, AccountData.token?]) rfl)
  · exact hframe.trans (frame_setData (by simp [hlink₁, AccountData.programOwned]) (by simp))

theorem claimPaymentLink_ok {a : ClaimPaymentLink} (h : claimPaymentLink rt ctx a w = .ok w') :
    ∃ link, LinkSettled w w' a.paymentLink link (link.claimed w.now a.recipientVault) ∧
      w.now ≤ link.expiresAt ∧ ClaimSigned rt ctx w ∧ (∃ v, w.data a.recipientVault = .vault v) ∧
      link.mint = a.stablecoinMint ∧
      associatedTokenAddress rt a.paymentLink a.stablecoinMint = some a.escrowTokenAccount ∧
      TokenEscrowPaid rt w w' a.paymentLink a.recipientVault link ∧
      Frame w w' [a.paymentLink] [a.escrowTokenAccount] [] := by
  simp only [claimPaymentLink, bind_eq_ok, load_eq_ok, AccountData.claimAuthority?_eq_some,
    AccountData.vault?_eq_some, AccountData.link?_eq_some, AccountData.mint?_eq_some,
    AccountData.token?_eq_some, require_eq_ok, requireSigner_eq_ok, requireLinkMint_eq_ok,
    requireActiveLink_eq_ok, requireAssociatedToken_eq_ok, pure_eq_ok, exists_unit] at h
  obtain ⟨hsigner, config, -, authority, hauthority, recipientVault, hrecipient, link, hlink,
    mint, hmint,
    escrow, hescrow, w₁, htoken, -, -, -, hclaim, -, -, hlinkMint, -,
    ⟨howner, hescrowAddress⟩, hactive,
    hexpiry, w₂, htransfer, rfl⟩ := h
  obtain ⟨hkey, hseeds⟩ := requireClaimAuthority_ok hclaim
  obtain ⟨hframe₁, hkept₁⟩ := createAssociatedTokenIfNeeded_frame htoken
  obtain ⟨hdestination, hcreated⟩ := createAssociatedTokenIfNeeded_ok htoken
  -- the owner of the escrow is the link, that of the destination is a vault
  have hne : a.escrowTokenAccount ≠ a.destinationTokenAccount := by
    rcases hcreated with hcreated | ⟨-, t, ht, -, htowner⟩
    · exact World.ne_of_data hescrow hcreated.fresh (by simp)
    · have hlinkVault : a.paymentLink ≠ a.recipientVault :=
        World.ne_of_data hlink hrecipient (by simp)
      refine World.ne_of_data hescrow ht ?_
      intro heq
      rw [AccountData.token.inj heq, htowner] at howner
      exact hlinkVault howner.symm
  obtain ⟨hflow, hframe₂⟩ := transferCheckedSigned_effect hne htransfer
  obtain ⟨hsettled, hpaid, hframe⟩ := settle_tokens (link.claimed w.now a.recipientVault) hlink
    hactive (hflow.after_kept hkept₁) (hframe₁.trans hframe₂)
  exact ⟨link, hsettled, hexpiry, ⟨_, authority, hauthority, hkey ▸ hsigner, hseeds⟩,
    ⟨recipientVault, hrecipient⟩, hlinkMint, hescrowAddress,
    ⟨⟨mint, hlinkMint ▸ hmint⟩, _, _, hlinkMint ▸ hescrowAddress, hlinkMint ▸ hdestination, hpaid⟩,
    hframe⟩

/-- The escrow's owner is a link and the vault's token account's owner is a vault. -/
private theorem escrow_ne_vaultToken {link vault : Pubkey} {l : PaymentLink} {v : Vault}
    {escrow vaultToken : Pubkey} {t t' : TokenAccount} (hlink : w.data link = .link l)
    (hvault : w.data vault = .vault v) (hescrow : w.data escrow = .token t)
    (howner : t.owner = link) (htoken : w.data vaultToken = .token t')
    (howner' : t'.owner = vault) : escrow ≠ vaultToken := by
  refine World.ne_of_data hescrow htoken ?_
  intro heq
  rw [AccountData.token.inj heq, howner'] at howner
  exact World.ne_of_data hlink hvault (by simp) howner.symm

theorem cancelPaymentLinkWithSession_ok {a : CancelPaymentLinkWithSession}
    {args : CancelPaymentLinkWithSessionArgs}
    (h : cancelPaymentLinkWithSession rt ctx a args w = .ok w') :
    ∃ session link, SessionUse ctx w w' a.session a.vault session 0 args.sessionNonce ∧
      LinkSettled w w' a.paymentLink link (link.cancelled w.now) ∧ link.senderVault = a.vault ∧
      (∃ v, w.data a.vault = .vault v) ∧ link.mint = a.stablecoinMint ∧
      associatedTokenAddress rt a.paymentLink a.stablecoinMint = some a.escrowTokenAccount ∧
      TokenEscrowPaid rt w w' a.paymentLink a.vault link ∧
      Frame w w' [a.paymentLink, a.session] [a.escrowTokenAccount] [] := by
  simp only [cancelPaymentLinkWithSession, bind_eq_ok, load_eq_ok, AccountData.session?_eq_some,
    AccountData.vault?_eq_some, AccountData.link?_eq_some, AccountData.mint?_eq_some,
    AccountData.token?_eq_some, requireSigner_eq_ok, requireLinkSender_eq_ok, requireLinkMint_eq_ok,
    requireActiveLink_eq_ok, requireAssociatedToken_eq_ok, pure_eq_ok, exists_unit] at h
  obtain ⟨config, -, vault, hvault, session, hsession, hsigner, link, hlink, mint, hmint,
    escrow, hescrow,
    vaultToken, hvaultToken, -, -, -, hchecks, -, hsender, hlinkMint, -, ⟨howner, hescrowAddress⟩,
    ⟨howner', hvaultAddress⟩, hactive, huse, n, hn, w₁, htransfer, rfl⟩ := h
  obtain ⟨hsessionVault, hkey⟩ := requireSession_ok hchecks
  obtain ⟨hrevoked, hopened, hclosed, hallowed, hnonce⟩ := useSession_ok huse
  have hne := escrow_ne_vaultToken hlink hvault hescrow howner hvaultToken howner'
  have hlinkSession : a.paymentLink ≠ a.session := World.ne_of_data hlink hsession (by simp)
  obtain ⟨hflow, hframe⟩ := transferCheckedSigned_effect hne htransfer
  have hsession₁ : w₁.data a.session = .session session := by
    rw [hframe.record_kept (by simp) (by rw [hsession]; rfl), hsession]
  have hkept : TokensKept w₁ (w₁.setData a.session (.session { session with nonce := n })) :=
    tokensKept_setData
    (by simp [hsession₁, AccountData.token?]) rfl
  have hframe₁ : Frame w₁ (w₁.setData a.session (.session { session with nonce := n })) [a.session]
      [] [] := frame_setData
    (by simp [hsession₁, AccountData.programOwned]) (by simp)
  have hlink₁ : w₁.data a.paymentLink = .link link := by
    rw [hframe.record_kept (by simp) (by rw [hlink]; rfl), hlink]
  have hlink₂ : (w₁.setData a.session (.session { session with nonce := n })).data a.paymentLink =
      .link link := by simp [hlinkSession, hlink₁]
  refine ⟨session, link,
    ⟨hsession, hsessionVault, hnonce, hkey ▸ hsigner, hrevoked, hopened, hclosed,
    hallowed, session.spent, n, rfl, nextNonce_ok hn, ?_⟩, ⟨hlink, hactive, by simp⟩, hsender,
    ⟨vault, hvault⟩,
    hlinkMint, hescrowAddress, ⟨⟨mint, hlinkMint ▸ hmint⟩, _, _, hlinkMint ▸ hescrowAddress,
    hlinkMint ▸ hvaultAddress, ?_⟩, ?_⟩
  · simp [hlinkSession.symm]
  · exact (hflow.before_kept hkept).before_kept
      (tokensKept_setData (by simp [hlink₂, AccountData.token?]) rfl)
  · exact ((hframe.trans hframe₁).trans
      (frame_setData (by simp [hlink₂, AccountData.programOwned]) (by simp))).mono (by simp)
        (by simp) (by simp)

theorem refundExpiredPaymentLink_ok {a : RefundExpiredPaymentLink}
    (h : refundExpiredPaymentLink rt a w = .ok w') :
    ∃ link, LinkSettled w w' a.paymentLink link (link.refunded w.now) ∧ link.expiresAt < w.now ∧
      link.senderVault = a.senderVault ∧ (∃ v, w.data a.senderVault = .vault v) ∧
      link.mint = a.stablecoinMint ∧
      associatedTokenAddress rt a.paymentLink a.stablecoinMint = some a.escrowTokenAccount ∧
      TokenEscrowPaid rt w w' a.paymentLink a.senderVault link ∧
      Frame w w' [a.paymentLink] [a.escrowTokenAccount] [] := by
  simp only [refundExpiredPaymentLink, bind_eq_ok, load_eq_ok, AccountData.vault?_eq_some,
    AccountData.link?_eq_some, AccountData.mint?_eq_some, AccountData.token?_eq_some, require_eq_ok,
    requireLinkSender_eq_ok, requireLinkMint_eq_ok, requireActiveLink_eq_ok,
    requireAssociatedToken_eq_ok,
    pure_eq_ok, exists_unit] at h
  obtain ⟨config, -, vault, hvault, link, hlink, mint, hmint, escrow, hescrow, vaultToken,
    hvaultToken, -, -,
    hsender, -, hlinkMint, -, ⟨howner, hescrowAddress⟩, ⟨howner', hvaultAddress⟩, hactive,
    hexpiry, w₁,
    htransfer, rfl⟩ := h
  have hne := escrow_ne_vaultToken hlink hvault hescrow howner hvaultToken howner'
  obtain ⟨hflow, hframe₁⟩ := transferCheckedSigned_effect hne htransfer
  obtain ⟨hsettled, hpaid, hframe⟩ :=
    settle_tokens (link.refunded w.now) hlink hactive hflow hframe₁
  exact ⟨link, hsettled, hexpiry, hsender, ⟨vault, hvault⟩, hlinkMint, hescrowAddress,
    ⟨⟨mint, hlinkMint ▸ hmint⟩, _, _, hlinkMint ▸ hescrowAddress, hlinkMint ▸ hvaultAddress, hpaid⟩,
    hframe⟩

theorem createSolPaymentLinkWithPasskey_ok {a : CreateSolPaymentLinkWithPasskey}
    {args : CreateSolPaymentLinkWithPasskeyArgs}
    (h : createSolPaymentLinkWithPasskey rt ctx a args w = .ok w') :
    ∃ config vault, RootUse rt ctx w w'
        (.createSolPaymentLink (scopeOf rt config a.config) a.vault a.paymentLink args.linkId
          args.recipientCommitment args.amount args.expiresAt args.vaultNonce args.proofExpiresAt)
        args.toRootProof config vault ∧
      LinkCreated rt w w' a.paymentLink a.vault defaultPubkey args.linkId args.recipientCommitment
        args.amount args.expiresAt ∧
      (w.lamports a.vault).toNat = (w'.lamports a.vault).toNat + args.amount.toNat ∧
      (rt.minimumBalance (AccountData.vault vault).dataLen).toNat ≤ (w'.lamports a.vault).toNat ∧
      (w.lamports a.paymentLink).toNat + args.amount.toNat ≤ (w'.lamports a.paymentLink).toNat ∧
      (∀ link, (rt.minimumBalance (AccountData.link link).dataLen).toNat + args.amount.toNat ≤
        (w'.lamports a.paymentLink).toNat) ∧
      Frame w w' [a.paymentLink, a.vault] [] [a.vault] := by
  simp only [createSolPaymentLinkWithPasskey, bind_eq_ok, load_eq_ok, AccountData.config?_eq_some,
    AccountData.vault?_eq_some, require_eq_ok, pure_eq_ok, exists_unit] at h
  obtain ⟨config, hconfig, vault, hvault, w₁, hinit, -, -, -, hpositive, -, hnonce, -, hroot,
    n, hn, w₂,
    htransfer, rfl⟩ := h
  obtain ⟨bump, hfind, -, hcreated⟩ := initAccount_ok hinit
  have hne : a.vault ≠ a.paymentLink := World.ne_of_data hvault hcreated.fresh (by simp)
  have hmoved := transferProgramLamports_ok hne htransfer
  have hvault₁ : w₁.data a.vault = .vault vault := by
    rw [hcreated.data_eq, Function.update_of_ne hne, hvault]
  have hvault₂ : w₂.data a.vault = .vault vault := by rw [hmoved.data_eq, hvault₁]
  have hlink₂ : w₂.data a.paymentLink = _ := (congrFun hmoved.data_eq _).trans hcreated.at_key
  -- a vault carries data, so it cannot have paid the rent of the new account
  have hlamports : w₁.lamports a.vault = w.lamports a.vault := by
    by_cases hpayer : a.vault = a.payer
    · rcases hcreated.funded with hempty | heq
      · rw [← hpayer, hvault] at hempty
        cases hempty
      · rw [hpayer, heq]
    · exact hcreated.others _ hpayer hne
  have hsource := hmoved.source_eq
  have hdestination := hmoved.destination_eq
  refine ⟨config, vault, ⟨⟨hconfig, rfl, hroot⟩, hvault, congrArg some hnonce.symm, n,
    nextNonce_ok hn, ?_⟩, ⟨hcreated.fresh, ?_, ⟨bump, hfind⟩, bump, ?_⟩, ?_, ?_, ?_, ?_, ?_⟩
  · simp [RootAction.vault]
  · simpa [UInt64.lt_iff_toNat_lt] using hpositive
  · simp [hne.symm, hlink₂]
  · rw [← hlamports, hsource]
    rfl
  · have hreserve := hmoved.reserve
    rwa [hvault₁] at hreserve
  · have hgrows := hcreated.grows
    simp only [World.setData_lamports]
    omega
  · intro link
    have hrent : (rt.minimumBalance (AccountData.link link).dataLen).toNat ≤ _ := hcreated.rent
    simp only [World.setData_lamports]
    omega
  · exact ((hcreated.frame (by simp)).trans hmoved.frame).trans
      (frame_setData (by simp [hvault₂, AccountData.programOwned]) (by simp))

theorem claimSolPaymentLink_ok {a : ClaimSolPaymentLink}
    (h : claimSolPaymentLink rt ctx a w = .ok w') :
    ∃ link, LinkSettled w w' a.paymentLink link (link.claimed w.now a.recipientVault) ∧
      w.now ≤ link.expiresAt ∧ ClaimSigned rt ctx w ∧ (∃ v, w.data a.recipientVault = .vault v) ∧
      NativeEscrowPaid w w' a.paymentLink a.recipientVault link ∧
      Frame w w' [a.paymentLink] [] [a.paymentLink] := by
  simp only [claimSolPaymentLink, bind_eq_ok, load_eq_ok, AccountData.claimAuthority?_eq_some,
    AccountData.vault?_eq_some, AccountData.link?_eq_some, require_eq_ok, requireSigner_eq_ok,
    requireNativeLink_eq_ok, requireActiveLink_eq_ok, pure_eq_ok, exists_unit] at h
  obtain ⟨hsigner, config, -, authority, hauthority, recipientVault, hrecipient, link, hlink, -, -,
    hclaim, -,
    -, hnative, hactive, hexpiry, w₁, htransfer, rfl⟩ := h
  obtain ⟨hkey, hseeds⟩ := requireClaimAuthority_ok hclaim
  have hne : a.paymentLink ≠ a.recipientVault := World.ne_of_data hlink hrecipient (by simp)
  have hmoved := transferProgramLamports_ok hne htransfer
  have hlink₁ : w₁.data a.paymentLink = .link link := by rw [hmoved.data_eq, hlink]
  exact ⟨link, ⟨hlink, hactive, by simp⟩, hexpiry,
    ⟨_, authority, hauthority, hkey ▸ hsigner, hseeds⟩,
    ⟨recipientVault, hrecipient⟩, ⟨hnative, hne, hmoved.source_eq, hmoved.destination_eq⟩,
    hmoved.frame.trans (frame_setData (by simp [hlink₁, AccountData.programOwned]) (by simp))⟩

theorem cancelSolPaymentLinkWithPasskey_ok {a : CancelSolPaymentLinkWithPasskey}
    {args : CancelSolPaymentLinkWithPasskeyArgs}
    (h : cancelSolPaymentLinkWithPasskey rt ctx a args w = .ok w') :
    ∃ config vault link, RootUse rt ctx w w'
        (.cancelSolPaymentLink (scopeOf rt config a.config) a.vault a.paymentLink args.vaultNonce
          args.proofExpiresAt) args.toRootProof config vault ∧
      LinkSettled w w' a.paymentLink link (link.cancelled w.now) ∧ link.senderVault = a.vault ∧
      NativeEscrowPaid w w' a.paymentLink a.vault link ∧
      Frame w w' [a.paymentLink, a.vault] [] [a.paymentLink] := by
  simp only [cancelSolPaymentLinkWithPasskey, bind_eq_ok, load_eq_ok, AccountData.config?_eq_some,
    AccountData.vault?_eq_some, AccountData.link?_eq_some, require_eq_ok, requireLinkSender_eq_ok,
    requireNativeLink_eq_ok, requireActiveLink_eq_ok, pure_eq_ok, exists_unit] at h
  obtain ⟨-, config, hconfig, vault, hvault, link, hlink, -, -, -, -, hsender, hnative,
    hactive, hnonce,
    hroot, n, hn, w₁, htransfer, rfl⟩ := h
  have hne : a.paymentLink ≠ a.vault := World.ne_of_data hlink hvault (by simp)
  have hmoved := transferProgramLamports_ok hne htransfer
  have hvault₁ : w₁.data a.vault = .vault vault := by rw [hmoved.data_eq, hvault]
  have hlink₂ :
      (w₁.setData a.vault (.vault { vault with nonce := n })).data a.paymentLink = .link link := by
    simp [hne, hmoved.data_eq, hlink]
  refine ⟨config, vault, link, ⟨⟨hconfig, rfl, hroot⟩, hvault, congrArg some hnonce.symm, n,
    nextNonce_ok hn, ?_⟩, ⟨hlink, hactive, by simp⟩, hsender,
    ⟨hnative, hne, hmoved.source_eq, hmoved.destination_eq⟩, ?_⟩
  · simp [RootAction.vault, hne.symm]
  · exact ((hmoved.frame.trans
      (frame_setData (by simp [hvault₁, AccountData.programOwned]) (by simp))).trans
      (frame_setData (by simp [hlink₂, AccountData.programOwned]) (by simp))).mono
        (by simp) (by simp) (by simp)

theorem refundExpiredSolPaymentLink_ok {a : RefundExpiredSolPaymentLink}
    (h : refundExpiredSolPaymentLink rt a w = .ok w') :
    ∃ link, LinkSettled w w' a.paymentLink link (link.refunded w.now) ∧ link.expiresAt < w.now ∧
      link.senderVault = a.senderVault ∧ (∃ v, w.data a.senderVault = .vault v) ∧
      NativeEscrowPaid w w' a.paymentLink a.senderVault link ∧
      Frame w w' [a.paymentLink] [] [a.paymentLink] := by
  simp only [refundExpiredSolPaymentLink, bind_eq_ok, load_eq_ok, AccountData.vault?_eq_some,
    AccountData.link?_eq_some, require_eq_ok, requireLinkSender_eq_ok, requireNativeLink_eq_ok,
    requireActiveLink_eq_ok, pure_eq_ok, exists_unit] at h
  obtain ⟨config, -, vault, hvault, link, hlink, -, -, hsender, -, hnative, hactive, hexpiry, w₁,
    htransfer,
    rfl⟩ := h
  have hne : a.paymentLink ≠ a.senderVault := World.ne_of_data hlink hvault (by simp)
  have hmoved := transferProgramLamports_ok hne htransfer
  have hlink₁ : w₁.data a.paymentLink = .link link := by rw [hmoved.data_eq, hlink]
  exact ⟨link, ⟨hlink, hactive, by simp⟩, hexpiry, hsender, ⟨vault, hvault⟩,
    ⟨hnative, hne, hmoved.source_eq, hmoved.destination_eq⟩,
    hmoved.frame.trans (frame_setData (by simp [hlink₁, AccountData.programOwned]) (by simp))⟩

end PaymentLinks

end VeriAgentPay
