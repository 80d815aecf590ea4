import VeriAgentPay.InstructionEffects

/-!
# One step of the program: every instruction, every record, every debit

The sixteen instructions as one step function. Each key a step writes is classified by what
happened to the record there, and each balance it lowers by who was entitled to lower it; the
later invariants split on these classifications and never on the instructions.
-/

namespace VeriAgentPay
open FixedWidth CheckedOutcome

inductive Call where
  | initializeProtocol (a : InitializeProtocol) (args : InitializeProtocolArgs)
  | initializeVault (a : InitializeVault) (args : InitializeVaultArgs)
  | grantSession (a : GrantSession) (args : GrantSessionArgs)
  | initializeVaultAndGrantSession (a : InitializeVaultAndGrantSession)
      (args : InitializeVaultAndGrantSessionArgs)
  | transferWithPasskey (a : TransferWithPasskey) (args : PasskeyTransferArgs)
  | transferWithSession (a : TransferWithSession) (args : SessionTransferArgs)
  | initializeClaimAuthority (a : InitializeClaimAuthority) (args : InitializeClaimAuthorityArgs)
  | createPaymentLinkWithSession (a : CreatePaymentLinkWithSession)
      (args : CreatePaymentLinkWithSessionArgs)
  | claimPaymentLink (a : ClaimPaymentLink)
  | cancelPaymentLinkWithSession (a : CancelPaymentLinkWithSession)
      (args : CancelPaymentLinkWithSessionArgs)
  | refundExpiredPaymentLink (a : RefundExpiredPaymentLink)
  | transferSolWithPasskey (a : TransferSolWithPasskey) (args : SolPasskeyTransferArgs)
  | createSolPaymentLinkWithPasskey (a : CreateSolPaymentLinkWithPasskey)
      (args : CreateSolPaymentLinkWithPasskeyArgs)
  | claimSolPaymentLink (a : ClaimSolPaymentLink)
  | cancelSolPaymentLinkWithPasskey (a : CancelSolPaymentLinkWithPasskey)
      (args : CancelSolPaymentLinkWithPasskeyArgs)
  | refundExpiredSolPaymentLink (a : RefundExpiredSolPaymentLink)
  deriving DecidableEq

/-- The program's entry point. -/
def exec (rt : Runtime) (ctx : Context) : Call → World → Outcome World
  | .initializeProtocol a args => initializeProtocol rt ctx a args
  | .initializeVault a args => initializeVault rt ctx a args
  | .grantSession a args => grantSession rt ctx a args
  | .initializeVaultAndGrantSession a args => initializeVaultAndGrantSession rt ctx a args
  | .transferWithPasskey a args => transferWithPasskey rt ctx a args
  | .transferWithSession a args => transferWithSession rt ctx a args
  | .initializeClaimAuthority a args => initializeClaimAuthority rt ctx a args
  | .createPaymentLinkWithSession a args => createPaymentLinkWithSession rt ctx a args
  | .claimPaymentLink a => claimPaymentLink rt ctx a
  | .cancelPaymentLinkWithSession a args => cancelPaymentLinkWithSession rt ctx a args
  | .refundExpiredPaymentLink a => refundExpiredPaymentLink rt a
  | .transferSolWithPasskey a args => transferSolWithPasskey rt ctx a args
  | .createSolPaymentLinkWithPasskey a args => createSolPaymentLinkWithPasskey rt ctx a args
  | .claimSolPaymentLink a => claimSolPaymentLink rt ctx a
  | .cancelSolPaymentLinkWithPasskey a args => cancelSolPaymentLinkWithPasskey rt ctx a args
  | .refundExpiredSolPaymentLink a => refundExpiredSolPaymentLink rt a

namespace Call

/-- The records a call writes. -/
def writes : Call → List Pubkey
  | initializeProtocol a _ => [a.config]
  | initializeVault a _ => [a.vault]
  | grantSession a _ => [a.session, a.vault]
  | initializeVaultAndGrantSession a _ => [a.vault, a.session]
  | transferWithPasskey a _ => [a.vault]
  | transferWithSession a _ => [a.session]
  | initializeClaimAuthority a _ => [a.claimAuthorityConfig]
  | createPaymentLinkWithSession a _ => [a.paymentLink, a.session]
  | claimPaymentLink a => [a.paymentLink]
  | cancelPaymentLinkWithSession a _ => [a.paymentLink, a.session]
  | refundExpiredPaymentLink a => [a.paymentLink]
  | transferSolWithPasskey a _ => [a.vault]
  | createSolPaymentLinkWithPasskey a _ => [a.paymentLink, a.vault]
  | claimSolPaymentLink a => [a.paymentLink]
  | cancelSolPaymentLinkWithPasskey a _ => [a.paymentLink, a.vault]
  | refundExpiredSolPaymentLink a => [a.paymentLink]

def tokenDebits : Call → List Pubkey
  | transferWithPasskey a _ => [a.vaultTokenAccount]
  | transferWithSession a _ => [a.vaultTokenAccount]
  | createPaymentLinkWithSession a _ => [a.vaultTokenAccount]
  | claimPaymentLink a => [a.escrowTokenAccount]
  | cancelPaymentLinkWithSession a _ => [a.escrowTokenAccount]
  | refundExpiredPaymentLink a => [a.escrowTokenAccount]
  | _ => []

def lamportDebits : Call → List Pubkey
  | transferSolWithPasskey a _ => [a.vault]
  | createSolPaymentLinkWithPasskey a _ => [a.vault]
  | claimSolPaymentLink a => [a.paymentLink]
  | cancelSolPaymentLinkWithPasskey a _ => [a.paymentLink]
  | refundExpiredSolPaymentLink a => [a.paymentLink]
  | _ => []

/-- The proof a root-authorised call carries. -/
def rootProof? : Call → Option RootProof
  | initializeVault _ args => some args.toRootProof
  | grantSession _ args => some args.toRootProof
  | initializeVaultAndGrantSession _ args => some args.toRootProof
  | transferWithPasskey _ args => some args.toRootProof
  | transferSolWithPasskey _ args => some args.toRootProof
  | createSolPaymentLinkWithPasskey _ args => some args.toRootProof
  | cancelSolPaymentLinkWithPasskey _ args => some args.toRootProof
  | _ => none

/-- The action whose challenge a root-authorised call asks for, given the configuration it reads. -/
def rootAction? (rt : Runtime) (config : ProtocolConfig) : Call → Option RootAction
  | initializeVault a args =>
    some (.initializeVault
      (scopeOf rt config a.config) a.vault a.vaultTokenAccount args.rootPublicKey
      args.rootKeyHash args.userSalt args.proofExpiresAt)
  | grantSession a args =>
    some (.grantSession (scopeOf rt config a.config) a.vault a.session args.toSessionPolicy
      args.vaultNonce
      args.proofExpiresAt)
  | initializeVaultAndGrantSession a args =>
    some (.initializeVaultAndGrantSession (scopeOf rt config a.config) a.vault a.session
      a.vaultTokenAccount a.stablecoinMint args.rootPublicKey args.rootKeyHash args.userSalt
      args.toSessionPolicy args.proofExpiresAt)
  | transferWithPasskey a args =>
    some (.transfer
      (scopeOf rt config a.config) a.vault a.vaultTokenAccount a.destinationTokenAccount
      a.stablecoinMint args.amount args.vaultNonce args.proofExpiresAt)
  | transferSolWithPasskey a args =>
    some (.transferSol (scopeOf rt config a.config) a.vault a.recipient args.amount args.vaultNonce
      args.proofExpiresAt)
  | createSolPaymentLinkWithPasskey a args =>
    some (.createSolPaymentLink (scopeOf rt config a.config) a.vault a.paymentLink args.linkId
      args.recipientCommitment args.amount args.expiresAt args.vaultNonce args.proofExpiresAt)
  | cancelSolPaymentLinkWithPasskey a args =>
    some (.cancelSolPaymentLink (scopeOf rt config a.config) a.vault a.paymentLink args.vaultNonce
      args.proofExpiresAt)
  | _ => none

/-- The session a call uses, the token amount it takes from the vault under it, and the nonce it
names. -/
def sessionUse? : Call → Option (Pubkey × ℕ × UInt64)
  | transferWithSession a args => some (a.session, args.amount.toNat, args.sessionNonce)
  | createPaymentLinkWithSession a args => some (a.session, args.amount.toNat, args.sessionNonce)
  | cancelPaymentLinkWithSession a args => some (a.session, 0, args.sessionNonce)
  | _ => none

end Call

/-- The escrow of a link paid its whole amount to a vault, in its own asset. -/
def EscrowPaid (rt : Runtime) (w w' : World) (key vault : Pubkey) (link : PaymentLink) : Prop :=
  TokenEscrowPaid rt w w' key vault link ∨ NativeEscrowPaid w w' key vault link

/-- The call verified a root proof for `action`, which is the one it carries out. -/
structure RootCall (rt : Runtime) (ctx : Context) (c : Call) (w : World)
    (rootPublicKey : FixedBytes 33) (action : RootAction) (proof : RootProof) : Prop where
  proof_eq : c.rootProof? = some proof
  verified : ∃ config, c.rootAction? rt config = some action ∧
    RootVerified rt ctx w rootPublicKey action proof config

/-- A root call on a vault that existed. -/
structure VaultUse (rt : Runtime) (ctx : Context) (c : Call) (w w' : World) (vault : Vault)
    (action : RootAction) : Prop where
  call : ∃ proof, RootCall rt ctx c w vault.rootPublicKey action proof
  before : w.data action.vault = .vault vault
  nonce_eq : action.consumedNonce = some vault.nonce
  after : ∃ n : UInt64, n.toNat = vault.nonce.toNat + 1 ∧
    w'.data action.vault = .vault { vault with nonce := n }

/-- The ways in which an active link is settled. -/
inductive Settlement (rt : Runtime) (ctx : Context) (c : Call) (w w' : World) (key : Pubkey)
    (link : PaymentLink) : PaymentLink → Prop
  | claimed (recipientVault : Pubkey) (signed : ClaimSigned rt ctx w)
    (time : w.now ≤ link.expiresAt)
      (recipient : ∃ v, w.data recipientVault = .vault v)
        (paid : EscrowPaid rt w w' key recipientVault link) :
      Settlement rt ctx c w w' key link (link.claimed w.now recipientVault)
  | cancelledBySession (sessionKey : Pubkey) (session : Session) (nonce : UInt64)
      (use : SessionUse ctx w w' sessionKey link.senderVault session 0 nonce)
      (call : c.sessionUse? = some (sessionKey, 0, nonce))
      (paid : EscrowPaid rt w w' key link.senderVault link) :
      Settlement rt ctx c w w' key link (link.cancelled w.now)
  | cancelledByRoot (vault : Vault) (action : RootAction) (use :
      VaultUse rt ctx c w w' vault action)
      (scope : ActionScope) (nonce : UInt64) (proofExpiresAt : Int64)
      (action_eq : action = .cancelSolPaymentLink scope link.senderVault key nonce proofExpiresAt)
      (paid : EscrowPaid rt w w' key link.senderVault link) :
      Settlement rt ctx c w w' key link (link.cancelled w.now)
  | refunded (time : link.expiresAt < w.now) (paid : EscrowPaid rt w w' key link.senderVault link) :
      Settlement rt ctx c w w' key link (link.refunded w.now)

/-- What happened to the record at a key that a call wrote, from its contents before to those
after. -/
inductive RecordChange (rt : Runtime) (ctx : Context) (c : Call) (w w' : World) (key : Pubkey) :
    AccountData → AccountData → Prop
  | configCreated (config : ProtocolConfig) : RecordChange rt ctx c w w' key .empty (.config config)
  | claimAuthorityCreated (authority : ClaimAuthorityConfig)
      (address : findProgramAddress rt rt.programId [claimAuthoritySeed] = some
        (key, authority.bump)) :
      RecordChange rt ctx c w w' key .empty (.claimAuthority authority)
  | vaultCreated (vault : Vault) (action : RootAction) (proof : RootProof)
      (call : RootCall rt ctx c w vault.rootPublicKey action proof) (vault_eq : action.vault = key)
      (nonce_eq : action.consumedNonce = none) (nonce : vault.nonce = 0 ∨ vault.nonce = 1)
      (rent : (rt.minimumBalance (AccountData.vault vault).dataLen).toNat ≤
        (w'.lamports key).toNat) :
      RecordChange rt ctx c w w' key .empty (.vault vault)
  | vaultUsed (vault : Vault) (action : RootAction) (key_eq : action.vault = key)
      (use : VaultUse rt ctx c w w' vault action) (n : UInt64)
        (next : n.toNat = vault.nonce.toNat + 1) :
      RecordChange rt ctx c w w' key (.vault vault) (.vault { vault with nonce := n })
  | sessionCreated (vault : Pubkey) (policy : SessionPolicy) (bump : UInt8)
      (valid : validateSessionPolicy policy = .ok ())
      (granted : ∃ v action proof, RootCall rt ctx c w v.rootPublicKey action proof ∧
        action.vault = vault ∧
        (w.data vault = .vault v ∧ action.consumedNonce = some v.nonce ∨
          w.data vault = .empty ∧ w'.data vault = .vault v)) :
      RecordChange rt ctx c w w' key .empty (.session (writeSession bump vault policy))
  | sessionUsed (vault : Pubkey) (session : Session) (amount : ℕ) (nonce : UInt64)
      (call : c.sessionUse? = some (key, amount, nonce))
      (use : SessionUse ctx w w' key vault session amount nonce)
      (admitted : PolicyAdmits session amount ∨ amount = 0) (spent n : UInt64)
      (spent_eq : spent.toNat = session.spent.toNat + amount)
        (next : n.toNat = session.nonce.toNat + 1) :
      RecordChange rt ctx c w w' key (.session session)
        (.session { session with spent := spent, nonce := n })
  | linkCreated (bump : UInt8) (vault mint : Pubkey) (linkId recipientCommitment : FixedBytes 32)
      (amount : UInt64) (expiresAt : Int64) (positive : 0 < amount.toNat)
      (address : ∃ b, findProgramAddress rt rt.programId
        (paymentLinkSeeds vault linkId) = some (key, b))
      (authorized :
        (∃ sessionKey session nonce, c.sessionUse? = some (sessionKey, amount.toNat, nonce) ∧
          SessionUse ctx w w' sessionKey vault session amount.toNat nonce ∧
          PolicyAdmits session amount.toNat) ∨
        ∃ v action scope nonce proofExpiresAt, VaultUse rt ctx c w w' v action ∧ action =
          .createSolPaymentLink scope vault key linkId recipientCommitment amount expiresAt nonce
            proofExpiresAt)
      (funded : (∃ m, w.data mint = .mint m) ∧
        (∃ escrow t, associatedTokenAddress rt key mint = some escrow ∧
          w'.data escrow = .token t ∧ t.mint = mint ∧ t.owner = key ∧
          amount.toNat ≤ t.amount.toNat) ∨
        mint = defaultPubkey ∧ ∀ l, (rt.minimumBalance (AccountData.link l).dataLen).toNat +
          amount.toNat ≤
          (w'.lamports key).toNat) :
      RecordChange rt ctx c w w' key .empty
        (.link (newPaymentLink bump vault mint linkId recipientCommitment amount expiresAt w.now))
  | linkSettled (link link' : PaymentLink) (active : link.status = paymentLinkStatusActive)
      (how : Settlement rt ctx c w w' key link link') :
      RecordChange rt ctx c w w' key (.link link) (.link link')

/-- The record at a written key, with its contents on both sides. -/
def Changed (rt : Runtime) (ctx : Context) (c : Call) (w w' : World) (key : Pubkey) : Prop :=
  ∃ before after, w.data key = before ∧ w'.data key = after ∧
  RecordChange rt ctx c w w' key before after

section Steps

variable {rt : Runtime} {ctx : Context} {c : Call} {w w' : World}

theorem exec_frame (h : exec rt ctx c w = .ok w') :
    Frame w w' c.writes c.tokenDebits c.lamportDebits := by
  cases c with
  | initializeProtocol a args =>
    obtain ⟨-, -, hframe⟩ := initializeProtocol_ok h
    exact hframe
  | initializeVault a args =>
    obtain ⟨config, vault, -, -, -, -, hframe⟩ := initializeVault_ok h
    exact hframe
  | grantSession a args =>
    obtain ⟨config, vault, -, -, -, -, hframe⟩ := grantSession_ok h
    exact hframe
  | initializeVaultAndGrantSession a args =>
    obtain ⟨config, vault, -, -, -, hframe⟩ := initializeVaultAndGrantSession_ok h
    exact hframe
  | transferWithPasskey a args =>
    obtain ⟨config, vault, -, -, -, hframe⟩ := transferWithPasskey_ok h
    exact hframe
  | transferWithSession a args =>
    obtain ⟨session, -, -, -, -, -, hframe⟩ := transferWithSession_ok h
    exact hframe
  | initializeClaimAuthority a args =>
    obtain ⟨-, -, hframe⟩ := initializeClaimAuthority_ok h
    exact hframe
  | createPaymentLinkWithSession a args =>
    obtain ⟨session, -, -, -, -, -, -, -, -, -, hframe⟩ := createPaymentLinkWithSession_ok h
    exact hframe
  | claimPaymentLink a =>
    obtain ⟨link, -, -, -, -, -, -, -, hframe⟩ := claimPaymentLink_ok h
    exact hframe
  | cancelPaymentLinkWithSession a args =>
    obtain ⟨session, link, -, -, -, -, -, -, -, hframe⟩ := cancelPaymentLinkWithSession_ok h
    exact hframe
  | refundExpiredPaymentLink a =>
    obtain ⟨link, -, -, -, -, -, -, -, hframe⟩ := refundExpiredPaymentLink_ok h
    exact hframe
  | transferSolWithPasskey a args =>
    obtain ⟨config, vault, -, -, -, hframe⟩ := transferSolWithPasskey_ok h
    exact hframe
  | createSolPaymentLinkWithPasskey a args =>
    obtain ⟨config, vault, -, -, -, -, -, -, hframe⟩ := createSolPaymentLinkWithPasskey_ok h
    exact hframe
  | claimSolPaymentLink a =>
    obtain ⟨link, -, -, -, -, -, hframe⟩ := claimSolPaymentLink_ok h
    exact hframe
  | cancelSolPaymentLinkWithPasskey a args =>
    obtain ⟨config, vault, link, -, -, -, -, hframe⟩ := cancelSolPaymentLinkWithPasskey_ok h
    exact hframe
  | refundExpiredSolPaymentLink a =>
    obtain ⟨link, -, -, -, -, -, hframe⟩ := refundExpiredSolPaymentLink_ok h
    exact hframe

theorem RootUse.vaultUse {action : RootAction} {proof : RootProof} {config : ProtocolConfig}
    {vault : Vault} (h : RootUse rt ctx w w' action proof config vault)
    (hproof : c.rootProof? = some proof) (haction : c.rootAction? rt config = some action) :
    VaultUse rt ctx c w w' vault action :=
  ⟨⟨proof, hproof, config, haction, h.verified⟩, h.before, h.nonce_eq, h.after⟩

theorem VaultUse.changed {vault : Vault} {action : RootAction}
    (use : VaultUse rt ctx c w w' vault action) :
    Changed rt ctx c w w' action.vault := by
  obtain ⟨n, hn, hafter⟩ := use.after
  exact ⟨_, _, use.before, hafter, .vaultUsed vault action rfl use n hn⟩

theorem SessionUse.changed {key vault : Pubkey} {session : Session} {amount : ℕ} {nonce : UInt64}
    (use : SessionUse ctx w w' key vault session amount nonce)
    (call : c.sessionUse? = some (key, amount, nonce))
    (admitted : PolicyAdmits session amount ∨ amount = 0) :
    Changed rt ctx c w w' key := by
  obtain ⟨spent, n, hspent, hn, hafter⟩ := use.after
  exact ⟨_, _, use.before, hafter,
    .sessionUsed vault session amount nonce call use admitted spent n hspent hn⟩

theorem LinkSettled.changed {key : Pubkey} {link link' : PaymentLink}
    (h : LinkSettled w w' key link link') (how : Settlement rt ctx c w w' key link link') :
    Changed rt ctx c w w' key :=
  ⟨_, _, h.before, h.after, .linkSettled link link' h.active how⟩

private theorem exec_write_root (h : exec rt ctx c w = .ok w') {key : Pubkey}
    (hkey : key ∈ c.writes) (hroot : c.rootProof? ≠ none) : Changed rt ctx c w w' key := by
  cases c with
  | initializeVault a args =>
    obtain ⟨config, vault, hcreated, hnonce, -, -, -⟩ := initializeVault_ok h
    obtain rfl := List.mem_singleton.mp hkey
    exact ⟨_, _, hcreated.fresh, hcreated.after,
      .vaultCreated vault _ _ ⟨rfl, config, rfl, hcreated.verified⟩
      rfl rfl (.inl hnonce) hcreated.rent⟩
  | grantSession a args =>
    obtain ⟨config, vault, huse, hcreated, -, -, -⟩ := grantSession_ok h
    have huse' := huse.vaultUse (c := .grantSession a args) rfl rfl
    obtain ⟨bump, hafter⟩ := hcreated.after
    rcases List.mem_pair.mp hkey with rfl | rfl
    · exact ⟨_, _, hcreated.fresh, hafter, .sessionCreated a.vault _ bump hcreated.valid
        ⟨vault, _, _, ⟨rfl, config, rfl, huse.verified⟩, rfl, .inl ⟨huse.before, huse.nonce_eq⟩⟩⟩
    · exact huse'.changed
  | initializeVaultAndGrantSession a args =>
    obtain ⟨config, vault, hcreated, hnonce, hsession, -⟩ := initializeVaultAndGrantSession_ok h
    obtain ⟨bump, hafter⟩ := hsession.after
    rcases List.mem_pair.mp hkey with rfl | rfl
    · exact ⟨_, _, hcreated.fresh, hcreated.after, .vaultCreated vault _ _
        ⟨rfl, config, rfl, hcreated.verified⟩ rfl rfl (.inr hnonce) hcreated.rent⟩
    · exact ⟨_, _, hsession.fresh, hafter, .sessionCreated a.vault _ bump hsession.valid
        ⟨vault, _, _, ⟨rfl, config, rfl, hcreated.verified⟩, rfl,
          .inr ⟨hcreated.fresh, hcreated.after⟩⟩⟩
  | transferWithPasskey a args =>
    obtain ⟨config, vault, huse, -, -, -⟩ := transferWithPasskey_ok h
    obtain rfl := List.mem_singleton.mp hkey
    exact (huse.vaultUse (c := .transferWithPasskey a args) rfl rfl).changed
  | transferSolWithPasskey a args =>
    obtain ⟨config, vault, huse, -, -, -⟩ := transferSolWithPasskey_ok h
    obtain rfl := List.mem_singleton.mp hkey
    exact (huse.vaultUse (c := .transferSolWithPasskey a args) rfl rfl).changed
  | createSolPaymentLinkWithPasskey a args =>
    obtain ⟨config, vault, huse, hcreated, -, -, -, hfunded, -⟩ :=
      createSolPaymentLinkWithPasskey_ok h
    have huse' := huse.vaultUse (c := .createSolPaymentLinkWithPasskey a args) rfl rfl
    obtain ⟨bump, hafter⟩ := hcreated.after
    rcases List.mem_pair.mp hkey with rfl | rfl
    · exact ⟨_, _, hcreated.fresh, hafter,
        .linkCreated bump a.vault defaultPubkey _ _ _ _ hcreated.positive
        hcreated.address (.inr ⟨vault, _, _, _, _, huse', rfl⟩) (.inr ⟨rfl, hfunded⟩)⟩
    · exact huse'.changed
  | cancelSolPaymentLinkWithPasskey a args =>
    obtain ⟨config, vault, link, huse, hsettled, hsender, hpaid, -⟩ :=
      cancelSolPaymentLinkWithPasskey_ok h
    have huse' := huse.vaultUse (c := .cancelSolPaymentLinkWithPasskey a args) rfl rfl
    rcases List.mem_pair.mp hkey with rfl | rfl
    · exact hsettled.changed
        (.cancelledByRoot vault _ huse' _ _ _ (by rw [hsender]) (.inr (hsender ▸ hpaid)))
    · exact huse'.changed
  | _ => exact absurd rfl hroot

/-- Every key a call writes is classified. -/
theorem exec_write (h : exec rt ctx c w = .ok w') {key : Pubkey} (hkey : key ∈ c.writes) :
    Changed rt ctx c w w' key := by
  by_cases hroot : c.rootProof? = none
  · cases c with
    | initializeProtocol a args =>
      obtain ⟨hfresh, ⟨config, hafter⟩, -⟩ := initializeProtocol_ok h
      obtain rfl := List.mem_singleton.mp hkey
      exact ⟨_, _, hfresh, hafter, .configCreated config⟩
    | initializeClaimAuthority a args =>
      obtain ⟨hfresh, ⟨authority, hafter, haddress⟩, -⟩ := initializeClaimAuthority_ok h
      obtain rfl := List.mem_singleton.mp hkey
      exact ⟨_, _, hfresh, hafter, .claimAuthorityCreated authority haddress⟩
    | transferWithSession a args =>
      obtain ⟨session, huse, hwithin, -⟩ := transferWithSession_ok h
      obtain rfl := List.mem_singleton.mp hkey
      exact huse.changed rfl (.inl hwithin)
    | createPaymentLinkWithSession a args =>
      obtain ⟨session, huse, hwithin, -, hcreated, hmint, -, haddress, ⟨t, ht, htmint, htowner⟩,
        hflow, -⟩ :=
        createPaymentLinkWithSession_ok h
      obtain ⟨bump, hafter⟩ := hcreated.after
      have hfunded : args.amount.toNat ≤ t.amount.toNat := by
        have hdestination := hflow.destination_eq
        rw [World.tokenBalance_of_token ht] at hdestination
        omega
      rcases List.mem_pair.mp hkey with rfl | rfl
      · exact ⟨_, _, hcreated.fresh, hafter, .linkCreated bump a.vault a.stablecoinMint _ _ _ _
          hcreated.positive hcreated.address (.inl ⟨a.session, session, _, rfl, huse, hwithin⟩)
          (.inl ⟨hmint, _, t, haddress, ht, htmint, htowner, hfunded⟩)⟩
      · exact huse.changed rfl (.inl hwithin)
    | claimPaymentLink a =>
      obtain ⟨link, hsettled, htime, hsigned, hvault, -, -, hpaid, -⟩ := claimPaymentLink_ok h
      obtain rfl := List.mem_singleton.mp hkey
      exact hsettled.changed (.claimed _ hsigned htime hvault (.inl hpaid))
    | cancelPaymentLinkWithSession a args =>
      obtain ⟨session, link, huse, hsettled, hsender, -, -, -, hpaid, -⟩ :=
        cancelPaymentLinkWithSession_ok h
      rcases List.mem_pair.mp hkey with rfl | rfl
      · exact hsettled.changed
          (.cancelledBySession a.session session _ (hsender ▸ huse) rfl (.inl (hsender ▸ hpaid)))
      · exact huse.changed rfl (.inr rfl)
    | refundExpiredPaymentLink a =>
      obtain ⟨link, hsettled, htime, hsender, -, -, -, hpaid, -⟩ := refundExpiredPaymentLink_ok h
      obtain rfl := List.mem_singleton.mp hkey
      exact hsettled.changed (.refunded htime (.inl (hsender ▸ hpaid)))
    | claimSolPaymentLink a =>
      obtain ⟨link, hsettled, htime, hsigned, hvault, hpaid, -⟩ := claimSolPaymentLink_ok h
      obtain rfl := List.mem_singleton.mp hkey
      exact hsettled.changed (.claimed _ hsigned htime hvault (.inr hpaid))
    | refundExpiredSolPaymentLink a =>
      obtain ⟨link, hsettled, htime, hsender, -, hpaid, -⟩ := refundExpiredSolPaymentLink_ok h
      obtain rfl := List.mem_singleton.mp hkey
      exact hsettled.changed (.refunded htime (.inr (hsender ▸ hpaid)))
    | _ => cases hroot
  · exact exec_write_root h hkey hroot

end Steps

/-- Who was entitled to lower a token balance. -/
inductive TokenDebit (rt : Runtime) (ctx : Context) (c : Call) (w w' : World)
    (account : Pubkey) : Prop
  | byRoot (vault : Vault) (action : RootAction) (use : VaultUse rt ctx c w w' vault action)
      (scope : ActionScope) (vaultKey destination mint : Pubkey) (amount nonce : UInt64)
      (proofExpiresAt : Int64)
      (action_eq :
        action = .transfer scope vaultKey account destination mint amount nonce proofExpiresAt)
      (address : associatedTokenAddress rt vaultKey mint = some account)
      (flow : TokenFlow w w' account destination amount.toNat)
  | bySession (sessionKey vaultKey mint destination : Pubkey) (session : Session) (amount :
      ℕ) (nonce : UInt64)
      (call : c.sessionUse? = some (sessionKey, amount, nonce))
      (use : SessionUse ctx w w' sessionKey vaultKey session amount nonce)
        (admitted : PolicyAdmits session amount)
      (vault : ∃ v, w.data vaultKey = .vault v)
      (address : associatedTokenAddress rt vaultKey mint = some account)
      (flow : TokenFlow w w' account destination amount)
  | byLink (key : Pubkey) (link : PaymentLink) (before : w.data key = .link link) (written :
      key ∈ c.writes)
      (address : associatedTokenAddress rt key link.mint = some account)

/-- Who was entitled to lower the lamports of a record. -/
inductive LamportDebit (rt : Runtime) (ctx : Context) (c : Call) (w w' : World)
    (key : Pubkey) : Prop
  | byTransfer (vault : Vault) (action : RootAction) (use : VaultUse rt ctx c w w' vault action)
      (scope : ActionScope) (recipient : Pubkey) (amount nonce : UInt64) (proofExpiresAt : Int64)
      (action_eq : action = .transferSol scope key recipient amount nonce proofExpiresAt)
      (flow : LamportFlow w w' key recipient amount.toNat)
      (reserve : (rt.minimumBalance (AccountData.vault vault).dataLen).toNat ≤
        (w'.lamports key).toNat)
  | byLinkCreation (vault : Vault) (action : RootAction) (use : VaultUse rt ctx c w w' vault action)
      (scope : ActionScope) (paymentLink : Pubkey) (linkId recipientCommitment : FixedBytes 32)
      (amount : UInt64) (expiresAt : Int64) (nonce : UInt64) (proofExpiresAt : Int64)
      (action_eq :
        action = .createSolPaymentLink scope key paymentLink linkId recipientCommitment amount
        expiresAt nonce proofExpiresAt)
      (source : (w.lamports key).toNat = (w'.lamports key).toNat + amount.toNat)
      (credited : (w.lamports paymentLink).toNat + amount.toNat ≤ (w'.lamports paymentLink).toNat)
      (created : LinkCreated rt w w' paymentLink key defaultPubkey linkId recipientCommitment amount
        expiresAt)
      (reserve : (rt.minimumBalance (AccountData.vault vault).dataLen).toNat ≤
        (w'.lamports key).toNat)
  | bySettlement (link : PaymentLink) (before : w.data key = .link link) (written : key ∈ c.writes)
      (native : link.mint = defaultPubkey)

section Debits

variable {rt : Runtime} {ctx : Context} {c : Call} {w w' : World}

theorem exec_tokenDebit (h : exec rt ctx c w = .ok w') {account : Pubkey}
    (hdebit : account ∈ c.tokenDebits) :
    TokenDebit rt ctx c w w' account := by
  cases c with
  | transferWithPasskey a args =>
    obtain ⟨config, vault, huse, haddress, hflow, -⟩ := transferWithPasskey_ok h
    obtain rfl := List.mem_singleton.mp hdebit
    exact .byRoot vault _
      (huse.vaultUse rfl rfl) _ a.vault a.destinationTokenAccount a.stablecoinMint _ _ _ rfl
      haddress hflow
  | transferWithSession a args =>
    obtain ⟨session, huse, hwithin, hvault, haddress, hflow, -⟩ := transferWithSession_ok h
    obtain rfl := List.mem_singleton.mp hdebit
    exact .bySession a.session a.vault a.stablecoinMint _ session _ _ rfl huse hwithin hvault
      haddress hflow
  | createPaymentLinkWithSession a args =>
    obtain ⟨session, huse, hwithin, hvault, -, -, haddress, -, -, hflow, -⟩ :=
      createPaymentLinkWithSession_ok h
    obtain rfl := List.mem_singleton.mp hdebit
    exact .bySession a.session a.vault a.stablecoinMint _ session _ _ rfl huse hwithin hvault
      haddress hflow
  | claimPaymentLink a =>
    obtain ⟨link, hsettled, -, -, -, hmint, haddress, -, -⟩ := claimPaymentLink_ok h
    obtain rfl := List.mem_singleton.mp hdebit
    exact .byLink a.paymentLink link hsettled.before (by simp [Call.writes]) (hmint ▸ haddress)
  | cancelPaymentLinkWithSession a args =>
    obtain ⟨session, link, -, hsettled, -, -, hmint, haddress, -, -⟩ :=
      cancelPaymentLinkWithSession_ok h
    obtain rfl := List.mem_singleton.mp hdebit
    exact .byLink a.paymentLink link hsettled.before (by simp [Call.writes]) (hmint ▸ haddress)
  | refundExpiredPaymentLink a =>
    obtain ⟨link, hsettled, -, -, -, hmint, haddress, -, -⟩ := refundExpiredPaymentLink_ok h
    obtain rfl := List.mem_singleton.mp hdebit
    exact .byLink a.paymentLink link hsettled.before (by simp [Call.writes]) (hmint ▸ haddress)
  | _ => simp [Call.tokenDebits] at hdebit

theorem exec_lamportDebit (h : exec rt ctx c w = .ok w') {key : Pubkey}
    (hdebit : key ∈ c.lamportDebits) :
    LamportDebit rt ctx c w w' key := by
  cases c with
  | transferSolWithPasskey a args =>
    obtain ⟨config, vault, huse, hflow, hreserve, -⟩ := transferSolWithPasskey_ok h
    obtain rfl := List.mem_singleton.mp hdebit
    exact .byTransfer vault _ (huse.vaultUse rfl rfl) _ a.recipient _ _ _ rfl hflow hreserve
  | createSolPaymentLinkWithPasskey a args =>
    obtain ⟨config, vault, huse, hcreated, hsource, hreserve, hcredited, -, -⟩ :=
      createSolPaymentLinkWithPasskey_ok h
    obtain rfl := List.mem_singleton.mp hdebit
    exact .byLinkCreation vault _
      (huse.vaultUse rfl rfl) _ a.paymentLink _ _ _ _ _ _ rfl hsource hcredited
      hcreated hreserve
  | claimSolPaymentLink a =>
    obtain ⟨link, hsettled, -, -, -, hpaid, -⟩ := claimSolPaymentLink_ok h
    obtain rfl := List.mem_singleton.mp hdebit
    exact .bySettlement link hsettled.before (by simp [Call.writes]) hpaid.1
  | cancelSolPaymentLinkWithPasskey a args =>
    obtain ⟨config, vault, link, -, hsettled, -, hpaid, -⟩ := cancelSolPaymentLinkWithPasskey_ok h
    obtain rfl := List.mem_singleton.mp hdebit
    exact .bySettlement link hsettled.before (by simp [Call.writes]) hpaid.1
  | refundExpiredSolPaymentLink a =>
    obtain ⟨link, hsettled, -, -, -, hpaid, -⟩ := refundExpiredSolPaymentLink_ok h
    obtain rfl := List.mem_singleton.mp hdebit
    exact .bySettlement link hsettled.before (by simp [Call.writes]) hpaid.1
  | _ => simp [Call.lamportDebits] at hdebit

end Debits

end VeriAgentPay
