import VeriAgentPay.WalletInstructions

/-!
# The payment-link instructions

The instructions of `payment_links.rs`. A link of the stablecoin keeps its escrow in the
token account associated with the link's address; a native link, whose `mint` is the default
key, keeps it as lamports of the link account itself.
-/

namespace VeriAgentPay
open FixedWidth CheckedOutcome

def paymentLinkSeeds (senderVault : Pubkey) (linkId : FixedBytes 32) : List Bytes :=
  [paymentLinkSeed, senderVault.toList, linkId.toList]

section Checks

variable (rt : Runtime)

def requireClaimAuthority (claimAuthorityConfig : ClaimAuthorityConfig)
    (key claimAuthority : Pubkey) :
    Outcome Unit := do
  requireSeeds rt [claimAuthoritySeed] claimAuthorityConfig.bump key
  require (claimAuthorityConfig.authority = claimAuthority) (.custom .invalidClaimAuthority)

def requirePaymentLink (link : PaymentLink) (key senderVault : Pubkey) : Outcome Unit :=
  requireSeeds rt (paymentLinkSeeds senderVault link.linkId) link.bump key

def requireLinkSender (link : PaymentLink) (vault : Pubkey) : Outcome Unit :=
  require (link.senderVault = vault) (.custom .invalidPaymentLinkSender)

def requireLinkMint (link : PaymentLink) (stablecoinMint : Pubkey) : Outcome Unit :=
  require (link.mint = stablecoinMint) (.custom .invalidStablecoinMint)

def requireNativeLink (link : PaymentLink) : Outcome Unit :=
  require (link.mint = defaultPubkey) (.custom .invalidNativePaymentLink)

def requireActiveLink (link : PaymentLink) : Outcome Unit :=
  require (link.status = paymentLinkStatusActive) (.custom .paymentLinkNotActive)

end Checks

def validatePaymentLinkExpiry (now expiresAt : Int64) : Outcome Unit :=
  require (expiresAt > now ∧ saturatingSub expiresAt now ≤ maxPaymentLinkDurationSeconds)
    (.custom .invalidPaymentLinkExpiry)

def transferFromLink (rt : Runtime) (w : World) (linkKey : Pubkey) (link : PaymentLink)
    (source destination mint : Pubkey) (decimals : UInt8) (amount : UInt64) : Outcome World :=
  transferCheckedSigned rt w source mint destination linkKey
    (paymentLinkSeeds link.senderVault link.linkId)
    link.bump amount decimals

/-- A link as both creation handlers write it. -/
def newPaymentLink (bump : UInt8) (senderVault mint : Pubkey)
    (linkId recipientCommitment : FixedBytes 32) (amount : UInt64) (expiresAt now : Int64) :
    PaymentLink :=
  { version := 1, bump := bump, status := paymentLinkStatusActive, senderVault := senderVault
    mint := mint
    linkId := linkId, recipientCommitment := recipientCommitment, amount :=
      amount, expiresAt := expiresAt
    createdAt := now, settledAt := 0, claimedDestination := defaultPubkey }

def PaymentLink.claimed (link : PaymentLink) (now : Int64) (recipientVault : Pubkey) :
    PaymentLink :=
  { link with
    status := paymentLinkStatusClaimed, settledAt := now, claimedDestination := recipientVault }

def PaymentLink.cancelled (link : PaymentLink) (now : Int64) : PaymentLink :=
  { link with status := paymentLinkStatusCancelled, settledAt := now }

def PaymentLink.refunded (link : PaymentLink) (now : Int64) : PaymentLink :=
  { link with status := paymentLinkStatusRefunded, settledAt := now }

structure InitializeClaimAuthorityArgs where
  authority : Pubkey
  deriving DecidableEq

structure InitializeClaimAuthority where
  protocolAuthority : Pubkey
  config : Pubkey
  claimAuthorityConfig : Pubkey
  deriving DecidableEq

def initializeClaimAuthority (rt : Runtime) (ctx : Context) (a : InitializeClaimAuthority)
    (args : InitializeClaimAuthorityArgs) (w : World) : Outcome World := do
  let config ← load AccountData.config? w a.config
  let w₁ ← initAccount rt ctx w a.protocolAuthority a.claimAuthorityConfig [claimAuthoritySeed]
    fun bump =>
    .claimAuthority { version := 1, bump := bump, authority := args.authority }
  require (a.protocolAuthority = config.authority) (.anchor .constraintAddress)
  requireConfig rt config a.config
  require (args.authority ≠ defaultPubkey) (.custom .invalidClaimAuthority)
  pure w₁

structure CreatePaymentLinkWithSessionArgs where
  linkId : FixedBytes 32
  recipientCommitment : FixedBytes 32
  amount : UInt64
  expiresAt : Int64
  sessionNonce : UInt64
  deriving DecidableEq

structure CreatePaymentLinkWithSession where
  payer : Pubkey
  config : Pubkey
  vault : Pubkey
  session : Pubkey
  sessionSigner : Pubkey
  stablecoinMint : Pubkey
  vaultTokenAccount : Pubkey
  paymentLink : Pubkey
  escrowTokenAccount : Pubkey
  deriving DecidableEq

def createPaymentLinkWithSession (rt : Runtime) (ctx : Context) (a : CreatePaymentLinkWithSession)
    (args : CreatePaymentLinkWithSessionArgs) (w : World) : Outcome World := do
  let config ← load AccountData.config? w a.config
  let vault ← load AccountData.vault? w a.vault
  let session ← load AccountData.session? w a.session
  requireSigner ctx a.sessionSigner
  let mint ← load AccountData.mint? w a.stablecoinMint
  let vaultToken ← load AccountData.token? w a.vaultTokenAccount
  let w₁ ← initAccount rt ctx w a.payer a.paymentLink (paymentLinkSeeds a.vault args.linkId)
    fun bump =>
    .link (newPaymentLink bump a.vault a.stablecoinMint args.linkId args.recipientCommitment
      args.amount
      args.expiresAt w.now)
  let w₂ ← createAssociatedToken rt ctx w₁ a.payer a.escrowTokenAccount a.paymentLink
    a.stablecoinMint
  requireConfig rt config a.config
  requireUnpaused config
  requireStablecoin config a.stablecoinMint
  requireVault rt vault a.vault
  requireSession rt session a.session a.vault a.sessionSigner
  requireStablecoinAddress config a.stablecoinMint
  requireAssociatedToken rt vaultToken a.vaultTokenAccount a.vault a.stablecoinMint
  require (args.amount > 0) (.custom .invalidTransferAmount)
  require (args.recipientCommitment ≠ List.Vector.replicate 32 0)
    (.custom .invalidRecipientCommitment)
  validatePaymentLinkExpiry w.now args.expiresAt
  let session' ← spendFromSession w.now session args.amount args.sessionNonce
  let w₃ ← transferFromVault rt w₂ a.vault vault a.vaultTokenAccount a.escrowTokenAccount
    a.stablecoinMint
    mint.decimals args.amount
  pure (w₃.setData a.session (.session session'))

structure ClaimPaymentLink where
  claimAuthority : Pubkey
  config : Pubkey
  claimAuthorityConfig : Pubkey
  recipientVault : Pubkey
  paymentLink : Pubkey
  stablecoinMint : Pubkey
  escrowTokenAccount : Pubkey
  destinationTokenAccount : Pubkey
  deriving DecidableEq

def claimPaymentLink (rt : Runtime) (ctx : Context) (a : ClaimPaymentLink) (w : World) :
    Outcome World := do
  requireSigner ctx a.claimAuthority
  let config ← load AccountData.config? w a.config
  let claimAuthorityConfig ← load AccountData.claimAuthority? w a.claimAuthorityConfig
  let recipientVault ← load AccountData.vault? w a.recipientVault
  let link ← load AccountData.link? w a.paymentLink
  let mint ← load AccountData.mint? w a.stablecoinMint
  let escrow ← load AccountData.token? w a.escrowTokenAccount
  let w₁ ← createAssociatedTokenIfNeeded rt ctx w a.claimAuthority a.destinationTokenAccount
    a.recipientVault a.stablecoinMint
  requireConfig rt config a.config
  requireUnpaused config
  requireStablecoin config a.stablecoinMint
  requireClaimAuthority rt claimAuthorityConfig a.claimAuthorityConfig a.claimAuthority
  requireVault rt recipientVault a.recipientVault
  requirePaymentLink rt link a.paymentLink link.senderVault
  requireLinkMint link a.stablecoinMint
  requireStablecoinAddress config a.stablecoinMint
  requireAssociatedToken rt escrow a.escrowTokenAccount a.paymentLink a.stablecoinMint
  requireActiveLink link
  require (w.now ≤ link.expiresAt) (.custom .paymentLinkExpired)
  let w₂ ← transferFromLink rt w₁ a.paymentLink link a.escrowTokenAccount a.destinationTokenAccount
    a.stablecoinMint mint.decimals link.amount
  pure (w₂.setData a.paymentLink (.link (link.claimed w.now a.recipientVault)))

structure CancelPaymentLinkWithSessionArgs where
  sessionNonce : UInt64
  deriving DecidableEq

structure CancelPaymentLinkWithSession where
  config : Pubkey
  vault : Pubkey
  session : Pubkey
  sessionSigner : Pubkey
  paymentLink : Pubkey
  stablecoinMint : Pubkey
  escrowTokenAccount : Pubkey
  vaultTokenAccount : Pubkey
  deriving DecidableEq

def cancelPaymentLinkWithSession (rt : Runtime) (ctx : Context) (a : CancelPaymentLinkWithSession)
    (args : CancelPaymentLinkWithSessionArgs) (w : World) : Outcome World := do
  let config ← load AccountData.config? w a.config
  let vault ← load AccountData.vault? w a.vault
  let session ← load AccountData.session? w a.session
  requireSigner ctx a.sessionSigner
  let link ← load AccountData.link? w a.paymentLink
  let mint ← load AccountData.mint? w a.stablecoinMint
  let escrow ← load AccountData.token? w a.escrowTokenAccount
  let vaultToken ← load AccountData.token? w a.vaultTokenAccount
  requireConfig rt config a.config
  requireUnpaused config
  requireVault rt vault a.vault
  requireSession rt session a.session a.vault a.sessionSigner
  requirePaymentLink rt link a.paymentLink a.vault
  requireLinkSender link a.vault
  requireLinkMint link a.stablecoinMint
  requireStablecoinAddress config a.stablecoinMint
  requireAssociatedToken rt escrow a.escrowTokenAccount a.paymentLink a.stablecoinMint
  requireAssociatedToken rt vaultToken a.vaultTokenAccount a.vault a.stablecoinMint
  requireActiveLink link
  useSession w.now session args.sessionNonce
  let nonce ← nextNonce session.nonce
  let w₁ ← transferFromLink rt w a.paymentLink link a.escrowTokenAccount a.vaultTokenAccount
    a.stablecoinMint mint.decimals link.amount
  pure ((w₁.setData a.session (.session { session with nonce := nonce })).setData a.paymentLink
    (.link (link.cancelled w.now)))

structure RefundExpiredPaymentLink where
  config : Pubkey
  senderVault : Pubkey
  paymentLink : Pubkey
  stablecoinMint : Pubkey
  escrowTokenAccount : Pubkey
  vaultTokenAccount : Pubkey
  deriving DecidableEq

def refundExpiredPaymentLink (rt : Runtime) (a : RefundExpiredPaymentLink) (w : World) :
    Outcome World := do
  let config ← load AccountData.config? w a.config
  let senderVault ← load AccountData.vault? w a.senderVault
  let link ← load AccountData.link? w a.paymentLink
  let mint ← load AccountData.mint? w a.stablecoinMint
  let escrow ← load AccountData.token? w a.escrowTokenAccount
  let vaultToken ← load AccountData.token? w a.vaultTokenAccount
  requireConfig rt config a.config
  requireVault rt senderVault a.senderVault
  requireLinkSender link a.senderVault
  requirePaymentLink rt link a.paymentLink a.senderVault
  requireLinkMint link a.stablecoinMint
  requireStablecoinAddress config a.stablecoinMint
  requireAssociatedToken rt escrow a.escrowTokenAccount a.paymentLink a.stablecoinMint
  requireAssociatedToken rt vaultToken a.vaultTokenAccount a.senderVault a.stablecoinMint
  requireActiveLink link
  require (w.now > link.expiresAt) (.custom .paymentLinkNotExpired)
  let w₁ ← transferFromLink rt w a.paymentLink link a.escrowTokenAccount a.vaultTokenAccount
    a.stablecoinMint mint.decimals link.amount
  pure (w₁.setData a.paymentLink (.link (link.refunded w.now)))

structure CreateSolPaymentLinkWithPasskeyArgs extends RootProof where
  linkId : FixedBytes 32
  recipientCommitment : FixedBytes 32
  amount : UInt64
  expiresAt : Int64
  vaultNonce : UInt64
  deriving DecidableEq

structure CreateSolPaymentLinkWithPasskey where
  payer : Pubkey
  config : Pubkey
  vault : Pubkey
  paymentLink : Pubkey
  deriving DecidableEq

def createSolPaymentLinkWithPasskey (rt : Runtime) (ctx : Context)
    (a : CreateSolPaymentLinkWithPasskey) (args : CreateSolPaymentLinkWithPasskeyArgs) (w : World) :
    Outcome World := do
  let config ← load AccountData.config? w a.config
  let vault ← load AccountData.vault? w a.vault
  let w₁ ← initAccount rt ctx w a.payer a.paymentLink (paymentLinkSeeds a.vault args.linkId)
    fun bump =>
    .link (newPaymentLink bump a.vault defaultPubkey args.linkId args.recipientCommitment
      args.amount
      args.expiresAt w.now)
  requireConfig rt config a.config
  requireUnpaused config
  requireVault rt vault a.vault
  require (args.amount > 0) (.custom .invalidTransferAmount)
  require (args.recipientCommitment ≠ List.Vector.replicate 32 0)
    (.custom .invalidRecipientCommitment)
  require (vault.nonce = args.vaultNonce) (.custom .invalidVaultNonce)
  validatePaymentLinkExpiry w.now args.expiresAt
  authorizeRoot rt config ctx w.now vault.rootPublicKey
    (.createSolPaymentLink (scopeOf rt config a.config) a.vault a.paymentLink args.linkId
      args.recipientCommitment args.amount args.expiresAt args.vaultNonce args.proofExpiresAt)
    args.toRootProof
  let nonce ← nextNonce vault.nonce
  let w₂ ← transferProgramLamports rt w₁ a.vault a.paymentLink args.amount
    .insufficientVaultLamports
  pure (w₂.setData a.vault (.vault { vault with nonce := nonce }))

structure ClaimSolPaymentLink where
  claimAuthority : Pubkey
  config : Pubkey
  claimAuthorityConfig : Pubkey
  recipientVault : Pubkey
  paymentLink : Pubkey
  deriving DecidableEq

def claimSolPaymentLink (rt : Runtime) (ctx : Context) (a : ClaimSolPaymentLink) (w : World) :
    Outcome World := do
  requireSigner ctx a.claimAuthority
  let config ← load AccountData.config? w a.config
  let claimAuthorityConfig ← load AccountData.claimAuthority? w a.claimAuthorityConfig
  let recipientVault ← load AccountData.vault? w a.recipientVault
  let link ← load AccountData.link? w a.paymentLink
  requireConfig rt config a.config
  requireUnpaused config
  requireClaimAuthority rt claimAuthorityConfig a.claimAuthorityConfig a.claimAuthority
  requireVault rt recipientVault a.recipientVault
  requirePaymentLink rt link a.paymentLink link.senderVault
  requireNativeLink link
  requireActiveLink link
  require (w.now ≤ link.expiresAt) (.custom .paymentLinkExpired)
  let w₁ ← transferProgramLamports rt w a.paymentLink a.recipientVault link.amount
    .insufficientEscrowLamports
  pure (w₁.setData a.paymentLink (.link (link.claimed w.now a.recipientVault)))

structure CancelSolPaymentLinkWithPasskeyArgs extends RootProof where
  vaultNonce : UInt64
  deriving DecidableEq

structure CancelSolPaymentLinkWithPasskey where
  payer : Pubkey
  config : Pubkey
  vault : Pubkey
  paymentLink : Pubkey
  deriving DecidableEq

def cancelSolPaymentLinkWithPasskey (rt : Runtime) (ctx : Context)
    (a : CancelSolPaymentLinkWithPasskey) (args : CancelSolPaymentLinkWithPasskeyArgs) (w : World) :
    Outcome World := do
  requireSigner ctx a.payer
  let config ← load AccountData.config? w a.config
  let vault ← load AccountData.vault? w a.vault
  let link ← load AccountData.link? w a.paymentLink
  requireConfig rt config a.config
  requireUnpaused config
  requireVault rt vault a.vault
  requirePaymentLink rt link a.paymentLink a.vault
  requireLinkSender link a.vault
  requireNativeLink link
  requireActiveLink link
  require (vault.nonce = args.vaultNonce) (.custom .invalidVaultNonce)
  authorizeRoot rt config ctx w.now vault.rootPublicKey
    (.cancelSolPaymentLink (scopeOf rt config a.config) a.vault a.paymentLink args.vaultNonce
      args.proofExpiresAt) args.toRootProof
  let nonce ← nextNonce vault.nonce
  let w₁ ← transferProgramLamports rt w a.paymentLink a.vault link.amount
    .insufficientEscrowLamports
  pure ((w₁.setData a.vault (.vault { vault with nonce := nonce })).setData a.paymentLink
    (.link (link.cancelled w.now)))

structure RefundExpiredSolPaymentLink where
  config : Pubkey
  senderVault : Pubkey
  paymentLink : Pubkey
  deriving DecidableEq

def refundExpiredSolPaymentLink (rt : Runtime) (a : RefundExpiredSolPaymentLink) (w : World) :
    Outcome World := do
  let config ← load AccountData.config? w a.config
  let senderVault ← load AccountData.vault? w a.senderVault
  let link ← load AccountData.link? w a.paymentLink
  requireConfig rt config a.config
  requireVault rt senderVault a.senderVault
  requireLinkSender link a.senderVault
  requirePaymentLink rt link a.paymentLink a.senderVault
  requireNativeLink link
  requireActiveLink link
  require (w.now > link.expiresAt) (.custom .paymentLinkNotExpired)
  let w₁ ← transferProgramLamports rt w a.paymentLink a.senderVault link.amount
    .insufficientEscrowLamports
  pure (w₁.setData a.paymentLink (.link (link.refunded w.now)))

end VeriAgentPay
