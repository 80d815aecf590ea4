import VeriAgentPay.ChallengeLayouts

/-!
# The protocol and wallet instructions

One definition for each instruction of `protocol.rs`, `wallet.rs` and `native_sol.rs`. Each
first reads the accounts that must exist, then creates those it initialises, then checks the
constraints of its account list and runs its handler; the accounts it changed are written
back at the end.
-/

namespace VeriAgentPay
open FixedWidth CheckedOutcome

/-- The last three arguments of every root-authorised instruction. -/
structure RootProof where
  proofExpiresAt : Int64
  authenticatorData : Bytes
  clientDataJson : Bytes
  deriving DecidableEq

section Checks

variable (rt : Runtime)

def requireConfig (config : ProtocolConfig) (key : Pubkey) : Outcome Unit :=
  requireSeeds rt [protocolSeed] config.bump key

def requireUnpaused (config : ProtocolConfig) : Outcome Unit :=
  require (config.paused = false) (.custom .protocolPaused)

def requireStablecoin (config : ProtocolConfig) (stablecoinMint : Pubkey) : Outcome Unit :=
  require (config.stablecoinMint = stablecoinMint) (.custom .invalidStablecoinMint)

/-- The constraint `address = config.stablecoin_mint`. -/
def requireStablecoinAddress (config : ProtocolConfig) (stablecoinMint : Pubkey) : Outcome Unit :=
  require (stablecoinMint = config.stablecoinMint) (.anchor .constraintAddress)

def vaultSeeds (rootKeyHash userSalt : FixedBytes 32) : List Bytes :=
  [vaultSeed, rootKeyHash.toList, userSalt.toList]

def sessionSeeds (vault sessionPublicKey : Pubkey) : List Bytes :=
  [sessionSeed, vault.toList, sessionPublicKey.toList]

def requireVault (vault : Vault) (key : Pubkey) : Outcome Unit :=
  requireSeeds rt (vaultSeeds vault.rootKeyHash vault.userSalt) vault.bump key

def requireSession (session : Session) (key vault sessionSigner : Pubkey) : Outcome Unit := do
  requireSeeds rt (sessionSeeds vault sessionSigner) session.bump key
  require (session.vault = vault) (.anchor .constraintRaw)
  require (session.publicKey = sessionSigner) (.anchor .constraintRaw)

/-- The call of `verify_root_authorization` with which the seven handlers check their challenge. -/
def authorizeRoot (config : ProtocolConfig) (ctx : Context) (now : Int64)
    (rootPublicKey : FixedBytes 33) (action : RootAction) (proof : RootProof) : Outcome Unit :=
  verifyRootAuthorization rt config ctx now
    { rootPublicKey := rootPublicKey
      authenticatorData := proof.authenticatorData
      clientDataJson := proof.clientDataJson
      expectedChallenge := challenge rt action.parts
      expiresAt := proof.proofExpiresAt }

def scopeOf (config : ProtocolConfig) (key : Pubkey) : ActionScope :=
  ⟨config.clusterDomain, rt.programId, key⟩

end Checks

/-- `nonce.checked_add(1)`, of vaults and of sessions. -/
def nextNonce (nonce : UInt64) : Outcome UInt64 :=
  orError (checkedAdd nonce 1) (.custom .arithmeticOverflow)

def validateSessionPolicy (policy : SessionPolicy) : Outcome Unit := do
  require (policy.validAfter ≤ policy.validUntil ∧
      saturatingSub policy.validUntil policy.validAfter ≤ maxSessionDurationSeconds)
    (.custom .invalidSessionWindow)
  require (policy.actionBitmap ≠ 0 ∧ policy.actionBitmap &&& ~~~supportedSessionActions = 0)
    (.custom .invalidSessionActions)
  require (policy.perActionLimit > 0 ∧ policy.perActionLimit ≤ policy.cumulativeLimit)
    (.custom .invalidSessionLimits)

def writeSession (bump : UInt8) (vault : Pubkey) (policy : SessionPolicy) : Session :=
  { version := 1, bump := bump, revoked := false, vault := vault
    publicKey := policy.sessionPublicKey
    actionBitmap := policy.actionBitmap, perActionLimit := policy.perActionLimit
    cumulativeLimit := policy.cumulativeLimit, spent := 0, validAfter := policy.validAfter
    validUntil := policy.validUntil, nonce := 0 }

/-- The checks every use of a session starts with. -/
def useSession (now : Int64) (session : Session) (sessionNonce : UInt64) : Outcome Unit := do
  require (session.revoked = false) (.custom .sessionRevoked)
  require (now ≥ session.validAfter ∧ now ≤ session.validUntil) (.custom .sessionInactive)
  require (session.actionBitmap &&& sessionActionTransfer ≠ 0) (.custom .sessionActionDenied)
  require (session.nonce = sessionNonce) (.custom .invalidSessionNonce)

/-- The block that the two spending handlers share: policy checks and the new counters. -/
def spendFromSession (now : Int64) (session : Session) (amount sessionNonce : UInt64) :
    Outcome Session := do
  useSession now session sessionNonce
  require (amount ≤ session.perActionLimit) (.custom .perActionLimitExceeded)
  let newSpent ← orError (checkedAdd session.spent amount) (.custom .arithmeticOverflow)
  require (newSpent ≤ session.cumulativeLimit) (.custom .cumulativeLimitExceeded)
  let nonce ← nextNonce session.nonce
  pure { session with spent := newSpent, nonce := nonce }

def transferFromVault (rt : Runtime) (w : World) (vaultKey : Pubkey) (vault : Vault)
    (source destination mint : Pubkey) (decimals : UInt8) (amount : UInt64) : Outcome World :=
  transferCheckedSigned rt w source mint destination vaultKey
    (vaultSeeds vault.rootKeyHash vault.userSalt)
    vault.bump amount decimals

/-- A vault as both initialisations write it. -/
def newVault (bump : UInt8) (rootPublicKey : FixedBytes 33) (rootKeyHash userSalt : FixedBytes 32)
    (nonce : UInt64) (now : Int64) : Vault :=
  { version := 1, bump := bump, rootPublicKey := rootPublicKey, rootKeyHash := rootKeyHash
    userSalt := userSalt, nonce := nonce, createdAt := now }

structure InitializeProtocolArgs where
  rpIdHash : FixedBytes 32
  originHash : FixedBytes 32
  clusterDomain : FixedBytes 32
  deriving DecidableEq

structure InitializeProtocol where
  authority : Pubkey
  config : Pubkey
  stablecoinMint : Pubkey
  deriving DecidableEq

def initializeProtocol (rt : Runtime) (ctx : Context) (a : InitializeProtocol)
    (args : InitializeProtocolArgs) (w : World) : Outcome World := do
  let _ ← load AccountData.mint? w a.stablecoinMint
  initAccount rt ctx w a.authority a.config [protocolSeed] fun bump =>
    .config
      { version := 1, bump := bump, paused := false, authority := a.authority
        stablecoinMint := a.stablecoinMint, rpIdHash := args.rpIdHash, originHash := args.originHash
        clusterDomain := args.clusterDomain }

structure InitializeVaultArgs extends RootProof where
  rootPublicKey : FixedBytes 33
  rootKeyHash : FixedBytes 32
  userSalt : FixedBytes 32
  deriving DecidableEq

structure InitializeVault where
  payer : Pubkey
  config : Pubkey
  vault : Pubkey
  stablecoinMint : Pubkey
  vaultTokenAccount : Pubkey
  deriving DecidableEq

def initializeVault (rt : Runtime) (ctx : Context) (a : InitializeVault)
    (args : InitializeVaultArgs) (w : World) : Outcome World := do
  let config ← load AccountData.config? w a.config
  let _ ← load AccountData.mint? w a.stablecoinMint
  let w₁ ← initAccount rt ctx w a.payer a.vault (vaultSeeds args.rootKeyHash args.userSalt)
    fun bump =>
    .vault (newVault bump args.rootPublicKey args.rootKeyHash args.userSalt 0 w.now)
  let w₂ ← createAssociatedTokenIfNeeded rt ctx w₁ a.payer a.vaultTokenAccount a.vault
    a.stablecoinMint
  requireConfig rt config a.config
  requireUnpaused config
  requireStablecoin config a.stablecoinMint
  requireStablecoinAddress config a.stablecoinMint
  require (rt.sha256 args.rootPublicKey.toList = args.rootKeyHash) (.custom .invalidRootKeyHash)
  authorizeRoot rt config ctx w.now args.rootPublicKey
    (.initializeVault (scopeOf rt config a.config) a.vault a.vaultTokenAccount args.rootPublicKey
      args.rootKeyHash args.userSalt args.proofExpiresAt) args.toRootProof
  pure w₂

structure GrantSessionArgs extends SessionPolicy, RootProof where
  vaultNonce : UInt64
  deriving DecidableEq

structure GrantSession where
  payer : Pubkey
  config : Pubkey
  vault : Pubkey
  session : Pubkey
  deriving DecidableEq

/-- The handler has its own policy checks and its own writes of the session. -/
def grantSession (rt : Runtime) (ctx : Context) (a : GrantSession) (args : GrantSessionArgs)
    (w : World) :
    Outcome World := do
  let config ← load AccountData.config? w a.config
  let vault ← load AccountData.vault? w a.vault
  let w₁ ← initAccount rt ctx w a.payer a.session (sessionSeeds a.vault args.sessionPublicKey)
    fun bump =>
    .session
      { version := 1, bump := bump, revoked := false, vault := a.vault
        publicKey := args.sessionPublicKey
        actionBitmap := args.actionBitmap, perActionLimit := args.perActionLimit
        cumulativeLimit := args.cumulativeLimit, spent := 0, validAfter := args.validAfter
        validUntil := args.validUntil, nonce := 0 }
  requireConfig rt config a.config
  requireUnpaused config
  requireVault rt vault a.vault
  require (vault.nonce = args.vaultNonce) (.custom .invalidVaultNonce)
  require (args.validAfter ≤ args.validUntil ∧
      saturatingSub args.validUntil args.validAfter ≤ maxSessionDurationSeconds)
    (.custom .invalidSessionWindow)
  require (args.actionBitmap ≠ 0 ∧ args.actionBitmap &&& ~~~supportedSessionActions = 0)
    (.custom .invalidSessionActions)
  require (args.perActionLimit > 0 ∧ args.perActionLimit ≤ args.cumulativeLimit)
    (.custom .invalidSessionLimits)
  authorizeRoot rt config ctx w.now vault.rootPublicKey
    (.grantSession (scopeOf rt config a.config) a.vault a.session args.toSessionPolicy
      args.vaultNonce
      args.proofExpiresAt) args.toRootProof
  let nonce ← nextNonce vault.nonce
  pure (w₁.setData a.vault (.vault { vault with nonce := nonce }))

/-- The checks and writes of the handler are those of `validate_session_policy` and
`write_session`. -/
theorem grantSession_eq (rt : Runtime) (ctx : Context) (a : GrantSession) (args : GrantSessionArgs)
    (w : World) :
    grantSession rt ctx a args w = (do
      let config ← load AccountData.config? w a.config
      let vault ← load AccountData.vault? w a.vault
      let w₁ ← initAccount rt ctx w a.payer a.session (sessionSeeds a.vault args.sessionPublicKey)
        fun bump =>
        .session (writeSession bump a.vault args.toSessionPolicy)
      requireConfig rt config a.config
      requireUnpaused config
      requireVault rt vault a.vault
      require (vault.nonce = args.vaultNonce) (.custom .invalidVaultNonce)
      validateSessionPolicy args.toSessionPolicy
      authorizeRoot rt config ctx w.now vault.rootPublicKey
        (.grantSession (scopeOf rt config a.config) a.vault a.session args.toSessionPolicy
          args.vaultNonce
          args.proofExpiresAt) args.toRootProof
      let nonce ← nextNonce vault.nonce
      pure (w₁.setData a.vault (.vault { vault with nonce := nonce }))) := by
  simp only [validateSessionPolicy, bind_assoc]
  rfl

structure InitializeVaultAndGrantSessionArgs extends SessionPolicy, RootProof where
  rootPublicKey : FixedBytes 33
  rootKeyHash : FixedBytes 32
  userSalt : FixedBytes 32
  deriving DecidableEq

structure InitializeVaultAndGrantSession where
  payer : Pubkey
  config : Pubkey
  vault : Pubkey
  session : Pubkey
  stablecoinMint : Pubkey
  vaultTokenAccount : Pubkey
  deriving DecidableEq

def initializeVaultAndGrantSession (rt : Runtime) (ctx : Context)
    (a : InitializeVaultAndGrantSession) (args : InitializeVaultAndGrantSessionArgs) (w : World) :
    Outcome World := do
  let config ← load AccountData.config? w a.config
  let _ ← load AccountData.mint? w a.stablecoinMint
  let w₁ ← initAccount rt ctx w a.payer a.vault (vaultSeeds args.rootKeyHash args.userSalt)
    fun bump =>
    .vault (newVault bump args.rootPublicKey args.rootKeyHash args.userSalt 1 w.now)
  let w₂ ← initAccount rt ctx w₁ a.payer a.session (sessionSeeds a.vault args.sessionPublicKey)
    fun bump =>
    .session (writeSession bump a.vault args.toSessionPolicy)
  let w₃ ← createAssociatedTokenIfNeeded rt ctx w₂ a.payer a.vaultTokenAccount a.vault
    a.stablecoinMint
  requireConfig rt config a.config
  requireUnpaused config
  requireStablecoin config a.stablecoinMint
  requireStablecoinAddress config a.stablecoinMint
  require (rt.sha256 args.rootPublicKey.toList = args.rootKeyHash) (.custom .invalidRootKeyHash)
  validateSessionPolicy args.toSessionPolicy
  authorizeRoot rt config ctx w.now args.rootPublicKey
    (.initializeVaultAndGrantSession
      (scopeOf rt config a.config) a.vault a.session a.vaultTokenAccount
      a.stablecoinMint args.rootPublicKey args.rootKeyHash args.userSalt args.toSessionPolicy
      args.proofExpiresAt) args.toRootProof
  pure w₃

structure PasskeyTransferArgs extends RootProof where
  amount : UInt64
  vaultNonce : UInt64
  deriving DecidableEq

structure TransferWithPasskey where
  payer : Pubkey
  config : Pubkey
  vault : Pubkey
  stablecoinMint : Pubkey
  vaultTokenAccount : Pubkey
  destinationTokenAccount : Pubkey
  deriving DecidableEq

def transferWithPasskey (rt : Runtime) (ctx : Context) (a : TransferWithPasskey)
    (args : PasskeyTransferArgs) (w : World) : Outcome World := do
  requireSigner ctx a.payer
  let config ← load AccountData.config? w a.config
  let vault ← load AccountData.vault? w a.vault
  let mint ← load AccountData.mint? w a.stablecoinMint
  let vaultToken ← load AccountData.token? w a.vaultTokenAccount
  let destinationToken ← load AccountData.token? w a.destinationTokenAccount
  requireConfig rt config a.config
  requireUnpaused config
  requireStablecoin config a.stablecoinMint
  requireVault rt vault a.vault
  requireStablecoinAddress config a.stablecoinMint
  requireAssociatedToken rt vaultToken a.vaultTokenAccount a.vault a.stablecoinMint
  require (destinationToken.mint = a.stablecoinMint) (.anchor .constraintTokenMint)
  require (args.amount > 0) (.custom .invalidTransferAmount)
  require (a.vaultTokenAccount ≠ a.destinationTokenAccount) (.custom .identicalTokenAccounts)
  require (vault.nonce = args.vaultNonce) (.custom .invalidVaultNonce)
  authorizeRoot rt config ctx w.now vault.rootPublicKey
    (.transfer (scopeOf rt config a.config) a.vault a.vaultTokenAccount a.destinationTokenAccount
      a.stablecoinMint args.amount args.vaultNonce args.proofExpiresAt) args.toRootProof
  let nonce ← nextNonce vault.nonce
  let w₁ ← transferFromVault rt w a.vault vault a.vaultTokenAccount a.destinationTokenAccount
    a.stablecoinMint mint.decimals args.amount
  pure (w₁.setData a.vault (.vault { vault with nonce := nonce }))

structure SessionTransferArgs where
  amount : UInt64
  sessionNonce : UInt64
  deriving DecidableEq

structure TransferWithSession where
  config : Pubkey
  vault : Pubkey
  session : Pubkey
  sessionSigner : Pubkey
  stablecoinMint : Pubkey
  vaultTokenAccount : Pubkey
  destinationTokenAccount : Pubkey
  deriving DecidableEq

def transferWithSession (rt : Runtime) (ctx : Context) (a : TransferWithSession)
    (args : SessionTransferArgs) (w : World) : Outcome World := do
  let config ← load AccountData.config? w a.config
  let vault ← load AccountData.vault? w a.vault
  let session ← load AccountData.session? w a.session
  requireSigner ctx a.sessionSigner
  let mint ← load AccountData.mint? w a.stablecoinMint
  let vaultToken ← load AccountData.token? w a.vaultTokenAccount
  let destinationToken ← load AccountData.token? w a.destinationTokenAccount
  requireConfig rt config a.config
  requireUnpaused config
  requireStablecoin config a.stablecoinMint
  requireVault rt vault a.vault
  requireSession rt session a.session a.vault a.sessionSigner
  requireStablecoinAddress config a.stablecoinMint
  requireAssociatedToken rt vaultToken a.vaultTokenAccount a.vault a.stablecoinMint
  require (destinationToken.mint = a.stablecoinMint) (.anchor .constraintTokenMint)
  require (args.amount > 0) (.custom .invalidTransferAmount)
  require (a.vaultTokenAccount ≠ a.destinationTokenAccount) (.custom .identicalTokenAccounts)
  let session' ← spendFromSession w.now session args.amount args.sessionNonce
  let w₁ ← transferFromVault rt w a.vault vault a.vaultTokenAccount a.destinationTokenAccount
    a.stablecoinMint mint.decimals args.amount
  pure (w₁.setData a.session (.session session'))

structure SolPasskeyTransferArgs extends RootProof where
  amount : UInt64
  vaultNonce : UInt64
  deriving DecidableEq

structure TransferSolWithPasskey where
  payer : Pubkey
  config : Pubkey
  vault : Pubkey
  recipient : Pubkey
  deriving DecidableEq

def transferSolWithPasskey (rt : Runtime) (ctx : Context) (a : TransferSolWithPasskey)
    (args : SolPasskeyTransferArgs) (w : World) : Outcome World := do
  requireSigner ctx a.payer
  let config ← load AccountData.config? w a.config
  let vault ← load AccountData.vault? w a.vault
  requireConfig rt config a.config
  requireUnpaused config
  requireVault rt vault a.vault
  require (args.amount > 0) (.custom .invalidTransferAmount)
  require (a.vault ≠ a.recipient) (.custom .identicalAccounts)
  require (vault.nonce = args.vaultNonce) (.custom .invalidVaultNonce)
  authorizeRoot rt config ctx w.now vault.rootPublicKey
    (.transferSol (scopeOf rt config a.config) a.vault a.recipient args.amount args.vaultNonce
      args.proofExpiresAt) args.toRootProof
  let nonce ← nextNonce vault.nonce
  let w₁ ← transferProgramLamports rt w a.vault a.recipient args.amount .insufficientVaultLamports
  pure (w₁.setData a.vault (.vault { vault with nonce := nonce }))

end VeriAgentPay
