import VeriAgentPay.BackendStore

/-!
# The services behind a payment link

`ShortLinksService`, the parts of `SolanaChainService` and `SolanaRelayerService` that payment
links use, and `SolanaPaymentLinksService`, statement by statement. Results that no other
service reads are left out.
-/

namespace VeriAgentPay.Backend
open FixedWidth CheckedOutcome Client

/-- A text that the language counts as true. -/
def truthy (value : Option String) : Option String := value.filter (· ≠ "")

def linkLifetimeMs : ℤ := 24 * 60 * 60 * 1000
def maxClaimAttempts : ℕ := 5

def LinkStatus.text : LinkStatus → String
  | .pending => "PENDING"
  | .active => "ACTIVE"
  | .claimed => "CLAIMED"
  | .cancelled => "CANCELLED"
  | .expired => "EXPIRED"
  | .failed => "FAILED"

def isNativeSolanaPaymentLink (link : ShortLink) : Bool :=
  link.kind = .pay && (truthy link.envelopeId).any isSolanaAddress

def ShortLink.isExpired (link : ShortLink) (now : ℤ) : Bool := link.expiresAt.any (· < now)

namespace ShortLinksService

structure CreateShortLinkDto where
  kind : LinkKind
  senderUserId : Option String := none
  targetUserId : Option String := none
  toAddress : Option String := none
  amount : Option ℚ := none
  token : Option String := none
  fromUser : Option String := none
  platform : Option String := none
  envelopeId : Option String := none
  fundingTxHash : Option String := none
  expiresAt : Option ℤ := none
  status : Option LinkStatus := none

/-- The loop that looks for a code without a row. -/
def uniqueCode : ℕ → String → Service String
  | 0, _ => throwing
    (.badRequest "Failed to generate a unique short link code after multiple attempts")
  | attempts + 1, code => do
    let existing ← ask (.findLink code)
    if existing.isNone then pure code
    else do
      let code ← ask .randomCode
      uniqueCode attempts code

def create (dto : CreateShortLinkDto) : Service ShortLink := do
  let code ← ask .randomCode
  let code ← uniqueCode 5 code
  let now ← ask .now
  let defaultExpiry := now + 24 * 60 * 60 * 1000
  ask (.createLink
    { code := code, kind := dto.kind, senderUserId := truthy dto.senderUserId
      targetUserId := truthy dto.targetUserId, toAddress := truthy dto.toAddress, amount :=
        dto.amount.filter (· ≠ 0)
      token := some ((truthy dto.token).getD "USDC"), fromUser := truthy dto.fromUser
      platform := truthy dto.platform, envelopeId := truthy dto.envelopeId, fundingTxHash :=
        truthy dto.fundingTxHash
      expiresAt := some (dto.expiresAt.getD defaultExpiry), status := dto.status.getD .active
      claimedAt := none, claimedBy := none, claimTxHash := none, clickCount := 0 })

def markExpired (code : String) (record : ShortLink) : Service ShortLink := do
  let _ ← ask (.updateLink code { status := some .expired })
  pure { record with status := .expired }

def resolve (code : String) : Service ShortLink := do
  let found ← ask (.findLink code)
  let record ← checked (orError found (.notFound s!"Short link code '{code}' not found"))
  let now ← ask .now
  let record ← if record.status = .active ∧ record.isExpired now ∧
    ¬isNativeSolanaPaymentLink record then
      markExpired code record
    else pure record
  let _ ← ask (.updateLink code { incrementClickCount := true })
  pure record

def rejectExpired (code : String) (record : ShortLink) : Service Unit := do
  let _ ← markExpired code record
  throwing (.badRequest s!"Short link code '{code}' has expired")

def redeem (code claimerUserId txHash : String) : Service ShortLink := do
  let record ← resolve code
  let status := record.status.text
  check (record.status = .active)
    (.badRequest s!"Short link code '{code}' is no longer active (status: {status})")
  let now ← ask .now
  let _ ← if record.isExpired now ∧ ¬isNativeSolanaPaymentLink record then rejectExpired code record
    else pure ()
  let claimedAt ← ask .now
  ask (.updateLink code
    { status := some .claimed, claimedAt := some claimedAt, claimedBy := some claimerUserId
      claimTxHash := some txHash })

def cancel (code senderUserId : String) : Service ShortLink := do
  let record ← resolve code
  check ((truthy record.senderUserId).all (· = senderUserId))
    (.badRequest "Unauthorized to cancel this short link")
  let status := record.status.text
  check (record.status = .active) (.badRequest s!"Cannot cancel short link with status '{status}'")
  ask (.updateLink code { status := some .cancelled })

def expireLinks : List ShortLink → Service Unit
  | [] => pure ()
  | link :: links => do
    let _ ← if isNativeSolanaPaymentLink link then pure link else markExpired link.code link
    expireLinks links

def sweepExpired : Service Unit := do
  let now ← ask .now
  let expiredLinks ← ask (.findLinks { status := some .active, expiresBefore := some now })
  expireLinks expiredLinks

end ShortLinksService

section Services

variable (d : Deployment)

def normalizeHandle (value : String) : String :=
  let text := trim value
  d.toLowerCase (if text.toList.head? = some '@' then String.ofList text.toList.tail else text)

def paymentLinkRecipientCommitment (platform handle : String) : FixedBytes 32 :=
  d.rt.sha256 (utf8 ("veriagent:solana:payment-link-recipient:v1\x00" ++
    d.toLowerCase platform ++ "\x00" ++
    normalizeHandle d handle))

/-- `createHash('sha256').update(code).digest()`. -/
def linkIdOf (code : String) : Bytes := (d.rt.sha256 (utf8 code)).toList

namespace SolanaChainService

def readVault (address : String) : Service (Option Vault) := do
  let key ← checked (addressKey address "vault")
  ask (.readVault key)

def readSession (vaultAddress : String) (signer : Pubkey) : Service (Option Session) := do
  let vault ← checked (addressKey vaultAddress "vault")
  let address ← checked (deriveSession d.rt vault signer)
  ask (.readSession address)

def readPaymentLink (address : String) : Service (Option PaymentLink) := do
  let key ← checked (addressKey address "payment link")
  ask (.readPaymentLink key)

def vaultTokenAccount (vaultAddress : String) : Except Failure Pubkey := do
  let vault ← addressKey vaultAddress "vault"
  getAssociatedTokenAddressSync d.rt d.stablecoinMint vault

def recipientTokenAccount (recipientAddress : String) : Except Failure Pubkey := do
  let recipient ← addressKey recipientAddress "recipient"
  getAssociatedTokenAddressSync d.rt d.stablecoinMint recipient

def getVaultUsdcBalance (vaultAddress : String) : Service ℕ := do
  let account ← checked (vaultTokenAccount d vaultAddress)
  ask (.readTokenBalance account)

def submitPasskeyInstruction (proof : WebAuthnProof) (instruction : Call) : Service String := do
  let verification ← checked (createSecp256r1Instruction d.rt proof)
  ask (.submit { call := instruction, additionalSigners := [], verification := some verification })

/-- `submit([instruction], [sessionKeypair])`. -/
def submitWithSigners (instruction : Call) (signers : List Pubkey) : Service String :=
  ask (.submit { call := instruction, additionalSigners := signers, verification := none })

structure CreatePaymentLinkParams where
  vaultAddress : String
  sessionKeypair : Pubkey
  linkId : Bytes
  recipientCommitment : Bytes
  amount : ℤ
  expiresAtUnix : ℤ
  sessionNonce : ℤ

/-- The instruction with the address of the link it creates. -/
def createPaymentLinkCall (params : CreatePaymentLinkParams) : Except Failure (Call × Pubkey) := do
  let vault ← addressKey params.vaultAddress "vault"
  let session ← deriveSession d.rt vault params.sessionKeypair
  let paymentLink ← derivePaymentLink d.rt vault params.linkId
  let vaultTokenAccount ← vaultTokenAccount d params.vaultAddress
  let escrowTokenAccount ← derivePaymentLinkTokenAccount d.rt paymentLink d.stablecoinMint
  let instruction ← createPaymentLinkWithSessionInstruction
    { payer := d.feePayer, config := d.configAddress, vault := vault, session := session
      sessionSigner := params.sessionKeypair, stablecoinMint := d.stablecoinMint
      vaultTokenAccount := vaultTokenAccount, paymentLink := paymentLink
      escrowTokenAccount := escrowTokenAccount }
    params.linkId params.recipientCommitment params.amount params.expiresAtUnix params.sessionNonce
  pure (instruction, paymentLink)

/-- The signature and the link's address. -/
def createPaymentLinkWithSession (params : CreatePaymentLinkParams) : Service (String × String) :=
  do
  let (instruction, paymentLink) ← checked (createPaymentLinkCall d params)
  let signature ← submitWithSigners instruction [params.sessionKeypair]
  pure (signature, toBase58 paymentLink)

def claimPaymentLinkCall (paymentLinkAddress recipientVaultAddress : String) :
    Except Failure Call := do
  let paymentLink ← addressKey paymentLinkAddress "payment link"
  let recipientVault ← addressKey recipientVaultAddress "recipient vault"
  let escrowTokenAccount ← derivePaymentLinkTokenAccount d.rt paymentLink d.stablecoinMint
  let destinationTokenAccount ← recipientTokenAccount d recipientVaultAddress
  pure (createClaimPaymentLinkInstruction
    { claimAuthority := d.feePayer, config := d.configAddress
      claimAuthorityConfig := d.claimAuthorityConfigAddress, recipientVault := recipientVault
      paymentLink := paymentLink, stablecoinMint := d.stablecoinMint
      escrowTokenAccount := escrowTokenAccount, destinationTokenAccount :=
        destinationTokenAccount })

def claimSolPaymentLinkCall (paymentLinkAddress recipientVaultAddress : String) :
    Except Failure Call := do
  let paymentLink ← addressKey paymentLinkAddress "payment link"
  let recipientVault ← addressKey recipientVaultAddress "recipient vault"
  pure (createClaimSolPaymentLinkInstruction
    { claimAuthority := d.feePayer, config := d.configAddress
      claimAuthorityConfig := d.claimAuthorityConfigAddress, recipientVault := recipientVault
      paymentLink := paymentLink })

def cancelPaymentLinkCall (vaultAddress paymentLinkAddress : String) (sessionKeypair : Pubkey)
    (sessionNonce : ℤ) : Except Failure Call := do
  let vault ← addressKey vaultAddress "vault"
  let paymentLink ← addressKey paymentLinkAddress "payment link"
  let session ← deriveSession d.rt vault sessionKeypair
  let escrowTokenAccount ← derivePaymentLinkTokenAccount d.rt paymentLink d.stablecoinMint
  let vaultTokenAccount ← vaultTokenAccount d vaultAddress
  createCancelPaymentLinkWithSessionInstruction
    { config := d.configAddress, vault := vault, session := session, sessionSigner := sessionKeypair
      paymentLink := paymentLink, stablecoinMint := d.stablecoinMint
      escrowTokenAccount := escrowTokenAccount, vaultTokenAccount := vaultTokenAccount }
    sessionNonce

def refundExpiredPaymentLinkCall (senderVaultAddress paymentLinkAddress : String) :
    Except Failure Call := do
  let senderVault ← addressKey senderVaultAddress "sender vault"
  let paymentLink ← addressKey paymentLinkAddress "payment link"
  let escrowTokenAccount ← derivePaymentLinkTokenAccount d.rt paymentLink d.stablecoinMint
  let vaultTokenAccount ← vaultTokenAccount d senderVaultAddress
  pure (createRefundExpiredPaymentLinkInstruction
    { config := d.configAddress, senderVault := senderVault, paymentLink := paymentLink
      stablecoinMint := d.stablecoinMint, escrowTokenAccount := escrowTokenAccount
      vaultTokenAccount := vaultTokenAccount })

def refundExpiredSolPaymentLinkCall (senderVaultAddress paymentLinkAddress : String) :
    Except Failure Call := do
  let senderVault ← addressKey senderVaultAddress "sender vault"
  let paymentLink ← addressKey paymentLinkAddress "payment link"
  pure (createRefundExpiredSolPaymentLinkInstruction
    { config := d.configAddress, senderVault := senderVault, paymentLink := paymentLink })

end SolanaChainService

namespace SolanaRelayerService

/-- A stored session key without its wrapped data key cannot be opened. -/
def decryptSessionKey (session : SessionKey) : Service String := do
  check ((truthy session.encryptedSymmetricKey).isSome)
    (.error "Session key is missing its wrapped data key")
  ask (.decryptSessionKey session)

def requireActiveSession (userId : String) (sessionKeypair : Pubkey) : Service SessionKey := do
  let found ← ask (.findSessionKey (toBase58 sessionKeypair))
  let now ← ask .now
  checked (orError (found.filter fun session => session.userId = userId ∧ session.revokedAt = none ∧
    session.activatedAt ≠ none ∧ ¬session.expiryAt ≤ now)
    (.forbidden "Session key is expired, revoked, or inactive"))

def assertAvailableDailyLimit (session : SessionKey) (amountUSD : ℚ) : Service Unit := do
  check (¬amountUSD > session.perTxLimitUSD)
    (.forbidden "Transaction exceeds the session per-payment limit")
  let now ← ask .now
  let recent ← ask (.spentSince session.id (now - 24 * 60 * 60 * 1000))
  check (¬lessThan (.finite session.dailyLimitUSD)
    (d.numberAdd (.finite recent) (.finite amountUSD)))
    (.forbidden "Transaction exceeds the session daily limit")

/-- The whole part and the six digits behind the point, read apart. -/
def usdToAtomic (amount : ℚ) : Except Failure ℤ := do
  require (¬amount ≤ 0) (.badRequest "Invalid USDC amount")
  requireFixed amount
  let normalized := fixedText 6 amount
  let whole ← bigInt (String.ofList (normalized.takeWhile (· ≠ '.')))
  let fraction ← bigInt (String.ofList ((normalized.dropWhile (· ≠ '.')).tail))
  pure (whole * 1000000 + fraction)

structure CreatePaymentLinkParams where
  userId : String
  vaultAddress : String
  encryptedSessionKey : String
  amountUSD : ℚ
  linkId : Bytes
  recipientCommitment : Bytes
  expiresAtUnix : ℤ

def activeSessionState (vaultAddress : String) (sessionKeypair : Pubkey) : Service Session := do
  let session ← SolanaChainService.readSession d vaultAddress sessionKeypair
  checked (orError (session.filter fun state => state.revoked = false)
    (.forbidden "Session grant is not active on Solana"))

/-- The funding transaction's hash and the link's address. -/
def createPaymentLinkWithSession (params : CreatePaymentLinkParams) : Service (String × String) :=
  do
  let sessionKeypair ← checked (d.keypairFromSecret params.encryptedSessionKey)
  let sessionRecord ← requireActiveSession params.userId sessionKeypair
  assertAvailableDailyLimit d sessionRecord params.amountUSD
  let session ← activeSessionState d params.vaultAddress sessionKeypair
  let amount ← checked (usdToAtomic params.amountUSD)
  let balance ← SolanaChainService.getVaultUsdcBalance d params.vaultAddress
  check (¬(balance : ℤ) < amount) (.badRequest "Insufficient USDC balance")
  let (signature, paymentLink) ← SolanaChainService.createPaymentLinkWithSession d
    { vaultAddress := params.vaultAddress, sessionKeypair := sessionKeypair, linkId := params.linkId
      recipientCommitment := params.recipientCommitment, amount := amount
      expiresAtUnix := params.expiresAtUnix, sessionNonce := session.nonce.toNat }
  let _ ← ask (.write (.spendingRecord sessionRecord.id params.amountUSD signature))
  pure (signature, paymentLink)

def claimPaymentLink (paymentLinkAddress recipientVaultAddress : String) : Service String := do
  let found ← SolanaChainService.readPaymentLink paymentLinkAddress
  let state ← checked (orError found (.badRequest "Payment link does not exist on Solana"))
  let instruction ← checked (if state.mint = defaultPubkey then
      SolanaChainService.claimSolPaymentLinkCall d paymentLinkAddress recipientVaultAddress
    else SolanaChainService.claimPaymentLinkCall d paymentLinkAddress recipientVaultAddress)
  SolanaChainService.submitWithSigners instruction []

def cancelPaymentLinkWithSession
    (userId vaultAddress paymentLinkAddress encryptedSessionKey : String) :
    Service String := do
  let sessionKeypair ← checked (d.keypairFromSecret encryptedSessionKey)
  let _ ← requireActiveSession userId sessionKeypair
  let session ← activeSessionState d vaultAddress sessionKeypair
  let instruction ← checked
    (SolanaChainService.cancelPaymentLinkCall d vaultAddress paymentLinkAddress
    sessionKeypair session.nonce.toNat)
  SolanaChainService.submitWithSigners instruction [sessionKeypair]

def refundExpiredPaymentLink (senderVaultAddress paymentLinkAddress : String) : Service String := do
  let found ← SolanaChainService.readPaymentLink paymentLinkAddress
  let state ← checked (orError found (.badRequest "Payment link does not exist on Solana"))
  let instruction ← checked (if state.mint = defaultPubkey then
      SolanaChainService.refundExpiredSolPaymentLinkCall d senderVaultAddress paymentLinkAddress
    else SolanaChainService.refundExpiredPaymentLinkCall d senderVaultAddress paymentLinkAddress)
  SolanaChainService.submitWithSigners instruction []

/-- The loop that draws a code without a row. -/
def pendingCode : ℕ → Service String
  | 0 => throwing (.badRequest "Could not allocate a unique payment-link code")
  | attempts + 1 => do
    let code ← ask .randomCode
    let existing ← ask (.findLink code)
    if existing.isNone then pure code else pendingCode attempts

structure PendingLinkParams where
  userId : String
  recipientHandle : String
  platform : String
  amount : ℚ
  fromUser : String
  expiresAt : ℤ

def createPendingSolPaymentLink (params : PendingLinkParams) : Service ShortLink := do
  let code ← pendingCode 5
  ask (.createLink
    { code := code, kind := .pay, senderUserId := some params.userId
      targetUserId := some params.recipientHandle, toAddress := none, amount := some params.amount
      token := some "SOL", fromUser := some params.fromUser, platform := some params.platform
      envelopeId := none, fundingTxHash := none, expiresAt :=
        some params.expiresAt, status := .pending
      claimedAt := none, claimedBy := none, claimTxHash := none, clickCount := 0 })

def activateSolPaymentLink (code paymentLinkAddress fundingTxHash : String) : Service ShortLink :=
  ask (.updateLink code
    { envelopeId := some paymentLinkAddress, fundingTxHash := some fundingTxHash
      status := some .active })

def findOwnedSolPaymentLink (code userId : String) : Service (ShortLink × String) := do
  let found ← ask (.findLink code)
  let link ← checked (orError (found.filter (·.senderUserId = some userId))
    (.forbidden "Only the sender can cancel this payment"))
  let notCancellable := Failure.badRequest "This SOL payment link is not cancellable"
  check (link.token = some "SOL" ∧ link.status = .active) notCancellable
  let envelopeId ← checked (orError (truthy link.envelopeId) notCancellable)
  pure (link, envelopeId)

def markSolPaymentLinkCancelled (code transactionHash : String) : Service ShortLink :=
  ask (.updateLink code { status := some .cancelled, claimTxHash := some transactionHash })

def failPendingSolPaymentLink (code : String) : Service Unit :=
  ask (.updateLinks { code := some code, status := some .pending, unfunded := true }
    { status := some .failed })

def ensureVaultDeployed (vaultAddress : String) : Service Unit := do
  let vault ← SolanaChainService.readVault vaultAddress
  check vault.isSome (.badRequest "The Solana vault must be authorized with your passkey first")
  ask (.write (.walletDeployed vaultAddress))

end SolanaRelayerService

namespace SolanaPaymentLinksService

structure CreateEscrowLinkDto where
  senderUserId : String
  recipientHandle : String
  platform : String
  amount : JsNumber
  token : Option String
  fromUser : Option String

/-- The session keys that the query of a sender includes. -/
def activeSession (sender : User) (now : ℤ) : Option SessionKey :=
  sender.sessionKeys.find? fun session => session.revokedAt = none ∧ session.expiryAt > now ∧
  session.activatedAt ≠ none

def walletOf (user : Option User) : Option (User × SmartWallet) :=
  user.bind fun user => (user.smartWallet.filter (·.address ≠ "")).map fun wallet => (user, wallet)

def positiveAmount : JsNumber → Option ℚ
  | .finite amount => if amount ≤ 0 then none else some amount
  | _ => none

def usdcToAtomic : JsNumber → Except Failure ℤ := toAtomicUnits 6 none "Invalid USDC amount"

def solToLamports : JsNumber → Except Failure ℤ := toAtomicUnits 9 none "Invalid SOL amount"

/-- The code of the new link and the address of its escrow. -/
def createClaimLink (dto : CreateEscrowLinkDto) : Service (String × String) := do
  let token := d.toUpperCase ((truthy dto.token).getD "USDC")
  check (token = "USDC") (.badRequest "Native Solana payment links currently support USDC")
  let amount ← checked (orError (positiveAmount dto.amount)
    (.badRequest "Payment-link amount must be greater than zero"))
  let now ← ask .now
  let found ← ask (.findUser dto.senderUserId)
  let (sender, wallet) ← checked (orError (walletOf found)
    (.badRequest "Sender wallet setup is required before creating a payment link"))
  let session ← checked (orError (activeSession sender now)
    (.badRequest "No active session key. Authorize a session key and retry."))
  SolanaRelayerService.ensureVaultDeployed wallet.address
  let now ← ask .now
  let expiresAt := now + linkLifetimeMs
  let targetHandle := normalizeHandle d dto.recipientHandle
  let shortLink ← ShortLinksService.create
    { kind := .pay, senderUserId := some sender.id, targetUserId := some targetHandle
      amount := some amount
      token := some token, fromUser :=
        some ((truthy dto.fromUser <|> truthy sender.username).getD "sender")
      platform := some dto.platform, expiresAt := some expiresAt, status := some .pending }
  let sessionKey ← SolanaRelayerService.decryptSessionKey session
  let (txHash, paymentLink) ← onFailure
    (SolanaRelayerService.createPaymentLinkWithSession d
      { userId := sender.id, vaultAddress := wallet.address, encryptedSessionKey := sessionKey
        amountUSD := amount, linkId := linkIdOf d shortLink.code
        recipientCommitment := (paymentLinkRecipientCommitment d dto.platform targetHandle).toList
        expiresAtUnix := expiresAt / 1000 })
    (ignoringFailure do
      let _ ← ask (.updateLink shortLink.code { status := some .failed })
      pure ())
  let _ ← ask (.updateLink shortLink.code
    { envelopeId := some paymentLink, fundingTxHash := some txHash, status := some .active })
  pure (shortLink.code, paymentLink)

def assertRecipient (link : ShortLink) (claimer : User) (wallet : SmartWallet) :
    Except Failure Unit := do
  require ((truthy link.toAddress).all (· = wallet.address))
    (.forbidden "This payment belongs to another Solana vault")
  match truthy link.targetUserId with
  | none => pure ()
  | some targetUserId => do
    let target := normalizeHandle d targetUserId
    let identities := [some claimer.id, claimer.username, claimer.telegramId, claimer.whatsappId,
      claimer.discordId, claimer.slackId].filterMap truthy
    require (target ∈ identities.map (normalizeHandle d))
      (.forbidden s!"This payment was sent specifically to @{target}")

def paymentLinkStatus (status : UInt8) : LinkStatus :=
  if status = 1 then .claimed else if status = 2 then .cancelled else if status = 3 then .expired
    else .active

def refundEscrow (link : ShortLink) (envelopeId senderVaultAddress : String) : Service Unit := do
  let txHash ← SolanaRelayerService.refundExpiredPaymentLink d senderVaultAddress envelopeId
  let _ ← ask (.updateLink link.code { status := some .expired, claimTxHash := some txHash })
  pure ()

/-- Follow the chain where it has settled the link, and refund the escrow where it is still
active. -/
def settleExpired (link : ShortLink) (envelopeId senderVaultAddress : String) : Service Unit := do
  let state ← SolanaChainService.readPaymentLink envelopeId
  match state with
  | none => pure ()
  | some state =>
    if state.status ≠ 0 then do
      let _ ← ask (.updateLink link.code { status := some (paymentLinkStatus state.status) })
      pure ()
    else refundEscrow d link envelopeId senderVaultAddress

def refundExpiredLink (link : ShortLink) : Service Unit :=
  match truthy link.envelopeId, truthy link.senderUserId with
  | some envelopeId, some senderUserId => do
    let found ← ask (.findUser senderUserId)
    match walletOf found with
    | none => pure ()
    | some (_, wallet) => settleExpired d link envelopeId wallet.address
  | _, _ => pure ()

def rejectExpired (link : ShortLink) : Service Unit := do
  ignoringFailure (refundExpiredLink d link)
  throwing (.badRequest "Claim link has expired")

def claim (code claimerUserId claimerAddress : String) : Service Unit := do
  let totalHits ← ask (.incrementAttempts s!"escrow:claim:{code}:{claimerAddress}")
  check (¬totalHits > maxClaimAttempts)
    (.forbidden "Too many claim attempts. Please try again later.")
  let link ← ShortLinksService.resolve code
  let status := link.status.text
  check (link.status = .active) (.badRequest s!"Claim link is no longer active (status: {status})")
  let now ← ask .now
  let _ ← if link.isExpired now then rejectExpired d link else pure ()
  let envelopeId ← checked (orError (truthy link.envelopeId)
    (.badRequest "Claim link has no Solana escrow account"))
  let found ← ask (.findClaimer claimerUserId claimerAddress)
  let (claimer, wallet) ← checked (orError (walletOf found)
    (.badRequest "Complete passkey wallet setup before claiming"))
  checked (assertRecipient d link claimer wallet)
  SolanaRelayerService.ensureVaultDeployed wallet.address
  let found ← SolanaChainService.readPaymentLink envelopeId
  let state ← checked (orError (found.filter (·.status = 0))
    (.badRequest "The Solana payment link is no longer active"))
  check (state.recipientCommitment = paymentLinkRecipientCommitment d
    ((truthy link.platform).getD "web")
    (link.targetUserId.getD "")) (.forbidden "Payment-link recipient binding does not match")
  let amount := JsNumber.finite (link.amount.getD 0)
  let expectedAmount ← checked (if link.token = some "SOL" then solToLamports amount
    else usdcToAtomic amount)
  check ((state.amount.toNat : ℤ) = expectedAmount)
    (.badRequest "Payment-link amount does not match its on-chain escrow")
  let txHash ← SolanaRelayerService.claimPaymentLink d envelopeId wallet.address
  let _ ← ShortLinksService.redeem code claimer.id txHash
  ask (.write (.activity claimer.id "ENVELOPE_CLAIMED" (link.amount.getD 0)
    ((truthy link.token).getD "USDC") txHash))

def cancelClaimLink (code senderUserId : String) : Service Unit := do
  let found ← ask (.findLink code)
  let link ← checked (orError found (.badRequest "Claim link not found"))
  check (link.senderUserId = some senderUserId)
    (.forbidden "Only the sender can cancel this payment")
  let status := link.status.text
  check (link.status = .active)
    (.badRequest s!"This payment is no longer active (status: {status})")
  let envelopeId ← checked (orError (truthy link.envelopeId)
    (.badRequest "Claim link has no Solana escrow account"))
  check (link.token ≠ some "SOL")
    (.badRequest "Native SOL payment links require passkey authorization to cancel")
  let now ← ask .now
  let found ← ask (.findUser senderUserId)
  let (sender, wallet) ← checked (orError (walletOf found) (.badRequest "Sender wallet not found"))
  let session ← checked (orError (activeSession sender now)
    (.badRequest "Authorize a session key before cancelling"))
  let sessionKey ← SolanaRelayerService.decryptSessionKey session
  let txHash ← SolanaRelayerService.cancelPaymentLinkWithSession d sender.id wallet.address
    envelopeId sessionKey
  let _ ← ask (.updateLink code { status := some .cancelled, claimTxHash := some txHash })
  ask (.write (.activity sender.id "ENVELOPE_CANCELLED" (link.amount.getD 0) "USDC" txHash))

def refundLinks : List ShortLink → Service Unit
  | [] => pure ()
  | link :: links => do
    ignoringFailure (refundExpiredLink d link)
    refundLinks links

def sweepExpired : Service Unit := do
  let now ← ask .now
  let links ← ask (.findLinks
    { kind := some .pay, status := some .active, expiresBefore := some now, hasEnvelope := true })
  refundLinks d links

end SolanaPaymentLinksService

end Services

end VeriAgentPay.Backend
