import VeriAgentPay.PaymentLinkServices

/-!
# Staged passkey actions

`SolanaPasskeyExecutionService`. A prepare method computes a challenge and stages the values
it was computed from; `executeAction` takes the staged document once, rebuilds an instruction
from it and submits it with the user's assertion.
-/

namespace VeriAgentPay.Backend
open FixedWidth CheckedOutcome Client InterleavedPrograms

def prepareTtlMs : ℤ := 5 * 60 * 1000

/-- The payloads of the five action kinds. -/
inductive Payload where
  | transfer (recipientAddress destinationTokenAccount amountAtomic vaultNonce : String)
  | solTransfer (recipientAddress amountLamports vaultNonce : String)
  | solPaymentLink (code paymentLink linkId recipientCommitment amountLamports linkExpiresAtUnix
      vaultNonce : String)
  | solPaymentLinkCancel (code paymentLink vaultNonce : String)
  | sessionGrant (initializeVault : Bool) (session sessionPublicKey :
      String) (actionBitmap : JsNumber)
      (perActionLimit cumulativeLimit validAfterUnix validUntilUnix vaultNonce : String)
  deriving DecidableEq

/-- The staged record, less the summary that is only shown to the user. -/
structure PreparedAction where
  userId : String
  vaultAddress : String
  challengeB64Url : String
  expiresAtUnix : String
  payload : Payload
  /-- The member of `meta`, which only session grants have. -/
  sessionKeyId : Option String
  deriving DecidableEq

section Documents

def Json.member (name : String) : Json → Option Json
  | .object members => members.lookup name
  | _ => none

def Json.text? : Json → Option String
  | .string value => some value
  | _ => none

def Json.flag? : Json → Option Bool
  | .bool value => some value
  | _ => none

/-- Numbers that are not finite are written as `null`. -/
def Json.ofNumber : JsNumber → Json
  | .finite value => .number value
  | _ => .null

def Json.number? : Json → Option JsNumber
  | .number value => some (.finite value)
  | _ => none

def Json.textAt (document : Json) (name : String) : Option String :=
  (document.member name).bind Json.text?

def Json.texts (members : List (String × String)) : List (String × Json) :=
  members.map fun entry => (entry.1, .string entry.2)

namespace Payload

def kind : Payload → String
  | transfer .. => "transfer"
  | solTransfer .. => "sol_transfer"
  | solPaymentLink .. => "sol_payment_link"
  | solPaymentLinkCancel .. => "sol_payment_link_cancel"
  | sessionGrant .. => "session_grant"

def toJson : Payload → Json
  | transfer recipientAddress destinationTokenAccount amountAtomic vaultNonce =>
    .object (Json.texts [("recipientAddress", recipientAddress),
      ("destinationTokenAccount", destinationTokenAccount),
      ("amountAtomic", amountAtomic), ("vaultNonce", vaultNonce)])
  | solTransfer recipientAddress amountLamports vaultNonce =>
    .object (Json.texts [("recipientAddress", recipientAddress), ("amountLamports", amountLamports),
      ("vaultNonce", vaultNonce)])
  | solPaymentLink code paymentLink linkId recipientCommitment amountLamports linkExpiresAtUnix
      vaultNonce =>
    .object (Json.texts [("code", code), ("paymentLink", paymentLink), ("linkId", linkId),
      ("recipientCommitment", recipientCommitment), ("amountLamports", amountLamports),
      ("linkExpiresAtUnix", linkExpiresAtUnix), ("vaultNonce", vaultNonce)])
  | solPaymentLinkCancel code paymentLink vaultNonce =>
    .object (Json.texts [("code", code), ("paymentLink", paymentLink), ("vaultNonce", vaultNonce)])
  | sessionGrant initializeVault session sessionPublicKey actionBitmap perActionLimit
      cumulativeLimit validAfterUnix
      validUntilUnix vaultNonce =>
    .object ([("initializeVault", .bool initializeVault),
      ("actionBitmap", .ofNumber actionBitmap)] ++
      Json.texts [("session", session), ("sessionPublicKey", sessionPublicKey),
        ("perActionLimit", perActionLimit),
        ("cumulativeLimit", cumulativeLimit), ("validAfterUnix", validAfterUnix),
        ("validUntilUnix", validUntilUnix), ("vaultNonce", vaultNonce)])

def ofJson (kind : String) (document : Json) : Option Payload :=
  let text := document.textAt
  if kind = "transfer" then do
    return transfer (← text "recipientAddress") (← text "destinationTokenAccount")
      (← text "amountAtomic")
      (← text "vaultNonce")
  else if kind = "sol_transfer" then do
    return solTransfer (← text "recipientAddress") (← text "amountLamports") (← text "vaultNonce")
  else if kind = "sol_payment_link" then do
    return solPaymentLink (← text "code") (← text "paymentLink") (← text "linkId")
      (← text "recipientCommitment")
      (← text "amountLamports") (← text "linkExpiresAtUnix") (← text "vaultNonce")
  else if kind = "sol_payment_link_cancel" then do
    return solPaymentLinkCancel (← text "code") (← text "paymentLink") (← text "vaultNonce")
  else do
    return sessionGrant (← (document.member "initializeVault").bind Json.flag?) (← text "session")
      (← text "sessionPublicKey") (← (document.member "actionBitmap").bind Json.number?)
        (← text "perActionLimit")
      (← text "cumulativeLimit") (← text "validAfterUnix") (← text "validUntilUnix")
        (← text "vaultNonce")

/-- The numbers of a payload have a JSON text. -/
def Finite : Payload → Prop
  | sessionGrant _ _ _ actionBitmap .. => ∃ value, actionBitmap = .finite value
  | _ => True

theorem ofJson_toJson {payload : Payload} (h : payload.Finite) :
    ofJson payload.kind payload.toJson = some payload := by
  cases payload with
  | sessionGrant initializeVault session sessionPublicKey actionBitmap perActionLimit
      cumulativeLimit validAfterUnix
      validUntilUnix vaultNonce =>
    obtain ⟨value, rfl⟩ := h
    rfl
  | _ => rfl

end Payload

namespace PreparedAction

/-- A member that is undefined has no place in the document. -/
def toJson (prepared : PreparedAction) : Json :=
  .object (Json.texts [("userId", prepared.userId), ("vaultAddress", prepared.vaultAddress),
      ("challengeB64Url", prepared.challengeB64Url), ("kind", prepared.payload.kind),
      ("expiresAtUnix", prepared.expiresAtUnix)] ++
    [("payload", prepared.payload.toJson),
      ("meta", .object (prepared.sessionKeyId.toList.map fun id => ("sessionKeyId", .string id)))])

def ofJson (document : Json) : Option PreparedAction := do
  let kind ← document.textAt "kind"
  let payload ← document.member "payload"
  return {
    userId := ← document.textAt "userId"
    vaultAddress := ← document.textAt "vaultAddress"
    challengeB64Url := ← document.textAt "challengeB64Url"
    expiresAtUnix := ← document.textAt "expiresAtUnix"
    payload := ← Payload.ofJson kind payload
    sessionKeyId := (document.member "meta").bind fun entry => entry.textAt "sessionKeyId" }

theorem ofJson_toJson {prepared : PreparedAction} (h : prepared.payload.Finite) :
    ofJson prepared.toJson = some prepared := by
  obtain ⟨userId, vaultAddress, challengeB64Url, expiresAtUnix, payload, sessionKeyId⟩ := prepared
  have hpayload := Payload.ofJson_toJson h
  cases sessionKeyId <;>
    simp [ofJson, toJson, Json.textAt, Json.member, Json.texts, List.lookup_cons,
      Json.text?, hpayload]

end PreparedAction

end Documents

namespace SolanaPasskeyExecutionService

variable (d : Deployment)

def amountToAtomic : JsNumber → Except Failure ℤ := toAtomicUnits 6 none "Amount must be positive"

def solToLamports : JsNumber → Except Failure ℤ :=
  toAtomicUnits 9 (some 1000000) "SOL amount must be positive and finite"

def clusterDomain : Except Failure Bytes := do
  let configured ← orError (truthy d.clusterDomainSetting)
    (.error "SOLANA_CLUSTER_DOMAIN is required")
  let normalized := trim configured
  require (normalized ≠ "") (.error "Genesis hash is required for cluster-domain binding")
  pure (d.rt.sha256 (utf8 normalized)).toList

def rootHashBytes (publicKeyX publicKeyY : String) : Except Failure (FixedBytes 32) := do
  let key ← compressedP256PublicKey publicKeyX publicKeyY
  pure (d.rt.sha256 key)

def rootHashFromWallet (publicKeyX publicKeyY : String) : Except Failure String := do
  let hash ← rootHashBytes d publicKeyX publicKeyY
  pure (String.ofList ('0' :: 'x' :: toHex hash.toList))

/-- A challenge function's error as a service throws it. -/
def thrown {α : Type} (x : Except String α) : Except Failure α := x.mapError .error

def challengeText (challenge : Except String (FixedBytes 32)) : Except Failure String := do
  let challenge ← thrown challenge
  pure (bytesToBase64Url challenge.toList)

def userWithWallet (userId : String) : Service (User × SmartWallet) := do
  let found ← ask (.findUser userId)
  checked (orError (found.bind fun user => user.smartWallet.map fun wallet => (user, wallet))
    (.notFound "No smart wallet for this account"))

def expiryOf (now : ℤ) : ℤ := (now + prepareTtlMs) / 1000

def stage (prepared : PreparedAction) : Service String := ask (.stage prepared.toJson)

structure TransferParams where
  userId : String
  recipientAddress : String
  tokenAddress : String
  tokenDecimals : ℚ
  tokenSymbol : String
  amount : JsNumber

def readVaultState (address message : String) : Service Vault := do
  let state ← SolanaChainService.readVault address
  checked (orError state (.badRequest message))

/-- The record that a USDC transfer stages. -/
def transferAction (params : TransferParams) (vaultAddress : String) (vaultNonce : UInt64)
    (expiresAtUnix : ℤ) :
    Except Failure PreparedAction := do
  let amountAtomic ← amountToAtomic params.amount
  let vault ← newPublicKey vaultAddress
  let destination ← SolanaChainService.recipientTokenAccount d params.recipientAddress
  let clusterDomain ← clusterDomain d
  let vaultTokenAccount ← SolanaChainService.vaultTokenAccount d vaultAddress
  let challenge ← challengeText (transferChallenge d.rt.sha256
    { clusterDomain := clusterDomain, programId := d.rt.programId, config := d.configAddress
      vault := vault
      vaultTokenAccount := vaultTokenAccount, destinationTokenAccount := destination
      stablecoinMint := d.stablecoinMint, amount := amountAtomic, vaultNonce := vaultNonce.toNat
      expiresAtUnix := expiresAtUnix })
  pure
    { userId := params.userId, vaultAddress := vaultAddress, challengeB64Url := challenge
      expiresAtUnix := bigIntToString expiresAtUnix, sessionKeyId := none
      payload :=
        .transfer params.recipientAddress (toBase58 destination) (bigIntToString amountAtomic)
        (bigIntToString vaultNonce.toNat) }

structure SolTransferParams where
  userId : String
  recipientAddress : String
  amount : JsNumber

def solTransferAction (params : SolTransferParams) (vaultAddress : String) (vaultNonce : UInt64)
    (expiresAtUnix : ℤ) : Except Failure PreparedAction := do
  let amountLamports ← solToLamports params.amount
  let vault ← newPublicKey vaultAddress
  let recipient ← newPublicKey params.recipientAddress
  let clusterDomain ← clusterDomain d
  let challenge ← challengeText (solTransferChallenge d.rt.sha256
    { clusterDomain := clusterDomain, programId := d.rt.programId, config := d.configAddress
      vault := vault
      recipient := recipient, amountLamports := amountLamports, vaultNonce := vaultNonce.toNat
      expiresAtUnix := expiresAtUnix })
  pure
    { userId := params.userId, vaultAddress := vaultAddress, challengeB64Url := challenge
      expiresAtUnix := bigIntToString expiresAtUnix, sessionKeyId := none
      payload := .solTransfer (toBase58 recipient) (bigIntToString amountLamports)
        (bigIntToString vaultNonce.toNat) }

def prepareSolTransfer (params : SolTransferParams) : Service String := do
  let (_, wallet) ← userWithWallet params.userId
  let vaultState ← readVaultState wallet.address "Authorize your Solana vault before sending"
  let now ← ask .now
  let prepared ← checked (solTransferAction d params wallet.address vaultState.nonce (expiryOf now))
  stage prepared

def prepareTransfer (params : TransferParams) : Service String :=
  if d.toUpperCase params.tokenSymbol = "SOL" then
    prepareSolTransfer d
      { userId := params.userId, recipientAddress := params.recipientAddress
        amount := params.amount }
  else do
    check (params.tokenAddress = toBase58 d.stablecoinMint ∧ params.tokenDecimals = 6)
      (.badRequest "The Solana edition supports native USDC only")
    let (_, wallet) ← userWithWallet params.userId
    let vaultState ← readVaultState wallet.address "Authorize your Solana vault before sending"
    let now ← ask .now
    let prepared ← checked (transferAction d params wallet.address vaultState.nonce (expiryOf now))
    stage prepared

structure SolPaymentLinkParams where
  userId : String
  recipientHandle : String
  platform : String
  amount : JsNumber
  fromUser : Option String

/-- What is staged once the pending row has its code. -/
def solPaymentLinkAction (params : SolPaymentLinkParams) (code vaultAddress : String)
    (amountLamports : ℤ) (linkExpiresAtUnix : ℤ) (vaultNonce : UInt64) (expiresAtUnix : ℤ) :
    Except Failure PreparedAction := do
  let linkId := linkIdOf d code
  let recipientCommitment :=
    (paymentLinkRecipientCommitment d params.platform
      (normalizeHandle d params.recipientHandle)).toList
  let vault ← newPublicKey vaultAddress
  let owner ← addressKey vaultAddress "vault"
  let paymentLink ← derivePaymentLink d.rt owner linkId
  let clusterDomain ← clusterDomain d
  let challenge ← challengeText (solPaymentLinkChallenge d.rt.sha256
    { clusterDomain := clusterDomain, programId := d.rt.programId, config := d.configAddress
      vault := vault
      paymentLink := paymentLink, linkId := linkId, recipientCommitment := recipientCommitment
      amountLamports := amountLamports, linkExpiresAtUnix := linkExpiresAtUnix, vaultNonce :=
        vaultNonce.toNat
      proofExpiresAtUnix := expiresAtUnix })
  pure
    { userId := params.userId, vaultAddress := vaultAddress, challengeB64Url := challenge
      expiresAtUnix := bigIntToString expiresAtUnix, sessionKeyId := none
      payload := .solPaymentLink code (toBase58 paymentLink) (bytesToBase64Url linkId)
        (bytesToBase64Url recipientCommitment) (bigIntToString amountLamports)
          (bigIntToString linkExpiresAtUnix)
        (bigIntToString vaultNonce.toNat) }

/-- The prepare id and the code of the pending row. -/
def prepareSolPaymentLink (params : SolPaymentLinkParams) : Service (String × String) := do
  let (user, wallet) ← userWithWallet params.userId
  let vaultState ← readVaultState wallet.address "Authorize your Solana vault before sending"
  let now ← ask .now
  let expiresAtUnix := expiryOf now
  let now ← ask .now
  let linkExpiresAtUnix := now / 1000 + 24 * 60 * 60
  let amountLamports ← checked (solToLamports params.amount)
  let amount ← checked (orError (SolanaPaymentLinksService.positiveAmount params.amount)
    (.badRequest "SOL amount must be positive and finite"))
  let shortLink ← SolanaRelayerService.createPendingSolPaymentLink
    { userId := user.id, recipientHandle := normalizeHandle d params.recipientHandle
      platform := params.platform
      amount := amount, fromUser := (truthy params.fromUser <|> truthy user.username).getD "sender"
      expiresAt := linkExpiresAtUnix * 1000 }
  let prepared ← checked (solPaymentLinkAction d params shortLink.code wallet.address amountLamports
    linkExpiresAtUnix vaultState.nonce expiresAtUnix)
  let prepareId ← stage prepared
  pure (prepareId, shortLink.code)

def cancelSolPaymentLinkAction (userId code envelopeId vaultAddress : String) (vaultNonce : UInt64)
    (expiresAtUnix : ℤ) : Except Failure PreparedAction := do
  let vault ← newPublicKey vaultAddress
  let paymentLink ← newPublicKey envelopeId
  let clusterDomain ← clusterDomain d
  let challenge ← challengeText (cancelSolPaymentLinkChallenge d.rt.sha256
    { clusterDomain := clusterDomain, programId := d.rt.programId, config := d.configAddress
      vault := vault
      paymentLink := paymentLink, vaultNonce := vaultNonce.toNat, proofExpiresAtUnix :=
        expiresAtUnix })
  pure
    { userId := userId, vaultAddress := vaultAddress, challengeB64Url := challenge
      expiresAtUnix := bigIntToString expiresAtUnix, sessionKeyId := none
      payload :=
        .solPaymentLinkCancel code (toBase58 paymentLink) (bigIntToString vaultNonce.toNat) }

def prepareCancelSolPaymentLink (userId code : String) : Service String := do
  let (link, envelopeId) ← SolanaRelayerService.findOwnedSolPaymentLink code userId
  let (_, wallet) ← userWithWallet userId
  let vaultState ← readVaultState wallet.address "Authorize your Solana vault before cancelling"
  let now ← ask .now
  let prepared ← checked
    (cancelSolPaymentLinkAction d userId link.code envelopeId wallet.address vaultState.nonce
    (expiryOf now))
  stage prepared

structure SessionGrantParams where
  userId : String
  durationHours : Option JsNumber
  durationDays : Option JsNumber
  perTxLimitUSD : Option JsNumber
  dailyLimitUSD : Option JsNumber

/-- The constant `SESSION_ACTION_TRANSFER` of the client. -/
def sessionActionTransferNumber : JsNumber := .finite 1

structure SessionGrantTerms where
  sessionPublicKey : Pubkey
  perActionLimit : ℤ
  cumulativeLimit : ℤ
  validAfterUnix : ℤ
  validUntilUnix : ℤ

/-- The challenge of a grant: over the vault's nonce, or over the values a new vault starts from. -/
def sessionGrantChallengeText (wallet : SmartWallet) (vault session : Pubkey)
    (terms : SessionGrantTerms) (vaultState : Option Vault) (expiresAtUnix : ℤ) :
    Except Failure String := do
  let clusterDomain ← clusterDomain d
  match vaultState with
  | some state => challengeText (sessionGrantChallenge d.rt.sha256
      { clusterDomain := clusterDomain, programId := d.rt.programId, config := d.configAddress
        vault := vault
        session := session, sessionPublicKey := terms.sessionPublicKey, actionBitmap :=
          sessionActionTransferNumber
        perActionLimit := terms.perActionLimit, cumulativeLimit := terms.cumulativeLimit
        validAfterUnix := terms.validAfterUnix, validUntilUnix := terms.validUntilUnix
        vaultNonce := state.nonce.toNat, expiresAtUnix := expiresAtUnix })
  | none => do
    let vaultTokenAccount ← SolanaChainService.vaultTokenAccount d wallet.address
    let rootPublicKey ← compressedP256PublicKey wallet.publicKeyX wallet.publicKeyY
    let storedHash ← if wallet.salt = "" then
      pure (String.ofList ('0' :: 'x' :: toHex (List.replicate 32 0)))
      else rootHashFromWallet d wallet.publicKeyX wallet.publicKeyY
    let rootKeyHash ← bytes32FromStored storedHash
    let userSalt ← bytes32FromStored wallet.salt
    challengeText (initializeVaultAndGrantSessionChallenge d.rt.sha256
      { clusterDomain := clusterDomain, programId := d.rt.programId, config := d.configAddress
        vault := vault
        session := session, sessionPublicKey := terms.sessionPublicKey, actionBitmap :=
          sessionActionTransferNumber
        perActionLimit := terms.perActionLimit, cumulativeLimit := terms.cumulativeLimit
        validAfterUnix := terms.validAfterUnix, validUntilUnix := terms.validUntilUnix
        expiresAtUnix := expiresAtUnix, vaultTokenAccount := vaultTokenAccount
        stablecoinMint := d.stablecoinMint, rootPublicKey := rootPublicKey, rootKeyHash :=
          rootKeyHash
        userSalt := userSalt })

def sessionGrantAction (userId sessionKeyId : String) (wallet : SmartWallet) (session : Pubkey)
    (terms : SessionGrantTerms) (vaultState : Option Vault) (expiresAtUnix : ℤ) :
    Except Failure PreparedAction := do
  let vault ← newPublicKey wallet.address
  let challenge ← sessionGrantChallengeText d wallet vault session terms vaultState expiresAtUnix
  let vaultNonce : ℤ := match vaultState with
    | some state => state.nonce.toNat
    | none => 0
  pure
    { userId := userId, vaultAddress := wallet.address, challengeB64Url := challenge
      expiresAtUnix := bigIntToString expiresAtUnix, sessionKeyId := some sessionKeyId
      payload :=
        .sessionGrant vaultState.isNone (toBase58 session) (toBase58 terms.sessionPublicKey)
        sessionActionTransferNumber (bigIntToString terms.perActionLimit)
          (bigIntToString terms.cumulativeLimit)
        (bigIntToString terms.validAfterUnix) (bigIntToString terms.validUntilUnix)
          (bigIntToString vaultNonce) }

/-- `provisionSessionKey`: the public key and the id of the stored session key. -/
def provisionSessionKey (userId : String) (perTxLimitUSD dailyLimitUSD : JsNumber)
    (durationSeconds : ℤ) :
    Service (Pubkey × String) := do
  let sessionPublicKey ← ask .newKeypair
  let keyHash := toBase58 sessionPublicKey
  let now ← ask .now
  let expiryAt := now + durationSeconds * 1000
  let sessionKeyId ← ask .randomCode
  let _ ← ask (.write (.sessionKeyCreated userId keyHash perTxLimitUSD dailyLimitUSD expiryAt))
  let _ ← ask (.write (.sessionKeyCached keyHash))
  ignoringFailure (ask (.write (.auditEvent userId "SESSION_KEY_CREATED" "SUCCESS")))
  pure (sessionPublicKey, sessionKeyId)

/-- `Math.round` of a number, where a date or a big integer is made of it. -/
def roundNumber : JsNumber → Except Failure ℤ
  | .finite value => .ok (value + 1 / 2).floor
  | _ => .error (.error "The number cannot be converted to a BigInt because it is not an integer")

def prepareSessionGrant (params : SessionGrantParams) : Service String := do
  let (_, wallet) ← userWithWallet params.userId
  let durationHours :=
    params.durationHours.getD (d.numberMul (params.durationDays.getD (.finite 7)) (.finite 24))
  let perTxLimitUSD := params.perTxLimitUSD.getD (.finite 50)
  let dailyLimitUSD := params.dailyLimitUSD.getD (.finite 200)
  check (¬(lessOrEqual durationHours (.finite 0) ∨ lessThan (.finite (24 * 30)) durationHours))
    (.badRequest "Session duration must be between 1 hour and 30 days")
  check (¬(lessOrEqual perTxLimitUSD (.finite 0) ∨ lessThan dailyLimitUSD perTxLimitUSD))
    (.badRequest "Session limits are invalid")
  let durationSeconds ← checked (roundNumber (d.numberMul durationHours (.finite 3600)))
  let _ ← checked (amountToAtomic perTxLimitUSD)
  let (sessionPublicKey, sessionKeyId) ←
    provisionSessionKey params.userId perTxLimitUSD dailyLimitUSD durationSeconds
  let session ← checked (do
    let vault ← newPublicKey wallet.address
    deriveSession d.rt vault sessionPublicKey)
  let now ← ask .now
  let validAfterUnix := now / 1000
  let now ← ask .now
  let expiresAtUnix := expiryOf now
  let perActionLimit ← checked (amountToAtomic perTxLimitUSD)
  let cumulativeLimit ← checked (amountToAtomic dailyLimitUSD)
  let vaultState ← SolanaChainService.readVault wallet.address
  let prepared ← checked (sessionGrantAction d params.userId sessionKeyId wallet session
    { sessionPublicKey := sessionPublicKey, perActionLimit := perActionLimit
      cumulativeLimit := cumulativeLimit
      validAfterUnix := validAfterUnix, validUntilUnix := validAfterUnix + durationSeconds }
    vaultState expiresAtUnix)
  stage prepared

structure Assertion where
  id : String
  authenticatorData : String
  clientDataJSON : String
  signature : String

structure ExecuteParams where
  userId : String
  prepareId : String
  assertion : Assertion

/-- The instruction rebuilt from the staged record, the wallet row and the assertion. -/
def buildInstruction (prepared : PreparedAction) (wallet : SmartWallet) (proof : WebAuthnProof) :
    Except Failure Call := do
  let expiresAtUnix ← bigInt prepared.expiresAtUnix
  let vault ← newPublicKey prepared.vaultAddress
  let rootProof : ProofInput := ⟨expiresAtUnix, proof.authenticatorData, proof.clientDataJson⟩
  match prepared.payload with
  | .transfer _ destinationTokenAccount amountAtomic vaultNonce => do
    let vaultTokenAccount ← SolanaChainService.vaultTokenAccount d prepared.vaultAddress
    let destination ← newPublicKey destinationTokenAccount
    let amount ← bigInt amountAtomic
    let vaultNonce ← bigInt vaultNonce
    createPasskeyTransferInstruction
      { payer := d.feePayer, config := d.configAddress, vault := vault
        stablecoinMint := d.stablecoinMint
        vaultTokenAccount := vaultTokenAccount, destinationTokenAccount :=
          destination } amount vaultNonce rootProof
  | .solTransfer recipientAddress amountLamports vaultNonce => do
    let recipient ← newPublicKey recipientAddress
    let amount ← bigInt amountLamports
    let vaultNonce ← bigInt vaultNonce
    createSolPasskeyTransferInstruction
      { payer := d.feePayer, config := d.configAddress, vault := vault
        recipient := recipient } amount vaultNonce
      rootProof
  | .solPaymentLink _ paymentLink linkId recipientCommitment amountLamports linkExpiresAtUnix
      vaultNonce => do
    let paymentLink ← newPublicKey paymentLink
    let linkId ← base64UrlToBytes linkId
    let recipientCommitment ← base64UrlToBytes recipientCommitment
    let amount ← bigInt amountLamports
    let linkExpiresAt ← bigInt linkExpiresAtUnix
    let vaultNonce ← bigInt vaultNonce
    createSolPaymentLinkWithPasskeyInstruction
      { payer := d.feePayer, config := d.configAddress, vault := vault, paymentLink := paymentLink }
      linkId recipientCommitment amount linkExpiresAt vaultNonce rootProof
  | .solPaymentLinkCancel _ paymentLink vaultNonce => do
    let paymentLink ← newPublicKey paymentLink
    let vaultNonce ← bigInt vaultNonce
    createCancelSolPaymentLinkWithPasskeyInstruction
      { payer := d.feePayer, config := d.configAddress, vault := vault
        paymentLink := paymentLink } vaultNonce
      rootProof
  | .sessionGrant initializeVault session sessionPublicKey actionBitmap perActionLimit
      cumulativeLimit
      validAfterUnix validUntilUnix vaultNonce => do
    let sessionPublicKey ← newPublicKey sessionPublicKey
    let session ← newPublicKey session
    let policy : SessionPolicyInput :=
      { sessionPublicKey := sessionPublicKey, actionBitmap := actionBitmap
        perActionLimit := ← bigInt perActionLimit, cumulativeLimit := ← bigInt cumulativeLimit
        validAfterUnix := ← bigInt validAfterUnix, validUntilUnix := ← bigInt validUntilUnix }
    if initializeVault then do
      let vaultTokenAccount ← SolanaChainService.vaultTokenAccount d prepared.vaultAddress
      let rootKeyHash ← rootHashBytes d wallet.publicKeyX wallet.publicKeyY
      let userSalt ← bytes32FromStored wallet.salt
      createInitializeVaultAndGrantSessionInstruction
        { payer := d.feePayer, config := d.configAddress, vault := vault, session := session
          stablecoinMint := d.stablecoinMint, vaultTokenAccount := vaultTokenAccount }
        policy proof.compressedPublicKey rootKeyHash.toList userSalt rootProof
    else do
      let vaultNonce ← bigInt vaultNonce
      createGrantSessionInstruction
        { payer := d.feePayer, config := d.configAddress, vault := vault
          session := session } policy vaultNonce
        rootProof

def webAuthnProof (wallet : SmartWallet) (assertion : Assertion) : Except Failure WebAuthnProof :=
  do
  let compressedPublicKey ← compressedP256PublicKey wallet.publicKeyX wallet.publicKeyY
  let authenticatorData ← base64UrlToBytes assertion.authenticatorData
  let clientDataJson ← base64UrlToBytes assertion.clientDataJSON
  let signatureDer ← base64UrlToBytes assertion.signature
  pure ⟨compressedPublicKey, authenticatorData, clientDataJson, signatureDer⟩

/-- `createRecipientAtaInstruction`, for the transfers that have one in front. -/
def requireRecipientAta (payload : Payload) : Except Failure Unit :=
  match payload with
  | .transfer recipientAddress .. => do
    let _ ← SolanaChainService.recipientTokenAccount d recipientAddress
    pure ()
  | _ => pure ()

def failPending (payload : Payload) : Service Unit :=
  match payload with
  | .solPaymentLink code .. => SolanaRelayerService.failPendingSolPaymentLink code
  | _ => pure ()

def recordSettlement (payload : Payload) (signature : String) : Service Unit :=
  match payload with
  | .solPaymentLink code paymentLink .. => do
    let _ ← SolanaRelayerService.activateSolPaymentLink code paymentLink signature
    pure ()
  | .solPaymentLinkCancel code .. => do
    let _ ← SolanaRelayerService.markSolPaymentLinkCancelled code signature
    pure ()
  | _ => pure ()

def activatedSession (prepared : PreparedAction) : Option String :=
  match prepared.payload with
  | .sessionGrant .. => truthy prepared.sessionKeyId
  | _ => none

/-- What follows once the staged record has been taken. -/
def executePrepared (params : ExecuteParams) (prepared : PreparedAction) : Service String := do
  check (prepared.userId = params.userId) (.unauthorized "This approval belongs to another account")
  let challenge ← checked
    (d.clientDataChallenge (base64UrlToBuffer params.assertion.clientDataJSON))
  check (challenge = some prepared.challengeB64Url)
    (.unauthorized "Signature does not authorize this action")
  let found ← ask (.findCredential (d.rt.sha256 (utf8 params.assertion.id)))
  let credential ← checked
    (orError (found.filter fun c => c.userId = params.userId ∧ c.revokedAt = none)
    (.unauthorized "Passkey is not registered for this account"))
  let (_, wallet) ← userWithWallet params.userId
  let proof ← checked (webAuthnProof wallet params.assertion)
  let instruction ← checked (buildInstruction d prepared wallet proof)
  checked (requireRecipientAta d prepared.payload)
  let signature ← onFailure (SolanaChainService.submitPasskeyInstruction d proof instruction)
    (failPending prepared.payload)
  recordSettlement prepared.payload signature
  let _ ← ask (.write (.passkeyUsed credential.id params.userId (activatedSession prepared)))
  pure signature

def executeAction (params : ExecuteParams) : Service String := do
  let document ← ask (.take params.prepareId)
  let prepared ← checked (orError (document.bind PreparedAction.ofJson)
    (.badRequest "Approval expired or was already used"))
  executePrepared d params prepared

end SolanaPasskeyExecutionService

/-- The entry points of the four services. -/
inductive Operation where
  | createClaimLink (dto : SolanaPaymentLinksService.CreateEscrowLinkDto)
  | claim (code claimerUserId claimerAddress : String)
  | cancelClaimLink (code senderUserId : String)
  | sweepExpired
  | prepareTransfer (params : SolanaPasskeyExecutionService.TransferParams)
  | prepareSolTransfer (params : SolanaPasskeyExecutionService.SolTransferParams)
  | prepareSolPaymentLink (params : SolanaPasskeyExecutionService.SolPaymentLinkParams)
  | prepareCancelSolPaymentLink (userId code : String)
  | prepareSessionGrant (params : SolanaPasskeyExecutionService.SessionGrantParams)
  | executeAction (params : SolanaPasskeyExecutionService.ExecuteParams)
  | resolve (code : String)
  | redeem (code claimerUserId txHash : String)
  | cancel (code senderUserId : String)
  | sweepExpiredLinks

section Programs

variable (d : Deployment)

/-- A request's result goes to the caller; what remains is what it did. -/
def discard {α : Type} (x : Service α) : Program Request Answer Unit := x.run.bind fun _ => .ret ()

def Operation.program : Operation → Program Request Answer Unit
  | createClaimLink dto => discard (SolanaPaymentLinksService.createClaimLink d dto)
  | claim code claimerUserId claimerAddress =>
    discard (SolanaPaymentLinksService.claim d code claimerUserId claimerAddress)
  | cancelClaimLink code senderUserId =>
    discard (SolanaPaymentLinksService.cancelClaimLink d code senderUserId)
  | sweepExpired => discard (SolanaPaymentLinksService.sweepExpired d)
  | prepareTransfer params => discard (SolanaPasskeyExecutionService.prepareTransfer d params)
  | prepareSolTransfer params => discard (SolanaPasskeyExecutionService.prepareSolTransfer d params)
  | prepareSolPaymentLink params =>
    discard (SolanaPasskeyExecutionService.prepareSolPaymentLink d params)
  | prepareCancelSolPaymentLink userId code =>
    discard (SolanaPasskeyExecutionService.prepareCancelSolPaymentLink d userId code)
  | prepareSessionGrant params =>
    discard (SolanaPasskeyExecutionService.prepareSessionGrant d params)
  | executeAction params => discard (SolanaPasskeyExecutionService.executeAction d params)
  | resolve code => discard (ShortLinksService.resolve code)
  | redeem code claimerUserId txHash => discard (ShortLinksService.redeem code claimerUserId txHash)
  | cancel code senderUserId => discard (ShortLinksService.cancel code senderUserId)
  | sweepExpiredLinks => discard ShortLinksService.sweepExpired

/-- All operations, in any number and any order, with crashes anywhere. -/
def backend : Semantics Store Operation Request Answer where
  program := Operation.program d
  perform i _ := Performs d i
  environment := Environment d
  mayStart _ := True
  mayCrash _ _ := True

end Programs

end VeriAgentPay.Backend
