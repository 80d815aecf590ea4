import VeriAgentPay.ClientBytes
import VeriAgentPay.ChallengeBinding

/-!
# Challenges computed by the client

The seven functions of `challenge.ts`. Each checks its byte arrays in order, encodes its
integers in the order of the layout, and hashes. The hash is a parameter of any type, so
that the bytes themselves are one instance of it.
-/

namespace VeriAgentPay.Client
open FixedWidth CheckedOutcome

/-- `CHALLENGE_DOMAIN` and the `ACTION_` constants of `constants.ts`. -/
def challengeDomain : Bytes := utf8 "VERIAGENT_SOLANA_V1"

def actionInitializeVault : UInt8 := 1
def actionGrantSession : UInt8 := 2
def actionTransfer : UInt8 := 3
def actionInitializeVaultAndGrantSession : UInt8 := 4
def actionTransferSol : UInt8 := 5
def actionCreateSolPaymentLink : UInt8 := 6
def actionCancelSolPaymentLink : UInt8 := 7

structure InitializeVaultChallengeInput where
  clusterDomain : Bytes
  programId : Pubkey
  config : Pubkey
  vault : Pubkey
  vaultTokenAccount : Pubkey
  rootPublicKey : Bytes
  rootKeyHash : Bytes
  userSalt : Bytes
  expiresAtUnix : ℤ

structure TransferChallengeInput where
  clusterDomain : Bytes
  programId : Pubkey
  config : Pubkey
  vault : Pubkey
  vaultTokenAccount : Pubkey
  destinationTokenAccount : Pubkey
  stablecoinMint : Pubkey
  amount : ℤ
  vaultNonce : ℤ
  expiresAtUnix : ℤ

structure SessionGrantChallengeInput where
  clusterDomain : Bytes
  programId : Pubkey
  config : Pubkey
  vault : Pubkey
  session : Pubkey
  sessionPublicKey : Pubkey
  actionBitmap : JsNumber
  perActionLimit : ℤ
  cumulativeLimit : ℤ
  validAfterUnix : ℤ
  validUntilUnix : ℤ
  vaultNonce : ℤ
  expiresAtUnix : ℤ

structure InitializeVaultAndGrantSessionChallengeInput where
  clusterDomain : Bytes
  programId : Pubkey
  config : Pubkey
  vault : Pubkey
  session : Pubkey
  sessionPublicKey : Pubkey
  actionBitmap : JsNumber
  perActionLimit : ℤ
  cumulativeLimit : ℤ
  validAfterUnix : ℤ
  validUntilUnix : ℤ
  expiresAtUnix : ℤ
  vaultTokenAccount : Pubkey
  stablecoinMint : Pubkey
  rootPublicKey : Bytes
  rootKeyHash : Bytes
  userSalt : Bytes

structure SolTransferChallengeInput where
  clusterDomain : Bytes
  programId : Pubkey
  config : Pubkey
  vault : Pubkey
  recipient : Pubkey
  amountLamports : ℤ
  vaultNonce : ℤ
  expiresAtUnix : ℤ

structure SolPaymentLinkChallengeInput where
  clusterDomain : Bytes
  programId : Pubkey
  config : Pubkey
  vault : Pubkey
  paymentLink : Pubkey
  linkId : Bytes
  recipientCommitment : Bytes
  amountLamports : ℤ
  linkExpiresAtUnix : ℤ
  vaultNonce : ℤ
  proofExpiresAtUnix : ℤ

structure CancelSolPaymentLinkChallengeInput where
  clusterDomain : Bytes
  programId : Pubkey
  config : Pubkey
  vault : Pubkey
  paymentLink : Pubkey
  vaultNonce : ℤ
  proofExpiresAtUnix : ℤ

def assertBytes (value : Bytes) (length : ℕ) (name : String) : Except String Unit :=
  require (value.length = length) s!"{name} must contain {length} bytes"

section Functions

variable {δ : Type} (sha256 : Bytes → δ)

def challenge (parts : List Bytes) : δ := sha256 (concatBytes (challengeDomain :: parts))

def initializeVaultChallenge (input : InitializeVaultChallengeInput) : Except String δ := do
  assertBytes input.clusterDomain 32 "cluster domain"
  assertBytes input.rootPublicKey 33 "root public key"
  assertBytes input.rootKeyHash 32 "root key hash"
  assertBytes input.userSalt 32 "user salt"
  return challenge sha256
    [input.clusterDomain, input.programId.toList, [actionInitializeVault], input.config.toList,
      input.vault.toList, input.vaultTokenAccount.toList, input.rootPublicKey, input.rootKeyHash,
      input.userSalt, ← u64Le 0, ← i64Le input.expiresAtUnix]

def transferChallenge (input : TransferChallengeInput) : Except String δ := do
  assertBytes input.clusterDomain 32 "cluster domain"
  return challenge sha256
    [input.clusterDomain, input.programId.toList, [actionTransfer], input.config.toList,
      input.vault.toList, input.vaultTokenAccount.toList, input.destinationTokenAccount.toList,
      input.stablecoinMint.toList, ← u64Le input.amount, ← u64Le input.vaultNonce,
      ← i64Le input.expiresAtUnix]

def sessionGrantChallenge (input : SessionGrantChallengeInput) : Except String δ := do
  assertBytes input.clusterDomain 32 "cluster domain"
  return challenge sha256
    [input.clusterDomain, input.programId.toList, [actionGrantSession], input.config.toList,
      input.vault.toList, input.session.toList, input.sessionPublicKey.toList,
      ← u16Le input.actionBitmap, ← u64Le input.perActionLimit, ← u64Le input.cumulativeLimit,
      ← i64Le input.validAfterUnix, ← i64Le input.validUntilUnix, ← u64Le input.vaultNonce,
      ← i64Le input.expiresAtUnix]

def initializeVaultAndGrantSessionChallenge (input : InitializeVaultAndGrantSessionChallengeInput) :
    Except String δ := do
  assertBytes input.clusterDomain 32 "cluster domain"
  assertBytes input.rootPublicKey 33 "root public key"
  assertBytes input.rootKeyHash 32 "root key hash"
  assertBytes input.userSalt 32 "user salt"
  return challenge sha256
    [input.clusterDomain, input.programId.toList, [actionInitializeVaultAndGrantSession],
      input.config.toList, input.vault.toList, input.session.toList, input.vaultTokenAccount.toList,
      input.stablecoinMint.toList, input.rootPublicKey, input.rootKeyHash, input.userSalt,
      input.sessionPublicKey.toList, ← u16Le input.actionBitmap, ← u64Le input.perActionLimit,
      ← u64Le input.cumulativeLimit, ← i64Le input.validAfterUnix, ← i64Le input.validUntilUnix,
      ← u64Le 0, ← i64Le input.expiresAtUnix]

def solTransferChallenge (input : SolTransferChallengeInput) : Except String δ := do
  assertBytes input.clusterDomain 32 "cluster domain"
  return challenge sha256
    [input.clusterDomain, input.programId.toList, [actionTransferSol], input.config.toList,
      input.vault.toList, input.recipient.toList, ← u64Le input.amountLamports,
      ← u64Le input.vaultNonce, ← i64Le input.expiresAtUnix]

def solPaymentLinkChallenge (input : SolPaymentLinkChallengeInput) : Except String δ := do
  assertBytes input.clusterDomain 32 "cluster domain"
  assertBytes input.linkId 32 "payment-link ID"
  assertBytes input.recipientCommitment 32 "recipient commitment"
  return challenge sha256
    [input.clusterDomain, input.programId.toList, [actionCreateSolPaymentLink], input.config.toList,
      input.vault.toList, input.paymentLink.toList, input.linkId, input.recipientCommitment,
      ← u64Le input.amountLamports, ← i64Le input.linkExpiresAtUnix, ← u64Le input.vaultNonce,
      ← i64Le input.proofExpiresAtUnix]

def cancelSolPaymentLinkChallenge (input : CancelSolPaymentLinkChallengeInput) : Except String δ :=
  do
  assertBytes input.clusterDomain 32 "cluster domain"
  return challenge sha256
    [input.clusterDomain, input.programId.toList, [actionCancelSolPaymentLink], input.config.toList,
      input.vault.toList, input.paymentLink.toList, ← u64Le input.vaultNonce,
      ← i64Le input.proofExpiresAtUnix]

end Functions

section Description

/-! What a request asks for, when each of its values fits the type it has in the program. -/

def InitializeVaultChallengeInput.describe (i : InitializeVaultChallengeInput) :
    Option RootAction := do
  let clusterDomain ← toFixed 32 i.clusterDomain
  let rootPublicKey ← toFixed 33 i.rootPublicKey
  let rootKeyHash ← toFixed 32 i.rootKeyHash
  let userSalt ← toFixed 32 i.userSalt
  let expiresAt ← toI64 i.expiresAtUnix
  some (.initializeVault ⟨clusterDomain, i.programId, i.config⟩ i.vault i.vaultTokenAccount
    rootPublicKey rootKeyHash userSalt expiresAt)

def TransferChallengeInput.describe (i : TransferChallengeInput) : Option RootAction := do
  let clusterDomain ← toFixed 32 i.clusterDomain
  let amount ← toU64 i.amount
  let vaultNonce ← toU64 i.vaultNonce
  let expiresAt ← toI64 i.expiresAtUnix
  some (.transfer ⟨clusterDomain, i.programId, i.config⟩ i.vault i.vaultTokenAccount
    i.destinationTokenAccount i.stablecoinMint amount vaultNonce expiresAt)

def SessionGrantChallengeInput.describe (i : SessionGrantChallengeInput) : Option RootAction := do
  let clusterDomain ← toFixed 32 i.clusterDomain
  let actionBitmap ← toU16 i.actionBitmap
  let perActionLimit ← toU64 i.perActionLimit
  let cumulativeLimit ← toU64 i.cumulativeLimit
  let validAfter ← toI64 i.validAfterUnix
  let validUntil ← toI64 i.validUntilUnix
  let vaultNonce ← toU64 i.vaultNonce
  let expiresAt ← toI64 i.expiresAtUnix
  some (.grantSession ⟨clusterDomain, i.programId, i.config⟩ i.vault i.session ⟨i.sessionPublicKey,
    actionBitmap, perActionLimit, cumulativeLimit, validAfter, validUntil⟩ vaultNonce expiresAt)

def InitializeVaultAndGrantSessionChallengeInput.describe
    (i : InitializeVaultAndGrantSessionChallengeInput) : Option RootAction := do
  let clusterDomain ← toFixed 32 i.clusterDomain
  let rootPublicKey ← toFixed 33 i.rootPublicKey
  let rootKeyHash ← toFixed 32 i.rootKeyHash
  let userSalt ← toFixed 32 i.userSalt
  let actionBitmap ← toU16 i.actionBitmap
  let perActionLimit ← toU64 i.perActionLimit
  let cumulativeLimit ← toU64 i.cumulativeLimit
  let validAfter ← toI64 i.validAfterUnix
  let validUntil ← toI64 i.validUntilUnix
  let expiresAt ← toI64 i.expiresAtUnix
  some (.initializeVaultAndGrantSession ⟨clusterDomain, i.programId, i.config⟩ i.vault i.session
    i.vaultTokenAccount i.stablecoinMint rootPublicKey rootKeyHash userSalt ⟨i.sessionPublicKey,
    actionBitmap, perActionLimit, cumulativeLimit, validAfter, validUntil⟩ expiresAt)

def SolTransferChallengeInput.describe (i : SolTransferChallengeInput) : Option RootAction := do
  let clusterDomain ← toFixed 32 i.clusterDomain
  let amount ← toU64 i.amountLamports
  let vaultNonce ← toU64 i.vaultNonce
  let expiresAt ← toI64 i.expiresAtUnix
  some (.transferSol ⟨clusterDomain, i.programId, i.config⟩ i.vault i.recipient amount vaultNonce
    expiresAt)

def SolPaymentLinkChallengeInput.describe (i : SolPaymentLinkChallengeInput) : Option RootAction :=
  do
  let clusterDomain ← toFixed 32 i.clusterDomain
  let linkId ← toFixed 32 i.linkId
  let recipientCommitment ← toFixed 32 i.recipientCommitment
  let amount ← toU64 i.amountLamports
  let linkExpiresAt ← toI64 i.linkExpiresAtUnix
  let vaultNonce ← toU64 i.vaultNonce
  let proofExpiresAt ← toI64 i.proofExpiresAtUnix
  some (.createSolPaymentLink ⟨clusterDomain, i.programId, i.config⟩ i.vault i.paymentLink linkId
    recipientCommitment amount linkExpiresAt vaultNonce proofExpiresAt)

def CancelSolPaymentLinkChallengeInput.describe (i : CancelSolPaymentLinkChallengeInput) :
    Option RootAction := do
  let clusterDomain ← toFixed 32 i.clusterDomain
  let vaultNonce ← toU64 i.vaultNonce
  let proofExpiresAt ← toI64 i.proofExpiresAtUnix
  some (.cancelSolPaymentLink ⟨clusterDomain, i.programId,
    i.config⟩ i.vault i.paymentLink vaultNonce
    proofExpiresAt)

def InitializeVaultChallengeInput.InRange (i : InitializeVaultChallengeInput) : Prop :=
  i.clusterDomain.length = 32 ∧ i.rootPublicKey.length = 33 ∧ i.rootKeyHash.length = 32 ∧
    i.userSalt.length = 32 ∧ FitsI64 i.expiresAtUnix

def TransferChallengeInput.InRange (i : TransferChallengeInput) : Prop :=
  i.clusterDomain.length = 32 ∧ FitsU64 i.amount ∧ FitsU64 i.vaultNonce ∧ FitsI64 i.expiresAtUnix

def SessionGrantChallengeInput.InRange (i : SessionGrantChallengeInput) : Prop :=
  i.clusterDomain.length = 32 ∧ FitsU16 i.actionBitmap ∧ FitsU64 i.perActionLimit ∧ FitsU64
    i.cumulativeLimit ∧ FitsI64 i.validAfterUnix ∧ FitsI64 i.validUntilUnix ∧ FitsU64 i.vaultNonce ∧
    FitsI64 i.expiresAtUnix

def InitializeVaultAndGrantSessionChallengeInput.InRange
    (i : InitializeVaultAndGrantSessionChallengeInput) : Prop :=
  i.clusterDomain.length = 32 ∧ i.rootPublicKey.length = 33 ∧ i.rootKeyHash.length = 32 ∧
    i.userSalt.length = 32 ∧ FitsU16 i.actionBitmap ∧ FitsU64 i.perActionLimit ∧ FitsU64
    i.cumulativeLimit ∧ FitsI64 i.validAfterUnix ∧ FitsI64 i.validUntilUnix ∧
    FitsI64 i.expiresAtUnix

def SolTransferChallengeInput.InRange (i : SolTransferChallengeInput) : Prop :=
  i.clusterDomain.length = 32 ∧ FitsU64 i.amountLamports ∧ FitsU64 i.vaultNonce ∧ FitsI64
    i.expiresAtUnix

def SolPaymentLinkChallengeInput.InRange (i : SolPaymentLinkChallengeInput) : Prop :=
  i.clusterDomain.length = 32 ∧ i.linkId.length = 32 ∧ i.recipientCommitment.length = 32 ∧ FitsU64
    i.amountLamports ∧ FitsI64 i.linkExpiresAtUnix ∧ FitsU64 i.vaultNonce ∧
    FitsI64 i.proofExpiresAtUnix

def CancelSolPaymentLinkChallengeInput.InRange (i : CancelSolPaymentLinkChallengeInput) : Prop :=
  i.clusterDomain.length = 32 ∧ FitsU64 i.vaultNonce ∧ FitsI64 i.proofExpiresAtUnix

end Description

theorem toOption_bind {α β : Type} (x : Except String α) (f : α → Except String β) :
    (x >>= f).toOption = x.toOption.bind fun a => (f a).toOption := by
  cases x <;> rfl

theorem toOption_pure {α : Type} (a : α) : (pure a : Except String α).toOption = some a := rfl

theorem assertBytes_toOption (value : Bytes) (n : ℕ) (name : String) :
    (assertBytes value n name).toOption = (toFixed n value).map fun _ => () := by
  unfold assertBytes require toFixed
  split <;> rfl

theorem challengeDomain_eq : challengeDomain = VeriAgentPay.challengeDomain := by decide +kernel

theorem isSome_bind {α β : Type} {x : Option α} {f : α → Option β} {p : Prop}
    (h : ∀ a, (f a).isSome ↔ p) : (x >>= f).isSome ↔ x.isSome ∧ p := by
  cases x with
  | none => simp
  | some a => simpa using h a

theorem isSome_bind_some {α β : Type} {x : Option α} {f : α → β} :
    (x >>= fun a => some (f a)).isSome ↔ x.isSome := by
  cases x <;> simp

section Parity

variable {δ : Type} (sha256 : Bytes → δ)

theorem sha256_preimage (action : RootAction) :
    sha256 action.preimage = challenge sha256 action.parts := by
  rw [challenge, concatBytes_eq_flatten, challengeDomain_eq]
  rfl

theorem initializeVaultChallenge_toOption (i : InitializeVaultChallengeInput) :
    (initializeVaultChallenge sha256 i).toOption = i.describe.map
      fun action => sha256 action.preimage := by
  simp only [initializeVaultChallenge, InitializeVaultChallengeInput.describe, toOption_bind,
    toOption_pure, assertBytes_toOption, u64Le_toOption, i64Le_toOption, Option.bind_map,
    Option.map_bind, Option.bind_eq_bind, Function.comp_def]
  refine bind_toFixed_congr fun clusterDomain hclusterDomain => ?_
  refine bind_toFixed_congr fun rootPublicKey hrootPublicKey => ?_
  refine bind_toFixed_congr fun rootKeyHash hrootKeyHash => ?_
  refine bind_toFixed_congr fun userSalt huserSalt => ?_
  simp only [sha256_preimage, RootAction.parts, RootAction.tailParts, RootAction.scope,
    Option.map_some,
    hclusterDomain, hrootPublicKey, hrootKeyHash, huserSalt]
  rfl

theorem transferChallenge_toOption (i : TransferChallengeInput) :
    (transferChallenge sha256 i).toOption = i.describe.map
      fun action => sha256 action.preimage := by
  simp only [transferChallenge, TransferChallengeInput.describe, toOption_bind, toOption_pure,
    assertBytes_toOption, u64Le_toOption, i64Le_toOption, Option.bind_map, Option.map_bind,
    Option.bind_eq_bind, Function.comp_def]
  refine bind_toFixed_congr fun clusterDomain hclusterDomain => ?_
  simp only [sha256_preimage, RootAction.parts, RootAction.tailParts, RootAction.scope,
    Option.map_some,
    hclusterDomain]
  rfl

theorem sessionGrantChallenge_toOption (i : SessionGrantChallengeInput) :
    (sessionGrantChallenge sha256 i).toOption = i.describe.map
      fun action => sha256 action.preimage := by
  simp only [sessionGrantChallenge, SessionGrantChallengeInput.describe, toOption_bind,
    toOption_pure,
    assertBytes_toOption, u16Le_toOption, u64Le_toOption, i64Le_toOption, Option.bind_map,
    Option.map_bind, Option.bind_eq_bind, Function.comp_def]
  refine bind_toFixed_congr fun clusterDomain hclusterDomain => ?_
  simp only [sha256_preimage, RootAction.parts, RootAction.tailParts, RootAction.scope,
    Option.map_some,
    hclusterDomain]
  rfl

theorem initializeVaultAndGrantSessionChallenge_toOption
    (i : InitializeVaultAndGrantSessionChallengeInput) :
    (initializeVaultAndGrantSessionChallenge sha256 i).toOption = i.describe.map
      fun action => sha256 action.preimage := by
  simp only [initializeVaultAndGrantSessionChallenge,
    InitializeVaultAndGrantSessionChallengeInput.describe, toOption_bind, toOption_pure,
    assertBytes_toOption, u16Le_toOption, u64Le_toOption, i64Le_toOption, Option.bind_map,
    Option.map_bind, Option.bind_eq_bind, Function.comp_def]
  refine bind_toFixed_congr fun clusterDomain hclusterDomain => ?_
  refine bind_toFixed_congr fun rootPublicKey hrootPublicKey => ?_
  refine bind_toFixed_congr fun rootKeyHash hrootKeyHash => ?_
  refine bind_toFixed_congr fun userSalt huserSalt => ?_
  simp only [sha256_preimage, RootAction.parts, RootAction.tailParts, RootAction.scope,
    Option.map_some,
    hclusterDomain, hrootPublicKey, hrootKeyHash, huserSalt]
  rfl

theorem solTransferChallenge_toOption (i : SolTransferChallengeInput) :
    (solTransferChallenge sha256 i).toOption = i.describe.map
      fun action => sha256 action.preimage := by
  simp only [solTransferChallenge, SolTransferChallengeInput.describe, toOption_bind, toOption_pure,
    assertBytes_toOption, u64Le_toOption, i64Le_toOption, Option.bind_map, Option.map_bind,
    Option.bind_eq_bind, Function.comp_def]
  refine bind_toFixed_congr fun clusterDomain hclusterDomain => ?_
  simp only [sha256_preimage, RootAction.parts, RootAction.tailParts, RootAction.scope,
    Option.map_some,
    hclusterDomain]
  rfl

theorem solPaymentLinkChallenge_toOption (i : SolPaymentLinkChallengeInput) :
    (solPaymentLinkChallenge sha256 i).toOption = i.describe.map
      fun action => sha256 action.preimage := by
  simp only [solPaymentLinkChallenge, SolPaymentLinkChallengeInput.describe, toOption_bind,
    toOption_pure, assertBytes_toOption, u64Le_toOption, i64Le_toOption, Option.bind_map,
    Option.map_bind, Option.bind_eq_bind, Function.comp_def]
  refine bind_toFixed_congr fun clusterDomain hclusterDomain => ?_
  refine bind_toFixed_congr fun linkId hlinkId => ?_
  refine bind_toFixed_congr fun recipientCommitment hrecipientCommitment => ?_
  simp only [sha256_preimage, RootAction.parts, RootAction.tailParts, RootAction.scope,
    Option.map_some,
    hclusterDomain, hlinkId, hrecipientCommitment]
  rfl

theorem cancelSolPaymentLinkChallenge_toOption (i : CancelSolPaymentLinkChallengeInput) :
    (cancelSolPaymentLinkChallenge sha256 i).toOption = i.describe.map
      fun action => sha256 action.preimage := by
  simp only [cancelSolPaymentLinkChallenge, CancelSolPaymentLinkChallengeInput.describe,
    toOption_bind,
    toOption_pure, assertBytes_toOption, u64Le_toOption, i64Le_toOption, Option.bind_map,
    Option.map_bind, Option.bind_eq_bind, Function.comp_def]
  refine bind_toFixed_congr fun clusterDomain hclusterDomain => ?_
  simp only [sha256_preimage, RootAction.parts, RootAction.tailParts, RootAction.scope,
    Option.map_some,
    hclusterDomain]
  rfl

end Parity

/-- Any of the seven requests. -/
inductive ClientRequest where
  | initializeVault (input : InitializeVaultChallengeInput)
  | sessionGrant (input : SessionGrantChallengeInput)
  | initializeVaultAndGrantSession (input : InitializeVaultAndGrantSessionChallengeInput)
  | transfer (input : TransferChallengeInput)
  | solTransfer (input : SolTransferChallengeInput)
  | solPaymentLink (input : SolPaymentLinkChallengeInput)
  | cancelSolPaymentLink (input : CancelSolPaymentLinkChallengeInput)

namespace ClientRequest

def challenge {δ : Type} (sha256 : Bytes → δ) : ClientRequest → Except String δ
  | initializeVault input => initializeVaultChallenge sha256 input
  | sessionGrant input => sessionGrantChallenge sha256 input
  | initializeVaultAndGrantSession input => initializeVaultAndGrantSessionChallenge sha256 input
  | transfer input => transferChallenge sha256 input
  | solTransfer input => solTransferChallenge sha256 input
  | solPaymentLink input => solPaymentLinkChallenge sha256 input
  | cancelSolPaymentLink input => cancelSolPaymentLinkChallenge sha256 input

def describe : ClientRequest → Option RootAction
  | initializeVault input => input.describe
  | sessionGrant input => input.describe
  | initializeVaultAndGrantSession input => input.describe
  | transfer input => input.describe
  | solTransfer input => input.describe
  | solPaymentLink input => input.describe
  | cancelSolPaymentLink input => input.describe

def InRange : ClientRequest → Prop
  | initializeVault input => input.InRange
  | sessionGrant input => input.InRange
  | initializeVaultAndGrantSession input => input.InRange
  | transfer input => input.InRange
  | solTransfer input => input.InRange
  | solPaymentLink input => input.InRange
  | cancelSolPaymentLink input => input.InRange

theorem challenge_toOption {δ : Type} (sha256 : Bytes → δ) (req : ClientRequest) :
    (req.challenge sha256).toOption = req.describe.map fun action => sha256 action.preimage := by
  cases req with
  | initializeVault input => exact initializeVaultChallenge_toOption sha256 input
  | sessionGrant input => exact sessionGrantChallenge_toOption sha256 input
  | initializeVaultAndGrantSession input =>
    exact initializeVaultAndGrantSessionChallenge_toOption sha256 input
  | transfer input => exact transferChallenge_toOption sha256 input
  | solTransfer input => exact solTransferChallenge_toOption sha256 input
  | solPaymentLink input => exact solPaymentLinkChallenge_toOption sha256 input
  | cancelSolPaymentLink input => exact cancelSolPaymentLinkChallenge_toOption sha256 input

theorem isSome_describe (req : ClientRequest) : req.describe.isSome ↔ req.InRange := by
  cases req with
  | initializeVault input =>
    simp only [describe, InRange, InitializeVaultChallengeInput.InRange, ← isSome_toFixed, ←
      isSome_toI64]
    iterate 4 refine isSome_bind fun _ => ?_
    exact isSome_bind_some
  | sessionGrant input =>
    simp only [describe, InRange,
      SessionGrantChallengeInput.InRange, ← isSome_toFixed, ← isSome_toU16,
      ← isSome_toU64, ← isSome_toI64]
    iterate 7 refine isSome_bind fun _ => ?_
    exact isSome_bind_some
  | initializeVaultAndGrantSession input =>
    simp only [describe, InRange, InitializeVaultAndGrantSessionChallengeInput.InRange, ←
      isSome_toFixed, ← isSome_toU16, ← isSome_toU64, ← isSome_toI64]
    iterate 9 refine isSome_bind fun _ => ?_
    exact isSome_bind_some
  | transfer input =>
    simp only [describe, InRange,
      TransferChallengeInput.InRange, ← isSome_toFixed, ← isSome_toU64, ←
      isSome_toI64]
    iterate 3 refine isSome_bind fun _ => ?_
    exact isSome_bind_some
  | solTransfer input =>
    simp only [describe, InRange,
      SolTransferChallengeInput.InRange, ← isSome_toFixed, ← isSome_toU64, ←
      isSome_toI64]
    iterate 3 refine isSome_bind fun _ => ?_
    exact isSome_bind_some
  | solPaymentLink input =>
    simp only [describe, InRange, SolPaymentLinkChallengeInput.InRange, ← isSome_toFixed, ←
      isSome_toU64, ← isSome_toI64]
    iterate 6 refine isSome_bind fun _ => ?_
    exact isSome_bind_some
  | cancelSolPaymentLink input =>
    simp only [describe, InRange, CancelSolPaymentLinkChallengeInput.InRange, ← isSome_toFixed, ←
      isSome_toU64, ← isSome_toI64]
    iterate 2 refine isSome_bind fun _ => ?_
    exact isSome_bind_some

theorem exists_describe {req : ClientRequest} (h : req.InRange) :
    ∃ action, req.describe = some action :=
  Option.isSome_iff_exists.mp (req.isSome_describe.mpr h)

theorem challenge_eq_ok {δ : Type} (sha256 : Bytes → δ) {req : ClientRequest} {action : RootAction}
    (h : req.describe = some action) : req.challenge sha256 = .ok (sha256 action.preimage) := by
  have hvalue := req.challenge_toOption sha256
  rw [h, Option.map_some] at hvalue
  cases hresult : req.challenge sha256 with
  | error message =>
    rw [hresult] at hvalue
    cases hvalue
  | ok value =>
    rw [hresult] at hvalue
    exact congrArg Except.ok (Option.some.inj hvalue)

theorem challenge_throws_iff {δ : Type} (sha256 : Bytes → δ) (req : ClientRequest) :
    (∃ message, req.challenge sha256 = .error message) ↔ ¬req.InRange := by
  constructor
  · rintro ⟨message, hthrow⟩ hrange
    obtain ⟨action, hdescribe⟩ := exists_describe hrange
    rw [challenge_eq_ok sha256 hdescribe] at hthrow
    cases hthrow
  · intro hrange
    cases hresult : req.challenge sha256 with
    | error message => exact ⟨message, rfl⟩
    | ok value =>
      have hvalue := req.challenge_toOption sha256
      rw [hresult] at hvalue
      obtain ⟨action, hdescribe, -⟩ := Option.map_eq_some_iff.mp hvalue.symm
      exact absurd
        (req.isSome_describe.mp (Option.isSome_iff_exists.mpr ⟨action, hdescribe⟩)) hrange

end ClientRequest

/-- The request that names a root call's accounts and arguments. -/
def requestOf (rt : Runtime) (config : ProtocolConfig) : Call → Option ClientRequest
  | .initializeVault a args =>
    some (.initializeVault
      { clusterDomain := config.clusterDomain.toList, programId := rt.programId, config := a.config
        vault := a.vault, vaultTokenAccount := a.vaultTokenAccount
        rootPublicKey := args.rootPublicKey.toList, rootKeyHash := args.rootKeyHash.toList
        userSalt := args.userSalt.toList, expiresAtUnix := args.proofExpiresAt.toInt })
  | .grantSession a args =>
    some (.sessionGrant
      { clusterDomain := config.clusterDomain.toList, programId := rt.programId, config := a.config
        vault := a.vault, session := a.session, sessionPublicKey := args.sessionPublicKey
        actionBitmap := .finite args.actionBitmap.toNat, perActionLimit := args.perActionLimit.toNat
        cumulativeLimit := args.cumulativeLimit.toNat, validAfterUnix := args.validAfter.toInt
        validUntilUnix := args.validUntil.toInt, vaultNonce := args.vaultNonce.toNat
        expiresAtUnix := args.proofExpiresAt.toInt })
  | .initializeVaultAndGrantSession a args =>
    some (.initializeVaultAndGrantSession
      { clusterDomain := config.clusterDomain.toList, programId := rt.programId, config := a.config
        vault := a.vault, session := a.session, sessionPublicKey := args.sessionPublicKey
        actionBitmap := .finite args.actionBitmap.toNat, perActionLimit := args.perActionLimit.toNat
        cumulativeLimit := args.cumulativeLimit.toNat, validAfterUnix := args.validAfter.toInt
        validUntilUnix := args.validUntil.toInt, expiresAtUnix := args.proofExpiresAt.toInt
        vaultTokenAccount := a.vaultTokenAccount, stablecoinMint := a.stablecoinMint
        rootPublicKey := args.rootPublicKey.toList, rootKeyHash := args.rootKeyHash.toList
        userSalt := args.userSalt.toList })
  | .transferWithPasskey a args =>
    some (.transfer
      { clusterDomain := config.clusterDomain.toList, programId := rt.programId, config := a.config
        vault := a.vault, vaultTokenAccount := a.vaultTokenAccount
        destinationTokenAccount := a.destinationTokenAccount, stablecoinMint := a.stablecoinMint
        amount := args.amount.toNat, vaultNonce := args.vaultNonce.toNat
        expiresAtUnix := args.proofExpiresAt.toInt })
  | .transferSolWithPasskey a args =>
    some (.solTransfer
      { clusterDomain := config.clusterDomain.toList, programId := rt.programId, config := a.config
        vault := a.vault, recipient := a.recipient, amountLamports := args.amount.toNat
        vaultNonce := args.vaultNonce.toNat, expiresAtUnix := args.proofExpiresAt.toInt })
  | .createSolPaymentLinkWithPasskey a args =>
    some (.solPaymentLink
      { clusterDomain := config.clusterDomain.toList, programId := rt.programId, config := a.config
        vault := a.vault, paymentLink := a.paymentLink, linkId := args.linkId.toList
        recipientCommitment := args.recipientCommitment.toList, amountLamports := args.amount.toNat
        linkExpiresAtUnix := args.expiresAt.toInt, vaultNonce := args.vaultNonce.toNat
        proofExpiresAtUnix := args.proofExpiresAt.toInt })
  | .cancelSolPaymentLinkWithPasskey a args =>
    some (.cancelSolPaymentLink
      { clusterDomain := config.clusterDomain.toList, programId := rt.programId, config := a.config
        vault := a.vault, paymentLink := a.paymentLink, vaultNonce := args.vaultNonce.toNat
        proofExpiresAtUnix := args.proofExpiresAt.toInt })
  | _ => none

theorem describe_requestOf {rt : Runtime} {config : ProtocolConfig} {c : Call} {req : ClientRequest}
    (h : requestOf rt config c = some req) : req.describe = c.rootAction? rt config := by
  cases c <;> cases h <;>
    simp [ClientRequest.describe, InitializeVaultChallengeInput.describe,
      SessionGrantChallengeInput.describe,
      InitializeVaultAndGrantSessionChallengeInput.describe, TransferChallengeInput.describe,
      SolTransferChallengeInput.describe, SolPaymentLinkChallengeInput.describe,
      CancelSolPaymentLinkChallengeInput.describe, Call.rootAction?, scopeOf]

/-- The client data of a proof carry a challenge. -/
def CarriesChallenge (rt : Runtime) (proof : RootProof) (value : FixedBytes 32) : Prop :=
  ∃ clientData, rt.parseClientData proof.clientDataJson = some clientData ∧
    rt.decodeBase64Url clientData.challenge = some value.toList

/-- The client's functions throw exactly on what does not fit. On anything else they hash the bytes
that the program hashes for the described action, which for the accounts and arguments of a call is
the call's own. A proof over their result passes the program's challenge check for that action, and
for another one only by a collision. -/
theorem client_challenge_parity (req : ClientRequest) :
    (∀ (δ : Type) (sha256 : Bytes → δ), (∃ message, req.challenge sha256 = .error message) ↔
      ¬req.InRange) ∧
    (req.InRange → ∃ action, req.describe = some action ∧
      (∀ (δ : Type) (sha256 : Bytes → δ), req.challenge sha256 = .ok
        (sha256 (challengePreimage action.parts))) ∧
      (∀ rt config c, requestOf rt config c = some req → c.rootAction? rt config = some action) ∧
      ∀ (rt : Runtime) (config : ProtocolConfig) (ctx : Context) (now : Int64)
        (rootPublicKey : FixedBytes 33) (action' : RootAction) (proof : RootProof)
          (value : FixedBytes 32),
        req.challenge rt.sha256 = .ok value → CarriesChallenge rt proof value →
        (action' = action →
          authorizeRoot rt config ctx now rootPublicKey action' proof ≠ .error
            (.custom .invalidWebAuthnChallenge)) ∧
        (authorizeRoot rt config ctx now rootPublicKey action' proof = .ok () →
          action' = action ∨ action'.preimage ≠ action.preimage ∧
            rt.sha256 action'.preimage = rt.sha256 action.preimage)) := by
  refine ⟨fun δ sha256 => req.challenge_throws_iff sha256, fun hrange => ?_⟩
  obtain ⟨action, hdescribe⟩ := ClientRequest.exists_describe hrange
  refine ⟨action, hdescribe, fun δ sha256 => ClientRequest.challenge_eq_ok sha256 hdescribe,
    fun rt config c hrequest => (describe_requestOf hrequest).symm.trans hdescribe, ?_⟩
  intro rt config ctx now rootPublicKey action' proof value hvalue hcarries
  rw [ClientRequest.challenge_eq_ok rt.sha256 hdescribe] at hvalue
  obtain rfl := Except.ok.inj hvalue
  obtain ⟨clientData, hclient, hdecode⟩ := hcarries
  constructor
  · rintro rfl
    exact verifyRootAuthorization_ne_challenge hclient hdecode
  · intro haccept
    obtain ⟨clientData', hclient', hdecode'⟩ := challenge_of_verifyRootAuthorization haccept
    rw [hclient] at hclient'
    obtain rfl := Option.some.inj hclient'
    rw [hdecode] at hdecode'
    have hhash : rt.sha256 action.preimage = rt.sha256 action'.preimage :=
      List.Vector.eq _ _ (Option.some.inj hdecode')
    by_cases hpreimage : action'.preimage = action.preimage
    · exact .inl (RootAction.preimage_injective hpreimage)
    · exact .inr ⟨hpreimage, hhash.symm⟩

end VeriAgentPay.Client
