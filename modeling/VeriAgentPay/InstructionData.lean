import VeriAgentPay.InstructionBuilders
import VeriAgentPay.InstructionLayouts

/-!
# The instruction encoders of the client library

Each encoder of `program.ts` writes the discriminator and its fields one after the other. What
the program reads back is the call with the values that went in, except where key material of
another length shifts the fields behind it.
-/

namespace VeriAgentPay.Client
open FixedWidth CheckedOutcome Borsh
open Backend (ProofInput SessionPolicyInput)

section Bytes

def u32Le (value : ℕ) : Except String Bytes :=
  if value > 0xffff_ffff then .error "Value is outside the u32 range" else .ok (dataViewLe 4 value)

def encodeVector (value : Bytes) : Except String Bytes := do
  let length ← u32Le value.length
  pure (concatBytes [length, value])

theorem eq_ok_iff_toOption {ε α : Type} {x : Except ε α} {a : α} :
    x = .ok a ↔ x.toOption = some a := by
  cases x <;> simp [Except.toOption]

theorem toU64_eq_some {value : ℤ} {x : UInt64} : toU64 value = some x ↔ (x.toNat : ℤ) = value := by
  constructor
  · intro h
    unfold toU64 at h
    split at h
    · rename_i hfits
      obtain rfl := Option.some.inj h
      rw [UInt64.toNat_ofNat']
      unfold FitsU64 at hfits
      omega
    · cases h
  · rintro rfl
    exact toU64_toNat x

theorem toU16_eq_some {value : JsNumber} {x : UInt16} :
    toU16 value = some x ↔ value = .finite x.toNat := by
  constructor
  · intro h
    cases value with
    | finite q =>
      simp only [toU16] at h
      split at h
      · rename_i hfits
        obtain ⟨hint, hpositive, hsmall⟩ := hfits
        obtain rfl := Option.some.inj h
        have hq : q = q.num := Rat.eq_num_of_isInt hint
        have hnum : 0 ≤ q.num ∧ q.num < 2 ^ 16 := by
          rw [hq] at hpositive hsmall
          exact ⟨by exact_mod_cast hpositive, by exact_mod_cast hsmall⟩
        have hnat : ((UInt16.ofNat q.num.toNat).toNat : ℤ) = q.num := by
          rw [UInt16.toNat_ofNat']
          omega
        have hcast : ((UInt16.ofNat q.num.toNat).toNat : ℚ) = (q.num : ℚ) := by exact_mod_cast hnat
        rw [hcast, ← hq]
      · cases h
    | _ => cases h
  · rintro rfl
    exact toU16_toNat x

theorem u64Le_eq_ok {value : ℤ} {bytes : Bytes} :
    u64Le value = .ok bytes ↔ ∃ x : UInt64, (x.toNat : ℤ) = value ∧ bytes = u64ToLeBytes x := by
  rw [eq_ok_iff_toOption, u64Le_toOption, Option.map_eq_some_iff]
  simp only [toU64_eq_some, eq_comm (a := bytes)]

theorem i64Le_eq_ok {value : ℤ} {bytes : Bytes} :
    i64Le value = .ok bytes ↔ ∃ x : Int64, x.toInt = value ∧ bytes = i64ToLeBytes x := by
  rw [eq_ok_iff_toOption, i64Le_toOption, Option.map_eq_some_iff]
  simp only [toI64_eq_some, eq_comm (a := bytes)]

theorem u16Le_eq_ok {value : JsNumber} {bytes : Bytes} :
    u16Le value = .ok bytes ↔ ∃ x : UInt16, value = .finite x.toNat ∧ bytes = u16ToLeBytes x := by
  rw [eq_ok_iff_toOption, u16Le_toOption, Option.map_eq_some_iff]
  simp only [toU16_eq_some, eq_comm (a := bytes)]

theorem encodeVector_eq_ok {value bytes : Bytes} :
    encodeVector value = .ok bytes ↔ value.length < 256 ^ 4 ∧
    bytes = leBytes 4 value.length ++ value := by
  have hle : dataViewLe 4 value.length = leBytes 4 value.length ↔ True := by
    simp only [dataViewLe, leBytes_eq_iff, iff_true]
    omega
  have hconcat : concatBytes [leBytes 4 value.length, value] = leBytes 4 value.length ++ value := by
    simp [concatBytes_eq_flatten]
  simp only [encodeVector, bind_eq_ok, pure_eq_ok, u32Le, hle.mpr trivial]
  constructor
  · rintro ⟨length, hlength, rfl⟩
    split at hlength
    · cases hlength
    · rename_i hsmall
      rw [← Except.ok.inj hlength]
      exact ⟨by omega, hconcat⟩
  · rintro ⟨hsmall, rfl⟩
    exact ⟨_, if_neg (by omega), hconcat⟩

theorem exists_u64Le {value : ℤ} : (∃ bytes, u64Le value = .ok bytes) ↔ FitsU64 value := by
  simp only [u64Le_eq_ok]
  rw [← isSome_toU64, Option.isSome_iff_exists]
  simp [toU64_eq_some]

theorem exists_i64Le {value : ℤ} : (∃ bytes, i64Le value = .ok bytes) ↔ FitsI64 value := by
  simp only [i64Le_eq_ok]
  rw [← isSome_toI64, Option.isSome_iff_exists]
  simp [toI64_eq_some]

theorem exists_u16Le {value : JsNumber} : (∃ bytes, u16Le value = .ok bytes) ↔ FitsU16 value := by
  simp only [u16Le_eq_ok]
  rw [← isSome_toU16, Option.isSome_iff_exists]
  simp [toU16_eq_some]

theorem exists_encodeVector {value : Bytes} :
    (∃ bytes, encodeVector value = .ok bytes) ↔ value.length < 256 ^ 4 := by
  simp [encodeVector_eq_ok]

end Bytes

section Inputs

structure InitializeVaultInstructionInput extends InitializeVault, ProofInput where
  rootPublicKey : Bytes
  rootKeyHash : Bytes
  userSalt : Bytes
  programId : Option Pubkey

structure PasskeyTransferInstructionInput extends TransferWithPasskey, ProofInput where
  amount : ℤ
  vaultNonce : ℤ
  programId : Option Pubkey

structure SessionGrantInstructionInput extends GrantSession, SessionPolicyInput, ProofInput where
  vaultNonce : ℤ
  programId : Option Pubkey

structure InitializeVaultAndGrantSessionInstructionInput extends
    InitializeVaultAndGrantSession, SessionPolicyInput, ProofInput where
  rootPublicKey : Bytes
  rootKeyHash : Bytes
  userSalt : Bytes
  programId : Option Pubkey

structure SessionTransferInstructionInput extends TransferWithSession where
  amount : ℤ
  sessionNonce : ℤ
  programId : Option Pubkey

structure InitializeClaimAuthorityInstructionInput extends InitializeClaimAuthority where
  authority : Pubkey
  programId : Option Pubkey

structure CreatePaymentLinkWithSessionInstructionInput extends CreatePaymentLinkWithSession where
  linkId : Bytes
  recipientCommitment : Bytes
  amount : ℤ
  expiresAtUnix : ℤ
  sessionNonce : ℤ
  programId : Option Pubkey

structure ClaimPaymentLinkInstructionInput extends ClaimPaymentLink where
  programId : Option Pubkey

structure CancelPaymentLinkWithSessionInstructionInput extends CancelPaymentLinkWithSession where
  sessionNonce : ℤ
  programId : Option Pubkey

structure RefundExpiredPaymentLinkInstructionInput extends RefundExpiredPaymentLink where
  programId : Option Pubkey

structure SolPasskeyTransferInstructionInput extends TransferSolWithPasskey, ProofInput where
  amountLamports : ℤ
  vaultNonce : ℤ
  programId : Option Pubkey

structure CreateSolPaymentLinkWithPasskeyInstructionInput extends CreateSolPaymentLinkWithPasskey,
    ProofInput where
  linkId : Bytes
  recipientCommitment : Bytes
  amountLamports : ℤ
  linkExpiresAtUnix : ℤ
  vaultNonce : ℤ
  programId : Option Pubkey

structure ClaimSolPaymentLinkInstructionInput extends ClaimSolPaymentLink where
  programId : Option Pubkey

structure CancelSolPaymentLinkWithPasskeyInstructionInput extends CancelSolPaymentLinkWithPasskey,
    ProofInput where
  vaultNonce : ℤ
  programId : Option Pubkey

structure RefundExpiredSolPaymentLinkInstructionInput extends RefundExpiredSolPaymentLink where
  programId : Option Pubkey

end Inputs

section Encoders

variable (rt : Runtime)

def veriagentProgramId : Pubkey :=
  ⟨[138, 67, 95, 146, 245, 49, 84, 81, 223, 212, 111, 113, 232, 145, 13, 160, 21, 254, 192, 107, 48,
    165, 140, 154,
    103, 58, 16, 88, 119, 245, 114, 196], rfl⟩

/-- `SystemProgram.programId`. -/
def systemProgramId : Pubkey := defaultPubkey

def createInitializeVaultInstruction (input : InitializeVaultInstructionInput) :
    Except String Instruction := do
  require (¬(input.rootPublicKey.length ≠ 33 ∨ input.rootKeyHash.length ≠ 32 ∨
    input.userSalt.length ≠ 32))
    "Vault key material has an invalid length"
  let programId := input.programId.getD veriagentProgramId
  let discriminator := (rt.sha256 (utf8 "global:initialize_vault")).toList.take 8
  let proofExpiresAt ← i64Le input.proofExpiresAt
  let authenticatorData ← encodeVector input.authenticatorData
  let clientDataJson ← encodeVector input.clientDataJson
  pure
    { programId
      keys :=
        [⟨input.payer, true, true⟩, ⟨input.config, false, false⟩, ⟨input.vault, false, true⟩,
          ⟨input.stablecoinMint, false, false⟩, ⟨input.vaultTokenAccount, false, true⟩,
          ⟨instructionsSysvarId, false, false⟩, ⟨tokenProgramId, false, false⟩,
          ⟨associatedTokenProgramId, false, false⟩, ⟨systemProgramId, false, false⟩]
      data := concatBytes
        [discriminator, input.rootPublicKey, input.rootKeyHash, input.userSalt, proofExpiresAt,
          authenticatorData,
          clientDataJson] }

def createPasskeyTransferInstruction (input : PasskeyTransferInstructionInput) :
    Except String Instruction := do
  let programId := input.programId.getD veriagentProgramId
  let discriminator := (rt.sha256 (utf8 "global:transfer_with_passkey")).toList.take 8
  let amount ← u64Le input.amount
  let vaultNonce ← u64Le input.vaultNonce
  let proofExpiresAt ← i64Le input.proofExpiresAt
  let authenticatorData ← encodeVector input.authenticatorData
  let clientDataJson ← encodeVector input.clientDataJson
  pure
    { programId
      keys :=
        [⟨input.payer, true, true⟩, ⟨input.config, false, false⟩, ⟨input.vault, false, true⟩,
          ⟨input.stablecoinMint, false, false⟩, ⟨input.vaultTokenAccount, false, true⟩,
          ⟨input.destinationTokenAccount, false, true⟩, ⟨instructionsSysvarId, false, false⟩,
          ⟨tokenProgramId, false, false⟩]
      data := concatBytes [discriminator, amount, vaultNonce, proofExpiresAt, authenticatorData,
        clientDataJson] }

def createGrantSessionInstruction (input : SessionGrantInstructionInput) :
    Except String Instruction := do
  let programId := input.programId.getD veriagentProgramId
  let discriminator := (rt.sha256 (utf8 "global:grant_session")).toList.take 8
  let actionBitmap ← u16Le input.actionBitmap
  let perActionLimit ← u64Le input.perActionLimit
  let cumulativeLimit ← u64Le input.cumulativeLimit
  let validAfter ← i64Le input.validAfterUnix
  let validUntil ← i64Le input.validUntilUnix
  let vaultNonce ← u64Le input.vaultNonce
  let proofExpiresAt ← i64Le input.proofExpiresAt
  let authenticatorData ← encodeVector input.authenticatorData
  let clientDataJson ← encodeVector input.clientDataJson
  pure
    { programId
      keys :=
        [⟨input.payer, true, true⟩, ⟨input.config, false, false⟩, ⟨input.vault, false, true⟩,
          ⟨input.session, false, true⟩, ⟨instructionsSysvarId, false, false⟩,
          ⟨systemProgramId, false, false⟩]
      data := concatBytes
        [discriminator, input.sessionPublicKey.toList, actionBitmap, perActionLimit,
          cumulativeLimit, validAfter,
          validUntil, vaultNonce, proofExpiresAt, authenticatorData, clientDataJson] }

/-- The encoder without a check of the key material's lengths. -/
def createInitializeVaultAndGrantSessionInstruction
    (input : InitializeVaultAndGrantSessionInstructionInput) :
    Except String Instruction := do
  let programId := input.programId.getD veriagentProgramId
  let discriminator := (rt.sha256 (utf8 "global:initialize_vault_and_grant_session")).toList.take 8
  let actionBitmap ← u16Le input.actionBitmap
  let perActionLimit ← u64Le input.perActionLimit
  let cumulativeLimit ← u64Le input.cumulativeLimit
  let validAfter ← i64Le input.validAfterUnix
  let validUntil ← i64Le input.validUntilUnix
  let proofExpiresAt ← i64Le input.proofExpiresAt
  let authenticatorData ← encodeVector input.authenticatorData
  let clientDataJson ← encodeVector input.clientDataJson
  pure
    { programId
      keys :=
        [⟨input.payer, true, true⟩, ⟨input.config, false, false⟩, ⟨input.vault, false, true⟩,
          ⟨input.session, false, true⟩, ⟨input.stablecoinMint, false, false⟩,
          ⟨input.vaultTokenAccount, false, true⟩,
          ⟨instructionsSysvarId, false, false⟩, ⟨tokenProgramId, false, false⟩,
          ⟨associatedTokenProgramId, false, false⟩, ⟨systemProgramId, false, false⟩]
      data := concatBytes
        [discriminator, input.rootPublicKey, input.rootKeyHash, input.userSalt,
          input.sessionPublicKey.toList,
          actionBitmap, perActionLimit, cumulativeLimit, validAfter, validUntil, proofExpiresAt,
          authenticatorData,
          clientDataJson] }

def createSessionTransferInstruction (input : SessionTransferInstructionInput) :
    Except String Instruction := do
  let programId := input.programId.getD veriagentProgramId
  let discriminator := (rt.sha256 (utf8 "global:transfer_with_session")).toList.take 8
  let amount ← u64Le input.amount
  let sessionNonce ← u64Le input.sessionNonce
  pure
    { programId
      keys :=
        [⟨input.config, false, false⟩, ⟨input.vault, false, false⟩, ⟨input.session, false, true⟩,
          ⟨input.sessionSigner, true, false⟩, ⟨input.stablecoinMint, false, false⟩,
          ⟨input.vaultTokenAccount, false, true⟩, ⟨input.destinationTokenAccount, false, true⟩,
          ⟨tokenProgramId, false, false⟩]
      data := concatBytes [discriminator, amount, sessionNonce] }

def createInitializeClaimAuthorityInstruction (input : InitializeClaimAuthorityInstructionInput) :
    Except String Instruction := do
  let programId := input.programId.getD veriagentProgramId
  pure
    { programId
      keys :=
        [⟨input.protocolAuthority, true, true⟩, ⟨input.config, false, false⟩,
          ⟨input.claimAuthorityConfig, false, true⟩, ⟨systemProgramId, false, false⟩]
      data := concatBytes
        [(rt.sha256 (utf8 "global:initialize_claim_authority")).toList.take 8,
          input.authority.toList] }

def createPaymentLinkWithSessionInstruction (input : CreatePaymentLinkWithSessionInstructionInput) :
    Except String Instruction := do
  require (¬(input.linkId.length ≠ 32 ∨ input.recipientCommitment.length ≠ 32))
    "Payment-link ID and recipient commitment must each contain 32 bytes"
  let programId := input.programId.getD veriagentProgramId
  let amount ← u64Le input.amount
  let expiresAt ← i64Le input.expiresAtUnix
  let sessionNonce ← u64Le input.sessionNonce
  pure
    { programId
      keys :=
        [⟨input.payer, true, true⟩, ⟨input.config, false, false⟩, ⟨input.vault, false, false⟩,
          ⟨input.session, false, true⟩, ⟨input.sessionSigner, true, false⟩,
          ⟨input.stablecoinMint, false, false⟩,
          ⟨input.vaultTokenAccount, false, true⟩, ⟨input.paymentLink, false, true⟩,
          ⟨input.escrowTokenAccount, false, true⟩, ⟨tokenProgramId, false, false⟩,
          ⟨associatedTokenProgramId, false, false⟩, ⟨systemProgramId, false, false⟩]
      data := concatBytes
        [(rt.sha256 (utf8 "global:create_payment_link_with_session")).toList.take 8, input.linkId,
          input.recipientCommitment, amount, expiresAt, sessionNonce] }

def createClaimPaymentLinkInstruction (input : ClaimPaymentLinkInstructionInput) :
    Except String Instruction :=
  let programId := input.programId.getD veriagentProgramId
  pure
    { programId
      keys :=
        [⟨input.claimAuthority, true, true⟩, ⟨input.config, false, false⟩,
          ⟨input.claimAuthorityConfig, false, false⟩,
          ⟨input.recipientVault, false, false⟩, ⟨input.paymentLink, false, true⟩,
          ⟨input.stablecoinMint, false, false⟩, ⟨input.escrowTokenAccount, false, true⟩,
          ⟨input.destinationTokenAccount, false, true⟩, ⟨tokenProgramId, false, false⟩,
          ⟨associatedTokenProgramId, false, false⟩, ⟨systemProgramId, false, false⟩]
      data := (rt.sha256 (utf8 "global:claim_payment_link")).toList.take 8 }

def createCancelPaymentLinkWithSessionInstruction
    (input : CancelPaymentLinkWithSessionInstructionInput) :
    Except String Instruction := do
  let programId := input.programId.getD veriagentProgramId
  let sessionNonce ← u64Le input.sessionNonce
  pure
    { programId
      keys :=
        [⟨input.config, false, false⟩, ⟨input.vault, false, false⟩, ⟨input.session, false, true⟩,
          ⟨input.sessionSigner, true, false⟩, ⟨input.paymentLink, false, true⟩,
          ⟨input.stablecoinMint, false, false⟩,
          ⟨input.escrowTokenAccount, false, true⟩, ⟨input.vaultTokenAccount, false, true⟩,
          ⟨tokenProgramId, false, false⟩]
      data := concatBytes
        [(rt.sha256 (utf8 "global:cancel_payment_link_with_session")).toList.take 8, sessionNonce] }

def createRefundExpiredPaymentLinkInstruction (input : RefundExpiredPaymentLinkInstructionInput) :
    Except String Instruction :=
  let programId := input.programId.getD veriagentProgramId
  pure
    { programId
      keys :=
        [⟨input.config, false, false⟩, ⟨input.senderVault, false, false⟩,
          ⟨input.paymentLink, false, true⟩,
          ⟨input.stablecoinMint, false, false⟩, ⟨input.escrowTokenAccount, false, true⟩,
          ⟨input.vaultTokenAccount, false, true⟩, ⟨tokenProgramId, false, false⟩]
      data := (rt.sha256 (utf8 "global:refund_expired_payment_link")).toList.take 8 }

def createSolPasskeyTransferInstruction (input : SolPasskeyTransferInstructionInput) :
    Except String Instruction := do
  let programId := input.programId.getD veriagentProgramId
  let amount ← u64Le input.amountLamports
  let vaultNonce ← u64Le input.vaultNonce
  let proofExpiresAt ← i64Le input.proofExpiresAt
  let authenticatorData ← encodeVector input.authenticatorData
  let clientDataJson ← encodeVector input.clientDataJson
  pure
    { programId
      keys :=
        [⟨input.payer, true, true⟩, ⟨input.config, false, false⟩, ⟨input.vault, false, true⟩,
          ⟨input.recipient, false, true⟩, ⟨instructionsSysvarId, false, false⟩]
      data := concatBytes
        [(rt.sha256 (utf8 "global:transfer_sol_with_passkey")).toList.take 8, amount, vaultNonce,
          proofExpiresAt,
          authenticatorData, clientDataJson] }

def createSolPaymentLinkWithPasskeyInstruction
    (input : CreateSolPaymentLinkWithPasskeyInstructionInput) :
    Except String Instruction := do
  require (¬(input.linkId.length ≠ 32 ∨ input.recipientCommitment.length ≠ 32))
    "Payment-link ID and recipient commitment must each contain 32 bytes"
  let programId := input.programId.getD veriagentProgramId
  let amount ← u64Le input.amountLamports
  let expiresAt ← i64Le input.linkExpiresAtUnix
  let vaultNonce ← u64Le input.vaultNonce
  let proofExpiresAt ← i64Le input.proofExpiresAt
  let authenticatorData ← encodeVector input.authenticatorData
  let clientDataJson ← encodeVector input.clientDataJson
  pure
    { programId
      keys :=
        [⟨input.payer, true, true⟩, ⟨input.config, false, false⟩, ⟨input.vault, false, true⟩,
          ⟨input.paymentLink, false, true⟩, ⟨instructionsSysvarId, false, false⟩,
          ⟨systemProgramId, false, false⟩]
      data := concatBytes
        [(rt.sha256 (utf8 "global:create_sol_payment_link_with_passkey")).toList.take 8,
          input.linkId,
          input.recipientCommitment, amount, expiresAt, vaultNonce, proofExpiresAt,
          authenticatorData,
          clientDataJson] }

def createClaimSolPaymentLinkInstruction (input : ClaimSolPaymentLinkInstructionInput) :
    Except String Instruction :=
  let programId := input.programId.getD veriagentProgramId
  pure
    { programId
      keys :=
        [⟨input.claimAuthority, true, true⟩, ⟨input.config, false, false⟩,
          ⟨input.claimAuthorityConfig, false, false⟩,
          ⟨input.recipientVault, false, true⟩, ⟨input.paymentLink, false, true⟩]
      data := (rt.sha256 (utf8 "global:claim_sol_payment_link")).toList.take 8 }

def createCancelSolPaymentLinkWithPasskeyInstruction
    (input : CancelSolPaymentLinkWithPasskeyInstructionInput) :
    Except String Instruction := do
  let programId := input.programId.getD veriagentProgramId
  let vaultNonce ← u64Le input.vaultNonce
  let proofExpiresAt ← i64Le input.proofExpiresAt
  let authenticatorData ← encodeVector input.authenticatorData
  let clientDataJson ← encodeVector input.clientDataJson
  pure
    { programId
      keys :=
        [⟨input.payer, true, true⟩, ⟨input.config, false, false⟩, ⟨input.vault, false, true⟩,
          ⟨input.paymentLink, false, true⟩, ⟨instructionsSysvarId, false, false⟩]
      data := concatBytes
        [(rt.sha256 (utf8 "global:cancel_sol_payment_link_with_passkey")).toList.take 8, vaultNonce,
          proofExpiresAt,
          authenticatorData, clientDataJson] }

def createRefundExpiredSolPaymentLinkInstruction
    (input : RefundExpiredSolPaymentLinkInstructionInput) :
    Except String Instruction :=
  let programId := input.programId.getD veriagentProgramId
  pure
    { programId
      keys :=
        [⟨input.config, false, false⟩, ⟨input.senderVault, false, true⟩,
          ⟨input.paymentLink, false, true⟩]
      data := (rt.sha256 (utf8 "global:refund_expired_sol_payment_link")).toList.take 8 }

end Encoders

section Meanings

/-- The values of the input and of the arguments are the same. -/
def SameProof (input : ProofInput) (proof : RootProof) : Prop :=
  proof.proofExpiresAt.toInt = input.proofExpiresAt ∧
  proof.authenticatorData = input.authenticatorData ∧
    proof.clientDataJson = input.clientDataJson

def SamePolicy (input : SessionPolicyInput) (policy : SessionPolicy) : Prop :=
  policy.sessionPublicKey = input.sessionPublicKey ∧
  input.actionBitmap = .finite policy.actionBitmap.toNat ∧
    (policy.perActionLimit.toNat : ℤ) = input.perActionLimit ∧
    (policy.cumulativeLimit.toNat : ℤ) = input.cumulativeLimit ∧
    policy.validAfter.toInt = input.validAfterUnix ∧
    policy.validUntil.toInt = input.validUntilUnix

/-- An input of one of the encoders. -/
inductive InstructionInput where
  | initializeVault (input : InitializeVaultInstructionInput)
  | passkeyTransfer (input : PasskeyTransferInstructionInput)
  | grantSession (input : SessionGrantInstructionInput)
  | initializeVaultAndGrantSession (input : InitializeVaultAndGrantSessionInstructionInput)
  | sessionTransfer (input : SessionTransferInstructionInput)
  | initializeClaimAuthority (input : InitializeClaimAuthorityInstructionInput)
  | paymentLinkWithSession (input : CreatePaymentLinkWithSessionInstructionInput)
  | claimPaymentLink (input : ClaimPaymentLinkInstructionInput)
  | cancelPaymentLinkWithSession (input : CancelPaymentLinkWithSessionInstructionInput)
  | refundExpiredPaymentLink (input : RefundExpiredPaymentLinkInstructionInput)
  | solPasskeyTransfer (input : SolPasskeyTransferInstructionInput)
  | solPaymentLinkWithPasskey (input : CreateSolPaymentLinkWithPasskeyInstructionInput)
  | claimSolPaymentLink (input : ClaimSolPaymentLinkInstructionInput)
  | cancelSolPaymentLinkWithPasskey (input : CancelSolPaymentLinkWithPasskeyInstructionInput)
  | refundExpiredSolPaymentLink (input : RefundExpiredSolPaymentLinkInstructionInput)

namespace InstructionInput

def create (rt : Runtime) : InstructionInput → Except String Instruction
  | initializeVault input => createInitializeVaultInstruction rt input
  | passkeyTransfer input => createPasskeyTransferInstruction rt input
  | grantSession input => createGrantSessionInstruction rt input
  | initializeVaultAndGrantSession input => createInitializeVaultAndGrantSessionInstruction rt input
  | sessionTransfer input => createSessionTransferInstruction rt input
  | initializeClaimAuthority input => createInitializeClaimAuthorityInstruction rt input
  | paymentLinkWithSession input => createPaymentLinkWithSessionInstruction rt input
  | claimPaymentLink input => createClaimPaymentLinkInstruction rt input
  | cancelPaymentLinkWithSession input => createCancelPaymentLinkWithSessionInstruction rt input
  | refundExpiredPaymentLink input => createRefundExpiredPaymentLinkInstruction rt input
  | solPasskeyTransfer input => createSolPasskeyTransferInstruction rt input
  | solPaymentLinkWithPasskey input => createSolPaymentLinkWithPasskeyInstruction rt input
  | claimSolPaymentLink input => createClaimSolPaymentLinkInstruction rt input
  | cancelSolPaymentLinkWithPasskey input =>
    createCancelSolPaymentLinkWithPasskeyInstruction rt input
  | refundExpiredSolPaymentLink input => createRefundExpiredSolPaymentLinkInstruction rt input

/-- The call has the accounts of the input and exactly its values. -/
def Denotes : InstructionInput → Call → Prop
  | initializeVault input, c => ∃ args, c = .initializeVault input.toInitializeVault args ∧
      args.rootPublicKey.toList = input.rootPublicKey ∧
      args.rootKeyHash.toList = input.rootKeyHash ∧
      args.userSalt.toList = input.userSalt ∧ SameProof input.toProofInput args.toRootProof
  | passkeyTransfer input, c => ∃ args, c = .transferWithPasskey input.toTransferWithPasskey args ∧
      (args.amount.toNat : ℤ) = input.amount ∧ (args.vaultNonce.toNat : ℤ) = input.vaultNonce ∧
      SameProof input.toProofInput args.toRootProof
  | grantSession input, c => ∃ args, c = .grantSession input.toGrantSession args ∧
      SamePolicy input.toSessionPolicyInput args.toSessionPolicy ∧
      (args.vaultNonce.toNat : ℤ) = input.vaultNonce ∧ SameProof input.toProofInput args.toRootProof
  | initializeVaultAndGrantSession input, c => ∃ args,
      c = .initializeVaultAndGrantSession input.toInitializeVaultAndGrantSession args ∧
      args.rootPublicKey.toList = input.rootPublicKey ∧
      args.rootKeyHash.toList = input.rootKeyHash ∧
      args.userSalt.toList = input.userSalt ∧
      SamePolicy input.toSessionPolicyInput args.toSessionPolicy ∧
      SameProof input.toProofInput args.toRootProof
  | sessionTransfer input, c => ∃ args, c = .transferWithSession input.toTransferWithSession args ∧
      (args.amount.toNat : ℤ) = input.amount ∧ (args.sessionNonce.toNat : ℤ) = input.sessionNonce
  | initializeClaimAuthority input, c =>
      c = .initializeClaimAuthority input.toInitializeClaimAuthority ⟨input.authority⟩
  | paymentLinkWithSession input, c => ∃ args,
      c = .createPaymentLinkWithSession input.toCreatePaymentLinkWithSession args ∧
      args.linkId.toList = input.linkId ∧
      args.recipientCommitment.toList = input.recipientCommitment ∧
      (args.amount.toNat : ℤ) = input.amount ∧ args.expiresAt.toInt = input.expiresAtUnix ∧
      (args.sessionNonce.toNat : ℤ) = input.sessionNonce
  | claimPaymentLink input, c => c = .claimPaymentLink input.toClaimPaymentLink
  | cancelPaymentLinkWithSession input, c => ∃ args,
      c = .cancelPaymentLinkWithSession input.toCancelPaymentLinkWithSession args ∧
      (args.sessionNonce.toNat : ℤ) = input.sessionNonce
  | refundExpiredPaymentLink input, c =>
    c = .refundExpiredPaymentLink input.toRefundExpiredPaymentLink
  | solPasskeyTransfer input, c =>
    ∃ args, c = .transferSolWithPasskey input.toTransferSolWithPasskey args ∧
      (args.amount.toNat : ℤ) = input.amountLamports ∧
      (args.vaultNonce.toNat : ℤ) = input.vaultNonce ∧
      SameProof input.toProofInput args.toRootProof
  | solPaymentLinkWithPasskey input, c => ∃ args,
      c = .createSolPaymentLinkWithPasskey input.toCreateSolPaymentLinkWithPasskey args ∧
      args.linkId.toList = input.linkId ∧
      args.recipientCommitment.toList = input.recipientCommitment ∧
      (args.amount.toNat : ℤ) = input.amountLamports ∧
      args.expiresAt.toInt = input.linkExpiresAtUnix ∧
      (args.vaultNonce.toNat : ℤ) = input.vaultNonce ∧ SameProof input.toProofInput args.toRootProof
  | claimSolPaymentLink input, c => c = .claimSolPaymentLink input.toClaimSolPaymentLink
  | cancelSolPaymentLinkWithPasskey input, c => ∃ args,
      c = .cancelSolPaymentLinkWithPasskey input.toCancelSolPaymentLinkWithPasskey args ∧
      (args.vaultNonce.toNat : ℤ) = input.vaultNonce ∧ SameProof input.toProofInput args.toRootProof
  | refundExpiredSolPaymentLink input, c =>
    c = .refundExpiredSolPaymentLink input.toRefundExpiredSolPaymentLink

end InstructionInput

end Meanings

section Decoding

variable {rt : Runtime} {α : Type} {ix : Instruction}

theorem encodes_of_fields {name text : String} {reader : Reader α} {args : α}
    {metas : List AccountMeta} {programId : Pubkey} {fields : List Bytes}
    (htext : text = "global:" ++ name) (hreads : Reads reader fields.flatten args) :
    Encodes rt name reader args metas
      { programId,
        keys := metas, data := concatBytes ((rt.sha256 (utf8 text)).toList.take 8 :: fields) } := by
  have hdata : concatBytes ((rt.sha256 (utf8 text)).toList.take 8 :: fields) =
      instructionDiscriminator rt name ++ fields.flatten := by
    rw [concatBytes_eq_flatten, List.flatten_cons, htext]
    rfl
  exact encodes_of_reads hdata hreads rfl

/-- The last three fields of every root-authorised instruction. -/
theorem reads_proof {f : Int64 → Bytes → Bytes → α} {expiresAt : Int64}
    {authenticatorData clientDataJson : Bytes} (hauthenticator : authenticatorData.length < 256 ^ 4)
    (hclient : clientDataJson.length < 256 ^ 4) :
    Reads (do
        let e ← i64
        let a ← vector
        let c ← vector
        pure (f e a c))
      [i64ToLeBytes expiresAt, leBytes 4 authenticatorData.length ++ authenticatorData,
        leBytes 4 clientDataJson.length ++
          clientDataJson].flatten (f expiresAt authenticatorData clientDataJson) :=
  (reads_i64 expiresAt).bind
    ((reads_vector hauthenticator).bind ((reads_vector hclient).bind (Reads.pure _)))

/-- The six fields of a session policy. -/
theorem reads_policy {k : Pubkey → UInt16 → UInt64 → UInt64 → Int64 → Int64 → Reader α}
    (policy : SessionPolicy) {rest : List Bytes} {args : α}
    (hrest : Reads
      (k policy.sessionPublicKey policy.actionBitmap policy.perActionLimit policy.cumulativeLimit
      policy.validAfter policy.validUntil) rest.flatten args) :
    Reads (do
        let s ← fixed 32
        let b ← u16
        let p ← u64
        let c ← u64
        let a ← i64
        let u ← i64
        k s b p c a u)
      (policy.sessionPublicKey.toList :: u16ToLeBytes policy.actionBitmap ::
        u64ToLeBytes policy.perActionLimit ::
        u64ToLeBytes policy.cumulativeLimit :: i64ToLeBytes policy.validAfter ::
          i64ToLeBytes policy.validUntil ::
        rest).flatten args :=
  (reads_fixed _).bind
    ((reads_u16 _).bind ((reads_u64 _).bind ((reads_u64 _).bind ((reads_i64 _).bind
    ((reads_i64 _).bind hrest)))))

theorem decodes_initializeVault {input : InitializeVaultInstructionInput}
    (h : createInitializeVaultInstruction rt input = .ok ix) :
    ∃ c, InstructionInput.Denotes (.initializeVault input) c ∧ c.EncodedBy rt ix := by
  simp only [createInitializeVaultInstruction, bind_eq_ok, require_eq_ok, exists_unit, pure_eq_ok,
    i64Le_eq_ok,
    encodeVector_eq_ok, not_or, not_not] at h
  obtain ⟨⟨hkey, hhash, hsalt⟩, _, ⟨expiresAt, hexpires, rfl⟩, _, ⟨hauthenticator, rfl⟩, _,
    ⟨hclient, rfl⟩, rfl⟩ := h
  refine ⟨_, ⟨⟨⟨expiresAt, input.authenticatorData, input.clientDataJson⟩,
    ⟨input.rootPublicKey, hkey⟩,
    ⟨input.rootKeyHash, hhash⟩, ⟨input.userSalt, hsalt⟩⟩, rfl, rfl, rfl, rfl, hexpires,
    rfl, rfl⟩, ?_⟩
  refine encodes_of_fields (by rfl) ?_
  exact (reads_fixed ⟨input.rootPublicKey, hkey⟩).bind
    ((reads_fixed ⟨input.rootKeyHash, hhash⟩).bind
    ((reads_fixed ⟨input.userSalt, hsalt⟩).bind (reads_proof hauthenticator hclient)))

theorem decodes_passkeyTransfer {input : PasskeyTransferInstructionInput}
    (h : createPasskeyTransferInstruction rt input = .ok ix) :
    ∃ c, InstructionInput.Denotes (.passkeyTransfer input) c ∧ c.EncodedBy rt ix := by
  simp only [createPasskeyTransferInstruction, bind_eq_ok, pure_eq_ok, u64Le_eq_ok, i64Le_eq_ok,
    encodeVector_eq_ok] at h
  obtain ⟨_, ⟨amount, hamount, rfl⟩, _, ⟨nonce, hnonce, rfl⟩, _, ⟨expiresAt, hexpires, rfl⟩, _,
    ⟨hauthenticator, rfl⟩,
    _, ⟨hclient, rfl⟩, rfl⟩ := h
  refine ⟨_, ⟨⟨⟨expiresAt, input.authenticatorData, input.clientDataJson⟩, amount, nonce⟩, rfl,
    hamount, hnonce,
    hexpires, rfl, rfl⟩, ?_⟩
  refine encodes_of_fields (by rfl) ?_
  exact (reads_u64 amount).bind ((reads_u64 nonce).bind (reads_proof hauthenticator hclient))

theorem decodes_grantSession {input : SessionGrantInstructionInput}
    (h : createGrantSessionInstruction rt input = .ok ix) :
    ∃ c, InstructionInput.Denotes (.grantSession input) c ∧ c.EncodedBy rt ix := by
  simp only [createGrantSessionInstruction, bind_eq_ok, pure_eq_ok, u16Le_eq_ok, u64Le_eq_ok,
    i64Le_eq_ok,
    encodeVector_eq_ok] at h
  obtain ⟨_, ⟨actions, hactions, rfl⟩, _, ⟨action, haction, rfl⟩, _,
    ⟨cumulative, hcumulative, rfl⟩, _,
    ⟨after, hafter, rfl⟩, _, ⟨until_, huntil, rfl⟩, _, ⟨nonce, hnonce, rfl⟩, _,
    ⟨expiresAt, hexpires, rfl⟩, _,
    ⟨hauthenticator, rfl⟩, _, ⟨hclient, rfl⟩, rfl⟩ := h
  let policy : SessionPolicy := ⟨input.sessionPublicKey, actions, action, cumulative, after, until_⟩
  let proof : RootProof := ⟨expiresAt, input.authenticatorData, input.clientDataJson⟩
  refine ⟨_, ⟨{ policy, proof with vaultNonce := nonce }, rfl,
    ⟨rfl, hactions, haction, hcumulative, hafter, huntil⟩,
    hnonce, hexpires, rfl, rfl⟩, ?_⟩
  refine encodes_of_fields (by rfl) ?_
  exact reads_policy policy ((reads_u64 nonce).bind (reads_proof hauthenticator hclient))

theorem decodes_initializeVaultAndGrantSession
    {input : InitializeVaultAndGrantSessionInstructionInput}
    (hkey : input.rootPublicKey.length = 33) (hhash : input.rootKeyHash.length = 32)
    (hsalt : input.userSalt.length = 32)
    (h : createInitializeVaultAndGrantSessionInstruction rt input = .ok ix) :
    ∃ c, InstructionInput.Denotes (.initializeVaultAndGrantSession input) c ∧
      c.EncodedBy rt ix := by
  simp only [createInitializeVaultAndGrantSessionInstruction, bind_eq_ok, pure_eq_ok, u16Le_eq_ok,
    u64Le_eq_ok,
    i64Le_eq_ok, encodeVector_eq_ok] at h
  obtain ⟨_, ⟨actions, hactions, rfl⟩, _, ⟨action, haction, rfl⟩, _,
    ⟨cumulative, hcumulative, rfl⟩, _,
    ⟨after, hafter, rfl⟩, _, ⟨until_, huntil, rfl⟩, _, ⟨expiresAt, hexpires, rfl⟩, _,
    ⟨hauthenticator, rfl⟩, _,
    ⟨hclient, rfl⟩, rfl⟩ := h
  let policy : SessionPolicy := ⟨input.sessionPublicKey, actions, action, cumulative, after, until_⟩
  let proof : RootProof := ⟨expiresAt, input.authenticatorData, input.clientDataJson⟩
  refine ⟨_, ⟨{ policy, proof with
      rootPublicKey := ⟨input.rootPublicKey, hkey⟩, rootKeyHash := ⟨input.rootKeyHash, hhash⟩
      userSalt := ⟨input.userSalt, hsalt⟩ }, rfl, rfl, rfl, rfl,
    ⟨rfl, hactions, haction, hcumulative, hafter, huntil⟩, hexpires, rfl, rfl⟩, ?_⟩
  refine encodes_of_fields (by rfl) ?_
  exact (reads_fixed ⟨input.rootPublicKey, hkey⟩).bind
    ((reads_fixed ⟨input.rootKeyHash, hhash⟩).bind
    ((reads_fixed ⟨input.userSalt, hsalt⟩).bind
      (reads_policy policy (reads_proof hauthenticator hclient))))

theorem decodes_sessionTransfer {input : SessionTransferInstructionInput}
    (h : createSessionTransferInstruction rt input = .ok ix) :
    ∃ c, InstructionInput.Denotes (.sessionTransfer input) c ∧ c.EncodedBy rt ix := by
  simp only [createSessionTransferInstruction, bind_eq_ok, pure_eq_ok, u64Le_eq_ok] at h
  obtain ⟨_, ⟨amount, hamount, rfl⟩, _, ⟨nonce, hnonce, rfl⟩, rfl⟩ := h
  refine ⟨_, ⟨⟨amount, nonce⟩, rfl, hamount, hnonce⟩, ?_⟩
  refine encodes_of_fields (by rfl) ?_
  exact (reads_u64 amount).bind ((reads_u64 nonce).bind (Reads.pure _))

theorem decodes_initializeClaimAuthority {input : InitializeClaimAuthorityInstructionInput}
    (h : createInitializeClaimAuthorityInstruction rt input = .ok ix) :
    ∃ c, InstructionInput.Denotes (.initializeClaimAuthority input) c ∧ c.EncodedBy rt ix := by
  obtain rfl := Except.ok.inj h
  refine ⟨_, rfl, encodes_of_fields (by rfl) ?_⟩
  exact (reads_fixed input.authority).bind (Reads.pure _)

theorem decodes_paymentLinkWithSession {input : CreatePaymentLinkWithSessionInstructionInput}
    (h : createPaymentLinkWithSessionInstruction rt input = .ok ix) :
    ∃ c, InstructionInput.Denotes (.paymentLinkWithSession input) c ∧ c.EncodedBy rt ix := by
  simp only [createPaymentLinkWithSessionInstruction, bind_eq_ok, require_eq_ok, exists_unit,
    pure_eq_ok, u64Le_eq_ok,
    i64Le_eq_ok, not_or, not_not] at h
  obtain ⟨⟨hid, hcommitment⟩, _, ⟨amount, hamount, rfl⟩, _, ⟨expiresAt, hexpires, rfl⟩, _,
    ⟨nonce, hnonce, rfl⟩, rfl⟩ := h
  refine ⟨_, ⟨⟨⟨input.linkId, hid⟩, ⟨input.recipientCommitment, hcommitment⟩, amount, expiresAt,
    nonce⟩, rfl, rfl, rfl,
    hamount, hexpires, hnonce⟩, ?_⟩
  refine encodes_of_fields (by rfl) ?_
  exact (reads_fixed ⟨input.linkId, hid⟩).bind
    ((reads_fixed ⟨input.recipientCommitment, hcommitment⟩).bind
    ((reads_u64 amount).bind ((reads_i64 expiresAt).bind ((reads_u64 nonce).bind (Reads.pure _)))))

theorem decodes_cancelPaymentLinkWithSession {input : CancelPaymentLinkWithSessionInstructionInput}
    (h : createCancelPaymentLinkWithSessionInstruction rt input = .ok ix) :
    ∃ c, InstructionInput.Denotes (.cancelPaymentLinkWithSession input) c ∧ c.EncodedBy rt ix := by
  simp only [createCancelPaymentLinkWithSessionInstruction, bind_eq_ok, pure_eq_ok,
    u64Le_eq_ok] at h
  obtain ⟨_, ⟨nonce, hnonce, rfl⟩, rfl⟩ := h
  refine ⟨_, ⟨⟨nonce⟩, rfl, hnonce⟩, encodes_of_fields (by rfl) ?_⟩
  exact (reads_u64 nonce).bind (Reads.pure _)

theorem decodes_solPasskeyTransfer {input : SolPasskeyTransferInstructionInput}
    (h : createSolPasskeyTransferInstruction rt input = .ok ix) :
    ∃ c, InstructionInput.Denotes (.solPasskeyTransfer input) c ∧ c.EncodedBy rt ix := by
  simp only [createSolPasskeyTransferInstruction, bind_eq_ok, pure_eq_ok, u64Le_eq_ok, i64Le_eq_ok,
    encodeVector_eq_ok] at h
  obtain ⟨_, ⟨amount, hamount, rfl⟩, _, ⟨nonce, hnonce, rfl⟩, _, ⟨expiresAt, hexpires, rfl⟩, _,
    ⟨hauthenticator, rfl⟩,
    _, ⟨hclient, rfl⟩, rfl⟩ := h
  refine ⟨_, ⟨⟨⟨expiresAt, input.authenticatorData, input.clientDataJson⟩, amount, nonce⟩, rfl,
    hamount, hnonce,
    hexpires, rfl, rfl⟩, ?_⟩
  refine encodes_of_fields (by rfl) ?_
  exact (reads_u64 amount).bind ((reads_u64 nonce).bind (reads_proof hauthenticator hclient))

theorem decodes_solPaymentLinkWithPasskey {input : CreateSolPaymentLinkWithPasskeyInstructionInput}
    (h : createSolPaymentLinkWithPasskeyInstruction rt input = .ok ix) :
    ∃ c, InstructionInput.Denotes (.solPaymentLinkWithPasskey input) c ∧ c.EncodedBy rt ix := by
  simp only [createSolPaymentLinkWithPasskeyInstruction, bind_eq_ok, require_eq_ok, exists_unit,
    pure_eq_ok,
    u64Le_eq_ok, i64Le_eq_ok, encodeVector_eq_ok, not_or, not_not] at h
  obtain ⟨⟨hid, hcommitment⟩, _, ⟨amount, hamount, rfl⟩, _, ⟨linkExpiry, hlinkExpiry, rfl⟩, _,
    ⟨nonce, hnonce, rfl⟩, _,
    ⟨expiresAt, hexpires, rfl⟩, _, ⟨hauthenticator, rfl⟩, _, ⟨hclient, rfl⟩, rfl⟩ := h
  let proof : RootProof := ⟨expiresAt, input.authenticatorData, input.clientDataJson⟩
  refine ⟨_, ⟨{ proof with
      linkId := ⟨input.linkId, hid⟩, recipientCommitment := ⟨input.recipientCommitment, hcommitment⟩
      amount := amount, expiresAt := linkExpiry, vaultNonce :=
        nonce }, rfl, rfl, rfl, hamount, hlinkExpiry, hnonce,
    hexpires, rfl, rfl⟩, ?_⟩
  refine encodes_of_fields (by rfl) ?_
  exact (reads_fixed ⟨input.linkId, hid⟩).bind
    ((reads_fixed ⟨input.recipientCommitment, hcommitment⟩).bind
    ((reads_u64 amount).bind ((reads_i64 linkExpiry).bind ((reads_u64 nonce).bind
      (reads_proof hauthenticator hclient)))))

theorem decodes_cancelSolPaymentLinkWithPasskey
    {input : CancelSolPaymentLinkWithPasskeyInstructionInput}
    (h : createCancelSolPaymentLinkWithPasskeyInstruction rt input = .ok ix) :
    ∃ c, InstructionInput.Denotes (.cancelSolPaymentLinkWithPasskey input) c ∧
      c.EncodedBy rt ix := by
  simp only [createCancelSolPaymentLinkWithPasskeyInstruction, bind_eq_ok, pure_eq_ok, u64Le_eq_ok,
    i64Le_eq_ok,
    encodeVector_eq_ok] at h
  obtain ⟨_, ⟨nonce, hnonce, rfl⟩, _, ⟨expiresAt, hexpires, rfl⟩, _, ⟨hauthenticator, rfl⟩, _,
    ⟨hclient, rfl⟩, rfl⟩ := h
  refine ⟨_, ⟨⟨⟨expiresAt, input.authenticatorData, input.clientDataJson⟩, nonce⟩, rfl, hnonce,
    hexpires, rfl, rfl⟩, ?_⟩
  refine encodes_of_fields (by rfl) ?_
  exact (reads_u64 nonce).bind (reads_proof hauthenticator hclient)

/-- An instruction without arguments is its discriminator. -/
theorem encodes_discriminator {name text : String} {metas : List AccountMeta} {programId : Pubkey}
    (htext : text = "global:" ++ name) :
    Encodes rt name readNoArgs () metas
      { programId, keys := metas, data := (rt.sha256 (utf8 text)).toList.take 8 } := by
  have hdata : (rt.sha256 (utf8 text)).toList.take 8 = instructionDiscriminator rt name ++ [] := by
    rw [htext, List.append_nil]
    rfl
  exact encodes_of_reads hdata (Reads.pure ()) rfl

/-- The arguments of the encoder that are not key material have an encoding. -/
structure ArgumentsFit (input : InitializeVaultAndGrantSessionInstructionInput) : Prop where
  actionBitmap : FitsU16 input.actionBitmap
  perActionLimit : FitsU64 input.perActionLimit
  cumulativeLimit : FitsU64 input.cumulativeLimit
  validAfter : FitsI64 input.validAfterUnix
  validUntil : FitsI64 input.validUntilUnix
  proofExpiresAt : FitsI64 input.proofExpiresAt
  authenticatorData : input.authenticatorData.length < 256 ^ 4
  clientDataJson : input.clientDataJson.length < 256 ^ 4

theorem exists_initializeVaultAndGrantSession
    {input : InitializeVaultAndGrantSessionInstructionInput} :
    (∃ ix, createInitializeVaultAndGrantSessionInstruction rt input = .ok ix) ↔
    ArgumentsFit input := by
  simp only [createInitializeVaultAndGrantSessionInstruction, bind_eq_ok, pure_eq_ok]
  constructor
  · rintro ⟨_, _, hactions, _, haction, _, hcumulative, _, hafter, _, huntil, _, hexpires, _,
      hauthenticator, _,
      hclient, rfl⟩
    exact ⟨exists_u16Le.mp ⟨_, hactions⟩, exists_u64Le.mp ⟨_, haction⟩,
      exists_u64Le.mp ⟨_, hcumulative⟩,
      exists_i64Le.mp ⟨_, hafter⟩, exists_i64Le.mp ⟨_, huntil⟩, exists_i64Le.mp ⟨_, hexpires⟩,
      exists_encodeVector.mp ⟨_, hauthenticator⟩, exists_encodeVector.mp ⟨_, hclient⟩⟩
  · intro h
    obtain ⟨_, hactions⟩ := exists_u16Le.mpr h.actionBitmap
    obtain ⟨_, haction⟩ := exists_u64Le.mpr h.perActionLimit
    obtain ⟨_, hcumulative⟩ := exists_u64Le.mpr h.cumulativeLimit
    obtain ⟨_, hafter⟩ := exists_i64Le.mpr h.validAfter
    obtain ⟨_, huntil⟩ := exists_i64Le.mpr h.validUntil
    obtain ⟨_, hexpires⟩ := exists_i64Le.mpr h.proofExpiresAt
    obtain ⟨_, hauthenticator⟩ := exists_encodeVector.mpr h.authenticatorData
    obtain ⟨_, hclient⟩ := exists_encodeVector.mpr h.clientDataJson
    exact ⟨_, _, hactions, _, haction, _, hcumulative, _, hafter, _, huntil, _, hexpires, _,
      hauthenticator, _, hclient,
      rfl⟩

end Decoding

section Faithful

variable (rt : Runtime)

/-- The encoder throws, or the program reads the call that the input denotes. -/
def EncodesFaithfully (input : InstructionInput) : Prop :=
  ∀ ix, input.create rt = .ok ix → ∃ c, input.Denotes c ∧ c.EncodedBy rt ix

/-- The key material of the one-step wallet creation has its lengths, or another argument has no
encoding. -/
def KeyMaterialFits : InstructionInput → Prop
  | .initializeVaultAndGrantSession input =>
    (input.rootPublicKey.length = 33 ∧ input.rootKeyHash.length = 32 ∧ input.userSalt.length = 32) ∨
    ¬ArgumentsFit input
  | _ => True

/-- Every encoder throws or is read back with the values of its input, the one of the one-step
wallet creation where its key material has the right lengths. -/
theorem encodesFaithfully_iff (input : InstructionInput) :
    EncodesFaithfully rt input ↔ KeyMaterialFits input := by
  cases input with
  | initializeVaultAndGrantSession input =>
    constructor
    · intro h
      by_cases hfits : ArgumentsFit input
      · obtain ⟨ix, hix⟩ := exists_initializeVaultAndGrantSession.mpr hfits
        obtain ⟨-, ⟨args, -, hkey, hhash, hsalt, -⟩, -⟩ := h ix hix
        exact .inl ⟨hkey ▸ args.rootPublicKey.toList_length, hhash ▸ args.rootKeyHash.toList_length,
          hsalt ▸ args.userSalt.toList_length⟩
      · exact .inr hfits
    · rintro (⟨hkey, hhash, hsalt⟩ | hfits) ix hix
      · exact decodes_initializeVaultAndGrantSession hkey hhash hsalt hix
      · exact absurd (exists_initializeVaultAndGrantSession.mp ⟨ix, hix⟩) hfits
  | initializeVault input => exact iff_of_true (fun _ => decodes_initializeVault) trivial
  | passkeyTransfer input => exact iff_of_true (fun _ => decodes_passkeyTransfer) trivial
  | grantSession input => exact iff_of_true (fun _ => decodes_grantSession) trivial
  | sessionTransfer input => exact iff_of_true (fun _ => decodes_sessionTransfer) trivial
  | initializeClaimAuthority input =>
    exact iff_of_true (fun _ => decodes_initializeClaimAuthority) trivial
  | paymentLinkWithSession input =>
    exact iff_of_true (fun _ => decodes_paymentLinkWithSession) trivial
  | cancelPaymentLinkWithSession input =>
    exact iff_of_true (fun _ => decodes_cancelPaymentLinkWithSession) trivial
  | solPasskeyTransfer input => exact iff_of_true (fun _ => decodes_solPasskeyTransfer) trivial
  | solPaymentLinkWithPasskey input =>
    exact iff_of_true (fun _ => decodes_solPaymentLinkWithPasskey) trivial
  | cancelSolPaymentLinkWithPasskey input =>
    exact iff_of_true (fun _ => decodes_cancelSolPaymentLinkWithPasskey) trivial
  | claimPaymentLink input =>
    refine iff_of_true (fun ix hix => ⟨_, rfl, ?_⟩) trivial
    obtain rfl := Except.ok.inj hix
    exact encodes_discriminator (by rfl)
  | refundExpiredPaymentLink input =>
    refine iff_of_true (fun ix hix => ⟨_, rfl, ?_⟩) trivial
    obtain rfl := Except.ok.inj hix
    exact encodes_discriminator (by rfl)
  | claimSolPaymentLink input =>
    refine iff_of_true (fun ix hix => ⟨_, rfl, ?_⟩) trivial
    obtain rfl := Except.ok.inj hix
    exact encodes_discriminator (by rfl)
  | refundExpiredSolPaymentLink input =>
    refine iff_of_true (fun ix hix => ⟨_, rfl, ?_⟩) trivial
    obtain rfl := Except.ok.inj hix
    exact encodes_discriminator (by rfl)

end Faithful

end VeriAgentPay.Client

namespace VeriAgentPay.Devnet
open Client

/-- Key material whose root key has one byte too many and whose salt has one too few. -/
def shiftedKeyMaterial : InitializeVaultAndGrantSessionInstructionInput where
  payer := defaultPubkey
  config := defaultPubkey
  vault := defaultPubkey
  session := defaultPubkey
  stablecoinMint := defaultPubkey
  vaultTokenAccount := defaultPubkey
  rootPublicKey := List.replicate 34 2
  rootKeyHash := List.replicate 32 3
  userSalt := List.replicate 31 4
  sessionPublicKey := defaultPubkey
  actionBitmap := .finite 1
  perActionLimit := 5
  cumulativeLimit := 10
  validAfterUnix := 100
  validUntilUnix := 200
  proofExpiresAt := 150
  authenticatorData := []
  clientDataJson := []
  programId := none

/-- The encoder writes this input, and no arguments have its root key. -/
theorem shifted_fields :
    ¬EncodesFaithfully runtime (.initializeVaultAndGrantSession shiftedKeyMaterial) := by
  intro h
  have hfits : ArgumentsFit shiftedKeyMaterial :=
    ⟨⟨rfl, zero_le_one, by norm_num⟩, by decide, by decide, by decide, by decide, by decide,
      by decide, by decide⟩
  obtain ⟨ix, hix⟩ := exists_initializeVaultAndGrantSession.mpr hfits
  obtain ⟨-, ⟨args, -, hkey, -⟩, -⟩ := h ix hix
  have hlength : 33 = 34 := by
    calc 33 = args.rootPublicKey.toList.length := args.rootPublicKey.toList_length.symm
      _ = 34 := by rw [hkey]; rfl
  omega

end VeriAgentPay.Devnet
