import VeriAgentPay.BorshReaders
import VeriAgentPay.ClientBytes
import VeriAgentPay.ProgramSteps

/-!
# What the program reads of an instruction

For each instruction the account list that its account struct declares, with the accounts whose
address is a constant, and the reader of its argument struct, field by field in the order of
the source.
-/

namespace VeriAgentPay
open FixedWidth Borsh

structure AccountMeta where
  pubkey : Pubkey
  isSigner : Bool
  isWritable : Bool
  deriving DecidableEq

/-- An instruction as a transaction carries it. -/
structure Instruction where
  programId : Pubkey
  keys : List AccountMeta
  data : Bytes
  deriving DecidableEq

/-- `instructions::ID`. -/
def instructionsSysvarId : Pubkey :=
  ⟨[6, 167, 213, 23, 24, 123, 209, 102, 53, 218, 212, 4, 85, 253, 194, 192, 193, 36, 198, 143, 33,
    86, 117, 165,
    219, 186, 203, 95, 8, 0, 0, 0], rfl⟩

section Accounts

/-- `Signer`, under `#[account(mut)]`. -/
def mutSigner (key : Pubkey) : AccountMeta := ⟨key, true, true⟩

/-- `Signer`. -/
def signer (key : Pubkey) : AccountMeta := ⟨key, true, false⟩

/-- An account under `mut`, `init` or `init_if_needed`. -/
def mutAccount (key : Pubkey) : AccountMeta := ⟨key, false, true⟩

/-- An account that is read, or whose address is checked. -/
def account (key : Pubkey) : AccountMeta := ⟨key, false, false⟩

def instructionsSysvar : AccountMeta := account instructionsSysvarId
def tokenProgram : AccountMeta := account tokenProgramId
def associatedTokenProgram : AccountMeta := account associatedTokenProgramId
def systemProgram : AccountMeta := account defaultPubkey

def InitializeProtocol.metas (a : InitializeProtocol) : List AccountMeta :=
  [mutSigner a.authority, mutAccount a.config, account a.stablecoinMint, systemProgram]

def InitializeVault.metas (a : InitializeVault) : List AccountMeta :=
  [mutSigner a.payer, account a.config, mutAccount a.vault, account a.stablecoinMint,
    mutAccount a.vaultTokenAccount,
    instructionsSysvar, tokenProgram, associatedTokenProgram, systemProgram]

def GrantSession.metas (a : GrantSession) : List AccountMeta :=
  [mutSigner a.payer, account a.config, mutAccount a.vault, mutAccount a.session,
    instructionsSysvar, systemProgram]

def InitializeVaultAndGrantSession.metas (a : InitializeVaultAndGrantSession) : List AccountMeta :=
  [mutSigner a.payer, account a.config, mutAccount a.vault, mutAccount a.session,
    account a.stablecoinMint,
    mutAccount a.vaultTokenAccount, instructionsSysvar, tokenProgram, associatedTokenProgram,
    systemProgram]

def TransferWithPasskey.metas (a : TransferWithPasskey) : List AccountMeta :=
  [mutSigner a.payer, account a.config, mutAccount a.vault, account a.stablecoinMint,
    mutAccount a.vaultTokenAccount,
    mutAccount a.destinationTokenAccount, instructionsSysvar, tokenProgram]

def TransferWithSession.metas (a : TransferWithSession) : List AccountMeta :=
  [account a.config, account a.vault, mutAccount a.session, signer a.sessionSigner,
    account a.stablecoinMint,
    mutAccount a.vaultTokenAccount, mutAccount a.destinationTokenAccount, tokenProgram]

def TransferSolWithPasskey.metas (a : TransferSolWithPasskey) : List AccountMeta :=
  [mutSigner a.payer, account a.config, mutAccount a.vault, mutAccount a.recipient,
    instructionsSysvar]

def InitializeClaimAuthority.metas (a : InitializeClaimAuthority) : List AccountMeta :=
  [mutSigner a.protocolAuthority, account a.config, mutAccount a.claimAuthorityConfig,
    systemProgram]

def CreatePaymentLinkWithSession.metas (a : CreatePaymentLinkWithSession) : List AccountMeta :=
  [mutSigner a.payer, account a.config, account a.vault, mutAccount a.session,
    signer a.sessionSigner,
    account a.stablecoinMint, mutAccount a.vaultTokenAccount, mutAccount a.paymentLink,
    mutAccount a.escrowTokenAccount,
    tokenProgram, associatedTokenProgram, systemProgram]

def ClaimPaymentLink.metas (a : ClaimPaymentLink) : List AccountMeta :=
  [mutSigner a.claimAuthority, account a.config, account a.claimAuthorityConfig,
    account a.recipientVault,
    mutAccount a.paymentLink, account a.stablecoinMint, mutAccount a.escrowTokenAccount,
    mutAccount a.destinationTokenAccount, tokenProgram, associatedTokenProgram, systemProgram]

def CancelPaymentLinkWithSession.metas (a : CancelPaymentLinkWithSession) : List AccountMeta :=
  [account a.config, account a.vault, mutAccount a.session, signer a.sessionSigner,
    mutAccount a.paymentLink,
    account a.stablecoinMint, mutAccount a.escrowTokenAccount, mutAccount a.vaultTokenAccount,
    tokenProgram]

def RefundExpiredPaymentLink.metas (a : RefundExpiredPaymentLink) : List AccountMeta :=
  [account a.config, account a.senderVault, mutAccount a.paymentLink, account a.stablecoinMint,
    mutAccount a.escrowTokenAccount, mutAccount a.vaultTokenAccount, tokenProgram]

def CreateSolPaymentLinkWithPasskey.metas (a : CreateSolPaymentLinkWithPasskey) :
    List AccountMeta :=
  [mutSigner a.payer, account a.config, mutAccount a.vault, mutAccount a.paymentLink,
    instructionsSysvar, systemProgram]

def ClaimSolPaymentLink.metas (a : ClaimSolPaymentLink) : List AccountMeta :=
  [mutSigner a.claimAuthority, account a.config, account a.claimAuthorityConfig,
    mutAccount a.recipientVault,
    mutAccount a.paymentLink]

def CancelSolPaymentLinkWithPasskey.metas (a : CancelSolPaymentLinkWithPasskey) :
    List AccountMeta :=
  [mutSigner a.payer, account a.config, mutAccount a.vault, mutAccount a.paymentLink,
    instructionsSysvar]

def RefundExpiredSolPaymentLink.metas (a : RefundExpiredSolPaymentLink) : List AccountMeta :=
  [account a.config, mutAccount a.senderVault, mutAccount a.paymentLink]

end Accounts

section Arguments

def readInitializeProtocolArgs : Reader InitializeProtocolArgs := do
  let rpIdHash ← fixed 32
  let originHash ← fixed 32
  let clusterDomain ← fixed 32
  pure { rpIdHash, originHash, clusterDomain }

def readInitializeVaultArgs : Reader InitializeVaultArgs := do
  let rootPublicKey ← fixed 33
  let rootKeyHash ← fixed 32
  let userSalt ← fixed 32
  let proofExpiresAt ← i64
  let authenticatorData ← vector
  let clientDataJson ← vector
  pure { rootPublicKey, rootKeyHash, userSalt, proofExpiresAt, authenticatorData, clientDataJson }

def readGrantSessionArgs : Reader GrantSessionArgs := do
  let sessionPublicKey ← fixed 32
  let actionBitmap ← u16
  let perActionLimit ← u64
  let cumulativeLimit ← u64
  let validAfter ← i64
  let validUntil ← i64
  let vaultNonce ← u64
  let proofExpiresAt ← i64
  let authenticatorData ← vector
  let clientDataJson ← vector
  pure
    { sessionPublicKey, actionBitmap, perActionLimit, cumulativeLimit, validAfter, validUntil,
      vaultNonce,
      proofExpiresAt, authenticatorData, clientDataJson }

def readInitializeVaultAndGrantSessionArgs : Reader InitializeVaultAndGrantSessionArgs := do
  let rootPublicKey ← fixed 33
  let rootKeyHash ← fixed 32
  let userSalt ← fixed 32
  let sessionPublicKey ← fixed 32
  let actionBitmap ← u16
  let perActionLimit ← u64
  let cumulativeLimit ← u64
  let validAfter ← i64
  let validUntil ← i64
  let proofExpiresAt ← i64
  let authenticatorData ← vector
  let clientDataJson ← vector
  pure
    { rootPublicKey, rootKeyHash, userSalt, sessionPublicKey, actionBitmap, perActionLimit,
      cumulativeLimit,
      validAfter, validUntil, proofExpiresAt, authenticatorData, clientDataJson }

def readPasskeyTransferArgs : Reader PasskeyTransferArgs := do
  let amount ← u64
  let vaultNonce ← u64
  let proofExpiresAt ← i64
  let authenticatorData ← vector
  let clientDataJson ← vector
  pure { amount, vaultNonce, proofExpiresAt, authenticatorData, clientDataJson }

def readSessionTransferArgs : Reader SessionTransferArgs := do
  let amount ← u64
  let sessionNonce ← u64
  pure { amount, sessionNonce }

def readSolPasskeyTransferArgs : Reader SolPasskeyTransferArgs := do
  let amount ← u64
  let vaultNonce ← u64
  let proofExpiresAt ← i64
  let authenticatorData ← vector
  let clientDataJson ← vector
  pure { amount, vaultNonce, proofExpiresAt, authenticatorData, clientDataJson }

def readInitializeClaimAuthorityArgs : Reader InitializeClaimAuthorityArgs := do
  let authority ← fixed 32
  pure { authority }

def readCreatePaymentLinkWithSessionArgs : Reader CreatePaymentLinkWithSessionArgs := do
  let linkId ← fixed 32
  let recipientCommitment ← fixed 32
  let amount ← u64
  let expiresAt ← i64
  let sessionNonce ← u64
  pure { linkId, recipientCommitment, amount, expiresAt, sessionNonce }

def readCancelPaymentLinkWithSessionArgs : Reader CancelPaymentLinkWithSessionArgs := do
  let sessionNonce ← u64
  pure { sessionNonce }

def readCreateSolPaymentLinkWithPasskeyArgs : Reader CreateSolPaymentLinkWithPasskeyArgs := do
  let linkId ← fixed 32
  let recipientCommitment ← fixed 32
  let amount ← u64
  let expiresAt ← i64
  let vaultNonce ← u64
  let proofExpiresAt ← i64
  let authenticatorData ← vector
  let clientDataJson ← vector
  pure
    { linkId, recipientCommitment, amount, expiresAt, vaultNonce, proofExpiresAt, authenticatorData
      clientDataJson }

def readCancelSolPaymentLinkWithPasskeyArgs : Reader CancelSolPaymentLinkWithPasskeyArgs := do
  let vaultNonce ← u64
  let proofExpiresAt ← i64
  let authenticatorData ← vector
  let clientDataJson ← vector
  pure { vaultNonce, proofExpiresAt, authenticatorData, clientDataJson }

/-- An instruction without an argument struct. -/
def readNoArgs : Reader Unit := pure ()

end Arguments

section Encodings

variable (rt : Runtime) {α : Type}

/-- The first eight bytes of the hash of the instruction's name in `lib.rs`. -/
def instructionDiscriminator (name : String) : Bytes :=
  (rt.sha256 (Client.utf8 ("global:" ++ name))).toList.take 8

/-- The data are the discriminator and exactly the arguments, the accounts those declared. -/
def Encodes (name : String) (reader : Reader α) (args : α) (metas : List AccountMeta)
    (ix : Instruction) : Prop :=
  ix.data.take 8 = instructionDiscriminator rt name ∧ reader (ix.data.drop 8) = some (args, []) ∧
  ix.keys = metas

theorem length_instructionDiscriminator (name : String) :
    (instructionDiscriminator rt name).length = 8 := by
  simp [instructionDiscriminator]

variable {rt} in
theorem encodes_of_reads {name : String} {reader : Reader α} {args : α} {metas : List AccountMeta}
    {payload : Bytes} {ix : Instruction}
    (hdata : ix.data = instructionDiscriminator rt name ++ payload)
    (hreads : Reads reader payload args) (hkeys : ix.keys = metas) :
    Encodes rt name reader args metas ix := by
  have hlength := length_instructionDiscriminator rt name
  refine ⟨?_, ?_, hkeys⟩
  · rw [hdata, List.take_left' hlength]
  · rw [hdata, List.drop_left' hlength]
    exact hreads.whole

/-- What the program takes an instruction for. -/
def Call.EncodedBy (c : Call) (ix : Instruction) : Prop :=
  match c with
  | .initializeProtocol a args =>
    Encodes rt "initialize_protocol" readInitializeProtocolArgs args a.metas ix
  | .initializeVault a args => Encodes rt "initialize_vault" readInitializeVaultArgs args a.metas ix
  | .grantSession a args => Encodes rt "grant_session" readGrantSessionArgs args a.metas ix
  | .initializeVaultAndGrantSession a args =>
    Encodes rt "initialize_vault_and_grant_session" readInitializeVaultAndGrantSessionArgs args
      a.metas ix
  | .transferWithPasskey a args =>
    Encodes rt "transfer_with_passkey" readPasskeyTransferArgs args a.metas ix
  | .transferWithSession a args =>
    Encodes rt "transfer_with_session" readSessionTransferArgs args a.metas ix
  | .initializeClaimAuthority a args =>
    Encodes rt "initialize_claim_authority" readInitializeClaimAuthorityArgs args a.metas ix
  | .createPaymentLinkWithSession a args =>
    Encodes rt "create_payment_link_with_session" readCreatePaymentLinkWithSessionArgs args
      a.metas ix
  | .claimPaymentLink a => Encodes rt "claim_payment_link" readNoArgs () a.metas ix
  | .cancelPaymentLinkWithSession a args =>
    Encodes rt "cancel_payment_link_with_session" readCancelPaymentLinkWithSessionArgs args
      a.metas ix
  | .refundExpiredPaymentLink a => Encodes rt "refund_expired_payment_link" readNoArgs () a.metas ix
  | .transferSolWithPasskey a args =>
    Encodes rt "transfer_sol_with_passkey" readSolPasskeyTransferArgs args a.metas ix
  | .createSolPaymentLinkWithPasskey a args =>
    Encodes rt "create_sol_payment_link_with_passkey" readCreateSolPaymentLinkWithPasskeyArgs args
      a.metas ix
  | .claimSolPaymentLink a => Encodes rt "claim_sol_payment_link" readNoArgs () a.metas ix
  | .cancelSolPaymentLinkWithPasskey a args =>
    Encodes rt "cancel_sol_payment_link_with_passkey" readCancelSolPaymentLinkWithPasskeyArgs args
      a.metas ix
  | .refundExpiredSolPaymentLink a =>
    Encodes rt "refund_expired_sol_payment_link" readNoArgs () a.metas ix

end Encodings

end VeriAgentPay
