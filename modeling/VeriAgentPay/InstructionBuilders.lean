import VeriAgentPay.ScriptValues

/-!
# The client's instructions and address derivations

The builders of `program.ts` and `p256.ts` that the backend calls. A builder's result is the
program call that its account list and instruction data decode to, so what it throws on is
exactly what has no encoding.
-/

namespace VeriAgentPay.Backend
open FixedWidth CheckedOutcome Client

structure WebAuthnProof where
  compressedPublicKey : Bytes
  authenticatorData : Bytes
  clientDataJson : Bytes
  signatureDer : Bytes

section Signatures

def curveOrder : ℕ := 0xffffffff00000000ffffffffffffffffbce6faada7179e84f3b9cac2fc632551
def halfCurveOrder : ℕ := curveOrder / 2

/-- Where the content of an element starts, and where the element ends. -/
def readDerElement (input : Bytes) (offset : ℕ) (expectedTag : UInt8) : Except Failure (ℕ × ℕ) := do
  require (input[offset]? = some expectedTag) (.error "DER signature has an unexpected tag")
  let firstLength ← orError input[offset + 1]? (.error "DER signature is truncated")
  let (length, contentStart) ←
    if firstLength < 0x80 then pure (firstLength.toNat, offset + 2)
    else if firstLength = 0x81 then do
      let longLength ← orError (input[offset + 2]?.filter (0x80 ≤ ·))
        (.error "DER signature uses a non-canonical length")
      pure (longLength.toNat, offset + 3)
    else .error (.error "DER signature length encoding is unsupported")
  require (contentStart + length ≤ input.length) (.error "DER signature is truncated")
  pure (contentStart, contentStart + length)

def parseDerInteger (value : Bytes) : Except Failure ℕ := do
  require (¬(value.length = 0 ∨ value.length > 33)) (.error "DER integer has an invalid length")
  require (value.getD 0 0 &&& 0x80 = 0) (.error "DER integer must be positive")
  require (¬(value.length > 1 ∧ value[0]? = some 0 ∧ value.getD 1 0 &&& 0x80 = 0))
    (.error "DER integer has redundant leading zeroes")
  pure (TextEncodings.Base58.value value)

def derToCompactLowS (signatureDer : Bytes) : Except Failure Bytes := do
  let (start, sequenceEnd) ← readDerElement signatureDer 0 0x30
  require (sequenceEnd = signatureDer.length) (.error "DER signature contains trailing data")
  let (rStart, rEnd) ← readDerElement signatureDer start 0x02
  let (sStart, sEnd) ← readDerElement signatureDer rEnd 0x02
  require (sEnd = sequenceEnd) (.error "DER signature must contain exactly two integers")
  let r ← parseDerInteger ((signatureDer.take rEnd).drop rStart)
  let s ← parseDerInteger ((signatureDer.take sEnd).drop sStart)
  require (¬(r = 0 ∨ r ≥ curveOrder ∨ s = 0 ∨ s ≥ curveOrder))
    (.error "P-256 signature scalar is outside the curve order")
  let s := if s > halfCurveOrder then curveOrder - s else s
  pure ((leBytes 32 r).reverse ++ (leBytes 32 s).reverse)

def webAuthnSignedMessage (rt : Runtime) (authenticatorData clientDataJson : Bytes) :
    Except Failure Bytes := do
  require (¬authenticatorData.length < 37)
    (.error "Authenticator data must contain RP hash, flags, and sign count")
  pure (concatBytes [authenticatorData, (rt.sha256 clientDataJson).toList])

def createSecp256r1Instruction (rt : Runtime) (proof : WebAuthnProof) :
    Except Failure TransactionInstruction := do
  require (proof.compressedPublicKey.length = 33)
    (.error "P-256 public key must use 33-byte compressed SEC1 encoding")
  require (proof.compressedPublicKey[0]? = some 2 ∨ proof.compressedPublicKey[0]? = some 3)
    (.error "P-256 compressed public key has an invalid prefix")
  let signature ← derToCompactLowS proof.signatureDer
  let message ← webAuthnSignedMessage rt proof.authenticatorData proof.clientDataJson
  let publicKeyOffset := secp256r1DataStart
  let signatureOffset := publicKeyOffset + compressedPublicKeySize
  let messageOffset := signatureOffset + compactSignatureSize
  require (message.length ≤ 0xffff)
    (.error "WebAuthn signed message exceeds the precompile offset range")
  let header :=
    [1, 0] ++ leBytes 2 signatureOffset ++ leBytes 2 0xffff ++ leBytes 2 publicKeyOffset ++
    leBytes 2 0xffff ++ leBytes 2 messageOffset ++ leBytes 2 message.length ++ leBytes 2 0xffff
  pure
    { programId := secp256r1ProgramId, accounts := []
      data := concatBytes [header, proof.compressedPublicKey, signature, message] }

end Signatures

section Arguments

def u64Arg (value : ℤ) : Except Failure UInt64 :=
  orError (toU64 value) (.error "Value is outside the u64 range")
def i64Arg (value : ℤ) : Except Failure Int64 :=
  orError (toI64 value) (.error "Value is outside the i64 range")
def u16Arg (value : JsNumber) : Except Failure UInt16 :=
  orError (toU16 value) (.error "Value is outside the u16 range")

/-- `encodeVector`: the length goes in front as a `u32`. -/
def vectorArg (value : Bytes) : Except Failure Bytes := do
  require (value.length ≤ 0xffffffff) (.error "Value is outside the u32 range")
  pure value

def fixedArg (n : ℕ) (value : Bytes) (message : String) : Except Failure (FixedBytes n) :=
  orError (toFixed n value) (.error message)

structure ProofInput where
  proofExpiresAt : ℤ
  authenticatorData : Bytes
  clientDataJson : Bytes

def rootProofArg (input : ProofInput) : Except Failure RootProof := do
  let proofExpiresAt ← i64Arg input.proofExpiresAt
  let authenticatorData ← vectorArg input.authenticatorData
  let clientDataJson ← vectorArg input.clientDataJson
  pure ⟨proofExpiresAt, authenticatorData, clientDataJson⟩

structure SessionPolicyInput where
  sessionPublicKey : Pubkey
  actionBitmap : JsNumber
  perActionLimit : ℤ
  cumulativeLimit : ℤ
  validAfterUnix : ℤ
  validUntilUnix : ℤ

def sessionPolicyArg (input : SessionPolicyInput) : Except Failure SessionPolicy := do
  let actionBitmap ← u16Arg input.actionBitmap
  let perActionLimit ← u64Arg input.perActionLimit
  let cumulativeLimit ← u64Arg input.cumulativeLimit
  let validAfter ← i64Arg input.validAfterUnix
  let validUntil ← i64Arg input.validUntilUnix
  pure ⟨input.sessionPublicKey, actionBitmap, perActionLimit, cumulativeLimit, validAfter,
    validUntil⟩

end Arguments

section Builders

def createPasskeyTransferInstruction (accounts : TransferWithPasskey) (amount vaultNonce : ℤ)
    (proof : ProofInput) : Except Failure Call := do
  let amount ← u64Arg amount
  let vaultNonce ← u64Arg vaultNonce
  let proof ← rootProofArg proof
  pure (.transferWithPasskey accounts { proof with amount := amount, vaultNonce := vaultNonce })

def createGrantSessionInstruction (accounts : GrantSession) (policy : SessionPolicyInput)
    (vaultNonce : ℤ) (proof : ProofInput) : Except Failure Call := do
  let policy ← sessionPolicyArg policy
  let vaultNonce ← u64Arg vaultNonce
  let proof ← rootProofArg proof
  pure (.grantSession accounts { policy, proof with vaultNonce := vaultNonce })

/-- The key material has no length check of its own; other lengths are data that the program
cannot decode to these arguments. -/
def createInitializeVaultAndGrantSessionInstruction (accounts : InitializeVaultAndGrantSession)
    (policy : SessionPolicyInput) (rootPublicKey rootKeyHash userSalt : Bytes)
    (proof : ProofInput) :
    Except Failure Call := do
  let rootPublicKey ← fixedArg 33 rootPublicKey "Instruction data does not decode"
  let rootKeyHash ← fixedArg 32 rootKeyHash "Instruction data does not decode"
  let userSalt ← fixedArg 32 userSalt "Instruction data does not decode"
  let policy ← sessionPolicyArg policy
  let proof ← rootProofArg proof
  pure (.initializeVaultAndGrantSession accounts
    { policy, proof with
      rootPublicKey := rootPublicKey, rootKeyHash := rootKeyHash, userSalt := userSalt })

def createSolPasskeyTransferInstruction (accounts : TransferSolWithPasskey)
    (amountLamports vaultNonce : ℤ) (proof : ProofInput) : Except Failure Call := do
  let amount ← u64Arg amountLamports
  let vaultNonce ← u64Arg vaultNonce
  let proof ← rootProofArg proof
  pure (.transferSolWithPasskey accounts { proof with amount := amount, vaultNonce := vaultNonce })

def createSolPaymentLinkWithPasskeyInstruction (accounts : CreateSolPaymentLinkWithPasskey)
    (linkId recipientCommitment : Bytes) (amountLamports linkExpiresAtUnix vaultNonce : ℤ)
    (proof : ProofInput) :
    Except Failure Call := do
  let message := "Payment-link ID and recipient commitment must each contain 32 bytes"
  let linkId ← fixedArg 32 linkId message
  let recipientCommitment ← fixedArg 32 recipientCommitment message
  let amount ← u64Arg amountLamports
  let expiresAt ← i64Arg linkExpiresAtUnix
  let vaultNonce ← u64Arg vaultNonce
  let proof ← rootProofArg proof
  pure (.createSolPaymentLinkWithPasskey accounts
    { proof with
      linkId := linkId, recipientCommitment := recipientCommitment, amount :=
        amount, expiresAt := expiresAt
      vaultNonce := vaultNonce })

def createCancelSolPaymentLinkWithPasskeyInstruction (accounts : CancelSolPaymentLinkWithPasskey)
    (vaultNonce : ℤ) (proof : ProofInput) : Except Failure Call := do
  let vaultNonce ← u64Arg vaultNonce
  let proof ← rootProofArg proof
  pure (.cancelSolPaymentLinkWithPasskey accounts { proof with vaultNonce := vaultNonce })

def createPaymentLinkWithSessionInstruction (accounts : CreatePaymentLinkWithSession)
    (linkId recipientCommitment : Bytes) (amount expiresAtUnix sessionNonce : ℤ) :
    Except Failure Call := do
  let message := "Payment-link ID and recipient commitment must each contain 32 bytes"
  let linkId ← fixedArg 32 linkId message
  let recipientCommitment ← fixedArg 32 recipientCommitment message
  let amount ← u64Arg amount
  let expiresAt ← i64Arg expiresAtUnix
  let sessionNonce ← u64Arg sessionNonce
  pure (.createPaymentLinkWithSession accounts
    { linkId := linkId, recipientCommitment := recipientCommitment, amount := amount
      expiresAt := expiresAt
      sessionNonce := sessionNonce })

def createCancelPaymentLinkWithSessionInstruction (accounts : CancelPaymentLinkWithSession)
    (sessionNonce : ℤ) :
    Except Failure Call := do
  let sessionNonce ← u64Arg sessionNonce
  pure (.cancelPaymentLinkWithSession accounts { sessionNonce := sessionNonce })

def createClaimPaymentLinkInstruction (accounts : ClaimPaymentLink) : Call :=
  .claimPaymentLink accounts

def createRefundExpiredPaymentLinkInstruction (accounts : RefundExpiredPaymentLink) : Call :=
  .refundExpiredPaymentLink accounts

def createClaimSolPaymentLinkInstruction (accounts : ClaimSolPaymentLink) : Call :=
  .claimSolPaymentLink accounts

def createRefundExpiredSolPaymentLinkInstruction (accounts : RefundExpiredSolPaymentLink) : Call :=
  .refundExpiredSolPaymentLink accounts

end Builders

section Addresses

variable (rt : Runtime)

/-- `PublicKey.findProgramAddressSync` under this program. -/
def findProgramAddressSync (seeds : List Bytes) : Except Failure Pubkey :=
  orError ((findProgramAddress rt rt.programId seeds).map Prod.fst)
    (.error "Unable to find a viable program address nonce")

def deriveSession (vault sessionPublicKey : Pubkey) : Except Failure Pubkey :=
  findProgramAddressSync rt (sessionSeeds vault sessionPublicKey)

def derivePaymentLink (senderVault : Pubkey) (linkId : Bytes) : Except Failure Pubkey := do
  let linkId ← fixedArg 32 linkId "Payment-link ID must contain 32 bytes"
  findProgramAddressSync rt (paymentLinkSeeds senderVault linkId)

/-- `getAssociatedTokenAddressSync`, with owners off the curve allowed. -/
def getAssociatedTokenAddressSync (mint owner : Pubkey) : Except Failure Pubkey :=
  orError (associatedTokenAddress rt owner mint)
    (.error "Unable to find a viable program address nonce")

def derivePaymentLinkTokenAccount (paymentLink mint : Pubkey) : Except Failure Pubkey :=
  getAssociatedTokenAddressSync rt mint paymentLink

end Addresses

end VeriAgentPay.Backend
