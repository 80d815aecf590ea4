import VeriAgentPay.RuntimeServices

/-!
# Verification of a root proof

A proof is accepted when its client data names the expected challenge and the instruction
before the current top-level one is a canonical secp256r1 verification of the vault's root
key over the signed message. The runtime rejects the whole transaction when that
verification fails, so the checks here decide what the verified signature was about.
-/

namespace VeriAgentPay
open FixedWidth CheckedOutcome

def secp256r1ProgramId : Pubkey :=
  ⟨[6, 146, 13, 236, 47, 234, 113, 181, 183, 35, 129, 77, 116, 45, 169, 3, 28, 131, 231, 95, 219,
    121, 93, 86, 142, 117, 71, 128, 32, 0, 0, 0], rfl⟩

def secp256r1DataStart : ℕ := 16
def compressedPublicKeySize : ℕ := 33
def compactSignatureSize : ℕ := 64
def authenticatorDataMinSize : ℕ := 37
def userPresentFlag : UInt8 := 1
def userVerifiedFlag : UInt8 := 4

structure RootAuthorization where
  rootPublicKey : FixedBytes 33
  authenticatorData : Bytes
  clientDataJson : Bytes
  expectedChallenge : FixedBytes 32
  expiresAt : Int64

/-- The bytes a challenge hashes. -/
def challengePreimage (parts : List Bytes) : Bytes := (challengeDomain :: parts).flatten

def challenge (rt : Runtime) (parts : List Bytes) : FixedBytes 32 :=
  rt.sha256 (challengePreimage parts)

def validateAuthorizationExpiry (now expiresAt : Int64) : Outcome Unit :=
  require (expiresAt ≥ now ∧ expiresAt ≤ saturatingAdd now maxAuthorizationTtlSeconds)
    (.custom .invalidAuthorizationExpiry)

def validateWebauthnData (rt : Runtime) (config : ProtocolConfig)
    (authenticatorData clientDataJson : Bytes) (expectedChallenge : FixedBytes 32) : Outcome Unit :=
  do
  require (authenticatorDataMinSize ≤ authenticatorData.length) (.custom .invalidAuthenticatorData)
  require (authenticatorData.take 32 = config.rpIdHash.toList) (.custom .invalidRpIdHash)
  let flags := authenticatorData.getD 32 0
  require (flags &&& (userPresentFlag ||| userVerifiedFlag) = userPresentFlag ||| userVerifiedFlag)
    (.custom .userVerificationRequired)
  let clientData ← orError (rt.parseClientData clientDataJson) (.custom .invalidClientData)
  require (clientData.ceremonyType = "webauthn.get") (.custom .invalidWebAuthnType)
  require (clientData.crossOrigin ≠ some true) (.custom .crossOriginAssertion)
  require (rt.sha256 clientData.origin.toUTF8.toList = config.originHash)
    (.custom .invalidWebAuthnOrigin)
  let decodedChallenge ← orError (rt.decodeBase64Url clientData.challenge)
    (.custom .invalidWebAuthnChallenge)
  require (decodedChallenge = expectedChallenge.toList) (.custom .invalidWebAuthnChallenge)

def readU16 (data : Bytes) (offset : ℕ) : Outcome ℕ :=
  match data[offset]?, data[offset + 1]? with
  | some low, some high => .ok (low.toNat + 256 * high.toNat)
  | _, _ => .error (.custom .invalidSecp256r1Instruction)

def validateSecp256r1Instruction (instruction : TransactionInstruction)
    (expectedPublicKey : FixedBytes 33) (expectedMessage : Bytes) : Outcome Unit := do
  require (instruction.programId = secp256r1ProgramId) (.custom .missingSecp256r1Instruction)
  require (instruction.accounts = []) (.custom .invalidSecp256r1Instruction)
  let data := instruction.data
  require (secp256r1DataStart ≤ data.length ∧ data[0]? = some 1)
    (.custom .invalidSecp256r1Instruction)
  let signatureOffset ← readU16 data 2
  let signatureInstructionIndex ← readU16 data 4
  let publicKeyOffset ← readU16 data 6
  let publicKeyInstructionIndex ← readU16 data 8
  let messageOffset ← readU16 data 10
  let messageSize ← readU16 data 12
  let messageInstructionIndex ← readU16 data 14
  let expectedPublicKeyOffset := secp256r1DataStart
  let expectedSignatureOffset := expectedPublicKeyOffset + compressedPublicKeySize
  let expectedMessageOffset := expectedSignatureOffset + compactSignatureSize
  require (publicKeyOffset = expectedPublicKeyOffset ∧ signatureOffset = expectedSignatureOffset ∧
      messageOffset = expectedMessageOffset ∧ messageSize = expectedMessage.length ∧
      signatureInstructionIndex = 65535 ∧ publicKeyInstructionIndex = 65535 ∧
      messageInstructionIndex = 65535 ∧
      data.length = expectedMessageOffset + expectedMessage.length)
    (.custom .invalidSecp256r1Instruction)
  let publicKey := (data.drop expectedPublicKeyOffset).take compressedPublicKeySize
  require (publicKey = expectedPublicKey.toList) (.custom .invalidSecp256r1PublicKey)
  let message := data.drop expectedMessageOffset
  require (message = expectedMessage) (.custom .invalidSecp256r1Message)

def verifyRootAuthorization (rt : Runtime) (config : ProtocolConfig) (ctx : Context) (now : Int64)
    (authorization : RootAuthorization) : Outcome Unit := do
  validateAuthorizationExpiry now authorization.expiresAt
  validateWebauthnData rt config authorization.authenticatorData authorization.clientDataJson
    authorization.expectedChallenge
  let signedMessage :=
    authorization.authenticatorData ++ (rt.sha256 authorization.clientDataJson).toList
  require (0 < ctx.currentIndex) (.custom .missingSecp256r1Instruction)
  let verificationInstruction ← orError ctx.instructions[ctx.currentIndex - 1]?
    (.system .unsupportedSysvar)
  validateSecp256r1Instruction verificationInstruction authorization.rootPublicKey signedMessage

variable {rt : Runtime} {config : ProtocolConfig} {ctx : Context} {now : Int64}
  {a : RootAuthorization}

/-- An accepted proof names the expected challenge in its client data. -/
theorem challenge_of_verifyRootAuthorization {u : Unit}
    (h : verifyRootAuthorization rt config ctx now a = .ok u) :
    ∃ clientData, rt.parseClientData a.clientDataJson = some clientData ∧
      rt.decodeBase64Url clientData.challenge = some a.expectedChallenge.toList := by
  simp only [verifyRootAuthorization, validateWebauthnData, bind_eq_ok, require_eq_ok,
    orError_eq_ok] at h
  obtain ⟨-, -, -,
    ⟨-, -, -, -, -, -, clientData, hclient, -, -, -, -, -, -, decoded, hdecoded, rfl⟩, -⟩ := h
  exact ⟨clientData, hclient, hdecoded⟩

/-- One client-data document carries one challenge. -/
theorem expectedChallenge_unique {config' : ProtocolConfig} {ctx' : Context} {now' : Int64}
    {a' : RootAuthorization} {u u' : Unit} (h : verifyRootAuthorization rt config ctx now a = .ok u)
    (h' : verifyRootAuthorization rt config' ctx' now' a' = .ok u')
    (hdata : a.clientDataJson = a'.clientDataJson) :
    a.expectedChallenge = a'.expectedChallenge := by
  obtain ⟨clientData, hparse, hdecode⟩ := challenge_of_verifyRootAuthorization h
  obtain ⟨clientData', hparse', hdecode'⟩ := challenge_of_verifyRootAuthorization h'
  rw [hdata, hparse'] at hparse
  obtain rfl := Option.some.inj hparse
  rw [hdecode'] at hdecode
  exact (List.Vector.eq _ _ (Option.some.inj hdecode)).symm

theorem readU16_avoids {bad : ProgramError → Prop} (h : ¬bad (.custom .invalidSecp256r1Instruction))
    (data : Bytes) (offset : ℕ) : Avoids bad (readU16 data offset) := by
  unfold readU16
  split
  · exact Avoids.ok _
  · intro e he
    obtain rfl := Except.error.inj he
    exact h

theorem validateSecp256r1Instruction_avoids (instruction : TransactionInstruction)
    (key : FixedBytes 33) (message : Bytes) : Avoids (· = .custom .invalidWebAuthnChallenge)
      (validateSecp256r1Instruction instruction key message) := by
  have hread :
      ∀ data offset, Avoids (· = .custom .invalidWebAuthnChallenge) (readU16 data offset) :=
    readU16_avoids (by simp)
  refine Avoids.bind (Avoids.require (by simp)) fun _ _ => ?_
  refine Avoids.bind (Avoids.require (by simp)) fun _ _ => ?_
  refine Avoids.bind (Avoids.require (by simp)) fun _ _ => ?_
  iterate 7 refine Avoids.bind (hread _ _) fun _ _ => ?_
  refine Avoids.bind (Avoids.require (by simp)) fun _ _ => ?_
  refine Avoids.bind (Avoids.require (by simp)) fun _ _ => ?_
  exact Avoids.require (by simp)

/-- A proof whose client data name the expected challenge is not rejected for its challenge. -/
theorem verifyRootAuthorization_ne_challenge {clientData : CollectedClientData}
    (hclient : rt.parseClientData a.clientDataJson = some clientData)
    (hdecode : rt.decodeBase64Url clientData.challenge = some a.expectedChallenge.toList) :
    verifyRootAuthorization rt config ctx now a ≠ .error (.custom .invalidWebAuthnChallenge) := by
  suffices h : Avoids (· = .custom .invalidWebAuthnChallenge)
      (verifyRootAuthorization rt config ctx now a) from
    fun he => h _ he rfl
  refine Avoids.bind (Avoids.require (by simp)) fun _ _ => ?_
  refine Avoids.bind ?_ fun _ _ => ?_
  · refine Avoids.bind (Avoids.require (by simp)) fun _ _ => ?_
    refine Avoids.bind (Avoids.require (by simp)) fun _ _ => ?_
    refine Avoids.bind (Avoids.require (by simp)) fun _ _ => ?_
    refine Avoids.bind (Avoids.orError (by simp)) fun data hdata => ?_
    rw [orError_eq_ok, hclient] at hdata
    obtain rfl := Option.some.inj hdata
    refine Avoids.bind (Avoids.require (by simp)) fun _ _ => ?_
    refine Avoids.bind (Avoids.require (by simp)) fun _ _ => ?_
    refine Avoids.bind (Avoids.require (by simp)) fun _ _ => ?_
    intro e he
    simp [hdecode] at he
  · refine Avoids.bind (Avoids.require (by simp)) fun _ _ => ?_
    refine Avoids.bind (Avoids.orError (by simp)) fun _ _ => ?_
    exact validateSecp256r1Instruction_avoids _ _ _

end VeriAgentPay
