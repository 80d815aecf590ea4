import VeriAgentPay.SignatureParsers

/-!
# The verification instruction, built and checked

The client library writes the instruction for the secp256r1 precompile and the program checks
the one in front of it. What the library builds is accepted, and an accepted instruction has
its one signature, its key and its message at the offsets of its own header.
-/

namespace VeriAgentPay.Backend
open FixedWidth CheckedOutcome Client

section Layout

/-- The number of signatures, a byte of padding and seven offsets; 0xffff is the instruction
itself. -/
def verificationHeader (padding : UInt8) (messageLength : ℕ) : Bytes :=
  [1, padding] ++ leBytes 2 (secp256r1DataStart + compressedPublicKeySize) ++ leBytes 2 0xffff ++
    leBytes 2 secp256r1DataStart ++ leBytes 2 0xffff ++
    leBytes 2 (secp256r1DataStart + compressedPublicKeySize + compactSignatureSize) ++
    leBytes 2 messageLength ++ leBytes 2 0xffff

def verificationData (padding : UInt8) (key : FixedBytes 33) (signature message : Bytes) : Bytes :=
  verificationHeader padding message.length ++ (key.toList ++ (signature ++ message))

/-- The key, the signature and the message at the offsets of an instruction's own header. -/
def verifiedParts (data : Bytes) : Outcome (Bytes × Bytes × Bytes) := do
  let signatureOffset ← readU16 data 2
  let publicKeyOffset ← readU16 data 6
  let messageOffset ← readU16 data 10
  let messageSize ← readU16 data 12
  pure ((data.drop publicKeyOffset).take compressedPublicKeySize,
    (data.drop signatureOffset).take compactSignatureSize,
    (data.drop messageOffset).take messageSize)

@[simp] theorem length_verificationHeader (padding : UInt8) (messageLength : ℕ) :
    (verificationHeader padding messageLength).length = secp256r1DataStart := by
  simp [verificationHeader, secp256r1DataStart]

theorem readU16_eq_ok {data : Bytes} {offset n : ℕ} :
    readU16 data offset = .ok n ↔ n < 2 ^ 16 ∧
    data.drop offset = leBytes 2 n ++ data.drop (offset + 2) := by
  have hat : ∀ i, data[offset + i]? = (data.drop offset)[i]? := fun i => List.getElem?_drop.symm
  have hlow := hat 0
  have hhigh := hat 1
  rw [Nat.add_zero] at hlow
  rw [readU16, hlow, hhigh, ← List.drop_drop]
  match data.drop offset with
  | [] => simp [leBytes]
  | [_] => simp [leBytes]
  | low :: high :: rest =>
    have hlowLt := low.toNat_lt
    have hhighLt := high.toNat_lt
    simp only [List.getElem?_cons_zero, List.getElem?_cons_succ, Except.ok.injEq,
      List.drop_succ_cons, List.drop_zero,
      leBytes, List.cons_append, List.nil_append, List.cons.injEq, and_true, ← UInt8.toNat_inj,
      UInt8.toNat_ofNat']
    omega

/-- The seven numbers of a header. -/
theorem readU16_verificationData (padding : UInt8) (key : FixedBytes 33) (signature : Bytes)
    {message : Bytes} (hmessage : message.length < 2 ^ 16) :
    let data := verificationData padding key signature message
    readU16 data 2 = .ok 49 ∧ readU16 data 4 = .ok 65535 ∧ readU16 data 6 = .ok 16 ∧
    readU16 data 8 = .ok 65535 ∧
      readU16 data 10 = .ok 113 ∧ readU16 data 12 = .ok message.length ∧
      readU16 data 14 = .ok 65535 := by
  refine ⟨rfl, rfl, rfl, rfl, rfl, ?_, rfl⟩
  show Except.ok
      ((UInt8.ofNat message.length).toNat + 256 * (UInt8.ofNat (message.length / 256)).toNat) = _
  rw [UInt8.toNat_ofNat', UInt8.toNat_ofNat']
  congr 1
  omega

/-- What lies behind the header. -/
theorem drop_verificationData (padding : UInt8) (key : FixedBytes 33) {signature : Bytes}
    (message : Bytes) (hsignature : signature.length = 64) :
    let data := verificationData padding key signature message
    data.drop 16 = key.toList ++ (signature ++ message) ∧ data.drop 49 = signature ++ message ∧
      data.drop 113 = message := by
  intro data
  have hkey : data.drop 16 = key.toList ++ (signature ++ message) :=
    List.drop_left' (length_verificationHeader padding message.length)
  have hrest : data.drop 49 = signature ++ message := by
    rw [show (49 : ℕ) = 16 + 33 from rfl, ← List.drop_drop, hkey, List.drop_left' key.toList_length]
  refine ⟨hkey, hrest, ?_⟩
  rw [show (113 : ℕ) = 49 + 64 from rfl, ← List.drop_drop, hrest, List.drop_left' hsignature]

theorem verifiedParts_verificationData (padding : UInt8) (key : FixedBytes 33)
    {signature message : Bytes} (hsignature : signature.length = 64)
    (hmessage : message.length < 2 ^ 16) :
    verifiedParts (verificationData padding key signature message) = .ok (key.toList, signature,
      message) := by
  obtain ⟨h2, -, h6, -, h10, h12, -⟩ := readU16_verificationData padding key signature hmessage
  obtain ⟨hkey, hrest, hlast⟩ := drop_verificationData padding key message hsignature
  simp only [verifiedParts, h2, h6, h10, h12, bind, Except.bind, pure, Except.pure, hkey,
    hrest, hlast]
  rw [List.take_left' (show _ = compressedPublicKeySize from key.toList_length),
    List.take_left' (show _ = compactSignatureSize from hsignature), List.take_length]

theorem validate_verificationData (padding : UInt8) (key : FixedBytes 33)
    {signature message : Bytes} (hsignature : signature.length = 64)
    (hmessage : message.length < 2 ^ 16) :
    validateSecp256r1Instruction
      { programId := secp256r1ProgramId, accounts := []
        data := verificationData padding key signature message }
      key message = .ok () := by
  obtain ⟨h2, h4, h6, h8, h10, h12, h14⟩ := readU16_verificationData padding key signature hmessage
  obtain ⟨hkey, -, hlast⟩ := drop_verificationData padding key message hsignature
  have hlength : (verificationData padding key signature message).length = 113 +
      message.length := by
    simp only [verificationData, List.length_append, length_verificationHeader, key.toList_length,
      hsignature,
      secp256r1DataStart]
    omega
  have hsize : secp256r1DataStart ≤ (verificationData padding key signature message).length := by
    rw [hlength]
    simp only [secp256r1DataStart]
    omega
  simp only [validateSecp256r1Instruction, bind_eq_ok, require_eq_ok, exists_unit]
  refine ⟨trivial, trivial, ⟨hsize, rfl⟩, _, h2, _, h4, _, h6, _, h8, _, h10, _, h12, _, h14,
    ⟨rfl, rfl, rfl, rfl, rfl, rfl, rfl, hlength⟩, ?_, hlast⟩
  show ((verificationData padding key signature message).drop 16).take 33 = key.toList
  rw [hkey, List.take_left' key.toList_length]

theorem verificationData_of_validate {instruction : TransactionInstruction} {key : FixedBytes 33}
    {message : Bytes} (h : validateSecp256r1Instruction instruction key message = .ok ()) :
    instruction.programId = secp256r1ProgramId ∧ instruction.accounts = [] ∧
    message.length < 2 ^ 16 ∧
      ∃ padding signature, signature.length = 64 ∧
        instruction.data = verificationData padding key signature message := by
  simp only [validateSecp256r1Instruction, bind_eq_ok, require_eq_ok, exists_unit,
    readU16_eq_ok] at h
  obtain ⟨hprogram, haccounts, ⟨hsize, hcount⟩, signatureOffset, ⟨-, h2⟩, signatureIndex, ⟨-, h4⟩,
    keyOffset, ⟨-, h6⟩,
    keyIndex, ⟨-, h8⟩, messageOffset, ⟨-, h10⟩, messageSize, ⟨hbound, h12⟩, messageIndex, ⟨-, h14⟩,
    ⟨rfl, rfl, rfl, rfl, rfl, rfl, rfl, hlength⟩, hkey, hmessage⟩ := h
  obtain ⟨padding, hpadding⟩ : ∃ padding, instruction.data[1]? = some padding :=
    ⟨_, List.getElem?_eq_getElem (lt_of_lt_of_le (by decide) hsize)⟩
  have hsplit : instruction.data.drop 16 = key.toList ++ instruction.data.drop 49 := by
    rw [← hkey, show (49 : ℕ) = 16 + 33 from rfl, ← List.drop_drop]
    exact (List.take_append_drop _ _).symm
  obtain ⟨signature, hsignature, hlast⟩ :
      ∃ signature, signature.length = 64 ∧ instruction.data.drop 49 = signature ++ message := by
    refine ⟨(instruction.data.drop 49).take 64, ?_, ?_⟩
    · simp only [secp256r1DataStart, compressedPublicKeySize, compactSignatureSize] at hlength
      rw [List.length_take, List.length_drop]
      omega
    · rw [← hmessage, show secp256r1DataStart + compressedPublicKeySize +
        compactSignatureSize = 49 + 64 from rfl,
        ← List.drop_drop]
      exact (List.take_append_drop _ _).symm
  have hheader : instruction.data = 1 :: padding :: instruction.data.drop 2 := by
    rw [← drop_eq_cons hpadding, ← drop_eq_cons hcount, List.drop_zero]
  refine ⟨hprogram, haccounts, hbound, padding, signature, hsignature, ?_⟩
  rw [hheader, h2, h4, h6, h8, h10, h12, h14, hsplit, hlast]
  simp [verificationData, verificationHeader]

end Layout

section Handshake

variable (rt : Runtime)

/-- The proofs from which an instruction can be built. -/
structure Buildable (proof : WebAuthnProof) : Prop where
  key : proof.compressedPublicKey.length = 33
  prefixByte : proof.compressedPublicKey[0]? = some 2 ∨ proof.compressedPublicKey[0]? = some 3
  signature : ∃ r s, IsScalar r ∧ IsScalar s ∧ proof.signatureDer = Der.signature r s
  authenticatorData : 37 ≤ proof.authenticatorData.length
  message : proof.authenticatorData.length + 32 ≤ 65535

def signedMessage (proof : WebAuthnProof) : Bytes :=
  proof.authenticatorData ++ (rt.sha256 proof.clientDataJson).toList

theorem webAuthnSignedMessage_eq_ok {proof : WebAuthnProof} {message : Bytes} :
    webAuthnSignedMessage rt proof.authenticatorData proof.clientDataJson = .ok message ↔
      37 ≤ proof.authenticatorData.length ∧ message = signedMessage rt proof := by
  simp only [webAuthnSignedMessage, bind_eq_ok, require_eq_ok, exists_unit, pure_eq_ok, not_lt,
    concatBytes_eq_flatten, signedMessage, List.flatten_cons, List.flatten_nil, List.append_nil]
  rw [eq_comm (a := message)]

theorem length_signedMessage (proof : WebAuthnProof) :
    (signedMessage rt proof).length = proof.authenticatorData.length + 32 := by
  simp [signedMessage]

theorem length_of_derToCompactLowS {der out : Bytes} (h : derToCompactLowS der = .ok out) :
    out.length = 64 := by
  obtain ⟨r, s, -, -, -, rfl⟩ := derToCompactLowS_eq_ok.mp h
  simp

theorem createSecp256r1Instruction_eq_ok {proof : WebAuthnProof}
    {instruction : TransactionInstruction} :
    createSecp256r1Instruction rt proof = .ok instruction ↔
      Buildable proof ∧
      ∃ (key : FixedBytes 33) (signature : Bytes), key.toList = proof.compressedPublicKey ∧
        derToCompactLowS proof.signatureDer = .ok signature ∧
        instruction =
          { programId := secp256r1ProgramId, accounts := []
            data := verificationData 0 key signature (signedMessage rt proof) } := by
  have hdata : ∀ (key : FixedBytes 33) signature, key.toList = proof.compressedPublicKey →
      concatBytes [verificationHeader 0 (signedMessage rt proof).length, proof.compressedPublicKey,
        signature,
        signedMessage rt proof] = verificationData 0 key signature (signedMessage rt proof) := by
    intro key signature hkey
    simp [concatBytes_eq_flatten, verificationData, hkey]
  simp only [createSecp256r1Instruction, bind_eq_ok, require_eq_ok, exists_unit, pure_eq_ok,
    webAuthnSignedMessage_eq_ok]
  constructor
  · rintro ⟨hlength, hprefix, signature, hsignature, _, ⟨hauthenticator, rfl⟩, hmessage, rfl⟩
    obtain ⟨r, s, hr, hs, hder, -⟩ := derToCompactLowS_eq_ok.mp hsignature
    rw [length_signedMessage] at hmessage
    refine ⟨⟨hlength, hprefix, ⟨r, s, hr, hs, hder⟩, hauthenticator, hmessage⟩,
      ⟨proof.compressedPublicKey, hlength⟩, signature, rfl, hsignature, ?_⟩
    rw [← hdata ⟨proof.compressedPublicKey, hlength⟩ signature rfl]
    rfl
  · rintro ⟨hbuildable, key, signature, hkey, hsignature, rfl⟩
    refine ⟨hbuildable.key, hbuildable.prefixByte, signature, hsignature, _,
      ⟨hbuildable.authenticatorData, rfl⟩, ?_, ?_⟩
    · rw [length_signedMessage]
      exact hbuildable.message
    · rw [← hdata key signature hkey]
      rfl

/-- The handshake of builder and checker. A proof that can be built from gives an instruction,
which is accepted for its key and its message; and whatever instruction is accepted for a key
and a message carries no accounts, has the canonical header, and names exactly them. -/
theorem precompile_handshake :
    (∀ proof, (∃ instruction, createSecp256r1Instruction rt proof = .ok instruction) ↔
      Buildable proof) ∧
    (∀ proof instruction, createSecp256r1Instruction rt proof = .ok instruction →
      ∃ key : FixedBytes 33, key.toList = proof.compressedPublicKey ∧
        validateSecp256r1Instruction instruction key
          (proof.authenticatorData ++ (rt.sha256 proof.clientDataJson).toList) = .ok ()) ∧
    ∀ instruction key message, validateSecp256r1Instruction instruction key message = .ok () →
      instruction.programId = secp256r1ProgramId ∧ instruction.accounts = [] ∧
        ∃ padding signature, signature.length = 64 ∧
          instruction.data = verificationData padding key signature message ∧
          verifiedParts instruction.data = .ok (key.toList, signature, message) := by
  refine ⟨fun proof => ⟨?_, fun h => ?_⟩, fun proof instruction h => ?_,
    fun instruction key message h => ?_⟩
  · rintro ⟨instruction, h⟩
    exact ((createSecp256r1Instruction_eq_ok rt).mp h).1
  · obtain ⟨r, s, hr, hs, hder⟩ := h.signature
    exact ⟨_, (createSecp256r1Instruction_eq_ok rt).mpr ⟨h, ⟨_, h.key⟩, _, rfl,
      derToCompactLowS_eq_ok.mpr ⟨r, s, hr, hs, hder, rfl⟩, rfl⟩⟩
  · obtain ⟨hbuildable, key, signature, hkey, hsignature, rfl⟩ :=
      (createSecp256r1Instruction_eq_ok rt).mp h
    refine ⟨key, hkey, validate_verificationData 0 key (length_of_derToCompactLowS hsignature) ?_⟩
    have hmessage := hbuildable.message
    rw [← length_signedMessage rt] at hmessage
    exact Nat.lt_succ_of_le hmessage
  · obtain ⟨hprogram, haccounts, hbound, padding, signature, hsignature, hdata⟩ :=
      verificationData_of_validate h
    refine ⟨hprogram, haccounts, padding, signature, hsignature, hdata, ?_⟩
    rw [hdata]
    exact verifiedParts_verificationData padding key hsignature hbound

end Handshake

end VeriAgentPay.Backend
