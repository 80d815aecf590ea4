import VeriAgentPay.LinkRecordAgreement
import VeriAgentPay.PrecompileHandshake

/-!
# What is staged is what is executed

A prepare method hashes a challenge and stages the values as text. The instruction that is rebuilt
from the text later asks for the same challenge, and its effect is the one that was asked for.
-/

namespace VeriAgentPay.Backend
open FixedWidth CheckedOutcome TextEncodings Client

namespace SolanaPasskeyExecutionService

variable {d : Deployment}

/-- The columns that set up a vault. -/
structure SameKeys (wallet wallet' : SmartWallet) : Prop where
  publicKeyX : wallet'.publicKeyX = wallet.publicKeyX
  publicKeyY : wallet'.publicKeyY = wallet.publicKeyY
  salt : wallet'.salt = wallet.salt

/-- The records that the prepare methods compute for a user and a wallet row. -/
inductive PreparedFor (d : Deployment) (wallet : SmartWallet) : String → PreparedAction → Prop
  | transfer {params : TransferParams} {vaultNonce : UInt64} {expiresAtUnix : ℤ}
    {prepared : PreparedAction}
      (h : transferAction d params wallet.address vaultNonce expiresAtUnix = .ok prepared) :
      PreparedFor d wallet params.userId prepared
  | solTransfer {params : SolTransferParams} {vaultNonce : UInt64} {expiresAtUnix : ℤ} {prepared :
      PreparedAction}
      (h : solTransferAction d params wallet.address vaultNonce expiresAtUnix = .ok prepared) :
      PreparedFor d wallet params.userId prepared
  | solPaymentLink {params : SolPaymentLinkParams} {code :
      String} {amountLamports linkExpiresAtUnix : ℤ}
      {vaultNonce : UInt64} {expiresAtUnix : ℤ} {prepared : PreparedAction}
      (h : solPaymentLinkAction d params code wallet.address amountLamports linkExpiresAtUnix
        vaultNonce expiresAtUnix =
        .ok prepared) : PreparedFor d wallet params.userId prepared
  | cancelSolPaymentLink {userId code envelopeId : String} {vaultNonce : UInt64} {expiresAtUnix : ℤ}
      {prepared : PreparedAction}
      (h : cancelSolPaymentLinkAction d userId code envelopeId wallet.address vaultNonce
        expiresAtUnix = .ok prepared) :
      PreparedFor d wallet userId prepared
  | sessionGrant {userId sessionKeyId : String} {session : Pubkey} {terms :
      SessionGrantTerms} {vaultState : Option Vault}
      {expiresAtUnix : ℤ} {prepared : PreparedAction}
      (h : sessionGrantAction d userId sessionKeyId wallet session terms vaultState expiresAtUnix =
        .ok prepared) :
      PreparedFor d wallet userId prepared

/-- Byte strings that a `u32` length can be written for. -/
structure ShortEnough (proof : WebAuthnProof) : Prop where
  authenticatorData : proof.authenticatorData.length ≤ 0xffffffff
  clientDataJson : proof.clientDataJson.length ≤ 0xffffffff

/-- The instruction rebuilt from a record asks for the challenge that was staged, with the staged
expiry. -/
structure Rebuilds (d : Deployment) (prepared : PreparedAction) (wallet : SmartWallet)
    (action : RootAction) : Prop where
  challenge_eq : prepared.challengeB64Url = bytesToBase64Url (challenge d.rt action.parts).toList
  expires : prepared.expiresAtUnix = bigIntToString action.proofExpiresAt.toInt
  built : ∀ proof, compressedP256PublicKey wallet.publicKeyX wallet.publicKeyY =
    .ok proof.compressedPublicKey →
    ShortEnough proof → ∃ call, buildInstruction d prepared wallet proof = .ok call
  carried : ∀ proof call, compressedP256PublicKey wallet.publicKeyX wallet.publicKeyY =
    .ok proof.compressedPublicKey →
    buildInstruction d prepared wallet proof = .ok call →
    ShortEnough proof ∧
      call.rootProof? = some ⟨action.proofExpiresAt, proof.authenticatorData,
        proof.clientDataJson⟩ ∧
      ∀ config : ProtocolConfig, clusterDomain d = .ok config.clusterDomain.toList →
        call.rootAction? d.rt config = some action

@[simp] theorem ok_bind {ε α β : Type} (a : α) (f : α → Except ε β) :
    ((.ok a : Except ε α) >>= f) = f a := rfl

@[simp] theorem orError_some {ε α : Type} (a : α) (e : ε) : orError (some a) e = .ok a := rfl

theorem challengeText_eq_ok (req : ClientRequest) {text : String}
    (h : challengeText (req.challenge d.rt.sha256) = .ok text) :
    ∃ action, req.describe = some action ∧
      text = bytesToBase64Url (challenge d.rt action.parts).toList := by
  cases hrange : req.describe with
  | none =>
    have hno : ¬req.InRange := by
      simp [← req.isSome_describe, hrange]
    obtain ⟨message, hmessage⟩ := (req.challenge_throws_iff d.rt.sha256).mpr hno
    rw [hmessage] at h
    cases h
  | some action =>
    rw [ClientRequest.challenge_eq_ok d.rt.sha256 hrange] at h
    exact ⟨action, rfl, (Except.ok.inj h).symm⟩

theorem rootProofArg_ok {expiresAtUnix : ℤ} {expiresAt : Int64} {proof : WebAuthnProof}
    (hexpiry : toI64 expiresAtUnix = some expiresAt) (hshort : ShortEnough proof) :
    rootProofArg ⟨expiresAtUnix, proof.authenticatorData, proof.clientDataJson⟩ =
      .ok ⟨expiresAt, proof.authenticatorData, proof.clientDataJson⟩ := by
  simp [rootProofArg, i64Arg, vectorArg, hexpiry, hshort.authenticatorData, hshort.clientDataJson,
    require, orError, pure,
    Except.pure, bind, Except.bind]

theorem short_of_rootProofArg {expiresAtUnix : ℤ} {proof : WebAuthnProof} {rootProof : RootProof}
    (h : rootProofArg ⟨expiresAtUnix, proof.authenticatorData, proof.clientDataJson⟩ =
      .ok rootProof) :
    ShortEnough proof := by
  simp only [rootProofArg, vectorArg, bind_eq_ok, require_eq_ok, pure_eq_ok, exists_unit] at h
  obtain ⟨-, -, -, ⟨hauthenticator, -⟩, -, ⟨hclient, -⟩, -⟩ := h
  exact ⟨hauthenticator, hclient⟩

/-- A computation that ends with the root proof gives its result on proofs that are short enough,
and on no others. -/
theorem rebuilds_of_build {prepared : PreparedAction} {wallet : SmartWallet} {action : RootAction}
    {expiresAtUnix : ℤ} (make : RootProof → Call)
    (hchallenge : prepared.challengeB64Url = bytesToBase64Url (challenge d.rt action.parts).toList)
    (hexpires : prepared.expiresAtUnix = bigIntToString expiresAtUnix)
    (hexpiry : toI64 expiresAtUnix = some action.proofExpiresAt) (hbuild : ∀ proof : WebAuthnProof,
      compressedP256PublicKey wallet.publicKeyX wallet.publicKeyY = .ok proof.compressedPublicKey →
      buildInstruction d prepared wallet proof = (do
        let rootProof ← rootProofArg ⟨expiresAtUnix, proof.authenticatorData, proof.clientDataJson⟩
        pure (make rootProof)))
    (hproof : ∀ rootProof, (make rootProof).rootProof? = some rootProof)
    (haction : ∀ (config : ProtocolConfig) rootProof,
      rootProof.proofExpiresAt = action.proofExpiresAt →
      clusterDomain d = .ok config.clusterDomain.toList →
      (make rootProof).rootAction? d.rt config = some action) :
    Rebuilds d prepared wallet action where
  challenge_eq := hchallenge
  expires := by rw [hexpires, toI64_eq_some.mp hexpiry]
  built proof hkey hshort := by
    rw [hbuild proof hkey, rootProofArg_ok hexpiry hshort]
    exact ⟨_, rfl⟩
  carried proof call hkey hcall := by
    rw [hbuild proof hkey, bind_eq_ok] at hcall
    obtain ⟨rootProof, hrootProof, hcall⟩ := hcall
    have hshort := short_of_rootProofArg hrootProof
    rw [rootProofArg_ok hexpiry hshort] at hrootProof
    obtain rfl := Except.ok.inj hrootProof
    obtain rfl := Except.ok.inj hcall
    exact ⟨hshort, hproof _, fun config hcluster => haction config _ rfl hcluster⟩

theorem fixed_clusterDomain {clusterBytes : Bytes} {fixed : FixedBytes 32} {config : ProtocolConfig}
    (h : clusterDomain d = .ok clusterBytes) (hfixed : toFixed 32 clusterBytes = some fixed)
    (hconfig : clusterDomain d = .ok config.clusterDomain.toList) :
    config.clusterDomain = fixed := by
  rw [h] at hconfig
  obtain rfl := Except.ok.inj hconfig
  simpa using hfixed

theorem rebuilds_transfer {params : TransferParams} {wallet wallet' : SmartWallet}
    {vaultNonce : UInt64} {expiresAtUnix : ℤ} {prepared : PreparedAction}
    (h : transferAction d params wallet.address vaultNonce expiresAtUnix = .ok prepared) :
    ∃ action, Rebuilds d prepared wallet' action := by
  simp only [transferAction, bind_eq_ok, pure_eq_ok] at h
  obtain ⟨amountAtomic, hamount, vault, hvault, destination, hdestination, cluster, hcluster,
    tokenAccount, htoken, text,
    htext, rfl⟩ := h
  obtain ⟨action, hdescribe, htext⟩ := challengeText_eq_ok (.transfer _) htext
  simp only [ClientRequest.describe, TransferChallengeInput.describe, Option.bind_eq_bind,
    Option.bind_eq_some_iff,
    toU64_toNat, Option.some.injEq, exists_eq_left'] at hdescribe
  obtain ⟨fixed, hfixed, amount, hfits, expiresAt, hexpiry, rfl⟩ := hdescribe
  refine ⟨_, rebuilds_of_build (fun rootProof => .transferWithPasskey
    { payer := d.feePayer, config := d.configAddress, vault := vault
      stablecoinMint := d.stablecoinMint
      vaultTokenAccount := tokenAccount, destinationTokenAccount := destination }
    { rootProof with amount := amount, vaultNonce := vaultNonce }) htext rfl hexpiry ?_ ?_ ?_⟩
  · intro proof hkey
    simp only [buildInstruction, bigInt_bigIntToString, hvault, htoken,
      newPublicKey_toBase58, ok_bind,
      createPasskeyTransferInstruction, u64Arg, hfits, toU64_toNat, orError_some]
  · intro rootProof
    rfl
  · intro config rootProof hrootProof hconfig
    simp [Call.rootAction?, scopeOf, fixed_clusterDomain hcluster hfixed hconfig, hrootProof,
      RootAction.proofExpiresAt]

theorem rebuilds_solTransfer {params : SolTransferParams} {wallet wallet' : SmartWallet}
    {vaultNonce : UInt64} {expiresAtUnix : ℤ} {prepared : PreparedAction}
    (h : solTransferAction d params wallet.address vaultNonce expiresAtUnix = .ok prepared) :
    ∃ action, Rebuilds d prepared wallet' action := by
  simp only [solTransferAction, bind_eq_ok, pure_eq_ok] at h
  obtain ⟨amountLamports, hamount, vault, hvault, recipient, hrecipient, cluster, hcluster, text,
    htext, rfl⟩ := h
  obtain ⟨action, hdescribe, htext⟩ := challengeText_eq_ok (.solTransfer _) htext
  simp only [ClientRequest.describe, SolTransferChallengeInput.describe, Option.bind_eq_bind,
    Option.bind_eq_some_iff,
    toU64_toNat, Option.some.injEq, exists_eq_left'] at hdescribe
  obtain ⟨fixed, hfixed, amount, hfits, expiresAt, hexpiry, rfl⟩ := hdescribe
  refine ⟨_, rebuilds_of_build (fun rootProof => .transferSolWithPasskey
    { payer := d.feePayer, config := d.configAddress, vault := vault, recipient := recipient }
    { rootProof with amount := amount, vaultNonce := vaultNonce }) htext rfl hexpiry ?_ ?_ ?_⟩
  · intro proof hkey
    simp only [buildInstruction, bigInt_bigIntToString, hvault, newPublicKey_toBase58, ok_bind,
      createSolPasskeyTransferInstruction, u64Arg, hfits, toU64_toNat, orError_some]
  · intro rootProof
    rfl
  · intro config rootProof hrootProof hconfig
    simp [Call.rootAction?, scopeOf, fixed_clusterDomain hcluster hfixed hconfig, hrootProof,
      RootAction.proofExpiresAt]

theorem toList_of_toFixed {n : ℕ} {bytes : Bytes} {fixed : FixedBytes n}
    (h : toFixed n bytes = some fixed) :
    fixed.toList = bytes := by
  unfold toFixed at h
  split at h
  · obtain rfl := Option.some.inj h
    rfl
  · cases h

theorem base64UrlToBytes_fixed {n : ℕ} {bytes : Bytes} {fixed : FixedBytes (n + 1)}
    (h : toFixed (n + 1) bytes = some fixed) :
    base64UrlToBytes (bytesToBase64Url bytes) = .ok bytes := by
  apply base64UrlToBytes_bytesToBase64Url
  intro hnil
  have hlength := fixed.toList_length
  rw [toList_of_toFixed h, hnil] at hlength
  simp at hlength

theorem rebuilds_solPaymentLink {params : SolPaymentLinkParams} {code : String}
    {wallet wallet' : SmartWallet} {amountLamports linkExpiresAtUnix : ℤ} {vaultNonce : UInt64}
    {expiresAtUnix : ℤ} {prepared : PreparedAction}
    (h : solPaymentLinkAction d params code wallet.address amountLamports linkExpiresAtUnix
      vaultNonce expiresAtUnix =
      .ok prepared) : ∃ action, Rebuilds d prepared wallet' action := by
  simp only [solPaymentLinkAction, bind_eq_ok, pure_eq_ok] at h
  obtain ⟨vault, hvault, owner, howner, paymentLink, hlink, cluster, hcluster, text, htext, rfl⟩ :=
    h
  obtain ⟨action, hdescribe, htext⟩ := challengeText_eq_ok (.solPaymentLink _) htext
  simp only [ClientRequest.describe, SolPaymentLinkChallengeInput.describe, Option.bind_eq_bind,
    Option.bind_eq_some_iff,
    toU64_toNat, Option.some.injEq, exists_eq_left'] at hdescribe
  obtain ⟨fixed, hfixed, linkId, hlinkId, recipientCommitment, hcommitment, amount, hfits,
    linkExpiresAt, hlinkExpiry,
    expiresAt, hexpiry, rfl⟩ := hdescribe
  refine ⟨_, rebuilds_of_build (fun rootProof => .createSolPaymentLinkWithPasskey
    { payer := d.feePayer, config := d.configAddress, vault := vault, paymentLink := paymentLink }
    { rootProof with
      linkId := linkId, recipientCommitment := recipientCommitment, amount := amount, expiresAt :=
        linkExpiresAt
      vaultNonce := vaultNonce }) htext rfl hexpiry ?_ ?_ ?_⟩
  · intro proof hkey
    simp only [buildInstruction, bigInt_bigIntToString, hvault, newPublicKey_toBase58, ok_bind,
      base64UrlToBytes_fixed hlinkId, base64UrlToBytes_fixed hcommitment,
      createSolPaymentLinkWithPasskeyInstruction, fixedArg, hlinkId, hcommitment, u64Arg, i64Arg,
      hfits, hlinkExpiry, toU64_toNat,
      orError_some]
  · intro rootProof
    rfl
  · intro config rootProof hrootProof hconfig
    simp [Call.rootAction?, scopeOf, fixed_clusterDomain hcluster hfixed hconfig, hrootProof,
      RootAction.proofExpiresAt]

theorem rebuilds_cancelSolPaymentLink {userId code envelopeId : String}
    {wallet wallet' : SmartWallet} {vaultNonce : UInt64} {expiresAtUnix : ℤ}
    {prepared : PreparedAction}
    (h : cancelSolPaymentLinkAction d userId code envelopeId wallet.address vaultNonce
      expiresAtUnix = .ok prepared) :
    ∃ action, Rebuilds d prepared wallet' action := by
  simp only [cancelSolPaymentLinkAction, bind_eq_ok, pure_eq_ok] at h
  obtain ⟨vault, hvault, paymentLink, hlink, cluster, hcluster, text, htext, rfl⟩ := h
  obtain ⟨action, hdescribe, htext⟩ := challengeText_eq_ok (.cancelSolPaymentLink _) htext
  simp only [ClientRequest.describe, CancelSolPaymentLinkChallengeInput.describe,
    Option.bind_eq_bind, Option.bind_eq_some_iff,
    toU64_toNat, Option.some.injEq, exists_eq_left'] at hdescribe
  obtain ⟨fixed, hfixed, expiresAt, hexpiry, rfl⟩ := hdescribe
  refine ⟨_, rebuilds_of_build (fun rootProof => .cancelSolPaymentLinkWithPasskey
    { payer := d.feePayer, config := d.configAddress, vault := vault, paymentLink := paymentLink }
    { rootProof with vaultNonce := vaultNonce }) htext rfl hexpiry ?_ ?_ ?_⟩
  · intro proof hkey
    rw [buildInstruction, bigInt_bigIntToString, ok_bind, hvault, ok_bind]
    change (newPublicKey (toBase58 paymentLink) >>= fun paymentLink =>
      bigInt (bigIntToString vaultNonce.toNat) >>= fun vaultNonce => _) = _
    rw [newPublicKey_toBase58, ok_bind, bigInt_bigIntToString, ok_bind,
      createCancelSolPaymentLinkWithPasskeyInstruction,
      u64Arg, toU64_toNat, orError_some, ok_bind]
  · intro rootProof
    rfl
  · intro config rootProof hrootProof hconfig
    simp [Call.rootAction?, scopeOf, fixed_clusterDomain hcluster hfixed hconfig, hrootProof,
      RootAction.proofExpiresAt]

section Grants

variable {userId sessionKeyId : String} {wallet wallet' : SmartWallet} {session : Pubkey}
  {terms : SessionGrantTerms}
  {expiresAtUnix : ℤ} {prepared : PreparedAction}

theorem rebuilds_grant {state : Vault}
    (h : sessionGrantAction d userId sessionKeyId wallet session terms (some state) expiresAtUnix =
      .ok prepared) :
    ∃ action, Rebuilds d prepared wallet' action := by
  simp only [sessionGrantAction, sessionGrantChallengeText, bind_eq_ok, pure_eq_ok] at h
  obtain ⟨vault, hvault, text, ⟨cluster, hcluster, htext⟩, rfl⟩ := h
  obtain ⟨action, hdescribe, htext⟩ := challengeText_eq_ok (.sessionGrant _) htext
  simp only [ClientRequest.describe, SessionGrantChallengeInput.describe, Option.bind_eq_bind,
    Option.bind_eq_some_iff,
    toU64_toNat, Option.some.injEq, exists_eq_left'] at hdescribe
  obtain ⟨fixed, hfixed, actionBitmap, hbitmap, perActionLimit, hper, cumulativeLimit, hcumulative,
    validAfter, hafter,
    validUntil, huntil, expiresAt, hexpiry, rfl⟩ := hdescribe
  refine ⟨_, rebuilds_of_build (fun rootProof => .grantSession
    { payer := d.feePayer, config := d.configAddress, vault := vault, session := session }
    { (⟨terms.sessionPublicKey, actionBitmap, perActionLimit, cumulativeLimit, validAfter,
      validUntil⟩ : SessionPolicy),
      rootProof with vaultNonce := state.nonce }) htext rfl hexpiry ?_ ?_ ?_⟩
  · intro proof hkey
    simp only [buildInstruction, bigInt_bigIntToString, hvault, newPublicKey_toBase58, ok_bind,
      Option.isNone_some,
      Bool.false_eq_true, if_false, createGrantSessionInstruction, sessionPolicyArg, u16Arg, u64Arg,
      i64Arg, hbitmap, hper,
      hcumulative, hafter, huntil, toU64_toNat, orError_some, pure_bind]
  · intro rootProof
    rfl
  · intro config rootProof hrootProof hconfig
    simp [Call.rootAction?, scopeOf, fixed_clusterDomain hcluster hfixed hconfig, hrootProof,
      RootAction.proofExpiresAt]

theorem bytes32FromStored_empty :
    bytes32FromStored "" = .error (.error "Stored Solana seed must contain 32 bytes") := by
  decide

/-- A wallet row without a salt has no challenge for a new vault. -/
theorem rebuilds_setUp (hkeys : SameKeys wallet wallet')
    (h : sessionGrantAction d userId sessionKeyId wallet session terms none expiresAtUnix =
      .ok prepared) :
    ∃ action, Rebuilds d prepared wallet' action := by
  have hnonempty : wallet.salt ≠ "" := by
    intro hempty
    simp [sessionGrantAction, sessionGrantChallengeText, hempty, bytes32FromStored_empty] at h
  simp only [sessionGrantAction, sessionGrantChallengeText, if_neg hnonempty, rootHashFromWallet,
    bind_eq_ok, pure_eq_ok] at h
  obtain ⟨vault, hvault, text,
    ⟨cluster, hcluster, tokenAccount, htoken, rootPublicKey, hroot, storedHash,
    ⟨digest, hdigest, rfl⟩, rootKeyHash, hhash, userSalt, hsalt, htext⟩, rfl⟩ := h
  rw [bytes32FromStored_toHex] at hhash
  obtain rfl := Except.ok.inj hhash
  obtain ⟨action, hdescribe, htext⟩ := challengeText_eq_ok (.initializeVaultAndGrantSession _) htext
  simp only [ClientRequest.describe, InitializeVaultAndGrantSessionChallengeInput.describe,
    Option.bind_eq_bind,
    Option.bind_eq_some_iff, Option.some.injEq] at hdescribe
  obtain ⟨fixed, hfixed, fixedKey, hfixedKey, fixedHash, hfixedHash, fixedSalt, hfixedSalt,
    actionBitmap, hbitmap,
    perActionLimit, hper, cumulativeLimit, hcumulative, validAfter, hafter, validUntil, huntil,
    expiresAt, hexpiry,
    rfl⟩ := hdescribe
  refine ⟨_, rebuilds_of_build (fun rootProof => .initializeVaultAndGrantSession
    { payer := d.feePayer, config := d.configAddress, vault := vault, session := session
      stablecoinMint := d.stablecoinMint, vaultTokenAccount := tokenAccount }
    { (⟨terms.sessionPublicKey, actionBitmap, perActionLimit, cumulativeLimit, validAfter,
      validUntil⟩ : SessionPolicy),
      rootProof with rootPublicKey := fixedKey, rootKeyHash := fixedHash, userSalt :=
        fixedSalt }) htext rfl hexpiry ?_ ?_ ?_⟩
  · intro proof hkey
    rw [hkeys.publicKeyX, hkeys.publicKeyY, hroot] at hkey
    obtain rfl := Except.ok.inj hkey
    simp only [buildInstruction, bigInt_bigIntToString, hvault, newPublicKey_toBase58, ok_bind,
      Option.isNone_none,
      if_true, htoken, hkeys.publicKeyX, hkeys.publicKeyY, hkeys.salt, hdigest, hsalt,
      createInitializeVaultAndGrantSessionInstruction, fixedArg, hfixedKey, hfixedHash, hfixedSalt,
      sessionPolicyArg, u16Arg,
      u64Arg, i64Arg, hbitmap, hper, hcumulative, hafter, huntil, orError_some, pure_bind]
  · intro rootProof
    rfl
  · intro config rootProof hrootProof hconfig
    simp [Call.rootAction?, scopeOf, fixed_clusterDomain hcluster hfixed hconfig, hrootProof,
      RootAction.proofExpiresAt]

end Grants

/-- The record sets up the vault it is about. -/
def setsUpVault : Payload → Bool
  | .sessionGrant initializeVault .. => initializeVault
  | _ => false

theorem rebuilds_of_prepared {wallet wallet' : SmartWallet} {userId : String}
    {prepared : PreparedAction} (h : PreparedFor d wallet userId prepared)
    (hkeys : setsUpVault prepared.payload = true → SameKeys wallet wallet') :
    ∃ action, Rebuilds d prepared wallet' action := by
  cases h with
  | transfer h => exact rebuilds_transfer h
  | solTransfer h => exact rebuilds_solTransfer h
  | solPaymentLink h => exact rebuilds_solPaymentLink h
  | cancelSolPaymentLink h => exact rebuilds_cancelSolPaymentLink h
  | @sessionGrant _ _ _ _ vaultState _ _ h =>
    cases vaultState with
    | some state => exact rebuilds_grant h
    | none =>
      apply rebuilds_setUp (hkeys _) h
      simp only [sessionGrantAction, bind_eq_ok, pure_eq_ok] at h
      obtain ⟨vault, hvault, text, htext, rfl⟩ := h
      rfl

theorem columns_of_prepared {wallet : SmartWallet} {userId : String} {prepared : PreparedAction}
    (h : PreparedFor d wallet userId prepared) :
    prepared.payload.Finite ∧ prepared.userId = userId ∧
    prepared.vaultAddress = wallet.address := by
  cases h with
  | transfer h =>
    simp only [transferAction, bind_eq_ok, pure_eq_ok] at h
    obtain ⟨-, -, -, -, -, -, -, -, -, -, -, -, rfl⟩ := h
    exact ⟨trivial, rfl, rfl⟩
  | solTransfer h =>
    simp only [solTransferAction, bind_eq_ok, pure_eq_ok] at h
    obtain ⟨-, -, -, -, -, -, -, -, -, -, rfl⟩ := h
    exact ⟨trivial, rfl, rfl⟩
  | solPaymentLink h =>
    simp only [solPaymentLinkAction, bind_eq_ok, pure_eq_ok] at h
    obtain ⟨-, -, -, -, -, -, -, -, -, -, rfl⟩ := h
    exact ⟨trivial, rfl, rfl⟩
  | cancelSolPaymentLink h =>
    simp only [cancelSolPaymentLinkAction, bind_eq_ok, pure_eq_ok] at h
    obtain ⟨-, -, -, -, -, -, -, -, rfl⟩ := h
    exact ⟨trivial, rfl, rfl⟩
  | sessionGrant h =>
    simp only [sessionGrantAction, bind_eq_ok, pure_eq_ok] at h
    obtain ⟨-, -, -, -, rfl⟩ := h
    exact ⟨⟨1, rfl⟩, rfl, rfl⟩

theorem ofJson_toJson_of_prepared {wallet : SmartWallet} {userId : String}
    {prepared : PreparedAction} (h : PreparedFor d wallet userId prepared) :
    PreparedAction.ofJson prepared.toJson = some prepared :=
  PreparedAction.ofJson_toJson (columns_of_prepared h).1

/-- Whatever was prepared for a user's wallet row is read back as it was staged and can be executed
with the keys that the row had: the instruction is built for every assertion that is short enough,
and asks for the staged challenge. -/
theorem prepared_action_executes {wallet wallet' : SmartWallet} {userId : String}
    {prepared : PreparedAction} (hprepared : PreparedFor d wallet userId prepared)
    (hkeys : setsUpVault prepared.payload = true → SameKeys wallet wallet') :
    PreparedAction.ofJson prepared.toJson = some prepared ∧
    ∃ action, Rebuilds d prepared wallet' action :=
  ⟨ofJson_toJson_of_prepared hprepared, rebuilds_of_prepared hprepared hkeys⟩

section Acceptance

variable {wallet wallet' : SmartWallet} {userId : String} {prepared : PreparedAction}
  {proof : WebAuthnProof} {call : Call}
  {verification : TransactionInstruction} {config : ProtocolConfig} {ctx : Context}
  {clientData : CollectedClientData}

/-- What the program still asks of an executed approval. -/
structure Acceptable (rt : Runtime) (config : ProtocolConfig) (now : Int64)
    (rootPublicKey : FixedBytes 33) (proof : WebAuthnProof) (clientData : CollectedClientData)
    (expiresAt : Int64) : Prop where
  inTime : expiresAt ≥ now ∧ expiresAt ≤ saturatingAdd now maxAuthorizationTtlSeconds
  rpIdHash : proof.authenticatorData.take 32 = config.rpIdHash.toList
  userVerified : proof.authenticatorData.getD 32 0 &&& (userPresentFlag ||| userVerifiedFlag) =
    userPresentFlag ||| userVerifiedFlag
  ceremonyType : clientData.ceremonyType = "webauthn.get"
  sameOrigin : clientData.crossOrigin ≠ some true
  origin : rt.sha256 clientData.origin.toUTF8.toList = config.originHash
  rootKey : proof.compressedPublicKey = rootPublicKey.toList

/-- The verification instruction of a proof is accepted for its own key only. -/
theorem validate_createSecp256r1Instruction
    (h : createSecp256r1Instruction d.rt proof = .ok verification) (rootPublicKey : FixedBytes 33) :
    validateSecp256r1Instruction verification rootPublicKey (signedMessage d.rt proof) = .ok () ↔
      proof.compressedPublicKey = rootPublicKey.toList := by
  obtain ⟨hbuildable, key, signature, hkey, hsignature, rfl⟩ :=
    (createSecp256r1Instruction_eq_ok d.rt).mp h
  have hlength := length_of_derToCompactLowS hsignature
  have hmessage : (signedMessage d.rt proof).length < 2 ^ 16 := by
    have hbound := hbuildable.message
    rw [← length_signedMessage d.rt] at hbound
    omega
  constructor
  · intro hvalid
    obtain ⟨-, -, -, padding, signature', hsignature', hdata⟩ := verificationData_of_validate hvalid
    have hkey' :=
      (drop_verificationData padding rootPublicKey (signedMessage d.rt proof) hsignature').1
    rw [← hdata, (drop_verificationData 0 key (signedMessage d.rt proof) hlength).1] at hkey'
    rw [← hkey, (List.append_inj hkey' (by simp)).1]
  · intro hroot
    obtain rfl : key = rootPublicKey := List.Vector.eq _ _ (hkey.trans hroot)
    exact validate_verificationData 0 key hlength hmessage

/-- An approval over the staged challenge is accepted with its verification instruction in front of
it exactly when the expiry, the relying party, the ceremony and the vault's key are right: the
challenge, the instruction and the message are. -/
theorem approval_accepted_iff (hprepared : PreparedFor d wallet userId prepared)
    (hkeys : setsUpVault prepared.payload = true → SameKeys wallet wallet')
    (hkey : compressedP256PublicKey wallet'.publicKeyX wallet'.publicKeyY =
      .ok proof.compressedPublicKey)
    (hbuild : buildInstruction d prepared wallet' proof = .ok call)
    (hverification : createSecp256r1Instruction d.rt proof = .ok verification)
    (hcluster : clusterDomain d = .ok config.clusterDomain.toList) (hindex : 0 < ctx.currentIndex)
    (hfront : ctx.instructions[ctx.currentIndex - 1]? = some verification)
    (hclient : d.rt.parseClientData proof.clientDataJson = some clientData)
    (hdecode : ∀ value, d.rt.decodeBase64Url (bytesToBase64Url value) = some value)
    (hchallenge : clientData.challenge = prepared.challengeB64Url) :
    ∃ action rootProof, call.rootAction? d.rt config = some action ∧
      call.rootProof? = some rootProof ∧
      ∀ now rootPublicKey, authorizeRoot d.rt config ctx now rootPublicKey action rootProof = .ok
        () ↔
        Acceptable d.rt config now rootPublicKey proof clientData rootProof.proofExpiresAt := by
  obtain ⟨action, hrebuilds⟩ := rebuilds_of_prepared hprepared hkeys
  obtain ⟨-, hproof, haction⟩ := hrebuilds.carried proof call hkey hbuild
  refine ⟨action, _, haction config hcluster, hproof, fun now rootPublicKey => ?_⟩
  have hvalid := validate_createSecp256r1Instruction hverification rootPublicKey
  have hminimum := ((createSecp256r1Instruction_eq_ok d.rt).mp hverification).1.authenticatorData
  rw [hrebuilds.challenge_eq] at hchallenge
  simp only [authorizeRoot, verifyRootAuthorization, validateAuthorizationExpiry,
    validateWebauthnData, bind_eq_ok,
    require_eq_ok, orError_eq_ok, exists_unit, hclient, Option.some.injEq, exists_eq_left',
    hchallenge, hdecode, hindex, hfront,
    true_and]
  rw [← signedMessage, hvalid]
  constructor
  · rintro ⟨htime, ⟨-, hrp, hflags, htype, hcross, horigin, -⟩, hroot⟩
    exact ⟨htime, hrp, hflags, htype, hcross, horigin, hroot⟩
  · intro h
    exact ⟨h.inTime, ⟨hminimum, h.rpIdHash, h.userVerified, h.ceremonyType, h.sameOrigin, h.origin,
      trivial⟩, h.rootKey⟩

end Acceptance

section Payments

variable {wallet : SmartWallet} {address : String} {vaultNonce : UInt64} {expiresAtUnix : ℤ}
  {prepared : PreparedAction}
  {proof : WebAuthnProof} {call : Call} {ctx : Context} {w w' : World}

theorem toNat_of_toU64 {value : ℤ} {n : UInt64} (h : toU64 value = some n) :
    (n.toNat : ℤ) = value := by
  unfold toU64 at h
  split at h
  · obtain rfl := Option.some.inj h
    rename_i hfits
    obtain ⟨hpositive, hbound⟩ := hfits
    rw [UInt64.toNat_ofNat']
    omega
  · cases h

theorem call_of_transfer {params : TransferParams}
    (hprepared : transferAction d params address vaultNonce expiresAtUnix = .ok prepared)
    (hcall : buildInstruction d prepared wallet proof = .ok call) :
    ∃ x vault source destination a args, params.amount = .finite x ∧
      newPublicKey address = .ok vault ∧
      SolanaChainService.vaultTokenAccount d address = .ok source ∧
      SolanaChainService.recipientTokenAccount d params.recipientAddress = .ok destination ∧
      call = .transferWithPasskey a args ∧ a.vault = vault ∧ a.vaultTokenAccount = source ∧
      a.destinationTokenAccount = destination ∧ (args.amount.toNat : ℤ) = atomicUnits 6 x ∧
      args.vaultNonce = vaultNonce := by
  simp only [transferAction, bind_eq_ok, pure_eq_ok] at hprepared
  obtain ⟨amountAtomic, hamount, vault, hvault, destination, hdestination, cluster, -, source,
    hsource, text, -, rfl⟩ := hprepared
  obtain ⟨x, hfinite, -, rfl⟩ := toAtomicUnits_ok hamount
  simp only [buildInstruction, bigInt_bigIntToString, hvault, hsource,
    newPublicKey_toBase58, ok_bind,
    createPasskeyTransferInstruction, u64Arg, toU64_toNat, orError_some] at hcall
  simp only [bind_eq_ok, orError_eq_ok, pure_eq_ok] at hcall
  obtain ⟨amount, hfits, rootProof, -, rfl⟩ := hcall
  exact ⟨x, vault, source, destination, _, _, hfinite, hvault, hsource, hdestination, rfl,
    rfl, rfl, rfl,
    toNat_of_toU64 hfits, rfl⟩

theorem call_of_solTransfer {params : SolTransferParams}
    (hprepared : solTransferAction d params address vaultNonce expiresAtUnix = .ok prepared)
    (hcall : buildInstruction d prepared wallet proof = .ok call) :
    ∃ x vault recipient a args, params.amount = .finite x ∧ newPublicKey address = .ok vault ∧
      newPublicKey params.recipientAddress = .ok recipient ∧ call = .transferSolWithPasskey a args ∧
      a.vault = vault ∧
      a.recipient = recipient ∧ (args.amount.toNat : ℤ) = atomicUnits 9 x ∧
      args.vaultNonce = vaultNonce := by
  simp only [solTransferAction, bind_eq_ok, pure_eq_ok] at hprepared
  obtain ⟨amountLamports, hamount, vault, hvault, recipient, hrecipient, cluster, -, text, -,
    rfl⟩ := hprepared
  obtain ⟨x, hfinite, -, rfl⟩ := toAtomicUnits_ok hamount
  simp only [buildInstruction, bigInt_bigIntToString, hvault, newPublicKey_toBase58, ok_bind,
    createSolPasskeyTransferInstruction, u64Arg, toU64_toNat, orError_some] at hcall
  simp only [bind_eq_ok, orError_eq_ok, pure_eq_ok] at hcall
  obtain ⟨amount, hfits, rootProof, -, rfl⟩ := hcall
  exact ⟨x, vault, recipient, _, _, hfinite, hvault, hrecipient, rfl, rfl, rfl,
    toNat_of_toU64 hfits, rfl⟩

/-- The vault had the nonce that was prepared for, and has the next one. -/
def NonceUsed (w w' : World) (key : Pubkey) (nonce : UInt64) : Prop :=
  ∃ (vault : Vault) (next : UInt64), w.data key = .vault vault ∧ vault.nonce = nonce ∧
  next.toNat = nonce.toNat + 1 ∧
    w'.data key = .vault { vault with nonce := next }

theorem nonceUsed_of_rootUse {config : ProtocolConfig} {vault : Vault} {action : RootAction}
    {rootProof : RootProof} {nonce : UInt64}
    (huse : RootUse d.rt ctx w w' action rootProof config vault)
    (hnonce : action.consumedNonce = some nonce) :
    NonceUsed w w' action.vault nonce := by
  obtain ⟨next, hnext, hafter⟩ := huse.after
  obtain rfl : nonce = vault.nonce := Option.some.inj (hnonce.symm.trans huse.nonce_eq)
  exact ⟨vault, next, huse.before, rfl, hnext, hafter⟩

/-- A payment that is executed as it was prepared takes the amount that was asked for, in the
smallest unit and rounded to the nearest, from the wallet's vault to the recipient, and uses up the
nonce that it was prepared for. -/
theorem approved_payment_pays :
    (∀ params : TransferParams, transferAction d params address vaultNonce expiresAtUnix =
      .ok prepared →
      buildInstruction d prepared wallet proof = .ok call → exec d.rt ctx call w = .ok w' →
      ∃ x vault source destination, params.amount = .finite x ∧ newPublicKey address = .ok vault ∧
        SolanaChainService.vaultTokenAccount d address = .ok source ∧
        SolanaChainService.recipientTokenAccount d params.recipientAddress = .ok destination ∧
        TokenFlow w w' source destination (atomicUnits 6 x).toNat ∧
        NonceUsed w w' vault vaultNonce ∧
        Frame w w' [vault] [source] []) ∧
    ∀ params : SolTransferParams, solTransferAction d params address vaultNonce expiresAtUnix =
      .ok prepared →
      buildInstruction d prepared wallet proof = .ok call → exec d.rt ctx call w = .ok w' →
      ∃ x vault recipient, params.amount = .finite x ∧ newPublicKey address = .ok vault ∧
        newPublicKey params.recipientAddress = .ok recipient ∧
        LamportFlow w w' vault recipient (atomicUnits 9 x).toNat ∧ NonceUsed w w' vault vaultNonce ∧
        Frame w w' [vault] [] [vault] := by
  constructor
  · intro params hprepared hcall hexec
    obtain ⟨x, vault, source, destination, a, args, hfinite, hvault, hsource, hdestination, rfl,
      rfl, rfl, rfl, hamount, rfl⟩ :=
      call_of_transfer hprepared hcall
    obtain ⟨config, v, huse, -, hflow, hframe⟩ := transferWithPasskey_ok hexec
    rw [show args.amount.toNat = (atomicUnits 6 x).toNat by omega] at hflow
    exact ⟨x, _, _, _, hfinite, hvault, hsource, hdestination, hflow,
      nonceUsed_of_rootUse huse rfl, hframe⟩
  · intro params hprepared hcall hexec
    obtain ⟨x, vault, recipient, a, args, hfinite, hvault, hrecipient, rfl, rfl, rfl,
      hamount, rfl⟩ :=
      call_of_solTransfer hprepared hcall
    obtain ⟨config, v, huse, hflow, -, hframe⟩ := transferSolWithPasskey_ok hexec
    rw [show args.amount.toNat = (atomicUnits 9 x).toNat by omega] at hflow
    exact ⟨x, _, _, hfinite, hvault, hrecipient, hflow, nonceUsed_of_rootUse huse rfl, hframe⟩

end Payments

end SolanaPasskeyExecutionService

end VeriAgentPay.Backend

/-! An approval on the concrete ledger: a hundredth of a SOL for another account. -/

namespace VeriAgentPay.Devnet
open FixedWidth CheckedOutcome Client Backend SolanaPasskeyExecutionService

def approvalAction : RootAction := .transferSol scope vault secondPayer 10000000 1 1750000300

def approvalDigest : FixedBytes 32 :=
  beBytes 32 0x929c6bcf99e031f30277e60d4c107a15aee7e67cc867be88e90e88d2c09560e3

def approvalChallenge : String := "kpxrz5ngMfMCd-YNTBB6Fa7n5nzIZ76I6Q6I0sCVYOM"

def approvalDigests : List (Bytes × FixedBytes 32) :=
  [(utf8 "EtWTRABZaYq6iMfeYKouRu166VU2xqa1wcaWoxPkrZBG", clusterDomain),
    (approvalAction.preimage, approvalDigest),
    (clientDataJson approvalChallenge,
      beBytes 32 0x23e4aec71ba00861dea6ee37fbf026a238b2cba85d1e64d278d788b72f3adbba),
    (utf8 "credential-1",
      beBytes 32 0x25c4cf0ea3186c73f8cfb9ef48ebea06efc504eaf8519fcc07bb7264ebb7c491)]

def approvalRuntime : Runtime :=
  { backendRuntime with
    sha256 := fun bytes => (approvalDigests.lookup bytes).getD (backendRuntime.sha256 bytes)
    parseClientData :=
      fun bytes => [(clientDataJson approvalChallenge, clientData approvalChallenge)].lookup bytes
    decodeBase64Url := fun text => some (base64UrlToBuffer text) }

def approvalDeployment : Deployment :=
  { deployment with
    rt := approvalRuntime
    clientDataChallenge :=
      fun bytes => .ok ((approvalRuntime.parseClientData bytes).map (·.challenge))
    configAddress_eq := deployment.configAddress_eq
    claimAuthorityConfigAddress_eq := deployment.claimAuthorityConfigAddress_eq }

def approvalWallet : SmartWallet :=
  { address := toBase58 vault, salt := ""
    publicKeyX := "82851035601072098027859560729050885706098704222822645919179180908886898151369"
    publicKeyY := "113181088375951374080122369258051471989181824684618374254477170215558252181425" }

def approvalParams : SolTransferParams :=
  { userId := "user-1", recipientAddress := toBase58 secondPayer, amount := .finite (1 / 100) }

def approval : PreparedAction :=
  { userId := "user-1", vaultAddress := toBase58 vault, challengeB64Url := approvalChallenge
    expiresAtUnix := bigIntToString 1750000300, sessionKeyId := none
    payload := .solTransfer (toBase58 secondPayer) (bigIntToString 10000000) (bigIntToString 1) }

def approvalProof : WebAuthnProof :=
  ⟨rootPublicKey.toList, authenticatorData 7, clientDataJson approvalChallenge, Der.signature 1 1⟩

theorem approvalCluster :
    SolanaPasskeyExecutionService.clusterDomain approvalDeployment = .ok clusterDomain.toList := by
  decide +kernel

theorem approval_prepared :
    solTransferAction approvalDeployment approvalParams approvalWallet.address 1 1750000300 =
      .ok approval := by
  have hamount : SolanaPasskeyExecutionService.solToLamports (.finite (1 / 100)) =
      .ok 10000000 := by decide +kernel
  have hchallenge : challengeText (solTransferChallenge approvalRuntime.sha256
      { clusterDomain := clusterDomain.toList, programId := programId, config := config
        vault := vault
        recipient := secondPayer, amountLamports := 10000000, vaultNonce := 1, expiresAtUnix :=
          1750000300 }) =
      .ok approvalChallenge := by
    decide +kernel
  simp only [solTransferAction, approvalParams, approvalWallet, hamount, ok_bind,
    newPublicKey_toBase58, approvalCluster]
  rw [bind_eq_ok]
  exact ⟨_, hchallenge, rfl⟩

theorem approval_preparedFor :
    PreparedFor approvalDeployment approvalWallet approvalParams.userId approval :=
  .solTransfer approval_prepared

theorem approvalKey : compressedP256PublicKey approvalWallet.publicKeyX approvalWallet.publicKeyY =
    .ok approvalProof.compressedPublicKey := by
  decide +kernel

theorem prepared_action_executes_devnet :
    PreparedAction.ofJson approval.toJson = some approval ∧
      ∃ action, Rebuilds approvalDeployment approval approvalWallet action :=
  prepared_action_executes approval_preparedFor fun h => by cases h

def approvalCall : Call :=
  .transferSolWithPasskey
    { payer := payer, config := config, vault := vault, recipient := secondPayer }
    { proofExpiresAt := 1750000300, authenticatorData := approvalProof.authenticatorData
      clientDataJson := approvalProof.clientDataJson, amount := 10000000, vaultNonce := 1 }

theorem approval_built :
    buildInstruction approvalDeployment approval approvalWallet approvalProof =
      .ok approvalCall := by
  have hproof :
      rootProofArg ⟨1750000300, approvalProof.authenticatorData, approvalProof.clientDataJson⟩ =
      .ok ⟨1750000300, approvalProof.authenticatorData, approvalProof.clientDataJson⟩ :=
    rootProofArg_ok (by decide +kernel) ⟨by decide +kernel, by decide +kernel⟩
  have hamount : u64Arg 10000000 = .ok 10000000 := by decide +kernel
  have hnonce : u64Arg 1 = .ok 1 := by decide +kernel
  simp only [buildInstruction, approval, bigInt_bigIntToString, newPublicKey_toBase58, ok_bind,
    Backend.createSolPasskeyTransferInstruction, hproof, hamount, hnonce]
  rfl

/-- Signed by the vault's key and sent in time, the approval is accepted. -/
theorem approval_accepted_iff_devnet : ∃ ctx action rootProof,
    authorizeRoot approvalRuntime protocolConfig ctx now rootPublicKey action rootProof =
      .ok () := by
  have hverifies : (createSecp256r1Instruction approvalRuntime approvalProof).toBool = true := by
    decide +kernel
  obtain ⟨verification, hverification⟩ := eq_ok_of_toBool hverifies
  have hcluster : SolanaPasskeyExecutionService.clusterDomain approvalDeployment =
      .ok protocolConfig.clusterDomain.toList :=
    approvalCluster
  obtain ⟨ctx, hindex, hfront⟩ : ∃ ctx : Context, 0 < ctx.currentIndex ∧
      ctx.instructions[ctx.currentIndex - 1]? = some verification :=
        ⟨⟨[], [verification], 1⟩, Nat.one_pos, rfl⟩
  have hclient : approvalRuntime.parseClientData approvalProof.clientDataJson = some
      (clientData approvalChallenge) := by
    decide +kernel
  obtain ⟨action, rootProof, haction, hproof, haccepted⟩ :=
    approval_accepted_iff approval_preparedFor
    (fun h => by cases h) approvalKey approval_built hverification hcluster hindex hfront hclient
    (fun value => congrArg some (base64UrlToBuffer_bytesToBase64Url value)) rfl
  obtain rfl := Option.some.inj hproof
  have horigin : approvalRuntime.sha256 "http://localhost:3000".toUTF8.toList = originHash := by
    decide +kernel
  exact ⟨_, action, _, (haccepted now rootPublicKey).mpr
    ⟨by decide +kernel, by decide +kernel, by decide +kernel, rfl, by decide, horigin, rfl⟩⟩

/-- The approval's transaction: the verification instruction and the program call. -/
def approvalContext : Context :=
  { signers := [payer]
    instructions :=
      [verification (List.Vector.replicate 64 1) (signedMessage approvalRuntime approvalProof),
        ⟨programId, [], []⟩]
    currentIndex := 1 }

/-- The hundredth of a SOL arrives. -/
theorem approved_payment_pays_devnet :
    ∃ w', exec approvalRuntime approvalContext approvalCall opened = .ok w' ∧
    LamportFlow opened w' vault secondPayer 10000000 ∧ NonceUsed opened w' vault 1 := by
  have hexec : (exec approvalRuntime approvalContext approvalCall opened).toBool = true := by
    decide +kernel
  obtain ⟨w', hexec⟩ := eq_ok_of_toBool hexec
  obtain ⟨x, key, recipient, hamount, hvault, hrecipient, hflow, hnonce, -⟩ :=
    approved_payment_pays.2 approvalParams approval_prepared approval_built hexec
  obtain rfl : 1 / 100 = x := JsNumber.finite.inj hamount
  obtain rfl : vault = key := Except.ok.inj ((newPublicKey_toBase58 vault).symm.trans hvault)
  obtain rfl : secondPayer = recipient :=
    Except.ok.inj ((newPublicKey_toBase58 secondPayer).symm.trans hrecipient)
  have hlamports : (atomicUnits 9 (1 / 100)).toNat = 10000000 := by decide +kernel
  exact ⟨w', hexec, hlamports ▸ hflow, hnonce⟩

end VeriAgentPay.Devnet
