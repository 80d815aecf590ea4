import VeriAgentPay.RootAuthorization

/-!
# The seven root-authorised actions and the bytes their challenges hash

One constructor for each instruction that asks for a root proof, with the values its
challenge commits to. The layouts are bare concatenations: no field carries its length.
What makes them readable back is that every field has a fixed width and that the action
byte stands at one offset in all of them.
-/

namespace VeriAgentPay
open FixedWidth

/-- What every challenge opens with, apart from the action byte. -/
structure ActionScope where
  clusterDomain : FixedBytes 32
  programId : Pubkey
  config : Pubkey
  deriving DecidableEq

/-- The session policy as an instruction's arguments carry it. -/
@[ext] structure SessionPolicy where
  sessionPublicKey : Pubkey
  actionBitmap : UInt16
  perActionLimit : UInt64
  cumulativeLimit : UInt64
  validAfter : Int64
  validUntil : Int64
  deriving DecidableEq

inductive RootAction where
  | initializeVault (scope : ActionScope) (vault vaultTokenAccount : Pubkey)
      (rootPublicKey : FixedBytes 33) (rootKeyHash userSalt : FixedBytes 32)
        (proofExpiresAt : Int64)
  | grantSession (scope : ActionScope) (vault session : Pubkey) (policy : SessionPolicy)
      (vaultNonce : UInt64) (proofExpiresAt : Int64)
  | transfer (scope : ActionScope) (vault vaultTokenAccount destinationTokenAccount stablecoinMint :
      Pubkey)
      (amount vaultNonce : UInt64) (proofExpiresAt : Int64)
  | initializeVaultAndGrantSession (scope : ActionScope)
      (vault session vaultTokenAccount stablecoinMint : Pubkey) (rootPublicKey : FixedBytes 33)
      (rootKeyHash userSalt : FixedBytes 32) (policy : SessionPolicy) (proofExpiresAt : Int64)
  | transferSol (scope : ActionScope) (vault recipient : Pubkey) (amount vaultNonce : UInt64)
      (proofExpiresAt : Int64)
  | createSolPaymentLink (scope : ActionScope) (vault paymentLink : Pubkey)
      (linkId recipientCommitment : FixedBytes 32) (amount : UInt64) (expiresAt : Int64)
      (vaultNonce : UInt64) (proofExpiresAt : Int64)
  | cancelSolPaymentLink (scope : ActionScope) (vault paymentLink : Pubkey) (vaultNonce : UInt64)
      (proofExpiresAt : Int64)
  deriving DecidableEq

namespace RootAction

def scope : RootAction → ActionScope
  | initializeVault s .. | grantSession s .. | transfer s .. | initializeVaultAndGrantSession s ..
  | transferSol s .. | createSolPaymentLink s .. | cancelSolPaymentLink s .. => s

def vault : RootAction → Pubkey
  | initializeVault _ v .. | grantSession _ v .. | transfer _ v ..
  | initializeVaultAndGrantSession _ v .. | transferSol _ v .. | createSolPaymentLink _ v ..
  | cancelSolPaymentLink _ v .. => v

def actionByte : RootAction → UInt8
  | initializeVault .. => actionInitializeVault
  | grantSession .. => actionGrantSession
  | transfer .. => actionTransfer
  | initializeVaultAndGrantSession .. => actionInitializeVaultAndGrantSession
  | transferSol .. => actionTransferSol
  | createSolPaymentLink .. => actionCreateSolPaymentLink
  | cancelSolPaymentLink .. => actionCancelSolPaymentLink

def proofExpiresAt : RootAction → Int64
  | initializeVault _ _ _ _ _ _ t | grantSession _ _ _ _ _ t | transfer _ _ _ _ _ _ _ t
  | initializeVaultAndGrantSession _ _ _ _ _ _ _ _ _ t | transferSol _ _ _ _ _ t
  | createSolPaymentLink _ _ _ _ _ _ _ _ t | cancelSolPaymentLink _ _ _ _ t => t

/-- The vault nonce the action consumes; the two initialisations hash a zero and consume none. -/
def consumedNonce : RootAction → Option UInt64
  | initializeVault .. | initializeVaultAndGrantSession .. => none
  | grantSession _ _ _ _ n _ | transfer _ _ _ _ _ _ n _ | transferSol _ _ _ _ n _
  | createSolPaymentLink _ _ _ _ _ _ _ n _ | cancelSolPaymentLink _ _ _ n _ => some n

/-- What follows the action byte and the config key, in the order each handler lists it. -/
def tailParts : RootAction → List Bytes
  | initializeVault _ vault vaultTokenAccount rootPublicKey rootKeyHash userSalt proofExpiresAt =>
    [vault.toList, vaultTokenAccount.toList, rootPublicKey.toList, rootKeyHash.toList,
      userSalt.toList,
      u64ToLeBytes 0, i64ToLeBytes proofExpiresAt]
  | grantSession _ vault session policy vaultNonce proofExpiresAt =>
    [vault.toList, session.toList, policy.sessionPublicKey.toList, u16ToLeBytes policy.actionBitmap,
      u64ToLeBytes policy.perActionLimit, u64ToLeBytes policy.cumulativeLimit,
      i64ToLeBytes policy.validAfter, i64ToLeBytes policy.validUntil, u64ToLeBytes vaultNonce,
      i64ToLeBytes proofExpiresAt]
  | transfer _ vault vaultTokenAccount destinationTokenAccount stablecoinMint amount vaultNonce
      proofExpiresAt =>
    [vault.toList, vaultTokenAccount.toList, destinationTokenAccount.toList, stablecoinMint.toList,
      u64ToLeBytes amount, u64ToLeBytes vaultNonce, i64ToLeBytes proofExpiresAt]
  | initializeVaultAndGrantSession _ vault session vaultTokenAccount stablecoinMint rootPublicKey
      rootKeyHash userSalt policy proofExpiresAt =>
    [vault.toList, session.toList, vaultTokenAccount.toList, stablecoinMint.toList,
      rootPublicKey.toList, rootKeyHash.toList, userSalt.toList, policy.sessionPublicKey.toList,
      u16ToLeBytes policy.actionBitmap, u64ToLeBytes policy.perActionLimit,
      u64ToLeBytes policy.cumulativeLimit, i64ToLeBytes policy.validAfter,
      i64ToLeBytes policy.validUntil, u64ToLeBytes 0, i64ToLeBytes proofExpiresAt]
  | transferSol _ vault recipient amount vaultNonce proofExpiresAt =>
    [vault.toList, recipient.toList, u64ToLeBytes amount, u64ToLeBytes vaultNonce,
      i64ToLeBytes proofExpiresAt]
  | createSolPaymentLink _ vault paymentLink linkId recipientCommitment amount expiresAt vaultNonce
      proofExpiresAt =>
    [vault.toList, paymentLink.toList, linkId.toList, recipientCommitment.toList,
      u64ToLeBytes amount,
      i64ToLeBytes expiresAt, u64ToLeBytes vaultNonce, i64ToLeBytes proofExpiresAt]
  | cancelSolPaymentLink _ vault paymentLink vaultNonce proofExpiresAt =>
    [vault.toList, paymentLink.toList, u64ToLeBytes vaultNonce, i64ToLeBytes proofExpiresAt]

/-- The parts a handler passes to `challenge`. -/
def parts (action : RootAction) : List Bytes :=
  [action.scope.clusterDomain.toList, action.scope.programId.toList, [action.actionByte],
    action.scope.config.toList] ++ action.tailParts

def preimage (action : RootAction) : Bytes := challengePreimage action.parts

/-- The action byte fixes the widths of all the fields. -/
theorem tailParts_lengths {a b : RootAction} (h : a.actionByte = b.actionByte) :
    a.tailParts.map List.length = b.tailParts.map List.length := by
  cases a <;> cases b <;>
    first | (simp [tailParts]; done) | (simp only [actionByte] at h; contradiction)

/-- The four opening fields are the same bytes in both preimages. -/
theorem head_eq_of_preimage_eq {a b : RootAction} (h : a.preimage = b.preimage) :
    a.scope = b.scope ∧ a.actionByte = b.actionByte ∧
    a.tailParts.flatten = b.tailParts.flatten := by
  simp only [preimage, challengePreimage, parts, List.flatten_cons, List.cons_append,
    List.nil_append] at h
  have hdomain := List.append_cancel_left h
  obtain ⟨hcluster, h⟩ := List.append_inj hdomain (by simp)
  obtain ⟨hprogram, h⟩ := List.append_inj h (by simp)
  obtain ⟨hbyte, h⟩ := List.cons.inj h
  obtain ⟨hconfig, htail⟩ := List.append_inj h (by simp)
  refine ⟨?_, hbyte, htail⟩
  have hscope : ∀ s t : ActionScope, s.clusterDomain.toList = t.clusterDomain.toList →
      s.programId.toList = t.programId.toList → s.config.toList = t.config.toList → s = t := by
    intro s t hc hp hk
    cases s
    cases t
    simp only [ActionScope.mk.injEq]
    exact ⟨List.Vector.eq _ _ hc, List.Vector.eq _ _ hp, List.Vector.eq _ _ hk⟩
  exact hscope _ _ hcluster hprogram hconfig

theorem tailParts_injective {a b : RootAction} (hscope : a.scope = b.scope)
    (hbyte : a.actionByte = b.actionByte) (h : a.tailParts = b.tailParts) : a = b := by
  have hbytes : ∀ {n : ℕ} {x y : FixedBytes n}, x.toList = y.toList ↔ x = y :=
    fun {_ _ _} => ⟨List.Vector.eq _ _, fun h => h ▸ rfl⟩
  cases a <;> cases b <;>
    first
    | (simp only [actionByte] at hbyte; contradiction)
    | (simp only [scope] at hscope
       simp only [tailParts, List.cons.injEq, hbytes, u16ToLeBytes_injective.eq_iff,
         u64ToLeBytes_injective.eq_iff, i64ToLeBytes_injective.eq_iff] at h
       simp_all [SessionPolicy.ext_iff])

/-- Equal preimages come from one action with one set of values. -/
theorem preimage_injective : Function.Injective preimage := by
  intro a b h
  obtain ⟨hscope, hbyte, htail⟩ := head_eq_of_preimage_eq h
  exact tailParts_injective hscope hbyte
    (List.eq_iff_flatten_eq.mpr ⟨htail, tailParts_lengths hbyte⟩)

end RootAction

end VeriAgentPay
