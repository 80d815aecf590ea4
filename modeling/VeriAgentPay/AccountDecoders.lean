import VeriAgentPay.BorshReaders
import VeriAgentPay.LedgerRuns
import VeriAgentPay.ScriptValues

/-!
# Decoding the program's accounts

An account's data is the discriminator of its type and the Borsh fields of its record. The
client library slices the fields out at written offsets once the data is long enough for the
record; what stands in the discriminator it never looks at.
-/

namespace VeriAgentPay.Backend
open FixedWidth CheckedOutcome Client Borsh

section Serialization

/-- A record of one of the program's account types. -/
inductive AccountRecord where
  | protocolConfig (c : ProtocolConfig)
  | vault (v : Vault)
  | session (s : Session)
  | claimAuthorityConfig (c : ClaimAuthorityConfig)
  | paymentLink (l : PaymentLink)

namespace AccountRecord

def name : AccountRecord → String
  | protocolConfig _ => "ProtocolConfig"
  | vault _ => "Vault"
  | session _ => "Session"
  | claimAuthorityConfig _ => "ClaimAuthorityConfig"
  | paymentLink _ => "PaymentLink"

/-- The fields in the order of `state.rs`. -/
def fields : AccountRecord → List Bytes
  | protocolConfig c =>
    [[c.version], [c.bump], [c.paused.toUInt8], c.authority.toList, c.stablecoinMint.toList,
      c.rpIdHash.toList,
      c.originHash.toList, c.clusterDomain.toList]
  | vault v =>
    [[v.version], [v.bump], v.rootPublicKey.toList, v.rootKeyHash.toList, v.userSalt.toList,
      u64ToLeBytes v.nonce,
      i64ToLeBytes v.createdAt]
  | session s =>
    [[s.version], [s.bump], [s.revoked.toUInt8], s.vault.toList, s.publicKey.toList,
      u16ToLeBytes s.actionBitmap,
      u64ToLeBytes s.perActionLimit, u64ToLeBytes s.cumulativeLimit, u64ToLeBytes s.spent,
      i64ToLeBytes s.validAfter,
      i64ToLeBytes s.validUntil, u64ToLeBytes s.nonce]
  | claimAuthorityConfig c => [[c.version], [c.bump], c.authority.toList]
  | paymentLink l =>
    [[l.version], [l.bump], [l.status], l.senderVault.toList, l.mint.toList, l.linkId.toList,
      l.recipientCommitment.toList, u64ToLeBytes l.amount, i64ToLeBytes l.expiresAt,
      i64ToLeBytes l.createdAt,
      i64ToLeBytes l.settledAt, l.claimedDestination.toList]

/-- The first eight bytes of the hash of the account type's name. -/
def discriminator (rt : Runtime) (r : AccountRecord) : Bytes :=
  (rt.sha256 (utf8 ("account:" ++ r.name))).toList.take 8

/-- The data of an account: `space = 8 + INIT_SPACE` leaves no byte behind the fields. -/
def serialize (rt : Runtime) (r : AccountRecord) : Bytes := (r.discriminator rt :: r.fields).flatten

def size : AccountRecord → ℕ
  | protocolConfig _ => 171
  | vault _ => 123
  | session _ => 125
  | claimAuthorityConfig _ => 42
  | paymentLink _ => 203

theorem length_discriminator (rt : Runtime) (r : AccountRecord) :
    (r.discriminator rt).length = 8 := by
  simp [discriminator]

theorem length_serialize (rt : Runtime) (r : AccountRecord) : (r.serialize rt).length = r.size := by
  cases r <;> simp [serialize, fields, size, length_discriminator]

end AccountRecord

end Serialization

section Decoders

def vaultNonceOffset : ℕ := 8 + 1 + 1 + 33 + 32 + 32
def vaultAccountSize : ℕ := vaultNonceOffset + 8 + 8
def sessionNonceOffset : ℕ := 8 + 1 + 1 + 1 + 32 + 32 + 2 + 8 + 8 + 8 + 8 + 8
def sessionAccountSize : ℕ := sessionNonceOffset + 8
def paymentLinkAmountOffset : ℕ := 8 + 1 + 1 + 1 + 32 + 32 + 32 + 32
def paymentLinkAccountSize : ℕ := paymentLinkAmountOffset + 8 + 8 + 8 + 8 + 32

def slice (data : Bytes) (start stop : ℕ) : Bytes := (data.drop start).take (stop - start)

/-- `DataView.getUint16`, `getBigUint64` and `getBigInt64`, little-endian. -/
def getUint16 (data : Bytes) (offset : ℕ) : ℕ := leValue (slice data offset (offset + 2))

def getBigUint64 (data : Bytes) (offset : ℕ) : ℤ := leValue (slice data offset (offset + 8))

def getBigInt64 (data : Bytes) (offset : ℕ) : ℤ :=
  let n := getBigUint64 data offset
  if n < 2 ^ 63 then n else n - 2 ^ 64

/-- `new PublicKey(bytes)`. -/
def publicKeyOf (bytes : Bytes) : Except Failure Pubkey :=
  orError (toFixed 32 bytes) (.error "Invalid public key input")

structure DecodedVault where
  version : UInt8
  bump : UInt8
  rootPublicKey : Bytes
  rootKeyHash : Bytes
  userSalt : Bytes
  nonce : ℤ
  createdAt : ℤ

structure DecodedSession where
  version : UInt8
  bump : UInt8
  revoked : Bool
  vault : Pubkey
  publicKey : Pubkey
  actionBitmap : ℕ
  perActionLimit : ℤ
  cumulativeLimit : ℤ
  spent : ℤ
  validAfter : ℤ
  validUntil : ℤ
  nonce : ℤ

structure DecodedPaymentLink where
  version : UInt8
  bump : UInt8
  status : UInt8
  senderVault : Pubkey
  mint : Pubkey
  linkId : Bytes
  recipientCommitment : Bytes
  amount : ℤ
  expiresAt : ℤ
  createdAt : ℤ
  settledAt : ℤ
  claimedDestination : Pubkey

def decodeVaultAccount (data : Bytes) : Except Failure DecodedVault := do
  require (¬data.length < vaultAccountSize) (.error "Vault account data is truncated")
  pure
    { version := data.getD 8 0
      bump := data.getD 9 0
      rootPublicKey := slice data 10 43
      rootKeyHash := slice data 43 75
      userSalt := slice data 75 107
      nonce := getBigUint64 data vaultNonceOffset
      createdAt := getBigInt64 data (vaultNonceOffset + 8) }

def decodeSessionAccount (data : Bytes) : Except Failure DecodedSession := do
  require (¬data.length < sessionAccountSize) (.error "Session account data is truncated")
  let vault ← publicKeyOf (slice data 11 43)
  let publicKey ← publicKeyOf (slice data 43 75)
  pure
    { version := data.getD 8 0
      bump := data.getD 9 0
      revoked := data.getD 10 0 = 1
      vault := vault
      publicKey := publicKey
      actionBitmap := getUint16 data 75
      perActionLimit := getBigUint64 data 77
      cumulativeLimit := getBigUint64 data 85
      spent := getBigUint64 data 93
      validAfter := getBigInt64 data 101
      validUntil := getBigInt64 data 109
      nonce := getBigUint64 data sessionNonceOffset }

def decodePaymentLinkAccount (data : Bytes) : Except Failure DecodedPaymentLink := do
  require (¬data.length < paymentLinkAccountSize) (.error "Payment-link account data is truncated")
  let senderVault ← publicKeyOf (slice data 11 43)
  let mint ← publicKeyOf (slice data 43 75)
  let claimedDestination ← publicKeyOf
    (slice data (paymentLinkAmountOffset + 32) (paymentLinkAmountOffset + 64))
  pure
    { version := data.getD 8 0
      bump := data.getD 9 0
      status := data.getD 10 0
      senderVault := senderVault
      mint := mint
      linkId := slice data 75 107
      recipientCommitment := slice data 107 139
      amount := getBigUint64 data paymentLinkAmountOffset
      expiresAt := getBigInt64 data (paymentLinkAmountOffset + 8)
      createdAt := getBigInt64 data (paymentLinkAmountOffset + 16)
      settledAt := getBigInt64 data (paymentLinkAmountOffset + 24)
      claimedDestination := claimedDestination }

end Decoders

section Inverse

variable {f b : List Bytes} {field : Bytes} {start stop : ℕ}

theorem slice_field (hstart : f.flatten.length = start) (hstop : start + field.length = stop) :
    slice (f ++ field :: b).flatten start stop = field :=
  slice_flatten hstart (by omega)

theorem getD_field {x : UInt8} (hstart : f.flatten.length = start) :
    (f ++ [x] :: b).flatten.getD start 0 = x := by
  subst hstart
  simp

theorem flag_field {x : Bool} (hstart : f.flatten.length = start) :
    decide ((f ++ [x.toUInt8] :: b).flatten.getD start 0 = 1) = x := by
  rw [getD_field hstart]
  cases x <;> rfl

theorem getBigUint64_field {n : UInt64} (hstart : f.flatten.length = start) :
    getBigUint64 (f ++ u64ToLeBytes n :: b).flatten start = n.toNat := by
  have hlt : n.toNat < 256 ^ 8 := n.toNat_lt
  rw [getBigUint64, slice_field hstart (by simp), u64ToLeBytes, leValue, ofDigits_leBytes,
    Nat.mod_eq_of_lt hlt]

theorem getBigInt64_field {n : Int64} (hstart : f.flatten.length = start) :
    getBigInt64 (f ++ i64ToLeBytes n :: b).flatten start = n.toInt := by
  have hbits := toNat_int64_bits n
  have hlow := n.le_toInt
  have hhigh := n.toInt_lt
  have hread : getBigUint64 (f ++ i64ToLeBytes n :: b).flatten start = n.toUInt64.toNat :=
    getBigUint64_field (n := n.toUInt64) hstart
  rw [getBigInt64, hread]
  split <;> omega

theorem getUint16_field {n : UInt16} (hstart : f.flatten.length = start) :
    getUint16 (f ++ u16ToLeBytes n :: b).flatten start = n.toNat := by
  have hlt : n.toNat < 256 ^ 2 := n.toNat_lt
  rw [getUint16, slice_field hstart (by simp), u16ToLeBytes, leValue, ofDigits_leBytes,
    Nat.mod_eq_of_lt hlt]

theorem publicKeyOf_field {key : Pubkey} (hstart : f.flatten.length = start)
    (hstop : start + 32 = stop) :
    publicKeyOf (slice (f ++ key.toList :: b).flatten start stop) = .ok key := by
  rw [slice_field hstart (by simpa using hstop), publicKeyOf, toFixed_toList]
  rfl

/-- The fields of a record, as the decoders return them. -/
def DecodedVault.of (v : Vault) : DecodedVault :=
  { version := v.version, bump := v.bump, rootPublicKey := v.rootPublicKey.toList
    rootKeyHash := v.rootKeyHash.toList
    userSalt := v.userSalt.toList, nonce := v.nonce.toNat, createdAt := v.createdAt.toInt }

def DecodedSession.of (s : Session) : DecodedSession :=
  { version := s.version, bump := s.bump, revoked := s.revoked, vault := s.vault
    publicKey := s.publicKey
    actionBitmap := s.actionBitmap.toNat, perActionLimit := s.perActionLimit.toNat
    cumulativeLimit := s.cumulativeLimit.toNat, spent := s.spent.toNat, validAfter :=
      s.validAfter.toInt
    validUntil := s.validUntil.toInt, nonce := s.nonce.toNat }

def DecodedPaymentLink.of (l : PaymentLink) : DecodedPaymentLink :=
  { version := l.version, bump := l.bump, status := l.status, senderVault := l.senderVault
    mint := l.mint
    linkId := l.linkId.toList, recipientCommitment := l.recipientCommitment.toList, amount :=
      l.amount.toNat
    expiresAt := l.expiresAt.toInt, createdAt := l.createdAt.toInt, settledAt := l.settledAt.toInt
    claimedDestination := l.claimedDestination }

theorem decodeVaultAccount_serialize (rt : Runtime) (v : Vault) :
    decodeVaultAccount ((AccountRecord.vault v).serialize rt) = .ok (.of v) := by
  have hd := AccountRecord.length_discriminator rt (.vault v)
  have hsize : ¬((AccountRecord.vault v).serialize rt).length < vaultAccountSize := by
    rw [AccountRecord.length_serialize]
    exact lt_irrefl 123
  rw [decodeVaultAccount, CheckedOutcome.require, if_pos hsize, AccountRecord.serialize,
    AccountRecord.fields]
  generalize (AccountRecord.vault v).discriminator rt = d at hd
  refine congrArg Except.ok ?_
  rw [DecodedVault.of, DecodedVault.mk.injEq]
  refine ⟨getD_field (f := [d]) ?_, getD_field (f := [d, _]) ?_, slice_field (f := [d, _, _]) ?_ ?_,
    slice_field (f := [d, _, _, _]) ?_ ?_, slice_field (f := [d, _, _, _, _]) ?_ ?_,
    getBigUint64_field (f := [d, _, _, _, _, _]) ?_,
    getBigInt64_field (f := [d, _, _, _, _, _, _]) ?_⟩ <;>
  simp [hd, vaultNonceOffset]

theorem decodeSessionAccount_serialize (rt : Runtime) (s : Session) :
    decodeSessionAccount ((AccountRecord.session s).serialize rt) = .ok (.of s) := by
  have hd := AccountRecord.length_discriminator rt (.session s)
  have hsize : ¬((AccountRecord.session s).serialize rt).length < sessionAccountSize := by
    rw [AccountRecord.length_serialize]
    exact lt_irrefl 125
  simp only [decodeSessionAccount, bind_eq_ok, require_eq_ok, exists_unit, pure_eq_ok]
  refine ⟨hsize, s.vault, ?_, s.publicKey, ?_, ?_⟩
  all_goals
    rw [AccountRecord.serialize, AccountRecord.fields]
    generalize (AccountRecord.session s).discriminator rt = d at hd
  · refine publicKeyOf_field (f := [d, _, _, _]) ?_ rfl
    simp [hd]
  · refine publicKeyOf_field (f := [d, _, _, _, _]) ?_ rfl
    simp [hd]
  · rw [DecodedSession.of, DecodedSession.mk.injEq]
    refine ⟨getD_field (f := [d]) ?_, getD_field (f := [d, _]) ?_,
      flag_field (f := [d, _, _]) ?_, rfl, rfl,
      getUint16_field (f := [d, _, _, _, _, _]) ?_,
      getBigUint64_field (f := [d, _, _, _, _, _, _]) ?_,
      getBigUint64_field (f := [d, _, _, _, _, _, _, _]) ?_,
      getBigUint64_field (f := [d, _, _, _, _, _, _, _, _]) ?_,
      getBigInt64_field (f := [d, _, _, _, _, _, _, _, _, _]) ?_,
      getBigInt64_field (f := [d, _, _, _, _, _, _, _, _, _, _]) ?_,
      getBigUint64_field (f := [d, _, _, _, _, _, _, _, _, _, _, _]) ?_⟩ <;>
    simp [hd, sessionNonceOffset]

theorem decodePaymentLinkAccount_serialize (rt : Runtime) (l : PaymentLink) :
    decodePaymentLinkAccount ((AccountRecord.paymentLink l).serialize rt) = .ok (.of l) := by
  have hd := AccountRecord.length_discriminator rt (.paymentLink l)
  have hsize : ¬((AccountRecord.paymentLink l).serialize rt).length < paymentLinkAccountSize := by
    rw [AccountRecord.length_serialize]
    exact lt_irrefl 203
  simp only [decodePaymentLinkAccount, bind_eq_ok, require_eq_ok, exists_unit, pure_eq_ok]
  refine ⟨hsize, l.senderVault, ?_, l.mint, ?_, l.claimedDestination, ?_, ?_⟩
  all_goals
    rw [AccountRecord.serialize, AccountRecord.fields]
    generalize (AccountRecord.paymentLink l).discriminator rt = d at hd
  · refine publicKeyOf_field (f := [d, _, _, _]) ?_ rfl
    simp [hd]
  · refine publicKeyOf_field (f := [d, _, _, _, _]) ?_ rfl
    simp [hd]
  · refine publicKeyOf_field (f := [d, _, _, _, _, _, _, _, _, _, _, _]) ?_ rfl
    simp [hd, paymentLinkAmountOffset]
  · rw [DecodedPaymentLink.of, DecodedPaymentLink.mk.injEq]
    refine ⟨getD_field (f := [d]) ?_, getD_field (f := [d, _]) ?_,
      getD_field (f := [d, _, _]) ?_, rfl, rfl,
      slice_field (f := [d, _, _, _, _, _]) ?_ ?_, slice_field (f := [d, _, _, _, _, _, _]) ?_ ?_,
      getBigUint64_field (f := [d, _, _, _, _, _, _, _]) ?_,
      getBigInt64_field (f := [d, _, _, _, _, _, _, _, _]) ?_,
      getBigInt64_field (f := [d, _, _, _, _, _, _, _, _, _]) ?_,
      getBigInt64_field (f := [d, _, _, _, _, _, _, _, _, _, _]) ?_, rfl⟩ <;>
    simp [hd, paymentLinkAmountOffset]

end Inverse

section Rejection

/-- The decoder stops with an error. -/
def Rejects {α : Type} (decoder : Bytes → Except Failure α) (data : Bytes) : Prop :=
  ∃ e, decoder data = .error e

theorem publicKeyOf_slice {data : Bytes} {start stop : ℕ} (hlength : stop ≤ data.length)
    (hsize : start + 32 = stop) :
    ∃ key, publicKeyOf (slice data start stop) = .ok key := by
  have hslice : (slice data start stop).length = 32 := by
    rw [slice, List.length_take, List.length_drop]
    omega
  refine ⟨(⟨slice data start stop, hslice⟩ : Pubkey), ?_⟩
  simp [publicKeyOf, toFixed, hslice, orError]

theorem not_rejects_of_ok {α : Type} {decoder : Bytes → Except Failure α} {data : Bytes} {a : α}
    (h : decoder data = .ok a) : ¬Rejects decoder data := by
  rintro ⟨e, he⟩
  rw [h] at he
  cases he

/-- Each decoder rejects data that is too short for its record, and nothing else. -/
theorem rejects_vault_iff {data : Bytes} : Rejects decodeVaultAccount data ↔ data.length < 123 := by
  constructor
  · intro h
    by_contra hlength
    have hok : ∃ vault, decodeVaultAccount data = .ok vault := by
      simp only [decodeVaultAccount, bind_eq_ok, require_eq_ok, exists_unit, pure_eq_ok]
      exact ⟨_, hlength, rfl⟩
    obtain ⟨vault, hvault⟩ := hok
    exact not_rejects_of_ok hvault h
  · intro h
    refine ⟨.error "Vault account data is truncated", ?_⟩
    rw [decodeVaultAccount, CheckedOutcome.require,
      if_neg (not_not.mpr (show data.length < vaultAccountSize from h))]
    rfl

theorem rejects_session_iff {data : Bytes} :
    Rejects decodeSessionAccount data ↔ data.length < 125 := by
  constructor
  · intro h
    by_contra hlength
    obtain ⟨vault, hvault⟩ :=
      publicKeyOf_slice (show 43 ≤ data.length by omega) (show 11 + 32 = 43 from rfl)
    obtain ⟨key, hkey⟩ :=
      publicKeyOf_slice (show 75 ≤ data.length by omega) (show 43 + 32 = 75 from rfl)
    have hok : ∃ session, decodeSessionAccount data = .ok session := by
      simp only [decodeSessionAccount, bind_eq_ok, require_eq_ok, exists_unit, pure_eq_ok]
      exact ⟨_, hlength, vault, hvault, key, hkey, rfl⟩
    obtain ⟨session, hsession⟩ := hok
    exact not_rejects_of_ok hsession h
  · intro h
    refine ⟨.error "Session account data is truncated", ?_⟩
    rw [decodeSessionAccount, CheckedOutcome.require,
      if_neg (not_not.mpr (show data.length < sessionAccountSize from h))]
    rfl

theorem rejects_paymentLink_iff {data : Bytes} :
    Rejects decodePaymentLinkAccount data ↔ data.length < 203 := by
  constructor
  · intro h
    by_contra hlength
    obtain ⟨sender, hsender⟩ :=
      publicKeyOf_slice (show 43 ≤ data.length by omega) (show 11 + 32 = 43 from rfl)
    obtain ⟨mint, hmint⟩ :=
      publicKeyOf_slice (show 75 ≤ data.length by omega) (show 43 + 32 = 75 from rfl)
    obtain ⟨destination, hdestination⟩ :=
      publicKeyOf_slice (show paymentLinkAmountOffset + 64 ≤ data.length from not_lt.mp hlength)
        (show paymentLinkAmountOffset + 32 + 32 = paymentLinkAmountOffset + 64 from rfl)
    have hok : ∃ link, decodePaymentLinkAccount data = .ok link := by
      simp only [decodePaymentLinkAccount, bind_eq_ok, require_eq_ok, exists_unit, pure_eq_ok]
      exact ⟨_, hlength, sender, hsender, mint, hmint, destination, hdestination, rfl⟩
    obtain ⟨link, hlink⟩ := hok
    exact not_rejects_of_ok hlink h
  · intro h
    refine ⟨.error "Payment-link account data is truncated", ?_⟩
    rw [decodePaymentLinkAccount, CheckedOutcome.require,
      if_neg (not_not.mpr (show data.length < paymentLinkAccountSize from h))]
    rfl

/-- The decoders give back what was serialized. Of the data of other account types each rejects
what is shorter than its own record: the vault decoder reads sessions, payment links and the
configuration as vaults, the session decoder payment links and the configuration as sessions. -/
theorem decoders_inverse (rt : Runtime) :
    (∀ v, decodeVaultAccount ((AccountRecord.vault v).serialize rt) = .ok (.of v)) ∧
    (∀ s, decodeSessionAccount ((AccountRecord.session s).serialize rt) = .ok (.of s)) ∧
    (∀ l, decodePaymentLinkAccount ((AccountRecord.paymentLink l).serialize rt) = .ok (.of l)) ∧
    ∀ r : AccountRecord,
      (Rejects decodeVaultAccount (r.serialize rt) ↔ ∃ c, r = .claimAuthorityConfig c) ∧
      (Rejects decodeSessionAccount (r.serialize rt) ↔ (∃ c, r = .claimAuthorityConfig c) ∨
        ∃ v, r = .vault v) ∧
      (Rejects decodePaymentLinkAccount (r.serialize rt) ↔ ∀ l, r ≠ .paymentLink l) := by
  refine ⟨decodeVaultAccount_serialize rt, decodeSessionAccount_serialize rt,
    decodePaymentLinkAccount_serialize rt, ?_⟩
  intro r
  rw [rejects_vault_iff, rejects_session_iff, rejects_paymentLink_iff,
    AccountRecord.length_serialize]
  cases r <;> simp [AccountRecord.size]

end Rejection

end VeriAgentPay.Backend

namespace VeriAgentPay.Devnet
open Backend

def unusedSession : Session := writeSession 255 vault ⟨session, 1, 10, 10, 0, 0⟩

/-- A session is read as a vault. -/
theorem session_read_as_vault :
    ¬Rejects decodeVaultAccount ((AccountRecord.session unusedSession).serialize runtime) := by
  rw [rejects_vault_iff, AccountRecord.length_serialize]
  exact Nat.not_lt_of_le (Nat.le_add_right 123 2)

end VeriAgentPay.Devnet
