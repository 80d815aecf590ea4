import VeriAgentPay.JsonTexts
import VeriAgentPay.PaymentLinkServices
import VeriAgentPay.ScheduledPrograms

/-!
# Stored session keys

A session key is encrypted under a data key of its own, and the data key is wrapped by the key
service or under the master secret. Only the first binds the wrapped key to its row.
-/

namespace VeriAgentPay.SessionKeyWrapping
open FixedWidth CheckedOutcome TextEncodings Client
open Backend (Failure SessionKey digitValue toHex trim truthy toBase58)
open JsonTexts (Json)

/-- The encryption context of a wrapped data key. -/
structure Context where
  purpose : String
  keyHash : Option String
  deriving DecidableEq

/-- The two halves are one secret key: a seed and the public key of that seed. -/
structure Keypair where
  seed : FixedBytes 32
  deriving DecidableEq

/-- The ciphers, the key service and the curve, and what the language makes of numbers and of bytes
that are no text. The first argument of `decrypt` is the key that the request names, if it names
one. -/
structure Host where
  scrypt : String → Bytes → Bytes
  encipher : (key iv plaintext : Bytes) → Bytes × Bytes
  decipher : (key iv tag ciphertext : Bytes) → Option Bytes
  encrypt : (keyId : String) → Context → (plaintext : Bytes) → (draw : ℕ) →
    Except Failure (Option Bytes)
  decrypt : (keyId : Option String) → Context → (ciphertext : Bytes) → Except Failure (Option Bytes)
  derive : FixedBytes 32 → Pubkey
  nearest : ℚ → JsNumber
  replaced : Bytes → String

/-- Decryption succeeds exactly with what was used to encrypt, and small integers are exact. -/
structure Host.Exact (h : Host) : Prop where
  decipher_iff : ∀ key iv plaintext key' iv' plaintext',
    h.decipher key' iv' (h.encipher key iv plaintext).2 (h.encipher key iv plaintext).1 =
      some plaintext' ↔
      key' = key ∧ iv' = iv ∧ plaintext' = plaintext
  decrypt_iff : ∀ keyId context plaintext draw ciphertext keyId' context' plaintext',
    h.encrypt keyId context plaintext draw = .ok (some ciphertext) →
      (h.decrypt keyId' context' ciphertext = .ok (some plaintext') ↔
        (∀ named ∈ keyId', named = keyId) ∧ context' = context ∧ plaintext' = plaintext)
  nearest_eq : ∀ n : ℕ, n ≤ 2 ^ 53 → h.nearest n = .finite n

/-- `SESSION_KEY_KMS_KEY_ID` and `SESSION_KEY_MASTER_SECRET`. -/
structure Config where
  kmsKeyId : Option String
  masterSecret : Option String

section Texts

/-- `Buffer.from(text, 'hex')`, which ends at the first pair that is no byte. -/
def hexBytes : List Char → Bytes
  | high :: low :: rest =>
    if digitValue high < 16 ∧ digitValue low < 16 then
      UInt8.ofNat (digitValue high * 16 + digitValue low) :: hexBytes rest else []
  | _ => []

def base64Text (bytes : Bytes) : String := String.ofList (Base64.encode bytes)

/-- `Buffer.from(text, 'base64')`, which reads the alphabet for URLs as well. -/
def base64Bytes (text : String) : Bytes := Backend.base64UrlToBuffer text

/-- `buffer.toString('utf8')`. -/
def utf8Text (h : Host) (bytes : Bytes) : String := (Utf8.decode bytes).getD (h.replaced bytes)

def startsWith (text start : String) : Bool := start.toList.isPrefixOf text.toList

end Texts

section Model
variable (h : Host)

namespace SymmetricCrypto

/-- The parts between colons. -/
def encryptSymmetric (salt : FixedBytes 16) (iv : FixedBytes 12)
    (plaintext secretKeyHex : String) : String :=
  let sealed := h.encipher (h.scrypt secretKeyHex salt.toList) iv.toList (utf8 plaintext)
  String.ofList ([':'].intercalate [['v', '2'], toHex salt.toList, toHex iv.toList, toHex sealed.2,
    toHex sealed.1])

def decryptSymmetric (blob secretKeyHex : String) : Except Failure String :=
  match blob.toList.splitOn ':' with
  | ['v', '2'] :: saltHex :: ivHex :: tagHex :: ctHex :: _ => do
    let key := h.scrypt secretKeyHex (hexBytes saltHex)
    let plaintext ← orError (h.decipher key (hexBytes ivHex) (hexBytes tagHex) (hexBytes ctHex))
      (.error "Unsupported state or unable to authenticate data")
    pure (utf8Text h plaintext)
  | ['v', '2'] :: _ =>
    .error (.error "The first argument must be of type string. Received undefined")
  | _ => .error
      (.error "Session key blob is malformed, unencrypted, or uses a retired format; refusing to use it")

end SymmetricCrypto

namespace KeyWrapping
open SymmetricCrypto

def KMS_PREFIX : String := "kms:v1:"
def LEGACY_PREFIX : String := "v2:"

def isLegacyWrapped (blob : String) : Bool := startsWith blob LEGACY_PREFIX

/-- What is drawn for a wrapping: a salt and an initialization vector here, or what the key service
draws. -/
structure Draw where
  salt : FixedBytes 16
  iv : FixedBytes 12
  service : ℕ

def wrapDataKey (config : Config) (draw : Draw) (dataKey : String) (context : Context) :
    Except Failure String :=
  match truthy config.kmsKeyId with
  | none => do
    let secret ← orError (truthy config.masterSecret)
      (.error "Neither SESSION_KEY_KMS_KEY_ID nor SESSION_KEY_MASTER_SECRET is set; refusing to store a session key unwrapped.")
    pure (encryptSymmetric h draw.salt draw.iv dataKey secret)
  | some keyId => do
    let result ← h.encrypt keyId context (utf8 dataKey) draw.service
    let ciphertext ← orError result (.error "KMS returned no ciphertext for the session data key.")
    pure (KMS_PREFIX ++ base64Text ciphertext)

def unwrapDataKey (config : Config) (blob : String) (context : Context) : Except Failure String :=
  if startsWith blob KMS_PREFIX then do
    let ciphertext := base64Bytes (String.ofList (blob.toList.drop KMS_PREFIX.length))
    let result ← h.decrypt (truthy config.kmsKeyId) context ciphertext
    let plaintext ← orError result (.error "KMS returned no plaintext for the session data key.")
    pure (utf8Text h plaintext)
  else if isLegacyWrapped blob then do
    let secret ← orError (truthy config.masterSecret) (.error
      "A session key is still wrapped by the local master secret, but SESSION_KEY_MASTER_SECRET is not set. Keep it configured until the KMS backfill has re-wrapped every row.")
    decryptSymmetric h blob secret
  else .error (.error "Unrecognised session data key format; refusing to guess.")

end KeyWrapping

namespace Keypair
variable (keypair : Keypair)

def publicKey : Pubkey := h.derive keypair.seed

def secretKey : Bytes := keypair.seed.toList ++ (keypair.publicKey h).toList

/-- `Keypair.fromSecretKey`. -/
def fromSecretKey (secretKey : Bytes) : Except Failure Keypair := do
  require (secretKey.length = 64) (.error "bad secret key size")
  let seed ← orError (toFixed 32 (secretKey.take 32)) (.error "bad secret key size")
  require (secretKey.drop 32 = (h.derive seed).toList) (.error "provided secretKey is invalid")
  pure ⟨seed⟩

end Keypair

namespace SolanaChainService

def encodeKeypair (keypair : Keypair) : String :=
  base64Text (utf8 (JsonTexts.stringify ((keypair.secretKey h).map UInt8.toNat)))

/-- A safe integer between 0 and 255. -/
def byteOf : Json → Option UInt8
  | .number value =>
    match h.nearest value with
    | .finite item =>
      if item.isInt ∧ 0 ≤ item ∧ item ≤ 255 then some (UInt8.ofNat item.num.toNat) else none
    | _ => none
  | _ => none

def items : Json → Option (List Json)
  | .array items => some items
  | _ => none

/-- `feePayerFromSecret`, which `sessionKeypair` is. -/
def sessionKeypair (value : String) : Except Failure Keypair := do
  let normalized := if startsWith (trim value) "[" then value else utf8Text h (base64Bytes value)
  let decoded ← orError (JsonTexts.parse normalized)
    (.error "Fee-payer keypair must be a JSON byte array or its base64 encoding")
  let message := Failure.error "Fee-payer keypair must contain exactly 64 bytes"
  let items ← orError (items decoded) message
  require (items.length = 64) message
  let bytes ← orError (items.mapM (byteOf h)) message
  Keypair.fromSecretKey h bytes

end SolanaChainService

/-- What a provisioning draws, and its time. -/
structure Draw where
  keypair : Keypair
  randomSymmetricKey : FixedBytes 32
  salt : FixedBytes 16
  iv : FixedBytes 12
  wrap : KeyWrapping.Draw
  id : String
  now : ℤ

/-- What a session key is provisioned for. -/
structure Grant where
  userId : String
  durationSeconds : ℤ
  maxValueLimit : ℤ
  perTxLimitUSD : ℚ
  dailyLimitUSD : ℚ

def wrapContext (keyHash : Option String) : Context := ⟨"session-key", truthy keyHash⟩

inductive Request where
  | createSessionKey (row : SessionKey)
  | setSessionKey (row : SessionKey)
  | auditEvent (userId action status : String)

abbrev Answer : Request → Type := fun _ => Except Failure Unit

abbrev Service := InterleavedPrograms.Fallible Failure Request Answer

def ask (r : Request) : Service Unit := ExceptT.mk (.ask r .ret)

structure Provisioned where
  sessionKeyId : String
  sessionKeyHash : String
  sessionPublicKey : String
  expiryAt : ℤ
  maxValue : String
  registerCalldata : String
  setGlobalLimitCalldata : String

namespace SolanaRelayerService
open SymmetricCrypto KeyWrapping

def decryptSessionKey (config : Config) (session : SessionKey) : Except Failure String := do
  let encryptedSymmetricKey ← orError (truthy session.encryptedSymmetricKey)
    (.error "Session key is missing its wrapped data key")
  let symmetricKey ← unwrapDataKey h config encryptedSymmetricKey (wrapContext session.keyHash)
  decryptSymmetric h session.encryptedKey symmetricKey

/-- The row that `provisionSessionKey` writes. -/
def sessionRecord (config : Config) (draw : Draw) (grant : Grant) : Except Failure SessionKey := do
  let sessionKeyHash := toBase58 (draw.keypair.publicKey h)
  let randomSymmetricKey := String.ofList (toHex draw.randomSymmetricKey.toList)
  let encryptedKey :=
    encryptSymmetric h draw.salt draw.iv
      (SolanaChainService.encodeKeypair h draw.keypair) randomSymmetricKey
  let encryptedSymmetricKey ← wrapDataKey h config draw.wrap randomSymmetricKey
    (wrapContext sessionKeyHash)
  pure
    { id := draw.id, userId := grant.userId, keyHash := sessionKeyHash, encryptedKey := encryptedKey
      encryptedSymmetricKey := some encryptedSymmetricKey, perTxLimitUSD := grant.perTxLimitUSD
      dailyLimitUSD := grant.dailyLimitUSD, expiryAt := draw.now + grant.durationSeconds * 1000
      revokedAt := none, activatedAt := none }

def provisionSessionKey (config : Config) (draw : Draw) (grant : Grant) : Service Provisioned := do
  let row ← InterleavedPrograms.Fallible.checked (sessionRecord h config draw grant)
  ask (.createSessionKey row)
  ask (.setSessionKey row)
  InterleavedPrograms.Fallible.ignoringFailure
    (ask (.auditEvent grant.userId "SESSION_KEY_CREATED" "SUCCESS"))
  pure
    { sessionKeyId := row.id, sessionKeyHash := row.keyHash, sessionPublicKey := row.keyHash
      expiryAt := row.expiryAt
      maxValue := Backend.bigIntToString grant.maxValueLimit, registerCalldata :=
        "", setGlobalLimitCalldata := "" }

end SolanaRelayerService

end Model

section RoundTrips
variable {h : Host}

theorem hexBytes_toHex (bytes : Bytes) : hexBytes (toHex bytes) = bytes := by
  induction bytes with
  | nil => rfl
  | cons b bytes ih =>
    have hlt := b.toNat_lt
    have hhigh := Backend.digitValue_hexChar (b.toNat / 16) (by omega)
    have hlow := Backend.digitValue_hexChar (b.toNat % 16) (by omega)
    have hcons : toHex (b :: bytes) = Backend.hexChar (b.toNat / 16) ::
        Backend.hexChar (b.toNat % 16) :: toHex bytes := rfl
    rw [hcons, hexBytes, hhigh, hlow, if_pos (by omega), ih]
    congr 1
    exact Base64.ofNat_toNat_eq (by omega)

theorem colon_not_mem_toHex (bytes : Bytes) : ':' ∉ toHex bytes := by
  intro hmem
  obtain ⟨b, -, hb⟩ := List.mem_flatMap.mp hmem
  have hlt := b.toNat_lt
  have hchar : ∀ n < 16, Backend.hexChar n ≠ ':' := by decide
  rcases List.mem_pair.mp hb with hb | hb
  · exact hchar _ (by omega) hb.symm
  · exact hchar _ (by omega) hb.symm

theorem base64Bytes_base64Text (bytes : Bytes) : base64Bytes (base64Text bytes) = bytes := by
  have hplain : ∀ n < 64, Backend.plainChar (Base64.charOf n) = Base64.charOf n := by decide +kernel
  have hmap : (Base64.encode bytes).map Backend.plainChar = Base64.encode bytes := by
    rw [Base64.encode, List.map_append, List.map_map, Base64.padding, List.map_replicate]
    congr 1
    exact List.map_congr_left fun n hn => hplain n (Base64.sextets_lt hn)
  rw [base64Bytes, base64Text, Backend.base64UrlToBuffer, String.toList_ofList, hmap,
    Base64.decode_encode]

theorem utf8Text_utf8 (text : String) : utf8Text h (utf8 text) = text := by
  rw [utf8Text, utf8, Utf8.decode_toUTF8, Option.getD_some]

namespace SymmetricCrypto

theorem splitOn_encryptSymmetric (salt : FixedBytes 16) (iv : FixedBytes 12)
    (plaintext secretKeyHex : String) :
    (encryptSymmetric h salt iv plaintext secretKeyHex).toList.splitOn ':' =
      [['v', '2'], toHex salt.toList, toHex iv.toList,
        toHex (h.encipher (h.scrypt secretKeyHex salt.toList) iv.toList (utf8 plaintext)).2,
        toHex (h.encipher (h.scrypt secretKeyHex salt.toList) iv.toList (utf8 plaintext)).1] := by
  rw [encryptSymmetric, String.toList_ofList, List.splitOn_intercalate]
  · simp [colon_not_mem_toHex]
  · exact List.cons_ne_nil _ _

theorem decryptSymmetric_encryptSymmetric (hexact : h.Exact) (salt : FixedBytes 16)
    (iv : FixedBytes 12) (plaintext secretKeyHex : String) :
    decryptSymmetric h (encryptSymmetric h salt iv plaintext secretKeyHex) secretKeyHex =
      .ok plaintext := by
  have hopened :=
    (hexact.decipher_iff (h.scrypt secretKeyHex salt.toList) iv.toList (utf8 plaintext) _ _ _).mpr
      ⟨rfl, rfl, rfl⟩
  simp only [decryptSymmetric, splitOn_encryptSymmetric, hexBytes_toHex, hopened]
  simp [orError, utf8Text_utf8]

/-- Under any other secret there is the same plaintext or none. -/
theorem plaintext_of_decryptSymmetric (hexact : h.Exact) {salt : FixedBytes 16} {iv : FixedBytes 12}
    {plaintext secretKeyHex secretKeyHex' text : String}
    (hopened : decryptSymmetric h
      (encryptSymmetric h salt iv plaintext secretKeyHex) secretKeyHex' = .ok text) :
    text = plaintext := by
  simp only [decryptSymmetric, splitOn_encryptSymmetric, hexBytes_toHex, bind_eq_ok, pure_eq_ok,
    orError_eq_ok] at hopened
  obtain ⟨bytes, hbytes, rfl⟩ := hopened
  rw [((hexact.decipher_iff _ _ _ _ _ _).mp hbytes).2.2, utf8Text_utf8]

theorem toList_encryptSymmetric (salt : FixedBytes 16) (iv : FixedBytes 12)
    (plaintext secretKeyHex : String) :
    ∃ rest, (encryptSymmetric h salt iv plaintext secretKeyHex).toList = 'v' :: '2' :: ':' ::
      rest := by
  rw [encryptSymmetric, String.toList_ofList]
  exact ⟨_, rfl⟩

end SymmetricCrypto

/-- The wrapping key of the writer is there for the reader: the key of the service once there is
one, else the secret. -/
def Config.Reads (writer reader : Config) : Prop :=
  match truthy writer.kmsKeyId with
  | some keyId => truthy reader.kmsKeyId = some keyId
  | none => truthy reader.masterSecret = truthy writer.masterSecret

namespace KeyWrapping
open SymmetricCrypto

theorem unwrapDataKey_wrapDataKey (hexact : h.Exact) {writer reader : Config}
    (hreads : writer.Reads reader) {draw : Draw} {dataKey blob : String} {context : Context}
    (hwrapped : wrapDataKey h writer draw dataKey context = .ok blob) :
    unwrapDataKey h reader blob context = .ok dataKey := by
  unfold wrapDataKey at hwrapped
  unfold Config.Reads at hreads
  cases hkms : truthy writer.kmsKeyId with
  | none =>
    rw [hkms] at hwrapped hreads
    simp only [bind_eq_ok, orError_eq_ok, pure_eq_ok] at hwrapped
    obtain ⟨secret, hsecret, rfl⟩ := hwrapped
    obtain ⟨rest, hblob⟩ := toList_encryptSymmetric (h := h) draw.salt draw.iv dataKey secret
    have hkind :
        startsWith (encryptSymmetric h draw.salt draw.iv dataKey secret) KMS_PREFIX = false ∧
        isLegacyWrapped (encryptSymmetric h draw.salt draw.iv dataKey secret) = true := by
      rw [isLegacyWrapped, startsWith, startsWith, hblob]
      exact ⟨rfl, rfl⟩
    simp [unwrapDataKey, hkind, hreads, hsecret, orError, decryptSymmetric_encryptSymmetric hexact]
  | some keyId =>
    rw [hkms] at hwrapped hreads
    simp only [bind_eq_ok, orError_eq_ok, pure_eq_ok] at hwrapped
    obtain ⟨result, hencrypted, ciphertext, rfl, rfl⟩ := hwrapped
    have hopened :=
      (hexact.decrypt_iff _ _ _ _ _ (some keyId) context _ hencrypted).mpr ⟨by simp, rfl, rfl⟩
    have hkind : startsWith (KMS_PREFIX ++ base64Text ciphertext) KMS_PREFIX = true := by
      rw [startsWith, String.toList_append]
      exact List.isPrefixOf_iff_prefix.mpr (List.prefix_append _ _)
    have hdrop :
        String.ofList ((KMS_PREFIX ++ base64Text ciphertext).toList.drop KMS_PREFIX.length) =
          base64Text ciphertext := by
      rw [String.toList_append, List.drop_left' String.length_toList, String.ofList_toList]
    have hkey : truthy reader.kmsKeyId = some keyId := hreads
    rw [unwrapDataKey, if_pos hkind, hdrop, base64Bytes_base64Text, hkey, bind_eq_ok]
    exact ⟨_, hopened, congrArg Except.ok (utf8Text_utf8 dataKey)⟩

/-- What can be unwrapped is not the empty text. -/
theorem ne_empty_of_unwrapDataKey {config : Config} {blob dataKey : String} {context : Context}
    (hunwrapped : unwrapDataKey h config blob context = .ok dataKey) : blob ≠ "" := by
  rintro rfl
  cases hunwrapped

end KeyWrapping

theorem Keypair.fromSecretKey_secretKey (keypair : Keypair) :
    Keypair.fromSecretKey h (keypair.secretKey h) = .ok keypair := by
  have hlength : (keypair.secretKey h).length = 64 := by simp [secretKey]
  have htake : (keypair.secretKey h).take 32 = keypair.seed.toList :=
    List.take_left' keypair.seed.toList_length
  have hdrop : (keypair.secretKey h).drop 32 = (keypair.publicKey h).toList :=
    List.drop_left' keypair.seed.toList_length
  simp [fromSecretKey, hlength, htake, hdrop, publicKey, orError, require]

namespace SolanaChainService

theorem byteOf_natural (hexact : h.Exact) (b : UInt8) :
    byteOf h (JsonTexts.natural b.toNat) = some b := by
  have hlt := b.toNat_lt
  have hnearest : h.nearest b.toNat = .finite b.toNat := hexact.nearest_eq b.toNat (by omega)
  have hmax : (b.toNat : ℚ) ≤ 255 := by exact_mod_cast (by omega : b.toNat ≤ 255)
  simp [byteOf, JsonTexts.natural, hnearest, hmax, Rat.isInt]

theorem mapM_byteOf (hexact : h.Exact) (bytes : Bytes) :
    ((bytes.map UInt8.toNat).map JsonTexts.natural).mapM (byteOf h) = some bytes := by
  induction bytes with
  | nil => rfl
  | cons b bytes ih =>
    simp only [List.map_cons, List.mapM_cons, byteOf_natural hexact, ih, Option.pure_def,
      Option.bind_eq_bind, Option.bind_some]

/-- A text in base64 is no JSON text. -/
theorem startsWith_base64Text (bytes : Bytes) :
    startsWith (trim (base64Text bytes)) "[" = false := by
  have hchars : ∀ c ∈ Base64.encode bytes, Backend.isWhiteSpace c = false ∧ c ≠ '[' := by
    intro c hc
    rcases List.mem_append.mp hc with hc | hc
    · obtain ⟨n, hn, rfl⟩ := List.mem_map.mp hc
      have hchar : ∀ n < 64, Backend.isWhiteSpace (Base64.charOf n) = false ∧
          Base64.charOf n ≠ '[' := by decide +kernel
      exact hchar n (Base64.sextets_lt hn)
    · rw [List.eq_of_mem_replicate hc]
      decide
  have htrim : (trim (base64Text bytes)).toList = Base64.encode bytes := by
    rw [trim, base64Text, String.toList_ofList, String.toList_ofList,
      Backend.trimChars_eq_self fun c hc => (hchars c hc).1]
  rw [startsWith, htrim]
  cases htext : Base64.encode bytes with
  | nil => rfl
  | cons c rest =>
    have hc := (hchars c (by rw [htext]; exact List.mem_cons_self)).2
    simp [List.isPrefixOf, hc.symm]

theorem sessionKeypair_encodeKeypair (hexact : h.Exact) (keypair : Keypair) :
    sessionKeypair h (encodeKeypair h keypair) = .ok keypair := by
  have hlength : (keypair.secretKey h).length = 64 := by simp [Keypair.secretKey]
  simp only [sessionKeypair, encodeKeypair, startsWith_base64Text, Bool.false_eq_true, if_false,
    base64Bytes_base64Text, utf8Text_utf8,
    JsonTexts.parse_stringify, bind_eq_ok, orError_eq_ok, require_eq_ok]
  refine ⟨_, rfl, _, rfl, (), ?_, keypair.secretKey h, mapM_byteOf hexact _,
    Keypair.fromSecretKey_secretKey keypair⟩
  simp [hlength]

end SolanaChainService

namespace SolanaRelayerService
open SymmetricCrypto KeyWrapping SolanaChainService

theorem decryptSessionKey_of_wrapped (hexact : h.Exact) {writer reader : Config}
    (hreads : writer.Reads reader) {session : SessionKey} {wrap : KeyWrapping.Draw}
    {dataKey wrapped text : String} {salt : FixedBytes 16} {iv : FixedBytes 12}
    (hwrapped : wrapDataKey h writer wrap dataKey (wrapContext session.keyHash) = .ok wrapped)
    (hsymmetric : session.encryptedSymmetricKey = some wrapped)
    (hkey : session.encryptedKey = encryptSymmetric h salt iv text dataKey) :
    decryptSessionKey h reader session = .ok text := by
  have hunwrapped := unwrapDataKey_wrapDataKey hexact hreads hwrapped
  have hpresent : truthy session.encryptedSymmetricKey = some wrapped := by
    rw [hsymmetric]
    exact Option.filter_eq_some_iff.mpr ⟨rfl, by simpa using ne_empty_of_unwrapDataKey hunwrapped⟩
  simp only [decryptSessionKey, hpresent, hkey, bind_eq_ok, orError_eq_ok]
  exact ⟨wrapped, rfl, dataKey, hunwrapped, decryptSymmetric_encryptSymmetric hexact _ _ _ _⟩

/-- The row of a provisioning is read back: its keypair is the one that was generated. -/
theorem decryptSessionKey_sessionRecord (hexact : h.Exact) {writer reader : Config}
    (hreads : writer.Reads reader) {draw : Draw} {grant : Grant} {row : SessionKey}
    (hrow : sessionRecord h writer draw grant = .ok row) :
    decryptSessionKey h reader row = .ok (encodeKeypair h draw.keypair) := by
  simp only [sessionRecord, bind_eq_ok, pure_eq_ok] at hrow
  obtain ⟨wrapped, hwrapped, rfl⟩ := hrow
  exact decryptSessionKey_of_wrapped hexact hreads hwrapped rfl rfl

end SolanaRelayerService

end RoundTrips

end VeriAgentPay.SessionKeyWrapping
