import VeriAgentPay.LinkRecordAgreement
import VeriAgentPay.SessionKeyWrapping

/-!
# Whose session keys sign

A stored session key is opened, and what comes out is taken for the secret of a keypair. Both
payments with a session key look the row up again by the public key of that keypair, so it does not
matter from which row the secret was read.
-/

namespace VeriAgentPay.SessionKeyOwnership
open FixedWidth CheckedOutcome Client InterleavedPrograms Backend
open SessionKeyWrapping (Host Config Draw Grant Keypair)
open SessionKeyWrapping.SolanaChainService (sessionKeypair encodeKeypair)
open SessionKeyWrapping.SolanaRelayerService (decryptSessionKey sessionRecord provisionSessionKey)

section Model
variable (d : Deployment)

/-- The deployment reads the secrets of session keys as the program does. -/
def opensWith (h : Host) : Deployment :=
  { d with keypairFromSecret := fun secret => (sessionKeypair h secret).map (·.publicKey h) }

structure TransferWithSessionParams where
  vaultAddress : String
  recipientAddress : String
  sessionKeypair : Pubkey
  amount : ℤ
  sessionNonce : ℤ

def transferWithSessionCall (params : TransferWithSessionParams) : Except Failure Call := do
  let vault ← addressKey params.vaultAddress "vault"
  let session ← deriveSession d.rt vault params.sessionKeypair
  let vaultTokenAccount ← SolanaChainService.vaultTokenAccount d params.vaultAddress
  let destinationTokenAccount ← SolanaChainService.recipientTokenAccount d params.recipientAddress
  let amount ← u64Arg params.amount
  let sessionNonce ← u64Arg params.sessionNonce
  pure (.transferWithSession
    { config := d.configAddress, vault := vault, session := session
      sessionSigner := params.sessionKeypair
      stablecoinMint := d.stablecoinMint, vaultTokenAccount := vaultTokenAccount
      destinationTokenAccount := destinationTokenAccount }
    ⟨amount, sessionNonce⟩)

def transferWithSession (params : TransferWithSessionParams) : Service String := do
  let transfer ← checked (transferWithSessionCall d params)
  SolanaChainService.submitWithSigners transfer [params.sessionKeypair]

structure SessionTransferParams where
  userId : String
  vaultAddress : String
  recipientAddress : String
  encryptedSessionKey : String
  txAmountUSD : JsNumber
  skipBiometricCheck : Bool

/-- What the database answers to the biometric check: whether the user is there and always requires
biometrics, and whether a passkey that is not revoked was used in the last two minutes. -/
structure Biometrics where
  requireBiometricsAlways : Except Failure (Option Bool)
  recent : Except Failure Bool

def checkBiometrics (biometrics : Biometrics) (skipBiometricCheck : Bool) : Except Failure Unit :=
  if skipBiometricCheck then pure ()
  else do
    let user ← biometrics.requireBiometricsAlways
    if user = some true then do
      let recent ← biometrics.recent
      require recent (.forbidden "Biometric authentication required")
    else pure ()

def usdToAtomic : JsNumber → Except Failure ℤ
  | .finite amount => SolanaRelayerService.usdToAtomic amount
  | _ => .error (.badRequest "Invalid USDC amount")

/-- Only a finite amount comes this far. -/
def createSpendingRecord (sessionKeyId : String) (amountUSD : JsNumber) (txHash : String) :
    Service Unit :=
  match amountUSD with
  | .finite amountUSD => ask (.write (.spendingRecord sessionKeyId amountUSD txHash))
  | _ => pure ()

def executeSessionTransfer (biometrics : Biometrics) (params : SessionTransferParams) :
    Service String := do
  checked (checkBiometrics biometrics params.skipBiometricCheck)
  let sessionKeypair ← checked (d.keypairFromSecret params.encryptedSessionKey)
  let found ← ask (.findSessionKey (toBase58 sessionKeypair))
  let now ← ask .now
  let sessionRecord ← checked
    (orError (found.filter fun session => session.userId = params.userId ∧
      session.revokedAt = none ∧
    session.activatedAt ≠ none ∧
    ¬session.expiryAt ≤ now) (.forbidden "Session key is expired, revoked, or inactive"))
  check (¬lessThan (.finite sessionRecord.perTxLimitUSD) params.txAmountUSD)
    (.forbidden "Transaction exceeds the session per-payment limit")
  let now ← ask .now
  let recent ← ask (.spentSince sessionRecord.id (now - 24 * 60 * 60 * 1000))
  check (¬lessThan (.finite sessionRecord.dailyLimitUSD)
    (d.numberAdd (.finite recent) params.txAmountUSD))
    (.forbidden "Transaction exceeds the session daily limit")
  let session ← SolanaRelayerService.activeSessionState d params.vaultAddress sessionKeypair
  let amount ← checked (usdToAtomic params.txAmountUSD)
  let balance ← SolanaChainService.getVaultUsdcBalance d params.vaultAddress
  check (¬(balance : ℤ) < amount) (.badRequest "Insufficient USDC balance")
  let signature ← transferWithSession d
    { vaultAddress := params.vaultAddress, recipientAddress := params.recipientAddress
      sessionKeypair := sessionKeypair
      amount := amount, sessionNonce := session.nonce.toNat }
  createSpendingRecord sessionRecord.id params.txAmountUSD signature
  ignoringFailure (ask (.write (.auditEvent params.userId "PAYMENT_RELAYED" "SUCCESS")))
  pure signature

end Model

section Tables

/-- A row as a provisioning wrote it. -/
structure Original (h : Host) where
  config : Config
  draw : Draw
  grant : Grant
  row : SessionKey
  provisioned : sessionRecord h config draw grant = .ok row

variable {h : Host}

/-- A row that may have been activated or revoked, and whose encrypted columns are those of any
rows. -/
structure Copied (originals : List (Original h)) (row : SessionKey) : Prop where
  own : ∃ original ∈ originals, row.userId = original.row.userId ∧
    row.keyHash = original.row.keyHash
  encryptedKey : ∃ other ∈ originals, row.encryptedKey = other.row.encryptedKey
  encryptedSymmetricKey :
    ∃ other ∈ originals, row.encryptedSymmetricKey = other.row.encryptedSymmetricKey

/-- The table of session keys; the column `keyHash` is unique. -/
structure SessionTable (h : Host) where
  originals : List (Original h)
  rows : List SessionKey
  unique : ∀ a ∈ originals, ∀ b ∈ originals, a.row.keyHash = b.row.keyHash → a = b
  copied : ∀ row ∈ rows, Copied originals row

/-- The answers that the table and a clock give from some time on, as far as they answer. -/
def Answering (rows : List SessionKey) (start : ℤ) : (r : Request) → Answer r → Prop
  | .findSessionKey keyHash, x => ∀ found, x = .ok found → found = rows.find? (·.keyHash = keyHash)
  | .now, x => ∀ time, x = .ok time → start ≤ time
  | _, _ => True

/-- The row's key is the user's, is activated, and is neither revoked nor expired. -/
structure Usable (userId : String) (time : ℤ) (row : SessionKey) : Prop where
  userId : row.userId = userId
  revokedAt : row.revokedAt = none
  activatedAt : row.activatedAt ≠ none
  expiryAt : time < row.expiryAt

/-- What is submitted is signed by a key whose row is usable. -/
def SignsUsable (rows : List SessionKey) (userId : String) (start : ℤ) (key : Pubkey) :
    Request → Prop
  | .submit submission => submission.additionalSigners = [key] ∧
  ∃ row ∈ rows, row.keyHash = toBase58 key ∧ Usable userId start row
  | _ => True

/-- What is submitted is signed by the keypair that was generated for a session of the user, and its
row is usable. -/
def SignsOwn (table : SessionTable h) (userId secret : String) (start : ℤ) : Request → Prop
  | .submit submission => ∃ original ∈ table.originals, original.grant.userId = userId ∧
      sessionKeypair h secret = .ok original.draw.keypair ∧
      submission.additionalSigners = [original.draw.keypair.publicKey h] ∧
      ∃ row ∈ table.rows, row.keyHash = original.row.keyHash ∧ Usable userId start row
  | _ => True

end Tables

section Requests
variable {d : Deployment} {rows : List SessionKey} {userId : String} {start : ℤ} {key : Pubkey}

theorem asks_ask {Q : Request → Prop} {A : (r : Request) → Answer r → Prop} {α : Type} {r : Request}
    {f : Result r → Service α} (hr : Q r) (hf : ∀ x, A r (.ok x) → (f x).run.Asks Q A) :
    (ask r >>= f).run.Asks Q A := by
  refine ⟨hr, fun x hx => ?_⟩
  cases x with
  | ok x => exact hf x hx
  | error e => trivial

theorem asks_readsOnly {A : (r : Request) → Answer r → Prop} {α : Type} {x : Service α}
    (hx : x.run.Within Setting.ReadsOnly) :
    x.run.Asks (SignsUsable rows userId start key) A := by
  refine hx.asks fun r hr => ?_
  cases r with
  | submit submission => cases hr
  | _ => trivial

/-- The check that a session key is active finds a usable row. -/
theorem usable_of_filter {found : Option SessionKey} {now : ℤ} {e : Failure} {session : SessionKey}
    (hfound : found = rows.find? (·.keyHash = toBase58 key)) (hnow : start ≤ now)
    (hsession : orError
      (found.filter fun session => session.userId = userId ∧ session.revokedAt = none ∧
      session.activatedAt ≠ none ∧ ¬session.expiryAt ≤ now) e = .ok session) :
    ∃ row ∈ rows, row.keyHash = toBase58 key ∧ Usable userId start row := by
  obtain ⟨hsome, hactive⟩ := Option.filter_eq_some_iff.mp (orError_eq_ok.mp hsession)
  obtain ⟨huser, hrevoked, hactivated, hexpiry⟩ := of_decide_eq_true hactive
  rw [hfound] at hsome
  have hhash := List.find?_some hsome
  refine ⟨session, List.mem_of_find?_eq_some hsome, of_decide_eq_true hhash, huser, hrevoked,
    hactivated, ?_⟩
  omega

theorem asks_executeSessionTransfer {biometrics : Biometrics} {params : SessionTransferParams}
    (hkey : d.keypairFromSecret params.encryptedSessionKey = .ok key) :
    (executeSessionTransfer d biometrics params).run.Asks (SignsUsable rows params.userId start key)
      (Answering rows start) := by
  refine Fallible.asks_checkedThen fun _ _ => ?_
  refine Fallible.asks_checkedThen fun sessionKeypair hsame => ?_
  obtain rfl := Except.ok.inj (hkey.symm.trans hsame)
  refine asks_ask trivial fun found hfound => ?_
  refine asks_ask trivial fun now hnow => ?_
  refine Fallible.asks_checkedThen fun sessionRecord hsession => ?_
  have husable := usable_of_filter (hfound found rfl) (hnow now rfl) hsession
  refine Fallible.asks_checkedThen fun _ _ => ?_
  refine asks_ask trivial fun now _ => ?_
  refine asks_ask trivial fun recent _ => ?_
  refine Fallible.asks_checkedThen fun _ _ => ?_
  refine Fallible.asks_andThen (asks_readsOnly (Setting.within_activeSessionState d _ _))
    fun session => ?_
  refine Fallible.asks_checkedThen fun amount _ => ?_
  refine Fallible.asks_andThen (asks_readsOnly (Setting.within_getVaultUsdcBalance d _))
    fun balance => ?_
  refine Fallible.asks_checkedThen fun _ _ => ?_
  refine Fallible.asks_andThen ?_ fun signature => ?_
  · refine Fallible.asks_checkedThen fun transfer _ => ?_
    exact ⟨⟨rfl, husable⟩, fun _ _ => trivial⟩
  · refine Fallible.asks_andThen ?_ fun _ => Fallible.asks_andThen ?_
      fun _ => Fallible.asks_pure signature
    · unfold createSpendingRecord
      split
      · exact asks_readsOnly (Setting.within_ask trivial)
      · exact Fallible.asks_pure ()
    · exact asks_readsOnly (Setting.within_ignoringFailure (Setting.within_ask trivial))

theorem asks_requireActiveSession {α : Type} {f : SessionKey → Service α}
    (hf : ∀ session, (∃ row ∈ rows, row.keyHash = toBase58 key ∧ Usable userId start row) →
      (f session).run.Asks (SignsUsable rows userId start key) (Answering rows start)) :
    (Backend.SolanaRelayerService.requireActiveSession userId key >>= f).run.Asks
      (SignsUsable rows userId start key) (Answering rows start) := by
  refine ⟨trivial, fun found hfound => ?_⟩
  cases found with
  | error e => trivial
  | ok found =>
    refine ⟨trivial, fun now hnow => ?_⟩
    cases now with
    | error e => trivial
    | ok now =>
      exact Fallible.asks_checkedThen fun session hsession =>
        hf session (usable_of_filter (hfound found rfl) (hnow now rfl) hsession)

/-- The same for a payment link. -/
theorem asks_createPaymentLinkWithSession
    {params : Backend.SolanaRelayerService.CreatePaymentLinkParams}
    (hkey : d.keypairFromSecret params.encryptedSessionKey = .ok key) :
    (Backend.SolanaRelayerService.createPaymentLinkWithSession d params).run.Asks
      (SignsUsable rows params.userId start key) (Answering rows start) := by
  refine Fallible.asks_checkedThen fun sessionKeypair hsame => ?_
  obtain rfl := Except.ok.inj (hkey.symm.trans hsame)
  refine asks_requireActiveSession fun sessionRecord husable => ?_
  refine Fallible.asks_andThen (asks_readsOnly (Setting.within_assertAvailableDailyLimit d _ _))
    fun _ => ?_
  refine Fallible.asks_andThen (asks_readsOnly (Setting.within_activeSessionState d _ _))
    fun session => ?_
  refine Fallible.asks_checkedThen fun amount _ => ?_
  refine Fallible.asks_andThen (asks_readsOnly (Setting.within_getVaultUsdcBalance d _))
    fun balance => ?_
  refine Fallible.asks_checkedThen fun _ _ => ?_
  refine Fallible.asks_andThen ?_ fun created => ?_
  · refine Fallible.asks_checkedThen fun call _ => ?_
    refine Fallible.asks_andThen ?_ fun signature => Fallible.asks_pure _
    exact ⟨⟨rfl, husable⟩, fun _ _ => trivial⟩
  · exact Fallible.asks_andThen (asks_readsOnly (Setting.within_ask trivial))
      fun _ => Fallible.asks_pure _

end Requests

section Owners
variable {h : Host}

theorem sessionRecord_facts {config : Config} {draw : Draw} {grant : Grant} {row : SessionKey}
    (hrow : sessionRecord h config draw grant = .ok row) :
    row.userId = grant.userId ∧ row.keyHash = toBase58 (draw.keypair.publicKey h) ∧
      row.encryptedKey = SessionKeyWrapping.SymmetricCrypto.encryptSymmetric h draw.salt draw.iv
        (encodeKeypair h draw.keypair) (String.ofList (toHex draw.randomSymmetricKey.toList)) := by
  simp only [sessionRecord, bind_eq_ok, pure_eq_ok] at hrow
  obtain ⟨wrapped, -, rfl⟩ := hrow
  exact ⟨rfl, rfl, rfl⟩

/-- Whatever data key it is opened with, a copied column gives the keypair that it was made from. -/
theorem secret_of_copied (hexact : h.Exact) {originals : List (Original h)} {row : SessionKey}
    (hcopied : Copied originals row) {config : Config} {secret : String}
    (hopened : decryptSessionKey h config row = .ok secret) :
    ∃ other ∈ originals, secret = encodeKeypair h other.draw.keypair := by
  simp only [decryptSessionKey, bind_eq_ok] at hopened
  obtain ⟨-, -, symmetricKey, -, hdecrypted⟩ := hopened
  obtain ⟨other, hother, hcolumn⟩ := hcopied.encryptedKey
  rw [hcolumn, (sessionRecord_facts other.provisioned).2.2] at hdecrypted
  exact ⟨other, hother,
    SessionKeyWrapping.SymmetricCrypto.plaintext_of_decryptSymmetric hexact hdecrypted⟩

/-- A usable row under the public key of a generated keypair is that of its provisioning. -/
theorem signsOwn_of_signsUsable (hexact : h.Exact) (table : SessionTable h) {other : Original h}
    (hother : other ∈ table.originals) {userId : String} {start : ℤ} {r : Request}
    (hr : SignsUsable table.rows userId start (other.draw.keypair.publicKey h) r) :
    SignsOwn table userId (encodeKeypair h other.draw.keypair) start r := by
  cases r with
  | submit submission =>
    obtain ⟨hsigners, row, hrow, hhash, husable⟩ := hr
    obtain ⟨original, horiginal, hsameUser, hsameHash⟩ := (table.copied row hrow).own
    have hotherFacts := sessionRecord_facts other.provisioned
    have hsame : original = other :=
      table.unique original horiginal other hother (by rw [← hsameHash, hhash, hotherFacts.2.1])
    subst hsame
    refine ⟨original, horiginal, ?_, ?_, hsigners, row, hrow, hsameHash, husable⟩
    · rw [← hotherFacts.1, ← hsameUser, husable.userId]
    · exact SessionKeyWrapping.SolanaChainService.sessionKeypair_encodeKeypair hexact _
  | _ => trivial

/-- The row of a provisioning is read back as the keypair that was generated, and its key hash is
the public key. -/
def ReadBack (h : Host) (reader : Config) (keypair : Keypair) : SessionKeyWrapping.Request → Prop
  | .createSessionKey row => row.keyHash = toBase58 (keypair.publicKey h) ∧
      ∃ secret, decryptSessionKey h reader row = .ok secret ∧ sessionKeypair h secret = .ok keypair
  | _ => True

theorem asks_provisionSessionKey (hexact : h.Exact) {writer reader : Config}
    (hreads : writer.Reads reader) (draw : Draw) (grant : Grant) :
    (provisionSessionKey h writer draw grant).run.Asks (ReadBack h reader draw.keypair)
      fun _ _ => True := by
  refine Fallible.asks_checkedThen fun row hrow => ?_
  refine Fallible.asks_andThen ?_ fun _ => Fallible.asks_andThen ?_
    fun _ => Fallible.asks_andThen ?_ fun _ => Fallible.asks_pure _
  · refine ⟨⟨(sessionRecord_facts hrow).2.1, encodeKeypair h draw.keypair, ?_, ?_⟩,
      fun _ _ => trivial⟩
    · exact SessionKeyWrapping.SolanaRelayerService.decryptSessionKey_sessionRecord hexact
        hreads hrow
    · exact SessionKeyWrapping.SolanaChainService.sessionKeypair_encodeKeypair hexact draw.keypair
  · exact ⟨trivial, fun _ _ => trivial⟩
  · exact Fallible.asks_ignoringFailure ⟨trivial, fun _ _ => trivial⟩

/-- The rows that are to be written. -/
def createdRows (requests : List SessionKeyWrapping.Request) : List SessionKey :=
  requests.filterMap fun
    | .createSessionKey row => some row
    | _ => none

/-- Whatever is answered, a provisioning that succeeds has written one row, for its user and under
the public key that it returns, which is read back as the keypair that was generated. -/
def WritesOwn (h : Host) (writer reader : Config) (draw : Draw) (grant : Grant) : Prop :=
  ∀ {σ : Type} (carry : σ → (r : SessionKeyWrapping.Request) → SessionKeyWrapping.Answer r × σ)
    (s s' : σ) provisioned,
    (provisionSessionKey h writer draw grant).eval carry s = (.ok provisioned, s') →
      ∃ row, createdRows ((provisionSessionKey h writer draw grant).requests carry s) = [row] ∧
      row.userId = grant.userId ∧
        row.keyHash = provisioned.sessionPublicKey ∧
        ReadBack h reader draw.keypair (.createSessionKey row)

theorem writesOwn (hexact : h.Exact) {writer reader : Config} (hreads : writer.Reads reader)
    (draw : Draw) (grant : Grant) :
    WritesOwn h writer reader draw grant := by
  intro σ carry s s' provisioned hsucceeds
  have hasks : ∀ r ∈ (provisionSessionKey h writer draw grant).run.requests carry s, _ :=
    (asks_provisionSessionKey hexact hreads draw grant).requests
  obtain ⟨row, s₁, hrow, hwrites⟩ := Fallible.ok_of_eval_andThen hsucceeds
  obtain ⟨hrecord, rfl⟩ := Prod.mk.inj hrow
  obtain ⟨_, s₂, hcreated, hwrites⟩ := Fallible.ok_of_eval_andThen hwrites
  obtain ⟨_, s₃, hcached, hwrites⟩ := Fallible.ok_of_eval_andThen hwrites
  obtain ⟨_, s₄, hlogged, hreturns⟩ := Fallible.ok_of_eval_andThen hwrites
  obtain ⟨hprovisioned, -⟩ := Prod.mk.inj hreturns
  have hrequests : (provisionSessionKey h writer draw grant).run.requests carry s =
      [.createSessionKey row, .setSessionKey row,
        .auditEvent grant.userId "SESSION_KEY_CREATED" "SUCCESS"] := by
    unfold provisionSessionKey
    refine (Fallible.requests_andThen_ok hrow).trans ?_
    rw [Fallible.requests_andThen_ok hcreated, Fallible.requests_andThen_ok hcached,
      Fallible.requests_andThen_ok hlogged]
    rw [Fallible.requests_ignoringFailure]
    rfl
  rw [hrequests] at hasks
  refine ⟨row, ?_, (sessionRecord_facts hrecord).1, ?_, hasks _ List.mem_cons_self⟩
  · unfold Fallible.requests
    rw [hrequests]
    rfl
  · exact congrArg SessionKeyWrapping.Provisioned.sessionPublicKey (Except.ok.inj hprovisioned)

/-- What is written by a provisioning is read back, also after a change from the master secret to
the key service; and whatever rows encrypted columns were copied between, payments for a user are
signed only with keys of that user that may be used. -/
theorem session_keys_read_back_and_owned (h : Host) (hexact : h.Exact) :
    (∀ writer reader : Config, writer.Reads reader → ∀ draw grant,
      (provisionSessionKey h writer draw grant).run.Asks (ReadBack h reader draw.keypair)
        (fun _ _ => True) ∧
        WritesOwn h writer reader draw grant) ∧
    ∀ (table : SessionTable h) (config : Config), ∀ stored ∈ table.rows, ∀ secret,
      decryptSessionKey h config stored = .ok secret →
      ∀ (d : Deployment) (start : ℤ),
        (∀ biometrics params, params.encryptedSessionKey = secret →
          (executeSessionTransfer (opensWith d h) biometrics params).run.Asks
            (SignsOwn table params.userId secret start) (Answering table.rows start)) ∧
        ∀ params : Backend.SolanaRelayerService.CreatePaymentLinkParams,
          params.encryptedSessionKey = secret →
          (Backend.SolanaRelayerService.createPaymentLinkWithSession
            (opensWith d h) params).run.Asks
            (SignsOwn table params.userId secret start) (Answering table.rows start) := by
  refine ⟨fun writer reader hreads draw grant =>
    ⟨asks_provisionSessionKey hexact hreads draw grant, writesOwn hexact hreads draw grant⟩, ?_⟩
  intro table config stored hstored secret hopened d start
  obtain ⟨other, hother, rfl⟩ := secret_of_copied hexact (table.copied stored hstored) hopened
  have hkey : (opensWith d h).keypairFromSecret (encodeKeypair h other.draw.keypair) = .ok
      (other.draw.keypair.publicKey h) := by
    simp [opensWith, SessionKeyWrapping.SolanaChainService.sessionKeypair_encodeKeypair hexact,
      Except.map]
  generalize opensWith d h = deployment at hkey ⊢
  constructor
  · intro biometrics params hsecret
    exact (asks_executeSessionTransfer (hsecret ▸ hkey)).mono
      fun r hr => signsOwn_of_signsUsable hexact table hother hr
  · intro params hsecret
    exact (asks_createPaymentLinkWithSession (hsecret ▸ hkey)).mono
      fun r hr => signsOwn_of_signsUsable hexact table hother hr

end Owners

end VeriAgentPay.SessionKeyOwnership

namespace VeriAgentPay.Devnet
open FixedWidth CheckedOutcome Client InterleavedPrograms Backend SessionKeyOwnership TextEncodings
open SessionKeyWrapping (Host Config Draw Grant Keypair)
open SessionKeyWrapping.SolanaChainService (sessionKeypair encodeKeypair)
open SessionKeyWrapping.SolanaRelayerService (decryptSessionKey sessionRecord provisionSessionKey)

/-! Two users, whose encrypted columns were exchanged. -/

/-- Bytes with their end. -/
def delimited (bytes : Bytes) : Bytes := bytes.flatMap (fun b => [1, b]) ++ [0]

def undelimited : Bytes → Option (Bytes × Bytes)
  | 0 :: rest => some ([], rest)
  | 1 :: b :: rest => (undelimited rest).map fun (bytes, rest) => (b :: bytes, rest)
  | _ => none

theorem undelimited_delimited (bytes rest : Bytes) :
    undelimited (delimited bytes ++ rest) = some (bytes, rest) := by
  induction bytes with
  | nil => rfl
  | cons b bytes ih =>
    have hcons : delimited (b :: bytes) ++ rest = 1 :: b :: (delimited bytes ++ rest) := rfl
    rw [hcons, undelimited, ih, Option.map_some]

theorem delimited_inj {a b x y : Bytes} (hsame : delimited a ++ x = delimited b ++ y) :
    a = b ∧ x = y := by
  have hread := undelimited_delimited a x
  rw [hsame, undelimited_delimited] at hread
  exact Prod.mk.inj (Option.some.inj hread.symm)

theorem utf8_inj {a b : String} (hsame : utf8 a = utf8 b) : a = b := by
  have hread := Utf8.decode_toUTF8 a
  unfold utf8 at hsame
  rw [hsame, Utf8.decode_toUTF8] at hread
  exact (Option.some.inj hread).symm

def contextBytes (context : SessionKeyWrapping.Context) : Bytes :=
  delimited (utf8 context.purpose) ++
    match context.keyHash with
    | none => []
    | some keyHash => 1 :: utf8 keyHash

theorem contextBytes_inj {a b : SessionKeyWrapping.Context}
    (hsame : contextBytes a = contextBytes b) : a = b := by
  obtain ⟨hpurpose, hkeyHash⟩ := delimited_inj hsame
  cases a with
  | mk purpose keyHash =>
    cases b with
    | mk purpose' keyHash' =>
      obtain rfl := utf8_inj hpurpose
      cases keyHash with
      | none =>
        cases keyHash' with
        | none => rfl
        | some other => cases hkeyHash
      | some own =>
        cases keyHash' with
        | none => cases hkeyHash
        | some other => rw [utf8_inj (List.cons.inj hkeyHash).2]

def annSeed : FixedBytes 32 :=
  beBytes 32 0x9d61b19deffd5a60ba844af492ec2cc44449c5697b326919703bac031cae7f60
def bobSeed : FixedBytes 32 :=
  beBytes 32 0x4ccd089b28ff96da9db6c346ec114e0f5b8a319f35aba624da8cf6ed4fb8a6fb

/-- Ciphers that can be opened with nothing else than what they were sealed with, and two keys of
the curve. -/
def sealingHost : Host where
  scrypt password salt := utf8 password ++ salt
  encipher key iv plaintext := (plaintext, delimited key ++ delimited iv ++ plaintext)
  decipher key iv tag ciphertext := if tag = delimited key ++ delimited iv ++ ciphertext then
    some ciphertext else none
  encrypt keyId context plaintext _ :=
    .ok (some (delimited (utf8 keyId) ++ (delimited (contextBytes context) ++ plaintext)))
  decrypt keyId context ciphertext :=
    match undelimited ciphertext with
    | some (named, rest) =>
      match undelimited rest with
      | some (bound, plaintext) =>
        if (∀ key ∈ keyId, utf8 key = named) ∧ bound = contextBytes context then
          .ok (some plaintext)
        else .error (.error "InvalidCiphertextException")
      | none => .error (.error "InvalidCiphertextException")
    | none => .error (.error "InvalidCiphertextException")
  derive seed :=
    if seed = annSeed then
      beBytes 32 0xd75a980182b10ab7d54bfed3c964073a0ee172f3daa62325af021a68f707511a
    else if seed = bobSeed then
      beBytes 32 0x3d4017c3e843895a92b70aa74d1b7ebc9c982ccf2ec4968cc0cd55f12af4660c
    else seed
  nearest value := .finite value
  replaced _ := ""

theorem sealingHost_exact : sealingHost.Exact where
  decipher_iff key iv plaintext key' iv' plaintext' := by
    have hsplit : delimited key ++ delimited iv ++ plaintext = delimited key' ++ delimited iv' ++
        plaintext ↔ key' = key ∧ iv' = iv := by
      constructor
      · intro hsame
        rw [List.append_assoc, List.append_assoc] at hsame
        obtain ⟨rfl, hrest⟩ := delimited_inj hsame
        exact ⟨rfl, (delimited_inj hrest).1.symm⟩
      · rintro ⟨rfl, rfl⟩
        rfl
    simp only [sealingHost, Option.ite_none_right_eq_some, Option.some.injEq, hsplit, and_assoc,
      eq_comm (a := plaintext)]
  decrypt_iff keyId context plaintext draw ciphertext keyId' context' plaintext' hencrypted := by
    obtain rfl := Option.some.inj (Except.ok.inj hencrypted)
    have hkey : (∀ key ∈ keyId', utf8 key = utf8 keyId) ↔ ∀ named ∈ keyId', named = keyId :=
      forall₂_congr fun key _ => ⟨utf8_inj, congrArg utf8⟩
    have hbound : contextBytes context = contextBytes context' ↔ context' = context :=
      ⟨fun hsame => (contextBytes_inj hsame).symm, fun hsame => congrArg contextBytes hsame.symm⟩
    simp only [sealingHost, undelimited_delimited, hkey, hbound]
    by_cases hboth : (∀ named ∈ keyId', named = keyId) ∧ context' = context
    · rw [if_pos hboth, Except.ok.injEq, Option.some.injEq]
      exact ⟨fun hsame => ⟨hboth.1, hboth.2, hsame.symm⟩, fun hall => hall.2.2.symm⟩
    · rw [if_neg hboth]
      exact iff_of_false (fun herror => nomatch herror) fun hall => hboth ⟨hall.1, hall.2.1⟩
  nearest_eq _ _ := rfl

def masterOnly : Config :=
  ⟨none, some "9999999999999999999999999999999999999999999999999999999999999999"⟩
def withKms : Config := { masterOnly with kmsKeyId := some "alias/session-keys" }

theorem masterOnly_reads_withKms : masterOnly.Reads withKms := rfl

def annDraw : Draw :=
  { keypair := ⟨annSeed⟩, randomSymmetricKey := beBytes 32 1, salt := beBytes 16 2
    iv := beBytes 12 3, wrap := ⟨beBytes 16 4, beBytes 12 5, 0⟩
    id := "session-ann", now := 1750000000000 }

def bobDraw : Draw :=
  { keypair := ⟨bobSeed⟩, randomSymmetricKey := beBytes 32 6, salt := beBytes 16 7
    iv := beBytes 12 8, wrap := ⟨beBytes 16 9, beBytes 12 10, 0⟩
    id := "session-bob", now := 1750000000000 }

def weekFor (userId : String) : Grant := ⟨userId, 604800, 200000000, 50, 200⟩

/-- What the master secret makes of a data key. -/
def wrappedUnder (draw : Draw) : String :=
  SessionKeyWrapping.SymmetricCrypto.encryptSymmetric sealingHost draw.wrap.salt draw.wrap.iv
    (String.ofList (toHex draw.randomSymmetricKey.toList))
    "9999999999999999999999999999999999999999999999999999999999999999"

def encryptedUnder (draw : Draw) : String :=
  SessionKeyWrapping.SymmetricCrypto.encryptSymmetric sealingHost draw.salt draw.iv
    (encodeKeypair sealingHost draw.keypair)
    (String.ofList (toHex draw.randomSymmetricKey.toList))

def provisionedRow (draw : Draw) (userId : String) : SessionKey :=
  { id := draw.id, userId := userId, keyHash := toBase58 (draw.keypair.publicKey sealingHost)
    encryptedKey := encryptedUnder draw
    encryptedSymmetricKey := some (wrappedUnder draw), perTxLimitUSD := 50, dailyLimitUSD :=
      200, expiryAt := draw.now + 604800 * 1000
    revokedAt := none, activatedAt := none }

theorem wrapDataKey_masterOnly (draw : Draw) (context : SessionKeyWrapping.Context) :
    SessionKeyWrapping.KeyWrapping.wrapDataKey sealingHost masterOnly draw.wrap
      (String.ofList (toHex draw.randomSymmetricKey.toList)) context =
      .ok (wrappedUnder draw) := rfl

def originalOf (draw : Draw) (userId : String) : Original sealingHost :=
  ⟨masterOnly, draw, weekFor userId, provisionedRow draw userId, rfl⟩

/-- The row of one draw with the encrypted columns of another. -/
def exchangedRow (draw other : Draw) (userId : String) : SessionKey :=
  { provisionedRow draw userId with
    encryptedKey := encryptedUnder other, encryptedSymmetricKey :=
      some (wrappedUnder other), activatedAt := some 1750000000000 }

theorem keyHash_ne :
    (provisionedRow annDraw "ann").keyHash ≠ (provisionedRow bobDraw "bob").keyHash := by
  intro hsame
  have hkeys := toBase58_injective hsame
  revert hkeys
  decide +kernel

theorem copied_exchangedRow {originals : List (Original sealingHost)} {draw other : Draw}
    {userId otherId : String} (hown : originalOf draw userId ∈ originals)
    (hother : originalOf other otherId ∈ originals) :
    Copied originals (exchangedRow draw other userId) where
  own := ⟨_, hown, rfl, rfl⟩
  encryptedKey := ⟨_, hother, rfl⟩
  encryptedSymmetricKey := ⟨_, hother, rfl⟩

def exchanged : SessionTable sealingHost where
  originals := [originalOf annDraw "ann", originalOf bobDraw "bob"]
  rows := [exchangedRow annDraw bobDraw "ann", exchangedRow bobDraw annDraw "bob"]
  unique a ha b hb hsame := by
    rcases List.mem_pair.mp ha with rfl | rfl <;> rcases List.mem_pair.mp hb with rfl | rfl
    · rfl
    · exact absurd hsame keyHash_ne
    · exact absurd hsame.symm keyHash_ne
    · rfl
  copied row hrow := by
    have hann : originalOf annDraw "ann" ∈ [originalOf annDraw "ann", originalOf bobDraw "bob"] :=
      List.mem_pair.mpr (.inl rfl)
    have hbob : originalOf bobDraw "bob" ∈ [originalOf annDraw "ann", originalOf bobDraw "bob"] :=
      List.mem_pair.mpr (.inr rfl)
    rcases List.mem_pair.mp hrow with rfl | rfl
    · exact copied_exchangedRow hann hbob
    · exact copied_exchangedRow hbob hann

theorem exchanged_opened :
    decryptSessionKey sealingHost withKms (exchangedRow annDraw bobDraw "ann") = .ok
      (encodeKeypair sealingHost ⟨bobSeed⟩) :=
  SessionKeyWrapping.SolanaRelayerService.decryptSessionKey_of_wrapped sealingHost_exact
    masterOnly_reads_withKms
    (wrapDataKey_masterOnly bobDraw _) rfl rfl

def bobsTransfer : SessionKeyOwnership.SessionTransferParams :=
  ⟨"bob", toBase58 vault, toBase58 vault, encodeKeypair sealingHost ⟨bobSeed⟩, .finite 2, true⟩

/-- A database that takes every row. -/
def allCarried (s : Unit) (r : SessionKeyWrapping.Request) : SessionKeyWrapping.Answer r × Unit :=
  (.ok (), s)

/-- A row that was written under the master secret is read back once the key service is in use, and
what is read from Ann's row after the exchange is Bob's keypair, with which Bob's transfer is signed
and no other. -/
theorem session_keys_read_back_and_owned_devnet :
    (∃ row, createdRows
      ((provisionSessionKey sealingHost masterOnly annDraw (weekFor "ann")).requests allCarried
        ()) = [row] ∧
      row.userId = "ann" ∧ ReadBack sealingHost withKms ⟨annSeed⟩ (.createSessionKey row)) ∧
      (executeSessionTransfer (opensWith deployment sealingHost)
        ⟨.ok none, .ok false⟩ bobsTransfer).run.Asks
        (SignsOwn exchanged "bob" (encodeKeypair sealingHost ⟨bobSeed⟩) 1750000000000)
          (Answering exchanged.rows 1750000000000) := by
  obtain ⟨hread, howned⟩ := session_keys_read_back_and_owned sealingHost sealingHost_exact
  obtain ⟨-, hwrites⟩ := hread masterOnly withKms masterOnly_reads_withKms annDraw (weekFor "ann")
  obtain ⟨row, hcreated, huser, -, hback⟩ := hwrites allCarried () () _ rfl
  refine ⟨⟨row, hcreated, huser, hback⟩, ?_⟩
  have hstored : exchangedRow annDraw bobDraw "ann" ∈ exchanged.rows := List.mem_cons_self
  exact (howned exchanged withKms _ hstored _ exchanged_opened deployment 1750000000000).1
    ⟨.ok none, .ok false⟩ bobsTransfer rfl

end VeriAgentPay.Devnet
