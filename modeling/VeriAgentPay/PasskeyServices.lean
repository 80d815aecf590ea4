import VeriAgentPay.BackendStore
import VeriAgentPay.KeyedTables
import VeriAgentPay.ScheduledPrograms
import VeriAgentPay.UnreliableStores

/-!
# Passkeys and sessions

The ceremonies that enrol and use passkeys, the refresh of sessions, logout and revocation, on the
tables of credentials, challenges and refresh tokens and the list of revoked access tokens.
-/

namespace VeriAgentPay.Passkeys
open InterleavedPrograms KeyedTables
open InterleavedPrograms.Fallible (checked check onFailure dropResult)
open Backend (Failure User)
open CheckedOutcome (orError)

section Tables

inductive DeviceType where
  | singleDevice | multiDevice | unknown
  deriving DecidableEq

/-- A row of the table `PasskeyCredential` with a lookup hash. Coordinates, in the open or in the
encrypted payload, stand as the key they make. -/
structure Credential where
  lookupHash : String
  id : ℕ
  userId : String
  credentialPublicKey : Option String
  encryptedPayload : Option String
  coordinates : Option String
  counter : ℕ
  deviceType : DeviceType
  backedUp : Bool
  revokedAt : Option ℤ
  deriving DecidableEq

inductive Flow where
  | registration | authentication
  deriving DecidableEq

structure Challenge where
  id : ℕ
  flow : Flow
  /-- The platform id of the stored context. -/
  platformId : String
  userId : Option String
  expiresAt : ℤ
  usedAt : Option ℤ
  deriving DecidableEq

structure RefreshToken where
  token : ℕ
  userId : String
  expiresAt : ℤ
  deriving DecidableEq

structure AccessToken where
  userId : String
  jti : ℕ
  exp : ℤ
  deriving DecidableEq

/-- A credential id with the account and the key for which it was enrolled. -/
structure Enrolment where
  lookupHash : String
  userId : String
  key : String
  deriving DecidableEq

/-- What no service reads. -/
structure History where
  /-- The refresh token with which a session began. -/
  origin : ℕ → ℕ
  /-- The sessions of the tokens that were deleted for a logout. -/
  ended : List ℕ
  /-- The first number that was not drawn when the tokens of an account were last deleted. -/
  floor : String → ℕ
  enrolled : List Enrolment
  /-- The credentials that the vault has begun. -/
  vaulted : List Enrolment
  /-- The sessions that an authentication has begun, with the key that signed. -/
  authenticated : List Enrolment

structure Tables where
  credentials : Keyed Credential.lookupHash
  challenges : Keyed Challenge.id
  tokens : List RefreshToken
  /-- The keys `jwt:revoked:<jti>`, and when they expire. -/
  revoked : ℕ → Option ℤ
  /-- The access tokens that were signed. -/
  issued : List AccessToken
  users : List User
  nextId : ℕ
  now : ℤ
  history : History

end Tables

section Requests

inductive Request where
  | now
  | verifyJwt (a : AccessToken)
  | signJwt (userId : String) (lifetime : ℤ)
  | isRevoked (a : AccessToken)
  | setRevoked (a : AccessToken) (ttl : ℤ)
  | deleteExpired (now : ℤ)
  | createChallenge (flow : Flow) (platformId : String) (userId : Option String) (expiresAt :
      ℤ) (bearer : Option AccessToken)
  | findChallenge (id : ℕ)
  | useChallenge (id : ℕ) (now : ℤ)
  | findUserById (id : String)
  | findUserByPlatformId (platformId : String) (choice : ℕ)
  | countCredentials (userId : String) (backedUp : Bool)
  | upsertCredential (lookupHash userId key : String) (counter : ℕ) (deviceType :
      DeviceType) (backedUp : Bool)
      (authenticated : Option String)
  | findCredential (lookupHash : String)
  | findOwnCredential (id : ℕ) (userId : String)
  | preparePublicKey (id : ℕ) (key : String)
  | useCredential (id counter : ℕ) (deviceType : DeviceType) (backedUp : Bool)
  | storeKey (id : ℕ) (key : String) (encrypted : Bool)
  | insertCredential (lookupHash userId key : String) (encrypted : Bool)
  | revokeCredential (id : ℕ) (now : ℤ)
  | createToken (userId : String) (expiresAt : ℤ) (parent : Option RefreshToken) (enrolment :
      Option Enrolment)
  | findToken (token : ℕ)
  | deleteToken (token : ℕ)
  | deleteTokens (token : ℕ)
  | deleteTokensOf (userId : String)

abbrev Answer : Request → Type
  | .now => ℤ
  | .verifyJwt _ | .isRevoked _ | .useCredential _ _ _ _ | .insertCredential _ _ _ _ | .deleteToken
      _ | .revokeCredential _ _ => Bool
  | .signJwt _ _ => AccessToken
  | .setRevoked _ _ | .deleteExpired _ | .upsertCredential _ _ _ _ _ _ _ | .storeKey _ _
      _ | .deleteTokens _
  | .deleteTokensOf _ => Unit
  | .createChallenge _ _ _ _ _ | .useChallenge _ _ | .countCredentials _ _ | .preparePublicKey _
      _ | .createToken _ _ _ _ => ℕ
  | .findChallenge _ => Option Challenge
  | .findUserById _ | .findUserByPlatformId _ _ => Option User
  | .findCredential _ | .findOwnCredential _ _ => Option Credential
  | .findToken _ => Option RefreshToken

abbrev Service (α : Type) := Fallible Failure Request Answer α

def ask (r : Request) : Service (Answer r) := Fallible.ask r

def Credential.isActive (row : Credential) : Bool :=
  row.revokedAt = none ∧ row.credentialPublicKey ≠ none

/-- The columns that a registration writes. -/
def Credential.register (userId key : String) (counter : ℕ) (deviceType : DeviceType)
    (backedUp : Bool) (row : Credential) :
    Credential :=
  { row with
    userId := userId
    credentialPublicKey := some key
    coordinates := some key
    counter := counter
    deviceType := deviceType
    backedUp := backedUp
    revokedAt := none }

def Credential.use (counter : ℕ) (deviceType : DeviceType) (backedUp : Bool) (row : Credential) :
    Credential :=
  { row with counter := counter, deviceType := deviceType, backedUp := backedUp }

def Credential.prepare (key : String) (row : Credential) : Credential :=
  { row with credentialPublicKey := some key, deviceType := .unknown, backedUp := false }

/-- With envelope encryption the payload replaces the coordinates in the open; without it, it is
left alone. -/
def Credential.store (key : String) (encrypted : Bool) (row : Credential) : Credential :=
  if encrypted then { row with encryptedPayload := some key, coordinates := none }
    else { row with coordinates := some key }

/-- What the vault reads. -/
def Credential.vaultKey (row : Credential) : Option String :=
  row.encryptedPayload.orElse fun _ => row.coordinates

def Credential.revoke (now : ℤ) (row : Credential) : Credential :=
  { row with revokedAt := some now }

def blankCredential (lookupHash : String) (id : ℕ) (userId : String) : Credential where
  lookupHash := lookupHash
  id := id
  userId := userId
  credentialPublicKey := none
  encryptedPayload := none
  coordinates := none
  counter := 0
  deviceType := .unknown
  backedUp := false
  revokedAt := none

theorem Credential.store_lookupHash (key : String) (encrypted : Bool) (row : Credential) :
    (row.store key encrypted).lookupHash = row.lookupHash := by
  unfold store
  split_ifs
  · rfl
  · rfl

namespace Tables

variable (t : Tables)

def updateCredential (id : ℕ) (condition : Credential → Bool) (data : Credential → Credential)
    (hdata : ∀ row, (data row).lookupHash = row.lookupHash) : Tables :=
  { t with
    credentials := t.credentials.update (fun row => row.id = id && condition row) data hdata }

def hasCredential (id : ℕ) (condition : Credential → Bool) : ℕ :=
  t.credentials.count fun row => row.id = id && condition row

/-- `upsert` on the lookup hash. -/
def upsertCredential (lookupHash userId key : String) (counter : ℕ) (deviceType : DeviceType)
    (backedUp : Bool) :
    Keyed Credential.lookupHash :=
  match t.credentials.insert
      ((blankCredential lookupHash t.nextId userId).register userId key counter deviceType backedUp) with
  | some credentials => credentials
  | none => t.credentials.update (·.lookupHash = lookupHash)
      (·.register userId key counter deviceType backedUp) fun _ => rfl

def isRevoked (jti : ℕ) : Bool := (t.revoked jti).any (t.now < ·)

end Tables

def bearsPlatformId (platformId : String) (user : User) : Bool :=
  user.telegramId = some platformId ∨ user.whatsappId = some platformId ∨
  user.slackId = some platformId ∨
    user.discordId = some platformId

/-- A request, carried out at once. -/
def carry (t : Tables) : (r : Request) → Answer r × Tables
  | .now => (t.now, t)
  | .verifyJwt a => (decide (a ∈ t.issued ∧ t.now / 1000 < a.exp), t)
  | .signJwt userId lifetime =>
    let a : AccessToken := ⟨userId, t.nextId, t.now / 1000 + lifetime⟩
    (a, { t with issued := a :: t.issued, nextId := t.nextId + 1 })
  | .isRevoked a => (t.isRevoked a.jti, t)
  | .setRevoked a ttl =>
    ((), { t with revoked := Function.update t.revoked a.jti (some (t.now + ttl * 1000)) })
  | .deleteExpired now => ((), { t with challenges := t.challenges.delete (·.expiresAt < now) })
  | .createChallenge flow platformId userId expiresAt _ =>
    (t.nextId, { t with
      challenges :=
        (t.challenges.insert ⟨t.nextId, flow, platformId, userId, expiresAt, none⟩).getD
          t.challenges
      nextId := t.nextId + 1 })
  | .findChallenge id => (t.challenges.find? id, t)
  | .useChallenge id now =>
    let usable : Challenge → Bool :=
      fun row => row.id = id && (row.usedAt = none && now < row.expiresAt)
    (t.challenges.count usable,
      { t with
        challenges := t.challenges.update usable (fun row => { row with usedAt := some now })
          fun _ => rfl })
  | .findUserById id => (t.users.find? (·.id = id), t)
  | .findUserByPlatformId platformId choice =>
    (UnreliableStores.pick choice t.users (bearsPlatformId platformId), t)
  | .countCredentials userId backedUp =>
    (t.credentials.count fun row => row.userId = userId &&
      (row.isActive && (!backedUp || row.backedUp)), t)
  | .upsertCredential lookupHash userId key counter deviceType backedUp _ =>
    ((), { t with
      credentials := t.upsertCredential lookupHash userId key counter deviceType backedUp
      nextId := t.nextId + 1
      history := { t.history with enrolled := ⟨lookupHash, userId, key⟩ :: t.history.enrolled } })
  | .findCredential lookupHash => (t.credentials.find? lookupHash, t)
  | .findOwnCredential id userId =>
    (t.credentials.rows.find? fun row => row.id = id &&
      (row.userId = userId && row.revokedAt = none), t)
  | .preparePublicKey id key =>
    (t.hasCredential id fun row => row.credentialPublicKey = none && row.revokedAt = none,
      t.updateCredential id (fun row => row.credentialPublicKey = none && row.revokedAt = none)
        (·.prepare key) fun _ => rfl)
  | .useCredential id counter deviceType backedUp =>
    (t.hasCredential id (fun _ => true) ≠ 0,
      t.updateCredential id (fun _ => true) (·.use counter deviceType backedUp) fun _ => rfl)
  | .storeKey id key encrypted =>
    ((), t.updateCredential id (fun _ => true) (·.store key encrypted)
      (Credential.store_lookupHash key encrypted))
  | .insertCredential lookupHash userId key encrypted =>
    match t.credentials.insert
        ((blankCredential lookupHash t.nextId userId).store key encrypted) with
    | some credentials =>
      (true, { t with
        credentials := credentials
        nextId := t.nextId + 1
        history := { t.history with vaulted := ⟨lookupHash, userId, key⟩ :: t.history.vaulted } })
    | none => (false, t)
  | .revokeCredential id now =>
    (t.hasCredential id (fun _ => true) ≠ 0,
      t.updateCredential id (fun _ => true) (·.revoke now) fun _ => rfl)
  | .createToken userId expiresAt parent enrolment =>
    (t.nextId, { t with
      tokens := ⟨t.nextId, userId, expiresAt⟩ :: t.tokens
      nextId := t.nextId + 1
      history := { t.history with
        origin :=
          Function.update t.history.origin t.nextId
            (parent.elim t.nextId fun row => t.history.origin row.token)
        authenticated := enrolment.toList ++ t.history.authenticated } })
  | .findToken token => (t.tokens.find? (·.token = token), t)
  | .deleteToken token =>
    (t.tokens.any (·.token = token), { t with tokens := t.tokens.filter (·.token ≠ token) })
  | .deleteTokens token =>
    ((), { t with
      tokens := t.tokens.filter (·.token ≠ token)
      history := { t.history with
        ended := if token < t.nextId then t.history.origin token :: t.history.ended
          else t.history.ended } })
  | .deleteTokensOf userId =>
    ((), { t with
      tokens := t.tokens.filter (·.userId ≠ userId)
      history := { t.history with floor := Function.update t.history.floor userId t.nextId } })

end Requests

/-- The setting `REQUIRE_RECOVERABLE_PASSKEY`, whether the vault has a key to encrypt under, and the
blind index of credential ids. -/
structure Host where
  requireRecoverablePasskey : Bool
  encrypts : Bool
  computeLookupHash : String → String

/-- What a registration's attestation gives, when it verifies. -/
structure RegistrationInfo where
  credentialId : String
  publicKey : String
  isP256 : Bool
  counter : ℕ
  deviceType : DeviceType
  backedUp : Bool

/-- An assertion: the key that signed it, whether the rest of it verifies, and what it reports. -/
structure Assertion where
  signedBy : String
  valid : Bool
  newCounter : ℕ
  deviceType : DeviceType
  backedUp : Bool

namespace WebAuthnService

def CHALLENGE_TTL_MS : ℤ := 5 * 60 * 1000

def issueSession (userId : String) (parent : Option RefreshToken) (enrolment : Option Enrolment) :
    Service (AccessToken × ℕ) := do
  let accessToken ← ask (.signJwt userId 900)
  let now ← ask .now
  let refreshToken ← ask (.createToken userId (now + 30 * 24 * 3600000) parent enrolment)
  pure (accessToken, refreshToken)

def saveChallenge (flow : Flow) (platformId : String) (userId : Option String)
    (bearer : Option AccessToken) : Service ℕ := do
  let now ← ask .now
  ask (.deleteExpired now)
  let later ← ask .now
  ask (.createChallenge flow platformId userId (later + CHALLENGE_TTL_MS) bearer)

def consumeChallenge (id : ℕ) (flow : Flow) : Service Challenge := do
  let found ← ask (.findChallenge id)
  let now ← ask .now
  let record ← checked (orError
    (found.filter fun record => record.flow = flow &&
      (record.usedAt = none && now < record.expiresAt))
    (.unauthorized "Passkey challenge is invalid, expired, or already used."))
  let later ← ask .now
  let consumed ← ask (.useChallenge id later)
  check (consumed = 1) (.unauthorized "Passkey challenge was already used.")
  pure record

/-- The account of a bearer token. Whether it was revoked is not asked. -/
def authenticateBearer (authorization : Option AccessToken) : Service (Option AccessToken) :=
  match authorization with
  | none => pure none
  | some a => do
    let verifies ← ask (.verifyJwt a)
    pure (if verifies then some a else none)

def bearerUserId (authorization : Option AccessToken) (isOnboardingOrClaim : Bool) :
    Service (Option AccessToken) :=
  if isOnboardingOrClaim then pure none else authenticateBearer authorization

/-- The endpoint. `anonymous` is the platform id that a claim code or a signed link authorizes, or
why none is. -/
def registrationOptions (authorization : Option AccessToken) (isOnboardingOrClaim : Bool)
    (anonymous : Except Failure String) :
    Service ℕ := do
  let bearer ← bearerUserId authorization isOnboardingOrClaim
  let found ← bearer.elim (pure none) fun a => ask (.findUserById a.userId)
  match bearer, found with
  | some a, some user =>
    let platformId :=
      ((user.telegramId.orElse fun _ => user.whatsappId).orElse fun _ => user.slackId).orElse
        fun _ => user.discordId
    saveChallenge .registration (platformId.getD "web:") (some user.id) (some a)
  | _, _ => do
    let platformId ← checked anonymous
    saveChallenge .registration platformId none none

def assertAccountRemainsRecoverable (host : Host) (authenticatedUserId : Option String)
    (deviceType : DeviceType) : Service Unit :=
  if ¬host.requireRecoverablePasskey ∨ deviceType = .multiDevice then pure ()
  else do
    let backedUpCount ← authenticatedUserId.elim (pure 0)
      fun userId => ask (.countCredentials userId true)
    check (0 < backedUpCount)
      (.badRequest ("This passkey is stored only on this device, so losing the device would " ++
      "permanently lose access to your wallet. Turn on iCloud Keychain or Google Password Manager and try again."))

def hasExistingPasskey (user : User) : Bool :=
  user.smartWallet.any fun wallet => wallet.publicKeyX ≠ "0" ∧ wallet.publicKeyX ≠ "0x0"

def findExistingUser (challenge : Challenge) (choice : ℕ) : Service (Option User) :=
  match challenge.userId with
  | some userId => ask (.findUserById userId)
  | none => ask (.findUserByPlatformId challenge.platformId choice)

/-- `registered` is what `registerUser` gives for an account without a passkey. -/
def userToEnrol (existingUser : Option User) (registered : Except Failure String) :
    Service String :=
  match existingUser.filter hasExistingPasskey with
  | some user => pure user.id
  | none => checked registered

def verifyRegistration (host : Host) (challengeId : ℕ) (response : Option RegistrationInfo)
    (choice : ℕ) (registered : Except Failure String) : Service (AccessToken × ℕ) := do
  let challenge ← consumeChallenge challengeId .registration
  let info ← checked (orError response (.unauthorized "Passkey registration verification failed."))
  check info.isP256 (.badRequest "Only P-256 passkeys are supported.")
  assertAccountRemainsRecoverable host challenge.userId info.deviceType
  let existingUser ← findExistingUser challenge choice
  let userId ← userToEnrol existingUser registered
  ask (.upsertCredential (host.computeLookupHash info.credentialId) userId info.publicKey
    info.counter info.deviceType info.backedUp
    challenge.userId)
  issueSession userId none none

/-- Where a credential has no key yet, it is made of the coordinates in the vault. -/
def ensureWebAuthnPublicKey (lookupHash : String) : Service Unit := do
  let existing ← ask (.findCredential lookupHash)
  if (existing.bind Credential.credentialPublicKey).isSome then pure ()
  else do
    let legacy ← ask (.findCredential lookupHash)
    match legacy.bind fun row => row.vaultKey.map fun key => (row.id, key) with
    | none => pure ()
    | some (id, key) => do
      let _ ← ask (.preparePublicKey id key)
      pure ()

def notRegistered : Failure :=
  .unauthorized "Passkey is not registered or must be securely re-enrolled."

def prepared (lookupHash : String) (stored : Option Credential) : Service (Option Credential) :=
  if (stored.bind Credential.credentialPublicKey).isNone ∧
    (stored.bind Credential.revokedAt).isNone then do
    ensureWebAuthnPublicKey lookupHash
    ask (.findCredential lookupHash)
  else pure stored

def findStored (lookupHash : String) : Service (Credential × String) := do
  let found ← ask (.findCredential lookupHash)
  let stored ← prepared lookupHash found
  checked (orError ((stored.filter fun row => row.revokedAt = none).bind fun row =>
    row.credentialPublicKey.map fun key => (row, key)) notRegistered)

def verifyAuthentication (host : Host) (challengeId : ℕ) (credentialId : String)
    (assertion : Assertion) :
    Service (AccessToken × ℕ) := do
  let _ ← consumeChallenge challengeId .authentication
  let lookupHash := host.computeLookupHash credentialId
  let (stored, key) ← findStored lookupHash
  check (assertion.valid ∧ assertion.signedBy = key)
    (.unauthorized "Passkey authentication verification failed.")
  let used ← ask
    (.useCredential stored.id assertion.newCounter assertion.deviceType assertion.backedUp)
  check used (.error "Record to update not found.")
  let found ← ask (.findUserById stored.userId)
  let user ← checked (orError found (.unauthorized "User account not found."))
  issueSession user.id none (some ⟨lookupHash, user.id, assertion.signedBy⟩)

def refreshToken (token : ℕ) : Service (AccessToken × ℕ) := do
  let found ← ask (.findToken token)
  let now ← ask .now
  let invalid : Failure := .unauthorized "Refresh token is invalid or expired"
  let stored ← checked (orError found invalid)
  if stored.expiresAt ≤ now then do
    let deleted ← ask (.deleteToken stored.token)
    check deleted (.error "Record to delete does not exist.")
    checked (.error invalid)
  else do
    let deleted ← ask (.deleteToken stored.token)
    check deleted (.error "Record to delete does not exist.")
    issueSession stored.userId (some stored) none

def logout (refreshToken : Option ℕ) (authorization : Option AccessToken) : Service Unit := do
  refreshToken.elim (pure ()) fun token => ask (.deleteTokens token)
  authorization.elim (pure ()) fun a => do
    let verifies ← ask (.verifyJwt a)
    if verifies then do
      let now ← ask .now
      ask (.setRevoked a (max 1 (a.exp - now / 1000)))
    else pure ()

def revokeCredential (userId : String) (id : ℕ) : Service Unit := do
  let found ← ask (.findOwnCredential id userId)
  check found.isSome (.badRequest "Passkey not found.")
  let activeCount ← ask (.countCredentials userId false)
  check (1 < activeCount) (.badRequest "Add another passkey before revoking your last passkey.")
  let now ← ask .now
  let updated ← ask (.revokeCredential id now)
  check updated (.error "Record to update not found.")
  ask (.deleteTokensOf userId)

/-- The guard of every endpoint that is not public. -/
def canActivate (authorization : Option AccessToken) : Service String := do
  let required : Failure := .unauthorized "Authentication required"
  let a ← checked (orError authorization required)
  let verifies ← ask (.verifyJwt a)
  check verifies required
  let revoked ← ask (.isRevoked a)
  check (¬revoked) required
  pure a.userId

/-- `storeCredential` of the vault; the payload stands as the key of its coordinates. -/
def storeCredential (host : Host) (credentialId userId key : String) : Service Unit := do
  let existing ← ask (.findCredential (host.computeLookupHash credentialId))
  match existing with
  | some row => ask (.storeKey row.id key host.encrypts)
  | none => do
    let inserted ← ask
      (.insertCredential (host.computeLookupHash credentialId) userId key host.encrypts)
    check inserted (.error "Unique constraint failed")

end WebAuthnService

/-- The entry points. -/
inductive Operation where
  | registrationOptions (authorization : Option AccessToken) (isOnboardingOrClaim :
      Bool) (anonymous : Except Failure String)
  | verifyRegistration (challengeId : ℕ) (response : Option RegistrationInfo) (choice :
      ℕ) (registered : Except Failure String)
  | authenticationOptions
  | verifyAuthentication (challengeId : ℕ) (credentialId : String) (assertion : Assertion)
  | refreshToken (token : ℕ)
  | logout (refreshToken : Option ℕ) (authorization : Option AccessToken)
  | revokeCredential (userId : String) (id : ℕ)
  | canActivate (authorization : Option AccessToken)
  | storeCredential (credentialId userId key : String)

def Operation.program (host : Host) : Operation → Program Request Answer Unit
  | registrationOptions authorization isOnboardingOrClaim anonymous =>
    dropResult (WebAuthnService.registrationOptions authorization isOnboardingOrClaim anonymous)
  | verifyRegistration challengeId response choice registered =>
    dropResult (WebAuthnService.verifyRegistration host challengeId response choice registered)
  | authenticationOptions => dropResult (WebAuthnService.saveChallenge .authentication "" none none)
  | verifyAuthentication challengeId credentialId assertion =>
    dropResult (WebAuthnService.verifyAuthentication host challengeId credentialId assertion)
  | refreshToken token => dropResult (WebAuthnService.refreshToken token)
  | logout token authorization => dropResult (WebAuthnService.logout token authorization)
  | revokeCredential userId id => dropResult (WebAuthnService.revokeCredential userId id)
  | canActivate authorization => dropResult (WebAuthnService.canActivate authorization)
  | storeCredential credentialId userId key =>
    dropResult (WebAuthnService.storeCredential host credentialId userId key)

/-- The services side by side; time passes. -/
def passkeyService (host : Host) : StoreService Tables Operation Request Answer where
  program := Operation.program host
  carry _ _ := carry
  passes n t := { t with now := t.now + n }

section Routine

open WebAuthnService

/-- The requests of which every call may make any: they need no knowledge of the tables. -/
def Request.isRoutine : Request → Bool
  | .createToken _ _ parent enrolment => parent = none ∧ enrolment = none
  | .setRevoked _ _ | .preparePublicKey _ _ => false
  | _ => true

variable {D : Discipline Tables Operation Request Answer} {i : ℕ} {op : Operation}
  {E : Tables → Prop}

/-- The routine requests keep to the discipline. -/
def KeepsRoutine (D : Discipline Tables Operation Request Answer) (i : ℕ) (op : Operation) : Prop :=
  ∀ r : Request, r.isRoutine → ∀ t, D.inv t → D.conditions.allows i op t r →
    D.grows t (D.service.carry i op t r).2 ∧ D.inv (D.service.carry i op t r).2

theorem upholds_routine (hD : KeepsRoutine D i op) {r : Request} (hr : r.isRoutine) :
    D.Upholds i op (ask r) (fun _ => True) (fun _ _ => True) E := by
  apply Discipline.Upholds.ask fun _ => Discipline.stable_const True
  intro t ht _ hallows
  exact ⟨(hD r hr t ht hallows).1, (hD r hr t ht hallows).2, trivial⟩

theorem upholds_issueSession_begun (hD : KeepsRoutine D i op) (userId : String) :
    D.Upholds i op (issueSession userId none none) (fun _ => True) (fun _ _ => True) E := by
  unfold issueSession
  apply Discipline.Upholds.bind (R := fun _ _ => True)
  · exact upholds_routine hD rfl
  intro accessToken
  apply Discipline.Upholds.bind (R := fun _ _ => True)
  · exact upholds_routine hD rfl
  intro now
  apply Discipline.Upholds.bind (R := fun _ _ => True)
  · exact upholds_routine hD rfl
  intro refreshToken
  exact Discipline.Upholds.pure fun _ _ _ => trivial

theorem upholds_saveChallenge (hD : KeepsRoutine D i op) (flow : Flow) (platformId : String)
    (userId : Option String) (bearer : Option AccessToken) :
    D.Upholds i op (saveChallenge flow platformId userId bearer) (fun _ => True)
      (fun _ _ => True) E := by
  unfold saveChallenge
  apply Discipline.Upholds.bind (R := fun _ _ => True)
  · exact upholds_routine hD rfl
  intro now
  apply Discipline.Upholds.bind (R := fun _ _ => True)
  · exact upholds_routine hD rfl
  intro _
  apply Discipline.Upholds.bind (R := fun _ _ => True)
  · exact upholds_routine hD rfl
  intro later
  exact upholds_routine hD rfl

theorem upholds_consumeChallenge (hD : KeepsRoutine D i op) (id : ℕ) (flow : Flow) :
    D.Upholds i op (consumeChallenge id flow) (fun _ => True) (fun _ _ => True) fun _ => True := by
  unfold consumeChallenge
  apply Discipline.Upholds.bind (R := fun _ _ => True)
  · exact upholds_routine hD rfl
  intro found
  apply Discipline.Upholds.bind (R := fun _ _ => True)
  · exact upholds_routine hD rfl
  intro now
  apply Discipline.Upholds.bind (R := fun _ _ => True)
  · exact Discipline.Upholds.checked (fun _ _ _ _ _ => trivial) fun _ _ => trivial
  intro record
  apply Discipline.Upholds.bind (R := fun _ _ => True)
  · exact upholds_routine hD rfl
  intro later
  apply Discipline.Upholds.bind (R := fun _ _ => True)
  · exact upholds_routine hD rfl
  intro consumed
  apply Discipline.Upholds.bind (R := fun _ _ => True)
  · exact Discipline.Upholds.require fun _ _ => trivial
  intro _
  exact Discipline.Upholds.pure fun _ _ _ => trivial

theorem upholds_authenticateBearer (hD : KeepsRoutine D i op) (authorization : Option AccessToken) :
    D.Upholds i op (authenticateBearer authorization) (fun _ => True) (fun _ _ => True) E := by
  cases authorization with
  | none => exact Discipline.Upholds.pure fun _ _ _ => trivial
  | some a =>
    unfold authenticateBearer
    dsimp only
    apply Discipline.Upholds.bind (R := fun _ _ => True)
    · exact upholds_routine hD rfl
    intro verifies
    exact Discipline.Upholds.pure fun _ _ _ => trivial

theorem upholds_registrationOptions (hD : KeepsRoutine D i op) (authorization : Option AccessToken)
    (isOnboardingOrClaim : Bool) (anonymous : Except Failure String) :
    D.Upholds i op (registrationOptions authorization isOnboardingOrClaim anonymous) (fun _ => True)
      (fun _ _ => True)
      fun _ => True := by
  unfold registrationOptions
  apply Discipline.Upholds.bind (R := fun _ _ => True)
  · unfold bearerUserId
    split_ifs
    · exact Discipline.Upholds.pure fun _ _ _ => trivial
    · exact upholds_authenticateBearer hD authorization
  intro bearer
  apply Discipline.Upholds.bind (R := fun _ _ => True)
  · cases bearer with
    | none => exact Discipline.Upholds.pure fun _ _ _ => trivial
    | some a => exact upholds_routine hD rfl
  intro found
  split
  · exact upholds_saveChallenge hD _ _ _ _
  · apply Discipline.Upholds.bind (R := fun _ _ => True)
    · exact Discipline.Upholds.checked (fun _ _ _ _ _ => trivial) fun _ _ => trivial
    intro platformId
    exact upholds_saveChallenge hD _ _ _ _

theorem upholds_assertAccountRemainsRecoverable (hD : KeepsRoutine D i op) (host : Host)
    (userId : Option String) (deviceType : DeviceType) :
    D.Upholds i op (assertAccountRemainsRecoverable host userId deviceType) (fun _ => True)
      (fun _ _ => True) fun _ => True := by
  unfold assertAccountRemainsRecoverable
  split_ifs
  · exact Discipline.Upholds.pure fun _ _ _ => trivial
  · apply Discipline.Upholds.bind (R := fun _ _ => True)
    · cases userId with
      | none => exact Discipline.Upholds.pure fun _ _ _ => trivial
      | some userId => exact upholds_routine hD rfl
    intro backedUpCount
    exact Discipline.Upholds.require fun _ _ => trivial

theorem upholds_verifyRegistration (hD : KeepsRoutine D i op) (host : Host) (challengeId : ℕ)
    (response : Option RegistrationInfo) (choice : ℕ) (registered : Except Failure String) :
    D.Upholds i op (verifyRegistration host challengeId response choice registered) (fun _ => True)
      (fun _ _ => True)
      fun _ => True := by
  unfold verifyRegistration
  apply Discipline.Upholds.bind (R := fun _ _ => True)
  · exact upholds_consumeChallenge hD challengeId .registration
  intro challenge
  apply Discipline.Upholds.bind (R := fun _ _ => True)
  · exact Discipline.Upholds.checked (fun _ _ _ _ _ => trivial) fun _ _ => trivial
  intro info
  apply Discipline.Upholds.bind (R := fun _ _ => True)
  · exact Discipline.Upholds.require fun _ _ => trivial
  intro _
  apply Discipline.Upholds.bind (R := fun _ _ => True)
  · exact upholds_assertAccountRemainsRecoverable hD host challenge.userId info.deviceType
  intro _
  apply Discipline.Upholds.bind (R := fun _ _ => True)
  · unfold findExistingUser
    split
    · exact upholds_routine hD rfl
    · exact upholds_routine hD rfl
  intro existingUser
  apply Discipline.Upholds.bind (R := fun _ _ => True)
  · unfold userToEnrol
    cases existingUser.filter hasExistingPasskey with
    | some user => exact Discipline.Upholds.pure fun _ _ _ => trivial
    | none => exact Discipline.Upholds.checked (fun _ _ _ _ _ => trivial) fun _ _ => trivial
  intro userId
  apply Discipline.Upholds.bind (R := fun _ _ => True)
  · exact upholds_routine hD rfl
  intro _
  exact upholds_issueSession_begun hD userId

theorem upholds_revokeCredential (hD : KeepsRoutine D i op) (userId : String) (id : ℕ) :
    D.Upholds i op (revokeCredential userId id) (fun _ => True) (fun _ _ => True)
      fun _ => True := by
  unfold revokeCredential
  apply Discipline.Upholds.bind (R := fun _ _ => True)
  · exact upholds_routine hD rfl
  intro found
  apply Discipline.Upholds.bind (R := fun _ _ => True)
  · exact Discipline.Upholds.require fun _ _ => trivial
  intro _
  apply Discipline.Upholds.bind (R := fun _ _ => True)
  · exact upholds_routine hD rfl
  intro activeCount
  apply Discipline.Upholds.bind (R := fun _ _ => True)
  · exact Discipline.Upholds.require fun _ _ => trivial
  intro _
  apply Discipline.Upholds.bind (R := fun _ _ => True)
  · exact upholds_routine hD rfl
  intro now
  apply Discipline.Upholds.bind (R := fun _ _ => True)
  · exact upholds_routine hD rfl
  intro updated
  apply Discipline.Upholds.bind (R := fun _ _ => True)
  · exact Discipline.Upholds.require fun _ _ => trivial
  intro _
  exact upholds_routine hD rfl

theorem upholds_canActivate (hD : KeepsRoutine D i op) (authorization : Option AccessToken) :
    D.Upholds i op (canActivate authorization) (fun _ => True) (fun _ _ => True) fun _ => True := by
  unfold canActivate
  apply Discipline.Upholds.bind (R := fun _ _ => True)
  · exact Discipline.Upholds.checked (fun _ _ _ _ _ => trivial) fun _ _ => trivial
  intro a
  apply Discipline.Upholds.bind (R := fun _ _ => True)
  · exact upholds_routine hD rfl
  intro verifies
  apply Discipline.Upholds.bind (R := fun _ _ => True)
  · exact Discipline.Upholds.require fun _ _ => trivial
  intro _
  apply Discipline.Upholds.bind (R := fun _ _ => True)
  · exact upholds_routine hD rfl
  intro revoked
  apply Discipline.Upholds.bind (R := fun _ _ => True)
  · exact Discipline.Upholds.require fun _ _ => trivial
  intro _
  exact Discipline.Upholds.pure fun _ _ _ => trivial

theorem upholds_storeCredential (hD : KeepsRoutine D i op) (host : Host)
    (credentialId userId key : String) :
    D.Upholds i op (storeCredential host credentialId userId key) (fun _ => True) (fun _ _ => True)
      fun _ => True := by
  unfold storeCredential
  apply Discipline.Upholds.bind (R := fun _ _ => True)
  · exact upholds_routine hD rfl
  intro existing
  cases existing with
  | some row => exact upholds_routine hD rfl
  | none =>
    apply Discipline.Upholds.bind (R := fun _ _ => True)
    · exact upholds_routine hD rfl
    intro inserted
    exact Discipline.Upholds.require fun _ _ => trivial

end Routine

end VeriAgentPay.Passkeys
