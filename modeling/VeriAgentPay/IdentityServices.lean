import VeriAgentPay.IdentityStore
import VeriAgentPay.PasskeyExecution

/-!
# The identity service

`IdentityService`, statement by statement, with the part of `HotStateService` that it uses and
the derivation of vault addresses. Writes that the service does not wait for are made where
they are started. Session keys that a query includes, logs and the tokens that are signed at
the end are left out.
-/

namespace VeriAgentPay.Identity
open FixedWidth CheckedOutcome Client UnreliableStores
open Backend
  (Failure SmartWallet trim isWhiteSpace truthy toHex compressedP256PublicKey bytes32FromStored
  findProgramAddressSync toBase58 isSolanaAddress)

section Texts

/-- `value.replace(/^@/, '')`. -/
def withoutAt (value : String) : String :=
  if value.toList.head? = some '@' then String.ofList value.toList.tail else value

def normalizePhone (input : String) : String :=
  trim (String.ofList (input.toList.filter fun c => ¬(isWhiteSpace c || c ∈ ['+', '-', '(', ')'])))

/-- `/^\d+$/.test(value)`. -/
def isNumeric (value : String) : Bool := value ≠ "" && value.toList.all Char.isDigit

def provisionalIdPrefix : String := "pending:"

def provisionalPlatformId (handle : String) : String := provisionalIdPrefix ++ withoutAt handle

def isProvisionalPlatformId (id : String) : Bool := provisionalIdPrefix.toList.isPrefixOf id.toList

/-- `/^web_[0-9a-f]{10}$/.test(username)`. -/
def isWebPlaceholderUsername (username : Option String) : Bool :=
  username.any fun name =>
    "web_".toList.isPrefixOf name.toList && name.toList.length = 14 &&
      (name.toList.drop 4).all fun c => c.isDigit || ('a' ≤ c && c ≤ 'f')

end Texts

section Addresses

variable (rt : Runtime)

def identitySalt (platform platformId : String) : FixedBytes 32 :=
  rt.sha256 (utf8 ("veriagent:solana:identity:v1\x00" ++ platform ++ "\x00" ++ platformId))

def rootKeyHash (publicKeyX publicKeyY : String) : Except Failure (FixedBytes 32) := do
  let key ← compressedP256PublicKey publicKeyX publicKeyY
  pure (rt.sha256 key)

def deriveVaultAddress (rootHash salt : Bytes) : Except Failure String := do
  require (rootHash.length = 32 ∧ salt.length = 32)
    (.error "Solana vault root hash and identity salt must each contain 32 bytes")
  let key ← findProgramAddressSync rt [vaultSeed, rootHash, salt]
  pure (toBase58 key)

/-- `0x` and the digits of a hash. -/
def hexText (bytes : Bytes) : String := String.ofList ('0' :: 'x' :: toHex bytes)

/-- The address with the salt it was derived with. -/
def deriveVaultFromPasskey (publicKeyX publicKeyY platform platformId : String) :
    Except Failure (String × FixedBytes 32) := do
  let rootHash ← rootKeyHash rt publicKeyX publicKeyY
  let salt := identitySalt rt platform platformId
  let address ← deriveVaultAddress rt rootHash.toList salt.toList
  pure (address, salt)

def computeCounterfactualAddress (salt ownerKeyHash : String) : Except Failure String := do
  let ownerKeyHash ← bytes32FromStored ownerKeyHash
  let salt ← bytes32FromStored salt
  deriveVaultAddress rt ownerKeyHash salt

end Addresses

namespace HotStateService

def normalizeHandle (handle : String) : String := withoutAt (trim handle)

def resolveHandle (handle : String) : Service (Option String) := do
  if handle = "" then pure none
  else query fun _ t => truthy (t.handles (normalizeHandle handle))

def setHandleMapping (handle address : String) : Service Unit := do
  if handle = "" ∨ address = "" then pure ()
  else ignoringFailure (statement fun t => pure (t.setHandle (normalizeHandle handle) address))

end HotStateService

/-- A wallet whose key nobody has set yet. -/
def SmartWallet.isPlaceholder (wallet : SmartWallet) : Bool :=
  wallet.publicKeyX = "0x0" || wallet.publicKeyX = "0"

def addressOf (user : Option User) : Option String :=
  truthy (user.bind fun user => user.smartWallet.map SmartWallet.address)

/-- The columns of a row that `create` leaves null. -/
def blankUser (id : String) : User :=
  { id := id, username := none, telegramId := none, whatsappId := none, discordId := none
    slackId := none
    smartWallet := none, sessionKeys := [], email := none, telegramChatId :=
      none, requireBiometricsAlways := false }

namespace IdentityService

variable (d : Setting)

def platformIdColumn (platform : String) : Option Column :=
  let platform := d.toLowerCase platform
  if platform = "telegram" then some .telegramId
  else if platform = "whatsapp" then some .whatsappId
  else if platform = "discord" then some .discordId
  else if platform = "slack" then some .slackId
  else none

/-- Whether the identity may be the user's; when it is another user's, nothing is written. -/
def syncSocialNode (userId platform platformUserId : String) (username : Option String) :
    Service Bool := do
  let normalizedPlatform := d.toLowerCase platform
  let existing ← findNodeByKey normalizedPlatform platformUserId
  if existing.any fun found => found.1.userId ≠ userId then pure false
  else do
    statement fun t => t.upsertNode normalizedPlatform platformUserId
      (fun node =>
        { node with
          userId := userId, username := ((truthy username).map withoutAt) <|> node.username })
      { userId := userId, platform := normalizedPlatform, platformUserId := platformUserId
        username := username.map withoutAt }
    match platformIdColumn d normalizedPlatform with
    | some column => ignoringFailure (updateUser userId (column.set (some platformUserId)))
    | none => pure ()
    pure true

/-- The account at a provisional id, by the link table or by the column. -/
def provisionalHolder (column : Column) (platform provisionalId : String) :
    Service (Option String) := do
  let node ← findNodeByKey platform provisionalId
  match node with
  | some (node, _) => pure (some node.userId)
  | none => do
    let user ← findUser fun user => column.get user = some provisionalId
    pure (user.map fun user => user.id)

/-- Both statements or neither; without them the account stays where it is. -/
def adoptHolder (column : Column) (platform provisionalId platformUserId username userId : String) :
    Service (Option String) :=
  tryCatch
    (do
      statement fun t => do
        let t ← t.upsertNode platform provisionalId
          (fun node =>
            { node with platformUserId := platformUserId, username := some (withoutAt username) })
          { userId := userId, platform := platform, platformUserId := platformUserId
            username := some (withoutAt username) }
        t.updateUser userId (column.set (some platformUserId))
      pure (some userId))
    fun _ => pure none

/-- The adopted user's id. -/
def adoptProvisionalAccount (platform platformUserId : String) (username : Option String) :
    Service (Option String) :=
  match truthy username, platformIdColumn d platform with
  | some username, some column =>
    let provisionalId := provisionalPlatformId username
    if provisionalId = provisionalIdPrefix ++ platformUserId then pure none
    else do
      let userId ← provisionalHolder column platform provisionalId
      match userId with
      | none => pure none
      | some userId => adoptHolder column platform provisionalId platformUserId username userId
  | _, _ => pure none

def resolveUser (platform platformUserId : String) (username : Option String) :
    Service (Option User) := do
  if platform = "" ∨ platformUserId = "" then pure none
  else do
    let normalizedPlatform := d.toLowerCase platform
    let node ← findNodeByKey normalizedPlatform platformUserId
    match node.bind Prod.snd with
    | some user => pure (some user)
    | none =>
      match platformIdColumn d normalizedPlatform with
      | none => pure none
      | some column => do
        let user ← findUser fun user => column.get user = some platformUserId
        match user with
        | some user => do
          ignoringFailure do
            let _ ← syncSocialNode d user.id normalizedPlatform platformUserId
              (truthy user.username)
            pure ()
          pure (some user)
        | none => do
          let adoptedUserId ← adoptProvisionalAccount d normalizedPlatform platformUserId username
          match adoptedUserId.bind fun id => truthy (some id) with
          | none => pure none
          | some adoptedUserId => findUserById adoptedUserId

/-- A handle that another account holds leaves the placeholder in place. -/
def promoteWebPlaceholderUsername (userId : String) (username : Option String) : Service Unit := do
  match truthy (username.map fun username => trim (withoutAt username)) with
  | none => pure ()
  | some handle => do
    let user ← findUserById userId
    if ¬isWebPlaceholderUsername (user.bind fun user => user.username) then pure ()
    else do
      let renamed ← tryCatch
        (do
          updateUser userId fun user => { user with username := some handle }
          pure true)
        fun _ => pure false
      match renamed, addressOf user with
      | true, some address => HotStateService.setHandleMapping handle address
      | _, _ => pure ()

/-- Whether the account was linked already. -/
def linkAccount (userId platform platformUserId : String) (username : Option String) :
    Service Bool := do
  let normalizedPlatform := d.toLowerCase platform
  check (platformIdColumn d normalizedPlatform).isSome
    (.badRequest s!"Unsupported platform: {platform}")
  let user ← findUserById userId
  check user.isSome (.notFound "Account not found")
  let existing ← findNodeByKey normalizedPlatform platformUserId
  match existing with
  | some (node, _) => do
    check (node.userId = userId) (.badRequest
      s!"This {platform} account is already linked to a different VeriAgent Pay account. Disconnect it there first.")
    pure true
  | none => do
    let ok ← syncSocialNode d userId normalizedPlatform platformUserId username
    check ok (.badRequest s!"This {platform} account is already linked elsewhere.")
    promoteWebPlaceholderUsername userId username
    pure false

def unlinkAccount (userId platform : String) : Service Unit := do
  let normalizedPlatform := d.toLowerCase platform
  let column ← checked (orError (platformIdColumn d normalizedPlatform)
    (.badRequest s!"Unsupported platform: {platform}"))
  let (user, otherNodes) ← query fun n t =>
    (pick n t.users (·.id = userId),
      t.nodes.filter fun node => node.userId = userId ∧ node.platform ≠ normalizedPlatform)
  let user ← checked (orError user (.notFound "Account not found"))
  check (¬(otherNodes = [] ∧ truthy user.email = none)) (.badRequest
    "This is your only sign-in method. Link another platform or add an email before disconnecting it.")
  statement fun t => pure (t.deleteNodes userId normalizedPlatform)
  ignoringFailure (updateUser userId (column.set none))

/-- The `where` of a registration. -/
def registers (platform platformId cleanUsername : String) (user : User) : Bool :=
  (platform = "telegram" &&
    (user.telegramId = some platformId || user.telegramId = some cleanUsername)) ||
    (platform = "whatsapp" && user.whatsappId = some platformId) ||
      user.username = some cleanUsername ||
    (platform ≠ "telegram" && user.username = some (d.toLowerCase cleanUsername))

/-- The column of the platform takes the id. -/
def withPlatformId (platform platformId : String) (user : User) : User :=
  { user with
    telegramId := if platform = "telegram" then some platformId else user.telegramId
    whatsappId := if platform = "whatsapp" then some platformId else user.whatsappId
    slackId := if platform = "slack" then some platformId else user.slackId
    discordId := if platform = "discord" then some platformId else user.discordId }

structure Registered where
  userId : String
  smartAccountAddress : String
  username : Option String

/-- `passkeyCredential.upsert` of the plaintext credential. -/
def storePlaintextCredential (newId userId credentialId publicKeyX publicKeyY : String) :
    Service Unit :=
  statement fun t =>
    if t.credentials.any fun row => row.credentialId = some credentialId then
      pure { t with credentials := t.credentials.map fun row =>
        if row.credentialId = some credentialId then
          { row with publicKeyX := some publicKeyX, publicKeyY := some publicKeyY }
        else row }
    else do
      require (¬t.credentials.any fun row => row.id = newId) uniqueViolation
      pure { t with credentials := t.credentials ++ [{
        id := newId, userId := userId, lookupHash := none, credentialId :=
          some credentialId, encryptedPayload := none
        kekVersion := 0, publicKeyX := some publicKeyX, publicKeyY := some publicKeyY, counter := 0
        credentialPublicKey := none, backedUp := false, lastUsedAt := none, revokedAt := none }] }

/-- The `data` of the update: the other columns are written back as they were read. -/
def registrationData (platform platformId cleanUsername : String) (existing row : User) : User :=
  { row with
    username := some cleanUsername
    telegramId := (withPlatformId platform platformId existing).telegramId
    whatsappId := (withPlatformId platform platformId existing).whatsappId
    slackId := (withPlatformId platform platformId existing).slackId
    discordId := (withPlatformId platform platformId existing).discordId }

/-- An account that was made for a recipient gets the wallet of the passkey; another keeps its
own. -/
def registerExisting (platform platformId cleanUsername : String) (wallet : SmartWallet)
    (existing : User) :
    Service User := do
  updateUser existing.id (registrationData platform platformId cleanUsername existing)
  let updated := registrationData platform platformId cleanUsername existing existing
  if existing.smartWallet.any SmartWallet.isPlaceholder then do
    updateUser existing.id fun row => { row with smartWallet := some wallet }
    pure { updated with smartWallet := some wallet }
  else pure updated

def registerNew (newId platform platformId cleanUsername : String) (wallet : SmartWallet) :
    Service User := do
  let user : User := { withPlatformId platform platformId (blankUser newId) with
    username := some cleanUsername, smartWallet := some wallet }
  createUser user
  pure user

/-- `newId` is the id of the row that is created, if one is. -/
def registerUser (newId platform platformId username pubKeyX pubKeyY credentialId : String) :
    Service Registered := do
  let (smartAccountAddress, salt) ← checked
    (deriveVaultFromPasskey d.rt pubKeyX pubKeyY platform platformId)
  let wallet : SmartWallet :=
    { address := smartAccountAddress, publicKeyX := pubKeyX, publicKeyY := pubKeyY
      salt := hexText salt.toList }
  let cleanUsername := withoutAt username
  let existing ← findUser (registers d platform platformId cleanUsername)
  let user ← existing.elim (registerNew newId platform platformId cleanUsername wallet)
    (registerExisting platform platformId cleanUsername wallet)
  (if platform = "web" then pure () else
    ignoringFailure do
      let _ ← syncSocialNode d user.id platform platformId (some cleanUsername)
      pure ())
  HotStateService.setHandleMapping username smartAccountAddress
  HotStateService.setHandleMapping platformId smartAccountAddress
  (if credentialId = "" then pure () else
    ignoringFailure (storePlaintextCredential newId user.id credentialId pubKeyX pubKeyY))
  pure { userId := user.id, smartAccountAddress := (addressOf (some user)).getD smartAccountAddress
         username := user.username }

/-- What a lookup compares: the handle as it was sent, without its `@`, and as a phone number. -/
structure Lookup where
  platform : String
  trimmed : String
  formattedHandle : String
  normalizedPhone : String

def Lookup.of (platform handle : String) : Lookup :=
  let trimmed := trim handle
  { platform := platform, trimmed := trimmed, formattedHandle := withoutAt trimmed
    normalizedPhone := normalizePhone trimmed }

def usernameMatch (lookup : Lookup) (value : String) (username : Option String) : Bool :=
  if d.toLowerCase lookup.platform = "telegram" then username = some value
  else username.any (d.equalsInsensitive value)

/-- The `where` of a lookup in the link table. -/
def matchesNode (lookup : Lookup) (node : SocialNode) : Bool :=
  d.equalsInsensitive lookup.platform node.platform &&
    (usernameMatch d lookup lookup.trimmed node.username ||
      usernameMatch d lookup lookup.formattedHandle node.username ||
      usernameMatch d lookup ("@" ++ lookup.formattedHandle) node.username ||
      node.platformUserId = lookup.formattedHandle ||
      (lookup.normalizedPhone ≠ "" && node.platformUserId = lookup.normalizedPhone))

/-- The `where` of a lookup in the table of users, whatever the platform. -/
def matchesUser (lookup : Lookup) (user : User) : Bool :=
  usernameMatch d lookup lookup.formattedHandle user.username ||
    user.telegramId = some lookup.formattedHandle ||
    user.whatsappId = some lookup.formattedHandle || user.discordId = some lookup.formattedHandle ||
    user.slackId = some lookup.formattedHandle ||
    (lookup.normalizedPhone ≠ "" &&
      (user.whatsappId = some lookup.normalizedPhone ||
        user.telegramId = some lookup.normalizedPhone))

def cachedAddress (lookup : Lookup) : Service (Option String) := do
  let cached ← HotStateService.resolveHandle lookup.formattedHandle
  if cached.isSome then pure cached
  else do
    let cached ← HotStateService.resolveHandle lookup.trimmed
    if cached.isSome then pure cached
    else if lookup.normalizedPhone ≠ "" then HotStateService.resolveHandle lookup.normalizedPhone
    else pure none

/-- A failure in this stage counts as no match. -/
def linkedAddress (lookup : Lookup) : Service (Option String) :=
  tryCatch
    (do
      let linkedNode ← findNode (matchesNode d lookup)
      match addressOf (linkedNode.bind Prod.snd) with
      | some address => do
        HotStateService.setHandleMapping lookup.trimmed address
        pure (some address)
      | none => pure none)
    fun _ => pure none

def registeredAddress (lookup : Lookup) : Service (Option String) := do
  let existingUser ← findUser (matchesUser d lookup)
  match existingUser, addressOf existingUser with
  | some existingUser, some address => do
    (if lookup.platform = "telegram" ∧ existingUser.telegramId ≠ some lookup.formattedHandle ∧
        isNumeric lookup.formattedHandle then
      ignoringFailure
        (updateUser existingUser.id (Column.telegramId.set (some lookup.formattedHandle)))
    else pure ())
    HotStateService.setHandleMapping lookup.trimmed address
    pure (some address)
  | _, _ => pure none

/-- The row of a recipient that nobody has registered. -/
def placeholderUser (newId : String) (lookup : Lookup) (address salt : String) : User :=
  let cleanHandle :=
    if lookup.platform = "telegram" then lookup.formattedHandle
      else d.toLowerCase lookup.formattedHandle
  { withPlatformId lookup.platform cleanHandle (blankUser newId) with
    username := some cleanHandle
    smartWallet :=
      some { address := address, publicKeyX := "0x0", publicKeyY := "0x0", salt := salt } }

/-- The salt and the address of a handle without an account. -/
def counterfactualWallet (lookup : Lookup) : Except Failure (String × String) := do
  let rawPlatformUserId := if lookup.normalizedPhone ≠ "" then lookup.normalizedPhone
    else lookup.formattedHandle
  let platformUserId := if lookup.platform = "telegram" then rawPlatformUserId
    else d.toLowerCase rawPlatformUserId
  let salt := hexText (identitySalt d.rt lookup.platform platformUserId).toList
  let placeholderHash := hexText (List.replicate 32 0)
  let address ← computeCounterfactualAddress d.rt salt placeholderHash
  pure (salt, address)

def counterfactualAddress (newId : String) (lookup : Lookup) : Service String := do
  let (salt, address) ← checked (counterfactualWallet d lookup)
  ignoringFailure (createUser (placeholderUser d newId lookup address salt))
  HotStateService.setHandleMapping lookup.trimmed address
  pure address

def resolveLookup (newId : String) (lookup : Lookup) (allowUnregisteredCounterfactual : Bool) :
    Service String := do
  check (lookup.trimmed ≠ "") (.badRequest "Recipient handle or address is required")
  if isSolanaAddress lookup.trimmed then pure lookup.trimmed
  else do
    let cached ← cachedAddress lookup
    match cached with
    | some address => pure address
    | none => do
      let linked ← linkedAddress d lookup
      match linked with
      | some address => pure address
      | none => do
        let registered ← registeredAddress d lookup
        match registered with
        | some address => pure address
        | none =>
          if allowUnregisteredCounterfactual then counterfactualAddress d newId lookup
          else
            let displayHandle := "@" ++ lookup.formattedHandle
            throwing (.notFound
              s!"{displayHandle} is not registered yet. Invite them to VeriAgent Pay!")

def resolveContact (newId platform handle : String) (allowUnregisteredCounterfactual : Bool) :
    Service String :=
  resolveLookup d newId (Lookup.of platform handle) allowUnregisteredCounterfactual

def linkTelegramChatId (newId platform platformId : String) (chatId : Option String)
    (username : String) (providedAddress : Option String) : Service String := do
  let existingUser ← findUser fun user =>
    if platform = "telegram" then user.telegramId = some platformId
      else user.username = some username
  let address ← (truthy providedAddress <|> addressOf existingUser).elim
    (resolveContact d newId platform platformId true) pure
  existingUser.elim
    (createUser { blankUser newId with
      username := some username, telegramId :=
        if platform = "telegram" then some platformId else none
      telegramChatId := chatId
      smartWallet := some { address := address, publicKeyX := "0x0", publicKeyY := "0x0"
                            salt := d.ethersId (platform ++ "_" ++ platformId) } })
    (fun existing => updateUser existing.id fun row =>
      { row with
        telegramId := if platform = "telegram" then some platformId else existing.telegramId
        telegramChatId := chatId <|> row.telegramChatId
        username := truthy (some username) <|> existing.username })
  HotStateService.setHandleMapping username address
  HotStateService.setHandleMapping platformId address
  (truthy chatId).elim (pure ()) fun chatId => HotStateService.setHandleMapping chatId address
  pure address

def resolveUserByHandle (handle : String) : Service (Option User) :=
  let formattedHandle := withoutAt handle
  findUser fun user =>
    user.username = some formattedHandle || user.telegramId = some formattedHandle ||
      user.whatsappId = some formattedHandle || user.discordId = some formattedHandle ||
      user.slackId = some formattedHandle

end IdentityService

end VeriAgentPay.Identity
