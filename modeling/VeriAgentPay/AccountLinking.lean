import VeriAgentPay.IdentityServices
import VeriAgentPay.KeyedTables
import VeriAgentPay.ProgramCustody

/-!
# Linking a chat account

A code is issued to an account on the web and redeemed from a chat, or delivered to a chat and
entered on the web. The services share the table of codes; where a code was delivered is kept in
Redis.
-/

namespace VeriAgentPay.AccountLinking
open InterleavedPrograms KeyedTables
open InterleavedPrograms.Fallible (checked check onFailure dropResult)
open Backend (Failure trim truthy)
open CheckedOutcome (orError)
open Identity (SocialNode User Setting withoutAt isNumeric isWebPlaceholderUsername)
open Identity.IdentityService (platformIdColumn)

section Tables

/-- How Redis or the messenger meets a request: it is carried out, its answer is lost, or it is
refused. -/
inductive Outcome where
  | answered | lost | refused
  deriving DecidableEq

structure VerificationCode where
  code : String
  userId : String
  platform : String
  expiresAt : ℤ
  usedAt : Option ℤ
  usedBy : Option String
  deriving DecidableEq

def VerificationCode.use (now : ℤ) (usedBy : String) (row : VerificationCode) : VerificationCode :=
  { row with usedAt := some now, usedBy := some usedBy }

def VerificationCode.release (row : VerificationCode) : VerificationCode :=
  { row with usedAt := none, usedBy := none }

structure Target where
  platformUserId : String
  username : String
  deriving DecidableEq

/-- A code is sent by a chat, or entered in the session of an account. -/
inductive Via where
  | chat
  | web (userId : String)
  deriving DecidableEq

/-- An identity that was linked with a code. -/
structure Link where
  code : String
  platform : String
  platformUserId : String
  userId : String
  via : Via
  deriving DecidableEq

/-- What no service reads. -/
structure History where
  /-- Codes that a chat has sent to the bot, with its platform and its id. -/
  sent : List (String × String × String)
  /-- Codes that were delivered to a Telegram chat. -/
  delivered : List (String × String)
  /-- Codes that were returned to a web caller. -/
  disclosed : List String
  /-- Codes of which the web has read where they were delivered. -/
  read : List (String × String)
  links : List Link

def nodeKey (node : SocialNode) : String × String := (node.platform, node.platformUserId)

structure Tables where
  codes : Keyed VerificationCode.code
  nodes : Keyed nodeKey
  users : List User
  /-- The keys `link-otp:<code>`, and when they expire. -/
  bindings : String → Option (Target × ℤ)
  now : ℤ
  history : History

end Tables

section Requests

inductive Request where
  | now
  | findAccount (key : String)
  | createAccount (id address : String)
  | findUserById (id : String)
  | findUserByUsername (username : String) (choice : ℕ)
  | findNodeByUsername (username : String) (choice : ℕ)
  | findNode (platform platformUserId : String)
  | supersedeCodes (userId platform : String) (now : ℤ)
  | createCode (row : VerificationCode)
  | setBinding (code : String) (target : Target) (ttl : ℤ) (outcome : Outcome)
  | sendMessage (code platformUserId : String) (outcome : Outcome)
  | deleteBinding (code : String) (outcome : Outcome)
  | setPending (username code : String) (walletAddress : Option String) (expiresAt :
      ℤ) (outcome : Outcome)
  | disclose (code : String)
  | getBinding (code : String) (outcome : Outcome)
  | claimCode (code platform usedBy : String) (now : ℤ) (bySender : Bool)
  | findCode (code : String)
  | releaseCode (code : String)
  /-- The node of an identity; its platform is in lower case. -/
  | upsertNode (link : Link) (username : Option String)
  | setColumn (userId platform platformUserId : String)
  | renameUser (userId username : String)

abbrev Answer : Request → Type
  | .now => ℤ
  | .findAccount _ | .findUserById _ | .findUserByUsername _ _ => Option User
  | .createAccount _ _ | .createCode _ | .setBinding _ _ _ _ | .sendMessage _ _ _ | .setPending _ _
      _ _ _ => Bool
  | .findNodeByUsername _ _ | .findNode _ _ => Option SocialNode
  | .getBinding _ _ => Option Target
  | .claimCode _ _ _ _ _ => ℕ
  | .findCode _ => Option VerificationCode
  | .supersedeCodes _ _ _ | .deleteBinding _ _ | .disclose _ | .releaseCode _ | .upsertNode _
      _ | .setColumn _ _ _
  | .renameUser _ _ => Unit

abbrev Service (α : Type) := Fallible Failure Request Answer α

def ask (r : Request) : Service (Answer r) := Fallible.ask r

namespace Tables

variable (d : Setting) (t : Tables)

/-- The binding of a code, if it has not expired. -/
def binding (code : String) : Option Target :=
  ((t.bindings code).filter fun entry => t.now < entry.2).map Prod.fst

def matchesAccount (key : String) (user : User) : Bool :=
  user.id = key || user.smartWallet.any fun wallet => d.equalsInsensitive wallet.address key

def matchesUsername (username : String) (user : User) : Bool :=
  user.telegramId.isSome && user.username.any (d.equalsInsensitive · username)

def usable (code platform : String) (now : ℤ) (row : VerificationCode) : Bool :=
  row.code = code && (row.platform = platform && (row.usedAt = none && now ≤ row.expiresAt))

/-- The account of a wallet that has no account yet. -/
def webAccount (id address : String) : User :=
  { Identity.blankUser id with
    username := some ("user_" ++ String.ofList ((address.toList.drop 2).take 6))
    smartWallet := some ⟨address, "0x0", "0x0", "salt"⟩ }

def upsertNode (link : Link) (platform : String) (username : Option String) : Keyed nodeKey :=
  match t.nodes.insert ⟨link.userId, platform, link.platformUserId, username.map withoutAt⟩ with
  | some nodes => nodes
  | none => t.nodes.update (fun node => nodeKey node = (platform, link.platformUserId))
      (fun node =>
        { node with
          userId := link.userId, username := ((truthy username).map withoutAt) <|> node.username })
        fun _ => rfl

def updateUser (userId : String) (data : User → User) : List User :=
  t.users.map fun user => if user.id = userId then data user else user

end Tables

open Tables in
/-- A request, carried out at once. -/
def carry (d : Setting) (t : Tables) : (r : Request) → Answer r × Tables
  | .now => (t.now, t)
  | .findAccount key => (t.users.find? (matchesAccount d key), t)
  | .createAccount id address =>
    let user := webAccount id address
    if t.users.any fun other => other.id = id || other.username = user.username then (false, t)
    else (true, { t with users := user :: t.users })
  | .findUserById id => (t.users.find? (·.id = id), t)
  | .findUserByUsername username choice =>
    (UnreliableStores.pick choice t.users (matchesUsername d username), t)
  | .findNodeByUsername username choice =>
    (UnreliableStores.pick choice t.nodes.rows fun node =>
      node.platform = "telegram" && node.username.any (d.equalsInsensitive · username), t)
  | .findNode platform platformUserId => (t.nodes.find? (platform, platformUserId), t)
  | .supersedeCodes userId platform now =>
    ((), { t with
      codes :=
        t.codes.update
          (fun row => row.userId = userId && (row.platform = platform && row.usedAt = none))
        (·.use now "superseded") fun _ => rfl })
  | .createCode row =>
    match t.codes.insert row with
    | some codes => (true, { t with codes := codes })
    | none => (false, t)
  | .setBinding code target ttl outcome =>
    (outcome = .answered,
      if outcome = .refused then t
        else { t with bindings := Function.update t.bindings code (some (target, t.now + ttl)) })
  | .sendMessage code platformUserId outcome =>
    (outcome = .answered,
      if outcome = .refused then t
      else { t with
        history := { t.history with
          delivered := (code, platformUserId) :: t.history.delivered } })
  | .deleteBinding code outcome =>
    ((), if outcome = .refused then t
      else { t with bindings := Function.update t.bindings code none })
  | .setPending _ _ _ _ outcome => (outcome = .answered, t)
  | .disclose code =>
    ((), { t with history := { t.history with disclosed := code :: t.history.disclosed } })
  | .getBinding code outcome =>
    let found := if outcome = .answered then t.binding code else none
    (found, { t with history := { t.history with
      read := (found.map fun target => (code, target.platformUserId)).toList ++ t.history.read } })
  | .claimCode code platform usedBy now bySender =>
    (t.codes.count (usable code platform now),
      { t with
        codes := t.codes.update (usable code platform now) (·.use now usedBy) fun _ => rfl
        history := { t.history with
          sent := if bySender then (code, platform, usedBy) :: t.history.sent
            else t.history.sent } })
  | .findCode code => (t.codes.find? code, t)
  | .releaseCode code =>
    ((), { t with codes := t.codes.update (·.code = code) VerificationCode.release fun _ => rfl })
  | .upsertNode link username =>
    ((), { t with
      nodes := t.upsertNode link (d.toLowerCase link.platform) username
      history := { t.history with links := link :: t.history.links } })
  | .setColumn userId platform platformUserId =>
    ((), match platformIdColumn d platform with
      | some column =>
        if t.users.any fun user => user.id ≠ userId && column.get user = some platformUserId then t
        else { t with users := t.updateUser userId (column.set (some platformUserId)) }
      | none => t)
  | .renameUser userId username =>
    ((), if t.users.any fun user => user.id ≠ userId && user.username = some username then t
      else { t with
        users := t.updateUser userId fun user => { user with username := some username } })

end Requests

namespace IdentityService

variable (d : Setting)

def syncSocialNode (link : Link) (username : Option String) : Service Bool := do
  let normalizedPlatform := d.toLowerCase link.platform
  let existing ← ask (.findNode normalizedPlatform link.platformUserId)
  if existing.any fun node => node.userId ≠ link.userId then pure false
  else do
    ask (.upsertNode link username)
    ask (.setColumn link.userId normalizedPlatform link.platformUserId)
    pure true

def promoteWebPlaceholderUsername (userId : String) (username : Option String) : Service Unit :=
  match truthy (username.map fun username => trim (withoutAt username)) with
  | none => pure ()
  | some handle => do
    let user ← ask (.findUserById userId)
    if isWebPlaceholderUsername (user.bind fun user => user.username) then
      ask (.renameUser userId handle) else pure ()

/-- Whether the account was linked already. -/
def linkAccount (link : Link) (username : Option String) : Service Bool := do
  check (platformIdColumn d (d.toLowerCase link.platform)).isSome
    (.badRequest ("Unsupported platform: " ++ link.platform))
  let user ← ask (.findUserById link.userId)
  check user.isSome (.notFound "Account not found")
  let existing ← ask (.findNode (d.toLowerCase link.platform) link.platformUserId)
  match existing with
  | some node =>
    if node.userId = link.userId then pure true
    else checked (.error (.badRequest ("This " ++ link.platform ++ " account is already linked to a different VeriAgent Pay " ++
      "account. Disconnect it there first.")))
  | none => do
    let ok ← syncSocialNode d link username
    check ok (.badRequest ("This " ++ link.platform ++ " account is already linked elsewhere."))
    promoteWebPlaceholderUsername link.userId username
    pure false

end IdentityService

namespace AccountService

variable (d : Setting)

def LINK_OTP_TTL_SECONDS : ℤ := 600

/-- What `requestLink` returns, less its texts. -/
inductive Instructions where
  | otp (maskedTarget : String) (expiresAt : ℤ)
  | deeplink (code : String) (expiresAt : ℤ)
  | oauth (state : String)

/-- What is drawn at random, what the calls outside do, and which rows the queries return. -/
structure Circumstances where
  code : String
  newId : String
  oauthClientId : Option String
  hasBot : Bool
  choice : ℕ
  sets : Outcome
  sends : Outcome
  deletes : Outcome
  setsPending : Outcome

def createAccount (newId key : String) : Service String := do
  let created ← ask (.createAccount newId (d.toLowerCase key))
  pure (if created then newId else key)

def resolveOrCreateUser (newId key : String) : Service String := do
  let user ← ask (.findAccount key)
  match user with
  | some user => pure user.id
  | none => if "0x".toList.isPrefixOf key.toList then createAccount d newId key else pure key

def telegramUser (username : String) (choice : ℕ) : Service (Option Target) := do
  let user ← ask (.findUserByUsername username choice)
  pure (((user.bind fun user => user.telegramId).filter isNumeric).map (⟨·, username⟩))

def resolveTelegramTarget (handle : String) (choice : ℕ) : Service (Option Target) :=
  let username := trim (withoutAt handle)
  if username = "" then pure none
  else do
    let node ← ask (.findNodeByUsername username choice)
    match (node.map SocialNode.platformUserId).filter isNumeric with
    | some platformUserId => pure (some ⟨platformUserId, username⟩)
    | none => telegramUser username choice

/-- Whether the code was delivered; if that failed, the binding is deleted as far as Redis can. -/
def deliver (c : Circumstances) (target : Target) : Service Bool := do
  let bound ← ask (.setBinding c.code target (LINK_OTP_TTL_SECONDS * 1000) c.sets)
  if bound then do
    let sent ← ask (.sendMessage c.code target.platformUserId c.sends)
    if sent then pure true
    else do
      ask (.deleteBinding c.code c.deletes)
      pure false
  else do
    ask (.deleteBinding c.code c.deletes)
    pure false

/-- The target the code was delivered to, if it was. -/
def sendOtp (c : Circumstances) (resolvedUserId handle : String) : Service (Option Target) := do
  let target ← resolveTelegramTarget handle c.choice
  match target.filter fun _ => c.hasBot with
  | none => pure none
  | some target => do
    let owner ← ask (.findNode "telegram" target.platformUserId)
    check (owner.all fun node => node.userId = resolvedUserId) (.error ("@" ++ target.username ++
      " is already linked to another VeriAgent Pay account. Disconnect it there first."))
    let delivered ← deliver c target
    pure (if delivered then some target else none)

def savePending (c : Circumstances) (resolvedUserId handle : String) (expiresAt : ℤ) :
    Service Unit :=
  let normalizedHandle := d.toLowerCase (trim (withoutAt handle))
  if normalizedHandle = "" then pure ()
  else do
    let user ← ask (.findUserById resolvedUserId)
    let saved ← ask (.setPending normalizedHandle c.code
      (user.bind fun user => user.smartWallet.map Backend.SmartWallet.address) expiresAt
        c.setsPending)
    check saved (.error "Redis is not available")

def returnCode (c : Circumstances) (expiresAt : ℤ) : Service Instructions := do
  ask (.disclose c.code)
  pure (.deeplink c.code expiresAt)

/-- The code for a Telegram handle. -/
def requestByHandle (c : Circumstances) (resolvedUserId handle : String) (expiresAt : ℤ) :
    Service Instructions := do
  let target ← sendOtp c resolvedUserId handle
  match target with
  | some target => pure (.otp ("@" ++ target.username) expiresAt)
  | none => do
    savePending d c resolvedUserId handle expiresAt
    returnCode c expiresAt

def requestLink (c : Circumstances) (key platform : String) (handle : Option String) :
    Service Instructions := do
  check (platform ∈ ["telegram", "whatsapp", "discord", "slack"])
    (.badRequest "Unsupported social platform")
  let resolvedUserId ← resolveOrCreateUser d c.newId key
  let now ← ask .now
  if platform = "telegram" ∨ platform = "whatsapp" then do
    let expiresAt := now + 10 * 60 * 1000
    ask (.supersedeCodes resolvedUserId platform now)
    let created ← ask (.createCode ⟨c.code, resolvedUserId, platform, expiresAt, none, none⟩)
    check created (.error "Unique constraint failed on the fields: (`code`)")
    match (truthy handle).filter fun _ => platform = "telegram" with
    | some handle => requestByHandle d c resolvedUserId handle expiresAt
    | none => returnCode c expiresAt
  else do
    check c.oauthClientId.isSome
      (.badRequest
        (platform ++ " OAuth is not configured. Missing CLIENT_ID environment variable."))
    pure (.oauth ("st_" ++ resolvedUserId ++ "_" ++ toString now))

/-- The endpoint passes no `platformUserId`. -/
def verifyCode (newId key platform code : String) (username : Option String)
    (reads deletes : Outcome) :
    Service (Option SocialNode) := do
  check (trim code ≠ "") (.badRequest "Verification code is required")
  let otpTarget ← ask (.getBinding (trim code) reads)
  let target ← checked (orError (otpTarget.filter fun target => trim target.platformUserId ≠ "")
    (.badRequest "platformUserId is required — it identifies the account being linked."))
  let now ← ask .now
  let claimed ← ask (.claimCode (trim code) platform target.platformUserId now false)
  check (claimed = 1) (.badRequest "Invalid, expired, or already-used verification code")
  let found ← ask (.findCode (trim code))
  let record ← checked (orError found (.badRequest "Invalid verification code"))
  let resolvedUserId ← resolveOrCreateUser d newId key
  check (record.userId = resolvedUserId)
    (.badRequest "This verification code was issued for a different account")
  let _ ← onFailure
    (IdentityService.linkAccount d ⟨trim code, platform, target.platformUserId, record.userId,
      .web resolvedUserId⟩
      ((truthy username).orElse fun _ => some target.username))
    (ask (.releaseCode (trim code)))
  ask (.deleteBinding (trim code) deletes)
  ask (.findNode platform target.platformUserId)

end AccountService

namespace PlatformService

variable (d : Setting)

def invalidMessage : String := "❌ Invalid, expired, or already-used verification code.\n\n" ++
  "Please request a new code from the VeriAgent Pay Web Dashboard."

def linkedMessage (platform username : String) : String := "🎉 *Account Successfully Linked!*\n\n" ++
  "✅ Your " ++ platform ++ " account (@" ++ username ++
    ") is now securely linked to your VeriAgent Pay Smart Account on Solana.\n\n" ++
  "Your wallet, balances, and session keys are shared across every linked platform."

/-- Linking from the chat that has sent the code. -/
def redeem (code platform platformId username : String) (record : VerificationCode) :
    Service String := do
  let alreadyLinked ← onFailure
    (IdentityService.linkAccount d ⟨code, platform, platformId, record.userId, .chat⟩
      (some username))
    (ask (.releaseCode code))
  pure (if alreadyLinked then "✅ This " ++ platform ++
    " account is already linked to your VeriAgent Pay account."
    else linkedMessage platform username)

/-- `handleVerifyAction`. An error of `linkAccount` goes to the chat as a message. -/
def handleVerifyAction (platform platformId username code : String) : Service String := do
  if trim code = "" then
    pure ("ℹ️ Usage: /verify <code>\n\nGet your code from Settings → Linked Accounts in the web dashboard.")
  else do
    let now ← ask .now
    let claimed ← ask (.claimCode (trim code) platform platformId now true)
    if claimed ≠ 1 then pure invalidMessage
    else do
      let record ← ask (.findCode (trim code))
      match record with
      | none => pure invalidMessage
      | some record => redeem d (trim code) platform platformId username record

end PlatformService

/-- The entry points; the chats that send `/verify` or `/start verify_<code>` are those of the
platform. -/
inductive Operation where
  | requestLink (c : AccountService.Circumstances) (key platform : String) (handle : Option String)
  | verifyCode (newId key platform code : String) (username :
      Option String) (reads deletes : Outcome)
  | verifyByChat (platform platformId username code : String)

def Operation.program (d : Setting) : Operation → Program Request Answer Unit
  | requestLink c key platform handle => dropResult
    (AccountService.requestLink d c key platform handle)
  | verifyCode newId key platform code username reads deletes =>
    dropResult (AccountService.verifyCode d newId key platform code username reads deletes)
  | verifyByChat platform platformId username code =>
    dropResult (PlatformService.handleVerifyAction d platform platformId username code)

/-- The services side by side; time passes. -/
def linkingService (d : Setting) : StoreService Tables Operation Request Answer where
  program := Operation.program d
  carry _ _ := carry d
  passes n t := { t with now := t.now + n }

end VeriAgentPay.AccountLinking
