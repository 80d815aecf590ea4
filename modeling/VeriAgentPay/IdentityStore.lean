import VeriAgentPay.BackendStore
import VeriAgentPay.UnreliableStores

/-!
# The tables of accounts

Users with their wallets, the link table of platform identities, the cache from handles to
addresses, passkeys and their ceremonies. A statement that would break a unique or a foreign
key is refused and changes nothing.
-/

namespace VeriAgentPay.Identity
open FixedWidth CheckedOutcome Client UnreliableStores
open Backend (Failure SmartWallet ShortLink)

/-- A row of the table `User` with its wallet, as far as a modelled service reads it. -/
structure User extends Backend.User where
  email : Option String
  telegramChatId : Option String
  requireBiometricsAlways : Bool
  deriving DecidableEq

structure SocialNode where
  userId : String
  platform : String
  platformUserId : String
  username : Option String
  deriving DecidableEq

structure CredentialPayload where
  userId : String
  publicKeyX : String
  publicKeyY : String
  deriving DecidableEq

/-- A row of the table `PasskeyCredential`. The sealed payload stands for its ciphertext, its
wrapped key, its nonce and its tag. -/
structure PasskeyCredential where
  id : String
  userId : String
  lookupHash : Option (FixedBytes 32)
  credentialId : Option String
  encryptedPayload : Option CredentialPayload
  kekVersion : ℕ
  publicKeyX : Option String
  publicKeyY : Option String
  counter : ℕ
  credentialPublicKey : Option Bytes
  backedUp : Bool
  lastUsedAt : Option ℤ
  revokedAt : Option ℤ
  deriving DecidableEq

/-- What a caller sends to open a registration, less what only attribution uses. -/
structure RegistrationContext where
  platform : String
  platformId : String
  chatId : Option String
  username : String
  expires : Option String
  sig : Option String
  claimCode : Option String
  deriving DecidableEq

structure WebAuthnChallenge where
  id : String
  flow : String
  challenge : String
  context : Option RegistrationContext
  userId : Option String
  expiresAt : ℤ
  usedAt : Option ℤ
  deriving DecidableEq

/-- The tables, and the cache `handles` from normalised handles to addresses. -/
structure Tables where
  users : List User
  nodes : List SocialNode
  handles : String → Option String
  credentials : List PasskeyCredential
  challenges : List WebAuthnChallenge
  links : String → Option ShortLink

abbrev Service (α : Type) := Operation Tables Failure α

/-- The environment of the identity services. Case mapping, the comparison without regard to case,
the hash of old salts and the reading of COSE keys are parameters. -/
structure Setting where
  rt : Runtime
  toLowerCase : String → String
  equalsInsensitive : String → String → Bool
  /-- `ethers.id`. -/
  ethersId : String → String
  toLowerCase_toLowerCase : ∀ text, toLowerCase (toLowerCase text) = toLowerCase text
  toLowerCase_platform :
    ∀ platform ∈ ["telegram", "whatsapp", "discord", "slack"], toLowerCase platform = platform

section Columns

/-- The denormalised columns of `User` for platform ids. -/
inductive Column where
  | telegramId | whatsappId | discordId | slackId
  deriving DecidableEq

def Column.get (column : Column) (user : User) : Option String :=
  match column with
  | telegramId => user.telegramId
  | whatsappId => user.whatsappId
  | discordId => user.discordId
  | slackId => user.slackId

def Column.set (column : Column) (value : Option String) (user : User) : User :=
  match column with
  | telegramId => { user with telegramId := value }
  | whatsappId => { user with whatsappId := value }
  | discordId => { user with discordId := value }
  | slackId => { user with slackId := value }

@[simp] theorem Column.get_set_self (column : Column) (value : Option String) (user : User) :
    column.get (column.set value user) = value := by
  cases column <;> rfl

theorem Column.get_set_of_ne {column column' : Column} (h : column' ≠ column)
    (value : Option String) (user : User) :
    column'.get (column.set value user) = column'.get user := by
  cases column <;> cases column' <;> first | rfl | exact absurd rfl h

@[simp] theorem Column.set_id (column : Column) (value : Option String) (user : User) :
    (column.set value user).id = user.id := by
  cases column <;> rfl

@[simp] theorem Column.set_username (column : Column) (value : Option String) (user : User) :
    (column.set value user).username = user.username := by
  cases column <;> rfl

@[simp] theorem Column.set_smartWallet (column : Column) (value : Option String) (user : User) :
    (column.set value user).smartWallet = user.smartWallet := by
  cases column <;> rfl

@[simp] theorem Column.set_telegramChatId (column : Column) (value : Option String) (user : User) :
    (column.set value user).telegramChatId = user.telegramChatId := by
  cases column <;> rfl

end Columns

section Keys

/-- Null never equals null in a unique index. -/
def sameValue (a b : Option String) : Bool := a.isSome && a = b

/-- Two rows that no unique index of `User` and `SmartWallet` allows together. -/
def User.clashes (user user' : User) : Bool :=
  user.id = user'.id || sameValue user.email user'.email ||
    sameValue user.username user'.username ||
    sameValue user.telegramId user'.telegramId || sameValue user.whatsappId user'.whatsappId ||
    sameValue user.discordId user'.discordId || sameValue user.slackId user'.slackId ||
    sameValue (user.smartWallet.map SmartWallet.address) (user'.smartWallet.map SmartWallet.address)

def SocialNode.key (node : SocialNode) : String × String := (node.platform, node.platformUserId)

def uniqueViolation : Failure := .error "Unique constraint failed"

def foreignKeyViolation : Failure := .error "Foreign key constraint failed"

def recordNotFound : Failure := .error "Record to update not found"

end Keys

namespace Tables

variable (t : Tables)

def createUser (user : User) : Except Failure Tables := do
  require (¬t.users.any user.clashes) uniqueViolation
  pure { t with users := t.users ++ [user] }

def updateUser (id : String) (data : User → User) : Except Failure Tables := do
  let user ← orError (t.users.find? (·.id = id)) recordNotFound
  require (¬t.users.any fun other => other.id ≠ id && (data user).clashes other) uniqueViolation
  pure { t with users := t.users.map fun row => if row.id = id then data row else row }

/-- `socialNode.upsert` at a key; the update may move the row to another key. -/
def upsertNode (platform platformUserId : String) (update : SocialNode → SocialNode)
    (create : SocialNode) :
    Except Failure Tables := do
  match t.nodes.find? (·.key = (platform, platformUserId)) with
  | some node =>
    require (t.users.any fun user => user.id = (update node).userId) foreignKeyViolation
    require (¬t.nodes.any fun other => other.key ≠ node.key && other.key = (update node).key)
      uniqueViolation
    pure { t with nodes := t.nodes.map fun row => if row.key = node.key then update row else row }
  | none =>
    require (t.users.any fun user => user.id = create.userId) foreignKeyViolation
    require (¬t.nodes.any fun other => other.key = create.key) uniqueViolation
    pure { t with nodes := t.nodes ++ [create] }

def deleteNodes (userId platform : String) : Tables :=
  { t with nodes := t.nodes.filter fun node => ¬(node.userId = userId ∧ node.platform = platform) }

/-- The user that a node belongs to. -/
def ownerOf (node : SocialNode) : Option User := t.users.find? (·.id = node.userId)

def setHandle (handle address : String) : Tables :=
  { t with handles := Function.update t.handles handle (some address) }

end Tables

section Requests

def unavailable : Failure := .error "Service unavailable"

def query {α : Type} (f : ℕ → Tables → α) : Service α := read unavailable f

def statement (f : Tables → Except Failure Tables) : Service Unit :=
  request unavailable fun _ t => do
    let t' ← f t
    pure ((), t')

def checked {α : Type} (x : Except Failure α) : Service α := ExceptT.mk (pure x)

def throwing {α : Type} (e : Failure) : Service α := checked (.error e)

def check (c : Prop) [Decidable c] (e : Failure) : Service Unit := checked (require c e)

def ignoringFailure (x : Service Unit) : Service Unit := tryCatch x fun _ => pure ()

/-- `user.findFirst`, and `user.findUnique` where the condition is a unique key. -/
def findUser (p : User → Bool) : Service (Option User) := query fun n t => pick n t.users p

def findUserById (id : String) : Service (Option User) := findUser (·.id = id)

/-- `socialNode.findFirst` with the user it belongs to. -/
def findNode (p : SocialNode → Bool) : Service (Option (SocialNode × Option User)) :=
  query fun n t => (pick n t.nodes p).map fun node => (node, t.ownerOf node)

def findNodeByKey (platform platformUserId : String) :
    Service (Option (SocialNode × Option User)) :=
  findNode (·.key = (platform, platformUserId))

def createUser (user : User) : Service Unit := statement fun t => t.createUser user

def updateUser (id : String) (data : User → User) : Service Unit :=
  statement fun t => t.updateUser id data

end Requests

section Rules

variable {α : Type} {I P : Tables → Prop}

theorem keeps_checked (x : Except Failure α) : Keeps I (checked x) := by
  cases x with
  | ok a => exact Keeps.pure a
  | error e => exact Keeps.throw e

theorem ensures_checked {x : Except Failure α} {E : Tables → Prop} (herror : ∀ t, P t → E t) :
    Ensures P (checked x) (fun a t => P t ∧ x = .ok a) E := by
  cases x with
  | ok a => exact Ensures.pure fun t ht => ⟨ht, rfl⟩
  | error e => exact Ensures.throw herror

theorem keeps_query (f : ℕ → Tables → α) : Keeps I (query f) := Keeps.read

theorem ensures_statement {f : Tables → Except Failure Tables} {Q E : Tables → Prop}
    (hrefused : ∀ t, P t → E t) (h : ∀ t t', P t → f t = .ok t' → Q t') (hE : ∀ t, Q t → E t) :
    Ensures P (statement f) (fun _ => Q) E := by
  refine Ensures.request hrefused fun n t a t' ht hcarry => ?_
  obtain ⟨t'', hf, heq⟩ := bind_eq_ok.mp hcarry
  obtain rfl := (Prod.mk.inj (pure_eq_ok.mp heq)).2
  exact ⟨h t t'' ht hf, hE _ (h t t'' ht hf)⟩

theorem keeps_statement {f : Tables → Except Failure Tables}
    (h : ∀ t t', I t → f t = .ok t' → I t') :
    Keeps I (statement f) :=
  ensures_statement (fun _ ht => ht) h fun _ ht => ht

theorem keeps_ignoringFailure {x : Service Unit} (h : Keeps I x) : Keeps I (ignoringFailure x) :=
  h.tryCatch fun _ => Keeps.pure ()

theorem ensures_check {c : Prop} [Decidable c] {e : Failure} {E : Tables → Prop}
    (herror : ∀ t, P t → E t) :
    Ensures P (check c e) (fun _ t => P t ∧ c) E :=
  (ensures_checked herror).weaken (fun _ ht => ht) (fun _ _ ht => ⟨ht.1, require_eq_ok.mp ht.2⟩)
    fun _ ht => ht

theorem ensures_findUser (p : User → Bool) :
    Ensures P (findUser p)
      (fun found t => P t ∧ (∀ user, found = some user → user ∈ t.users ∧ p user) ∧
        (found = none → ∀ user ∈ t.users, ¬p user)) P :=
  Ensures.read (fun _ ht => ht)
    fun _ _ ht => ⟨ht, fun _ h => mem_of_pick h, fun h => pick_eq_none.mp h⟩

theorem ensures_findNode (p : SocialNode → Bool) :
    Ensures P (findNode p)
      (fun found t => P t ∧ (∀ node owner, found = some (node, owner) → node ∈ t.nodes ∧ p node ∧
        owner = t.ownerOf node) ∧
        (found = none → ∀ node ∈ t.nodes, ¬p node)) P := by
  refine Ensures.read (fun _ ht => ht) fun n t ht => ⟨ht, ?_, ?_⟩
  · intro node owner h
    obtain ⟨node', hpick, heq⟩ := Option.map_eq_some_iff.mp h
    obtain ⟨rfl, rfl⟩ := Prod.mk.inj heq
    exact ⟨(mem_of_pick hpick).1, (mem_of_pick hpick).2, rfl⟩
  · intro h
    exact pick_eq_none.mp (Option.map_eq_none_iff.mp h)

end Rules

end VeriAgentPay.Identity
