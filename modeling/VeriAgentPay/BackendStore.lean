import VeriAgentPay.InterleavedPrograms
import VeriAgentPay.LedgerRuns
import VeriAgentPay.InstructionBuilders

/-!
# What the backend's services read and write

The records of the database and of Redis, the requests a service makes to them and to the
chain, and what a request may do. Any request may end in an error, and a write or a submission
that ends in one may have taken effect all the same.
-/

namespace VeriAgentPay.Backend
open FixedWidth CheckedOutcome Client LabelledRuns InterleavedPrograms

inductive LinkKind where
  | pay | envelope | request | referral
  deriving DecidableEq

inductive LinkStatus where
  | pending | active | claimed | cancelled | expired | failed
  deriving DecidableEq

/-- A row of the table `ShortLink`, less what only the shared URL and its statistics use. Times are
in milliseconds. -/
structure ShortLink where
  code : String
  kind : LinkKind
  senderUserId : Option String
  targetUserId : Option String
  toAddress : Option String
  amount : Option ℚ
  token : Option String
  fromUser : Option String
  platform : Option String
  envelopeId : Option String
  fundingTxHash : Option String
  expiresAt : Option ℤ
  status : LinkStatus
  claimedAt : Option ℤ
  claimedBy : Option String
  claimTxHash : Option String
  clickCount : ℕ
  deriving DecidableEq

/-- The `data` of an update; a field that is absent stays. -/
structure LinkUpdate where
  status : Option LinkStatus := none
  envelopeId : Option String := none
  fundingTxHash : Option String := none
  claimedAt : Option ℤ := none
  claimedBy : Option String := none
  claimTxHash : Option String := none
  incrementClickCount : Bool := false

def LinkUpdate.apply (update : LinkUpdate) (row : ShortLink) : ShortLink :=
  { row with
    status := update.status.getD row.status
    envelopeId := update.envelopeId <|> row.envelopeId
    fundingTxHash := update.fundingTxHash <|> row.fundingTxHash
    claimedAt := update.claimedAt <|> row.claimedAt
    claimedBy := update.claimedBy <|> row.claimedBy
    claimTxHash := update.claimTxHash <|> row.claimTxHash
    clickCount := row.clickCount + if update.incrementClickCount then 1 else 0 }

/-- The `where` of a query over several rows; a condition that is absent holds of every row. -/
structure LinkFilter where
  code : Option String := none
  kind : Option LinkKind := none
  status : Option LinkStatus := none
  expiresBefore : Option ℤ := none
  hasEnvelope : Bool := false
  unfunded : Bool := false

def LinkFilter.matches (filter : LinkFilter) (row : ShortLink) : Bool :=
  filter.code.all (row.code = ·) && filter.kind.all (row.kind = ·) &&
    filter.status.all (row.status = ·) &&
    filter.expiresBefore.all (fun now => row.expiresAt.any (· < now)) &&
    (!filter.hasEnvelope || row.envelopeId.isSome) && (!filter.unfunded || row.fundingTxHash.isNone)

structure SmartWallet where
  address : String
  publicKeyX : String
  publicKeyY : String
  salt : String
  deriving DecidableEq

structure SessionKey where
  id : String
  userId : String
  keyHash : String
  encryptedKey : String
  encryptedSymmetricKey : Option String
  perTxLimitUSD : ℚ
  dailyLimitUSD : ℚ
  expiryAt : ℤ
  revokedAt : Option ℤ
  activatedAt : Option ℤ
  deriving DecidableEq

structure User where
  id : String
  username : Option String
  telegramId : Option String
  whatsappId : Option String
  discordId : Option String
  slackId : Option String
  smartWallet : Option SmartWallet
  /-- Newest first. -/
  sessionKeys : List SessionKey
  deriving DecidableEq

structure PasskeyCredential where
  id : String
  userId : String
  revokedAt : Option ℤ
  deriving DecidableEq

/-- A document as JSON carries it. -/
inductive Json where
  | null
  | bool (value : Bool)
  | number (value : ℚ)
  | string (value : String)
  | object (members : List (String × Json))

/-- A transaction of one program call, with the verification instruction in front of it if it has
one. -/
structure Submission where
  call : Call
  additionalSigners : List Pubkey
  verification : Option TransactionInstruction

/-- Writes to tables that no modelled service reads back. -/
inductive OtherWrite where
  | walletDeployed (vaultAddress : String)
  | sessionKeyCreated (userId keyHash : String) (perTxLimitUSD dailyLimitUSD :
      JsNumber) (expiryAt : ℤ)
  | sessionKeyCached (keyHash : String)
  | auditEvent (userId action status : String)
  | spendingRecord (sessionKeyId : String) (amountUSD : ℚ) (txHash : String)
  | activity (userIdentifier action : String) (amount : ℚ) (token txHash : String)
  | passkeyUsed (credentialId userId : String) (activatedSession : Option String)

inductive Request where
  | now
  | randomCode
  | newKeypair
  | incrementAttempts (key : String)
  | findUser (id : String)
  | findClaimer (id address : String)
  | findSessionKey (keyHash : String)
  | spentSince (sessionKeyId : String) (time : ℤ)
  | findCredential (lookupHash : FixedBytes 32)
  | decryptSessionKey (session : SessionKey)
  | findLink (code : String)
  | findLinks (filter : LinkFilter)
  | createLink (row : ShortLink)
  | updateLink (code : String) (update : LinkUpdate)
  | updateLinks (filter : LinkFilter) (update : LinkUpdate)
  | readVault (address : Pubkey)
  | readSession (address : Pubkey)
  | readPaymentLink (address : Pubkey)
  | readTokenBalance (account : Pubkey)
  | submit (submission : Submission)
  | stage (document : Json)
  | take (prepareId : String)
  | write (entry : OtherWrite)

abbrev Result : Request → Type
  | .now => ℤ
  | .randomCode => String
  | .newKeypair => Pubkey
  | .incrementAttempts _ => ℕ
  | .findUser _ => Option User
  | .findClaimer .. => Option User
  | .findSessionKey _ => Option SessionKey
  | .spentSince .. => ℚ
  | .findCredential _ => Option PasskeyCredential
  | .decryptSessionKey _ => String
  | .findLink _ => Option ShortLink
  | .findLinks _ => List ShortLink
  | .createLink _ => ShortLink
  | .updateLink .. => ShortLink
  | .updateLinks .. => Unit
  | .readVault _ => Option Vault
  | .readSession _ => Option Session
  | .readPaymentLink _ => Option PaymentLink
  | .readTokenBalance _ => ℕ
  | .submit _ => String
  | .stage _ => String
  | .take _ => Option Json
  | .write _ => Unit

abbrev Answer (r : Request) : Type := Except Failure (Result r)

abbrev Service := Fallible Failure Request Answer

/-- The program of one deployment, its keys and its settings. The rounding of numbers,
case mapping and the reading of stored secrets and of client data are parameters. -/
structure Deployment where
  rt : Runtime
  stablecoinMint : Pubkey
  feePayer : Pubkey
  configAddress : Pubkey
  claimAuthorityConfigAddress : Pubkey
  /-- The environment variable `SOLANA_CLUSTER_DOMAIN`. -/
  clusterDomainSetting : Option String
  /-- Sum and product of two numbers as the language rounds them. -/
  numberAdd : JsNumber → JsNumber → JsNumber
  numberMul : JsNumber → JsNumber → JsNumber
  toLowerCase : String → String
  toUpperCase : String → String
  /-- `feePayerFromSecret(secret).publicKey`. -/
  keypairFromSecret : String → Except Failure Pubkey
  /-- `JSON.parse(clientDataJson.toString('utf8')).challenge`. -/
  clientDataChallenge : Bytes → Except Failure (Option String)
  configAddress_eq :
    (findProgramAddress rt rt.programId [protocolSeed]).map Prod.fst = some configAddress
  claimAuthorityConfigAddress_eq :
    (findProgramAddress rt rt.programId [claimAuthoritySeed]).map Prod.fst =
      some claimAuthorityConfigAddress

/-- The shared state. `issued` are the prepare ids given out so far, `funder` the operations whose
transactions created links, and `inFlight` the transactions reported as failed that may still
land. -/
structure Store where
  ledger : World
  links : String → Option ShortLink
  users : String → Option User
  staged : String → Option Json
  issued : Set String
  funder : Pubkey → Option ℕ
  inFlight : List (ℕ × Submission)

namespace Store

def setLink (s : Store) (code : String) (row : ShortLink) : Store :=
  { s with links := Function.update s.links code (some row) }

@[simp] theorem setLink_self (s : Store) (code : String) (row : ShortLink) :
    (s.setLink code row).links code = some row := by
  simp [setLink]

def setStaged (s : Store) (prepareId : String) (document : Option Json) : Store :=
  { s with staged := Function.update s.staged prepareId document }

end Store

namespace Submission

/-- The link that a transaction creates and funds. -/
def createdLink? (submission : Submission) : Option Pubkey :=
  match submission.call with
  | .createPaymentLinkWithSession a _ => some a.paymentLink
  | .createSolPaymentLinkWithPasskey a _ => some a.paymentLink
  | _ => none

variable (d : Deployment)

/-- The transaction is executed, behind the fee and the instructions of other programs in it. -/
def Lands (submission : Submission) (w w' : World) : Prop :=
  ∃ ctx w₁, ctx.signers = d.feePayer :: submission.additionalSigners ∧
    (∀ v, submission.verification = some v → 0 < ctx.currentIndex ∧
      ctx.instructions[ctx.currentIndex - 1]? = some v) ∧
    EnvStep d.rt w w₁ ∧ exec d.rt ctx submission.call w₁ = .ok w'

end Submission

def Store.landed (s : Store) (i : ℕ) (submission : Submission) (w : World) : Store :=
  { s with
    ledger := w
    funder := match submission.createdLink? with
      | some key => Function.update s.funder key (some i)
      | none => s.funder }

theorem Store.landed_funder_self {s : Store} {i : ℕ} {submission : Submission} {w : World}
    {key : Pubkey} (h : submission.createdLink? = some key) :
    (s.landed i submission w).funder key = some i := by
  simp [Store.landed, h]

/-- `connection.getAccountInfo` and the decoders: what reading a record of one kind gives. Records
of other kinds that are long enough are decoded to whatever their bytes are at its offsets. -/
def Reads {α : Type} (kind : AccountData → Option α) (size : ℕ) (data : AccountData) :
    Except Failure (Option α) → Prop
  | .error _ => True
  | .ok none => data = .empty
  | .ok (some a) => kind data = some a ∨ kind data = none ∧ data.programOwned ∧ size ≤ data.dataLen

section Effects

variable (d : Deployment)

/-- A write: the new state with its result, or an error with or without the new state. -/
def Written {α : Type} (s applied : Store) (result : α) (x : Except Failure α)
    (s' : Store) : Prop :=
  s' = applied ∧ (x = .ok result ∨ ∃ e, x = .error e) ∨ s' = s ∧ ∃ e, x = .error e

/-- What a request of process `i` may answer and leave behind. -/
def Performs (i : ℕ) (s : Store) : (r : Request) → Answer r → Store → Prop
  | .findUser id, x, s' => s' = s ∧ ∀ user, x = .ok user → user = s.users id
  | .findClaimer id address, x, s' =>
    s' = s ∧ ∀ user, x = .ok (some user) → s.users user.id = some user ∧
      (user.id = id ∨ user.smartWallet.any (·.address = address))
  | .findLink code, x, s' => s' = s ∧ ∀ row, x = .ok row → row = s.links code
  | .findLinks filter, x, s' => s' = s ∧ ∀ rows, x = .ok rows →
      ∀ row, row ∈ rows ↔ s.links row.code = some row ∧ filter.matches row
  | .createLink row, x, s' =>
    s.links row.code = none ∧ Written s (s.setLink row.code row) row x s' ∨
      s' = s ∧ ∃ e, x = .error e
  | .updateLink code update, x, s' =>
      (∃ row, s.links code = some row ∧ Written s (s.setLink code (update.apply row))
        (update.apply row) x s') ∨
      s' = s ∧ ∃ e, x = .error e
  | .updateLinks filter update, x, s' =>
      Written s { s with
        links := fun code => (s.links code).map fun row =>
          if filter.matches row then update.apply row else row }
        () x s'
  | .readVault address, x, s' => s' = s ∧ Reads AccountData.vault? 123 (s.ledger.data address) x
  | .readSession address, x, s' => s' = s ∧ Reads AccountData.session? 125 (s.ledger.data address) x
  | .readPaymentLink address, x, s' =>
    s' = s ∧ Reads AccountData.link? 203 (s.ledger.data address) x
  | .readTokenBalance account, x, s' =>
    s' = s ∧ ∀ balance, x = .ok balance → balance = s.ledger.tokenBalance account
  | .submit submission, x, s' =>
      (∃ w, submission.Lands d s.ledger w ∧ s' = s.landed i submission w) ∨
      (∃ e, x = .error e) ∧ (s' = s ∨ s' = { s with inFlight := (i, submission) :: s.inFlight })
  | .stage document, x, s' =>
      ∃ prepareId, prepareId ∉ s.issued ∧
        Written { s with issued := insert prepareId s.issued }
          ({ s with issued := insert prepareId s.issued }.setStaged prepareId (some document))
            prepareId x s'
  | .take prepareId, x, s' => Written s (s.setStaged prepareId none) (s.staged prepareId) x s'
  | .now, x, s' => s' = s ∧ ∃ time, x = .ok time
  | .randomCode, x, s' => s' = s ∧ ∃ code, x = .ok code
  | .newKeypair, x, s' => s' = s ∧ ∃ key, x = .ok key
  | _, _, s' => s' = s

/-- What happens besides the services: the chain goes on, a transaction in flight lands, an approval
expires, accounts change, and links of other kinds are written. -/
inductive Environment (s : Store) : Store → Prop
  | ledger (e : Event) (w : World) (step : Step d.rt s.ledger e w) :
  Environment s { s with ledger := w }
  | lands (i : ℕ) (submission : Submission) (w : World) (sent : (i, submission) ∈ s.inFlight)
      (done : submission.Lands d s.ledger w) : Environment s (s.landed i submission w)
  | expires (prepareId : String) : Environment s (s.setStaged prepareId none)
  | users (users : String → Option User) : Environment s { s with users := users }
  | otherLink (row : ShortLink) (kind : row.kind ≠ .pay) (old :
      ∀ row', s.links row.code = some row' → row'.kind ≠ .pay) :
      Environment s (s.setLink row.code row)

end Effects

section Requests

def ask (r : Request) : Service (Result r) := ExceptT.mk (.ask r .ret)

def checked {α : Type} (x : Except Failure α) : Service α := ExceptT.mk (.ret x)

def check (c : Prop) [Decidable c] (e : Failure) : Service Unit := checked (require c e)

def throwing {α : Type} (e : Failure) : Service α := checked (.error e)

/-- Run `handler` when a service fails, and fail with the same error. -/
def onFailure {α : Type} (x : Service α) (handler : Service Unit) : Service α :=
  tryCatchThe Failure x fun e => do
    handler
    throwing e

def ignoringFailure (x : Service Unit) : Service Unit := tryCatchThe Failure x fun _ => pure ()

end Requests

end VeriAgentPay.Backend
