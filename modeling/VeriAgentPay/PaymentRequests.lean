import VeriAgentPay.KeyedTables
import VeriAgentPay.ProgramCustody
import VeriAgentPay.SessionActions

/-!
# Payment requests

A request is to be paid with a transfer out of the payer's vault, which the relayer refuses, and to
be marked as paid then. Its requester cancels it, and from a chat it is rejected or declined.
-/

namespace VeriAgentPay.PaymentRequests
open InterleavedPrograms KeyedTables SessionActions
open InterleavedPrograms.Fallible (checked check dropResult ignoringFailure)
open Backend (Failure outage)
open CheckedOutcome (orError)

section Tables

inductive RequestStatus where
  | pending | paid | cancelled | expired
  deriving DecidableEq

def RequestStatus.text : RequestStatus → String
  | pending => "PENDING"
  | paid => "PAID"
  | cancelled => "CANCELLED"
  | expired => "EXPIRED"

/-- A row of the table `PaymentRequest`. Times are in milliseconds. -/
structure PaymentRequest where
  id : String
  requesterId : String
  /-- An address of a wallet or the id of a user. -/
  recipientId : Option String
  recipientIdentifier : String
  token : String
  amount : ℚ
  status : RequestStatus
  txHash : Option String
  expiresAt : Option ℤ
  deriving DecidableEq

structure User where
  id : String
  smartWallet : Option String
  deriving DecidableEq

/-- A transfer that was executed, for which request, and when its call had started. -/
structure Transfer where
  requestId : String
  startedAt : ℤ
  vault : String
  recipient : String
  token : String
  amount : ℚ
  deriving DecidableEq

inductive ActionType where
  | approve | reject | splitPay
  deriving DecidableEq

def ActionType.text : ActionType → String
  | approve => "approve"
  | reject => "reject"
  | splitPay => "split_pay"

structure ActionPayload where
  actionType : ActionType
  requestId : String
  userId : String
  amount : ℚ
  token : String
  nonce : String
  expiry : ℤ
  signature : String
  deriving DecidableEq

structure Cancellation where
  requestId : String
  userId : String
  deriving DecidableEq

/-- The tables and what Redis keeps, and of the history the transfers and who has cancelled what. -/
structure Tables where
  requests : Keyed PaymentRequest.id
  users : Keyed User.id
  payloads : List (String × ActionPayload)
  nonces : List String
  now : ℤ
  transfers : List Transfer
  cancellations : List Cancellation

def PaymentRequest.markPaid (txHash : String) (row : PaymentRequest) : PaymentRequest :=
  { row with status := .paid, txHash := some txHash }

def PaymentRequest.cancel (row : PaymentRequest) : PaymentRequest :=
  { row with status := .cancelled }

end Tables

section Requests

inductive Request where
  | now
  | findUnique (id : String)
  | findUser (id : String)
  | findUserByWallet (address : String)
  | executeLocalSessionAction (transfer : Transfer)
  /-- The request of an executed transfer is marked as paid. -/
  | markPaid (transfer : Transfer) (txHash : String) (fate : Fate)
  | cancel (id userId : String) (fate : Fate)
  | setPayload (actionId : String) (payload : ActionPayload)
  | takePayload (actionId : String)
  | claimOnce (nonce : String)

abbrev Answer : Request → Type
  | .now => ℤ
  | .findUnique _ => Option PaymentRequest
  | .findUser _ | .findUserByWallet _ => Option User
  | .executeLocalSessionAction _ => Except Failure ActionResult
  | .markPaid _ _ _ | .cancel _ _ _ => Except Failure Unit
  | .setPayload _ _ => Unit
  | .takePayload _ => Option ActionPayload
  | .claimOnce _ => Bool

abbrev Service (α : Type) := Fallible Failure Request Answer α

abbrev ask (r : Request) : Service (Answer r) := Fallible.ask r

def Tables.execute (t : Tables) (transfer : Transfer) : Tables :=
  { t with transfers := transfer :: t.transfers }

def Tables.markPaid (t : Tables) (transfer : Transfer) (txHash : String) : Tables :=
  { t with
    requests := t.requests.update (·.id = transfer.requestId) (·.markPaid txHash) fun _ => rfl }

def Tables.cancel (t : Tables) (id userId : String) : Tables :=
  { t with
    requests := t.requests.update (·.id = id) PaymentRequest.cancel fun _ => rfl
    cancellations := ⟨id, userId⟩ :: t.cancellations }

def carry (t : Tables) : (r : Request) → Answer r × Tables
  | .now => (t.now, t)
  | .findUnique id => (t.requests.find? id, t)
  | .findUser id => (t.users.find? id, t)
  | .findUserByWallet address => (t.users.rows.find? (·.smartWallet = some address), t)
  | .executeLocalSessionAction transfer =>
    (executeLocalSessionAction, afterAction executeLocalSessionAction t (t.execute transfer))
  | .markPaid transfer txHash fate =>
    (fate.told outage (), if fate.carried then t.markPaid transfer txHash else t)
  | .cancel id userId fate => (fate.told outage (), if fate.carried then t.cancel id userId else t)
  | .setPayload actionId payload =>
    ((), { t with payloads := (actionId, payload) :: t.payloads.filter (·.1 ≠ actionId) })
  | .takePayload actionId =>
    (t.payloads.lookup actionId, { t with payloads := t.payloads.filter (·.1 ≠ actionId) })
  | .claimOnce nonce => (nonce ∉ t.nonces, { t with nonces := nonce :: t.nonces })

end Requests

section Services

/-- What the outside answers while a request is paid, rejected or declined. -/
structure Turns where
  requireBiometricsAlways : Bool
  /-- The limit of an active session key, if there is one. -/
  perTxLimitUSD : Option ℚ
  /-- Whether the key can be decrypted, the token is known and the payload can be built. -/
  prepared : Except Failure Unit
  update : Fate

def findOne (id : String) : Service PaymentRequest := do
  let request ← ask (.findUnique id)
  checked (orError request (.notFound "Payment request not found"))

def isAddress (text : String) : Bool := "0x".toList.isPrefixOf text.toList

def resolvePayer (payerUserIdOrAddress : String) : Service String :=
  if isAddress payerUserIdOrAddress then do
    let payerUser ← ask (.findUserByWallet payerUserIdOrAddress)
    let payerUser ← checked
      (orError payerUser (.badRequest "Payer user not found. Please ensure you are logged in."))
    pure payerUser.id
  else pure payerUserIdOrAddress

def findWallet (userId message : String) : Service String := do
  let user ← ask (.findUser userId)
  checked (orError (user.bind User.smartWallet) (.badRequest message))

def executeTransfer (transfer : Transfer) (turns : Turns) : Service String :=
  tryCatchThe Failure
    (do
      checked turns.prepared
      let answer ← ask (.executeLocalSessionAction transfer)
      let relayerResult ← checked answer
      checked (relayerResult.settled (.error "Transfer execution failed")))
    fun err => checked (.error (.badRequest ("Payment failed: " ++ err.message)))

/-- A failure to mark the request is not reported. -/
def persistPaid (transfer : Transfer) (txHash : String) (turns : Turns) : Service Unit :=
  ignoringFailure do
    let persisted ← ask (.markPaid transfer txHash turns.update)
    checked persisted

def transferAndPersist (transfer : Transfer) (turns : Turns) : Service Unit := do
  let txHash ← executeTransfer transfer turns
  persistPaid transfer txHash turns

def payRequest (id payerUserIdOrAddress : String) (turns : Turns) : Service Unit := do
  -- The code has no clock here: the time goes into the history only.
  let startedAt ← ask .now
  let request ← findOne id
  check (request.status = .pending)
    (.badRequest ("Cannot pay request with status: " ++ request.status.text))
  let payerUserId ← resolvePayer payerUserIdOrAddress
  let vault ← findWallet payerUserId "Payer wallet not found"
  let recipient ← findWallet request.requesterId "Requester wallet not found"
  transferAndPersist ⟨id, startedAt, vault, recipient, request.token, request.amount⟩ turns

def cancelRequest (id requesterUserId : String) (update : Fate) : Service Unit := do
  let request ← findOne id
  check (request.requesterId = requesterUserId)
    (.forbidden "Only the requester can cancel this payment request")
  ignoringFailure do
    let cancelled ← ask (.cancel id requesterUserId update)
    checked cancelled

def CACHE_TTL : ℤ := 24 * 60 * 60 * 1000

/-- What is signed of a payload. -/
def actionMessage (actionType : ActionType) (requestId userId nonce : String)
    (expiry : ℤ) : String :=
  actionType.text ++ ":" ++ requestId ++ ":" ++ userId ++ ":" ++ nonce ++ ":" ++ toString expiry

/-- `sign` is the HMAC of a message under the secret of the actions, in hex. -/
def verifyPayload (sign : String → String) (payload : ActionPayload) (invokingUserId : String)
    (now : ℤ) : Bool :=
  payload.signature = sign
    (actionMessage payload.actionType payload.requestId payload.userId payload.nonce
      payload.expiry) ∧
    now ≤ payload.expiry ∧ payload.userId = invokingUserId

def generatePayload (sign : String → String) (actionType : ActionType) (requestId userId : String)
    (amount : ℚ) (token nonce actionId : String) : Service Unit := do
  let now ← ask .now
  ask (.setPayload actionId ⟨actionType, requestId, userId, amount, token, nonce, now + CACHE_TTL,
    sign (actionMessage actionType requestId userId nonce (now + CACHE_TTL))⟩)

/-- A payment from a chat: its failure is told in an answer. -/
def payFromChat (requestId userId : String) (turns : Turns) : Service Unit :=
  ignoringFailure (payRequest requestId userId turns)

def handlePayload (payload : ActionPayload) (turns : Turns) : Service Unit :=
  match payload.actionType with
  | .approve =>
    if turns.requireBiometricsAlways ∨ turns.perTxLimitUSD.all (· < payload.amount) then pure ()
    else payFromChat payload.requestId payload.userId turns
  | .reject => do
    let cancelled ← ask (.cancel payload.requestId payload.userId turns.update)
    checked cancelled
  -- A split is paid by its own service.
  | .splitPay => pure ()

def handleInteractiveAction (sign : String → String) (actionId invokingUserId : String)
    (turns : Turns) : Service Unit := do
  let payload ← ask (.takePayload actionId)
  let payload ← checked (orError payload (.forbidden "Action expired or invalid"))
  let now ← ask .now
  check (verifyPayload sign payload invokingUserId now) (.forbidden "Invalid or expired action")
  let claimed ← ask (.claimOnce payload.nonce)
  check claimed (.forbidden "Action has already been used")
  handlePayload payload turns

def handleRequestPaymentAction (requestId userId : String) (turns : Turns) : Service Unit :=
  if turns.requireBiometricsAlways ∨ turns.perTxLimitUSD.isNone then pure ()
    else payFromChat requestId userId turns

def handleRequestDeclineAction (requestId userId : String) (update : Fate) : Service Unit :=
  ignoringFailure do
    let cancelled ← ask (.cancel requestId userId update)
    checked cancelled

inductive Operation where
  | payRequest (id payerUserIdOrAddress : String) (turns : Turns)
  | cancelRequest (id requesterUserId : String) (update : Fate)
  | generatePayload (actionType : ActionType) (requestId userId : String) (amount :
      ℚ) (token nonce actionId : String)
  | handleInteractiveAction (actionId invokingUserId : String) (turns : Turns)
  | handleRequestPaymentAction (requestId userId : String) (turns : Turns)
  | handleRequestDeclineAction (requestId userId : String) (update : Fate)

def Operation.program (sign : String → String) : Operation → Program Request Answer Unit
  | payRequest id payer turns => dropResult (PaymentRequests.payRequest id payer turns)
  | cancelRequest id requester update =>
    dropResult (PaymentRequests.cancelRequest id requester update)
  | generatePayload actionType requestId userId amount token nonce actionId =>
    dropResult (PaymentRequests.generatePayload sign actionType requestId userId amount token
      nonce actionId)
  | handleInteractiveAction actionId invokingUserId turns =>
    dropResult (PaymentRequests.handleInteractiveAction sign actionId invokingUserId turns)
  | handleRequestPaymentAction requestId userId turns =>
    dropResult (PaymentRequests.handleRequestPaymentAction requestId userId turns)
  | handleRequestDeclineAction requestId userId update =>
    dropResult (PaymentRequests.handleRequestDeclineAction requestId userId update)

/-- The user who calls. -/
def Operation.caller : Operation → String
  | payRequest _ userId _ | cancelRequest _ userId _ | generatePayload _ _ userId _ _ _
    _ | handleInteractiveAction _ userId _
  | handleRequestPaymentAction _ userId _ | handleRequestDeclineAction _ userId _ => userId

def requestService (sign : String → String) : StoreService Tables Operation Request Answer where
  program := Operation.program sign
  carry _ _ := carry
  passes n t := { t with now := t.now + n }

end Services

section Payments

/-- The users that a request is between. -/
def Tables.party (t : Tables) (row : PaymentRequest) (userId : String) : Prop :=
  row.requesterId = userId ∨ row.recipientId = some userId ∨ row.recipientIdentifier = userId ∨
    ∃ user ∈ t.users.find? userId, ∃ wallet ∈ user.smartWallet, row.recipientId = some wallet

def PaymentRequest.expiredAt (row : PaymentRequest) (time : ℤ) : Prop :=
  ∃ expiresAt ∈ row.expiresAt, expiresAt < time

def Operation.checksCaller : Operation → Bool
  | cancelRequest _ _ _ => true
  | _ => false

/-- A request is cancelled when it is cancelled already, or when it is pending and, if the call does
not look, by one of its parties. -/
def cancelsOpen : StoreService.Conditions Tables Operation Request where
  starts _ := True
  allows _ op t
    | .cancel id userId fate =>
      fate.carried → ∀ row ∈ t.requests.find? id, row.status = .cancelled ∨
        row.status = .pending ∧ (op.checksCaller ∨ t.party row userId)
    | _ => True
  passes _ _ := True

/-- What one step may do to the tables. -/
structure PaysOpen (t t' : Tables) : Prop where
  transfers : t'.transfers = t.transfers
  users : t'.users = t.users
  rows : ∀ row' ∈ t'.requests.rows, ∃ row ∈ t.requests.rows, row.id = row'.id ∧
    row.requesterId = row'.requesterId
  terminal : ∀ row ∈ t.requests.rows, row.status = .paid →
    ∃ row' ∈ t'.requests.rows, row'.id = row.id ∧ row'.status = .paid
  cancelled : ∀ row' ∈ t'.requests.rows, row'.status = .cancelled → row' ∈ t.requests.rows ∨
    ∃ row ∈ t.requests.rows, row.id = row'.id ∧ row.status = .pending ∧
      ∃ userId, t'.cancellations = ⟨row.id, userId⟩ :: t.cancellations ∧ t.party row userId

/-- There is never a transfer. -/
def requestCustody (sign : String → String) : Custody Tables Operation Request Answer Unit where
  service := requestService sign
  conditions := cancelsOpen
  inv t _ := t.transfers = []
  grows := PaysOpen
  idle := ()

variable {sign : String → String} {t t' : Tables} {i : ℕ} {op : Operation}
  {id userId txHash : String} {transfer : Transfer}

/-- The requests stay as they are. -/
theorem PaysOpen.of_same (hrequests : t'.requests = t.requests)
    (htransfers : t'.transfers = t.transfers) (husers : t'.users = t.users) : PaysOpen t t' where
  transfers := htransfers
  users := husers
  rows row h := ⟨row, hrequests ▸ h, rfl, rfl⟩
  terminal row h hpaid := ⟨row, hrequests.symm ▸ h, rfl, hpaid⟩
  cancelled _ h _ := .inl (hrequests ▸ h)

theorem PaysOpen.refl (t : Tables) : PaysOpen t t := PaysOpen.of_same rfl rfl rfl

/-- A request is cancelled again, or it is pending. -/
theorem PaysOpen.cancel
    (hrow : ∀ row ∈ t.requests.find? id, row.status = .cancelled ∨ row.status = .pending ∧
      t.party row userId) :
    PaysOpen t (t.cancel id userId) := by
  -- A row is as before and no other request's, or it is cancelled now and was pending.
  have hrows :
      ∀ row ∈ (t.cancel id userId).requests.rows, ∃ old ∈ t.requests.rows, old.id = row.id ∧
      old.requesterId = row.requesterId ∧
      (row = old ∨ row.id = id ∧ old.status = .pending ∧ t.party old userId) := by
    intro row h
    rcases Keyed.of_mem_update (f := PaymentRequest.cancel) (fun _ => rfl) h with ⟨hold, -⟩ | ⟨old,
      hold, hid, rfl⟩
    · exact ⟨row, hold, rfl, rfl, .inl rfl⟩
    · have hid : old.id = id := of_decide_eq_true hid
      refine ⟨old, hold, rfl, rfl, ?_⟩
      rcases hrow old (Keyed.find?_eq_some.mpr ⟨hold, hid⟩) with hcancelled | ⟨hpending, hparty⟩
      · left
        unfold PaymentRequest.cancel
        rw [← hcancelled]
      · exact .inr ⟨hid, hpending, hparty⟩
  refine ⟨rfl, rfl, ?_, ?_, ?_⟩
  · intro row h
    obtain ⟨old, hold, hid, hrequester, -⟩ := hrows row h
    exact ⟨old, hold, hid, hrequester⟩
  · intro row h hpaid
    refine ⟨row, (Keyed.mem_update (f := PaymentRequest.cancel) fun _ => rfl).mpr
      ⟨row, h, if_neg ?_⟩, rfl, hpaid⟩
    intro hid
    have hstatus := hrow row (Keyed.find?_eq_some.mpr ⟨h, of_decide_eq_true hid⟩)
    rw [hpaid] at hstatus
    rcases hstatus with hcancelled | ⟨hpending, -⟩
    · cases hcancelled
    · cases hpending
  · intro row h hcancelled
    obtain ⟨old, hold, hid, -, rfl | ⟨hthis, hpending, hparty⟩⟩ := hrows row h
    · exact .inl hold
    · exact .inr ⟨old, hold, hid, hpending, userId, by rw [hid, hthis]; rfl, hparty⟩

/-- The relayer refuses the transfer. -/
theorem keeps_execute {F : Tables → Prop} :
    (requestCustody sign).Keeps i op (ask (.executeLocalSessionAction transfer)) (fun _ => True) ()
      (fun answer _ => NotRouted answer ∧ True) F := by
  refine Custody.Keeps.ask (D := requestCustody sign) (r := .executeLocalSessionAction transfer)
    (fun _ => Custody.stable_const _) ?_
  exact fun t _ hinv _ _ _ => ⟨PaysOpen.refl t, hinv, rfl, trivial⟩

theorem keeps_cancel {K F : Tables → Prop} {fate : Fate}
    (hparty : op.checksCaller → ∀ t, K t → ∀ row ∈ t.requests.find? id, t.party row userId) :
    (requestCustody sign).Keeps i op (ask (.cancel id userId fate)) K () (fun _ _ => True) F := by
  refine Custody.Keeps.ask (D := requestCustody sign) (r := .cancel id userId fate)
    (fun _ => Custody.stable_const True) ?_
  intro t H hinv hknown _ hallows
  have hinv : t.transfers = [] := hinv
  by_cases hcarried : fate.carried
  · have hcancels : (carry t (.cancel id userId fate)).2 = t.cancel id userId := if_pos hcarried
    refine ⟨hcancels ▸ PaysOpen.cancel fun row hrow => ?_, hcancels ▸ hinv, trivial⟩
    rcases hallows hcarried row hrow with hcancelled | ⟨hpending, hchecks | hparty'⟩
    · exact .inl hcancelled
    · exact .inr ⟨hpending, hparty hchecks t hknown row hrow⟩
    · exact .inr ⟨hpending, hparty'⟩
  · have hsame : (carry t (.cancel id userId fate)).2 = t := if_neg hcarried
    have hkept : PaysOpen t (carry t (.cancel id userId fate)).2 := hsame.symm ▸ PaysOpen.refl t
    have hstill : (carry t (.cancel id userId fate)).2.transfers = [] := hsame.symm ▸ hinv
    exact ⟨hkept, hstill, trivial⟩

/-- A request that leaves the requests and their transfers alone. -/
theorem heeds_aside {r : Request} (hrequests : ∀ t, (carry t r).2.requests = t.requests)
    (htransfers : ∀ t, (carry t r).2.transfers = t.transfers)
    (husers : ∀ t, (carry t r).2.users = t.users) :
    (requestCustody sign).Heeds i op (ask r) () := by
  refine Custody.Keeps.ask (D := requestCustody sign) (r := r)
    (fun _ => Custody.stable_const True) ?_
  intro t H hinv _ _ _
  have hinv : t.transfers = [] := hinv
  exact ⟨PaysOpen.of_same (hrequests t) (htransfers t) (husers t),
    (htransfers t).trans hinv, trivial⟩

/-- What follows the transfer is not reached. -/
theorem heeds_transferAndPersist (turns : Turns) :
    (requestCustody sign).Heeds i op (transferAndPersist transfer turns) () := by
  refine Custody.Keeps.andThen (R := fun _ _ => False ∧ True) (F := fun _ => True) ?_
    (fun txHash => Custody.Upholds.assuming False.elim) fun _ _ => ⟨rfl, trivial⟩
  refine Custody.Upholds.tryCatch (E := fun _ _ => True) ?_ fun _ _ =>
    Custody.Upholds.checked (fun _ _ hok => nomatch hok) fun _ _ _ _ => ⟨rfl, trivial⟩
  refine Custody.Upholds.checkedThen (fun _ _ _ _ => trivial) fun _ _ => ?_
  refine Custody.Keeps.andThen (F := fun _ => True) keeps_execute (fun answer => ?_)
    fun _ _ => trivial
  refine Custody.Upholds.assuming fun hrefused => ?_
  exact Custody.Upholds.checkedThen (fun _ _ _ _ => trivial)
    fun result hok => (hrefused.ne_ok result hok).elim

theorem heeds_look {r : Request} (hsame : ∀ t, (carry t r).2 = t) :
    (requestCustody sign).Heeds i op (ask r) () :=
  Custody.Heeds.look PaysOpen.refl hsame

theorem heeds_findOne (id : String) : (requestCustody sign).Heeds i op (findOne id) () :=
  Custody.Heeds.andThen (heeds_look fun _ => rfl) fun _ => Custody.Heeds.checked

theorem heeds_resolvePayer (payer : String) :
    (requestCustody sign).Heeds i op (resolvePayer payer) () := by
  unfold resolvePayer
  split_ifs
  · apply Custody.Heeds.andThen (heeds_look fun _ => rfl)
    intro payerUser
    exact Custody.Heeds.andThen Custody.Heeds.checked fun _ => Custody.Heeds.pure
  · exact Custody.Heeds.pure

theorem heeds_findWallet (userId message : String) :
    (requestCustody sign).Heeds i op (findWallet userId message) () :=
  Custody.Heeds.andThen (heeds_look fun _ => rfl) fun _ => Custody.Heeds.checked

theorem heeds_payRequest (id payer : String) (turns : Turns) :
    (requestCustody sign).Heeds i op (payRequest id payer turns) () := by
  unfold payRequest
  apply Custody.Heeds.andThen (heeds_look fun _ => rfl)
  intro startedAt
  apply Custody.Heeds.andThen (heeds_findOne id)
  intro request
  apply Custody.Heeds.checkThen
  intro hpending
  apply Custody.Heeds.andThen (heeds_resolvePayer payer)
  intro payerUserId
  apply Custody.Heeds.andThen (heeds_findWallet payerUserId _)
  intro vault
  apply Custody.Heeds.andThen (heeds_findWallet request.requesterId _)
  intro recipient
  exact heeds_transferAndPersist turns

/-- The requester is still the one who was read. -/
theorem heeds_cancelRequest (id requester : String) (update : Fate) :
    (requestCustody sign).Heeds i (.cancelRequest id requester update)
      (cancelRequest id requester update) () := by
  have hstable : ∀ requester', (requestCustody sign).Stable fun t : Tables =>
      ∀ row ∈ t.requests.rows, row.id = id → row.requesterId = requester' := by
    intro requester' t t' hgrows hknown row hrow hid
    obtain ⟨old, hold, holdId, hrequester⟩ := hgrows.rows row hrow
    exact hrequester.symm.trans (hknown old hold (holdId.trans hid))
  refine Custody.Keeps.andThen (R :=
    fun request t => ∀ row ∈ t.requests.rows, row.id = id → row.requesterId = request.requesterId)
    (F := fun _ => True) ?_ (fun request => ?_) fun _ _ => ⟨rfl, trivial⟩
  · refine Custody.Keeps.andThen (F := fun _ => True)
      (Custody.Keeps.read (D := requestCustody sign) (r := .findUnique id)
      (S := fun found t => ∀ request ∈ found, ∀ row ∈ t.requests.rows,
        row.id = id → row.requesterId = request.requesterId)
      PaysOpen.refl (fun _ => rfl) ?_ ?_) (fun found => ?_) fun _ _ => ⟨rfl, trivial⟩
    · exact fun found t t' hgrows hknown request hfound => hstable _ t t' hgrows
        (hknown request hfound)
    · intro t _ _ _ request hfound row hrow hid
      obtain ⟨hmem, hthis⟩ := Keyed.find?_eq_some.mp hfound
      rw [Keyed.eq_of_key hrow hmem (hid.trans hthis.symm)]
    · exact Custody.Upholds.checked
        (fun request _ hok hs => ⟨rfl, hs request (CheckedOutcome.orError_eq_ok.mp hok)⟩)
        fun _ _ _ _ => ⟨rfl, trivial⟩
  · refine Custody.Upholds.checkThen (fun _ _ _ => ⟨rfl, trivial⟩) fun hrequester => ?_
    refine Custody.Upholds.ignoringFailure ?_
    refine Custody.Keeps.andThen (F := fun _ => True) (keeps_cancel ?_)
      (fun _ => Custody.Heeds.checked) fun _ _ => ⟨rfl, trivial⟩
    intro _ t hknown row hrow
    obtain ⟨hmem, hid⟩ := Keyed.find?_eq_some.mp hrow
    exact .inl ((hknown row hmem hid).trans hrequester)

/-- A call that does not look who calls. -/
theorem heeds_decline (hop : op.checksCaller = false) (id userId : String) (update : Fate) :
    (requestCustody sign).Heeds i op
      (ask (.cancel id userId update) >>= fun cancelled => checked cancelled) () := by
  refine Custody.Heeds.andThen (keeps_cancel fun hchecks => ?_) fun _ => Custody.Heeds.checked
  rw [hop] at hchecks
  cases hchecks

theorem heeds_handlePayload (hop : op.checksCaller = false) (payload : ActionPayload)
    (turns : Turns) :
    (requestCustody sign).Heeds i op (handlePayload payload turns) () := by
  unfold handlePayload
  cases payload.actionType with
  | approve =>
    dsimp only
    split_ifs
    · exact Custody.Heeds.pure
    · exact Custody.Heeds.ignoringFailure (heeds_payRequest _ _ turns)
  | reject => exact heeds_decline hop _ _ _
  | splitPay => exact Custody.Heeds.pure

theorem heeds_handleInteractiveAction (hop : op.checksCaller = false)
    (actionId invokingUserId : String) (turns : Turns) :
    (requestCustody sign).Heeds i op
      (handleInteractiveAction sign actionId invokingUserId turns) () := by
  unfold handleInteractiveAction
  apply Custody.Heeds.andThen (heeds_aside (fun _ => rfl) (fun _ => rfl) fun _ => rfl)
  intro payload
  apply Custody.Heeds.andThen Custody.Heeds.checked
  intro payload
  apply Custody.Heeds.andThen (heeds_look fun _ => rfl)
  intro now
  apply Custody.Heeds.checkThen
  intro hverified
  apply Custody.Heeds.andThen (heeds_aside (fun _ => rfl) (fun _ => rfl) fun _ => rfl)
  intro claimed
  apply Custody.Heeds.checkThen
  intro hclaimed
  exact heeds_handlePayload hop payload turns

theorem requestCustody_kept (sign : String → String) : (requestCustody sign).Kept where
  refl := PaysOpen.refl
  programs i op _ := by
    cases op with
    | payRequest id payer turns => exact Custody.Heeds.plays (heeds_payRequest id payer turns)
    | cancelRequest id requester update =>
      exact Custody.Heeds.plays (heeds_cancelRequest id requester update)
    | generatePayload actionType requestId userId amount token nonce actionId =>
      refine Custody.Heeds.plays (Custody.Heeds.andThen (heeds_look fun _ => rfl) fun now => ?_)
      exact heeds_aside (fun _ => rfl) (fun _ => rfl) fun _ => rfl
    | handleInteractiveAction actionId invokingUserId turns =>
      exact Custody.Heeds.plays (heeds_handleInteractiveAction rfl actionId invokingUserId turns)
    | handleRequestPaymentAction requestId userId turns =>
      refine Custody.Heeds.plays ?_
      unfold handleRequestPaymentAction
      split_ifs
      · exact Custody.Heeds.pure
      · exact Custody.Heeds.ignoringFailure (heeds_payRequest _ _ turns)
    | handleRequestDeclineAction requestId userId update =>
      exact Custody.Heeds.plays (Custody.Heeds.ignoringFailure (heeds_decline rfl _ _ _))
  passes _ _ _ hinv _ := ⟨PaysOpen.of_same rfl rfl rfl, hinv⟩

end Payments

section Runs

/-- A cancellation is asked for in the name of the caller. -/
def cancelsAsCaller (op : Operation) (r : Request) : Prop :=
  match r with
  | .cancel _ userId _ => userId = op.caller
  | _ => True

variable {sign : String → String} {op : Operation}

theorem asks_findOne (id : String) : (findOne id).run.Asks (cancelsAsCaller op) fun _ _ => True :=
  Fallible.asks_andThen (Fallible.asks_ask trivial) fun _ => Fallible.asks_checked _

theorem asks_payRequest (id payer : String) (turns : Turns) :
    (payRequest id payer turns).run.Asks (cancelsAsCaller op) fun _ _ => True := by
  unfold payRequest
  apply Fallible.asks_andThen (Fallible.asks_ask trivial)
  intro startedAt
  apply Fallible.asks_andThen (asks_findOne id)
  intro request
  apply Fallible.asks_checkThen
  intro hpending
  refine Fallible.asks_andThen ?_ fun payerUserId => ?_
  · unfold resolvePayer
    split_ifs
    · refine Fallible.asks_andThen (Fallible.asks_ask trivial) fun _ => ?_
      exact Fallible.asks_andThen (Fallible.asks_checked _) fun _ => Fallible.asks_pure _
    · exact Fallible.asks_pure _
  have hwallet : ∀ userId message, (findWallet userId message).run.Asks (cancelsAsCaller op)
      fun _ _ => True :=
    fun _ _ => Fallible.asks_andThen (Fallible.asks_ask trivial) fun _ => Fallible.asks_checked _
  apply Fallible.asks_andThen (hwallet payerUserId _)
  intro vault
  apply Fallible.asks_andThen (hwallet request.requesterId _)
  intro recipient
  refine Fallible.asks_andThen (Fallible.asks_tryCatch ?_ fun _ => Fallible.asks_checked _)
    fun txHash => ?_
  · refine Fallible.asks_andThen (Fallible.asks_checked _) fun _ => ?_
    refine Fallible.asks_andThen (Fallible.asks_ask trivial) fun _ => ?_
    exact Fallible.asks_andThen (Fallible.asks_checked _) fun _ => Fallible.asks_checked _
  · refine Fallible.asks_ignoringFailure ?_
    exact Fallible.asks_andThen (Fallible.asks_ask trivial) fun _ => Fallible.asks_checked _

theorem asks_cancel {id userId : String} {update : Fate} (hcaller : userId = op.caller) :
    (ask (.cancel id userId update) >>= fun cancelled => checked cancelled).run.Asks
      (cancelsAsCaller op) fun _ _ => True :=
  Fallible.asks_andThen (Fallible.asks_ask hcaller) fun _ => Fallible.asks_checked _

theorem asks_handlePayload {payload : ActionPayload} (hcaller : payload.userId = op.caller)
    (turns : Turns) :
    (handlePayload payload turns).run.Asks (cancelsAsCaller op) fun _ _ => True := by
  unfold handlePayload
  cases payload.actionType with
  | approve =>
    dsimp only
    split_ifs
    · exact Fallible.asks_pure ()
    · exact Fallible.asks_ignoringFailure (asks_payRequest _ _ turns)
  | reject => exact asks_cancel hcaller
  | splitPay => exact Fallible.asks_pure ()

theorem asks_program (op : Operation) :
    (op.program sign).Asks (cancelsAsCaller op) fun _ _ => True := by
  cases op with
  | payRequest id payer turns => exact Fallible.asks_dropResult (asks_payRequest id payer turns)
  | cancelRequest id requester update =>
    refine Fallible.asks_dropResult (Fallible.asks_andThen (asks_findOne id) fun request => ?_)
    exact Fallible.asks_checkThen fun _ => Fallible.asks_ignoringFailure (asks_cancel rfl)
  | generatePayload actionType requestId userId amount token nonce actionId =>
    exact Fallible.asks_dropResult
      (Fallible.asks_andThen (Fallible.asks_ask trivial) fun _ => Fallible.asks_ask trivial)
  | handleInteractiveAction actionId invokingUserId turns =>
    apply Fallible.asks_dropResult
    apply Fallible.asks_andThen (Fallible.asks_ask trivial)
    intro payload
    apply Fallible.asks_andThen (Fallible.asks_checked _)
    intro payload
    apply Fallible.asks_andThen (Fallible.asks_ask trivial)
    intro now
    apply Fallible.asks_checkThen
    intro hverified
    apply Fallible.asks_andThen (Fallible.asks_ask trivial)
    intro claimed
    apply Fallible.asks_checkThen
    intro hclaimed
    obtain ⟨-, -, huser⟩ := of_decide_eq_true hverified
    exact asks_handlePayload huser turns
  | handleRequestPaymentAction requestId userId turns =>
    refine Fallible.asks_dropResult ?_
    unfold handleRequestPaymentAction
    split_ifs
    · exact Fallible.asks_pure ()
    · exact Fallible.asks_ignoringFailure (asks_payRequest _ _ turns)
  | handleRequestDeclineAction requestId userId update =>
    exact Fallible.asks_dropResult (Fallible.asks_ignoringFailure (asks_cancel rfl))

/-- Every request has one transfer at most, a paid one stays paid, a transfer is for a request that
was pending and not expired when the call started, and a cancelled one was pending and is cancelled
by a call of its requester or its recipient. -/
structure PaidOnce (tr : Trace Tables Operation Request Answer)
    (c : Config Tables Operation Request Answer) : Prop where
  once : (c.state.transfers.map Transfer.requestId).Nodup
  terminal : ∀ t ∈ tr, ∀ row ∈ t.before.state.requests.rows, row.status = .paid →
    ∃ row' ∈ t.after.state.requests.rows, row'.id = row.id ∧ row'.status = .paid
  opened : ∀ t ∈ tr, ∀ transfer ∈ t.after.state.transfers, transfer ∈ t.before.state.transfers ∨
    ∃ row ∈ t.before.state.requests.rows, row.id = transfer.requestId ∧ row.status = .pending ∧
    ¬row.expiredAt transfer.startedAt
  cancelled : ∀ t ∈ tr, ∀ row' ∈ t.after.state.requests.rows, row'.status = .cancelled →
    row' ∈ t.before.state.requests.rows ∨
    ∃ row ∈ t.before.state.requests.rows, row.id = row'.id ∧ row.status = .pending ∧
      ∃ i op stage fate x, t.event = .performed i (.cancel row.id op.caller fate) x ∧
        t.before.processes i = some ⟨op, stage⟩ ∧ t.before.state.party row op.caller

variable {start : Tables} {tr : Trace Tables Operation Request Answer}
  {c : Config Tables Operation Request Answer}

theorem cancellations_carry (t : Tables) (r : Request) :
    (carry t r).2.cancellations = t.cancellations ∨
    ∃ id userId fate, r = .cancel id userId fate ∧ (carry t r).2.cancellations = ⟨id, userId⟩ ::
      t.cancellations := by
  cases r with
  | cancel id userId fate =>
    cases hcarried : fate.carried with
    | true => exact .inr ⟨id, userId, fate, rfl, by rw [carry, if_pos hcarried]; rfl⟩
    | false => exact .inl (by simp [carry, hcarried])
  | markPaid transfer txHash fate =>
    cases hcarried : fate.carried <;> simp [carry, hcarried, Tables.markPaid]
  | _ => exact .inl rfl

/-- What is written down for a cancellation is the request of a call, for its caller. -/
theorem caller_of_cancellation (hrun : (requestService sign).Runs start tr c) :
    ∀ t ∈ tr, ∀ id userId,
    t.after.state.cancellations = ⟨id, userId⟩ :: t.before.state.cancellations →
      ∃ i op stage fate x, t.event = .performed i (.cancel id op.caller fate) x ∧
        t.before.processes i = some ⟨op, stage⟩ ∧ userId = op.caller := by
  intro t ht id' userId' hnew
  rcases StoreService.asked_of_mem (Q := cancelsAsCaller) hrun
    (fun t _ => StoreService.meets_anything t) (fun op _ => asks_program op) ht with
    ⟨i, op, r, x, next, hevent, hhere, hasks, -, hafter⟩ | hsame | ⟨n, hpasses⟩
  · have hafter : t.after.state = (carry t.before.state r).2 := hafter
    rw [hafter] at hnew
    rcases cancellations_carry t.before.state r with hsame | ⟨id, userId, fate, rfl, hcons⟩
    · exact absurd (hnew.symm.trans hsame) (List.cons_ne_self _ _)
    · obtain ⟨rfl, rfl⟩ := Cancellation.mk.inj (List.cons.inj (hnew.symm.trans hcons)).1
      have hcaller : userId' = op.caller := hasks
      subst hcaller
      exact ⟨i, op, _, fate, x, hevent, hhere, rfl⟩
  · rw [hsame] at hnew
    exact absurd hnew.symm (List.cons_ne_self _ _)
  · rw [hpasses] at hnew
    exact absurd hnew.symm (List.cons_ne_self _ _)

/-- Payments and cancellations by any users in any interleaving, as long as each cancellation finds
its request as it should. -/
theorem requests_paid_once (htransfers : start.transfers = [])
    (hrun : (requestService sign).Runs start tr c)
    (hmeets : ∀ t ∈ tr, StoreService.Meets cancelsOpen t) : PaidOnce tr c := by
  obtain ⟨H, hfinish⟩ := (requestCustody_kept sign).run hrun hmeets htransfers
  have hfinish : c.state.transfers = [] := hfinish
  have hsteps : ∀ t ∈ tr, PaysOpen t.before.state t.after.state :=
    (requestCustody_kept sign).steps hrun hmeets htransfers
  constructor
  · rw [hfinish]
    exact List.nodup_nil
  · exact fun t ht => (hsteps t ht).terminal
  · exact fun t ht transfer htransfer => .inl ((hsteps t ht).transfers ▸ htransfer)
  · intro t ht row' hrow' hcancelled
    rcases (hsteps t ht).cancelled row' hrow' hcancelled with hold | ⟨row, hrow, hid, hpending,
      userId, hnew, hparty⟩
    · exact .inl hold
    · obtain ⟨i, op, stage, fate, x, hevent, hhere, rfl⟩ :=
        caller_of_cancellation hrun t ht _ _ hnew
      exact .inr ⟨row, hrow, hid, hpending, i, op, stage, fate, x, hevent, hhere, hparty⟩

end Runs

end VeriAgentPay.PaymentRequests

namespace VeriAgentPay.Devnet
open InterleavedPrograms PaymentRequests

/-- Ann asks Ben for ten. -/
def invoice (status : RequestStatus) (txHash : Option String) : PaymentRequest :=
  ⟨"req", "ann", some "ben", "@ben", "USDC", 10, status, txHash, some 5000⟩

/-- Ben has a wallet and Dan too. -/
def billed (request : PaymentRequest) : PaymentRequests.Tables where
  requests := ⟨[request], List.nodup_singleton _⟩
  users := ⟨[⟨"ann", some "0xAnn"⟩, ⟨"ben", some "0xBen"⟩, ⟨"dan", some "0xDan"⟩], by decide⟩
  payloads := []
  nonces := []
  now := 1000
  transfers := []
  cancellations := []

/-- The requests before and after the last step of a call, and whether its caller is Dan. -/
def lastBills (request : PaymentRequest) (i : ℕ)
    (schedule : List (Move PaymentRequests.Operation)) :
    Option (List PaymentRequest × List PaymentRequest × Option String × Option
      PaymentRequests.User) :=
  ((requestService id).moves StoreService.anything (Config.initial (billed request)) schedule).bind
    fun c =>
    ((requestService id).move StoreService.anything c (.step i)).map fun c' =>
      (c.state.requests.rows, c'.state.requests.rows, (c.processes i).map (·.operation.caller),
        c.state.users.find? "dan")

theorem bills_computed :
    lastBills (invoice .paid (some "0xHash")) 0 [.start 0 (.cancelRequest "req" "ann" .answered),
      .step 0] =
        some ([invoice .paid (some "0xHash")], [invoice .cancelled (some "0xHash")], some "ann",
          some ⟨"dan", some "0xDan"⟩) ∧
      lastBills (invoice .pending none) 0
        [.start 0 (.handleRequestDeclineAction "req" "dan" .answered)] =
        some ([invoice .pending none], [invoice .cancelled none], some "dan",
          some ⟨"dan", some "0xDan"⟩) := by
  refine ⟨?_, ?_⟩ <;> decide +kernel

/-- A paid request that is cancelled, and a request that a stranger has declined. -/
theorem requests_mispaid :
    (∃ tr c, (requestService id).Runs (billed (invoice .paid (some "0xHash"))) tr c ∧
      ¬PaidOnce tr c) ∧
    ∃ tr c, (requestService id).Runs (billed (invoice .pending none)) tr c ∧ ¬PaidOnce tr c := by
  obtain ⟨hundone, hdeclined⟩ := bills_computed
  constructor
  · obtain ⟨tr, c, e, c', hrun, -, hfacts⟩ := StoreService.runs_of_last hundone
    simp only [Prod.mk.injEq] at hfacts
    obtain ⟨hbefore, hafter, -⟩ := hfacts
    refine ⟨_, _, hrun, fun honce => ?_⟩
    have hterminal := honce.terminal _ (List.mem_append_right _ List.mem_cons_self)
    simp only [hbefore, hafter, List.mem_singleton, forall_eq, exists_eq_left] at hterminal
    exact absurd hterminal (by decide)
  · obtain ⟨tr, c, r, x, c', hrun, -, -, hfacts⟩ := StoreService.runs_of_request hdeclined
    simp only [Prod.mk.injEq] at hfacts
    obtain ⟨hbefore, hafter, hprocess, huser⟩ := hfacts
    refine ⟨_, _, hrun, fun honce => ?_⟩
    have hcancelled := honce.cancelled _ (List.mem_append_right _ List.mem_cons_self)
    simp only [hbefore, hafter, List.mem_singleton, forall_eq, exists_eq_left] at hcancelled
    rcases hcancelled rfl with hsame | ⟨-, -, i, op, stage, fate, answer, hevent, hhere, hparty⟩
    · exact absurd hsame (by decide)
    · cases hevent
      rw [hhere] at hprocess
      have hcaller : op.caller = "dan" := Option.some.inj hprocess
      rw [hcaller] at hparty
      simp [Tables.party, huser, invoice] at hparty

instance : DecidablePred cancelsOpen.starts := fun _ => inferInstanceAs (Decidable True)
instance (t : PaymentRequests.Tables) (row : PaymentRequest) (userId : String) :
    Decidable (t.party row userId) :=
  inferInstanceAs (Decidable (row.requesterId = userId ∨ row.recipientId = some userId ∨
    row.recipientIdentifier = userId ∨
    ∃ user ∈ t.users.find? userId, ∃ wallet ∈ user.smartWallet, row.recipientId = some wallet))
instance (i : ℕ) (op : PaymentRequests.Operation) (t : PaymentRequests.Tables)
    (r : PaymentRequests.Request) :
    Decidable (cancelsOpen.allows i op t r) := by
  cases r with
  | cancel id userId fate =>
    exact inferInstanceAs
      (Decidable (fate.carried → ∀ row ∈ t.requests.find? id, row.status = .cancelled ∨
      row.status = .pending ∧ (op.checksCaller ∨ t.party row userId)))
  | _ => exact .isTrue trivial
instance (t t' : PaymentRequests.Tables) : Decidable (cancelsOpen.passes t t') := .isTrue trivial

/-- The HMAC under the secret `interactive-secret`, of the one message that is signed. -/
def signAction (message : String) : String :=
  if message = "reject:req:ben:0011223344556677:86401000" then
    "d124d10b90fd7b416a38084eb77da64b5a59b00b79d4205a212710aca69b7dae"
  else ""

/-- Ben tries to pay, which is refused; then he is sent an action and rejects, and Ann cancels what
is cancelled. -/
theorem bill_rejected :
    ((requestService signAction).moves cancelsOpen (Config.initial (billed (invoice .pending none)))
      ([.start 0 (.payRequest "req" "ben" ⟨false, some 100, .ok (), .answered⟩)] ++
        List.replicate 5 (.step 0) ++
      [.start 1 (.generatePayload .reject "req" "ben" 10 "USDC" "0011223344556677" "act_1"),
        .step 1, .step 1,
        .start 2 (.handleInteractiveAction "act_1" "ben" ⟨false, some 100, .ok (), .answered⟩),
          .step 2, .step 2, .step 2, .step 2,
        .start 3 (.cancelRequest "req" "ann" .answered), .step 3, .step 3])).map
      (fun c => (c.state.requests.rows, [0, 1, 2, 3].all c.finished)) = some
        ([invoice .cancelled none], true) := by
  decide +kernel

theorem requests_paid_once_devnet :
    ∃ tr c, (requestService signAction).Runs (billed (invoice .pending none)) tr c ∧ PaidOnce tr c ∧
    c.state.requests.rows = [invoice .cancelled none] := by
  obtain ⟨tr, c, hrun, hmeets, -, hfacts⟩ := StoreService.runs_of_computed bill_rejected
  simp only [Prod.mk.injEq] at hfacts
  exact ⟨tr, c, hrun, requests_paid_once rfl hrun hmeets, hfacts.1⟩

end VeriAgentPay.Devnet
