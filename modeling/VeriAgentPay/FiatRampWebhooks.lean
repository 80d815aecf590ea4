import VeriAgentPay.BackendStore
import VeriAgentPay.KeyedTables
import VeriAgentPay.PaymentLinkServices
import VeriAgentPay.ProgramCustody

/-!
# Webhooks of the fiat ramps

A provider reports the state of a deposit or a withdrawal with a signed webhook. Each adapter reads
the id of the transaction and its state at other places of the payload; what follows is the same for
all of them.
-/

namespace VeriAgentPay.FiatRamp
open InterleavedPrograms KeyedTables
open InterleavedPrograms.Fallible (checked dropResult)
open FixedWidth (Bytes)
open Backend (Failure Json truthy)
open CheckedOutcome (orError)

section Tables

inductive RampProvider where
  | thirdweb | crossmint | stripeBridge | dextopus
  deriving DecidableEq

inductive TransactionType where
  | deposit | withdrawal
  deriving DecidableEq

inductive TransactionStatus where
  | pending | completed | failed | expired
  deriving DecidableEq

structure RampTransaction where
  externalTxId : String
  userId : String
  provider : RampProvider
  type : TransactionType
  amountFiat : ℚ
  fiatCurrency : String
  amountToken : ℚ
  tokenAddress : String
  status : TransactionStatus
  chainTxHash : Option String
  deriving DecidableEq

def RampTransaction.setStatus (status : TransactionStatus) (row : RampTransaction) :
    RampTransaction := { row with status := status }

inductive UserActivityAction where
  | fiatDeposit | fiatWithdraw
  deriving DecidableEq

structure ActivityLog where
  userId : String
  action : UserActivityAction
  amount : ℚ
  token : String
  txHash : Option String
  provider : RampProvider
  externalTxId : String
  fiatAmount : ℚ
  fiatCurrency : String
  deriving DecidableEq

structure Tables where
  transactions : Keyed RampTransaction.externalTxId
  activities : List ActivityLog

end Tables

section Adapters

/-- What the adapters use of the process and of its libraries. -/
structure Host where
  env : String → Option String
  /-- The HMAC of a body under a secret, in hex. -/
  hmac : String → Bytes → String
  /-- `JSON.parse`. -/
  parse : Bytes → Option Json
  toUpperCase : String → String

def verifiedWebhookJson (h : Host) (rawBody : Bytes) (signature : Option String)
    (secretName : String) : Except Failure Json :=
  match truthy (h.env secretName), truthy signature with
  | none, _ => .error (.error (secretName ++ " not configured"))
  | some _, none => .error (.unauthorized "Missing webhook signature")
  | some secret, some signature =>
    if signature = h.hmac secret rawBody then orError (h.parse rawBody) (.error "SyntaxError")
    else .error (.unauthorized "Invalid webhook signature")

/-- A property of a value that is neither null nor undefined. -/
def property (name : String) : Json → Option Json
  | .object members => members.lookup name
  | _ => none

/-- `payload.name`: the null has no properties. -/
def propertyOf (name : String) : Json → Except Failure (Option Json)
  | .null => .error (.error "TypeError")
  | payload => .ok (property name payload)

def isTruthy : Json → Bool
  | .null => false
  | .bool value => value
  | .number value => value ≠ 0
  | .string value => value ≠ ""
  | .object _ => true

/-- `a || b`. -/
def orElse (a b : Option Json) : Option Json := a.filter isTruthy <|> b

def isText (value : Option Json) (text : String) : Bool :=
  match value with
  | some (.string value) => value = text
  | _ => false

inductive WebhookStatus where
  | pending | completed | failed
  deriving DecidableEq

structure WebhookResult where
  externalTxId : Option Json
  status : WebhookStatus

def reported (completed : Bool) : WebhookStatus := if completed then .completed else .pending

namespace ThirdwebRampAdapter

def handleWebhook (h : Host) (rawBody : Bytes) (signature : Option String) :
    Except Failure WebhookResult := do
  let payload ← verifiedWebhookJson h rawBody signature "THIRDWEB_WEBHOOK_SECRET"
  let data := (property "data" payload)
  let externalTxId := orElse (data.bind (property "intentId")) (property "id" payload)
  if (externalTxId.filter isTruthy).isNone then
    .error (.badRequest "Webhook missing transaction id")
  else .ok ⟨externalTxId, reported (isText (data.bind (property "status")) "settled")⟩

end ThirdwebRampAdapter

/-- The other adapters: one of two properties is the id, and a property tells when the transaction
is completed. -/
def plainWebhook (secretName idName statusName completedText : String) (h : Host) (rawBody : Bytes)
    (signature : Option String) :
    Except Failure WebhookResult := do
  let payload ← verifiedWebhookJson h rawBody signature secretName
  let own ← propertyOf idName payload
  let id ← propertyOf "id" payload
  let status ← propertyOf statusName payload
  .ok ⟨orElse own id, reported (isText status completedText)⟩

namespace CrossmintRampAdapter

def handleWebhook := plainWebhook "CROSSMINT_WEBHOOK_SECRET" "orderId" "status" "delivered"

end CrossmintRampAdapter

namespace StripeBridgeRampAdapter

def handleWebhook := plainWebhook "STRIPE_BRIDGE_WEBHOOK_SECRET" "id" "status" "completed"

end StripeBridgeRampAdapter

namespace DextopusRampAdapter

def handleWebhook := plainWebhook "DEXTOPUS_WEBHOOK_SECRET" "txId" "event" "settled"

end DextopusRampAdapter

def RampProvider.handleWebhook : RampProvider → Host → Bytes → Option String →
    Except Failure WebhookResult
  | thirdweb => ThirdwebRampAdapter.handleWebhook
  | crossmint => CrossmintRampAdapter.handleWebhook
  | stripeBridge => StripeBridgeRampAdapter.handleWebhook
  | dextopus => DextopusRampAdapter.handleWebhook

def RampProvider.secretName : RampProvider → String
  | thirdweb => "THIRDWEB_WEBHOOK_SECRET"
  | crossmint => "CROSSMINT_WEBHOOK_SECRET"
  | stripeBridge => "STRIPE_BRIDGE_WEBHOOK_SECRET"
  | dextopus => "DEXTOPUS_WEBHOOK_SECRET"

end Adapters

section Services

inductive Request where
  | findUnique (externalTxId : String)
  | updateMany (externalTxId : String) (status : TransactionStatus)
  /-- The activity is stored if its user is found and the insert succeeds. -/
  | record (activity : ActivityLog) (stored : Bool)

abbrev Answer : Request → Type
  | .findUnique _ => Option RampTransaction
  | .updateMany _ _ => ℕ
  | .record _ _ => Unit

abbrev Service (α : Type) := Fallible Failure Request Answer α

abbrev ask (r : Request) : Service (Answer r) := Fallible.ask r

def carry (t : Tables) : (r : Request) → Answer r × Tables
  | .findUnique externalTxId => (t.transactions.find? externalTxId, t)
  | .updateMany externalTxId status =>
    (t.transactions.count (·.externalTxId = externalTxId),
      { t with
        transactions := t.transactions.update (·.externalTxId = externalTxId) (·.setStatus status)
          fun _ => rfl })
  | .record activity stored =>
    ((), { t with activities := if stored then t.activities ++ [activity] else t.activities })

/-- The client refuses an id that is no text. -/
def uniqueId : Option Json → Except Failure String
  | some (.string id) => .ok id
  | _ => .error (.error "PrismaClientValidationError")

def WebhookStatus.stored : WebhookStatus → TransactionStatus
  | completed => .completed
  | failed => .failed
  | pending => .pending

def RampTransaction.activity (h : Host) (provider : RampProvider) (row : RampTransaction)
    (externalTxId : String) : ActivityLog where
  userId := row.userId
  action := if row.type = .deposit then .fiatDeposit else .fiatWithdraw
  amount := row.amountToken
  token := h.toUpperCase row.tokenAddress
  txHash := row.chainTxHash
  provider := provider
  externalTxId := externalTxId
  fiatAmount := row.amountFiat
  fiatCurrency := row.fiatCurrency

def recordCompletion (h : Host) (provider : RampProvider) (externalTxId : String) (stored : Bool) :
    Option RampTransaction → Service Unit
  | some row => ask (.record (row.activity h provider externalTxId) stored)
  | none => pure ()

def processWebhook (h : Host) (provider : RampProvider) (rawBody : Bytes)
    (signature : Option String) (stored : Bool) :
    Service WebhookResult := do
  let result ← checked (provider.handleWebhook h rawBody signature)
  let externalTxId ← checked (uniqueId result.externalTxId)
  let transaction ← ask (.findUnique externalTxId)
  let count ← ask (.updateMany externalTxId result.status.stored)
  recordCompletion h provider externalTxId stored
    (transaction.filter fun _ => 0 < count ∧ result.status = .completed)
  pure result

/-- A webhook as it arrives. -/
structure Delivery where
  provider : RampProvider
  rawBody : Bytes
  signature : Option String
  /-- Whether an activity can be stored. -/
  stored : Bool

def Delivery.program (h : Host) (delivery : Delivery) : Program Request Answer Unit :=
  dropResult (processWebhook h delivery.provider delivery.rawBody delivery.signature
    delivery.stored)

def rampService (h : Host) : StoreService Tables Delivery Request Answer where
  program := Delivery.program h
  carry _ _ := carry
  passes _ t := t

end Services

section Signatures

variable {h : Host} {delivery : Delivery}

/-- The body is signed with the secret of the provider. -/
def Delivery.Signed (h : Host) (delivery : Delivery) : Prop :=
  ∃ secret, truthy (h.env delivery.provider.secretName) = some secret ∧
    truthy delivery.signature = some (h.hmac secret delivery.rawBody)

theorem verifiedWebhookJson_eq_ok {rawBody : Bytes} {signature : Option String}
    {secretName : String} {payload : Json} :
    verifiedWebhookJson h rawBody signature secretName = .ok payload ↔
      (∃ secret, truthy (h.env secretName) = some secret ∧
        truthy signature = some (h.hmac secret rawBody)) ∧
        h.parse rawBody = some payload := by
  unfold verifiedWebhookJson
  cases truthy (h.env secretName) with
  | none => simp
  | some secret =>
    cases truthy signature with
    | none => simp
    | some signature =>
      by_cases hsame : signature = h.hmac secret rawBody
      · cases hparse : h.parse rawBody with
        | none => simp [hsame, orError]
        | some document => simp [hsame, orError]
      · simp [hsame]

theorem signed_of_plainWebhook {secretName idName statusName completedText : String}
    {rawBody : Bytes} {signature : Option String} {result : WebhookResult}
    (hresult : plainWebhook secretName idName statusName completedText h rawBody signature =
      .ok result) :
    ∃ payload, verifiedWebhookJson h rawBody signature secretName = .ok payload := by
  simp only [plainWebhook, CheckedOutcome.bind_eq_ok] at hresult
  obtain ⟨payload, hpayload, -⟩ := hresult
  exact ⟨payload, hpayload⟩

theorem signed_of_handleWebhook {result : WebhookResult}
    (hresult : delivery.provider.handleWebhook h delivery.rawBody delivery.signature = .ok result) :
    delivery.Signed h := by
  have hverified :
      ∃ payload, verifiedWebhookJson h delivery.rawBody delivery.signature
        delivery.provider.secretName = .ok payload := by
    obtain ⟨provider, rawBody, signature, stored⟩ := delivery
    cases provider with
    | thirdweb =>
      simp only [RampProvider.handleWebhook, ThirdwebRampAdapter.handleWebhook,
        CheckedOutcome.bind_eq_ok] at hresult
      obtain ⟨payload, hpayload, -⟩ := hresult
      exact ⟨payload, hpayload⟩
    | crossmint => exact signed_of_plainWebhook hresult
    | stripeBridge => exact signed_of_plainWebhook hresult
    | dextopus => exact signed_of_plainWebhook hresult
  obtain ⟨payload, hpayload⟩ := hverified
  exact (verifiedWebhookJson_eq_ok.mp hpayload).1

/-- Nothing is asked for unless the webhook is signed. -/
theorem asks_program : (delivery.program h).Asks (fun _ => delivery.Signed h) fun _ _ => True := by
  unfold Delivery.program processWebhook
  apply Fallible.asks_dropResult
  cases hresult : delivery.provider.handleWebhook h delivery.rawBody delivery.signature with
  | error e => trivial
  | ok result =>
    have hsigned := signed_of_handleWebhook hresult
    refine Fallible.asks_andThen (Fallible.asks_checked _) fun _ => ?_
    refine Fallible.asks_andThen (Fallible.asks_checked _) fun externalTxId => ?_
    refine Fallible.asks_andThen (Fallible.asks_ask hsigned) fun transaction => ?_
    refine Fallible.asks_andThen (Fallible.asks_ask hsigned) fun count => ?_
    refine Fallible.asks_andThen ?_ fun _ => trivial
    unfold recordCompletion
    split
    · exact Fallible.asks_ask hsigned
    · trivial

end Signatures

section Settlements

def TransactionStatus.settled (status : TransactionStatus) : Prop :=
  status = .completed ∨ status = .failed

instance (status : TransactionStatus) : Decidable status.settled :=
  inferInstanceAs (Decidable (_ ∨ _))

/-- A webhook reports on an open transaction of its own provider, or on none at all. -/
def reportsOnOpen : StoreService.Conditions Tables Delivery Request where
  starts _ := True
  allows _ delivery t
    | .updateMany externalTxId _ => ∀ row ∈ t.transactions.rows, row.externalTxId = externalTxId →
        row.provider = delivery.provider ∧ ¬row.status.settled
    | _ => True
  passes _ _ := True

def Tables.Completed (t : Tables) (externalTxId : String) : Prop :=
  ∃ row ∈ t.transactions.rows, row.externalTxId = externalTxId ∧ row.status = .completed

/-- The invariant, and the completion that a call has yet to record. -/
structure Recorded (t : Tables) (H : ℕ → Option String) : Prop where
  completed : ∀ activity ∈ t.activities, t.Completed activity.externalTxId
  once : (t.activities.map ActivityLog.externalTxId).Nodup
  held : ∀ i externalTxId, H i = some externalTxId →
    t.Completed externalTxId ∧ externalTxId ∉ t.activities.map ActivityLog.externalTxId
  alone : ∀ i j externalTxId, H i = some externalTxId → H j = some externalTxId → i = j

/-- Settled transactions stay. -/
def SettledStay (t t' : Tables) : Prop :=
  ∀ row ∈ t.transactions.rows, row.status.settled → row ∈ t'.transactions.rows

def rampCustody (h : Host) : Custody Tables Delivery Request Answer (Option String) where
  service := rampService h
  conditions := reportsOnOpen
  inv := Recorded
  grows := SettledStay
  idle := none

variable {h : Host} {t : Tables} {H : ℕ → Option String} {i : ℕ} {delivery : Delivery}
  {externalTxId : String}

theorem SettledStay.refl (t : Tables) : SettledStay t t := fun _ hrow _ => hrow

/-- An update of an open transaction. -/
def Tables.reported (t : Tables) (externalTxId : String) (status : TransactionStatus) : Tables :=
  (carry t (.updateMany externalTxId status)).2

theorem mem_reported {status : TransactionStatus} {row : RampTransaction} :
    row ∈ (t.reported externalTxId status).transactions.rows ↔
    ∃ old ∈ t.transactions.rows, (if old.externalTxId = externalTxId then old.setStatus status
      else old) = row := by
  refine (Keyed.mem_update (f := (RampTransaction.setStatus status)) fun _ => rfl).trans ?_
  simp only [decide_eq_true_eq]

theorem settledStay_reported
    (hopen : ∀ row ∈ t.transactions.rows, row.externalTxId = externalTxId → ¬row.status.settled)
    (status : TransactionStatus) : SettledStay t (t.reported externalTxId status) := by
  intro row hrow hsettled
  have hother : row.externalTxId ≠ externalTxId := fun hsame => hopen row hrow hsame hsettled
  exact mem_reported.mpr ⟨row, hrow, if_neg hother⟩

theorem Tables.Completed.other (hcompleted : t.Completed externalTxId) {externalTxId' : String}
    (hopen : ∀ row ∈ t.transactions.rows, row.externalTxId = externalTxId' → ¬row.status.settled) :
    externalTxId ≠ externalTxId' := by
  obtain ⟨row, hrow, hid, hstatus⟩ := hcompleted
  intro hsame
  exact hopen row hrow (hid.trans hsame) (.inl hstatus)

theorem Tables.Completed.stays {t' : Tables} (hcompleted : t.Completed externalTxId)
    (hstay : SettledStay t t') :
    t'.Completed externalTxId := by
  obtain ⟨row, hrow, hid, hstatus⟩ := hcompleted
  exact ⟨row, hstay row hrow (.inl hstatus), hid, hstatus⟩

theorem completed_reported (hcount : 0 < (carry t (.updateMany externalTxId .completed)).1) :
    (t.reported externalTxId .completed).Completed externalTxId := by
  obtain ⟨row, hrow, hid⟩ := List.countP_pos_iff.mp hcount
  have hid : row.externalTxId = externalTxId := of_decide_eq_true hid
  exact ⟨row.setStatus .completed, mem_reported.mpr ⟨row, hrow, if_pos hid⟩, hid, rfl⟩

/-- What a call holds that has reported a status. -/
def toRecord (externalTxId : String) (status : TransactionStatus) (count : ℕ) : Option String :=
  if 0 < count ∧ status = .completed then some externalTxId else none

theorem Recorded.reported (hinv : Recorded t H) {status : TransactionStatus}
    (hopen : ∀ row ∈ t.transactions.rows, row.externalTxId = externalTxId → ¬row.status.settled) :
    Recorded (t.reported externalTxId status)
      (Function.update H i
        (toRecord externalTxId status (carry t (.updateMany externalTxId status)).1)) := by
  have hstay := settledStay_reported hopen status
  have hheld : ∀ j externalTxId', Function.update H i
      (toRecord externalTxId status (carry t (.updateMany externalTxId status)).1) j =
      some externalTxId' → j = i ∧ externalTxId' = externalTxId ∧
      0 < (carry t (.updateMany externalTxId status)).1 ∧
        status = .completed ∨ j ≠ i ∧ H j = some externalTxId' := by
    intro j externalTxId' hj
    by_cases hji : j = i
    · subst hji
      rw [Function.update_self, toRecord] at hj
      split_ifs at hj with hcompletes
      exact .inl ⟨rfl, (Option.some.inj hj).symm, hcompletes⟩
    · rw [Function.update_of_ne hji] at hj
      exact .inr ⟨hji, hj⟩
  constructor
  · intro activity hactivity
    exact (hinv.completed activity hactivity).stays hstay
  · exact hinv.once
  · intro j externalTxId' hj
    rcases hheld j externalTxId' hj with ⟨-, rfl, hcount, rfl⟩ | ⟨-, hold⟩
    · refine ⟨completed_reported hcount, ?_⟩
      intro hrecorded
      obtain ⟨activity, hactivity, hid⟩ := List.mem_map.mp hrecorded
      exact (hinv.completed activity hactivity).other hopen hid
    · obtain ⟨hcompleted, hnew⟩ := hinv.held j externalTxId' hold
      exact ⟨hcompleted.stays hstay, hnew⟩
  · intro j k externalTxId' hj hk
    rcases hheld j externalTxId' hj with ⟨rfl, rfl, -⟩ | ⟨-, hold⟩
    · rcases hheld k externalTxId' hk with ⟨rfl, -⟩ | ⟨-, hold⟩
      · rfl
      · exact absurd rfl ((hinv.held k externalTxId' hold).1.other hopen)
    · rcases hheld k externalTxId' hk with ⟨-, rfl, -⟩ | ⟨-, hold'⟩
      · exact absurd rfl ((hinv.held j externalTxId' hold).1.other hopen)
      · exact hinv.alone j k externalTxId' hold hold'

theorem Recorded.record (hinv : Recorded t H) (hi : H i = some externalTxId)
    {activity : ActivityLog} (hid : activity.externalTxId = externalTxId) (stored : Bool) :
    Recorded (carry t (.record activity stored)).2 (Function.update H i none) := by
  obtain ⟨hcompleted, hnew⟩ := hinv.held i externalTxId hi
  have hheld : ∀ j externalTxId', Function.update H i none j = some externalTxId' → j ≠ i ∧
      H j = some externalTxId' := by
    intro j externalTxId' hj
    by_cases hji : j = i
    · subst hji
      rw [Function.update_self] at hj
      cases hj
    · rw [Function.update_of_ne hji] at hj
      exact ⟨hji, hj⟩
  cases stored with
  | false =>
    refine ⟨hinv.completed, hinv.once, ?_, ?_⟩
    · exact fun j externalTxId' hj => hinv.held j externalTxId' (hheld j externalTxId' hj).2
    · exact fun j k externalTxId' hj hk => hinv.alone j k externalTxId' (hheld j _ hj).2
        (hheld k _ hk).2
  | true =>
    have hactivities : (carry t (.record activity true)).2.activities = t.activities ++
        [activity] := rfl
    constructor
    · intro other hother
      rw [hactivities] at hother
      rcases List.mem_append.mp hother with hold | hlast
      · exact hinv.completed other hold
      · rw [List.mem_singleton.mp hlast, hid]
        exact hcompleted
    · rw [hactivities, List.map_append, List.nodup_append]
      refine ⟨hinv.once, List.nodup_singleton _, ?_⟩
      rintro old hold last hlast rfl
      rw [List.map_singleton, List.mem_singleton] at hlast
      exact hnew (hid ▸ hlast ▸ hold)
    · intro j externalTxId' hj
      obtain ⟨hji, hj⟩ := hheld j externalTxId' hj
      obtain ⟨hcompleted', hnew'⟩ := hinv.held j externalTxId' hj
      refine ⟨hcompleted', ?_⟩
      rw [hactivities, List.map_append, List.mem_append, List.map_singleton,
        List.mem_singleton, not_or]
      refine ⟨hnew', ?_⟩
      rintro rfl
      exact hji (hinv.alone j i _ hj (hid ▸ hi))
    · exact fun j k externalTxId' hj hk => hinv.alone j k externalTxId' (hheld j _ hj).2
        (hheld k _ hk).2

/-- A status is reported; the call then holds the completion, if it is one. -/
theorem upholds_updateMany {status : TransactionStatus} {E : Tables → Option String → Prop} :
    (rampCustody h).Upholds i delivery (ask (.updateMany externalTxId status)) (fun _ => True) none
      (fun count _ held => held = toRecord externalTxId status count) E := by
  refine (Custody.Upholds.ask (D := rampCustody h) (r := .updateMany externalTxId status)
    (S := fun _ _ => True)
    (fun count : ℕ => toRecord externalTxId status count)
      (fun _ => Custody.stable_const True) ?_).weaken (fun _ hs => hs)
    (fun _ _ _ hs => hs.1) fun _ _ hs => hs
  intro t H hinv _ _ hallows
  have hopen : ∀ row ∈ t.transactions.rows, row.externalTxId = externalTxId → ¬row.status.settled :=
    fun row hrow hid => (hallows row hrow hid).2
  exact ⟨settledStay_reported hopen status, Recorded.reported hinv hopen, trivial⟩

theorem upholds_record {activity : ActivityLog} {stored : Bool}
    {E : Tables → Option String → Prop} :
    (rampCustody h).Upholds i delivery (ask (.record activity stored)) (fun _ => True)
      (some activity.externalTxId) (fun _ _ _ => True) E := by
  refine (Custody.Upholds.handOver none ?_).weaken (fun _ hs => hs) (fun _ _ _ _ => trivial)
    fun _ _ hs => hs
  intro t H hinv _ hi _
  exact ⟨SettledStay.refl t, Recorded.record hinv hi rfl stored⟩

theorem upholds_processWebhook {provider : RampProvider} {rawBody : Bytes}
    {signature : Option String} {stored : Bool} :
    (rampCustody h).Upholds i delivery (processWebhook h provider rawBody signature stored)
      (fun _ => True) none
      (fun _ _ _ => True) fun _ _ => True := by
  unfold processWebhook
  refine Custody.Upholds.checkedThen (fun _ _ _ _ => trivial) fun result _ => ?_
  refine Custody.Upholds.checkedThen (fun _ _ _ _ => trivial) fun externalTxId _ => ?_
  apply Custody.Upholds.lookThen SettledStay.refl (fun _ => rfl) (Custody.stable_const True)
  intro transaction
  apply Custody.Upholds.bind upholds_updateMany
  intro count held
  refine Custody.Upholds.given (fun _ hs => hs) ?_
  rintro rfl
  refine Custody.Upholds.bind (S := fun _ _ _ => True) ?_ fun _ _ => Custody.Upholds.pure
    fun _ _ => trivial
  cases hrow : transaction.filter fun _ => 0 < count ∧ result.status = .completed with
  | none => exact Custody.Upholds.pure fun _ _ => trivial
  | some row =>
    obtain ⟨-, hcompletes⟩ := Option.filter_eq_some_iff.mp hrow
    obtain ⟨hcount, hstatus⟩ := of_decide_eq_true hcompletes
    have hheld : toRecord externalTxId result.status.stored count = some externalTxId := by
      rw [toRecord, if_pos ⟨hcount, by rw [hstatus]; rfl⟩]
    rw [hheld]
    exact upholds_record.knowing fun _ _ => trivial

theorem rampCustody_kept (h : Host) : (rampCustody h).Kept where
  refl := SettledStay.refl
  programs _ _ _ := Custody.Upholds.dropResult upholds_processWebhook
  passes _ t _ hinv _ := ⟨SettledStay.refl t, hinv⟩

/-- A run in which settled transactions stay as they are, none is recorded twice, and what changes a
transaction is the report of a webhook that its own provider has signed. -/
structure SettledOnce (h : Host) (tr : Trace Tables Delivery Request Answer)
    (c : Config Tables Delivery Request Answer) : Prop where
  terminal : ∀ t ∈ tr, SettledStay t.before.state t.after.state
  once : (c.state.activities.map ActivityLog.externalTxId).Nodup
  own : ∀ t ∈ tr, ∀ row ∈ t.before.state.transactions.rows, row ∉ t.after.state.transactions.rows →
    ∃ i delivery stage status x, t.event = .performed i (.updateMany row.externalTxId status) x ∧
      t.before.processes i = some ⟨delivery, stage⟩ ∧ delivery.Signed h ∧
      delivery.provider = row.provider

variable {start : Tables} {tr : Trace Tables Delivery Request Answer}
  {c : Config Tables Delivery Request Answer}

/-- Deliveries from all providers in any order and number, as long as each of them finds the
transaction open and its own. -/
theorem webhooks_settle_once (hactivities : start.activities = [])
    (hrun : (rampService h).Runs start tr c)
    (hmeets : ∀ t ∈ tr, StoreService.Meets reportsOnOpen t) :
    SettledOnce h tr c ∧ ∀ provider rawBody signature,
      (∃ payload, verifiedWebhookJson h rawBody signature
        (RampProvider.secretName provider) = .ok payload) ↔
        Delivery.Signed h ⟨provider, rawBody, signature, true⟩ ∧ (h.parse rawBody).isSome := by
  have hstart : Recorded start fun _ => none := by
    refine ⟨?_, ?_, fun _ _ hheld => (nomatch hheld), fun _ _ _ hheld => (nomatch hheld)⟩
    · rw [hactivities]
      exact fun _ hnone => (nomatch hnone)
    · rw [hactivities]
      exact List.nodup_nil
  obtain ⟨H, hfinish⟩ := (rampCustody_kept h).run hrun hmeets hstart
  have hsteps := (rampCustody_kept h).steps hrun hmeets hstart
  refine ⟨⟨hsteps, hfinish.once, ?_⟩, ?_⟩
  · intro t ht row hrow hchanged
    rcases StoreService.asked_of_mem (Q := fun delivery _ => delivery.Signed h) hrun hmeets
      (fun _ _ => asks_program) ht with
      ⟨i, delivery, r, x, next, hevent, hhere, hsigned, hallows, hafter⟩ | hsame | ⟨n, hpasses⟩
    · cases r with
      | updateMany externalTxId status =>
        have hid : row.externalTxId = externalTxId := by
          by_contra hother
          apply hchanged
          rw [hafter]
          exact mem_reported.mpr ⟨row, hrow, if_neg hother⟩
        subst hid
        exact ⟨i, delivery, _, status, x, hevent, hhere, hsigned, (hallows row hrow rfl).1.symm⟩
      | findUnique externalTxId => exact absurd (hafter ▸ hrow) hchanged
      | record activity stored => exact absurd (hafter ▸ hrow) hchanged
    · exact absurd (hsame ▸ hrow) hchanged
    · exact absurd (hpasses ▸ hrow) hchanged
  · intro provider rawBody signature
    simp only [verifiedWebhookJson_eq_ok, Delivery.Signed, Option.isSome_iff_exists,
      exists_and_left]

end Settlements

end VeriAgentPay.FiatRamp

namespace VeriAgentPay.Devnet
open InterleavedPrograms FiatRamp
open FixedWidth (Bytes)

def settledBody : Bytes :=
  asciiBytes "\x7b\"id\":\"tx1\",\"data\":\x7b\"status\":\"settled\"\x7d\x7d"
def waitingBody : Bytes :=
  asciiBytes "\x7b\"id\":\"tx1\",\"data\":\x7b\"status\":\"waiting\"\x7d\x7d"
def deliveredBody : Bytes := asciiBytes "\x7b\"id\":\"tx1\",\"status\":\"delivered\"\x7d"

def settledHmac : String := "dbbc1833110920f461dd3e973f1e9ae140d949e62f0b96b67a4b62db965bd260"
def waitingHmac : String := "77ab44306fd53956be27b4892a007cbd45dbc863c148c732b69a53fe108a3850"
def deliveredHmac : String := "5f7bdb649ca4b69f52ab339099e5d065e03879b64db299e574e1a975720a0499"

def rampHost : FiatRamp.Host where
  env name :=
    [("THIRDWEB_WEBHOOK_SECRET", "tw-secret"),
      ("CROSSMINT_WEBHOOK_SECRET", "cm-secret")].lookup name
  hmac secret body :=
    ([(("tw-secret", settledBody), settledHmac), (("tw-secret", waitingBody), waitingHmac),
      (("cm-secret", deliveredBody), deliveredHmac)].lookup (secret, body)).getD ""
  parse body :=
    if body = settledBody then
      some (.object [("id", .string "tx1"), ("data", .object [("status", .string "settled")])])
    else if body = waitingBody then
      some (.object [("id", .string "tx1"), ("data", .object [("status", .string "waiting")])])
    else if body = deliveredBody then
      some (.object [("id", .string "tx1"), ("status", .string "delivered")])
    else none
  toUpperCase text := String.ofList (text.toList.map Char.toUpper)

def openDeposit (status : TransactionStatus) : RampTransaction :=
  ⟨"tx1", "ann", .thirdweb, .deposit, 20, "USD", 19, "0xUSDC", status, none⟩

def ramps : FiatRamp.Tables := ⟨⟨[openDeposit .pending], List.nodup_singleton _⟩, []⟩

def settledDelivery : Delivery := ⟨.thirdweb, settledBody, some settledHmac, true⟩
def waitingDelivery : Delivery := ⟨.thirdweb, waitingBody, some waitingHmac, true⟩
def deliveredDelivery : Delivery := ⟨.crossmint, deliveredBody, some deliveredHmac, true⟩

def deliver (i n : ℕ) (delivery : Delivery) : List (Move Delivery) :=
  .start i delivery :: List.replicate n (.step i)

/-- The transactions before and after the last step of a schedule, and who makes it. -/
def lastChange (i : ℕ) (schedule : List (Move Delivery)) :
    Option (List RampTransaction × List RampTransaction × Option RampProvider) :=
  ((rampService rampHost).moves StoreService.anything (Config.initial ramps) schedule).bind fun c =>
    ((rampService rampHost).move StoreService.anything c (.step i)).map fun c' =>
      (c.state.transactions.rows, c'.state.transactions.rows,
        (c.processes i).map (·.operation.provider))

theorem webhooks_computed :
    lastChange 1 (deliver 0 3 settledDelivery ++ deliver 1 1 waitingDelivery) =
        some ([openDeposit .completed], [openDeposit .pending], some .thirdweb) ∧
      lastChange 0 (deliver 0 1 deliveredDelivery) = some ([openDeposit .pending],
        [openDeposit .completed], some .crossmint) ∧
      ((rampService rampHost).moves StoreService.anything (Config.initial ramps)
          (deliver 0 3 settledDelivery ++ deliver 1 3 settledDelivery)).map
            (fun c => c.state.activities.map ActivityLog.externalTxId) =
        some ["tx1", "tx1"] := by
  refine ⟨?_, ?_, ?_⟩ <;> decide +kernel

/-- A late report of a settled transaction, the same report twice, and a report of another
provider. -/
theorem webhooks_unsettle :
    (∃ tr c, (rampService rampHost).Runs ramps tr c ∧
      ∃ t ∈ tr, ∃ row ∈ t.before.state.transactions.rows, row.status.settled ∧
      t.after.state.transactions.rows = [openDeposit .pending]) ∧
    (∃ tr c, (rampService rampHost).Runs ramps tr c ∧
      ¬(c.state.activities.map ActivityLog.externalTxId).Nodup) ∧
    ∃ tr c, (rampService rampHost).Runs ramps tr c ∧ ∃ t ∈ tr, ∃ r x, t.event = .performed 0 r x ∧
      ∃ row ∈ t.before.state.transactions.rows, row ∉ t.after.state.transactions.rows ∧
        ∀ delivery stage, t.before.processes 0 = some ⟨delivery, stage⟩ →
          delivery.provider ≠ row.provider := by
  obtain ⟨hlate, hforeign, htwice⟩ := webhooks_computed
  refine ⟨?_, ?_, ?_⟩
  · obtain ⟨tr, c, e, c', hrun, -, hfacts⟩ := StoreService.runs_of_last hlate
    simp only [Prod.mk.injEq] at hfacts
    obtain ⟨hbefore, hafter, -⟩ := hfacts
    refine ⟨_, _, hrun, _, List.mem_append_right _ List.mem_cons_self, openDeposit .completed, ?_,
      .inl rfl, hafter⟩
    rw [hbefore]
    exact List.mem_cons_self
  · obtain ⟨tr, c, hrun, -, -, hfacts⟩ := StoreService.runs_of_computed htwice
    refine ⟨tr, c, hrun, ?_⟩
    rw [hfacts]
    decide
  · obtain ⟨tr, c, r, x, c', hrun, -, -, hfacts⟩ := StoreService.runs_of_request hforeign
    simp only [Prod.mk.injEq] at hfacts
    obtain ⟨hbefore, hafter, hprovider⟩ := hfacts
    refine ⟨_, _, hrun, _, List.mem_append_right _ List.mem_cons_self, r, x, rfl,
      openDeposit .pending, ?_, ?_, ?_⟩
    · rw [hbefore]
      exact List.mem_cons_self
    · rw [hafter]
      decide
    · intro delivery stage hprocess
      have hprocess : c.processes 0 = some ⟨delivery, stage⟩ := hprocess
      rw [hprocess] at hprovider
      have hcrossmint : delivery.provider = .crossmint := Option.some.inj hprovider
      rw [hcrossmint]
      decide

instance : DecidablePred reportsOnOpen.starts := fun _ => inferInstanceAs (Decidable True)
instance (i : ℕ) (delivery : Delivery) (t : FiatRamp.Tables) (r : FiatRamp.Request) :
    Decidable (reportsOnOpen.allows i delivery t r) := by
  cases r with
  | updateMany externalTxId status =>
    exact inferInstanceAs (Decidable (∀ row ∈ t.transactions.rows, row.externalTxId = externalTxId →
      row.provider = delivery.provider ∧ ¬row.status.settled))
  | _ => exact .isTrue trivial
instance (t t' : FiatRamp.Tables) : Decidable (reportsOnOpen.passes t t') := .isTrue trivial

/-- A pending deposit is reported as waiting and then as settled. -/
theorem deposit_settled : ((rampService rampHost).moves reportsOnOpen (Config.initial ramps)
    (deliver 0 2 waitingDelivery ++ deliver 1 3 settledDelivery)).map
      (fun c => c.state.transactions.rows) =
      some [openDeposit .completed] := by
  decide +kernel

theorem webhooks_settle_once_devnet :
    ∃ tr c, (rampService rampHost).Runs ramps tr c ∧ SettledOnce rampHost tr c ∧
    c.state.transactions.rows = [openDeposit .completed] := by
  obtain ⟨tr, c, hrun, hmeets, -, hfacts⟩ := StoreService.runs_of_computed deposit_settled
  exact ⟨tr, c, hrun, (webhooks_settle_once rfl hrun hmeets).1, hfacts⟩

end VeriAgentPay.Devnet
