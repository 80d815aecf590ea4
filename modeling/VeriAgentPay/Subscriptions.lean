import VeriAgentPay.KeyedTables
import VeriAgentPay.RecordedReplies
import VeriAgentPay.SessionActions

/-!
# Subscriptions

A worker reads the subscriptions that are due and is to charge them one after the other, each
through a session action of the subscriber's vault, and to move the due date then. The relayer
refuses every such action.
-/

namespace VeriAgentPay.Subscriptions
open InterleavedPrograms KeyedTables SessionActions
open InterleavedPrograms.Fallible (checked check forEach ignoringFailure)
open Backend (Failure outage)
open CheckedOutcome (orError)

section Tables

/-- A row of the table `Subscription`, with the wallet of its subscriber. Times are in
milliseconds. -/
structure Subscription where
  id : String
  subscriberId : String
  wallet : Option String
  recipientAddress : String
  amountUSD : ℚ
  intervalDays : ℤ
  nextPaymentAt : ℤ
  isActive : Bool
  deriving DecidableEq

structure SubscriptionPayment where
  subscriptionId : String
  amountUSD : ℚ
  txHash : String
  status : String
  deriving DecidableEq

/-- The action that a session key signs. -/
inductive ActionPayload where
  /-- `0x`. -/
  | empty
  | transfer (recipient : String) (amountUSD : ℚ)
  deriving DecidableEq

structure Transfer where
  vault : Option String
  recipient : String
  amountUSD : ℚ
  deriving DecidableEq

/-- What a vault moves when it executes an action. -/
def ActionPayload.moves (vault : Option String) : ActionPayload → List Transfer
  | empty => []
  | transfer recipient amountUSD => [⟨vault, recipient, amountUSD⟩]

/-- An action that was executed for a subscription: which due date it was for. -/
structure Charge where
  subscriptionId : String
  dueAt : ℤ
  deriving DecidableEq

/-- The tables, and of the history the executed actions and what they moved. -/
structure Tables where
  subscriptions : Keyed Subscription.id
  payments : List SubscriptionPayment
  now : ℤ
  charges : List Charge
  transfers : List Transfer

def Subscription.charge (sub : Subscription) : Charge := ⟨sub.id, sub.nextPaymentAt⟩

def Subscription.cancel (sub : Subscription) : Subscription := { sub with isActive := false }

def Subscription.advance (nextPaymentAt : ℤ) (sub : Subscription) : Subscription :=
  { sub with nextPaymentAt := nextPaymentAt }

def Subscription.due (now : ℤ) (sub : Subscription) : Bool := sub.isActive ∧ sub.nextPaymentAt ≤ now

end Tables

section Requests

inductive Request where
  | now
  | findDue (now : ℤ)
  /-- The session action for a subscription as it was read. -/
  | executeLocalSessionAction (sub : Subscription) (payload : ActionPayload)
  | createPayment (payment : SubscriptionPayment) (fate : Fate)
  /-- The date of a subscription as it was read is moved. -/
  | advance (sub : Subscription) (nextPaymentAt : ℤ) (fate : Fate)
  | findUnique (id : String)
  | cancel (id : String) (fate : Fate)

abbrev Answer : Request → Type
  | .now => ℤ
  | .findDue _ => List Subscription
  | .executeLocalSessionAction _ _ => Except Failure ActionResult
  | .createPayment _ _ | .advance _ _ _ | .cancel _ _ => Except Failure Unit
  | .findUnique _ => Option Subscription

abbrev Service (α : Type) := Fallible Failure Request Answer α

abbrev ask (r : Request) : Service (Answer r) := Fallible.ask r

def Tables.charge (t : Tables) (sub : Subscription) (payload : ActionPayload) : Tables :=
  { t with
    charges := t.charges ++ [sub.charge]
    transfers := t.transfers ++ payload.moves sub.wallet }

def Tables.update (t : Tables) (id : String) (f : Subscription → Subscription)
    (hf : ∀ sub, (f sub).id = sub.id) : Tables :=
  { t with subscriptions := t.subscriptions.update (·.id = id) f hf }

def carry (t : Tables) : (r : Request) → Answer r × Tables
  | .now => (t.now, t)
  | .findDue now => (t.subscriptions.rows.filter (·.due now), t)
  | .executeLocalSessionAction sub payload =>
    (executeLocalSessionAction, afterAction executeLocalSessionAction t (t.charge sub payload))
  | .createPayment payment fate =>
    (fate.told outage (),
      if fate.carried then { t with payments := t.payments ++ [payment] } else t)
  | .advance sub nextPaymentAt fate =>
    (fate.told outage (),
      if fate.carried then t.update sub.id (·.advance nextPaymentAt) fun _ => rfl else t)
  | .findUnique id => (t.subscriptions.find? id, t)
  | .cancel id fate =>
    (fate.told outage (), if fate.carried then t.update id Subscription.cancel fun _ => rfl else t)

end Requests

section Services

/-- What the outside answers while a subscription is charged. -/
structure Turns where
  /-- Whether there is a session key, if the database answers. -/
  sessionKey : Except Failure Bool
  decryptSessionKey : Except Failure Unit
  /-- Of the clock, where the relayer gives no hash. -/
  ownTxHash : String
  payment : Fate
  update : Fate

def dayMs : ℤ := 86400 * 1000

/-- The charge itself, once there is a session key. -/
def chargeWithKey (turns : Turns) (sub : Subscription) : Service Unit := do
  checked turns.decryptSessionKey
  let answer ← ask (.executeLocalSessionAction sub .empty)
  let result ← checked answer
  let txHash := (result.txHash.filter (· ≠ "")).getD turns.ownTxHash
  let _ ← ask (.createPayment ⟨sub.id, sub.amountUSD, txHash, "SUCCESS"⟩ turns.payment)
  let now ← ask .now
  let advanced ← ask (.advance sub (now + sub.intervalDays * dayMs) turns.update)
  checked advanced

def chargeSubscription (turns : Turns) (sub : Subscription) : Service Unit :=
  if sub.wallet.isNone then pure ()
  else do
    let sessionKey ← checked turns.sessionKey
    if sessionKey then chargeWithKey turns sub else pure ()

def processDueSubscriptions (turns : String → Turns) : Service Unit := do
  let now ← ask .now
  let dueSubscriptions ← ask (.findDue now)
  forEach (fun sub => ignoringFailure (chargeSubscription (turns sub.id) sub)) dueSubscriptions

def cancelSubscription (subscriberId subscriptionId : String) (update : Fate) : Service Unit := do
  let sub ← ask (.findUnique subscriptionId)
  let _ ← checked (orError (sub.filter fun sub => sub.subscriberId = subscriberId)
    (.error "Subscription not found or unauthorized"))
  let cancelled ← ask (.cancel subscriptionId update)
  checked cancelled

inductive Operation where
  | processDueSubscriptions (turns : String → Turns)
  | cancelSubscription (subscriberId subscriptionId : String) (update : Fate)

def call : Operation → Service Unit
  | .processDueSubscriptions turns => processDueSubscriptions turns
  | .cancelSubscription subscriberId subscriptionId update =>
    cancelSubscription subscriberId subscriptionId update

def subscriptionService : StoreService Tables Operation Request Answer where
  program op := Fallible.dropResult (call op)
  carry _ _ := carry
  passes n t := { t with now := t.now + n }

/-- The calls with what they have returned. -/
abbrev subscriptionCalls : StoreService (Recorded Tables Operation (Except Failure Unit)) Operation
    (Spoken Request (Except Failure Unit)) (Spoken.Answer Answer) :=
  subscriptionService.recording fun op => (call op).run

end Services

section Charging

/-- A charge starts only while the row is active. -/
def chargesActive : StoreService.Conditions Tables Operation Request where
  starts _ := True
  allows _ _ t
    | .executeLocalSessionAction sub _ => ∃ row ∈ t.subscriptions.find? sub.id, row.isActive
    | _ => True
  passes _ _ := True

/-- Nothing was charged, and no payment was recorded. -/
structure Tables.Uncharged (t : Tables) : Prop where
  payments : t.payments = []
  charges : t.charges = []
  transfers : t.transfers = []

/-- A subscription that is not active stays so. -/
def Tables.Later (t t' : Tables) : Prop :=
  ∀ row' ∈ t'.subscriptions.rows, ∃ row ∈ t.subscriptions.rows, row.id = row'.id ∧
    (row.isActive = false → row'.isActive = false)

/-- Whatever is demanded of the steps, nothing is ever charged. -/
def subscriptionDiscipline (C : StoreService.Conditions Tables Operation Request) :
    Discipline Tables Operation Request Answer :=
  ⟨subscriptionService, C, Tables.Uncharged, Tables.Later⟩

def Tables.Inactive (t : Tables) (id : String) : Prop :=
  ∀ row ∈ t.subscriptions.rows, row.id = id → row.isActive = false

variable {C : StoreService.Conditions Tables Operation Request} {t t' : Tables} {i : ℕ}
  {op : Operation} {id : String} {sub : Subscription}

theorem Tables.Later.refl (t : Tables) : t.Later t := fun row hrow => ⟨row, hrow, rfl, fun h => h⟩

theorem stable_inactive (id : String) :
    (subscriptionDiscipline C).Stable fun t => t.Inactive id := by
  intro t t' hlater hinactive row' hrow' hid
  obtain ⟨row, hrow, hsame, hstill⟩ := hlater row' hrow'
  exact hstill (hinactive row hrow (hsame.trans hid))

theorem Tables.later_update {f : Subscription → Subscription} (hf : ∀ sub, (f sub).id = sub.id)
    (hactive : ∀ sub, sub.isActive = false → (f sub).isActive = false) :
    t.Later (t.update id f hf) := by
  intro row' hrow'
  rcases Keyed.of_mem_update hf hrow' with ⟨hold, -⟩ | ⟨old, hold, -, rfl⟩
  · exact ⟨row', hold, rfl, fun h => h⟩
  · exact ⟨old, hold, (hf old).symm, hactive old⟩

/-- A request after which the subscriptions are as before, or none of them has become active. -/
theorem upholds_request {r : Request}
    (hlater : ∀ t, t.Uncharged → t.Later (carry t r).2 ∧ (carry t r).2.Uncharged)
    {Q : Answer r → Prop} (hQ : ∀ t, Q (carry t r).1) :
    (subscriptionDiscipline C).Upholds i op (ask r) (fun _ => True) (fun x _ => Q x ∧ True)
      fun _ => True := by
  apply Discipline.Upholds.ask fun _ => Discipline.stable_const _
  intro t hinv _ _
  obtain ⟨hgrows, hafter⟩ := hlater t hinv
  exact ⟨hgrows, hafter, hQ t, trivial⟩

theorem upholds_look {r : Request} (hsame : ∀ t, (carry t r).2 = t) :
    (subscriptionDiscipline C).Upholds i op (ask r) (fun _ => True) (fun _ _ => True)
      fun _ => True := by
  refine (upholds_request (Q := fun _ => True) ?_ fun _ => trivial).weaken (fun _ _ h => h)
    (fun _ _ _ => trivial) fun _ h => h
  intro t hinv
  rw [hsame]
  exact ⟨Tables.Later.refl t, hinv⟩

/-- The relayer refuses the action, and nothing is recorded. -/
theorem upholds_chargeWithKey (turns : Turns) (sub : Subscription) :
    (subscriptionDiscipline C).Upholds i op (chargeWithKey turns sub) (fun _ => True)
      (fun _ _ => True) fun _ => True := by
  unfold chargeWithKey
  apply Discipline.Upholds.bind (R := fun _ _ => True)
  · exact Discipline.Upholds.checked (fun _ _ _ _ _ => trivial) fun _ _ => trivial
  intro _
  apply Discipline.Upholds.bind (upholds_request (Q := NotRouted) ?_ fun _ => rfl)
  · intro answer
    refine Discipline.Upholds.assuming fun hrefused => ?_
    apply Discipline.Upholds.bind (R := fun _ _ => False ∧ True)
    · exact Discipline.Upholds.checked (fun result _ hok _ _ => (hrefused.ne_ok result hok).elim)
        fun _ _ => trivial
    · exact fun _ => Discipline.Upholds.assuming False.elim
  · exact fun t hinv => ⟨Tables.Later.refl t, hinv⟩

theorem upholds_chargeSubscription (turns : Turns) (sub : Subscription) :
    (subscriptionDiscipline C).Upholds i op (chargeSubscription turns sub) (fun _ => True)
      (fun _ _ => True) fun _ => True := by
  unfold chargeSubscription
  split_ifs
  · exact Discipline.Upholds.pure fun _ _ _ => trivial
  apply Discipline.Upholds.bind (R := fun _ _ => True)
  · exact Discipline.Upholds.checked (fun _ _ _ _ _ => trivial) fun _ _ => trivial
  intro sessionKey
  split_ifs
  · exact upholds_chargeWithKey turns sub
  · exact Discipline.Upholds.pure fun _ _ _ => trivial

theorem upholds_processDueSubscriptions (turns : String → Turns) :
    (subscriptionDiscipline C).Upholds i op (processDueSubscriptions turns) (fun _ => True)
      (fun _ _ => True) fun _ => True := by
  unfold processDueSubscriptions
  apply Discipline.Upholds.bind (upholds_look fun _ => rfl)
  intro now
  apply Discipline.Upholds.bind (upholds_look fun _ => rfl)
  intro dueSubscriptions
  induction dueSubscriptions with
  | nil => exact Discipline.Upholds.pure fun _ _ _ => trivial
  | cons sub rest ih =>
    refine Discipline.Upholds.bind (R := fun _ _ => True) ?_ fun _ => ih
    exact Discipline.Upholds.tryCatch (upholds_chargeSubscription _ sub) fun _ =>
      Discipline.Upholds.pure fun _ _ _ => trivial

theorem upholds_cancel (fate : Fate) :
    (subscriptionDiscipline C).Upholds i op (ask (.cancel id fate)) (fun _ => True)
      (fun cancelled t => cancelled = .ok () → t.Inactive id) fun _ => True := by
  apply Discipline.Upholds.ask
  · intro cancelled t t' hlater hinactive hok
    exact stable_inactive (C := C) id t t' hlater (hinactive hok)
  · intro t hinv _ _
    have hinv : t.Uncharged := hinv
    have hcarry : (carry t (.cancel id fate)).2 =
        if fate.carried then t.update id Subscription.cancel fun _ => rfl else t := rfl
    by_cases hcarried : fate.carried
    · rw [if_pos hcarried] at hcarry
      show t.Later (carry t (.cancel id fate)).2 ∧ (carry t (.cancel id fate)).2.Uncharged ∧
        (_ → (carry t (.cancel id fate)).2.Inactive id)
      rw [hcarry]
      refine ⟨Tables.later_update _ fun _ _ => rfl, ⟨hinv.payments, hinv.charges,
        hinv.transfers⟩, ?_⟩
      intro _ row hrow hid
      rcases Keyed.of_mem_update (f := Subscription.cancel) (fun _ => rfl) hrow with
        ⟨-, hother⟩ | ⟨old, -, -, rfl⟩
      · exact absurd hid (by simpa using hother)
      · rfl
    · rw [if_neg hcarried] at hcarry
      show t.Later (carry t (.cancel id fate)).2 ∧ (carry t (.cancel id fate)).2.Uncharged ∧
        (_ → (carry t (.cancel id fate)).2.Inactive id)
      rw [hcarry]
      exact ⟨Tables.Later.refl t, hinv, fun hok => absurd (Fate.carried_of_told hok) hcarried⟩

/-- A cancellation that has returned has found its row and made it inactive. -/
theorem upholds_cancelSubscription (subscriberId : String) (update : Fate) :
    (subscriptionDiscipline C).Upholds i op (cancelSubscription subscriberId id update)
      (fun _ => True) (fun _ t => t.Inactive id) fun _ => True := by
  unfold cancelSubscription
  apply Discipline.Upholds.bind (upholds_look fun _ => rfl)
  intro found
  apply Discipline.Upholds.bind (R := fun _ _ => True)
  · exact Discipline.Upholds.checked (fun _ _ _ _ _ => trivial) fun _ _ => trivial
  intro sub
  apply Discipline.Upholds.bind (upholds_cancel update)
  intro cancelled
  exact Discipline.Upholds.checked (fun _ _ hok _ hinactive => hinactive hok) fun _ _ => trivial

/-- What stands behind what a call returns. -/
def Stands (op : Operation) (result : Except Failure Unit) (t : Tables) : Prop :=
  ∀ subscriberId id update, op = .cancelSubscription subscriberId id update → result = .ok () →
    t.Inactive id

theorem follows_call (i : ℕ) (op : Operation) :
    (subscriptionDiscipline C).protocol.Follows
      ((subscriptionDiscipline C).service.within (subscriptionDiscipline C).conditions) i op
      (call op).run (fun _ => True) () fun result t _ => Stands op result t := by
  cases op with
  | processDueSubscriptions turns =>
    refine (upholds_processDueSubscriptions turns).follows.weaken (fun _ _ _ _ h => h) ?_
    rintro _ _ - - _ _ _ ⟨⟩
  | cancelSubscription subscriberId id update =>
    refine (upholds_cancelSubscription subscriberId update).follows.weaken (fun _ _ _ _ h => h) ?_
    rintro result t - ⟨hok, -⟩ _ _ _ ⟨⟩ hresult
    exact hok () hresult

end Charging

section Runs

variable {C : StoreService.Conditions Tables Operation Request} {start : Tables}
  {tr : Trace (Recorded Tables Operation (Except Failure Unit)) Operation
    (Spoken Request (Except Failure Unit)) (Spoken.Answer Answer)}
  {c : Config (Recorded Tables Operation (Except Failure Unit)) Operation
    (Spoken Request (Except Failure Unit)) (Spoken.Answer Answer)}

/-- A payment is backed by a transfer of its amount to the subscription's recipient. -/
def PaymentsBacked (t : Tables) : Prop :=
  ∀ payment ∈ t.payments, payment.status = "SUCCESS" → ∃ sub ∈ t.subscriptions.rows,
    sub.id = payment.subscriptionId ∧
      ⟨sub.wallet, sub.recipientAddress, payment.amountUSD⟩ ∈ t.transfers

/-- No charge is started for a subscription when a call of `cancelSubscription` has returned. -/
def NoneAfterCancel (tr : Trace (Recorded Tables Operation (Except Failure Unit)) Operation
    (Spoken Request (Except Failure Unit)) (Spoken.Answer Answer)) : Prop :=
  ∀ t ∈ tr, ∀ i sub payload x,
    t.event = .performed i (.request (.executeLocalSessionAction sub payload)) x →
      ∀ j subscriberId update,
        t.before.state.replies j ≠ some (.cancelSubscription subscriberId sub.id update, .ok ())

/-- What is known of a run whose steps meet some conditions. -/
theorem kept_of_run (hstart : start.Uncharged)
    (hrun : subscriptionCalls.Runs (.opened start) tr c)
    (hmeets : ∀ t ∈ tr, StoreService.Meets C.recording t) :
    c.state.store.Uncharged ∧ ∀ t ∈ tr, ∀ j op result,
      t.before.state.replies j = some (op, result) → Stands op result t.before.state.store := by
  have hstable : ∀ (i : ℕ) op result, (subscriptionDiscipline C).Stable (Stands op result) := by
    intro i op result t t' hlater hstands subscriberId id update hop hok
    exact stable_inactive (C := C) id t t' hlater (hstands subscriberId id update hop hok)
  obtain ⟨⟨hfinish, -⟩, hsteps⟩ := Discipline.recording_run (D := subscriptionDiscipline C)
    (Q := fun _ => Stands) _ hstable Tables.Later.refl (fun i op _ => follows_call i op)
    (fun n t hinv _ => ⟨Tables.Later.refl _, hinv.payments, hinv.charges, hinv.transfers⟩) hrun
    hmeets hstart
  exact ⟨hfinish, fun t ht j op result hreply => (hsteps t ht).1.2 j op result hreply⟩

/-- Workers and cancellations in any interleaving: nothing is charged twice and no payment is
recorded without a transfer. Where every charge that is started finds its row active, none is
started after the cancellation has returned. -/
theorem subscriptions_charged_once (hstart : start.Uncharged)
    (hrun : subscriptionCalls.Runs (.opened start) tr c) :
    (c.state.store.charges.Nodup ∧ PaymentsBacked c.state.store) ∧
      ((∀ t ∈ tr, StoreService.Meets chargesActive.recording t) → NoneAfterCancel tr) := by
  constructor
  · obtain ⟨huncharged, -⟩ := kept_of_run (C := StoreService.anything) hstart hrun fun t _ =>
      StoreService.meets_of_forall (fun _ => trivial)
        (fun _ _ _ r => by cases r <;> trivial) (fun _ _ => trivial) t
    constructor
    · rw [huncharged.charges]
      exact List.nodup_nil
    · intro payment hpayment
      rw [huncharged.payments] at hpayment
      cases hpayment
  · intro hmeets t ht i sub payload x hevent j subscriberId update hreply
    obtain ⟨-, hstands⟩ := kept_of_run hstart hrun hmeets
    have hinactive := hstands t ht j _ _ hreply subscriberId sub.id update rfl rfl
    obtain ⟨op, stage, -, hallows, -⟩ := StoreService.performed_of_mem hrun hmeets ht hevent
    obtain ⟨row, hrow, hactive⟩ : ∃ row ∈ t.before.state.store.subscriptions.find? sub.id,
      row.isActive := hallows
    obtain ⟨hmem, hid⟩ := Keyed.find?_eq_some.mp hrow
    rw [hinactive row hmem hid] at hactive
    cases hactive

end Runs

end VeriAgentPay.Subscriptions

namespace VeriAgentPay.Devnet
open InterleavedPrograms Subscriptions

def monthly (isActive : Bool) : Subscription :=
  ⟨"sub", "ann", some "0xAnn", "0xBen", 10, 30, 1000, isActive⟩

def subscribed : Subscriptions.Tables :=
  ⟨⟨[monthly true], List.nodup_singleton _⟩, [], 1000, [], []⟩

def dueRun : Subscriptions.Operation :=
  .processDueSubscriptions fun _ => ⟨.ok true, .ok (), "0x3e8", .answered, .answered⟩

def unsubscribe (i : ℕ) : List (Move Subscriptions.Operation) :=
  [.start i (.cancelSubscription "ann" "sub" .answered), .step i, .step i, .step i]

instance : DecidablePred chargesActive.starts := fun _ => inferInstanceAs (Decidable True)
instance (i : ℕ) (op : Subscriptions.Operation) (t : Subscriptions.Tables)
    (r : Subscriptions.Request) :
    Decidable (chargesActive.allows i op t r) := by
  cases r with
  | executeLocalSessionAction sub payload =>
    exact inferInstanceAs (Decidable (∃ row ∈ t.subscriptions.find? sub.id, row.isActive))
  | _ => exact .isTrue trivial
instance (t t' : Subscriptions.Tables) : Decidable (chargesActive.passes t t') := .isTrue trivial

/-- The subscription whose charge is about to start. -/
def startsCharge (r : Option (Spoken Subscriptions.Request (Except Backend.Failure Unit))) :
    Option Subscription :=
  match r with
  | some (.request (.executeLocalSessionAction sub _)) => some sub
  | _ => none

/-- The subscription of a cancellation that has returned. -/
def returnedCancel (reply : Option (Subscriptions.Operation × Except Backend.Failure Unit)) :
    Option String :=
  match reply with
  | some (.cancelSubscription _ id _, .ok ()) => some id
  | _ => none

theorem subscribed_uncharged : subscribed.Uncharged := ⟨rfl, rfl, rfl⟩

/-- A worker has read the batch when the subscriber cancels; the cancellation returns, and then the
charge is started. -/
theorem subscriptions_overcharged : ∃ tr c, subscriptionCalls.Runs (.opened subscribed) tr c ∧
    ¬NoneAfterCancel tr := by
  have hmoves :
      ((subscriptionCalls.moves StoreService.anything (Config.initial (.opened subscribed))
      (.start 0 dueRun :: .step 0 :: .step 0 :: unsubscribe 1)).bind fun c =>
        (subscriptionCalls.move StoreService.anything c (.step 0)).map fun _ =>
          (startsCharge (c.pending 0), returnedCancel (c.state.replies 1))) =
      some (some (monthly true), some "sub") := by
    decide +kernel
  obtain ⟨tr, c, r, x, c', hrun, -, hpending, hfacts⟩ := StoreService.runs_of_request hmoves
  simp only [Prod.mk.injEq, hpending] at hfacts
  obtain ⟨hstarts, hreturned⟩ := hfacts
  unfold startsCharge at hstarts
  unfold returnedCancel at hreturned
  refine ⟨_, _, hrun, fun hnone => ?_⟩
  split at hstarts
  · next sub payload hrequest =>
    cases hrequest
    obtain rfl := Option.some.inj hstarts
    split at hreturned
    · next subscriberId id update hreply =>
      obtain rfl := Option.some.inj hreturned
      exact hnone _ (List.mem_append_right _ List.mem_cons_self) _ _ _ _ rfl 1 _ _ hreply
    · cases hreturned
  · cases hstarts

/-- A charge is refused; then the subscription is cancelled, and the next worker finds nothing. -/
theorem subscription_refused : (subscriptionCalls.moves chargesActive.recording
    (Config.initial (.opened subscribed)) (.start 0 dueRun :: List.replicate 4 (.step 0) ++
      unsubscribe 1 ++ .start 2 dueRun :: List.replicate 3 (.step 2))).map
        (fun c => (returnedCancel (c.state.replies 1), [0, 1, 2].all c.finished)) =
      some (some "sub", true) := by
  decide +kernel

theorem subscriptions_charged_once_devnet : ∃ tr c,
    subscriptionCalls.Runs (.opened subscribed) tr c ∧ PaymentsBacked c.state.store ∧
      NoneAfterCancel tr ∧ returnedCancel (c.state.replies 1) = some "sub" := by
  obtain ⟨tr, c, hrun, hmeets, -, hfacts⟩ := StoreService.runs_of_computed subscription_refused
  simp only [Prod.mk.injEq] at hfacts
  obtain ⟨⟨-, hbacked⟩, hnone⟩ := subscriptions_charged_once subscribed_uncharged hrun
  exact ⟨tr, c, hrun, hbacked, hnone hmeets, hfacts.1⟩

end VeriAgentPay.Devnet
