import VeriAgentPay.PublicEnvelopes
import VeriAgentPay.RefusedCalls
import VeriAgentPay.RoundedNumbers
import VeriAgentPay.SessionActions

/-!
# Red envelopes

A claim of an envelope is settled on chain, out of the escrow to the vault of the claimer, and then
to be written in two statements. When these fail, a pending claim is queued, which a worker claims
again later. The relayer refuses the settlement, so that no claim is ever paid or written.
-/

namespace VeriAgentPay.RedEnvelopes
open InterleavedPrograms KeyedTables RoundedNumbers SessionActions
open InterleavedPrograms.Fallible (checked check dropResult forEach ignoringFailure)
open Backend (Failure outage)
open CheckedOutcome (orError)

section Tables

inductive EnvelopeKind where
  | openEnvelope | customEnvelope
  deriving DecidableEq

inductive EnvelopeStatus where
  | active | cancelled | expired | completed
  deriving DecidableEq

/-- A row of the table `RedEnvelope`. -/
structure RedEnvelope where
  id : String
  creatorId : String
  token : String
  totalAmount : ℚ
  numRecipients : ℕ
  type : EnvelopeKind
  isRandom : Bool
  customRecipientId : Option String
  status : EnvelopeStatus
  remainingBalance : ℚ
  remainingClaims : ℕ
  onChainId : Option ℤ
  deriving DecidableEq

structure EnvelopeClaim where
  envelopeId : String
  claimerAddress : String
  amount : ℚ
  deriving DecidableEq

inductive ClaimType where
  | envelopeClaim | escrowClaim | airdropClaim
  deriving DecidableEq

inductive PendingStatus where
  | pending | processing | completed | failed
  deriving DecidableEq

/-- What is stored for a claim of an envelope. -/
structure ClaimPayload where
  envelopeId : String
  claimerAddress : String
  txHash : String
  deriving DecidableEq

/-- A row of the table `PendingClaim`. -/
structure PendingClaim where
  id : String
  userId : String
  type : ClaimType
  payload : ClaimPayload
  status : PendingStatus
  retries : ℕ
  errorMessage : Option String
  deriving DecidableEq

/-- What the escrow has paid, and for which row. -/
structure Payment where
  envelopeId : String
  onChainId : ℤ
  vault : String
  amount : ℚ
  deriving DecidableEq

/-- The call that has taken a row of the queue. -/
structure Taker where
  row : String
  call : ℕ
  deriving DecidableEq

/-- The tables and the payments of the escrow; of the history, the latest first, which call has
taken which row of the queue. -/
structure Tables where
  envelopes : Keyed RedEnvelope.id
  claims : List EnvelopeClaim
  pendingClaims : Keyed PendingClaim.id
  paid : List Payment
  takers : List Taker

/-- `parseFloat(x.toFixed(2))`. -/
def toFixed2 (x : ℚ) : ℚ := double (mathRound (x * 100) / 100)

/-- What a claim pays, for what `Math.random` returns. -/
def claimAmount (envelope : RedEnvelope) (random : ℚ) : ℚ :=
  if envelope.type = .openEnvelope ∧ 1 < envelope.remainingClaims then
    if envelope.isRandom then
      let avg := double (envelope.remainingBalance / envelope.remainingClaims)
      let width := double (double (avg * (3 / 2)) - double (avg * (1 / 2)))
      let drawn := double (double (random * width) + double (avg * (1 / 2)))
      min (toFixed2 drawn) envelope.remainingBalance
    else
      min (toFixed2 (double (envelope.totalAmount / envelope.numRecipients)))
        envelope.remainingBalance
  else envelope.remainingBalance

/-- The counters after a claim, from those that were read. -/
def RedEnvelope.claimed (envelope : RedEnvelope) (amount : ℚ) (row : RedEnvelope) : RedEnvelope :=
  { row with
    remainingBalance := max 0 (double (envelope.remainingBalance - amount))
    remainingClaims := envelope.remainingClaims - 1
    status := if envelope.remainingClaims - 1 = 0 then .completed else .active }

def PendingClaim.finish (status : PendingStatus) (retries : Option ℕ)
    (errorMessage : Option String) (row : PendingClaim) : PendingClaim :=
  { row with
    status := status
    retries := retries.getD row.retries
    errorMessage := errorMessage <|> row.errorMessage }

end Tables

section Requests

inductive Request where
  /-- An envelope with its claims. -/
  | findUnique (id : String)
  | ensureVaultDeployed (vault : String) (deployed : Except Failure String)
  /-- `claimRedEnvelope` of the escrow, by the vault of the claimer. -/
  | executeLocalSessionAction (payment : Payment)
  | createClaim (claim : EnvelopeClaim) (fate : Fate)
  /-- The counters are written, from an envelope as it was read. -/
  | updateEnvelope (envelope : RedEnvelope) (claim : EnvelopeClaim) (fate : Fate)
  | createPending (row : PendingClaim) (fate : Fate)
  | findPending
  /-- The update of a row that is still `PENDING` to `PROCESSING`. -/
  | take (id : String) (fate : Fate)
  | updatePending (id : String) (status : PendingStatus) (retries : Option ℕ)
      (errorMessage : Option String) (fate : Fate)

abbrev Answer : Request → Type
  | .findUnique _ => Option (RedEnvelope × List EnvelopeClaim)
  | .ensureVaultDeployed _ _ => Except Failure String
  | .executeLocalSessionAction _ => Except Failure ActionResult
  | .createClaim _ _ | .updateEnvelope _ _ _ | .createPending _ _
  | .updatePending _ _ _ _ _ => Except Failure Unit
  | .findPending => List PendingClaim
  | .take _ _ => Except Failure ℕ

abbrev Service (α : Type) := Fallible Failure Request Answer α

abbrev ask (r : Request) : Service (Answer r) := Fallible.ask r

def Tables.pay (t : Tables) (payment : Payment) : Tables := { t with paid := payment :: t.paid }

def Tables.createClaim (t : Tables) (claim : EnvelopeClaim) : Tables :=
  { t with claims := claim :: t.claims }

def Tables.updateEnvelope (t : Tables) (envelope : RedEnvelope) (claim : EnvelopeClaim) :
    Tables :=
  { t with
    envelopes :=
      t.envelopes.update (·.id = envelope.id) (envelope.claimed claim.amount) fun _ => rfl }

def Tables.updatePending (t : Tables) (p : PendingClaim → Bool) (status : PendingStatus)
    (retries : Option ℕ) (errorMessage : Option String) : Tables :=
  { t with
    pendingClaims :=
      t.pendingClaims.update p (·.finish status retries errorMessage) fun _ => rfl }

/-- Of the row that is taken only one that is pending. -/
def PendingClaim.takeable (id : String) (row : PendingClaim) : Bool :=
  row.id = id ∧ row.status = .pending

/-- Call `i` takes a row, if it is pending. -/
def Tables.take (t : Tables) (i : ℕ) (id : String) : Tables :=
  { t.updatePending (PendingClaim.takeable id) .processing none none with
    takers :=
      if t.pendingClaims.count (PendingClaim.takeable id) = 0 then t.takers
      else ⟨id, i⟩ :: t.takers }

/-- The call that took a row last. -/
def Tables.taker? (t : Tables) (id : String) : Option ℕ :=
  (t.takers.find? (·.row = id)).map Taker.call

def carry (i : ℕ) (t : Tables) : (r : Request) → Answer r × Tables
  | .findUnique id =>
    ((t.envelopes.find? id).map fun row => (row, t.claims.filter (·.envelopeId = id)), t)
  | .ensureVaultDeployed _ deployed => (deployed, t)
  | .executeLocalSessionAction payment =>
    (executeLocalSessionAction, afterAction executeLocalSessionAction t (t.pay payment))
  | .createClaim claim fate =>
    (fate.told outage (), if fate.carried then t.createClaim claim else t)
  | .updateEnvelope envelope claim fate =>
    (fate.told outage (), if fate.carried then t.updateEnvelope envelope claim else t)
  | .createPending row fate =>
    match t.pendingClaims.insert row with
    | none => (.error outage, t)
    | some pendingClaims =>
      (fate.told outage (), if fate.carried then { t with pendingClaims := pendingClaims } else t)
  | .findPending =>
    ((t.pendingClaims.rows.filter fun row => row.status = .pending ∧ row.retries < 3).take 20, t)
  | .take id fate =>
    (fate.told outage (t.pendingClaims.count (PendingClaim.takeable id)),
      if fate.carried then t.take i id else t)
  | .updatePending id status retries errorMessage fate =>
    (fate.told outage (),
      if fate.carried then t.updatePending (·.id = id) status retries errorMessage else t)

end Requests

section Services

-- The vault of the user that an identifier is resolved to.
variable (wallet : String → Option String)

/-- What the outside answers while an envelope is claimed. -/
structure Turns where
  random : ℚ
  /-- Whether the claimer is found to be the designated recipient of a custom envelope. -/
  isMatch : Bool
  /-- The address of the escrow. -/
  configured : Except Failure Unit
  /-- Whether the token is known to the creator. -/
  supported : Except Failure Unit
  deployed : Except Failure String
  /-- Whether there is a session key, and the call of the contract can be built and signed. -/
  signed : Except Failure Unit
  create : Fate
  update : Fate
  queue : Fate
  /-- The id of the row that is queued. -/
  pendingId : String

/-- The balance is that of the recorded claims. -/
def withClaimSummary (envelope : RedEnvelope) (claims : List EnvelopeClaim) : RedEnvelope :=
  let totalClaimed := claims.foldl (fun sum claim => double (sum + claim.amount)) 0
  { envelope with remainingBalance := max 0 (double (envelope.totalAmount - totalClaimed)) }

def findOne (id : String) : Service RedEnvelope := do
  let found ← ask (.findUnique id)
  let envelope ← checked (orError found (.notFound "Envelope not found"))
  pure (withClaimSummary envelope.1 envelope.2)

/-- Other errors are wrapped. -/
def claimError : Failure → Failure
  | .badRequest message => .badRequest message
  | .forbidden message => .forbidden message
  | err => .error ("Claim failed: " ++ err.message)

/-- The call of the escrow, once the claimer's vault is there. -/
def executeClaim (payment : Payment) (turns : Turns) : Service String := do
  checked turns.signed
  let answer ← ask (.executeLocalSessionAction payment)
  let result ← checked answer
  checked (result.settled (.error (result.message.getD "On-chain claimRedEnvelope reverted")))

def claimOnChain (envelope : RedEnvelope) (claimerAddress : String) (amount : ℚ) (turns : Turns) :
    Service String :=
  tryCatchThe Failure
    (do
      checked turns.configured
      let onChainId ← checked (orError envelope.onChainId
        (.badRequest "Envelope not yet on chain"))
      checked turns.supported
      let vault ← checked (orError (wallet claimerAddress)
        (.badRequest "Claimer wallet not found. Please complete onboarding first."))
      let deployed ← ask (.ensureVaultDeployed vault turns.deployed)
      let claimerWalletAddress ← checked deployed
      executeClaim ⟨envelope.id, onChainId, claimerWalletAddress, amount⟩ turns)
    fun err => checked (.error (claimError err))

/-- A failure is logged. -/
def recordPendingClaim (id claimerAddress errorMsg : String) (payload : ClaimPayload)
    (fate : Fate) : Service Unit :=
  ignoringFailure do
    let created ← ask (.createPending
      ⟨id, claimerAddress, .envelopeClaim, payload, .pending, 0, some errorMsg⟩ fate)
    checked created

def writeClaim (envelope : RedEnvelope) (claim : EnvelopeClaim) (turns : Turns) :
    Service Unit := do
  let created ← ask (.createClaim claim turns.create)
  checked created
  let updated ← ask (.updateEnvelope envelope claim turns.update)
  checked updated

def persistClaim (envelope : RedEnvelope) (claim : EnvelopeClaim) (txHash : String)
    (turns : Turns) : Service Unit :=
  tryCatchThe Failure (writeClaim envelope claim turns) fun e =>
    recordPendingClaim turns.pendingId claim.claimerAddress e.message
      ⟨envelope.id, claim.claimerAddress, txHash⟩ turns.queue

def RedEnvelope.forbids (envelope : RedEnvelope) (isMatch : Bool) : Prop :=
  envelope.type = .customEnvelope ∧ envelope.customRecipientId.any (· ≠ "") ∧ isMatch = false

instance (envelope : RedEnvelope) (isMatch : Bool) : Decidable (envelope.forbids isMatch) :=
  inferInstanceAs (Decidable (envelope.type = .customEnvelope ∧
    envelope.customRecipientId.any (· ≠ "") ∧ isMatch = false))

def settleClaim (envelope : RedEnvelope) (claim : EnvelopeClaim) (turns : Turns) :
    Service Unit := do
  let claimTxHash ← claimOnChain wallet envelope claim.claimerAddress claim.amount turns
  persistClaim envelope claim claimTxHash turns

def claimEnvelope (id claimerAddress : String) (turns : Turns) : Service Unit := do
  let envelope ← findOne id
  check (envelope.status = .active) (.badRequest "Envelope is no longer active")
  check (¬(envelope.remainingClaims = 0 ∨ envelope.remainingBalance ≤ 0))
    (.badRequest "Envelope has no remaining claims")
  check (¬envelope.forbids turns.isMatch)
    (.forbidden "Only the designated custom recipient can claim this envelope")
  settleClaim wallet envelope
    ⟨envelope.id, claimerAddress, claimAmount envelope turns.random⟩ turns

/-- What the outside answers to a worker, by the id of the row. -/
structure WorkerTurns where
  isLow : Bool
  taking : String → Fate
  turns : String → Turns
  completing : String → Fate
  failing : String → Fate

/-- Only the service of the envelopes registers as an executor. -/
def retryClaim (item : PendingClaim) (turns : Turns) : Service Unit :=
  match item.type with
  | .envelopeClaim => claimEnvelope wallet item.payload.envelopeId item.payload.claimerAddress turns
  -- "General execution fallback".
  | .escrowClaim | .airdropClaim => pure ()

def completeItem (item : PendingClaim) (w : WorkerTurns) : Service Unit := do
  retryClaim wallet item (w.turns item.id)
  let completed ← ask (.updatePending item.id .completed none none (w.completing item.id))
  checked completed

def failItem (item : PendingClaim) (message : String) (w : WorkerTurns) : Service Unit := do
  let failed ← ask (.updatePending item.id (if 3 ≤ item.retries + 1 then .failed else .pending)
    (some (item.retries + 1)) (some message) (w.failing item.id))
  checked failed

def processTaken (item : PendingClaim) (w : WorkerTurns) : Service Unit :=
  tryCatchThe Failure (completeItem wallet item w) fun err => failItem item err.message w

def processItem (w : WorkerTurns) (item : PendingClaim) : Service Unit := do
  let taken ← ask (.take item.id (w.taking item.id))
  let count ← checked taken
  if count = 0 then pure () else processTaken wallet item w

def processPendingClaims (w : WorkerTurns) : Service Unit :=
  if w.isLow then pure ()
  else do
    let pendingItems ← ask .findPending
    forEach (processItem wallet w) pendingItems

inductive Operation where
  | claimEnvelope (id claimerAddress : String) (turns : Turns)
  | processPendingClaims (w : WorkerTurns)

def Operation.program : Operation → Program Request Answer Unit
  | claimEnvelope id claimerAddress turns =>
    dropResult (RedEnvelopes.claimEnvelope wallet id claimerAddress turns)
  | processPendingClaims w => dropResult (RedEnvelopes.processPendingClaims wallet w)

def envelopeService : StoreService Tables Operation Request Answer where
  program := Operation.program wallet
  carry i _ := carry i
  passes _ t := t

end Services

section Calls

/-- A request that touches neither the envelopes nor their claims. -/
def Request.Apart : Request → Prop
  | .createClaim _ _ | .updateEnvelope _ _ _ => False
  | .findUnique _ | .ensureVaultDeployed _ _ | .executeLocalSessionAction _ | .createPending _ _
  | .findPending | .take _ _ | .updatePending _ _ _ _ _ => True

/-- What a claim asks for up to its payment. -/
def Request.Early : Request → Prop
  | .findUnique _ | .ensureVaultDeployed _ _ | .executeLocalSessionAction _ => True
  | .createClaim _ _ | .updateEnvelope _ _ _ | .createPending _ _ | .findPending | .take _ _
  | .updatePending _ _ _ _ _ => False

theorem Request.Early.apart {r : Request} (h : r.Early) : r.Apart := by
  cases r <;> trivial

def Answered : (r : Request) → Answer r → Prop
  | .executeLocalSessionAction _, answer => NotRouted answer
  | .findUnique _, _ | .ensureVaultDeployed _ _, _ | .createClaim _ _, _
  | .updateEnvelope _ _ _, _ | .createPending _ _, _ | .findPending, _ | .take _ _, _
  | .updatePending _ _ _ _ _, _ => True

variable {wallet : String → Option String} {envelope : RedEnvelope} {claim : EnvelopeClaim}
  {turns : Turns} {before : Request → Prop}

theorem answered_carry (i : ℕ) (t : Tables) (r : Request) : Answered r (carry i t r).1 := by
  cases r with
  | executeLocalSessionAction payment => exact rfl
  | _ => trivial

theorem carry_early (i : ℕ) (t : Tables) {r : Request} (h : r.Early) : (carry i t r).2 = t := by
  cases r with
  | findUnique | ensureVaultDeployed | executeLocalSessionAction => rfl
  | createClaim | updateEnvelope | createPending | findPending | take | updatePending =>
    exact h.elim

/-- The relayer refuses every claim. -/
theorem refused_executeClaim {payment : Payment}
    (hrelay : before (.executeLocalSessionAction payment)) :
    (executeClaim payment turns).Refused Answered before := by
  refine Fallible.Gated.andThen (Q := fun _ => True) (Fallible.gated_checked fun _ _ => trivial) ?_
  intro _ _
  refine Fallible.Gated.andThen (Q := NotRouted)
    (Fallible.limited_ask hrelay fun _ hanswer => hanswer) ?_
  intro answer hanswer
  exact Fallible.Refused.andThen
    (Fallible.gated_checked fun result hok => hanswer.ne_ok result hok)

/-- A claim asks for the vault of the claimer and then for its payment. -/
theorem refused_settleClaim
    (hvault : ∀ vault deployed, wallet claim.claimerAddress = some vault →
      before (.ensureVaultDeployed vault deployed))
    (hrelay : ∀ onChainId vault,
      before (.executeLocalSessionAction ⟨envelope.id, onChainId, vault, claim.amount⟩)) :
    (settleClaim wallet envelope claim turns).Refused Answered before := by
  refine Fallible.Refused.andThen ?_
  refine Fallible.Limited.tryCatch ?_ fun err => Fallible.refused_throw _
  refine Fallible.Gated.andThen (Q := fun _ => True) (Fallible.gated_checked fun _ _ => trivial) ?_
  intro _ _
  refine Fallible.Gated.andThen (Q := fun _ => True) (Fallible.gated_checked fun _ _ => trivial) ?_
  intro onChainId _
  refine Fallible.Gated.andThen (Q := fun _ => True) (Fallible.gated_checked fun _ _ => trivial) ?_
  intro _ _
  refine Fallible.Gated.andThen (Q := fun vault => wallet claim.claimerAddress = some vault)
    (Fallible.gated_checked fun vault hok => CheckedOutcome.orError_eq_ok.mp hok) ?_
  intro vault hwallet
  refine Fallible.Gated.andThen (Q := fun _ => True)
    (Fallible.limited_ask (hvault vault _ hwallet) fun _ _ => trivial) ?_
  intro deployed _
  refine Fallible.Gated.andThen (Q := fun _ => True) (Fallible.gated_checked fun _ _ => trivial) ?_
  intro claimerWalletAddress _
  exact refused_executeClaim (hrelay onChainId claimerWalletAddress)

theorem eval_findOne {t : Tables} {id : String} {row : RedEnvelope} (i : ℕ)
    (hrow : t.envelopes.find? id = some row) :
    (findOne id).eval (carry i) t =
      (.ok (withClaimSummary row (t.claims.filter (·.envelopeId = id))), t) := by
  unfold findOne
  rw [Fallible.eval_ask_of (rfl : carry i t (.findUnique id) = _), hrow]
  rfl

theorem limited_findOne (id : String) (hfind : before (.findUnique id)) :
    (findOne id).Limited Answered before fun _ => True := by
  refine Fallible.Gated.andThen (Q := fun _ => True)
    (Fallible.limited_ask hfind fun _ _ => trivial) ?_
  intro found _
  refine Fallible.Gated.andThen (Q := fun _ => True) (Fallible.gated_checked fun _ _ => trivial) ?_
  intro envelope _
  exact Fallible.gated_checked fun _ _ => trivial

/-- No claim of an envelope succeeds, and none comes to its statements. -/
theorem refused_claimEnvelope (id claimerAddress : String) :
    (claimEnvelope wallet id claimerAddress turns).Refused Answered Request.Early := by
  refine Fallible.Gated.andThen (limited_findOne id trivial) ?_
  intro envelope _
  refine Fallible.Gated.andThen (Q := fun _ => True) (Fallible.gated_check fun _ => trivial) ?_
  intro _ _
  refine Fallible.Gated.andThen (Q := fun _ => True) (Fallible.gated_check fun _ => trivial) ?_
  intro _ _
  refine Fallible.Gated.andThen (Q := fun _ => True) (Fallible.gated_check fun _ => trivial) ?_
  intro _ _
  exact refused_settleClaim (fun _ _ _ => trivial) fun _ _ => trivial

theorem limited_updatePending (id : String) (status : PendingStatus) (retries : Option ℕ)
    (errorMessage : Option String) (fate : Fate) :
    (ask (.updatePending id status retries errorMessage fate)).Limited Answered Request.Apart
      fun _ => True :=
  Fallible.limited_ask trivial fun _ _ => trivial

theorem limited_processItem (w : WorkerTurns) (item : PendingClaim) :
    (processItem wallet w item).Limited Answered Request.Apart fun _ => True := by
  refine Fallible.Gated.andThen (Q := fun _ => True)
    (Fallible.limited_ask trivial fun _ _ => trivial) ?_
  intro taken _
  refine Fallible.Gated.andThen (Q := fun _ => True) (Fallible.gated_checked fun _ _ => trivial) ?_
  intro count _
  split_ifs
  · exact Fallible.gated_checked fun _ _ => trivial
  · refine Fallible.Limited.tryCatch ?_ fun err => ?_
    · refine Fallible.Gated.andThen (Q := fun _ => True) ?_ fun _ _ =>
        Fallible.Gated.andThen (limited_updatePending _ _ _ _ _) fun _ _ =>
          Fallible.gated_checked fun _ _ => trivial
      unfold retryClaim
      cases item.type with
      | envelopeClaim =>
        exact (refused_claimEnvelope _ _).weaken (fun _ => Request.Early.apart) fun _ h => h.elim
      | escrowClaim | airdropClaim => exact Fallible.gated_checked fun _ _ => trivial
    · exact Fallible.Gated.andThen (limited_updatePending _ _ _ _ _) fun _ _ =>
        Fallible.gated_checked fun _ _ => trivial

theorem limited_processPendingClaims (w : WorkerTurns) :
    (processPendingClaims wallet w).Limited Answered Request.Apart fun _ => True := by
  unfold processPendingClaims
  split_ifs
  · exact Fallible.gated_checked fun _ _ => trivial
  · refine Fallible.Gated.andThen (Q := fun _ => True)
      (Fallible.limited_ask trivial fun _ _ => trivial) ?_
    intro pendingItems _
    exact Fallible.limited_forEach fun item _ => limited_processItem w item

theorem asks_apart (op : Operation) : (op.program wallet).Asks Request.Apart Answered := by
  cases op with
  | claimEnvelope id claimerAddress turns =>
    exact ((refused_claimEnvelope id claimerAddress).weaken (fun _ => Request.Early.apart)
      fun _ h => h).asks_dropResult
  | processPendingClaims w => exact (limited_processPendingClaims w).asks_dropResult

end Calls

section Runs

variable {wallet : String → Option String} {start t : Tables}
  {tr : Trace Tables Operation Request Answer} {c : Config Tables Operation Request Answer}

/-- The envelopes, their claims and what the escrow has paid are those of the start. -/
structure Tables.Kept (start t : Tables) : Prop where
  envelopes : t.envelopes = start.envelopes
  claims : t.claims = start.claims
  paid : t.paid = start.paid

theorem Tables.Kept.carry (i : ℕ) {r : Request} (h : start.Kept t) (hapart : r.Apart) :
    start.Kept (carry i t r).2 := by
  cases r with
  | findUnique | ensureVaultDeployed | findPending | executeLocalSessionAction => exact h
  | createClaim | updateEnvelope => exact hapart.elim
  | createPending row fate =>
    unfold RedEnvelopes.carry
    dsimp only
    split
    · exact h
    · split_ifs
      · exact ⟨h.envelopes, h.claims, h.paid⟩
      · exact h
  | take id fate =>
    unfold RedEnvelopes.carry
    dsimp only
    split_ifs
    · exact ⟨h.envelopes, h.claims, h.paid⟩
    · exact h
  | updatePending id status retries errorMessage fate =>
    unfold RedEnvelopes.carry
    dsimp only
    split_ifs
    · exact ⟨h.envelopes, h.claims, h.paid⟩
    · exact h

/-- Claims and workers in any interleaving move nothing but the queue. -/
theorem kept_of_run (hrun : (envelopeService wallet).Runs start tr c) : start.Kept c.state := by
  refine (StoreService.kept_of_run (C := StoreService.anything) (I := start.Kept)
    (Q := fun _ => Request.Apart) (A := Answered) hrun
    (fun _ _ => StoreService.meets_anything _) ⟨rfl, rfl, rfl⟩
      (fun op _ => asks_apart op) ?_ ?_ ?_).2
  · exact fun i op t r _ => answered_carry i t r
  · exact fun i op t r ht hapart _ => ht.carry i hapart
  · exact fun n t ht _ => ht

def Tables.paidOf (t : Tables) (id : String) : ℕ :=
  t.paid.countP fun payment => payment.envelopeId = id

def Tables.claimsOf (t : Tables) (id : String) : ℕ :=
  t.claims.countP fun claim => claim.envelopeId = id

def claimKey (wallet : String → Option String) (claim : EnvelopeClaim) : String × Option String :=
  (claim.envelopeId, wallet claim.claimerAddress)

/-- No claim was made yet. -/
structure Tables.Fresh (t : Tables) : Prop where
  claims : t.claims = []
  paid : t.paid = []
  remaining : ∀ row ∈ t.envelopes.rows, row.remainingClaims = row.numRecipients

/-- The claims of an envelope and its counter add up, nobody has two of them, and the escrow pays no
more than there are recipients. -/
structure ClaimsAccounted (wallet : String → Option String) (t : Tables) : Prop where
  counted : ∀ row ∈ t.envelopes.rows,
    t.claimsOf row.id + row.remainingClaims = row.numRecipients
  once : (t.claims.map (claimKey wallet)).Nodup
  paid : ∀ row ∈ t.envelopes.rows, t.paidOf row.id ≤ row.numRecipients

/-- Claims and retries in any interleaving. -/
theorem claims_accounted (hfresh : start.Fresh)
    (hrun : (envelopeService wallet).Runs start tr c) : ClaimsAccounted wallet c.state := by
  have hkept := kept_of_run hrun
  have hclaims : c.state.claims = [] := hkept.claims.trans hfresh.claims
  have hpaid : c.state.paid = [] := hkept.paid.trans hfresh.paid
  refine ⟨fun row hrow => ?_, ?_, fun row _ => ?_⟩
  · rw [Tables.claimsOf, hclaims, List.countP_nil, Nat.zero_add]
    exact hfresh.remaining row (hkept.envelopes ▸ hrow)
  · rw [hclaims]
    exact List.nodup_nil
  · rw [Tables.paidOf, hpaid, List.countP_nil]
    exact Nat.zero_le _

end Runs

end VeriAgentPay.RedEnvelopes

namespace VeriAgentPay.Devnet
open InterleavedPrograms RedEnvelopes

/-- Ten for two recipients. -/
def gift : RedEnvelope :=
  ⟨"env", "ann", "USDC", 10, 2, .openEnvelope, false, none, .active, 10, 2, some 7⟩

/-- Who has a vault. -/
def giftVault (identifier : String) : Option String :=
  if identifier ∈ ["ben", "dan", "eve"] then some ("vault-" ++ identifier) else none

def giftTables : RedEnvelopes.Tables where
  envelopes := ⟨[gift], List.nodup_singleton _⟩
  claims := []
  pendingClaims := ⟨[], List.nodup_nil⟩
  paid := []
  takers := []

/-- Everything outside is there. -/
def giftTurns (vault : String) : RedEnvelopes.Turns :=
  ⟨0, false, .ok (), .ok (), .ok vault, .ok (), .answered, .answered, .answered, "pending"⟩

def openGift (i n : ℕ) (claimerAddress : String) : List (Move RedEnvelopes.Operation) :=
  .start i (.claimEnvelope "env" claimerAddress (giftTurns ("vault-" ++ claimerAddress))) ::
    List.replicate n (.step i)

/-- Ben and Dan claim side by side, and both are refused. -/
theorem gifts_refused :
    ((envelopeService giftVault).moves StoreService.anything (Config.initial giftTables)
      (openGift 0 2 "ben" ++ openGift 1 3 "dan" ++ [.step 0])).map
        (fun c => (c.finished 0, c.finished 1)) = some (true, true) := by
  decide +kernel

theorem claims_accounted_devnet : ∃ tr c, (envelopeService giftVault).Runs giftTables tr c ∧
    (c.finished 0, c.finished 1) = (true, true) ∧ ClaimsAccounted giftVault c.state := by
  obtain ⟨tr, c, hrun, -, -, hfacts⟩ := StoreService.runs_of_computed gifts_refused
  have hfresh : giftTables.Fresh := ⟨rfl, rfl, by decide⟩
  exact ⟨tr, c, hrun, hfacts, claims_accounted hfresh hrun⟩

end VeriAgentPay.Devnet
