import VeriAgentPay.KeyedTables
import VeriAgentPay.RefusedCalls
import VeriAgentPay.SessionActions

/-!
# Payments of a split bill

A participant of a split pays its share with a transfer to the creator. The participant's row, the
amount that is collected and the status of the split are to be written in three statements after
it. The relayer refuses the transfer, so that no share is ever paid.
-/

namespace VeriAgentPay.SplitPayments
open InterleavedPrograms KeyedTables SessionActions
open InterleavedPrograms.Fallible (checked check dropResult)
open Backend (Failure outage)
open CheckedOutcome (orError)

section Tables

/-- `PENDING`, `PARTIAL`, `COMPLETED`, `CANCELLED` and `EXPIRED`. -/
inductive BillSplitStatus where
  | pending | partially | completed | cancelled | expired
  deriving DecidableEq

/-- A row of the table `BillSplit`. Times are in milliseconds. -/
structure BillSplit where
  creatorId : String
  token : String
  totalAmount : ℚ
  status : BillSplitStatus
  amountCollected : ℚ
  deadline : Option ℤ
  deriving DecidableEq

structure SplitParticipant where
  id : String
  userId : Option String
  userIdentifier : String
  shareAmount : ℚ
  hasPaid : Bool
  paidAt : Option ℤ
  txHash : Option String
  deriving DecidableEq

structure Transfer where
  participantId : String
  vault : String
  amount : ℚ
  deriving DecidableEq

/-- The rows of one split, and of the history the transfers and the participants that were marked
as having paid. -/
structure Tables where
  split : BillSplit
  participants : Keyed SplitParticipant.id
  now : ℤ
  transfers : List Transfer
  records : List String

def SplitParticipant.markPaid (payerId txHash : String) (paidAt : ℤ) (row : SplitParticipant) :
    SplitParticipant :=
  { row with hasPaid := true, paidAt := some paidAt, txHash := some txHash, userId := some payerId }

end Tables

section Requests

inductive Request where
  | now
  | findUnique
  | expire (fate : Fate)
  /-- The transfer of a participant's share, as it was read. -/
  | executeLocalSessionAction (participant : SplitParticipant) (vault : String)
  | markPaid (participant : SplitParticipant) (payerId txHash : String) (fate : Fate)
  /-- The increment, which answers with the participants. -/
  | count (participant : SplitParticipant) (fate : Fate)
  /-- The status that a call writes at its end. -/
  | report (status : BillSplitStatus) (fate : Fate)

abbrev Answer : Request → Type
  | .now => ℤ
  | .findUnique => BillSplit × List SplitParticipant
  | .executeLocalSessionAction _ _ => Except Failure ActionResult
  | .count _ _ => Except Failure (List SplitParticipant)
  | .expire _ | .markPaid _ _ _ _ | .report _ _ => Except Failure Unit

abbrev Service (α : Type) := Fallible Failure Request Answer α

abbrev ask (r : Request) : Service (Answer r) := Fallible.ask r

def Tables.setStatus (t : Tables) (status : BillSplitStatus) : Tables :=
  { t with split := { t.split with status := status } }

def Tables.transfer (t : Tables) (participant : SplitParticipant) (vault : String) : Tables :=
  { t with transfers := ⟨participant.id, vault, participant.shareAmount⟩ :: t.transfers }

def Tables.markPaid (t : Tables) (participant : SplitParticipant) (payerId txHash : String) :
    Tables :=
  { t with
    participants :=
      t.participants.update (·.id = participant.id) (·.markPaid payerId txHash t.now) fun _ => rfl
    records := participant.id :: t.records }

def Tables.count (t : Tables) (participant : SplitParticipant) : Tables :=
  { t with
    split :=
      { t.split with amountCollected := t.split.amountCollected + participant.shareAmount } }

def carry (t : Tables) : (r : Request) → Answer r × Tables
  | .now => (t.now, t)
  | .findUnique => ((t.split, t.participants.rows), t)
  | .expire fate => (fate.told outage (), if fate.carried then t.setStatus .expired else t)
  | .executeLocalSessionAction participant vault =>
    (executeLocalSessionAction,
      afterAction executeLocalSessionAction t (t.transfer participant vault))
  | .markPaid participant payerId txHash fate =>
    (fate.told outage (), if fate.carried then t.markPaid participant payerId txHash else t)
  | .count participant fate =>
    (fate.told outage t.participants.rows, if fate.carried then t.count participant else t)
  | .report status fate => (fate.told outage (), if fate.carried then t.setStatus status else t)

end Requests

section Services

/-- The user that an identifier is resolved to, with the identifiers that a participant may be
listed under. -/
structure Payer where
  id : String
  smartWallet : Option String
  identifiers : List String

/-- What the outside answers while a share is paid. -/
structure Turns where
  payer : Option Payer
  /-- Whether the token is known, there is a session key that can be decrypted, the creator has a
  wallet and the payload can be built. -/
  prepared : Except Failure Unit
  marking : Fate
  counting : Fate
  reporting : Fate
  expiry : Fate

def expireSplit (turns : Turns) : Service Unit := do
  let expired ← ask (.expire turns.expiry)
  checked expired
  checked (.error (.badRequest "Split has expired"))

def executeShare (participant : SplitParticipant) (vault : String) (turns : Turns) :
    Service String :=
  tryCatchThe Failure
    (do
      checked turns.prepared
      let answer ← ask (.executeLocalSessionAction participant vault)
      let result ← checked answer
      checked (result.settled (.error "Split payment transaction failed")))
    fun relayerErr => checked
      (.error (.badRequest ("Split payment failed: " ++ relayerErr.message)))

def completion (participants : List SplitParticipant) : BillSplitStatus :=
  if participants.all (·.hasPaid) then .completed else .partially

/-- "Update participant record". -/
def updateParticipant (participant : SplitParticipant) (payerId txHash : String) (fate : Fate) :
    Service Unit := do
  let marked ← ask (.markPaid participant payerId txHash fate)
  checked marked

/-- "Update split collected amount". -/
def updateCollected (participant : SplitParticipant) (fate : Fate) :
    Service (List SplitParticipant) := do
  let counted ← ask (.count participant fate)
  checked counted

def recordShare (participant : SplitParticipant) (payerId txHash : String) (turns : Turns) :
    Service Unit := do
  updateParticipant participant payerId txHash turns.marking
  let participants ← updateCollected participant turns.counting
  let reported ← ask (.report (completion participants) turns.reporting)
  checked reported

def SplitParticipant.isOf (payer : Payer) (row : SplitParticipant) : Bool :=
  row.userId = some payer.id ∨ row.userIdentifier ∈ payer.identifiers

def payShare (participant : SplitParticipant) (payer : Payer) (vault : String) (turns : Turns) :
    Service Unit := do
  let txHash ← executeShare participant vault turns
  recordShare participant payer.id txHash turns

def payOpenSplit (split : BillSplit) (participants : List SplitParticipant) (turns : Turns) :
    Service Unit := do
  let payer ← checked (orError turns.payer (.badRequest "Payer must have a smart wallet"))
  let vault ← checked (orError payer.smartWallet (.badRequest "Payer must have a smart wallet"))
  check (payer.id ≠ split.creatorId)
    (.badRequest "The split creator does not need to pay — funds are collected to your wallet")
  let participant ← checked (orError (participants.find? (·.isOf payer))
    (.badRequest "You are not a participant in this split"))
  payShare participant payer vault turns

def paySplit (turns : Turns) : Service Unit := do
  let split ← ask .findUnique
  check (split.1.status ≠ .completed) (.badRequest "Split is already completed")
  check (split.1.status ≠ .cancelled) (.badRequest "Split has been cancelled")
  let now ← ask .now
  -- A deadline that is null is the start of time.
  if split.1.deadline.getD 0 < now then expireSplit turns else payOpenSplit split.1 split.2 turns

def splitService : StoreService Tables Turns Request Answer where
  program turns := dropResult (paySplit turns)
  carry _ _ := carry
  passes n t := { t with now := t.now + n }

end Services

section Calls

/-- What a call asks for up to the transfer. -/
def Request.Early : Request → Prop
  | .now | .findUnique | .expire _ | .executeLocalSessionAction _ _ => True
  | .markPaid _ _ _ _ | .count _ _ | .report _ _ => False

def Answered : (r : Request) → Answer r → Prop
  | .executeLocalSessionAction _ _, answer => NotRouted answer
  | .now, _ | .findUnique, _ | .expire _, _ | .markPaid _ _ _ _, _ | .count _ _, _
  | .report _ _, _ => True

variable {turns : Turns} {participant : SplitParticipant} {payer : Payer} {vault : String}

theorem answered_carry (t : Tables) (r : Request) : Answered r (carry t r).1 := by
  cases r with
  | executeLocalSessionAction participant vault => exact rfl
  | _ => trivial

/-- The relayer refuses every transfer. -/
theorem refused_executeShare :
    (executeShare participant vault turns).Refused Answered Request.Early := by
  refine Fallible.Limited.tryCatch ?_ fun e => Fallible.refused_throw _
  refine Fallible.Gated.andThen (Q := fun _ => True) (Fallible.gated_checked fun _ _ => trivial) ?_
  intro _ _
  refine Fallible.Gated.andThen (Q := NotRouted) (Fallible.limited_ask trivial fun _ h => h) ?_
  intro answer hanswer
  exact Fallible.Refused.andThen (Fallible.gated_checked fun result hok => hanswer.ne_ok result hok)

theorem refused_payOpenSplit (split : BillSplit) (participants : List SplitParticipant) :
    (payOpenSplit split participants turns).Refused Answered Request.Early := by
  refine Fallible.Gated.andThen (Q := fun _ => True) (Fallible.gated_checked fun _ _ => trivial) ?_
  intro payer _
  refine Fallible.Gated.andThen (Q := fun _ => True) (Fallible.gated_checked fun _ _ => trivial) ?_
  intro vault _
  refine Fallible.Gated.andThen (Q := fun _ => True) (Fallible.gated_check fun _ => trivial) ?_
  intro _ _
  refine Fallible.Gated.andThen (Q := fun _ => True) (Fallible.gated_checked fun _ _ => trivial) ?_
  intro participant _
  exact Fallible.Refused.andThen refused_executeShare

theorem refused_expireSplit : (expireSplit turns).Refused Answered Request.Early := by
  refine Fallible.Gated.andThen (Q := fun _ => True)
    (Fallible.limited_ask trivial fun _ _ => trivial) ?_
  intro expired _
  refine Fallible.Gated.andThen (Q := fun _ => True) (Fallible.gated_checked fun _ _ => trivial) ?_
  intro _ _
  exact Fallible.refused_throw _

/-- No call succeeds, and none comes to its three statements. -/
theorem refused_paySplit : (paySplit turns).Refused Answered Request.Early := by
  refine Fallible.Gated.andThen (Q := fun _ => True)
    (Fallible.limited_ask trivial fun _ _ => trivial) ?_
  intro split _
  refine Fallible.Gated.andThen (Q := fun _ => True) (Fallible.gated_check fun _ => trivial) ?_
  intro _ _
  refine Fallible.Gated.andThen (Q := fun _ => True) (Fallible.gated_check fun _ => trivial) ?_
  intro _ _
  refine Fallible.Gated.andThen (Q := fun _ => True)
    (Fallible.limited_ask trivial fun _ _ => trivial) ?_
  intro now _
  split_ifs
  · exact refused_expireSplit
  · exact refused_payOpenSplit split.1 split.2

end Calls

section Runs

def SplitParticipant.paid (row : SplitParticipant) : ℚ := if row.hasPaid then row.shareAmount else 0

def Tables.paidSum (t : Tables) : ℚ := t.participants.sum SplitParticipant.paid

/-- A participant who has to pay. -/
def Tables.mustPay (t : Tables) (row : SplitParticipant) : Prop :=
  row.userId ≠ some t.split.creatorId

/-- As a split is created. -/
structure Tables.Fresh (t : Tables) : Prop where
  status : t.split.status ≠ .completed
  collected : t.split.amountCollected = 0
  unpaid : ∀ row ∈ t.participants.rows, row.hasPaid = false
  transfers : t.transfers = []
  records : t.records = []

/-- Every share is transferred and recorded once at most, the collected amount is that of the
participants who are marked, and the split is completed when all who must pay have. -/
structure SplitExact (t : Tables) : Prop where
  transferred : (t.transfers.map Transfer.participantId).Nodup
  recorded : t.records.Nodup
  collected : t.split.amountCollected = t.paidSum
  completed : t.split.status = .completed ↔
    ∀ row ∈ t.participants.rows, t.mustPay row → row.hasPaid

variable {start t : Tables} {tr : Trace Tables Turns Request Answer}
  {c : Config Tables Turns Request Answer}

/-- The participants are those of the start, and the split is still fresh. -/
structure Tables.Kept (start t : Tables) : Prop where
  participants : t.participants = start.participants
  creatorId : t.split.creatorId = start.split.creatorId
  fresh : t.Fresh

theorem Tables.Kept.carry {r : Request} (h : start.Kept t) (hearly : r.Early) :
    start.Kept (carry t r).2 := by
  cases r with
  | now | findUnique => exact h
  | executeLocalSessionAction participant vault => exact h
  | expire fate =>
    by_cases hcarried : fate.carried
    · have hexpired : (SplitPayments.carry t (.expire fate)).2 = t.setStatus .expired :=
        if_pos hcarried
      rw [hexpired]
      exact ⟨h.participants, h.creatorId, nofun, h.fresh.collected, h.fresh.unpaid,
        h.fresh.transfers, h.fresh.records⟩
    · have hsame : (SplitPayments.carry t (.expire fate)).2 = t := if_neg hcarried
      rw [hsame]
      exact h
  | markPaid participant payerId txHash fate => exact hearly.elim
  | count participant fate => exact hearly.elim
  | report status fate => exact hearly.elim

theorem Tables.Fresh.paidSum (h : t.Fresh) : t.paidSum = 0 := by
  apply List.sum_eq_zero
  intro paid hpaid
  obtain ⟨row, hrow, rfl⟩ := List.mem_map.mp hpaid
  rw [SplitParticipant.paid, h.unpaid row hrow, if_neg Bool.false_ne_true]

/-- Payments of any participants in any interleaving leave all but the status as it was. -/
theorem kept_of_run (hstart : start.Fresh) (hrun : splitService.Runs start tr c) :
    start.Kept c.state := by
  refine (StoreService.kept_of_run (C := StoreService.anything) (I := start.Kept)
    (Q := fun _ => Request.Early) (A := Answered) hrun (fun _ _ => StoreService.meets_anything _)
      ⟨rfl, rfl, hstart⟩
    (fun turns _ => refused_paySplit.asks_dropResult) ?_ ?_ ?_).2
  · exact fun i turns t r _ => answered_carry t r
  · exact fun i turns t r ht hearly _ => ht.carry hearly
  · intro n t ht _
    exact ⟨ht.participants, ht.creatorId, ht.fresh.status, ht.fresh.collected, ht.fresh.unpaid,
      ht.fresh.transfers, ht.fresh.records⟩

/-- A split that nobody has paid for is exact as long as there is somebody who has to pay. -/
theorem Tables.Fresh.exact_iff (h : t.Fresh) :
    SplitExact t ↔ ∃ row ∈ t.participants.rows, t.mustPay row := by
  constructor
  · intro hexact
    by_contra hnone
    refine h.status (hexact.completed.mpr fun row hrow hmust => ?_)
    exact absurd ⟨row, hrow, hmust⟩ hnone
  · rintro ⟨row, hrow, hmust⟩
    refine ⟨?_, ?_, h.collected.trans h.paidSum.symm, ?_⟩
    · rw [h.transfers]
      exact List.nodup_nil
    · rw [h.records]
      exact List.nodup_nil
    · refine iff_of_false h.status fun hpaid => ?_
      have hrowPaid := hpaid row hrow hmust
      rw [h.unpaid row hrow] at hrowPaid
      cases hrowPaid

/-- A split is exact in all runs of payments, whoever pays and in whatever interleaving, just when
not every participant is the creator, who does not have to pay. -/
theorem splits_recorded_once (hstart : start.Fresh) :
    (∀ tr c, splitService.Runs start tr c → SplitExact c.state) ↔
      ∃ row ∈ start.participants.rows, start.mustPay row := by
  constructor
  · intro hexact
    exact hstart.exact_iff.mp (hexact [] (Config.initial start) .nil)
  · rintro ⟨row, hrow, hmust⟩ tr c hrun
    have hkept := kept_of_run hstart hrun
    refine hkept.fresh.exact_iff.mpr ⟨row, hkept.participants ▸ hrow, ?_⟩
    unfold Tables.mustPay at hmust ⊢
    rwa [hkept.creatorId]

end Runs

end VeriAgentPay.SplitPayments

namespace VeriAgentPay.Devnet
open InterleavedPrograms SplitPayments

def splitOf (status : BillSplitStatus) : BillSplit := ⟨"ann", "USDC", 20, status, 0, some 5000⟩

def shareOf (userId : String) : SplitParticipant :=
  ⟨userId, some userId, "@" ++ userId, 10, false, none, none⟩

/-- A bill of ann. -/
def bill (participants : List String) (h : participants.Nodup) : SplitPayments.Tables where
  split := splitOf .pending
  participants := ⟨participants.map shareOf, by simpa [shareOf, Function.comp_def] using h⟩
  now := 1000
  transfers := []
  records := []

def payShareOf (i n : ℕ) (userId : String) : List (Move SplitPayments.Turns) :=
  .start i ⟨some ⟨userId, some ("0x" ++ userId), [userId]⟩, .ok (), .answered, .answered, .answered,
    .answered⟩ :: List.replicate n (.step i)

/-- The split and its rows, and whether the first call is over. -/
def splitAfter (t : SplitPayments.Tables) (schedule : List (Move SplitPayments.Turns)) :
    Option (BillSplit × List SplitParticipant × Bool) :=
  (splitService.moves StoreService.anything (Config.initial t) schedule).map fun c =>
    (c.state.split, c.state.participants.rows, c.finished 0)

theorem bill_fresh (participants : List String) (h : participants.Nodup) :
    (bill participants h).Fresh := by
  refine ⟨nofun, rfl, ?_, rfl, rfl⟩
  intro row hrow
  obtain ⟨userId, -, rfl⟩ := List.mem_map.mp hrow
  rfl

/-- Nobody but the creator is listed, who may not pay: the split is never completed. -/
theorem splits_misrecorded :
    ∃ tr c, splitService.Runs (bill ["ann"] (by decide)) tr c ∧ c.Quiescent ∧
    c.state.split.status = .pending ∧
      (∀ row ∈ c.state.participants.rows, c.state.mustPay row → row.hasPaid) ∧
        ¬SplitExact c.state := by
  have hpays : splitAfter (bill ["ann"] (by decide)) (payShareOf 0 2 "ann") =
      some (splitOf .pending, [shareOf "ann"], true) := by decide +kernel
  obtain ⟨tr, c, hrun, -, hmoves, hfacts⟩ := StoreService.runs_of_computed hpays
  simp only [Prod.mk.injEq] at hfacts
  obtain ⟨hsplit, hrows, hover⟩ := hfacts
  have hpaid : ∀ row ∈ c.state.participants.rows, c.state.mustPay row → row.hasPaid := by
    intro row hrow hmust
    unfold Tables.mustPay at hmust
    rw [hsplit] at hmust
    rw [hrows] at hrow
    revert row
    decide
  refine ⟨tr, c, hrun,
    StoreService.quiescent_of_moves hmoves (by simpa [Move.starts, payShareOf] using hover),
    by rw [hsplit]; rfl, hpaid, ?_⟩
  intro hexact
  have hcompleted := hexact.completed.mpr hpaid
  rw [hsplit] at hcompleted
  cases hcompleted

/-- Ben's payment gets to its transfer and fails there. -/
theorem bens_share_refused : splitAfter (bill ["ben", "ann"] (by decide)) (payShareOf 0 3 "ben") =
    some (splitOf .pending, [shareOf "ben", shareOf "ann"], true) := by
  decide +kernel

theorem splits_recorded_once_devnet :
    ∃ tr c, splitService.Runs (bill ["ben", "ann"] (by decide)) tr c ∧ c.finished 0 = true ∧
      c.state.participants.rows = [shareOf "ben", shareOf "ann"] ∧ SplitExact c.state := by
  obtain ⟨tr, c, hrun, -, -, hfacts⟩ := StoreService.runs_of_computed bens_share_refused
  simp only [Prod.mk.injEq] at hfacts
  have hmust : (bill ["ben", "ann"] (by decide)).mustPay (shareOf "ben") := by
    unfold Tables.mustPay
    decide
  exact ⟨tr, c, hrun, hfacts.2.2, hfacts.2.1,
    (splits_recorded_once (bill_fresh ["ben", "ann"] (by decide))).mpr
      ⟨shareOf "ben", List.mem_cons_self, hmust⟩ tr c hrun⟩

end VeriAgentPay.Devnet
