import VeriAgentPay.EmbeddedPrograms
import VeriAgentPay.PoolRepayments
import VeriAgentPay.PoolVoting

/-!
# Interest on loans

The interest on a loan accrues from the time at which its row was last updated, and every update of
the row by any service sets that time. Where no update leaves a disbursed loan open, this is the
time of the disbursement.
-/

namespace VeriAgentPay.Pools
open InterleavedPrograms KeyedTables RoundedNumbers
open InterleavedPrograms.Fallible (checked check dropResult forEach)
open Backend (Failure)
open CheckedOutcome (orError)

section Updates

/-- An `update` of the loans with one id that meet a condition. -/
structure LoanUpdate where
  loanId : String
  condition : LoanApplication → Bool
  data : LoanApplication → LoanApplication
  keepsId : ∀ loan, (data loan).id = loan.id
  keepsDebt : ∀ loan, ((data loan).poolId, (data loan).amount,
    (data loan).durationDays) = (loan.poolId, loan.amount, loan.durationDays)
  keepsFunded : ∀ loan, loan.onChainLoanId ≠ none → (data loan).onChainLoanId ≠ none

def LoanUpdate.status (loanId : String) (condition : LoanApplication → Bool) (status : LoanStatus) :
    LoanUpdate where
  loanId := loanId
  condition := condition
  data loan := loan.setStatus status
  keepsId _ := rfl
  keepsDebt _ := rfl
  keepsFunded _ h := h

theorem LoanApplication.setDeadline_id (deadline : ℤ) (loan : LoanApplication) :
    (loan.setDeadline deadline).id = loan.id := rfl

theorem LoanApplication.extend_id (deadline : ℤ) (loan : LoanApplication) :
    ((loan.setStatus .executed).setDeadline deadline).id = loan.id := rfl

theorem LoanApplication.setVoted_id (data : VotedUpdate) (loan : LoanApplication) :
    (loan.setVoted data).id = loan.id := rfl

def LoanUpdate.deadline (loanId : String) (deadline : ℤ) : LoanUpdate where
  loanId := loanId
  condition _ := true
  data loan := loan.setDeadline deadline
  keepsId := LoanApplication.setDeadline_id deadline
  keepsDebt _ := rfl
  keepsFunded _ h := h

def LoanUpdate.extension (loanId : String) (deadline : ℤ) : LoanUpdate where
  loanId := loanId
  condition _ := true
  data loan := (loan.setStatus .executed).setDeadline deadline
  keepsId := LoanApplication.extend_id deadline
  keepsDebt _ := rfl
  keepsFunded _ h := h

def LoanUpdate.voted (loanId : String) (data : VotedUpdate) : LoanUpdate where
  loanId := loanId
  condition _ := true
  data loan := loan.setVoted data
  keepsId := LoanApplication.setVoted_id data
  keepsDebt _ := rfl
  keepsFunded loan h := by
    cases hdisbursed : data.disbursed with
    | none => simpa [LoanApplication.setVoted, hdisbursed] using h
    | some d => simp [LoanApplication.setVoted, hdisbursed]

/-- What the services of the pools update. -/
def Request.loanUpdate : Request → Option LoanUpdate
  | .updateVoted loanId data => some (.voted loanId data)
  | .moveDeadline loanId deadline => some (.deadline loanId deadline)
  | .executeExtension loanId deadline => some (.extension loanId deadline)
  | .claimExecution loanId => some (.status loanId executable .executed)
  | .releaseExecution loanId => some (.status loanId unfunded .pending)
  | .closeWrittenOff loanId => some (.status loanId (·.status = .defaulted) .repaid)
  | .markDefaulted loanId => some (.status loanId (·.status = .executed) .defaulted)
  | _ => none

def LoanUpdate.touches (u : LoanUpdate) (t : Tables) (loanId : String) : Bool :=
  u.loanId = loanId && (t.loan? loanId).any u.condition

def Request.touches (r : Request) (t : Tables) (loanId : String) : Bool :=
  match r with
  | .createLoan loan => loan.id = loanId && (t.loan? loanId).isNone
  | r => r.loanUpdate.any fun u => u.touches t loanId

variable {t : Tables} {loanId : String} {loan : LoanApplication}

theorem loan?_update (u : LoanUpdate) (t : Tables) (loanId : String) :
    (t.updateLoan u.loanId u.condition u.data u.keepsId).loan? loanId =
      (t.loan? loanId).map fun loan => if u.loanId = loanId && u.condition loan then u.data loan
        else loan := by
  rw [loan?_updateLoan]
  refine Option.map_congr fun loan hloan => ?_
  rw [(loan?_eq_some.mp hloan).2]
  simp only [eq_comm]

theorem loan?_carry (t : Tables) {r : Request} {u : LoanUpdate} (h : r.loanUpdate = some u)
    (loanId : String) :
    (carry t r).2.loan? loanId =
      (t.loan? loanId).map fun loan => if u.loanId = loanId && u.condition loan then u.data loan
        else loan := by
  cases r with
  | updateVoted id data =>
    obtain rfl := Option.some.inj h
    by_cases hrow : (t.loan? id).isSome
    · rw [carry_updateVoted data hrow]
      exact loan?_update (.voted id data) t loanId
    · rw [carry_updateVoted_missing data hrow]
      by_cases hid : id = loanId
      · subst hid
        rw [Option.not_isSome_iff_eq_none.mp hrow]
        rfl
      · simp [LoanUpdate.voted, hid]
  | moveDeadline id deadline =>
    obtain rfl := Option.some.inj h
    exact loan?_update (.deadline id deadline) t loanId
  | executeExtension id deadline =>
    obtain rfl := Option.some.inj h
    exact loan?_update (.extension id deadline) t loanId
  | claimExecution id | releaseExecution id | closeWrittenOff id | markDefaulted id =>
    obtain rfl := Option.some.inj h
    exact loan?_update (.status id _ _) t loanId
  | findPool | findVoter | createVote | countVotes | deleteVotes | decrementBalance | findLoan |
      countExtensions | createLoan
  | findActiveLoans | now => cases h

/-- Without an update a row stays what it is. -/
theorem loan?_carry_none {r : Request} (h : r.loanUpdate = none)
    (hrow : t.loan? loanId = some loan) :
    (carry t r).2.loan? loanId = some loan := by
  cases r with
  | createLoan loan' =>
    simp only [carry]
    split
    · next loans hinsert =>
      obtain ⟨hmem, hid⟩ := loan?_eq_some.mp hrow
      exact loan?_eq_some.mpr ⟨Keyed.mem_insert hinsert |>.mpr (.inl hmem), hid⟩
    · exact hrow
  | createVote vote =>
    simp only [carry]
    split
    · exact hrow
    · exact hrow
  | updateVoted | moveDeadline | executeExtension | claimExecution | releaseExecution |
      closeWrittenOff | markDefaulted => cases h
  | findPool | findVoter | countVotes | deleteVotes | decrementBalance | findLoan |
      countExtensions | findActiveLoans | now =>
    exact hrow

end Updates

section Ledgers

/-- A row of the table of loans, with the time of its last update. -/
structure DatedLoan where
  loan : LoanApplication
  updatedAt : ℤ
  deriving DecidableEq

structure PoolTerms where
  token : String
  interestRateBps : ℤ
  deriving DecidableEq

/-- The interest that a call was given for a loan, with what it was computed from and when. -/
structure Charge where
  loan : DatedLoan
  interestRateBps : ℤ
  time : ℤ
  interest : ℚ
  deriving DecidableEq

/-- The tables with the column `updatedAt` of the loans. The time of a loan's disbursement and the
charges are history. -/
structure Ledger where
  tables : Tables
  terms : String → PoolTerms
  updatedAt : String → ℤ
  disbursedAt : String → Option ℤ
  charges : List Charge

/-- Every update of a row sets its time. -/
def Ledger.stamp (s : Ledger) (touched : String → Bool) (tables : Tables) : Ledger :=
  { s with
    tables := tables
    updatedAt := fun loanId => if touched loanId then s.tables.now else s.updatedAt loanId
    disbursedAt := fun loanId =>
      if s.disbursedAt loanId = none ∧ (tables.loan? loanId).any (·.onChainLoanId ≠ none) then
        some s.tables.now
      else s.disbursedAt loanId }

def Ledger.update (s : Ledger) (u : LoanUpdate) : Ledger :=
  s.stamp (u.touches s.tables) (s.tables.updateLoan u.loanId u.condition u.data u.keepsId)

/-- What `findOne` reads of a pool. -/
structure DatedView where
  pool : GroupPool
  terms : PoolTerms
  loans : List DatedLoan

inductive LedgerRequest where
  | pools (r : Request)
  | findPool (id : String)
  | claimRepayment (loanId : String)
  | releaseRepayment (loanId : String)
  | closeRepaid (loanId : String)
  | incrementBalance (poolId : String) (amount : ℚ)
  /-- `accruedInterest` of a row that was read, at the present time. -/
  | accrue (loan : DatedLoan) (interestRateBps : ℤ)

abbrev LedgerAnswer : LedgerRequest → Type
  | .pools r => Answer r
  | .findPool _ => Option DatedView
  | .claimRepayment _ | .releaseRepayment _ => ℕ
  | .closeRepaid _ | .incrementBalance _ _ => Unit
  | .accrue _ _ => ℚ

abbrev LedgerService (α : Type) := Fallible Failure LedgerRequest LedgerAnswer α

abbrev askLedger (r : LedgerRequest) : LedgerService (LedgerAnswer r) := Fallible.ask r

def claimRepayment (loanId : String) : LoanUpdate := .status loanId (·.status = .executed) .repaid
def releaseRepayment (loanId : String) : LoanUpdate := .status loanId (·.status = .repaid) .executed
def closeRepaid (loanId : String) : LoanUpdate := .status loanId (fun _ => true) .repaid

def LedgerRequest.loanUpdate : LedgerRequest → Option LoanUpdate
  | .pools r => r.loanUpdate
  | .claimRepayment loanId => some (Pools.claimRepayment loanId)
  | .releaseRepayment loanId => some (Pools.releaseRepayment loanId)
  | .closeRepaid loanId => some (Pools.closeRepaid loanId)
  | .findPool _ | .incrementBalance _ _ | .accrue _ _ => none

def DatedLoan.interest (loan : DatedLoan) (interestRateBps now : ℤ) : ℚ :=
  accruedInterest loan.loan.amount interestRateBps loan.loan.durationDays (some loan.updatedAt) now

def carryLedger (s : Ledger) : (r : LedgerRequest) → LedgerAnswer r × Ledger
  | .pools r => ((carry s.tables r).1, s.stamp (r.touches s.tables) (carry s.tables r).2)
  | .findPool id =>
    ((s.tables.pools.find? id).map fun pool =>
      ⟨pool, s.terms id, (s.tables.loans.rows.filter (·.poolId = id)).map
        fun loan => ⟨loan, s.updatedAt loan.id⟩⟩, s)
  | .claimRepayment loanId =>
    (s.tables.matching loanId (claimRepayment loanId).condition, s.update (claimRepayment loanId))
  | .releaseRepayment loanId =>
    (s.tables.matching loanId (releaseRepayment loanId).condition,
      s.update (releaseRepayment loanId))
  | .closeRepaid loanId => ((), s.update (closeRepaid loanId))
  | .incrementBalance poolId amount =>
    ((), { s with
      tables := { s.tables with
        pools := s.tables.pools.update (·.id = poolId) (·.payOut (-amount)) fun _ => rfl } })
  | .accrue loan interestRateBps =>
    (loan.interest interestRateBps s.tables.now,
      { s with
        charges :=
          ⟨loan, interestRateBps, s.tables.now, loan.interest interestRateBps s.tables.now⟩ ::
            s.charges })

end Ledgers

namespace PoolsService

structure Breakdown where
  principal : ℚ
  interest : ℚ
  total : ℚ
  interestRateBps : ℤ

def loanRepaymentBreakdown (view : DatedView) (loan : DatedLoan) : LedgerService Breakdown := do
  let interest ← askLedger (.accrue loan view.terms.interestRateBps)
  pure ⟨loan.loan.amount, interest, cents (double (loan.loan.amount + interest)),
    view.terms.interestRateBps⟩

def quote (view : DatedView) (loan : DatedLoan) : LedgerService Unit := do
  let _ ← loanRepaymentBreakdown view loan
  pure ()

def findPool (id : String) : LedgerService DatedView := do
  let found ← askLedger (.findPool id)
  checked (orError found (.notFound "Group pool not found"))

/-- "What this borrower owes right now", of every open loan of the pool. -/
def getPool (id : String) : LedgerService DatedView := do
  let view ← findPool id
  forEach (quote view) (view.loans.filter fun loan => loan.loan.status = .executed)
  pure view

/-- What the outside answers to a repayment, and which of its last statements are carried out. -/
structure PaymentTurns where
  supportsInstalments : Bool
  /-- The token, the borrower's wallet and session key, and what the contract asks for. -/
  prepared : Except Failure Unit
  released : Bool
  recorded : Bool

/-- A settlement claims the loan before money moves. -/
def claimSettlement (loanId : String) : LedgerService Unit := do
  let claimed ← askLedger (.claimRepayment loanId)
  if claimed = 1 then pure ()
  else do
    let current ← askLedger (.pools (.findLoan loanId))
    checked (.error
      (current.elim (.badRequest "Loan cannot be repaid while it is in an unknown state.")
      fun current => notRepayable current.status))

def admitInstalment (view : DatedView) (loan : LoanApplication) (owed : Breakdown)
    (turns : PaymentTurns) : LedgerService Unit := do
  check turns.supportsInstalments
    (.badRequest ("This pool's contract requires the full amount in one payment. " ++
    "Repay " ++ centsText owed.total ++ " " ++ view.terms.token ++ " to settle the loan."))
  check (loan.status = .executed) (notRepayable loan.status)

def admitPayment (view : DatedView) (loan : LoanApplication) (owed : Breakdown)
    (isSettlement : Bool) (turns : PaymentTurns) :
    LedgerService Unit :=
  if isSettlement then claimSettlement loan.id else admitInstalment view loan owed turns

/-- The payment through the contract, with the interest on top of what it asks for. The token is to
be approved first. -/
def payWithInterest (view : DatedView) (loan : DatedLoan) (turns : PaymentTurns) :
    LedgerService String := do
  check (loan.loan.onChainLoanId ≠ none)
    (.error "This loan was never funded on-chain and cannot be repaid here.")
  checked turns.prepared
  let _ ← loanRepaymentBreakdown view loan
  let _ ← checked executeVaultCall
  checked executeVaultCall

def releaseSettlement (loanId : String) (isSettlement : Bool) (turns : PaymentTurns) :
    LedgerService Unit :=
  if isSettlement ∧ turns.released then do
    let _ ← askLedger (.releaseRepayment loanId)
    pure ()
  else pure ()

def recordPayment (id loanId : String) (amount : ℚ) (isSettlement : Bool) (turns : PaymentTurns) :
    LedgerService Unit :=
  if turns.recorded then do
    askLedger (.incrementBalance id amount)
    if isSettlement then askLedger (.closeRepaid loanId) else pure ()
  else pure ()

def payLoan (id loanId borrowerId : String) (amount : ℚ) (turns : PaymentTurns) :
    LedgerService RepayResult := do
  let view ← getPool id
  let loan ← checked (orError (view.loans.find? (·.loan.id = loanId)) (.notFound "Loan not found"))
  check (loan.loan.borrowerId = borrowerId) (.forbidden "Only the borrower can repay this loan")
  check (0 < amount) (.badRequest "Repayment amount must be greater than zero.")
  let owed ← loanRepaymentBreakdown view loan
  let isSettlement := settles amount owed.total
  admitPayment view loan.loan owed isSettlement turns
  let now ← askLedger (.pools .now)
  let isOnTime : Bool := now ≤ loan.loan.repaymentDeadline.getD (now + 864000000)
  let txHash ← tryCatchThe Failure (payWithInterest view loan turns) fun err => do
    releaseSettlement loanId isSettlement turns
    checked (.error (.badRequest ("Loan repayment failed: " ++ err.message)))
  recordPayment id loanId amount isSettlement turns
  pure ⟨.repaid, amount, isOnTime, if isOnTime then 10 else 0, txHash⟩

end PoolsService

section Services

inductive LedgerOperation where
  | pools (op : Operation)
  | getPool (id : String)
  | repayLoan (id loanId borrowerId : String) (amount : ℚ) (turns : PoolsService.PaymentTurns)

def LedgerOperation.program : LedgerOperation → Program LedgerRequest LedgerAnswer Unit
  | pools op => op.program.translate .pools fun _ x => x
  | getPool id => dropResult (PoolsService.getPool id)
  | repayLoan id loanId borrowerId amount turns =>
    dropResult (PoolsService.payLoan id loanId borrowerId amount turns)

/-- The services side by side; time passes. -/
def ledgerServices : StoreService Ledger LedgerOperation LedgerRequest LedgerAnswer where
  program := LedgerOperation.program
  carry _ _ := carryLedger
  passes n s := { s with tables := { s.tables with now := s.tables.now + n } }

end Services

end VeriAgentPay.Pools
