import VeriAgentPay.IdentityServices
import VeriAgentPay.KeyedTables
import VeriAgentPay.ScheduledPrograms

/-!
# Loans of lending pools

The rows of pools, members, loans and votes, and the services that vote on a loan, execute it,
extend it and write it off. What the chain answers to a vote is part of the call: the answers of
`executeVaultCall` are left open, though that service refuses every token that is registered.
-/

namespace VeriAgentPay.Pools
open InterleavedPrograms KeyedTables
open InterleavedPrograms.Fallible (checked check onFailure silent dropResult)
open Backend (Failure User truthy)
open CheckedOutcome (orError)
open Identity (withoutAt)

inductive LoanStatus where
  | pending | approved | rejected | executed | repaid | defaulted
  deriving DecidableEq

def LoanStatus.name : LoanStatus → String
  | pending => "PENDING"
  | approved => "APPROVED"
  | rejected => "REJECTED"
  | executed => "EXECUTED"
  | repaid => "REPAID"
  | defaulted => "DEFAULTED"

structure GroupPool where
  id : String
  onChainPoolId : Option ℕ
  poolBalance : ℚ
  deriving DecidableEq

def GroupPool.payOut (amount : ℚ) (pool : GroupPool) : GroupPool :=
  { pool with poolBalance := pool.poolBalance - amount }

structure PoolMember where
  poolId : String
  userId : Option String
  userIdentifier : String
  deriving DecidableEq

/-- A row of the table `LoanApplication`. Times are in milliseconds. -/
structure LoanApplication where
  id : String
  poolId : String
  borrowerId : String
  amount : ℚ
  durationDays : ℤ
  status : LoanStatus
  approveVotes : ℕ
  rejectVotes : ℕ
  isExtension : Bool
  targetLoanId : Option String
  onChainRequestId : Option ℕ
  onChainLoanId : Option ℕ
  txHash : Option String
  repaymentDeadline : Option ℤ
  deriving DecidableEq

/-- The two decisions that share the table of votes. -/
inductive Decision where
  | approval | writeOff
  deriving DecidableEq

/-- A row of the table `LoanVote`. The decision in which it was cast is history: no service reads
it. -/
structure LoanVote where
  loanId : String
  voterId : String
  approve : Bool
  castIn : Decision
  deriving DecidableEq

def LoanVote.key (vote : LoanVote) : String × String := (vote.loanId, vote.voterId)

/-- What `voteLoan` writes to a loan. -/
structure VotedUpdate where
  approveVotes : ℕ
  rejectVotes : ℕ
  status : LoanStatus
  /-- The loan's id on chain, the transaction and the deadline, if the vote disbursed the loan. -/
  disbursed : Option (ℕ × Option String × ℤ)
  deriving DecidableEq

/-- The tables. What `voteLoan` has written is history. -/
structure Tables where
  pools : Keyed GroupPool.id
  members : List PoolMember
  loans : Keyed LoanApplication.id
  votes : Keyed LoanVote.key
  users : List User
  now : ℤ
  ruled : List (String × VotedUpdate)

/-- What `findOne` reads. -/
structure PoolView where
  pool : GroupPool
  members : List PoolMember
  loans : List LoanApplication

inductive Request where
  | findPool (id : String)
  | findVoter (voterId : String) (choice : ℕ)
  | createVote (vote : LoanVote)
  | countVotes (loanId : String) (approve : Bool)
  | deleteVotes (loanId voterId : String)
  | updateVoted (loanId : String) (data : VotedUpdate)
  | decrementBalance (poolId : String) (amount : ℚ)
  | moveDeadline (loanId : String) (deadline : ℤ)
  | executeExtension (loanId : String) (deadline : ℤ)
  | claimExecution (loanId : String)
  | findLoan (loanId : String)
  | releaseExecution (loanId : String)
  | closeWrittenOff (loanId : String)
  | countExtensions (poolId loanId : String)
  | createLoan (loan : LoanApplication)
  | findActiveLoans
  | markDefaulted (loanId : String)
  | now

abbrev Answer : Request → Type
  | .findPool _ => Option PoolView
  | .findVoter _ _ => Option User
  | .createVote _ | .updateVoted _ _ | .moveDeadline _ _ | .executeExtension _ _ | .createLoan _ =>
    Bool
  | .countVotes _ _ | .claimExecution _ | .releaseExecution _ | .closeWrittenOff
      _ | .countExtensions _ _
  | .markDefaulted _ => ℕ
  | .deleteVotes _ _ | .decrementBalance _ _ => Unit
  | .findLoan _ => Option LoanApplication
  | .findActiveLoans => List LoanApplication
  | .now => ℤ

abbrev Service (α : Type) := Fallible Failure Request Answer α

def ask (r : Request) : Service (Answer r) := Fallible.ask r

namespace Tables

variable (t : Tables)

def countVotes (loanId : String) (approve : Bool) : ℕ :=
  t.votes.count fun vote => vote.loanId = loanId ∧ vote.approve = approve

def loan? (loanId : String) : Option LoanApplication := t.loans.find? loanId

def deleteVotes (loanId voterId : String) : Tables :=
  { t with votes := t.votes.delete fun vote => vote.loanId = loanId ∧ vote.voterId = voterId }

/-- `updateMany`: the loan is changed if it has one of the statuses. -/
def updateLoan (loanId : String) (condition : LoanApplication → Bool)
    (data : LoanApplication → LoanApplication) (hdata : ∀ loan, (data loan).id = loan.id) :
    Tables :=
  { t with loans := t.loans.update (fun loan => loan.id = loanId && condition loan) data hdata }

def matching (loanId : String) (condition : LoanApplication → Bool) : ℕ :=
  t.loans.count fun loan => loan.id = loanId && condition loan

end Tables

def LoanApplication.setStatus (status : LoanStatus) (loan : LoanApplication) : LoanApplication :=
  { loan with status := status }

def LoanApplication.setDeadline (deadline : ℤ) (loan : LoanApplication) : LoanApplication :=
  { loan with repaymentDeadline := some deadline }

def LoanApplication.setVoted (data : VotedUpdate) (loan : LoanApplication) : LoanApplication :=
  { loan with
    approveVotes := data.approveVotes
    rejectVotes := data.rejectVotes
    status := data.status
    onChainLoanId := data.disbursed.elim loan.onChainLoanId fun d => some d.1
    txHash := data.disbursed.elim loan.txHash fun d => d.2.1
    repaymentDeadline := data.disbursed.elim loan.repaymentDeadline fun d => some d.2.2 }

/-- The statuses in which an execution may claim a loan. -/
def executable (loan : LoanApplication) : Bool := loan.status = .pending ∨ loan.status = .approved

/-- A loan that an execution has claimed and that was not disbursed. -/
def unfunded (loan : LoanApplication) : Bool := loan.status = .executed ∧ loan.onChainLoanId = none

def bearsVoterId (voterId : String) (user : User) : Bool :=
  user.id = voterId ∨ user.username = some (withoutAt voterId) ∨ user.telegramId = some voterId ∨
  user.whatsappId = some voterId

/-- A request, carried out at once. -/
def carry (t : Tables) : (r : Request) → Answer r × Tables
  | .findPool id =>
    ((t.pools.find? id).map fun pool =>
      ⟨pool, t.members.filter (·.poolId = id), t.loans.rows.filter (·.poolId = id)⟩, t)
  | .findVoter voterId choice => (UnreliableStores.pick choice t.users (bearsVoterId voterId), t)
  | .createVote vote =>
    match t.votes.insert vote with
    | some votes => (true, { t with votes := votes })
    | none => (false, t)
  | .countVotes loanId approve => (t.countVotes loanId approve, t)
  | .deleteVotes loanId voterId => ((), t.deleteVotes loanId voterId)
  | .updateVoted loanId data =>
    if (t.loan? loanId).isSome then
      (true, { t.updateLoan loanId (fun _ => true) (·.setVoted data)
        (fun _ => rfl) with ruled := (loanId, data) :: t.ruled })
    else (false, t)
  | .decrementBalance poolId amount =>
    ((), { t with pools := t.pools.update (·.id = poolId) (·.payOut amount) (fun _ => rfl) })
  | .moveDeadline loanId deadline =>
    ((t.loan? loanId).isSome,
      t.updateLoan loanId (fun _ => true) (·.setDeadline deadline) (fun _ => rfl))
  | .executeExtension loanId deadline =>
    ((t.loan? loanId).isSome, t.updateLoan loanId (fun _ => true)
      (fun loan => (loan.setStatus .executed).setDeadline deadline)
      (fun _ => rfl))
  | .claimExecution loanId =>
    (t.matching loanId executable,
      t.updateLoan loanId executable (·.setStatus .executed) (fun _ => rfl))
  | .findLoan loanId => (t.loan? loanId, t)
  | .releaseExecution loanId =>
    (t.matching loanId unfunded, t.updateLoan loanId unfunded (·.setStatus .pending) (fun _ => rfl))
  | .closeWrittenOff loanId =>
    (t.matching loanId (·.status = .defaulted),
      t.updateLoan loanId (·.status = .defaulted) (·.setStatus .repaid) (fun _ => rfl))
  | .countExtensions poolId loanId =>
    (t.loans.count fun loan => loan.poolId = poolId ∧ loan.targetLoanId = some loanId ∧
      loan.isExtension, t)
  | .createLoan loan =>
    match t.loans.insert loan with
    | some loans => (true, { t with loans := loans })
    | none => (false, t)
  | .findActiveLoans =>
    (t.loans.rows.filter fun loan => loan.status = .executed ∧ loan.repaymentDeadline.isSome, t)
  | .markDefaulted loanId =>
    (t.matching loanId (·.status = .executed),
      t.updateLoan loanId (·.status = .executed) (·.setStatus .defaulted) (fun _ => rfl))
  | .now => (t.now, t)

namespace PoolsService

def DEFAULT_GRACE_DAYS : ℤ := 7
def MAX_EXTENSIONS_PER_LOAN : ℕ := 2
def dayMs : ℤ := 86400000

def findOne (id : String) : Service PoolView := do
  let view ← ask (.findPool id)
  checked (orError view (.notFound "Group pool not found"))

def findLoanOf (view : PoolView) (loanId : String) (e : Failure) : Service LoanApplication :=
  checked (orError (view.loans.find? (·.id = loanId)) e)

/-- What `voteOnLoan` on chain answers: an error, or the id of the loan if the vote disbursed it,
and the transaction. Any answer of `executeVaultCall` is admitted. -/
abbrev ChainVote := Except Failure (Option ℕ × Option String)

def voteOnLoanOnChain (pool : GroupPool) (loan : LoanApplication) (chain : ChainVote) :
    Service (Option ℕ × Option String) := do
  check (pool.onChainPoolId ≠ none) (.badRequest
    "This pool predates on-chain custody, so its loans cannot be voted on. Create a new pool.")
  check (loan.onChainRequestId ≠ none)
    (.badRequest "This loan request was never registered on-chain and cannot be funded.")
  checked chain

def eligibleMembers (members : List PoolMember) (borrowerId : String) : List PoolMember :=
  members.filter fun m => m.userId ≠ some borrowerId ∧ m.userIdentifier ≠ borrowerId

def votingThreshold (members : List PoolMember) (borrowerId : String) : ℕ :=
  max 1 (eligibleMembers members borrowerId).length / 2 + 1

def isVotingMember (voter : User) (voterId : String) (m : PoolMember) : Bool :=
  m.userId = some voter.id ∨ m.userIdentifier = voterId ∨
  (truthy voter.username).any fun name => m.userIdentifier = "@" ++ name

def votedStatus (onChainLoanId : Option ℕ) (approveVotes rejectVotes threshold : ℕ) : LoanStatus :=
  if onChainLoanId ≠ none then .executed
  else if threshold ≤ approveVotes then .approved
  else if threshold ≤ rejectVotes then .rejected
  else .pending

structure VoteResult where
  status : LoanStatus
  approveVotes : ℕ
  rejectVotes : ℕ
  threshold : ℕ
  txHash : Option String

/-- From the counts on: what the vote writes. -/
def recordVote (view : PoolView) (loan : LoanApplication) (approveVotes rejectVotes : ℕ)
    (outcome : Option ℕ × Option String) :
    Service VoteResult := do
  let threshold := votingThreshold view.members loan.borrowerId
  let status := votedStatus outcome.1 approveVotes rejectVotes threshold
  let disbursed ← outcome.1.elim (pure none) fun onChainLoanId => do
    let now ← ask .now
    pure (some (onChainLoanId, outcome.2, now + loan.durationDays * dayMs))
  let updated ← ask (.updateVoted loan.id ⟨approveVotes, rejectVotes, status, disbursed⟩)
  (if updated ∧ outcome.1 ≠ none then ask (.decrementBalance view.pool.id loan.amount) else pure ())
  pure ⟨status, approveVotes, rejectVotes, threshold, outcome.2⟩

def voteLoan (id loanId voterId : String) (approve : Bool) (choice : ℕ) (chain : ChainVote) :
    Service VoteResult := do
  let view ← findOne id
  let loan ← findLoanOf view loanId (.notFound "Loan request not found")
  check (loan.status = .pending) (.badRequest ("Loan request is already " ++ loan.status.name))
  let found ← ask (.findVoter voterId choice)
  let voter ← checked (orError (found.filter fun user => user.id ≠ "") (.badRequest
    "Could not identify you as a pool member. Open the app from your linked account and try again."))
  check (¬(loan.borrowerId = voter.id ∨ loan.borrowerId = voterId))
    (.badRequest ("The requester of the loan cannot approve " ++
    "or vote on their own loan request. Approval must come from other pool members."))
  check (view.members.any (isVotingMember voter voterId))
    (.forbidden "Only members of this pool can vote on loan requests")
  let created ← ask (.createVote ⟨loan.id, voter.id, approve, .approval⟩)
  check created (.badRequest "You have already voted on this loan request")
  let approveVotes ← ask (.countVotes loan.id true)
  let rejectVotes ← ask (.countVotes loan.id false)
  let outcome ← onFailure (voteOnLoanOnChain view.pool loan chain)
    (ask (.deleteVotes loan.id voter.id))
  recordVote view loan approveVotes rejectVotes outcome

structure ExecuteResult where
  txHash : Option String
  repaymentDeadline : Option ℤ

/-- The execution of an extension. -/
def executeExtension (view : PoolView) (loan : LoanApplication) (targetLoanId : String) :
    Service ExecuteResult := do
  let targetLoan := view.loans.find? (·.id = targetLoanId)
  let currentDeadline ← (targetLoan.bind LoanApplication.repaymentDeadline).elim (ask .now) pure
  let newDeadline := currentDeadline + loan.durationDays * dayMs
  let moved ← ask (.moveDeadline targetLoanId newDeadline)
  check moved (.error "Record to update not found.")
  let executed ← ask (.executeExtension loan.id newDeadline)
  check executed (.error "Record to update not found.")
  pure ⟨none, some newDeadline⟩

/-- The answer to the execution of a loan that no vote has disbursed. -/
def unfundedLoan : Failure :=
  .badRequest ("This loan has not been funded on-chain. It is disbursed " ++
  "automatically by the vote that meets the approval threshold — ask the remaining members to vote.")

/-- The execution of a loan that is no extension, which only reports what the chain has done. -/
def claimAndReport (loan : LoanApplication) : Service ExecuteResult := do
  let claimed ← ask (.claimExecution loan.id)
  if claimed ≠ 1 then do
    let current ← ask (.findLoan loan.id)
    let current ← checked
      (orError (current.filter fun current => current.status = .executed) (.badRequest
      "Loan must be APPROVED before execution"))
    pure ⟨current.txHash, current.repaymentDeadline⟩
  else if loan.onChainLoanId ≠ none then pure ⟨loan.txHash, loan.repaymentDeadline⟩
  else do
    let _ ← ask (.releaseExecution loan.id)
    checked (.error unfundedLoan)

def executeLoan (id loanId : String) : Service ExecuteResult := do
  let view ← findOne id
  let loan ← findLoanOf view loanId (.notFound "Loan request not found")
  if loan.status = .executed then pure ⟨loan.txHash, loan.repaymentDeadline⟩
  else do
    check (executable loan) (.badRequest "Loan must be APPROVED before execution")
    match (if loan.isExtension then truthy loan.targetLoanId else none) with
    | some targetLoanId => executeExtension view loan targetLoanId
    | none => claimAndReport loan

def extensionOf (newId id loanId borrowerId : String) (additionalDays : ℤ) : LoanApplication where
  id := newId
  poolId := id
  borrowerId := borrowerId
  amount := 0
  durationDays := additionalDays
  status := .pending
  approveVotes := 0
  rejectVotes := 0
  isExtension := true
  targetLoanId := some loanId
  onChainRequestId := none
  onChainLoanId := none
  txHash := none
  repaymentDeadline := none

def requestExtension (newId id loanId borrowerId : String) (additionalDays : ℤ) :
    Service LoanApplication := do
  let view ← findOne id
  let loan ← findLoanOf view loanId (.notFound "Loan not found")
  check (loan.borrowerId = borrowerId)
    (.forbidden "Only the borrower can request an extension on this loan")
  let priorExtensions ← ask (.countExtensions id loanId)
  check (priorExtensions < MAX_EXTENSIONS_PER_LOAN)
    (.badRequest ("This loan has already been extended " ++
    toString priorExtensions ++ " times. Repay it to borrow again."))
  -- a row that cannot be created is answered all the same
  let _ ← ask (.createLoan (extensionOf newId id loanId borrowerId additionalDays))
  pure (extensionOf newId id loanId borrowerId additionalDays)

def writeOffEligible (members : List PoolMember) (borrowerId : String) : List PoolMember :=
  members.filter fun m => (truthy m.userId).any (· ≠ borrowerId)

def writeOffThreshold (members : List PoolMember) (borrowerId : String) : ℕ :=
  max 1 (writeOffEligible members borrowerId).length / 2 + 1

structure WriteOffResult where
  status : LoanStatus
  writeOffVotes : ℕ
  threshold : ℕ
  writtenOff : Bool
  deriving DecidableEq

def writeOffLoan (id loanId voterId : String) : Service WriteOffResult := do
  let view ← findOne id
  let loan ← findLoanOf view loanId (.notFound "Loan not found")
  check (loan.status = .defaulted) (.badRequest "Only a defaulted loan can be written off.")
  check (loan.borrowerId ≠ voterId)
    (.forbidden "The borrower cannot vote to write off their own debt.")
  check (view.members.any fun m => m.userId = some voterId)
    (.forbidden "Only members of this pool can vote to write off a loan.")
  let threshold := writeOffThreshold view.members loan.borrowerId
  let created ← ask (.createVote ⟨loanId, voterId, true, .writeOff⟩)
  check created (.badRequest "You have already voted on this loan.")
  let writeOffVotes ← ask (.countVotes loanId true)
  if writeOffVotes < threshold then pure ⟨.defaulted, writeOffVotes, threshold, false⟩
  else do
    let closed ← ask (.closeWrittenOff loanId)
    if closed ≠ 1 then pure ⟨.defaulted, writeOffVotes, threshold, false⟩
    else pure ⟨.repaid, writeOffVotes, threshold, true⟩

/-- Whole days from now to the deadline, rounded up. -/
def daysLeft (deadline now : ℤ) : ℤ := -((now - deadline) / dayMs)

def markOverdue (now : ℤ) : List LoanApplication → Service Unit
  | [] => pure ()
  | loan :: loans => do
    (if loan.repaymentDeadline.any fun deadline => DEFAULT_GRACE_DAYS ≤ -daysLeft deadline now then
      do
      let _ ← ask (.markDefaulted loan.id)
      pure ()
    else pure ())
    markOverdue now loans

def handleLoanRepaymentReminders : Service Unit := do
  let loans ← ask .findActiveLoans
  let now ← ask .now
  markOverdue now loans

end PoolsService

/-- The entry points. -/
inductive Operation where
  | voteLoan (id loanId voterId : String) (approve : Bool) (choice : ℕ) (chain :
      PoolsService.ChainVote)
  | executeLoan (id loanId : String)
  | requestExtension (newId id loanId borrowerId : String) (additionalDays : ℤ)
  | writeOffLoan (id loanId voterId : String)
  | handleLoanRepaymentReminders

/-- The calls, as far as their callers learn whether they failed. -/
def Operation.call : Operation → Service Unit
  | voteLoan id loanId voterId approve choice chain =>
    silent (PoolsService.voteLoan id loanId voterId approve choice chain)
  | executeLoan id loanId => silent (PoolsService.executeLoan id loanId)
  | requestExtension newId id loanId borrowerId additionalDays =>
    silent (PoolsService.requestExtension newId id loanId borrowerId additionalDays)
  | writeOffLoan id loanId voterId => silent (PoolsService.writeOffLoan id loanId voterId)
  | handleLoanRepaymentReminders => PoolsService.handleLoanRepaymentReminders

def Operation.program (op : Operation) : Program Request Answer Unit := dropResult op.call

/-- The services side by side; time passes. -/
def poolServices : StoreService Tables Operation Request Answer where
  program := Operation.program
  carry _ _ := carry
  passes n t := { t with now := t.now + n }

end VeriAgentPay.Pools
