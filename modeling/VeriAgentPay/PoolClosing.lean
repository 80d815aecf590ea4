import VeriAgentPay.PoolServices
import VeriAgentPay.ProgramCustody

/-!
# Closing a pool

The creator closes a pool when no loan of it is open. Deposits and loan requests look at the pool
first and write later; invitations and joins do not look whether it is closed.
-/

namespace VeriAgentPay.PoolClosing
open InterleavedPrograms KeyedTables
open InterleavedPrograms.Fallible (checked check dropResult forEach ignoringFailure)
open Backend (Failure outage)
open Pools (LoanStatus LoanApplication)

section Tables

/-- The row of the pool. -/
structure GroupPool where
  creatorId : String
  poolBalance : ℚ
  onChainPoolId : Option ℕ
  closedAt : Option ℤ
  deriving DecidableEq

/-- A member of the pool. -/
structure PoolMember where
  userId : Option String
  userIdentifier : String
  depositedAmount : ℚ
  deriving DecidableEq

def PoolMember.isUser (memberId : String) (member : PoolMember) : Bool :=
  member.userId = some memberId ∨ member.userIdentifier = memberId

def PoolMember.deposit (memberId : String) (amount : ℚ) (member : PoolMember) : PoolMember :=
  { member with depositedAmount := member.depositedAmount + amount, userId := some memberId }

/-- What the contract has credited. -/
structure Deposit where
  memberId : String
  amount : ℚ
  deriving DecidableEq

structure Tables where
  pool : GroupPool
  members : Keyed PoolMember.userIdentifier
  loans : Keyed LoanApplication.id
  deposits : List Deposit

/-- The statuses of a loan that keep a pool open. -/
def unsettled : LoanStatus → Bool
  | .pending | .approved | .executed | .defaulted => true
  | .rejected | .repaid => false

/-- A loan that its borrower owes or asks for. -/
def owed (loan : LoanApplication) : Bool := loan.isExtension = false ∧ unsettled loan.status

/-- The last such loan of a borrower. -/
def Tables.outstanding (t : Tables) (borrowerId : String) : Option LoanApplication :=
  (t.loans.rows.filter fun loan => loan.borrowerId = borrowerId ∧ owed loan).getLast?

/-- What `findOne` reads. -/
structure PoolView where
  pool : GroupPool
  members : List PoolMember
  loans : List LoanApplication
  deriving DecidableEq

end Tables

section Requests

inductive Request where
  | findUnique
  | refreshBalance (balance : ℚ) (fate : Fate)
  /-- The deposit at the contract, by a call that has read the pool. -/
  | depositOnChain (pool : GroupPool) (deposit : Deposit) (fate : Fate)
  | incrementBalance (amount : ℚ) (fate : Fate)
  | updateMembers (memberId : String) (amount : ℚ) (fate : Fate)
  | findMember (userIdentifier userId : Option String)
  | createMember (member : PoolMember) (fate : Fate)
  | findOutstanding (borrowerId : String)
  /-- A loan is recorded, by a call that has read the pool and the outstanding loan of the
  borrower. -/
  | createLoan (pool : GroupPool) (outstanding : Option LoanApplication) (loan :
      LoanApplication) (fate : Fate)
  /-- The pool is closed, by a call that has read its loans. -/
  | close (loans : List LoanApplication) (closedAt : ℤ) (fate : Fate)

abbrev Answer : Request → Type
  | .findUnique => PoolView
  | .refreshBalance _ _ | .depositOnChain _ _ _ | .incrementBalance _ _ | .createMember _
      _ | .createLoan _ _ _ _ | .close _ _ _ =>
    Except Failure Unit
  | .updateMembers _ _ _ => Except Failure ℕ
  | .findMember _ _ => Option PoolMember
  | .findOutstanding _ => Option LoanApplication

abbrev Service (α : Type) := Fallible Failure Request Answer α

abbrev ask (r : Request) : Service (Answer r) := Fallible.ask r

def Tables.setBalance (t : Tables) (balance : ℚ) : Tables :=
  { t with pool := { t.pool with poolBalance := balance } }

def Tables.deposit (t : Tables) (deposit : Deposit) : Tables :=
  { t with deposits := deposit :: t.deposits }

def Tables.updateMembers (t : Tables) (memberId : String) (amount : ℚ) : Tables :=
  { t with
    members := t.members.update (PoolMember.isUser memberId) (PoolMember.deposit memberId amount)
      fun _ => rfl }

def Tables.close (t : Tables) (closedAt : ℤ) : Tables :=
  { t with pool := { t.pool with closedAt := some closedAt, poolBalance := 0 } }

def carry (t : Tables) : (r : Request) → Answer r × Tables
  | .findUnique => (⟨t.pool, t.members.rows, t.loans.rows.reverse⟩, t)
  | .refreshBalance balance fate =>
    (fate.told outage (), if fate.carried then t.setBalance balance else t)
  | .depositOnChain _ deposit fate =>
    (fate.told outage (), if fate.carried then t.deposit deposit else t)
  | .incrementBalance amount fate =>
    (fate.told outage (), if fate.carried then t.setBalance (t.pool.poolBalance + amount) else t)
  | .updateMembers memberId amount fate =>
    (fate.told outage (t.members.count (PoolMember.isUser memberId)), if fate.carried then
      t.updateMembers memberId amount else t)
  | .findMember userIdentifier userId =>
    (t.members.rows.find? fun member => userIdentifier = some member.userIdentifier ∨
      userId.isSome ∧ member.userId = userId, t)
  | .createMember member fate =>
    match t.members.insert member with
    | none => (.error outage, t)
    | some members =>
      (fate.told outage (), if fate.carried then { t with members := members } else t)
  | .findOutstanding borrowerId => (t.outstanding borrowerId, t)
  | .createLoan _ _ loan fate =>
    match t.loans.insert loan with
    | none => (.error outage, t)
    | some loans => (fate.told outage (), if fate.carried then { t with loans := loans } else t)
  | .close _ closedAt fate => (fate.told outage (), if fate.carried then t.close closedAt else t)

end Requests

section Services

/-- The balance at the contract, if it can be read, and how the write of it ends. -/
structure LiveBalance where
  balance : Option ℚ
  refresh : Fate

def refreshBalance (view : PoolView) (balance : ℚ) (refresh : Fate) : Service PoolView := do
  if 1 / 10000 < |view.pool.poolBalance - balance| then
    ignoringFailure do
      let refreshed ← ask (.refreshBalance balance refresh)
      checked refreshed
  pure { view with pool := { view.pool with poolBalance := balance } }

def findOne (live : LiveBalance) : Service PoolView := do
  let view ← ask .findUnique
  match view.pool.onChainPoolId.bind fun _ => live.balance with
  | none => pure view
  | some balance => refreshBalance view balance live.refresh

/-- What the outside answers to a deposit. -/
structure DepositTurns where
  live : LiveBalance
  hasWallet : Bool
  hasSessionKey : Bool
  /-- Whether the contract is configured, the token known and the allowance given. -/
  approved : Except Failure Unit
  deposit : Fate
  increment : Fate
  update : Fate
  userIdentifier : String
  create : Fate

/-- The signal that a session key is needed is kept. -/
def depositError : Failure → Failure
  | .forbidden message => .forbidden message
  | err => .badRequest ("Pool deposit failed: " ++ err.message)

def executeDeposit (pool : GroupPool) (deposit : Deposit) (turns : DepositTurns) : Service Unit :=
  tryCatchThe Failure
    (do
      checked turns.approved
      let deposited ← ask (.depositOnChain pool deposit turns.deposit)
      checked deposited)
    fun err => checked (.error (depositError err))

def addMember (member : PoolMember) (create : Fate) : Service Unit := do
  let created ← ask (.createMember member create)
  checked created

/-- A failure is logged. -/
def recordDeposit (deposit : Deposit) (turns : DepositTurns) : Service Unit :=
  ignoringFailure do
    let incremented ← ask (.incrementBalance deposit.amount turns.increment)
    checked incremented
    let updated ← ask (.updateMembers deposit.memberId deposit.amount turns.update)
    let count ← checked updated
    if count = 0 then
      addMember ⟨some deposit.memberId, turns.userIdentifier, deposit.amount⟩ turns.create
    else pure ()

def deposit (memberId : String) (amount : ℚ) (turns : DepositTurns) : Service Unit := do
  check (0 < amount) (.badRequest "Deposit amount must be > 0")
  let view ← findOne turns.live
  check (turns.hasWallet = true) (.badRequest "User wallet not found")
  check (turns.hasSessionKey = true)
    (.forbidden "Authorize an instant-payment session with your passkey before depositing to this pool.")
  check (view.pool.closedAt = none) (.badRequest "This pool has been closed.")
  check (view.pool.onChainPoolId ≠ none)
    (.badRequest ("This pool predates on-chain custody and can no longer accept deposits. " ++
      "Create a new pool — deposits here could not be withdrawn."))
  executeDeposit view.pool ⟨memberId, amount⟩ turns
  recordDeposit ⟨memberId, amount⟩ turns

/-- What the outside answers to a request for a loan. -/
structure LoanTurns where
  live : LiveBalance
  /-- How a number is written. -/
  text : ℚ → String
  /-- The symbol of the pool's token. -/
  token : String
  onChainRequestId : Except Failure ℕ
  poolId : String
  loanId : String
  create : Fate

/-- What a borrower is told who has an outstanding loan. -/
def outstandingWording (loan : LoanApplication) (turns : LoanTurns) : String :=
  (match loan.status with
  | .pending =>
    "You already have a " ++ turns.text loan.amount ++ " " ++ turns.token ++
      " request awaiting votes in this pool."
  | .approved =>
    "Your " ++ turns.text loan.amount ++ " " ++ turns.token ++
      " loan is approved and being disbursed."
  | _ => "You still owe " ++ turns.text loan.amount ++ " " ++ turns.token ++ " to this pool.") ++
    " Repay it before requesting another loan."

/-- A failure is not told. -/
def recordLoan (pool : GroupPool) (outstanding : Option LoanApplication) (loan : LoanApplication)
    (create : Fate) : Service Unit :=
  ignoringFailure do
    let created ← ask (.createLoan pool outstanding loan create)
    checked created

def requestLoan (borrowerId : String) (amount : ℚ) (durationDays : ℤ) (turns : LoanTurns) :
    Service Unit := do
  check (0 < amount) (.badRequest "Loan amount must be > 0")
  check (0 < durationDays) (.badRequest "Duration must be > 0")
  let view ← findOne turns.live
  check (amount ≤ view.pool.poolBalance) (.badRequest ("Loan amount ($" ++ turns.text amount ++
    ") exceeds current pool balance ($" ++ turns.text view.pool.poolBalance ++ ")"))
  check (view.pool.closedAt = none) (.badRequest "This pool has been closed.")
  let outstanding ← ask (.findOutstanding borrowerId)
  checked (outstanding.elim (.ok ())
    fun loan => .error (.badRequest (outstandingWording loan turns)))
  let onChainRequestId ← checked turns.onChainRequestId
  recordLoan view.pool outstanding
    { id := turns.loanId
      poolId := turns.poolId
      borrowerId := borrowerId
      amount := amount
      durationDays := durationDays
      status := .pending
      approveVotes := 0
      rejectVotes := 0
      isExtension := false
      targetLoanId := none
      onChainRequestId := some onChainRequestId
      onChainLoanId := none
      txHash := none
      repaymentDeadline := none } turns.create

/-- How the withdrawal of a member goes. -/
structure Withdrawal where
  hasWallet : Bool
  withdrawable : Except Failure ℚ
  hasSessionKey : Bool
  withdrawn : Bool

/-- The balance of a member stays in the pool. -/
def skipped (withdrawals : String → Withdrawal) (member : PoolMember) : Except Failure Bool :=
  let w := withdrawals member.userIdentifier
  if member.userId = none ∨ w.hasWallet = false then .ok true
  else w.withdrawable.map fun amount => amount ≠ 0 ∧ ¬(w.hasSessionKey ∧ w.withdrawn)

/-- What the outside answers while a pool is closed. -/
structure CloseTurns where
  live : LiveBalance
  configured : Except Failure Unit
  withdrawals : String → Withdrawal
  now : ℤ
  close : Fate

def openLoans (loans : List LoanApplication) (text : ℕ → String) : Except Failure Unit :=
  let unsettledLoans := loans.filter fun loan => unsettled loan.status
  let defaulted := unsettledLoans.filter fun loan => loan.status = .defaulted
  if unsettledLoans = [] then .ok ()
  else .error (.badRequest
    (if defaulted ≠ [] then
      text defaulted.length ++
        " loan(s) have defaulted. Members must vote to write them off before " ++
        "the pool can be closed — closing now would pay the defaulter a full share of what is left."
    else text unsettledLoans.length ++
      " loan(s) are still open. Settle them before closing the pool."))

def markClosed (loans : List LoanApplication) (turns : CloseTurns) : Service Unit := do
  let closed ← ask (.close loans turns.now turns.close)
  checked closed

def closePool (callerId : String) (turns : CloseTurns) : Service Unit := do
  let view ← findOne turns.live
  check (view.pool.creatorId = callerId) (.forbidden "Only the pool creator can close this pool.")
  check (view.pool.closedAt = none) (.badRequest "This pool is already closed.")
  check (view.pool.onChainPoolId ≠ none)
    (.badRequest "This pool predates on-chain custody. It holds no recoverable balance to return.")
  checked (openLoans view.loans toString)
  checked turns.configured
  let skips ← checked (view.members.mapM (skipped turns.withdrawals))
  if skips.any id then pure () else markClosed view.loans turns

/-- What the outside answers to an invitation. -/
structure InviteTurns where
  live : LiveBalance
  /-- The user that an identifier is resolved to. -/
  resolved : String → Option String
  create : String → Fate

def inviteMember (turns : InviteTurns) (identifier : String) : Service Unit := do
  let existing ← ask (.findMember (some identifier) (turns.resolved identifier))
  if existing = none then
    addMember ⟨turns.resolved identifier, identifier, 0⟩ (turns.create identifier) else pure ()

def inviteMembers (inviterId : String) (memberIdentifiers : List String) (turns : InviteTurns) :
    Service Unit := do
  check (memberIdentifiers ≠ []) (.badRequest "Member list cannot be empty")
  let view ← findOne turns.live
  check (view.pool.creatorId = inviterId) (.badRequest "Only the pool creator can invite members")
  forEach (inviteMember turns) memberIdentifiers

/-- What the outside answers to a user who joins. -/
structure JoinTurns where
  live : LiveBalance
  userIdentifier : String
  /-- The contract takes members of an unfunded pool only. -/
  addMemberOnChain : Except Failure Unit
  create : Fate

def joinPool (userId : String) (turns : JoinTurns) : Service Unit := do
  let _ ← findOne turns.live
  let existing ← ask (.findMember none (some userId))
  if existing = none then do
    checked turns.addMemberOnChain
    addMember ⟨some userId, turns.userIdentifier, 0⟩ turns.create
  else pure ()

inductive Operation where
  | deposit (memberId : String) (amount : ℚ) (turns : DepositTurns)
  | requestLoan (borrowerId : String) (amount : ℚ) (durationDays : ℤ) (turns : LoanTurns)
  | closePool (callerId : String) (turns : CloseTurns)
  | inviteMembers (inviterId : String) (memberIdentifiers : List String) (turns : InviteTurns)
  | joinPool (userId : String) (turns : JoinTurns)

def Operation.program : Operation → Program Request Answer Unit
  | deposit memberId amount turns => dropResult (PoolClosing.deposit memberId amount turns)
  | requestLoan borrowerId amount durationDays turns =>
    dropResult (PoolClosing.requestLoan borrowerId amount durationDays turns)
  | closePool callerId turns => dropResult (PoolClosing.closePool callerId turns)
  | inviteMembers inviterId memberIdentifiers turns =>
    dropResult (PoolClosing.inviteMembers inviterId memberIdentifiers turns)
  | joinPool userId turns => dropResult (PoolClosing.joinPool userId turns)

def poolService : StoreService Tables Operation Request Answer where
  program := Operation.program
  carry _ _ := carry
  passes _ t := t

end Services

section Closing

/-- Deposits, loans and the closing find what the call has read of the pool and of its loans, and
members are added to an open pool. -/
def poolAsRead : StoreService.Conditions Tables Operation Request where
  starts _ := True
  allows _ _ t
    | .depositOnChain pool _ fate => fate.carried → t.pool.closedAt = pool.closedAt
    | .createMember _ fate => fate.carried → t.pool.closedAt = none
    | .createLoan pool outstanding loan fate =>
      fate.carried → t.pool.closedAt = pool.closedAt ∧ t.outstanding loan.borrowerId = outstanding
    | .close loans _ fate =>
      fate.carried → ∀ loan ∈ t.loans.rows, unsettled loan.status → loan ∈ loans
    | _ => True
  passes _ _ := True

/-- A closed pool has no open loan, and nobody owes two. -/
structure Orderly (t : Tables) : Prop where
  settled : t.pool.closedAt ≠ none → ∀ loan ∈ t.loans.rows, unsettled loan.status = false
  single : ((t.loans.rows.filter owed).map LoanApplication.borrowerId).Nodup

/-- What a step leaves of a closed pool. -/
structure SameBooks (t t' : Tables) : Prop where
  closed : t'.pool.closedAt ≠ none
  loans : t'.loans.rows = t.loans.rows
  members : t'.members.rows.map PoolMember.userIdentifier =
    t.members.rows.map PoolMember.userIdentifier
  deposits : t'.deposits = t.deposits

def ClosedStays (t t' : Tables) : Prop := t.pool.closedAt ≠ none → SameBooks t t'

def poolCustody : Custody Tables Operation Request Answer Unit where
  service := poolService
  conditions := poolAsRead
  inv t _ := Orderly t
  grows := ClosedStays
  idle := ()

variable {t t' : Tables} {i : ℕ} {op : Operation} {fate : Fate}

theorem ClosedStays.refl (t : Tables) : ClosedStays t t := fun hclosed => ⟨hclosed, rfl, rfl, rfl⟩

theorem Orderly.of_same (hinv : Orderly t) (hpool : t'.pool.closedAt = t.pool.closedAt)
    (hloans : t'.loans.rows = t.loans.rows) :
    Orderly t' := by
  constructor
  · rw [hpool, hloans]
    exact hinv.settled
  · rw [hloans]
    exact hinv.single

/-- A step that closes nothing and adds nothing to a closed pool. -/
theorem closedStays_of (hpool : t'.pool.closedAt = t.pool.closedAt)
    (hbooks : t.pool.closedAt ≠ none → t'.loans.rows = t.loans.rows ∧ t'.deposits = t.deposits ∧
      t'.members.rows.map PoolMember.userIdentifier =
      t.members.rows.map PoolMember.userIdentifier) : ClosedStays t t' := by
  intro hclosed
  obtain ⟨hloans, hdeposits, hmembers⟩ := hbooks hclosed
  exact ⟨hpool ▸ hclosed, hloans, hmembers, hdeposits⟩

theorem setBalance_stays (balance : ℚ) : ClosedStays t (t.setBalance balance) :=
  closedStays_of rfl fun _ => ⟨rfl, rfl, rfl⟩

theorem updateMembers_stays (memberId : String) (amount : ℚ) :
    ClosedStays t (t.updateMembers memberId amount) := by
  refine closedStays_of rfl fun _ => ⟨rfl, rfl, ?_⟩
  show (t.members.rows.map fun member => if PoolMember.isUser memberId member then
      member.deposit memberId amount else member).map
    PoolMember.userIdentifier = _
  rw [List.map_map]
  apply List.map_congr_left
  intro member _
  show (if PoolMember.isUser memberId member then member.deposit memberId amount
      else member).userIdentifier = _
  split_ifs <;> rfl

/-- A loan of a borrower without an outstanding one. -/
theorem Orderly.createLoan (hinv : Orderly t) {loans : Keyed LoanApplication.id}
    {loan : LoanApplication} (hinsert : t.loans.insert loan = some loans)
    (hopen : t.pool.closedAt = none) (hnone : t.outstanding loan.borrowerId = none) :
    Orderly { t with loans := loans } := by
  constructor
  · exact fun hclosed => absurd hopen hclosed
  · show ((loans.rows.filter owed).map LoanApplication.borrowerId).Nodup
    rw [Keyed.rows_of_insert hinsert, List.filter_append, List.map_append, List.nodup_append]
    refine ⟨hinv.single, ?_, ?_⟩
    · exact ((List.filter_sublist (l := [loan])).map LoanApplication.borrowerId).nodup
        (List.nodup_singleton _)
    · rintro borrower hborrower _ hnew rfl
      obtain ⟨old, hold, hsame⟩ := List.mem_map.mp hborrower
      obtain ⟨new, hnew, hthis⟩ := List.mem_map.mp hnew
      obtain ⟨hold, howed⟩ := List.mem_filter.mp hold
      obtain rfl := List.mem_singleton.mp (List.mem_of_mem_filter hnew)
      -- The old loan would have been found.
      have hempty := List.getLast?_eq_none_iff.mp hnone
      have hmem : old ∈ t.loans.rows.filter fun l => l.borrowerId = new.borrowerId ∧ owed l :=
        List.mem_filter.mpr ⟨hold, decide_eq_true ⟨hsame.trans hthis.symm, howed⟩⟩
      rw [hempty] at hmem
      cases hmem

/-- A write that may fail keeps to the invariant if it does when it is carried out. -/
theorem heeds_write {r : Request} (fate : Fate) (write : Tables → Tables)
    (hcarry : ∀ t, (carry t r).2 = t ∨ fate.carried ∧ (carry t r).2 = write t)
    (hwrite : fate.carried → ∀ t, Orderly t → poolAsRead.allows i op t r → ClosedStays t (write t) ∧
      Orderly (write t)) :
    poolCustody.Heeds i op (ask r) () := by
  refine Custody.Keeps.ask (D := poolCustody) (r := r) (fun _ => Custody.stable_const True) ?_
  intro t H hinv _ _ hallows
  have hinv : Orderly t := hinv
  have hboth : ClosedStays t (carry t r).2 ∧ Orderly (carry t r).2 := by
    rcases hcarry t with hsame | ⟨hcarried, hsame⟩
    · rw [hsame]
      exact ⟨ClosedStays.refl t, hinv⟩
    · rw [hsame]
      exact hwrite hcarried t hinv hallows
  exact ⟨hboth.1, hboth.2, trivial⟩

theorem carry_or {α : Type} (p : Prop) [Decidable p] (x y : α) :
    (if p then x else y) = y ∨ p ∧ (if p then x else y) = x := by
  by_cases hp : p
  · exact .inr ⟨hp, if_pos hp⟩
  · exact .inl (if_neg hp)

theorem heeds_look {r : Request} (hsame : ∀ t, (carry t r).2 = t) :
    poolCustody.Heeds i op (ask r) () :=
  Custody.Heeds.look ClosedStays.refl hsame

theorem heeds_refreshBalance (view : PoolView) (balance : ℚ) :
    poolCustody.Heeds i op (refreshBalance view balance fate) () := by
  have hrefresh : poolCustody.Heeds i op (ask (.refreshBalance balance fate)) () :=
    heeds_write fate (·.setBalance balance) (fun _ => carry_or _ _ _)
      fun _ t hinv _ => ⟨setBalance_stays balance, hinv.of_same rfl rfl⟩
  unfold refreshBalance
  split_ifs
  · refine Custody.Heeds.andThen (Custody.Heeds.ignoringFailure ?_) fun _ => Custody.Heeds.pure
    exact Custody.Heeds.andThen hrefresh fun _ => Custody.Heeds.checked
  · exact Custody.Heeds.pure

theorem heeds_findOne (live : LiveBalance) : poolCustody.Heeds i op (findOne live) () := by
  apply Custody.Heeds.andThen (heeds_look fun _ => rfl)
  intro view
  cases view.pool.onChainPoolId.bind fun _ => live.balance with
  | none => exact Custody.Heeds.pure
  | some balance => exact heeds_refreshBalance view balance

theorem heeds_addMember (member : PoolMember) :
    poolCustody.Heeds i op (addMember member fate) () := by
  refine Custody.Heeds.andThen ?_ fun _ => Custody.Heeds.checked
  refine heeds_write fate (fun t => (carry t (.createMember member .answered)).2) ?_ ?_
  · intro t
    cases hinsert : t.members.insert member with
    | none => exact .inl (by simp [carry, hinsert])
    | some members =>
      simp only [carry, hinsert]
      exact carry_or _ _ _
  · intro hcarried t hinv hallows
    have hopen : t.pool.closedAt = none := hallows hcarried
    cases hinsert : t.members.insert member with
    | none =>
      simp only [carry, hinsert]
      exact ⟨ClosedStays.refl t, hinv⟩
    | some members =>
      simp only [carry, hinsert]
      exact ⟨fun hclosed => absurd hopen hclosed, hinv.of_same rfl rfl⟩

theorem heeds_executeDeposit {pool : GroupPool} (hopen : pool.closedAt = none) (deposit : Deposit)
    (turns : DepositTurns) :
    poolCustody.Heeds i op (executeDeposit pool deposit turns) () := by
  have hdeposit : poolCustody.Heeds i op (ask (.depositOnChain pool deposit turns.deposit)) () := by
    refine heeds_write turns.deposit (·.deposit deposit) (fun _ => carry_or _ _ _) ?_
    intro hcarried t hinv hallows
    have hsame : t.pool.closedAt = pool.closedAt := hallows hcarried
    exact ⟨fun hclosed => absurd (hsame.trans hopen) hclosed, hinv.of_same rfl rfl⟩
  refine Custody.Upholds.tryCatch (E := fun _ _ => True) ?_ fun err held => ?_
  · refine Custody.Upholds.checkedThen (fun _ _ _ _ => trivial) fun _ _ => ?_
    refine (Custody.Heeds.andThen hdeposit fun _ => Custody.Heeds.checked).weaken (fun _ hs => hs)
      (fun _ _ _ hs => hs) ?_
    exact fun _ _ _ => trivial
  · exact Custody.Upholds.checked (fun _ _ hok => nomatch hok) fun _ _ _ _ => ⟨rfl, trivial⟩

theorem heeds_recordDeposit (deposit : Deposit) (turns : DepositTurns) :
    poolCustody.Heeds i op (recordDeposit deposit turns) () := by
  have hincrement :
      poolCustody.Heeds i op (ask (.incrementBalance deposit.amount turns.increment)) () :=
    heeds_write turns.increment (fun t => t.setBalance (t.pool.poolBalance + deposit.amount))
      (fun _ => carry_or _ _ _)
      fun _ t hinv _ => ⟨setBalance_stays _, hinv.of_same rfl rfl⟩
  have hupdate : poolCustody.Heeds i op
      (ask (.updateMembers deposit.memberId deposit.amount turns.update)) () :=
    heeds_write turns.update (·.updateMembers deposit.memberId deposit.amount)
      (fun _ => carry_or _ _ _)
      fun _ t hinv _ => ⟨updateMembers_stays _ _, hinv.of_same rfl rfl⟩
  apply Custody.Heeds.ignoringFailure
  apply Custody.Heeds.andThen hincrement
  intro incremented
  apply Custody.Heeds.andThen Custody.Heeds.checked
  intro _
  apply Custody.Heeds.andThen hupdate
  intro updated
  apply Custody.Heeds.andThen Custody.Heeds.checked
  intro count
  split_ifs
  · exact heeds_addMember _
  · exact Custody.Heeds.pure

theorem heeds_deposit (memberId : String) (amount : ℚ) (turns : DepositTurns) :
    poolCustody.Heeds i op (deposit memberId amount turns) () := by
  unfold deposit
  apply Custody.Heeds.checkThen
  intro _
  apply Custody.Heeds.andThen (heeds_findOne _)
  intro view
  apply Custody.Heeds.checkThen
  intro _
  apply Custody.Heeds.checkThen
  intro _
  apply Custody.Heeds.checkThen
  intro hopen
  apply Custody.Heeds.checkThen
  intro _
  apply Custody.Heeds.andThen (heeds_executeDeposit hopen _ turns)
  intro _
  exact heeds_recordDeposit _ turns

theorem heeds_recordLoan {pool : GroupPool} (hopen : pool.closedAt = none)
    (loan : LoanApplication) :
    poolCustody.Heeds i op (recordLoan pool none loan fate) () := by
  apply Custody.Heeds.ignoringFailure
  refine Custody.Heeds.andThen ?_ fun _ => Custody.Heeds.checked
  refine heeds_write fate (fun t => (carry t (.createLoan pool none loan .answered)).2) ?_ ?_
  · intro t
    cases hinsert : t.loans.insert loan with
    | none => exact .inl (by simp [carry, hinsert])
    | some loans =>
      simp only [carry, hinsert]
      exact carry_or _ _ _
  · intro hcarried t hinv hallows
    obtain ⟨hsame, hnone⟩ := hallows hcarried
    cases hinsert : t.loans.insert loan with
    | none =>
      simp only [carry, hinsert]
      exact ⟨ClosedStays.refl t, hinv⟩
    | some loans =>
      simp only [carry, hinsert]
      exact ⟨fun hclosed => absurd (hsame.trans hopen) hclosed, hinv.createLoan hinsert
        (hsame.trans hopen) hnone⟩

theorem heeds_requestLoan (borrowerId : String) (amount : ℚ) (durationDays : ℤ)
    (turns : LoanTurns) :
    poolCustody.Heeds i op (requestLoan borrowerId amount durationDays turns) () := by
  unfold requestLoan
  apply Custody.Heeds.checkThen
  intro _
  apply Custody.Heeds.checkThen
  intro _
  apply Custody.Heeds.andThen (heeds_findOne _)
  intro view
  apply Custody.Heeds.checkThen
  intro _
  apply Custody.Heeds.checkThen
  intro hopen
  apply Custody.Heeds.andThen (heeds_look fun _ => rfl)
  intro outstanding
  refine Custody.Upholds.checkedThen (fun _ _ _ _ => ⟨rfl, trivial⟩) fun _ hnone => ?_
  apply Custody.Heeds.andThen Custody.Heeds.checked
  intro onChainRequestId
  cases outstanding with
  | none => exact heeds_recordLoan hopen _
  | some loan => cases hnone

/-- The loans that were read are settled. -/
theorem settled_of_openLoans {loans : List LoanApplication} {text : ℕ → String} {u : Unit}
    (hok : openLoans loans text = .ok u) : ∀ loan ∈ loans, unsettled loan.status = false := by
  unfold openLoans at hok
  dsimp only at hok
  split_ifs at hok with hnone
  intro loan hloan
  by_contra hunsettled
  have hmem : loan ∈ loans.filter fun loan => unsettled loan.status :=
    List.mem_filter.mpr ⟨hloan, Bool.eq_true_of_not_eq_false hunsettled⟩
  rw [hnone] at hmem
  cases hmem

theorem heeds_markClosed {loans : List LoanApplication}
    (hsettled : ∀ loan ∈ loans, unsettled loan.status = false) (turns : CloseTurns) :
    poolCustody.Heeds i op (markClosed loans turns) () := by
  refine Custody.Heeds.andThen ?_ fun _ => Custody.Heeds.checked
  refine heeds_write turns.close (·.close turns.now) (fun _ => carry_or _ _ _) ?_
  intro hcarried t hinv hallows
  refine ⟨fun _ => ⟨Option.some_ne_none _, rfl, rfl, rfl⟩, ?_, hinv.single⟩
  intro _ loan hloan
  by_contra hunsettled
  have hunsettled := Bool.eq_true_of_not_eq_false hunsettled
  have hread := hsettled loan (hallows hcarried loan hloan hunsettled)
  rw [hread] at hunsettled
  cases hunsettled

theorem heeds_closePool (callerId : String) (turns : CloseTurns) :
    poolCustody.Heeds i op (closePool callerId turns) () := by
  unfold closePool
  apply Custody.Heeds.andThen (heeds_findOne _)
  intro view
  apply Custody.Heeds.checkThen
  intro _
  apply Custody.Heeds.checkThen
  intro _
  apply Custody.Heeds.checkThen
  intro _
  refine Custody.Upholds.checkedThen (fun _ _ _ _ => ⟨rfl, trivial⟩) fun _ hloans => ?_
  apply Custody.Heeds.andThen Custody.Heeds.checked
  intro _
  apply Custody.Heeds.andThen Custody.Heeds.checked
  intro skips
  split_ifs
  · exact Custody.Heeds.pure
  · exact heeds_markClosed (settled_of_openLoans hloans) turns

theorem heeds_inviteMembers (inviterId : String) (memberIdentifiers : List String)
    (turns : InviteTurns) :
    poolCustody.Heeds i op (inviteMembers inviterId memberIdentifiers turns) () := by
  unfold inviteMembers
  apply Custody.Heeds.checkThen
  intro _
  apply Custody.Heeds.andThen (heeds_findOne _)
  intro view
  apply Custody.Heeds.checkThen
  intro _
  refine Custody.Keeps.forEach fun identifier _ => ?_
  apply Custody.Heeds.andThen (heeds_look fun _ => rfl)
  intro existing
  split_ifs
  · exact heeds_addMember _
  · exact Custody.Heeds.pure

theorem heeds_joinPool (userId : String) (turns : JoinTurns) :
    poolCustody.Heeds i op (joinPool userId turns) () := by
  unfold joinPool
  apply Custody.Heeds.andThen (heeds_findOne _)
  intro _
  apply Custody.Heeds.andThen (heeds_look fun _ => rfl)
  intro existing
  split_ifs
  · exact Custody.Heeds.andThen Custody.Heeds.checked fun _ => heeds_addMember _
  · exact Custody.Heeds.pure

theorem poolCustody_kept : poolCustody.Kept where
  refl := ClosedStays.refl
  programs i op _ := by
    cases op with
    | deposit memberId amount turns =>
      exact Custody.Heeds.plays (heeds_deposit memberId amount turns)
    | requestLoan borrowerId amount durationDays turns =>
      exact Custody.Heeds.plays (heeds_requestLoan borrowerId amount durationDays turns)
    | closePool callerId turns => exact Custody.Heeds.plays (heeds_closePool callerId turns)
    | inviteMembers inviterId memberIdentifiers turns =>
      exact Custody.Heeds.plays (heeds_inviteMembers inviterId memberIdentifiers turns)
    | joinPool userId turns => exact Custody.Heeds.plays (heeds_joinPool userId turns)
  passes _ t _ hinv _ := ⟨ClosedStays.refl t, hinv⟩

end Closing

section Runs

/-- A closed pool has no open loan and stays as it is, and nobody owes two loans. -/
structure ClosedIsQuiet (tr : Trace Tables Operation Request Answer)
    (c : Config Tables Operation Request Answer) : Prop where
  settled : c.state.pool.closedAt ≠ none →
    ∀ loan ∈ c.state.loans.rows, unsettled loan.status = false
  terminal : ∀ t ∈ tr, t.before.state.pool.closedAt ≠ none → SameBooks t.before.state t.after.state
  single : ((c.state.loans.rows.filter owed).map LoanApplication.borrowerId).Nodup

variable {start : Tables} {tr : Trace Tables Operation Request Answer}
  {c : Config Tables Operation Request Answer}

/-- Any calls on a pool in any interleaving, as long as what they have read still holds when they
write, and members are added to an open pool. -/
theorem closed_is_quiet (hopen : start.pool.closedAt = none)
    (hsingle : ((start.loans.rows.filter owed).map LoanApplication.borrowerId).Nodup)
    (hrun : poolService.Runs start tr c) (hmeets : ∀ t ∈ tr, StoreService.Meets poolAsRead t) :
    ClosedIsQuiet tr c := by
  have hstart : Orderly start := ⟨fun hclosed => absurd hopen hclosed, hsingle⟩
  obtain ⟨H, hfinish⟩ := poolCustody_kept.run hrun hmeets hstart
  have hfinish : Orderly c.state := hfinish
  exact ⟨hfinish.settled, poolCustody_kept.steps hrun hmeets hstart, hfinish.single⟩

end Runs

end VeriAgentPay.PoolClosing

namespace VeriAgentPay.Devnet
open InterleavedPrograms PoolClosing

def circleMember (userId : String) : PoolClosing.PoolMember := ⟨some userId, "@" ++ userId, 50⟩

/-- The pool of Ann, with Ben and Cem. -/
def circle : PoolClosing.Tables where
  pool := ⟨"ann", 150, some 3, none⟩
  members := ⟨[circleMember "ann", circleMember "ben", circleMember "cem"], by decide⟩
  loans := ⟨[], List.nodup_nil⟩
  deposits := []

def noLiveBalance : LiveBalance := ⟨none, .answered⟩

def circleLoan (loanId : String) : Pools.LoanApplication :=
  ⟨loanId, "pool", "ben", 20, 30, .pending, 0, 0, false, none, some 4, none, none, none⟩

def borrowFromCircle (i n : ℕ) (loanId : String) : List (Move PoolClosing.Operation) :=
  .start i (.requestLoan "ben" 20 30 ⟨noLiveBalance,
    fun _ => "", "USDC", .ok 4, "pool", loanId, .answered⟩) ::
    List.replicate n (.step i)

def closeCircle (i n : ℕ) : List (Move PoolClosing.Operation) :=
  .start i (.closePool "ann" ⟨noLiveBalance, .ok (),
    fun _ => ⟨true, .ok 50, true, true⟩, 1000, .answered⟩) ::
    List.replicate n (.step i)

def payIntoCircle (i n : ℕ) : List (Move PoolClosing.Operation) :=
  .start i (.deposit "ben" 10 ⟨noLiveBalance, true, true, .ok (), .answered, .answered, .answered,
    "@ben", .answered⟩) ::
    List.replicate n (.step i)

def joinCircle (i n : ℕ) : List (Move PoolClosing.Operation) :=
  .start i (.joinPool "dan" ⟨noLiveBalance, "dan", .ok (), .answered⟩) :: List.replicate n (.step i)

def inviteToCircle (i n : ℕ) : List (Move PoolClosing.Operation) :=
  .start i (.inviteMembers "ann" ["@dan"] ⟨noLiveBalance,
    fun _ => some "dan", fun _ => .answered⟩) ::
    List.replicate n (.step i)

/-- When the pool was closed, and its loans. -/
def circleAfter (schedule : List (Move PoolClosing.Operation)) :
    Option (Option ℤ × List Pools.LoanApplication) :=
  (poolService.moves StoreService.anything (Config.initial circle) schedule).map fun c =>
    (c.state.pool.closedAt, c.state.loans.rows)

def memberNames (t : PoolClosing.Tables) : List String :=
  t.members.rows.map PoolClosing.PoolMember.userIdentifier

/-- When the pool was closed before the last step of a call, and the deposits and the members before
and after it. -/
def lastOfCircle (i : ℕ) (schedule : List (Move PoolClosing.Operation)) :
    Option (Option ℤ × (List PoolClosing.Deposit × List String) × List PoolClosing.Deposit × List
      String) :=
  (poolService.moves StoreService.anything (Config.initial circle) schedule).bind fun c =>
    (poolService.move StoreService.anything c (.step i)).map fun c' =>
      (c.state.pool.closedAt, (c.state.deposits, memberNames c.state), c'.state.deposits,
        memberNames c'.state)

theorem circle_computed :
    circleAfter (borrowFromCircle 0 2 "l1" ++ closeCircle 1 2 ++ [.step 0]) = some (some 1000,
      [circleLoan "l1"]) ∧
      circleAfter (borrowFromCircle 0 2 "l1" ++ borrowFromCircle 1 3 "l2" ++ [.step 0]) =
        some (none, [circleLoan "l2", circleLoan "l1"]) ∧
      lastOfCircle 0 (payIntoCircle 0 1 ++ closeCircle 1 2) =
        some (some 1000, ([], ["@ann", "@ben", "@cem"]), [⟨"ben", 10⟩], ["@ann", "@ben", "@cem"]) ∧
      lastOfCircle 0 (closeCircle 1 2 ++ joinCircle 0 2) =
        some (some 1000, ([], ["@ann", "@ben", "@cem"]), [], ["@ann", "@ben", "@cem", "dan"]) ∧
      lastOfCircle 0 (closeCircle 1 2 ++ inviteToCircle 0 2) =
        some (some 1000, ([], ["@ann", "@ben", "@cem"]), [], ["@ann", "@ben", "@cem", "@dan"]) := by
  refine ⟨?_, ?_, ?_, ?_, ?_⟩ <;> decide +kernel

/-- A closed pool with a pending loan, one borrower with two loans, a deposit into a closed pool,
and two new members of a closed pool: one joins, one is invited. -/
theorem closed_is_not_quiet :
    (∃ tr c, poolService.Runs circle tr c ∧ c.state.pool.closedAt = some 1000 ∧
      ∃ loan ∈ c.state.loans.rows, loan.status = .pending) ∧
    (∃ tr c, poolService.Runs circle tr c ∧
      ¬((c.state.loans.rows.filter owed).map Pools.LoanApplication.borrowerId).Nodup) ∧
    (∃ tr c, poolService.Runs circle tr c ∧ ∃ t ∈ tr, t.before.state.pool.closedAt = some 1000 ∧
      t.before.state.deposits = [] ∧ t.after.state.deposits = [⟨"ben", 10⟩]) ∧
    ∀ name ∈ ["dan", "@dan"], ∃ tr c, poolService.Runs circle tr c ∧ ∃ t ∈ tr,
      t.before.state.pool.closedAt = some 1000 ∧
      name ∉ memberNames t.before.state ∧ name ∈ memberNames t.after.state := by
  obtain ⟨hpending, htwo, hdeposit, hjoin, hinvite⟩ := circle_computed
  refine ⟨?_, ?_, ?_, ?_⟩
  · obtain ⟨tr, c, hrun, -, -, hfacts⟩ := StoreService.runs_of_computed hpending
    simp only [Prod.mk.injEq] at hfacts
    obtain ⟨hclosed, hloans⟩ := hfacts
    refine ⟨tr, c, hrun, hclosed, circleLoan "l1", ?_, rfl⟩
    rw [hloans]
    exact List.mem_cons_self
  · obtain ⟨tr, c, hrun, -, -, hfacts⟩ := StoreService.runs_of_computed htwo
    simp only [Prod.mk.injEq] at hfacts
    refine ⟨tr, c, hrun, ?_⟩
    rw [hfacts.2]
    decide
  · obtain ⟨tr, c, e, c', hrun, -, hfacts⟩ := StoreService.runs_of_last hdeposit
    simp only [Prod.mk.injEq] at hfacts
    obtain ⟨hclosed, ⟨hbefore, -⟩, hafter, -⟩ := hfacts
    exact ⟨_, _, hrun, _, List.mem_append_right _ List.mem_cons_self, hclosed, hbefore, hafter⟩
  · have hnew : ∀ name ∈ ["dan", "@dan"], name ∉ ["@ann", "@ben", "@cem"] := by decide
    intro name hname
    have hlast : ∃ schedule, lastOfCircle 0 schedule =
        some (some 1000, ([], ["@ann", "@ben", "@cem"]), [], ["@ann", "@ben", "@cem", name]) := by
      rcases List.mem_cons.mp hname with rfl | hname
      · exact ⟨_, hjoin⟩
      · obtain rfl := List.mem_singleton.mp hname
        exact ⟨_, hinvite⟩
    obtain ⟨schedule, hlast⟩ := hlast
    obtain ⟨tr, c, e, c', hrun, -, hfacts⟩ := StoreService.runs_of_last hlast
    simp only [Prod.mk.injEq] at hfacts
    obtain ⟨hclosed, ⟨-, hbefore⟩, -, hafter⟩ := hfacts
    refine ⟨_, _, hrun, _, List.mem_append_right _ List.mem_cons_self, hclosed, ?_, ?_⟩
    · rw [hbefore]
      exact hnew name hname
    · rw [hafter]
      simp

instance : DecidablePred poolAsRead.starts := fun _ => inferInstanceAs (Decidable True)
instance (i : ℕ) (op : PoolClosing.Operation) (t : PoolClosing.Tables) (r : PoolClosing.Request) :
    Decidable (poolAsRead.allows i op t r) := by
  cases r with
  | depositOnChain pool deposit fate =>
    exact inferInstanceAs (Decidable (fate.carried → t.pool.closedAt = pool.closedAt))
  | createMember member fate =>
    exact inferInstanceAs (Decidable (fate.carried → t.pool.closedAt = none))
  | createLoan pool outstanding loan fate =>
    exact inferInstanceAs (Decidable (fate.carried → t.pool.closedAt = pool.closedAt ∧
      t.outstanding loan.borrowerId = outstanding))
  | close loans closedAt fate =>
    exact inferInstanceAs
      (Decidable (fate.carried → ∀ loan ∈ t.loans.rows, unsettled loan.status → loan ∈ loans))
  | _ => exact .isTrue trivial
instance (t t' : PoolClosing.Tables) : Decidable (poolAsRead.passes t t') := .isTrue trivial

/-- Dan joins, Ben pays in while Ann looks at the pool, and it is closed; then Ben asks for a
loan. -/
theorem circle_closed : (poolService.moves poolAsRead (Config.initial circle)
    (joinCircle 0 3 ++ closeCircle 1 1 ++ payIntoCircle 2 4 ++ [.step 1] ++
      borrowFromCircle 3 1 "l1")).map
      (fun c => (c.state.pool.closedAt, c.state.deposits)) = some (some 1000, [⟨"ben", 10⟩]) := by
  decide +kernel

theorem closed_is_quiet_devnet :
    ∃ tr c, poolService.Runs circle tr c ∧ ClosedIsQuiet tr c ∧ c.state.pool.closedAt = some 1000 ∧
    c.state.deposits = [⟨"ben", 10⟩] := by
  obtain ⟨tr, c, hrun, hmeets, -, hfacts⟩ := StoreService.runs_of_computed circle_closed
  simp only [Prod.mk.injEq] at hfacts
  have hsingle : ((circle.loans.rows.filter owed).map Pools.LoanApplication.borrowerId).Nodup :=
    List.nodup_nil
  exact ⟨tr, c, hrun, closed_is_quiet rfl hsingle hrun hmeets, hfacts⟩

end VeriAgentPay.Devnet
