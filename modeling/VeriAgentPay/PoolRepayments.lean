import VeriAgentPay.LabelledRuns
import VeriAgentPay.PoolServices
import VeriAgentPay.RoundedNumbers
import VeriAgentPay.SessionActions

/-!
# Repayments of loans

A repayment is to go through the lending contract, which knows what is outstanding. A settlement
marks the loan as repaid before the payment and takes that back when the payment fails, which it
always does, since the relayer refuses the approval that comes first.
-/

namespace VeriAgentPay.Pools
open LabelledRuns RoundedNumbers SessionActions
open Backend (Failure)

section Figures

/-- `Math.round(x * 100) / 100`. -/
def cents (x : ℚ) : ℚ := double (mathRound (double (x * 100)) / 100)

/-- The text of an amount of cents. -/
def centsText (x : ℚ) : String :=
  let c := (mathRound (x * 100)).toNat
  toString (c / 100) ++
    (if c % 100 = 0 then "" else if c % 10 = 0 then "." ++ toString (c % 100 / 10)
      else "." ++ toString (c % 100 / 10) ++ toString (c % 10))

/-- `parseUnits(amount.toString(), decimals)`, for an amount as it is written: the decimals have to
fit, and the text has no exponent. -/
def parseUnits (amount : ℚ) (decimals : ℕ) : Option ℕ :=
  if 1 / 10 ^ 6 ≤ amount ∧ amount < 10 ^ 21 ∧ (amount * 10 ^ decimals).den = 1 then
    some (amount * 10 ^ decimals).num.toNat
  else none

/-- `parseUnits(x.toFixed(decimals), decimals)`. -/
def fixedUnits (x : ℚ) (decimals : ℕ) : ℕ := (mathRound (x * 10 ^ decimals)).toNat

/-- Simple interest on a principal, for the days that have passed. Times are in milliseconds. -/
def accruedInterest (principal : ℚ) (interestRateBps durationDays : ℤ) (disbursedAt : Option ℤ)
    (now : ℤ) : ℚ :=
  if principal = 0 ∨ interestRateBps ≤ 0 then 0
  else
    let elapsedDays : ℚ :=
      disbursedAt.elim (durationDays : ℚ) fun t => max 0 (double (((now - t : ℤ) : ℚ) / 86400000))
    let chargeableDays := min elapsedDays durationDays
    let rate := double (interestRateBps / 10000)
    cents (double (double (double (principal * rate) * chargeableDays) / 365))

/-- Half a cent that is a little less than that. -/
example : accruedInterest 9 365 50 none 0 = double (4 / 100) := by decide +kernel

end Figures

section Books

/-- The row of a loan, as far as its repayment uses it. -/
structure LoanRow where
  borrowerId : String
  amount : ℚ
  durationDays : ℤ
  status : LoanStatus
  onChainLoanId : Option ℕ
  repaymentDeadline : Option ℤ
  updatedAt : ℤ
  deriving DecidableEq

def LoanRow.setStatus (status : LoanStatus) (now : ℤ) (loan : LoanRow) : LoanRow :=
  { loan with status := status, updatedAt := now }

structure PoolRow where
  token : String
  decimals : ℕ
  interestRateBps : ℤ
  poolBalance : ℚ
  deriving DecidableEq

/-- What `poolLoans` answers. Amounts are in base units and the deadline in seconds. -/
structure OnChainLoan where
  principal : ℕ
  amountRepaid : ℕ
  repaymentDeadline : ℤ
  lateFeeCharged : Bool
  deriving DecidableEq

/-- The contract that holds the pool, as far as one loan goes. -/
structure LendingContract (χ : Type) where
  loan : χ → OnChainLoan
  lateFeeBps : χ → ℕ
  outstanding : χ → ℕ
  /-- The contract after a repayment at a time in milliseconds, or nothing if it reverts. -/
  repayLoan : ℤ → ℕ → χ → Option χ

variable {χ : Type} (C : LendingContract χ)

/-- The late fee, which is due once, five days after the deadline. -/
def LendingContract.lateFee (now : ℤ) (chain : χ) : ℕ :=
  let loan := C.loan chain
  let isLate := loan.repaymentDeadline + 5 * 24 * 60 * 60 < now / 1000
  if isLate ∧ ¬loan.lateFeeCharged then
    (loan.principal - loan.amountRepaid) * C.lateFeeBps chain / 10000
  else 0

/-- The loan and its pool in the database, and on chain. -/
structure Book (χ : Type) where
  loan : LoanRow
  pool : PoolRow
  chain : χ

/-- A call of `repayLoan`: the arguments, the times at which it reads the clock, what the outside
answers, and which of its last statements are carried out. -/
structure Repayment where
  borrowerId : String
  amount : ℚ
  askedAt : ℤ
  startedAt : ℤ
  quotedAt : ℤ
  pricedAt : ℤ
  minedAt : ℤ
  supportsInstalments : Bool
  /-- The address of the contract and the token. -/
  configured : Except Failure Unit
  /-- The borrower's wallet and session key. -/
  authorized : Except Failure Unit
  readable : Bool
  released : Bool
  recorded : Bool

structure RepayResult where
  status : LoanStatus
  repaidAmount : ℚ
  isOnTime : Bool
  pointsEarned : ℕ
  txHash : String

end Books

namespace PoolsService

variable {χ : Type} (C : LendingContract χ) (r : Repayment) (s : Book χ)

def interestOwed (s : Book χ) (now : ℤ) : ℚ :=
  accruedInterest s.loan.amount s.pool.interestRateBps s.loan.durationDays (some s.loan.updatedAt)
    now

/-- `loanRepaymentBreakdown(pool, loan).total`. -/
def totalOwed (s : Book χ) (now : ℤ) : ℚ := cents (double (s.loan.amount + interestOwed s now))

/-- `amount >= total - 0.000001`. -/
def settles (amount total : ℚ) : Bool := double (total - double (1 / 10 ^ 6)) ≤ double amount

def isSettlement : Bool := settles r.amount (totalOwed s r.askedAt)

def notRepayable (status : LoanStatus) : Failure :=
  .badRequest (if status = .repaid then "This loan has already been repaid."
    else "Loan cannot be repaid while it is " ++ status.name ++ ".")

/-- The checks before the payment. A settlement claims the loan. -/
def admitRepayment : Except Failure LoanRow :=
  if s.loan.borrowerId ≠ r.borrowerId then
    .error (.forbidden "Only the borrower can repay this loan")
  else if r.amount ≤ 0 then .error (.badRequest "Repayment amount must be greater than zero.")
  else if isSettlement r s then
    if s.loan.status ≠ .executed then .error (notRepayable s.loan.status)
    else .ok (s.loan.setStatus .repaid r.askedAt)
  else if ¬r.supportsInstalments then
    .error (.badRequest ("This pool's contract requires the full amount in one payment. " ++
      "Repay " ++ centsText (totalOwed s r.askedAt) ++ " " ++ s.pool.token ++
      " to settle the loan."))
  else if s.loan.status ≠ .executed then .error (notRepayable s.loan.status)
  else .ok s.loan

/-- What the contract asks for; the amount itself where it cannot be read. -/
def requiredRepaymentWei : Except Failure ℕ :=
  match parseUnits r.amount s.pool.decimals with
  | none => .error (.error "invalid FixedNumber string value")
  | some fallback =>
    .ok (if r.readable then
        (C.loan s.chain).principal - (C.loan s.chain).amountRepaid + C.lateFee r.quotedAt s.chain
      else fallback)

/-- What is to be paid: everything owed, or the instalment. -/
def requiredPayment : Except Failure ℕ := do
  r.configured
  if s.loan.onChainLoanId = none then
    throw (.error "This loan was never funded on-chain and cannot be repaid here.")
  r.authorized
  let contractMinimum ← requiredRepaymentWei C r s
  let interestWei := fixedUnits (interestOwed s r.pricedAt) s.pool.decimals
  pure (if isSettlement r s then contractMinimum + interestWei
    else fixedUnits (double r.amount) s.pool.decimals)

/-- A transaction of a vault, once its payload is built. -/
def executeVaultCall : Except Failure String := do
  let result ← executeLocalSessionAction
  result.settled (.badRequest (result.message.getD "Vault call failed on-chain."))

/-- The payment through the contract: how it ends, the contract afterwards, and what it took. -/
def payOnChain : Except Failure String × χ × ℕ :=
  match requiredPayment C r s with
  | .error e => (.error e, s.chain, 0)
  | .ok required =>
    -- The approval of the token.
    match executeVaultCall with
    | .error e => (.error e, s.chain, 0)
    | .ok _ =>
      match executeVaultCall with
      | .error e => (.error e, s.chain, 0)
      | .ok txHash =>
        match C.repayLoan r.minedAt required s.chain with
        | none => (.error (.badRequest "Vault call reverted on-chain."), s.chain, 0)
        | some chain => (.ok txHash, chain, required)

def isOnTime : Bool := r.startedAt ≤ s.loan.repaymentDeadline.getD (r.startedAt + 864000000)

/-- "Nothing moved, so the debt still stands": the claim is released, if one was taken. A failure of
the statement is ignored. -/
def releaseClaim (claimed : LoanRow) : LoanRow :=
  if isSettlement r s ∧ r.released then claimed.setStatus .executed r.minedAt else claimed

/-- The database after a payment that has gone through. -/
def recordRepayment (claimed : LoanRow) (chain : χ) : Book χ :=
  if r.recorded then
    { s with
      loan := if isSettlement r s then claimed.setStatus .repaid r.minedAt else claimed
      pool := { s.pool with poolBalance := double (s.pool.poolBalance + double r.amount) }
      chain := chain }
  else { s with loan := claimed, chain := chain }

/-- The call: its result, the book afterwards, and what the contract took. -/
def repayLoan : Except Failure RepayResult × Book χ × ℕ :=
  match admitRepayment r s with
  | .error e => (.error e, s, 0)
  | .ok claimed =>
    match payOnChain C r s with
    | (.error e, chain, paid) =>
      (.error (.badRequest ("Loan repayment failed: " ++ e.message)),
        { s with loan := releaseClaim r s claimed, chain := chain }, paid)
    | (.ok txHash, chain, paid) =>
      (.ok ⟨.repaid, r.amount, isOnTime r s, if isOnTime r s then 10 else 0, txHash⟩,
        recordRepayment r s claimed chain, paid)

end PoolsService

section Sequences

open PoolsService

variable {χ : Type} (C : LendingContract χ)

/-- What happens to the book: its balance is read from the chain, or a repayment is made. -/
inductive BookEvent where
  | refresh (live : ℚ)
  | repay (r : Repayment)

def BookEvent.apply : BookEvent → Book χ → Book χ
  | refresh live, s =>
    if 1 / 10 ^ 4 < |s.pool.poolBalance - live| then
      { s with pool := { s.pool with poolBalance := live } }
    else s
  | repay r, s => (repayLoan C r s).2.1

def BookStep (s : Book χ) (e : BookEvent) (s' : Book χ) : Prop := s' = e.apply C s

/-- The contract has nothing outstanding exactly for a loan that is repaid. -/
def InStep (s : Book χ) : Prop := C.outstanding s.chain = 0 ↔ s.loan.status = .repaid

/-- The repayment is let through as a settlement. -/
def SettlementClaimed (r : Repayment) (s : Book χ) : Prop :=
  (admitRepayment r s).isOk ∧ isSettlement r s

variable {C} {r : Repayment} {s : Book χ}

theorem admitRepayment_eq_ok {claimed : LoanRow} (h : admitRepayment r s = .ok claimed) :
    s.loan.status = .executed ∧
      claimed = if isSettlement r s then s.loan.setStatus .repaid r.askedAt else s.loan := by
  unfold admitRepayment at h
  split_ifs at h with _ _ hsettles
  · exact ⟨not_not.mp ‹_›, by rw [if_pos hsettles]; exact (Except.ok.inj h).symm⟩
  · exact ⟨not_not.mp ‹_›, by rw [if_neg hsettles]; exact (Except.ok.inj h).symm⟩

/-- No payment comes to the contract. -/
theorem payOnChain_fails (C : LendingContract χ) (r : Repayment) (s : Book χ) :
    ∃ e, payOnChain C r s = (.error e, s.chain, 0) := by
  unfold payOnChain
  cases requiredPayment C r s with
  | error e => exact ⟨e, rfl⟩
  | ok required => exact ⟨_, rfl⟩

/-- What a repayment leaves: the contract and the pool as they were, and of the loan a claim that
was not released. -/
theorem repayLoan_eq (C : LendingContract χ) (r : Repayment) (s : Book χ) :
    (repayLoan C r s).2 = (s, 0) ∨ ∃ claimed, admitRepayment r s = .ok claimed ∧
      (repayLoan C r s).2 = ({ s with loan := releaseClaim r s claimed }, 0) := by
  unfold repayLoan
  cases hadmission : admitRepayment r s with
  | error e => exact .inl rfl
  | ok claimed =>
    obtain ⟨e, hpaid⟩ := payOnChain_fails C r s
    rw [hpaid]
    exact .inr ⟨claimed, rfl, rfl⟩

/-- The status after a repayment. -/
theorem repayLoan_status (C : LendingContract χ) (r : Repayment) (s : Book χ) :
    (SettlementClaimed r s ∧ r.released = false ∧ (repayLoan C r s).2.1.loan.status = .repaid) ∨
      (SettlementClaimed r s → r.released) ∧ (repayLoan C r s).2.1.loan.status = s.loan.status := by
  unfold repayLoan SettlementClaimed
  cases hadmission : admitRepayment r s with
  | error e => exact .inr ⟨fun hclaims => absurd hclaims.1 Bool.false_ne_true, rfl⟩
  | ok claimed =>
    obtain ⟨hexecuted, hclaimed⟩ := admitRepayment_eq_ok hadmission
    obtain ⟨e, hpaid⟩ := payOnChain_fails C r s
    rw [hpaid]
    dsimp only
    unfold releaseClaim
    by_cases hsettles : isSettlement r s
    · rw [if_pos hsettles] at hclaimed
      cases hreleased : r.released with
      | false =>
        refine .inl ⟨⟨rfl, hsettles⟩, rfl, ?_⟩
        rw [if_neg (by simp), hclaimed]
        rfl
      | true =>
        refine .inr ⟨fun _ => rfl, ?_⟩
        rw [if_pos ⟨hsettles, rfl⟩, hexecuted]
        rfl
    · rw [if_neg hsettles] at hclaimed
      refine .inr ⟨fun hclaims => absurd hclaims.2 hsettles, ?_⟩
      rw [if_neg fun hboth => hsettles hboth.1, hclaimed]

theorem repayLoan_chain (C : LendingContract χ) (r : Repayment) (s : Book χ) :
    (repayLoan C r s).2.1.chain = s.chain ∧ (repayLoan C r s).2.1.pool = s.pool ∧
      (repayLoan C r s).2.2 = 0 := by
  rcases repayLoan_eq C r s with hsame | ⟨claimed, -, hleft⟩
  · rw [hsame]
    exact ⟨rfl, rfl, rfl⟩
  · rw [hleft]
    exact ⟨rfl, rfl, rfl⟩

/-- A repayment of a loan with something outstanding. -/
theorem inStep_repayLoan (hopen : C.outstanding s.chain ≠ 0) (hs : InStep C s) :
    InStep C (repayLoan C r s).2.1 ↔ (SettlementClaimed r s → r.released) := by
  have hunpaid : s.loan.status ≠ .repaid := fun hrepaid => hopen (hs.mpr hrepaid)
  have hchain := (repayLoan_chain C r s).1
  rcases repayLoan_status C r s with ⟨hclaims, hkept, hrepaid⟩ | ⟨hreleased, hsame⟩
  · refine iff_of_false (fun hafter => hopen ?_) fun hreleased => ?_
    · rw [← hchain]
      exact hafter.mpr hrepaid
    · rw [hreleased hclaims] at hkept
      cases hkept
  · refine iff_of_true ?_ hreleased
    unfold InStep
    rw [hchain, hsame]
    exact iff_of_false hopen hunpaid

/-- Reading the balance does not touch the loan. -/
theorem inStep_refresh (live : ℚ) (hs : InStep C s) :
    InStep C ((BookEvent.refresh live).apply C s) := by
  unfold BookEvent.apply
  dsimp only
  split_ifs
  · exact hs
  · exact hs

theorem chain_apply (e : BookEvent) (s : Book χ) : (e.apply C s).chain = s.chain := by
  cases e with
  | refresh live =>
    unfold BookEvent.apply
    dsimp only
    split_ifs
    · rfl
    · rfl
  | repay r => exact (repayLoan_chain C r s).1

/-- Every sequence of repayments of an open loan, with the balance read from the chain in between.
The loan is repaid exactly when the contract has nothing outstanding, as long as (and only as long
as) every claim of a settlement is released; and the balance grows by what is paid. -/
theorem repayments_follow_contract {start finish : Book χ}
    {tr : List (Transition (Book χ) BookEvent)} (hrun : Run (BookStep C) start tr finish)
    (hexecuted : start.loan.status = .executed) (hopen : 0 < C.outstanding start.chain) :
    ((∀ t ∈ tr, InStep C t.after) ↔
      ∀ t ∈ tr, ∀ r, t.event = .repay r → SettlementClaimed r t.before → r.released) ∧
    ∀ t ∈ tr, ∀ r, t.event = .repay r → t.after.pool.poolBalance =
      t.before.pool.poolBalance + (repayLoan C r t.before).2.2 / 10 ^ t.before.pool.decimals := by
  have hchain : ∀ t ∈ tr, C.outstanding t.before.chain ≠ 0 := by
    intro t ht
    have hsame : t.before.chain = start.chain :=
      hrun.invariant_before (I := fun s => s.chain = start.chain) rfl
        (fun s e s' hs hstep => by rw [hstep, chain_apply, hs]) ht
    rw [hsame]
    exact hopen.ne'
  have hstart : InStep C start := iff_of_false hopen.ne' (by rw [hexecuted]; exact nofun)
  refine ⟨⟨fun hall t ht r hevent => ?_, fun hreleased => ?_⟩, ?_⟩
  · have hkept : Run (fun _ _ s' => InStep C s') start tr finish :=
      hrun.strengthen fun t ht _ => hall t ht
    have hbefore := hkept.invariant_before hstart (fun _ _ _ _ hafter => hafter) ht
    have hafter := hall t ht
    rw [hrun.step_of_mem ht, hevent] at hafter
    exact (inStep_repayLoan (hchain t ht) hbefore).mp hafter
  · let Released (s : Book χ) (e : BookEvent) (s' : Book χ) : Prop :=
      BookStep C s e s' ∧ C.outstanding s.chain ≠ 0 ∧
      ∀ r, e = .repay r → SettlementClaimed r s → r.released
    have hrun' : Run Released start tr finish :=
      hrun.strengthen fun t ht hstep => ⟨hstep, hchain t ht, hreleased t ht⟩
    have hstep : ∀ s e s', InStep C s → Released s e s' → InStep C s' := by
      rintro s e s' hs ⟨rfl, hnonzero, hclaims⟩
      cases e with
      | refresh live => exact inStep_refresh live hs
      | repay r => exact (inStep_repayLoan hnonzero hs).mpr (hclaims r rfl)
    intro t ht
    exact hstep _ _ _ (hrun'.invariant_before hstart hstep ht) (hrun'.step_of_mem ht)
  · intro t ht r hevent
    obtain ⟨-, hpool, hpaid⟩ := repayLoan_chain C r t.before
    have hafter : t.after = (repayLoan C r t.before).2.1 := by
      have happly : t.after = t.event.apply C t.before := hrun.step_of_mem ht
      rwa [hevent] at happly
    rw [hafter, hpool, hpaid]
    simp

end Sequences

end VeriAgentPay.Pools

namespace VeriAgentPay.Devnet
open LabelledRuns Pools PoolsService

/-! A lending contract with a late fee of three percent. -/

def lateFeeOf (now : ℤ) (loan : OnChainLoan) : ℕ :=
  if loan.repaymentDeadline + 5 * 24 * 60 * 60 < now / 1000 ∧ ¬loan.lateFeeCharged then
    (loan.principal - loan.amountRepaid) * 300 / 10000
  else 0

def lender : LendingContract OnChainLoan where
  loan := id
  lateFeeBps _ := 300
  outstanding loan := loan.principal - loan.amountRepaid
  repayLoan now amount loan :=
    if amount = 0 ∨ amount < lateFeeOf now loan ∨ loan.principal ≤ loan.amountRepaid then none
    else some
      { loan with
        amountRepaid :=
          min loan.principal (loan.amountRepaid + (amount - lateFeeOf now loan))
        lateFeeCharged := loan.lateFeeCharged ∨ 0 < lateFeeOf now loan }

/-- A loan of 100 at ten percent. -/
def borrowed : Book OnChainLoan where
  loan := ⟨"alice", 100, 30, .executed, some 7, some 1750100000000, 1747500000000⟩
  pool := ⟨"USDC", 6, 1000, 350⟩
  chain := ⟨100000000, 0, 1750100000, false⟩

def paying (amount : ℚ) (released : Bool) : Repayment :=
  ⟨"alice", amount, 1748000000000, 1748000000100, 1748000000200, 1748000000300, 1748000005000, true,
    .ok (), .ok (), true, released, true⟩

/-- The book after a payment. -/
def afterPaying (amount : ℚ) (released : Bool) : Book OnChainLoan :=
  (repayLoan lender (paying amount released) borrowed).2.1

def paid (amount : ℚ) (released : Bool) : Transition (Book OnChainLoan) BookEvent :=
  ⟨borrowed, .repay (paying amount released), afterPaying amount released⟩

theorem run_payment (amount : ℚ) (released : Bool) : Run (BookStep lender) borrowed
    [paid amount released] (afterPaying amount released) := Run.nil.snoc rfl

/-- Alice settles her loan, nothing is paid, and the statement that is to release her claim fails:
the loan is repaid with all of it outstanding. -/
theorem repayments_out_of_step :
    Run (BookStep lender) borrowed [paid 101 false] (afterPaying 101 false) ∧
      (afterPaying 101 false).loan.status = .repaid ∧
      lender.outstanding (afterPaying 101 false).chain = 100000000 ∧
      ¬InStep lender (afterPaying 101 false) := by
  refine ⟨run_payment 101 false, by decide +kernel, by decide +kernel, fun hstep => ?_⟩
  have hzero := hstep.mpr (by decide +kernel)
  exact absurd hzero (by decide +kernel)

/-- An instalment and a settlement whose claim is released. -/
theorem repayments_follow_contract_devnet :
    InStep lender (afterPaying 40 false) ∧ InStep lender (afterPaying 101 true) ∧
      (afterPaying 101 true).pool.poolBalance = 350 +
        (repayLoan lender (paying 101 true) borrowed).2.2 / 10 ^ 6 := by
  have hfollows := fun amount released =>
    repayments_follow_contract (run_payment amount released) rfl
      (by decide : 0 < lender.outstanding borrowed.chain)
  have hinstalment : ¬isSettlement (paying 40 false) borrowed := by decide +kernel
  refine ⟨(hfollows 40 false).1.mpr ?_ _ List.mem_cons_self,
    (hfollows 101 true).1.mpr ?_ _ List.mem_cons_self,
    (hfollows 101 true).2 _ List.mem_cons_self _ rfl⟩
  · intro t ht r hevent hclaims
    obtain rfl := List.mem_singleton.mp ht
    obtain rfl := BookEvent.repay.inj hevent
    exact absurd hclaims.2 hinstalment
  · intro t ht r hevent _
    obtain rfl := List.mem_singleton.mp ht
    obtain rfl := BookEvent.repay.inj hevent
    rfl

end VeriAgentPay.Devnet
