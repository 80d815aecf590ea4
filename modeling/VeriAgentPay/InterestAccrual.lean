import Mathlib.Tactic.GCongr
import VeriAgentPay.LoanInterest

/-!
# Interest since disbursement

As long as no statement leaves the row of a disbursed loan open, every charge is the interest since
the disbursement, so later charges are not below earlier ones.
-/

namespace VeriAgentPay.Pools
open InterleavedPrograms KeyedTables PoolsService RoundedNumbers
open InterleavedPrograms.Fallible (checked check forEach)
open Backend (Failure)
open CheckedOutcome (orError)

section Figures

theorem cents_mono {x y : ℚ} (h : x ≤ y) : cents x ≤ cents y := by
  have hscaled : double (x * 100) ≤ double (y * 100) := double_mono (by linarith)
  have hcast : (mathRound (double (x * 100)) : ℚ) ≤ mathRound (double (y * 100)) := by
    exact_mod_cast mathRound_mono hscaled
  exact double_mono (by linarith)

/-- Every step of the computation keeps the order. -/
theorem accruedInterest_mono {principal : ℚ} (hprincipal : 0 ≤ principal)
    (interestRateBps durationDays disbursedAt : ℤ) {now now' : ℤ} (h : now ≤ now') :
    accruedInterest principal interestRateBps durationDays (some disbursedAt) now ≤
      accruedInterest principal interestRateBps durationDays (some disbursedAt) now' := by
  unfold accruedInterest
  split_ifs with hnone
  · exact le_refl 0
  · obtain ⟨-, hrate⟩ := not_or.mp hnone
    have hbps : (0 : ℚ) ≤ interestRateBps := by exact_mod_cast (not_le.mp hrate).le
    have helapsed : ((now - disbursedAt : ℤ) : ℚ) ≤ ((now' - disbursedAt : ℤ) : ℚ) := by
      exact_mod_cast sub_le_sub_right h disbursedAt
    have hyearly : 0 ≤ double (principal * double (interestRateBps / 10000)) :=
      double_nonneg (mul_nonneg hprincipal (double_nonneg (by positivity)))
    dsimp only [Option.elim]
    refine cents_mono (double_mono ?_)
    refine div_le_div_of_nonneg_right (double_mono ?_) (by norm_num)
    refine mul_le_mul_of_nonneg_left ?_ hyearly
    refine min_le_min_right _ (max_le_max_left _ (double_mono ?_))
    linarith

end Figures

section Accrual

structure Debt where
  poolId : String
  amount : ℚ
  durationDays : ℤ

/-- The terms of a debt that no update changes. -/
def LoanApplication.debt (loan : LoanApplication) : Debt :=
  ⟨loan.poolId, loan.amount, loan.durationDays⟩

/-- The interest at a time on a debt that was disbursed at another. -/
def Ledger.interestSince (s : Ledger) (debt : Debt) (disbursedAt now : ℤ) : ℚ :=
  accruedInterest debt.amount (s.terms debt.poolId).interestRateBps debt.durationDays
    (some disbursedAt) now

/-- The statement matches the row of the loan, which is disbursed, and leaves it open. -/
def Reopens (loanId : String) (s : Ledger) (r : LedgerRequest) : Prop :=
  ∃ u ∈ r.loanUpdate, u.loanId = loanId ∧
    ∃ loan ∈ s.tables.loan? loanId, u.condition loan ∧ loan.onChainLoanId ≠ none ∧
    (u.data loan).status = .executed

def undisturbed (loanId : String) :
    StoreService.Conditions Ledger LedgerOperation LedgerRequest where
  starts _ := True
  allows _ _ s r := ¬Reopens loanId s r
  passes _ _ := True

/-- The invariant. -/
structure Accrues (loanId : String) (debt : Debt) (s : Ledger) : Prop where
  row : ∃ loan, s.tables.loan? loanId = some loan ∧ loan.debt = debt ∧
    (loan.onChainLoanId = none → s.disbursedAt loanId = none) ∧
    (loan.onChainLoanId ≠ none → ∃ time, s.disbursedAt loanId = some time ∧
      (loan.status = .executed → s.updatedAt loanId = time))
  charges : ∀ charge ∈ s.charges, charge.loan.loan.id = loanId → Disbursed charge.loan.loan →
    ∃ time, s.disbursedAt loanId = some time ∧
    charge.interest = s.interestSince debt time charge.time

structure Unchanged (loanId : String) (s s' : Ledger) : Prop where
  terms : s'.terms = s.terms
  disbursed : ∀ time, s.disbursedAt loanId = some time → s'.disbursedAt loanId = some time

def accrual (loanId : String) (debt : Debt) :
    Discipline Ledger LedgerOperation LedgerRequest LedgerAnswer :=
  ⟨ledgerServices, undisturbed loanId, Accrues loanId debt, Unchanged loanId⟩

/-- A row that was read goes with the disbursement. -/
structure Dated (loanId : String) (debt : Debt) (loan : DatedLoan) (interestRateBps : ℤ)
    (s : Ledger) : Prop where
  owes : loan.loan.debt = debt
  rate : interestRateBps = (s.terms debt.poolId).interestRateBps
  base : Disbursed loan.loan → s.disbursedAt loanId = some loan.updatedAt

variable {loanId : String} {debt : Debt} {s s' : Ledger}

theorem Unchanged.refl (s : Ledger) : Unchanged loanId s s := ⟨rfl, fun _ h => h⟩

theorem Dated.later {loan : DatedLoan} {interestRateBps : ℤ}
    (h : Dated loanId debt loan interestRateBps s) (hunchanged : Unchanged loanId s s') :
    Dated loanId debt loan interestRateBps s' where
  owes := h.owes
  rate := by rw [hunchanged.terms]; exact h.rate
  base hdisbursed := hunchanged.disbursed _ (h.base hdisbursed)

theorem Accrues.charges_later (h : Accrues loanId debt s) (hunchanged : Unchanged loanId s s')
    (hcharges : s'.charges = s.charges) :
    ∀ charge ∈ s'.charges, charge.loan.loan.id = loanId → Disbursed charge.loan.loan →
      ∃ time, s'.disbursedAt loanId = some time ∧
        charge.interest = s'.interestSince debt time charge.time := by
  intro charge hmem hid hdisbursed
  rw [hcharges] at hmem
  obtain ⟨time, htime, hinterest⟩ := h.charges charge hmem hid hdisbursed
  refine ⟨time, hunchanged.disbursed time htime, ?_⟩
  rw [hinterest, Ledger.interestSince, Ledger.interestSince, hunchanged.terms]

/-- Where a disbursed row is not left open by an update, its time stays that of the disbursement. -/
theorem Accrues.stamp (h : Accrues loanId debt s) {touched : String → Bool} {tables : Tables}
    {loan loan' : LoanApplication} (hrow : s.tables.loan? loanId = some loan)
    (hrow' : tables.loan? loanId = some loan') (hdebt : loan'.debt = loan.debt)
    (hfunded : loan.onChainLoanId ≠ none → loan'.onChainLoanId ≠ none)
    (hsame : touched loanId = false → loan' = loan)
    (hclosed : touched loanId → loan.onChainLoanId ≠ none → loan'.status ≠ .executed) :
    Unchanged loanId s (s.stamp touched tables) ∧ Accrues loanId debt (s.stamp touched tables) := by
  have hunchanged : Unchanged loanId s (s.stamp touched tables) := by
    refine ⟨rfl, fun time htime => ?_⟩
    simp only [Ledger.stamp, htime, reduceCtorEq, false_and, if_false]
  obtain ⟨old, hold, howes, hunfunded, hdated⟩ := h.row
  obtain rfl := Option.some.inj (hrow.symm.trans hold)
  refine ⟨hunchanged, ⟨loan', hrow', hdebt.trans howes, ?_, ?_⟩, h.charges_later hunchanged rfl⟩
  · intro hnone'
    have hnone : loan.onChainLoanId = none := not_not.mp fun h => hfunded h hnone'
    simp [Ledger.stamp, hrow', hnone', hunfunded hnone]
  · intro hsome'
    by_cases hnone : loan.onChainLoanId = none
    · -- The update disburses the loan.
      have htouched : touched loanId = true := by
        by_contra huntouched
        rw [hsame (Bool.eq_false_iff.mpr huntouched)] at hsome'
        exact hsome' hnone
      refine ⟨s.tables.now, ?_, fun _ => ?_⟩
      · simp [Ledger.stamp, hrow', hunfunded hnone, hsome']
      · simp [Ledger.stamp, htouched]
    · obtain ⟨time, htime, hbase⟩ := hdated hnone
      refine ⟨time, hunchanged.disbursed time htime, fun hopen => ?_⟩
      by_cases htouched : touched loanId = true
      · exact absurd hopen (hclosed htouched hnone)
      · rw [hsame (Bool.eq_false_iff.mpr htouched)] at hopen
        simp [Ledger.stamp, htouched, hbase hopen]

/-- An update that does not reopen the loan. -/
theorem Accrues.of_update (h : Accrues loanId debt s) {r : LedgerRequest} {u : LoanUpdate}
    {tables : Tables} (hr : r.loanUpdate = some u) (hallows : ¬Reopens loanId s r)
    (hrow' : tables.loan? loanId =
      (s.tables.loan? loanId).map fun loan => if u.loanId = loanId && u.condition loan then
        u.data loan else loan) :
    Unchanged loanId s (s.stamp (u.touches s.tables) tables) ∧
    Accrues loanId debt (s.stamp (u.touches s.tables) tables) := by
  obtain ⟨loan, hrow, -⟩ := h.row
  rw [hrow, Option.map_some] at hrow'
  have htouches : u.touches s.tables loanId = (decide (u.loanId = loanId) && u.condition loan) := by
    rw [LoanUpdate.touches, hrow, Option.any_some]
  by_cases hmatch : (decide (u.loanId = loanId) && u.condition loan) = true
  · rw [if_pos hmatch] at hrow'
    simp only [Bool.and_eq_true, decide_eq_true_eq] at hmatch
    refine h.stamp hrow hrow' ?_ (u.keepsFunded loan) ?_ ?_
    · have hkeeps := u.keepsDebt loan
      simp only [Prod.mk.injEq] at hkeeps
      simp only [LoanApplication.debt, hkeeps.1, hkeeps.2.1, hkeeps.2.2]
    · rw [htouches, decide_eq_true hmatch.1, hmatch.2]
      intro hfalse
      cases hfalse
    · intro _ hfunded hopen
      exact hallows ⟨u, hr, hmatch.1, loan, hrow, hmatch.2, hfunded, hopen⟩
  · rw [if_neg hmatch] at hrow'
    refine h.stamp hrow hrow' rfl id (fun _ => rfl) ?_
    intro htouched
    rw [htouches] at htouched
    exact absurd htouched hmatch

/-- A request that updates no loan. -/
theorem Accrues.of_none (h : Accrues loanId debt s) {touched : String → Bool} {tables : Tables}
    (huntouched : touched loanId = false)
    (hrow' : ∀ loan, s.tables.loan? loanId = some loan → tables.loan? loanId = some loan) :
    Unchanged loanId s (s.stamp touched tables) ∧ Accrues loanId debt (s.stamp touched tables) := by
  obtain ⟨loan, hrow, -⟩ := h.row
  refine h.stamp hrow (hrow' loan hrow) rfl id (fun _ => rfl) ?_
  rw [huntouched]
  intro hfalse
  cases hfalse

/-- Every request but a charge keeps to the accrual. -/
theorem Accrues.step (h : Accrues loanId debt s) {r : LedgerRequest} (hallows : ¬Reopens loanId s r)
    (hcharge : ∀ loan interestRateBps, r ≠ .accrue loan interestRateBps) :
    Unchanged loanId s (carryLedger s r).2 ∧ Accrues loanId debt (carryLedger s r).2 := by
  cases r with
  | pools r =>
    cases hupdate : r.loanUpdate with
    | some u =>
      have htouches : r.touches s.tables = u.touches s.tables := by
        funext loanId'
        cases r <;> simp_all [Request.touches, Request.loanUpdate]
      simp only [carryLedger, htouches]
      exact h.of_update (r := .pools r) hupdate hallows (loan?_carry s.tables hupdate loanId)
    | none =>
      have huntouched : r.touches s.tables loanId = false := by
        obtain ⟨loan, hrow, -⟩ := h.row
        cases r <;> simp_all [Request.touches, Request.loanUpdate]
      exact h.of_none huntouched fun loan hrow => loan?_carry_none hupdate hrow
  | claimRepayment id | releaseRepayment id | closeRepaid id =>
    exact h.of_update rfl hallows (loan?_update _ s.tables loanId)
  | findPool id => exact ⟨Unchanged.refl s, h⟩
  | incrementBalance poolId amount =>
    have hunchanged : Unchanged loanId s (carryLedger s (.incrementBalance poolId amount)).2 :=
      ⟨rfl, fun _ htime => htime⟩
    exact ⟨hunchanged, h.row, h.charges_later hunchanged rfl⟩
  | accrue loan interestRateBps => exact absurd rfl (hcharge loan interestRateBps)

/-- A charge for a row that goes with the disbursement. -/
theorem Accrues.charge (h : Accrues loanId debt s) {loan : DatedLoan} {interestRateBps : ℤ}
    (hdated : loan.loan.id = loanId → Dated loanId debt loan interestRateBps s) :
    Unchanged loanId s (carryLedger s (.accrue loan interestRateBps)).2 ∧
      Accrues loanId debt (carryLedger s (.accrue loan interestRateBps)).2 := by
  refine ⟨⟨rfl, fun _ htime => htime⟩, h.row, ?_⟩
  intro charge hmem hid hdisbursed
  rcases List.mem_cons.mp hmem with rfl | hmem
  · obtain ⟨hdebt, hrate, hbase⟩ := hdated hid
    refine ⟨loan.updatedAt, hbase hdisbursed, ?_⟩
    have hamount : loan.loan.amount = debt.amount := congrArg Debt.amount hdebt
    have hdays : loan.loan.durationDays = debt.durationDays := congrArg Debt.durationDays hdebt
    simp only [DatedLoan.interest, Ledger.interestSince, carryLedger, hamount, hdays, hrate]
  · exact h.charges charge hmem hid hdisbursed

end Accrual

section Runs

variable {loanId : String} {debt : Debt} {i : ℕ} {op : LedgerOperation} {K : Ledger → Prop}

/-- The rows of a view go with the disbursement. -/
def SeenDated (loanId : String) (debt : Debt) (view : DatedView) (s : Ledger) : Prop :=
  ∀ loan ∈ view.loans, loan.loan.id = loanId → Dated loanId debt loan view.terms.interestRateBps s

theorem SeenDated.stable {view : DatedView} :
    (accrual loanId debt).Stable (SeenDated loanId debt view) :=
  fun _ _ hunchanged hseen loan hmem hid => (hseen loan hmem hid).later hunchanged

theorem seenDated_of_findPool {s : Ledger} (h : Accrues loanId debt s) {id : String}
    {view : DatedView} (hread : (carryLedger s (.findPool id)).1 = some view) :
    SeenDated loanId debt view s := by
  obtain ⟨pool, -, rfl⟩ := Option.map_eq_some_iff.mp hread
  rintro dated hmem hid
  obtain ⟨loan, hfilter, rfl⟩ := List.mem_map.mp hmem
  obtain ⟨hrows, hpool⟩ := List.mem_filter.mp hfilter
  obtain ⟨row, hrow, howes, -, hdated⟩ := h.row
  have hloan : s.tables.loan? loanId = some loan := loan?_eq_some.mpr ⟨hrows, hid⟩
  obtain rfl := Option.some.inj (hloan.symm.trans hrow)
  have hid' : id = debt.poolId := (of_decide_eq_true hpool).symm.trans (congrArg Debt.poolId howes)
  refine ⟨howes, by rw [hid'], ?_⟩
  rintro ⟨hopen, hfunded⟩
  obtain ⟨time, htime, hbase⟩ := hdated hfunded
  have hid'' : loan.id = loanId := hid
  simp only [htime, hid'', hbase hopen]

/-- Requests that charge nothing. -/
def Chargeless : LedgerRequest → Prop
  | .accrue _ _ => False
  | _ => True

theorem chargeless_ask {r : LedgerRequest} (hr : Chargeless r) :
    (askLedger r).run.Within Chargeless := ⟨hr, fun _ => trivial⟩

theorem chargeless_checked {α : Type} (x : Except Failure α) :
    (checked x : LedgerService α).run.Within Chargeless := trivial

variable {E : Ledger → Prop}

theorem upholds_chargeless {α : Type} {x : LedgerService α} (hx : x.run.Within Chargeless)
    (hK : (accrual loanId debt).Stable K) :
    (accrual loanId debt).Upholds i op x K (fun _ => K) K := by
  have hstep : ∀ s r, Chargeless r → Accrues loanId debt s → ¬Reopens loanId s r →
      Unchanged loanId s (carryLedger s r).2 ∧ Accrues loanId debt (carryLedger s r).2 := by
    intro s r hr hs hallows
    refine hs.step hallows fun loan interestRateBps heq => ?_
    rw [heq] at hr
    exact hr
  have hfollows : (accrual loanId debt).protocol.Follows
      (ledgerServices.within (undisturbed loanId)) i op x.run (fun _ => True) ()
      fun _ _ _ => True := Discipline.follows_within hx hstep
  unfold Discipline.Upholds
  refine Protocol.Follows.weaken (hfollows.frame hK) (fun _ _ _ _ hs => ⟨trivial, hs⟩) ?_
  intro result s _ hs
  cases result with
  | ok a => exact hs.2
  | error e => exact hs.2

theorem upholds_findPool {id : String} :
    (accrual loanId debt).Upholds i op (PoolsService.findPool id) (fun _ => True)
      (fun view => SeenDated loanId debt view)
      fun _ => True := by
  apply Discipline.Upholds.bind (R := fun found s => ∀ view ∈ found, SeenDated loanId debt view s)
  · refine Discipline.Upholds.read Unchanged.refl (fun _ => rfl) ?_
      fun s hs _ view hview => seenDated_of_findPool hs hview
    exact fun found s s' hunchanged hseen view hview => SeenDated.stable s s' hunchanged
      (hseen view hview)
  · intro found
    exact Discipline.Upholds.checked (fun view s hview _ hseen => hseen view
      (CheckedOutcome.orError_eq_ok.mp hview)) fun _ _ => trivial

theorem upholds_breakdown {view : DatedView} {loan : DatedLoan} (hmem : loan ∈ view.loans) :
    (accrual loanId debt).Upholds i op (loanRepaymentBreakdown view loan)
      (SeenDated loanId debt view) (fun _ => SeenDated loanId debt view) E := by
  apply Discipline.Upholds.bind (R := fun _ => SeenDated loanId debt view)
  · refine Discipline.Upholds.ask (fun _ => SeenDated.stable) fun s hs hseen _ => ?_
    have hstep := hs.charge (hseen loan hmem)
    exact ⟨hstep.1, hstep.2, SeenDated.stable _ _ hstep.1 hseen⟩
  · intro interest
    exact Discipline.Upholds.pure fun _ _ hseen => hseen

theorem upholds_quotes {view : DatedView} {loans : List DatedLoan}
    (hsub : ∀ loan ∈ loans, loan ∈ view.loans) :
    (accrual loanId debt).Upholds i op (forEach (quote view) loans) (SeenDated loanId debt view)
      (fun _ => SeenDated loanId debt view) E := by
  induction loans with
  | nil => exact Discipline.Upholds.pure fun _ _ hseen => hseen
  | cons loan loans ih =>
    apply Discipline.Upholds.bind (R := fun _ => SeenDated loanId debt view)
    · apply Discipline.Upholds.bind (upholds_breakdown (hsub loan (List.mem_cons_self ..)))
      intro breakdown
      exact Discipline.Upholds.pure fun _ _ hseen => hseen
    · intro _
      exact ih fun loan' h' => hsub loan' (List.mem_cons_of_mem _ h')

theorem upholds_getPool (id : String) :
    (accrual loanId debt).Upholds i op (getPool id) (fun _ => True)
      (fun view => SeenDated loanId debt view) fun _ => True := by
  apply Discipline.Upholds.bind upholds_findPool
  intro view
  apply Discipline.Upholds.bind (upholds_quotes fun loan hmem => (List.mem_filter.mp hmem).1)
  intro _
  exact Discipline.Upholds.pure fun _ _ hseen => hseen

theorem chargeless_claimSettlement (loanId : String) :
    (claimSettlement loanId).run.Within Chargeless := by
  refine Program.Within.andThen (chargeless_ask trivial) fun claimed => ?_
  split
  · trivial
  · exact Program.Within.andThen (chargeless_ask trivial) fun _ => chargeless_checked _

theorem chargeless_admitPayment (view : DatedView) (loan : LoanApplication) (owed : Breakdown)
    (isSettlement : Bool) (turns : PaymentTurns) :
    (admitPayment view loan owed isSettlement turns).run.Within Chargeless := by
  unfold admitPayment
  split
  · exact chargeless_claimSettlement loan.id
  · exact Program.Within.andThen (chargeless_checked _) fun _ => chargeless_checked _

theorem chargeless_releaseSettlement (loanId : String) (isSettlement : Bool)
    (turns : PaymentTurns) :
    (releaseSettlement loanId isSettlement turns).run.Within Chargeless := by
  unfold releaseSettlement
  split
  · exact Program.Within.andThen (chargeless_ask trivial) fun _ => trivial
  · trivial

theorem chargeless_recordPayment (id loanId : String) (amount : ℚ) (isSettlement : Bool)
    (turns : PaymentTurns) :
    (recordPayment id loanId amount isSettlement turns).run.Within Chargeless := by
  unfold recordPayment
  split
  · refine Program.Within.andThen (chargeless_ask trivial) fun _ => ?_
    split
    · exact chargeless_ask trivial
    · trivial
  · trivial

theorem upholds_payWithInterest {view : DatedView} {loan : DatedLoan} (hmem : loan ∈ view.loans)
    (turns : PaymentTurns) :
    (accrual loanId debt).Upholds i op (payWithInterest view loan turns)
      (SeenDated loanId debt view) (fun _ => SeenDated loanId debt view)
        (SeenDated loanId debt view) := by
  apply Discipline.Upholds.bind (upholds_chargeless (chargeless_checked _) SeenDated.stable)
  intro _
  apply Discipline.Upholds.bind (upholds_chargeless (chargeless_checked _) SeenDated.stable)
  intro _
  apply Discipline.Upholds.bind (upholds_breakdown hmem)
  intro _
  apply Discipline.Upholds.bind (upholds_chargeless (chargeless_checked _) SeenDated.stable)
  intro _
  exact upholds_chargeless (chargeless_checked _) SeenDated.stable

theorem upholds_payLoan (id loanId' borrowerId : String) (amount : ℚ) (turns : PaymentTurns) :
    (accrual loanId debt).Upholds i op (payLoan id loanId' borrowerId amount turns) (fun _ => True)
      (fun _ _ => True) fun _ => True := by
  apply Discipline.Upholds.bind (upholds_getPool id)
  intro view
  have hchargeless : ∀ {α : Type} {x : LedgerService α}, x.run.Within Chargeless →
      (accrual loanId debt).Upholds i op x
      (SeenDated loanId debt view) (fun _ => SeenDated loanId debt view) fun _ => True :=
    fun hx => (upholds_chargeless hx SeenDated.stable).weaken (fun _ _ hs => hs) (fun _ _ hs => hs)
      fun _ _ => trivial
  apply Discipline.Upholds.bind
    (R := fun loan s => loan ∈ view.loans ∧ SeenDated loanId debt view s)
  · exact Discipline.Upholds.checked (fun loan s hloan _ hseen =>
      ⟨List.mem_of_find?_eq_some (CheckedOutcome.orError_eq_ok.mp hloan), hseen⟩) fun _ _ => trivial
  intro loan
  refine Discipline.Upholds.assuming fun hmem => ?_
  apply Discipline.Upholds.bind (hchargeless (chargeless_checked _))
  intro _
  apply Discipline.Upholds.bind (hchargeless (chargeless_checked _))
  intro _
  apply Discipline.Upholds.bind (upholds_breakdown hmem)
  intro owed
  apply Discipline.Upholds.bind (hchargeless (chargeless_admitPayment view loan.loan owed _ turns))
  intro _
  apply Discipline.Upholds.bind (hchargeless (chargeless_ask (r := .pools .now) trivial))
  intro now
  apply Discipline.Upholds.bind (R := fun _ => SeenDated loanId debt view)
  · refine Discipline.Upholds.tryCatch (upholds_payWithInterest hmem turns)
      fun err => hchargeless ?_
    exact Program.Within.andThen (chargeless_releaseSettlement loanId' _ turns)
      fun _ => chargeless_checked _
  intro txHash
  apply Discipline.Upholds.bind (hchargeless (chargeless_recordPayment id loanId' amount _ turns))
  intro _
  exact Discipline.Upholds.pure fun _ _ _ => trivial

theorem accrual_kept : (accrual loanId debt).Kept := by
  refine Discipline.kept_of_plays Unchanged.refl ?_ ?_
  · intro i op _
    cases op with
    | pools op =>
      refine Discipline.plays_within (Program.within_translate op.program) ?_
      rintro s _ ⟨r, rfl⟩ hs hallows
      exact hs.step hallows fun _ _ => nofun
    | getPool id =>
      exact ((upholds_getPool id).weaken (fun _ _ hs => hs) (fun _ _ _ => trivial)
        fun _ hs => hs).plays
    | repayLoan id loanId' borrowerId amount turns =>
      exact (upholds_payLoan id loanId' borrowerId amount turns).plays
  · intro n s hs _
    have hunchanged : Unchanged loanId s (ledgerServices.passes n s) := ⟨rfl, fun _ htime => htime⟩
    exact ⟨hunchanged, hs.row, hs.charges_later hunchanged rfl⟩

/-- From a loan that is not disbursed, or whose row is as its disbursement has left it: in every run
in which no statement leaves the row of the disbursed loan open, the interest that is charged for it
is the interest since its disbursement, and later charges are not below earlier ones. -/
theorem interest_since_disbursement {start : Ledger}
    {tr : Trace Ledger LedgerOperation LedgerRequest LedgerAnswer}
    {c : Config Ledger LedgerOperation LedgerRequest LedgerAnswer} {loan : LoanApplication}
    (hrun : ledgerServices.Runs start tr c)
    (hmeets : ∀ t ∈ tr, StoreService.Meets (undisturbed loanId) t)
    (hloan : start.tables.loan? loanId = some loan) (hprincipal : 0 < loan.amount)
    (hunfunded : loan.onChainLoanId = none → start.disbursedAt loanId = none)
    (hfunded : loan.onChainLoanId ≠ none →
      start.disbursedAt loanId = some (start.updatedAt loanId))
    (hcharges : start.charges = []) :
    (∀ charge ∈ c.state.charges, charge.loan.loan.id = loanId → Disbursed charge.loan.loan →
      ∃ time, c.state.disbursedAt loanId = some time ∧
        charge.interest = c.state.interestSince loan.debt time charge.time) ∧
    ∀ charge ∈ c.state.charges, ∀ charge' ∈ c.state.charges,
      charge.loan.loan.id = loanId → Disbursed charge.loan.loan → charge'.loan.loan.id = loanId →
      Disbursed charge'.loan.loan →
      charge.time ≤ charge'.time → charge.interest ≤ charge'.interest := by
  have hstart : Accrues loanId loan.debt start := by
    refine ⟨⟨loan, hloan, rfl, hunfunded, fun h => ⟨_, hfunded h, fun _ => rfl⟩⟩, ?_⟩
    rw [hcharges]
    exact fun _ hmem => absurd hmem List.not_mem_nil
  have hfinish : Accrues loanId loan.debt c.state := (accrual_kept.run hrun hmeets hstart).1
  refine ⟨hfinish.charges, ?_⟩
  intro charge hmem charge' hmem' hid hopen hid' hopen' htime
  obtain ⟨time, htime₀, hinterest⟩ := hfinish.charges charge hmem hid hopen
  obtain ⟨time', htime₀', hinterest'⟩ := hfinish.charges charge' hmem' hid' hopen'
  obtain rfl := Option.some.inj (htime₀.symm.trans htime₀')
  rw [hinterest, hinterest']
  exact accruedInterest_mono hprincipal.le _ _ _ htime

end Runs

end VeriAgentPay.Pools

namespace VeriAgentPay.Devnet
open InterleavedPrograms KeyedTables Pools RoundedNumbers

/-- The loan of Alice, disbursed. -/
def owedLoan : LoanApplication :=
  { requested with
    status := .executed, onChainLoanId := some 7, repaymentDeadline := some 1751209600000 }

def owedLedger : Ledger where
  tables := lending owedLoan .empty
  terms _ := ⟨"USDC", 1000⟩
  updatedAt _ := 1750000000000
  disbursedAt _ := some 1750000000000
  charges := []

/-- Nothing but the relayer refuses the payment. -/
def refusedPayment : PoolsService.PaymentTurns := ⟨true, .ok (), true, false⟩

def ledgerSteps (i n : ℕ) : List (Move LedgerOperation) := List.replicate n (.step i)

/-- The loan is quoted five days after its disbursement. -/
def quotedLoan : List (Move LedgerOperation) :=
  [.pass 432000000, .start 0 (.getPool "pool")] ++ ledgerSteps 0 2

def quotedAgain (i : ℕ) : List (Move LedgerOperation) :=
  [.pass 86400000, .start i (.getPool "pool")] ++ ledgerSteps i 2

/-- A settlement fails, and the loan is quoted a day later. -/
def failedSettlement : List (Move LedgerOperation) :=
  quotedLoan ++ [.start 1 (.repayLoan "pool" "loan" "alice" 36 refusedPayment)] ++
    ledgerSteps 1 7 ++ quotedAgain 2

structure Quote where
  open_ : Bool
  time : ℤ
  interest : ℚ
  deriving DecidableEq

def quotesOf (s : Ledger) : List Quote :=
  s.charges.map fun charge =>
    ⟨charge.loan.loan.id = "loan" ∧ charge.loan.loan.status = .executed ∧
      charge.loan.loan.onChainLoanId ≠ none,
      charge.time, charge.interest⟩

theorem charges_after_failure :
    (ledgerServices.moves StoreService.anything (Config.initial owedLedger) failedSettlement).map
      (fun c => quotesOf c.state) =
      some [⟨true, 1750518400000, double (1 / 100)⟩, ⟨true, 1750432000000, double (1 / 20)⟩,
        ⟨true, 1750432000000, double (1 / 20)⟩, ⟨true, 1750432000000, double (1 / 20)⟩,
        ⟨true, 1750432000000, double (1 / 20)⟩] := by
  decide +kernel

theorem mem_quotesOf {s : Ledger} {time : ℤ} {interest : ℚ}
    (h : ⟨true, time, interest⟩ ∈ quotesOf s) :
    ∃ charge ∈ s.charges, charge.loan.loan.id = "loan" ∧ Disbursed charge.loan.loan ∧
      charge.time = time ∧
      charge.interest = interest := by
  obtain ⟨charge, hmem, heq⟩ := List.mem_map.mp h
  simp only [Quote.mk.injEq, decide_eq_true_eq] at heq
  exact ⟨charge, hmem, heq.1.1, heq.1.2, heq.2⟩

/-- After a failed settlement less is charged than before. -/
theorem interest_runs_backwards : ∃ tr c, ledgerServices.Runs owedLedger tr c ∧
    ∃ charge ∈ c.state.charges, ∃ charge' ∈ c.state.charges, charge.loan.loan.id = "loan" ∧
      Disbursed charge.loan.loan ∧
      charge'.loan.loan.id = "loan" ∧ Disbursed charge'.loan.loan ∧ charge.time < charge'.time ∧
      charge'.interest < charge.interest := by
  obtain ⟨tr, c, hrun, -, -, hcharges⟩ := StoreService.runs_of_computed charges_after_failure
  have hearly :=
    mem_quotesOf (s := c.state) (hcharges ▸ List.mem_cons_of_mem _ (List.mem_cons_self ..))
  have hlate := mem_quotesOf (s := c.state) (hcharges ▸ List.mem_cons_self ..)
  obtain ⟨charge, hmem, hid, hopen, htime, hinterest⟩ := hearly
  obtain ⟨charge', hmem', hid', hopen', htime', hinterest'⟩ := hlate
  refine ⟨tr, c, hrun, charge, hmem, charge', hmem', hid, hopen, hid', hopen', ?_, ?_⟩
  · rw [htime, htime']
    decide
  · rw [hinterest, hinterest']
    decide +kernel

instance : DecidablePred (undisturbed "loan").starts := fun _ => inferInstanceAs (Decidable True)
instance (i : ℕ) (op : LedgerOperation) (s : Ledger) (r : LedgerRequest) :
    Decidable ((undisturbed "loan").allows i op s r) :=
  inferInstanceAs (Decidable ¬∃ u ∈ r.loanUpdate, _ ∧ ∃ loan ∈ s.tables.loan? "loan", _)
instance (s s' : Ledger) : Decidable ((undisturbed "loan").passes s s') :=
  inferInstanceAs (Decidable True)

theorem charges_undisturbed :
    (ledgerServices.moves (undisturbed "loan") (Config.initial owedLedger)
      (quotedLoan ++ quotedAgain 1)).map
        (fun c => quotesOf c.state) =
      some [⟨true, 1750518400000, double (3 / 50)⟩, ⟨true, 1750432000000, double (1 / 20)⟩] := by
  decide +kernel

theorem interest_since_disbursement_devnet : ∃ tr c, ledgerServices.Runs owedLedger tr c ∧
    ∃ charge ∈ c.state.charges, ∃ charge' ∈ c.state.charges, charge.time = 1750432000000 ∧
      charge'.time = 1750518400000 ∧
      charge.interest ≤ charge'.interest := by
  obtain ⟨tr, c, hrun, hmeets, -, hcharges⟩ := StoreService.runs_of_computed charges_undisturbed
  have hearly :=
    mem_quotesOf (s := c.state) (hcharges ▸ List.mem_cons_of_mem _ (List.mem_cons_self ..))
  have hlate := mem_quotesOf (s := c.state) (hcharges ▸ List.mem_cons_self ..)
  obtain ⟨charge, hmem, hid, hopen, htime, -⟩ := hearly
  obtain ⟨charge', hmem', hid', hopen', htime', -⟩ := hlate
  have hloan : owedLedger.tables.loan? "loan" = some owedLoan := by decide +kernel
  have hsince :=
    interest_since_disbursement hrun hmeets hloan (by decide +kernel) nofun (fun _ => rfl) rfl
  refine ⟨tr, c, hrun, charge, hmem, charge', hmem', htime, htime', ?_⟩
  exact hsince.2 charge hmem charge' hmem' hid hopen hid' hopen' (by rw [htime, htime']; decide)

end VeriAgentPay.Devnet
