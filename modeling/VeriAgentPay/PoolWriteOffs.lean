import VeriAgentPay.LoanExtensions

/-!
# Writing loans off

The approval of a loan and the decision to write it off keep their votes in one table, with one vote
for each voter. When the members' own decision is what counts in `writeOffLoan`.
-/

namespace VeriAgentPay.Pools
open InterleavedPrograms KeyedTables PoolsService
open InterleavedPrograms.Fallible (checked check eval)
open Backend (Failure truthy)
open CheckedOutcome (orError)

section Loans

variable {t : Tables} {id loanId : String} {pool : GroupPool} {loan : LoanApplication}

/-- A loan that a pool's page lists under its id. -/
theorem find?_loansOf (t : Tables) (id loanId : String) :
    (t.loans.rows.filter (·.poolId = id)).find? (·.id = loanId) = (t.loan? loanId).filter
      (·.poolId = id) := by
  rw [List.find?_filter]
  simp only [decide_eq_true_eq]
  cases hloan : t.loan? loanId with
  | none =>
    have hnone := Keyed.find?_eq_none.mp hloan
    rw [Option.filter_none, List.find?_eq_none]
    intro row hrow
    simp [hnone row hrow]
  | some loan =>
    obtain ⟨hmem, hid⟩ := loan?_eq_some.mp hloan
    by_cases hpool : loan.poolId = id
    · rw [Option.filter_some_pos (by simpa using hpool)]
      have hsome : (t.loans.rows.find? fun row => row.poolId = id ∧ row.id = loanId).isSome :=
        List.find?_isSome.mpr ⟨loan, hmem, by simp [hpool, hid]⟩
      obtain ⟨found, hfound⟩ := Option.isSome_iff_exists.mp hsome
      have hfoundId := List.find?_some hfound
      simp only [decide_eq_true_eq] at hfoundId
      rw [hfound, Keyed.eq_of_key (List.mem_of_find?_eq_some hfound) hmem
        (hfoundId.2.trans hid.symm)]
    · rw [Option.filter_some_neg (by simpa using hpool), List.find?_eq_none]
      intro row hrow
      simp only [decide_eq_true_eq, not_and]
      intro hrowPool hrowId
      rw [Keyed.eq_of_key hrow hmem (hrowId.trans hid.symm)] at hrowPool
      exact hpool hrowPool

end Loans

section Calls

variable {t : Tables} {id loanId voterId : String} {pool : GroupPool} {loan : LoanApplication}

def Tables.membersOf (t : Tables) (id : String) : List PoolMember :=
  t.members.filter (·.poolId = id)

/-- The checks on the voter in `writeOffLoan`. -/
def mayWriteOff (members : List PoolMember) (borrowerId voterId : String) : Prop :=
  borrowerId ≠ voterId ∧ members.any fun m => m.userId = some voterId

instance (members : List PoolMember) (borrowerId voterId : String) :
    Decidable (mayWriteOff members borrowerId voterId) :=
  inferInstanceAs (Decidable (_ ∧ _))

def alreadyVoted : Failure := .badRequest "You have already voted on this loan."

/-- A defaulted loan of the pool. -/
structure Defaulted (t : Tables) (id : String) (loan : LoanApplication) : Prop where
  pool : (t.pools.find? id).isSome
  row : t.loan? loan.id = some loan
  listed : loan.poolId = id
  status : loan.status = .defaulted

/-- A call of `writeOffLoan` when nothing else runs. -/
def writeOffAlone (t : Tables) (id loanId voterId : String) :
    Except Failure WriteOffResult × Tables :=
  (writeOffLoan id loanId voterId).eval carry t

/-- The table after a vote to write the loan off. -/
def Tables.addWriteOff (t : Tables) (loanId voterId : String) : Option Tables :=
  (t.votes.insert ⟨loanId, voterId, true, .writeOff⟩).map fun votes => { t with votes := votes }

theorem carry_findPool (hpool : t.pools.find? id = some pool) :
    carry t (.findPool id) = (some ⟨pool, t.membersOf id, t.loans.rows.filter (·.poolId = id)⟩,
      t) := by
  simp only [carry, hpool, Option.map_some, Tables.membersOf]

theorem eval_findOne (hpool : t.pools.find? id = some pool) :
    (findOne id).eval carry t =
      (.ok ⟨pool, t.membersOf id, t.loans.rows.filter (·.poolId = id)⟩, t) := by
  unfold findOne ask
  rw [Fallible.eval_ask_of (carry_findPool hpool)]
  rfl

theorem eval_findOne_missing (hpool : t.pools.find? id = none) :
    (findOne id).eval carry t = (.error (.notFound "Group pool not found"), t) := by
  have hnone : carry t (.findPool id) = (none, t) := by simp only [carry, hpool, Option.map_none]
  unfold findOne ask
  rw [Fallible.eval_ask_of hnone]
  rfl

theorem eval_findLoanOf (hloan : t.loan? loanId = some loan) (hlisted : loan.poolId = id)
    {members : List PoolMember} {e : Failure} :
    (findLoanOf ⟨pool, members, t.loans.rows.filter (·.poolId = id)⟩ loanId e).eval carry t =
      (.ok loan, t) := by
  unfold findLoanOf
  rw [Fallible.eval_checked, find?_loansOf, hloan, Option.filter_some_pos (by simpa using hlisted)]
  rfl

theorem eval_findLoanOf_missing (hloan : t.loan? loanId = some loan) (hlisted : loan.poolId ≠ id)
    {members : List PoolMember} {e : Failure} :
    (findLoanOf ⟨pool, members, t.loans.rows.filter (·.poolId = id)⟩ loanId e).eval carry t =
      (.error e, t) := by
  unfold findLoanOf
  rw [Fallible.eval_checked, find?_loansOf, hloan, Option.filter_some_neg (by simpa using hlisted)]
  rfl

theorem addWriteOff_none (h : t.addWriteOff loanId voterId = none) :
    carry t (.createVote ⟨loanId, voterId, true, .writeOff⟩) = (false, t) := by
  have hinsert := Option.map_eq_none_iff.mp h
  simp only [carry, hinsert]

theorem addWriteOff_some {t₁ : Tables} (h : t.addWriteOff loanId voterId = some t₁) :
    carry t (.createVote ⟨loanId, voterId, true, .writeOff⟩) = (true, t₁) := by
  obtain ⟨votes, hinsert, rfl⟩ := Option.map_eq_some_iff.mp h
  simp only [carry, hinsert]

theorem matching_defaulted (h : t.loan? loanId = some loan) (hstatus : loan.status = .defaulted) :
    t.matching loanId (·.status = .defaulted) = 1 := by
  rw [Tables.matching, Keyed.count_of_key h]
  simp [hstatus]

theorem writeOffAlone_defaulted (h : Defaulted t id loan)
    (hmay : mayWriteOff (t.membersOf id) loan.borrowerId voterId) :
    writeOffAlone t id loan.id voterId =
      match t.addWriteOff loan.id voterId with
      | none => (.error alreadyVoted, t)
      | some t₁ =>
        if t₁.countVotes loan.id true < writeOffThreshold (t.membersOf id) loan.borrowerId then
          (.ok ⟨.defaulted, t₁.countVotes loan.id true,
            writeOffThreshold (t.membersOf id) loan.borrowerId, false⟩, t₁)
        else
          (.ok ⟨.repaid, t₁.countVotes loan.id true,
            writeOffThreshold (t.membersOf id) loan.borrowerId, true⟩,
            t₁.updateLoan loan.id (·.status = .defaulted) (·.setStatus .repaid) fun _ => rfl) := by
  obtain ⟨pool, hpool⟩ := Option.isSome_iff_exists.mp h.pool
  unfold writeOffAlone writeOffLoan
  rw [Fallible.eval_andThen_ok (eval_findOne hpool),
    Fallible.eval_andThen_ok (eval_findLoanOf h.row h.listed),
    Fallible.eval_check_of h.status, Fallible.eval_check_of hmay.1, Fallible.eval_check_of hmay.2]
  unfold ask
  cases hadd : t.addWriteOff loan.id voterId with
  | none =>
    rw [Fallible.eval_ask_of (addWriteOff_none hadd), Fallible.eval_check_not (by simp)]
    rfl
  | some t₁ =>
    have hcount : carry t₁ (.countVotes loan.id true) = (t₁.countVotes loan.id true, t₁) := rfl
    rw [Fallible.eval_ask_of (addWriteOff_some hadd), Fallible.eval_check_of rfl,
      Fallible.eval_ask_of hcount]
    dsimp only
    split_ifs with hfew
    · rfl
    · have hrow : t₁.loan? loan.id = some loan := by
        obtain ⟨votes, -, rfl⟩ := Option.map_eq_some_iff.mp hadd
        exact h.row
      have hclose : carry t₁ (.closeWrittenOff loan.id) =
          (1, t₁.updateLoan loan.id (·.status = .defaulted) (·.setStatus .repaid)
            fun _ => rfl) := by
        simp only [carry, matching_defaulted hrow h.status]
      rw [Fallible.eval_ask_of hclose, if_neg (by simp)]
      rfl

/-- A call that does not get as far as the vote leaves the tables alone. -/
theorem writeOffAlone_refused (hrow : t.loan? loan.id = some loan)
    (h : ¬(Defaulted t id loan ∧ mayWriteOff (t.membersOf id) loan.borrowerId voterId)) :
    ∃ e ≠ alreadyVoted, writeOffAlone t id loan.id voterId = (.error e, t) := by
  unfold writeOffAlone writeOffLoan
  cases hpool : t.pools.find? id with
  | none =>
    rw [Fallible.eval_andThen_error (eval_findOne_missing hpool)]
    exact ⟨_, by decide, rfl⟩
  | some pool =>
    rw [Fallible.eval_andThen_ok (eval_findOne hpool)]
    by_cases hlisted : loan.poolId = id
    swap
    · rw [Fallible.eval_andThen_error (eval_findLoanOf_missing hrow hlisted)]
      exact ⟨_, by decide, rfl⟩
    rw [Fallible.eval_andThen_ok (eval_findLoanOf hrow hlisted)]
    by_cases hstatus : loan.status = .defaulted
    swap
    · rw [Fallible.eval_check_not hstatus]
      exact ⟨_, by decide, rfl⟩
    rw [Fallible.eval_check_of hstatus]
    by_cases hborrower : loan.borrowerId ≠ voterId
    swap
    · rw [Fallible.eval_check_not hborrower]
      exact ⟨_, by decide, rfl⟩
    rw [Fallible.eval_check_of hborrower]
    have hdefaulted : Defaulted t id loan := ⟨by simp [hpool], hrow, hlisted, hstatus⟩
    rw [Fallible.eval_check_not fun hmember => h ⟨hdefaulted, hborrower, hmember⟩]
    exact ⟨_, by decide, rfl⟩

end Calls

section Majorities

variable {t : Tables} {id loanId voterId : String} {loan : LoanApplication}

/-- Cast in the decision on the write-off, by a member who may take part in it. -/
def LoanVote.isOwn (members : List PoolMember) (borrowerId : String) (vote : LoanVote) : Bool :=
  vote.castIn = .writeOff ∧ mayWriteOff members borrowerId vote.voterId

def approves (loanId : String) (vote : LoanVote) : Bool :=
  vote.loanId = loanId ∧ vote.approve = true

def Tables.ownApprovals (t : Tables) (id : String) (loan : LoanApplication) : ℕ :=
  t.votes.count fun vote => approves loan.id vote && vote.isOwn (t.membersOf id) loan.borrowerId

def Tables.otherApprovals (t : Tables) (id : String) (loan : LoanApplication) : ℕ :=
  t.votes.count fun vote => approves loan.id vote && !vote.isOwn (t.membersOf id) loan.borrowerId

def WrittenOff (t t' : Tables) (loanId : String) : Prop :=
  ∃ loan loan', t.loan? loanId = some loan ∧ t'.loan? loanId = some loan' ∧ loan.status ≠ .repaid ∧
  loan'.status = .repaid

/-- A loan is written off by a majority of approvals of its own, and every eligible member may give
one. -/
structure HasOwnMajority (t : Tables) (id : String) (loan : LoanApplication) : Prop where
  majority : ∀ voterId, WrittenOff t (writeOffAlone t id loan.id voterId).2 loan.id →
    (writeOffEligible (t.membersOf id) loan.borrowerId).length < 2 *
      (writeOffAlone t id loan.id voterId).2.ownApprovals id loan
  everyone : ∀ m ∈ writeOffEligible (t.membersOf id) loan.borrowerId, ∀ voterId,
    m.userId = some voterId →
    (∀ vote ∈ t.votes.rows, vote.key = (loan.id, voterId) → vote.castIn ≠ .writeOff) →
      (writeOffAlone t id loan.id voterId).1 ≠ .error alreadyVoted

/-- No eligible member has voted on the loan before. -/
def NoEarlierVotes (t : Tables) (id : String) (loan : LoanApplication) : Prop :=
  ∀ m ∈ writeOffEligible (t.membersOf id) loan.borrowerId, ∀ vote ∈ t.votes.rows,
    vote.loanId = loan.id → m.userId = some vote.voterId → vote.castIn = .writeOff

/-- The approvals that are not part of the decision do not decide it, if there is still a vote to
cast. -/
def OthersDoNotDecide (t : Tables) (id : String) (loan : LoanApplication) : Prop :=
  (∃ voterId, mayWriteOff (t.membersOf id) loan.borrowerId voterId ∧
    ∀ vote ∈ t.votes.rows, vote.key ≠ (loan.id, voterId)) →
    writeOffThreshold (t.membersOf id) loan.borrowerId ≤ t.ownApprovals id loan + 1 ∨
      t.ownApprovals id loan + t.otherApprovals id loan +
        1 < writeOffThreshold (t.membersOf id) loan.borrowerId

theorem countVotes_add (t : Tables) (id : String) (loan : LoanApplication) :
    t.countVotes loan.id true = t.ownApprovals id loan + t.otherApprovals id loan :=
  Keyed.count_add (approves loan.id) fun vote => vote.isOwn (t.membersOf id) loan.borrowerId

theorem addWriteOff_eq_none :
    t.addWriteOff loanId voterId = none ↔ ∃ vote ∈ t.votes.rows, vote.key = (loanId, voterId) :=
  Option.map_eq_none_iff.trans Keyed.insert_eq_none

theorem ownApprovals_addWriteOff {t₁ : Tables}
    (hmay : mayWriteOff (t.membersOf id) loan.borrowerId voterId)
    (h : t.addWriteOff loan.id voterId = some t₁) :
    t₁.ownApprovals id loan = t.ownApprovals id loan + 1 := by
  obtain ⟨votes, hinsert, rfl⟩ := Option.map_eq_some_iff.mp h
  have hcount := Keyed.count_insert hinsert fun vote => approves loan.id vote &&
    vote.isOwn (t.membersOf id) loan.borrowerId
  have hown : (approves loan.id ⟨loan.id, voterId, true, .writeOff⟩ &&
      LoanVote.isOwn (t.membersOf id) loan.borrowerId ⟨loan.id, voterId, true, .writeOff⟩) =
        true := by
    simp [approves, LoanVote.isOwn, hmay]
  rw [if_pos hown] at hcount
  exact hcount

theorem otherApprovals_addWriteOff {t₁ : Tables}
    (hmay : mayWriteOff (t.membersOf id) loan.borrowerId voterId)
    (h : t.addWriteOff loan.id voterId = some t₁) :
    t₁.otherApprovals id loan = t.otherApprovals id loan := by
  obtain ⟨votes, hinsert, rfl⟩ := Option.map_eq_some_iff.mp h
  have hcount := Keyed.count_insert hinsert fun vote => approves loan.id vote &&
    !vote.isOwn (t.membersOf id) loan.borrowerId
  have hown : ¬(approves loan.id ⟨loan.id, voterId, true, .writeOff⟩ &&
      !LoanVote.isOwn (t.membersOf id) loan.borrowerId ⟨loan.id, voterId, true, .writeOff⟩) =
        true := by
    simp [approves, LoanVote.isOwn, hmay]
  rw [if_neg hown] at hcount
  exact hcount

/-- More than half of the eligible members is as many as the threshold asks for. -/
theorem majority_iff (members : List PoolMember) (borrowerId : String) (n : ℕ) :
    (writeOffEligible members borrowerId).length < 2 * n ↔
    writeOffThreshold members borrowerId ≤ n := by
  unfold writeOffThreshold
  omega

/-- What a vote that is cast leaves behind. -/
theorem writeOffAlone_cast {t₁ : Tables} (h : Defaulted t id loan)
    (hmay : mayWriteOff (t.membersOf id) loan.borrowerId voterId)
    (hadd : t.addWriteOff loan.id voterId = some t₁) :
    (writeOffAlone t id loan.id voterId).2.ownApprovals id loan = t.ownApprovals id loan + 1 ∧
      (WrittenOff t (writeOffAlone t id loan.id voterId).2 loan.id ↔
        writeOffThreshold (t.membersOf id) loan.borrowerId ≤ t.ownApprovals id loan +
          t.otherApprovals id loan + 1) := by
  have hrow : t₁.loan? loan.id = some loan := by
    obtain ⟨votes, -, rfl⟩ := Option.map_eq_some_iff.mp hadd
    exact h.row
  have hown := ownApprovals_addWriteOff hmay hadd
  have hcount : t₁.countVotes loan.id true = t.ownApprovals id loan +
      t.otherApprovals id loan + 1 := by
    rw [countVotes_add t₁ id loan, hown, otherApprovals_addWriteOff hmay hadd]
    omega
  rw [writeOffAlone_defaulted h hmay, hadd]
  dsimp only
  rw [hcount]
  split_ifs with hfew
  · refine ⟨hown, ?_⟩
    constructor
    · rintro ⟨old, new, -, hnew, -, hstatus⟩
      rw [hrow, Option.some.injEq] at hnew
      rw [← hnew, h.status] at hstatus
      cases hstatus
    · intro henough
      omega
  · refine ⟨hown, ?_⟩
    constructor
    · intro _
      omega
    · intro _
      refine ⟨loan, loan.setStatus .repaid, h.row, ?_, by simp [h.status], rfl⟩
      refine (loan?_updateLoan t₁ loan.id loan.id _ _ _).trans ?_
      simp [hrow, h.status]

theorem not_writtenOff (t : Tables) (loanId : String) : ¬WrittenOff t t loanId := by
  rintro ⟨loan, loan', hloan, hloan', hstatus, hstatus'⟩
  rw [Option.some.inj (hloan.symm.trans hloan')] at hstatus
  exact hstatus hstatus'

/-- The loan is written off exactly by a vote that is cast and with which the approvals reach the
threshold. -/
theorem writtenOff_iff (hrow : t.loan? loan.id = some loan) :
    WrittenOff t (writeOffAlone t id loan.id voterId).2 loan.id ↔
      Defaulted t id loan ∧ mayWriteOff (t.membersOf id) loan.borrowerId voterId ∧
      t.addWriteOff loan.id voterId ≠ none ∧
        writeOffThreshold (t.membersOf id) loan.borrowerId ≤ t.ownApprovals id loan +
          t.otherApprovals id loan + 1 := by
  by_cases hpasses : Defaulted t id loan ∧ mayWriteOff (t.membersOf id) loan.borrowerId voterId
  · obtain ⟨hdefaulted, hmay⟩ := hpasses
    cases hadd : t.addWriteOff loan.id voterId with
    | none =>
      rw [writeOffAlone_defaulted hdefaulted hmay, hadd]
      simp [not_writtenOff]
    | some t₁ =>
      rw [(writeOffAlone_cast hdefaulted hmay hadd).2]
      simp [hdefaulted, hmay]
  · obtain ⟨e, -, hrefused⟩ := writeOffAlone_refused hrow hpasses
    rw [hrefused]
    constructor
    · intro h
      exact absurd h (not_writtenOff t loan.id)
    · rintro ⟨hdefaulted, hmay, -⟩
      exact absurd ⟨hdefaulted, hmay⟩ hpasses

/-- A vote is refused as a second one exactly where the voter has a row. -/
theorem alreadyVoted_iff (hrow : t.loan? loan.id = some loan) :
    (writeOffAlone t id loan.id voterId).1 = .error alreadyVoted ↔
      Defaulted t id loan ∧ mayWriteOff (t.membersOf id) loan.borrowerId voterId ∧
      t.addWriteOff loan.id voterId = none := by
  by_cases hpasses : Defaulted t id loan ∧ mayWriteOff (t.membersOf id) loan.borrowerId voterId
  · obtain ⟨hdefaulted, hmay⟩ := hpasses
    rw [writeOffAlone_defaulted hdefaulted hmay]
    cases hadd : t.addWriteOff loan.id voterId with
    | none => simp [hdefaulted, hmay]
    | some t₁ =>
      dsimp only
      split_ifs
      · simp
      · simp
  · obtain ⟨e, he, hrefused⟩ := writeOffAlone_refused hrow hpasses
    rw [hrefused]
    constructor
    · intro h
      exact absurd (Except.error.inj h) he
    · rintro ⟨hdefaulted, hmay, -⟩
      exact absurd ⟨hdefaulted, hmay⟩ hpasses

theorem eligible_mayWriteOff {m : PoolMember} {members : List PoolMember} {borrowerId : String}
    (hm : m ∈ writeOffEligible members borrowerId) (hvoter : m.userId = some voterId) :
    mayWriteOff members borrowerId voterId := by
  obtain ⟨hmem, heligible⟩ := List.mem_filter.mp hm
  refine ⟨?_, List.any_eq_true.mpr ⟨m, hmem, by simpa using hvoter⟩⟩
  rintro rfl
  rw [hvoter, Option.any_eq_true] at heligible
  obtain ⟨name, hname, hne⟩ := heligible
  have hsame : borrowerId = name := by
    unfold truthy at hname
    rw [Option.filter_eq_some_iff] at hname
    exact Option.some.inj hname.1
  rw [hsame] at hne
  simp at hne

/-- For every pool, loan and history of votes: the write-off is decided by a majority of its own,
with a vote for every eligible member, exactly if no eligible member has voted on the loan before
and other approvals do not decide. -/
theorem write_off_has_own_majority (t : Tables) (id loanId : String) :
    (∀ loan, t.loan? loanId = some loan → HasOwnMajority t id loan) ↔
      ∀ loan, t.loan? loanId = some loan → Defaulted t id loan → NoEarlierVotes t id loan ∧
        OthersDoNotDecide t id loan := by
  apply forall_congr'
  intro loan
  apply imp_congr_right
  intro hfound
  have hrow : t.loan? loan.id = some loan := (loan?_eq_some.mp hfound).2.symm ▸ hfound
  constructor
  · rintro ⟨hmajority, heveryone⟩ hdefaulted
    constructor
    · intro m hm vote hvote hloan hvoter
      by_contra hearlier
      have hkey : vote.key = (loan.id, vote.voterId) := Prod.ext hloan rfl
      refine heveryone m hm vote.voterId hvoter ?_ ((alreadyVoted_iff hrow).mpr
        ⟨hdefaulted, eligible_mayWriteOff hm hvoter, addWriteOff_eq_none.mpr ⟨vote, hvote, hkey⟩⟩)
      intro other hother hsame
      rw [Keyed.eq_of_key hother hvote (hsame.trans hkey.symm)]
      exact hearlier
    · rintro ⟨voterId, hmay, hfresh⟩
      have hadd : t.addWriteOff loan.id voterId ≠ none := by
        intro hnone
        obtain ⟨vote, hvote, hkey⟩ := addWriteOff_eq_none.mp hnone
        exact hfresh vote hvote hkey
      obtain ⟨t₁, ht₁⟩ := Option.ne_none_iff_exists'.mp hadd
      by_cases henough : writeOffThreshold (t.membersOf id) loan.borrowerId ≤
        t.ownApprovals id loan + t.otherApprovals id loan + 1
      · have hown := hmajority voterId ((writtenOff_iff hrow).mpr ⟨hdefaulted, hmay, hadd, henough⟩)
        rw [majority_iff, (writeOffAlone_cast hdefaulted hmay ht₁).1] at hown
        exact .inl hown
      · exact .inr (by omega)
  · intro hcondition
    constructor
    · intro voterId hwritten
      obtain ⟨hdefaulted, hmay, hadd, henough⟩ := (writtenOff_iff hrow).mp hwritten
      obtain ⟨t₁, ht₁⟩ := Option.ne_none_iff_exists'.mp hadd
      rw [majority_iff, (writeOffAlone_cast hdefaulted hmay ht₁).1]
      have hfresh : ∀ vote ∈ t.votes.rows, vote.key ≠ (loan.id, voterId) :=
        fun vote hvote hkey => hadd (addWriteOff_eq_none.mpr ⟨vote, hvote, hkey⟩)
      rcases (hcondition hdefaulted).2 ⟨voterId, hmay, hfresh⟩ with hown | hfew
      · exact hown
      · omega
    · intro m hm voterId hvoter hfree hrefused
      obtain ⟨hdefaulted, -, hnone⟩ := (alreadyVoted_iff hrow).mp hrefused
      obtain ⟨vote, hvote, hkey⟩ := addWriteOff_eq_none.mp hnone
      obtain ⟨hloan, hvoterId⟩ := Prod.mk.inj hkey
      exact hfree vote hvote hkey
        ((hcondition hdefaulted).1 m hm vote hvote hloan (hvoterId ▸ hvoter))

end Majorities

end VeriAgentPay.Pools

namespace VeriAgentPay.Devnet
open KeyedTables Pools PoolsService

def defaultedLoan : LoanApplication := { dueLoan with status := .defaulted }

/-- The loan of Alice, which Bob and Carol approved. Dave is a member too. -/
def overdue : Pools.Tables :=
  { lending defaultedLoan
    ⟨[⟨"loan", "bob", true, .approval⟩, ⟨"loan", "carol", true, .approval⟩], by decide⟩ with
    members := ["alice", "bob", "carol", "dave"].map fun id => ⟨"pool", some id, "@" ++ id⟩ }

theorem dave_decides :
    ((writeOffAlone overdue "pool" "loan" "dave").2.loan? "loan").map LoanApplication.status =
      some .repaid ∧
      (writeOffEligible (overdue.membersOf "pool") "alice").length = 3 ∧
      (writeOffAlone overdue "pool" "loan" "dave").2.ownApprovals "pool" defaultedLoan = 1 := by
  decide +kernel

/-- One member of three writes the loan off, and another cannot vote. -/
theorem written_off_by_one :
    overdue.loan? "loan" = some defaultedLoan ∧ ¬HasOwnMajority overdue "pool" defaultedLoan ∧
    WrittenOff overdue (writeOffAlone overdue "pool" "loan" "dave").2 "loan" ∧
    (writeOffAlone overdue "pool" "loan" "bob").1 = .error alreadyVoted := by
  obtain ⟨hstatus, heligible, hown⟩ := dave_decides
  have hrow : overdue.loan? "loan" = some defaultedLoan := by decide
  have hrowId : overdue.loan? defaultedLoan.id = some defaultedLoan := hrow
  have hwritten : WrittenOff overdue (writeOffAlone overdue "pool" "loan" "dave").2 "loan" := by
    obtain ⟨loan, hloan, hrepaid⟩ := Option.map_eq_some_iff.mp hstatus
    exact ⟨defaultedLoan, loan, hrow, hloan, by decide, hrepaid⟩
  have hrefused : (writeOffAlone overdue "pool" "loan" "bob").1 = .error alreadyVoted :=
    (alreadyVoted_iff hrowId).mpr ⟨⟨by decide, hrow, rfl, rfl⟩, by decide, by decide⟩
  refine ⟨hrow, ?_, hwritten, hrefused⟩
  intro hmajority
  have hmore := hmajority.majority "dave" hwritten
  have hthree : (writeOffEligible (overdue.membersOf "pool") defaultedLoan.borrowerId).length = 3 :=
    heligible
  have hone : (writeOffAlone overdue "pool" defaultedLoan.id "dave").2.ownApprovals "pool"
      defaultedLoan = 1 := hown
  rw [hthree, hone] at hmore
  omega

end VeriAgentPay.Devnet
