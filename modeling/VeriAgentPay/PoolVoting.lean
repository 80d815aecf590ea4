import VeriAgentPay.PoolServices
import VeriAgentPay.RecordedReplies

/-!
# Votes on loans, side by side

What every request to the tables of the pools leaves alone; and how the status of a loan agrees with
its votes when voters and executions run side by side.
-/

namespace VeriAgentPay.Pools
open InterleavedPrograms KeyedTables PoolsService
open InterleavedPrograms.Fallible (checked check onFailure dropResult)
open Backend (Failure)
open CheckedOutcome (orError)

section Frames

/-- What no request changes in a loan. -/
def LoanApplication.terms (loan : LoanApplication) :
    String × String × Bool × Option String × Option ℕ :=
  (loan.poolId, loan.borrowerId, loan.isExtension, loan.targetLoanId, loan.onChainRequestId)

/-- What every request leaves as it is, and what it only adds to. -/
structure Frames (t t' : Tables) : Prop where
  members : t'.members = t.members
  terms : ∀ loanId loan, t.loan? loanId = some loan →
    (t'.loan? loanId).map LoanApplication.terms = some loan.terms
  ruled : ∀ entry ∈ t.ruled, entry ∈ t'.ruled

variable {t t' : Tables} {loanId : String}

theorem loan?_updateLoan (t : Tables) (loanId loanId' : String) (condition : LoanApplication → Bool)
    (data : LoanApplication → LoanApplication) (hdata : ∀ loan, (data loan).id = loan.id) :
    (t.updateLoan loanId condition data hdata).loan? loanId' =
      (t.loan? loanId').map fun loan => if loan.id = loanId && condition loan then data loan
        else loan :=
  Keyed.find?_update hdata

theorem loan?_eq_some {loan : LoanApplication} : t.loan? loanId = some loan ↔ loan ∈ t.loans.rows ∧
    loan.id = loanId :=
  Keyed.find?_eq_some

theorem Frames.of_loans (hmembers : t'.members = t.members) (hloans : t'.loans = t.loans)
    (hruled : t'.ruled = t.ruled) :
    Frames t t' := by
  refine ⟨hmembers, ?_, ?_⟩
  · intro loanId loan hloan
    have hsame : t'.loan? loanId = t.loan? loanId := by simp only [Tables.loan?, hloans]
    rw [hsame, hloan]
    rfl
  · rw [hruled]
    exact fun _ h => h

theorem Frames.updateLoan (t : Tables) (loanId : String) (condition : LoanApplication → Bool)
    (data : LoanApplication → LoanApplication) (hdata : ∀ loan, (data loan).id = loan.id)
    (hterms : ∀ loan, (data loan).terms = loan.terms) :
    Frames t (t.updateLoan loanId condition data hdata) := by
  refine ⟨rfl, ?_, fun _ h => h⟩
  intro loanId' loan hloan
  rw [loan?_updateLoan, hloan]
  simp only [Option.map_some, Option.some.injEq]
  split_ifs
  · exact hterms loan
  · rfl

theorem carry_updateVoted (data : VotedUpdate) (h : (t.loan? loanId).isSome) :
    (carry t (.updateVoted loanId data)).2 =
      { t.updateLoan loanId (fun _ => true) (·.setVoted data)
        (fun _ => rfl) with ruled := (loanId, data) :: t.ruled } := by
  unfold carry
  exact congrArg Prod.snd (if_pos h)

theorem carry_updateVoted_missing (data : VotedUpdate) (h : ¬(t.loan? loanId).isSome) :
    (carry t (.updateVoted loanId data)).2 = t := by
  unfold carry
  exact congrArg Prod.snd (if_neg h)

theorem carry_frames (t : Tables) (r : Request) : Frames t (carry t r).2 := by
  cases r with
  | updateVoted loanId data =>
    have hframes :=
      Frames.updateLoan t loanId (fun _ => true) (·.setVoted data) (fun _ => rfl) fun _ => rfl
    by_cases hfound : (t.loan? loanId).isSome
    · rw [carry_updateVoted data hfound]
      exact ⟨hframes.members, hframes.terms, fun _ h => List.mem_cons_of_mem _ h⟩
    · rw [carry_updateVoted_missing data hfound]
      exact Frames.of_loans rfl rfl rfl
  | createVote vote =>
    unfold carry
    dsimp only
    split
    · exact Frames.of_loans rfl rfl rfl
    · exact Frames.of_loans rfl rfl rfl
  | createLoan loan =>
    unfold carry
    dsimp only
    split
    · next loans hinsert =>
      refine ⟨rfl, ?_, fun _ h => h⟩
      intro loanId old hold
      have hmem := loan?_eq_some.mp hold
      have hnew : ({ t with loans := loans } : Tables).loan? loanId = some old :=
        loan?_eq_some.mpr ⟨(Keyed.mem_insert hinsert).mpr (.inl hmem.1), hmem.2⟩
      rw [hnew]
      rfl
    · exact Frames.of_loans rfl rfl rfl
  | claimExecution loanId =>
    exact Frames.updateLoan t loanId executable (·.setStatus .executed) (fun _ => rfl) fun _ => rfl
  | releaseExecution loanId =>
    exact Frames.updateLoan t loanId unfunded (·.setStatus .pending) (fun _ => rfl) fun _ => rfl
  | moveDeadline loanId deadline =>
    exact Frames.updateLoan t loanId _ (·.setDeadline deadline) (fun _ => rfl) fun _ => rfl
  | executeExtension loanId deadline =>
    exact Frames.updateLoan t loanId _ (fun loan => (loan.setStatus .executed).setDeadline deadline)
      (fun _ => rfl) fun _ => rfl
  | closeWrittenOff loanId =>
    exact Frames.updateLoan t loanId _ (·.setStatus .repaid) (fun _ => rfl) fun _ => rfl
  | markDefaulted loanId =>
    exact Frames.updateLoan t loanId _ (·.setStatus .defaulted) (fun _ => rfl) fun _ => rfl
  | findPool | findVoter | countVotes | deleteVotes | decrementBalance | findLoan |
      countExtensions | findActiveLoans | now =>
    exact Frames.of_loans rfl rfl rfl

end Frames

section Reading

/-- A discipline of the services of the pools. -/
def poolDiscipline (conditions : StoreService.Conditions Tables Operation Request)
    (inv : Tables → Prop) (grows : Tables → Tables → Prop) :
    Discipline Tables Operation Request Answer :=
  ⟨poolServices, conditions, inv, grows⟩

/-- What was read of a pool is still so, as far as no request changes it. -/
structure Seen (view : PoolView) (id : String) (t : Tables) : Prop where
  members : view.members = t.members.filter (·.poolId = id)
  loans : ∀ loan ∈ view.loans, loan.poolId = id ∧
    (t.loan? loan.id).map LoanApplication.terms = some loan.terms

theorem Seen.later {view : PoolView} {id : String} {t t' : Tables} (h : Seen view id t)
    (hframes : Frames t t') :
    Seen view id t' := by
  refine ⟨?_, ?_⟩
  · rw [hframes.members]
    exact h.members
  · intro loan hloan
    obtain ⟨hpool, hterms⟩ := h.loans loan hloan
    obtain ⟨row, hrow, hsame⟩ := Option.map_eq_some_iff.mp hterms
    exact ⟨hpool, hsame ▸ hframes.terms loan.id row hrow⟩

/-- The loans of a pool that is read are rows of the table. -/
theorem loan_of_findPool {t : Tables} {id : String} {view : PoolView}
    (h : (carry t (.findPool id)).1 = some view) {loan : LoanApplication}
    (hloan : loan ∈ view.loans) : loan.poolId = id ∧ t.loan? loan.id = some loan := by
  obtain ⟨pool, -, rfl⟩ := Option.map_eq_some_iff.mp h
  obtain ⟨hmem, hpool⟩ := List.mem_filter.mp hloan
  exact ⟨of_decide_eq_true hpool, loan?_eq_some.mpr ⟨hmem, rfl⟩⟩

theorem seen_of_findPool {t : Tables} {id : String} {view : PoolView}
    (h : (carry t (.findPool id)).1 = some view) :
    Seen view id t := by
  constructor
  · obtain ⟨pool, -, rfl⟩ := Option.map_eq_some_iff.mp h
    rfl
  · intro loan hloan
    obtain ⟨hpool, hrow⟩ := loan_of_findPool h hloan
    rw [hrow]
    exact ⟨hpool, rfl⟩

variable {C : StoreService.Conditions Tables Operation Request} {I : Tables → Prop} {G : Tables →
  Tables → Prop}
  {i : ℕ} {op : Operation} {K : Tables → Prop}

theorem upholds_findOne (hrefl : ∀ t, G t t) (hframes : ∀ t t', G t t' → Frames t t')
    (hstable : (poolDiscipline C I G).Stable K) (id : String) :
    (poolDiscipline C I G).Upholds i op (findOne id) K (fun view t => K t ∧ Seen view id t)
      fun _ => True := by
  unfold findOne
  apply Discipline.Upholds.bind
    (R := fun found t => K t ∧ ∀ view, found = some view → Seen view id t)
  · apply Discipline.Upholds.read hrefl fun _ => rfl
    · intro found
      apply hstable.and
      intro t t' hgrows hseen view hview
      exact (hseen view hview).later (hframes t t' hgrows)
    · intro t hinv hK
      exact ⟨hK, fun view hview => seen_of_findPool hview⟩
  · intro found
    apply Discipline.Upholds.checked
    · intro view t hfound _ hseen
      exact ⟨hseen.1, hseen.2 view (CheckedOutcome.orError_eq_ok.mp hfound)⟩
    · exact fun _ _ => trivial

/-- A loan of the pool that was read. -/
theorem upholds_findLoanOf {view : PoolView} {id loanId : String} {e : Backend.Failure} :
    (poolDiscipline C I G).Upholds i op (findLoanOf view loanId e) (fun t => K t ∧ Seen view id t)
      (fun loan t => (loan ∈ view.loans ∧ loan.id = loanId) ∧ K t ∧ Seen view id t)
        fun _ => True := by
  apply Discipline.Upholds.checked
  · intro loan t hloan _ hseen
    have hfind := CheckedOutcome.orError_eq_ok.mp hloan
    exact ⟨⟨List.mem_of_find?_eq_some hfind, by simpa using List.find?_some hfind⟩, hseen⟩
  · exact fun _ _ => trivial

/-- What the requests of a vote keep. -/
structure VoteSteps (C : StoreService.Conditions Tables Operation Request) (I : Tables → Prop)
    (G : Tables → Tables → Prop) (i : ℕ) (op : Operation) : Prop where
  refl : ∀ t, G t t
  frames : ∀ t t', G t t' → Frames t t'
  createVote : ∀ t vote, I t → C.allows i op t (.createVote vote) →
    G t (carry t (.createVote vote)).2 ∧ I (carry t (.createVote vote)).2
  deleteVotes : ∀ t loanId voterId, I t → C.allows i op t (.deleteVotes loanId voterId) →
    G t (carry t (.deleteVotes loanId voterId)).2 ∧ I (carry t (.deleteVotes loanId voterId)).2
  decrementBalance : ∀ t poolId amount, I t → C.allows i op t (.decrementBalance poolId amount) →
    G t (carry t (.decrementBalance poolId amount)).2 ∧
    I (carry t (.decrementBalance poolId amount)).2
  updateVoted : ∀ t view id loan data (onChainLoanId : Option ℕ), I t → Seen view id t →
    loan ∈ view.loans →
    (data.disbursed = none ↔ onChainLoanId = none) →
    data.status = votedStatus onChainLoanId data.approveVotes data.rejectVotes
      (votingThreshold view.members loan.borrowerId) →
    C.allows i op t (.updateVoted loan.id data) →
    G t (carry t (.updateVoted loan.id data)).2 ∧ I (carry t (.updateVoted loan.id data)).2

theorem Seen.stable (hframes : ∀ t t', G t t' → Frames t t') {view : PoolView} {id : String} :
    (poolDiscipline C I G).Stable fun t => Seen view id t :=
  fun t t' hgrows hseen => hseen.later (hframes t t' hgrows)

theorem upholds_recordVote (hsteps : VoteSteps C I G i op) {view : PoolView} {id : String}
    {loan : LoanApplication} (hloan : loan ∈ view.loans) (approveVotes rejectVotes : ℕ)
    (outcome : Option ℕ × Option String) :
    (poolDiscipline C I G).Upholds i op (recordVote view loan approveVotes rejectVotes outcome)
      (fun t => Seen view id t) (fun _ _ => True) fun _ => True := by
  unfold recordVote
  apply Discipline.Upholds.bind (R := fun disbursed t => (disbursed = none ↔ outcome.1 = none) ∧
    Seen view id t)
  · cases hchain : outcome.1 with
    | none => exact Discipline.Upholds.pure fun t _ hseen => ⟨by simp, hseen⟩
    | some onChainLoanId =>
      apply Discipline.Upholds.bind (R := fun _ t => Seen view id t)
      · exact Discipline.Upholds.look hsteps.refl (fun _ => rfl) (Seen.stable hsteps.frames)
      · intro now
        exact Discipline.Upholds.pure fun t _ hseen => ⟨by simp, hseen⟩
  · intro disbursed
    apply Discipline.Upholds.assuming
    intro hdisbursed
    apply Discipline.Upholds.bind (R := fun _ _ => True)
    · apply Discipline.Upholds.ask fun _ => Discipline.stable_const True
      intro t ht hseen hallows
      have hstep := hsteps.updateVoted t view id loan ⟨approveVotes, rejectVotes, _,
        disbursed⟩ outcome.1 ht hseen hloan hdisbursed
        rfl hallows
      exact ⟨hstep.1, hstep.2, trivial⟩
    · intro updated
      apply Discipline.Upholds.bind (R := fun _ _ => True)
      · split_ifs
        · apply Discipline.Upholds.ask fun _ => Discipline.stable_const True
          intro t ht _ hallows
          have hstep := hsteps.decrementBalance t _ _ ht hallows
          exact ⟨hstep.1, hstep.2, trivial⟩
        · exact Discipline.Upholds.pure fun _ _ _ => trivial
      · intro _
        exact Discipline.Upholds.pure fun _ _ _ => trivial

theorem upholds_voteLoan (hsteps : VoteSteps C I G i op) (id loanId voterId : String)
    (approve : Bool) (choice : ℕ) (chain : ChainVote) :
    (poolDiscipline C I G).Upholds i op (voteLoan id loanId voterId approve choice chain)
      (fun _ => True) (fun _ _ => True)
      fun _ => True := by
  have hseen : ∀ view, (poolDiscipline C I G).Stable fun t => Seen view id t :=
    fun _ => Seen.stable hsteps.frames
  unfold voteLoan
  apply Discipline.Upholds.bind
    (upholds_findOne hsteps.refl hsteps.frames (Discipline.stable_const True) id)
  intro view
  apply Discipline.Upholds.bind upholds_findLoanOf
  intro loan
  apply Discipline.Upholds.assuming
  rintro ⟨hloan, -⟩
  apply Discipline.Upholds.bind (R := fun _ t => Seen view id t)
  · exact (Discipline.Upholds.require fun _ _ => trivial).weaken (fun _ _ h => h.2) (fun _ _ h => h)
      fun _ h => h
  intro _
  apply Discipline.Upholds.bind (R := fun _ t => Seen view id t)
  · exact Discipline.Upholds.look hsteps.refl (fun _ => rfl) (hseen view)
  intro found
  apply Discipline.Upholds.bind (R := fun _ t => Seen view id t)
  · exact Discipline.Upholds.checked (fun _ _ _ _ hseen => hseen) fun _ _ => trivial
  intro voter
  apply Discipline.Upholds.bind (R := fun _ t => Seen view id t)
  · exact Discipline.Upholds.require fun _ _ => trivial
  intro _
  apply Discipline.Upholds.bind (R := fun _ t => Seen view id t)
  · exact Discipline.Upholds.require fun _ _ => trivial
  intro _
  apply Discipline.Upholds.bind (R := fun _ t => Seen view id t)
  · apply Discipline.Upholds.ask fun _ => hseen view
    intro t ht hview hallows
    have hstep := hsteps.createVote t _ ht hallows
    exact ⟨hstep.1, hstep.2, hview.later (hsteps.frames _ _ hstep.1)⟩
  intro created
  apply Discipline.Upholds.bind (R := fun _ t => Seen view id t)
  · exact Discipline.Upholds.require fun _ _ => trivial
  intro _
  apply Discipline.Upholds.bind (R := fun _ t => Seen view id t)
  · exact Discipline.Upholds.look hsteps.refl (fun _ => rfl) (hseen view)
  intro approveVotes
  apply Discipline.Upholds.bind (R := fun _ t => Seen view id t)
  · exact Discipline.Upholds.look hsteps.refl (fun _ => rfl) (hseen view)
  intro rejectVotes
  apply Discipline.Upholds.bind (R := fun _ t => Seen view id t)
  · apply Discipline.Upholds.onFailure (R := fun _ => True)
    · unfold voteOnLoanOnChain
      apply Discipline.Upholds.bind (R := fun _ t => Seen view id t)
      · exact Discipline.Upholds.require fun _ _ => trivial
      intro _
      apply Discipline.Upholds.bind (R := fun _ t => Seen view id t)
      · exact Discipline.Upholds.require fun _ _ => trivial
      intro _
      exact Discipline.Upholds.checked (fun _ _ _ _ hseen => hseen) fun _ _ => trivial
    · apply Discipline.Upholds.ask fun _ => Discipline.stable_const True
      intro t ht _ hallows
      have hstep := hsteps.deleteVotes t _ _ ht hallows
      exact ⟨hstep.1, hstep.2, trivial⟩
  intro outcome
  exact upholds_recordVote hsteps hloan approveVotes rejectVotes outcome

end Reading

section Agreement

def Tables.threshold (t : Tables) (loan : LoanApplication) : ℕ :=
  votingThreshold (t.members.filter (·.poolId = loan.poolId)) loan.borrowerId

/-- A decision that is stored has the votes it needs. -/
def AgreesWithVotes (t : Tables) (loan : LoanApplication) : Prop :=
  (loan.status = .approved → t.threshold loan ≤ t.countVotes loan.id true) ∧
    (loan.status = .rejected → t.threshold loan ≤ t.countVotes loan.id false)

def Disbursed (loan : LoanApplication) : Prop := loan.status = .executed ∧ loan.onChainLoanId ≠ none

instance (t : Tables) (loan : LoanApplication) : Decidable (AgreesWithVotes t loan) :=
  inferInstanceAs (Decidable (_ ∧ _))
instance : DecidablePred Disbursed := fun _ => inferInstanceAs (Decidable (_ ∧ _))

/-- A vote does not write over a disbursed loan, and no vote that it counted for its decision is
gone. -/
def VoteStands (t : Tables) (loanId : String) (data : VotedUpdate) : Prop :=
  (data.disbursed = none → ∀ loan ∈ t.loan? loanId, ¬Disbursed loan) ∧
    (data.status = .approved → data.approveVotes ≤ t.countVotes loanId true) ∧
    (data.status = .rejected → data.rejectVotes ≤ t.countVotes loanId false)

instance (t : Tables) (loanId : String) (data : VotedUpdate) :
    Decidable (VoteStands t loanId data) :=
  inferInstanceAs (Decidable (_ ∧ _ ∧ _))

/-- Of the votes on a loan, those of one voter. -/
def Tables.countOwn (t : Tables) (loanId voterId : String) (approve : Bool) : ℕ :=
  t.votes.count fun vote => (vote.loanId = loanId ∧ vote.approve = approve) ∧ vote.voterId = voterId

/-- A stored decision has the votes it needs without those of the voter. -/
def WithdrawalStands (t : Tables) (loanId voterId : String) : Prop :=
  ∀ loan ∈ t.loan? loanId,
    (loan.status = .approved →
      t.threshold loan + t.countOwn loanId voterId true ≤ t.countVotes loanId true) ∧
      (loan.status = .rejected →
        t.threshold loan + t.countOwn loanId voterId false ≤ t.countVotes loanId false)

instance (t : Tables) (loanId voterId : String) : Decidable (WithdrawalStands t loanId voterId) :=
  inferInstanceAs (Decidable (∀ loan ∈ t.loan? loanId, _))

/-- The loan that an execution claims is not approved. -/
def ClaimStands (t : Tables) (loanId : String) : Prop :=
  ∀ loan ∈ t.loan? loanId, loan.status ≠ .approved

instance (t : Tables) (loanId : String) : Decidable (ClaimStands t loanId) :=
  inferInstanceAs (Decidable (∀ loan ∈ t.loan? loanId, _))

/-- Votes and executions that are not overtaken. -/
def votesStand : StoreService.Conditions Tables Operation Request where
  starts
    | .voteLoan .. | .executeLoan .. => True
    | _ => False
  allows _ _ t
    | .updateVoted loanId data => VoteStands t loanId data
    | .deleteVotes loanId voterId => WithdrawalStands t loanId voterId
    | .claimExecution loanId => ClaimStands t loanId
    | _ => True
  passes _ _ := True

instance : DecidablePred votesStand.starts
  | .voteLoan .. | .executeLoan .. => .isTrue trivial
  | .requestExtension .. | .writeOffLoan .. | .handleLoanRepaymentReminders => .isFalse id

instance (i : ℕ) (op : Operation) (t : Tables) (r : Request) :
    Decidable (votesStand.allows i op t r) := by
  cases r with
  | updateVoted loanId data => exact inferInstanceAs (Decidable (VoteStands t loanId data))
  | deleteVotes loanId voterId =>
    exact inferInstanceAs (Decidable (WithdrawalStands t loanId voterId))
  | claimExecution loanId => exact inferInstanceAs (Decidable (ClaimStands t loanId))
  | _ => exact .isTrue trivial

instance (t t' : Tables) : Decidable (votesStand.passes t t') := .isTrue trivial

/-- The invariant: the decisions that are stored have their votes. -/
def Settled (t : Tables) : Prop := ∀ loan ∈ t.loans.rows, AgreesWithVotes t loan

/-- A loan that was disbursed stays so. -/
structure Advances (t t' : Tables) : Prop extends Frames t t' where
  disbursed : ∀ loanId loan, t.loan? loanId = some loan → Disbursed loan →
    ∃ loan', t'.loan? loanId = some loan' ∧ Disbursed loan'

abbrev votingDiscipline := poolDiscipline votesStand Settled Advances

variable {t : Tables} {loanId : String} {condition : LoanApplication → Bool}
  {data : LoanApplication → LoanApplication}
  (hdata : ∀ loan, (data loan).id = loan.id)

theorem Advances.refl (t : Tables) : Advances t t :=
  ⟨Frames.of_loans rfl rfl rfl, fun _ loan hloan hdisbursed => ⟨loan, hloan, hdisbursed⟩⟩

/-- A request that leaves the loans alone. -/
theorem Advances.of_loans {r : Request} (hloans : (carry t r).2.loans = t.loans) :
    Advances t (carry t r).2 := by
  refine ⟨carry_frames t r, ?_⟩
  intro loanId loan hloan hdisbursed
  refine ⟨loan, ?_, hdisbursed⟩
  simpa only [Tables.loan?, hloans] using hloan

theorem disbursed_updateLoan
    (hkeeps : ∀ loan, t.loan? loanId = some loan → condition loan → Disbursed loan →
      Disbursed (data loan))
    {loanId' : String} {loan : LoanApplication} (hloan : t.loan? loanId' = some loan)
    (hdisbursed : Disbursed loan) :
    ∃ loan', (t.updateLoan loanId condition data hdata).loan? loanId' = some loan' ∧
      Disbursed loan' := by
  rw [loan?_updateLoan, hloan]
  refine ⟨_, rfl, ?_⟩
  dsimp only
  split_ifs with hrow
  · simp only [Bool.and_eq_true, decide_eq_true_eq] at hrow
    have hid : loanId' = loanId := (loan?_eq_some.mp hloan).2 ▸ hrow.1
    exact hkeeps loan (hid ▸ hloan) hrow.2 hdisbursed
  · exact hdisbursed

theorem agrees_updateLoan (hagrees : ∀ loan ∈ t.loans.rows, AgreesWithVotes t loan)
    (hkeeps : ∀ loan, t.loan? loanId = some loan → condition loan → AgreesWithVotes t (data loan)) :
    ∀ loan ∈ (t.updateLoan loanId condition data hdata).loans.rows, AgreesWithVotes t loan := by
  intro loan hloan
  rcases Keyed.of_mem_update hdata hloan with ⟨hold, -⟩ | ⟨old, hold, hrow, rfl⟩
  · exact hagrees loan hold
  · simp only [Bool.and_eq_true, decide_eq_true_eq] at hrow
    exact hkeeps old (loan?_eq_some.mpr ⟨hold, hrow.1⟩) hrow.2

theorem agrees_of_undecided {loan : LoanApplication} (happroved : loan.status ≠ .approved)
    (hrejected : loan.status ≠ .rejected) :
    AgreesWithVotes t loan :=
  ⟨fun h => absurd h happroved, fun h => absurd h hrejected⟩

theorem votedStatus_cases (onChainLoanId : Option ℕ) (approveVotes rejectVotes threshold : ℕ) :
    (onChainLoanId ≠ none ∧
      votedStatus onChainLoanId approveVotes rejectVotes threshold = .executed) ∨
      onChainLoanId = none ∧
        (votedStatus onChainLoanId approveVotes rejectVotes threshold = .approved →
          threshold ≤ approveVotes) ∧
        (votedStatus onChainLoanId approveVotes rejectVotes threshold = .rejected →
          threshold ≤ rejectVotes) := by
  unfold votedStatus
  split_ifs with hdisbursed happroved hrejected
  · exact .inl ⟨hdisbursed, rfl⟩
  · exact .inr ⟨not_not.mp hdisbursed, fun _ => happroved, fun h => nomatch h⟩
  · refine .inr ⟨not_not.mp hdisbursed, ?_, fun _ => hrejected⟩
    rintro ⟨⟩
  · refine .inr ⟨not_not.mp hdisbursed, ?_, ?_⟩
    · rintro ⟨⟩
    · rintro ⟨⟩

/-- What a vote writes, where the condition on it holds. -/
theorem updateVoted_step {op : Operation} {view : PoolView} {id : String} {loan : LoanApplication}
    (ht : Settled t) (hseen : Seen view id t) (hloan : loan ∈ view.loans) {data : VotedUpdate}
    {onChainLoanId : Option ℕ} (hdisbursed : data.disbursed = none ↔ onChainLoanId = none)
    (hstatus : data.status = votedStatus onChainLoanId data.approveVotes data.rejectVotes
      (votingThreshold view.members loan.borrowerId))
    (hallows : votesStand.allows i op t (.updateVoted loan.id data)) :
    Advances t (carry t (.updateVoted loan.id data)).2 ∧
    Settled (carry t (.updateVoted loan.id data)).2 := by
  obtain ⟨hopen, happroved, hrejected⟩ := hallows
  have hcases := votedStatus_cases onChainLoanId data.approveVotes data.rejectVotes
    (votingThreshold view.members loan.borrowerId)
  rw [← hstatus] at hcases
  -- the row that is written has the terms of the loan that was read
  have hthreshold : ∀ row, t.loan? loan.id = some row →
      t.threshold row = votingThreshold view.members loan.borrowerId := by
    intro row hrow
    obtain ⟨hpool, hterms⟩ := hseen.loans loan hloan
    rw [hrow] at hterms
    simp only [Option.map_some, Option.some.injEq, LoanApplication.terms, Prod.mk.injEq] at hterms
    rw [Tables.threshold, hterms.1, hterms.2.1, hpool, hseen.members]
  have hid : ∀ row : LoanApplication, (row.setVoted data).id = row.id := fun _ => rfl
  have hframes := carry_frames t (.updateVoted loan.id data)
  by_cases hfound : (t.loan? loan.id).isSome
  · rw [carry_updateVoted data hfound] at hframes ⊢
    refine ⟨⟨hframes, ?_⟩, ?_⟩
    · intro loanId' old hold hdone
      refine disbursed_updateLoan hid ?_ hold hdone
      intro row hrow _ hrowDone
      rcases hcases with ⟨hchain, hexecuted⟩ | ⟨hchain, -⟩
      · obtain ⟨d, hd⟩ := Option.ne_none_iff_exists'.mp fun h => hchain (hdisbursed.mp h)
        exact ⟨hexecuted, by simp [LoanApplication.setVoted, hd]⟩
      · exact absurd hrowDone (hopen (hdisbursed.mpr hchain) row hrow)
    · refine agrees_updateLoan hid ht ?_
      intro row hrow _
      have hrowId : row.id = loan.id := (loan?_eq_some.mp hrow).2
      have hrowThreshold : t.threshold (row.setVoted data) =
          votingThreshold view.members loan.borrowerId := hthreshold row hrow
      constructor
      · intro hdecided
        have hdecided' : data.status = .approved := hdecided
        show t.threshold (row.setVoted data) ≤ t.countVotes row.id true
        rw [hrowThreshold, hrowId]
        rcases hcases with ⟨-, hexecuted⟩ | ⟨-, hcounted, -⟩
        · cases hexecuted.symm.trans hdecided'
        · exact (hcounted hdecided').trans (happroved hdecided')
      · intro hdecided
        have hdecided' : data.status = .rejected := hdecided
        show t.threshold (row.setVoted data) ≤ t.countVotes row.id false
        rw [hrowThreshold, hrowId]
        rcases hcases with ⟨-, hexecuted⟩ | ⟨-, -, hcounted⟩
        · cases hexecuted.symm.trans hdecided'
        · exact (hcounted hdecided').trans (hrejected hdecided')
  · rw [carry_updateVoted_missing data hfound]
    exact ⟨Advances.refl t, ht⟩

theorem createVote_step (ht : Settled t) (vote : LoanVote) :
    Advances t (carry t (.createVote vote)).2 ∧ Settled (carry t (.createVote vote)).2 := by
  have hframes := carry_frames t (.createVote vote)
  unfold carry at hframes ⊢
  dsimp only at hframes ⊢
  cases hinsert : t.votes.insert vote with
  | none => exact ⟨Advances.refl t, ht⟩
  | some votes =>
    simp only [hinsert] at hframes ⊢
    have hmore :
        ∀ loanId approve, t.countVotes loanId approve ≤ ({ t with votes := votes } :
          Tables).countVotes loanId approve := by
      intro loanId approve
      simp only [Tables.countVotes, Keyed.count_insert hinsert]
      omega
    refine ⟨⟨hframes, fun _ loan hloan hdone => ⟨loan, hloan, hdone⟩⟩, ?_⟩
    intro loan hloan
    obtain ⟨happroved, hrejected⟩ := ht loan hloan
    exact ⟨fun h => (happroved h).trans (hmore _ _), fun h => (hrejected h).trans (hmore _ _)⟩

theorem countVotes_deleteVotes (t : Tables) (loanId voterId : String) (approve : Bool) :
    (t.deleteVotes loanId voterId).countVotes loanId approve + t.countOwn loanId voterId approve =
      t.countVotes loanId approve := by
  have hsplit := List.countP_eq_countP_filter_add t.votes.rows
    (fun vote => decide (vote.loanId = loanId ∧ vote.approve = approve))
    (fun vote => decide (vote.loanId = loanId ∧ vote.voterId = voterId))
  have hown : List.countP
      (fun vote : LoanVote => decide (vote.loanId = loanId ∧ vote.approve = approve))
      (t.votes.rows.filter fun vote => decide (vote.loanId = loanId ∧ vote.voterId = voterId)) =
      t.countOwn loanId voterId approve := by
    simp only [Tables.countOwn, Keyed.count, List.countP_filter]
    apply List.countP_congr
    intro vote _
    simp only [Bool.and_eq_true, decide_eq_true_eq]
    tauto
  rw [hown] at hsplit
  rw [Nat.add_comm]
  exact hsplit.symm

theorem deleteVotes_step {i : ℕ} {op : Operation} {voterId : String} (ht : Settled t)
    (hallows : votesStand.allows i op t (.deleteVotes loanId voterId)) :
    Advances t (carry t (.deleteVotes loanId voterId)).2 ∧
    Settled (carry t (.deleteVotes loanId voterId)).2 := by
  refine ⟨Advances.of_loans rfl, ?_⟩
  intro loan hloan
  by_cases hid : loan.id = loanId
  · subst hid
    obtain ⟨happroved, hrejected⟩ := hallows loan (loan?_eq_some.mpr ⟨hloan, rfl⟩)
    have hleft : ∀ approve, t.threshold loan +
        t.countOwn loan.id voterId approve ≤ t.countVotes loan.id approve →
        t.threshold loan ≤ (t.deleteVotes loan.id voterId).countVotes loan.id approve := by
      intro approve henough
      have hcount := countVotes_deleteVotes t loan.id voterId approve
      omega
    exact ⟨fun h => hleft true (happroved h), fun h => hleft false (hrejected h)⟩
  · -- the votes on other loans stay
    have hsame : ∀ approve, (t.deleteVotes loanId voterId).countVotes loan.id approve =
        t.countVotes loan.id approve := by
      intro approve
      simp only [Tables.countVotes, Tables.deleteVotes, Keyed.count, Keyed.delete,
        List.countP_filter]
      apply List.countP_congr
      intro vote _
      simp only [Bool.and_eq_true, decide_eq_true_eq, Bool.not_eq_true',
        decide_eq_false_iff_not, not_and]
      constructor
      · exact fun h => h.1
      · exact fun h => ⟨h, fun heq => absurd (h.1.symm.trans heq) hid⟩
    obtain ⟨happroved, hrejected⟩ := ht loan hloan
    exact ⟨fun h => (happroved h).trans_eq (hsame true).symm, fun h => (hrejected h).trans_eq
      (hsame false).symm⟩

theorem of_matching {n : ℕ} (h : t.matching loanId condition = n + 1) :
    ∃ loan, t.loan? loanId = some loan ∧ condition loan := by
  have hpos : 0 < t.matching loanId condition := by omega
  obtain ⟨loan, hloan, hrow⟩ := List.countP_pos_iff.mp hpos
  simp only [Bool.and_eq_true, decide_eq_true_eq] at hrow
  exact ⟨loan, loan?_eq_some.mpr ⟨hloan, hrow.1⟩, hrow.2⟩

theorem claimExecution_step (ht : Settled t) :
    Advances t (carry t (.claimExecution loanId)).2 ∧
    Settled (carry t (.claimExecution loanId)).2 := by
  have hid : ∀ row : LoanApplication, (row.setStatus .executed).id = row.id := fun _ => rfl
  refine ⟨⟨carry_frames t (.claimExecution loanId), ?_⟩, ?_⟩
  · intro loanId' old hold hdone
    refine disbursed_updateLoan hid ?_ hold hdone
    intro row _ _ hrowDone
    exact ⟨rfl, hrowDone.2⟩
  · refine agrees_updateLoan hid ht ?_
    intro row _ _
    exact agrees_of_undecided (by rintro ⟨⟩) (by rintro ⟨⟩)

theorem releaseExecution_step (ht : Settled t) :
    Advances t (carry t (.releaseExecution loanId)).2 ∧
    Settled (carry t (.releaseExecution loanId)).2 := by
  have hid : ∀ row : LoanApplication, (row.setStatus .pending).id = row.id := fun _ => rfl
  refine ⟨⟨carry_frames t (.releaseExecution loanId), ?_⟩, ?_⟩
  · intro loanId' old hold hdone
    refine disbursed_updateLoan hid ?_ hold hdone
    intro row _ hunfunded hrowDone
    have hcases : row.status = .executed ∧ row.onChainLoanId = none := of_decide_eq_true hunfunded
    exact absurd hcases.2 hrowDone.2
  · refine agrees_updateLoan hid ht ?_
    intro row _ _
    exact agrees_of_undecided (by rintro ⟨⟩) (by rintro ⟨⟩)

theorem upholds_claimAndReport (i : ℕ) (op : Operation) (loan : LoanApplication) :
    votingDiscipline.Upholds i op (claimAndReport loan) (fun _ => True) (fun _ _ => True)
      fun _ => True := by
  unfold claimAndReport
  apply Discipline.Upholds.bind (R := fun _ _ => True)
  · apply Discipline.Upholds.ask fun _ => Discipline.stable_const True
    intro t ht _ _
    exact ⟨(claimExecution_step ht).1, (claimExecution_step ht).2, trivial⟩
  intro claimed
  split_ifs
  · apply Discipline.Upholds.bind (R := fun _ _ => True)
    · exact Discipline.Upholds.look Advances.refl (fun _ => rfl) (Discipline.stable_const True)
    intro current
    apply Discipline.Upholds.bind (R := fun _ _ => True)
    · exact Discipline.Upholds.checked (fun _ _ _ _ _ => trivial) fun _ _ => trivial
    intro _
    exact Discipline.Upholds.pure fun _ _ _ => trivial
  · exact Discipline.Upholds.pure fun _ _ _ => trivial
  · apply Discipline.Upholds.bind (R := fun _ _ => True)
    · apply Discipline.Upholds.ask fun _ => Discipline.stable_const True
      intro t ht _ _
      exact ⟨(releaseExecution_step ht).1, (releaseExecution_step ht).2, trivial⟩
    intro _
    exact Discipline.Upholds.checked (fun _ _ _ _ _ => trivial) fun _ _ => trivial

theorem moveDeadline_step {deadline : ℤ} (ht : Settled t) :
    Advances t (carry t (.moveDeadline loanId deadline)).2 ∧
    Settled (carry t (.moveDeadline loanId deadline)).2 := by
  have hid : ∀ row : LoanApplication, (row.setDeadline deadline).id = row.id := fun _ => rfl
  refine ⟨⟨carry_frames t (.moveDeadline loanId deadline), ?_⟩, ?_⟩
  · intro loanId' old hold hdone
    exact disbursed_updateLoan hid (fun _ _ _ hrowDone => hrowDone) hold hdone
  · refine agrees_updateLoan hid ht ?_
    intro row hrow _
    exact ht row (loan?_eq_some.mp hrow).1

theorem executeExtension_step {deadline : ℤ} (ht : Settled t) :
    Advances t (carry t (.executeExtension loanId deadline)).2 ∧
    Settled (carry t (.executeExtension loanId deadline)).2 := by
  have hid : ∀ row :
      LoanApplication, ((row.setStatus .executed).setDeadline deadline).id = row.id := fun _ => rfl
  refine ⟨⟨carry_frames t (.executeExtension loanId deadline), ?_⟩, ?_⟩
  · intro loanId' old hold hdone
    exact disbursed_updateLoan hid (fun _ _ _ hrowDone => ⟨rfl, hrowDone.2⟩) hold hdone
  · refine agrees_updateLoan hid ht ?_
    intro row _ _
    exact agrees_of_undecided (by rintro ⟨⟩) (by rintro ⟨⟩)

theorem upholds_executeExtension (i : ℕ) (op : Operation) (view : PoolView) (loan : LoanApplication)
    (targetLoanId : String) :
    votingDiscipline.Upholds i op (executeExtension view loan targetLoanId) (fun _ => True)
      (fun _ _ => True) fun _ => True := by
  unfold executeExtension
  apply Discipline.Upholds.bind (R := fun _ _ => True)
  · cases (view.loans.find? (·.id = targetLoanId)).bind LoanApplication.repaymentDeadline with
    | some deadline => exact Discipline.Upholds.pure fun _ _ _ => trivial
    | none =>
      exact Discipline.Upholds.look Advances.refl (fun _ => rfl) (Discipline.stable_const True)
  intro currentDeadline
  apply Discipline.Upholds.bind (R := fun _ _ => True)
  · apply Discipline.Upholds.ask fun _ => Discipline.stable_const True
    intro t ht _ _
    exact ⟨(moveDeadline_step ht).1, (moveDeadline_step ht).2, trivial⟩
  intro moved
  apply Discipline.Upholds.bind (R := fun _ _ => True)
  · exact Discipline.Upholds.require fun _ _ => trivial
  intro _
  apply Discipline.Upholds.bind (R := fun _ _ => True)
  · apply Discipline.Upholds.ask fun _ => Discipline.stable_const True
    intro t ht _ _
    exact ⟨(executeExtension_step ht).1, (executeExtension_step ht).2, trivial⟩
  intro executed
  apply Discipline.Upholds.bind (R := fun _ _ => True)
  · exact Discipline.Upholds.require fun _ _ => trivial
  intro _
  exact Discipline.Upholds.pure fun _ _ _ => trivial

theorem upholds_executeLoan (i : ℕ) (op : Operation) (id loanId : String) :
    votingDiscipline.Upholds i op (executeLoan id loanId) (fun _ => True) (fun _ _ => True)
      fun _ => True := by
  unfold executeLoan
  apply Discipline.Upholds.bind
    (upholds_findOne Advances.refl (fun _ _ h => h.toFrames) (Discipline.stable_const True) id)
  intro view
  apply Discipline.Upholds.bind upholds_findLoanOf
  intro loan
  split_ifs
  · exact Discipline.Upholds.pure fun _ _ _ => trivial
  all_goals
    apply Discipline.Upholds.bind (R := fun _ _ => True)
    · exact (Discipline.Upholds.require fun _ _ => trivial).weaken (fun _ _ _ => trivial)
        (fun _ _ h => h) fun _ h => h
    intro _
    split
    · exact upholds_executeExtension i op view loan _
    · exact upholds_claimAndReport i op loan

theorem votingDiscipline_voteSteps (i : ℕ) (op : Operation) :
    VoteSteps votesStand Settled Advances i op where
  refl := Advances.refl
  frames _ _ h := h.toFrames
  createVote _ vote ht _ := createVote_step ht vote
  deleteVotes _ _ _ ht hallows := deleteVotes_step ht hallows
  decrementBalance _ _ _ ht _ := ⟨Advances.of_loans rfl, ht⟩
  updateVoted _ _ _ _ _ _ ht hseen hloan hdisbursed hstatus hallows :=
    updateVoted_step ht hseen hloan hdisbursed hstatus hallows

theorem voting_calls (i : ℕ) (op : Operation) (hstarts : votesStand.starts op) :
    votingDiscipline.Upholds i op op.call (fun _ => True) (fun _ _ => True) fun _ => True := by
  cases op with
  | voteLoan id loanId voterId approve choice chain =>
    exact (upholds_voteLoan
      (votingDiscipline_voteSteps i _) id loanId voterId approve choice chain).silent
  | executeLoan id loanId => exact (upholds_executeLoan i _ id loanId).silent
  | requestExtension | writeOffLoan | handleLoanRepaymentReminders => exact absurd hstarts id

end Agreement

section Rollbacks

/-- The calls with what their callers are told. -/
abbrev poolCalls : StoreService (Recorded Tables Operation (Except Failure Unit)) Operation
    (Spoken Request (Except Failure Unit)) (Spoken.Answer Answer) :=
  poolServices.recording fun op => op.call.run

/-- The loan that a call executes has been claimed. -/
def Claims (op : Operation) (r : Request) (x : Answer r) : Prop :=
  match op, r, x with
  | .executeLoan _ loanId, .claimExecution id, n => id = loanId ∧ n = 1
  | _, _, _ => False

/-- The claim has been given up. -/
def Releases (op : Operation) (r : Request) (_ : Answer r) : Prop :=
  ∃ id loanId, op = .executeLoan id loanId ∧ r = .releaseExecution loanId

/-- Until the claim, the loan is not released. -/
def Unreleased (op : Operation) (r : Request) : Prop := ∀ x, ¬Releases op r x

/-- An execution does not tell its caller that the loan is not funded. -/
def Unreported (op : Operation) (result : Except Failure Unit) : Prop :=
  ∀ id loanId, op = .executeLoan id loanId → result ≠ .error unfundedLoan

variable {gate : (r : Request) → Answer r → Prop} {before : Request → Prop} {E : Failure → Prop}
  {id loanId : String}

/-- Up to the claim nothing but rows is read. -/
theorem gated_executeLoan {E : Failure → Prop} (hreads : ∀ id, before (.findPool id))
    (hmoves : ∀ id n, before (.moveDeadline id n))
    (hexecutes : ∀ id n, before (.executeExtension id n)) (hnow : before .now)
    (hE : ∀ e, e ≠ unfundedLoan → E e) (hclaim : ∀ loan, loan.id = loanId →
      (claimAndReport loan).GatedWith (fun _ _ => True) gate before (fun _ => True) E) :
    (executeLoan id loanId).GatedWith (fun _ _ => True) gate before (fun _ => True) E := by
  unfold executeLoan findOne
  apply Fallible.GatedWith.andThen (Q := fun _ => True)
  · apply Fallible.GatedWith.andThen (Q := fun _ => True)
      (Fallible.gatedWith_ask (hreads _) fun _ _ => .inr trivial)
    intro view _
    apply Fallible.gatedWith_checked fun _ _ => trivial
    intro e he
    obtain ⟨-, rfl⟩ := CheckedOutcome.orError_eq_error.mp he
    exact hE _ (by decide)
  intro view _
  apply Fallible.GatedWith.andThen (Q := fun loan => loan.id = loanId)
  · apply Fallible.gatedWith_checked
    · intro loan hloan
      simpa using List.find?_some (CheckedOutcome.orError_eq_ok.mp hloan)
    · intro e he
      obtain ⟨-, rfl⟩ := CheckedOutcome.orError_eq_error.mp he
      exact hE _ (by decide)
  intro loan hloan
  by_cases hexecuted : loan.status = .executed
  · rw [if_pos hexecuted]
    exact Fallible.gatedWith_checked (fun _ _ => trivial) fun _ he => (nomatch he)
  rw [if_neg hexecuted]
  apply Fallible.GatedWith.andThen
    (Fallible.gatedWith_check (Q := fun _ => True) (fun _ => trivial) (hE _ (by decide)))
  intro _ _
  split
  · unfold executeExtension
    apply Fallible.GatedWith.andThen (Q := fun _ => True)
    · cases (view.loans.find? _).bind LoanApplication.repaymentDeadline with
      | some deadline => exact Fallible.gatedWith_checked (fun _ _ => trivial) fun _ he =>
        (nomatch he)
      | none => exact Fallible.gatedWith_ask hnow fun _ _ => .inr trivial
    intro currentDeadline _
    apply Fallible.GatedWith.andThen (Q := fun _ => True)
      (Fallible.gatedWith_ask (hmoves _ _) fun _ _ => .inr trivial)
    intro moved _
    apply Fallible.GatedWith.andThen
      (Fallible.gatedWith_check (Q := fun _ => True) (fun _ => trivial) (hE _ (by decide)))
    intro _ _
    apply Fallible.GatedWith.andThen (Q := fun _ => True)
      (Fallible.gatedWith_ask (hexecutes _ _) fun _ _ => .inr trivial)
    intro executed _
    apply Fallible.GatedWith.andThen
      (Fallible.gatedWith_check (Q := fun _ => True) (fun _ => trivial) (hE _ (by decide)))
    intro _ _
    exact Fallible.gatedWith_checked (fun _ _ => trivial) fun _ he => (nomatch he)
  · exact hclaim loan hloan

/-- A loan is released only by an execution that has claimed it. -/
theorem gated_claim (op : Operation) :
    op.call.run.Gated (fun _ _ => True) (Claims op) (Unreleased op) fun _ => True := by
  have hother : (∀ id loanId, op ≠ .executeLoan id loanId) →
      op.call.run.Gated (fun _ _ => True) (Claims op) (Unreleased op) fun _ => True := by
    intro hop
    refine Program.gated_any ?_ (fun _ => trivial) _
    rintro r x ⟨id, loanId, rfl, -⟩
    exact hop id loanId rfl
  cases op with
  | executeLoan id loanId =>
    have hbefore :
        ∀ r, (∀ loanId, r ≠ .releaseExecution loanId) → Unreleased (.executeLoan id loanId) r := by
      rintro r hr x ⟨_, loanId', -, rfl⟩
      exact hr loanId' rfl
    refine Program.Gated.bind
      (gated_executeLoan (E := fun _ => True) ?_ ?_ ?_ ?_ (fun _ _ => trivial) ?_) ?_
    · exact fun _ => hbefore _ (by rintro _ ⟨⟩)
    · exact fun _ _ => hbefore _ (by rintro _ ⟨⟩)
    · exact fun _ _ => hbefore _ (by rintro _ ⟨⟩)
    · exact hbefore _ (by rintro _ ⟨⟩)
    · rintro loan rfl
      unfold claimAndReport
      apply Fallible.GatedWith.andThen (Q := fun claimed => claimed ≠ 1)
      · apply Fallible.gatedWith_ask (hbefore _ (by rintro _ ⟨⟩))
        intro claimed _
        by_cases hone : claimed = 1
        · exact .inl ⟨rfl, hone⟩
        · exact .inr hone
      intro claimed hone
      rw [if_pos hone]
      apply Fallible.GatedWith.andThen (Q := fun _ => True)
        (Fallible.gatedWith_ask (hbefore _ (by rintro _ ⟨⟩)) fun _ _ => .inr trivial)
      intro current _
      apply Fallible.GatedWith.andThen (Q := fun _ => True)
        (Fallible.gatedWith_checked (fun _ _ => trivial) fun _ _ => trivial)
      intro _ _
      exact Fallible.gatedWith_checked (fun _ _ => trivial) fun _ _ => trivial
    · rintro (e | a) -
      · trivial
      · trivial
  | voteLoan | requestExtension | writeOffLoan | handleLoanRepaymentReminders =>
    exact hother fun _ _ h => (nomatch h)

/-- An execution tells its caller that the loan is not funded only after it has released it. -/
theorem gated_release (op : Operation) :
    op.call.run.Gated (fun _ _ => True) (Releases op) (fun _ => True) (Unreported op) := by
  cases op with
  | executeLoan id loanId =>
    refine Program.Gated.bind
      (gated_executeLoan (E := (· ≠ unfundedLoan)) (fun _ => trivial) (fun _ _ => trivial)
      (fun _ _ => trivial) trivial (fun _ he => he) ?_) ?_
    · rintro loan rfl
      unfold claimAndReport
      apply Fallible.GatedWith.andThen (Q := fun _ => True)
        (Fallible.gatedWith_ask trivial fun _ _ => .inr trivial)
      intro claimed _
      split_ifs
      · apply Fallible.GatedWith.andThen (Q := fun _ => True)
          (Fallible.gatedWith_ask trivial fun _ _ => .inr trivial)
        intro current _
        apply Fallible.GatedWith.andThen (Q := fun _ => True)
        · apply Fallible.gatedWith_checked fun _ _ => trivial
          intro e he
          obtain ⟨-, rfl⟩ := CheckedOutcome.orError_eq_error.mp he
          decide
        intro _ _
        exact Fallible.gatedWith_checked (fun _ _ => trivial) fun _ he => (nomatch he)
      · exact Fallible.gatedWith_checked (fun _ _ => trivial) fun _ he => (nomatch he)
      · apply Fallible.GatedWith.andThen (Q := fun _ => False)
        · exact Fallible.gatedWith_ask trivial fun _ _ => .inl ⟨id, loan.id, rfl, rfl⟩
        exact fun _ h => absurd h not_false
    · rintro (e | a) hresult
      · rintro _ _ - h
        exact hresult.2 e rfl (Except.error.inj h)
      · rintro _ _ - h
        cases h
  | voteLoan | requestExtension | writeOffLoan | handleLoanRepaymentReminders =>
    exact Program.gated_any (fun _ => trivial) (fun _ _ _ h => (nomatch h)) _

variable {start : Tables} {c : Config (Recorded Tables Operation (Except Failure Unit)) Operation
    (Spoken Request (Except Failure Unit)) (Spoken.Answer Answer)}
  {tr : Trace (Recorded Tables Operation (Except Failure Unit)) Operation
    (Spoken Request (Except Failure Unit)) (Spoken.Answer Answer)}

/-- A claim of the loan by the call, and after it a release that has put back the status the loan
had before it was claimed, if the loan was still as the claim had left it. -/
def RolledBack (tr : Trace (Recorded Tables Operation (Except Failure Unit)) Operation
    (Spoken Request (Except Failure Unit)) (Spoken.Answer Answer)) (i : ℕ)
    (loanId : String) : Prop :=
  ∃ tr₁ release tr₂ x loan, tr = tr₁ ++ release :: tr₂ ∧
    release.event = .performed i (.request (.releaseExecution loanId)) x ∧
    (∃ claim ∈ tr₁, claim.event = .performed i (.request (.claimExecution loanId)) (1 : ℕ) ∧
      claim.before.state.store.loan? loanId = some loan) ∧
    ∀ found, release.before.state.store.loan? loanId = some found →
      release.after.state.store.loan? loanId = some (if unfunded found then
        found.setStatus loan.status else found)

theorem rolledBack_of_reply (hrun : poolCalls.Runs (.opened start) tr c)
    (hmeets : ∀ t ∈ tr, StoreService.Meets votesStand.recording t) {t} (ht : t ∈ tr)
    {i : ℕ} {stage x} (hproc : t.before.processes i = some ⟨.executeLoan id loanId, stage⟩)
    (hevent : t.event = .performed i (.reply (.error unfundedLoan)) x) :
    ∃ tr₁ tr₂, tr = tr₁ ++ t :: tr₂ ∧ RolledBack tr₁ i loanId := by
  obtain ⟨tr₁, tr₂, rfl, hrun₁, release, hrelease, r, y, hreleased, id', loanId', hop, rfl⟩ :=
    StoreService.after_gate hrun gated_release ht hevent hproc fun h => h id loanId rfl rfl
  obtain ⟨rfl, rfl⟩ := Operation.executeLoan.inj hop
  have hmeets₁ : ∀ u ∈ tr₁, StoreService.Meets votesStand.recording u :=
    fun u hu => hmeets u (List.mem_append_left _ hu)
  obtain ⟨op', stage', hproc', -, hcarried⟩ :=
    StoreService.performed_of_mem hrun₁ hmeets₁ hrelease hreleased
  obtain ⟨stage'', hsame⟩ := operation_of_run hrun₁ hrelease hproc'
  obtain ⟨rfl, -⟩ := Process.mk.inj (Option.some.inj (hsame.symm.trans hproc))
  obtain ⟨tr₃, tr₄, rfl, hrun₃, claim, hclaim, r, n, hclaimed, hgate⟩ :=
    StoreService.after_gate hrun₁ gated_claim hrelease hreleased hproc'
      fun h => h y ⟨id, loanId, rfl, rfl⟩
  cases r with
  | claimExecution claimId =>
    obtain ⟨rfl, rfl⟩ := hgate
    have hmeets₃ : ∀ u ∈ tr₃, StoreService.Meets votesStand.recording u :=
      fun u hu => hmeets₁ u (List.mem_append_left _ hu)
    obtain ⟨_, _, -, hallows, hanswer⟩ :=
      StoreService.performed_of_mem hrun₃ hmeets₃ hclaim hclaimed
    obtain ⟨loan, hloan, hexecutable⟩ := of_matching (n := 0) (congrArg Prod.fst hanswer)
    have hcases : loan.status = .pending ∨ loan.status = .approved := of_decide_eq_true hexecutable
    have hpending : loan.status = .pending := hcases.resolve_right (hallows loan hloan)
    refine ⟨_, tr₂, rfl, tr₃, release, tr₄, y, loan, rfl, hreleased,
      ⟨claim, hclaim, hclaimed, hloan⟩, ?_⟩
    intro found hfound
    have hafter : (carry release.before.state.store (.releaseExecution claimId)).2 =
        release.after.state.store :=
      congrArg (fun s => s.2.store) hcarried
    have hrow : (carry release.before.state.store (.releaseExecution claimId)).2.loan? claimId =
        (release.before.state.store.loan? claimId).map fun row =>
          if row.id = claimId && unfunded row then row.setStatus .pending else row :=
      loan?_updateLoan _ _ _ _ _ _
    rw [← hafter, hrow, hfound, hpending]
    simp [(loan?_eq_some.mp hfound).2]
  | _ => exact False.elim hgate

end Rollbacks


end VeriAgentPay.Pools

namespace VeriAgentPay.Devnet
open InterleavedPrograms KeyedTables Pools

/-! A pool of three, and the request of one of them for a loan. -/

def person (id : String) : Backend.User where
  id := id
  username := some id
  telegramId := none
  whatsappId := none
  discordId := none
  slackId := none
  smartWallet := none
  sessionKeys := []

def requested : LoanApplication where
  id := "loan"
  poolId := "pool"
  borrowerId := "alice"
  amount := 35
  durationDays := 14
  status := .pending
  approveVotes := 0
  rejectVotes := 0
  isExtension := false
  targetLoanId := none
  onChainRequestId := some 1
  onChainLoanId := none
  txHash := none
  repaymentDeadline := none

def lending (loan : LoanApplication) (votes : Keyed LoanVote.key) : Pools.Tables where
  pools := ⟨[⟨"pool", some 1, 450⟩], by decide⟩
  members := [⟨"pool", some "alice", "@alice"⟩, ⟨"pool", some "bob", "@bob"⟩,
    ⟨"pool", some "carol", "@carol"⟩]
  loans := ⟨[loan], by simp⟩
  votes := votes
  users := [person "alice", person "bob", person "carol"]
  now := 1750000000000
  ruled := []

def counted : PoolsService.ChainVote := .ok (none, some "0xb0b")
def disbursing : PoolsService.ChainVote := .ok (some 7, some "0xca401")
def reverted : PoolsService.ChainVote := .error (.error "execution reverted")

def bobVotes : Operation := .voteLoan "pool" "loan" "bob" true 0 counted

/-- `n` steps of a process. -/
def steps (i n : ℕ) : List (Move Operation) := List.replicate n (.step i)

def statusOf (t : Pools.Tables) : Option LoanStatus := (t.loan? "loan").map LoanApplication.status

/-- Bob's vote is written after Carol's, which has disbursed the loan. -/
def lateVote : List (Move Operation) :=
  [.start 0 bobVotes] ++ steps 0 5 ++
    [.start 1 (.voteLoan "pool" "loan" "carol" true 0 disbursing)] ++ steps 1 8

/-- Bob counts Carol's vote, which is withdrawn. -/
def withdrawnVote : List (Move Operation) :=
  [.start 0 bobVotes] ++ steps 0 3 ++
    [.start 1 (.voteLoan "pool" "loan" "carol" true 0 reverted)] ++ steps 1 3 ++ steps 0 3 ++
    steps 1 3

/-- An approved loan that was not disbursed. -/
def approvedLoan : Pools.Tables := lending { requested with status := .approved } .empty

theorem status_overwritten :
    ((poolServices.moves StoreService.anything
      (Config.initial (lending requested .empty)) lateVote).bind fun c =>
        (poolServices.move StoreService.anything c (.step 0)).map fun c' =>
          ((c.state.loan? "loan").map fun loan => decide (Disbursed loan), statusOf c'.state)) =
      some (some true, some .pending) := by
  decide +kernel

theorem status_without_votes :
    (poolServices.moves StoreService.anything
      (Config.initial (lending requested .empty)) withdrawnVote).map (fun c =>
        (statusOf c.state, c.state.countVotes "loan" true,
          (withdrawnVote.filterMap Move.starts).all c.finished,
          (c.state.loan? "loan").map c.state.threshold)) =
      some (some .approved, 1, true, some 2) := by
  decide +kernel

theorem status_not_restored :
    ((PoolsService.executeLoan "pool" "loan").run.eval carry approvedLoan).1.isOk = false ∧
      statusOf approvedLoan = some .approved ∧
      statusOf ((PoolsService.executeLoan "pool" "loan").run.eval carry approvedLoan).2 =
        some .pending := by
  decide +kernel

/-- Bob votes, and then Carol's vote disburses the loan. -/
def votesInTurn : List (Move Operation) :=
  [.start 0 bobVotes] ++ steps 0 6 ++
    [.start 1 (.voteLoan "pool" "loan" "carol" true 0 disbursing)] ++ steps 1 8

/-- Bob has voted when the loan is executed, which no vote has disbursed yet. -/
def executedEarly : List (Move Operation) :=
  [.start 0 bobVotes] ++ steps 0 7 ++ [.start 1 (.executeLoan "pool" "loan")] ++ steps 1 3

/-- The operation of a process and whether it goes on by telling its caller that the loan is not
funded. -/
def reportsUnfunded {α : Type}
    (c : Config α Operation (Spoken Request (Except Backend.Failure Unit)) (Spoken.Answer Answer))
    (i : ℕ) : Bool :=
  match c.processes i with
  | some ⟨.executeLoan "pool" "loan", .running (.ask (.reply (.error e)) _)⟩ =>
    e = PoolsService.unfundedLoan
  | _ => false

theorem votes_in_turn :
    (poolCalls.moves votesStand.recording
      (Config.initial (.opened (lending requested .empty))) votesInTurn).map (fun c =>
      statusOf c.state.store) = some (some .executed) := by
  decide +kernel

theorem executed_early :
    ((poolCalls.moves votesStand.recording
      (Config.initial (.opened (lending requested .empty))) executedEarly).bind fun c =>
        (poolCalls.move votesStand.recording c (.step 1)).map
          fun c' => (reportsUnfunded c 1, statusOf c'.state.store)) =
      some (true, some .pending) := by
  decide +kernel

end VeriAgentPay.Devnet
