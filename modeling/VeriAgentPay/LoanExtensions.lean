import VeriAgentPay.PoolVoting

/-!
# Extensions of loans

An extension is a row of the same table as the loan it extends. Where no execution finds it pending,
the due date of a loan moves only for an extension that the members have approved.
-/

namespace VeriAgentPay.Pools
open InterleavedPrograms KeyedTables PoolsService
open InterleavedPrograms.Fallible (checked check onFailure dropResult)
open Backend (truthy)

section Approvals

/-- A vote has found the approvals that the loan needs, and written that it is approved. -/
def Approved (t : Tables) (loanId : String) : Prop :=
  ∃ loan data, t.loan? loanId = some loan ∧ (loanId, data) ∈ t.ruled ∧ data.status = .approved ∧
    t.threshold loan ≤ data.approveVotes

def LoanApplication.extends? (loan : LoanApplication) : Option String :=
  if loan.isExtension then truthy loan.targetLoanId else none

/-- The execution of an extension finds it decided. -/
def ExtensionDecided (t : Tables) (loanId : String) : Prop :=
  ∀ loan ∈ t.loan? loanId, loan.extends? ≠ none → loan.status ≠ .pending

instance (t : Tables) (loanId : String) : Decidable (ExtensionDecided t loanId) :=
  inferInstanceAs (Decidable (∀ loan ∈ t.loan? loanId, _))

/-- A vote that has disbursed a loan finds it not disbursed yet. -/
def DisbursesOnce (t : Tables) (loanId : String) (data : VotedUpdate) : Prop :=
  data.disbursed ≠ none → ∀ loan ∈ t.loan? loanId, ¬Disbursed loan

instance (t : Tables) (loanId : String) (data : VotedUpdate) :
    Decidable (DisbursesOnce t loanId data) :=
  inferInstanceAs (Decidable (_ → ∀ loan ∈ t.loan? loanId, _))

/-- Executions find extensions decided, and no loan is disbursed twice. -/
def extensionsDecided : StoreService.Conditions Tables Operation Request where
  starts _ := True
  allows _ op t r :=
    match op, r with
    | .executeLoan _ loanId, .findPool _ => ExtensionDecided t loanId
    | .voteLoan .., .updateVoted loanId data => DisbursesOnce t loanId data
    | _, _ => True
  passes _ _ := True

/-- An extension that is stored as approved was approved. -/
def ExtensionsApproved (t : Tables) : Prop :=
  ∀ loan ∈ t.loans.rows, loan.extends? ≠ none → loan.status = .approved → Approved t loan.id

/-- The due date changes because the loan is being disbursed, or is itself an approved extension, or
has one. -/
def Justified (t : Tables) (loan loan' : LoanApplication) : Prop :=
  (¬Disbursed loan ∧ Disbursed loan') ∨ loan.isExtension ∧ Approved t loan.id ∨
    ∃ extension ∈ t.loans.rows, extension.extends? = some loan.id ∧ Approved t extension.id

structure Extends (t t' : Tables) : Prop extends Frames t t' where
  deadlines : ∀ loanId loan loan', t.loan? loanId = some loan → t'.loan? loanId = some loan' →
    loan'.repaymentDeadline ≠ loan.repaymentDeadline → Justified t loan loan'

abbrev extensionDiscipline := poolDiscipline extensionsDecided ExtensionsApproved Extends

variable {t t' : Tables} {loanId : String} {condition : LoanApplication → Bool}
  {data : LoanApplication → LoanApplication}
  (hdata : ∀ loan, (data loan).id = loan.id)

theorem threshold_of_terms (hmembers : t'.members = t.members) {loan loan' : LoanApplication}
    (hterms : loan'.terms = loan.terms) :
    t'.threshold loan' = t.threshold loan := by
  simp only [LoanApplication.terms, Prod.mk.injEq] at hterms
  rw [Tables.threshold, Tables.threshold, hmembers, hterms.1, hterms.2.1]

theorem Approved.later (h : Approved t loanId) (hframes : Frames t t') : Approved t' loanId := by
  obtain ⟨loan, data, hloan, hruled, hstatus, hvotes⟩ := h
  obtain ⟨loan', hloan', hterms⟩ := Option.map_eq_some_iff.mp (hframes.terms loanId loan hloan)
  refine ⟨loan', data, hloan', hframes.ruled _ hruled, hstatus, ?_⟩
  rw [threshold_of_terms hframes.members hterms]
  exact hvotes

theorem extends?_of_terms {loan loan' : LoanApplication} (hterms : loan'.terms = loan.terms) :
    loan'.extends? = loan.extends? := by
  simp only [LoanApplication.terms, Prod.mk.injEq] at hterms
  rw [LoanApplication.extends?, LoanApplication.extends?, hterms.2.2.1, hterms.2.2.2.1]

theorem isExtension_of_extends? {loan : LoanApplication} (h : loan.extends? ≠ none) :
    loan.isExtension = true := by
  unfold LoanApplication.extends? at h
  split_ifs at h with hextension
  · exact hextension
  · exact absurd rfl h

theorem Extends.refl (t : Tables) : Extends t t := by
  refine ⟨Frames.of_loans rfl rfl rfl, ?_⟩
  intro loanId loan loan' hloan hloan' hdeadline
  rw [Option.some.inj (hloan.symm.trans hloan')] at hdeadline
  exact absurd rfl hdeadline

/-- A request that leaves the loans alone. -/
theorem extension_step_of_loans {r : Request} (ht : ExtensionsApproved t)
    (hloans : (carry t r).2.loans = t.loans) :
    Extends t (carry t r).2 ∧ ExtensionsApproved (carry t r).2 := by
  have hframes := carry_frames t r
  refine ⟨⟨hframes, ?_⟩, ?_⟩
  · intro loanId loan loan' hloan hloan' hdeadline
    have hsame : (carry t r).2.loan? loanId = t.loan? loanId := by simp only [Tables.loan?, hloans]
    rw [Option.some.inj (hloan.symm.trans (hsame.symm.trans hloan'))] at hdeadline
    exact absurd rfl hdeadline
  · intro loan hloan hextends hstatus
    rw [hloans] at hloan
    exact (ht loan hloan hextends hstatus).later hframes

/-- A request that changes one loan. -/
theorem extension_step_of_update {r : Request} (ht : ExtensionsApproved t)
    (hloans : (carry t r).2.loans = (t.updateLoan loanId condition data hdata).loans)
    (hterms : ∀ loan, (data loan).terms = loan.terms)
    (hstatus : ∀ loan, t.loan? loanId = some loan → condition loan → loan.extends? ≠ none →
      (data loan).status = .approved →
      Approved (carry t r).2 loanId)
    (hdeadline : ∀ loan, t.loan? loanId = some loan → condition loan →
      (data loan).repaymentDeadline ≠ loan.repaymentDeadline →
      Justified t loan (data loan)) :
    Extends t (carry t r).2 ∧ ExtensionsApproved (carry t r).2 := by
  have hframes := carry_frames t r
  refine ⟨⟨hframes, ?_⟩, ?_⟩
  · intro loanId' loan loan' hloan hloan' hchanged
    have hrow : (t.updateLoan loanId condition data hdata).loan? loanId' = some loan' := by
      rw [← hloan']
      simp only [Tables.loan?, hloans]
    rw [loan?_updateLoan, hloan, Option.map_some, Option.some.injEq] at hrow
    split_ifs at hrow with hhere
    · simp only [Bool.and_eq_true, decide_eq_true_eq] at hhere
      have hid : t.loan? loanId = some loan := by
        rw [← hhere.1, (loan?_eq_some.mp hloan).2]
        exact hloan
      rw [← hrow] at hchanged ⊢
      exact hdeadline loan hid hhere.2 hchanged
    · exact absurd (congrArg LoanApplication.repaymentDeadline hrow.symm) hchanged
  · intro loan hloan hextends happroved
    rw [hloans] at hloan
    rcases Keyed.of_mem_update hdata hloan with ⟨hold, -⟩ | ⟨old, hold, hhere, rfl⟩
    · exact (ht loan hold hextends happroved).later hframes
    · simp only [Bool.and_eq_true, decide_eq_true_eq] at hhere
      rw [extends?_of_terms (hterms old)] at hextends
      rw [hdata, hhere.1]
      exact hstatus old (loan?_eq_some.mpr ⟨hold, hhere.1⟩) hhere.2 hextends happroved

/-- A vote that approves the loan is written with the approvals it needs. -/
theorem approved_updateVoted {view : PoolView} {id : String} {loan : LoanApplication}
    {data : VotedUpdate} {onChainLoanId : Option ℕ} (hseen : Seen view id t)
    (hloan : loan ∈ view.loans)
    (hstatus : data.status = votedStatus onChainLoanId data.approveVotes data.rejectVotes
      (votingThreshold view.members loan.borrowerId))
    (happroved : data.status = .approved) :
    Approved (carry t (.updateVoted loan.id data)).2 loan.id := by
  have hframes := carry_frames t (.updateVoted loan.id data)
  obtain ⟨hpool, hterms⟩ := hseen.loans loan hloan
  obtain ⟨row, hrow, hsame⟩ := Option.map_eq_some_iff.mp hterms
  obtain ⟨row', hrow', hsame'⟩ := Option.map_eq_some_iff.mp (hframes.terms loan.id row hrow)
  refine ⟨row', data, hrow', ?_, happroved, ?_⟩
  · rw [carry_updateVoted data (Option.isSome_iff_exists.mpr ⟨row, hrow⟩)]
    exact List.mem_cons_self
  · rw [threshold_of_terms hframes.members (hsame'.trans hsame), Tables.threshold,
      hpool, ← hseen.members]
    rcases votedStatus_cases onChainLoanId data.approveVotes data.rejectVotes
      (votingThreshold view.members loan.borrowerId) with ⟨-, hexecuted⟩ | ⟨-, hcounted, -⟩
    · rw [← hstatus, happroved] at hexecuted
      cases hexecuted
    · exact hcounted (hstatus.symm.trans happroved)

theorem extension_updateVoted_step {view : PoolView} {id : String} {loan : LoanApplication}
    {data : VotedUpdate} {onChainLoanId : Option ℕ} (ht : ExtensionsApproved t)
    (hseen : Seen view id t) (hloan : loan ∈ view.loans)
    (hdisbursed : data.disbursed = none ↔ onChainLoanId = none)
    (hstatus : data.status = votedStatus onChainLoanId data.approveVotes data.rejectVotes
      (votingThreshold view.members loan.borrowerId)) (honce : DisbursesOnce t loan.id data) :
    Extends t (carry t (.updateVoted loan.id data)).2 ∧
    ExtensionsApproved (carry t (.updateVoted loan.id data)).2 := by
  have hid : ∀ row : LoanApplication, (row.setVoted data).id = row.id := fun _ => rfl
  by_cases hfound : (t.loan? loan.id).isSome
  · have hloans := congrArg Tables.loans (carry_updateVoted data hfound)
    refine extension_step_of_update hid ht hloans (fun _ => rfl) ?_ ?_
    · intro row _ _ _ happroved
      exact approved_updateVoted hseen hloan hstatus happroved
    · intro row hrow _ hdeadline
      cases hdata : data.disbursed with
      | none => exact absurd (by simp [LoanApplication.setVoted, hdata]) hdeadline
      | some d =>
        have hchain : onChainLoanId ≠ none := by
          intro h
          rw [hdisbursed.mpr h] at hdata
          cases hdata
        rcases votedStatus_cases onChainLoanId data.approveVotes data.rejectVotes
          (votingThreshold view.members loan.borrowerId) with ⟨-, hexecuted⟩ | ⟨hnone, -⟩
        · have hnew : ¬Disbursed row := honce (by simp [hdata]) row hrow
          exact .inl ⟨hnew, hstatus.trans hexecuted, by simp [LoanApplication.setVoted, hdata]⟩
        · exact absurd hnone hchain
  · rw [carry_updateVoted_missing data hfound]
    exact ⟨Extends.refl t, ht⟩

theorem extension_createVote_step (ht : ExtensionsApproved t) (vote : LoanVote) :
    Extends t (carry t (.createVote vote)).2 ∧
    ExtensionsApproved (carry t (.createVote vote)).2 := by
  refine extension_step_of_loans ht ?_
  unfold carry
  dsimp only
  split
  · rfl
  · rfl

theorem extension_voteSteps (i : ℕ) (id loanId voterId : String) (approve : Bool) (choice : ℕ)
    (chain : ChainVote) :
    VoteSteps extensionsDecided ExtensionsApproved Extends i
      (.voteLoan id loanId voterId approve choice chain) where
  refl := Extends.refl
  frames _ _ h := h.toFrames
  createVote _ vote ht _ := extension_createVote_step ht vote
  deleteVotes _ _ _ ht _ := extension_step_of_loans ht rfl
  decrementBalance _ _ _ ht _ := extension_step_of_loans ht rfl
  updateVoted _ _ _ _ _ _ ht hseen hloan hdisbursed hstatus honce :=
    extension_updateVoted_step ht hseen hloan hdisbursed hstatus honce

/-- Requests that set a status other than approved and leave the due date. -/
theorem extension_setStatus_step {r : Request} {status : LoanStatus} (ht : ExtensionsApproved t)
    (hloans : (carry t r).2.loans =
      (t.updateLoan loanId condition (·.setStatus status) fun _ => rfl).loans)
    (hstatus : status ≠ .approved) :
    Extends t (carry t r).2 ∧ ExtensionsApproved (carry t r).2 := by
  have hid : ∀ row : LoanApplication, (row.setStatus status).id = row.id := fun _ => rfl
  refine extension_step_of_update hid ht hloans (fun _ => rfl) ?_ ?_
  · intro _ _ _ _ happroved
    exact absurd happroved hstatus
  · intro _ _ _ hdeadline
    exact absurd rfl hdeadline

end Approvals

section Executions

variable {i : ℕ} {op : Operation}

/-- What an execution has read of an extension. -/
def ReadDecided (view : PoolView) (id loanId : String) (t : Tables) : Prop :=
  Seen view id t ∧ ∀ loan ∈ view.loans, loan.id = loanId → loan.extends? ≠ none →
  loan.status ≠ .pending ∧
    (loan.status = .approved → Approved t loanId)

theorem ReadDecided.stable {view : PoolView} {id loanId : String} :
    extensionDiscipline.Stable fun t => ReadDecided view id loanId t := by
  intro t t' hgrows hread
  refine ⟨hread.1.later hgrows.toFrames, ?_⟩
  intro loan hloan hid hextends
  obtain ⟨hdecided, happroved⟩ := hread.2 loan hloan hid hextends
  exact ⟨hdecided, fun h => (happroved h).later hgrows.toFrames⟩

theorem upholds_findOne_executing (id loanId : String) :
    extensionDiscipline.Upholds i (.executeLoan id loanId) (findOne id) (fun _ => True)
      (fun view t => ReadDecided view id loanId t) fun _ => True := by
  unfold findOne
  apply Discipline.Upholds.bind
    (R := fun found t => ∀ view, found = some view → ReadDecided view id loanId t)
  · apply Discipline.Upholds.ask
    · intro found t t' hgrows hread view hview
      exact ReadDecided.stable t t' hgrows (hread view hview)
    · intro t ht _ hallows
      refine ⟨Extends.refl t, ht, ?_⟩
      intro view hview
      refine ⟨seen_of_findPool hview, ?_⟩
      intro loan hloan hid hextends
      have hrow := hid ▸ (loan_of_findPool hview hloan).2
      exact ⟨hallows loan hrow hextends,
        fun h => hid ▸ ht loan (loan?_eq_some.mp hrow).1 hextends h⟩
  · intro found
    apply Discipline.Upholds.checked
    · intro view t hfound _ hread
      exact hread view (CheckedOutcome.orError_eq_ok.mp hfound)
    · exact fun _ _ => trivial

/-- The due date of the target moves for an extension that was approved. -/
theorem moveDeadline_extension_step {t : Tables} {view : PoolView} {id : String}
    {loan : LoanApplication} {targetLoanId : String} (deadline : ℤ) (ht : ExtensionsApproved t)
    (hseen : Seen view id t) (hloan : loan ∈ view.loans)
    (htarget : loan.extends? = some targetLoanId) (happroved : Approved t loan.id) :
    Extends t (carry t (.moveDeadline targetLoanId deadline)).2 ∧
      ExtensionsApproved (carry t (.moveDeadline targetLoanId deadline)).2 := by
  have hid : ∀ row : LoanApplication, (row.setDeadline deadline).id = row.id := fun _ => rfl
  have hframes := carry_frames t (.moveDeadline targetLoanId deadline)
  refine extension_step_of_update hid ht rfl (fun _ => rfl) ?_ ?_
  · intro row hrow _ hextends hstatus
    obtain ⟨hmem, hrowId⟩ := loan?_eq_some.mp hrow
    exact (hrowId ▸ ht row hmem hextends hstatus).later hframes
  · intro row hrow _ _
    obtain ⟨extension, hextension, hterms⟩ := Option.map_eq_some_iff.mp (hseen.loans loan hloan).2
    obtain ⟨hmem, hextensionId⟩ := loan?_eq_some.mp hextension
    refine .inr (.inr ⟨extension, hmem, ?_, hextensionId ▸ happroved⟩)
    rw [extends?_of_terms hterms, htarget, (loan?_eq_some.mp hrow).2]

theorem executeExtension_extension_step {t : Tables} {view : PoolView} {id : String}
    {loan : LoanApplication} (deadline : ℤ) (ht : ExtensionsApproved t) (hseen : Seen view id t)
    (hloan : loan ∈ view.loans) (hextends : loan.extends? ≠ none) (happroved : Approved t loan.id) :
    Extends t (carry t (.executeExtension loan.id deadline)).2 ∧
      ExtensionsApproved (carry t (.executeExtension loan.id deadline)).2 := by
  have hid : ∀ row :
      LoanApplication, ((row.setStatus .executed).setDeadline deadline).id = row.id := fun _ => rfl
  refine extension_step_of_update hid ht rfl (fun _ => rfl) ?_ ?_
  · rintro row _ _ _ ⟨⟩
  · intro row hrow _ _
    obtain ⟨extension, hextension, hterms⟩ := Option.map_eq_some_iff.mp (hseen.loans loan hloan).2
    obtain rfl := Option.some.inj (hextension.symm.trans hrow)
    rw [← extends?_of_terms hterms] at hextends
    exact .inr (.inl ⟨isExtension_of_extends? hextends, (loan?_eq_some.mp hrow).2 ▸ happroved⟩)

theorem upholds_executeExtension_approved {view : PoolView} {id targetLoanId : String}
    {loan : LoanApplication} (hloan : loan ∈ view.loans)
    (htarget : loan.extends? = some targetLoanId) :
    extensionDiscipline.Upholds i op (executeExtension view loan targetLoanId)
      (fun t => Seen view id t ∧ Approved t loan.id) (fun _ _ => True) fun _ => True := by
  have hstable : extensionDiscipline.Stable fun t => Seen view id t ∧ Approved t loan.id :=
    fun t t' hgrows hknown => ⟨hknown.1.later hgrows.toFrames, hknown.2.later hgrows.toFrames⟩
  unfold executeExtension
  apply Discipline.Upholds.bind (R := fun _ t => Seen view id t ∧ Approved t loan.id)
  · cases (view.loans.find? (·.id = targetLoanId)).bind LoanApplication.repaymentDeadline with
    | some deadline => exact Discipline.Upholds.pure fun _ _ hknown => hknown
    | none => exact Discipline.Upholds.look Extends.refl (fun _ => rfl) hstable
  intro currentDeadline
  apply Discipline.Upholds.bind (R := fun _ t => Seen view id t ∧ Approved t loan.id)
  · apply Discipline.Upholds.ask fun _ => hstable
    intro t ht hknown _
    have hstep :=
      moveDeadline_extension_step (currentDeadline + loan.durationDays * dayMs) ht hknown.1 hloan
      htarget hknown.2
    exact ⟨hstep.1, hstep.2, hstable t _ hstep.1 hknown⟩
  intro moved
  apply Discipline.Upholds.bind (R := fun _ t => Seen view id t ∧ Approved t loan.id)
  · exact Discipline.Upholds.require fun _ _ => trivial
  intro _
  apply Discipline.Upholds.bind (R := fun _ _ => True)
  · apply Discipline.Upholds.ask fun _ => Discipline.stable_const True
    intro t ht hknown _
    have hstep :=
      executeExtension_extension_step (currentDeadline + loan.durationDays * dayMs) ht hknown.1
      hloan (by simp [htarget]) hknown.2
    exact ⟨hstep.1, hstep.2, trivial⟩
  intro executed
  apply Discipline.Upholds.bind (R := fun _ _ => True)
  · exact Discipline.Upholds.require fun _ _ => trivial
  intro _
  exact Discipline.Upholds.pure fun _ _ _ => trivial

theorem upholds_claimAndReport_extension (loan : LoanApplication) :
    extensionDiscipline.Upholds i op (claimAndReport loan) (fun _ => True) (fun _ _ => True)
      fun _ => True := by
  unfold claimAndReport
  apply Discipline.Upholds.bind (R := fun _ _ => True)
  · apply Discipline.Upholds.ask fun _ => Discipline.stable_const True
    intro t ht _ _
    have hstep := extension_setStatus_step ht (r := .claimExecution loan.id) rfl (by rintro ⟨⟩)
    exact ⟨hstep.1, hstep.2, trivial⟩
  intro claimed
  split_ifs
  · apply Discipline.Upholds.bind (R := fun _ _ => True)
    · exact Discipline.Upholds.look Extends.refl (fun _ => rfl) (Discipline.stable_const True)
    intro current
    apply Discipline.Upholds.bind (R := fun _ _ => True)
    · exact Discipline.Upholds.checked (fun _ _ _ _ _ => trivial) fun _ _ => trivial
    intro _
    exact Discipline.Upholds.pure fun _ _ _ => trivial
  · exact Discipline.Upholds.pure fun _ _ _ => trivial
  · apply Discipline.Upholds.bind (R := fun _ _ => True)
    · apply Discipline.Upholds.ask fun _ => Discipline.stable_const True
      intro t ht _ _
      have hstep := extension_setStatus_step ht (r := .releaseExecution loan.id) rfl (by rintro ⟨⟩)
      exact ⟨hstep.1, hstep.2, trivial⟩
    intro _
    exact Discipline.Upholds.checked (fun _ _ _ _ _ => trivial) fun _ _ => trivial

theorem upholds_executeLoan_extension (id loanId : String) :
    extensionDiscipline.Upholds i (.executeLoan id loanId) (executeLoan id loanId) (fun _ => True)
      (fun _ _ => True)
      fun _ => True := by
  unfold executeLoan
  apply Discipline.Upholds.bind (upholds_findOne_executing id loanId)
  intro view
  apply Discipline.Upholds.bind (R := fun loan t => (loan ∈ view.loans ∧ loan.id = loanId) ∧
    ReadDecided view id loanId t)
  · apply Discipline.Upholds.checked
    · intro loan t hloan _ hread
      have hfind := CheckedOutcome.orError_eq_ok.mp hloan
      exact ⟨⟨List.mem_of_find?_eq_some hfind, by simpa using List.find?_some hfind⟩, hread⟩
    · exact fun _ _ => trivial
  intro loan
  apply Discipline.Upholds.assuming
  rintro ⟨hloan, rfl⟩
  by_cases hexecuted : loan.status = .executed
  · rw [if_pos hexecuted]
    exact Discipline.Upholds.pure fun _ _ _ => trivial
  · rw [if_neg hexecuted]
    apply Discipline.Upholds.bind (Discipline.Upholds.check fun _ _ => trivial)
    intro _
    apply Discipline.Upholds.assuming
    intro hexecutable
    have hstatus : loan.status = .pending ∨ loan.status = .approved := of_decide_eq_true hexecutable
    have hextends : (if loan.isExtension then truthy loan.targetLoanId else none) =
        loan.extends? := rfl
    rw [hextends]
    cases htarget : loan.extends? with
    | none =>
      exact (upholds_claimAndReport_extension loan).weaken (fun _ _ _ => trivial) (fun _ _ h => h)
        fun _ h => h
    | some targetLoanId =>
      refine Discipline.Upholds.weaken (K := fun t => Seen view id t ∧ Approved t loan.id)
        (upholds_executeExtension_approved hloan htarget) ?_ (fun _ _ h => h) fun _ h => h
      intro t _ hread
      obtain ⟨hdecided, happroved⟩ := hread.2 loan hloan rfl (by simp [htarget])
      exact ⟨hread.1, happroved (hstatus.resolve_left hdecided)⟩

end Executions

section Runs

variable {i : ℕ} {op : Operation}

theorem upholds_requestExtension (newId id loanId borrowerId : String) (additionalDays : ℤ) :
    extensionDiscipline.Upholds i op (requestExtension newId id loanId borrowerId additionalDays)
      (fun _ => True) (fun _ _ => True) fun _ => True := by
  unfold requestExtension
  apply Discipline.Upholds.bind
    (upholds_findOne Extends.refl (fun _ _ h => h.toFrames) (Discipline.stable_const True) id)
  intro view
  apply Discipline.Upholds.bind upholds_findLoanOf
  intro loan
  apply Discipline.Upholds.bind (R := fun _ _ => True)
  · exact (Discipline.Upholds.require fun _ _ => trivial).weaken (fun _ _ _ => trivial)
      (fun _ _ h => h) fun _ h => h
  intro _
  apply Discipline.Upholds.bind (R := fun _ _ => True)
  · exact Discipline.Upholds.look Extends.refl (fun _ => rfl) (Discipline.stable_const True)
  intro priorExtensions
  apply Discipline.Upholds.bind (R := fun _ _ => True)
  · exact Discipline.Upholds.require fun _ _ => trivial
  intro _
  apply Discipline.Upholds.bind (R := fun _ _ => True)
  · apply Discipline.Upholds.ask fun _ => Discipline.stable_const True
    intro t ht _ _
    have hframes :=
      carry_frames t (.createLoan (extensionOf newId id loanId borrowerId additionalDays))
    show Extends t
        (carry t (.createLoan (extensionOf newId id loanId borrowerId additionalDays))).2 ∧
      ExtensionsApproved
        (carry t (.createLoan (extensionOf newId id loanId borrowerId additionalDays))).2 ∧ True
    cases hinsert : t.loans.insert (extensionOf newId id loanId borrowerId additionalDays) with
    | none =>
      have hsame :
          (carry t (.createLoan (extensionOf newId id loanId borrowerId additionalDays))).2 =
            t := by
        unfold carry
        simp only [hinsert]
      rw [hsame]
      exact ⟨Extends.refl t, ht, trivial⟩
    | some loans =>
      have hloans :
          (carry t (.createLoan (extensionOf newId id loanId borrowerId additionalDays))).2.loans =
            loans := by
        unfold carry
        simp only [hinsert]
      refine ⟨⟨hframes, ?_⟩, ?_, trivial⟩
      · intro loanId' old new hold hnew hdeadline
        -- the rows that were there are still there
        have hkept : new = old := by
          obtain ⟨hmem, hid⟩ := loan?_eq_some.mp hold
          obtain ⟨hmem', hid'⟩ := loan?_eq_some.mp hnew
          rw [hloans] at hmem'
          exact Keyed.eq_of_key hmem' ((Keyed.mem_insert hinsert).mpr (.inl hmem))
            (hid'.trans hid.symm)
        exact absurd (congrArg LoanApplication.repaymentDeadline hkept) hdeadline
      · intro row hrow hextends happroved
        rw [hloans] at hrow
        rcases (Keyed.mem_insert hinsert).mp hrow with hold | rfl
        · exact (ht row hold hextends happroved).later hframes
        · cases happroved
  intro _
  exact Discipline.Upholds.pure fun _ _ _ => trivial

theorem upholds_writeOffLoan (id loanId voterId : String) :
    extensionDiscipline.Upholds i op (writeOffLoan id loanId voterId) (fun _ => True)
      (fun _ _ => True) fun _ => True := by
  unfold writeOffLoan
  apply Discipline.Upholds.bind
    (upholds_findOne Extends.refl (fun _ _ h => h.toFrames) (Discipline.stable_const True) id)
  intro view
  apply Discipline.Upholds.bind upholds_findLoanOf
  intro loan
  apply Discipline.Upholds.bind (R := fun _ _ => True)
  · exact (Discipline.Upholds.require fun _ _ => trivial).weaken (fun _ _ _ => trivial)
      (fun _ _ h => h) fun _ h => h
  intro _
  apply Discipline.Upholds.bind (R := fun _ _ => True)
  · exact Discipline.Upholds.require fun _ _ => trivial
  intro _
  apply Discipline.Upholds.bind (R := fun _ _ => True)
  · exact Discipline.Upholds.require fun _ _ => trivial
  intro _
  apply Discipline.Upholds.bind (R := fun _ _ => True)
  · apply Discipline.Upholds.ask fun _ => Discipline.stable_const True
    intro t ht _ _
    have hstep := extension_createVote_step ht ⟨loanId, voterId, true, .writeOff⟩
    exact ⟨hstep.1, hstep.2, trivial⟩
  intro created
  apply Discipline.Upholds.bind (R := fun _ _ => True)
  · exact Discipline.Upholds.require fun _ _ => trivial
  intro _
  apply Discipline.Upholds.bind (R := fun _ _ => True)
  · exact Discipline.Upholds.look Extends.refl (fun _ => rfl) (Discipline.stable_const True)
  intro writeOffVotes
  split_ifs
  · exact Discipline.Upholds.pure fun _ _ _ => trivial
  · apply Discipline.Upholds.bind (R := fun _ _ => True)
    · apply Discipline.Upholds.ask fun _ => Discipline.stable_const True
      intro t ht _ _
      have hstep := extension_setStatus_step ht (r := .closeWrittenOff loanId) rfl (by rintro ⟨⟩)
      exact ⟨hstep.1, hstep.2, trivial⟩
    intro closed
    split_ifs
    · exact Discipline.Upholds.pure fun _ _ _ => trivial
    · exact Discipline.Upholds.pure fun _ _ _ => trivial

theorem upholds_markOverdue (now : ℤ) (loans : List LoanApplication) :
    extensionDiscipline.Upholds i op (markOverdue now loans) (fun _ => True) (fun _ _ => True)
      fun _ => True := by
  induction loans with
  | nil => exact Discipline.Upholds.pure fun _ _ _ => trivial
  | cons loan loans ih =>
    unfold markOverdue
    apply Discipline.Upholds.bind (R := fun _ _ => True)
    · split_ifs
      · apply Discipline.Upholds.bind (R := fun _ _ => True)
        · apply Discipline.Upholds.ask fun _ => Discipline.stable_const True
          intro t ht _ _
          have hstep := extension_setStatus_step ht (r := .markDefaulted loan.id) rfl (by rintro ⟨⟩)
          exact ⟨hstep.1, hstep.2, trivial⟩
        intro _
        exact Discipline.Upholds.pure fun _ _ _ => trivial
      · exact Discipline.Upholds.pure fun _ _ _ => trivial
    · intro _
      exact ih

theorem extensionDiscipline_kept : extensionDiscipline.Kept := by
  refine Discipline.kept_of_plays Extends.refl ?_ ?_
  · intro i op _
    cases op with
    | voteLoan id loanId voterId approve choice chain =>
      exact (upholds_voteLoan
        (extension_voteSteps i id loanId voterId approve choice chain) id loanId voterId approve
        choice chain).silent.plays
    | executeLoan id loanId => exact (upholds_executeLoan_extension id loanId).silent.plays
    | requestExtension newId id loanId borrowerId additionalDays =>
      exact (upholds_requestExtension newId id loanId borrowerId additionalDays).silent.plays
    | writeOffLoan id loanId voterId => exact (upholds_writeOffLoan id loanId voterId).silent.plays
    | handleLoanRepaymentReminders =>
      refine Discipline.Upholds.plays ?_
      apply Discipline.Upholds.bind (R := fun _ _ => True)
      · exact Discipline.Upholds.look Extends.refl (fun _ => rfl) (Discipline.stable_const True)
      intro loans
      apply Discipline.Upholds.bind (R := fun _ _ => True)
      · exact Discipline.Upholds.look Extends.refl (fun _ => rfl) (Discipline.stable_const True)
      intro now
      exact upholds_markOverdue now loans
  · intro n t ht _
    have hframes : Frames t (poolServices.passes n t) := Frames.of_loans rfl rfl rfl
    refine ⟨⟨hframes, ?_⟩, ?_⟩
    · intro loanId loan loan' hloan hloan' hdeadline
      rw [Option.some.inj (hloan.symm.trans hloan')] at hdeadline
      exact absurd rfl hdeadline
    · intro loan hloan hextends happroved
      exact (ht loan hloan hextends happroved).later hframes

end Runs

end VeriAgentPay.Pools

namespace VeriAgentPay.Devnet
open InterleavedPrograms KeyedTables Pools

/-- The loan of Alice, disbursed and due. -/
def dueLoan : LoanApplication :=
  { requested with
    status := .executed, onChainLoanId := some 7, repaymentDeadline := some 1750100000000 }

/-- A request of Alice to extend it that was registered on chain. -/
def extensionRequest : LoanApplication :=
  { PoolsService.extensionOf "ext" "pool" "loan" "alice" 30 with onChainRequestId := some 2 }

/-- Alice asks for an extension, and an execution is called for it. -/
def extendedAlone : List (Move Operation) :=
  [.start 0 (.requestExtension "ext" "pool" "loan" "alice" 30)] ++ steps 0 3 ++
    [.start 1 (.executeLoan "pool" "ext")] ++
    steps 1 1

theorem deadline_moves_alone :
    ((poolServices.moves StoreService.anything
      (Config.initial (lending dueLoan .empty)) extendedAlone).bind fun c =>
        (poolServices.move StoreService.anything c (.step 1)).map fun c' =>
          (c.state.loan? "loan", c'.state.loan? "loan", c.state.ruled.length,
            c.state.votes.rows.length)) =
      some (some dueLoan, some (dueLoan.setDeadline 1752692000000), 0, 0) := by
  decide +kernel

/-- Bob and Carol approve the extension, and it is executed. -/
def extendedByVotes : List (Move Operation) :=
  [.start 0 (.voteLoan "pool" "ext" "bob" true 0 counted)] ++ steps 0 6 ++
    [.start 1 (.voteLoan "pool" "ext" "carol" true 0 counted)] ++ steps 1 6 ++
      [.start 2 (.executeLoan "pool" "ext")] ++
    steps 2 1

def extending : Pools.Tables :=
  { lending dueLoan .empty with loans := ⟨[dueLoan, extensionRequest], by decide⟩ }

instance : DecidablePred extensionsDecided.starts := fun _ => inferInstanceAs (Decidable True)
instance (i : ℕ) (op : Operation) (t : Pools.Tables) (r : Request) :
    Decidable (extensionsDecided.allows i op t r) :=
  match op with
  | .executeLoan _ loanId =>
    match r with
    | .findPool _ => (inferInstance : Decidable (ExtensionDecided t loanId))
    | .findVoter .. | .createVote .. | .countVotes .. | .deleteVotes .. | .updateVoted
        .. | .decrementBalance ..
    | .moveDeadline .. | .executeExtension .. | .claimExecution .. | .findLoan
        .. | .releaseExecution .. | .closeWrittenOff ..
    | .countExtensions .. | .createLoan .. | .findActiveLoans .. | .markDefaulted .. | .now .. =>
      .isTrue trivial
  | .voteLoan .. =>
    match r with
    | .updateVoted loanId data => (inferInstance : Decidable (DisbursesOnce t loanId data))
    | .findPool .. | .findVoter .. | .createVote .. | .countVotes .. | .deleteVotes
        .. | .decrementBalance ..
    | .moveDeadline .. | .executeExtension .. | .claimExecution .. | .findLoan
        .. | .releaseExecution .. | .closeWrittenOff ..
    | .countExtensions .. | .createLoan .. | .findActiveLoans .. | .markDefaulted .. | .now .. =>
      .isTrue trivial
  | .requestExtension .. | .writeOffLoan .. | .handleLoanRepaymentReminders => .isTrue trivial
instance (t t' : Pools.Tables) : Decidable (extensionsDecided.passes t t') :=
  inferInstanceAs (Decidable True)

theorem deadline_moves_by_votes :
    ((poolServices.moves extensionsDecided (Config.initial extending) extendedByVotes).bind fun c =>
        (poolServices.move extensionsDecided c (.step 2)).map fun c' =>
          (c.state.loan? "loan", c'.state.loan? "loan")) =
      some (some dueLoan, some (dueLoan.setDeadline 1752692000000)) := by
  decide +kernel

end VeriAgentPay.Devnet
