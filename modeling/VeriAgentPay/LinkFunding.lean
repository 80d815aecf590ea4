import VeriAgentPay.LinkRecordAgreement

/-!
# Funded links and their rows

A link that the backend funded has an active row once everything is over, in every run in which no
operation is interrupted between the transaction and the row. An interrupted one leaves the escrow
without a row that anybody could act on.
-/

namespace VeriAgentPay.Backend
open FixedWidth CheckedOutcome Client LabelledRuns InterleavedPrograms

/-- An operation of the flow starts; an error or a crash finds every link that the operation funded
with its row; and no transaction that was reported as failed creates a link later. -/
def UninterruptedStep : BackendTransition → Prop :=
  Meets (fun op => ¬op.Direct) (fun i _ _ _ x s' => Uninterrupted i x s')
    (fun i s => ¬Unrecorded i s)
    fun s s' => s'.funder = s.funder

/-- A row that claims, cancellations and the sweep act on. -/
def ActiveRow (s : Store) (key : Pubkey) : Prop :=
  ∃ code row, s.links code = some row ∧ row.kind = .pay ∧ row.status = .active ∧
    row.envelopeId = some (toBase58 key)

/-- Of a link that is active on chain, a live row is active. -/
theorem activeRow_of_recorded {d : Deployment} {strict : Prop} {s : Store} {H : ℕ → Holding}
    {key : Pubkey} {link : PaymentLink} (hinv : LinkInvariant d strict s H)
    (hlink : s.ledger.data key = .link link) (hactive : link.status = paymentLinkStatusActive)
    (hrecorded : Recorded s key) : ActiveRow s key := by
  obtain ⟨code, row, hrow, hnative, hlive⟩ := hrecorded
  refine ⟨code, row, hrow, hnative.1, ?_, hnative.2⟩
  have hnot : row.status.onChain? = none := by
    cases hvalue : row.status.onChain? with
    | none => rfl
    | some value =>
      obtain ⟨link', hlink', hstatus⟩ := (hinv.native code row key hrow hnative).2 value hvalue
      obtain rfl := AccountData.link.inj (hlink.symm.trans hlink')
      exact absurd (hstatus.symm.trans hactive) (onChain?_ne_active hvalue)
  cases hstatus : row.status with
  | active => rfl
  | pending => exact absurd hstatus hlive.1
  | failed => exact absurd hstatus hlive.2
  | _ => rw [hstatus] at hnot; cases hnot

variable {d : Deployment} {s₀ : Store} {tr : List BackendTransition} {c : BackendConfig}

theorem funded_links_have_active_rows (hstart : Consistent d s₀) (hrun : BackendRun d s₀ tr c)
    (hsteps : ∀ t ∈ tr, UninterruptedStep t) (hover : c.Quiescent) :
    ∀ key link i, c.state.ledger.data key = .link link → link.status = paymentLinkStatusActive →
      c.state.funder key = some i → ActiveRow c.state key := by
  have hobeyed : (linkProtocol d True).Obeyed (linkServices d (fun op => ¬op.Direct) False True) :=
    linkServices_obeyed fun _ hflow hdirect => absurd hdirect hflow
  have hrun' : Run (InterleavedPrograms.Step (linkServices d (fun op => ¬op.Direct) False True))
      (Config.initial s₀)
      tr c := by
    refine run_restrict hrun fun t ht => ?_
    have hstep := hsteps t ht
    obtain ⟨before, event, after⟩ := t
    cases event with
    | performed i r x => exact fun proc hproc => ⟨False.elim, fun _ => hstep proc hproc⟩
    | start i op => exact hstep
    | crash i => exact fun _ => hstep
    | environment => exact fun _ => hstep
  obtain ⟨H, hkept⟩ := Protocol.kept_of_run hobeyed hstart hrun'
  intro key link i hlink hactive hfunder
  refine activeRow_of_recorded hkept.inv hlink hactive ?_
  rcases hkept.inv.funded trivial key i hfunder with hrecorded | hfunds
  · exact hrecorded
  · have hresting := Protocol.resting_of_quiescent (fun _ => rfl) hkept hover i trivial
    rw [hresting] at hfunds
    cases hfunds

end VeriAgentPay.Backend

namespace VeriAgentPay.Devnet
open FixedWidth CheckedOutcome Client LabelledRuns InterleavedPrograms Backend

theorem funder_landed (w : World) :
    ((backendStart.setLink linkCode pendingRow).landed 0 fundingSubmission w).funder
      codeLink = some 0 :=
  Store.landed_funder_self rfl

theorem quiescent_of_returned {s : Store} {op : Operation} :
    (({ (Config.initial backendStart : BackendConfig) with state := s }).setStage 0 op
      (.running (.ret ()))).Quiescent := by
  intro i proc hproc
  by_cases hi : i = 0
  · subst hi
    simp only [Config.setStage, Function.update_self, Option.some.injEq] at hproc
    exact .inl (by rw [← hproc])
  · simp [Config.setStage, Config.initial, hi] at hproc

theorem funded_links_have_active_rows_devnet : ∃ tr c, BackendRun deployment backendStart tr c ∧
    ActiveRow c.state codeLink := by
  obtain ⟨tr, w, link, hrun, hlink, hactive⟩ :=
    created_run (m := fun op => ¬op.Direct) False True fun h => h
  obtain ⟨hrun, hmeets⟩ := run_of_restrict hrun
  have hsteps : ∀ t ∈ tr, UninterruptedStep t := by
    intro t ht
    have hmeet := hmeets t ht
    obtain ⟨before, event, after⟩ := t
    cases event with
    | performed i r x => exact fun proc hproc => (hmeet proc hproc).2 trivial
    | start i op => exact hmeet
    | crash i => exact hmeet trivial
    | environment => exact hmeet trivial
  refine ⟨tr, _, hrun, ?_⟩
  exact funded_links_have_active_rows backendStart_consistent hrun hsteps quiescent_of_returned
    codeLink link 0 hlink
    hactive (funder_landed w)

section Interruption

variable {m : Operation → Prop}

def timeout : Failure := .error "Transaction was not confirmed in 30.00 seconds"

/-- The store once the link is funded, the confirmation was lost, and the row has failed. -/
def unrecorded (w : World) : Store :=
  ((backendStart.setLink linkCode pendingRow).landed 0 fundingSubmission w).setLink linkCode
    { pendingRow with status := .failed }

theorem createClaimLink_fails {w : World} (hlands : fundingSubmission.Lands deployment opened w) :
    Returns (linkServices deployment m False False) 0 (.createClaimLink dto) backendStart
      ((Operation.createClaimLink dto).program deployment) (unrecorded w) () := by
  refine Returns.bind _ (.error timeout) (createClaimLink_starts False.elim (.failed ?_))
    (.refl _ _)
  refine .caught ((backendStart.setLink linkCode pendingRow).landed 0 fundingSubmission w)
    (createPaymentLink_starts False.elim (x := .error timeout) ?_ (.refl _ _)) ?_
  · exact .ask ⟨.inl ⟨w, hlands, rfl⟩, False.elim, False.elim⟩ (.refl _ _)
  · refine .andThen (unrecorded w) () (.untouched ?_) (.refl _ _)
    refine .andThen _ _ (returns_ok (r := .updateLink linkCode { status := some .failed })
      (x := { pendingRow with status := .failed }) False.elim ?_) (.refl _ _)
    exact .inl ⟨pendingRow, by simp [Store.landed, Store.setLink], .inl ⟨rfl, .inl rfl⟩⟩

end Interruption

/-- The transaction lands and is reported as timed out: its escrow is active and has no row. -/
theorem lost_confirmation_loses_escrow : ∃ tr c link, Consistent deployment backendStart ∧
    BackendRun deployment backendStart tr c ∧ c.Quiescent ∧
    c.state.ledger.data codeLink = .link link ∧
    link.status = paymentLinkStatusActive ∧ c.state.funder codeLink = some 0 ∧
    ¬ActiveRow c.state codeLink := by
  obtain ⟨w, link, hlands, hlink, hactive⟩ := fundingSubmission_lands
  have hnil : Run (InterleavedPrograms.Step (linkServices deployment (fun _ => True) False False))
    (Config.initial backendStart) [] (Config.initial backendStart) := Run.nil
  have hmay : (linkServices deployment (fun _ => True) False False).mayStart
      (.createClaimLink dto) := ⟨trivial, trivial⟩
  obtain ⟨tr, hrun⟩ := run_of_returns (i := 0) hnil rfl hmay (createClaimLink_fails hlands)
  refine ⟨tr, _, link, backendStart_consistent, (run_of_restrict hrun).1, quiescent_of_returned,
    hlink, hactive,
    funder_landed w, ?_⟩
  rintro ⟨code, row, hrow, -, -, henvelope⟩
  by_cases hcode : code = linkCode
  · subst hcode
    obtain rfl := Option.some.inj ((Store.setLink_self ..).symm.trans hrow)
    cases henvelope
  · simp [unrecorded, Store.setLink, Store.landed, hcode, backendStart, Config.setStage] at hrow

end VeriAgentPay.Devnet
