import VeriAgentPay.RedEnvelopes

/-!
# Shares of open envelopes

The recipients of an envelope claim it one after the other. What they are to get is cut to the
balance, and the escrow is asked to pay it, which the relayer refuses: nobody gets a share, and the
envelope stays as it is.
-/

namespace VeriAgentPay.EnvelopeShares
open InterleavedPrograms KeyedTables RedEnvelopes
open InterleavedPrograms.Fallible (checked check)
open Backend (Failure)

section Model

variable (wallet : String → Option String)

/-- Claimants in the order of their claims, each with what the outside answers. -/
abbrev Claimants : Type := List (String × Turns)

/-- The claims of an envelope, each after the one before it has ended. -/
def claimsInTurn (id : String) : Tables → Claimants → List (Except Failure Unit) × Tables
  | t, [] => ([], t)
  | t, (claimerAddress, turns) :: rest =>
    let (result, claimed) := (claimEnvelope wallet id claimerAddress turns).eval
      (carry rest.length) t
    let (results, after) := claimsInTurn id claimed rest
    (result :: results, after)

/-- The share of a claimant: what the escrow has paid to the vault. -/
def Tables.share (t : Tables) (id claimerAddress : String) : ℚ :=
  ((t.paid.filter fun payment =>
    payment.envelopeId = id ∧ wallet claimerAddress = some payment.vault).map Payment.amount).sum

/-- Each claimant has a share, and the shares are the whole amount. -/
def DividesWhole (envelope : RedEnvelope) (claimants : List String) (t : Tables) : Prop :=
  (∀ claimerAddress ∈ claimants, 0 < Tables.share wallet t envelope.id claimerAddress) ∧
    (claimants.map (Tables.share wallet t envelope.id)).sum = envelope.totalAmount

/-- A claim asks for its payment out of the balance, and for nothing that would write it down. -/
def AsksWithin (balance : ℚ) : Request → Prop
  | .executeLocalSessionAction payment => payment.amount ≤ balance
  | r => r.Early

end Model

section Shares

variable {wallet : String → Option String} {t : Tables} {envelope : RedEnvelope}
  {claimerAddress id : String} {turns : Turns} {balance : ℚ}

/-- A share is never more than what is left, whatever is drawn. -/
theorem claimAmount_le (envelope : RedEnvelope) (random : ℚ) :
    claimAmount envelope random ≤ envelope.remainingBalance := by
  unfold claimAmount
  split_ifs
  · exact min_le_right _ _
  · exact min_le_right _ _
  · exact le_rfl

theorem refused_settleShare (random : ℚ) :
    (settleClaim wallet envelope ⟨envelope.id, claimerAddress, claimAmount envelope random⟩
      turns).Refused Answered (AsksWithin envelope.remainingBalance) :=
  refused_settleClaim (fun _ _ _ => trivial) fun _ _ => claimAmount_le envelope random

/-- What a claim asks for, from the envelope as it is read. -/
theorem claim_asksWithin (i : ℕ) (hrow : t.envelopes.find? id = some envelope) {r : Request}
    (hr : r ∈ (claimEnvelope wallet id claimerAddress turns).requests (carry i) t) :
    AsksWithin (withClaimSummary envelope
      (t.claims.filter (·.envelopeId = id))).remainingBalance r := by
  unfold claimEnvelope at hr
  rw [Fallible.requests_andThen_ok (eval_findOne i hrow)] at hr
  rcases List.mem_append.mp hr with hfind | hr
  · have hfound : (findOne id).Limited Answered (fun r => r = .findUnique id) fun _ => True :=
      limited_findOne id rfl
    obtain rfl := Program.Gated.requests hfound (answered_carry i) t r hfind
    trivial
  · rw [Fallible.mem_requests_checkThen, Fallible.mem_requests_checkThen,
      Fallible.mem_requests_checkThen] at hr
    obtain ⟨-, -, -, hr⟩ := hr
    exact Program.Gated.requests (refused_settleShare turns.random) (answered_carry i) t r hr

/-- A claim ends in an error and changes nothing. -/
theorem eval_claimEnvelope (wallet : String → Option String) (i : ℕ) (t : Tables)
    (id claimerAddress : String) (turns : Turns) :
    ∃ e, (claimEnvelope wallet id claimerAddress turns).eval (carry i) t = (.error e, t) := by
  have hrefused : (claimEnvelope wallet id claimerAddress turns).Refused Answered Request.Early :=
    refused_claimEnvelope id claimerAddress
  obtain ⟨e, t', heval⟩ := hrefused.eval (answered_carry i) t
  have hstate : ((claimEnvelope wallet id claimerAddress turns).eval (carry i) t).2 = t :=
    Program.Gated.state hrefused (answered_carry i) (fun s r => carry_early i s) t
  rw [heval] at hstate
  exact ⟨e, heval.trans (congrArg _ hstate)⟩

theorem claimsInTurn_refused (t : Tables) (id : String) (claimants : Claimants) :
    (claimsInTurn wallet id t claimants).2 = t ∧
      ∀ result ∈ (claimsInTurn wallet id t claimants).1, ∃ e, result = .error e := by
  induction claimants with
  | nil => exact ⟨rfl, fun result hresult => nomatch hresult⟩
  | cons claimant rest ih =>
    obtain ⟨claimerAddress, turns⟩ := claimant
    obtain ⟨e, heval⟩ := eval_claimEnvelope wallet rest.length t id claimerAddress turns
    unfold claimsInTurn
    rw [heval]
    exact ⟨ih.1, List.forall_mem_cons.mpr ⟨⟨e, rfl⟩, ih.2⟩⟩

/-- For any recipients, draws and order of claims: each of them is refused, the envelope, its
balance and the payments of the escrow are what they were, and no claim asks the escrow for more
than is left. -/
theorem open_envelopes_unpaid (wallet : String → Option String) (t : Tables) (id : String)
    (claimants : Claimants) :
    (claimsInTurn wallet id t claimants).2 = t ∧
      (∀ result ∈ (claimsInTurn wallet id t claimants).1, ∃ e, result = .error e) ∧
      ∀ envelope, t.envelopes.find? id = some envelope → ∀ claimant ∈ claimants, ∀ i,
        ∀ r ∈ (claimEnvelope wallet id claimant.1 claimant.2).requests (carry i) t,
          AsksWithin (withClaimSummary envelope
            (t.claims.filter (·.envelopeId = id))).remainingBalance r :=
  ⟨(claimsInTurn_refused t id claimants).1, (claimsInTurn_refused t id claimants).2,
    fun _ hrow _ _ i _ hr => claim_asksWithin i hrow hr⟩

end Shares

end VeriAgentPay.EnvelopeShares

namespace VeriAgentPay.Devnet
open InterleavedPrograms RedEnvelopes EnvelopeShares

/-- Ben and Dan claim their halves. -/
def giftClaimants : Claimants :=
  [("ben", giftTurns "vault-ben"), ("dan", giftTurns "vault-dan")]

theorem gift_not_divided :
    claimAmount gift 0 = 5 ∧
      ¬DividesWhole giftVault gift ["ben", "dan"]
        (claimsInTurn giftVault "env" giftTables giftClaimants).2 := by
  refine ⟨by decide +kernel, fun hdivided => ?_⟩
  rw [(claimsInTurn_refused giftTables "env" giftClaimants).1] at hdivided
  exact absurd (hdivided.1 "ben" (by decide)) (by decide)

end VeriAgentPay.Devnet
