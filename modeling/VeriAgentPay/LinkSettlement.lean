import VeriAgentPay.LedgerRuns

/-!
# Payment links settle once

A link's record leaves the active status in at most one step of a run, and that step is the
only one in which the program lowers the link's escrow: by the link's amount, into the vault
that the settlement names.
-/

namespace VeriAgentPay
open FixedWidth CheckedOutcome LabelledRuns

/-- What a link holds in escrow: lamports of its own, or tokens of its associated account. -/
def escrowBalance (rt : Runtime) (w : World) (key : Pubkey) (link : PaymentLink) : ℕ :=
  if link.mint = defaultPubkey then (w.lamports key).toNat
  else ((associatedTokenAddress rt key link.mint).map w.tokenBalance).getD 0

/-- What a step of the program takes out of the escrow of the link at a key. -/
def programDebit (rt : Runtime) (key : Pubkey) (t : Transition World Event) : ℕ :=
  match t.event with
  | .call _ _ =>
    match (t.before.data key).link? with
    | some link => escrowBalance rt t.before key link - escrowBalance rt t.after key link
    | none => 0
  | .env => 0

def isActive (w : World) (key : Pubkey) : Bool :=
  match (w.data key).link? with
  | some link => link.status == paymentLinkStatusActive
  | none => false

def leavesActive (key : Pubkey) (t : Transition World Event) : Bool :=
  isActive t.before key && !isActive t.after key

/-- A link without the three fields that its settlement writes. -/
def PaymentLink.terms (link : PaymentLink) : PaymentLink :=
  { link with
    status := paymentLinkStatusActive, settledAt := 0, claimedDestination := defaultPubkey }

/-- The claim authority that the program's one claim-authority account names has signed. -/
def ClaimAuthoritySigned (rt : Runtime) (ctx : Context) (w : World) : Prop :=
  ∃ key c, findProgramAddress rt rt.programId [claimAuthoritySeed] = some (key, c.bump) ∧
    w.data key = .claimAuthority c ∧ c.authority ∈ ctx.signers

/-- How a settled link came about: where the escrow went, when, and by whose word. -/
inductive SettledAs (rt : Runtime) (ctx : Context) (w w' : World) (key : Pubkey)
    (link : PaymentLink) :
    PaymentLink → Prop
  | claimed (recipientVault : Pubkey) (signed : ClaimAuthoritySigned rt ctx w)
    (time : w.now ≤ link.expiresAt)
      (recipient : ∃ v, w.data recipientVault = .vault v)
        (paid : EscrowPaid rt w w' key recipientVault link) :
      SettledAs rt ctx w w' key link (link.claimed w.now recipientVault)
  | cancelled (paid : EscrowPaid rt w w' key link.senderVault link) :
      SettledAs rt ctx w w' key link (link.cancelled w.now)
  | refunded (time : link.expiresAt < w.now) (paid : EscrowPaid rt w w' key link.senderVault link) :
      SettledAs rt ctx w w' key link (link.refunded w.now)

theorem SettledAs.terms_eq {rt : Runtime} {ctx : Context} {w w' : World} {key : Pubkey}
    {link link' : PaymentLink} (h : SettledAs rt ctx w w' key link link') :
    link'.terms = link.terms := by
  cases h <;> rfl

theorem PaymentLink.amount_of_terms {link link' : PaymentLink} (h : link'.terms = link.terms) :
    link'.amount = link.amount := by
  have hamount := congrArg PaymentLink.amount h
  exact hamount

theorem SettledAs.not_active {rt : Runtime} {ctx : Context} {w w' : World} {key : Pubkey}
    {link link' : PaymentLink} (h : SettledAs rt ctx w w' key link link') :
    link'.status ≠ paymentLinkStatusActive := by
  cases h <;> simp [PaymentLink.claimed, PaymentLink.cancelled, PaymentLink.refunded,
    paymentLinkStatusActive,
    paymentLinkStatusClaimed, paymentLinkStatusCancelled, paymentLinkStatusRefunded]

section Steps

variable {rt : Runtime} {ctx : Context} {c : Call} {w w' : World} {e : Event} {key : Pubkey}
  {link : PaymentLink}

theorem Settlement.settledAs {link' : PaymentLink} (hwf : WellFormed rt w)
    (h : Settlement rt ctx c w w' key link link') : SettledAs rt ctx w w' key link link' := by
  cases h with
  | claimed recipientVault signed time recipient paid =>
    obtain ⟨k, c, hc, hsigner, -⟩ := signed
    exact .claimed recipientVault ⟨k, c, hwf.claimAuthority k c hc, hc, hsigner⟩ time recipient paid
  | cancelledBySession _ _ _ _ _ paid => exact .cancelled paid
  | cancelledByRoot _ _ _ _ _ _ _ paid => exact .cancelled paid
  | refunded time paid => exact .refunded time paid

theorem SettledAs.paid {link' : PaymentLink} (h : SettledAs rt ctx w w' key link link') :
    ∃ vault, EscrowPaid rt w w' key vault link := by
  cases h with
  | claimed recipientVault _ _ _ paid => exact ⟨recipientVault, paid⟩
  | cancelled paid => exact ⟨link.senderVault, paid⟩
  | refunded _ paid => exact ⟨link.senderVault, paid⟩

/-- A payment lowers the escrow by the link's amount. The default key is no mint, so a link is
never paid in the other asset. -/
theorem EscrowPaid.debit {vault : Pubkey} (hwf : WellFormed rt w)
    (h : EscrowPaid rt w w' key vault link) :
    escrowBalance rt w key link = escrowBalance rt w' key link + link.amount.toNat := by
  rcases h with ⟨⟨m, hm⟩, escrow, destination, hescrow, -, hflow⟩ | ⟨hnative, hflow⟩
  · have hne : link.mint ≠ defaultPubkey := World.ne_of_data hm hwf.system (by simp)
    simpa [escrowBalance, hne, hescrow] using hflow.source_eq
  · simpa [escrowBalance, hnative] using hflow.source_eq

/-- A call that does not write a link does not lower its escrow. -/
theorem escrowBalance_le (hpda : PdaInjective rt) (h : exec rt ctx c w = .ok w')
    (hlink : w.data key = .link link) (hkey : key ∉ c.writes) :
    escrowBalance rt w key link ≤ escrowBalance rt w' key link := by
  have hframe := exec_frame h
  unfold escrowBalance
  split
  · by_cases hdebit : key ∈ c.lamportDebits
    · cases exec_lamportDebit h hdebit with
      | byTransfer vault action use scope recipient amount nonce proofExpiresAt action_eq =>
        have hbefore := use.before
        rw [action_eq] at hbefore
        exact absurd rfl (World.ne_of_data hlink hbefore (by simp))
      | byLinkCreation vault action use _ _ _ _ _ _ _ _ action_eq =>
        have hbefore := use.before
        rw [action_eq] at hbefore
        exact absurd rfl (World.ne_of_data hlink hbefore (by simp))
      | bySettlement _ _ written => exact absurd written hkey
    · exact hframe.lamports key (by simp [hlink]) hdebit
  · cases haddress : associatedTokenAddress rt key link.mint with
    | none => exact le_rfl
    | some escrow =>
      refine hframe.tokenBalance_le ?_
      intro hdebit
      cases exec_tokenDebit h hdebit with
      | byRoot vault action use scope vaultKey destination mint amount nonce proofExpiresAt
          action_eq address =>
        have hbefore := use.before
        rw [action_eq] at hbefore
        exact World.ne_of_data hlink hbefore (by simp)
          (associatedTokenAddress_inj hpda haddress address).1
      | bySession sessionKey vaultKey mint destination session amount nonce call use admitted vault
          address =>
        obtain ⟨v, hv⟩ := vault
        exact World.ne_of_data hlink hv (by simp)
          (associatedTokenAddress_inj hpda haddress address).1
      | byLink key' link' before written address =>
        obtain rfl := (associatedTokenAddress_inj hpda haddress address).1
        exact hkey written

/-- One step of a run, seen from a link. -/
theorem link_step (hpda : PdaInjective rt) (hwf : WellFormed rt w) (h : Step rt w e w')
    (hlink : w.data key = .link link) :
    (w'.data key = .link link ∧ programDebit rt key ⟨w, e, w'⟩ = 0) ∨
    ∃ ctx c link', e = .call ctx c ∧ link.status = paymentLinkStatusActive ∧
      w'.data key = .link link' ∧
      programDebit rt key ⟨w, e, w'⟩ = link.amount.toNat ∧
      SettledAs rt ctx w w' key link link' := by
  cases e with
  | env => exact .inl ⟨(EnvStep.record_kept h key (by rw [hlink]; rfl)).trans hlink, rfl⟩
  | call ctx c =>
    have hexec : exec rt ctx c w = .ok w' := h
    by_cases hkey : key ∈ c.writes
    · obtain ⟨before, after, hbefore, hafter, hchange⟩ := exec_write hexec hkey
      obtain rfl := hbefore.symm.trans hlink
      cases hchange with
      | linkSettled _ link' active how =>
        have hsettled := how.settledAs hwf
        obtain ⟨vault, hpaid⟩ := hsettled.paid
        refine .inr ⟨ctx, c, link', rfl, active, hafter, ?_, hsettled⟩
        have hdebit := hpaid.debit hwf
        simp only [programDebit, hlink, AccountData.link?_link]
        omega
    · refine .inl ⟨((exec_frame hexec).record_kept hkey (by rw [hlink]; rfl)).trans hlink, ?_⟩
      have hle := escrowBalance_le hpda hexec hlink hkey
      simp only [programDebit, hlink, AccountData.link?_link]
      omega

/-- What the settled links of a ledger have let out, and how many there are at a key. -/
def settledAmount (key : Pubkey) (w : World) : ℕ :=
  match (w.data key).link? with
  | some link => if link.status = paymentLinkStatusActive then 0 else link.amount.toNat
  | none => 0

def settledCount (key : Pubkey) (w : World) : ℕ :=
  match (w.data key).link? with
  | some link => if link.status = paymentLinkStatusActive then 0 else 1
  | none => 0

/-- A step at a key without a link creates one, active, or leaves the key without. -/
theorem no_link_step (h : Step rt w e w') (hnone : (w.data key).link? = none) :
    (w'.data key).link? = none ∨
    ∃ link', w'.data key = .link link' ∧ link'.status = paymentLinkStatusActive := by
  cases hafter : (w'.data key).link? with
  | none => exact .inl rfl
  | some link' =>
    have hlink' := AccountData.link?_eq_some.mp hafter
    rcases step_record_after h hlink' rfl with hbefore | ⟨ctx, c, before, rfl, hbefore, hchange⟩
    · simp [hbefore, AccountData.link?] at hnone
    · cases hchange with
      | linkCreated => exact .inr ⟨_, hlink', rfl⟩
      | linkSettled => simp [hbefore, AccountData.link?] at hnone

theorem settled_step (hpda : PdaInjective rt) (hwf : WellFormed rt w) (h : Step rt w e w') :
    settledAmount key w' = settledAmount key w + programDebit rt key ⟨w, e, w'⟩ ∧
      settledCount key w' = settledCount key w + if leavesActive key ⟨w, e, w'⟩ then 1 else 0 := by
  cases hlink : (w.data key).link? with
  | some link =>
    have hbefore := AccountData.link?_eq_some.mp hlink
    rcases link_step hpda hwf h hbefore with ⟨hafter, hdebit⟩ | ⟨ctx, c, link', rfl, hactive,
      hafter, hdebit, hsettled⟩
    · simp [settledAmount, settledCount, leavesActive, isActive, hbefore, hafter, hdebit]
    · have hamount : link'.amount = link.amount := PaymentLink.amount_of_terms hsettled.terms_eq
      simp [settledAmount, settledCount, leavesActive, isActive, hbefore, hafter, hdebit,
        hactive, hsettled.not_active, hamount]
  | none =>
    have hdebit : programDebit rt key ⟨w, e, w'⟩ = 0 := by
      cases e with
      | env => rfl
      | call ctx c => simp [programDebit, hlink]
    rcases no_link_step h hlink with hnone | ⟨link', hafter, hstatus⟩
    · simp [leavesActive, isActive, settledAmount, settledCount, hlink, hnone, hdebit]
    · simp [leavesActive, isActive, settledAmount, settledCount, hlink, hafter, hstatus, hdebit]

end Steps

section Runs

variable {rt : Runtime} {start w : World} {tr : List (Transition World Event)} {key : Pubkey}
  {link : PaymentLink}

/-- What has become of the link that a transition started from. -/
private def LinkHistory (rt : Runtime) (key : Pubkey) (t : Transition World Event)
    (w : World) : Prop :=
  ∀ l, t.before.data key = .link l → ∃ l', w.data key = .link l' ∧ l'.terms = l.terms ∧
    (t.after.data key = .link l ∧ programDebit rt key t = 0 ∨
      ∃ ctx c, t.event = .call ctx c ∧ l.status = paymentLinkStatusActive ∧
      t.after.data key = .link l' ∧
        l'.status ≠ paymentLinkStatusActive ∧ programDebit rt key t = l.amount.toNat ∧
        SettledAs rt ctx t.before t.after key l l')

private theorem linkHistory_establish {u v : World} {e : Event} (hpda : PdaInjective rt)
    (hwf : WellFormed rt u) (h : Step rt u e v) : LinkHistory rt key ⟨u, e, v⟩ v := by
  intro l hl
  rcases link_step hpda hwf h hl with ⟨hafter, hdebit⟩ | ⟨ctx, c, l', he, hactive, hafter,
    hdebit, hsettled⟩
  · exact ⟨l, hafter, rfl, .inl ⟨hafter, hdebit⟩⟩
  · exact ⟨l', hafter, hsettled.terms_eq,
      .inr ⟨ctx, c, he, hactive, hafter, hsettled.not_active, hdebit, hsettled⟩⟩

/-- A settled link is never touched again, and an unsettled one keeps its terms. -/
private theorem linkHistory_stable {t : Transition World Event} {u v : World} {e : Event}
    (hpda : PdaInjective rt) (hwf : WellFormed rt u) (hfact : LinkHistory rt key t u)
    (h : Step rt u e v) :
    LinkHistory rt key t v := by
  intro l hl
  obtain ⟨l', hl', hterms, hcase⟩ := hfact l hl
  rcases link_step hpda hwf h hl' with ⟨hafter, -⟩ | ⟨ctx, c, l'', -, hactive, hafter, -, hsettled⟩
  · exact ⟨l', hafter, hterms, hcase⟩
  · refine ⟨l'', hafter, hsettled.terms_eq.trans hterms, .inl ?_⟩
    rcases hcase with hkept | ⟨_, _, _, _, _, hstatus, -⟩
    · exact hkept
    · exact absurd hactive hstatus

/-- Settlement is final and pays exactly once, for every run and every link: the link left the
active status once if it is settled and never if it is active; the program's debits of its
escrow add up to its amount or to nothing; and every step either left the link and its escrow
alone or was the one that settled it as its record says. -/
theorem payment_link_settles_once (hpda : PdaInjective rt) (hgenesis : Genesis start)
    (hrun : Run (Step rt) start tr w) (hlink : w.data key = .link link) :
    tr.countP (leavesActive key) = (if link.status = paymentLinkStatusActive then 0 else 1) ∧
    (tr.map (programDebit rt key)).sum =
      (if link.status = paymentLinkStatusActive then 0 else link.amount.toNat) ∧
    (link.status = paymentLinkStatusActive ∨ link.status = paymentLinkStatusClaimed ∨
      link.status = paymentLinkStatusCancelled ∨ link.status = paymentLinkStatusRefunded) ∧
    ∀ t ∈ tr, ∀ l, t.before.data key = .link l → link.terms = l.terms ∧
      (t.after.data key = .link l ∧ programDebit rt key t = 0 ∨
        ∃ ctx c, t.event = .call ctx c ∧ l.status = paymentLinkStatusActive ∧
          t.after.data key = .link link ∧
          programDebit rt key t = link.amount.toNat ∧
          SettledAs rt ctx t.before t.after key l link) := by
  have hwf := wellFormed_of_run hgenesis hrun
  have hstart : (start.data key).link? = none := by
    have := hgenesis.no_records key
    cases hdata : start.data key <;> simp_all [AccountData.link?, AccountData.programOwned]
  have hpreserved : ∀ u e v, WellFormed rt u → Step rt u e v → WellFormed rt v :=
    fun _ _ _ hwf h => hwf.step h
  refine ⟨?_, ?_, hwf.link_status key link hlink, ?_⟩
  · have hcount :=
      hrun.count_steps hgenesis.wellFormed hpreserved (settledCount key) (leavesActive key)
      (by simp [settledCount, hstart]) (fun _ _ _ hwf h => (settled_step hpda hwf h).2)
    rw [hcount]
    simp [settledCount, hlink]
  · have hsum :=
      hrun.sum_weights hgenesis.wellFormed hpreserved (settledAmount key) (programDebit rt key)
      (fun _ _ _ hwf h => (settled_step hpda hwf h).1)
    have hzero : settledAmount key start = 0 := by simp [settledAmount, hstart]
    rw [hzero, Nat.zero_add] at hsum
    rw [← hsum]
    simp [settledAmount, hlink]
  · intro t ht l hl
    obtain ⟨l', hl', hterms, hcase⟩ := hrun.fact_of_mem hgenesis.wellFormed hpreserved
      (LinkHistory rt key) (fun _ _ _ hwf h => linkHistory_establish hpda hwf h)
      (fun _ _ _ _ hwf hfact h => linkHistory_stable hpda hwf hfact h) t ht l hl
    obtain rfl := AccountData.link.inj (hl'.symm.trans hlink)
    refine ⟨hterms, ?_⟩
    rcases hcase with hkept | ⟨ctx, c, he, hactive, hafter, -, hdebit, hsettled⟩
    · exact .inl hkept
    · have hamount : l'.amount = l.amount := PaymentLink.amount_of_terms hterms
      exact .inr ⟨ctx, c, he, hactive, hafter, hamount ▸ hdebit, hsettled⟩

theorem payment_link_settles_once_devnet : ∃ tr w, Run (Step Devnet.runtime) Devnet.genesis tr w ∧
    tr.countP (leavesActive Devnet.tokenLink) = 1 ∧
    (tr.map (programDebit Devnet.runtime Devnet.tokenLink)).sum = 2000000 := by
  obtain ⟨tr, w, hrun, hw⟩ := Devnet.reached 4
    (p := fun _ w => (w.data Devnet.tokenLink).link?.any
      fun link => link.status = 2 ∧ link.amount = 2000000)
    (by decide +kernel)
  obtain ⟨link, hlink, hvalues⟩ := (Option.any_eq_true _ _).mp hw
  obtain ⟨hstatus, hamount⟩ := of_decide_eq_true hvalues
  rw [AccountData.link?_eq_some] at hlink
  have hsettled := payment_link_settles_once Devnet.pdaInjective Devnet.genesis_fresh hrun hlink
  rw [hstatus, hamount] at hsettled
  exact ⟨tr, w, hrun, hsettled.1, hsettled.2.1⟩

end Runs

end VeriAgentPay
