import VeriAgentPay.LinkRequests

/-!
# Every operation keeps to the protocol

The services of a payment link taken apart into their requests, one rule for each service.
-/

namespace VeriAgentPay.Backend
open FixedWidth CheckedOutcome Client LabelledRuns InterleavedPrograms

namespace Setting

section ReadingServices

variable (d : Deployment)

theorem within_ask {r : Request} (hr : ReadsOnly r) : (ask r).run.Within ReadsOnly :=
  ⟨hr, fun _ => trivial⟩

theorem within_checked {α : Type} (x : Except Failure α) : (checked x).run.Within ReadsOnly :=
  trivial

theorem within_ignoringFailure {x : Service Unit} (hx : x.run.Within ReadsOnly) :
    (ignoringFailure x).run.Within ReadsOnly := by
  refine Program.Within.bind hx fun result => ?_
  cases result with
  | ok u => trivial
  | error e => trivial

theorem within_readVault (address : String) :
    (SolanaChainService.readVault address).run.Within ReadsOnly :=
  .andThen (within_checked _) fun _ => within_ask trivial

theorem within_readPaymentLink (address : String) :
    (SolanaChainService.readPaymentLink address).run.Within ReadsOnly :=
  .andThen (within_checked _) fun _ => within_ask trivial

theorem within_ensureVaultDeployed (address : String) :
    (SolanaRelayerService.ensureVaultDeployed address).run.Within ReadsOnly := by
  refine .andThen (within_readVault address) fun vault => ?_
  refine .andThen (within_checked _) fun _ => ?_
  exact within_ask trivial

theorem within_decryptSessionKey (session : SessionKey) :
    (SolanaRelayerService.decryptSessionKey session).run.Within ReadsOnly :=
  .andThen (within_checked _) fun _ => within_ask trivial

theorem within_requireActiveSession (userId : String) (sessionKeypair : Pubkey) :
    (SolanaRelayerService.requireActiveSession userId sessionKeypair).run.Within ReadsOnly := by
  refine .andThen (within_ask trivial) fun found => ?_
  refine .andThen (within_ask trivial) fun now => ?_
  exact within_checked _

theorem within_assertAvailableDailyLimit (session : SessionKey) (amountUSD : ℚ) :
    (SolanaRelayerService.assertAvailableDailyLimit d session amountUSD).run.Within ReadsOnly := by
  refine .andThen (within_checked _) fun _ => ?_
  refine .andThen (within_ask trivial) fun now => ?_
  refine .andThen (within_ask trivial) fun recent => ?_
  exact within_checked _

theorem within_activeSessionState (vaultAddress : String) (sessionKeypair : Pubkey) :
    (SolanaRelayerService.activeSessionState d vaultAddress sessionKeypair).run.Within
      ReadsOnly := by
  refine .andThen ?_ fun session => within_checked _
  refine .andThen (within_checked _) fun vault => ?_
  refine .andThen (within_checked _) fun address => ?_
  exact within_ask trivial

theorem within_getVaultUsdcBalance (vaultAddress : String) :
    (SolanaChainService.getVaultUsdcBalance d vaultAddress).run.Within ReadsOnly :=
  .andThen (within_checked _) fun _ => within_ask trivial

theorem within_uniqueCode (attempts : ℕ) (code : String) :
    (ShortLinksService.uniqueCode attempts code).run.Within ReadsOnly := by
  induction attempts generalizing code with
  | zero => exact within_checked _
  | succ attempts ih =>
    refine .andThen (within_ask trivial) fun existing => ?_
    split
    · trivial
    · exact .andThen (within_ask trivial) fun code => ih code

theorem within_pendingCode (attempts : ℕ) :
    (SolanaRelayerService.pendingCode attempts).run.Within ReadsOnly := by
  induction attempts with
  | zero => exact within_checked _
  | succ attempts ih =>
    refine .andThen (within_ask trivial) fun code => ?_
    refine .andThen (within_ask trivial) fun existing => ?_
    split
    · trivial
    · exact ih

theorem within_userWithWallet (userId : String) :
    (SolanaPasskeyExecutionService.userWithWallet userId).run.Within ReadsOnly :=
  .andThen (within_ask trivial) fun _ => within_checked _

theorem within_readVaultState (address message : String) :
    (SolanaPasskeyExecutionService.readVaultState address message).run.Within ReadsOnly :=
  .andThen (within_readVault address) fun _ => within_checked _

theorem within_provisionSessionKey (userId : String) (perTxLimitUSD dailyLimitUSD : JsNumber)
    (durationSeconds : ℤ) :
    (SolanaPasskeyExecutionService.provisionSessionKey userId perTxLimitUSD dailyLimitUSD
      durationSeconds).run.Within
      ReadsOnly := by
  refine .andThen (within_ask trivial) fun sessionPublicKey => ?_
  refine .andThen (within_ask trivial) fun now => ?_
  refine .andThen (within_ask trivial) fun sessionKeyId => ?_
  refine .andThen (within_ask trivial) fun _ => ?_
  refine .andThen (within_ask trivial) fun _ => ?_
  refine .andThen (within_ignoringFailure (within_ask trivial)) fun _ => ?_
  trivial

end ReadingServices

variable {c : Setting} {K : Store → Prop} [Lasting K] {h : Holding}

section ShortLinks

/-- A row that is active and not native expires without the chain. -/
theorem keeps_markExpired {record : ShortLink} (hseen : ∀ s, K s → Seen record s)
    (hactive : record.status = .active) (hnative : isNativeSolanaPaymentLink record = false) :
    c.Keeps (ShortLinksService.markExpired record.code record) K h
      fun expired _ => expired.status = .expired := by
  refine Keeps.bindNext (F := fun _ _ => True) ?_ fun _ => ?_
  · refine keeps_settle (rfl : _ = some LinkStatus.expired) rfl fun s hs _ => ?_
    refine (hseen s hs).settled (by simp [Live, hactive]) (fun _ => rfl) fun key hkey => ?_
    rw [Bool.eq_false_iff] at hnative
    exact absurd (isNativeSolanaPaymentLink_iff.mpr ⟨key, hkey⟩) hnative
  · exact (keeps_pure _).weaken fun expired _ _ heq => by rw [heq]

/-- The record that a caller goes on with, if it finds it active. -/
theorem keeps_resolve (code : String) : c.Keeps (ShortLinksService.resolve code) K h fun record s =>
    record.status = .active → record.code = code ∧ Seen record s := by
  refine Keeps.bind (keeps_findLink code) fun found => ?_
  refine Keeps.bind (keeps_checked _) fun record => ?_
  refine Keeps.given (φ := found = some record) (fun s hs => orError_eq_ok.mp hs.2) fun hfound => ?_
  refine Keeps.bindNext (keeps_within (within_ask trivial)) fun now => ?_
  refine Keeps.given (fun s hs => (hs.1.2 record hfound).1) fun hcode => ?_
  subst hcode
  refine Keeps.join ?_
  refine Keeps.bind (F := fun resolved s => resolved.status = .active → resolved = record) ?_
    fun resolved => ?_
  · split
    · obtain ⟨hactive, -, hnative⟩ := ‹record.status = .active ∧ _›
      refine (keeps_markExpired (fun s hs => (hs.1.2 record hfound).2) hactive
        (by simpa using hnative)).weaken ?_
      intro expired s _ hexpired hactive
      rw [hexpired] at hactive
      cases hactive
    · exact (keeps_pure record).weaken fun _ _ _ heq _ => heq
  refine Keeps.bindNext (keeps_click record.code) fun _ => ?_
  refine Runs.weaken (keeps_pure resolved) (fun _ _ _ _ hs => hs) ?_
  rintro result s h' ⟨hh, hs, hresult⟩
  refine ⟨hh, hs, fun resolved' hok hactive => ?_⟩
  obtain rfl := hresult resolved' hok
  obtain rfl := hs.2 hactive
  exact ⟨rfl, (hs.1.1.2 _ hfound).2⟩

/-- The write of a redeem: the chain has the link claimed, or the write is arbitrated. -/
theorem keeps_redeem {code claimerUserId txHash : String}
    (hwrite : ∀ s record update, K s → record.code = code → record.status = .active →
      Seen record s →
      update.status = some .claimed →
      (c.arbitrated → Arbitrated c.operation s (.updateLink code update)) →
      Settled code .claimed s) :
    c.Keeps (ShortLinksService.redeem code claimerUserId txHash) K h fun _ _ => True := by
  refine Keeps.bind (keeps_resolve code) fun record => ?_
  refine Keeps.bind (keeps_check _ _) fun _ => ?_
  refine Keeps.given (fun s hs => hs.2) fun hactive => ?_
  refine Keeps.given (fun s hs => (hs.1.2 hactive).1) fun hcode => ?_
  refine Keeps.bindNext (keeps_within (within_ask trivial)) fun now => ?_
  refine Keeps.joinSkip (F := fun _ _ => True) ?_ ?_
  · rintro ⟨-, hnative⟩
    subst hcode
    refine Keeps.bindNext
      (keeps_markExpired (fun s hs => (hs.1.2 hactive).2) hactive (by simpa using hnative)) ?_
    exact fun _ => (keeps_checked _).weaken fun _ _ _ _ => trivial
  refine Keeps.bindNext (keeps_within (within_ask trivial)) fun claimedAt => ?_
  exact keeps_settle rfl rfl fun s hs harbitrated =>
    hwrite s record _ hs.1.1 hcode hactive (hs.1.2 hactive).2 rfl harbitrated

theorem keeps_cancel {code senderUserId : String}
    (hwrite : ∀ s record update, K s → record.code = code → record.status = .active →
      Seen record s →
      update.status = some .cancelled →
      (c.arbitrated → Arbitrated c.operation s (.updateLink code update)) →
      Settled code .cancelled s) :
    c.Keeps (ShortLinksService.cancel code senderUserId) K h fun _ _ => True := by
  refine Keeps.bind (keeps_resolve code) fun record => ?_
  refine Keeps.bindNext (keeps_check _ _) fun _ => ?_
  refine Keeps.bind (keeps_check _ _) fun _ => ?_
  refine Keeps.given (fun s hs => hs.2) fun hactive => ?_
  refine Keeps.given (fun s hs => (hs.1.2 hactive).1) fun hcode => ?_
  exact keeps_settle rfl rfl fun s hs harbitrated =>
    hwrite s record _ hs.1.1 hcode hactive (hs.1.2 hactive).2 rfl harbitrated

/-- An arbitrated write to a row that was read active. -/
theorem settled_of_arbitrated {s : Store} {record : ShortLink} {status : LinkStatus} {value : UInt8}
    (hactive : record.status = .active) (hseen : Seen record s)
    (hvalue : status.onChain? = some value)
    (hchain : ∀ row key, s.links record.code = some row → Native row key → OnChain s key value) :
    Settled record.code status s := by
  obtain ⟨⟨row, hrow, hkind, hkept⟩, -⟩ := hseen
  have hlive : Live record := by simp [Live, hactive]
  refine ⟨row, hrow, fun hpay => ⟨(hkept (hkind.mp hpay) hlive).1, by rw [hvalue]; rfl⟩,
    fun key hnative value' hvalue' => ?_⟩
  obtain rfl := Option.some.inj (hvalue.symm.trans hvalue')
  exact hchain row key hrow hnative

theorem keeps_expireLinks {links : List ShortLink}
    (hlinks : ∀ s, K s → ∀ link ∈ links, link.status = .active ∧ Seen link s) :
    c.Keeps (ShortLinksService.expireLinks links) K h fun _ _ => True := by
  induction links with
  | nil => exact (keeps_pure ()).weaken fun _ _ _ _ => trivial
  | cons link links ih =>
    refine Keeps.join ?_
    refine Keeps.bindNext (F := fun _ _ => True) ?_ fun _ => ?_
    · split
      · exact (keeps_pure link).weaken fun _ _ _ _ => trivial
      · refine Keeps.given (fun s hs => (hlinks s hs link List.mem_cons_self).1) fun hactive => ?_
        refine (keeps_markExpired
          (fun s hs => (hlinks s hs link List.mem_cons_self).2) hactive ?_).weaken ?_
        · exact Bool.eq_false_iff.mpr ‹_›
        · exact fun _ _ _ _ => trivial
    · exact ih fun s hs other hother => hlinks s hs other (List.mem_cons_of_mem _ hother)

theorem keeps_sweepExpiredLinks : c.Keeps ShortLinksService.sweepExpired K h fun _ _ => True := by
  refine Keeps.bindNext (keeps_within (within_ask trivial)) fun now => ?_
  refine Runs.weaken (Keeps.bind (keeps_findLinks _) fun links => keeps_expireLinks ?_)
    (fun _ _ _ _ hs => hs)
    fun _ _ _ hQ => hQ
  intro s hs link hlink
  obtain ⟨hmatches, hseen⟩ := hs.2 link hlink
  have hboth : link.status = .active ∧ link.expiresAt.any (· < now) := by
    simpa [LinkFilter.matches] using hmatches
  exact ⟨hboth.1, hseen⟩

end ShortLinks

section Settlements

variable {d : Deployment}

/-- The call settles the link at an address, and its status is written for it. -/
def EndsLink (address : String) (status : LinkStatus) (call : Call) : Prop :=
  ∃ key value, address = toBase58 key ∧ linkOutcome? call = some (key, value) ∧
  status.onChain? = some value

theorem keeps_submitEnding {address : String} {status : LinkStatus} {submission : Submission}
    (hends : EndsLink address status submission.call) :
    c.Keeps (ask (.submit submission)) K h
      fun _ s => ∀ key, address = toBase58 key → Ended key status s := by
  obtain ⟨key, value, rfl, houtcome, hvalue⟩ := hends
  have hcreated : submission.createdLink? = none := by
    cases hcreated : submission.createdLink? with
    | none => rfl
    | some key' =>
      have hactive := houtcome.symm.trans (linkOutcome?_of_created hcreated)
      exact absurd (Prod.mk.inj (Option.some.inj hactive)).2 (onChain?_ne_active hvalue)
  refine (keeps_submit hcreated).weaken fun _ s _ hdone key' hkey => ?_
  obtain rfl := toBase58_injective hkey
  exact hdone.ended houtcome hvalue

theorem claimPaymentLinkCall_ends {address vault : String} {call : Call}
    (h : SolanaChainService.claimPaymentLinkCall d address vault = .ok call) :
    EndsLink address .claimed call := by
  simp only [SolanaChainService.claimPaymentLinkCall, bind_eq_ok, pure_eq_ok] at h
  obtain ⟨key, haddress, -, -, -, -, -, -, rfl⟩ := h
  exact ⟨key, _, addressKey_eq_ok.mp haddress, rfl, rfl⟩

theorem claimSolPaymentLinkCall_ends {address vault : String} {call : Call}
    (h : SolanaChainService.claimSolPaymentLinkCall d address vault = .ok call) :
    EndsLink address .claimed call := by
  simp only [SolanaChainService.claimSolPaymentLinkCall, bind_eq_ok, pure_eq_ok] at h
  obtain ⟨key, haddress, -, -, rfl⟩ := h
  exact ⟨key, _, addressKey_eq_ok.mp haddress, rfl, rfl⟩

theorem cancelPaymentLinkCall_ends {vault address : String} {sessionKeypair : Pubkey}
    {sessionNonce : ℤ} {call : Call}
    (h : SolanaChainService.cancelPaymentLinkCall d vault address sessionKeypair sessionNonce =
      .ok call) :
    EndsLink address .cancelled call := by
  simp only [SolanaChainService.cancelPaymentLinkCall,
    createCancelPaymentLinkWithSessionInstruction, bind_eq_ok,
    pure_eq_ok] at h
  obtain ⟨-, -, key, haddress, -, -, -, -, -, -, -, -, rfl⟩ := h
  exact ⟨key, _, addressKey_eq_ok.mp haddress, rfl, rfl⟩

theorem refundExpiredPaymentLinkCall_ends {vault address : String} {call : Call}
    (h : SolanaChainService.refundExpiredPaymentLinkCall d vault address = .ok call) :
    EndsLink address .expired call := by
  simp only [SolanaChainService.refundExpiredPaymentLinkCall, bind_eq_ok, pure_eq_ok] at h
  obtain ⟨-, -, key, haddress, -, -, -, -, rfl⟩ := h
  exact ⟨key, _, addressKey_eq_ok.mp haddress, rfl, rfl⟩

theorem refundExpiredSolPaymentLinkCall_ends {vault address : String} {call : Call}
    (h : SolanaChainService.refundExpiredSolPaymentLinkCall d vault address = .ok call) :
    EndsLink address .expired call := by
  simp only [SolanaChainService.refundExpiredSolPaymentLinkCall, bind_eq_ok, pure_eq_ok] at h
  obtain ⟨-, -, key, haddress, rfl⟩ := h
  exact ⟨key, _, addressKey_eq_ok.mp haddress, rfl, rfl⟩

theorem keeps_claimPaymentLink (address vault : String) :
    c.Keeps (SolanaRelayerService.claimPaymentLink d address vault) K h fun _ s =>
      ∀ key, address = toBase58 key → Ended key .claimed s := by
  refine Keeps.bindNext (keeps_within (within_readPaymentLink address)) fun found => ?_
  refine Keeps.bindNext (keeps_checked _) fun state => ?_
  refine Runs.weaken (Keeps.bind (keeps_checked _) fun call => ?_) (fun _ _ _ _ hs => hs)
    fun _ _ _ hQ => hQ
  refine Keeps.given (fun s hs => hs.2) fun hcall => keeps_submitEnding ?_
  split at hcall
  · exact claimSolPaymentLinkCall_ends hcall
  · exact claimPaymentLinkCall_ends hcall

theorem keeps_cancelPaymentLinkWithSession (userId vault address encryptedSessionKey : String) :
    c.Keeps (SolanaRelayerService.cancelPaymentLinkWithSession d userId vault address
      encryptedSessionKey) K h
      fun _ s => ∀ key, address = toBase58 key → Ended key .cancelled s := by
  refine Keeps.bindNext (keeps_checked _) fun sessionKeypair => ?_
  refine Keeps.bindNext (keeps_within (within_requireActiveSession _ _)) fun _ => ?_
  refine Keeps.bindNext (keeps_within (within_activeSessionState _ _ _)) fun session => ?_
  refine Keeps.bind (keeps_checked _) fun call => ?_
  exact Keeps.given (fun s hs => hs.2) fun hcall => keeps_submitEnding
    (cancelPaymentLinkCall_ends hcall)

theorem keeps_refundExpiredPaymentLink (vault address : String) :
    c.Keeps (SolanaRelayerService.refundExpiredPaymentLink d vault address) K h fun _ s =>
      ∀ key, address = toBase58 key → Ended key .expired s := by
  refine Keeps.bindNext (keeps_within (within_readPaymentLink address)) fun found => ?_
  refine Keeps.bindNext (keeps_checked _) fun state => ?_
  refine Keeps.bind (keeps_checked _) fun call => ?_
  refine Keeps.given (fun s hs => hs.2) fun hcall => keeps_submitEnding ?_
  split at hcall
  · exact refundExpiredSolPaymentLinkCall_ends hcall
  · exact refundExpiredPaymentLinkCall_ends hcall

end Settlements

section PaymentLinks

variable {d : Deployment}

theorem truthy_eq_some {value : Option String} {text : String} (h : truthy value = some text) :
    value = some text :=
  (Option.filter_eq_some_iff.mp h).1

theorem keeps_refundEscrow {link : ShortLink} {envelopeId : String} (vault : String)
    (hseen : ∀ s, K s → Seen link s) (hlive : Live link)
    (henvelope : link.envelopeId = some envelopeId) :
    c.Keeps (SolanaPaymentLinksService.refundEscrow d link envelopeId vault) K h
      fun _ _ => True := by
  refine Keeps.bind (keeps_refundExpiredPaymentLink vault envelopeId) fun txHash => ?_
  refine Keeps.bindNext (keeps_settle rfl rfl fun s hs _ => ?_) fun _ => ?_
  · refine (hseen s hs.1).settled hlive (fun _ => rfl) fun key hnative => ?_
    exact hs.2 key (Option.some.inj (henvelope.symm.trans hnative.2))
  · exact (keeps_pure ()).weaken fun _ _ _ _ => trivial

theorem keeps_settleExpired {link : ShortLink} {envelopeId : String} (vault : String)
    (hseen : ∀ s, K s → Seen link s) (hlive : Live link)
    (henvelope : link.envelopeId = some envelopeId) :
    c.Keeps (SolanaPaymentLinksService.settleExpired d link envelopeId vault) K h
      fun _ _ => True := by
  refine Keeps.bind (F := fun found s => ∀ state, found = some state → link.kind = .pay →
    ∃ key, envelopeId = toBase58 key ∧ Final key state s) ?_ fun found => ?_
  · refine Keeps.bind (keeps_checked _) fun key => ?_
    refine Keeps.given (fun s hs => addressKey_eq_ok.mp hs.2) fun haddress => ?_
    subst haddress
    refine (keeps_readPaymentLink (φ := link.kind = .pay) fun s hs hpay => ?_).weaken ?_
    · exact (hseen s hs.1).hasLink hpay henvelope
    · exact fun found s _ hfinal state hstate hpay => ⟨key, rfl, hfinal state hstate hpay⟩
  cases found with
  | none => exact (keeps_pure ()).weaken fun _ _ _ _ => trivial
  | some state =>
    dsimp only
    split
    · rename_i hsettled
      refine Keeps.bindNext (keeps_settle rfl rfl fun s hs _ => ?_) fun _ => ?_
      · refine (hseen s hs.1).settled hlive (fun hpay => ?_) fun key hnative => ?_
        · obtain ⟨key, -, hfinal⟩ := hs.2 state rfl hpay
          exact (hfinal hsettled).1
        · obtain ⟨key', hkey', hfinal⟩ := hs.2 state rfl hnative.1
          obtain rfl :=
            toBase58_injective (hkey'.symm.trans (Option.some.inj (henvelope.symm.trans hnative.2)))
          exact (hfinal hsettled).2
      · exact (keeps_pure ()).weaken fun _ _ _ _ => trivial
    · exact Runs.weaken (keeps_refundEscrow vault (fun s hs => hseen s hs.1) hlive henvelope)
        (fun _ _ _ _ hs => hs) fun _ _ _ hQ => hQ

theorem keeps_refundExpiredLink {link : ShortLink} (hseen : ∀ s, K s → Seen link s)
    (hlive : Live link) :
    c.Keeps (SolanaPaymentLinksService.refundExpiredLink d link) K h fun _ _ => True := by
  unfold SolanaPaymentLinksService.refundExpiredLink
  split
  · rename_i envelopeId senderUserId henvelope hsender
    refine Keeps.bindNext (keeps_within (within_ask trivial)) fun found => ?_
    split
    · exact (keeps_pure ()).weaken fun _ _ _ _ => trivial
    · exact keeps_settleExpired _ hseen hlive (truthy_eq_some henvelope)
  · exact (keeps_pure ()).weaken fun _ _ _ _ => trivial

theorem keeps_refundLinks {links : List ShortLink}
    (hlinks : ∀ s, K s → ∀ link ∈ links, Live link ∧ Seen link s) :
    c.Keeps (SolanaPaymentLinksService.refundLinks d links) K h fun _ _ => True := by
  induction links with
  | nil => exact (keeps_pure ()).weaken fun _ _ _ _ => trivial
  | cons link links ih =>
    refine Keeps.bindNext (F := fun _ _ => True) ?_ fun _ => ?_
    · refine Keeps.given (fun s hs => (hlinks s hs link List.mem_cons_self).1) fun hlive => ?_
      exact keeps_ignoringFailure
        (keeps_refundExpiredLink (fun s hs => (hlinks s hs link List.mem_cons_self).2) hlive)
    · exact ih fun s hs other hother => hlinks s hs other (List.mem_cons_of_mem _ hother)

theorem keeps_sweepExpired :
    c.Keeps (SolanaPaymentLinksService.sweepExpired d) K h fun _ _ => True := by
  refine Keeps.bindNext (keeps_within (within_ask trivial)) fun now => ?_
  refine Keeps.bind (keeps_findLinks _) fun links => keeps_refundLinks fun s hs link hlink => ?_
  obtain ⟨hmatches, hseen⟩ := hs.2 link hlink
  have hall : ((link.kind = .pay ∧ link.status = .active) ∧ link.expiresAt.any (· < now)) ∧
      link.envelopeId.isSome := by
    simpa [LinkFilter.matches] using hmatches
  exact ⟨by simp [Live, hall.1.1.2], hseen⟩

theorem keeps_claim (code claimerUserId claimerAddress : String) :
    c.Keeps (SolanaPaymentLinksService.claim d code claimerUserId claimerAddress) K h
      fun _ _ => True := by
  refine Keeps.bindNext (keeps_within (within_ask trivial)) fun totalHits => ?_
  refine Keeps.bindNext (keeps_check _ _) fun _ => ?_
  refine Keeps.bind (keeps_resolve code) fun link => ?_
  refine Keeps.bind (keeps_check _ _) fun _ => ?_
  refine Keeps.given (fun s hs => hs.2) fun hactive => ?_
  have hlive : Live link := by simp [Live, hactive]
  refine Keeps.given (fun s hs => (hs.1.2 hactive).1) fun hcode => ?_
  refine Keeps.bindNext (keeps_within (within_ask trivial)) fun now => ?_
  refine Keeps.joinSkip (F := fun _ _ => True) (fun _ => ?_) ?_
  · refine Keeps.bindNext
      (keeps_ignoringFailure (keeps_refundExpiredLink (fun s hs => (hs.1.2 hactive).2) hlive)) ?_
    exact fun _ => (keeps_checked _).weaken fun _ _ _ _ => trivial
  refine Keeps.bind (keeps_checked _) fun envelopeId => ?_
  refine Keeps.given (fun s hs => truthy_eq_some (orError_eq_ok.mp hs.2)) fun henvelope => ?_
  refine Keeps.bindNext (keeps_within (within_ask trivial)) fun found => ?_
  refine Keeps.bindNext (keeps_checked _) fun claimer => ?_
  obtain ⟨claimer, wallet⟩ := claimer
  refine Keeps.bindNext (keeps_checked _) fun _ => ?_
  refine Keeps.bindNext (keeps_within (within_ensureVaultDeployed _)) fun _ => ?_
  refine Keeps.bindNext (keeps_within (within_readPaymentLink _)) fun found => ?_
  refine Keeps.bindNext (keeps_checked _) fun state => ?_
  refine Keeps.bindNext (keeps_check _ _) fun _ => ?_
  refine Keeps.bindNext (keeps_checked _) fun expectedAmount => ?_
  refine Keeps.bindNext (keeps_check _ _) fun _ => ?_
  refine Keeps.bind (keeps_claimPaymentLink _ _) fun txHash => ?_
  refine Keeps.bindNext (keeps_redeem fun s record update hs hrecord hstatus hseen _ _ => ?_)
    fun _ => ?_
  · have hsettled : Settled link.code .claimed s := by
      refine (hs.1.1.1.2 hactive).2.settled hlive (fun _ => rfl) fun key hnative => ?_
      exact hs.2 key (Option.some.inj (henvelope.symm.trans hnative.2))
    rwa [hcode] at hsettled
  · exact keeps_within (within_ask trivial)

theorem keeps_cancelClaimLink (code senderUserId : String) :
    c.Keeps (SolanaPaymentLinksService.cancelClaimLink d code senderUserId) K h
      fun _ _ => True := by
  refine Keeps.bind (keeps_findLink code) fun found => ?_
  refine Keeps.bind (keeps_checked _) fun link => ?_
  refine Keeps.given (fun s hs => orError_eq_ok.mp hs.2) fun hfound => ?_
  refine Keeps.given (fun s hs => (hs.1.2 link hfound).1) fun hcode => ?_
  refine Keeps.bindNext (keeps_check _ _) fun _ => ?_
  refine Keeps.bind (keeps_check _ _) fun _ => ?_
  refine Keeps.given (fun s hs => hs.2) fun hactive => ?_
  refine Keeps.bind (keeps_checked _) fun envelopeId => ?_
  refine Keeps.given (fun s hs => truthy_eq_some (orError_eq_ok.mp hs.2)) fun henvelope => ?_
  refine Keeps.bindNext (keeps_check _ _) fun _ => ?_
  refine Keeps.bindNext (keeps_within (within_ask trivial)) fun now => ?_
  refine Keeps.bindNext (keeps_within (within_ask trivial)) fun found => ?_
  refine Keeps.bindNext (keeps_checked _) fun sender => ?_
  obtain ⟨sender, wallet⟩ := sender
  refine Keeps.bindNext (keeps_checked _) fun session => ?_
  refine Keeps.bindNext (keeps_within (within_decryptSessionKey _)) fun sessionKey => ?_
  refine Keeps.bind (keeps_cancelPaymentLinkWithSession _ _ _ _) fun txHash => ?_
  refine Keeps.bindNext (keeps_settle rfl rfl fun s hs _ => ?_)
    fun _ => keeps_within (within_ask trivial)
  rw [← hcode]
  refine (hs.1.1.1.1.2 link hfound).2.settled (by simp [Live, hactive]) (fun _ => rfl)
    fun key hnative => ?_
  exact hs.2 key (Option.some.inj (henvelope.symm.trans hnative.2))

end PaymentLinks

section Creation

variable {d : Deployment}

/-- What a service that creates a pending row leaves behind. -/
def Reserves (x : Except Failure ShortLink) (h' : Holding) : Prop :=
  match x with
  | .ok row => h' = ⟨some row.code, none⟩
  | .error _ => h' = .idle

/-- What a service that funds a link, and returns its address, leaves behind. -/
def Funds (code failed : Option String) (x : Except Failure (String × String)) (h' : Holding)
    (s : Store) : Prop :=
  match x with
  | .ok p => ∃ key, p.2 = toBase58 key ∧ h' = ⟨code, some key⟩ ∧ HasLink s key
  | .error _ => h' = ⟨failed, none⟩

instance (code failed : Option String) (x : Except Failure (String × String)) (h' : Holding) :
    Lasting (Funds code failed x h') := by
  cases x with
  | ok p => exact inferInstanceAs
      (Lasting fun s => ∃ key, p.2 = toBase58 key ∧ h' = ⟨code, some key⟩ ∧ HasLink s key)
  | error e => exact inferInstanceAs (Lasting fun _ => h' = ⟨failed, none⟩)

omit [Lasting K] in
theorem runs_reserve {row : ShortLink} (hkind : row.kind = .pay) (hstatus : row.status = .pending)
    (henvelope : row.envelopeId = none) :
    c.Runs (ask (.createLink row)) K .idle fun x _ h' => Reserves x h' := by
  refine (runs_createLink rfl hkind hstatus henvelope).weaken (fun _ _ _ _ hs => hs) ?_
  intro x s h' hQ
  cases x with
  | error e => exact hQ.2 e rfl
  | ok row' =>
    obtain ⟨hrow, hheld⟩ := hQ.1 row' rfl
    rw [Reserves, hrow]
    exact hheld

theorem runs_create {dto : ShortLinksService.CreateShortLinkDto} (hkind : dto.kind = .pay)
    (hstatus : dto.status = some .pending) (henvelope : dto.envelopeId = none) :
    c.Runs (ShortLinksService.create dto) K .idle fun x _ h' => Reserves x h' := by
  refine Keeps.next (keeps_within (within_ask trivial)) (fun code => ?_) fun _ _ _ => rfl
  refine Keeps.next (keeps_within (within_uniqueCode 5 code)) (fun code => ?_) fun _ _ _ => rfl
  refine Keeps.next (keeps_within (within_ask trivial)) (fun now => ?_) fun _ _ _ => rfl
  exact runs_reserve hkind (by rw [hstatus]; rfl) (by rw [henvelope]; rfl)

theorem runs_createPendingSolPaymentLink (params : SolanaRelayerService.PendingLinkParams) :
    c.Runs (SolanaRelayerService.createPendingSolPaymentLink params) K .idle
      fun x _ h' => Reserves x h' := by
  refine Keeps.next (keeps_within (within_pendingCode 5)) (fun code => ?_) fun _ _ _ => rfl
  exact runs_reserve rfl rfl rfl

theorem createPaymentLinkCall_ok {params : SolanaChainService.CreatePaymentLinkParams} {call : Call}
    {key : Pubkey} (h : SolanaChainService.createPaymentLinkCall d params = .ok (call, key)) :
    ∃ a args, call = .createPaymentLinkWithSession a args ∧ a.paymentLink = key := by
  simp only [SolanaChainService.createPaymentLinkCall, createPaymentLinkWithSessionInstruction,
    bind_eq_ok,
    pure_eq_ok, Prod.mk.injEq] at h
  obtain ⟨-, -, -, -, paymentLink, -, -, -, -, -, -, ⟨-, -, -, -, -, -, -, -, -, -, rfl⟩,
    rfl, rfl⟩ := h
  exact ⟨_, _, rfl, rfl⟩

omit [Lasting K] in
theorem runs_submitFunding {code : Option String} {submission : Submission} {key : Pubkey}
    (hcreated : submission.createdLink? = some key) :
    c.Runs (do
      let signature ← ask (.submit submission)
      pure (signature, toBase58 key)) K ⟨code, none⟩ fun x s h' => Funds code code x h' s := by
  refine Runs.andThen (runs_fund hcreated rfl) (fun signature h' => ?_) fun e s h' hQ => hQ.2 e rfl
  exact fun s H _ hs _ => ⟨key, rfl, hs.1 signature rfl⟩

/-- The submission that funds a link under a session. -/
theorem runs_createPaymentLinkWithSession {code : Option String}
    (params : SolanaRelayerService.CreatePaymentLinkParams) :
    c.Runs (SolanaRelayerService.createPaymentLinkWithSession d params) K ⟨code, none⟩ fun x s h' =>
      Funds code code x h' s := by
  refine Keeps.next (keeps_checked _) (fun sessionKeypair => ?_) fun _ _ _ => rfl
  refine Keeps.next (keeps_within (within_requireActiveSession _ _)) (fun sessionRecord => ?_)
    fun _ _ _ => rfl
  refine Keeps.next (keeps_within (within_assertAvailableDailyLimit _ _ _)) (fun _ => ?_)
    fun _ _ _ => rfl
  refine Keeps.next (keeps_within (within_activeSessionState _ _ _)) (fun session => ?_)
    fun _ _ _ => rfl
  refine Keeps.next (keeps_checked _) (fun amount => ?_) fun _ _ _ => rfl
  refine Keeps.next (keeps_within (within_getVaultUsdcBalance _ _)) (fun balance => ?_)
    fun _ _ _ => rfl
  refine Keeps.next (keeps_check _ _) (fun _ => ?_) fun _ _ _ => rfl
  refine Runs.andThen (Q := fun x s h' => Funds code code x h' s) ?_ (fun p h' => ?_)
    fun e s h' hQ => hQ
  · refine Keeps.andThen (keeps_checked _) (fun created => ?_) fun _ _ _ => rfl
    obtain ⟨call, key⟩ := created
    refine Runs.given (fun s hs => hs.2) fun hcall => ?_
    obtain ⟨a, args, rfl, rfl⟩ := createPaymentLinkCall_ok hcall
    exact runs_submitFunding rfl
  · obtain ⟨signature, paymentLink⟩ := p
    refine Runs.andThen (runs_write _) (fun _ h'' => ?_) fun e s h'' hQ => ?_
    · intro s H _ hs _
      obtain ⟨⟨key, haddress, hheld, hlink⟩, hok, -⟩ := hs
      exact ⟨key, haddress, (hok _ rfl).trans hheld, hlink⟩
    · obtain ⟨⟨key, -, hheld, -⟩, -, herror⟩ := hQ
      rw [herror e rfl, hheld]
      rfl

/-- A funded link is recorded, or it was not funded. -/
theorem runs_createClaimLink (dto : SolanaPaymentLinksService.CreateEscrowLinkDto) :
    c.Runs (SolanaPaymentLinksService.createClaimLink d dto) K .idle
      fun _ _ h' => h'.funds = none := by
  refine Keeps.next (keeps_check _ _) (fun _ => ?_) fun _ _ _ => rfl
  refine Keeps.next (keeps_checked _) (fun amount => ?_) fun _ _ _ => rfl
  refine Keeps.next (keeps_within (within_ask trivial)) (fun now => ?_) fun _ _ _ => rfl
  refine Keeps.next (keeps_within (within_ask trivial)) (fun found => ?_) fun _ _ _ => rfl
  refine Keeps.next (keeps_checked _) (fun sender => ?_) fun _ _ _ => rfl
  obtain ⟨sender, wallet⟩ := sender
  refine Keeps.next (keeps_checked _) (fun session => ?_) fun _ _ _ => rfl
  refine Keeps.next (keeps_within (within_ensureVaultDeployed _)) (fun _ => ?_) fun _ _ _ => rfl
  refine Keeps.next (keeps_within (within_ask trivial)) (fun now => ?_) fun _ _ _ => rfl
  refine Runs.andThen (runs_create rfl rfl rfl) (fun shortLink h' => ?_)
    fun e s h' (hQ : h' = .idle) => by rw [hQ]; rfl
  refine Runs.given (φ := h' = ⟨some shortLink.code, none⟩) (fun s hs => hs) fun hheld => ?_
  subst hheld
  refine Keeps.next (F := fun _ _ => True) ?_ (fun sessionKey => ?_) fun _ _ _ => rfl
  · exact Runs.weaken (keeps_within (K := fun _ => True) (within_decryptSessionKey _))
      (fun _ _ _ _ _ => trivial)
      fun _ _ _ hQ => ⟨hQ.1, rfl, fun _ _ => trivial⟩
  refine Runs.andThen (Q := fun x s h' => Funds (some shortLink.code) none x h' s) ?_
    (fun p h' => ?_) ?_
  · refine Runs.onFailure (runs_createPaymentLinkWithSession _) (fun e h' => ?_) fun p s h' hQ => hQ
    refine Runs.given (φ := h' = ⟨some shortLink.code, none⟩) (fun s hs => hs) fun hheld => ?_
    subst hheld
    refine (Runs.ignoringFailure (Q := fun _ _ h' => h' = .idle) ?_).weaken
      (fun _ _ _ _ hs => hs) ?_
    · refine Runs.andThen (runs_fail rfl) (fun _ h' => ?_) fun _ _ _ hQ => hQ
      exact fun s H _ hs _ => hs
    · rintro _ s h' ⟨-, hidle⟩
      exact ⟨hidle, fun e' => hidle⟩
  · obtain ⟨txHash, paymentLink⟩ := p
    refine Runs.given
      (φ := ∃ key, paymentLink = toBase58 key ∧ h' = ⟨some shortLink.code, some key⟩)
      (fun s ⟨key, haddress, hheld, _⟩ => ⟨key, haddress, hheld⟩) fun ⟨key, haddress, hheld⟩ => ?_
    subst haddress hheld
    refine Runs.andThen
      (runs_activate rfl (fun _ hkey => (Option.some.inj hkey).symm) fun s hs => ?_) ?_ ?_
    · obtain ⟨key', haddress, -, hlink⟩ := hs
      obtain rfl := toBase58_injective haddress
      exact hlink
    · exact fun _ h' s H _ hs _ => by rw [hs]; rfl
    · exact fun _ _ _ hQ => by rw [hQ]; rfl
  · exact fun e s h' hQ => by rw [show h' = .idle from hQ]; rfl

end Creation

section Approvals

variable {d : Deployment}

/-- A payload that names no link. -/
def Unlinked (payload : Payload) : Prop :=
  payload.Finite ∧ payload.reserved? = none ∧ ∀ s, Named payload s

theorem transferAction_unlinked {params : SolanaPasskeyExecutionService.TransferParams}
    {vaultAddress : String} {vaultNonce : UInt64} {expiresAtUnix : ℤ} {prepared : PreparedAction}
    (h : SolanaPasskeyExecutionService.transferAction d params vaultAddress vaultNonce
      expiresAtUnix = .ok prepared) :
    Unlinked prepared.payload := by
  simp only [SolanaPasskeyExecutionService.transferAction, bind_eq_ok, pure_eq_ok] at h
  obtain ⟨-, -, -, -, -, -, -, -, -, -, -, -, rfl⟩ := h
  exact ⟨trivial, rfl, fun _ => trivial⟩

theorem solTransferAction_unlinked {params : SolanaPasskeyExecutionService.SolTransferParams}
    {vaultAddress : String} {vaultNonce : UInt64} {expiresAtUnix : ℤ} {prepared : PreparedAction}
    (h : SolanaPasskeyExecutionService.solTransferAction d params vaultAddress vaultNonce
      expiresAtUnix = .ok prepared) :
    Unlinked prepared.payload := by
  simp only [SolanaPasskeyExecutionService.solTransferAction, bind_eq_ok, pure_eq_ok] at h
  obtain ⟨-, -, -, -, -, -, -, -, -, -, rfl⟩ := h
  exact ⟨trivial, rfl, fun _ => trivial⟩

theorem sessionGrantAction_unlinked {userId sessionKeyId : String} {wallet : SmartWallet}
    {session : Pubkey} {terms : SolanaPasskeyExecutionService.SessionGrantTerms}
    {vaultState : Option Vault} {expiresAtUnix : ℤ} {prepared : PreparedAction}
    (h : SolanaPasskeyExecutionService.sessionGrantAction d userId sessionKeyId wallet session terms
      vaultState
      expiresAtUnix = .ok prepared) : Unlinked prepared.payload := by
  simp only [SolanaPasskeyExecutionService.sessionGrantAction, bind_eq_ok, pure_eq_ok] at h
  obtain ⟨-, -, -, -, rfl⟩ := h
  exact ⟨⟨1, rfl⟩, rfl, fun _ => trivial⟩

omit [Lasting K] in
theorem runs_stageUnlinked {prepared : PreparedAction} (hunlinked : Unlinked prepared.payload) :
    c.Runs (SolanaPasskeyExecutionService.stage prepared) K .idle
      fun _ _ h' => h'.funds = none := by
  refine (runs_stage hunlinked.1 hunlinked.2.1 fun s _ => hunlinked.2.2 s).weaken
    (fun _ _ _ _ hs => hs) ?_
  exact fun _ _ _ hQ => by rw [hQ]; rfl

theorem runs_prepareSolTransfer (params : SolanaPasskeyExecutionService.SolTransferParams) :
    c.Runs (SolanaPasskeyExecutionService.prepareSolTransfer d params) K .idle
      fun _ _ h' => h'.funds = none := by
  refine Keeps.next (keeps_within (within_userWithWallet _)) (fun user => ?_) fun _ _ _ => rfl
  obtain ⟨user, wallet⟩ := user
  refine Keeps.next (keeps_within (within_readVaultState _ _)) (fun vaultState => ?_)
    fun _ _ _ => rfl
  refine Keeps.next (keeps_within (within_ask trivial)) (fun now => ?_) fun _ _ _ => rfl
  refine Keeps.andThen (keeps_checked _) (fun prepared => ?_) fun _ _ _ => rfl
  exact Runs.given (fun s hs => hs.2) fun hprepared => runs_stageUnlinked
    (solTransferAction_unlinked hprepared)

theorem runs_prepareTransfer (params : SolanaPasskeyExecutionService.TransferParams) :
    c.Runs (SolanaPasskeyExecutionService.prepareTransfer d params) K .idle
      fun _ _ h' => h'.funds = none := by
  unfold SolanaPasskeyExecutionService.prepareTransfer
  split
  · exact runs_prepareSolTransfer _
  · refine Keeps.next (keeps_check _ _) (fun _ => ?_) fun _ _ _ => rfl
    refine Keeps.next (keeps_within (within_userWithWallet _)) (fun user => ?_) fun _ _ _ => rfl
    obtain ⟨user, wallet⟩ := user
    refine Keeps.next (keeps_within (within_readVaultState _ _)) (fun vaultState => ?_)
      fun _ _ _ => rfl
    refine Keeps.next (keeps_within (within_ask trivial)) (fun now => ?_) fun _ _ _ => rfl
    refine Keeps.andThen (keeps_checked _) (fun prepared => ?_) fun _ _ _ => rfl
    exact Runs.given (fun s hs => hs.2) fun hprepared => runs_stageUnlinked
      (transferAction_unlinked hprepared)

theorem runs_prepareSessionGrant (params : SolanaPasskeyExecutionService.SessionGrantParams) :
    c.Runs (SolanaPasskeyExecutionService.prepareSessionGrant d params) K .idle
      fun _ _ h' => h'.funds = none := by
  refine Keeps.next (keeps_within (within_userWithWallet _)) (fun user => ?_) fun _ _ _ => rfl
  obtain ⟨user, wallet⟩ := user
  refine Keeps.next (keeps_check _ _) (fun _ => ?_) fun _ _ _ => rfl
  refine Keeps.next (keeps_check _ _) (fun _ => ?_) fun _ _ _ => rfl
  refine Keeps.next (keeps_checked _) (fun durationSeconds => ?_) fun _ _ _ => rfl
  refine Keeps.next (keeps_checked _) (fun _ => ?_) fun _ _ _ => rfl
  refine Keeps.next (keeps_within (within_provisionSessionKey _ _ _ _)) (fun provisioned => ?_)
    fun _ _ _ => rfl
  obtain ⟨sessionPublicKey, sessionKeyId⟩ := provisioned
  refine Keeps.next (keeps_checked _) (fun session => ?_) fun _ _ _ => rfl
  refine Keeps.next (keeps_within (within_ask trivial)) (fun now => ?_) fun _ _ _ => rfl
  refine Keeps.next (keeps_within (within_ask trivial)) (fun now => ?_) fun _ _ _ => rfl
  refine Keeps.next (keeps_checked _) (fun perActionLimit => ?_) fun _ _ _ => rfl
  refine Keeps.next (keeps_checked _) (fun cumulativeLimit => ?_) fun _ _ _ => rfl
  refine Keeps.next (keeps_within (within_readVault _)) (fun vaultState => ?_) fun _ _ _ => rfl
  refine Keeps.andThen (keeps_checked _) (fun prepared => ?_) fun _ _ _ => rfl
  exact Runs.given (fun s hs => hs.2) fun hprepared => runs_stageUnlinked
    (sessionGrantAction_unlinked hprepared)

theorem keeps_findOwnedSolPaymentLink (code userId : String) :
    c.Keeps (SolanaRelayerService.findOwnedSolPaymentLink code userId) K h fun p s =>
      Live p.1 ∧ p.1.envelopeId = some p.2 ∧ Seen p.1 s := by
  refine Keeps.bind (keeps_findLink code) fun found => ?_
  refine Keeps.bind (keeps_checked _) fun link => ?_
  refine Keeps.given (fun s hs => (Option.filter_eq_some_iff.mp (orError_eq_ok.mp hs.2)).1)
    fun hfound => ?_
  refine Keeps.bind (keeps_check _ _) fun _ => ?_
  refine Keeps.given (fun s hs => hs.2.2) fun hactive => ?_
  refine Keeps.bind (keeps_checked _) fun envelopeId => ?_
  refine Keeps.given (fun s hs => truthy_eq_some (orError_eq_ok.mp hs.2)) fun henvelope => ?_
  refine (keeps_pure (link, envelopeId)).weaken fun p s hs heq => ?_
  subst heq
  exact ⟨by simp [Live, hactive], henvelope, (hs.1.1.1.2 link hfound).2⟩

theorem runs_prepareCancelSolPaymentLink (userId code : String) :
    c.Runs (SolanaPasskeyExecutionService.prepareCancelSolPaymentLink d userId code) K .idle
      fun _ _ h' =>
      h'.funds = none := by
  refine Keeps.andThen (keeps_findOwnedSolPaymentLink code userId) (fun owned => ?_)
    fun _ _ _ => rfl
  obtain ⟨link, envelopeId⟩ := owned
  refine Keeps.next (keeps_within (within_userWithWallet _)) (fun user => ?_) fun _ _ _ => rfl
  obtain ⟨user, wallet⟩ := user
  refine Keeps.next (keeps_within (within_readVaultState _ _)) (fun vaultState => ?_)
    fun _ _ _ => rfl
  refine Keeps.next (keeps_within (within_ask trivial)) (fun now => ?_) fun _ _ _ => rfl
  refine Keeps.andThen (keeps_checked _) (fun prepared => ?_) fun _ _ _ => rfl
  refine Runs.given (fun s hs => hs.2) fun hprepared => ?_
  simp only [SolanaPasskeyExecutionService.cancelSolPaymentLinkAction, bind_eq_ok,
    pure_eq_ok] at hprepared
  obtain ⟨-, -, key, hkey, -, -, -, -, rfl⟩ := hprepared
  refine Runs.weaken (runs_stage ?_ ?_ fun s hs => ?_) (fun _ _ _ _ hs => hs) fun _ _ _ hQ => by
    rw [hQ]; rfl
  · trivial
  · rfl
  obtain ⟨hlive, henvelope, ⟨row, hrow, hkind, hkept⟩, -⟩ : Live link ∧
    link.envelopeId = some envelopeId ∧
    Seen link s := hs.1.2
  refine ⟨row, hrow, fun hpay => ⟨(hkept (hkind.mp hpay) hlive).1, fun key' hnative => ?_⟩⟩
  have haddress := (hkept (hkind.mp hpay) hlive).2.symm.trans hnative.2
  rw [Option.some.inj (henvelope.symm.trans haddress), newPublicKey_toBase58] at hkey
  rw [Except.ok.inj hkey]

/-- The pending row goes over to the approval that names it. -/
theorem runs_prepareSolPaymentLink (params : SolanaPasskeyExecutionService.SolPaymentLinkParams) :
    c.Runs (SolanaPasskeyExecutionService.prepareSolPaymentLink d params) K .idle
      fun _ _ h' => h'.funds = none := by
  refine Keeps.next (keeps_within (within_userWithWallet _)) (fun user => ?_) fun _ _ _ => rfl
  obtain ⟨user, wallet⟩ := user
  refine Keeps.next (keeps_within (within_readVaultState _ _)) (fun vaultState => ?_)
    fun _ _ _ => rfl
  refine Keeps.next (keeps_within (within_ask trivial)) (fun now => ?_) fun _ _ _ => rfl
  refine Keeps.next (keeps_within (within_ask trivial)) (fun now => ?_) fun _ _ _ => rfl
  refine Keeps.next (keeps_checked _) (fun amountLamports => ?_) fun _ _ _ => rfl
  refine Keeps.next (keeps_checked _) (fun amount => ?_) fun _ _ _ => rfl
  refine Runs.andThen (runs_createPendingSolPaymentLink _) (fun shortLink h' => ?_)
    fun e s h' (hQ : h' = .idle) => by rw [hQ]; rfl
  refine Runs.given (φ := h' = ⟨some shortLink.code, none⟩) (fun s hs => hs) fun hheld => ?_
  subst hheld
  refine Runs.weaken (K := fun _ => True) ?_ (fun _ _ _ _ _ => trivial) fun _ _ _ hQ => hQ
  refine Keeps.andThen (keeps_checked _) (fun prepared => ?_) fun _ _ _ => rfl
  refine Runs.given (fun s hs => hs.2) fun hprepared => ?_
  simp only [SolanaPasskeyExecutionService.solPaymentLinkAction, bind_eq_ok,
    pure_eq_ok] at hprepared
  obtain ⟨-, -, -, -, key, -, -, -, -, -, rfl⟩ := hprepared
  refine Runs.andThen (runs_stage ?_ ?_ fun s _ => ?_) (fun prepareId h' => ?_) fun _ _ _ hQ => by
    rw [hQ]
  · trivial
  · rfl
  · exact ⟨key, rfl⟩
  · exact fun s H _ hs _ => by rw [hs]

/-- The link that a rebuilt instruction is about. -/
def Rebuilt (payload : Payload) (call : Call) : Prop :=
  match payload with
  | .solPaymentLink _ paymentLink .. =>
    ∃ a args, newPublicKey paymentLink = .ok a.paymentLink ∧
    call = .createSolPaymentLinkWithPasskey a args
  | .solPaymentLinkCancel _ paymentLink _ =>
    ∃ a args, newPublicKey paymentLink = .ok a.paymentLink ∧
    call = .cancelSolPaymentLinkWithPasskey a args
  | _ => ∀ submission : Submission, submission.call = call → submission.createdLink? = none

theorem buildInstruction_rebuilt {prepared : PreparedAction} {wallet : SmartWallet}
    {proof : WebAuthnProof} {call : Call}
    (h : SolanaPasskeyExecutionService.buildInstruction d prepared wallet proof = .ok call) :
    Rebuilt prepared.payload call := by
  simp only [SolanaPasskeyExecutionService.buildInstruction, bind_eq_ok] at h
  obtain ⟨expiresAtUnix, -, vault, -, h⟩ := h
  cases hpayload : prepared.payload with
  | transfer recipientAddress destinationTokenAccount amountAtomic vaultNonce =>
    simp only [hpayload, createPasskeyTransferInstruction, bind_eq_ok, pure_eq_ok] at h
    obtain ⟨-, -, -, -, -, -, -, -, -, -, -, -, -, -, rfl⟩ := h
    rintro ⟨call, signers, verification⟩ rfl
    rfl
  | solTransfer recipientAddress amountLamports vaultNonce =>
    simp only [hpayload, createSolPasskeyTransferInstruction, bind_eq_ok, pure_eq_ok] at h
    obtain ⟨-, -, -, -, -, -, -, -, -, -, -, -, rfl⟩ := h
    rintro ⟨call, signers, verification⟩ rfl
    rfl
  | solPaymentLink code paymentLink linkId recipientCommitment amountLamports linkExpiresAtUnix
      vaultNonce =>
    simp only [hpayload, createSolPaymentLinkWithPasskeyInstruction, bind_eq_ok, pure_eq_ok] at h
    obtain ⟨key, hkey, -, -, -, -, -, -, -, -, -, -, -, -, -, -, -, -, -, -, -, -, -, -, rfl⟩ := h
    exact ⟨_, _, hkey, rfl⟩
  | solPaymentLinkCancel code paymentLink vaultNonce =>
    simp only [hpayload, createCancelSolPaymentLinkWithPasskeyInstruction, bind_eq_ok,
      pure_eq_ok] at h
    obtain ⟨key, hkey, -, -, -, -, -, -, rfl⟩ := h
    exact ⟨_, _, hkey, rfl⟩
  | sessionGrant initializeVault session sessionPublicKey actionBitmap perActionLimit
      cumulativeLimit validAfterUnix
      validUntilUnix vaultNonce =>
    simp only [hpayload, bind_eq_ok] at h
    obtain ⟨key, -, sessionKey, -, perAction, -, cumulative, -, validAfter, -, validUntil, -, h⟩ :=
      h
    split at h
    · simp only [createInitializeVaultAndGrantSessionInstruction, bind_eq_ok, pure_eq_ok] at h
      obtain ⟨-, -, -, -, -, -, -, -, -, -, -, -, -, -, -, -, rfl⟩ := h
      rintro ⟨call, signers, verification⟩ rfl
      rfl
    · simp only [createGrantSessionInstruction, bind_eq_ok, pure_eq_ok] at h
      obtain ⟨-, -, -, -, -, -, -, -, rfl⟩ := h
      rintro ⟨call, signers, verification⟩ rfl
      rfl

/-- What a submission leaves behind, by the payload it is made of. -/
def Submitted (payload : Payload) (x : Except Failure String) (h' : Holding) (s : Store) : Prop :=
  match payload, x with
  | .solPaymentLink code paymentLink .., .ok _ =>
    ∃ key, paymentLink = toBase58 key ∧ h' = ⟨some code, some key⟩ ∧ HasLink s key
  | .solPaymentLinkCancel code .., .ok _ => h' = .idle ∧ Settled code .cancelled s
  | _, _ => h' = .idle

omit [Lasting K] in
theorem runs_submitPasskey {proof : WebAuthnProof} {call : Call}
    {Q : Except Failure String → Store → Holding → Prop}
    (hsubmit : ∀ verification, c.Runs (ask (.submit ⟨call, [], some verification⟩)) K h Q)
    (herror : ∀ e s, K s → Q (.error e) s h) :
    c.Runs (SolanaChainService.submitPasskeyInstruction d proof call) K h Q := by
  have hchecked := keeps_checked (c := c) (K := K) (h := h) (createSecp256r1Instruction d.rt proof)
  exact hchecked.next hsubmit herror

omit [Lasting K] in
theorem runs_submitLink
    {code paymentLink linkId recipientCommitment amountLamports linkExpiresAtUnix vaultNonce :
      String}
    {proof : WebAuthnProof} {a : CreateSolPaymentLinkWithPasskey}
    {args : CreateSolPaymentLinkWithPasskeyArgs}
    (hkey : newPublicKey paymentLink = .ok a.paymentLink)
    (hnamed : ∀ s, K s → ∃ key, paymentLink = toBase58 key) :
    c.Runs (onFailure (SolanaChainService.submitPasskeyInstruction d proof
      (.createSolPaymentLinkWithPasskey a args))
        (SolanaRelayerService.failPendingSolPaymentLink code)) K ⟨some code, none⟩ fun x s h' =>
      Submitted (.solPaymentLink code paymentLink linkId recipientCommitment amountLamports
        linkExpiresAtUnix vaultNonce)
        x h' s := by
  refine Runs.given hnamed fun ⟨key, haddress⟩ => ?_
  subst haddress
  obtain rfl := Except.ok.inj ((newPublicKey_toBase58 key).symm.trans hkey)
  refine Runs.onFailure
    (Q := fun x s h' => (∀ signature, x = .ok signature → h' = ⟨some code, some a.paymentLink⟩ ∧
    HasLink s a.paymentLink) ∧
    ∀ e, x = .error e → h' = ⟨some code, none⟩) ?_ (fun e h' => ?_) fun signature s h' hQ => ?_
  · exact runs_submitPasskey (fun _ => runs_fund rfl rfl)
      fun _ _ _ => ⟨fun _ hx => (nomatch hx), fun _ _ => rfl⟩
  · refine Runs.given (fun s hs => hs.2 e rfl) fun hheld => ?_
    subst hheld
    refine (runs_failPending rfl).weaken (fun _ _ _ _ hs => hs) ?_
    rintro _ s h' rfl
    exact ⟨rfl, fun _ => rfl⟩
  · obtain ⟨hheld, hlink⟩ := hQ.1 signature rfl
    exact ⟨_, rfl, hheld, hlink⟩

theorem runs_submitCancel {code paymentLink vaultNonce : String} {proof : WebAuthnProof}
    {a : CancelSolPaymentLinkWithPasskey} {args : CancelSolPaymentLinkWithPasskeyArgs}
    (hkey : newPublicKey paymentLink = .ok a.paymentLink)
    (hnamed : ∀ s, K s → PayloadFacts s (.solPaymentLinkCancel code paymentLink vaultNonce)) :
    c.Runs (onFailure (SolanaChainService.submitPasskeyInstruction d proof
      (.cancelSolPaymentLinkWithPasskey a args))
        (pure ())) K .idle fun x s h' => Submitted
          (.solPaymentLinkCancel code paymentLink vaultNonce) x h' s := by
  refine Runs.onFailure (Q := fun x s h' => h' = .idle ∧ K s ∧ ∀ signature, x = .ok signature →
    Done (.cancelSolPaymentLinkWithPasskey a args) s) ?_ (fun e h' => ?_)
      fun signature s h' hQ => ?_
  · refine runs_submitPasskey (fun _ => keeps_submit rfl)
      fun _ _ hs => ⟨rfl, hs, fun _ hx => nomatch hx⟩
  · intro s H _ hs _
    exact ⟨hs.1, fun _ => hs.1⟩
  · obtain ⟨hheld, hs, hdone⟩ := hQ
    obtain ⟨row, hrow, hfacts⟩ := hnamed s hs
    refine ⟨hheld, row, hrow, fun hpay => ⟨(hfacts hpay).1, rfl⟩, fun key hnative => ?_⟩
    rw [(hfacts hnative.1).2 key hnative, newPublicKey_toBase58] at hkey
    rw [Except.ok.inj hkey]
    exact (hdone signature rfl).ended rfl rfl

theorem runs_submitOther {proof : WebAuthnProof} {call : Call}
    (hcreated : ∀ submission : Submission, submission.call = call →
      submission.createdLink? = none) :
    c.Runs (onFailure (SolanaChainService.submitPasskeyInstruction d proof call) (pure ())) K .idle
      fun _ _ h' =>
      h' = .idle := by
  refine Runs.onFailure (Q := fun _ _ h' => h' = .idle) ?_ (fun e h' => ?_) fun _ _ _ hQ => hQ
  · refine runs_submitPasskey (fun verification => ?_) fun _ _ _ => rfl
    exact Runs.weaken (keeps_submit (hcreated _ rfl)) (fun _ _ _ _ hs => hs) fun _ _ _ hQ => hQ.1
  · exact fun s H _ hs _ => ⟨hs, fun _ => hs⟩

/-- An approval is submitted: a failure lets the pending row go. -/
theorem runs_submitApproval {payload : Payload} {proof : WebAuthnProof} {call : Call}
    (hrebuilt : Rebuilt payload call) (hnamed : ∀ s, K s → Named payload s) :
    c.Runs (onFailure (SolanaChainService.submitPasskeyInstruction d proof call)
        (SolanaPasskeyExecutionService.failPending payload)) K ⟨payload.reserved?, none⟩
      fun x s h' => Submitted payload x h' s := by
  cases payload with
  | solPaymentLink code =>
    obtain ⟨a, args, hkey, rfl⟩ := hrebuilt
    exact runs_submitLink hkey hnamed
  | solPaymentLinkCancel code =>
    obtain ⟨a, args, hkey, rfl⟩ := hrebuilt
    exact runs_submitCancel hkey hnamed
  | transfer =>
    exact (runs_submitOther hrebuilt).weaken (fun _ _ _ _ hs => hs) fun x _ _ hQ => by
      cases x <;> exact hQ
  | solTransfer =>
    exact (runs_submitOther hrebuilt).weaken (fun _ _ _ _ hs => hs) fun x _ _ hQ => by
      cases x <;> exact hQ
  | sessionGrant =>
    exact (runs_submitOther hrebuilt).weaken (fun _ _ _ _ hs => hs) fun x _ _ hQ => by
      cases x <;> exact hQ

omit [Lasting K] in
/-- The row follows the transaction that was submitted. -/
theorem runs_recordSettlement {payload : Payload} {signature : String} {h' : Holding}
    (hsubmitted : ∀ s, K s → Submitted payload (.ok signature) h' s) :
    c.Runs (SolanaPasskeyExecutionService.recordSettlement payload signature) K h'
      fun _ _ h'' => h'' = .idle := by
  have hnothing : (∀ s, K s → h' = .idle) → c.Runs (pure ()) K h' fun _ _ h'' => h'' = .idle :=
    fun hidle s H _ hs _ => hidle s hs
  cases payload with
  | solPaymentLink code paymentLink =>
    refine Runs.given (φ := ∃ key, paymentLink = toBase58 key ∧ h' = ⟨some code, some key⟩)
      (fun s hs => ?_) fun ⟨key, haddress, hheld⟩ => ?_
    · obtain ⟨key, haddress, hheld, -⟩ := hsubmitted s hs
      exact ⟨key, haddress, hheld⟩
    · subst haddress hheld
      refine Runs.andThen
        (runs_activate rfl (fun _ hkey => (Option.some.inj hkey).symm) fun s hs => ?_)
        (fun _ h'' => fun s H _ hs _ => hs) fun _ _ _ hQ => hQ
      obtain ⟨key', haddress, -, hlink⟩ := hsubmitted s hs
      obtain rfl := toBase58_injective haddress
      exact hlink
  | solPaymentLinkCancel code =>
    refine Runs.given (fun s hs => (hsubmitted s hs).1) fun hheld => ?_
    subst hheld
    refine Runs.weaken (K := Settled code .cancelled)
      (Keeps.next (keeps_settle rfl rfl fun s hs _ => hs)
      (fun _ => ?_) fun _ _ _ => rfl) (fun s _ _ _ hs => (hsubmitted s hs).2) fun _ _ _ hQ => hQ
    exact fun s H _ _ _ => rfl
  | transfer => exact hnothing hsubmitted
  | solTransfer => exact hnothing hsubmitted
  | sessionGrant => exact hnothing hsubmitted

theorem runs_executePrepared {prepared : PreparedAction}
    (params : SolanaPasskeyExecutionService.ExecuteParams)
    (hnamed : ∀ s, K s → Named prepared.payload s) :
    c.Runs (SolanaPasskeyExecutionService.executePrepared d params prepared) K
      ⟨prepared.payload.reserved?, none⟩
      fun _ _ h' => h'.funds = none := by
  refine Keeps.next (keeps_check _ _) (fun _ => ?_) fun _ _ _ => rfl
  refine Keeps.next (keeps_checked _) (fun challenge => ?_) fun _ _ _ => rfl
  refine Keeps.next (keeps_check _ _) (fun _ => ?_) fun _ _ _ => rfl
  refine Keeps.next (keeps_within (within_ask trivial)) (fun found => ?_) fun _ _ _ => rfl
  refine Keeps.next (keeps_checked _) (fun credential => ?_) fun _ _ _ => rfl
  refine Keeps.next (keeps_within (within_userWithWallet _)) (fun user => ?_) fun _ _ _ => rfl
  obtain ⟨user, wallet⟩ := user
  refine Keeps.next (keeps_checked _) (fun proof => ?_) fun _ _ _ => rfl
  refine Keeps.andThen (keeps_checked _) (fun instruction => ?_) fun _ _ _ => rfl
  refine Runs.given (fun s hs => hs.2) fun hinstruction => ?_
  refine Keeps.next (keeps_checked _) (fun _ => ?_) fun _ _ _ => rfl
  refine Runs.andThen
    (runs_submitApproval (buildInstruction_rebuilt hinstruction) fun s hs => hnamed s hs.1)
    (fun signature h' => ?_) fun e s h' hQ => ?_
  · refine Runs.andThen (runs_recordSettlement fun s hs => hs) (fun _ h'' => ?_)
      fun e s h'' hQ => by rw [hQ]; rfl
    refine Runs.given (φ := h'' = .idle) (fun s hs => hs) fun hidle => ?_
    subst hidle
    refine Runs.weaken (K := fun _ => True) ?_ (fun _ _ _ _ _ => trivial) fun _ _ _ hQ => hQ
    refine Keeps.next (keeps_within (within_ask trivial)) (fun _ => ?_) fun _ _ _ => rfl
    exact fun s H _ _ _ => rfl
  · have hidle : h' = .idle := by
      cases hpayload : prepared.payload with
      | _ => rw [hpayload] at hQ; exact hQ
    rw [hidle]
    rfl

omit [Lasting K] in
theorem runs_executeAction (params : SolanaPasskeyExecutionService.ExecuteParams) :
    c.Runs (SolanaPasskeyExecutionService.executeAction d params) K .idle
      fun _ _ h' => h'.funds = none := by
  refine Runs.andThen (runs_take rfl) (fun document h' => ?_) fun e s h' hQ => ?_
  · cases hprepared : document.bind PreparedAction.ofJson with
    | none =>
      refine Runs.given (φ := h' = .idle) (fun s hs => hs.2 fun document' prepared hx hof => ?_)
        fun hidle => ?_
      · rw [Except.ok.inj hx, Option.bind_some, hof] at hprepared
        cases hprepared
      · subst hidle
        refine Keeps.andThen (keeps_checked _) (fun prepared => ?_) fun _ _ _ => rfl
        exact Runs.given (fun s hs => hs.2) fun hchecked => nomatch hchecked
    | some prepared =>
      obtain ⟨text, rfl, hof⟩ := Option.bind_eq_some_iff.mp hprepared
      refine Runs.weaken (K := fun s => h' = ⟨prepared.payload.reserved?, none⟩ ∧
        Named prepared.payload s) ?_
        (fun s _ _ _ hs => hs.1 text prepared rfl hof) fun _ _ _ hQ => hQ
      refine Runs.given (fun s hs => hs.1) fun hheld => ?_
      subst hheld
      refine Keeps.andThen (keeps_checked _) (fun prepared' => ?_) fun _ _ _ => rfl
      refine Runs.given (fun s hs => hs.2) fun hchecked => ?_
      obtain rfl := Except.ok.inj hchecked
      exact runs_executePrepared params fun s hs => hs.1.2
  · rw [hQ.2 fun _ _ hx => nomatch hx]
    rfl

end Approvals

section Operations

omit [Lasting K] in
/-- A request's result goes to the caller; what it holds stays. -/
theorem follows_discard {α : Type} {x : Service α} {Q : Except Failure α → Store → Holding → Prop}
    (hx : c.Runs x K h Q) (hQ : ∀ r s h', Q r s h' → h'.funds = none) :
    c.protocol.Follows c.services c.process c.operation (discard x) K h
      fun _ _ h' => c.protocol.resting h' := by
  refine Protocol.Follows.bind hx fun r h' => ?_
  exact fun s H _ hs _ _ => hQ r s h' hs

end Operations

end Setting

section Obligations

variable {d : Deployment} {mayStart : Operation → Prop} {arbitrated strict : Prop}

/-- Every operation keeps to the protocol, and may stop anywhere. -/
theorem linkServices_obeyed (hdirect : ∀ op, mayStart op → op.Direct → arbitrated) :
    (linkProtocol d strict).Obeyed (linkServices d mayStart arbitrated strict) where
  programs i op hmay := by
    have hstart := hmay.2
    obtain ⟨c, hc⟩ : ∃ c : Setting, c = ⟨d, mayStart, arbitrated, strict, i, op⟩ := ⟨_, rfl⟩
    have hkept : ∀ {α : Type} {x : Service α}, c.Keeps x (fun _ => True) .idle (fun _ _ => True) →
        c.protocol.Follows c.services c.process c.operation (discard x) (fun _ => True) .idle
          fun _ _ h' => c.protocol.resting h' := by
      intro α x hx
      exact Setting.follows_discard hx fun r s h' hQ => by rw [hQ.1]; rfl
    have hruns : ∀ {α : Type} {x : Service α}, c.Runs x (fun _ => True) .idle
        (fun _ _ h' => h'.funds = none) →
        c.protocol.Follows c.services c.process c.operation (discard x) (fun _ => True) .idle
          fun _ _ h' => c.protocol.resting h' :=
      fun hx => Setting.follows_discard hx fun _ _ _ hQ => hQ
    subst hc
    cases op with
    | createClaimLink dto => exact hruns (Setting.runs_createClaimLink dto)
    | claim code claimerUserId claimerAddress =>
      exact hkept (Setting.keeps_claim code claimerUserId claimerAddress)
    | cancelClaimLink code senderUserId =>
      exact hkept (Setting.keeps_cancelClaimLink code senderUserId)
    | sweepExpired => exact hkept Setting.keeps_sweepExpired
    | prepareTransfer params => exact hruns (Setting.runs_prepareTransfer params)
    | prepareSolTransfer params => exact hruns (Setting.runs_prepareSolTransfer params)
    | prepareSolPaymentLink params => exact hruns (Setting.runs_prepareSolPaymentLink params)
    | prepareCancelSolPaymentLink userId code =>
      exact hruns (Setting.runs_prepareCancelSolPaymentLink userId code)
    | prepareSessionGrant params => exact hruns (Setting.runs_prepareSessionGrant params)
    | executeAction params => exact hruns (Setting.runs_executeAction params)
    | resolve code => exact hkept ((Setting.keeps_resolve code).weaken fun _ _ _ _ => trivial)
    | redeem code claimerUserId txHash =>
      refine hkept
        (Setting.keeps_redeem fun s record update _ hcode hactive hseen hstatus harbitrated => ?_)
      subst hcode
      exact Setting.settled_of_arbitrated hactive hseen rfl fun row key hrow hnative =>
        harbitrated (hdirect _ hstart trivial) row key .claimed _ hrow hnative hstatus rfl
    | cancel code senderUserId =>
      refine hkept
        (Setting.keeps_cancel fun s record update _ hcode hactive hseen hstatus harbitrated => ?_)
      subst hcode
      exact Setting.settled_of_arbitrated hactive hseen rfl fun row key hrow hnative =>
        harbitrated (hdirect _ hstart trivial) row key .cancelled _ hrow hnative hstatus rfl
    | sweepExpiredLinks => exact hkept Setting.keeps_sweepExpiredLinks
  crashes s H i hinv hmay := by
    refine ⟨.idle, fun _ => rfl, hinv.releaseAt .idle (fun _ hnone => nomatch hnone)
      fun hstrict => .inr ?_⟩
    exact hmay.2 hstrict
  environment s H s' hinv hacts := hinv.environment hacts.1 hacts.2
  refl := StoreGrows.refl

end Obligations

end VeriAgentPay.Backend
