import VeriAgentPay.LinkRecordAgreement
import VeriAgentPay.RequestHistories
import VeriAgentPay.StagedApprovals

/-!
# Approvals in runs of the services

Whatever runs side by side, a passkey transaction is sent for an approval that its user prepared,
that nobody else has taken, and whose challenge the user's assertion carries.
-/

namespace VeriAgentPay.Backend
open FixedWidth CheckedOutcome Client LabelledRuns InterleavedPrograms SolanaPasskeyExecutionService

abbrev BackendHistory := History Request Answer

/-- The user for whom an operation stages an approval. -/
def Operation.preparesFor : Operation → Option String
  | .prepareTransfer params => some params.userId
  | .prepareSolTransfer params => some params.userId
  | .prepareSolPaymentLink params => some params.userId
  | .prepareCancelSolPaymentLink userId _ => some userId
  | .prepareSessionGrant params => some params.userId
  | _ => none

/-- The user's wallet row has been read. -/
def ReadWallet (userId : String) (wallet : SmartWallet) (h : BackendHistory) : Prop :=
  ∃ user, ⟨.findUser userId, .ok (some user)⟩ ∈ h ∧ user.smartWallet = some wallet

/-- A record prepared for a wallet row of the user that has been read. -/
def StagesFor (d : Deployment) (userId : String) (h : BackendHistory) (document : Json) : Prop :=
  ∃ wallet prepared, document = prepared.toJson ∧ PreparedFor d wallet userId prepared ∧
  ReadWallet userId wallet h

/-- The transaction is the one of an approval that the call has taken, and the first it sends. -/
structure Approves (d : Deployment) (params : ExecuteParams) (h : BackendHistory)
    (submission : Submission) (prepared : PreparedAction) (wallet : SmartWallet)
    (proof : WebAuthnProof) : Prop where
  taken : ∃ document, ⟨.take params.prepareId, .ok (some document)⟩ ∈ h ∧
    PreparedAction.ofJson document = some prepared
  owner : prepared.userId = params.userId
  challenge : d.clientDataChallenge (base64UrlToBuffer params.assertion.clientDataJSON) = .ok
    (some prepared.challengeB64Url)
  registered : ∃ credential, ⟨.findCredential (d.rt.sha256 (utf8 params.assertion.id)),
    .ok (some credential)⟩ ∈ h ∧
    credential.userId = params.userId ∧ credential.revokedAt = none
  walletRead : ReadWallet params.userId wallet h
  proof_eq : webAuthnProof wallet params.assertion = .ok proof
  built : buildInstruction d prepared wallet proof = .ok submission.call
  verified : ∃ verification, createSecp256r1Instruction d.rt proof = .ok verification ∧
    submission.verification = some verification
  first : ∀ submission' x, ⟨.submit submission', x⟩ ∉ h

/-- What an operation may request after what it has requested so far. -/
def MayAsk (d : Deployment) (op : Operation) (h : BackendHistory) : Request → Prop
  | .stage document => ∃ userId, op.preparesFor = some userId ∧ StagesFor d userId h document
  | .submit submission => ∀ params, op = .executeAction params →
      ∃ prepared wallet proof, Approves d params h submission prepared wallet proof
  | _ => True

/-- Requests that do not stage an approval. -/
def Unstaging : Request → Prop
  | .stage _ => False
  | _ => True

/-- Requests that neither stage an approval nor send a transaction. -/
def Quiet : Request → Prop
  | .stage _ | .submit _ => False
  | _ => True

section Requests

variable {may : BackendHistory → Request → Prop} {h : BackendHistory} {α : Type}

theorem heeds_ask {r : Request} (hr : may h r) :
    Fallible.Heeds may (ask r) h fun a h' => h' = ⟨r, .ok a⟩ :: h := by
  refine ⟨hr, fun x => ?_⟩
  rintro a rfl
  rfl

theorem heeds_checked (x : Except Failure α) :
    Fallible.Heeds may (checked x) h fun a h' => x = .ok a ∧ h' = h :=
  fun _ ha => ⟨ha, rfl⟩

theorem heeds_check (c : Prop) [Decidable c] (e : Failure) :
    Fallible.Heeds may (check c e) h fun _ h' => c ∧ h' = h := by
  intro u hu
  exact ⟨require_eq_ok.mp hu, rfl⟩

/-- A call that makes requests of one kind only extends its history by such requests. -/
theorem heeds_within {allowed : Request → Prop} {x : Service α} (hx : x.run.Within allowed)
    (hmay : ∀ h r, allowed r → may h r) :
    Fallible.Heeds may x h fun _ h' => ∃ new, h' = new ++ h ∧ ∀ e ∈ new, allowed e.1 :=
  (hx.heeds hmay).mono fun _ _ hnew _ _ => hnew

end Requests

section Reading

variable {allowed : Request → Prop} {α : Type}

theorem within_request {r : Request} (hr : allowed r) : (ask r).run.Within allowed :=
  ⟨hr, fun _ => trivial⟩

theorem within_value (x : Except Failure α) : (checked x).run.Within allowed := trivial

theorem within_ignored {x : Service Unit} (hx : x.run.Within allowed) :
    (ignoringFailure x).run.Within allowed := by
  refine Program.Within.bind hx fun result => ?_
  cases result with
  | ok u => trivial
  | error e => trivial

theorem within_handled {x : Service α} {handler : Service Unit} (hx : x.run.Within allowed)
    (hhandler : handler.run.Within allowed) : (onFailure x handler).run.Within allowed := by
  refine Program.Within.bind hx fun result => ?_
  cases result with
  | ok a => trivial
  | error e => exact .andThen hhandler fun _ => within_value _

theorem within_join {β : Type} {φ : Prop} [Decidable φ] {x x' : Service α} {f : α → Service β}
    (hx : x.run.Within allowed) (hx' : x'.run.Within allowed) (hf : ∀ a, (f a).run.Within allowed) :
    (if φ then x >>= f else x' >>= f : Service β).run.Within allowed := by
  split
  · exact .andThen hx hf
  · exact .andThen hx' hf

/-- A branch that does something first. -/
theorem within_first {β : Type} {φ : Prop} [Decidable φ] {x : Service Unit} {f : Unit → Service β}
    (hx : x.run.Within allowed) (hf : (f ()).run.Within allowed) :
    (if φ then x >>= f else f () : Service β).run.Within allowed := by
  split
  · exact .andThen hx fun _ => hf
  · exact hf

theorem within_mono {allowed' : Request → Prop} {p : Program Request Answer α}
    (hp : p.Within allowed) (h : ∀ r, allowed r → allowed' r) : p.Within allowed' := by
  induction p with
  | ret a => trivial
  | ask r next ih => exact ⟨h r hp.1, fun x => ih x (hp.2 x)⟩

end Reading

section PaymentLinks

/-! The services of payment links stage nothing. -/

variable (d : Deployment)

theorem unstaging_of_readsOnly {α : Type} {x : Service α} (hx : x.run.Within Setting.ReadsOnly) :
    x.run.Within Unstaging := by
  apply within_mono hx
  intro r hr
  cases r <;> trivial

theorem unstaging_markExpired (code : String) (record : ShortLink) :
    (ShortLinksService.markExpired code record).run.Within Unstaging :=
  .andThen (within_request trivial) fun _ => trivial

theorem unstaging_resolve (code : String) :
    (ShortLinksService.resolve code).run.Within Unstaging := by
  refine .andThen (within_request trivial) fun found => ?_
  refine .andThen (within_value _) fun record => ?_
  refine .andThen (within_request trivial) fun now => ?_
  refine within_join (unstaging_markExpired code record) trivial fun record => ?_
  exact .andThen (within_request trivial) fun _ => trivial

theorem unstaging_redeem (code claimerUserId txHash : String) :
    (ShortLinksService.redeem code claimerUserId txHash).run.Within Unstaging := by
  refine .andThen (unstaging_resolve code) fun record => ?_
  refine .andThen (within_value _) fun _ => ?_
  refine .andThen (within_request trivial) fun now => ?_
  refine within_first (.andThen (unstaging_markExpired code record) fun _ => within_value _) ?_
  exact .andThen (within_request trivial) fun _ => within_request trivial

theorem unstaging_cancel (code senderUserId : String) :
    (ShortLinksService.cancel code senderUserId).run.Within Unstaging := by
  refine .andThen (unstaging_resolve code) fun record => ?_
  refine .andThen (within_value _) fun _ => ?_
  refine .andThen (within_value _) fun _ => ?_
  exact within_request trivial

theorem unstaging_expireLinks (links : List ShortLink) :
    (ShortLinksService.expireLinks links).run.Within Unstaging := by
  induction links with
  | nil => trivial
  | cons link links ih =>
    exact within_join trivial (unstaging_markExpired link.code link) fun _ => ih

theorem unstaging_create (dto : ShortLinksService.CreateShortLinkDto) :
    (ShortLinksService.create dto).run.Within Unstaging := by
  refine .andThen (within_request trivial) fun code => ?_
  refine .andThen (unstaging_of_readsOnly (Setting.within_uniqueCode 5 code)) fun code => ?_
  refine .andThen (within_request trivial) fun now => ?_
  exact within_request trivial

theorem unstaging_createPaymentLinkWithSession
    (params : SolanaRelayerService.CreatePaymentLinkParams) :
    (SolanaRelayerService.createPaymentLinkWithSession d params).run.Within Unstaging := by
  refine .andThen (within_value _) fun sessionKeypair => ?_
  refine .andThen (unstaging_of_readsOnly (Setting.within_requireActiveSession _ _))
    fun record => ?_
  refine .andThen (unstaging_of_readsOnly (Setting.within_assertAvailableDailyLimit _ _ _))
    fun _ => ?_
  refine .andThen (unstaging_of_readsOnly (Setting.within_activeSessionState _ _ _))
    fun session => ?_
  refine .andThen (within_value _) fun amount => ?_
  refine .andThen (unstaging_of_readsOnly (Setting.within_getVaultUsdcBalance _ _))
    fun balance => ?_
  refine .andThen (within_value _) fun _ => ?_
  refine .andThen ?_ fun sent => .andThen (within_request trivial) fun _ => trivial
  refine .andThen (within_value _) fun instruction => ?_
  exact .andThen (within_request trivial) fun _ => trivial

theorem unstaging_createClaimLink (dto : SolanaPaymentLinksService.CreateEscrowLinkDto) :
    (SolanaPaymentLinksService.createClaimLink d dto).run.Within Unstaging := by
  refine .andThen (within_value _) fun _ => ?_
  refine .andThen (within_value _) fun amount => ?_
  refine .andThen (within_request trivial) fun now => ?_
  refine .andThen (within_request trivial) fun found => ?_
  refine .andThen (within_value _) fun sender => ?_
  refine .andThen (within_value _) fun session => ?_
  refine .andThen (unstaging_of_readsOnly (Setting.within_ensureVaultDeployed _)) fun _ => ?_
  refine .andThen (within_request trivial) fun now => ?_
  refine .andThen (unstaging_create _) fun shortLink => ?_
  refine .andThen (unstaging_of_readsOnly (Setting.within_decryptSessionKey _)) fun sessionKey => ?_
  refine .andThen (within_handled (unstaging_createPaymentLinkWithSession d _) ?_) fun sent => ?_
  · exact within_ignored (.andThen (within_request trivial) fun _ => trivial)
  · exact .andThen (within_request trivial) fun _ => trivial

theorem unstaging_refundExpiredLink (link : ShortLink) :
    (SolanaPaymentLinksService.refundExpiredLink d link).run.Within Unstaging := by
  unfold SolanaPaymentLinksService.refundExpiredLink
  split
  · rename_i envelopeId senderUserId hlink hsender
    refine .andThen (within_request trivial) fun found => ?_
    split
    · trivial
    · refine .andThen (unstaging_of_readsOnly (Setting.within_readPaymentLink _)) fun state => ?_
      split
      · trivial
      · split
        · exact .andThen (within_request trivial) fun _ => trivial
        · refine .andThen ?_ fun txHash => .andThen (within_request trivial) fun _ => trivial
          refine .andThen (unstaging_of_readsOnly (Setting.within_readPaymentLink _))
            fun found => ?_
          refine .andThen (within_value _) fun state => ?_
          exact .andThen (within_value _) fun instruction => within_request trivial
  · trivial

theorem unstaging_claim (code claimerUserId claimerAddress : String) :
    (SolanaPaymentLinksService.claim d code claimerUserId claimerAddress).run.Within Unstaging := by
  refine .andThen (within_request trivial) fun totalHits => ?_
  refine .andThen (within_value _) fun _ => ?_
  refine .andThen (unstaging_resolve code) fun link => ?_
  refine .andThen (within_value _) fun _ => ?_
  refine .andThen (within_request trivial) fun now => ?_
  refine within_first
    (.andThen (within_ignored (unstaging_refundExpiredLink d link)) fun _ => within_value _) ?_
  refine .andThen (within_value _) fun envelopeId => ?_
  refine .andThen (within_request trivial) fun found => ?_
  refine .andThen (within_value _) fun claimer => ?_
  refine .andThen (within_value _) fun _ => ?_
  refine .andThen (unstaging_of_readsOnly (Setting.within_ensureVaultDeployed _)) fun _ => ?_
  refine .andThen (unstaging_of_readsOnly (Setting.within_readPaymentLink _)) fun found => ?_
  refine .andThen (within_value _) fun state => ?_
  refine .andThen (within_value _) fun _ => ?_
  refine .andThen (within_value _) fun expectedAmount => ?_
  refine .andThen (within_value _) fun _ => ?_
  refine .andThen ?_ fun txHash => ?_
  · refine .andThen (unstaging_of_readsOnly (Setting.within_readPaymentLink _)) fun found => ?_
    refine .andThen (within_value _) fun state => ?_
    exact .andThen (within_value _) fun instruction => within_request trivial
  refine .andThen (unstaging_redeem code _ _) fun _ => ?_
  exact within_request trivial

theorem unstaging_cancelClaimLink (code senderUserId : String) :
    (SolanaPaymentLinksService.cancelClaimLink d code senderUserId).run.Within Unstaging := by
  refine .andThen (within_request trivial) fun found => ?_
  refine .andThen (within_value _) fun link => ?_
  refine .andThen (within_value _) fun _ => ?_
  refine .andThen (within_value _) fun _ => ?_
  refine .andThen (within_value _) fun envelopeId => ?_
  refine .andThen (within_value _) fun _ => ?_
  refine .andThen (within_request trivial) fun now => ?_
  refine .andThen (within_request trivial) fun found => ?_
  refine .andThen (within_value _) fun sender => ?_
  refine .andThen (within_value _) fun session => ?_
  refine .andThen (unstaging_of_readsOnly (Setting.within_decryptSessionKey _)) fun sessionKey => ?_
  refine .andThen ?_ fun txHash => .andThen (within_request trivial) fun _ => within_request trivial
  refine .andThen (within_value _) fun sessionKeypair => ?_
  refine .andThen (unstaging_of_readsOnly (Setting.within_requireActiveSession _ _)) fun _ => ?_
  refine .andThen (unstaging_of_readsOnly (Setting.within_activeSessionState _ _ _))
    fun session => ?_
  exact .andThen (within_value _) fun instruction => within_request trivial

theorem unstaging_refundLinks (links : List ShortLink) :
    (SolanaPaymentLinksService.refundLinks d links).run.Within Unstaging := by
  induction links with
  | nil => trivial
  | cons link links ih =>
    exact .andThen (within_ignored (unstaging_refundExpiredLink d link)) fun _ => ih

end PaymentLinks

section Approvals

variable {d : Deployment} {h : BackendHistory} {op : Operation} {userId : String}
  {wallet : SmartWallet}

theorem ReadWallet.more (hread : ReadWallet userId wallet h) (new : BackendHistory) :
    ReadWallet userId wallet (new ++ h) := by
  obtain ⟨user, hmem, hwallet⟩ := hread
  exact ⟨user, List.mem_append_right _ hmem, hwallet⟩

theorem mayAsk_of_quiet {r : Request} (hr : Quiet r) : MayAsk d op h r := by
  cases r <;> trivial

theorem mayAsk_of_unstaging {r : Request} (hop : ∀ params, op ≠ .executeAction params)
    (hr : Unstaging r) : MayAsk d op h r := by
  cases r with
  | submit submission => exact fun params hparams => absurd hparams (hop params)
  | _ => trivial

theorem quiet_of_readsOnly {α : Type} {x : Service α} (hx : x.run.Within Setting.ReadsOnly) :
    x.run.Within Quiet := by
  apply within_mono hx
  intro r hr
  cases r <;> trivial

theorem heeds_userWithWallet (userId : String) :
    Fallible.Heeds (MayAsk d op) (userWithWallet userId) h fun found h' =>
      ReadWallet userId found.2 h' ∧ ∃ e, h' = e :: h ∧ Quiet e.1 := by
  refine .andThen (heeds_ask (mayAsk_of_quiet trivial)) fun found h' hh' => ?_
  subst hh'
  refine (heeds_checked _).mono fun result h' hresult => ?_
  obtain ⟨hok, rfl⟩ := hresult
  obtain ⟨user, rfl, hwallet⟩ := Option.bind_eq_some_iff.mp (orError_eq_ok.mp hok)
  obtain ⟨row, hrow, rfl⟩ := Option.map_eq_some_iff.mp hwallet
  exact ⟨⟨user, List.mem_cons_self, hrow⟩, _, rfl, trivial⟩

/-- A quiet call behind which the wallet is still known. -/
theorem heeds_knowing {α : Type} {x : Service α} (hx : x.run.Within Quiet)
    (hread : ReadWallet userId wallet h) :
    Fallible.Heeds (MayAsk d op) x h fun _ h' => ReadWallet userId wallet h' := by
  refine (heeds_within hx fun _ _ hr => mayAsk_of_quiet hr).mono fun _ h' hnew => ?_
  obtain ⟨new, rfl, -⟩ := hnew
  exact hread.more new

theorem heeds_valueKnowing {α : Type} {x : Except Failure α} (hread : ReadWallet userId wallet h) :
    Fallible.Heeds (MayAsk d op) (checked x) h fun a h' => x = .ok a ∧
      ReadWallet userId wallet h' := by
  refine (heeds_checked x).mono fun a h' hresult => ?_
  obtain ⟨hok, rfl⟩ := hresult
  exact ⟨hok, hread⟩

/-- The record of a prepare method is staged. -/
theorem heeds_stage {prepared : PreparedAction} (hop : op.preparesFor = some userId)
    (hprepared : PreparedFor d wallet userId prepared) (hread : ReadWallet userId wallet h) :
    Fallible.Heeds (MayAsk d op) (stage prepared) h fun _ _ => True := by
  refine (heeds_ask ?_).mono fun _ _ _ => trivial
  exact ⟨userId, hop, wallet, prepared, rfl, hprepared, hread⟩

theorem heeds_prepareSolTransfer {params : SolTransferParams}
    (hop : op.preparesFor = some params.userId) :
    Fallible.Heeds (MayAsk d op) (prepareSolTransfer d params) h fun _ _ => True := by
  refine .andThen (heeds_userWithWallet params.userId) fun found h' hfound => ?_
  obtain ⟨hread, -⟩ := hfound
  refine .andThen (heeds_knowing (quiet_of_readsOnly (Setting.within_readVaultState _ _)) hread)
    fun state h' hread => ?_
  refine .andThen (heeds_knowing (within_request trivial) hread) fun now h' hread => ?_
  refine .andThen (heeds_valueKnowing hread) fun prepared h' hprepared => ?_
  exact heeds_stage hop (.solTransfer hprepared.1) hprepared.2

theorem heeds_prepareTransfer {params : TransferParams}
    (hop : op.preparesFor = some params.userId) :
    Fallible.Heeds (MayAsk d op) (prepareTransfer d params) h fun _ _ => True := by
  unfold prepareTransfer
  split
  · exact heeds_prepareSolTransfer hop
  · refine (heeds_check _ _).andThen fun _ h' hcheck => ?_
    refine .andThen (heeds_userWithWallet params.userId) fun found h' hfound => ?_
    obtain ⟨hread, -⟩ := hfound
    refine .andThen (heeds_knowing (quiet_of_readsOnly (Setting.within_readVaultState _ _)) hread)
      fun state h' hread => ?_
    refine .andThen (heeds_knowing (within_request trivial) hread) fun now h' hread => ?_
    refine .andThen (heeds_valueKnowing hread) fun prepared h' hprepared => ?_
    exact heeds_stage hop (.transfer hprepared.1) hprepared.2

theorem heeds_prepareSolPaymentLink {params : SolPaymentLinkParams}
    (hop : op.preparesFor = some params.userId) :
    Fallible.Heeds (MayAsk d op) (prepareSolPaymentLink d params) h fun _ _ => True := by
  refine .andThen (heeds_userWithWallet params.userId) fun found h' hfound => ?_
  obtain ⟨hread, -⟩ := hfound
  refine .andThen (heeds_knowing (quiet_of_readsOnly (Setting.within_readVaultState _ _)) hread)
    fun state h' hread => ?_
  refine .andThen (heeds_knowing (within_request trivial) hread) fun now h' hread => ?_
  refine .andThen (heeds_knowing (within_request trivial) hread) fun now h' hread => ?_
  refine .andThen (heeds_valueKnowing hread) fun amountLamports h' hread => ?_
  refine .andThen (heeds_valueKnowing hread.2) fun amount h' hread => ?_
  refine .andThen (heeds_knowing ?_ hread.2) fun shortLink h' hread => ?_
  · exact .andThen (quiet_of_readsOnly (Setting.within_pendingCode 5))
      fun _ => within_request trivial
  refine .andThen (heeds_valueKnowing hread) fun prepared h' hprepared => ?_
  refine .andThen (heeds_stage hop (.solPaymentLink hprepared.1) hprepared.2)
    fun prepareId h' _ => ?_
  exact Fallible.heeds_pure trivial

theorem within_findOwned (code userId : String) :
    (SolanaRelayerService.findOwnedSolPaymentLink code userId).run.Within Quiet := by
  refine .andThen (within_request trivial) fun found => ?_
  refine .andThen (within_value _) fun link => ?_
  refine .andThen (within_value _) fun _ => ?_
  exact .andThen (within_value _) fun envelopeId => trivial

theorem heeds_prepareCancelSolPaymentLink {code : String} (hop : op.preparesFor = some userId) :
    Fallible.Heeds (MayAsk d op) (prepareCancelSolPaymentLink d userId code) h fun _ _ => True := by
  refine .andThen (heeds_within (within_findOwned code userId) fun _ _ hr => mayAsk_of_quiet hr)
    fun link h' _ => ?_
  refine .andThen (heeds_userWithWallet userId) fun found h' hfound => ?_
  obtain ⟨hread, -⟩ := hfound
  refine .andThen (heeds_knowing (quiet_of_readsOnly (Setting.within_readVaultState _ _)) hread)
    fun state h' hread => ?_
  refine .andThen (heeds_knowing (within_request trivial) hread) fun now h' hread => ?_
  refine .andThen (heeds_valueKnowing hread) fun prepared h' hprepared => ?_
  exact heeds_stage hop (.cancelSolPaymentLink hprepared.1) hprepared.2

theorem heeds_prepareSessionGrant {params : SessionGrantParams}
    (hop : op.preparesFor = some params.userId) :
    Fallible.Heeds (MayAsk d op) (prepareSessionGrant d params) h fun _ _ => True := by
  refine .andThen (heeds_userWithWallet params.userId) fun found h' hfound => ?_
  obtain ⟨hread, -⟩ := hfound
  refine .andThen (heeds_knowing (within_value _) hread) fun _ h' hread => ?_
  refine .andThen (heeds_knowing (within_value _) hread) fun _ h' hread => ?_
  refine .andThen (heeds_knowing (within_value _) hread) fun durationSeconds h' hread => ?_
  refine .andThen (heeds_knowing (within_value _) hread) fun _ h' hread => ?_
  refine .andThen
    (heeds_knowing (quiet_of_readsOnly (Setting.within_provisionSessionKey _ _ _ _)) hread)
      fun key h' hread => ?_
  refine .andThen (heeds_knowing (within_value _) hread) fun session h' hread => ?_
  refine .andThen (heeds_knowing (within_request trivial) hread) fun now h' hread => ?_
  refine .andThen (heeds_knowing (within_request trivial) hread) fun now h' hread => ?_
  refine .andThen (heeds_knowing (within_value _) hread) fun perActionLimit h' hread => ?_
  refine .andThen (heeds_knowing (within_value _) hread) fun cumulativeLimit h' hread => ?_
  refine .andThen (heeds_knowing (quiet_of_readsOnly (Setting.within_readVault _)) hread)
    fun vaultState h' hread => ?_
  refine .andThen (heeds_valueKnowing hread) fun prepared h' hprepared => ?_
  exact heeds_stage hop (.sessionGrant hprepared.1) hprepared.2

theorem heeds_quiet {α : Type} {x : Service α} (hx : x.run.Within Quiet) :
    Fallible.Heeds (MayAsk d op) x h fun _ _ => True :=
  (heeds_within hx fun _ _ hr => mayAsk_of_quiet hr).mono fun _ _ _ => trivial

theorem quiet_failPending (payload : Payload) : (failPending payload).run.Within Quiet := by
  cases payload with
  | solPaymentLink => exact within_request trivial
  | _ => trivial

theorem quiet_recordSettlement (payload : Payload) (signature : String) :
    (recordSettlement payload signature).run.Within Quiet := by
  cases payload with
  | solPaymentLink => exact .andThen (within_request trivial) fun _ => trivial
  | solPaymentLinkCancel => exact .andThen (within_request trivial) fun _ => trivial
  | _ => trivial

/-- One transaction is sent, and whatever becomes of it nothing else is. -/
theorem heeds_submitApproval {proof : WebAuthnProof} {instruction : Call} (payload : Payload)
    (hsubmit : ∀ verification, createSecp256r1Instruction d.rt proof = .ok verification →
      MayAsk d op h
      (.submit {
        call := instruction, additionalSigners := [], verification := some verification })) :
    Fallible.Heeds (MayAsk d op)
      (onFailure (SolanaChainService.submitPasskeyInstruction d proof instruction)
        (failPending payload)) h
      fun _ _ => True := by
  have hsent : Fallible.Heeds (MayAsk d op)
      (SolanaChainService.submitPasskeyInstruction d proof instruction) h
      fun _ _ => True := by
    refine .andThen (heeds_checked _) fun verification h' hverification => ?_
    obtain ⟨hverification, rfl⟩ := hverification
    exact (heeds_ask (hsubmit verification hverification)).mono fun _ _ _ => trivial
  refine Fallible.heeds_tryCatch (E := fun _ => True)
    (hsent.run fun _ _ => ⟨fun _ _ => trivial, fun _ _ => trivial⟩) ?_
  intro e h' _
  exact .andThen (heeds_quiet (quiet_failPending payload)) fun _ h' _ => .mono (heeds_checked _)
    fun _ _ _ => trivial

theorem heeds_executeAction (params : ExecuteParams) :
    Fallible.Heeds (MayAsk d (.executeAction params)) (executeAction d params) []
      fun _ _ => True := by
  refine .andThen (heeds_ask (mayAsk_of_quiet trivial)) fun document h' hh' => ?_
  subst hh'
  refine .andThen (heeds_checked _) fun prepared h' hprepared => ?_
  obtain ⟨hprepared, rfl⟩ := hprepared
  obtain ⟨text, rfl, hread⟩ := Option.bind_eq_some_iff.mp (orError_eq_ok.mp hprepared)
  refine .andThen (heeds_check _ _) fun _ h' hcheck => ?_
  obtain ⟨howner, rfl⟩ := hcheck
  refine .andThen (heeds_checked _) fun challenge h' hchallenge => ?_
  obtain ⟨hchallenge, rfl⟩ := hchallenge
  refine .andThen (heeds_check _ _) fun _ h' hcheck => ?_
  obtain ⟨rfl, rfl⟩ := hcheck
  refine .andThen (heeds_ask (mayAsk_of_quiet trivial)) fun found h' hh' => ?_
  subst hh'
  refine .andThen (heeds_checked _) fun credential h' hcredential => ?_
  obtain ⟨hcredential, rfl⟩ := hcredential
  obtain ⟨rfl, hregistered⟩ := Option.filter_eq_some_iff.mp (orError_eq_ok.mp hcredential)
  refine .andThen (heeds_userWithWallet params.userId) fun found h' hfound => ?_
  obtain ⟨user, wallet⟩ := found
  obtain ⟨hwallet, e, rfl, hquiet⟩ := hfound
  refine .andThen (heeds_checked _) fun proof h' hproof => ?_
  obtain ⟨hproof, rfl⟩ := hproof
  refine .andThen (heeds_checked _) fun instruction h' hinstruction => ?_
  obtain ⟨hinstruction, rfl⟩ := hinstruction
  refine .andThen (heeds_checked _) fun _ h' hh' => ?_
  obtain ⟨-, rfl⟩ := hh'
  refine .andThen
    (heeds_submitApproval prepared.payload fun verification hverification params' hparams' => ?_)
    fun signature h' _ => ?_
  · obtain rfl : params = params' := by simpa using hparams'
    refine ⟨prepared, wallet, proof, ⟨text, ?_, hread⟩, howner, hchallenge,
      ⟨credential, ?_, by simpa using hregistered⟩, hwallet,
      hproof, hinstruction, ⟨verification, hverification, rfl⟩, ?_⟩
    · simp
    · simp
    · intro submission' x hmem
      simp only [List.mem_cons, List.not_mem_nil, or_false] at hmem
      rcases hmem with rfl | hmem | hmem
      · exact hquiet
      · cases hmem
      · cases hmem
  refine .andThen (heeds_quiet (quiet_recordSettlement _ _)) fun _ h' _ => ?_
  refine .andThen (heeds_quiet (within_request trivial)) fun _ h' _ => ?_
  exact Fallible.heeds_pure trivial

theorem heeds_dropped {α : Type} {x : Service α} {may : BackendHistory → Request → Prop}
    (hx : Fallible.Heeds may x h fun _ _ => True) :
    (discard x).Heeds may h fun _ _ => True :=
  Program.Heeds.bind hx fun _ _ _ => trivial

/-- Every operation asks only for what its history allows. -/
theorem heeds_program (op : Operation) : (op.program d).Heeds (MayAsk d op) [] fun _ _ => True := by
  have hunstaging : ∀ {α : Type} {x : Service α}, (∀ params, op ≠ .executeAction params) →
      x.run.Within Unstaging →
      (discard x).Heeds (MayAsk d op) [] fun _ _ => True := by
    intro α x hop hx
    exact heeds_dropped
      ((heeds_within hx fun _ _ hr => mayAsk_of_unstaging hop hr).mono fun _ _ _ => trivial)
  cases op with
  | createClaimLink dto => exact hunstaging (by simp) (unstaging_createClaimLink d dto)
  | claim code claimerUserId claimerAddress =>
    exact hunstaging (by simp) (unstaging_claim d code claimerUserId claimerAddress)
  | cancelClaimLink code senderUserId =>
    exact hunstaging (by simp) (unstaging_cancelClaimLink d code senderUserId)
  | sweepExpired =>
    refine hunstaging (by simp) (.andThen (within_request trivial) fun now => ?_)
    exact .andThen (within_request trivial) fun links => unstaging_refundLinks d links
  | prepareTransfer params => exact heeds_dropped (heeds_prepareTransfer rfl)
  | prepareSolTransfer params => exact heeds_dropped (heeds_prepareSolTransfer rfl)
  | prepareSolPaymentLink params => exact heeds_dropped (heeds_prepareSolPaymentLink rfl)
  | prepareCancelSolPaymentLink userId code =>
    exact heeds_dropped (heeds_prepareCancelSolPaymentLink rfl)
  | prepareSessionGrant params => exact heeds_dropped (heeds_prepareSessionGrant rfl)
  | executeAction params => exact heeds_dropped (heeds_executeAction params)
  | resolve code => exact hunstaging (by simp) (unstaging_resolve code)
  | redeem code claimerUserId txHash =>
    exact hunstaging (by simp) (unstaging_redeem code claimerUserId txHash)
  | cancel code senderUserId => exact hunstaging (by simp) (unstaging_cancel code senderUserId)
  | sweepExpiredLinks =>
    refine hunstaging (by simp) (.andThen (within_request trivial) fun now => ?_)
    exact .andThen (within_request trivial) fun links => unstaging_expireLinks links

end Approvals

section Runs

variable {d : Deployment} {s₀ : Store} {tr : List BackendTransition} {c : BackendConfig}

/-- Which approvals are staged, and which ids have been given out, across a step. -/
inductive StagedStep (s s' : Store) (e : InterleavedPrograms.Event Operation Request Answer) : Prop
  | same (staged : s'.staged = s.staged) (issued : s'.issued = s.issued)
      (event : ∀ i prepareId document, e ≠ .performed i (.take prepareId) (.ok (some document)))
  | staged (i : ℕ) (document : Json) (x : Answer (.stage document)) (prepareId : String)
      (event : e = .performed i (.stage document) x) (fresh : prepareId ∉ s.issued)
        (issued : s'.issued = insert prepareId s.issued)
      (staged : s'.staged = s.staged ∨
        s'.staged = Function.update s.staged prepareId (some document))
  | removed (prepareId : String) (issued : s'.issued = s.issued) (staged :
      s'.staged = Function.update s.staged prepareId none)
      (event : ∀ i prepareId' document, e = .performed i (.take prepareId') (.ok (some document)) →
        prepareId' = prepareId ∧ s.staged prepareId = some document)

theorem stagedStep_of_performs {i : ℕ} {s s' : Store} {r : Request} {x : Answer r}
    (h : Performs d i s r x s') :
    StagedStep s s' (.performed i r x) := by
  cases r with
  | stage document =>
    obtain ⟨prepareId, hfresh, ⟨rfl, -⟩ | ⟨rfl, -⟩⟩ := h
    · exact .staged i document x prepareId rfl hfresh rfl (.inr rfl)
    · exact .staged i document x prepareId rfl hfresh rfl (.inl rfl)
  | take prepareId =>
    obtain ⟨rfl, hx⟩ | ⟨rfl, e, rfl⟩ := h
    · refine .removed prepareId rfl rfl fun i' prepareId' document hevent => ?_
      simp only [Event.performed.injEq, Request.take.injEq] at hevent
      obtain ⟨rfl, rfl, hsame⟩ := hevent
      obtain rfl := eq_of_heq hsame
      rcases hx with hok | ⟨e, herror⟩
      · exact ⟨rfl, (Except.ok.inj hok).symm⟩
      · cases herror
    · exact .same rfl rfl (by simp)
  | createLink row =>
    obtain ⟨-, ⟨rfl, -⟩ | ⟨rfl, -⟩⟩ | ⟨rfl, -⟩ := h <;> exact .same rfl rfl (by simp)
  | updateLink code update =>
    obtain ⟨row, -, ⟨rfl, -⟩ | ⟨rfl, -⟩⟩ | ⟨rfl, -⟩ := h <;> exact .same rfl rfl (by simp)
  | updateLinks filter update =>
    obtain ⟨rfl, -⟩ | ⟨rfl, -⟩ := h <;> exact .same rfl rfl (by simp)
  | submit submission =>
    obtain ⟨w, -, rfl⟩ | ⟨-, rfl | rfl⟩ := h <;> exact .same rfl rfl (by simp)
  | incrementAttempts | spentSince | decryptSessionKey | findSessionKey | findCredential | write =>
    obtain rfl := h
    exact .same rfl rfl (by simp)
  | _ =>
    obtain ⟨rfl, -⟩ := h
    exact .same rfl rfl (by simp)

theorem stagedStep {c' : BackendConfig} {e : InterleavedPrograms.Event Operation Request Answer}
    (h : InterleavedPrograms.Step (backend d) c e c') : StagedStep c.state c'.state e := by
  cases h with
  | start => exact .same rfl rfl (by simp)
  | performed here done => exact stagedStep_of_performs done
  | crash => exact .same rfl rfl (by simp)
  | environment acts =>
    cases acts with
    | expires prepareId => exact .removed prepareId rfl rfl (by simp)
    | _ => exact .same rfl rfl (by simp)

/-- The record was staged in the run. -/
def StagedIn (tr : List BackendTransition) (document : Json) : Prop :=
  ∃ t ∈ tr, ∃ i x, t.event = .performed i (.stage document) x

/-- The call has taken the record with the id. -/
def Takes (t : BackendTransition) (i : ℕ) (prepareId : String) (document : Json) : Prop :=
  t.event = .performed i (.take prepareId) (.ok (some document))

/-- Records that are staged or have been taken come from the run, under ids that are given out; what
was taken is gone. -/
structure StagingKept (tr : List BackendTransition) (s : Store) : Prop where
  staged : ∀ prepareId document, s.staged prepareId = some document → prepareId ∈ s.issued ∧
    StagedIn tr document
  taken : ∀ t ∈ tr, ∀ i prepareId document, Takes t i prepareId document →
    prepareId ∈ s.issued ∧ s.staged prepareId = none ∧ StagedIn tr document
  once : ∀ t ∈ tr, ∀ t' ∈ tr, ∀ i i' prepareId document document', Takes t i prepareId document →
    Takes t' i' prepareId document' → i = i'

theorem StagedIn.more {document : Json} (h : StagedIn tr document) (t : BackendTransition) :
    StagedIn (tr ++ [t]) document := by
  obtain ⟨t', ht', hevent⟩ := h
  exact ⟨t', List.mem_append_left _ ht', hevent⟩

theorem StagingKept.step {s s' : Store} {t : BackendTransition} (hkept : StagingKept tr s)
    (h : StagedStep s s' t.event) :
    StagingKept (tr ++ [t]) s' := by
  -- what was taken before stays taken, whatever the step does
  have hold : ∀ t' ∈ tr, ∀ i prepareId document, Takes t' i prepareId document →
      prepareId ∈ s'.issued ∧ s'.staged prepareId = none ∧ StagedIn (tr ++ [t]) document := by
    intro t' ht' i prepareId document htakes
    obtain ⟨hissued, hnone, hstaged⟩ := hkept.taken t' ht' i prepareId document htakes
    cases h with
    | same hsame hids => exact ⟨hids ▸ hissued, by rw [hsame, hnone], hstaged.more t⟩
    | staged j document' x id hevent hfresh hids hsame =>
      have hne : prepareId ≠ id := by
        rintro rfl
        exact hfresh hissued
      refine ⟨hids ▸ Set.mem_insert_of_mem _ hissued, ?_, hstaged.more t⟩
      rcases hsame with hsame | hsame <;> simp [hsame, hne, hnone]
    | removed id hids hsame =>
      refine ⟨hids ▸ hissued, ?_, hstaged.more t⟩
      by_cases hid : prepareId = id <;> simp [hsame, hid, hnone]
  -- a record that the step takes was staged and is not any more
  have hnew : ∀ i prepareId document, Takes t i prepareId document →
      s.staged prepareId = some document ∧ s'.staged prepareId = none ∧ s'.issued = s.issued := by
    intro i prepareId document htakes
    cases h with
    | same _ _ hevent => exact absurd htakes (hevent i prepareId document)
    | staged j document' x id hevent => exact nomatch hevent.symm.trans htakes
    | removed id hids hsame hevent =>
      obtain ⟨rfl, hstaged⟩ := hevent i prepareId document htakes
      exact ⟨hstaged, by simp [hsame], hids⟩
  refine ⟨fun prepareId document hstaged => ?_, fun t' ht' i prepareId document htakes => ?_,
    fun t₁ ht₁ t₂ ht₂ i i' prepareId document document' h₁ h₂ => ?_⟩
  · cases h with
    | same hsame hids =>
      rw [hsame] at hstaged
      exact ⟨hids ▸ (hkept.staged _ _ hstaged).1, (hkept.staged _ _ hstaged).2.more t⟩
    | staged j document' x id hevent hfresh hids hsame =>
      have hcases : s.staged prepareId = some document ∨ prepareId = id ∧ document' = document := by
        rcases hsame with hsame | hsame
        · exact .inl (hsame ▸ hstaged)
        · by_cases hid : prepareId = id
          · rw [hsame, hid, Function.update_self] at hstaged
            exact .inr ⟨hid, Option.some.inj hstaged⟩
          · rw [hsame, Function.update_of_ne hid] at hstaged
            exact .inl hstaged
      rcases hcases with hbefore | ⟨rfl, rfl⟩
      · exact ⟨hids ▸ Set.mem_insert_of_mem _ (hkept.staged _ _ hbefore).1,
          (hkept.staged _ _ hbefore).2.more t⟩
      · exact ⟨hids ▸ Set.mem_insert _ _, t, by simp, j, x, hevent⟩
    | removed id hids hsame =>
      by_cases hid : prepareId = id
      · simp [hsame, hid] at hstaged
      · rw [hsame, Function.update_of_ne hid] at hstaged
        exact ⟨hids ▸ (hkept.staged _ _ hstaged).1, (hkept.staged _ _ hstaged).2.more t⟩
  · rcases List.mem_append.mp ht' with ht' | ht'
    · exact hold t' ht' i prepareId document htakes
    · obtain rfl := List.mem_singleton.mp ht'
      obtain ⟨hstaged, hnone, hids⟩ := hnew i prepareId document htakes
      exact ⟨hids ▸ (hkept.staged _ _ hstaged).1, hnone, (hkept.staged _ _ hstaged).2.more t'⟩
  · simp only [List.mem_append, List.mem_singleton] at ht₁ ht₂
    rcases ht₁ with ht₁ | rfl <;> rcases ht₂ with ht₂ | rfl
    · exact hkept.once t₁ ht₁ t₂ ht₂ i i' prepareId document document' h₁ h₂
    · have hnone := (hkept.taken t₁ ht₁ i prepareId document h₁).2.1
      rw [(hnew i' prepareId document' h₂).1] at hnone
      cases hnone
    · have hnone := (hkept.taken t₂ ht₂ i' prepareId document' h₂).2.1
      rw [(hnew i prepareId document h₁).1] at hnone
      cases hnone
    · have hsame := h₁.symm.trans h₂
      simp only [Event.performed.injEq] at hsame
      exact hsame.1

theorem stagingKept_of_run (hstart : ∀ prepareId, s₀.staged prepareId = none)
    (hrun : BackendRun d s₀ tr c) :
    StagingKept tr c.state := by
  induction hrun with
  | nil =>
    refine ⟨fun prepareId document hstaged => ?_, by simp, by simp⟩
    cases (hstart prepareId).symm.trans hstaged
  | snoc run last ih => exact ih.step (stagedStep last)

/-- The transition is the submission of an approval with the id. -/
def Submits (t : BackendTransition) (i : ℕ) (params : ExecuteParams)
    (submission : Submission) : Prop :=
  (∃ x, t.event = .performed i (.submit submission) x) ∧
    ∃ stage, t.before.processes i = some ⟨.executeAction params, stage⟩

theorem approves_of_submits {tr₁ tr₂ : List BackendTransition} {t : BackendTransition} {i : ℕ}
    {params : ExecuteParams} {submission : Submission} (hrun : BackendRun d s₀ (tr₁ ++ t :: tr₂) c)
    (h : Submits t i params submission) :
    ∃ prepared wallet proof, Approves d params
      (history tr₁ i) submission prepared wallet proof := by
  obtain ⟨⟨x, hevent⟩, stage, hprocess⟩ := h
  exact allowed_of_performed hrun (fun op _ => heeds_program op) hevent hprocess params rfl

/-- A record that was staged was prepared by an operation of its user, for a wallet row of the
user. -/
theorem prepared_of_stagedIn {document : Json} (hrun : BackendRun d s₀ tr c)
    (h : StagedIn tr document) :
    ∃ userId wallet prepared, document = prepared.toJson ∧ PreparedFor d wallet userId prepared ∧
      ∃ t ∈ tr, ∃ i x proc, t.event = .performed i
        (.stage document) x ∧ t.before.processes i = some proc ∧
        proc.operation.preparesFor = some userId := by
  obtain ⟨t, ht, i, x, hevent⟩ := h
  obtain ⟨tr₁, tr₂, rfl, -⟩ := hrun.split_of_mem ht
  obtain ⟨proc, hproc⟩ : ∃ proc, t.before.processes i = some proc := by
    have hstep := hrun.step_of_mem ht
    obtain ⟨u, e, v⟩ := t
    dsimp only at hevent hstep
    subst hevent
    cases hstep with
    | performed here done => exact ⟨_, here⟩
  obtain ⟨userId, hop, wallet, prepared, rfl, hprepared, -⟩ :=
    allowed_of_performed hrun (fun op _ => heeds_program op) hevent hproc
  exact ⟨userId, wallet, prepared, rfl, hprepared, t, ht, i, x, proc, hevent, hproc, hop⟩

/-- Every passkey transaction that any run sends is for a record that the same user prepared earlier
in the run and that this call has taken; no transaction was sent for the prepare id before. The
user's assertion carries the challenge of the very action that the transaction asks for, with the
keys that the wallet row had. -/
theorem approvals_sent_once (hstart : ∀ prepareId, s₀.staged prepareId = none)
    {tr₁ tr₂ : List BackendTransition} {t : BackendTransition}
    (hrun : BackendRun d s₀ (tr₁ ++ t :: tr₂) c) {i : ℕ} {params : ExecuteParams}
    {submission : Submission} (hsubmits : Submits t i params submission) :
    ∃ prepared wallet₀ wallet proof, Approves d params
      (history tr₁ i) submission prepared wallet proof ∧
      PreparedFor d wallet₀ params.userId prepared ∧
      (∃ t' ∈ tr₁, ∃ j x proc, t'.event = .performed j (.stage prepared.toJson) x ∧
        t'.before.processes j = some proc ∧
        proc.operation.preparesFor = some params.userId) ∧
      (∀ t' ∈ tr₁, ∀ j params' submission', Submits t' j params' submission' →
        params'.prepareId ≠ params.prepareId) ∧
      ((setsUpVault prepared.payload = true → SameKeys wallet₀ wallet) →
        ∃ action, d.clientDataChallenge (base64UrlToBuffer params.assertion.clientDataJSON) =
            .ok (some (bytesToBase64Url (challenge d.rt action.parts).toList)) ∧
          submission.call.rootProof? = some ⟨action.proofExpiresAt, proof.authenticatorData,
            proof.clientDataJson⟩ ∧
          ∀ config : ProtocolConfig, clusterDomain d = .ok config.clusterDomain.toList →
            submission.call.rootAction? d.rt config = some action) := by
  obtain ⟨prepared, wallet, proof, happroves⟩ := approves_of_submits hrun hsubmits
  obtain ⟨document, hmem, hread⟩ := happroves.taken
  obtain ⟨taking, htaking, htakes⟩ := mem_history.mp hmem
  have hkept := stagingKept_of_run hstart hrun.upto
  obtain ⟨userId, wallet₀, prepared', rfl, hprepared, t', ht', j, x, proc, hevent, hproc, hop⟩ :=
    prepared_of_stagedIn hrun.upto (hkept.taken taking htaking i _ _ htakes).2.2
  obtain rfl : prepared' = prepared :=
    Option.some.inj ((ofJson_toJson_of_prepared hprepared).symm.trans hread)
  obtain rfl : userId = params.userId :=
    (columns_of_prepared hprepared).2.1.symm.trans happroves.owner
  refine ⟨prepared', wallet₀, wallet, proof, happroves, hprepared,
    ⟨t', ht', j, x, proc, hevent, hproc, hop⟩, ?_, ?_⟩
  · -- an earlier submission with the id would be one of this call
    intro t'' ht'' i' params' submission' hsubmits' hid
    obtain ⟨tr₃, tr₄, rfl, -⟩ := hrun.upto.split_of_mem ht''
    obtain ⟨_, _, _, happroves'⟩ := approves_of_submits hrun.upto hsubmits'
    obtain ⟨document', hmem', -⟩ := happroves'.taken
    obtain ⟨taking', htaking', htakes'⟩ := mem_history.mp hmem'
    rw [hid] at htakes'
    obtain rfl : i' = i :=
      hkept.once taking' (List.mem_append_left _ htaking') taking htaking i' i _ _ _ htakes' htakes
    obtain ⟨⟨x', hevent'⟩, -⟩ := hsubmits'
    exact happroves.first submission' x' (mem_history.mpr ⟨t'', ht'', hevent'⟩)
  · intro hkeys
    obtain ⟨action, hrebuilds⟩ := rebuilds_of_prepared hprepared hkeys
    have hkey : compressedP256PublicKey wallet.publicKeyX wallet.publicKeyY =
        .ok proof.compressedPublicKey := by
      have hproof := happroves.proof_eq
      simp only [webAuthnProof, bind_eq_ok, pure_eq_ok] at hproof
      obtain ⟨key, hkey, -, -, -, -, -, -, rfl⟩ := hproof
      exact hkey
    obtain ⟨-, hcarried, haction⟩ := hrebuilds.carried proof submission.call hkey happroves.built
    exact ⟨action, hrebuilds.challenge_eq ▸ happroves.challenge, hcarried, haction⟩

end Runs

end VeriAgentPay.Backend

/-! The approval on the concrete ledger is prepared by one process and executed by another one. -/

namespace VeriAgentPay.Devnet
open FixedWidth CheckedOutcome Client LabelledRuns InterleavedPrograms Backend
  SolanaPasskeyExecutionService

def approvalUser : User := { sender with smartWallet := some approvalWallet }

def approvalStart : Store :=
  { backendStart with users := fun id => if id = "user-1" then some approvalUser else none }

def approvalStaged : Store :=
  { approvalStart with issued := insert "prepare-1" ∅ }.setStaged "prepare-1" (some approval.toJson)

def approvalTaken : Store := approvalStaged.setStaged "prepare-1" none

def approvalExecution : ExecuteParams :=
  { userId := "user-1", prepareId := "prepare-1"
    assertion :=
      { id := "credential-1", authenticatorData := bytesToBase64Url approvalProof.authenticatorData
        clientDataJSON := bytesToBase64Url approvalProof.clientDataJson
        signature := bytesToBase64Url approvalProof.signatureDer } }

def approvalCredential : PasskeyCredential :=
  { id := "row-1", userId := "user-1", revokedAt := none }

section Reaching

variable {i : ℕ} {op : Operation} {s s' s'' : Store}

theorem returns_asked {r : Request} {x : Result r}
    (h : Performs approvalDeployment i s r (.ok x) s') :
    Returns (backend approvalDeployment) i op s (ask r).run s' (.ok x) := .ask h (.refl _ _)

theorem returns_value {α : Type} {x y : Except Failure α} (h : x = y) :
    Returns (backend approvalDeployment) i op s (checked x).run s y := h ▸ .refl _ _

/-- The program goes on to send a transaction. -/
def Sends {α : Type} (i : ℕ) (op : Operation) (s : Store) (p : Program Request Answer α)
    (s' : Store) (submission : Submission) : Prop :=
  ∃ next, Executes (backend approvalDeployment) i op s p s' (.ask (.submit submission) next)

theorem sends_andThen {α β : Type} {x : Service α} {f : α → Service β} {submission : Submission}
    (s' : Store) (a : α) (h : Returns (backend approvalDeployment) i op s x.run s' (.ok a))
    (h' : Sends i op s' (f a).run s'' submission) :
    Sends i op s (x >>= f).run s'' submission := by
  obtain ⟨next, h'⟩ := h'
  exact ⟨next, (Executes.bind _ h).trans h'⟩

theorem sends_first {α β : Type} {p : Program Request Answer α} {f : α → Program Request Answer β}
    {submission : Submission} (h : Sends i op s p s' submission) :
    Sends i op s (p.bind f) s' submission := by
  obtain ⟨next, h⟩ := h
  exact ⟨_, Executes.bind f h⟩

theorem sends_handled {α β : Type} {x : Service α} {handler : Service Unit} {f : α → Service β}
    {submission : Submission} (h : Sends i op s x.run s' submission) :
    Sends i op s (onFailure x handler >>= f).run s' submission :=
  sends_first (sends_first h)

theorem returns_user (hs : s.users "user-1" = some approvalUser) :
    Returns (backend approvalDeployment) i op s (userWithWallet "user-1").run s
      (.ok (approvalUser, approvalWallet)) := by
  refine .andThen s (some approvalUser) (returns_asked ⟨rfl, fun user huser => ?_⟩)
    (returns_value rfl)
  rw [hs]
  exact (Except.ok.inj huser).symm

theorem vault_opened : ∃ v : Vault, opened.data vault = .vault v ∧ v.nonce = 1 := by
  have h : (opened.data vault).vault?.any (fun v => v.nonce = 1) = true := by decide +kernel
  obtain ⟨v, hv, hnonce⟩ := (Option.any_eq_true _ _).mp h
  exact ⟨v, AccountData.vault?_eq_some.mp hv, of_decide_eq_true hnonce⟩

theorem approval_staged :
    Returns (backend approvalDeployment) 0 (.prepareSolTransfer approvalParams) approvalStart
    (prepareSolTransfer approvalDeployment approvalParams).run approvalStaged
      (.ok "prepare-1") := by
  obtain ⟨v, hvault, hnonce⟩ := vault_opened
  refine .andThen approvalStart (approvalUser, approvalWallet) (returns_user rfl) ?_
  refine .andThen approvalStart v ?_ ?_
  · refine .andThen approvalStart (some v) ?_ (returns_value rfl)
    exact .andThen approvalStart vault (returns_value (addressKey_toBase58 vault "vault"))
      (returns_asked ⟨rfl, .inl (AccountData.vault?_eq_some.mpr hvault)⟩)
  refine .andThen approvalStart (1750000000000 : ℤ) (returns_asked ⟨rfl, _, rfl⟩) ?_
  refine .andThen approvalStart approval (returns_value ?_) ?_
  · show solTransferAction approvalDeployment approvalParams approvalWallet.address v.nonce
      1750000300 = .ok approval
    rw [hnonce, approval_prepared]
  · exact returns_asked ⟨"prepare-1", by simp [approvalStart, backendStart], .inl ⟨rfl, .inl rfl⟩⟩

theorem webAuthnProof_encoded {wallet : SmartWallet} {id : String}
    {key authenticatorData clientDataJson signatureDer : Bytes}
    (hkey : compressedP256PublicKey wallet.publicKeyX wallet.publicKeyY = .ok key)
    (hauthenticator : authenticatorData ≠ []) (hclient : clientDataJson ≠ [])
    (hsignature : signatureDer ≠ []) :
    webAuthnProof wallet
      ⟨id, bytesToBase64Url authenticatorData, bytesToBase64Url clientDataJson,
        bytesToBase64Url signatureDer⟩ =
      .ok ⟨key, authenticatorData, clientDataJson, signatureDer⟩ := by
  simp only [webAuthnProof, hkey, ok_bind, base64UrlToBytes_bytesToBase64Url hauthenticator,
    base64UrlToBytes_bytesToBase64Url hclient, base64UrlToBytes_bytesToBase64Url hsignature]
  rfl

theorem approval_proof :
    webAuthnProof approvalWallet approvalExecution.assertion = .ok approvalProof := by
  have hassertion : approvalExecution.assertion = ⟨"credential-1",
      bytesToBase64Url approvalProof.authenticatorData,
      bytesToBase64Url approvalProof.clientDataJson, bytesToBase64Url approvalProof.signatureDer⟩ :=
        rfl
  have hparts : approvalProof.authenticatorData ≠ [] ∧ approvalProof.clientDataJson ≠ [] ∧
      approvalProof.signatureDer ≠ [] := by
    decide +kernel
  rw [hassertion, webAuthnProof_encoded approvalKey hparts.1 hparts.2.1 hparts.2.2]

theorem approval_sent : ∃ verification, Sends 1 (.executeAction approvalExecution) approvalStaged
    ((Operation.executeAction approvalExecution).program approvalDeployment) approvalTaken
    ⟨approvalCall, [], some verification⟩ := by
  have hverifies : (createSecp256r1Instruction approvalRuntime approvalProof).toBool = true := by
    decide +kernel
  obtain ⟨verification, hverification⟩ := eq_ok_of_toBool hverifies
  refine ⟨verification, sends_first ?_⟩
  refine sends_andThen approvalTaken (some approval.toJson) (returns_asked (.inl ⟨rfl, .inl ?_⟩)) ?_
  · simp [approvalStaged, Store.setStaged, approvalExecution]
  refine sends_andThen approvalTaken approval (returns_value ?_) ?_
  · rw [Option.bind_some, ofJson_toJson_of_prepared approval_preparedFor]
    rfl
  refine sends_andThen approvalTaken () (returns_value rfl) ?_
  refine sends_andThen approvalTaken (some approvalChallenge) (returns_value ?_) ?_
  · simp only [approvalExecution, base64UrlToBuffer_bytesToBase64Url]
    decide +kernel
  refine sends_andThen approvalTaken () (returns_value rfl) ?_
  refine sends_andThen approvalTaken (some approvalCredential) (returns_asked rfl) ?_
  refine sends_andThen approvalTaken approvalCredential (returns_value rfl) ?_
  refine sends_andThen approvalTaken (approvalUser, approvalWallet) (returns_user rfl) ?_
  refine sends_andThen approvalTaken approvalProof (returns_value approval_proof) ?_
  refine sends_andThen approvalTaken approvalCall (returns_value approval_built) ?_
  refine sends_andThen approvalTaken () (returns_value rfl) ?_
  refine sends_handled (sends_andThen approvalTaken verification (returns_value hverification) ?_)
  exact ⟨_, .refl _ _⟩

end Reaching

theorem approvals_sent_once_devnet :
    ∃ (tr : List BackendTransition) (t : BackendTransition) (c : BackendConfig)
      (submission : Submission), BackendRun approvalDeployment approvalStart (tr ++ [t]) c ∧
      Submits t 1 approvalExecution submission ∧
      ∀ t' ∈ tr, ∀ j params submission', Submits t' j params submission' →
        params.prepareId ≠ "prepare-1" := by
  have hhere : ∀ (c : BackendConfig) (i : ℕ) (op : Operation) (stage : Stage Request Answer),
      (c.setStage i op stage).processes i = some ⟨op, stage⟩ := by simp [Config.setStage]
  have hprepares :
      Returns (backend approvalDeployment) 0 (.prepareSolTransfer approvalParams) approvalStart
      ((Operation.prepareSolTransfer approvalParams).program approvalDeployment) approvalStaged
        () :=
    Returns.bind approvalStaged _ approval_staged (.refl _ _)
  have hinitial : BackendRun approvalDeployment approvalStart [] (Config.initial approvalStart) :=
    .nil
  obtain ⟨tr₀, hrun₀⟩ := run_of_returns hinitial rfl trivial hprepares
  obtain ⟨verification, next, hexecutes⟩ := approval_sent
  have hstarts : ∀ (c : BackendConfig) (i : ℕ) (op : Operation), c.processes i = none →
      InterleavedPrograms.Step (backend approvalDeployment) c (.start i op)
        (c.setStage i op (.running (op.program approvalDeployment))) :=
          fun c i op hfresh => .start hfresh trivial
  obtain ⟨tr, hrun⟩ := run_of_executes
    (hrun₀.snoc (hstarts _ 1 (.executeAction approvalExecution)
      (by simp [Config.setStage, Config.initial]))) hexecutes
  have hfails : Performs approvalDeployment 1 approvalTaken
      (.submit ⟨approvalCall, [], some verification⟩) (.error outage)
      approvalTaken := .inr ⟨⟨_, rfl⟩, .inl rfl⟩
  have hlast := hrun.snoc (Step.performed (hhere _ _ _ _) hfails)
  have hsubmits : ∀ (u v : BackendConfig) (stage : Stage Request Answer) x, u.processes 1 = some
      ⟨.executeAction approvalExecution, stage⟩ →
      Submits ⟨u, .performed 1 (.submit ⟨approvalCall, [], some verification⟩) x,
        v⟩ 1 approvalExecution
        ⟨approvalCall, [], some verification⟩ := fun u v stage x hu => ⟨⟨x, rfl⟩, stage, hu⟩
  obtain ⟨_, _, _, _, -, -, -, hearlier, -⟩ :=
    approvals_sent_once (fun _ => rfl) hlast (hsubmits _ _ _ _ (hhere _ _ _ _))
  exact ⟨tr, _, _, _, hlast, hsubmits _ _ _ _ (hhere _ _ _ _), hearlier⟩

end VeriAgentPay.Devnet
