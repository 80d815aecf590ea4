import VeriAgentPay.LinkSettlement
import Mathlib.Logic.Relation

/-!
# Every instruction is a composition of four effects

An account is allocated at the address of what it says, a record of this program is rewritten
under the same identity, tokens move, lamports move. What each of the four keeps is then kept
by every call and by every run.
-/

namespace VeriAgentPay
open FixedWidth CheckedOutcome LabelledRuns

/-- A record of this program is at the address derived from its own fields, with its own bump.
Nothing ever pauses the protocol. -/
def Canonical (rt : Runtime) (key : Pubkey) : AccountData → Prop
  | .config c => findProgramAddress rt rt.programId [protocolSeed] = some (key, c.bump) ∧
  c.paused = false
  | .claimAuthority c =>
    findProgramAddress rt rt.programId [claimAuthoritySeed] = some (key, c.bump)
  | .vault v =>
    findProgramAddress rt rt.programId (vaultSeeds v.rootKeyHash v.userSalt) = some (key, v.bump)
  | .session s =>
    findProgramAddress rt rt.programId (sessionSeeds s.vault s.publicKey) = some (key, s.bump)
  | .link l =>
    findProgramAddress rt rt.programId (paymentLinkSeeds l.senderVault l.linkId) = some
      (key, l.bump)
  | _ => True

/-- What a new account pays its rent with comes from its payer. -/
structure RentPaid (w w' : World) (payer key : Pubkey) : Prop where
  total : (w'.lamports payer).toNat + (w'.lamports key).toNat = (w.lamports payer).toNat +
    (w.lamports key).toNat

inductive Effect (rt : Runtime) (w : World) : World → Prop
  | created {w' : World} {payer key : Pubkey} {d : AccountData}
    (allocated : AccountCreated rt w w' payer key d)
      (paid : RentPaid w w' payer key) (canonical : Canonical rt key d)
      (empty : ∀ t, d = .token t → t.amount = 0 ∧ t.frozen = false) : Effect rt w w'
  | rewritten {key : Pubkey} {d d' : AccountData} (before : w.data key = d) (owned :
      d.programOwned = true)
      (owned' : d'.programOwned = true) (canonical : Canonical rt key d → Canonical rt key d') :
      Effect rt w (w.setData key d')
  | tokensMoved {w' : World} {source destination authority mint : Pubkey} {amount : UInt64} {s d :
      TokenAccount}
      (ne : source ≠ destination)
        (moved : TokensMoved w w' source destination authority mint amount s d) :
      Effect rt w w'
  | lamportsMoved {w' : World} {source destination : Pubkey} {amount : UInt64} (ne :
      source ≠ destination)
      (moved : LamportsMoved rt w w' source destination amount) : Effect rt w w'

/-- One effect after another. -/
abbrev Effects (rt : Runtime) : World → World → Prop := Relation.ReflTransGen (Effect rt)

section Services

variable {rt : Runtime} {ctx : Context} {w w₁ w' : World}

theorem systemTransfer_rentPaid {payer key : Pubkey} {amount : UInt64} (hne : payer ≠ key)
    (h : systemTransfer w payer key amount = .ok w') : RentPaid w w' payer key := by
  simp only [systemTransfer, bind_eq_ok, require_eq_ok, orError_eq_ok, pure_eq_ok] at h
  obtain ⟨-, -, remaining, hremaining, received, hreceived, rfl⟩ := h
  have hsource := toNat_checkedSub hremaining
  have hdestination := toNat_checkedAdd hreceived
  constructor
  simp [hne]
  omega

theorem createAccount_rentPaid {payer key : Pubkey} {d : AccountData}
    (h : createAccount rt w payer key d = .ok w') :
    RentPaid w w' payer key := by
  simp only [createAccount, bind_eq_ok, require_eq_ok, pure_eq_ok] at h
  obtain ⟨-, hne, -, -, w₁, hfund, rfl⟩ := h
  suffices hpaid : RentPaid w w₁ payer key from ⟨hpaid.total⟩
  simp only [fundAccount] at hfund
  split at hfund
  · exact systemTransfer_rentPaid hne hfund
  · split at hfund
    · exact systemTransfer_rentPaid hne hfund
    · obtain rfl := Except.ok.inj hfund
      exact ⟨rfl⟩

theorem initAccount_effect {payer key : Pubkey} {seeds : List Bytes}
    {contents : UInt8 → AccountData} (h : initAccount rt ctx w payer key seeds contents = .ok w')
    (hcanonical : ∀ bump, findProgramAddress rt rt.programId seeds = some (key, bump) →
      Canonical rt key (contents bump))
    (hrecord : ∀ bump, (contents bump).programOwned = true) : Effect rt w w' := by
  obtain ⟨bump, hfind, -, hcreated⟩ := initAccount_ok h
  simp only [initAccount, requireSigner, bind_eq_ok, require_eq_ok, orError_eq_ok] at h
  obtain ⟨-, -, ⟨address, bump'⟩, -, -, -, h⟩ := h
  refine .created hcreated (createAccount_rentPaid h) (hcanonical bump hfind) ?_
  intro t ht
  have howned := hrecord bump
  rw [ht] at howned
  cases howned

theorem createAssociatedToken_effect {payer key wallet mint : Pubkey}
    (h : createAssociatedToken rt ctx w payer key wallet mint = .ok w') : Effect rt w w' := by
  obtain ⟨-, hcreated⟩ := createAssociatedToken_ok h
  simp only [createAssociatedToken, requireSigner, bind_eq_ok, require_eq_ok] at h
  obtain ⟨-, -, -, -, h⟩ := h
  refine .created hcreated (createAccount_rentPaid h) trivial ?_
  intro t ht
  rw [← AccountData.token.inj ht]
  exact ⟨rfl, rfl⟩

theorem createAssociatedTokenIfNeeded_effects {payer key wallet mint : Pubkey}
    (h : createAssociatedTokenIfNeeded rt ctx w payer key wallet mint = .ok w') :
    Effects rt w w' := by
  by_cases hempty : w.data key = .empty
  · rw [createAssociatedTokenIfNeeded, if_pos hempty] at h
    exact .single (createAssociatedToken_effect h)
  · obtain ⟨-, hcreated | ⟨rfl, -⟩⟩ := createAssociatedTokenIfNeeded_ok h
    · exact absurd hcreated.fresh hempty
    · exact .refl

theorem transferCheckedSigned_effects {source mint destination authority : Pubkey}
    {signerSeeds : List Bytes} {bump : UInt8} {amount : UInt64} {decimals : UInt8}
    (h : transferCheckedSigned rt w source mint destination authority signerSeeds bump amount
      decimals = .ok w') :
    Effects rt w w' := by
  by_cases hne : source = destination
  · simp only [transferCheckedSigned, transferChecked, bind_eq_ok, if_pos hne, pure_eq_ok] at h
    obtain ⟨-, -, -, -, -, -, -, -, -, -, -, -, -, -, -, -, -, -, rfl⟩ := h
    exact .refl
  · obtain ⟨s, d, hmoved⟩ := transferCheckedSigned_ok hne h
    exact .single (.tokensMoved hne hmoved)

/-- The tokens of a call move before it rewrites its records. -/
theorem transferCheckedSigned_record {source mint destination authority key : Pubkey}
    {signerSeeds : List Bytes} {bump : UInt8} {amount : UInt64} {decimals : UInt8} {d : AccountData}
    (h : transferCheckedSigned rt w source mint destination authority signerSeeds bump amount
      decimals = .ok w')
    (hbefore : w.data key = d) (howned : d.programOwned = true) : w'.data key = d := by
  by_cases hne : source = destination
  · simp only [transferCheckedSigned, transferChecked, bind_eq_ok, if_pos hne, pure_eq_ok] at h
    obtain ⟨-, -, -, -, -, -, -, -, -, -, -, -, -, -, -, -, -, -, rfl⟩ := h
    exact hbefore
  · rw [(transferCheckedSigned_effect hne h).2.record_kept (by simp) (by rw [hbefore, howned]),
      hbefore]

theorem Effects.rewrite {key : Pubkey} {d d' : AccountData} (h : Effects rt w w₁)
    (hbefore : w₁.data key = d) (howned : d.programOwned = true) (howned' : d'.programOwned = true)
    (hcanonical : Canonical rt key d → Canonical rt key d') : Effects rt w (w₁.setData key d') :=
  h.tail (.rewritten hbefore howned howned' hcanonical)

end Services

section Instructions

variable {rt : Runtime} {ctx : Context} {w w' : World}

theorem initializeVault_effects {a : InitializeVault} {args : InitializeVaultArgs}
    (h : initializeVault rt ctx a args w = .ok w') : Effects rt w w' := by
  simp only [initializeVault, bind_eq_ok, pure_eq_ok, exists_unit] at h
  obtain ⟨config, -, -, -, w₁, hinit, w₂, htoken, -, -, -, -, -, -, rfl⟩ := h
  exact .trans (.single (initAccount_effect hinit (fun _ hfind => hfind) fun _ => rfl))
    (createAssociatedTokenIfNeeded_effects htoken)

theorem grantSession_effects {a : GrantSession} {args : GrantSessionArgs}
    (h : grantSession rt ctx a args w = .ok w') : Effects rt w w' := by
  simp only [grantSession_eq, bind_eq_ok, load_eq_ok, AccountData.vault?_eq_some, pure_eq_ok,
    exists_unit] at h
  obtain ⟨config, -, vault, hvault, w₁, hinit, -, -, -, -, -, -, n, -, rfl⟩ := h
  obtain ⟨bump, -, -, hcreated⟩ := initAccount_ok hinit
  have hne : a.vault ≠ a.session := World.ne_of_data hvault hcreated.fresh (by simp)
  have hvault₁ : w₁.data a.vault = .vault vault := by
    rw [hcreated.data_eq, Function.update_of_ne hne, hvault]
  have hfirst : Effects rt w w₁ :=
    .single (initAccount_effect hinit (fun _ hfind => hfind) fun _ => rfl)
  exact hfirst.rewrite hvault₁ rfl rfl id

theorem initializeVaultAndGrantSession_effects {a : InitializeVaultAndGrantSession}
    {args : InitializeVaultAndGrantSessionArgs}
    (h : initializeVaultAndGrantSession rt ctx a args w = .ok w') :
    Effects rt w w' := by
  simp only [initializeVaultAndGrantSession, bind_eq_ok, pure_eq_ok, exists_unit] at h
  obtain ⟨config, -, -, -, w₁, hinit, w₂, hinit', w₃, htoken, -, -, -, -, -, -, -, rfl⟩ := h
  have hvault : Effect rt w w₁ := initAccount_effect hinit (fun _ hfind => hfind) fun _ => rfl
  have hsession : Effect rt w₁ w₂ := initAccount_effect hinit' (fun _ hfind => hfind) fun _ => rfl
  exact .trans (.trans (.single hvault) (.single hsession))
    (createAssociatedTokenIfNeeded_effects htoken)

theorem transferWithPasskey_effects {a : TransferWithPasskey} {args : PasskeyTransferArgs}
    (h : transferWithPasskey rt ctx a args w = .ok w') : Effects rt w w' := by
  simp only [transferWithPasskey, bind_eq_ok, load_eq_ok, AccountData.vault?_eq_some, pure_eq_ok,
    exists_unit] at h
  obtain ⟨-, config, -, vault, hvault, mint, -, vaultToken, -, destinationToken, -, -, -, -, -, -,
    -, -, -, -, -,
    -, n, -, w₁, htransfer, rfl⟩ := h
  exact (transferCheckedSigned_effects htransfer).rewrite
    (transferCheckedSigned_record htransfer hvault rfl) rfl rfl id

theorem transferWithSession_effects {a : TransferWithSession} {args : SessionTransferArgs}
    (h : transferWithSession rt ctx a args w = .ok w') : Effects rt w w' := by
  simp only [transferWithSession, bind_eq_ok, load_eq_ok, AccountData.session?_eq_some, pure_eq_ok,
    exists_unit] at h
  obtain ⟨config, -, vault, -, session, hsession, -, mint, -, vaultToken, -, destinationToken, -, -,
    -, -, -, -, -,
    -, -, -, -, session', hspend, w₁, htransfer, rfl⟩ := h
  obtain ⟨-, -, -, spent, n, -, -, rfl⟩ := spendFromSession_ok hspend
  exact (transferCheckedSigned_effects htransfer).rewrite
    (transferCheckedSigned_record htransfer hsession rfl) rfl rfl
    id

theorem createPaymentLinkWithSession_effects {a : CreatePaymentLinkWithSession}
    {args : CreatePaymentLinkWithSessionArgs}
    (h : createPaymentLinkWithSession rt ctx a args w = .ok w') :
    Effects rt w w' := by
  simp only [createPaymentLinkWithSession, bind_eq_ok, load_eq_ok, AccountData.session?_eq_some,
    pure_eq_ok,
    exists_unit] at h
  obtain ⟨config, -, vault, -, session, hsession, -, mint, -, vaultToken, -, w₁, hinit, w₂, hescrow,
    -, -, -, -, -, -,
    -, -, -, -, session', hspend, w₃, htransfer, rfl⟩ := h
  obtain ⟨-, -, -, spent, n, -, -, rfl⟩ := spendFromSession_ok hspend
  obtain ⟨bump, -, -, hcreated⟩ := initAccount_ok hinit
  obtain ⟨-, hcreated'⟩ := createAssociatedToken_ok hescrow
  have hne : a.session ≠ a.paymentLink := World.ne_of_data hsession hcreated.fresh (by simp)
  have hsession₂ : w₂.data a.session = .session session := by
    rw [((hcreated.frame (by simp)).trans hcreated'.frame_token).record_kept (by simpa using hne)
      (by rw [hsession]; rfl), hsession]
  have hlink : Effect rt w w₁ := initAccount_effect hinit (fun _ hfind => hfind) fun _ => rfl
  have hcreate : Effects rt w w₂ :=
    .trans (.single hlink) (.single (createAssociatedToken_effect hescrow))
  have hmoved : Effects rt w w₃ := hcreate.trans (transferCheckedSigned_effects htransfer)
  exact hmoved.rewrite (transferCheckedSigned_record htransfer hsession₂ rfl) rfl rfl id

theorem claimPaymentLink_effects {a : ClaimPaymentLink} (h : claimPaymentLink rt ctx a w = .ok w') :
    Effects rt w w' := by
  simp only [claimPaymentLink, bind_eq_ok, load_eq_ok, AccountData.link?_eq_some, pure_eq_ok,
    exists_unit] at h
  obtain ⟨-, config, -, authority, -, recipientVault, -, link, hlink, mint, -, escrow, -, w₁,
    htoken, -, -, -, -, -, -,
    -, -, -, -, -, w₂, htransfer, rfl⟩ := h
  have hlink₁ : w₁.data a.paymentLink = .link link := by
    rw [(createAssociatedTokenIfNeeded_frame htoken).1.record_kept (by simp) (by rw [hlink]; rfl),
      hlink]
  have hmoved : Effects rt w w₂ :=
    (createAssociatedTokenIfNeeded_effects htoken).trans (transferCheckedSigned_effects htransfer)
  exact hmoved.rewrite (transferCheckedSigned_record htransfer hlink₁ rfl) rfl rfl id

theorem cancelPaymentLinkWithSession_effects {a : CancelPaymentLinkWithSession}
    {args : CancelPaymentLinkWithSessionArgs}
    (h : cancelPaymentLinkWithSession rt ctx a args w = .ok w') :
    Effects rt w w' := by
  simp only [cancelPaymentLinkWithSession, bind_eq_ok, load_eq_ok, AccountData.session?_eq_some,
    AccountData.link?_eq_some, pure_eq_ok, exists_unit] at h
  obtain ⟨config, -, vault, -, session, hsession, -, link, hlink, mint, -, escrow, -, vaultToken, -,
    -, -, -, -, -, -,
    -, -, -, -, -, -, n, -, w₁, htransfer, rfl⟩ := h
  have hne : a.paymentLink ≠ a.session := World.ne_of_data hlink hsession (by simp)
  have hused : Effects rt w (w₁.setData a.session (.session { session with nonce := n })) :=
    (transferCheckedSigned_effects htransfer).rewrite
      (transferCheckedSigned_record htransfer hsession rfl) rfl rfl id
  refine hused.rewrite (d := .link link) ?_ rfl rfl id
  simp [hne, transferCheckedSigned_record htransfer hlink rfl]

theorem refundExpiredPaymentLink_effects {a : RefundExpiredPaymentLink}
    (h : refundExpiredPaymentLink rt a w = .ok w') : Effects rt w w' := by
  simp only [refundExpiredPaymentLink, bind_eq_ok, load_eq_ok, AccountData.link?_eq_some,
    pure_eq_ok, exists_unit] at h
  obtain ⟨config, -, vault, -, link, hlink, mint, -, escrow, -, vaultToken, -, -, -, -, -, -, -, -,
    -, -, -, w₁,
    htransfer, rfl⟩ := h
  exact (transferCheckedSigned_effects htransfer).rewrite
    (transferCheckedSigned_record htransfer hlink rfl) rfl rfl id

theorem transferSolWithPasskey_effects {a : TransferSolWithPasskey} {args : SolPasskeyTransferArgs}
    (h : transferSolWithPasskey rt ctx a args w = .ok w') : Effects rt w w' := by
  simp only [transferSolWithPasskey, bind_eq_ok, load_eq_ok, AccountData.vault?_eq_some,
    require_eq_ok, pure_eq_ok,
    exists_unit] at h
  obtain ⟨-, config, -, vault, hvault, -, -, -, -, hne, -, -, n, -, w₁, htransfer, rfl⟩ := h
  have hmoved := transferProgramLamports_ok hne htransfer
  have hfirst : Effects rt w w₁ := .single (.lamportsMoved hne hmoved)
  exact hfirst.rewrite (d := .vault vault) (by rw [hmoved.data_eq, hvault]) rfl rfl id

theorem createSolPaymentLinkWithPasskey_effects {a : CreateSolPaymentLinkWithPasskey}
    {args : CreateSolPaymentLinkWithPasskeyArgs}
    (h : createSolPaymentLinkWithPasskey rt ctx a args w = .ok w') :
    Effects rt w w' := by
  simp only [createSolPaymentLinkWithPasskey, bind_eq_ok, load_eq_ok, AccountData.vault?_eq_some,
    pure_eq_ok,
    exists_unit] at h
  obtain ⟨config, -, vault, hvault, w₁, hinit, -, -, -, -, -, -, -, -, n, -, w₂, htransfer, rfl⟩ :=
    h
  obtain ⟨bump, -, -, hcreated⟩ := initAccount_ok hinit
  have hne : a.vault ≠ a.paymentLink := World.ne_of_data hvault hcreated.fresh (by simp)
  have hmoved := transferProgramLamports_ok hne htransfer
  have hvault₁ : w₁.data a.vault = .vault vault := by
    rw [hcreated.data_eq, Function.update_of_ne hne, hvault]
  have hlink : Effect rt w w₁ := initAccount_effect hinit (fun _ hfind => hfind) fun _ => rfl
  have hboth : Effects rt w w₂ := .trans (.single hlink) (.single (.lamportsMoved hne hmoved))
  exact hboth.rewrite (d := .vault vault) (by rw [hmoved.data_eq, hvault₁]) rfl rfl id

theorem claimSolPaymentLink_effects {a : ClaimSolPaymentLink}
    (h : claimSolPaymentLink rt ctx a w = .ok w') :
    Effects rt w w' := by
  simp only [claimSolPaymentLink, bind_eq_ok, load_eq_ok, AccountData.vault?_eq_some,
    AccountData.link?_eq_some,
    pure_eq_ok, exists_unit] at h
  obtain ⟨-, config, -, authority, -, recipientVault, hrecipient, link, hlink, -, -, -, -, -, -, -,
    -, w₁, htransfer,
    rfl⟩ := h
  have hne : a.paymentLink ≠ a.recipientVault := World.ne_of_data hlink hrecipient (by simp)
  have hmoved := transferProgramLamports_ok hne htransfer
  have hfirst : Effects rt w w₁ := .single (.lamportsMoved hne hmoved)
  exact hfirst.rewrite (d := .link link) (by rw [hmoved.data_eq, hlink]) rfl rfl id

theorem cancelSolPaymentLinkWithPasskey_effects {a : CancelSolPaymentLinkWithPasskey}
    {args : CancelSolPaymentLinkWithPasskeyArgs}
    (h : cancelSolPaymentLinkWithPasskey rt ctx a args w = .ok w') :
    Effects rt w w' := by
  simp only [cancelSolPaymentLinkWithPasskey, bind_eq_ok, load_eq_ok, AccountData.vault?_eq_some,
    AccountData.link?_eq_some, pure_eq_ok, exists_unit] at h
  obtain ⟨-, config, -, vault, hvault, link, hlink, -, -, -, -, -, -, -, -, -, n, -, w₁,
    htransfer, rfl⟩ := h
  have hne : a.paymentLink ≠ a.vault := World.ne_of_data hlink hvault (by simp)
  have hmoved := transferProgramLamports_ok hne htransfer
  have hfirst : Effects rt w w₁ := .single (.lamportsMoved hne hmoved)
  have hused : Effects rt w (w₁.setData a.vault (.vault { vault with nonce := n })) :=
    hfirst.rewrite (d := .vault vault) (by rw [hmoved.data_eq, hvault]) rfl rfl id
  refine hused.rewrite (d := .link link) ?_ rfl rfl id
  simp [hne, hmoved.data_eq, hlink]

theorem refundExpiredSolPaymentLink_effects {a : RefundExpiredSolPaymentLink}
    (h : refundExpiredSolPaymentLink rt a w = .ok w') : Effects rt w w' := by
  simp only [refundExpiredSolPaymentLink, bind_eq_ok, load_eq_ok, AccountData.vault?_eq_some,
    AccountData.link?_eq_some, pure_eq_ok, exists_unit] at h
  obtain ⟨config, -, vault, hvault, link, hlink, -, -, -, -, -, -, -, w₁, htransfer, rfl⟩ := h
  have hne : a.paymentLink ≠ a.senderVault := World.ne_of_data hlink hvault (by simp)
  have hmoved := transferProgramLamports_ok hne htransfer
  have hfirst : Effects rt w w₁ := .single (.lamportsMoved hne hmoved)
  exact hfirst.rewrite (d := .link link) (by rw [hmoved.data_eq, hlink]) rfl rfl id

/-- Every call of the program does nothing but these effects. -/
theorem exec_effects {c : Call} (h : exec rt ctx c w = .ok w') : Effects rt w w' := by
  cases c with
  | initializeProtocol a args =>
    simp only [exec, initializeProtocol, bind_eq_ok] at h
    obtain ⟨-, -, hinit⟩ := h
    exact .single (initAccount_effect hinit (fun _ hfind => ⟨hfind, rfl⟩) fun _ => rfl)
  | initializeVault a args => exact initializeVault_effects h
  | grantSession a args => exact grantSession_effects h
  | initializeVaultAndGrantSession a args => exact initializeVaultAndGrantSession_effects h
  | transferWithPasskey a args => exact transferWithPasskey_effects h
  | transferWithSession a args => exact transferWithSession_effects h
  | initializeClaimAuthority a args =>
    simp only [exec, initializeClaimAuthority, bind_eq_ok, pure_eq_ok, exists_unit] at h
    obtain ⟨config, -, w₁, hinit, -, -, -, rfl⟩ := h
    exact .single (initAccount_effect hinit (fun _ hfind => hfind) fun _ => rfl)
  | createPaymentLinkWithSession a args => exact createPaymentLinkWithSession_effects h
  | claimPaymentLink a => exact claimPaymentLink_effects h
  | cancelPaymentLinkWithSession a args => exact cancelPaymentLinkWithSession_effects h
  | refundExpiredPaymentLink a => exact refundExpiredPaymentLink_effects h
  | transferSolWithPasskey a args => exact transferSolWithPasskey_effects h
  | createSolPaymentLinkWithPasskey a args => exact createSolPaymentLinkWithPasskey_effects h
  | claimSolPaymentLink a => exact claimSolPaymentLink_effects h
  | cancelSolPaymentLinkWithPasskey a args => exact cancelSolPaymentLinkWithPasskey_effects h
  | refundExpiredSolPaymentLink a => exact refundExpiredSolPaymentLink_effects h

end Instructions

/-- What others do, as against a call of the program. -/
def Event.isEnv : Event → Bool
  | .call _ _ => false
  | .env => true

section Runs

variable {rt : Runtime} {start finish : World} {tr : List (Transition World Event)}

/-- A step that is a call is a composition of effects. -/
theorem step_effects {u v : World} {e : Event} (h : Step rt u e v) (hcall : e.isEnv = false) :
    Effects rt u v := by
  cases e with
  | call ctx c => exact exec_effects h
  | env => cases hcall

theorem effects_of_calls (hrun : Run (Step rt) start tr finish)
    (hcalls : ∀ t ∈ tr, t.event.isEnv = false) :
    Effects rt start finish := by
  induction hrun with
  | nil => exact .refl
  | snoc run last ih =>
    have hfirst := ih fun t ht => hcalls t (List.mem_append_left _ ht)
    exact hfirst.trans
      (step_effects last (hcalls _ (List.mem_append_right _ (List.mem_singleton_self _))))

/-- The program freezes no token account. -/
theorem Effects.thawed (h : Effects rt start finish)
    (hall : ∀ k t, start.data k = .token t → t.frozen = false) {k : Pubkey} {t : TokenAccount}
    (ht : finish.data k = .token t) : t.frozen = false := by
  induction h generalizing k t with
  | refl => exact hall k t ht
  | tail hprefix hlast ih =>
    cases hlast with
    | @created _ payer key d allocated paid canonical empty =>
      by_cases hk : k = key
      · subst hk
        exact (empty t (allocated.at_key.symm.trans ht)).2
      · rw [allocated.data_eq, Function.update_of_ne hk] at ht
        exact ih ht
    | @rewritten key d d' before owned owned' canonical =>
      by_cases hk : k = key
      · subst hk
        rw [World.setData_data, Function.update_self] at ht
        subst ht
        cases owned'
      · rw [World.setData_data, Function.update_of_ne hk] at ht
        exact ih ht
    | @tokensMoved _ source destination authority mint amount s d ne moved =>
      by_cases hs : k = source
      · rw [hs, moved.source_after] at ht
        rw [← AccountData.token.inj ht]
        have hbefore := ih moved.source_before
        exact hbefore
      · by_cases hd : k = destination
        · obtain ⟨r, -, hafter⟩ := moved.destination_after
          rw [hd, hafter] at ht
          rw [← AccountData.token.inj ht]
          have hbefore := ih moved.destination_before
          exact hbefore
        · rw [moved.others k hs hd] at ht
          exact ih ht
    | lamportsMoved ne moved =>
      rw [moved.data_eq] at ht
      exact ih ht

end Runs

end VeriAgentPay
