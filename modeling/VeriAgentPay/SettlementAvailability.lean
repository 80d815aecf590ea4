import Mathlib.Algebra.BigOperators.Group.Finset.Piecewise
import Mathlib.Algebra.Order.BigOperators.Group.Finset
import VeriAgentPay.EscrowSolvency
import VeriAgentPay.RecordHistories
import VeriAgentPay.SupplyConservation

/-!
# No active link is ever stuck

In every reachable ledger an active link can be settled. A native link that has expired is
refunded by anyone, and one that has not is claimed into any vault that exists by the claim
authority. An expired stablecoin link is refunded by anyone while its mint exists and the
two token accounts are not frozen. Only supplies that do not fit a machine word stand in the way.
-/

namespace VeriAgentPay
open FixedWidth CheckedOutcome LabelledRuns

/-- Where there is a vault there is a configuration. -/
def Configured (w : World) : Prop := ∀ key v, w.data key = .vault v → ∃ k c, w.data k = .config c

/-- The token account a stablecoin link was funded from, and the configuration that names its
mint. -/
structure Returnable (rt : Runtime) (w : World) (link : PaymentLink) : Prop where
  config : ∃ k c, w.data k = .config c ∧ c.stablecoinMint = link.mint
  account : ∃ k t, associatedTokenAddress rt link.senderVault link.mint = some k ∧
    w.data k = .token t ∧
    t.mint = link.mint ∧ t.owner = link.senderVault

section Steps

variable {rt : Runtime} {ctx : Context} {c : Call} {w w' : World} {e : Event} {key : Pubkey}

theorem step_config_kept (h : Step rt w e w') {config : ProtocolConfig}
    (hconfig : w.data key = .config config) :
    w'.data key = .config config := by
  have hevolves : Evolves (w.data key) (w'.data key) := step_evolves h (by rw [hconfig]; rfl)
  rw [hconfig] at hevolves
  cases hafter : w'.data key with
  | config c =>
    rw [hafter] at hevolves
    cases hevolves
    rfl
  | _ =>
    rw [hafter] at hevolves
    cases hevolves

theorem Configured.step (hconfigured : Configured w) (h : Step rt w e w') : Configured w' := by
  intro key v hafter
  have hbefore : ∃ k c, w.data k = .config c := by
    rcases step_record_after h hafter rfl with hbefore | ⟨ctx, c, before, -, hbefore, hchange⟩
    · exact hconfigured key v hbefore
    · cases hchange with
      | vaultCreated _ action proof call vault_eq nonce_eq nonce rent =>
        obtain ⟨config, -, hverified⟩ := call.verified
        exact ⟨_, config, hverified.config_at⟩
      | vaultUsed vault action key_eq use n next => exact hconfigured key vault hbefore
  obtain ⟨k, config, hconfig⟩ := hbefore
  exact ⟨k, config, step_config_kept h hconfig⟩

/-- A token account of one of this program's addresses stays one. -/
theorem step_token_kept (h : Step rt w e w') {t : TokenAccount} (ht : w.data key = .token t)
    (howner : IsProgramAddress rt t.owner) :
    ∃ t', w'.data key = .token t' ∧ t'.mint = t.mint ∧ t'.owner = t.owner := by
  cases e with
  | call ctx c =>
    obtain ⟨t', ht', hmint, howner', -⟩ := (exec_frame h).token key t ht
    exact ⟨t', ht', hmint, howner'⟩
  | env =>
    obtain ⟨t', ht', hmint, howner', -⟩ := EnvStep.token_kept h key t ht howner
    exact ⟨t', ht', hmint, howner'⟩

theorem isProgramAddress_of_vault (hall : ∀ k, Canonical rt k (w.data k)) {v : Vault}
    (hv : w.data key = .vault v) :
    IsProgramAddress rt key := by
  have hcanonical := hall key
  rw [hv] at hcanonical
  exact ⟨_, createProgramAddress_of_find hcanonical⟩

theorem Returnable.step {link : PaymentLink} (hr : Returnable rt w link) (h : Step rt w e w')
    (howner : IsProgramAddress rt link.senderVault) : Returnable rt w' link := by
  obtain ⟨⟨k, c, hc, hmint⟩, k', t, haddress, ht, htmint, htowner⟩ := hr
  obtain ⟨t', ht', htmint', htowner'⟩ := step_token_kept h ht (htowner ▸ howner)
  exact ⟨⟨k, c, step_config_kept h hc, hmint⟩, k', t', haddress, ht', htmint'.trans htmint,
    htowner'.trans htowner⟩

/-- What the instruction that funds a stablecoin link leaves for the way back. -/
theorem createPaymentLinkWithSession_returnable {a : CreatePaymentLinkWithSession}
    {args : CreatePaymentLinkWithSessionArgs}
    (h : createPaymentLinkWithSession rt ctx a args w = .ok w') :
    (∃ c, w.data a.config = .config c ∧ c.stablecoinMint = a.stablecoinMint) ∧
      ∃ t, associatedTokenAddress rt a.vault a.stablecoinMint = some a.vaultTokenAccount ∧
        w.data a.vaultTokenAccount = .token t ∧ t.mint = a.stablecoinMint ∧ t.owner = a.vault := by
  have hframe := (exec_frame (c := .createPaymentLinkWithSession a args) h).token
  simp only [createPaymentLinkWithSession, bind_eq_ok, load_eq_ok, AccountData.config?_eq_some,
    AccountData.token?_eq_some, requireStablecoinAddress_eq_ok, requireAssociatedToken_eq_ok,
    require_eq_ok, pure_eq_ok,
    exists_unit] at h
  obtain ⟨config, hconfig, vault, -, session, -, -, mint, -, vaultToken, hvaultToken, w₁, hinit, w₂,
    hescrow, -, -, -, -,
    -, hmint, ⟨howner, haddress⟩, -, -, -, session', -, w₃, htransfer, -⟩ := h
  refine ⟨⟨config, hconfig, hmint.symm⟩, vaultToken, haddress, hvaultToken, ?_, howner⟩
  obtain ⟨bump, -, -, hcreated⟩ := initAccount_ok hinit
  obtain ⟨-, hcreated'⟩ := createAssociatedToken_ok hescrow
  -- the account existed before the link and its escrow were allocated
  obtain ⟨t, ht, htmint, -⟩ :=
    ((hcreated.frame (by simp)).trans hcreated'.frame_token).token _ _ hvaultToken
  have hne : a.vaultTokenAccount ≠ a.escrowTokenAccount := by
    obtain ⟨t₁, ht₁, -⟩ := (hcreated.frame (by simp)).token _ _ hvaultToken
    exact World.ne_of_data ht₁ hcreated'.fresh (by simp)
  obtain ⟨s, d, hmoved⟩ := transferCheckedSigned_ok hne htransfer
  obtain rfl : t = s := AccountData.token.inj (ht.symm.trans hmoved.source_before)
  exact htmint.symm.trans hmoved.mint_eq

/-- A new link is native, or it is the one a session funded. -/
theorem new_link_origin (h : exec rt ctx c w = .ok w') {link : PaymentLink}
    (hfresh : w.data key = .empty) (hafter : w'.data key = .link link) :
    link.mint = defaultPubkey ∨ ∃ a args,
      c = .createPaymentLinkWithSession a args ∧ link.senderVault = a.vault ∧
      link.mint = a.stablecoinMint := by
  have hkey : key ∈ c.writes := by
    by_contra hkey
    have hkept := (exec_frame h).fresh key hkey (by rw [hafter]; rfl)
    rw [hafter, hfresh] at hkept
    cases hkept
  obtain ⟨before, after, hbefore, hafter', hchange⟩ := exec_write h hkey
  obtain rfl := hafter'.symm.trans hafter
  cases hchange with
  | linkSettled old _ active how => cases hfresh.symm.trans hbefore
  | linkCreated bump vault mint linkId commitment amount expiresAt positive address
      authorized funded =>
    rcases authorized with ⟨sessionKey, session, nonce, hcall, use, -⟩ | ⟨v, action, scope, nonce,
      expires, use, rfl⟩
    · cases c with
      | createPaymentLinkWithSession a args =>
        obtain ⟨session', huse, -, -, hcreated, -⟩ := createPaymentLinkWithSession_ok h
        have hne : key ≠ a.session := World.ne_of_data hfresh huse.before (by simp)
        obtain rfl : key = a.paymentLink := by simpa [Call.writes, hne] using hkey
        obtain ⟨bump', hlink⟩ := hcreated.after
        rw [hlink, AccountData.link.injEq] at hafter
        exact .inr ⟨a, args, rfl, by rw [← hafter]; rfl, by rw [← hafter]; rfl⟩
      | transferWithSession a args =>
        obtain ⟨session', huse, -⟩ := transferWithSession_ok h
        obtain rfl := List.mem_singleton.mp hkey
        cases hfresh.symm.trans huse.before
      | cancelPaymentLinkWithSession a args =>
        simp only [Call.sessionUse?, Option.some.injEq, Prod.mk.injEq] at hcall
        omega
      | _ => cases hcall
    · obtain ⟨proof, -, config, haction, -⟩ := use.call
      cases c with
      | createSolPaymentLinkWithPasskey a args =>
        obtain ⟨-, -, -, hcreated, -⟩ := createSolPaymentLinkWithPasskey_ok h
        simp only [Call.rootAction?, Option.some.injEq,
          RootAction.createSolPaymentLink.injEq] at haction
        obtain ⟨-, -, rfl, -⟩ := haction
        obtain ⟨bump', hlink⟩ := hcreated.after
        rw [hlink, AccountData.link.injEq] at hafter
        rw [← hafter]
        exact .inl rfl
      | _ => simp [Call.rootAction?] at haction

/-- Every stablecoin link of a ledger has its way back. -/
def AllReturnable (rt : Runtime) (w : World) : Prop :=
  ∀ key link, w.data key = .link link → link.mint ≠ defaultPubkey → Returnable rt w link

theorem Returnable.congr {link link' : PaymentLink} (h : Returnable rt w link)
    (hterms : link'.terms = link.terms) :
    Returnable rt w link' := by
  have hmint : link'.mint = link.mint := by
    simpa [PaymentLink.terms] using congrArg PaymentLink.mint hterms
  have hsender : link'.senderVault = link.senderVault := by
    simpa [PaymentLink.terms] using congrArg PaymentLink.senderVault hterms
  exact ⟨hmint ▸ h.config, hmint ▸ hsender ▸ h.account⟩

theorem AllReturnable.step (hr : AllReturnable rt w) (hall : ∀ k, Canonical rt k (w.data k))
    (hg : Grounded w) (h : Step rt w e w') : AllReturnable rt w' := by
  intro key link hafter hmint
  have hkept : ∀ {old : PaymentLink}, w.data key = .link old → old.mint ≠ defaultPubkey →
      Returnable rt w' old := by
    intro old hold hne
    obtain ⟨v, hv⟩ := hg.sender key old hold
    exact (hr key old hold hne).step h (isProgramAddress_of_vault hall hv)
  rcases step_record_after h hafter rfl with hbefore | ⟨ctx, c, before, he, hbefore, hchange⟩
  · exact hkept hbefore hmint
  · cases hchange with
    | linkSettled old _ active how =>
      have hterms := how.terms_eq
      have holdMint : old.mint = link.mint := by
        simpa [PaymentLink.terms] using (congrArg PaymentLink.mint hterms).symm
      exact (hkept hbefore (holdMint ▸ hmint)).congr hterms
    | linkCreated bump vault mint linkId commitment amount expiresAt positive address
        authorized funded =>
      subst he
      rcases new_link_origin h hbefore hafter with hnative | ⟨a, args, rfl, hsender, hlinkMint⟩
      · exact absurd hnative hmint
      · obtain ⟨⟨config, hconfig, hstablecoin⟩, t, haddress, ht, htmint, htowner⟩ :=
          createPaymentLinkWithSession_returnable h
        obtain ⟨-, -, -, ⟨v, hv⟩, -⟩ := createPaymentLinkWithSession_ok h
        rw [← hsender] at haddress htowner hv
        rw [← hlinkMint] at haddress htmint hstablecoin
        have hreturnable : Returnable rt w _ :=
          ⟨⟨_, config, hconfig, hstablecoin⟩, _, t, haddress, ht, htmint, htowner⟩
        exact hreturnable.step h (isProgramAddress_of_vault hall hv)

end Steps

/-- What the store of every reachable ledger is like. -/
structure Serviceable (rt : Runtime) (w : World) : Prop where
  canonical : ∀ k, Canonical rt k (w.data k)
  grounded : Grounded w
  configured : Configured w
  returnable : AllReturnable rt w

theorem serviceable_of_run {rt : Runtime} {start w : World} {tr : List (Transition World Event)}
    (hgenesis : Genesis start) (hrun : Run (Step rt) start tr w) : Serviceable rt w := by
  refine hrun.invariant (I := Serviceable rt) ?_ ?_
  · have hnone := hgenesis.no_records
    refine ⟨fun k => canonical_of_not_owned (hnone k), hgenesis.grounded, ?_, ?_⟩
    · intro key v hv
      simpa [hv, AccountData.programOwned] using hnone key
    · intro key link hlink
      simpa [hlink, AccountData.programOwned] using hnone key
  · intro u e v hs hstep
    exact ⟨step_canonical hstep hs.canonical, hs.grounded.step hstep, hs.configured.step hstep,
      hs.returnable.step hs.canonical hs.grounded hstep⟩

section Payments

variable {rt : Runtime} {ctx : Context} {w : World} {key : Pubkey} {link : PaymentLink}

theorem checkedAdd_isSome {a b : UInt64} (h : a.toNat + b.toNat < 2 ^ 64) :
    ∃ r, checkedAdd a b = some r :=
  ⟨a + b, if_pos h⟩

/-- Lamports that are there and spare can move: the receiver cannot hold more than there is. -/
theorem transferProgramLamports_succeeds {source destination : Pubkey} {amount : UInt64}
    {e : VeriAgentError} (hne : source ≠ destination)
    (hfunds : rentMinimum rt (w.data source) + amount.toNat ≤ (w.lamports source).toNat)
    (hroom : w.lamportSupply < 2 ^ 64) :
    ∃ w', transferProgramLamports rt w source destination amount e = .ok w' := by
  have hle : amount ≤ w.lamports source := UInt64.le_iff_toNat_le.mpr (by omega)
  have hpair : (w.lamports source).toNat + (w.lamports destination).toNat ≤ w.lamportSupply :=
    pair_le_sum (f := fun k => (w.lamports k).toNat) hne
  obtain ⟨received, hreceived⟩ : ∃ r, checkedAdd (w.lamports destination) amount = some r :=
    checkedAdd_isSome (by omega)
  have hreserve : ¬w.lamports source - amount < rt.minimumBalance (w.data source).dataLen := by
    rw [UInt64.lt_iff_toNat_lt, UInt64.toNat_sub_of_le _ _ hle]
    simp only [rentMinimum] at hfunds
    omega
  simp only [transferProgramLamports, bind_eq_ok, orError_eq_ok, require_eq_ok, pure_eq_ok,
    exists_unit]
  exact ⟨_, _, if_pos hle, hreserve, received, hreceived, rfl⟩

/-- Tokens that are there can move between two accounts of their mint that are not frozen. -/
theorem transferCheckedSigned_succeeds {source mint destination authority : Pubkey}
    {signerSeeds : List Bytes} {bump : UInt8} {amount : UInt64} {m : Mint} {s d : TokenAccount}
    (hsigner : rt.createProgramAddress rt.programId (signerSeeds.flatten ++ [bump]) =
      some authority)
    (hs : w.data source = .token s) (hd : w.data destination = .token d)
    (hm : w.data mint = .mint m) (hthawed : s.frozen = false ∧ d.frozen = false)
    (hfunds : amount.toNat ≤ s.amount.toNat) (hsmint : s.mint = mint) (hdmint : d.mint = mint)
    (howner : s.owner = authority) (hne : source ≠ destination)
    (hroom : w.tokenSupply mint < 2 ^ 64) :
    ∃ w', transferCheckedSigned rt w source mint destination authority signerSeeds bump amount
      m.decimals = .ok w' := by
  have hpair : w.tokensOf mint source + w.tokensOf mint destination ≤ w.tokenSupply mint :=
    pair_le_sum hne
  rw [World.tokensOf_token hs, World.tokensOf_token hd, if_pos hsmint, if_pos hdmint] at hpair
  obtain ⟨received, hreceived⟩ : ∃ r, checkedAdd d.amount amount = some r :=
    checkedAdd_isSome (by omega)
  simp only [transferCheckedSigned, transferChecked, bind_eq_ok, orError_eq_ok, require_eq_ok,
    load_eq_ok,
    AccountData.token?_eq_some, AccountData.mint?_eq_some, if_neg hne, pure_eq_ok, exists_unit]
  exact ⟨_, hsigner, s, hs, d, hd, hthawed, UInt64.le_iff_toNat_le.mpr hfunds,
    ⟨hsmint.trans hdmint.symm, hsmint⟩, m, hm,
    rfl, howner, received, hreceived, rfl⟩

/-- The configuration of a store that has a vault, with what the instructions check of it. -/
theorem Serviceable.config_checks (hs : Serviceable rt w) {v : Vault} (hv : w.data key = .vault v) :
    ∃ k c, w.data k = .config c ∧ requireConfig rt c k = .ok () ∧ requireUnpaused c = .ok () := by
  obtain ⟨k, c, hc⟩ := hs.configured key v hv
  have hcanonical := hs.canonical k
  rw [hc] at hcanonical
  exact ⟨k, c, hc, require_eq_ok.mpr (createProgramAddress_of_find hcanonical.1),
    require_eq_ok.mpr hcanonical.2⟩

theorem Serviceable.vault_checks (hs : Serviceable rt w) {v : Vault} (hv : w.data key = .vault v) :
    requireVault rt v key = .ok () := by
  have hcanonical := hs.canonical key
  rw [hv] at hcanonical
  exact require_eq_ok.mpr (createProgramAddress_of_find hcanonical)

theorem Serviceable.link_checks (hs : Serviceable rt w) (hlink : w.data key = .link link) :
    requirePaymentLink rt link key link.senderVault = .ok () := by
  have hcanonical := hs.canonical key
  rw [hlink] at hcanonical
  exact require_eq_ok.mpr (createProgramAddress_of_find hcanonical)

/-- Before it expires the claim authority can claim a native link for anyone, after that anyone can
refund it. -/
theorem native_links_settleable {start : World} {tr : List (Transition World Event)}
    (hpda : PdaInjective rt) (hgenesis : Genesis start) (hrun : Run (Step rt) start tr w)
    (hlink : w.data key = .link link) (hactive : link.status = paymentLinkStatusActive)
    (hnative : link.mint = defaultPubkey) (hroom : w.lamportSupply < 2 ^ 64) :
    (link.expiresAt < w.now → ∃ config w',
      exec rt ctx (.refundExpiredSolPaymentLink ⟨config, link.senderVault, key⟩) w = .ok w' ∧
        w'.data key = .link (link.refunded w.now) ∧
        NativeEscrowPaid w w' key link.senderVault link) ∧
    (w.now ≤ link.expiresAt → ∀ authorityKey authority recipient v,
      w.data authorityKey = .claimAuthority authority → authority.authority ∈ ctx.signers →
      w.data recipient = .vault v → ∃ config w',
        exec rt ctx (.claimSolPaymentLink ⟨authority.authority, config, authorityKey, recipient,
          key⟩) w = .ok w' ∧
          w'.data key = .link (link.claimed w.now recipient) ∧
          NativeEscrowPaid w w' key recipient link) := by
  have hs : Serviceable rt w := serviceable_of_run hgenesis hrun
  have hfunds : rentMinimum rt (w.data key) + link.amount.toNat ≤ (w.lamports key).toNat := by
    rw [hlink]
    exact (solvent_of_run hpda hgenesis hrun).native key link hlink hactive hnative
  have hdistinct : ∀ {k : Pubkey} {v : Vault}, w.data k = .vault v → key ≠ k :=
    fun hv => World.ne_of_data hlink hv (by simp)
  constructor
  · intro hexpired
    obtain ⟨v, hv⟩ := hs.grounded.sender key link hlink
    obtain ⟨config, c, hc, hconfig, -⟩ := hs.config_checks hv
    obtain ⟨w₁, hmoved⟩ := transferProgramLamports_succeeds (e := .insufficientEscrowLamports)
      (hdistinct hv) hfunds hroom
    have hok : exec rt ctx (.refundExpiredSolPaymentLink ⟨config, link.senderVault, key⟩) w =
        .ok (w₁.setData key (.link (link.refunded w.now))) := by
      simp only [exec, refundExpiredSolPaymentLink, bind_eq_ok, load_eq_ok,
        AccountData.config?_eq_some,
        AccountData.vault?_eq_some, AccountData.link?_eq_some, requireLinkSender_eq_ok,
        requireNativeLink_eq_ok,
        requireActiveLink_eq_ok, require_eq_ok, pure_eq_ok, exists_unit]
      exact ⟨c, hc, v, hv, link, hlink, hconfig, hs.vault_checks hv, rfl, hs.link_checks hlink,
        hnative, hactive, hexpired, w₁, hmoved,
        rfl⟩
    obtain ⟨link', hsettled, -, -, -, hpaid, -⟩ := refundExpiredSolPaymentLink_ok hok
    obtain rfl : link' = link := AccountData.link.inj (hsettled.before.symm.trans hlink)
    exact ⟨config, _, hok, hsettled.after, hpaid⟩
  · intro hopen authorityKey authority recipient v hauthority hsigned hv
    obtain ⟨config, c, hc, hconfig, hunpaused⟩ := hs.config_checks hv
    obtain ⟨w₁, hmoved⟩ := transferProgramLamports_succeeds (e := .insufficientEscrowLamports)
      (hdistinct hv) hfunds hroom
    have hclaim : requireClaimAuthority rt authority authorityKey authority.authority = .ok () := by
      have hcanonical := hs.canonical authorityKey
      rw [hauthority] at hcanonical
      simp only [requireClaimAuthority, requireSeeds, bind_eq_ok, require_eq_ok, exists_const]
      exact ⟨createProgramAddress_of_find hcanonical, trivial⟩
    have hok : exec rt ctx
        (.claimSolPaymentLink ⟨authority.authority, config, authorityKey, recipient, key⟩) w =
        .ok (w₁.setData key (.link (link.claimed w.now recipient))) := by
      simp only [exec, claimSolPaymentLink, bind_eq_ok, load_eq_ok, AccountData.config?_eq_some,
        AccountData.claimAuthority?_eq_some, AccountData.vault?_eq_some, AccountData.link?_eq_some,
        requireSigner_eq_ok, requireNativeLink_eq_ok, requireActiveLink_eq_ok, require_eq_ok,
        pure_eq_ok, exists_unit]
      exact ⟨hsigned, c, hc, authority, hauthority, v, hv, link, hlink, hconfig, hunpaused, hclaim,
        hs.vault_checks hv,
        hs.link_checks hlink, hnative, hactive, hopen, w₁, hmoved, rfl⟩
    obtain ⟨link', hsettled, -, -, -, hpaid, -⟩ := claimSolPaymentLink_ok hok
    obtain rfl : link' = link := AccountData.link.inj (hsettled.before.symm.trans hlink)
    exact ⟨config, _, hok, hsettled.after, hpaid⟩

/-- An expired stablecoin link is refunded by anyone while the token program lets its tokens
move. -/
theorem token_links_refundable {start : World} {tr : List (Transition World Event)}
    (hpda : PdaInjective rt) (hgenesis : Genesis start) (hrun : Run (Step rt) start tr w)
    (hlink : w.data key = .link link) (hactive : link.status = paymentLinkStatusActive)
    (htoken : link.mint ≠ defaultPubkey) (hexpired : link.expiresAt < w.now)
    (hmint : ∃ m, w.data link.mint = .mint m)
    (hthawed : ∀ k t, w.data k = .token t → t.mint = link.mint → t.owner = key ∨
      t.owner = link.senderVault →
      t.frozen = false) (hroom : w.tokenSupply link.mint < 2 ^ 64) :
    ∃ config escrow account w', exec rt ctx
        (.refundExpiredPaymentLink ⟨config, link.senderVault, key, link.mint, escrow, account⟩)
          w = .ok w' ∧
      w'.data key = .link (link.refunded w.now) ∧
      TokenEscrowPaid rt w w' key link.senderVault link := by
  have hs : Serviceable rt w := serviceable_of_run hgenesis hrun
  obtain ⟨m, hm⟩ := hmint
  obtain ⟨v, hv⟩ := hs.grounded.sender key link hlink
  obtain ⟨⟨config, c, hc, hstablecoin⟩, account, d, haddress, hd, hdmint, hdowner⟩ :=
    hs.returnable key link hlink htoken
  obtain ⟨escrow, s, hescrow, hsource, hsmint, hsowner, hfunds⟩ :=
    (solvent_of_run hpda hgenesis hrun).token key link hlink hactive htoken
  have hconfig : requireConfig rt c config = .ok () := by
    have hcanonical := hs.canonical config
    rw [hc] at hcanonical
    exact require_eq_ok.mpr (createProgramAddress_of_find hcanonical.1)
  have hne : escrow ≠ account := by
    refine World.ne_of_data hsource hd ?_
    intro heq
    rw [AccountData.token.inj heq, hdowner] at hsowner
    exact World.ne_of_data hlink hv (by simp) hsowner.symm
  have hsigner := require_eq_ok.mp (hs.link_checks hlink)
  obtain ⟨w₁, hmoved⟩ := transferCheckedSigned_succeeds hsigner hsource hd hm
    ⟨hthawed escrow s hsource hsmint (.inl hsowner),
      hthawed account d hd hdmint (.inr hdowner)⟩ hfunds hsmint hdmint
    hsowner hne hroom
  have hok : exec rt ctx
      (.refundExpiredPaymentLink ⟨config, link.senderVault, key, link.mint, escrow, account⟩) w =
      .ok (w₁.setData key (.link (link.refunded w.now))) := by
    simp only [exec, refundExpiredPaymentLink, bind_eq_ok, load_eq_ok, AccountData.config?_eq_some,
      AccountData.vault?_eq_some, AccountData.link?_eq_some, AccountData.mint?_eq_some,
      AccountData.token?_eq_some,
      requireLinkSender_eq_ok, requireLinkMint_eq_ok, requireStablecoinAddress_eq_ok,
      requireAssociatedToken_eq_ok,
      requireActiveLink_eq_ok, require_eq_ok, pure_eq_ok, exists_unit]
    exact ⟨c, hc, v, hv, link, hlink, m, hm, s, hsource, d, hd, hconfig, hs.vault_checks hv, rfl,
      hs.link_checks hlink, rfl,
      hstablecoin.symm, ⟨hsowner, hescrow⟩, ⟨hdowner, haddress⟩, hactive, hexpired, w₁, hmoved, rfl⟩
  obtain ⟨link', hsettled, -, -, -, -, -, hpaid, -⟩ := refundExpiredPaymentLink_ok hok
  obtain rfl : link' = link := AccountData.link.inj (hsettled.before.symm.trans hlink)
  exact ⟨config, escrow, account, _, hok, hsettled.after, hpaid⟩

end Payments

namespace Devnet

/-- The accounts of the genesis hold less than twenty-two SOL together. -/
theorem genesis_lamportSupply : genesis.lamportSupply < 2 ^ 64 := by
  have hle : ∀ k, (genesis.lamports k).toNat ≤ (if k = payer then 10000000000 else 0) +
      (if k = secondPayer then 10000000000 else 0) + (if k = vault then 1000000000 else 0) +
      (if k = vaultTokenAccount then 2039280 else 0) := by
    intro k
    simp only [genesis]
    split_ifs <;> simp_all
  have hsum := Finset.sum_le_sum fun k (_ : k ∈ Finset.univ) => hle k
  simp only [Finset.sum_add_distrib, Finset.sum_ite_eq', Finset.mem_univ, if_true] at hsum
  exact lt_of_le_of_lt hsum (by norm_num)

theorem genesis_tokenSupply (mint : Pubkey) : genesis.tokenSupply mint < 2 ^ 64 := by
  have hle : ∀ k, genesis.tokensOf mint k ≤ if k = vaultTokenAccount then 50000000 else 0 := by
    intro k
    unfold World.tokensOf
    simp only [genesis]
    split_ifs <;> simp_all
    split_ifs <;> simp
  have hsum := Finset.sum_le_sum fun k (_ : k ∈ Finset.univ) => hle k
  simp only [Finset.sum_ite_eq', Finset.mem_univ, if_true] at hsum
  exact lt_of_le_of_lt hsum (by norm_num)

theorem genesis_thawed : ∀ k t, genesis.data k = .token t → t.frozen = false := by
  intro k t ht
  simp only [genesis] at ht
  split_ifs at ht
  rw [← AccountData.token.inj ht]

/-- The clock of the ledger after a day and a second. -/
def tomorrow (w : World) : World := { w with now := 1750086401 }

theorem tomorrow_step {w : World} (h : w.now = now) : EnvStep runtime w (tomorrow w) where
  time := by
    rw [h]
    show now ≤ 1750086401
    decide
  record_kept _ _ := rfl
  record_lamports _ _ := le_rfl
  not_forged _ _ := rfl
  token_kept _ t ht _ := ⟨t, ht, rfl, rfl, le_rfl⟩
  system_kept h := h

end Devnet

/-- The link that the vault funded, refunded the day after. -/
theorem native_links_settleable_devnet :
    ∃ tr w config w', Run (Step Devnet.runtime) Devnet.genesis tr w ∧
    exec Devnet.runtime ⟨[], [], 0⟩
      (.refundExpiredSolPaymentLink ⟨config, Devnet.vault, Devnet.solLink⟩) w = .ok w' := by
  obtain ⟨tr, w, hrun, hw⟩ := Devnet.reached 5
    (p := fun tr w => tr.all (fun t => !t.event.isEnv) && decide (w.now = Devnet.now) &&
      (w.data Devnet.solLink).link?.any fun link => link.status = 0 ∧ link.mint = defaultPubkey ∧
        link.expiresAt < 1750086401 ∧ link.senderVault = Devnet.vault)
    (by decide +kernel)
  rw [Bool.and_eq_true_iff, Bool.and_eq_true_iff] at hw
  obtain ⟨⟨hcalls, hnow⟩, hlink⟩ := hw
  obtain ⟨link, hlink, hvalues⟩ := (Option.any_eq_true _ _).mp hlink
  obtain ⟨hstatus, hmint, hexpired, hsender⟩ := of_decide_eq_true hvalues
  rw [AccountData.link?_eq_some] at hlink
  have heffects := effects_of_calls hrun fun t ht => by simpa using List.all_eq_true.mp hcalls t ht
  have hstep : Step Devnet.runtime w .env (Devnet.tomorrow w) :=
    Devnet.tomorrow_step (of_decide_eq_true hnow)
  have hroom : (Devnet.tomorrow w).lamportSupply < 2 ^ 64 :=
    heffects.lamportSupply.trans_lt Devnet.genesis_lamportSupply
  obtain ⟨config, w', hok, -⟩ := (native_links_settleable
    Devnet.pdaInjective Devnet.genesis_fresh (hrun.snoc hstep) hlink hstatus hmint hroom).1 hexpired
  rw [hsender] at hok
  exact ⟨_, _, config, w', hrun.snoc hstep, hok⟩

/-- The link that the session funded, refunded the day after. -/
theorem token_links_refundable_devnet :
    ∃ tr w config escrow account w', Run (Step Devnet.runtime) Devnet.genesis tr w ∧
    exec Devnet.runtime ⟨[], [], 0⟩ (.refundExpiredPaymentLink
      ⟨config, Devnet.vault, Devnet.tokenLink, Devnet.stablecoinMint, escrow, account⟩) w =
        .ok w' := by
  obtain ⟨tr, w, hrun, hw⟩ := Devnet.reached 3
    (p := fun tr w => tr.all (fun t => !t.event.isEnv) && decide (w.now = Devnet.now) &&
      (w.data Devnet.stablecoinMint).mint?.isSome && (w.data Devnet.tokenLink).link?.any
        fun link => link.status = 0 ∧
        link.mint = Devnet.stablecoinMint ∧ link.expiresAt < 1750086401 ∧
        link.senderVault = Devnet.vault)
    (by decide +kernel)
  rw [Bool.and_eq_true_iff, Bool.and_eq_true_iff, Bool.and_eq_true_iff] at hw
  obtain ⟨⟨⟨hcalls, hnow⟩, hmint⟩, hlink⟩ := hw
  obtain ⟨link, hlink, hvalues⟩ := (Option.any_eq_true _ _).mp hlink
  obtain ⟨hstatus, hlinkMint, hexpired, hsender⟩ := of_decide_eq_true hvalues
  obtain ⟨m, hm⟩ := Option.isSome_iff_exists.mp hmint
  rw [AccountData.mint?_eq_some, ← hlinkMint] at hm
  rw [AccountData.link?_eq_some] at hlink
  have heffects := effects_of_calls hrun fun t ht => by simpa using List.all_eq_true.mp hcalls t ht
  have hstep : Step Devnet.runtime w .env (Devnet.tomorrow w) :=
    Devnet.tomorrow_step (of_decide_eq_true hnow)
  have hroom : (Devnet.tomorrow w).tokenSupply link.mint < 2 ^ 64 :=
    (heffects.tokenSupply link.mint).trans_lt (Devnet.genesis_tokenSupply link.mint)
  have htoken : link.mint ≠ defaultPubkey := by
    rw [hlinkMint]
    decide
  obtain ⟨config, escrow, account, w', hok, -⟩ := token_links_refundable
    Devnet.pdaInjective Devnet.genesis_fresh (hrun.snoc hstep) hlink hstatus htoken hexpired ⟨m, hm⟩
    (fun k t ht _ _ => heffects.thawed Devnet.genesis_thawed ht) hroom
  rw [hsender, hlinkMint] at hok
  exact ⟨_, _, config, escrow, account, w', hrun.snoc hstep, hok⟩

end VeriAgentPay
