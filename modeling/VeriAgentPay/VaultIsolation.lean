import VeriAgentPay.LinkSettlement

/-!
# An authorization acts on its own vault only

For every successful call of a reachable ledger: what a vault loses, in tokens or lamports,
and every change of a record that belongs to it, is traced back to a root proof that commits
to that vault, to a session of that vault, or to one of the two settlements that need neither.
-/

namespace VeriAgentPay
open FixedWidth CheckedOutcome LabelledRuns

section Authorizations

variable (rt : Runtime) (ctx : Context) (c : Call) (w w' : World)

/-- A root proof under the vault's key, for an action that names the vault and its nonce. -/
structure RootAuthorizes (key : Pubkey) (vault : Vault) (action : RootAction) : Prop where
  call : ∃ proof, RootCall rt ctx c w vault.rootPublicKey action proof
  before : w.data key = .vault vault
  vault_eq : action.vault = key
  nonce_eq : action.consumedNonce = some vault.nonce

/-- Who let tokens of a vault go, and that the destination named was the one credited. -/
inductive TokensAuthorized (key : Pubkey) (vault : Vault) (mint account : Pubkey) : Prop
  | byRoot (scope : ActionScope) (destination : Pubkey) (amount nonce : UInt64)
    (proofExpiresAt : Int64)
      (authorizes : RootAuthorizes rt ctx c w key vault
        (.transfer scope key account destination mint amount nonce proofExpiresAt))
      (flow : TokenFlow w w' account destination amount.toNat)
  | bySession (sessionKey destination : Pubkey) (session : Session) (amount : ℕ) (nonce : UInt64)
      (use : SessionUse ctx w w' sessionKey key session amount nonce)
        (admitted : PolicyAdmits session amount)
      (flow : TokenFlow w w' account destination amount)

/-- Who let lamports of a vault go, and where they went: to the recipient named, or into the link
created. -/
inductive LamportsAuthorized (key : Pubkey) (vault : Vault) : Prop
  | byTransfer (scope : ActionScope) (recipient : Pubkey) (amount nonce : UInt64)
    (proofExpiresAt : Int64)
      (authorizes : RootAuthorizes rt ctx c w key vault
        (.transferSol scope key recipient amount nonce proofExpiresAt))
      (flow : LamportFlow w w' key recipient amount.toNat)
  | byLinkCreation (scope : ActionScope) (paymentLink : Pubkey) (linkId recipientCommitment :
      FixedBytes 32)
      (amount : UInt64) (expiresAt : Int64) (nonce : UInt64) (proofExpiresAt : Int64)
      (authorizes : RootAuthorizes rt ctx c w key vault
        (.createSolPaymentLink scope key paymentLink linkId
        recipientCommitment amount expiresAt nonce proofExpiresAt))
      (source : (w.lamports key).toNat = (w'.lamports key).toNat + amount.toNat)
      (credited : (w.lamports paymentLink).toNat + amount.toNat ≤ (w'.lamports paymentLink).toNat)
      (created : LinkCreated rt w w' paymentLink key defaultPubkey linkId recipientCommitment amount
        expiresAt)

/-- Who changed or created a session of a vault. -/
inductive SessionChangeAuthorized (key owner : Pubkey) : Prop
  | bySession (session : Session) (amount : ℕ) (nonce : UInt64)
      (use : SessionUse ctx w w' key owner session amount nonce)
  | byRoot (vault : Vault) (action : RootAction) (authorizes :
      RootAuthorizes rt ctx c w owner vault action)
  | byVaultCreation (vault : Vault) (action : RootAction) (proof : RootProof)
      (call : RootCall rt ctx c w vault.rootPublicKey action proof)
        (vault_eq : action.vault = owner)
      (fresh : w.data owner = .empty) (after : w'.data owner = .vault vault)

/-- Who changed or created a link of a vault. -/
inductive LinkChangeAuthorized (key owner : Pubkey) : Prop
  | bySession (sessionKey : Pubkey) (session : Session) (amount : ℕ) (nonce : UInt64)
      (use : SessionUse ctx w w' sessionKey owner session amount nonce)
      (admitted : PolicyAdmits session amount ∨ amount = 0)
  | byRootCreation (vault : Vault) (scope : ActionScope) (linkId recipientCommitment :
      FixedBytes 32)
      (amount : UInt64) (expiresAt : Int64) (nonce : UInt64) (proofExpiresAt : Int64)
      (authorizes : RootAuthorizes rt ctx c w owner vault
        (.createSolPaymentLink scope owner key linkId recipientCommitment amount expiresAt nonce
          proofExpiresAt))
  | byRootCancellation (vault : Vault) (scope : ActionScope) (nonce :
      UInt64) (proofExpiresAt : Int64)
      (authorizes : RootAuthorizes rt ctx c w owner vault
        (.cancelSolPaymentLink scope owner key nonce proofExpiresAt))
  | byClaim (link : PaymentLink) (before : w.data key = .link link) (time : w.now ≤ link.expiresAt)
      (signed : ClaimAuthoritySigned rt ctx w)
  | byRefund (link : PaymentLink) (before : w.data key = .link link) (time : link.expiresAt < w.now)

/-- The three ways a vault can lose something. -/
structure VaultIsolated (key : Pubkey) (vault : Vault) : Prop where
  record : w'.data key ≠ .vault vault → ∃ action, RootAuthorizes rt ctx c w key vault action
  tokens : ∀ mint account, associatedTokenAddress rt key mint = some account →
    w'.tokenBalance account < w.tokenBalance account →
    TokensAuthorized rt ctx c w w' key vault mint account
  lamports : (w'.lamports key).toNat < (w.lamports key).toNat →
    LamportsAuthorized rt ctx c w w' key vault

end Authorizations

section Steps

variable {rt : Runtime} {ctx : Context} {c : Call} {w w' : World} {key : Pubkey}

theorem VaultUse.authorizes {vault : Vault} {action : RootAction}
    (h : VaultUse rt ctx c w w' vault action) :
    RootAuthorizes rt ctx c w action.vault vault action :=
  ⟨h.call, h.before, rfl, h.nonce_eq⟩

/-- The vault of a use that names it is the vault at that key. -/
theorem VaultUse.authorizes_at {vault vault' : Vault} {action : RootAction}
    (h : VaultUse rt ctx c w w' vault' action) (hkey : action.vault = key)
    (hvault : w.data key = .vault vault) :
    RootAuthorizes rt ctx c w key vault action := by
  subst hkey
  obtain rfl := AccountData.vault.inj (h.before.symm.trans hvault)
  exact h.authorizes

theorem vault_isolated (hpda : PdaInjective rt) (h : exec rt ctx c w = .ok w') {vault : Vault}
    (hvault : w.data key = .vault vault) : VaultIsolated rt ctx c w w' key vault where
  record := by
    intro hchanged
    have hstep : Step rt w (.call ctx c) w' := h
    rcases step_record_before hstep hvault rfl with heq | ⟨_, _, after, he, -, -, hafter, hchange⟩
    · exact absurd heq hchanged
    · obtain ⟨rfl, rfl⟩ := Event.call.inj he
      cases hchange with
      | vaultUsed _ action key_eq use => exact ⟨action, use.authorizes_at key_eq hvault⟩
  tokens := by
    intro mint account haddress hless
    have hdebit : account ∈ c.tokenDebits := by
      by_contra hnot
      have hle := (exec_frame h).tokenBalance_le hnot
      omega
    cases exec_tokenDebit h hdebit with
    | byRoot v action use scope vaultKey destination mint' amount nonce proofExpiresAt action_eq
        address flow =>
      obtain ⟨rfl, rfl⟩ := associatedTokenAddress_inj hpda haddress address
      subst action_eq
      exact .byRoot scope destination amount nonce proofExpiresAt
        (use.authorizes_at rfl hvault) flow
    | bySession sessionKey vaultKey mint' destination session amount nonce call use admitted _
        address flow =>
      obtain ⟨rfl, rfl⟩ := associatedTokenAddress_inj hpda haddress address
      exact .bySession sessionKey destination session amount nonce use admitted flow
    | byLink key' link before written address =>
      obtain rfl := (associatedTokenAddress_inj hpda haddress address).1
      exact absurd rfl (World.ne_of_data hvault before (by simp))
  lamports := by
    intro hless
    have hdebit : key ∈ c.lamportDebits := by
      by_contra hnot
      have hle := (exec_frame h).lamports key (by simp [hvault]) hnot
      omega
    cases exec_lamportDebit h hdebit with
    | byTransfer v action use scope recipient amount nonce proofExpiresAt action_eq flow =>
      subst action_eq
      exact .byTransfer scope recipient amount nonce proofExpiresAt
        (use.authorizes_at rfl hvault) flow
    | byLinkCreation v action use scope paymentLink linkId commitment amount expiresAt nonce
        proofExpiresAt
        action_eq source credited created =>
      subst action_eq
      exact .byLinkCreation scope paymentLink linkId commitment amount expiresAt nonce
        proofExpiresAt
        (use.authorizes_at rfl hvault) source credited created
    | bySettlement link before => exact absurd rfl (World.ne_of_data hvault before (by simp))

/-- A record that a call changed is one it wrote. -/
theorem changed_of_ne (h : exec rt ctx c w = .ok w') (hne : w'.data key ≠ w.data key)
    (howned : (w.data key).programOwned = true ∨ (w'.data key).programOwned = true) :
    Changed rt ctx c w w' key := by
  have hstep : Step rt w (.call ctx c) w' := h
  rcases step_record hstep howned with heq | ⟨_, _, he, -, -, hchanged⟩
  · exact absurd heq hne
  · obtain ⟨rfl, rfl⟩ := Event.call.inj he
    exact hchanged

theorem vault_created_authorized (h : exec rt ctx c w = .ok w') {vault : Vault}
    (hafter : w'.data key = .vault vault) (hnew : (w.data key).vault? = none) :
    w.data key = .empty ∧ ∃ action proof,
      RootCall rt ctx c w vault.rootPublicKey action proof ∧ action.vault = key := by
  have hstep : Step rt w (.call ctx c) w' := h
  rcases step_record_after hstep hafter rfl with hbefore | ⟨_, _, before, he, hbefore, hchange⟩
  · simp [hbefore] at hnew
  · obtain ⟨rfl, rfl⟩ := Event.call.inj he
    cases hchange with
    | vaultCreated _ action proof call vault_eq => exact ⟨hbefore, action, proof, call, vault_eq⟩
    | vaultUsed => simp [hbefore] at hnew

theorem session_change_authorized (h : exec rt ctx c w = .ok w') {session : Session}
    (hsession : w.data key = .session session ∨ w'.data key = .session session)
    (hne : w'.data key ≠ w.data key) : SessionChangeAuthorized rt ctx c w w' key session.vault := by
  have howned : (w.data key).programOwned = true ∨ (w'.data key).programOwned = true := by
    rcases hsession with hs | hs
    · exact .inl (by rw [hs]; rfl)
    · exact .inr (by rw [hs]; rfl)
  obtain ⟨before, after, hbefore, hafter, hchange⟩ := changed_of_ne h hne howned
  rw [hbefore, hafter] at hsession
  cases hchange with
  | sessionCreated vault policy bump valid granted =>
    have hvault : session.vault = vault := by
      rcases hsession with hs | hs
      · cases hs
      · rw [← AccountData.session.inj hs]
        rfl
    rw [hvault]
    obtain ⟨v, action, proof, hcall, haction, ⟨hv, hnonce⟩ | ⟨hfresh, hv⟩⟩ := granted
    · exact .byRoot v action ⟨⟨proof, hcall⟩, hv, haction, hnonce⟩
    · exact .byVaultCreation v action proof hcall haction hfresh hv
  | sessionUsed vault s amount nonce call use =>
    have hvault : session.vault = vault := by
      rcases hsession with hs | hs
      · rw [← AccountData.session.inj hs, use.vault_eq]
      · rw [← AccountData.session.inj hs]
        exact use.vault_eq
    rw [hvault]
    exact .bySession s amount nonce use
  | _ => simp at hsession

theorem link_change_authorized (hwf : WellFormed rt w) (h : exec rt ctx c w = .ok w')
    {link : PaymentLink} (hlink : w.data key = .link link ∨ w'.data key = .link link)
    (hne : w'.data key ≠ w.data key) :
    LinkChangeAuthorized rt ctx c w w' key link.senderVault := by
  have howned : (w.data key).programOwned = true ∨ (w'.data key).programOwned = true := by
    rcases hlink with hl | hl
    · exact .inl (by rw [hl]; rfl)
    · exact .inr (by rw [hl]; rfl)
  obtain ⟨before, after, hbefore, hafter, hchange⟩ := changed_of_ne h hne howned
  rw [hbefore, hafter] at hlink
  cases hchange with
  | linkCreated bump vault mint linkId commitment amount expiresAt positive address authorized =>
    have hsender : link.senderVault = vault := by
      rcases hlink with hl | hl
      · cases hl
      · rw [← AccountData.link.inj hl]
        rfl
    rw [hsender]
    rcases authorized with ⟨sessionKey, session, nonce, -, use, admitted⟩ | ⟨v, action, scope,
      nonce, expiry, use, rfl⟩
    · exact .bySession sessionKey session _ nonce use (.inl admitted)
    · exact .byRootCreation v scope linkId commitment amount expiresAt nonce expiry use.authorizes
  | linkSettled l l' active how =>
    have hsettled := how.settledAs hwf
    have hsender : link.senderVault = l.senderVault := by
      rcases hlink with hl | hl
      · rw [← AccountData.link.inj hl]
      · have hterms := congrArg PaymentLink.senderVault hsettled.terms_eq
        rw [← AccountData.link.inj hl]
        exact hterms
    rw [hsender]
    cases how with
    | claimed recipientVault signed time =>
      obtain ⟨k, authority, hk, hsigner, -⟩ := signed
      exact .byClaim l hbefore time ⟨k, authority, hwf.claimAuthority k authority hk, hk, hsigner⟩
    | cancelledBySession sessionKey session nonce use =>
      exact .bySession sessionKey session 0 nonce use (.inr rfl)
    | cancelledByRoot v action use scope nonce expiry action_eq =>
      subst action_eq
      exact .byRootCancellation v scope nonce expiry use.authorizes
    | refunded time => exact .byRefund l hbefore time
  | _ => simp at hlink

/-- Isolation of the vaults in every reachable ledger, for every successful call. -/
theorem authorization_isolated {start : World} {tr : List (Transition World Event)}
    (hpda : PdaInjective rt) (hgenesis : Genesis start) (hrun : Run (Step rt) start tr w)
    (h : exec rt ctx c w = .ok w') :
    (∀ key vault, w.data key = .vault vault → VaultIsolated rt ctx c w w' key vault) ∧
    (∀ key vault, w'.data key = .vault vault → (w.data key).vault? = none → w.data key = .empty ∧
      ∃ action proof, RootCall rt ctx c w vault.rootPublicKey action proof ∧ action.vault = key) ∧
    (∀ key session, w.data key = .session session ∨ w'.data key = .session session →
      w'.data key ≠ w.data key → SessionChangeAuthorized rt ctx c w w' key session.vault) ∧
    ∀ key link, w.data key = .link link ∨ w'.data key = .link link →
      w'.data key ≠ w.data key → LinkChangeAuthorized rt ctx c w w' key link.senderVault := by
  refine ⟨?_, ?_, ?_, ?_⟩
  · intro key vault hvault
    exact vault_isolated hpda h hvault
  · intro key vault hafter hnew
    exact vault_created_authorized h hafter hnew
  · intro key session hsession hne
    exact session_change_authorized h hsession hne
  · intro key link hlink hne
    exact link_change_authorized (wellFormed_of_run hgenesis hrun) h hlink hne

/-- The fourth call cancels the link. -/
def Devnet.cancelsTokenLink (w : World) : Bool :=
  match Devnet.calls[3]? with
  | some (ctx, c) =>
    match exec Devnet.runtime ctx c w with
    | .ok w' => (w'.data Devnet.tokenLink).link?.any fun link =>
      link.status = paymentLinkStatusCancelled ∧ w.data Devnet.tokenLink ≠ .link link
    | .error _ => false
  | none => false

theorem authorization_isolated_devnet : ∃ ctx c w w' link, exec Devnet.runtime ctx c w = .ok w' ∧
    w'.data Devnet.tokenLink = .link link ∧ link.status = paymentLinkStatusCancelled ∧
    LinkChangeAuthorized Devnet.runtime ctx c w w' Devnet.tokenLink link.senderVault := by
  obtain ⟨tr, w, hrun, hw⟩ :=
    Devnet.reached 3 (p := fun _ => Devnet.cancelsTokenLink) (by decide +kernel)
  unfold Devnet.cancelsTokenLink at hw
  split at hw
  · rename_i ctx c _
    split at hw
    · rename_i w' hexec
      obtain ⟨link, hlink, hvalues⟩ := (Option.any_eq_true _ _).mp hw
      obtain ⟨hstatus, hne⟩ := of_decide_eq_true hvalues
      rw [AccountData.link?_eq_some] at hlink
      have hisolated := authorization_isolated Devnet.pdaInjective Devnet.genesis_fresh hrun hexec
      exact ⟨ctx, c, w, w', link, hexec, hlink, hstatus,
        hisolated.2.2.2 _ link (.inr hlink) (by rw [hlink]; exact hne.symm)⟩
    · cases hw
  · cases hw

end Steps

end VeriAgentPay
