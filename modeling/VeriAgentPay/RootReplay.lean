import VeriAgentPay.LedgerRuns

/-!
# A root proof authorises one action

Accepted client data names one challenge, a challenge is the hash of one action, and an
action that was carried out cannot be carried out again: its vault exists from then on, with
a nonce above the one it consumed.
-/

namespace VeriAgentPay
open FixedWidth CheckedOutcome LabelledRuns

/-- The vault and the nonce argument of a root call on a vault that exists. -/
def Call.vaultNonce? : Call → Option (Pubkey × UInt64)
  | grantSession a args => some (a.vault, args.vaultNonce)
  | transferWithPasskey a args => some (a.vault, args.vaultNonce)
  | transferSolWithPasskey a args => some (a.vault, args.vaultNonce)
  | createSolPaymentLinkWithPasskey a args => some (a.vault, args.vaultNonce)
  | cancelSolPaymentLinkWithPasskey a args => some (a.vault, args.vaultNonce)
  | _ => none

/-- The proof of a step that is a root call. -/
def Event.rootProof? : Event → Option RootProof
  | .call _ c => c.rootProof?
  | .env => none

/-- The nonce of the vault that a step consumes. -/
def Event.vaultNonce? (key : Pubkey) : Event → Option UInt64
  | .call _ c =>
    match c.vaultNonce? with
    | some (vault, nonce) => if vault = key then some nonce else none
    | none => none
  | .env => none

def consumesNonce (key : Pubkey) (t : Transition World Event) : Bool :=
  (t.event.vaultNonce? key).isSome

/-- The byte strings whose hashes the root calls of a history compared challenges with. -/
def hashedPreimages (rt : Runtime) (tr : List (Transition World Event)) : Set Bytes :=
  { b | ∃ t ∈ tr, ∃ ctx c config action, t.event = .call ctx c ∧
    c.rootAction? rt config = some action ∧
    t.before.data action.scope.config = .config config ∧ b = action.preimage }

section Steps

variable {rt : Runtime} {ctx : Context} {c : Call} {w w' : World} {e : Event} {key : Pubkey}

theorem vaultNonce_of_rootAction {config : ProtocolConfig} {action : RootAction}
    (h : c.rootAction? rt config = some action) :
    c.vaultNonce? = action.consumedNonce.map (fun n => (action.vault, n)) := by
  cases c <;> cases h <;> rfl

/-- A root call carries out its action: on a vault at its nonce, or by creating the vault. -/
theorem exec_root (h : exec rt ctx c w = .ok w') {proof : RootProof}
    (hproof : c.rootProof? = some proof) :
    ∃ action rootPublicKey, RootCall rt ctx c w rootPublicKey action proof ∧
      ((∃ vault, VaultUse rt ctx c w w' vault action) ∨
        action.consumedNonce = none ∧ w.data action.vault = .empty ∧
        ∃ v, w'.data action.vault = .vault v) := by
  cases c with
  | initializeVault a args =>
    obtain ⟨config, vault, hcreated, -⟩ := initializeVault_ok h
    obtain rfl := Option.some.inj hproof
    exact ⟨_, _, ⟨rfl, config, rfl, hcreated.verified⟩,
      .inr ⟨rfl, hcreated.fresh, vault, hcreated.after⟩⟩
  | grantSession a args =>
    obtain ⟨config, vault, huse, -⟩ := grantSession_ok h
    obtain rfl := Option.some.inj hproof
    exact ⟨_, _, ⟨rfl, config, rfl, huse.verified⟩, .inl ⟨vault, huse.vaultUse rfl rfl⟩⟩
  | initializeVaultAndGrantSession a args =>
    obtain ⟨config, vault, hcreated, -⟩ := initializeVaultAndGrantSession_ok h
    obtain rfl := Option.some.inj hproof
    exact ⟨_, _, ⟨rfl, config, rfl, hcreated.verified⟩,
      .inr ⟨rfl, hcreated.fresh, vault, hcreated.after⟩⟩
  | transferWithPasskey a args =>
    obtain ⟨config, vault, huse, -⟩ := transferWithPasskey_ok h
    obtain rfl := Option.some.inj hproof
    exact ⟨_, _, ⟨rfl, config, rfl, huse.verified⟩, .inl ⟨vault, huse.vaultUse rfl rfl⟩⟩
  | transferSolWithPasskey a args =>
    obtain ⟨config, vault, huse, -⟩ := transferSolWithPasskey_ok h
    obtain rfl := Option.some.inj hproof
    exact ⟨_, _, ⟨rfl, config, rfl, huse.verified⟩, .inl ⟨vault, huse.vaultUse rfl rfl⟩⟩
  | createSolPaymentLinkWithPasskey a args =>
    obtain ⟨config, vault, huse, -⟩ := createSolPaymentLinkWithPasskey_ok h
    obtain rfl := Option.some.inj hproof
    exact ⟨_, _, ⟨rfl, config, rfl, huse.verified⟩, .inl ⟨vault, huse.vaultUse rfl rfl⟩⟩
  | cancelSolPaymentLinkWithPasskey a args =>
    obtain ⟨config, vault, link, huse, -⟩ := cancelSolPaymentLinkWithPasskey_ok h
    obtain rfl := Option.some.inj hproof
    exact ⟨_, _, ⟨rfl, config, rfl, huse.verified⟩, .inl ⟨vault, huse.vaultUse rfl rfl⟩⟩
  | _ => cases hproof

/-- A call that names a vault nonce is a root call. -/
theorem rootProof_of_vaultNonce {use : Pubkey × UInt64} (h : c.vaultNonce? = some use) :
    ∃ proof, c.rootProof? = some proof := by
  cases c <;> first | exact ⟨_, rfl⟩ | cases h

theorem exec_vaultNonce (h : exec rt ctx c w = .ok w') {n : UInt64}
    (hnonce : c.vaultNonce? = some (key, n)) :
    ∃ vault m, w.data key = .vault vault ∧ vault.nonce = n ∧ m.toNat = n.toNat + 1 ∧
      w'.data key = .vault { vault with nonce := m } := by
  obtain ⟨proof, hproof⟩ := rootProof_of_vaultNonce hnonce
  obtain ⟨action, rootPublicKey, hcall, ⟨vault, huse⟩ | ⟨hnone, -⟩⟩ := exec_root h hproof
  · obtain ⟨config, haction, -⟩ := hcall.verified
    rw [vaultNonce_of_rootAction haction, huse.nonce_eq] at hnonce
    obtain ⟨rfl, rfl⟩ := Prod.mk.inj (Option.some.inj hnonce)
    obtain ⟨m, hm, hafter⟩ := huse.after
    exact ⟨vault, m, huse.before, rfl, hm, hafter⟩
  · obtain ⟨config, haction, -⟩ := hcall.verified
    rw [vaultNonce_of_rootAction haction, hnone] at hnonce
    cases hnonce

theorem vaultNonce_of_call {n : UInt64} (h : c.vaultNonce? = some (key, n)) :
    (Event.call ctx c).vaultNonce? key = some n := by
  simp [Event.vaultNonce?, h]

theorem call_of_vaultNonce {n : UInt64} (h : e.vaultNonce? key = some n) :
    ∃ ctx c, e = .call ctx c ∧ c.vaultNonce? = some (key, n) := by
  cases e with
  | env => cases h
  | call ctx c =>
    simp only [Event.vaultNonce?] at h
    split at h
    · rename_i vault nonce hcall
      split at h
      · rename_i heq
        obtain rfl := Option.some.inj h
        exact ⟨ctx, c, rfl, heq ▸ hcall⟩
      · cases h
    · cases h

/-- A step creates the vault, raises its nonce by one, or leaves it as it is. -/
theorem vault_step (key : Pubkey) (h : Step rt w e w') :
    (e.vaultNonce? key = none ∧ (w'.data key).vault? = (w.data key).vault?) ∨
    (e.vaultNonce? key = none ∧ w.data key = .empty ∧
      ∃ v, w'.data key = .vault v ∧ (v.nonce = 0 ∨ v.nonce = 1)) ∨
    ∃ v m, e.vaultNonce? key = some v.nonce ∧ w.data key = .vault v ∧ m.toNat = v.nonce.toNat + 1 ∧
      w'.data key = .vault { v with nonce := m } := by
  cases huse : e.vaultNonce? key with
  | some n =>
    obtain ⟨ctx, c, rfl, hcall⟩ := call_of_vaultNonce huse
    obtain ⟨v, m, hbefore, rfl, hm, hafter⟩ := exec_vaultNonce h hcall
    exact .inr (.inr ⟨v, m, rfl, hbefore, hm, hafter⟩)
  | none =>
    have hnone : ∀ ctx c v action, e = .call ctx c → action.vault = key →
        VaultUse rt ctx c w w' v action → False := by
      rintro ctx c v action rfl rfl hvault
      obtain ⟨proof, hcall⟩ := hvault.call
      obtain ⟨config, haction, -⟩ := hcall.verified
      rw [vaultNonce_of_call (n := v.nonce)
        (by rw [vaultNonce_of_rootAction haction, hvault.nonce_eq]; rfl)] at huse
      cases huse
    cases hafter : (w'.data key).vault? with
    | some v' =>
      have hv' := AccountData.vault?_eq_some.mp hafter
      rcases step_record_after h hv' rfl with hbefore | ⟨ctx, c, before, rfl, hbefore, hchange⟩
      · simp [hbefore]
      · cases hchange with
        | vaultCreated _ action proof call vault_eq nonce_eq nonce rent =>
          exact .inr (.inl ⟨rfl, hbefore, v', hv', nonce⟩)
        | vaultUsed v action key_eq use => exact absurd (hnone ctx c v action rfl key_eq use) id
    | none =>
      cases hbefore : (w.data key).vault? with
      | none => exact .inl ⟨rfl, rfl⟩
      | some v =>
        have hv := AccountData.vault?_eq_some.mp hbefore
        rcases step_record_before h hv rfl with heq | ⟨ctx, c, after, rfl, -, -, hafter', hchange⟩
        · simp [heq] at hafter
        · cases hchange with
          | vaultUsed => simp [hafter'] at hafter

/-- A vault stays a vault, and its nonce does not fall. -/
theorem vault_kept (h : Step rt w e w') {v : Vault} (hv : w.data key = .vault v) :
    ∃ m, w'.data key = .vault { v with nonce := m } ∧
      m.toNat = v.nonce.toNat + if consumesNonce key ⟨w, e, w'⟩ then 1 else 0 := by
  rcases vault_step key h with ⟨hnone, hkept⟩ | ⟨-, hfresh, -⟩ | ⟨v₁, m, huse, hbefore, hm, hafter⟩
  · rw [hv, AccountData.vault?_vault, AccountData.vault?_eq_some] at hkept
    exact ⟨v.nonce, hkept, by simp [consumesNonce, hnone]⟩
  · rw [hv] at hfresh
    cases hfresh
  · obtain rfl := AccountData.vault.inj (hbefore.symm.trans hv)
    exact ⟨m, hafter, by simp [consumesNonce, huse, hm]⟩

end Steps

section Runs

variable {rt : Runtime} {start w : World} {tr : List (Transition World Event)} {key : Pubkey}

/-- What a root call leaves behind for good: its vault, above the nonce it consumed. -/
private def RootSpent (rt : Runtime) (t : Transition World Event) (w : World) : Prop :=
  ∀ ctx c proof, t.event = .call ctx c → c.rootProof? = some proof → ∃ action rootPublicKey v,
    RootCall rt ctx c t.before rootPublicKey action proof ∧ w.data action.vault = .vault v ∧
      ∀ n, action.consumedNonce = some n → n.toNat < v.nonce.toNat

private theorem rootSpent_establish {u v : World} {e : Event} (h : Step rt u e v) :
    RootSpent rt ⟨u, e, v⟩ v := by
  rintro ctx c proof rfl hproof
  obtain ⟨action, rootPublicKey, hcall, ⟨vault, huse⟩ | ⟨hnone, -, vault, hafter⟩⟩ :=
    exec_root h hproof
  · obtain ⟨m, hm, hafter⟩ := huse.after
    refine ⟨action, rootPublicKey, _, hcall, hafter, ?_⟩
    intro n hn
    rw [huse.nonce_eq] at hn
    obtain rfl := Option.some.inj hn
    simp only
    omega
  · exact ⟨action, rootPublicKey, vault, hcall, hafter, fun n hn => by simp [hnone] at hn⟩

private theorem rootSpent_stable {t : Transition World Event} {u v : World} {e : Event}
    (hfact : RootSpent rt t u) (h : Step rt u e v) : RootSpent rt t v := by
  intro ctx c proof he hproof
  obtain ⟨action, rootPublicKey, vault, hcall, hbefore, hnonce⟩ := hfact ctx c proof he hproof
  obtain ⟨m, hafter, hm⟩ := vault_kept h hbefore
  refine ⟨action, rootPublicKey, _, hcall, hafter, ?_⟩
  intro n hn
  have hlt := hnonce n hn
  simp only
  omega

/-- The challenges of two proofs with one client-data document are the same. -/
theorem preimage_hash_eq {ctx ctx' : Context} {c c' : Call} {u u' : World}
    {rootPublicKey rootPublicKey' : FixedBytes 33} {action action' : RootAction}
    {proof proof' : RootProof} (h : RootCall rt ctx c u rootPublicKey action proof)
    (h' : RootCall rt ctx' c' u' rootPublicKey' action' proof')
    (hdata : proof.clientDataJson = proof'.clientDataJson) :
    rt.sha256 action.preimage = rt.sha256 action'.preimage := by
  obtain ⟨config, -, hverified⟩ := h.verified
  obtain ⟨config', -, hverified'⟩ := h'.verified
  exact expectedChallenge_unique hverified.accepted hverified'.accepted hdata

private theorem mem_hashedPreimages {t : Transition World Event} (ht : t ∈ tr) {ctx : Context}
    {c : Call} (he : t.event = .call ctx c) {rootPublicKey : FixedBytes 33} {action : RootAction}
    {proof : RootProof} (h : RootCall rt ctx c t.before rootPublicKey action proof) :
    action.preimage ∈ hashedPreimages rt tr := by
  obtain ⟨config, haction, hverified⟩ := h.verified
  exact ⟨t, ht, ctx, c, config, action, he, haction, hverified.config_at, rfl⟩

theorem call_of_rootProof {e : Event} {proof : RootProof} (h : e.rootProof? = some proof) :
    ∃ ctx c, e = .call ctx c ∧ c.rootProof? = some proof := by
  cases e with
  | env => cases h
  | call ctx c => exact ⟨ctx, c, rfl, h⟩

/-- No later root call succeeds with the client data of an earlier one. -/
theorem clientData_not_replayed (hrun : Run (Step rt) start tr w)
    (hsha : Set.InjOn rt.sha256 (hashedPreimages rt tr)) :
    tr.Pairwise (fun t t' => ∀ proof proof', t.event.rootProof? = some proof →
      t'.event.rootProof? = some proof' → proof.clientDataJson ≠ proof'.clientDataJson) := by
  have hspent := hrun.pairwise_fact (I := fun _ => True) trivial (fun _ _ _ _ _ => trivial)
    (RootSpent rt) (fun _ _ _ _ h => rootSpent_establish h)
    (fun _ _ _ _ _ hfact h => rootSpent_stable hfact h)
  refine hspent.imp_of_mem ?_
  rintro t t' ht ht' ⟨hfact, hstep⟩ proof proof' hproof hproof' hdata
  obtain ⟨ctx, c, he, hc⟩ := call_of_rootProof hproof
  obtain ⟨ctx', c', he', hc'⟩ := call_of_rootProof hproof'
  obtain ⟨action, rootPublicKey, v, hcall, hv, hnonce⟩ := hfact ctx c proof he hc
  rw [he'] at hstep
  obtain ⟨action', rootPublicKey', hcall', hroot⟩ := exec_root hstep hc'
  -- one document, one challenge, one action
  obtain rfl : action = action' := RootAction.preimage_injective
    (hsha (mem_hashedPreimages ht he hcall) (mem_hashedPreimages ht' he' hcall')
      (preimage_hash_eq hcall hcall' hdata))
  rcases hroot with ⟨vault, huse⟩ | ⟨-, hfresh, -⟩
  · obtain rfl := AccountData.vault.inj (huse.before.symm.trans hv)
    exact absurd (hnonce _ huse.nonce_eq) (lt_irrefl _)
  · rw [hv] at hfresh
    cases hfresh

/-- A vault's nonce is what it was created with plus the number of root calls on it since. -/
theorem nonce_history (hgenesis : Genesis start) (hrun : Run (Step rt) start tr w) :
    ((w.data key).vault? = none → tr.countP (consumesNonce key) = 0) ∧
    ∀ v, w.data key = .vault v →
      ∃ t ∈ tr, ∃ v₀, t.before.data key = .empty ∧ t.after.data key = .vault v₀ ∧
      (v₀.nonce = 0 ∨ v₀.nonce = 1) ∧
      v.nonce.toNat = v₀.nonce.toNat + tr.countP (consumesNonce key) := by
  induction hrun with
  | nil =>
    refine ⟨fun _ => rfl, ?_⟩
    intro v hv
    have := hgenesis.no_records key
    simp [hv, AccountData.programOwned] at this
  | snoc run last ih =>
    rename_i tr u e w
    obtain ⟨ihnone, ihsome⟩ := ih
    rw [List.countP_append, List.countP_singleton]
    rcases vault_step key last with ⟨hnone, hkept⟩ | ⟨hnone, hfresh, v₀, hafter, hnonce⟩ |
      ⟨v₁, m, huse, hbefore, hm, hafter⟩
    · have hmark : consumesNonce key ⟨u, e, w⟩ = false := by simp [consumesNonce, hnone]
      rw [hmark]
      refine ⟨fun h => by simpa using ihnone (hkept ▸ h), ?_⟩
      intro v hv
      have hbefore : u.data key = .vault v := by
        rw [hv, AccountData.vault?_vault] at hkept
        exact AccountData.vault?_eq_some.mp hkept.symm
      obtain ⟨t, ht, v₀, hfresh, hcreated, hstart, hcount⟩ := ihsome v hbefore
      exact ⟨t, List.mem_append_left _ ht, v₀, hfresh, hcreated, hstart, by simpa using hcount⟩
    · have hmark : consumesNonce key ⟨u, e, w⟩ = false := by simp [consumesNonce, hnone]
      have hzero := ihnone (by rw [hfresh]; rfl)
      rw [hmark, hzero]
      refine ⟨fun _ => rfl, ?_⟩
      intro v hv
      obtain rfl := AccountData.vault.inj (hafter.symm.trans hv)
      exact ⟨_, List.mem_append_right _ (List.mem_singleton_self _), v₀, hfresh, hafter,
        hnonce, by simp⟩
    · have hmark : consumesNonce key ⟨u, e, w⟩ = true := by simp [consumesNonce, huse]
      rw [hmark]
      refine ⟨fun h => by simp [hafter] at h, ?_⟩
      intro v hv
      obtain rfl := AccountData.vault.inj (hafter.symm.trans hv)
      obtain ⟨t, ht, v₀, hfresh, hcreated, hstart, hcount⟩ := ihsome v₁ hbefore
      refine ⟨t, List.mem_append_left _ ht, v₀, hfresh, hcreated, hstart, ?_⟩
      simp only [if_true]
      omega

/-- After a step consumed a nonce of the vault, the vault stands above it. -/
private def NonceConsumed (key : Pubkey) (t : Transition World Event) (w : World) : Prop :=
  ∀ n, t.event.vaultNonce? key = some n → ∃ v, w.data key = .vault v ∧ n.toNat < v.nonce.toNat

theorem nonces_increase (hrun : Run (Step rt) start tr w) :
    tr.Pairwise (fun t t' => ∀ n n', t.event.vaultNonce? key = some n →
      t'.event.vaultNonce? key = some n' →
      n < n') := by
  refine (hrun.pairwise_fact (I := fun _ => True) trivial (fun _ _ _ _ _ => trivial)
    (NonceConsumed key) ?_ ?_).imp ?_
  · intro u e v _ h n hn
    rcases vault_step key h with ⟨hnone, -⟩ | ⟨hnone, -⟩ | ⟨v₁, m, huse, -, hm, hafter⟩
    · simp [hnone] at hn
    · simp [hnone] at hn
    · obtain rfl := Option.some.inj (huse.symm.trans hn)
      exact ⟨_, hafter, by simp only; omega⟩
  · intro t u e v _ hfact h n hn
    obtain ⟨v₁, hbefore, hlt⟩ := hfact n hn
    obtain ⟨m, hafter, hm⟩ := vault_kept h hbefore
    exact ⟨_, hafter, by simp only; omega⟩
  · rintro t t' ⟨hfact, hstep⟩ n n' hn hn'
    obtain ⟨v, hv, hlt⟩ := hfact n hn
    rcases vault_step key hstep with ⟨hnone, -⟩ | ⟨hnone, -⟩ | ⟨v₁, m, huse, hbefore, -⟩
    · simp [hnone] at hn'
    · simp [hnone] at hn'
    · obtain rfl := Option.some.inj (huse.symm.trans hn')
      obtain rfl := AccountData.vault.inj (hbefore.symm.trans hv)
      exact UInt64.lt_iff_toNat_lt.mpr hlt

/-- Root proofs authorise one action each: client data that was accepted once is not accepted
again, and a vault's nonce starts at 0 or 1, counts its root calls, and is consumed value by
value in order. -/
theorem root_proofs_single_use (hgenesis : Genesis start) (hrun : Run (Step rt) start tr w)
    (hsha : Set.InjOn rt.sha256 (hashedPreimages rt tr)) :
    tr.Pairwise (fun t t' => ∀ proof proof', t.event.rootProof? = some proof →
      t'.event.rootProof? = some proof' → proof.clientDataJson ≠ proof'.clientDataJson) ∧
    (∀ key v, w.data key = .vault v → ∃ t ∈ tr, ∃ v₀, t.before.data key = .empty ∧
      t.after.data key = .vault v₀ ∧ (v₀.nonce = 0 ∨ v₀.nonce = 1) ∧
      v.nonce.toNat = v₀.nonce.toNat + tr.countP (consumesNonce key)) ∧
    (∀ t ∈ tr, ∀ key v, t.before.data key = .vault v → ∃ m, t.after.data key = .vault
      { v with nonce := m } ∧
      m.toNat = v.nonce.toNat + if consumesNonce key t then 1 else 0) ∧
    (∀ t ∈ tr, ∀ key n, t.event.vaultNonce? key = some n →
      ∃ v, t.before.data key = .vault v ∧ v.nonce = n) ∧
    ∀ key, tr.Pairwise (fun t t' => ∀ n n', t.event.vaultNonce? key = some n →
      t'.event.vaultNonce? key = some n' → n < n') := by
  refine ⟨clientData_not_replayed hrun hsha, fun key => (nonce_history hgenesis hrun).2, ?_, ?_,
    fun key => nonces_increase hrun⟩
  · intro t ht key v hv
    exact vault_kept (hrun.step_of_mem ht) hv
  · intro t ht key n hn
    obtain ⟨ctx, c, he, hcall⟩ := call_of_vaultNonce hn
    have hstep := hrun.step_of_mem ht
    rw [he] at hstep
    obtain ⟨v, m, hbefore, hnonce, -⟩ := exec_vaultNonce hstep hcall
    exact ⟨v, hbefore, hnonce⟩

/-- The configuration supplies the cluster of an action and nothing else. -/
theorem rootAction_of_config {c : Call} {config : ProtocolConfig} {action : RootAction}
    (h : c.rootAction? rt config = some action) (config' : ProtocolConfig) :
    ∃ action', c.rootAction? rt config' = some action' ∧
      action'.scope.config = action.scope.config := by
  cases c <;> cases h <;> exact ⟨_, rfl, rfl⟩

/-- Every action that the step may have hashed is one of the given ones. -/
private def hashesOnly (rt : Runtime) (actions : List RootAction) (config₀ : ProtocolConfig)
    (t : Transition World Event) : Bool :=
  match t.event with
  | .call _ c => (c.rootAction? rt config₀).all fun action =>
    (t.before.data action.scope.config).config?.all fun config =>
      (c.rootAction? rt config).all fun action => action ∈ actions
  | .env => true

private theorem mem_of_hashesOnly {actions : List RootAction} {config₀ : ProtocolConfig}
    (h : tr.all (hashesOnly rt actions config₀) = true) {b : Bytes}
    (hb : b ∈ hashedPreimages rt tr) :
    b ∈ actions.map RootAction.preimage := by
  obtain ⟨t, ht, ctx, c, config, action, he, haction, hconfig, rfl⟩ := hb
  obtain ⟨action₀, haction₀, hscope⟩ := rootAction_of_config haction config₀
  have hall := List.all_eq_true.mp h t ht
  simp only [hashesOnly, he, haction₀, Option.all_some, hscope, hconfig, AccountData.config?,
    haction] at hall
  exact List.mem_map_of_mem (of_decide_eq_true hall)

theorem root_proofs_single_use_devnet : ∃ tr w, Run (Step Devnet.runtime) Devnet.genesis tr w ∧
    tr.countP (consumesNonce Devnet.vault) = 1 ∧
    tr.Pairwise (fun t t' => ∀ proof proof', t.event.rootProof? = some proof →
      t'.event.rootProof? = some proof' → proof.clientDataJson ≠ proof'.clientDataJson) := by
  obtain ⟨tr, w, hrun, hw⟩ := Devnet.reached 5
    (p := fun tr _ => tr.countP (consumesNonce Devnet.vault) = 1 ∧
      tr.all (hashesOnly Devnet.runtime [Devnet.setUp, Devnet.fundSolLink] Devnet.protocolConfig))
    (by decide +kernel)
  obtain ⟨hcount, hactions⟩ := of_decide_eq_true hw
  have hdigests : ∀ b ∈ [Devnet.setUp, Devnet.fundSolLink].map RootAction.preimage,
      ∀ b' ∈ [Devnet.setUp, Devnet.fundSolLink].map RootAction.preimage,
      Devnet.runtime.sha256 b = Devnet.runtime.sha256 b' → b = b' := by
    decide +kernel
  have hsha : Set.InjOn Devnet.runtime.sha256 (hashedPreimages Devnet.runtime tr) := by
    intro b hb b' hb' heq
    exact hdigests b (mem_of_hashesOnly hactions hb) b' (mem_of_hashesOnly hactions hb') heq
  exact ⟨tr, w, hrun, hcount, (root_proofs_single_use Devnet.genesis_fresh hrun hsha).1⟩

end Runs

end VeriAgentPay
