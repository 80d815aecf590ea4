import VeriAgentPay.LedgerRuns

/-!
# A challenge binds the whole effect

Equal preimages come from equal actions. An action fixes every argument of its instruction and
every account that the instruction changes but the payer's, some of them through the address
they are derived at.
-/

namespace VeriAgentPay
open FixedWidth CheckedOutcome

/-- The accounts other than the payer that an action's instruction may change. -/
def RootAction.keys : RootAction → List Pubkey
  | initializeVault _ vault vaultTokenAccount _ _ _ _ => [vault, vaultTokenAccount]
  | grantSession _ vault session _ _ _ => [vault, session]
  | transfer _ vault vaultTokenAccount destinationTokenAccount _ _ _ _ =>
    [vault, vaultTokenAccount, destinationTokenAccount]
  | initializeVaultAndGrantSession _ vault session vaultTokenAccount _ _ _ _ _ _ =>
    [vault, session, vaultTokenAccount]
  | transferSol _ vault recipient _ _ _ => [vault, recipient]
  | createSolPaymentLink _ vault paymentLink _ _ _ _ _ _ => [vault, paymentLink]
  | cancelSolPaymentLink _ vault paymentLink _ _ => [vault, paymentLink]

/-- A proof without the bytes that carry the signature. -/
def RootProof.forgotten (proof : RootProof) : RootProof :=
  { proof with authenticatorData := [], clientDataJson := [] }

namespace Call

/-- The fee and rent payer of a root call. -/
def payer? : Call → Option Pubkey
  | initializeVault a _ => some a.payer
  | grantSession a _ => some a.payer
  | initializeVaultAndGrantSession a _ => some a.payer
  | transferWithPasskey a _ => some a.payer
  | transferSolWithPasskey a _ => some a.payer
  | createSolPaymentLinkWithPasskey a _ => some a.payer
  | cancelSolPaymentLinkWithPasskey a _ => some a.payer
  | _ => none

/-- What a root call does, apart from who pays for it and which signature allows it. -/
def effect : Call → Call
  | initializeVault a args =>
    initializeVault { a with payer := defaultPubkey }
      { args with toRootProof := args.toRootProof.forgotten }
  | grantSession a args =>
    grantSession { a with payer := defaultPubkey }
      { args with toRootProof := args.toRootProof.forgotten }
  | initializeVaultAndGrantSession a args =>
    initializeVaultAndGrantSession { a with payer := defaultPubkey }
      { args with toRootProof := args.toRootProof.forgotten }
  | transferWithPasskey a args =>
    transferWithPasskey { a with payer := defaultPubkey }
      { args with toRootProof := args.toRootProof.forgotten }
  | transferSolWithPasskey a args =>
    transferSolWithPasskey { a with payer := defaultPubkey }
      { args with toRootProof := args.toRootProof.forgotten }
  | createSolPaymentLinkWithPasskey a args =>
    createSolPaymentLinkWithPasskey { a with payer := defaultPubkey }
      { args with toRootProof := args.toRootProof.forgotten }
  | cancelSolPaymentLinkWithPasskey a args =>
    cancelSolPaymentLinkWithPasskey { a with payer := defaultPubkey }
      { args with toRootProof := args.toRootProof.forgotten }
  | c => c

end Call

section Confinement

variable {rt : Runtime} {ctx : Context} {w w' : World}

/-- What a root call changes lies among its payer and the keys its challenge names. -/
theorem root_call_confined {c : Call} {config : ProtocolConfig} {action : RootAction}
    {payer : Pubkey} (h : exec rt ctx c w = .ok w')
    (haction : c.rootAction? rt config = some action) (hpayer : c.payer? = some payer) :
    Confined w w' (payer :: action.keys) := by
  cases c with
  | initializeVault a args =>
    obtain rfl := Option.some.inj haction
    obtain rfl := Option.some.inj hpayer
    simp only [exec, initializeVault, bind_eq_ok, pure_eq_ok, exists_unit] at h
    obtain ⟨-, -, -, -, w₁, hinit, w₂, htoken, -, -, -, -, -, -, rfl⟩ := h
    obtain ⟨bump, -, -, hcreated⟩ := initAccount_ok hinit
    exact ((Confined.of_accountCreated hcreated).trans
      (Confined.of_createAssociatedTokenIfNeeded htoken)).mono
      (by simp [RootAction.keys])
  | grantSession a args =>
    obtain rfl := Option.some.inj haction
    obtain rfl := Option.some.inj hpayer
    simp only [exec, grantSession_eq, bind_eq_ok, pure_eq_ok, exists_unit] at h
    obtain ⟨-, -, -, -, w₁, hinit, -, -, -, -, -, -, n, -, rfl⟩ := h
    obtain ⟨bump, -, -, hcreated⟩ := initAccount_ok hinit
    exact ((Confined.of_accountCreated hcreated).trans (Confined.setData _ _ _)).mono
      (by simp [RootAction.keys])
  | initializeVaultAndGrantSession a args =>
    obtain rfl := Option.some.inj haction
    obtain rfl := Option.some.inj hpayer
    simp only [exec, initializeVaultAndGrantSession, bind_eq_ok, pure_eq_ok, exists_unit] at h
    obtain ⟨-, -, -, -, w₁, hinit, w₂, hinit', w₃, htoken, -, -, -, -, -, -, -, rfl⟩ := h
    obtain ⟨bump, -, -, hcreated⟩ := initAccount_ok hinit
    obtain ⟨bump', -, -, hcreated'⟩ := initAccount_ok hinit'
    exact (((Confined.of_accountCreated hcreated).trans
      (Confined.of_accountCreated hcreated')).trans
      (Confined.of_createAssociatedTokenIfNeeded htoken)).mono (by simp [RootAction.keys])
  | transferWithPasskey a args =>
    obtain rfl := Option.some.inj haction
    obtain rfl := Option.some.inj hpayer
    simp only [exec, transferWithPasskey, bind_eq_ok, require_eq_ok, pure_eq_ok, exists_unit] at h
    obtain ⟨-, -, -, vault, -, mint, -, -, -, -, -, -, -, -, -, -, -, -, -, hne, -, -, n, -, w₁,
      htransfer, rfl⟩ := h
    obtain ⟨s, d, hmoved⟩ := transferCheckedSigned_ok hne htransfer
    exact ((Confined.of_tokensMoved hmoved).trans (Confined.setData _ _ _)).mono
      (by simp [RootAction.keys])
  | transferSolWithPasskey a args =>
    obtain rfl := Option.some.inj haction
    obtain rfl := Option.some.inj hpayer
    simp only [exec, transferSolWithPasskey, bind_eq_ok, require_eq_ok, pure_eq_ok,
      exists_unit] at h
    obtain ⟨-, -, -, -, -, -, -, -, -, hne, -, -, n, -, w₁, htransfer, rfl⟩ := h
    exact ((Confined.of_lamportsMoved (transferProgramLamports_ok hne htransfer)).trans
      (Confined.setData _ _ _)).mono (by simp [RootAction.keys])
  | createSolPaymentLinkWithPasskey a args =>
    obtain rfl := Option.some.inj haction
    obtain rfl := Option.some.inj hpayer
    simp only [exec, createSolPaymentLinkWithPasskey, bind_eq_ok, load_eq_ok,
      AccountData.vault?_eq_some,
      pure_eq_ok, exists_unit] at h
    obtain ⟨-, -, vault, hvault, w₁, hinit, -, -, -, -, -, -, -, -, n, -, w₂, htransfer, rfl⟩ := h
    obtain ⟨bump, -, -, hcreated⟩ := initAccount_ok hinit
    have hne : a.vault ≠ a.paymentLink := World.ne_of_data hvault hcreated.fresh (by simp)
    exact (((Confined.of_accountCreated hcreated).trans
      (Confined.of_lamportsMoved (transferProgramLamports_ok hne htransfer))).trans
      (Confined.setData _ _ _)).mono (by simp [RootAction.keys])
  | cancelSolPaymentLinkWithPasskey a args =>
    obtain rfl := Option.some.inj haction
    obtain rfl := Option.some.inj hpayer
    simp only [exec, cancelSolPaymentLinkWithPasskey, bind_eq_ok, load_eq_ok,
      AccountData.vault?_eq_some,
      AccountData.link?_eq_some, pure_eq_ok, exists_unit] at h
    obtain ⟨-, -, -, vault, hvault, link, hlink, -, -, -, -, -, -, -, -, -, n, -, w₁,
      htransfer, rfl⟩ := h
    have hne : a.paymentLink ≠ a.vault := World.ne_of_data hlink hvault (by simp)
    exact (((Confined.of_lamportsMoved (transferProgramLamports_ok hne htransfer)).trans
      (Confined.setData _ _ _)).trans (Confined.setData _ _ _)).mono (by simp [RootAction.keys])
  | _ => cases haction

end Confinement

section Binding

variable {rt rt' : Runtime} {ctx ctx' : Context} {c c' : Call} {w w₁ w' w₁' : World}

theorem associatedTokenAddress_congr (h : rt'.createProgramAddress = rt.createProgramAddress)
    (wallet mint : Pubkey) :
    associatedTokenAddress rt' wallet mint = associatedTokenAddress rt wallet mint := by
  simp only [associatedTokenAddress, findProgramAddress, h]

/-- Calls with one action differ in nothing but their payer and their signature. The mint of an
initialisation is bound by the token account it has to derive. -/
theorem effect_eq_of_action_eq (haddresses : rt'.createProgramAddress = rt.createProgramAddress)
    (hpda : PdaInjective rt) {config config' : ProtocolConfig} {action : RootAction}
    (h : exec rt ctx c w = .ok w₁) (h' : exec rt' ctx' c' w' = .ok w₁')
    (haction : c.rootAction? rt config = some action)
    (haction' : c'.rootAction? rt' config' = some action) :
    c.effect = c'.effect := by
  cases c with
  | initializeVault a args =>
    cases c' with
    | initializeVault a' args' =>
      have hsame := Option.some.inj (haction.trans haction'.symm)
      simp only [RootAction.initializeVault.injEq, scopeOf, ActionScope.mk.injEq] at hsame
      obtain ⟨⟨-, -, hconfig⟩, hvault, htoken, hkey, hhash, hsalt, hexpiry⟩ := hsame
      obtain ⟨_, _, -, -, haddress, -⟩ := initializeVault_ok h
      obtain ⟨_, _, -, -, haddress', -⟩ := initializeVault_ok h'
      rw [associatedTokenAddress_congr haddresses, ← hvault, ← htoken] at haddress'
      obtain ⟨-, hmint⟩ := associatedTokenAddress_inj hpda haddress haddress'
      obtain ⟨payer, config, vault, mint, token⟩ := a
      obtain ⟨payer', config', vault', mint', token'⟩ := a'
      obtain ⟨⟨_, _, _⟩, _, _, _⟩ := args
      obtain ⟨⟨_, _, _⟩, _, _, _⟩ := args'
      simp_all [Call.effect, RootProof.forgotten]
    | _ => cases haction; cases haction'
  | grantSession a args =>
    cases c' with
    | grantSession a' args' =>
      have hsame := Option.some.inj (haction.trans haction'.symm)
      obtain ⟨⟨_, _, _, _, _, _⟩, ⟨_, _, _⟩, _⟩ := args
      obtain ⟨⟨_, _, _, _, _, _⟩, ⟨_, _, _⟩, _⟩ := args'
      simp_all [Call.effect, RootProof.forgotten, scopeOf]
    | _ => cases haction; cases haction'
  | initializeVaultAndGrantSession a args =>
    cases c' with
    | initializeVaultAndGrantSession a' args' =>
      have hsame := Option.some.inj (haction.trans haction'.symm)
      obtain ⟨⟨_, _, _, _, _, _⟩, ⟨_, _, _⟩, _, _, _⟩ := args
      obtain ⟨⟨_, _, _, _, _, _⟩, ⟨_, _, _⟩, _, _, _⟩ := args'
      simp_all [Call.effect, RootProof.forgotten, scopeOf]
    | _ => cases haction; cases haction'
  | transferWithPasskey a args =>
    cases c' with
    | transferWithPasskey a' args' =>
      have hsame := Option.some.inj (haction.trans haction'.symm)
      obtain ⟨⟨_, _, _⟩, _, _⟩ := args
      obtain ⟨⟨_, _, _⟩, _, _⟩ := args'
      simp_all [Call.effect, RootProof.forgotten, scopeOf]
    | _ => cases haction; cases haction'
  | transferSolWithPasskey a args =>
    cases c' with
    | transferSolWithPasskey a' args' =>
      have hsame := Option.some.inj (haction.trans haction'.symm)
      obtain ⟨⟨_, _, _⟩, _, _⟩ := args
      obtain ⟨⟨_, _, _⟩, _, _⟩ := args'
      simp_all [Call.effect, RootProof.forgotten, scopeOf]
    | _ => cases haction; cases haction'
  | createSolPaymentLinkWithPasskey a args =>
    cases c' with
    | createSolPaymentLinkWithPasskey a' args' =>
      have hsame := Option.some.inj (haction.trans haction'.symm)
      obtain ⟨⟨_, _, _⟩, _, _, _, _, _⟩ := args
      obtain ⟨⟨_, _, _⟩, _, _, _, _, _⟩ := args'
      simp_all [Call.effect, RootProof.forgotten, scopeOf]
    | _ => cases haction; cases haction'
  | cancelSolPaymentLinkWithPasskey a args =>
    cases c' with
    | cancelSolPaymentLinkWithPasskey a' args' =>
      have hsame := Option.some.inj (haction.trans haction'.symm)
      obtain ⟨⟨_, _, _⟩, _⟩ := args
      obtain ⟨⟨_, _, _⟩, _⟩ := args'
      simp_all [Call.effect, RootProof.forgotten, scopeOf]
    | _ => cases haction; cases haction'
  | _ => cases haction

theorem scope_of_rootAction {config : ProtocolConfig} {action : RootAction}
    (h : c.rootAction? rt config = some action) :
    action.scope.clusterDomain = config.clusterDomain ∧ action.scope.programId = rt.programId := by
  cases c <;> cases h <;> exact ⟨rfl, rfl⟩

/-- Two executed root calls that hashed equal bytes for their challenges are on one program and
cluster, have one effect, and change accounts from one list, their payers apart. -/
theorem challenge_binds_effect (haddresses : rt'.createProgramAddress = rt.createProgramAddress)
    (hpda : PdaInjective rt) {rootPublicKey rootPublicKey' : FixedBytes 33}
    {action action' : RootAction} {proof proof' : RootProof} (h : exec rt ctx c w = .ok w₁)
    (h' : exec rt' ctx' c' w' = .ok w₁') (hcall : RootCall rt ctx c w rootPublicKey action proof)
    (hcall' : RootCall rt' ctx' c' w' rootPublicKey' action' proof')
    (hpreimage : action.preimage = action'.preimage) :
    (∃ config config', w.data action.scope.config = .config config ∧
      w'.data action.scope.config = .config config' ∧
      config.clusterDomain = config'.clusterDomain) ∧
    rt.programId = rt'.programId ∧ c.effect = c'.effect ∧ action = action' ∧
    (∀ payer, c.payer? = some payer → Confined w w₁ (payer :: action.keys)) ∧
    ∀ payer', c'.payer? = some payer' → Confined w' w₁' (payer' :: action.keys) := by
  obtain rfl := RootAction.preimage_injective hpreimage
  obtain ⟨config, haction, hverified⟩ := hcall.verified
  obtain ⟨config', haction', hverified'⟩ := hcall'.verified
  obtain ⟨hcluster, hprogram⟩ := scope_of_rootAction haction
  obtain ⟨hcluster', hprogram'⟩ := scope_of_rootAction haction'
  refine ⟨⟨config, config', hverified.config_at, hverified'.config_at,
    hcluster.symm.trans hcluster'⟩,
    hprogram.symm.trans hprogram', effect_eq_of_action_eq haddresses hpda h h' haction haction',
    rfl, ?_, ?_⟩
  · intro payer hpayer
    exact root_call_confined h haction hpayer
  · intro payer' hpayer'
    exact root_call_confined h' haction' hpayer'

theorem challenge_binds_effect_devnet : ∃ w w₁ w₁',
    exec Devnet.runtime Devnet.setUpContext (Devnet.setUpCall Devnet.payer) w = .ok w₁ ∧
    exec Devnet.runtime Devnet.setUpContext (Devnet.setUpCall Devnet.secondPayer) w = .ok w₁' ∧
    Confined w w₁ (Devnet.payer :: Devnet.setUp.keys) ∧
    Confined w w₁' (Devnet.secondPayer :: Devnet.setUp.keys) := by
  obtain ⟨tr, w, hrun, hw⟩ := Devnet.reached 1
    (p := fun _ w => w.data Devnet.config = .config Devnet.protocolConfig ∧
      (authorizeRoot Devnet.runtime Devnet.protocolConfig Devnet.setUpContext w.now
        Devnet.rootPublicKey
        Devnet.setUp Devnet.setUpProof).toBool ∧
      (exec Devnet.runtime Devnet.setUpContext (Devnet.setUpCall Devnet.payer) w).toBool ∧
      (exec Devnet.runtime Devnet.setUpContext (Devnet.setUpCall Devnet.secondPayer) w).toBool)
    (by decide +kernel)
  obtain ⟨hconfig, hauthorized, hexec, hexec'⟩ := of_decide_eq_true hw
  obtain ⟨⟨⟩, haccepted⟩ := eq_ok_of_toBool hauthorized
  obtain ⟨w₁, hexec⟩ := eq_ok_of_toBool hexec
  obtain ⟨w₁', hexec'⟩ := eq_ok_of_toBool hexec'
  have hverified :
      RootVerified Devnet.runtime Devnet.setUpContext w Devnet.rootPublicKey Devnet.setUp
      Devnet.setUpProof Devnet.protocolConfig := ⟨hconfig, rfl, haccepted⟩
  have hcall : ∀ payer, RootCall Devnet.runtime Devnet.setUpContext (Devnet.setUpCall payer) w
      Devnet.rootPublicKey Devnet.setUp Devnet.setUpProof := fun _ => ⟨rfl, _, rfl, hverified⟩
  have hbound := challenge_binds_effect rfl Devnet.pdaInjective hexec hexec' (hcall _) (hcall _) rfl
  exact ⟨w, w₁, w₁', hexec, hexec', hbound.2.2.2.2.1 _ rfl, hbound.2.2.2.2.2 _ rfl⟩

end Binding

end VeriAgentPay
