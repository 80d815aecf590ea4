import VeriAgentPay.RootReplay

/-!
# Creating a wallet in one step and in two

Account creations at different addresses commute, in what they write and in whether the payer
can afford them. The instruction that creates the vault with its first session therefore does
what the two separate ones do.
-/

namespace VeriAgentPay
open FixedWidth CheckedOutcome

namespace World

variable (w : World) {k k' : Pubkey}

theorem setData_comm (hne : k ≠ k') (d d' : AccountData) :
    (w.setData k d).setData k' d' = (w.setData k' d').setData k d := by
  simp only [setData, Function.update_comm hne]

@[simp] theorem setData_idem (d d' : AccountData) :
    (w.setData k d).setData k d' = w.setData k d' := by
  simp only [setData, Function.update_idem]

theorem setData_eq_self {d : AccountData} (h : w.data k = d) : w.setData k d = w := by
  simp only [setData, ← h, Function.update_eq_self]

theorem setLamports_comm (hne : k ≠ k') (v v' : UInt64) :
    (w.setLamports k v).setLamports k' v' = (w.setLamports k' v').setLamports k v := by
  simp only [setLamports, Function.update_comm hne]

@[simp] theorem setLamports_idem (v v' : UInt64) :
    (w.setLamports k v).setLamports k v' = w.setLamports k v' := by
  simp only [setLamports, Function.update_idem]

end World

section Funding

variable {rt : Runtime} {w w₁ w₂ : World} {payer key key' : Pubkey}

/-- What `init` transfers to an account of this balance, if anything. -/
def due (rt : Runtime) (lamports : UInt64) (space : ℕ) : Option UInt64 :=
  let rent := rt.minimumBalance space
  if lamports = 0 then some rent
  else if saturatingSubU64 (max rent 1) lamports > 0 then
    some (saturatingSubU64 (max rent 1) lamports) else none

theorem fundAccount_of_due_none {space : ℕ} (h : due rt (w.lamports key) space = none) :
    fundAccount rt w payer key space = .ok w := by
  simp only [due] at h
  simp only [fundAccount]
  split_ifs at h ⊢
  rfl

theorem fundAccount_of_due_some {space : ℕ} {amount : UInt64}
    (h : due rt (w.lamports key) space = some amount) :
    fundAccount rt w payer key space = systemTransfer w payer key amount := by
  simp only [due] at h
  simp only [fundAccount]
  split_ifs at h ⊢ <;> rw [Option.some.inj h]

theorem systemTransfer_eq_ok {amount : UInt64} :
    systemTransfer w payer key amount = .ok w₁ ↔ w.data payer = .empty ∧ ∃ remaining received,
      checkedSub (w.lamports payer) amount = some remaining ∧
      checkedAdd (w.lamports key) amount = some received ∧
        w₁ = (w.setLamports payer remaining).setLamports key received := by
  simp only [systemTransfer, bind_eq_ok, require_eq_ok, exists_unit, orError_eq_ok, pure_eq_ok,
    eq_comm (a := w₁)]
  grind

/-- A payer who can pay one amount after the other can pay them in the other order. -/
theorem checkedSub_comm {funds a b rest rest' : UInt64} (h : checkedSub funds a = some rest)
    (h' : checkedSub rest b = some rest') :
    ∃ r, checkedSub funds b = some r ∧ checkedSub r a = some rest' := by
  rw [checkedSub_eq_some] at h h'
  have hb : b ≤ funds := UInt64.le_iff_toNat_le.mpr (by omega)
  refine ⟨funds - b, ?_, ?_⟩
  · rw [checkedSub, if_pos hb]
  · rw [checkedSub_eq_some, UInt64.toNat_sub_of_le _ _ hb]
    omega

theorem systemTransfer_comm {amount amount' : UInt64} (hkey : payer ≠ key) (hkey' : payer ≠ key')
    (hne : key ≠ key') (h : systemTransfer w payer key amount = .ok w₁)
    (h' : systemTransfer w₁ payer key' amount' = .ok w₂) :
    ∃ u, systemTransfer w payer key' amount' = .ok u ∧
      systemTransfer u payer key amount = .ok w₂ := by
  rw [systemTransfer_eq_ok] at h h'
  obtain ⟨hempty, rest, received, hrest, hreceived, rfl⟩ := h
  obtain ⟨-, rest', received', hrest', hreceived', rfl⟩ := h'
  simp only [World.setLamports_lamports, Function.update_of_ne hkey,
    Function.update_of_ne hkey'.symm,
    Function.update_of_ne hne.symm, Function.update_self] at hrest' hreceived'
  obtain ⟨r, hr, hr'⟩ := checkedSub_comm hrest hrest'
  refine ⟨_, systemTransfer_eq_ok.mpr ⟨hempty, r, received', hr, hreceived', rfl⟩, ?_⟩
  refine systemTransfer_eq_ok.mpr ⟨hempty, rest', received, ?_, ?_, ?_⟩
  · simpa [Function.update_of_ne hkey'] using hr'
  · simpa [Function.update_of_ne hkey.symm, Function.update_of_ne hne] using hreceived
  · simp only [World.setLamports_comm _ hkey.symm, World.setLamports_comm _ hkey'.symm,
      World.setLamports_idem,
      World.setLamports_comm _ hne]

theorem lamports_systemTransfer {amount : UInt64} (hkey : payer ≠ key') (hne : key ≠ key')
    (h : systemTransfer w payer key amount = .ok w₁) : w₁.lamports key' = w.lamports key' := by
  obtain ⟨-, -, -, -, hothers⟩ := systemTransfer_ok h
  exact hothers key' hkey.symm hne.symm

theorem fundAccount_comm {space space' : ℕ} (hkey : payer ≠ key) (hkey' : payer ≠ key')
    (hne : key ≠ key') (h : fundAccount rt w payer key space = .ok w₁)
    (h' : fundAccount rt w₁ payer key' space' = .ok w₂) :
    ∃ u, fundAccount rt w payer key' space' = .ok u ∧
      fundAccount rt u payer key space = .ok w₂ := by
  obtain ⟨-, -, -, -, hothers, -⟩ := fundAccount_ok h
  have hkept : w₁.lamports key' = w.lamports key' := hothers key' hkey'.symm hne.symm
  cases hdue : due rt (w.lamports key) space with
  | none =>
    rw [fundAccount_of_due_none hdue] at h
    obtain rfl := Except.ok.inj h
    obtain ⟨-, -, -, -, hothers', -⟩ := fundAccount_ok h'
    refine ⟨w₂, h', fundAccount_of_due_none ?_⟩
    rw [hothers' key hkey.symm hne, hdue]
  | some amount =>
    rw [fundAccount_of_due_some hdue] at h
    cases hdue' : due rt (w.lamports key') space' with
    | none =>
      rw [fundAccount_of_due_none (by rw [hkept, hdue'])] at h'
      obtain rfl := Except.ok.inj h'
      exact ⟨w, fundAccount_of_due_none hdue', by rw [fundAccount_of_due_some hdue, h]⟩
    | some amount' =>
      rw [fundAccount_of_due_some (by rw [hkept, hdue'])] at h'
      obtain ⟨u, hu, hu'⟩ := systemTransfer_comm hkey hkey' hne h h'
      refine ⟨u, by rw [fundAccount_of_due_some hdue', hu], ?_⟩
      rw [fundAccount_of_due_some (by rw [lamports_systemTransfer hkey hne.symm hu, hdue]), hu']

theorem fundAccount_setData {space : ℕ} {k : Pubkey} {d : AccountData} (hne : payer ≠ k)
    (h : fundAccount rt w payer key space = .ok w₁) :
    fundAccount rt (w.setData k d) payer key space = .ok (w₁.setData k d) := by
  cases hdue : due rt (w.lamports key) space with
  | none =>
    rw [fundAccount_of_due_none hdue] at h
    rw [fundAccount_of_due_none (by exact hdue), ← Except.ok.inj h]
  | some amount =>
    rw [fundAccount_of_due_some hdue] at h
    rw [fundAccount_of_due_some (by exact hdue)]
    simp only [systemTransfer, bind_eq_ok, require_eq_ok, exists_unit, orError_eq_ok,
      pure_eq_ok] at h ⊢
    obtain ⟨hempty, remaining, hremaining, received, hreceived, rfl⟩ := h
    refine ⟨?_, remaining, hremaining, received, hreceived, rfl⟩
    rw [World.setData_data, Function.update_of_ne hne, hempty]

end Funding

section Creations

variable {rt : Runtime} {ctx : Context} {w w₁ w₂ : World} {payer key key' : Pubkey}
  {d d' : AccountData}

theorem createAccount_eq_ok : createAccount rt w payer key d = .ok w₁ ↔ payer ≠ key ∧
    w.data key = .empty ∧
    ∃ u, fundAccount rt w payer key d.dataLen = .ok u ∧ u.setData key d = w₁ := by
  simp only [createAccount, bind_eq_ok, require_eq_ok, exists_unit, pure_eq_ok]

theorem data_createAccount {k : Pubkey} (h : createAccount rt w payer key d = .ok w₁)
    (hne : k ≠ key) :
    w₁.data k = w.data k := by
  rw [(createAccount_ok h).data_eq, Function.update_of_ne hne]

/-- Creations of two accounts commute. -/
theorem createAccount_comm (h : createAccount rt w payer key d = .ok w₁)
    (h' : createAccount rt w₁ payer key' d' = .ok w₂) (hne : key ≠ key') :
    ∃ u, createAccount rt w payer key' d' = .ok u ∧ createAccount rt u payer key d = .ok w₂ := by
  have hkept := data_createAccount h hne.symm
  obtain ⟨hpayer, hempty, u, hfund, rfl⟩ := createAccount_eq_ok.mp h
  obtain ⟨hpayer', hempty', u', hfund', rfl⟩ := createAccount_eq_ok.mp h'
  rw [hkept] at hempty'
  -- The second payment, taken before the first account has its contents.
  have hrestore : (u.setData key d).setData key (u.data key) = u := by
    rw [World.setData_idem, World.setData_eq_self _ rfl]
  have hplain := fundAccount_setData (k := key) (d := u.data key) hpayer hfund'
  rw [hrestore] at hplain
  obtain ⟨v, hv, hv'⟩ := fundAccount_comm hpayer hpayer' hne hfund hplain
  refine ⟨v.setData key' d', createAccount_eq_ok.mpr ⟨hpayer', hempty', v, hv, rfl⟩, ?_⟩
  refine createAccount_eq_ok.mpr ⟨hpayer, ?_, _, fundAccount_setData hpayer' hv', ?_⟩
  · rw [World.setData_data, Function.update_of_ne hne, (fundAccount_ok hv).2.1, hempty]
  · have hwritten : u'.data key = d := by
      rw [(fundAccount_ok hfund').2.1, World.setData_data, Function.update_self]
    rw [World.setData_comm _ hne.symm, World.setData_idem, World.setData_eq_self _ hwritten]

/-- Other contents of the same size cost the same. -/
theorem createAccount_contents (h : createAccount rt w payer key d = .ok w₁)
    (hlen : d'.dataLen = d.dataLen) :
    createAccount rt w payer key d' = .ok (w₁.setData key d') := by
  obtain ⟨hpayer, hempty, u, hfund, rfl⟩ := createAccount_eq_ok.mp h
  exact createAccount_eq_ok.mpr ⟨hpayer, hempty, u, by rw [hlen, hfund], by rw [World.setData_idem]⟩

theorem createAccount_setData {k : Pubkey} {d₀ : AccountData} (hpayer : payer ≠ k) (hne : key ≠ k)
    (h : createAccount rt w payer key d = .ok w₁) :
    createAccount rt (w.setData k d₀) payer key d = .ok (w₁.setData k d₀) := by
  obtain ⟨hpayer', hempty, u, hfund, rfl⟩ := createAccount_eq_ok.mp h
  refine createAccount_eq_ok.mpr ⟨hpayer', ?_, _, fundAccount_setData hpayer hfund,
    World.setData_comm _ hne.symm _ _⟩
  rw [World.setData_data, Function.update_of_ne hne, hempty]

theorem createAssociatedTokenIfNeeded_eq_ok {wallet mint : Pubkey} :
    createAssociatedTokenIfNeeded rt ctx w payer key wallet mint = .ok w₁ ↔
      associatedTokenAddress rt wallet mint = some key ∧
        ((payer ∈ ctx.signers ∧
          createAccount rt w payer key (.token ⟨mint, wallet, 0, false⟩) = .ok w₁) ∨
          (w₁ = w ∧ ∃ t, w.data key = .token t ∧ t.mint = mint ∧ t.owner = wallet)) := by
  unfold createAssociatedTokenIfNeeded
  split
  · rename_i hempty
    simp only [createAssociatedToken, bind_eq_ok, requireSigner_eq_ok, require_eq_ok, exists_unit,
      hempty, reduceCtorEq,
      false_and, exists_false, and_false, or_false]
    exact and_left_comm
  · rename_i hfull
    have hnot : createAccount rt w payer key (.token ⟨mint, wallet, 0, false⟩) ≠ .ok w₁ :=
      fun h => hfull (createAccount_ok h).fresh
    simp only [bind_eq_ok, load_eq_ok, AccountData.token?_eq_some, require_eq_ok, exists_unit,
      pure_eq_ok, hnot,
      and_false, false_or, eq_comm (a := w₁)]
    grind

/-- The token account is not at an address with a record. -/
theorem ne_of_createAssociatedTokenIfNeeded {wallet mint k : Pubkey}
    (h : createAssociatedTokenIfNeeded rt ctx w payer key wallet mint = .ok w₁)
    (hrecord : (w.data k).programOwned = true) : key ≠ k := by
  rintro rfl
  obtain ⟨-, ⟨-, hcreated⟩ | ⟨-, t, ht, -⟩⟩ := createAssociatedTokenIfNeeded_eq_ok.mp h
  · simp [(createAccount_ok hcreated).fresh, AccountData.programOwned] at hrecord
  · simp [ht, AccountData.programOwned] at hrecord

theorem createAssociatedTokenIfNeeded_setData {wallet mint k : Pubkey} {d₀ : AccountData}
    (hpayer : payer ≠ k) (hne : key ≠ k)
    (h : createAssociatedTokenIfNeeded rt ctx w payer key wallet mint = .ok w₁) :
    createAssociatedTokenIfNeeded rt ctx (w.setData k d₀) payer key wallet mint = .ok
      (w₁.setData k d₀) := by
  obtain ⟨haddress, ⟨hsigner, hcreated⟩ | ⟨rfl, t, ht, hmint, howner⟩⟩ :=
    createAssociatedTokenIfNeeded_eq_ok.mp h
  · exact createAssociatedTokenIfNeeded_eq_ok.mpr
      ⟨haddress, .inl ⟨hsigner, createAccount_setData hpayer hne hcreated⟩⟩
  · refine createAssociatedTokenIfNeeded_eq_ok.mpr ⟨haddress, .inr ⟨rfl, t, ?_, hmint, howner⟩⟩
    rw [World.setData_data, Function.update_of_ne hne, ht]

/-- A new account and the token account can be created in either order. -/
theorem createAccount_token_comm {wallet mint : Pubkey} (hrecord : d.programOwned = true) :
    (∃ u, createAssociatedTokenIfNeeded rt ctx w payer key' wallet mint = .ok u ∧
      createAccount rt u payer key d = .ok w₂) ↔
    ∃ u, createAccount rt w payer key d = .ok u ∧
      createAssociatedTokenIfNeeded rt ctx u payer key' wallet mint = .ok w₂ := by
  constructor
  · rintro ⟨u, htoken, hcreate⟩
    have hfresh := (createAccount_ok hcreate).fresh
    obtain ⟨haddress, ⟨hsigner, hcreated⟩ | ⟨rfl, t, ht, hmint, howner⟩⟩ :=
      createAssociatedTokenIfNeeded_eq_ok.mp htoken
    · have hne : key' ≠ key := World.ne_of_data (createAccount_ok hcreated).at_key hfresh (by simp)
      obtain ⟨v, hv, hv'⟩ := createAccount_comm hcreated hcreate hne
      exact ⟨v, hv, createAssociatedTokenIfNeeded_eq_ok.mpr ⟨haddress, .inl ⟨hsigner, hv'⟩⟩⟩
    · have hne : key' ≠ key := World.ne_of_data ht hfresh (by simp)
      refine ⟨w₂, hcreate,
        createAssociatedTokenIfNeeded_eq_ok.mpr ⟨haddress, .inr ⟨rfl, t, ?_, hmint, howner⟩⟩⟩
      rw [data_createAccount hcreate hne, ht]
  · rintro ⟨u, hcreate, htoken⟩
    have hne : key' ≠ key :=
      ne_of_createAssociatedTokenIfNeeded htoken
        (by rw [(createAccount_ok hcreate).at_key, hrecord])
    obtain ⟨haddress, ⟨hsigner, hcreated⟩ | ⟨rfl, t, ht, hmint, howner⟩⟩ :=
      createAssociatedTokenIfNeeded_eq_ok.mp htoken
    · obtain ⟨v, hv, hv'⟩ := createAccount_comm hcreate hcreated hne.symm
      exact ⟨v, createAssociatedTokenIfNeeded_eq_ok.mpr ⟨haddress, .inl ⟨hsigner, hv⟩⟩, hv'⟩
    · rw [data_createAccount hcreate hne] at ht
      exact ⟨w, createAssociatedTokenIfNeeded_eq_ok.mpr
        ⟨haddress, .inr ⟨rfl, t, ht, hmint, howner⟩⟩, hcreate⟩

theorem initAccount_eq_ok {seeds : List Bytes} {contents : UInt8 → AccountData} :
    initAccount rt ctx w payer key seeds contents = .ok w₁ ↔ payer ∈ ctx.signers ∧
      ∃ bump, findProgramAddress rt rt.programId seeds = some (key, bump) ∧
        createAccount rt w payer key (contents bump) = .ok w₁ := by
  simp only [initAccount, bind_eq_ok, requireSigner_eq_ok, require_eq_ok, exists_unit,
    orError_eq_ok, Prod.exists]
  grind

end Creations

/-- What a wallet is created from, in one step or in two. -/
structure WalletCreation extends InitializeVaultAndGrantSession, SessionPolicy where
  rootPublicKey : FixedBytes 33
  rootKeyHash : FixedBytes 32
  userSalt : FixedBytes 32

namespace WalletCreation

def initializeVaultCall (c : WalletCreation) (proof : RootProof) : Call :=
  .initializeVault
    { payer := c.payer, config := c.config, vault := c.vault, stablecoinMint := c.stablecoinMint
      vaultTokenAccount := c.vaultTokenAccount }
    { toRootProof := proof, rootPublicKey := c.rootPublicKey, rootKeyHash := c.rootKeyHash
      userSalt := c.userSalt }

def grantSessionCall (c : WalletCreation) (proof : RootProof) : Call :=
  .grantSession { payer := c.payer, config := c.config, vault := c.vault, session := c.session }
    { toSessionPolicy := c.toSessionPolicy, toRootProof := proof, vaultNonce := 0 }

def initializeVaultAndGrantSessionCall (c : WalletCreation) (proof : RootProof) : Call :=
  .initializeVaultAndGrantSession c.toInitializeVaultAndGrantSession
    { toSessionPolicy := c.toSessionPolicy, toRootProof := proof, rootPublicKey := c.rootPublicKey
      rootKeyHash := c.rootKeyHash, userSalt := c.userSalt }

/-- The two instructions one after the other, in transactions of their own. -/
def twoSteps (rt : Runtime) (c : WalletCreation) (ctx₁ ctx₂ : Context) (proof₁ proof₂ : RootProof)
    (w : World) :
    Outcome World := do
  let w₁ ← exec rt ctx₁ (c.initializeVaultCall proof₁) w
  exec rt ctx₂ (c.grantSessionCall proof₂) w₁

def vaultRecord (c : WalletCreation) (bump : UInt8) (nonce : UInt64) (now : Int64) : AccountData :=
  .vault (newVault bump c.rootPublicKey c.rootKeyHash c.userSalt nonce now)

def sessionRecord (c : WalletCreation) (bump : UInt8) : AccountData :=
  .session (writeSession bump c.vault c.toSessionPolicy)

/-- What both ways check before anything else, apart from their proofs. -/
structure Permitted (rt : Runtime) (c : WalletCreation) (signers : List Pubkey) (w : World)
    (config : ProtocolConfig) (bump bump' : UInt8) : Prop where
  configured : w.data c.config = .config config
  mint : ∃ m, w.data c.stablecoinMint = .mint m
  signed : c.payer ∈ signers
  vaultAddress :
    findProgramAddress rt rt.programId (vaultSeeds c.rootKeyHash c.userSalt) = some (c.vault, bump)
  sessionAddress : findProgramAddress rt rt.programId (sessionSeeds c.vault c.sessionPublicKey) =
    some (c.session, bump')
  address : requireConfig rt config c.config = .ok ()
  unpaused : requireUnpaused config = .ok ()
  stablecoin : requireStablecoin config c.stablecoinMint = .ok ()
  stablecoinAddress : c.stablecoinMint = config.stablecoinMint
  rootKeyHash : rt.sha256 c.rootPublicKey.toList = c.rootKeyHash
  policy : validateSessionPolicy c.toSessionPolicy = .ok ()

/-- The proof of a root call is accepted, for the challenge of its own action. -/
def ProofValid (rt : Runtime) (ctx : Context) (w : World) (c : WalletCreation)
    (call : Call) : Prop :=
  ∀ config action proof, w.data c.config = .config config →
  call.rootAction? rt config = some action →
    call.rootProof? = some proof →
    authorizeRoot rt config ctx w.now c.rootPublicKey action proof = .ok ()

variable {rt : Runtime} {c : WalletCreation} {ctx ctx₁ ctx₂ : Context}
  {proof proof₁ proof₂ : RootProof}
  {w w' : World}

theorem initializeVaultAndGrantSession_eq_ok
    (hproof : ProofValid rt ctx w c (c.initializeVaultAndGrantSessionCall proof)) :
    exec rt ctx (c.initializeVaultAndGrantSessionCall proof) w = .ok w' ↔
      ∃ config bump bump', Permitted rt c ctx.signers w config bump bump' ∧
        ∃ u₁, createAccount rt w c.payer c.vault (c.vaultRecord bump 1 w.now) = .ok u₁ ∧
        ∃ u₂, createAccount rt u₁ c.payer c.session (c.sessionRecord bump') = .ok u₂ ∧
        createAssociatedTokenIfNeeded rt ctx u₂ c.payer c.vaultTokenAccount c.vault
          c.stablecoinMint = .ok w' := by
  simp only [exec, initializeVaultAndGrantSessionCall, initializeVaultAndGrantSession, bind_eq_ok,
    load_eq_ok,
    AccountData.config?_eq_some, AccountData.mint?_eq_some, initAccount_eq_ok, exists_unit,
    requireStablecoinAddress_eq_ok, require_eq_ok, pure_eq_ok]
  constructor
  · rintro ⟨config, hconfig, m, hmint, u₁, ⟨hsigned, bump, hvault, hu₁⟩, u₂,
      ⟨-, bump', hsession, hu₂⟩, u₃, hu₃,
      haddress, hunpaused, hstablecoin, hmintAddress, hhash, hpolicy, -, rfl⟩
    exact ⟨config, bump, bump',
      ⟨hconfig, ⟨m, hmint⟩, hsigned, hvault, hsession, haddress, hunpaused, hstablecoin,
      hmintAddress, hhash, hpolicy⟩, u₁, hu₁, u₂, hu₂, hu₃⟩
  · rintro ⟨config, bump, bump', h, u₁, hu₁, u₂, hu₂, hu₃⟩
    obtain ⟨m, hmint⟩ := h.mint
    exact ⟨config, h.configured, m, hmint, u₁, ⟨h.signed, bump, h.vaultAddress, hu₁⟩, u₂,
      ⟨h.signed, bump', h.sessionAddress, hu₂⟩, w',
      hu₃, h.address, h.unpaused, h.stablecoin, h.stablecoinAddress, h.rootKeyHash, h.policy,
      hproof _ _ _ h.configured rfl rfl, rfl⟩

/-- An account with contents stays as it is while a wallet's token account is created. -/
theorem data_token_of_ne {wallet mint payer key k : Pubkey}
    (h : createAssociatedTokenIfNeeded rt ctx w payer key wallet mint = .ok w') (hne : key ≠ k) :
    w'.data k = w.data k := by
  obtain ⟨-, ⟨-, hcreated⟩ | ⟨rfl, -⟩⟩ := createAssociatedTokenIfNeeded_eq_ok.mp h
  · exact data_createAccount hcreated hne.symm
  · rfl

/-- What the second instruction finds after the first. -/
theorem after_initializeVault {u₁ u₂ : World} {bump : UInt8} {config : ProtocolConfig}
    (hcreate : createAccount rt w c.payer c.vault (c.vaultRecord bump 0 w.now) = .ok u₁)
    (htoken : createAssociatedTokenIfNeeded rt ctx u₁ c.payer c.vaultTokenAccount c.vault
      c.stablecoinMint = .ok u₂)
    (hconfig : w.data c.config = .config config) :
    u₂.data c.vault = c.vaultRecord bump 0 w.now ∧ u₂.data c.config = .config config ∧
    u₂.now = w.now := by
  have hcreated := createAccount_ok hcreate
  have hne : c.config ≠ c.vault := World.ne_of_data hconfig hcreated.fresh (by simp)
  have hconfig₁ : u₁.data c.config = .config config := by
    rw [data_createAccount hcreate hne, hconfig]
  have hkept : ∀ k, (u₁.data k).programOwned = true → u₂.data k = u₁.data k := fun k hk =>
    data_token_of_ne htoken (ne_of_createAssociatedTokenIfNeeded htoken hk)
  refine ⟨?_, ?_, ?_⟩
  · rw [hkept _ (by rw [hcreated.at_key]; rfl), hcreated.at_key]
  · rw [hkept _ (by rw [hconfig₁]; rfl), hconfig₁]
  · obtain ⟨-, ⟨-, htokenCreated⟩ | ⟨rfl, -⟩⟩ := createAssociatedTokenIfNeeded_eq_ok.mp htoken
    · rw [(createAccount_ok htokenCreated).now_eq, hcreated.now_eq]
    · exact hcreated.now_eq

theorem twoSteps_eq_ok (hproof₁ : ProofValid rt ctx₁ w c (c.initializeVaultCall proof₁))
    (hproof₂ : ProofValid rt ctx₂ w c (c.grantSessionCall proof₂))
    (hsigners : ctx₂.signers = ctx₁.signers) :
    c.twoSteps rt ctx₁ ctx₂ proof₁ proof₂ w = .ok w' ↔
      ∃ config bump bump', Permitted rt c ctx₁.signers w config bump bump' ∧
        ∃ u₁, createAccount rt w c.payer c.vault (c.vaultRecord bump 0 w.now) = .ok u₁ ∧
        ∃ u₂, createAssociatedTokenIfNeeded rt ctx₁ u₁ c.payer c.vaultTokenAccount c.vault
          c.stablecoinMint = .ok u₂ ∧
        ∃ u₃, createAccount rt u₂ c.payer c.session (c.sessionRecord bump') = .ok u₃ ∧
          u₃.setData c.vault (c.vaultRecord bump 1 w.now) = w' := by
  simp only [twoSteps, exec, initializeVaultCall, grantSessionCall, initializeVault,
    grantSession_eq, bind_eq_ok,
    load_eq_ok, AccountData.config?_eq_some, AccountData.mint?_eq_some, AccountData.vault?_eq_some,
    initAccount_eq_ok,
    exists_unit, requireStablecoinAddress_eq_ok, require_eq_ok, pure_eq_ok]
  constructor
  · rintro ⟨_, ⟨config, hconfig, m, hmint, u₁, ⟨hsigned, bump, hvault, hu₁⟩, u₂, hu₂, haddress,
      hunpaused, hstablecoin,
      hmintAddress, hhash, -, rfl⟩, config', hconfig', vault, hrecord, u₃,
      ⟨-, bump', hsession, hu₃⟩, -, -, -, -, hpolicy,
      -, nonce, hnonce, rfl⟩
    obtain ⟨hvault₂, -, -⟩ := after_initializeVault hu₁ hu₂ hconfig
    obtain rfl := AccountData.vault.inj (hrecord.symm.trans hvault₂)
    obtain rfl : 1 = nonce := Except.ok.inj hnonce
    exact ⟨config, bump, bump',
      ⟨hconfig, ⟨m, hmint⟩, hsigned, hvault, hsession, haddress, hunpaused, hstablecoin,
      hmintAddress, hhash, hpolicy⟩, u₁, hu₁, u₂, hu₂, u₃, hu₃, rfl⟩
  · rintro ⟨config, bump, bump', h, u₁, hu₁, u₂, hu₂, u₃, hu₃, rfl⟩
    obtain ⟨m, hmint⟩ := h.mint
    obtain ⟨hvault₂, hconfig₂, hnow⟩ := after_initializeVault hu₁ hu₂ h.configured
    refine ⟨u₂, ⟨config, h.configured, m, hmint, u₁, ⟨h.signed, bump, h.vaultAddress, hu₁⟩, u₂, hu₂,
      h.address,
      h.unpaused, h.stablecoin, h.stablecoinAddress, h.rootKeyHash,
      hproof₁ _ _ _ h.configured rfl rfl, rfl⟩, ?_⟩
    refine ⟨config, hconfig₂, _, hvault₂, u₃, ⟨hsigners ▸ h.signed, bump', h.sessionAddress, hu₃⟩,
      h.address, h.unpaused,
      ?_, rfl, h.policy, ?_, 1, rfl, rfl⟩
    · exact require_eq_ok.mpr (createProgramAddress_of_find h.vaultAddress)
    · rw [hnow]
      exact hproof₂ _ _ _ h.configured rfl rfl

/-- The creations of the two ways end in the same ledger. -/
theorem creations_eq {bump bump' : UInt8} :
    (∃ u₁, createAccount rt w c.payer c.vault (c.vaultRecord bump 0 w.now) = .ok u₁ ∧
      ∃ u₂, createAssociatedTokenIfNeeded rt ctx u₁ c.payer c.vaultTokenAccount c.vault
        c.stablecoinMint = .ok u₂ ∧
      ∃ u₃, createAccount rt u₂ c.payer c.session (c.sessionRecord bump') = .ok u₃ ∧
        u₃.setData c.vault (c.vaultRecord bump 1 w.now) = w') ↔
    ∃ u₁, createAccount rt w c.payer c.vault (c.vaultRecord bump 1 w.now) = .ok u₁ ∧
      ∃ u₂, createAccount rt u₁ c.payer c.session (c.sessionRecord bump') = .ok u₂ ∧
      createAssociatedTokenIfNeeded rt ctx u₂ c.payer c.vaultTokenAccount c.vault c.stablecoinMint =
        .ok w' := by
  constructor
  · rintro ⟨u₁, hu₁, u₂, hu₂, u₃, hu₃, rfl⟩
    have hvault₁ := (createAccount_ok hu₁).at_key
    have hpayer := (createAccount_ok hu₁).payer_ne
    have htoken : c.vaultTokenAccount ≠ c.vault :=
      ne_of_createAssociatedTokenIfNeeded hu₂ (by rw [hvault₁]; rfl)
    have hvault₂ : u₂.data c.vault = c.vaultRecord bump 0 w.now := by
      rw [data_token_of_ne hu₂ htoken, hvault₁]
    have hsession : c.session ≠ c.vault :=
      World.ne_of_data (createAccount_ok hu₃).fresh hvault₂ (by simp [vaultRecord])
    refine ⟨_, createAccount_contents hu₁ rfl, (createAccount_token_comm rfl).mp ?_⟩
    exact ⟨u₂.setData c.vault (c.vaultRecord bump 1 w.now),
      createAssociatedTokenIfNeeded_setData hpayer htoken hu₂,
      createAccount_setData hpayer hsession hu₃⟩
  · rintro ⟨u₁, hu₁, h⟩
    obtain ⟨u₂, hu₂, hu₃⟩ := (createAccount_token_comm rfl).mpr h
    have hvault₁ := (createAccount_ok hu₁).at_key
    have hpayer := (createAccount_ok hu₁).payer_ne
    have htoken : c.vaultTokenAccount ≠ c.vault :=
      ne_of_createAssociatedTokenIfNeeded hu₂ (by rw [hvault₁]; rfl)
    have hvault₂ : u₂.data c.vault = c.vaultRecord bump 1 w.now := by
      rw [data_token_of_ne hu₂ htoken, hvault₁]
    have hsession : c.session ≠ c.vault :=
      World.ne_of_data (createAccount_ok hu₃).fresh hvault₂ (by simp [vaultRecord])
    have hvault₃ : w'.data c.vault = c.vaultRecord bump 1 w.now := by
      rw [data_createAccount hu₃ hsession.symm, hvault₂]
    refine ⟨_, createAccount_contents hu₁ rfl, _,
      createAssociatedTokenIfNeeded_setData hpayer htoken hu₂, _,
      createAccount_setData hpayer hsession hu₃, ?_⟩
    rw [World.setData_idem, World.setData_eq_self _ hvault₃]

theorem createAssociatedTokenIfNeeded_signers {payer key wallet mint : Pubkey}
    (h : ctx₁.signers = ctx.signers) :
    createAssociatedTokenIfNeeded rt ctx₁ w payer key wallet mint =
      createAssociatedTokenIfNeeded rt ctx w payer key wallet mint := by
  simp only [createAssociatedTokenIfNeeded, createAssociatedToken, requireSigner, h]

/-- What the wallet's accounts hold after their creation. -/
theorem created_accounts {u₁ u₂ : World} {bump bump' : UInt8} {now : Int64}
    (hu₁ : createAccount rt w c.payer c.vault (c.vaultRecord bump 1 now) = .ok u₁)
    (hu₂ : createAccount rt u₁ c.payer c.session (c.sessionRecord bump') = .ok u₂)
    (hu₃ : createAssociatedTokenIfNeeded rt ctx u₂ c.payer c.vaultTokenAccount c.vault
      c.stablecoinMint = .ok w') :
    w'.data c.vault = c.vaultRecord bump 1 now ∧ w'.data c.session = c.sessionRecord bump' ∧
      ∃ t, w'.data c.vaultTokenAccount = .token t ∧ t.owner = c.vault ∧
        t.mint = c.stablecoinMint := by
  have hvault₁ := (createAccount_ok hu₁).at_key
  have hsession₂ := (createAccount_ok hu₂).at_key
  have hne : c.vault ≠ c.session :=
    World.ne_of_data hvault₁ (createAccount_ok hu₂).fresh (by simp [vaultRecord])
  have hvault₂ : u₂.data c.vault = c.vaultRecord bump 1 now := by
    rw [data_createAccount hu₂ hne, hvault₁]
  have hkept : ∀ k, (u₂.data k).programOwned = true → w'.data k = u₂.data k := fun k hk =>
    data_token_of_ne hu₃ (ne_of_createAssociatedTokenIfNeeded hu₃ hk)
  refine ⟨?_, ?_, ?_⟩
  · rw [hkept _ (by rw [hvault₂]; rfl), hvault₂]
  · rw [hkept _ (by rw [hsession₂]; rfl), hsession₂]
  · obtain ⟨-, ⟨-, hcreated⟩ | ⟨rfl, t, ht, hmint, howner⟩⟩ :=
      createAssociatedTokenIfNeeded_eq_ok.mp hu₃
    · exact ⟨_, (createAccount_ok hcreated).at_key, rfl, rfl⟩
    · exact ⟨t, ht, howner, hmint⟩

/-- Creation in two steps succeeds exactly if creation in one step does, and they leave the same
ledger, with the vault at nonce 1, the unused session and the vault's token account. -/
theorem steps_equivalent (hsigners₁ : ctx₁.signers = ctx.signers)
    (hsigners₂ : ctx₂.signers = ctx.signers)
    (hproof₁ : ProofValid rt ctx₁ w c (c.initializeVaultCall proof₁))
    (hproof₂ : ProofValid rt ctx₂ w c (c.grantSessionCall proof₂))
    (hproof : ProofValid rt ctx w c (c.initializeVaultAndGrantSessionCall proof)) :
    (∀ w', c.twoSteps rt ctx₁ ctx₂ proof₁ proof₂ w = .ok w' ↔
      exec rt ctx (c.initializeVaultAndGrantSessionCall proof) w = .ok w') ∧
    ∀ w', exec rt ctx (c.initializeVaultAndGrantSessionCall proof) w = .ok w' →
      (∃ bump, w'.data c.vault = c.vaultRecord bump 1 w.now) ∧
      (∃ bump, w'.data c.session = c.sessionRecord bump) ∧
        ∃ t, w'.data c.vaultTokenAccount = .token t ∧ t.owner = c.vault ∧
          t.mint = c.stablecoinMint := by
  constructor
  · intro w'
    rw [twoSteps_eq_ok hproof₁ hproof₂ (hsigners₂.trans hsigners₁.symm),
      initializeVaultAndGrantSession_eq_ok hproof]
    simp only [creations_eq, hsigners₁, createAssociatedTokenIfNeeded_signers hsigners₁]
  · intro w' h
    obtain ⟨config, bump, bump', -, u₁, hu₁, u₂, hu₂, hu₃⟩ :=
      (initializeVaultAndGrantSession_eq_ok hproof).mp h
    obtain ⟨hvault, hsession, htoken⟩ := created_accounts hu₁ hu₂ hu₃
    exact ⟨⟨bump, hvault⟩, ⟨bump', hsession⟩, htoken⟩

end WalletCreation

namespace Devnet
open WalletCreation

def creation : WalletCreation :=
  { toSessionPolicy := policy, payer := payer, config := config, vault := vault, session := session
    stablecoinMint := stablecoinMint, vaultTokenAccount := vaultTokenAccount, rootPublicKey :=
      rootPublicKey
    rootKeyHash := rootKeyHash, userSalt := userSalt }

/-- The actions of the two separate instructions. -/
def firstAction : RootAction :=
  .initializeVault scope vault vaultTokenAccount rootPublicKey rootKeyHash userSalt 1750000110

def secondAction : RootAction := .grantSession scope vault session policy 0 1750000115

def firstChallenge : String := "ux7VZ94nVeiyMk6puQEbkqtzG0qjTIQi4a5ZU83QUvk"
def secondChallenge : String := "qivl-gf7EE54gs6rapEQXB1SGrgJAQu5AZlr5UnQT7g"

def firstDigest : FixedBytes 32 :=
  beBytes 32 0xbb1ed567de2755e8b2324ea9b9011b92ab731b4aa34c8422e1ae5953cdd052f9
def secondDigest : FixedBytes 32 :=
  beBytes 32 0xaa2be5fa07fb104e7882ceab6a91105c1d521ab809010bb901996be549d04fb8

def walletDigests : List (Bytes × FixedBytes 32) :=
  [(firstAction.preimage, firstDigest), (secondAction.preimage, secondDigest),
    (clientDataJson firstChallenge,
      beBytes 32 0x73f0f4b2282432f33757e2ec1f1f011b5fcbf66287ecdbb9914780f310b98d35),
    (clientDataJson secondChallenge,
      beBytes 32 0x683340a170623934194b24f4712235c9bf39997909573fb83f80045bb3e65ffc)]

/-- The tables of the run, with the entries of the two separate instructions. -/
def walletRuntime : Runtime :=
  { runtime with
    sha256 := fun bytes => (walletDigests.lookup bytes).getD (runtime.sha256 bytes)
    parseClientData := fun bytes =>
      [(clientDataJson firstChallenge, clientData firstChallenge),
        (clientDataJson secondChallenge, clientData secondChallenge)].lookup bytes <|>
          runtime.parseClientData bytes
    decodeBase64Url := fun text =>
      [(firstChallenge, firstDigest.toList), (secondChallenge, secondDigest.toList)].lookup text <|>
        runtime.decodeBase64Url text }

def walletContext (signature : FixedBytes 64) (signCount : UInt8) (challenge : String) : Context :=
  { signers := [payer, secondPayer]
    instructions :=
      [verification signature (authenticatorData signCount ++
        (walletRuntime.sha256 (clientDataJson challenge)).toList), ⟨programId, [], []⟩]
    currentIndex := 1 }

def firstContext : Context :=
  walletContext
    (beBytes 64 0xf28aa7339c2f9f559e92a1b2119c0f7066485478eb6eb65b22097b8f0be8280625f9e2ddadf801c01bb6311cf4ff84523355f863f8e59a1288dda283a0de558e) 1 firstChallenge

def secondContext : Context :=
  walletContext
    (beBytes 64 0x789fdde6349b772aa4247be9da24f4105e9bb95388887a6ac593f19ec9d78fb7393fdad4902812d7c5abba0b6d3ab28ff789a051ee7cdaa6c7b6a12b9816fe8e) 2 secondChallenge

def firstProof : RootProof := proof 1750000110 1 firstChallenge

def secondProof : RootProof := proof 1750000115 2 secondChallenge

/-- The ledger after the protocol's initialisation. -/
def ready : World := genesis.setData config (.config protocolConfig)

theorem proofValid_of_ready {rt : Runtime} {ctx : Context} {call : Call} {action : RootAction}
    {proof : RootProof} (haction : call.rootAction? rt protocolConfig = some action)
    (hproof : call.rootProof? = some proof)
    (h : (authorizeRoot rt protocolConfig ctx now rootPublicKey action proof).toBool = true) :
    ProofValid rt ctx ready creation call := by
  intro config' action' proof' hconfig haction' hproof'
  obtain rfl : protocolConfig = config' := AccountData.config.inj hconfig
  obtain rfl := Option.some.inj (haction.symm.trans haction')
  obtain rfl := Option.some.inj (hproof.symm.trans hproof')
  obtain ⟨_, hok⟩ := eq_ok_of_toBool h
  exact hok

theorem steps_equivalent_devnet : ∃ w',
    exec walletRuntime setUpContext
      (creation.initializeVaultAndGrantSessionCall setUpProof) ready = .ok w' ∧
    creation.twoSteps walletRuntime firstContext secondContext firstProof secondProof
      ready = .ok w' ∧
    ∃ bump, w'.data vault = creation.vaultRecord bump 1 ready.now := by
  have hfirst : ProofValid walletRuntime firstContext ready creation
      (creation.initializeVaultCall firstProof) :=
    proofValid_of_ready rfl rfl (by decide +kernel)
  have hsecond : ProofValid walletRuntime secondContext ready creation
      (creation.grantSessionCall secondProof) :=
    proofValid_of_ready rfl rfl (by decide +kernel)
  have honce : ProofValid walletRuntime setUpContext ready creation
      (creation.initializeVaultAndGrantSessionCall setUpProof) :=
    proofValid_of_ready rfl rfl (by decide +kernel)
  have hsucceeds :
      (exec walletRuntime setUpContext (creation.initializeVaultAndGrantSessionCall setUpProof)
      ready).toBool = true := by
    decide +kernel
  obtain ⟨w', hw'⟩ := eq_ok_of_toBool hsucceeds
  have hsigners₁ : firstContext.signers = setUpContext.signers := rfl
  have hsigners₂ : secondContext.signers = setUpContext.signers := rfl
  obtain ⟨hiff, hafter⟩ := steps_equivalent hsigners₁ hsigners₂ hfirst hsecond honce
  exact ⟨w', hw', (hiff w').mpr hw', (hafter w' hw').1⟩

end Devnet

end VeriAgentPay
