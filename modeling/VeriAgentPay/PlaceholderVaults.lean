import VeriAgentPay.IdentityPersistence

/-!
# Addresses of handles without a passkey

Every address that the identity service stores is derived: for a registered passkey from its key,
for a handle that nobody has registered from 32 zero bytes in the place of the key's hash. An
address of the second kind is a vault of a passkey only if the hash of that passkey is zero.
-/

namespace VeriAgentPay.Identity
open FixedWidth CheckedOutcome Client UnreliableStores IdentityService LabelledRuns
open Backend (Failure SmartWallet truthy isSolanaAddress findProgramAddressSync toBase58_injective)

section Derivations

variable {rt : Runtime}

/-- The hash in the place of that of a key that is not known yet. -/
def placeholderHash : FixedBytes 32 := List.Vector.replicate 32 0

/-- The address is a vault whose root key is this one. -/
def ControlledBy (rt : Runtime) (publicKeyX publicKeyY address : String) : Prop :=
  ∃ rootHash salt : FixedBytes 32, rootKeyHash rt publicKeyX publicKeyY = .ok rootHash ∧
    deriveVaultAddress rt rootHash.toList salt.toList = .ok address

def PlaceholderVault (rt : Runtime) (address : String) : Prop :=
  ∃ salt : FixedBytes 32, deriveVaultAddress rt placeholderHash.toList salt.toList = .ok address

/-- A vault address determines the hash of its root key. -/
theorem deriveVaultAddress_inj (hpda : PdaInjective rt)
    {rootHash rootHash' salt salt' : FixedBytes 32} {address : String}
    (h : deriveVaultAddress rt rootHash.toList salt.toList = .ok address)
    (h' : deriveVaultAddress rt rootHash'.toList salt'.toList = .ok address) :
    rootHash = rootHash' := by
  simp only [deriveVaultAddress, findProgramAddressSync, bind_eq_ok, pure_eq_ok,
    orError_eq_ok] at h h'
  obtain ⟨-, -, key, hkey, rfl⟩ := h
  obtain ⟨-, -, key', hkey', heq⟩ := h'
  obtain rfl := toBase58_injective heq
  obtain ⟨⟨key', bump⟩, hfind, rfl⟩ := Option.map_eq_some_iff.mp hkey
  obtain ⟨⟨key'', bump'⟩, hfind', hkeys⟩ := Option.map_eq_some_iff.mp hkey'
  obtain rfl : key'' = key' := hkeys
  have hseeds :=
    (hpda _ _ _ _ _ (createProgramAddress_of_find hfind) (createProgramAddress_of_find hfind')).2
  simp only [List.flatten_cons, List.append_assoc] at hseeds
  have hrest := List.append_cancel_left hseeds
  have hlengths : rootHash.toList.length = rootHash'.toList.length := by simp
  exact List.Vector.toList_injective (List.append_inj hrest hlengths).1

theorem controlledBy_placeholder_iff (hpda : PdaInjective rt)
    {publicKeyX publicKeyY address : String} (hplaceholder : PlaceholderVault rt address) :
    ControlledBy rt publicKeyX publicKeyY address ↔
    rootKeyHash rt publicKeyX publicKeyY = .ok placeholderHash := by
  obtain ⟨salt, hsalt⟩ := hplaceholder
  constructor
  · rintro ⟨rootHash, salt', hroot, hsalt'⟩
    rw [hroot, deriveVaultAddress_inj hpda hsalt' hsalt]
  · intro hroot
    exact ⟨placeholderHash, salt, hroot, hsalt⟩

theorem controlledBy_of_deriveVaultFromPasskey
    {publicKeyX publicKeyY platform platformId address : String} {salt : FixedBytes 32}
    (h : deriveVaultFromPasskey rt publicKeyX publicKeyY platform platformId = .ok
      (address, salt)) :
    ControlledBy rt publicKeyX publicKeyY address := by
  simp only [deriveVaultFromPasskey, bind_eq_ok, pure_eq_ok] at h
  obtain ⟨rootHash, hroot, address', haddress, heq⟩ := h
  obtain ⟨rfl, rfl⟩ := Prod.mk.inj heq
  exact ⟨rootHash, _, hroot, haddress⟩

theorem placeholderVault_of_counterfactual {d : Setting} {lookup : Lookup} {salt address : String}
    (h : counterfactualWallet d lookup = .ok (salt, address)) : PlaceholderVault d.rt address := by
  simp only [counterfactualWallet, computeCounterfactualAddress, bind_eq_ok, pure_eq_ok] at h
  obtain ⟨address', ⟨rootHash, hroot, salt', hsalt, hderive⟩, heq⟩ := h
  obtain ⟨-, rfl⟩ := Prod.mk.inj heq
  obtain rfl := Except.ok.inj (hroot.symm.trans (Backend.bytes32FromStored_toHex placeholderHash))
  obtain rfl := Except.ok.inj (hsalt.symm.trans (Backend.bytes32FromStored_toHex _))
  exact ⟨_, hderive⟩

end Derivations

section Provenance

variable {K : String → Prop} {t t' : Tables}

/-- Every address in the tables is one of `K`. -/
structure Stored (K : String → Prop) (t : Tables) : Prop where
  wallets : ∀ user ∈ t.users, ∀ wallet, user.smartWallet = some wallet → K wallet.address
  handles : ∀ handle address, t.handles handle = some address → K address

theorem Stored.addressOf (h : Stored K t) {user : User} (huser : user ∈ t.users) {address : String}
    (haddress : addressOf (some user) = some address) : K address := by
  obtain ⟨haddress, -⟩ := Option.filter_eq_some_iff.mp haddress
  obtain ⟨wallet, hwallet, rfl⟩ := Option.map_eq_some_iff.mp haddress
  exact h.wallets user huser wallet hwallet

theorem Stored.ownerOf (h : Stored K t) {node : SocialNode} {address : String}
    (haddress : Identity.addressOf (t.ownerOf node) = some address) : K address := by
  cases howner : t.ownerOf node with
  | none => simp [howner, Identity.addressOf, truthy] at haddress
  | some user =>
    rw [howner] at haddress
    exact h.addressOf (List.mem_of_find?_eq_some howner) haddress

theorem Stored.setHandle (h : Stored K t) {handle address : String} (haddress : K address) :
    Stored K (t.setHandle handle address) := by
  refine ⟨h.wallets, ?_⟩
  intro handle' address' hget
  by_cases hsame : handle' = handle
  · subst hsame
    simp only [Tables.setHandle, Function.update_self, Option.some.injEq] at hget
    exact hget ▸ haddress
  · simp only [Tables.setHandle, Function.update_of_ne hsame] at hget
    exact h.handles handle' address' hget

theorem Stored.upsertNode (h : Stored K t) {p i : String} {update : SocialNode → SocialNode}
    {create : SocialNode} (hwrite : t.upsertNode p i update create = .ok t') : Stored K t' := by
  unfold Tables.upsertNode at hwrite
  cases hfind : t.nodes.find? (·.key = (p, i)) with
  | some node =>
    simp only [hfind, bind_eq_ok, pure_eq_ok] at hwrite
    obtain ⟨-, -, -, -, rfl⟩ := hwrite
    exact ⟨h.wallets, h.handles⟩
  | none =>
    simp only [hfind, bind_eq_ok, pure_eq_ok] at hwrite
    obtain ⟨-, -, -, -, rfl⟩ := hwrite
    exact ⟨h.wallets, h.handles⟩

theorem Stored.updateUser (h : Stored K t) {id : String} {data : User → User}
    (hdata : ∀ row ∈ t.users, ∀ wallet, (data row).smartWallet = some wallet → K wallet.address)
    (hwrite : t.updateUser id data = .ok t') : Stored K t' := by
  simp only [Tables.updateUser, bind_eq_ok, pure_eq_ok] at hwrite
  obtain ⟨-, -, -, -, rfl⟩ := hwrite
  refine ⟨?_, h.handles⟩
  intro user huser wallet hwallet
  obtain ⟨row, hrow, rfl⟩ := List.mem_map.mp huser
  by_cases hid : row.id = id
  · rw [if_pos hid] at hwallet
    exact hdata row hrow wallet hwallet
  · rw [if_neg hid] at hwallet
    exact h.wallets row hrow wallet hwallet

/-- An update that leaves the wallets alone. -/
theorem Stored.updateRow (h : Stored K t) {id : String} {data : User → User}
    (hdata : ∀ row, (data row).smartWallet = row.smartWallet)
    (hwrite : t.updateUser id data = .ok t') : Stored K t' := by
  apply h.updateUser _ hwrite
  intro row hrow wallet hwallet
  rw [hdata] at hwallet
  exact h.wallets row hrow wallet hwallet

theorem Stored.createUser (h : Stored K t) {user : User}
    (huser : ∀ wallet, user.smartWallet = some wallet → K wallet.address)
    (hwrite : t.createUser user = .ok t') :
    Stored K t' := by
  simp only [Tables.createUser, bind_eq_ok, pure_eq_ok] at hwrite
  obtain ⟨-, -, rfl⟩ := hwrite
  refine ⟨?_, h.handles⟩
  intro row hrow wallet hwallet
  rcases List.mem_append.mp hrow with hrow | hrow
  · exact h.wallets row hrow wallet hwallet
  · obtain rfl := List.mem_singleton.mp hrow
    exact huser wallet hwallet

end Provenance

section Operations

variable {d : Setting} {K : String → Prop}

theorem ensures_stored_findUser (p : User → Bool) :
    Ensures (Stored K) (findUser p)
      (fun user t => (∀ address, addressOf user = some address → K address) ∧ Stored K t)
        (Stored K) := by
  apply (ensures_findUser p).weaken (fun _ ht => ht) _ fun _ ht => ht
  rintro user t ⟨ht, hfound, -⟩
  refine ⟨?_, ht⟩
  intro address haddress
  cases user with
  | none => simp [addressOf, truthy] at haddress
  | some user => exact ht.addressOf (hfound user rfl).1 haddress

theorem keeps_stored_setHandleMapping {handle address : String} (haddress : K address) :
    Keeps (Stored K) (HotStateService.setHandleMapping handle address) := by
  unfold HotStateService.setHandleMapping
  split_ifs
  · exact Keeps.pure ()
  · apply keeps_ignoringFailure
    apply keeps_statement
    intro t t' ht hwrite
    obtain rfl := pure_eq_ok.mp hwrite
    exact ht.setHandle haddress

theorem keeps_stored_updateColumn (id : String) (c : Column) (value : Option String) :
    Keeps (Stored K) (updateUser id (c.set value)) := by
  apply keeps_statement
  intro t t' ht hwrite
  exact ht.updateRow (fun _ => Column.set_smartWallet ..) hwrite

theorem keeps_stored_syncSocialNode (userId platform platformUserId : String)
    (username : Option String) :
    Keeps (Stored K) (syncSocialNode d userId platform platformUserId username) := by
  unfold syncSocialNode
  apply Keeps.bind (keeps_query _)
  intro existing
  dsimp only
  split
  · exact Keeps.pure false
  · apply Keeps.bind
    · apply keeps_statement
      intro t t' ht hwrite
      exact ht.upsertNode hwrite
    · intro _
      split
      · apply Keeps.bind (keeps_ignoringFailure (keeps_stored_updateColumn _ _ _))
        intro _
        exact Keeps.pure true
      · exact Keeps.pure true

theorem keeps_stored_adoptProvisionalAccount (platform platformUserId : String)
    (username : Option String) :
    Keeps (Stored K) (adoptProvisionalAccount d platform platformUserId username) := by
  unfold adoptProvisionalAccount
  split
  · next name c _ _ =>
    dsimp only
    split_ifs
    · exact Keeps.pure none
    · apply Keeps.bind
      · unfold provisionalHolder
        apply Keeps.bind (keeps_query _)
        intro node
        split
        · exact Keeps.pure _
        · apply Keeps.bind (keeps_query _)
          intro user
          exact Keeps.pure _
      · intro holder
        split
        · exact Keeps.pure none
        · apply Keeps.tryCatch
          · apply Keeps.bind
            · apply keeps_statement
              intro t t' ht hwrite
              obtain ⟨t₁, hnode, hcolumn⟩ := bind_eq_ok.mp hwrite
              exact (ht.upsertNode hnode).updateRow (fun _ => Column.set_smartWallet ..) hcolumn
            · intro _
              exact Keeps.pure _
          · intro _
            exact Keeps.pure none
  · exact Keeps.pure none

theorem keeps_stored_resolveUser (platform platformUserId : String) (username : Option String) :
    Keeps (Stored K) (resolveUser d platform platformUserId username) := by
  unfold resolveUser
  split_ifs
  · exact Keeps.pure none
  · apply Keeps.bind (keeps_query _)
    intro node
    split
    · exact Keeps.pure _
    · split
      · exact Keeps.pure none
      · apply Keeps.bind (keeps_query _)
        intro user
        split
        · apply Keeps.bind
          · apply keeps_ignoringFailure
            apply Keeps.bind (keeps_stored_syncSocialNode _ _ _ _)
            intro _
            exact Keeps.pure ()
          · intro _
            exact Keeps.pure _
        · apply Keeps.bind (keeps_stored_adoptProvisionalAccount _ _ _)
          intro adopted
          split
          · exact Keeps.pure none
          · exact keeps_query _

theorem keeps_stored_promoteWebPlaceholderUsername (userId : String) (username : Option String) :
    Keeps (Stored K) (promoteWebPlaceholderUsername userId username) := by
  unfold promoteWebPlaceholderUsername
  split
  · exact Keeps.pure ()
  · next handle _ =>
    apply Ensures.bind (ensures_stored_findUser _)
    intro user
    apply Ensures.assume
    intro haddress
    split_ifs
    · apply Keeps.bind
      · apply Keeps.tryCatch
        · apply Keeps.bind
          · apply keeps_statement
            intro t t' ht hwrite
            refine ht.updateRow ?_ hwrite
            intro row
            rfl
          · intro _
            exact Keeps.pure true
        · intro _
          exact Keeps.pure false
      · intro renamed
        split
        · next address hsome => exact keeps_stored_setHandleMapping (haddress address hsome)
        · exact Keeps.pure ()
    · exact Keeps.pure ()

theorem keeps_stored_linkAccount (userId platform platformUserId : String)
    (username : Option String) :
    Keeps (Stored K) (linkAccount d userId platform platformUserId username) := by
  unfold linkAccount
  apply Keeps.bind (keeps_checked _)
  intro _
  apply Keeps.bind (keeps_query _)
  intro user
  apply Keeps.bind (keeps_checked _)
  intro _
  apply Keeps.bind (keeps_query _)
  intro existing
  split
  · apply Keeps.bind (keeps_checked _)
    intro _
    exact Keeps.pure true
  · apply Keeps.bind (keeps_stored_syncSocialNode _ _ _ _)
    intro ok
    apply Keeps.bind (keeps_checked _)
    intro _
    apply Keeps.bind (keeps_stored_promoteWebPlaceholderUsername _ _)
    intro _
    exact Keeps.pure false

theorem keeps_stored_unlinkAccount (userId platform : String) :
    Keeps (Stored K) (unlinkAccount d userId platform) := by
  unfold unlinkAccount
  apply Keeps.bind (keeps_checked _)
  intro column
  apply Keeps.bind (keeps_query _)
  intro found
  apply Keeps.bind (keeps_checked _)
  intro user
  apply Keeps.bind (keeps_checked _)
  intro _
  apply Keeps.bind
  · apply keeps_statement
    intro t t' ht hwrite
    obtain rfl := pure_eq_ok.mp hwrite
    exact ⟨ht.wallets, ht.handles⟩
  · intro _
    exact keeps_ignoringFailure (keeps_stored_updateColumn _ _ _)

theorem keeps_stored_registerExisting {wallet : SmartWallet} (hwallet : K wallet.address)
    (platform platformId cleanUsername : String) (existing : User) :
    Keeps (Stored K) (registerExisting platform platformId cleanUsername wallet existing) := by
  unfold registerExisting
  apply Keeps.bind
  · apply keeps_statement
    intro t t' ht hwrite
    refine ht.updateRow ?_ hwrite
    intro row
    rfl
  · intro _
    dsimp only
    split_ifs
    · apply Keeps.bind
      · apply keeps_statement
        intro t t' ht hwrite
        apply ht.updateUser _ hwrite
        intro row _ wallet' hwallet'
        rw [← Option.some.inj hwallet']
        exact hwallet
      · intro _
        exact Keeps.pure _
    · exact Keeps.pure _

theorem keeps_stored_registerNew {wallet : SmartWallet} (hwallet : K wallet.address)
    (newId platform platformId cleanUsername : String) :
    Keeps (Stored K) (registerNew newId platform platformId cleanUsername wallet) := by
  unfold registerNew
  apply Keeps.bind
  · apply keeps_statement
    intro t t' ht hwrite
    apply ht.createUser _ hwrite
    intro wallet' hwallet'
    rw [← Option.some.inj hwallet']
    exact hwallet
  · intro _
    exact Keeps.pure _

/-- A registration stores vaults of its passkey. -/
theorem keeps_stored_registerUser {publicKeyX publicKeyY : String}
    (hK : ∀ address, ControlledBy d.rt publicKeyX publicKeyY address → K address)
    (newId platform platformId username credentialId : String) :
    Keeps (Stored K)
      (registerUser d newId platform platformId username publicKeyX publicKeyY credentialId) := by
  unfold registerUser
  apply Ensures.bind (ensures_checked fun _ ht => ht)
  rintro ⟨smartAccountAddress, salt⟩
  apply Ensures.weaken (P := fun t => _ ∧ Stored K t) _ (fun t ht => ⟨ht.2, ht.1⟩)
    (fun _ _ ht => ht) fun _ ht => ht
  apply Ensures.assume
  intro hderive
  have haddress : K smartAccountAddress := hK _ (controlledBy_of_deriveVaultFromPasskey hderive)
  dsimp only
  apply Keeps.bind (keeps_query _)
  intro existing
  apply Keeps.bind
  · cases existing with
    | none => exact keeps_stored_registerNew haddress _ _ _ _
    | some existing => exact keeps_stored_registerExisting haddress _ _ _ _
  · intro user
    apply Keeps.bind
    · split_ifs
      · exact Keeps.pure ()
      · apply keeps_ignoringFailure
        apply Keeps.bind (keeps_stored_syncSocialNode _ _ _ _)
        intro _
        exact Keeps.pure ()
    · intro _
      apply Keeps.bind (keeps_stored_setHandleMapping haddress)
      intro _
      apply Keeps.bind (keeps_stored_setHandleMapping haddress)
      intro _
      apply Keeps.bind
      · split_ifs
        · exact Keeps.pure ()
        · apply keeps_ignoringFailure
          exact keeps_storePlaintextCredential (fun _ _ ht => ⟨ht.wallets, ht.handles⟩) _ _ _ _ _
      · intro _
        exact Keeps.pure _

theorem keeps_cachedAddress {I : Tables → Prop} (lookup : Lookup) :
    Keeps I (cachedAddress lookup) := by
  have hresolve : ∀ handle, Keeps I (HotStateService.resolveHandle handle) := by
    intro handle
    unfold HotStateService.resolveHandle
    split_ifs
    · exact Keeps.pure none
    · exact keeps_query _
  unfold cachedAddress
  apply Keeps.bind (hresolve _)
  intro cached
  split
  · exact Keeps.pure _
  · apply Keeps.bind (hresolve _)
    intro trimmed
    split
    · exact Keeps.pure _
    · split_ifs
      · exact hresolve _
      · exact Keeps.pure none

theorem keeps_stored_linkedAddress (lookup : Lookup) :
    Keeps (Stored K) (linkedAddress d lookup) := by
  unfold linkedAddress
  apply Keeps.tryCatch
  · apply Ensures.bind
      (R := fun linked t => (∀ address, addressOf (linked.bind Prod.snd) = some address →
        K address) ∧ Stored K t)
    · apply (ensures_findNode _).weaken (fun _ ht => ht) _ fun _ ht => ht
      rintro linked t ⟨ht, hfound, -⟩
      refine ⟨?_, ht⟩
      intro address haddress
      cases linked with
      | none => simp [addressOf, truthy] at haddress
      | some linked =>
        obtain ⟨node, owner⟩ := linked
        obtain ⟨-, -, rfl⟩ := hfound node owner rfl
        exact ht.ownerOf haddress
    · intro linked
      apply Ensures.assume
      intro haddress
      split
      · next address hsome =>
        apply Keeps.bind (keeps_stored_setHandleMapping (haddress address hsome))
        intro _
        exact Keeps.pure _
      · exact Keeps.pure none
  · intro _
    exact Keeps.pure none

theorem keeps_stored_registeredAddress (lookup : Lookup) :
    Keeps (Stored K) (registeredAddress d lookup) := by
  unfold registeredAddress
  apply Ensures.bind (ensures_stored_findUser _)
  intro found
  apply Ensures.assume
  intro haddress
  split
  · next user address hsome =>
    apply Keeps.bind
    · split_ifs
      · exact keeps_ignoringFailure (keeps_stored_updateColumn _ _ _)
      · exact Keeps.pure ()
    · intro _
      apply Keeps.bind (keeps_stored_setHandleMapping (haddress address hsome))
      intro _
      exact Keeps.pure _
  · exact Keeps.pure none

theorem keeps_stored_counterfactualAddress
    (hK : ∀ address, PlaceholderVault d.rt address → K address) (newId : String) (lookup : Lookup) :
    Keeps (Stored K) (counterfactualAddress d newId lookup) := by
  unfold counterfactualAddress
  apply Ensures.bind (ensures_checked fun _ ht => ht)
  rintro ⟨salt, address⟩
  apply Ensures.weaken (P := fun t => _ ∧ Stored K t) _ (fun t ht => ⟨ht.2, ht.1⟩)
    (fun _ _ ht => ht) fun _ ht => ht
  apply Ensures.assume
  intro hwallet
  have haddress : K address := hK address (placeholderVault_of_counterfactual hwallet)
  apply Keeps.bind
  · apply keeps_ignoringFailure
    apply keeps_statement
    intro t t' ht hwrite
    apply ht.createUser _ hwrite
    intro wallet hwallet
    rw [← Option.some.inj hwallet]
    exact haddress
  · intro _
    apply Keeps.bind (keeps_stored_setHandleMapping haddress)
    intro _
    exact Keeps.pure _

/-- A lookup stores placeholder vaults, and addresses that are stored already. -/
theorem keeps_stored_resolveLookup (hK : ∀ address, PlaceholderVault d.rt address → K address)
    (newId : String) (lookup : Lookup) (allow : Bool) :
    Keeps (Stored K) (resolveLookup d newId lookup allow) := by
  unfold resolveLookup
  apply Keeps.bind (keeps_checked _)
  intro _
  by_cases haddress : isSolanaAddress lookup.trimmed
  · rw [if_pos haddress]
    exact Keeps.pure _
  rw [if_neg haddress]
  apply Keeps.bind (keeps_cachedAddress lookup)
  intro cached
  cases cached with
  | some address => exact Keeps.pure address
  | none =>
    apply Keeps.bind (keeps_stored_linkedAddress lookup)
    intro linked
    cases linked with
    | some address => exact Keeps.pure address
    | none =>
      apply Keeps.bind (keeps_stored_registeredAddress lookup)
      intro registered
      cases registered with
      | some address => exact Keeps.pure address
      | none =>
        cases allow with
        | true => exact keeps_stored_counterfactualAddress hK newId lookup
        | false => exact keeps_checked _

theorem keeps_stored_discard {α : Type} {x : Service α} (h : Keeps (Stored K) x) :
    Keeps (Stored K) (discard x) :=
  ensures_discard h

/-- A call stores placeholder vaults and vaults of the passkey that it registers. -/
theorem keeps_stored_call (hK : ∀ address, PlaceholderVault d.rt address → K address)
    {call : IdentityCall}
    (hregisters : ∀ newId platform platformId username publicKeyX publicKeyY credentialId,
      call = .registerUser newId platform platformId username publicKeyX publicKeyY credentialId →
      ∀ address, ControlledBy d.rt publicKeyX publicKeyY address → K address) :
    Keeps (Stored K) (call.service d) := by
  cases call with
  | resolveUser => exact keeps_stored_discard (keeps_stored_resolveUser _ _ _)
  | adoptProvisionalAccount =>
    exact keeps_stored_discard (keeps_stored_adoptProvisionalAccount _ _ _)
  | syncSocialNode => exact keeps_stored_discard (keeps_stored_syncSocialNode _ _ _ _)
  | linkAccount => exact keeps_stored_discard (keeps_stored_linkAccount _ _ _ _)
  | unlinkAccount => exact keeps_stored_unlinkAccount _ _
  | registerUser =>
    exact keeps_stored_discard (keeps_stored_registerUser (hregisters _ _ _ _ _ _ _ rfl) _ _ _ _ _)
  | resolveContact => exact keeps_stored_discard (keeps_stored_resolveLookup hK _ _ _)
  | handleExpires handle =>
    apply keeps_statement
    intro t t' ht hwrite
    obtain rfl := pure_eq_ok.mp hwrite
    refine ⟨ht.wallets, ?_⟩
    intro handle' address hget
    by_cases hsame : handle' = handle
    · simp [hsame] at hget
    · simp only [Function.update_of_ne hsame] at hget
      exact ht.handles handle' address hget

end Operations

section Lookups

variable {d : Setting}

/-- The addresses that the tables have for a lookup: in the cache under one of its spellings, with
the owner of a row of the link table, with a row of users. -/
def Gives (d : Setting) (t : Tables) (lookup : Lookup) (address : String) : Prop :=
  (∃ spelling ∈ [lookup.formattedHandle, lookup.trimmed, lookup.normalizedPhone],
    cachedFor t spelling = some address) ∨
    (∃ node ∈ t.nodes, matchesNode d lookup node ∧ addressOf (t.ownerOf node) = some address) ∨
    ∃ user ∈ t.users, matchesUser d lookup user ∧ addressOf (some user) = some address

theorem Stored.gives {K : String → Prop} {t : Tables} (h : Stored K t) {lookup : Lookup}
    {address : String} (hgives : Gives d t lookup address) : K address := by
  rcases hgives with ⟨spelling, -, hcached⟩ | ⟨node, -, -, haddress⟩ | ⟨user, huser, -, haddress⟩
  · unfold cachedFor at hcached
    split_ifs at hcached
    exact h.handles _ address (Option.filter_eq_some_iff.mp hcached).1
  · exact h.ownerOf haddress
  · exact h.addressOf huser haddress

/-- A cached answer stands under one of the spellings. -/
theorem ensures_cachedAddress_spelled {s : Tables} (lookup : Lookup) :
    Ensures (· = s) (cachedAddress lookup)
      (fun cached t => t = s ∧ ∀ address, cached = some address →
        ∃ spelling ∈ [lookup.formattedHandle, lookup.trimmed, lookup.normalizedPhone],
          cachedFor s spelling = some address)
      (· = s) := by
  have hresolve : ∀ handle ∈ [lookup.formattedHandle, lookup.trimmed, lookup.normalizedPhone],
      Ensures (· = s) (HotStateService.resolveHandle handle)
        (fun cached t => t = s ∧ ∀ address, cached = some address →
          ∃ spelling ∈ [lookup.formattedHandle, lookup.trimmed, lookup.normalizedPhone],
            cachedFor s spelling = some address) (· = s) := by
    intro handle hhandle
    apply (ensures_resolveHandle handle).weaken (fun _ ht => ht) _ fun _ ht => ht
    rintro cached t ⟨ht, rfl⟩
    exact ⟨ht, fun address haddress => ⟨handle, hhandle, haddress⟩⟩
  unfold cachedAddress
  apply Ensures.bind (hresolve _ (by simp))
  intro cached
  split
  · exact Ensures.pure fun _ ht => ht
  · apply Ensures.bind ((hresolve lookup.trimmed (by simp)).weaken (fun _ ht => ht.1)
      (fun _ _ ht => ht) fun _ ht => ht)
    intro trimmed
    split
    · exact Ensures.pure fun _ ht => ht
    · split_ifs
      · exact (hresolve _ (by simp)).weaken (fun _ ht => ht.1) (fun _ _ ht => ht) fun _ ht => ht
      · exact Ensures.pure fun t ht => ⟨ht.1, fun _ h => nomatch h⟩

theorem ensures_linkedAddress_gives {s : Tables} (lookup : Lookup) :
    Ensures (· = s) (linkedAddress d lookup)
      (fun linked t => SameRows s t ∧ ∀ address, linked = some address → Gives d s lookup address)
        (SameRows s) := by
  have hsame : ∀ t, t = s → SameRows s t := by
    rintro t rfl
    exact ⟨rfl, rfl⟩
  unfold linkedAddress
  apply Ensures.tryCatch (R := SameRows s)
  · apply Ensures.bind ((ensures_findNode _).weaken (fun _ ht => ht) (fun _ _ ht => ht) hsame)
    intro linked
    split
    · next address haddress =>
      apply Ensures.bind (R := fun _ t => SameRows s t ∧ Gives d s lookup address)
      · apply ((keeps_setHandleMapping (I := fun t => SameRows s t ∧ Gives d s lookup address)
          (fun _ _ ht => ht) lookup.trimmed
          address).weaken _ (fun _ _ ht => ht) fun _ ht => ht.1)
        rintro t ⟨rfl, hfound, -⟩
        refine ⟨⟨rfl, rfl⟩, ?_⟩
        cases linked with
        | none => simp [addressOf, truthy] at haddress
        | some linked =>
          obtain ⟨node, owner⟩ := linked
          obtain ⟨hnode, hmatches, rfl⟩ := hfound node owner rfl
          exact .inr (.inl ⟨node, hnode, hmatches, haddress⟩)
      · intro _
        apply Ensures.pure
        rintro t ⟨ht, hgives⟩
        refine ⟨ht, ?_⟩
        rintro _ ⟨⟩
        exact hgives
    · exact Ensures.pure fun t ht => ⟨hsame t ht.1, fun _ h => nomatch h⟩
  · intro _
    exact Ensures.pure fun t ht => ⟨ht, fun _ h => nomatch h⟩

theorem ensures_registeredAddress_gives {s : Tables} (lookup : Lookup) :
    Ensures (SameRows s) (registeredAddress d lookup)
      (fun found _ => ∀ address, found = some address → Gives d s lookup address)
        (fun _ => True) := by
  unfold registeredAddress
  apply Ensures.bind
    ((ensures_findUser _).weaken (fun _ ht => ht) (fun _ _ ht => ht) fun _ _ => trivial)
  intro found
  split
  · next user address haddress =>
    rintro t turns ⟨ht, hfound, -⟩
    obtain ⟨huser, hmatches⟩ := hfound user rfl
    have hgives : Gives d s lookup address := .inr (.inr ⟨user, ht.1 ▸ huser, hmatches, haddress⟩)
    have hanswer : Ensures (fun _ => True) (do
        (if lookup.platform = "telegram" ∧ user.telegramId ≠ some lookup.formattedHandle ∧
            isNumeric lookup.formattedHandle then
          ignoringFailure (updateUser user.id (Column.telegramId.set (some lookup.formattedHandle)))
        else pure ())
        HotStateService.setHandleMapping lookup.trimmed address
        pure (some address))
        (fun found _ => ∀ address, found = some address → Gives d s lookup address)
          (fun _ => True) := by
      apply Ensures.bind (Ensures.trivial _ _)
      intro _
      apply Ensures.bind (Ensures.trivial _ _)
      intro _
      apply Ensures.pure
      rintro _ - _ ⟨⟩
      exact hgives
    exact hanswer t turns trivial
  · exact Ensures.pure fun t ht _ h => nomatch h

theorem ensures_counterfactualAddress_placeholder (newId : String) (lookup : Lookup) :
    Ensures (fun _ => True) (counterfactualAddress d newId lookup)
      (fun address _ => PlaceholderVault d.rt address) (fun _ => True) := by
  unfold counterfactualAddress
  apply Ensures.bind (ensures_checked fun _ ht => ht)
  rintro ⟨salt, address⟩
  apply Ensures.weaken (P := fun t => counterfactualWallet d lookup = .ok (salt, address) ∧ True) _
    (fun t ht => ⟨ht.2, ht.1⟩) (fun _ _ ht => ht) fun _ ht => ht
  apply Ensures.assume
  intro hwallet
  apply Ensures.bind (Ensures.trivial _ _)
  intro _
  apply Ensures.bind (Ensures.trivial _ _)
  intro _
  exact Ensures.pure fun _ _ => placeholderVault_of_counterfactual hwallet

/-- A lookup of a handle answers with an address that the tables have for it, or with a placeholder
vault. -/
theorem ensures_resolveLookup_gives {s : Tables} {lookup : Lookup}
    (hhandle : ¬isSolanaAddress lookup.trimmed) (newId : String) (allow : Bool) :
    Ensures (· = s) (resolveLookup d newId lookup allow)
      (fun address _ => Gives d s lookup address ∨ PlaceholderVault d.rt address)
        (fun _ => True) := by
  unfold resolveLookup
  rw [if_neg hhandle]
  apply Ensures.bind
    ((ensures_check fun _ _ => trivial).weaken (fun _ ht => ht) (fun _ _ ht => ht.1) fun _ ht => ht)
  intro _
  apply Ensures.bind ((ensures_cachedAddress_spelled lookup).weaken (fun _ ht => ht)
    (fun _ _ ht => ht) fun _ _ => trivial)
  intro cached
  cases cached with
  | some address => exact Ensures.pure fun t ht => .inl (.inl (ht.2 address rfl))
  | none =>
    apply Ensures.bind ((ensures_linkedAddress_gives lookup).weaken (fun _ ht => ht.1)
      (fun _ _ ht => ht) fun _ _ => trivial)
    intro linked
    cases linked with
    | some address => exact Ensures.pure fun t ht => .inl (ht.2 address rfl)
    | none =>
      apply Ensures.bind ((ensures_registeredAddress_gives lookup).weaken (fun _ ht => ht.1)
        (fun _ _ ht => ht) fun _ ht => ht)
      intro registered
      cases registered with
      | some address => exact Ensures.pure fun t ht => .inl (ht address rfl)
      | none =>
        cases allow with
        | true =>
          exact (ensures_counterfactualAddress_placeholder newId lookup).weaken (fun _ _ => trivial)
            (fun _ _ ht => .inr ht)
            fun _ ht => ht
        | false => exact Ensures.throw fun _ _ => trivial

end Lookups

section Runs

variable {d : Setting}

/-- No passkey that was registered so far has a vault among the addresses of the handle. -/
def NoPasskey (d : Setting) (tr : List (Transition Tables IdentityCall)) (t : Tables)
    (lookup : Lookup) : Prop :=
  ∀ c ∈ tr, ∀ newId platform platformId username publicKeyX publicKeyY credentialId,
    c.event = .registerUser newId platform platformId username publicKeyX publicKeyY credentialId →
    ∀ address, Gives d t lookup address → ¬ControlledBy d.rt publicKeyX publicKeyY address

/-- Where the addresses of a history come from. -/
def Derived (d : Setting) (tr : List (Transition Tables IdentityCall)) (address : String) : Prop :=
  PlaceholderVault d.rt address ∨
    ∃ c ∈ tr, ∃ newId platform platformId username publicKeyX publicKeyY credentialId,
      c.event = .registerUser newId platform platformId username publicKeyX publicKeyY
        credentialId ∧
      ControlledBy d.rt publicKeyX publicKeyY address

theorem IdentityRun.stored {start finish : Tables} {tr : List (Transition Tables IdentityCall)}
    (hrun : IdentityRun d start tr finish) (hstart : Stored (fun _ => False) start) :
    Stored (Derived d tr) finish := by
  have hmember :
      Run (fun t call t' => IdentityStep d t call t' ∧ ∃ c ∈ tr, c.event = call) start tr finish :=
    hrun.strengthen fun c hc hstep => ⟨hstep, c, hc, rfl⟩
  apply hmember.invariant
    ⟨fun user huser wallet hwallet => (hstart.wallets user huser wallet hwallet).elim,
    fun handle address hget => (hstart.handles handle address hget).elim⟩
  rintro t call t' ht ⟨⟨turns, rfl⟩, c, hc, rfl⟩
  have hkeeps : Keeps (Stored (Derived d tr)) (c.event.service d) := by
    apply keeps_stored_call
    · intro address hplaceholder
      exact .inl hplaceholder
    · intro newId platform platformId username publicKeyX publicKeyY credentialId hcall address
        hcontrolled
      exact .inr ⟨c, hc, newId, platform, platformId, username, publicKeyX, publicKeyY,
        credentialId, hcall, hcontrolled⟩
  have hout := hkeeps t turns ht
  split at hout
  · next h => rwa [h]
  · next h => rwa [h]

/-- The address that a handle without a passkey gets is a vault of a passkey only if its hash is
zero. -/
theorem unregistered_address_recoverable_iff (hpda : PdaInjective d.rt) {start t : Tables}
    {tr : List (Transition Tables IdentityCall)} (hstart : Stored (fun _ => False) start)
    (hrun : IdentityRun d start tr t) {newId platform handle : String} {allow : Bool}
    {turns : List Turn} {address : String} {rest : Tables × List Turn}
    (hhandle : ¬isSolanaAddress (Lookup.of platform handle).trimmed)
    (hnone : NoPasskey d tr t (Lookup.of platform handle))
    (hlookup : outcome (resolveContact d newId platform handle allow) t turns = (.ok address, rest))
    (publicKeyX publicKeyY : String) :
    ControlledBy d.rt publicKeyX publicKeyY address ↔
    rootKeyHash d.rt publicKeyX publicKeyY = .ok placeholderHash := by
  apply controlledBy_placeholder_iff hpda
  have hout := ensures_resolveLookup_gives (d := d) hhandle newId allow t turns rfl
  unfold resolveContact at hlookup
  rw [hlookup] at hout
  rcases hout with hgives | hplaceholder
  · rcases (hrun.stored hstart).gives hgives with hplaceholder | hregistered
    · exact hplaceholder
    · obtain ⟨c, hc, newId, platform, platformId, username, x, y, credentialId, hcall,
        hcontrolled⟩ := hregistered
      exact absurd hcontrolled
        (hnone c hc newId platform platformId username x y credentialId hcall address hgives)
  · exact hplaceholder

end Runs

end VeriAgentPay.Identity

namespace VeriAgentPay.Devnet
open FixedWidth CheckedOutcome Client LabelledRuns UnreliableStores Identity
  Identity.IdentityService

theorem accounts_pdaInjective : PdaInjective accounts.rt := by
  have hdistinct : ∀ e ∈ accountAddresses, ∀ e' ∈ accountAddresses, e.2.2 = e'.2.2 → e.1 = e'.1 ∧
      e.2.1 = e'.2.1 := by
    decide +kernel
  exact pdaInjective_of_table rfl hdistinct

theorem noTables_stored {K : String → Prop} : Stored K noTables := by
  refine ⟨?_, ?_⟩ <;> simp [noTables]

theorem noTables_gives {lookup : Lookup} {address : String} :
    ¬Gives accounts noTables lookup address :=
  (noTables_stored (K := fun _ => False)).gives

theorem number_is_no_address : ¬Backend.isSolanaAddress (Lookup.of "telegram" "12345").trimmed := by
  decide +kernel

def answer {α : Type} (x : Service α) (t : Tables) : Option α := (outcome x t []).1.toOption

theorem outcome_of_answer {α : Type} {x : Service α} {t : Tables} {a : α}
    (h : answer x t = some a) :
    outcome x t [] = (.ok a, (outcome x t []).2) := by
  unfold answer at h
  generalize outcome x t [] = r at h ⊢
  obtain ⟨r, rest⟩ := r
  cases r with
  | ok b =>
    obtain rfl : b = a := Option.some.inj h
    rfl
  | error e => cases h

def lookupOfNumber : Service String := resolveContact accounts "user-1" "telegram" "12345" true

def registrationOfNumber : Service Registered :=
  registerUser accounts "user-2" "telegram" "12345" "alice" passkeyX passkeyY ""

def numberPlaceholderAddress : String := "EzJtGa8KN3RkkZCjL3avrfxTZhmq8R1NfAT8MmwhxvMi"

theorem number_answers : answer lookupOfNumber noTables = some numberPlaceholderAddress ∧
    (answer registrationOfNumber (outcome lookupOfNumber noTables []).2.1).map
      (fun user => (user.userId, user.smartAccountAddress)) =
      some ("user-1", "DPVdm3Ra93JuPK926Dznxg9b66CW18UyxSyGYzehh8ny") ∧
    (Identity.rootKeyHash accounts.rt passkeyX passkeyY).toOption = some passkeyHash := by
  decide +kernel

/-- A telegram id is looked up, then its owner registers with it: the address is no vault of the
passkey. -/
theorem unregistered_address_lost : ∃ address rest registered rest',
    outcome lookupOfNumber noTables [] = (.ok address, rest) ∧
    outcome registrationOfNumber rest.1 [] = (.ok registered, rest') ∧
      registered.userId = "user-1" ∧ ¬ControlledBy accounts.rt passkeyX passkeyY address := by
  obtain ⟨hlookup, hregistration, hroot⟩ := number_answers
  obtain ⟨registered, hregistered, hid⟩ := Option.map_eq_some_iff.mp hregistration
  have hplaceholder : PlaceholderVault accounts.rt numberPlaceholderAddress := by
    have hout :=
      ensures_resolveLookup_gives (d := accounts) number_is_no_address "user-1" true noTables [] rfl
    have hanswer := outcome_of_answer hlookup
    unfold lookupOfNumber resolveContact at hanswer
    rw [hanswer] at hout
    exact hout.resolve_left noTables_gives
  refine ⟨_, _, registered, _, outcome_of_answer hlookup, outcome_of_answer hregistered,
    congrArg Prod.fst hid, ?_⟩
  intro hcontrolled
  have hzero := (controlledBy_placeholder_iff accounts_pdaInjective hplaceholder).mp hcontrolled
  rw [hzero] at hroot
  exact absurd hroot (by decide +kernel)

/-- The account of bob is found by no spelling of the number. -/
theorem settled_gives_nothing {address : String} :
    ¬Gives accounts settled (Lookup.of "telegram" "12345") address := by
  obtain ⟨hcached, hnodes, husers⟩ : (∀ spelling ∈ [(Lookup.of "telegram" "12345").formattedHandle,
        (Lookup.of "telegram" "12345").trimmed, (Lookup.of "telegram" "12345").normalizedPhone],
        cachedFor settled spelling = none) ∧
      (∀ node ∈ settled.nodes, ¬matchesNode accounts (Lookup.of "telegram" "12345") node) ∧
      ∀ user ∈ settled.users, ¬matchesUser accounts (Lookup.of "telegram" "12345") user := by
    decide +kernel
  rintro (⟨spelling, hspelling, hgiven⟩ | ⟨node, hnode, hmatches, -⟩ | ⟨user, huser, hmatches, -⟩)
  · rw [hcached spelling hspelling] at hgiven
    cases hgiven
  · exact hnodes node hnode hmatches
  · exact husers user huser hmatches

/-- The number is looked up when another account is registered. -/
theorem unregistered_address_recoverable_iff_devnet :
    ∃ tr address, IdentityRun accounts noTables tr settled ∧
    tr.map (·.event) = [.registerUser "user-2" .discord "77" "bob" passkeyX passkeyY ""] ∧
    answer lookupOfNumber settled = some address ∧
    ∀ publicKeyX publicKeyY, ControlledBy accounts.rt publicKeyX publicKeyY address ↔
      Identity.rootKeyHash accounts.rt publicKeyX publicKeyY = .ok placeholderHash := by
  have hrun := run_of_after (.registerUser "user-2" .discord "77" "bob" passkeyX passkeyY "") []
    (Run.nil : IdentityRun accounts noTables [] noTables)
  have hanswer : answer lookupOfNumber settled = some numberPlaceholderAddress := by decide +kernel
  refine ⟨_, _, hrun, rfl, hanswer, ?_⟩
  apply unregistered_address_recoverable_iff accounts_pdaInjective noTables_stored hrun
    number_is_no_address
  · intro c _ newId platform platformId username publicKeyX publicKeyY credentialId _ address hgives
    exact absurd hgives settled_gives_nothing
  · exact outcome_of_answer hanswer

end VeriAgentPay.Devnet
