import VeriAgentPay.PlaceholderVaults

/-!
# Requests without a credential

The onboarding endpoint and the lookup of a handle are public. While the requests leave an account
alone, the account keeps its row, the cache has no other address for its handle, and a lookup of
the handle answers with the account's wallet.
-/

namespace VeriAgentPay.Identity
open CheckedOutcome UnreliableStores IdentityService LabelledRuns
open Backend (Failure SmartWallet truthy isSolanaAddress)

structure OnboardingCompleteDto where
  chatId : Option String
  platform : Option String
  platformId : Option String
  username : Option String
  walletAddress : Option String
  publicKeyX : Option String
  publicKeyY : Option String
  credentialId : Option String

/-- The id that the endpoint uses, if it was sent one. -/
def OnboardingCompleteDto.id (dto : OnboardingCompleteDto) : Option String :=
  truthy dto.platformId <|> truthy dto.chatId

def OnboardingCompleteDto.platformName (dto : OnboardingCompleteDto) : String :=
  (truthy dto.platform).getD "telegram"

def OnboardingCompleteDto.name (dto : OnboardingCompleteDto) (platformId : String) : String :=
  (truthy dto.username).getD ("user_" ++ platformId)

namespace OnboardingController

variable (d : Setting)

def completeOnboarding (newId : String) (dto : OnboardingCompleteDto) : Service String := do
  check (truthy dto.publicKeyX = none ∧ truthy dto.publicKeyY = none ∧
    truthy dto.credentialId = none) (.unauthorized
    "Legacy public-key onboarding is disabled. Use the verified WebAuthn registration ceremony.")
  let platformId ← checked (orError dto.id (.badRequest "chatId or platformId is required"))
  linkTelegramChatId d newId dto.platformName platformId dto.chatId
    (dto.name platformId) dto.walletAddress

end OnboardingController

/-- A public request with what the database and the cache do meanwhile; an entry of the cache may
expire. -/
inductive PublicRequest where
  | completeOnboarding (newId : String) (dto : OnboardingCompleteDto) (turns : List Turn)
  | resolveContact (newId platform handle : String) (turns : List Turn)
  | handleExpires (handle : String)

def PublicRequest.result (d : Setting) (request : PublicRequest) (t : Tables) : Tables :=
  match request with
  | completeOnboarding newId dto turns =>
    (outcome (OnboardingController.completeOnboarding d newId dto) t turns).2.1
  | resolveContact newId platform handle turns =>
    (outcome (IdentityService.resolveContact d newId platform handle true) t turns).2.1
  | handleExpires handle => { t with handles := Function.update t.handles handle none }

def PublicStep (d : Setting) (t : Tables) (request : PublicRequest) (t' : Tables) : Prop :=
  t' = request.result d t

/-- An account, its wallet address and the lookup of one of its handles. -/
structure HeldHandle where
  user : User
  address : String
  lookup : Lookup

section Accounts

variable (d : Setting) (held : HeldHandle)

/-- The keys of the cache under which a lookup of the handle looks. -/
def HeldHandle.Spelled (key : String) : Prop :=
  ∃ spelling ∈ [held.lookup.formattedHandle, held.lookup.trimmed, held.lookup.normalizedPhone],
    spelling ≠ "" ∧ key = HotStateService.normalizeHandle spelling

/-- The lookup finds the account and nobody else. -/
structure FindsOnly (t : Tables) (lookup : Lookup) : Prop where
  nodes : ∀ node ∈ t.nodes, matchesNode d lookup node → node.userId = held.user.id
  users : ∀ row ∈ t.users, matchesUser d lookup row → row.id = held.user.id
  found : matchesUser d lookup held.user ∨ ∃ node ∈ t.nodes, matchesNode d lookup node

/-- The account has its row, its handle leads to it alone, and the cache has its address or
nothing. -/
structure Undisturbed (t : Tables) : Prop where
  mem : held.user ∈ t.users
  row : ∀ row ∈ t.users, row.id = held.user.id → row = held.user
  wallet : addressOf (some held.user) = some held.address
  finds : FindsOnly d held t held.lookup
  cached : ∀ key, held.Spelled key →
    ∀ address, t.handles key = some address → address = held.address

/-- A lookup that gives the account's row a new telegram id: a numeric handle of telegram that finds
the row by another column. -/
def Relinks (lookup : Lookup) : Prop :=
  lookup.platform = "telegram" ∧ isNumeric lookup.formattedHandle ∧ matchesUser d lookup held.user ∧
    held.user.telegramId ≠ some lookup.formattedHandle

/-- A lookup that shares neither a key of the cache nor a row it may create with that of the
handle. -/
structure Foreign (lookup : Lookup) : Prop where
  key : ¬held.Spelled (HotStateService.normalizeHandle lookup.trimmed)
  placeholder : ¬matchesUser d held.lookup (placeholderUser d "" lookup "" "")

end Accounts

section Statements

variable {d : Setting} {held : HeldHandle} {t t' : Tables}

theorem FindsOnly.setHandle {lookup : Lookup} (h : FindsOnly d held t lookup)
    (key address : String) :
    FindsOnly d held (t.setHandle key address) lookup :=
  ⟨h.nodes, h.users, h.found⟩

theorem Undisturbed.setHandle (h : Undisturbed d held t) {key address : String}
    (hkey : held.Spelled key → address = held.address) :
    Undisturbed d held (t.setHandle key address) := by
  refine ⟨h.mem, h.row, h.wallet, h.finds.setHandle key address, ?_⟩
  intro key' hspelled address' hget
  by_cases hsame : key' = key
  · subst hsame
    simp only [Tables.setHandle, Function.update_self, Option.some.injEq] at hget
    exact hget ▸ hkey hspelled
  · simp only [Tables.setHandle, Function.update_of_ne hsame] at hget
    exact h.cached key' hspelled address' hget

theorem Undisturbed.updateUser (h : Undisturbed d held t) {id : String} {data : User → User}
    (hid : id ≠ held.user.id)
    (hdata : ∀ row ∈ t.users, row.id = id → (data row).id = row.id ∧
      ¬matchesUser d held.lookup (data row))
    (hwrite : t.updateUser id data = .ok t') : Undisturbed d held t' := by
  simp only [Tables.updateUser, bind_eq_ok, pure_eq_ok] at hwrite
  obtain ⟨-, -, -, -, rfl⟩ := hwrite
  have hcases : ∀ row ∈ t.users.map (fun row => if row.id = id then data row else row),
      row ∈ t.users ∨ row.id ≠ held.user.id ∧ ¬matchesUser d held.lookup row := by
    intro row' hrow'
    obtain ⟨row, hrow, rfl⟩ := List.mem_map.mp hrow'
    by_cases hrowid : row.id = id
    · rw [if_pos hrowid]
      obtain ⟨hsame, hno⟩ := hdata row hrow hrowid
      exact .inr ⟨by rw [hsame, hrowid]; exact hid, hno⟩
    · rw [if_neg hrowid]
      exact .inl hrow
  refine ⟨?_, ?_, h.wallet, ⟨h.finds.nodes, ?_, h.finds.found⟩, h.cached⟩
  · refine List.mem_map.mpr ⟨held.user, h.mem, ?_⟩
    rw [if_neg fun heq => hid heq.symm]
  · intro row hrow hrowid
    rcases hcases row hrow with hold | ⟨hne, -⟩
    · exact h.row row hold hrowid
    · exact absurd hrowid hne
  · intro row hrow hmatches
    rcases hcases row hrow with hold | ⟨-, hno⟩
    · exact h.finds.users row hold hmatches
    · exact absurd hmatches hno

theorem Undisturbed.createUser (h : Undisturbed d held t) {user : User}
    (huser : ¬matchesUser d held.lookup user) (hwrite : t.createUser user = .ok t') :
    Undisturbed d held t' := by
  simp only [Tables.createUser, bind_eq_ok, require_eq_ok, pure_eq_ok] at hwrite
  obtain ⟨-, hclash, rfl⟩ := hwrite
  have hfresh : user.id ≠ held.user.id := fun heq =>
    hclash (List.any_eq_true.mpr ⟨held.user, h.mem, clashes_of_id heq⟩)
  refine ⟨List.mem_append_left _ h.mem, ?_, h.wallet, ⟨h.finds.nodes, ?_, h.finds.found⟩, h.cached⟩
  · intro row hrow hid
    rcases List.mem_append.mp hrow with hold | hnew
    · exact h.row row hold hid
    · rw [List.mem_singleton.mp hnew] at hid
      exact absurd hid hfresh
  · intro row hrow hmatches
    rcases List.mem_append.mp hrow with hold | hnew
    · exact h.finds.users row hold hmatches
    · rw [List.mem_singleton.mp hnew] at hmatches
      exact absurd hmatches huser

/-- The address that the owner of a row of the link table leads to. -/
theorem Undisturbed.ownerOf (h : Undisturbed d held t) {node : SocialNode}
    (hnode : node.userId = held.user.id) :
    t.ownerOf node = some held.user := by
  have hsome : (t.users.find? (·.id = node.userId)).isSome :=
    List.find?_isSome.mpr ⟨held.user, h.mem, decide_eq_true hnode.symm⟩
  obtain ⟨row, hrow⟩ := Option.isSome_iff_exists.mp hsome
  have howner : row.id = node.userId := by simpa using List.find?_some hrow
  have hid : row.id = held.user.id := howner.trans hnode
  rw [Tables.ownerOf, hrow, h.row row (List.mem_of_find?_eq_some hrow) hid]

end Statements

section Lookups

variable {d : Setting} {held : HeldHandle}

theorem keeps_undisturbed_setHandleMapping {handle address : String}
    (hkey : held.Spelled (HotStateService.normalizeHandle handle) → address = held.address) :
    Keeps (Undisturbed d held) (HotStateService.setHandleMapping handle address) := by
  unfold HotStateService.setHandleMapping
  split_ifs
  · exact Keeps.pure ()
  · apply keeps_ignoringFailure
    apply keeps_statement
    intro t t' ht hwrite
    obtain rfl := pure_eq_ok.mp hwrite
    exact ht.setHandle hkey

/-- A row that an update or a lookup gives a new telegram id. -/
theorem not_matchesUser_telegramId {lookup lookup' : Lookup} {user : User}
    (hplatform : lookup'.platform = "telegram") (huser : ¬matchesUser d lookup user)
    (hplaceholder : ¬matchesUser d lookup (placeholderUser d "" lookup' "" "")) :
    ¬matchesUser d lookup (Column.telegramId.set (some lookup'.formattedHandle) user) := by
  simp only [matchesUser, placeholderUser, withPlatformId, blankUser, hplatform, Column.set] at *
  simp_all

/-- The auto-link of a foreign lookup writes another account's row. -/
theorem ensures_undisturbed_registeredAddress {lookup : Lookup} (hforeign : Foreign d held lookup)
    (hrelinks : ¬Relinks d held lookup) :
    Keeps (Undisturbed d held) (registeredAddress d lookup) := by
  unfold registeredAddress
  apply Ensures.bind (ensures_findUser _)
  intro found
  split
  · next user address _ =>
    apply Ensures.states
    rintro t ⟨ht, hfound, -⟩
    obtain ⟨huser, hmatches⟩ := hfound user rfl
    apply Ensures.bind (R := fun _ => Undisturbed d held)
    · split_ifs with hlinks
      · obtain ⟨hplatform, htelegram, hnumeric⟩ := hlinks
        have hother : user.id ≠ held.user.id := by
          intro hid
          rw [ht.row user huser hid] at hmatches htelegram
          exact hrelinks ⟨hplatform, hnumeric, hmatches, htelegram⟩
        apply Ensures.tryCatch (R := Undisturbed d held)
        · apply ensures_statement _ _ fun _ ht' => ht'
          · rintro t' rfl
            exact ht
          · rintro t' t'' rfl hwrite
            apply ht.updateUser hother _ hwrite
            intro row hrow hid
            have hno : ¬matchesUser d held.lookup row := fun hmatch =>
              hother (hid.symm.trans (ht.finds.users row hrow hmatch))
            exact ⟨Column.set_id .., not_matchesUser_telegramId hplatform hno hforeign.placeholder⟩
        · intro _
          exact Ensures.pure fun _ ht' => ht'
      · apply Ensures.pure
        rintro t' rfl
        exact ht
    · intro _
      apply Keeps.bind (keeps_undisturbed_setHandleMapping fun h => absurd h hforeign.key)
      intro _
      exact Keeps.pure _
  · exact Ensures.pure fun t ht => ht.1

/-- The placeholder of a foreign lookup is another account. -/
theorem keeps_undisturbed_counterfactualAddress {lookup : Lookup} (hforeign : Foreign d held lookup)
    (newId : String) :
    Keeps (Undisturbed d held) (counterfactualAddress d newId lookup) := by
  unfold counterfactualAddress
  apply Keeps.bind (keeps_checked _)
  rintro ⟨salt, address⟩
  apply Keeps.bind
  · apply keeps_ignoringFailure
    apply keeps_statement
    intro t t' ht hwrite
    apply ht.createUser _ hwrite
    exact hforeign.placeholder
  · intro _
    apply Keeps.bind (keeps_undisturbed_setHandleMapping fun h => absurd h hforeign.key)
    intro _
    exact Keeps.pure _

/-- A foreign lookup may change other rows, never the account's. -/
theorem keeps_undisturbed_foreign {lookup : Lookup} (hforeign : Foreign d held lookup)
    (hrelinks : ¬Relinks d held lookup) (newId : String) (allow : Bool) :
    Keeps (Undisturbed d held) (resolveLookup d newId lookup allow) := by
  unfold resolveLookup
  apply Keeps.bind (keeps_checked _)
  intro _
  by_cases haddress : isSolanaAddress lookup.trimmed
  · rw [if_pos haddress]
    exact Keeps.pure _
  rw [if_neg haddress]
  apply Keeps.bind (keeps_cachedAddress lookup)
  intro cached
  cases cached with
  | some address => exact Keeps.pure address
  | none =>
    apply Keeps.bind
    · unfold linkedAddress
      apply Keeps.tryCatch
      · apply Keeps.bind (keeps_query _)
        intro linked
        split
        · apply Keeps.bind (keeps_undisturbed_setHandleMapping fun h => absurd h hforeign.key)
          intro _
          exact Keeps.pure _
        · exact Keeps.pure none
      · intro _
        exact Keeps.pure none
    · intro linked
      cases linked with
      | some address => exact Keeps.pure address
      | none =>
        apply Keeps.bind (ensures_undisturbed_registeredAddress hforeign hrelinks)
        intro registered
        cases registered with
        | some address => exact Keeps.pure address
        | none =>
          cases allow with
          | true => exact keeps_undisturbed_counterfactualAddress hforeign newId
          | false => exact keeps_checked _

/-- Nothing is changed, and a lookup finds the account alone. -/
def LeadsTo (d : Setting) (held : HeldHandle) (lookup : Lookup) (t : Tables) : Prop :=
  Undisturbed d held t ∧ FindsOnly d held t lookup

theorem keeps_leadsTo_setHandleMapping {lookup : Lookup} (handle : String) :
    Keeps (LeadsTo d held lookup) (HotStateService.setHandleMapping handle held.address) := by
  unfold HotStateService.setHandleMapping
  split_ifs
  · exact Keeps.pure ()
  · apply keeps_ignoringFailure
    apply keeps_statement
    rintro t t' ⟨ht, hfinds⟩ hwrite
    obtain rfl := pure_eq_ok.mp hwrite
    exact ⟨ht.setHandle fun _ => rfl, hfinds.setHandle _ _⟩

theorem ensures_leadsTo_linkedAddress (lookup : Lookup) :
    Ensures (LeadsTo d held lookup) (linkedAddress d lookup)
      (fun linked t => LeadsTo d held lookup t ∧
        ∀ address, linked = some address → address = held.address)
      (LeadsTo d held lookup) := by
  unfold linkedAddress
  apply Ensures.tryCatch (R := LeadsTo d held lookup)
  · apply Ensures.bind (ensures_findNode _)
    intro linked
    split
    · next address hsome =>
      apply Ensures.states
      rintro t ⟨⟨ht, hfinds⟩, hfound, -⟩
      have haddress : address = held.address := by
        cases linked with
        | none => simp [addressOf, truthy] at hsome
        | some linked =>
          obtain ⟨node, owner⟩ := linked
          obtain ⟨hnode, hmatches, rfl⟩ := hfound node owner rfl
          have howner := ht.ownerOf (hfinds.nodes node hnode hmatches)
          rw [Option.bind_some, howner, ht.wallet] at hsome
          exact (Option.some.inj hsome).symm
      rw [haddress]
      apply Ensures.bind
        ((keeps_leadsTo_setHandleMapping lookup.trimmed).weaken _ (fun _ _ ht => ht) fun _ ht => ht)
      · intro _
        apply Ensures.pure
        intro t' ht'
        refine ⟨ht', ?_⟩
        rintro _ ⟨⟩
        rfl
      · rintro t' rfl
        exact ⟨ht, hfinds⟩
    · refine Ensures.pure fun t ht => ⟨ht.1, ?_⟩
      intro address hnone
      cases hnone
  · intro _
    refine Ensures.pure fun t ht => ⟨ht, ?_⟩
    intro address hnone
    cases hnone

theorem ensures_leadsTo_registeredAddress {lookup : Lookup}
    (hmatches : matchesUser d lookup held.user) (hrelinks : ¬Relinks d held lookup) :
    Ensures (LeadsTo d held lookup) (registeredAddress d lookup)
      (fun found t => LeadsTo d held lookup t ∧ found = some held.address)
        (LeadsTo d held lookup) := by
  unfold registeredAddress
  apply Ensures.bind (ensures_findUser _)
  intro found
  apply Ensures.states
  rintro t ⟨⟨ht, hfinds⟩, hfound, hmissing⟩
  cases found with
  | none => exact absurd hmatches (hmissing rfl held.user ht.mem)
  | some user =>
    obtain ⟨huser, hmatch⟩ := hfound user rfl
    obtain rfl := ht.row user huser (hfinds.users user huser hmatch)
    simp only [ht.wallet]
    rw [if_neg fun hlinks => hrelinks ⟨hlinks.1, hlinks.2.2, hmatch, hlinks.2.1⟩]
    apply Ensures.bind (R := fun _ t' => t' = t) (Ensures.pure fun _ ht' => ht')
    intro _
    apply Ensures.bind ((keeps_leadsTo_setHandleMapping lookup.trimmed).weaken _ (fun _ _ ht => ht)
      fun _ ht => ht)
    · intro _
      exact Ensures.pure fun t' ht' => ⟨ht', rfl⟩
    · rintro t' rfl
      exact ⟨ht, hfinds⟩

/-- A lookup that can only find the account's own row changes nothing. -/
theorem ensures_leadsTo_resolveLookup {lookup : Lookup} (hmatches : matchesUser d lookup held.user)
    (hrelinks : ¬Relinks d held lookup) (newId : String) (allow : Bool) :
    Keeps (LeadsTo d held lookup) (resolveLookup d newId lookup allow) := by
  unfold resolveLookup
  apply Keeps.bind (keeps_checked _)
  intro _
  by_cases haddress : isSolanaAddress lookup.trimmed
  · rw [if_pos haddress]
    exact Keeps.pure _
  rw [if_neg haddress]
  apply Keeps.bind (keeps_cachedAddress lookup)
  intro cached
  cases cached with
  | some address => exact Keeps.pure address
  | none =>
    apply Ensures.bind (ensures_leadsTo_linkedAddress lookup)
    intro linked
    cases linked with
    | some address => exact Ensures.pure fun t ht => ht.1
    | none =>
      apply Ensures.bind ((ensures_leadsTo_registeredAddress hmatches hrelinks).weaken
        (fun _ ht => ht.1) (fun _ _ ht => ht)
        fun _ ht => ht)
      intro registered
      apply Ensures.states
      rintro t ⟨ht, rfl⟩
      exact Ensures.pure fun t' ht' => ht' ▸ ht

end Lookups

section Answers

variable {d : Setting} {held : HeldHandle}

theorem yields_cachedAddress {P : Tables → Prop} (lookup : Lookup) :
    Yields P (cachedAddress lookup) fun _ _ => True := by
  have hresolve : ∀ handle, Yields (fun _ => True) (HotStateService.resolveHandle handle)
      fun _ _ => True := by
    intro handle
    unfold HotStateService.resolveHandle
    split_ifs
    · exact Yields.pure fun _ _ => trivial
    · exact Yields.read fun _ _ _ => trivial
  unfold cachedAddress
  apply Yields.bind ((hresolve _).weaken (fun _ _ => trivial) fun _ _ ht => ht)
  intro cached
  split
  · exact Yields.pure fun _ _ => trivial
  · apply Yields.bind (hresolve _)
    intro trimmed
    split
    · exact Yields.pure fun _ _ => trivial
    · split_ifs
      · exact hresolve _
      · exact Yields.pure fun _ _ => trivial

theorem yields_setHandleMapping {P : Tables → Prop} (handle address : String) :
    Yields P (HotStateService.setHandleMapping handle address) fun _ _ => True := by
  unfold HotStateService.setHandleMapping
  split_ifs
  · exact Yields.pure fun _ _ => trivial
  · apply Yields.tryCatch
    exact Yields.request fun n t ht => ⟨(), _, rfl, trivial⟩

theorem yields_findNode {P : Tables → Prop} (p : SocialNode → Bool) :
    Yields P (findNode p)
      (fun found t => P t ∧ (∀ node owner, found = some (node, owner) → node ∈ t.nodes ∧ p node ∧
        owner = t.ownerOf node) ∧
        (found = none → ∀ node ∈ t.nodes, ¬p node)) :=
  Yields.ensures (Yields.read fun _ _ _ => trivial) (ensures_findNode p)

theorem yields_leadsTo_setHandleMapping {lookup : Lookup} (handle : String) :
    Yields (LeadsTo d held lookup) (HotStateService.setHandleMapping handle held.address)
      fun _ => LeadsTo d held lookup :=
  (yields_setHandleMapping handle held.address).ensures (keeps_leadsTo_setHandleMapping handle)

/-- The link table is asked first: where it has no address, no row of it matches. -/
theorem yields_leadsTo_linkedAddress (lookup : Lookup) :
    Yields (LeadsTo d held lookup) (linkedAddress d lookup) fun linked t =>
      LeadsTo d held lookup t ∧ (∀ address, linked = some address → address = held.address) ∧
        (linked = none → ∀ node ∈ t.nodes, ¬matchesNode d lookup node) := by
  unfold linkedAddress
  apply Yields.tryCatch
  apply Yields.bind (yields_findNode _)
  intro linked
  apply Yields.states
  rintro t ⟨⟨ht, hfinds⟩, hfound, hmissing⟩
  cases linked with
  | none =>
    apply Yields.pure
    rintro t' rfl
    refine ⟨⟨ht, hfinds⟩, ?_, fun _ => hmissing rfl⟩
    intro _ h
    cases h
  | some linked =>
    obtain ⟨node, owner⟩ := linked
    obtain ⟨hnode, hmatches, rfl⟩ := hfound node owner rfl
    have howner := ht.ownerOf (hfinds.nodes node hnode hmatches)
    simp only [Option.bind_some, howner, ht.wallet]
    apply Yields.bind ((@yields_leadsTo_setHandleMapping d held lookup _).weaken _ fun _ _ ht => ht)
    · intro _
      apply Yields.pure
      intro t' ht'
      refine ⟨ht', ?_, fun h => nomatch h⟩
      rintro _ ⟨⟩
      rfl
    · rintro t' rfl
      exact ⟨ht, hfinds⟩

theorem yields_leadsTo_registeredAddress {lookup : Lookup}
    (hmatches : matchesUser d lookup held.user) (hrelinks : ¬Relinks d held lookup) :
    Yields (LeadsTo d held lookup) (registeredAddress d lookup)
      (fun found t => LeadsTo d held lookup t ∧ found = some held.address) := by
  refine Yields.ensures ?_ (ensures_leadsTo_registeredAddress hmatches hrelinks)
  unfold registeredAddress
  apply Yields.bind (Yields.ensures (Yields.read fun _ _ _ => trivial) (ensures_findUser _))
  intro found
  apply Yields.states
  rintro t ⟨⟨ht, hfinds⟩, hfound, hmissing⟩
  cases found with
  | none => exact absurd hmatches (hmissing rfl held.user ht.mem)
  | some user =>
    obtain ⟨huser, hmatch⟩ := hfound user rfl
    obtain rfl := ht.row user huser (hfinds.users user huser hmatch)
    simp only [ht.wallet]
    rw [if_neg fun hlinks => hrelinks ⟨hlinks.1, hlinks.2.2, hmatch, hlinks.2.1⟩]
    apply Yields.bind (R := fun _ _ => True) (Yields.pure fun _ _ => trivial)
    intro _
    apply Yields.bind (yields_setHandleMapping _ _)
    intro _
    exact Yields.pure fun _ _ => trivial

/-- With a store that answers, the lookup returns the account's address. -/
theorem yields_leadsTo_resolveLookup {lookup : Lookup} (hrelinks : ¬Relinks d held lookup)
    (htrimmed : lookup.trimmed ≠ "") (haddress : ¬isSolanaAddress lookup.trimmed) (newId : String)
    (allow : Bool) :
    Yields (LeadsTo d held lookup) (resolveLookup d newId lookup allow)
      fun address t => LeadsTo d held lookup t ∧
        (held.lookup = lookup → address = held.address) := by
  unfold resolveLookup
  apply Yields.states
  rintro t ⟨ht, hfinds⟩
  apply Yields.bind (R := fun _ t' => t' = t)
  · unfold check checked
    rw [require_eq_ok.mpr htrimmed]
    show Yields (· = t) (pure () : Service Unit) _
    exact Yields.pure fun _ ht' => ht'
  intro _
  rw [if_neg haddress]
  apply Yields.bind
    (Yields.ensures (yields_cachedAddress lookup) (ensures_cachedAddress_spelled lookup))
  intro cached
  cases cached with
  | some address =>
    apply Yields.pure
    rintro t' ⟨rfl, hcached⟩
    refine ⟨⟨ht, hfinds⟩, ?_⟩
    rintro rfl
    obtain ⟨spelling, hspelling, hget⟩ := hcached address rfl
    unfold cachedFor at hget
    split_ifs at hget with hempty
    exact ht.cached _ ⟨spelling, hspelling, hempty, rfl⟩ address
      (Option.filter_eq_some_iff.mp hget).1
  | none =>
    apply Yields.bind ((@yields_leadsTo_linkedAddress d held lookup).weaken _ fun _ _ ht => ht)
    · intro linked
      cases linked with
      | some address => exact Yields.pure fun t' ht' => ⟨ht'.1, fun _ => ht'.2.1 address rfl⟩
      | none =>
        apply Yields.states
        rintro t' ⟨⟨ht', hfinds'⟩, -, hnodes⟩
        have hmatches : matchesUser d lookup held.user :=
          hfinds'.found.resolve_right fun ⟨node, hnode, hmatch⟩ => hnodes rfl node hnode hmatch
        apply Yields.bind
          ((yields_leadsTo_registeredAddress hmatches hrelinks).weaken _ fun _ _ ht => ht)
        · intro registered
          apply Yields.states
          rintro t'' ⟨ht'', rfl⟩
          exact Yields.pure fun _ hsame => hsame ▸ ⟨ht'', fun _ => rfl⟩
        · rintro _ rfl
          exact ⟨ht', hfinds'⟩
    · rintro t' ⟨rfl, -⟩
      exact ⟨ht, hfinds⟩

end Answers

section Onboarding

variable {d : Setting} {held : HeldHandle}

/-- The row of another account that onboarding writes, as far as a lookup compares it. -/
def onboardedUser (platform platformId username : String) : User :=
  { blankUser "" with
    username := some username
    telegramId := if platform = "telegram" then some platformId else none }

/-- Onboarding that selects another row, shares no key of the cache, or only with the account's own
address, and makes no row that the lookup of the handle would find. -/
structure LinksOther (d : Setting) (held : HeldHandle) (t : Tables) (platform platformId : String)
    (chatId : Option String) (username : String) (providedAddress : Option String) : Prop where
  unselected : ¬if platform = "telegram" then held.user.telegramId = some platformId
    else held.user.username = some username
  keys : truthy providedAddress = some held.address ∨
    (¬held.Spelled (HotStateService.normalizeHandle username) ∧
      ¬held.Spelled (HotStateService.normalizeHandle platformId) ∧
      ∀ id, chatId = some id → ¬held.Spelled (HotStateService.normalizeHandle id))
  row : ¬matchesUser d held.lookup (onboardedUser platform platformId username)
  lookup : truthy providedAddress = none → ¬Relinks d held (Lookup.of platform platformId) ∧
    (Foreign d held (Lookup.of platform platformId) ∨
      (FindsOnly d held t (Lookup.of platform platformId) ∧
        matchesUser d (Lookup.of platform platformId) held.user))

theorem not_matchesUser_onboarded {lookup : Lookup} {platform platformId username : String}
    {chatId : Option String} {row existing : User} (hrow : ¬matchesUser d lookup row)
    (hexisting : ¬matchesUser d lookup existing)
    (hmade : ¬matchesUser d lookup (onboardedUser platform platformId username)) :
    ¬matchesUser d lookup { row with
      telegramId := if platform = "telegram" then some platformId else existing.telegramId
      telegramChatId := chatId <|> row.telegramChatId
      username := truthy (some username) <|> existing.username } := by
  have husername : (truthy (some username) <|> existing.username) = some username ∨
      (truthy (some username) <|> existing.username) = existing.username := by
    by_cases hempty : username = ""
    · exact .inr (by subst hempty; rfl)
    · exact .inl (by simp [truthy, hempty])
  simp only [matchesUser, onboardedUser, blankUser, Bool.or_eq_true, not_or] at *
  rcases husername with husername | husername
  · rw [husername]
    split_ifs at * <;> simp_all
  · rw [husername]
    split_ifs at * <;> simp_all

/-- The address that onboarding uses: one that was sent, that of the row, or what a lookup
returns. -/
theorem ensures_onboardingAddress {t : Tables} (ht : Undisturbed d held t)
    {platform platformId username : String} {chatId providedAddress : Option String}
    (hlinks : LinksOther d held t platform platformId chatId username providedAddress)
    (newId : String) (existing : Option User) :
    Ensures (· = t)
      ((truthy providedAddress <|> addressOf existing).elim
        (resolveContact d newId platform platformId true) pure)
      (fun address t' => Undisturbed d held t' ∧ (truthy providedAddress = some held.address →
        address = held.address))
      (Undisturbed d held) := by
  cases hprovided : truthy providedAddress with
  | some address =>
    apply Ensures.pure
    rintro t' rfl
    exact ⟨ht, fun h => Option.some.inj h⟩
  | none =>
    have hvoid : ∀ (address : String) t', Undisturbed d held t' →
        Undisturbed d held t' ∧ (none = some held.address → address = held.address) :=
      fun address t' ht' => ⟨ht', fun h => nomatch h⟩
    cases haddress : addressOf existing with
    | some address =>
      apply Ensures.pure
      rintro t' rfl
      exact hvoid _ _ ht
    | none =>
      obtain ⟨hrelinks, hforeign | ⟨hfinds, hmatches⟩⟩ := hlinks.lookup hprovided
      · refine (keeps_undisturbed_foreign hforeign hrelinks newId true).weaken ?_ hvoid
          fun _ ht' => ht'
        rintro t' rfl
        exact ht
      · refine (ensures_leadsTo_resolveLookup hmatches hrelinks newId true).weaken ?_
          (fun _ _ ht' => hvoid _ _ ht'.1)
          fun _ ht' => ht'.1
        rintro t' rfl
        exact ⟨ht, hfinds⟩

theorem ensures_undisturbed_linkTelegramChatId {t : Tables} (ht : Undisturbed d held t)
    {platform platformId username : String} {chatId providedAddress : Option String}
    (hlinks : LinksOther d held t platform platformId chatId username providedAddress)
    (newId : String) :
    Ensures (· = t) (linkTelegramChatId d newId platform platformId chatId username providedAddress)
      (fun _ => Undisturbed d held) (Undisturbed d held) := by
  unfold linkTelegramChatId
  apply Ensures.bind ((ensures_findUser _).weaken (fun _ ht' => ht') (fun _ _ ht' => ht') _)
  · intro existing
    apply Ensures.states
    rintro t' ⟨rfl, hfound, -⟩
    apply Ensures.bind (ensures_onboardingAddress ht hlinks newId existing)
    intro address
    apply Ensures.states
    rintro t' ⟨ht', haddress⟩
    have hcache : ∀ key, (truthy providedAddress = some held.address ∨
        ¬held.Spelled (HotStateService.normalizeHandle key)) →
        Keeps (Undisturbed d held) (HotStateService.setHandleMapping key address) := by
      intro key hkey
      apply keeps_undisturbed_setHandleMapping
      intro hspelled
      exact haddress (hkey.resolve_right fun h => h hspelled)
    have hno : ∀ s, Undisturbed d held s →
        ∀ row ∈ s.users, row.id ≠ held.user.id → ¬matchesUser d held.lookup row :=
      fun s hs row hrow hne hmatch => hne (hs.finds.users row hrow hmatch)
    apply Ensures.bind (R := fun _ => Undisturbed d held)
    · cases existing with
      | none =>
        apply ensures_statement _ _ fun _ h => h
        · rintro _ rfl
          exact ht'
        · rintro _ _ rfl hwrite
          refine ht'.createUser ?_ hwrite
          exact hlinks.row
      | some existing =>
        obtain ⟨hexisting, hselected⟩ := hfound existing rfl
        -- the row that was selected is another account's
        have hother : existing.id ≠ held.user.id := by
          intro hid
          rw [ht.row existing hexisting hid] at hselected
          apply hlinks.unselected
          split_ifs at hselected ⊢ with htelegram
          · exact of_decide_eq_true hselected
          · exact of_decide_eq_true hselected
        apply ensures_statement _ _ fun _ h => h
        · rintro _ rfl
          exact ht'
        · rintro _ _ rfl hwrite
          refine ht'.updateUser hother ?_ hwrite
          intro row hrow hid
          refine ⟨rfl, ?_⟩
          have hrowid : row.id ≠ held.user.id := by rwa [hid]
          exact not_matchesUser_onboarded (hno _ ht' row hrow hrowid)
            (hno _ ht existing hexisting hother) hlinks.row
    · intro _
      apply Keeps.bind
      · exact hcache _ (hlinks.keys.imp_right fun h => h.1)
      · intro _
        apply Keeps.bind
        · exact hcache _ (hlinks.keys.imp_right fun h => h.2.1)
        · intro _
          apply Keeps.bind
          · cases hchat : truthy chatId with
            | none => exact Keeps.pure ()
            | some id =>
              have hid : chatId = some id := (Option.filter_eq_some_iff.mp hchat).1
              exact hcache id (hlinks.keys.imp_right fun h => h.2.2 id hid)
          · intro _
            exact Keeps.pure _
  · rintro _ rfl
    exact ht

end Onboarding

section Runs

variable {d : Setting} {held : HeldHandle}

/-- The condition on a request and on the tables it finds. -/
def PublicRequest.LeavesAlone (d : Setting) (held : HeldHandle) (t : Tables) : PublicRequest → Prop
  | completeOnboarding _ dto _ => ∀ platformId, dto.id = some platformId →
    LinksOther d held t dto.platformName platformId dto.chatId
      (dto.name platformId) dto.walletAddress
  | resolveContact _ platform handle turns =>
    ¬Relinks d held (Lookup.of platform handle) ∧
      (Foreign d held (Lookup.of platform handle) ∨
        (FindsOnly d held t (Lookup.of platform handle) ∧
          (matchesUser d (Lookup.of platform handle) held.user ∨ Answering turns)))
  | handleExpires _ => True

theorem ensures_undisturbed_completeOnboarding {t : Tables} (ht : Undisturbed d held t)
    {dto : OnboardingCompleteDto} (hleaves : ∀ platformId, dto.id = some platformId →
      LinksOther d held t dto.platformName platformId dto.chatId
      (dto.name platformId) dto.walletAddress) (newId : String) :
    Ensures (· = t) (OnboardingController.completeOnboarding d newId dto)
      (fun _ => Undisturbed d held) (Undisturbed d held) := by
  have hstart : ∀ t', t' = t → Undisturbed d held t' := by
    rintro t' rfl
    exact ht
  unfold OnboardingController.completeOnboarding
  apply Ensures.bind ((ensures_check (E := (· = t)) fun _ ht' => ht').weaken (fun _ ht' => ht')
    (fun _ _ ht' => ht'.1) hstart)
  intro _
  apply Ensures.bind ((ensures_checked (E := (· = t)) fun _ ht' => ht').weaken (fun _ ht' => ht')
    (fun _ _ ht' => ht') hstart)
  intro platformId
  apply Ensures.states
  rintro t' ⟨rfl, hid⟩
  exact ensures_undisturbed_linkTelegramChatId ht (hleaves platformId (orError_eq_ok.mp hid)) newId

/-- The lookup with a store that answers, also where only a row of the link table leads to the
account. -/
theorem undisturbed_resolveLookup_of_answering {t : Tables} (ht : Undisturbed d held t)
    {lookup : Lookup} (hrelinks : ¬Relinks d held lookup) (hfinds : FindsOnly d held t lookup)
    {turns : List Turn} (hturns : Answering turns) (newId : String) (allow : Bool) :
    Undisturbed d held (outcome (resolveLookup d newId lookup allow) t turns).2.1 := by
  by_cases htrimmed : lookup.trimmed = ""
  · unfold resolveLookup check checked CheckedOutcome.require
    rw [if_neg (not_not.mpr htrimmed)]
    exact ht
  by_cases haddress : isSolanaAddress lookup.trimmed
  · unfold resolveLookup check checked CheckedOutcome.require
    rw [if_pos htrimmed, if_pos haddress]
    exact ht
  · obtain ⟨address, t', rest, hout, -, hleads, -⟩ :=
      yields_leadsTo_resolveLookup hrelinks htrimmed haddress newId allow t turns hturns
        ⟨ht, hfinds⟩
    rw [hout]
    exact hleads.1

theorem Ensures.final {P Q : Tables → Prop} {α : Type} {x : Service α}
    (h : Ensures P x (fun _ => Q) Q) {t : Tables} {turns : List Turn} (ht : P t) :
    Q (outcome x t turns).2.1 := by
  have hout := h t turns ht
  split at hout
  · next heq => rwa [heq]
  · next heq => rwa [heq]

/-- A request that leaves the account alone leaves it undisturbed. -/
theorem PublicStep.undisturbed {t t' : Tables} {request : PublicRequest} (ht : Undisturbed d held t)
    (hleaves : request.LeavesAlone d held t) (hstep : PublicStep d t request t') :
    Undisturbed d held t' := by
  obtain rfl := hstep
  cases request with
  | completeOnboarding newId dto turns =>
    exact Ensures.final (ensures_undisturbed_completeOnboarding ht hleaves newId) rfl
  | resolveContact newId platform handle turns =>
    obtain ⟨hrelinks, hforeign | ⟨hfinds, hmatches | hturns⟩⟩ := hleaves
    · exact Ensures.final (keeps_undisturbed_foreign hforeign hrelinks newId true) ht
    · exact (Ensures.final (ensures_leadsTo_resolveLookup hmatches hrelinks newId true)
        ⟨ht, hfinds⟩).1
    · exact undisturbed_resolveLookup_of_answering ht hrelinks hfinds hturns newId true
  | handleExpires handle =>
    refine ⟨ht.mem, ht.row, ht.wallet, ⟨ht.finds.nodes, ht.finds.users, ht.finds.found⟩, ?_⟩
    intro key hspelled address hget
    by_cases hsame : key = handle
    · simp [PublicRequest.result, hsame] at hget
    · simp only [PublicRequest.result, Function.update_of_ne hsame] at hget
      exact ht.cached key hspelled address hget

abbrev PublicRun (d : Setting) := Run (PublicStep d)

/-- After public requests that leave the account alone, its row is the same, the cache has no other
address for the handle, and a store that answers leads a lookup of the handle to its wallet. -/
theorem public_requests_keep_account {start finish : Tables}
    {tr : List (Transition Tables PublicRequest)} {platform handle : String}
    (hhandle : held.lookup = Lookup.of platform handle) (htrimmed : held.lookup.trimmed ≠ "")
    (haddress : ¬isSolanaAddress held.lookup.trimmed) (hrelinks : ¬Relinks d held held.lookup)
    (hstart : Undisturbed d held start) (hrun : PublicRun d start tr finish)
    (hleaves : ∀ c ∈ tr, c.event.LeavesAlone d held c.before) :
    (held.user ∈ finish.users ∧ ∀ row ∈ finish.users, row.id = held.user.id → row = held.user) ∧
      (∀ key, held.Spelled key →
        ∀ address, finish.handles key = some address → address = held.address) ∧
      ∀ newId allow turns, Answering turns →
        (outcome (resolveContact d newId platform handle allow) finish turns).1 =
          .ok held.address := by
  have hsafe :
      Run (fun t request t' => PublicStep d t request t' ∧ request.LeavesAlone d held t) start
        tr finish :=
    hrun.strengthen fun c hc hstep => ⟨hstep, hleaves c hc⟩
  have hfinish : Undisturbed d held finish :=
    hsafe.invariant hstart fun t request t' ht hstep => hstep.1.undisturbed ht hstep.2
  refine ⟨⟨hfinish.mem, hfinish.row⟩, hfinish.cached, ?_⟩
  intro newId allow turns hturns
  obtain ⟨address, t', rest, hout, -, -, hsame⟩ :=
    yields_leadsTo_resolveLookup hrelinks htrimmed haddress newId allow finish turns hturns
      ⟨hfinish, hfinish.finds⟩
  rw [hsame rfl] at hout
  show (outcome (resolveLookup d newId (Lookup.of platform handle) allow) finish turns).1 = _
  rw [← hhandle, hout]

end Runs

end VeriAgentPay.Identity

namespace VeriAgentPay.Devnet
open FixedWidth Client LabelledRuns Identity IdentityService

/-! An account with a passkey that somebody without any credential takes the payments of. -/

def enrolled : Tables :=
  after (.registerUser "user-1" .telegram "12345" "alice" passkeyX passkeyY "12345") [] noTables

def takeover : OnboardingCompleteDto where
  chatId := some "666"
  platform := some "telegram"
  platformId := some "12345"
  username := some "mallory"
  walletAddress := some numberPlaceholderAddress
  publicKeyX := none
  publicKeyY := none
  credentialId := none

def taken : Tables :=
  (PublicRequest.completeOnboarding "user-2" takeover []).result accounts enrolled

def resolvedAddress (t : Tables) (platform handle : String) : Option String :=
  (UnreliableStores.outcome (IdentityService.resolveContact accounts "user-3" platform handle true)
    t []).1.toOption

theorem takeover_facts :
    enrolled.users.map
      (fun user => (user.id, user.username, user.telegramId, user.telegramChatId)) =
        [("user-1", some "alice", some "12345", none)] ∧
      enrolled.users.map (fun user => user.smartWallet.map SmartWallet.isPlaceholder) =
        [some false] ∧
      resolvedAddress enrolled "telegram" "12345" = enrolled.users.head?.bind (addressOf ∘ some) ∧
      taken.users.map (fun user => (user.id, user.username, user.telegramId, user.telegramChatId)) =
        [("user-1", some "mallory", some "12345", some "666")] ∧
      resolvedAddress taken "telegram" "12345" = some numberPlaceholderAddress ∧
      taken.handles "12345" = some numberPlaceholderAddress ∧
      enrolled.users.all (fun user => addressOf (some user) ≠ some numberPlaceholderAddress) := by
  decide +kernel

/-- One public request with a chosen address changes an account with a passkey and takes its
payments. -/
theorem public_request_redirects : ∃ tr t t', IdentityRun accounts noTables tr t ∧
    PublicStep accounts t (.completeOnboarding "user-2" takeover []) t' ∧
    ∃ user ∈ t.users,
      (∃ wallet, user.smartWallet = some wallet ∧ ¬SmartWallet.isPlaceholder wallet) ∧
      user.telegramId = some "12345" ∧
      resolvedAddress t "telegram" "12345" = addressOf (some user) ∧
      (∀ user' ∈ t'.users, user'.id = user.id →
        user'.username ≠ user.username ∧ user'.telegramChatId ≠ user.telegramChatId) ∧
      ∃ address, addressOf (some user) ≠ some address ∧
        resolvedAddress t' "telegram" "12345" = some address ∧
        t'.handles "12345" = some address := by
  obtain ⟨hbefore, hwallets, hresolved, hafter, htaken, hcached, hother⟩ := takeover_facts
  obtain ⟨user, husers, hrow⟩ := List.map_eq_singleton_iff.mp hbefore
  simp only [Prod.mk.injEq] at hrow
  obtain ⟨hid, husername, htelegram, hchat⟩ := hrow
  simp only [husers, List.map_cons, List.map_nil, List.cons.injEq, and_true] at hwallets
  obtain ⟨wallet, hwallet, hkey⟩ := Option.map_eq_some_iff.mp hwallets
  have hmem : user ∈ enrolled.users := by
    rw [husers]
    exact List.mem_singleton_self user
  refine ⟨_, enrolled, taken, run_of_after _ [] Run.nil, rfl, user, hmem,
    ⟨wallet, hwallet, by simp [hkey]⟩, htelegram, ?_, ?_,
    numberPlaceholderAddress, of_decide_eq_true (List.all_eq_true.mp hother user hmem),
    htaken, hcached⟩
  · rw [hresolved, husers]
    rfl
  · intro user' huser' hsame
    have hmem' :=
      List.mem_map_of_mem (f := fun user : User => (user.id, user.username, user.telegramId,
        user.telegramChatId)) huser'
    rw [hafter, List.mem_singleton] at hmem'
    simp only [Prod.mk.injEq] at hmem'
    rw [hmem'.2.1, hmem'.2.2.2, husername, hchat]
    exact ⟨by decide, by decide⟩

theorem undisturbed_of_single {t : Tables} {user : User} {address : String} {lookup : Lookup}
    (husers : t.users = [user]) (haddress : addressOf (some user) = some address)
    (hnodes : ∀ node ∈ t.nodes, node.userId = user.id) (hmatches : matchesUser accounts lookup user)
    (hcached : ∀ spelling ∈ [lookup.formattedHandle, lookup.trimmed, lookup.normalizedPhone],
      ∀ cached, t.handles
        (HotStateService.normalizeHandle spelling) = some cached → cached = address) :
    Undisturbed accounts ⟨user, address, lookup⟩ t := by
  have honly : ∀ row ∈ t.users, row = user := by
    intro row hrow
    rw [husers] at hrow
    exact List.mem_singleton.mp hrow
  constructor
  · show user ∈ t.users
    rw [husers]
    exact List.mem_singleton_self user
  · exact fun row hrow _ => honly row hrow
  · exact haddress
  · exact ⟨fun node hnode _ => hnodes node hnode, fun row hrow _ => honly row hrow ▸ rfl,
      .inl hmatches⟩
  · rintro key ⟨spelling, hspelling, -, rfl⟩ cached hget
    exact hcached spelling hspelling cached hget

def aliceLookup : Lookup := Lookup.of "telegram" "12345"

theorem enrolled_facts :
    enrolled.users.all (fun user => enrolled.nodes.all (fun node => node.userId = user.id) ∧
      matchesUser accounts aliceLookup user ∧ user.telegramId = some aliceLookup.formattedHandle ∧
      (addressOf (some user)).any fun address =>
        [aliceLookup.formattedHandle, aliceLookup.trimmed, aliceLookup.normalizedPhone].all
          fun spelling =>
          (enrolled.handles (HotStateService.normalizeHandle spelling)).all
            fun cached => cached = address) ∧
      aliceLookup.trimmed ≠ "" ∧ ¬Backend.isSolanaAddress aliceLookup.trimmed := by
  decide +kernel

/-- The entry of the cache expires and somebody looks the handle up. -/
theorem public_requests_keep_account_devnet :
    ∃ user ∈ enrolled.users, ∃ address, addressOf (some user) = some address ∧
    ∃ tr finish, PublicRun accounts enrolled tr finish ∧ tr.length = 2 ∧ user ∈ finish.users ∧
      (UnreliableStores.outcome
        (IdentityService.resolveContact accounts "user-3" "telegram" "12345" true) finish []).1 =
        .ok address := by
  obtain ⟨hfacts, htrimmed, hnoAddress⟩ := enrolled_facts
  obtain ⟨user, husers, -⟩ := List.map_eq_singleton_iff.mp takeover_facts.1
  have hmem : user ∈ enrolled.users := by
    rw [husers]
    exact List.mem_singleton_self user
  have huser := List.all_eq_true.mp hfacts user hmem
  simp only [decide_eq_true_eq, List.all_eq_true, Option.any_eq_true, Option.all_eq_true] at huser
  obtain ⟨hnodes, hmatches, htelegram, address, haddress, hcached⟩ := huser
  have hstart : Undisturbed accounts ⟨user, address, aliceLookup⟩ enrolled :=
    undisturbed_of_single husers haddress hnodes hmatches hcached
  have hrelinks : ¬Relinks accounts ⟨user, address, aliceLookup⟩ aliceLookup :=
    fun h => h.2.2.2 htelegram
  have hnil : Run (PublicStep accounts) enrolled [] enrolled := Run.nil
  have hrun := hnil.snoc
    (rfl : PublicStep accounts enrolled (.handleExpires "12345") _) |>.snoc
    (rfl : PublicStep accounts _ (.resolveContact "user-2" "telegram" "12345" []) _)
  refine ⟨user, hmem, address, haddress, _, _, hrun, rfl, ?_⟩
  have hexpires : (PublicRequest.handleExpires "12345").LeavesAlone accounts ⟨user, address,
      aliceLookup⟩ enrolled := trivial
  have hmiddle := PublicStep.undisturbed hstart hexpires rfl
  have hkept := public_requests_keep_account rfl htrimmed hnoAddress hrelinks hstart hrun ?_
  · refine ⟨hkept.1.1, hkept.2.2 "user-3" true [] ?_⟩
    intro turn hturn
    cases hturn
  · intro c hc
    simp only [List.nil_append, List.singleton_append, List.mem_cons, List.not_mem_nil,
      or_false] at hc
    rcases hc with rfl | rfl
    · trivial
    · exact ⟨hrelinks, .inr ⟨hmiddle.finds, .inl hmatches⟩⟩

end VeriAgentPay.Devnet
