import VeriAgentPay.IdentityOwnership
import VeriAgentPay.LabelledRuns
import VeriAgentPay.LedgerRuns

/-!
# Identities over whole histories of the identity service

The calls that read and write identities, what each may give up, and the condition under which
it leaves every other identity with its user. Under it no identity ever has two users, and one
that a user was found under is never found under another.
-/

namespace VeriAgentPay.Identity
open CheckedOutcome UnreliableStores IdentityService LabelledRuns
open Backend (Failure SmartWallet truthy isSolanaAddress)

/-- The platforms that `registerUser` is declared for. -/
inductive RegistrationPlatform where
  | telegram | whatsapp | slack | discord | web
  deriving DecidableEq

def RegistrationPlatform.name : RegistrationPlatform → String
  | telegram => "telegram"
  | whatsapp => "whatsapp"
  | slack => "slack"
  | discord => "discord"
  | web => "web"

def RegistrationPlatform.column : RegistrationPlatform → Option Column
  | telegram => some .telegramId
  | whatsapp => some .whatsappId
  | slack => some .slackId
  | discord => some .discordId
  | web => none

theorem RegistrationPlatform.column_platform {platform : RegistrationPlatform} {c : Column} :
    platform.column = some c ↔ c.platform = platform.name := by
  cases platform <;> cases c <;> decide

theorem RegistrationPlatform.get_withPlatformId (platform : RegistrationPlatform)
    (platformId : String) (user : User) (c : Column) :
    c.get (withPlatformId platform.name platformId user) =
      if platform.column = some c then some platformId else c.get user := by
  cases platform <;> cases c <;> rfl

theorem RegistrationPlatform.toLowerCase_name (d : Setting) {platform : RegistrationPlatform}
    (h : platform.name ≠ "web") :
    d.toLowerCase platform.name = platform.name := by
  apply d.toLowerCase_platform
  cases platform <;> first | decide | exact absurd rfl h

inductive IdentityCall where
  | resolveUser (platform platformUserId : String) (username : Option String)
  | adoptProvisionalAccount (platform platformUserId : String) (username : Option String)
  | syncSocialNode (userId platform platformUserId : String) (username : Option String)
  | linkAccount (userId platform platformUserId : String) (username : Option String)
  | unlinkAccount (userId platform : String)
  | registerUser (newId : String) (platform : RegistrationPlatform)
      (platformId username pubKeyX pubKeyY credentialId : String)
  | resolveContact (newId platform handle : String) (allowUnregisteredCounterfactual : Bool)
  /-- Not a call: the cache forgets a handle. -/
  | handleExpires (handle : String)

section Calls

variable (d : Setting)

def discard {α : Type} (x : Service α) : Service Unit := do
  let _ ← x
  pure ()

/-- The private method gets the platform in lower case from its one caller. -/
def IdentityCall.service : IdentityCall → Service Unit
  | resolveUser platform platformUserId username => discard
    (IdentityService.resolveUser d platform platformUserId username)
  | adoptProvisionalAccount platform platformUserId username =>
    discard (IdentityService.adoptProvisionalAccount d
      (d.toLowerCase platform) platformUserId username)
  | syncSocialNode userId platform platformUserId username =>
    discard (IdentityService.syncSocialNode d userId platform platformUserId username)
  | linkAccount userId platform platformUserId username =>
    discard (IdentityService.linkAccount d userId platform platformUserId username)
  | unlinkAccount userId platform => IdentityService.unlinkAccount d userId platform
  | registerUser newId platform platformId username pubKeyX pubKeyY credentialId =>
    discard (IdentityService.registerUser d newId platform.name platformId username pubKeyX pubKeyY
      credentialId)
  | resolveContact newId platform handle allow =>
    discard (IdentityService.resolveContact d newId platform handle allow)
  | handleExpires handle => statement fun t =>
    pure { t with handles := Function.update t.handles handle none }

/-- A call made to its end, whatever the database and the cache do meanwhile. -/
def IdentityStep (t : Tables) (call : IdentityCall) (t' : Tables) : Prop :=
  ∃ turns, t' = (outcome (call.service d) t turns).2.1

/-- `resolveUser` returns the user for the identity, by the link table or by the column. -/
def ResolvesTo (t : Tables) (platform platformUserId userId : String) : Prop :=
  ∃ turns user rest, outcome (IdentityService.resolveUser d platform platformUserId none) t turns =
    (.ok (some user), rest) ∧
    user.id = userId

/-- What a call may give up: a user's own unlinking its identities of the platform, an adoption the
provisional id that it replaces. -/
def IdentityCall.Releases (call : IdentityCall) (p i u : String) : Prop :=
  match call with
  | resolveUser platform _ username | adoptProvisionalAccount platform _ username =>
    p = d.toLowerCase platform ∧
    ∃ name, truthy username = some name ∧ i = provisionalPlatformId name
  | unlinkAccount userId platform => u = userId ∧ p = d.toLowerCase platform
  | _ => False

/-- The account under the provisional id of the name has nothing else in its column that no row of
the link table gives it. -/
def AdoptsSafely (t : Tables) (platform platformUserId : String)
    (username : Option String) : Prop :=
  ∀ name u (c : Column) r, truthy username = some name → c.platform = d.toLowerCase platform →
    Held t c.platform (provisionalPlatformId name) u → ColumnOf t c r u →
    r = provisionalPlatformId name ∨ r = platformUserId ∨ NodeOf t c.platform r u

/-- No other account has the identity in its column, and the user's own column loses nothing. -/
def MayHave (t : Tables) (userId platform platformUserId : String) : Prop :=
  (∀ v, Held t (d.toLowerCase platform) platformUserId v → v = userId) ∧
    Backed (Held t) t userId (d.toLowerCase platform) platformUserId

def cachedFor (t : Tables) (handle : String) : Option String :=
  if handle = "" then none else truthy (t.handles (HotStateService.normalizeHandle handle))

/-- A lookup that the cache does not answer. -/
def Uncached (t : Tables) (lookup : Lookup) : Prop :=
  cachedFor t lookup.formattedHandle = none ∧ cachedFor t lookup.trimmed = none ∧
    (lookup.normalizedPhone ≠ "" → cachedFor t lookup.normalizedPhone = none)

/-- A lookup of a numeric handle writes the column of whoever it finds. -/
def LinksSafely (t : Tables) (lookup : Lookup) : Prop :=
  lookup.platform = "telegram" → isNumeric lookup.formattedHandle →
  ∀ user ∈ t.users, matchesUser d lookup user →
    addressOf (some user) ≠ none →
    (∀ v, NodeOf t "telegram" lookup.formattedHandle v → v = user.id) ∧
      Backed (Held t) t user.id "telegram" lookup.formattedHandle

/-- No user matches the lookup, or one without a wallet address. -/
def Addressless (t : Tables) (lookup : Lookup) : Prop :=
  (∀ user ∈ t.users, ¬matchesUser d lookup user) ∨
  ∃ user ∈ t.users, matchesUser d lookup user ∧ addressOf (some user) = none

/-- A lookup that finds no address creates a row whose column has the handle. -/
def CreatesSafely (t : Tables) (lookup : Lookup) : Prop :=
  Addressless d t lookup → ∀ (c : Column) i v, c.get (placeholderUser d "" lookup "" "") = some i →
  ¬NodeOf t c.platform i v

/-- The condition on the rows before the call. -/
def IdentityCall.KeepsApart (t : Tables) : IdentityCall → Prop
  | resolveUser platform platformUserId username | adoptProvisionalAccount platform platformUserId
    username =>
    AdoptsSafely d t platform platformUserId username
  | syncSocialNode userId platform platformUserId _ =>
    (∃ v, v ≠ userId ∧ NodeOf t (d.toLowerCase platform) platformUserId v) ∨
    MayHave d t userId platform platformUserId
  | linkAccount userId platform platformUserId _ =>
    (∃ v, NodeOf t (d.toLowerCase platform) platformUserId v) ∨
    MayHave d t userId platform platformUserId
  | unlinkAccount .. => True
  | registerUser _ platform platformId username .. =>
    let found := t.users.filter (registers d platform.name platformId (withoutAt username))
    (found = [] → ∀ v, ¬NodeOf t platform.name platformId v) ∧
      ∀ user ∈ found, (∀ v, NodeOf t platform.name platformId v → v = user.id) ∧
        Backed (Held t) t user.id platform.name platformId
  | resolveContact _ platform handle allow =>
    let lookup := Lookup.of platform handle
    ¬isSolanaAddress lookup.trimmed → Uncached t lookup →
      LinksSafely d t lookup ∧ (allow → CreatesSafely d t lookup)
  | handleExpires _ => True

end Calls

section Platforms

variable {d : Setting} {platform : String} {c : Column}

theorem platformIdColumn_eq (h : platformIdColumn d platform = some c) :
    d.toLowerCase platform = c.platform := by
  simp only [platformIdColumn] at h
  split_ifs at h <;> cases h <;> assumption

theorem toLowerCase_column (c : Column) : d.toLowerCase c.platform = c.platform :=
  d.toLowerCase_platform _ (by cases c <;> decide)

/-- An id of the platform that nobody has, for a user without one. -/
theorem MayHave.of_column {t : Tables} {i u : String} (c : Column)
    (hnobody : ∀ v, ¬Held t c.platform i v) (hblank : ∀ r, ¬ColumnOf t c r u) :
    MayHave d t u c.platform i := by
  unfold MayHave
  rw [toLowerCase_column]
  refine ⟨fun v hv => absurd hv (hnobody v), ?_⟩
  intro c' r hc hr
  obtain rfl := Column.platform_injective hc
  exact absurd hr (hblank r)

end Platforms

section Operations

variable {d : Setting} {H : String → String → String → Prop} {u p i : String}

theorem keeps_setHandleMapping {I : Tables → Prop}
    (h : ∀ t handles, I t → I { t with handles := handles }) (handle address : String) :
    Keeps I (HotStateService.setHandleMapping handle address) := by
  unfold HotStateService.setHandleMapping
  split_ifs
  · exact Keeps.pure ()
  · apply keeps_ignoringFailure
    apply keeps_statement
    intro t t' ht hwrite
    obtain rfl := pure_eq_ok.mp hwrite
    exact h t _ ht

theorem takes_handles {t : Tables} (handles : String → Option String) (h : Takes H u p i t) :
    Takes H u p i { t with handles := handles } :=
  h.of_rows rfl rfl

theorem keeps_storePlaintextCredential {I : Tables → Prop}
    (h : ∀ t credentials, I t → I { t with credentials := credentials })
    (newId userId credentialId publicKeyX publicKeyY : String) :
    Keeps I (storePlaintextCredential newId userId credentialId publicKeyX publicKeyY) := by
  apply keeps_statement
  intro t t' ht hwrite
  split_ifs at hwrite
  · obtain rfl := pure_eq_ok.mp hwrite
    exact h t _ ht
  · obtain ⟨-, -, hwrite⟩ := bind_eq_ok.mp hwrite
    obtain rfl := pure_eq_ok.mp hwrite
    exact h t _ ht

theorem keeps_syncSocialNode (platform platformUserId : String) (username : Option String) :
    Keeps (Takes H u (d.toLowerCase platform) platformUserId)
      (syncSocialNode d u platform platformUserId username) := by
  unfold syncSocialNode
  apply Keeps.bind (keeps_query _)
  intro existing
  dsimp only
  split
  · exact Keeps.pure false
  · apply Keeps.bind
    · apply keeps_statement
      intro t t' ht hwrite
      apply ht.upsertNode hwrite
      · intro node _ hkey
        exact ⟨hkey, rfl⟩
      · exact ⟨rfl, rfl⟩
    · intro _
      split
      · next c hc =>
        have hplatform : d.toLowerCase platform = c.platform := by
          rw [← platformIdColumn_eq hc, d.toLowerCase_toLowerCase]
        apply Keeps.bind
        · apply keeps_ignoringFailure
          apply keeps_statement
          rw [hplatform]
          intro t t' ht hwrite
          apply takes_of_column ht.one ht.carried (fun v hv => ht.free v (.inl hv)) ht.backed
            (fun row => Column.set_id ..) _ hwrite
          intro row _ _ c'
          by_cases hc' : c' = c
          · rw [if_pos hc', hc', Column.get_set_self]
          · rw [if_neg hc', Column.get_set_of_ne hc']
        · intro _
          exact Keeps.pure true
      · exact Keeps.pure true

/-- The link table gives the identity to another user: nothing is written. -/
theorem keeps_syncSocialNode_refused {s : Tables} {v : String} (hone : OneOwner s) (hne : v ≠ u)
    (platform platformUserId : String) (username : Option String)
    (hv : NodeOf s (d.toLowerCase platform) platformUserId v) :
    Keeps (· = s) (syncSocialNode d u platform platformUserId username) := by
  unfold syncSocialNode
  apply Ensures.bind (ensures_findNode _)
  rintro existing t turns ⟨rfl, hfound, hmissing⟩
  have hany : existing.any fun found => found.1.userId ≠ u := by
    cases existing with
    | none =>
      obtain ⟨node, hnode, hkey, -⟩ := hv
      exact absurd (decide_eq_true hkey) (hmissing rfl node hnode)
    | some found =>
      obtain ⟨node, owner⟩ := found
      obtain ⟨hnode, hkey, -⟩ := hfound node owner rfl
      have hnode : NodeOf t _ _ node.userId := ⟨node, hnode, of_decide_eq_true hkey, rfl⟩
      have heq := hone.nodes _ _ _ _ hv hnode
      simpa [← heq] using hne
  simp only [hany]
  rfl

theorem keeps_promoteWebPlaceholderUsername (userId : String) (username : Option String) :
    Keeps (Takes H u p i) (promoteWebPlaceholderUsername userId username) := by
  unfold promoteWebPlaceholderUsername
  split
  · exact Keeps.pure ()
  · apply Keeps.bind (keeps_query _)
    intro user
    split_ifs
    · apply Keeps.bind
      · apply Keeps.tryCatch
        · apply Keeps.bind
          · apply keeps_statement
            intro t t' ht hwrite
            refine ht.updateUser ?_ ?_ hwrite
            · intro row
              rfl
            · intro row c
              cases c <;> rfl
          · intro _
            exact Keeps.pure true
        · intro _
          exact Keeps.pure false
      · intro renamed
        split
        · exact keeps_setHandleMapping (fun _ handles => takes_handles handles) _ _
        · exact Keeps.pure ()
    · exact Keeps.pure ()

theorem keeps_linkAccount (platform platformUserId : String) (username : Option String) :
    Keeps (Takes H u (d.toLowerCase platform) platformUserId)
      (linkAccount d u platform platformUserId username) := by
  unfold linkAccount
  apply Keeps.bind (keeps_checked _)
  intro _
  apply Keeps.bind (keeps_query _)
  intro user
  apply Keeps.bind (keeps_checked _)
  intro _
  apply Keeps.bind (keeps_query _)
  intro existing
  split
  · apply Keeps.bind (keeps_checked _)
    intro _
    exact Keeps.pure true
  · apply Keeps.bind
    · have hsync := keeps_syncSocialNode (d := d) (H := H) (u := u)
        (d.toLowerCase platform) platformUserId username
      rwa [d.toLowerCase_toLowerCase] at hsync
    · intro ok
      apply Keeps.bind (keeps_checked _)
      intro _
      apply Keeps.bind (keeps_promoteWebPlaceholderUsername u username)
      intro _
      exact Keeps.pure false

/-- The link table has the identity already: nothing is written. -/
theorem keeps_linkAccount_linked {s : Tables} {v : String} (platform platformUserId : String)
    (username : Option String) (hv : NodeOf s (d.toLowerCase platform) platformUserId v) :
    Keeps (· = s) (linkAccount d u platform platformUserId username) := by
  unfold linkAccount
  apply Keeps.bind (keeps_checked _)
  intro _
  apply Keeps.bind (keeps_query _)
  intro user
  apply Keeps.bind (keeps_checked _)
  intro _
  apply Ensures.bind (ensures_findNode _)
  rintro existing t turns ⟨rfl, -, hmissing⟩
  cases existing with
  | none =>
    obtain ⟨node, hnode, hkey, -⟩ := hv
    exact absurd (decide_eq_true hkey) (hmissing rfl node hnode)
  | some found =>
    have hkeeps : Keeps (· = t) (do
        check (found.1.userId = u) (.badRequest
          s!"This {platform} account is already linked to a different VeriAgent Pay account. Disconnect it there first.")
        pure true : Service Bool) := by
      apply Keeps.bind (keeps_checked _)
      intro _
      exact Keeps.pure true
    exact hkeeps t turns rfl

theorem ensures_unlinkAccount {s : Tables} (hone : OneOwner s) (platform : String) :
    Ensures (· = s) (unlinkAccount d u platform)
      (fun _ => Carries fun q j w => Held s q j w ∧ ¬(w = u ∧ q = d.toLowerCase platform))
      (Carries fun q j w => Held s q j w ∧ ¬(w = u ∧ q = d.toLowerCase platform)) := by
  have hstart : ∀ t, t = s →
      Carries (fun q j w => Held s q j w ∧ ¬(w = u ∧ q = d.toLowerCase platform)) t := by
    rintro t rfl
    exact ⟨hone, fun q j w h => h.1⟩
  unfold unlinkAccount
  apply Ensures.bind (ensures_checked hstart)
  intro column
  apply Ensures.bind
    (R := fun _ t => t = s ∧ orError (platformIdColumn d (d.toLowerCase platform)) _ = .ok column)
  · exact Ensures.read (fun t ht => hstart t ht.1) fun _ _ ht => ht
  · intro found
    apply Ensures.bind
      (R := fun _ t => t = s ∧ orError (platformIdColumn d (d.toLowerCase platform)) _ = .ok column)
    · exact (ensures_checked fun t ht => hstart t ht.1).weaken (fun _ ht => ht) (fun _ _ ht => ht.1)
        fun _ ht => ht
    · intro user
      apply Ensures.bind (ensures_check fun t ht => hstart t ht.1)
      rintro - t turns ⟨⟨rfl, hcolumn⟩, -⟩
      have hplatform : d.toLowerCase platform = column.platform := by
        rw [← platformIdColumn_eq (orError_eq_ok.mp hcolumn), d.toLowerCase_toLowerCase]
      have hdelete : Ensures (· = t) (do
          statement fun t => pure (t.deleteNodes u (d.toLowerCase platform))
          ignoringFailure (updateUser u (column.set none)))
          (fun _ => Carries fun q j w => Held t q j w ∧ ¬(w = u ∧ q = d.toLowerCase platform))
          (Carries fun q j w => Held t q j w ∧ ¬(w = u ∧ q = d.toLowerCase platform)) := by
        apply Ensures.bind (ensures_statement hstart _ fun _ ht => ht)
        · intro _
          apply keeps_ignoringFailure
          apply keeps_statement
          intro t' t'' ht' hwrite
          rw [hplatform] at ht' ⊢
          exact carries_clearColumn ht' hwrite
        · rintro t' t'' rfl hwrite
          obtain rfl := pure_eq_ok.mp hwrite
          exact carries_deleteNodes hone
      exact hdelete t turns rfl

/-- What is held, less the provisional id that an adoption replaces. -/
def HeldButAdopted (d : Setting) (s : Tables) (platform : String) (username : Option String)
    (q j w : String) : Prop :=
  Held s q j w ∧ ¬(q = d.toLowerCase platform ∧
    ∃ name, truthy username = some name ∧ j = provisionalPlatformId name)

theorem ensures_provisionalHolder {s : Tables} (c : Column) (prov : String) :
    Ensures (· = s) (provisionalHolder c c.platform prov)
      (fun holder t => t = s ∧ ∀ id, holder = some id → Held s c.platform prov id) (· = s) := by
  unfold provisionalHolder
  apply Ensures.bind (ensures_findNode _)
  intro node
  split
  · next node owner =>
    apply Ensures.pure
    rintro t ⟨rfl, hfound, -⟩
    refine ⟨rfl, ?_⟩
    rintro id hid
    obtain rfl := Option.some.inj hid
    obtain ⟨hnode, hkey, -⟩ := hfound node owner rfl
    exact .inl ⟨node, hnode, of_decide_eq_true hkey, rfl⟩
  · apply Ensures.bind ((ensures_findUser _).weaken (fun _ ht => ht.1) (fun _ _ ht => ht)
      fun _ ht => ht)
    intro user
    apply Ensures.pure
    rintro t ⟨rfl, hfound, -⟩
    refine ⟨rfl, ?_⟩
    intro id hid
    obtain ⟨user, rfl, rfl⟩ := Option.map_eq_some_iff.mp hid
    obtain ⟨huser, hget⟩ := hfound user rfl
    exact .inr ⟨c, rfl, user, huser, of_decide_eq_true hget, rfl⟩

theorem ensures_adoptHolder {s : Tables} (hone : OneOwner s) {c : Column} {prov userId : String}
    (hH : ∀ q j w, H q j w → Held s q j w ∧ ¬(q = c.platform ∧ j = prov))
    (hheld : Held s c.platform prov userId)
    (hbacked : ∀ r, ColumnOf s c r userId → r = prov ∨ r = i ∨ NodeOf s c.platform r userId)
    (username : String) :
    Ensures (· = s) (adoptHolder c c.platform prov i username userId)
      (fun adopted t => Carries H t ∧ ∀ id, adopted = some id → Held t c.platform i id)
        (Carries H) := by
  have hstart : ∀ t, t = s → Carries H t := by
    rintro t rfl
    exact ⟨hone, fun q j w h => (hH q j w h).1⟩
  -- whatever the update does, the account's column and node have the id afterwards
  have hdone : ∀ t' t₁ update create, t₁.updateUser userId (c.set (some i)) = .ok t' →
      s.upsertNode c.platform prov update create = .ok t₁ →
      (∀ node ∈ s.nodes, node.key = (c.platform, prov) → (update node).key = (c.platform, i) ∧
        (update node).userId = userId) →
      create.key = (c.platform, i) ∧ create.userId = userId → Carries H t' ∧
      Held t' c.platform i userId := by
    intro t' t₁ update create hcolumn hwrite hupdate hcreate
    obtain ⟨husers, howner, hnodes, -⟩ := upsertNode_effect hwrite hupdate hcreate
    have hnode : NodeOf t₁ c.platform i userId := (hnodes _ _ _).mpr (.inl ⟨rfl, rfl⟩)
    have hnode' : NodeOf t' c.platform i userId :=
      (NodeOf_congr (updateUser_effect (by rw [husers]; exact hone.ids) hcolumn).1).mpr hnode
    by_cases hprov : prov = i
    · subst hprov
      have htakes : Takes H userId c.platform prov s := by
        refine ⟨hstart s rfl, fun v hv => hone.held hv hheld, ?_⟩
        rintro c' r hc hr -
        obtain rfl := Column.platform_injective hc
        rcases hbacked r hr with h | h | h
        · exact .inl h
        · exact .inl h
        · exact .inr h
      have htakes₁ := htakes.upsertNode hwrite hupdate hcreate
      have htakes' :=
        takes_of_column htakes₁.one htakes₁.carried
          (fun v hv => htakes₁.free v (.inl hv)) htakes₁.backed
        (fun row => Column.set_id ..)
        (fun row _ _ c' => by
          by_cases hc : c' = c
          · rw [if_pos hc, hc, Column.get_set_self]
          · rw [if_neg hc, Column.get_set_of_ne hc]) hcolumn
      exact ⟨htakes'.toCarries, .inl hnode'⟩
    · have htakes := carries_adoption hone hprov hbacked hwrite hupdate hcreate hcolumn
      exact ⟨⟨htakes.one, fun q j w h => htakes.carried q j w (hH q j w h)⟩, .inl hnode'⟩
  unfold adoptHolder
  apply Ensures.tryCatch (R := Carries H)
  · apply Ensures.bind (R := fun _ t => Carries H t ∧ Held t c.platform i userId)
    · apply ensures_statement hstart _ fun t ht => ht.1
      rintro t t' rfl hwrite
      obtain ⟨t₁, hwrite, hcolumn⟩ := bind_eq_ok.mp hwrite
      refine hdone t' t₁ _ _ hcolumn hwrite ?_ ⟨rfl, rfl⟩
      intro node hnode hkey
      obtain ⟨hplatform, -⟩ := Prod.mk.inj hkey
      refine ⟨by rw [SocialNode.key, hplatform], ?_⟩
      exact hone.held (.inl ⟨node, hnode, hkey, rfl⟩) hheld
    · intro _
      apply Ensures.pure
      rintro t ⟨ht, hheld⟩
      refine ⟨ht, ?_⟩
      rintro id hid
      obtain rfl := Option.some.inj hid
      exact hheld
  · intro _
    exact Ensures.pure fun t ht => ⟨ht, fun _ h => nomatch h⟩

theorem ensures_adoptProvisionalAccount {s : Tables} (hone : OneOwner s) {platform : String}
    {username : Option String} (hsafe : AdoptsSafely d s platform i username) :
    Ensures (· = s) (adoptProvisionalAccount d (d.toLowerCase platform) i username)
      (fun adopted t => Carries (HeldButAdopted d s platform username) t ∧
        ∀ id, adopted = some id → Held t (d.toLowerCase platform) i id)
      (Carries (HeldButAdopted d s platform username)) := by
  have hstart : ∀ t, t = s → Carries (HeldButAdopted d s platform username) t := by
    rintro t rfl
    exact ⟨hone, fun q j w h => h.1⟩
  have hnothing : ∀ t, t = s → Carries (HeldButAdopted d s platform username) t ∧
      ∀ id, (none : Option String) = some id → Held t (d.toLowerCase platform) i id :=
    fun t ht => ⟨hstart t ht, fun _ h => nomatch h⟩
  unfold adoptProvisionalAccount
  split
  · next name c hname hc =>
    have hplatform : d.toLowerCase platform = c.platform := by
      rw [← platformIdColumn_eq hc, d.toLowerCase_toLowerCase]
    dsimp only
    split_ifs
    · exact Ensures.pure hnothing
    · rw [hplatform] at hnothing ⊢
      apply Ensures.bind
        ((ensures_provisionalHolder c _).weaken (fun _ ht => ht) (fun _ _ ht => ht) hstart)
      intro holder
      split
      · exact Ensures.pure fun t ht => hnothing t ht.1
      · next userId =>
        rintro t turns ⟨rfl, hholder⟩
        have hheld := hholder userId rfl
        refine ensures_adoptHolder hone ?_ hheld ?_ name t turns rfl
        · rintro q j w ⟨hw, hkeep⟩
          refine ⟨hw, ?_⟩
          rintro ⟨rfl, rfl⟩
          exact hkeep ⟨hplatform.symm, name, hname, rfl⟩
        · intro r hr
          exact hsafe name userId c r hname hplatform.symm hheld hr
  · exact Ensures.pure hnothing

theorem ensures_resolveUser {s : Tables} (hone : OneOwner s) {platform : String}
    {username : Option String} (hsafe : AdoptsSafely d s platform i username) :
    Ensures (· = s) (resolveUser d platform i username)
      (fun found t => Carries (HeldButAdopted d s platform username) t ∧
        ∀ user, found = some user → Held t (d.toLowerCase platform) i user.id)
      (Carries (HeldButAdopted d s platform username)) := by
  have hstart : ∀ t, t = s → Carries (HeldButAdopted d s platform username) t := by
    rintro t rfl
    exact ⟨hone, fun q j w h => h.1⟩
  have hnothing : ∀ t, t = s → Carries (HeldButAdopted d s platform username) t ∧
      ∀ user, (none : Option User) = some user → Held t (d.toLowerCase platform) i user.id :=
    fun t ht => ⟨hstart t ht, fun _ h => nomatch h⟩
  unfold resolveUser
  split_ifs
  · exact Ensures.pure hnothing
  · apply Ensures.bind ((ensures_findNode _).weaken (fun _ ht => ht) (fun _ _ ht => ht) hstart)
    intro node
    split
    · next user huser =>
      apply Ensures.pure
      rintro t ⟨rfl, hfound, -⟩
      refine ⟨hstart t rfl, ?_⟩
      rintro user' huser'
      obtain rfl := Option.some.inj huser'
      obtain ⟨⟨node, owner⟩, rfl, rfl⟩ := Option.bind_eq_some_iff.mp huser
      obtain ⟨hnode, hkey, howner⟩ := hfound node _ rfl
      have hid : user.id = node.userId := by simpa using List.find?_some howner.symm
      exact .inl ⟨node, hnode, of_decide_eq_true hkey, hid.symm⟩
    · split
      · exact Ensures.pure fun t ht => hnothing t ht.1
      · next c hc =>
        have hplatform : d.toLowerCase platform = c.platform := by
          rw [← platformIdColumn_eq hc, d.toLowerCase_toLowerCase]
        apply Ensures.bind
          ((ensures_findUser _).weaken (fun _ ht => ht.1) (fun _ _ ht => ht) hstart)
        intro user
        split
        · next user =>
          rintro t turns ⟨rfl, hfound, -⟩
          obtain ⟨huser, hget⟩ := hfound user rfl
          have hcolumn : ColumnOf t c i user.id := ⟨user, huser, of_decide_eq_true hget, rfl⟩
          have hheld : Held t (d.toLowerCase platform) i user.id :=
            .inr ⟨c, hplatform.symm, hcolumn⟩
          have htakes : Takes (Held t) user.id (d.toLowerCase (d.toLowerCase platform)) i t := by
            rw [d.toLowerCase_toLowerCase]
            refine ⟨⟨hone, fun _ _ _ h => h⟩, fun v hv => hone.held hv hheld, ?_⟩
            rintro c' r hc' hr -
            obtain rfl := Column.platform_injective (hc'.trans hplatform)
            exact .inl (hone.value hr hcolumn)
          have hheal : Ensures (· = t) (do
              ignoringFailure do
                let _ ← syncSocialNode d user.id (d.toLowerCase platform) i (truthy user.username)
                pure ()
              pure (some user))
              (fun found t' => Carries (HeldButAdopted d t platform username) t' ∧
                ∀ user, found = some user → Held t' (d.toLowerCase platform) i user.id)
              (Carries (HeldButAdopted d t platform username)) := by
            have hkeeps : Keeps (Takes (Held t) user.id (d.toLowerCase (d.toLowerCase platform)) i)
                (ignoringFailure do
                  let _ ← syncSocialNode d user.id (d.toLowerCase platform) i (truthy user.username)
                  pure ()) := by
              apply keeps_ignoringFailure
              apply Keeps.bind (keeps_syncSocialNode _ _ _)
              intro _
              exact Keeps.pure ()
            apply Ensures.bind (hkeeps.weaken _ (fun _ _ ht => ht) _)
            · intro _
              apply Ensures.pure
              intro t' ht'
              refine ⟨⟨ht'.one, fun q j w h => ht'.carried q j w h.1⟩, ?_⟩
              rintro user' huser'
              obtain rfl := Option.some.inj huser'
              exact ht'.carried _ _ _ hheld
            · rintro t' rfl
              exact htakes
            · intro t' ht'
              exact ⟨ht'.one, fun q j w h => ht'.carried q j w h.1⟩
          exact hheal t turns rfl
        · apply Ensures.bind ((ensures_adoptProvisionalAccount hone hsafe).weaken (fun _ ht => ht.1)
            (fun _ _ ht => ht)
            fun _ ht => ht)
          intro adopted
          split
          · exact Ensures.pure fun t ht => ⟨ht.1, fun _ h => nomatch h⟩
          · next id hid =>
            apply (ensures_findUser _).weaken (fun _ ht => ht) _ fun _ ht => ht.1
            rintro found t ⟨⟨ht, hadopted⟩, hfound, -⟩
            refine ⟨ht, ?_⟩
            intro user huser
            obtain ⟨-, huserid⟩ := hfound user huser
            rw [of_decide_eq_true huserid]
            apply hadopted
            obtain ⟨id', rfl, hid'⟩ := Option.bind_eq_some_iff.mp hid
            exact (Option.filter_eq_some_iff.mp hid').1

theorem get_registrationData (platform : RegistrationPlatform) (platformId cleanUsername : String)
    (existing row : User) (c : Column) :
    c.get (registrationData platform.name platformId cleanUsername existing row) =
      if platform.column = some c then some platformId else c.get existing := by
  rw [← platform.get_withPlatformId]
  cases c <;> rfl

theorem ensures_registerExisting {s : Tables} (hone : OneOwner s) {platform : RegistrationPlatform}
    {existing : User} (hexisting : existing ∈ s.users)
    (hfree : ∀ v, NodeOf s platform.name i v → v = existing.id)
    (hbacked : Backed (Held s) s existing.id platform.name i) (cleanUsername : String)
    (wallet : SmartWallet) :
    Ensures (· = s) (registerExisting platform.name i cleanUsername wallet existing)
      (fun user => Takes (Held s) user.id platform.name i) (Carries (Held s)) := by
  have hstart : ∀ t, t = s → Carries (Held s) t := by
    rintro t rfl
    exact ⟨hone, fun _ _ _ h => h⟩
  unfold registerExisting
  apply Ensures.bind (R := fun _ => Takes (Held s) existing.id platform.name i)
  · apply ensures_statement hstart _ fun t ht => ht.toCarries
    rintro t t' rfl hwrite
    cases hcolumn : platform.column with
    | some c =>
      have hplatform := RegistrationPlatform.column_platform.mp hcolumn
      rw [← hplatform] at hfree hbacked ⊢
      refine takes_of_column hone (fun _ _ _ h => h) hfree hbacked ?_ ?_ hwrite
      · intro row
        rfl
      · intro row hrow hid c'
        obtain rfl := hone.ids row hrow existing hexisting hid
        rw [get_registrationData, hcolumn]
        by_cases hc : c' = c
        · rw [if_pos (by rw [hc]), if_pos hc]
        · rw [if_neg fun h => hc (Option.some.inj h).symm, if_neg hc]
    | none =>
      have hnone : ∀ c : Column, c.platform ≠ platform.name := fun c hc =>
        by simp [RegistrationPlatform.column_platform.mpr hc] at hcolumn
      have htakes : Takes (Held t) existing.id platform.name i t := by
        refine ⟨hstart t rfl, ?_, hbacked⟩
        rintro v (hv | ⟨c, hc, -⟩)
        · exact hfree v hv
        · exact absurd hc (hnone c)
      have hid : ∀ row, (registrationData platform.name i cleanUsername existing row).id =
          row.id := by
        intro row
        rfl
      obtain ⟨hnodes, row, hrow, hrowid, -, hids, husers, hcolumns⟩ :=
        columns_updateUser hone hid hwrite
      refine htakes.of_same hids husers (fun _ _ _ => NodeOf_congr hnodes) ?_
      intro c j w
      rw [hcolumns, get_registrationData, hcolumn, if_neg (by simp)]
      constructor
      · rintro (⟨rfl, hget⟩ | ⟨-, hw⟩)
        · exact ⟨existing, hexisting, hget, rfl⟩
        · exact hw
      · intro hw
        by_cases hwu : w = existing.id
        · obtain ⟨row', hrow', hget, hid'⟩ := hw
          obtain rfl := hone.ids row' hrow' existing hexisting (hid'.trans hwu)
          exact .inl ⟨hwu, hget⟩
        · exact .inr ⟨hwu, hw⟩
  · intro _
    dsimp only
    split_ifs
    · apply Ensures.bind (R := fun _ => Takes (Held s) existing.id platform.name i)
      · apply ensures_statement (fun t ht => ht.toCarries) _ fun t ht => ht.toCarries
        intro t t' ht hwrite
        refine ht.updateUser ?_ ?_ hwrite
        · intro row
          rfl
        · intro row c
          cases c <;> rfl
      · intro _
        exact Ensures.pure fun t ht => ht
    · exact Ensures.pure fun t ht => ht

theorem ensures_registerNew {s : Tables} (hone : OneOwner s) {platform : RegistrationPlatform}
    (hfree : ∀ v, ¬NodeOf s platform.name i v) (newId cleanUsername : String)
    (wallet : SmartWallet) :
    Ensures (· = s) (registerNew newId platform.name i cleanUsername wallet)
      (fun user => Takes (Held s) user.id platform.name i) (Carries (Held s)) := by
  have hget : ∀ (c : Column) (user : User),
      user = { withPlatformId platform.name i (blankUser newId) with
      username := some cleanUsername, smartWallet := some wallet } →
      c.get user = if platform.column = some c then some i else none := by
    rintro c user rfl
    cases platform <;> cases c <;> rfl
  unfold registerNew
  generalize huser : ({ withPlatformId platform.name i (blankUser newId) with
    username := some cleanUsername, smartWallet := some wallet } : User) = user
  have hget := fun c => hget c user huser.symm
  apply Ensures.bind (R := fun _ => Takes (Held s) user.id platform.name i)
  · apply ensures_statement _ _ fun t ht => ht.toCarries
    · rintro t rfl
      exact ⟨hone, fun _ _ _ h => h⟩
    · rintro t t' rfl hwrite
      have hcolumn : ∀ (c : Column) j, c.get user = some j → c.platform = platform.name ∧
          j = i := by
        intro c j hj
        rw [hget c] at hj
        split_ifs at hj with hc
        exact ⟨RegistrationPlatform.column_platform.mp hc, (Option.some.inj hj).symm⟩
      obtain ⟨hone', hheld, hcolumns, hnodes⟩ := oneOwner_createUser hone (by
        intro c j v hj
        obtain ⟨hc, rfl⟩ := hcolumn c j hj
        rw [hc]
        exact hfree v) hwrite
      refine ⟨⟨hone', hheld⟩, ?_, ?_⟩
      · rintro v (hv | ⟨c, hc, hv⟩)
        · exact absurd ((NodeOf_congr (createUser_effect hwrite).1).mp hv) (hfree v)
        · have hself : ColumnOf t' c i user.id :=
            (hcolumns c i).mpr
              (by rw [hget c, if_pos (RegistrationPlatform.column_platform.mpr hc)])
          exact hone'.columns c i v user.id hv hself
      · intro c r _ hr _
        exact .inl (hcolumn c r ((hcolumns c r).mp hr)).2
  · intro _
    exact Ensures.pure fun t ht => ht

theorem ensures_registerUser {s : Tables} (hone : OneOwner s) {platform : RegistrationPlatform}
    {newId platformId username pubKeyX pubKeyY credentialId : String}
    (hsafe : (IdentityCall.registerUser newId platform platformId username pubKeyX pubKeyY
      credentialId).KeepsApart d s) :
    Ensures (· = s)
      (registerUser d newId platform.name platformId username pubKeyX pubKeyY credentialId)
        (fun _ => Carries (Held s)) (Carries (Held s)) := by
  have hstart : ∀ t, t = s → Carries (Held s) t := by
    rintro t rfl
    exact ⟨hone, fun _ _ _ h => h⟩
  obtain ⟨hnew, hold⟩ := hsafe
  unfold registerUser
  apply Ensures.bind ((ensures_checked (E := (· = s)) fun _ ht => ht).weaken (fun _ ht => ht)
    (fun _ _ ht => ht.1) hstart)
  rintro ⟨smartAccountAddress, salt⟩
  dsimp only
  apply Ensures.bind ((ensures_findUser _).weaken (fun _ ht => ht) (fun _ _ ht => ht) hstart)
  intro existing
  apply Ensures.bind (R := fun user => Takes (Held s) user.id platform.name platformId)
  · rintro t turns ⟨rfl, hfound, hmissing⟩
    cases existing with
    | none =>
      refine ensures_registerNew hone (hnew ?_) _ _ _ t turns rfl
      exact List.filter_eq_nil_iff.mpr (hmissing rfl)
    | some existing =>
      obtain ⟨hmem, hregisters⟩ := hfound existing rfl
      obtain ⟨hfree, hbacked⟩ := hold existing (List.mem_filter.mpr ⟨hmem, hregisters⟩)
      exact ensures_registerExisting hone hmem hfree hbacked _ _ t turns rfl
  · intro user
    have hcache : ∀ handle address, Keeps (Takes (Held s) user.id platform.name platformId)
        (HotStateService.setHandleMapping handle address) :=
      keeps_setHandleMapping fun _ handles => takes_handles handles
    apply Ensures.weaken (Q := fun _ => Takes (Held s) user.id platform.name platformId)
      (E := Takes (Held s) user.id platform.name platformId) _ (fun _ ht => ht)
        (fun _ _ ht => ht.toCarries)
      fun _ ht => ht.toCarries
    apply Keeps.bind
    · split_ifs with hweb
      · exact Keeps.pure ()
      · apply keeps_ignoringFailure
        apply Keeps.bind
        · have hkeeps :=
            keeps_syncSocialNode (d := d) (H := Held s) (u := user.id) platform.name platformId
            (some (withoutAt username))
          rwa [RegistrationPlatform.toLowerCase_name d hweb] at hkeeps
        · intro _
          exact Keeps.pure ()
    · intro _
      apply Keeps.bind (hcache _ _)
      intro _
      apply Keeps.bind (hcache _ _)
      intro _
      apply Keeps.bind
      · split_ifs
        · exact Keeps.pure ()
        · apply keeps_ignoringFailure
          exact keeps_storePlaintextCredential (fun t _ ht => ht.of_rows rfl rfl) _ _ _ _ _
      · intro _
        exact Keeps.pure _

/-- The tables of users and links are as before. -/
def SameRows (s t : Tables) : Prop := t.users = s.users ∧ t.nodes = s.nodes

theorem LinksSafely.of_rows {s t : Tables} {lookup : Lookup} (h : SameRows s t)
    (hsafe : LinksSafely d s lookup) :
    LinksSafely d t lookup := by
  obtain ⟨users, nodes, _, _, _, _⟩ := s
  obtain ⟨users', nodes', _, _, _, _⟩ := t
  obtain ⟨rfl, rfl⟩ := h
  exact hsafe

theorem CreatesSafely.of_rows {s t : Tables} {lookup : Lookup} (h : SameRows s t)
    (hsafe : CreatesSafely d s lookup) :
    CreatesSafely d t lookup := by
  obtain ⟨users, nodes, _, _, _, _⟩ := s
  obtain ⟨users', nodes', _, _, _, _⟩ := t
  obtain ⟨rfl, rfl⟩ := h
  exact hsafe

theorem ensures_resolveHandle {s : Tables} (handle : String) :
    Ensures (· = s) (HotStateService.resolveHandle handle)
      (fun cached t => t = s ∧ cached = cachedFor s handle) (· = s) := by
  unfold HotStateService.resolveHandle cachedFor
  split_ifs
  · exact Ensures.pure fun t ht => ⟨ht, rfl⟩
  · apply Ensures.read fun t ht => ht
    rintro n t rfl
    exact ⟨rfl, rfl⟩

theorem ensures_cachedAddress {s : Tables} (lookup : Lookup) :
    Ensures (· = s) (cachedAddress lookup)
      (fun cached t => t = s ∧ (cached = none → Uncached s lookup)) (· = s) := by
  have hresolve : ∀ (handle : String) (φ : Prop), Ensures (fun t => t = s ∧ φ)
      (HotStateService.resolveHandle handle)
      (fun cached t => t = s ∧ φ ∧ cached = cachedFor s handle) (· = s) := by
    rintro handle φ t turns ⟨rfl, hφ⟩
    exact (ensures_resolveHandle handle).weaken (fun _ ht => ht) (fun _ _ ht => ⟨ht.1, hφ, ht.2⟩)
      (fun _ ht => ht) t turns rfl
  have hhit : ∀ (address : Option String) (P : Tables → Prop), address.isSome → (∀ t, P t → t = s) →
      Ensures P (pure address : Service (Option String))
        (fun cached t => t = s ∧ (cached = none → Uncached s lookup)) (· = s) := by
    intro address P hsome hP
    apply Ensures.pure
    intro t ht
    refine ⟨hP t ht, ?_⟩
    rintro rfl
    cases hsome
  unfold cachedAddress
  apply Ensures.bind (ensures_resolveHandle _)
  intro cached
  by_cases hcached : cached.isSome
  · rw [if_pos hcached]
    exact hhit cached _ hcached fun t ht => ht.1
  rw [if_neg hcached]
  apply Ensures.bind (hresolve _ _)
  intro trimmed
  by_cases htrimmed : trimmed.isSome
  · rw [if_pos htrimmed]
    exact hhit trimmed _ htrimmed fun t ht => ht.1
  rw [if_neg htrimmed]
  obtain rfl := Option.not_isSome_iff_eq_none.mp hcached
  obtain rfl := Option.not_isSome_iff_eq_none.mp htrimmed
  split_ifs with hphone
  · apply ((hresolve lookup.normalizedPhone _).weaken (fun t ht => ⟨ht.1, ht.2⟩)
      (fun phone t ht => ht) fun _ ht => ht).weaken
      (fun t ht => ht) _ fun _ ht => ht
    rintro phone t ⟨ht, ⟨hformatted, htrimmed⟩, hphone⟩
    refine ⟨ht, ?_⟩
    rintro rfl
    exact ⟨hformatted.symm, htrimmed.symm, fun _ => hphone.symm⟩
  · apply Ensures.pure
    rintro t ⟨ht, hformatted, htrimmed⟩
    exact ⟨ht, fun _ => ⟨hformatted.symm, htrimmed.symm, fun h => absurd h hphone⟩⟩

theorem keeps_linkedAddress {s : Tables} (lookup : Lookup) :
    Keeps (SameRows s) (linkedAddress d lookup) := by
  unfold linkedAddress
  apply Keeps.tryCatch
  · apply Keeps.bind (keeps_query _)
    intro linkedNode
    split
    · apply Keeps.bind (keeps_setHandleMapping (fun _ _ ht => ht) _ _)
      intro _
      exact Keeps.pure _
    · exact Keeps.pure _
  · intro _
    exact Keeps.pure _

theorem ensures_registeredAddress {s : Tables} (hone : OneOwner s) {lookup : Lookup}
    (hsafe : LinksSafely d s lookup) :
    Ensures (· = s) (registeredAddress d lookup)
      (fun found t => Carries (Held s) t ∧ (found = none → t = s ∧ Addressless d s lookup))
        (Carries (Held s)) := by
  have hstart : ∀ t, t = s → Carries (Held s) t := by
    rintro t rfl
    exact ⟨hone, fun _ _ _ h => h⟩
  unfold registeredAddress
  apply Ensures.bind ((ensures_findUser _).weaken (fun _ ht => ht) (fun _ _ ht => ht) hstart)
  intro found
  rintro t turns ⟨rfl, hfound, hmissing⟩
  cases found with
  | none => exact ⟨hstart t rfl, fun _ => ⟨rfl, .inl (hmissing rfl)⟩⟩
  | some user =>
    obtain ⟨huser, hmatches⟩ := hfound user rfl
    cases haddress : addressOf (some user) with
    | none => exact ⟨hstart t rfl, fun _ => ⟨rfl, .inr ⟨user, huser, hmatches, haddress⟩⟩⟩
    | some address =>
      have hkeeps : Ensures (· = t) (do
          (if lookup.platform = "telegram" ∧ user.telegramId ≠ some lookup.formattedHandle ∧
              isNumeric lookup.formattedHandle then
            ignoringFailure
              (updateUser user.id (Column.telegramId.set (some lookup.formattedHandle)))
          else pure ())
          HotStateService.setHandleMapping lookup.trimmed address
          pure (some address))
          (fun found t' => Carries (Held t) t' ∧ (found = none → t' = t ∧ Addressless d t lookup))
            (Carries (Held t)) := by
        apply Ensures.bind (R := fun _ => Carries (Held t))
        · split_ifs with hlinks
          · obtain ⟨hplatform, -, hnumeric⟩ := hlinks
            obtain ⟨hfree, hbacked⟩ :=
              hsafe hplatform hnumeric user huser hmatches (by simp [haddress])
            apply Ensures.tryCatch (R := Carries (Held t))
            · apply ensures_statement hstart _ fun _ ht => ht
              rintro t₀ t' rfl hwrite
              have hfree : ∀ v, NodeOf t₀ Column.telegramId.platform lookup.formattedHandle v →
                  v = user.id := hfree
              refine (takes_of_column hone (fun _ _ _ h => h) hfree hbacked ?_ ?_ hwrite).toCarries
              · intro row
                exact Column.set_id ..
              · intro row _ _ c
                by_cases hc : c = .telegramId
                · rw [if_pos hc, hc, Column.get_set_self]
                · rw [if_neg hc, Column.get_set_of_ne hc]
            · intro _
              exact Ensures.pure fun _ ht => ht
          · exact Ensures.pure hstart
        · intro _
          apply Ensures.bind (keeps_setHandleMapping (fun _ _ ht => ht.of_rows rfl rfl) _ _)
          intro _
          exact Ensures.pure fun t ht => ⟨ht, fun h => nomatch h⟩
      exact hkeeps t turns rfl

theorem ensures_counterfactualAddress {s : Tables} (hone : OneOwner s) {lookup : Lookup}
    (hfree : ∀ (c : Column) i v, c.get (placeholderUser d "" lookup "" "") = some i →
      ¬NodeOf s c.platform i v) (newId : String) :
    Ensures (· = s) (counterfactualAddress d newId lookup) (fun _ => Carries (Held s))
      (Carries (Held s)) := by
  have hstart : ∀ t, t = s → Carries (Held s) t := by
    rintro t rfl
    exact ⟨hone, fun _ _ _ h => h⟩
  unfold counterfactualAddress
  apply Ensures.bind ((ensures_checked (E := (· = s)) fun _ ht => ht).weaken (fun _ ht => ht)
    (fun _ _ ht => ht.1) hstart)
  rintro ⟨salt, address⟩
  dsimp only
  apply Ensures.bind (R := fun _ => Carries (Held s))
  · apply Ensures.tryCatch (R := Carries (Held s))
    · apply ensures_statement hstart _ fun _ ht => ht
      rintro t t' rfl hwrite
      obtain ⟨hone', hheld, -⟩ :=
        oneOwner_createUser hone (fun c j v hget => hfree c j v (by cases c <;> exact hget)) hwrite
      exact ⟨hone', hheld⟩
    · intro _
      exact Ensures.pure fun _ ht => ht
  · intro _
    apply Ensures.bind (keeps_setHandleMapping (fun _ _ ht => ht.of_rows rfl rfl) _ _)
    intro _
    exact Ensures.pure fun _ ht => ht

theorem ensures_resolveLookup {s : Tables} (hone : OneOwner s) {newId : String} {lookup : Lookup}
    {allow : Bool} (hsafe : ¬isSolanaAddress lookup.trimmed → Uncached s lookup →
      LinksSafely d s lookup ∧ (allow → CreatesSafely d s lookup)) :
    Ensures (· = s) (resolveLookup d newId lookup allow) (fun _ => Carries (Held s))
      (Carries (Held s)) := by
  have hstart : ∀ t, t = s → Carries (Held s) t := by
    rintro t rfl
    exact ⟨hone, fun _ _ _ h => h⟩
  have hrows : ∀ t, SameRows s t → Carries (Held s) t :=
    fun t ht => (hstart s rfl).of_rows ht.1 ht.2
  have hheld : ∀ t, SameRows s t → ∀ q j w, Held t q j w ↔ Held s q j w := fun t ht =>
    Held_congr (fun _ _ _ => NodeOf_congr ht.2) fun _ _ _ => ColumnOf_congr ht.1
  unfold resolveLookup
  apply Ensures.bind ((ensures_check (E := (· = s)) fun _ ht => ht).weaken (fun _ ht => ht)
    (fun _ _ ht => ht.1) hstart)
  intro _
  by_cases haddress : isSolanaAddress lookup.trimmed
  · rw [if_pos haddress]
    exact Ensures.pure hstart
  rw [if_neg haddress]
  apply Ensures.bind ((ensures_cachedAddress _).weaken (fun _ ht => ht) (fun _ _ ht => ht) hstart)
  intro cached
  cases cached with
  | some address => exact Ensures.pure fun t ht => hstart t ht.1
  | none =>
    apply Ensures.bind (R := fun _ t => SameRows s t ∧ Uncached s lookup)
    · rintro t turns ⟨rfl, huncached⟩
      exact (keeps_linkedAddress _).weaken (fun _ ht => ht)
        (fun _ _ ht => ⟨ht, huncached rfl⟩) hrows t turns ⟨rfl, rfl⟩
    intro linked
    cases linked with
    | some address => exact Ensures.pure fun t ht => hrows t ht.1
    | none =>
      rintro t turns ⟨ht, huncached⟩
      obtain ⟨hlinks, hcreates⟩ := hsafe haddress huncached
      have hone' := (hrows t ht).one
      have hback : ∀ t', Carries (Held t) t' → Carries (Held s) t' := fun t' ht' =>
        ⟨ht'.one, fun q j w hw => ht'.carried q j w ((hheld t ht q j w).mpr hw)⟩
      refine Ensures.weaken (P := (· = t)) (Q := fun _ => Carries (Held t))
        (E := Carries (Held t)) ?_ (fun _ ht => ht)
        (fun _ => hback) hback t turns rfl
      apply Ensures.bind (ensures_registeredAddress hone' (hlinks.of_rows ht))
      intro registered
      cases registered with
      | some address => exact Ensures.pure fun t ht => ht.1
      | none =>
        rintro t' turns ⟨hcarries, hnone⟩
        obtain ⟨rfl, haddressless⟩ := hnone rfl
        cases allow with
        | true =>
          have hfree := (hcreates rfl).of_rows ht haddressless
          exact ensures_counterfactualAddress hone' hfree newId t' turns rfl
        | false => exact hcarries

end Operations

section Runs

variable {d : Setting}

theorem ensures_discard {α : Type} {P E : Tables → Prop} {Q : Tables → Prop} {x : Service α}
    (h : Ensures P x (fun _ => Q) E) : Ensures P (discard x) (fun _ => Q) E := by
  apply Ensures.bind h
  intro _
  exact Ensures.pure fun _ ht => ht

/-- What a call leaves: no identity with two users, and all that was held but what the call gives
up. -/
theorem ensures_call {s : Tables} (hone : OneOwner s) {call : IdentityCall}
    (hsafe : call.KeepsApart d s) :
    Ensures (· = s) (call.service d)
      (fun _ => Carries fun q j w => Held s q j w ∧ ¬call.Releases d q j w)
        (Carries fun q j w => Held s q j w ∧ ¬call.Releases d q j w) := by
  have hall : ∀ t, Carries (Held s) t →
      Carries (fun q j w => Held s q j w ∧ ¬call.Releases d q j w) t :=
    fun t ht => ⟨ht.one, fun q j w h => ht.carried q j w h.1⟩
  have hstart : Carries (Held s) s := ⟨hone, fun _ _ _ h => h⟩
  cases call with
  | resolveUser platform platformUserId username =>
    apply ensures_discard
    apply (ensures_resolveUser hone hsafe).weaken (fun _ ht => ht) _ _
    · rintro found t ⟨ht, -⟩
      exact ⟨ht.one, fun q j w h => ht.carried q j w ⟨h.1, fun hrel => h.2 hrel⟩⟩
    · intro t ht
      exact ⟨ht.one, fun q j w h => ht.carried q j w ⟨h.1, fun hrel => h.2 hrel⟩⟩
  | adoptProvisionalAccount platform platformUserId username =>
    apply ensures_discard
    apply (ensures_adoptProvisionalAccount hone hsafe).weaken (fun _ ht => ht) _ _
    · rintro found t ⟨ht, -⟩
      exact ⟨ht.one, fun q j w h => ht.carried q j w ⟨h.1, fun hrel => h.2 hrel⟩⟩
    · intro t ht
      exact ⟨ht.one, fun q j w h => ht.carried q j w ⟨h.1, fun hrel => h.2 hrel⟩⟩
  | syncSocialNode userId platform platformUserId username =>
    apply ensures_discard
    rcases hsafe with ⟨v, hne, hv⟩ | ⟨hfree, hbacked⟩
    · apply (keeps_syncSocialNode_refused hone hne platform platformUserId username hv).weaken
        (fun _ ht => ht) _ _
      · rintro _ t rfl
        exact hall t hstart
      · rintro t rfl
        exact hall t hstart
    · apply (keeps_syncSocialNode platform platformUserId username).weaken _
        (fun _ t ht => hall t ht.toCarries)
        fun t ht => hall t ht.toCarries
      rintro t rfl
      exact ⟨hstart, hfree, hbacked⟩
  | linkAccount userId platform platformUserId username =>
    apply ensures_discard
    rcases hsafe with ⟨v, hv⟩ | ⟨hfree, hbacked⟩
    · apply (keeps_linkAccount_linked platform platformUserId username hv).weaken
        (fun _ ht => ht) _ _
      · rintro _ t rfl
        exact hall t hstart
      · rintro t rfl
        exact hall t hstart
    · apply (keeps_linkAccount platform platformUserId username).weaken _
        (fun _ t ht => hall t ht.toCarries)
        fun t ht => hall t ht.toCarries
      rintro t rfl
      exact ⟨hstart, hfree, hbacked⟩
  | unlinkAccount userId platform => exact ensures_unlinkAccount hone platform
  | registerUser newId platform platformId username pubKeyX pubKeyY credentialId =>
    apply ensures_discard
    exact (ensures_registerUser hone hsafe).weaken (fun _ ht => ht) (fun _ => hall) hall
  | resolveContact newId platform handle allow =>
    apply ensures_discard
    exact (ensures_resolveLookup hone hsafe).weaken (fun _ ht => ht) (fun _ => hall) hall
  | handleExpires handle =>
    apply Ensures.weaken (P := Carries (Held s)) (Q := fun _ => Carries (Held s))
      (E := Carries (Held s)) _ _ (fun _ => hall) hall
    · apply keeps_statement
      intro t t' ht hwrite
      obtain rfl := pure_eq_ok.mp hwrite
      exact ht.of_rows rfl rfl
    · rintro t rfl
      exact hstart

theorem IdentityStep.carries {t t' : Tables} {call : IdentityCall} (hone : OneOwner t)
    (hsafe : call.KeepsApart d t) (hstep : IdentityStep d t call t') :
    Carries (fun q j w => Held t q j w ∧ ¬call.Releases d q j w) t' := by
  obtain ⟨turns, rfl⟩ := hstep
  have hout := ensures_call hone hsafe t turns rfl
  split at hout
  · next h => rwa [h]
  · next h => rwa [h]

theorem ensures_resolveUser_none {s : Tables} (platform platformUserId : String) :
    Ensures (· = s) (resolveUser d platform platformUserId none)
      (fun found _ => ∀ user, found = some user → Held s
        (d.toLowerCase platform) platformUserId user.id)
      (fun _ => True) := by
  unfold resolveUser
  split_ifs
  · exact Ensures.pure fun _ _ _ h => nomatch h
  · apply Ensures.bind
      ((ensures_findNode _).weaken (fun _ ht => ht) (fun _ _ ht => ht) fun _ _ => trivial)
    intro node
    split
    · next user huser =>
      apply Ensures.pure
      rintro t ⟨rfl, hfound, -⟩
      intro user' huser'
      obtain rfl := Option.some.inj huser'
      obtain ⟨⟨node, owner⟩, rfl, rfl⟩ := Option.bind_eq_some_iff.mp huser
      obtain ⟨hnode, hkey, howner⟩ := hfound node _ rfl
      have hid : user.id = node.userId := by simpa using List.find?_some howner.symm
      exact .inl ⟨node, hnode, of_decide_eq_true hkey, hid.symm⟩
    · split
      · exact Ensures.pure fun _ _ _ h => nomatch h
      · next c hc =>
        have hplatform : d.toLowerCase platform = c.platform := by
          rw [← platformIdColumn_eq hc, d.toLowerCase_toLowerCase]
        apply Ensures.bind ((ensures_findUser _).weaken (fun _ ht => ht.1) (fun _ _ ht => ht)
          fun _ _ => trivial)
        intro user
        rintro t turns ⟨rfl, hfound, -⟩
        cases user with
        | none => exact fun _ h => nomatch h
        | some user =>
          obtain ⟨huser, hget⟩ := hfound user rfl
          have hheld : Held t (d.toLowerCase platform) platformUserId user.id :=
            .inr ⟨c, hplatform.symm, user, huser, of_decide_eq_true hget, rfl⟩
          have hheal : Ensures (fun _ => True) (do
              ignoringFailure do
                let _ ← syncSocialNode d user.id (d.toLowerCase platform) platformUserId
                  (truthy user.username)
                pure ()
              pure (some user))
              (fun found _ => ∀ user, found = some user → Held t
                (d.toLowerCase platform) platformUserId user.id)
              (fun _ => True) := by
            apply Ensures.bind (R := fun _ _ => True)
            · exact Ensures.trivial _ _
            · intro _
              apply Ensures.pure
              rintro _ - user' huser'
              obtain rfl := Option.some.inj huser'
              exact hheld
          exact hheal t turns trivial

/-- The user that `resolveUser` returns holds the identity. -/
theorem ResolvesTo.held {t : Tables} {platform platformUserId userId : String}
    (h : ResolvesTo d t platform platformUserId userId) :
    Held t (d.toLowerCase platform) platformUserId userId := by
  obtain ⟨turns, user, rest, hout, rfl⟩ := h
  have hresolve := ensures_resolveUser_none (d := d) (s := t) platform platformUserId t turns rfl
  rw [hout] at hresolve
  exact hresolve user rfl

abbrev IdentityRun (d : Setting) := Run (IdentityStep d)

theorem IdentityRun.oneOwner {start finish : Tables} {tr : List (Transition Tables IdentityCall)}
    (hrun : IdentityRun d start tr finish) (hstart : OneOwner start)
    (hsteps : ∀ c ∈ tr, c.event.KeepsApart d c.before) :
    OneOwner finish := by
  have hsafe :
      Run (fun t call t' => IdentityStep d t call t' ∧ call.KeepsApart d t) start tr finish :=
    hrun.strengthen fun c hc hstep => ⟨hstep, hsteps c hc⟩
  apply hsafe.invariant hstart
  rintro t call t' hone ⟨hstep, hkeeps⟩
  exact (hstep.carries hone hkeeps).one

theorem IdentityRun.held {start finish : Tables} {tr : List (Transition Tables IdentityCall)}
    {p i u : String} (hrun : IdentityRun d start tr finish) (hstart : OneOwner start)
    (hsteps : ∀ c ∈ tr, c.event.KeepsApart d c.before)
    (hreleases : ∀ c ∈ tr, ¬c.event.Releases d p i u) (hheld : Held start p i u) :
    Held finish p i u := by
  have hsafe :
      Run (fun t call t' => IdentityStep d t call t' ∧ call.KeepsApart d t ∧ ¬call.Releases d p i u)
        start tr finish :=
    hrun.strengthen fun c hc hstep => ⟨hstep, hsteps c hc, hreleases c hc⟩
  have hboth : OneOwner finish ∧ Held finish p i u := by
    apply hsafe.invariant (I := fun t => OneOwner t ∧ Held t p i u) ⟨hstart, hheld⟩
    rintro t call t' ⟨hone, hheld⟩ ⟨hstep, hkeeps, hrelease⟩
    have hcarries := hstep.carries hone hkeeps
    exact ⟨hcarries.one, hcarries.carried p i u ⟨hheld, hrelease⟩⟩
  exact hboth.2

/-- While every call keeps identities apart, no identity has two users, and one that was resolved to
a user resolves to nobody else until it is released. -/
theorem platform_identities_are_not_repointed {start middle finish : Tables}
    {tr tr' : List (Transition Tables IdentityCall)} {platform platformUserId u v : String}
    (hone : OneOwner start) (hfirst : IdentityRun d start tr middle)
    (hthen : IdentityRun d middle tr' finish)
    (hsteps : ∀ c ∈ tr ++ tr', c.event.KeepsApart d c.before) :
    (∀ p i w w', Held finish p i w → Held finish p i w' → w = w') ∧
      (ResolvesTo d middle platform platformUserId u →
        (∀ c ∈ tr', ¬c.event.Releases d (d.toLowerCase platform) platformUserId u) →
        ResolvesTo d finish platform platformUserId v → v = u) := by
  have hmiddle := hfirst.oneOwner hone fun c hc => hsteps c (List.mem_append_left _ hc)
  have hsteps' : ∀ c ∈ tr', c.event.KeepsApart d c.before :=
    fun c hc => hsteps c (List.mem_append_right _ hc)
  have hfinish := hthen.oneOwner hmiddle hsteps'
  constructor
  · intro p i w w' hw hw'
    exact hfinish.held hw hw'
  · intro hu hreleases hv
    exact hfinish.held hv.held (hthen.held hmiddle hsteps' hreleases hu.held)

end Runs

end VeriAgentPay.Identity

namespace VeriAgentPay.Devnet
open FixedWidth Client LabelledRuns Identity

/-! Accounts of two people: one is only looked up, the other has a passkey. -/

def numberSalt : FixedBytes 32 :=
  beBytes 32 0xc3f658c555e83472a588d4901c7b877e98a5e66d9373991331f2da18f63f38d8
def numberPlaceholderVault : Pubkey :=
  beBytes 32 0xcfd641f1b2adfa91186e5a632be6b8b88b212ccffad3cfe38a0afe32fc0209fd
def numberVault : Pubkey :=
  beBytes 32 0xb80f65b14419dd56218c02c61b22f6d523ec1273a5ac22730700964a6ab94c06
def discordSalt : FixedBytes 32 :=
  beBytes 32 0x0fc52b80ce19c6cbca5f5e456b3e3ad02941fb873a4baf04697938b2f39e535a
def discordVault : Pubkey :=
  beBytes 32 0xe717e6ccd910242e867a6face8842bc2720a046ab8b295eeb2edf9f0b93402ac
def passkeyX : String := "0xb72c063c6c5646958df366f75785d615fb858a44df2a13d17e10f0a7e4928fc9"
def passkeyY : String := "0xfa3a39d374ac5398d6855324210bf67c59978eb552c604911a923c4c0af1b7b1"
def passkeyHash : FixedBytes 32 :=
  beBytes 32 0x99f0fd65e3945053bf44057b6ef0e09f9c4545806b22fc5aad225b3077b4c1b9

def passkey : Bytes :=
  (beBytes 33 0x03b72c063c6c5646958df366f75785d615fb858a44df2a13d17e10f0a7e4928fc9).toList

def accountAddresses : List (Pubkey × Bytes × Pubkey) :=
  [(programId, (vaultSeeds (List.Vector.replicate 32 0) numberSalt).flatten ++ [254],
    numberPlaceholderVault),
    (programId, (vaultSeeds passkeyHash numberSalt).flatten ++ [255], numberVault),
    (programId, (vaultSeeds passkeyHash discordSalt).flatten ++ [255], discordVault)]

def accountDigests : List (Bytes × FixedBytes 32) :=
  [(utf8 "veriagent:solana:identity:v1\x00telegram\x0012345", numberSalt),
    (utf8 "veriagent:solana:identity:v1\x00discord\x0077", discordSalt), (passkey, passkeyHash)]

def lowerCase (text : String) : String := String.ofList (text.toList.map Char.toLower)

theorem toLower_toLower (c : Char) : c.toLower.toLower = c.toLower := by
  by_cases h : c.val ≥ 'A'.val ∧ c.val ≤ 'Z'.val
  · have hlower : c.toLower.val = c.val + 32 := by
      unfold Char.toLower
      rw [dif_pos h]
      rfl
    unfold Char.toLower at hlower ⊢
    rw [dif_neg]
    rw [hlower]
    obtain ⟨hfrom, hto⟩ := h
    simp [UInt32.le_iff_toNat_le] at *
    omega
  · unfold Char.toLower
    simp only [dif_neg h]

theorem lowerCase_lowerCase (text : String) : lowerCase (lowerCase text) = lowerCase text := by
  simp only [lowerCase, String.toList_ofList, List.map_map]
  congr 2
  funext c
  exact toLower_toLower c

def accounts : Setting where
  rt :=
    { runtime with
      createProgramAddress := fun program seeds =>
        (accountAddresses.find? fun entry => entry.1 = program ∧ entry.2.1 = seeds).map
          fun entry => entry.2.2
      sha256 := fun bytes => (accountDigests.lookup bytes).getD numberSalt }
  toLowerCase := lowerCase
  equalsInsensitive a b := lowerCase a = lowerCase b
  ethersId := id
  toLowerCase_toLowerCase := lowerCase_lowerCase
  toLowerCase_platform := by decide +kernel

def noTables : Tables :=
  { users := [], nodes := [], handles := fun _ => none, credentials := [], challenges := []
    links := fun _ => none }

theorem noTables_oneOwner : OneOwner noTables := by
  refine ⟨?_, ?_, ?_, ?_, ?_⟩ <;> simp [noTables, NodeOf, ColumnOf]

def after (call : IdentityCall) (turns : List UnreliableStores.Turn) (t : Tables) : Tables :=
  (UnreliableStores.outcome (call.service accounts) t turns).2.1

def looked : Tables := after (.resolveContact "user-1" "telegram" "12345" true) [] noTables

def joined : Tables :=
  after (.registerUser "user-2" .discord "77" "bob" passkeyX passkeyY "") [] looked

def linkByOther : IdentityCall := .linkAccount "user-2" "telegram" "12345" none

/-- The account that was looked up is resolved, without its row of the link table; then the other
links its id. -/
def relinked : Tables :=
  after linkByOther []
    (after (.resolveUser "telegram" "12345" none) [.answers 0, .answers 0, .refuses] joined)

theorem run_of_after {start t : Tables} {tr : List (Transition Tables IdentityCall)}
    (call : IdentityCall) (turns : List UnreliableStores.Turn)
    (hrun : IdentityRun accounts start tr t) :
    IdentityRun accounts start (tr ++ [⟨t, call, after call turns t⟩]) (after call turns t) :=
  hrun.snoc ⟨turns, rfl⟩

def resolvedId (t : Tables) (turns : List UnreliableStores.Turn)
    (platform platformUserId : String) : Option String :=
  match (UnreliableStores.outcome
      (IdentityService.resolveUser accounts platform platformUserId none) t turns).1 with
  | .ok user => user.map fun user => user.id
  | .error _ => none

theorem resolvesTo_of_resolvedId {t : Tables} {turns : List UnreliableStores.Turn}
    {platform platformUserId u : String} (h : resolvedId t turns platform platformUserId = some u) :
    ResolvesTo accounts t platform platformUserId u := by
  unfold resolvedId at h
  generalize hout : UnreliableStores.outcome
    (IdentityService.resolveUser accounts platform platformUserId none) t turns = r at h
  obtain ⟨r, rest⟩ := r
  cases r with
  | error e => cases h
  | ok user =>
    obtain ⟨user, rfl, hid⟩ := Option.map_eq_some_iff.mp h
    exact ⟨turns, user, rest, hout, hid⟩

/-- An account that was looked up keeps its id in its column only: the next user to link the id
takes it. -/
theorem platform_identity_repointed :
    ∃ tr middle tr' finish, IdentityRun accounts noTables tr middle ∧
    IdentityRun accounts middle tr' finish ∧
    ResolvesTo accounts middle "telegram" "12345" "user-1" ∧
    (∀ c ∈ tr', ¬c.event.Releases accounts "telegram" "12345" "user-1") ∧
    ResolvesTo accounts finish "telegram" "12345" "user-2" ∧
    Held finish "telegram" "12345" "user-1" ∧ Held finish "telegram" "12345" "user-2" := by
  have hfirst := run_of_after (.registerUser "user-2" .discord "77" "bob" passkeyX passkeyY "") []
    (run_of_after (.resolveContact "user-1" "telegram" "12345" true) []
      (Run.nil : IdentityRun accounts noTables [] noTables))
  have hthen := run_of_after linkByOther [] (run_of_after (.resolveUser "telegram" "12345" none)
    [.answers 0, .answers 0, .refuses] (Run.nil : IdentityRun accounts joined [] joined))
  obtain ⟨hbefore, hafter, hrow, hnode⟩ : resolvedId joined [] "telegram" "12345" = some "user-1" ∧
      resolvedId relinked [] "telegram" "12345" = some "user-2" ∧
      relinked.users.any (fun row => row.telegramId = some "12345" ∧ row.id = "user-1") ∧
      relinked.nodes.any
        (fun node => node.key = ("telegram", "12345") ∧ node.userId = "user-2") := by
    decide +kernel
  refine ⟨_, _, _, _, hfirst, hthen, resolvesTo_of_resolvedId hbefore, ?_,
    resolvesTo_of_resolvedId hafter, ?_, ?_⟩
  · intro c hc
    simp only [List.nil_append, List.singleton_append, List.mem_cons, List.not_mem_nil,
      or_false] at hc
    rcases hc with rfl | rfl
    · rintro ⟨-, name, hname, -⟩
      cases hname
    · exact id
  · obtain ⟨row, hrow, hheld⟩ := List.any_eq_true.mp hrow
    exact .inr ⟨.telegramId, rfl, row, hrow, of_decide_eq_true hheld⟩
  · obtain ⟨node, hnode, hheld⟩ := List.any_eq_true.mp hnode
    exact .inl ⟨node, hnode, of_decide_eq_true hheld⟩

theorem keepsApart_pair {t t' t'' : Tables} {call call' : IdentityCall}
    (h : call.KeepsApart accounts t) (h' : call'.KeepsApart accounts t') :
    ∀ c ∈ [⟨t, call, t'⟩] ++ [(⟨t', call', t''⟩ : Transition Tables IdentityCall)],
      c.event.KeepsApart accounts c.before := by
  intro c hc
  rcases List.mem_append.mp hc with hc | hc
  · rw [List.mem_singleton.mp hc]
    exact h
  · rw [List.mem_singleton.mp hc]
    exact h'

/-- An account with a passkey only. -/
def settled : Tables :=
  after (.registerUser "user-2" .discord "77" "bob" passkeyX passkeyY "") [] noTables

theorem settled_rows : settled.nodes.map SocialNode.key = [("discord", "77")] ∧
    settled.users.map (fun user => user.telegramId) = [none] ∧
    resolvedId settled [] "discord" "77" = some "user-2" := by
  decide +kernel

/-- The owner of the passkey links a number that nobody has. -/
theorem platform_identities_are_not_repointed_devnet : ∃ middle finish tr tr',
    IdentityRun accounts noTables tr middle ∧ IdentityRun accounts middle tr' finish ∧
      ResolvesTo accounts middle "discord" "77" "user-2" ∧
      ∀ v, ResolvesTo accounts finish "discord" "77" v → v = "user-2" := by
  obtain ⟨hnodes, hcolumns, hresolved⟩ := settled_rows
  have hcolumn : ∀ i, ¬ColumnOf settled .telegramId i "user-2" := by
    rintro i ⟨row, hrow, hget, -⟩
    have hmem := List.mem_map_of_mem (f := fun user => user.telegramId) hrow
    rw [hcolumns] at hmem
    have hnone : row.telegramId = none := List.mem_singleton.mp hmem
    exact absurd (hnone.symm.trans hget) (by simp)
  have hnothing : ∀ v, ¬Held settled "telegram" "12345" v := by
    rintro v (⟨node, hnode, hkey, -⟩ | ⟨c, hc, row, hrow, hget, -⟩)
    · have hmem := List.mem_map_of_mem (f := SocialNode.key) hnode
      rw [hnodes, hkey] at hmem
      exact absurd hmem (by decide)
    · obtain rfl : c = .telegramId := Column.platform_injective hc
      have hmem := List.mem_map_of_mem (f := fun user => user.telegramId) hrow
      rw [hcolumns] at hmem
      have hnone : row.telegramId = none := List.mem_singleton.mp hmem
      exact absurd (hnone.symm.trans hget) (by simp)
  have hlinks : linkByOther.KeepsApart accounts settled :=
    .inr (MayHave.of_column .telegramId hnothing hcolumn)
  have hfirst : IdentityRun accounts noTables
      [⟨noTables, .registerUser "user-2" .discord "77" "bob" passkeyX passkeyY "", settled⟩]
        settled :=
    run_of_after _ [] Run.nil
  have hthen : IdentityRun accounts settled [⟨settled, linkByOther, after linkByOther [] settled⟩]
      (after linkByOther [] settled) :=
    run_of_after _ [] Run.nil
  have hjoins :
      (IdentityCall.registerUser "user-2" .discord "77" "bob" passkeyX passkeyY "").KeepsApart
        accounts noTables := by
    refine ⟨?_, ?_⟩
    · rintro - v ⟨node, hnode, -⟩
      cases hnode
    · intro user huser
      cases huser
  have hmiddle := resolvesTo_of_resolvedId hresolved
  refine ⟨_, _, _, _, hfirst, hthen, hmiddle, fun v hv => ?_⟩
  refine (platform_identities_are_not_repointed noTables_oneOwner hfirst hthen ?_).2 hmiddle ?_ hv
  · exact keepsApart_pair hjoins hlinks
  · intro c hc
    obtain rfl := List.mem_singleton.mp hc
    exact id

end VeriAgentPay.Devnet
