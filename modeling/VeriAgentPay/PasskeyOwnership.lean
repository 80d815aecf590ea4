import VeriAgentPay.SessionEnding

/-!
# A passkey keeps its owner and its key

A registration writes the row of a credential id that its caller chooses, whoever holds it. When
every row keeps its account and its key all the same, and a session is begun only under a key that
was enrolled for its account.
-/

namespace VeriAgentPay.Passkeys
open InterleavedPrograms KeyedTables WebAuthnService

section Ownership

/-- The row has its account and its keys still. -/
structure Credential.SameAs (row row' : Credential) : Prop where
  lookupHash : row'.lookupHash = row.lookupHash
  id : row'.id = row.id
  userId : row'.userId = row.userId
  vaultKey : row'.vaultKey = row.vaultKey
  publicKey : ∀ key ∈ row.credentialPublicKey, row'.credentialPublicKey = some key

/-- A registration writes a row that is its account's and has its key; if the row is revoked, it is
authenticated. -/
def RegistrationOwns (t : Tables) (lookupHash userId key : String)
    (authenticated : Option String) : Prop :=
  ∀ row ∈ t.credentials.rows, row.lookupHash = lookupHash → row.userId = userId ∧
  row.vaultKey = some key ∧
    (row.revokedAt ≠ none → authenticated = some userId)

/-- The vault stores the key that it holds already. -/
def StoreOwns (t : Tables) (id : ℕ) (key : String) (encrypted : Bool) : Prop :=
  ∀ row ∈ t.credentials.rows, row.id = id → (row.store key encrypted).vaultKey = row.vaultKey

instance (t : Tables) (lookupHash userId key : String) (authenticated : Option String) :
    Decidable (RegistrationOwns t lookupHash userId key authenticated) :=
  inferInstanceAs (Decidable (∀ row ∈ t.credentials.rows, _ → _ ∧ _ ∧ (_ → _)))
instance (t : Tables) (id : ℕ) (key : String) (encrypted : Bool) :
    Decidable (StoreOwns t id key encrypted) :=
  inferInstanceAs (Decidable (∀ row ∈ t.credentials.rows, _ → _))

def ownersKept : StoreService.Conditions Tables Operation Request where
  starts _ := True
  allows _ _ t
    | .upsertCredential lookupHash userId key _ _ _ authenticated =>
      RegistrationOwns t lookupHash userId key authenticated
    | .storeKey id key encrypted => StoreOwns t id key encrypted
    | _ => True
  passes _ _ := True

/-- An authenticated registration of the row for its account. -/
def Reactivates (row : Credential) (r : Request) : Prop :=
  ∃ key counter deviceType backedUp,
    r = .upsertCredential row.lookupHash row.userId key counter deviceType backedUp
      (some row.userId)

def Revokes (row : Credential) (r : Request) : Prop := ∃ now, r = .revokeCredential row.id now

/-- What a request makes of a row: only an authenticated registration activates it, only a
revocation revokes it. -/
structure Credential.KeptBy (r : Request) (row row' : Credential) :
    Prop extends row.SameAs row' where
  revoked : row.revokedAt ≠ none → row'.revokedAt ≠ none ∨ Reactivates row r
  active : row.revokedAt = none → row'.revokedAt = none ∨ Revokes row r

/-- A key that an account has enrolled for a credential id, by a registration or in the vault. -/
def Enrolled (t : Tables) (enrolment : Enrolment) : Prop :=
  enrolment ∈ t.history.enrolled ∨ enrolment ∈ t.history.vaulted

/-- The row's keys agree, and were enrolled for its account. -/
def HasKey (t : Tables) (row : Credential) : Prop :=
  ∃ key, row.vaultKey = some key ∧ (∀ key' ∈ row.credentialPublicKey, key' = key) ∧
    Enrolled t ⟨row.lookupHash, row.userId, key⟩

/-- The invariant. -/
structure Owned (t : Tables) : Prop where
  fresh : ∀ row ∈ t.credentials.rows, row.id < t.nextId
  unique : ∀ row ∈ t.credentials.rows, ∀ row' ∈ t.credentials.rows, row.id = row'.id → row = row'
  keys : ∀ row ∈ t.credentials.rows, HasKey t row
  authenticated : ∀ enrolment ∈ t.history.authenticated, Enrolled t enrolment

/-- Rows stay their accounts', and enrolments are not forgotten. -/
structure Keeps (t t' : Tables) : Prop where
  rows : ∀ row ∈ t.credentials.rows, ∃ row' ∈ t'.credentials.rows, row.SameAs row'
  enrolled : ∀ enrolment, Enrolled t enrolment → Enrolled t' enrolment

def ownerDiscipline (host : Host) : Discipline Tables Operation Request Answer where
  service := passkeyService host
  conditions := ownersKept
  inv := Owned
  grows := Keeps

variable {host : Host} {i : ℕ} {op : Operation} {t t' : Tables} {row row' : Credential}
  {r : Request}

theorem Credential.SameAs.refl (row : Credential) : row.SameAs row :=
  ⟨rfl, rfl, rfl, rfl, fun _ h => h⟩

theorem Credential.KeptBy.same (h : row.SameAs row') (hrevoked : row'.revokedAt = row.revokedAt) :
    Credential.KeptBy r row row' :=
  ⟨h, fun hnot => .inl (hrevoked ▸ hnot), fun hnone => .inl (hrevoked.trans hnone)⟩

theorem Credential.KeptBy.refl (row : Credential) : Credential.KeptBy r row row :=
  .same (.refl row) rfl

theorem Keeps.refl (t : Tables) : Keeps t t :=
  ⟨fun row hrow => ⟨row, hrow, .refl row⟩, fun _ h => h⟩

/-- The row with an id changes. -/
theorem keptBy_updateCredential {id : ℕ} {condition : Credential → Bool}
    {data : Credential → Credential} (hdata : ∀ row, (data row).lookupHash = row.lookupHash)
    (hkept : ∀ row ∈ t.credentials.rows, row.id = id → condition row →
      Credential.KeptBy r row (data row)) :
    ∀ row ∈ t.credentials.rows,
      ∃ row' ∈ (t.updateCredential id condition data hdata).credentials.rows,
      Credential.KeptBy r row row' := by
  intro row hrow
  by_cases hhere : (row.id = id && condition row) = true
  · refine ⟨data row, (Keyed.mem_update hdata).mpr ⟨row, hrow, if_pos hhere⟩, ?_⟩
    simp only [Bool.and_eq_true, decide_eq_true_eq] at hhere
    exact hkept row hrow hhere.1 hhere.2
  · exact ⟨row, (Keyed.mem_update hdata).mpr ⟨row, hrow, if_neg hhere⟩, .refl row⟩

theorem register_vaultKey {userId key : String} {counter : ℕ} {deviceType : DeviceType}
    {backedUp : Bool} (h : row.vaultKey = some key ∨ row.encryptedPayload = none) :
    (row.register userId key counter deviceType backedUp).vaultKey = some key := by
  show (row.encryptedPayload.orElse fun _ => some key) = some key
  cases hpayload : row.encryptedPayload with
  | none => rfl
  | some payload =>
    rcases h with hsame | hnone
    · simpa [Credential.vaultKey, hpayload] using hsame
    · rw [hnone] at hpayload
      cases hpayload

theorem store_fields (row : Credential) (key : String) (encrypted : Bool) :
    (row.store key encrypted).id = row.id ∧ (row.store key encrypted).userId = row.userId ∧
      (row.store key encrypted).credentialPublicKey = row.credentialPublicKey ∧
      (row.store key encrypted).revokedAt = row.revokedAt := by
  unfold Credential.store
  split_ifs
  · exact ⟨rfl, rfl, rfl, rfl⟩
  · exact ⟨rfl, rfl, rfl, rfl⟩

theorem store_vaultKey_blank (lookupHash : String) (id : ℕ) (userId key : String)
    (encrypted : Bool) :
    ((blankCredential lookupHash id userId).store key encrypted).vaultKey = some key := by
  unfold Credential.store
  split_ifs
  · rfl
  · rfl

/-- A registration of a row whose public key is that of the vault, if it has one. -/
theorem keptBy_register {userId key : String} {counter : ℕ} {deviceType : DeviceType}
    {backedUp : Bool} {authenticated : Option String} (huser : row.userId = userId)
    (hkey : row.vaultKey = some key) (hpublic : ∀ key' ∈ row.credentialPublicKey, key' = key)
    (hrevoked : row.revokedAt ≠ none → authenticated = some userId) :
    Credential.KeptBy
      (.upsertCredential row.lookupHash userId key counter deviceType backedUp authenticated) row
      (row.register userId key counter deviceType backedUp) := by
  refine ⟨⟨rfl, rfl, huser.symm, ?_, ?_⟩, ?_, fun _ => .inl rfl⟩
  · rw [register_vaultKey (.inl hkey), hkey]
  · intro key' hkey'
    rw [hpublic key' hkey']
    rfl
  · intro hnot
    subst huser
    exact .inr ⟨key, counter, deviceType, backedUp, by rw [hrevoked hnot]⟩

/-- What each request leaves of the rows. -/
theorem carry_keeps_rows (ht : Owned t) (hallows : ownersKept.allows i op t r) :
    ∀ row ∈ t.credentials.rows, ∃ row' ∈ (carry t r).2.credentials.rows,
      Credential.KeptBy r row row' := by
  have hsame : (carry t r).2.credentials = t.credentials →
      ∀ row ∈ t.credentials.rows, ∃ row' ∈ (carry t r).2.credentials.rows,
      Credential.KeptBy r row row' :=
    fun h row hrow => ⟨row, h ▸ hrow, .refl row⟩
  cases r with
  | upsertCredential lookupHash userId key counter deviceType backedUp authenticated =>
    intro row hrow
    show ∃ row' ∈ (t.upsertCredential lookupHash userId key counter deviceType backedUp).rows, _
    unfold Tables.upsertCredential
    cases hinsert :
      t.credentials.insert
        ((blankCredential lookupHash t.nextId userId).register userId key counter deviceType
          backedUp) with
    | some credentials => exact ⟨row, (Keyed.mem_insert hinsert).mpr (.inl hrow), .refl row⟩
    | none =>
      by_cases hhere : row.lookupHash = lookupHash
      · obtain ⟨huser, hkey, hrevoked⟩ := hallows row hrow hhere
        obtain ⟨key', hkey', hpublic, -⟩ := ht.keys row hrow
        obtain rfl := Option.some.inj (hkey.symm.trans hkey')
        subst hhere
        exact ⟨_, (Keyed.mem_update _).mpr ⟨row, hrow, if_pos (decide_eq_true rfl)⟩,
          keptBy_register huser hkey hpublic hrevoked⟩
      · exact ⟨row, (Keyed.mem_update _).mpr ⟨row, hrow, if_neg (by simpa using hhere)⟩, .refl row⟩
  | preparePublicKey id key =>
    apply keptBy_updateCredential
    intro row _ _ hcondition
    simp only [Bool.and_eq_true, decide_eq_true_eq] at hcondition
    refine .same ⟨rfl, rfl, rfl, rfl, ?_⟩ rfl
    rw [hcondition.1]
    rintro key' ⟨⟩
  | useCredential id counter deviceType backedUp =>
    apply keptBy_updateCredential
    intro row _ _ _
    exact .same ⟨rfl, rfl, rfl, rfl, fun _ h => h⟩ rfl
  | storeKey id key encrypted =>
    apply keptBy_updateCredential
    intro row hrow hid _
    obtain ⟨hsameId, huser, hpublic, hrevoked⟩ := store_fields row key encrypted
    exact .same ⟨Credential.store_lookupHash key encrypted row, hsameId, huser,
      hallows row hrow hid, fun _ h => hpublic ▸ h⟩ hrevoked
  | revokeCredential id now =>
    apply keptBy_updateCredential
    rintro row - rfl -
    exact ⟨⟨rfl, rfl, rfl, rfl, fun _ h => h⟩,
      fun _ => .inl (Option.some_ne_none now), fun _ => .inr ⟨now, rfl⟩⟩
  | insertCredential lookupHash userId key encrypted =>
    intro row hrow
    refine ⟨row, ?_, .refl row⟩
    unfold carry
    dsimp only
    split
    · next credentials hinsert => exact (Keyed.mem_insert hinsert).mpr (.inl hrow)
    · exact hrow
  | _ => exact hsame rfl

theorem HasKey.later (h : HasKey t row)
    (henrolled : ∀ enrolment, Enrolled t enrolment → Enrolled t' enrolment) : HasKey t' row := by
  obtain ⟨key, hkey, hpublic, hmem⟩ := h
  exact ⟨key, hkey, hpublic, henrolled _ hmem⟩

/-- The rows are those of before, changed, and perhaps a new one. -/
theorem Owned.of_rows (h : Owned t) (lookupHash : String) (hnextId : t.nextId ≤ t'.nextId)
    (henrolled : ∀ enrolment, Enrolled t enrolment → Enrolled t' enrolment)
    (hauthenticated : ∀ enrolment ∈ t'.history.authenticated, enrolment ∈ t.history.authenticated ∨
      Enrolled t enrolment)
    (hkeys : ∀ row ∈ t'.credentials.rows, HasKey t' row)
    (hrows : ∀ row' ∈ t'.credentials.rows,
      (∃ row ∈ t.credentials.rows, row'.lookupHash = row.lookupHash ∧ row'.id = row.id) ∨
      row'.lookupHash = lookupHash ∧ row'.id = t.nextId ∧ t.nextId < t'.nextId) : Owned t' := by
  refine ⟨?_, ?_, hkeys, ?_⟩
  · intro row' hrow'
    rcases hrows row' hrow' with ⟨row, hrow, -, hid⟩ | ⟨-, hid, hlt⟩
    · exact hid ▸ (h.fresh row hrow).trans_le hnextId
    · exact hid ▸ hlt
  · intro row₁ hrow₁ row₂ hrow₂ hsame
    apply t'.credentials.eq_of_key hrow₁ hrow₂
    rcases hrows row₁ hrow₁ with ⟨old₁, hold₁, hhash₁, hid₁⟩ | ⟨hhash₁, hid₁, -⟩
    · rcases hrows row₂ hrow₂ with ⟨old₂, hold₂, hhash₂, hid₂⟩ | ⟨-, hid₂, -⟩
      · rw [hhash₁, hhash₂, h.unique old₁ hold₁ old₂ hold₂ (hid₁.symm.trans (hsame.trans hid₂))]
      · exact absurd (hid₁.symm.trans (hsame.trans hid₂)) (h.fresh old₁ hold₁).ne
    · rcases hrows row₂ hrow₂ with ⟨old₂, hold₂, -, hid₂⟩ | ⟨hhash₂, -, -⟩
      · exact absurd (hid₂.symm.trans (hsame.symm.trans hid₁)) (h.fresh old₂ hold₂).ne
      · exact hhash₁.trans hhash₂.symm
  · intro enrolment henrolment
    rcases hauthenticated enrolment henrolment with hold | hnew
    · exact henrolled _ (h.authenticated enrolment hold)
    · exact henrolled _ hnew

/-- A request that leaves credentials and enrolments alone. -/
theorem Owned.frame (h : Owned t) (hcredentials : t'.credentials = t.credentials)
    (hnextId : t.nextId ≤ t'.nextId) (henrolled : t'.history.enrolled = t.history.enrolled)
    (hvaulted : t'.history.vaulted = t.history.vaulted)
    (hauthenticated : ∀ enrolment ∈ t'.history.authenticated, enrolment ∈ t.history.authenticated ∨
      Enrolled t enrolment) :
    Owned t' := by
  have hlater : ∀ enrolment, Enrolled t enrolment → Enrolled t' enrolment := by
    intro enrolment h
    unfold Enrolled
    rw [henrolled, hvaulted]
    exact h
  apply h.of_rows "" hnextId hlater hauthenticated
  · intro row hrow
    exact (h.keys row (hcredentials ▸ hrow)).later hlater
  · intro row hrow
    exact .inl ⟨row, hcredentials ▸ hrow, rfl, rfl⟩

/-- The row with an id changes. -/
theorem Owned.updateCredential (h : Owned t) {id : ℕ} {condition : Credential → Bool}
    {data : Credential → Credential} (hdata : ∀ row, (data row).lookupHash = row.lookupHash)
    (hid : ∀ row, (data row).id = row.id)
    (hkeys : ∀ row ∈ t.credentials.rows, row.id = id → HasKey t row → HasKey t (data row)) :
    Owned (t.updateCredential id condition data hdata) := by
  refine h.of_rows "" le_rfl (fun _ henrolment => henrolment)
    (fun _ henrolment => .inl henrolment) ?_ ?_
  · intro row' hrow'
    rcases Keyed.of_mem_update hdata hrow' with ⟨hold, -⟩ | ⟨row, hrow, hhere, rfl⟩
    · exact h.keys row' hold
    · simp only [Bool.and_eq_true, decide_eq_true_eq] at hhere
      exact hkeys row hrow hhere.1 (h.keys row hrow)
  · intro row' hrow'
    rcases Keyed.of_mem_update hdata hrow' with ⟨hold, -⟩ | ⟨row, hrow, -, rfl⟩
    · exact .inl ⟨row', hold, rfl, rfl⟩
    · exact .inl ⟨row, hrow, hdata row, hid row⟩

theorem Owned.upsertCredential (h : Owned t) {lookupHash userId key : String}
    {authenticated : Option String} (howns : RegistrationOwns t lookupHash userId key authenticated)
    (counter : ℕ) (deviceType : DeviceType) (backedUp : Bool) :
    Owned (carry t
      (.upsertCredential lookupHash userId key counter deviceType backedUp authenticated)).2 := by
  have hlater : ∀ enrolment, Enrolled t enrolment →
      Enrolled (carry t
        (.upsertCredential lookupHash userId key counter deviceType backedUp authenticated)).2
          enrolment :=
    fun enrolment h => h.imp (List.mem_cons_of_mem _) id
  have hnew : ∀ row : Credential, row.lookupHash = lookupHash → row.vaultKey = some key ∨
      row.encryptedPayload = none →
      HasKey (carry t
        (.upsertCredential lookupHash userId key counter deviceType backedUp authenticated)).2
        (row.register userId key counter deviceType backedUp) := by
    intro row hhash hkey
    refine ⟨key, register_vaultKey hkey, ?_, .inl ?_⟩
    · rintro key' ⟨⟩
      rfl
    · rw [← hhash]
      exact List.mem_cons_self
  have hfrom : ∀ row' ∈ (t.upsertCredential lookupHash userId key counter deviceType backedUp).rows,
      (row' ∈ t.credentials.rows) ∨ (∃ row ∈ t.credentials.rows, row.lookupHash = lookupHash ∧
        row' = row.register userId key counter deviceType backedUp) ∨
        row' = (blankCredential lookupHash t.nextId userId).register userId key counter deviceType
          backedUp := by
    intro row' hrow'
    unfold Tables.upsertCredential at hrow'
    split at hrow'
    · next credentials hinsert => exact ((Keyed.mem_insert hinsert).mp hrow').imp id .inr
    · rcases Keyed.of_mem_update _ hrow' with ⟨hold, -⟩ | ⟨row, hrow, hhash, rfl⟩
      · exact .inl hold
      · exact .inr (.inl ⟨row, hrow, of_decide_eq_true hhash, rfl⟩)
  refine h.of_rows lookupHash (Nat.le_succ _) hlater (fun _ henrolment => .inl henrolment) ?_ ?_
  · intro row' hrow'
    rcases hfrom row' hrow' with hold | ⟨row, hrow, hhash, rfl⟩ | rfl
    · exact (h.keys row' hold).later hlater
    · exact hnew row hhash (.inl (howns row hrow hhash).2.1)
    · exact hnew _ rfl (.inr rfl)
  · intro row' hrow'
    rcases hfrom row' hrow' with hold | ⟨row, hrow, -, rfl⟩ | rfl
    · exact .inl ⟨row', hold, rfl, rfl⟩
    · exact .inl ⟨row, hrow, rfl, rfl⟩
    · exact .inr ⟨rfl, rfl, Nat.lt_succ_self _⟩

theorem Owned.insertCredential (h : Owned t) (lookupHash userId key : String) (encrypted : Bool) :
    Owned (carry t (.insertCredential lookupHash userId key encrypted)).2 := by
  unfold carry
  dsimp only
  split
  · next credentials hinsert =>
    have hlater : ∀ enrolment, Enrolled t enrolment → Enrolled { t with
        credentials := credentials
        nextId := t.nextId + 1
        history :=
          { t.history with vaulted := ⟨lookupHash, userId, key⟩ :: t.history.vaulted } }
            enrolment :=
      fun enrolment h => h.imp id (List.mem_cons_of_mem _)
    obtain ⟨hid, huser, hpublic, -⟩ :=
      store_fields (blankCredential lookupHash t.nextId userId) key encrypted
    have hhash :=
      Credential.store_lookupHash key encrypted (blankCredential lookupHash t.nextId userId)
    refine h.of_rows lookupHash (Nat.le_succ _) hlater (fun _ henrolment => .inl henrolment) ?_ ?_
    · intro row hrow
      rcases (Keyed.mem_insert hinsert).mp hrow with hold | rfl
      · exact (h.keys row hold).later hlater
      · refine ⟨key, store_vaultKey_blank lookupHash t.nextId userId key encrypted, ?_, .inr ?_⟩
        · rw [hpublic]
          rintro key' ⟨⟩
        · rw [hhash, huser]
          exact List.mem_cons_self
    · intro row hrow
      rcases (Keyed.mem_insert hinsert).mp hrow with hold | rfl
      · exact .inl ⟨row, hold, rfl, rfl⟩
      · exact .inr ⟨hhash, hid, Nat.lt_succ_self _⟩
  · exact h

/-- What a program knows when it asks for a key to be prepared, or begins a session under one. -/
def Request.Known (t : Tables) : Request → Prop
  | .preparePublicKey id key => ∃ row ∈ t.credentials.rows, row.id = id ∧ row.vaultKey = some key
  | .createToken _ _ _ (some enrolment) => Enrolled t enrolment
  | _ => True

theorem carry_owned (ht : Owned t) (hallows : ownersKept.allows i op t r) (hknown : r.Known t) :
    Owned (carry t r).2 := by
  cases r with
  | upsertCredential lookupHash userId key counter deviceType backedUp authenticated =>
    exact ht.upsertCredential hallows counter deviceType backedUp
  | insertCredential lookupHash userId key encrypted =>
    exact ht.insertCredential lookupHash userId key encrypted
  | preparePublicKey id key =>
    apply ht.updateCredential
    · exact fun _ => rfl
    · rintro row hrow rfl ⟨key', hkey', -, hmem⟩
      obtain ⟨row', hrow', hid, hkey⟩ := hknown
      obtain rfl := ht.unique row' hrow' row hrow hid
      obtain rfl := Option.some.inj (hkey.symm.trans hkey')
      refine ⟨key, hkey, ?_, hmem⟩
      rintro key' ⟨⟩
      rfl
  | useCredential id counter deviceType backedUp =>
    apply ht.updateCredential
    · exact fun _ => rfl
    · exact fun _ _ _ hkey => hkey
  | storeKey id key encrypted =>
    apply ht.updateCredential
    · exact fun row => (store_fields row key encrypted).1
    · rintro row hrow hid ⟨key', hkey', hpublic', hmem⟩
      obtain ⟨-, huser, hpublic, -⟩ := store_fields row key encrypted
      refine ⟨key', (hallows row hrow hid).trans hkey', ?_, ?_⟩
      · rw [hpublic]
        exact hpublic'
      · rw [Credential.store_lookupHash, huser]
        exact hmem
  | revokeCredential id now =>
    apply ht.updateCredential
    · exact fun _ => rfl
    · exact fun _ _ _ hkey => hkey
  | createToken userId expiresAt parent enrolment =>
    refine ht.frame rfl (Nat.le_succ _) rfl rfl ?_
    intro other hother
    rcases List.mem_append.mp hother with hnew | hold
    · cases enrolment with
      | none => cases hnew
      | some enrolment =>
        obtain rfl := List.mem_singleton.mp hnew
        exact .inr hknown
    · exact .inl hold
  | signJwt userId lifetime => exact ht.frame rfl (Nat.le_succ _) rfl rfl fun _ h => .inl h
  | createChallenge flow platformId userId expiresAt bearer =>
    exact ht.frame rfl (Nat.le_succ _) rfl rfl fun _ h => .inl h
  | _ => exact ht.frame rfl le_rfl rfl rfl fun _ h => .inl h

theorem carry_enrolled (r : Request) {enrolment : Enrolment} (h : Enrolled t enrolment) :
    Enrolled (carry t r).2 enrolment := by
  cases r with
  | upsertCredential lookupHash userId key counter deviceType backedUp authenticated =>
    exact h.imp (List.mem_cons_of_mem _) id
  | insertCredential lookupHash userId key encrypted =>
    unfold carry
    dsimp only
    split
    · exact h.imp id (List.mem_cons_of_mem _)
    · exact h
  | _ => exact h

/-- What each request does, if the program knows what it has to. -/
theorem owner_step (ht : Owned t) (hallows : ownersKept.allows i op t r) (hknown : r.Known t) :
    Keeps t (carry t r).2 ∧ Owned (carry t r).2 := by
  refine ⟨⟨?_, fun _ h => carry_enrolled r h⟩, carry_owned ht hallows hknown⟩
  intro row hrow
  obtain ⟨row', hrow', hkept⟩ := carry_keeps_rows ht hallows row hrow
  exact ⟨row', hrow', hkept.toSameAs⟩

theorem keepsRoutine_owners : KeepsRoutine (ownerDiscipline host) i op := by
  intro r hr t ht hallows
  apply owner_step ht hallows
  cases r with
  | preparePublicKey id key => cases hr
  | createToken userId expiresAt parent enrolment =>
    cases enrolment with
    | none => trivial
    | some enrolment => simp [Request.isRoutine] at hr
  | _ => trivial

/-- A request about which nothing has to be known. -/
theorem upholds_owner_ask {K : Tables → Prop} (hstable : (ownerDiscipline host).Stable K)
    {r : Request} (hknown : ∀ t, K t → r.Known t) :
    (ownerDiscipline host).Upholds i op (ask r) K (fun _ => K) fun _ => True := by
  apply Discipline.Upholds.ask fun _ => hstable
  intro t ht hK hallows
  have hstep : Keeps t (carry t r).2 ∧ Owned (carry t r).2 := owner_step ht hallows (hknown t hK)
  exact ⟨hstep.1, hstep.2, hstable t _ hstep.1 hK⟩

theorem upholds_owner_issueSession (userId : String) (parent : Option RefreshToken)
    (enrolment : Option Enrolment) :
    (ownerDiscipline host).Upholds i op (issueSession userId parent enrolment)
      (fun t => ∀ e ∈ enrolment, Enrolled t e) (fun _ _ => True) fun _ => True := by
  have hstable : (ownerDiscipline host).Stable fun t => ∀ e ∈ enrolment, Enrolled t e :=
    fun t t' hkeeps hknown e he => hkeeps.enrolled e (hknown e he)
  unfold issueSession
  apply Discipline.Upholds.bind (R := fun _ t => ∀ e ∈ enrolment, Enrolled t e)
  · exact upholds_owner_ask hstable fun _ _ => trivial
  intro accessToken
  apply Discipline.Upholds.bind (R := fun _ t => ∀ e ∈ enrolment, Enrolled t e)
  · exact upholds_owner_ask hstable fun _ _ => trivial
  intro now
  apply Discipline.Upholds.bind
  · apply upholds_owner_ask hstable
    intro t hknown
    cases enrolment with
    | none => trivial
    | some enrolment => exact hknown enrolment rfl
  intro refreshToken
  exact Discipline.Upholds.pure fun _ _ _ => trivial

theorem upholds_owner_plain {r : Request} (hknown : ∀ t, r.Known t) :
    (ownerDiscipline host).Upholds i op (ask r) (fun _ => True) (fun _ _ => True) fun _ => True :=
  upholds_owner_ask (Discipline.stable_const True) fun t _ => hknown t

theorem upholds_owner_refreshToken (token : ℕ) :
    (ownerDiscipline host).Upholds i op (refreshToken token) (fun _ => True) (fun _ _ => True)
      fun _ => True := by
  unfold refreshToken
  apply Discipline.Upholds.bind (R := fun _ _ => True)
  · exact upholds_owner_plain fun _ => trivial
  intro found
  apply Discipline.Upholds.bind (R := fun _ _ => True)
  · exact upholds_owner_plain fun _ => trivial
  intro now
  dsimp only
  apply Discipline.Upholds.bind (R := fun _ _ => True)
  · exact Discipline.Upholds.checked (fun _ _ _ _ _ => trivial) fun _ _ => trivial
  intro stored
  split_ifs
  · apply Discipline.Upholds.bind (R := fun _ _ => True)
    · exact upholds_owner_plain fun _ => trivial
    intro deleted
    apply Discipline.Upholds.bind (R := fun _ _ => True)
    · exact Discipline.Upholds.require fun _ _ => trivial
    intro _
    exact Discipline.Upholds.checked (fun _ _ _ _ _ => trivial) fun _ _ => trivial
  · apply Discipline.Upholds.bind (R := fun _ _ => True)
    · exact upholds_owner_plain fun _ => trivial
    intro deleted
    apply Discipline.Upholds.bind (R := fun _ _ => True)
    · exact Discipline.Upholds.require fun _ _ => trivial
    intro _
    apply (upholds_owner_issueSession stored.userId (some stored) none).weaken
    · rintro t - - enrolment ⟨⟩
    · exact fun _ _ _ => trivial
    · exact fun _ _ => trivial

theorem upholds_owner_logout (token : Option ℕ) (authorization : Option AccessToken) :
    (ownerDiscipline host).Upholds i op (logout token authorization) (fun _ => True)
      (fun _ _ => True) fun _ => True := by
  unfold logout
  apply Discipline.Upholds.bind (R := fun _ _ => True)
  · cases token with
    | none => exact Discipline.Upholds.pure fun _ _ _ => trivial
    | some token => exact upholds_owner_plain fun _ => trivial
  intro _
  cases authorization with
  | none => exact Discipline.Upholds.pure fun _ _ _ => trivial
  | some a =>
    apply Discipline.Upholds.bind (R := fun _ _ => True)
    · exact upholds_owner_plain fun _ => trivial
    intro verifies
    split_ifs
    · apply Discipline.Upholds.bind (R := fun _ _ => True)
      · exact upholds_owner_plain fun _ => trivial
      intro now
      exact upholds_owner_plain fun _ => trivial
    · exact Discipline.Upholds.pure fun _ _ _ => trivial

/-- A row that was read is still its account's, with the same key in the vault. -/
def HoldsKey (id : ℕ) (key : String) (t : Tables) : Prop :=
  ∃ row ∈ t.credentials.rows, row.id = id ∧ row.vaultKey = some key

theorem HoldsKey.stable (id : ℕ) (key : String) :
    (ownerDiscipline host).Stable (HoldsKey id key) := by
  rintro t t' hkeeps ⟨row, hrow, hid, hkey⟩
  obtain ⟨row', hrow', hsame⟩ := hkeeps.rows row hrow
  exact ⟨row', hrow', hsame.id.trans hid, hsame.vaultKey.trans hkey⟩

theorem upholds_owner_ensureWebAuthnPublicKey (lookupHash : String) :
    (ownerDiscipline host).Upholds i op (ensureWebAuthnPublicKey lookupHash) (fun _ => True)
      (fun _ _ => True) fun _ => True := by
  unfold ensureWebAuthnPublicKey
  apply Discipline.Upholds.bind (R := fun _ _ => True)
  · exact upholds_owner_plain fun _ => trivial
  intro existing
  split_ifs
  · exact Discipline.Upholds.pure fun _ _ _ => trivial
  · apply Discipline.Upholds.bind
      (R := fun legacy t => ∀ row ∈ legacy, ∀ key ∈ row.vaultKey, HoldsKey row.id key t)
    · apply Discipline.Upholds.read Keeps.refl fun _ => rfl
      · intro legacy t t' hkeeps hknown row hrow key hkey
        exact HoldsKey.stable row.id key t t' hkeeps (hknown row hrow key hkey)
      · intro t _ _ row hrow key hkey
        exact ⟨row, (Keyed.find?_eq_some.mp hrow).1, rfl, hkey⟩
    intro legacy
    cases hlegacy : legacy.bind fun row => row.vaultKey.map fun key => (row.id, key) with
    | none => exact Discipline.Upholds.pure fun _ _ _ => trivial
    | some pair =>
      obtain ⟨id, key⟩ := pair
      obtain ⟨row, rfl, hkey⟩ := Option.bind_eq_some_iff.mp hlegacy
      obtain ⟨key', hkey', hpair⟩ := Option.map_eq_some_iff.mp hkey
      cases hpair
      apply Discipline.Upholds.bind (R := fun _ _ => True)
      · apply (upholds_owner_ask (r := .preparePublicKey row.id key) (HoldsKey.stable row.id key)
          fun _ h => h).weaken
        · exact fun t _ hknown => hknown row rfl key hkey'
        · exact fun _ _ _ => trivial
        · exact fun _ _ => trivial
      intro _
      exact Discipline.Upholds.pure fun _ _ _ => trivial

/-- A row under the hash, whose public key was enrolled for its account. -/
def Shows (lookupHash : String) (row : Credential) (t : Tables) : Prop :=
  row.lookupHash = lookupHash ∧
  ∀ key ∈ row.credentialPublicKey, Enrolled t ⟨lookupHash, row.userId, key⟩

theorem shows_stable (lookupHash : String) (found : Option Credential) :
    (ownerDiscipline host).Stable fun t => ∀ row ∈ found, Shows lookupHash row t := by
  intro t t' hkeeps hknown row hrow
  obtain ⟨hhash, hkeys⟩ := hknown row hrow
  exact ⟨hhash, fun key hkey => hkeeps.enrolled _ (hkeys key hkey)⟩

theorem upholds_owner_findCredential (lookupHash : String) :
    (ownerDiscipline host).Upholds i op (ask (.findCredential lookupHash)) (fun _ => True)
      (fun found t => ∀ row ∈ found, Shows lookupHash row t) fun _ => True := by
  apply Discipline.Upholds.read Keeps.refl (fun _ => rfl) (shows_stable lookupHash)
  intro t ht _ row hrow
  obtain ⟨hmem, hhash⟩ := Keyed.find?_eq_some.mp hrow
  refine ⟨hhash, ?_⟩
  intro key hkey
  obtain ⟨key', -, hpublic, henrolled⟩ := ht.keys row hmem
  rw [hpublic key hkey, ← hhash]
  exact henrolled

theorem upholds_owner_findStored (lookupHash : String) :
    (ownerDiscipline host).Upholds i op (findStored lookupHash) (fun _ => True)
      (fun stored t => Enrolled t ⟨lookupHash, stored.1.userId, stored.2⟩) fun _ => True := by
  unfold findStored
  apply Discipline.Upholds.bind (upholds_owner_findCredential lookupHash)
  intro found
  apply Discipline.Upholds.bind (R := fun stored t => ∀ row ∈ stored, Shows lookupHash row t)
  · unfold prepared
    split_ifs
    · apply Discipline.Upholds.bind (R := fun _ _ => True)
      · exact (upholds_owner_ensureWebAuthnPublicKey lookupHash).weaken (fun _ _ _ => trivial)
          (fun _ _ h => h) fun _ h => h
      intro _
      exact upholds_owner_findCredential lookupHash
    · exact Discipline.Upholds.pure fun _ _ hknown => hknown
  intro stored
  apply Discipline.Upholds.checked
  · rintro ⟨row, key⟩ t hstored _ hknown
    obtain ⟨row', hrow', hkey⟩ :=
      Option.bind_eq_some_iff.mp (CheckedOutcome.orError_eq_ok.mp hstored)
    obtain ⟨key', hkey', hpair⟩ := Option.map_eq_some_iff.mp hkey
    cases hpair
    exact (hknown row (Option.eq_some_of_filter_eq_some hrow')).2 key hkey'
  · exact fun _ _ => trivial

theorem upholds_owner_verifyAuthentication (challengeId : ℕ) (credentialId : String)
    (assertion : Assertion) :
    (ownerDiscipline host).Upholds i op
      (verifyAuthentication host challengeId credentialId assertion) (fun _ => True)
        (fun _ _ => True) fun _ => True := by
  unfold verifyAuthentication
  apply Discipline.Upholds.bind (R := fun _ _ => True)
  · exact upholds_consumeChallenge keepsRoutine_owners challengeId .authentication
  intro _
  dsimp only
  apply Discipline.Upholds.bind (upholds_owner_findStored _)
  rintro ⟨stored, key⟩
  dsimp only
  have hstable : (ownerDiscipline host).Stable
      fun t => Enrolled t ⟨host.computeLookupHash credentialId, stored.userId, key⟩ :=
    fun t t' hkeeps hknown => hkeeps.enrolled _ hknown
  apply Discipline.Upholds.bind (Discipline.Upholds.check fun _ _ => trivial)
  intro _
  apply Discipline.Upholds.assuming
  rintro ⟨-, hsigned⟩
  apply Discipline.Upholds.bind
    (R := fun _ t => Enrolled t ⟨host.computeLookupHash credentialId, stored.userId, key⟩)
  · exact upholds_owner_ask hstable fun _ _ => trivial
  intro used
  apply Discipline.Upholds.bind (Discipline.Upholds.require fun _ _ => trivial)
  intro _
  apply Discipline.Upholds.bind (R := fun found t => ∀ user ∈ found, user.id = stored.userId ∧
    Enrolled t ⟨host.computeLookupHash credentialId, stored.userId, key⟩)
  · apply Discipline.Upholds.read Keeps.refl fun _ => rfl
    · intro found t t' hkeeps hknown user huser
      exact ⟨(hknown user huser).1, hkeeps.enrolled _ (hknown user huser).2⟩
    · intro t _ hknown user huser
      exact ⟨by simpa using List.find?_some huser, hknown⟩
  intro found
  apply Discipline.Upholds.bind (R := fun user t =>
    Enrolled t ⟨host.computeLookupHash credentialId, user.id, assertion.signedBy⟩)
  · apply Discipline.Upholds.checked
    · intro user t huser _ hknown
      obtain ⟨hid, henrolled⟩ := hknown user (CheckedOutcome.orError_eq_ok.mp huser)
      rw [hid, hsigned]
      exact henrolled
    · exact fun _ _ => trivial
  intro user
  apply (upholds_owner_issueSession user.id none _).weaken
  · rintro t - hknown enrolment ⟨⟩
    exact hknown
  · exact fun _ _ _ => trivial
  · exact fun _ _ => trivial

theorem owners_kept (host : Host) : (ownerDiscipline host).Kept := by
  refine Discipline.kept_of_plays Keeps.refl ?_ ?_
  · intro i op _
    cases op with
    | registrationOptions authorization isOnboardingOrClaim anonymous =>
      exact (upholds_registrationOptions keepsRoutine_owners authorization isOnboardingOrClaim
        anonymous).plays
    | verifyRegistration challengeId response choice registered =>
      exact (upholds_verifyRegistration keepsRoutine_owners host challengeId response choice
        registered).plays
    | authenticationOptions =>
      exact (upholds_saveChallenge keepsRoutine_owners .authentication "" none none).plays
    | verifyAuthentication challengeId credentialId assertion =>
      exact (upholds_owner_verifyAuthentication challengeId credentialId assertion).plays
    | refreshToken token => exact (upholds_owner_refreshToken token).plays
    | logout token authorization => exact (upholds_owner_logout token authorization).plays
    | revokeCredential userId id =>
      exact (upholds_revokeCredential keepsRoutine_owners userId id).plays
    | canActivate authorization =>
      exact (upholds_canActivate keepsRoutine_owners authorization).plays
    | storeCredential credentialId userId key =>
      exact (upholds_storeCredential keepsRoutine_owners host credentialId userId key).plays
  · intro n t ht _
    exact ⟨⟨fun row hrow => ⟨row, hrow, .refl row⟩, fun _ h => h⟩, ht.fresh, ht.unique, ht.keys,
      ht.authenticated⟩

/-- What a step makes of a row: its account and its keys stay, only an authenticated registration of
it for its account activates it, and only a revocation of it revokes it. -/
structure RowKept (event : InterleavedPrograms.Event Operation Request Answer)
    (row row' : Credential) : Prop extends row.SameAs row' where
  revoked : row.revokedAt ≠ none → row'.revokedAt ≠ none ∨
    ∃ i key counter deviceType backedUp, event =
    .performed i (.upsertCredential row.lookupHash row.userId key counter deviceType backedUp
      (some row.userId)) ()
  active : row.revokedAt = none → row'.revokedAt = none ∨
    ∃ i now updated, event = .performed i (.revokeCredential row.id now) updated

theorem RowKept.of_performed {x : Answer r} (h : Credential.KeptBy r row row') :
    RowKept (.performed i r x) row row' := by
  refine ⟨h.toSameAs, ?_, ?_⟩
  · intro hrevoked
    rcases h.revoked hrevoked with hstill | ⟨key, counter, deviceType, backedUp, rfl⟩
    · exact .inl hstill
    · exact .inr ⟨i, key, counter, deviceType, backedUp, rfl⟩
  · intro hactive
    rcases h.active hactive with hstill | ⟨now, rfl⟩
    · exact .inl hstill
    · exact .inr ⟨i, now, x, rfl⟩

theorem RowKept.refl (event : InterleavedPrograms.Event Operation Request Answer)
    (row : Credential) : RowKept event row row :=
  ⟨.refl row, fun h => .inl h, fun h => .inl h⟩

/-- In every interleaving in which a registration writes no row but its own account's, with the key
that it has and, if it is revoked, after an authentication, and the vault stores no other key over
one: every row keeps its account and its keys at every step, is activated by an authenticated
registration for its account only and revoked by a revocation only, and an authentication begins a
session only under a key that was enrolled for the account and the credential id. -/
theorem passkeys_keep_owner_and_key {host : Host} {start : Tables}
    {tr : Trace Tables Operation Request Answer} {c : Config Tables Operation Request Answer}
    (hrun : (passkeyService host).Runs start tr c)
    (hmeets : ∀ t ∈ tr, StoreService.Meets ownersKept t)
    (hcredentials : start.credentials.rows = []) (hstart : start.history.authenticated = []) :
    (∀ t ∈ tr, ∀ row ∈ t.before.state.credentials.rows, ∃ row' ∈ t.after.state.credentials.rows,
      RowKept t.event row row') ∧
      ∀ enrolment ∈ c.state.history.authenticated, Enrolled c.state enrolment := by
  have hinitial : Owned start := by
    constructor <;> simp [hcredentials, hstart]
  obtain ⟨hfinish, hsteps⟩ := (owners_kept host).run hrun hmeets hinitial
  refine ⟨?_, hfinish.authenticated⟩
  intro t ht row hrow
  obtain ⟨hbefore, -⟩ := hsteps t ht
  rcases StoreService.effect_of_mem hrun hmeets ht with ⟨i, op, r, x, hevent, hallows,
    hafter⟩ | hsame | ⟨n, hpasses⟩
  · obtain ⟨row', hrow', hkept⟩ := carry_keeps_rows hbefore hallows row hrow
    refine ⟨row', ?_, hevent ▸ .of_performed hkept⟩
    rw [hafter]
    exact hrow'
  · exact ⟨row, hsame ▸ hrow, .refl _ row⟩
  · refine ⟨row, ?_, .refl _ row⟩
    rw [hpasses]
    exact hrow

end Ownership

end VeriAgentPay.Passkeys

namespace VeriAgentPay.Devnet
open InterleavedPrograms KeyedTables Passkeys

/-- Mallory registers Alice's credential id for her own account. -/
def registerOver : List (Move Passkeys.Operation) :=
  enrolPhone ++ callOf 2 4 (.registrationOptions none false (.ok "666")) ++
    callOf 3 5 (.verifyRegistration 4
      (some ⟨"phone", "key of mallory", true, 0, .multiDevice, true⟩) 0 (.ok "mallory"))

/-- A passkey that Alice has revoked is registered again, without her bearer token. -/
def registerAgain : List (Move Passkeys.Operation) :=
  revokePhone .multiDevice 9 ++ callOf 5 4 (.registrationOptions none false (.ok "12345")) ++
    callOf 6 5 (.verifyRegistration 8 (attested "phone" .multiDevice true) 0 (.ok "alice"))

/-- Mallory stores her key in the vault, under Alice's credential id. -/
def storeOver : List (Move Passkeys.Operation) :=
  enrolPhone ++ callOf 2 1 (.storeCredential "phone" "mallory" "key of mallory")

def phoneRow :
    Credential := ⟨"sha256:phone", 1, "alice", some "key of phone", none, some "key of phone", 0,
  .multiDevice, true, none⟩

/-- The row of Alice's phone before and after a last step, and whether that step is authenticated as
somebody. -/
def phoneRows (schedule : List (Move Passkeys.Operation)) (i : ℕ) :
    Option (Option Credential × Option Credential × Bool) :=
  ((passkeyService passkeyHost).moves StoreService.anything
    (Config.initial noPasskeys) schedule).bind fun c =>
    ((passkeyService passkeyHost).move StoreService.anything c (.step i)).map fun c' =>
      (c.state.credentials.find? "sha256:phone", c'.state.credentials.find? "sha256:phone",
        match c.pending i with
        | some (.upsertCredential _ _ _ _ _ _ authenticated) => authenticated.isSome
        | _ => false)

theorem rows_overwritten :
    phoneRows registerOver 3 = some (some phoneRow, some { phoneRow with
        userId := "mallory"
        credentialPublicKey := some "key of mallory"
        coordinates := some "key of mallory" }, false) ∧
      phoneRows registerAgain 6 = some (some { phoneRow with revokedAt := some 1750000000000 },
        some phoneRow, false) ∧
      phoneRows storeOver 2 = some (some phoneRow, some { phoneRow with
        encryptedPayload := some "key of mallory"
        coordinates := none }, false) := by
  decide +kernel

/-- There is a step at which the row that is found under its hash is not kept. -/
theorem rowLost_of_computed {schedule : List (Move Passkeys.Operation)} {i : ℕ}
    {row row' : Credential} {authenticated : Bool}
    (h : phoneRows schedule i = some (some row, some row', authenticated))
    (hlost : row.SameAs row' → row.revokedAt ≠ none ∧ row'.revokedAt = none ∧
      authenticated = false) :
    ∃ tr c, (passkeyService passkeyHost).Runs noPasskeys tr c ∧ ∃ t ∈ tr,
      t.before.state.credentials.find? "sha256:phone" = some row ∧
      t.after.state.credentials.find? "sha256:phone" = some row' ∧
      ¬∃ found ∈ t.after.state.credentials.rows, RowKept t.event row found := by
  obtain ⟨tr, c, r, x, c', hrun, -, hpending, hfacts⟩ := StoreService.runs_of_request h
  simp only [Prod.mk.injEq] at hfacts
  obtain ⟨hrow, hrow', hauthenticated⟩ := hfacts
  refine ⟨_, _, hrun, _, List.mem_append_right _ (List.mem_singleton_self _), hrow, hrow', ?_⟩
  rintro ⟨found, hfound, hkept⟩
  obtain ⟨hmem', hhash'⟩ := Keyed.find?_eq_some.mp hrow'
  obtain rfl := c'.state.credentials.eq_of_key hfound hmem' (by
    rw [hkept.lookupHash, (Keyed.find?_eq_some.mp hrow).2, hhash'])
  obtain ⟨hrevoked, hactive, hnot⟩ := hlost hkept.toSameAs
  rcases hkept.revoked hrevoked with hstill | ⟨j, key, counter, deviceType, backedUp, hevent⟩
  · exact hstill hactive
  · cases hevent
    rw [hpending] at hauthenticated
    rw [hnot] at hauthenticated
    cases hauthenticated

/-- A registration takes Alice's row over for Mallory; it activates a revoked one, without a
session; and the vault stores Mallory's key in it. -/
theorem passkey_overwritten :
    (∃ tr c, (passkeyService passkeyHost).Runs noPasskeys tr c ∧ ∃ t ∈ tr,
      t.before.state.credentials.find? "sha256:phone" = some phoneRow ∧
      t.after.state.credentials.find? "sha256:phone" = some { phoneRow with
        userId := "mallory"
        credentialPublicKey := some "key of mallory"
        coordinates := some "key of mallory" } ∧
      ¬∃ found ∈ t.after.state.credentials.rows, RowKept t.event phoneRow found) ∧
    (∃ tr c, (passkeyService passkeyHost).Runs noPasskeys tr c ∧ ∃ t ∈ tr,
      t.before.state.credentials.find? "sha256:phone" = some
        { phoneRow with revokedAt := some 1750000000000 } ∧
      t.after.state.credentials.find? "sha256:phone" = some phoneRow ∧
      ¬∃ found ∈ t.after.state.credentials.rows,
      RowKept t.event { phoneRow with revokedAt := some 1750000000000 } found) ∧
    ∃ tr c, (passkeyService passkeyHost).Runs noPasskeys tr c ∧ ∃ t ∈ tr,
      t.before.state.credentials.find? "sha256:phone" = some phoneRow ∧
      t.after.state.credentials.find? "sha256:phone" = some { phoneRow with
        encryptedPayload := some "key of mallory"
        coordinates := none } ∧
      ¬∃ found ∈ t.after.state.credentials.rows, RowKept t.event phoneRow found := by
  obtain ⟨hover, hagain, hstore⟩ := rows_overwritten
  refine ⟨rowLost_of_computed hover ?_, rowLost_of_computed hagain ?_,
    rowLost_of_computed hstore ?_⟩
  · intro hsame
    exact absurd hsame.userId (by decide)
  · intro _
    exact ⟨Option.some_ne_none _, rfl, rfl⟩
  · intro hsame
    exact absurd hsame.vaultKey (by decide)

instance : DecidablePred ownersKept.starts := fun _ => inferInstanceAs (Decidable True)
instance (i : ℕ) (op : Passkeys.Operation) (t : Passkeys.Tables) (r : Passkeys.Request) :
    Decidable (ownersKept.allows i op t r) :=
  match r with
  | .upsertCredential lookupHash userId key _ _ _ authenticated =>
    inferInstanceAs (Decidable (RegistrationOwns t lookupHash userId key authenticated))
  | .storeKey id key encrypted => inferInstanceAs (Decidable (StoreOwns t id key encrypted))
  | .now .. | .verifyJwt .. | .signJwt .. | .isRevoked .. | .setRevoked .. | .deleteExpired
      .. | .createChallenge ..
  | .findChallenge .. | .useChallenge .. | .findUserById .. | .findUserByPlatformId
      .. | .countCredentials ..
  | .findCredential .. | .findOwnCredential .. | .preparePublicKey .. | .useCredential
      .. | .insertCredential ..
  | .revokeCredential .. | .createToken .. | .findToken .. | .deleteToken .. | .deleteTokens
      .. | .deleteTokensOf .. => .isTrue trivial
instance (t t' : Passkeys.Tables) : Decidable (ownersKept.passes t t') := .isTrue trivial

/-- Alice logs in with the passkey of her phone. -/
def logInByPhone : List (Move Passkeys.Operation) :=
  enrolPhone ++ callOf 2 4 .authenticationOptions ++
    callOf 3 10 (.verifyAuthentication 4 "phone" ⟨"key of phone", true, 1, .multiDevice, true⟩)

theorem logged_in_by_phone :
    ((passkeyService passkeyHost).moves ownersKept (Config.initial noPasskeys) logInByPhone).map
      (fun c =>
      c.state.history.authenticated) = some [⟨"sha256:phone", "alice", "key of phone"⟩] := by
  decide +kernel

theorem passkeys_keep_owner_and_key_devnet :
    ∃ tr c, (passkeyService passkeyHost).Runs noPasskeys tr c ∧
    (∀ t ∈ tr, ∀ row ∈ t.before.state.credentials.rows, ∃ row' ∈ t.after.state.credentials.rows,
      RowKept t.event row row') ∧
    Enrolled c.state ⟨"sha256:phone", "alice", "key of phone"⟩ := by
  obtain ⟨tr, c, hrun, hmeets, -, hauthenticated⟩ :=
    StoreService.runs_of_computed logged_in_by_phone
  obtain ⟨hkept, henrolled⟩ := passkeys_keep_owner_and_key hrun hmeets rfl rfl
  refine ⟨tr, c, hrun, hkept, henrolled _ ?_⟩
  rw [hauthenticated]
  exact List.mem_cons_self

end VeriAgentPay.Devnet
