import VeriAgentPay.PasskeyServices

/-!
# Accounts that stay recoverable

A registration is refused if it would leave the account without a passkey that survives the loss of
a device, and a revocation if it would leave no passkey. When every account that has enrolled a
passkey keeps one that is recoverable, whatever runs besides.
-/

namespace VeriAgentPay.Passkeys
open InterleavedPrograms KeyedTables WebAuthnService

section Recoverability

/-- Eligible for backup, or backed up. -/
def isRecoverable (deviceType : DeviceType) (backedUp : Bool) : Bool :=
  deviceType = .multiDevice || backedUp

/-- An active passkey that survives the loss of a device. -/
def Credential.recovers (userId : String) (row : Credential) : Bool :=
  row.userId = userId && (row.isActive && isRecoverable row.deviceType row.backedUp)

/-- The account has such a passkey among the rows that do not change. -/
def KeepsBesides (t : Tables) (userId : String) (changed : Credential → Bool) : Prop :=
  ∃ row ∈ t.credentials.rows, row.recovers userId ∧ ¬changed row

instance (t : Tables) (userId : String) (changed : Credential → Bool) :
    Decidable (KeepsBesides t userId changed) :=
  inferInstanceAs (Decidable (∃ row ∈ t.credentials.rows, _))

/-- The account has a recoverable passkey. -/
def Recovers (t : Tables) (userId : String) : Prop :=
  ∃ row ∈ t.credentials.rows, row.recovers userId

/-- Every account that has enrolled a passkey has an active one that is recoverable. -/
def Recoverable (t : Tables) : Prop := ∀ enrolment ∈ t.history.enrolled, Recovers t enrolment.userId

variable {t t' : Tables} {userId : String} {row : Credential} {changed other : Credential → Bool}
  {data : Credential → Credential}

theorem recovers_self (h : row.recovers userId) :
    row.userId = userId ∧ row.recovers row.userId := by
  simp only [Credential.recovers, Bool.and_eq_true, decide_eq_true_eq] at h ⊢
  exact ⟨h.1, trivial, h.2⟩

/-- Rows change, and the account keeps another recoverable passkey unless the changed row still is
one. -/
theorem recovers_update (hdata : ∀ row, (data row).lookupHash = row.lookupHash)
    (hchange : ∀ row ∈ t.credentials.rows, changed row → row.recovers userId →
      (data row).recovers userId ∨ KeepsBesides t userId changed)
    (h : Recovers t userId) :
    ∃ row ∈ (t.credentials.update changed data hdata).rows, row.recovers userId := by
  obtain ⟨row, hrow, hrecovers⟩ := h
  by_cases hchanged : changed row
  · rcases hchange row hrow hchanged hrecovers with hstill | ⟨kept, hkept, hrecoversKept, hsame⟩
    · exact ⟨data row, (Keyed.mem_update hdata).mpr ⟨row, hrow, if_pos hchanged⟩, hstill⟩
    · exact ⟨kept, (Keyed.mem_update hdata).mpr ⟨kept, hkept, if_neg hsame⟩, hrecoversKept⟩
  · exact ⟨row, (Keyed.mem_update hdata).mpr ⟨row, hrow, if_neg hchanged⟩, hrecovers⟩

/-- Rows change, and those that are recoverable stay so. -/
theorem keepsBesides_update (hdata : ∀ row, (data row).lookupHash = row.lookupHash)
    (hchange : ∀ row ∈ t.credentials.rows, changed row → row.recovers userId →
      (data row).recovers userId ∧ other (data row) = other row)
    (h : KeepsBesides t userId other) :
    ∃ row ∈ (t.credentials.update changed data hdata).rows, row.recovers userId ∧ ¬other row := by
  obtain ⟨row, hrow, hrecovers, hother⟩ := h
  by_cases hchanged : changed row
  · obtain ⟨hstill, hsame⟩ := hchange row hrow hchanged hrecovers
    exact ⟨data row, (Keyed.mem_update hdata).mpr ⟨row, hrow, if_pos hchanged⟩, hstill,
      hsame ▸ hother⟩
  · exact ⟨row, (Keyed.mem_update hdata).mpr ⟨row, hrow, if_neg hchanged⟩, hrecovers, hother⟩

theorem register_recovers (row : Credential) (userId key : String) (counter : ℕ)
    (deviceType : DeviceType) (backedUp : Bool) :
    (row.register userId key counter deviceType backedUp).recovers userId =
      isRecoverable deviceType backedUp := by
  simp [Credential.recovers, Credential.register, Credential.isActive]

theorem use_recovers (counter : ℕ) {deviceType : DeviceType} {backedUp : Bool}
    (hrow : row.recovers userId) (h : isRecoverable deviceType backedUp) :
    (row.use counter deviceType backedUp).recovers userId := by
  simp only [Credential.recovers, Bool.and_eq_true, decide_eq_true_eq] at hrow ⊢
  exact ⟨hrow.1, hrow.2.1, h⟩

theorem store_recovers (row : Credential) (key : String) (encrypted : Bool) (userId : String) :
    (row.store key encrypted).recovers userId = row.recovers userId := by
  unfold Credential.store
  split_ifs
  · rfl
  · rfl

theorem store_id (row : Credential) (key : String) (encrypted : Bool) :
    (row.store key encrypted).id = row.id := by
  unfold Credential.store
  split_ifs
  · rfl
  · rfl

end Recoverability

section Notes

/-- What a call that counted has seen: how often the account had lost a recoverable passkey. -/
structure Count where
  caller : ℕ
  userId : String
  losses : ℕ
  deriving DecidableEq

/-- The tables, with notes of what nobody reads: how often passkeys of an account were revoked, or
overwritten, or reported as not recoverable, and what the counts of revocations have seen. -/
structure Noted where
  tables : Tables
  losses : String → ℕ
  counted : List Count

def Noted.opened (t : Tables) : Noted := ⟨t, fun _ => 0, []⟩

def Noted.lose (s : Noted) (p : Credential → Bool) : Noted :=
  { s with
    losses := fun userId => s.losses userId +
      s.tables.credentials.count fun row => row.userId = userId && p row }

def Noted.note (i : ℕ) (s : Noted) : Request → Noted
  | .countCredentials userId false =>
    { s with counted := ⟨i, userId, s.losses userId⟩ :: s.counted }
  | .upsertCredential lookupHash userId _ _ deviceType backedUp _ =>
    s.lose fun row => row.lookupHash = lookupHash &&
      !(isRecoverable deviceType backedUp && row.userId = userId)
  | .useCredential id _ deviceType backedUp =>
    s.lose fun row => row.id = id && !isRecoverable deviceType backedUp
  | .revokeCredential id _ => s.lose (·.id = id)
  | _ => s

/-- The services, with notes. -/
def notingService (host : Host) : StoreService Noted Operation Request Answer where
  program := Operation.program host
  carry i _ s r := ((carry s.tables r).1, { s.note i r with tables := (carry s.tables r).2 })
  passes n s := { s with tables := (passkeyService host).passes n s.tables }

/-- The passkey that a call is to revoke, and for whom. -/
def Operation.revokes : Operation → Option (String × ℕ)
  | .revokeCredential userId id => some (userId, id)
  | _ => none

/-- A passkey is registered over none that is the last recoverable one of its account, and where it
is not recoverable itself, for the account whose bearer token its challenge was made with. -/
structure RegisteredApart (t : Tables) (lookupHash userId : String) (recoverable : Bool)
    (authenticated : Option String) : Prop where
  overwritten : ∀ row ∈ t.credentials.rows, row.lookupHash = lookupHash →
    row.recovers row.userId → (recoverable ∧ row.userId = userId) ∨
      KeepsBesides t row.userId (·.lookupHash = lookupHash)
  enrolled : recoverable ∨ ∀ u ∈ authenticated, u = userId

/-- An authentication reports a recoverable passkey as one, or its account has another. -/
def ReportedApart (t : Tables) (id : ℕ) (recoverable : Bool) : Prop :=
  recoverable ∨ ∀ row ∈ t.credentials.rows, row.id = id → row.recovers row.userId →
    KeepsBesides t row.userId (·.id = id)

/-- The account of a call that revokes has lost no recoverable passkey since the call has counted,
and has still the one that is to be revoked. -/
structure RevokedInTurn (i : ℕ) (op : Operation) (s : Noted) : Prop where
  counted : ∀ entry ∈ s.counted, entry.caller = i → s.losses entry.userId = entry.losses
  own : ∀ target ∈ op.revokes, ∀ row ∈ s.tables.credentials.rows, row.id = target.2 →
    row.userId = target.1

/-- A revocation is called for a passkey besides which there is a recoverable one, and nothing takes
that one while the call is under way. -/
def recoverablyCalled : StoreService.Conditions Noted Operation Request where
  starts _ := True
  allows i op s
    | .countCredentials _ false => ∀ target ∈ op.revokes,
        KeepsBesides s.tables target.1 (·.id = target.2)
    | .revokeCredential _ _ => RevokedInTurn i op s
    | .useCredential id _ deviceType backedUp =>
        ReportedApart s.tables id (isRecoverable deviceType backedUp)
    | .upsertCredential lookupHash userId _ _ deviceType backedUp authenticated =>
        RegisteredApart s.tables lookupHash userId (isRecoverable deviceType backedUp) authenticated
    | _ => True
  passes _ _ := True

/-- No account loses its recoverable passkeys, nor those besides a certain one without a note. -/
structure Recovering (s s' : Noted) : Prop where
  recovers : ∀ userId, Recovers s.tables userId → Recovers s'.tables userId
  besides : ∀ userId id, s'.losses userId = s.losses userId →
    KeepsBesides s.tables userId (·.id = id) → KeepsBesides s'.tables userId (·.id = id)
  losses : ∀ userId, s.losses userId ≤ s'.losses userId
  counted : ∀ entry ∈ s.counted, entry ∈ s'.counted

def recoveryDiscipline (host : Host) : Discipline Noted Operation Request Answer where
  service := notingService host
  conditions := recoverablyCalled
  inv s := Recoverable s.tables
  grows := Recovering

variable {host : Host} {i : ℕ} {op : Operation} {s s' : Noted} {r : Request} {t : Tables}
  {userId : String} {id : ℕ}

theorem Recovering.refl (s : Noted) : Recovering s s :=
  ⟨fun _ h => h, fun _ _ _ h => h, fun _ => le_rfl, fun _ h => h⟩

/-- Credentials that do not change lose nobody anything. -/
theorem Recovering.of_same (hcredentials : s'.tables.credentials = s.tables.credentials)
    (hlosses : s'.losses = s.losses) (hcounted : ∀ entry ∈ s.counted, entry ∈ s'.counted) :
    Recovering s s' := by
  refine ⟨?_, ?_, fun u => (congrFun hlosses u).ge, hcounted⟩
  · rintro u ⟨row, hrow, hrecovers⟩
    exact ⟨row, hcredentials ▸ hrow, hrecovers⟩
  · rintro u id - ⟨row, hrow, hkept⟩
    exact ⟨row, hcredentials ▸ hrow, hkept⟩

/-- Rows are added. -/
theorem Recovering.of_added
    (hrows : ∀ row ∈ s.tables.credentials.rows, row ∈ s'.tables.credentials.rows)
    (hlosses : ∀ u, s.losses u ≤ s'.losses u) (hcounted : s'.counted = s.counted) :
    Recovering s s' := by
  refine ⟨?_, ?_, hlosses, fun entry hentry => hcounted ▸ hentry⟩
  · rintro u ⟨row, hrow, hrecovers⟩
    exact ⟨row, hrows row hrow, hrecovers⟩
  · rintro u id - ⟨row, hrow, hkept⟩
    exact ⟨row, hrows row hrow, hkept⟩

theorem le_lose (s : Noted) (p : Credential → Bool) (u : String) :
    s.losses u ≤ (s.lose p).losses u :=
  Nat.le_add_right _ _

/-- Where nothing was lost no recoverable row was noted. -/
theorem not_of_lose {p : Credential → Bool} {row : Credential}
    (h : (s.lose p).losses userId = s.losses userId) (hrow : row ∈ s.tables.credentials.rows)
    (hrecovers : row.recovers userId) : ¬p row := by
  intro hp
  have hzero : s.tables.credentials.count (fun row => row.userId = userId && p row) = 0 :=
    Nat.add_eq_left.mp h
  refine List.countP_eq_zero.mp hzero row hrow ?_
  simp [(recovers_self hrecovers).1, hp]

/-- Rows change, where a loss is noted unless they stay recoverable. -/
theorem Recovering.of_update {changed p : Credential → Bool} (data : Credential → Credential)
    (hdata : ∀ row, (data row).lookupHash = row.lookupHash)
    (hcredentials : s'.tables.credentials = s.tables.credentials.update changed data hdata)
    (hlosses : s'.losses = (s.lose p).losses) (hcounted : s'.counted = s.counted)
    (hid : ∀ row, (data row).id = row.id)
    (hkept : ∀ row ∈ s.tables.credentials.rows, changed row → ∀ u, row.recovers u → ¬p row →
      (data row).recovers u)
    (hlost : ∀ row ∈ s.tables.credentials.rows, changed row → row.recovers row.userId →
      (data row).recovers row.userId ∨ KeepsBesides s.tables row.userId changed) :
    Recovering s s' := by
  refine ⟨?_, ?_, fun u => hlosses ▸ le_lose s p u, fun entry hentry => hcounted ▸ hentry⟩
  · intro u hold
    unfold Recovers
    rw [hcredentials]
    refine recovers_update hdata (fun row hrow hchanged hrecovers => ?_) hold
    obtain ⟨rfl, hself⟩ := recovers_self hrecovers
    exact hlost row hrow hchanged hself
  · intro u id hsame hold
    unfold KeepsBesides
    rw [hcredentials]
    refine keepsBesides_update hdata (fun row hrow hchanged hrecovers => ?_) hold
    have hnot : ¬p row := not_of_lose (hlosses ▸ hsame) hrow hrecovers
    exact ⟨hkept row hrow hchanged u hrecovers hnot, by rw [hid]⟩

/-- Who has enrolled a passkey stays recoverable. -/
theorem Recovering.recoverable (h : Recovering s s') (hinv : Recoverable s.tables)
    (henrolled : s'.tables.history.enrolled = s.tables.history.enrolled) :
    Recoverable s'.tables :=
  fun enrolment hmem => h.recovers _ (hinv enrolment (henrolled ▸ hmem))

/-- A request that needs no knowledge: neither a registration nor a revocation. -/
def Request.Harmless : Request → Prop
  | .upsertCredential _ _ _ _ _ _ _ | .revokeCredential _ _ => False
  | _ => True

/-- What a request leaves behind. -/
def Noted.after (i : ℕ) (s : Noted) (r : Request) : Noted :=
  { s.note i r with tables := (carry s.tables r).2 }

theorem recovering_harmless (hr : r.Harmless) (hallows : recoverablyCalled.allows i op s r) :
    Recovering s (s.after i r) := by
  cases r with
  | upsertCredential | revokeCredential => exact hr.elim
  | countCredentials userId backedUp =>
    cases backedUp with
    | true => exact .of_same rfl rfl fun _ h => h
    | false => exact .of_same rfl rfl fun _ h => List.mem_cons_of_mem _ h
  | useCredential id counter deviceType backedUp =>
    refine .of_update (·.use counter deviceType backedUp) (fun _ => rfl) rfl rfl rfl
      (fun _ => rfl) ?_ ?_
    · intro row _ hid u hrecovers hnot
      simp only [Bool.and_true, decide_eq_true_eq] at hid
      simp only [hid, decide_true, Bool.true_and, Bool.not_eq_true', Bool.not_eq_false] at hnot
      exact use_recovers counter hrecovers hnot
    · intro row hrow hid hrecovers
      simp only [Bool.and_true, decide_eq_true_eq] at hid
      rcases hallows with hrecoverable | hkeeps
      · exact .inl (use_recovers counter hrecovers hrecoverable)
      · simpa using Or.inr (hkeeps row hrow hid hrecovers)
  | preparePublicKey id key =>
    refine .of_update (p := fun _ => false) (·.prepare key) (fun _ => rfl) rfl ?_ rfl
      (fun _ => rfl) ?_ ?_
    · simp [Noted.after, Noted.note, Noted.lose, Keyed.count]
    · intro row _ hchanged u hrecovers
      simp [Credential.recovers, Credential.isActive] at hchanged hrecovers
      exact absurd hchanged.2.1 hrecovers.2.1.2
    · intro row _ hchanged hrecovers
      simp [Credential.recovers, Credential.isActive] at hchanged hrecovers
      exact absurd hchanged.2.1 hrecovers.1.2
  | storeKey id key encrypted =>
    refine .of_update (p := fun _ => false) (·.store key encrypted)
      (Credential.store_lookupHash key encrypted) rfl ?_ rfl
      (fun row => store_id row key encrypted) ?_ ?_
    · simp [Noted.after, Noted.note, Noted.lose, Keyed.count]
    · intro row _ _ u hrecovers _
      rw [store_recovers]
      exact hrecovers
    · intro row _ _ hrecovers
      rw [store_recovers]
      exact .inl hrecovers
  | insertCredential lookupHash userId key encrypted =>
    cases hinsert : s.tables.credentials.insert
        ((blankCredential lookupHash s.tables.nextId userId).store key encrypted) with
    | none => exact .of_same (by simp [Noted.after, carry, hinsert]) rfl fun _ h => h
    | some credentials =>
      refine .of_added (fun row hrow => ?_) (fun _ => le_rfl) rfl
      simp only [Noted.after, carry, hinsert]
      exact (Keyed.mem_insert hinsert).mpr (.inl hrow)
  | _ => exact .of_same rfl rfl fun _ h => h

theorem enrolled_harmless (hr : r.Harmless) :
    (s.after i r).tables.history.enrolled = s.tables.history.enrolled := by
  cases r with
  | upsertCredential | revokeCredential => exact hr.elim
  | insertCredential lookupHash userId key encrypted =>
    unfold Noted.after carry
    dsimp only
    split
    · rfl
    · rfl
  | _ => rfl

end Notes

section Steps

variable {host : Host} {i : ℕ} {op : Operation} {s : Noted} {userId : String} {id : ℕ}

/-- A registration as it is noted. -/
theorem recovering_upsert {lookupHash : String} (key : String) (counter : ℕ)
    {deviceType : DeviceType} {backedUp : Bool} {authenticated : Option String}
    (happart : RegisteredApart s.tables lookupHash userId (isRecoverable deviceType backedUp)
      authenticated) :
    Recovering s (s.after i
      (.upsertCredential lookupHash userId key counter deviceType backedUp authenticated)) := by
  cases hinsert : s.tables.credentials.insert ((blankCredential lookupHash s.tables.nextId
      userId).register userId key counter deviceType backedUp) with
  | some credentials =>
    refine .of_added (fun row hrow => ?_) (fun u => le_lose s _ u) rfl
    simp only [Noted.after, carry, Tables.upsertCredential, hinsert]
    exact (Keyed.mem_insert hinsert).mpr (.inl hrow)
  | none =>
    have hupdate : (s.after i (.upsertCredential lookupHash userId key counter deviceType backedUp
        authenticated)).tables.credentials = s.tables.credentials.update
          (·.lookupHash = lookupHash) (·.register userId key counter deviceType backedUp)
          fun _ => rfl := by
      simp only [Noted.after, carry, Tables.upsertCredential, hinsert]
    refine .of_update (·.register userId key counter deviceType backedUp) (fun _ => rfl) hupdate
      rfl rfl (fun _ => rfl) ?_ ?_
    · intro row _ hhash u hrecovers hnot
      simp only [decide_eq_true_eq] at hhash
      simp only [hhash, decide_true, Bool.true_and, Bool.not_eq_true', Bool.not_eq_false,
        Bool.and_eq_true, decide_eq_true_eq] at hnot
      obtain ⟨hrecoverable, rfl⟩ := hnot
      rw [← (recovers_self hrecovers).1, register_recovers]
      exact hrecoverable
    · intro row hrow hhash hrecovers
      rcases happart.overwritten row hrow (of_decide_eq_true hhash) hrecovers with
        ⟨hrecoverable, rfl⟩ | hkept
      · rw [register_recovers]
        exact .inl hrecoverable
      · exact .inr hkept

/-- A passkey that is recoverable is there after its registration. -/
theorem recovers_upsert {lookupHash key : String} {counter : ℕ} {deviceType : DeviceType}
    {backedUp : Bool} {authenticated : Option String} (h : isRecoverable deviceType backedUp) :
    Recovers (s.after i (.upsertCredential lookupHash userId key counter deviceType backedUp
      authenticated)).tables userId := by
  unfold Recovers Noted.after carry Tables.upsertCredential
  dsimp only
  cases hinsert : s.tables.credentials.insert ((blankCredential lookupHash s.tables.nextId
      userId).register userId key counter deviceType backedUp) with
  | some credentials =>
    refine ⟨_, (Keyed.mem_insert hinsert).mpr (.inr rfl), ?_⟩
    rw [register_recovers]
    exact h
  | none =>
    obtain ⟨row, hrow, hhash⟩ := Keyed.insert_eq_none.mp hinsert
    refine ⟨_, (Keyed.mem_update _).mpr ⟨row, hrow, if_pos (decide_eq_true hhash)⟩, ?_⟩
    rw [register_recovers]
    exact h

/-- What a revocation knows from its count on. -/
def Counted (i : ℕ) (userId : String) (id : ℕ) (s : Noted) : Prop :=
  ∃ n, ⟨i, userId, n⟩ ∈ s.counted ∧ n ≤ s.losses userId ∧
    (s.losses userId = n → KeepsBesides s.tables userId (·.id = id))

theorem stable_counted : (recoveryDiscipline host).Stable (Counted i userId id) := by
  rintro s s' hgrows ⟨n, hentry, hle, hkeeps⟩
  refine ⟨n, hgrows.counted _ hentry, hle.trans (hgrows.losses userId), fun hsame => ?_⟩
  have hbefore : s.losses userId = n := le_antisymm (hsame ▸ hgrows.losses userId) hle
  exact hgrows.besides userId id (hsame.trans hbefore.symm) (hkeeps hbefore)

/-- A revocation in turn takes no account's last recoverable passkey. -/
theorem recovering_revoke {now : ℤ} (hcounted : Counted i userId id s)
    (hallows : RevokedInTurn i (.revokeCredential userId id) s) :
    Recovering s (s.after i (.revokeCredential id now)) := by
  obtain ⟨n, hentry, -, hkeeps⟩ := hcounted
  have hbesides : KeepsBesides s.tables userId (·.id = id) :=
    hkeeps (hallows.counted _ hentry rfl)
  refine .of_update (·.revoke now) (fun _ => rfl) rfl rfl rfl (fun _ => rfl) ?_ ?_
  · intro row _ hid u _ hnot
    simp only [Bool.and_true, decide_eq_true_eq] at hid
    exact absurd (decide_eq_true hid) hnot
  · intro row hrow hid _
    simp only [Bool.and_true, decide_eq_true_eq] at hid
    obtain rfl : row.userId = userId := hallows.own (userId, id) rfl row hrow hid
    simpa using Or.inr hbesides

theorem upholds_harmless {K : Noted → Prop} {α : Type} {x : Service α}
    (hK : (recoveryDiscipline host).Stable K)
    (hx : x.run.Asks Request.Harmless fun _ _ => True) :
    (recoveryDiscipline host).Upholds i op x K (fun _ => K) K := by
  refine Discipline.Upholds.of_asks hK hx fun r hr s hinv hallows => ?_
  have hgrows : Recovering s (s.after i r) := recovering_harmless hr hallows
  exact ⟨hgrows, hgrows.recoverable hinv (enrolled_harmless hr)⟩

end Steps

section Calls

open Fallible (asks_ask asks_checked asks_andThen asks_pure asks_checkThen asks_checkedThen)

variable {A : (r : Request) → Answer r → Prop}

theorem harmless_issueSession (userId : String) (parent : Option RefreshToken)
    (enrolment : Option Enrolment) :
    (issueSession userId parent enrolment).run.Asks Request.Harmless A :=
  asks_andThen (asks_ask trivial) fun _ => asks_andThen (asks_ask trivial) fun _ =>
    asks_andThen (asks_ask trivial) fun _ => asks_pure _

theorem harmless_saveChallenge (flow : Flow) (platformId : String) (userId : Option String)
    (bearer : Option AccessToken) :
    (saveChallenge flow platformId userId bearer).run.Asks Request.Harmless A :=
  asks_andThen (asks_ask trivial) fun _ => asks_andThen (asks_ask trivial) fun _ =>
    asks_andThen (asks_ask trivial) fun _ => asks_ask trivial

theorem harmless_consumeChallenge (id : ℕ) (flow : Flow) :
    (consumeChallenge id flow).run.Asks Request.Harmless A :=
  asks_andThen (asks_ask trivial) fun _ => asks_andThen (asks_ask trivial) fun _ =>
    asks_andThen (asks_checked _) fun _ => asks_andThen (asks_ask trivial) fun _ =>
      asks_andThen (asks_ask trivial) fun _ => asks_checkThen fun _ => asks_pure _

theorem harmless_registrationOptions (authorization : Option AccessToken)
    (isOnboardingOrClaim : Bool) (anonymous : Except Backend.Failure String) :
    (registrationOptions authorization isOnboardingOrClaim anonymous).run.Asks
      Request.Harmless A := by
  refine asks_andThen ?_ fun bearer => asks_andThen ?_ fun found => ?_
  · unfold bearerUserId authenticateBearer
    split_ifs
    · exact asks_pure _
    · cases authorization with
      | none => exact asks_pure _
      | some a => exact asks_andThen (asks_ask trivial) fun _ => asks_pure _
  · cases bearer with
    | none => exact asks_pure _
    | some a => exact asks_ask trivial
  · split
    · exact harmless_saveChallenge _ _ _ _
    · exact asks_andThen (asks_checked _) fun _ => harmless_saveChallenge _ _ _ _

theorem harmless_findStored (lookupHash : String) :
    (findStored lookupHash).run.Asks Request.Harmless A := by
  refine asks_andThen (asks_ask trivial) fun found => asks_andThen ?_ fun _ => asks_checked _
  unfold prepared
  split_ifs
  · refine asks_andThen (asks_andThen (asks_ask trivial) fun existing => ?_) fun _ =>
      asks_ask trivial
    split_ifs
    · exact asks_pure _
    · refine asks_andThen (asks_ask trivial) fun legacy => ?_
      split
      · exact asks_pure _
      · exact asks_andThen (asks_ask trivial) fun _ => asks_pure _
  · exact asks_pure _

theorem harmless_verifyAuthentication (host : Host) (challengeId : ℕ) (credentialId : String)
    (assertion : Assertion) :
    (verifyAuthentication host challengeId credentialId assertion).run.Asks Request.Harmless A :=
  asks_andThen (harmless_consumeChallenge _ _) fun _ =>
    asks_andThen (harmless_findStored _) fun _ => asks_checkThen fun _ =>
      asks_andThen (asks_ask trivial) fun _ => asks_checkThen fun _ =>
        asks_andThen (asks_ask trivial) fun _ => asks_andThen (asks_checked _) fun _ =>
          harmless_issueSession _ _ _

theorem harmless_refreshToken (token : ℕ) :
    (refreshToken token).run.Asks Request.Harmless A := by
  refine asks_andThen (asks_ask trivial) fun _ => asks_andThen (asks_ask trivial) fun now =>
    asks_andThen (asks_checked _) fun stored => ?_
  split_ifs
  · exact asks_andThen (asks_ask trivial) fun _ => asks_checkThen fun _ => asks_checked _
  · exact asks_andThen (asks_ask trivial) fun _ => asks_checkThen fun _ =>
      harmless_issueSession _ _ _

theorem harmless_logout (token : Option ℕ) (authorization : Option AccessToken) :
    (logout token authorization).run.Asks Request.Harmless A := by
  refine asks_andThen ?_ fun _ => ?_
  · cases token with
    | none => exact asks_pure _
    | some token => exact asks_ask trivial
  · cases authorization with
    | none => exact asks_pure _
    | some a =>
      refine asks_andThen (asks_ask trivial) fun verifies => ?_
      split_ifs
      · exact asks_andThen (asks_ask trivial) fun _ => asks_ask trivial
      · exact asks_pure _

theorem harmless_canActivate (authorization : Option AccessToken) :
    (canActivate authorization).run.Asks Request.Harmless A :=
  asks_andThen (asks_checked _) fun _ => asks_andThen (asks_ask trivial) fun _ =>
    asks_checkThen fun _ => asks_andThen (asks_ask trivial) fun _ =>
      asks_checkThen fun _ => asks_pure _

theorem harmless_storeCredential (host : Host) (credentialId userId key : String) :
    (storeCredential host credentialId userId key).run.Asks Request.Harmless A := by
  refine asks_andThen (asks_ask trivial) fun existing => ?_
  cases existing with
  | some row => exact asks_ask trivial
  | none => exact asks_andThen (asks_ask trivial) fun _ => asks_checked _

end Calls

section Gate

variable {host : Host} {i : ℕ} {op : Operation} {E : Noted → Prop}

/-- What a registration knows when it has passed the gate. -/
def Cleared (authenticated : Option String) (deviceType : DeviceType) (s : Noted) : Prop :=
  deviceType = .multiDevice ∨ ∃ userId ∈ authenticated, Recovers s.tables userId

theorem stable_cleared (authenticated : Option String) (deviceType : DeviceType) :
    (recoveryDiscipline host).Stable (Cleared authenticated deviceType) := by
  rintro s s' hgrows (hsynced | ⟨userId, huser, hrecovers⟩)
  · exact .inl hsynced
  · exact .inr ⟨userId, huser, hgrows.recovers userId hrecovers⟩

/-- A passkey that is backed up is recoverable. -/
theorem recovers_of_count {t : Tables} {userId : String}
    (h : 0 < (carry t (.countCredentials userId true)).1) : Recovers t userId := by
  obtain ⟨row, hrow, hcounted⟩ := List.countP_pos_iff.mp h
  simp only [Bool.not_true, Bool.false_or, Bool.and_eq_true, decide_eq_true_eq] at hcounted
  refine ⟨row, hrow, ?_⟩
  simp [Credential.recovers, isRecoverable, hcounted.1, hcounted.2.1, hcounted.2.2]

theorem upholds_gate (hon : host.requireRecoverablePasskey = true) (authenticated : Option String)
    (deviceType : DeviceType) :
    (recoveryDiscipline host).Upholds i op
      (assertAccountRemainsRecoverable host authenticated deviceType) (fun _ => True)
      (fun _ => Cleared authenticated deviceType) fun _ => True := by
  unfold assertAccountRemainsRecoverable
  split_ifs with hskips
  · refine Discipline.Upholds.pure fun _ _ _ => .inl ?_
    exact hskips.resolve_left (fun hoff => hoff hon)
  · refine Discipline.Upholds.bind
      (R := fun (n : ℕ) s => 0 < n → ∃ userId ∈ authenticated, Recovers s.tables userId) ?_ ?_
    · cases authenticated with
      | none => exact Discipline.Upholds.pure fun _ _ _ hpos => absurd hpos (lt_irrefl 0)
      | some userId =>
        refine Discipline.Upholds.ask (fun n => ?_) fun s hinv _ hallows => ?_
        · rintro s s' hgrows hknown hpos
          obtain ⟨u, hu, hrecovers⟩ := hknown hpos
          exact ⟨u, hu, hgrows.recovers u hrecovers⟩
        · have hgrows : Recovering s (s.after i (.countCredentials userId true)) :=
            recovering_harmless trivial hallows
          exact ⟨hgrows, hgrows.recoverable hinv rfl, fun hpos =>
            ⟨userId, rfl, recovers_of_count hpos⟩⟩
    · intro n
      refine (Discipline.Upholds.check fun _ _ => trivial).weaken (fun _ _ hs => hs) ?_
        fun _ hs => hs
      rintro - s ⟨hpos, hknown⟩
      exact .inr (hknown hpos)

/-- A registration leaves the account a recoverable passkey: its own, or the one that the gate has
counted. -/
theorem upholds_verifyRegistration_recoverable (hon : host.requireRecoverablePasskey = true)
    (challengeId : ℕ) (response : Option RegistrationInfo) (choice : ℕ)
    (registered : Except Backend.Failure String) :
    (recoveryDiscipline host).Upholds i op
      (verifyRegistration host challengeId response choice registered) (fun _ => True)
      (fun _ _ => True) fun _ => True := by
  unfold verifyRegistration
  refine Discipline.Upholds.bind (R := fun _ _ => True)
    (upholds_harmless (Discipline.stable_const True) (harmless_consumeChallenge _ _)) ?_
  intro challenge
  refine Discipline.Upholds.bind (R := fun _ _ => True)
    (Discipline.Upholds.checked (fun _ _ _ _ _ => trivial) fun _ _ => trivial) ?_
  intro info
  refine Discipline.Upholds.bind (R := fun _ _ => True)
    (Discipline.Upholds.require fun _ _ => trivial) ?_
  intro _
  refine Discipline.Upholds.bind (upholds_gate hon challenge.userId info.deviceType) ?_
  intro _
  have hstable : (recoveryDiscipline host).Stable _ :=
    stable_cleared challenge.userId info.deviceType
  refine Discipline.Upholds.bind (R := fun _ => Cleared challenge.userId info.deviceType) ?_ ?_
  · refine (upholds_harmless hstable ?_).weaken (fun _ _ hs => hs) (fun _ _ hs => hs)
      fun _ _ => trivial
    unfold findExistingUser
    split
    · exact Fallible.asks_ask trivial
    · exact Fallible.asks_ask trivial
  intro existingUser
  refine Discipline.Upholds.bind (R := fun _ => Cleared challenge.userId info.deviceType) ?_ ?_
  · refine (upholds_harmless hstable ?_).weaken (fun _ _ hs => hs) (fun _ _ hs => hs)
      fun _ _ => trivial
    unfold userToEnrol
    split
    · exact Fallible.asks_pure _
    · exact Fallible.asks_checked _
  intro userId
  refine Discipline.Upholds.bind (R := fun _ _ => True) ?_ ?_
  · refine Discipline.Upholds.ask (fun _ => Discipline.stable_const True) ?_
    intro s hinv hcleared hallows
    have happart : RegisteredApart s.tables (host.computeLookupHash info.credentialId) userId
        (isRecoverable info.deviceType info.backedUp) challenge.userId := hallows
    have hgrows := recovering_upsert (i := i) info.publicKey info.counter happart
    refine ⟨hgrows, ?_, trivial⟩
    intro enrolment hmem
    rcases List.mem_cons.mp hmem with rfl | hold
    · by_cases hrecoverable : isRecoverable info.deviceType info.backedUp
      · exact recovers_upsert hrecoverable
      · refine hgrows.recovers userId ?_
        rcases hcleared with hsynced | ⟨u, hu, hrecovers⟩
        · exact absurd (by simp [isRecoverable, hsynced]) hrecoverable
        · rw [← happart.enrolled.resolve_left hrecoverable u hu]
          exact hrecovers
    · exact hgrows.recovers _ (hinv enrolment hold)
  · intro _
    exact (upholds_harmless (Discipline.stable_const True) (harmless_issueSession _ _ _)).weaken
      (fun _ _ hs => hs) (fun _ _ hs => hs) fun _ hs => hs

/-- A revocation that was called beside a recoverable passkey, and in turn. -/
theorem upholds_revokeCredential_recoverable (userId : String) (id : ℕ) :
    (recoveryDiscipline host).Upholds i (.revokeCredential userId id) (revokeCredential userId id)
      (fun _ => True) (fun _ _ => True) fun _ => True := by
  unfold revokeCredential
  refine Discipline.Upholds.bind (R := fun _ _ => True)
    (upholds_harmless (Discipline.stable_const True) (Fallible.asks_ask trivial)) ?_
  intro found
  refine Discipline.Upholds.bind (R := fun _ _ => True)
    (Discipline.Upholds.require fun _ _ => trivial) ?_
  intro _
  refine Discipline.Upholds.bind (R := fun _ => Counted i userId id) ?_ ?_
  · refine Discipline.Upholds.ask (fun _ => stable_counted) ?_
    intro s hinv _ hallows
    have hgrows : Recovering s (s.after i (.countCredentials userId false)) :=
      recovering_harmless trivial hallows
    have hbesides : KeepsBesides s.tables userId (·.id = id) := hallows (userId, id) rfl
    exact ⟨hgrows, hgrows.recoverable hinv rfl, s.losses userId, List.mem_cons_self, le_rfl,
      fun _ => hbesides⟩
  intro activeCount
  refine Discipline.Upholds.bind (R := fun _ => Counted i userId id)
    (Discipline.Upholds.require fun _ _ => trivial) ?_
  intro _
  refine Discipline.Upholds.bind (R := fun _ => Counted i userId id) ?_ ?_
  · refine (upholds_harmless stable_counted ?_).weaken (fun _ _ hs => hs) (fun _ _ hs => hs)
      fun _ _ => trivial
    exact Fallible.asks_ask trivial
  intro now
  refine Discipline.Upholds.bind (R := fun _ _ => True) ?_ ?_
  · refine Discipline.Upholds.ask (fun _ => Discipline.stable_const True) ?_
    intro s hinv hcounted hallows
    have hgrows : Recovering s (s.after i (.revokeCredential id now)) :=
      recovering_revoke hcounted hallows
    exact ⟨hgrows, hgrows.recoverable hinv rfl, trivial⟩
  intro updated
  refine Discipline.Upholds.bind (R := fun _ _ => True)
    (Discipline.Upholds.require fun _ _ => trivial) ?_
  intro _
  refine upholds_harmless (Discipline.stable_const True) ?_
  exact Fallible.asks_ask trivial

theorem recovery_kept (hon : host.requireRecoverablePasskey = true) :
    (recoveryDiscipline host).Kept := by
  have hplays : ∀ (i : ℕ) (op : Operation) {α : Type} {x : Service α},
      x.run.Asks Request.Harmless (fun _ _ => True) →
      (recoveryDiscipline host).Plays i op (Fallible.dropResult x) := fun i op _ _ hx =>
    ((upholds_harmless (Discipline.stable_const True) hx).weaken (fun _ _ hs => hs)
      (fun _ _ hs => hs) fun _ hs => hs).plays
  refine Discipline.kept_of_plays Recovering.refl ?_ ?_
  · intro i op _
    cases op with
    | registrationOptions authorization isOnboardingOrClaim anonymous =>
      exact hplays i _ (harmless_registrationOptions _ _ _)
    | verifyRegistration challengeId response choice registered =>
      exact (upholds_verifyRegistration_recoverable hon challengeId response choice
        registered).plays
    | authenticationOptions => exact hplays i _ (harmless_saveChallenge _ _ _ _)
    | verifyAuthentication challengeId credentialId assertion =>
      exact hplays i _ (harmless_verifyAuthentication host _ _ _)
    | refreshToken token => exact hplays i _ (harmless_refreshToken token)
    | logout token authorization => exact hplays i _ (harmless_logout token authorization)
    | revokeCredential userId id => exact (upholds_revokeCredential_recoverable userId id).plays
    | canActivate authorization => exact hplays i _ (harmless_canActivate authorization)
    | storeCredential credentialId userId key =>
      exact hplays i _ (harmless_storeCredential host credentialId userId key)
  · intro n s hinv _
    exact ⟨.of_same rfl rfl fun _ h => h, hinv⟩

/-- In every interleaving in which revocations are called beside a recoverable passkey that stays
while they run, and no last recoverable passkey is overwritten or reported as none, every account
that has enrolled a passkey has an active one that is recoverable. -/
theorem account_stays_recoverable (hon : host.requireRecoverablePasskey = true) {start : Tables}
    {tr : Trace Noted Operation Request Answer} {c : Config Noted Operation Request Answer}
    (hrun : (notingService host).Runs (.opened start) tr c)
    (hmeets : ∀ t ∈ tr, StoreService.Meets recoverablyCalled t)
    (hstart : start.history.enrolled = []) :
    ∀ enrolment ∈ c.state.tables.history.enrolled, ∃ row ∈ c.state.tables.credentials.rows,
      row.userId = enrolment.userId ∧ row.isActive ∧ isRecoverable row.deviceType row.backedUp := by
  have hinitial : Recoverable start := by
    intro enrolment henrolment
    rw [hstart] at henrolment
    cases henrolment
  have hfinish : Recoverable c.state.tables := ((recovery_kept hon).run hrun hmeets hinitial).1
  intro enrolment henrolment
  obtain ⟨row, hrow, hrecovers⟩ := hfinish enrolment henrolment
  simp only [Credential.recovers, Bool.and_eq_true, decide_eq_true_eq] at hrecovers
  exact ⟨row, hrow, hrecovers⟩

end Gate

end VeriAgentPay.Passkeys

namespace VeriAgentPay.Devnet
open InterleavedPrograms KeyedTables Passkeys

def passkeyHost : Host := ⟨true, true, fun credentialId => "sha256:" ++ credentialId⟩

/-- The account of Alice, before she enrols a passkey. -/
def noPasskeys : Passkeys.Tables where
  credentials := .empty
  challenges := .empty
  tokens := []
  revoked := fun _ => none
  issued := []
  users := [⟨"alice", some "alice", some "12345", none, none, none, none, []⟩]
  nextId := 0
  now := 1750000000000
  history := ⟨id, [], fun _ => 0, [], [], []⟩

def attested (credentialId : String) (deviceType : DeviceType) (backedUp : Bool) :
    Option RegistrationInfo :=
  some ⟨credentialId, "key of " ++ credentialId, true, 0, deviceType, backedUp⟩

/-- A call that makes `n` requests. -/
def callOf (i n : ℕ) (op : Passkeys.Operation) : List (Move Passkeys.Operation) :=
  .start i op :: List.replicate n (.step i)

/-- Alice enrols a synced passkey. Her access token is number 2. -/
def enrolPhone : List (Move Passkeys.Operation) :=
  callOf 0 4 (.registrationOptions none false (.ok "12345")) ++
    callOf 1 9 (.verifyRegistration 0 (attested "phone" .multiDevice true) 0 (.ok "alice"))

def aliceToken : AccessToken := ⟨"alice", 2, 1750000900⟩

/-- She adds another passkey. -/
def enrolAnother (deviceType : DeviceType) (n : ℕ) : List (Move Passkeys.Operation) :=
  enrolPhone ++
    callOf 2 6 (.registrationOptions (some aliceToken) false (.error (.badRequest ""))) ++
    callOf 3 n (.verifyRegistration 4 (attested "laptop" deviceType (deviceType = .multiDevice)) 0
      (.ok "alice"))

def aliceRecovers (t : Passkeys.Tables) : Bool :=
  t.credentials.rows.any fun row => row.recovers "alice"
def aliceActive (t : Passkeys.Tables) : Bool :=
  t.credentials.rows.any fun row => row.userId = "alice" && row.isActive

/-- Two revocations side by side. -/
def revokeBoth : List (Move Passkeys.Operation) :=
  enrolAnother .multiDevice 9 ++ callOf 4 2 (.revokeCredential "alice" 1) ++
    callOf 5 5 (.revokeCredential "alice" 5) ++
    List.replicate 3 (.step 4)

/-- She revokes the synced one of her two passkeys. -/
def revokePhone (deviceType : DeviceType) (n : ℕ) : List (Move Passkeys.Operation) :=
  enrolAnother deviceType n ++ callOf 4 5 (.revokeCredential "alice" 1)

def passkeysAfter (schedule : List (Move Passkeys.Operation)) : Option (ℕ × Bool × Bool) :=
  ((passkeyService passkeyHost).moves StoreService.anything
    (Config.initial noPasskeys) schedule).map fun c =>
    ((c.state.history.enrolled.filter (·.userId = "alice")).length, aliceActive c.state,
      aliceRecovers c.state)

theorem passkeys_computed :
    passkeysAfter (revokePhone .singleDevice 10) = some (2, true, false) ∧
    passkeysAfter revokeBoth = some (2, false, false) := by
  decide +kernel

theorem runs_of_passkeys {schedule : List (Move Passkeys.Operation)} {n : ℕ}
    {active recovers : Bool} (h : passkeysAfter schedule = some (n, active, recovers)) :
    ∃ tr c, (passkeyService passkeyHost).Runs noPasskeys tr c ∧
      (c.state.history.enrolled.filter (·.userId = "alice")).length = n ∧
      aliceActive c.state = active ∧ aliceRecovers c.state = recovers := by
  obtain ⟨tr, c, hrun, -, -, hfacts⟩ := StoreService.runs_of_computed h
  simp only [Prod.mk.injEq] at hfacts
  exact ⟨tr, c, hrun, hfacts⟩

/-- Alice has two passkeys and revokes the one that is recoverable; or revokes both of two, side by
side. -/
theorem recoverable_passkey_lost :
    (∃ tr c, (passkeyService passkeyHost).Runs noPasskeys tr c ∧
      (∃ enrolment ∈ c.state.history.enrolled, enrolment.userId = "alice") ∧
      ¬∃ row ∈ c.state.credentials.rows, row.recovers "alice") ∧
    ∃ tr c, (passkeyService passkeyHost).Runs noPasskeys tr c ∧
      (∃ enrolment ∈ c.state.history.enrolled, enrolment.userId = "alice") ∧
      ¬∃ row ∈ c.state.credentials.rows, row.userId = "alice" ∧ row.isActive := by
  obtain ⟨hphone, hboth⟩ := passkeys_computed
  have henrolled : ∀ enrolled : List Enrolment, (enrolled.filter (·.userId = "alice")).length = 2 →
      ∃ enrolment ∈ enrolled, enrolment.userId = "alice" := by
    intro enrolled htwo
    obtain ⟨enrolment, hmem⟩ :=
      List.exists_mem_of_length_pos (by omega : 0 < (enrolled.filter (·.userId = "alice")).length)
    obtain ⟨hin, halice⟩ := List.mem_filter.mp hmem
    exact ⟨enrolment, hin, of_decide_eq_true halice⟩
  constructor
  · obtain ⟨tr, c, hrun, htwo, -, hlost⟩ := runs_of_passkeys hphone
    refine ⟨tr, c, hrun, henrolled _ htwo, ?_⟩
    rintro ⟨row, hrow, hrecovers⟩
    exact List.any_eq_false.mp hlost row hrow hrecovers
  · obtain ⟨tr, c, hrun, htwo, hlost, -⟩ := runs_of_passkeys hboth
    refine ⟨tr, c, hrun, henrolled _ htwo, ?_⟩
    rintro ⟨row, hrow, halice, hactive⟩
    exact List.any_eq_false.mp hlost row hrow (by simp [halice, hactive])

instance : DecidablePred recoverablyCalled.starts := fun _ => inferInstanceAs (Decidable True)

instance (t : Passkeys.Tables) (lookupHash userId : String) (recoverable : Bool)
    (authenticated : Option String) :
    Decidable (RegisteredApart t lookupHash userId recoverable authenticated) :=
  decidable_of_iff ((∀ row ∈ t.credentials.rows, row.lookupHash = lookupHash →
      row.recovers row.userId → (recoverable ∧ row.userId = userId) ∨
        KeepsBesides t row.userId (·.lookupHash = lookupHash)) ∧
      (recoverable ∨ ∀ u ∈ authenticated, u = userId))
    ⟨fun h => ⟨h.1, h.2⟩, fun h => ⟨h.overwritten, h.enrolled⟩⟩

instance (t : Passkeys.Tables) (id : ℕ) (recoverable : Bool) :
    Decidable (ReportedApart t id recoverable) :=
  inferInstanceAs (Decidable (_ ∨ ∀ row ∈ t.credentials.rows, _))

instance (i : ℕ) (op : Passkeys.Operation) (s : Noted) : Decidable (RevokedInTurn i op s) :=
  decidable_of_iff ((∀ entry ∈ s.counted, entry.caller = i →
      s.losses entry.userId = entry.losses) ∧
      ∀ target ∈ op.revokes, ∀ row ∈ s.tables.credentials.rows, row.id = target.2 →
        row.userId = target.1)
    ⟨fun h => ⟨h.1, h.2⟩, fun h => ⟨h.counted, h.own⟩⟩

instance (i : ℕ) (op : Passkeys.Operation) (s : Noted) (r : Passkeys.Request) :
    Decidable (recoverablyCalled.allows i op s r) := by
  cases r with
  | countCredentials userId backedUp =>
    cases backedUp with
    | true => exact .isTrue trivial
    | false =>
      exact inferInstanceAs (Decidable (∀ target ∈ op.revokes,
        KeepsBesides s.tables target.1 (·.id = target.2)))
  | upsertCredential lookupHash userId key counter deviceType backedUp authenticated =>
    exact inferInstanceAs (Decidable (RegisteredApart s.tables lookupHash userId
      (isRecoverable deviceType backedUp) authenticated))
  | useCredential id counter deviceType backedUp =>
    exact inferInstanceAs (Decidable (ReportedApart s.tables id
      (isRecoverable deviceType backedUp)))
  | revokeCredential id now => exact inferInstanceAs (Decidable (RevokedInTurn i op s))
  | _ => exact .isTrue trivial

instance (s s' : Noted) : Decidable (recoverablyCalled.passes s s') := .isTrue trivial

/-- Beside her synced passkey, Alice enrols one of her laptop only, and revokes it again. -/
def laptopRevoked : List (Move Passkeys.Operation) :=
  enrolAnother .singleDevice 10 ++ callOf 4 5 (.revokeCredential "alice" 5)

theorem laptop_revoked :
    ((notingService passkeyHost).moves recoverablyCalled (Config.initial (.opened noPasskeys))
      laptopRevoked).map (fun c => (c.state.tables.history.enrolled,
        c.state.tables.credentials.rows.map fun row => (row.id, row.isActive))) =
      some ([⟨"sha256:laptop", "alice", "key of laptop"⟩,
        ⟨"sha256:phone", "alice", "key of phone"⟩],
        [(1, true), (5, false)]) := by
  decide +kernel

theorem account_stays_recoverable_devnet : ∃ tr c,
    (notingService passkeyHost).Runs (.opened noPasskeys) tr c ∧
      ∃ row ∈ c.state.tables.credentials.rows, row.userId = "alice" ∧ row.isActive ∧
        isRecoverable row.deviceType row.backedUp := by
  obtain ⟨tr, c, hrun, hmeets, -, hfacts⟩ := StoreService.runs_of_computed laptop_revoked
  refine ⟨tr, c, hrun, ?_⟩
  have hmem : ⟨"sha256:laptop", "alice", "key of laptop"⟩ ∈ c.state.tables.history.enrolled := by
    rw [(Prod.mk.inj hfacts).1]
    exact List.mem_cons_self
  exact account_stays_recoverable rfl hrun hmeets rfl _ hmem

end VeriAgentPay.Devnet
