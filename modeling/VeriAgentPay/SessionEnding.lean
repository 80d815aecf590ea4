import VeriAgentPay.PasskeyRecovery
import VeriAgentPay.RecordedReplies

/-!
# Logout and revocation are final

A logout ends the session of a refresh token and an access token, a revocation every session of an
account. When nothing acts on the strength of the access token afterwards and no refresh token of
such a session is redeemable, though refreshes are under way.
-/

namespace VeriAgentPay.Passkeys
open InterleavedPrograms WebAuthnService
open Backend (Failure)

section Calls

/-- A call, and the refresh token of the session that it gives its caller. -/
def Operation.call (host : Host) : Operation → Service (Option ℕ)
  | registrationOptions authorization isOnboardingOrClaim anonymous => do
    let _ ← WebAuthnService.registrationOptions authorization isOnboardingOrClaim anonymous
    pure none
  | verifyRegistration challengeId response choice registered => do
    let session ← WebAuthnService.verifyRegistration host challengeId response choice registered
    pure (some session.2)
  | authenticationOptions => do
    let _ ← WebAuthnService.saveChallenge .authentication "" none none
    pure none
  | verifyAuthentication challengeId credentialId assertion => do
    let session ← WebAuthnService.verifyAuthentication host challengeId credentialId assertion
    pure (some session.2)
  | refreshToken token => do
    let session ← WebAuthnService.refreshToken token
    pure (some session.2)
  | logout token authorization => do
    WebAuthnService.logout token authorization
    pure none
  | revokeCredential userId id => do
    WebAuthnService.revokeCredential userId id
    pure none
  | canActivate authorization => do
    let _ ← WebAuthnService.canActivate authorization
    pure none
  | storeCredential credentialId userId key => do
    WebAuthnService.storeCredential host credentialId userId key
    pure none

abbrev Reply := Except Failure (Option ℕ)

/-- The services side by side, with what they reply to their callers. -/
abbrev passkeyCalls (host : Host) : StoreService (Recorded Tables Operation Reply) Operation
    (Spoken Request Reply) (Spoken.Answer Answer) :=
  (passkeyService host).recording fun op => (op.call host).run

end Calls

section Sessions

/-- The row can be exchanged for a new session. -/
def Redeemable (t : Tables) (row : RefreshToken) : Prop := row ∈ t.tokens ∧ t.now < row.expiresAt

/-- A refresh goes on where its session was not ended in the meantime, and did not begin before the
tokens of the account were deleted. -/
def RefreshInTurn (t : Tables) (userId : String) (parent : RefreshToken) : Prop :=
  t.history.origin parent.token ∉ t.history.ended ∧
    t.history.floor userId ≤ t.history.origin parent.token

/-- A logout is called with the newest refresh token of its session. -/
def LogoutInTurn (t : Tables) (token : ℕ) : Prop :=
  token < t.nextId → ∀ row ∈ t.tokens, t.now < row.expiresAt →
    t.history.origin row.token = t.history.origin token → row.token = token

/-- The revocation of the token, if there was one, has not expired. -/
def RevocationLasts (t : Tables) (a : AccessToken) : Prop := ∀ e ∈ t.revoked a.jti, t.now < e

instance (t : Tables) (userId : String) (parent : RefreshToken) :
    Decidable (RefreshInTurn t userId parent) :=
  inferInstanceAs (Decidable (_ ∧ _))
instance (t : Tables) (token : ℕ) : Decidable (LogoutInTurn t token) :=
  inferInstanceAs (Decidable (_ → ∀ row ∈ t.tokens, _ → _ → _))
instance (t : Tables) (a : AccessToken) : Decidable (RevocationLasts t a) :=
  inferInstanceAs (Decidable (∀ e ∈ t.revoked a.jti, _))

def sessionsInTurn : StoreService.Conditions Tables Operation Request where
  starts _ := True
  allows _ _ t
    | .createToken userId _ (some parent) _ => RefreshInTurn t userId parent
    | .deleteTokens token => LogoutInTurn t token
    | .createChallenge _ _ _ _ (some a) => t.revoked a.jti = none
    | .isRevoked a => RevocationLasts t a
    | _ => True
  passes _ _ := True

/-- The invariant. -/
structure SessionsEnd (t : Tables) : Prop where
  fresh : ∀ a ∈ t.issued, a.jti < t.nextId
  unique : ∀ a ∈ t.issued, ∀ b ∈ t.issued, a.jti = b.jti → a = b
  keys : ∀ jti, (t.revoked jti).isSome → jti < t.nextId
  revoked : ∀ a ∈ t.issued, ∀ e ∈ t.revoked a.jti, a.exp * 1000 ≤ e
  origin : ∀ token, t.history.origin token ≤ token
  ended : ∀ token ∈ t.history.ended, token < t.nextId
  floor : ∀ userId, t.history.floor userId ≤ t.nextId
  known : ∀ row ∈ t.tokens, row.token < t.nextId
  current : ∀ row, Redeemable t row → t.history.origin row.token ∉ t.history.ended ∧
    t.history.floor row.userId ≤ t.history.origin row.token

/-- Time passes, numbers are used up, and access tokens stay signed and sessions over. -/
structure Later (t t' : Tables) : Prop where
  now : t.now ≤ t'.now
  nextId : t.nextId ≤ t'.nextId
  issued : ∀ a ∈ t.issued, a ∈ t'.issued
  revoked : ∀ jti, (t.revoked jti).isSome → (t'.revoked jti).isSome
  origin : ∀ token < t.nextId, t'.history.origin token = t.history.origin token
  ended : ∀ token ∈ t.history.ended, token ∈ t'.history.ended
  floor : ∀ userId, t.history.floor userId ≤ t'.history.floor userId

def sessionDiscipline (host : Host) : Discipline Tables Operation Request Answer where
  service := passkeyService host
  conditions := sessionsInTurn
  inv := SessionsEnd
  grows := Later

/-- What the invariant speaks of. -/
def Tables.sessions (t : Tables) :
    List RefreshToken × (ℕ → Option ℤ) × List AccessToken × (ℕ → ℕ) × List ℕ × (String → ℕ) :=
  (t.tokens, t.revoked, t.issued, t.history.origin, t.history.ended, t.history.floor)

variable {host : Host} {i : ℕ} {op : Operation} {t t' : Tables}

theorem Later.refl (t : Tables) : Later t t :=
  ⟨le_rfl, le_rfl, fun _ h => h, fun _ h => h, fun _ _ => rfl, fun _ h => h, fun _ => le_rfl⟩

/-- A request that leaves the sessions alone. -/
theorem SessionsEnd.frame (h : SessionsEnd t) (hsessions : t'.sessions = t.sessions)
    (hnow : t'.now = t.now) (hnextId : t.nextId ≤ t'.nextId) : Later t t' ∧ SessionsEnd t' := by
  simp only [Tables.sessions, Prod.mk.injEq] at hsessions
  obtain ⟨htokens, hrevoked, hissued, horigin, hended, hfloor⟩ := hsessions
  refine ⟨⟨hnow.ge, hnextId, ?_, ?_, ?_, ?_, ?_⟩, ?_, ?_, ?_, ?_, ?_, ?_, ?_, ?_, ?_⟩
  · exact fun a ha => hissued ▸ ha
  · exact fun jti hjti => hrevoked ▸ hjti
  · exact fun token _ => congrFun horigin token
  · exact fun token htoken => hended ▸ htoken
  · exact fun userId => (congrFun hfloor userId).ge
  · exact fun a ha => (h.fresh a (hissued ▸ ha)).trans_le hnextId
  · exact hissued ▸ h.unique
  · exact fun jti hjti => (h.keys jti (hrevoked ▸ hjti)).trans_le hnextId
  · rw [hissued, hrevoked]
    exact h.revoked
  · exact horigin ▸ h.origin
  · exact fun token htoken => (h.ended token (hended ▸ htoken)).trans_le hnextId
  · exact fun userId => (congrFun hfloor userId).trans_le ((h.floor userId).trans hnextId)
  · exact fun row hrow => (h.known row (htokens ▸ hrow)).trans_le hnextId
  · rintro row ⟨hrow, hexpires⟩
    rw [horigin, hended, hfloor]
    exact h.current row ⟨htokens ▸ hrow, hnow ▸ hexpires⟩

theorem SessionsEnd.signJwt (h : SessionsEnd t) (userId : String) (lifetime : ℤ) :
    Later t (carry t (.signJwt userId lifetime)).2 ∧
      SessionsEnd (carry t (.signJwt userId lifetime)).2 := by
  refine ⟨⟨le_rfl, Nat.le_succ _, fun a ha => List.mem_cons_of_mem _ ha, fun _ hjti => hjti,
    fun _ _ => rfl, fun _ htoken => htoken, fun _ => le_rfl⟩, ?_, ?_, ?_, ?_, h.origin, ?_, ?_, ?_,
    h.current⟩
  · intro a ha
    rcases List.mem_cons.mp ha with rfl | ha
    · exact Nat.lt_succ_self _
    · exact (h.fresh a ha).trans (Nat.lt_succ_self _)
  · intro a ha b hb hjti
    rcases List.mem_cons.mp ha with rfl | ha
    · rcases List.mem_cons.mp hb with rfl | hb
      · rfl
      · exact absurd hjti (h.fresh b hb).ne'
    · rcases List.mem_cons.mp hb with rfl | hb
      · exact absurd hjti (h.fresh a ha).ne
      · exact h.unique a ha b hb hjti
  · exact fun jti hjti => (h.keys jti hjti).trans (Nat.lt_succ_self _)
  · intro a ha e he
    rcases List.mem_cons.mp ha with rfl | ha
    · -- the number of the new token was not drawn before, so no key has it
      exact absurd (h.keys t.nextId (Option.isSome_of_mem he)) (lt_irrefl _)
    · exact h.revoked a ha e he
  · exact fun token htoken => (h.ended token htoken).trans (Nat.lt_succ_self _)
  · exact fun userId => (h.floor userId).trans (Nat.le_succ _)
  · exact fun row hrow => (h.known row hrow).trans (Nat.lt_succ_self _)

/-- The revocation of an access token lasts as long as the token. -/
theorem SessionsEnd.setRevoked (h : SessionsEnd t) {a : AccessToken} {ttl : ℤ} (ha : a ∈ t.issued)
    (hlasts : a.exp * 1000 ≤ t.now + ttl * 1000) :
    Later t (carry t (.setRevoked a ttl)).2 ∧ SessionsEnd (carry t (.setRevoked a ttl)).2 := by
  refine ⟨⟨le_rfl, le_rfl, fun _ hb => hb, ?_, fun _ _ => rfl, fun _ htoken => htoken,
    fun _ => le_rfl⟩, h.fresh, h.unique, ?_, ?_, h.origin, h.ended, h.floor, h.known, h.current⟩
  · intro jti hjti
    by_cases hsame : jti = a.jti
    · simp [carry, hsame]
    · simpa [carry, hsame] using hjti
  · intro jti hjti
    by_cases hsame : jti = a.jti
    · exact hsame ▸ h.fresh a ha
    · exact h.keys jti (by simpa [carry, hsame] using hjti)
  · intro b hb e he
    by_cases hjti : b.jti = a.jti
    · obtain rfl := h.unique b hb a ha hjti
      simp only [carry, Function.update_self, Option.mem_def, Option.some.injEq] at he
      exact he ▸ hlasts
    · exact h.revoked b hb e (by simpa [carry, hjti] using he)

theorem SessionsEnd.createToken (h : SessionsEnd t) {userId : String} {parent : Option RefreshToken}
    (hparent : ∀ row ∈ parent, row.token < t.nextId ∧ RefreshInTurn t userId row) (expiresAt : ℤ)
    (enrolment : Option Enrolment) :
    Later t (carry t (.createToken userId expiresAt parent enrolment)).2 ∧
      SessionsEnd (carry t (.createToken userId expiresAt parent enrolment)).2 := by
  have hbegun : parent.elim t.nextId (fun row => t.history.origin row.token) ≤ t.nextId := by
    cases parent with
    | none => exact le_rfl
    | some row => exact (h.origin row.token).trans (hparent row rfl).1.le
  refine ⟨⟨le_rfl, Nat.le_succ _, fun _ ha => ha, fun _ hjti => hjti, ?_, fun _ htoken => htoken,
    fun _ => le_rfl⟩, ?_, h.unique, ?_, h.revoked, ?_, ?_, ?_, ?_, ?_⟩
  · intro token htoken
    simp [carry, htoken.ne]
  · exact fun a ha => (h.fresh a ha).trans (Nat.lt_succ_self _)
  · exact fun jti hjti => (h.keys jti hjti).trans (Nat.lt_succ_self _)
  · intro token
    by_cases htoken : token = t.nextId
    · subst htoken
      simpa [carry] using hbegun
    · simpa [carry, htoken] using h.origin token
  · exact fun token htoken => (h.ended token htoken).trans (Nat.lt_succ_self _)
  · exact fun u => (h.floor u).trans (Nat.le_succ _)
  · intro row hrow
    rcases List.mem_cons.mp hrow with rfl | hrow
    · exact Nat.lt_succ_self _
    · exact (h.known row hrow).trans (Nat.lt_succ_self _)
  · rintro row ⟨hrow, hexpires⟩
    rcases List.mem_cons.mp hrow with rfl | hrow
    · cases parent with
      | none =>
        have hnew : t.nextId ∉ t.history.ended := fun hended => (h.ended _ hended).ne rfl
        simpa [carry] using ⟨hnew, h.floor userId⟩
      | some row => simpa [carry, RefreshInTurn] using (hparent row rfl).2
    · have hne : row.token ≠ t.nextId := (h.known row hrow).ne
      simpa [carry, hne] using h.current row ⟨hrow, hexpires⟩

/-- Rows are deleted, and what is over of sessions is so only for those. -/
theorem SessionsEnd.filter (h : SessionsEnd t) {p : RefreshToken → Bool} {ended : List ℕ}
    {floor : String → ℕ} (hended : ∀ token ∈ ended, token < t.nextId)
    (hkept : ∀ token ∈ t.history.ended, token ∈ ended)
    (hfloor : ∀ userId, t.history.floor userId ≤ floor userId ∧ floor userId ≤ t.nextId)
    (hcurrent : ∀ row, Redeemable t row → p row → t.history.origin row.token ∉ t.history.ended →
      t.history.floor row.userId ≤ t.history.origin row.token →
        t.history.origin row.token ∉ ended ∧ floor row.userId ≤ t.history.origin row.token) :
    Later t { t with
      tokens := t.tokens.filter p
      history := { t.history with ended := ended, floor := floor } } ∧
    SessionsEnd { t with
      tokens := t.tokens.filter p
      history := { t.history with ended := ended, floor := floor } } := by
  refine ⟨⟨le_rfl, le_rfl, fun _ ha => ha, fun _ hjti => hjti, fun _ _ => rfl, hkept,
    fun userId => (hfloor userId).1⟩, h.fresh, h.unique, h.keys, h.revoked, h.origin, hended,
    fun userId => (hfloor userId).2, ?_, ?_⟩
  · exact fun row hrow => h.known row (List.mem_filter.mp hrow).1
  · rintro row ⟨hrow, hexpires⟩
    obtain ⟨hrow, hp⟩ := List.mem_filter.mp hrow
    have hold := h.current row ⟨hrow, hexpires⟩
    exact hcurrent row ⟨hrow, hexpires⟩ hp hold.1 hold.2

theorem SessionsEnd.deleteTokens (h : SessionsEnd t) {token : ℕ} (hallows : LogoutInTurn t token) :
    Later t (carry t (.deleteTokens token)).2 ∧ SessionsEnd (carry t (.deleteTokens token)).2 := by
  refine h.filter ?_ ?_ (fun userId => ⟨le_rfl, h.floor userId⟩) ?_
  · intro k hk
    split_ifs at hk with hissued
    · rcases List.mem_cons.mp hk with rfl | hk
      · exact (h.origin token).trans_lt hissued
      · exact h.ended k hk
    · exact h.ended k hk
  · intro k hk
    split_ifs
    · exact List.mem_cons_of_mem _ hk
    · exact hk
  · rintro row ⟨hrow, hexpires⟩ hother hnot hfloor
    refine ⟨?_, hfloor⟩
    split_ifs with hissued
    · intro hmem
      rcases List.mem_cons.mp hmem with hsame | hmem
      · simp [hallows hissued row hrow hexpires hsame] at hother
      · exact hnot hmem
    · exact hnot

theorem SessionsEnd.deleteTokensOf (h : SessionsEnd t) (userId : String) :
    Later t (carry t (.deleteTokensOf userId)).2 ∧
      SessionsEnd (carry t (.deleteTokensOf userId)).2 := by
  refine h.filter h.ended (fun _ hk => hk) ?_ ?_
  · intro u
    by_cases hu : u = userId
    · subst hu
      rw [Function.update_self]
      exact ⟨h.floor u, le_rfl⟩
    · rw [Function.update_of_ne hu]
      exact ⟨le_rfl, h.floor u⟩
  · rintro row - hother hnot hfloor
    simp only [ne_eq, decide_not, Bool.not_eq_eq_eq_not, Bool.not_true,
      decide_eq_false_iff_not] at hother
    exact ⟨hnot, by rw [Function.update_of_ne hother]; exact hfloor⟩

theorem SessionsEnd.deleteToken (h : SessionsEnd t) (token : ℕ) :
    Later t (carry t (.deleteToken token)).2 ∧ SessionsEnd (carry t (.deleteToken token)).2 :=
  h.filter h.ended (fun _ hk => hk) (fun u => ⟨le_rfl, h.floor u⟩)
    fun _ _ _ hnot hfloor => ⟨hnot, hfloor⟩

theorem SessionsEnd.routine (ht : SessionsEnd t) {r : Request} (hr : r.isRoutine)
    (hallows : sessionsInTurn.allows i op t r) :
    Later t (carry t r).2 ∧ SessionsEnd (carry t r).2 := by
  cases r with
  | signJwt userId lifetime => exact ht.signJwt userId lifetime
  | createToken userId expiresAt parent enrolment =>
    simp only [Request.isRoutine, Bool.decide_and, Bool.and_eq_true, decide_eq_true_eq] at hr
    obtain ⟨rfl, rfl⟩ := hr
    apply ht.createToken
    rintro row ⟨⟩
  | setRevoked a ttl => cases hr
  | preparePublicKey id key => cases hr
  | deleteToken token => exact ht.deleteToken token
  | deleteTokens token => exact ht.deleteTokens hallows
  | deleteTokensOf userId => exact ht.deleteTokensOf userId
  | createChallenge flow platformId userId expiresAt bearer =>
    exact ht.frame rfl rfl (Nat.le_succ _)
  | insertCredential lookupHash userId key encrypted =>
    unfold carry
    dsimp only
    split
    · exact ht.frame rfl rfl (Nat.le_succ _)
    · exact ⟨Later.refl t, ht⟩
  | upsertCredential lookupHash userId key counter deviceType backedUp authenticated =>
    exact ht.frame rfl rfl (Nat.le_succ _)
  | _ => exact ht.frame rfl rfl le_rfl

theorem keepsRoutine_sessions : KeepsRoutine (sessionDiscipline host) i op :=
  fun _ hr _ ht hallows => ht.routine hr hallows

/-- Of a new session, where it began. -/
def BegunWith (parent : Option RefreshToken) (token : ℕ) (t : Tables) : Prop :=
  token < t.nextId ∧ ∀ row ∈ parent, row.token < t.nextId ∧
    t.history.origin token = t.history.origin row.token

theorem stable_begunWith (parent : Option RefreshToken) (token : ℕ) :
    (sessionDiscipline host).Stable (BegunWith parent token) := by
  rintro t t' hlater ⟨htoken, hparent⟩
  refine ⟨htoken.trans_le hlater.nextId, fun row hrow => ?_⟩
  obtain ⟨hknown, horigin⟩ := hparent row hrow
  refine ⟨hknown.trans_le hlater.nextId, ?_⟩
  rw [hlater.origin token htoken, hlater.origin row.token hknown, horigin]

theorem upholds_issueSession (userId : String) (parent : Option RefreshToken)
    (enrolment : Option Enrolment) :
    (sessionDiscipline host).Upholds i op (issueSession userId parent enrolment)
      (fun t => ∀ row ∈ parent, row.token < t.nextId) (fun session => BegunWith parent session.2)
      fun _ => True := by
  have hstable : (sessionDiscipline host).Stable fun t => ∀ row ∈ parent, row.token < t.nextId :=
    fun t t' hlater hknown row hrow => (hknown row hrow).trans_le hlater.nextId
  unfold issueSession
  apply Discipline.Upholds.bind (R := fun _ t => ∀ row ∈ parent, row.token < t.nextId)
  · apply Discipline.Upholds.ask fun _ => hstable
    intro t ht hknown _
    have hstep := ht.signJwt userId 900
    exact ⟨hstep.1, hstep.2, hstable _ _ hstep.1 hknown⟩
  intro accessToken
  apply Discipline.Upholds.bind (R := fun _ t => ∀ row ∈ parent, row.token < t.nextId)
  · exact Discipline.Upholds.look Later.refl (fun _ => rfl) hstable
  intro now
  apply Discipline.Upholds.bind (R := BegunWith parent)
  · apply Discipline.Upholds.ask (stable_begunWith parent)
    intro t ht hknown hallows
    have hparent : ∀ row ∈ parent, row.token < t.nextId ∧ RefreshInTurn t userId row := by
      rintro row ⟨⟩
      exact ⟨hknown row rfl, hallows⟩
    have hstep := ht.createToken hparent (now + 30 * 24 * 3600000) enrolment
    refine ⟨hstep.1, hstep.2, Nat.lt_succ_self _, ?_⟩
    rintro row ⟨⟩
    refine ⟨(hknown row rfl).trans (Nat.lt_succ_self _), ?_⟩
    simp [sessionDiscipline, passkeyService, carry, (hknown row rfl).ne]
  intro refreshToken
  exact Discipline.Upholds.pure fun _ _ hbegun => hbegun

/-- The token of a refresh is of the session of the one that it was called with. -/
def OfSession (token : ℕ) (session : AccessToken × ℕ) (t : Tables) : Prop :=
  session.2 < t.nextId ∧ token < t.nextId ∧
    t.history.origin session.2 = t.history.origin token

theorem upholds_refreshToken (token : ℕ) :
    (sessionDiscipline host).Upholds i op (refreshToken token) (fun _ => True) (OfSession token)
      fun _ => True := by
  have hstable : ∀ found : Option RefreshToken, (sessionDiscipline host).Stable fun t =>
      ∀ row ∈ found, row.token = token ∧ row.token < t.nextId :=
    fun found t t' hlater hknown row hrow =>
      ⟨(hknown row hrow).1, (hknown row hrow).2.trans_le hlater.nextId⟩
  unfold refreshToken
  apply Discipline.Upholds.bind
    (R := fun found t => ∀ row ∈ found, row.token = token ∧ row.token < t.nextId)
  · apply Discipline.Upholds.read Later.refl (fun _ => rfl) hstable
    intro t ht _ row hrow
    have hfound : row ∈ t.tokens := List.mem_of_find?_eq_some hrow
    exact ⟨by simpa using List.find?_some hrow, ht.known row hfound⟩
  intro found
  apply Discipline.Upholds.bind
    (R := fun _ t => ∀ row ∈ found, row.token = token ∧ row.token < t.nextId)
  · exact Discipline.Upholds.look Later.refl (fun _ => rfl) (hstable found)
  intro now
  dsimp only
  apply Discipline.Upholds.bind
    (R := fun (stored : RefreshToken) t => stored.token = token ∧ stored.token < t.nextId)
  · apply Discipline.Upholds.checked
    · intro stored t hfound _ hknown
      exact hknown stored (CheckedOutcome.orError_eq_ok.mp hfound)
    · exact fun _ _ => trivial
  intro stored
  have hdeleted : (sessionDiscipline host).Upholds i op (ask (.deleteToken stored.token))
      (fun t => stored.token = token ∧ stored.token < t.nextId)
      (fun _ t => stored.token = token ∧ stored.token < t.nextId) fun _ => True := by
    apply Discipline.Upholds.ask
    · intro _ t t' hlater hknown
      exact ⟨hknown.1, hknown.2.trans_le hlater.nextId⟩
    · intro t ht hknown _
      have hstep := ht.deleteToken stored.token
      exact ⟨hstep.1, hstep.2, hknown⟩
  split_ifs
  · apply Discipline.Upholds.bind hdeleted
    intro deleted
    apply Discipline.Upholds.bind (R := fun _ _ => True)
    · exact (Discipline.Upholds.require fun _ _ => trivial).weaken (fun _ _ h => h)
        (fun _ _ _ => trivial) fun _ h => h
    intro _
    apply Discipline.Upholds.checked
    · rintro session t ⟨⟩
    · exact fun _ _ => trivial
  · apply Discipline.Upholds.bind hdeleted
    intro deleted
    apply Discipline.Upholds.bind
      (R := fun _ t => stored.token = token ∧ stored.token < t.nextId)
    · exact Discipline.Upholds.require fun _ _ => trivial
    intro _
    apply Discipline.Upholds.assuming
    rintro rfl
    apply (upholds_issueSession stored.userId (some stored) none).weaken
    · rintro t - hknown row ⟨⟩
      exact hknown
    · rintro session t ⟨hsession, hparent⟩
      exact ⟨hsession, hparent stored rfl⟩
    · exact fun _ _ => trivial

theorem revocation_covers {now read : ℤ} (hread : read ≤ now) (exp : ℤ) :
    exp * 1000 ≤ now + max 1 (exp - read / 1000) * 1000 := by
  have hmax : exp - read / 1000 ≤ max 1 (exp - read / 1000) := le_max_right _ _
  omega

theorem upholds_logout (token : Option ℕ) (authorization : Option AccessToken) :
    (sessionDiscipline host).Upholds i op (logout token authorization) (fun _ => True)
      (fun _ _ => True) fun _ => True := by
  unfold logout
  apply Discipline.Upholds.bind (R := fun _ _ => True)
  · cases token with
    | none => exact Discipline.Upholds.pure fun _ _ _ => trivial
    | some token => exact upholds_routine keepsRoutine_sessions rfl
  intro _
  cases authorization with
  | none => exact Discipline.Upholds.pure fun _ _ _ => trivial
  | some a =>
    have hstable : ∀ verifies : Bool, (sessionDiscipline host).Stable fun t =>
        verifies → a ∈ t.issued :=
      fun verifies t t' hlater hknown h => hlater.issued a (hknown h)
    dsimp only [Option.elim]
    apply Discipline.Upholds.bind (R := fun (verifies : Bool) t => verifies → a ∈ t.issued)
    · apply Discipline.Upholds.read Later.refl (fun _ => rfl) hstable
      intro t _ _ hverifies
      exact (of_decide_eq_true hverifies).1
    intro verifies
    split_ifs with hverifies
    · apply Discipline.Upholds.bind (R := fun now t => a ∈ t.issued ∧ now ≤ t.now)
      · apply Discipline.Upholds.read Later.refl fun _ => rfl
        · intro now t t' hlater hknown
          exact ⟨hlater.issued a hknown.1, hknown.2.trans hlater.now⟩
        · intro t _ hknown
          exact ⟨hknown hverifies, le_rfl⟩
      intro now
      apply Discipline.Upholds.ask fun _ => Discipline.stable_const True
      intro t ht hknown _
      have hstep := ht.setRevoked hknown.1 (revocation_covers hknown.2 a.exp)
      exact ⟨hstep.1, hstep.2, trivial⟩
    · exact Discipline.Upholds.pure fun _ _ _ => trivial

theorem upholds_preparePublicKey (id : ℕ) (key : String) :
    (sessionDiscipline host).Upholds i op (ask (.preparePublicKey id key)) (fun _ => True)
      (fun _ _ => True) fun _ => True := by
  apply Discipline.Upholds.ask fun _ => Discipline.stable_const True
  intro t ht _ _
  have hstep : Later t (carry t (.preparePublicKey id key)).2 ∧
      SessionsEnd (carry t (.preparePublicKey id key)).2 := ht.frame rfl rfl le_rfl
  exact ⟨hstep.1, hstep.2, trivial⟩

theorem upholds_findStored (lookupHash : String) :
    (sessionDiscipline host).Upholds i op (findStored lookupHash) (fun _ => True)
      (fun _ _ => True) fun _ => True := by
  unfold findStored
  apply Discipline.Upholds.bind (R := fun _ _ => True)
  · exact upholds_routine keepsRoutine_sessions rfl
  intro found
  apply Discipline.Upholds.bind (R := fun _ _ => True)
  · unfold prepared
    split_ifs
    · apply Discipline.Upholds.bind (R := fun _ _ => True)
      · unfold ensureWebAuthnPublicKey
        apply Discipline.Upholds.bind (R := fun _ _ => True)
        · exact upholds_routine keepsRoutine_sessions rfl
        intro existing
        split_ifs
        · exact Discipline.Upholds.pure fun _ _ _ => trivial
        · apply Discipline.Upholds.bind (R := fun _ _ => True)
          · exact upholds_routine keepsRoutine_sessions rfl
          intro legacy
          split
          · exact Discipline.Upholds.pure fun _ _ _ => trivial
          · apply Discipline.Upholds.bind (R := fun _ _ => True)
            · exact upholds_preparePublicKey _ _
            intro _
            exact Discipline.Upholds.pure fun _ _ _ => trivial
      intro _
      exact upholds_routine keepsRoutine_sessions rfl
    · exact Discipline.Upholds.pure fun _ _ _ => trivial
  intro stored
  exact Discipline.Upholds.checked (fun _ _ _ _ _ => trivial) fun _ _ => trivial

theorem upholds_verifyAuthentication (challengeId : ℕ) (credentialId : String)
    (assertion : Assertion) :
    (sessionDiscipline host).Upholds i op
      (verifyAuthentication host challengeId credentialId assertion) (fun _ => True)
      (fun _ _ => True) fun _ => True := by
  unfold verifyAuthentication
  apply Discipline.Upholds.bind (R := fun _ _ => True)
  · exact upholds_consumeChallenge keepsRoutine_sessions challengeId .authentication
  intro _
  dsimp only
  apply Discipline.Upholds.bind (R := fun _ _ => True)
  · exact upholds_findStored _
  rintro ⟨stored, key⟩
  dsimp only
  apply Discipline.Upholds.bind (R := fun _ _ => True)
  · exact Discipline.Upholds.require fun _ _ => trivial
  intro _
  apply Discipline.Upholds.bind (R := fun _ _ => True)
  · exact upholds_routine keepsRoutine_sessions rfl
  intro used
  apply Discipline.Upholds.bind (R := fun _ _ => True)
  · exact Discipline.Upholds.require fun _ _ => trivial
  intro _
  apply Discipline.Upholds.bind (R := fun _ _ => True)
  · exact upholds_routine keepsRoutine_sessions rfl
  intro found
  apply Discipline.Upholds.bind (R := fun _ _ => True)
  · exact Discipline.Upholds.checked (fun _ _ _ _ _ => trivial) fun _ _ => trivial
  intro user
  apply (upholds_issueSession user.id none _).weaken
  · rintro t - - row ⟨⟩
  · exact fun _ _ _ => trivial
  · exact fun _ _ => trivial

/-- What is known of a reply: a refresh gives a token of the session that it was called with. -/
def KnownOf (op : Operation) (b : Reply) (t : Tables) : Prop :=
  ∀ token refreshed, op = .refreshToken token → b = .ok (some refreshed) →
    refreshed < t.nextId ∧ token < t.nextId ∧
      t.history.origin refreshed = t.history.origin token

theorem stable_knownOf (op : Operation) (b : Reply) :
    (sessionDiscipline host).Stable (KnownOf op b) := by
  intro t t' hlater hknown token refreshed hop hb
  obtain ⟨hrefreshed, htoken, horigin⟩ := hknown token refreshed hop hb
  refine ⟨hrefreshed.trans_le hlater.nextId, htoken.trans_le hlater.nextId, ?_⟩
  rw [hlater.origin refreshed hrefreshed, hlater.origin token htoken, horigin]

/-- Calls that give no refresh token, or one of a session that is new. -/
theorem follows_call {x : Service (Option ℕ)} {R : Option ℕ → Tables → Prop}
    (hx : (sessionDiscipline host).Upholds i op x (fun _ => True) R fun _ => True)
    (hR : ∀ a t, R a t → KnownOf op (.ok a) t) :
    (sessionDiscipline host).protocol.Follows
      ((sessionDiscipline host).service.within (sessionDiscipline host).conditions) i op x.run
      (fun _ => True) () fun b t _ => KnownOf op b t := by
  refine Protocol.Follows.weaken hx.follows (fun _ _ _ _ hs => hs) ?_
  rintro (e | a) t _ ⟨hok, -⟩
  · rintro token refreshed - ⟨⟩
  · exact hR a t (hok a rfl)

theorem follows_sessions (host : Host) (i : ℕ) (op : Operation) :
    (sessionDiscipline host).protocol.Follows
      ((sessionDiscipline host).service.within (sessionDiscipline host).conditions) i op
      (op.call host).run (fun _ => True) () fun b t _ => KnownOf op b t := by
  have hroutine : ∀ {i : ℕ} {op : Operation} {α : Type} {x : Service α} (f : α → Option ℕ),
      (sessionDiscipline host).Upholds i op x (fun _ => True) (fun _ _ => True) (fun _ => True) →
      (∀ token, op ≠ .refreshToken token) →
      (sessionDiscipline host).protocol.Follows
        ((sessionDiscipline host).service.within (sessionDiscipline host).conditions) i op
        (do let a ← x; pure (f a) : Service (Option ℕ)).run (fun _ => True) ()
        fun b t _ => KnownOf op b t := by
    intro i op α x f hx hop
    refine follows_call (R := fun _ _ => True) ?_ ?_
    · exact hx.bind fun _ => Discipline.Upholds.pure fun _ _ _ => trivial
    · intro a t _ token refreshed hsame
      exact absurd hsame (hop token)
  cases op with
  | registrationOptions authorization isOnboardingOrClaim anonymous =>
    exact hroutine _ (upholds_registrationOptions keepsRoutine_sessions authorization
      isOnboardingOrClaim anonymous) (by simp)
  | verifyRegistration challengeId response choice registered =>
    exact hroutine _ (upholds_verifyRegistration keepsRoutine_sessions host challengeId response
      choice registered) (by simp)
  | authenticationOptions =>
    exact hroutine _ (upholds_saveChallenge keepsRoutine_sessions .authentication "" none none)
      (by simp)
  | verifyAuthentication challengeId credentialId assertion =>
    exact hroutine _ (upholds_verifyAuthentication challengeId credentialId assertion) (by simp)
  | refreshToken token =>
    refine follows_call (R := fun a t => ∀ refreshed, a = some refreshed →
      refreshed < t.nextId ∧ token < t.nextId ∧
        t.history.origin refreshed = t.history.origin token) ?_ ?_
    · refine (upholds_refreshToken token).bind fun session => Discipline.Upholds.pure ?_
      rintro t - hsession refreshed ⟨⟩
      exact hsession
    · rintro a t hknown _ refreshed ⟨⟩ ⟨⟩
      exact hknown refreshed rfl
  | logout token authorization => exact hroutine _ (upholds_logout token authorization) (by simp)
  | revokeCredential userId id =>
    exact hroutine _ (upholds_revokeCredential keepsRoutine_sessions userId id) (by simp)
  | canActivate authorization =>
    exact hroutine _ (upholds_canActivate keepsRoutine_sessions authorization) (by simp)
  | storeCredential credentialId userId key =>
    exact hroutine _ (upholds_storeCredential keepsRoutine_sessions host credentialId userId key)
      (by simp)

theorem sessions_pass (n : ℕ) (t : Tables) (ht : SessionsEnd t) :
    Later t { t with now := t.now + n } ∧ SessionsEnd { t with now := t.now + n } := by
  have hnow : t.now ≤ t.now + n := by omega
  refine ⟨⟨hnow, le_rfl, fun _ ha => ha, fun _ hjti => hjti, fun _ _ => rfl,
    fun _ htoken => htoken, fun _ => le_rfl⟩, ht.fresh, ht.unique, ht.keys, ht.revoked, ht.origin,
    ht.ended, ht.floor, ht.known, ?_⟩
  rintro row ⟨hrow, hexpires⟩
  exact ht.current row ⟨hrow, hnow.trans_lt hexpires⟩

/-- Nobody has logged in. -/
structure NoSessions (t : Tables) : Prop where
  issued : t.issued = []
  tokens : t.tokens = []
  revoked : t.revoked = fun _ => none
  ended : t.history.ended = []
  floor : t.history.floor = fun _ => 0
  origin : t.history.origin = id

theorem sessionsEnd_of_noSessions (h : NoSessions t) : SessionsEnd t := by
  obtain ⟨hissued, htokens, hrevoked, hended, hfloor, horigin⟩ := h
  constructor <;> simp [hissued, htokens, hrevoked, hended, hfloor, horigin, Redeemable]

end Sessions

section Endings

abbrev CallConfig :=
  Config (Recorded Tables Operation Reply) Operation (Spoken Request Reply) (Spoken.Answer Answer)

abbrev CallStep :=
  LabelledRuns.Transition CallConfig
    (InterleavedPrograms.Event Operation (Spoken Request Reply) (Spoken.Answer Answer))

abbrev CallTrace := List CallStep

/-- A logout with the access token, which was signed before, has returned before the token
expired. -/
def LoggedOut (tr : CallTrace) (a : AccessToken) : Prop :=
  ∃ i token, Replied tr i (.logout token (some a)) (.ok none) (a ∈ ·.issued)
    fun t => t.now / 1000 < a.exp

/-- What is over for good when calls have returned. -/
structure SessionsOver (tr : CallTrace) (c : CallConfig) : Prop where
  /-- A refresh gives a token of the same session. -/
  derived : ∀ i token refreshed,
    c.state.replies i = some (.refreshToken token, .ok (some refreshed)) →
      c.state.store.history.origin refreshed = c.state.store.history.origin token
  /-- After a logout no refresh token of the session is redeemable. -/
  tokens : ∀ i token authorization,
    Replied tr i (.logout (some token) authorization) (.ok none) (token < ·.nextId)
      (fun _ => True) →
      ∀ row, Redeemable c.state.store row →
        c.state.store.history.origin row.token ≠ c.state.store.history.origin token
  /-- After a logout the access token is in the list until it expires. -/
  keys : ∀ a, LoggedOut tr a → c.state.store.now / 1000 < a.exp → c.state.store.isRevoked a.jti
  /-- A guard that has let an access token pass has looked when no logout with it had returned. -/
  guarded : ∀ i a, c.state.replies i = some (.canActivate (some a), .ok none) →
    ∃ tr₁ u tr₂, tr = tr₁ ++ u :: tr₂ ∧ u.event = .performed i (.request (.isRevoked a)) false ∧
      ¬LoggedOut tr₁ a
  /-- A passkey is staged on an account only for a bearer of a token with which no logout had
  returned. -/
  staged : ∀ tr₁ t tr₂ i authorization isOnboardingOrClaim anonymous stage flow platformId userId
      expiresAt bearer n, tr = tr₁ ++ t :: tr₂ →
    t.event = .performed i
      (.request (.createChallenge flow platformId (some userId) expiresAt bearer)) n →
    t.before.processes i =
      some ⟨.registrationOptions authorization isOnboardingOrClaim anonymous, stage⟩ →
    ∃ a, authorization = some a ∧ ¬LoggedOut tr₁ a
  /-- After a revocation no refresh token of the account is redeemable that was known when it was
  called, or is of a session of such a token. -/
  revoked : ∀ i userId id token,
    Replied tr i (.revokeCredential userId id) (.ok none) (token < ·.nextId) (fun _ => True) →
      ∀ row, Redeemable c.state.store row → row.userId = userId →
        c.state.store.history.origin row.token ≠ c.state.store.history.origin token

variable {host : Host} {start : Tables} {tr : CallTrace} {c : CallConfig}

section Gates

/-- What ends the use of an access token: its key is set, or it does not verify. -/
def EndsKey (a : AccessToken) : (r : Request) → Answer r → Prop
  | .setRevoked b _, _ => b = a
  | .verifyJwt b, x => b = a ∧ x = false
  | _, _ => False

/-- The access token is looked up and not in the list. -/
def FindsNoKey (a : AccessToken) : (r : Request) → Answer r → Prop
  | .isRevoked b, x => b = a ∧ x = false
  | _, _ => False

/-- A passkey is staged on an account only for the bearer. -/
def StagesFor (authorization : Option AccessToken) : Request → Prop
  | .createChallenge _ _ (some _) _ bearer => bearer.isSome ∧ bearer = authorization
  | _ => True

variable {gate : (r : Request) → Answer r → Prop}

theorem gated_answer {r : Request} {Q : Answer r → Prop} (h : ∀ x, gate r x ∨ Q x) :
    (ask r).Gated (fun _ _ => True) gate (fun _ => True) Q :=
  Fallible.gated_ask trivial fun x _ => h x

theorem gated_step (r : Request) :
    (ask r).Gated (fun _ _ => True) gate (fun _ => True) fun _ => True :=
  gated_answer fun _ => .inr trivial

theorem stages_step (authorization : Option AccessToken) (r : Request)
    (hr : StagesFor authorization r) : (ask r).Gated (fun _ _ => True) (fun _ _ => False)
      (StagesFor authorization) fun _ => True :=
  Fallible.gated_ask hr fun _ _ => .inr trivial

theorem gated_logout_token (token : ℕ) (authorization : Option AccessToken) :
    ((Operation.logout (some token) authorization).call host).Gated (fun _ _ => True)
      (fun r _ => r = .deleteTokens token) (fun _ => True) fun _ => False :=
  ⟨trivial, fun _ _ => .inl rfl⟩

theorem gated_logout_key (token : Option ℕ) (a : AccessToken) :
    ((Operation.logout token (some a)).call host).Gated (fun _ _ => True) (EndsKey a)
      (fun _ => True) fun _ => False := by
  have hlogout : (logout token (some a)).Gated (fun _ _ => True) (EndsKey a) (fun _ => True)
      fun _ => False := by
    unfold logout
    refine Fallible.Gated.andThen (Q := fun _ => True) ?_ fun _ _ => ?_
    · cases token with
      | none => exact Fallible.gated_checked fun _ _ => trivial
      | some token => exact gated_step _
    · refine Fallible.Gated.andThen (Q := fun verifies : Bool => verifies = true) ?_ ?_
      · refine gated_answer fun verifies => ?_
        cases verifies with
        | false => exact .inl ⟨rfl, rfl⟩
        | true => exact .inr rfl
      · rintro verifies rfl
        simp only [if_true]
        refine (gated_step _).andThen fun now _ => ?_
        exact gated_answer fun _ => .inl rfl
  exact hlogout.andThen fun _ h => h.elim

theorem gated_revokeCredential (userId : String) (id : ℕ) :
    ((Operation.revokeCredential userId id).call host).Gated (fun _ _ => True)
      (fun r _ => r = .deleteTokensOf userId) (fun _ => True) fun _ => False := by
  have hrevoke : (revokeCredential userId id).Gated (fun _ _ => True)
      (fun r _ => r = .deleteTokensOf userId) (fun _ => True) fun _ => False := by
    unfold revokeCredential
    refine (gated_step _).andThen fun found _ => ?_
    refine Fallible.Gated.andThen (Q := fun _ => True) ?_ fun _ _ => ?_
    · exact Fallible.gated_check fun _ => trivial
    refine (gated_step _).andThen fun activeCount _ => ?_
    refine Fallible.Gated.andThen (Q := fun _ => True) ?_ fun _ _ => ?_
    · exact Fallible.gated_check fun _ => trivial
    refine (gated_step _).andThen fun now _ => ?_
    refine (gated_step _).andThen fun updated _ => ?_
    refine Fallible.Gated.andThen (Q := fun _ => True) ?_ fun _ _ => ?_
    · exact Fallible.gated_check fun _ => trivial
    exact gated_answer (r := .deleteTokensOf userId) fun _ => .inl rfl
  exact hrevoke.andThen fun _ h => h.elim

theorem gated_canActivate (a : AccessToken) :
    ((Operation.canActivate (some a)).call host).Gated (fun _ _ => True) (FindsNoKey a)
      (fun _ => True) fun _ => False := by
  have hguard : (canActivate (some a)).Gated (fun _ _ => True) (FindsNoKey a) (fun _ => True)
      fun _ => False := by
    unfold canActivate
    refine Fallible.Gated.andThen (Q := fun b => b = a) ?_ ?_
    · refine Fallible.gated_checked fun b hb => ?_
      exact (Option.some.inj (CheckedOutcome.orError_eq_ok.mp hb)).symm
    rintro _ rfl
    refine (gated_step _).andThen fun verifies _ => ?_
    refine Fallible.Gated.andThen (Q := fun _ => True) ?_ fun _ _ => ?_
    · exact Fallible.gated_check fun _ => trivial
    refine Fallible.Gated.andThen (Q := fun revoked : Bool => revoked = true) ?_ ?_
    · refine gated_answer fun revoked => ?_
      cases revoked with
      | false => exact .inl ⟨rfl, rfl⟩
      | true => exact .inr rfl
    · rintro revoked rfl
      refine Fallible.Gated.andThen (Q := fun _ => False) ?_ fun _ h => h.elim
      exact Fallible.gated_check fun h => absurd rfl h
  exact hguard.andThen fun _ h => h.elim

theorem stages_saveChallenge (flow : Flow) (platformId : String) {userId : Option String}
    {bearer authorization : Option AccessToken}
    (h : userId.isSome → bearer.isSome ∧ bearer = authorization) :
    (saveChallenge flow platformId userId bearer).Gated (fun _ _ => True) (fun _ _ => False)
      (StagesFor authorization) fun _ => True := by
  unfold saveChallenge
  refine (stages_step _ .now trivial).andThen fun now _ => ?_
  refine (stages_step _ (.deleteExpired now) trivial).andThen fun _ _ => ?_
  refine (stages_step _ .now trivial).andThen fun later _ => ?_
  refine stages_step _ _ ?_
  cases userId with
  | none => trivial
  | some userId => exact h rfl

theorem stages_registrationOptions (authorization : Option AccessToken)
    (isOnboardingOrClaim : Bool) (anonymous : Except Failure String) :
    ((Operation.registrationOptions authorization isOnboardingOrClaim anonymous).call host).Gated
      (fun _ _ => True) (fun _ _ => False) (StagesFor authorization) fun _ => True := by
  have hbearer : (bearerUserId authorization isOnboardingOrClaim).Gated (fun _ _ => True)
      (fun _ _ => False) (StagesFor authorization) fun bearer =>
        bearer.isSome → bearer = authorization := by
    unfold bearerUserId
    split_ifs
    · refine Fallible.gated_checked ?_
      rintro _ ⟨⟩ h
      cases h
    cases authorization with
    | none =>
      refine Fallible.gated_checked ?_
      rintro _ ⟨⟩ _
      rfl
    | some a =>
      unfold authenticateBearer
      refine (stages_step _ (.verifyJwt a) trivial).andThen fun verifies _ => ?_
      refine Fallible.gated_checked ?_
      rintro _ ⟨⟩ h
      split_ifs at h ⊢
      · rfl
      · cases h
  have hoptions : (registrationOptions authorization isOnboardingOrClaim anonymous).Gated
      (fun _ _ => True) (fun _ _ => False) (StagesFor authorization) fun _ => True := by
    unfold registrationOptions
    refine hbearer.andThen fun bearer hsame => ?_
    refine Fallible.Gated.andThen (Q := fun _ => True) ?_ fun found _ => ?_
    · cases bearer with
      | none => exact Fallible.gated_checked fun _ _ => trivial
      | some a => exact stages_step _ (.findUserById a.userId) trivial
    split
    · exact stages_saveChallenge _ _ fun _ => ⟨rfl, hsame rfl⟩
    · refine Fallible.Gated.andThen (Q := fun _ => True) ?_ fun platformId _ => ?_
      · exact Fallible.gated_checked fun _ _ => trivial
      exact stages_saveChallenge _ _ fun h => nomatch h
  exact hoptions.andThen fun _ _ => Fallible.gated_checked fun _ _ => trivial

theorem gated_stages (op : Operation) : (op.call host).run.Gated (fun _ _ => True)
    (fun _ _ => False) (fun r => ∀ authorization isOnboardingOrClaim anonymous,
      op = .registrationOptions authorization isOnboardingOrClaim anonymous →
        StagesFor authorization r) fun _ => True := by
  cases op with
  | registrationOptions authorization isOnboardingOrClaim anonymous =>
    refine (stages_registrationOptions authorization isOnboardingOrClaim anonymous).mono ?_
      fun _ _ => trivial
    rintro r hr _ _ _ ⟨⟩
    exact hr
  | _ => exact Program.gated_any (fun _ _ _ _ h => nomatch h) (fun _ => trivial) _

end Gates

section Runs

/-- What a request does, in the trace of a run. -/
theorem store_of_performed (hrun : (passkeyCalls host).Runs (.opened start) tr c)
    {t : CallStep} (ht : t ∈ tr) {i : ℕ} {r : Request} {y : Answer r}
    (hevent : t.event = .performed i (.request r) y) :
    (carry t.before.state.store r).1 = y ∧
      t.after.state.store = (carry t.before.state.store r).2 := by
  have hstep := hrun.step_of_mem ht
  rw [hevent] at hstep
  generalize t.before = u, t.after = v at hstep ⊢
  cases hstep with
  | performed here done =>
    exact ⟨congrArg Prod.fst done, congrArg (·.store) (congrArg Prod.snd done).symm⟩

/-- What the steps of a run bring about. -/
def AllLater (tr : CallTrace) : Prop :=
  ∀ t ∈ tr, Later t.before.state.store t.after.state.store

/-- What a logout or a revocation brings about stays. -/
theorem kept_to_end (hrun : (passkeyCalls host).Runs (.opened start) tr c) (hsteps : AllLater tr)
    {K : Tables → Prop} (hkeep : ∀ t t', Later t t' → K t → K t')
    {u : CallStep}
    (hu : u ∈ tr) (hK : K u.after.state.store) : K c.state.store :=
  hrun.kept_since (K := fun d => K d.state.store) (fun t ht => hkeep _ _ (hsteps t ht)) hu hK

theorem key_of_loggedOut (hrun : (passkeyCalls host).Runs (.opened start) tr c)
    (hsteps : AllLater tr) {a : AccessToken} (h : LoggedOut tr a) :
    a ∈ c.state.store.issued ∧ (c.state.store.revoked a.jti).isSome := by
  obtain ⟨i, token, hreplied⟩ := h
  obtain ⟨u, hu, hissued, hlives, r, y, hevent, hends⟩ := hreplied.opened hrun
    (gated_logout_key token a) (fun hQ => hQ none rfl)
    (fun t ht => (hsteps t ht).issued a) fun t ht hlives => by
      have hnow := (hsteps t ht).now
      omega
  obtain ⟨hanswer, hafter⟩ := store_of_performed hrun hu hevent
  have hset : a ∈ u.after.state.store.issued ∧ (u.after.state.store.revoked a.jti).isSome := by
    cases r with
    | setRevoked b ttl =>
      obtain rfl : b = a := hends
      rw [hafter]
      exact ⟨hissued, by simp [carry]⟩
    | verifyJwt b =>
      obtain ⟨rfl, rfl⟩ := hends
      exact absurd ⟨hissued, hlives⟩ (of_decide_eq_false hanswer)
    | _ => exact hends.elim
  refine kept_to_end hrun hsteps (K := fun t => a ∈ t.issued ∧ (t.revoked a.jti).isSome) ?_ hu hset
  exact fun t t' hlater hK => ⟨hlater.issued a hK.1, hlater.revoked a.jti hK.2⟩

theorem ended_of_logout (hrun : (passkeyCalls host).Runs (.opened start) tr c)
    (hsteps : AllLater tr) {i token : ℕ} {authorization : Option AccessToken}
    (h : Replied tr i (.logout (some token) authorization) (.ok none) (token < ·.nextId)
      fun _ => True) :
    c.state.store.history.origin token ∈ c.state.store.history.ended := by
  obtain ⟨u, hu, hknown, -, r, y, hevent, rfl⟩ := h.opened hrun
    (gated_logout_token token authorization) (fun hQ => hQ none rfl)
    (fun t ht hknown => hknown.trans_le (hsteps t ht).nextId) fun _ _ _ => trivial
  obtain ⟨-, hafter⟩ := store_of_performed hrun hu hevent
  refine (kept_to_end hrun hsteps (K := fun t => token < t.nextId ∧
    t.history.origin token ∈ t.history.ended) ?_ hu ?_).2
  · rintro t t' hlater ⟨htoken, hended⟩
    refine ⟨htoken.trans_le hlater.nextId, ?_⟩
    rw [hlater.origin token htoken]
    exact hlater.ended _ hended
  · rw [hafter]
    refine ⟨hknown, ?_⟩
    simp [carry, hknown]

theorem floor_of_revocation (hrun : (passkeyCalls host).Runs (.opened start) tr c)
    (hsteps : AllLater tr) (horigins : ∀ t ∈ tr, SessionsEnd t.before.state.store)
    {i id token : ℕ} {userId : String}
    (h : Replied tr i (.revokeCredential userId id) (.ok none) (token < ·.nextId) fun _ => True) :
    c.state.store.history.origin token < c.state.store.history.floor userId := by
  obtain ⟨u, hu, hknown, -, r, y, hevent, rfl⟩ := h.opened hrun
    (gated_revokeCredential userId id) (fun hQ => hQ none rfl)
    (fun t ht hknown => hknown.trans_le (hsteps t ht).nextId) fun _ _ _ => trivial
  obtain ⟨-, hafter⟩ := store_of_performed hrun hu hevent
  refine (kept_to_end hrun hsteps (K := fun t => token < t.nextId ∧
    t.history.origin token < t.history.floor userId) ?_ hu ?_).2
  · rintro t t' hlater ⟨htoken, hfloor⟩
    refine ⟨htoken.trans_le hlater.nextId, ?_⟩
    rw [hlater.origin token htoken]
    exact hfloor.trans_le (hlater.floor userId)
  · rw [hafter]
    refine ⟨hknown, ?_⟩
    simpa [carry] using ((horigins u hu).origin token).trans_lt hknown

end Runs

/-- In every interleaving in which no refresh of an ended session goes on, no session is ended with
one of its older refresh tokens, no passkey is staged with a logged-out access token and the guard
looks a token up before its key has expired: what logouts and revocations end when they have
returned is over for good. -/
theorem logout_and_revocation_are_final (hrun : (passkeyCalls host).Runs (.opened start) tr c)
    (hmeets : ∀ t ∈ tr, StoreService.Meets sessionsInTurn.recording t)
    (hstart : NoSessions start) : SessionsOver tr c := by
  obtain ⟨⟨hfinish, hreplies⟩, hall⟩ := (sessionDiscipline host).recording_run
    (fun op => (op.call host).run) (fun _ => stable_knownOf) Later.refl
    (fun i op _ => follows_sessions host i op) (fun n t ht _ => sessions_pass n t ht) hrun hmeets
    (sessionsEnd_of_noSessions hstart)
  have hlater : AllLater tr := fun t ht => (hall t ht).2
  refine ⟨?_, ?_, ?_, ?_, ?_, ?_⟩
  · intro i token refreshed hreply
    exact (hreplies i _ _ hreply token refreshed rfl rfl).2.2
  · intro i token authorization hreplied row hrow hsame
    have hended := ended_of_logout hrun hlater hreplied
    exact (hfinish.current row hrow).1 (hsame ▸ hended)
  · intro a hout hlives
    obtain ⟨hissued, hset⟩ := key_of_loggedOut hrun hlater hout
    obtain ⟨e, he⟩ := Option.isSome_iff_exists.mp hset
    have hlasts := hfinish.revoked a hissued e he
    simp only [Tables.isRevoked, he, Option.any_some, decide_eq_true_eq]
    omega
  · intro i a hreply
    obtain ⟨t, ht, hevent, stage, hproc⟩ := StoreService.replied_of_run hrun hreply
    obtain ⟨tr₁, u, tr₂, tr₃, rfl, hrun₁, -, r, y, hlooked, hfinds⟩ :=
      StoreService.opened_of_reply hrun ht hevent hproc (gated_canActivate a) fun h => h none rfl
    have hu : u ∈ tr₁ ++ u :: (tr₂ ++ t :: tr₃) := List.mem_append_right _ List.mem_cons_self
    obtain ⟨hanswer, -⟩ := store_of_performed hrun hu hlooked
    obtain ⟨op, hallows⟩ := met_of_performed hrun hu (hmeets u hu) hlooked
    cases r with
    | isRevoked b =>
      obtain ⟨rfl, rfl⟩ := hfinds
      refine ⟨tr₁, u, tr₂ ++ t :: tr₃, rfl, hlooked, fun hout => ?_⟩
      have hset := (key_of_loggedOut hrun₁
        (fun v hv => hlater v (List.mem_append_left _ hv)) hout).2
      obtain ⟨e, he⟩ := Option.isSome_iff_exists.mp hset
      have hlasts : u.before.state.store.now < e := hallows e he
      have hrevoked : u.before.state.store.isRevoked b.jti := by
        simpa [Tables.isRevoked, he] using hlasts
      exact absurd (hrevoked.symm.trans hanswer) Bool.noConfusion
    | _ => exact hfinds.elim
  · rintro tr₁ t tr₂ i authorization isOnboardingOrClaim anonymous stage flow platformId userId
      expiresAt bearer n rfl hevent hproc
    have ht : t ∈ tr₁ ++ t :: tr₂ := List.mem_append_right _ List.mem_cons_self
    have hstages : bearer.isSome ∧ bearer = authorization := by
      by_contra hnot
      obtain ⟨_, _, -, -, -, -, r, y, -, hopen⟩ :=
        StoreService.after_gate hrun gated_stages ht hevent hproc
          fun h => hnot (h _ _ _ rfl)
      exact hopen
    obtain ⟨hbearer, rfl⟩ := hstages
    obtain ⟨a, rfl⟩ := Option.isSome_iff_exists.mp hbearer
    refine ⟨a, rfl, fun hout => ?_⟩
    have hset := (key_of_loggedOut hrun.upto
      (fun v hv => hlater v (List.mem_append_left _ hv)) hout).2
    obtain ⟨op, hallows⟩ := met_of_performed hrun ht (hmeets t ht) hevent
    have hnone : t.before.state.store.revoked a.jti = none := hallows
    simp [hnone] at hset
  · intro i userId id token hreplied row hrow huser hsame
    have hfloor := floor_of_revocation hrun hlater (fun t ht => (hall t ht).1.1) hreplied
    have hcurrent := (hfinish.current row hrow).2
    rw [huser, hsame] at hcurrent
    exact absurd hfloor hcurrent.not_gt

end Endings

end VeriAgentPay.Passkeys

namespace VeriAgentPay.Devnet
open InterleavedPrograms KeyedTables Passkeys LabelledRuns

/-- A call that makes `n` requests and replies. -/
def repliedCall (i n : ℕ) (op : Passkeys.Operation) : List (Move Passkeys.Operation) :=
  callOf i (n + 1) op

def phoneEnrolled : List (Move Passkeys.Operation) :=
  repliedCall 0 4 (.registrationOptions none false (.ok "12345")) ++
    repliedCall 1 9 (.verifyRegistration 0 (attested "phone" .multiDevice true) 0 (.ok "alice"))

/-- Alice's refresh token of `phoneEnrolled`. -/
def aliceRefresh : ℕ := 3

def stageForAlice : Passkeys.Operation :=
  .registrationOptions (some aliceToken) false (.error (.badRequest ""))

def laptopEnrolled : List (Move Passkeys.Operation) :=
  phoneEnrolled ++ repliedCall 2 6 stageForAlice ++
    repliedCall 3 9 (.verifyRegistration 4 (attested "laptop" .multiDevice true) 0 (.ok "alice"))

def aliceLogout (token : ℕ) : Passkeys.Operation := .logout (some token) (some aliceToken)

abbrev aliceCalls (schedule : List (Move Passkeys.Operation)) : Option CallConfig :=
  (passkeyCalls passkeyHost).moves StoreService.anything (Config.initial (.opened noPasskeys))
    schedule

/-- After her logout, Alice's access token is to stage a passkey. -/
def stageAfterLogout : List (Move Passkeys.Operation) :=
  phoneEnrolled ++ repliedCall 4 4 (aliceLogout aliceRefresh) ++ callOf 5 5 stageForAlice

/-- She refreshes before she logs out with the older token. -/
def refreshedBefore : List (Move Passkeys.Operation) :=
  phoneEnrolled ++ repliedCall 6 6 (.refreshToken aliceRefresh)

/-- A refresh has deleted its token. -/
def refreshBegun (enrolled : List (Move Passkeys.Operation)) : List (Move Passkeys.Operation) :=
  enrolled ++ callOf 6 3 (.refreshToken aliceRefresh)

def logoutAfterRefresh : List (Move Passkeys.Operation) :=
  refreshedBefore ++ repliedCall 4 4 (aliceLogout aliceRefresh)

def logoutAcross : List (Move Passkeys.Operation) :=
  refreshBegun phoneEnrolled ++ (repliedCall 4 4 (aliceLogout aliceRefresh) ++
    List.replicate 4 (.step 6))

def revokeAcross : List (Move Passkeys.Operation) :=
  refreshBegun laptopEnrolled ++ (repliedCall 5 5 (.revokeCredential "alice" 1) ++
    List.replicate 4 (.step 6))

def aliceKnown (t : Passkeys.Tables) : Bool := aliceRefresh < t.nextId ∧ aliceToken ∈ t.issued

/-- A refresh token of the session of `aliceRefresh` can be exchanged. -/
def aliceRedeems (t : Passkeys.Tables) : Bool :=
  t.tokens.any fun row => t.now < row.expiresAt ∧ row.userId = "alice" ∧
    t.history.origin row.token = t.history.origin aliceRefresh

def stagedFor : Spoken Passkeys.Request Reply → Option (String × AccessToken)
  | .request (.createChallenge _ _ (some userId) _ (some a)) => some (userId, a)
  | _ => none

theorem stagedFor_eq_some {r : Spoken Passkeys.Request Reply} {userId : String} {a : AccessToken}
    (h : stagedFor r = some (userId, a)) : ∃ flow platformId expiresAt,
      r = .request (.createChallenge flow platformId (some userId) expiresAt (some a)) := by
  unfold stagedFor at h
  split at h
  · obtain ⟨rfl, rfl⟩ := Prod.mk.inj (Option.some.inj h)
    exact ⟨_, _, _, rfl⟩
  · cases h

/-- Whether the caller `i` was told of success, and a token can still be exchanged. -/
def toldAndRedeems (i : ℕ) (schedule : List (Move Passkeys.Operation)) : Option (Bool × Bool) :=
  (aliceCalls schedule).map fun c =>
    (decide ((c.state.replies i).map Prod.snd = some (.ok none)), aliceRedeems c.state.store)

theorem calls_computed :
    ([phoneEnrolled, refreshedBefore, refreshBegun phoneEnrolled,
      refreshBegun laptopEnrolled].map fun schedule =>
        (aliceCalls schedule).map fun c => aliceKnown c.state.store) =
          List.replicate 4 (some true) ∧
    toldAndRedeems 4 logoutAfterRefresh = some (true, true) ∧
    toldAndRedeems 4 logoutAcross = some (true, true) ∧
    toldAndRedeems 5 revokeAcross = some (true, true) ∧
    ((aliceCalls stageAfterLogout).map fun c =>
      (decide ((c.state.replies 4).map Prod.snd = some (.ok none)),
        decide (c.state.store.now / 1000 < aliceToken.exp), (c.pending 5).bind stagedFor)) =
      some (true, true, some ("alice", aliceToken)) := by
  decide +kernel

theorem now_carry (t : Passkeys.Tables) (r : Passkeys.Request) : (carry t r).2.now = t.now := by
  cases r with
  | insertCredential lookupHash userId key encrypted =>
    unfold carry
    dsimp only
    split <;> rfl
  | _ => rfl

theorem now_le_of_mem {tr : CallTrace} {c : CallConfig}
    (hrun : (passkeyCalls passkeyHost).Runs (.opened noPasskeys) tr c) :
    ∀ t ∈ tr, t.before.state.store.now ≤ t.after.state.store.now := by
  intro t ht
  have hstep := hrun.step_of_mem ht
  generalize t.before = u, t.event = e, t.after = v at hstep ⊢
  cases hstep with
  | start | crash => exact le_rfl
  | environment acts =>
    obtain ⟨n, rfl⟩ := acts
    exact Int.le_add_of_nonneg_right (Int.natCast_nonneg n)
  | @performed i op r x next s here done =>
    obtain rfl := congrArg Prod.snd done
    cases r with
    | request r => exact (now_carry u.state.store r).ge
    | reply b => exact le_rfl

/-- A call that was told of success. -/
theorem replied_of_known {tr : CallTrace} {c : CallConfig} {u : CallStep} {i : ℕ}
    {op : Passkeys.Operation} (hrun : (passkeyCalls passkeyHost).Runs (.opened noPasskeys) tr c)
    (hu : u ∈ tr) (hstart : u.event = .start i op) (hknown : aliceKnown u.before.state.store = true)
    (hreply : (c.state.replies i).map Prod.snd = some (.ok none)) :
    Replied tr i op (.ok none) (fun t => aliceRefresh < t.nextId ∧ aliceToken ∈ t.issued)
      (·.now ≤ c.state.store.now) := by
  have hboth : aliceRefresh < u.before.state.store.nextId ∧
      aliceToken ∈ u.before.state.store.issued := by
    simpa [aliceKnown] using hknown
  exact Replied.of_started hrun hu hstart hboth hreply
    (fun t ht hle => (now_le_of_mem hrun t ht).trans hle) le_rfl

theorem runs_of_told {schedule before rest : List (Move Passkeys.Operation)} {i : ℕ}
    {op : Passkeys.Operation} {c : CallConfig} (h : aliceCalls schedule = some c)
    (hcall : schedule = before ++ .start i op :: rest)
    (hknown : (aliceCalls before).map (fun c => aliceKnown c.state.store) = some true)
    (hreply : (c.state.replies i).map Prod.snd = some (.ok none)) :
    ∃ tr, Run (InterleavedPrograms.Step ((passkeyCalls passkeyHost).within StoreService.anything))
        (Config.initial (.opened noPasskeys)) tr c ∧
      Replied tr i op (.ok none) (fun t => aliceRefresh < t.nextId ∧ aliceToken ∈ t.issued)
        (·.now ≤ c.state.store.now) := by
  obtain ⟨tr, hrun, hstarts⟩ := StoreService.run_of_moves Run.nil h
  obtain ⟨u, hu, hstart, hbefore⟩ := hstarts before i op rest hcall
  change aliceCalls before = some u.before at hbefore
  rw [hbefore] at hknown
  have hknown' : aliceKnown u.before.state.store = true := Option.some.inj hknown
  exact ⟨tr, hrun, replied_of_known (run_of_restrict hrun).1 hu hstart hknown' hreply⟩

theorem redeemable_of_alice {t : Passkeys.Tables} (h : aliceRedeems t = true) :
    ∃ row, Redeemable t row ∧ row.userId = "alice" ∧
      t.history.origin row.token = t.history.origin aliceRefresh := by
  obtain ⟨row, hrow, hfacts⟩ := List.any_eq_true.mp h
  simp only [Bool.decide_and, Bool.and_eq_true, decide_eq_true_eq] at hfacts
  exact ⟨row, ⟨hrow, hfacts.1⟩, hfacts.2⟩

/-- The same where a token of the session can be exchanged afterwards. -/
theorem runs_of_redeemed {schedule before rest : List (Move Passkeys.Operation)} {i : ℕ}
    {op : Passkeys.Operation} (hcall : schedule = before ++ .start i op :: rest)
    (hknown : (aliceCalls before).map (fun c => aliceKnown c.state.store) = some true)
    (h : toldAndRedeems i schedule = some (true, true)) :
    ∃ tr c row, (passkeyCalls passkeyHost).Runs (.opened noPasskeys) tr c ∧
      aliceCalls schedule = some c ∧
      Replied tr i op (.ok none) (aliceRefresh < ·.nextId) (fun _ => True) ∧
      Redeemable c.state.store row ∧ row.userId = "alice" ∧
      c.state.store.history.origin row.token = c.state.store.history.origin aliceRefresh := by
  obtain ⟨c, hc, hfacts⟩ := Option.map_eq_some_iff.mp h
  obtain ⟨htold, hredeems⟩ := Prod.mk.inj hfacts
  obtain ⟨tr, hrun, hreplied⟩ := runs_of_told hc hcall hknown (of_decide_eq_true htold)
  obtain ⟨row, hrow, huser, horigin⟩ := redeemable_of_alice hredeems
  refine ⟨tr, c, row, (run_of_restrict hrun).1, hc, ?_, hrow, huser, horigin⟩
  exact hreplied.weaken (fun _ hK => hK.1) fun _ _ => trivial

/-- An access token stages a passkey after the logout with it has returned; a refresh token of the
session is redeemable after the logout, because it was derived before or while the logout ran; and
so is one of a session that a refresh carries across a revocation. -/
theorem logout_and_revocation_survived :
    (∃ tr t c flow platformId expiresAt n,
      (passkeyCalls passkeyHost).Runs (.opened noPasskeys) (tr ++ [t]) c ∧
      t.event = .performed 5 (.request
        (.createChallenge flow platformId (some "alice") expiresAt (some aliceToken))) n ∧
      LoggedOut tr aliceToken) ∧
    (∀ schedule ∈ [logoutAfterRefresh, logoutAcross], ∃ tr c row,
      (passkeyCalls passkeyHost).Runs (.opened noPasskeys) tr c ∧ aliceCalls schedule = some c ∧
      Replied tr 4 (aliceLogout aliceRefresh) (.ok none) (aliceRefresh < ·.nextId)
        (fun _ => True) ∧
      Redeemable c.state.store row ∧
      c.state.store.history.origin row.token = c.state.store.history.origin aliceRefresh) ∧
    ∃ tr c row, (passkeyCalls passkeyHost).Runs (.opened noPasskeys) tr c ∧
      Replied tr 5 (.revokeCredential "alice" 1) (.ok none) (aliceRefresh < ·.nextId)
        (fun _ => True) ∧
      Redeemable c.state.store row ∧ row.userId = "alice" ∧
      c.state.store.history.origin row.token = c.state.store.history.origin aliceRefresh := by
  obtain ⟨hknown, hbefore, hacross, hrevoked, hstaged⟩ := calls_computed
  simp only [List.map_cons, List.map_nil, List.replicate, List.cons.injEq, and_true] at hknown
  obtain ⟨hphone, hrefreshed, hbegun, hlaptop⟩ := hknown
  refine ⟨?_, ?_, ?_⟩
  · obtain ⟨c, hc, hfacts⟩ := Option.map_eq_some_iff.mp hstaged
    simp only [Prod.mk.injEq, decide_eq_true_eq] at hfacts
    obtain ⟨htold, hlives, hpending⟩ := hfacts
    have hcall : stageAfterLogout = phoneEnrolled ++ .start 4 (aliceLogout aliceRefresh) ::
        (List.replicate 5 (.step 4) ++ callOf 5 5 stageForAlice) := List.append_assoc _ _ _
    obtain ⟨tr, hrun, hreplied⟩ := runs_of_told hc hcall hphone htold
    obtain ⟨r, hr, hstages⟩ := Option.bind_eq_some_iff.mp hpending
    obtain ⟨flow, platformId, expiresAt, rfl⟩ := stagedFor_eq_some hstages
    obtain ⟨op, next, hproc⟩ := Config.process_of_pending hr
    have hstep : InterleavedPrograms.Step
        ((passkeyCalls passkeyHost).within StoreService.anything) c
        (.performed 5 (.request
          (.createChallenge flow platformId (some "alice") expiresAt (some aliceToken))) _) _ :=
      InterleavedPrograms.Step.performed hproc ⟨rfl, trivial⟩
    refine ⟨tr, _, _, flow, platformId, expiresAt, _, (run_of_restrict (hrun.snoc hstep)).1, rfl,
      4, some aliceRefresh, hreplied.weaken (fun _ hK => hK.2) fun t ht => ?_⟩
    omega
  · have hended : ∀ {schedule before rest}, schedule = before ++
      .start 4 (aliceLogout aliceRefresh) :: rest →
        (aliceCalls before).map (fun c => aliceKnown c.state.store) = some true →
        toldAndRedeems 4 schedule = some (true, true) → ∃ tr c row,
          (passkeyCalls passkeyHost).Runs (.opened noPasskeys) tr c ∧
          aliceCalls schedule = some c ∧
          Replied tr 4 (aliceLogout aliceRefresh) (.ok none) (aliceRefresh < ·.nextId)
            (fun _ => True) ∧
          Redeemable c.state.store row ∧
          c.state.store.history.origin row.token = c.state.store.history.origin aliceRefresh := by
      intro schedule before rest hcall hknown h
      obtain ⟨tr, c, row, hrun, hc, hreplied, hrow, -, horigin⟩ := runs_of_redeemed hcall hknown h
      exact ⟨tr, c, row, hrun, hc, hreplied, hrow, horigin⟩
    have hafter : logoutAfterRefresh = refreshedBefore ++ .start 4 (aliceLogout aliceRefresh) ::
        List.replicate 5 (.step 4) := rfl
    have halong : logoutAcross = refreshBegun phoneEnrolled ++
        .start 4 (aliceLogout aliceRefresh) ::
          (List.replicate 5 (.step 4) ++ List.replicate 4 (.step 6)) := rfl
    intro schedule hschedule
    rcases List.mem_pair.mp hschedule with rfl | rfl
    · exact hended hafter hrefreshed hbefore
    · exact hended halong hbegun hacross
  · have hcall : revokeAcross = refreshBegun laptopEnrolled ++
        .start 5 (.revokeCredential "alice" 1) ::
          (List.replicate 6 (.step 5) ++ List.replicate 4 (.step 6)) := rfl
    obtain ⟨tr, c, row, hrun, -, hreplied, hrow, huser, horigin⟩ :=
      runs_of_redeemed hcall hlaptop hrevoked
    exact ⟨tr, c, row, hrun, hreplied, hrow, huser, horigin⟩

instance : DecidablePred sessionsInTurn.starts := fun _ => inferInstanceAs (Decidable True)
instance (i : ℕ) (op : Passkeys.Operation) (t : Passkeys.Tables) (r : Passkeys.Request) :
    Decidable (sessionsInTurn.allows i op t r) :=
  match r with
  | .createToken _ _ none _ | .createChallenge _ _ _ _ none => .isTrue trivial
  | .createToken userId _ (some row) _ => inferInstanceAs (Decidable (RefreshInTurn t userId row))
  | .deleteTokens token => inferInstanceAs (Decidable (LogoutInTurn t token))
  | .createChallenge _ _ _ _ (some a) => inferInstanceAs (Decidable (t.revoked a.jti = none))
  | .isRevoked a => inferInstanceAs (Decidable (RevocationLasts t a))
  | .now .. | .verifyJwt .. | .signJwt .. | .setRevoked .. | .deleteExpired ..
  | .findChallenge .. | .useChallenge .. | .findUserById .. | .findUserByPlatformId ..
  | .countCredentials .. | .upsertCredential .. | .findCredential .. | .findOwnCredential ..
  | .preparePublicKey .. | .useCredential .. | .storeKey .. | .insertCredential ..
  | .revokeCredential .. | .findToken .. | .deleteToken .. | .deleteTokensOf .. => .isTrue trivial
instance (t t' : Passkeys.Tables) : Decidable (sessionsInTurn.passes t t') := .isTrue trivial

/-- Alice adds a passkey, calls an endpoint and refreshes, -/
def beforeLogout : List (Move Passkeys.Operation) :=
  laptopEnrolled ++ repliedCall 4 2 (.canActivate (some aliceToken)) ++
    repliedCall 6 6 (.refreshToken aliceRefresh)

/-- logs out with what the refresh gave her and calls the endpoint again, -/
def beforeRevocation : List (Move Passkeys.Operation) :=
  beforeLogout ++ repliedCall 7 4 (aliceLogout 9) ++
    repliedCall 8 2 (.canActivate (some aliceToken))

/-- and revokes her first passkey. -/
def endedInTurn : List (Move Passkeys.Operation) :=
  beforeRevocation ++ repliedCall 9 5 (.revokeCredential "alice" 1)

abbrev callsInTurn (schedule : List (Move Passkeys.Operation)) : Option CallConfig :=
  (passkeyCalls passkeyHost).moves sessionsInTurn.recording
    (Config.initial (.opened noPasskeys)) schedule

theorem ended_in_turn :
    ((callsInTurn beforeLogout).map fun c => aliceKnown c.state.store) = some true ∧
    ((callsInTurn beforeRevocation).map fun c => aliceKnown c.state.store) = some true ∧
    ((callsInTurn endedInTurn).map fun c =>
      ([4, 7, 9].map fun i => decide ((c.state.replies i).map Prod.snd = some (.ok none)),
        decide (c.state.store.now / 1000 < aliceToken.exp))) =
      some ([true, true, true], true) := by
  decide +kernel

theorem logout_and_revocation_are_final_devnet : ∃ tr c,
    (passkeyCalls passkeyHost).Runs (.opened noPasskeys) tr c ∧
      (c.state.replies 4).map Prod.snd = some (.ok none) ∧ LoggedOut tr aliceToken ∧
      Replied tr 9 (.revokeCredential "alice" 1) (.ok none) (aliceRefresh < ·.nextId)
        (fun _ => True) ∧
      SessionsOver tr c := by
  obtain ⟨hbeforeLogout, hbeforeRevocation, hended⟩ := ended_in_turn
  obtain ⟨c, hc, hfacts⟩ := Option.map_eq_some_iff.mp hended
  simp only [List.map_cons, List.map_nil, Prod.mk.injEq, List.cons.injEq, decide_eq_true_eq,
    and_true] at hfacts
  obtain ⟨⟨hguard, hlogout, hrevoke⟩, hlives⟩ := hfacts
  obtain ⟨tr, hrun, hmeets, hstarts⟩ := StoreService.runs_with_starts hc
  have hreplied : ∀ {before rest i op}, endedInTurn = before ++ .start i op :: rest →
      (callsInTurn before).map (fun c => aliceKnown c.state.store) = some true →
      (c.state.replies i).map Prod.snd = some (.ok none) →
      Replied tr i op (.ok none) (fun t => aliceRefresh < t.nextId ∧ aliceToken ∈ t.issued)
        (·.now ≤ c.state.store.now) := by
    intro before rest i op hcall hknown hreply
    obtain ⟨u, hu, hstart, hbefore⟩ := hstarts before i op rest hcall
    change callsInTurn before = some u.before at hbefore
    rw [hbefore] at hknown
    exact replied_of_known hrun hu hstart (Option.some.inj hknown) hreply
  have hlogoutCall : endedInTurn = beforeLogout ++ .start 7 (aliceLogout 9) ::
      (List.replicate 5 (.step 7) ++ repliedCall 8 2 (.canActivate (some aliceToken)) ++
        repliedCall 9 5 (.revokeCredential "alice" 1)) := by
    simp only [endedInTurn, beforeRevocation, List.append_assoc]
    rfl
  have hrevokeCall : endedInTurn = beforeRevocation ++
      .start 9 (.revokeCredential "alice" 1) :: List.replicate 6 (.step 9) := rfl
  have hlogged := hreplied hlogoutCall hbeforeLogout hlogout
  have hrevoked := hreplied hrevokeCall hbeforeRevocation hrevoke
  refine ⟨tr, c, hrun, hguard, ⟨7, some 9, hlogged.weaken (fun _ hK => hK.2) fun t ht => ?_⟩,
    hrevoked.weaken (fun _ hK => hK.1) fun _ _ => trivial,
    logout_and_revocation_are_final hrun hmeets ⟨rfl, rfl, rfl, rfl, rfl, rfl⟩⟩
  omega

end VeriAgentPay.Devnet
