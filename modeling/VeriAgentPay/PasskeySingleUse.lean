import VeriAgentPay.GatedPrograms
import VeriAgentPay.PasskeyRecovery

/-!
# Challenges and refresh tokens are single use

A challenge is taken by one conditional update and a refresh token by one deletion. A call goes on
only after its own, and neither the challenge nor the token comes back.
-/

namespace VeriAgentPay.Passkeys
open InterleavedPrograms LabelledRuns KeyedTables WebAuthnService
open InterleavedPrograms.Fallible (checked check)

section Gates

/-- What a call needs for its success. -/
inductive Ticket where
  | challenge (id : ℕ)
  | token (number : ℕ)
  deriving DecidableEq

/-- The conditional update found the challenge unused. -/
def Accepts (id : ℕ) : (r : Request) → Answer r → Prop
  | .useChallenge id' _, consumed => id' = id ∧ consumed = 1
  | _, _ => False

/-- The deletion found the token. -/
def Redeems (token : ℕ) : (r : Request) → Answer r → Prop
  | .deleteToken token', deleted => token' = token ∧ deleted = true
  | _, _ => False

/-- The token is read from the table. -/
def Finds (token : ℕ) : (r : Request) → Answer r → Prop
  | .findToken token', found => token' = token ∧ found.isSome
  | _, _ => False

/-- The ticket is used up. -/
def Ticket.Takes : Ticket → (r : Request) → Answer r → Prop
  | challenge id => Accepts id
  | token number => Redeems number

/-- The ticket of a verification or of a refresh. -/
def Operation.ticket? : Operation → Option Ticket
  | verifyRegistration challengeId _ _ _ => some (.challenge challengeId)
  | verifyAuthentication challengeId _ _ => some (.challenge challengeId)
  | refreshToken token => some (.token token)
  | _ => none

/-- The requests up to the one that takes the ticket. -/
def Ticket.MayAsk : Ticket → Request → Prop
  | challenge _, .findChallenge _ | challenge _, .now | challenge _, .useChallenge _ _ => True
  | token _, .findToken _ | token _, .now | token _, .deleteToken _ => True
  | _, _ => False

def Operation.Takes (op : Operation) (r : Request) (x : Answer r) : Prop :=
  ∃ ticket ∈ op.ticket?, ticket.Takes r x

def Operation.MayAsk (op : Operation) (r : Request) : Prop := ∀ ticket ∈ op.ticket?, ticket.MayAsk r

/-- A row is found under its own number. -/
def FindsOwn : (r : Request) → Answer r → Prop
  | .findToken token, found => ∀ row ∈ found, row.token = token
  | _, _ => True

theorem findsOwn_carry (t : Tables) (r : Request) : FindsOwn r (carry t r).1 := by
  cases r with
  | findToken token =>
    intro row hrow
    exact of_decide_eq_true
      (List.find?_some (p := fun row : RefreshToken => decide (row.token = token)) hrow)
  | _ => trivial

theorem gated_consumeChallenge (id : ℕ) (flow : Flow) :
    (consumeChallenge id flow).Gated FindsOwn (Ticket.challenge id).Takes
      (Ticket.challenge id).MayAsk fun _ => False := by
  unfold consumeChallenge
  refine Fallible.Gated.andThen
    (Fallible.gated_ask (Q := fun _ => True) trivial fun _ _ => .inr trivial) fun found _ => ?_
  refine Fallible.Gated.andThen
    (Fallible.gated_ask (Q := fun _ => True) trivial fun _ _ => .inr trivial) fun now _ => ?_
  refine Fallible.Gated.andThen (Fallible.gated_checked (Q := fun _ => True) fun _ _ => trivial)
    fun record _ => ?_
  refine Fallible.Gated.andThen
    (Fallible.gated_ask (Q := fun _ => True) trivial fun _ _ => .inr trivial) fun later _ => ?_
  refine Fallible.Gated.andThen (Q := fun consumed : ℕ => consumed ≠ 1)
    (Fallible.gated_ask trivial fun consumed _ => ?_)
    fun consumed hconsumed => ?_
  · exact (em (consumed = 1)).imp_left fun h => ⟨rfl, h⟩
  · exact Fallible.Gated.andThen (Q := fun _ => False) (Fallible.gated_check hconsumed)
      fun _ h => h.elim

theorem gated_verifyRegistration (host : Host) (challengeId : ℕ)
    (response : Option RegistrationInfo) (choice : ℕ) (registered : Except Backend.Failure String) :
    (verifyRegistration host challengeId response choice registered).Gated FindsOwn
      (Ticket.challenge challengeId).Takes
      (Ticket.challenge challengeId).MayAsk fun _ => False :=
  Fallible.Gated.andThen (gated_consumeChallenge challengeId .registration) fun _ h => h.elim

theorem gated_verifyAuthentication (host : Host) (challengeId : ℕ) (credentialId : String)
    (assertion : Assertion) :
    (verifyAuthentication host challengeId credentialId assertion).Gated FindsOwn
      (Ticket.challenge challengeId).Takes
      (Ticket.challenge challengeId).MayAsk fun _ => False :=
  Fallible.Gated.andThen (gated_consumeChallenge challengeId .authentication) fun _ h => h.elim

/-- The refresh deletes the row it found, which is the one of its token. -/
theorem gated_refreshToken (token : ℕ) :
    (refreshToken token).Gated FindsOwn (Ticket.token token).Takes (Ticket.token token).MayAsk
      fun _ => False := by
  have hdelete : ∀ stored : RefreshToken, stored.token = token →
      (ask (.deleteToken stored.token)).Gated FindsOwn (Ticket.token token).Takes
        (Ticket.token token).MayAsk fun deleted => deleted = false := by
    intro stored hstored
    refine Fallible.gated_ask trivial fun deleted _ => ?_
    cases deleted with
    | true => exact .inl ⟨hstored, rfl⟩
    | false => exact .inr rfl
  unfold refreshToken
  refine Fallible.Gated.andThen
    (Q := fun found : Option RefreshToken => ∀ row ∈ found, row.token = token)
    (Fallible.gated_ask trivial fun found hfound => .inr hfound) fun found hfound => ?_
  refine Fallible.Gated.andThen
    (Fallible.gated_ask (Q := fun _ => True) trivial fun _ _ => .inr trivial) fun now _ => ?_
  refine Fallible.Gated.andThen (Q := fun stored : RefreshToken => stored.token = token)
    (Fallible.gated_checked fun stored hstored => hfound stored
      (CheckedOutcome.orError_eq_ok.mp hstored)) fun stored hstored => ?_
  split_ifs
  · refine Fallible.Gated.andThen (hdelete stored hstored) fun deleted hdeleted => ?_
    exact Fallible.Gated.andThen (Q := fun _ => False) (Fallible.gated_check (by simp [hdeleted]))
      fun _ h => h.elim
  · refine Fallible.Gated.andThen (hdelete stored hstored) fun deleted hdeleted => ?_
    exact Fallible.Gated.andThen (Q := fun _ => False) (Fallible.gated_check (by simp [hdeleted]))
      fun _ h => h.elim

theorem gated_program (host : Host) (op : Operation) :
    (op.program host).Gated FindsOwn op.Takes op.MayAsk fun _ => True := by
  have hticket : ∀ {ticket : Ticket} {x : Service (AccessToken × ℕ)}, op.ticket? = some ticket →
      x.Gated FindsOwn ticket.Takes ticket.MayAsk (fun _ => False) →
      (Fallible.dropResult x).Gated FindsOwn op.Takes op.MayAsk fun _ => True := by
    intro ticket x hop hx
    have htakes : op.Takes = ticket.Takes := by simp [Operation.Takes, hop, funext_iff]
    have hmay : op.MayAsk = ticket.MayAsk := by simp [Operation.MayAsk, hop, funext_iff]
    rw [htakes, hmay]
    exact hx.dropResult
  cases op with
  | verifyRegistration challengeId response choice registered =>
    exact hticket rfl (gated_verifyRegistration host challengeId response choice registered)
  | verifyAuthentication challengeId credentialId assertion =>
    exact hticket rfl (gated_verifyAuthentication host challengeId credentialId assertion)
  | refreshToken token => exact hticket rfl (gated_refreshToken token)
  | _ => exact Program.gated_any (fun _ _ h => nomatch h) (fun _ => trivial) _

end Gates

section Rows

variable {t : Tables} {id token : ℕ}

/-- The numbers of challenges and tokens are used up. -/
structure NumbersUsed (t : Tables) : Prop where
  challenges : ∀ row ∈ t.challenges.rows, row.id < t.nextId
  tokens : ∀ row ∈ t.tokens, row.token < t.nextId

/-- No challenge of this number is unused, and none will be. -/
structure Spent (id : ℕ) (t : Tables) : Prop where
  known : id < t.nextId
  used : ∀ row ∈ t.challenges.rows, row.id = id → row.usedAt ≠ none

/-- There is no token of this number, and there will be none. -/
structure Gone (token : ℕ) (t : Tables) : Prop where
  known : token < t.nextId
  absent : ∀ row ∈ t.tokens, row.token ≠ token

theorem nextId_carry (t : Tables) (r : Request) : t.nextId ≤ (carry t r).2.nextId := by
  cases r with
  | signJwt userId lifetime => exact Nat.le_succ _
  | createChallenge flow platformId userId expiresAt bearer => exact Nat.le_succ _
  | insertCredential lookupHash userId key encrypted =>
    simp only [carry]
    split
    · exact Nat.le_succ _
    · exact le_rfl
  | upsertCredential lookupHash userId key counter deviceType backedUp authenticated =>
    exact Nat.le_succ _
  | createToken userId expiresAt parent enrolment => exact Nat.le_succ _
  | _ => exact le_rfl

theorem mem_useChallenge {now : ℤ} {row : Challenge} :
    row ∈ (carry t (.useChallenge id now)).2.challenges.rows ↔
    ∃ old ∈ t.challenges.rows,
      (if old.id = id ∧ old.usedAt = none ∧ now < old.expiresAt then { old with usedAt := some now }
        else old) = row := by
  simp [carry, Keyed.mem_update]

/-- A challenge of the table was in it before, and is not unused again, or has a new number. -/
theorem challenges_carry (t : Tables) (r : Request) : ∀ row ∈ (carry t r).2.challenges.rows,
    (∃ old ∈ t.challenges.rows, old.id = row.id ∧ (row.usedAt = none → old.usedAt = none)) ∨
      row.id = t.nextId ∧ t.nextId < (carry t r).2.nextId := by
  intro row hrow
  cases r with
  | deleteExpired now => exact .inl ⟨row, (Keyed.mem_delete.mp hrow).1, rfl, fun h => h⟩
  | createChallenge flow platformId userId expiresAt bearer =>
    simp only [carry] at hrow
    cases hinsert : t.challenges.insert ⟨t.nextId, flow, platformId, userId, expiresAt, none⟩ with
    | none =>
      rw [hinsert] at hrow
      exact .inl ⟨row, hrow, rfl, fun h => h⟩
    | some challenges =>
      rw [hinsert] at hrow
      rcases (Keyed.mem_insert hinsert).mp hrow with hold | rfl
      · exact .inl ⟨row, hold, rfl, fun h => h⟩
      · exact .inr ⟨rfl, Nat.lt_succ_self _⟩
  | useChallenge id now =>
    obtain ⟨old, hold, rfl⟩ := mem_useChallenge.mp hrow
    refine .inl ⟨old, hold, ?_⟩
    split_ifs
    · exact ⟨rfl, fun h => h.elim⟩
    · exact ⟨rfl, fun h => h⟩
  | insertCredential lookupHash userId key encrypted =>
    simp only [carry] at hrow
    split at hrow
    · exact .inl ⟨row, hrow, rfl, fun h => h⟩
    · exact .inl ⟨row, hrow, rfl, fun h => h⟩
  | _ => exact .inl ⟨row, hrow, rfl, fun h => h⟩

/-- A token of the table was in it before or has a new number. -/
theorem tokens_carry (t : Tables) (r : Request) : ∀ row ∈ (carry t r).2.tokens,
    row ∈ t.tokens ∨ row.token = t.nextId ∧ t.nextId < (carry t r).2.nextId := by
  intro row hrow
  cases r with
  | createToken userId expiresAt parent enrolment =>
    rcases List.mem_cons.mp hrow with rfl | hrow
    · exact .inr ⟨rfl, Nat.lt_succ_self _⟩
    · exact .inl hrow
  | deleteToken token => exact .inl (List.mem_filter.mp hrow).1
  | deleteTokens token => exact .inl (List.mem_filter.mp hrow).1
  | deleteTokensOf userId => exact .inl (List.mem_filter.mp hrow).1
  | insertCredential lookupHash userId key encrypted =>
    simp only [carry] at hrow
    split at hrow
    · exact .inl hrow
    · exact .inl hrow
  | _ => exact .inl hrow

theorem NumbersUsed.step (h : NumbersUsed t) (r : Request) : NumbersUsed (carry t r).2 := by
  have hgrows := nextId_carry t r
  constructor
  · intro row hrow
    rcases challenges_carry t r row hrow with ⟨old, hold, hid, -⟩ | ⟨hid, hlt⟩
    · have := h.challenges old hold
      omega
    · omega
  · intro row hrow
    rcases tokens_carry t r row hrow with hold | ⟨htoken, hlt⟩
    · have := h.tokens row hold
      omega
    · omega

theorem Spent.step (h : Spent id t) (r : Request) : Spent id (carry t r).2 := by
  refine ⟨h.known.trans_le (nextId_carry t r), ?_⟩
  intro row hrow hid hunused
  rcases challenges_carry t r row hrow with ⟨old, hold, hsame, hback⟩ | ⟨hnew, -⟩
  · exact h.used old hold (hsame.trans hid) (hback hunused)
  · have := h.known
    omega

theorem Gone.step (h : Gone token t) (r : Request) : Gone token (carry t r).2 := by
  refine ⟨h.known.trans_le (nextId_carry t r), ?_⟩
  intro row hrow htoken
  rcases tokens_carry t r row hrow with hold | ⟨hnew, -⟩
  · exact h.absent row hold htoken
  · have := h.known
    omega

theorem usable_of_accepts {r : Request} (h : Accepts id r (carry t r).1) :
    ∃ now, r = .useChallenge id now ∧ ∃ row ∈ t.challenges.rows, row.id = id ∧ row.usedAt = none ∧
      now < row.expiresAt := by
  cases r with
  | useChallenge id' now =>
    obtain ⟨rfl, hcount⟩ := h
    have hpositive : 0 < t.challenges.rows.countP fun row => row.id = id' &&
        (row.usedAt = none && now < row.expiresAt) := by
      have hone : (t.challenges.rows.countP fun row => row.id = id' &&
          (row.usedAt = none && now < row.expiresAt)) = 1 := hcount
      omega
    obtain ⟨row, hrow, husable⟩ := List.countP_pos_iff.mp hpositive
    simp only [Bool.and_eq_true, decide_eq_true_eq] at husable
    exact ⟨now, rfl, row, hrow, husable⟩
  | _ => exact h.elim

/-- An accepted challenge is spent. -/
theorem spent_of_accepts (h : NumbersUsed t) {r : Request} (haccepts : Accepts id r (carry t r).1) :
    Spent id (carry t r).2 := by
  obtain ⟨now, rfl, row, hrow, rfl, hunused, hnow⟩ := usable_of_accepts haccepts
  refine ⟨h.challenges row hrow, ?_⟩
  intro row' hrow' hid
  obtain ⟨old, hold, rfl⟩ := mem_useChallenge.mp hrow'
  have hsame : old = row := by
    apply Keyed.eq_of_key hold hrow
    rw [← hid]
    split_ifs <;> rfl
  subst hsame
  simp [hunused, hnow]

/-- A spent challenge is not accepted. -/
theorem Spent.not_accepts (h : Spent id t) (r : Request) : ¬Accepts id r (carry t r).1 := by
  intro haccepts
  obtain ⟨now, -, row, hrow, hid, hunused, -⟩ := usable_of_accepts haccepts
  exact h.used row hrow hid hunused

theorem mem_of_redeems {r : Request} (h : Redeems token r (carry t r).1) :
    r = .deleteToken token ∧ ∃ row ∈ t.tokens, row.token = token := by
  cases r with
  | deleteToken token' =>
    obtain ⟨rfl, hdeleted⟩ := h
    obtain ⟨row, hrow, htoken⟩ := List.any_eq_true.mp hdeleted
    exact ⟨rfl, row, hrow, of_decide_eq_true htoken⟩
  | _ => exact h.elim

theorem gone_of_redeems (h : NumbersUsed t) {r : Request}
    (hredeems : Redeems token r (carry t r).1) :
    Gone token (carry t r).2 := by
  obtain ⟨rfl, row, hrow, rfl⟩ := mem_of_redeems hredeems
  refine ⟨h.tokens row hrow, ?_⟩
  intro row' hrow'
  exact of_decide_eq_true (List.mem_filter.mp hrow').2

theorem Gone.not_redeems (h : Gone token t) (r : Request) : ¬Redeems token r (carry t r).1 := by
  intro hredeems
  obtain ⟨-, row, hrow, htoken⟩ := mem_of_redeems hredeems
  exact h.absent row hrow htoken

theorem Gone.not_finds (h : Gone token t) (r : Request) : ¬Finds token r (carry t r).1 := by
  cases r with
  | findToken token' =>
    rintro ⟨rfl, hfound⟩
    obtain ⟨row, hrow⟩ := Option.isSome_iff_exists.mp hfound
    exact h.absent row (List.mem_of_find?_eq_some hrow)
      (of_decide_eq_true
        (List.find?_some (p := fun row : RefreshToken => decide (row.token = token')) hrow))
  | _ => exact id

end Rows

section Runs

variable {host : Host} {start : Tables} {tr : Trace Tables Operation Request Answer}
  {c : Config Tables Operation Request Answer}

abbrev PasskeyEvent := InterleavedPrograms.Event Operation Request Answer

/-- The step is a request with such an answer. -/
def Does (P : (r : Request) → Answer r → Prop) (e : PasskeyEvent) : Prop :=
  ∃ i r x, e = .performed i r x ∧ P r x

/-- The call makes a request from after the one that takes its ticket. -/
def GoesOn (t : Transition (Config Tables Operation Request Answer) PasskeyEvent) (i : ℕ)
    (op : Operation) : Prop :=
  ∃ r x stage, t.event = .performed i r x ∧ t.before.processes i = some ⟨op, stage⟩ ∧ ¬op.MayAsk r

def Ticket.Used : Ticket → Tables → Prop
  | challenge id => Spent id
  | token number => Gone number

theorem Ticket.Used.step {ticket : Ticket} {t : Tables} (h : ticket.Used t) (r : Request) :
    ticket.Used (carry t r).2 := by
  cases ticket with
  | challenge id => exact Spent.step h r
  | token number => exact Gone.step h r

theorem Ticket.used_of_takes {ticket : Ticket} {t : Tables} (h : NumbersUsed t) {r : Request}
    (htakes : ticket.Takes r (carry t r).1) : ticket.Used (carry t r).2 := by
  cases ticket with
  | challenge id => exact spent_of_accepts h htakes
  | token number => exact gone_of_redeems h htakes

theorem Ticket.Used.not_takes {ticket : Ticket} {t : Tables} (h : ticket.Used t) (r : Request) :
    ¬ticket.Takes r (carry t r).1 := by
  cases ticket with
  | challenge id => exact Spent.not_accepts h r
  | token number => exact Gone.not_redeems h r

/-- What every request keeps and no passing of time concerns, every step keeps. -/
theorem kept_of_step {I : Tables → Prop} (hcarry : ∀ t r, I t → I (carry t r).2)
    (hpass : ∀ t (n : ℕ), I t → I { t with now := t.now + n })
      {u v : Config Tables Operation Request Answer} {e : PasskeyEvent}
        (hstep : InterleavedPrograms.Step (passkeyService host).semantics u e v)
    (h : I u.state) : I v.state := by
  cases hstep with
  | start fresh may => exact h
  | @performed i op r x next s here done =>
    have hs : (carry u.state r).2 = s := congrArg Prod.snd done
    exact hs ▸ hcarry u.state r h
  | crash here may => exact may.elim
  | environment acts =>
    obtain ⟨n, hn⟩ := acts
    exact hn ▸ hpass u.state n h

theorem NumbersUsed.steps {u v : Config Tables Operation Request Answer} {e : PasskeyEvent}
    (h : NumbersUsed u.state)
    (hstep : InterleavedPrograms.Step (passkeyService host).semantics u e v) :
    NumbersUsed v.state :=
  kept_of_step (fun _ r ht => ht.step r) (fun _ _ ht => ⟨ht.challenges, ht.tokens⟩) hstep h

theorem Ticket.Used.steps {ticket : Ticket} {u v : Config Tables Operation Request Answer}
    {e : PasskeyEvent} (h : ticket.Used u.state)
    (hstep : InterleavedPrograms.Step (passkeyService host).semantics u e v) :
    ticket.Used v.state := by
  refine kept_of_step (fun _ r ht => ht.step r) (fun t n ht => ?_) hstep h
  cases ticket with
  | challenge id => exact ⟨ht.known, ht.used⟩
  | token number => exact ⟨ht.known, ht.absent⟩

/-- The answer of a step is that of the tables. -/
theorem carried_of_does {P : (r : Request) → Answer r → Prop}
    {u v : Config Tables Operation Request Answer} {e : PasskeyEvent}
    (hstep : InterleavedPrograms.Step (passkeyService host).semantics u e v) (hdoes : Does P e) :
    ∃ r, P r (carry u.state r).1 ∧ v.state = (carry u.state r).2 := by
  obtain ⟨i, r, x, rfl, hP⟩ := hdoes
  cases hstep with
  | @performed _ op _ _ next s here done =>
    have hdone : carry u.state r = (x, s) := done
    refine ⟨r, ?_, ?_⟩
    · rw [hdone]
      exact hP
    · rw [hdone]
      rfl

/-- After a step that takes the ticket, the ticket is used for good. -/
theorem used_after (hrun : (passkeyService host).Runs start tr c) (hstart : NumbersUsed start)
    (ticket : Ticket) :
    tr.Pairwise fun t t' => (Does ticket.Takes t.event → ticket.Used t'.before.state) ∧
      InterleavedPrograms.Step (passkeyService host).semantics t'.before t'.event t'.after := by
  refine Run.pairwise_fact (I := fun c => NumbersUsed c.state) hrun hstart ?_
    (fun t c => Does ticket.Takes t.event → ticket.Used c.state) ?_ ?_
  · exact fun u e v hu hstep => hu.steps hstep
  · intro u e v hu hstep hdoes
    obtain ⟨r, htakes, hv⟩ := carried_of_does hstep hdoes
    exact hv ▸ Ticket.used_of_takes hu htakes
  · exact fun t u e v hu hfact hstep hdoes => (hfact hdoes).steps hstep

theorem takes_once (hrun : (passkeyService host).Runs start tr c) (hstart : NumbersUsed start)
    (ticket : Ticket) :
    tr.Pairwise fun t t' => ¬(Does ticket.Takes t.event ∧ Does ticket.Takes t'.event) := by
  refine (used_after hrun hstart ticket).imp ?_
  rintro t t' ⟨hused, hstep⟩ ⟨hdoes, hdoes'⟩
  obtain ⟨r, htakes, -⟩ := carried_of_does hstep hdoes'
  exact (hused hdoes).not_takes r htakes

theorem passed_of_goesOn (hrun : (passkeyService host).Runs start tr c) {i : ℕ} {op : Operation}
    {t : Transition (Config Tables Operation Request Answer) PasskeyEvent} (ht : t ∈ tr)
    (h : GoesOn t i op) :
    ∃ tr₁ tr₂, tr = tr₁ ++ t :: tr₂ ∧ Passed tr₁ i op.Takes := by
  obtain ⟨r, x, stage, hevent, hproc, hbehind⟩ := h
  have hanswers : ∀ i op s r x s', (passkeyService host).semantics.perform i op s r x s' →
      FindsOwn r x := by
    intro i op s r x s' hdone
    have hcarry : carry s r = (x, s') := hdone
    have hown := findsOwn_carry s r
    rwa [hcarry] at hown
  exact passed_of_mem hrun hanswers (fun op _ => gated_program host op) ht hevent hproc hbehind

/-- The call that goes on is the one that took its ticket. -/
theorem same_call (hrun : (passkeyService host).Runs start tr c) (hstart : NumbersUsed start)
    {i j : ℕ} {op op' : Operation} {ticket : Ticket} (hop : op.ticket? = some ticket)
    (hop' : op'.ticket? = some ticket) (h : Passed tr i op.Takes) (h' : Passed tr j op'.Takes) :
    i = j := by
  obtain ⟨t, ht, r, x, hevent, ticket₁, hticket₁, htakes⟩ := h
  obtain ⟨t', ht', r', x', hevent', ticket₂, hticket₂, htakes'⟩ := h'
  obtain rfl := Option.some.inj (hop.symm.trans hticket₁)
  obtain rfl := Option.some.inj (hop'.symm.trans hticket₂)
  have hsymmetric : Std.Symm fun t t' :
      Transition (Config Tables Operation Request Answer) PasskeyEvent =>
      ¬(Does ticket.Takes t.event ∧ Does ticket.Takes t'.event) :=
        ⟨fun _ _ hnot hboth => hnot hboth.symm⟩
  by_contra hne
  have htt' : t ≠ t' := by
    rintro rfl
    rw [hevent] at hevent'
    exact hne (by injection hevent')
  exact (takes_once hrun hstart ticket).forall ht ht' htt' ⟨⟨i, r, x, hevent, htakes⟩,
    ⟨j, r', x', hevent', htakes'⟩⟩

/-- In every interleaving a challenge is accepted once at most and a refresh token redeemed once at
most; a call goes on only after its own acceptance or redemption, so no two calls go on with one
ticket; and a redeemed token is never found again. -/
theorem challenges_and_tokens_single_use (hrun : (passkeyService host).Runs start tr c)
    (hstart : NumbersUsed start) :
    (∀ ticket : Ticket, tr.Pairwise fun t t' => ¬(Does ticket.Takes t.event ∧
      Does ticket.Takes t'.event)) ∧
      (∀ t ∈ tr, ∀ i op, GoesOn t i op → ∃ tr₁ tr₂, tr = tr₁ ++ t :: tr₂ ∧ Passed tr₁ i op.Takes) ∧
      (∀ t ∈ tr, ∀ t' ∈ tr, ∀ i j op op' ticket,
        GoesOn t i op → GoesOn t' j op' → op.ticket? = some ticket →
        op'.ticket? = some ticket → i = j) ∧
      ∀ number, tr.Pairwise fun t t' => Does (Redeems number) t.event → ¬Does
        (Finds number) t'.event := by
  refine ⟨takes_once hrun hstart, ?_, ?_, ?_⟩
  · exact fun t ht i op h => passed_of_goesOn hrun ht h
  · intro t ht t' ht' i j op op' ticket h h' hop hop'
    have hpassed : ∀ {t i op}, t ∈ tr → GoesOn t i op → Passed tr i op.Takes := by
      intro t i op ht h
      obtain ⟨tr₁, tr₂, htr, hpassed⟩ := passed_of_goesOn hrun ht h
      exact htr ▸ hpassed.mono
    exact same_call hrun hstart hop hop' (hpassed ht h) (hpassed ht' h')
  · intro number
    refine (used_after hrun hstart (.token number)).imp ?_
    rintro t t' ⟨hused, hstep⟩ hdoes hfinds
    obtain ⟨r, hfound, -⟩ := carried_of_does hstep hfinds
    exact Gone.not_finds (hused hdoes) r hfound

end Runs

end VeriAgentPay.Passkeys

namespace VeriAgentPay.Devnet
open InterleavedPrograms KeyedTables Passkeys

/-- Alice enrols a passkey and refreshes her session; a second refresh with the same token is
refused. -/
def refreshTwice : List (Move Passkeys.Operation) :=
  enrolPhone ++ callOf 2 6 (.refreshToken 3) ++ callOf 3 2 (.refreshToken 3)

/-- The tokens that are left and the number of sessions. -/
def afterRefreshTwice : Option (List ℕ × ℕ) :=
  ((passkeyService passkeyHost).moves StoreService.anything
    (Config.initial noPasskeys) refreshTwice).map fun c =>
    (c.state.tokens.map RefreshToken.token, c.state.issued.length)

theorem challenges_and_tokens_single_use_devnet :
    ∃ tr c, (passkeyService passkeyHost).Runs noPasskeys tr c ∧
    (c.state.tokens.map RefreshToken.token, c.state.issued.length) = ([5], 2) ∧
    ∀ number, tr.Pairwise fun t t' => Does (Redeems number) t.event → ¬Does
      (Finds number) t'.event := by
  have hcomputed : afterRefreshTwice = some ([5], 2) := by decide +kernel
  obtain ⟨tr, c, hrun, -, -, hafter⟩ := StoreService.runs_of_computed hcomputed
  have hstart : NumbersUsed noPasskeys := ⟨fun _ h => (nomatch h), fun _ h => (nomatch h)⟩
  exact ⟨tr, c, hrun, hafter, (challenges_and_tokens_single_use hrun hstart).2.2.2⟩

end VeriAgentPay.Devnet
