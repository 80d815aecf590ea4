import VeriAgentPay.RedEnvelopes

/-!
# Retries of queued claims

A worker takes a pending row with a conditional update, claims the envelope of it and writes down
how that went. As every claim is refused, a retry always fails.
-/

namespace VeriAgentPay.ClaimRetries
open InterleavedPrograms KeyedTables RedEnvelopes SessionActions
open InterleavedPrograms.Fallible (checked check dropResult forEach)
open Backend (Failure outage)

section Queue

variable (wallet : String → Option String) (start : Tables)

def PaidTo (t : Tables) (envelopeId claimerAddress : String) : Prop :=
  ∃ payment ∈ t.paid,
    payment.envelopeId = envelopeId ∧ wallet claimerAddress = some payment.vault

def Recorded (t : Tables) (envelopeId claimerAddress : String) : Prop :=
  ∃ claim ∈ t.claims, claim.envelopeId = envelopeId ∧ claim.claimerAddress = claimerAddress

/-- The claim that a row stands for was executed and recorded. -/
def Settled (t : Tables) (payload : ClaimPayload) : Prop :=
  PaidTo wallet t payload.envelopeId payload.claimerAddress ∧
    Recorded t payload.envelopeId payload.claimerAddress

/-- Rows are taken that have an executor, and the answer is not lost; the failure of a retry is
written. -/
def retriesThrough : StoreService.Conditions Tables Operation Request where
  starts _ := True
  allows _ _ t
    | .take id fate => ∀ row ∈ t.pendingClaims.find? id, row.status = .pending →
        row.type = .envelopeClaim ∧ fate ≠ .lost
    | .updatePending _ status _ _ fate => status ≠ .completed → fate.carried
    | _ => True
  passes _ _ := True

/-- The invariant, with the row that each call has taken. -/
structure Queued (t : Tables) (H : ℕ → Option String) : Prop where
  kept : start.Kept t
  completed : ∀ row ∈ t.pendingClaims.rows, row.status = .completed →
    Settled wallet start row.payload
  processing : ∀ row ∈ t.pendingClaims.rows, row.status = .processing →
    ∃ i, t.taker? row.id = some i ∧ H i = some row.id

/-- No step takes a row away, or changes what it stands for. -/
def Onward (t t' : Tables) : Prop :=
  ∀ row ∈ t.pendingClaims.rows, ∃ row' ∈ t'.pendingClaims.rows,
    row'.id = row.id ∧ row'.type = row.type

def retryCustody : Custody Tables Operation Request Answer (Option String) where
  service := envelopeService wallet
  conditions := retriesThrough
  inv := Queued wallet start
  grows := Onward
  idle := none

variable {wallet start} {t : Tables} {H : ℕ → Option String} {i : ℕ} {id : String}
  {p : PendingClaim → Bool} {status : PendingStatus} {retries : Option ℕ}
  {errorMessage : Option String}

theorem Onward.refl (t : Tables) : Onward t t := fun row hrow => ⟨row, hrow, rfl, rfl⟩

theorem onward_updatePending : Onward t (t.updatePending p status retries errorMessage) := by
  intro row hrow
  refine ⟨_, (Keyed.mem_update (f := PendingClaim.finish status retries errorMessage)
    fun _ => rfl).mpr ⟨row, hrow, rfl⟩, ?_⟩
  split_ifs
  · exact ⟨rfl, rfl⟩
  · exact ⟨rfl, rfl⟩

theorem onward_take : Onward t (t.take i id) :=
  onward_updatePending (t := t) (p := PendingClaim.takeable id)

/-- A row after an update is one that was not matched, or one with the new status. -/
theorem of_mem_updatePending {row : PendingClaim}
    (hrow : row ∈ (t.updatePending p status retries errorMessage).pendingClaims.rows) :
    row ∈ t.pendingClaims.rows ∧ ¬p row ∨ ∃ old ∈ t.pendingClaims.rows, p old ∧
      row = old.finish status retries errorMessage :=
  Keyed.of_mem_update (f := PendingClaim.finish status retries errorMessage) (fun _ => rfl) hrow

/-- A worker takes a row. -/
theorem Queued.take (hinv : Queued wallet start t H) (hi : H i = none)
    (hcount : t.pendingClaims.count (PendingClaim.takeable id) ≠ 0) :
    Queued wallet start (t.take i id) (Function.update H i (some id)) := by
  obtain ⟨taken, htaken, htakeable⟩ := List.countP_pos_iff.mp (Nat.pos_of_ne_zero hcount)
  obtain ⟨hid, hpending⟩ := of_decide_eq_true htakeable
  have htakers : (t.take i id).takers = ⟨id, i⟩ :: t.takers := if_neg hcount
  refine ⟨⟨hinv.kept.envelopes, hinv.kept.claims, hinv.kept.paid⟩, ?_, ?_⟩
  · intro row hrow hcompleted
    rcases of_mem_updatePending hrow with ⟨hold, -⟩ | ⟨old, hold, -, rfl⟩
    · exact hinv.completed row hold hcompleted
    · cases hcompleted
  · intro row hrow hprocessing
    rcases of_mem_updatePending hrow with ⟨hold, -⟩ | ⟨old, hold, hp, rfl⟩
    · obtain ⟨j, htaker, hj⟩ := hinv.processing row hold hprocessing
      have hne : id ≠ row.id := by
        intro hsame
        rw [Keyed.eq_of_key hold htaken (hsame.symm.trans hid.symm), hpending] at hprocessing
        cases hprocessing
      refine ⟨j, ?_, ?_⟩
      · rw [Tables.taker?, htakers, List.find?_cons_of_neg (by simpa using hne)]
        exact htaker
      · rw [Function.update_of_ne]
        · exact hj
        · rintro rfl
          rw [hi] at hj
          cases hj
    · have hsame : old.id = id := (of_decide_eq_true hp).1
      refine ⟨i, ?_, ?_⟩
      · rw [Tables.taker?, htakers]
        simp [PendingClaim.finish, hsame]
      · rw [Function.update_self]
        exact congrArg some hsame.symm

/-- There is no row to take. -/
theorem Queued.takeNone (hinv : Queued wallet start t H)
    (hnone : t.pendingClaims.count (PendingClaim.takeable id) = 0) :
    Queued wallet start (t.take i id) H := by
  have htakers : (t.take i id).takers = t.takers := if_pos hnone
  have hrows : ∀ row ∈ (t.take i id).pendingClaims.rows, row ∈ t.pendingClaims.rows := by
    intro row hrow
    rcases of_mem_updatePending hrow with ⟨hold, -⟩ | ⟨old, hold, hp, -⟩
    · exact hold
    · exact absurd hp (List.countP_eq_zero.mp hnone old hold)
  refine ⟨⟨hinv.kept.envelopes, hinv.kept.claims, hinv.kept.paid⟩, ?_, ?_⟩
  · exact fun row hrow hcompleted => hinv.completed row (hrows row hrow) hcompleted
  · intro row hrow hprocessing
    rw [Tables.taker?, htakers]
    exact hinv.processing row (hrows row hrow) hprocessing

/-- The failure of a retry is written to the row that the worker holds. -/
theorem Queued.fail (hinv : Queued wallet start t H) (hi : H i = some id)
    (hstatus : status ≠ .processing ∧ status ≠ .completed) :
    Queued wallet start (t.updatePending (·.id = id) status retries errorMessage)
      (Function.update H i none) := by
  refine ⟨⟨hinv.kept.envelopes, hinv.kept.claims, hinv.kept.paid⟩, ?_, ?_⟩
  · intro row hrow hcompleted
    rcases of_mem_updatePending hrow with ⟨hold, -⟩ | ⟨old, hold, -, rfl⟩
    · exact hinv.completed row hold hcompleted
    · exact absurd hcompleted hstatus.2
  · intro row hrow hprocessing
    rcases of_mem_updatePending hrow with ⟨hold, hother⟩ | ⟨old, hold, -, rfl⟩
    · obtain ⟨j, htaker, hj⟩ := hinv.processing row hold hprocessing
      refine ⟨j, htaker, ?_⟩
      rw [Function.update_of_ne]
      · exact hj
      · rintro rfl
        rw [hi] at hj
        exact hother (decide_eq_true (Option.some.inj hj).symm)
    · exact absurd hprocessing hstatus.1

/-- What a worker has read of a row that it does not change. -/
def Known (item : PendingClaim) (t : Tables) : Prop :=
  ∃ row ∈ t.pendingClaims.rows, row.id = item.id ∧ row.type = item.type

theorem stable_known (item : PendingClaim) : (retryCustody wallet start).Stable (Known item) := by
  rintro t t' hgrows ⟨row, hrow, hid, htype⟩
  obtain ⟨row', hrow', hid', htype'⟩ := hgrows row hrow
  exact ⟨row', hrow', hid'.trans hid, htype'.trans htype⟩

theorem Known.type {item row : PendingClaim} (hknown : Known item t)
    (hrow : row ∈ t.pendingClaims.rows) (hid : row.id = item.id) : row.type = item.type := by
  obtain ⟨row', hrow', hid', htype⟩ := hknown
  rw [Keyed.eq_of_key hrow hrow' (hid.trans hid'.symm)]
  exact htype

end Queue

section Workers

variable {wallet : String → Option String} {start t : Tables} {H : ℕ → Option String} {i : ℕ}
  {op : Operation} {held : Option String} {fate : Fate} {item : PendingClaim}

/-- A claim of an envelope leaves the queue alone, and does not succeed. -/
theorem keeps_claimEnvelope (id claimerAddress : String) (turns : Turns) :
    (retryCustody wallet start).Keeps i op (claimEnvelope wallet id claimerAddress turns)
      (fun _ => True) held (fun _ _ => False) fun _ => True := by
  refine Custody.keeps_limited (refused_claimEnvelope id claimerAddress) ?_
  intro t H r hearly hinv _
  show Answered r (carry i t r).1 ∧ Onward t (carry i t r).2 ∧
    Queued wallet start (carry i t r).2 H
  rw [carry_early i t hearly]
  exact ⟨answered_carry i t r, Onward.refl t, hinv⟩

/-- A row that can be taken has an executor, and the answer comes. -/
theorem type_of_takeable (hknown : Known item t)
    (hallows : retriesThrough.allows i op t (.take item.id fate))
    (hcount : t.pendingClaims.count (PendingClaim.takeable item.id) ≠ 0) :
    item.type = .envelopeClaim ∧ fate ≠ .lost := by
  obtain ⟨row, hrow, htakeable⟩ := List.countP_pos_iff.mp (Nat.pos_of_ne_zero hcount)
  obtain ⟨hid, hpending⟩ := of_decide_eq_true htakeable
  have hfind : t.pendingClaims.find? item.id = some row := Keyed.find?_eq_some.mpr ⟨hrow, hid⟩
  rw [← hknown.type hrow hid]
  exact hallows row hfind hpending

/-- What a worker holds after it has tried to take a row. -/
def afterTake (id : String) : Except Failure ℕ → Option String
  | .ok 0 => none
  | .ok (_ + 1) => some id
  | .error _ => none

theorem upholds_take {E : Tables → Option String → Prop} :
    (retryCustody wallet start).Upholds i op (ask (.take item.id fate)) (Known item) none
      (fun result t held => held = afterTake item.id result ∧ Known item t ∧
        ∀ n, result = .ok (n + 1) → item.type = .envelopeClaim) E := by
  refine Custody.Upholds.ask (D := retryCustody wallet start) (r := .take item.id fate)
    (S := fun (result : Except Failure ℕ) t =>
      Known item t ∧ ∀ n, result = .ok (n + 1) → item.type = .envelopeClaim)
    (afterTake item.id) ?_ ?_
  · exact fun result => (stable_known item).and (Custody.stable_const _)
  intro t H hinv hknown hi hallows
  have hinv : Queued wallet start t H := hinv
  have hkept : Function.update H i none = H := by
    rw [← hi]
    exact Function.update_eq_self i H
  have hstable : (retryCustody wallet start).Stable (Known item) := stable_known item
  have hafter : Known item (t.take i item.id) := hstable t _ onward_take hknown
  cases fate with
  | refused =>
    refine ⟨Onward.refl t, ?_, hknown, fun _ hok => nomatch hok⟩
    show Queued wallet start t (Function.update H i none)
    exact hkept.symm ▸ hinv
  | lost =>
    have hnone : t.pendingClaims.count (PendingClaim.takeable item.id) = 0 := by
      by_contra hcount
      exact (type_of_takeable hknown hallows hcount).2 rfl
    refine ⟨onward_take, ?_, hafter, fun _ hok => nomatch hok⟩
    show Queued wallet start _ (Function.update H i none)
    exact hkept.symm ▸ hinv.takeNone hnone
  | answered =>
    refine ⟨onward_take, ?_, hafter, ?_⟩
    · show Queued wallet start (t.take i item.id) (Function.update H i
        (afterTake item.id (.ok (t.pendingClaims.count (PendingClaim.takeable item.id)))))
      cases hcount : t.pendingClaims.count (PendingClaim.takeable item.id) with
      | zero => exact hkept.symm ▸ hinv.takeNone hcount
      | succ n => exact hinv.take hi (by omega)
    · intro n hok
      have hcount : t.pendingClaims.count (PendingClaim.takeable item.id) = n + 1 :=
        Except.ok.inj hok
      exact (type_of_takeable hknown hallows (by omega)).1

theorem upholds_failItem {message : String} {w : WorkerTurns} :
    (retryCustody wallet start).Upholds i op (failItem item message w) (fun _ => True)
      (some item.id) (fun _ _ held => held = none) fun _ held => held = none := by
  refine Custody.Upholds.bind (S := fun _ _ (held : Option String) => held = none) ?_
    fun failed held => Custody.Upholds.checked (fun _ _ _ hs => hs) fun _ _ _ hs => hs
  refine Custody.Upholds.handOver none ?_
  intro t H hinv _ hi hallows
  have hinv : Queued wallet start t H := hinv
  generalize hstatus : (if 3 ≤ item.retries + 1 then PendingStatus.failed else .pending) = status
    at hallows
  have hnot : status ≠ .processing ∧ status ≠ .completed := by
    rw [← hstatus]
    split_ifs
    · exact ⟨nofun, nofun⟩
    · exact ⟨nofun, nofun⟩
  have hcarried : (w.failing item.id).carried := hallows hnot.2
  have hcarry : (carry i t (.updatePending item.id status (some (item.retries + 1)) (some message)
      (w.failing item.id))).2 = t.updatePending (·.id = item.id) status (some (item.retries + 1))
        (some message) := if_pos hcarried
  show Onward t (carry i t _).2 ∧ Queued wallet start (carry i t _).2 (Function.update H i none)
  rw [hcarry]
  exact ⟨onward_updatePending, hinv.fail hi hnot⟩

/-- The retry of a row that was taken fails, and that is written to the row. -/
theorem upholds_processTaken (htype : item.type = .envelopeClaim) (w : WorkerTurns) :
    (retryCustody wallet start).Upholds i op (processTaken wallet item w) (fun _ => True)
      (some item.id) (fun _ _ held => held = none) fun _ held => held = none := by
  refine Custody.Upholds.tryCatch (E := fun _ held => held = some item.id) ?_ fun err held => ?_
  · unfold completeItem retryClaim
    rw [htype]
    refine Custody.Keeps.andThen (keeps_claimEnvelope item.payload.envelopeId
      item.payload.claimerAddress (w.turns item.id)) (fun _ => ?_) fun _ _ => rfl
    exact Custody.Upholds.given (fun _ hs => hs) fun hnever => hnever.elim
  · refine Custody.Upholds.given (fun _ hs => hs) ?_
    rintro rfl
    exact upholds_failItem.knowing fun _ _ => trivial

theorem keeps_processItem (w : WorkerTurns) :
    (retryCustody wallet start).Keeps i op (processItem wallet w item) (Known item) none
      (fun _ _ => True) fun _ => True := by
  refine Custody.Upholds.bind upholds_take fun taken held => ?_
  cases taken with
  | error e =>
    exact Custody.Upholds.checked (fun _ _ hok => nomatch hok) fun _ _ _ hs => ⟨hs.1, trivial⟩
  | ok n =>
    cases n with
    | zero => exact Custody.Upholds.pure fun _ hs => ⟨hs.1, trivial⟩
    | succ n =>
      refine Custody.Upholds.given (fun _ hs => And.intro hs.1 (hs.2.2 n rfl)) ?_
      rintro ⟨rfl, htype⟩
      exact (upholds_processTaken htype w).weaken (fun _ _ => trivial)
        (fun _ _ _ hs => ⟨hs, trivial⟩) fun _ _ hs => ⟨hs, trivial⟩

theorem heeds_processPendingClaims (w : WorkerTurns) :
    (retryCustody wallet start).Heeds i op (processPendingClaims wallet w) none := by
  unfold processPendingClaims
  split_ifs
  · exact Custody.Heeds.pure
  · refine Custody.Keeps.andThen (F := fun _ => True)
      (Custody.Keeps.read (D := retryCustody wallet start) (r := .findPending)
        (S := fun items t => ∀ item ∈ items, Known item t) Onward.refl (fun _ => rfl) ?_ ?_)
      (fun items => ?_) fun _ _ => ⟨rfl, trivial⟩
    · exact fun items t t' hgrows hknown item hitem =>
        stable_known item t t' hgrows (hknown item hitem)
    · intro t _ _ _ item hitem
      exact ⟨item, List.mem_of_mem_filter (List.mem_of_mem_take hitem), rfl, rfl⟩
    · have hstable : (retryCustody wallet start).Stable fun t => ∀ item ∈ items, Known item t :=
        fun t t' hgrows hknown item hitem => stable_known item t t' hgrows (hknown item hitem)
      refine (Custody.Keeps.forEach (F := fun _ => True) fun item hitem => ?_).weaken
        (fun _ hs => hs) (fun _ _ _ hs => ⟨hs.1, trivial⟩) fun _ _ hs => hs
      refine ((keeps_processItem w).frame hstable).weaken (fun _ hs => ⟨hs item hitem, hs⟩) ?_ ?_
      · exact fun _ _ _ hs => ⟨hs.1.1, hs.2⟩
      · exact fun _ _ hs => hs.1

theorem retryCustody_ends (i : ℕ) (op : Operation) :
    (retryCustody wallet start).Ends i op (op.program wallet) := by
  cases op with
  | claimEnvelope id claimerAddress turns =>
    exact ((keeps_claimEnvelope id claimerAddress turns).heeds fun _ => trivial).ends
  | processPendingClaims w => exact Custody.Heeds.ends (heeds_processPendingClaims w)

theorem retryCustody_kept : (retryCustody wallet start).Kept where
  refl := Onward.refl
  programs i op _ := (retryCustody_ends i op).plays
  passes _ t _ hinv _ := ⟨Onward.refl t, hinv⟩

end Workers

section Takers

variable {wallet : String → Option String}

/-- Only workers take rows. -/
def MayTake (op : Operation) (r : Request) : Prop :=
  (∃ id fate, r = .take id fate) → ∃ w, op = .processPendingClaims w

theorem asks_recordPendingClaim (id claimerAddress errorMsg : String) (payload : ClaimPayload)
    (fate : Fate) : (recordPendingClaim id claimerAddress errorMsg payload fate).run.Asks
      (fun r => ¬∃ id fate, r = .take id fate) fun _ _ => True :=
  Fallible.asks_ignoringFailure (Fallible.asks_andThen (Fallible.asks_ask nofun) fun _ =>
    Fallible.asks_checked _)

theorem asks_settleClaim (envelope : RedEnvelope) (claim : EnvelopeClaim) (turns : Turns) :
    (settleClaim wallet envelope claim turns).run.Asks (fun r => ¬∃ id fate, r = .take id fate)
      fun _ _ => True := by
  refine Fallible.asks_andThen ?_ fun claimTxHash => ?_
  · refine Fallible.asks_tryCatch ?_ fun _ => Fallible.asks_checked _
    refine Fallible.asks_andThen (Fallible.asks_checked _) fun _ => ?_
    refine Fallible.asks_andThen (Fallible.asks_checked _) fun onChainId => ?_
    refine Fallible.asks_andThen (Fallible.asks_checked _) fun _ => ?_
    refine Fallible.asks_andThen (Fallible.asks_checked _) fun vault => ?_
    refine Fallible.asks_andThen (Fallible.asks_ask nofun) fun _ => ?_
    refine Fallible.asks_andThen (Fallible.asks_checked _) fun claimerWalletAddress => ?_
    refine Fallible.asks_andThen (Fallible.asks_checked _) fun _ => ?_
    refine Fallible.asks_andThen (Fallible.asks_ask nofun) fun _ => ?_
    exact Fallible.asks_andThen (Fallible.asks_checked _) fun _ => Fallible.asks_checked _
  · refine Fallible.asks_tryCatch ?_ fun _ => asks_recordPendingClaim _ _ _ _ _
    refine Fallible.asks_andThen (Fallible.asks_ask nofun) fun _ => ?_
    refine Fallible.asks_andThen (Fallible.asks_checked _) fun _ => ?_
    exact Fallible.asks_andThen (Fallible.asks_ask nofun) fun _ => Fallible.asks_checked _

theorem asks_claimEnvelope (id claimerAddress : String) (turns : Turns) :
    (claimEnvelope wallet id claimerAddress turns).run.Asks
      (fun r => ¬∃ id fate, r = .take id fate) fun _ _ => True := by
  refine Fallible.asks_andThen ?_ fun envelope => ?_
  · refine Fallible.asks_andThen (Fallible.asks_ask nofun) fun found => ?_
    exact Fallible.asks_andThen (Fallible.asks_checked _) fun _ => Fallible.asks_pure _
  · refine Fallible.asks_checkThen fun _ => ?_
    refine Fallible.asks_checkThen fun _ => ?_
    exact Fallible.asks_checkThen fun _ => asks_settleClaim _ _ _

theorem asks_mayTake (op : Operation) :
    (op.program wallet).Asks (MayTake op) fun _ _ => True := by
  cases op with
  | claimEnvelope id claimerAddress turns =>
    exact (Fallible.asks_dropResult (asks_claimEnvelope id claimerAddress turns)).mono
      fun r hnot htake => absurd htake hnot
  | processPendingClaims w => exact (Program.asks_any _).mono fun _ _ _ => ⟨w, rfl⟩

theorem takers_carry (i : ℕ) (t : Tables) (r : Request) :
    (carry i t r).2.takers = t.takers ∨
      ∃ id fate, r = .take id fate ∧ (carry i t r).2.takers = ⟨id, i⟩ :: t.takers := by
  cases r with
  | findUnique | ensureVaultDeployed | findPending | executeLocalSessionAction => exact .inl rfl
  | createClaim claim fate | updatePending _ _ _ _ fate =>
    cases hcarried :
      fate.carried <;> simp [carry, hcarried, Tables.createClaim, Tables.updatePending]
  | updateEnvelope envelope claim fate =>
    cases hcarried : fate.carried <;> simp [carry, hcarried, Tables.updateEnvelope]
  | createPending row fate =>
    left
    unfold carry
    dsimp only
    split
    · rfl
    · split_ifs
      · rfl
      · rfl
  | take id fate =>
    unfold carry Tables.take
    dsimp only
    split_ifs
    · exact .inl rfl
    · exact .inr ⟨id, fate, rfl, rfl⟩
    · exact .inl rfl

end Takers

section Runs

/-- What is completed was executed and recorded, nothing is executed again, and a row in process was
taken by a worker that is under way. -/
structure QueueSettled (wallet : String → Option String) (start : Tables)
    (c : Config Tables Operation Request Answer) : Prop where
  completed : ∀ row ∈ c.state.pendingClaims.rows, row.status = .completed →
    Settled wallet c.state row.payload
  once : c.state.paid = start.paid
  processing : ∀ row ∈ c.state.pendingClaims.rows, row.status = .processing →
    ∃ i w r next, c.state.taker? row.id = some i ∧
      c.processes i = some ⟨.processPendingClaims w, .running (.ask r next)⟩

variable {wallet : String → Option String} {start t : Tables}
  {tr : Trace Tables Operation Request Answer} {c : Config Tables Operation Request Answer}

theorem Settled.kept {payload : ClaimPayload} (hkept : start.Kept t)
    (hsettled : Settled wallet start payload) : Settled wallet t payload := by
  unfold Settled PaidTo Recorded at hsettled ⊢
  rwa [hkept.paid, hkept.claims]

/-- A row was taken by a worker. -/
theorem worker_of_taker (htakers : start.takers = [])
    (hrun : (envelopeService wallet).Runs start tr c) {taker : Taker}
    (htaker : taker ∈ c.state.takers) :
    ∃ w stage, c.processes taker.call = some ⟨.processPendingClaims w, stage⟩ := by
  have hlogged := StoreService.logged_of_run (C := StoreService.anything)
    Tables.takers Taker.call
    (P := fun _ op => ∃ w, op = Operation.processPendingClaims w) (Q := MayTake) hrun
    (fun _ _ => StoreService.meets_anything _) ?_ htakers ?_ (fun _ _ => rfl) taker htaker
  · obtain ⟨op, stage, hprocess, w, rfl⟩ := hlogged
    exact ⟨w, stage, hprocess⟩
  · exact fun op _ => asks_mayTake op
  · intro i op t r hmay entry hentry
    rcases takers_carry i t r with hsame | ⟨id, fate, hr, hnew⟩
    · exact .inl (hsame ▸ hentry)
    · have hentry : entry ∈ (carry i t r).2.takers := hentry
      rw [hnew] at hentry
      rcases List.mem_cons.mp hentry with rfl | hold
      · exact .inr ⟨rfl, hmay ⟨id, fate, hr⟩⟩
      · exact .inl hold

/-- Claims and workers in any interleaving, as long as rows with an executor are taken and the
answers that count are written. -/
theorem queue_settled
    (hcompleted : ∀ row ∈ start.pendingClaims.rows, row.status = .completed →
      Settled wallet start row.payload)
    (hidle : ∀ row ∈ start.pendingClaims.rows, row.status ≠ .processing)
    (htakers : start.takers = []) (hrun : (envelopeService wallet).Runs start tr c)
    (hmeets : ∀ t ∈ tr, StoreService.Meets retriesThrough t) : QueueSettled wallet start c := by
  have hstart : Queued wallet start start fun _ => none :=
    ⟨⟨rfl, rfl, rfl⟩, hcompleted, fun row hrow hprocessing => absurd hprocessing (hidle row hrow)⟩
  obtain ⟨H, hfinish, hholder⟩ :=
    retryCustody_kept.holder (fun i op _ => retryCustody_ends i op) hrun hmeets hstart
  have hfinish : Queued wallet start c.state H := hfinish
  refine ⟨?_, hfinish.kept.paid, fun row hrow hprocessing => ?_⟩
  · exact fun row hrow hstatus => (hfinish.completed row hrow hstatus).kept hfinish.kept
  · obtain ⟨i, htaker, hi⟩ := hfinish.processing row hrow hprocessing
    obtain ⟨op, r, next, hprocess⟩ := hholder i (by rw [hi]; exact Option.some_ne_none _)
    obtain ⟨taker, hfound, rfl⟩ := Option.map_eq_some_iff.mp htaker
    obtain ⟨w, stage, hworker⟩ := worker_of_taker htakers hrun (List.mem_of_find?_eq_some hfound)
    rw [hprocess] at hworker
    obtain ⟨rfl, -⟩ := Process.mk.inj (Option.some.inj hworker)
    exact ⟨taker.call, w, r, next, htaker, hprocess⟩

end Runs

end VeriAgentPay.ClaimRetries

namespace VeriAgentPay.Devnet
open InterleavedPrograms RedEnvelopes ClaimRetries

/-- Ben's claim is queued. -/
def queuedClaim (type : ClaimType) (status : PendingStatus) (retries : ℕ) (message : String) :
    PendingClaim :=
  ⟨"claim-0", "ben", type, ⟨"env", "ben", "0xOld"⟩, status, retries, some message⟩

def queueTables (type : ClaimType) : RedEnvelopes.Tables :=
  { giftTables with
    pendingClaims := ⟨[queuedClaim type .pending 0 "timeout"], List.nodup_singleton _⟩ }

/-- A worker that finds everything there. -/
def retryWorker : RedEnvelopes.Operation :=
  .processPendingClaims
    { isLow := false
      taking := fun _ => .answered
      turns := fun _ => giftTurns "vault-ben"
      completing := fun _ => .answered
      failing := fun _ => .answered }

def runWorker (i n : ℕ) : List (Move RedEnvelopes.Operation) :=
  .start i retryWorker :: List.replicate n (.step i)

theorem queue_computed :
    ((envelopeService giftVault).moves StoreService.anything
      (Config.initial (queueTables .airdropClaim)) (runWorker 0 3)).map
        (fun c => (c.state.paid, c.state.pendingClaims.rows)) =
      some ([], [queuedClaim .airdropClaim .completed 0 "timeout"]) ∧
    (((envelopeService giftVault).moves StoreService.anything
        (Config.initial (queueTables .envelopeClaim)) (runWorker 0 2 ++ runWorker 1 0)).bind
          fun c => ((envelopeService giftVault).move StoreService.anything c (.step 1)).map
            fun c' => (c.finished 1, c.state.pendingClaims.rows, c'.finished 1,
              c'.state.pendingClaims.rows)) =
      some (false, [queuedClaim .envelopeClaim .processing 0 "timeout"], true,
        [queuedClaim .envelopeClaim .processing 0 "timeout"]) := by
  refine ⟨?_, ?_⟩ <;> decide +kernel

/-- A row that nobody executes is completed; and a row that a stopped worker has left is not seen by
a later run. -/
theorem queue_unsettled :
    (∃ tr c, (envelopeService giftVault).Runs (queueTables .airdropClaim) tr c ∧
      ∃ row ∈ c.state.pendingClaims.rows, row.status = .completed ∧
        ¬PaidTo giftVault c.state row.payload.envelopeId row.payload.claimerAddress) ∧
    ∃ tr c, (envelopeService giftVault).Runs (queueTables .envelopeClaim) tr c ∧
      ∃ t ∈ tr, t.before.finished 1 = false ∧
        t.before.state.pendingClaims.rows = [queuedClaim .envelopeClaim .processing 0 "timeout"] ∧
        t.after.finished 1 = true ∧
        t.after.state.pendingClaims.rows =
          [queuedClaim .envelopeClaim .processing 0 "timeout"] := by
  obtain ⟨hairdrop, hleft⟩ := queue_computed
  constructor
  · obtain ⟨tr, c, hrun, -, -, hfacts⟩ := StoreService.runs_of_computed hairdrop
    simp only [Prod.mk.injEq] at hfacts
    obtain ⟨hpaid, hrows⟩ := hfacts
    refine ⟨tr, c, hrun, queuedClaim .airdropClaim .completed 0 "timeout", ?_, rfl, ?_⟩
    · rw [hrows]
      exact List.mem_cons_self
    · rintro ⟨payment, hpayment, -⟩
      rw [hpaid] at hpayment
      cases hpayment
  · obtain ⟨tr, c, e, c', hrun, -, hfacts⟩ := StoreService.runs_of_last hleft
    simp only [Prod.mk.injEq] at hfacts
    exact ⟨_, _, hrun, _, List.mem_append_right _ List.mem_cons_self, hfacts⟩

instance : DecidablePred retriesThrough.starts := fun _ => inferInstanceAs (Decidable True)
instance (i : ℕ) (op : RedEnvelopes.Operation) (t : RedEnvelopes.Tables)
    (r : RedEnvelopes.Request) : Decidable (retriesThrough.allows i op t r) :=
  match r with
  | .take id fate =>
    inferInstanceAs (Decidable (∀ row ∈ t.pendingClaims.find? id, row.status = .pending →
      row.type = .envelopeClaim ∧ fate ≠ .lost))
  | .updatePending _ status _ _ fate =>
    inferInstanceAs (Decidable (status ≠ .completed → fate.carried))
  | .findUnique .. | .ensureVaultDeployed .. | .executeLocalSessionAction .. | .createClaim ..
  | .updateEnvelope .. | .createPending .. | .findPending .. => .isTrue trivial
instance (t t' : RedEnvelopes.Tables) : Decidable (retriesThrough.passes t t') := .isTrue trivial

def refusal : String :=
  "This feature has not yet been routed to its native Solana instruction."

/-- Two workers meet the same row, and Dan claims between them; then a third has taken it. -/
theorem queue_worked : ((envelopeService giftVault).moves retriesThrough
    (Config.initial (queueTables .envelopeClaim))
    (runWorker 0 1 ++ runWorker 1 2 ++ openGift 2 3 "dan" ++ [.step 0] ++
      List.replicate 4 (.step 1) ++ runWorker 3 2)).map (fun c => c.state.pendingClaims.rows) =
      some [queuedClaim .envelopeClaim .processing 1 refusal] := by
  decide +kernel

theorem queue_settled_devnet :
    ∃ tr c, (envelopeService giftVault).Runs (queueTables .envelopeClaim) tr c ∧
      QueueSettled giftVault (queueTables .envelopeClaim) c ∧
      c.state.pendingClaims.rows = [queuedClaim .envelopeClaim .processing 1 refusal] := by
  obtain ⟨tr, c, hrun, hmeets, -, hfacts⟩ := StoreService.runs_of_computed queue_worked
  have hcompleted : ∀ row ∈ (queueTables .envelopeClaim).pendingClaims.rows,
      row.status = .completed → Settled giftVault (queueTables .envelopeClaim) row.payload := by
    intro row hrow hstatus
    obtain rfl := List.mem_singleton.mp hrow
    cases hstatus
  have hidle : ∀ row ∈ (queueTables .envelopeClaim).pendingClaims.rows,
      row.status ≠ .processing := by decide
  exact ⟨tr, c, hrun, queue_settled hcompleted hidle rfl hrun hmeets, hfacts⟩

end VeriAgentPay.Devnet
