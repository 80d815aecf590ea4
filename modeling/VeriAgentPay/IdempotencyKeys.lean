import VeriAgentPay.BackendStore
import VeriAgentPay.RecordedReplies

/-!
# Idempotency keys

A request presents a key. The key is looked up and, when there is no entry for it, an entry with a
time to live is made and the caller is told that the key is new.
-/

namespace VeriAgentPay.IdempotencyKeys
open InterleavedPrograms
open InterleavedPrograms.Fallible (forEach)
open Backend (Failure outage)

section Model

def IDEM_PREFIX : String := "hotstate:idem:"

/-- The result of a request as JSON, once there is one. -/
structure Entry where
  result : Option String
  expiresAt : ℕ
  deriving DecidableEq

/-- Of the history: a call's look at a key that found nothing, and the writes to the key until
then. -/
structure Miss where
  name : String
  time : ℕ
  writes : ℕ
  deriving DecidableEq

/-- Of the history: the entry that the check of a caller made. -/
structure Told where
  caller : ℕ
  name : String
  presentedAt : ℕ
  recordedAt : ℕ
  ttlMs : ℕ
  deriving DecidableEq

/-- The entries of Redis by their names, and of the history the writes to each name, the looks of
the calls and the entries that checks made. -/
structure Store where
  now : ℕ
  entries : String → Option Entry
  writes : String → ℕ
  misses : ℕ → Option Miss
  told : List Told

/-- An entry whose time to live is over is not there. -/
def Store.live (s : Store) (name : String) : Option Entry :=
  (s.entries name).filter fun entry => s.now < entry.expiresAt

def Store.write (s : Store) (name : String) (entry : Option Entry) : Store :=
  { s with
    entries := Function.update s.entries name entry
    writes := Function.update s.writes name (s.writes name + 1) }

def Store.miss (s : Store) (i : ℕ) (name : String) : Store :=
  { s with misses := Function.update s.misses i (some ⟨name, s.now, s.writes name⟩) }

/-- The key was presented when the call looked for it. -/
def Store.tell (s : Store) (i : ℕ) (name : String) (ttlMs : ℕ) : Store :=
  { s with told := ⟨i, name, (s.misses i).elim s.now Miss.time, s.now, ttlMs⟩ :: s.told }

inductive Request where
  | getJson (name : String) (fate : Fate)
  | setJson (name : String) (result : Option String) (ttlMs : ℕ) (fate : Fate)
  | del (names : List String) (fate : Fate)

abbrev Answer : Request → Type
  | .getJson _ _ => Except Failure (Option (Option String))
  | .setJson _ _ _ _ | .del _ _ => Except Failure Unit

abbrev Service (α : Type) := Fallible Failure Request Answer α

abbrev ask (r : Request) : Service (Answer r) := Fallible.ask r

structure Reply where
  isDuplicate : Bool
  cachedResult : Option String
  deriving DecidableEq

/-- Each operation with how its requests end. -/
inductive Operation where
  | checkAndSetIdempotencyKey (key : String) (ttlSeconds : ℕ) (get set : Fate)
  | saveIdempotencyResult (key result : String) (get set : Fate)
  /-- A replica starts: `delByPrefix('hotstate:')` deletes the names page by page. -/
  | onModuleInit (pages : List (List String × Fate))
  deriving DecidableEq

def checkAndSetIdempotencyKey (key : String) (ttlSeconds : ℕ) (get set : Fate) : Service Reply := do
  let existing ← ask (.getJson (IDEM_PREFIX ++ key) get)
  match ← Fallible.checked existing with
  | some result => pure ⟨true, result⟩
  | none =>
    let written ← ask (.setJson (IDEM_PREFIX ++ key) none (ttlSeconds * 1000) set)
    Fallible.checked written
    pure ⟨false, none⟩

/-- Both branches write the same. -/
def saveIdempotencyResult (key result : String) (get set : Fate) : Service Unit := do
  let existing ← ask (.getJson (IDEM_PREFIX ++ key) get)
  match ← Fallible.checked existing with
  | some _ =>
    let written ← ask (.setJson (IDEM_PREFIX ++ key) (some result) 300000 set)
    Fallible.checked written
  | none =>
    let written ← ask (.setJson (IDEM_PREFIX ++ key) (some result) 300000 set)
    Fallible.checked written

def delByPrefix (pages : List (List String × Fate)) : Service Unit :=
  forEach (fun page => do
    let deleted ← ask (.del page.1 page.2)
    Fallible.checked deleted) pages

/-- A call with its reply, if it is a check. -/
def call : Operation → Service (Option Reply)
  | .checkAndSetIdempotencyKey key ttlSeconds get set => do
    let reply ← checkAndSetIdempotencyKey key ttlSeconds get set
    pure (some reply)
  | .saveIdempotencyResult key result get set => do
    saveIdempotencyResult key result get set
    pure none
  | .onModuleInit pages => do
    delByPrefix pages
    pure none

def program (op : Operation) : Program Request Answer Unit := Fallible.dropResult (call op)

def Operation.isCheck : Operation → Bool
  | checkAndSetIdempotencyKey .. => true
  | _ => false

/-- Redis refuses a time to live of zero. -/
def carry (i : ℕ) (op : Operation) (s : Store) : (r : Request) → Answer r × Store
  | .getJson name fate =>
    (fate.told outage ((s.live name).map Entry.result),
      if fate = .answered ∧ s.live name = none then s.miss i name else s)
  | .setJson name result ttlMs fate =>
    if ttlMs = 0 ∨ fate = .refused then (.error outage, s)
    else
      (fate.told outage (),
        let s' := s.write name (some ⟨result, s.now + ttlMs⟩)
        if fate = .answered ∧ op.isCheck then s'.tell i name ttlMs else s')
  | .del names fate =>
    (fate.told outage (), if fate = .refused then s
      else names.foldl (fun s name => s.write name none) s)

def service : StoreService Store Operation Request Answer where
  program := program
  carry := carry
  passes n s := { s with now := s.now + n }

/-- The calls with their replies. -/
abbrev keyCalls : StoreService (Recorded Store Operation (Except Failure (Option Reply))) Operation
    (Spoken Request (Except Failure (Option Reply))) (Spoken.Answer Answer) :=
  service.recording fun op => (call op).run

/-- Redis at some time, with whatever it holds. -/
def Store.opened (now : ℕ) (entries : String → Option Entry) : Store :=
  ⟨now, entries, fun _ => 0, fun _ => none, []⟩

/-- A check makes an entry only when the time to live of the one before is over. -/
def Store.Exclusive (s : Store) : Prop :=
  s.told.Pairwise fun later earlier => later.name = earlier.name → earlier.recordedAt +
    earlier.ttlMs ≤ later.presentedAt

/-- One of the two entries was made, and had its time to live, before the key of the other was
looked up. -/
def Told.Separate (a b : Told) : Prop :=
  a.recordedAt + a.ttlMs ≤ b.presentedAt ∨ b.recordedAt + b.ttlMs ≤ a.presentedAt

/-- The caller was told that its key is new. -/
def ToldNew (s : Recorded Store Operation (Except Failure (Option Reply))) (i : ℕ) (key : String)
    (ttlSeconds : ℕ) : Prop :=
  ∃ get set cachedResult,
    s.replies i = some (.checkAndSetIdempotencyKey key ttlSeconds get set,
      .ok (some ⟨false, cachedResult⟩))

/-- Of two callers that were told that a key is new, one has presented it when the time to live was
over that the key of the other had. -/
def KeysExclusive (s : Recorded Store Operation (Except Failure (Option Reply))) : Prop :=
  ∀ i j key ttlSeconds ttlSeconds', i ≠ j → ToldNew s i key ttlSeconds →
  ToldNew s j key ttlSeconds' →
    ∃ a ∈ s.store.told, ∃ b ∈ s.store.told, a.caller = i ∧ a.ttlMs = ttlSeconds *
      1000 ∧ b.caller = j ∧
      b.ttlMs = ttlSeconds' * 1000 ∧ a.name = b.name ∧ a.Separate b

/-- Nothing has been written to the name since the call looked for it. -/
def Store.Unwritten (s : Store) (i : ℕ) (name : String) : Prop :=
  ∃ miss ∈ s.misses i, miss.name = name ∧ miss.writes = s.writes name

/-- A check makes its entry with no write in between, a result that is saved does not shorten the
time to live, and only what has expired is deleted. -/
def allows (i : ℕ) (op : Operation) (s : Store) : Request → Prop
  | .getJson _ _ => True
  | .setJson name _ ttlMs _ =>
    if op.isCheck then s.Unwritten i name
      else ∀ entry ∈ s.live name, entry.expiresAt ≤ s.now + ttlMs
  | .del names _ => ∀ name ∈ names, s.live name = none

instance (i : ℕ) (op : Operation) (s : Store) (r : Request) : Decidable (allows i op s r) :=
  match r with
  | .getJson _ _ => inferInstanceAs (Decidable True)
  | .setJson name _ ttlMs _ => inferInstanceAs (Decidable (if op.isCheck then
      (∃ miss ∈ s.misses i, miss.name = name ∧ miss.writes = s.writes name)
        else ∀ entry ∈ s.live name, entry.expiresAt ≤ s.now + ttlMs))
  | .del names _ => inferInstanceAs (Decidable (∀ name ∈ names, s.live name = none))

def conditions : StoreService.Conditions Store Operation Request where
  starts _ := True
  allows := allows
  passes _ _ := True

instance : DecidablePred conditions.starts := fun _ => inferInstanceAs (Decidable True)
instance (i : ℕ) (op : Operation) (s : Store) (r : Request) :
    Decidable (conditions.allows i op s r) :=
  inferInstanceAs (Decidable (allows i op s r))
instance (s s' : Store) : Decidable (conditions.passes s s') := inferInstanceAs (Decidable True)

end Model

section Invariant
variable {s : Store} {i : ℕ} {name : String} {entry : Option Entry} {look : Miss} {told : Told}

/-- The time of the key is over. -/
def Told.Over (told : Told) (time : ℕ) : Prop := told.recordedAt + told.ttlMs ≤ time

/-- Whoever was told that a key is new is covered by an entry until the time of the key is over; and
a look that found nothing is after the times of all of them, as long as nothing has been written. -/
structure Sound (s : Store) : Prop where
  covered : ∀ told ∈ s.told, told.Over s.now ∨
    ∃ entry, s.entries told.name = some entry ∧ told.Over entry.expiresAt
  looked : ∀ i miss, s.misses i = some miss → miss.time ≤ s.now ∧ miss.writes ≤ s.writes miss.name ∧
    (miss.writes = s.writes miss.name →
      ∀ told ∈ s.told, told.name = miss.name → told.Over miss.time)
  exclusive : s.Exclusive

theorem live_eq_none :
    s.live name = none ↔ ∀ entry, s.entries name = some entry → entry.expiresAt ≤ s.now := by
  cases h : s.entries name <;> simp [Store.live, h]

theorem live_eq_some {entry : Entry} : s.live name = some entry ↔ s.entries name = some entry ∧
    s.now < entry.expiresAt := by
  simp [Store.live, Option.filter_eq_some_iff]

/-- Without a live entry every time of the key is over. -/
theorem Sound.over_of_live (h : Sound s) (hnone : s.live name = none) (htold : told ∈ s.told)
    (hname : told.name = name) :
    told.Over s.now := by
  rcases h.covered told htold with hover | ⟨entry, hentry, hover⟩
  · exact hover
  · have hexpired := live_eq_none.mp hnone entry (hname ▸ hentry)
    unfold Told.Over at hover ⊢
    omega

theorem Sound.miss (h : Sound s) (hnone : s.live name = none) (i : ℕ) : Sound (s.miss i name) := by
  refine ⟨h.covered, ?_, h.exclusive⟩
  intro j miss hj
  by_cases hsame : j = i
  · subst hsame
    obtain rfl : ⟨name, s.now, s.writes name⟩ = miss := by simpa [Store.miss] using hj
    exact ⟨le_rfl, le_rfl, fun _ told htold hname => h.over_of_live hnone htold hname⟩
  · simp only [Store.miss, Function.update_of_ne hsame] at hj
    exact h.looked j miss hj

/-- A write to a name, where the new entry covers what is not over yet. -/
theorem Sound.write (h : Sound s)
    (hcovers : ∀ told ∈ s.told, told.name = name → told.Over s.now ∨
      ∃ new, entry = some new ∧ told.Over new.expiresAt) :
    Sound (s.write name entry) := by
  refine ⟨?_, ?_, h.exclusive⟩
  · intro told htold
    by_cases hname : told.name = name
    · rcases hcovers told htold hname with hover | ⟨new, rfl, hover⟩
      · exact .inl hover
      · exact .inr ⟨new, by simp [Store.write, hname], hover⟩
    · simpa [Store.write, Function.update_of_ne hname] using h.covered told htold
  · intro i miss hmiss
    obtain ⟨htime, hwrites, hover⟩ := h.looked i miss hmiss
    by_cases hname : miss.name = name
    · subst hname
      refine ⟨htime, ?_, ?_⟩
      · simp only [Store.write, Function.update_self]
        omega
      · intro heq
        simp only [Store.write, Function.update_self] at heq
        omega
    · simpa [Store.write, Function.update_of_ne hname] using ⟨htime, hwrites, hover⟩

/-- Nobody else has been told within the time of the key when a call finds its key unwritten. -/
theorem Sound.over_of_unwritten (h : Sound s) (hlook : s.misses i = some look)
    (hwrites : look.writes = s.writes look.name) (htold : told ∈ s.told)
    (hname : told.name = look.name) : told.Over look.time ∧ told.Over s.now := by
  obtain ⟨htime, -, hover⟩ := h.looked i look hlook
  have hbefore := hover hwrites told htold hname
  exact ⟨hbefore, le_trans hbefore htime⟩

theorem Sound.check (h : Sound s) (hunwritten : s.Unwritten i name) (result : Option String)
    (ttlMs : ℕ) (tells : Prop) [Decidable tells] :
    Sound (if tells then (s.write name (some ⟨result, s.now + ttlMs⟩)).tell i name ttlMs
      else s.write name (some ⟨result, s.now + ttlMs⟩)) := by
  obtain ⟨miss, hmem, rfl, hwrites⟩ := hunwritten
  have hmiss : s.misses i = some miss := hmem
  have hwritten : Sound (s.write miss.name (some ⟨result, s.now + ttlMs⟩)) :=
    h.write fun told htold hname => .inl (h.over_of_unwritten hmiss hwrites htold hname).2
  split_ifs with htells
  · refine ⟨?_, ?_, ?_⟩
    · rintro told (_ | ⟨_, htold⟩)
      · exact .inr ⟨⟨result, s.now + ttlMs⟩, by simp [Store.tell, Store.write], le_rfl⟩
      · exact hwritten.covered told htold
    · intro j other hother
      obtain ⟨htime, hle, hover⟩ := hwritten.looked j other hother
      refine ⟨htime, hle, ?_⟩
      rintro heq told (_ | ⟨_, htold⟩) hname
      · -- A look before the write does not count any more.
        have hbefore := (h.looked j other hother).2.1
        have hsame : miss.name = other.name := hname
        simp only [Store.tell, Store.write, hsame, Function.update_self] at heq
        omega
      · exact hover heq told htold hname
    · refine List.pairwise_cons.mpr ⟨?_, h.exclusive⟩
      intro earlier hearlier hname
      have hpresented :
          ((s.write miss.name (some ⟨result, s.now + ttlMs⟩)).misses i).elim s.now Miss.time =
            miss.time := by
        simp [Store.write, hmiss]
      show earlier.recordedAt + earlier.ttlMs ≤ _
      dsimp only
      rw [show (s.write miss.name (some ⟨result, s.now + ttlMs⟩)).now = s.now from rfl, hpresented]
      exact (h.over_of_unwritten hmiss hwrites hearlier hname.symm).1
  · exact hwritten

/-- A write by which the time to live does not end earlier. -/
theorem Sound.save (h : Sound s) {ttlMs : ℕ}
    (hlonger : ∀ entry ∈ s.live name, entry.expiresAt ≤ s.now + ttlMs) (result : Option String) :
    Sound (s.write name (some ⟨result, s.now + ttlMs⟩)) := by
  refine h.write fun told htold hname => ?_
  rcases h.covered told htold with hover | ⟨entry, hentry, hover⟩
  · exact .inl hover
  · by_cases hlive : s.now < entry.expiresAt
    · have hend := hlonger entry (live_eq_some.mpr ⟨hname ▸ hentry, hlive⟩)
      exact .inr ⟨_, rfl, le_trans hover hend⟩
    · exact .inl (le_trans hover (not_lt.mp hlive))

theorem live_write_none (s : Store) (name other : String) (h : s.live other = none) :
    (s.write name none).live other = none := by
  rw [live_eq_none] at h ⊢
  intro entry hentry
  by_cases hname : other = name
  · simp [Store.write, hname] at hentry
  · exact h entry (by simpa [Store.write, Function.update_of_ne hname] using hentry)

theorem Sound.del (h : Sound s) {names : List String}
    (hexpired : ∀ name ∈ names, s.live name = none) :
    Sound (names.foldl (fun s name => s.write name none) s) := by
  induction names generalizing s with
  | nil => exact h
  | cons name rest ih =>
    refine ih (h.write fun told htold hname => .inl ?_) ?_
    · exact h.over_of_live (hexpired name List.mem_cons_self) htold hname
    · exact fun other hother => live_write_none s name other
        (hexpired other (List.mem_cons_of_mem name hother))

/-- What a request does that meets the conditions. -/
theorem Sound.carry (h : Sound s) {op : Operation} {r : Request} (hallows : allows i op s r) :
    Sound (carry i op s r).2 := by
  cases r with
  | getJson name fate =>
    simp only [IdempotencyKeys.carry]
    split_ifs with hmissed
    · exact h.miss hmissed.2 i
    · exact h
  | setJson name result ttlMs fate =>
    simp only [IdempotencyKeys.carry]
    split_ifs with hrefused htells
    · exact h
    · simp only [allows, htells.2, if_true] at hallows
      simpa using h.check hallows result ttlMs True
    · cases hcheck : op.isCheck with
      | true =>
        simp only [allows, hcheck, if_true] at hallows
        simpa using h.check hallows result ttlMs False
      | false =>
        simp only [allows, hcheck, Bool.false_eq_true, if_false] at hallows
        exact h.save hallows result
  | del names fate =>
    simp only [IdempotencyKeys.carry]
    split_ifs with hrefused
    · exact h
    · exact h.del hallows

theorem Sound.passes (h : Sound s) (n : ℕ) : Sound (service.passes n s) := by
  refine ⟨?_, ?_, h.exclusive⟩
  · intro told htold
    rcases h.covered told htold with hover | hcovered
    · exact .inl (le_trans hover (Nat.le_add_right _ n))
    · exact .inr hcovered
  · intro i miss hmiss
    obtain ⟨htime, hrest⟩ := h.looked i miss hmiss
    exact ⟨le_trans htime (Nat.le_add_right _ n), hrest⟩

theorem sound_opened (now : ℕ) (entries : String → Option Entry) :
    Sound (Store.opened now entries) :=
  ⟨fun _ h => (nomatch h), fun _ _ h => (nomatch h), List.Pairwise.nil⟩

end Invariant

section Results

/-- What a check has made of its key. -/
def Store.Entered (s : Store) (i : ℕ) (key : String) (ttlSeconds : ℕ) : Prop :=
  ∃ told ∈ s.told, told.caller = i ∧ told.name = IDEM_PREFIX ++ key ∧ told.ttlMs = ttlSeconds * 1000

abbrev keyDiscipline : Discipline Store Operation Request Answer :=
  ⟨service, conditions, Sound, fun s s' => ∀ told ∈ s.told, told ∈ s'.told⟩

variable {s : Store} {i : ℕ} {key : String} {ttlSeconds : ℕ}

theorem told_write (s : Store) (name : String) (entry : Option Entry) :
    (s.write name entry).told = s.told := rfl

theorem told_carry (i : ℕ) (op : Operation) (s : Store) (r : Request) :
    ∀ told ∈ s.told, told ∈ (carry i op s r).2.told := by
  intro told htold
  cases r with
  | getJson name fate =>
    simp only [carry]
    split_ifs
    · exact htold
    · exact htold
  | setJson name result ttlMs fate =>
    simp only [carry]
    split_ifs
    · exact htold
    · exact List.mem_cons_of_mem _ htold
    · exact htold
  | del names fate =>
    simp only [carry]
    split_ifs
    · exact htold
    · induction names generalizing s with
      | nil => exact htold
      | cons name rest ih => exact ih _ (told_write s name none ▸ htold)

theorem stable_entered : keyDiscipline.Stable fun s => s.Entered i key ttlSeconds := by
  rintro s s' hgrows ⟨told, htold, hrest⟩
  exact ⟨told, hgrows told htold, hrest⟩

theorem upholds_request {op : Operation} {r : Request} :
    keyDiscipline.Upholds i op (ask r) (fun _ => True) (fun _ _ => True) fun _ => True := by
  apply Discipline.Upholds.ask fun _ => Discipline.stable_const True
  intro s hs _ hallows
  exact ⟨told_carry i op s r, hs.carry hallows, trivial⟩

/-- The SET of a check that is answered has made its entry. -/
theorem upholds_setJson (get set : Fate) :
    keyDiscipline.Upholds i (.checkAndSetIdempotencyKey key ttlSeconds get set)
      (ask (.setJson (IDEM_PREFIX ++ key) none (ttlSeconds * 1000) set)) (fun _ => True)
      (fun written s => written = .ok () → s.Entered i key ttlSeconds) fun _ => True := by
  apply Discipline.Upholds.ask
  · intro written s s' hgrows hentered hok
    exact stable_entered s s' hgrows (hentered hok)
  · intro s hs _ hallows
    refine ⟨told_carry _ _ s _, hs.carry hallows, ?_⟩
    intro hok
    have hok' : (carry i (.checkAndSetIdempotencyKey key ttlSeconds get set) s
      (.setJson (IDEM_PREFIX ++ key) none (ttlSeconds * 1000) set)).1 = .ok () := hok
    show (carry i (.checkAndSetIdempotencyKey key ttlSeconds get set) s
      (.setJson (IDEM_PREFIX ++ key) none (ttlSeconds * 1000) set)).2.Entered i key ttlSeconds
    simp only [carry] at hok' ⊢
    split_ifs at hok' ⊢ with hrefused htells
    · exact ⟨_, List.mem_cons_self, rfl, rfl, rfl⟩
    · exact absurd ⟨(Fate.told_eq_ok.mp hok').1, rfl⟩ htells

theorem upholds_checkAndSetIdempotencyKey (get set : Fate) :
    keyDiscipline.Upholds i (.checkAndSetIdempotencyKey key ttlSeconds get set)
      (checkAndSetIdempotencyKey key ttlSeconds get set) (fun _ => True)
      (fun reply s => reply.isDuplicate = false → s.Entered i key ttlSeconds) fun _ => True := by
  unfold checkAndSetIdempotencyKey
  apply Discipline.Upholds.bind upholds_request
  intro existing
  apply Discipline.Upholds.bind (R := fun _ _ => True)
  · exact Discipline.Upholds.checked (fun _ _ _ _ _ => trivial) fun _ _ => trivial
  intro found
  cases found with
  | some result => exact Discipline.Upholds.pure fun _ _ _ h => (nomatch h)
  | none =>
    apply Discipline.Upholds.bind (upholds_setJson get set)
    intro written
    apply Discipline.Upholds.bind (R := fun _ s => s.Entered i key ttlSeconds)
    · exact Discipline.Upholds.checked (fun _ _ hok _ hentered => hentered hok) fun _ _ => trivial
    intro _
    exact Discipline.Upholds.pure fun _ _ hentered _ => hentered

theorem upholds_delByPrefix {op : Operation} (pages : List (List String × Fate)) :
    keyDiscipline.Upholds i op (delByPrefix pages) (fun _ => True) (fun _ _ => True)
      fun _ => True := by
  unfold delByPrefix
  induction pages with
  | nil => exact Discipline.Upholds.pure fun _ _ _ => trivial
  | cons page rest ih =>
    apply Discipline.Upholds.bind (R := fun _ _ => True)
    · apply Discipline.Upholds.bind upholds_request
      intro deleted
      exact Discipline.Upholds.checked (fun _ _ _ _ _ => trivial) fun _ _ => trivial
    · exact fun _ => ih

/-- What stands behind a reply: whoever is told that a key is new has made an entry for it. -/
def Stands (i : ℕ) (op : Operation) (result : Except Failure (Option Reply)) (s : Store) : Prop :=
  ∀ key ttlSeconds get set cachedResult, op = .checkAndSetIdempotencyKey key ttlSeconds get set →
    result = .ok (some ⟨false, cachedResult⟩) → s.Entered i key ttlSeconds

theorem follows_call (i : ℕ) (op : Operation) :
    keyDiscipline.protocol.Follows (keyDiscipline.service.within keyDiscipline.conditions) i op
      (call op).run
      (fun _ => True) () fun result s _ => Stands i op result s := by
  cases op with
  | checkAndSetIdempotencyKey key ttlSeconds get set =>
    have hcall : keyDiscipline.Upholds i (.checkAndSetIdempotencyKey key ttlSeconds get set)
        (call (.checkAndSetIdempotencyKey key ttlSeconds get set)) (fun _ => True)
        (fun reply s => ∀ cachedResult, reply = some ⟨false, cachedResult⟩ →
          s.Entered i key ttlSeconds) fun _ => True := by
      apply Discipline.Upholds.bind (upholds_checkAndSetIdempotencyKey get set)
      intro reply
      refine Discipline.Upholds.pure fun s _ hentered cachedResult hreply => hentered ?_
      rw [Option.some.inj hreply]
    refine hcall.follows.weaken (fun _ _ _ _ h => h) ?_
    rintro result s - ⟨hok, -⟩ key' ttlSeconds' get' set' cachedResult hop rfl
    cases hop
    exact hok _ rfl cachedResult rfl
  | saveIdempotencyResult key result get set =>
    have hcall : keyDiscipline.Upholds i (.saveIdempotencyResult key result get set)
        (call (.saveIdempotencyResult key result get set)) (fun _ => True) (fun _ _ => True)
          fun _ => True := by
      apply Discipline.Upholds.bind (R := fun _ _ => True)
      · unfold saveIdempotencyResult
        apply Discipline.Upholds.bind upholds_request
        intro existing
        apply Discipline.Upholds.bind (R := fun _ _ => True)
        · exact Discipline.Upholds.checked (fun _ _ _ _ _ => trivial) fun _ _ => trivial
        intro found
        split
        · apply Discipline.Upholds.bind upholds_request
          intro written
          exact Discipline.Upholds.checked (fun _ _ _ _ _ => trivial) fun _ _ => trivial
        · apply Discipline.Upholds.bind upholds_request
          intro written
          exact Discipline.Upholds.checked (fun _ _ _ _ _ => trivial) fun _ _ => trivial
      intro _
      exact Discipline.Upholds.pure fun _ _ _ => trivial
    refine hcall.follows.weaken (fun _ _ _ _ h => h) ?_
    rintro _ _ - - _ _ _ _ _ ⟨⟩
  | onModuleInit pages =>
    have hcall :
        keyDiscipline.Upholds i (.onModuleInit pages) (call (.onModuleInit pages)) (fun _ => True)
        (fun _ _ => True) fun _ => True :=
      Discipline.Upholds.bind (upholds_delByPrefix pages) fun _ => Discipline.Upholds.pure
        fun _ _ _ => trivial
    refine hcall.follows.weaken (fun _ _ _ _ h => h) ?_
    rintro _ _ - - _ _ _ _ _ ⟨⟩

/-- In every run in which no check is interrupted by another write of its key, no time to live is
shortened and nothing but expired entries is deleted, at most one of the callers that present a key
within its time to live is told that it is new. -/
theorem idempotency_keys_exclusive {now : ℕ} {entries : String → Option Entry}
    {tr : Trace (Recorded Store Operation (Except Failure (Option Reply))) Operation
      (Spoken Request (Except Failure (Option Reply))) (Spoken.Answer Answer)}
    {c : Config (Recorded Store Operation (Except Failure (Option Reply))) Operation
      (Spoken Request (Except Failure (Option Reply))) (Spoken.Answer Answer)}
    (hrun : keyCalls.Runs (.opened (Store.opened now entries)) tr c)
    (hmeets : ∀ t ∈ tr, StoreService.Meets conditions.recording t) : KeysExclusive c.state := by
  have hstable : ∀ i op result, keyDiscipline.Stable (Stands i op result) := by
    intro i op result s s' hgrows hstands key ttlSeconds get set cachedResult hop hresult
    exact stable_entered s s' hgrows (hstands key ttlSeconds get set cachedResult hop hresult)
  obtain ⟨⟨hsound, hreplies⟩, -⟩ := Discipline.recording_run (D := keyDiscipline)
    (Q := Stands) (fun op => (call op).run) hstable (fun _ _ h => h)
      (fun i op _ => follows_call i op) (fun n _ hs _ => ⟨fun _ h => h, hs.passes n⟩)
    hrun hmeets (sound_opened now entries)
  rintro i j key ttlSeconds ttlSeconds' hij ⟨get, set, cachedResult, hi⟩ ⟨get', set',
    cachedResult', hj⟩
  obtain ⟨a, ha, hcaller, hname, httl⟩ :=
    hreplies i _ _ hi key ttlSeconds get set cachedResult rfl rfl
  obtain ⟨b, hb, hcaller', hname', httl'⟩ :=
    hreplies j _ _ hj key ttlSeconds' get' set' cachedResult' rfl rfl
  refine ⟨a, ha, b, hb, hcaller, httl, hcaller', httl', hname.trans hname'.symm, ?_⟩
  have hsymmetric : Std.Symm fun a b : Told => a.name = b.name → a.Separate b :=
    ⟨fun a b hab hname => (hab hname.symm).symm⟩
  have hpairwise : c.state.store.told.Pairwise fun a b => a.name = b.name → a.Separate b :=
    hsound.exclusive.imp fun hab hname => .inr (hab hname)
  have hne : a ≠ b := by
    rintro rfl
    exact hij (hcaller.symm.trans hcaller')
  exact hpairwise.forall ha hb hne (hname.trans hname'.symm)

end Results

end VeriAgentPay.IdempotencyKeys

namespace VeriAgentPay.Devnet
open InterleavedPrograms IdempotencyKeys

def presentKey : IdempotencyKeys.Operation :=
  .checkAndSetIdempotencyKey "pay-1" 300 .answered .answered

def noKeys : IdempotencyKeys.Store := .opened 0 fun _ => none

/-- What the callers of two checks were told. -/
def toldKeys
    (c : Config (Recorded IdempotencyKeys.Store IdempotencyKeys.Operation
      (Except Backend.Failure (Option Reply)))
    IdempotencyKeys.Operation
    (Spoken IdempotencyKeys.Request (Except Backend.Failure (Option Reply)))
    (Spoken.Answer IdempotencyKeys.Answer)) :
    List (Option (IdempotencyKeys.Operation × Except Backend.Failure (Option Reply))) :=
  [c.state.replies 0, c.state.replies 1]

def newKey : Option (IdempotencyKeys.Operation × Except Backend.Failure (Option Reply)) :=
  some (presentKey, .ok (some ⟨false, none⟩))

/-- The entries of two checks that were made at once. -/
def bothEntries : List Told :=
  [⟨1, "hotstate:idem:pay-1", 0, 0, 300000⟩, ⟨0, "hotstate:idem:pay-1", 0, 0, 300000⟩]

theorem toldNew_of_reply
    {s : Recorded IdempotencyKeys.Store IdempotencyKeys.Operation
      (Except Backend.Failure (Option Reply))}
    {i : ℕ} (h : s.replies i = newKey) : ToldNew s i "pay-1" 300 := ⟨_, _, _, h⟩

/-- The key is presented again when its time to live is over, and is new again. -/
theorem idempotency_keys_exclusive_devnet :
    ∃ tr c, keyCalls.Runs (.opened noKeys) tr c ∧ ToldNew c.state 0 "pay-1" 300 ∧
      ToldNew c.state 1 "pay-1" 300 ∧
      KeysExclusive c.state := by
  have hmoves :
      (keyCalls.moves IdempotencyKeys.conditions.recording (Config.initial (.opened noKeys))
      [.start 0 presentKey, .step 0, .step 0, .step 0, .pass 300000, .start 1 presentKey, .step 1,
        .step 1, .step 1]).map
        toldKeys = some [newKey, newKey] := by
    decide +kernel
  obtain ⟨tr, c, hrun, hmeets, -, htold⟩ := StoreService.runs_of_computed hmoves
  simp only [toldKeys, List.cons.injEq, and_true] at htold
  exact ⟨tr, c, hrun, toldNew_of_reply htold.1, toldNew_of_reply htold.2,
    idempotency_keys_exclusive hrun hmeets⟩

/-- Two callers present the key at the same time, and both are told that it is new. -/
theorem key_new_for_both :
    ∃ tr c, keyCalls.Runs (.opened noKeys) tr c ∧ ToldNew c.state 0 "pay-1" 300 ∧
    ToldNew c.state 1 "pay-1" 300 ∧ ¬KeysExclusive c.state := by
  have hmoves : (keyCalls.moves StoreService.anything (Config.initial (.opened noKeys))
      [.start 0 presentKey, .start 1 presentKey, .step 0, .step 1, .step 0, .step 1, .step 0,
        .step 1]).map
        (fun c => decide (toldKeys c = [newKey, newKey] ∧ c.state.store.told = bothEntries)) =
          some true := by
    decide +kernel
  obtain ⟨tr, c, hrun, -, -, hfacts⟩ := StoreService.runs_of_computed hmoves
  obtain ⟨hreplies, htold⟩ := of_decide_eq_true hfacts
  simp only [toldKeys, List.cons.injEq, and_true] at hreplies
  obtain ⟨hzero, hone⟩ := hreplies
  refine ⟨tr, c, hrun, toldNew_of_reply hzero, toldNew_of_reply hone, ?_⟩
  intro hexclusive
  obtain ⟨a, ha, b, hb, -, -, -, -, -, hseparate⟩ :=
    hexclusive 0 1 "pay-1" 300 300 (by decide) (toldNew_of_reply hzero) (toldNew_of_reply hone)
  rw [htold] at ha hb
  -- both entries were made when both keys were looked up
  have hsame : ∀ told ∈ bothEntries, told.presentedAt = 0 ∧ told.recordedAt = 0 ∧
      told.ttlMs = 300000 := by decide
  obtain ⟨hapresented, harecorded, hattl⟩ := hsame a ha
  obtain ⟨hbpresented, hbrecorded, hbttl⟩ := hsame b hb
  unfold Told.Separate at hseparate
  omega

end VeriAgentPay.Devnet
