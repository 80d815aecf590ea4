import VeriAgentPay.BackendStore
import VeriAgentPay.ProgramCustody

/-!
# Challenges for the login with a wallet

A challenge is stored in Redis, which all replicas share, and in the memory of the replica that
makes it. Who verifies a challenge takes it from Redis, or from the memory of the replica when Redis
gives none.
-/

namespace VeriAgentPay.WalletLogins
open InterleavedPrograms
open InterleavedPrograms.Fallible (check checked dropResult ignoringFailure)
open Backend (Failure outage)

section Stores

/-- A challenge, and of the history which one of the challenges for its address it is. -/
structure Challenge where
  nonce : String
  expiresAt : ℤ
  address : String
  serial : ℕ
  deriving DecidableEq

/-- Of the history: a verifying call has looked for a challenge, when so many had been made for the
address. -/
structure Look where
  call : ℕ
  address : String
  drawn : ℕ
  deriving DecidableEq

/-- Of the history: a challenge that a verifying call has found. -/
structure Found where
  call : ℕ
  address : String
  serial : ℕ
  deriving DecidableEq

/-- Of the history: a challenge that was accepted, and the newest one that had been issued for the
address. -/
structure Accepted where
  call : ℕ
  address : String
  serial : ℕ
  time : ℤ
  expiresAt : ℤ
  newest : ℕ
  deriving DecidableEq

/-- Redis and the memories of the replicas. Of the history, for each address how many challenges
were made, the newest one that was to be written to Redis and the newest one that was issued; then
the looks, what was found, what a call has taken from Redis and not decided about yet, and what was
accepted. -/
structure Store where
  now : ℤ
  redis : String → Option (Challenge × ℤ)
  maps : ℕ → String → Option Challenge
  drawn : String → ℕ
  written : String → ℕ
  issued : String → ℕ
  looks : List Look
  found : List Found
  held : List (ℕ × Challenge)
  accepted : List Accepted

def ttlMs : ℤ := 5 * 60 * 1000

def Store.live (s : Store) (address : String) : Option Challenge :=
  ((s.redis address).filter fun entry => s.now < entry.2).map Prod.fst

def Store.draw (s : Store) (address : String) : Store :=
  { s with drawn := Function.update s.drawn address (s.drawn address + 1) }

def Store.write (s : Store) (address : String) (challenge : Challenge) (fate : Fate) : Store :=
  { s with
    redis := if fate.carried then Function.update s.redis address (some (challenge, s.now + ttlMs))
      else s.redis
    written := Function.update s.written address (max (s.written address) challenge.serial) }

def Store.unset (s : Store) (address : String) : Store :=
  { s with redis := Function.update s.redis address none }

def Store.remember (s : Store) (replica : ℕ) (address : String) (challenge : Challenge) : Store :=
  { s with
    maps :=
      Function.update s.maps replica (Function.update (s.maps replica) address (some challenge))
    issued := Function.update s.issued address (max (s.issued address) challenge.serial) }

def Store.look (s : Store) (i : ℕ) (address : String) : Store :=
  { s with looks := ⟨i, address, s.drawn address⟩ :: s.looks }

def Store.find (s : Store) (i : ℕ) (address : String) (challenge : Challenge) : Store :=
  { s with found := ⟨i, address, challenge.serial⟩ :: s.found }

def Store.hold (s : Store) (i : ℕ) (challenge : Challenge) : Store :=
  { s with held := (i, challenge) :: s.held }

def Store.letGo (s : Store) (i : ℕ) : Store :=
  { s with held := s.held.filter fun entry => entry.1 ≠ i }

def Store.forget (s : Store) (replica : ℕ) (address : String) : Store :=
  { s with maps := Function.update s.maps replica (Function.update (s.maps replica) address none) }

def Store.accept (s : Store) (i : ℕ) (address : String) (challenge : Challenge) : Store :=
  { s with
    accepted :=
      ⟨i, address, challenge.serial, s.now, challenge.expiresAt, s.issued address⟩ :: s.accepted }

end Stores

section Model

/-- The nonces as they are drawn, `ethers.verifyMessage`, and `toLowerCase`. -/
structure Environment where
  nonce : String → ℕ → String
  verifyMessage : String → String → Except String String
  toLowerCase : String → String

structure VerifyChallengeDto where
  walletAddress : String
  signature : String
  nonce : String

structure IssuedChallenge where
  walletAddress : String
  nonce : String
  messageToSign : String
  expiresAt : ℤ

inductive Request where
  | draw (address : String)
  | setJson (address : String) (challenge : Challenge) (fate : Fate)
  | remember (replica : ℕ) (address : String) (challenge : Challenge)
  | takeJson (address : String) (fate : Fate)
  /-- All that follows the answer of Redis without another request, with what Redis gave. -/
  | decide (replica : ℕ) (dto : VerifyChallengeDto) (taken : Option Challenge)

abbrev Answer : Request → Type
  | .draw _ => Challenge
  | .setJson _ _ _ => Except Failure Unit
  | .remember _ _ _ => Unit
  | .takeJson _ _ => Except Failure (Option Challenge)
  | .decide _ _ _ => Except Failure Unit

abbrev Service (α : Type) := Fallible Failure Request Answer α

abbrev ask (r : Request) : Service (Answer r) := Fallible.ask r

/-- The calls, each with the replica that it comes to and how its request to Redis ends. -/
inductive Operation where
  | generateChallenge (replica : ℕ) (walletAddress : String) (fate : Fate)
  | verifyChallenge (replica : ℕ) (dto : VerifyChallengeDto) (fate : Fate)

variable (env : Environment)

def message (nonce : String) : String := s!"VeriAgent Pay Authentication Nonce: {nonce}"

def generateChallenge (replica : ℕ) (walletAddress : String) (fate : Fate) :
    Service IssuedChallenge := do
  check (walletAddress ≠ "" ∧ walletAddress.startsWith "0x")
    (.badRequest "Valid EVM wallet address required")
  let challenge ← ask (.draw (env.toLowerCase walletAddress))
  ignoringFailure do
    let stored ← ask (.setJson (env.toLowerCase walletAddress) challenge fate)
    checked stored
  ask (.remember replica (env.toLowerCase walletAddress) challenge)
  pure ⟨env.toLowerCase walletAddress, challenge.nonce, message challenge.nonce,
    challenge.expiresAt⟩

/-- A failure of Redis is as if it had no challenge. -/
def takenOf (answer : Except Failure (Option Challenge)) : Option Challenge := answer.toOption.join

def verifyChallenge (replica : ℕ) (dto : VerifyChallengeDto) (fate : Fate) : Service Unit := do
  check (dto.walletAddress ≠ "" ∧ dto.signature ≠ "" ∧ dto.nonce ≠ "")
    (.badRequest "walletAddress, signature, and nonce are required")
  let taken ← ask (.takeJson (env.toLowerCase dto.walletAddress) fate)
  let decision ← ask (.decide replica dto (takenOf taken))
  checked decision

def program : Operation → Program Request Answer Unit
  | .generateChallenge replica walletAddress fate => dropResult
    (generateChallenge env replica walletAddress fate)
  | .verifyChallenge replica dto fate => dropResult (verifyChallenge env replica dto fate)

/-- The checks of a challenge that was found. -/
def verdict (now : ℤ) (dto : VerifyChallengeDto) : Option Challenge → Except Failure Challenge
  | none => .error (.unauthorized "Invalid or expired authentication challenge nonce")
  | some stored =>
    if stored.nonce ≠ dto.nonce then
      .error (.unauthorized "Invalid or expired authentication challenge nonce")
    else if now > stored.expiresAt then
      .error (.unauthorized "Authentication challenge expired. Please request a new challenge.")
    else
      match env.verifyMessage (message dto.nonce) dto.signature with
      | .error e => .error (.unauthorized s!"Cryptographic signature verification failed: {e}")
      | .ok recovered =>
        if env.toLowerCase recovered ≠ env.toLowerCase dto.walletAddress then
          .error (.unauthorized
            "Cryptographic signature verification failed: Signature address mismatch")
        else .ok stored

/-- What a call finds in the memory of its replica counts when Redis gave it nothing. -/
def Store.fallBack (s : Store) (i replica : ℕ) (address : String) :
    Option Challenge → Option Challenge × Store
  | some taken => (some taken, s)
  | none =>
    match s.maps replica address with
    | some stored => (some stored, s.find i address stored)
    | none => (none, s)

def Store.conclude (s : Store) (i : ℕ) (address : String) (dto : VerifyChallengeDto)
    (stored : Option Challenge) : Except Failure Unit × Store :=
  match verdict env s.now dto stored with
  | .error e => (.error e, s)
  | .ok challenge => (.ok (), s.accept i address challenge)

def Store.decide (s : Store) (i replica : ℕ) (address : String) (dto : VerifyChallengeDto)
    (taken : Option Challenge) :
    Except Failure Unit × Store :=
  let (stored, s') := s.fallBack i replica address taken
  (((s'.look i address).forget replica address).letGo i).conclude env i address dto stored

def Store.take (s : Store) (i : ℕ) (address : String) (fate : Fate) :
    Except Failure (Option Challenge) × Store :=
  let s' := s.look i address
  if fate.carried then
    match fate, s.live address with
    | .answered, some challenge =>
      (.ok (some challenge), ((s'.unset address).find i address challenge).hold i challenge)
    | .answered, none => (.ok none, s'.unset address)
    | _, _ => (.error outage, s'.unset address)
  else (.error outage, s')

def carry (i : ℕ) (_op : Operation) (s : Store) : (r : Request) → Answer r × Store
  | .draw address => (⟨env.nonce address (s.drawn address + 1), s.now + ttlMs, address,
    s.drawn address + 1⟩, s.draw address)
  | .setJson address challenge fate => (fate.told outage (), s.write address challenge fate)
  | .remember replica address challenge => ((), s.remember replica address challenge)
  | .takeJson address fate => s.take i address fate
  | .decide replica dto taken =>
    s.decide env i replica (env.toLowerCase dto.walletAddress) dto taken

/-- By itself time passes, and Redis can lose what it holds. -/
def service : StoreService Store Operation Request Answer where
  program := program env
  carry := carry env
  passes n s := if n = 0 then { s with redis := fun _ => none } else { s with now := s.now + n }

def Store.opened (now : ℤ) : Store :=
  ⟨now, fun _ => none, fun _ _ => none, fun _ => 0, fun _ => 0, fun _ => 0, [], [], [], []⟩

/-- No challenge is accepted twice, and each only before it expires and while no newer one has been
issued for its address. -/
def Store.SingleUse (s : Store) : Prop :=
  (s.accepted.map fun a => (a.address, a.serial)).Nodup ∧
  ∀ a ∈ s.accepted, a.time ≤ a.expiresAt ∧ a.newest ≤ a.serial

instance (s : Store) : Decidable s.SingleUse := inferInstanceAs (Decidable (_ ∧ _))

/-- A copy in the memory of a replica is up to date: nothing newer has been issued, no other call
has looked since it was made, and Redis has no challenge for the address. -/
def Store.Current (s : Store) (i : ℕ) (address : String) (challenge : Challenge) : Prop :=
  s.issued address ≤ challenge.serial ∧
  (∀ look ∈ s.looks, look.address = address → challenge.serial ≤ look.drawn → look.call = i) ∧
    s.live address = none

/-- The challenges of an address are written to Redis in order, and a write that fails leaves no
older one there; none is issued while a call decides about an older one; and a copy in the memory of
a replica that is used is up to date. -/
def allows (i : ℕ) (s : Store) : Request → Prop
  | .draw _ | .takeJson _ _ => True
  | .setJson address challenge fate =>
    s.written address < challenge.serial ∧ (fate = .refused → s.live address = none)
  | .remember _ address challenge =>
    ∀ entry ∈ s.held, entry.2.address = address → challenge.serial ≤ entry.2.serial
  | .decide replica dto taken =>
    taken = none → ∀ stored ∈ s.maps replica (env.toLowerCase dto.walletAddress), s.Current i
      (env.toLowerCase dto.walletAddress) stored

instance (s : Store) (i : ℕ) (address : String) (challenge : Challenge) :
    Decidable (s.Current i address challenge) :=
  inferInstanceAs (Decidable (_ ∧ _ ∧ _))

instance (i : ℕ) (s : Store) (r : Request) : Decidable (allows env i s r) :=
  match r with
  | .draw _ | .takeJson _ _ => inferInstanceAs (Decidable True)
  | .setJson address challenge fate =>
    inferInstanceAs
      (Decidable (s.written address < challenge.serial ∧ (fate = .refused → s.live address = none)))
  | .remember _ address challenge =>
    inferInstanceAs
      (Decidable (∀ entry ∈ s.held, entry.2.address = address → challenge.serial ≤ entry.2.serial))
  | .decide replica dto taken =>
    inferInstanceAs
      (Decidable (taken = none → ∀ stored ∈ s.maps replica (env.toLowerCase dto.walletAddress),
      s.Current i (env.toLowerCase dto.walletAddress) stored))

def conditions : StoreService.Conditions Store Operation Request where
  starts _ := True
  allows i _ s r := allows env i s r
  passes _ _ := True

instance : DecidablePred (conditions env).starts := fun _ => inferInstanceAs (Decidable True)
instance (i : ℕ) (op : Operation) (s : Store) (r : Request) :
    Decidable ((conditions env).allows i op s r) :=
  inferInstanceAs (Decidable (allows env i s r))
instance (s s' : Store) : Decidable ((conditions env).passes s s') :=
  inferInstanceAs (Decidable True)

end Model

section Invariant

/-- How far a verifying call has come: what Redis gave it, and whether it has decided. -/
inductive Holding where
  | idle
  | looked (taken : Option Challenge)
  | decided

/-- What a call has taken from Redis, nothing newer has been issued than it. -/
def Store.Holds (s : Store) (i : ℕ) (held : Holding) : Prop :=
  ∀ challenge, held = .looked (some challenge) → s.issued challenge.address ≤ challenge.serial ∧
    ⟨i, challenge.address, challenge.serial⟩ ∈ s.found ∧ (i, challenge) ∈ s.held

/-- The invariant. -/
structure Sound (s : Store) (H : ℕ → Holding) : Prop where
  counts : ∀ a, s.issued a ≤ s.written a ∧ s.written a ≤ s.drawn a
  redis : ∀ a challenge expiry, s.redis a = some (challenge, expiry) → challenge.address = a ∧
    (s.now < expiry → challenge.serial = s.written a ∧
      ∀ f ∈ s.found, f.address = a → f.serial ≠ challenge.serial)
  maps : ∀ r a challenge, s.maps r a = some challenge → challenge.address = a ∧
    challenge.serial ≤ s.written a
  found : ∀ f ∈ s.found, f.serial ≤ s.written f.address ∧
    (∃ look ∈ s.looks, look.call = f.call ∧ look.address = f.address ∧ f.serial ≤ look.drawn) ∧
    H f.call ≠ .idle ∧ H f.call ≠ .looked none
  distinct : (s.found.map fun f => (f.address, f.serial)).Nodup
  held : ∀ entry ∈ s.held, H entry.1 = .looked (some entry.2)
  holding : ∀ i, s.Holds i (H i)
  accepted : ∀ a ∈ s.accepted, H a.call = .decided ∧ ⟨a.call, a.address, a.serial⟩ ∈ s.found ∧
    a.time ≤ a.expiresAt ∧ a.newest ≤ a.serial
  calls : (s.accepted.map Accepted.call).Nodup

/-- More challenges are made and written. -/
structure Grows (s s' : Store) : Prop where
  drawn : ∀ a, s.drawn a ≤ s'.drawn a
  written : ∀ a, s.written a ≤ s'.written a

variable {s s' : Store} {H : ℕ → Holding} {i r : ℕ} {address : String} {challenge : Challenge}

theorem Grows.refl (s : Store) : Grows s s := ⟨fun _ => le_rfl, fun _ => le_rfl⟩

theorem live_eq_some : s.live address = some challenge ↔
    ∃ expiry, s.redis address = some (challenge, expiry) ∧ s.now < expiry := by
  cases h : s.redis address with
  | none => simp [Store.live, h]
  | some entry =>
    obtain ⟨stored, expiry⟩ := entry
    by_cases hlive : s.now < expiry
    · simp [Store.live, h, hlive]
    · simp [Store.live, h, hlive]

theorem live_eq_none : s.live address = none ↔
    ∀ challenge expiry, s.redis address = some (challenge, expiry) → ¬s.now < expiry := by
  rw [Option.eq_none_iff_forall_ne_some]
  simp only [ne_eq, live_eq_some, not_exists, not_and]

/-- The counter of an address moves up. -/
theorem le_update {f : String → ℕ} {n : ℕ} (h : f address ≤ n) (a : String) :
    f a ≤ Function.update f address n a := by
  by_cases ha : a = address
  · rw [ha, Function.update_self]
    exact h
  · rw [Function.update_of_ne ha]

theorem Sound.draw (h : Sound s H) (address : String) : Sound (s.draw address) H := by
  refine ⟨?_, h.redis, h.maps, h.found, h.distinct, h.held, h.holding, h.accepted, h.calls⟩
  intro a
  exact ⟨(h.counts a).1, (h.counts a).2.trans (le_update (Nat.le_succ _) a)⟩

/-- A challenge is written in its turn. -/
theorem Sound.write (h : Sound s H) (haddress : challenge.address = address)
    (hdrawn : challenge.serial ≤ s.drawn address) (horder : s.written address < challenge.serial)
    {fate : Fate} (hrefused : fate = .refused → s.live address = none) :
    Sound (s.write address challenge fate) H := by
  have hmax : max (s.written address) challenge.serial = challenge.serial := max_eq_right horder.le
  have hwritten : ∀ a, s.written a ≤ (s.write address challenge fate).written a :=
    le_update (le_max_left _ _)
  refine ⟨?_, ?_, ?_, ?_, h.distinct, h.held, h.holding, h.accepted, h.calls⟩
  · intro a
    refine ⟨(h.counts a).1.trans (hwritten a), ?_⟩
    by_cases ha : a = address
    · subst ha
      simpa [Store.write, hmax] using hdrawn
    · simpa [Store.write, Function.update_of_ne ha] using (h.counts a).2
  · intro a stored expiry hstored
    by_cases ha : a = address
    · subst ha
      cases fate with
      | refused =>
        have hsame : s.redis a = some (stored, expiry) := hstored
        exact ⟨(h.redis a stored expiry hsame).1,
          fun hlive => absurd hlive (live_eq_none.mp (hrefused rfl) stored expiry hsame)⟩
      | answered | lost =>
        obtain ⟨rfl, -⟩ : challenge = stored ∧ s.now + ttlMs = expiry := by
          simpa [Store.write, Fate.carried] using hstored
        refine ⟨haddress, fun _ => ⟨by simp [Store.write, hmax], ?_⟩⟩
        intro f hf hfa heq
        have hle := (h.found f hf).1
        rw [hfa, heq] at hle
        omega
    · have hsame : s.redis a = some (stored, expiry) := by
        cases fate <;> simpa [Store.write, Fate.carried, Function.update_of_ne ha] using hstored
      simpa [Store.write, Function.update_of_ne ha] using h.redis a stored expiry hsame
  · intro r a stored hstored
    obtain ⟨hown, hle⟩ := h.maps r a stored hstored
    exact ⟨hown, hle.trans (hwritten a)⟩
  · intro f hf
    obtain ⟨hle, hrest⟩ := h.found f hf
    exact ⟨hle.trans (hwritten f.address), hrest⟩

/-- A challenge is issued, while no call decides about an older one. -/
theorem Sound.remember (h : Sound s H) (haddress : challenge.address = address)
    (hwritten : challenge.serial ≤ s.written address)
    (hnewer : ∀ entry ∈ s.held, entry.2.address = address → challenge.serial ≤ entry.2.serial)
    (r : ℕ) :
    Sound (s.remember r address challenge) H := by
  refine ⟨?_, h.redis, ?_, h.found, h.distinct, h.held, ?_, h.accepted, h.calls⟩
  · intro a
    refine ⟨?_, (h.counts a).2⟩
    by_cases ha : a = address
    · subst ha
      simpa [Store.remember] using ⟨(h.counts a).1, hwritten⟩
    · simpa [Store.remember, Function.update_of_ne ha] using (h.counts a).1
  · intro r' a stored hstored
    by_cases hr : r' = r
    · subst hr
      by_cases ha : a = address
      · subst ha
        obtain rfl : challenge = stored := by simpa [Store.remember] using hstored
        exact ⟨haddress, hwritten⟩
      · exact h.maps r' a stored (by simpa [Store.remember, Function.update_of_ne ha] using hstored)
    · exact h.maps r' a stored (by simpa [Store.remember, Function.update_of_ne hr] using hstored)
  · intro j held hj
    obtain ⟨hissued, hfound, hmem⟩ := h.holding j held hj
    refine ⟨?_, hfound, hmem⟩
    by_cases ha : held.address = address
    · subst ha
      simpa [Store.remember] using ⟨hissued, hnewer (j, held) hmem rfl⟩
    · simpa [Store.remember, Function.update_of_ne ha] using hissued

theorem Sound.look (h : Sound s H) (i : ℕ) (address : String) : Sound (s.look i address) H := by
  refine ⟨h.counts, h.redis, h.maps, ?_, h.distinct, h.held, h.holding, h.accepted, h.calls⟩
  intro f hf
  obtain ⟨hle, ⟨look, hlook, hfacts⟩, hcall⟩ := h.found f hf
  exact ⟨hle, ⟨look, List.mem_cons_of_mem _ hlook, hfacts⟩, hcall⟩

theorem Sound.forget (h : Sound s H) (r : ℕ) (address : String) : Sound (s.forget r address) H := by
  refine ⟨h.counts, h.redis, ?_, h.found, h.distinct, h.held, h.holding, h.accepted, h.calls⟩
  intro r' a stored hstored
  refine h.maps r' a stored ?_
  by_cases hr : r' = r
  · subst hr
    by_cases ha : a = address
    · subst ha
      simp [Store.forget] at hstored
    · simpa [Store.forget, Function.update_of_ne ha] using hstored
  · simpa [Store.forget, Function.update_of_ne hr] using hstored

/-- Redis loses challenges. -/
theorem Sound.lose (h : Sound s H) {redis : String → Option (Challenge × ℤ)}
    (hredis : ∀ a entry, redis a = some entry → s.redis a = some entry) :
    Sound { s with redis := redis } H :=
  ⟨h.counts, fun a challenge expiry hstored => h.redis a challenge expiry (hredis a _ hstored),
    h.maps, h.found, h.distinct, h.held, h.holding,
    h.accepted, h.calls⟩

/-- A call that gets nothing from Redis. -/
theorem Sound.miss (h : Sound s H) (hidle : H i = .idle) :
    Sound s (Function.update H i (.looked none)) := by
  have hne : ∀ j, H j ≠ .idle → Function.update H i (.looked none) j = H j := by
    intro j hj
    rw [Function.update_of_ne]
    rintro rfl
    exact hj hidle
  refine ⟨h.counts, h.redis, h.maps, ?_, h.distinct, ?_, ?_, ?_, h.calls⟩
  · intro f hf
    obtain ⟨hle, hlook, hcall⟩ := h.found f hf
    rw [hne f.call hcall.1]
    exact ⟨hle, hlook, hcall⟩
  · intro entry hentry
    have hheld := h.held entry hentry
    rw [hne entry.1 (by simp [hheld]), hheld]
  · refine update_cases (P := s.Holds) ?_ fun j _ => h.holding j
    rintro other ⟨⟩
  · intro a ha
    have hdecided := (h.accepted a ha).1
    rw [hne a.call (by simp [hdecided])]
    exact h.accepted a ha

/-- What Redis holds has not been found, if it holds nothing for the address of what is found
now. -/
theorem Sound.redis_find (h : Sound s H) (hgone : s.live challenge.address = none) {a : String}
    {stored : Challenge} {expiry : ℤ} (hstored : s.redis a = some (stored, expiry)) :
    stored.address = a ∧ (s.now < expiry → stored.serial = s.written a ∧
      ∀ f ∈ (s.find i challenge.address challenge).found, f.address = a →
        f.serial ≠ stored.serial) := by
  obtain ⟨hown, hlive⟩ := h.redis a stored expiry hstored
  refine ⟨hown, fun hnow => ⟨(hlive hnow).1, ?_⟩⟩
  rintro f (_ | ⟨_, hf⟩) hfa
  · have ha : challenge.address = a := hfa
    exact absurd hnow (live_eq_none.mp (ha ▸ hgone) stored expiry hstored)
  · exact (hlive hnow).2 f hf hfa

theorem Sound.distinct_find (h : Sound s H)
    (hnew : ∀ f ∈ s.found, f.address = challenge.address → f.serial ≠ challenge.serial) :
    ((s.find i challenge.address challenge).found.map fun f => (f.address, f.serial)).Nodup := by
  refine List.nodup_cons.mpr ⟨?_, h.distinct⟩
  intro hmem
  obtain ⟨f, hf, hkey⟩ := List.mem_map.mp hmem
  obtain ⟨hfa, hserial⟩ := Prod.mk.inj hkey
  exact hnew f hf hfa hserial

/-- A call that gets a challenge from Redis, which has it no longer. -/
theorem Sound.take (h : Sound s H) (hidle : H i = .idle) (hgone : s.live challenge.address = none)
    (hissued : s.issued challenge.address ≤ challenge.serial)
    (hwritten : challenge.serial ≤ s.written challenge.address)
    (hlook : ∃ look ∈ s.looks, look.call = i ∧ look.address = challenge.address ∧
      challenge.serial ≤ look.drawn)
    (hnew : ∀ f ∈ s.found, f.address = challenge.address → f.serial ≠ challenge.serial) :
    Sound ((s.find i challenge.address challenge).hold i challenge)
      (Function.update H i (.looked (some challenge))) := by
  have hne : ∀ j, H j ≠ .idle → Function.update H i (.looked (some challenge)) j = H j := by
    intro j hj
    rw [Function.update_of_ne]
    rintro rfl
    exact hj hidle
  refine ⟨h.counts, ?_, h.maps, ?_, ?_, ?_, ?_, ?_, h.calls⟩
  · exact fun a stored expiry hstored => h.redis_find hgone hstored
  · rintro f (_ | ⟨_, hf⟩)
    · refine ⟨hwritten, hlook, ?_⟩
      simp
    · obtain ⟨hle, hseen, hcall⟩ := h.found f hf
      rw [hne f.call hcall.1]
      exact ⟨hle, hseen, hcall⟩
  · exact h.distinct_find hnew
  · rintro entry (_ | ⟨_, hentry⟩)
    · exact Function.update_self ..
    · have hheld := h.held entry hentry
      rw [hne entry.1 (by simp [hheld]), hheld]
  · refine update_cases (P := Store.Holds _) ?_ ?_
    · intro other heq
      obtain rfl : challenge = other := by simpa using heq
      exact ⟨hissued, List.mem_cons_self, List.mem_cons_self⟩
    · intro j _ other hj
      obtain ⟨hle, hfound, hmem⟩ := h.holding j other hj
      exact ⟨hle, List.mem_cons_of_mem _ hfound, List.mem_cons_of_mem _ hmem⟩
  · intro a ha
    obtain ⟨hdecided, hfound, hrest⟩ := h.accepted a ha
    rw [hne a.call (by simp [hdecided])]
    exact ⟨hdecided, List.mem_cons_of_mem _ hfound, hrest⟩

/-- A call that decides has nothing to decide about any more. -/
theorem Sound.letGo (h : Sound s H) (i : ℕ) : Sound (s.letGo i) (Function.update H i .decided) := by
  refine ⟨h.counts, h.redis, h.maps, ?_, h.distinct, ?_, ?_, ?_, h.calls⟩
  · intro f hf
    obtain ⟨hle, hlook, hidle, hnone⟩ := h.found f hf
    refine ⟨hle, hlook, ?_⟩
    by_cases hi : f.call = i
    · simp [hi]
    · rw [Function.update_of_ne hi]
      exact ⟨hidle, hnone⟩
  · intro entry hentry
    obtain ⟨hmem, hi⟩ : entry ∈ s.held ∧ ¬entry.1 = i := by simpa [Store.letGo] using hentry
    rw [Function.update_of_ne hi]
    exact h.held entry hmem
  · refine update_cases (P := Store.Holds _) ?_ ?_
    · rintro other ⟨⟩
    intro j hji other hj
    obtain ⟨hle, hfound, hmem⟩ := h.holding j other hj
    exact ⟨hle, hfound, by simpa [Store.letGo] using ⟨hmem, hji⟩⟩
  · intro a ha
    obtain ⟨hdecided, hrest⟩ := h.accepted a ha
    refine ⟨?_, hrest⟩
    by_cases hi : a.call = i
    · rw [hi, Function.update_self]
    · rw [Function.update_of_ne hi, hdecided]

/-- A call finds a challenge in the memory of its replica. -/
theorem Sound.find (h : Sound s H) (hdecided : H i = .decided)
    (hgone : s.live challenge.address = none)
    (hwritten : challenge.serial ≤ s.written challenge.address)
    (hlook : ∃ look ∈ s.looks, look.call = i ∧ look.address = challenge.address ∧
      challenge.serial ≤ look.drawn)
    (hnew : ∀ f ∈ s.found, f.address = challenge.address → f.serial ≠ challenge.serial) :
    Sound (s.find i challenge.address challenge) H := by
  refine ⟨h.counts, ?_, h.maps, ?_, ?_, h.held, ?_, ?_, h.calls⟩
  · exact fun a stored expiry hstored => h.redis_find hgone hstored
  · rintro f (_ | ⟨_, hf⟩)
    · refine ⟨hwritten, hlook, ?_⟩
      simp [hdecided]
    · exact h.found f hf
  · exact h.distinct_find hnew
  · intro j other hj
    obtain ⟨hle, hfound, hmem⟩ := h.holding j other hj
    exact ⟨hle, List.mem_cons_of_mem _ hfound, hmem⟩
  · intro a ha
    obtain ⟨hcall, hfound, hrest⟩ := h.accepted a ha
    exact ⟨hcall, List.mem_cons_of_mem _ hfound, hrest⟩

/-- A call accepts what it has found, once. -/
theorem Sound.accept (h : Sound s H) (hdecided : H i = .decided)
    (hfirst : ∀ a ∈ s.accepted, a.call ≠ i) (hfound : ⟨i, address, challenge.serial⟩ ∈ s.found)
    (hnow : s.now ≤ challenge.expiresAt) (hissued : s.issued address ≤ challenge.serial) :
    Sound (s.accept i address challenge) H := by
  refine ⟨h.counts, h.redis, h.maps, h.found, h.distinct, h.held, h.holding, ?_, ?_⟩
  · rintro a (_ | ⟨_, ha⟩)
    · exact ⟨hdecided, hfound, hnow, hissued⟩
    · exact h.accepted a ha
  · refine List.nodup_cons.mpr ⟨?_, h.calls⟩
    intro hmem
    obtain ⟨a, ha, hcall⟩ := List.mem_map.mp hmem
    exact hfirst a ha hcall

end Invariant

section Steps
variable {env : Environment} {s : Store} {H : ℕ → Holding} {i replica : ℕ} {address : String}
  {fate : Fate} {dto : VerifyChallengeDto}

theorem Grows.write (s : Store) (address : String) (challenge : Challenge) (fate : Fate) :
    Grows s (s.write address challenge fate) :=
  ⟨fun _ => le_rfl, le_update (le_max_left _ _)⟩

@[simp] theorem takenOf_ok (taken : Option Challenge) : takenOf (.ok taken) = taken := rfl

@[simp] theorem takenOf_error (e : Failure) : takenOf (.error e) = none := rfl

theorem Sound.unset (h : Sound s H) (address : String) : Sound (s.unset address) H := by
  refine h.lose fun a entry hentry => ?_
  by_cases ha : a = address
  · subst ha
    simp at hentry
  · simpa [Function.update_of_ne ha] using hentry

theorem Grows.take (s : Store) (i : ℕ) (address : String) (fate : Fate) :
    Grows s (s.take i address fate).2 := by
  have hsame : ∀ s' : Store, s'.drawn = s.drawn → s'.written = s.written → Grows s s' :=
    fun s' hdrawn hwritten => ⟨fun a => (congrFun hdrawn a).ge, fun a => (congrFun hwritten a).ge⟩
  cases fate <;> cases hlive : s.live address <;> simp only [Store.take, hlive] <;>
    exact hsame _ rfl rfl

theorem Sound.carry_take (h : Sound s H) (hidle : H i = .idle) :
    Sound (s.take i address fate).2
      (Function.update H i (.looked (takenOf (s.take i address fate).1))) ∧
      ∀ challenge, takenOf (s.take i address fate).1 = some challenge →
        challenge.address = address := by
  have hlooked : Sound (s.look i address) H := h.look i address
  have hlost : Sound ((s.look i address).unset address) H := hlooked.unset address
  cases fate with
  | refused => simpa [Store.take, Fate.carried] using hlooked.miss hidle
  | lost => cases hlive :
      s.live address <;> simpa [Store.take, Fate.carried, hlive] using hlost.miss hidle
  | answered =>
    cases hlive : s.live address with
    | none => simpa [Store.take, Fate.carried, hlive] using hlost.miss hidle
    | some challenge =>
      obtain ⟨expiry, hstored, hnow⟩ := live_eq_some.mp hlive
      obtain ⟨rfl, hfacts⟩ := h.redis address challenge expiry hstored
      obtain ⟨hserial, hnew⟩ := hfacts hnow
      obtain ⟨hissued, hdrawn⟩ := h.counts challenge.address
      have hgone :
          ((s.look i challenge.address).unset challenge.address).live challenge.address = none := by
        simp [Store.live, Store.unset]
      have hlook : (⟨i, challenge.address, s.drawn challenge.address⟩ : Look) ∈
          ((s.look i challenge.address).unset challenge.address).looks :=
        List.mem_cons_self
      have htaken := hlost.take hidle hgone (hserial ▸ hissued) hserial.le ⟨_, hlook, rfl, rfl,
        hserial ▸ hdrawn⟩ hnew
      simpa [Store.take, Fate.carried, hlive] using htaken

theorem verdict_eq_ok {now : ℤ} {found : Option Challenge} {challenge : Challenge}
    (h : verdict env now dto found = .ok challenge) :
    found = some challenge ∧ now ≤ challenge.expiresAt := by
  cases found with
  | none => cases h
  | some stored =>
    simp only [verdict] at h
    split_ifs at h with hnonce hexpired
    split at h
    · cases h
    · split_ifs at h
      obtain rfl := Except.ok.inj h
      exact ⟨rfl, not_lt.mp hexpired⟩

/-- After its decision a call accepts what it has found, if anything. -/
theorem Sound.conclude (h : Sound s H) (hdecided : H i = .decided)
    (hfirst : ∀ a ∈ s.accepted, a.call ≠ i) {stored : Option Challenge}
    (hstored : ∀ challenge, stored = some challenge → ⟨i, address, challenge.serial⟩ ∈ s.found ∧
      s.issued address ≤ challenge.serial) :
    Sound (s.conclude env i address dto stored).2 H := by
  unfold Store.conclude
  cases hverdict : verdict env s.now dto stored with
  | error e => exact h
  | ok challenge =>
    obtain ⟨hsome, htime⟩ := verdict_eq_ok hverdict
    obtain ⟨hmem, hissued⟩ := hstored challenge hsome
    exact h.accept hdecided hfirst hmem htime hissued

theorem Sound.carry_decide (h : Sound s H) {taken : Option Challenge}
    (hlooked : H i = .looked taken)
    (htaken : ∀ challenge, taken = some challenge → challenge.address = address)
    (hcurrent : taken = none → ∀ stored ∈ s.maps replica address, s.Current i address stored) :
    Sound (s.decide env i replica address dto taken).2 (Function.update H i .decided) := by
  have hdecided : Function.update H i .decided i = .decided := Function.update_self ..
  have hfirst : ∀ a ∈ s.accepted, a.call ≠ i := by
    rintro a ha rfl
    have hcall := (h.accepted a ha).1
    rw [hlooked] at hcall
    cases hcall
  have hfree :
      Sound (((s.look i address).forget replica address).letGo i) (Function.update H i .decided) :=
    ((h.look i address).forget replica address).letGo i
  unfold Store.decide
  cases taken with
  | some challenge =>
    obtain rfl : challenge.address = address := htaken challenge rfl
    obtain ⟨hissued, hfound, -⟩ := h.holding i challenge hlooked
    refine hfree.conclude hdecided hfirst ?_
    rintro other ⟨⟩
    exact ⟨hfound, hissued⟩
  | none =>
    cases hmap : s.maps replica address with
    | none =>
      simp only [Store.fallBack, hmap]
      refine hfree.conclude hdecided hfirst ?_
      rintro other ⟨⟩
    | some stored =>
      obtain ⟨hissued, hlast, hgone⟩ := hcurrent rfl stored hmap
      obtain ⟨rfl, hwritten⟩ := h.maps replica address stored hmap
      have hdrawn : stored.serial ≤ s.drawn stored.address :=
        hwritten.trans (h.counts stored.address).2
      have hlook : (⟨i, stored.address, s.drawn stored.address⟩ : Look) ∈
          (((s.look i stored.address).forget replica stored.address).letGo i).looks :=
            List.mem_cons_self
      have hnew : ∀ f ∈ s.found, f.address = stored.address → f.serial ≠ stored.serial := by
        -- Another call that has found the challenge would have looked since it was made.
        intro f hf hfa hserial
        obtain ⟨-, ⟨look, hlook, hcall, hat, hle⟩, -, hnone⟩ := h.found f hf
        have hsame : look.call = i := hlast look hlook (hat.trans hfa) (hserial ▸ hle)
        rw [← hcall, hsame, hlooked] at hnone
        exact hnone rfl
      have hfound := hfree.find hdecided hgone hwritten ⟨_, hlook, rfl, rfl, hdrawn⟩ hnew
      simp only [Store.fallBack, hmap]
      refine Sound.conclude hfound hdecided hfirst ?_
      rintro other ⟨⟩
      exact ⟨List.mem_cons_self, hissued⟩

theorem Sound.passes (h : Sound s H) (n : ℕ) : Sound ((service env).passes n s) H := by
  simp only [service]
  split
  · exact h.lose fun _ _ hentry => nomatch hentry
  · refine ⟨h.counts, ?_, h.maps, h.found, h.distinct, h.held, h.holding, h.accepted, h.calls⟩
    intro a stored expiry hstored
    obtain ⟨hown, hlive⟩ := h.redis a stored expiry hstored
    refine ⟨hown, fun hnow => hlive ?_⟩
    have hpassed : s.now + n < expiry := hnow
    omega

theorem sound_opened (now : ℤ) : Sound (Store.opened now) fun _ => .idle :=
  { counts := fun _ => ⟨le_rfl, le_rfl⟩
    redis := fun _ _ _ h => nomatch h
    maps := fun _ _ _ h => nomatch h
    found := fun _ h => nomatch h
    distinct := List.nodup_nil
    held := fun _ h => nomatch h
    holding := fun _ _ h => nomatch h
    accepted := fun _ h => nomatch h
    calls := List.nodup_nil }

end Steps

section Programs

def loginCustody (env : Environment) : Custody Store Operation Request Answer Holding where
  service := service env
  conditions := conditions env
  inv := Sound
  grows := Grows
  idle := .idle

variable {env : Environment} {i : ℕ} {op : Operation}

theorem stable_drawn (n : ℕ) (address : String) :
    (loginCustody env).Stable fun s => n ≤ s.drawn address :=
  fun _ _ hgrows hn => hn.trans (hgrows.drawn address)

theorem stable_written (n : ℕ) (address : String) :
    (loginCustody env).Stable fun s => n ≤ s.written address :=
  fun _ _ hgrows hn => hn.trans (hgrows.written address)

theorem keeps_draw (address : String) :
    (loginCustody env).Keeps i op (ask (.draw address)) (fun _ => True) .idle
      (fun challenge s => challenge.address = address ∧ challenge.serial ≤ s.drawn address)
        fun _ => True := by
  refine Custody.Keeps.ask (D := loginCustody env) (r := .draw address)
    (fun _ => (Custody.stable_const _).and (stable_drawn _ address)) ?_
  intro s H hsound _ _ _
  refine ⟨⟨le_update (Nat.le_succ _), fun _ => le_rfl⟩, hsound.draw address, rfl, ?_⟩
  simp [loginCustody, service, carry, Store.draw]

/-- Whether or not the challenge comes to be in Redis, no older one is written after it. -/
theorem upholds_setJson {address : String} {challenge : Challenge}
    (haddress : challenge.address = address) (fate : Fate) :
    (loginCustody env).Upholds i op
      (ignoringFailure do
        let stored ← ask (.setJson address challenge fate)
        checked stored)
      (fun s => challenge.serial ≤ s.drawn address) .idle
        (fun _ s h' => h' = .idle ∧ challenge.serial ≤ s.written address)
      fun _ _ => True := by
  refine Custody.Upholds.ignoringFailure
    (E := fun (s : Store) (h' : Holding) => h' = .idle ∧ challenge.serial ≤ s.written address) ?_
  refine Custody.Keeps.andThen (F := fun _ => False)
    (Custody.Keeps.ask (D := loginCustody env) (r := .setJson address challenge fate)
    (S := fun _ s => challenge.serial ≤ s.written address) (fun _ => stable_written _ address) ?_)
      (fun stored => ?_) fun _ hs => hs.elim
  · rintro s H hsound hdrawn - ⟨horder, hrefused⟩
    refine ⟨Grows.write s address challenge fate, hsound.write haddress hdrawn horder hrefused, ?_⟩
    simp [loginCustody, service, carry, Store.write]
  · exact Custody.Upholds.checked (fun _ _ _ hs => ⟨rfl, hs⟩) fun _ _ _ hs => ⟨rfl, hs⟩

theorem keeps_remember {address : String} {challenge : Challenge}
    (haddress : challenge.address = address) (replica : ℕ) :
    (loginCustody env).Keeps i op (ask (.remember replica address challenge))
      (fun s => challenge.serial ≤ s.written address) .idle
      (fun _ _ => True) fun _ => True := by
  refine Custody.Keeps.ask (D := loginCustody env) (r := .remember replica address challenge)
    (fun _ => Custody.stable_const _) ?_
  intro s H hsound hwritten _ hnewer
  exact ⟨⟨fun _ => le_rfl, fun _ => le_rfl⟩,
    hsound.remember haddress hwritten hnewer replica, trivial⟩

theorem plays_generateChallenge (replica : ℕ) (walletAddress : String) (fate : Fate) :
    (loginCustody env).Plays i op
      (dropResult (generateChallenge env replica walletAddress fate)) := by
  refine Custody.Upholds.dropResult ?_
  unfold generateChallenge
  refine Custody.Upholds.checkThen (fun _ _ _ => trivial) fun _ => ?_
  refine Custody.Keeps.andThen (keeps_draw _) (fun challenge => ?_) fun _ _ => trivial
  refine Custody.Upholds.assuming fun haddress => ?_
  refine Custody.Upholds.bind (upholds_setJson haddress fate) fun _ h' => ?_
  refine Custody.Upholds.assuming fun hidle => ?_
  subst hidle
  refine Custody.Keeps.andThen (keeps_remember haddress replica) (fun _ => ?_) fun _ _ => trivial
  exact Custody.Upholds.pure fun _ _ => trivial

/-- The call holds what Redis gives it. -/
theorem upholds_takeJson (address : String) (fate : Fate) :
    (loginCustody env).Upholds i op (ask (.takeJson address fate)) (fun _ => True) .idle
      (fun answer _ h' => h' = .looked (takenOf answer) ∧
        ∀ challenge, takenOf answer = some challenge → challenge.address = address)
      fun _ _ => True := by
  refine Custody.Upholds.ask (D := loginCustody env) (r := .takeJson address fate)
    (fun answer => .looked (takenOf answer))
    (fun _ => Custody.stable_const _) ?_
  intro s H hsound _ hidle _
  have htake := @Sound.carry_take s H i address fate hsound hidle
  obtain ⟨hafter, haddress⟩ := htake
  exact ⟨Grows.take s i address fate, hafter, haddress⟩

theorem Grows.decide (s : Store) (i replica : ℕ) (address : String) (dto : VerifyChallengeDto)
    (taken : Option Challenge) :
    Grows s (s.decide env i replica address dto taken).2 := by
  have hsame : ∀ s' : Store, s'.drawn = s.drawn → s'.written = s.written → Grows s s' :=
    fun s' hdrawn hwritten => ⟨fun a => (congrFun hdrawn a).ge, fun a => (congrFun hwritten a).ge⟩
  have hfallBack : (s.fallBack i replica address taken).2.drawn = s.drawn ∧
      (s.fallBack i replica address taken).2.written = s.written := by
    cases taken <;> cases hmap : s.maps replica address <;> simp [Store.fallBack, hmap, Store.find]
  unfold Store.decide Store.conclude
  dsimp only
  split
  · exact hsame _ hfallBack.1 hfallBack.2
  · exact hsame _ hfallBack.1 hfallBack.2

theorem plays_verifyChallenge (replica : ℕ) (dto : VerifyChallengeDto) (fate : Fate) :
    (loginCustody env).Plays i op (dropResult (verifyChallenge env replica dto fate)) := by
  refine Custody.Upholds.dropResult ?_
  unfold verifyChallenge
  refine Custody.Upholds.checkThen (fun _ _ _ => trivial) fun _ => ?_
  refine Custody.Upholds.bind (upholds_takeJson _ fate) fun answer h' => ?_
  refine Custody.Upholds.assuming fun hheld => ?_
  subst hheld
  refine Custody.Upholds.given (fun _ hs => hs) fun haddress => ?_
  refine Custody.Upholds.bind (S := fun _ _ _ => True) ?_ fun decision h' => ?_
  · refine (Custody.Upholds.handOver (D := loginCustody env)
      (r := .decide replica dto (takenOf answer)) .decided ?_).weaken (fun _ hs => hs)
      (fun _ _ _ _ => trivial) fun _ _ hs => hs
    intro s H hsound _ hlooked hallows
    exact ⟨Grows.decide s i replica _ dto _, hsound.carry_decide hlooked haddress hallows⟩
  · exact Custody.Upholds.checked (fun _ _ _ _ => trivial) fun _ _ _ _ => trivial

theorem loginCustody_kept (env : Environment) : (loginCustody env).Kept where
  refl := Grows.refl
  programs i op _ := by
    cases op with
    | generateChallenge replica walletAddress fate =>
      exact plays_generateChallenge replica walletAddress fate
    | verifyChallenge replica dto fate => exact plays_verifyChallenge replica dto fate
  passes n s H hsound _ := by
    refine ⟨?_, hsound.passes n⟩
    show Grows s (if n = 0 then _ else _)
    split
    · exact ⟨fun _ => le_rfl, fun _ => le_rfl⟩
    · exact ⟨fun _ => le_rfl, fun _ => le_rfl⟩

end Programs

section Results

/-- Two acceptances of one challenge would be of one call, which accepts once. -/
theorem Sound.singleUse {s : Store} {H : ℕ → Holding} (h : Sound s H) : s.SingleUse := by
  refine ⟨?_, fun a ha => (h.accepted a ha).2.2⟩
  refine List.Nodup.map_on ?_ (List.Nodup.of_map _ h.calls)
  intro a ha b hb hkey
  obtain ⟨haddress, hserial⟩ := Prod.mk.inj hkey
  have hfa := (h.accepted a ha).2.1
  have hfb := (h.accepted b hb).2.1
  have hsame := List.inj_on_of_nodup_map h.distinct hfa hfb (by simp [haddress, hserial])
  exact List.inj_on_of_nodup_map h.calls ha hb (congrArg Found.call hsame)

/-- In every run in which the challenges of an address are written to Redis in order, a write that
fails leaves no older one there, none is issued while a call decides about an older one, and a copy
in the memory of a replica is used only when it is up to date: each challenge is accepted at most
once, before it expires and while no newer one has been issued for its address. -/
theorem wallet_challenges_single_use (env : Environment) {now : ℤ}
    {tr : Trace Store Operation Request Answer} {c : Config Store Operation Request Answer}
    (hrun : (service env).Runs (Store.opened now) tr c)
    (hmeets : ∀ t ∈ tr, StoreService.Meets (conditions env) t) : c.state.SingleUse := by
  obtain ⟨H, hsound⟩ := (loginCustody_kept env).run hrun hmeets (sound_opened now)
  exact hsound.singleUse

end Results

end VeriAgentPay.WalletLogins

namespace VeriAgentPay.Devnet
open InterleavedPrograms WalletLogins

/-- A signature is the message with the address. -/
def loginEnvironment : WalletLogins.Environment where
  nonce address n := s!"nonce_{address}_{n}"
  verifyMessage text signature := if signature.startsWith text then .ok "0xa"
    else .error "invalid signature"
  toLowerCase := id

def loginDto (n : ℕ) : VerifyChallengeDto :=
  ⟨"0xa", "VeriAgent Pay Authentication Nonce: " ++ s!"nonce_0xa_{n}", s!"nonce_0xa_{n}"⟩

/-- A challenge is made by one replica and accepted by another; a second attempt there is refused.
Then one is made that Redis does not get, and is accepted from the memory of its replica. -/
def loginsInTurn : List (Move WalletLogins.Operation) :=
  [.start 0 (.generateChallenge 0 "0xa" .answered), .step 0, .step 0, .step 0,
    .start 1 (.verifyChallenge 1 (loginDto 1) .answered),
    .start 2 (.verifyChallenge 1 (loginDto 1) .answered),
    .step 1, .step 2, .step 1, .step 2,
    .start 3 (.generateChallenge 0 "0xa" .refused), .step 3, .step 3, .step 3,
    .start 4 (.verifyChallenge 0 (loginDto 2) .answered), .step 4, .step 4]

theorem wallet_challenges_single_use_devnet :
    ∃ tr c, (WalletLogins.service loginEnvironment).Runs (Store.opened 0) tr c ∧
      (∀ t ∈ tr, StoreService.Meets (WalletLogins.conditions loginEnvironment) t) ∧
      c.state.accepted.map (fun a => (a.call, a.serial)) = [(4, 2), (1, 1)] ∧
      c.state.SingleUse := by
  have hmoves :
      ((WalletLogins.service loginEnvironment).moves (WalletLogins.conditions loginEnvironment)
      (Config.initial (Store.opened 0)) loginsInTurn).map
      (fun c => c.state.accepted.map fun a => (a.call, a.serial)) = some [(4, 2), (1, 1)] := by
    decide +kernel
  obtain ⟨tr, c, hrun, hmeets, -, haccepted⟩ := StoreService.runs_of_computed hmoves
  exact ⟨tr, c, hrun, hmeets, haccepted, wallet_challenges_single_use loginEnvironment hrun hmeets⟩

/-- The replica that made the challenge accepts it again after another one has. -/
theorem challenge_accepted_twice :
    ∃ tr c, (WalletLogins.service loginEnvironment).Runs (Store.opened 0) tr c ∧
      c.state.accepted.map (fun a => (a.call, a.serial)) = [(2, 1), (1, 1)] ∧
      ¬c.state.SingleUse := by
  have hmoves :
      ((WalletLogins.service loginEnvironment).moves StoreService.anything
        (Config.initial (Store.opened 0))
      [.start 0 (.generateChallenge 0 "0xa" .answered), .step 0, .step 0, .step 0,
        .start 1 (.verifyChallenge 1 (loginDto 1) .answered), .step 1, .step 1,
        .start 2 (.verifyChallenge 0 (loginDto 1) .answered), .step 2, .step 2]).map
      (fun c => (c.state.accepted.map (fun a => (a.call, a.serial)), decide c.state.SingleUse)) =
        some ([(2, 1), (1, 1)], false) := by
    decide +kernel
  obtain ⟨tr, c, hrun, -, -, hfacts⟩ := StoreService.runs_of_computed hmoves
  obtain ⟨haccepted, htwice⟩ := Prod.mk.inj hfacts
  exact ⟨tr, c, hrun, haccepted, of_decide_eq_false htwice⟩

end VeriAgentPay.Devnet
