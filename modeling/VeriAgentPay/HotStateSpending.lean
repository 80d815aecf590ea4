import VeriAgentPay.BackendStore
import VeriAgentPay.ProgramCustody
import VeriAgentPay.PublicEnvelopes
import VeriAgentPay.RollingWindows
import VeriAgentPay.RoundedNumbers

/-!
# The spending counter of a session key

A counter with a time to live says what a session key has spent. It is incremented before the
transaction, and a start of the process builds it anew from the records of the transactions that
succeeded. The amounts are doubles, and the counter is kept as text.
-/

namespace VeriAgentPay.HotState
open InterleavedPrograms RollingWindows RoundedNumbers
open InterleavedPrograms.Fallible (checked check dropResult ignoringFailure)
open Backend (Failure outage)
open CheckedOutcome (orError)
open PublicEnvelopes (toFixed2)

section Numbers

/-- A number of JavaScript. -/
abbrev Number := { x : ℚ // double x = x }

/-- What a column of decimals keeps of a number: thirty digits after the point. -/
def column (x : ℚ) : ℚ :=
  if 0 ≤ x then ⌊x * 10 ^ 30 + 1 / 2⌋ / 10 ^ 30 else -(⌊-x * 10 ^ 30 + 1 / 2⌋ / 10 ^ 30)

/-- A number that is written without an exponent. -/
def Plain (x : ℚ) : Prop := x = 0 ∨ 1 / 10 ^ 6 ≤ written x ∧ written x < 10 ^ 21

instance (x : ℚ) : Decidable (Plain x) := inferInstanceAs (Decidable (_ ∨ _))

/-- What the script reads of a total in JSON: the digits and the point, up to an exponent, and
nothing of a number with a sign. -/
def jsonMatch (x : ℚ) : ℚ :=
  if x < 0 then 0
  else if Plain x then double (written x)
  else double (written x / 10 ^ Int.log 10 (written x))

/-- A number that went through `tostring` of Lua, which writes fourteen digits. -/
def tostring (x : ℚ) : ℚ := double ((decimal 13).round x)

end Numbers

section Tables

/-- The row of a session key, as far as it is cached. -/
structure SessionKey where
  userId : String
  perTxLimitUSD : ℚ
  dailyLimitUSD : ℚ
  expiryAt : ℤ
  revokedAt : Option ℤ
  deriving DecidableEq

/-- The limits are cached as numbers. -/
def SessionKey.cached (key : SessionKey) : SessionKey :=
  { key with
    perTxLimitUSD := double key.perTxLimitUSD
    dailyLimitUSD := double key.dailyLimitUSD }

/-- An amount that was admitted, in the history, as it is written. -/
structure Spend where
  serial : ℕ
  amountUSD : ℚ
  time : ℤ
  deriving DecidableEq

/-- The counter, with the total that the script reads of its text, and of the history the amounts
that it consists of. -/
structure Counter where
  totalUSD : ℚ
  expiresAt : ℤ
  counted : List Spend
  deriving DecidableEq

/-- A row of the table `SpendingRecord`, with the amount of the history that it is about. -/
structure SpendingRecord where
  amountUSD : ℚ
  timestamp : ℤ
  spend : Spend
  deriving DecidableEq

/-- The caches and the records of one session key; of the history the admitted amounts, and those
whose transactions have succeeded and have failed. -/
structure Tables where
  now : ℤ
  cached : Option (SessionKey × ℤ)
  counter : Option Counter
  records : List SpendingRecord
  accepted : List Spend
  succeeded : List Spend
  failed : List Spend

/-- A day in milliseconds. -/
def DAY : ℤ := 86400000

/-- An entry whose time to live is over is not there. -/
def Tables.shown (t : Tables) : Option Counter :=
  t.counter.filter fun counter => t.now < counter.expiresAt

def Tables.currentSpent (t : Tables) : ℚ := t.shown.elim 0 Counter.totalUSD

def Tables.counted (t : Tables) : List Spend := t.shown.elim [] Counter.counted

/-- The amount that is admitted next. -/
def Tables.nextSpend (t : Tables) (txAmountUSD : Number) : Spend :=
  ⟨t.accepted.length, written txAmountUSD, t.now⟩

def Tables.newTotal (t : Tables) (txAmountUSD : Number) : ℚ := double (t.currentSpent + txAmountUSD)

def Tables.increment (t : Tables) (txAmountUSD : Number) (ttlMs : ℤ) : Tables :=
  { t with
    accepted := t.nextSpend txAmountUSD :: t.accepted
    counter := some {
      totalUSD := tostring (t.newTotal txAmountUSD)
      expiresAt := t.shown.elim (t.now + ttlMs) Counter.expiresAt
      counted := t.nextSpend txAmountUSD :: t.counted } }

def Tables.succeed (t : Tables) (spend : Spend) : Tables :=
  { t with succeeded := spend :: t.succeeded }

def Tables.fail (t : Tables) (spend : Spend) : Tables := { t with failed := spend :: t.failed }

def Tables.record (t : Tables) (spend : Spend) (txAmountUSD : Number) : Tables :=
  { t with records := ⟨column (written txAmountUSD), t.now, spend⟩ :: t.records }

/-- The sum of the column, as a number. -/
def totalOf (records : List SpendingRecord) : ℚ := double (records.map SpendingRecord.amountUSD).sum

def Tables.setSpend (t : Tables) (records : List SpendingRecord) : Tables :=
  { t with
    counter := some {
      totalUSD := jsonMatch (totalOf records)
      expiresAt := t.now + DAY
      counted := records.map SpendingRecord.spend } }

end Tables

section Requests

inductive Request where
  | getSessionKey
  /-- The script that checks the counter and increments it. -/
  | checkAndIncrementSpend (txAmountUSD : Number) (dailyLimitUSD : ℚ) (ttlMs : ℤ) (fate : Fate)
  /-- The transaction of a call, with the amount that was admitted for it. -/
  | execute (spend : Option Spend) (txHash : String) (fate : Fate)
  | createRecord (spend : Spend) (txAmountUSD : Number) (fate : Fate)
  | delByPrefix (fate : Fate)
  | findActiveKey
  | setSessionKey (key : SessionKey) (fate : Fate)
  | findSpending
  | setSpend (records : List SpendingRecord) (fate : Fate)

abbrev Answer : Request → Type
  | .getSessionKey | .findActiveKey => Option SessionKey
  /- What was spent before, and the amount if it is admitted. -/
  | .checkAndIncrementSpend _ _ _ _ => Except Failure (ℚ × Option Spend)
  | .execute _ _ _ => Except Failure String
  | .createRecord _ _ _ | .delByPrefix _ | .setSessionKey _ _ | .setSpend _ _ => Except Failure Unit
  | .findSpending => List SpendingRecord

abbrev Service (α : Type) := Fallible Failure Request Answer α

abbrev ask (r : Request) : Service (Answer r) := Fallible.ask r

/-- A key that was revoked or has expired. -/
def SessionKey.ended (key : SessionKey) (now : ℤ) : Prop :=
  key.revokedAt ≠ none ∨ key.expiryAt < now

instance (key : SessionKey) (now : ℤ) : Decidable (key.ended now) :=
  inferInstanceAs (Decidable (key.revokedAt ≠ none ∨ key.expiryAt < now))

/-- The cached key, if it has not ended; if it has, it is deleted. -/
def Tables.readKey (t : Tables) : Option SessionKey × Tables :=
  match t.cached.filter fun entry => t.now < entry.2 with
  | none => (none, t)
  | some entry =>
    if entry.1.ended t.now then (none, { t with cached := none }) else (some entry.1, t)

/-- A call whose increment is carried out without an answer ends without a transaction. -/
def Tables.admit (t : Tables) (txAmountUSD : Number) (ttlMs : ℤ) : Fate → Tables
  | .answered => t.increment txAmountUSD ttlMs
  | .lost => (t.increment txAmountUSD ttlMs).fail (t.nextSpend txAmountUSD)
  | .refused => t

/-- `key` is the row of the session key. -/
def carry (key : SessionKey) (t : Tables) : (r : Request) → Answer r × Tables
  | .getSessionKey => t.readKey
  | .checkAndIncrementSpend txAmountUSD dailyLimitUSD ttlMs fate =>
    if dailyLimitUSD < t.newTotal txAmountUSD then
      (fate.told outage (tostring t.currentSpent, none), t)
    else
      (fate.told outage (tostring t.currentSpent, some (t.nextSpend txAmountUSD)),
        t.admit txAmountUSD ttlMs fate)
  | .execute spend txHash fate =>
    (fate.told (.badRequest
      "The payment could not be completed on-chain. No funds have left your wallet.") txHash,
      spend.elim t fun spend => if fate.carried then t.succeed spend else t.fail spend)
  | .createRecord spend txAmountUSD fate =>
    (fate.told outage (), if fate.carried then t.record spend txAmountUSD else t)
  | .delByPrefix fate =>
    (fate.told outage (), if fate.carried then { t with cached := none, counter := none } else t)
  | .findActiveKey => (if key.revokedAt = none ∧ t.now < key.expiryAt then some key else none, t)
  | .setSessionKey cachedKey fate =>
    (fate.told outage (), if fate.carried then
      { t with cached := some (cachedKey, cachedKey.expiryAt) } else t)
  | .findSpending => (t.records.filter fun record => t.now - DAY ≤ record.timestamp, t)
  | .setSpend records fate => (fate.told outage (), if fate.carried then t.setSpend records else t)

end Requests

section Services

/-- What the outside answers to a session action. -/
structure Turns where
  /-- Whether the user has to show a passkey, and has. -/
  biometrics : Except Failure Unit
  /-- How a number is written. -/
  text : ℚ → String
  increment : Fate
  txHash : String
  execution : Fate
  record : Fate

def getSessionKey : Service (Option SessionKey) := ask .getSessionKey

/-- The verdict: the amount of the history that was admitted, or the reason of the refusal. -/
def validateAndRecordSpending (txAmountUSD : Number) (perTxLimitUSD dailyLimitUSD : ℚ)
    (turns : Turns) :
    Service (Except String Spend) := do
  let session ← getSessionKey
  if session = none then pure (.error "Session key is expired, revoked, or invalid")
  else if perTxLimitUSD < txAmountUSD then
    pure (.error ("Transaction ($" ++ turns.text txAmountUSD ++ ") exceeds single tx limit ($" ++
      turns.text perTxLimitUSD ++ ")"))
  else do
    let result ← ask (.checkAndIncrementSpend txAmountUSD dailyLimitUSD DAY turns.increment)
    let result ← checked result
    pure (orError result.2
      ("Cumulative spending ($" ++ turns.text (toFixed2 (double (result.1 + txAmountUSD))) ++
      ") exceeds daily limit ($" ++ turns.text dailyLimitUSD ++ ")"))

def execute (spend : Option Spend) (turns : Turns) : Service Unit := do
  let sent ← ask (.execute spend turns.txHash turns.execution)
  let _ ← checked sent

/-- The record is written later, and a failure is logged. -/
def recordSpendingAsync (spend : Spend) (txAmountUSD : Number) (turns : Turns) : Service Unit :=
  ignoringFailure do
    let created ← ask (.createRecord spend txAmountUSD turns.record)
    checked created

def spendUnder (cachedKey : SessionKey) (txAmountUSD : Number) (turns : Turns) : Service Unit := do
  let policyVerdict ← validateAndRecordSpending txAmountUSD cachedKey.perTxLimitUSD
    cachedKey.dailyLimitUSD turns
  let spend ← checked (policyVerdict.mapError Failure.forbidden)
  execute (some spend) turns
  recordSpendingAsync spend txAmountUSD turns

/-- An action that credits the vault is not checked against the limits. -/
def executeLocalSessionAction (userId : String) (txAmountUSD : Number) (inbound : Bool)
    (turns : Turns) :
    Service Unit := do
  checked turns.biometrics
  let cachedKey ← getSessionKey
  let cachedKey ← checked
    (orError cachedKey (.forbidden "Session key is expired, revoked, or invalid"))
  check (cachedKey.userId = "" ∨ cachedKey.userId = userId)
    (.forbidden "Session key does not belong to this user")
  if inbound then execute none turns else spendUnder cachedKey txAmountUSD turns

/-- How the requests of a start end. -/
structure WarmUpTurns where
  flush : Fate
  setKey : Fate
  setSpend : Fate

def warmKey (key : Option SessionKey) (fate : Fate) : Service Unit :=
  match key with
  | none => pure ()
  | some key => do
    let set ← ask (.setSessionKey key.cached fate)
    checked set

/-- No entry is made for a key without records. -/
def warmSpend (records : List SpendingRecord) (fate : Fate) : Service Unit :=
  if records = [] then pure ()
  else do
    let set ← ask (.setSpend records fate)
    checked set

/-- What a start of the process does for the session key; a failure is logged. -/
def onModuleInit (turns : WarmUpTurns) : Service Unit :=
  ignoringFailure do
    let flushed ← ask (.delByPrefix turns.flush)
    checked flushed
    let activeKey ← ask .findActiveKey
    warmKey activeKey turns.setKey
    let spending ← ask .findSpending
    warmSpend spending turns.setSpend

inductive Operation where
  | executeLocalSessionAction (userId : String) (txAmountUSD : Number) (inbound :
      Bool) (turns : Turns)
  | onModuleInit (turns : WarmUpTurns)

def Operation.program : Operation → Program Request Answer Unit
  | executeLocalSessionAction userId txAmountUSD inbound turns =>
    dropResult (HotState.executeLocalSessionAction userId txAmountUSD inbound turns)
  | onModuleInit turns => dropResult (HotState.onModuleInit turns)

def spendingService (key : SessionKey) : StoreService Tables Operation Request Answer where
  program := Operation.program
  carry _ _ := carry key
  passes n t := { t with now := t.now + n }

end Services

section Counting

/-- What is counted with a further amount, exactly. -/
def Tables.exactTotal (t : Tables) (txAmountUSD : Number) : ℚ :=
  total Spend.amountUSD (t.nextSpend txAmountUSD :: t.counted)

/-- A counter begins when no amount of the last day was admitted, its answer is not lost, no
transaction fails while its amount is counted, and a start counts every amount of the last day. The
column keeps the amounts, what is counted has fourteen digits, and a start writes no exponent. -/
def countsTheLastDay : StoreService.Conditions Tables Operation Request where
  starts op :=
    match op with
    | .executeLocalSessionAction _ txAmountUSD _ _ =>
      0 ≤ txAmountUSD.val ∧ column (written txAmountUSD) = written txAmountUSD
    | .onModuleInit _ => True
  allows _ _ t
    | .checkAndIncrementSpend txAmountUSD dailyLimitUSD _ fate =>
      fate.carried → t.newTotal txAmountUSD ≤ dailyLimitUSD →
        fate ≠ .lost ∧ (t.shown = none → ∀ spend ∈ t.accepted, spend.time + DAY ≤ t.now) ∧
          (decimal 13).round (t.exactTotal txAmountUSD) = t.exactTotal txAmountUSD
    | .execute spend _ fate => ¬fate.carried → ∀ s ∈ spend, s ∉ t.counted
    | .setSpend records fate => fate.carried → Plain (totalOf records) ∧
        ∀ spend ∈ t.accepted, t.now < spend.time + DAY → spend ∈ records.map SpendingRecord.spend
    | _ => True
  passes _ _ := True

/-- A number with thirty digits after the point at most. -/
def Storable (x : ℚ) : Prop := ∃ n : ℕ, x = n / 10 ^ 30

/-- What a call has to do for an amount. -/
inductive Holding where
  | idle
  | admitted (spend : Spend)
  | sent (spend : Spend)

def Holding.spend? : Holding → Option Spend
  | idle => none
  | admitted spend | sent spend => some spend

def Holding.Holds (t : Tables) : Holding → Prop
  | idle => True
  | admitted spend => spend ∈ t.accepted ∧ spend ∉ t.succeeded ∧ spend ∉ t.failed
  | sent spend => spend ∈ t.succeeded ∧ spend ∉ t.records.map SpendingRecord.spend

/-- The counter consists of amounts that were admitted, with all of the last day and none whose
transaction has failed. -/
structure Counts (t : Tables) (counter : Counter) : Prop where
  total : counter.totalUSD = double (total Spend.amountUSD counter.counted)
  nodup : counter.counted.Nodup
  accepted : ∀ spend ∈ counter.counted, spend ∈ t.accepted
  alive : ∀ spend ∈ counter.counted, spend ∉ t.failed
  covers : ∀ spend ∈ t.accepted, t.now < spend.time + DAY → spend ∈ counter.counted

/-- The invariant. -/
structure Budgeted (key : SessionKey) (t : Tables) (H : ℕ → Holding) : Prop where
  within : Within Spend.time Spend.amountUSD DAY key.dailyLimitUSD t.accepted
  counts : ∀ counter ∈ t.shown, Counts t counter
  nodup : t.accepted.Nodup
  serials : ∀ spend ∈ t.accepted, spend.serial < t.accepted.length
  storable : ∀ spend ∈ t.accepted, Storable spend.amountUSD
  failed : ∀ spend ∈ t.failed, spend ∈ t.accepted
  succeeded : t.succeeded.Nodup
  settled : ∀ spend ∈ t.succeeded, spend ∈ t.accepted ∧ spend ∉ t.failed
  recorded : (t.records.map SpendingRecord.spend).Nodup
  records : ∀ record ∈ t.records, record.spend ∈ t.succeeded ∧
    record.amountUSD = record.spend.amountUSD
  cached : ∀ entry ∈ t.cached, entry.1.dailyLimitUSD = double key.dailyLimitUSD
  held : ∀ i, (H i).Holds t
  alone : ∀ i j spend, (H i).spend? = some spend → (H j).spend? = some spend → i = j

/-- What no step undoes. -/
def Lasting (t t' : Tables) : Prop := ∀ spend ∈ t.succeeded, spend ∈ t'.succeeded

def spendingCustody (key : SessionKey) : Custody Tables Operation Request Answer Holding where
  service := spendingService key
  conditions := countsTheLastDay
  inv := Budgeted key
  grows := Lasting
  idle := .idle

variable {key : SessionKey} {t t' : Tables} {H : ℕ → Holding} {i : ℕ} {spend : Spend}
  {amount : Number} {x y : ℚ}

theorem Storable.nonneg (hx : Storable x) : 0 ≤ x := by
  obtain ⟨n, rfl⟩ := hx
  positivity

theorem Storable.add (hx : Storable x) (hy : Storable y) : Storable (x + y) := by
  obtain ⟨n, rfl⟩ := hx
  obtain ⟨m, rfl⟩ := hy
  refine ⟨n + m, ?_⟩
  push_cast
  ring

theorem storable_total {spends : List Spend}
    (hspends : ∀ spend ∈ spends, Storable spend.amountUSD) :
    Storable (total Spend.amountUSD spends) := by
  induction spends with
  | nil => exact ⟨0, by simp [total]⟩
  | cons spend rest ih =>
    obtain ⟨hspend, hrest⟩ := List.forall_mem_cons.mp hspends
    rw [total_cons]
    exact hspend.add (ih hrest)

/-- Such a number is nothing, or not too small for a double. -/
theorem Storable.normal (hx : Storable x) : x = 0 ∨ (2 : ℚ) ^ (-1022 : ℤ) ≤ x := by
  obtain ⟨n, rfl⟩ := hx
  cases n with
  | zero => exact .inl (by simp)
  | succ n =>
    right
    have hstep : (1 : ℚ) / 10 ^ 30 ≤ ((n + 1 : ℕ) : ℚ) / 10 ^ 30 := by
      refine div_le_div_of_nonneg_right ?_ (by positivity)
      push_cast
      linarith [(Nat.cast_nonneg n : (0 : ℚ) ≤ n)]
    calc (2 : ℚ) ^ (-1022 : ℤ) ≤ 2 ^ (-100 : ℤ) := zpow_le_zpow_right₀ (by norm_num) (by norm_num)
      _ ≤ 1 / 10 ^ 30 := by norm_num
      _ ≤ _ := hstep

theorem storable_of_column (hx : 0 ≤ x) (hsame : column x = x) : Storable x := by
  rw [column, if_pos hx] at hsame
  refine ⟨⌊x * 10 ^ 30 + 1 / 2⌋.toNat, ?_⟩
  have hfloor : 0 ≤ ⌊x * 10 ^ 30 + 1 / 2⌋ := Int.floor_nonneg.mpr (by positivity)
  have hcast : ((⌊x * 10 ^ 30 + 1 / 2⌋.toNat : ℕ) : ℚ) = (⌊x * 10 ^ 30 + 1 / 2⌋ : ℚ) := by
    exact_mod_cast congrArg (Int.cast (R := ℚ)) (Int.toNat_of_nonneg hfloor)
  rw [hcast]
  exact hsame.symm

/-- A number that is not negative is written as one. -/
theorem written_nonneg (hx : 0 ≤ amount.val) : 0 ≤ written amount.val := by
  rcases eq_or_lt_of_le hx with hzero | hpos
  · rw [← hzero, written_zero]
  · by_contra hneg
    have hread := double_mono (not_le.mp hneg).le
    rw [double_written amount.2, double_zero] at hread
    exact absurd hpos (not_lt.mpr hread)

/-- What the script reads of a total that is written without an exponent is the total. -/
theorem jsonMatch_eq (hx : 0 ≤ x) (hsame : double x = x) (hplain : Plain x) : jsonMatch x = x := by
  rw [jsonMatch, if_neg (not_lt.mpr hx), if_pos hplain, double_written hsame]

theorem Lasting.refl (t : Tables) : Lasting t t := fun _ hspend => hspend

theorem mem_counted (hspend : spend ∈ t.counted) :
    ∃ counter ∈ t.shown, spend ∈ counter.counted := by
  unfold Tables.counted at hspend
  cases hshown : t.shown with
  | none =>
    rw [hshown] at hspend
    cases hspend
  | some counter =>
    rw [hshown] at hspend
    exact ⟨counter, rfl, hspend⟩

theorem Counts.of_same {counter : Counter} (h : Counts t counter)
    (haccepted : t'.accepted = t.accepted) (hfailed : t'.failed = t.failed)
    (hnow : t'.now = t.now) : Counts t' counter := by
  constructor
  · exact h.total
  · exact h.nodup
  · rw [haccepted]
    exact h.accepted
  · rw [hfailed]
    exact h.alive
  · rw [haccepted, hnow]
    exact h.covers

/-- What is shown is what the counted amounts sum up to. -/
theorem Budgeted.currentSpent (hinv : Budgeted key t H) :
    t.currentSpent = double (total Spend.amountUSD t.counted) := by
  unfold Tables.currentSpent Tables.counted
  cases hshown : t.shown with
  | none => simp [total]
  | some counter => exact (hinv.counts counter hshown).total

theorem Budgeted.counted_nodup (hinv : Budgeted key t H) : t.counted.Nodup := by
  unfold Tables.counted
  cases hshown : t.shown with
  | none => exact List.nodup_nil
  | some counter => exact (hinv.counts counter hshown).nodup

theorem Budgeted.counted_accepted (hinv : Budgeted key t H) (hspend : spend ∈ t.counted) :
    spend ∈ t.accepted ∧ spend ∉ t.failed := by
  obtain ⟨counter, hshown, hcounted⟩ := mem_counted hspend
  exact ⟨(hinv.counts counter hshown).accepted spend hcounted,
    (hinv.counts counter hshown).alive spend hcounted⟩

theorem Budgeted.counted_storable (hinv : Budgeted key t H) :
    ∀ spend ∈ t.counted, Storable spend.amountUSD :=
  fun spend hspend => hinv.storable spend (hinv.counted_accepted hspend).1

/-- A new amount is not in the history. -/
theorem Budgeted.fresh (hinv : Budgeted key t H) (amount : Number) :
    t.nextSpend amount ∉ t.accepted :=
  fun hold => absurd (hinv.serials _ hold) (lt_irrefl t.accepted.length)

/-- All amounts of the last day are counted when the next one comes. -/
theorem Budgeted.covered (hinv : Budgeted key t H)
    (hbegins : t.shown = none → ∀ spend ∈ t.accepted, spend.time + DAY ≤ t.now) :
    ∀ spend ∈ t.accepted, t.now < spend.time + DAY → spend ∈ t.counted := by
  intro spend hspend hrecent
  unfold Tables.counted
  cases hshown : t.shown with
  | none => exact absurd hrecent (not_lt.mpr (hbegins hshown spend hspend))
  | some counter => exact (hinv.counts counter hshown).covers spend hspend hrecent

theorem shown_increment {ttlMs : ℤ} {counter : Counter}
    (hshown : counter ∈ (t.increment amount ttlMs).shown) :
    counter.totalUSD = tostring (t.newTotal amount) ∧
    counter.counted = t.nextSpend amount :: t.counted := by
  obtain ⟨hcounter, -⟩ := Option.filter_eq_some_iff.mp hshown
  obtain rfl := Option.some.inj hcounter
  exact ⟨rfl, rfl⟩

/-- A limit that is not negative, is kept by its column, and has fourteen digits at most. -/
structure SessionKey.Exact (key : SessionKey) : Prop where
  storable : Storable key.dailyLimitUSD
  digits : (decimal 13).round key.dailyLimitUSD = key.dailyLimitUSD

theorem Budgeted.newTotal (hinv : Budgeted key t H) (amount : Number) :
    t.newTotal amount = double
      (double (total Spend.amountUSD t.counted) + double (written amount)) := by
  rw [Tables.newTotal, hinv.currentSpent, double_written amount.2]

theorem exactTotal_eq (amount : Number) :
    t.exactTotal amount = total Spend.amountUSD t.counted + written amount := by
  rw [Tables.exactTotal, total_cons]
  exact add_comm _ _

/-- With fourteen digits the comparison of the doubles is that of the numbers. -/
theorem Budgeted.room (hinv : Budgeted key t H) (hkey : key.Exact)
    (hamount : Storable (written amount))
    (hdigits : (decimal 13).round (t.exactTotal amount) = t.exactTotal amount)
    (hadmitted : t.newTotal amount ≤ double key.dailyLimitUSD) :
    total Spend.amountUSD t.counted + written amount ≤ key.dailyLimitUSD := by
  rw [hinv.newTotal] at hadmitted
  rw [exactTotal_eq] at hdigits
  exact le_of_double_add_le le_rfl (storable_total hinv.counted_storable).normal hamount.normal
    hkey.storable.normal hdigits hkey.digits hadmitted

/-- With fourteen digits the text of the counter is that of the exact total. -/
theorem Budgeted.text (hinv : Budgeted key t H) (hamount : Storable (written amount))
    (hdigits : (decimal 13).round (t.exactTotal amount) = t.exactTotal amount) :
    tostring (t.newTotal amount) = double (t.exactTotal amount) := by
  rw [exactTotal_eq] at hdigits ⊢
  rw [tostring, hinv.newTotal,
    decimal_add le_rfl (storable_total hinv.counted_storable).normal hamount.normal hdigits]

/-- An amount is admitted. -/
theorem Budgeted.increment (hinv : Budgeted key t H) (hkey : key.Exact)
    (hamount : Storable (written amount)) (hroom : t.newTotal amount ≤ double key.dailyLimitUSD)
    (hbegins : t.shown = none → ∀ spend ∈ t.accepted, spend.time + DAY ≤ t.now)
    (hdigits : (decimal 13).round (t.exactTotal amount) = t.exactTotal amount) (ttlMs : ℤ) :
    Budgeted key (t.increment amount ttlMs)
      (Function.update H i (.admitted (t.nextSpend amount))) := by
  have hfresh := hinv.fresh amount
  have hcovered := hinv.covered hbegins
  have hnotFailed : t.nextSpend amount ∉ t.failed := fun hold => hfresh (hinv.failed _ hold)
  constructor
  · refine hinv.within.cons hinv.nodup hinv.counted_nodup ?_ hcovered
      (hinv.room hkey hamount hdigits hroom)
    exact fun spend hspend => (hinv.counted_storable spend hspend).nonneg
  · intro counter hshown
    obtain ⟨htotal, hcounted⟩ := shown_increment hshown
    constructor
    · rw [htotal, hcounted]
      exact hinv.text hamount hdigits
    · rw [hcounted]
      exact List.nodup_cons.mpr
        ⟨fun hold => hfresh (hinv.counted_accepted hold).1, hinv.counted_nodup⟩
    · rw [hcounted]
      intro spend hspend
      rcases List.mem_cons.mp hspend with rfl | hold
      · exact List.mem_cons_self
      · exact List.mem_cons_of_mem _ (hinv.counted_accepted hold).1
    · rw [hcounted]
      intro spend hspend
      rcases List.mem_cons.mp hspend with rfl | hold
      · exact hnotFailed
      · exact (hinv.counted_accepted hold).2
    · rw [hcounted]
      intro spend hspend hrecent
      rcases List.mem_cons.mp hspend with rfl | hold
      · exact List.mem_cons_self
      · exact List.mem_cons_of_mem _ (hcovered spend hold hrecent)
  · exact List.nodup_cons.mpr ⟨hfresh, hinv.nodup⟩
  · intro spend hspend
    show spend.serial < t.accepted.length + 1
    rcases List.mem_cons.mp hspend with rfl | hold
    · exact Nat.lt_succ_self _
    · exact Nat.lt_succ_of_lt (hinv.serials spend hold)
  · intro spend hspend
    rcases List.mem_cons.mp hspend with rfl | hold
    · exact hamount
    · exact hinv.storable spend hold
  · exact fun spend hspend => List.mem_cons_of_mem _ (hinv.failed spend hspend)
  · exact hinv.succeeded
  · exact fun spend hspend => ⟨List.mem_cons_of_mem _ (hinv.settled spend hspend).1,
      (hinv.settled spend hspend).2⟩
  · exact hinv.recorded
  · exact hinv.records
  · exact hinv.cached
  · apply update_cases
    · exact ⟨List.mem_cons_self, fun hold => hfresh (hinv.settled _ hold).1, hnotFailed⟩
    · intro j _
      have hheld := hinv.held j
      cases hj : H j with
      | idle => trivial
      | admitted spend =>
        rw [hj] at hheld
        exact ⟨List.mem_cons_of_mem _ hheld.1, hheld.2⟩
      | sent spend =>
        rw [hj] at hheld
        exact hheld
  · refine alone_update hinv.alone ?_
    intro spend hthis j _ hj
    obtain rfl := Option.some.inj hthis
    have hheld := hinv.held j
    cases hHj : H j with
    | idle =>
      rw [hHj] at hj
      cases hj
    | admitted spend =>
      rw [hHj] at hj hheld
      obtain rfl := Option.some.inj hj
      exact hfresh hheld.1
    | sent spend =>
      rw [hHj] at hj hheld
      obtain rfl := Option.some.inj hj
      exact hfresh (hinv.settled _ hheld.1).1

/-- What another call has to do is not touched. -/
theorem Holding.Holds.later {holding : Holding} (hheld : holding.Holds t)
    (haccepted : ∀ s ∈ t.accepted, s ∈ t'.accepted)
    (hsucceeded : ∀ s ∈ t.succeeded, s ∈ t'.succeeded)
    (hnew : ∀ s, holding.spend? = some s → s ∈ t'.succeeded → s ∈ t.succeeded)
    (hfailed : ∀ s, holding.spend? = some s → s ∈ t'.failed → s ∈ t.failed)
    (hrecords : ∀ s, holding.spend? = some s → s ∈ t'.records.map SpendingRecord.spend →
      s ∈ t.records.map SpendingRecord.spend) :
    holding.Holds t' := by
  cases holding with
  | idle => trivial
  | admitted s =>
    obtain ⟨hmem, hopen, halive⟩ := hheld
    exact ⟨haccepted s hmem, fun h => hopen (hnew s rfl h), fun h => halive (hfailed s rfl h)⟩
  | sent s =>
    obtain ⟨hmem, hopen⟩ := hheld
    exact ⟨hsucceeded s hmem, fun h => hopen (hrecords s rfl h)⟩

/-- No other call holds the amount of this one. -/
theorem Budgeted.others (hinv : Budgeted key t H) (hi : (H i).spend? = some spend) {j : ℕ}
    (hji : j ≠ i) :
    ∀ s, (H j).spend? = some s → s ≠ spend := by
  rintro s hj rfl
  exact hji (hinv.alone j i s hj hi)

theorem mem_of_mem_cons_ne {s : Spend} {l : List Spend} (hne : s ≠ spend)
    (hmem : s ∈ spend :: l) : s ∈ l :=
  (List.mem_cons.mp hmem).resolve_left hne

/-- The transaction of an amount succeeds. -/
theorem Budgeted.succeed (hinv : Budgeted key t H) (hi : H i = .admitted spend) :
    Budgeted key (t.succeed spend) (Function.update H i (.sent spend)) := by
  have hheld := hinv.held i
  rw [hi] at hheld
  obtain ⟨hmem, hopen, halive⟩ := hheld
  have hthis : (H i).spend? = some spend := by rw [hi]; rfl
  have hothers : ∀ j, j ≠ i → ∀ s, (H j).spend? = some s → s ≠ spend :=
    fun j hji => hinv.others hthis hji
  refine ⟨hinv.within, fun counter hshown => (hinv.counts counter hshown).of_same rfl rfl rfl,
    hinv.nodup, hinv.serials,
    hinv.storable, hinv.failed, ?_, ?_, hinv.recorded, ?_, hinv.cached, ?_, ?_⟩
  · exact List.nodup_cons.mpr ⟨hopen, hinv.succeeded⟩
  · intro s hs
    rcases List.mem_cons.mp hs with rfl | hold
    · exact ⟨hmem, halive⟩
    · exact hinv.settled s hold
  · exact fun record hrecord => ⟨List.mem_cons_of_mem _ (hinv.records record hrecord).1,
      (hinv.records record hrecord).2⟩
  · apply update_cases
    · refine ⟨List.mem_cons_self, fun hrecorded => ?_⟩
      obtain ⟨record, hrecord, hsame⟩ := List.mem_map.mp hrecorded
      exact hopen (hsame ▸ (hinv.records record hrecord).1)
    · intro j hji
      exact (hinv.held j).later (fun _ h => h) (fun _ h => List.mem_cons_of_mem _ h)
        (fun s hs h => mem_of_mem_cons_ne (hothers j hji s hs) h) (fun _ _ h => h) fun _ _ h => h
  · refine alone_update hinv.alone ?_
    intro s hs j hji hj
    exact hothers j hji s hj (Option.some.inj hs).symm

/-- The transaction of an amount that is not counted fails. -/
theorem Budgeted.fail (hinv : Budgeted key t H) (hi : H i = .admitted spend)
    (huncounted : spend ∉ t.counted) :
    Budgeted key (t.fail spend) (Function.update H i .idle) := by
  have hheld := hinv.held i
  rw [hi] at hheld
  obtain ⟨hmem, hopen, halive⟩ := hheld
  have hthis : (H i).spend? = some spend := by rw [hi]; rfl
  refine ⟨hinv.within, ?_, hinv.nodup, hinv.serials, hinv.storable, ?_, hinv.succeeded, ?_,
    hinv.recorded, hinv.records, hinv.cached,
    ?_, ?_⟩
  · intro counter hshown
    have hcounts := hinv.counts counter hshown
    refine ⟨hcounts.total, hcounts.nodup, hcounts.accepted, ?_, hcounts.covers⟩
    intro s hs hfailed
    rcases List.mem_cons.mp hfailed with rfl | hold
    · have hcounted : t.counted = counter.counted := by
        unfold Tables.counted
        rw [show t.shown = some counter from hshown]
        rfl
      exact huncounted (hcounted ▸ hs)
    · exact hcounts.alive s hs hold
  · intro s hs
    rcases List.mem_cons.mp hs with rfl | hold
    · exact hmem
    · exact hinv.failed s hold
  · intro s hs
    refine ⟨(hinv.settled s hs).1, fun hfailed => ?_⟩
    rcases List.mem_cons.mp hfailed with rfl | hold
    · exact hopen hs
    · exact (hinv.settled s hs).2 hold
  · apply update_cases
    · trivial
    · intro j hji
      exact (hinv.held j).later (fun _ h => h) (fun _ h => h) (fun _ _ h => h)
        (fun s hs h => mem_of_mem_cons_ne (hinv.others hthis hji s hs) h) fun _ _ h => h
  · exact alone_update hinv.alone fun _ hnone => nomatch hnone

/-- A transaction is recorded. -/
theorem Budgeted.record (hinv : Budgeted key t H) (hi : H i = .sent spend)
    (hkept : column (written amount) = spend.amountUSD) :
    Budgeted key (t.record spend amount) (Function.update H i .idle) := by
  have hheld := hinv.held i
  rw [hi] at hheld
  obtain ⟨hmem, hopen⟩ := hheld
  have hthis : (H i).spend? = some spend := by rw [hi]; rfl
  refine ⟨hinv.within, fun counter hshown => (hinv.counts counter hshown).of_same rfl rfl rfl,
    hinv.nodup, hinv.serials,
    hinv.storable, hinv.failed, hinv.succeeded, hinv.settled, ?_, ?_, hinv.cached, ?_, ?_⟩
  · exact List.nodup_cons.mpr ⟨hopen, hinv.recorded⟩
  · intro record hrecord
    rcases List.mem_cons.mp hrecord with rfl | hold
    · exact ⟨hmem, hkept⟩
    · exact hinv.records record hold
  · apply update_cases
    · trivial
    · intro j hji
      exact (hinv.held j).later (fun _ h => h) (fun _ h => h) (fun _ _ h => h) (fun _ _ h => h)
        fun s hs h => mem_of_mem_cons_ne (hinv.others hthis hji s hs) h
  · exact alone_update hinv.alone fun _ hnone => nomatch hnone

theorem Budgeted.release (hinv : Budgeted key t H) (i : ℕ) :
    Budgeted key t (Function.update H i .idle) :=
  { hinv with
    held := update_cases trivial fun j _ => hinv.held j
    alone := alone_update hinv.alone fun _ hnone => nomatch hnone }

/-- A step that changes the caches and the clock only. -/
theorem Budgeted.of_history (hinv : Budgeted key t H) (hrecords : t'.records = t.records)
    (haccepted : t'.accepted = t.accepted) (hsucceeded : t'.succeeded = t.succeeded)
    (hfailed : t'.failed = t.failed) (hcounts : ∀ counter ∈ t'.shown, Counts t' counter)
    (hcached : ∀ entry ∈ t'.cached, entry.1.dailyLimitUSD = double key.dailyLimitUSD) :
    Budgeted key t' H := by
  obtain ⟨now, cached, counter, records, accepted, succeeded, failed⟩ := t
  obtain ⟨now', cached', counter', records', accepted', succeeded', failed'⟩ := t'
  obtain rfl : records' = records := hrecords
  obtain rfl : accepted' = accepted := haccepted
  obtain rfl : succeeded' = succeeded := hsucceeded
  obtain rfl : failed' = failed := hfailed
  refine ⟨hinv.within, hcounts, hinv.nodup, hinv.serials, hinv.storable, hinv.failed,
    hinv.succeeded, hinv.settled, hinv.recorded,
    hinv.records, hcached, ?_, hinv.alone⟩
  exact fun i => (hinv.held i).later (fun _ h => h) (fun _ h => h) (fun _ _ h => h) (fun _ _ h => h)
    fun _ _ h => h

/-- The clock goes on. -/
theorem Budgeted.tick (hinv : Budgeted key t H) (n : ℕ) :
    Budgeted key { t with now := t.now + n } H := by
  refine hinv.of_history rfl rfl rfl rfl ?_ hinv.cached
  intro counter hshown
  obtain ⟨hcounter, hlater⟩ := Option.filter_eq_some_iff.mp hshown
  have hlater : t.now + n < counter.expiresAt := of_decide_eq_true hlater
  have hcounts :=
    hinv.counts counter (Option.filter_eq_some_iff.mpr ⟨hcounter, decide_eq_true (by omega)⟩)
  refine ⟨hcounts.total, hcounts.nodup, hcounts.accepted, hcounts.alive, ?_⟩
  intro spend hspend hrecent
  have hrecent : t.now + n < spend.time + DAY := hrecent
  exact hcounts.covers spend hspend (by omega)

/-- Of the records that a start has read. -/
structure ReadRecords (records : List SpendingRecord) (t : Tables) : Prop where
  nodup : (records.map SpendingRecord.spend).Nodup
  amounts : ∀ record ∈ records, record.amountUSD = record.spend.amountUSD
  succeeded : ∀ record ∈ records, record.spend ∈ t.succeeded

/-- What was read sums up to what the amounts do. -/
theorem ReadRecords.totalOf {records : List SpendingRecord} (hread : ReadRecords records t) :
    totalOf records = double (total Spend.amountUSD (records.map SpendingRecord.spend)) := by
  rw [HotState.totalOf, total, List.map_map]
  exact congrArg (fun amounts => double (List.sum amounts)) (List.map_congr_left hread.amounts)

/-- The counter is built from records. -/
theorem Budgeted.setSpend (hinv : Budgeted key t H) {records : List SpendingRecord}
    (hread : ReadRecords records t) (hplain : Plain (totalOf records))
    (hcovers : ∀ spend ∈ t.accepted, t.now < spend.time +
      DAY → spend ∈ records.map SpendingRecord.spend) :
    Budgeted key (t.setSpend records) H := by
  refine hinv.of_history rfl rfl rfl rfl ?_ hinv.cached
  intro counter hshown
  obtain ⟨hcounter, -⟩ := Option.filter_eq_some_iff.mp hshown
  obtain rfl := Option.some.inj hcounter
  have hsettled : ∀ spend ∈ records.map SpendingRecord.spend, spend ∈ t.accepted ∧
      spend ∉ t.failed := by
    intro spend hspend
    obtain ⟨record, hrecord, rfl⟩ := List.mem_map.mp hspend
    exact hinv.settled _ (hread.succeeded record hrecord)
  refine ⟨?_, hread.nodup, fun spend hspend => (hsettled spend hspend).1, fun spend hspend =>
    (hsettled spend hspend).2, hcovers⟩
  have hnonneg : 0 ≤ totalOf records := by
    rw [hread.totalOf]
    exact double_nonneg
      (storable_total fun spend hspend => hinv.storable spend (hsettled spend hspend).1).nonneg
  show jsonMatch (totalOf records) = double
      (total Spend.amountUSD (records.map SpendingRecord.spend))
  rw [jsonMatch_eq hnonneg (double_double _) hplain, hread.totalOf]

end Counting

section Calls

variable {key : SessionKey} {t : Tables} {H : ℕ → Holding} {i : ℕ} {op : Operation} {spend : Spend}
  {amount : Number} {fate : Fate}

/-- An amount that is not negative and that its column keeps. -/
structure Kept (amount : Number) : Prop where
  nonneg : 0 ≤ amount.val
  column : column (written amount) = written amount

theorem Kept.storable (hamount : Kept amount) : Storable (written amount) :=
  storable_of_column (written_nonneg hamount.nonneg) hamount.column

theorem readKey_cases (t : Tables) :
    t.readKey = (none, t) ∨ t.readKey = (none, { t with cached := none }) ∨
    ∃ entry ∈ t.cached, t.readKey = (some entry.1, t) := by
  unfold Tables.readKey
  cases hentry : t.cached.filter fun entry => t.now < entry.2 with
  | none => exact .inl rfl
  | some entry =>
    obtain ⟨hcached, -⟩ := Option.filter_eq_some_iff.mp hentry
    dsimp only
    split_ifs
    · exact .inr (.inl rfl)
    · exact .inr (.inr ⟨entry, hcached, rfl⟩)

theorem Budgeted.uncache (hinv : Budgeted key t H) : Budgeted key { t with cached := none } H :=
  hinv.of_history rfl rfl rfl rfl
    (fun counter hshown => (hinv.counts counter hshown).of_same rfl rfl rfl)
    fun _ hnone => nomatch hnone

/-- A cached key has the limits of the row. -/
theorem keeps_getSessionKey {held : Holding} {F : Tables → Prop} :
    (spendingCustody key).Keeps i op getSessionKey (fun _ => True) held
      (fun found _ => ∀ cachedKey ∈ found, cachedKey.dailyLimitUSD = double key.dailyLimitUSD)
        F := by
  refine Custody.Keeps.ask (D := spendingCustody key) (r := .getSessionKey)
    (S := fun found _ => ∀ cachedKey ∈ found, cachedKey.dailyLimitUSD = double key.dailyLimitUSD)
      (fun _ => Custody.stable_const _) ?_
  intro t H hinv _ _ _
  have hinv : Budgeted key t H := hinv
  show Lasting t t.readKey.2 ∧ Budgeted key t.readKey.2 H ∧
      ∀ cachedKey ∈ t.readKey.1, cachedKey.dailyLimitUSD = double key.dailyLimitUSD
  rcases readKey_cases t with hread | hread | ⟨entry, hcached, hread⟩
  · rw [hread]
    exact ⟨Lasting.refl t, hinv, fun _ hnone => nomatch hnone⟩
  · rw [hread]
    exact ⟨fun _ hspend => hspend, hinv.uncache, fun _ hnone => nomatch hnone⟩
  · rw [hread]
    refine ⟨Lasting.refl t, hinv, fun cachedKey hthis => ?_⟩
    obtain rfl := Option.some.inj hthis
    exact hinv.cached entry hcached

/-- What a call holds after the script. -/
def afterIncrement : Except Failure (ℚ × Option Spend) → Holding
  | .ok (_, some spend) => .admitted spend
  | .ok (_, none) => .idle
  | .error _ => .idle

theorem upholds_checkAndIncrementSpend (hkey : key.Exact) (hamount : Kept amount)
    {E : Tables → Holding → Prop} :
    (spendingCustody key).Upholds i op
      (ask (.checkAndIncrementSpend amount (double key.dailyLimitUSD) DAY fate))
        (fun _ => True) .idle
      (fun result _ held => held = afterIncrement result ∧
        ∀ spent spend, result = .ok (spent, some spend) → spend.amountUSD = written amount)
      E := by
  refine Custody.Upholds.ask (D := spendingCustody key)
    (r := .checkAndIncrementSpend amount (double key.dailyLimitUSD) DAY fate)
    (S := fun (result : Except Failure (ℚ × Option Spend)) _ =>
      ∀ spent spend, result = .ok (spent, some spend) → spend.amountUSD = written amount)
    afterIncrement (fun _ => Custody.stable_const _) ?_
  intro t H hinv _ hi hallows
  have hinv : Budgeted key t H := hinv
  let r : Request := .checkAndIncrementSpend amount (double key.dailyLimitUSD) DAY fate
  show Lasting t (carry key t r).2 ∧
    Budgeted key (carry key t r).2 (Function.update H i (afterIncrement (carry key t r).1)) ∧
    ∀ spent spend, (carry key t r).1 = .ok (spent, some spend) → spend.amountUSD = written amount
  by_cases hover : double key.dailyLimitUSD < t.newTotal amount
  · have hcarry : carry key t r = (fate.told outage (tostring t.currentSpent, none), t) :=
      if_pos hover
    rw [hcarry]
    have hidle : afterIncrement (fate.told outage (tostring t.currentSpent, none)) = .idle := by
      cases fate <;> rfl
    rw [hidle]
    refine ⟨Lasting.refl t, hinv.release i, fun spent spend hok => ?_⟩
    obtain ⟨-, hnone⟩ := Fate.told_eq_ok.mp hok
    cases hnone
  · have hcarry : carry key t r =
        (fate.told outage (tostring t.currentSpent, some (t.nextSpend amount)),
          t.admit amount DAY fate) :=
      if_neg hover
    rw [hcarry]
    have hroom := not_lt.mp hover
    have hnext : ∀ spent spend,
        fate.told outage (tostring t.currentSpent, some (t.nextSpend amount)) = .ok
          (spent, some spend) →
        spend.amountUSD = written amount := by
      intro spent spend hok
      obtain ⟨-, hsame⟩ := Fate.told_eq_ok.mp hok
      obtain ⟨-, hsame⟩ := Prod.mk.inj hsame
      rw [← Option.some.inj hsame]
      rfl
    cases fate with
    | answered =>
      obtain ⟨-, hbegins, hdigits⟩ := hallows rfl hroom
      exact ⟨fun _ hspend => hspend, hinv.increment hkey hamount.storable hroom hbegins hdigits
        DAY, hnext⟩
    | lost => exact absurd rfl (hallows rfl hroom).1
    | refused => exact ⟨Lasting.refl t, hinv.release i, hnext⟩

/-- What a call holds after the verdict. -/
def afterVerdict : Except String Spend → Holding
  | .ok spend => .admitted spend
  | .error _ => .idle

theorem upholds_validateAndRecordSpending (hkey : key.Exact) (hamount : Kept amount)
    (perTxLimitUSD : ℚ) (turns : Turns) :
    (spendingCustody key).Upholds i op
      (validateAndRecordSpending amount perTxLimitUSD (double key.dailyLimitUSD) turns)
        (fun _ => True) .idle
      (fun verdict _ held => held = afterVerdict verdict ∧
        ∀ spend, verdict = .ok spend → spend.amountUSD = written amount)
      fun _ held => held = .idle := by
  unfold validateAndRecordSpending
  refine Custody.Keeps.andThen (F := fun _ => True) keeps_getSessionKey (fun session => ?_)
    fun _ _ => rfl
  refine Custody.Upholds.knowing ?_ fun _ _ => trivial
  split_ifs
  · exact Custody.Upholds.pure fun _ _ => ⟨rfl, fun _ hok => nomatch hok⟩
  · exact Custody.Upholds.pure fun _ _ => ⟨rfl, fun _ hok => nomatch hok⟩
  · refine Custody.Upholds.bind (upholds_checkAndIncrementSpend hkey hamount) fun result held => ?_
    cases result with
    | error e => exact Custody.Upholds.checked (fun _ _ hok => nomatch hok) fun _ _ _ hs => hs.1
    | ok result =>
      obtain ⟨spent, admitted⟩ := result
      cases admitted with
      | none => exact Custody.Upholds.pure fun _ hs => ⟨hs.1, fun _ hok => nomatch hok⟩
      | some spend =>
        refine Custody.Upholds.pure fun _ hs => ⟨hs.1, fun spend' hok => ?_⟩
        exact Except.ok.inj hok ▸ hs.2 spent spend rfl

theorem upholds_execute (turns : Turns) :
    (spendingCustody key).Upholds i op (execute (some spend) turns) (fun _ => True)
      (.admitted spend) (fun _ _ held => held = .sent spend) fun _ held => held = .idle := by
  refine Custody.Upholds.bind (S := fun (result : Except Failure String) _ (held : Holding) =>
    held = result.toOption.elim .idle fun _ => .sent spend) ?_ fun result held => ?_
  · refine (Custody.Upholds.ask (D := spendingCustody key)
      (r := .execute (some spend) turns.txHash turns.execution)
      (S := fun _ _ => True) (fun result : Except Failure String => result.toOption.elim .idle
        fun _ => .sent spend) (fun _ => Custody.stable_const True)
      ?_).weaken (fun _ hs => hs) (fun _ _ _ hs => hs.1) fun _ _ hs => hs
    intro t H hinv _ hi hallows
    have hinv : Budgeted key t H := hinv
    have hallows : ¬turns.execution.carried → ∀ s ∈ some spend, s ∉ t.counted := hallows
    show Lasting t (carry key t (.execute (some spend) turns.txHash turns.execution)).2 ∧
      Budgeted key (carry key t (.execute (some spend) turns.txHash turns.execution)).2
        (Function.update H i
          ((carry key t (.execute (some spend) turns.txHash turns.execution)).1.toOption.elim .idle
          fun _ => .sent spend)) ∧ True
    unfold carry
    cases hfate : turns.execution with
    | answered => exact ⟨fun _ hspend => List.mem_cons_of_mem _ hspend, hinv.succeed hi, trivial⟩
    | lost =>
      have hreleased := (hinv.succeed hi).release i
      rw [Function.update_idem] at hreleased
      exact ⟨fun _ hspend => List.mem_cons_of_mem _ hspend, hreleased, trivial⟩
    | refused =>
      rw [hfate] at hallows
      exact ⟨Lasting.refl t, hinv.fail hi (hallows (fun hcarried => nomatch hcarried) spend rfl),
        trivial⟩
  · refine Custody.Upholds.bind (S := fun _ _ (held : Holding) => held = .sent spend) ?_ fun _ _ =>
      Custody.Upholds.pure fun _ hs => hs
    refine Custody.Upholds.checked ?_ ?_
    · rintro _ _ rfl hheld
      exact hheld
    · rintro _ _ rfl hheld
      exact hheld

theorem upholds_recordSpendingAsync (hkept : column (written amount) = spend.amountUSD)
    (turns : Turns) {E : Tables → Holding → Prop} (hE : ∀ t held, held = Holding.idle → E t held) :
    (spendingCustody key).Upholds i op (recordSpendingAsync spend amount turns) (fun _ => True)
      (.sent spend) (fun _ _ held => held = Holding.idle) E := by
  refine (Custody.Upholds.ignoringFailure (E := fun _ held => held = Holding.idle) ?_).weaken
    (fun _ hs => hs)
    (fun _ _ _ hs => hs) hE
  refine Custody.Upholds.bind (S := fun _ _ (held : Holding) => held = .idle) ?_ fun created held =>
    Custody.Upholds.checked (fun _ _ _ hs => hs) fun _ _ _ hs => hs
  refine Custody.Upholds.handOver Holding.idle ?_
  intro t H hinv _ hi _
  have hinv : Budgeted key t H := hinv
  show Lasting t (carry key t (.createRecord spend amount turns.record)).2 ∧
    Budgeted key (carry key t (.createRecord spend amount turns.record)).2
      (Function.update H i .idle)
  unfold carry
  cases turns.record with
  | answered => exact ⟨Lasting.refl t, hinv.record hi hkept⟩
  | lost => exact ⟨Lasting.refl t, hinv.record hi hkept⟩
  | refused => exact ⟨Lasting.refl t, hinv.release i⟩

theorem heeds_spendUnder {cachedKey : SessionKey} (hkey : key.Exact)
    (hlimit : cachedKey.dailyLimitUSD = double key.dailyLimitUSD) (hamount : Kept amount)
    (turns : Turns) :
    (spendingCustody key).Heeds i op (spendUnder cachedKey amount turns) .idle := by
  unfold spendUnder
  rw [hlimit]
  refine Custody.Upholds.bind
    ((upholds_validateAndRecordSpending hkey hamount cachedKey.perTxLimitUSD turns).weaken
      (fun _ hs => hs)
    (fun _ _ _ hs => hs) fun _ _ hs => ⟨hs, trivial⟩) fun verdict held => ?_
  cases verdict with
  | error reason =>
    exact Custody.Upholds.checkedThen (fun _ _ _ hs => ⟨hs.1, trivial⟩)
      fun _ hnever => nomatch hnever
  | ok spend =>
    refine Custody.Upholds.given (fun _ hs => And.intro hs.1 (hs.2 spend rfl)) ?_
    rintro ⟨rfl, hthis⟩
    refine Custody.Upholds.checkedThen (fun _ hnever => nomatch hnever) fun spend' hsame => ?_
    obtain rfl := Except.ok.inj hsame
    refine Custody.Upholds.bind (S := fun _ _ (held : Holding) => held = .sent spend) ?_
      fun _ held => ?_
    · exact (upholds_execute turns).weaken (fun _ _ => trivial) (fun _ _ _ hs => hs)
        fun _ _ hs => ⟨hs, trivial⟩
    · refine Custody.Upholds.given (fun _ hs => hs) ?_
      rintro rfl
      exact (upholds_recordSpendingAsync (E := fun _ held => held = .idle ∧ True)
        (hamount.column.trans hthis.symm)
        turns fun _ _ hs => ⟨hs, trivial⟩).weaken
        (fun _ _ => trivial) (fun _ _ _ hs => ⟨hs, trivial⟩) fun _ _ hs => hs

theorem heeds_inbound (turns : Turns) :
    (spendingCustody key).Heeds i op (execute none turns) .idle := by
  refine Custody.Heeds.andThen (Custody.Heeds.look Lasting.refl fun _ => rfl) fun sent => ?_
  exact Custody.Heeds.andThen Custody.Heeds.checked fun _ => Custody.Heeds.pure

theorem heeds_executeLocalSessionAction (hkey : key.Exact) (userId : String) (hamount : Kept amount)
    (inbound : Bool) (turns : Turns) :
    (spendingCustody key).Heeds i op
      (executeLocalSessionAction userId amount inbound turns) .idle := by
  unfold executeLocalSessionAction
  apply Custody.Heeds.andThen Custody.Heeds.checked
  intro _
  refine Custody.Keeps.andThen (F := fun _ => True) keeps_getSessionKey (fun found => ?_)
    fun _ _ => ⟨rfl, trivial⟩
  refine Custody.Upholds.checkedThen (fun _ _ _ _ => ⟨rfl, trivial⟩) fun cachedKey hfound => ?_
  refine Custody.Upholds.given (fun _ hs => hs cachedKey (CheckedOutcome.orError_eq_ok.mp hfound))
    fun hlimit => ?_
  refine Custody.Upholds.knowing (K := fun _ => True) ?_ fun _ _ => trivial
  apply Custody.Heeds.checkThen
  intro _
  split_ifs
  · exact heeds_inbound turns
  · exact heeds_spendUnder hkey hlimit hamount turns

/-- A cache entry is written or deleted. -/
theorem heeds_cache {r : Request} (write : Tables → Tables)
    (hcarry : ∀ t, (carry key t r).2 = if fate.carried then write t else t)
    (hwrite : ∀ t H, Budgeted key t H → Budgeted key (write t) H)
    (hsucceeded : ∀ t, (write t).succeeded = t.succeeded) :
    (spendingCustody key).Heeds i op (ask r) .idle := by
  refine Custody.Keeps.ask (D := spendingCustody key) (r := r)
    (fun _ => Custody.stable_const True) ?_
  intro t H hinv _ _ _
  have hinv : Budgeted key t H := hinv
  have hboth : Lasting t (carry key t r).2 ∧ Budgeted key (carry key t r).2 H := by
    rw [hcarry]
    split_ifs
    · refine ⟨fun spend hspend => ?_, hwrite t H hinv⟩
      rw [hsucceeded]
      exact hspend
    · exact ⟨Lasting.refl t, hinv⟩
  exact ⟨hboth.1, hboth.2, trivial⟩

theorem heeds_setSpend {records : List SpendingRecord} :
    (spendingCustody key).Keeps i op (ask (.setSpend records fate)) (ReadRecords records) .idle
      (fun _ _ => True)
      fun _ => True := by
  refine Custody.Keeps.ask (D := spendingCustody key) (r := .setSpend records fate)
    (fun _ => Custody.stable_const True) ?_
  intro t H hinv hread _ hallows
  have hinv : Budgeted key t H := hinv
  have hallows : fate.carried → Plain (totalOf records) ∧
      ∀ spend ∈ t.accepted, t.now < spend.time + DAY → spend ∈ records.map SpendingRecord.spend :=
        hallows
  show Lasting t (carry key t (.setSpend records fate)).2 ∧
      Budgeted key (carry key t (.setSpend records fate)).2 H ∧ True
  unfold carry
  dsimp only
  split_ifs with hcarried
  · exact ⟨Lasting.refl t, hinv.setSpend hread (hallows hcarried).1 (hallows hcarried).2, trivial⟩
  · exact ⟨Lasting.refl t, hinv, trivial⟩

theorem stable_readRecords (records : List SpendingRecord) :
    (spendingCustody key).Stable (ReadRecords records) :=
  fun _ _ hgrows hread => ⟨hread.nodup, hread.amounts,
    fun record hrecord => hgrows _ (hread.succeeded record hrecord)⟩

/-- What a start reads of the records. -/
theorem Budgeted.readRecords (hinv : Budgeted key t H) (p : SpendingRecord → Bool) :
    ReadRecords (t.records.filter p) t := by
  refine ⟨?_, ?_, ?_⟩
  · exact (List.filter_sublist.map SpendingRecord.spend).nodup hinv.recorded
  · exact fun record hrecord => (hinv.records record (List.mem_of_mem_filter hrecord)).2
  · exact fun record hrecord => (hinv.records record (List.mem_of_mem_filter hrecord)).1

theorem Budgeted.flush (hinv : Budgeted key t H) :
    Budgeted key { t with cached := none, counter := none } H :=
  hinv.of_history rfl rfl rfl rfl (fun _ hnone => nomatch hnone) fun _ hnone => nomatch hnone

theorem heeds_warmKey (set : Fate) (found : Option SessionKey)
    (hfound : ∀ cachedKey ∈ found, cachedKey = key) :
    (spendingCustody key).Heeds i op (warmKey found set) .idle := by
  cases found with
  | none => exact Custody.Heeds.pure
  | some cachedKey =>
    obtain rfl := hfound cachedKey rfl
    refine Custody.Heeds.andThen ?_ fun _ => Custody.Heeds.checked
    refine heeds_cache (fun t => { t with cached := some (cachedKey.cached, cachedKey.expiryAt) })
      (fun _ => rfl) ?_
      fun _ => rfl
    intro t H hinv
    refine hinv.of_history rfl rfl rfl rfl
      (fun counter hshown => (hinv.counts counter hshown).of_same rfl rfl rfl) ?_
    intro entry hentry
    obtain rfl := Option.some.inj hentry
    rfl

theorem heeds_warmSpend (set : Fate) (records : List SpendingRecord) :
    (spendingCustody key).Keeps i op (warmSpend records set) (ReadRecords records) .idle
      (fun _ _ => True) fun _ => True := by
  unfold warmSpend
  split_ifs
  · exact Custody.Upholds.pure fun _ _ => ⟨rfl, trivial⟩
  · exact Custody.Keeps.andThen heeds_setSpend (fun _ => Custody.Heeds.checked)
      fun _ _ => ⟨rfl, trivial⟩

theorem heeds_onModuleInit (turns : WarmUpTurns) :
    (spendingCustody key).Heeds i op (onModuleInit turns) .idle := by
  apply Custody.Heeds.ignoringFailure
  refine Custody.Heeds.andThen ?_ fun _ => ?_
  · exact heeds_cache (fun t => { t with cached := none, counter := none }) (fun _ => rfl)
      (fun _ _ hinv => hinv.flush)
      fun _ => rfl
  apply Custody.Heeds.andThen Custody.Heeds.checked
  intro _
  refine Custody.Keeps.andThen (R := fun found _ => ∀ cachedKey ∈ found, cachedKey = key)
    (F := fun _ => True) ?_ (fun found => ?_)
    fun _ _ => ⟨rfl, trivial⟩
  · refine Custody.Keeps.read (D := spendingCustody key) (r := .findActiveKey)
      (S := fun found _ => ∀ cachedKey ∈ found, cachedKey = key) Lasting.refl (fun _ => rfl)
        (fun _ => Custody.stable_const _) ?_
    intro t _ _ _ cachedKey hfound
    have hfound : cachedKey ∈ if key.revokedAt = none ∧ t.now < key.expiryAt then some key
        else none := hfound
    split_ifs at hfound
    · exact (Option.some.inj hfound).symm
    · cases hfound
  · refine Custody.Upholds.given (fun _ hs => hs) fun hfound => ?_
    refine Custody.Upholds.knowing (K := fun _ => True) ?_ fun _ _ => trivial
    apply Custody.Heeds.andThen (heeds_warmKey turns.setKey found hfound)
    intro _
    refine Custody.Keeps.andThen (F := fun _ => True)
      (Custody.Keeps.read (D := spendingCustody key) (r := .findSpending)
      (S := ReadRecords) Lasting.refl (fun _ => rfl) stable_readRecords ?_)
        (fun records => heeds_warmSpend turns.setSpend records)
      fun _ _ => ⟨rfl, trivial⟩
    intro t H hinv _
    have hinv : Budgeted key t H := hinv
    exact hinv.readRecords _

theorem spendingCustody_kept (hkey : key.Exact) : (spendingCustody key).Kept where
  refl := Lasting.refl
  programs i op hstarts := by
    cases op with
    | executeLocalSessionAction userId txAmountUSD inbound turns =>
      exact Custody.Heeds.plays
        (heeds_executeLocalSessionAction hkey userId ⟨hstarts.1, hstarts.2⟩ inbound turns)
    | onModuleInit turns => exact Custody.Heeds.plays (heeds_onModuleInit turns)
  passes n t _ hinv _ := ⟨Lasting.refl t, Budgeted.tick hinv n⟩

end Calls

section Runs

/-- In no window of a day have the amounts whose transactions succeeded more than the limit, and
what is shown as spent is the sum of amounts whose transactions have not failed. -/
structure SpendingLimited (key : SessionKey) (t : Tables) : Prop where
  window : Within Spend.time Spend.amountUSD DAY key.dailyLimitUSD t.succeeded
  spent : t.currentSpent = double (total Spend.amountUSD t.counted)
  unspent : ∀ spend ∈ t.counted, spend ∉ t.failed

/-- Nothing was spent under the key so far. -/
structure Tables.Fresh (key : SessionKey) (t : Tables) : Prop where
  counter : t.counter = none
  records : t.records = []
  accepted : t.accepted = []
  succeeded : t.succeeded = []
  failed : t.failed = []
  cached : ∀ entry ∈ t.cached, entry.1.dailyLimitUSD = double key.dailyLimitUSD

variable {key : SessionKey} {t start : Tables} {H : ℕ → Holding}
  {tr : Trace Tables Operation Request Answer}
  {c : Config Tables Operation Request Answer}

theorem Tables.Fresh.budgeted (hfresh : t.Fresh key) (hlimit : 0 ≤ key.dailyLimitUSD) :
    Budgeted key t fun _ => Holding.idle := by
  obtain ⟨now, cached, counter, records, accepted, succeeded, failed⟩ := t
  obtain ⟨rfl, rfl, rfl, rfl, rfl, hcached⟩ := hfresh
  exact ⟨within_nil hlimit, nofun, List.nodup_nil, nofun, nofun, nofun, List.nodup_nil, nofun,
    List.nodup_nil, nofun, hcached,
    fun _ => trivial, nofun⟩

theorem Budgeted.limited (hinv : Budgeted key t H) : SpendingLimited key t := by
  refine ⟨?_, hinv.currentSpent, fun spend hspend => (hinv.counted_accepted hspend).2⟩
  exact hinv.within.of_subset hinv.succeeded hinv.nodup
    (fun spend hspend => (hinv.settled spend hspend).1)
    fun spend hspend => (hinv.storable spend hspend).nonneg

/-- Session actions at any times, with any starts of the process between and beside them, as long as
the counter counts the last day and its digits suffice. -/
theorem spending_limited (hkey : key.Exact) (hfresh : start.Fresh key)
    (hrun : (spendingService key).Runs start tr c)
    (hmeets : ∀ t ∈ tr, StoreService.Meets countsTheLastDay t) : SpendingLimited key c.state := by
  obtain ⟨H, hfinish⟩ :=
    (spendingCustody_kept hkey).run hrun hmeets (hfresh.budgeted hkey.storable.nonneg)
  have hfinish : Budgeted key c.state H := hfinish
  exact hfinish.limited

end Runs

end VeriAgentPay.HotState

namespace VeriAgentPay.Devnet
open InterleavedPrograms RollingWindows RoundedNumbers HotState

def cardKey : HotState.SessionKey := ⟨"ann", 100, 100, 604800000, none⟩

/-- The session key of Ann, with which nothing was spent. -/
def card : HotState.Tables where
  now := 0
  cached := some (cardKey.cached, 604800000)
  counter := none
  records := []
  accepted := []
  succeeded := []
  failed := []

/-- The number that is nearest to an amount. -/
def dollars (x : ℚ) : HotState.Number := ⟨double x, double_double x⟩

def spendCard (i n : ℕ) (amountUSD : ℚ) (execution : Fate) : List (Move HotState.Operation) :=
  .start i (.executeLocalSessionAction "ann" (dollars amountUSD) false
    ⟨.ok (), fun _ => "", .answered, "tx", execution, .answered⟩) :: List.replicate n (.step i)

def restart (i n : ℕ) : List (Move HotState.Operation) :=
  .start i (.onModuleInit ⟨.answered, .answered, .answered⟩) :: List.replicate n (.step i)

/-- The amounts whose transactions have succeeded and have failed, and what is shown as spent. -/
def cardAfter (schedule : List (Move HotState.Operation)) :
    Option (List HotState.Spend × List HotState.Spend × ℚ) :=
  ((spendingService cardKey).moves StoreService.anything (Config.initial card) schedule).map
    fun c =>
    (c.state.succeeded, c.state.failed, c.state.currentSpent)

/-- A third of 100, as it is written. -/
def third : ℚ := 33333333333333336 / 10 ^ 15

theorem card_computed :
    cardAfter (spendCard 0 5 1 .answered ++ [.pass 86399000] ++ spendCard 1 5 99 .answered ++
      [.pass 1001] ++
      spendCard 2 5 100 .answered) = some ([⟨2, 100, 86400001⟩, ⟨1, 99, 86399000⟩, ⟨0, 1, 0⟩],
        [], 100) ∧
    cardAfter (spendCard 0 4 100 .answered ++ restart 1 4 ++ [.step 0] ++
      spendCard 2 5 100 .answered) =
      some ([⟨1, 100, 0⟩, ⟨0, 100, 0⟩], [], 100) ∧
    cardAfter (spendCard 0 4 100 .refused ++ spendCard 1 3 100 .answered) = some
      ([], [⟨0, 100, 0⟩], 100) ∧
    cardAfter (spendCard 0 5 third .answered ++ spendCard 1 5 third .answered ++
      spendCard 2 5 third .answered) =
      some ([⟨2, third, 0⟩, ⟨1, third, 0⟩, ⟨0, third, 0⟩], [],
        double (99999999999999 / 10 ^ 12)) := by
  refine ⟨?_, ?_, ?_, ?_⟩ <;> decide +kernel

/-- The limit of 100 is passed on both sides of the end of a counter, when the process starts before
the record of a transaction is written, and by amounts with more digits than the counter keeps. A
transaction that failed uses it up. -/
theorem limit_exceeded :
    (∃ tr c, (spendingService cardKey).Runs card tr c ∧
      total Spend.amountUSD (inWindow Spend.time DAY 86399000 c.state.succeeded) = 199) ∧
    (∃ tr c, (spendingService cardKey).Runs card tr c ∧
      total Spend.amountUSD (inWindow Spend.time DAY 0 c.state.succeeded) = 200) ∧
    (∃ tr c, (spendingService cardKey).Runs card tr c ∧ c.state.succeeded = [] ∧
      c.state.currentSpent = 100) ∧
    ∃ tr c, (spendingService cardKey).Runs card tr c ∧
      100 < total Spend.amountUSD (inWindow Spend.time DAY 0 c.state.succeeded) := by
  obtain ⟨hedge, hstart, hfailed, hdigits⟩ := card_computed
  refine ⟨?_, ?_, ?_, ?_⟩
  · obtain ⟨tr, c, hrun, -, -, hfacts⟩ := StoreService.runs_of_computed hedge
    simp only [Prod.mk.injEq] at hfacts
    refine ⟨tr, c, hrun, ?_⟩
    rw [hfacts.1]
    decide +kernel
  · obtain ⟨tr, c, hrun, -, -, hfacts⟩ := StoreService.runs_of_computed hstart
    simp only [Prod.mk.injEq] at hfacts
    refine ⟨tr, c, hrun, ?_⟩
    rw [hfacts.1]
    decide +kernel
  · obtain ⟨tr, c, hrun, -, -, hfacts⟩ := StoreService.runs_of_computed hfailed
    simp only [Prod.mk.injEq] at hfacts
    exact ⟨tr, c, hrun, hfacts.1, hfacts.2.2⟩
  · obtain ⟨tr, c, hrun, -, -, hfacts⟩ := StoreService.runs_of_computed hdigits
    simp only [Prod.mk.injEq] at hfacts
    refine ⟨tr, c, hrun, ?_⟩
    rw [hfacts.1]
    decide +kernel

instance : DecidablePred countsTheLastDay.starts := fun op => by
  cases op with
  | executeLocalSessionAction _ txAmountUSD _ _ =>
    exact inferInstanceAs
      (Decidable (0 ≤ txAmountUSD.val ∧ column (written txAmountUSD) = written txAmountUSD))
  | onModuleInit _ => exact .isTrue trivial
instance (i : ℕ) (op : HotState.Operation) (t : HotState.Tables) (r : HotState.Request) :
    Decidable (countsTheLastDay.allows i op t r) := by
  cases r with
  | checkAndIncrementSpend txAmountUSD dailyLimitUSD ttlMs fate =>
    exact inferInstanceAs (Decidable (fate.carried → t.newTotal txAmountUSD ≤ dailyLimitUSD →
      fate ≠ .lost ∧ (t.shown = none → ∀ spend ∈ t.accepted, spend.time + DAY ≤ t.now) ∧
        (decimal 13).round (t.exactTotal txAmountUSD) = t.exactTotal txAmountUSD))
  | execute spend txHash fate =>
    exact inferInstanceAs (Decidable (¬fate.carried → ∀ s ∈ spend, s ∉ t.counted))
  | setSpend records fate =>
    exact inferInstanceAs (Decidable (fate.carried → Plain (totalOf records) ∧
      ∀ spend ∈ t.accepted, t.now < spend.time + DAY → spend ∈ records.map SpendingRecord.spend))
  | _ => exact .isTrue trivial
instance (t t' : HotState.Tables) : Decidable (countsTheLastDay.passes t t') := .isTrue trivial

/-- The process starts an hour after a transaction, and a day later the limit is there again. -/
theorem card_limited : ((spendingService cardKey).moves countsTheLastDay (Config.initial card)
    (spendCard 0 5 (333 / 10) .answered ++ [.pass 3600000] ++ restart 1 5 ++
      spendCard 2 5 (667 / 10) .answered ++
      [.pass 86400000] ++ spendCard 3 5 100 .answered)).map (fun c => c.state.succeeded) =
        some [⟨2, 100, 90000000⟩, ⟨1, 667 / 10, 3600000⟩, ⟨0, 333 / 10, 0⟩] := by
  decide +kernel

theorem spending_limited_devnet :
    ∃ tr c, (spendingService cardKey).Runs card tr c ∧ SpendingLimited cardKey c.state ∧
    c.state.succeeded = [⟨2, 100, 90000000⟩, ⟨1, 667 / 10, 3600000⟩, ⟨0, 333 / 10, 0⟩] := by
  obtain ⟨tr, c, hrun, hmeets, -, hfacts⟩ := StoreService.runs_of_computed card_limited
  have hkey : cardKey.Exact := ⟨⟨100 * 10 ^ 30, by norm_num [cardKey]⟩, by decide +kernel⟩
  have hfresh : card.Fresh cardKey := by
    refine ⟨rfl, rfl, rfl, rfl, rfl, fun entry hentry => ?_⟩
    obtain rfl := Option.some.inj hentry
    rfl
  exact ⟨tr, c, hrun, spending_limited hkey hfresh hrun hmeets, hfacts⟩

end VeriAgentPay.Devnet
