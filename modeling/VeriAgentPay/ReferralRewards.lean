import VeriAgentPay.BackendStore
import VeriAgentPay.KeyedTables
import VeriAgentPay.ProgramCustody

/-!
# Referral rewards

A referral is recorded at signup and rewarded in stages. The update that sets the flag of a
milestone is conditional; the reward rows are inserted after it.
-/

namespace VeriAgentPay.Referrals
open InterleavedPrograms KeyedTables
open InterleavedPrograms.Fallible (checked check dropResult)
open Backend (Failure outage)

section Tables

namespace REFERRAL_REWARDS

def WALLET_CREATED : ℕ := 25
def REFEREE_WELCOME : ℕ := 100
def FIRST_SEND : ℕ := 25
def DEPOSIT_RETAINED_D7 : ℕ := 50

end REFERRAL_REWARDS

namespace REFERRAL_LIMITS

def MAX_PER_DAY : ℕ := 10
def MIN_ACCOUNT_AGE_GAP_MS : ℤ := 24 * 60 * 60 * 1000

end REFERRAL_LIMITS

def MIN_QUALIFYING_SEND_USD : ℚ := 5

def dayMs : ℤ := 24 * 60 * 60 * 1000

/-- A row of the table `Referral`, which is unique by its referee. Times are in milliseconds. -/
structure Referral where
  refereeId : String
  referrerId : String
  points : ℕ
  createdAt : ℤ
  walletCreated : Bool
  firstSendCompleted : Bool
  depositRetainedD7 : Bool
  deriving DecidableEq

/-- A row of the table `RewardPoint`; the referral that it rewards is history. -/
structure RewardPoint where
  userId : String
  points : ℕ
  reason : String
  refereeId : String
  deriving DecidableEq

structure User where
  createdAt : ℤ
  deviceFingerprint : Option String

/-- The codes and the users do not change; a code is looked up trimmed and in upper case. -/
structure Tables where
  codes : String → Option String
  users : String → Option User
  referrals : Keyed Referral.refereeId
  rewards : List RewardPoint
  now : ℤ

inductive Milestone where
  | walletCreated | firstSend | depositRetainedD7
  deriving DecidableEq

namespace Milestone

def points : Milestone → ℕ
  | walletCreated => REFERRAL_REWARDS.WALLET_CREATED
  | firstSend => REFERRAL_REWARDS.FIRST_SEND
  | depositRetainedD7 => REFERRAL_REWARDS.DEPOSIT_RETAINED_D7

def reason : Milestone → String
  | walletCreated => "REFERRAL_WALLET_CREATED"
  | firstSend => "REFERRAL_FIRST_SEND"
  | depositRetainedD7 => "REFERRAL_DEPOSIT_RETAINED_D7"

def reached : Milestone → Referral → Bool
  | walletCreated => Referral.walletCreated
  | firstSend => Referral.firstSendCompleted
  | depositRetainedD7 => Referral.depositRetainedD7

/-- The flag is set and the points are counted. -/
def set : Milestone → Referral → Referral
  | walletCreated,
    row => { row with walletCreated := true, points := row.points + points walletCreated }
  | firstSend, row =>
    { row with firstSendCompleted := true, points := row.points + points firstSend }
  | depositRetainedD7, row =>
    { row with depositRetainedD7 := true, points := row.points + points depositRetainedD7 }

theorem refereeId_set (m : Milestone) (row : Referral) : (m.set row).refereeId = row.refereeId := by
  cases m <;> rfl

/-- The referrer's row. -/
def reward (m : Milestone) (referral : Referral) : RewardPoint :=
  ⟨referral.referrerId, m.points, m.reason, referral.refereeId⟩

end Milestone

def signupBonus (referral : Referral) : RewardPoint :=
  ⟨referral.refereeId, REFERRAL_REWARDS.REFEREE_WELCOME, "REFERRAL_SIGNUP_BONUS",
    referral.refereeId⟩

/-- The rows that a milestone is rewarded with. -/
def Milestone.rewards : Milestone → Referral → List RewardPoint
  | walletCreated, referral => [reward walletCreated referral, signupBonus referral]
  | m, referral => [m.reward referral]

end Tables

section Requests

inductive Request where
  | now
  | findCode (code : String)
  | findUser (id : String)
  | findReferral (refereeId : String)
  | count (referrerId : String) (since : ℤ)
  /-- The insert after so many were counted since then. -/
  | create (referrerId refereeId : String) (since : ℤ) (recentCount : ℕ) (fate : Fate)
  | claim (refereeId : String) (milestone : Milestone) (fate : Fate)
  | insertRewards (referral : Referral) (milestone : Milestone) (fate : Fate)

inductive Insert where
  | inserted | uniqueViolation
  deriving DecidableEq

abbrev Answer : Request → Type
  | .now => ℤ
  | .findCode _ => Option String
  | .findUser _ => Option User
  | .findReferral _ => Option Referral
  | .count _ _ => ℕ
  | .create _ _ _ _ _ => Except Failure Insert
  | .claim _ _ _ => Except Failure ℕ
  | .insertRewards _ _ _ => Except Failure Unit

abbrev Service (α : Type) := Fallible Failure Request Answer α

abbrev ask (r : Request) : Service (Answer r) := Fallible.ask r

def Tables.recent (t : Tables) (referrerId : String) (since : ℤ) : ℕ :=
  t.referrals.count fun row => row.referrerId = referrerId ∧ since ≤ row.createdAt

def unreached (refereeId : String) (m : Milestone) (row : Referral) : Bool :=
  row.refereeId = refereeId ∧ ¬m.reached row

def carry (t : Tables) : (r : Request) → Answer r × Tables
  | .now => (t.now, t)
  | .findCode code => (t.codes code, t)
  | .findUser id => (t.users id, t)
  | .findReferral refereeId => (t.referrals.find? refereeId, t)
  | .count referrerId since => (t.recent referrerId since, t)
  | .create referrerId refereeId _ _ fate =>
    match t.referrals.insert ⟨refereeId, referrerId, 0, t.now, false, false, false⟩ with
    | none => (fate.told outage .uniqueViolation, t)
    | some referrals =>
      (fate.told outage .inserted, if fate.carried then { t with referrals := referrals } else t)
  | .claim refereeId m fate =>
    (fate.told outage (t.referrals.count (unreached refereeId m)),
      if fate.carried then
        { t with referrals := t.referrals.update (unreached refereeId m) m.set m.refereeId_set }
          else t)
  | .insertRewards referral m fate =>
    (fate.told outage (), if fate.carried then { t with rewards := t.rewards ++ m.rewards referral }
      else t)

end Requests

section Services

inductive RejectionReason where
  | unknownCode | selfReferral | alreadyReferred | duplicateDevice | accountAgeGap | velocityLimit
  deriving DecidableEq

/-- What a call's writes meet. -/
structure Turns where
  claim : Fate
  insert : Fate

/-- The accounts look like those of one person. -/
def sameOwner (referrer referee : User) : Option RejectionReason :=
  if (referrer.deviceFingerprint.any (· ≠ "")) ∧
    referee.deviceFingerprint = referrer.deviceFingerprint then some .duplicateDevice
  else if referee.createdAt - referrer.createdAt < REFERRAL_LIMITS.MIN_ACCOUNT_AGE_GAP_MS then
    some .accountAgeGap
  else none

/-- `checkAntiSybil` from the users on, and the insert. -/
def createReferral (fate : Fate) (referrerId refereeId : String) :
    Service (Option RejectionReason) := do
  let now ← ask .now
  let recentCount ← ask (.count referrerId (now - dayMs))
  if REFERRAL_LIMITS.MAX_PER_DAY ≤ recentCount then pure (some .velocityLimit)
  else do
    let created ← ask (.create referrerId refereeId (now - dayMs) recentCount fate)
    let insert ← checked created
    pure (if insert = .inserted then none else some .alreadyReferred)

def checkUsers (fate : Fate) (referrerId refereeId : String) (referrer referee : Option User) :
    Service (Option RejectionReason) :=
  match referrer, referee with
  | some referrer, some referee =>
    match sameOwner referrer referee with
    | some reason => pure (some reason)
    | none => createReferral fate referrerId refereeId
  | _, _ => pure (some .unknownCode)

/-- The referrer of a known code. -/
def referBy (fate : Fate) (referrerId refereeUserId : String) : Service (Option RejectionReason) :=
  if referrerId = refereeUserId then pure (some .selfReferral)
  else do
    let existingReferral ← ask (.findReferral refereeUserId)
    if existingReferral.isSome then pure (some .alreadyReferred)
    else do
      let referrer ← ask (.findUser referrerId)
      let referee ← ask (.findUser refereeUserId)
      checkUsers fate referrerId refereeUserId referrer referee

/-- The reason of a rejection; none if the referral is accepted. -/
def processReferral (fate : Fate) (code refereeUserId : String) :
    Service (Option RejectionReason) := do
  let referrerId ← ask (.findCode code)
  referrerId.elim (pure (some .unknownCode)) fun referrerId => referBy fate referrerId refereeUserId

/-- The conditional update, and the rewards if it was this call's. -/
def rewardMilestone (turns : Turns) (m : Milestone) (referral : Referral) : Service Bool := do
  let claimed ← ask (.claim referral.refereeId m turns.claim)
  let count ← checked claimed
  if count ≠ 1 then pure false
  else do
    let inserted ← ask (.insertRewards referral m turns.insert)
    checked inserted
    pure true

def markWalletCreated (turns : Turns) (refereeUserId : String) : Service Bool := do
  let referral ← ask (.findReferral refereeUserId)
  (referral.filter fun row => ¬row.walletCreated).elim (pure false)
    (rewardMilestone turns .walletCreated)

/-- The milestone of the wallet first. -/
def walletFirst (turns : Turns) (referral : Referral) : Service Unit :=
  if referral.walletCreated then pure ()
  else do
    let _ ← markWalletCreated turns referral.refereeId
    pure ()

def rewardFirstSend (wallet turns : Turns) (referral : Referral) : Service Bool := do
  walletFirst wallet referral
  rewardMilestone turns .firstSend referral

def markFirstSend (wallet turns : Turns) (refereeUserId : String) (amountUsd : ℚ) : Service Bool :=
  if amountUsd < MIN_QUALIFYING_SEND_USD then pure false
  else do
    let referral ← ask (.findReferral refereeUserId)
    (referral.filter fun row => ¬row.firstSendCompleted).elim (pure false)
      (rewardFirstSend wallet turns)

def markDepositRetainedD7 (turns : Turns) (refereeUserId : String) : Service Bool := do
  let referral ← ask (.findReferral refereeUserId)
  (referral.filter fun row => ¬row.depositRetainedD7).elim (pure false)
    (rewardMilestone turns .depositRetainedD7)

inductive Operation where
  | processReferral (fate : Fate) (code refereeUserId : String)
  | markWalletCreated (turns : Turns) (refereeUserId : String)
  | markFirstSend (wallet turns : Turns) (refereeUserId : String) (amountUsd : ℚ)
  | markDepositRetainedD7 (turns : Turns) (refereeUserId : String)

def Operation.program : Operation → Program Request Answer Unit
  | processReferral fate code refereeUserId => dropResult
    (Referrals.processReferral fate code refereeUserId)
  | markWalletCreated turns refereeUserId =>
    dropResult (Referrals.markWalletCreated turns refereeUserId)
  | markFirstSend wallet turns refereeUserId amountUsd =>
    dropResult (Referrals.markFirstSend wallet turns refereeUserId amountUsd)
  | markDepositRetainedD7 turns refereeUserId =>
    dropResult (Referrals.markDepositRetainedD7 turns refereeUserId)

def referralService : StoreService Tables Operation Request Answer where
  program := Operation.program
  carry _ _ := carry
  passes n t := { t with now := t.now + n }

end Services

section Rewards

def RewardPoint.key (row : RewardPoint) : String × String := (row.refereeId, row.reason)

def Tables.Reached (t : Tables) (refereeId : String) (m : Milestone) : Prop :=
  ∃ row ∈ t.referrals.rows, row.refereeId = refereeId ∧ m.reached row

def Tables.Exists (t : Tables) (refereeId : String) : Prop :=
  ∃ row ∈ t.referrals.rows, row.refereeId = refereeId

def Tables.Rewarded (t : Tables) (refereeId : String) (m : Milestone) : Prop :=
  (refereeId, m.reason) ∈ t.rewards.map RewardPoint.key

instance (t : Tables) (refereeId : String) : DecidablePred (t.Rewarded refereeId) :=
  fun m => inferInstanceAs (Decidable ((refereeId, m.reason) ∈ t.rewards.map RewardPoint.key))

/-- The points of the reward rows of a referral, but for the referee's own. -/
def Tables.pointsOf (t : Tables) (refereeId : String) : ℕ :=
  ((t.rewards.filter fun row => row.refereeId = refereeId ∧
    row.reason ≠ "REFERRAL_SIGNUP_BONUS").map RewardPoint.points).sum

/-- The points of some of the milestones. -/
def total (p : Milestone → Prop) [DecidablePred p] : ℕ :=
  (if p .walletCreated then Milestone.points .walletCreated else 0) +
    (if p .firstSend then Milestone.points .firstSend else 0) +
    if p .depositRetainedD7 then Milestone.points .depositRetainedD7 else 0

/-- The milestone that a call has claimed and not rewarded yet. -/
abbrev Claim := Option (String × Milestone)

/-- The invariant of the milestones. -/
structure Paid (t : Tables) (H : ℕ → Claim) : Prop where
  points : ∀ row ∈ t.referrals.rows, row.points = total fun m => m.reached row
  ordered : ∀ row ∈ t.referrals.rows, row.firstSendCompleted → row.walletCreated
  sums : ∀ refereeId, t.pointsOf refereeId = total (t.Rewarded refereeId)
  once : (t.rewards.map RewardPoint.key).Nodup
  bonus : ∀ refereeId, (refereeId, "REFERRAL_SIGNUP_BONUS") ∈ t.rewards.map RewardPoint.key →
    t.Rewarded refereeId .walletCreated
  reached : ∀ refereeId m, t.Rewarded refereeId m → t.Reached refereeId m
  held : ∀ i refereeId m, H i = some (refereeId, m) → t.Reached refereeId m ∧
    ¬t.Rewarded refereeId m
  alone : ∀ i j claim, H i = some claim → H j = some claim → i = j

/-- What is reached is rewarded, or a call is about to reward it. -/
def AllRewarded (t : Tables) (H : ℕ → Claim) : Prop :=
  ∀ refereeId m, t.Reached refereeId m →
    t.Rewarded refereeId m ∨ ∃ i, H i = some (refereeId, m)

/-- What no step undoes. -/
structure Later (t t' : Tables) : Prop where
  now : t.now ≤ t'.now
  kept : ∀ row ∈ t.referrals.rows, ∃ row' ∈ t'.referrals.rows, row'.refereeId = row.refereeId ∧ ∀ m,
    Milestone.reached m row → m.reached row'

variable {t t' : Tables} {H : ℕ → Claim} {i : ℕ} {refereeId : String} {m : Milestone}
  {referral : Referral}

theorem Later.refl (t : Tables) : Later t t :=
  ⟨le_rfl, fun row hrow => ⟨row, hrow, rfl, fun _ hm => hm⟩⟩

theorem Tables.Reached.later (h : t.Reached refereeId m) (hlater : Later t t') :
    t'.Reached refereeId m := by
  obtain ⟨row, hrow, hid, hm⟩ := h
  obtain ⟨row', hrow', hid', hkept⟩ := hlater.kept row hrow
  exact ⟨row', hrow', hid'.trans hid, hkept m hm⟩

theorem Tables.Exists.later (h : t.Exists refereeId) (hlater : Later t t') :
    t'.Exists refereeId := by
  obtain ⟨row, hrow, hid⟩ := h
  obtain ⟨row', hrow', hid', -⟩ := hlater.kept row hrow
  exact ⟨row', hrow', hid'.trans hid⟩

theorem Milestone.reason_ne_bonus (m : Milestone) : m.reason ≠ "REFERRAL_SIGNUP_BONUS" := by
  cases m <;> decide

theorem Milestone.reached_set (m m' : Milestone) (row : Referral) :
    m'.reached (m.set row) = (decide (m' = m) || m'.reached row) := by
  cases m <;> cases m' <;> simp [Milestone.reached, Milestone.set]

theorem Milestone.points_set (m : Milestone) (row : Referral) :
    (m.set row).points = row.points + m.points := by
  cases m <;> rfl

theorem total_or {p q : Milestone → Prop} [DecidablePred p] [DecidablePred q] (hm : ¬p m)
    (hq : ∀ m', q m' ↔ m' = m ∨ p m') :
    total q = total p + m.points := by
  simp only [total, hq]
  cases m <;> simp [hm] <;> omega

section Claims

/-- The rows after a claim. -/
theorem mem_claim {row : Referral} :
    row ∈ (t.referrals.update (unreached refereeId m) m.set m.refereeId_set).rows ↔
    ∃ old ∈ t.referrals.rows, (if old.refereeId = refereeId ∧ ¬m.reached old then m.set old
      else old) = row := by
  refine (Keyed.mem_update m.refereeId_set).trans ?_
  simp only [unreached, decide_eq_true_eq]

theorem later_claim :
    Later t { t with
      referrals := t.referrals.update (unreached refereeId m) m.set m.refereeId_set } := by
  refine ⟨le_rfl, fun row hrow => ⟨_, mem_claim.mpr ⟨row, hrow, rfl⟩, ?_, ?_⟩⟩
  · split_ifs
    · exact m.refereeId_set row
    · rfl
  · intro m' hm'
    split_ifs
    · rw [Milestone.reached_set, hm', Bool.or_true]
    · exact hm'

/-- After a claim every row of the referral has the flag. -/
theorem reached_claim (hexists : t.Exists refereeId) :
    Tables.Reached
      { t with referrals := t.referrals.update (unreached refereeId m) m.set m.refereeId_set }
        refereeId m := by
  obtain ⟨row, hrow, hid⟩ := hexists
  refine ⟨_, mem_claim.mpr ⟨row, hrow, rfl⟩, ?_, ?_⟩
  · split_ifs
    · rw [m.refereeId_set, hid]
    · exact hid
  · split_ifs with hset
    · rw [Milestone.reached_set, decide_eq_true rfl, Bool.true_or]
    · by_contra hm
      exact hset ⟨hid, hm⟩

/-- What a call holds after a claim. -/
def claimOf (refereeId : String) (m : Milestone) : Except Failure ℕ → Claim
  | .ok 1 => some (refereeId, m)
  | _ => none

theorem eq_one_of_claimOf {x : Except Failure ℕ} {claim : String × Milestone}
    (h : claimOf refereeId m x = some claim) :
    x = .ok 1 ∧ claim = (refereeId, m) := by
  unfold claimOf at h
  split at h
  · exact ⟨rfl, (Option.some.inj h).symm⟩
  · cases h

theorem Paid.claim (hinv : Paid t H) (hnone : H i = none)
    (hordered : m = .firstSend → t.Reached refereeId .walletCreated) (fate : Fate) :
    Paid (carry t (.claim refereeId m fate)).2
      (Function.update H i (claimOf refereeId m (carry t (.claim refereeId m fate)).1)) := by
  cases hcarried : fate.carried with
  | false =>
    have hcarry : (carry t (.claim refereeId m fate)).2 = t := by simp [carry, hcarried]
    have htold : claimOf refereeId m (carry t (.claim refereeId m fate)).1 = none := by
      cases fate with
      | refused => rfl
      | answered => cases hcarried
      | lost => cases hcarried
    rw [hcarry, htold, ← hnone, Function.update_eq_self]
    exact hinv
  | true =>
    have hcarry : (carry t (.claim refereeId m fate)).2 =
        { t with
          referrals := t.referrals.update (unreached refereeId m) m.set m.refereeId_set } := by
        simp [carry, hcarried]
    have hlater : Later t (carry t (.claim refereeId m fate)).2 := by
      rw [hcarry]
      exact later_claim
    have hheld : ∀ j claim, Function.update H i
        (claimOf refereeId m (carry t (.claim refereeId m fate)).1) j = some claim →
        j = i ∧ claim = (refereeId, m) ∧ 0 < t.referrals.count (unreached refereeId m) ∨ j ≠ i ∧
        H j = some claim := by
      intro j claim hj
      by_cases hji : j = i
      · subst hji
        rw [Function.update_self] at hj
        obtain ⟨hone, hclaim⟩ := eq_one_of_claimOf hj
        refine .inl ⟨rfl, hclaim, ?_⟩
        have htold : fate.told outage (t.referrals.count (unreached refereeId m)) = .ok 1 := hone
        unfold Fate.told at htold
        split_ifs at htold
        rw [Except.ok.inj htold]
        exact Nat.one_pos
      · rw [Function.update_of_ne hji] at hj
        exact .inr ⟨hji, hj⟩
    -- A milestone that this call has claimed was not reached before, so nobody holds it and it has
    -- no reward.
    have hnew : 0 < t.referrals.count (unreached refereeId m) → t.Exists refereeId ∧
        ¬t.Reached refereeId m := by
      intro hcount
      obtain ⟨row, hrow, hunreached⟩ := List.countP_pos_iff.mp hcount
      obtain ⟨hid, hm⟩ := of_decide_eq_true hunreached
      refine ⟨⟨row, hrow, hid⟩, ?_⟩
      rintro ⟨row', hrow', hid', hm'⟩
      rw [Keyed.eq_of_key hrow' hrow (hid'.trans hid.symm)] at hm'
      exact hm hm'
    have hreached : ∀ refereeId' m', t.Reached refereeId' m' →
        (carry t (.claim refereeId m fate)).2.Reached refereeId' m' :=
      fun _ _ h => h.later hlater
    rw [hcarry] at hreached ⊢
    refine ⟨?_, ?_, hinv.sums, hinv.once, hinv.bonus,
      fun _ _ h => hreached _ _ (hinv.reached _ _ h), ?_, ?_⟩
    · intro row hrow
      obtain ⟨old, hold, rfl⟩ := mem_claim.mp hrow
      split_ifs with hset
      · rw [Milestone.points_set, hinv.points old hold]
        refine (total_or (m := m) hset.2 ?_).symm
        intro m'
        rw [Milestone.reached_set, Bool.or_eq_true, decide_eq_true_eq]
      · exact hinv.points old hold
    · intro row hrow hfirst
      obtain ⟨old, hold, rfl⟩ := mem_claim.mp hrow
      split_ifs at hfirst ⊢ with hset
      · have hflag : (Milestone.walletCreated.reached (m.set old)) = true := by
          rw [Milestone.reached_set]
          have hfirst : Milestone.firstSend.reached (m.set old) = true := hfirst
          rw [Milestone.reached_set, Bool.or_eq_true, decide_eq_true_eq] at hfirst
          rcases hfirst with hm | hdone
          · obtain ⟨row', hrow', hid', hwallet⟩ := hordered hm.symm
            rw [Keyed.eq_of_key hrow' hold (hid'.trans hset.1.symm)] at hwallet
            rw [hwallet, Bool.or_true]
          · have hwallet : Milestone.walletCreated.reached old = true := hinv.ordered old hold hdone
            rw [hwallet, Bool.or_true]
        exact hflag
      · exact hinv.ordered old hold hfirst
    · intro j refereeId' m' hj
      rcases hheld j _ hj with ⟨-, hclaim, hcount⟩ | ⟨-, hold⟩
      · obtain ⟨rfl, rfl⟩ := Prod.mk.inj hclaim
        obtain ⟨hexists, hunreached⟩ := hnew hcount
        exact ⟨reached_claim hexists, fun h => hunreached (hinv.reached _ _ h)⟩
      · obtain ⟨h, hunrewarded⟩ := hinv.held j refereeId' m' hold
        exact ⟨hreached _ _ h, hunrewarded⟩
    · intro j k claim hj hk
      rcases hheld j claim hj with ⟨rfl, rfl, hcount⟩ | ⟨-, hold⟩
      · rcases hheld k _ hk with ⟨rfl, -⟩ | ⟨-, hold⟩
        · rfl
        · exact absurd (hinv.held k _ _ hold).1 (hnew hcount).2
      · rcases hheld k claim hk with ⟨-, rfl, hcount⟩ | ⟨-, hold'⟩
        · exact absurd (hinv.held j _ _ hold).1 (hnew hcount).2
        · exact hinv.alone j k claim hold hold'

/-- At most one row is claimed. -/
theorem count_unreached_le_one : t.referrals.count (unreached refereeId m) ≤ 1 := by
  have hkey : t.referrals.count (unreached refereeId m) =
      t.referrals.count fun row => row.refereeId = refereeId && !m.reached row := by
    refine congrArg t.referrals.count (funext fun row => ?_)
    simp [unreached]
  rw [hkey]
  cases hfind : t.referrals.find? refereeId with
  | none =>
    refine (List.countP_eq_zero.mpr fun row hrow => ?_).trans_le (Nat.zero_le 1)
    simp [Keyed.find?_eq_none.mp hfind row hrow]
  | some row =>
    rw [Keyed.count_of_key hfind]
    split_ifs
    · exact le_rfl
    · exact Nat.zero_le 1

theorem reached_of_claim {refereeId' : String} {m' : Milestone}
    (h : Tables.Reached
      { t with referrals := t.referrals.update (unreached refereeId m) m.set m.refereeId_set }
      refereeId' m') :
    t.Reached refereeId' m' ∨
      0 < t.referrals.count (unreached refereeId m) ∧ refereeId' = refereeId ∧ m' = m := by
  obtain ⟨row, hrow, rfl, hm⟩ := h
  obtain ⟨old, hold, rfl⟩ := mem_claim.mp hrow
  split_ifs at hm ⊢ with hset
  · rw [Milestone.reached_set, Bool.or_eq_true, decide_eq_true_eq] at hm
    rw [m.refereeId_set]
    rcases hm with rfl | hm
    · exact .inr ⟨List.countP_pos_iff.mpr ⟨old, hold, decide_eq_true hset⟩, hset.1, rfl⟩
    · exact .inl ⟨old, hold, rfl, hm⟩
  · exact .inl ⟨old, hold, rfl, hm⟩

/-- A claim whose answer arrives is held. -/
theorem AllRewarded.claim (h : AllRewarded t H) (hnone : H i = none) {fate : Fate}
    (hfate : fate ≠ .lost) : AllRewarded (carry t (.claim refereeId m fate)).2
      (Function.update H i (claimOf refereeId m (carry t (.claim refereeId m fate)).1)) := by
  have hkept : ∀ held refereeId' m',
      t.Rewarded refereeId' m' ∨ (∃ j, H j = some (refereeId', m')) → t.Rewarded refereeId' m' ∨
      ∃ j, Function.update H i held j = some (refereeId', m') := by
    rintro held refereeId' m' (hrewarded | ⟨j, hj⟩)
    · exact .inl hrewarded
    · have hne : j ≠ i := by
        rintro rfl
        rw [hnone] at hj
        cases hj
      exact .inr ⟨j, by rwa [Function.update_of_ne hne]⟩
  cases fate with
  | lost => exact absurd rfl hfate
  | refused => exact fun refereeId' m' hreached => hkept _ _ _ (h refereeId' m' hreached)
  | answered =>
    intro refereeId' m' hreached
    rcases reached_of_claim hreached with hold | ⟨hcount, rfl, rfl⟩
    · exact hkept _ _ _ (h refereeId' m' hold)
    · have hone : t.referrals.count (unreached refereeId' m') = 1 :=
        le_antisymm count_unreached_le_one hcount
      refine .inr ⟨i, ?_⟩
      simp [carry, Fate.told, hone, claimOf]

end Claims

section Inserts

def Tables.insert (t : Tables) (m : Milestone) (referral : Referral) : Tables :=
  { t with rewards := t.rewards ++ m.rewards referral }

theorem rewarded_insert {refereeId' : String} {m' : Milestone} :
    (t.insert m referral).Rewarded refereeId' m' ↔ t.Rewarded refereeId' m' ∨
    refereeId' = referral.refereeId ∧ m' = m := by
  unfold Tables.Rewarded
  rw [Tables.insert, List.map_append, List.mem_append]
  refine or_congr_right ?_
  cases m <;> cases m' <;>
    simp [Milestone.rewards, Milestone.reward, signupBonus, RewardPoint.key, Milestone.reason]

theorem pointsOf_insert (refereeId' : String) :
    (t.insert m referral).pointsOf refereeId' = t.pointsOf refereeId' +
      if refereeId' = referral.refereeId then m.points else 0 := by
  unfold Tables.pointsOf
  rw [Tables.insert, List.filter_append, List.map_append, List.sum_append]
  congr 1
  by_cases hsame : refereeId' = referral.refereeId
  · subst hsame
    cases m <;> simp [Milestone.rewards, Milestone.reward, signupBonus, Milestone.reason]
  · have hother : ¬referral.refereeId = refereeId' := fun h => hsame h.symm
    cases m <;> simp [Milestone.rewards, Milestone.reward, signupBonus, hsame, hother]

theorem keys_nodup_rewards (m : Milestone) (referral : Referral) :
    ((m.rewards referral).map RewardPoint.key).Nodup := by
  cases m <;> simp [Milestone.rewards, Milestone.reward, signupBonus, RewardPoint.key,
    Milestone.reason]

/-- A key among the rows that a milestone is rewarded with. -/
theorem key_of_mem_rewards {key : String × String}
    (h : key ∈ (m.rewards referral).map RewardPoint.key) :
    key = (referral.refereeId, m.reason) ∨ key = (referral.refereeId, "REFERRAL_SIGNUP_BONUS") ∧
    m = .walletCreated := by
  cases m with
  | walletCreated =>
    rcases List.mem_cons.mp h with rfl | h
    · exact .inl rfl
    · exact .inr ⟨List.mem_singleton.mp h, rfl⟩
  | firstSend => exact .inl (List.mem_singleton.mp h)
  | depositRetainedD7 => exact .inl (List.mem_singleton.mp h)

theorem Paid.release (hinv : Paid t H) (i : ℕ) : Paid t (Function.update H i none) := by
  have hheld : ∀ j claim, Function.update H i none j = some claim → H j = some claim := by
    intro j claim hj
    by_cases hji : j = i
    · subst hji
      rw [Function.update_self] at hj
      cases hj
    · rwa [Function.update_of_ne hji] at hj
  refine ⟨hinv.points, hinv.ordered, hinv.sums, hinv.once, hinv.bonus, hinv.reached, ?_, ?_⟩
  · exact fun j refereeId m hj => hinv.held j refereeId m (hheld j _ hj)
  · exact fun j k claim hj hk => hinv.alone j k claim (hheld j claim hj) (hheld k claim hk)

theorem Paid.insert (hinv : Paid t H) (hi : H i = some (referral.refereeId, m)) :
    Paid (t.insert m referral) (Function.update H i none) := by
  obtain ⟨hreached, hunrewarded⟩ := hinv.held i _ _ hi
  have hheld : ∀ j claim, Function.update H i none j = some claim → j ≠ i ∧ H j = some claim := by
    intro j claim hj
    by_cases hji : j = i
    · subst hji
      rw [Function.update_self] at hj
      cases hj
    · exact ⟨hji, by rwa [Function.update_of_ne hji] at hj⟩
  refine ⟨hinv.points, hinv.ordered, ?_, ?_, ?_, ?_, ?_, ?_⟩
  · intro refereeId'
    rw [pointsOf_insert, hinv.sums]
    split_ifs with hsame
    · subst hsame
      refine (total_or hunrewarded ?_).symm
      intro m'
      rw [rewarded_insert]
      simp [or_comm]
    · have hrewarded :
        ∀ m', (t.insert m referral).Rewarded refereeId' m' ↔ t.Rewarded refereeId' m' := by
        intro m'
        rw [rewarded_insert]
        simp [hsame]
      simp only [total, hrewarded, Nat.add_zero]
  · rw [Tables.insert, List.map_append, List.nodup_append]
    refine ⟨hinv.once, keys_nodup_rewards m referral, ?_⟩
    rintro key hkey _ hnew rfl
    rcases key_of_mem_rewards hnew with rfl | ⟨rfl, rfl⟩
    · exact hunrewarded hkey
    · exact hunrewarded (hinv.bonus _ hkey)
  · intro refereeId' hbonus
    rw [Tables.insert, List.map_append, List.mem_append] at hbonus
    rw [rewarded_insert]
    rcases hbonus with hold | hnew
    · exact .inl (hinv.bonus refereeId' hold)
    · rcases key_of_mem_rewards hnew with hkey | ⟨hkey, rfl⟩
      · exact absurd (Prod.mk.inj hkey).2.symm m.reason_ne_bonus
      · exact .inr ⟨(Prod.mk.inj hkey).1, rfl⟩
  · intro refereeId' m' hrewarded
    rcases rewarded_insert.mp hrewarded with hold | ⟨rfl, rfl⟩
    · exact hinv.reached refereeId' m' hold
    · exact hreached
  · intro j refereeId' m' hj
    obtain ⟨hji, hold⟩ := hheld j _ hj
    obtain ⟨hreached', hunrewarded'⟩ := hinv.held j refereeId' m' hold
    refine ⟨hreached', ?_⟩
    rw [rewarded_insert, not_or]
    refine ⟨hunrewarded', ?_⟩
    rintro ⟨rfl, rfl⟩
    exact hji (hinv.alone j i _ hold hi)
  · exact fun j k claim hj hk => hinv.alone j k claim (hheld j claim hj).2 (hheld k claim hk).2

theorem AllRewarded.insert (h : AllRewarded t H) (hi : H i = some (referral.refereeId, m)) :
    AllRewarded (t.insert m referral) (Function.update H i none) := by
  intro refereeId' m' hreached
  rcases h refereeId' m' hreached with hrewarded | ⟨j, hj⟩
  · exact .inl (rewarded_insert.mpr (.inl hrewarded))
  by_cases hji : j = i
  · subst hji
    obtain ⟨rfl, rfl⟩ := Prod.mk.inj (Option.some.inj (hi.symm.trans hj))
    exact .inl (rewarded_insert.mpr (.inr ⟨rfl, rfl⟩))
  · exact .inr ⟨j, by rwa [Function.update_of_ne hji]⟩

end Inserts

section Limits

/-- In no day are more referrals credited to a referrer than may be. -/
def Limited (t : Tables) : Prop :=
  ∀ referrerId start, (t.referrals.count fun row => row.referrerId = referrerId ∧
    start ≤ row.createdAt ∧
    row.createdAt ≤ start + dayMs) ≤ REFERRAL_LIMITS.MAX_PER_DAY

def Tables.credit (t : Tables) (referrals : Keyed Referral.refereeId) : Tables :=
  { t with referrals := referrals }

variable {referrerId : String} {referrals : Keyed Referral.refereeId}

theorem Paid.credit (hinv : Paid t H)
    (hinsert : t.referrals.insert ⟨refereeId, referrerId, 0, t.now, false, false, false⟩ =
      some referrals) :
    Paid (t.credit referrals) H := by
  have hreached :
      ∀ refereeId' m', t.Reached refereeId' m' → (t.credit referrals).Reached refereeId' m' := by
    rintro refereeId' m' ⟨row, hrow, hid, hm⟩
    exact ⟨row, (Keyed.mem_insert hinsert).mpr (.inl hrow), hid, hm⟩
  refine ⟨?_, ?_, hinv.sums, hinv.once, hinv.bonus,
    fun _ _ h => hreached _ _ (hinv.reached _ _ h), ?_, hinv.alone⟩
  · intro row hrow
    rcases (Keyed.mem_insert hinsert).mp hrow with hold | rfl
    · exact hinv.points row hold
    · rfl
  · intro row hrow
    rcases (Keyed.mem_insert hinsert).mp hrow with hold | rfl
    · exact hinv.ordered row hold
    · exact fun h => h
  · intro j refereeId' m' hj
    obtain ⟨h, hunrewarded⟩ := hinv.held j refereeId' m' hj
    exact ⟨hreached _ _ h, hunrewarded⟩

theorem later_credit
    (hinsert : t.referrals.insert ⟨refereeId, referrerId, 0, t.now, false, false, false⟩ =
      some referrals) :
    Later t (t.credit referrals) :=
  ⟨le_rfl, fun row hrow => ⟨row, (Keyed.mem_insert hinsert).mpr (.inl hrow), rfl, fun _ hm => hm⟩⟩

/-- A new referral has reached nothing. -/
theorem AllRewarded.credit (h : AllRewarded t H)
    (hinsert : t.referrals.insert ⟨refereeId, referrerId, 0, t.now, false, false, false⟩ =
      some referrals) : AllRewarded (t.credit referrals) H := by
  rintro refereeId' m' ⟨row, hrow, hid, hm⟩
  rcases (Keyed.mem_insert hinsert).mp hrow with hold | rfl
  · exact h refereeId' m' ⟨row, hold, hid, hm⟩
  · cases m' <;> cases hm

/-- A referral is credited while fewer than the maximum have been in the last day. -/
theorem Limited.credit (hlimited : Limited t)
    (hinsert : t.referrals.insert ⟨refereeId, referrerId, 0, t.now, false, false, false⟩ =
      some referrals) {since : ℤ}
    (hsince : since + dayMs ≤ t.now)
    (hrecent : t.recent referrerId since < REFERRAL_LIMITS.MAX_PER_DAY) :
    Limited (t.credit referrals) := by
  intro referrerId' start
  show referrals.count _ ≤ _
  rw [Keyed.count_insert hinsert]
  split_ifs with hwindow
  · obtain ⟨hsame, -, hend⟩ := of_decide_eq_true hwindow
    have hsame : referrerId = referrerId' := hsame
    subst hsame
    have hle : (t.referrals.count fun row => row.referrerId = referrerId ∧ start ≤ row.createdAt ∧
        row.createdAt ≤ start + dayMs) ≤
        t.recent referrerId since := by
      refine List.countP_mono_left fun row _ hrow => ?_
      obtain ⟨hreferrer, hstart, -⟩ := of_decide_eq_true hrow
      have hend : t.now ≤ start + dayMs := hend
      exact decide_eq_true ⟨hreferrer, by omega⟩
    omega
  · exact hlimited referrerId' start

end Limits

section Walks

/-- Nobody else is credited between a call's count and its insert; the answer of a claim is not lost
and the rows of a milestone are inserted. -/
def referralsInTurn (counted inserted : Prop) :
    StoreService.Conditions Tables Operation Request where
  starts _ := True
  allows _ _ t
    | .create referrerId _ since recentCount _ =>
      counted → t.recent referrerId since = recentCount
    | .claim _ _ fate => inserted → fate ≠ .lost
    | .insertRewards _ _ fate => inserted → fate.carried
    | _ => True
  passes _ _ := True

/-- The milestones always, and the limit and the rewards where it is their turn. -/
def referralCustody (counted inserted : Prop) : Custody Tables Operation Request Answer Claim where
  service := referralService
  conditions := referralsInTurn counted inserted
  inv t H := Paid t H ∧ (counted → Limited t) ∧ (inserted → AllRewarded t H)
  grows := Later
  idle := none

variable {counted inserted : Prop} {op : Operation}

theorem stable_now (now : ℤ) : (referralCustody counted inserted).Stable fun t => now ≤ t.now :=
  fun _ _ hgrows hnow => hnow.trans hgrows.now

theorem stable_exists (refereeId : String) :
    (referralCustody counted inserted).Stable fun t => t.Exists refereeId :=
  fun _ _ hgrows h => h.later hgrows

theorem stable_reached (p : Prop) (refereeId : String) (m : Milestone) :
    (referralCustody counted inserted).Stable fun t => p → t.Reached refereeId m :=
  fun _ _ hgrows h hp => (h hp).later hgrows

theorem Limited.of_referrals (h : counted → Limited t) (hsame : ∀ referrerId start,
    (t'.referrals.count fun row => row.referrerId = referrerId ∧ start ≤ row.createdAt ∧
      row.createdAt ≤ start + dayMs) =
      t.referrals.count fun row => row.referrerId = referrerId ∧ start ≤ row.createdAt ∧
        row.createdAt ≤ start + dayMs) :
    counted → Limited t' := by
  intro hcounted referrerId start
  rw [hsame]
  exact h hcounted referrerId start

/-- A claim changes nobody's referrer and no date. -/
theorem count_claim (referrerId : String) (start : ℤ) :
    ((t.referrals.update (unreached refereeId m) m.set m.refereeId_set).count
      fun row => row.referrerId = referrerId ∧
        start ≤ row.createdAt ∧ row.createdAt ≤ start + dayMs) =
      t.referrals.count fun row => row.referrerId = referrerId ∧ start ≤ row.createdAt ∧
        row.createdAt ≤ start + dayMs := by
  unfold Keyed.count Keyed.update
  rw [List.countP_map]
  refine List.countP_congr fun row _ => ?_
  cases m <;> simp only [Function.comp_apply] <;> split_ifs <;> rfl

theorem upholds_claim {fate : Fate} {E : Tables → Claim → Prop} :
    (referralCustody counted inserted).Upholds i op (ask (.claim refereeId m fate))
      (fun t => t.Exists refereeId ∧ (m = .firstSend → t.Reached refereeId .walletCreated)) none
      (fun claimed t held => held = claimOf refereeId m claimed ∧ ((∃ count, claimed = .ok count) →
        t.Reached refereeId m)) E := by
  refine Custody.Upholds.ask (D := referralCustody counted inserted) (r := .claim refereeId m fate)
    (claimOf refereeId m)
    (fun _ => stable_reached _ _ _) ?_
  rintro t H ⟨hinv, hlimited, hrewarded⟩ ⟨hexists, hordered⟩ hnone hallows
  have hinv : Paid t H := hinv
  show Later t (carry t _).2 ∧ (Paid (carry t _).2 _ ∧ (counted → Limited (carry t _).2) ∧
    (inserted → AllRewarded (carry t _).2 _)) ∧ _
  refine ⟨?_, ⟨hinv.claim hnone hordered fate, ?_, ?_⟩, ?_⟩
  · cases hcarried : fate.carried with
    | true => simpa [carry, hcarried] using later_claim
    | false => simpa [carry, hcarried] using Later.refl t
  · refine Limited.of_referrals hlimited fun referrerId start => ?_
    cases hcarried : fate.carried with
    | true => simpa [carry, hcarried] using count_claim referrerId start
    | false => simp [carry, hcarried]
  · exact fun hinserted => (hrewarded hinserted).claim hnone (hallows hinserted)
  · rintro ⟨count, htold⟩
    have htold : fate.told outage (t.referrals.count (unreached refereeId m)) = .ok count := htold
    unfold Fate.told at htold
    split_ifs at htold with hanswered
    subst hanswered
    exact reached_claim hexists

theorem upholds_insertRewards {fate : Fate} {K : Tables → Prop}
    (hK : (referralCustody counted inserted).Stable K) {E : Tables → Claim → Prop} :
    (referralCustody counted inserted).Upholds i op (ask (.insertRewards referral m fate)) K
      (some (referral.refereeId, m)) (fun _ t held => held = none ∧ K t) E := by
  refine Custody.Upholds.ask (D := referralCustody counted inserted)
    (r := .insertRewards referral m fate) (fun _ => none) (fun _ => hK) ?_
  rintro t H ⟨hinv, hlimited, hrewarded⟩ hknown hi hallows
  have hinv : Paid t H := hinv
  show Later t (carry t _).2 ∧ (Paid (carry t _).2 _ ∧ (counted → Limited (carry t _).2) ∧
    (inserted → AllRewarded (carry t _).2 _)) ∧ K (carry t _).2
  cases hcarried : fate.carried with
  | true =>
    have hcarry : (carry t (.insertRewards referral m fate)).2 = t.insert m referral := by
      simp [carry, hcarried, Tables.insert]
    have hlater : Later t (t.insert m referral) :=
      ⟨le_rfl, fun row hrow => ⟨row, hrow, rfl, fun _ hm => hm⟩⟩
    rw [hcarry]
    exact ⟨hlater, ⟨hinv.insert hi, hlimited, fun hinserted => (hrewarded hinserted).insert hi⟩,
      hK t _ hlater hknown⟩
  | false =>
    have hcarry : (carry t (.insertRewards referral m fate)).2 = t := by simp [carry, hcarried]
    rw [hcarry]
    refine ⟨Later.refl t, ⟨hinv.release i, hlimited, fun hinserted => ?_⟩, hknown⟩
    have hcarries : fate.carried := hallows hinserted
    rw [hcarried] at hcarries
    cases hcarries

/-- A milestone is claimed and rewarded; where the call returns, it is reached. -/
theorem keeps_rewardMilestone {turns : Turns} :
    (referralCustody counted inserted).Keeps i op (rewardMilestone turns m referral)
      (fun t => t.Exists referral.refereeId ∧
        (m = .firstSend → t.Reached referral.refereeId .walletCreated)) none
      (fun _ t => t.Reached referral.refereeId m) fun _ => True := by
  unfold rewardMilestone
  refine Custody.Upholds.bind upholds_claim fun claimed held => ?_
  refine Custody.Upholds.assuming ?_
  rintro rfl
  cases claimed with
  | error e =>
    refine Custody.Upholds.checkedThen (fun _ _ _ _ => ⟨rfl, trivial⟩) fun count hcount => ?_
    cases hcount
  | ok count =>
    refine Custody.Upholds.checkedThen (fun _ herror => nomatch herror) fun count' hcount => ?_
    obtain rfl := Except.ok.inj hcount
    split_ifs with hone
    · refine Custody.Upholds.pure fun t hs => ⟨?_, hs ⟨count, rfl⟩⟩
      unfold claimOf
      split
      · next heq => exact absurd (Except.ok.inj heq) hone
      · rfl
    · obtain rfl : count = 1 := not_not.mp hone
      refine Custody.Upholds.bind (upholds_insertRewards
        (stable_reached (∃ count, Except.ok (ε := Failure) 1 = .ok count) _ m))
        fun inserted held => ?_
      refine Custody.Upholds.assuming ?_
      rintro rfl
      refine Custody.Upholds.checkedThen (fun _ _ _ _ => ⟨rfl, trivial⟩) fun _ _ => ?_
      exact Custody.Upholds.pure fun t hs => ⟨rfl, hs ⟨1, rfl⟩⟩

/-- What a call knows of a referral that it has found. -/
def Found (refereeId : String) (row : Referral) (t : Tables) : Prop :=
  row.refereeId = refereeId ∧ t.Exists row.refereeId ∧
  (row.walletCreated → t.Reached row.refereeId .walletCreated)

theorem stable_found (counted inserted : Prop) (refereeId : String) (row : Referral) :
    (referralCustody counted inserted).Stable (Found refereeId row) :=
  (Custody.stable_const _).and ((stable_exists _).and (stable_reached _ _ _))

/-- A referral that is known to exist is found. -/
theorem keeps_findReferral (nested : Prop) {F : Tables → Prop} :
    (referralCustody counted inserted).Keeps i op (ask (.findReferral refereeId))
      (fun t => nested → t.Exists refereeId) none
      (fun found t => (nested → found ≠ none) ∧ ∀ row ∈ found, Found refereeId row t) F := by
  refine Custody.Keeps.read Later.refl (fun _ => rfl) (fun found => ?_) ?_
  · refine (Custody.stable_const _).and ?_
    exact fun t t' hgrows h row hrow => stable_found counted inserted refereeId row t t' hgrows
      (h row hrow)
  · intro t H _ hexists
    constructor
    · intro hnested hnone
      obtain ⟨row, hrow, hid⟩ := hexists hnested
      exact Keyed.find?_eq_none.mp hnone row hrow hid
    · intro row hfound
      obtain ⟨hrow, hid⟩ := Keyed.find?_eq_some.mp hfound
      exact ⟨hid, ⟨row, hrow, rfl⟩, fun hwallet => ⟨row, hrow, rfl, hwallet⟩⟩

theorem keeps_markWalletCreated (nested : Prop) {turns : Turns} :
    (referralCustody counted inserted).Keeps i op (markWalletCreated turns refereeId)
      (fun t => nested → t.Exists refereeId) none
      (fun _ t => nested → t.Reached refereeId .walletCreated) fun _ => True := by
  unfold markWalletCreated
  refine Custody.Keeps.andThen (F := fun _ => True) (keeps_findReferral nested) (fun found => ?_)
    fun _ _ => ⟨rfl, trivial⟩
  refine Custody.Upholds.assuming fun hfound => ?_
  cases found with
  | none => exact Custody.Upholds.pure fun _ _ => ⟨rfl, fun hnested => absurd rfl (hfound hnested)⟩
  | some row =>
    cases hwallet : row.walletCreated with
    | true =>
      have hfilter : ((some row).filter fun row : Referral => ¬row.walletCreated) = none := by
        simp [hwallet]
      rw [hfilter]
      refine Custody.Upholds.pure fun t hs => ⟨rfl, fun _ => ?_⟩
      obtain ⟨hid, -, hreached⟩ := hs row rfl
      exact hid ▸ hreached hwallet
    | false =>
      have hfilter : ((some row).filter fun row : Referral => ¬row.walletCreated) = some row := by
        simp [hwallet]
      rw [hfilter]
      refine Custody.Upholds.given (p := row.refereeId = refereeId) (fun t hs => (hs row rfl).1) ?_
      rintro rfl
      refine keeps_rewardMilestone.weaken ?_ ?_ fun _ _ hs => hs
      · exact fun t hs => ⟨(hs row rfl).2.1, fun hfirst => nomatch hfirst⟩
      · exact fun _ t h' hs => ⟨hs.1, fun _ => hs.2⟩

theorem keeps_rewardFirstSend {wallet turns : Turns} :
    (referralCustody counted inserted).Keeps i op (rewardFirstSend wallet turns referral)
      (Found refereeId referral) none
      (fun _ _ => True) fun _ => True := by
  unfold rewardFirstSend
  refine Custody.Keeps.andThen
    (R := fun _ t => t.Exists referral.refereeId ∧ t.Reached referral.refereeId .walletCreated)
    (F := fun _ => True) ?_ (fun _ => ?_) fun _ _ => ⟨rfl, trivial⟩
  · unfold walletFirst
    split_ifs with hwallet
    · exact Custody.Upholds.pure fun t hs => ⟨rfl, hs.2.1, hs.2.2 hwallet⟩
    · refine Custody.Keeps.andThen (F := fun _ => True)
        ((keeps_markWalletCreated True).knowing fun t hs _ => hs.2.1) (fun _ => ?_)
        fun _ _ => ⟨rfl, trivial⟩
      refine Custody.Upholds.pure fun t hs => ⟨rfl, ?_, hs trivial⟩
      obtain ⟨row, hrow, hid, -⟩ := hs trivial
      exact ⟨row, hrow, hid⟩
  · refine keeps_rewardMilestone.weaken ?_ (fun _ _ _ hs => ⟨hs.1, trivial⟩) fun _ _ hs => hs
    exact fun t hs => ⟨hs.1, fun _ => hs.2⟩

theorem ends_markWalletCreated (turns : Turns) (refereeId : String) :
    (referralCustody counted inserted).Ends i op (dropResult (markWalletCreated turns refereeId)) :=
  ((keeps_markWalletCreated False).heeds fun _ hnested => hnested.elim).ends

theorem ends_markFirstSend (wallet turns : Turns) (refereeId : String) (amountUsd : ℚ) :
    (referralCustody counted inserted).Ends i op
      (dropResult (markFirstSend wallet turns refereeId amountUsd)) := by
  refine Custody.Heeds.ends ?_
  unfold markFirstSend
  split_ifs
  · exact Custody.Heeds.pure
  refine Custody.Keeps.andThen (F := fun _ => True)
    ((keeps_findReferral False).knowing fun _ _ hnested => hnested.elim) (fun found => ?_)
    fun _ _ => ⟨rfl, trivial⟩
  cases hrow : found.filter fun row : Referral => ¬row.firstSendCompleted with
  | none => exact Custody.Upholds.pure fun _ _ => ⟨rfl, trivial⟩
  | some row =>
    obtain ⟨hfound, -⟩ := Option.filter_eq_some_iff.mp hrow
    refine Custody.Upholds.weaken (K := Found refereeId row) keeps_rewardFirstSend ?_
      (fun _ _ _ hs => hs) fun _ _ hs => hs
    exact fun t hs => hs.2 row hfound

theorem ends_markDepositRetainedD7 (turns : Turns) (refereeId : String) :
    (referralCustody counted inserted).Ends i op
      (dropResult (markDepositRetainedD7 turns refereeId)) := by
  refine Custody.Heeds.ends ?_
  unfold markDepositRetainedD7
  refine Custody.Keeps.andThen (F := fun _ => True)
    ((keeps_findReferral False).knowing fun _ _ hnested => hnested.elim) (fun found => ?_)
    fun _ _ => ⟨rfl, trivial⟩
  cases hrow : found.filter fun row : Referral => ¬row.depositRetainedD7 with
  | none => exact Custody.Upholds.pure fun _ _ => ⟨rfl, trivial⟩
  | some row =>
    obtain ⟨hfound, -⟩ := Option.filter_eq_some_iff.mp hrow
    refine keeps_rewardMilestone.weaken ?_ (fun _ _ _ hs => ⟨hs.1, trivial⟩) fun _ _ hs => hs
    exact fun t hs => ⟨(hs.2 row hfound).2.1, fun hfirst => nomatch hfirst⟩

theorem keeps_create {referrerId : String} {since : ℤ} {recentCount : ℕ} {fate : Fate}
    (hrecent : recentCount < REFERRAL_LIMITS.MAX_PER_DAY) :
    (referralCustody counted inserted).Keeps i op
      (ask (.create referrerId refereeId since recentCount fate))
        (fun t => since + dayMs ≤ t.now) none
      (fun _ _ => True) fun _ => True := by
  refine Custody.Keeps.ask (D := referralCustody counted inserted)
    (r := .create referrerId refereeId since recentCount fate)
    (fun _ => Custody.stable_const True) ?_
  rintro t H ⟨hinv, hlimited, hrewarded⟩ hsince - hallows
  have hinv : Paid t H := hinv
  have hallows : counted → t.recent referrerId since = recentCount := hallows
  show Later t (carry t _).2 ∧ (Paid (carry t _).2 H ∧ (counted → Limited (carry t _).2) ∧
    (inserted → AllRewarded (carry t _).2 H)) ∧ True
  cases hinsert : t.referrals.insert ⟨refereeId, referrerId, 0, t.now, false, false, false⟩ with
  | none =>
    have hcarry : (carry t (.create referrerId refereeId since recentCount fate)).2 = t := by
      simp only [carry, hinsert]
    rw [hcarry]
    exact ⟨Later.refl t, ⟨hinv, hlimited, hrewarded⟩, trivial⟩
  | some referrals =>
    cases hcarried : fate.carried with
    | true =>
      have hcarry : (carry t (.create referrerId refereeId since recentCount fate)).2 =
          t.credit referrals := by
        simp only [carry, hinsert, hcarried, if_true, Tables.credit]
      rw [hcarry]
      refine ⟨later_credit hinsert, ⟨hinv.credit hinsert, fun hcounted => ?_,
        fun hinserted => (hrewarded hinserted).credit hinsert⟩, trivial⟩
      exact (hlimited hcounted).credit hinsert hsince (hallows hcounted ▸ hrecent)
    | false =>
      have hcarry : (carry t (.create referrerId refereeId since recentCount fate)).2 = t := by
        simp [carry, hinsert, hcarried]
      rw [hcarry]
      exact ⟨Later.refl t, ⟨hinv, hlimited, hrewarded⟩, trivial⟩

theorem heeds_createReferral {fate : Fate} {referrerId : String} :
    (referralCustody counted inserted).Heeds i op
      (createReferral fate referrerId refereeId) none := by
  unfold createReferral
  refine Custody.Keeps.andThen (F := fun _ => True)
    (Custody.Keeps.read (S := fun now t => now ≤ t.now) Later.refl (fun _ => rfl) stable_now
      fun _ _ _ _ => le_rfl) (fun now => ?_) fun _ _ => ⟨rfl, trivial⟩
  apply Custody.Upholds.lookThen Later.refl (fun _ => rfl) (stable_now now)
  intro recentCount
  split_ifs with hlimit
  · exact Custody.Upholds.pure fun _ _ => ⟨rfl, trivial⟩
  · refine Custody.Keeps.andThen (F := fun _ => True)
      ((keeps_create (not_le.mp hlimit)).knowing fun t hs => ?_) (fun created => ?_)
      fun _ _ => ⟨rfl, trivial⟩
    · omega
    · exact Custody.Heeds.checked.andThen fun _ => Custody.Heeds.pure

theorem ends_processReferral (fate : Fate) (code refereeId : String) :
    (referralCustody counted inserted).Ends i op
      (dropResult (processReferral fate code refereeId)) := by
  have hlook : ∀ {r : Request}, (∀ t, (carry t r).2 = t) →
      (referralCustody counted inserted).Heeds i op (ask r) none :=
    fun hsame => Custody.Heeds.look Later.refl hsame
  refine Custody.Heeds.ends ?_
  unfold processReferral
  refine (hlook fun _ => rfl).andThen fun referrerId => ?_
  cases referrerId with
  | none => exact Custody.Heeds.pure
  | some referrerId =>
    show (referralCustody counted inserted).Heeds i op (referBy fate referrerId refereeId) none
    unfold referBy
    split_ifs
    · exact Custody.Heeds.pure
    refine (hlook fun _ => rfl).andThen fun existingReferral => ?_
    split_ifs
    · exact Custody.Heeds.pure
    refine (hlook fun _ => rfl).andThen fun referrer => ?_
    refine (hlook fun _ => rfl).andThen fun referee => ?_
    unfold checkUsers
    split
    · split
      · exact Custody.Heeds.pure
      · exact heeds_createReferral
    · exact Custody.Heeds.pure

theorem ends_program (i : ℕ) (op : Operation) :
    (referralCustody counted inserted).Ends i op (referralService.program op) := by
  cases op with
  | processReferral fate code refereeUserId => exact ends_processReferral fate code refereeUserId
  | markWalletCreated turns refereeUserId => exact ends_markWalletCreated turns refereeUserId
  | markFirstSend wallet turns refereeUserId amountUsd =>
    exact ends_markFirstSend wallet turns refereeUserId amountUsd
  | markDepositRetainedD7 turns refereeUserId =>
    exact ends_markDepositRetainedD7 turns refereeUserId

theorem referralCustody_kept (counted inserted : Prop) :
    (referralCustody counted inserted).Kept where
  refl := Later.refl
  programs i op _ := (ends_program i op).plays
  passes n t H hinv _ := by
    obtain ⟨hpaid, hlimited, hrewarded⟩ := hinv
    have hnow : t.now ≤ t.now + n := by omega
    refine ⟨⟨hnow, fun row hrow => ⟨row, hrow, rfl, fun _ hm => hm⟩⟩, ?_, hlimited, hrewarded⟩
    exact ⟨hpaid.points, hpaid.ordered, hpaid.sums, hpaid.once, hpaid.bonus, hpaid.reached,
      hpaid.held, hpaid.alone⟩

end Walks

/-- Every milestone of a referral is rewarded once and in order. -/
structure RewardsAgree (t : Tables) : Prop where
  once : (t.rewards.map RewardPoint.key).Nodup
  ordered : ∀ row ∈ t.referrals.rows, row.firstSendCompleted → row.walletCreated

/-- Where every milestone that is reached is rewarded, the points are those of the rows. -/
theorem Paid.points_eq (h : Paid t H) (hall : ∀ refereeId m, t.Reached refereeId m →
    t.Rewarded refereeId m) : ∀ row ∈ t.referrals.rows, row.points = t.pointsOf row.refereeId := by
  intro row hrow
  have hiff : ∀ m, (Milestone.reached m row = true) ↔ t.Rewarded row.refereeId m := by
    refine fun m => ⟨fun hm => hall row.refereeId m ⟨row, hrow, rfl, hm⟩, fun hm => ?_⟩
    obtain ⟨row', hrow', hid, hreached⟩ := h.reached row.refereeId m hm
    rwa [Keyed.eq_of_key hrow' hrow hid] at hreached
  rw [h.points row hrow, h.sums row.refereeId]
  simp only [total, hiff]

variable {start : Tables} {tr : Trace Tables Operation Request Answer}
  {c : Config Tables Operation Request Answer}

/-- Nobody has been referred. -/
theorem paid_of_empty (hreferrals : start.referrals = .empty) (hrewards : start.rewards = []) :
    Paid start (fun _ => none) ∧ Limited start ∧ AllRewarded start fun _ => none := by
  have hnone : ∀ row, row ∉ start.referrals.rows := by
    rw [hreferrals]
    exact fun _ hrow => nomatch hrow
  refine ⟨?_, ?_, ?_⟩
  · refine ⟨fun row hrow => absurd hrow (hnone row), fun row hrow => absurd hrow (hnone row), ?_,
      ?_, ?_, ?_, fun _ _ _ hheld => (nomatch hheld), fun _ _ _ hheld => (nomatch hheld)⟩
    · intro refereeId
      simp [Tables.pointsOf, total, Tables.Rewarded, hrewards]
    · rw [hrewards]
      exact List.nodup_nil
    · rw [hrewards]
      exact fun _ hkey => (nomatch hkey)
    · unfold Tables.Rewarded
      rw [hrewards]
      exact fun _ _ hkey => (nomatch hkey)
  · intro referrerId s
    rw [hreferrals]
    exact Nat.zero_le _
  · rintro refereeId m ⟨row, hrow, -⟩
    exact absurd hrow (hnone row)

/-- Every run keeps to the milestones, and to what is asked of its steps besides. -/
theorem paid_of_run {counted inserted : Prop} (hreferrals : start.referrals = .empty)
    (hrewards : start.rewards = []) (hrun : referralService.Runs start tr c)
    (hmeets : ∀ t ∈ tr, StoreService.Meets (referralsInTurn counted inserted) t) :
    ∃ H, (Paid c.state H ∧ (counted → Limited c.state) ∧ (inserted → AllRewarded c.state H)) ∧
      (c.Quiescent → ∀ i, H i = none) := by
  obtain ⟨hpaid, hlimited, hall⟩ := paid_of_empty hreferrals hrewards
  obtain ⟨H, hfinish, hholder⟩ := (referralCustody_kept counted inserted).holder
    (fun i op _ => ends_program i op) hrun hmeets ⟨hpaid, fun _ => hlimited, fun _ => hall⟩
  refine ⟨H, hfinish, fun hover i => ?_⟩
  by_contra hheld
  obtain ⟨op, r, next, hproc⟩ := hholder i hheld
  rcases hover i _ hproc with h | h <;> cases h

/-- For every interleaving and any failures milestones are rewarded once and in order. Where no
answer of a claim is lost and every insert is carried out, the points of every referral are those of
its rows once all calls are over; where nobody else is credited between a call's count and its
insert, the daily limit is kept. -/
theorem referrals_rewarded_once (hreferrals : start.referrals = .empty)
    (hrewards : start.rewards = []) (hrun : referralService.Runs start tr c) :
    RewardsAgree c.state ∧
      ((∀ t ∈ tr, StoreService.Meets (referralsInTurn False True) t) → c.Quiescent →
        ∀ row ∈ c.state.referrals.rows, row.points = c.state.pointsOf row.refereeId) ∧
      ((∀ t ∈ tr, StoreService.Meets (referralsInTurn True False) t) → Limited c.state) := by
  refine ⟨?_, ?_, ?_⟩
  · have hmeets : ∀ t ∈ tr, StoreService.Meets (referralsInTurn False False) t := by
      intro t _
      refine StoreService.meets_of_forall (fun _ => trivial) (fun i op s r => ?_)
        (fun _ _ => trivial) t
      cases r with
      | create | claim | insertRewards => exact fun hnever => hnever.elim
      | _ => trivial
    obtain ⟨H, hfinish, -⟩ := paid_of_run hreferrals hrewards hrun hmeets
    exact ⟨hfinish.1.once, hfinish.1.ordered⟩
  · intro hmeets hover
    obtain ⟨H, hfinish, hidle⟩ := paid_of_run hreferrals hrewards hrun hmeets
    refine hfinish.1.points_eq fun refereeId m hreached => ?_
    rcases hfinish.2.2 trivial refereeId m hreached with hrewarded | ⟨i, hi⟩
    · exact hrewarded
    · rw [hidle hover i] at hi
      cases hi
  · intro hmeets
    obtain ⟨H, hfinish, -⟩ := paid_of_run hreferrals hrewards hrun hmeets
    exact hfinish.2.1 trivial

end Rewards

end VeriAgentPay.Referrals

namespace VeriAgentPay.Devnet
open InterleavedPrograms Referrals

/-- One code, of ann, whose account is older than all others. -/
def referralTables : Referrals.Tables where
  codes code := if code = "VERI-ANN" then some "ann" else none
  users id := some ⟨if id = "ann" then 0 else 2 * dayMs, none⟩
  referrals := .empty
  rewards := []
  now := 3 * dayMs

def referred (i n : ℕ) (refereeId : String) : List (Move Referrals.Operation) :=
  .start i (.processReferral .answered "VERI-ANN" refereeId) :: List.replicate n (.step i)

def answeredTurns : Referrals.Turns := ⟨.answered, .answered⟩

/-- Ann's referrals of the day, and what each has in points and in rewards. -/
def referralFacts (t : Referrals.Tables) : ℕ × List (ℕ × ℕ) :=
  (t.referrals.count fun row => row.referrerId = "ann" ∧ 2 * dayMs ≤ row.createdAt ∧
    row.createdAt ≤ 2 * dayMs + dayMs,
    t.referrals.rows.map fun row => (row.points, t.pointsOf row.refereeId))

def referralsAfter (schedule : List (Move Referrals.Operation)) : Option (ℕ × List (ℕ × ℕ)) :=
  (referralService.moves StoreService.anything (Config.initial referralTables) schedule).map
    fun c => referralFacts c.state

/-- Eleven calls count before any of them inserts; and a call stops after it has claimed the
milestone. -/
theorem referrals_computed :
    referralsAfter ((List.range 11).flatMap (fun i => referred i 6 (toString i)) ++
      (List.range 11).map .step) =
        some (11, List.replicate 11 (0, 0)) ∧
      referralsAfter (referred 0 7 "ben" ++
        [.start 1 (.markWalletCreated answeredTurns "ben"), .step 1, .step 1]) =
        some (1, [(25, 0)]) := by
  refine ⟨?_, ?_⟩ <;> decide +kernel

/-- More referrals than the limit, and points without their row. -/
theorem referrals_overcredited :
    (∃ tr c, referralService.Runs referralTables tr c ∧ ¬Limited c.state) ∧
    ∃ tr c, referralService.Runs referralTables tr c ∧
      ∃ row ∈ c.state.referrals.rows, row.points ≠ c.state.pointsOf row.refereeId := by
  obtain ⟨hlimit, hpoints⟩ := referrals_computed
  constructor
  · obtain ⟨tr, c, hrun, -, -, hfacts⟩ := StoreService.runs_of_computed hlimit
    refine ⟨tr, c, hrun, fun hlimited => ?_⟩
    have hcount := congrArg Prod.fst hfacts
    have hle := hlimited "ann" (2 * dayMs)
    simp only [referralFacts] at hcount
    rw [hcount] at hle
    exact absurd hle (by decide)
  · obtain ⟨tr, c, hrun, -, -, hfacts⟩ := StoreService.runs_of_computed hpoints
    refine ⟨tr, c, hrun, ?_⟩
    have hrows : (25, 0) ∈ c.state.referrals.rows.map
        fun row => (row.points, c.state.pointsOf row.refereeId) := by
      have hsecond := congrArg Prod.snd hfacts
      simp only [referralFacts] at hsecond
      rw [hsecond]
      exact List.mem_singleton_self _
    obtain ⟨row, hrow, hfact⟩ := List.mem_map.mp hrows
    obtain ⟨hown, hsum⟩ := Prod.mk.inj hfact
    refine ⟨row, hrow, ?_⟩
    rw [hown, hsum]
    decide

instance (counted inserted : Prop) : DecidablePred (referralsInTurn counted inserted).starts :=
  fun _ => inferInstanceAs (Decidable True)
instance (i : ℕ) (op : Referrals.Operation) (t : Referrals.Tables) (r : Referrals.Request)
    (counted inserted : Prop) [Decidable counted] [Decidable inserted] :
    Decidable ((referralsInTurn counted inserted).allows i op t r) := by
  cases r with
  | create referrerId refereeId since recentCount fate =>
    exact inferInstanceAs (Decidable (counted → t.recent referrerId since = recentCount))
  | claim refereeId m fate => exact inferInstanceAs (Decidable (inserted → fate ≠ .lost))
  | insertRewards referral m fate =>
    exact inferInstanceAs (Decidable (inserted → fate.carried = true))
  | _ => exact .isTrue trivial
instance (counted inserted : Prop) (t t' : Referrals.Tables) :
    Decidable ((referralsInTurn counted inserted).passes t t') := .isTrue trivial

/-- A referral that is rewarded for the wallet and the first send in one call, and later for the
deposit. -/
def benRewarded : List (Move Referrals.Operation) :=
  referred 0 7 "ben" ++
    .start 1 (.markFirstSend answeredTurns answeredTurns "ben" 5) :: List.replicate 6 (.step 1) ++
    .start 2 (.markDepositRetainedD7 ⟨.answered, .lost⟩ "ben") :: List.replicate 3 (.step 2)

theorem referral_rewarded :
    (referralService.moves (referralsInTurn True True) (Config.initial referralTables)
      benRewarded).map (fun c => (referralFacts c.state,
        (benRewarded.filterMap Move.starts).all c.finished)) = some ((1, [(100, 100)]), true) := by
  decide +kernel

theorem referrals_rewarded_once_devnet : ∃ tr c, referralService.Runs referralTables tr c ∧
    RewardsAgree c.state ∧
      (∀ row ∈ c.state.referrals.rows, row.points = c.state.pointsOf row.refereeId) ∧
      Limited c.state ∧ referralFacts c.state = (1, [(100, 100)]) := by
  obtain ⟨tr, c, hrun, hmeets, hmoves, hfacts⟩ := StoreService.runs_of_computed referral_rewarded
  obtain ⟨hrewarded, hover⟩ := Prod.mk.inj hfacts
  have hweaken : ∀ counted inserted : Prop, ∀ t ∈ tr,
      StoreService.Meets (referralsInTurn counted inserted) t := by
    intro counted inserted t ht
    refine StoreService.Meets.weaken (hmeets t ht) (fun _ _ => trivial) ?_ fun _ _ _ => trivial
    intro i op s r hallows
    cases r with
    | create | claim | insertRewards => exact fun _ => hallows trivial
    | _ => trivial
  obtain ⟨hagree, hpoints, hlimited⟩ := referrals_rewarded_once rfl rfl hrun
  exact ⟨tr, c, hrun, hagree,
    hpoints (hweaken False True) (StoreService.quiescent_of_moves hmoves hover),
    hlimited (hweaken True False), hrewarded⟩

end VeriAgentPay.Devnet
