import VeriAgentPay.KeyedTables
import VeriAgentPay.OneTimeTokens
import VeriAgentPay.PaymentLinkServices
import VeriAgentPay.ProgramCustody

/-!
# Reputation points and badges

A transfer or a vault deposit earns points, and more points when it is a milestone, which is seen
from how many there are at the moment. Badges are awarded after such events too. The calls run side
by side, and any request of theirs may fail.
-/

namespace VeriAgentPay.Awards
open InterleavedPrograms KeyedTables
open InterleavedPrograms.Fallible (checked dropResult)
open Client (JsNumber)
open Backend (lessThan truthy)

section Tables

structure RewardPoint where
  userId : String
  points : ℕ
  reason : String
  txHash : Option String
  deriving DecidableEq

inductive UserActivityAction where
  | transferSent | vaultDeposit | badgeEarned
  | other (name : String)
  deriving DecidableEq

structure ActivityLog where
  userId : String
  action : UserActivityAction
  badgeId : Option String
  deriving DecidableEq

structure UserBadge where
  userId : String
  badgeId : String
  deriving DecidableEq

def UserBadge.key (row : UserBadge) : String × String := (row.userId, row.badgeId)

structure Notification where
  userId : String
  title : String
  body : String
  badgeId : String
  badgeName : String
  deriving DecidableEq

def Notification.key (n : Notification) : String × String := (n.userId, n.badgeId)

/-- What the milestones count. -/
inductive Counted where
  | transfers | vaultDeposits
  deriving DecidableEq

def milestone : Counted → ℕ → Option (ℕ × String)
  | .transfers, txCount =>
    if txCount = 1 then some (25, "FIRST_TRANSACTION")
    else if txCount = 10 then some (50, "TENTH_TRANSACTION")
    else if txCount = 100 then some (200, "HUNDREDTH_TRANSACTION")
    else none
  | .vaultDeposits, depositCount =>
    if depositCount = 1 then some (30, "FIRST_VAULT_DEPOSIT") else none

def milestoneReasons : List String :=
  ["FIRST_TRANSACTION", "TENTH_TRANSACTION", "HUNDREDTH_TRANSACTION", "FIRST_VAULT_DEPOSIT"]

/-- The last three fields are read by no code: the milestones that an award call has counted; for
each award call, how many activities or deposits there were when it began; and the badges of which
an insert was answered. -/
structure Store where
  /-- `reputationPoints` of a user. -/
  points : String → Option ℕ
  rewards : List RewardPoint
  activities : List ActivityLog
  /-- The users of the vault deposits. -/
  deposits : List String
  badges : Keyed UserBadge.key
  /-- The referrers. -/
  referrals : List String
  notified : List Notification
  read : List (String × String)
  begun : List (String × Counted × ℕ)
  granted : List (String × String)

def Store.initial (points : String → Option ℕ) : Store :=
  ⟨points, [], [], [], .empty, [], [], [], [], []⟩

def Store.count (s : Store) : Counted → String → ℕ
  | .transfers, userId => s.activities.countP fun log => log.userId = userId &&
    log.action = .transferSent
  | .vaultDeposits, userId => s.deposits.countP (· = userId)

end Tables

section Requests

/-- What a call is told of a request that fails, or that it does not live to see answered. -/
inductive Failure where
  | error
  | stopped
  deriving DecidableEq

inductive Outcome where
  | answered
  | failed (carried : Bool)
  /-- The process stops before it goes on. -/
  | stopped (carried : Bool)
  deriving DecidableEq

def Outcome.carried : Outcome → Bool
  | answered => true
  | failed carried | stopped carried => carried

def Outcome.stops : Outcome → Bool
  | stopped _ => true
  | answered | failed _ => false

def Outcome.told {α : Type} (result : Except Failure α) : Outcome → Except Failure α
  | answered => result
  | failed _ => .error .error
  | stopped _ => .error .stopped

/-- The places of the code where a request is made. -/
inductive Site where
  | reward | points | count | milestoneReward | milestonePoints
  | user | badges | referrals | activities
  | insert (badgeId : String)
  | record (badgeId : String)
  deriving DecidableEq

abbrev Outcomes := Site → Outcome

/-- The calls, each with what its requests end with. -/
inductive Call where
  | recordActivity (userId : String) (action : UserActivityAction) (outcome : Outcome)
  | createDeposit (userId : String) (outcome : Outcome)
  | createReferral (referrerId : String)
  | awardTransferPoints (userId : String) (amountUSD : JsNumber) (txHash :
      String) (outcomes : Outcomes)
  | awardVaultDepositPoints (userId : String) (amountUSD : JsNumber) (txHash :
      String) (outcomes : Outcomes)
  | checkAndAwardBadges (userId : String) (outcomes : Outcomes)

/-- What an award call checks the milestones of. -/
def Call.counted : Call → Option Counted
  | awardTransferPoints .. => some .transfers
  | awardVaultDepositPoints .. => some .vaultDeposits
  | _ => none

inductive Request where
  /-- An award call begins: what there is to be counted is kept. -/
  | begins (counted : Counted) (userId : String)
  | createReward (row : RewardPoint) (outcome : Outcome)
  | incrementPoints (userId : String) (points : ℕ) (outcome : Outcome)
  | count (counted : Counted) (userId : String) (outcome : Outcome)
  | findUser (userId : String) (outcome : Outcome)
  | findBadges (userId : String) (outcome : Outcome)
  | countReferrals (userId : String) (outcome : Outcome)
  | findActions (userId : String) (outcome : Outcome)
  | insertBadge (userId badgeId : String) (outcome : Outcome)
  | notifyUser (notification : Notification)
  | recordActivity (log : ActivityLog) (outcome : Outcome)
  | createDeposit (userId : String) (outcome : Outcome)
  | createReferral (referrerId : String)

abbrev Value : Request → Type
  | .count .. | .countReferrals .. => ℕ
  | .findUser .. => Option ℕ
  | .findBadges .. => List String
  | .findActions .. => List UserActivityAction
  | _ => Unit

abbrev Answer (r : Request) : Type := Except Failure (Value r)

def Store.seen (s : Store) (userId : String) (counted : Counted) : Store :=
  match milestone counted (s.count counted userId) with
  | some (_, reason) => { s with read := (userId, reason) :: s.read }
  | none => s

def Store.has (s : Store) (userId : String) : Bool := (s.points userId).isSome

/-- A row of a user that does not exist is refused. -/
def carry (s : Store) : (r : Request) → Answer r × Store
  | .begins counted userId => (.ok (),
    { s with begun := (userId, counted, s.count counted userId) :: s.begun })
  | .createReward row outcome =>
    if s.has row.userId then
      (outcome.told (.ok ()), if outcome.carried then { s with rewards := row :: s.rewards } else s)
    else (outcome.told (.error .error), s)
  | .incrementPoints userId points outcome =>
    if s.has userId then
      (outcome.told (.ok ()),
        if outcome.carried then
          { s with points := Function.update s.points userId ((s.points userId).map (· + points)) }
            else s)
    else (outcome.told (.error .error), s)
  | .count counted userId outcome =>
    (outcome.told (.ok (s.count counted userId)), if outcome = .answered then
      s.seen userId counted else s)
  | .findUser userId outcome => (outcome.told (.ok (s.points userId)), s)
  | .findBadges userId outcome =>
    (outcome.told (.ok ((s.badges.rows.filter (·.userId = userId)).map (·.badgeId))), s)
  | .countReferrals userId outcome => (outcome.told (.ok (s.referrals.countP (· = userId))), s)
  | .findActions userId outcome =>
    (outcome.told (.ok ((s.activities.filter (·.userId = userId)).map (·.action))), s)
  | .insertBadge userId badgeId outcome =>
    if s.has userId then
      (outcome.told (.ok ()),
        if outcome.carried then
          { s with
            badges := (s.badges.insert ⟨userId, badgeId⟩).getD s.badges
            granted := if outcome = .answered then (userId, badgeId) :: s.granted else s.granted }
        else s)
    else (outcome.told (.error .error), s)
  | .notifyUser notification => (.ok (), { s with notified := notification :: s.notified })
  | .recordActivity log outcome =>
    (outcome.told (.ok ()), if outcome.carried && s.has log.userId then
      { s with activities := log :: s.activities } else s)
  | .createDeposit userId outcome =>
    if s.has userId then (outcome.told (.ok ()), if outcome.carried then
      { s with deposits := userId :: s.deposits } else s)
    else (outcome.told (.error .error), s)
  | .createReferral referrerId => (.ok (), { s with referrals := referrerId :: s.referrals })

end Requests

section Services

abbrev Service (α : Type) := Fallible Failure Request Answer α

def request (r : Request) : Service (Value r) := do
  let answer ← Fallible.ask r
  checked answer

/-- `catch`: nothing is caught where the process has stopped. -/
def caught {α : Type} (x : Service α) (handler : Service α) : Service α :=
  tryCatchThe Failure x fun failure =>
    match failure with
    | .error => handler
    | .stopped => checked (.error .stopped)

namespace ReputationService

def addPoints (reward points : Outcome) (row : RewardPoint) : Service Unit :=
  if row.points = 0 then pure ()
  else
    caught
      (do
        request (.createReward row reward)
        request (.incrementPoints row.userId row.points points))
      (pure ())

def checkMilestones (counted : Counted) (outcomes : Outcomes) (userId : String) : Service Unit := do
  let n ← request (.count counted userId (outcomes .count))
  match milestone counted n with
  | some (points, reason) =>
    addPoints (outcomes .milestoneReward) (outcomes .milestonePoints) ⟨userId, points, reason, none⟩
  | none => pure ()

def checkTransactionMilestones := checkMilestones .transfers

def checkFirstVaultDeposit := checkMilestones .vaultDeposits

def transferReward (amountUSD : JsNumber) : ℕ × String :=
  if lessThan amountUSD (.finite 10) then (2, "TRANSFER_SMALL")
  else if lessThan amountUSD (.finite 100) then (5, "TRANSFER_MEDIUM")
  else if lessThan amountUSD (.finite 1000) then (10, "TRANSFER_LARGE")
  else (20, "TRANSFER_WHALE")

def vaultDepositReward (amountUSD : JsNumber) : ℕ × String :=
  if lessThan amountUSD (.finite 50) then (15, "VAULT_DEPOSIT_SMALL")
  else if lessThan amountUSD (.finite 500) then (30, "VAULT_DEPOSIT_MEDIUM")
  else (50, "VAULT_DEPOSIT_LARGE")

/-- The points of an activity, and then those of a milestone. -/
def award (counted : Counted) (reward : ℕ × String) (outcomes : Outcomes) (userId txHash : String) :
    Service ℕ := do
  request (.begins counted userId)
  addPoints (outcomes .reward) (outcomes .points) ⟨userId, reward.1, reward.2, truthy (some txHash)⟩
  checkMilestones counted outcomes userId
  pure reward.1

def awardTransferPoints (outcomes : Outcomes) (userId : String) (amountUSD : JsNumber)
    (txHash : String) : Service ℕ :=
  award .transfers (transferReward amountUSD) outcomes userId txHash

def awardVaultDepositPoints (outcomes : Outcomes) (userId : String) (amountUSD : JsNumber)
    (txHash : String) : Service ℕ :=
  award .vaultDeposits (vaultDepositReward amountUSD) outcomes userId txHash

end ReputationService

namespace BadgesService

structure Badge where
  id : String
  condition : Bool
  name : String

def badgesToCheck (totalReferred reputationPoints : ℕ) (actions : List UserActivityAction) :
    List Badge :=
  [⟨"b-top-ref", totalReferred > 15, "Top Referrer 🌟"⟩,
    ⟨"b-high-rep", reputationPoints ≥ 50, "Reputation Legend ⭐"⟩,
    ⟨"b-yield-pioneer", actions.countP (· = .vaultDeposit) > 0, "Yield Pioneer 🚀"⟩,
    ⟨"b-launch-supporter", true, "Launch Day Supporter 🛡️"⟩,
    ⟨"b-tx-master", actions.length ≥ 1000, "1000 TX Master ⚡"⟩]

def notification (userId : String) (badge : Badge) : Notification :=
  ⟨userId, "🏆 Badge Unlocked: " ++ badge.name ++ "!", "Congratulations! You've earned the " ++
    badge.name ++ " badge!", badge.id, badge.name⟩

/-- Whether the badge is pushed to the unlocked ones: the insert is not asked whether it won. -/
def awardBadge (outcomes : Outcomes) (userId : String) (badge : Badge) : Service Bool :=
  caught
    (do
      request (.insertBadge userId badge.id (outcomes (.insert badge.id)))
      request (.notifyUser (notification userId badge))
      caught (request (.recordActivity ⟨userId, .badgeEarned, some badge.id⟩
        (outcomes (.record badge.id)))) (pure ())
      pure true)
    (pure false)

def awardBadges (outcomes : Outcomes) (userId : String) (unlockedBadgeIds : List String) :
    List Badge → Service (List String)
  | [] => pure []
  | badge :: rest => do
    let unlocked ← if badge.condition && badge.id ∉ unlockedBadgeIds then
      awardBadge outcomes userId badge else pure false
    let newlyUnlocked ← awardBadges outcomes userId unlockedBadgeIds rest
    pure (if unlocked then badge.id :: newlyUnlocked else newlyUnlocked)

def checkAndAwardBadges (outcomes : Outcomes) (userId : String) : Service (List String) :=
  caught
    (do
      let user ← request (.findUser userId (outcomes .user))
      match user with
      | none => pure []
      | some reputationPoints => do
        let unlockedBadgeIds ← request (.findBadges userId (outcomes .badges))
        let totalReferred ← request (.countReferrals userId (outcomes .referrals))
        let actions ← request (.findActions userId (outcomes .activities))
        awardBadges outcomes userId unlockedBadgeIds
          (badgesToCheck totalReferred reputationPoints actions))
    (pure [])

end BadgesService

def Call.program : Call → Program Request Answer Unit
  | recordActivity userId action outcome => dropResult
    (request (.recordActivity ⟨userId, action, none⟩ outcome))
  | createDeposit userId outcome => dropResult (request (.createDeposit userId outcome))
  | createReferral referrerId => dropResult (request (.createReferral referrerId))
  | awardTransferPoints userId amountUSD txHash outcomes =>
    dropResult (ReputationService.awardTransferPoints outcomes userId amountUSD txHash)
  | awardVaultDepositPoints userId amountUSD txHash outcomes =>
    dropResult (ReputationService.awardVaultDepositPoints outcomes userId amountUSD txHash)
  | checkAndAwardBadges userId outcomes =>
    dropResult (BadgesService.checkAndAwardBadges outcomes userId)

def awardService : StoreService Store Call Request Answer where
  program := Call.program
  carry _ _ := carry
  passes _ s := s

end Services

end VeriAgentPay.Awards
