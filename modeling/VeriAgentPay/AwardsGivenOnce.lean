import VeriAgentPay.ReputationAwards

/-!
# Awards are given once

What the award calls keep to, where a milestone is counted by one award call before the count goes
on, and the requests do not fail between what belongs together.
-/

namespace VeriAgentPay.Awards
open InterleavedPrograms InterleavedPrograms.Custody KeyedTables OneTimeTokens
open ReputationService BadgesService

section Invariant

/-- The user's count is at no milestone that no award call has counted. -/
def Store.MilestoneRead (s : Store) (counted : Counted) (userId : String) : Prop :=
  ∀ points reason, milestone counted (s.count counted userId) = some (points, reason) →
  (userId, reason) ∈ s.read

/-- An award call counts a milestone once, before the count goes on, and gets past that; its points
are added with the row of them; and one insert of a badge is answered. -/
def awardsInTurn : StoreService.Conditions Store Call Request where
  starts _ := True
  allows _ call s
    | .createReward row outcome =>
      if row.reason ∈ milestoneReasons then outcome = .answered
      else (s.has row.userId → outcome.carried → outcome = .answered) ∧
        (outcome.stops →
          ∀ counted, call.counted = some counted → s.MilestoneRead counted row.userId)
    | .incrementPoints userId _ outcome =>
      outcome.carried ∧
      (outcome.stops → ∀ counted, call.counted = some counted → s.MilestoneRead counted userId)
    | .count counted userId outcome =>
      ∀ points reason, milestone counted (s.count counted userId) = some (points, reason) →
        (outcome = .answered ↔ (userId, reason) ∉ s.read)
    | .recordActivity log outcome =>
      outcome.carried → log.action = .transferSent → s.MilestoneRead .transfers log.userId
    | .createDeposit userId outcome => outcome.carried → s.MilestoneRead .vaultDeposits userId
    | .insertBadge userId badgeId outcome => outcome = .answered → (userId, badgeId) ∉ s.granted
    | _ => True
  passes _ _ := True

/-- What a call holds: milestones still to be checked, a milestone that it has counted, points whose
row it has written, a badge to be announced and one to be recorded. -/
structure Held where
  check : Option (String × Counted) := none
  won : Option (String × String) := none
  owed : Option (String × ℕ) := none
  announce : Option (String × String) := none
  record : Option (String × String) := none

def RewardPoint.milestone (row : RewardPoint) : Option (String × String) :=
  if row.reason ∈ milestoneReasons then some (row.userId, row.reason) else none

def ActivityLog.badge (log : ActivityLog) : Option (String × String) :=
  if log.action = .badgeEarned then log.badgeId.map fun badgeId => (log.userId, badgeId) else none

/-- The counts pass no milestone that is not counted. -/
structure Store.InStep (s : Store) : Prop where
  passed : ∀ userId counted n points reason, milestone counted n = some (points, reason) →
    n < s.count counted userId →
    (userId, reason) ∈ s.read
  reached : ∀ userId counted n points reason, milestone counted n = some (points, reason) →
    (userId, reason) ∈ s.read →
    n ≤ s.count counted userId
  known : ∀ userId counted, 0 < s.count counted userId → s.has userId

/-- The award calls that have begun are past the milestones there were, or still have to check
them. -/
def Store.Checked (s : Store) (check : ℕ → Option (String × Counted)) : Prop :=
  ∀ userId counted n, (userId, counted, n) ∈ s.begun → n ≤ s.count counted userId ∧
    ((∀ m points reason, milestone counted m = some (points, reason) → m ≤ n →
      (userId, reason) ∈ s.read) ∨
      ∃ i, check i = some (userId, counted))

structure Debt where
  process : ℕ
  userId : String
  points : ℕ
  deriving DecidableEq

def owing (userId : String) (debts : List Debt) : ℕ :=
  ((debts.filter (·.userId = userId)).map (·.points)).sum

def rewarded (userId : String) (rewards : List RewardPoint) : ℕ :=
  ((rewards.filter (·.userId = userId)).map (·.points)).sum

/-- The points of a user are those of the rows, less what is still to be added. -/
structure Balanced (points₀ : String → Option ℕ) (s : Store) (debts : List Debt) : Prop where
  users : ∀ userId, (s.points userId).isSome = (points₀ userId).isSome
  sums : ∀ userId, (s.points userId).getD 0 + owing userId debts = (points₀ userId).getD 0 +
    rewarded userId s.rewards

/-- The points that the calls have still to add. -/
structure Owed (s : Store) (owed : ℕ → Option (String × ℕ)) (debts : List Debt) : Prop where
  once : debts.Nodup
  held : ∀ debt, debt ∈ debts ↔ owed debt.process = some (debt.userId, debt.points)
  known : ∀ debt ∈ debts, s.has debt.userId

structure AwardsInOrder (points₀ : String → Option ℕ) (s : Store)
    (won : ℕ → Option (String × String)) (check : ℕ → Option (String × Counted))
    (owed : ℕ → Option (String × ℕ)) : Prop where
  milestones : Once s.read (s.rewards.filterMap RewardPoint.milestone) won
  accounted : Accounted s.read (s.rewards.filterMap RewardPoint.milestone) won
  inStep : s.InStep
  checked : s.Checked check
  balanced : ∃ debts, Owed s owed debts ∧ Balanced points₀ s debts

structure BadgesInOrder (s : Store) (announce record : ℕ → Option (String × String)) : Prop where
  announcements : Once s.granted (s.notified.map Notification.key) announce
  records : Once s.granted (s.activities.filterMap ActivityLog.badge) record

structure InOrder (points₀ : String → Option ℕ) (s : Store) (H : ℕ → Held) : Prop where
  awards : AwardsInOrder points₀ s (Held.won ∘ H) (Held.check ∘ H) (Held.owed ∘ H)
  badges : BadgesInOrder s (Held.announce ∘ H) (Held.record ∘ H)

def awardCustody (points₀ : String → Option ℕ) : Custody Store Call Request Answer Held where
  service := awardService
  conditions := awardsInTurn
  inv := InOrder points₀
  grows _ _ := True
  idle := {}

end Invariant

section Milestones
variable {counted counted' : Counted} {n n' points points' : ℕ} {reason : String}

def milestones : List (Counted × ℕ × ℕ × String) :=
  [(.transfers, 1, 25, "FIRST_TRANSACTION"), (.transfers, 10, 50, "TENTH_TRANSACTION"),
    (.transfers, 100, 200, "HUNDREDTH_TRANSACTION"),
    (.vaultDeposits, 1, 30, "FIRST_VAULT_DEPOSIT")]

theorem mem_milestones (h : milestone counted n = some (points, reason)) :
    (counted, n, points, reason) ∈ milestones := by
  cases counted <;> simp only [milestone] at h <;> split_ifs at h with hn <;> obtain ⟨rfl, rfl⟩ :=
    Prod.mk.inj (Option.some.inj h) <;>
    simp_all [milestones]

theorem milestones_pos :
    ∀ m ∈ milestones, 0 < m.2.1 ∧ 0 < m.2.2.1 ∧ m.2.2.2 ∈ milestoneReasons := by decide

theorem milestones_inj :
    ∀ m ∈ milestones, ∀ m' ∈ milestones, m.2.2.2 = m'.2.2.2 → m.1 = m'.1 ∧ m.2.1 = m'.2.1 := by
  decide

theorem milestone_pos (h : milestone counted n = some (points, reason)) :
    0 < n ∧ 0 < points ∧ reason ∈ milestoneReasons :=
  milestones_pos _ (mem_milestones h)

/-- A milestone is known by its reason. -/
theorem milestone_inj (h : milestone counted n = some (points, reason))
    (h' : milestone counted' n' = some (points', reason)) :
    counted = counted' ∧ n = n' :=
  milestones_inj _ (mem_milestones h) _ (mem_milestones h') rfl

theorem transferReward_reason (amountUSD : Client.JsNumber) :
    0 < (transferReward amountUSD).1 ∧ (transferReward amountUSD).2 ∉ milestoneReasons := by
  unfold transferReward
  split_ifs <;> decide

theorem vaultDepositReward_reason (amountUSD : Client.JsNumber) :
    0 < (vaultDepositReward amountUSD).1 ∧ (vaultDepositReward amountUSD).2 ∉ milestoneReasons := by
  unfold vaultDepositReward
  split_ifs <;> decide

end Milestones

section Points
variable {points₀ : String → Option ℕ} {s : Store} {owed : ℕ → Option (String × ℕ)}
  {debts : List Debt} {i p : ℕ} {u : String}

theorem owing_cons (debt : Debt) :
    owing u (debt :: debts) = owing u debts + if debt.userId = u then debt.points else 0 := by
  unfold owing
  by_cases h : debt.userId = u
  · simp [h, Nat.add_comm]
  · simp [h]

theorem owing_erase {debt : Debt} (h : debt ∈ debts) :
    owing u debts = owing u (debts.erase debt) + if debt.userId = u then debt.points else 0 := by
  rw [← owing_cons]
  exact (((List.perm_cons_erase h).filter _).map _).sum_eq

theorem rewarded_cons (row : RewardPoint) (rewards : List RewardPoint) :
    rewarded u (row :: rewards) = rewarded u rewards + if row.userId = u then row.points
      else 0 := by
  unfold rewarded
  by_cases h : row.userId = u
  · simp [h, Nat.add_comm]
  · simp [h]

theorem Owed.add (h : Owed s owed debts) (hi : owed i = none) (hu : s.has u) :
    Owed s (Function.update owed i (some (u, p))) (⟨i, u, p⟩ :: debts) where
  once := by
    refine List.nodup_cons.mpr ⟨fun hmem => ?_, h.once⟩
    have := (h.held _).mp hmem
    rw [hi] at this
    cases this
  held debt := by
    obtain ⟨j, u', p'⟩ := debt
    rw [List.mem_cons, Debt.mk.injEq, h.held]
    rcases eq_or_ne j i with rfl | hne
    · simp [hi, eq_comm]
    · simp [hne]
  known := List.forall_mem_cons.mpr ⟨hu, h.known⟩

theorem Owed.pay (h : Owed s owed debts) (hi : owed i = some (u, p)) :
    Owed s (Function.update owed i none) (debts.erase ⟨i, u, p⟩) where
  once := h.once.erase _
  held debt := by
    obtain ⟨j, u', p'⟩ := debt
    rw [h.once.mem_erase_iff, h.held]
    rcases eq_or_ne j i with rfl | hne
    · simp [hi, eq_comm]
    · simp [hne]
  known debt hdebt := h.known debt (List.mem_of_mem_erase hdebt)

theorem Balanced.add (h : Balanced points₀ s debts) (i : ℕ) (row : RewardPoint) :
    Balanced points₀ { s with rewards := row :: s.rewards }
      (⟨i, row.userId, row.points⟩ :: debts) where
  users := h.users
  sums u := by
    rw [owing_cons, rewarded_cons]
    have := h.sums u
    dsimp only at this ⊢
    omega

theorem Balanced.pay (h : Balanced points₀ s debts) (hu : s.has u) (hdebt : ⟨i, u, p⟩ ∈ debts) :
    Balanced points₀ { s with points := Function.update s.points u ((s.points u).map (· + p)) }
      (debts.erase ⟨i, u, p⟩) where
  users u' := by
    rcases eq_or_ne u' u with rfl | hne
    · simpa using h.users u'
    · simpa [hne] using h.users u'
  sums u' := by
    have hsum := h.sums u'
    rw [owing_erase hdebt] at hsum
    obtain ⟨n, hn⟩ := Option.isSome_iff_exists.mp hu
    rcases eq_or_ne u' u with rfl | hne
    · simp only [hn, Function.update_self, Option.map_some, Option.getD_some, if_true] at hsum ⊢
      omega
    · simp only [Function.update_of_ne hne, if_neg hne.symm] at hsum ⊢
      omega

end Points

section Awards
variable {points₀ : String → Option ℕ} {s : Store} {won : ℕ → Option (String × String)} {check : ℕ →
  Option (String × Counted)}
  {owed : ℕ → Option (String × ℕ)} {i n points : ℕ} {counted : Counted} {u reason : String}

theorem Store.InStep.all_read (h : s.InStep) (hread : s.MilestoneRead counted u) :
    ∀ m points reason, milestone counted m = some (points, reason) → m ≤ s.count counted u →
      (u, reason) ∈ s.read := by
  intro m points reason hm hle
  rcases Nat.lt_or_eq_of_le hle with hlt | rfl
  · exact h.passed u counted m points reason hm hlt
  · exact hread points reason hm

/-- A call is past the milestones that there are. -/
theorem Store.Checked.resolve (h : s.Checked check)
    (hall : ∀ m points reason, milestone counted m = some (points, reason) → m ≤ s.count counted u →
      (u, reason) ∈ s.read)
    (hi : ∀ pair, check i = some pair → pair = (u, counted)) :
    s.Checked (Function.update check i none) := by
  intro u' counted' n hbegun
  obtain ⟨hle, hread | ⟨j, hj⟩⟩ := h u' counted' n hbegun
  · exact ⟨hle, .inl hread⟩
  · refine ⟨hle, ?_⟩
    rcases eq_or_ne j i with rfl | hne
    · obtain ⟨rfl, rfl⟩ := Prod.mk.inj (hi _ hj)
      exact .inl fun m points reason hm hmn => hall m points reason hm (hmn.trans hle)
    · exact .inr ⟨j, by rwa [Function.update_of_ne hne]⟩

/-- The store goes on, and no call is past its check. -/
theorem Store.Checked.mono {s' : Store} (h : s.Checked check) (hbegun : s'.begun = s.begun)
    (hread : ∀ pair ∈ s.read, pair ∈ s'.read)
    (hcount : ∀ counted u, s.count counted u ≤ s'.count counted u) : s'.Checked check := by
  intro u counted n hmem
  rw [hbegun] at hmem
  obtain ⟨hle, hpast⟩ := h u counted n hmem
  refine ⟨hle.trans (hcount counted u), hpast.imp_left ?_⟩
  exact fun hall m points reason hm hmn => hread _ (hall m points reason hm hmn)

/-- A call begins, and has its milestones still to check. -/
theorem AwardsInOrder.begin (h : AwardsInOrder points₀ s won check owed) (hi : check i = none) :
    AwardsInOrder points₀ { s with begun := (u, counted, s.count counted u) :: s.begun } won
      (Function.update check i (some (u, counted))) owed where
  milestones := h.milestones
  accounted := h.accounted
  inStep := ⟨h.inStep.passed, h.inStep.reached, h.inStep.known⟩
  checked u' counted' n hbegun := by
    rcases List.mem_cons.mp hbegun with heq | hbegun
    · obtain ⟨rfl, rfl, rfl⟩ : u' = u ∧ counted' = counted ∧
        n = s.count counted u := by simpa using heq
      exact ⟨le_refl _, .inr ⟨i, Function.update_self ..⟩⟩
    · obtain ⟨hle, hpast⟩ := h.checked u' counted' n hbegun
      refine ⟨hle, hpast.imp_right ?_⟩
      rintro ⟨j, hj⟩
      have hne : j ≠ i := by
        rintro rfl
        rw [hi] at hj
        cases hj
      exact ⟨j, by rwa [Function.update_of_ne hne]⟩
  balanced := by
    obtain ⟨debts, howed, hbalanced⟩ := h.balanced
    exact ⟨debts, ⟨howed.once, howed.held, howed.known⟩, ⟨hbalanced.users, hbalanced.sums⟩⟩

/-- A call is past its check. -/
theorem AwardsInOrder.pass (h : AwardsInOrder points₀ s won check owed)
    (hread : s.MilestoneRead counted u) (hi : ∀ pair, check i = some pair → pair = (u, counted)) :
    AwardsInOrder points₀ s won (Function.update check i none) owed :=
  ⟨h.milestones, h.accounted, h.inStep, h.checked.resolve (h.inStep.all_read hread) hi, h.balanced⟩

/-- A call counts a milestone, which no other has counted. -/
theorem AwardsInOrder.win (h : AwardsInOrder points₀ s won check owed)
    (hmilestone : milestone counted (s.count counted u) = some (points, reason))
    (hfresh : (u, reason) ∉ s.read) (hwon : won i = none)
    (hi : ∀ pair, check i = some pair → pair = (u, counted)) :
    AwardsInOrder points₀ { s with read := (u, reason) :: s.read }
      (Function.update won i (some (u, reason))) (Function.update check i none) owed where
  milestones := h.milestones.issue hfresh i
  accounted := h.accounted.issue hwon
  inStep :=
    { passed := fun u' counted' n points' reason' hn hlt =>
        List.mem_cons_of_mem _ (h.inStep.passed u' counted' n points' reason' hn hlt)
      reached := by
        intro u' counted' n points' reason' hn hread
        rcases List.mem_cons.mp hread with heq | hread
        · obtain ⟨rfl, rfl⟩ := Prod.mk.inj heq
          obtain ⟨rfl, rfl⟩ := milestone_inj hn hmilestone
          exact le_refl _
        · exact h.inStep.reached u' counted' n points' reason' hn hread
      known := h.inStep.known }
  checked := by
    have hmono : Store.Checked { s with read := (u, reason) :: s.read } check :=
      h.checked.mono rfl (fun _ hpair => List.mem_cons_of_mem _ hpair) fun _ _ => le_refl _
    refine hmono.resolve ?_ hi
    intro m points' reason' hm hle
    rcases Nat.lt_or_eq_of_le hle with hlt | rfl
    · exact List.mem_cons_of_mem _ (h.inStep.passed u counted m points' reason' hm hlt)
    · obtain ⟨-, rfl⟩ := Prod.mk.inj (Option.some.inj (hm.symm.trans hmilestone))
      exact List.mem_cons_self
  balanced := by
    obtain ⟨debts, howed, hbalanced⟩ := h.balanced
    exact ⟨debts, ⟨howed.once, howed.held, howed.known⟩, ⟨hbalanced.users, hbalanced.sums⟩⟩

/-- A row is written, and its points are still to be added. -/
theorem AwardsInOrder.reward (h : AwardsInOrder points₀ s won check owed) {row : RewardPoint}
    (hu : s.has row.userId) (howed : owed i = none) {won' : ℕ → Option (String × String)}
    (hmilestones : Once s.read ((row :: s.rewards).filterMap RewardPoint.milestone) won')
    (haccounted : Accounted s.read ((row :: s.rewards).filterMap RewardPoint.milestone) won') :
    AwardsInOrder points₀ { s with rewards := row :: s.rewards } won' check
      (Function.update owed i (some (row.userId, row.points))) where
  milestones := hmilestones
  accounted := haccounted
  inStep := ⟨h.inStep.passed, h.inStep.reached, h.inStep.known⟩
  checked := h.checked
  balanced := by
    obtain ⟨debts, hdebts, hbalanced⟩ := h.balanced
    have hadd := hdebts.add howed (p := row.points) hu
    exact ⟨_, ⟨hadd.once, hadd.held, hadd.known⟩, hbalanced.add i row⟩

theorem AwardsInOrder.plainReward (h : AwardsInOrder points₀ s won check owed) {row : RewardPoint}
    (hu : s.has row.userId) (howed : owed i = none) (hreason : row.reason ∉ milestoneReasons) :
    AwardsInOrder points₀ { s with rewards := row :: s.rewards } won check
      (Function.update owed i (some (row.userId, row.points))) := by
  have hsame : (row :: s.rewards).filterMap RewardPoint.milestone =
      s.rewards.filterMap RewardPoint.milestone :=
    List.filterMap_cons_none (if_neg hreason)
  exact h.reward hu howed (hsame ▸ h.milestones) (hsame ▸ h.accounted)

theorem AwardsInOrder.milestoneReward (h : AwardsInOrder points₀ s won check owed)
    (row : RewardPoint) (hu : s.has row.userId) (howed : owed i = none)
    (hreason : row.reason ∈ milestoneReasons) (hwon : won i = some (row.userId, row.reason)) :
    AwardsInOrder points₀ { s with rewards := row :: s.rewards } (Function.update won i none) check
      (Function.update owed i (some (row.userId, row.points))) := by
  have hcons : (row :: s.rewards).filterMap RewardPoint.milestone = (row.userId, row.reason) ::
      s.rewards.filterMap RewardPoint.milestone :=
    List.filterMap_cons_some (if_pos hreason)
  exact h.reward hu howed (hcons ▸ h.milestones.spend hwon) (hcons ▸ h.accounted.spend hwon)

/-- The points are added. -/
theorem AwardsInOrder.pay (h : AwardsInOrder points₀ s won check owed)
    (howed : owed i = some (u, points)) :
    s.has u ∧ AwardsInOrder points₀
      { s with points := Function.update s.points u ((s.points u).map (· + points)) } won check
      (Function.update owed i none) := by
  obtain ⟨debts, hdebts, hbalanced⟩ := h.balanced
  have hdebt : (⟨i, u, points⟩ : Debt) ∈ debts := (hdebts.held _).mpr howed
  have hu := hdebts.known _ hdebt
  have hhas : ∀ u', Store.has
      { s with points := Function.update s.points u ((s.points u).map (· + points)) } u' =
        s.has u' := by
    intro u'
    unfold Store.has
    rcases eq_or_ne u' u with rfl | hne
    · simp
    · simp [hne]
  have hpay := hdebts.pay howed
  refine ⟨hu, h.milestones, h.accounted, ⟨h.inStep.passed, h.inStep.reached, ?_⟩, h.checked, _,
    ⟨hpay.once, hpay.held, ?_⟩, hbalanced.pay hu hdebt⟩
  · intro u' counted' hpos
    rw [hhas]
    exact h.inStep.known u' counted' hpos
  · intro debt hdebt'
    rw [hhas]
    exact hpay.known debt hdebt'

/-- There is one more activity or deposit, where the milestones so far are counted. -/
theorem AwardsInOrder.more (h : AwardsInOrder points₀ s won check owed) {s' : Store}
    (hread : s'.read = s.read) (hrewards : s'.rewards = s.rewards) (hbegun : s'.begun = s.begun)
    (hpoints : s'.points = s.points)
    (hcount : ∀ counted' u', s'.count counted' u' = s.count counted' u' ∨
      counted' = counted ∧ u' = u ∧ s'.count counted' u' = s.count counted' u' + 1)
    (hmore : s'.count counted u = s.count counted u + 1 → s.has u ∧ s.MilestoneRead counted u) :
    AwardsInOrder points₀ s' won check owed where
  milestones := by
    rw [hread, hrewards]
    exact h.milestones
  accounted := by
    rw [hread, hrewards]
    exact h.accounted
  inStep :=
    { passed := by
        intro u' counted' n points reason hn hlt
        rw [hread]
        rcases hcount counted' u' with hsame | ⟨rfl, rfl, hone⟩
        · exact h.inStep.passed u' counted' n points reason hn (hsame ▸ hlt)
        · exact h.inStep.all_read (hmore hone).2 n points reason hn (by omega)
      reached := by
        intro u' counted' n points reason hn hmem
        rw [hread] at hmem
        have := h.inStep.reached u' counted' n points reason hn hmem
        rcases hcount counted' u' with hsame | ⟨-, -, hone⟩ <;> omega
      known := by
        intro u' counted' hpos
        unfold Store.has
        rw [hpoints]
        rcases hcount counted' u' with hsame | ⟨rfl, rfl, hone⟩
        · exact h.inStep.known u' counted' (hsame ▸ hpos)
        · exact (hmore hone).1 }
  checked := by
    refine h.checked.mono hbegun (fun _ hpair => hread.symm ▸ hpair) ?_
    intro counted' u'
    rcases hcount counted' u' with hsame | ⟨-, -, hone⟩ <;> omega
  balanced := by
    obtain ⟨debts, howed, hbalanced⟩ := h.balanced
    refine ⟨debts, ⟨howed.once, howed.held, ?_⟩, ⟨?_, ?_⟩⟩
    · intro debt hdebt
      unfold Store.has
      rw [hpoints]
      exact howed.known debt hdebt
    · intro u'
      rw [hpoints]
      exact hbalanced.users u'
    · intro u'
      rw [hpoints, hrewards]
      exact hbalanced.sums u'

/-- What the awards depend on is as before. -/
theorem AwardsInOrder.same (h : AwardsInOrder points₀ s won check owed) {s' : Store}
    (hread : s'.read = s.read) (hrewards : s'.rewards = s.rewards) (hbegun : s'.begun = s.begun)
    (hpoints : s'.points = s.points)
    (hcount : ∀ counted u, s'.count counted u = s.count counted u) :
    AwardsInOrder points₀ s' won check owed := by
  refine @AwardsInOrder.more _ _ _ _ _ .transfers "" h s' hread hrewards hbegun hpoints
    (fun counted u => .inl (hcount counted u)) ?_
  intro hone
  rw [hcount] at hone
  omega

end Awards

section Requests
variable {points₀ : String → Option ℕ} {s : Store} {H : ℕ → Held} {h : Held} {i : ℕ} {call : Call}
  {counted : Counted} {α : Type}

theorem inOrder_update : InOrder points₀ s (Function.update H i h) ↔
    AwardsInOrder points₀ s (Function.update (Held.won ∘ H) i h.won)
      (Function.update (Held.check ∘ H) i h.check)
        (Function.update (Held.owed ∘ H) i h.owed) ∧
      BadgesInOrder s (Function.update (Held.announce ∘ H) i h.announce)
        (Function.update (Held.record ∘ H) i h.record) := by
  simp only [← Function.comp_update]
  exact ⟨fun hinv => ⟨hinv.awards, hinv.badges⟩, fun hinv => ⟨hinv.1, hinv.2⟩⟩

/-- The call holds the same of a kind as before. -/
theorem keep {β : Type} (f : Held → β) (b : β) (h : f (H i) = b) :
    Function.update (f ∘ H) i b = f ∘ H :=
  Function.update_eq_self_iff.mpr h.symm

/-- A step of the points; the call has the same badges to announce and to record. -/
theorem inOrder_awarding (hsame : (H i).announce = h.announce ∧ (H i).record = h.record) :
    InOrder points₀ s (Function.update H i h) ↔
    AwardsInOrder points₀ s (Function.update (Held.won ∘ H) i h.won)
      (Function.update (Held.check ∘ H) i h.check)
        (Function.update (Held.owed ∘ H) i h.owed) ∧
      BadgesInOrder s (Held.announce ∘ H) (Held.record ∘ H) := by
  rw [inOrder_update, keep Held.announce h.announce hsame.1, keep Held.record h.record hsame.2]

/-- A step of the badges; the call has the same milestones and points open. -/
theorem inOrder_granting (hwon : (H i).won = h.won) (hcheck : (H i).check = h.check)
    (howed : (H i).owed = h.owed) :
    InOrder points₀ s (Function.update H i h) ↔
    AwardsInOrder points₀ s (Held.won ∘ H) (Held.check ∘ H) (Held.owed ∘ H) ∧
      BadgesInOrder s (Function.update (Held.announce ∘ H) i h.announce)
        (Function.update (Held.record ∘ H) i h.record) := by
  rw [inOrder_update, keep Held.won h.won hwon, keep Held.check h.check hcheck,
    keep Held.owed h.owed howed]

theorem hands_request {r : Request} (held : Answer r → Held)
    (hstep : ∀ s H, InOrder points₀ s H → H i = h → awardsInTurn.allows i call s r →
      InOrder points₀ (carry s r).2 (Function.update H i (held (carry s r).1))) :
    (awardCustody points₀).Hands i call (request r) h fun result h' => h' = held result := by
  refine Hands.andThen (Hands.ask held (fun _ _ => trivial) hstep) ?_ ?_
  · rintro answer h' ⟨_, ⟨⟩, rfl⟩
    exact Hands.checked rfl
  · rintro e h' ⟨_, hnever, -⟩
    cases hnever

theorem hands_caught {x handler : Service α} {Q Q' : Except Failure α → Held → Prop}
    (hx : (awardCustody points₀).Hands i call x h Q)
    (hhandler : ∀ h', Q (.error .error) h' → (awardCustody points₀).Hands i call handler h' Q')
    (hstopped : ∀ h', Q (.error .stopped) h' → Q' (.error .stopped) h')
    (hok : ∀ a h', Q (.ok a) h' → Q' (.ok a) h') :
    (awardCustody points₀).Hands i call (caught x handler) h Q' := by
  refine Hands.tryCatch hx ?_ hok
  rintro (_ | _) h' hQ
  · exact hhandler h' hQ
  · exact Hands.checked (hstopped h' hQ)

/-- A request that leaves the store alone. -/
theorem hands_look {r : Request} (hsame : ∀ s, (carry s r).2 = s) :
    (awardCustody points₀).Hands i call (request r) h fun _ h' => h' = h := by
  refine hands_request (fun _ => h) fun s H hinv hi _ => ?_
  rw [hsame, ← hi, Function.update_eq_self]
  exact hinv

end Requests

section AwardCalls
variable {points₀ : String → Option ℕ} {i : ℕ} {call : Call} {counted : Counted} {row : RewardPoint}
  {reward points : Outcome}
  {u txHash : String} {outcomes : Outcomes}

/-- What is held when the row of the plain points has been asked for. -/
def opened (row : RewardPoint) (counted : Counted) : Except Failure Unit → Held
  | .ok _ => { check := some (row.userId, counted), owed := some (row.userId, row.points) }
  | .error .error => { check := some (row.userId, counted) }
  | .error .stopped => {}

def unlessFailed {α : Type} (h : Held) : Except Failure α → Held
  | .ok _ => h
  | .error _ => {}

theorem hands_begins :
    (awardCustody points₀).Hands i call (request (.begins counted u)) {} fun result h' =>
    h' = unlessFailed { check := some (u, counted) } result := by
  refine hands_request (r := .begins counted u) (unlessFailed { check := some (u, counted) })
    fun s H hinv hi _ => ?_
  show InOrder points₀ _ (Function.update H i { check := some (u, counted) })
  rw [inOrder_awarding ⟨by rw [hi], by rw [hi]⟩, keep Held.won none (by rw [hi]),
    keep Held.owed none (by rw [hi])]
  exact ⟨hinv.awards.begin (by simp [hi]), hinv.badges.announcements, hinv.badges.records⟩

theorem hands_createReward (hcall : call.counted = some counted)
    (hreason : row.reason ∉ milestoneReasons) :
    (awardCustody points₀).Hands i call (request (.createReward row reward))
      { check := some (row.userId, counted) }
      fun result h' => h' = opened row counted result := by
  refine hands_request (r := .createReward row reward) (opened row counted)
    fun s H hinv hi hallows => ?_
  obtain ⟨hlost, hstops⟩ : (s.has row.userId → reward.carried → reward = .answered) ∧
      (reward.stops →
        ∀ counted, call.counted = some counted → s.MilestoneRead counted row.userId) := by
    have hallows' : if row.reason ∈ milestoneReasons then reward = .answered else _ := hallows
    rwa [if_neg hreason] at hallows'
  have hchecking :
      InOrder points₀ s (Function.update H i { check := some (row.userId, counted) }) := by
    rw [← hi, Function.update_eq_self]
    exact hinv
  have hover (hstopped : reward.stops) : InOrder points₀ s (Function.update H i {}) := by
    rw [inOrder_awarding ⟨by rw [hi], by rw [hi]⟩, keep Held.won none (by rw [hi]),
      keep Held.owed none (by rw [hi])]
    refine ⟨hinv.awards.pass (hstops hstopped counted hcall) ?_, hinv.badges⟩
    intro pair hpair
    simp only [Function.comp_apply, hi] at hpair
    exact (Option.some.inj hpair).symm
  simp only [carry]
  by_cases hu : s.has row.userId
  · rw [if_pos hu]
    cases reward with
    | answered =>
      have howing := hinv.awards.plainReward (i := i) hu (by simp [hi]) hreason
      show InOrder points₀ _
          (Function.update H i
            { check := some (row.userId, counted), owed := some (row.userId, row.points) })
      rw [inOrder_awarding ⟨by rw [hi], by rw [hi]⟩, keep Held.won none (by rw [hi]),
        keep Held.check (some (row.userId, counted)) (by rw [hi])]
      exact ⟨howing, hinv.badges.announcements, hinv.badges.records⟩
    | failed carried =>
      have hnot : carried = false := by simpa [Outcome.carried] using hlost hu
      subst hnot
      exact hchecking
    | stopped carried =>
      have hnot : carried = false := by simpa [Outcome.carried] using hlost hu
      subst hnot
      exact hover rfl
  · rw [if_neg hu]
    cases reward with
    | answered => exact hchecking
    | failed carried => exact hchecking
    | stopped carried => exact hover rfl

/-- What is left when the points have been asked for. -/
def unlessStopped (h : Held) : Except Failure Unit → Held
  | .error .stopped => {}
  | .ok _ | .error .error => h

theorem hands_incrementPoints {p : ℕ} (check : Option (String × Counted))
    (hcheck : ∀ pair, check = some pair → ∃ counted, call.counted = some counted ∧ pair = (u,
      counted)) :
    (awardCustody points₀).Hands i call (request (.incrementPoints u p points))
      { check := check, owed := some (u, p) } fun result h' =>
      h' = unlessStopped { check := check } result := by
  refine hands_request (r := .incrementPoints u p points) (unlessStopped { check := check })
    fun s H hinv hi hallows => ?_
  obtain ⟨hcarried, hstops⟩ : points.carried ∧
    (points.stops → ∀ counted, call.counted = some counted → s.MilestoneRead counted u) := hallows
  have howed : (Held.owed ∘ H) i = some (u, p) := by simp [hi]
  obtain ⟨hu, hpaid⟩ := hinv.awards.pay howed
  simp only [carry, if_pos hu, hcarried, if_true]
  have hrest :
      InOrder points₀ { s with points := Function.update s.points u ((s.points u).map (· + p)) }
      (Function.update H i { check := check }) := by
    rw [inOrder_awarding ⟨by rw [hi], by rw [hi]⟩, keep Held.won none (by rw [hi]),
      keep Held.check check (by rw [hi])]
    exact ⟨hpaid, hinv.badges.announcements, hinv.badges.records⟩
  cases points with
  | answered => exact hrest
  | failed carried => exact hrest
  | stopped carried =>
    show InOrder points₀ _ (Function.update H i {})
    rw [inOrder_awarding ⟨by rw [hi], by rw [hi]⟩, keep Held.won none (by rw [hi])]
    refine ⟨?_, hinv.badges.announcements, hinv.badges.records⟩
    cases hpending : check with
    | none =>
      rw [keep Held.check none (by rw [hi, hpending])]
      exact hpaid
    | some pair =>
      obtain ⟨counted, hcall, rfl⟩ := hcheck pair hpending
      refine hpaid.pass (hstops rfl counted hcall) ?_
      intro pair hpair
      simp only [Function.comp_apply, hi, hpending] at hpair
      exact (Option.some.inj hpair).symm

theorem hands_addPlainPoints (row : RewardPoint) (hcall : call.counted = some counted)
    (hreason : row.reason ∉ milestoneReasons) (hpoints : 0 < row.points) :
    (awardCustody points₀).Hands i call (addPoints reward points row)
      { check := some (row.userId, counted) } fun result h' =>
      h' = unlessFailed { check := some (row.userId, counted) } result := by
  unfold addPoints
  rw [if_neg (by omega)]
  have hcheck : ∀ pair, some (row.userId, counted) = some pair →
      ∃ counted, call.counted = some counted ∧ pair = (row.userId, counted) :=
    fun pair hpair => ⟨counted, hcall, (Option.some.inj hpair).symm⟩
  have hboth : (awardCustody points₀).Hands i call
      (do
        request (.createReward row reward)
        request (.incrementPoints row.userId row.points points))
      { check := some (row.userId, counted) }
      fun result h' => h' = unlessStopped { check := some (row.userId, counted) } result := by
    refine Hands.andThen (hands_createReward hcall hreason) ?_ ?_
    · rintro _ h' rfl
      exact hands_incrementPoints _ hcheck
    · rintro (_ | _) h' rfl <;> rfl
  refine hands_caught hboth ?_ (fun _ hQ => hQ) fun _ _ hQ => hQ
  rintro h' rfl
  exact Hands.pure rfl

/-- What is held when the milestones have been checked. -/
def checkedFor (u : String) (counted : Counted) : Except Failure ℕ → Held
  | .ok n => { won := (milestone counted n).map fun m => (u, m.2) }
  | .error _ => {}

theorem hands_count {outcome : Outcome} :
    (awardCustody points₀).Hands i call (request (.count counted u outcome))
      { check := some (u, counted) } fun result h' =>
      h' = checkedFor u counted result := by
  refine hands_request (r := .count counted u outcome) (checkedFor u counted)
    fun s H hinv hi hallows => ?_
  have hallows' : ∀ points reason, milestone counted (s.count counted u) = some (points, reason) →
    (outcome = .answered ↔ (u, reason) ∉ s.read) := hallows
  have hown : ∀ pair, (Held.check ∘ H) i = some pair → pair = (u, counted) := by
    intro pair hpair
    simp only [Function.comp_apply, hi] at hpair
    exact (Option.some.inj hpair).symm
  have hpast (hread : s.MilestoneRead counted u) : InOrder points₀ s (Function.update H i {}) := by
    rw [inOrder_awarding ⟨by rw [hi], by rw [hi]⟩, keep Held.won none (by rw [hi]),
      keep Held.owed none (by rw [hi])]
    exact ⟨hinv.awards.pass hread hown, hinv.badges⟩
  simp only [carry, Store.seen]
  cases hmilestone : milestone counted (s.count counted u) with
  | none =>
    have hread : s.MilestoneRead counted u := by
      intro points reason h
      rw [hmilestone] at h
      cases h
    have hheld : checkedFor u counted (outcome.told (.ok (s.count counted u))) = {} := by
      cases outcome <;> simp [Outcome.told, checkedFor, hmilestone]
    rw [hheld]
    simpa using hpast hread
  | some m =>
    obtain ⟨points, reason⟩ := m
    have hiff := hallows' points reason hmilestone
    by_cases hanswered : outcome = .answered
    · subst hanswered
      have hheld : checkedFor u counted (Outcome.answered.told (.ok (s.count counted u))) =
          { won := some (u, reason) } := by
        simp [Outcome.told, checkedFor, hmilestone]
      rw [hheld, if_pos rfl, inOrder_awarding ⟨by rw [hi], by rw [hi]⟩,
        keep Held.owed none (by rw [hi])]
      exact ⟨hinv.awards.win hmilestone (hiff.mp rfl) (by simp [hi]) hown,
        hinv.badges.announcements, hinv.badges.records⟩
    · have hread : s.MilestoneRead counted u := by
        intro points' reason' h
        obtain ⟨-, rfl⟩ := Prod.mk.inj (Option.some.inj (h.symm.trans hmilestone))
        exact not_not.mp fun hnot => hanswered (hiff.mpr hnot)
      have hheld : checkedFor u counted (outcome.told (.ok (s.count counted u))) = {} := by
        cases outcome with
        | answered => exact absurd rfl hanswered
        | failed carried => rfl
        | stopped carried => rfl
      rw [hheld, if_neg hanswered]
      exact hpast hread

theorem hands_milestoneReward {n p : ℕ} {reason : String}
    (hmilestone : milestone counted n = some (p, reason)) :
    (awardCustody points₀).Hands i call (request (.createReward ⟨u, p, reason, none⟩ reward))
      { won := some (u, reason) } fun result h' =>
      h' = unlessFailed { owed := some (u, p) } result := by
  refine hands_request (r := .createReward ⟨u, p, reason, none⟩ reward)
    (unlessFailed { owed := some (u, p) }) fun s H hinv hi hallows => ?_
  obtain ⟨hn, -, hreason⟩ := milestone_pos hmilestone
  have hanswered : reward = .answered := by
    have hallows' : if reason ∈ milestoneReasons then reward = .answered else _ := hallows
    rwa [if_pos hreason] at hallows'
  subst hanswered
  have hwon : (Held.won ∘ H) i = some (u, reason) := by simp [hi]
  have hread := hinv.awards.milestones.heldIssued i _ hwon
  have hu : s.has u :=
    hinv.awards.inStep.known u counted
      (hn.trans_le (hinv.awards.inStep.reached u counted n p reason hmilestone hread))
  simp only [carry, if_pos hu]
  show InOrder points₀ _ (Function.update H i { owed := some (u, p) })
  rw [inOrder_awarding ⟨by rw [hi], by rw [hi]⟩, keep Held.check none (by rw [hi])]
  exact ⟨hinv.awards.milestoneReward ⟨u, p, reason, none⟩ hu (by simp [hi]) hreason hwon,
    hinv.badges.announcements,
    hinv.badges.records⟩

theorem hands_addMilestonePoints {n p : ℕ} {reason : String}
    (hmilestone : milestone counted n = some (p, reason)) :
    (awardCustody points₀).Hands i call (addPoints reward points ⟨u, p, reason, none⟩)
      { won := some (u, reason) } fun _ h' => h' = {} := by
  have hp := (milestone_pos hmilestone).2.1
  unfold addPoints
  rw [if_neg (by dsimp only; omega)]
  have hboth : (awardCustody points₀).Hands i call
      (do
        request (.createReward ⟨u, p, reason, none⟩ reward)
        request (.incrementPoints u p points))
      { won := some (u, reason) }
      fun _ h' => h' = {} := by
    refine Hands.andThen (hands_milestoneReward hmilestone) ?_ ?_
    · rintro _ h' rfl
      refine (hands_incrementPoints none (fun _ h => nomatch h)).weaken ?_
      rintro ((_ | _) | _) h' rfl <;> rfl
    · rintro _ h' rfl
      rfl
  refine hands_caught hboth ?_ (fun _ hQ => hQ) fun _ _ hQ => hQ
  rintro h' rfl
  exact Hands.pure rfl

theorem hands_checkMilestones :
    (awardCustody points₀).Hands i call (checkMilestones counted outcomes u)
      { check := some (u, counted) } fun _ h' => h' = {} := by
  unfold checkMilestones
  refine Hands.andThen hands_count ?_ ?_
  · rintro n h' rfl
    cases hmilestone : milestone counted n with
    | none => exact Hands.pure (by simp [checkedFor, hmilestone])
    | some m =>
      obtain ⟨p, reason⟩ := m
      have hheld : checkedFor u counted (.ok n) = { won := some (u, reason) } := by
        simp [checkedFor, hmilestone]
      rw [hheld]
      exact hands_addMilestonePoints hmilestone
  · rintro _ h' rfl
    rfl

theorem hands_award {plain : ℕ × String} (hcall : call.counted = some counted)
    (hplain : 0 < plain.1 ∧ plain.2 ∉ milestoneReasons) :
    (awardCustody points₀).Hands i call (award counted plain outcomes u txHash) {}
      fun _ h' => h' = {} := by
  unfold award
  refine Hands.andThen hands_begins ?_ ?_
  · rintro _ h' rfl
    refine Hands.andThen
      (hands_addPlainPoints ⟨u, plain.1, plain.2, _⟩ hcall hplain.2 hplain.1) ?_ ?_
    · rintro _ h' rfl
      refine Hands.andThen hands_checkMilestones ?_ fun _ _ hQ => hQ
      rintro _ h' rfl
      exact Hands.pure rfl
    · rintro _ h' rfl
      rfl
  · rintro _ h' rfl
    rfl

end AwardCalls

section BadgeCalls
variable {points₀ : String → Option ℕ} {i : ℕ} {call : Call} {outcome : Outcome}
  {outcomes : Outcomes} {u b : String} {k : String × String}

/-- A badge to be announced and to be recorded. -/
def granting (k : String × String) : Held := { announce := some k, record := some k }

theorem hands_insertBadge :
    (awardCustody points₀).Hands i call (request (.insertBadge u b outcome)) {} fun result h' =>
    h' = unlessFailed (granting (u, b)) result := by
  refine hands_request (r := .insertBadge u b outcome) (unlessFailed (granting (u, b)))
    fun s H hinv hi hallows => ?_
  have hfresh : outcome = .answered → (u, b) ∉ s.granted := hallows
  have hidle (badges : Keyed UserBadge.key) :
      InOrder points₀ { s with badges := badges } (Function.update H i {}) := by
    rw [← hi, Function.update_eq_self]
    exact ⟨hinv.awards.same rfl rfl rfl rfl fun counted _ => by cases counted <;> rfl,
      hinv.badges.announcements, hinv.badges.records⟩
  simp only [carry]
  by_cases hu : s.has u
  · rw [if_pos hu]
    cases outcome with
    | answered =>
      have hsame (badges : Keyed UserBadge.key) (granted : List (String × String)) :
          AwardsInOrder points₀ { s with badges := badges, granted := granted } (Held.won ∘ H)
            (Held.check ∘ H) (Held.owed ∘ H) :=
        hinv.awards.same rfl rfl rfl rfl fun counted _ => by cases counted <;> rfl
      show InOrder points₀ _ (Function.update H i (granting (u, b)))
      rw [inOrder_granting (by rw [hi]; rfl) (by rw [hi]; rfl) (by rw [hi]; rfl), granting]
      exact ⟨hsame _ _, hinv.badges.announcements.issue (hfresh rfl) i,
        hinv.badges.records.issue (hfresh rfl) i⟩
    | failed carried => cases carried <;> exact hidle _
    | stopped carried => cases carried <;> exact hidle _
  · rw [if_neg hu]
    cases outcome <;> exact hidle _

theorem hands_notifyUser {n : Notification} :
    (awardCustody points₀).Hands i call (request (.notifyUser n)) (granting n.key)
    fun result h' => h' = unlessFailed { record := some n.key } result := by
  refine hands_request (r := .notifyUser n) (unlessFailed { record := some n.key })
    fun s H hinv hi _ => ?_
  show InOrder points₀ _ (Function.update H i { record := some n.key })
  rw [inOrder_granting (by rw [hi]; rfl) (by rw [hi]; rfl) (by rw [hi]; rfl),
    keep Held.record (some n.key) (by rw [hi]; rfl)]
  have hsame : AwardsInOrder points₀ (carry s (.notifyUser n)).2 (Held.won ∘ H) (Held.check ∘ H)
      (Held.owed ∘ H) :=
    hinv.awards.same rfl rfl rfl rfl fun counted _ => by cases counted <;> rfl
  have hannounce : (Held.announce ∘ H) i = some n.key := by
    rw [Function.comp_apply, hi]
    rfl
  exact ⟨hsame, hinv.badges.announcements.spend hannounce, hinv.badges.records⟩

/-- One more activity of a user, where the milestones so far are counted if it is a transfer. -/
theorem awards_activity {s : Store} {won : ℕ → Option (String × String)}
    {check : ℕ → Option (String × Counted)} {owed : ℕ → Option (String × ℕ)}
    (h : AwardsInOrder points₀ s won check owed) {log : ActivityLog} (hu : s.has log.userId)
    (hread : log.action = .transferSent → s.MilestoneRead .transfers log.userId) :
    AwardsInOrder points₀ { s with activities := log :: s.activities } won check owed := by
  refine @AwardsInOrder.more _ _ _ _ _ .transfers log.userId h
    { s with activities := log :: s.activities } rfl rfl rfl rfl ?_ ?_
  · rintro (_ | _) u
    · simp only [Store.count, List.countP_cons]
      by_cases hlog : log.userId = u ∧ log.action = .transferSent
      · exact .inr ⟨trivial, hlog.1.symm, by simp [hlog]⟩
      · exact .inl (by simpa using hlog)
    · exact .inl rfl
  · intro hone
    refine ⟨hu, hread ?_⟩
    simp only [Store.count, List.countP_cons] at hone
    by_contra hother
    simp [hother] at hone

theorem hands_recordBadge :
    (awardCustody points₀).Hands i call
      (request (.recordActivity ⟨u, .badgeEarned, some b⟩ outcome))
    { record := some (u, b) } fun _ h' => h' = {} := by
  refine hands_request (r := .recordActivity ⟨u, .badgeEarned, some b⟩ outcome) (fun _ => {})
    fun s H hinv hi _ => ?_
  rw [inOrder_granting (by rw [hi]) (by rw [hi]) (by rw [hi]), keep Held.announce none (by rw [hi])]
  simp only [carry]
  split_ifs with hwritten
  · have hrecord : (Held.record ∘ H) i = some (u, b) := by simp [hi]
    have hu : s.has u := (Bool.and_eq_true_iff.mp hwritten).2
    refine ⟨awards_activity hinv.awards hu (fun h => nomatch h), hinv.badges.announcements, ?_⟩
    exact hinv.badges.records.spend hrecord
  · exact ⟨hinv.awards, hinv.badges.announcements, hinv.badges.records.drop i⟩

theorem hands_awardBadge {badge : Badge} :
    (awardCustody points₀).Hands i call (awardBadge outcomes u badge) {} fun _ h' => h' = {} := by
  unfold awardBadge
  have hrecord : (awardCustody points₀).Hands i call
      (caught (request
        (.recordActivity ⟨u, .badgeEarned, some badge.id⟩ (outcomes (.record badge.id)))) (pure ()))
      { record := some (u, badge.id) } fun _ h' => h' = {} := by
    refine hands_caught hands_recordBadge ?_ (fun _ hQ => hQ) fun _ _ hQ => hQ
    rintro h' rfl
    exact Hands.pure rfl
  refine hands_caught (Q := fun _ h' => h' = {}) ?_ ?_ (fun _ hQ => hQ) fun _ _ hQ => hQ
  · refine Hands.andThen hands_insertBadge ?_ ?_
    · rintro _ h' rfl
      refine Hands.andThen (hands_notifyUser (n := notification u badge)) ?_ ?_
      · rintro _ h' rfl
        refine Hands.andThen hrecord ?_ fun _ _ hQ => hQ
        rintro _ h' rfl
        exact Hands.pure rfl
      · rintro _ h' rfl
        rfl
    · rintro _ h' rfl
      rfl
  · rintro h' rfl
    exact Hands.pure rfl

theorem hands_awardBadges {unlockedBadgeIds : List String} {badges : List Badge} :
    (awardCustody points₀).Hands i call (awardBadges outcomes u unlockedBadgeIds badges) {}
      fun _ h' => h' = {} := by
  induction badges with
  | nil => exact Hands.pure rfl
  | cons badge rest ih =>
    unfold awardBadges
    have hrest (unlocked : Bool) : (awardCustody points₀).Hands i call
        (do
          let newlyUnlocked ← awardBadges outcomes u unlockedBadgeIds rest
          pure (if unlocked then badge.id :: newlyUnlocked else newlyUnlocked)) {}
            fun _ h' => h' = {} := by
      refine Hands.andThen ih ?_ fun _ _ hQ => hQ
      rintro _ h' rfl
      exact Hands.pure rfl
    dsimp only
    split_ifs
    · refine Hands.andThen hands_awardBadge ?_ fun _ _ hQ => hQ
      rintro unlocked h' rfl
      exact hrest unlocked
    · exact hrest false

/-- A request that leaves the store alone, and what follows it. -/
theorem hands_lookThen {α : Type} {h : Held} {r : Request} {f : Value r → Service α}
    (hsame : ∀ s, (carry s r).2 = s)
    (hf : ∀ x, (awardCustody points₀).Hands i call (f x) h fun _ h' => h' = h) :
    (awardCustody points₀).Hands i call (request r >>= f) h fun _ h' => h' = h := by
  refine Hands.andThen (hands_look hsame) ?_ fun _ _ hQ => hQ
  rintro x _ rfl
  exact hf x

theorem hands_checkAndAwardBadges :
    (awardCustody points₀).Hands i call (checkAndAwardBadges outcomes u) {}
      fun _ h' => h' = {} := by
  unfold checkAndAwardBadges
  refine hands_caught (Q := fun _ h' => h' = {}) ?_ ?_ (fun _ hQ => hQ) fun _ _ hQ => hQ
  · refine hands_lookThen (fun _ => rfl) ?_
    rintro (_ | reputationPoints)
    · exact Hands.pure rfl
    · refine hands_lookThen (fun _ => rfl) fun unlockedBadgeIds => ?_
      refine hands_lookThen (fun _ => rfl) fun totalReferred => ?_
      refine hands_lookThen (fun _ => rfl) fun actions => ?_
      exact hands_awardBadges
  · rintro h' rfl
    exact Hands.pure rfl

end BadgeCalls

section Activities
variable {points₀ : String → Option ℕ} {i : ℕ} {call : Call} {outcome : Outcome} {u : String}

theorem hands_recordActivity {action : UserActivityAction} :
    (awardCustody points₀).Hands i call (request (.recordActivity ⟨u, action, none⟩ outcome)) {}
      fun _ h' => h' = {} := by
  refine hands_request (r := .recordActivity ⟨u, action, none⟩ outcome) (fun _ => {})
    fun s H hinv hi hallows => ?_
  have hread : outcome.carried → action = .transferSent → s.MilestoneRead .transfers u := hallows
  rw [← hi, Function.update_eq_self]
  simp only [carry]
  split_ifs with hwritten
  · obtain ⟨hcarried, hu⟩ := Bool.and_eq_true_iff.mp hwritten
    refine ⟨awards_activity hinv.awards hu (hread hcarried), hinv.badges.announcements, ?_⟩
    have hnone : ActivityLog.badge ⟨u, action, none⟩ = none := by simp [ActivityLog.badge]
    have hsame := List.filterMap_cons_none (l := s.activities) hnone
    exact hsame ▸ hinv.badges.records
  · exact hinv

theorem hands_createDeposit :
    (awardCustody points₀).Hands i call (request (.createDeposit u outcome)) {}
      fun _ h' => h' = {} := by
  refine hands_request (r := .createDeposit u outcome) (fun _ => {}) fun s H hinv hi hallows => ?_
  have hread : outcome.carried → s.MilestoneRead .vaultDeposits u := hallows
  rw [← hi, Function.update_eq_self]
  simp only [carry]
  split_ifs with hu hcarried
  · refine ⟨?_, hinv.badges.announcements, hinv.badges.records⟩
    refine @AwardsInOrder.more _ _ _ _ _ .vaultDeposits u hinv.awards
      { s with deposits := u :: s.deposits } rfl rfl rfl rfl ?_ ?_
    · rintro (_ | _) u'
      · exact .inl rfl
      · simp only [Store.count, List.countP_cons]
        by_cases hsame : u = u'
        · exact .inr ⟨trivial, hsame.symm, by simp [hsame]⟩
        · exact .inl (by simp [hsame])
    · exact fun _ => ⟨hu, hread hcarried⟩
  · exact hinv
  · exact hinv

theorem hands_createReferral :
    (awardCustody points₀).Hands i call (request (.createReferral u)) {} fun _ h' => h' = {} := by
  refine hands_request (r := .createReferral u) (fun _ => {}) fun s H hinv hi _ => ?_
  rw [← hi, Function.update_eq_self]
  exact ⟨hinv.awards.same rfl rfl rfl rfl fun counted _ => by cases counted <;> rfl,
    hinv.badges.announcements, hinv.badges.records⟩

theorem call_ends (points₀ : String → Option ℕ) (i : ℕ) (call : Call) :
    (awardCustody points₀).Ends i call call.program := by
  cases call with
  | recordActivity userId action outcome => exact Hands.ends hands_recordActivity fun _ _ hQ => hQ
  | createDeposit userId outcome => exact Hands.ends hands_createDeposit fun _ _ hQ => hQ
  | createReferral referrerId => exact Hands.ends hands_createReferral fun _ _ hQ => hQ
  | awardTransferPoints userId amountUSD txHash outcomes =>
    exact Hands.ends (hands_award rfl (transferReward_reason amountUSD)) fun _ _ hQ => hQ
  | awardVaultDepositPoints userId amountUSD txHash outcomes =>
    exact Hands.ends (hands_award rfl (vaultDepositReward_reason amountUSD)) fun _ _ hQ => hQ
  | checkAndAwardBadges userId outcomes =>
    exact Hands.ends hands_checkAndAwardBadges fun _ _ hQ => hQ

theorem awardCustody_kept (points₀ : String → Option ℕ) : (awardCustody points₀).Kept where
  refl _ := trivial
  programs i call _ := (call_ends points₀ i call).plays
  passes _ _ _ hinv _ := ⟨trivial, hinv⟩

theorem inOrder_initial (points₀ : String → Option ℕ) :
    InOrder points₀ (Store.initial points₀) fun _ => {} where
  awards :=
    { milestones := once_nil
      accounted := accounted_nil
      inStep :=
        { passed := fun _ counted n _ _ _ hlt => by
            cases counted <;> simp [Store.initial, Store.count] at hlt
          reached := fun _ _ _ _ _ _ hread => nomatch hread
          known := fun _ counted hpos => by
            cases counted <;> simp [Store.initial, Store.count] at hpos }
      checked := fun _ _ _ hbegun => nomatch hbegun
      balanced := ⟨[], ⟨List.nodup_nil, fun _ => by simp, fun _ h => nomatch h⟩,
        ⟨fun _ => rfl, fun _ => rfl⟩⟩ }
  badges := ⟨once_nil, once_nil⟩

end Activities

section GivenOnce
variable {points₀ : String → Option ℕ} {s : Store} {tr : Trace Store Call Request Answer}
  {c : Config Store Call Request Answer}
  {counted : Counted} {n points : ℕ} {userId badgeId reason : String}

/-- The rows of a user for a reason. -/
def Store.rewardsFor (s : Store) (userId reason : String) : ℕ :=
  s.rewards.countP fun row => row.userId = userId ∧ row.reason = reason

/-- When all calls are over, a milestone that there was when some award call began is awarded, and
the points are those of the rows. -/
structure AwardedOnce (points₀ : String → Option ℕ) (c : Config Store Call Request Answer) :
    Prop where
  milestones : ∀ userId counted n points reason, milestone counted n = some (points, reason) →
    c.state.rewardsFor userId reason ≤ 1 ∧
    (0 < c.state.rewardsFor userId reason → n ≤ c.state.count counted userId)
  notSkipped : c.Quiescent → ∀ userId counted m, (userId, counted, m) ∈ c.state.begun →
    ∀ n points reason, milestone counted n = some (points, reason) → n ≤ m →
    c.state.rewardsFor userId reason = 1
  badges : ∀ userId badgeId, (c.state.badges.rows.map UserBadge.key).count (userId, badgeId) ≤ 1 ∧
    (c.state.notified.map Notification.key).count (userId, badgeId) ≤ 1 ∧
    c.state.activities.count ⟨userId, .badgeEarned, some badgeId⟩ ≤ 1
  points : c.Quiescent → ∀ userId, (c.state.points userId).getD 0 = (points₀ userId).getD 0 +
    rewarded userId c.state.rewards

theorem rewardsFor_eq (hreason : reason ∈ milestoneReasons) :
    s.rewardsFor userId reason = (s.rewards.filterMap RewardPoint.milestone).count
      (userId, reason) := by
  rw [List.count_filterMap, Store.rewardsFor]
  congr 1
  funext row
  rw [RewardPoint.milestone, Bool.eq_iff_iff]
  by_cases hrow : row.reason ∈ milestoneReasons
  · simp [hrow]
  · have hne : row.reason ≠ reason := fun h => hrow (h ▸ hreason)
    simp [hrow, hne]

theorem badge_eq_some {log : ActivityLog} :
    log.badge = some (userId, badgeId) ↔ log = ⟨userId, .badgeEarned, some badgeId⟩ := by
  obtain ⟨user, action, badge⟩ := log
  by_cases haction : action = .badgeEarned
  · cases badge <;> simp [ActivityLog.badge, haction]
  · simp [ActivityLog.badge, haction]

theorem count_badgeEarned (activities : List ActivityLog) :
    activities.count ⟨userId, .badgeEarned, some badgeId⟩ =
      (activities.filterMap ActivityLog.badge).count (userId, badgeId) := by
  rw [List.count_filterMap, List.count_eq_countP]
  congr 1
  funext log
  rw [Bool.eq_iff_iff, beq_iff_eq, beq_iff_eq, badge_eq_some]

theorem AwardsInOrder.rewardsFor_le_one {won : ℕ → Option (String × String)}
    {check : ℕ → Option (String × Counted)} {owed : ℕ → Option (String × ℕ)}
    (h : AwardsInOrder points₀ s won check owed)
    (hmilestone : milestone counted n = some (points, reason)) :
    s.rewardsFor userId reason ≤ 1 := by
  rw [rewardsFor_eq (milestone_pos hmilestone).2.2]
  exact List.nodup_iff_count_le_one.mp h.milestones.spentOnce _

/-- A milestone is awarded to whom has reached it. -/
theorem AwardsInOrder.reached {won : ℕ → Option (String × String)}
    {check : ℕ → Option (String × Counted)} {owed : ℕ → Option (String × ℕ)}
    (h : AwardsInOrder points₀ s won check owed)
    (hmilestone : milestone counted n = some (points, reason))
    (hawarded : 0 < s.rewardsFor userId reason) :
    n ≤ s.count counted userId := by
  rw [rewardsFor_eq (milestone_pos hmilestone).2.2, List.count_pos_iff] at hawarded
  exact h.inStep.reached userId counted n points reason hmilestone
    (h.milestones.spentIssued _ hawarded)

theorem BadgesInOrder.once {announce record : ℕ → Option (String × String)}
    (h : BadgesInOrder s announce record) :
    (s.badges.rows.map UserBadge.key).count (userId, badgeId) ≤ 1 ∧
    (s.notified.map Notification.key).count (userId, badgeId) ≤ 1 ∧
      s.activities.count ⟨userId, .badgeEarned, some badgeId⟩ ≤ 1 := by
  rw [count_badgeEarned]
  refine ⟨?_, ?_, ?_⟩
  · exact List.nodup_iff_count_le_one.mp s.badges.distinct _
  · exact List.nodup_iff_count_le_one.mp h.announcements.spentOnce _
  · exact List.nodup_iff_count_le_one.mp h.records.spentOnce _

section Idle
variable {H : ℕ → Held} (hinv : InOrder points₀ s H) (hidle : ∀ i, H i = {})
include hinv hidle

/-- Nobody is still to check or to award a milestone. -/
theorem InOrder.notSkipped {m : ℕ} (hbegun : (userId, counted, m) ∈ s.begun)
    (hmilestone : milestone counted n = some (points, reason)) (hle : n ≤ m) :
    s.rewardsFor userId reason = 1 := by
  have hread : (userId, reason) ∈ s.read := by
    obtain ⟨-, hpast | ⟨i, hi⟩⟩ := hinv.awards.checked userId counted m hbegun
    · exact hpast n points reason hmilestone hle
    · simp [hidle i] at hi
  have hspent := hinv.awards.accounted.spent_of_idle (fun i => by simp [hidle i]) hread
  have hpos : 0 < s.rewardsFor userId reason := by
    rw [rewardsFor_eq (milestone_pos hmilestone).2.2]
    exact List.count_pos_iff.mpr hspent
  exact Nat.le_antisymm (hinv.awards.rewardsFor_le_one hmilestone) hpos

/-- No points are still to be added. -/
theorem InOrder.settled :
    (s.points userId).getD 0 = (points₀ userId).getD 0 + rewarded userId s.rewards := by
  obtain ⟨debts, howed, hbalanced⟩ := hinv.awards.balanced
  have hnone : debts = [] := by
    refine List.eq_nil_iff_forall_not_mem.mpr fun debt hdebt => ?_
    have howes := (howed.held debt).mp hdebt
    simp [hidle debt.process] at howes
  subst hnone
  exact hbalanced.sums userId

end Idle

/-- Award calls and activities side by side, where every one of their requests finds the awards in
turn. -/
theorem awards_given_once (hrun : awardService.Runs (Store.initial points₀) tr c)
    (hmeets : ∀ t ∈ tr, StoreService.Meets awardsInTurn t) : AwardedOnce points₀ c := by
  obtain ⟨H, hinv, hholder⟩ :=
    (awardCustody_kept points₀).holder (fun i call _ => call_ends points₀ i call) hrun hmeets
    (inOrder_initial points₀)
  have hinv : InOrder points₀ c.state H := hinv
  have hidle : c.Quiescent → ∀ i, H i = {} := by
    intro hover i
    by_contra hheld
    obtain ⟨call, r, next, hprocess⟩ := hholder i hheld
    rcases hover i _ hprocess with hended | hcrashed
    · cases hended
    · cases hcrashed
  refine ⟨?_, ?_, ?_, ?_⟩
  · intro userId counted n points reason hmilestone
    exact ⟨hinv.awards.rewardsFor_le_one hmilestone, hinv.awards.reached hmilestone⟩
  · intro hover userId counted m hbegun n points reason hmilestone hle
    exact hinv.notSkipped (hidle hover) hbegun hmilestone hle
  · exact fun userId badgeId => hinv.badges.once
  · exact fun hover userId => hinv.settled (hidle hover)

end GivenOnce

end VeriAgentPay.Awards

namespace VeriAgentPay.Devnet
open InterleavedPrograms Awards

def annsPoints : String → Option ℕ := fun userId => if userId = "ann" then some 0 else none

def awardCall (i n : ℕ) (call : Awards.Call) : List (Move Awards.Call) :=
  .start i call :: List.replicate n (.step i)

def annSends (i : ℕ) : List (Move Awards.Call) :=
  awardCall i 1 (.recordActivity "ann" .transferSent .answered)

/-- An award call for a transfer of ann, up to a number of requests. -/
def annAwarded (i n : ℕ) (outcomes : Outcomes) : List (Move Awards.Call) :=
  awardCall i n (.awardTransferPoints "ann" (.finite 20) "5xSig" outcomes)

def annsBadges (i n : ℕ) : List (Move Awards.Call) :=
  awardCall i n (.checkAndAwardBadges "ann" fun _ => .answered)

structure AnnsAwards where
  finished : Bool
  begun : List (String × Counted × ℕ)
  firstTransaction : ℕ
  points : Option ℕ
  rewarded : ℕ
  announced : ℕ
  deriving DecidableEq

/-- What a schedule leaves of ann's awards; of the badges, how often the launch badge was
announced. -/
def annsAwards (C : StoreService.Conditions Store Awards.Call Awards.Request)
    [DecidablePred C.starts] [∀ i call s r, Decidable (C.allows i call s r)]
    [∀ s s', Decidable (C.passes s s')] (schedule : List (Move Awards.Call)) :
    Option AnnsAwards :=
  (awardService.moves C (Config.initial (Store.initial annsPoints)) schedule).map fun c =>
    { finished := (schedule.filterMap Move.starts).all c.finished
      begun := c.state.begun
      firstTransaction := c.state.rewardsFor "ann" "FIRST_TRANSACTION"
      points := c.state.points "ann"
      rewarded := rewarded "ann" c.state.rewards
      announced := (c.state.notified.map Notification.key).count ("ann", "b-launch-supporter") }

def withoutIncrement : Outcomes
  | .points => .failed false
  | _ => .answered

/-- Two transfers are recorded before either of them is counted. -/
def bothRecorded : List (Move Awards.Call) := annSends 0 ++ annSends 1 ++
  annAwarded 2 4 (fun _ => .answered) ++ annAwarded 3 4 fun _ => .answered

/-- Two award calls count before either of them awards. -/
def bothCount : List (Move Awards.Call) :=
  annSends 0 ++ annAwarded 1 4 (fun _ => .answered) ++ annAwarded 2 6 (fun _ => .answered) ++
    [.step 1, .step 1]

/-- Two calls read the badges before either of them inserts one. -/
def bothInsert : List (Move Awards.Call) :=
  annsBadges 0 4 ++ annsBadges 1 7 ++ [.step 0, .step 0, .step 0]

theorem awards_computed :
    annsAwards StoreService.anything bothRecorded =
        some ⟨true, [("ann", .transfers, 2), ("ann", .transfers, 2)], 0, some 10, 10, 0⟩ ∧
      annsAwards StoreService.anything bothCount =
        some ⟨true, [("ann", .transfers, 1), ("ann", .transfers, 1)], 2, some 60, 60, 0⟩ ∧
      annsAwards StoreService.anything (annAwarded 0 4 withoutIncrement) = some
        ⟨true, [("ann", .transfers, 0)], 0, some 0, 5, 0⟩ ∧
      annsAwards StoreService.anything bothInsert = some ⟨true, [], 0, some 0, 0, 2⟩ := by
  refine ⟨?_, ?_, ?_, ?_⟩ <;> decide +kernel

theorem runs_of_annsAwards {schedule : List (Move Awards.Call)} {left : AnnsAwards}
    (h : annsAwards StoreService.anything schedule = some left) (hover : left.finished) :
    ∃ tr c, awardService.Runs (Store.initial annsPoints) tr c ∧ c.Quiescent ∧
      c.state.begun = left.begun ∧
      c.state.rewardsFor "ann" "FIRST_TRANSACTION" = left.firstTransaction ∧
      c.state.points "ann" = left.points ∧
      rewarded "ann" c.state.rewards = left.rewarded ∧
      (c.state.notified.map Notification.key).count ("ann", "b-launch-supporter") =
        left.announced := by
  obtain ⟨tr, c, hrun, -, hmoves, rfl⟩ := StoreService.runs_of_computed h
  exact ⟨tr, c, hrun, StoreService.quiescent_of_moves hmoves hover, rfl, rfl, rfl, rfl, rfl⟩

/-- When all calls are over: the first transfer was not awarded, though there were two; it was
awarded twice; points of a row were not added; a badge was announced twice. -/
theorem awards_lost_and_doubled :
    (∃ tr c, awardService.Runs (Store.initial annsPoints) tr c ∧ c.Quiescent ∧
      c.state.begun = [("ann", .transfers, 2), ("ann", .transfers, 2)] ∧
      c.state.rewardsFor "ann" "FIRST_TRANSACTION" = 0 ∧ ¬AwardedOnce annsPoints c) ∧
    (∃ tr c, awardService.Runs (Store.initial annsPoints) tr c ∧ c.Quiescent ∧
      c.state.rewardsFor "ann" "FIRST_TRANSACTION" = 2 ∧
      ¬AwardedOnce annsPoints c) ∧
    (∃ tr c, awardService.Runs (Store.initial annsPoints) tr c ∧ c.Quiescent ∧
      c.state.points "ann" = some 0 ∧
      rewarded "ann" c.state.rewards = 5 ∧ ¬AwardedOnce annsPoints c) ∧
    ∃ tr c, awardService.Runs (Store.initial annsPoints) tr c ∧ c.Quiescent ∧
      (c.state.notified.map Notification.key).count ("ann", "b-launch-supporter") = 2 ∧
      ¬AwardedOnce annsPoints c := by
  obtain ⟨hskipped, hdoubled, hunpaid, hannounced⟩ := awards_computed
  have hfirst : milestone .transfers 1 = some (25, "FIRST_TRANSACTION") := rfl
  refine ⟨?_, ?_, ?_, ?_⟩
  · obtain ⟨tr, c, hrun, hover, hbegun, hnone, -, -, -⟩ := runs_of_annsAwards hskipped rfl
    refine ⟨tr, c, hrun, hover, hbegun, hnone, fun hawards => ?_⟩
    have hmem : ("ann", .transfers, 2) ∈ c.state.begun := hbegun ▸ List.mem_cons_self
    have hone := hawards.notSkipped hover "ann" .transfers 2 hmem 1 _ _ hfirst (by omega)
    dsimp only at hnone
    omega
  · obtain ⟨tr, c, hrun, hover, -, htwo, -, -, -⟩ := runs_of_annsAwards hdoubled rfl
    refine ⟨tr, c, hrun, hover, htwo, fun hawards => ?_⟩
    have hone := (hawards.milestones "ann" .transfers 1 _ _ hfirst).1
    dsimp only at htwo
    omega
  · obtain ⟨tr, c, hrun, hover, -, -, hpoints, hrows, -⟩ := runs_of_annsAwards hunpaid rfl
    refine ⟨tr, c, hrun, hover, hpoints, hrows, fun hawards => ?_⟩
    have hsum := hawards.points hover "ann"
    rw [hpoints, hrows] at hsum
    cases hsum
  · obtain ⟨tr, c, hrun, hover, -, -, -, -, htwo⟩ := runs_of_annsAwards hannounced rfl
    refine ⟨tr, c, hrun, hover, htwo, fun hawards => ?_⟩
    have hone := (hawards.badges "ann" "b-launch-supporter").2.1
    dsimp only at htwo
    omega

instance (s : Store) (counted : Counted) (userId : String) :
    Decidable (s.MilestoneRead counted userId) :=
  decidable_of_iff (∀ m ∈ milestone counted (s.count counted userId), s.read.contains (userId, m.2))
    (by
    simp only [Store.MilestoneRead, Prod.forall, Option.mem_def, List.contains_eq_mem,
      decide_eq_true_eq])

def decidableMilestonesRead (s : Store) (call : Awards.Call) (userId : String) :
    Decidable (∀ counted, call.counted = some counted → s.MilestoneRead counted userId) :=
  decidable_of_iff (∀ counted ∈ call.counted, s.MilestoneRead counted userId) Iff.rfl

def decidableCountedInTurn (s : Store) (counted : Counted) (userId : String)
    (outcome : Awards.Outcome) :
    Decidable (∀ points reason, milestone counted (s.count counted userId) = some (points, reason) →
      (outcome = .answered ↔ (userId, reason) ∉ s.read)) :=
  decidable_of_iff (∀ m ∈ milestone counted (s.count counted userId), (outcome = .answered ↔
    ¬s.read.contains (userId, m.2))) (by
    simp only [Prod.forall, Option.mem_def, List.contains_eq_mem, decide_eq_true_eq])

instance : DecidablePred awardsInTurn.starts := fun _ => .isTrue trivial
instance (i : ℕ) (call : Awards.Call) (s : Store) (r : Awards.Request) :
    Decidable (awardsInTurn.allows i call s r) := by
  cases r with
  | createReward row outcome =>
    have := decidableMilestonesRead s call row.userId
    exact inferInstanceAs (Decidable (if row.reason ∈ milestoneReasons then outcome = .answered
      else (s.has row.userId → outcome.carried → outcome = .answered) ∧
        (outcome.stops →
          ∀ counted, call.counted = some counted → s.MilestoneRead counted row.userId)))
  | incrementPoints userId points outcome =>
    have := decidableMilestonesRead s call userId
    exact inferInstanceAs (Decidable (outcome.carried ∧
      (outcome.stops → ∀ counted, call.counted = some counted → s.MilestoneRead counted userId)))
  | count counted userId outcome => exact decidableCountedInTurn s counted userId outcome
  | recordActivity log outcome =>
    exact inferInstanceAs (Decidable (outcome.carried → log.action = .transferSent →
      s.MilestoneRead .transfers log.userId))
  | createDeposit userId outcome =>
    exact inferInstanceAs (Decidable (outcome.carried → s.MilestoneRead .vaultDeposits userId))
  | insertBadge userId badgeId outcome =>
    exact decidable_of_iff (outcome = .answered → ¬s.granted.contains (userId, badgeId)) (by
      rw [List.contains_eq_mem, decide_eq_true_eq]
      exact Iff.rfl)
  | _ => exact .isTrue trivial
instance (s s' : Store) : Decidable (awardsInTurn.passes s s') := .isTrue trivial

def countFails : Outcomes
  | .count => .failed false
  | _ => .answered

/-- Two transfers, each recorded when the other has been counted; the second count fails, which is
no milestone. Then the badges. -/
def sentInTurn : List (Move Awards.Call) :=
  annSends 0 ++ annAwarded 1 6 (fun _ => .answered) ++ annsBadges 2 7 ++ annSends 3 ++
    annAwarded 4 4 countFails ++ annsBadges 5 4

theorem sent_in_turn : annsAwards awardsInTurn sentInTurn =
    some ⟨true, [("ann", .transfers, 2), ("ann", .transfers, 1)], 1, some 35, 35, 1⟩ := by
  decide +kernel

theorem awards_given_once_devnet : ∃ tr c, awardService.Runs (Store.initial annsPoints) tr c ∧
    AwardedOnce annsPoints c ∧ c.Quiescent ∧
    c.state.rewardsFor "ann" "FIRST_TRANSACTION" = 1 := by
  obtain ⟨tr, c, hrun, hmeets, hmoves, hleft⟩ := StoreService.runs_of_computed sent_in_turn
  have hover : c.Quiescent :=
    StoreService.quiescent_of_moves hmoves (congrArg AnnsAwards.finished hleft)
  exact ⟨tr, c, hrun, awards_given_once hrun hmeets, hover,
    congrArg AnnsAwards.firstTransaction hleft⟩

end VeriAgentPay.Devnet
