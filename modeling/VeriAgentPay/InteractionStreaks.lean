import Mathlib.Data.Rat.Floor
import Mathlib.Tactic.Ring
import VeriAgentPay.BridgedStreaks
import VeriAgentPay.UtcCalendar

/-!
# Streaks of interactions

The row of a user says how many days the user has been active in a row. It is changed with each
interaction that counts; the same function computes the streak of savings.
-/

namespace VeriAgentPay.InteractionStreaks
open BridgedStreaks UtcCalendar

section Model

structure InteractionStreakState where
  currentStreak : ℕ
  longestStreak : ℕ
  lastActiveAt : ℕ
  lastGracePassUsedAt : Option ℕ
  deriving DecidableEq

structure InteractionStreakUpdate where
  currentStreak : ℕ
  longestStreak : ℕ
  lastActiveAt : ℕ
  lastGracePassUsedAt : Option ℕ
  gracePassUsed : Bool

/-- The beginning of the calendar day of a time. -/
def utcDay (t : ℕ) : ℕ := utc (yearFromDay (day t)) (monthFromDay (day t)) (dateFromDay (day t))

/-- `Math.round`, which rounds halves up. -/
def round (q : ℚ) : ℤ := ⌊q + 1 / 2⌋

def calendarDayDifference (from_ to_ : ℕ) : ℤ :=
  round (((utcDay to_ : ℤ) - utcDay from_ : ℤ) / (24 * 60 * 60 * 1000))

def usedGracePassThisMonth (lastUsedAt : Option ℕ) (now : ℕ) : Bool :=
  lastUsedAt.any fun last => yearFromDay (day last) = yearFromDay (day now) &&
    monthFromDay (day last) = monthFromDay (day now)

def calculateInteractionStreakUpdate (streak : InteractionStreakState) (now : ℕ) :
    Option InteractionStreakUpdate :=
  let daysSinceLast := calendarDayDifference streak.lastActiveAt now
  if daysSinceLast ≤ 0 then none
  else
    let gracePassUsed := daysSinceLast = 2 && !usedGracePassThisMonth streak.lastGracePassUsedAt now
    let currentStreak := if daysSinceLast = 1 || gracePassUsed then streak.currentStreak + 1 else 1
    some
      { currentStreak := currentStreak
        longestStreak := max currentStreak streak.longestStreak
        lastActiveAt := now
        lastGracePassUsedAt := if gracePassUsed then some now else none
        gracePassUsed := gracePassUsed }

/-- A row of the table `InteractionStreak`. -/
structure InteractionStreak extends InteractionStreakState where
  lastInteractionType : String

def QUALIFYING_STREAK_ACTIONS : List String :=
  ["TRANSFER_SENT", "REQUEST_CREATED", "REQUEST_PAID", "SPLIT_CREATED", "SPLIT_PAID",
    "ENVELOPE_CREATED", "ENVELOPE_CLAIMED",
    "REFERRAL_REGISTERED", "BOT_COMMAND", "APP_LOGIN"]

/-- What an update leaves of a pass that was used before. -/
def InteractionStreakState.apply (streak : InteractionStreakState)
    (update : InteractionStreakUpdate) : InteractionStreakState where
  currentStreak := update.currentStreak
  longestStreak := update.longestStreak
  lastActiveAt := update.lastActiveAt
  lastGracePassUsedAt := if update.gracePassUsed then update.lastGracePassUsedAt
    else streak.lastGracePassUsedAt

/-- The row of the user after an interaction. -/
def recordInteraction (existing : Option InteractionStreak) (interactionType : String) (now : ℕ) :
    Option InteractionStreak :=
  if interactionType ∉ QUALIFYING_STREAK_ACTIONS then existing
  else
    existing.elim (some ⟨⟨1, 1, now, none⟩, interactionType⟩) fun row =>
      (calculateInteractionStreakUpdate row.toInteractionStreakState now).elim (some row)
        fun update =>
        some ⟨row.toInteractionStreakState.apply update, interactionType⟩

structure SavingsStreakState where
  currentStreak : ℕ
  longestStreak : ℕ
  lastDepositAt : ℕ
  lastGracePassUsedAt : Option ℕ

structure SavingsStreakUpdate where
  currentStreak : ℕ
  longestStreak : ℕ
  lastDepositAt : ℕ
  lastGracePassUsedAt : Option ℕ
  gracePassUsed : Bool

/-- The helpers of the savings streak are the same as those of the interaction streak. -/
def calculateSavingsStreakUpdate (streak : SavingsStreakState) (now : ℕ) :
    Option SavingsStreakUpdate :=
  let daysSinceLast := calendarDayDifference streak.lastDepositAt now
  if daysSinceLast ≤ 0 then none
  else
    let gracePassUsed := daysSinceLast = 2 && !usedGracePassThisMonth streak.lastGracePassUsedAt now
    let currentStreak := if daysSinceLast = 1 || gracePassUsed then streak.currentStreak + 1 else 1
    some
      { currentStreak := currentStreak
        longestStreak := max currentStreak streak.longestStreak
        lastDepositAt := now
        lastGracePassUsedAt := if gracePassUsed then some now else none
        gracePassUsed := gracePassUsed }

def SavingsStreakState.apply (streak : SavingsStreakState) (update : SavingsStreakUpdate) :
    SavingsStreakState where
  currentStreak := update.currentStreak
  longestStreak := update.longestStreak
  lastDepositAt := update.lastDepositAt
  lastGracePassUsedAt := if update.gracePassUsed then update.lastGracePassUsedAt
    else streak.lastGracePassUsedAt

/-- An interaction that counts, and one time more. -/
def InteractionStreakState.next (streak : InteractionStreakState) (now : ℕ) :
    InteractionStreakState :=
  (calculateInteractionStreakUpdate streak now).elim streak streak.apply

def SavingsStreakState.next (streak : SavingsStreakState) (now : ℕ) : SavingsStreakState :=
  (calculateSavingsStreakUpdate streak now).elim streak streak.apply

/-- The streak after the times of interactions that count, of which the first one makes the row. -/
def interactionStreak (first : ℕ) (times : List ℕ) : InteractionStreakState :=
  times.foldl InteractionStreakState.next ⟨1, 1, first, none⟩

def savingsStreak (first : ℕ) (times : List ℕ) : SavingsStreakState :=
  times.foldl SavingsStreakState.next ⟨1, 1, first, none⟩

end Model

section Days
variable {s : InteractionStreakState} {now : ℕ} {S : Finset ℕ}

/-- The days of some times. -/
def activeDays (times : List ℕ) : Finset ℕ := (times.map day).toFinset

theorem utcDay_eq (t : ℕ) : utcDay t = day t * msPerDay := utc_day (day t)

/-- The difference is that of the days. -/
theorem calendarDayDifference_eq (from_ to_ : ℕ) :
    calendarDayDifference from_ to_ = (day to_ : ℤ) - day from_ := by
  have hquotient : (((utcDay to_ : ℤ) - utcDay from_ : ℤ) / (24 * 60 * 60 * 1000) : ℚ) =
      ((day to_ : ℤ) - day from_ : ℤ) := by
    rw [utcDay_eq, utcDay_eq, msPerDay]
    push_cast
    ring
  rw [calendarDayDifference, hquotient, round, Int.floor_intCast_add]
  norm_num

theorem usedGracePassThisMonth_iff {last : Option ℕ} :
    usedGracePassThisMonth last now ↔
    ∃ p, last.map day = some p ∧ yearMonth p = yearMonth (day now) := by
  cases last with
  | none => simp [usedGracePassThisMonth]
  | some last => simp [usedGracePassThisMonth, yearMonth]

/-- The row is about the active days. -/
structure Tracks (S : Finset ℕ) (s : InteractionStreakState) : Prop where
  last : day s.lastActiveAt ∈ S ∧ ∀ d ∈ S, d ≤ day s.lastActiveAt
  current : s.currentStreak = currentStreak yearMonth S
  longest : s.longestStreak = longestStreak yearMonth S
  pass : s.lastGracePassUsedAt.map day = lastPass yearMonth S
  positive : 1 ≤ s.currentStreak
  ordered : s.currentStreak ≤ s.longestStreak

theorem tracks_first (first : ℕ) : Tracks {day first} ⟨1, 1, first, none⟩ := by
  have hnone : ∀ c ∈ (∅ : Finset ℕ), c < day first := fun _ h => nomatch h
  have hbridged : ¬Bridged yearMonth ∅ (day first) := by
    rintro (⟨c, hc, -⟩ | ⟨⟨c, hc, -⟩, -⟩) <;> cases hc
  have hpasses : ¬Passes yearMonth ∅ (day first) := fun h => hbridged (.inr h)
  have hcurrent : currentStreak yearMonth {day first} = 1 := by
    rw [← insert_empty_eq, currentStreak_insert hnone, if_neg hbridged]
  refine ⟨by simp, hcurrent.symm, ?_, ?_, le_rfl, le_rfl⟩
  · rw [← insert_empty_eq, longestStreak_insert hnone, insert_empty_eq, hcurrent]
    rfl
  · rw [← insert_empty_eq, lastPass_insert hnone, if_neg hpasses]
    rfl

/-- The day before the last one was missed if there is a gap of two days. -/
theorem endsGap_iff (hlast : day s.lastActiveAt ∈ S ∧ ∀ d ∈ S, d ≤ day s.lastActiveAt)
    (hlater : day s.lastActiveAt < day now) :
    EndsGap S (day now) ↔ day now = day s.lastActiveAt + 2 := by
  obtain ⟨hmem, hmax⟩ := hlast
  constructor
  · rintro ⟨c, hc, hgap, hmissed⟩
    have hle := hmax c hc
    have hne : day s.lastActiveAt ≠ c + 1 := fun heq => hmissed (heq ▸ hmem)
    omega
  · intro hgap
    refine ⟨_, hmem, hgap, fun hmissed => ?_⟩
    have hle := hmax _ hmissed
    omega

theorem dayBefore_iff (hlast : day s.lastActiveAt ∈ S ∧ ∀ d ∈ S, d ≤ day s.lastActiveAt)
    (hlater : day s.lastActiveAt < day now) :
    (∃ c ∈ S, day now = c + 1) ↔ day now = day s.lastActiveAt + 1 := by
  obtain ⟨hmem, hmax⟩ := hlast
  constructor
  · rintro ⟨c, hc, hnext⟩
    have hle := hmax c hc
    omega
  · exact fun hnext => ⟨_, hmem, hnext⟩

/-- An interaction at a time that is not before the last one. -/
theorem Tracks.next (h : Tracks S s) (hle : s.lastActiveAt ≤ now) :
    Tracks (insert (day now) S) (s.next now) := by
  have hdays : day s.lastActiveAt ≤ day now := Nat.div_le_div_right hle
  obtain ⟨hmem, hmax⟩ := h.last
  unfold InteractionStreakState.next calculateInteractionStreakUpdate
  simp only [calendarDayDifference_eq]
  by_cases hsame : day now = day s.lastActiveAt
  · -- On the same day nothing changes.
    rw [if_pos (by omega), hsame, Finset.insert_eq_of_mem hmem]
    exact h
  have hlater : day s.lastActiveAt < day now := by omega
  have hnew : ∀ c ∈ S, c < day now := fun c hc => lt_of_le_of_lt (hmax c hc) hlater
  have hperiods : ∀ a b c, a ≤ b → b ≤ c → yearMonth a = yearMonth c → yearMonth b = yearMonth c :=
    fun a b c hab hbc hac => yearMonth_between hab hbc hac
  have hpasses : Passes yearMonth S (day now) ↔
      (decide ((day now : ℤ) - day s.lastActiveAt = 2) &&
        !usedGracePassThisMonth s.lastGracePassUsedAt now) = true := by
    rw [passes_iff_last hperiods hnew, endsGap_iff h.last hlater, Bool.and_eq_true,
      Bool.not_eq_true', ← Bool.not_eq_true,
      usedGracePassThisMonth_iff, h.pass, decide_eq_true_eq]
    refine and_congr (by omega) ?_
    simp only [not_exists, not_and, ne_eq]
  have hbridged : Bridged yearMonth S (day now) ↔
      (decide ((day now : ℤ) - day s.lastActiveAt = 1) ||
      (decide ((day now : ℤ) - day s.lastActiveAt = 2) &&
        !usedGracePassThisMonth s.lastGracePassUsedAt now)) = true := by
    rw [Bridged, dayBefore_iff h.last hlater, hpasses, Bool.or_eq_true, decide_eq_true_eq]
    exact or_congr (by omega) Iff.rfl
  have hcurrent := @currentStreak_insert _ yearMonth _ _ _ hnew
  have hlongest := @longestStreak_insert _ yearMonth _ _ _ hnew
  have hlastPass := @lastPass_insert _ yearMonth _ _ _ hnew
  rw [if_neg (by omega)]
  simp only [Option.elim_some, InteractionStreakState.apply, ← hbridged, ← hpasses]
  have hnow : day now ∈ insert (day now) S ∧ ∀ d ∈ insert (day now) S, d ≤ day now := by
    refine ⟨Finset.mem_insert_self _ S, fun d hd => ?_⟩
    rcases Finset.mem_insert.mp hd with rfl | hd
    · exact le_rfl
    · exact (hnew d hd).le
  refine ⟨hnow, ?_, ?_, ?_, ?_, ?_⟩
  · rw [hcurrent, h.current]
  · rw [hlongest, hcurrent, h.longest, h.current]
  · rw [hlastPass, ← h.pass]
    by_cases hpass : Passes yearMonth S (day now) <;> simp [hpass]
  · dsimp only
    split <;> omega
  · exact le_max_left _ _

theorem update_facts {s : InteractionStreakState} {now : ℕ} {update : InteractionStreakUpdate}
    (h : calculateInteractionStreakUpdate s now = some update) :
    update.lastActiveAt = now ∧
    update.longestStreak = max update.currentStreak s.longestStreak := by
  unfold calculateInteractionStreakUpdate at h
  dsimp only at h
  split at h
  · cases h
  · rw [← Option.some.inj h]
    exact ⟨rfl, rfl⟩

theorem lastActiveAt_next (s : InteractionStreakState) (now : ℕ) :
    (s.next now).lastActiveAt = s.lastActiveAt ∨ (s.next now).lastActiveAt = now := by
  unfold InteractionStreakState.next
  cases hupdate : calculateInteractionStreakUpdate s now with
  | none => exact .inl rfl
  | some update => exact .inr (update_facts hupdate).1

theorem tracks_streak (first : ℕ) (times : List ℕ) (hsorted : (first :: times).Pairwise (· ≤ ·)) :
    Tracks (activeDays (first :: times)) (interactionStreak first times) := by
  have hfold : ∀ (times : List ℕ) (S : Finset ℕ) (s : InteractionStreakState), Tracks S s →
      (∀ t ∈ times, s.lastActiveAt ≤ t) →
      times.Pairwise (· ≤ ·) →
      Tracks (S ∪ activeDays times) (times.foldl InteractionStreakState.next s) := by
    intro times
    induction times with
    | nil =>
      intro S s hS _ _
      simpa [activeDays] using hS
    | cons t times ih =>
      intro S s hS hlater hsorted
      obtain ⟨hfirst, hrest⟩ := List.pairwise_cons.mp hsorted
      have hset : S ∪ activeDays (t :: times) = insert (day t) S ∪ activeDays times := by
        simp [activeDays, Finset.union_insert, Finset.insert_union]
      rw [hset]
      refine ih _ _ (hS.next (hlater t List.mem_cons_self)) (fun u hu => ?_) hrest
      rcases lastActiveAt_next s t with heq | heq <;> rw [heq]
      · exact hlater u (List.mem_cons_of_mem t hu)
      · exact hfirst u hu
  obtain ⟨hfirst, hrest⟩ := List.pairwise_cons.mp hsorted
  have hall := hfold times {day first} _ (tracks_first first) hfirst hrest
  have hset : {day first} ∪ activeDays times = activeDays (first :: times) := by
    simp [activeDays, Finset.singleton_union]
  rw [← hset]
  exact hall

end Days

section Prefixes
variable {s : InteractionStreakState}

/-- The longest streak stays what it was, or is the current one. -/
theorem longestStreak_next (s : InteractionStreakState) (now : ℕ) :
    (s.next now).currentStreak ≤ max s.currentStreak (s.next now).longestStreak ∧
    s.longestStreak ≤ (s.next now).longestStreak ∧
    ((s.next now).longestStreak = s.longestStreak ∨
      (s.next now).longestStreak = (s.next now).currentStreak) := by
  unfold InteractionStreakState.next
  cases hupdate : calculateInteractionStreakUpdate s now with
  | none => simp
  | some update =>
    have hmax := (update_facts hupdate).2
    simp only [Option.elim_some, InteractionStreakState.apply, hmax]
    omega

theorem interactionStreak_concat (first : ℕ) (times : List ℕ) (t : ℕ) :
    interactionStreak first (times ++ [t]) = (interactionStreak first times).next t :=
  List.foldl_concat ..

/-- The longest streak is the greatest that the current one has been. -/
theorem longestStreak_prefixes (first : ℕ) (times : List ℕ) :
    (∀ p, p <+: times →
      (interactionStreak first p).currentStreak ≤ (interactionStreak first times).longestStreak) ∧
      ∃ p, p <+: times ∧ (interactionStreak first p).currentStreak =
        (interactionStreak first times).longestStreak := by
  induction times using List.reverseRecOn with
  | nil =>
    refine ⟨fun p hp => ?_, [], List.prefix_rfl, rfl⟩
    rw [List.prefix_nil.mp hp]
    rfl
  | append_singleton times t ih =>
    obtain ⟨hbound, p, hp, heq⟩ := ih
    obtain ⟨hcurrent, hlonger, hnew⟩ := longestStreak_next (interactionStreak first times) t
    rw [← interactionStreak_concat] at hcurrent hlonger hnew
    refine ⟨fun q hq => ?_, ?_⟩
    · rcases List.prefix_concat_iff.mp hq with rfl | hq
      · have hbefore := hbound times List.prefix_rfl
        omega
      · exact (hbound q hq).trans hlonger
    · rcases hnew with hsame | hlast
      · exact ⟨p, hp.trans (List.prefix_append _ _), heq.trans hsame.symm⟩
      · exact ⟨times ++ [t], List.prefix_rfl, hlast.symm⟩

end Prefixes

section Savings

/-- The same numbers. -/
def InteractionStreakState.asSavings (s : InteractionStreakState) : SavingsStreakState :=
  ⟨s.currentStreak, s.longestStreak, s.lastActiveAt, s.lastGracePassUsedAt⟩

def InteractionStreakUpdate.asSavings (u : InteractionStreakUpdate) : SavingsStreakUpdate :=
  ⟨u.currentStreak, u.longestStreak, u.lastActiveAt, u.lastGracePassUsedAt, u.gracePassUsed⟩

theorem asSavings_update (s : InteractionStreakState) (now : ℕ) :
    calculateSavingsStreakUpdate s.asSavings now =
      (calculateInteractionStreakUpdate s now).map InteractionStreakUpdate.asSavings := by
  unfold calculateSavingsStreakUpdate calculateInteractionStreakUpdate
  dsimp only
  rw [apply_ite (Option.map InteractionStreakUpdate.asSavings)]
  rfl

theorem asSavings_next (s : InteractionStreakState) (now : ℕ) :
    s.asSavings.next now = (s.next now).asSavings := by
  unfold SavingsStreakState.next InteractionStreakState.next
  rw [asSavings_update]
  cases calculateInteractionStreakUpdate s now <;> rfl

theorem savingsStreak_eq (first : ℕ) (times : List ℕ) :
    savingsStreak first times = (interactionStreak first times).asSavings := by
  have hfold : ∀ s : InteractionStreakState,
      times.foldl SavingsStreakState.next s.asSavings =
        (times.foldl InteractionStreakState.next s).asSavings := by
    induction times with
    | nil => exact fun s => rfl
    | cons t times ih =>
      intro s
      rw [List.foldl_cons, List.foldl_cons, asSavings_next, ih]
  exact hfold ⟨1, 1, first, none⟩

end Savings

section Recording

/-- The row of a user after some interactions. -/
def recordAll (interactions : List (String × ℕ)) : Option InteractionStreak :=
  interactions.foldl (fun row interaction => recordInteraction row interaction.1 interaction.2) none

def qualifyingTimes (interactions : List (String × ℕ)) : List ℕ :=
  (interactions.filter fun interaction => interaction.1 ∈ QUALIFYING_STREAK_ACTIONS).map Prod.snd

theorem qualifyingTimes_cons_of_mem {interaction : String × ℕ} (rest : List (String × ℕ))
    (h : interaction.1 ∈ QUALIFYING_STREAK_ACTIONS) :
    qualifyingTimes (interaction :: rest) = interaction.2 :: qualifyingTimes rest := by
  rw [qualifyingTimes, List.filter_cons_of_pos (by exact decide_eq_true h), List.map_cons,
    qualifyingTimes]

theorem qualifyingTimes_cons_of_not_mem {interaction : String × ℕ} (rest : List (String × ℕ))
    (h : interaction.1 ∉ QUALIFYING_STREAK_ACTIONS) :
    qualifyingTimes (interaction :: rest) = qualifyingTimes rest := by
  rw [qualifyingTimes, List.filter_cons_of_neg (by exact fun hmem => h (of_decide_eq_true hmem)),
    qualifyingTimes]

theorem recordInteraction_of_not_mem (existing : Option InteractionStreak)
    {interactionType : String} (now : ℕ) (h : interactionType ∉ QUALIFYING_STREAK_ACTIONS) :
    recordInteraction existing interactionType now = existing := by
  rw [recordInteraction, if_pos h]

/-- What an interaction that counts does to the numbers of a row. -/
theorem recordInteraction_some (row : InteractionStreak) {interactionType : String} (now : ℕ)
    (h : interactionType ∈ QUALIFYING_STREAK_ACTIONS) :
    ∃ row', recordInteraction (some row) interactionType now = some row' ∧
      row'.toInteractionStreakState = row.toInteractionStreakState.next now := by
  rw [recordInteraction, if_neg (not_not.mpr h), Option.elim_some]
  unfold InteractionStreakState.next
  cases calculateInteractionStreakUpdate row.toInteractionStreakState now with
  | none => exact ⟨row, rfl, rfl⟩
  | some update => exact ⟨_, rfl, rfl⟩

/-- The numbers of the row are those of the streak of the times that count. -/
theorem recordAll_some (interactions : List (String × ℕ)) (row : InteractionStreak) :
    (interactions.foldl (fun row interaction => recordInteraction row interaction.1 interaction.2)
      (some row)).map
        InteractionStreak.toInteractionStreakState =
      some ((qualifyingTimes interactions).foldl InteractionStreakState.next
        row.toInteractionStreakState) := by
  induction interactions generalizing row with
  | nil => rfl
  | cons interaction rest ih =>
    rw [List.foldl_cons]
    by_cases hqualifies : interaction.1 ∈ QUALIFYING_STREAK_ACTIONS
    · obtain ⟨row', hrow', hnumbers⟩ := recordInteraction_some row interaction.2 hqualifies
      rw [hrow', ih row', hnumbers, qualifyingTimes_cons_of_mem rest hqualifies, List.foldl_cons]
    · rw [recordInteraction_of_not_mem _ _ hqualifies, ih row,
        qualifyingTimes_cons_of_not_mem rest hqualifies]

/-- The first interaction that counts makes the row. -/
theorem recordAll_eq {interactions : List (String × ℕ)} {first : ℕ} {times : List ℕ}
    (h : qualifyingTimes interactions = first :: times) :
    (recordAll interactions).map InteractionStreak.toInteractionStreakState = some
      (interactionStreak first times) := by
  induction interactions with
  | nil => cases h
  | cons interaction rest ih =>
    rw [recordAll, List.foldl_cons]
    by_cases hqualifies : interaction.1 ∈ QUALIFYING_STREAK_ACTIONS
    · rw [qualifyingTimes_cons_of_mem rest hqualifies] at h
      obtain ⟨htime, hrest⟩ := List.cons.inj h
      have hmade : recordInteraction none interaction.1 interaction.2 = some
          ⟨⟨1, 1, interaction.2, none⟩, interaction.1⟩ := by
        rw [recordInteraction, if_neg (not_not.mpr hqualifies), Option.elim_none]
      rw [hmade, recordAll_some, hrest, htime, interactionStreak]
    · rw [qualifyingTimes_cons_of_not_mem rest hqualifies] at h
      rw [recordInteraction_of_not_mem _ _ hqualifies]
      exact ih h

end Recording

section Results

/-- For every sequence of times in order: the streak, the longest streak and the days at which a
missed day was bridged are those of the set of active days; the longest streak is the greatest that
the current one has been; a month has one missed day bridged at most; the streak of savings has the
same numbers; and the row of the user has them, whatever else is recorded in between. -/
theorem streaks_count_active_days (first : ℕ) (times : List ℕ)
    (hsorted : (first :: times).Pairwise (· ≤ ·)) :
    (interactionStreak first times).currentStreak = currentStreak yearMonth
      (activeDays (first :: times)) ∧
    (interactionStreak first times).longestStreak = longestStreak yearMonth
      (activeDays (first :: times)) ∧
    (interactionStreak first times).lastGracePassUsedAt.map day = lastPass yearMonth
      (activeDays (first :: times)) ∧
    (1 ≤ (interactionStreak first times).currentStreak ∧
      (interactionStreak first times).currentStreak ≤
        (interactionStreak first times).longestStreak) ∧
    ((∀ p, p <+: times →
      (interactionStreak first p).currentStreak ≤ (interactionStreak first times).longestStreak) ∧
      ∃ p, p <+: times ∧
        (interactionStreak first p).currentStreak = (interactionStreak first times).longestStreak) ∧
    (∀ d ∈ passes yearMonth (activeDays (first :: times)), ∀ e ∈ passes yearMonth
      (activeDays (first :: times)),
      yearMonth d = yearMonth e → d = e) ∧
    savingsStreak first times = (interactionStreak first times).asSavings ∧
    ∀ interactions, qualifyingTimes interactions = first :: times →
      (recordAll interactions).map InteractionStreak.toInteractionStreakState = some
        (interactionStreak first times) := by
  have htracks := tracks_streak first times hsorted
  exact ⟨htracks.current, htracks.longest, htracks.pass, ⟨htracks.positive, htracks.ordered⟩,
    longestStreak_prefixes first times,
    fun d hd e he => passes_unique hd he, savingsStreak_eq first times, fun interactions h =>
      recordAll_eq h⟩

end Results

end VeriAgentPay.InteractionStreaks

namespace VeriAgentPay.Devnet
open BridgedStreaks UtcCalendar InteractionStreaks

/-- The first, the third, the fifth and the sixth of a month, with two interactions on the third:
the second gap of two days is not bridged. -/
theorem streaks_count_active_days_devnet :
    (0 :: [172800000, 172800001, 345600000, 432000000]).Pairwise (· ≤ ·) ∧
      (interactionStreak 0 [172800000, 172800001, 345600000, 432000000]).currentStreak =
        currentStreak yearMonth (activeDays [0, 172800000, 172800001, 345600000, 432000000]) ∧
      interactionStreak 0 [172800000, 172800001, 345600000, 432000000] = ⟨2, 2, 432000000,
        some 172800000⟩ :=
  ⟨by decide, (streaks_count_active_days 0 [172800000, 172800001, 345600000, 432000000]
    (by decide)).1, by decide +kernel⟩

end VeriAgentPay.Devnet
