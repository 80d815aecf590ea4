import Mathlib.Data.Finset.Lattice.Fold
import Mathlib.Data.Finset.Max
import Mathlib.Data.Finset.Card
import Mathlib.Order.Lattice.Nat

/-!
# Streaks of days with one missed day a period

A streak goes on from one active day to the next. One missed day is bridged when no other day was
missed alone in the same period.
-/

namespace BridgedStreaks

variable {κ : Type} (period : ℕ → κ) (S : Finset ℕ)

/-- The day before was missed, and the one before that was active. -/
def EndsGap (d : ℕ) : Prop := ∃ c ∈ S, d = c + 2 ∧ c + 1 ∉ S

/-- A missed day is bridged: it is the first of its period, counted by the days that end the
gaps. -/
def Passes (d : ℕ) : Prop := EndsGap S d ∧ ∀ e ∈ S, e < d → EndsGap S e → period e ≠ period d

/-- The streak goes on at an active day. -/
def Bridged (d : ℕ) : Prop := (∃ c ∈ S, d = c + 1) ∨ Passes period S d

variable [DecidableEq κ]

instance (d : ℕ) : Decidable (EndsGap S d) := inferInstanceAs (Decidable (∃ c ∈ S, _))
instance (d : ℕ) : Decidable (Passes period S d) := inferInstanceAs (Decidable (_ ∧ _))
instance (d : ℕ) : Decidable (Bridged period S d) := inferInstanceAs (Decidable (_ ∨ _))

/-- The days at which a missed day was bridged. -/
def passes : Finset ℕ := S.filter (Passes period S)

def lastPass : Option ℕ :=
  if h : (passes period S).Nonempty then some ((passes period S).max' h) else none

/-- The last active day at which a streak began. -/
def lastStart : ℕ := (S.filter fun d => ¬Bridged period S d).sup id

/-- The active days from the last beginning of a streak on. -/
def currentStreak : ℕ := (S.filter (lastStart period S ≤ ·)).card

/-- The longest streak that there was up to any active day. -/
def longestStreak : ℕ := S.sup fun e => currentStreak period (S.filter (· ≤ e))

section Later
variable {period S} {d e : ℕ} (hd : ∀ c ∈ S, c < d)
include hd

/-- A later day does not change what was before. -/
theorem endsGap_insert (he : e ≤ d) : EndsGap (insert d S) e ↔ EndsGap S e := by
  constructor
  · rintro ⟨c, hc, rfl, hmissed⟩
    rw [Finset.mem_insert, not_or] at hmissed
    rcases Finset.mem_insert.mp hc with rfl | hc
    · omega
    · exact ⟨c, hc, rfl, hmissed.2⟩
  · rintro ⟨c, hc, rfl, hmissed⟩
    refine ⟨c, Finset.mem_insert_of_mem hc, rfl, ?_⟩
    rw [Finset.mem_insert, not_or]
    exact ⟨by omega, hmissed⟩

omit [DecidableEq κ] in
theorem passes_iff_insert (he : e ≤ d) : Passes period (insert d S) e ↔ Passes period S e := by
  refine and_congr (endsGap_insert hd he) ?_
  constructor
  · intro h c hc hce hgap
    exact h c (Finset.mem_insert_of_mem hc) hce ((endsGap_insert hd (by omega)).mpr hgap)
  · intro h c hc hce hgap
    rcases Finset.mem_insert.mp hc with rfl | hc
    · omega
    · exact h c hc hce ((endsGap_insert hd (by omega)).mp hgap)

omit [DecidableEq κ] in
theorem bridged_insert (he : e ≤ d) : Bridged period (insert d S) e ↔ Bridged period S e := by
  refine or_congr ?_ (passes_iff_insert hd he)
  constructor
  · rintro ⟨c, hc, rfl⟩
    rcases Finset.mem_insert.mp hc with rfl | hc
    · omega
    · exact ⟨c, hc, rfl⟩
  · rintro ⟨c, hc, rfl⟩
    exact ⟨c, Finset.mem_insert_of_mem hc, rfl⟩

theorem not_mem_of_later : d ∉ S := fun h => absurd (hd d h) (lt_irrefl d)

theorem passes_insert : passes period (insert d S) = if Passes period S d then
    insert d (passes period S) else passes period S := by
  have hsame : S.filter (Passes period (insert d S)) = passes period S :=
    Finset.filter_congr fun e he => passes_iff_insert hd (hd e he).le
  have hlast : Passes period (insert d S) d ↔ Passes period S d := passes_iff_insert hd le_rfl
  rw [passes, Finset.filter_insert, hsame]
  simp only [hlast]

theorem lastPass_insert : lastPass period (insert d S) = if Passes period S d then some d
    else lastPass period S := by
  unfold lastPass
  by_cases hpass : Passes period S d
  · have hset : passes period (insert d S) = insert d
      (passes period S) := by rw [passes_insert hd, if_pos hpass]
    have hmax : ∀ h :
        (passes period (insert d S)).Nonempty, (passes period (insert d S)).max' h = d := by
      intro h
      refine le_antisymm (Finset.max'_le _ _ _ ?_) (Finset.le_max' _ _ (by simp [hset]))
      intro e he
      rw [hset] at he
      rcases Finset.mem_insert.mp he with rfl | he
      · exact le_rfl
      · exact (hd e (Finset.mem_filter.mp he).1).le
    have hne : (passes period (insert d S)).Nonempty := ⟨d, by simp [hset]⟩
    rw [dif_pos hne, if_pos hpass, hmax hne]
  · have hset :
      passes period (insert d S) = passes period S := by rw [passes_insert hd, if_neg hpass]
    simp only [hset, if_neg hpass]

theorem lastStart_insert :
    lastStart period (insert d S) = if Bridged period S d then lastStart period S else d := by
  have hsame :
      (S.filter fun e => ¬Bridged period (insert d S) e) = S.filter fun e => ¬Bridged period S e :=
    Finset.filter_congr fun e he => not_congr (bridged_insert hd (hd e he).le)
  have hlast : Bridged period (insert d S) d ↔ Bridged period S d := bridged_insert hd le_rfl
  rw [lastStart, Finset.filter_insert, hsame]
  by_cases hbridged : Bridged period S d
  · simp only [hlast, hbridged, not_true_eq_false, if_false, if_true]
    rfl
  · have hle : (S.filter fun e => ¬Bridged period S e).sup id ≤ d := by
      refine Finset.sup_le fun e he => ?_
      exact (hd e (Finset.mem_filter.mp he).1).le
    simp only [hlast, hbridged, not_false_eq_true, if_true, if_false, Finset.sup_insert, id_eq]
    exact sup_eq_left.mpr hle

theorem lastStart_le : lastStart period S ≤ d := by
  refine Finset.sup_le fun e he => ?_
  exact (hd e (Finset.mem_filter.mp he).1).le

/-- A later day goes on with the streak or begins a new one. -/
theorem currentStreak_insert : currentStreak period (insert d S) = if Bridged period S d then
    currentStreak period S + 1 else 1 := by
  have hnew := not_mem_of_later hd
  rw [currentStreak, lastStart_insert hd]
  by_cases hbridged : Bridged period S d
  · have hfresh : d ∉ S.filter (lastStart period S ≤ ·) := fun h => hnew (Finset.mem_filter.mp h).1
    simp only [if_pos hbridged]
    rw [Finset.filter_insert, if_pos (lastStart_le hd), Finset.card_insert_of_notMem hfresh]
    rfl
  · have hnone : S.filter (d ≤ ·) = ∅ := by
      rw [Finset.filter_eq_empty_iff]
      exact fun e he => not_le.mpr (hd e he)
    simp only [if_neg hbridged]
    rw [Finset.filter_insert, if_pos le_rfl, hnone]
    rfl

theorem longestStreak_insert :
    longestStreak period (insert d S) = max (currentStreak period (insert d S))
      (longestStreak period S) := by
  have hall : (insert d S).filter (· ≤ d) = insert d S := by
    rw [Finset.filter_eq_self]
    intro e he
    rcases Finset.mem_insert.mp he with rfl | he
    · exact le_rfl
    · exact (hd e he).le
  rw [longestStreak, Finset.sup_insert, hall]
  refine congrArg (max (currentStreak period (insert d S))) (Finset.sup_congr rfl fun e he => ?_)
  rw [Finset.filter_insert, if_neg (not_le.mpr (hd e he))]

end Later

section Periods
variable {period S} {d e p : ℕ}

/-- In a period in which a gap ended, one was bridged. -/
theorem exists_pass_of_endsGap (he : e ∈ S) (hgap : EndsGap S e) :
    ∃ c ∈ passes period S, c ≤ e ∧ period c = period e := by
  induction e using Nat.strongRecOn with
  | ind e ih =>
    by_cases hfirst : ∀ c ∈ S, c < e → EndsGap S c → period c ≠ period e
    · exact ⟨e, Finset.mem_filter.mpr ⟨he, hgap, hfirst⟩, le_rfl, rfl⟩
    · simp only [not_forall, ne_eq, not_not] at hfirst
      obtain ⟨c, hc, hce, hcgap, hperiod⟩ := hfirst
      obtain ⟨b, hb, hbc, hsame⟩ := ih c hce hc hcgap
      exact ⟨b, hb, hbc.trans hce.le, hsame.trans hperiod⟩

/-- No two gaps of a period are bridged. -/
theorem passes_unique (hd : d ∈ passes period S) (he : e ∈ passes period S)
    (hperiod : period d = period e) : d = e := by
  obtain ⟨hdS, hdgap, hdfirst⟩ := Finset.mem_filter.mp hd
  obtain ⟨heS, hegap, hefirst⟩ := Finset.mem_filter.mp he
  rcases lt_trichotomy d e with hlt | heq | hlt
  · exact absurd hperiod (hefirst d hdS hlt hdgap)
  · exact heq
  · exact absurd hperiod.symm (hdfirst e heS hlt hegap)

theorem lastPass_eq_some : lastPass period S = some p ↔ p ∈ passes period S ∧
    ∀ q ∈ passes period S, q ≤ p := by
  unfold lastPass
  split
  next hne =>
    rw [Option.some.injEq]
    constructor
    · rintro rfl
      exact ⟨Finset.max'_mem _ hne, fun q hq => Finset.le_max' _ q hq⟩
    · rintro ⟨hp, hmax⟩
      exact le_antisymm (Finset.max'_le _ hne p hmax) (Finset.le_max' _ p hp)
  next hempty =>
    constructor
    · intro h
      cases h
    · exact fun h => absurd ⟨p, h.1⟩ hempty

variable (hperiods : ∀ a b c, a ≤ b → b ≤ c → period a = period c → period b = period c)
include hperiods

/-- Whether a later day ends a gap that is bridged can be told by the last one that was. -/
theorem passes_iff_last (hd : ∀ c ∈ S, c < d) :
    Passes period S d ↔ EndsGap S d ∧ ∀ p, lastPass period S = some p → period p ≠ period d := by
  refine and_congr_right fun _ => ?_
  constructor
  · intro h p hp hperiod
    obtain ⟨hpS, hpgap, -⟩ := Finset.mem_filter.mp (lastPass_eq_some.mp hp).1
    exact h p hpS (hd p hpS) hpgap hperiod
  · intro h e he hed hgap hperiod
    obtain ⟨c, hc, hce, hsame⟩ : ∃ c ∈ passes period S, c ≤ e ∧ period c = period e :=
      exists_pass_of_endsGap he hgap
    have hne : (passes period S).Nonempty := ⟨c, hc⟩
    have hlast : lastPass period S = some ((passes period S).max' hne) := dif_pos hne
    have hmem := Finset.max'_mem _ hne
    refine h _ hlast (hperiods c _ d (Finset.le_max' _ c hc) ?_ (hsame.trans hperiod))
    exact (hd _ (Finset.mem_filter.mp hmem).1).le

end Periods

end BridgedStreaks
