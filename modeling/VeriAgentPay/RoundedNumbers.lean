import Mathlib.Algebra.Order.Archimedean.Basic
import Mathlib.Data.Int.Log
import Mathlib.Data.Rat.Floor
import Mathlib.Tactic.FieldSimp
import Mathlib.Tactic.GCongr
import Mathlib.Tactic.Linarith

/-!
# Numbers of a fixed number of digits

Floating-point numbers of any base, as the rational numbers that they are. An operation gives the
exact result rounded to the digits of the format: to the nearest number, and of two to the one
whose last digit is even. Results that are too large for the format are not taken into account.
-/

namespace RoundedNumbers

section Integers

/-- The nearest integer, and of two the even one. -/
def roundEven (x : ℚ) : ℤ :=
  if x - ⌊x⌋ < 1 / 2 ∨ x - ⌊x⌋ = 1 / 2 ∧ Even ⌊x⌋ then ⌊x⌋ else ⌊x⌋ + 1

variable {x y : ℚ} {n : ℤ}

theorem floor_le_roundEven (x : ℚ) : ⌊x⌋ ≤ roundEven x := by
  unfold roundEven
  split_ifs
  · exact le_rfl
  · exact (lt_add_one _).le

theorem roundEven_le_floor_add_one (x : ℚ) : roundEven x ≤ ⌊x⌋ + 1 := by
  unfold roundEven
  split_ifs
  · exact (lt_add_one _).le
  · exact le_rfl

theorem abs_roundEven_sub_le (x : ℚ) : |(roundEven x : ℚ) - x| ≤ 1 / 2 := by
  have hfloor := Int.floor_le x
  have hlt := Int.lt_floor_add_one x
  rw [abs_le]
  unfold roundEven
  split_ifs with hdown
  · have hhalf : x - ⌊x⌋ ≤ 1 / 2 := by
      rcases hdown with hless | ⟨htie, -⟩
      · exact hless.le
      · exact htie.le
    constructor <;> linarith
  · have hhalf : 1 / 2 ≤ x - ⌊x⌋ := not_lt.mp (not_or.mp hdown).1
    push_cast
    constructor <;> linarith

theorem roundEven_eq_of_abs_lt (h : |x - n| < 1 / 2) : roundEven x = n := by
  have hround := abs_roundEven_sub_le x
  rw [abs_le] at hround
  rw [abs_lt] at h
  have habove : (roundEven x : ℚ) < n + 1 := by linarith
  have hbelow : (n : ℚ) < roundEven x + 1 := by linarith
  exact le_antisymm (Int.lt_add_one_iff.mp (by exact_mod_cast habove))
    (Int.lt_add_one_iff.mp (by exact_mod_cast hbelow))

@[simp] theorem roundEven_intCast (n : ℤ) : roundEven n = n :=
  roundEven_eq_of_abs_lt (by simp)

theorem roundEven_mono (h : x ≤ y) : roundEven x ≤ roundEven y := by
  rcases (Int.floor_le_floor h).lt_or_eq with hless | hsame
  · calc roundEven x ≤ ⌊x⌋ + 1 := roundEven_le_floor_add_one x
      _ ≤ ⌊y⌋ := hless
      _ ≤ roundEven y := floor_le_roundEven y
  · -- Both lie between the same integers, so that the fractions decide.
    unfold roundEven
    rw [hsame]
    split_ifs with hdown hdown' hdown'
    · exact le_rfl
    · exact (lt_add_one _).le
    · refine absurd ?_ hdown
      rcases hdown' with hless | ⟨htie, heven⟩
      · exact .inl (by linarith)
      · exact (lt_or_eq_of_le (by linarith)).imp_right fun htie' => ⟨htie', heven⟩
    · exact le_rfl

theorem roundEven_le (h : x ≤ n) : roundEven x ≤ n := by
  simpa using roundEven_mono h

theorem le_roundEven (h : (n : ℚ) ≤ x) : n ≤ roundEven x := by
  simpa using roundEven_mono h

/-- The rounding does not prefer a direction. -/
theorem roundEven_neg (x : ℚ) : roundEven (-x) = -roundEven x := by
  by_cases htie : x - ⌊x⌋ = 1 / 2
  · have hfloor : ⌊-x⌋ = -⌊x⌋ - 1 := by
      rw [Int.floor_eq_iff]
      push_cast
      constructor <;> linarith
    have htie' : -x - ⌊-x⌋ = 1 / 2 := by
      rw [hfloor]
      push_cast
      linarith
    have hparity : Even (-⌊x⌋ - 1) ↔ ¬Even ⌊x⌋ := by rw [Int.even_sub_one, even_neg]
    unfold roundEven
    rw [htie, htie', hfloor]
    by_cases heven : Even ⌊x⌋
    · rw [if_neg (by simp [hparity, heven]), if_pos (.inr ⟨rfl, heven⟩)]
      ring
    · rw [if_pos (.inr ⟨rfl, hparity.mpr heven⟩), if_neg (by simp [heven])]
      ring
  · have hround := abs_roundEven_sub_le x
    have hstrict : |(roundEven x : ℚ) - x| ≠ 1 / 2 := by
      intro hhalf
      refine htie ?_
      have hfloor := Int.floor_le x
      have hlt := Int.lt_floor_add_one x
      rcases (abs_eq (by norm_num)).mp hhalf with habove | hbelow
      · have hup : roundEven x = ⌊x⌋ + 1 := by
          refine le_antisymm (roundEven_le_floor_add_one x) (Int.add_one_le_iff.mpr ?_)
          have hcast : (⌊x⌋ : ℚ) < roundEven x := by linarith
          exact_mod_cast hcast
        rw [hup] at habove
        push_cast at habove
        linarith
      · have hdown : roundEven x = ⌊x⌋ := by
          refine le_antisymm (Int.lt_add_one_iff.mp ?_) (floor_le_roundEven x)
          have hcast : (roundEven x : ℚ) < ⌊x⌋ + 1 := by linarith
          exact_mod_cast hcast
        rw [hdown] at hbelow
        linarith
    refine roundEven_eq_of_abs_lt ?_
    have hcast : -x - ((-roundEven x : ℤ) : ℚ) = roundEven x - x := by
      push_cast
      ring
    rw [hcast]
    exact lt_of_le_of_ne hround hstrict

end Integers

section Formats

/-- The base, the number of digits, and the place of the last digit that there can be. -/
structure Format where
  base : ℕ
  digits : ℕ
  least : ℤ
  one_lt_base : 1 < base
  digits_pos : 0 < digits

namespace Format

variable (F : Format)

/-- The place of the last digit of a number. -/
def place (x : ℚ) : ℤ := max (Int.log F.base |x| + 1 - F.digits) F.least

def unit (x : ℚ) : ℚ := (F.base : ℚ) ^ F.place x

def round (x : ℚ) : ℚ := roundEven (x / F.unit x) * F.unit x

variable {F} {x y : ℚ}

theorem base_pos : (0 : ℚ) < F.base := by exact_mod_cast F.one_lt_base.le

theorem one_lt_base' : (1 : ℚ) < F.base := by exact_mod_cast F.one_lt_base

theorem unit_pos (x : ℚ) : 0 < F.unit x := zpow_pos base_pos _

@[simp] theorem place_neg (x : ℚ) : F.place (-x) = F.place x := by rw [place, place, abs_neg]

@[simp] theorem unit_neg (x : ℚ) : F.unit (-x) = F.unit x := by rw [unit, unit, place_neg]

theorem round_neg (x : ℚ) : F.round (-x) = -F.round x := by
  rw [round, round, unit_neg, neg_div, roundEven_neg]
  push_cast
  ring

@[simp] theorem round_zero : F.round 0 = 0 := by
  have hzero : roundEven 0 = 0 := roundEven_intCast 0
  rw [round, zero_div, hzero]
  simp

/-- A power from the last place on is a whole number of units. -/
theorem power_eq {k : ℤ} (hk : F.place x ≤ k) : ∃ m : ℤ, (F.base : ℚ) ^ k = m * F.unit x := by
  obtain ⟨j, hj⟩ := Int.eq_ofNat_of_zero_le (sub_nonneg.mpr hk)
  refine ⟨(F.base : ℤ) ^ j, ?_⟩
  have hsum : k = j + F.place x := by omega
  rw [unit, hsum, zpow_add₀ base_pos.ne', zpow_natCast]
  push_cast
  rfl

theorem round_le_of_le {k n : ℤ} (hk : F.place x ≤ k) (h : x ≤ n * (F.base : ℚ) ^ k) :
    F.round x ≤ n * (F.base : ℚ) ^ k := by
  obtain ⟨m, hm⟩ := power_eq hk
  rw [hm, ← mul_assoc] at h ⊢
  refine mul_le_mul_of_nonneg_right ?_ (unit_pos x).le
  have hround : roundEven (x / F.unit x) ≤ n * m :=
    roundEven_le (by push_cast; exact (div_le_iff₀ (unit_pos x)).mpr h)
  exact_mod_cast hround

theorem le_round_of_le {k n : ℤ} (hk : F.place x ≤ k) (h : n * (F.base : ℚ) ^ k ≤ x) :
    n * (F.base : ℚ) ^ k ≤ F.round x := by
  obtain ⟨m, hm⟩ := power_eq hk
  rw [hm, ← mul_assoc] at h ⊢
  refine mul_le_mul_of_nonneg_right ?_ (unit_pos x).le
  have hround : n * m ≤ roundEven (x / F.unit x) :=
    le_roundEven (by push_cast; exact (le_div_iff₀ (unit_pos x)).mpr h)
  exact_mod_cast hround

theorem round_nonneg (h : 0 ≤ x) : 0 ≤ F.round x := by
  simpa using le_round_of_le (n := 0) (le_refl (F.place x)) (by simpa using h)

theorem place_mono (hpos : 0 < |x|) (h : |x| ≤ |y|) : F.place x ≤ F.place y := by
  have hlog := Int.log_mono_right (b := F.base) hpos h
  unfold place
  omega

/-- Where the places differ a power lies between the two numbers. -/
theorem exists_power_between (hx : 0 < x) (h : x ≤ y) (hplace : F.place x < F.place y) :
    ∃ k : ℤ, F.place x ≤ k ∧ F.place y ≤ k ∧ x ≤ (F.base : ℚ) ^ k ∧ (F.base : ℚ) ^ k ≤ y := by
  have hy : 0 < y := hx.trans_le h
  have hdigits := F.digits_pos
  have habove : F.place y = Int.log F.base |y| + 1 - F.digits := by
    have hleast : F.least ≤ F.place x := le_max_right _ _
    have hy' : F.place y = max _ _ := rfl
    omega
  have hless : Int.log F.base |x| < Int.log F.base |y| := by
    have hx' : Int.log F.base |x| + 1 - F.digits ≤ F.place x := le_max_left _ _
    omega
  rw [abs_of_pos hx, abs_of_pos hy] at hless
  rw [abs_of_pos hy] at habove
  refine ⟨Int.log F.base y, by omega, by omega, ?_, Int.zpow_log_le_self F.one_lt_base hy⟩
  exact ((Int.lt_zpow_iff_log_lt F.one_lt_base hx).mpr hless).le

theorem round_mono_of_pos (hx : 0 < x) (h : x ≤ y) : F.round x ≤ F.round y := by
  have hy : 0 < y := hx.trans_le h
  have hle : F.place x ≤ F.place y :=
    place_mono (abs_pos.mpr hx.ne') (by rwa [abs_of_pos hx, abs_of_pos hy])
  rcases hle.lt_or_eq with hless | hsame
  · obtain ⟨k, hk, hk', hpower, hpower'⟩ := exists_power_between hx h hless
    have hdown := round_le_of_le (n := 1) hk (by simpa using hpower)
    have hup := le_round_of_le (n := 1) hk' (by simpa using hpower')
    exact hdown.trans hup
  · have hunit : F.unit x = F.unit y := by rw [unit, unit, hsame]
    unfold round
    rw [hunit]
    refine mul_le_mul_of_nonneg_right ?_ (unit_pos y).le
    have hround : roundEven (x / F.unit y) ≤ roundEven (y / F.unit y) :=
      roundEven_mono (div_le_div_of_nonneg_right h (unit_pos y).le)
    exact_mod_cast hround

/-- Rounding keeps the order. -/
theorem round_mono (h : x ≤ y) : F.round x ≤ F.round y := by
  rcases lt_trichotomy 0 x with hx | rfl | hx
  · exact round_mono_of_pos hx h
  · rw [round_zero]
    exact round_nonneg h
  · rcases le_or_gt 0 y with hy | hy
    · have hneg : 0 ≤ F.round (-x) := round_nonneg (by linarith)
      rw [round_neg] at hneg
      exact (neg_nonneg.mp hneg).trans (round_nonneg hy)
    · have hneg : F.round (-y) ≤ F.round (-x) := round_mono_of_pos (by linarith) (by linarith)
      rw [round_neg, round_neg] at hneg
      exact neg_le_neg_iff.mp hneg

theorem abs_round_sub_le (x : ℚ) : |F.round x - x| ≤ F.unit x / 2 := by
  have hunit := unit_pos (F := F) x
  have hsub : F.round x - x = (roundEven (x / F.unit x) - x / F.unit x) * F.unit x := by
    rw [round]
    field_simp
  rw [hsub, abs_mul, abs_of_pos hunit]
  have hround := abs_roundEven_sub_le (x / F.unit x)
  nlinarith

/-- A number with all its digits is rounded by no more than half of the last one. -/
theorem abs_round_sub_le_mul (h : F.least ≤ Int.log F.base |x| + 1 - F.digits) (hx : x ≠ 0) :
    |F.round x - x| ≤ |x| * ((F.base : ℚ) / (F.base : ℚ) ^ F.digits) / 2 := by
  have hlog := Int.zpow_log_le_self F.one_lt_base (abs_pos.mpr hx)
  have hunit : F.unit x = (F.base : ℚ) ^ Int.log F.base |x| *
      (F.base / (F.base : ℚ) ^ F.digits) := by
    rw [unit, place, max_eq_left h, zpow_sub₀ base_pos.ne', zpow_add₀ base_pos.ne', zpow_one,
      zpow_natCast]
    ring
  have hscale : 0 ≤ (F.base : ℚ) / (F.base : ℚ) ^ F.digits := by
    have hbase := base_pos (F := F)
    positivity
  calc |F.round x - x| ≤ F.unit x / 2 := abs_round_sub_le x
    _ ≤ _ := by
      rw [hunit]
      have hmul := mul_le_mul_of_nonneg_right hlog hscale
      linarith

/-- A unit is more than the number without its digits. -/
theorem abs_lt_unit_mul (x : ℚ) : |x| < F.unit x * (F.base : ℚ) ^ F.digits := by
  refine (Int.lt_zpow_succ_log_self F.one_lt_base |x|).trans_le ?_
  rw [unit, ← zpow_natCast, ← zpow_add₀ base_pos.ne']
  refine zpow_le_zpow_right₀ one_lt_base'.le ?_
  unfold place
  omega

/-- A number that has the digits, and what is closer to it than half of the digit after the last
one, is rounded to it. -/
theorem round_eq_of_close {n e : ℤ} (hn : |(n : ℚ)| < (F.base : ℚ) ^ F.digits) (he : F.least ≤ e)
    (h : |x - n * (F.base : ℚ) ^ e| * (2 * (F.base : ℚ) ^ F.digits) ≤ |x|) :
    F.round x = n * (F.base : ℚ) ^ e := by
  have hbase := base_pos (F := F)
  have hpower : (0 : ℚ) < (F.base : ℚ) ^ F.digits := pow_pos hbase _
  have hscale : (0 : ℚ) < (F.base : ℚ) ^ e := zpow_pos hbase _
  by_cases hzero : x = 0
  · subst hzero
    have hsmall : |0 - n * (F.base : ℚ) ^ e| = 0 := by
      refine le_antisymm ?_ (abs_nonneg _)
      rw [abs_zero] at h
      by_contra hpos
      have hprod := mul_pos (not_le.mp hpos) (by positivity : (0 : ℚ) < 2 * (F.base : ℚ) ^ F.digits)
      linarith
    rw [round_zero]
    rw [abs_eq_zero] at hsmall
    linarith
  · have hx := abs_pos.mpr hzero
    have hclose : |x - n * (F.base : ℚ) ^ e| ≤ |x| / (2 * (F.base : ℚ) ^ F.digits) :=
      (le_div_iff₀ (by positivity)).mpr h
    -- The last place of the number is not after that of the other.
    have hbound : |x| < (F.base : ℚ) ^ (e + F.digits) := by
      rw [zpow_add₀ hbase.ne', zpow_natCast]
      have hwhole : |(n : ℚ)| ≤ (F.base : ℚ) ^ F.digits - 1 := by
        have hint : |n| + 1 ≤ (F.base : ℤ) ^ F.digits := by
          have hlt : |n| < (F.base : ℤ) ^ F.digits := by exact_mod_cast hn
          omega
        have hcast : (|n| : ℚ) + 1 ≤ (F.base : ℚ) ^ F.digits := by exact_mod_cast hint
        linarith
      have htriangle : |x| ≤ |n * (F.base : ℚ) ^ e| + |x - n * (F.base : ℚ) ^ e| := by
        have hsplit := abs_add_le (n * (F.base : ℚ) ^ e) (x - n * (F.base : ℚ) ^ e)
        rwa [add_sub_cancel] at hsplit
      rw [abs_mul, abs_of_pos hscale] at htriangle
      have hmul := mul_le_mul_of_nonneg_right hwhole hscale.le
      have hless : |x| * (1 - 1 / (2 * (F.base : ℚ) ^ F.digits)) ≤
          ((F.base : ℚ) ^ F.digits - 1) * (F.base : ℚ) ^ e := by
        have hdiv : |x| / (2 * (F.base : ℚ) ^ F.digits) = |x| *
            (1 / (2 * (F.base : ℚ) ^ F.digits)) := by
          ring
        rw [hdiv] at hclose
        linarith
      by_contra hlarge
      rw [not_lt] at hlarge
      have hone : (1 : ℚ) ≤ (F.base : ℚ) ^ F.digits := one_le_pow₀ one_lt_base'.le
      have hfraction : 0 < 1 - 1 / (2 * (F.base : ℚ) ^ F.digits) := by
        rw [sub_pos, div_lt_one (by positivity)]
        linarith
      have hgrow := mul_le_mul_of_nonneg_right hlarge hfraction.le
      have hexpand : (F.base : ℚ) ^ e * (F.base : ℚ) ^ F.digits *
          (1 - 1 / (2 * (F.base : ℚ) ^ F.digits)) =
          ((F.base : ℚ) ^ F.digits - 1 / 2) * (F.base : ℚ) ^ e := by
        field_simp
      rw [hexpand] at hgrow
      nlinarith
    have hlog : Int.log F.base |x| < e + F.digits :=
      (Int.lt_zpow_iff_log_lt F.one_lt_base hx).mp hbound
    have hplace : F.place x ≤ e := by
      unfold place
      omega
    obtain ⟨m, hm⟩ := power_eq hplace
    have hunit : |x| < F.unit x * (F.base : ℚ) ^ F.digits := abs_lt_unit_mul x
    have hpos := unit_pos (F := F) x
    have hround : roundEven (x / F.unit x) = n * m := by
      apply roundEven_eq_of_abs_lt
      have hsub : x / F.unit x - ((n * m : ℤ) : ℚ) = (x - n * (F.base : ℚ) ^ e) / F.unit x := by
        rw [hm]
        push_cast
        field_simp
      rw [hsub, abs_div, abs_of_pos hpos, div_lt_iff₀ hpos]
      refine hclose.trans_lt ?_
      rw [div_lt_iff₀ (by positivity)]
      linarith
    rw [round, hround, hm]
    push_cast
    ring

/-- A number that is kept has the digits. -/
theorem exists_of_round_eq (h : F.round x = x) :
    ∃ n e : ℤ, |(n : ℚ)| < (F.base : ℚ) ^ F.digits ∧ F.least ≤ e ∧ x = n * (F.base : ℚ) ^ e := by
  refine ⟨roundEven (x / F.unit x), F.place x, ?_, le_max_right _ _, h.symm⟩
  have hbase := base_pos (F := F)
  have hpos := unit_pos (F := F) x
  have hround : (roundEven (x / F.unit x) : ℚ) = x / F.unit x := by
    rw [eq_div_iff hpos.ne']
    exact h
  rw [hround, abs_div, abs_of_pos hpos, div_lt_iff₀ hpos, mul_comm]
  exact abs_lt_unit_mul x

theorem round_round_of_close (hy : F.round y = y)
    (h : |x - y| * (2 * (F.base : ℚ) ^ F.digits) ≤ |x|) : F.round x = y := by
  obtain ⟨n, e, hn, he, rfl⟩ := exists_of_round_eq hy
  exact round_eq_of_close hn he h

/-- What an operation gives has the digits. -/
theorem round_round (x : ℚ) : F.round (F.round x) = F.round x := by
  have hbase := base_pos (F := F)
  have hpos := unit_pos (F := F) x
  have hwhole : |(roundEven (x / F.unit x) : ℚ)| ≤ (F.base : ℚ) ^ F.digits := by
    have hbound : |x / F.unit x| ≤ (F.base : ℚ) ^ F.digits := by
      rw [abs_div, abs_of_pos hpos, div_le_iff₀ hpos, mul_comm]
      exact (abs_lt_unit_mul x).le
    obtain ⟨hbelow, habove⟩ := abs_le.mp hbound
    have hup : roundEven (x / F.unit x) ≤ (F.base : ℤ) ^ F.digits :=
      roundEven_le (by exact_mod_cast habove)
    have hdown : -(F.base : ℤ) ^ F.digits ≤ roundEven (x / F.unit x) :=
      le_roundEven (by push_cast; linarith)
    rw [abs_le]
    exact ⟨by exact_mod_cast hdown, by exact_mod_cast hup⟩
  obtain ⟨n, e, hn, he, hsame⟩ : ∃ n e : ℤ, |(n : ℚ)| < (F.base : ℚ) ^ F.digits ∧ F.least ≤ e ∧
      F.round x = n * (F.base : ℚ) ^ e := by
    rcases hwhole.lt_or_eq with hless | hcarry
    · exact ⟨_, F.place x, hless, le_max_right _ _, rfl⟩
    -- All digits have run over, and the next place takes them.
    have hsplit : (F.base : ℚ) ^ F.digits = (F.base : ℚ) ^ (F.digits - 1) * F.base := by
      rw [← pow_succ, Nat.sub_add_cancel F.digits_pos]
    have hfewer : (F.base : ℚ) ^ (F.digits - 1) < (F.base : ℚ) ^ F.digits :=
      pow_lt_pow_right₀ one_lt_base' (Nat.sub_lt F.digits_pos Nat.one_pos)
    have hunit : F.unit x * F.base = (F.base : ℚ) ^ (F.place x + 1) := by
      rw [unit, zpow_add_one₀ hbase.ne']
    have hleast : F.least ≤ F.place x + 1 := by
      have hplace : F.least ≤ F.place x := le_max_right _ _
      omega
    have hsize : |((F.base : ℤ) ^ (F.digits - 1) : ℤ)| = (F.base : ℤ) ^ (F.digits - 1) := by
      rw [abs_of_nonneg]
      positivity
    rcases (abs_eq (by positivity)).mp hcarry with hplus | hminus
    · refine ⟨(F.base : ℤ) ^ (F.digits - 1), F.place x + 1, ?_, hleast, ?_⟩
      · push_cast
        rwa [abs_of_pos (by positivity)]
      · rw [round, hplus, hsplit, ← hunit]
        push_cast
        ring
    · refine ⟨-(F.base : ℤ) ^ (F.digits - 1), F.place x + 1, ?_, hleast, ?_⟩
      · push_cast
        rwa [abs_neg, abs_of_pos (by positivity)]
      · rw [round, hminus, hsplit, ← hunit]
        push_cast
        ring
  rw [hsame]
  refine round_eq_of_close hn he ?_
  rw [sub_self, abs_zero, zero_mul]
  exact abs_nonneg _

end Format

end Formats

section Doubles

/-- The doubles, but for those that are too large. -/
def binary64 : Format := ⟨2, 53, -1074, by decide, by decide⟩

/-- The double that is nearest to a number. -/
def double (x : ℚ) : ℚ := binary64.round x

/-- `Math.round`. -/
def mathRound (x : ℚ) : ℤ := ⌊x + 1 / 2⌋

/-- The decimal numbers of one digit and so many more. -/
def decimal (n : ℕ) : Format := ⟨10, n + 1, -400, by decide, n.succ_pos⟩

/-- The numbers of so many digits that are next to another, the nearest first. -/
def nextDecimals (n : ℕ) (x : ℚ) : List ℚ :=
  let u := (decimal n).unit x
  [(decimal n).round x, ⌊x / u⌋ * u, ⌈x / u⌉ * u]

/-- The decimal number that a double is written as: of those that are read as it one with the fewest
digits, and of these the nearest. -/
def written (x : ℚ) : ℚ :=
  (((List.range 17).flatMap (nextDecimals · x)).find? (double · = x)).getD x

example : double (double (1 / 10) + double (2 / 10)) ≠ double (3 / 10) := by decide +kernel
example : written (double (1 / 10)) = 1 / 10 := by decide +kernel

variable {x y : ℚ}

@[simp] theorem double_zero : double 0 = 0 := Format.round_zero

theorem double_mono (h : x ≤ y) : double x ≤ double y := Format.round_mono h

theorem double_nonneg (h : 0 ≤ x) : 0 ≤ double x := Format.round_nonneg h

@[simp] theorem double_double (x : ℚ) : double (double x) = double x := Format.round_round x

/-- What is written of a double is read as it. -/
theorem double_written {x : ℚ} (hx : double x = x) : double (written x) = x := by
  unfold written
  cases hfound : ((List.range 17).flatMap (nextDecimals · x)).find? (double · = x) with
  | none => exact hx
  | some s =>
    have hread := List.find?_some hfound
    exact of_decide_eq_true hread

@[simp] theorem written_zero : written 0 = 0 := by decide +kernel

theorem abs_double_sub_le {x : ℚ} (hx : (2 : ℚ) ^ (-1022 : ℤ) ≤ |x|) :
    |double x - x| ≤ |x| / 2 ^ 53 := by
  have hzero : x ≠ 0 := by
    rintro rfl
    rw [abs_zero] at hx
    exact absurd hx (not_le.mpr (zpow_pos (by norm_num) _))
  have hlog : (-1022 : ℤ) ≤ Int.log 2 |x| :=
    (Int.zpow_le_iff_le_log (by decide) (abs_pos.mpr hzero)).mp (by exact_mod_cast hx)
  have hbound := Format.abs_round_sub_le_mul (F := binary64) (x := x)
    (by simp only [binary64]; omega) hzero
  refine hbound.trans (le_of_eq ?_)
  norm_num [binary64]
  ring

theorem double_power {k : ℤ} (hk : -1074 ≤ k) : double ((2 : ℚ) ^ k) = (2 : ℚ) ^ k := by
  have hone : |((1 : ℤ) : ℚ)| < (binary64.base : ℚ) ^ binary64.digits := by norm_num [binary64]
  have hsame : ((1 : ℤ) : ℚ) * (binary64.base : ℚ) ^ k = 2 ^ k := by norm_num [binary64]
  have hclose : double ((2 : ℚ) ^ k) = (1 : ℤ) * (binary64.base : ℚ) ^ k := by
    refine Format.round_eq_of_close hone hk ?_
    rw [hsame, sub_self, abs_zero, zero_mul]
    exact abs_nonneg _
  rw [hclose, hsame]

/-- Two numbers of which none is too small, and their sum with a few digits: adding the doubles and
writing the sum with these digits gives the sum. -/
theorem decimal_add {x y : ℚ} {n : ℕ} (hn : n ≤ 13) (hx : x = 0 ∨ (2 : ℚ) ^ (-1022 : ℤ) ≤ x)
    (hy : y = 0 ∨ (2 : ℚ) ^ (-1022 : ℤ) ≤ y) (hsum : (decimal n).round (x + y) = x + y) :
    (decimal n).round (double (double x + double y)) = x + y := by
  have hnear : ∀ z : ℚ, z = 0 ∨ (2 : ℚ) ^ (-1022 : ℤ) ≤ z → 0 ≤ z ∧ |double z -
      z| ≤ z / 2 ^ 53 := by
    rintro z (rfl | hz)
    · simp
    · have hpos : 0 ≤ z := (zpow_pos (by norm_num) _).le.trans hz
      have hbound := abs_double_sub_le (x := z) (by rwa [abs_of_nonneg hpos])
      rw [abs_of_nonneg hpos] at hbound
      exact ⟨hpos, hbound⟩
  obtain ⟨hx0, hxnear⟩ := hnear x hx
  obtain ⟨hy0, hynear⟩ := hnear y hy
  rcases eq_or_lt_of_le (add_nonneg hx0 hy0) with hzero | hpos
  · obtain ⟨rfl, rfl⟩ := (add_eq_zero_iff_of_nonneg hx0 hy0).mp hzero.symm
    simp
  have hlarge : ∀ z : ℚ, (2 : ℚ) ^ (-1022 : ℤ) ≤ z → (2 : ℚ) ^ (-1022 : ℤ) ≤ double z := by
    intro z hz
    rw [← double_power (k := -1022) (by decide)]
    exact double_mono hz
  have hsize : double x + double y = 0 ∨ (2 : ℚ) ^ (-1022 : ℤ) ≤ double x + double y := by
    rcases hx with rfl | hx
    · rw [double_zero, zero_add]
      exact hy.imp (fun hy => by rw [hy, double_zero]) (hlarge y)
    · exact .inr ((hlarge x hx).trans (le_add_of_nonneg_right (double_nonneg hy0)))
  obtain ⟨-, hdnear⟩ := hnear _ hsize
  rw [abs_le] at hxnear hynear hdnear
  have hdouble : 0 ≤ double (double x + double y) :=
    double_nonneg (add_nonneg (double_nonneg hx0) (double_nonneg hy0))
  refine Format.round_round_of_close hsum ?_
  rw [abs_of_nonneg hdouble]
  have hten : (2 * ((decimal n).base : ℚ) ^ (decimal n).digits) ≤ 2 * 10 ^ 14 := by
    have hpow : (10 : ℚ) ^ (n + 1) ≤ 10 ^ 14 := pow_le_pow_right₀ (by norm_num) (by omega)
    simpa [decimal] using hpow
  have hdiff : |double (double x + double y) - (x + y)| ≤ (x + y) / 2 ^ 51 := by
    rw [abs_le]
    constructor <;> linarith
  calc |double (double x + double y) - (x + y)| * (2 * ((decimal n).base : ℚ) ^ (decimal n).digits)
      ≤ (x + y) / 2 ^ 51 * (2 * 10 ^ 14) := mul_le_mul hdiff hten (by positivity) (by positivity)
    _ ≤ double (double x + double y) := by
      rw [abs_le] at hdiff
      linarith

/-- A number is read back from its double with these digits. -/
theorem decimal_double {x : ℚ} {n : ℕ} (hn : n ≤ 13) (hx : x = 0 ∨ (2 : ℚ) ^ (-1022 : ℤ) ≤ x)
    (hdigits : (decimal n).round x = x) : (decimal n).round (double x) = x := by
  have hadd := decimal_add hn hx (.inl rfl) (y := 0) (by simpa using hdigits)
  simpa using hadd

/-- A comparison of doubles decides that of numbers with a few digits. -/
theorem le_of_double_add_le {x y z : ℚ} {n : ℕ} (hn : n ≤ 13)
    (hx : x = 0 ∨ (2 : ℚ) ^ (-1022 : ℤ) ≤ x) (hy : y = 0 ∨ (2 : ℚ) ^ (-1022 : ℤ) ≤ y)
    (hz : z = 0 ∨ (2 : ℚ) ^ (-1022 : ℤ) ≤ z) (hsum : (decimal n).round (x + y) = x + y)
    (hdigits : (decimal n).round z = z) (hle : double (double x + double y) ≤ double z) :
    x + y ≤ z := by
  rw [← decimal_add hn hx hy hsum, ← decimal_double hn hz hdigits]
  exact Format.round_mono hle

theorem mathRound_mono (h : x ≤ y) : mathRound x ≤ mathRound y := Int.floor_le_floor (by linarith)

end Doubles

end RoundedNumbers
