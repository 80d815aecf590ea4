import Mathlib.Data.List.Basic
import Mathlib.Data.Nat.Digits.Defs
import Mathlib.Data.Vector.Basic
import Mathlib.Tactic.Ring

/-!
# Checked and saturating machine arithmetic, and little-endian encodings

Unsigned results are read through `toNat` and signed ones through `toInt`, so that
every later argument about amounts, nonces and times is linear arithmetic.
-/

namespace FixedWidth

abbrev Bytes := List UInt8

/-- A byte array whose length is part of its type. -/
abbrev FixedBytes (n : ℕ) := List.Vector UInt8 n

/-- `u64::checked_add`. -/
def checkedAdd (a b : UInt64) : Option UInt64 :=
  if a.toNat + b.toNat < 2 ^ 64 then some (a + b) else none

/-- `u64::checked_sub`. -/
def checkedSub (a b : UInt64) : Option UInt64 :=
  if b ≤ a then some (a - b) else none

/-- `u64::saturating_sub`. -/
def saturatingSubU64 (a b : UInt64) : UInt64 := if b ≤ a then a - b else 0

theorem toNat_checkedAdd {a b c : UInt64} (h : checkedAdd a b = some c) :
    c.toNat = a.toNat + b.toNat := by
  unfold checkedAdd at h
  split at h
  · obtain rfl := Option.some.inj h
    rw [UInt64.toNat_add]
    omega
  · contradiction

theorem toNat_checkedSub {a b c : UInt64} (h : checkedSub a b = some c) :
    a.toNat = c.toNat + b.toNat := by
  unfold checkedSub at h
  split at h
  · rename_i hle
    obtain rfl := Option.some.inj h
    rw [UInt64.toNat_sub_of_le _ _ hle]
    have := UInt64.le_iff_toNat_le.mp hle
    omega
  · contradiction

theorem checkedSub_eq_some {a b c : UInt64} :
    checkedSub a b = some c ↔ a.toNat = c.toNat + b.toNat := by
  constructor
  · exact toNat_checkedSub
  · intro h
    have hle : b ≤ a := UInt64.le_iff_toNat_le.mpr (by omega)
    rw [checkedSub, if_pos hle, Option.some.injEq, ← UInt64.toNat_inj,
      UInt64.toNat_sub_of_le _ _ hle]
    omega

theorem toNat_saturatingSubU64 (a b : UInt64) :
    (saturatingSubU64 a b).toNat = a.toNat - b.toNat := by
  unfold saturatingSubU64
  split
  · rename_i hle
    exact UInt64.toNat_sub_of_le _ _ hle
  · rename_i hle
    rw [UInt64.le_iff_toNat_le] at hle
    simp
    omega

/-- The nearest `i64` to an exact result. -/
def saturate (x : ℤ) : Int64 := Int64.ofInt (max (-2 ^ 63) (min (2 ^ 63 - 1) x))

/-- `i64::saturating_add`. -/
def saturatingAdd (a b : Int64) : Int64 := saturate (a.toInt + b.toInt)

/-- `i64::saturating_sub`. -/
def saturatingSub (a b : Int64) : Int64 := saturate (a.toInt - b.toInt)

theorem toInt_saturate (x : ℤ) : (saturate x).toInt = max (-2 ^ 63) (min (2 ^ 63 - 1) x) :=
  Int64.toInt_ofInt_of_le (by omega) (by omega)

theorem toInt_saturatingSub (a b : Int64) :
    (saturatingSub a b).toInt = max (-2 ^ 63) (min (2 ^ 63 - 1) (a.toInt - b.toInt)) :=
  toInt_saturate _

/-- A saturated difference below the top of the range is the exact difference, from above. -/
theorem sub_le_of_saturatingSub_le {a b c : Int64} (h : saturatingSub a b ≤ c)
    (hc : c.toInt < 2 ^ 63 - 1) :
    a.toInt - b.toInt ≤ c.toInt := by
  rw [Int64.le_iff_toInt_le, toInt_saturatingSub] at h
  omega

/-- The low `width` bytes of a number, least significant first. -/
def leBytes : ℕ → ℕ → Bytes
  | 0, _ => []
  | width + 1, value => UInt8.ofNat value :: leBytes width (value / 256)

@[simp] theorem length_leBytes (width value : ℕ) : (leBytes width value).length = width := by
  induction width generalizing value with
  | zero => rfl
  | succ width ih => simp [leBytes, ih]

theorem leBytes_eq_iff {width v w : ℕ} :
    leBytes width v = leBytes width w ↔ v % 256 ^ width = w % 256 ^ width := by
  induction width generalizing v w with
  | zero => simp [leBytes, Nat.mod_one]
  | succ width ih =>
    rw [leBytes, leBytes, List.cons.injEq, ih, ← UInt8.toNat_inj, UInt8.toNat_ofNat',
      UInt8.toNat_ofNat',
      pow_succ' 256 width, Nat.mod_mul, Nat.mod_mul]
    constructor
    · rintro ⟨hlow, hhigh⟩
      omega
    · intro h
      have hv : v % 256 < 256 := Nat.mod_lt _ (by decide)
      have hw : w % 256 < 256 := Nat.mod_lt _ (by decide)
      omega

/-- The number that the low bytes denote. -/
theorem ofDigits_leBytes (width value : ℕ) :
    Nat.ofDigits 256 ((leBytes width value).map UInt8.toNat) = value % 256 ^ width := by
  induction width generalizing value with
  | zero => simp [leBytes, Nat.mod_one]
  | succ width ih =>
    rw [leBytes, List.map_cons, Nat.ofDigits_cons, ih, UInt8.toNat_ofNat', pow_succ' 256 width,
      Nat.mod_mul]

/-- `u16::to_le_bytes`. -/
def u16ToLeBytes (x : UInt16) : Bytes := leBytes 2 x.toNat

/-- `u64::to_le_bytes`. -/
def u64ToLeBytes (x : UInt64) : Bytes := leBytes 8 x.toNat

/-- `i64::to_le_bytes`, the bytes of the two's complement. -/
def i64ToLeBytes (x : Int64) : Bytes := leBytes 8 x.toUInt64.toNat

@[simp] theorem length_u16ToLeBytes (x : UInt16) : (u16ToLeBytes x).length = 2 := length_leBytes _ _

@[simp] theorem length_u64ToLeBytes (x : UInt64) : (u64ToLeBytes x).length = 8 := length_leBytes _ _

@[simp] theorem length_i64ToLeBytes (x : Int64) : (i64ToLeBytes x).length = 8 := length_leBytes _ _

theorem u16ToLeBytes_injective : Function.Injective u16ToLeBytes := by
  intro x y h
  have hx := x.toNat_lt
  have hy := y.toNat_lt
  have := leBytes_eq_iff.mp h
  exact UInt16.toNat_inj.mp (by omega)

theorem u64ToLeBytes_injective : Function.Injective u64ToLeBytes := by
  intro x y h
  have hx := x.toNat_lt
  have hy := y.toNat_lt
  have := leBytes_eq_iff.mp h
  exact UInt64.toNat_inj.mp (by omega)

theorem i64ToLeBytes_injective : Function.Injective i64ToLeBytes := by
  intro x y h
  have hbits : x.toUInt64 = y.toUInt64 := u64ToLeBytes_injective h
  cases x
  cases y
  exact congrArg _ hbits

end FixedWidth
