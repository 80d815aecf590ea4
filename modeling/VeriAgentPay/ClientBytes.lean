import Mathlib.Data.Rat.Defs
import VeriAgentPay.FixedWidthArithmetic

/-!
# Byte strings of the client library

The helpers of `bytes.ts`, on big integers and on numbers. A `DataView` setter stores the
low bytes of whatever value it is given; the range checks in front of it are what makes the
bytes those of a machine integer.
-/

namespace VeriAgentPay.Client
open FixedWidth

/-- A number of the script's language. Zero and negative zero are one value here, as they are
for every operation used. -/
inductive JsNumber where
  | notANumber
  | infinite (negative : Bool)
  | finite (value : ℚ)
  deriving DecidableEq

def utf8 (value : String) : Bytes := value.toUTF8.toList

/-- `result.set(value, offset)`. -/
def setAt (result value : Bytes) (offset : ℕ) : Bytes :=
  result.take offset ++ value ++ result.drop (offset + value.length)

def concatBytes (values : List Bytes) : Bytes :=
  let length := values.foldl (fun total value => total + value.length) 0
  (values.foldl (fun (result, offset) value => (setAt result value offset, offset + value.length))
    (List.replicate length 0, 0)).1

/-- `DataView.setUint16`, `setBigUint64` and `setBigInt64` at offset 0, little-endian. -/
def dataViewLe (width : ℕ) (value : ℤ) : Bytes := leBytes width (value % 256 ^ width).toNat

def u64Le (value : ℤ) : Except String Bytes :=
  if value < 0 ∨ value > 0xffff_ffff_ffff_ffff then .error "Value is outside the u64 range"
  else .ok (dataViewLe 8 value)

def i64Le (value : ℤ) : Except String Bytes :=
  if value < -0x8000_0000_0000_0000 ∨ value > 0x7fff_ffff_ffff_ffff then
    .error "Value is outside the i64 range"
  else .ok (dataViewLe 8 value)

/-- `u16Le` of `challenge.ts`. -/
def u16Le : JsNumber → Except String Bytes
  | .finite value =>
    if value.isInt = false ∨ value < 0 ∨ value > 0xffff then .error "Value is outside the u16 range"
    else .ok (dataViewLe 2 value.num)
  | _ => .error "Value is outside the u16 range"

/-! The values of the script that machine integers and fixed arrays denote. -/

def FitsU64 (value : ℤ) : Prop := 0 ≤ value ∧ value < 2 ^ 64

def FitsI64 (value : ℤ) : Prop := -2 ^ 63 ≤ value ∧ value < 2 ^ 63

def FitsU16 : JsNumber → Prop
  | .finite value => value.isInt ∧ 0 ≤ value ∧ value < 2 ^ 16
  | _ => False

instance (value : ℤ) : Decidable (FitsU64 value) := inferInstanceAs (Decidable (_ ∧ _))

instance (value : ℤ) : Decidable (FitsI64 value) := inferInstanceAs (Decidable (_ ∧ _))

def toU64 (value : ℤ) : Option UInt64 :=
  if FitsU64 value then some (UInt64.ofNat value.toNat) else none

def toI64 (value : ℤ) : Option Int64 := if FitsI64 value then some (Int64.ofInt value) else none

def toU16 : JsNumber → Option UInt16
  | .finite value =>
    if value.isInt ∧ 0 ≤ value ∧ value < 2 ^ 16 then some (UInt16.ofNat value.num.toNat) else none
  | _ => none

def toFixed (n : ℕ) (value : Bytes) : Option (FixedBytes n) :=
  if h : value.length = n then some ⟨value, h⟩ else none

theorem isSome_toU64 {value : ℤ} : (toU64 value).isSome ↔ FitsU64 value := by
  simp [toU64]

theorem isSome_toI64 {value : ℤ} : (toI64 value).isSome ↔ FitsI64 value := by
  simp [toI64]

theorem isSome_toU16 {value : JsNumber} : (toU16 value).isSome ↔ FitsU16 value := by
  cases value <;> simp [toU16, FitsU16]

theorem isSome_toFixed {n : ℕ} {value : Bytes} : (toFixed n value).isSome ↔ value.length = n := by
  unfold toFixed
  split
  · exact iff_of_true rfl ‹_›
  · exact iff_of_false Bool.false_ne_true ‹_›

@[simp] theorem toU64_toNat (x : UInt64) : toU64 x.toNat = some x := by
  rw [toU64, if_pos ⟨by omega, by exact_mod_cast x.toNat_lt⟩]
  simp

@[simp] theorem toI64_toInt (x : Int64) : toI64 x.toInt = some x := by
  rw [toI64, if_pos ⟨x.le_toInt, x.toInt_lt⟩]
  simp

theorem toI64_eq_some {value : ℤ} {x : Int64} : toI64 value = some x ↔ x.toInt = value := by
  constructor
  · intro h
    unfold toI64 at h
    split at h
    · rename_i hfits
      obtain rfl := Option.some.inj h
      exact Int64.toInt_ofInt_of_le hfits.1 hfits.2
    · cases h
  · rintro rfl
    exact toI64_toInt x

@[simp] theorem toU16_toNat (x : UInt16) : toU16 (.finite x.toNat) = some x := by
  have hlt : (x.toNat : ℚ) < 2 ^ 16 := by exact_mod_cast x.toNat_lt
  simp [toU16, Rat.isInt, hlt]

@[simp] theorem toFixed_toList {n : ℕ} (x : FixedBytes n) : toFixed n x.toList = some x := by
  rw [toFixed, dif_pos x.toList_length]
  rfl

/-- A fixed array that was read off a byte string has its bytes. -/
theorem bind_toFixed_congr {β : Type} {n : ℕ} {value : Bytes} {f g : FixedBytes n → Option β}
    (h : ∀ x, value = x.toList → f x = g x) :
    (toFixed n value).bind f = (toFixed n value).bind g := by
  unfold toFixed
  split
  · exact h _ rfl
  · rfl

theorem foldl_length (values : List Bytes) (n : ℕ) :
    values.foldl (fun total value => total + value.length) n = n + values.flatten.length := by
  induction values generalizing n with
  | nil => simp
  | cons value values ih =>
    rw [List.foldl_cons, ih]
    simp [Nat.add_assoc]

/-- The loop has written the values so far in front of what is still zero. -/
theorem concat_loop (values : List Bytes) (done rest : Bytes)
    (h : rest.length = values.flatten.length) :
    (values.foldl (fun (result, offset) value => (setAt result value offset, offset + value.length))
      (done ++ rest, done.length)).1 = done ++ values.flatten := by
  induction values generalizing done rest with
  | nil => simpa using h
  | cons value values ih =>
    have hlength : value.length ≤ rest.length := by
      rw [h]
      simp
    have hset : setAt (done ++ rest) value done.length = (done ++ value) ++
        rest.drop value.length := by
      simp [setAt]
    have hcount : done.length + value.length = (done ++ value).length := by simp
    rw [List.foldl_cons]
    show (values.foldl _ (setAt (done ++ rest) value done.length, done.length + value.length)).1 = _
    rw [hset, hcount, ih]
    · simp
    · rw [List.length_drop, h]
      simp

theorem concatBytes_eq_flatten (values : List Bytes) : concatBytes values = values.flatten := by
  have hloop := concat_loop values [] (List.replicate values.flatten.length 0) (by simp)
  simpa [concatBytes, foldl_length] using hloop

theorem toNat_int64_bits (x : Int64) : (x.toUInt64.toNat : ℤ) = x.toInt % 2 ^ 64 := by
  have h := BitVec.toInt_eq_toNat_cond x.toBitVec
  have hlt := x.toUInt64.toNat_lt
  change x.toInt = if 2 * x.toUInt64.toNat < 2 ^ 64 then _ else _ at h
  split at h
  · change _ = (x.toUInt64.toNat : ℤ) at h
    omega
  · change _ = (x.toUInt64.toNat : ℤ) - _ at h
    omega

theorem u64Le_toOption (value : ℤ) : (u64Le value).toOption = (toU64 value).map u64ToLeBytes := by
  unfold u64Le toU64
  split
  · rw [if_neg (by unfold FitsU64; omega)]
    rfl
  · rw [if_pos (by unfold FitsU64; omega)]
    have hmod : (value % 256 ^ 8).toNat = (UInt64.ofNat value.toNat).toNat := by
      rw [UInt64.toNat_ofNat']
      omega
    exact congrArg (fun n => some (leBytes 8 n)) hmod

theorem i64Le_toOption (value : ℤ) : (i64Le value).toOption = (toI64 value).map i64ToLeBytes := by
  unfold i64Le toI64
  split
  · rw [if_neg (by unfold FitsI64; omega)]
    rfl
  · rw [if_pos (by unfold FitsI64; omega)]
    have hmod : (value % 256 ^ 8).toNat = (Int64.ofInt value).toUInt64.toNat := by
      have hint : (Int64.ofInt value).toInt = value := Int64.toInt_ofInt_of_le (by omega) (by omega)
      have hbits := toNat_int64_bits (Int64.ofInt value)
      rw [hint] at hbits
      omega
    exact congrArg (fun n => some (leBytes 8 n)) hmod

theorem u16Le_intCast (n : ℤ) :
    u16Le (.finite n) =
      if n < 0 ∨ n > 0xffff then .error "Value is outside the u16 range"
        else .ok (dataViewLe 2 n) := by
  have hint : (n : ℚ).isInt = true := by simp [Rat.isInt]
  have hnegative : (n : ℚ) < 0 ↔ n < 0 := by exact_mod_cast Iff.rfl
  have hlarge : (n : ℚ) > 0xffff ↔ n > 0xffff := by exact_mod_cast Iff.rfl
  simp [u16Le, hint, hnegative, hlarge]

theorem toU16_intCast (n : ℤ) :
    toU16 (.finite n) = if 0 ≤ n ∧ n < 2 ^ 16 then some (UInt16.ofNat n.toNat) else none := by
  have hint : (n : ℚ).isInt = true := by simp [Rat.isInt]
  have hpositive : 0 ≤ (n : ℚ) ↔ 0 ≤ n := by exact_mod_cast Iff.rfl
  have hsmall : (n : ℚ) < 2 ^ 16 ↔ n < 2 ^ 16 := by exact_mod_cast Iff.rfl
  simp only [toU16, hint, hpositive, hsmall, true_and, Rat.num_intCast]

theorem u16Le_toOption (value : JsNumber) :
    (u16Le value).toOption = (toU16 value).map u16ToLeBytes := by
  cases value with
  | finite q =>
    by_cases hint : q.isInt
    · rw [Rat.eq_num_of_isInt hint, u16Le_intCast, toU16_intCast]
      split
      · rw [if_neg (by omega)]
        rfl
      · rw [if_pos (by omega)]
        have hmod : (q.num % 256 ^ 2).toNat = (UInt16.ofNat q.num.toNat).toNat := by
          rw [UInt16.toNat_ofNat']
          omega
        exact congrArg (fun n => some (leBytes 2 n)) hmod
    · simp [u16Le, toU16, hint, Except.toOption]
  | _ => rfl

end VeriAgentPay.Client
