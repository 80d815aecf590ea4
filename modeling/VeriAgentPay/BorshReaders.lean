import VeriAgentPay.FixedWidthArithmetic

/-!
# Reading and slicing Borsh data

A record in Borsh is its fields one after the other: numbers little-endian, arrays without and
vectors with their length in front. A reader takes a value off the front of a byte string, and
a slice takes a field out of the middle of one.
-/

namespace Borsh
open FixedWidth

abbrev Reader := StateT Bytes Option

section Readers

def take (n : ℕ) : Reader Bytes := fun bytes =>
  if n ≤ bytes.length then some (bytes.take n, bytes.drop n) else none

/-- The number that little-endian bytes denote. -/
def leValue (bytes : Bytes) : ℕ := Nat.ofDigits 256 (bytes.map UInt8.toNat)

def number (width : ℕ) : Reader ℕ := do
  let bytes ← take width
  pure (leValue bytes)

def u16 : Reader UInt16 := do
  let n ← number 2
  pure (UInt16.ofNat n)

def u64 : Reader UInt64 := do
  let n ← number 8
  pure (UInt64.ofNat n)

def i64 : Reader Int64 := do
  let n ← number 8
  pure (UInt64.ofNat n).toInt64

def fixed (n : ℕ) : Reader (FixedBytes n) := fun bytes =>
  if h : n ≤ bytes.length then
    some (⟨bytes.take n, by rw [List.length_take, min_eq_left h]⟩, bytes.drop n) else none

def vector : Reader Bytes := do
  let length ← number 4
  take length

end Readers

section Rules

variable {α β : Type} {x : Reader α} {f : α → Reader β} {front back : Bytes} {a : α} {b : β}

/-- The bytes read as the value, whatever follows them. -/
def Reads (x : Reader α) (bytes : Bytes) (a : α) : Prop :=
  ∀ rest, x (bytes ++ rest) = some (a, rest)

theorem Reads.pure (a : α) : Reads (pure a) [] a := fun _ => rfl

theorem Reads.bind (hx : Reads x front a) (hf : Reads (f a) back b) :
    Reads (x >>= f) (front ++ back) b := by
  intro rest
  show (x (front ++ back ++ rest)).bind (fun p => f p.1 p.2) = _
  rw [List.append_assoc, hx, Option.bind_some]
  exact hf rest

theorem Reads.map (hx : Reads x front a) (g : α → β) :
    Reads (do let a ← x; Pure.pure (g a)) front (g a) := by
  have h := hx.bind (f := fun a => Pure.pure (g a)) (Reads.pure (g a))
  rwa [List.append_nil] at h

/-- The whole of the bytes is read. -/
theorem Reads.whole (hx : Reads x front a) : x front = some (a, []) := by
  have h := hx []
  rwa [List.append_nil] at h

theorem reads_take {n : ℕ} {bytes : Bytes} (h : bytes.length = n) : Reads (take n) bytes bytes := by
  intro rest
  rw [take, if_pos (by rw [List.length_append]; omega), List.take_left' h, List.drop_left' h]

theorem reads_number {width n : ℕ} (h : n < 256 ^ width) :
    Reads (number width) (leBytes width n) n := by
  have hvalue : leValue (leBytes width n) = n := by
    rw [leValue, ofDigits_leBytes, Nat.mod_eq_of_lt h]
  have hread : Reads (number width) (leBytes width n) (leValue (leBytes width n)) :=
    (reads_take (length_leBytes width n)).map leValue
  rwa [hvalue] at hread

theorem reads_u16 (n : UInt16) : Reads u16 (u16ToLeBytes n) n := by
  have hread : Reads u16 (u16ToLeBytes n) (UInt16.ofNat n.toNat) :=
    (reads_number n.toNat_lt).map UInt16.ofNat
  rwa [UInt16.ofNat_toNat] at hread

theorem reads_u64 (n : UInt64) : Reads u64 (u64ToLeBytes n) n := by
  have hread : Reads u64 (u64ToLeBytes n) (UInt64.ofNat n.toNat) :=
    (reads_number n.toNat_lt).map UInt64.ofNat
  rwa [UInt64.ofNat_toNat] at hread

theorem reads_i64 (n : Int64) : Reads i64 (i64ToLeBytes n) n := by
  have hread : Reads i64 (i64ToLeBytes n) (UInt64.ofNat n.toUInt64.toNat).toInt64 :=
    (reads_number n.toUInt64.toNat_lt).map fun m => (UInt64.ofNat m).toInt64
  rwa [UInt64.ofNat_toNat] at hread

theorem reads_fixed {n : ℕ} (bytes : FixedBytes n) : Reads (fixed n) bytes.toList bytes := by
  intro rest
  have hlength : n ≤ (bytes.toList ++ rest).length := by
    rw [List.length_append, bytes.toList_length]
    omega
  have hfront : (bytes.toList ++ rest).take n = bytes.toList := List.take_left' bytes.toList_length
  have hback : (bytes.toList ++ rest).drop n = rest := List.drop_left' bytes.toList_length
  rw [fixed, dif_pos hlength, hback]
  exact congrArg (fun b => some (b, rest)) (List.Vector.eq _ _ hfront)

theorem reads_vector {bytes : Bytes} (h : bytes.length < 256 ^ 4) :
    Reads vector (leBytes 4 bytes.length ++ bytes) bytes :=
  (reads_number h).bind (reads_take rfl)

end Rules

section Slices

variable {front back : List Bytes} {field : Bytes} {start length : ℕ}

/-- A field lies behind the fields in front of it. -/
theorem slice_flatten (hstart : front.flatten.length = start) (hlength : field.length = length) :
    ((front ++ field :: back).flatten.drop start).take length = field := by
  rw [List.flatten_append, List.flatten_cons, List.drop_left' hstart, List.take_left' hlength]

end Slices

end Borsh
