import Mathlib.Data.List.TakeDrop
import VeriAgentPay.TextEncodings

/-!
# DER elements and integers

The distinguished encoding of a byte string under a tag and of a natural number: the length is
in its shortest form, and an integer is the shortest two's complement of its value.
-/

namespace Der
open TextEncodings.Base58

/-- The length octets: one octet below 128, and the count of octets in front otherwise. -/
def lengthOctets (n : ℕ) : List UInt8 :=
  if n < 128 then [UInt8.ofNat n] else UInt8.ofNat (128 + (ofValue n).length) :: ofValue n

/-- The content of an INTEGER: the shortest two's complement of a natural number. -/
def integerOctets (n : ℕ) : List UInt8 :=
  if n = 0 then [0] else if (ofValue n).getD 0 0 &&& 0x80 = 0 then ofValue n else 0 :: ofValue n

def element (tag : UInt8) (content : List UInt8) : List UInt8 :=
  tag :: (lengthOctets content.length ++ content)

def integer (n : ℕ) : List UInt8 := element 0x02 (integerOctets n)

/-- SEQUENCE (INTEGER r, INTEGER s). -/
def signature (r s : ℕ) : List UInt8 := element 0x30 (integer r ++ integer s)

/-- The octets of a number that is not negative, without redundant ones. -/
structure Minimal (octets : List UInt8) : Prop where
  nonempty : octets ≠ []
  positive : octets.getD 0 0 &&& 0x80 = 0
  shortest : ¬(octets.length > 1 ∧ octets[0]? = some 0 ∧ octets.getD 1 0 &&& 0x80 = 0)

theorem lengthOctets_short {n : ℕ} (h : n < 128) : lengthOctets n = [UInt8.ofNat n] := if_pos h

theorem value_ofValue (n : ℕ) : value (ofValue n) = n := by
  have hmap : ((Nat.digits 256 n).map UInt8.ofNat).map UInt8.toNat = Nat.digits 256 n := by
    rw [List.map_map]
    refine (List.map_congr_left (g := id) fun d hd => ?_).trans (List.map_id _)
    have hlt : d < 256 := Nat.digits_lt_base (by norm_num) hd
    exact UInt8.toNat_ofNat_of_lt hlt
  rw [value, ofValue, List.reverse_reverse, hmap, Nat.ofDigits_digits]

@[simp] theorem value_zero_cons (octets : List UInt8) : value (0 :: octets) = value octets :=
  value_replicate_zero 1 octets

theorem length_ofValue (n : ℕ) : (ofValue n).length = (Nat.digits 256 n).length := by simp [ofValue]

theorem ofValue_eq_nil {n : ℕ} : ofValue n = [] ↔ n = 0 := by
  rw [← List.length_eq_zero_iff, length_ofValue, List.length_eq_zero_iff,
    Nat.digits_eq_nil_iff_eq_zero]

theorem head_ofValue (n : ℕ) : (ofValue n).head? ≠ some 0 := by
  intro hhead
  have hlast : ((Nat.digits 256 n).map UInt8.ofNat).getLast? = some 0 := by
    rwa [ofValue, List.head?_reverse] at hhead
  rw [List.getLast?_map] at hlast
  obtain ⟨d, hd, hzero⟩ := Option.map_eq_some_iff.mp hlast
  have hmem : d ∈ Nat.digits 256 n := List.mem_of_getLast? hd
  have hlt : d < 256 := Nat.digits_lt_base (by norm_num) hmem
  have hne : Nat.digits 256 n ≠ [] := List.ne_nil_of_mem hmem
  have hn : n ≠ 0 := Nat.digits_ne_nil_iff_ne_zero.mp hne
  refine Nat.getLast_digit_ne_zero 256 hn ?_
  rw [Option.some.inj ((List.getLast?_eq_some_getLast hne).symm.trans hd)]
  have htoNat : (UInt8.ofNat d).toNat = 0 := congrArg UInt8.toNat hzero
  rwa [show (UInt8.ofNat d).toNat = d from UInt8.toNat_ofNat_of_lt hlt] at htoNat

theorem ofValue_of_lt {n : ℕ} (hpos : 0 < n) (h : n < 256) : ofValue n = [UInt8.ofNat n] := by
  rw [ofValue, Nat.digits_of_lt 256 n hpos.ne' h]
  rfl

theorem lengthOctets_long {n : ℕ} (hlong : 128 ≤ n) (h : n < 256) :
    lengthOctets n = [0x81, UInt8.ofNat n] := by
  rw [lengthOctets, if_neg (by omega), ofValue_of_lt (by omega) h]
  rfl

theorem value_integerOctets (n : ℕ) : value (integerOctets n) = n := by
  unfold integerOctets
  split
  · rename_i hzero
    rw [hzero]
    rfl
  · split
    · exact value_ofValue n
    · rw [value_zero_cons, value_ofValue]

theorem minimal_integerOctets (n : ℕ) : Minimal (integerOctets n) := by
  have hhead := head_ofValue n
  unfold integerOctets
  split
  · exact ⟨by simp, rfl, by simp⟩
  · rename_i hn
    have hne : ofValue n ≠ [] := fun h => hn (ofValue_eq_nil.mp h)
    split
    · rename_i hbit
      refine ⟨hne, hbit, fun h => hhead ?_⟩
      rw [List.head?_eq_getElem?]
      exact h.2.1
    · rename_i hbit
      exact ⟨by simp, by simp, fun h => hbit h.2.2⟩

/-- The shortest octets of a number are what `integerOctets` writes. -/
theorem Minimal.eq_integerOctets {octets : List UInt8} (h : Minimal octets) :
    integerOctets (value octets) = octets := by
  cases octets with
  | nil => exact absurd rfl h.nonempty
  | cons b octets =>
    by_cases hb : b = 0
    · subst hb
      rw [value_zero_cons]
      cases octets with
      | nil => rfl
      | cons c octets =>
        have hc : c &&& 0x80 ≠ 0 := fun hc => h.shortest ⟨by simp, rfl, hc⟩
        have hne : c ≠ 0 := by
          rintro rfl
          exact hc rfl
        have hback : ofValue (value (c :: octets)) = c :: octets :=
          ofValue_value (by simpa using hne)
        have hn : value (c :: octets) ≠ 0 := by
          intro hzero
          rw [hzero] at hback
          cases hback
        rw [integerOctets, if_neg hn, hback]
        exact if_neg hc
    · have hback : ofValue (value (b :: octets)) = b :: octets := ofValue_value (by simpa using hb)
      have hn : value (b :: octets) ≠ 0 := by
        intro hzero
        rw [hzero] at hback
        cases hback
      rw [integerOctets, if_neg hn, hback]
      exact if_pos h.positive

theorem eq_integerOctets_iff {octets : List UInt8} {n : ℕ} :
    octets = integerOctets n ↔ Minimal octets ∧ value octets = n := by
  constructor
  · rintro rfl
    exact ⟨minimal_integerOctets n, value_integerOctets n⟩
  · rintro ⟨hminimal, rfl⟩
    exact hminimal.eq_integerOctets.symm

theorem length_integerOctets {n width : ℕ} (h : n < 256 ^ width) :
    (integerOctets n).length ≤ width + 1 := by
  have hdigits : (ofValue n).length ≤ width := by
    rw [length_ofValue]
    exact (Nat.digits_length_le_iff (by norm_num) n).mpr h
  unfold integerOctets
  split
  · simp
  · split
    · omega
    · simpa using hdigits

theorem length_element {tag : UInt8} {content : List UInt8} (h : content.length < 128) :
    (element tag content).length = content.length + 2 := by
  simp [element, lengthOctets_short h]

end Der
