import Mathlib.Data.List.Basic
import Mathlib.Data.Nat.Digits.Lemmas

/-!
# Bytes as text: base64, base58 and UTF-8

In base64 three bytes are four sextets, and a decoder that skips what is not in the alphabet
reads back what was encoded, whether or not the padding is still there. In base58 the bytes are
one big-endian number, and each leading zero byte is a leading digit zero.
-/

namespace TextEncodings

namespace Base64

/-- The sextets of a byte string; the last group is filled up with zero bits. -/
def sextets : List UInt8 → List ℕ
  | a :: b :: c :: rest =>
    a.toNat / 4 :: (a.toNat % 4 * 16 + b.toNat / 16) :: (b.toNat % 16 * 4 + c.toNat / 64) ::
      c.toNat % 64 ::
      sextets rest
  | [a, b] => [a.toNat / 4, a.toNat % 4 * 16 + b.toNat / 16, b.toNat % 16 * 4]
  | [a] => [a.toNat / 4, a.toNat % 4 * 16]
  | [] => []

/-- The whole bytes that sextets fill. -/
def fromSextets : List ℕ → List UInt8
  | p :: q :: r :: s :: rest =>
    UInt8.ofNat (p * 4 + q / 16) :: UInt8.ofNat (q % 16 * 16 + r / 4) ::
      UInt8.ofNat (r % 4 * 64 + s) ::
      fromSextets rest
  | [p, q, r] => [UInt8.ofNat (p * 4 + q / 16), UInt8.ofNat (q % 16 * 16 + r / 4)]
  | [p, q] => [UInt8.ofNat (p * 4 + q / 16)]
  | _ => []

def alphabet : List Char :=
  "ABCDEFGHIJKLMNOPQRSTUVWXYZabcdefghijklmnopqrstuvwxyz0123456789+/".toList

def charOf (n : ℕ) : Char := alphabet.getD n '='

def sextetOf (c : Char) : Option ℕ := alphabet.idxOf? c

def padding (length : ℕ) : List Char := List.replicate ((3 - length % 3) % 3) '='

/-- Base64 with padding. -/
def encode (bytes : List UInt8) : List Char := (sextets bytes).map charOf ++ padding bytes.length

/-- Decoding that skips characters outside of the alphabet. -/
def decode (text : List Char) : List UInt8 := fromSextets (text.filterMap sextetOf)

theorem ofNat_toNat_eq {a : UInt8} {n : ℕ} (h : n = a.toNat) : UInt8.ofNat n = a := by
  rw [h]
  exact UInt8.ofNat_toNat

theorem fromSextets_sextets (bytes : List UInt8) : fromSextets (sextets bytes) = bytes := by
  induction bytes using sextets.induct with
  | case1 a b c rest ih =>
    have ha := a.toNat_lt
    have hb := b.toNat_lt
    have hc := c.toNat_lt
    rw [sextets, fromSextets, ih, ofNat_toNat_eq (a := a) (by omega),
      ofNat_toNat_eq (a := b) (by omega),
      ofNat_toNat_eq (a := c) (by omega)]
  | case2 a b =>
    have ha := a.toNat_lt
    have hb := b.toNat_lt
    rw [sextets, fromSextets, ofNat_toNat_eq (a := a) (by omega),
      ofNat_toNat_eq (a := b) (by omega)]
  | case3 a =>
    have ha := a.toNat_lt
    rw [sextets, fromSextets, ofNat_toNat_eq (a := a) (by omega)]
  | case4 => rfl

theorem sextets_lt {bytes : List UInt8} {n : ℕ} (h : n ∈ sextets bytes) : n < 64 := by
  induction bytes using sextets.induct with
  | case1 a b c rest ih =>
    have ha := a.toNat_lt
    have hb := b.toNat_lt
    have hc := c.toNat_lt
    simp only [sextets, List.mem_cons] at h
    rcases h with rfl | rfl | rfl | rfl | h
    · omega
    · omega
    · omega
    · omega
    · exact ih h
  | case2 a b =>
    have ha := a.toNat_lt
    have hb := b.toNat_lt
    simp only [sextets, List.mem_cons, List.not_mem_nil, or_false] at h
    omega
  | case3 a =>
    have ha := a.toNat_lt
    simp only [sextets, List.mem_cons, List.not_mem_nil, or_false] at h
    omega
  | case4 => simp [sextets] at h

theorem sextetOf_charOf : ∀ n < 64, sextetOf (charOf n) = some n := by decide

theorem filterMap_charOf {l : List ℕ} (h : ∀ n ∈ l, n < 64) :
    (l.map charOf).filterMap sextetOf = l := by
  induction l with
  | nil => rfl
  | cons n l ih =>
    rw [List.map_cons, List.filterMap_cons_some (sextetOf_charOf n (h n (List.mem_cons_self ..))),
      ih fun m hm => h m (List.mem_cons_of_mem n hm)]

theorem filterMap_padding (length : ℕ) : (padding length).filterMap sextetOf = [] := by
  rw [padding, List.filterMap_replicate_of_none (by decide)]

theorem decode_encode (bytes : List UInt8) : decode (encode bytes) = bytes := by
  rw [decode, encode, List.filterMap_append,
    filterMap_charOf fun n => sextets_lt, filterMap_padding,
    List.append_nil, fromSextets_sextets]

/-- The bits of the last sextet that no whole byte takes. -/
def unusedBits : List ℕ → ℕ
  | _ :: _ :: _ :: _ :: rest => unusedBits rest
  | [_, _, r] => r % 4
  | [_, q] => q % 16
  | _ => 0

/-- Sextets are those of the bytes they fill when their unused bits are zero. -/
theorem sextets_fromSextets {l : List ℕ} (hlt : ∀ n ∈ l, n < 64) (hlength : l.length % 4 ≠ 1) :
    sextets (fromSextets l) = l ↔ unusedBits l = 0 := by
  induction l using fromSextets.induct with
  | case1 p q r s rest ih =>
    have hp := hlt p (by simp)
    have hq := hlt q (by simp)
    have hr := hlt r (by simp)
    have hs := hlt s (by simp)
    have hmod : rest.length % 4 ≠ 1 := by
      simp only [List.length_cons] at hlength
      omega
    have hrest := ih (fun n hn => hlt n (by simp [hn])) hmod
    simp only [fromSextets, sextets, unusedBits, List.cons.injEq, hrest, UInt8.toNat_ofNat']
    omega
  | case2 p q r =>
    have hp := hlt p (by simp)
    have hq := hlt q (by simp)
    have hr := hlt r (by simp)
    simp only [fromSextets, sextets, unusedBits, List.cons.injEq, and_true, UInt8.toNat_ofNat']
    omega
  | case3 p q =>
    have hp := hlt p (by simp)
    have hq := hlt q (by simp)
    simp only [fromSextets, sextets, unusedBits, List.cons.injEq, and_true, UInt8.toNat_ofNat']
    omega
  | case4 l h1 h2 h3 =>
    match l with
    | [] => simp [fromSextets, sextets, unusedBits]
    | [_] => simp at hlength
    | [_, _] => exact absurd rfl (h3 _ _)
    | [_, _, _] => exact absurd rfl (h2 _ _ _)
    | _ :: _ :: _ :: _ :: _ => exact absurd rfl (h1 _ _ _ _ _)

theorem charOf_sextetOf {c : Char} {n : ℕ} (h : sextetOf c = some n) : n < 64 ∧ charOf n = c := by
  obtain ⟨hn, hc, -⟩ := List.findIdx?_eq_some_iff_getElem.mp h
  refine ⟨hn, ?_⟩
  simpa [charOf, hn] using hc

end Base64

namespace Base58

def alphabet : List Char := "123456789ABCDEFGHJKLMNPQRSTUVWXYZabcdefghijkmnopqrstuvwxyz".toList

def charOf (n : ℕ) : Char := alphabet.getD n '0'

def digitOf (c : Char) : Option ℕ := alphabet.idxOf? c

/-- The number that big-endian bytes denote. -/
def value (bytes : List UInt8) : ℕ := Nat.ofDigits 256 (bytes.reverse.map UInt8.toNat)

/-- The shortest big-endian bytes of a number. -/
def ofValue (n : ℕ) : List UInt8 := ((Nat.digits 256 n).map UInt8.ofNat).reverse

def encode (bytes : List UInt8) : List Char :=
  List.replicate (bytes.takeWhile (· = 0)).length '1' ++
    ((Nat.digits 58 (value bytes)).map charOf).reverse

def decode (text : List Char) : Option (List UInt8) :=
  let digits := text.dropWhile (· = '1')
  (digits.mapM digitOf).map fun ds =>
    List.replicate (text.takeWhile (· = '1')).length 0 ++ ofValue (Nat.ofDigits 58 ds.reverse)

theorem digitOf_charOf : ∀ n < 58, digitOf (charOf n) = some n := by decide

theorem charOf_eq_one : ∀ n < 58, charOf n = '1' → n = 0 := by decide

theorem mapM_charOf {l : List ℕ} (h : ∀ n ∈ l, n < 58) : (l.map charOf).mapM digitOf = some l := by
  induction l with
  | nil => rfl
  | cons n l ih =>
    have htail := ih fun m hm => h m (List.mem_cons_of_mem n hm)
    simp [List.mapM_cons, digitOf_charOf n (h n (List.mem_cons_self ..)), htail]

theorem ofValue_value {bytes : List UInt8} (h : bytes.head? ≠ some 0) :
    ofValue (value bytes) = bytes := by
  have hdigits : Nat.digits 256 (value bytes) = bytes.reverse.map UInt8.toNat := by
    refine Nat.digits_ofDigits 256 (by norm_num) _ ?_ ?_
    · intro n hn
      obtain ⟨b, -, rfl⟩ := List.mem_map.mp hn
      exact b.toNat_lt
    · intro hne
      cases bytes with
      | nil => exact absurd rfl hne
      | cons b bytes =>
        have hb : b ≠ 0 := fun hzero => h (by rw [hzero]; rfl)
        simp only [List.reverse_cons, List.map_append, List.map_cons, List.map_nil,
          List.getLast_append_singleton]
        exact fun hzero => hb (UInt8.toNat_inj.mp hzero)
  have hmap : (bytes.reverse.map UInt8.toNat).map UInt8.ofNat = bytes.reverse := by
    simp [Function.comp_def]
  rw [ofValue, hdigits, hmap, List.reverse_reverse]

theorem value_replicate_zero (n : ℕ) (bytes : List UInt8) :
    value (List.replicate n 0 ++ bytes) = value bytes := by
  simp [value, List.reverse_append, List.reverse_replicate, Nat.ofDigits_append_replicate_zero]

/-- Bytes are their leading zeros and a rest that opens with another byte. -/
theorem split_zeros (bytes : List UInt8) :
    ∃ n rest, bytes = List.replicate n 0 ++ rest ∧ (bytes.takeWhile (· = 0)).length = n ∧
      rest.head? ≠ some 0 := by
  induction bytes with
  | nil => exact ⟨0, [], rfl, rfl, by simp⟩
  | cons b bytes ih =>
    by_cases hb : b = 0
    · obtain ⟨n, rest, hbytes, hcount, hhead⟩ := ih
      refine ⟨n + 1, rest, ?_, ?_, hhead⟩
      · rw [hb, List.replicate_succ, List.cons_append, ← hbytes]
      · simp [hb, hcount]
    · exact ⟨0, b :: bytes, rfl, by simp [hb], by simpa using hb⟩

/-- The digits of a number open with a digit other than zero. -/
theorem head_digits_ne (n : ℕ) : (((Nat.digits 58 n).map charOf).reverse).head? ≠ some '1' := by
  intro hhead
  have hlast : ((Nat.digits 58 n).map charOf).getLast? = some '1' := by
    rwa [List.head?_reverse] at hhead
  rw [List.getLast?_map] at hlast
  obtain ⟨d, hd, hone⟩ := Option.map_eq_some_iff.mp hlast
  have hmem : d ∈ Nat.digits 58 n := List.mem_of_getLast? hd
  obtain rfl := charOf_eq_one d (Nat.digits_lt_base (by norm_num) hmem) hone
  have hne : Nat.digits 58 n ≠ [] := List.ne_nil_of_mem hmem
  have hn : n ≠ 0 := Nat.digits_ne_nil_iff_ne_zero.mp hne
  refine Nat.getLast_digit_ne_zero 58 hn ?_
  exact Option.some.inj ((List.getLast?_eq_some_getLast hne).symm.trans hd)

theorem split_ones {text : List Char} (n : ℕ) (h : text.head? ≠ some '1') :
    (List.replicate n '1' ++ text).takeWhile (· = '1') = List.replicate n '1' ∧
      (List.replicate n '1' ++ text).dropWhile (· = '1') = text := by
  induction n with
  | zero =>
    cases text with
    | nil => exact ⟨rfl, rfl⟩
    | cons c text =>
      have hc : c ≠ '1' := by simpa using h
      simp [hc]
  | succ n ih =>
    obtain ⟨htake, hdrop⟩ := ih
    simp [List.replicate_succ, htake, hdrop]

theorem decode_encode (bytes : List UInt8) : decode (encode bytes) = some bytes := by
  obtain ⟨n, rest, hbytes, hcount, hhead⟩ := split_zeros bytes
  have hvalue : value bytes = value rest := by rw [hbytes, value_replicate_zero]
  obtain ⟨htake, hdrop⟩ := split_ones n (head_digits_ne (value rest))
  have hread : (((Nat.digits 58 (value rest)).map charOf).reverse).mapM digitOf =
      some (Nat.digits 58 (value rest)).reverse := by
    rw [← List.map_reverse]
    refine mapM_charOf fun d hd => ?_
    exact Nat.digits_lt_base (by norm_num) (List.mem_reverse.mp hd)
  simp only [decode, encode, hcount, hvalue, htake, hdrop, hread, Option.map_some,
    List.reverse_reverse,
    Nat.ofDigits_digits, ofValue_value hhead, List.length_replicate]
  rw [← hbytes]

theorem charOf_mem : ∀ n < 58, charOf n ∈ alphabet := by decide

theorem mem_alphabet_of_mem_encode {bytes : List UInt8} {c : Char} (h : c ∈ encode bytes) :
    c ∈ alphabet := by
  rcases List.mem_append.mp h with h | h
  · rw [List.eq_of_mem_replicate h]
    decide
  · obtain ⟨n, hn, rfl⟩ := List.mem_map.mp (List.mem_reverse.mp h)
    exact charOf_mem n (Nat.digits_lt_base (by norm_num) hn)

/-- A text in base58 is no shorter than the bytes. -/
theorem length_le_length_encode (bytes : List UInt8) : bytes.length ≤ (encode bytes).length := by
  obtain ⟨n, rest, hbytes, hcount, hhead⟩ := split_zeros bytes
  have hvalue : value bytes = value rest := by rw [hbytes, value_replicate_zero]
  have hrest : rest.length = (Nat.digits 256 (value rest)).length := by
    conv_lhs => rw [← ofValue_value hhead]
    simp [ofValue]
  have hlt : value rest < 256 ^ (Nat.digits 58 (value rest)).length :=
    (Nat.lt_base_pow_length_digits (by norm_num)).trans_le (Nat.pow_le_pow_left (by norm_num) _)
  have hle : (Nat.digits 256 (value rest)).length ≤ (Nat.digits 58 (value rest)).length :=
    (Nat.digits_length_le_iff (by norm_num) _).mpr hlt
  simp only [encode, hcount, hvalue, List.length_append, List.length_replicate, List.length_reverse,
    List.length_map]
  rw [hbytes, List.length_append, List.length_replicate, hrest]
  omega

end Base58

namespace Utf8

/-- The bytes of a `ByteArray`, whose own list is read in a loop. -/
theorem toList_loop (bytes : ByteArray) (i : ℕ) (read : List UInt8) :
    ByteArray.toList.loop bytes i read = read.reverse ++ bytes.data.toList.drop i := by
  induction hn : bytes.size - i generalizing i read with
  | zero =>
    have hsize : bytes.data.toList.length = bytes.size := rfl
    rw [ByteArray.toList.loop, if_neg (by omega), List.drop_of_length_le (by omega),
      List.append_nil]
  | succ n ih =>
    have hlt : i < bytes.data.size := by
      have hsize : bytes.data.size = bytes.size := rfl
      omega
    have hget : bytes.get! i = bytes.data[i] := by
      simp [ByteArray.get!, getElem!_pos bytes.data i hlt]
    rw [ByteArray.toList.loop, if_pos (by omega), ih (i + 1) _ (by omega), List.reverse_cons,
      List.append_assoc, hget]
    congr 1
    exact (List.drop_eq_getElem_cons (by simpa using hlt)).symm

theorem toList_eq (bytes : ByteArray) : bytes.toList = bytes.data.toList := toList_loop bytes 0 []

/-- The text that the bytes encode, if they encode one. -/
def decode (bytes : List UInt8) : Option String := String.fromUTF8? ⟨bytes.toArray⟩

theorem decode_toUTF8 (text : String) : decode text.toUTF8.toList = some text := by
  have hbytes : (⟨text.toUTF8.toList.toArray⟩ : ByteArray) = text.toUTF8 := by
    rw [toList_eq]
  rw [decode, hbytes]
  exact dif_pos text.isValidUTF8

end Utf8

end TextEncodings
