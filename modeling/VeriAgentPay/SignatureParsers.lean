import VeriAgentPay.DerEncodings
import VeriAgentPay.InstructionBuilders

/-!
# The three readers of DER signatures

The client library converts a passkey's signature for the precompile, the relayer reads the
same signature for a contract, and the signer reads what the key service returns. The client
library's reader accepts the distinguished encodings alone; the other two skip over the outer
length and clamp the last integer to the bytes that are there.
-/

namespace VeriAgentPay.Backend
open FixedWidth CheckedOutcome Client Der
open TextEncodings.Base58 (value)

section Elements

variable {input content rest : Bytes} {offset start stop : ℕ} {tag : UInt8}

theorem drop_eq_cons {l : Bytes} {i : ℕ} {a : UInt8} (h : l[i]? = some a) :
    l.drop i = a :: l.drop (i + 1) := by
  obtain ⟨hi, rfl⟩ := List.getElem?_eq_some_iff.mp h
  exact List.drop_eq_getElem_cons hi

/-- An element of at most 255 bytes is read where it stands. -/
theorem readDerElement_element (h : input.drop offset = element tag content ++ rest)
    (hcontent : content.length < 256) :
    readDerElement input offset tag =
      .ok (offset + 1 + (lengthOctets content.length).length,
        offset + (element tag content).length) := by
  have hat : ∀ i, input[offset + i]? = (element tag content ++ rest)[i]? := by
    intro i
    rw [← h, List.getElem?_drop]
  have hlength : input.length - offset = (element tag content ++ rest).length := by
    rw [← h, List.length_drop]
  have htag : input[offset]? = some tag := hat 0
  have hfirst := hat 1
  have hsecond := hat 2
  have hnat : (UInt8.ofNat content.length).toNat = content.length :=
    UInt8.toNat_ofNat_of_lt hcontent
  by_cases hshort : content.length < 128
  · have hsmall : UInt8.ofNat content.length < 0x80 := by
      rw [UInt8.lt_iff_toNat_lt, hnat]
      exact hshort
    simp only [element, lengthOctets_short hshort, List.cons_append, List.nil_append,
      List.length_cons,
      List.length_append, List.length_nil, List.getElem?_cons_succ,
      List.getElem?_cons_zero] at hlength hfirst ⊢
    have hend : offset + 2 + content.length ≤ input.length := by omega
    have hstop : offset + (content.length + 1 + 1) = offset + 2 + content.length := by omega
    simp [readDerElement, CheckedOutcome.require, orError, htag, hfirst, hsmall, hnat, hend, hstop,
      bind, Except.bind,
      pure, Except.pure]
  · have hlarge : 0x80 ≤ UInt8.ofNat content.length := by
      rw [UInt8.le_iff_toNat_le, hnat]
      exact not_lt.mp hshort
    have hlong : lengthOctets content.length = [0x81, UInt8.ofNat content.length] :=
      lengthOctets_long (not_lt.mp hshort) hcontent
    simp only [element, hlong, List.cons_append, List.nil_append, List.length_cons,
      List.length_append,
      List.length_nil, List.getElem?_cons_succ, List.getElem?_cons_zero] at hlength hfirst hsecond ⊢
    have hend : offset + 3 + content.length ≤ input.length := by omega
    have hstop : offset + (content.length + 1 + 1 + 1) = offset + 3 + content.length := by omega
    have hfilter : (some (UInt8.ofNat content.length)).filter (0x80 ≤ ·) = some
        (UInt8.ofNat content.length) := by
      rw [Option.filter_some, if_pos (decide_eq_true hlarge)]
    simp [readDerElement, CheckedOutcome.require, orError, htag, hfirst, hsecond, hfilter, hnat,
      hend, hstop, bind,
      Except.bind, pure, Except.pure]

/-- What is read is an element that stands there. -/
theorem element_of_readDerElement (h : readDerElement input offset tag = .ok (start, stop)) :
    ∃ content rest, content.length < 256 ∧ input.drop offset = element tag content ++ rest := by
  have hcut : ∀ first n, first + n ≤ input.length → ((input.drop first).take n).length = n := by
    intro first n hn
    rw [List.length_take, List.length_drop]
    omega
  rw [readDerElement, bind_eq_ok] at h
  obtain ⟨_, htag, h⟩ := h
  rw [bind_eq_ok] at h
  obtain ⟨first, hfirst, h⟩ := h
  rw [require_eq_ok] at htag
  rw [orError_eq_ok] at hfirst
  dsimp only at h
  split at h
  · rename_i hshort
    simp only [pure_bind, bind_eq_ok, require_eq_ok, pure_eq_ok, Prod.mk.injEq] at h
    obtain ⟨-, hend, -, -⟩ := h
    have hlt : first.toNat < 128 := UInt8.lt_iff_toNat_lt.mp hshort
    refine ⟨(input.drop (offset + 2)).take first.toNat,
      (input.drop (offset + 2)).drop first.toNat, ?_, ?_⟩
    · rw [hcut _ _ hend]
      omega
    · rw [element, hcut _ _ hend, lengthOctets_short hlt, drop_eq_cons htag, drop_eq_cons hfirst]
      simp
  · split at h
    · rename_i hlong
      simp only [pure_bind, bind_eq_ok, require_eq_ok, orError_eq_ok, pure_eq_ok, Prod.mk.injEq,
        Option.filter_eq_some_iff] at h
      obtain ⟨second, ⟨hsecond, hlarge⟩, -, hend, -, -⟩ := h
      have hlt := second.toNat_lt
      have hlarge : 128 ≤ second.toNat := UInt8.le_iff_toNat_le.mp (of_decide_eq_true hlarge)
      refine ⟨(input.drop (offset + 3)).take second.toNat,
        (input.drop (offset + 3)).drop second.toNat, ?_, ?_⟩
      · rw [hcut _ _ hend]
        exact hlt
      · rw [element, hcut _ _ hend, lengthOctets_long hlarge hlt, drop_eq_cons htag,
          drop_eq_cons hfirst,
          drop_eq_cons hsecond, hlong]
        simp
    · simp only [bind_eq_ok] at h
      obtain ⟨_, h, -⟩ := h
      cases h

/-- Where the parts of an element lie. -/
theorem parts_of_element (h : input.drop offset = element tag content ++ rest)
    (hstart : start = offset + 1 + (lengthOctets content.length).length)
    (hstop : stop = offset + (element tag content).length) :
    input.drop start = content ++ rest ∧ input.drop stop = rest ∧
    stop + rest.length = input.length ∧
      (input.take stop).drop start = content := by
  have hsum : start + content.length = stop := by
    simp only [element, List.length_cons, List.length_append] at hstop
    omega
  have hcontent : input.drop start = content ++ rest := by
    rw [hstart, Nat.add_assoc, ← List.drop_drop, h, element, Nat.add_comm, List.cons_append,
      List.drop_succ_cons,
      List.append_assoc, List.drop_left]
  refine ⟨hcontent, ?_, ?_, ?_⟩
  · rw [hstop, ← List.drop_drop, h, List.drop_left]
  · have hlength := congrArg List.length h
    simp only [element, List.length_drop, List.length_cons, List.length_append] at hlength hstop
    omega
  · rw [List.drop_take, hcontent, ← hsum, Nat.add_sub_cancel_left, List.take_left]

theorem readDerElement_eq_ok :
    readDerElement input offset tag = .ok (start, stop) ↔
      ∃ content rest, content.length < 256 ∧ input.drop offset = element tag content ++ rest ∧
        start = offset + 1 + (lengthOctets content.length).length ∧
        stop = offset + (element tag content).length := by
  constructor
  · intro h
    obtain ⟨content, rest, hlt, hdrop⟩ := element_of_readDerElement h
    rw [readDerElement_element hdrop hlt] at h
    obtain ⟨rfl, rfl⟩ := Prod.mk.inj (Except.ok.inj h)
    exact ⟨content, rest, hlt, hdrop, rfl, rfl⟩
  · rintro ⟨content, rest, hlt, hdrop, rfl, rfl⟩
    exact readDerElement_element hdrop hlt

theorem parseDerInteger_eq_ok {octets : Bytes} {n : ℕ} :
    parseDerInteger octets = .ok n ↔ octets.length ≤ 33 ∧ octets = integerOctets n := by
  simp only [parseDerInteger, bind_eq_ok, require_eq_ok, pure_eq_ok, exists_unit,
    eq_integerOctets_iff, not_or, not_lt]
  constructor
  · rintro ⟨⟨hne, hlength⟩, hpositive, hshortest, hvalue⟩
    exact ⟨hlength, ⟨fun hnil => hne (by rw [hnil]; rfl), hpositive, hshortest⟩, hvalue⟩
  · rintro ⟨hlength, ⟨hne, hpositive, hshortest⟩, hvalue⟩
    exact ⟨⟨fun hzero => hne (List.length_eq_zero_iff.mp hzero), hlength⟩, hpositive,
      hshortest, hvalue⟩

end Elements

section ClientLibrary

/-- The element and integer readers of `derToCompactLowS`, up to its range check. -/
def readDerIntegers (signatureDer : Bytes) : Except Failure (ℕ × ℕ) := do
  let (start, sequenceEnd) ← readDerElement signatureDer 0 0x30
  require (sequenceEnd = signatureDer.length) (.error "DER signature contains trailing data")
  let (rStart, rEnd) ← readDerElement signatureDer start 0x02
  let (sStart, sEnd) ← readDerElement signatureDer rEnd 0x02
  require (sEnd = sequenceEnd) (.error "DER signature must contain exactly two integers")
  let r ← parseDerInteger ((signatureDer.take rEnd).drop rStart)
  let s ← parseDerInteger ((signatureDer.take sEnd).drop sStart)
  pure (r, s)

theorem derToCompactLowS_eq (der : Bytes) :
    derToCompactLowS der = (do
      let (r, s) ← readDerIntegers der
      require (¬(r = 0 ∨ r ≥ curveOrder ∨ s = 0 ∨ s ≥ curveOrder))
        (.error "P-256 signature scalar is outside the curve order")
      let s := if s > halfCurveOrder then curveOrder - s else s
      pure ((leBytes 32 r).reverse ++ (leBytes 32 s).reverse)) := by
  simp only [derToCompactLowS, readDerIntegers, bind_assoc, pure_bind]

theorem readDerIntegers_eq_ok {der : Bytes} {r s : ℕ} :
    readDerIntegers der = .ok (r, s) ↔
      der = signature r s ∧ (integerOctets r).length ≤ 33 ∧ (integerOctets s).length ≤ 33 := by
  simp only [readDerIntegers, bind_eq_ok, require_eq_ok, pure_eq_ok, exists_unit, Prod.exists,
    readDerElement_eq_ok,
    parseDerInteger_eq_ok, Prod.mk.injEq]
  constructor
  · rintro ⟨start, stop, ⟨content, rest, -, hdrop, hstart, hstop⟩, hend, rStart, rStop,
      ⟨rContent, rRest, -, hrDrop, hrStart, hrStop⟩, sStart, sStop,
      ⟨sContent, sRest, -, hsDrop, hsStart, hsStop⟩, hsEnd,
      _, ⟨hrLength, hr⟩, _, ⟨hsLength, hs⟩, rfl, rfl⟩
    obtain ⟨hcontent, -, hlength, -⟩ := parts_of_element hdrop hstart hstop
    obtain ⟨-, hrNext, -, hrSlice⟩ := parts_of_element hrDrop hrStart hrStop
    obtain ⟨-, -, hsLast, hsSlice⟩ := parts_of_element hsDrop hsStart hsStop
    have hrest : rest = [] := List.length_eq_zero_iff.mp (by omega)
    have hsRest : sRest = [] := List.length_eq_zero_iff.mp (by omega)
    rw [hrSlice] at hr hrLength
    rw [hsSlice] at hs hsLength
    subst hr hs hrest hsRest
    rw [List.append_nil] at hdrop hcontent hsDrop
    refine ⟨?_, hrLength, hsLength⟩
    rw [signature, integer, integer, ← hsDrop, hrNext, ← hrDrop, hcontent, ← hdrop, List.drop_zero]
  · rintro ⟨rfl, hr, hs⟩
    have hrLength : (integer r).length = (integerOctets r).length + 2 := length_element (by omega)
    have hsLength : (integer s).length = (integerOctets s).length + 2 := length_element (by omega)
    have hcontent : (integer r ++ integer s).length < 128 := by
      rw [List.length_append]
      omega
    have hdrop : (signature r s).drop 0 = element 0x30 (integer r ++ integer s) ++ [] := by
      simp [signature]
    obtain ⟨hinner, -, hlength, -⟩ := parts_of_element hdrop rfl rfl
    have hrDrop := hinner.trans (List.append_nil _)
    obtain ⟨-, hrNext, -, hrSlice⟩ := parts_of_element hrDrop rfl rfl
    have hsDrop := hrNext.trans (List.append_nil _).symm
    obtain ⟨-, -, hsLast, hsSlice⟩ := parts_of_element hsDrop rfl rfl
    refine ⟨_, _, ⟨_, _, by omega, hdrop, rfl, rfl⟩, ?_, _, _,
      ⟨_, _, by omega, hrDrop, rfl, rfl⟩, _, _,
      ⟨_, _, by omega, hsDrop, rfl, rfl⟩, ?_, r, ⟨?_, hrSlice⟩, s, ⟨?_, hsSlice⟩, rfl, rfl⟩
    · simpa using hlength
    · simp only [List.length_nil] at hlength hsLast
      omega
    · rw [hrSlice]
      exact hr
    · rw [hsSlice]
      exact hs

/-- A scalar that a signature over the curve can have. -/
def IsScalar (k : ℕ) : Prop := 1 ≤ k ∧ k < curveOrder

/-- `bigIntTo32Bytes`. -/
def be32 (k : ℕ) : Bytes := (leBytes 32 k).reverse

@[simp] theorem length_be32 (k : ℕ) : (be32 k).length = 32 := by simp [be32]

theorem value_be32 {k : ℕ} (h : k < 256 ^ 32) : value (be32 k) = k := by
  rw [value, be32, List.reverse_reverse, ofDigits_leBytes, Nat.mod_eq_of_lt h]

theorem IsScalar.lt_pow {k : ℕ} (h : IsScalar k) : k < 256 ^ 32 := lt_trans h.2 (by decide)

theorem IsScalar.length_integerOctets {k : ℕ} (h : IsScalar k) : (integerOctets k).length ≤ 33 :=
  Der.length_integerOctets h.lt_pow

theorem lowS_eq_min (s : ℕ) :
    (if s > halfCurveOrder then curveOrder - s else s) = min s (curveOrder - s) := by
  have hodd : curveOrder = 2 * halfCurveOrder + 1 := by decide
  split <;> omega

theorem isScalar_min {s : ℕ} (h : IsScalar s) : IsScalar (min s (curveOrder - s)) := by
  obtain ⟨hpos, hlt⟩ := h
  exact ⟨by omega, by omega⟩

theorem derToCompactLowS_eq_ok {der out : Bytes} :
    derToCompactLowS der = .ok out ↔
      ∃ r s, IsScalar r ∧ IsScalar s ∧ der = signature r s ∧ out = be32 r ++
        be32 (min s (curveOrder - s)) := by
  rw [derToCompactLowS_eq]
  simp only [bind_eq_ok, Prod.exists, require_eq_ok, exists_unit, pure_eq_ok, readDerIntegers_eq_ok,
    lowS_eq_min]
  constructor
  · rintro ⟨r, s, ⟨hder, -, -⟩, hrange, rfl⟩
    exact ⟨r, s, ⟨by omega, by omega⟩, ⟨by omega, by omega⟩, hder, rfl⟩
  · rintro ⟨r, s, hr, hs, hder, rfl⟩
    refine ⟨r, s, ⟨hder, hr.length_integerOctets, hs.length_integerOctets⟩, ?_, rfl⟩
    obtain ⟨hrPos, hrLt⟩ := hr
    obtain ⟨hsPos, hsLt⟩ := hs
    omega

/-- The conversion accepts exactly the distinguished encodings of two scalars, and what it
returns is a signature in its low form, which its own encoding converts to again. -/
theorem derToCompactLowS_canonical (der : Bytes) :
    (∀ out, derToCompactLowS der = .ok out ↔
      ∃ r s, IsScalar r ∧ IsScalar s ∧ der = signature r s ∧ out = be32 r ++
        be32 (min s (curveOrder - s))) ∧
    ∀ out, derToCompactLowS der = .ok out →
      ∃ r s, out = be32 r ++ be32 s ∧ IsScalar r ∧ IsScalar s ∧ s ≤ halfCurveOrder ∧
        value (out.take 32) = r ∧ value (out.drop 32) = s ∧
        derToCompactLowS (signature r s) = .ok out := by
  refine ⟨fun out => derToCompactLowS_eq_ok, fun out h => ?_⟩
  obtain ⟨r, s, hr, hs, -, rfl⟩ := derToCompactLowS_eq_ok.mp h
  have hlow := isScalar_min hs
  have htake : (be32 r ++ be32 (min s (curveOrder - s))).take 32 = be32 r :=
    List.take_left' (length_be32 r)
  have hdrop : (be32 r ++ be32 (min s (curveOrder - s))).drop 32 = be32 (min s (curveOrder - s)) :=
    List.drop_left' (length_be32 r)
  have hodd : curveOrder = 2 * halfCurveOrder + 1 := by decide
  have hfixed : min (min s (curveOrder - s)) (curveOrder - min s (curveOrder - s)) = min s
      (curveOrder - s) := by
    have := hs.2
    omega
  refine ⟨r, min s (curveOrder - s), rfl, hr, hlow, by omega, ?_, ?_, ?_⟩
  · rw [htake, value_be32 hr.lt_pow]
  · rw [hdrop, value_be32 hlow.lt_pow]
  · refine derToCompactLowS_eq_ok.mpr ⟨r, _, hr, hlow, rfl, ?_⟩
    rw [hfixed]

end ClientLibrary

section BackendReaders

/-- `BigInt('0x' + bytes.toString('hex'))`. -/
def bigIntFromHex (bytes : Bytes) : Except Failure ℤ :=
  bigInt (String.ofList ('0' :: 'x' :: toHex bytes))

/-- The closure that both readers take an integer with: its value, and where the next one starts.
Behind the end there is no length byte, and the slice up to that end is empty. -/
def readHexInteger (message : String) (der : Bytes) (offset : ℕ) : Except Failure (ℤ × ℕ) := do
  require (der[offset]? = some 0x02) (.error message)
  let length := der.getD (offset + 1) 0
  let value ← bigIntFromHex ((der.drop (offset + 2)).take length.toNat)
  pure (value, offset + 2 + length.toNat)

def parseDerSignature (der : Bytes) : Except Failure (ℤ × ℤ) := do
  require (der[0]? = some 0x30) (.error "Malformed signature: expected DER SEQUENCE")
  let seqLen := der.getD 1 0
  let offset := if seqLen &&& 0x80 ≠ 0 then 2 + (seqLen &&& 0x7f).toNat else 2
  let (r, offset) ← readHexInteger "Malformed signature: expected DER INTEGER" der offset
  let (s, _) ← readHexInteger "Malformed signature: expected DER INTEGER" der offset
  pure (r, s)

def decodeDerSignature (der : Bytes) : Except Failure (ℤ × ℤ) := do
  require (der[0]? = some 0x30) (.error "Malformed DER signature: expected SEQUENCE.")
  let offset := 2 + if der.getD 1 0 &&& 0x80 ≠ 0 then (der.getD 1 0 &&& 0x7f).toNat else 0
  let (r, offset) ← readHexInteger "Malformed DER signature: expected INTEGER." der offset
  let (s, _) ← readHexInteger "Malformed DER signature: expected INTEGER." der offset
  pure (r, s)

theorem hexChar_facts :
    ∀ n < 16, isWhiteSpace (hexChar n) = false ∧ digitValue (hexChar n) = n := by decide

theorem mem_toHex {bytes : Bytes} {c : Char} (h : c ∈ toHex bytes) : ∃ n < 16, c = hexChar n := by
  obtain ⟨b, -, hc⟩ := List.mem_flatMap.mp h
  have hlt := b.toNat_lt
  rcases List.mem_pair.mp hc with rfl | rfl
  · exact ⟨b.toNat / 16, by omega, rfl⟩
  · exact ⟨b.toNat % 16, by omega, rfl⟩

theorem value_cons (b : UInt8) (bytes : Bytes) :
    value (b :: bytes) = b.toNat * 256 ^ bytes.length + value bytes := by
  simp only [value, List.reverse_cons, List.map_append, List.map_cons, List.map_nil,
    Nat.ofDigits_append,
    Nat.ofDigits_singleton, List.length_map, List.length_reverse]
  ring

/-- Reading hexadecimal digits is reading bytes. -/
theorem foldl_toHex (bytes : Bytes) (n : ℕ) :
    (toHex bytes).foldl (fun n c => n * 16 + digitValue c) n = n * 256 ^ bytes.length +
      value bytes := by
  induction bytes generalizing n with
  | nil => simp [toHex, value]
  | cons b bytes ih =>
    have hlt := b.toNat_lt
    have hbyte : (n * 16 + b.toNat / 16) * 16 + b.toNat % 16 = n * 256 + b.toNat := by omega
    show (hexChar (b.toNat / 16) :: hexChar (b.toNat % 16) :: toHex bytes).foldl _ n = _
    rw [List.foldl_cons, List.foldl_cons, digitValue_hexChar _ (by omega),
      digitValue_hexChar _ (by omega), ih, hbyte,
      value_cons, List.length_cons]
    ring

theorem bigIntFromHex_eq_ok {bytes : Bytes} {n : ℤ} :
    bigIntFromHex bytes = .ok n ↔ bytes ≠ [] ∧ n = value bytes := by
  have htrim : trimChars ('0' :: 'x' :: toHex bytes) = '0' :: 'x' :: toHex bytes := by
    refine trimChars_eq_self fun c hc => ?_
    rcases List.mem_cons.mp hc with rfl | hc
    · decide
    rcases List.mem_cons.mp hc with rfl | hc
    · decide
    obtain ⟨n, hn, rfl⟩ := mem_toHex hc
    exact (hexChar_facts n hn).1
  have hdigits : (toHex bytes).any (fun c => 16 ≤ digitValue c) = false := by
    rw [List.any_eq_false]
    intro c hc
    obtain ⟨n, hn, rfl⟩ := mem_toHex hc
    simpa [(hexChar_facts n hn).2] using hn
  have hread : readDigits 16 (toHex bytes) = if toHex bytes = [] then none
      else some (value bytes : ℤ) := by
    simp [readDigits, hdigits, foldl_toHex]
  have hnil : toHex bytes = [] ↔ bytes = [] := by cases bytes <;> simp [toHex]
  rw [bigIntFromHex, bigInt, orError_eq_ok, stringToBigInt, String.toList_ofList, htrim]
  show readDigits 16 (toHex bytes) = some n ↔ _
  rw [hread]
  split
  · rename_i h
    simp [hnil.mp h]
  · rename_i h
    simp [mt hnil.mpr h, eq_comm]

/-- An integer header with content behind it. -/
structure IntegerAt (der : Bytes) (offset : ℕ) (length : UInt8) : Prop where
  tag : der[offset]? = some 0x02
  length_eq : der[offset + 1]? = some length
  length_ne : length ≠ 0
  content : offset + 2 < der.length

theorem readHexInteger_eq_ok {message : String} {der : Bytes} {offset next : ℕ} {n : ℤ} :
    readHexInteger message der offset = .ok (n, next) ↔
      ∃ length, IntegerAt der offset length ∧ next = offset + 2 + length.toNat ∧
        n = value ((der.drop (offset + 2)).take length.toNat) := by
  simp only [readHexInteger, bind_eq_ok, require_eq_ok, exists_unit, pure_eq_ok, Prod.mk.injEq,
    bigIntFromHex_eq_ok]
  have hne : ∀ length : UInt8, (der.drop (offset + 2)).take length.toNat ≠ [] ↔
      length ≠ 0 ∧ offset + 2 < der.length := by
    intro length
    rw [ne_eq, List.take_eq_nil_iff, not_or, List.drop_eq_nil_iff, not_le, ← UInt8.toNat_inj.ne]
    rfl
  constructor
  · rintro ⟨htag, _, ⟨hcontent, rfl⟩, rfl, rfl⟩
    obtain ⟨hlength, hin⟩ := (hne _).mp hcontent
    have hget : der[offset + 1]? = some (der.getD (offset + 1) 0) := by
      rw [List.getD_eq_getElem?_getD, List.getElem?_eq_getElem (by omega)]
      rfl
    exact ⟨_, ⟨htag, hget, hlength, hin⟩, rfl, rfl⟩
  · rintro ⟨length, ⟨htag, hget, hlength, hin⟩, rfl, rfl⟩
    have hgetD : der.getD (offset + 1) 0 = length := by
      rw [List.getD_eq_getElem?_getD, hget]
      rfl
    rw [hgetD]
    exact ⟨htag, _, ⟨(hne _).mpr ⟨hlength, hin⟩, rfl⟩, rfl, rfl⟩

/-- Where the readers expect the first integer: the octets of a long outer length are skipped. -/
def behindLength (der : Bytes) : ℕ :=
  2 + if der.getD 1 0 &&& 0x80 ≠ 0 then (der.getD 1 0 &&& 0x7f).toNat else 0

/-- Two integer headers, the second right behind the first integer, each with content. -/
def HasTwoIntegers (der : Bytes) (rLength sLength : UInt8) : Prop :=
  der[0]? = some 0x30 ∧ IntegerAt der (behindLength der) rLength ∧
    IntegerAt der (behindLength der + 2 + rLength.toNat) sLength

/-- What the readers make of two integer headers. -/
def ReadsAs (der : Bytes) (r s : ℤ) : Prop :=
  ∃ rLength sLength, HasTwoIntegers der rLength sLength ∧
    r = value ((der.drop (behindLength der + 2)).take rLength.toNat) ∧
    s = value ((der.drop (behindLength der + 2 + rLength.toNat + 2)).take sLength.toNat)

theorem decodeDerSignature_eq_ok {der : Bytes} {r s : ℤ} :
    decodeDerSignature der = .ok (r, s) ↔ ReadsAs der r s := by
  simp only [decodeDerSignature, bind_eq_ok, require_eq_ok, exists_unit, Prod.exists, pure_eq_ok,
    Prod.mk.injEq,
    readHexInteger_eq_ok]
  constructor
  · rintro ⟨hsequence, _, _, ⟨rLength, hr, rfl, rfl⟩, _, _, ⟨sLength, hs, -, rfl⟩, rfl, rfl⟩
    exact ⟨rLength, sLength, ⟨hsequence, hr, hs⟩, rfl, rfl⟩
  · rintro ⟨rLength, sLength, ⟨hsequence, hr, hs⟩, rfl, rfl⟩
    exact ⟨hsequence, _, _, ⟨rLength, hr, rfl, rfl⟩, _, _, ⟨sLength, hs, rfl, rfl⟩, rfl, rfl⟩

theorem parseDerSignature_eq_ok {der : Bytes} {r s : ℤ} :
    parseDerSignature der = .ok (r, s) ↔ ReadsAs der r s := by
  have hoffset : (if der.getD 1 0 &&& 0x80 ≠ 0 then 2 + (der.getD 1 0 &&& 0x7f).toNat
      else 2) = behindLength der := by
    unfold behindLength
    split <;> rfl
  simp only [parseDerSignature, bind_eq_ok, require_eq_ok, exists_unit, Prod.exists, pure_eq_ok,
    Prod.mk.injEq,
    readHexInteger_eq_ok, hoffset]
  constructor
  · rintro ⟨hsequence, _, _, ⟨rLength, hr, rfl, rfl⟩, _, _, ⟨sLength, hs, -, rfl⟩, rfl, rfl⟩
    exact ⟨rLength, sLength, ⟨hsequence, hr, hs⟩, rfl, rfl⟩
  · rintro ⟨rLength, sLength, ⟨hsequence, hr, hs⟩, rfl, rfl⟩
    exact ⟨hsequence, _, _, ⟨rLength, hr, rfl, rfl⟩, _, _, ⟨sLength, hs, rfl, rfl⟩, rfl, rfl⟩

/-- An encoded integer is an integer header with its content. -/
theorem integerAt_integer {der rest : Bytes} {offset n : ℕ}
    (h : der.drop offset = integer n ++ rest) (hlength : (integerOctets n).length < 128) :
    IntegerAt der offset (UInt8.ofNat (integerOctets n).length) ∧
      (der.drop (offset + 2)).take (integerOctets n).length = integerOctets n ∧
      der.drop (offset + 2 + (integerOctets n).length) = rest := by
  have hne : (integerOctets n).length ≠ 0 := fun hzero =>
    (minimal_integerOctets n).nonempty (List.length_eq_zero_iff.mp hzero)
  have hnat : (UInt8.ofNat (integerOctets n).length).toNat = (integerOctets n).length :=
    UInt8.toNat_ofNat_of_lt (by simp only [UInt8.size]; omega)
  rw [integer, element, lengthOctets_short hlength, List.cons_append, List.append_assoc,
    List.cons_append,
    List.nil_append] at h
  have hat : ∀ i, der[offset + i]? = _ := fun i => by rw [← List.getElem?_drop, h]
  have hcontent : der.drop (offset + 2) = integerOctets n ++ rest := by
    rw [← List.drop_drop, h]; rfl
  refine ⟨⟨hat 0, hat 1, fun hzero => hne ?_, ?_⟩, ?_, ?_⟩
  · rw [← hnat, hzero]
    rfl
  · have hlen := congrArg List.length hcontent
    rw [List.length_drop, List.length_append] at hlen
    omega
  · rw [hcontent, List.take_left]
  · rw [← List.drop_drop, hcontent, List.drop_left]

theorem and_short : ∀ n < 128, UInt8.ofNat n &&& 0x80 = 0 := by decide

/-- The readers extract the integers of a distinguished encoding. -/
theorem readsAs_signature {r s : ℕ} (hr : (integerOctets r).length ≤ 33)
    (hs : (integerOctets s).length ≤ 33) :
    ReadsAs (signature r s) r s := by
  have hrLength : (integer r).length = (integerOctets r).length + 2 := length_element (by omega)
  have hsLength : (integer s).length = (integerOctets s).length + 2 := length_element (by omega)
  have hcontent : (integer r ++ integer s).length < 128 := by
    rw [List.length_append]
    omega
  have hder : signature r s = 0x30 :: UInt8.ofNat (integer r ++ integer s).length ::
      (integer r ++ integer s) := by
    rw [signature, element, lengthOctets_short hcontent]
    rfl
  have hbehind : behindLength (signature r s) = 2 := by
    rw [behindLength, hder]
    show (2 + if UInt8.ofNat (integer r ++ integer s).length &&& 0x80 ≠ 0 then _ else 0) = 2
    rw [if_neg (not_not.mpr (and_short _ hcontent))]
  have hnat : ∀ n, (integerOctets n).length ≤ 33 →
      (UInt8.ofNat (integerOctets n).length).toNat = (integerOctets n).length := by
    intro n hn
    exact UInt8.toNat_ofNat_of_lt (by simp only [UInt8.size]; omega)
  have hdrop : (signature r s).drop 2 = integer r ++ integer s := by rw [hder]; rfl
  obtain ⟨hrAt, hrValue, hrest⟩ := integerAt_integer hdrop (by omega)
  obtain ⟨hsAt, hsValue, -⟩ := integerAt_integer (hrest.trans (List.append_nil _).symm) (by omega)
  have hsequence : (signature r s)[0]? = some 0x30 := by rw [hder]; rfl
  refine ⟨UInt8.ofNat (integerOctets r).length, UInt8.ofNat (integerOctets s).length,
    ⟨hsequence, ?_, ?_⟩, ?_, ?_⟩
  · rw [hbehind]
    exact hrAt
  · rw [hbehind, hnat r hr]
    exact hsAt
  · rw [hbehind, hnat r hr, hrValue, value_integerOctets]
  · rw [hbehind, hnat r hr, hnat s hs, hsValue, value_integerOctets]

end BackendReaders

section Agreement

/-- The distinguished encoding of two numbers from 1 to below 2^256. -/
def IsStrict (der : Bytes) (r s : ℕ) : Prop :=
  (1 ≤ r ∧ r < 2 ^ 256) ∧ (1 ≤ s ∧ s < 2 ^ 256) ∧ der = signature r s

def Throws {α : Type} (result : Except Failure α) : Prop := ∃ e, result = .error e

/-- All three readers extract the integers of a distinguished encoding, and reject anything else. -/
def ParsersAgree (der : Bytes) : Prop :=
  (∀ r s, IsStrict der r s →
    parseDerSignature der = .ok ((r : ℤ), (s : ℤ)) ∧
    decodeDerSignature der = .ok ((r : ℤ), (s : ℤ)) ∧
      readDerIntegers der = .ok (r, s)) ∧
  ((∀ r s, ¬IsStrict der r s) →
    Throws (parseDerSignature der) ∧ Throws (decodeDerSignature der) ∧ Throws (readDerIntegers der))

theorem throws_iff {α : Type} {result : Except Failure α} :
    Throws result ↔ ∀ a, result ≠ .ok a := by
  cases result with
  | error e => exact iff_of_true ⟨e, rfl⟩ fun a h => nomatch h
  | ok a => exact iff_of_false (fun ⟨e, h⟩ => nomatch h) fun h => h a rfl

theorem IsStrict.length_integerOctets {der : Bytes} {r s : ℕ} (h : IsStrict der r s) :
    (integerOctets r).length ≤ 33 ∧ (integerOctets s).length ≤ 33 := by
  have hpow : 2 ^ 256 = 256 ^ 32 := by norm_num
  obtain ⟨⟨-, hr⟩, ⟨-, hs⟩, -⟩ := h
  rw [hpow] at hr hs
  exact ⟨Der.length_integerOctets hr, Der.length_integerOctets hs⟩

/-- The three readers agree on a byte string exactly when it is a distinguished encoding of two
numbers in range or the two of the backend find no two integer headers in it. -/
theorem parsersAgree_iff (der : Bytes) :
    ParsersAgree der ↔ (∃ r s, IsStrict der r s) ∨
    ∀ rLength sLength, ¬HasTwoIntegers der rLength sLength := by
  constructor
  · intro hagree
    by_cases hstrict : ∃ r s, IsStrict der r s
    · exact .inl hstrict
    · refine .inr fun rLength sLength htwo => ?_
      have hthrows := (hagree.2 fun r s h => hstrict ⟨r, s, h⟩).1
      exact throws_iff.mp hthrows _ (parseDerSignature_eq_ok.mpr ⟨rLength, sLength, htwo, rfl, rfl⟩)
  · intro hcondition
    refine ⟨fun r s hstrict => ?_, fun hloose => ?_⟩
    · obtain ⟨hr, hs⟩ := hstrict.length_integerOctets
      obtain ⟨-, -, rfl⟩ := hstrict
      have hreads := readsAs_signature hr hs
      exact ⟨parseDerSignature_eq_ok.mpr hreads, decodeDerSignature_eq_ok.mpr hreads,
        readDerIntegers_eq_ok.mpr ⟨rfl, hr, hs⟩⟩
    · have hnone : ∀ r s, ¬ReadsAs der r s := by
        rintro r s ⟨rLength, sLength, htwo, -, -⟩
        rcases hcondition with ⟨r, s, hstrict⟩ | hcondition
        · exact hloose r s hstrict
        · exact hcondition rLength sLength htwo
      refine ⟨throws_iff.mpr fun _ h => ?_, throws_iff.mpr fun _ h => ?_, throws_iff.mpr
        fun _ h => ?_⟩
      · exact hnone _ _ (parseDerSignature_eq_ok.mp h)
      · exact hnone _ _ (decodeDerSignature_eq_ok.mp h)
      · obtain ⟨rfl, hr, hs⟩ := readDerIntegers_eq_ok.mp h
        exact hnone _ _ (readsAs_signature hr hs)

/-- Data behind a signature: the readers of the backend take it, the client library's does not. -/
theorem parsers_disagree : ¬ParsersAgree [0x30, 6, 2, 1, 1, 2, 1, 1, 0] := by
  intro hagree
  have hrejects : readDerIntegers [0x30, 6, 2, 1, 1, 2, 1, 1, 0] = .error
      (.error "DER signature contains trailing data") :=
    rfl
  have haccepts : ReadsAs [0x30, 6, 2, 1, 1, 2, 1, 1, 0] 1 1 :=
    ⟨1, 1, ⟨rfl, ⟨rfl, rfl, by decide, by decide⟩, ⟨rfl, rfl, by decide, by decide⟩⟩, rfl, rfl⟩
  have hloose : ∀ r s, ¬IsStrict [0x30, 6, 2, 1, 1, 2, 1, 1, 0] r s := by
    intro r s hstrict
    rw [(hagree.1 r s hstrict).2.2] at hrejects
    cases hrejects
  exact throws_iff.mp (hagree.2 hloose).1 _ (parseDerSignature_eq_ok.mpr haccepts)

end Agreement

end VeriAgentPay.Backend
