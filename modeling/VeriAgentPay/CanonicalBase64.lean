import VeriAgentPay.LedgerRuns
import VeriAgentPay.ScriptValues

/-!
# The strings that decode as base64url

A text of base64url characters is its sextets. The client library decodes whatever whole bytes
they fill; the program's decoder wants the rest of the bits to be zero, which is when encoding
the bytes again gives the text.
-/

namespace VeriAgentPay.Backend
open FixedWidth CheckedOutcome TextEncodings Client

theorem toNat_lt_of_isBase64UrlChar {c : Char} (h : isBase64UrlChar c) : c.toNat < 128 := by
  delta isBase64UrlChar Char.isAlphanum Char.isAlpha Char.isUpper Char.isLower at h
  simp only [Char.isDigit, Bool.or_eq_true, Bool.and_eq_true, decide_eq_true_eq,
    UInt32.le_iff_toNat_le] at h
  rcases h with (((⟨-, h⟩ | ⟨-, h⟩) | ⟨-, h⟩) | rfl) | rfl
  · exact lt_of_le_of_lt h (by decide)
  · exact lt_of_le_of_lt h (by decide)
  · exact lt_of_le_of_lt h (by decide)
  · decide
  · decide

theorem plainChar_facts : ∀ n < 128, isBase64UrlChar (Char.ofNat n) →
    (Base64.sextetOf (plainChar (Char.ofNat n))).isSome ∧
    urlChar (plainChar (Char.ofNat n)) = Char.ofNat n := by
  decide +kernel

/-- Each character stands for a sextet, and no other character for the same one. -/
theorem exists_sextet {c : Char} (h : isBase64UrlChar c) :
    ∃ n < 64, Base64.sextetOf (plainChar c) = some n ∧ urlChar (Base64.charOf n) = c := by
  have hfacts := plainChar_facts c.toNat (toNat_lt_of_isBase64UrlChar h)
  rw [Char.ofNat_toNat] at hfacts
  obtain ⟨hsome, hback⟩ := hfacts h
  obtain ⟨n, hn⟩ := Option.isSome_iff_exists.mp hsome
  obtain ⟨hlt, hchar⟩ := Base64.charOf_sextetOf hn
  exact ⟨n, hlt, hn, by rw [hchar, hback]⟩

def sextetsOf (value : String) : List ℕ := (value.toList.map plainChar).filterMap Base64.sextetOf

/-- The texts that `base64UrlToBytes` lets through. -/
structure IsBase64UrlText (value : String) : Prop where
  nonempty : value.toList ≠ []
  chars : value.toList.all isBase64UrlChar
  length : value.toList.length % 4 ≠ 1

theorem map_sextets {text : List Char} (h : text.all isBase64UrlChar) :
    (∀ n ∈ (text.map plainChar).filterMap Base64.sextetOf, n < 64) ∧
      ((text.map plainChar).filterMap Base64.sextetOf).map (fun n => urlChar (Base64.charOf n)) =
        text := by
  induction text with
  | nil => simp
  | cons c text ih =>
    rw [List.all_cons, Bool.and_eq_true] at h
    obtain ⟨n, hlt, hn, hchar⟩ := exists_sextet h.1
    obtain ⟨hsmall, hmap⟩ := ih h.2
    rw [List.map_cons, List.filterMap_cons_some hn]
    refine ⟨?_, ?_⟩
    · intro m hm
      rcases List.mem_cons.mp hm with rfl | hm
      · exact hlt
      · exact hsmall m hm
    · rw [List.map_cons, hchar, hmap]

theorem base64UrlToBytes_eq_ok {value : String} {bytes : Bytes} :
    base64UrlToBytes value = .ok bytes ↔ IsBase64UrlText value ∧
    bytes = Base64.fromSextets (sextetsOf value) := by
  simp only [base64UrlToBytes, bind_eq_ok, require_eq_ok, exists_unit, pure_eq_ok]
  have hdecode :
      Base64.decode
        (value.toList.map plainChar ++ List.replicate ((4 - value.toList.length % 4) % 4) '=') =
      Base64.fromSextets (sextetsOf value) := by
    rw [Base64.decode, List.filterMap_append, List.filterMap_replicate_of_none (by decide),
      List.append_nil, sextetsOf]
  rw [hdecode]
  constructor
  · rintro ⟨⟨hne, hchars, hlength⟩, rfl⟩
    exact ⟨⟨hne, hchars, hlength⟩, rfl⟩
  · rintro ⟨⟨hne, hchars, hlength⟩, rfl⟩
    exact ⟨⟨hne, hchars, hlength⟩, rfl⟩

theorem sextetsOf_bytesToBase64Url (bytes : Bytes) :
    sextetsOf (bytesToBase64Url bytes) = Base64.sextets bytes := by
  rw [sextetsOf, toList_bytesToBase64Url, map_plainChar_sextets]
  exact Base64.filterMap_charOf fun n => Base64.sextets_lt

/-- A text is the encoding of the bytes that it decodes to when its last character has no
unused bits set. -/
theorem bytesToBase64Url_fromSextets {value : String} (h : IsBase64UrlText value) :
    bytesToBase64Url (Base64.fromSextets (sextetsOf value)) = value ↔
    Base64.unusedBits (sextetsOf value) = 0 := by
  obtain ⟨hsmall, hmap⟩ :
      (∀ n ∈ sextetsOf value, n < 64) ∧
        (sextetsOf value).map (fun n => urlChar (Base64.charOf n)) = value.toList :=
          map_sextets h.chars
  have hlength : (sextetsOf value).length % 4 ≠ 1 := by
    have hcount := congrArg List.length hmap
    rw [List.length_map] at hcount
    rw [hcount]
    exact h.length
  rw [← Base64.sextets_fromSextets hsmall hlength]
  constructor
  · intro hvalue
    have hback := sextetsOf_bytesToBase64Url (Base64.fromSextets (sextetsOf value))
    rw [hvalue] at hback
    exact hback.symm
  · intro hsextets
    rw [← String.toList_inj, toList_bytesToBase64Url]
    exact (congrArg (List.map fun n => urlChar (Base64.charOf n)) hsextets).trans hmap

section Canonical

variable (rt : Runtime)

/-- `Base64UrlUnpadded::decode_vec` returns what it encodes to the text, and nothing else. -/
def DecodesCanonically : Prop :=
  ∀ value bytes, rt.decodeBase64Url value = some bytes ↔ value = bytesToBase64Url bytes

/-- `base64UrlToBytes` succeeds on the text exactly if it is the encoding of some bytes. -/
def AcceptsCanonical (value : String) : Prop :=
  ∀ bytes, base64UrlToBytes value = .ok bytes ↔ bytes ≠ [] ∧ value = bytesToBase64Url bytes

/-- The library and the program read the same bytes from the text. -/
def AgreesOnChain (value : String) : Prop :=
  ∀ bytes, bytes ≠ [] → (base64UrlToBytes value = .ok bytes ↔ rt.decodeBase64Url value = some bytes)

/-- Accepted text whose last character has bits that belong to no byte. -/
def HasUnusedBits (value : String) : Prop :=
  IsBase64UrlText value ∧ Base64.unusedBits (sextetsOf value) ≠ 0

variable {rt} {value : String}

theorem acceptsCanonical_iff : AcceptsCanonical value ↔ ¬HasUnusedBits value := by
  constructor
  · rintro haccepts ⟨htext, hbits⟩
    have hvalue := ((haccepts _).mp (base64UrlToBytes_eq_ok.mpr ⟨htext, rfl⟩)).2
    exact hbits ((bytesToBase64Url_fromSextets htext).mp hvalue.symm)
  · intro h bytes
    rw [base64UrlToBytes_eq_ok]
    constructor
    · rintro ⟨htext, rfl⟩
      have hbits : Base64.unusedBits (sextetsOf value) = 0 :=
        not_not.mp fun hbits => h ⟨htext, hbits⟩
      have hvalue := (bytesToBase64Url_fromSextets htext).mpr hbits
      refine ⟨fun hnil => htext.nonempty ?_, hvalue.symm⟩
      rw [← hvalue, hnil]
      decide
    · rintro ⟨hne, rfl⟩
      exact base64UrlToBytes_eq_ok.mp (base64UrlToBytes_bytesToBase64Url hne)

/-- Accepted text is at least one byte. -/
theorem fromSextets_ne_nil (h : IsBase64UrlText value) :
    Base64.fromSextets (sextetsOf value) ≠ [] := by
  have hcount : (sextetsOf value).length = value.toList.length := by
    rw [← List.length_map (f := fun n => urlChar (Base64.charOf n)), sextetsOf,
      (map_sextets h.chars).2]
  have hne := h.nonempty
  have hlength := h.length
  rw [← List.length_pos_iff, ← hcount] at hne
  rw [← hcount] at hlength
  match sextetsOf value, hne, hlength with
  | [_], _, hlength => exact absurd rfl hlength
  | [_, _], _, _ => simp [Base64.fromSextets]
  | [_, _, _], _, _ => simp [Base64.fromSextets]
  | _ :: _ :: _ :: _ :: _, _, _ => simp [Base64.fromSextets]

theorem agreesOnChain_iff (hdecode : DecodesCanonically rt) :
    AgreesOnChain rt value ↔ ¬HasUnusedBits value := by
  constructor
  · rintro hagrees ⟨htext, hbits⟩
    have hread :=
      (hagrees _ (fromSextets_ne_nil htext)).mp (base64UrlToBytes_eq_ok.mpr ⟨htext, rfl⟩)
    rw [hdecode] at hread
    exact hbits ((bytesToBase64Url_fromSextets htext).mp hread.symm)
  · intro h bytes hne
    rw [acceptsCanonical_iff.mpr h bytes, hdecode value bytes]
    exact and_iff_right hne

/-- The library accepts exactly the canonical encodings, as the program's decoder does, unless
the text has unused bits set. -/
theorem base64Url_canonical_iff (rt : Runtime) (hdecode : DecodesCanonically rt) (value : String) :
    (AcceptsCanonical value ↔ ¬HasUnusedBits value) ∧
    (AgreesOnChain rt value ↔ ¬HasUnusedBits value) :=
  ⟨acceptsCanonical_iff, agreesOnChain_iff hdecode⟩

end Canonical

end VeriAgentPay.Backend

namespace VeriAgentPay.Devnet
open Backend FixedWidth

def decodeStrictly (value : String) : Option Bytes :=
  let bytes := base64UrlToBuffer value
  if bytesToBase64Url bytes = value then some bytes else none

theorem decodeStrictly_eq_some {value : String} {bytes : Bytes} :
    decodeStrictly value = some bytes ↔ value = bytesToBase64Url bytes := by
  unfold decodeStrictly
  constructor
  · intro h
    dsimp only at h
    split at h
    · rename_i hvalue
      rw [← Option.some.inj h]
      exact hvalue.symm
    · cases h
  · rintro rfl
    rw [base64UrlToBuffer_bytesToBase64Url]
    exact if_pos rfl

def strictRuntime : Runtime := { runtime with decodeBase64Url := decodeStrictly }

theorem strictRuntime_decodes : DecodesCanonically strictRuntime := by
  simp only [DecodesCanonically, strictRuntime, decodeStrictly_eq_some, implies_true]

theorem unused_bits_QR : HasUnusedBits "QR" :=
  ⟨⟨by decide +kernel, by decide +kernel, by decide +kernel⟩, by decide +kernel⟩

/-- A second text for the byte 0x41. -/
theorem accepts_second_text : ¬AcceptsCanonical "QR" ∧ ¬AgreesOnChain strictRuntime "QR" :=
  ⟨fun h => acceptsCanonical_iff.mp h unused_bits_QR,
    fun h => (agreesOnChain_iff strictRuntime_decodes).mp h unused_bits_QR⟩

theorem base64Url_canonical_devnet :
    (AcceptsCanonical "QQ" ↔ ¬HasUnusedBits "QQ") ∧
    (AgreesOnChain strictRuntime "QQ" ↔ ¬HasUnusedBits "QQ") :=
  base64Url_canonical_iff strictRuntime strictRuntime_decodes "QQ"

end VeriAgentPay.Devnet
