import Mathlib.Algebra.Order.Floor.Ring
import Mathlib.Data.Rat.Floor
import VeriAgentPay.TextEncodings
import VeriAgentPay.ClientChallenges

/-!
# Values of the backend's language and their texts

Big integers, amounts, keys and byte strings travel through the backend as text. Each writer
below has its reader, and the reader gives back what was written; what a reader throws on is
one of the failures a service can end with.
-/

namespace VeriAgentPay.Backend
open FixedWidth CheckedOutcome TextEncodings Client

/-- What a service throws: the request errors with their texts, or any other error. -/
inductive Failure where
  | badRequest (message : String)
  | forbidden (message : String)
  | unauthorized (message : String)
  | notFound (message : String)
  | error (message : String)
  deriving DecidableEq

def Failure.message : Failure → String
  | badRequest message | forbidden message | unauthorized message | notFound message | error
    message => message

/-- A request to the database or to another service that does not succeed. -/
def outage : Failure := .error "The request failed."

/-- `WhiteSpace` and `LineTerminator` of the language. -/
def isWhiteSpace (c : Char) : Bool :=
  c.toNat ∈ [9, 10, 11, 12, 13, 32, 0xa0, 0x1680, 0x2028, 0x2029, 0x202f, 0x205f, 0x3000, 0xfeff] ||
    (0x2000 ≤ c.toNat && c.toNat ≤ 0x200a)

def trimChars (text : List Char) : List Char :=
  ((text.dropWhile isWhiteSpace).reverse.dropWhile isWhiteSpace).reverse

/-- `String.prototype.trim`. -/
def trim (text : String) : String := String.ofList (trimChars text.toList)

section BigIntegers

def digitValue (c : Char) : ℕ :=
  if c.isDigit then c.toNat - '0'.toNat
  else if 'a' ≤ c ∧ c ≤ 'f' then c.toNat - 'a'.toNat + 10
  else if 'A' ≤ c ∧ c ≤ 'F' then c.toNat - 'A'.toNat + 10
  else 16

def readDigits (base : ℕ) (text : List Char) : Option ℤ :=
  if text = [] ∨ text.any (fun c => base ≤ digitValue c) then none
  else some ((text.foldl (fun n c => n * base + digitValue c) 0 : ℕ) : ℤ)

/-- `BigInt(text)`; none where it throws a syntax error. -/
def stringToBigInt (text : String) : Option ℤ :=
  match trimChars text.toList with
  | [] => some 0
  | '0' :: 'x' :: digits | '0' :: 'X' :: digits => readDigits 16 digits
  | '0' :: 'o' :: digits | '0' :: 'O' :: digits => readDigits 8 digits
  | '0' :: 'b' :: digits | '0' :: 'B' :: digits => readDigits 2 digits
  | '-' :: digits => (readDigits 10 digits).map Neg.neg
  | '+' :: digits => readDigits 10 digits
  | digits => readDigits 10 digits

def bigInt (text : String) : Except Failure ℤ :=
  orError (stringToBigInt text) (.error "Cannot convert the text to a BigInt")

/-- `value.toString()` of a big integer. -/
def bigIntToString (value : ℤ) : String :=
  match value with
  | .ofNat n => String.ofList (Nat.toDigits 10 n)
  | .negSucc n => String.ofList ('-' :: Nat.toDigits 10 (n + 1))

theorem isDigit_facts {c : Char} (h : c.isDigit) :
    isWhiteSpace c = false ∧ digitValue c = c.toNat - '0'.toNat ∧ digitValue c < 10 ∧
    c ≠ 'x' ∧ c ≠ 'X' ∧
      c ≠ 'o' ∧ c ≠ 'O' ∧ c ≠ 'b' ∧ c ≠ 'B' ∧ c ≠ '-' ∧ c ≠ '+' := by
  have hrange : 48 ≤ c.toNat ∧ c.toNat ≤ 57 := by
    simpa [Char.isDigit, UInt32.le_iff_toNat_le] using h
  refine ⟨?_, by rw [digitValue, if_pos h], ?_, ?_⟩
  · simp [isWhiteSpace]
    omega
  · rw [digitValue, if_pos h]
    change c.toNat - 48 < 10
    omega
  · refine ⟨?_, ?_, ?_, ?_, ?_, ?_, ?_, ?_⟩ <;>
    · rintro rfl
      revert hrange
      decide

theorem toDigits_isDigit {n : ℕ} {c : Char} (h : c ∈ Nat.toDigits 10 n) : c.isDigit :=
  Nat.isDigit_of_mem_toDigits (by decide) (by decide) h

theorem trimChars_eq_self {text : List Char} (h : ∀ c ∈ text, isWhiteSpace c = false) :
    trimChars text = text := by
  have hdrop : ∀ l :
      List Char, (∀ c ∈ l, isWhiteSpace c = false) → l.dropWhile isWhiteSpace = l := by
    intro l hl
    cases l with
    | nil => rfl
    | cons c l => rw [List.dropWhile_cons_of_neg (by simp [hl c (List.mem_cons_self ..)])]
  rw [trimChars, hdrop text h,
    hdrop _ fun c hc => h c (List.mem_reverse.mp hc), List.reverse_reverse]

theorem readDigits_of_isDigit {text : List Char} (hne : text ≠ []) (h : ∀ c ∈ text, c.isDigit) :
    readDigits 10 text = some (Nat.ofDigitChars 10 text 0 : ℤ) := by
  have hsmall : text.any (fun c => 10 ≤ digitValue c) = false := by
    rw [List.any_eq_false]
    intro c hc
    have := (isDigit_facts (h c hc)).2.2.1
    simpa using this
  have hfold : ∀ (l : List Char) (n : ℕ), (∀ c ∈ l, c.isDigit) →
      l.foldl (fun n c => n * 10 + digitValue c) n = Nat.ofDigitChars 10 l n := by
    intro l
    induction l with
    | nil => simp
    | cons c l ih =>
      intro n hl
      rw [List.foldl_cons,
        ih _ fun c' hc' => hl c' (List.mem_cons_of_mem c hc'), Nat.ofDigitChars_cons,
        (isDigit_facts (hl c (List.mem_cons_self ..))).2.1, Nat.mul_comm]
  rw [readDigits, if_neg (by simp [hne, hsmall]), hfold text 0 h]

/-- Text of digits alone is read in base ten, whatever its leading zeros. -/
theorem stringToBigInt_digits {text : List Char} (hne : text ≠ []) (h : ∀ c ∈ text, c.isDigit) :
    stringToBigInt (String.ofList text) = some (Nat.ofDigitChars 10 text 0 : ℤ) := by
  rw [← readDigits_of_isDigit hne h, stringToBigInt, String.toList_ofList,
    trimChars_eq_self fun c hc => (isDigit_facts (h c hc)).1]
  cases text with
  | nil => exact absurd rfl hne
  | cons c text =>
    have hc := isDigit_facts (h c (List.mem_cons_self ..))
    split <;> simp_all [isDigit_facts]

theorem stringToBigInt_bigIntToString (value : ℤ) :
    stringToBigInt (bigIntToString value) = some value := by
  cases value with
  | ofNat n =>
    rw [bigIntToString, stringToBigInt_digits Nat.toDigits_ne_nil fun c => toDigits_isDigit,
      Nat.ofDigitChars_ten_toDigits]
    rfl
  | negSucc n =>
    have hdigits : ∀ c ∈ Nat.toDigits 10 (n + 1), c.isDigit := fun c => toDigits_isDigit
    have htrim : trimChars ('-' :: Nat.toDigits 10 (n + 1)) = '-' :: Nat.toDigits 10 (n + 1) := by
      refine trimChars_eq_self fun c hc => ?_
      rcases List.mem_cons.mp hc with rfl | hc
      · decide
      · exact (isDigit_facts (hdigits c hc)).1
    rw [bigIntToString, stringToBigInt, String.toList_ofList, htrim]
    show (readDigits 10 (Nat.toDigits 10 (n + 1))).map Neg.neg = _
    rw [readDigits_of_isDigit Nat.toDigits_ne_nil hdigits, Nat.ofDigitChars_ten_toDigits]
    rfl

theorem bigInt_bigIntToString (value : ℤ) : bigInt (bigIntToString value) = .ok value := by
  rw [bigInt, stringToBigInt_bigIntToString]
  rfl

end BigIntegers

section Amounts

/-- `a < b` of two numbers. -/
def lessThan : JsNumber → JsNumber → Bool
  | .notANumber, _ | _, .notANumber => false
  | .finite a, .finite b => a < b
  | .infinite negative, .infinite negative' => negative && !negative'
  | .infinite negative, .finite _ => negative
  | .finite _, .infinite negative => !negative

/-- `a <= b` of two numbers. -/
def lessOrEqual (a b : JsNumber) : Bool := lessThan a b || (a = b && a ≠ .notANumber)

/-- `value.toFixed(digits)` of a number from zero to below 10^21: ties go up. -/
def fixedText (digits : ℕ) (value : ℚ) : List Char :=
  let text := Nat.toDigits 10 (value * 10 ^ digits + 1 / 2).floor.toNat
  let text := List.replicate (digits + 1 - text.length) '0' ++ text
  text.take (text.length - digits) ++ '.' :: text.drop (text.length - digits)

/-- From 10^21 on `toFixed` writes an exponent, which no big integer is read from. -/
def requireFixed (value : ℚ) : Except Failure Unit :=
  require (value < 10 ^ 21) (.error "Cannot convert the text to a BigInt")

/-- `BigInt(amount.toFixed(decimals).replace('.', ''))` behind the checks of an amount. -/
def toAtomicUnits (decimals : ℕ) (limit : Option ℚ) (message : String) : JsNumber → Except Failure ℤ
  | .finite amount => do
    require (¬(amount ≤ 0 ∨ limit.any (amount > ·))) (.badRequest message)
    requireFixed amount
    bigInt (String.ofList ((fixedText decimals amount).erase '.'))
  | _ => .error (.badRequest message)

/-- The amount in atomic units, rounded to the nearest. -/
def atomicUnits (decimals : ℕ) (amount : ℚ) : ℤ := (amount * 10 ^ decimals + 1 / 2).floor

theorem erase_append_dot {a b : List Char} (h : '.' ∉ a) : (a ++ '.' :: b).erase '.' = a ++ b := by
  rw [List.erase_append_right _ h, List.erase_cons_head]

theorem toAtomicUnits_ok {decimals : ℕ} {limit : Option ℚ} {message : String}
    {amount : JsNumber} {n : ℤ} (h : toAtomicUnits decimals limit message amount = .ok n) :
    ∃ x : ℚ, amount = .finite x ∧ 0 < x ∧ n = atomicUnits decimals x := by
  cases amount with
  | notANumber => cases h
  | infinite => cases h
  | finite x =>
    simp only [toAtomicUnits, bind_eq_ok, require_eq_ok, not_or, not_le] at h
    obtain ⟨-, ⟨hpositive, -⟩, -, -, h⟩ := h
    refine ⟨x, rfl, hpositive, ?_⟩
    have hfloor : 0 ≤ (x * 10 ^ decimals + 1 / 2).floor := Rat.le_floor_iff.mpr (by positivity)
    have hdigits :
        ∀ n, ∀ c ∈ List.replicate n '0' ++ Nat.toDigits 10 (x * 10 ^ decimals + 1 / 2).floor.toNat,
        c.isDigit := by
      intro n c hc
      rcases List.mem_append.mp hc with hc | hc
      · obtain rfl := List.eq_of_mem_replicate hc
        decide
      · exact toDigits_isDigit hc
    have hdot : ∀ n m, '.' ∉
        (List.replicate n '0' ++
          Nat.toDigits 10 (x * 10 ^ decimals + 1 / 2).floor.toNat).take m := by
      intro n m hmem
      have := hdigits n _ (List.mem_of_mem_take hmem)
      revert this
      decide
    rw [bigInt, fixedText, erase_append_dot (hdot _ _), List.take_append_drop, stringToBigInt_digits
      (by simp [Nat.toDigits_ne_nil]) (hdigits _), Nat.ofDigitChars_append,
      Nat.ofDigitChars_replicate_zero,
      Nat.mul_zero, Nat.ofDigitChars_ten_toDigits] at h
    obtain rfl := Option.some.inj (orError_eq_ok.mp h)
    exact Int.toNat_of_nonneg hfloor

end Amounts

section ByteTexts

def urlChar (c : Char) : Char := if c = '+' then '-' else if c = '/' then '_' else c

def plainChar (c : Char) : Char := if c = '-' then '+' else if c = '_' then '/' else c

def isBase64UrlChar (c : Char) : Bool := c.isAlphanum || c = '_' || c = '-'

def bytesToBase64Url (value : Bytes) : String :=
  String.ofList ((((Base64.encode value).map urlChar).reverse.dropWhile (· = '=')).reverse)

def base64UrlToBytes (value : String) : Except Failure Bytes := do
  let text := value.toList
  require (text ≠ [] ∧ text.all isBase64UrlChar ∧ text.length % 4 ≠ 1)
    (.error "Value is not unpadded base64url")
  pure (Base64.decode (text.map plainChar ++ List.replicate ((4 - text.length % 4) % 4) '='))

/-- `base64UrlToBuffer`, and `Buffer.from(value, 'base64url')`. -/
def base64UrlToBuffer (value : String) : Bytes := Base64.decode (value.toList.map plainChar)

theorem charOf_facts : ∀ n < 64, urlChar (Base64.charOf n) ≠ '=' ∧
    isBase64UrlChar (urlChar (Base64.charOf n)) ∧
    plainChar (urlChar (Base64.charOf n)) = Base64.charOf n := by
  decide +kernel

theorem toList_bytesToBase64Url (value : Bytes) :
    (bytesToBase64Url value).toList = (Base64.sextets value).map
      fun n => urlChar (Base64.charOf n) := by
  have hkeep : ∀ l : List ℕ, (∀ n ∈ l, n < 64) →
      ((l.map fun n => urlChar (Base64.charOf n)).reverse.dropWhile (· = '=')) =
        (l.map fun n => urlChar (Base64.charOf n)).reverse := by
    intro l hl
    rw [← List.map_reverse]
    cases hrev : l.reverse with
    | nil => rfl
    | cons n l' =>
      have hn : n < 64 := hl n (List.mem_reverse.mp (hrev ▸ List.mem_cons_self ..))
      rw [List.map_cons, List.dropWhile_cons_of_neg (by simpa using (charOf_facts n hn).1)]
  have hpad : ∀ n, (List.replicate n '=').map urlChar = List.replicate n '=' := by simp [urlChar]
  have hdrop : ∀ n (l : List Char), (List.replicate n '=' ++ l).dropWhile (· = '=') = l.dropWhile
      (· = '=') := by
    intro n l
    rw [List.dropWhile_append_of_pos]
    intro c hc
    simpa using List.eq_of_mem_replicate hc
  rw [bytesToBase64Url, String.toList_ofList, Base64.encode, List.map_append, List.map_map,
    Base64.padding, hpad,
    List.reverse_append, List.reverse_replicate, hdrop, Function.comp_def,
    hkeep _ fun n => Base64.sextets_lt,
    List.reverse_reverse]

theorem length_sextets (bytes : Bytes) : (Base64.sextets bytes).length % 4 ≠ 1 := by
  induction bytes using Base64.sextets.induct with
  | case1 a b c rest ih =>
    simp only [Base64.sextets, List.length_cons]
    omega
  | case2 => simp [Base64.sextets]
  | case3 => simp [Base64.sextets]
  | case4 => simp [Base64.sextets]

theorem map_plainChar_sextets (bytes : Bytes) :
    ((Base64.sextets bytes).map fun n => urlChar (Base64.charOf n)).map plainChar =
      (Base64.sextets bytes).map Base64.charOf := by
  rw [List.map_map]
  exact List.map_congr_left fun n hn => (charOf_facts n (Base64.sextets_lt hn)).2.2

theorem decode_sextets (bytes : Bytes) (n : ℕ) :
    Base64.decode ((Base64.sextets bytes).map Base64.charOf ++ List.replicate n '=') = bytes := by
  rw [Base64.decode, List.filterMap_append, Base64.filterMap_charOf fun n => Base64.sextets_lt,
    List.filterMap_replicate_of_none (by decide), List.append_nil, Base64.fromSextets_sextets]

theorem base64UrlToBytes_bytesToBase64Url {value : Bytes} (h : value ≠ []) :
    base64UrlToBytes (bytesToBase64Url value) = .ok value := by
  have hne : Base64.sextets value ≠ [] := by
    intro hnil
    have := Base64.fromSextets_sextets value
    rw [hnil] at this
    exact h this.symm
  rw [base64UrlToBytes, toList_bytesToBase64Url, bind_eq_ok]
  refine ⟨(), require_eq_ok.mpr ⟨?_, ?_, ?_⟩, ?_⟩
  · simpa using hne
  · rw [List.all_eq_true]
    intro c hc
    obtain ⟨n, hn, rfl⟩ := List.mem_map.mp hc
    exact (charOf_facts n (Base64.sextets_lt hn)).2.1
  · rw [List.length_map]
    exact length_sextets value
  · rw [map_plainChar_sextets, decode_sextets]
    rfl

theorem base64UrlToBuffer_bytesToBase64Url (value : Bytes) :
    base64UrlToBuffer (bytesToBase64Url value) = value := by
  rw [base64UrlToBuffer, toList_bytesToBase64Url, map_plainChar_sextets]
  simpa using decode_sextets value 0

def hexChar (n : ℕ) : Char := "0123456789abcdef".toList.getD n '0'

/-- `buffer.toString('hex')` and `Buffer.from(text, 'hex')`. -/
def toHex (bytes : Bytes) : List Char :=
  bytes.flatMap fun b => [hexChar (b.toNat / 16), hexChar (b.toNat % 16)]

def fromHex : List Char → Bytes
  | high :: low :: rest => UInt8.ofNat (digitValue high * 16 + digitValue low) :: fromHex rest
  | _ => []

theorem digitValue_hexChar : ∀ n < 16, digitValue (hexChar n) = n := by decide

theorem fromHex_toHex (bytes : Bytes) : fromHex (toHex bytes) = bytes := by
  induction bytes with
  | nil => rfl
  | cons b bytes ih =>
    have hlt := b.toNat_lt
    show fromHex (hexChar (b.toNat / 16) :: hexChar (b.toNat % 16) :: toHex bytes) = _
    rw [fromHex, ih, digitValue_hexChar _ (by omega), digitValue_hexChar _ (by omega)]
    congr 1
    exact Base64.ofNat_toNat_eq (by omega)

end ByteTexts

section Keys

def toBase58 (key : Pubkey) : String := String.ofList (Base58.encode key.toList)

/-- `new PublicKey(value)`. -/
def newPublicKey (value : String) : Except Failure Pubkey := do
  let bytes ← orError (Base58.decode value.toList) (.error "Non-base58 character")
  orError (toFixed 32 bytes) (.error "Invalid public key input")

def isSolanaAddress (value : String) : Bool :=
  match newPublicKey value with
  | .ok key => toBase58 key = value
  | .error _ => false

/-- `SolanaChainService.publicKey`. -/
def addressKey (value label : String) : Except Failure Pubkey := do
  require (isSolanaAddress value) (.badRequest s!"{label} is not a valid Solana address")
  newPublicKey value

@[simp] theorem newPublicKey_toBase58 (key : Pubkey) : newPublicKey (toBase58 key) = .ok key := by
  simp [newPublicKey, toBase58, Base58.decode_encode]

theorem toBase58_injective : Function.Injective toBase58 := by
  intro key key' h
  have hkey := newPublicKey_toBase58 key
  rw [h, newPublicKey_toBase58] at hkey
  exact (Except.ok.inj hkey).symm

theorem isSolanaAddress_iff {value : String} :
    isSolanaAddress value ↔ ∃ key, value = toBase58 key := by
  constructor
  · intro h
    unfold isSolanaAddress at h
    split at h
    · exact ⟨_, (of_decide_eq_true h).symm⟩
    · cases h
  · rintro ⟨key, rfl⟩
    simp [isSolanaAddress]

@[simp] theorem addressKey_toBase58 (key : Pubkey) (label : String) :
    addressKey (toBase58 key) label = .ok key := by
  have haddress : isSolanaAddress (toBase58 key) := isSolanaAddress_iff.mpr ⟨key, rfl⟩
  simp [addressKey, haddress, CheckedOutcome.require]

theorem addressKey_eq_ok {value label : String} {key : Pubkey} :
    addressKey value label = .ok key ↔ value = toBase58 key := by
  constructor
  · intro h
    simp only [addressKey, bind_eq_ok, require_eq_ok] at h
    obtain ⟨-, haddress, hkey⟩ := h
    obtain ⟨key', rfl⟩ := isSolanaAddress_iff.mp haddress
    rw [newPublicKey_toBase58] at hkey
    rw [Except.ok.inj hkey]
  · rintro rfl
    exact addressKey_toBase58 key label

def bigintTo32Bytes (value : ℤ) : Except Failure Bytes := do
  require (¬(value < 0 ∨ value ≥ 2 ^ 256)) (.error "P-256 coordinate is outside the uint256 range")
  pure (leBytes 32 value.toNat).reverse

def compressedP256PublicKey (publicKeyX publicKeyY : String) : Except Failure Bytes := do
  let x ← bigInt publicKeyX
  let x ← bigintTo32Bytes x
  let y ← bigInt publicKeyY
  let _ ← bigintTo32Bytes y
  pure (UInt8.ofNat (2 + (y % 2).toNat) :: x)

def bytes32FromStored (value : String) : Except Failure Bytes := do
  let normalized := if value.toList.take 2 = ['0', 'x'] then value.toList.drop 2 else value.toList
  if normalized.length = 64 ∧ normalized.all (fun c => digitValue c < 16) then
    pure (fromHex normalized)
  else do
    let decoded := base64UrlToBuffer value
    require (decoded.length = 32) (.error "Stored Solana seed must contain 32 bytes")
    pure decoded

theorem bytes32FromStored_toHex (digest : FixedBytes 32) :
    bytes32FromStored (String.ofList ('0' :: 'x' :: toHex digest.toList)) = .ok digest.toList := by
  have hlength : ∀ bytes : Bytes, (toHex bytes).length = 2 * bytes.length := by
    intro bytes
    induction bytes with
    | nil => rfl
    | cons b bytes ih =>
      show (toHex bytes).length + 1 + 1 = _
      rw [ih, List.length_cons]
      omega
  have hhex : (toHex digest.toList).all (fun c => digitValue c < 16) := by
    rw [List.all_eq_true]
    intro c hc
    obtain ⟨b, -, hb⟩ := List.mem_flatMap.mp hc
    have hlt := b.toNat_lt
    rcases List.mem_pair.mp hb with rfl | rfl
    · simp [digitValue_hexChar (b.toNat / 16) (by omega)]
      omega
    · simp [digitValue_hexChar (b.toNat % 16) (by omega)]
      omega
  simp [bytes32FromStored, hlength, hhex, fromHex_toHex, pure, Except.pure]

end Keys

end VeriAgentPay.Backend
