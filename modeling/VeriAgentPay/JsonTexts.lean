import Mathlib.Algebra.Field.Rat
import Mathlib.Data.List.TakeDrop

/-!
# JSON texts

The grammar of JSON, read from the left, where a number is the exact value of its digits, and the
text of a list of numbers, which is read back as that list.
-/

namespace JsonTexts

/-- A value; texts are their UTF-16 code units. -/
inductive Json where
  | null
  | bool (value : Bool)
  | number (value : ℚ)
  | string (units : List ℕ)
  | array (items : List Json)
  | object (members : List (List ℕ × Json))

def natural (n : ℕ) : Json := .number n

def isSpace (c : Char) : Bool := c = ' ' || c = '\t' || c = '\n' || c = '\r'

def skipSpace (text : List Char) : List Char := text.dropWhile isSpace

section Numbers

/-- The digits at the front, of which there is at least one. -/
def digits (text : List Char) : Option (List Char × List Char) :=
  match text.span Char.isDigit with
  | ([], _) => none
  | taken => some taken

/-- The whole part: no digit follows a leading zero. -/
def wholePart : List Char → Option (ℕ × List Char)
  | '0' :: rest => some (0, rest)
  | text => (digits text).map fun (taken, rest) => (Nat.ofDigitChars 10 taken 0, rest)

/-- The value of the digits behind the point. -/
def fractionPart : List Char → Option (ℚ × List Char)
  | '.' :: text => (digits text).map
    fun (taken, rest) => ((Nat.ofDigitChars 10 taken 0 : ℚ) / 10 ^ taken.length, rest)
  | text => some (0, text)

def exponent (text : List Char) : Option (ℤ × List Char) :=
  match text with
  | '-' :: text => (digits text).map fun (taken, rest) => (-(Nat.ofDigitChars 10 taken 0 : ℤ), rest)
  | '+' :: text => (digits text).map fun (taken, rest) => ((Nat.ofDigitChars 10 taken 0 : ℤ), rest)
  | text => (digits text).map fun (taken, rest) => ((Nat.ofDigitChars 10 taken 0 : ℤ), rest)

def exponentPart : List Char → Option (ℤ × List Char)
  | 'e' :: text | 'E' :: text => exponent text
  | text => some (0, text)

def unsignedNumber (text : List Char) : Option (ℚ × List Char) := do
  let (whole, text) ← wholePart text
  let (fraction, text) ← fractionPart text
  let (power, text) ← exponentPart text
  pure ((whole + fraction) * (10 : ℚ) ^ power, text)

def number : List Char → Option (ℚ × List Char)
  | '-' :: text => (unsignedNumber text).map fun (value, rest) => (-value, rest)
  | text => unsignedNumber text

end Numbers

section Strings

def hexDigit (c : Char) : Option ℕ :=
  if c.isDigit then some (c.toNat - '0'.toNat)
  else if 'a' ≤ c ∧ c ≤ 'f' then some (c.toNat - 'a'.toNat + 10)
  else if 'A' ≤ c ∧ c ≤ 'F' then some (c.toNat - 'A'.toNat + 10)
  else none

def codeUnits (c : Char) : List ℕ :=
  if c.toNat < 0x10000 then [c.toNat]
  else [0xd800 + (c.toNat - 0x10000) / 0x400, 0xdc00 + (c.toNat - 0x10000) % 0x400]

def escaped : Char → Option ℕ
  | '"' => some 0x22
  | '\\' => some 0x5c
  | '/' => some 0x2f
  | 'b' => some 8
  | 'f' => some 12
  | 'n' => some 10
  | 'r' => some 13
  | 't' => some 9
  | _ => none

/-- A text behind its opening quote. -/
def stringRest : List Char → Option (List ℕ × List Char)
  | [] => none
  | '"' :: rest => some ([], rest)
  | '\\' :: 'u' :: a :: b :: c :: d :: rest => do
    let a ← hexDigit a
    let b ← hexDigit b
    let c ← hexDigit c
    let d ← hexDigit d
    let (units, rest) ← stringRest rest
    pure ((((a * 16 + b) * 16 + c) * 16 + d) :: units, rest)
  | '\\' :: c :: rest => do
    let unit ← escaped c
    let (units, rest) ← stringRest rest
    pure (unit :: units, rest)
  | c :: rest =>
    if c.toNat < 0x20 ∨ c = '\\' then none
    else (stringRest rest).map fun (units, rest) => (codeUnits c ++ units, rest)

end Strings

section Values

mutual

/-- A value at the front of a text. The first argument bounds the recursion. -/
def value : ℕ → List Char → Option (Json × List Char)
  | 0, _ => none
  | n + 1, text =>
    match skipSpace text with
    | 'n' :: 'u' :: 'l' :: 'l' :: rest => some (.null, rest)
    | 't' :: 'r' :: 'u' :: 'e' :: rest => some (.bool true, rest)
    | 'f' :: 'a' :: 'l' :: 's' :: 'e' :: rest => some (.bool false, rest)
    | '"' :: rest => (stringRest rest).map fun (units, rest) => (.string units, rest)
    | '[' :: rest =>
      match skipSpace rest with
      | ']' :: rest => some (.array [], rest)
      | rest => (items n rest).map fun (taken, rest) => (.array taken, rest)
    | '{' :: rest =>
      match skipSpace rest with
      | '}' :: rest => some (.object [], rest)
      | rest => (members n rest).map fun (taken, rest) => (.object taken, rest)
    | rest => (number rest).map fun (value, rest) => (.number value, rest)

/-- The items of an array and its closing bracket. -/
def items : ℕ → List Char → Option (List Json × List Char)
  | 0, _ => none
  | n + 1, text => do
    let (item, rest) ← value n text
    match skipSpace rest with
    | ',' :: rest => (items n rest).map fun (taken, rest) => (item :: taken, rest)
    | ']' :: rest => some ([item], rest)
    | _ => none

/-- The members of an object and its closing brace. -/
def members : ℕ → List Char → Option (List (List ℕ × Json) × List Char)
  | 0, _ => none
  | n + 1, text =>
    match skipSpace text with
    | '"' :: rest => do
      let (name, rest) ← stringRest rest
      match skipSpace rest with
      | ':' :: rest => do
        let (member, rest) ← value n rest
        match skipSpace rest with
        | ',' :: rest => (members n rest).map fun (taken, rest) => ((name, member) :: taken, rest)
        | '}' :: rest => some ([(name, member)], rest)
        | _ => none
      | _ => none
    | _ => none

end

/-- `JSON.parse`. Every value and every item takes at least one character, so the bound is never
reached. -/
def parse (text : String) : Option Json := do
  let (parsed, rest) ← value (2 * text.toList.length + 1) text.toList
  if skipSpace rest = [] then pure parsed else none

end Values

section Texts

/-- `JSON.stringify` of a list of natural numbers. -/
def itemTexts : List ℕ → List Char
  | [] => []
  | [n] => Nat.toDigits 10 n
  | n :: rest => Nat.toDigits 10 n ++ ',' :: itemTexts rest

def stringify (numbers : List ℕ) : String := String.ofList ('[' :: itemTexts numbers ++ [']'])

/-- No digit, point or exponent follows. -/
def Ends (rest : List Char) : Prop := ∀ c ∈ rest.head?, c = ',' ∨ c = ']'

theorem ends_cons {c : Char} {rest : List Char} : Ends (c :: rest) ↔ c = ',' ∨ c = ']' := by
  simp [Ends]

theorem digits_append {taken rest : List Char} (hne : taken ≠ []) (hdigits : ∀ c ∈ taken, c.isDigit)
    (hrest : Ends rest) :
    digits (taken ++ rest) = some (taken, rest) := by
  have hstops : rest.takeWhile Char.isDigit = [] ∧ rest.dropWhile Char.isDigit = rest := by
    cases rest with
    | nil => exact ⟨rfl, rfl⟩
    | cons c rest => rcases ends_cons.mp hrest with rfl | rfl <;> exact ⟨rfl, rfl⟩
  have hspan : (taken ++ rest).span Char.isDigit = (taken, rest) := by
    rw [List.span_eq_takeWhile_dropWhile, List.takeWhile_append_of_pos hdigits,
      List.dropWhile_append_of_pos hdigits, hstops.1,
      hstops.2, List.append_nil]
  cases taken with
  | nil => exact absurd rfl hne
  | cons c taken => rw [digits, hspan]

/-- No other number than zero starts with the digit zero. -/
theorem head_toDigits (n : ℕ) : (Nat.toDigits 10 n).head? = some '0' → n = 0 := by
  induction n using Nat.strongRecOn with
  | ind n ih =>
    intro hhead
    by_cases hsmall : n < 10
    · rw [Nat.toDigits_of_lt_base hsmall, List.head?_singleton, Option.some.injEq] at hhead
      have hdigit : ∀ m < 10, Nat.digitChar m = '0' → m = 0 := by decide
      exact hdigit n hsmall hhead
    · rw [Nat.toDigits_of_base_le (by decide) (by omega), List.head?_append] at hhead
      have hzero :=
        ih (n / 10) (by omega) (by simpa [List.head?_eq_some_head Nat.toDigits_ne_nil] using hhead)
      omega

theorem toDigits_isDigit {n : ℕ} {c : Char} (hc : c ∈ Nat.toDigits 10 n) : c.isDigit :=
  Nat.isDigit_of_mem_toDigits (by decide) (by decide) hc

theorem wholePart_toDigits {n : ℕ} {rest : List Char} (hrest : Ends rest) :
    wholePart (Nat.toDigits 10 n ++ rest) = some (n, rest) := by
  by_cases hzero : n = 0
  · subst hzero
    rfl
  · have hdigits : digits (Nat.toDigits 10 n ++ rest) = some (Nat.toDigits 10 n, rest) :=
      digits_append Nat.toDigits_ne_nil (fun c hc => toDigits_isDigit hc) hrest
    cases hn : Nat.toDigits 10 n with
    | nil => exact absurd hn Nat.toDigits_ne_nil
    | cons c taken =>
      have hc : c ≠ '0' := by
        rintro rfl
        exact hzero (head_toDigits n (by rw [hn]; rfl))
      have hvalue : Nat.ofDigitChars 10 (c :: taken) 0 = n := by
        rw [← hn, Nat.ofDigitChars_ten_toDigits]
      rw [hn] at hdigits
      rw [List.cons_append, wholePart, ← List.cons_append, hdigits, Option.map_some]
      · dsimp only
        rw [hvalue]
      · simpa using hc

theorem number_toDigits {n : ℕ} {rest : List Char} (hrest : Ends rest) :
    number (Nat.toDigits 10 n ++ rest) = some ((n : ℚ), rest) := by
  have hparts : fractionPart rest = some (0, rest) ∧ exponentPart rest = some (0, rest) := by
    cases rest with
    | nil => exact ⟨rfl, rfl⟩
    | cons c rest => rcases ends_cons.mp hrest with rfl | rfl <;> exact ⟨rfl, rfl⟩
  have hunsigned : unsignedNumber (Nat.toDigits 10 n ++ rest) = some ((n : ℚ), rest) := by
    simp [unsignedNumber, wholePart_toDigits hrest, hparts]
  cases hn : Nat.toDigits 10 n with
  | nil => exact absurd hn Nat.toDigits_ne_nil
  | cons c taken =>
    have hc : c ≠ '-' := by
      rintro rfl
      exact absurd (toDigits_isDigit (n := n) (by rw [hn]; exact List.mem_cons_self)) (by decide)
    rw [hn] at hunsigned
    rw [List.cons_append, number, ← List.cons_append, hunsigned]
    simpa using hc

/-- A digit is none of the characters with a meaning of their own. -/
theorem digit_ne {c d : Char} (hc : c.isDigit) (hd : d.toNat < 48 ∨ 57 < d.toNat) : c ≠ d := by
  have hrange : 48 ≤ c.toNat ∧ c.toNat ≤ 57 := by
    simpa [Char.isDigit, UInt32.le_iff_toNat_le] using hc
  rintro rfl
  omega

theorem skipSpace_digit {c : Char} (hc : c.isDigit) (rest : List Char) :
    skipSpace (c :: rest) = c :: rest := by
  rw [skipSpace, List.dropWhile_cons_of_neg]
  simp [isSpace, digit_ne hc]

/-- What starts with a digit is read as a number. -/
theorem value_toDigits {k n : ℕ} {rest : List Char} (hrest : Ends rest) :
    value (k + 1) (Nat.toDigits 10 n ++ rest) = some (natural n, rest) := by
  have hnumber := number_toDigits (n := n) hrest
  cases hn : Nat.toDigits 10 n with
  | nil => exact absurd hn Nat.toDigits_ne_nil
  | cons c taken =>
    have hc : c.isDigit := toDigits_isDigit (n := n) (by rw [hn]; exact List.mem_cons_self)
    rw [hn] at hnumber
    rw [value, List.cons_append, skipSpace_digit hc]
    have hother : ∀ d : Char, d.toNat < 48 ∨ 57 < d.toNat → c ≠ d := fun d => digit_ne hc
    split <;> simp_all [natural]

theorem items_itemTexts {numbers : List ℕ} (hne : numbers ≠ []) {k : ℕ} (hk : numbers.length < k)
    (rest : List Char) :
    items k (itemTexts numbers ++ ']' :: rest) = some (numbers.map natural, rest) := by
  induction numbers generalizing k with
  | nil => exact absurd rfl hne
  | cons n numbers ih =>
    obtain ⟨k, rfl⟩ : ∃ k', k = k' + 2 := ⟨k - 2, by simp at hk; omega⟩
    cases numbers with
    | nil =>
      have hvalue :=
        value_toDigits (k := k) (n := n) (ends_cons.mpr (.inr rfl) : Ends (']' :: rest))
      simp [items, itemTexts, hvalue, skipSpace, isSpace]
    | cons m numbers =>
      have hvalue := value_toDigits (k := k) (n := n)
        (ends_cons.mpr (.inl rfl) : Ends (',' :: (itemTexts (m :: numbers) ++ ']' :: rest)))
      have hrest := ih (by simp) (k := k + 1) (by simp at hk ⊢; omega)
      have htext : itemTexts (n :: m :: numbers) ++ ']' :: rest =
          Nat.toDigits 10 n ++ ',' :: (itemTexts (m :: numbers) ++ ']' :: rest) := by
            simp [itemTexts]
      rw [items, htext, hvalue]
      simp [skipSpace, isSpace, hrest]

theorem itemTexts_digit (n : ℕ) (numbers : List ℕ) :
    ∃ c rest, itemTexts (n :: numbers) = c :: rest ∧ c.isDigit := by
  have hdigit : ∃ c rest, Nat.toDigits 10 n = c :: rest ∧ c.isDigit := by
    cases hn : Nat.toDigits 10 n with
    | nil => exact absurd hn Nat.toDigits_ne_nil
    | cons c rest =>
      exact ⟨c, rest, rfl, toDigits_isDigit (n := n) (by rw [hn]; exact List.mem_cons_self)⟩
  obtain ⟨c, rest, hn, hc⟩ := hdigit
  cases numbers with
  | nil => exact ⟨c, rest, hn, hc⟩
  | cons m numbers =>
    exact ⟨c, rest ++ ',' :: itemTexts (m :: numbers), by simp [itemTexts, hn], hc⟩

theorem length_le_itemTexts (numbers : List ℕ) : numbers.length ≤ (itemTexts numbers).length := by
  induction numbers with
  | nil => rfl
  | cons n numbers ih =>
    have hpos : 0 < (Nat.toDigits 10 n).length := Nat.length_toDigits_pos
    cases numbers with
    | nil => exact hpos
    | cons m numbers =>
      simp only [itemTexts, List.length_append, List.length_cons] at ih ⊢
      omega

/-- The text of a list of numbers is read as that list. -/
theorem parse_stringify (numbers : List ℕ) :
    parse (stringify numbers) = some (.array (numbers.map natural)) := by
  have hvalue : ∀ k, numbers.length < k → value (k + 1) ('[' :: itemTexts numbers ++ [']']) =
      some (.array (numbers.map natural), []) := by
    intro k hk
    have hopen : skipSpace ('[' :: itemTexts numbers ++ [']']) = '[' ::
        (itemTexts numbers ++ [']']) := rfl
    rw [value, hopen]
    cases numbers with
    | nil => rfl
    | cons n numbers =>
      have hitems := items_itemTexts (List.cons_ne_nil n numbers) hk []
      obtain ⟨c, rest, htext, hc⟩ := itemTexts_digit n numbers
      rw [htext, List.cons_append] at hitems ⊢
      simp only [skipSpace_digit hc]
      split
      · next hclose => exact absurd (List.cons.inj hclose).1 (digit_ne hc (by decide))
      · rw [hitems]
        rfl
  have hlength := length_le_itemTexts numbers
  rw [parse, stringify, String.toList_ofList, hvalue _ (by simp; omega)]
  rfl

end Texts

end JsonTexts
