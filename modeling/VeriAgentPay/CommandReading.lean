import VeriAgentPay.CommandParsing

/-!
# What the commands in messages are read as

A payment or a request that is put in the words which the replies show is read as what it says. What
is read in words at all is well formed, and the commands of administrators are only those that begin
with their word.
-/

namespace VeriAgentPay.CommandParsing
open OrderedMatches OrderedMatches.Matches
open Client (JsNumber)
open Backend (isWhiteSpace trimChars trim truthy)
open UserTokens (TokenInfo supportedToken)

section Characters

variable {c : Char}

theorem isAlpha_iff : c.isAlpha ↔ 65 ≤ c.toNat ∧ c.toNat ≤ 90 ∨ 97 ≤ c.toNat ∧ c.toNat ≤ 122 := by
  delta Char.isAlpha Char.isUpper Char.isLower
  simp only [Bool.or_eq_true, Bool.and_eq_true, decide_eq_true_eq, ge_iff_le,
    UInt32.le_iff_toNat_le]
  rfl

theorem isDigit_iff : isDigit c ↔ 48 ≤ c.toNat ∧ c.toNat ≤ 57 := by
  simp only [isDigit, Char.isDigit, Bool.and_eq_true, decide_eq_true_eq, ge_iff_le,
    UInt32.le_iff_toNat_le]
  rfl

theorem isWordChar_iff : isWordChar c ↔ c.isAlpha ∨ isDigit c ∨ c.toNat = 95 := by
  have hchar : c = '_' ↔ c.toNat = 95 := ⟨fun h => h ▸ rfl, fun h => Char.toNat_inj.mp h⟩
  simp [isWordChar, isDigit, Char.isAlphanum, hchar, or_assoc]

theorem not_isWhiteSpace (h : 33 ≤ c.toNat) (h' : c.toNat ≤ 126) : ¬isWhiteSpace c := by
  simp only [isWhiteSpace, Bool.or_eq_true, decide_eq_true_eq, Bool.and_eq_true, List.mem_cons,
    List.not_mem_nil, or_false, not_or, not_and]
  omega

theorem isWordChar_bounds (h : isWordChar c) : 33 ≤ c.toNat ∧ c.toNat ≤ 126 := by
  rcases isWordChar_iff.mp h with h | h | h
  · have := isAlpha_iff.mp h
    omega
  · have := isDigit_iff.mp h
    omega
  · omega

theorem toLower_isLower (h : c.toLower.isLower) : c.isAlpha := by
  delta Char.isAlpha
  by_cases hupper : c.isUpper
  · simp [hupper]
  · have hsame : c.toLower = c := by
      unfold Char.toLower
      rw [dif_neg]
      intro hbounds
      refine hupper ?_
      delta Char.isUpper
      simpa using hbounds
    rw [hsame] at h
    simp [h]

/-- No capital letter becomes anything but a small letter. -/
theorem eq_of_toLower_eq {d : Char} (hd : ¬d.isLower) (h : c.toLower = d) : c = d := by
  by_cases hupper : 'A'.val ≤ c.val ∧ c.val ≤ 'Z'.val
  · refine absurd ?_ hd
    rw [← h]
    have hval : c.toLower.val = c.val + 32 := by
      unfold Char.toLower
      rw [dif_pos hupper]
      rfl
    obtain ⟨hlow, hhigh⟩ := hupper
    rw [UInt32.le_iff_toNat_le] at hlow hhigh
    have hA : 'A'.val.toNat = 65 := rfl
    have hZ : 'Z'.val.toNat = 90 := rfl
    delta Char.isLower
    simp only [hval, Bool.and_eq_true, decide_eq_true_eq, ge_iff_le, UInt32.le_iff_toNat_le,
      UInt32.toNat_add]
    have ha : 'a'.val.toNat = 97 := rfl
    have hz : 'z'.val.toNat = 122 := rfl
    have h32 : (32 : UInt32).toNat = 32 := rfl
    omega
  · unfold Char.toLower at h
    rw [dif_neg hupper] at h
    exact h

end Characters

section Messages

inductive Kind where
  | pay | request
  deriving DecidableEq

def Kind.verbs : Kind → List String
  | pay => ["send", "pay", "transfer"]
  | request => ["request", "ask"]

def Kind.preposition : Kind → String
  | pay => "to"
  | request => "from"

def Kind.intent : Kind → CommandIntent
  | pay => .pay
  | request => .request

def Kind.pattern : Kind → Matches PaymentMatch
  | pay => regexPayPattern
  | request => regexRequestPattern

def isHandleChar (c : Char) : Bool := isWordChar c || c = '.'

def isHexDigit (c : Char) : Bool := Backend.digitValue c < 16

/-- Whom a message names. -/
inductive Whom (k : Kind) where
  | handle (name : List Char) (nonempty : name ≠ []) (chars : ∀ c ∈ name, isHandleChar c)
  | evmAddress (digits : List Char) (length : digits.length = 40) (chars :
      ∀ c ∈ digits, isHexDigit c)
  /-- A handle without its sign, or an address in base 58: no zero comes first, and it is not the
  preposition. -/
  | plain (name : List Char) (nonempty : name ≠ []) (chars : ∀ c ∈ name, isHandleChar c) (nonzero :
      ∀ c ∈ name.head?, c ≠ '0')
      (other : name.map Char.toLower ≠ k.preposition.toList)

def Whom.text {k : Kind} : Whom k → List Char
  | handle name _ _ => '@' :: name
  | evmAddress digits _ _ => '0' :: 'x' :: digits
  | plain name _ _ _ _ => name

structure TokenWord (k : Kind) where
  letters : List Char
  nonempty : letters ≠ []
  chars : ∀ c ∈ letters, isLetter c
  other : letters.map Char.toLower ≠ k.preposition.toList ∧ letters.map Char.toLower ≠ "for".toList

structure Memo where
  text : List Char
  nonempty : text ≠ []
  start : ∀ c ∈ text.head?, ¬isWhiteSpace c
  finish : ∀ c ∈ text.getLast?, ¬isWhiteSpace c
  chars : ∀ c ∈ text, ¬isLineTerminator c

/-- An amount as it is written: with digits after the point, or without the point. -/
structure Decimal where
  whole : List Char
  nonempty : whole ≠ []
  wholeDigits : ∀ c ∈ whole, isDigit c
  fraction : List Char
  fractionDigits : ∀ c ∈ fraction, isDigit c

def Decimal.text (d : Decimal) : List Char :=
  d.whole ++ if d.fraction = [] then [] else '.' :: d.fraction

/-- The number that the digits stand for. -/
def Decimal.value (d : Decimal) : ℚ := digitsValue (d.whole ++ d.fraction) / 10 ^ d.fraction.length

/-- A payment or a request in words, as the replies show them: "send 50 USDC to @bob for lunch". -/
structure InWords (k : Kind) where
  verb : List Char
  spelled : ∃ v ∈ k.verbs, verb.map Char.toLower = v.toList
  amount : Decimal
  token : Option (TokenWord k)
  whom : Whom k
  memo : Option Memo

namespace InWords

variable {k : Kind} (p : InWords k)

def tokenText : List Char := (p.token.map fun token => ' ' :: token.letters).getD []

def memoText : List Char := (p.memo.map fun memo => " for ".toList ++ memo.text).getD []

def text : List Char :=
  p.verb ++ ' ' ::
    (p.amount.text ++
      (p.tokenText ++ ' ' :: (k.preposition.toList ++ ' ' :: (p.whom.text ++ p.memoText))))

/-- What the message says. -/
def command (h : Host) : Command :=
  ⟨k.intent, withToken h
    (some ((p.token.map fun token => upperOf h token.letters).getD DEFAULT_TOKEN_SYMBOL))
    { amount := some (numberOf h p.amount.value), recipient := some (String.ofList p.whom.text)
      memo := p.memo.map fun memo => String.ofList memo.text }⟩

/-- What the pattern reads: without a token the preposition is in its place. -/
def reading : PaymentMatch :=
  ⟨p.amount.text, some ((p.token.map TokenWord.letters).getD k.preposition.toList), p.whom.text,
    p.memo.map Memo.text⟩

end InWords

end Messages

section Readings

variable {k : Kind} {rest : List Char}

theorem first_spaces (hrest : ∀ c ∈ rest.head?, ¬isWhiteSpace c) :
    First spaces (' ' :: rest) [' '] rest :=
  first_run (Nat.le_refl 1) (show ∀ c ∈ [' '], isWhiteSpace c by decide) hrest

theorem spaces_eq_nil {text : List Char} (htext : ∀ c ∈ text.head?, ¬isWhiteSpace c) :
    spaces text = [] := run_eq_nil (by decide) htext

theorem first_decimal (d : Decimal) (hrest : ∀ c ∈ rest.head?, ¬isDigit c ∧ c ≠ '.') :
    First decimal (d.text ++ rest) d.text rest := by
  have hwhole : 1 ≤ d.whole.length := List.length_pos_of_ne_nil d.nonempty
  unfold Decimal.text decimal
  by_cases hfraction : d.fraction = []
  · rw [if_pos hfraction, List.append_nil]
    refine first_bind (first_run hwhole d.wholeDigits fun c hc => (hrest c hc).1) ?_
    refine first_bind (first_opt_none ?_) ?_
    · exact bind_eq_nil_of_eq_nil (one_eq_nil fun c hc => by simpa using (hrest c hc).2)
    · rw [Option.map_none, Option.getD_none, List.append_nil]
      exact first_pure
  · rw [if_neg hfraction, List.append_assoc]
    refine first_bind (first_run hwhole d.wholeDigits (by rintro c ⟨⟩; decide)) ?_
    have hfractions : 1 ≤ d.fraction.length := List.length_pos_of_ne_nil hfraction
    refine first_bind
      (first_opt_some (first_bind (first_one (by decide))
        (first_run hfractions d.fractionDigits fun c hc => (hrest c hc).1))) ?_
    exact first_pure

theorem Decimal.start (d : Decimal) : ∀ c ∈ (d.text ++ rest).head?, isDigit c := by
  obtain ⟨e, whole, hwhole⟩ := List.exists_cons_of_ne_nil d.nonempty
  rw [Decimal.text, hwhole]
  rintro c ⟨⟩
  exact d.wholeDigits e (hwhole ▸ List.mem_cons_self)

theorem first_hexDigits {digits : List Char} (hdigits : ∀ c ∈ digits, isHexDigit c) :
    First (recipientPattern.hexDigits digits.length) (digits ++ rest) () rest := by
  induction digits with
  | nil => exact first_pure
  | cons c digits ih =>
    obtain ⟨hc, hdigits⟩ := List.forall_mem_cons.mp hdigits
    exact first_bind (first_one hc) (ih hdigits)

theorem isHandleChar_not_blank {c : Char} (hc : isHandleChar c) : c ≠ ' ' ∧ c ≠ '@' := by
  constructor
  · rintro rfl
    exact absurd hc (by decide)
  · rintro rfl
    exact absurd hc (by decide)

/-- A handle is read up to the next blank. -/
theorem first_handle {name : List Char} (hname : name ≠ []) (hchars : ∀ c ∈ name, isHandleChar c)
    (hrest : ∀ c ∈ rest.head?, c = ' ') :
    First (run isHandleChar 1) (name ++ rest) name rest := by
  refine first_run (List.length_pos_of_ne_nil hname) hchars fun c hc => ?_
  rw [hrest c hc]
  decide

theorem first_recipient (whom : Whom k) (hrest : ∀ c ∈ rest.head?, c = ' ') :
    First recipientPattern (whom.text ++ rest) whom.text rest := by
  unfold recipientPattern
  cases whom with
  | handle name nonempty chars =>
    refine first_orElse_right ?_ (first_orElse_left (first_reading (a := name) ?_))
    · exact reading_eq_nil (bind_eq_nil_of_eq_nil (spelled_cons_eq_nil (by rintro c ⟨⟩; decide)))
    · exact first_bind (first_opt_some (first_one (by decide))) (first_handle nonempty chars hrest)
  | evmAddress digits length chars =>
    refine first_orElse_left (first_reading (a := ()) ?_)
    have hstart : First (word "0x".toList) (['0', 'x'] ++ (digits ++ rest)) ['0', 'x']
        (digits ++ rest) := first_spelled (by decide)
    refine first_bind hstart ?_
    exact length ▸ first_hexDigits chars
  | plain name nonempty chars nonzero other =>
    obtain ⟨c, name, rfl⟩ := List.exists_cons_of_ne_nil nonempty
    refine first_orElse_right ?_ (first_orElse_left (first_reading (a := c :: name) ?_))
    · refine reading_eq_nil (bind_eq_nil_of_eq_nil (spelled_cons_eq_nil ?_))
      rintro d ⟨⟩ hd
      exact nonzero c rfl (eq_of_toLower_eq (by decide) hd)
    · refine first_bind (first_opt_none (one_eq_nil ?_)) (first_handle nonempty chars hrest)
      rintro d ⟨⟩
      simpa using (isHandleChar_not_blank (chars c List.mem_cons_self)).2

theorem first_memo (p : InWords k) :
    First (opt memoPattern) p.memoText (p.memo.map Memo.text) [] := by
  unfold InWords.memoText
  cases p.memo with
  | none => exact first_opt_none (bind_eq_nil_of_eq_nil (spaces_eq_nil fun c hc => nomatch hc))
  | some memo =>
    have hlength : 1 ≤ memo.text.length := List.length_pos_of_ne_nil memo.nonempty
    refine first_opt_some ?_
    refine first_bind
      (first_spaces
        (show ∀ c ∈ ('f' :: 'o' :: 'r' :: ' ' :: memo.text).head?, _ by rintro c ⟨⟩; decide)) ?_
    have hfor : First (word "for".toList) (['f', 'o', 'r'] ++ ' ' :: memo.text) ['f', 'o', 'r']
        (' ' :: memo.text) := first_spelled (by decide)
    refine first_bind hfor ?_
    exact first_bind (first_spaces memo.start)
      (first_run_end hlength fun c hc => by simpa using memo.chars c hc)

theorem letter_not_blank {c : Char} (hc : isLetter c) : ¬isWhiteSpace c := by
  have := isAlpha_iff.mp hc
  exact not_isWhiteSpace (by omega) (by omega)

/-- A word after the amount is read as its token. -/
theorem first_amountAndToken (d : Decimal) {word : List Char} (hword : word ≠ [])
    (hletters : ∀ c ∈ word, isLetter c) :
    First amountAndToken (d.text ++ ' ' :: (word ++ ' ' :: rest)) (d.text, some word)
      (' ' :: rest) := by
  obtain ⟨c, letters, rfl⟩ := List.exists_cons_of_ne_nil hword
  refine first_orElse_left ?_
  refine first_bind (first_opt_none (one_eq_nil ?_)) ?_
  · intro e he hcurrency
    have hdigit := d.start e he
    simp only [Bool.or_eq_true, decide_eq_true_eq] at hcurrency
    rcases hcurrency with (rfl | rfl) | rfl <;> exact absurd hdigit (by decide)
  · refine first_bind (first_decimal d (by rintro e ⟨⟩; decide)) ?_
    refine first_bind (first_run (Nat.zero_le _) (show ∀ c ∈ [' '], isWhiteSpace c by decide) ?_) ?_
    · rintro e ⟨⟩
      exact letter_not_blank (hletters c List.mem_cons_self)
    · refine first_bind
        (first_opt_some
          (first_run (List.length_pos_of_ne_nil hword) hletters (by rintro e ⟨⟩; decide))) ?_
      exact first_pure

/-- The verb is one of several that begin with different letters. -/
theorem first_verb {verbs : List String}
    (hverbs : verbs.Pairwise fun v w => ∀ c ∈ v.toList.head?, ∀ d ∈ w.toList.head?, c ≠ d)
    (hnonempty : ∀ v ∈ verbs, v.toList ≠ []) {v : String} (hv : v ∈ verbs) {written : List Char}
    (hwritten : written.map Char.toLower = v.toList) :
    First (oneOf (verbs.map fun verb => word verb.toList)) (written ++ rest) written rest := by
  induction verbs with
  | nil => cases hv
  | cons w verbs ih =>
    obtain ⟨hw, hverbs⟩ := List.pairwise_cons.mp hverbs
    obtain ⟨hnew, hnonempty⟩ := List.forall_mem_cons.mp hnonempty
    rcases List.mem_cons.mp hv with rfl | hv
    · exact first_orElse_left (first_spelled hwritten)
    · refine first_orElse_right ?_ (ih hverbs hnonempty hv)
      obtain ⟨c, letters, hletters⟩ := List.exists_cons_of_ne_nil hnew
      obtain ⟨d, more, hmore⟩ := List.exists_cons_of_ne_nil (hnonempty v hv)
      have hother : c ≠ d := hw v hv c (by rw [hletters]; rfl) d (by rw [hmore]; rfl)
      rw [hmore] at hwritten
      obtain ⟨e, written, rfl, rfl, -⟩ := List.map_eq_cons_iff.mp hwritten
      have hmissing : word (c :: letters) (e :: (written ++ rest)) = [] :=
        spelled_cons_eq_nil (by rintro _ ⟨⟩; exact hother.symm)
      rw [← hletters] at hmissing
      exact hmissing

/-- A word and blanks are not read where another word stands. -/
theorem word_spaces_eq_nil {letters name : List Char} (hletters : ' ' ∉ letters)
    (hname : ∀ c ∈ name, ¬isWhiteSpace c) (hother : name.map Char.toLower ≠ letters)
    (hrest : ∀ c ∈ rest.head?, c = ' ') :
    ((word letters).bind fun _ => spaces) (name ++ rest) = [] := by
  refine bind_eq_nil fun result hresult => ?_
  rw [word, spelled_eq] at hresult
  split at hresult
  case isFalse => cases hresult
  case isTrue hread =>
    obtain rfl := List.mem_singleton.mp hresult
    rcases lt_trichotomy letters.length name.length with hshort | hsame | hlong
    · refine spaces_eq_nil fun c hc => hname c ?_
      have hmore : name.drop letters.length ≠ [] :=
        fun h => absurd (List.drop_eq_nil_iff.mp h) (by omega)
      rw [List.drop_append_of_le_length hshort.le, List.head?_append_of_ne_nil _ hmore] at hc
      exact List.mem_of_mem_drop (List.mem_of_mem_head? hc)
    · rw [hsame, List.take_left] at hread
      exact absurd hread hother
    · cases rest with
      | nil =>
        have hlength := congrArg List.length hread
        rw [List.append_nil, List.length_map, List.length_take] at hlength
        omega
      | cons c rest =>
        obtain rfl : c = ' ' := hrest c rfl
        obtain ⟨n, hn⟩ : ∃ n, letters.length - name.length = n + 1 :=
          Nat.exists_eq_add_one.mpr (by omega)
        rw [List.take_append, hn, List.take_succ_cons, List.map_append, List.map_cons] at hread
        refine absurd ?_ hletters
        rw [← hread]
        exact List.mem_append_right _ List.mem_cons_self

theorem isHandleChar_not_white {c : Char} (hc : isHandleChar c) : ¬isWhiteSpace c := by
  rcases Bool.or_eq_true_iff.mp hc with hc | hc
  · exact not_isWhiteSpace (isWordChar_bounds hc).1 (isWordChar_bounds hc).2
  · rw [of_decide_eq_true hc]
    decide

theorem isHexDigit_not_white {c : Char} (hc : isHexDigit c) : ¬isWhiteSpace c := by
  have hvalue : Backend.digitValue c < 16 := of_decide_eq_true hc
  have hbounds : 33 ≤ c.toNat ∧ c.toNat ≤ 126 := by
    simp only [Backend.digitValue, Char.le_def, UInt32.le_iff_toNat_le] at hvalue
    split at hvalue
    case isTrue h =>
      have := isDigit_iff.mp h
      omega
    case isFalse =>
      split at hvalue
      case isTrue h => exact ⟨le_trans (by decide) h.1, le_trans h.2 (by decide)⟩
      case isFalse =>
        split at hvalue
        case isTrue h => exact ⟨le_trans (by decide) h.1, le_trans h.2 (by decide)⟩
        case isFalse => omega
  exact not_isWhiteSpace hbounds.1 hbounds.2

theorem Whom.not_white (whom : Whom k) : ∀ c ∈ whom.text, ¬isWhiteSpace c := by
  intro c hc
  cases whom with
  | handle name nonempty chars =>
    rcases List.mem_cons.mp hc with rfl | hc
    · decide
    · exact isHandleChar_not_white (chars c hc)
  | evmAddress digits length chars =>
    rcases List.mem_cons.mp hc with rfl | hc
    · decide
    · rcases List.mem_cons.mp hc with rfl | hc
      · decide
      · exact isHexDigit_not_white (chars c hc)
  | plain name nonempty chars nonzero other => exact isHandleChar_not_white (chars c hc)

/-- Nobody is called like the preposition. -/
theorem Whom.other (whom : Whom k) : whom.text.map Char.toLower ≠ k.preposition.toList := by
  cases whom with
  | handle name nonempty chars => cases k <;> simp [Whom.text, Kind.preposition]
  | evmAddress digits length chars => cases k <;> simp [Whom.text, Kind.preposition]
  | plain name nonempty chars nonzero other => exact other

theorem InWords.memoText_start (p : InWords k) : ∀ c ∈ p.memoText.head?, c = ' ' := by
  unfold InWords.memoText
  cases p.memo with
  | none => exact fun c hc => nomatch hc
  | some memo =>
    rintro c ⟨⟩
    rfl

theorem no_preposition (p : InWords k) :
    ((word k.preposition.toList).bind fun _ => spaces) (p.whom.text ++ p.memoText) = [] :=
  word_spaces_eq_nil (by cases k <;> decide) p.whom.not_white p.whom.other p.memoText_start

theorem Whom.text_ne_nil (whom : Whom k) : whom.text ≠ [] := by
  cases whom with
  | handle name nonempty chars => exact List.cons_ne_nil _ _
  | evmAddress digits length chars => exact List.cons_ne_nil _ _
  | plain name nonempty chars nonzero other => exact nonempty

theorem InWords.whom_start (p : InWords k) :
    ∀ c ∈ (p.whom.text ++ p.memoText).head?, ¬isWhiteSpace c := by
  intro c hc
  rw [List.head?_append_of_ne_nil _ p.whom.text_ne_nil] at hc
  exact p.whom.not_white c (List.mem_of_mem_head? hc)

theorem first_preposition (p : InWords k) :
    First (opt ((word k.preposition.toList).bind fun _ => spaces))
      (k.preposition.toList ++ ' ' :: (p.whom.text ++ p.memoText)) (some [' '])
        (p.whom.text ++ p.memoText) :=
  first_opt_some (first_bind (first_spelled (by cases k <;> decide)) (first_spaces p.whom_start))

theorem isDigit_not_white {c : Char} (hc : isDigit c) : ¬isWhiteSpace c := by
  have := isDigit_iff.mp hc
  exact not_isWhiteSpace (by omega) (by omega)

/-- What stands after the amount, as it is read. -/
theorem first_after_amount (p : InWords k) {word : List Char} (hword : word ≠ [])
    (hletters : ∀ c ∈ word, isLetter c) (hstart : ∀ c ∈ rest.head?, ¬isWhiteSpace c)
    {preposition : Option (List Char)}
    (hpreposition : First (opt ((Matches.word k.preposition.toList).bind fun _ => spaces)) rest
      preposition (p.whom.text ++ p.memoText)) :
    First (paymentPattern k.verbs k.preposition)
      (p.verb ++ ' ' :: (p.amount.text ++ ' ' :: (word ++ ' ' :: rest)))
      ⟨p.amount.text, some word, p.whom.text, p.memo.map Memo.text⟩ [] := by
  obtain ⟨v, hv, hspelled⟩ := p.spelled
  refine first_bind (first_verb (by cases k <;> decide) (by cases k <;> decide) hv hspelled) ?_
  refine first_bind (first_spaces fun c hc => isDigit_not_white (p.amount.start c hc)) ?_
  refine first_bind (first_amountAndToken p.amount hword hletters) ?_
  refine first_bind (first_spaces hstart) (first_bind hpreposition ?_)
  exact first_bind (first_recipient p.whom p.memoText_start) (first_bind (first_memo p) first_pure)

/-- What a message in words is read as. -/
theorem search_text (p : InWords k) : search k.pattern p.text = some p.reading := by
  have hpattern : k.pattern = paymentPattern k.verbs k.preposition := by cases k <;> rfl
  have hfirst : First (paymentPattern k.verbs k.preposition) p.text p.reading [] := by
    unfold InWords.text InWords.tokenText InWords.reading
    cases p.token with
    | none =>
      exact first_after_amount p (by cases k <;> decide) (by cases k <;> decide) p.whom_start
        (first_opt_none (no_preposition p))
    | some token =>
      refine first_after_amount p token.nonempty token.chars ?_ (first_preposition p)
      intro c hc
      cases k <;> cases hc <;> decide
  rw [hpattern]
  exact first_search hfirst

end Readings

section Numbers

variable (h : Host)

theorem dropWhile_eq_self {q : Char → Bool} {text : List Char} (htext : ∀ c ∈ text.head?, ¬q c) :
    text.dropWhile q = text := by
  cases text with
  | nil => rfl
  | cons c text => exact List.dropWhile_cons_of_neg (htext c rfl)

theorem numberOf_ne_notANumber (value : ℚ) : numberOf h value ≠ .notANumber := by
  unfold numberOf
  split <;> simp

variable (d : Decimal)

theorem first_mantissa : First mantissa d.text (d.whole, d.fraction) [] := by
  have hwhole : 1 ≤ d.whole.length := List.length_pos_of_ne_nil d.nonempty
  unfold Decimal.text
  refine first_orElse_left ?_
  by_cases hfraction : d.fraction = []
  · rw [if_pos hfraction, List.append_nil]
    refine first_bind (first_run_end hwhole d.wholeDigits) (first_bind (first_opt_none rfl) ?_)
    rw [hfraction]
    exact first_pure
  · rw [if_neg hfraction]
    refine first_bind (first_run hwhole d.wholeDigits (by rintro c ⟨⟩; decide)) ?_
    have hread := first_run_end (Nat.zero_le d.fraction.length) d.fractionDigits
    exact first_bind (first_opt_some (first_bind (first_one (by decide)) hread)) first_pure

/-- An amount is read as its value. -/
theorem parseFloat_decimal : parseFloat h (some (String.ofList d.text)) = numberOf h d.value := by
  have hstart : ∀ c ∈ d.text.head?, isDigit c := by simpa using @Decimal.start [] d
  have hother : ∀ e : Char, ¬isDigit e → ∀ c ∈ d.text.head?, c ≠ e := by
    rintro e he c hc rfl
    exact he (hstart c hc)
  have hblank : d.text.dropWhile isWhiteSpace = d.text :=
    dropWhile_eq_self fun c hc => isDigit_not_white (hstart c hc)
  have hvalue :
      (digitsValue (d.whole ++ d.fraction) : ℚ) * 10 ^ ((0 : ℤ) - d.fraction.length) = d.value := by
    rw [Decimal.value, zero_sub, zpow_neg, zpow_natCast, div_eq_mul_inv]
  have hread : First (floatPrefix h) d.text (numberOf h d.value) [] := by
    refine first_bind (first_opt_none (one_eq_nil ?_)) ?_
    · intro c hc hsign
      rcases Bool.or_eq_true_iff.mp hsign with hsign | hsign
      · exact hother '+' (by decide) c hc (of_decide_eq_true hsign)
      · exact hother '-' (by decide) c hc (of_decide_eq_true hsign)
    · refine first_orElse_right ?_ (first_orElse_left ?_)
      · exact bind_eq_nil_of_eq_nil (spelled_cons_eq_nil fun c hc => hother 'I' (by decide) c hc)
      · refine first_bind (first_mantissa d)
          (first_bind (first_bind (first_opt_none rfl) first_pure) ?_)
        rw [← hvalue]
        exact first_pure
  have htext : (String.ofList d.text).toList = d.text := String.toList_ofList
  simp only [parseFloat, htext, hblank]
  rw [hread]
  rfl

end Numbers

section Words

variable (h : Host)

theorem lowerFrom_ascii {text : List Char} (htext : ∀ c ∈ text, c.toNat < 128)
    (before rest : List Char) :
    lowerFrom h before (text ++ rest) = text.map Char.toLower ++
      lowerFrom h (before ++ text) rest := by
  induction text generalizing before with
  | nil => simp
  | cons c text ih =>
    obtain ⟨hc, htext⟩ := List.forall_mem_cons.mp htext
    simp [lowerFrom, hc, ih htext]

theorem toLowerCase_ascii {text : List Char} (htext : ∀ c ∈ text, c.toNat < 128) :
    toLowerCase h text = text.map Char.toLower := by
  have hlower := lowerFrom_ascii h htext [] []
  rwa [List.append_nil, lowerFrom, List.append_nil] at hlower

theorem head_splitSpaces (text : List Char) :
    (splitSpaces text).headD [] = text.takeWhile fun c => !isWhiteSpace c := by
  rw [splitSpaces]
  split
  case h_1 hnone =>
    have hwhole := List.takeWhile_append_dropWhile (p := fun c => !isWhiteSpace c) (l := text)
    rw [hnone, List.append_nil] at hwhole
    exact hwhole.symm
  case h_2 => rfl

theorem isAlpha_ascii {c : Char} (hc : c.isAlpha) : c.toNat < 128 := by
  have := isAlpha_iff.mp hc
  omega

variable {k : Kind} (p : InWords k)

theorem InWords.verb_letters : p.verb ≠ [] ∧ ∀ c ∈ p.verb, c.isAlpha := by
  obtain ⟨v, hv, hspelled⟩ := p.spelled
  have hv : v.toList ≠ [] ∧ ∀ c ∈ v.toList, c.isLower := by
    have hverbs : ∀ v ∈ k.verbs, v.toList ≠ [] ∧ ∀ c ∈ v.toList, c.isLower := by cases k <;> decide
    exact hverbs v hv
  rw [← hspelled] at hv
  refine ⟨fun h => hv.1 (by rw [h]; rfl), fun c hc => toLower_isLower
    (hv.2 _ (List.mem_map_of_mem hc))⟩

theorem trimChars_prefix {word : List Char} (rest : List Char) (hword : word ≠ [])
    (hchars : ∀ c ∈ word, ¬isWhiteSpace c) :
    word <+: trimChars (word ++ rest) := by
  have hstart : (word ++ rest).dropWhile isWhiteSpace = word ++ rest := by
    refine dropWhile_eq_self fun c hc => hchars c ?_
    rw [List.head?_append_of_ne_nil _ hword] at hc
    exact List.mem_of_mem_head? hc
  have hend : word.reverse.dropWhile isWhiteSpace = word.reverse :=
    dropWhile_eq_self fun c hc => hchars c (List.mem_reverse.mp (List.mem_of_mem_head? hc))
  rw [trimChars, hstart, List.reverse_append, List.dropWhile_append, hend]
  split
  · rw [List.reverse_reverse]
  · rw [List.reverse_append, List.reverse_reverse]
    exact List.prefix_append _ _

/-- The first word of a message in words is its verb, with which the whole begins. -/
theorem messageOf_text : ∃ v ∈ k.verbs, (messageOf h p.text).first = v ∧
    v.toList <+: (messageOf h p.text).fullLower.toList := by
  obtain ⟨v, hv, hspelled⟩ := p.spelled
  obtain ⟨hnonempty, hletters⟩ := p.verb_letters
  have hascii : ∀ c ∈ p.verb, c.toNat < 128 := fun c hc => isAlpha_ascii (hletters c hc)
  have hwhite : ∀ c ∈ p.verb, ¬isWhiteSpace c := fun c hc => letter_not_blank (hletters c hc)
  refine ⟨v, hv, ?_, ?_⟩
  · have hword : (splitSpaces p.text).headD [] = p.verb := by
      rw [head_splitSpaces, InWords.text,
        List.takeWhile_append_of_pos fun c hc => by simpa using hwhite c hc]
      exact List.append_nil _
    have hplain : v.toList.takeWhile (· ≠ '@') = v.toList := by
      have hverbs : ∀ v ∈ k.verbs, v.toList.takeWhile (· ≠ '@') = v.toList := by cases k <;> decide
      exact hverbs v hv
    simp only [messageOf]
    rw [hword, toLowerCase_ascii h hascii, hspelled, hplain, String.ofList_toList]
  · obtain ⟨more, hmore⟩ :=
      trimChars_prefix (' ' :: (p.amount.text ++ (p.tokenText ++ ' ' :: (k.preposition.toList ++
      ' ' :: (p.whom.text ++ p.memoText))))) hnonempty hwhite
    simp only [messageOf, String.toList_ofList]
    rw [InWords.text, ← hmore, toLowerCase, lowerFrom_ascii h hascii, hspelled]
    exact List.prefix_append _ _

/-- No verb is the name of a command, and no button begins with one. -/
theorem rules_without_verbs :
    ∀ v ∈ k.verbs, ∀ rule ∈ rules, v ∉ rule.names ∧ ∀ button ∈ rule.buttons,
      ¬v.toList <+: button.toList := by
  cases k <;> decide +kernel

theorem ruleCommand_text : ruleCommand h (messageOf h p.text) = none := by
  obtain ⟨v, hv, hfirst, hlower⟩ := messageOf_text h p
  refine Option.map_eq_none_iff.mpr (List.find?_eq_none.mpr fun rule hrule happlies => ?_)
  obtain ⟨hnames, hbuttons⟩ := rules_without_verbs v hv rule hrule
  rw [Rule.applies, Bool.and_eq_true, Bool.or_eq_true, decide_eq_true_eq, decide_eq_true_eq,
    hfirst] at happlies
  rcases happlies.1 with hname | hbutton
  · exact hnames hname
  · exact hbuttons _ hbutton hlower

theorem namedPayment_reading : namedPayment h k.intent k.preposition p.reading = p.command h := by
  have hamount := parseFloat_decimal h p.amount
  have hnumber := numberOf_ne_notANumber h p.amount.value
  have hmemo : (p.memo.map Memo.text).map String.ofList = p.memo.map
      fun memo => String.ofList memo.text := by rw [Option.map_map]; rfl
  unfold namedPayment InWords.command InWords.reading
  simp only [hamount, if_neg hnumber, hmemo]
  cases htoken : p.token with
  | none =>
    have hlower : toLowerCase h k.preposition.toList = k.preposition.toList := by
      rw [toLowerCase_ascii h (by cases k <;> decide)]
      cases k <;> decide
    simp [hlower]
  | some token =>
    have hlower : toLowerCase h token.letters = token.letters.map Char.toLower :=
      toLowerCase_ascii h fun c hc => isAlpha_ascii (token.chars c hc)
    have hother := token.other.2
    rw [String.toList_ofList] at hother
    simp [hlower, token.other.1, hother]

/-- What is looked for before the pattern of a kind. -/
def earlier (h : Host) (k : Kind) (text : List Char) : Option Command :=
  let verify := (search regexVerifyPattern text).map verifyCommand
  match k with
  | .pay => verify
  | .request => verify.or ((search regexPayPattern text).map (namedPayment h .pay "to"))

/-- A message in words is read as what it says, unless an earlier pattern is found in it too. -/
theorem parseRegex_text : parseRegex h p.text = (earlier h k p.text).getD (p.command h) := by
  have hsearch := search_text p
  have hcommand := namedPayment_reading h p
  have hrule := ruleCommand_text h p
  cases k with
  | pay =>
    change search regexPayPattern p.text = _ at hsearch
    change namedPayment h .pay "to" p.reading = _ at hcommand
    simp only [parseRegex, namedCommand, earlier, hrule, hsearch, Option.map_some, hcommand]
    cases search regexVerifyPattern p.text <;> rfl
  | request =>
    change search regexRequestPattern p.text = _ at hsearch
    change namedPayment h .request "from" p.reading = _ at hcommand
    simp only [parseRegex, namedCommand, earlier, hrule, hsearch, Option.map_some, hcommand]
    cases search regexVerifyPattern p.text <;> cases search regexPayPattern p.text <;> rfl

end Words

end VeriAgentPay.CommandParsing
