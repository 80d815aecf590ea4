import VeriAgentPay.CommandReading

/-!
# Which commands there are

What is read in words has an amount that is a number, somebody it is for, and a token that is
supported or reported. The commands of administrators come only from a message that begins with
their word, and the actions on one pool from none, since the menu of the pools is what comes first.
No answer of the language model gives either.
-/

namespace VeriAgentPay.CommandParsing
open OrderedMatches OrderedMatches.Matches
open Client (JsNumber)
open Backend (isWhiteSpace trimChars trim truthy)
open UserTokens (TokenInfo supportedToken)

section Patterns

theorem reads_decimal : Reads decimal fun _ text => ∃ d : Decimal, text = d.text := by
  refine reads_bind (reads_run 1) fun _ whole hwhole => reads_bind
    (reads_opt (R := fun _ fraction => fraction ≠ [] ∧ ∀ c ∈ fraction, isDigit c) ?_)
    fun _ fraction hfraction => reads_pure ?_
  · refine reads_bind reads_one fun _ _ _ => reads_imp (reads_run 1)
      fun _ fraction hfraction => ⟨?_, hfraction.2.1⟩
    exact List.ne_nil_of_length_pos hfraction.2.2
  · have hnonempty : whole ≠ [] := List.ne_nil_of_length_pos hwhole.2.2
    cases fraction with
    | none => exact ⟨⟨whole, hnonempty, hwhole.2.1, [], fun c hc => nomatch hc⟩, rfl⟩
    | some fraction =>
      refine ⟨⟨whole, hnonempty, hwhole.2.1, fraction, hfraction.2⟩, ?_⟩
      rw [Decimal.text, if_neg hfraction.1]
      rfl

theorem reads_token :
    Reads (opt (run isLetter 1)) fun _ token => ∀ word ∈ token, word ≠ [] ∧ ∀ c ∈ word,
      isLetter c := by
  refine reads_imp (reads_opt (reads_run 1)) fun read token htoken word hword => ?_
  subst hword
  exact ⟨List.ne_nil_of_length_pos htoken.2.2, htoken.2.1⟩

/-- An amount, and letters as its token. -/
def AmountAndToken (amount : List Char) (token : Option (List Char)) : Prop :=
  (∃ d : Decimal, amount = d.text) ∧ ∀ word ∈ token, word ≠ [] ∧ ∀ c ∈ word, isLetter c

theorem reads_amountAndToken : Reads amountAndToken fun _ m => AmountAndToken m.1 m.2 := by
  refine reads_oneOf
    (List.forall_mem_cons.mpr ⟨?_, List.forall_mem_cons.mpr ⟨?_, fun m hm => nomatch hm⟩⟩)
  · refine reads_bind (reads_opt reads_one) fun _ _ _ => reads_bind reads_decimal
      fun _ amount hamount => ?_
    exact reads_bind (reads_run 0) fun _ _ _ => reads_bind reads_token
      fun _ token htoken => reads_pure ⟨hamount, htoken⟩
  · refine reads_bind reads_token fun _ token htoken => reads_bind (reads_run 0)
      fun _ _ _ => reads_bind (reads_opt reads_one) fun _ _ _ => ?_
    exact reads_bind reads_decimal fun _ amount hamount => reads_pure ⟨hamount, htoken⟩

def isPhoneChar (c : Char) : Bool := isDigit c || isWhiteSpace c || c = '-' || c = '(' || c = ')'

/-- What a recipient may be written like. -/
inductive NamesSomebody : List Char → Prop
  | evmAddress {x : Char} {digits : List Char} (hx : x.toLower = 'x') (hlength : digits.length = 40)
    (hdigits : ∀ c ∈ digits, isHexDigit c) :
      NamesSomebody ('0' :: x :: digits)
  | name {name : List Char} (hname : name ≠ []) (hchars : ∀ c ∈ name, isHandleChar c) :
      NamesSomebody name
  | handle {name : List Char} (hname : name ≠ []) (hchars : ∀ c ∈ name, isHandleChar c) :
      NamesSomebody ('@' :: name)
  | phone {sign digits : List Char} {d : Char} (hsign : sign = [] ∨
      sign = ['+']) (hd : isDigit d) (hlength : 6 ≤ digits.length)
      (hdigits : ∀ c ∈ digits, isPhoneChar c) : NamesSomebody (sign ++ d :: digits)

theorem reads_hexDigits (n : ℕ) :
    Reads (recipientPattern.hexDigits n) fun read _ => read.length = n ∧
      ∀ c ∈ read, isHexDigit c := by
  induction n with
  | zero => exact reads_pure ⟨rfl, fun c hc => nomatch hc⟩
  | succ n ih =>
    refine reads_bind reads_one fun read c hread => reads_imp ih fun more _ hmore => ?_
    rw [hread.1, List.singleton_append, List.length_cons, hmore.1]
    exact ⟨rfl, List.forall_mem_cons.mpr ⟨hread.2, hmore.2⟩⟩

theorem reads_evmAddress : Reads ((word "0x".toList).bind fun _ => recipientPattern.hexDigits 40)
    fun read _ => NamesSomebody read := by
  refine reads_bind (reads_spelled _ _) fun read written hwritten => reads_imp (reads_hexDigits 40)
    fun more _ hmore => ?_
  obtain ⟨rfl, hletters⟩ := hwritten
  obtain ⟨z, rest, rfl, hz, hrest⟩ := List.map_eq_cons_iff.mp hletters
  obtain ⟨x, rest, rfl, hx, hrest⟩ := List.map_eq_cons_iff.mp hrest
  obtain rfl := List.map_eq_nil_iff.mp hrest
  obtain rfl := eq_of_toLower_eq (by decide) hz
  exact .evmAddress hx hmore.1 hmore.2

theorem reads_handle : Reads ((opt (one (· = '@'))).bind fun _ => run isHandleChar 1)
    fun read _ => NamesSomebody read := by
  refine reads_bind (reads_opt reads_one) fun read sign hsign => reads_imp (reads_run 1)
    fun more name hname => ?_
  obtain ⟨rfl, hchars, hlength⟩ := hname
  have hname : more ≠ [] := List.ne_nil_of_length_pos hlength
  cases sign with
  | none =>
    change read = [] at hsign
    rw [hsign]
    exact .name hname hchars
  | some c =>
    obtain ⟨rfl, hc⟩ : read = [c] ∧ _ := hsign
    obtain rfl := of_decide_eq_true hc
    exact .handle hname hchars

theorem reads_phone :
    Reads ((opt (one (· = '+'))).bind fun _ => (one isDigit).bind fun _ => run isPhoneChar 6)
      fun read _ => NamesSomebody read := by
  refine reads_bind (reads_opt reads_one) fun read sign hsign => reads_bind reads_one
    fun digit d hd => ?_
  refine reads_imp (reads_run 6) fun more digits hdigits => ?_
  obtain ⟨rfl, hchars, hlength⟩ := hdigits
  rw [hd.1]
  refine .phone ?_ hd.2 hlength hchars
  cases sign with
  | none => exact .inl hsign
  | some c =>
    obtain ⟨rfl, hc⟩ : read = [c] ∧ _ := hsign
    obtain rfl := of_decide_eq_true hc
    exact .inr rfl

theorem reads_recipientPattern :
    Reads recipientPattern fun _ recipient => NamesSomebody recipient := by
  have hreading : ∀ {α : Type} {m : Matches α}, (Reads m fun read _ => NamesSomebody read) →
      Reads (reading m) fun _ recipient => NamesSomebody recipient := by
    refine fun hm => reads_imp (reads_reading hm) fun read recipient hrecipient => ?_
    obtain ⟨rfl, -, hread⟩ := hrecipient
    exact hread
  exact reads_orElse (hreading reads_evmAddress) (reads_orElse (hreading reads_handle)
    (reads_orElse (hreading reads_phone) fun _ _ h => nomatch h))

theorem reads_memoPattern : Reads memoPattern fun _ memo => memo ≠ [] := by
  refine reads_bind (reads_run 1) fun _ _ _ => reads_bind (reads_spelled _ _)
    fun _ _ _ => reads_bind (reads_run 1) fun _ _ _ => ?_
  exact reads_imp (reads_run 1) fun _ memo hmemo => List.ne_nil_of_length_pos hmemo.2.2

structure PaymentMatch.Valid (m : PaymentMatch) : Prop where
  amountAndToken : AmountAndToken m.amount m.token
  recipient : NamesSomebody m.recipient
  memo : ∀ memo ∈ m.memo, memo ≠ []

/-- Nothing is said about the words that are read. -/
theorem reads_words (words : List String) :
    Reads (oneOf (words.map fun letters => word letters.toList)) fun _ _ => True := by
  refine reads_oneOf fun m hm => ?_
  obtain ⟨letters, -, rfl⟩ := List.mem_map.mp hm
  exact reads_imp (reads_spelled _ _) fun _ _ _ => trivial

theorem reads_word_spaces (letters : List Char) :
    Reads ((word letters).bind fun _ => spaces) fun _ _ => True :=
  reads_bind (reads_spelled _ _) fun _ _ _ => reads_imp (reads_run 1) fun _ _ _ => trivial

theorem reads_paymentPattern (verbs : List String) (preposition : String) :
    Reads (paymentPattern verbs preposition) fun _ m => m.Valid := by
  refine reads_bind (reads_words verbs) fun _ _ _ => reads_bind (reads_run 1)
    fun _ _ _ => reads_bind reads_amountAndToken fun _ m hm => ?_
  refine reads_bind (reads_run 1) fun _ _ _ => reads_bind (reads_opt (reads_word_spaces _))
    fun _ _ _ => ?_
  refine reads_bind reads_recipientPattern fun _ recipient hrecipient => reads_bind
    (reads_opt reads_memoPattern) fun _ memo hmemo => ?_
  refine reads_pure ⟨hm, hrecipient, ?_⟩
  rintro memo rfl
  exact hmemo

theorem reads_verifyPattern :
    Reads regexVerifyPattern fun _ digits => digits ≠ [] ∧ ∀ c ∈ digits, isDigit c := by
  refine reads_bind (reads_words ["/verify", "verify"]) fun _ _ _ => reads_bind (reads_run 1)
    fun _ _ _ => ?_
  exact reads_imp (reads_run 1) fun _ digits hdigits => ⟨List.ne_nil_of_length_pos hdigits.2.2,
    hdigits.2.1⟩

theorem reads_savePattern : Reads regexSavePattern fun _ amount => ∃ d :
    Decimal, amount = d.text := by
  refine reads_bind (reads_words ["save", "deposit", "compound"]) fun _ _ _ => reads_bind
    (reads_run 1) fun _ _ _ => ?_
  exact reads_bind (reads_opt reads_one) fun _ _ _ => reads_decimal

theorem reads_splitPattern : Reads regexSplitPattern fun _ m => ∃ d : Decimal, m.1 = d.text := by
  have hname : Reads regexSplitPattern.name fun _ _ => True :=
    reads_bind (reads_opt reads_one) fun _ _ _ => reads_bind (reads_run 1) fun _ _ _ => reads_bind
      (reads_run 0) fun _ _ _ => reads_pure trivial
  have hnames : Reads (reading (regexSplitPattern.name.bind fun _ => again regexSplitPattern.name))
      fun _ _ => True :=
    reads_imp (reads_reading (reads_bind (T := fun _ _ => True) hname fun _ _ _ => reads_imp
      (reads_again hname) fun _ _ _ => trivial))
      fun _ _ _ => trivial
  refine reads_bind (reads_spelled _ _) fun _ _ _ => reads_bind (reads_run 1) fun _ _ _ => ?_
  refine reads_bind (reads_opt (reads_word_spaces _)) fun _ _ _ => reads_bind (reads_opt reads_one)
    fun _ _ _ => ?_
  refine reads_bind reads_decimal fun _ amount hamount => reads_bind (reads_run 1) fun _ _ _ => ?_
  refine reads_bind (reads_opt (reads_word_spaces _)) fun _ _ _ => reads_bind (reads_spelled _ _)
    fun _ _ _ => ?_
  exact reads_bind (reads_run 1) fun _ _ _ => reads_bind hnames fun _ names _ => reads_pure hamount

end Patterns

section Named

variable (h : Host)

theorem parseFloat_of_decimal {amount : List Char} (hamount : ∃ d : Decimal, amount = d.text) :
    ∃ d : Decimal, parseFloat h (some (String.ofList amount)) = numberOf h d.value := by
  obtain ⟨d, rfl⟩ := hamount
  exact ⟨d, parseFloat_decimal h d⟩

/-- The token is supported, or it is reported as unsupported. -/
def TokenSettled (params : CommandParams) : Prop :=
  (∃ token, params.tokenInfo = some token ∧ params.tokenSymbol = some token.symbol ∧
    params.unsupportedToken = none) ∨
    ∃ symbol, params.tokenInfo = none ∧ params.tokenSymbol = some symbol ∧
    params.unsupportedToken = some symbol

theorem withToken_settled (symbol : String) (params : CommandParams) :
    TokenSettled (withToken h (some symbol) params) := by
  unfold TokenSettled withToken
  cases resolveToken h (some symbol) with
  | none => exact .inr ⟨symbol, rfl, rfl, rfl⟩
  | some token => exact .inl ⟨token, rfl, rfl, rfl⟩

/-- What a command that is read in words carries. -/
inductive WellRead (h : Host) : Command → Prop
  | verify {digits : List Char} (hnonempty : digits ≠ []) (hdigits : ∀ c ∈ digits, isDigit c) :
      WellRead h ⟨.verify, { adminArgs := some (.text (String.ofList digits)) }⟩
  | payment {intent : CommandIntent} {params : CommandParams} (hintent : intent = .pay ∨
      intent = .request)
      (hamount : ∃ d : Decimal, params.amount = some (numberOf h d.value))
        (hrecipient : ∃ text, params.recipient = some (String.ofList text) ∧ NamesSomebody text)
      (htoken : TokenSettled params) (hmemo : params.memo ≠ some "") : WellRead h ⟨intent, params⟩
  | save {d : Decimal} : WellRead h ⟨.save, { amount := some (numberOf h d.value) }⟩
  | split {d : Decimal} {participants : List String}
      (hparticipants : ∀ name ∈ participants, name ≠ "" ∧ ∀ c ∈ name.toList, ¬isWhiteSpace c ∧ c ∉
        [',', 'a', 'n', 'd']) :
      WellRead h ⟨.split,
        { amount := some (numberOf h d.value), participants := some participants }⟩

theorem namedPayment_intent (intent : CommandIntent) (preposition : String) {m : PaymentMatch}
    (hm : m.Valid) :
    (namedPayment h intent preposition m).intent = intent := by
  obtain ⟨d, hd⟩ := parseFloat_of_decimal h hm.amountAndToken.1
  unfold namedPayment
  simp only [hd, if_neg (numberOf_ne_notANumber h d.value)]

theorem namedPayment_wellRead {intent : CommandIntent} (hintent : intent = .pay ∨ intent = .request)
    (preposition : String) {m : PaymentMatch} (hm : m.Valid) :
    WellRead h (namedPayment h intent preposition m) := by
  obtain ⟨d, hd⟩ := parseFloat_of_decimal h hm.amountAndToken.1
  unfold namedPayment
  simp only [hd, if_neg (numberOf_ne_notANumber h d.value)]
  refine .payment hintent ⟨d, rfl⟩ ⟨_, rfl, ?_⟩ (withToken_settled h _ _) ?_
  · split
    · cases htoken : m.token with
      | none => exact hm.recipient
      | some word =>
        obtain ⟨hword, hletters⟩ := hm.amountAndToken.2 word htoken
        exact .name hword fun c hc => by
          simp [isHandleChar, isWordChar, Char.isAlphanum, show c.isAlpha = true from hletters c hc]
    · exact hm.recipient
  · intro hmemo
    obtain ⟨memo, hfound, hempty⟩ := Option.map_eq_some_iff.mp hmemo
    have hnil := congrArg String.toList hempty
    rw [String.toList_ofList] at hnil
    exact hm.memo memo hfound hnil

/-- The parts of a text hold nothing at which it is split. -/
theorem not_mem_splitOnP {p : Char → Bool} (text : List Char) :
    ∀ part ∈ text.splitOnP p, ∀ c ∈ part, ¬p c := by
  have hsplit : ∀ acc :
      List Char, (∀ c ∈ acc, ¬p c) → ∀ part ∈ text.splitOnPPrepend p acc, ∀ c ∈ part, ¬p c := by
    induction text with
    | nil =>
      intro acc hacc part hpart c hc
      rw [List.splitOnPPrepend_nil] at hpart
      obtain rfl := List.mem_singleton.mp hpart
      exact hacc c (List.mem_reverse.mp hc)
    | cons d text ih =>
      intro acc hacc part hpart
      rw [List.splitOnPPrepend_cons_eq_if] at hpart
      split at hpart
      case isTrue hd =>
        rcases List.mem_cons.mp hpart with rfl | hpart
        · exact fun c hc => hacc c (List.mem_reverse.mp hc)
        · exact ih [] (fun c hc => nomatch hc) part hpart
      case isFalse hd => exact ih (d :: acc) (List.forall_mem_cons.mpr ⟨hd, hacc⟩) part hpart
  exact hsplit [] fun c hc => nomatch hc

theorem namesOf_chars (text : List Char) : ∀ name ∈ namesOf text, name ≠ "" ∧
    ∀ c ∈ name.toList, ¬isWhiteSpace c ∧ c ∉ [',', 'a', 'n', 'd'] := by
  intro name hname
  obtain ⟨part, hpart, rfl⟩ := List.mem_map.mp hname
  obtain ⟨hpart, hnonempty⟩ := List.mem_filter.mp hpart
  refine ⟨fun hempty => of_decide_eq_true hnonempty ?_, fun c hc => ?_⟩
  · have hnil := congrArg String.toList hempty
    rwa [String.toList_ofList] at hnil
  · rw [String.toList_ofList] at hc
    simpa using not_mem_splitOnP text part hpart c hc

theorem namedSplit_wellRead {m : List Char × List Char} (hm : ∃ d : Decimal, m.1 = d.text) :
    WellRead h (namedSplit h m) := by
  obtain ⟨d, hd⟩ := parseFloat_of_decimal h hm
  rw [namedSplit, hd]
  exact .split (namesOf_chars m.2)

/-- Where a command in words comes from. -/
theorem namedCommand_cases {text : List Char} {c : Command} (hc : namedCommand h text = some c) :
    (∃ digits, search regexVerifyPattern text = some digits ∧ c = verifyCommand digits) ∨
      (∃ m : PaymentMatch, m.Valid ∧ (c = namedPayment h .pay "to" m ∨
        c = namedPayment h .request "from" m)) ∨
      (∃ d : Decimal, c = ⟨.save, { amount := some (numberOf h d.value) }⟩) ∨
      ∃ m, (∃ d : Decimal, m.1 = d.text) ∧ c = namedSplit h m := by
  simp only [namedCommand, Option.or_eq_some_iff, Option.map_eq_some_iff] at hc
  rcases hc with ⟨digits, hfound, rfl⟩ | ⟨-,
    ⟨m, hfound, rfl⟩ | ⟨-, ⟨m, hfound, rfl⟩ | ⟨-, ⟨amount, hfound, rfl⟩ | ⟨-, m, hfound, rfl⟩⟩⟩⟩
  · exact .inl ⟨digits, hfound, rfl⟩
  · obtain ⟨-, -, -, -, hm⟩ := (reads_paymentPattern _ _).of_search hfound
    exact .inr (.inl ⟨m, hm, .inl rfl⟩)
  · obtain ⟨-, -, -, -, hm⟩ := (reads_paymentPattern _ _).of_search hfound
    exact .inr (.inl ⟨m, hm, .inr rfl⟩)
  · obtain ⟨-, -, -, -, hamount⟩ := reads_savePattern.of_search hfound
    obtain ⟨d, hd⟩ := parseFloat_of_decimal h hamount
    rw [hd]
    exact .inr (.inr (.inl ⟨d, rfl⟩))
  · obtain ⟨-, -, -, -, hm⟩ := reads_splitPattern.of_search hfound
    exact .inr (.inr (.inr ⟨m, hm, rfl⟩))

/-- What is read in words is well formed. -/
theorem namedCommand_wellRead {text : List Char} {c : Command} (hc : namedCommand h text = some c) :
    WellRead h c := by
  rcases namedCommand_cases h hc with ⟨digits, hfound, rfl⟩ | ⟨m, hm, rfl | rfl⟩ | ⟨d,
    rfl⟩ | ⟨m, hm, rfl⟩
  · obtain ⟨-, -, -, -, hnonempty, hdigits⟩ := reads_verifyPattern.of_search hfound
    exact .verify hnonempty hdigits
  · exact namedPayment_wellRead h (.inl rfl) "to" hm
  · exact namedPayment_wellRead h (.inr rfl) "from" hm
  · exact .save
  · exact namedSplit_wellRead h hm

end Named

section Intents

variable (h : Host)

/-- What the menu of the pools leaves of the actions on one pool, and what is an invitation
instead. -/
def shadowedIntents : List CommandIntent :=
  [.poolInvite, .poolJoin, .poolDeposit, .poolRequest, .referral]

def adminIntents : List CommandIntent := [.adminStats, .adminInsights, .adminAlert, .adminAdd]

/-- What the menus and the buttons stand for. -/
def menuIntents : List CommandIntent :=
  [.start, .help, .wallet, .dashboard, .balance, .contacts, .history, .invite, .leaderboard,
    .badges, .stats, .tokens, .addToken, .removeToken,
    .pending, .cancel, .pay, .requestsMenu, .splitsMenu, .envelopesMenu, .poolsMenu, .menu,
    .vaultsMenu]

/-- What anybody may ask for. -/
def ordinaryIntents : List CommandIntent :=
  menuIntents ++ [.request, .save, .envelope, .split, .subscribe, .unknown]

theorem cancelCommand_intent (m : Message) : (cancelCommand m).intent ∈ menuIntents := by
  unfold cancelCommand
  split <;> simp [menuIntents]

theorem menuRules_intents : ∀ rule ∈ menuRules, ∀ m, (rule.command h m).intent ∈ menuIntents := by
  simp +decide [menuRules, plain, cancelCommand_intent]

theorem payCommand_intent (m : Message) : (payCommand h m).intent = .pay := by
  unfold payCommand
  split <;> rfl

theorem adminCommand_intent (m : Message) : (adminCommand h m).intent ∈ adminIntents := by
  unfold adminCommand
  simp only
  split_ifs <;> simp [adminIntents]

/-- The commands with parameters; those of administrators have one word. -/
theorem slashRules_intents : ∀ rule ∈ slashRules, ∀ m,
    (rule.command h m).intent ∈ ordinaryIntents ∨
      (rule.command h m).intent ∈ adminIntents ∧ rule.names = ["/admin"] ∧ rule.buttons = [] := by
  simp +decide [slashRules, plain, payCommand_intent, adminCommand_intent, requestCommand,
    saveCommand, envelopeCommand, splitCommand,
    subscribeCommand]

/-- The menu of the pools opens on whatever begins with their word. -/
theorem poolRules_shadowed {m : Message} {rule : Rule} (hrule : rule ∈ poolRules)
    (happlies : rule.applies m) :
    ∃ menu ∈ menuRules, menu.applies m := by
  have hpool : ∀ rule ∈ poolRules, rule.names = ["/pool"] ∧ rule.buttons = [] := by simp [poolRules]
  obtain ⟨hnames, hbuttons⟩ := hpool rule hrule
  have hfirst : m.first = "/pool" := by
    rw [Rule.applies, hnames, hbuttons] at happlies
    simpa using (Bool.and_eq_true_iff.mp happlies).1
  refine ⟨{ names := ["/pools", "/pool"], buttons := ["👥 pools", "🏦 group pools"]
            command := plain .poolsMenu }, by simp [menuRules], ?_⟩
  simp [Rule.applies, hfirst]

theorem ruleCommand_intent {m : Message} {c : Command} (hc : ruleCommand h m = some c) :
    c.intent ∈ ordinaryIntents ∨ c.intent ∈ adminIntents ∧ m.first = "/admin" := by
  obtain ⟨rule, hfound, rfl⟩ := Option.map_eq_some_iff.mp hc
  have happlies : rule.applies m := List.find?_some (p := fun rule => Rule.applies rule m) hfound
  rw [rules, List.find?_append, List.find?_append] at hfound
  rcases Option.or_eq_some_iff.mp hfound with hfound | ⟨hmenu, hslash⟩
  · rcases Option.or_eq_some_iff.mp hfound with hmenu | ⟨hmenu, hpool⟩
    · exact .inl
        (List.mem_append_left _ (menuRules_intents h rule (List.mem_of_find?_eq_some hmenu) m))
    · obtain ⟨menu, hrule, hopens⟩ := poolRules_shadowed (List.mem_of_find?_eq_some hpool) happlies
      exact absurd hopens (List.find?_eq_none.mp hmenu menu hrule)
  · rcases slashRules_intents h rule (List.mem_of_find?_eq_some hslash) m with hplain | ⟨hadmin,
      hnames, hbuttons⟩
    · exact .inl hplain
    · refine .inr ⟨hadmin, ?_⟩
      rw [Rule.applies, hnames, hbuttons] at happlies
      simpa using (Bool.and_eq_true_iff.mp happlies).1

/-- What is read in words, and verifications only where their pattern is found. -/
theorem namedCommand_intent {text : List Char} {c : Command} (hc : namedCommand h text = some c) :
    c.intent ∈ ordinaryIntents ∨ c.intent = .verify ∧ (search regexVerifyPattern text).isSome := by
  rcases namedCommand_cases h hc with ⟨digits, hfound, rfl⟩ | ⟨m, hm, rfl | rfl⟩ | ⟨d,
    rfl⟩ | ⟨m, hm, rfl⟩
  · exact .inr ⟨rfl, by rw [hfound]; rfl⟩
  · exact .inl (by rw [namedPayment_intent h .pay "to" hm]; decide)
  · exact .inl (by rw [namedPayment_intent h .request "from" hm]; decide)
  · exact .inl (List.mem_append_right _ (by simp))
  · exact .inl (List.mem_append_right _ (by simp [namedSplit]))

theorem conversationCommand_intent {m : Message} {c : Command}
    (hc : conversationCommand m = some c) : c.intent ∈ menuIntents := by
  obtain ⟨entry, hfound, rfl⟩ := Option.map_eq_some_iff.mp hc
  have hentries : ∀ entry ∈ conversation, entry.2 ∈ menuIntents := by simp +decide
  exact hentries entry (List.mem_of_find?_eq_some hfound)

theorem mapNlpIntentToAction_intent (intent : String) :
    mapNlpIntentToAction h intent ∈ nlpIntents.map Prod.snd ++ [.unknown] := by
  unfold mapNlpIntentToAction
  cases hfound :
    nlpIntents.find? fun entry => String.ofList (toLowerCase h intent.toList) ∈ entry.1 with
  | none => decide
  | some entry =>
    exact List.mem_append_left _ (List.mem_map_of_mem (List.mem_of_find?_eq_some hfound))

/-- What a message may be without the language model. -/
theorem parseRegex_intent (text : List Char) :
    (parseRegex h text).intent ∈ ordinaryIntents ∨ (parseRegex h text).intent ∈ adminIntents ∧
    (messageOf h text).first = "/admin" ∨
      (parseRegex h text).intent = .verify ∧ (search regexVerifyPattern text).isSome := by
  unfold parseRegex
  cases hc : (ruleCommand h (messageOf h text)).or
    ((namedCommand h text).or (conversationCommand (messageOf h text))) with
  | none => exact .inl (by simp [hc, ordinaryIntents])
  | some c =>
    simp only [hc, Option.getD_some]
    rcases Option.or_eq_some_iff.mp hc with hrule | ⟨-, hc⟩
    · rcases ruleCommand_intent h hrule with hplain | hadmin
      · exact .inl hplain
      · exact .inr (.inl hadmin)
    · rcases Option.or_eq_some_iff.mp hc with hnamed | ⟨-, hconversation⟩
      · rcases namedCommand_intent h hnamed with hplain | hverify
        · exact .inl hplain
        · exact .inr (.inr hverify)
      · exact .inl (List.mem_append_left _ (conversationCommand_intent hconversation))

/-- An answer of the language model is one of its words, and is counted only when it is sure
enough. -/
theorem parseCommand_cases (text : List Char) (nlp : Option NlpResult) :
    (parseCommand h text nlp).source = .regex ∧
        ((parseCommand h text nlp).command = parseRegex h (trimChars text) ∨
          (parseCommand h text nlp).command = ⟨.unknown, {}⟩) ∨
      (parseCommand h text nlp).source = .nlp ∧
      (parseCommand h text nlp).command.intent ∈ nlpIntents.map Prod.snd ∧
        3 / 5 ≤ (parseCommand h text nlp).confidence := by
  unfold parseCommand
  split
  case isTrue => exact .inl ⟨rfl, .inr rfl⟩
  case isFalse =>
    simp only
    split
    case isTrue => exact .inl ⟨rfl, .inl rfl⟩
    case isFalse =>
      split
      case h_1 result hresult =>
        obtain ⟨-, hcounts⟩ := Option.filter_eq_some_iff.mp hresult
        simp only [NlpResult.counts, Bool.and_eq_true, decide_eq_true_eq] at hcounts
        refine .inr ⟨rfl, ?_, ?_⟩
        · rcases List.mem_append.mp
            (mapNlpIntentToAction_intent h result.intent) with hword | hunknown
          · exact hword
          · exact absurd (List.mem_singleton.mp hunknown) hcounts.2
        · have hsure := hcounts.1.2
          cases hconfidence : result.securityCheck.bind SecurityCheck.confidence with
          | none => norm_num [hconfidence]
          | some confidence =>
            rw [hconfidence, Option.getD_some] at hsure
            have hnonzero : confidence ≠ 0 := by
              rintro rfl
              norm_num at hsure
            simpa [hconfidence, Option.filter, hnonzero] using hsure
      case h_2 => exact .inl ⟨rfl, .inr rfl⟩

/-- Nobody gets at what only administrators may ask for in another way than with their word,
whatever the language model answers; a user is verified only where the pattern of this is found; and
the actions on one pool are never what is understood. -/
theorem parseCommand_intents (text : List Char) (nlp : Option NlpResult) :
    (parseCommand h text nlp).command.intent ∉ shadowedIntents ∧
      ((parseCommand h text nlp).command.intent ∈ adminIntents →
        (messageOf h (trimChars text)).first = "/admin" ∧
        (parseCommand h text nlp).source = .regex) ∧
      ((parseCommand h text nlp).command.intent = .verify →
        (search regexVerifyPattern (trimChars text)).isSome ∧
        (parseCommand h text nlp).source = .regex) := by
  have hordinary : ∀ intent ∈ ordinaryIntents, intent ∉ shadowedIntents ∧ intent ∉ adminIntents ∧
      intent ≠ .verify := by decide
  have hadmins : ∀ intent ∈ adminIntents, intent ∉ shadowedIntents ∧ intent ≠ .verify := by decide
  have hnlp : ∀ intent ∈ nlpIntents.map Prod.snd, intent ∈ ordinaryIntents := by decide
  have hplain : (parseCommand h text nlp).command.intent ∈ ordinaryIntents →
      (parseCommand h text nlp).command.intent ∉ shadowedIntents ∧
      ((parseCommand h text nlp).command.intent ∈ adminIntents →
        (messageOf h (trimChars text)).first = "/admin" ∧
        (parseCommand h text nlp).source = .regex) ∧
      ((parseCommand h text nlp).command.intent = .verify →
        (search regexVerifyPattern (trimChars text)).isSome ∧
        (parseCommand h text nlp).source = .regex) := by
    intro hintent
    obtain ⟨hshadowed, hadmin, hverify⟩ := hordinary _ hintent
    exact ⟨hshadowed, fun h => absurd h hadmin, fun h => absurd h hverify⟩
  rcases parseCommand_cases h text nlp with ⟨hsource, hcommand | hcommand⟩ | ⟨-, hword, -⟩
  · rcases parseRegex_intent h (trimChars text) with hintent | ⟨hintent, hfirst⟩ | ⟨hintent, hfound⟩
    · exact hplain (hcommand ▸ hintent)
    · rw [← hcommand] at hintent
      obtain ⟨hshadowed, hverify⟩ := hadmins _ hintent
      exact ⟨hshadowed, fun _ => ⟨hfirst, hsource⟩, fun h => absurd h hverify⟩
    · rw [← hcommand] at hintent
      rw [hintent]
      exact ⟨by decide, fun h => absurd h (by decide), fun _ => ⟨hfound, hsource⟩⟩
  · exact hplain (by rw [hcommand]; decide)
  · exact hplain (hnlp _ hword)

end Intents

section Messages

variable (h : Host) {k : Kind} (p : InWords k)

theorem trimChars_between {before text after : List Char} (hbefore : ∀ c ∈ before, isWhiteSpace c)
    (hafter : ∀ c ∈ after, isWhiteSpace c) (hstart : ∀ c ∈ text.head?, ¬isWhiteSpace c)
    (hfinish : ∀ c ∈ text.getLast?, ¬isWhiteSpace c) :
    trimChars (before ++ (text ++ after)) = text := by
  have hend : (after.reverse ++ text.reverse).dropWhile isWhiteSpace = text.reverse := by
    rw [List.dropWhile_append_of_pos fun c hc => hafter c (List.mem_reverse.mp hc)]
    exact dropWhile_eq_self fun c hc => hfinish c (by rwa [List.head?_reverse] at hc)
  rw [trimChars, List.dropWhile_append_of_pos hbefore]
  cases text with
  | nil =>
    have hnothing : after.dropWhile isWhiteSpace = [] := List.dropWhile_eq_nil_iff.mpr hafter
    rw [List.nil_append, hnothing]
    rfl
  | cons c text =>
    have hhead : ∀ d ∈ (c :: text ++ after).head?, ¬isWhiteSpace d := by
      rintro _ ⟨⟩
      exact hstart c rfl
    rw [dropWhile_eq_self hhead, List.reverse_append, hend, List.reverse_reverse]

theorem InWords.text_start : ∀ c ∈ p.text.head?, ¬isWhiteSpace c := by
  obtain ⟨hnonempty, hletters⟩ := p.verb_letters
  intro c hc
  rw [InWords.text, List.head?_append_of_ne_nil _ hnonempty] at hc
  exact letter_not_blank (hletters c (List.mem_of_mem_head? hc))

theorem InWords.text_finish : ∀ c ∈ p.text.getLast?, ¬isWhiteSpace c := by
  have hwhom : ∀ c ∈ p.whom.text.getLast?, ¬isWhiteSpace c :=
    fun c hc => p.whom.not_white c (List.mem_of_getLast? hc)
  have hrest : ∀ c ∈ (p.whom.text ++ p.memoText).getLast?, ¬isWhiteSpace c := by
    unfold InWords.memoText
    cases p.memo with
    | none => simpa using hwhom
    | some memo =>
      intro c hc
      have hmemo :
          (p.whom.text ++ (" for ".toList ++ memo.text)).getLast? = memo.text.getLast? := by
        rw [← List.append_assoc, List.getLast?_append_of_ne_nil _ memo.nonempty]
      rw [Option.map_some, Option.getD_some, hmemo] at hc
      exact memo.finish c hc
  have hnonempty : p.whom.text ++ p.memoText ≠ [] :=
    List.append_ne_nil_of_left_ne_nil p.whom.text_ne_nil _
  have htext :
      p.text = (p.verb ++ ' ' ::
        (p.amount.text ++ (p.tokenText ++ ' ' :: (k.preposition.toList ++ [' '])))) ++
      (p.whom.text ++ p.memoText) := by simp [InWords.text]
  rw [htext, List.getLast?_append_of_ne_nil _ hnonempty]
  exact hrest

theorem earlier_intent {text : List Char} {c : Command} (hc : earlier h k text = some c) :
    c.intent ≠ .unknown := by
  have hverify : ∀ {digits : Option (List Char)}, digits.map verifyCommand = some c →
      c.intent ≠ .unknown := by
    intro digits hdigits
    obtain ⟨digits, -, rfl⟩ := Option.map_eq_some_iff.mp hdigits
    simp [verifyCommand]
  cases k with
  | pay => exact hverify hc
  | request =>
    rcases Option.or_eq_some_iff.mp hc with hc | ⟨-, hc⟩
    · exact hverify hc
    · obtain ⟨m, hfound, rfl⟩ := Option.map_eq_some_iff.mp hc
      obtain ⟨-, -, -, -, hm⟩ := (reads_paymentPattern _ _).of_search hfound
      rw [namedPayment_intent h .pay "to" hm]
      decide

/-- A message in words is read as what it says, with blanks around it and whatever the language
model would answer, unless a pattern that is looked for earlier is found in it too. -/
theorem parseCommand_text {before after : List Char} (hbefore : ∀ c ∈ before, isWhiteSpace c)
    (hafter : ∀ c ∈ after, isWhiteSpace c) (nlp : Option NlpResult) :
    parseCommand h (before ++ (p.text ++ after)) nlp = ⟨(earlier h k p.text).getD (p.command h), 1,
      .regex⟩ := by
  have htrim := trimChars_between hbefore hafter p.text_start p.text_finish
  have hnonempty : p.text ≠ [] := List.append_ne_nil_of_left_ne_nil p.verb_letters.1 _
  have hknown : ((earlier h k p.text).getD (p.command h)).intent ≠ .unknown := by
    cases hc : earlier h k p.text with
    | none => cases k <;> simp [InWords.command, withToken, Kind.intent]
    | some c => exact earlier_intent h hc
  simp only [parseCommand, htrim, if_neg hnonempty, parseRegex_text, ne_eq, hknown,
    not_false_eq_true, if_true]

end Messages

end VeriAgentPay.CommandParsing

namespace VeriAgentPay.Devnet
open OrderedMatches CommandParsing

def messageHost : CommandParsing.Host where
  env := tokenEnvironment
  lowerNonAscii _ c _ := [c]
  nearest := some

def bobsLunch : InWords .pay where
  verb := "Send".toList
  spelled := ⟨"send", by decide, by decide⟩
  amount := ⟨"12".toList, by decide, by decide, "5".toList, by decide⟩
  token := some ⟨"sol".toList, by decide, by decide, by decide⟩
  whom := .handle "bob".toList (by decide) (by decide)
  memo := some ⟨"lunch".toList, by decide, by decide, by decide, by decide⟩

def bobsPayment : Command :=
  ⟨.pay,
    { amount := some (.finite (25 / 2)), tokenSymbol := some "SOL"
      tokenInfo := some ⟨"SOL", "Solana", UserTokens.nativeTokenAddress, 9, "SOL"⟩
      recipient := some "@bob", memo := some "lunch" }⟩

theorem bobsLunch_means : earlier messageHost .pay bobsLunch.text = none ∧
    bobsLunch.command messageHost = bobsPayment := by decide +kernel

theorem parseCommand_text_devnet :
    parseCommand messageHost "  Send 12.5 sol to @bob for lunch\n".toList none = ⟨bobsPayment, 1,
      .regex⟩ := by
  have hread := parseCommand_text messageHost bobsLunch (show ∀ c ∈ [' ', ' '], _ by decide)
    (show ∀ c ∈ ['\n'], _ by decide) none
  rw [bobsLunch_means.1, bobsLunch_means.2] at hread
  exact hread

def evesShare : Command :=
  ⟨.split, { amount := some (.finite 60), participants := some ["@bob", "@eve"] }⟩

theorem namedCommand_wellRead_devnet : WellRead messageHost evesShare :=
  namedCommand_wellRead messageHost
    (show namedCommand messageHost "split the $60 bill with @bob and @eve".toList =
      some evesShare by decide +kernel)

end VeriAgentPay.Devnet
