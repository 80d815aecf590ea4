import VeriAgentPay.CommandIntents

/-!
# What a language model makes of a message

A message that is not a command goes through a filter to a language model. Its answer is read as
JSON, and refused where it shows the token that it must not reveal, or asks for more than 500
dollars. Without a usable answer the words of the message decide.
-/

namespace VeriAgentPay.CommandParsing
open OrderedMatches OrderedMatches.Matches
open Client (JsNumber)
open Backend (isWhiteSpace trimChars trim truthy lessThan)

section Model

/-- What the filter says of a message. Where the code compares how sure it is with the number that
it has for 0.6, three fifths stand here. -/
structure Verdict where
  allowed : Bool
  confidence : ℚ

/-- An answer that names an intent, with the values that its fields are taken for; what is missing,
empty or zero is left out. Its intent and its token are texts: another value has no `toUpperCase`,
and the call that asks for it throws. -/
structure Answer where
  intent : String
  token : Option String
  amount : Option JsNumber
  recipient : Option String
  note : Option String
  numRecipients : Option ℚ
  intervalDays : Option ℚ
  participants : Option (List String)
  poolName : Option String
  deriving DecidableEq

/-- Whether there is a key for the model, the token of the deployment, and how an answer is read;
none where it is no JSON, or names no intent. -/
structure NlpService where
  configured : Bool
  canaryToken : String
  readAnswer : List Char → Option Answer

/-- `text.replace(pattern, '')` for all occurrences. -/
def removeAll (pattern : List Char) : ℕ → List Char → List Char
  | 0, text => text
  | _ + 1, [] => []
  | n + 1, c :: rest =>
    if pattern.isPrefixOf (c :: rest) then removeAll pattern n ((c :: rest).drop pattern.length)
      else c :: removeAll pattern n rest

def removeFences (text : List Char) : List Char :=
  let text := removeAll "```json".toList text.length text
  trimChars (removeAll "```".toList text.length text)

def emptyParams : NlpParams := ⟨none, none, none, none, none, none, none, none⟩

/-- What is refused, with how sure this is. -/
def refused (confidence : Option ℚ) : NlpResult :=
  ⟨"unknown", emptyParams, some ⟨false, confidence⟩⟩

def exceedsCap (amount : Option JsNumber) : Bool := amount.any (lessThan (.finite 500))

/-- The spellings of the intents for which the amount is limited. -/
def cappedWords : List String := ["send", "split", "envelope", "save"]

def answerResult (verdict : Verdict) (a : Answer) : NlpResult :=
  if exceedsCap a.amount && a.intent ∈ cappedWords then refused none
  else
    ⟨a.intent,
      ⟨some ((truthy a.token).getD "USDC"), a.amount, truthy a.recipient, truthy a.note,
        a.numRecipients, a.intervalDays, a.participants,
        truthy a.poolName⟩,
      some ⟨true, some verdict.confidence⟩⟩

end Model

section Words

variable (h : Host)

def includes (text : List Char) (part : String) : Bool :=
  text.tails.any fun rest => part.toList.isPrefixOf rest

/-- Between a character of a word and another, or an end. -/
def boundary (before after : Option Char) : Bool := before.any isWordChar != after.any isWordChar

/-- The first match that begins and ends where a word does. -/
def wordSearch (m : Matches (List Char)) (before : Option Char) (text : List Char) :
    Option (List Char) :=
  let here := if boundary before text.head? then
    (m text).filter fun result => boundary result.1.getLast? result.2.head? else []
  match here, text with
  | result :: _, _ => some result.1
  | [], [] => none
  | [], c :: rest => wordSearch m (some c) rest

/-- Characters of a class, at least as many and at most as many. -/
def runBetween (p : Char → Bool) (least most : ℕ) : Matches (List Char) := fun text =>
  (run p least text).filter fun result => result.1.length ≤ most

def isBase58 (c : Char) : Bool := c.isAlphanum && c ∉ ['0', 'I', 'O', 'l']

/-- The words of each intent, in the order in which they are looked for. -/
def heuristicWords : List (List String × String) :=
  [(["contact", "payee"], "contacts"), (["stat", "statistics"], "stats"),
    (["leaderboard", "ranking", "top referrer"], "leaderboard"),
    (["badge", "achievement"], "badges"), (["referral", "refer", "invite"], "referral"),
    (["wallet", "address"], "wallet"),
    (["balance", "funds", "how much"], "balance"),
    (["subscribe", "recurring", "subscription"], "subscribe"), (["pool", "group pool"], "pool"),
    (["envelope", "red packet", "lucky packet"], "envelope"),
    (["save", "deposit", "compound", "vault"], "save"), (["split"], "split"),
    (["request", "ask"], "request"), (["send", "pay", "transfer"], "send"),
    (["help", "what can you do", "command"], "help")]

def heuristicToken (cleaned : List Char) : String :=
  if includes cleaned "usdt" || includes cleaned "tether" then "USDT"
  else if (wordSearch (literal "bot".toList) none cleaned).isSome then "BOT"
  else "USDC"

def heuristicAmount (cleaned : List Char) : Option JsNumber :=
  (search ((opt (one (· = '$'))).bind fun _ => decimal) cleaned).map fun amount => parseFloat h
    (some (String.ofList amount))

def heuristicRecipient (text : List Char) : Option String :=
  ((wordSearch (runBetween isBase58 32 44) none text).or
    ((search (reading ((one (· = '@')).bind fun _ => run isWordChar 1)) text).or
      (search (reading ((one (· = '+')).bind fun _ => runBetween isDigit 10 15)) text))).map
        String.ofList

def parseHeuristically (text : List Char) : NlpResult :=
  let cleaned := toLowerCase h (trimChars text)
  let intent :=
    ((heuristicWords.find? fun entry => entry.1.any (includes cleaned)).map Prod.snd).getD "unknown"
  ⟨intent,
    { emptyParams with
      token := some (heuristicToken cleaned), amount := heuristicAmount h cleaned
      recipient := heuristicRecipient text },
    some ⟨true, some 1⟩⟩

/-- What the model gave, or that it failed. -/
def parseUserIntent (s : NlpService) (text : List Char) (verdict : Verdict)
    (output : Option String) : NlpResult :=
  if trimChars text = [] then ⟨"unknown", emptyParams, none⟩
  else if !verdict.allowed then refused (some verdict.confidence)
  else
    match if s.configured then output else none with
    | none => parseHeuristically h (trimChars text)
    | some rawText =>
      if includes rawText.toList s.canaryToken then refused none
      else
        match s.readAnswer (removeFences rawText.toList) with
        | none => parseHeuristically h (trimChars text)
        | some a => answerResult verdict a

/-- A message, and what the filter and the model say to it; either may fail or come too late. -/
def understand (s : NlpService) (text : List Char) (verdict : Option Verdict)
    (output : Option String) (late : Bool) : ParsedCommand :=
  parseCommand h text (if late then none
    else verdict.map fun verdict => parseUserIntent h s (trimChars text) verdict output)

end Words

section Limit

variable (h : Host)

/-- The intents with which money leaves a wallet on the words of a message. -/
def spendingIntents : List CommandIntent := [.pay, .split, .envelope, .save]

structure Command.Exceeds (c : Command) : Prop where
  intent : c.intent ∈ spendingIntents
  amount : exceedsCap c.params.amount

/-- The answer that decides, if the model gave one. -/
def usableAnswer (s : NlpService) (output : Option String) : Option Answer :=
  (if s.configured then output else none).bind fun rawText => s.readAnswer
    (removeFences rawText.toList)

def leaks (s : NlpService) (output : Option String) : Bool :=
  (if s.configured then output else none).any fun rawText => includes rawText.toList s.canaryToken

/-- The ways in which a message may ask for more than the limit. -/
inductive ExceedsBy (s : NlpService) (text : List Char) (verdict : Option Verdict)
    (output : Option String) (late : Bool) : Prop
  /-- As a command, or in words that a pattern reads. -/
  | command (hexceeds : (parseRegex h (trimChars text)).Exceeds)
  /-- By an answer that spells what it asks for in another way than the four words. -/
  | answer {v : Verdict} {a : Answer} (hunknown : (parseRegex h (trimChars text)).intent =
      .unknown) (hlate : late = false)
      (hverdict : verdict = some v) (hallowed : v.allowed) (hsure : 3 / 5 ≤ v.confidence)
        (hleaks : ¬leaks s output)
      (hanswer : usableAnswer s output = some a) (hword : a.intent ∉ cappedWords)
        (hintent : mapNlpIntentToAction h a.intent ∈ spendingIntents)
      (hexceeds : exceedsCap a.amount)
  /-- By its words, when there is no answer. -/
  | words {v : Verdict} (hunknown : (parseRegex h (trimChars text)).intent = .unknown) (hlate :
      late = false) (hverdict : verdict = some v)
      (hallowed : v.allowed) (hleaks : ¬leaks s output) (hanswer : usableAnswer s output = none)
      (hexceeds : (nlpCommand h (parseHeuristically h (trimChars text))).Exceeds)

theorem trimChars_start (text : List Char) : ∀ c ∈ (trimChars text).head?, ¬isWhiteSpace c := by
  intro c hc
  obtain ⟨ending, hending⟩ :=
    List.dropWhile_suffix (l := (text.dropWhile isWhiteSpace).reverse) isWhiteSpace
  have hwhole : text.dropWhile isWhiteSpace = trimChars text ++ ending.reverse := by
    rw [trimChars, ← List.reverse_append, hending, List.reverse_reverse]
  have hhead := List.head?_dropWhile_not isWhiteSpace text
  rw [hwhole, List.head?_append_of_ne_nil _ (List.ne_nil_of_mem (List.mem_of_mem_head? hc)),
    Option.mem_def.mp hc] at hhead
  simpa using hhead

theorem trimChars_finish (text : List Char) : ∀ c ∈ (trimChars text).getLast?, ¬isWhiteSpace c := by
  intro c hc
  rw [trimChars, List.getLast?_reverse] at hc
  have hhead := List.head?_dropWhile_not isWhiteSpace (text.dropWhile isWhiteSpace).reverse
  rw [hc] at hhead
  simpa using hhead

theorem trimChars_trimChars (text : List Char) : trimChars (trimChars text) = trimChars text := by
  have hnothing : ∀ c ∈ ([] : List Char), isWhiteSpace c := fun c hc => nomatch hc
  have htrim := trimChars_between hnothing hnothing (trimChars_start text) (trimChars_finish text)
  rwa [List.nil_append, List.append_nil] at htrim

/-- What comes of a message that the filter lets through, as far as the answer can be used. -/
theorem parseUserIntent_eq (s : NlpService) {text : List Char} (hsome : trimChars text ≠ [])
    (verdict : Verdict) (output : Option String) :
    parseUserIntent h s text verdict output =
      if !verdict.allowed then refused (some verdict.confidence)
      else if leaks s output then refused none
      else ((usableAnswer s output).map (answerResult verdict)).getD
        (parseHeuristically h (trimChars text)) := by
  unfold parseUserIntent leaks usableAnswer
  rw [if_neg hsome]
  cases (if s.configured then output else none) with
  | none => simp
  | some rawText => cases hanswer : s.readAnswer (removeFences rawText.toList) <;> simp [hanswer]

theorem not_counts_refused (confidence : Option ℚ) : ¬(refused confidence).counts h := by
  simp [NlpResult.counts, refused]

theorem mapNlpIntentToAction_unknown {intent : String} (hintent : intent ∈ ["", "unknown"]) :
    mapNlpIntentToAction h intent = .unknown := by
  rcases List.mem_pair.mp hintent with rfl | rfl <;> rfl

theorem spending_known {intent : CommandIntent} (hintent : intent ∈ spendingIntents) :
    intent ≠ .unknown := by
  rintro rfl
  exact absurd hintent (by decide)

/-- An answer that is sure enough and makes money leave counts. -/
theorem counts_of_spending {result : NlpResult} {confidence : ℚ}
    (hcheck : result.securityCheck = some ⟨true, some confidence⟩) (hsure : 3 / 5 ≤ confidence)
    (hintent : mapNlpIntentToAction h result.intent ∈ spendingIntents) : result.counts h := by
  have hknown := spending_known hintent
  have hempty : result.intent ≠ "" :=
    fun hempty => hknown (mapNlpIntentToAction_unknown h (by simp [hempty]))
  have hnamed : result.intent ≠ "unknown" :=
    fun hnamed => hknown (mapNlpIntentToAction_unknown h (by simp [hnamed]))
  simp [NlpResult.counts, hcheck, hsure, hempty, hnamed, hknown]

theorem sure_of_counts {result : NlpResult} {confidence : ℚ}
    (hcheck : result.securityCheck = some ⟨true, some confidence⟩) (hcounts : result.counts h) :
    3 / 5 ≤ confidence := by
  simp only [NlpResult.counts, hcheck, Bool.and_eq_true, decide_eq_true_eq] at hcounts
  exact hcounts.1.2

/-- The limit is met where the intent is spelled in one of the four words. -/
theorem answerResult_exceeds (verdict : Verdict) (a : Answer) :
    (answerResult verdict a).counts h ∧ (nlpCommand h (answerResult verdict a)).Exceeds ↔
      3 / 5 ≤ verdict.confidence ∧ a.intent ∉ cappedWords ∧
      mapNlpIntentToAction h a.intent ∈ spendingIntents ∧ exceedsCap a.amount := by
  unfold answerResult
  split
  case isTrue hcapped =>
    obtain ⟨-, hword⟩ := Bool.and_eq_true_iff.mp hcapped
    constructor
    · rintro ⟨hcounts, -⟩
      exact absurd hcounts (not_counts_refused h none)
    · rintro ⟨-, hother, -⟩
      exact absurd (of_decide_eq_true hword) hother
  case isFalse hfree =>
    constructor
    · rintro ⟨hcounts, hexceeds⟩
      have hamount : exceedsCap a.amount := hexceeds.amount
      refine ⟨sure_of_counts h rfl hcounts, fun hword => hfree ?_, hexceeds.intent, hamount⟩
      rw [hamount, decide_eq_true hword]
      rfl
    · rintro ⟨hsure, -, hintent, hamount⟩
      exact ⟨counts_of_spending h rfl hsure hintent, hintent, hamount⟩

theorem parseHeuristically_securityCheck (text : List Char) :
    (parseHeuristically h text).securityCheck = some ⟨true, some 1⟩ := rfl

theorem counts_of_exceeds {result : NlpResult} {confidence : ℚ}
    (hcheck : result.securityCheck = some ⟨true, some confidence⟩) (hsure : 3 / 5 ≤ confidence)
    (hexceeds : (nlpCommand h result).Exceeds) : result.counts h :=
  counts_of_spending h hcheck hsure hexceeds.intent

theorem parseHeuristically_exceeds (text : List Char) :
    (parseHeuristically h text).counts h ∧ (nlpCommand h (parseHeuristically h text)).Exceeds ↔
      (nlpCommand h (parseHeuristically h text)).Exceeds := by
  refine and_iff_right_of_imp fun hexceeds => ?_
  exact counts_of_exceeds h (parseHeuristically_securityCheck h text) (by norm_num) hexceeds

theorem parseUserIntent_exceeds (s : NlpService) {text : List Char} (hsome : trimChars text ≠ [])
    (verdict : Verdict) (output : Option String) :
    (parseUserIntent h s text verdict output).counts h ∧
    (nlpCommand h (parseUserIntent h s text verdict output)).Exceeds ↔
      verdict.allowed ∧ ¬leaks s output ∧
        match usableAnswer s output with
        | some a =>
          3 / 5 ≤ verdict.confidence ∧ a.intent ∉ cappedWords ∧
          mapNlpIntentToAction h a.intent ∈ spendingIntents ∧ exceedsCap a.amount
        | none => (nlpCommand h (parseHeuristically h (trimChars text))).Exceeds := by
  rw [parseUserIntent_eq h s hsome]
  cases hallowed : verdict.allowed with
  | false =>
    simp only [Bool.not_false, if_true]
    exact iff_of_false (fun hcounts => not_counts_refused h _ hcounts.1)
      fun hallows => absurd hallows.1 (by decide)
  | true =>
    cases hleaks : leaks s output with
    | true =>
      simp only [Bool.not_true, if_true]
      exact iff_of_false (fun hcounts => not_counts_refused h _ hcounts.1)
        fun hallows => hallows.2.1 trivial
    | false =>
      cases hanswer : usableAnswer s output with
      | some a => simpa using answerResult_exceeds h verdict a
      | none => simpa using parseHeuristically_exceeds h (trimChars text)

/-- A message exceeds the limit as a command, or by what the language model makes of it. -/
theorem parseCommand_exceeds {text : List Char} (hsome : trimChars text ≠ [])
    (nlp : Option NlpResult) :
    (parseCommand h text nlp).command.Exceeds ↔
      (parseRegex h (trimChars text)).Exceeds ∨
        (parseRegex h (trimChars text)).intent = .unknown ∧
        ∃ result, nlp = some result ∧ result.counts h ∧ (nlpCommand h result).Exceeds := by
  have hsilent : ∀ c : Command, c.intent = .unknown → ¬c.Exceeds :=
    fun c hunknown hexceeds => spending_known hexceeds.intent hunknown
  unfold parseCommand
  rw [if_neg hsome]
  simp only
  by_cases hunknown : (parseRegex h (trimChars text)).intent = .unknown
  case neg =>
    rw [if_pos hunknown]
    exact ⟨.inl, fun hways => hways.resolve_right fun hnlp => hunknown hnlp.1⟩
  case pos =>
    rw [if_neg (not_not.mpr hunknown)]
    cases hfound : nlp.filter (NlpResult.counts h) with
    | none =>
      refine iff_of_false (hsilent _ rfl) ?_
      rintro (hexceeds | ⟨-, result, rfl, hcounts, -⟩)
      · exact hsilent _ hunknown hexceeds
      · exact Option.filter_eq_none_iff.mp hfound result rfl hcounts
    | some result =>
      obtain ⟨hnlp, hcounts⟩ := Option.filter_eq_some_iff.mp hfound
      constructor
      · exact fun hexceeds => .inr ⟨hunknown, result, hnlp, hcounts, hexceeds⟩
      · rintro (hexceeds | ⟨-, other, hother, -, hexceeds⟩)
        · exact absurd hexceeds (hsilent _ hunknown)
        · rw [Option.some.inj (hother.symm.trans hnlp)] at hexceeds
          exact hexceeds

/-- The limit of 500 dollars stops exactly the answers that spell what they ask for in one of the
four words. -/
theorem understand_exceeds_iff (s : NlpService) {text : List Char} (hsome : trimChars text ≠ [])
    (verdict : Option Verdict) (output : Option String) (late : Bool) :
    (understand h s text verdict output late).command.Exceeds ↔
    ExceedsBy h s text verdict output late := by
  have htrimmed : trimChars (trimChars text) ≠ [] := by rwa [trimChars_trimChars]
  have hparse := fun v => parseUserIntent_exceeds h s htrimmed v output
  simp only [trimChars_trimChars] at hparse
  unfold understand
  rw [parseCommand_exceeds h hsome]
  constructor
  · rintro (hexceeds | ⟨hunknown, result, hresult, hcounts⟩)
    · exact .command hexceeds
    · cases hlate : late with
      | true =>
        rw [hlate] at hresult
        cases hresult
      | false =>
        rw [hlate] at hresult
        obtain ⟨v, hverdict, rfl⟩ := Option.map_eq_some_iff.mp hresult
        obtain ⟨hallowed, hleaks, hways⟩ := (hparse v).mp hcounts
        cases hanswer : usableAnswer s output with
        | some a =>
          rw [hanswer] at hways
          exact .answer hunknown rfl hverdict hallowed hways.1 hleaks hanswer hways.2.1 hways.2.2.1
            hways.2.2.2
        | none =>
          rw [hanswer] at hways
          exact .words hunknown rfl hverdict hallowed hleaks hanswer hways
  · intro hby
    cases hby with
    | command hexceeds => exact .inl hexceeds
    | answer hunknown hlate hverdict hallowed hsure hleaks hanswer hword hintent hexceeds =>
      refine .inr ⟨hunknown, _, by rw [hlate, hverdict]; rfl, (hparse _).mpr ⟨hallowed, hleaks, ?_⟩⟩
      rw [hanswer]
      exact ⟨hsure, hword, hintent, hexceeds⟩
    | words hunknown hlate hverdict hallowed hleaks hanswer hexceeds =>
      refine .inr ⟨hunknown, _, by rw [hlate, hverdict]; rfl, (hparse _).mpr ⟨hallowed, hleaks, ?_⟩⟩
      rw [hanswer]
      exact hexceeds

end Limit

end VeriAgentPay.CommandParsing

namespace VeriAgentPay.Devnet
open CommandParsing

def rentText :
    String :=
  "\x7b\"intent\":\"transfer\",\"params\":\x7b\"token\":\"USDC\",\"amount\":900,\"recipient\":\"@mom\"\x7d\x7d"

def rentAnswer : Answer :=
  ⟨"transfer", some "USDC", some (.finite 900), some "@mom", none, none, none, none, none⟩

def rentModel : NlpService where
  configured := true
  canaryToken := "canary-7"
  readAnswer text := if text = rentText.toList then some rentAnswer else none

theorem understand_exceeds_iff_devnet :
    (understand messageHost rentModel "mom needs her 900 for rent".toList (some ⟨true, 9 / 10⟩)
      (some rentText) false).command.Exceeds := by
  have hunknown :
      (parseRegex messageHost (Backend.trimChars "mom needs her 900 for rent".toList)).intent =
        .unknown := by decide +kernel
  have hanswer : usableAnswer rentModel (some rentText) = some rentAnswer := by decide +kernel
  have hleaks : ¬leaks rentModel (some rentText) := by decide +kernel
  have hintent : mapNlpIntentToAction messageHost rentAnswer.intent ∈ spendingIntents := by
    decide +kernel
  refine (understand_exceeds_iff messageHost rentModel (by decide +kernel) _ _ _).mpr ?_
  exact .answer hunknown rfl rfl rfl (by norm_num) hleaks hanswer (by decide +kernel) hintent
    (by decide +kernel)

end VeriAgentPay.Devnet
