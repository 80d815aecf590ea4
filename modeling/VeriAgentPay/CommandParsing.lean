import VeriAgentPay.OrderedMatches
import VeriAgentPay.UserTokens

/-!
# Commands in chat messages

A message is a command when its first word is one, when it is the text of a button, or when it
matches a pattern. What is none of these is left to a language model, whose answer counts only for
some intents.
-/

namespace VeriAgentPay.CommandParsing
open OrderedMatches
open Client (JsNumber)
open Backend (isWhiteSpace trimChars trim truthy)
open UserTokens (TokenInfo supportedToken)

section Values

inductive CommandIntent where
  | start | help | pay | request | requestsMenu | save | envelope | envelopesMenu | vaultsMenu |
      poolsMenu | poolInvite | poolJoin | poolDeposit
  | poolRequest | split | splitsMenu | referral | subscribe | wallet | dashboard | balance |
      contacts | history | leaderboard | badges | invite
  | stats | pending | cancel | adminStats | adminInsights | adminAlert | adminAdd | verify | menu |
      tokens | addToken | removeToken | unknown
  deriving DecidableEq

inductive AdminArgs where
  | text (text : String)
  | entry (platform value : Option String)
  deriving DecidableEq

structure CommandParams where
  amount : Option JsNumber := none
  tokenSymbol : Option String := none
  tokenInfo : Option TokenInfo := none
  unsupportedToken : Option String := none
  tokenAddress : Option String := none
  recipient : Option String := none
  participants : Option (List String) := none
  memo : Option String := none
  claimsCount : Option JsNumber := none
  intervalDays : Option JsNumber := none
  poolName : Option String := none
  poolId : Option String := none
  members : Option (List String) := none
  code : Option String := none
  adminArgs : Option AdminArgs := none
  deriving DecidableEq

structure Command where
  intent : CommandIntent
  params : CommandParams := {}
  deriving DecidableEq

inductive Source where
  | nlp | regex
  deriving DecidableEq

/-- Less the time that parsing took. -/
structure ParsedCommand where
  command : Command
  confidence : ℚ
  source : Source
  deriving DecidableEq

/-- What the language and the deployment bring along. -/
structure Host where
  env : UserTokens.Environment
  /-- The small letters of a character outside ASCII, by what stands before and after it. -/
  lowerNonAscii : List Char → Char → List Char → List Char
  /-- The number nearest to a value, unless the value is beyond all of them. -/
  nearest : ℚ → Option ℚ

end Values

section Texts

variable (h : Host)

def lowerFrom (before : List Char) : List Char → List Char
  | [] => []
  | c :: after =>
    (if c.toNat < 128 then [c.toLower] else h.lowerNonAscii before c after) ++
      lowerFrom (before ++ [c]) after

def toLowerCase (text : List Char) : List Char := lowerFrom h [] text

/-- `text.split(/\s+/)`. -/
def splitSpaces (text : List Char) : List (List Char) :=
  match _h : text.dropWhile fun c => !isWhiteSpace c with
  | [] => [text]
  | _ :: rest =>
    (text.takeWhile fun c => !isWhiteSpace c) :: splitSpaces (rest.dropWhile isWhiteSpace)
termination_by text.length
decreasing_by
  have hdrop := List.length_dropWhile_le (fun c => !isWhiteSpace c) text
  have hrest := List.length_dropWhile_le isWhiteSpace rest
  rw [_h] at hdrop
  simp only [List.length_cons] at hdrop
  omega

def isDigit (c : Char) : Bool := c.isDigit
def isLetter (c : Char) : Bool := c.isAlpha
/-- `\w`. -/
def isWordChar (c : Char) : Bool := c.isAlphanum || c = '_'
/-- `.` reads any other character. -/
def isLineTerminator (c : Char) : Bool := c.toNat ∈ [10, 13, 0x2028, 0x2029]

def digitsValue (digits : List Char) : ℕ :=
  digits.foldl (fun n c => n * 10 + (c.toNat - '0'.toNat)) 0

open Matches in
/-- Digits before the point and after it. -/
def mantissa : Matches (List Char × List Char) :=
  oneOf
    [(run isDigit 1).bind fun whole => (opt ((one (· = '.')).bind fun _ => run isDigit 0)).bind
      fun fraction =>
        Matches.pure (whole, fraction.getD []),
      (one (· = '.')).bind fun _ => (run isDigit 1).bind fun fraction => Matches.pure
        ([], fraction)]

open Matches in
def exponent : Matches ℤ :=
  (opt ((one fun c => c = 'e' || c = 'E').bind fun _ => (opt (one fun c => c = '+' || c = '-')).bind
    fun sign =>
    (run isDigit 1).bind fun digits => Matches.pure (if sign = some '-' then
      -(digitsValue digits : ℤ) else digitsValue digits))).bind fun e =>
  Matches.pure (e.getD 0)

/-- The number that a text denotes; what is beyond all numbers is infinite. -/
def numberOf (value : ℚ) : JsNumber :=
  match h.nearest value with
  | some number => .finite number
  | none => .infinite (value < 0)

open Matches in
/-- The longest beginning that denotes a number. -/
def floatPrefix : Matches JsNumber :=
  (opt (one fun c => c = '+' || c = '-')).bind fun sign =>
  oneOf
    [(literal "Infinity".toList).bind fun _ => Matches.pure (.infinite (sign = some '-')),
      mantissa.bind fun m => exponent.bind fun e =>
        let value : ℚ := (digitsValue (m.1 ++ m.2) : ℚ) * 10 ^ (e - m.2.length)
        Matches.pure (numberOf h (if sign = some '-' then -value else value))]

def parseFloat (text : Option String) : JsNumber :=
  match text with
  | none => .notANumber
  | some text =>
    ((floatPrefix h (text.toList.dropWhile isWhiteSpace)).head?.map Prod.fst).getD .notANumber

open Matches in
/-- After `0x` the digits are hexadecimal. -/
def intPrefix : Matches JsNumber :=
  (opt (one fun c => c = '+' || c = '-')).bind fun sign =>
  (oneOf
    [(one (· = '0')).bind fun _ => (one fun c => c = 'x' || c = 'X').bind
      fun _ => (run (fun c => Backend.digitValue c < 16) 0).bind fun digits =>
        Matches.pure ((Backend.readDigits 16 digits).map fun n => (n : ℚ)),
      (run isDigit 1).bind fun digits => Matches.pure (some (digitsValue digits : ℚ))]).bind
        fun value =>
  Matches.pure (match value with
    | none => .notANumber
    | some value => numberOf h (if sign = some '-' then -value else value))

def parseInt (text : String) : JsNumber :=
  ((intPrefix h (text.toList.dropWhile isWhiteSpace)).head?.map Prod.fst).getD .notANumber

def DEFAULT_TOKEN_SYMBOL : String := "USDC"

def resolveToken (symbol : Option String) : Option TokenInfo :=
  match truthy symbol with
  | none => supportedToken h.env DEFAULT_TOKEN_SYMBOL
  | some symbol => supportedToken h.env (h.env.toUpperCase (trim symbol))

end Texts

section Patterns
open Matches

def spaces : Matches (List Char) := run isWhiteSpace 1

/-- `(?:\$|€|£)?`. -/
def currency : Matches (Option Char) := opt (one fun c => c = '$' || c = '€' || c = '£')

/-- `\d+(?:\.\d+)?`, as it is written. -/
def decimal : Matches (List Char) :=
  (run isDigit 1).bind fun whole => (opt ((one (· = '.')).bind fun _ => run isDigit 1)).bind
    fun fraction =>
  Matches.pure (whole ++ (fraction.map ('.' :: ·)).getD [])

/-- An amount and a token, in one order or the other. -/
def amountAndToken : Matches (List Char × Option (List Char)) :=
  oneOf
    [currency.bind fun _ => decimal.bind fun amount => (run isWhiteSpace 0).bind
      fun _ => (opt (run isLetter 1)).bind fun token =>
        Matches.pure (amount, token),
      (opt (run isLetter 1)).bind fun token => (run isWhiteSpace 0).bind fun _ => currency.bind
        fun _ => decimal.bind fun amount =>
        Matches.pure (amount, token)]

/-- `0x[a-fA-F0-9]{40}|@?[\w\.]+|\+?\d[\d\s\-\(\)]{6,}`. -/
def recipientPattern : Matches (List Char) :=
  oneOf
    [reading ((word "0x".toList).bind fun _ => hexDigits 40),
      reading ((opt (one (· = '@'))).bind fun _ => run (fun c => isWordChar c || c = '.') 1),
      reading ((opt (one (· = '+'))).bind fun _ => (one isDigit).bind fun _ =>
        run (fun c => isDigit c || isWhiteSpace c || c = '-' || c = '(' || c = ')') 6)]
where
  hexDigits : ℕ → Matches Unit
    | 0 => Matches.pure ()
    | n + 1 => (one fun c => Backend.digitValue c < 16).bind fun _ => hexDigits n

def memoPattern : Matches (List Char) :=
  spaces.bind fun _ => (word "for".toList).bind fun _ => spaces.bind
    fun _ => run (fun c => !isLineTerminator c) 1

structure PaymentMatch where
  amount : List Char
  token : Option (List Char)
  recipient : List Char
  memo : Option (List Char)

/-- One of the verbs, an amount with a token, perhaps a preposition, and for whom and what it is. -/
def paymentPattern (verbs : List String) (preposition : String) : Matches PaymentMatch :=
  (oneOf (verbs.map fun verb => word verb.toList)).bind fun _ => spaces.bind
    fun _ => amountAndToken.bind fun m => spaces.bind fun _ =>
  (opt ((word preposition.toList).bind fun _ => spaces)).bind fun _ => recipientPattern.bind
    fun recipient =>
  (opt memoPattern).bind fun memo => Matches.pure ⟨m.1, m.2, recipient, memo⟩

def regexPayPattern : Matches PaymentMatch := paymentPattern ["send", "pay", "transfer"] "to"

def regexRequestPattern : Matches PaymentMatch := paymentPattern ["request", "ask"] "from"

def regexSavePattern : Matches (List Char) :=
  (oneOf [word "save".toList, word "deposit".toList, word "compound".toList]).bind
    fun _ => spaces.bind fun _ =>
  (opt (one (· = '$'))).bind fun _ => decimal

def isNameChar (c : Char) : Bool := isWhiteSpace c || c = ',' || c.isAlpha

/-- An amount, and the text that names the others. -/
def regexSplitPattern : Matches (List Char × List Char) :=
  (word "split".toList).bind fun _ => spaces.bind
    fun _ => (opt ((word "the".toList).bind fun _ => spaces)).bind fun _ =>
  (opt (one (· = '$'))).bind fun _ => decimal.bind fun amount => spaces.bind fun _ =>
  (opt ((word "bill".toList).bind fun _ => spaces)).bind fun _ => (word "with".toList).bind
    fun _ => spaces.bind fun _ =>
  (reading (name.bind fun _ => again name)).bind fun names => Matches.pure (amount, names)
where
  name : Matches Unit :=
    (opt (one (· = '@'))).bind fun _ => (run isWordChar 1).bind fun _ => (run isNameChar 0).bind
      fun _ => Matches.pure ()

def regexVerifyPattern : Matches (List Char) :=
  (oneOf [word "/verify".toList, word "verify".toList]).bind fun _ => spaces.bind
    fun _ => run isDigit 1

/-- Phrases of which one is read, and one of others after a blank, and so on. -/
def phrases : List (List String) → Matches Unit
  | [] => Matches.pure ()
  | choices :: more => (oneOf (choices.map fun phrase => word phrase.toList)).bind fun _ =>
    phrases more

/-- The patterns of conversation, all at the beginning of the message. -/
def conversation : List (Matches Unit × CommandIntent) :=
  [(oneOf [phrases [["what's", "whats", "what is"], [" my "], ["balance", "funds"]],
    phrases [["how much "], ["do i have", "money"]],
      phrases [["check my ", "check "], ["balance", "funds"]]], .balance),
    (phrases [["show", "what's", "whats", "what is"], [" my "], ["wallet", "address", "account"]],
      .wallet),
    (phrases [["show ", "view ", "my "], ["contacts", "payees"]], .contacts),
    (phrases [["show ", "view "], ["leaderboard", "rankings"]], .leaderboard),
    (phrases [["show ", "view ", "my "], ["badges", "achievements"]], .badges),
    (phrases [["show ", "get ", "my "], ["invite", "referral", "invite link"]], .invite),
    (phrases [["show ", "view ", "my "], ["stats", "statistics"]], .stats),
    (phrases [["what can you do", "how does this work", "help me", "what are the commands"]],
      .help)]

end Patterns

section Commands

variable (h : Host)

/-- The words of a message, the first one in small letters up to an `@`, and the whole in small
letters. -/
structure Message where
  text : List Char
  words : List String
  first : String
  fullLower : String

def messageOf (text : List Char) : Message :=
  let words := splitSpaces text
  { text := text
    words := words.map String.ofList
    first := String.ofList ((toLowerCase h (words.headD [])).takeWhile (· ≠ '@'))
    fullLower := String.ofList (toLowerCase h (trimChars text)) }

def Message.word (m : Message) (n : ℕ) : Option String := m.words[n]?

def Message.rest (m : Message) (n : ℕ) : String := String.intercalate " " (m.words.drop n)

def cancelCommand (m : Message) : Command :=
  match truthy ((m.word 1).map trim) with
  | some code => ⟨.cancel, { code := some code }⟩
  | none => ⟨.pending, {}⟩

/-- The members of an invitation, separated by commas. -/
def membersOf (text : String) : List String :=
  ((text.splitOn ",").map trim).filter (· ≠ "")

def poolInvite (m : Message) : Command :=
  ⟨.poolInvite, { poolId := m.word 2, members := some (membersOf (m.rest 3)) }⟩

def poolJoin (m : Message) : Command := ⟨.poolJoin, { poolId := m.word 2 }⟩

def poolDeposit (m : Message) : Command :=
  let tokenSymbol := (truthy (m.word 4)).getD DEFAULT_TOKEN_SYMBOL
  let tokenInfo := resolveToken h (some tokenSymbol)
  ⟨.poolDeposit,
    { poolId := m.word 2, amount := some (parseFloat h (m.word 3))
      tokenSymbol := some ((tokenInfo.map TokenInfo.symbol).getD tokenSymbol)
      tokenInfo := tokenInfo }⟩

def poolRequest (m : Message) : Command :=
  ⟨.poolRequest,
    { poolId := m.word 2, amount := some (parseFloat h (m.word 3))
      memo := truthy (some (m.rest 4)) }⟩

/-- A token with its symbol, or the symbol that is of no supported token. -/
def withToken (symbol : Option String) (params : CommandParams) : CommandParams :=
  let tokenInfo := resolveToken h symbol
  { params with
    tokenSymbol := (tokenInfo.map TokenInfo.symbol).or symbol
    tokenInfo := tokenInfo
    unsupportedToken := if tokenInfo.isNone then symbol else none }

/-- The token may stand before the recipient. -/
def payCommand (m : Message) : Command :=
  let amount := parseFloat h (m.word 1)
  if (resolveToken h (m.word 2)).isSome then
    ⟨.pay, withToken h (m.word 2)
      { amount := some amount, recipient := m.word 3, memo := some (m.rest 4) }⟩
  else
    ⟨.pay, withToken h (some DEFAULT_TOKEN_SYMBOL)
      { amount := some amount, recipient := m.word 2, memo := some (m.rest 3) }⟩

def requestCommand (m : Message) : Command :=
  let amount := parseFloat h (m.word 1)
  let named := (resolveToken h (m.word 2)).isSome
  let recipient := if named then m.word 3 else m.word 2
  let recipient :=
    if ((m.word 3).map fun word => toLowerCase h word.toList) = some "from".toList &&
      (truthy (m.word 4)).isSome then m.word 4 else recipient
  ⟨.request, withToken h (if named then m.word 2 else some DEFAULT_TOKEN_SYMBOL)
    { amount := some amount, recipient := recipient }⟩

def splitCommand (m : Message) : Command :=
  let named := (truthy (m.word 2)).bind fun word => resolveToken h (some word)
  let tokenSymbol := (named.map TokenInfo.symbol).getD DEFAULT_TOKEN_SYMBOL
  let participants := ((m.words.drop (if named.isSome then 3 else 2)).map trim).filter (· ≠ "")
  let tokenInfo := resolveToken h (some tokenSymbol)
  ⟨.split,
    { amount := some (parseFloat h (m.word 1))
      tokenSymbol := some ((tokenInfo.map TokenInfo.symbol).getD tokenSymbol)
      tokenInfo := tokenInfo
      participants := some participants }⟩

def adminCommand (m : Message) : Command :=
  let lower := fun n => (m.word n).map fun word => String.ofList (toLowerCase h word.toList)
  if lower 1 = some "stats" then ⟨.adminStats, {}⟩
  else if lower 1 = some "insights" then ⟨.adminInsights, {}⟩
  else if lower 1 = some "alert" then ⟨.adminAlert, { adminArgs := some (.text (m.rest 2)) }⟩
  else if lower 1 = some "whitelist" && lower 2 = some "add" then
    ⟨.adminAdd, { adminArgs := some (.entry (m.word 3) (m.word 4)) }⟩
  else ⟨.adminStats, {}⟩

def saveCommand (m : Message) : Command :=
  ⟨.save, { amount := some (parseFloat h (some ((truthy (m.word 1)).getD "100"))) }⟩

def envelopeCommand (m : Message) : Command :=
  ⟨.envelope,
    { amount := some (parseFloat h (some ((truthy (m.word 1)).getD "50")))
      claimsCount := some (parseInt h ((truthy (m.word 2)).getD "5")) }⟩

def subscribeCommand (m : Message) : Command :=
  ⟨.subscribe,
    { amount := some (parseFloat h (m.word 1)), recipient := m.word 2
      intervalDays := some (parseInt h ((truthy (m.word 3)).getD "30")) }⟩

/-- A message is a command when its first word is one of these, or the whole is one of these
buttons; some commands need more words. -/
structure Rule where
  names : List String
  buttons : List String
  given : Message → Bool := fun _ => true
  command : Host → Message → Command

def Rule.applies (rule : Rule) (m : Message) : Bool :=
  (m.first ∈ rule.names || m.fullLower ∈ rule.buttons) && rule.given m

/-- A command without parameters. -/
def plain (intent : CommandIntent) : Host → Message → Command := fun _ _ => ⟨intent, {}⟩

def menuRules : List Rule :=
  [{ names := ["/start"], buttons := [], command := plain .start },
    { names := ["/help", "help"], buttons := ["ℹ️ help"], command := plain .help },
    { names := ["/wallet"], buttons := ["💳 wallet"], command := plain .wallet },
    { names := ["/dashboard"], buttons := ["dashboard", "🖥️ dashboard"]
      command := plain .dashboard },
    { names := ["/balance"], buttons := [], command := plain .balance },
    { names := ["/contacts"], buttons := ["contacts", "my contacts"], command := plain .contacts },
    { names := ["/history", "/activity", "/transactions", "/tx"]
      buttons := ["📜 history", "📜 activity", "transactions", "my activity"]
      command := plain .history },
    { names := ["/referral", "/invite"], buttons := ["🎁 refer & earn"], command := plain .invite },
    { names := ["/leaderboard"], buttons := ["🏆 leaderboard"], command := plain .leaderboard },
    { names := ["/badges"], buttons := ["🎖️ badges"], command := plain .badges },
    { names := ["/stats"], buttons := [], command := plain .stats },
    { names := ["/tokens"], buttons := ["🪙 tokens"], command := plain .tokens },
    { names := ["/addtoken", "/watchtoken"], buttons := []
      command := fun _ m => ⟨.addToken, { tokenAddress := m.word 1 }⟩ },
    { names := ["/removetoken", "/unwatchtoken"], buttons := []
      command := fun _ m => ⟨.removeToken, { tokenAddress := m.word 1 }⟩ },
    { names := ["/pending"], buttons := ["⏳ pending", "pending payments"]
      command := plain .pending },
    { names := ["/cancel"], buttons := [], command := fun _ m => cancelCommand m },
    { names := [], buttons := ["💸 send"], command := plain .pay },
    { names := ["/requests"], buttons := ["📥 requests", "📥 request"]
      command := plain .requestsMenu },
    { names := ["/splits"], buttons := ["📊 splits", "📊 split"], command := plain .splitsMenu },
    { names := ["/envelopes"], buttons := ["🧧 envelopes", "🧧 red envelope"]
      command := plain .envelopesMenu },
    { names := ["/pools", "/pool"], buttons := ["👥 pools", "🏦 group pools"]
      command := plain .poolsMenu }]

/-- The second word is as given, and some words after it are not missing. -/
def poolGiven (action : String) (needed : List ℕ) (m : Message) : Bool :=
  m.word 1 = some action && needed.all fun n => (truthy (m.word n)).isSome

def poolRules : List Rule :=
  [{ names := ["/pool"], buttons := [], given := poolGiven "invite" [2]
     command := fun _ m => poolInvite m },
    { names := ["/pool"], buttons := [], given := poolGiven "join" [2]
      command := fun _ m => poolJoin m },
    { names := ["/pool"], buttons := [], given := poolGiven "deposit" [2, 3]
      command := poolDeposit },
    { names := ["/pool"], buttons := [], given := poolGiven "request" [2, 3]
      command := poolRequest }]

def slashRules : List Rule :=
  [{ names := ["/menu"], buttons := ["📑 menu"], command := plain .menu },
    { names := [], buttons := ["🏦 vaults", "🎯 save ai"], command := plain .vaultsMenu },
    { names := ["/pay"], buttons := [], command := payCommand },
    { names := ["/request"], buttons := [], command := requestCommand },
    { names := ["/save"], buttons := [], command := saveCommand },
    { names := ["/envelope"], buttons := [], command := envelopeCommand },
    { names := ["/split"], buttons := [], command := splitCommand },
    { names := ["/subscribe"], buttons := [], command := subscribeCommand },
    { names := ["/admin"], buttons := [], command := adminCommand }]

def rules : List Rule := menuRules ++ poolRules ++ slashRules

/-- The first rule that applies. -/
def ruleCommand (m : Message) : Option Command :=
  (rules.find? fun rule => rule.applies m).map fun rule => rule.command h m

def upperOf (text : List Char) : String := h.env.toUpperCase (String.ofList text)

/-- A payment or a request in words. Where the amount is followed by the preposition, this was read
as the token; after another word of this kind the recipient is that word. -/
def namedPayment (intent : CommandIntent) (preposition : String) (m : PaymentMatch) : Command :=
  let amount := parseFloat h (some (String.ofList m.amount))
  if amount = .notANumber then ⟨.unknown, {}⟩
  else
    let lower := m.token.map (toLowerCase h)
    let misread := lower = some preposition.toList || lower = some "for".toList
    let recipient := if misread && lower ≠ some preposition.toList then m.token.getD m.recipient
      else m.recipient
    let symbol := if misread then DEFAULT_TOKEN_SYMBOL
      else (m.token.map (upperOf h)).getD DEFAULT_TOKEN_SYMBOL
    ⟨intent, withToken h (some symbol)
      { amount := some amount, recipient := some (String.ofList recipient)
        memo := m.memo.map String.ofList }⟩

/-- `text.split(/[\s,and]+/)`, without the empty parts. -/
def namesOf (text : List Char) : List String :=
  ((text.splitOnP fun c => isWhiteSpace c || c ∈ [',', 'a', 'n', 'd']).filter (· ≠ [])).map
    String.ofList

def namedSplit (m : List Char × List Char) : Command :=
  ⟨.split,
    { amount := some (parseFloat h (some (String.ofList m.1))), participants := some (namesOf m.2) }⟩

def verifyCommand (digits : List Char) : Command :=
  ⟨.verify, { adminArgs := some (.text (String.ofList digits)) }⟩

/-- What a text says in words, by the first pattern that matches. -/
def namedCommand (text : List Char) : Option Command :=
  ((Matches.search regexVerifyPattern text).map verifyCommand).or
    (((Matches.search regexPayPattern text).map (namedPayment h .pay "to")).or
      (((Matches.search regexRequestPattern text).map (namedPayment h .request "from")).or
        (((Matches.search regexSavePattern text).map
          fun amount => ⟨.save, { amount := some (parseFloat h (some (String.ofList amount))) }⟩).or
          ((Matches.search regexSplitPattern text).map (namedSplit h)))))

def conversationCommand (m : Message) : Option Command :=
  (conversation.find? fun entry => entry.1.matchesAt m.fullLower.toList).map
    fun entry => ⟨entry.2, {}⟩

def parseRegex (text : List Char) : Command :=
  let m := messageOf h text
  ((ruleCommand h m).or ((namedCommand h text).or (conversationCommand m))).getD ⟨.unknown, {}⟩

/-- The answer of the language model, as far as it is used. -/
structure NlpParams where
  token : Option String
  amount : Option JsNumber
  recipient : Option String
  note : Option String
  numRecipients : Option ℚ
  intervalDays : Option ℚ
  participants : Option (List String)
  poolName : Option String

structure SecurityCheck where
  allowed : Bool
  confidence : Option ℚ

structure NlpResult where
  intent : String
  params : NlpParams
  securityCheck : Option SecurityCheck

/-- The words of the model, each with the intent it stands for. -/
def nlpIntents : List (List String × CommandIntent) :=
  [(["send", "pay", "transfer"], .pay), (["request", "ask"], .request), (["split"], .split),
    (["envelope", "red_envelope"], .envelope),
    (["save", "deposit"], .save), (["subscribe", "recurring"], .subscribe),
    (["pool", "pools"], .poolsMenu),
    (["wallet", "account", "address"], .wallet), (["balance", "check_balance"], .balance),
    (["contacts", "payees"], .contacts),
    (["leaderboard", "rankings"], .leaderboard), (["badges", "achievements"], .badges),
    (["referral", "invite"], .invite), (["stats"], .stats),
    (["pending"], .pending), (["cancel"], .cancel), (["help"], .help)]

def mapNlpIntentToAction (nlpIntent : String) : CommandIntent :=
  ((nlpIntents.find? fun entry => String.ofList (toLowerCase h nlpIntent.toList) ∈ entry.1).map
    Prod.snd).getD .unknown

/-- A count that is missing, or zero, is the default. -/
def countOr (default : ℚ) (count : Option ℚ) : JsNumber :=
  .finite ((count.filter (· ≠ 0)).getD default)

def nlpCommand (result : NlpResult) : Command :=
  let symbol := h.env.toUpperCase ((truthy result.params.token).getD DEFAULT_TOKEN_SYMBOL)
  ⟨mapNlpIntentToAction h result.intent, withToken h (some symbol)
    { amount := result.params.amount, recipient := result.params.recipient
      memo := result.params.note
      claimsCount := some (countOr 5 result.params.numRecipients), intervalDays :=
        some (countOr 30 result.params.intervalDays)
      participants := some (result.params.participants.getD []), poolName :=
        result.params.poolName }⟩

/-- The answer counts: it names an intent, it is not held back, and it is sure enough, by three
fifths where the code has the number nearest to 0.6. -/
def NlpResult.counts (result : NlpResult) : Bool :=
  result.intent ≠ "" && result.intent ≠ "unknown" &&
    (result.securityCheck.map SecurityCheck.allowed) ≠ some false &&
    3 / 5 ≤ ((result.securityCheck.bind SecurityCheck.confidence).getD (17 / 20) : ℚ) &&
    mapNlpIntentToAction h result.intent ≠ .unknown

/-- The model may fail, and it may be too slow. -/
def parseCommand (text : List Char) (nlp : Option NlpResult) : ParsedCommand :=
  if trimChars text = [] then ⟨⟨.unknown, {}⟩, 0, .regex⟩
  else
    let command := parseRegex h (trimChars text)
    if command.intent ≠ .unknown then ⟨command, 1, .regex⟩
    else
      match nlp.filter (NlpResult.counts h) with
      | some result =>
        ⟨nlpCommand h result,
          ((result.securityCheck.bind SecurityCheck.confidence).filter (· ≠ 0)).getD (17 / 20),
          .nlp⟩
      | none => ⟨⟨.unknown, {}⟩, 0, .regex⟩

end Commands

end VeriAgentPay.CommandParsing
