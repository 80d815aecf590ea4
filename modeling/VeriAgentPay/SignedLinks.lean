import Mathlib.Data.String.Basic
import Mathlib.Logic.Equiv.List
import VeriAgentPay.CanonicalRecords
import VeriAgentPay.PaymentLinkServices

/-!
# Signed links

`PaymentEscalationService` and `PlatformService` sign the parameters of a link with one secret and
one canonical form. Neither the path nor the purpose of a link is signed, so what a verifier accepts
depends on the parameters that each of the two signs.
-/

namespace VeriAgentPay.SignedLinks
open CanonicalRecords Client
open Backend (Failure truthy bigIntToString)

/-- A set of parameters, of an object of strings or of a query. -/
abbrev Parameters := Record String String

/-- A point in time, in milliseconds. The language has no later ones. -/
structure Time where
  now : ℕ
  inRange : now ≤ 8640000000000000

/-- What the services use of their runtime: numbers as text, and the HMAC of parameters as
`URLSearchParams` serialises them. -/
structure LinkRuntime where
  numberToString : JsNumber → String
  stringToNumber : String → JsNumber
  numberMul : JsNumber → JsNumber → JsNumber
  hmac : List (String × String) → String

/-- The documented behaviour of the runtime: a number is never an empty text, integers that a number
can hold are read back and multiplied exactly, and the HMAC is a text that tells all parameters
apart. -/
structure LinkRuntime.Sound (rt : LinkRuntime) : Prop where
  number_nonempty : ∀ value, rt.numberToString value ≠ ""
  reads_integer : ∀ n : ℕ, n ≤ 2 ^ 53 → rt.stringToNumber (bigIntToString n) = .finite n
  mul_integer : ∀ m n :
    ℕ, m * n ≤ 2 ^ 53 → rt.numberMul (.finite m) (.finite n) = .finite (m * n : ℕ)
  hmac_nonempty : ∀ params, rt.hmac params ≠ ""
  hmac_injective : Function.Injective rt.hmac

/-- A link without its host. -/
structure SignedLink where
  path : String
  query : List (String × String)
  deriving DecidableEq

/-- The query of a link as a service receives it. -/
def SignedLink.read (link : SignedLink) : Parameters := Record.ofEntries link.query

variable (rt : LinkRuntime)

namespace PaymentEscalationService

def ESCALATION_TTL_MS : ℕ := 15 * 60 * 1000

def SIGNED_FIELDS : List String := ["amount", "count", "expires", "note", "to", "token"]

inductive EscalationReason where
  | over_limit
  | no_session_key
  | session_expired
  | biometrics_required
  deriving DecidableEq

inductive EscalationAction where
  | send
  | envelope
  deriving DecidableEq

/-- Why a link is not verified. -/
inductive Rejection where
  | missing_signature
  | bad_signature
  | expired
  | malformed
  deriving DecidableEq

/-- The arguments of `buildPrompt`. -/
structure Prompt where
  to_ : Option String
  token : String
  amount : JsNumber
  note : Option String
  count : Option JsNumber
  action : Option EscalationAction
  reason : EscalationReason

def canonicalize (fields : Parameters) : List (String × String) := fields.listed (· ∈ SIGNED_FIELDS)

def pathFor (action : EscalationAction) (reason : EscalationReason) : String :=
  if action ≠ .envelope then "/send" else if reason = .over_limit then "/envelopes" else "/keys"

def expires (time : Time) : ℕ := (time.now + ESCALATION_TTL_MS) / 1000

def signable (params : Prompt) (time : Time) : Parameters :=
  let fields : Parameters := ∅
  let fields := fields.insert "amount" (rt.numberToString params.amount)
  let fields := fields.insert "expires" (bigIntToString (expires time))
  let fields := fields.insert "token" params.token
  let fields := Record.insertSome "to" (truthy params.to_) fields
  let fields := Record.insertSome "note" (truthy params.note) fields
  Record.insertSome "count" (params.count.map rt.numberToString) fields

/-- The link of `buildPrompt`; its message is left out. -/
def buildPrompt (params : Prompt) (time : Time) : SignedLink :=
  let action := params.action.getD .send
  let canonical := canonicalize (signable rt params time)
  let sig := rt.hmac canonical
  { path := pathFor action params.reason, query := canonical ++ [("sig", sig), ("escalated", "1")] }

def fieldsOf (query : Parameters) : Parameters :=
  Record.collect (fun key => truthy (query.lookup key)) SIGNED_FIELDS

def verify (query : Parameters) (time : Time) : Except Rejection Unit :=
  match truthy (query.lookup "sig") with
  | none => .error .missing_signature
  | some provided =>
    let fields := fieldsOf query
    match fields.lookup "amount", fields.lookup "token", fields.lookup "expires" with
    | some _, some _, some expires =>
      if provided ≠ rt.hmac (canonicalize fields) then .error .bad_signature
      else
        match rt.numberMul (rt.stringToNumber expires) (.finite 1000) with
        | .finite expiresAt => if expiresAt < time.now then .error .expired else .ok ()
        | _ => .error .expired
    | _, _, _ => .error .malformed

end PaymentEscalationService

/-- `withAttribution`: values that are present and that the link does not have already. -/
def withAttribution (link : SignedLink) (attribution : List (String × String)) : SignedLink :=
  { link with
    query := link.query ++
      attribution.filter fun entry => entry.2 ≠ "" ∧ entry.1 ∉ link.query.map Prod.fst }

namespace PlatformService

def ATTRIBUTION_KEYS : List String := ["ref", "src", "campaign", "partner", "channel"]

/-- What a caller hands over: texts and numbers, and nothing where a value is undefined. -/
abbrev QueryParams := List (String × Option String)

def linkExpires (time : Time) : ℕ := time.now / 1000 + 15 * 60

def signedParams (queryParams : QueryParams) (time : Time) : Parameters :=
  let signable := queryParams.foldl (fun fields (key, value) =>
    if key ∈ ATTRIBUTION_KEYS then fields else Record.insertSome key value fields) (∅ : Parameters)
  signable.insert "expires" (bigIntToString (linkExpires time))

/-- The attribution of a link. The platform is its source when the caller did not set one. -/
def attributionOf (queryParams : QueryParams) : List (String × String) :=
  let attribution := queryParams.filterMap fun (key, value) => if key ∈ ATTRIBUTION_KEYS then
    value.map (key, ·) else none
  match truthy (attribution.lookup "src"), truthy (queryParams.lookup "platform").join with
  | none, some platform => attribution.filter (fun entry => entry.1 ≠ "src") ++ [("src", platform)]
  | _, _ => attribution

def generateSignedDeepLink (path : String) (queryParams : QueryParams) (time : Time) : SignedLink :=
  let queryString := (signedParams queryParams time).entries
  let sig := rt.hmac queryString
  withAttribution { path := path, query := queryString ++ [("sig", sig)] }
    (attributionOf queryParams)

/-- The links that the services sign with `generateSignedDeepLink`, with the parameters of each. -/
inductive DeepLink where
  /-- `/onboard`, from a chat or from the Telegram bot, which adds the chat and the attribution. -/
  | onboard (platform platformId : String) (username chatId ref src campaign : Option String)
  /-- `/activity`, `/dashboard`, `/requests`, `/splits`, `/envelopes`, `/pools`, `/`,
  `/subscriptions` and `/keys`. -/
  | screen (path platform userId : String) (username : Option String)
  /-- `/keys`, to create a session key. -/
  | mintKey (platform userId : String) (username : Option String)
  /-- `/send`, for a payment in USDC that its payer asked for. -/
  | send (recipientAddress : Option String) (amount : JsNumber)
  /-- `/pay`, for a payment that its payer asked for. -/
  | pay (recipient : Option String) (amount : JsNumber) (token : String)
  /-- `/pay`, for a payment that `handleRequestAction` asks another user for. -/
  | request (requesterAddress : Option String) (amount : JsNumber) (tokenSymbol : String)
  /-- `/vaults`, from `handleSaveAction`. -/
  | vaults (address : Option String)
  /-- `/subscriptions`, for a subscription to be set up. -/
  | subscribe (recipient : Option String) (amount : Option JsNumber)
  /-- `/save-yield`; half of an amount is written with two decimals. -/
  | saveYield (amount address : String)
  /-- `/leaderboard` and `/badges`. -/
  | board (path platform : String)
  /-- `/keys`, from the reminder of a session key that expires. -/
  | renewKey (userId username renewSessionKey : String)

def DeepLink.path : DeepLink → String
  | onboard .. => "/onboard"
  | screen path .. => path
  | mintKey .. => "/keys"
  | send .. => "/send"
  | pay .. => "/pay"
  | request .. => "/pay"
  | vaults .. => "/vaults"
  | subscribe .. => "/subscriptions"
  | saveYield .. => "/save-yield"
  | board path .. => path
  | renewKey .. => "/keys"

def DeepLink.queryParams : DeepLink → QueryParams
  | onboard platform platformId username chatId ref src campaign =>
    [("platform", platform), ("chatId", chatId), ("platformId", platformId), ("username", username),
      ("ref", truthy ref), ("src", truthy src), ("campaign", truthy campaign)]
  | screen _ platform userId username =>
    [("platform", platform), ("userId", userId), ("username", username)]
  | mintKey platform userId username =>
    [("platform", platform), ("userId", userId), ("username", username), ("mint", "true")]
  | send recipientAddress amount =>
    [("to", recipientAddress), ("amount", rt.numberToString amount), ("token", "USDC")]
  | pay recipient amount token =>
    [("to", recipient), ("amount", rt.numberToString amount), ("token", token)]
  | request requesterAddress amount tokenSymbol =>
    [("to", requesterAddress), ("amount", rt.numberToString amount), ("token", tokenSymbol)]
  | vaults address => [("address", address)]
  | subscribe recipient amount =>
    [("recipient", recipient), ("amount", amount.map rt.numberToString)]
  | saveYield amount address => [("amount", amount), ("address", address)]
  | board _ platform => [("platform", platform)]
  | renewKey userId username renewSessionKey =>
    [("userId", userId), ("username", username), ("renewSessionKey", renewSessionKey)]

def DeepLink.link (deepLink : DeepLink) (time : Time) : SignedLink :=
  generateSignedDeepLink rt deepLink.path (deepLink.queryParams rt) time

end PlatformService

namespace WebAuthnService

/-- What `verifyOnboardingLink` reads of a registration. -/
structure RegistrationContext where
  platform : String
  platformId : String
  chatId : Option String
  username : String
  expires : Option String
  sig : Option String

def onboardingParams (idKey : String) (context : RegistrationContext) (expires : String) :
    Parameters :=
  let params : Parameters := ∅
  let params := params.insert "expires" expires
  let params := params.insert "platform" context.platform
  let params := params.insert idKey context.platformId
  let params := params.insert "username" context.username
  Record.insertSome "chatId" (truthy context.chatId) params

/-- `verifyOnboardingLink`, where the secret is configured. -/
def verifyOnboardingLink (context : RegistrationContext) (time : Time) : Except Failure Unit :=
  match context.expires with
  | none => .error
      (.unauthorized "Onboarding link is invalid or expired. Request a new link from the bot.")
  | some expires =>
    match rt.stringToNumber expires with
    | .finite value =>
      if value < (time.now / 1000 : ℕ) then
        .error (.unauthorized
          "Onboarding link is invalid or expired. Request a new link from the bot.")
      else
        let provided := context.sig.getD ""
        let isValid := provided = rt.hmac (onboardingParams "platformId" context expires).entries
        if isValid ∨ context.platformId ≠ "" ∧
          provided = rt.hmac (onboardingParams "userId" context expires).entries then .ok ()
        else .error (.unauthorized "Onboarding link signature is invalid.")
    | _ => .error
        (.unauthorized "Onboarding link is invalid or expired. Request a new link from the bot.")

end WebAuthnService

section SignedFields
variable {rt : LinkRuntime} {key value : String}
open PaymentEscalationService

theorem truthy_eq_some {value : Option String} {text : String} :
    truthy value = some text ↔ value = some text ∧ text ≠ "" := by
  simp [truthy, Option.filter_eq_some_iff]

theorem truthy_eq_self {value : Option String} (h : ∀ text, value = some text → text ≠ "") :
    truthy value = value := by
  cases value with
  | none => rfl
  | some text => exact truthy_eq_some.mpr ⟨rfl, h text rfl⟩

theorem bigIntToString_ne_empty (n : ℤ) : bigIntToString n ≠ "" := by
  intro h
  have htext := congrArg String.toList h
  cases n with
  | ofNat n =>
    simp only [bigIntToString, String.toList_ofList] at htext
    exact Nat.toDigits_ne_nil htext
  | negSucc n => simp [bigIntToString] at htext

/-- What a prompt signs, field by field. -/
theorem lookup_signable (params : Prompt) (time : Time) : (signable rt params time).lookup key =
    if key = "amount" then some (rt.numberToString params.amount) else if key = "count" then
      params.count.map rt.numberToString
    else if key = "expires" then some (bigIntToString (expires time)) else if key = "note" then
      truthy params.note
    else if key = "to" then truthy params.to_ else if key = "token" then some params.token
      else none := by
  simp only [signable, Record.lookup_insertSome, Record.lookup_insert, Finmap.lookup_empty]
  grind

theorem mem_signedFields_of_signable {params : Prompt} {time : Time}
    (h : key ∈ signable rt params time) : key ∈ SIGNED_FIELDS := by
  obtain ⟨value, hvalue⟩ := Finmap.mem_iff.mp h
  rw [lookup_signable] at hvalue
  simp only [SIGNED_FIELDS, List.mem_cons, List.not_mem_nil, or_false]
  grind

theorem canonicalize_signable (params : Prompt) (time : Time) :
    canonicalize (signable rt params time) = (signable rt params time).entries :=
  Record.listed_eq_entries fun _ hkey => decide_eq_true (mem_signedFields_of_signable hkey)

theorem lookup_fieldsOf {query : Parameters} :
    (fieldsOf query).lookup key = if key ∈ SIGNED_FIELDS then truthy (query.lookup key) else none :=
  Record.lookup_collect

theorem canonicalize_fieldsOf (query : Parameters) :
    canonicalize (fieldsOf query) = (fieldsOf query).entries := by
  refine Record.listed_eq_entries fun key hkey => decide_eq_true ?_
  obtain ⟨value, hvalue⟩ := Finmap.mem_iff.mp hkey
  rw [lookup_fieldsOf] at hvalue
  by_contra hnot
  simp [hnot] at hvalue

end SignedFields

section Verification
variable {rt : LinkRuntime}
open PaymentEscalationService

theorem signable_nonempty (hrt : rt.Sound) {params : Prompt} (htoken : params.token ≠ "")
    {time : Time} {key text : String} (h : (signable rt params time).lookup key = some text) :
    text ≠ "" := by
  have hamount := hrt.number_nonempty params.amount
  have hexpires := bigIntToString_ne_empty (expires time)
  have hnote : ∀ text, truthy params.note = some text → text ≠ "" :=
    fun _ h => (truthy_eq_some.mp h).2
  have hto : ∀ text, truthy params.to_ = some text → text ≠ "" := fun _ h => (truthy_eq_some.mp h).2
  have hcount : ∀ text, params.count.map rt.numberToString = some text → text ≠ "" := by
    intro text hcount
    obtain ⟨count, _, rfl⟩ := Option.map_eq_some_iff.mp hcount
    exact hrt.number_nonempty count
  rw [lookup_signable] at h
  grind

theorem lookup_buildPrompt (params : Prompt) (time : Time) (key : String) :
    (buildPrompt rt params time).read.lookup key = ((signable rt params time).lookup key <|>
      if key = "sig" then some (rt.hmac (signable rt params time).entries)
      else if key = "escalated" then some "1" else none) := by
  simp only [SignedLink.read, buildPrompt, canonicalize_signable, Record.lookup_ofEntries_append,
    Record.ofEntries_entries, Record.lookup_ofEntries_cons]
  rfl

/-- The parameters of a prompt are read back from its link. -/
theorem fieldsOf_buildPrompt (hrt : rt.Sound) {params : Prompt} (htoken : params.token ≠ "")
    (time : Time) : fieldsOf (buildPrompt rt params time).read = signable rt params time := by
  refine Finmap.ext_lookup fun key => ?_
  rw [lookup_fieldsOf, lookup_buildPrompt]
  split
  · next hkey =>
    have hother : key ≠ "sig" ∧ key ≠ "escalated" := by
      constructor <;> rintro rfl <;> simp [SIGNED_FIELDS] at hkey
    simp only [hother.1, hother.2, if_false, Option.orElse_eq_orElse, Option.orElse_eq_or,
      Option.or_none]
    exact truthy_eq_self fun text htext => signable_nonempty hrt htoken htext
  · next hkey =>
    exact (Finmap.lookup_eq_none.mpr fun hmem => hkey (mem_signedFields_of_signable hmem)).symm

theorem expires_le (time : Time) : expires time * 1000 ≤ 2 ^ 53 := by
  have hrange := time.inRange
  simp only [expires, ESCALATION_TTL_MS]
  omega

/-- Signed parameters with an amount and a token are verified until they expire. -/
theorem verify_of_signed (hrt : rt.Sound) {query : Parameters} {amount token : String} {n : ℕ}
    (hn : n * 1000 ≤ 2 ^ 53) (hsig : query.lookup "sig" = some (rt.hmac (fieldsOf query).entries))
    (hamount : (fieldsOf query).lookup "amount" = some amount)
    (htoken : (fieldsOf query).lookup "token" = some token)
    (hexpires : (fieldsOf query).lookup "expires" = some (bigIntToString n)) (time : Time) :
    verify rt query time = if n * 1000 < time.now then .error .expired else .ok () := by
  have hprovided : truthy (query.lookup "sig") = some (rt.hmac (fieldsOf query).entries) :=
    truthy_eq_some.mpr ⟨hsig, hrt.hmac_nonempty _⟩
  have hnumber : rt.stringToNumber (bigIntToString n) = .finite n := hrt.reads_integer n (by omega)
  have hproduct : rt.numberMul (.finite n) (.finite 1000) = .finite (n * 1000 : ℕ) := by
    exact_mod_cast hrt.mul_integer n 1000 hn
  simp only [verify, hprovided, canonicalize_fieldsOf, hamount, htoken, hexpires, ne_eq,
    not_true_eq_false, if_false, hnumber, hproduct]
  norm_cast

/-- A prompt's link is verified until it expires and not after that. -/
theorem verify_buildPrompt (hrt : rt.Sound) {params : Prompt} (htoken : params.token ≠ "")
    (signed time : Time) :
    verify rt (buildPrompt rt params signed).read time =
      if expires signed * 1000 < time.now then .error .expired else .ok () := by
  have hfields := fieldsOf_buildPrompt hrt htoken signed
  have hnone : (signable rt params signed).lookup "sig" = none := by simp [lookup_signable]
  have hsig : (buildPrompt rt params signed).read.lookup "sig" = some
      (rt.hmac (signable rt params signed).entries) := by
    simp [SignedLink.read, buildPrompt, canonicalize_signable, Record.lookup_ofEntries_append,
      Record.ofEntries_entries,
      Record.lookup_ofEntries_cons, hnone]
  have hamount : (fieldsOf (buildPrompt rt params signed).read).lookup "amount" = some
      (rt.numberToString params.amount) := by
    simp [hfields, lookup_signable]
  have htoken' :
      (fieldsOf (buildPrompt rt params signed).read).lookup "token" = some params.token := by
    simp [hfields, lookup_signable]
  refine verify_of_signed hrt (expires_le signed) ?_ hamount htoken' ?_ time
  · rw [hsig, hfields]
  · simp [hfields, lookup_signable]

/-- What a verified query consists of. -/
theorem verify_eq_ok {query : Parameters} {time : Time} (h : verify rt query time = .ok ()) :
    ∃ amount token expires, query.lookup "sig" = some (rt.hmac (fieldsOf query).entries) ∧
      (fieldsOf query).lookup "amount" = some amount ∧
      (fieldsOf query).lookup "token" = some token ∧
      (fieldsOf query).lookup "expires" = some expires ∧
      ∃ expiresAt, rt.numberMul (rt.stringToNumber expires) (.finite 1000) = .finite expiresAt ∧
        time.now ≤ expiresAt := by
  simp only [verify, canonicalize_fieldsOf] at h
  split at h
  · cases h
  next provided hprovided =>
  split at h
  next amount token expires hamount htoken hexpires =>
    split at h
    · cases h
    next hsig =>
    split at h
    next expiresAt hat =>
      split at h
      · cases h
      next hnow =>
      have hsig' : provided = rt.hmac (fieldsOf query).entries := by simpa using hsig
      exact ⟨amount, token, expires, hsig' ▸ (truthy_eq_some.mp hprovided).1, hamount, htoken,
        hexpires, expiresAt, hat, not_lt.mp hnow⟩
    · cases h
  · cases h

/-- A verified query has a text for its token. -/
theorem token_ne_empty_of_verified {query : Parameters} {time : Time}
    (h : verify rt query time = .ok ()) :
    query.lookup "token" ≠ some "" := by
  obtain ⟨amount, token, expires, -, -, htoken, -⟩ := verify_eq_ok h
  rw [lookup_fieldsOf, if_pos (by simp [SIGNED_FIELDS])] at htoken
  obtain ⟨hlookup, hne⟩ := truthy_eq_some.mp htoken
  rw [hlookup]
  exact fun heq => hne (Option.some.inj heq)

end Verification

/-- A link that the backend has signed, and when. -/
inductive Signing where
  | prompt (params : PaymentEscalationService.Prompt) (time : Time)
  | deepLink (link : PlatformService.DeepLink) (time : Time)

def Signing.link : Signing → SignedLink
  | .prompt params time => PaymentEscalationService.buildPrompt rt params time
  | .deepLink link time => link.link rt time

/-- The parameters under the signature. -/
def Signing.fields : Signing → Parameters
  | .prompt params time => PaymentEscalationService.signable rt params time
  | .deepLink link time => PlatformService.signedParams (link.queryParams rt) time

/-- The second in which the link expires. -/
def Signing.expires : Signing → ℕ
  | .prompt _ time => PaymentEscalationService.expires time
  | .deepLink _ time => PlatformService.linkExpires time

/-- The signature is that of one of the links. Nobody but the backend has the secret. -/
def Presents (issued : Set Signing) (sig : String) : Prop :=
  ∃ signing ∈ issued, (signing.link rt).read.lookup "sig" = some sig

namespace PlatformService

/-- Recipient and token of a link for a payment: what it signs has the fields of a prompt. -/
def DeepLink.payment : DeepLink → Option (Option String × String)
  | send recipientAddress _ => some (recipientAddress, "USDC")
  | pay recipient _ token => some (recipient, token)
  | request requesterAddress _ tokenSymbol => some (requesterAddress, tokenSymbol)
  | _ => none

/-- The platform identity that a link is for. -/
def DeepLink.identity : DeepLink → Option (String × String)
  | onboard platform platformId .. => some (platform, platformId)
  | screen _ platform userId _ => some (platform, userId)
  | _ => none

/-- A link of `handleRequestAction`. -/
def DeepLink.forRequester : DeepLink → Bool
  | request .. => true
  | _ => false

/-- A link that registers a wallet for an account. -/
def DeepLink.forOnboarding : DeepLink → Bool
  | onboard .. => true
  | _ => false

end PlatformService

def Signing.forPayment : Signing → Bool
  | .prompt .. => true
  | .deepLink link _ => link.payment.isSome

/-- The link was made for a payment that its payer asked for. -/
def Signing.forPayer : Signing → Bool
  | .prompt .. => true
  | .deepLink link _ => link.payment.isSome && !link.forRequester

section Purposes

/-- What the signed links mean: prompts are verified until they expire, a verified query has the
fields of a prompt, and a registration those of a link for onboarding its platform identity. -/
structure KeepMeaning (issued : Set Signing) : Prop where
  prompts : ∀ params signed, .prompt params signed ∈ issued → ∀ time,
    PaymentEscalationService.verify rt
      (PaymentEscalationService.buildPrompt rt params signed).read time =
      if PaymentEscalationService.expires signed * 1000 < time.now then .error .expired else .ok ()
  verified : ∀ (query : Parameters) (time : Time),
    (∀ sig, query.lookup "sig" = some sig → Presents rt issued sig) →
    PaymentEscalationService.verify rt query time = .ok () →
    ∃ params signed, .prompt params signed ∈ issued ∧
      PaymentEscalationService.fieldsOf query = PaymentEscalationService.signable rt params signed
  registered : ∀ (context : WebAuthnService.RegistrationContext) (time : Time),
    (∀ sig, context.sig = some sig → Presents rt issued sig) →
    WebAuthnService.verifyOnboardingLink rt context time = .ok () →
    ∃ link signed expires, .deepLink link signed ∈ issued ∧ link.forOnboarding = true ∧
      link.identity = some (context.platform, context.platformId) ∧ context.expires = some expires ∧
      PlatformService.signedParams (link.queryParams rt) signed =
        WebAuthnService.onboardingParams "platformId" context expires

/-- The registration that the link to a screen has the parameters of. -/
def screenContext (platform userId username : String) : WebAuthnService.RegistrationContext where
  platform := platform
  platformId := userId
  chatId := none
  username := username
  expires := none
  sig := none

/-- Prompts have a token, and whatever else has the fields of a prompt or of a registration shares
them with a prompt or with a link for onboarding. -/
structure SharesPurposes (issued : Set Signing) : Prop where
  tokens : ∀ params signed, .prompt params signed ∈ issued → params.token ≠ ""
  payments : ∀ link signed recipient token, .deepLink link signed ∈ issued →
    link.payment = some (recipient, token) → recipient ≠ some "" → token ≠ "" →
    ∃ params signed', .prompt params signed' ∈ issued ∧
      PlatformService.signedParams (link.queryParams rt) signed =
        PaymentEscalationService.signable rt params signed'
  screens : ∀ path platform userId username signed,
    .deepLink (.screen path platform userId (some username)) signed ∈ issued → userId ≠ "" →
    ∃ link signed', .deepLink link signed' ∈ issued ∧ link.forOnboarding = true ∧
      PlatformService.signedParams (link.queryParams rt) signed' =
        WebAuthnService.onboardingParams "platformId" (screenContext platform userId username)
          (bigIntToString (PlatformService.linkExpires signed))

end Purposes

section Signings
variable {rt : LinkRuntime} {issued : Set Signing}
open PaymentEscalationService PlatformService WebAuthnService

theorem lookup_signedParams_expires (queryParams : QueryParams) (time : Time) :
    (signedParams queryParams time).lookup "expires" = some
      (bigIntToString (linkExpires time)) := by
  simp [signedParams]

theorem Signing.lookup_expires (signing : Signing) :
    (signing.fields rt).lookup "expires" = some (bigIntToString signing.expires) := by
  cases signing with
  | prompt params time => simp [Signing.fields, Signing.expires, lookup_signable]
  | deepLink link time => exact lookup_signedParams_expires _ _

theorem Signing.lookup_sig (signing : Signing) :
    (signing.link rt).read.lookup "sig" = some (rt.hmac (signing.fields rt).entries) := by
  cases signing with
  | prompt params time =>
    have hnone : (signable rt params time).lookup "sig" = none := by simp [lookup_signable]
    simp [Signing.link, Signing.fields, SignedLink.read, buildPrompt, canonicalize_signable,
      Record.lookup_ofEntries_append,
      Record.ofEntries_entries, Record.lookup_ofEntries_cons, hnone]
  | deepLink link time =>
    have hnone : (signedParams (link.queryParams rt) time).lookup "sig" = none := by
      cases link <;>
        simp [signedParams, DeepLink.queryParams, ATTRIBUTION_KEYS, Record.lookup_insertSome]
    simp [Signing.link, Signing.fields, SignedLink.read, DeepLink.link, generateSignedDeepLink,
      withAttribution,
      Record.lookup_ofEntries_append, Record.ofEntries_entries, Record.lookup_ofEntries_cons, hnone]

/-- Whoever presents the signature of some parameters has a link with these parameters. -/
theorem Presents.signed (hrt : rt.Sound) {params : Parameters}
    (h : Presents rt issued (rt.hmac params.entries)) :
    ∃ signing ∈ issued, signing.fields rt = params := by
  obtain ⟨signing, hmem, hsig⟩ := h
  rw [signing.lookup_sig, Option.some_inj] at hsig
  exact ⟨signing, hmem, Record.entries_injective (hrt.hmac_injective hsig)⟩

theorem Signing.expires_le (signing : Signing) : signing.expires * 1000 ≤ 2 ^ 53 := by
  cases signing with
  | prompt params time => exact SignedLinks.expires_le time
  | deepLink link time =>
    have hrange := time.inRange
    simp only [Signing.expires, linkExpires]
    omega

/-- Links with an amount and a token are links for a payment. -/
theorem Signing.forPayment_of_fields {signing : Signing} {amount token : String}
    (hamount : (signing.fields rt).lookup "amount" = some amount)
    (htoken : (signing.fields rt).lookup "token" = some token) : signing.forPayment = true := by
  cases signing with
  | prompt => rfl
  | deepLink link time =>
    cases link <;> first | rfl | skip
    all_goals
      simp [Signing.fields, signedParams, DeepLink.queryParams, ATTRIBUTION_KEYS,
        Record.lookup_insertSome]
        at hamount htoken

variable (rt) in
/-- What a link for a payment is made of. -/
theorem DeepLink.queryParams_of_payment {link : DeepLink} {recipient : Option String}
    {token : String} (h : link.payment = some (recipient, token)) : ∃ amount, link.queryParams rt =
      [("to", recipient), ("amount", some (rt.numberToString amount)), ("token", some token)] := by
  cases link <;> simp only [DeepLink.payment, Option.some.injEq, Prod.mk.injEq, reduceCtorEq] at h
  all_goals
    obtain ⟨rfl, rfl⟩ := h
    exact ⟨_, rfl⟩

variable (rt) in
theorem lookup_signedParams_of_payment {link : DeepLink} {recipient : Option String}
    {token : String} (h : link.payment = some (recipient, token)) (time : Time) : ∃ amount, ∀ key,
      (signedParams (link.queryParams rt) time).lookup key =
        if key = "amount" then some (rt.numberToString amount)
        else if key = "expires" then some (bigIntToString (linkExpires time))
        else if key = "to" then recipient else if key = "token" then some token else none := by
  obtain ⟨amount, hparams⟩ := DeepLink.queryParams_of_payment rt h
  refine ⟨amount, fun key => ?_⟩
  simp [signedParams, hparams, ATTRIBUTION_KEYS, Record.lookup_insert, Record.lookup_insertSome]
  grind

/-- The parameters of a link for a payment are read back from it. -/
theorem fieldsOf_paymentLink (hrt : rt.Sound) {link : DeepLink} {recipient : Option String}
    {token : String} (h : link.payment = some (recipient, token)) (hrecipient : recipient ≠ some "")
    (htoken : token ≠ "") (time : Time) :
    fieldsOf (link.link rt time).read = signedParams (link.queryParams rt) time := by
  obtain ⟨amount, hparams⟩ := DeepLink.queryParams_of_payment rt h
  have hattribution : attributionOf (link.queryParams rt) = [] := by
    simp [attributionOf, hparams, ATTRIBUTION_KEYS, truthy, List.lookup_cons]
  have hread : ∀ key, (link.link rt time).read.lookup key =
      ((signedParams (link.queryParams rt) time).lookup key <|>
        if key = "sig" then some (rt.hmac (signedParams (link.queryParams rt) time).entries)
          else none) := by
    intro key
    simp only [SignedLink.read, DeepLink.link, generateSignedDeepLink, withAttribution,
      hattribution,
      List.filter_nil, List.append_nil, Record.lookup_ofEntries_append, Record.ofEntries_entries,
      Record.lookup_ofEntries_cons]
    rfl
  obtain ⟨amount', hlookup⟩ := lookup_signedParams_of_payment rt h time
  have hamount := hrt.number_nonempty amount'
  have hexpires := bigIntToString_ne_empty (linkExpires time)
  refine Finmap.ext_lookup fun key => ?_
  rw [lookup_fieldsOf, hread, hlookup]
  by_cases hkey : key ∈ SIGNED_FIELDS
  · have hother : key ≠ "sig" := by
      rintro rfl
      simp [SIGNED_FIELDS] at hkey
    simp only [hkey, hother, if_true, if_false, Option.orElse_eq_orElse, Option.orElse_eq_or,
      Option.or_none]
    refine truthy_eq_self fun text htext => ?_
    grind
  · rw [if_neg hkey]
    simp only [SIGNED_FIELDS, List.mem_cons, List.not_mem_nil, or_false, not_or] at hkey
    simp [hkey]

/-- A link for a payment is verified until it expires, whoever it was made for. -/
theorem verify_paymentLink (hrt : rt.Sound) {link : DeepLink} {recipient : Option String}
    {token : String} (h : link.payment = some (recipient, token)) (hrecipient : recipient ≠ some "")
    (htoken : token ≠ "") (signed time : Time) : verify rt (link.link rt signed).read time =
      if linkExpires signed * 1000 < time.now then .error .expired else .ok () := by
  have hsig : (link.link rt signed).read.lookup "sig" = _ :=
    Signing.lookup_sig (.deepLink link signed)
  have hfields := fieldsOf_paymentLink hrt h hrecipient htoken signed
  obtain ⟨amount, hlookup⟩ := lookup_signedParams_of_payment rt h signed
  rw [← hfields] at hlookup
  exact verify_of_signed hrt (Signing.expires_le (.deepLink link signed)) (hfields ▸ hsig)
    (hlookup "amount") (hlookup "token") (hlookup "expires") time

theorem verified_signed (hrt : rt.Sound) {query : Parameters} {time : Time}
    (hpresents : ∀ sig, query.lookup "sig" = some sig → Presents rt issued sig)
    (h : verify rt query time = .ok ()) :
    ∃ signing ∈ issued, signing.forPayment = true ∧ fieldsOf query = signing.fields rt ∧
      time.now ≤ signing.expires * 1000 := by
  obtain ⟨amount, token, expires, hsig, hamount, htoken, hexpires, expiresAt, hat, hnow⟩ :=
    verify_eq_ok h
  obtain ⟨signing, hmem, hfields⟩ := (hpresents _ hsig).signed hrt
  rw [← hfields] at hamount htoken hexpires
  refine ⟨signing, hmem, Signing.forPayment_of_fields hamount htoken, hfields.symm, ?_⟩
  have hbound := signing.expires_le
  obtain rfl : bigIntToString signing.expires = expires :=
    Option.some_inj.mp (signing.lookup_expires.symm.trans hexpires)
  rw [hrt.reads_integer _ (by omega)] at hat
  have hproduct := hrt.mul_integer signing.expires 1000 hbound
  rw [Nat.cast_ofNat] at hproduct
  rw [hproduct, JsNumber.finite.injEq] at hat
  rw [← hat] at hnow
  exact_mod_cast hnow

/-- What a verified registration consists of. -/
theorem verifyOnboardingLink_eq_ok {context : RegistrationContext} {time : Time}
    (h : verifyOnboardingLink rt context time = .ok ()) :
    ∃ expires value, context.expires = some expires ∧ rt.stringToNumber expires = .finite value ∧
      (time.now / 1000 : ℕ) ≤ value ∧
      ∃ idKey, (idKey = "platformId" ∨ idKey = "userId" ∧ context.platformId ≠ "") ∧
        context.sig.getD "" = rt.hmac (onboardingParams idKey context expires).entries := by
  simp only [verifyOnboardingLink] at h
  split at h
  · cases h
  next expires hexpires =>
  split at h
  next value hvalue =>
    split at h
    · cases h
    next hnow =>
    split at h
    next hvalid =>
      refine ⟨expires, value, hexpires, hvalue, not_lt.mp hnow, ?_⟩
      obtain hsig | ⟨hid, hsig⟩ := hvalid
      · exact ⟨_, .inl rfl, hsig⟩
      · exact ⟨_, .inr ⟨rfl, hid⟩, hsig⟩
    · cases h
  · cases h

/-- Parameters of a registration that were signed are those of a link for its platform identity:
one for onboarding, or one to a screen, which has the identity as `userId`. -/
theorem identity_of_fields {signing : Signing} {context : RegistrationContext}
    {idKey expires : String} (hkey : idKey = "platformId" ∨ idKey = "userId")
    (hfields : signing.fields rt = onboardingParams idKey context expires) :
    ∃ link signed, signing = .deepLink link signed ∧
      link.identity = some (context.platform, context.platformId) ∧
      (idKey = "platformId" → link.forOnboarding = true) ∧
      (idKey = "userId" → truthy context.chatId = none ∧
        ∃ path, link = .screen path context.platform context.platformId
          (some context.username)) := by
  have hlookup (key : String) :
      (signing.fields rt).lookup key = (onboardingParams idKey context expires).lookup key := by
        rw [hfields]
  have hplatform := hlookup "platform"
  have husername := hlookup "username"
  have hplatformId := hlookup "platformId"
  have huserId := hlookup "userId"
  have hchatId := (hlookup "chatId").symm
  have hmint := hlookup "mint"
  clear hlookup hfields
  cases signing with
  | prompt params time =>
    obtain rfl | rfl := hkey <;> simp [Signing.fields, lookup_signable, onboardingParams,
      Record.lookup_insertSome] at hplatform
  | deepLink link time =>
    refine ⟨link, time, rfl, ?_⟩
    obtain rfl | rfl := hkey <;> cases link <;>
      simp_all [Signing.fields, signedParams, DeepLink.queryParams, ATTRIBUTION_KEYS,
        DeepLink.identity,
        DeepLink.forOnboarding, onboardingParams, Record.lookup_insertSome]

theorem lookup_expires_onboardingParams {idKey : String}
    (hkey : idKey = "platformId" ∨ idKey = "userId") (context : RegistrationContext)
    (expires : String) :
    (onboardingParams idKey context expires).lookup "expires" = some expires := by
  obtain rfl | rfl := hkey <;> simp [onboardingParams, Record.lookup_insertSome]

theorem onboarding_signed (hrt : rt.Sound) {context : RegistrationContext} {time : Time}
    (hpresents : ∀ sig, context.sig = some sig → Presents rt issued sig)
    (h : verifyOnboardingLink rt context time = .ok ()) :
    ∃ link signed expires idKey, .deepLink link signed ∈ issued ∧
      link.identity = some (context.platform, context.platformId) ∧
      context.expires = some expires ∧ (idKey = "platformId" ∨ idKey = "userId") ∧
      signedParams (link.queryParams rt) signed = onboardingParams idKey context expires ∧
      time.now / 1000 ≤ linkExpires signed ∧
      (idKey = "userId" → context.platformId ≠ "") := by
  obtain ⟨expires, value, hexpires, hvalue, hnow, idKey, hkeys, hsig⟩ :=
    verifyOnboardingLink_eq_ok h
  have hkey : idKey = "platformId" ∨ idKey = "userId" := hkeys.imp_right And.left
  have hpresented :
      Presents rt issued (rt.hmac (onboardingParams idKey context expires).entries) := by
    cases hcontext : context.sig with
    | none =>
      rw [hcontext] at hsig
      exact absurd hsig.symm (hrt.hmac_nonempty _)
    | some sig =>
      rw [hcontext] at hsig
      exact hsig ▸ hpresents sig hcontext
  obtain ⟨signing, hmem, hfields⟩ := hpresented.signed hrt
  obtain ⟨link, signed, rfl, hidentity, -⟩ := identity_of_fields hkey hfields
  refine ⟨link, signed, expires, idKey, hmem, hidentity, hexpires, hkey, hfields, ?_, ?_⟩
  · have hlookup : ((Signing.deepLink link signed).fields rt).lookup "expires" = _ :=
      Signing.lookup_expires _
    rw [hfields, lookup_expires_onboardingParams hkey, Option.some.injEq] at hlookup
    have hbound := Signing.expires_le (.deepLink link signed)
    rw [hlookup, hrt.reads_integer _ (by omega), JsNumber.finite.injEq] at hvalue
    rw [← hvalue] at hnow
    exact_mod_cast hnow
  · rintro rfl
    exact (hkeys.resolve_left (by decide)).2

/-- The link to a screen of a chat account is accepted for a registration of that account. -/
theorem verifyOnboardingLink_of_screen (hrt : rt.Sound) (path platform userId username : String)
    (hid : userId ≠ "") (signed time : Time) (hnow : time.now / 1000 ≤ linkExpires signed) :
    verifyOnboardingLink rt
      { screenContext platform userId username with
        expires := some (bigIntToString (linkExpires signed))
        sig :=
          some (rt.hmac
            (signedParams ((DeepLink.screen path platform userId (some username)).queryParams rt)
              signed).entries) }
      time = .ok () := by
  have hbound :=
    Signing.expires_le (.deepLink (.screen path platform userId (some username)) signed)
  have hnumber :
      rt.stringToNumber (bigIntToString (linkExpires signed)) = .finite (linkExpires signed : ℕ) :=
    hrt.reads_integer _ (by simp only [Signing.expires] at hbound; omega)
  have hlate : ¬((linkExpires signed : ℕ) : ℚ) < (time.now / 1000 : ℕ) := by
    rw [Nat.cast_lt, not_lt]
    exact hnow
  have hfields :
      signedParams ((DeepLink.screen path platform userId (some username)).queryParams rt) signed =
      onboardingParams "userId" (screenContext platform userId username)
        (bigIntToString (linkExpires signed)) := by
    refine Finmap.ext_lookup fun key => ?_
    simp [signedParams, DeepLink.queryParams, ATTRIBUTION_KEYS, onboardingParams,
      screenContext, truthy,
      Record.lookup_insert, Record.lookup_insertSome]
    grind
  simp only [verifyOnboardingLink, hnumber, hlate, if_false]
  exact if_pos (.inr ⟨hid, by rw [hfields]; rfl⟩)

theorem SharesPurposes.verified (hrt : rt.Sound) (hshares : SharesPurposes rt issued)
    {query : Parameters} {time : Time}
    (hpresents : ∀ sig, query.lookup "sig" = some sig → Presents rt issued sig)
    (h : verify rt query time = .ok ()) :
    ∃ params signed, .prompt params signed ∈ issued ∧
      fieldsOf query = signable rt params signed := by
  obtain ⟨signing, hmem, hpayment, hfields, -⟩ := verified_signed hrt hpresents h
  cases signing with
  | prompt params signed => exact ⟨params, signed, hmem, hfields⟩
  | deepLink link signed =>
    obtain ⟨⟨recipient, token⟩, hlink⟩ := Option.isSome_iff_exists.mp hpayment
    obtain ⟨amount, hlookup⟩ := lookup_signedParams_of_payment rt hlink signed
    -- the fields of a query are never empty texts
    have hread : ∀ key value, (signedParams (link.queryParams rt) signed).lookup key = some value →
        value ≠ "" := by
      intro key value hvalue
      have hkey : (fieldsOf query).lookup key = some value := by
        rw [hfields]
        exact hvalue
      rw [lookup_fieldsOf] at hkey
      split_ifs at hkey
      exact (truthy_eq_some.mp hkey).2
    have hrecipient : recipient ≠ some "" := by
      rintro rfl
      exact hread "to" "" (hlookup "to") rfl
    have htoken : token ≠ "" := hread "token" token (hlookup "token")
    obtain ⟨params, signed', hprompt, hsame⟩ :=
      hshares.payments link signed recipient token hmem hlink hrecipient htoken
    exact ⟨params, signed', hprompt, hfields.trans hsame⟩

theorem SharesPurposes.registered (hrt : rt.Sound) (hshares : SharesPurposes rt issued)
    {context : RegistrationContext} {time : Time}
    (hpresents : ∀ sig, context.sig = some sig → Presents rt issued sig)
    (h : verifyOnboardingLink rt context time = .ok ()) :
    ∃ link signed expires, .deepLink link signed ∈ issued ∧ link.forOnboarding = true ∧
      link.identity = some (context.platform, context.platformId) ∧ context.expires = some expires ∧
      signedParams (link.queryParams rt) signed =
        onboardingParams "platformId" context expires := by
  obtain ⟨link, signed, expires, idKey, hmem, hidentity, hexpires, hkey, hfields, -, hid⟩ :=
    onboarding_signed hrt hpresents h
  obtain ⟨_, _, hsame, -, honboard, hscreen⟩ := identity_of_fields hkey
    (show (Signing.deepLink link signed).fields rt = _ from hfields)
  cases hsame
  obtain rfl | rfl := hkey
  · exact ⟨link, signed, expires, hmem, honboard rfl, hidentity, hexpires, hfields⟩
  · obtain ⟨hchat, path, rfl⟩ := hscreen rfl
    obtain ⟨link', signed', hmem', hfor, hfields'⟩ :=
      hshares.screens path context.platform context.platformId context.username signed hmem
        (hid rfl)
    have htext : bigIntToString (linkExpires signed) = expires := by
      have hlookup : ((Signing.deepLink (.screen path context.platform context.platformId
          (some context.username)) signed).fields rt).lookup "expires" = _ :=
            Signing.lookup_expires _
      rw [Signing.fields, hfields, lookup_expires_onboardingParams (.inr rfl),
        Option.some.injEq] at hlookup
      exact hlookup.symm
    have hcontext : onboardingParams "platformId"
        (screenContext context.platform context.platformId context.username)
        (bigIntToString (linkExpires signed)) = onboardingParams "platformId" context expires := by
      simp only [onboardingParams, hchat, htext]
      rfl
    rw [hcontext] at hfields'
    obtain ⟨_, _, hsame', hidentity', -⟩ :=
      identity_of_fields (.inl rfl)
        (show (Signing.deepLink link' signed').fields rt = _ from hfields')
    cases hsame'
    exact ⟨link', signed', expires, hmem', hfor, hidentity', hexpires, hfields'⟩

theorem KeepMeaning.shares (hrt : rt.Sound) (hkeep : KeepMeaning rt issued) :
    SharesPurposes rt issued where
  tokens params signed hmem htoken := by
    have hverify := hkeep.prompts params signed hmem ⟨0, by omega⟩
    rw [if_neg (Nat.not_lt_zero _)] at hverify
    apply token_ne_empty_of_verified hverify
    simp [lookup_buildPrompt, lookup_signable, htoken]
  payments link signed recipient token hmem hlink hrecipient htoken := by
    have hverify := verify_paymentLink hrt hlink hrecipient htoken signed ⟨0, by omega⟩
    rw [if_neg (Nat.not_lt_zero _)] at hverify
    obtain ⟨params, signed', hprompt, hfields⟩ :=
      hkeep.verified _ _ (fun sig hsig => ⟨_, hmem, hsig⟩) hverify
    exact ⟨params, signed', hprompt,
      (fieldsOf_paymentLink hrt hlink hrecipient htoken signed).symm.trans hfields⟩
  screens path platform userId username signed hmem hid := by
    obtain ⟨link, signed', expires, hmem', hfor, -, hexpires, hfields⟩ :=
      hkeep.registered _ ⟨0, by omega⟩
      (fun sig hsig => ⟨_, hmem, (Signing.lookup_sig _).trans hsig⟩)
      (verifyOnboardingLink_of_screen hrt path platform userId username hid signed ⟨0, by omega⟩
        (Nat.zero_le _))
    cases hexpires
    exact ⟨link, signed', hmem', hfor, hfields⟩

/-- Signed links keep their meaning just when the links that look like a prompt or like a
registration share their fields with one. While no link of `handleRequestAction` is issued, what is
verified was signed for the payer, and whatever was issued, a registration is accepted with an
unexpired link for its own identity, as `platformId` or as `userId`. -/
theorem links_keep_meaning (hrt : rt.Sound) (issued : Set Signing) :
    (KeepMeaning rt issued ↔ SharesPurposes rt issued) ∧
    ((∀ link signed, .deepLink link signed ∈ issued → link.forRequester = false) →
      ∀ (query : Parameters) (time : Time),
        (∀ sig, query.lookup "sig" = some sig → Presents rt issued sig) →
        verify rt query time = .ok () → ∃ signing ∈ issued, signing.forPayer = true ∧
          fieldsOf query = signing.fields rt ∧ time.now ≤ signing.expires * 1000) ∧
    ∀ (context : RegistrationContext) (time : Time),
      (∀ sig, context.sig = some sig → Presents rt issued sig) →
      verifyOnboardingLink rt context time = .ok () →
      ∃ link signed expires idKey, .deepLink link signed ∈ issued ∧
        link.identity = some (context.platform, context.platformId) ∧
        context.expires = some expires ∧
        (idKey = "platformId" ∨ idKey = "userId") ∧
        signedParams (link.queryParams rt) signed = onboardingParams idKey context expires ∧
        time.now / 1000 ≤ linkExpires signed := by
  refine ⟨⟨fun hkeep => hkeep.shares hrt, fun hshares => ⟨?_, ?_, ?_⟩⟩, ?_, ?_⟩
  · intro params signed hmem time
    exact verify_buildPrompt hrt (hshares.tokens params signed hmem) signed time
  · exact fun _ _ => hshares.verified hrt
  · exact fun _ _ => hshares.registered hrt
  · intro hnone query time hpresents hverify
    obtain ⟨signing, hmem, hpayment, hfields, hnow⟩ := verified_signed hrt hpresents hverify
    refine ⟨signing, hmem, ?_, hfields, hnow⟩
    cases signing with
    | prompt => rfl
    | deepLink link signed =>
      simpa [Signing.forPayer, Signing.forPayment, hnone link signed hmem] using hpayment
  · intro context time hpresents hverify
    obtain ⟨link, signed, expires, idKey, hmem, hidentity, hexpires, hkey, hfields, hnow, -⟩ :=
      onboarding_signed hrt hpresents hverify
    exact ⟨link, signed, expires, idKey, hmem, hidentity, hexpires, hkey, hfields, hnow⟩

end Signings

end VeriAgentPay.SignedLinks

namespace VeriAgentPay.Devnet
open CanonicalRecords Client SignedLinks PaymentEscalationService PlatformService WebAuthnService
open Backend (truthy bigInt bigIntToString bigInt_bigIntToString)

def charCodes (text : String) : List ℕ := text.toList.map Char.toNat

/-- Integers are written in decimal, and the HMAC numbers the parameters. -/
def linkRuntime : LinkRuntime where
  numberToString
    | .finite value =>
      if value.den = 1 then bigIntToString value.num
        else bigIntToString value.num ++ "/" ++ bigIntToString value.den
    | .notANumber => "NaN"
    | .infinite negative => if negative then "-Infinity" else "Infinity"
  stringToNumber text := match bigInt text with
    | .ok value => .finite value
    | .error _ => .notANumber
  numberMul
    | .finite x, .finite y => .finite (x * y)
    | _, _ => .notANumber
  hmac params :=
    bigIntToString
      (Encodable.encode (params.map fun (key, value) => (charCodes key, charCodes value)))

theorem charCodes_injective : Function.Injective charCodes := by
  intro text text' h
  exact String.toList_injective (List.map_injective_iff.mpr (fun _ _ => Char.toNat_inj.mp) h)

theorem linkRuntime_sound : linkRuntime.Sound where
  number_nonempty value := by
    cases value with
    | notANumber => simp [linkRuntime]
    | infinite negative => cases negative <;> simp [linkRuntime]
    | finite value =>
      have hnum := bigIntToString_ne_empty value.num
      simp only [linkRuntime]
      split <;> simp [hnum]
  reads_integer n _ := by
    simp [linkRuntime, bigInt_bigIntToString]
  mul_integer m n _ := by
    simp [linkRuntime]
  hmac_nonempty params := by
    simp only [linkRuntime]
    exact bigIntToString_ne_empty _
  hmac_injective params params' h := by
    have hcode := congrArg bigInt h
    simp only [linkRuntime, bigInt_bigIntToString, Except.ok.injEq, Nat.cast_inj] at hcode
    refine List.map_injective_iff.mpr ?_ (Encodable.encode_injective hcode)
    rintro ⟨key, value⟩ ⟨key', value'⟩ hpair
    rw [Prod.mk.injEq] at hpair
    exact Prod.ext (charCodes_injective hpair.1) (charCodes_injective hpair.2)

def noon : Time := ⟨1750000000000, by omega⟩

def soonAfter : Time := ⟨1750000060000, by omega⟩

def dinnerPrompt : Prompt :=
  { to_ := some "@alice", token := "USDC", amount := .finite 50, note := some "dinner"
    count := none, action := none, reason := .over_limit }

/-- Mallory asks somebody who has no account for 50 USDC and is answered with the link. -/
def requestLink : DeepLink :=
  .request (some "MalloryVault111111111111111111111") (.finite 50) "USDC"

theorem verify_requestLink :
    verify linkRuntime (requestLink.link linkRuntime noon).read soonAfter = .ok () :=
  (verify_paymentLink linkRuntime_sound (rfl : requestLink.payment = some _) (by decide)
    (by decide) noon soonAfter).trans
    (if_neg (by decide))

/-- The button to the dashboard in Bob's chat. -/
def dashboardLink : DeepLink := .screen "/dashboard" "telegram" "42" (some "bob")

/-- Bob's registration with the parameters of the button. -/
def bobsRegistration : RegistrationContext where
  platform := "telegram"
  platformId := "42"
  chatId := none
  username := "bob"
  expires := some (bigIntToString (linkExpires noon))
  sig := some (linkRuntime.hmac (signedParams (dashboardLink.queryParams linkRuntime) noon).entries)

theorem verify_bobsRegistration :
    verifyOnboardingLink linkRuntime bobsRegistration soonAfter = .ok () :=
  verifyOnboardingLink_of_screen linkRuntime_sound "/dashboard" "telegram" "42" "bob"
    (by decide) noon soonAfter (by decide)

/-- The button is accepted for Bob's registration, though no link for onboarding was signed; and the
link of Mallory's request is verified, though no prompt was made. -/
theorem links_for_other_purposes :
    (¬∀ (context : RegistrationContext) (time : Time),
      (∀ sig, context.sig = some sig → Presents linkRuntime {.deepLink dashboardLink noon} sig) →
      verifyOnboardingLink linkRuntime context time = .ok () →
      ∃ username chatId ref src campaign signed,
        Signing.deepLink
          (.onboard context.platform context.platformId username chatId ref src campaign) signed ∈
          ({.deepLink dashboardLink noon} : Set Signing)) ∧
    ¬∀ (query : Parameters) (time : Time),
      (∀ sig, query.lookup "sig" = some sig →
        Presents linkRuntime {.deepLink requestLink noon} sig) →
      verify linkRuntime query time = .ok () →
      ∃ params signed, Signing.prompt params signed ∈ ({.deepLink requestLink noon} : Set Signing) ∧
        fieldsOf query = signable linkRuntime params signed := by
  constructor
  · intro h
    have hpresents : ∀ sig, bobsRegistration.sig = some sig →
        Presents linkRuntime {.deepLink dashboardLink noon} sig := by
      intro sig hsig
      exact ⟨_, rfl, (Signing.lookup_sig _).trans hsig⟩
    obtain ⟨username, chatId, ref, src, campaign, signed, hmem⟩ :=
      h bobsRegistration soonAfter hpresents verify_bobsRegistration
    cases hmem
  · intro h
    obtain ⟨params, signed, hmem, _⟩ :=
      h _ soonAfter (fun sig hquery => ⟨_, rfl, hquery⟩) verify_requestLink
    cases hmem

/-- The button by which Bob was asked to register, in the same second. -/
def onboardLink : DeepLink := .onboard "telegram" "42" (some "bob") none none none none

theorem signedParams_onboardLink : signedParams (onboardLink.queryParams linkRuntime) noon =
    onboardingParams "platformId" (screenContext "telegram" "42" "bob")
      (bigIntToString (linkExpires noon)) := by
  refine Finmap.ext_lookup fun key => ?_
  simp [signedParams, onboardLink, DeepLink.queryParams, ATTRIBUTION_KEYS, onboardingParams,
    screenContext, truthy,
    Record.lookup_insert, Record.lookup_insertSome]
  grind

/-- A prompt and both buttons, of which one carries the registration of the other. -/
theorem links_keep_meaning_devnet : KeepMeaning linkRuntime
    {.prompt dinnerPrompt noon, .deepLink dashboardLink noon, .deepLink onboardLink noon} := by
  refine (links_keep_meaning linkRuntime_sound _).1.mpr ⟨?_, ?_, ?_⟩
  · rintro params signed (h | h | h)
    · cases h
      decide
    · cases h
    · cases h
  · rintro link signed recipient token (h | h | h) hlink
    · cases h
    · cases h
      cases hlink
    · cases h
      cases hlink
  · rintro path platform userId username signed (h | h | h) -
    · cases h
    · cases h
      exact ⟨onboardLink, noon, .inr (.inr rfl), rfl, signedParams_onboardLink⟩
    · cases h

end VeriAgentPay.Devnet
