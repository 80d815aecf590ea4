import VeriAgentPay.OneTimeValues
import VeriAgentPay.PaymentLinkServices
import VeriAgentPay.ProgramCustody
import VeriAgentPay.UniqueColumns

/-!
# Signing in with an account at a provider

A link to the provider carries a state, which Redis keeps. The provider sends the browser back with
the state and a code; the state is taken from Redis before the code is used. The token of the user
that the code stands for is left in Redis under another code, with which the browser fetches it.
-/

namespace VeriAgentPay.OAuthSignIns
open InterleavedPrograms OneTimeValues UniqueColumns
open InterleavedPrograms.Fallible (check checked dropResult)
open Backend (Failure outage trim truthy)

section Values

inductive Provider where
  | discord | slack
  deriving DecidableEq

def Provider.name : Provider → String
  | discord => "discord"
  | slack => "slack"

/-- The name in the texts of errors. -/
def Provider.title : Provider → String
  | discord => "Discord"
  | slack => "Slack"

/-- A row of the table `User`, with the address of its wallet. -/
structure User where
  id : String
  username : Option String
  email : Option String
  discordId : Option String
  slackId : Option String
  walletAddress : Option String
  deriving DecidableEq

def User.idAt (user : User) : Provider → Option String
  | .discord => user.discordId
  | .slack => user.slackId

def userColumns : List (User → Option String) :=
  [fun user => some user.id, User.username, User.email, User.discordId, User.slackId]

/-- What a provider tells of the account that a code stands for. -/
structure Profile where
  id : String
  name : String
  email : Option String

/-- What is stored in Redis. -/
inductive Value where
  | state (provider : String) (returnTo : Option String) (issuedAt : ℤ)
  | exchange (token : String) (user : User)
  deriving DecidableEq

def Value.provider : Value → Option String
  | state provider _ _ => some provider
  | exchange _ _ => none

def Value.returnTo : Value → Option String
  | state _ returnTo _ => returnTo
  | exchange _ _ => none

def Value.token : Value → Option String
  | state _ _ _ => none
  | exchange token _ => some token

def Value.user : Value → Option User
  | state _ _ _ => none
  | exchange _ user => some user

/-- Times are in seconds. -/
structure TokenClaims where
  userId : String
  walletAddress : Option String
  email : Option String
  discordId : Option String
  slackId : Option String
  jti : String
  iat : ℤ
  exp : ℤ

def TokenClaims.idAt (claims : TokenClaims) : Provider → Option String
  | .discord => claims.discordId
  | .slack => claims.slackId

/-- The answer of a provider: its status and text, and as JSON whether it says that all is well, its
error and what is read from it. -/
structure Reply (α : Type) where
  ok : Bool
  text : String
  dataOk : Bool
  dataError : String
  data : α

inductive Response where
  | authorize (provider : Provider) (state : String)
  | callback (provider : Provider) (code : String) (returnTo : Option String)
  | authError (message : String)
  | token (token : Option String) (user : Option User)
  deriving DecidableEq

end Values

section Stores

/-- Of the history: a call has sent a code to a provider. -/
structure Asked where
  call : ℕ
  provider : Provider
  code : String
  time : ℤ

/-- Of the history: a provider has told a call whose account it is. -/
structure Told where
  call : ℕ
  provider : Provider
  id : String
  time : ℤ

/-- Of the history: what a call has answered. -/
structure Sent where
  call : ℕ
  response : Response
  time : ℤ

/-- Redis, the users and how many texts have been drawn at random; then the history. -/
structure State where
  redis : Store String Value
  users : Table userColumns
  drawn : ℕ
  asked : List Asked
  told : List Told
  sent : List Sent

def State.ask (s : State) (i : ℕ) (provider : Provider) (code : String) : State :=
  { s with asked := ⟨i, provider, code, s.redis.now⟩ :: s.asked }

def State.tell (s : State) (i : ℕ) (provider : Provider) (id : String) : State :=
  { s with told := ⟨i, provider, id, s.redis.now⟩ :: s.told }

def State.send (s : State) (i : ℕ) (response : Response) : State :=
  { s with sent := ⟨i, response, s.redis.now⟩ :: s.sent }

def State.draw (s : State) : State := { s with drawn := s.drawn + 1 }

def State.opened (now : ℤ) (users : Table userColumns) : State :=
  ⟨Store.opened now, users, 0, [], [], []⟩

end Stores

section Model

structure Environment where
  /-- The texts that are drawn at random, in order. -/
  random : ℕ → String
  /-- `jwt.sign` under the secret of access tokens. -/
  sign : TokenClaims → String
  /-- The id and the secret of the client are set. -/
  configured : Provider → Bool

/-- A text drawn at random, and the time. -/
structure Drawn where
  text : String
  now : ℤ

inductive Request where
  | draw
  | setJson (key : String) (value : Value) (ttlMs : ℤ) (fate : Fate)
  | takeJson (key : String) (fate : Fate)
  | postCode (provider : Provider) (code : String) (reply : Except Failure (Reply String))
  | getIdentity (provider : Provider) (accessToken : String) (reply :
      Except Failure (Reply Profile))
  | findUser (provider : Provider) (id : String) (fate : Fate)
  | createUser (user : User) (fate : Fate)
  | replaceUsers (users : Table userColumns)
  | respond (response : Response)

abbrev Answer : Request → Type
  | .draw => Drawn
  | .setJson _ _ _ _ => Except Failure Unit
  | .takeJson _ _ => Except Failure (Option Value)
  | .postCode _ _ _ => Except Failure (Reply String)
  | .getIdentity _ _ _ => Except Failure (Reply Profile)
  | .findUser _ _ _ => Except Failure (Option User)
  | .createUser _ _ => Except Failure User
  | .replaceUsers _ | .respond _ => Unit

abbrev Service (α : Type) := Fallible Failure Request Answer α

abbrev ask (r : Request) : Service (Answer r) := Fallible.ask r

/-- How the requests of a callback end. -/
structure Turns where
  take : Fate
  token : Except Failure (Reply String)
  profile : Except Failure (Reply Profile)
  find : Fate
  create : Fate
  set : Fate

inductive Operation where
  | auth (provider : Provider) (returnTo : Option String) (set : Fate)
  | callback (provider : Provider) (code : String) (state : Option String) (turns : Turns)
  | exchangeOAuthCode (code : Option String) (take : Fate)
  /-- Another service writes users. -/
  | elsewhere (users : Table userColumns)

def TTL_MS : ℤ := 10 * 60 * 1000
def exchangeTtlMs : ℤ := 60 * 1000

def key (provider : Provider) (state : String) : String :=
  "oauth:state:" ++ provider.name ++ ":" ++ state

def exchangeKey (code : String) : String := "oauth:exchange:" ++ code

/-- `/[\r\n\x00-\x1f]/`. -/
def hasControl (text : String) : Bool := text.toList.any fun c => c.toNat ≤ 0x1f

def isRelative (path : String) : Bool :=
  path.startsWith "/" && !path.startsWith "//" && !hasControl path

/-- A query that is not a text counts as absent. -/
def relativePath (returnTo : Option String) : Option String :=
  match truthy returnTo with
  | none => none
  | some returnTo => if isRelative (trim returnTo) then some (trim returnTo) else none

/-- Where the page that the callback leads to goes on. -/
def destination (returnTo : Option String) : String :=
  match truthy returnTo with
  | none => "/dashboard"
  | some path => if path.startsWith "/" && !path.startsWith "//" then path else "/dashboard"

def validateReturnTo (returnTo : Option String) : Option String := relativePath returnTo

def sanitizeReturnTo (returnTo : Option String) : Option String := relativePath returnTo

def setJson (name : String) (value : Value) (ttlMs : ℤ) (fate : Fate) : Service Unit := do
  let stored ← ask (.setJson name value ttlMs fate)
  checked stored

def takeJson (name : String) (fate : Fate) : Service (Option Value) := do
  let stored ← ask (.takeJson name fate)
  checked stored

def issue (provider : Provider) (returnTo : Option String) (set : Fate) : Service String := do
  let drawn ← ask .draw
  setJson (key provider drawn.text)
    (.state provider.name (sanitizeReturnTo returnTo) drawn.now) TTL_MS set
  pure drawn.text

structure Verified where
  returnTo : Option String

/-- A state that was issued for another provider counts as absent. -/
def verifiedOf (provider : Provider) (stored : Option Value) : Option Verified :=
  (stored.filter fun stored => stored.provider = some provider.name).map
    fun stored => ⟨stored.returnTo⟩

def consume (provider : Provider) (state : Option String) (take : Fate) :
    Service (Option Verified) :=
  match truthy state with
  | none => pure none
  | some state => do
    let stored ← takeJson (key provider state) take
    pure (verifiedOf provider stored)

/-- Slack can answer with an error although the status is good. -/
def Provider.read {α : Type} (provider : Provider) (refusal : String → Failure) (reply : Reply α) :
    Except Failure α :=
  if !reply.ok then .error (refusal reply.text)
  else if provider = slack && !reply.dataOk then
    .error (.unauthorized s!"Slack API error: {reply.dataError}")
  else .ok reply.data

def Provider.tokenOf (provider : Provider) (reply : Reply String) : Except Failure String :=
  provider.read (fun text => .unauthorized s!"{provider.title} token exchange failed: {text}") reply

def Provider.profileOf (provider : Provider) (reply : Reply Profile) : Except Failure Profile :=
  provider.read (fun _ => .unauthorized s!"Failed to fetch {provider.title} user") reply

variable (env : Environment)

def exchangeCodeForToken (provider : Provider) (code : String)
    (reply : Except Failure (Reply String)) : Service String := do
  check (env.configured provider) (.error s!"{provider.title} OAuth credentials not configured")
  let response ← ask (.postCode provider code reply)
  let response ← checked response
  checked (provider.tokenOf response)

def getUser (provider : Provider) (accessToken : String) (reply : Except Failure (Reply Profile)) :
    Service Profile := do
  let response ← ask (.getIdentity provider accessToken reply)
  let response ← checked response
  checked (provider.profileOf response)

def Provider.newUser (provider : Provider) (id : String) (profile : Profile) : User :=
  match provider with
  | discord => ⟨id, some profile.name, profile.email, some profile.id, none, none⟩
  | slack => ⟨id, some profile.name, profile.email, none, some profile.id, none⟩

def findOrCreate (provider : Provider) (profile : Profile) (find create : Fate) : Service User := do
  let found ← ask (.findUser provider profile.id find)
  match ← checked found with
  | some user => pure user
  | none =>
    let drawn ← ask .draw
    let created ← ask (.createUser (provider.newUser drawn.text profile) create)
    checked created

/-- The id at the other provider is not in the token. -/
def Provider.claims (provider : Provider) (user : User) (jti : String) (now : ℤ) : TokenClaims where
  userId := user.id
  walletAddress := truthy user.walletAddress
  email := truthy user.email
  discordId := if provider = discord then user.discordId else none
  slackId := if provider = slack then user.slackId else none
  jti := jti
  iat := now / 1000
  exp := now / 1000 + 7 * 24 * 60 * 60

def generateJWT (provider : Provider) (user : User) : Service String := do
  let drawn ← ask .draw
  pure (env.sign (provider.claims user drawn.text drawn.now))

def handleOAuthCallback (provider : Provider) (code : String) (turns : Turns) :
    Service (User × String) := do
  let accessToken ← exchangeCodeForToken env provider code turns.token
  let profile ← getUser provider accessToken turns.profile
  let user ← findOrCreate provider profile turns.find turns.create
  let jwt ← generateJWT env provider user
  pure (user, jwt)

def auth (provider : Provider) (returnTo : Option String) (set : Fate) : Service Unit := do
  let state ← issue provider (validateReturnTo returnTo) set
  ask (.respond (.authorize provider state))

def admitted (verified : Option Verified) : Except Failure Verified :=
  match verified with
  | some verified => .ok verified
  | none => .error (.error "This sign-in link is invalid or has expired. Please start again.")

def signIn (provider : Provider) (code : String) (turns : Turns) (verified : Verified) :
    Service Unit := do
  let (user, jwt) ← handleOAuthCallback env provider code turns
  let drawn ← ask .draw
  setJson (exchangeKey drawn.text) (.exchange jwt user) exchangeTtlMs turns.set
  ask (.respond (.callback provider drawn.text verified.returnTo))

def callback (provider : Provider) (code : String) (state : Option String) (turns : Turns) :
    Service Unit :=
  tryCatchThe Failure
    (do
      let verified ← consume provider state turns.take
      let verified ← checked (admitted verified)
      signIn env provider code turns verified)
    fun e => ask (.respond (.authError e.message))

def discordAuth (returnTo : Option String) (set : Fate) : Service Unit := auth .discord returnTo set

def slackAuth (returnTo : Option String) (set : Fate) : Service Unit := auth .slack returnTo set

def discordCallback (code : String) (state : Option String) (turns : Turns) : Service Unit :=
  callback env .discord code state turns

def slackCallback (code : String) (state : Option String) (turns : Turns) : Service Unit :=
  callback env .slack code state turns

def exchangeOAuthCode (code : Option String) (take : Fate) : Service Unit :=
  match truthy code with
  | none => checked (.error (.badRequest "Exchange code is required"))
  | some code => do
    match ← takeJson (exchangeKey code) take with
    | none => checked (.error (.unauthorized "Invalid or expired exchange code"))
    | some stored => ask (.respond (.token stored.token stored.user))

def program : Operation → Program Request Answer Unit
  | .auth .discord returnTo set => dropResult (discordAuth returnTo set)
  | .auth .slack returnTo set => dropResult (slackAuth returnTo set)
  | .callback .discord code state turns => dropResult (discordCallback env code state turns)
  | .callback .slack code state turns => dropResult (slackCallback env code state turns)
  | .exchangeOAuthCode code take => dropResult (exchangeOAuthCode code take)
  | .elsewhere users => dropResult (ask (.replaceUsers users) : Service Unit)

/-- A value whose answer is lost is gone all the same. -/
def State.take (s : State) (i : ℕ) (key : String) : Fate → Except Failure (Option Value) × State
  | .answered => (.ok (s.redis.take i key).1, { s with redis := (s.redis.take i key).2 })
  | .lost => (.error outage, { s with redis := s.redis.unset key })
  | .refused => (.error outage, s)

def State.find (s : State) (provider : Provider) (id : String) : Option User :=
  s.users.rows.find? fun user => user.idAt provider = some id

/-- Two users with one value in a unique column are refused. -/
def State.create (s : State) (user : User) (fate : Fate) : Except Failure User × State :=
  match s.users.insert user with
  | none => (.error outage, s)
  | some users => (fate.told outage user, if fate.carried then { s with users := users } else s)

def State.hear (s : State) (i : ℕ) (provider : Provider)
    (reply : Except Failure (Reply Profile)) : State :=
  match reply.bind provider.profileOf with
  | .ok profile => s.tell i provider profile.id
  | .error _ => s

def carry (i : ℕ) (_op : Operation) (s : State) : (r : Request) → Answer r × State
  | .draw => (⟨env.random s.drawn, s.redis.now⟩, s.draw)
  | .setJson key value ttlMs fate =>
    (fate.told outage (), if fate.carried then { s with redis := s.redis.put i key value ttlMs }
      else s)
  | .takeJson key fate => s.take i key fate
  | .postCode provider code reply => (reply, s.ask i provider code)
  | .getIdentity provider _ reply => (reply, s.hear i provider reply)
  | .findUser provider id fate => (fate.told outage (s.find provider id), s)
  | .createUser user fate => s.create user fate
  | .replaceUsers users => ((), { s with users := users })
  | .respond response => ((), s.send i response)

/-- By itself time passes, and Redis can lose what it holds. -/
def service : StoreService State Operation Request Answer where
  program := program env
  carry := carry env
  passes n s := { s with redis := if n = 0 then s.redis.emptied else s.redis.wait n }

end Model

section Invariant

variable (env : Environment)

/-- The key is one for such values. -/
def Value.KeptUnder (value : Value) (name : String) : Prop :=
  match value with
  | .state provider _ _ => ∃ p state, provider = p.name ∧ name = key p state
  | .exchange _ _ => ∃ code, name = exchangeKey code

/-- Where a value that was written comes from. -/
def State.Explains (s : State) (w : Written String Value) : Prop :=
  w.value.KeptUnder w.key ∧
  match w.value with
  | .state _ returnTo _ => (∀ path ∈ returnTo, isRelative path) ∧ w.expiresAt = w.time + TTL_MS
  | .exchange token user => w.expiresAt = w.time + exchangeTtlMs ∧
      ∃ told ∈ s.told, told.call = w.writer ∧ told.time ≤ w.time ∧
        ∃ claims, token = env.sign claims ∧ claims.userId = user.id ∧
        claims.idAt told.provider = some told.id

/-- A call has taken a value. -/
def State.Took (s : State) (i : ℕ) (time : ℤ) (P : Value → Prop) : Prop :=
  ∃ t ∈ s.redis.taken, t.taker = i ∧ t.time ≤ time ∧ P t.written.value

/-- Where an answer comes from. -/
def State.Justifies (s : State) (sent : Sent) : Prop :=
  match sent.response with
  | .authorize provider state =>
    ∃ w ∈ s.redis.written, w.writer = sent.call ∧ w.key = key provider state ∧
    w.value.provider = some provider.name
  | .callback provider code returnTo =>
    s.Took sent.call sent.time
      (fun value => value.provider = some provider.name ∧ value.returnTo = returnTo) ∧
      ∃ w ∈ s.redis.written, w.writer = sent.call ∧ w.key = exchangeKey code ∧ w.value.token.isSome
  | .authError _ => True
  | .token token user => s.Took sent.call sent.time fun value =>
    ∃ t u, value = .exchange t u ∧ token = some t ∧ user = some u

/-- The stages that a call goes through: it takes a value, asks a provider, writes a value, and
answers. -/
structure Genuine (s : State) (stage : ℕ → ℕ) : Prop where
  redis : Sound s.redis
  takers : Past (s.redis.taken.map Taken.taker) stage 1
  askers : Past (s.asked.map Asked.call) stage 2
  writers : Past (s.redis.written.map Written.writer) stage 3
  senders : Past (s.sent.map Sent.call) stage 4
  written : ∀ w ∈ s.redis.written, s.Explains env w
  asked : ∀ a ∈ s.asked, s.Took a.call a.time fun value => value.provider = some a.provider.name
  told : ∀ t ∈ s.told, ∃ a ∈ s.asked, a.call = t.call ∧ a.provider = t.provider ∧ a.time ≤ t.time
  sent : ∀ r ∈ s.sent, s.Justifies r

/-- The history goes on. -/
structure State.Grows (s s' : State) : Prop where
  redis : OneTimeValues.Grows s.redis s'.redis
  asked : s.asked ⊆ s'.asked
  told : s.told ⊆ s'.told

variable {env} {s s' : State} {stage : ℕ → ℕ} {i m : ℕ} {time : ℤ} {P Q : Value → Prop}
  {w : Written String Value} {sent : Sent}

theorem State.Grows.refl (s : State) : s.Grows s :=
  ⟨.refl _, List.Subset.refl _, List.Subset.refl _⟩

theorem State.Took.grows (h : s.Took i time P) (hgrows : s.Grows s') : s'.Took i time P := by
  obtain ⟨t, ht, hfacts⟩ := h
  exact ⟨t, hgrows.redis.taken ht, hfacts⟩

theorem State.Took.imp (h : s.Took i time P) (hPQ : ∀ value, P value → Q value) :
    s.Took i time Q := by
  obtain ⟨t, ht, hcall, htime, hvalue⟩ := h
  exact ⟨t, ht, hcall, htime, hPQ _ hvalue⟩

theorem State.Explains.grows (h : s.Explains env w) (hgrows : s.Grows s') : s'.Explains env w := by
  unfold State.Explains at h ⊢
  obtain ⟨hkey, hvalue⟩ := h
  refine ⟨hkey, ?_⟩
  cases hcase : w.value with
  | state provider returnTo issuedAt =>
    rw [hcase] at hvalue
    exact hvalue
  | exchange token user =>
    rw [hcase] at hvalue
    obtain ⟨htime, told, htold, hfacts⟩ := hvalue
    exact ⟨htime, told, hgrows.told htold, hfacts⟩

theorem State.Justifies.grows (h : s.Justifies sent) (hgrows : s.Grows s') : s'.Justifies sent := by
  unfold State.Justifies at h ⊢
  cases hresponse : sent.response with
  | authorize provider state =>
    rw [hresponse] at h
    obtain ⟨w, hw, hfacts⟩ := h
    exact ⟨w, hgrows.redis.written hw, hfacts⟩
  | callback provider code returnTo =>
    rw [hresponse] at h
    obtain ⟨htook, w, hw, hfacts⟩ := h
    exact ⟨htook.grows hgrows, w, hgrows.redis.written hw, hfacts⟩
  | authError message => trivial
  | token token user =>
    rw [hresponse] at h
    exact State.Took.grows h hgrows

/-- What stays of the history when only a call goes on. -/
theorem Genuine.advance (h : Genuine env s stage) (hle : stage i ≤ m) :
    Genuine env s (Function.update stage i m) :=
  { h with
    takers := h.takers.advance hle
    askers := h.askers.advance hle
    writers := h.writers.advance hle
    senders := h.senders.advance hle }

/-- A step that takes, asks, hears, writes and answers nothing. -/
theorem Genuine.idle (h : Genuine env s stage) {redis : Store String Value} (hsound : Sound redis)
    (hgrows : OneTimeValues.Grows s.redis redis) (htaken : redis.taken = s.redis.taken)
    (hwritten : redis.written = s.redis.written) (users : Table userColumns) (drawn : ℕ) :
    Genuine env { s with redis := redis, users := users, drawn := drawn } stage := by
  have hlater : s.Grows { s with redis := redis, users := users, drawn := drawn } :=
    ⟨hgrows, List.Subset.refl _, List.Subset.refl _⟩
  refine ⟨hsound, ?_, h.askers, ?_, h.senders, ?_, ?_, h.told, ?_⟩
  · simpa only [htaken] using h.takers
  · simpa only [hwritten] using h.writers
  · intro w hw
    rw [hwritten] at hw
    exact (h.written w hw).grows hlater
  · exact fun a ha => (h.asked a ha).grows hlater
  · exact fun r hr => (h.sent r hr).grows hlater

end Invariant

section Steps

variable {env : Environment} {s s' : State} {stage : ℕ → ℕ} {i : ℕ} {provider : Provider}
  {code id : String} {P : Value → Prop}

/-- A call has taken a value by now. -/
def State.Has (s : State) (i : ℕ) (P : Value → Prop) : Prop := s.Took i s.redis.now P

/-- A call has asked a provider by now. -/
def State.HasAsked (s : State) (i : ℕ) (provider : Provider) : Prop :=
  ∃ a ∈ s.asked, a.call = i ∧ a.provider = provider ∧ a.time ≤ s.redis.now

/-- A call has been told an id by now. -/
def State.HasHeard (s : State) (i : ℕ) (provider : Provider) (id : String) : Prop :=
  ∃ t ∈ s.told, t.call = i ∧ t.provider = provider ∧ t.id = id ∧ t.time ≤ s.redis.now

/-- A call has written a value. -/
def State.HasWritten (s : State) (i : ℕ) (name : String) (value : Value) : Prop :=
  ∃ w ∈ s.redis.written, w.writer = i ∧ w.key = name ∧ w.value = value

theorem State.HasWritten.grows {name : String} {value : Value} (h : s.HasWritten i name value)
    (hgrows : s.Grows s') :
    s'.HasWritten i name value := by
  obtain ⟨w, hw, hfacts⟩ := h
  exact ⟨w, hgrows.redis.written hw, hfacts⟩

theorem State.Has.grows (h : s.Has i P) (hgrows : s.Grows s') : s'.Has i P := by
  obtain ⟨t, ht, hcall, htime, hvalue⟩ := h
  exact ⟨t, hgrows.redis.taken ht, hcall, htime.trans hgrows.redis.now, hvalue⟩

theorem State.HasAsked.grows (h : s.HasAsked i provider) (hgrows : s.Grows s') :
    s'.HasAsked i provider := by
  obtain ⟨a, ha, hcall, hprovider, htime⟩ := h
  exact ⟨a, hgrows.asked ha, hcall, hprovider, htime.trans hgrows.redis.now⟩

theorem State.HasHeard.grows (h : s.HasHeard i provider id) (hgrows : s.Grows s') :
    s'.HasHeard i provider id := by
  obtain ⟨t, ht, hcall, hprovider, hid, htime⟩ := h
  exact ⟨t, hgrows.told ht, hcall, hprovider, hid, htime.trans hgrows.redis.now⟩

theorem Genuine.take (h : Genuine env s stage) (hstart : stage i = 0) (key : String) :
    Genuine env { s with redis := (s.redis.take i key).2 } (Function.update stage i 1) := by
  have hlater : s.Grows { s with redis := (s.redis.take i key).2 } :=
    ⟨grows_take s.redis i key, List.Subset.refl _, List.Subset.refl _⟩
  have hmoved : Genuine env s (Function.update stage i 1) := h.advance (by omega)
  refine ⟨h.redis.take i key, ?_, hmoved.askers, ?_, hmoved.senders, ?_, ?_, h.told, ?_⟩
  · rcases takers_take s.redis i key with hsame | hmore
    · simpa only [hsame] using hmoved.takers
    · simp only [hmore]
      exact h.takers.add (by omega) le_rfl
  · simpa only [written_take] using hmoved.writers
  · intro w hw
    simp only [written_take] at hw
    exact (h.written w hw).grows hlater
  · exact fun a ha => (h.asked a ha).grows hlater
  · exact fun r hr => (h.sent r hr).grows hlater

theorem Genuine.put (h : Genuine env s stage) (hbefore : stage i < 3) {key : String}
    {value : Value} {ttl : ℤ} (hvalue : s.Explains env (s.redis.next i key value ttl)) :
    Genuine env { s with redis := s.redis.put i key value ttl } (Function.update stage i 3) := by
  have hlater : s.Grows { s with redis := s.redis.put i key value ttl } :=
    ⟨grows_put s.redis i key value ttl, List.Subset.refl _, List.Subset.refl _⟩
  have hmoved : Genuine env s (Function.update stage i 3) := h.advance (by omega)
  refine ⟨h.redis.put i key value ttl, hmoved.takers, hmoved.askers, h.writers.add hbefore le_rfl,
    hmoved.senders, ?_, ?_, h.told, ?_⟩
  · refine List.forall_mem_cons.mpr ⟨hvalue.grows hlater, ?_⟩
    exact fun w hw => (h.written w hw).grows hlater
  · exact fun a ha => (h.asked a ha).grows hlater
  · exact fun r hr => (h.sent r hr).grows hlater

theorem Genuine.ask (h : Genuine env s stage) (hbefore : stage i < 2)
    (htook : s.Has i fun value => value.provider = some provider.name) (code : String) :
    Genuine env (s.ask i provider code) (Function.update stage i 2) := by
  have hmoved : Genuine env s (Function.update stage i 2) := h.advance (by omega)
  refine ⟨h.redis, hmoved.takers, h.askers.add hbefore le_rfl, hmoved.writers, hmoved.senders,
    h.written, ?_, ?_, h.sent⟩
  · exact List.forall_mem_cons.mpr ⟨htook, h.asked⟩
  · intro t ht
    obtain ⟨a, ha, hfacts⟩ := h.told t ht
    exact ⟨a, List.mem_cons_of_mem _ ha, hfacts⟩

theorem grows_tell (s : State) (i : ℕ) (provider : Provider) (id : String) :
    s.Grows (s.tell i provider id) :=
  ⟨.refl _, List.Subset.refl _, List.subset_cons_self _ _⟩

theorem Genuine.tell (h : Genuine env s stage) (hasked : s.HasAsked i provider) (id : String) :
    Genuine env (s.tell i provider id) stage := by
  refine ⟨h.redis, h.takers, h.askers, h.writers, h.senders, ?_, h.asked, ?_, h.sent⟩
  · exact fun w hw => (h.written w hw).grows (grows_tell s i provider id)
  · exact List.forall_mem_cons.mpr ⟨hasked, h.told⟩

theorem Genuine.send (h : Genuine env s stage) (hbefore : stage i < 4) {response : Response}
    (hjustified : s.Justifies ⟨i, response, s.redis.now⟩) :
    Genuine env (s.send i response) (Function.update stage i 4) := by
  have hmoved : Genuine env s (Function.update stage i 4) := h.advance (by omega)
  exact ⟨h.redis, hmoved.takers, hmoved.askers, hmoved.writers, h.senders.add hbefore le_rfl,
    h.written, h.asked, h.told,
    List.forall_mem_cons.mpr ⟨hjustified, h.sent⟩⟩

theorem genuine_opened (now : ℤ) (users : Table userColumns) :
    Genuine env (State.opened now users) fun _ => 0 where
  redis := sound_opened now
  takers := past_nil _ _
  askers := past_nil _ _
  writers := past_nil _ _
  senders := past_nil _ _
  written _ h := nomatch h
  asked _ h := nomatch h
  told _ h := nomatch h
  sent _ h := nomatch h

end Steps

section Programs

def signInCustody (env : Environment) : Custody State Operation Request Answer ℕ where
  service := service env
  conditions := StoreService.anything
  inv := Genuine env
  grows := State.Grows
  idle := 0

variable {env : Environment} {i : ℕ} {op : Operation} {n : ℕ} {provider : Provider} {P : Value →
  Prop} {K : State → Prop}

theorem stable_has (i : ℕ) (P : Value → Prop) : (signInCustody env).Stable fun s => s.Has i P :=
  fun _ _ hgrows h => h.grows hgrows

theorem stable_hasAsked (i : ℕ) (provider : Provider) :
    (signInCustody env).Stable fun s => s.HasAsked i provider :=
  fun _ _ hgrows h => h.grows hgrows

theorem stable_hasHeard (i : ℕ) (provider : Provider) (id : String) :
    (signInCustody env).Stable fun s => s.HasHeard i provider id :=
  fun _ _ hgrows h => h.grows hgrows

/-- A request that is about the random texts and the users only. -/
theorem keeps_aside {r : Request} {R : Answer r → Prop} (hK : (signInCustody env).Stable K)
    (haside : ∀ s, R (carry env i op s r).1 ∧
      ∃ users drawn, (carry env i op s r).2 = { s with users := users, drawn := drawn }) :
    (signInCustody env).Keeps i op (ask r) K n (fun answer s => R answer ∧ K s) fun _ => False := by
  refine Custody.Keeps.ask (D := signInCustody env) (fun _ => (Custody.stable_const _).and hK) ?_
  intro s stage hgenuine hs _ _
  obtain ⟨hanswer, users, drawn, hcarry⟩ := haside s
  have hcarry' : ((signInCustody env).service.carry i op s r).2 =
      { s with users := users, drawn := drawn } := hcarry
  have hgrows : s.Grows { s with users := users, drawn := drawn } :=
    ⟨.refl _, List.Subset.refl _, List.Subset.refl _⟩
  rw [hcarry']
  exact ⟨hgrows, hgenuine.idle hgenuine.redis (.refl _) rfl rfl users drawn, hanswer,
    hK s _ hgrows hs⟩

theorem keeps_draw (hK : (signInCustody env).Stable K) :
    (signInCustody env).Keeps i op (ask .draw) K n (fun _ => K) fun _ => False := by
  refine (keeps_aside (R := fun _ => True) hK fun s => ⟨trivial, s.users, s.drawn + 1, rfl⟩).weaken
    (fun _ hs => hs) ?_ fun _ _ h => h
  exact fun _ _ _ hs => ⟨hs.1, hs.2.2⟩

/-- What a call takes is a value for the key, and the call has it. -/
theorem upholds_takeJson (name : String) (fate : Fate) :
    (signInCustody env).Upholds i op (takeJson name fate) (fun _ => True) 0
      (fun stored s h' => h' = 1 ∧ ∀ value, stored = some value → value.KeptUnder name ∧ s.Has i
        (· = value)) fun _ h' => h' = 1 := by
  unfold takeJson
  refine Custody.Upholds.bind (S := fun answer s h' => h' = 1 ∧
    ∀ value, answer = .ok (some value) → value.KeptUnder name ∧ s.Has i (· = value))
    ?_ fun answer h' => ?_
  rotate_left
  · refine Custody.Upholds.assuming fun hh => ?_
    subst hh
    refine Custody.Upholds.checked (fun stored _ hanswer hs => ⟨rfl, ?_⟩) fun _ _ _ _ => rfl
    exact fun value hvalue => hs value (hvalue ▸ hanswer)
  refine Custody.Upholds.ask (D := signInCustody env) (r := .takeJson name fate) (fun _ => 1)
    (S := fun answer s => ∀ value, answer = .ok (some value) → value.KeptUnder name ∧ s.Has i
      (· = value)) ?_ ?_
  · intro answer s s' hgrows hvalue value hanswer
    obtain ⟨hkept, htook⟩ := hvalue value hanswer
    exact ⟨hkept, htook.grows hgrows⟩
  · intro s stage hgenuine _ hstart _
    cases fate with
    | answered =>
      refine ⟨⟨grows_take s.redis i name, List.Subset.refl _, List.Subset.refl _⟩,
        hgenuine.take hstart name, ?_⟩
      intro value hanswer
      obtain ⟨t, ht, hcall, hkey, rfl, htime⟩ :=
        taken_of_take hgenuine.redis (Except.ok.inj hanswer)
      have hwritten : t.written ∈ s.redis.written :=
        written_take s.redis i name ▸ ((hgenuine.redis.take i name).taken t ht).1
      refine ⟨hkey ▸ (hgenuine.written _ hwritten).1, t, ht, hcall, ?_, rfl⟩
      exact htime.le.trans (now_take s.redis i name).ge
    | lost =>
      refine ⟨⟨grows_unset s.redis name, List.Subset.refl _, List.Subset.refl _⟩, ?_,
        fun _ h => nomatch h⟩
      exact (hgenuine.idle (hgenuine.redis.unset name)
        (grows_unset s.redis name) rfl rfl s.users s.drawn).advance (by omega)
    | refused => exact ⟨.refl s, hgenuine.advance (by omega), fun _ h => nomatch h⟩

theorem verifiedOf_eq_some {stored : Option Value} {verified : Verified}
    (h : verifiedOf provider stored = some verified) :
    ∃ value, stored = some value ∧ value.provider = some provider.name ∧
      value.returnTo = verified.returnTo := by
  obtain ⟨value, hvalue, rfl⟩ := Option.map_eq_some_iff.mp h
  obtain ⟨hstored, hprovider⟩ := Option.filter_eq_some_iff.mp hvalue
  exact ⟨value, hstored, of_decide_eq_true hprovider, rfl⟩

/-- Who passes the check has taken a state that was issued for the provider. -/
theorem upholds_consume (provider : Provider) (state : Option String) (fate : Fate) :
    (signInCustody env).Upholds i op (consume provider state fate) (fun _ => True) 0
      (fun verified s h' => h' ≤ 1 ∧ ∀ v, verified = some v → s.Has i
        fun value => value.provider = some provider.name ∧ value.returnTo = v.returnTo)
      fun _ h' => h' ≤ 1 := by
  unfold consume
  cases truthy state with
  | none => exact Custody.Upholds.pure fun _ _ => ⟨by omega, fun _ h => nomatch h⟩
  | some state =>
    refine Custody.Upholds.bind ((upholds_takeJson _ fate).weaken (fun _ hs => hs)
      (fun _ _ _ hs => hs) fun _ _ h => h.le) fun stored h' => ?_
    refine Custody.Upholds.pure fun s hs => ⟨hs.1.le, ?_⟩
    intro v hv
    obtain ⟨value, rfl, hprovider, hreturnTo⟩ := verifiedOf_eq_some hv
    refine (hs.2 value rfl).2.imp ?_
    rintro _ rfl
    exact ⟨hprovider, hreturnTo⟩

/-- The code is sent to the provider only by a call that has taken a state. -/
theorem upholds_exchangeCodeForToken (code : String) (reply : Except Failure (Reply String))
    (hn : n ≤ 1) :
    (signInCustody env).Upholds i op (exchangeCodeForToken env provider code reply)
      (fun s => s.Has i fun value => value.provider = some provider.name) n
        (fun _ s h' => h' = 2 ∧ s.HasAsked i provider) fun _ h' => h' < 4 := by
  unfold exchangeCodeForToken
  refine Custody.Upholds.checkThen (fun _ _ _ => by omega) fun _ => ?_
  refine Custody.Upholds.bind (S := fun _ s h' => h' = 2 ∧ s.HasAsked i provider) ?_
    fun answer h' => ?_
  · refine Custody.Upholds.ask (D := signInCustody env) (r := .postCode provider code reply)
      (fun _ => 2) (S := fun _ s => s.HasAsked i provider)
      (fun _ => stable_hasAsked i provider) ?_
    rintro s stage hgenuine htook rfl _
    refine ⟨⟨.refl _, List.subset_cons_self _ _, List.Subset.refl _⟩,
      hgenuine.ask (by omega) htook code, ?_⟩
    exact ⟨_, List.mem_cons_self, rfl, rfl, le_rfl⟩
  · refine Custody.Upholds.assuming fun hh => ?_
    subst hh
    refine Custody.Upholds.checkedThen (fun _ _ _ _ => by omega) fun response _ => ?_
    exact Custody.Upholds.checked (fun _ _ _ hs => ⟨rfl, hs⟩) fun _ _ _ _ => by omega

/-- Who gets a profile has been told the id in it. -/
theorem keeps_getUser (accessToken : String) (reply : Except Failure (Reply Profile)) :
    (signInCustody env).Keeps i op (getUser provider accessToken reply)
      (fun s => s.HasAsked i provider) n
      (fun profile s => s.HasHeard i provider profile.id) fun _ => True := by
  unfold getUser
  refine Custody.Keeps.andThen
    (R := fun answer s => ∀ profile, answer.bind provider.profileOf = .ok profile →
      s.HasHeard i provider profile.id)
    (F := fun _ => True) ?_ (fun answer => ?_) fun _ _ => ⟨rfl, trivial⟩
  · refine Custody.Keeps.ask (D := signInCustody env)
      (r := .getIdentity provider accessToken reply) ?_ ?_
    · intro answer s s' hgrows hheard profile hprofile
      exact (hheard profile hprofile).grows hgrows
    · intro s stage hgenuine hasked _ _
      show s.Grows (s.hear i provider reply) ∧ Genuine env (s.hear i provider reply) stage ∧
        ∀ profile, reply.bind provider.profileOf = .ok profile →
        (s.hear i provider reply).HasHeard i provider profile.id
      cases hreply : reply.bind provider.profileOf with
      | error e =>
        have hsame : s.hear i provider reply = s := by simp only [State.hear, hreply]
        rw [hsame]
        exact ⟨.refl s, hgenuine, fun _ h => nomatch h⟩
      | ok profile =>
        have htold : s.hear i provider reply = s.tell i provider profile.id := by
          simp only [State.hear, hreply]
        rw [htold]
        refine ⟨grows_tell s i provider profile.id, hgenuine.tell hasked profile.id, ?_⟩
        rintro _ ⟨⟩
        exact ⟨_, List.mem_cons_self, rfl, rfl, rfl, le_rfl⟩
  · refine Custody.Upholds.checkedThen (fun _ _ _ _ => ⟨rfl, trivial⟩) fun response hanswer => ?_
    subst hanswer
    exact Custody.Upholds.checked (fun profile _ hprofile hs => ⟨rfl, hs profile hprofile⟩)
      fun _ _ _ _ => ⟨rfl, trivial⟩

theorem idAt_newUser (provider : Provider) (id : String) (profile : Profile) :
    (provider.newUser id profile).idAt provider = some profile.id := by
  cases provider <;> rfl

theorem idAt_claims (provider : Provider) (user : User) (jti : String) (now : ℤ) :
    (provider.claims user jti now).idAt provider = user.idAt provider := by
  cases provider <;> rfl

theorem find_eq_some {s : State} {id : String} {user : User} (h : s.find provider id = some user) :
    user.idAt provider = some id := by
  have hfound : s.users.rows.find? (fun user => user.idAt provider = some id) = some user := h
  simpa using List.find?_some hfound

theorem create_aside (s : State) (user : User) (fate : Fate) :
    (∀ created, (s.create user fate).1 = .ok created → created = user) ∧
      ∃ users drawn, (s.create user fate).2 = { s with users := users, drawn := drawn } := by
  unfold State.create
  cases s.users.insert user with
  | none => exact ⟨fun _ h => (nomatch h), s.users, s.drawn, rfl⟩
  | some users =>
    constructor
    · intro created hcreated
      exact (Fate.told_eq_ok.mp hcreated).2.symm
    · cases fate with
      | answered | lost => exact ⟨users, s.drawn, rfl⟩
      | refused => exact ⟨s.users, s.drawn, rfl⟩

/-- Whether found or made, the user has the id that the provider told. -/
theorem keeps_findOrCreate (profile : Profile) (find create : Fate)
    (hK : (signInCustody env).Stable K) :
    (signInCustody env).Keeps i op (findOrCreate provider profile find create) K n
      (fun user s => user.idAt provider = some profile.id ∧ K s) fun _ => True := by
  unfold findOrCreate
  refine Custody.Keeps.andThen (keeps_aside (r := .findUser provider profile.id find)
    (R := fun answer => ∀ user, answer = .ok (some user) → user.idAt provider = some profile.id) hK
      ?_) (fun found => ?_) fun _ h => h.elim
  · refine fun s => ⟨fun user hanswer => ?_, s.users, s.drawn, rfl⟩
    exact find_eq_some (Fate.told_eq_ok.mp hanswer).2
  refine Custody.Upholds.assuming fun hfound => ?_
  refine Custody.Upholds.checkedThen (fun _ _ _ _ => ⟨rfl, trivial⟩) fun found hanswer => ?_
  cases found with
  | some user => exact Custody.Upholds.pure fun _ hs => ⟨rfl, hfound user hanswer, hs⟩
  | none =>
    refine Custody.Keeps.andThen (keeps_draw hK) (fun drawn => ?_) fun _ h => h.elim
    refine Custody.Keeps.andThen
      (keeps_aside (r := .createUser (provider.newUser drawn.text profile) create)
      (R := fun answer => ∀ user, answer = .ok user → user = provider.newUser drawn.text profile) hK
      fun s => create_aside s _ create) (fun created => ?_) fun _ h => h.elim
    refine Custody.Upholds.assuming fun hcreated => ?_
    refine Custody.Upholds.checked (fun user _ hanswer hs => ⟨rfl, ?_, hs⟩)
      fun _ _ _ _ => ⟨rfl, trivial⟩
    rw [hcreated user hanswer]
    exact idAt_newUser provider drawn.text profile

/-- A call has been told whose account it is, and has a token of the user with that account. -/
def State.HasToken (env : Environment) (s : State) (i : ℕ) (provider : Provider) (user : User)
    (jwt : String) : Prop :=
  ∃ id, s.HasHeard i provider id ∧ ∃ claims, jwt = env.sign claims ∧ claims.userId = user.id ∧
  claims.idAt provider = some id

theorem stable_hasToken (i : ℕ) (provider : Provider) (user : User) (jwt : String) :
    (signInCustody env).Stable fun s => s.HasToken env i provider user jwt := by
  rintro s s' hgrows ⟨id, hheard, hclaims⟩
  exact ⟨id, hheard.grows hgrows, hclaims⟩

/-- The token is one of the user, and the user the one that the provider told. -/
theorem upholds_handleOAuthCallback (code : String) (turns : Turns) (hn : n ≤ 1)
    (hK : (signInCustody env).Stable K) :
    (signInCustody env).Upholds i op (handleOAuthCallback env provider code turns)
      (fun s => (s.Has i fun value => value.provider = some provider.name) ∧ K s) n
      (fun result s h' => h' = 2 ∧ s.HasToken env i provider result.1 result.2 ∧ K s)
      fun _ h' => h' < 4 := by
  unfold handleOAuthCallback
  refine Custody.Upholds.bind (((upholds_exchangeCodeForToken code turns.token hn).frame hK).weaken
    (fun _ hs => hs) (fun _ _ _ hs => hs)
    fun _ _ h => h.1) fun accessToken h' => ?_
  refine (Custody.Upholds.assuming (p := h' = 2) (K := fun s => s.HasAsked i provider ∧ K s)
    fun hh => ?_).knowing fun _ hs =>
    ⟨hs.1.1, hs.1.2, hs.2⟩
  subst hh
  refine Custody.Keeps.andThen (R := fun profile s => s.HasHeard i provider profile.id ∧ K s)
    (F := fun _ => True)
    (((keeps_getUser accessToken turns.profile).frame hK).weaken (fun _ hs => hs)
      (fun _ _ _ hs => ⟨hs.1.1, hs.1.2, hs.2⟩)
      fun _ _ h => h.1) (fun profile => ?_) fun _ _ => by omega
  refine Custody.Keeps.andThen (keeps_findOrCreate profile turns.find turns.create
    ((stable_hasHeard i provider profile.id).and hK))
    (fun user => ?_) fun _ _ => by omega
  refine Custody.Upholds.assuming fun huser => ?_
  unfold generateJWT
  refine Custody.Keeps.andThen
    (R := fun jwt s => (∃ claims, jwt = env.sign claims ∧ claims.userId = user.id ∧
    claims.idAt provider = some profile.id) ∧ s.HasHeard i provider profile.id ∧
    K s) (F := fun _ => False) ?_ (fun jwt => ?_) fun _ h => h.elim
  · refine Custody.Keeps.andThen (keeps_draw ((stable_hasHeard i provider profile.id).and hK))
      (fun drawn => ?_) fun _ h => h.elim
    refine Custody.Upholds.pure
      fun s hs => ⟨rfl, ⟨provider.claims user drawn.text drawn.now, rfl, rfl, ?_⟩, hs⟩
    rw [idAt_claims, huser]
  · exact Custody.Upholds.pure fun s hs => ⟨rfl, ⟨profile.id, hs.2.1, hs.1⟩, hs.2.2⟩

/-- A call answers once, and what it answers has its reason. -/
theorem upholds_respond {response : Response} (hn : n < 4)
    (hK : ∀ s, K s → s.Justifies ⟨i, response, s.redis.now⟩) :
    (signInCustody env).Upholds i op (ask (.respond response)) K n (fun _ _ h' => h' = 4)
      fun _ _ => False := by
  refine Custody.Upholds.handOver (D := signInCustody env) (r := .respond response) 4 ?_
  rintro s stage hgenuine hs rfl _
  exact ⟨⟨.refl _, List.Subset.refl _, List.Subset.refl _⟩, hgenuine.send hn (hK s hs)⟩

/-- A value that has its reason is written, once by a call; it may be in Redis although the answer
is lost. -/
theorem upholds_setJson {name : String} {value : Value} {ttlMs : ℤ} (fate : Fate) (hn : n < 3)
    (hK : (signInCustody env).Stable K)
    (hvalue : ∀ s, K s → s.Explains env (s.redis.next i name value ttlMs)) :
    (signInCustody env).Upholds i op (setJson name value ttlMs fate) K n
      (fun _ s h' => h' = 3 ∧ s.HasWritten i name value ∧ K s)
      fun _ h' => h' = 3 := by
  unfold setJson
  refine Custody.Upholds.bind
    (S := fun answer s h' => h' = 3 ∧ (answer = .ok () → s.HasWritten i name value) ∧ K s)
    (Custody.Upholds.ask (D := signInCustody env) (r := .setJson name value ttlMs fate) (fun _ => 3)
      (S := fun answer s => (answer = .ok () → s.HasWritten i name value) ∧ K s) ?_ ?_)
        fun answer h' => ?_
  · exact fun answer s s' hgrows hs =>
      ⟨fun hanswer => (hs.1 hanswer).grows hgrows, hK s s' hgrows hs.2⟩
  · rintro s stage hgenuine hs rfl _
    have hput : s.Grows { s with redis := s.redis.put i name value ttlMs } :=
      ⟨grows_put s.redis i name value ttlMs, List.Subset.refl _, List.Subset.refl _⟩
    cases fate with
    | answered | lost =>
      refine ⟨hput, hgenuine.put hn (hvalue s hs), ?_, hK s _ hput hs⟩
      exact fun _ => ⟨_, List.mem_cons_self, rfl, rfl, rfl⟩
    | refused =>
      refine ⟨.refl s, hgenuine.advance (by omega), ?_, hs⟩
      intro hanswer
      cases hanswer
  · refine Custody.Upholds.assuming fun hh => ?_
    subst hh
    exact Custody.Upholds.checked (fun _ _ hanswer hs => ⟨rfl, hs.1 hanswer, hs.2⟩)
      fun _ _ _ _ => rfl

theorem relativePath_isRelative {returnTo : Option String} {path : String}
    (h : path ∈ relativePath returnTo) : isRelative path := by
  unfold relativePath at h
  cases htruthy : truthy returnTo with
  | none =>
    rw [htruthy] at h
    cases h
  | some text =>
    simp only [htruthy, Option.mem_ite_none_right, Option.mem_some_iff] at h
    obtain ⟨hrelative, rfl⟩ := h
    exact hrelative

theorem upholds_issue (provider : Provider) (returnTo : Option String) (fate : Fate) :
    (signInCustody env).Upholds i op (issue provider returnTo fate) (fun _ => True) 0
      (fun state s h' => h' = 3 ∧ ∃ issuedAt, s.HasWritten i (key provider state)
        (.state provider.name (sanitizeReturnTo returnTo) issuedAt))
      fun _ _ => True := by
  have htrue : (signInCustody env).Stable fun _ => True := Custody.stable_const True
  unfold issue
  refine Custody.Keeps.andThen (keeps_draw htrue) (fun drawn => ?_) fun _ _ => trivial
  refine Custody.Upholds.bind ((upholds_setJson fate (by omega) htrue ?_).weaken (fun _ hs => hs)
    (fun _ _ _ hs => hs) fun _ _ _ => trivial)
    fun _ h' => ?_
  · intro s _
    exact ⟨⟨provider, drawn.text, rfl, rfl⟩, fun path hpath => relativePath_isRelative hpath, rfl⟩
  · exact Custody.Upholds.pure fun s hs => ⟨hs.1, drawn.now, hs.2.1⟩

theorem plays_auth (provider : Provider) (returnTo : Option String) (fate : Fate) :
    (signInCustody env).Plays i op (dropResult (auth provider returnTo fate)) := by
  refine Custody.Upholds.dropResult ?_
  unfold auth
  refine Custody.Upholds.bind (upholds_issue provider _ fate) fun state h' => ?_
  refine Custody.Upholds.assuming fun hh => ?_
  subst hh
  refine (upholds_respond (by omega) ?_).weaken (fun _ hs => hs) (fun _ _ _ _ => trivial)
    fun _ _ _ => trivial
  rintro s ⟨issuedAt, w, hw, hwriter, hkey, hvalue⟩
  exact ⟨w, hw, hwriter, hkey, by rw [hvalue]; rfl⟩

/-- After the state was taken: the redirect names the code under which the token is. -/
theorem upholds_signIn (code : String) (turns : Turns) (verified : Verified) (hn : n ≤ 1) :
    (signInCustody env).Upholds i op (signIn env provider code turns verified)
      (fun s => s.Has i fun value => value.provider = some provider.name ∧
        value.returnTo = verified.returnTo) n (fun _ _ _ => True)
      fun _ h' => h' < 4 := by
  have hstable : (signInCustody env).Stable fun s => s.Has i
      fun value => value.provider = some provider.name ∧ value.returnTo = verified.returnTo :=
    stable_has i _
  unfold signIn
  refine Custody.Upholds.bind ((upholds_handleOAuthCallback code turns hn hstable).knowing
    fun s hs => ⟨hs.imp fun _ h => h.1, hs⟩) ?_
  rintro ⟨user, jwt⟩ h'
  refine Custody.Upholds.assuming fun hh => ?_
  subst hh
  have hstable' := (stable_hasToken i provider user jwt).and hstable
  refine Custody.Keeps.andThen (keeps_draw hstable') (fun drawn => ?_) fun _ h => h.elim
  refine Custody.Upholds.bind
    ((upholds_setJson turns.set (by omega) hstable' ?_).weaken (fun _ hs => hs) (fun _ _ _ hs => hs)
    fun _ _ h => by omega) fun _ h' => ?_
  · rintro s ⟨⟨id, ⟨told, htold, hcall, rfl, rfl, htime⟩, claims, rfl, hclaims⟩, -⟩
    exact ⟨⟨drawn.text, rfl⟩, rfl, told, htold, hcall, htime, claims, rfl, hclaims⟩
  · refine Custody.Upholds.assuming fun hh => ?_
    subst hh
    refine (upholds_respond (by omega) ?_).weaken (fun _ hs => hs) (fun _ _ _ _ => trivial)
      fun _ _ h => h.elim
    rintro s ⟨⟨w, hw, hwriter, hkey, hvalue⟩, -, htook⟩
    exact ⟨htook, w, hw, hwriter, hkey, by rw [hvalue]; rfl⟩

theorem plays_callback (provider : Provider) (code : String) (state : Option String)
    (turns : Turns) :
    (signInCustody env).Plays i op (dropResult (callback env provider code state turns)) := by
  refine Custody.Upholds.dropResult ?_
  unfold callback
  refine Custody.Upholds.tryCatch (E := fun _ h' => h' < 4) ?_ fun e h' => ?_
  · refine Custody.Upholds.bind
      ((upholds_consume provider state turns.take).weaken (fun _ hs => hs) (fun _ _ _ hs => hs)
      fun _ _ h => by omega) fun verified h' => ?_
    refine Custody.Upholds.assuming fun hh => ?_
    refine Custody.Upholds.checkedThen (fun _ _ _ _ => by omega) fun v hadmitted => ?_
    have hverified : verified = some v := by
      cases verified with
      | none => cases hadmitted
      | some _ => exact congrArg some (Except.ok.inj hadmitted)
    exact (upholds_signIn code turns v hh).knowing fun s hs => hs v hverified
  · refine Custody.Upholds.given (p := h' < 4) (fun _ hs => hs) fun hh => ?_
    refine (upholds_respond hh ?_).weaken (fun _ hs => hs) (fun _ _ _ _ => trivial)
      fun _ _ _ => trivial
    exact fun _ _ => trivial

/-- No state is kept under a key for tokens. -/
theorem key_ne_exchangeKey (provider : Provider) (state code : String) :
    key provider state ≠ exchangeKey code := by
  intro h
  have hchar := congrArg (fun text => text.toList[6]?) h
  simp [key, exchangeKey] at hchar

theorem exchange_of_keptUnder {value : Value} {code : String}
    (h : value.KeptUnder (exchangeKey code)) :
    ∃ token user, value = .exchange token user := by
  cases value with
  | state provider returnTo issuedAt =>
    obtain ⟨p, state, -, hkey⟩ := h
    exact absurd hkey.symm (key_ne_exchangeKey p state code)
  | exchange token user => exact ⟨token, user, rfl⟩

theorem plays_exchangeOAuthCode (code : Option String) (fate : Fate) :
    (signInCustody env).Plays i op (dropResult (exchangeOAuthCode code fate)) := by
  refine Custody.Upholds.dropResult ?_
  unfold exchangeOAuthCode
  cases truthy code with
  | none => exact Custody.Upholds.checked (fun _ _ _ _ => trivial) fun _ _ _ _ => trivial
  | some code =>
    refine Custody.Upholds.bind ((upholds_takeJson _ fate).weaken (fun _ hs => hs)
      (fun _ _ _ hs => hs) fun _ _ _ => trivial) fun stored h' => ?_
    refine Custody.Upholds.assuming fun hh => ?_
    subst hh
    cases stored with
    | none => exact Custody.Upholds.checked (fun _ _ _ _ => trivial) fun _ _ _ _ => trivial
    | some value =>
      refine (upholds_respond (by omega) ?_).weaken (fun _ hs => hs) (fun _ _ _ _ => trivial)
        fun _ _ _ => trivial
      intro s hs
      obtain ⟨hkept, htook⟩ := hs value rfl
      obtain ⟨token, user, rfl⟩ := exchange_of_keptUnder hkept
      refine State.Took.imp (Q := fun value => ∃ t u, value = .exchange t u ∧ some token = some t ∧
        some user = some u) htook ?_
      rintro _ rfl
      exact ⟨token, user, rfl, rfl, rfl⟩

theorem signInCustody_kept (env : Environment) : (signInCustody env).Kept where
  refl := State.Grows.refl
  programs i op _ := by
    cases op with
    | auth provider returnTo set => cases provider <;> exact plays_auth _ returnTo set
    | callback provider code state turns =>
      cases provider <;> exact plays_callback _ code state turns
    | exchangeOAuthCode code take => exact plays_exchangeOAuthCode code take
    | elsewhere users =>
      have hstable : (signInCustody env).Stable fun _ => True := Custody.stable_const True
      refine Custody.Upholds.dropResult ?_
      exact (keeps_aside (r := .replaceUsers users) (R := fun _ => True) hstable
        fun s => ⟨trivial, users, s.drawn, rfl⟩).weaken
        (fun _ hs => hs) (fun _ _ _ _ => trivial) fun _ _ _ => trivial
  passes n s stage hgenuine _ := by
    show s.Grows { s with redis := if n = 0 then s.redis.emptied else s.redis.wait n } ∧
      Genuine env { s with redis := if n = 0 then s.redis.emptied else s.redis.wait n } stage
    split
    · have hgrows : OneTimeValues.Grows s.redis s.redis.emptied :=
        ⟨le_rfl, List.Subset.refl _, List.Subset.refl _⟩
      refine ⟨⟨hgrows, List.Subset.refl _, List.Subset.refl _⟩, ?_⟩
      exact hgenuine.idle hgenuine.redis.emptied hgrows rfl rfl s.users s.drawn
    · have hgrows := grows_wait s.redis n
      refine ⟨⟨hgrows, List.Subset.refl _, List.Subset.refl _⟩, ?_⟩
      exact hgenuine.idle (hgenuine.redis.wait n) hgrows rfl rfl s.users s.drawn

end Programs

section Results

/-- The link whose state a call had taken before it asked a provider. -/
structure State.Opens (s : State) (link : Written String Value) (a : Asked) (time : ℤ) : Prop where
  asked : a ∈ s.asked
  written : link ∈ s.redis.written
  provider : link.value.provider = some a.provider.name
  taken : ⟨a.call, link, time⟩ ∈ s.redis.taken
  during : link.time ≤ time ∧ time < link.time + TTL_MS
  before : time ≤ a.time

/-- The value with a token that a call has taken and answered with, and that another call wrote
after it had asked a provider. -/
structure State.Yields (s : State) (a : Asked) (stored : Written String Value) (r : Sent)
    (time : ℤ) : Prop where
  asked : a ∈ s.asked
  sent : r ∈ s.sent
  written : stored ∈ s.redis.written
  writer : stored.writer = a.call
  after : a.time ≤ stored.time
  taken : ⟨r.call, stored, time⟩ ∈ s.redis.taken
  during : stored.time ≤ time ∧ time < stored.time + exchangeTtlMs
  before : time ≤ r.time

variable {env : Environment} {s : State} {stage : ℕ → ℕ}
  {link stored stored' : Written String Value} {a a' : Asked} {r r' : Sent}
  {time time' : ℤ} {token : Option String} {user : Option User}

theorem Genuine.opens (h : Genuine env s stage) (ha : a ∈ s.asked) :
    ∃ link time, s.Opens link a time := by
  obtain ⟨⟨taker, link, time⟩, ht, rfl, hbefore, hprovider⟩ := h.asked a ha
  obtain ⟨hwritten, hfrom, huntil, -⟩ := h.redis.taken _ ht
  obtain ⟨-, hexplained⟩ := h.written link hwritten
  have hlasts : link.expiresAt = link.time + TTL_MS := by
    cases hvalue : link.value with
    | state provider returnTo issuedAt =>
      rw [hvalue] at hexplained
      exact hexplained.2
    | exchange token user =>
      rw [hvalue] at hprovider
      cases hprovider
  exact ⟨link, time, ha, hwritten, hprovider, ht, ⟨hfrom, hlasts ▸ huntil⟩, hbefore⟩

/-- What was taken, was taken by one call. -/
theorem Genuine.eq_of_taken (h : Genuine env s stage) {call call' : ℕ}
    (ht : ⟨call, link, time⟩ ∈ s.redis.taken) (ht' : ⟨call', link, time'⟩ ∈ s.redis.taken) :
    call = call' :=
  congrArg Taken.taker (List.inj_on_of_nodup_map h.redis.once ht ht' rfl)

theorem Genuine.opens_unique (h : Genuine env s stage) (ha : s.Opens link a time)
    (ha' : s.Opens link a' time') : a = a' :=
  h.askers.eq_of_call ha.asked ha'.asked (h.eq_of_taken ha.taken ha'.taken)

theorem Genuine.yields (h : Genuine env s stage) (hr : r ∈ s.sent)
    (hresponse : r.response = .token token user) :
    ∃ a stored time, s.Yields a stored r time ∧
      ∃ told ∈ s.told, told.call = a.call ∧ told.provider = a.provider ∧
      ∃ claims u, token = some (env.sign claims) ∧ user = some u ∧ claims.userId = u.id ∧
        claims.idAt told.provider = some told.id := by
  have hjustified := h.sent r hr
  unfold State.Justifies at hjustified
  rw [hresponse] at hjustified
  obtain ⟨⟨taker, stored, time⟩, ht, rfl, hbefore, tokenText, u, hvalue, rfl, rfl⟩ := hjustified
  obtain ⟨hwritten, hfrom, huntil, -⟩ := h.redis.taken _ ht
  obtain ⟨-, hexplained⟩ := h.written stored hwritten
  dsimp only at hvalue
  rw [hvalue] at hexplained
  obtain ⟨hlasts, told, htold, hcall, htime, claims, rfl, hid, hidAt⟩ := hexplained
  obtain ⟨a, ha, hasked, hprovider, hafter⟩ := h.told told htold
  refine ⟨a, stored, time, ⟨ha, hr, hwritten, ?_, hafter.trans htime, ht, ⟨hfrom, hlasts ▸ huntil⟩,
    hbefore⟩, told, htold, hasked.symm, ?_,
    claims, u, rfl, rfl, hid, hidAt⟩
  · rw [hasked, hcall]
  · exact hprovider.symm

theorem Genuine.yields_unique (h : Genuine env s stage) (hr : s.Yields a stored r time)
    (hr' : s.Yields a stored' r' time') : r = r' := by
  have hsame : stored = stored' :=
    h.writers.eq_of_call hr.written hr'.written (hr.writer.trans hr'.writer.symm)
  subst hsame
  exact h.senders.eq_of_call hr.sent hr'.sent (h.eq_of_taken hr.taken hr'.taken)

theorem destination_of_isRelative {returnTo : Option String}
    (h : ∀ path ∈ returnTo, isRelative path) :
    destination returnTo = returnTo.getD "/dashboard" := by
  cases returnTo with
  | none => rfl
  | some path =>
    have hrelative := h path rfl
    have htruthy : truthy (some path) = some path := by
      have hnonempty : path ≠ "" := by
        rintro rfl
        exact absurd hrelative (by decide +kernel)
      rw [truthy, Option.filter_eq_some_iff]
      simpa using hnonempty
    simp only [isRelative, Bool.and_eq_true] at hrelative
    simp only [destination, htruthy, hrelative.1.1, hrelative.1.2, Bool.and_self, if_true,
      Option.getD_some]

/-- A call answers with a redirect. -/
structure State.Returns (s : State) (link stored : Written String Value) (r : Sent)
    (provider : Provider) (code : String) (returnTo : Option String) : Prop where
  sent : r ∈ s.sent
  written : link ∈ s.redis.written ∧ stored ∈ s.redis.written
  issued : link.value.provider = some provider.name ∧ link.value.returnTo = returnTo
  taken : ∃ time, ⟨r.call, link, time⟩ ∈ s.redis.taken
  writer : stored.writer = r.call
  kept : stored.key = exchangeKey code ∧ stored.value.token.isSome

theorem Genuine.relative (h : Genuine env s stage) (hlink : link ∈ s.redis.written) :
    ∀ path ∈ link.value.returnTo, isRelative path := by
  obtain ⟨-, hexplained⟩ := h.written link hlink
  cases hvalue : link.value with
  | state provider returnTo issuedAt =>
    rw [hvalue] at hexplained
    exact hexplained.1
  | exchange token user => exact fun _ hpath => nomatch hpath

theorem Genuine.returns (h : Genuine env s stage) (hr : r ∈ s.sent) {provider : Provider}
    {code : String} {returnTo : Option String}
    (hresponse : r.response = .callback provider code returnTo) :
    ∃ link stored, s.Returns link stored r provider code returnTo := by
  have hjustified := h.sent r hr
  unfold State.Justifies at hjustified
  rw [hresponse] at hjustified
  obtain ⟨⟨⟨taker, link, time⟩, ht, rfl, -, hprovider, hreturnTo⟩, stored, hstored, hwriter, hkey,
    htoken⟩ := hjustified
  exact ⟨link, stored, hr, ⟨(h.redis.taken _ ht).1, hstored⟩, ⟨hprovider, hreturnTo⟩, ⟨time, ht⟩,
    hwriter, hkey, htoken⟩

/-- The code goes to a provider only after a state for this provider was taken that had been issued
at most ten minutes before; and of the calls that send a code, no two have taken one state. -/
theorem states_consumed_once (env : Environment) {now : ℤ} {users : Table userColumns}
    {tr : Trace State Operation Request Answer} {c : Config State Operation Request Answer}
    (hrun : (service env).Runs (State.opened now users) tr c) :
    (∀ a ∈ c.state.asked, ∃ link time, c.state.Opens link a time) ∧
      ∀ link a a' time time', c.state.Opens link a time → c.state.Opens link a' time' → a = a' := by
  obtain ⟨stage, hgenuine⟩ :=
    (signInCustody_kept env).run hrun (fun t _ => StoreService.meets_anything t)
      (genuine_opened now users)
  exact ⟨fun _ ha => hgenuine.opens ha, fun _ _ _ _ _ ha ha' => hgenuine.opens_unique ha ha'⟩

/-- Every token that is handed out was stored at most a minute before by a call that had asked a
provider, and is the token of a user with the account that the provider told this call; and for each
time that a provider is asked a token is handed out once at most. -/
theorem tokens_handed_out_once (env : Environment) {now : ℤ} {users : Table userColumns}
    {tr : Trace State Operation Request Answer} {c : Config State Operation Request Answer}
    (hrun : (service env).Runs (State.opened now users) tr c) :
    (∀ r ∈ c.state.sent, ∀ token user, r.response = .token token user → ∃ a stored time,
      c.state.Yields a stored r time ∧
      ∃ told ∈ c.state.told, told.call = a.call ∧ told.provider = a.provider ∧
        ∃ claims u, token = some (env.sign claims) ∧ user = some u ∧ claims.userId = u.id ∧
          claims.idAt told.provider = some told.id) ∧
      ∀ a stored stored' r r' time time', c.state.Yields a stored r time →
        c.state.Yields a stored' r' time' → r = r' := by
  obtain ⟨stage, hgenuine⟩ :=
    (signInCustody_kept env).run hrun (fun t _ => StoreService.meets_anything t)
      (genuine_opened now users)
  exact ⟨fun _ hr _ _ hresponse => hgenuine.yields hr hresponse, fun _ _ _ _ _ _ _ hr hr' =>
    hgenuine.yields_unique hr hr'⟩

/-- A callback leads to the path that was asked for when its state was issued, which the page goes
on to as it is, and with a code under which a token was stored in this call. -/
theorem redirects_lead_back (env : Environment) {now : ℤ} {users : Table userColumns}
    {tr : Trace State Operation Request Answer} {c : Config State Operation Request Answer}
    (hrun : (service env).Runs (State.opened now users) tr c) :
    ∀ r ∈ c.state.sent, ∀ provider code returnTo, r.response = .callback provider code returnTo →
      (∃ link stored, c.state.Returns link stored r provider code returnTo) ∧
      destination returnTo = returnTo.getD "/dashboard" := by
  obtain ⟨stage, hgenuine⟩ :=
    (signInCustody_kept env).run hrun (fun t _ => StoreService.meets_anything t)
      (genuine_opened now users)
  intro r hr provider code returnTo hresponse
  obtain ⟨link, stored, hreturns⟩ := hgenuine.returns hr hresponse
  refine ⟨⟨link, stored, hreturns⟩, destination_of_isRelative ?_⟩
  rw [← hreturns.issued.2]
  exact hgenuine.relative hreturns.written.1

end Results

end VeriAgentPay.OAuthSignIns

namespace VeriAgentPay.Devnet
open InterleavedPrograms OAuthSignIns

def signInEnvironment : OAuthSignIns.Environment where
  random n := s!"random{n}"
  sign claims := s!"token of {claims.userId}"
  configured _ := true

def goodReply {α : Type} (data : α) : Except Backend.Failure (Reply α) :=
  .ok ⟨true, "", true, "", data⟩

def annsTurns : Turns := ⟨.answered, goodReply "access", goodReply ⟨"discord-ann", "ann", none⟩,
  .answered, .answered, .answered⟩

/-- A link is opened twice, and its token is fetched twice: the second try is refused in both
cases. -/
def annsSignIn : List (Move OAuthSignIns.Operation) :=
  [.start 0 (.auth .discord (some "/wallet") .answered)] ++ List.replicate 3 (.step 0) ++
  [.start 1 (.callback .discord "code" (some "random0") annsTurns),
    .start 2 (.callback .discord "code" (some "random0") annsTurns), .step 1,
    .step 2, .step 2] ++ List.replicate 9 (.step 1) ++
  [.start 3 (.exchangeOAuthCode (some "random3") .answered),
    .start 4 (.exchangeOAuthCode (some "random3") .answered), .step 4, .step 3, .step 4]

def annsUser : OAuthSignIns.User := ⟨"random1", some "ann", none, some "discord-ann", none, none⟩

theorem ann_signs_in :
    ∃ tr c, (OAuthSignIns.service signInEnvironment).Runs (State.opened 0 .empty) tr c ∧
      c.state.asked.map Asked.call = [1] ∧
      c.state.sent.map (fun r => (r.call, r.response)) =
        [(4, .token (some "token of random1") (some annsUser)),
          (1, .callback .discord "random3" (some "/wallet")),
          (2, .authError "This sign-in link is invalid or has expired. Please start again."),
            (0, .authorize .discord "random0")] := by
  have hmoves :
      ((OAuthSignIns.service signInEnvironment).moves StoreService.anything
        (Config.initial (State.opened 0 .empty)) annsSignIn).map
      (fun c => (c.state.asked.map Asked.call, c.state.sent.map fun r => (r.call, r.response))) =
      some ([1], [(4, .token (some "token of random1") (some annsUser)),
        (1, .callback .discord "random3" (some "/wallet")),
        (2, .authError "This sign-in link is invalid or has expired. Please start again."),
        (0, .authorize .discord "random0")]) := by
    decide +kernel
  obtain ⟨tr, c, hrun, -, -, hfacts⟩ := StoreService.runs_of_computed hmoves
  obtain ⟨hasked, hsent⟩ := Prod.mk.inj hfacts
  exact ⟨tr, c, hrun, hasked, hsent⟩

theorem states_consumed_once_devnet :
    ∃ tr c, (OAuthSignIns.service signInEnvironment).Runs (State.opened 0 .empty) tr c ∧
      ∃ a ∈ c.state.asked, ∃ link time,
      c.state.Opens link a time := by
  obtain ⟨tr, c, hrun, hasked, -⟩ := ann_signs_in
  obtain ⟨a, ha, -⟩ := List.mem_map.mp (hasked ▸ List.mem_singleton_self 1)
  exact ⟨tr, c, hrun, a, ha, (states_consumed_once signInEnvironment hrun).1 a ha⟩

theorem tokens_handed_out_once_devnet :
    ∃ tr c, (OAuthSignIns.service signInEnvironment).Runs (State.opened 0 .empty) tr c ∧
      ∃ r ∈ c.state.sent,
      r.response = .token (some "token of random1") (some annsUser) ∧
      ∃ a stored time, c.state.Yields a stored r time := by
  obtain ⟨tr, c, hrun, -, hsent⟩ := ann_signs_in
  obtain ⟨r, hr, hfacts⟩ := List.mem_map.mp (hsent ▸ List.mem_cons_self)
  have hresponse : r.response = .token (some "token of random1") (some annsUser) :=
    congrArg Prod.snd hfacts
  obtain ⟨a, stored, time, hyields, -⟩ :=
    (tokens_handed_out_once signInEnvironment hrun).1 r hr _ _ hresponse
  exact ⟨tr, c, hrun, r, hr, hresponse, a, stored, time, hyields⟩

theorem redirects_lead_back_devnet :
    ∃ tr c, (OAuthSignIns.service signInEnvironment).Runs (State.opened 0 .empty) tr c ∧
      ∃ r ∈ c.state.sent,
      r.response = .callback .discord "random3" (some "/wallet") ∧
        ∃ link stored, c.state.Returns link stored r .discord "random3" (some "/wallet") := by
  obtain ⟨tr, c, hrun, -, hsent⟩ := ann_signs_in
  obtain ⟨r, hr, hfacts⟩ := List.mem_map.mp (hsent ▸ List.mem_cons_of_mem _ List.mem_cons_self)
  have hresponse : r.response = .callback .discord "random3" (some "/wallet") :=
    congrArg Prod.snd hfacts
  exact ⟨tr, c, hrun, r, hr, hresponse,
    (redirects_lead_back signInEnvironment hrun r hr _ _ _ hresponse).1⟩

end VeriAgentPay.Devnet
