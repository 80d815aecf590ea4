import VeriAgentPay.KeyedTables
import VeriAgentPay.LabelledRuns
import VeriAgentPay.PaymentLinkServices

/-!
# Notification rooms

A socket hears what is emitted to the rooms it is in. There is one room for each text: for the ids
of users, of which a verified access token speaks, and for wallet addresses, which a client just
states.
-/

namespace VeriAgentPay.NotificationRooms
open KeyedTables LabelledRuns
open FixedWidth (Bytes)
open Client (JsNumber)
open Backend (truthy)

section Values

/-- What a client can send. -/
inductive Value where
  | null
  | bool (value : Bool)
  | number (value : JsNumber)
  | string (value : String)
  | binary (bytes : Bytes)
  | array (items : List Value)
  | object (members : List (String × Value))

def Value.isTruthy : Value → Bool
  | .null => false
  | .bool value => value
  | .number value => value ≠ .notANumber && value ≠ .finite 0
  | .string value => value ≠ ""
  | .binary _ | .array _ | .object _ => true

/-- `value?.name`. Of members of one name the last one counts. -/
def Value.member (name : String) : Option Value → Option Value
  | some (.object members) => (members.reverse.find? fun entry => entry.1 = name).map (·.2)
  | _ => none

structure AccessPayload where
  userId : Option String
  jti : Option String
  /-- In seconds. -/
  exp : Option ℕ

structure Host where
  /-- `String(value)` of a number. -/
  numberText : JsNumber → String
  /-- `buffer.toString()`. -/
  bufferText : Bytes → String
  /-- `jwt.verify` under the secret of access tokens, by the time in seconds. -/
  verify : ℕ → String → Option AccessPayload

variable (h : Host)

mutual

/-- The text of a value in a template; an object whose `toString` is no function has none. -/
def text : Value → Option String
  | .null => some "null"
  | .bool value => some (if value then "true" else "false")
  | .number value => some (h.numberText value)
  | .string value => some value
  | .binary bytes => some (h.bufferText bytes)
  | .array items => (itemTexts items).map (String.intercalate ",")
  | .object members => if members.any fun entry =>
    entry.1 = "toString" then none else some "[object Object]"

def itemTexts : List Value → Option (List String)
  | [] => some []
  | .null :: rest => (itemTexts rest).map ("" :: ·)
  | item :: rest => do
    let itemText ← text item
    let restTexts ← itemTexts rest
    pure (itemText :: restTexts)

end

end Values

section Gateway

inductive QueryValue where
  | one (value : String)
  | many (values : List String)

def QueryValue.text : QueryValue → String
  | .one value => value
  | .many values => String.intercalate "," values

structure Handshake where
  /-- The header `x-wallet-address`. -/
  walletAddress : Option String
  /-- The parameter `address` of the query. -/
  address : Option QueryValue
  auth : Option Value

structure Socket where
  id : String
  rooms : List String
  /-- Whose valid access token the socket presented when it connected. No code reads this. -/
  presented : Option String

def Socket.join (client : Socket) (room : String) : Socket :=
  { client with rooms := client.rooms.insert room }

structure Delivery where
  userIdOrAddress : String
  socket : Socket
  event : String
  payload : Value

structure Revocation where
  jti : String
  expiresAt : ℕ

structure State where
  /-- In seconds. -/
  now : ℕ
  sockets : Keyed Socket.id
  /-- The keys `jwt:revoked:` in Redis. -/
  revoked : List Revocation
  deliveries : List Delivery

def State.initial (now : ℕ) : State := ⟨now, .empty, [], []⟩

variable (h : Host)

def State.isRevoked (s : State) (jti : String) : Bool :=
  s.revoked.any fun entry => entry.jti = jti && s.now < entry.expiresAt

/-- Whom `JwtAuthGuard` takes the holder of a token for. -/
def authenticated (s : State) (token : String) : Option String := do
  let decoded ← h.verify s.now token
  let userId ← truthy decoded.userId
  let jti ← truthy decoded.jti
  if s.isRevoked jti then none else some userId

namespace NotificationsGateway

def roomOf (address : String) : String := "user:" ++ address

def connectionAddress (handshake : Handshake) : String :=
  match truthy handshake.walletAddress with
  | some address => address
  | none =>
    match handshake.address with
    | some (.many values) => (QueryValue.many values).text
    | some (.one "") | none => "anonymous"
    | some (.one address) => address

/-- `client.handshake.auth?.token`, where it is a text that is not empty. -/
def accessToken (handshake : Handshake) : Option String :=
  match Value.member "token" handshake.auth with
  | some (.string token) => truthy (some token)
  | _ => none

/-- The user of the verified token of a handshake. -/
def tokenUser (now : ℕ) (handshake : Handshake) : Option String := do
  let token ← accessToken handshake
  let payload ← h.verify now token
  truthy payload.userId

def handleConnection (now : ℕ) (client : Socket) (handshake : Handshake) : Socket :=
  let client := client.join (roomOf (connectionAddress handshake))
  match tokenUser h now handshake with
  | some userId => client.join (roomOf userId)
  | none => client

/-- The room that a message names. -/
def requestedAddress (data : Option Value) : Option String := do
  let address ← (Value.member "address" data).filter Value.isTruthy
  text h address

def handleJoinRoom (data : Option Value) (client : Socket) : Socket :=
  match requestedAddress h data with
  | some address => client.join (roomOf address)
  | none => client

theorem id_handleJoinRoom (data : Option Value) (client : Socket) :
    (handleJoinRoom h data client).id = client.id := by
  unfold handleJoinRoom
  split <;> rfl

def emitToUser (s : State) (userIdOrAddress event : String) (payload : Value) : List Delivery :=
  (s.sockets.rows.filter fun client => roomOf userIdOrAddress ∈ client.rooms).map fun client =>
    ⟨userIdOrAddress, client, event, payload⟩

end NotificationsGateway

open NotificationsGateway

inductive Event where
  | connect (id : String) (handshake : Handshake)
  | joinRoom (id : String) (data : Option Value)
  | disconnect (id : String)
  | emit (userIdOrAddress event : String) (payload : Value)
  | logout (token : String)
  | pass (seconds : ℕ)

/-- A new socket of the server, with what it presents. -/
def newSocket (s : State) (id : String) (handshake : Handshake) : Socket :=
  ⟨id, [], (accessToken handshake).bind (authenticated h s)⟩

def logout (s : State) (token : String) : State :=
  match h.verify s.now token with
  | some ⟨_, some jti, some exp⟩ =>
    if jti = "" ∨ exp = 0 then s
      else { s with revoked := ⟨jti, s.now + max 1 (exp - s.now)⟩ :: s.revoked }
  | _ => s

/-- No two sockets have one id. -/
def step (s : State) : Event → State
  | .connect id handshake =>
    match s.sockets.insert (handleConnection h s.now (newSocket h s id handshake) handshake) with
    | some sockets => { s with sockets := sockets }
    | none => s
  | .joinRoom id data =>
    { s with
      sockets := s.sockets.update (fun client => client.id = id) (handleJoinRoom h data)
        (id_handleJoinRoom h data) }
  | .disconnect id => { s with sockets := s.sockets.delete fun client => client.id = id }
  | .emit userIdOrAddress event payload =>
    { s with deliveries := emitToUser s userIdOrAddress event payload ++ s.deliveries }
  | .logout token => logout h s token
  | .pass seconds => { s with now := s.now + seconds }

end Gateway

section Rooms
open NotificationsGateway
variable {h : Host} {users : Set String} {s : State} {client : Socket} {a b : String}

theorem roomOf_inj : roomOf a = roomOf b ↔ a = b := by
  rw [roomOf, roomOf, String.append_right_inj]

/-- A socket is in the rooms of no other user than the one it proved to be. -/
def Socket.Owns (users : Set String) (client : Socket) : Prop :=
  ∀ u ∈ users, roomOf u ∈ client.rooms → client.presented = some u

theorem owns_join : (client.join (roomOf a)).Owns users ↔ client.Owns users ∧
    (a ∈ users → client.presented = some a) := by
  constructor
  · intro howns
    refine ⟨fun u hu hroom => howns u hu (List.mem_insert_of_mem hroom),
      fun ha => howns a ha List.mem_insert_self⟩
  · rintro ⟨howns, ha⟩ u hu hroom
    rcases List.mem_insert_iff.mp hroom with hsame | hroom
    · obtain rfl := roomOf_inj.mp hsame
      exact ha hu
    · exact howns u hu hroom

theorem id_handleConnection (now : ℕ) (client : Socket) (handshake : Handshake) :
    (handleConnection h now client handshake).id = client.id := by
  unfold handleConnection
  dsimp only
  split <;> rfl

theorem owns_handleConnection {now : ℕ} {handshake : Handshake} (hnew : client.rooms = []) :
    (handleConnection h now client handshake).Owns users ↔
      (connectionAddress handshake ∈ users →
        client.presented = some (connectionAddress handshake)) ∧
        ∀ u ∈ tokenUser h now handshake, u ∈ users → client.presented = some u := by
  have hnone : client.Owns users := by
    intro u _ hroom
    simp [hnew] at hroom
  unfold handleConnection
  dsimp only
  cases tokenUser h now handshake with
  | none => simp [owns_join, hnone]
  | some u =>
    rw [owns_join, owns_join]
    simp [hnone, Socket.join]

theorem owns_handleJoinRoom {data : Option Value} (howns : client.Owns users) :
    (handleJoinRoom h data client).Owns users ↔
    ∀ address ∈ requestedAddress h data, address ∈ users → client.presented = some address := by
  unfold handleJoinRoom
  cases requestedAddress h data with
  | none => simp [howns]
  | some address => simp [owns_join, howns]

/-- The sockets in the room of a user, and those that something was delivered to for that user,
proved to be that user. -/
structure Private (users : Set String) (s : State) : Prop where
  rooms : ∀ client ∈ s.sockets.rows, client.Owns users
  deliveries : ∀ delivery ∈ s.deliveries, delivery.userIdOrAddress ∈ users →
    delivery.socket.presented = some delivery.userIdOrAddress

/-- The address that a client states is the id of a user only if the client proved to be that user,
and a token that is verified passes the other checks of `JwtAuthGuard` too. -/
def Meets (h : Host) (users : Set String) (s : State) : Event → Prop
  | .connect id handshake => (∀ client ∈ s.sockets.rows, client.id ≠ id) →
      (connectionAddress handshake ∈ users →
        (accessToken handshake).bind (authenticated h s) = some (connectionAddress handshake)) ∧
      ∀ u ∈ tokenUser h s.now handshake, u ∈ users →
      (accessToken handshake).bind (authenticated h s) = some u
  | .joinRoom id data => ∀ client ∈ s.sockets.rows, client.id = id →
      ∀ address ∈ requestedAddress h data, address ∈ users → client.presented = some address
  | .disconnect _ | .emit .. | .logout _ | .pass _ => True

theorem private_initial (users : Set String) (now : ℕ) : Private users (State.initial now) := by
  constructor
  · intro client hclient
    simp [State.initial, Keyed.empty] at hclient
  · intro delivery hdelivery
    simp [State.initial] at hdelivery

theorem private_connect (hs : Private users s) {id : String} {handshake : Handshake} :
    Private users (step h s (.connect id handshake)) ↔ Meets h users s (.connect id handshake) := by
  have hid := @id_handleConnection h s.now (newSocket h s id handshake) handshake
  simp only [step, Meets]
  cases hinsert :
    s.sockets.insert (handleConnection h s.now (newSocket h s id handshake) handshake) with
  | none =>
    obtain ⟨client, hclient, hsame⟩ := Keyed.insert_eq_none.mp hinsert
    exact ⟨fun _ hfresh => absurd (hsame.trans hid) (hfresh client hclient), fun _ => hs⟩
  | some sockets =>
    have hfresh : ∀ client ∈ s.sockets.rows, client.id ≠ id := by
      intro client hclient hsame
      have hnone := Keyed.insert_eq_none.mpr ⟨client, hclient, hsame.trans hid.symm⟩
      rw [hnone] at hinsert
      cases hinsert
    have howns := @owns_handleConnection h users (newSocket h s id handshake) s.now handshake rfl
    constructor
    · intro hprivate _
      exact howns.mp (hprivate.rooms _ ((Keyed.mem_insert hinsert).mpr (.inr rfl)))
    · intro hmeets
      refine ⟨?_, hs.deliveries⟩
      intro client hclient
      rcases (Keyed.mem_insert hinsert).mp hclient with hold | rfl
      · exact hs.rooms client hold
      · exact howns.mpr (hmeets hfresh)

theorem private_joinRoom (hs : Private users s) {id : String} {data : Option Value} :
    Private users (step h s (.joinRoom id data)) ↔ Meets h users s (.joinRoom id data) := by
  simp only [step, Meets]
  constructor
  · intro hprivate client hclient hid
    have hjoined :=
      (Keyed.mem_update (p := fun row : Socket => row.id = id) (id_handleJoinRoom h data)).mpr
      ⟨client, hclient, if_pos (decide_eq_true hid)⟩
    exact (owns_handleJoinRoom (hs.rooms client hclient)).mp (hprivate.rooms _ hjoined)
  · intro hmeets
    refine ⟨?_, hs.deliveries⟩
    intro client hclient
    rcases Keyed.of_mem_update (id_handleJoinRoom h data) hclient with ⟨hold, -⟩ | ⟨old,
      hold, hid, rfl⟩
    · exact hs.rooms client hold
    · exact (owns_handleJoinRoom (hs.rooms old hold)).mpr (hmeets old hold (by simpa using hid))

theorem private_emit (hs : Private users s) (userIdOrAddress event : String) (payload : Value) :
    Private users (step h s (.emit userIdOrAddress event payload)) := by
  refine ⟨hs.rooms, ?_⟩
  intro delivery hdelivery hu
  rcases List.mem_append.mp hdelivery with hnew | hold
  · obtain ⟨client, hclient, rfl⟩ := List.mem_map.mp hnew
    obtain ⟨hclient, hroom⟩ := List.mem_filter.mp hclient
    exact hs.rooms client hclient _ hu (by simpa using hroom)
  · exact hs.deliveries delivery hold hu

theorem private_step (hs : Private users s) (e : Event) :
    Private users (step h s e) ↔ Meets h users s e := by
  cases e with
  | connect id handshake => exact private_connect hs
  | joinRoom id data => exact private_joinRoom hs
  | disconnect id =>
    refine iff_of_true ⟨?_, hs.deliveries⟩ trivial
    exact fun client hclient => hs.rooms client (Keyed.mem_delete.mp hclient).1
  | emit userIdOrAddress event payload =>
    exact iff_of_true (private_emit hs userIdOrAddress event payload) trivial
  | logout token =>
    refine iff_of_true ?_ trivial
    simp only [step, logout]
    split
    · split_ifs
      · exact hs
      · exact ⟨hs.rooms, hs.deliveries⟩
    · exact hs
  | pass seconds => exact iff_of_true ⟨hs.rooms, hs.deliveries⟩ trivial

/-- What is emitted for a user reaches that user alone, in a whole run, if and only if no client
states the id of a user whose token it has not presented, and none presents a revoked token. -/
theorem notifications_reach_their_user_iff (h : Host) (users : Set String) (now : ℕ)
    (events : List Event) :
    Throughout (step h) (fun s e => Private users (step h s e)) (State.initial now) events ↔
      Throughout (step h) (Meets h users) (State.initial now) events :=
  throughout_invariant_iff (fun _ e hs => private_step hs e) (private_initial users now)

end Rooms

section Devnet

def annId : String := "5d3c0a4e-8a6f-4a0e-9b0f-2c6f1f5d7e01"

/-- No token verifies. -/
def tokenlessHost : Host := ⟨fun _ => "0", fun _ => "", fun _ _ => none⟩

/-- A client without a token asks for the room of Ann's id, and then there is news for her. -/
def overheard : List Event :=
  [.connect "socket" ⟨none, none, none⟩,
    .joinRoom "socket" (some (.object [("address", .string annId)])),
    .emit annId "notification:new" (.object [("title", .string "Payment received")])]

/-- The client, which presented nothing, hears of it. -/
theorem news_of_others_overheard :
    ((overheard.foldl (step tokenlessHost) (State.initial 0)).deliveries.map fun delivery =>
      (delivery.userIdOrAddress, delivery.event, delivery.socket.id, delivery.socket.presented)) =
        [(annId, "notification:new", "socket", none)] ∧
      ¬Throughout (step tokenlessHost) (fun s e => Private {annId} (step tokenlessHost s e))
        (State.initial 0) overheard := by
  refine ⟨by decide, ?_⟩
  rintro ⟨-, -, ⟨-, hdeliveries⟩, -⟩
  have hpresented := hdeliveries _ (List.mem_cons_self ..) rfl
  cases hpresented

end Devnet

end VeriAgentPay.NotificationRooms
