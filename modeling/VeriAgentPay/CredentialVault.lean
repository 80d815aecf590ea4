import VeriAgentPay.BackendStore
import VeriAgentPay.ScheduledPrograms

/-!
# The credential vault

The coordinates of a passkey are sealed under a key of their own, which is wrapped under a versioned
key of the server. Stores, rotations and migrations read the record and write it later; what the
vault reads when they have run side by side.
-/

namespace VeriAgentPay.CredentialVault
open InterleavedPrograms
open InterleavedPrograms.Fallible (checked check dropResult)
open Backend (Failure)

section Services

structure CredentialPayload where
  userId : String
  publicKeyX : String
  publicKeyY : String
  walletAddress : Option String
  deriving DecidableEq

/-- What is encrypted: a data encryption key, or a payload as JSON. -/
inductive Plaintext where
  | dek (key : String)
  | payload (p : CredentialPayload)
  deriving DecidableEq

/-- `aes-256-gcm`, and the versions of the key encryption key; all of them are loaded. -/
structure Cipher (γ : Type) where
  kek : ℕ → String
  encrypt : String → String → Plaintext → γ × String
  decrypt : String → String → γ → String → Option Plaintext
  decrypt_encrypt : ∀ key iv plaintext, decrypt key iv (encrypt key iv plaintext).1
    (encrypt key iv plaintext).2 = some plaintext

structure WrappedDek (γ : Type) where
  iv : String
  ciphertext : γ
  tag : String
  deriving DecidableEq

/-- The row of one credential id. -/
structure CredentialRecord (γ : Type) where
  id : String
  userId : String
  encryptedPayload : Option γ
  wrappedDek : Option (WrappedDek γ)
  kekVersion : ℕ
  iv : Option String
  authTag : Option String
  publicKeyX : Option String
  publicKeyY : Option String
  counter : ℕ
  deriving DecidableEq

/-- The columns that an encryption writes. -/
structure Envelope (γ : Type) where
  encryptedPayload : γ
  wrappedDek : WrappedDek γ
  kekVersion : ℕ
  iv : String
  authTag : String

structure DecryptedCredential where
  id : String
  userId : String
  publicKeyX : String
  publicKeyY : String
  walletAddress : Option String
  counter : ℕ
  deriving DecidableEq

variable {γ : Type}

namespace Cipher

variable (cipher : Cipher γ)

def loadedKek (version : ℕ) : Option String :=
  if version = 0 then none else some (cipher.kek version)

def wrapDek (dek kek iv : String) : WrappedDek γ :=
  ⟨iv, (cipher.encrypt kek iv (.dek dek)).1, (cipher.encrypt kek iv (.dek dek)).2⟩

def unwrapDek (wrapped : WrappedDek γ) (kek : String) : Option String :=
  match cipher.decrypt kek wrapped.iv wrapped.ciphertext wrapped.tag with
  | some (.dek dek) => some dek
  | _ => none

/-- What is drawn at random for an encryption. -/
structure Draw where
  dek : String
  iv : String
  wrapIv : String

def encryptPayload (current : ℕ) (draw : Draw) (payload : CredentialPayload) : Envelope γ where
  encryptedPayload := (cipher.encrypt draw.dek draw.iv (.payload payload)).1
  wrappedDek := cipher.wrapDek draw.dek (cipher.kek current) draw.wrapIv
  kekVersion := current
  iv := draw.iv
  authTag := (cipher.encrypt draw.dek draw.iv (.payload payload)).2

def openPayload (dek iv : String) (ciphertext : γ) (tag : String) : Option CredentialPayload :=
  match cipher.decrypt dek iv ciphertext tag with
  | some (.payload payload) => some payload
  | _ => none

/-- The key under which the record's payload is opened. -/
def dekOf (record : CredentialRecord γ) : Option String :=
  record.wrappedDek.bind fun wrapped => (cipher.loadedKek record.kekVersion).bind
    fun kek => cipher.unwrapDek wrapped kek

def decryptPayload (record : CredentialRecord γ) : Option CredentialPayload :=
  (cipher.dekOf record).bind fun dek => record.iv.bind fun iv => record.encryptedPayload.bind
    fun ciphertext =>
    record.authTag.bind fun tag => cipher.openPayload dek iv ciphertext tag

end Cipher

open Cipher (Draw)

/-- The column is there and not empty. -/
def present (column : Option String) : Option String := column.filter (· ≠ "")

def CredentialRecord.isOpen (record : CredentialRecord γ) : Bool :=
  record.kekVersion = 0 || record.encryptedPayload.isNone

/-- What `lookupAndDecrypt` makes of the record. -/
def decrypted (cipher : Cipher γ) (record : CredentialRecord γ) : Option DecryptedCredential :=
  if record.isOpen then
    (present record.publicKeyX).bind fun x => (present record.publicKeyY).map fun y =>
      ⟨record.id, record.userId, x, y, none, record.counter⟩
  else (cipher.decryptPayload record).map fun payload =>
    ⟨record.id, payload.userId, payload.publicKeyX, payload.publicKeyY, payload.walletAddress,
      record.counter⟩

/-- The payload of the store that was written last is history. -/
structure Tables (γ : Type) where
  record : Option (CredentialRecord γ)
  walletAddress : String → Option String
  last : Option CredentialPayload

inductive Request (γ : Type) where
  | find
  | findStale (current : ℕ)
  | findWallet (userId : String)
  | insertOpen (id : String) (payload : CredentialPayload)
  | insertSealed (id : String) (payload : CredentialPayload) (envelope : Envelope γ)
  | storeOpen (payload : CredentialPayload)
  | storeSealed (payload : CredentialPayload) (envelope : Envelope γ)
  | migrate (publicKeyX publicKeyY : String) (envelope : Envelope γ)
  | rewrap (dek : String) (wrappedDek : WrappedDek γ) (kekVersion : ℕ)

abbrev Answer : Request γ → Type
  | .find => Option (CredentialRecord γ)
  | .findStale _ | .insertOpen _ _ | .insertSealed _ _ _ => Bool
  | .findWallet _ => Option String
  | .storeOpen _ | .storeSealed _ _ | .migrate _ _ _ | .rewrap _ _ _ => Unit

abbrev Service (γ α : Type) := Fallible Failure (Request γ) Answer α

def ask (r : Request γ) : Service γ (Answer r) := Fallible.ask r

namespace CredentialRecord

def setOpen (payload : CredentialPayload) (record : CredentialRecord γ) : CredentialRecord γ :=
  { record with publicKeyX := some payload.publicKeyX, publicKeyY := some payload.publicKeyY }

def setSealed (envelope : Envelope γ) (record : CredentialRecord γ) : CredentialRecord γ :=
  { record with
    encryptedPayload := some envelope.encryptedPayload
    wrappedDek := some envelope.wrappedDek
    kekVersion := envelope.kekVersion
    iv := some envelope.iv
    authTag := some envelope.authTag
    publicKeyX := none
    publicKeyY := none }

def rewrap (wrappedDek : WrappedDek γ) (kekVersion : ℕ) (record : CredentialRecord γ) :
    CredentialRecord γ :=
  { record with wrappedDek := some wrappedDek, kekVersion := kekVersion }

def blank (id userId : String) : CredentialRecord γ :=
  ⟨id, userId, none, none, 0, none, none, none, none, 0⟩

end CredentialRecord

def insert (t : Tables γ) (record : CredentialRecord γ) (payload : CredentialPayload) :
    Bool × Tables γ :=
  if t.record.isNone then (true, { t with record := some record, last := some payload })
    else (false, t)

/-- An update of the row by a store, if the row is there. -/
def update (t : Tables γ) (data : CredentialRecord γ → CredentialRecord γ)
    (payload : CredentialPayload) : Tables γ :=
  match t.record with
  | some record => { t with record := some (data record), last := some payload }
  | none => t

def carry (t : Tables γ) : (r : Request γ) → Answer r × Tables γ
  | .find => (t.record, t)
  | .findStale current =>
    (t.record.any fun record => record.kekVersion < current && record.encryptedPayload.isSome, t)
  | .findWallet userId => (t.walletAddress userId, t)
  | .insertOpen id payload =>
    insert t ((CredentialRecord.blank id payload.userId).setOpen payload) payload
  | .insertSealed id payload envelope =>
    insert t ((CredentialRecord.blank id payload.userId).setSealed envelope) payload
  | .storeOpen payload => ((), update t (·.setOpen payload) payload)
  | .storeSealed payload envelope => ((), update t (·.setSealed envelope) payload)
  | .migrate _ _ envelope => ((), { t with record := t.record.map (·.setSealed envelope) })
  | .rewrap _ wrappedDek kekVersion =>
    ((), { t with record := t.record.map (·.rewrap wrappedDek kekVersion) })

namespace CredentialVaultService

variable (cipher : Cipher γ) (current : ℕ)

/-- `current` is the version at the process that runs the call. -/
def storeCredential (id : String) (draw : Draw) (payload : CredentialPayload) : Service γ String :=
  do
  if current = 0 then do
    let existing ← ask .find
    match existing with
    | some record => do
      ask (.storeOpen payload)
      pure record.id
    | none => do
      let inserted ← ask (.insertOpen id payload)
      check inserted (.error "Unique constraint failed")
      pure id
  else do
    let envelope := cipher.encryptPayload current draw payload
    let existing ← ask .find
    match existing with
    | some record => do
      ask (.storeSealed payload envelope)
      pure record.id
    | none => do
      let inserted ← ask (.insertSealed id payload envelope)
      check inserted (.error "Unique constraint failed")
      pure id

def lookupAndDecrypt : Service γ (Option DecryptedCredential) := do
  let record ← ask .find
  pure (record.bind (decrypted cipher))

/-- Where the wrapped key can be opened, the key and under what it is wrapped anew. -/
def rewrapped (wrapIv : String) (record : CredentialRecord γ) : Option (String × WrappedDek γ) :=
  record.wrappedDek.bind fun _ => if current ≤ record.kekVersion then none
    else (cipher.dekOf record).map fun dek => (dek, cipher.wrapDek dek (cipher.kek current) wrapIv)

def rotateRecord (wrapIv : String) : Service γ Bool := do
  let found ← ask .find
  match found.bind (rewrapped cipher current wrapIv) with
  | none => pure false
  | some (dek, wrapped) => do
    ask (.rewrap dek wrapped current)
    pure true

/-- How many records were rotated, and how many were not. -/
def rotateAll (wrapIv : String) : Service γ (ℕ × ℕ) := do
  if current = 0 then pure (0, 0)
  else do
    let stale ← ask (.findStale current)
    if stale then do
      let success ← rotateRecord cipher current wrapIv
      pure (if success then (1, 0) else (0, 1))
    else pure (0, 0)

/-- The coordinates of a record that is not encrypted yet. -/
def legacyCoordinates (record : CredentialRecord γ) : Option (String × String) :=
  if 0 < record.kekVersion then none
  else (present record.publicKeyX).bind fun x => (present record.publicKeyY).map fun y => (x, y)

def migrateLegacyRecord (draw : Draw) : Service γ Bool := do
  if current = 0 then pure false
  else do
    let found ← ask .find
    match found.bind fun record =>
        (legacyCoordinates record).map fun (x, y) => (record.userId, x, y) with
    | none => pure false
    | some (userId, x, y) => do
      let address ← ask (.findWallet userId)
      ask (.migrate x y
        (cipher.encryptPayload current draw ⟨userId, x, y, address.filter (· ≠ "")⟩))
      pure true

end CredentialVaultService

inductive Operation where
  | storeCredential (current : ℕ) (id : String) (draw : Draw) (payload : CredentialPayload)
  | rotateRecord (current : ℕ) (wrapIv : String)
  | rotateAll (current : ℕ) (wrapIv : String)
  | migrateLegacyRecord (current : ℕ) (draw : Draw)

def Operation.program (cipher : Cipher γ) : Operation → Program (Request γ) Answer Unit
  | storeCredential current id draw payload => dropResult
    (CredentialVaultService.storeCredential cipher current id draw payload)
  | rotateRecord current wrapIv =>
    dropResult (CredentialVaultService.rotateRecord cipher current wrapIv)
  | rotateAll current wrapIv => dropResult (CredentialVaultService.rotateAll cipher current wrapIv)
  | migrateLegacyRecord current draw =>
    dropResult (CredentialVaultService.migrateLegacyRecord cipher current draw)

/-- The calls side by side. -/
def vaultService (cipher : Cipher γ) : StoreService (Tables γ) Operation (Request γ) Answer where
  program := Operation.program cipher
  carry _ _ := carry
  passes _ t := t

end Services

section RoundTrip

open CredentialVaultService Cipher

variable {γ : Type} {cipher : Cipher γ}

def DecryptedCredential.coordinates (credential : DecryptedCredential) : String × String :=
  (credential.publicKeyX, credential.publicKeyY)

def CredentialPayload.coordinates (payload : CredentialPayload) : String × String :=
  (payload.publicKeyX, payload.publicKeyY)

/-- The coordinates that the vault reads. -/
def coordinatesOf (cipher : Cipher γ) (record : CredentialRecord γ) : Option (String × String) :=
  (decrypted cipher record).map DecryptedCredential.coordinates

/-- A store without encryption is read from a record that is not encrypted, or repeats what is
sealed. -/
def OpenStoreReads (cipher : Cipher γ) (payload : CredentialPayload)
    (record : CredentialRecord γ) : Prop :=
  if record.isOpen then payload.publicKeyX ≠ "" ∧ payload.publicKeyY ≠ ""
    else coordinatesOf cipher record = some payload.coordinates

/-- A store without encryption meets no encrypted record, and what a rotation or a migration has
read is still what the record holds when it writes. -/
def notOvertaken (cipher : Cipher γ) :
    StoreService.Conditions (Tables γ) Operation (Request γ) where
  starts _ := True
  allows _ _ t
    | .insertOpen _ payload => t.record = none → payload.publicKeyX ≠ "" ∧ payload.publicKeyY ≠ ""
    | .storeOpen payload => ∀ record ∈ t.record, OpenStoreReads cipher payload record
    | .migrate publicKeyX publicKeyY _ =>
      ∀ record ∈ t.record, coordinatesOf cipher record = some (publicKeyX, publicKeyY)
    | .rewrap dek _ _ => ∀ record ∈ t.record, cipher.dekOf record = some dek
    | _ => True
  passes _ _ := True

/-- What the programs ask for. -/
def Request.WellFormed (cipher : Cipher γ) : Request γ → Prop
  | .insertSealed _ payload envelope | .storeSealed payload envelope =>
    ∃ current draw, current ≠ 0 ∧ envelope = cipher.encryptPayload current draw payload
  | .migrate publicKeyX publicKeyY envelope => ∃ current draw payload, current ≠ 0 ∧
    payload.coordinates = (publicKeyX, publicKeyY) ∧
    envelope = cipher.encryptPayload current draw payload
  | .rewrap dek wrappedDek kekVersion =>
    ∃ wrapIv, kekVersion ≠ 0 ∧ wrappedDek = cipher.wrapDek dek (cipher.kek kekVersion) wrapIv
  | _ => True

/-- The invariant: the coordinates of the last store are read. -/
def Readable (cipher : Cipher γ) (t : Tables γ) : Prop :=
  ∀ payload ∈ t.last, ∃ record ∈ t.record, coordinatesOf cipher record = some payload.coordinates

theorem unwrapDek_wrapDek (dek kek iv : String) :
    cipher.unwrapDek (cipher.wrapDek dek kek iv) kek = some dek := by
  simp [unwrapDek, wrapDek, cipher.decrypt_encrypt]

theorem openPayload_encrypt (dek iv : String) (payload : CredentialPayload) :
    cipher.openPayload dek iv (cipher.encrypt dek iv (.payload payload)).1
      (cipher.encrypt dek iv (.payload payload)).2 =
      some payload := by
  simp [openPayload, cipher.decrypt_encrypt]

/-- What was sealed is read. -/
theorem coordinatesOf_setSealed {current : ℕ} (hcurrent : current ≠ 0) (draw : Draw)
    (payload : CredentialPayload) (record : CredentialRecord γ) :
    coordinatesOf cipher (record.setSealed (cipher.encryptPayload current draw payload)) =
      some payload.coordinates := by
  have hdek : cipher.dekOf (record.setSealed (cipher.encryptPayload current draw payload)) =
      some draw.dek := by
    simp [dekOf, CredentialRecord.setSealed, encryptPayload, loadedKek, hcurrent, unwrapDek_wrapDek]
  have hpayload :
      cipher.decryptPayload (record.setSealed (cipher.encryptPayload current draw payload)) =
        some payload := by
    unfold decryptPayload
    rw [hdek]
    exact openPayload_encrypt draw.dek draw.iv payload
  have hsealed :
      (record.setSealed (cipher.encryptPayload current draw payload)).isOpen = false := by
    simp [CredentialRecord.isOpen, CredentialRecord.setSealed, encryptPayload, hcurrent]
  simp [coordinatesOf, decrypted, hsealed, hpayload, DecryptedCredential.coordinates,
    CredentialPayload.coordinates]

theorem coordinatesOf_setOpen {payload : CredentialPayload} {record : CredentialRecord γ}
    (h : OpenStoreReads cipher payload record) :
    coordinatesOf cipher (record.setOpen payload) = some payload.coordinates := by
  have hopen : (record.setOpen payload).isOpen = record.isOpen := rfl
  unfold OpenStoreReads at h
  by_cases hrecord : record.isOpen
  · rw [if_pos hrecord] at h
    unfold coordinatesOf decrypted
    rw [hopen, if_pos hrecord]
    simp [CredentialRecord.setOpen, present, Option.filter, h.1, h.2,
      DecryptedCredential.coordinates,
      CredentialPayload.coordinates]
  · rw [if_neg hrecord] at h
    rw [← h]
    unfold coordinatesOf decrypted
    rw [hopen, if_neg hrecord, if_neg hrecord]
    rfl

/-- The wrapped key is the same, so the record reads as before. -/
theorem coordinatesOf_rewrap {dek wrapIv : String} {kekVersion : ℕ} (hversion : kekVersion ≠ 0)
    {record : CredentialRecord γ} (h : cipher.dekOf record = some dek) :
    coordinatesOf cipher
      (record.rewrap (cipher.wrapDek dek (cipher.kek kekVersion) wrapIv) kekVersion) =
      coordinatesOf cipher record := by
  have hdek : cipher.dekOf
      (record.rewrap (cipher.wrapDek dek (cipher.kek kekVersion) wrapIv) kekVersion) =
        some dek := by
    simp [dekOf, CredentialRecord.rewrap, loadedKek, hversion, unwrapDek_wrapDek]
  have hloaded : record.kekVersion ≠ 0 := by
    intro hzero
    simp [dekOf, loadedKek, hzero] at h
  have hopen :
      (record.rewrap (cipher.wrapDek dek (cipher.kek kekVersion) wrapIv) kekVersion).isOpen =
        record.isOpen := by
    simp [CredentialRecord.isOpen, CredentialRecord.rewrap, hversion, hloaded]
  have hpayload :
      cipher.decryptPayload
        (record.rewrap (cipher.wrapDek dek (cipher.kek kekVersion) wrapIv) kekVersion) =
      cipher.decryptPayload record := by
    unfold decryptPayload
    rw [hdek, h]
    rfl
  unfold coordinatesOf decrypted
  rw [hopen, hpayload]
  rfl

variable {t : Tables γ} {i : ℕ} {op : Operation}

/-- A row is inserted that reads as its payload, unless there is one. -/
theorem Readable.insert (h : Readable cipher t) {record : CredentialRecord γ}
    {payload : CredentialPayload}
    (hreads : t.record = none → coordinatesOf cipher record = some payload.coordinates) :
    Readable cipher (insert t record payload).2 := by
  unfold CredentialVault.insert
  split_ifs with hnone
  · rintro payload' ⟨⟩
    exact ⟨record, rfl, hreads (Option.isNone_iff_eq_none.mp hnone)⟩
  · exact h

/-- A store changes the row to one that reads as its payload. -/
theorem Readable.update (h : Readable cipher t) {data : CredentialRecord γ → CredentialRecord γ}
    {payload : CredentialPayload}
    (hreads : ∀ record ∈ t.record, coordinatesOf cipher (data record) = some payload.coordinates) :
    Readable cipher (update t data payload) := by
  unfold CredentialVault.update
  split
  · next record hrecord =>
    rintro payload' ⟨⟩
    exact ⟨data record, rfl, hreads record hrecord⟩
  · exact h

/-- The row is changed and reads as before. -/
theorem Readable.map (h : Readable cipher t) {data : CredentialRecord γ → CredentialRecord γ}
    (hreads : ∀ record ∈ t.record, coordinatesOf cipher
      (data record) = coordinatesOf cipher record) :
    Readable cipher { t with record := t.record.map data } := by
  intro payload hpayload
  obtain ⟨record, hrecord, hcoordinates⟩ := h payload hpayload
  exact ⟨data record, Option.mem_map_of_mem data hrecord,
    (hreads record hrecord).trans hcoordinates⟩

theorem carry_readable (h : Readable cipher t) {r : Request γ} (hformed : r.WellFormed cipher)
    (hallows : (notOvertaken cipher).allows i op t r) : Readable cipher (carry t r).2 := by
  cases r with
  | insertOpen id payload =>
    apply h.insert
    intro hnone
    apply coordinatesOf_setOpen
    exact hallows hnone
  | insertSealed id payload envelope =>
    obtain ⟨current, draw, hcurrent, rfl⟩ := hformed
    apply h.insert
    intro _
    exact coordinatesOf_setSealed hcurrent draw payload _
  | storeOpen payload =>
    apply h.update
    intro record hrecord
    exact coordinatesOf_setOpen (hallows record hrecord)
  | storeSealed payload envelope =>
    obtain ⟨current, draw, hcurrent, rfl⟩ := hformed
    apply h.update
    intro record _
    exact coordinatesOf_setSealed hcurrent draw payload record
  | migrate publicKeyX publicKeyY envelope =>
    obtain ⟨current, draw, payload, hcurrent, hcoordinates, rfl⟩ := hformed
    apply h.map
    intro record hrecord
    rw [coordinatesOf_setSealed hcurrent, hallows record hrecord, hcoordinates]
  | rewrap dek wrappedDek kekVersion =>
    obtain ⟨wrapIv, hversion, rfl⟩ := hformed
    apply h.map
    intro record hrecord
    exact coordinatesOf_rewrap hversion (hallows record hrecord)
  | find => exact h
  | findStale current => exact h
  | findWallet userId => exact h

/-- The requests of a program are well formed, whatever it is answered. -/
abbrev Asks {α : Type} (cipher : Cipher γ) (x : Service γ α) : Prop :=
  x.run.Asks (Request.WellFormed cipher) fun _ _ => True

theorem asks_storeCredential (current : ℕ) (id : String) (draw : Draw)
    (payload : CredentialPayload) :
    Asks cipher (storeCredential cipher current id draw payload) := by
  unfold storeCredential
  split_ifs with hcurrent
  · apply Fallible.asks_andThen (Fallible.asks_ask trivial)
    intro existing
    cases existing with
    | some record => exact Fallible.asks_andThen (Fallible.asks_ask trivial) fun _ =>
      Fallible.asks_checked _
    | none =>
      apply Fallible.asks_andThen (Fallible.asks_ask trivial)
      intro inserted
      exact Fallible.asks_andThen (Fallible.asks_checked _) fun _ => Fallible.asks_checked _
  · have hstore : Request.WellFormed cipher
      (.storeSealed payload (cipher.encryptPayload current draw payload)) :=
      ⟨current, draw, hcurrent, rfl⟩
    have hinsert : Request.WellFormed cipher
        (.insertSealed id payload (cipher.encryptPayload current draw payload)) :=
      ⟨current, draw, hcurrent, rfl⟩
    apply Fallible.asks_andThen (Fallible.asks_ask trivial)
    intro existing
    cases existing with
    | some record => exact Fallible.asks_andThen (Fallible.asks_ask hstore) fun _ =>
      Fallible.asks_checked _
    | none =>
      apply Fallible.asks_andThen (Fallible.asks_ask hinsert)
      intro inserted
      exact Fallible.asks_andThen (Fallible.asks_checked _) fun _ => Fallible.asks_checked _

theorem rewrapped_eq_some {current : ℕ} {wrapIv dek : String} {wrapped : WrappedDek γ}
    {record : CredentialRecord γ}
    (h : rewrapped cipher current wrapIv record = some (dek, wrapped)) :
    current ≠ 0 ∧ wrapped = cipher.wrapDek dek (cipher.kek current) wrapIv := by
  obtain ⟨old, -, hold⟩ := Option.bind_eq_some_iff.mp h
  split_ifs at hold with hversion
  obtain ⟨dek', -, hpair⟩ := Option.map_eq_some_iff.mp hold
  cases hpair
  exact ⟨by omega, rfl⟩

theorem asks_rotateRecord (current : ℕ) (wrapIv : String) :
    Asks cipher (rotateRecord cipher current wrapIv) := by
  unfold rotateRecord
  apply Fallible.asks_andThen (Fallible.asks_ask trivial)
  intro found
  cases hfound : found.bind (rewrapped cipher current wrapIv) with
  | none => exact Fallible.asks_checked _
  | some pair =>
    obtain ⟨dek, wrapped⟩ := pair
    obtain ⟨record, -, hrecord⟩ := Option.bind_eq_some_iff.mp hfound
    obtain ⟨hcurrent, hwrapped⟩ := rewrapped_eq_some hrecord
    have hformed : Request.WellFormed cipher (.rewrap dek wrapped current) :=
      ⟨wrapIv, hcurrent, hwrapped⟩
    exact Fallible.asks_andThen (Fallible.asks_ask hformed) fun _ => Fallible.asks_checked _

theorem asks_rotateAll (current : ℕ) (wrapIv : String) :
    Asks cipher (rotateAll cipher current wrapIv) := by
  unfold rotateAll
  split_ifs
  · exact Fallible.asks_checked _
  · apply Fallible.asks_andThen (Fallible.asks_ask trivial)
    intro stale
    split_ifs
    · exact Fallible.asks_andThen (asks_rotateRecord current wrapIv)
        fun _ => Fallible.asks_checked _
    · exact Fallible.asks_checked _

theorem asks_migrateLegacyRecord (current : ℕ) (draw : Draw) :
    Asks cipher (migrateLegacyRecord cipher current draw) := by
  unfold migrateLegacyRecord
  split_ifs with hcurrent
  · exact Fallible.asks_checked _
  · apply Fallible.asks_andThen (Fallible.asks_ask trivial)
    intro found
    split
    · exact Fallible.asks_checked _
    · next userId x y _ =>
      apply Fallible.asks_andThen (Fallible.asks_ask trivial)
      intro address
      have hformed : Request.WellFormed cipher
          (.migrate x y
            (cipher.encryptPayload current draw ⟨userId, x, y, address.filter (· ≠ "")⟩)) :=
        ⟨current, draw, ⟨userId, x, y, address.filter (· ≠ "")⟩, hcurrent, rfl, rfl⟩
      exact Fallible.asks_andThen (Fallible.asks_ask hformed) fun _ => Fallible.asks_checked _

theorem asks_program (op : Operation) :
    (op.program cipher).Asks (Request.WellFormed cipher) fun _ _ => True := by
  cases op with
  | storeCredential current id draw payload =>
    exact Fallible.asks_dropResult (asks_storeCredential current id draw payload)
  | rotateRecord current wrapIv => exact Fallible.asks_dropResult (asks_rotateRecord current wrapIv)
  | rotateAll current wrapIv => exact Fallible.asks_dropResult (asks_rotateAll current wrapIv)
  | migrateLegacyRecord current draw =>
    exact Fallible.asks_dropResult (asks_migrateLegacyRecord current draw)

theorem eval_lookupAndDecrypt (t : Tables γ) :
    (lookupAndDecrypt cipher).eval carry t = (.ok (t.record.bind (decrypted cipher)), t) := rfl

/-- In every interleaving in which no store without encryption meets an encrypted record, and no
rotation or migration overwrites what was written since it read: the vault reads the coordinates of
the store that was written last. -/
theorem vault_reads_last_store {start : Tables γ}
    {tr : Trace (Tables γ) Operation (Request γ) Answer}
    {c : Config (Tables γ) Operation (Request γ) Answer}
    (hrun : (vaultService cipher).Runs start tr c)
    (hmeets : ∀ t ∈ tr, StoreService.Meets (notOvertaken cipher) t)
    (hstart : Readable cipher start) :
    ∀ payload, c.state.last = some payload → ∃ credential,
      (lookupAndDecrypt cipher).eval carry c.state = (.ok (some credential), c.state) ∧
        credential.publicKeyX = payload.publicKeyX ∧
        credential.publicKeyY = payload.publicKeyY := by
  have hfinish : Readable cipher c.state := by
    apply (StoreService.kept_of_run (Q := fun _ => Request.WellFormed cipher)
      (A := fun _ _ => True) hrun hmeets hstart
      (fun op _ => asks_program op) (fun _ _ _ _ _ => trivial) ?_ fun _ _ h _ => h).2
    exact fun i op s r hs hformed hallows => carry_readable hs hformed hallows
  intro payload hpayload
  obtain ⟨record, hrecord, hcoordinates⟩ := hfinish payload hpayload
  obtain ⟨credential, hcredential, hsame⟩ := Option.map_eq_some_iff.mp hcoordinates
  simp only [DecryptedCredential.coordinates, CredentialPayload.coordinates, Prod.mk.injEq] at hsame
  refine ⟨credential, ?_, hsame⟩
  have hread : c.state.record = some record := hrecord
  rw [eval_lookupAndDecrypt, hread, Option.bind_some, hcredential]

end RoundTrip

end VeriAgentPay.CredentialVault

namespace VeriAgentPay.Devnet
open InterleavedPrograms CredentialVault
open CredentialVault.Cipher (Draw)

/-- A cipher whose tag names the key and the nonce. -/
def labelled : Cipher Plaintext where
  kek version := "kek " ++ toString version
  encrypt key iv plaintext := (plaintext, key ++ "/" ++ iv)
  decrypt key iv ciphertext tag := if tag = key ++ "/" ++ iv then some ciphertext else none
  decrypt_encrypt _ _ _ := if_pos rfl

def noRecord : CredentialVault.Tables Plaintext := ⟨none, fun _ => none, none⟩

def firstKey : CredentialPayload := ⟨"alice", "101", "102", none⟩
def secondKey : CredentialPayload := ⟨"alice", "201", "202", none⟩

/-- A call of the vault that makes `n` requests. -/
def vaultCall (i n : ℕ) (op : CredentialVault.Operation) : List (Move CredentialVault.Operation) :=
  .start i op :: List.replicate n (.step i)

def storeFirst (current : ℕ) : List (Move CredentialVault.Operation) :=
  vaultCall 0 2 (.storeCredential current "row" ⟨"dek 1", "iv 1", "wrap 1"⟩ firstKey)

def storeSecond (current : ℕ) : List (Move CredentialVault.Operation) :=
  vaultCall 1 2 (.storeCredential current "row" ⟨"dek 2", "iv 2", "wrap 2"⟩ secondKey)

/-- A rotation reads, a store is made, the rotation writes. -/
def rotateOverStore : List (Move CredentialVault.Operation) :=
  storeFirst 1 ++ vaultCall 2 1 (.rotateRecord 2 "wrap 3") ++ storeSecond 1 ++ [.step 2]

/-- A migration reads, a store is made, the migration writes. -/
def migrateOverStore : List (Move CredentialVault.Operation) :=
  storeFirst 0 ++ vaultCall 2 2 (.migrateLegacyRecord 1 ⟨"dek 3", "iv 3", "wrap 3"⟩) ++
    storeSecond 1 ++ [.step 2]

/-- The store that was written last, and what the vault reads. -/
def vaultAfter
    (C : StoreService.Conditions (CredentialVault.Tables Plaintext) CredentialVault.Operation
      (CredentialVault.Request Plaintext))
    [DecidablePred C.starts] [∀ i op s r, Decidable (C.allows i op s r)]
    [∀ s s', Decidable (C.passes s s')] (schedule : List (Move CredentialVault.Operation)) :
    Option (Option CredentialPayload × Option DecryptedCredential × Bool) :=
  ((vaultService labelled).moves C (Config.initial noRecord) schedule).map fun c =>
    (c.state.last, c.state.record.bind (decrypted labelled),
      (schedule.filterMap Move.starts).all c.finished)

theorem vault_computed :
    vaultAfter StoreService.anything rotateOverStore = some (some secondKey, none, true) ∧
      vaultAfter StoreService.anything migrateOverStore = some (some secondKey,
        some ⟨"row", "alice", "101", "102", none, 0⟩, true) ∧
      vaultAfter StoreService.anything (storeFirst 1 ++ storeSecond 0) =
        some (some secondKey, some ⟨"row", "alice", "101", "102", none, 0⟩, true) := by
  decide +kernel

theorem runs_of_vault {schedule : List (Move CredentialVault.Operation)}
    {last : Option CredentialPayload} {read : Option DecryptedCredential}
    (h : vaultAfter StoreService.anything schedule = some (last, read, true)) :
    ∃ tr c, (vaultService labelled).Runs noRecord tr c ∧
      (vaultService labelled).moves StoreService.anything (Config.initial noRecord) schedule =
        some c ∧ c.Quiescent ∧
      c.state.last = last ∧
      (CredentialVaultService.lookupAndDecrypt labelled).eval CredentialVault.carry c.state =
        (.ok read, c.state) := by
  obtain ⟨tr, c, hrun, -, hmoves, hfacts⟩ := StoreService.runs_of_computed h
  simp only [Prod.mk.injEq] at hfacts
  obtain ⟨hlast, hread, hfinished⟩ := hfacts
  refine ⟨tr, c, hrun, hmoves, StoreService.quiescent_of_moves hmoves hfinished, hlast, ?_⟩
  rw [eval_lookupAndDecrypt, hread]

/-- When all calls are over, the record cannot be decrypted, because a rotation was overtaken; or it
reads as the earlier of two stores, because a migration was overtaken or because the later store was
made without encryption. -/
theorem vault_loses_last_store :
    (∃ tr c, (vaultService labelled).Runs noRecord tr c ∧
      (vaultService labelled).moves StoreService.anything
        (Config.initial noRecord) rotateOverStore = some c ∧ c.Quiescent ∧
      c.state.last = some secondKey ∧
      (CredentialVaultService.lookupAndDecrypt labelled).eval CredentialVault.carry c.state =
        (.ok none, c.state)) ∧
    ∀ schedule ∈ [migrateOverStore, storeFirst 1 ++ storeSecond 0], ∃ tr c,
      (vaultService labelled).Runs noRecord tr c ∧
      (vaultService labelled).moves StoreService.anything (Config.initial noRecord) schedule =
        some c ∧ c.Quiescent ∧
      c.state.last = some secondKey ∧
      (CredentialVaultService.lookupAndDecrypt labelled).eval CredentialVault.carry c.state =
        (.ok (some ⟨"row", "alice", "101", "102", none, 0⟩), c.state) := by
  obtain ⟨hrotated, hmigrated, hunencrypted⟩ := vault_computed
  refine ⟨runs_of_vault hrotated, ?_⟩
  intro schedule hschedule
  rcases List.mem_pair.mp hschedule with rfl | rfl
  · exact runs_of_vault hmigrated
  · exact runs_of_vault hunencrypted

instance (payload : CredentialPayload) (record : CredentialRecord Plaintext) :
    Decidable (OpenStoreReads labelled payload record) :=
  inferInstanceAs (Decidable (ite _ _ _))
instance : DecidablePred (notOvertaken labelled).starts := fun _ => inferInstanceAs (Decidable True)
instance (i : ℕ) (op : CredentialVault.Operation) (t : CredentialVault.Tables Plaintext)
    (r : CredentialVault.Request Plaintext) :
    Decidable ((notOvertaken labelled).allows i op t r) := by
  cases r with
  | insertOpen id payload =>
    exact inferInstanceAs
      (Decidable (t.record = none → payload.publicKeyX ≠ "" ∧ payload.publicKeyY ≠ ""))
  | storeOpen payload =>
    exact inferInstanceAs (Decidable (∀ record ∈ t.record, OpenStoreReads labelled payload record))
  | migrate publicKeyX publicKeyY envelope =>
    exact inferInstanceAs
      (Decidable (∀ record ∈ t.record, coordinatesOf labelled record = some (publicKeyX,
        publicKeyY)))
  | rewrap dek wrappedDek kekVersion =>
    exact inferInstanceAs (Decidable (∀ record ∈ t.record, labelled.dekOf record = some dek))
  | _ => exact .isTrue trivial
instance (t t' : CredentialVault.Tables Plaintext) :
    Decidable ((notOvertaken labelled).passes t t') := .isTrue trivial

/-- A store without encryption, its migration, a store, and a rotation of all records. -/
def rotateInTurn : List (Move CredentialVault.Operation) :=
  storeFirst 0 ++ vaultCall 2 3 (.migrateLegacyRecord 1 ⟨"dek 3", "iv 3", "wrap 3"⟩) ++
    storeSecond 1 ++
    vaultCall 3 3 (.rotateAll 2 "wrap 4")

theorem vault_in_turn : vaultAfter (notOvertaken labelled) rotateInTurn =
    some (some secondKey, some ⟨"row", "alice", "201", "202", none, 0⟩, true) := by
  decide +kernel

theorem vault_reads_last_store_devnet :
    ∃ tr c, (vaultService labelled).Runs noRecord tr c ∧ ∃ credential,
    (CredentialVaultService.lookupAndDecrypt labelled).eval CredentialVault.carry c.state =
      (.ok (some credential), c.state) ∧
      credential.publicKeyX = "201" ∧ credential.publicKeyY = "202" := by
  obtain ⟨tr, c, hrun, hmeets, -, hfacts⟩ := StoreService.runs_of_computed vault_in_turn
  simp only [Prod.mk.injEq] at hfacts
  have hstart : Readable labelled noRecord := by
    rintro payload ⟨⟩
  exact ⟨tr, c, hrun, vault_reads_last_store hrun hmeets hstart secondKey hfacts.1⟩

end VeriAgentPay.Devnet
