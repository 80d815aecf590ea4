import VeriAgentPay.IdentityServices
import VeriAgentPay.LabelledRuns
import VeriAgentPay.UniqueColumns

/-!
# The address book

Each user has contacts, which are created by hand or after a payment, and looked up by the
identifier on a platform or by the wallet address.
-/

namespace VeriAgentPay.Contacts
open UniqueColumns LabelledRuns
open Backend (trim truthy)
open Identity (withoutAt)

section Model

structure Contact where
  id : String
  userId : String
  name : String
  platform : String
  identifier : String
  walletAddress : Option String
  sendCount : ℕ
  lastSentAt : Option ℤ
  updatedAt : ℤ
  /-- The address, without the blanks around it, that was given with the call that wrote
  `walletAddress`. No code reads this. -/
  supplied : Option String
  deriving DecidableEq

def Contact.byId (c : Contact) : Option (List String) := some [c.id]

def Contact.byIdentifier (c : Contact) : Option (List String) :=
  some [c.userId, c.platform, c.identifier]

def Contact.byWallet (c : Contact) : Option (List String) :=
  c.walletAddress.map fun address => [c.userId, address]

def Contact.columns : List (Contact → Option (List String)) := [byId, byIdentifier, byWallet]

abbrev AddressBook := Table Contact.columns

inductive Failure where
  | badRequest (message : String)
  | conflict (message : String)
  /-- An error of the database, with its code. -/
  | known (code : String)

structure CreateContactDto where
  name : Option String
  platform : String
  identifier : Option String
  walletAddress : Option String

structure UpdateContactDto where
  name : Option String
  identifier : Option String
  platform : Option String
  /-- It can be left out, and it can be null. -/
  walletAddress : Option (Option String)

/-- A contact as it is written when there is none yet. -/
structure Entry where
  id : String
  userId : String
  name : String
  sendCount : ℕ
  lastSentAt : Option ℤ
  updatedAt : ℤ

namespace ContactsService
variable (toLowerCase : String → String)

def normalizeIdentifier (identifier platform : String) : String :=
  let trimmed := trim identifier
  let handle := withoutAt trimmed
  if platform = "phone" then trimmed
  else if platform = "telegram" then handle
  else toLowerCase handle

def normalizeWalletAddress (walletAddress : Option String) : Option String :=
  truthy (walletAddress.map fun address => toLowerCase (trim address))

def findByIdentifier (book : AddressBook) (userId platform identifier : String) : Option Contact :=
  book.rows.find? fun c => c.userId = userId && c.platform = platform && c.identifier = identifier

def findByWallet (book : AddressBook) (userId walletAddress : String) : Option Contact :=
  book.rows.find? fun c => c.userId = userId && c.walletAddress = some walletAddress

def newContact (entry : Entry) (platform identifier : String) (walletAddress : Option String) :
    Contact :=
  { id := entry.id, userId := entry.userId, name := entry.name, platform := platform
    identifier := normalizeIdentifier toLowerCase identifier platform
    walletAddress := normalizeWalletAddress toLowerCase walletAddress
    sendCount := entry.sendCount, lastSentAt := entry.lastSentAt, updatedAt := entry.updatedAt
    supplied := walletAddress.map trim }

/-- The new id is the one that the database draws. -/
def create (userId : String) (dto : CreateContactDto) (id : String) (now : ℤ) (book : AddressBook) :
    Except Failure Contact × AddressBook :=
  match truthy (dto.name.map trim), dto.identifier.filter (trim · ≠ "") with
  | none, _ => (.error (.badRequest "Contact name is required"), book)
  | some _, none => (.error (.badRequest "Platform identifier is required"), book)
  | some name, some identifier =>
    let contact :=
      newContact toLowerCase ⟨id, userId, name, 0, none,
        now⟩ dto.platform identifier dto.walletAddress
    let existing := findByIdentifier book userId dto.platform contact.identifier
    let sameWallet := contact.walletAddress.bind (findByWallet book userId)
    if existing.isSome || sameWallet.isSome then
      (.error (.conflict ("Contact with " ++ dto.platform ++ " identifier \"" ++ identifier ++
        "\" already exists.")), book)
    else
      match book.insert contact with
      | some book => (.ok contact, book)
      | none => (.error (.known "P2002"), book)

/-- An update without data writes nothing. -/
def givesNothing (dto : UpdateContactDto) : Bool :=
  (truthy dto.name).isNone && (truthy dto.identifier).isNone && (truthy dto.platform).isNone &&
    dto.walletAddress.isNone

def updated (dto : UpdateContactDto) (now : ℤ) (c : Contact) : Contact :=
  { c with
    name := ((truthy dto.name).map trim).getD c.name
    identifier := ((truthy dto.identifier).map trim).getD c.identifier
    platform := (truthy dto.platform).getD c.platform
    walletAddress := dto.walletAddress.getD c.walletAddress
    updatedAt := if givesNothing dto then c.updatedAt else now
    supplied := match dto.walletAddress with
      | some address => address.map trim
      | none => c.supplied }

def update (_userId id : String) (dto : UpdateContactDto) (now : ℤ) (book : AddressBook) :
    Except Failure Contact × AddressBook :=
  match book.rows.find? fun c => c.id = id with
  | none => (.error (.known "P2025"), book)
  | some c =>
    match book.replace c (updated dto now c) with
    | some book => (.ok (updated dto now c), book)
    | none => (.error (.known "P2002"), book)

def remove (userId id : String) (book : AddressBook) : AddressBook :=
  book.filter fun c => !(c.id = id && c.userId = userId)

/-- Whether a payment gives a contact its wallet address. -/
def fills (walletAddress : Option String) (existing : Contact) : Bool :=
  (normalizeWalletAddress toLowerCase walletAddress).isSome &&
    (truthy existing.walletAddress).isNone

def paid (walletAddress : Option String) (now : ℤ) (existing : Contact) : Contact :=
  let counted :=
    { existing with sendCount := existing.sendCount + 1, lastSentAt := some now, updatedAt := now }
  if fills toLowerCase walletAddress existing then
    { counted with
      walletAddress := normalizeWalletAddress toLowerCase walletAddress
      supplied := walletAddress.map trim }
  else counted

structure Payment where
  platform : String
  identifier : String
  walletAddress : Option String
  displayName : Option String

/-- The contact that a payment is counted for. A verified wallet wins over platform metadata. -/
def existing (userId : String) (payment : Payment) (book : AddressBook) : Option Contact :=
  (normalizeWalletAddress toLowerCase payment.walletAddress).bind (findByWallet book userId) <|>
    findByIdentifier book userId payment.platform
      (normalizeIdentifier toLowerCase payment.identifier payment.platform)

def upsertAfterPayment (userId : String) (payment : Payment) (id : String) (now : ℤ)
    (book : AddressBook) : AddressBook :=
  let cleanIdentifier := normalizeIdentifier toLowerCase payment.identifier payment.platform
  if cleanIdentifier = "" then book
  else
    match existing toLowerCase userId payment book with
    | some c => (book.replace c (paid toLowerCase payment.walletAddress now c)).getD book
    | none =>
      let entry : Entry :=
        ⟨id, userId, (truthy payment.displayName).getD cleanIdentifier, 1, some now, now⟩
      (book.insert
        (newContact toLowerCase entry payment.platform payment.identifier
          payment.walletAddress)).getD book

end ContactsService

open ContactsService

inductive Call where
  | create (userId : String) (dto : CreateContactDto) (id : String) (now : ℤ)
  | update (userId id : String) (dto : UpdateContactDto) (now : ℤ)
  | remove (userId id : String)
  | upsertAfterPayment (userId : String) (payment : Payment) (id : String) (now : ℤ)

def Call.userId : Call → String
  | create userId .. | update userId .. | remove userId _ | upsertAfterPayment userId .. => userId

def Call.run (toLowerCase : String → String) (book : AddressBook) : Call → AddressBook
  | create userId dto id now => (ContactsService.create toLowerCase userId dto id now book).2
  | update userId id dto now => (ContactsService.update userId id dto now book).2
  | remove userId id => ContactsService.remove userId id book
  | upsertAfterPayment userId payment id now =>
    ContactsService.upsertAfterPayment toLowerCase userId payment id now book

end Model

section Soundness
open ContactsService
variable {toLowerCase : String → String} {book book' : AddressBook} {c old new : Contact}

/-- The identifier is in the normal form that the lookups use, and the wallet address is the one
that was given. -/
structure Contact.Sound (toLowerCase : String → String) (c : Contact) : Prop where
  normal : normalizeIdentifier toLowerCase c.identifier c.platform = c.identifier
  given : ∀ address ∈ c.walletAddress, c.supplied = some address

structure Sound (toLowerCase : String → String) (book : AddressBook) : Prop where
  contacts : ∀ c ∈ book.rows, c.Sound toLowerCase
  identifiers : ∀ c ∈ book.rows, ∀ c' ∈ book.rows, c.userId = c'.userId → c.platform = c'.platform →
    normalizeIdentifier toLowerCase c.identifier c.platform =
      normalizeIdentifier toLowerCase c'.identifier c'.platform → c = c'
  wallets : ∀ c ∈ book.rows, ∀ c' ∈ book.rows, c.userId = c'.userId → ∀ address ∈ c.walletAddress,
    c'.walletAddress = some address → c = c'

/-- No contact of another user is changed or removed. -/
def KeepsOthers (userId : String) (book book' : AddressBook) : Prop :=
  ∀ c ∈ book.rows, c.userId ≠ userId → c ∈ book'.rows

theorem byId_mem : Contact.byId ∈ Contact.columns := List.mem_cons_self

theorem byIdentifier_mem : Contact.byIdentifier ∈ Contact.columns :=
  List.mem_cons_of_mem _ List.mem_cons_self

theorem byWallet_mem : Contact.byWallet ∈ Contact.columns :=
  List.mem_cons_of_mem _ (List.mem_cons_of_mem _ List.mem_cons_self)

/-- What the database keeps unique, is unique for the lookups too where the contacts are sound. -/
theorem sound_iff : Sound toLowerCase book ↔ ∀ c ∈ book.rows, c.Sound toLowerCase := by
  refine ⟨fun h => h.contacts, fun h => ⟨h, ?_, ?_⟩⟩
  · intro c hc c' hc' huser hplatform hsame
    rw [(h c hc).normal, (h c' hc').normal] at hsame
    refine book.distinct.eq_of_column byIdentifier_mem hc hc' rfl ?_
    rw [Contact.byIdentifier, huser, hplatform, hsame]
  · intro c hc c' hc' huser address haddress haddress'
    refine book.distinct.eq_of_column (k := [c.userId, address]) byWallet_mem hc hc' ?_ ?_
    · rw [Contact.byWallet, Option.mem_def.mp haddress, Option.map_some]
    · rw [Contact.byWallet, haddress', Option.map_some, huser]

theorem eq_of_id (hc : old ∈ book.rows) (hc' : new ∈ book.rows) (hid : old.id = new.id) :
    old = new :=
  book.distinct.eq_of_column byId_mem hc hc' rfl (by rw [Contact.byId, hid])

theorem nodup_rows (book : AddressBook) : book.rows.Nodup :=
  book.distinct.nodup byId_mem fun _ => rfl

theorem find_id {id : String} : (book.rows.find? fun c => c.id = id) = some c ↔ c ∈ book.rows ∧
    c.id = id := by
  constructor
  · intro h
    exact ⟨List.mem_of_find?_eq_some h, by simpa using List.find?_some h⟩
  · rintro ⟨hc, hid⟩
    have hsome : (book.rows.find? fun c => c.id = id).isSome :=
      List.find?_isSome.mpr ⟨c, hc, by simp [hid]⟩
    obtain ⟨found, hfound⟩ := Option.isSome_iff_exists.mp hsome
    have hfoundId : found.id = id := by simpa using List.find?_some hfound
    rw [hfound, eq_of_id (List.mem_of_find?_eq_some hfound) hc (hfoundId.trans hid.symm)]

section Insertion

theorem insert_accepted (hid : ∀ other ∈ book.rows, other.id ≠ c.id)
    (hidentifier : findByIdentifier book c.userId c.platform c.identifier = none)
    (hwallet : c.walletAddress.bind (findByWallet book c.userId) = none) :
    ∃ book', book.insert c = some book' := by
  have hdistinct : Distinct Contact.columns (book.rows ++ [c]) := by
    rw [distinct_concat]
    refine ⟨book.distinct, ?_⟩
    simp only [Contact.columns, List.forall_mem_cons, List.not_mem_nil, false_imp_iff,
      implies_true, and_true]
    refine ⟨?_, ?_, ?_⟩
    · rintro _ ⟨⟩ other hother hsame
      simp only [Contact.byId, Option.some.injEq, List.cons.injEq, and_true] at hsame
      exact hid other hother hsame
    · rintro _ ⟨⟩ other hother hsame
      simp only [Contact.byIdentifier, Option.some.injEq, List.cons.injEq, and_true] at hsame
      have := List.find?_eq_none.mp hidentifier other hother
      simp [hsame] at this
    · intro k hk other hother hsame
      obtain ⟨address, haddress, rfl⟩ := Option.map_eq_some_iff.mp hk
      obtain ⟨address', haddress', heq⟩ := Option.map_eq_some_iff.mp hsame
      simp only [List.cons.injEq, and_true] at heq
      rw [haddress, Option.bind_some] at hwallet
      have := List.find?_eq_none.mp hwallet other hother
      simp [haddress', heq.1, heq.2] at this
  cases hinsert : book.insert c with
  | none => exact absurd hdistinct (Table.write_eq_none.mp hinsert)
  | some book' => exact ⟨book', rfl⟩

theorem insert_refused (hc : old ∈ book.rows) (hid : old.id = c.id) : book.insert c = none := by
  refine Table.write_eq_none.mpr fun hdistinct => ?_
  have hfresh := (distinct_concat.mp hdistinct).2 Contact.byId byId_mem _ rfl old hc
  exact hfresh (by rw [Contact.byId, hid])

theorem sound_insert (hbook : ∀ c ∈ book.rows, c.Sound toLowerCase)
    (hinsert : book.insert c = some book') (userId : String) :
    Sound toLowerCase book' ∧ KeepsOthers userId book book' ↔ c.Sound toLowerCase := by
  have hrows := Table.write_eq_some.mp hinsert
  have hkeeps : KeepsOthers userId book book' := by
    intro other hother _
    simp [hrows, hother]
  rw [sound_iff, hrows, and_iff_left hkeeps]
  constructor
  · intro h
    exact h c (by simp)
  · intro h other hother
    rcases List.mem_append.mp hother with hother | hother
    · exact hbook other hother
    · exact List.mem_singleton.mp hother ▸ h

/-- The normal form of the identifier is its own normal form. -/
def Settles (toLowerCase : String → String) (identifier platform : String) : Prop :=
  normalizeIdentifier toLowerCase (normalizeIdentifier toLowerCase identifier platform) platform =
    normalizeIdentifier toLowerCase identifier platform

/-- The address that is looked up is the one that was given. -/
def Kept (toLowerCase : String → String) (walletAddress : Option String) : Prop :=
  ∀ address ∈ normalizeWalletAddress toLowerCase walletAddress,
  walletAddress.map trim = some address

theorem sound_newContact (entry : Entry) (platform identifier : String)
    (walletAddress : Option String) :
    (newContact toLowerCase entry platform identifier walletAddress).Sound toLowerCase ↔
      Settles toLowerCase identifier platform ∧ Kept toLowerCase walletAddress :=
  ⟨fun h => ⟨h.normal, h.given⟩, fun h => ⟨h.1, h.2⟩⟩

end Insertion

section Replacement

theorem replace_eq_some (hreplace : book.replace old new = some book') :
    book'.rows = replaced old new book.rows :=
  Table.write_eq_some.mp hreplace

theorem sound_replace (hbook : ∀ c ∈ book.rows, c.Sound toLowerCase) (hold : old ∈ book.rows)
    (hreplace : book.replace old new = some book') (hid : new.id = old.id) (userId : String) :
    Sound toLowerCase book' ∧ KeepsOthers userId book book' ↔ new.Sound toLowerCase ∧
    (old.userId = userId ∨ new = old) := by
  have hrows := replace_eq_some hreplace
  have hsound : (∀ c ∈ book'.rows, c.Sound toLowerCase) ↔ new.Sound toLowerCase := by
    rw [hrows]
    constructor
    · exact fun h => h new (mem_replaced.mpr (.inr ⟨hold, rfl⟩))
    · intro h c hc
      rcases mem_replaced.mp hc with ⟨hc, -⟩ | ⟨-, rfl⟩
      · exact hbook c hc
      · exact h
  have hkeeps : KeepsOthers userId book book' ↔ old.userId = userId ∨ new = old := by
    unfold KeepsOthers
    rw [hrows]
    constructor
    · intro h
      by_cases huser : old.userId = userId
      · exact .inl huser
      · rcases mem_replaced.mp (h old hold huser) with ⟨-, hne⟩ | ⟨-, heq⟩
        · exact absurd rfl hne
        · exact .inr heq.symm
    · intro h c hc huser
      rcases eq_or_ne c old with rfl | hne
      · exact mem_replaced.mpr (.inr ⟨hold, (h.resolve_left huser).symm⟩)
      · exact mem_replaced.mpr (.inl ⟨hc, hne⟩)
  rw [sound_iff, hsound, hkeeps]

end Replacement

section Steps

/-- A call that leaves the book as it is. -/
theorem sound_same (hbook : ∀ c ∈ book.rows, c.Sound toLowerCase) (userId : String) :
    Sound toLowerCase book ∧ KeepsOthers userId book book := ⟨sound_iff.mpr hbook, fun _ hc _ => hc⟩

/-- A contact is created where the name and the identifier are not blank and no contact of the user
has the identifier, in its normal form, or the wallet address. -/
def Creates (toLowerCase : String → String) (book : AddressBook) (userId : String)
    (dto : CreateContactDto) (identifier : String) : Prop :=
  (truthy (dto.name.map trim)).isSome ∧ dto.identifier = some identifier ∧ trim identifier ≠ "" ∧
    findByIdentifier book userId dto.platform
      (normalizeIdentifier toLowerCase identifier dto.platform) = none ∧
    (normalizeWalletAddress toLowerCase dto.walletAddress).bind (findByWallet book userId) = none

/-- What an update gives is in normal form on the platform that the contact then has. -/
def Normalised (toLowerCase : String → String) (dto : UpdateContactDto) (c : Contact) : Prop :=
  let identifier := ((truthy dto.identifier).map trim).getD c.identifier
  normalizeIdentifier toLowerCase identifier ((truthy dto.platform).getD c.platform) = identifier

def Unpadded (dto : UpdateContactDto) : Prop :=
  ∀ address, dto.walletAddress = some (some address) → trim address = address

/-- When a call leaves the address book sound. -/
def Meets (toLowerCase : String → String) (book : AddressBook) : Call → Prop
  | .create userId dto id _ => (∀ c ∈ book.rows, c.id ≠ id) →
  ∀ identifier, Creates toLowerCase book userId dto identifier →
      Settles toLowerCase identifier dto.platform ∧ Kept toLowerCase dto.walletAddress
  | .update userId id dto now =>
    ∀ c ∈ book.rows, c.id = id →
    Distinct Contact.columns (replaced c (updated dto now c) book.rows) →
      Normalised toLowerCase dto c ∧ Unpadded dto ∧ (c.userId = userId ∨ updated dto now c = c)
  | .remove .. => True
  | .upsertAfterPayment userId payment id _ =>
    normalizeIdentifier toLowerCase payment.identifier payment.platform ≠ "" →
      match existing toLowerCase userId payment book with
      | some c => fills toLowerCase payment.walletAddress c → Kept toLowerCase payment.walletAddress
      | none => (∀ c ∈ book.rows, c.id ≠ id) →
        Settles toLowerCase payment.identifier payment.platform ∧
        Kept toLowerCase payment.walletAddress

/-- A payment to a contact that there is. -/
theorem meets_of_existing {userId id : String} {payment : Payment} {now : ℤ}
    (hexisting : existing toLowerCase userId payment book = some c)
    (hkept : Kept toLowerCase payment.walletAddress) :
    Meets toLowerCase book (.upsertAfterPayment userId payment id now) := by
  intro _
  rw [hexisting]
  exact fun _ => hkept

theorem step_create (hbook : ∀ c ∈ book.rows, c.Sound toLowerCase) (userId : String)
    (dto : CreateContactDto) (id : String) (now : ℤ) :
    Sound toLowerCase (ContactsService.create toLowerCase userId dto id now book).2 ∧
        KeepsOthers userId book (ContactsService.create toLowerCase userId dto id now book).2 ↔
      Meets toLowerCase book (.create userId dto id now) := by
  have hrefused : (∀ identifier, ¬Creates toLowerCase book userId dto identifier) →
      (Sound toLowerCase book ∧ KeepsOthers userId book book ↔
        Meets toLowerCase book (.create userId dto id now)) := by
    intro hnone
    exact iff_of_true (sound_same hbook userId) fun _ identifier hcreates => absurd hcreates
      (hnone identifier)
  unfold ContactsService.create
  split
  · next hname =>
    refine hrefused fun identifier hcreates => ?_
    rw [Creates, hname] at hcreates
    cases hcreates.1
  · next hidentifier =>
    refine hrefused fun identifier hcreates => ?_
    have := Option.filter_eq_none_iff.mp hidentifier identifier hcreates.2.1
    simp [hcreates.2.2.1] at this
  · next name identifier hname hidentifier =>
    obtain ⟨hgiven, hblank⟩ := Option.filter_eq_some_iff.mp hidentifier
    dsimp only
    split_ifs with htaken
    · refine hrefused ?_
      rintro identifier' ⟨-, hidentifier', -, hfree, hfree'⟩
      obtain rfl := Option.some.inj (hidentifier'.symm.trans hgiven)
      simp [newContact, hfree, hfree'] at htaken
    · simp only [newContact, Bool.or_eq_true, not_or, Option.not_isSome_iff_eq_none] at htaken
      by_cases hid : ∀ c ∈ book.rows, c.id ≠ id
      · have haccepted :=
          insert_accepted (c := newContact toLowerCase ⟨id, userId, name, 0, none,
            now⟩ dto.platform identifier dto.walletAddress)
          hid htaken.1 htaken.2
        obtain ⟨book', hinsert⟩ := haccepted
        rw [hinsert]
        rw [sound_insert hbook hinsert userId, sound_newContact]
        constructor
        · intro h _ identifier' hcreates
          obtain rfl := Option.some.inj (hcreates.2.1.symm.trans hgiven)
          exact h
        · exact fun h => h hid identifier ⟨by rw [hname]; rfl, hgiven, by simpa using hblank,
            htaken.1, htaken.2⟩
      · push Not at hid
        obtain ⟨other, hother, hsame⟩ := hid
        rw [insert_refused hother hsame]
        exact iff_of_true (sound_same hbook userId) fun hfree => absurd hsame (hfree other hother)

theorem sound_updated (hc : c.Sound toLowerCase) (dto : UpdateContactDto) (now : ℤ) :
    (updated dto now c).Sound toLowerCase ↔ Normalised toLowerCase dto c ∧ Unpadded dto := by
  have hgiven :
      (∀ address ∈ (updated dto now c).walletAddress, (updated dto now c).supplied = some address) ↔
      Unpadded dto := by
    unfold updated Unpadded
    cases dto.walletAddress with
    | none => simpa using hc.given
    | some given => cases given <;> simp
  exact ⟨fun h => ⟨h.normal, hgiven.mp h.given⟩, fun h => ⟨h.1, hgiven.mpr h.2⟩⟩

theorem step_update (hbook : ∀ c ∈ book.rows, c.Sound toLowerCase) (userId id : String)
    (dto : UpdateContactDto) (now : ℤ) :
    Sound toLowerCase (ContactsService.update userId id dto now book).2 ∧
    KeepsOthers userId book (ContactsService.update userId id dto now book).2 ↔
      Meets toLowerCase book (.update userId id dto now) := by
  unfold ContactsService.update
  cases hfind : book.rows.find? fun c => c.id = id with
  | none =>
    refine iff_of_true (sound_same hbook userId) ?_
    intro c hc hid
    have := List.find?_eq_none.mp hfind c hc
    simp [hid] at this
  | some c =>
    obtain ⟨hc, hid⟩ := find_id.mp hfind
    have honly : Meets toLowerCase book (.update userId id dto now) ↔
        (Distinct Contact.columns (replaced c (updated dto now c) book.rows) →
        Normalised toLowerCase dto c ∧ Unpadded dto ∧
          (c.userId = userId ∨ updated dto now c = c)) := by
      constructor
      · exact fun h => h c hc hid
      · intro h c' hc' hid'
        obtain rfl := eq_of_id hc hc' (hid.trans hid'.symm)
        exact h
    rw [honly]
    dsimp only
    cases hreplace : book.replace c (updated dto now c) with
    | none =>
      exact iff_of_true (sound_same hbook userId) fun hdistinct =>
        absurd hdistinct (Table.write_eq_none.mp hreplace)
    | some book' =>
      have hdistinct : Distinct Contact.columns (replaced c (updated dto now c) book.rows) :=
        replace_eq_some hreplace ▸ book'.distinct
      rw [sound_replace hbook hc hreplace rfl userId, sound_updated (hbook c hc), and_assoc]
      exact ⟨fun h _ => h, fun h => h hdistinct⟩

theorem sound_paid (hc : c.Sound toLowerCase) (walletAddress : Option String) (now : ℤ) :
    (paid toLowerCase walletAddress now c).Sound toLowerCase ↔
    (fills toLowerCase walletAddress c → Kept toLowerCase walletAddress) := by
  unfold paid
  dsimp only
  split_ifs with hfills
  · exact ⟨fun h _ => h.given, fun h => ⟨hc.normal, h hfills⟩⟩
  · exact iff_of_true ⟨hc.normal, hc.given⟩ fun h => absurd h hfills

/-- A contact that a payment is counted for is one of the user, and no other contact of the user has
the address that it is given. -/
theorem existing_spec {userId : String} {payment : Payment}
    (h : existing toLowerCase userId payment book = some c) :
    c ∈ book.rows ∧ c.userId = userId ∧ (fills toLowerCase payment.walletAddress c →
      ∀ address ∈ normalizeWalletAddress toLowerCase payment.walletAddress,
        findByWallet book userId address = none) := by
  rw [existing, Option.orElse_eq_orElse, Option.orElse_eq_or] at h
  rcases Option.or_eq_some_iff.mp h with hwallet | ⟨hwallet, hidentifier⟩
  · obtain ⟨address, haddress, hfind⟩ := Option.bind_eq_some_iff.mp hwallet
    have hmem := List.mem_of_find?_eq_some hfind
    have hspec := List.find?_some hfind
    simp only [Bool.and_eq_true, decide_eq_true_eq] at hspec
    refine ⟨hmem, hspec.1, fun hfills => ?_⟩
    have hne : address ≠ "" := by
      have := (Option.filter_eq_some_iff.mp haddress).2
      simpa using this
    simp [fills, hspec.2, truthy, hne] at hfills
  · have hmem := List.mem_of_find?_eq_some hidentifier
    have hspec := List.find?_some hidentifier
    simp only [Bool.and_eq_true, decide_eq_true_eq] at hspec
    refine ⟨hmem, hspec.1.1, ?_⟩
    intro _ address haddress
    rwa [Option.mem_def.mp haddress, Option.bind_some] at hwallet

theorem replace_paid_accepted {userId : String} {payment : Payment}
    (h : existing toLowerCase userId payment book = some c) (now : ℤ) :
    ∃ book', book.replace c (paid toLowerCase payment.walletAddress now c) = some book' := by
  obtain ⟨hc, huser, hfree⟩ := existing_spec h
  have hsame : ∀ column ∈ Contact.columns, ∀ k, column c = some k → ∀ other ∈ book.rows,
      other ≠ c → column other ≠ some k := by
    intro column hcolumn k hk other hother hne hk'
    exact hne (book.distinct.eq_of_column hcolumn hother hc hk' hk)
  have hdistinct : Distinct Contact.columns
      (replaced c (paid toLowerCase payment.walletAddress now c) book.rows) := by
    rw [distinct_replaced book.distinct (nodup_rows book) hc]
    simp only [Contact.columns, List.forall_mem_cons, List.not_mem_nil, false_imp_iff, implies_true,
      and_true] at hsame ⊢
    unfold paid
    dsimp only
    split_ifs with hfills
    · refine ⟨hsame.1, hsame.2.1, ?_⟩
      intro k hk other hother _ hk'
      obtain ⟨address, haddress, rfl⟩ := Option.map_eq_some_iff.mp hk
      obtain ⟨address', haddress', heq⟩ := Option.map_eq_some_iff.mp hk'
      simp only [List.cons.injEq, and_true] at heq
      have := List.find?_eq_none.mp (hfree hfills address haddress) other hother
      simp [haddress', heq.1, heq.2, huser] at this
    · exact hsame
  cases hreplace : book.replace c (paid toLowerCase payment.walletAddress now c) with
  | none => exact absurd hdistinct (Table.write_eq_none.mp hreplace)
  | some book' => exact ⟨book', rfl⟩

theorem step_upsertAfterPayment (hbook : ∀ c ∈ book.rows, c.Sound toLowerCase) (userId : String)
    (payment : Payment) (id : String) (now : ℤ) :
    Sound toLowerCase (ContactsService.upsertAfterPayment toLowerCase userId payment id now book) ∧
        KeepsOthers userId book
          (ContactsService.upsertAfterPayment toLowerCase userId payment id now book) ↔
      Meets toLowerCase book (.upsertAfterPayment userId payment id now) := by
  unfold ContactsService.upsertAfterPayment Meets
  dsimp only
  split_ifs with hempty
  · exact iff_of_true (sound_same hbook userId) fun hne => absurd hempty hne
  · rw [forall_prop_of_true hempty]
    cases hexisting : existing toLowerCase userId payment book with
    | some c =>
      obtain ⟨hc, huser, -⟩ := existing_spec hexisting
      obtain ⟨book', hreplace⟩ := replace_paid_accepted hexisting now
      have hid : (paid toLowerCase payment.walletAddress now c).id = c.id := by
        unfold paid
        dsimp only
        split_ifs <;> rfl
      dsimp only
      rw [hreplace]
      simp only [Option.getD_some]
      rw [sound_replace hbook hc hreplace hid userId, sound_paid (hbook c hc),
        and_iff_left (.inl huser)]
    | none =>
      rw [existing, Option.orElse_eq_orElse, Option.orElse_eq_or] at hexisting
      obtain ⟨hwallet, hidentifier⟩ := Option.or_eq_none_iff.mp hexisting
      dsimp only
      by_cases hid : ∀ c ∈ book.rows, c.id ≠ id
      · obtain ⟨book', hinsert⟩ := insert_accepted (c := newContact toLowerCase
          ⟨id, userId, (truthy payment.displayName).getD
            (normalizeIdentifier toLowerCase payment.identifier payment.platform), 1, some now, now⟩
          payment.platform payment.identifier payment.walletAddress) hid hidentifier hwallet
        rw [hinsert]
        simp only [Option.getD_some]
        rw [sound_insert hbook hinsert userId, sound_newContact]
        exact ⟨fun h _ => h, fun h => h hid⟩
      · push Not at hid
        obtain ⟨other, hother, hsame⟩ := hid
        rw [insert_refused hother hsame]
        exact iff_of_true (sound_same hbook userId) fun hfree => absurd hsame (hfree other hother)

theorem step_remove (hbook : ∀ c ∈ book.rows, c.Sound toLowerCase) (userId id : String) :
    Sound toLowerCase (ContactsService.remove userId id book) ∧
    KeepsOthers userId book (ContactsService.remove userId id book) := by
  constructor
  · exact sound_iff.mpr fun c hc => hbook c (List.mem_of_mem_filter hc)
  · intro c hc huser
    exact List.mem_filter.mpr ⟨hc, by simp [huser]⟩

theorem step_sound (h : Sound toLowerCase book) (call : Call) :
    Sound toLowerCase (call.run toLowerCase book) ∧
    KeepsOthers call.userId book (call.run toLowerCase book) ↔ Meets toLowerCase book call := by
  have hbook := sound_iff.mp h
  cases call with
  | create userId dto id now => exact step_create hbook userId dto id now
  | update userId id dto now => exact step_update hbook userId id dto now
  | remove userId id => exact iff_of_true (step_remove hbook userId id) trivial
  | upsertAfterPayment userId payment id now =>
    exact step_upsertAfterPayment hbook userId payment id now

/-- The address book stays sound, and no call changes what is of others, in a whole sequence of
calls, if and only if each call meets its condition. -/
theorem address_book_stays_sound_iff (h : Sound toLowerCase book) (calls : List Call) :
    Throughout (Call.run toLowerCase)
        (fun book call => Sound toLowerCase (call.run toLowerCase book) ∧
          KeepsOthers call.userId book (call.run toLowerCase book))
        book calls ↔
      Throughout (Call.run toLowerCase) (Meets toLowerCase) book calls :=
  throughout_iff (fun _ call hs => step_sound hs call) h

end Steps

theorem sound_empty (toLowerCase : String → String) : Sound toLowerCase .empty :=
  sound_iff.mpr (by simp [Table.empty])

end Soundness

section Runs
open ContactsService
variable {book : AddressBook}

/-- `toLowerCase` of a text in ASCII. -/
def asciiLower (text : String) : String := String.ofList (text.toList.map Char.toLower)

def carolDto : CreateContactDto := ⟨some "Carol", "discord", some "@Carol", none⟩

/-- The book with the contact of Ann alone. -/
def carolsBook : AddressBook := (Call.create "ann" carolDto "contact" 1).run asciiLower .empty

theorem rows_carolsBook :
    carolsBook.rows =
      [⟨"contact", "ann", "Carol", "discord", "carol", none, 0, none, 1, none⟩] := by decide +kernel

def annsRename : Call := .update "ann" "contact" ⟨some "Caro", none, none, none⟩ 2

/-- A payment finds the contact by the handle, and gives it the address. -/
def annsPayment : Payment := ⟨"discord", "@CAROL", some "carolswallet", none⟩

def annsPays : Call := .upsertAfterPayment "ann" annsPayment "other" 3

def annsCalls : List Call := [.create "ann" carolDto "contact" 1, annsRename, annsPays]

theorem meets_annsRename
    (hrows : book.rows =
      [⟨"contact", "ann", "Carol", "discord", "carol", none, 0, none, 1, none⟩]) :
    Meets asciiLower book annsRename := by
  intro c hc _ _
  rw [hrows, List.mem_singleton] at hc
  subst hc
  exact ⟨by unfold Normalised; decide +kernel, by rintro _ ⟨⟩, .inl rfl⟩

theorem meets_annsPayment
    (hrows : book.rows = [⟨"contact", "ann", "Caro", "discord", "carol", none, 0, none, 2, none⟩]) :
    Meets asciiLower book annsPays := by
  have hexisting : existing asciiLower "ann" annsPayment book =
      some ⟨"contact", "ann", "Caro", "discord", "carol", none, 0, none, 2, none⟩ := by
    unfold existing findByWallet findByIdentifier
    rw [hrows]
    decide +kernel
  have hkept : Kept asciiLower annsPayment.walletAddress := by unfold Kept; decide +kernel
  exact meets_of_existing hexisting hkept

theorem address_book_of_carol_sound :
    Throughout (Call.run asciiLower)
        (fun book call => Sound asciiLower (call.run asciiLower book) ∧
          KeepsOthers call.userId book (call.run asciiLower book))
        .empty annsCalls ∧
      (annsCalls.foldl (Call.run asciiLower) .empty).rows =
        [⟨"contact", "ann", "Caro", "discord", "carol", some "carolswallet", 1, some 3, 3,
          some "carolswallet"⟩] := by
  refine ⟨(address_book_stays_sound_iff (sound_empty asciiLower) _).mpr ⟨?_, ?_, ?_,
    trivial⟩, by decide +kernel⟩
  · rintro - identifier ⟨-, hidentifier, -⟩
    obtain rfl := Option.some.inj hidentifier
    exact ⟨by unfold Settles; decide +kernel, by rintro _ ⟨⟩⟩
  · exact meets_annsRename (by decide +kernel)
  · generalize hbook :
      Call.run asciiLower
        (Call.run asciiLower .empty (.create "ann" carolDto "contact" 1)) annsRename = book
    have hrows :
        book.rows = [⟨"contact", "ann", "Caro", "discord", "carol", none, 0, none, 2, none⟩] := by
      rw [← hbook]
      decide +kernel
    exact meets_annsPayment hrows

/-- Bob gives a contact of Ann his own wallet address, which she then pays. -/
def bobsUpdate : Call := .update "bob" "contact" ⟨none, none, none, some (some "BobsWallet")⟩ 2

/-- A contact is created with a wallet address that is not in lower case. -/
def davesCall : Call :=
  .create "ann" ⟨some "Dave", "discord", some "dave",
    some "4Nd1mBQtrMJVYVfKf2PJy9NZUZdTAsp7D4xWLs4gDB4T"⟩ "contact" 1

/-- The owner changes the identifier to one that no lookup finds. -/
def annsUpdate : Call := .update "ann" "contact" ⟨none, some "@Caroline", none, none⟩ 2

theorem address_book_unsound :
    ¬KeepsOthers bobsUpdate.userId carolsBook (bobsUpdate.run asciiLower carolsBook) ∧
      (davesCall.run asciiLower .empty).rows.map (fun c => (c.walletAddress, c.supplied)) =
        [(some "4nd1mbqtrmjvyvfkf2pjy9nzuzdtasp7d4xwls4gdb4t",
          some "4Nd1mBQtrMJVYVfKf2PJy9NZUZdTAsp7D4xWLs4gDB4T")] ∧
      (annsUpdate.run asciiLower carolsBook).rows.map Contact.identifier = ["@Caroline"] ∧
      ∀ calls ∈ [[.create "ann" carolDto "contact" 1, bobsUpdate], [davesCall],
        [.create "ann" carolDto "contact" 1, annsUpdate]],
        ¬Throughout (Call.run asciiLower)
          (fun book call => Sound asciiLower (call.run asciiLower book) ∧
            KeepsOthers call.userId book (call.run asciiLower book))
          .empty calls := by
  have hforeign :
      ¬KeepsOthers bobsUpdate.userId carolsBook (bobsUpdate.run asciiLower carolsBook) := by
    intro hkeeps
    exact absurd (hkeeps _ (rows_carolsBook ▸ List.mem_cons_self) (by decide)) (by decide +kernel)
  have hlower :
      (davesCall.run asciiLower .empty).rows.map (fun c => (c.walletAddress, c.supplied)) =
      [(some "4nd1mbqtrmjvyvfkf2pjy9nzuzdtasp7d4xwls4gdb4t",
        some "4Nd1mBQtrMJVYVfKf2PJy9NZUZdTAsp7D4xWLs4gDB4T")] := by decide +kernel
  have hraw : (annsUpdate.run asciiLower carolsBook).rows =
      [⟨"contact", "ann", "Carol", "discord", "@Caroline", none, 0, none, 2, none⟩] := by
        decide +kernel
  refine ⟨hforeign, hlower, by rw [hraw]; rfl, ?_⟩
  simp only [List.forall_mem_cons, List.not_mem_nil, false_imp_iff, implies_true, and_true]
  refine ⟨?_, ?_, ?_⟩
  · rintro ⟨-, ⟨-, hkeeps⟩, -⟩
    exact hforeign hkeeps
  · rintro ⟨⟨hsound, -⟩, -⟩
    have hgiven : ∀ pair ∈ (davesCall.run asciiLower .empty).rows.map
        (fun c => (c.walletAddress, c.supplied)),
        ∀ address ∈ pair.1, pair.2 = some address := by
      intro pair hpair
      obtain ⟨c, hc, rfl⟩ := List.mem_map.mp hpair
      exact (hsound.contacts c hc).given
    rw [hlower] at hgiven
    exact absurd (hgiven _ List.mem_cons_self _ rfl) (by decide)
  · rintro ⟨-, ⟨hsound, -⟩, -⟩
    have hcontact := hsound.contacts _ (hraw ▸ List.mem_cons_self)
    exact absurd hcontact.normal (by decide +kernel)

end Runs

end VeriAgentPay.Contacts
