import VeriAgentPay.PasskeyExecution

/-!
# The protocol between the services, the link rows and the chain

What every operation keeps while others run beside it. A pending row is written by one operation
only, the one that drew its code or took the approval that names it; a row that has left the
pending state keeps its escrow; a terminal row of a native link says what the chain says.
-/

namespace VeriAgentPay.Backend
open FixedWidth CheckedOutcome Client LabelledRuns InterleavedPrograms

/-- The status that a terminal row claims of the link on chain. -/
def LinkStatus.onChain? : LinkStatus → Option UInt8
  | .claimed => some paymentLinkStatusClaimed
  | .cancelled => some paymentLinkStatusCancelled
  | .expired => some paymentLinkStatusRefunded
  | _ => none

/-- The row of a native Solana payment link. -/
def Native (row : ShortLink) (key : Pubkey) : Prop :=
  row.kind = .pay ∧ row.envelopeId = some (toBase58 key)

def Live (row : ShortLink) : Prop := row.status ≠ .pending ∧ row.status ≠ .failed

/-- The link is on chain, with the given status. -/
def OnChain (s : Store) (key : Pubkey) (status : UInt8) : Prop :=
  ∃ link, s.ledger.data key = .link link ∧ link.status = status

def HasLink (s : Store) (key : Pubkey) : Prop := ∃ link, s.ledger.data key = .link link

/-- The escrow has a row that the sender and the recipient can act on. -/
def Recorded (s : Store) (key : Pubkey) : Prop :=
  ∃ code row, s.links code = some row ∧ Native row key ∧ Live row

def Pending (s : Store) (code : String) : Prop :=
  ∃ row, s.links code = some row ∧ row.kind = .pay ∧ row.status = .pending ∧ row.envelopeId = none

theorem toBase58_ne_empty (key : Pubkey) : toBase58 key ≠ "" := by
  intro h
  have hkey := newPublicKey_toBase58 key
  rw [h] at hkey
  cases hkey

theorem isNativeSolanaPaymentLink_iff {row : ShortLink} :
    isNativeSolanaPaymentLink row ↔ ∃ key, Native row key := by
  simp only [isNativeSolanaPaymentLink, Native, truthy, Bool.and_eq_true, decide_eq_true_eq,
    Option.any_filter]
  constructor
  · rintro ⟨hkind, haddress⟩
    obtain ⟨envelopeId, henvelope, haddress⟩ := (Option.any_eq_true _ _).mp haddress
    simp only [Bool.and_eq_true] at haddress
    obtain ⟨key, rfl⟩ := isSolanaAddress_iff.mp haddress.2
    exact ⟨key, hkind, henvelope⟩
  · rintro ⟨key, hkind, henvelope⟩
    refine ⟨hkind, ?_⟩
    simp [henvelope, toBase58_ne_empty, isSolanaAddress_iff.mpr ⟨key, rfl⟩]

theorem Native.unique {row : ShortLink} {key key' : Pubkey} (h : Native row key)
    (h' : Native row key') : key = key' :=
  toBase58_injective (Option.some.inj (h.2.symm.trans h'.2))

section Ledger

variable {rt : Runtime} {w w' w'' : World} {e : Event}

/-- Links stay on the ledger, and a settled one keeps its status. -/
def LedgerGrows (w w' : World) : Prop :=
  ∀ key link, w.data key = .link link →
    ∃ link', w'.data key = .link link' ∧ (link.status ≠ paymentLinkStatusActive →
      link'.status = link.status)

theorem LedgerGrows.refl (w : World) : LedgerGrows w w := fun _ link h => ⟨link, h, fun _ => rfl⟩

theorem LedgerGrows.trans (h : LedgerGrows w w') (h' : LedgerGrows w' w'') : LedgerGrows w w'' := by
  intro key link hlink
  obtain ⟨link', hlink', hkept⟩ := h key link hlink
  obtain ⟨link'', hlink'', hkept'⟩ := h' key link' hlink'
  refine ⟨link'', hlink'', fun hsettled => ?_⟩
  rw [hkept' (by rw [hkept hsettled]; exact hsettled), hkept hsettled]

theorem ledgerGrows_of_step (h : Step rt w e w') : LedgerGrows w w' := by
  intro key link hlink
  rcases step_record_before h hlink rfl with hkept | ⟨ctx, c, after, -, -, -, hafter, hchange⟩
  · exact ⟨link, hkept, fun _ => rfl⟩
  · cases hchange with
    | linkSettled _ link' active => exact ⟨link', hafter, fun hsettled => absurd active hsettled⟩

/-- The link a call writes and the status it leaves it with. -/
def linkOutcome? : Call → Option (Pubkey × UInt8)
  | .createPaymentLinkWithSession a _ => some (a.paymentLink, paymentLinkStatusActive)
  | .createSolPaymentLinkWithPasskey a _ => some (a.paymentLink, paymentLinkStatusActive)
  | .claimPaymentLink a => some (a.paymentLink, paymentLinkStatusClaimed)
  | .claimSolPaymentLink a => some (a.paymentLink, paymentLinkStatusClaimed)
  | .cancelPaymentLinkWithSession a _ => some (a.paymentLink, paymentLinkStatusCancelled)
  | .cancelSolPaymentLinkWithPasskey a _ => some (a.paymentLink, paymentLinkStatusCancelled)
  | .refundExpiredPaymentLink a => some (a.paymentLink, paymentLinkStatusRefunded)
  | .refundExpiredSolPaymentLink a => some (a.paymentLink, paymentLinkStatusRefunded)
  | _ => none

theorem exec_linkOutcome {ctx : Context} {c : Call} {key : Pubkey} {status : UInt8}
    (h : exec rt ctx c w = .ok w') (houtcome : linkOutcome? c = some (key, status)) :
    ∃ link, w'.data key = .link link ∧ link.status = status := by
  cases c with
  | createPaymentLinkWithSession a args =>
    obtain ⟨rfl, rfl⟩ := Prod.mk.inj (Option.some.inj houtcome)
    obtain ⟨session, -, -, -, hcreated, -⟩ := createPaymentLinkWithSession_ok h
    obtain ⟨bump, hafter⟩ := hcreated.after
    exact ⟨_, hafter, rfl⟩
  | createSolPaymentLinkWithPasskey a args =>
    obtain ⟨rfl, rfl⟩ := Prod.mk.inj (Option.some.inj houtcome)
    obtain ⟨config, vault, -, hcreated, -⟩ := createSolPaymentLinkWithPasskey_ok h
    obtain ⟨bump, hafter⟩ := hcreated.after
    exact ⟨_, hafter, rfl⟩
  | claimPaymentLink a =>
    obtain ⟨rfl, rfl⟩ := Prod.mk.inj (Option.some.inj houtcome)
    obtain ⟨link, hsettled, -⟩ := claimPaymentLink_ok h
    exact ⟨_, hsettled.after, rfl⟩
  | claimSolPaymentLink a =>
    obtain ⟨rfl, rfl⟩ := Prod.mk.inj (Option.some.inj houtcome)
    obtain ⟨link, hsettled, -⟩ := claimSolPaymentLink_ok h
    exact ⟨_, hsettled.after, rfl⟩
  | cancelPaymentLinkWithSession a args =>
    obtain ⟨rfl, rfl⟩ := Prod.mk.inj (Option.some.inj houtcome)
    obtain ⟨session, link, -, hsettled, -⟩ := cancelPaymentLinkWithSession_ok h
    exact ⟨_, hsettled.after, rfl⟩
  | cancelSolPaymentLinkWithPasskey a args =>
    obtain ⟨rfl, rfl⟩ := Prod.mk.inj (Option.some.inj houtcome)
    obtain ⟨config, vault, link, -, hsettled, -⟩ := cancelSolPaymentLinkWithPasskey_ok h
    exact ⟨_, hsettled.after, rfl⟩
  | refundExpiredPaymentLink a =>
    obtain ⟨rfl, rfl⟩ := Prod.mk.inj (Option.some.inj houtcome)
    obtain ⟨link, hsettled, -⟩ := refundExpiredPaymentLink_ok h
    exact ⟨_, hsettled.after, rfl⟩
  | refundExpiredSolPaymentLink a =>
    obtain ⟨rfl, rfl⟩ := Prod.mk.inj (Option.some.inj houtcome)
    obtain ⟨link, hsettled, -⟩ := refundExpiredSolPaymentLink_ok h
    exact ⟨_, hsettled.after, rfl⟩
  | _ => cases houtcome

variable {d : Deployment} {submission : Submission}

theorem Submission.Lands.ledgerGrows (h : submission.Lands d w w') : LedgerGrows w w' := by
  obtain ⟨ctx, w₁, -, -, henv, hexec⟩ := h
  have hwaited : Step d.rt w .env w₁ := henv
  have hcalled : Step d.rt w₁ (.call ctx submission.call) w' := hexec
  exact (ledgerGrows_of_step hwaited).trans (ledgerGrows_of_step hcalled)

theorem Submission.Lands.wellFormed (h : submission.Lands d w w') (hwf : WellFormed d.rt w) :
    WellFormed d.rt w' := by
  obtain ⟨ctx, w₁, -, -, henv, hexec⟩ := h
  have hwf₁ := hwf.step (e := .env) henv
  exact hwf₁.step (e := .call ctx submission.call) hexec

theorem Submission.Lands.outcome (h : submission.Lands d w w') {key : Pubkey} {status : UInt8}
    (houtcome : linkOutcome? submission.call = some (key, status)) :
    ∃ link, w'.data key = .link link ∧ link.status = status := by
  obtain ⟨ctx, w₁, -, -, -, hexec⟩ := h
  exact exec_linkOutcome hexec houtcome

end Ledger

/-- What an operation holds: the code of the pending row that it alone may write, and the link that
it funded and has not recorded yet. -/
structure Holding where
  code : Option String
  funds : Option Pubkey

def Holding.idle : Holding := ⟨none, none⟩

/-- The pending row that an approval is about. -/
def Payload.reserved? : Payload → Option String
  | .solPaymentLink code .. => some code
  | _ => none

def StagedAs (s : Store) (prepareId : String) (prepared : PreparedAction) : Prop :=
  ∃ document, s.staged prepareId = some document ∧ PreparedAction.ofJson document = some prepared

/-- What holds of the rows and links that a staged payload names. -/
def PayloadFacts (s : Store) : Payload → Prop
  | .solPaymentLink code paymentLink .. => Pending s code ∧ ∃ key, paymentLink = toBase58 key
  | .solPaymentLinkCancel code paymentLink _ => ∃ row, s.links code = some row ∧
      (row.kind = .pay → Live row ∧ ∀ key, Native row key → paymentLink = toBase58 key)
  | _ => True

structure LinkInvariant (d : Deployment) (strict : Prop) (s : Store) (H : ℕ → Holding) : Prop where
  ledger : WellFormed d.rt s.ledger
  codes : ∀ code row, s.links code = some row → row.code = code
  native : ∀ code row key, s.links code = some row → Native row key →
    HasLink s key ∧ ∀ status, row.status.onChain? = some status → OnChain s key status
  held : ∀ i code, (H i).code = some code → Pending s code
  held_once : ∀ i j code, (H i).code = some code → (H j).code = some code → i = j
  issued : ∀ prepareId document, s.staged prepareId = some document → prepareId ∈ s.issued
  staged : ∀ prepareId prepared, StagedAs s prepareId prepared → PayloadFacts s prepared.payload
  staged_free : ∀ prepareId prepared code i, StagedAs s prepareId prepared →
    prepared.payload.reserved? = some code → (H i).code ≠ some code
  staged_once : ∀ prepareId prepareId' prepared prepared' code, StagedAs s prepareId prepared →
    StagedAs s prepareId' prepared' → prepared.payload.reserved? = some code →
    prepared'.payload.reserved? = some code → prepareId = prepareId'
  funded : strict → ∀ key i, s.funder key = some i → Recorded s key ∨ (H i).funds = some key

/-- Rows stay, live rows of payments keep their escrow, and the ledger grows. -/
structure StoreGrows (s s' : Store) : Prop where
  ledger : LedgerGrows s.ledger s'.ledger
  row : ∀ code row, s.links code = some row → ∃ row', s'.links code = some row' ∧
    (row'.kind = .pay ↔ row.kind = .pay) ∧
    (row.kind = .pay → Live row → Live row' ∧ row'.envelopeId = row.envelopeId) ∧
    ∀ key, Native row key → row.status.onChain?.isSome → row'.status = row.status

theorem StoreGrows.refl (s : Store) : StoreGrows s s where
  ledger := LedgerGrows.refl _
  row _ row h := ⟨row, h, Iff.rfl, fun _ hlive => ⟨hlive, rfl⟩, fun _ _ _ => rfl⟩

section Stability

variable {s s' : Store} (hgrows : StoreGrows s s')
include hgrows

theorem StoreGrows.hasLink {key : Pubkey} (h : HasLink s key) : HasLink s' key := by
  obtain ⟨link, hlink⟩ := h
  obtain ⟨link', hlink', -⟩ := hgrows.ledger key link hlink
  exact ⟨link', hlink'⟩

theorem StoreGrows.onChain {key : Pubkey} {status : UInt8}
    (hsettled : status ≠ paymentLinkStatusActive) (h : OnChain s key status) :
    OnChain s' key status := by
  obtain ⟨link, hlink, rfl⟩ := h
  obtain ⟨link', hlink', hkept⟩ := hgrows.ledger key link hlink
  exact ⟨link', hlink', hkept hsettled⟩

theorem StoreGrows.recorded {key : Pubkey} (h : Recorded s key) : Recorded s' key := by
  obtain ⟨code, row, hrow, hnative, hlive⟩ := h
  obtain ⟨row', hrow', hkind, hkept, -⟩ := hgrows.row code row hrow
  obtain ⟨hlive', henvelope⟩ := hkept hnative.1 hlive
  exact ⟨code, row', hrow', ⟨hkind.mpr hnative.1, henvelope.trans hnative.2⟩, hlive'⟩

/-- An approval to cancel stays about the same escrow. -/
theorem StoreGrows.payloadFacts {payload : Payload} (hfree : payload.reserved? = none)
    (h : PayloadFacts s payload) : PayloadFacts s' payload := by
  cases payload with
  | solPaymentLink => cases hfree
  | solPaymentLinkCancel code paymentLink vaultNonce =>
    obtain ⟨row, hrow, hfacts⟩ := h
    obtain ⟨row', hrow', hkind, hkept, -⟩ := hgrows.row code row hrow
    refine ⟨row', hrow', fun hpay => ?_⟩
    obtain ⟨hlive, haddress⟩ := hfacts (hkind.mp hpay)
    obtain ⟨hlive', henvelope⟩ := hkept (hkind.mp hpay) hlive
    exact ⟨hlive',
      fun key hnative => haddress key ⟨hkind.mp hnative.1, henvelope.symm.trans hnative.2⟩⟩
  | _ => trivial

end Stability

theorem onChain?_ne_active {status : LinkStatus} {value : UInt8}
    (h : status.onChain? = some value) :
    value ≠ paymentLinkStatusActive := by
  cases status with
  | claimed => obtain rfl := Option.some.inj h; decide
  | cancelled => obtain rfl := Option.some.inj h; decide
  | expired => obtain rfl := Option.some.inj h; decide
  | _ => cases h

theorem onChain?_injective {status status' : LinkStatus} {value : UInt8}
    (h : status.onChain? = some value) (h' : status'.onChain? = some value) : status = status' := by
  have heq := h.trans h'.symm
  cases status <;> cases status' <;>
    first | rfl | (cases h; done) | (cases h'; done) | (revert heq; decide)

section Changes

variable {d : Deployment} {strict : Prop} {s s' : Store} {H H' : ℕ → Holding}

/-- Operations may hold less. -/
theorem LinkInvariant.release (h : LinkInvariant d strict s H)
    (hcode : ∀ i code, (H' i).code = some code → (H i).code = some code)
    (hfunded : strict → ∀ key i, s.funder key = some i → Recorded s key ∨ (H' i).funds = some key) :
    LinkInvariant d strict s H' where
  ledger := h.ledger
  codes := h.codes
  native := h.native
  held i code hheld := h.held i code (hcode i code hheld)
  held_once i j code hi hj := h.held_once i j code (hcode i code hi) (hcode j code hj)
  issued := h.issued
  staged := h.staged
  staged_free id p code i hstaged hreserved hheld :=
    h.staged_free id p code i hstaged hreserved (hcode i code hheld)
  staged_once := h.staged_once
  funded := hfunded

/-- The ledger goes on, with or without a transaction of an operation. -/
theorem LinkInvariant.ledgerChange (h : LinkInvariant d strict s H) (hgrows : StoreGrows s s')
    (hwf : WellFormed d.rt s'.ledger) (hlinks : s'.links = s.links) (hstaged : s'.staged = s.staged)
    (hissued : s'.issued = s.issued) (hcode : ∀ i, (H' i).code = (H i).code)
    (hfunded : strict →
      ∀ key i, s'.funder key = some i → Recorded s key ∨ (H' i).funds = some key) :
    LinkInvariant d strict s' H' := by
  have hpending : ∀ code, Pending s code → Pending s' code := by
    intro code hp
    rw [Pending, hlinks]
    exact hp
  have hstagedAs : ∀ id p, StagedAs s' id p ↔ StagedAs s id p := by
    intro id p
    rw [StagedAs, StagedAs, hstaged]
  refine
    { ledger := hwf, codes := ?_, native := ?_, held := ?_, held_once := ?_, issued := ?_
      staged := ?_
      staged_free := ?_, staged_once := ?_, funded := ?_ }
  · rw [hlinks]
    exact h.codes
  · intro code row key hrow hnative
    rw [hlinks] at hrow
    obtain ⟨hlink, hstatus⟩ := h.native code row key hrow hnative
    refine ⟨hgrows.hasLink hlink, fun status hs => ?_⟩
    exact hgrows.onChain (onChain?_ne_active hs) (hstatus status hs)
  · intro i code hheld
    exact hpending code (h.held i code (by rw [← hcode i]; exact hheld))
  · intro i j code hi hj
    exact h.held_once i j code (by rw [← hcode i]; exact hi) (by rw [← hcode j]; exact hj)
  · intro id document hdocument
    rw [hissued]
    exact h.issued id document (by rw [← hstaged]; exact hdocument)
  · intro id p hp
    have hfacts := h.staged id p ((hstagedAs id p).mp hp)
    cases hreserved : p.payload.reserved? with
    | none => exact hgrows.payloadFacts hreserved hfacts
    | some code =>
      cases hpayload : p.payload with
      | solPaymentLink =>
        rw [hpayload] at hfacts
        exact ⟨hpending _ hfacts.1, hfacts.2⟩
      | _ => rw [hpayload] at hreserved; cases hreserved
  · intro id p code i hp hreserved
    rw [hcode i]
    exact h.staged_free id p code i ((hstagedAs id p).mp hp) hreserved
  · intro id id' p p' code hp hp' hreserved hreserved'
    exact h.staged_once id id' p p' code ((hstagedAs id p).mp hp)
      ((hstagedAs id' p').mp hp') hreserved hreserved'
  · intro hstrict key i hfunder
    rcases hfunded hstrict key i hfunder with hrecorded | hfunds
    · exact .inl (hgrows.recorded hrecorded)
    · exact .inr hfunds

/-- Nobody else may write the row at a code. -/
def Unclaimed (s : Store) (H : ℕ → Holding) (code : String) : Prop :=
  (∀ i, (H i).code ≠ some code) ∧ ∀ id p, StagedAs s id p → p.payload.reserved? ≠ some code

/-- A row changes: it stays pending, or it is nobody's. -/
theorem LinkInvariant.rowChange (h : LinkInvariant d strict s H) {code : String} {row : ShortLink}
    (hgrows : StoreGrows s (s.setLink code row)) (hrowCode : row.code = code)
    (hnative : ∀ key, Native row key →
      HasLink s key ∧ ∀ status, row.status.onChain? = some status → OnChain s key status)
    (hfree : Pending (s.setLink code row) code ∨ Unclaimed s H' code)
    (hcode : ∀ i code, (H' i).code = some code → (H i).code = some code)
    (hfunded : strict → ∀ key i, s.funder key = some i →
      Recorded (s.setLink code row) key ∨ (H' i).funds = some key) :
    LinkInvariant d strict (s.setLink code row) H' := by
  have hother : ∀ code', code' ≠ code → (s.setLink code row).links code' = s.links code' := by
    intro code' hne
    simp [Store.setLink, hne]
  have hpending : ∀ code', Pending s code' → code' ≠ code → Pending (s.setLink code row) code' := by
    intro code' hp hne
    rw [Pending, hother code' hne]
    exact hp
  refine
    { ledger := h.ledger, codes := ?_, native := ?_, held := ?_, held_once := ?_, issued := h.issued
      staged := ?_
      staged_free := ?_, staged_once := h.staged_once, funded := hfunded }
  · intro code' row' hrow'
    by_cases hne : code' = code
    · subst hne
      simp only [Store.setLink, Function.update_self, Option.some.injEq] at hrow'
      rw [← hrow', hrowCode]
    · exact h.codes code' row' (by rw [← hother code' hne]; exact hrow')
  · intro code' row' key hrow' hnative'
    by_cases hne : code' = code
    · subst hne
      simp only [Store.setLink, Function.update_self, Option.some.injEq] at hrow'
      subst hrow'
      exact hnative key hnative'
    · exact h.native code' row' key (by rw [← hother code' hne]; exact hrow') hnative'
  · intro i code' hheld
    by_cases hne : code' = code
    · subst hne
      rcases hfree with hp | hfree
      · exact hp
      · exact absurd hheld (hfree.1 i)
    · exact hpending code' (h.held i code' (hcode i code' hheld)) hne
  · intro i j code' hi hj
    exact h.held_once i j code' (hcode i code' hi) (hcode j code' hj)
  · intro id p hp
    have hfacts := h.staged id p hp
    cases hreserved : p.payload.reserved? with
    | none => exact hgrows.payloadFacts hreserved hfacts
    | some code' =>
      cases hpayload : p.payload with
      | solPaymentLink named =>
        rw [hpayload] at hfacts
        refine ⟨?_, hfacts.2⟩
        by_cases hne : named = code
        · rcases hfree with hpend | hfree
          · exact hne ▸ hpend
          · exact absurd (by rw [hpayload, hne]; rfl) (hfree.2 id p hp)
        · exact hpending named hfacts.1 hne
      | _ => rw [hpayload] at hreserved; cases hreserved
  · intro id p code' i hp hreserved hheld
    exact h.staged_free id p code' i hp hreserved (hcode i code' hheld)

/-- An operation takes over a pending row that is nobody's. -/
theorem LinkInvariant.acquire (h : LinkInvariant d strict s H) {code : String} (i : ℕ)
    (hpending : Pending s code) (hfree : Unclaimed s H code) :
    LinkInvariant d strict s (Function.update H i { H i with code := some code }) := by
  have hholds :
      ∀ j code', (Function.update H i { H i with code := some code } j).code = some code' →
      j = i ∧ code' = code ∨ (H j).code = some code' := by
    intro j code' hj
    by_cases hji : j = i
    · subst hji
      rw [Function.update_self] at hj
      exact .inl ⟨rfl, (Option.some.inj hj).symm⟩
    · rw [Function.update_of_ne hji] at hj
      exact .inr hj
  have hfunds :
      ∀ j, (Function.update H i { H i with code := some code } j).funds = (H j).funds := by
    intro j
    by_cases hji : j = i
    · subst hji
      rw [Function.update_self]
    · rw [Function.update_of_ne hji]
  exact
    { ledger := h.ledger, codes := h.codes, native := h.native, issued := h.issued
      staged := h.staged
      staged_once := h.staged_once
      held := by
        intro j code' hj
        rcases hholds j code' hj with ⟨-, rfl⟩ | hj
        · exact hpending
        · exact h.held j code' hj
      held_once := by
        intro j k code' hj hk
        rcases hholds j code' hj with ⟨hji, hcj⟩ | hj' <;>
          rcases hholds k code' hk with ⟨hki, hck⟩ | hk'
        · rw [hji, hki]
        · exact absurd (hcj ▸ hk') (hfree.1 k)
        · exact absurd (hck ▸ hj') (hfree.1 j)
        · exact h.held_once j k code' hj' hk'
      staged_free := by
        intro id p code' j hp hreserved hj
        rcases hholds j code' hj with ⟨-, rfl⟩ | hj
        · exact hfree.2 id p hp hreserved
        · exact h.staged_free id p code' j hp hreserved hj
      funded := by
        intro hstrict key j hfunder
        rw [hfunds j]
        exact h.funded hstrict key j hfunder }

theorem stagedAs_setStaged_none {id id' : String} {p : PreparedAction}
    (h : StagedAs (s.setStaged id none) id' p) :
    id' ≠ id ∧ StagedAs s id' p := by
  obtain ⟨document, hdocument, hp⟩ := h
  by_cases hid : id' = id
  · subst hid
    simp [Store.setStaged] at hdocument
  · exact ⟨hid, document, by simpa [Store.setStaged, hid] using hdocument, hp⟩

/-- An approval is taken or expires. -/
theorem LinkInvariant.unstage (h : LinkInvariant d strict s H) (id : String) :
    LinkInvariant d strict (s.setStaged id none) H where
  ledger := h.ledger
  codes := h.codes
  native := h.native
  held := h.held
  held_once := h.held_once
  issued id' document hdocument := by
    by_cases hid : id' = id
    · subst hid
      simp [Store.setStaged] at hdocument
    · exact h.issued id' document (by simpa [Store.setStaged, hid] using hdocument)
  staged id' p hp := h.staged id' p (stagedAs_setStaged_none hp).2
  staged_free id' p code i hp := h.staged_free id' p code i (stagedAs_setStaged_none hp).2
  staged_once id' id'' p p' code hp hp' :=
    h.staged_once id' id'' p p' code (stagedAs_setStaged_none hp).2 (stagedAs_setStaged_none hp').2
  funded := h.funded

/-- A prepare id is given out. -/
theorem LinkInvariant.issue (h : LinkInvariant d strict s H) (id : String) :
    LinkInvariant d strict { s with issued := insert id s.issued } H :=
  { h with
    issued := fun id' document hdocument =>
      Set.mem_insert_of_mem id (h.issued id' document hdocument) }

/-- An approval is staged under a new id, about a row that is nobody's any more. -/
theorem LinkInvariant.stage (h : LinkInvariant d strict s H) {id : String} {document : Json}
    (hfresh : id ∉ s.issued)
    (hfacts : ∀ p, PreparedAction.ofJson document = some p → PayloadFacts s p.payload ∧
      ∀ code, p.payload.reserved? = some code → Unclaimed s H code) :
    LinkInvariant d strict
      ({ s with issued := insert id s.issued }.setStaged id (some document)) H := by
  have hstaged :
      ∀ id' p, StagedAs
        ({ s with issued := insert id s.issued }.setStaged id (some document)) id' p →
      id' = id ∧ PreparedAction.ofJson document = some p ∨ id' ≠ id ∧ StagedAs s id' p := by
    rintro id' p ⟨document', hdocument', hp⟩
    by_cases hid : id' = id
    · subst hid
      simp only [Store.setStaged, Function.update_self, Option.some.injEq] at hdocument'
      exact .inl ⟨rfl, hdocument' ▸ hp⟩
    · exact .inr ⟨hid, document', by simpa [Store.setStaged, hid] using hdocument', hp⟩
  exact
    { ledger := h.ledger, codes := h.codes, native := h.native, held := h.held
      held_once := h.held_once
      funded := h.funded
      issued := by
        intro id' document' hdocument'
        by_cases hid : id' = id
        · exact .inl hid
        · exact .inr (h.issued id' document' (by simpa [Store.setStaged, hid] using hdocument'))
      staged := by
        intro id' p hp
        rcases hstaged id' p hp with ⟨-, hp⟩ | ⟨-, hp⟩
        · exact (hfacts p hp).1
        · exact h.staged id' p hp
      staged_free := by
        intro id' p code i hp hreserved
        rcases hstaged id' p hp with ⟨-, hp⟩ | ⟨-, hp⟩
        · exact ((hfacts p hp).2 code hreserved).1 i
        · exact h.staged_free id' p code i hp hreserved
      staged_once := by
        intro id' id'' p p' code hp hp' hreserved hreserved'
        rcases hstaged id' p hp with ⟨hid, hnew⟩ | ⟨-, hold⟩ <;>
          rcases hstaged id'' p' hp' with ⟨hid', hnew'⟩ | ⟨-, hold'⟩
        · rw [hid, hid']
        · exact absurd hreserved' (((hfacts p hnew).2 code hreserved).2 id'' p' hold')
        · exact absurd hreserved (((hfacts p' hnew').2 code hreserved').2 id' p hold)
        · exact h.staged_once id' id'' p p' code hold hold' hreserved hreserved' }

theorem storeGrows_of_ledger (hgrows : LedgerGrows s.ledger s'.ledger)
    (hlinks : s'.links = s.links) :
    StoreGrows s s' where
  ledger := hgrows
  row code row hrow :=
    ⟨row, by rw [hlinks]; exact hrow, Iff.rfl, fun _ hlive => ⟨hlive, rfl⟩, fun _ _ _ => rfl⟩

/-- The row at a code is replaced by one that keeps what live rows keep. -/
theorem storeGrows_setLink {code : String} {row : ShortLink} (h : ∀ old, s.links code = some old →
      (row.kind = .pay ↔ old.kind = .pay) ∧
      (old.kind = .pay → Live old → Live row ∧ row.envelopeId = old.envelopeId) ∧
      ∀ key, Native old key → old.status.onChain?.isSome → row.status = old.status) :
    StoreGrows s (s.setLink code row) where
  ledger := LedgerGrows.refl _
  row code' old hold := by
    by_cases hne : code' = code
    · subst hne
      exact ⟨row, by simp [Store.setLink], h old hold⟩
    · exact ⟨old, by simp [Store.setLink, hne, hold], Iff.rfl,
        fun _ hlive => ⟨hlive, rfl⟩, fun _ _ _ => rfl⟩

theorem landed_funder {i j : ℕ} {submission : Submission} {w : World} {key : Pubkey}
    (h : (s.landed i submission w).funder key = some j) :
    j = i ∧ submission.createdLink? = some key ∨ s.funder key = some j := by
  unfold Store.landed at h
  cases hcreated : submission.createdLink? with
  | none =>
    simp only [hcreated] at h
    exact .inr h
  | some created =>
    simp only [hcreated] at h
    by_cases hkey : key = created
    · subst hkey
      rw [Function.update_self] at h
      exact .inl ⟨(Option.some.inj h).symm, rfl⟩
    · rw [Function.update_of_ne hkey] at h
      exact .inr h

/-- What happens besides the operations keeps the protocol. -/
theorem LinkInvariant.environment (h : LinkInvariant d strict s H) (hacts : Environment d s s')
    (hlate : strict → s'.funder = s.funder) :
    StoreGrows s s' ∧ LinkInvariant d strict s' H := by
  cases hacts with
  | ledger e w step =>
    have hgrows : StoreGrows s { s with ledger := w } :=
      storeGrows_of_ledger (ledgerGrows_of_step step) rfl
    exact ⟨hgrows, h.ledgerChange hgrows (h.ledger.step step) rfl rfl rfl (fun _ => rfl) h.funded⟩
  | lands i submission w sent done =>
    have hgrows : StoreGrows s (s.landed i submission w) :=
      storeGrows_of_ledger done.ledgerGrows rfl
    refine ⟨hgrows, h.ledgerChange hgrows (done.wellFormed h.ledger) rfl rfl rfl (fun _ => rfl) ?_⟩
    intro hstrict key j hfunder
    rw [hlate hstrict] at hfunder
    exact h.funded hstrict key j hfunder
  | expires id => exact ⟨storeGrows_of_ledger (LedgerGrows.refl _) rfl, h.unstage id⟩
  | users users =>
    have hgrows : StoreGrows s { s with users := users } :=
      storeGrows_of_ledger (LedgerGrows.refl _) rfl
    exact ⟨hgrows, h.ledgerChange hgrows h.ledger rfl rfl rfl (fun _ => rfl) h.funded⟩
  | otherLink row kind old =>
    have hgrows : StoreGrows s (s.setLink row.code row) := by
      refine storeGrows_setLink fun row' hrow' => ⟨iff_of_false kind (old row' hrow'), ?_, ?_⟩
      · exact fun hpay => absurd hpay (old row' hrow')
      · exact fun key hnative => absurd hnative.1 (old row' hrow')
    refine ⟨hgrows, h.rowChange hgrows rfl ?_ (.inr ⟨?_, ?_⟩) (fun _ _ hheld => hheld) ?_⟩
    · exact fun key hnative => absurd hnative.1 kind
    · intro i hheld
      obtain ⟨row', hrow', hpay, -⟩ := h.held i _ hheld
      exact old row' hrow' hpay
    · intro id p hp hreserved
      have hfacts := h.staged id p hp
      cases hpayload : p.payload with
      | solPaymentLink named =>
        rw [hpayload] at hfacts hreserved
        obtain rfl := Option.some.inj hreserved
        obtain ⟨row', hrow', hpay, -⟩ := hfacts.1
        exact old row' hrow' hpay
      | _ => rw [hpayload] at hreserved; cases hreserved
    · intro hstrict key i hfunder
      rcases h.funded hstrict key i hfunder with hrecorded | hfunds
      · exact .inl (hgrows.recorded hrecorded)
      · exact .inr hfunds

end Changes

def linkProtocol (d : Deployment) (strict : Prop) : Protocol Store Holding where
  inv := LinkInvariant d strict
  grows := StoreGrows
  idle := .idle
  resting h := strict → h.funds = none

end VeriAgentPay.Backend
