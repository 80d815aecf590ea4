import VeriAgentPay.LinkProtocol

/-!
# What each request does to the protocol

One rule for each request an operation makes, and the rules that put operations together out of
their requests. The answers that matter later come back as facts that no other operation destroys.
-/

namespace VeriAgentPay.Backend
open FixedWidth CheckedOutcome Client LabelledRuns InterleavedPrograms

/-- A redeem or a cancel that runs by itself writes to a native row only what the chain says. -/
def Arbitrated (op : Operation) (s : Store) (r : Request) : Prop :=
  match op, r with
  | .redeem .., .updateLink code update | .cancel .., .updateLink code update =>
    ∀ row key status value, s.links code = some row → Native row key → update.status = some status →
      status.onChain? = some value → OnChain s key value
  | _, _ => True

/-- The operations that write a terminal status without a step on chain. -/
def Operation.Direct : Operation → Prop
  | .redeem .. | .cancel .. => True
  | _ => False

/-- The operation has funded a link that has no live row. -/
def Unrecorded (i : ℕ) (s : Store) : Prop := ∃ key, s.funder key = some i ∧ ¬Recorded s key

/-- An answer is no error that leaves a funded link without its row. -/
def Uninterrupted (i : ℕ) {r : Request} (x : Answer r) (s' : Store) : Prop :=
  (∃ e, x = .error e) → ¬Unrecorded i s'

/-- An operation in the place where it runs. -/
structure Setting where
  d : Deployment
  mayStart : Operation → Prop
  arbitrated : Prop
  strict : Prop
  process : ℕ
  operation : Operation

/-- The services where direct writes are arbitrated, and the services where operations that have
funded a link are not interrupted and no transaction creates a link after it was reported as
failed. -/
def linkServices (d : Deployment) (mayStart : Operation → Prop) (arbitrated strict : Prop) :
    Semantics Store Operation Request Answer :=
  (backend d).restrict mayStart
    (fun i op s r x s' => (arbitrated → Arbitrated op s r) ∧ (strict → Uninterrupted i x s'))
    (fun i s => strict → ¬Unrecorded i s) (fun s s' => strict → s'.funder = s.funder)

namespace Setting

variable {α β : Type} (c : Setting)

def protocol : Protocol Store Holding := linkProtocol c.d c.strict

def services : Semantics Store Operation Request Answer :=
  linkServices c.d c.mayStart c.arbitrated c.strict

def Runs (x : Service α) (K : Store → Prop) (h : Holding)
    (Q : Except Failure α → Store → Holding → Prop) : Prop :=
  c.protocol.Follows c.services c.process c.operation x.run K h Q

/-- The service holds the same at its end, and returns with a lasting fact. -/
def Keeps (x : Service α) (K : Store → Prop) (h : Holding) (F : α → Store → Prop) : Prop :=
  c.Runs x K h fun r s h' => h' = h ∧ K s ∧ ∀ a, r = .ok a → F a s

variable {c} {x : Service α} {f : α → Service β} {K K' : Store → Prop} {h : Holding}

theorem Runs.weaken {Q Q' : Except Failure α → Store → Holding → Prop} (hx : c.Runs x K h Q)
    (hK : ∀ s H, LinkInvariant c.d c.strict s H → H c.process = h → K' s → K s)
    (hQ : ∀ r s h', Q r s h' → Q' r s h') : c.Runs x K' h Q' :=
  Protocol.Follows.weaken hx hK hQ

theorem Runs.andThen {Q : Except Failure α → Store → Holding → Prop}
    {Q' : Except Failure β → Store → Holding → Prop} (hx : c.Runs x K h Q)
    (hf : ∀ a h', c.Runs (f a) (fun s => Q (.ok a) s h') h' Q')
    (herror : ∀ e s h', Q (.error e) s h' → Q' (.error e) s h') : c.Runs (x >>= f) K h Q' :=
  Protocol.Follows.andThen hx hf herror

theorem Runs.assuming {φ : Prop} {Q : Except Failure α → Store → Holding → Prop}
    (hx : φ → c.Runs x K h Q) :
    c.Runs x (fun s => φ ∧ K s) h Q :=
  Protocol.Follows.assuming hx

/-- What is known of the start in every state is a fact. -/
theorem Runs.given {φ : Prop} {Q : Except Failure α → Store → Holding → Prop} (hφ : ∀ s, K s → φ)
    (hx : φ → c.Runs x K h Q) : c.Runs x K h Q :=
  (Runs.assuming hx).weaken (fun s _ _ _ hs => ⟨hφ s hs, hs⟩) fun _ _ _ hQ => hQ

/-- Two branches that go on in the same way. -/
theorem Runs.join {φ : Prop} [Decidable φ] {x' : Service α}
    {Q : Except Failure β → Store → Holding → Prop}
    (hx : c.Runs ((if φ then x else x') >>= f) K h Q) :
    c.Runs (if φ then x >>= f else x' >>= f) K h Q := by
  split at hx
  · rwa [if_pos ‹_›]
  · rwa [if_neg ‹_›]

theorem Keeps.join {φ : Prop} [Decidable φ] {x' : Service α} {G : β → Store → Prop}
    (hx : c.Keeps ((if φ then x else x') >>= f) K h G) :
    c.Keeps (if φ then x >>= f else x' >>= f) K h G :=
  Runs.join hx

/-- A branch that does something first. -/
theorem Keeps.joinSkip {φ : Prop} [Decidable φ] {x : Service Unit} {f : Unit → Service β}
    {F : Unit → Store → Prop} {G : β → Store → Prop} (hx : φ → c.Keeps x K h F)
    (hf : c.Keeps (f ()) K h G) :
    c.Keeps (if φ then x >>= f else f ()) K h G := by
  split
  · rename_i hφ
    refine Runs.andThen (hx hφ) (fun _ h' => ?_)
      fun e s h' hQ => ⟨hQ.1, hQ.2.1, fun _ hb => nomatch hb⟩
    refine Runs.given (fun s hs => hs.1) fun hh => ?_
    subst hh
    exact Runs.weaken hf (fun _ _ _ _ hs => hs.2.1) fun _ _ _ hQ => hQ
  · exact hf

theorem Keeps.given {φ : Prop} {F : α → Store → Prop} (hφ : ∀ s, K s → φ)
    (hx : φ → c.Keeps x K h F) : c.Keeps x K h F :=
  Runs.given hφ hx

theorem Keeps.andThen {F : α → Store → Prop} {Q : Except Failure β → Store → Holding → Prop}
    (hx : c.Keeps x K h F) (hf : ∀ a, c.Runs (f a) (fun s => K s ∧ F a s) h Q)
    (herror : ∀ e s, K s → Q (.error e) s h) :
    c.Runs (x >>= f) K h Q := by
  refine Runs.andThen hx (fun a h' => ?_) ?_
  · refine Runs.assuming fun hh => ?_
    subst hh
    exact (hf a).weaken (fun s H _ _ hs => ⟨hs.1, hs.2 a rfl⟩) fun _ _ _ hQ => hQ
  · rintro e s h' ⟨rfl, hs, -⟩
    exact herror e s hs

/-- A service whose result is not needed to go on. -/
theorem Keeps.next {F : α → Store → Prop} {Q : Except Failure β → Store → Holding → Prop}
    (hx : c.Keeps x K h F) (hf : ∀ a, c.Runs (f a) K h Q) (herror : ∀ e s, K s → Q (.error e) s h) :
    c.Runs (x >>= f) K h Q :=
  hx.andThen (fun a => (hf a).weaken (fun _ _ _ _ hs => hs.1) fun _ _ _ hQ => hQ) herror

theorem Keeps.bind {F : α → Store → Prop} {G : β → Store → Prop} (hx : c.Keeps x K h F)
    (hf : ∀ a, c.Keeps (f a) (fun s => K s ∧ F a s) h G) : c.Keeps (x >>= f) K h G := by
  refine hx.andThen (fun a => ?_) fun e s hs => ⟨rfl, hs, fun a ha => nomatch ha⟩
  exact Runs.weaken (hf a) (fun _ _ _ _ hs => hs) fun r s h' hQ => ⟨hQ.1, hQ.2.1.1, hQ.2.2⟩

theorem Keeps.bindNext {F : α → Store → Prop} {G : β → Store → Prop} (hx : c.Keeps x K h F)
    (hf : ∀ a, c.Keeps (f a) K h G) : c.Keeps (x >>= f) K h G :=
  hx.next hf fun _ _ hs => ⟨rfl, hs, fun _ ha => nomatch ha⟩

theorem Keeps.weaken {F G : α → Store → Prop} (hx : c.Keeps x K h F)
    (hF : ∀ a s, K s → F a s → G a s) :
    c.Keeps x K h G :=
  Runs.weaken hx (fun _ _ _ _ hs => hs)
    fun _ s _ hQ => ⟨hQ.1, hQ.2.1, fun a ha => hF a s hQ.2.1 (hQ.2.2 a ha)⟩

theorem Runs.ignoringFailure {x : Service Unit} {Q : Except Failure Unit → Store → Holding → Prop}
    (hx : c.Runs x K h Q) :
    c.Runs (ignoringFailure x) K h fun _ s h' => ∃ result, Q result s h' := by
  refine Protocol.Follows.tryCatch hx (fun e h' => ?_) fun a s h' hQ => ⟨_, hQ⟩
  exact fun s H _ hs _ => ⟨_, hs⟩

/-- A failure is handled and passed on. -/
theorem Runs.onFailure {handler : Service Unit} {Q Q' : Except Failure α → Store → Holding → Prop}
    (hx : c.Runs x K h Q)
    (hhandler : ∀ e h', c.Runs handler (fun s => Q (.error e) s h') h'
      fun _ s h'' => Q' (.error e) s h'' ∧
      ∀ e', Q' (.error e') s h'')
    (hok : ∀ a s h', Q (.ok a) s h' → Q' (.ok a) s h') : c.Runs (onFailure x handler) K h Q' := by
  refine Protocol.Follows.tryCatch hx (fun e h' => ?_) hok
  refine Protocol.Follows.andThen (hhandler e h') (fun _ h'' => ?_) fun e' s h'' hQ => hQ.2 e'
  exact fun s H _ hs _ => hs.1

theorem keeps_ignoringFailure {x : Service Unit} {F : Unit → Store → Prop} (hx : c.Keeps x K h F) :
    c.Keeps (ignoringFailure x) K h fun _ _ => True := by
  refine Protocol.Follows.tryCatch hx (fun e h' => ?_)
    fun a s h' hQ => ⟨hQ.1, hQ.2.1, fun _ _ => trivial⟩
  exact fun s H _ hs hh => ⟨hs.1, hs.2.1, fun _ _ => trivial⟩

/-- A service that keeps what it holds leaves lasting knowledge alone. -/
theorem Keeps.strengthen {F : α → Store → Prop} (hstable : c.protocol.Stable K')
    (hx : c.Keeps x K h F) :
    c.Keeps x (fun s => K s ∧ K' s) h F := by
  refine Runs.weaken (Protocol.Follows.frame hx hstable) (fun _ _ _ _ hs => hs) ?_
  exact fun r s h' hQ => ⟨hQ.1.1, ⟨hQ.1.2.1, hQ.2⟩, hQ.1.2.2⟩

end Setting

/-- Knowledge that no step of another operation destroys. -/
class Lasting (K : Store → Prop) : Prop where
  later : ∀ s s', StoreGrows s s' → K s → K s'

section Knowledge

variable {K K' : Store → Prop}

instance (φ : Prop) : Lasting fun _ => φ := ⟨fun _ _ _ hφ => hφ⟩

instance [Lasting K] [Lasting K'] : Lasting fun s => K s ∧ K' s :=
  ⟨fun s s' hgrows h => ⟨Lasting.later s s' hgrows h.1, Lasting.later s s' hgrows h.2⟩⟩

instance (φ : Prop) [Lasting K] : Lasting fun s => φ → K s :=
  ⟨fun s s' hgrows h hφ => Lasting.later s s' hgrows (h hφ)⟩

instance {ι : Sort*} (L : ι → Store → Prop) [∀ a, Lasting (L a)] : Lasting fun s => ∀ a, L a s :=
  ⟨fun s s' hgrows h a => Lasting.later s s' hgrows (h a)⟩

instance {ι : Sort*} (L : ι → Store → Prop) [∀ a, Lasting (L a)] : Lasting fun s => ∃ a, L a s :=
  ⟨fun s s' hgrows ⟨a, h⟩ => ⟨a, Lasting.later s s' hgrows h⟩⟩

instance (key : Pubkey) : Lasting fun s => HasLink s key := ⟨fun _ _ hgrows h => hgrows.hasLink h⟩

/-- A row that was read once, as it is from then on. -/
def Seen (row : ShortLink) (s : Store) : Prop :=
  (∃ row', s.links row.code = some row' ∧ (row'.kind = .pay ↔ row.kind = .pay) ∧
    (row.kind = .pay → Live row → Live row' ∧ row'.envelopeId = row.envelopeId)) ∧
  ∀ key, Native row key → HasLink s key

/-- The chain says of the link what the status says. -/
def Ended (key : Pubkey) (status : LinkStatus) (s : Store) : Prop :=
  ∀ value, status.onChain? = some value → OnChain s key value

/-- The status may be written: the row is live, and the chain agrees if the row is native. -/
def Settled (code : String) (status : LinkStatus) (s : Store) : Prop :=
  ∃ row, s.links code = some row ∧ (row.kind = .pay → Live row ∧ status.onChain?.isSome) ∧
    ∀ key, Native row key → Ended key status s

/-- What a call that has been executed leaves on chain. -/
def Done (call : Call) (s : Store) : Prop :=
  ∀ key status, linkOutcome? call = some (key, status) → status ≠ paymentLinkStatusActive →
  OnChain s key status

/-- A link that was read settled is settled for good, in the way its status says. -/
def Final (key : Pubkey) (state : PaymentLink) (s : Store) : Prop :=
  state.status ≠ paymentLinkStatusActive →
    (SolanaPaymentLinksService.paymentLinkStatus state.status).onChain?.isSome ∧
      Ended key (SolanaPaymentLinksService.paymentLinkStatus state.status) s

/-- What a staged payload says of the links it names. -/
def Named (payload : Payload) (s : Store) : Prop :=
  match payload with
  | .solPaymentLink _ paymentLink .. => ∃ key, paymentLink = toBase58 key
  | _ => PayloadFacts s payload

instance (row : ShortLink) : Lasting (Seen row) where
  later s s' hgrows h := by
    obtain ⟨⟨old, hold, hkind, hlive⟩, hlink⟩ := h
    obtain ⟨new, hnew, hkind', hlive', -⟩ := hgrows.row _ old hold
    refine ⟨⟨new, hnew, hkind'.trans hkind, fun hpay hrow => ?_⟩,
      fun key hnative => hgrows.hasLink (hlink key hnative)⟩
    obtain ⟨hold', henvelope⟩ := hlive hpay hrow
    obtain ⟨hnew', henvelope'⟩ := hlive' (hkind.mpr hpay) hold'
    exact ⟨hnew', henvelope'.trans henvelope⟩

instance (key : Pubkey) (status : LinkStatus) : Lasting (Ended key status) where
  later _ _ hgrows h value hvalue := hgrows.onChain (onChain?_ne_active hvalue) (h value hvalue)

instance (code : String) (status : LinkStatus) : Lasting (Settled code status) where
  later s s' hgrows h := by
    obtain ⟨row, hrow, hlive, hchain⟩ := h
    obtain ⟨row', hrow', hkind, hkept, -⟩ := hgrows.row _ row hrow
    have hkept' : row'.kind = .pay → Live row' ∧ row'.envelopeId = row.envelopeId :=
      fun hpay => hkept (hkind.mp hpay) (hlive (hkind.mp hpay)).1
    refine ⟨row', hrow',
      fun hpay => ⟨(hkept' hpay).1, (hlive (hkind.mp hpay)).2⟩, fun key hnative => ?_⟩
    exact Lasting.later s s' hgrows
      (hchain key ⟨hkind.mp hnative.1, (hkept' hnative.1).2.symm.trans hnative.2⟩)

theorem Done.ended {call : Call} {key : Pubkey} {status : LinkStatus} {value : UInt8} {s : Store}
    (h : Done call s) (houtcome : linkOutcome? call = some (key, value))
    (hvalue : status.onChain? = some value) : Ended key status s := by
  intro value' hvalue'
  obtain rfl := Option.some.inj (hvalue.symm.trans hvalue')
  exact h key value houtcome (onChain?_ne_active hvalue)

instance (call : Call) : Lasting (Done call) where
  later _ _ hgrows h key status houtcome hsettled :=
    hgrows.onChain hsettled (h key status houtcome hsettled)

instance (key : Pubkey) (state : PaymentLink) : Lasting (Final key state) where
  later s s' hgrows h hsettled := ⟨(h hsettled).1, Lasting.later s s' hgrows (h hsettled).2⟩

instance (payload : Payload) : Lasting (Named payload) where
  later s s' hgrows h := by
    cases payload with
    | solPaymentLinkCancel code paymentLink vaultNonce =>
      have hfacts : PayloadFacts s (.solPaymentLinkCancel code paymentLink vaultNonce) := h
      exact hgrows.payloadFacts rfl hfacts
    | solPaymentLink => exact h
    | _ => trivial

theorem named_of_payloadFacts {s : Store} {payload : Payload} (h : PayloadFacts s payload) :
    Named payload s := by
  cases payload with
  | solPaymentLink => exact h.2
  | solPaymentLinkCancel => exact h
  | _ => trivial

/-- The escrow of a row that was read is the link at its address. -/
theorem Seen.hasLink {s : Store} {row : ShortLink} {key : Pubkey} (h : Seen row s)
    (hpay : row.kind = .pay) (henvelope : row.envelopeId = some (toBase58 key)) : HasLink s key :=
  h.2 key ⟨hpay, henvelope⟩

/-- A live row that was read keeps its escrow, so what the chain says of it may be written. -/
theorem Seen.settled {s : Store} {row : ShortLink} {status : LinkStatus} (h : Seen row s)
    (hlive : Live row) (hstatus : row.kind = .pay → status.onChain?.isSome)
    (hchain : ∀ key, Native row key → Ended key status s) :
    Settled row.code status s := by
  obtain ⟨⟨row', hrow', hkind, hkept⟩, -⟩ := h
  refine ⟨row', hrow',
    fun hpay => ⟨(hkept (hkind.mp hpay) hlive).1, hstatus (hkind.mp hpay)⟩, fun key hnative => ?_⟩
  have hpay := hkind.mp hnative.1
  exact hchain key ⟨hpay, (hkept hpay hlive).2.symm.trans hnative.2⟩

end Knowledge

section Changes

variable {d : Deployment} {strict : Prop} {s s' : Store} {H H' : ℕ → Holding} {i : ℕ}

theorem LinkInvariant.seen (h : LinkInvariant d strict s H) {row : ShortLink}
    (hrow : s.links row.code = some row) :
    Seen row s :=
  ⟨⟨row, hrow, Iff.rfl, fun _ hlive => ⟨hlive, rfl⟩⟩,
    fun key hnative => (h.native _ row key hrow hnative).1⟩

/-- Operations that hold less: only the link that was funded has to be accounted for. -/
theorem LinkInvariant.releaseAt (h : LinkInvariant d strict s H) (held : Holding)
    (hcode : ∀ code, held.code = some code → (H i).code = some code)
    (hfunds : strict → held.funds = (H i).funds ∨ ¬Unrecorded i s) :
    LinkInvariant d strict s (Function.update H i held) := by
  apply h.release
  · intro j code hj
    by_cases hji : j = i
    · subst hji
      rw [Function.update_self] at hj
      exact hcode code hj
    · rwa [Function.update_of_ne hji] at hj
  · intro hstrict key j hfunder
    by_cases hji : j = i
    · subst hji
      rw [Function.update_self]
      rcases hfunds hstrict with hsame | hrecorded
      · rw [hsame]
        exact h.funded hstrict key j hfunder
      · by_contra hnot
        exact hrecorded ⟨key, hfunder, fun hr => hnot (.inl hr)⟩
    · rw [Function.update_of_ne hji]
      exact h.funded hstrict key j hfunder

/-- A row that is not pending is nobody's. -/
theorem LinkInvariant.unclaimed (h : LinkInvariant d strict s H) {code : String}
    (hnot : ¬Pending s code) :
    Unclaimed s H code := by
  refine ⟨fun j hheld => hnot (h.held j code hheld), fun id p hp hreserved => ?_⟩
  have hfacts := h.staged id p hp
  cases hpayload : p.payload with
  | solPaymentLink named =>
    rw [hpayload] at hfacts hreserved
    obtain rfl := Option.some.inj hreserved
    exact hnot hfacts.1
  | _ => rw [hpayload] at hreserved; cases hreserved

/-- A row held by one operation is nobody else's. -/
theorem LinkInvariant.unclaimed_of_held (h : LinkInvariant d strict s H) {code : String}
    {held : Holding} (hcode : (H i).code = some code) (hfree : held.code = none) :
    Unclaimed s (Function.update H i held) code := by
  refine ⟨fun j hheld => ?_, fun id p hp hreserved => h.staged_free id p code i hp hreserved hcode⟩
  by_cases hji : j = i
  · subst hji
    rw [Function.update_self, hfree] at hheld
    cases hheld
  · rw [Function.update_of_ne hji] at hheld
    exact hji (h.held_once j i code hheld hcode)

theorem LinkInvariant.funded_later (h : LinkInvariant d strict s H) (hgrows : StoreGrows s s')
    (hfunder : s'.funder = s.funder) :
    strict → ∀ key j, s'.funder key = some j → Recorded s' key ∨ (H j).funds = some key := by
  intro hstrict key j hkey
  rcases h.funded hstrict key j (by rw [← hfunder]; exact hkey) with hrecorded | hfunds
  · exact .inl (hgrows.recorded hrecorded)
  · exact .inr hfunds

/-- A write that leaves the status and the escrow of a row alone. -/
theorem LinkInvariant.click (h : LinkInvariant d strict s H) {code : String} {row : ShortLink}
    (hrow : s.links code = some row) :
    StoreGrows s (s.setLink code (LinkUpdate.apply { incrementClickCount := true } row)) ∧
      LinkInvariant d strict
        (s.setLink code (LinkUpdate.apply { incrementClickCount := true } row)) H := by
  have hgrows :
      StoreGrows s (s.setLink code (LinkUpdate.apply { incrementClickCount := true } row)) := by
    refine storeGrows_setLink fun old hold => ?_
    obtain rfl := Option.some.inj (hrow.symm.trans hold)
    exact ⟨Iff.rfl, fun _ hlive => ⟨hlive, rfl⟩, fun _ _ _ => rfl⟩
  refine ⟨hgrows, h.rowChange hgrows (h.codes code row hrow)
    (fun key hnative => h.native code row key hrow hnative)
    ?_ (fun _ _ hheld => hheld) (h.funded_later hgrows rfl)⟩
  by_cases hpending : Pending s code
  · obtain ⟨row', hrow', hkind, hstatus, henvelope⟩ := hpending
    obtain rfl := Option.some.inj (hrow.symm.trans hrow')
    exact .inl ⟨_, Function.update_self .., hkind, hstatus, henvelope⟩
  · exact .inr (h.unclaimed hpending)

/-- A terminal status is written where the chain agrees. -/
theorem LinkInvariant.settle (h : LinkInvariant d strict s H) {code : String} {status : LinkStatus}
    {update : LinkUpdate} {row : ShortLink} (hrow : s.links code = some row)
    (hsettled : Settled code status s) (hstatus : update.status = some status)
    (henvelope : update.envelopeId = none) :
    StoreGrows s (s.setLink code (update.apply row)) ∧
    LinkInvariant d strict (s.setLink code (update.apply row)) H := by
  obtain ⟨row', hrow', hlive, hchain⟩ := hsettled
  obtain rfl := Option.some.inj (hrow.symm.trans hrow')
  have hnewStatus : (update.apply row).status = status := by simp [LinkUpdate.apply, hstatus]
  have hnewEnvelope : (update.apply row).envelopeId = row.envelopeId := by
    simp [LinkUpdate.apply, henvelope]
  have hnewLive : row.kind = .pay → Live (update.apply row) := by
    intro hpay
    have hterminal := (hlive hpay).2
    rw [Live, hnewStatus]
    constructor <;> rintro rfl <;> cases hterminal
  have hnewNative : ∀ key, Native (update.apply row) key → Native row key := by
    intro key hnative
    exact ⟨hnative.1, hnewEnvelope.symm.trans hnative.2⟩
  have hgrows : StoreGrows s (s.setLink code (update.apply row)) := by
    refine storeGrows_setLink fun old hold => ?_
    obtain rfl := Option.some.inj (hrow.symm.trans hold)
    refine ⟨Iff.rfl, fun hpay _ => ⟨hnewLive hpay, hnewEnvelope⟩, fun key hnative hterminal => ?_⟩
    -- both statuses say what the chain says
    obtain ⟨value, hvalue⟩ := Option.isSome_iff_exists.mp (hlive hnative.1).2
    obtain ⟨value', hvalue'⟩ := Option.isSome_iff_exists.mp hterminal
    obtain ⟨link, hlink, hvalues⟩ := hchain key hnative value hvalue
    obtain ⟨link', hlink', hvalues'⟩ := (h.native code row key hrow hnative).2 value' hvalue'
    obtain rfl := AccountData.link.inj (hlink.symm.trans hlink')
    rw [hnewStatus]
    exact onChain?_injective hvalue (hvalues ▸ hvalues' ▸ hvalue')
  refine ⟨hgrows,
    h.rowChange hgrows (h.codes code row hrow) ?_ (.inr (h.unclaimed ?_)) (fun _ _ hheld => hheld)
    (h.funded_later hgrows rfl)⟩
  · intro key hnative
    refine ⟨(h.native code row key hrow (hnewNative key hnative)).1, fun value hvalue => ?_⟩
    rw [hnewStatus] at hvalue
    exact hchain key (hnewNative key hnative) value hvalue
  · rintro ⟨row', hrow', hpay, hpending, -⟩
    obtain rfl := Option.some.inj (hrow.symm.trans hrow')
    exact (hlive hpay).1.1 hpending

/-- The operation that holds a row writes it for the last time. -/
theorem LinkInvariant.finish (h : LinkInvariant d strict s H) {code : String} {row : ShortLink}
    (row' : ShortLink) (held : Holding) (hcode : (H i).code = some code)
    (hrow : s.links code = some row) (hkind : row'.kind = row.kind)
    (hrowCode : row'.code = row.code) (hfree : held.code = none)
    (hnative : ∀ key, Native row' key → HasLink s key ∧ row'.status.onChain? = none)
    (hfunds : held.funds = (H i).funds ∨
      ∀ key, (H i).funds = some key → Native row' key ∧ Live row') :
    StoreGrows s (s.setLink code row') ∧
      LinkInvariant d strict (s.setLink code row') (Function.update H i held) := by
  obtain ⟨old, hold, hpay, hpending, hnone⟩ := h.held i code hcode
  obtain rfl := Option.some.inj (hrow.symm.trans hold)
  have hgrows : StoreGrows s (s.setLink code row') := by
    refine storeGrows_setLink fun old hold => ?_
    obtain rfl := Option.some.inj (hrow.symm.trans hold)
    refine ⟨by rw [hkind], fun _ hlive => absurd hpending hlive.1, fun key hold' => ?_⟩
    exact nomatch hnone.symm.trans hold'.2
  refine ⟨hgrows, h.rowChange hgrows (hrowCode.trans (h.codes code row hrow)) ?_
    (.inr (h.unclaimed_of_held hcode hfree)) ?_ ?_⟩
  · intro key hkey
    obtain ⟨hlink, hterminal⟩ := hnative key hkey
    exact ⟨hlink, fun status hstatus => by rw [hterminal] at hstatus; cases hstatus⟩
  · intro j code' hj
    by_cases hji : j = i
    · subst hji
      rw [Function.update_self, hfree] at hj
      cases hj
    · rwa [Function.update_of_ne hji] at hj
  · intro hstrict key j hfunder
    rcases h.funded_later hgrows rfl hstrict key j hfunder with hrecorded | hheld
    · exact .inl hrecorded
    · by_cases hji : j = i
      · subst hji
        rw [Function.update_self]
        rcases hfunds with hsame | hrecords
        · exact .inr (hsame.trans hheld)
        · obtain ⟨hkey, hlive⟩ := hrecords key hheld
          exact .inl ⟨code, row', by simp [Store.setLink], hkey, hlive⟩
      · rw [Function.update_of_ne hji]
        exact .inr hheld

end Changes

namespace Setting

section Asking

variable {c : Setting} {r : Request} {K : Store → Prop} {h : Holding}

/-- The rule of one request, from what it does to the protocol. -/
theorem runs_ask {Q : Answer r → Store → Holding → Prop}
    (hlasting : ∀ x h', Lasting fun s => Q x s h')
    (hstep : ∀ s H x s', LinkInvariant c.d c.strict s H → K s → H c.process = h →
      Performs c.d c.process s r x s' →
      (c.arbitrated → Arbitrated c.operation s r) → (c.strict → Uninterrupted c.process x s') →
      StoreGrows s s' ∧ ∃ h', Q x s' h' ∧ LinkInvariant c.d c.strict s'
        (Function.update H c.process h')) :
    c.Runs (ask r) K h Q := by
  intro s H x s' hinv hs hh hdone
  obtain ⟨hgrows, h', hQ, hinv'⟩ := hstep s H x s' hinv hs hh hdone.1 hdone.2.1 hdone.2.2
  exact ⟨hgrows, fun s => Q x s h', h', (hlasting x h').later, hQ, hinv', fun s _ _ hs _ => hs⟩

theorem keeps_ask {F : Result r → Store → Prop} [hK : Lasting K] [hF : ∀ a, Lasting (F a)]
    (hstep : ∀ s H x s', LinkInvariant c.d c.strict s H → K s → Performs c.d c.process s r x s' →
      (c.arbitrated → Arbitrated c.operation s r) →
      StoreGrows s s' ∧ LinkInvariant c.d c.strict s' H ∧ ∀ a, x = .ok a → F a s') :
    c.Keeps (ask r) K h F := by
  refine runs_ask (fun x h' => inferInstance) fun s H x s' hinv hs hh hdone harbitrated _ => ?_
  obtain ⟨hgrows, hinv', hfact⟩ := hstep s H x s' hinv hs hdone harbitrated
  refine ⟨hgrows, h, ⟨rfl, hK.later s s' hgrows hs, hfact⟩, ?_⟩
  rwa [← hh, Function.update_eq_self]

/-- A request that reads. -/
theorem keeps_read {F : Result r → Store → Prop} [Lasting K] [∀ a, Lasting (F a)]
    (hread : ∀ s H x s', LinkInvariant c.d c.strict s H → K s → Performs c.d c.process s r x s' →
      s' = s ∧ ∀ a, x = .ok a → F a s) : c.Keeps (ask r) K h F := by
  refine keeps_ask fun s H x s' hinv hs hdone _ => ?_
  obtain ⟨rfl, hfact⟩ := hread s H x s' hinv hs hdone
  exact ⟨StoreGrows.refl _, hinv, hfact⟩

end Asking

section Reading

variable {c : Setting} {K : Store → Prop} {h : Holding} {α : Type}

/-- The requests that leave the state alone. -/
def ReadsOnly : Request → Prop
  | .createLink _ | .updateLink .. | .updateLinks .. | .submit _ | .stage _ | .take _ => False
  | _ => True

theorem performs_readsOnly {d : Deployment} {i : ℕ} {s s' : Store} {r : Request} {x : Answer r}
    (hr : ReadsOnly r) (hdone : Performs d i s r x s') : s' = s := by
  cases r <;> first | exact hdone | exact hdone.1 | cases hr

theorem keeps_within [Lasting K] {x : Service α} (hx : x.run.Within ReadsOnly) :
    c.Keeps x K h fun _ _ => True := by
  have hfollows : c.Runs x K h fun _ s h' => h' = h ∧ K s :=
    Protocol.Follows.within hx
      (fun s r x s' hr hdone => performs_readsOnly hr hdone.1) StoreGrows.refl Lasting.later
  exact hfollows.weaken (fun _ _ _ _ hs => hs) fun _ _ _ hQ => ⟨hQ.1, hQ.2, fun _ _ => trivial⟩

theorem keeps_checked (x : Except Failure α) : c.Keeps (checked x) K h fun a _ => x = .ok a :=
  fun _ _ _ hs hh => ⟨hh ▸ rfl, hs, fun _ ha => ha⟩

theorem keeps_check (φ : Prop) [Decidable φ] (e : Failure) : c.Keeps (check φ e) K h fun _ _ => φ :=
  (keeps_checked _).weaken fun _ _ _ hok => require_eq_ok.mp hok

theorem keeps_pure (a : α) : c.Keeps (pure a) K h fun b _ => b = a :=
  fun _ _ _ hs hh => ⟨hh ▸ rfl, hs, fun _ hb => (Except.ok.inj hb).symm⟩

variable [Lasting K]

theorem keeps_findLink (code : String) : c.Keeps (ask (.findLink code)) K h fun found s =>
    ∀ row, found = some row → row.code = code ∧ Seen row s := by
  refine keeps_read fun s H x s' hinv _ hdone => ⟨hdone.1, fun found hx row hrow => ?_⟩
  have hlinks : s.links code = some row := by rw [← hdone.2 found hx, hrow]
  have hcode := hinv.codes code row hlinks
  exact ⟨hcode, hinv.seen (by rw [hcode]; exact hlinks)⟩

theorem keeps_findLinks (filter : LinkFilter) : c.Keeps (ask (.findLinks filter)) K h fun rows s =>
    ∀ row ∈ rows, filter.matches row ∧ Seen row s := by
  refine keeps_read fun s H x s' hinv _ hdone => ⟨hdone.1, fun rows hx row hrow => ?_⟩
  obtain ⟨hlinks, hmatches⟩ := (hdone.2 rows hx row).mp hrow
  exact ⟨hmatches, hinv.seen hlinks⟩

/-- A payment link that exists is read as it is. -/
theorem keeps_readPaymentLink {key : Pubkey} {φ : Prop} (hlink : ∀ s, K s → φ → HasLink s key) :
    c.Keeps (ask (.readPaymentLink key)) K h fun found s => ∀ state, found = some state → φ →
      Final key state s := by
  refine keeps_read fun s H x s' hinv hs hdone => ⟨hdone.1,
    fun found hx state hfound hφ hsettled => ?_⟩
  obtain ⟨link, hdata⟩ := hlink s hs hφ
  have hreads := hdone.2
  rw [hx, hfound, hdata] at hreads
  obtain rfl : link = state := by
    rcases hreads with hread | ⟨hread, -⟩
    · exact Option.some.inj hread
    · cases hread
  have hstatus :
      (SolanaPaymentLinksService.paymentLinkStatus link.status).onChain? = some link.status := by
    rcases hinv.ledger.link_status key link hdata with hs | hs | hs | hs
    · exact absurd hs hsettled
    all_goals rw [hs]; rfl
  refine ⟨by rw [hstatus]; rfl, fun value hvalue => ⟨link, hdata, ?_⟩⟩
  exact Option.some.inj (hstatus.symm.trans hvalue)

end Reading

section Writing

variable {c : Setting} {K : Store → Prop} [Lasting K] {h : Holding}

theorem keeps_click (code : String) :
    c.Keeps (ask (.updateLink code { incrementClickCount := true })) K h fun _ _ => True := by
  refine keeps_ask fun s H x s' hinv hs hdone _ => ?_
  rcases hdone with ⟨row, hrow, ⟨rfl, -⟩ | ⟨rfl, -⟩⟩ | ⟨rfl, -⟩
  · exact ⟨(hinv.click hrow).1, (hinv.click hrow).2, fun _ _ => trivial⟩
  · exact ⟨StoreGrows.refl _, hinv, fun _ _ => trivial⟩
  · exact ⟨StoreGrows.refl _, hinv, fun _ _ => trivial⟩

/-- A terminal status is written to a row that may have it. -/
theorem keeps_settle {code : String} {status : LinkStatus} {update : LinkUpdate}
    (hstatus : update.status = some status) (henvelope : update.envelopeId = none)
    (hwrite : ∀ s, K s → (c.arbitrated → Arbitrated c.operation s (.updateLink code update)) →
      Settled code status s) :
    c.Keeps (ask (.updateLink code update)) K h fun _ _ => True := by
  refine keeps_ask fun s H x s' hinv hs hdone harbitrated => ?_
  rcases hdone with ⟨row, hrow, ⟨rfl, -⟩ | ⟨rfl, -⟩⟩ | ⟨rfl, -⟩
  · obtain ⟨hgrows, hinv'⟩ := hinv.settle hrow (hwrite s hs harbitrated) hstatus henvelope
    exact ⟨hgrows, hinv', fun _ _ => trivial⟩
  · exact ⟨StoreGrows.refl _, hinv, fun _ _ => trivial⟩
  · exact ⟨StoreGrows.refl _, hinv, fun _ _ => trivial⟩

omit [Lasting K]

/-- A row that failed is let go. -/
theorem runs_fail {code : String} (hcode : h.code = some code) :
    c.Runs (ask (.updateLink code { status := some .failed })) K h
      fun _ _ h' => h' = ⟨none, h.funds⟩ := by
  refine runs_ask (fun _ _ => inferInstance) fun s H x s' hinv _ hh hdone _ _ => ?_
  subst hh
  have hrelease :
      LinkInvariant c.d c.strict s (Function.update H c.process ⟨none, (H c.process).funds⟩) :=
    hinv.releaseAt _ (fun _ hnone => nomatch hnone) fun _ => .inl rfl
  rcases hdone with ⟨row, hrow, ⟨rfl, -⟩ | ⟨rfl, -⟩⟩ | ⟨rfl, -⟩
  · obtain ⟨row', hrow', -, -, hnone⟩ := hinv.held _ code hcode
    obtain rfl := Option.some.inj (hrow.symm.trans hrow')
    obtain ⟨hgrows, hinv'⟩ := hinv.finish (LinkUpdate.apply { status := some .failed } row)
      ⟨none, (H c.process).funds⟩ hcode hrow rfl rfl rfl
      (fun key hnative => nomatch hnone.symm.trans hnative.2) (.inl rfl)
    exact ⟨hgrows, _, rfl, hinv'⟩
  · exact ⟨StoreGrows.refl _, _, rfl, hrelease⟩
  · exact ⟨StoreGrows.refl _, _, rfl, hrelease⟩

/-- Only the row with the code of the filter changes. -/
theorem links_updateLinks {s : Store} {filter : LinkFilter} {update : LinkUpdate} {code : String}
    {row : ShortLink} (hcodes : ∀ code row, s.links code = some row → row.code = code)
    (hfilter : filter.code = some code) (hrow : s.links code = some row) :
    (fun code => (s.links code).map fun row => if filter.matches row then update.apply row
      else row) =
      Function.update s.links code
        (some (if filter.matches row then update.apply row else row)) := by
  funext code'
  by_cases hcode : code' = code
  · subst hcode
    rw [Function.update_self, hrow]
    rfl
  · rw [Function.update_of_ne hcode]
    cases hother : s.links code' with
    | none => rfl
    | some other =>
      have hne : ¬other.code = code := by rwa [hcodes code' other hother]
      simp [LinkFilter.matches, hfilter, hne]

theorem runs_failPending {code : String} (hcode : h.code = some code) :
    c.Runs (SolanaRelayerService.failPendingSolPaymentLink code) K h
      fun _ _ h' => h' = ⟨none, h.funds⟩ := by
  refine runs_ask (fun _ _ => inferInstance) fun s H x s' hinv _ hh hdone _ _ => ?_
  subst hh
  have hrelease :
      LinkInvariant c.d c.strict s (Function.update H c.process ⟨none, (H c.process).funds⟩) :=
    hinv.releaseAt _ (fun _ hnone => nomatch hnone) fun _ => .inl rfl
  rcases hdone with ⟨rfl, -⟩ | ⟨rfl, -⟩
  · obtain ⟨row, hrow, -, -, hnone⟩ := hinv.held _ code hcode
    rw [links_updateLinks hinv.codes rfl hrow]
    have hfails :
        ∀ row', row'.kind = row.kind → row'.code = row.code → row'.envelopeId = row.envelopeId →
        StoreGrows s (s.setLink code row') ∧ LinkInvariant c.d c.strict (s.setLink code row')
          (Function.update H c.process ⟨none, (H c.process).funds⟩) := by
      intro row' hkind hrowCode henvelope
      exact hinv.finish row' _ hcode hrow hkind hrowCode rfl
        (fun key hnative => nomatch (henvelope.trans hnone).symm.trans hnative.2) (.inl rfl)
    split
    · obtain ⟨hgrows, hinv'⟩ := hfails (LinkUpdate.apply { status := some .failed } row) rfl rfl rfl
      exact ⟨hgrows, _, rfl, hinv'⟩
    · obtain ⟨hgrows, hinv'⟩ := hfails row rfl rfl rfl
      exact ⟨hgrows, _, rfl, hinv'⟩
  · exact ⟨StoreGrows.refl _, _, rfl, hrelease⟩

/-- The row of a funded link becomes active; an error leaves no link behind. -/
theorem runs_activate {code fundingTxHash : String} {key : Pubkey} (hcode : h.code = some code)
    (hfunds : ∀ key', h.funds = some key' → key' = key) (hlink : ∀ s, K s → HasLink s key) :
    c.Runs (ask (.updateLink code
        { envelopeId := some (toBase58 key), fundingTxHash := some fundingTxHash
          status := some .active })) K h
      fun _ _ h' => h' = .idle := by
  refine runs_ask (fun _ _ => inferInstance) fun s H x s' hinv hs hh hdone _ hquiet => ?_
  subst hh
  have hrelease : (∃ e, x = .error e) → s' = s →
      LinkInvariant c.d c.strict s (Function.update H c.process .idle) := by
    rintro herror rfl
    exact hinv.releaseAt _ (fun _ hnone => nomatch hnone)
      fun hstrict => .inr (hquiet hstrict herror)
  rcases hdone with ⟨row, hrow, ⟨rfl, -⟩ | ⟨rfl, herror⟩⟩ | ⟨rfl, herror⟩
  · obtain ⟨row', hrow', hpay, -⟩ := hinv.held _ code hcode
    obtain rfl := Option.some.inj (hrow.symm.trans hrow')
    obtain ⟨hgrows, hinv'⟩ := hinv.finish
      (LinkUpdate.apply
        { envelopeId := some (toBase58 key), fundingTxHash := some fundingTxHash
          status := some .active } row)
      .idle hcode hrow rfl rfl rfl
      (fun key' hnative => ⟨toBase58_injective (Option.some.inj hnative.2) ▸ hlink s hs, rfl⟩)
      (.inr fun key' hheld =>
        ⟨⟨hpay, by rw [hfunds key' hheld]; rfl⟩, by simp [Live, LinkUpdate.apply]⟩)
    exact ⟨hgrows, _, rfl, hinv'⟩
  · exact ⟨StoreGrows.refl _, _, rfl, hrelease herror rfl⟩
  · exact ⟨StoreGrows.refl _, _, rfl, hrelease herror rfl⟩

/-- A pending row is created and held. -/
theorem runs_createLink {row : ShortLink} (hfree : h.code = none) (hkind : row.kind = .pay)
    (hstatus : row.status = .pending) (henvelope : row.envelopeId = none) :
    c.Runs (ask (.createLink row)) K h fun x _ h' =>
      (∀ row', x = .ok row' → row' = row ∧ h' = { h with code := some row.code }) ∧
      ∀ e, x = .error e → h' = h := by
  refine runs_ask (fun _ _ => inferInstance) fun s H x s' hinv _ hh hdone _ _ => ?_
  subst hh
  have hsame : LinkInvariant c.d c.strict s (Function.update H c.process (H c.process)) := by
    rwa [Function.update_eq_self]
  rcases hdone with ⟨hnone, ⟨rfl, hx⟩ | ⟨rfl, e, rfl⟩⟩ | ⟨rfl, e, rfl⟩
  · have hpending : Pending (s.setLink row.code row) row.code :=
      ⟨row, Function.update_self .., hkind, hstatus, henvelope⟩
    have hgrows : StoreGrows s (s.setLink row.code row) :=
      storeGrows_setLink fun old hold => nomatch hnone.symm.trans hold
    have hinv' : LinkInvariant c.d c.strict (s.setLink row.code row) H :=
      hinv.rowChange hgrows rfl (fun key hnative => nomatch henvelope.symm.trans hnative.2)
        (.inl hpending)
        (fun _ _ hheld => hheld) (hinv.funded_later hgrows rfl)
    have hunclaimed : Unclaimed s H row.code := by
      apply hinv.unclaimed
      rintro ⟨old, hold, -⟩
      exact nomatch hnone.symm.trans hold
    rcases hx with rfl | ⟨e, rfl⟩
    · exact ⟨hgrows, _,
        ⟨fun row' hrow' => ⟨(Except.ok.inj hrow').symm, rfl⟩, fun e he => nomatch he⟩,
        hinv'.acquire _ hpending hunclaimed⟩
    · exact ⟨hgrows, _,
        ⟨fun row' hrow' => (nomatch hrow'), fun _ _ => rfl⟩, by rwa [Function.update_eq_self]⟩
  · exact ⟨StoreGrows.refl _, _, ⟨fun row' hrow' => (nomatch hrow'), fun _ _ => rfl⟩, hsame⟩
  · exact ⟨StoreGrows.refl _, _, ⟨fun row' hrow' => (nomatch hrow'), fun _ _ => rfl⟩, hsame⟩

/-- A write while a link is funded and not recorded: an error leaves no link behind. -/
theorem runs_write [Lasting K] (entry : OtherWrite) :
    c.Runs (ask (.write entry)) K h fun x s h' =>
      K s ∧ (∀ u, x = .ok u → h' = h) ∧ ∀ e, x = .error e → h' = ⟨h.code, none⟩ := by
  refine runs_ask (fun _ _ => inferInstance) fun s H x s' hinv hs hh hdone _ hquiet => ?_
  obtain rfl : s' = s := hdone
  subst hh
  refine ⟨StoreGrows.refl _, ?_⟩
  cases x with
  | ok u => exact ⟨_,
      ⟨hs, fun _ _ => rfl, fun e he => nomatch he⟩, by rwa [Function.update_eq_self]⟩
  | error e =>
    refine ⟨_, ⟨hs, fun u hu => (nomatch hu), fun _ _ => rfl⟩, ?_⟩
    exact hinv.releaseAt _ (fun _ hcode => hcode) fun hstrict => .inr (hquiet hstrict ⟨e, rfl⟩)

end Writing

section Submitting

variable {c : Setting} {K : Store → Prop} {h : Holding} {submission : Submission}

theorem linkOutcome?_of_created {key : Pubkey} (hcreated : submission.createdLink? = some key) :
    linkOutcome? submission.call = some (key, paymentLinkStatusActive) := by
  obtain ⟨call, signers, verification⟩ := submission
  cases call with
  | createPaymentLinkWithSession a args =>
    obtain rfl : a.paymentLink = key := Option.some.inj hcreated
    rfl
  | createSolPaymentLinkWithPasskey a args =>
    obtain rfl : a.paymentLink = key := Option.some.inj hcreated
    rfl
  | _ => cases hcreated

/-- A transaction that creates no link. -/
theorem keeps_submit [Lasting K] (hcreated : submission.createdLink? = none) :
    c.Keeps (ask (.submit submission)) K h fun _ s => Done submission.call s := by
  refine keeps_ask fun s H x s' hinv hs hdone _ => ?_
  rcases hdone with ⟨w, hlands, rfl⟩ | ⟨⟨e, rfl⟩, rfl | rfl⟩
  · have hgrows : StoreGrows s (s.landed c.process submission w) :=
      storeGrows_of_ledger hlands.ledgerGrows rfl
    have hfunder : (s.landed c.process submission w).funder = s.funder := by
      simp [Store.landed, hcreated]
    refine ⟨hgrows,
      hinv.ledgerChange hgrows (hlands.wellFormed hinv.ledger) rfl rfl rfl (fun _ => rfl) ?_, ?_⟩
    · rw [hfunder]
      exact hinv.funded
    · exact fun _ _ key status houtcome _ => hlands.outcome houtcome
  · refine ⟨StoreGrows.refl _, hinv, ?_⟩
    intro a ha
    cases ha
  · have hgrows : StoreGrows s { s with inFlight := (c.process, submission) :: s.inFlight } :=
      storeGrows_of_ledger (LedgerGrows.refl _) rfl
    refine ⟨hgrows, hinv.ledgerChange hgrows hinv.ledger rfl rfl rfl (fun _ => rfl) hinv.funded, ?_⟩
    intro a ha
    cases ha

/-- A transaction that creates a link: the operation holds it until its row is active. -/
theorem runs_fund {key : Pubkey} (hcreated : submission.createdLink? = some key)
    (hfree : h.funds = none) :
    c.Runs (ask (.submit submission)) K h fun x s h' =>
      (∀ signature, x = .ok signature → h' = ⟨h.code, some key⟩ ∧ HasLink s key) ∧
      ∀ e, x = .error e → h' = h := by
  refine runs_ask (fun _ _ => inferInstance) fun s H x s' hinv _ hh hdone _ hquiet => ?_
  subst hh
  have hcodes :
      ∀ j, (Function.update H c.process ⟨(H c.process).code, some key⟩ j).code = (H j).code := by
    intro j
    by_cases hj : j = c.process
    · subst hj
      rw [Function.update_self]
    · rw [Function.update_of_ne hj]
  rcases hdone with ⟨w, hlands, rfl⟩ | ⟨⟨e, rfl⟩, rfl | rfl⟩
  · have hgrows : StoreGrows s (s.landed c.process submission w) :=
      storeGrows_of_ledger hlands.ledgerGrows rfl
    have hinv' : LinkInvariant c.d c.strict (s.landed c.process submission w)
        (Function.update H c.process ⟨(H c.process).code, some key⟩) := by
      refine hinv.ledgerChange hgrows (hlands.wellFormed hinv.ledger) rfl rfl rfl hcodes ?_
      intro hstrict key' j hfunder
      rcases landed_funder hfunder with ⟨rfl, hkey'⟩ | hfunder
      · obtain rfl := Option.some.inj (hcreated.symm.trans hkey')
        rw [Function.update_self]
        exact .inr rfl
      · by_cases hj : j = c.process
        · subst hj
          rcases hinv.funded hstrict key' _ hfunder with hrecorded | hheld
          · exact .inl hrecorded
          · rw [hfree] at hheld
            cases hheld
        · rw [Function.update_of_ne hj]
          exact hinv.funded hstrict key' j hfunder
    refine ⟨hgrows, ?_⟩
    cases x with
    | ok signature =>
      obtain ⟨link, hlink, -⟩ := hlands.outcome (linkOutcome?_of_created hcreated)
      exact ⟨_, ⟨fun _ _ => ⟨rfl, link, hlink⟩, fun e he => nomatch he⟩, hinv'⟩
    | error e =>
      refine ⟨_, ⟨fun _ hx => (nomatch hx), fun _ _ => rfl⟩, ?_⟩
      have hreleased := hinv'.releaseAt (i := c.process) (H c.process)
        (fun code hcode => by rw [hcodes]; exact hcode)
          fun hstrict => .inr (hquiet hstrict ⟨e, rfl⟩)
      rwa [Function.update_idem] at hreleased
  · exact ⟨StoreGrows.refl _, _,
      ⟨fun _ hx => (nomatch hx), fun _ _ => rfl⟩, by rwa [Function.update_eq_self]⟩
  · have hgrows : StoreGrows s { s with inFlight := (c.process, submission) :: s.inFlight } :=
      storeGrows_of_ledger (LedgerGrows.refl _) rfl
    refine ⟨hgrows, _, ⟨fun _ hx => (nomatch hx), fun _ _ => rfl⟩, ?_⟩
    rw [Function.update_eq_self]
    exact hinv.ledgerChange hgrows hinv.ledger rfl rfl rfl (fun _ => rfl) hinv.funded

end Submitting

section Staging

variable {c : Setting} {K : Store → Prop} {h : Holding}

/-- An approval is staged: the pending row that it names is let go. -/
theorem runs_stage {prepared : PreparedAction} (hfinite : prepared.payload.Finite)
    (hreserved : prepared.payload.reserved? = h.code)
    (hnamed : ∀ s, K s → Named prepared.payload s) :
    c.Runs (SolanaPasskeyExecutionService.stage prepared) K h
      fun _ _ h' => h' = ⟨none, h.funds⟩ := by
  refine runs_ask (fun _ _ => inferInstance) fun s H x s' hinv hs hh hdone _ _ => ?_
  subst hh
  have hreleased :
      LinkInvariant c.d c.strict s (Function.update H c.process ⟨none, (H c.process).funds⟩) :=
    hinv.releaseAt _ (fun _ hnone => nomatch hnone) fun _ => .inl rfl
  have hfacts : PayloadFacts s prepared.payload := by
    have hnames := hnamed s hs
    cases hpayload : prepared.payload with
    | solPaymentLink code =>
      rw [hpayload] at hnames hreserved
      exact ⟨hinv.held _ code hreserved.symm, hnames⟩
    | _ =>
      rw [hpayload] at hnames
      exact hnames
  have hfree : ∀ code, prepared.payload.reserved? = some code →
      Unclaimed s (Function.update H c.process ⟨none, (H c.process).funds⟩) code :=
    fun code hcode => hinv.unclaimed_of_held (hreserved.symm.trans hcode) rfl
  have hdocument : ∀ p, PreparedAction.ofJson prepared.toJson = some p → PayloadFacts s p.payload ∧
      ∀ code, p.payload.reserved? = some code →
        Unclaimed s (Function.update H c.process ⟨none, (H c.process).funds⟩) code := by
    intro p hp
    rw [PreparedAction.ofJson_toJson hfinite] at hp
    obtain rfl := Option.some.inj hp
    exact ⟨hfacts, hfree⟩
  obtain ⟨id, hfresh, ⟨rfl, -⟩ | ⟨rfl, -⟩⟩ := hdone
  · exact ⟨storeGrows_of_ledger (LedgerGrows.refl _) rfl, _, rfl, hreleased.stage hfresh hdocument⟩
  · exact ⟨storeGrows_of_ledger (LedgerGrows.refl _) rfl, _, rfl, hreleased.issue id⟩

/-- An approval is taken, with the pending row that it names. -/
theorem runs_take {prepareId : String} (hidle : h = .idle) :
    c.Runs (ask (.take prepareId)) K h fun x s h' =>
      (∀ document prepared, x = .ok (some document) →
        PreparedAction.ofJson document = some prepared →
        h' = ⟨prepared.payload.reserved?, none⟩ ∧ Named prepared.payload s) ∧
      ((∀ document prepared, x = .ok (some document) →
        PreparedAction.ofJson document ≠ some prepared) → h' = .idle) := by
  refine runs_ask (fun _ _ => inferInstance) fun s H x s' hinv _ hh hdone _ _ => ?_
  subst hidle
  have hsame : LinkInvariant c.d c.strict s (Function.update H c.process .idle) := by
    rwa [← hh, Function.update_eq_self]
  have hgrows : StoreGrows s (s.setStaged prepareId none) :=
    storeGrows_of_ledger (LedgerGrows.refl _) rfl
  rcases hdone with ⟨rfl, rfl | ⟨e, rfl⟩⟩ | ⟨rfl, e, rfl⟩
  · refine ⟨hgrows, ?_⟩
    by_cases hread : ∃ document prepared, s.staged prepareId = some document ∧
        PreparedAction.ofJson document = some prepared
    · obtain ⟨document, prepared, hdocument, hprepared⟩ := hread
      have hstaged : StagedAs s prepareId prepared := ⟨document, hdocument, hprepared⟩
      refine ⟨⟨prepared.payload.reserved?, none⟩, ⟨?_, ?_⟩, ?_⟩
      · intro document' prepared' hx hprepared'
        obtain rfl := Option.some.inj (hdocument.symm.trans (Except.ok.inj hx))
        obtain rfl := Option.some.inj (hprepared.symm.trans hprepared')
        exact ⟨rfl, Lasting.later s _ hgrows (named_of_payloadFacts (hinv.staged _ _ hstaged))⟩
      · intro hnone
        exact absurd hprepared (hnone document prepared (by rw [hdocument]))
      · cases hreserved : prepared.payload.reserved? with
        | none => exact hsame.unstage prepareId
        | some code =>
          have hpending : Pending s code := by
            by_contra hnot
            exact (hinv.unclaimed hnot).2 _ _ hstaged hreserved
          have hunclaimed : Unclaimed (s.setStaged prepareId none) H code := by
            refine ⟨fun j => hinv.staged_free _ _ code j hstaged hreserved,
              fun id p hp hreserved' => ?_⟩
            obtain ⟨hid, hp⟩ := stagedAs_setStaged_none hp
            exact hid (hinv.staged_once _ _ _ _ code hp hstaged hreserved' hreserved)
          have hacquired := (hinv.unstage prepareId).acquire c.process hpending hunclaimed
          rwa [hh] at hacquired
    · refine ⟨.idle, ⟨?_, fun _ => rfl⟩, hsame.unstage prepareId⟩
      intro document prepared hx hprepared
      exact absurd ⟨document, prepared, Except.ok.inj hx, hprepared⟩ hread
  · exact ⟨hgrows, .idle, ⟨fun _ _ hx => (nomatch hx), fun _ => rfl⟩, hsame.unstage prepareId⟩
  · exact ⟨StoreGrows.refl _, .idle, ⟨fun _ _ hx => (nomatch hx), fun _ => rfl⟩, hsame⟩

end Staging

end Setting

end VeriAgentPay.Backend
