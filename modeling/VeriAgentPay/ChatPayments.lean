import VeriAgentPay.PlaceholderVaults

/-!
# Payments from a chat message

`handlePayAction` for USDC, with what it starts: a claimable link or a session transfer. The
texts of the replies and what follows a finished transfer are left out.
-/

namespace VeriAgentPay.Identity
open CheckedOutcome Client UnreliableStores IdentityService
open Backend (Failure SmartWallet SessionKey trim truthy isSolanaAddress)
open Backend.SolanaPaymentLinksService (CreateEscrowLinkDto)

structure SocialMessagePayload where
  platform : String
  platformId : String
  username : Option String

/-- The part of a parsed command that a payment uses. -/
structure ParsedIntent where
  amount : Option JsNumber
  tokenSymbol : Option String
  tokenInfoSymbol : Option String
  recipient : Option String

structure SessionTransferParams where
  userId : String
  vaultAddress : String
  recipientAddress : String
  txAmountUSD : ℚ
  deriving DecidableEq

inductive PayEffect where
  | createClaimLink (dto : CreateEscrowLinkDto)
  | executeSessionTransfer (params : SessionTransferParams)

namespace PlatformService

variable (d : Setting) (toUpperCase : String → String) (now : ℤ)

/-- The sessions that `resolveUser` includes, newest first. -/
def currentSession (sender : User) : Option SessionKey :=
  sender.sessionKeys.find? fun session => session.expiryAt ≥ now ∧ session.revokedAt = none ∧
  session.activatedAt ≠ none

/-- Whom an address or a handle pays. -/
def recipientAddress (recipientInput : String) : Service (Option String) :=
  if isSolanaAddress recipientInput then do
    let _ ← findUser fun user => user.smartWallet.map SmartWallet.address = some recipientInput
    pure (some recipientInput)
  else do
    let recipientUser ← resolveUserByHandle recipientInput
    pure (addressOf recipientUser)

def claimLinkDto (payload : SocialMessagePayload) (sender : User) (recipientInput : String)
    (amount : ℚ) :
    CreateEscrowLinkDto :=
  { senderUserId := sender.id, recipientHandle := recipientInput, platform := payload.platform
    amount := .finite amount, token := some "USDC", fromUser := payload.username }

def sessionTransferParams (sender : User) (wallet : SmartWallet) (recipientAddress : String)
    (amount : ℚ) :
    SessionTransferParams :=
  { userId := sender.id, vaultAddress := wallet.address, recipientAddress := recipientAddress
    txAmountUSD := amount }

/-- A larger payment, and any of a careful sender, waits for a passkey. -/
def needsApproval (sender : User) (session : SessionKey) (amount : ℚ) : Prop :=
  sender.requireBiometricsAlways ∨ amount > session.perTxLimitUSD

instance (sender : User) (session : SessionKey) (amount : ℚ) :
    Decidable (needsApproval sender session amount) :=
  inferInstanceAs (Decidable (_ ∨ _))

def payRecipient (payload : SocialMessagePayload) (sender : User) (wallet : SmartWallet)
    (session : SessionKey) (recipientInput : String) (amount : ℚ) : Service (List PayEffect) := do
  let recipientAddress ← recipientAddress recipientInput
  if needsApproval sender session amount then pure []
  else
    match recipientAddress with
    | none => pure [.createClaimLink (claimLinkDto payload sender recipientInput amount)]
    | some recipientAddress =>
      -- without the session key the transfer is not started
      tryCatch
        (do
          query fun _ _ => ()
          pure [.executeSessionTransfer
            (sessionTransferParams sender wallet recipientAddress amount)])
        fun _ => pure []

def payAs (payload : SocialMessagePayload) (tokenSymbol recipient : String) (amount : ℚ)
    (sender : Option User) :
    Service (List PayEffect) :=
  match sender, sender.bind fun sender => sender.smartWallet with
  | some sender, some wallet =>
    match currentSession now sender with
    | some session =>
      if tokenSymbol = "SOL" then pure []
        else payRecipient payload sender wallet session (trim recipient) amount
    | none => pure []
  | _, _ => pure []

def handlePayAction (payload : SocialMessagePayload) (intent : ParsedIntent) :
    Service (List PayEffect) := do
  match intent.amount, truthy intent.recipient with
  | some (.finite amount), some recipient =>
    let tokenSymbol :=
      toUpperCase ((truthy intent.tokenSymbol <|> truthy intent.tokenInfoSymbol).getD "USDC")
    if amount ≤ 0 ∨ (tokenSymbol ≠ "USDC" ∧ tokenSymbol ≠ "SOL") then pure []
    else do
      let sender ← resolveUser d payload.platform payload.platformId payload.username
      payAs now payload tokenSymbol recipient amount sender
  | _, _ => pure []

end PlatformService

section Steadiness

variable {d : Setting}

theorem steady_query {α : Type} (f : ℕ → Tables → α) : Steady (query f) := Steady.request _ _

theorem steady_statement (f : Tables → Except Failure Tables) : Steady (statement f) :=
  Steady.request _ _

theorem steady_ignoringFailure {x : Service Unit} (h : Steady x) : Steady (ignoringFailure x) :=
  h.tryCatch fun _ => Steady.pure ()

theorem steady_syncSocialNode (userId platform platformUserId : String) (username : Option String) :
    Steady (syncSocialNode d userId platform platformUserId username) := by
  unfold syncSocialNode
  apply Steady.bind (steady_query _)
  intro existing
  dsimp only
  split
  · exact Steady.pure false
  · apply Steady.bind (steady_statement _)
    intro _
    split
    · apply Steady.bind (steady_ignoringFailure (steady_statement _))
      intro _
      exact Steady.pure true
    · exact Steady.pure true

theorem steady_adoptProvisionalAccount (platform platformUserId : String)
    (username : Option String) :
    Steady (adoptProvisionalAccount d platform platformUserId username) := by
  unfold adoptProvisionalAccount
  split
  · dsimp only
    split_ifs
    · exact Steady.pure none
    · apply Steady.bind
      · unfold provisionalHolder
        apply Steady.bind (steady_query _)
        intro node
        split
        · exact Steady.pure _
        · apply Steady.bind (steady_query _)
          intro user
          exact Steady.pure _
      · intro holder
        split
        · exact Steady.pure none
        · apply Steady.tryCatch
          · apply Steady.bind (steady_statement _)
            intro _
            exact Steady.pure _
          · intro _
            exact Steady.pure none
  · exact Steady.pure none

theorem steady_resolveUser (platform platformUserId : String) (username : Option String) :
    Steady (resolveUser d platform platformUserId username) := by
  unfold resolveUser
  split_ifs
  · exact Steady.pure none
  · apply Steady.bind (steady_query _)
    intro node
    split
    · exact Steady.pure _
    · split
      · exact Steady.pure none
      · apply Steady.bind (steady_query _)
        intro user
        split
        · apply Steady.bind
          · apply steady_ignoringFailure
            apply Steady.bind (steady_syncSocialNode _ _ _ _)
            intro _
            exact Steady.pure ()
          · intro _
            exact Steady.pure _
        · apply Steady.bind (steady_adoptProvisionalAccount _ _ _)
          intro adopted
          split
          · exact Steady.pure none
          · exact steady_query _

end Steadiness

section Recipients

variable (d : Setting) (toUpperCase : String → String) (now : ℤ)

/-- The account holds the handle, as a name or as an id, on the platform. -/
def HoldsHandle (t : Tables) (platform handle : String) (user : User) : Prop :=
  (∃ node ∈ t.nodes, node.platform = platform ∧ node.userId = user.id ∧
      (node.username = some handle ∨ node.platformUserId = handle)) ∨
    ∃ c : Column, c.platform = platform ∧ c.get user = some handle

/-- The wallet of an account with a passkey that holds the handle on the platform. -/
def NamedWallet (t : Tables) (platform handle address : String) : Prop :=
  ∃ user ∈ t.users, HoldsHandle t platform handle user ∧
    ∃ wallet, user.smartWallet = some wallet ∧ ¬SmartWallet.isPlaceholder wallet ∧
    wallet.address = address

/-- The rows that `resolveUserByHandle` may return. -/
def bearsHandle (handle : String) (user : User) : Bool :=
  user.username = some handle || user.telegramId = some handle || user.whatsappId = some handle ||
    user.discordId = some handle || user.slackId = some handle

/-- The message asks for a payment of USDC. -/
structure PaysUsdc (intent : ParsedIntent) (amount : ℚ) (recipient : String) : Prop where
  amount_eq : intent.amount = some (.finite amount)
  positive : 0 < amount
  recipient_eq : truthy intent.recipient = some recipient
  token_eq : toUpperCase
    ((truthy intent.tokenSymbol <|> truthy intent.tokenInfoSymbol).getD "USDC") = "USDC"

/-- The sender has a wallet and a session, and the session covers the amount without a passkey. -/
def MaySpend (sender : User) (amount : ℚ) : Prop :=
  ∃ wallet session, sender.smartWallet = some wallet ∧
  PlatformService.currentSession now sender = some session ∧
    ¬PlatformService.needsApproval sender session amount

/-- What may be started for a message: at most one thing, a transfer only to the address named or to
the wallet of the account named, and a link only for the handle named. -/
structure PaysNamed (t : Tables) (platform recipientInput : String) (effects : List PayEffect) :
    Prop where
  single : effects.length ≤ 1
  transfers : ∀ params, .executeSessionTransfer params ∈ effects →
    (isSolanaAddress recipientInput ∧ params.recipientAddress = recipientInput) ∨
      NamedWallet t platform (withoutAt recipientInput) params.recipientAddress
  links : ∀ dto, .createClaimLink dto ∈ effects → dto.platform = platform ∧
    dto.recipientHandle = recipientInput

/-- Every account that bears the handle anywhere and has a wallet is the one named. -/
def OnlyNamed (t : Tables) (platform handle : String) : Prop :=
  ∀ user ∈ t.users, bearsHandle handle user → ∀ address, addressOf (some user) = some address →
    NamedWallet t platform handle address

end Recipients

section Payments

variable {d : Setting} {toUpperCase : String → String} {now : ℤ}

/-- The address that a recipient pays to in these tables. -/
def PaysTo (t : Tables) (recipientInput address : String) : Prop :=
  (isSolanaAddress recipientInput ∧ address = recipientInput) ∨
    (¬isSolanaAddress recipientInput ∧
      ∃ user ∈ t.users, bearsHandle (withoutAt recipientInput) user ∧
      addressOf (some user) = some address)

theorem ensures_recipientAddress {s : Tables} (recipientInput : String) :
    Ensures (· = s) (PlatformService.recipientAddress recipientInput)
      (fun address t => t = s ∧ (∀ a, address = some a → PaysTo s recipientInput a) ∧
        (address = none → ¬isSolanaAddress recipientInput))
      (· = s) := by
  unfold PlatformService.recipientAddress
  split_ifs with haddress
  · apply Ensures.bind (ensures_findUser _)
    intro _
    apply Ensures.pure
    rintro t ⟨ht, -⟩
    refine ⟨ht, ?_, fun h => nomatch h⟩
    rintro _ ⟨⟩
    exact .inl ⟨haddress, rfl⟩
  · apply Ensures.bind (ensures_findUser _)
    intro user
    apply Ensures.pure
    rintro t ⟨rfl, hfound, -⟩
    refine ⟨rfl, ?_, fun _ => haddress⟩
    intro a ha
    cases user with
    | none => simp [addressOf, truthy] at ha
    | some user =>
      obtain ⟨huser, hbears⟩ := hfound user rfl
      exact .inr ⟨haddress, user, huser, hbears, ha⟩

/-- What a payment starts, by the tables it looks the recipient up in. -/
def Starts (s : Tables) (payload : SocialMessagePayload) (sender : User) (wallet : SmartWallet)
    (session : SessionKey) (recipientInput : String) (amount : ℚ)
    (effects : List PayEffect) : Prop :=
  (PlatformService.needsApproval sender session amount ∧ effects = []) ∨
    (¬PlatformService.needsApproval sender session amount ∧
      ((∃ a, PaysTo s recipientInput a ∧ (effects = [] ∨
          effects = [.executeSessionTransfer
            (PlatformService.sessionTransferParams sender wallet a amount)])) ∨
        (¬isSolanaAddress recipientInput ∧
          effects = [.createClaimLink
            (PlatformService.claimLinkDto payload sender recipientInput amount)])))

theorem ensures_payRecipient {s : Tables} (payload : SocialMessagePayload) (sender : User)
    (wallet : SmartWallet) (session : SessionKey) (recipientInput : String) (amount : ℚ) :
    Ensures (· = s)
      (PlatformService.payRecipient payload sender wallet session recipientInput amount)
        (fun effects t => t = s ∧
          Starts s payload sender wallet session recipientInput amount effects) (· = s) := by
  unfold PlatformService.payRecipient
  apply Ensures.bind (ensures_recipientAddress recipientInput)
  intro address
  split_ifs with hneeds
  · exact Ensures.pure fun t ht => ⟨ht.1, .inl ⟨hneeds, rfl⟩⟩
  · cases address with
    | none => exact Ensures.pure fun t ht => ⟨ht.1, .inr ⟨hneeds, .inr ⟨ht.2.2 rfl, rfl⟩⟩⟩
    | some a =>
      apply Ensures.tryCatch (R := fun t => t = s ∧ PaysTo s recipientInput a)
      · apply Ensures.bind (R := fun _ t => t = s ∧ PaysTo s recipientInput a)
        · exact Ensures.read (fun t ht => ⟨ht.1, ht.2.1 a rfl⟩) fun _ t ht => ⟨ht.1, ht.2.1 a rfl⟩
        · intro _
          exact Ensures.pure fun t ht => ⟨ht.1, .inr ⟨hneeds, .inl ⟨a, ht.2, .inr rfl⟩⟩⟩
      · intro _
        exact Ensures.pure fun t ht => ⟨ht.1, .inr ⟨hneeds, .inl ⟨a, ht.2, .inl rfl⟩⟩⟩

/-- An account that bears the handle may be the one that is paid. -/
theorem payRecipient_transfers {s : Tables} {payload : SocialMessagePayload} {sender user : User}
    {wallet : SmartWallet} {session : SessionKey} {recipientInput address : String} {amount : ℚ}
    {n : ℕ} (hno : ¬isSolanaAddress recipientInput)
    (hpick : pick n s.users (bearsHandle (withoutAt recipientInput)) = some user)
    (haddress : addressOf (some user) = some address)
    (hcovered : ¬PlatformService.needsApproval sender session amount) :
    outcome (PlatformService.payRecipient payload sender wallet session recipientInput amount) s
      [.answers n, .answers 0] =
      (.ok [.executeSessionTransfer
        (PlatformService.sessionTransferParams sender wallet address amount)], (s, [])) := by
  have hrecipient :
      outcome (PlatformService.recipientAddress recipientInput) s [.answers n, .answers 0] =
      (.ok (some address), (s, [.answers 0])) := by
    unfold PlatformService.recipientAddress
    rw [if_neg hno, outcome_bind]
    have hfind : outcome (resolveUserByHandle recipientInput) s [.answers n, .answers 0] =
        (.ok (pick n s.users (bearsHandle (withoutAt recipientInput))), (s, [.answers 0])) := rfl
    rw [hfind, hpick]
    show (Except.ok (addressOf (some user)), _) = _
    rw [haddress]
  unfold PlatformService.payRecipient
  rw [outcome_bind, hrecipient]
  dsimp only
  rw [if_neg hcovered]
  rfl

theorem handlePayAction_eq {intent : ParsedIntent} {amount : ℚ} {recipient : String}
    (h : PaysUsdc toUpperCase intent amount recipient) (payload : SocialMessagePayload) :
    PlatformService.handlePayAction d toUpperCase now payload intent =
      resolveUser d payload.platform payload.platformId payload.username >>=
        PlatformService.payAs now payload "USDC" recipient amount := by
  have hpositive : ¬(amount ≤ 0) := not_le.mpr h.positive
  simp only [PlatformService.handlePayAction, h.amount_eq, h.recipient_eq, h.token_eq]
  rw [if_neg]
  rintro (hle | ⟨hne, -⟩)
  · exact hpositive hle
  · exact hne rfl

theorem payAs_eq {sender : User} {wallet : SmartWallet} {session : SessionKey}
    (hwallet : sender.smartWallet = some wallet)
    (hsession : PlatformService.currentSession now sender = some session)
    (payload : SocialMessagePayload) (recipient : String) (amount : ℚ) :
    PlatformService.payAs now payload "USDC" recipient amount (some sender) =
      PlatformService.payRecipient payload sender wallet session (trim recipient) amount := by
  simp only [PlatformService.payAs, Option.bind_some, hwallet, hsession]
  rw [if_neg (by decide)]

theorem ensures_payAs {s : Tables} (payload : SocialMessagePayload) (recipient : String)
    (amount : ℚ) (sender : Option User) :
    Ensures (· = s) (PlatformService.payAs now payload "USDC" recipient amount sender)
      (fun effects t => t = s ∧ ((effects = [] ∧ ∀ u, sender = some u → ¬MaySpend now u amount) ∨
        ∃ u wallet session, sender = some u ∧ u.smartWallet = some wallet ∧
          PlatformService.currentSession now u = some session ∧
          Starts s payload u wallet session (trim recipient) amount effects))
      (· = s) := by
  have hnothing : (∀ u, sender = some u → ¬MaySpend now u amount) →
      Ensures (· = s) (pure [] : Service (List PayEffect))
        (fun effects t => t = s ∧ ((effects = [] ∧ ∀ u, sender = some u → ¬MaySpend now u amount) ∨
          ∃ u wallet session, sender = some u ∧ u.smartWallet = some wallet ∧
            PlatformService.currentSession now u = some session ∧
            Starts s payload u wallet session (trim recipient) amount effects))
        (· = s) :=
    fun hspend => Ensures.pure fun t ht => ⟨ht, .inl ⟨rfl, hspend⟩⟩
  cases sender with
  | none => exact hnothing fun _ h => nomatch h
  | some u =>
    cases hwallet : u.smartWallet with
    | none =>
      simp only [PlatformService.payAs, Option.bind_some, hwallet]
      apply hnothing
      rintro _ ⟨⟩ ⟨wallet, -, hsome, -⟩
      rw [hwallet] at hsome
      cases hsome
    | some wallet =>
      cases hsession : PlatformService.currentSession now u with
      | none =>
        simp only [PlatformService.payAs, Option.bind_some, hwallet, hsession]
        apply hnothing
        rintro _ ⟨⟩ ⟨-, session, -, hsome, -⟩
        rw [hsession] at hsome
        cases hsome
      | some session =>
        rw [payAs_eq hwallet hsession]
        generalize trim recipient = recipientInput
        refine (ensures_payRecipient payload u wallet session recipientInput amount).weaken
          (fun _ ht => ht) ?_ fun _ ht => ht
        rintro effects t ⟨ht, hstarts⟩
        exact ⟨ht, .inr ⟨u, wallet, session, rfl, hwallet, hsession, hstarts⟩⟩

/-- A message is answered by the sender that it resolves to, on the tables that this leaves. -/
theorem handlePayAction_outcome {intent : ParsedIntent} {amount : ℚ} {recipient : String}
    (h : PaysUsdc toUpperCase intent amount recipient) {payload : SocialMessagePayload}
    {t t' : Tables} {turns rest : List Turn} {effects : List PayEffect}
    (hout : outcome (PlatformService.handlePayAction d toUpperCase now payload intent) t turns =
      (.ok effects, (t', rest))) :
    ∃ sender turns', outcome
      (resolveUser d payload.platform payload.platformId payload.username) t turns =
        (.ok sender, (t', turns')) ∧
      ((effects = [] ∧ ∀ u, sender = some u → ¬MaySpend now u amount) ∨
        ∃ u wallet session, sender = some u ∧ u.smartWallet = some wallet ∧
          PlatformService.currentSession now u = some session ∧
          Starts t' payload u wallet session (trim recipient) amount effects) := by
  rw [handlePayAction_eq h, outcome_bind] at hout
  generalize outcome (resolveUser d payload.platform payload.platformId payload.username) t
    turns = r at hout
  obtain ⟨r, t₁, turns'⟩ := r
  cases r with
  | error e => cases hout
  | ok sender =>
    have hpays := @ensures_payAs now t₁ payload recipient amount sender t₁ turns' rfl
    dsimp only at hout
    rw [hout] at hpays
    obtain ⟨rfl, hstarts⟩ := hpays
    exact ⟨sender, turns', rfl, hstarts⟩

/-- What a message may start, whatever the database answers. -/
structure ReachesNamed (d : Setting) (toUpperCase : String → String) (now : ℤ) (t : Tables)
    (payload : SocialMessagePayload) (intent : ParsedIntent) (amount : ℚ)
    (recipientInput : String) : Prop where
  named : ∀ turns effects t' rest,
    outcome (PlatformService.handlePayAction d toUpperCase now payload intent) t turns =
      (.ok effects, (t', rest)) →
    PaysNamed t' payload.platform recipientInput effects
  claimable : ∀ turns sender t' rest effects final,
    outcome (resolveUser d payload.platform payload.platformId payload.username) t turns =
      (.ok (some sender), (t', rest)) →
    MaySpend now sender amount → ¬isSolanaAddress recipientInput →
    (∀ address, ¬NamedWallet t' payload.platform (withoutAt recipientInput) address) →
    outcome (PlatformService.handlePayAction d toUpperCase now payload intent) t turns =
      (.ok effects, final) →
    ∃ dto, effects = [.createClaimLink dto]

theorem paysTo_named {t : Tables} {platform recipientInput address : String}
    (honly : isSolanaAddress recipientInput ∨ OnlyNamed t platform (withoutAt recipientInput))
    (hpays : PaysTo t recipientInput address) :
    (isSolanaAddress recipientInput ∧ address = recipientInput) ∨
      NamedWallet t platform (withoutAt recipientInput) address := by
  rcases hpays with haddress | ⟨hno, user, huser, hbears, ha⟩
  · exact .inl haddress
  · exact .inr (honly.resolve_left hno user huser hbears address ha)

theorem paysNamed_nil {t : Tables} {platform recipientInput : String} :
    PaysNamed t platform recipientInput [] := by
  refine ⟨by simp, ?_, ?_⟩
  · intro params hparams
    cases hparams
  · intro dto hdto
    cases hdto

theorem Starts.paysNamed {t : Tables} {payload : SocialMessagePayload} {sender : User}
    {wallet : SmartWallet} {session : SessionKey} {recipientInput : String} {amount : ℚ}
    {effects : List PayEffect}
    (h : Starts t payload sender wallet session recipientInput amount effects)
    (honly : ¬PlatformService.needsApproval sender session amount →
      isSolanaAddress recipientInput ∨ OnlyNamed t payload.platform (withoutAt recipientInput)) :
    PaysNamed t payload.platform recipientInput effects := by
  rcases h with ⟨-, rfl⟩ | ⟨hcovered, ⟨a, hpays, rfl | rfl⟩ | ⟨-, rfl⟩⟩
  · exact paysNamed_nil
  · exact paysNamed_nil
  · refine ⟨by simp, ?_, ?_⟩
    · intro params hparams
      obtain ⟨⟩ := List.mem_singleton.mp hparams
      exact paysTo_named (honly hcovered) hpays
    · intro dto hdto
      cases List.mem_singleton.mp hdto
  · refine ⟨by simp, ?_, ?_⟩
    · intro params hparams
      cases List.mem_singleton.mp hparams
    · intro dto hdto
      obtain ⟨⟩ := List.mem_singleton.mp hdto
      exact ⟨rfl, rfl⟩

/-- A transfer is started only for the account named iff, after the sender is resolved, no other
account that bears the handle has a wallet. -/
theorem chat_payment_reaches_named_iff {t : Tables} {payload : SocialMessagePayload}
    {intent : ParsedIntent} {amount : ℚ} {recipient : String}
    (hpays : PaysUsdc toUpperCase intent amount recipient) :
    ReachesNamed d toUpperCase now t payload intent amount (trim recipient) ↔
      ∀ turns sender t' rest,
        outcome (resolveUser d payload.platform payload.platformId payload.username) t turns =
          (.ok (some sender), (t', rest)) →
        MaySpend now sender amount →
        isSolanaAddress (trim recipient) ∨
        OnlyNamed t' payload.platform (withoutAt (trim recipient)) := by
  constructor
  · intro hreaches turns sender t' rest hsender hspend
    by_cases haddress : isSolanaAddress (trim recipient)
    · exact .inl haddress
    refine .inr ?_
    intro user huser hbears address ha
    obtain ⟨wallet, session, hwallet, hsession, hcovered⟩ := hspend
    obtain ⟨used, hused⟩ :=
      steady_resolveUser (d := d) payload.platform payload.platformId payload.username t turns
    obtain ⟨n, hpick⟩ := exists_pick huser hbears
    -- the query of the recipient answers with this account
    have hout : outcome (PlatformService.handlePayAction d toUpperCase now payload intent) t
        (used ++ [.answers n, .answers 0]) =
        (.ok [.executeSessionTransfer
          (PlatformService.sessionTransferParams sender wallet address amount)], (t', [])) := by
      rw [handlePayAction_eq hpays, outcome_bind, hused, hsender]
      dsimp only
      rw [payAs_eq hwallet hsession]
      exact payRecipient_transfers haddress hpick ha hcovered
    have hnamed := (hreaches.named _ _ _ _ hout).transfers _ (List.mem_singleton_self _)
    exact hnamed.resolve_left fun h => haddress h.1
  · intro honly
    refine ⟨?_, ?_⟩
    · intro turns effects t' rest hout
      obtain ⟨sender, turns', hsender,
        ⟨rfl, -⟩ | ⟨u, wallet, session, rfl, hwallet, hsession, hstarts⟩⟩ :=
        handlePayAction_outcome hpays hout
      · exact paysNamed_nil
      · exact hstarts.paysNamed fun hspend => honly turns u t' turns' hsender ⟨wallet, session,
          hwallet, hsession, hspend⟩
    · intro turns sender t' rest effects final hsender hspend haddress hnobody hout
      obtain ⟨t₁, rest₁⟩ := final
      obtain ⟨sender', turns', hsender', hcases⟩ := handlePayAction_outcome hpays hout
      obtain ⟨hsame, hrest⟩ := Prod.mk.inj (hsender.symm.trans hsender')
      obtain rfl := Except.ok.inj hsame
      obtain ⟨rfl, -⟩ := Prod.mk.inj hrest
      rcases hcases with ⟨-, hno⟩ | ⟨u, wallet, session, hu, hwallet, hsession, hstarts⟩
      · exact absurd hspend (hno sender rfl)
      · obtain rfl := Option.some.inj hu
        have honly := honly turns sender t' rest hsender hspend
        rcases hstarts with ⟨hneeds, -⟩ | ⟨-, ⟨a, hpaysTo, -⟩ | ⟨-, rfl⟩⟩
        · obtain ⟨wallet', session', -, hsession', hcovered⟩ := hspend
          obtain rfl := Option.some.inj (hsession.symm.trans hsession')
          exact absurd hneeds hcovered
        · rcases paysTo_named honly hpaysTo with ⟨h, -⟩ | hnamed
          · exact absurd h haddress
          · exact absurd hnamed (hnobody a)
        · exact ⟨_, rfl⟩

end Payments

end VeriAgentPay.Identity

namespace VeriAgentPay.Devnet
open CheckedOutcome Client LabelledRuns UnreliableStores Identity Identity.IdentityService

def payerSession : Backend.SessionKey :=
  { id := "session-1", userId := "user-2", keyHash := "0x01", encryptedKey := "key"
    encryptedSymmetricKey := none
    perTxLimitUSD := 50, dailyLimitUSD := 200, expiryAt := 1750600000000, revokedAt := none
    activatedAt := some 1750000000000 }

/-- An account with a wallet and a session. -/
def payer99 : User :=
  { blankUser "user-2" with
    username := some "bob", telegramId := some "99", sessionKeys := [payerSession]
    smartWallet := some { address := "GZ6KNsZZFDSkBYjPf4isTK7YvZXfmR3AaaiqKKZCp9P9", publicKeyX := passkeyX
                          publicKeyY := passkeyY, salt := hexText discordSalt.toList } }

def payerTables : Tables := { noTables with users := [payer99] }

def upperCase (text : String) : String := String.ofList (text.toList.map Char.toUpper)

def payMessage : SocialMessagePayload :=
  { platform := "telegram", platformId := "99", username := some "bob" }

def payIntent : ParsedIntent :=
  { amount := some (.finite 5), tokenSymbol := some "usdc", tokenInfoSymbol := none
    recipient := some "12345" }

theorem payIntent_paysUsdc : PaysUsdc upperCase payIntent 5 "12345" := by
  refine ⟨rfl, by norm_num, by decide +kernel, by decide +kernel⟩

def payment : Service (List PayEffect) :=
  PlatformService.handlePayAction accounts upperCase 1750100000000 payMessage payIntent

def PayEffect.target : PayEffect → Option String
  | .createClaimLink _ => none
  | .executeSessionTransfer params => some params.recipientAddress

/-- The payer's tables after somebody looked the number up. -/
def lookedByPayer : Tables :=
  after (.resolveContact "user-1" "telegram" "12345" true) [] payerTables

theorem payment_answers :
    (answer payment lookedByPayer).map (List.map PayEffect.target) =
        some [some numberPlaceholderAddress] ∧
    (outcome payment lookedByPayer []).2.1.users.all (fun user => user.smartWallet.all fun wallet =>
      SmartWallet.isPlaceholder wallet || wallet.address ≠ numberPlaceholderAddress) ∧
    ¬Backend.isSolanaAddress (Backend.trim "12345") := by
  decide +kernel

/-- After somebody looked the number up, the USDC goes to the wallet without a key. -/
theorem chat_payment_reaches_placeholder :
    ∃ tr t params t' rest, IdentityRun accounts payerTables tr t ∧
    outcome payment t [] = (.ok [.executeSessionTransfer params], (t', rest)) ∧
    ¬Backend.isSolanaAddress (Backend.trim "12345") ∧
    ¬NamedWallet t' "telegram" (withoutAt (Backend.trim "12345")) params.recipientAddress := by
  obtain ⟨htransfer, hwallets, haddress⟩ := payment_answers
  obtain ⟨effects, heffects, htargets⟩ := Option.map_eq_some_iff.mp htransfer
  obtain ⟨effect, rfl, htarget⟩ := List.map_eq_singleton_iff.mp htargets
  cases effect with
  | createClaimLink dto => cases htarget
  | executeSessionTransfer params =>
    refine ⟨_, lookedByPayer, params, _, _, run_of_after _ [] Run.nil, outcome_of_answer heffects,
      haddress, ?_⟩
    rintro ⟨user, huser, -, wallet, hwallet, hkey, hsame⟩
    have hplaceholder := List.all_eq_true.mp hwallets user huser
    rw [hwallet] at hplaceholder
    have hne : wallet.address ≠ numberPlaceholderAddress := by simpa [hkey] using hplaceholder
    exact hne (hsame.trans (Option.some.inj htarget))

theorem chat_payment_reaches_named_iff_devnet :
    ReachesNamed accounts upperCase 1750100000000 payerTables payMessage payIntent 5
      (Backend.trim "12345") ↔
      ∀ turns sender t' rest, outcome
        (resolveUser accounts "telegram" "99" (some "bob")) payerTables turns =
          (.ok (some sender), (t', rest)) →
        MaySpend 1750100000000 sender 5 →
        Backend.isSolanaAddress (Backend.trim "12345") ∨
        OnlyNamed t' "telegram" (withoutAt (Backend.trim "12345")) :=
  chat_payment_reaches_named_iff payIntent_paysUsdc

end VeriAgentPay.Devnet
