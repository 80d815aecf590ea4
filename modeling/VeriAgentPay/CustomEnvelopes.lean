import VeriAgentPay.IdentityPersistence
import VeriAgentPay.RedEnvelopes

/-!
# Custom envelopes

A custom envelope is for one recipient. The identifier of a claimer is compared with that of the
recipient; a claim that passes this check goes on to the chain, for the vault of the account that
the identifier is resolved to.
-/

namespace VeriAgentPay.CustomEnvelopes
open InterleavedPrograms RedEnvelopes
open Backend (trim truthy)

section Model
variable (d : Identity.Setting)

/-- The text of an identifier that is compared. -/
def clean (identifier : String) : String := trim (d.toLowerCase (Identity.withoutAt identifier))

/-- `text.includes(part)`. -/
def includes (text part : String) : Bool := part.toList <:+: text.toList

def startsWith (text start : String) : Bool := start.toList.isPrefixOf text.toList

/-- The address that the recipient resolves to is the claimer's text. -/
def resolvesTo (contact : Option String) (claimerClean : String) : Bool :=
  (truthy contact).any fun resolvedAddress => d.toLowerCase resolvedAddress = claimerClean

/-- Whether a claimer is taken for the recipient, for what
`resolveContact('telegram', customRecipientId)` gives, if it gives something. -/
def isMatch (customRecipientId : String) (contact : Option String) (claimerAddress : String) :
    Bool :=
  let targetClean := clean d customRecipientId
  let claimerClean := clean d claimerAddress
  if targetClean = claimerClean then true
  else if startsWith targetClean "0x" && startsWith claimerClean "0x" &&
      targetClean = claimerClean then true
  else if includes customRecipientId claimerAddress ||
      includes claimerAddress customRecipientId then true
  else resolvesTo d contact claimerClean

/-- The `where` of `resolveUser`. -/
def answersTo (identifier : String) (user : Identity.User) : Bool :=
  user.id = identifier || user.email.any (d.equalsInsensitive · identifier) ||
    user.username = some identifier || user.telegramId = some identifier ||
    user.whatsappId = some identifier || user.slackId = some identifier ||
    user.discordId = some identifier ||
    user.smartWallet.any fun wallet => d.equalsInsensitive wallet.address identifier

def resolveUser (users : List Identity.User) (identifier : String) : Option Identity.User :=
  if identifier = "" then none else users.find? (answersTo d identifier)

def walletAddress (user : Identity.User) : Option String :=
  truthy (user.smartWallet.map fun wallet => wallet.address)

/-- The wallet of the account that an identifier is resolved to. -/
def walletOf (users : List Identity.User) (identifier : String) : Option String :=
  (resolveUser d users identifier).bind walletAddress

/-- The account of the recipient: it answers to the recipient's identifier, however that is
written, or has the wallet that this resolves to. -/
def Designated (customRecipientId : String) (contact : Option String) (user : Identity.User) :
    Prop :=
  (∃ spelling, clean d spelling = clean d customRecipientId ∧ answersTo d spelling user = true) ∨
    ∃ address ∈ truthy contact, ∃ wallet ∈ user.smartWallet,
      d.equalsInsensitive wallet.address address = true

/-- One text is part of the other. -/
def Overlaps (customRecipientId claimerAddress : String) : Prop :=
  includes customRecipientId claimerAddress = true ∨
    includes claimerAddress customRecipientId = true

/-- What the on-chain claim of a call begins with: the vault of the claimer is made ready. -/
def GoesOnChain : Request → Prop
  | .ensureVaultDeployed _ _ => True
  | _ => False

end Model

section Claims

variable {d : Identity.Setting} {users : List Identity.User} {contact : Option String}
  {customRecipientId claimerAddress : String} {wallet : String → Option String} {t : Tables}
  {envelope : RedEnvelope} {id : String} {turns : Turns}

theorem isMatch_iff : isMatch d customRecipientId contact claimerAddress = true ↔
    clean d customRecipientId = clean d claimerAddress ∨
      Overlaps customRecipientId claimerAddress ∨
        resolvesTo d contact (clean d claimerAddress) = true := by
  unfold isMatch Overlaps
  by_cases hsame : clean d customRecipientId = clean d claimerAddress
  · simp [hsame]
  · by_cases hoverlaps : (includes customRecipientId claimerAddress ||
        includes claimerAddress customRecipientId) = true
    · simp [hsame, hoverlaps, Bool.or_eq_true_iff.mp hoverlaps]
    · have hapart := Bool.or_eq_true_iff.not.mp hoverlaps
      simp [hsame, hoverlaps, hapart]

theorem wallet_isSome_iff : (walletOf d users claimerAddress).isSome ↔
    ∃ user, resolveUser d users claimerAddress = some user ∧ (walletAddress user).isSome := by
  unfold walletOf
  cases resolveUser d users claimerAddress <;> simp

/-- The vault that is made ready is the claimer's. -/
def ForClaimer (wallet : String → Option String) (claimerAddress : String) : Request → Prop
  | .ensureVaultDeployed vault _ => wallet claimerAddress = some vault
  | _ => True

/-- A claim that goes on to the chain is not one that is forbidden, and its claimer has a wallet. -/
theorem claim_allowed (i : ℕ) (hrow : t.envelopes.find? id = some envelope) {r : Request}
    (hr : r ∈ (claimEnvelope wallet id claimerAddress turns).requests (carry i) t)
    (hchain : GoesOnChain r) :
    ¬(withClaimSummary envelope (t.claims.filter (·.envelopeId = id))).forbids turns.isMatch ∧
      (wallet claimerAddress).isSome := by
  unfold claimEnvelope at hr
  rw [Fallible.requests_andThen_ok (eval_findOne i hrow)] at hr
  rcases List.mem_append.mp hr with hfind | hr
  · have hfound : (findOne id).Limited Answered (fun r => ¬GoesOnChain r) fun _ => True :=
      limited_findOne id fun h => h
    exact absurd hchain (Program.Gated.requests hfound (answered_carry i) t r hfind)
  · generalize withClaimSummary envelope (t.claims.filter (·.envelopeId = id)) = read at hr ⊢
    rw [Fallible.mem_requests_checkThen, Fallible.mem_requests_checkThen,
      Fallible.mem_requests_checkThen] at hr
    obtain ⟨-, -, hallowed, hr⟩ := hr
    have hrefused : (settleClaim wallet read
        ⟨read.id, claimerAddress, claimAmount read turns.random⟩ turns).Refused Answered
          (ForClaimer wallet claimerAddress) :=
      refused_settleClaim (fun _ _ hvault => hvault) fun _ _ => trivial
    have hvault := Program.Gated.requests hrefused (answered_carry i) t r hr
    cases r with
    | ensureVaultDeployed vault deployed =>
      exact ⟨hallowed, Option.isSome_iff_exists.mpr ⟨vault, hvault⟩⟩
    | _ => exact hchain.elim

/-- A claim that is not forbidden goes on. -/
theorem claim_goesOn (i : ℕ) (hrow : t.envelopes.find? id = some envelope)
    (hread : withClaimSummary envelope (t.claims.filter (·.envelopeId = id)) = envelope)
    (hstatus : envelope.status = .active) (hclaims : envelope.remainingClaims ≠ 0)
    (hbalance : 0 < envelope.remainingBalance) {onChainId : ℤ}
    (honChain : envelope.onChainId = some onChainId) (hconfigured : turns.configured = .ok ())
    (hsupported : turns.supported = .ok ()) (hallowed : ¬envelope.forbids turns.isMatch)
    (hwallet : (wallet claimerAddress).isSome) :
    ∃ r ∈ (claimEnvelope wallet id claimerAddress turns).requests (carry i) t, GoesOnChain r := by
  obtain ⟨vault, hvault⟩ := Option.isSome_iff_exists.mp hwallet
  have hopen : ¬(envelope.remainingClaims = 0 ∨ envelope.remainingBalance ≤ 0) := by
    push Not
    exact ⟨hclaims, hbalance⟩
  refine ⟨.ensureVaultDeployed vault turns.deployed, ?_, trivial⟩
  unfold claimEnvelope
  rw [Fallible.requests_andThen_ok (eval_findOne i hrow), hread]
  refine List.mem_append_right _ ?_
  rw [Fallible.mem_requests_checkThen, Fallible.mem_requests_checkThen,
    Fallible.mem_requests_checkThen]
  refine ⟨hstatus, hopen, hallowed, ?_⟩
  unfold settleClaim Fallible.requests
  refine (Program.requests_bind _ _ _ _).symm ▸ List.mem_append_left _ ?_
  unfold claimOnChain
  rw [hconfigured, honChain, hsupported, hvault]
  exact List.mem_cons_self

end Claims

section Results

variable (d : Identity.Setting) (users : List Identity.User) (contact : Option String)

/-- Every claim of an envelope for the recipient that goes on to the chain is made with the
recipient's identifier, or with the address that it resolves to, and for the recipient's account. -/
def AdmitsDesignated (customRecipientId claimerAddress : String) : Prop :=
  ∀ (i : ℕ) (t : Tables) (id : String) (envelope : RedEnvelope) (turns : Turns),
    t.envelopes.find? id = some envelope → envelope.type = .customEnvelope →
    envelope.customRecipientId = some customRecipientId →
    turns.isMatch = isMatch d customRecipientId contact claimerAddress →
    ∀ r ∈ (claimEnvelope (walletOf d users) id claimerAddress turns).requests (carry i) t,
      GoesOnChain r →
        (clean d claimerAddress = clean d customRecipientId ∨
          resolvesTo d contact (clean d claimerAddress) = true) ∧
          ∃ user, resolveUser d users claimerAddress = some user ∧
            Designated d customRecipientId contact user

/-- An account that has a wallet and is found by another identifier than the recipient's: this is
the address that the recipient resolves to, and the account is the recipient's; or neither text is
part of the other. -/
def TellsApart (customRecipientId claimerAddress : String) : Prop :=
  ∀ user ∈ resolveUser d users claimerAddress, (walletAddress user).isSome →
    clean d claimerAddress ≠ clean d customRecipientId →
      if resolvesTo d contact (clean d claimerAddress) = true then
        Designated d customRecipientId contact user
      else ¬Overlaps customRecipientId claimerAddress

variable {d users contact} {customRecipientId claimerAddress : String}

theorem AdmitsDesignated.tellsApart
    (hadmits : AdmitsDesignated d users contact customRecipientId claimerAddress) :
    TellsApart d users contact customRecipientId claimerAddress := by
  intro user huser hwallet hother
  -- An envelope of which nothing has been claimed.
  let envelope : RedEnvelope := ⟨"id", "creator", "token", 1, 1, .customEnvelope, false,
    some customRecipientId, .active, 1, 1, some 0⟩
  let t : Tables := ⟨⟨[envelope], List.nodup_singleton _⟩, [], ⟨[], List.nodup_nil⟩, [], []⟩
  let turns : Turns := ⟨0, isMatch d customRecipientId contact claimerAddress, .ok (), .ok (),
    .ok "", .ok (), .answered, .answered, .answered, ""⟩
  have hrow : t.envelopes.find? "id" = some envelope := by
    simp [t, KeyedTables.Keyed.find?, envelope]
  have hread : withClaimSummary envelope (t.claims.filter (·.envelopeId = "id")) = envelope := by
    have hone : RoundedNumbers.double 1 = 1 := by decide +kernel
    simp [envelope, t, withClaimSummary, hone]
  have hvault : (walletOf d users claimerAddress).isSome :=
    wallet_isSome_iff.mpr ⟨user, huser, hwallet⟩
  have hmade : isMatch d customRecipientId contact claimerAddress = true →
      (clean d claimerAddress = clean d customRecipientId ∨
        resolvesTo d contact (clean d claimerAddress) = true) ∧
        ∃ user, resolveUser d users claimerAddress = some user ∧
          Designated d customRecipientId contact user := by
    intro hmatch
    have hallowed : ¬envelope.forbids turns.isMatch := fun hforbidden => by
      simp [turns, hmatch, RedEnvelope.forbids] at hforbidden
    obtain ⟨r, hr, hchain⟩ := claim_goesOn 0 hrow hread rfl one_ne_zero
      (by norm_num [envelope]) rfl rfl rfl hallowed hvault
    exact hadmits 0 t "id" envelope turns hrow rfl rfl rfl r hr hchain
  by_cases hresolves : resolvesTo d contact (clean d claimerAddress) = true
  · rw [if_pos hresolves]
    obtain ⟨-, found, hfound, hdesignated⟩ := hmade (isMatch_iff.mpr (.inr (.inr hresolves)))
    rwa [Option.some.inj (huser.symm.trans hfound)]
  · rw [if_neg hresolves]
    intro hoverlaps
    obtain ⟨hsame | hagain, -⟩ := hmade (isMatch_iff.mpr (.inr (.inl hoverlaps)))
    · exact hother hsame
    · exact hresolves hagain

theorem TellsApart.admitsDesignated
    (hapart : TellsApart d users contact customRecipientId claimerAddress)
    (hrecipient : customRecipientId ≠ "") :
    AdmitsDesignated d users contact customRecipientId claimerAddress := by
  intro i t id envelope turns hrow htype hrecipientId hmatch r hr hchain
  obtain ⟨hallowed, hvault⟩ := claim_allowed i hrow hr hchain
  have hmatched : isMatch d customRecipientId contact claimerAddress = true := by
    rw [← hmatch]
    by_contra hno
    refine hallowed ⟨htype, ?_, Bool.eq_false_of_not_eq_true hno⟩
    have hread : (withClaimSummary envelope (t.claims.filter
        (·.envelopeId = id))).customRecipientId = some customRecipientId := hrecipientId
    rw [hread]
    exact decide_eq_true hrecipient
  obtain ⟨user, huser, hwallet⟩ := wallet_isSome_iff.mp hvault
  by_cases hsame : clean d claimerAddress = clean d customRecipientId
  · -- The account answers to the claimer's spelling of the recipient's identifier.
    have hanswers : answersTo d claimerAddress user = true := by
      unfold resolveUser at huser
      split_ifs at huser
      exact List.find?_some huser
    exact ⟨.inl hsame, user, huser, .inl ⟨claimerAddress, hsame, hanswers⟩⟩
  · have hcondition := hapart user huser hwallet hsame
    rcases isMatch_iff.mp hmatched with hequal | hoverlaps | hresolves
    · exact absurd hequal.symm hsame
    · split_ifs at hcondition with hresolves
      · exact ⟨.inr hresolves, user, huser, hcondition⟩
      · exact absurd hoverlaps hcondition
    · rw [if_pos hresolves] at hcondition
      exact ⟨.inr hresolves, user, huser, hcondition⟩

variable (d users contact)

/-- For every recipient and every claimer. -/
theorem custom_envelopes_admit_designated {customRecipientId : String} (claimerAddress : String)
    (hrecipient : customRecipientId ≠ "") :
    AdmitsDesignated d users contact customRecipientId claimerAddress ↔
      TellsApart d users contact customRecipientId claimerAddress :=
  ⟨AdmitsDesignated.tellsApart, fun hapart => hapart.admitsDesignated hrecipient⟩

end Results

end VeriAgentPay.CustomEnvelopes

namespace VeriAgentPay.Devnet
open InterleavedPrograms RedEnvelopes CustomEnvelopes

def envelopeAccount (id username address : String) : Identity.User :=
  { Identity.blankUser id with
    username := some username, smartWallet := some ⟨address, "0x0", "0x0", "salt"⟩ }

def mallorysAddress : String := "7beeJx5QkVYwTnHGqGSVwSdSbAXYJMoxtkDPiLkCmRda"

def beesAddress : String := "4Nd1mYQx5wUvSkT3GhJq8ZbRcWfPe2LnAaKsVt9XyMzE"

/-- Bee is to get an envelope. The wallet of Mallory has an address in which there is her name. -/
def envelopeAccounts : List Identity.User :=
  [envelopeAccount "user-1" "bee" beesAddress, envelopeAccount "user-2" "mallory" mallorysAddress]

/-- Bee's own address is what her name resolves to. -/
theorem custom_envelopes_admit_designated_devnet :
    AdmitsDesignated accounts envelopeAccounts (some beesAddress) "@bee" beesAddress := by
  refine (custom_envelopes_admit_designated accounts envelopeAccounts (some beesAddress)
    beesAddress (by decide)).mpr ?_
  have hresolves : resolvesTo accounts (some beesAddress) (clean accounts beesAddress) = true := by
    decide +kernel
  intro user huser _ _
  rw [if_pos hresolves]
  have hbee : resolveUser accounts envelopeAccounts beesAddress =
      some (envelopeAccount "user-1" "bee" beesAddress) := by
    decide +kernel
  rw [← Option.some.inj (hbee.symm.trans huser)]
  exact .inr ⟨beesAddress, rfl, _, rfl, by decide +kernel⟩

/-- The name is part of Mallory's address, so that the claim of Mallory goes on to the chain. -/
theorem custom_envelope_for_overlap :
    isMatch accounts "bee" (some beesAddress) mallorysAddress = true ∧
      ¬AdmitsDesignated accounts envelopeAccounts (some beesAddress) "bee" mallorysAddress := by
  refine ⟨by decide +kernel, fun hadmits => ?_⟩
  have hmallory : resolveUser accounts envelopeAccounts mallorysAddress =
      some (envelopeAccount "user-2" "mallory" mallorysAddress) := by
    decide +kernel
  have hother : clean accounts mallorysAddress ≠ clean accounts "bee" := by decide +kernel
  have hresolves : ¬resolvesTo accounts (some beesAddress) (clean accounts mallorysAddress) =
      true := by
    decide +kernel
  have hapart := hadmits.tellsApart _ hmallory rfl hother
  rw [if_neg hresolves] at hapart
  exact hapart (.inr (by decide +kernel))

end VeriAgentPay.Devnet
