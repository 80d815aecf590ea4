import VeriAgentPay.LinkOperations

/-!
# The rows of payment links agree with the chain

A terminal row of a native link says what the chain says, in every state of every run in which
a redeem or a cancel that runs by itself writes no more than that.
-/

namespace VeriAgentPay.Backend
open FixedWidth CheckedOutcome Client LabelledRuns InterleavedPrograms

/-- Rows, approvals and chain as they are when no operation runs. -/
def Consistent (d : Deployment) (s : Store) : Prop := LinkInvariant d True s fun _ => .idle

theorem LinkInvariant.loosen {d : Deployment} {strict strict' : Prop} {s : Store} {H : ℕ → Holding}
    (h : LinkInvariant d strict s H) (hstrict : strict' → strict) : LinkInvariant d strict' s H :=
  { h with funded := fun hs => h.funded (hstrict hs) }

theorem consistent_of_empty {d : Deployment} {s : Store} (hledger : WellFormed d.rt s.ledger)
    (hlinks : ∀ code, s.links code = none) (hstaged : ∀ id, s.staged id = none)
    (hfunder : ∀ key, s.funder key = none) :
    Consistent d s where
  ledger := hledger
  codes _ _ hrow := nomatch (hlinks _).symm.trans hrow
  native _ _ _ hrow := nomatch (hlinks _).symm.trans hrow
  held _ _ hheld := nomatch hheld
  held_once _ _ _ hheld := nomatch hheld
  issued _ _ hdocument := nomatch (hstaged _).symm.trans hdocument
  staged _ _ hp := nomatch (hstaged _).symm.trans hp.choose_spec.1
  staged_free _ _ _ _ hp := nomatch (hstaged _).symm.trans hp.choose_spec.1
  staged_once _ _ _ _ _ hp := nomatch (hstaged _).symm.trans hp.choose_spec.1
  funded _ _ _ hkey := nomatch (hfunder _).symm.trans hkey

abbrev BackendConfig := Config Store Operation Request Answer

abbrev BackendTransition :=
  Transition BackendConfig (InterleavedPrograms.Event Operation Request Answer)

/-- A run of the services' operations side by side, from a store on which none of them runs. -/
abbrev BackendRun (d : Deployment) (s₀ : Store) (tr : List BackendTransition)
    (c : BackendConfig) : Prop :=
  Run (InterleavedPrograms.Step (backend d)) (Config.initial s₀) tr c

/-- A terminal row of a native link says what the chain says. -/
def AgreesWithChain (s : Store) : Prop :=
  ∀ code row key value, s.links code = some row → Native row key →
  row.status.onChain? = some value →
    OnChain s key value

/-- A terminal row of a native link keeps its status. -/
def TerminalKept (s s' : Store) : Prop :=
  ∀ code row key, s.links code = some row → Native row key → row.status.onChain?.isSome →
    ∃ row', s'.links code = some row' ∧ row'.status = row.status

/-- A redeem or a cancel that runs by itself writes to a native row what the chain says; every other
step is as it may be. -/
def ArbitratedStep : BackendTransition → Prop :=
  Meets (fun _ => True) (fun _ op s r _ _ => Arbitrated op s r) (fun _ _ => True) fun _ _ => True

variable {d : Deployment} {s₀ : Store} {tr : List BackendTransition} {c : BackendConfig}

theorem link_records_agree_with_chain (hstart : Consistent d s₀)
    (hrun : BackendRun d s₀ tr c) (hsteps : ∀ t ∈ tr, ArbitratedStep t) :
    AgreesWithChain c.state ∧ ∀ t ∈ tr, TerminalKept t.before.state t.after.state := by
  have hobeyed : (linkProtocol d False).Obeyed (linkServices d (fun _ => True) True False) :=
    linkServices_obeyed fun _ _ _ => trivial
  have hstart' : (linkProtocol d False).inv s₀ fun _ => (linkProtocol d False).idle :=
    hstart.loosen False.elim
  have hrun' : Run (InterleavedPrograms.Step (linkServices d (fun _ => True) True False))
      (Config.initial s₀) tr c := by
    refine run_restrict hrun fun t ht => ?_
    have hstep := hsteps t ht
    obtain ⟨before, event, after⟩ := t
    cases event with
    | performed i r x => exact fun proc hproc => ⟨fun _ => hstep proc hproc, False.elim⟩
    | start i op => trivial
    | crash i => exact False.elim
    | environment => exact False.elim
  constructor
  · obtain ⟨H, hkept⟩ := Protocol.kept_of_run hobeyed hstart' hrun'
    exact fun code row key value hrow hnative hvalue =>
      (hkept.inv.native code row key hrow hnative).2 value hvalue
  · intro t ht code row key hrow hnative hterminal
    obtain ⟨row', hrow', -, -, hsame⟩ :=
      (Protocol.grows_of_mem hobeyed hstart' hrun' t ht).row code row hrow
    exact ⟨row', hrow', hsame key hnative hterminal⟩

end VeriAgentPay.Backend

namespace VeriAgentPay.Devnet
open FixedWidth CheckedOutcome Client LabelledRuns InterleavedPrograms Backend

/-! A backend on the concrete ledger: its sender funds a link under the session. -/

def claimAuthorityConfig : Pubkey :=
  beBytes 32 0xf203b29576cfc39a93d9a63501ec37a34456d5744084829a22a0ab99211a31cf
def codeLinkId : FixedBytes 32 :=
  beBytes 32 0xd60a0f23189cc6a88b1bfcd0fb6499d68fca23d14d2cd246a8c27894625ee633
def codeLink : Pubkey :=
  beBytes 32 0x5ee2399686cdfe30ebd2e10cf7bc999ffc60374f1a793580157f6dea1735fb58
def codeEscrow : Pubkey :=
  beBytes 32 0x30cbfb2e174c56c7fbbcbf7ef30389e6c3fe86d8b0e8c510b8529303e0c9c2a1
def aliceCommitment : FixedBytes 32 :=
  beBytes 32 0x79a955f0be67305468d2a7ce312cbe83bce21c19475934e324bc1bdb8fbd9b9c

def linkCode : String := "k3Vd9QmZ"

/-- The tables of the first run with those of the backend's link. -/
def backendAddresses : List (Pubkey × Bytes × Pubkey) :=
  addresses ++ [(programId, claimAuthoritySeed ++ [254], claimAuthorityConfig),
    (programId, (paymentLinkSeeds vault codeLinkId).flatten ++ [253], codeLink),
    (associatedTokenProgramId, codeLink.toList ++ tokenProgramId.toList ++ stablecoinMint.toList ++
      [254], codeEscrow)]

def backendDigests : List (Bytes × FixedBytes 32) :=
  digests ++ [(utf8 linkCode, codeLinkId),
    (utf8 "veriagent:solana:payment-link-recipient:v1\x00telegram\x00alice", aliceCommitment)]

def backendRuntime : Runtime :=
  { runtime with
    createProgramAddress := fun program seeds =>
      (backendAddresses.find? fun entry => entry.1 = program ∧ entry.2.1 = seeds).map
        fun entry => entry.2.2
    sha256 := fun bytes => (backendDigests.lookup bytes).getD (List.Vector.replicate 32 0) }

def addNumbers : JsNumber → JsNumber → JsNumber
  | .finite a, .finite b => .finite (a + b)
  | _, _ => .notANumber

def deployment : Deployment where
  rt := backendRuntime
  stablecoinMint := stablecoinMint
  feePayer := payer
  configAddress := config
  claimAuthorityConfigAddress := claimAuthorityConfig
  clusterDomainSetting := some "EtWTRABZaYq6iMfeYKouRu166VU2xqa1wcaWoxPkrZBG"
  numberAdd := addNumbers
  numberMul := fun a _ => a
  toLowerCase := id
  toUpperCase := id
  keypairFromSecret := fun _ => .ok sessionSigner
  clientDataChallenge := fun _ => .ok none
  configAddress_eq := by decide +kernel
  claimAuthorityConfigAddress_eq := by decide +kernel

/-- The ledger once the protocol and a vault with a session are set up. -/
@[irreducible] def opened : World :=
  match runTransaction backendRuntime (calls.take 2) genesis with
  | .ok (_, w) => w
  | .error _ => genesis

def createLinkCall : Call :=
  .createPaymentLinkWithSession
    { payer := payer, config := config, vault := vault, session := session
      sessionSigner := sessionSigner
      stablecoinMint := stablecoinMint, vaultTokenAccount :=
        vaultTokenAccount, paymentLink := codeLink
      escrowTokenAccount := codeEscrow }
    ⟨codeLinkId, aliceCommitment, 2000000, 1750086400, 0⟩

theorem opened_reached : ∃ tr, Run (Step backendRuntime) genesis tr opened := by
  have hok : (runTransaction backendRuntime (calls.take 2) genesis).toBool = true := by
    decide +kernel
  obtain ⟨⟨tr, w⟩, hw⟩ := eq_ok_of_toBool hok
  have hopened : opened = w := by
    unfold opened
    simp only [hw]
  exact ⟨tr, hopened ▸ run_append_transaction Run.nil hw⟩

/-- What the services read of that ledger, and that it can fund the link. -/
theorem opened_facts : ((opened.data vault).vault?.isSome &&
    (opened.data session).session?.any (fun session => !session.revoked && session.nonce = 0) &&
    opened.tokenBalance vaultTokenAccount = 50000000 &&
      (exec backendRuntime sessionContext createLinkCall opened).toBool) =
      true := by
  decide +kernel

def sessionKey : SessionKey :=
  { id := "session-1", userId := "user-1", keyHash := toBase58 sessionSigner
    encryptedKey := "sealed"
    encryptedSymmetricKey := some "wrapped", perTxLimitUSD := 5, dailyLimitUSD := 20, expiryAt :=
      1750604800000
    revokedAt := none, activatedAt := some 1750000000000 }

def senderWallet : SmartWallet :=
  { address := toBase58 vault, publicKeyX := "1", publicKeyY := "2", salt := "" }

def sender : User :=
  { id := "user-1", username := some "bob", telegramId := some "77", whatsappId := none
    discordId := none
    slackId := none, sessionKeys := [sessionKey]
    smartWallet := some senderWallet }

def dto : SolanaPaymentLinksService.CreateEscrowLinkDto :=
  { senderUserId := "user-1", recipientHandle := "alice", platform := "telegram"
    amount := .finite 2
    token := none, fromUser := none }

/-- The backend before its first link: one user, no rows. -/
def backendStart : Store :=
  { ledger := opened, links := fun _ => none
    users := fun id => if id = "user-1" then some sender else none
    staged := fun _ => none, issued := ∅, funder := fun _ => none, inFlight := [] }

def pendingRow : ShortLink :=
  { code := linkCode, kind := .pay, senderUserId := some "user-1", targetUserId := some "alice"
    toAddress := none
    amount := some 2, token := some "USDC", fromUser := some "bob", platform :=
      some "telegram", envelopeId := none
    fundingTxHash := none, expiresAt := some 1750086400000, status := .pending, claimedAt :=
      none, claimedBy := none
    claimTxHash := none, clickCount := 0 }

section Runs

variable {m : Operation → Prop} {a st : Prop}

theorem arbitrated_of_not_direct {op : Operation} {s : Store} {r : Request} (hop : ¬op.Direct) :
    Arbitrated op s r := by
  cases op <;> first | exact absurd trivial hop | (cases r <;> trivial)

theorem returns_ok {d : Deployment} {i : ℕ} {op : Operation} {s s' : Store} {r : Request}
    {x : Result r} (hop : a → ¬op.Direct) (hdone : Performs d i s r (.ok x) s') :
    Returns (linkServices d m a st) i op s (ask r).run s' (.ok x) :=
  .ask ⟨hdone, fun ha => arbitrated_of_not_direct (hop ha), fun _ ⟨_, herror⟩ => nomatch herror⟩
    (.refl _ _)

theorem returns_checked {d : Deployment} {i : ℕ} {op : Operation} {s : Store} {α : Type}
    {x y : Except Failure α} (h : x = y) :
    Returns (linkServices d m a st) i op s (checked x).run s y := by
  subst h
  exact .refl _ _

theorem returns_ensureVaultDeployed {op : Operation} (hop : a → ¬op.Direct) :
    Returns (linkServices deployment m a st) 0 op backendStart
      (SolanaRelayerService.ensureVaultDeployed (toBase58 vault)).run backendStart (.ok ()) := by
  have hvault : ∃ v, opened.data vault = .vault v := by
    have h := opened_facts
    simp only [Bool.and_eq_true] at h
    obtain ⟨v, hv⟩ := Option.isSome_iff_exists.mp h.1.1.1
    exact ⟨v, AccountData.vault?_eq_some.mp hv⟩
  obtain ⟨v, hv⟩ := hvault
  refine .andThen backendStart (some v) ?_ ?_
  · refine .andThen _ _ (returns_checked (addressKey_toBase58 vault "vault"))
      (returns_ok hop ⟨rfl, ?_⟩)
    exact .inl (AccountData.vault?_eq_some.mpr hv)
  · have hchecked : require ((some v).isSome = true)
        (Failure.badRequest "The Solana vault must be authorized with your passkey first") =
          .ok () := rfl
    refine .andThen _ _ (returns_checked hchecked) ?_
    exact returns_ok (r := .write (.walletDeployed (toBase58 vault))) (x := ()) hop rfl

theorem createClaimLink_starts {op : Operation} (hop : a → ¬op.Direct) {s : Store}
    {b : Except Failure (String × String)}
    (h : Returns (linkServices deployment m a st) 0 op (backendStart.setLink linkCode pendingRow)
      (do
        let (txHash, paymentLink) ← onFailure
          (SolanaRelayerService.createPaymentLinkWithSession deployment
            { userId := "user-1", vaultAddress := toBase58 vault, encryptedSessionKey := "opened"
              amountUSD := 2
              linkId := codeLinkId.toList, recipientCommitment :=
                aliceCommitment.toList, expiresAtUnix := 1750086400 })
          (ignoringFailure do
            let _ ← ask (.updateLink linkCode { status := some .failed })
            pure ())
        let _ ← ask (.updateLink linkCode
          { envelopeId := some paymentLink, fundingTxHash := some txHash, status := some .active })
        pure (linkCode, paymentLink) : Service (String × String)).run s b) :
    Returns (linkServices deployment m a st) 0 op backendStart
      (SolanaPaymentLinksService.createClaimLink deployment dto).run s b := by
  refine .andThen _ _ (returns_checked (y := .ok ()) (by decide +kernel)) ?_
  refine .andThen _ _ (returns_checked (y := .ok 2) (by decide +kernel)) ?_
  refine .andThen _ _ (returns_ok (x := (1750000000000 : ℤ)) hop ⟨rfl, _, rfl⟩) ?_
  refine .andThen _ _ (returns_ok (x := some sender) hop ⟨rfl, ?_⟩) ?_
  · intro user huser
    exact (Except.ok.inj huser).symm
  have hwallet :
      SolanaPaymentLinksService.walletOf (some sender) = some (sender, senderWallet) := by
    simp [SolanaPaymentLinksService.walletOf, sender, senderWallet, toBase58_ne_empty]
  refine .andThen _ _
    (returns_checked (y := .ok (sender, senderWallet)) (orError_eq_ok.mpr hwallet)) ?_
  have hsession : SolanaPaymentLinksService.activeSession sender 1750000000000 = some sessionKey :=
    rfl
  refine .andThen _ _ (returns_checked (y := .ok sessionKey) (orError_eq_ok.mpr hsession)) ?_
  refine .andThen _ _ (returns_ensureVaultDeployed hop) ?_
  refine .andThen _ _ (returns_ok (r := .now) (x := (1750000000000 : ℤ)) hop ⟨rfl, _, rfl⟩) ?_
  refine .andThen (backendStart.setLink linkCode pendingRow) pendingRow ?_ ?_
  · refine .andThen _ _ (returns_ok (r := .randomCode) (x := linkCode) hop ⟨rfl, _, rfl⟩) ?_
    refine .andThen backendStart linkCode ?_ ?_
    · refine .andThen _ _ (returns_ok (r := .findLink linkCode) (x := none) hop ⟨rfl, ?_⟩) ?_
      · intro row hrow
        exact (Except.ok.inj hrow).symm
      · exact .refl _ _
    · refine .andThen _ _ (returns_ok (r := .now) (x := (1750000000000 : ℤ)) hop ⟨rfl, _, rfl⟩) ?_
      exact returns_ok (r := .createLink pendingRow) (x := pendingRow) hop
        (.inl ⟨rfl, .inl ⟨rfl, .inl rfl⟩⟩)
  refine .andThen (backendStart.setLink linkCode pendingRow) "opened" ?_ ?_
  · refine .andThen _ _ (returns_checked (y := .ok ()) (by decide +kernel)) ?_
    exact returns_ok (r := .decryptSessionKey sessionKey) (x := "opened") hop rfl
  have hid : linkIdOf deployment pendingRow.code = codeLinkId.toList := by decide +kernel
  have hcommitment : (paymentLinkRecipientCommitment deployment dto.platform
      (normalizeHandle deployment dto.recipientHandle)).toList = aliceCommitment.toList := by
        decide +kernel
  rw [← hid, ← hcommitment] at h
  exact h

theorem vaultTokenAccount_eq :
    SolanaChainService.vaultTokenAccount deployment (toBase58 vault) = .ok vaultTokenAccount := by
  have hderived : getAssociatedTokenAddressSync backendRuntime stablecoinMint vault =
      .ok vaultTokenAccount := by
    decide +kernel
  simp only [SolanaChainService.vaultTokenAccount, addressKey_toBase58, bind_eq_ok, Except.ok.injEq,
    exists_eq_left']
  exact hderived

theorem createPaymentLinkCall_eq :
    SolanaChainService.createPaymentLinkCall deployment
      { vaultAddress := toBase58 vault, sessionKeypair := sessionSigner, linkId := codeLinkId.toList
        recipientCommitment := aliceCommitment.toList, amount := 2000000, expiresAtUnix :=
          1750086400
        sessionNonce := 0 } = .ok (createLinkCall, codeLink) := by
  have hsession : deriveSession backendRuntime vault sessionSigner = .ok session := by
    decide +kernel
  have hlink : derivePaymentLink backendRuntime vault codeLinkId.toList = .ok codeLink := by
    decide +kernel
  have hescrow :
      derivePaymentLinkTokenAccount backendRuntime codeLink stablecoinMint = .ok codeEscrow := by
    decide +kernel
  have hcall : createPaymentLinkWithSessionInstruction
      { payer := payer, config := config, vault := vault, session := session
        sessionSigner := sessionSigner
        stablecoinMint := stablecoinMint, vaultTokenAccount :=
          vaultTokenAccount, paymentLink := codeLink
        escrowTokenAccount := codeEscrow }
      codeLinkId.toList aliceCommitment.toList 2000000 1750086400 0 = .ok createLinkCall := by
        decide +kernel
  simp only [SolanaChainService.createPaymentLinkCall, addressKey_toBase58, bind_eq_ok, pure_eq_ok,
    Except.ok.injEq,
    exists_eq_left']
  exact ⟨session, hsession, codeLink, hlink, vaultTokenAccount, vaultTokenAccount_eq, codeEscrow,
    hescrow, createLinkCall, hcall, rfl⟩

/-- Up to the submission, the row being pending. -/
theorem createPaymentLink_starts {op : Operation} (hop : a → ¬op.Direct) {s : Store}
    {x : Except Failure String} {b : Except Failure (String × String)}
    (hsubmit : Returns (linkServices deployment m a st) 0 op
      (backendStart.setLink linkCode pendingRow)
      (ask (.submit ⟨createLinkCall, [sessionSigner], none⟩)).run s x)
    (hrest : Returns (linkServices deployment m a st) 0 op s
      (do
        let signature ← checked x
        let _ ← ask (.write (.spendingRecord "session-1" 2 signature))
        pure (signature, toBase58 codeLink) : Service (String × String)).run s b) :
    Returns (linkServices deployment m a st) 0 op (backendStart.setLink linkCode pendingRow)
      (SolanaRelayerService.createPaymentLinkWithSession deployment
        { userId := "user-1", vaultAddress := toBase58 vault, encryptedSessionKey := "opened"
          amountUSD := 2
          linkId := codeLinkId.toList, recipientCommitment := aliceCommitment.toList
          expiresAtUnix := 1750086400 }).run s b := by
  obtain ⟨record, hrecord, hactive, hnonce⟩ : ∃ record, opened.data session = .session record ∧
      record.revoked = false ∧ record.nonce = 0 := by
    have h := opened_facts
    simp only [Bool.and_eq_true, Option.any_eq_true] at h
    obtain ⟨record, hrecord, hrevoked, hnonce⟩ := h.1.1.2
    exact ⟨record,
      AccountData.session?_eq_some.mp hrecord, by simpa using hrevoked, by simpa using hnonce⟩
  refine .andThen _ _ (returns_checked (y := .ok sessionSigner) rfl) ?_
  refine .andThen (backendStart.setLink linkCode pendingRow) sessionKey ?_ ?_
  · refine .andThen _ _
      (returns_ok (r := .findSessionKey (toBase58 sessionSigner)) (x := some sessionKey) hop rfl) ?_
    refine .andThen _ _ (returns_ok (r := .now) (x := (1750000000000 : ℤ)) hop ⟨rfl, _, rfl⟩) ?_
    exact returns_checked rfl
  refine .andThen (backendStart.setLink linkCode pendingRow) () ?_ ?_
  · refine .andThen _ _ (returns_checked (y := .ok ()) (by decide +kernel)) ?_
    refine .andThen _ _ (returns_ok (r := .now) (x := (1750000000000 : ℤ)) hop ⟨rfl, _, rfl⟩) ?_
    refine .andThen _ _
      (returns_ok (r := .spentSince "session-1" 1749913600000) (x := (0 : ℚ)) hop rfl) ?_
    exact returns_checked (by decide +kernel)
  refine .andThen (backendStart.setLink linkCode pendingRow) record ?_ ?_
  · refine .andThen (backendStart.setLink linkCode pendingRow) (some record) ?_ ?_
    · refine .andThen _ _ (returns_checked (addressKey_toBase58 vault "vault")) ?_
      refine .andThen _ _ (returns_checked (y := .ok session) (by decide +kernel)) ?_
      exact returns_ok hop ⟨rfl, .inl (AccountData.session?_eq_some.mpr hrecord)⟩
    · exact returns_checked (orError_eq_ok.mpr (by simp [hactive]))
  refine .andThen _ _ (returns_checked (y := .ok 2000000) (by decide +kernel)) ?_
  refine .andThen (backendStart.setLink linkCode pendingRow) 50000000 ?_ ?_
  · refine .andThen _ _ (returns_checked vaultTokenAccount_eq) ?_
    refine returns_ok (r := .readTokenBalance vaultTokenAccount) (x := 50000000) hop
      ⟨rfl, fun balance hbalance => ?_⟩
    have h := opened_facts
    simp only [Bool.and_eq_true, decide_eq_true_eq] at h
    exact (Except.ok.inj hbalance).symm.trans h.1.2.symm
  refine .andThen _ _ (returns_checked (y := .ok ()) (by decide +kernel)) ?_
  rw [hnonce]
  cases x with
  | ok signature =>
    refine .andThen s (signature, toBase58 codeLink) ?_ hrest
    refine .andThen _ _ (returns_checked createPaymentLinkCall_eq) ?_
    exact .andThen _ _ hsubmit (.refl _ _)
  | error e =>
    have hfailed : b = .error e := by
      cases hrest
      rfl
    subst hfailed
    refine .failed ?_
    refine .andThen _ _ (returns_checked createPaymentLinkCall_eq) ?_
    exact .failed hsubmit

def fundingSubmission : Submission := ⟨createLinkCall, [sessionSigner], none⟩

/-- The transaction lands, and its link is active. -/
theorem fundingSubmission_lands : ∃ w link, fundingSubmission.Lands deployment opened w ∧
    w.data codeLink = .link link ∧ link.status = paymentLinkStatusActive := by
  have hexec : ∃ w, exec backendRuntime sessionContext createLinkCall opened = .ok w := by
    have h := opened_facts
    simp only [Bool.and_eq_true] at h
    exact eq_ok_of_toBool h.2
  obtain ⟨w, hw⟩ := hexec
  have henv : EnvStep backendRuntime opened opened :=
    ⟨Int64.le_refl _, fun _ _ => rfl, fun _ _ => le_rfl, fun _ _ => rfl, fun _ t ht _ => ⟨t, ht,
      rfl, rfl, le_rfl⟩, id⟩
  have hlands : fundingSubmission.Lands deployment opened w :=
    ⟨sessionContext, opened, rfl, fun v hv => (nomatch hv), henv, hw⟩
  obtain ⟨link, hlink, hactive⟩ := hlands.outcome (Setting.linkOutcome?_of_created rfl)
  exact ⟨w, link, hlands, hlink, hactive⟩

def activeRow : ShortLink :=
  { pendingRow with
    status := .active, envelopeId := some (toBase58 codeLink), fundingTxHash := some "5xFund" }

/-- The store once the link is funded and recorded. -/
def funded (w : World) : Store :=
  ((backendStart.setLink linkCode pendingRow).landed 0 fundingSubmission w).setLink
    linkCode activeRow

/-- The link is funded, and its row is active. -/
theorem createClaimLink_returns {w : World} (hlands : fundingSubmission.Lands deployment opened w) :
    Returns (linkServices deployment m a st) 0 (.createClaimLink dto) backendStart
      ((Operation.createClaimLink dto).program deployment) (funded w) () := by
  have hop : a → ¬(Operation.createClaimLink dto).Direct := fun _ h => h
  refine Returns.bind _ (.ok (linkCode, toBase58 codeLink)) (createClaimLink_starts hop ?_)
    (.refl _ _)
  refine .andThen ((backendStart.setLink linkCode pendingRow).landed 0 fundingSubmission w)
    ("5xFund", toBase58 codeLink)
    (.untouched (createPaymentLink_starts hop (x := .ok "5xFund") ?_ ?_)) ?_
  · exact (returns_ok (r := .submit fundingSubmission) (x := "5xFund") hop (.inl ⟨w, hlands, rfl⟩))
  · refine .andThen _ _ (returns_checked rfl) ?_
    refine .andThen _ _
      (returns_ok (r := .write (.spendingRecord "session-1" 2 "5xFund")) (x := ()) hop rfl) ?_
    exact .refl _ _
  · refine .andThen _ _
      (returns_ok (r :=
        .updateLink linkCode
          { envelopeId := some (toBase58 codeLink), fundingTxHash := some "5xFund"
            status := some .active })
      (x := activeRow) hop ?_) (.refl _ _)
    exact .inl ⟨pendingRow, by simp [Store.landed, Store.setLink], .inl ⟨rfl, .inl rfl⟩⟩

theorem backendStart_consistent : Consistent deployment backendStart := by
  obtain ⟨tr, hrun⟩ := opened_reached
  have hledger : WellFormed backendRuntime opened := wellFormed_of_run genesis_fresh hrun
  exact consistent_of_empty hledger (fun _ => rfl) (fun _ => rfl) fun _ => rfl

theorem recorded_funded (w : World) : Recorded (funded w) codeLink :=
  ⟨linkCode, activeRow, Store.setLink_self .., ⟨rfl, rfl⟩, by simp [Live, activeRow]⟩

end Runs

/-- A link is created and funded, under any restriction on the steps. -/
theorem created_run {m : Operation → Prop} (a st : Prop) (hmay : m (.createClaimLink dto)) :
    ∃ tr w link,
    Run (InterleavedPrograms.Step (linkServices deployment m a st))
      (Config.initial backendStart) tr
      (({ (Config.initial backendStart : BackendConfig) with state := funded w }).setStage 0
        (.createClaimLink dto) (.running (.ret ()))) ∧ w.data codeLink = .link link ∧
        link.status = paymentLinkStatusActive := by
  obtain ⟨w, link, hlands, hlink, hactive⟩ := fundingSubmission_lands
  have hnil : Run (InterleavedPrograms.Step (linkServices deployment m a st))
      (Config.initial backendStart) []
    (Config.initial backendStart) := Run.nil
  have hstarts : (linkServices deployment m a st).mayStart (.createClaimLink dto) := ⟨trivial, hmay⟩
  obtain ⟨tr, hrun⟩ := run_of_returns (i := 0) hnil rfl hstarts (createClaimLink_returns hlands)
  exact ⟨tr, w, link, hrun, hlink, hactive⟩

theorem link_records_agree_with_chain_devnet : ∃ tr c, BackendRun deployment backendStart tr c ∧
    Recorded c.state codeLink ∧ AgreesWithChain c.state ∧
    ∀ t ∈ tr, TerminalKept t.before.state t.after.state := by
  obtain ⟨tr, w, link, hrun, -, -⟩ := created_run (m := fun _ => True) True False trivial
  obtain ⟨hrun, hmeets⟩ := run_of_restrict hrun
  have hsteps : ∀ t ∈ tr, ArbitratedStep t := by
    intro t ht
    have hmeet := hmeets t ht
    obtain ⟨before, event, after⟩ := t
    cases event with
    | performed i r x => exact fun proc hproc => (hmeet proc hproc).1 trivial
    | _ => trivial
  exact ⟨tr, _, hrun, recorded_funded w,
    link_records_agree_with_chain backendStart_consistent hrun hsteps⟩

section Cancellation

variable {m : Operation → Prop}

theorem resolve_returns {op : Operation} {s : Store} (hrow : s.links linkCode = some activeRow) :
    Returns (linkServices deployment m False False) 1 op s (ShortLinksService.resolve linkCode).run
      (s.setLink linkCode (LinkUpdate.apply { incrementClickCount := true } activeRow))
        (.ok activeRow) := by
  have hexpired : ¬(activeRow.status = .active ∧ activeRow.isExpired 1750000000000 ∧
      ¬isNativeSolanaPaymentLink activeRow) := by
    simp [ShortLink.isExpired, activeRow, pendingRow]
  refine .andThen _ _
    (returns_ok (r := .findLink linkCode) (x := some activeRow) False.elim ⟨rfl, ?_⟩) ?_
  · exact fun row hx => (Except.ok.inj hx).symm.trans hrow.symm
  refine .andThen _ _ (returns_checked rfl) ?_
  refine .andThen _ _
    (returns_ok (r := .now) (x := (1750000000000 : ℤ)) False.elim ⟨rfl, _, rfl⟩) ?_
  simp only [if_neg hexpired]
  refine .andThen s activeRow (.refl _ _) ?_
  refine .andThen _ _ (returns_ok (r := .updateLink linkCode { incrementClickCount := true })
    (x := LinkUpdate.apply { incrementClickCount := true } activeRow) False.elim ?_) (.refl _ _)
  exact .inl ⟨activeRow, hrow, .inl ⟨rfl, .inl rfl⟩⟩

/-- The cancel of the short link leaves the row cancelled and the chain as it is. -/
theorem cancel_returns {s : Store} (hrow : s.links linkCode = some activeRow) :
    ∃ s', s'.ledger = s.ledger ∧
    s'.links linkCode = some { activeRow with status := .cancelled, clickCount := 1 } ∧
    Returns (linkServices deployment m False False) 1 (.cancel linkCode "user-1") s
      ((Operation.cancel linkCode "user-1").program deployment) s' () := by
  have hclicked :
      (s.setLink linkCode (LinkUpdate.apply { incrementClickCount := true } activeRow)).links
        linkCode =
      some (LinkUpdate.apply { incrementClickCount := true } activeRow) := Store.setLink_self ..
  refine ⟨(s.setLink linkCode (LinkUpdate.apply { incrementClickCount := true } activeRow)).setLink
    linkCode
    (LinkUpdate.apply { status := some .cancelled }
      (LinkUpdate.apply { incrementClickCount := true } activeRow)),
    rfl, Store.setLink_self .., ?_⟩
  refine Returns.bind _ (.ok (LinkUpdate.apply { status := some .cancelled }
    (LinkUpdate.apply { incrementClickCount := true } activeRow))) ?_ (.refl _ _)
  refine .andThen _ _ (resolve_returns hrow) ?_
  refine .andThen _ _ (returns_checked (y := .ok ()) ?_) ?_
  · simp [truthy, activeRow, pendingRow]
  refine .andThen _ _ (returns_checked (y := .ok ()) (require_eq_ok.mpr rfl)) ?_
  exact returns_ok (r := .updateLink linkCode { status := some .cancelled }) False.elim
    (.inl ⟨_, hclicked, .inl ⟨rfl, .inl rfl⟩⟩)

end Cancellation

/-- The cancel of the short link hides an escrow that is still active. -/
theorem direct_cancel_hides_active_escrow : ∃ tr c, Consistent deployment backendStart ∧
    BackendRun deployment backendStart tr c ∧ ¬AgreesWithChain c.state := by
  obtain ⟨tr, w, link, hrun, hlink, hactive⟩ := created_run (m := fun _ => True) False False trivial
  obtain ⟨s', hledger, hrow, hreturns⟩ :=
    cancel_returns (m := fun _ => True) (s := funded w) (Store.setLink_self ..)
  have hmay : (linkServices deployment (fun _ => True) False False).mayStart
      (.cancel linkCode "user-1") := ⟨trivial, trivial⟩
  obtain ⟨tr', hrun'⟩ :=
    run_of_returns (i := 1) hrun (by simp [Config.setStage, Config.initial]) hmay hreturns
  refine ⟨tr', _, backendStart_consistent, (run_of_restrict hrun').1, fun hagrees => ?_⟩
  obtain ⟨link', hlink', hcancelled⟩ :=
    hagrees linkCode _ codeLink paymentLinkStatusCancelled hrow ⟨rfl, rfl⟩ rfl
  have hsame : link' = link := by
    have hdata : s'.ledger.data codeLink = .link link := by rw [hledger]; exact hlink
    exact AccountData.link.inj (hlink'.symm.trans hdata)
  rw [hsame, hactive] at hcancelled
  exact absurd hcancelled (by decide)

end VeriAgentPay.Devnet
