import VeriAgentPay.LedgerRuns

/-!
# Lamports moved by the program

`transfer_program_lamports` reads both balances before it writes either. Its statements are run one
by one here, so that what is written before an error would stay, and each instruction is taken apart
at the place where it calls it.
-/

namespace VeriAgentPay
open FixedWidth CheckedOutcome

section Helper

/-- Statements on the accounts. An error does not undo what was written. -/
abbrev Statements := ExceptT ProgramError (StateM World)

def lamportsOf (key : Pubkey) : Statements UInt64 := do
  let w ← get
  pure (w.lamports key)

/-- `**account.try_borrow_mut_lamports()? = value`; no other borrow is alive where it is used. -/
def writeLamports (key : Pubkey) (value : UInt64) : Statements Unit :=
  modify (·.setLamports key value)

def orFail {α : Type} (x : Option α) (e : ProgramError) : Statements α :=
  match x with
  | some a => pure a
  | none => throw e

/-- `transfer_program_lamports`, statement by statement. -/
def transferProgramLamportsSteps (rt : Runtime) (source destination : Pubkey) (amount : UInt64)
    (insufficientError : VeriAgentError) : Statements Unit := do
  let w ← get
  let rentReserve := rt.minimumBalance (w.data source).dataLen
  let sourceBalance ← lamportsOf source
  let remaining ← orFail (checkedSub sourceBalance amount) (.custom insufficientError)
  if remaining < rentReserve then throw (.custom insufficientError)
  let destinationBalance ← lamportsOf destination
  let destinationBalance ← orFail (checkedAdd destinationBalance amount)
    (.custom .arithmeticOverflow)
  writeLamports source remaining
  writeLamports destination destinationBalance

variable {rt : Runtime} {w w' : World} {source destination : Pubkey} {amount : UInt64}
  {e : VeriAgentError}

theorem run_get {α : Type} (f : World → Statements α) (w : World) :
    ((get : Statements World) >>= f).run.run w = (f w).run.run w := rfl

theorem run_lamportsOf {α : Type} (key : Pubkey) (f : UInt64 → Statements α) (w : World) :
    (lamportsOf key >>= f).run.run w = (f (w.lamports key)).run.run w := rfl

theorem run_orFail {α β : Type} (x : Option α) (error : ProgramError) (f : α → Statements β)
    (w : World) :
    (orFail x error >>= f).run.run w =
      match x with
      | some a => (f a).run.run w
      | none => (.error error, w) := by
  cases x <;> rfl

/-- The statements leave the accounts alone when they fail, and otherwise do what the helper
does. -/
theorem transferProgramLamportsSteps_run (rt : Runtime) (w : World) (source destination : Pubkey)
    (amount : UInt64) (e : VeriAgentError) :
    (transferProgramLamportsSteps rt source destination amount e).run.run w =
      match transferProgramLamports rt w source destination amount e with
      | .ok w' => (.ok (), w')
      | .error error => (.error error, w) := by
  simp only [transferProgramLamportsSteps, run_get, run_lamportsOf, run_orFail]
  cases hsub : checkedSub (w.lamports source) amount with
  | none => simp [transferProgramLamports, hsub, orError, bind, Except.bind]
  | some remaining =>
    by_cases hreserve : remaining < rt.minimumBalance (w.data source).dataLen
    · simp only [transferProgramLamports, hsub, orError, require, hreserve, not_true_eq_false,
        if_true, if_false, Except.bind, bind]
      rfl
    · simp only [hreserve, if_false, run_lamportsOf, run_orFail]
      cases hadd : checkedAdd (w.lamports destination) amount with
      | none => simp [transferProgramLamports, hsub, hadd, orError, require, hreserve, bind,
          Except.bind]
      | some balance =>
        simp only [transferProgramLamports, hsub, hadd, orError, require, hreserve,
          not_false_eq_true, if_true, Except.bind, bind]
        rfl

/-- With one account on both sides the amount comes from nowhere. -/
theorem transferProgramLamports_aliased
    (hmoved : transferProgramLamports rt w source source amount e = .ok w') :
    (w'.lamports source).toNat = (w.lamports source).toNat + amount.toNat := by
  simp only [transferProgramLamports, bind_eq_ok, require_eq_ok, orError_eq_ok,
    pure_eq_ok] at hmoved
  obtain ⟨remaining, -, -, -, balance, hbalance, rfl⟩ := hmoved
  simpa using toNat_checkedAdd hbalance

end Helper

section Calls
variable (rt : Runtime) (ctx : Context)

/-- The place of an instruction at which it calls the helper: the accounts there, the arguments, and
what is still written. -/
structure LamportMove where
  world : World
  source : Pubkey
  destination : Pubkey
  amount : UInt64
  insufficientError : VeriAgentError
  rest : World → World

/-- The call at that place, and what it leaves behind. -/
def LamportMove.run (move : LamportMove) : Except ProgramError Unit × World :=
  (transferProgramLamportsSteps rt move.source move.destination move.amount
    move.insufficientError).run.run move.world

/-- The rest of the instruction: an error of the helper is one of the instruction. -/
def LamportMove.finish (move : LamportMove) : Outcome World :=
  match move.run rt with
  | (.ok (), w) => .ok (move.rest w)
  | (.error e, _) => .error e

def transferSolMove (a : TransferSolWithPasskey) (args : SolPasskeyTransferArgs) (w : World) :
    Outcome LamportMove := do
  requireSigner ctx a.payer
  let config ← load AccountData.config? w a.config
  let vault ← load AccountData.vault? w a.vault
  requireConfig rt config a.config
  requireUnpaused config
  requireVault rt vault a.vault
  require (args.amount > 0) (.custom .invalidTransferAmount)
  require (a.vault ≠ a.recipient) (.custom .identicalAccounts)
  require (vault.nonce = args.vaultNonce) (.custom .invalidVaultNonce)
  authorizeRoot rt config ctx w.now vault.rootPublicKey
    (.transferSol (scopeOf rt config a.config) a.vault a.recipient args.amount args.vaultNonce
      args.proofExpiresAt) args.toRootProof
  let nonce ← nextNonce vault.nonce
  pure ⟨w, a.vault, a.recipient, args.amount, .insufficientVaultLamports,
    (·.setData a.vault (.vault { vault with nonce := nonce }))⟩

def createSolLinkMove (a : CreateSolPaymentLinkWithPasskey)
    (args : CreateSolPaymentLinkWithPasskeyArgs) (w : World) :
    Outcome LamportMove := do
  let config ← load AccountData.config? w a.config
  let vault ← load AccountData.vault? w a.vault
  let w₁ ← initAccount rt ctx w a.payer a.paymentLink (paymentLinkSeeds a.vault args.linkId)
    fun bump =>
    .link (newPaymentLink bump a.vault defaultPubkey args.linkId args.recipientCommitment
      args.amount
      args.expiresAt w.now)
  requireConfig rt config a.config
  requireUnpaused config
  requireVault rt vault a.vault
  require (args.amount > 0) (.custom .invalidTransferAmount)
  require (args.recipientCommitment ≠ List.Vector.replicate 32 0)
    (.custom .invalidRecipientCommitment)
  require (vault.nonce = args.vaultNonce) (.custom .invalidVaultNonce)
  validatePaymentLinkExpiry w.now args.expiresAt
  authorizeRoot rt config ctx w.now vault.rootPublicKey
    (.createSolPaymentLink (scopeOf rt config a.config) a.vault a.paymentLink args.linkId
      args.recipientCommitment args.amount args.expiresAt args.vaultNonce args.proofExpiresAt)
    args.toRootProof
  let nonce ← nextNonce vault.nonce
  pure ⟨w₁, a.vault, a.paymentLink, args.amount, .insufficientVaultLamports,
    (·.setData a.vault (.vault { vault with nonce := nonce }))⟩

def claimSolLinkMove (a : ClaimSolPaymentLink) (w : World) : Outcome LamportMove := do
  requireSigner ctx a.claimAuthority
  let config ← load AccountData.config? w a.config
  let claimAuthorityConfig ← load AccountData.claimAuthority? w a.claimAuthorityConfig
  let recipientVault ← load AccountData.vault? w a.recipientVault
  let link ← load AccountData.link? w a.paymentLink
  requireConfig rt config a.config
  requireUnpaused config
  requireClaimAuthority rt claimAuthorityConfig a.claimAuthorityConfig a.claimAuthority
  requireVault rt recipientVault a.recipientVault
  requirePaymentLink rt link a.paymentLink link.senderVault
  requireNativeLink link
  requireActiveLink link
  require (w.now ≤ link.expiresAt) (.custom .paymentLinkExpired)
  pure ⟨w, a.paymentLink, a.recipientVault, link.amount, .insufficientEscrowLamports,
    (·.setData a.paymentLink (.link (link.claimed w.now a.recipientVault)))⟩

def cancelSolLinkMove (a : CancelSolPaymentLinkWithPasskey)
    (args : CancelSolPaymentLinkWithPasskeyArgs) (w : World) :
    Outcome LamportMove := do
  requireSigner ctx a.payer
  let config ← load AccountData.config? w a.config
  let vault ← load AccountData.vault? w a.vault
  let link ← load AccountData.link? w a.paymentLink
  requireConfig rt config a.config
  requireUnpaused config
  requireVault rt vault a.vault
  requirePaymentLink rt link a.paymentLink a.vault
  requireLinkSender link a.vault
  requireNativeLink link
  requireActiveLink link
  require (vault.nonce = args.vaultNonce) (.custom .invalidVaultNonce)
  authorizeRoot rt config ctx w.now vault.rootPublicKey
    (.cancelSolPaymentLink (scopeOf rt config a.config) a.vault a.paymentLink args.vaultNonce
      args.proofExpiresAt) args.toRootProof
  let nonce ← nextNonce vault.nonce
  pure ⟨w, a.paymentLink, a.vault, link.amount, .insufficientEscrowLamports, fun w₁ =>
    (w₁.setData a.vault (.vault { vault with nonce := nonce })).setData a.paymentLink
      (.link (link.cancelled w.now))⟩

def refundSolLinkMove (a : RefundExpiredSolPaymentLink) (w : World) : Outcome LamportMove := do
  let config ← load AccountData.config? w a.config
  let senderVault ← load AccountData.vault? w a.senderVault
  let link ← load AccountData.link? w a.paymentLink
  requireConfig rt config a.config
  requireVault rt senderVault a.senderVault
  requireLinkSender link a.senderVault
  requirePaymentLink rt link a.paymentLink a.senderVault
  requireNativeLink link
  requireActiveLink link
  require (w.now > link.expiresAt) (.custom .paymentLinkNotExpired)
  pure ⟨w, a.paymentLink, a.senderVault, link.amount, .insufficientEscrowLamports,
    (·.setData a.paymentLink (.link (link.refunded w.now)))⟩

/-- How far a call gets to the helper; none of the other instructions calls it. -/
def lamportMove : Call → World → Option (Outcome LamportMove)
  | .transferSolWithPasskey a args, w => some (transferSolMove rt ctx a args w)
  | .createSolPaymentLinkWithPasskey a args, w => some (createSolLinkMove rt ctx a args w)
  | .claimSolPaymentLink a, w => some (claimSolLinkMove rt ctx a w)
  | .cancelSolPaymentLinkWithPasskey a args, w => some (cancelSolLinkMove rt ctx a args w)
  | .refundExpiredSolPaymentLink a, w => some (refundSolLinkMove rt a w)
  | _, _ => none

end Calls

section Results
variable {rt : Runtime} {ctx : Context}

theorem LamportMove.finish_eq (move : LamportMove) :
    move.finish rt = transferProgramLamports rt move.world move.source move.destination move.amount
      move.insufficientError >>=
      fun w => pure (move.rest w) := by
  rw [finish, run, transferProgramLamportsSteps_run]
  cases transferProgramLamports rt move.world move.source move.destination move.amount
    move.insufficientError <;> rfl

/-- An instruction is what comes before the helper, the helper, and the rest. -/
theorem exec_of_lamportMove {call : Call} {w : World} {reached : Outcome LamportMove}
    (hcall : lamportMove rt ctx call w = some reached) :
    exec rt ctx call w = reached >>= LamportMove.finish rt := by
  have hfinish :
      LamportMove.finish rt = fun move => transferProgramLamports rt move.world move.source
        move.destination move.amount
      move.insufficientError >>= fun w => pure (move.rest w) := funext LamportMove.finish_eq
  rw [hfinish]
  cases call with
  | transferSolWithPasskey a args =>
    obtain rfl := Option.some.inj hcall
    simp only [exec, transferSolWithPasskey, transferSolMove, bind_assoc, pure_bind]
  | createSolPaymentLinkWithPasskey a args =>
    obtain rfl := Option.some.inj hcall
    simp only [exec, createSolPaymentLinkWithPasskey, createSolLinkMove, bind_assoc, pure_bind]
  | claimSolPaymentLink a =>
    obtain rfl := Option.some.inj hcall
    simp only [exec, claimSolPaymentLink, claimSolLinkMove, bind_assoc, pure_bind]
  | cancelSolPaymentLinkWithPasskey a args =>
    obtain rfl := Option.some.inj hcall
    simp only [exec, cancelSolPaymentLinkWithPasskey, cancelSolLinkMove, bind_assoc, pure_bind]
  | refundExpiredSolPaymentLink a =>
    obtain rfl := Option.some.inj hcall
    simp only [exec, refundExpiredSolPaymentLink, refundSolLinkMove, bind_assoc, pure_bind]
  | _ => cases hcall

/-- Where the helper is called, its two accounts are not the same: of two program accounts the kinds
differ, and the recipient of a transfer is compared with the vault. -/
theorem ne_of_lamportMove {call : Call} {w : World} {move : LamportMove}
    (hcall : lamportMove rt ctx call w = some (.ok move)) :
    move.source ≠ move.destination := by
  cases call with
  | transferSolWithPasskey a args =>
    have hmove := Option.some.inj hcall
    simp only [transferSolMove, bind_eq_ok, require_eq_ok, pure_eq_ok, exists_unit] at hmove
    obtain ⟨-, config, -, vault, -, -, -, -, -, hne, -, -, nonce, -, rfl⟩ := hmove
    exact hne
  | createSolPaymentLinkWithPasskey a args =>
    have hmove := Option.some.inj hcall
    simp only [createSolLinkMove, bind_eq_ok, load_eq_ok, AccountData.vault?_eq_some,
      pure_eq_ok] at hmove
    obtain ⟨config, -, vault, hvault, w₁, hinit, -, -, -, -, -, -, -, -, -, -, -, -, -, -, -, -,
      nonce, -, rfl⟩ := hmove
    obtain ⟨bump, -, -, hcreated⟩ := initAccount_ok hinit
    exact World.ne_of_data hvault hcreated.fresh (by simp)
  | claimSolPaymentLink a =>
    have hmove := Option.some.inj hcall
    simp only [claimSolLinkMove, bind_eq_ok, load_eq_ok, AccountData.vault?_eq_some,
      AccountData.link?_eq_some, pure_eq_ok, exists_unit] at hmove
    obtain ⟨-, config, -, authority, -, vault, hvault, link, hlink, -, -, -, -, -, -, -, -, rfl⟩ :=
      hmove
    exact World.ne_of_data hlink hvault (by simp)
  | cancelSolPaymentLinkWithPasskey a args =>
    have hmove := Option.some.inj hcall
    simp only [cancelSolLinkMove, bind_eq_ok, load_eq_ok, AccountData.vault?_eq_some,
      AccountData.link?_eq_some, pure_eq_ok, exists_unit] at hmove
    obtain ⟨-, config, -, vault, hvault, link, hlink, -, -, -, -, -, -, -, -, -, nonce, -, rfl⟩ :=
      hmove
    exact World.ne_of_data hlink hvault (by simp)
  | refundExpiredSolPaymentLink a =>
    have hmove := Option.some.inj hcall
    simp only [refundSolLinkMove, bind_eq_ok, load_eq_ok, AccountData.vault?_eq_some,
      AccountData.link?_eq_some, pure_eq_ok, exists_unit] at hmove
    obtain ⟨config, -, vault, hvault, link, hlink, -, -, -, -, -, -, -, rfl⟩ := hmove
    exact World.ne_of_data hlink hvault (by simp)
  | _ => cases hcall

/-- The two balances after a successful call of the helper. -/
structure Conserved (rt : Runtime) (move : LamportMove) (w' : World) : Prop where
  moved : LamportsMoved rt move.world w' move.source move.destination move.amount
  total : (w'.lamports move.source).toNat + (w'.lamports move.destination).toNat =
    (move.world.lamports move.source).toNat + (move.world.lamports move.destination).toNat
  fits : (move.world.lamports move.destination).toNat + move.amount.toNat < 2 ^ 64

/-- Wherever an instruction calls the helper, its accounts are distinct, a success moves the amount
between them and nothing else, and a failure leaves every balance as it was. -/
theorem lamport_moves_conserve {call : Call} {w : World} {reached : Outcome LamportMove}
    (hcall : lamportMove rt ctx call w = some reached) :
    exec rt ctx call w = reached >>= LamportMove.finish rt ∧
      ∀ move, reached = .ok move → move.source ≠ move.destination ∧
        (∀ w', move.run rt = (.ok (), w') → Conserved rt move w') ∧
        ∀ e w', move.run rt = (.error e, w') → w' = move.world := by
  refine ⟨exec_of_lamportMove hcall, ?_⟩
  rintro move rfl
  have hne := ne_of_lamportMove hcall
  refine ⟨hne, ?_, ?_⟩
  · intro w' hrun
    rw [LamportMove.run, transferProgramLamportsSteps_run] at hrun
    cases hmoved :
      transferProgramLamports rt move.world move.source move.destination move.amount
        move.insufficientError with
    | error e =>
      rw [hmoved] at hrun
      cases hrun
    | ok w₁ =>
      rw [hmoved] at hrun
      obtain rfl := (Prod.mk.inj hrun).2
      have hlamports := transferProgramLamports_ok hne hmoved
      have hsource := hlamports.source_eq
      have hdestination := hlamports.destination_eq
      have hbound := (w₁.lamports move.destination).toNat_lt
      exact ⟨hlamports, by omega, by omega⟩
  · intro e w' hrun
    rw [LamportMove.run, transferProgramLamportsSteps_run] at hrun
    cases hmoved :
      transferProgramLamports rt move.world move.source move.destination move.amount
        move.insufficientError with
    | error e =>
      rw [hmoved] at hrun
      exact (Prod.mk.inj hrun).2.symm
    | ok w₁ =>
      rw [hmoved] at hrun
      cases hrun

end Results

end VeriAgentPay

namespace VeriAgentPay.Devnet
open FixedWidth CheckedOutcome LabelledRuns

/-- The last call of the run, which funds a link. -/
def fundingCall : Context × Call := calls.getD 4 (setUpContext, setUpCall payer)

/-- The call gets to the helper, which moves ten million lamports from the vault to the link. -/
def reachesHelper (w : World) : Bool :=
  match lamportMove runtime fundingCall.1 fundingCall.2 w with
  | some (.ok move) =>
    (move.run runtime).1.toBool && move.source = vault && move.destination = solLink &&
      move.amount = 10000000
  | _ => false

/-- On the concrete ledger the vault funds a link with ten million lamports. -/
theorem lamport_moves_conserve_devnet : ∃ tr w move w', Run (Step runtime) genesis tr w ∧
    move.source = vault ∧ move.destination = solLink ∧
    move.amount = 10000000 ∧ exec runtime fundingCall.1 fundingCall.2 w = .ok (move.rest w') ∧
    Conserved runtime move w' := by
  obtain ⟨tr, w, hrun, hw⟩ := @reached 4 (fun _ w => reachesHelper w) (by decide +kernel)
  unfold reachesHelper at hw
  split at hw
  · next move hcall =>
    simp only [Bool.and_eq_true, decide_eq_true_eq] at hw
    obtain ⟨⟨⟨hok, hsource⟩, hdestination⟩, hamount⟩ := hw
    obtain ⟨hexec, hmove⟩ := lamport_moves_conserve hcall
    obtain ⟨⟨⟩, hresult⟩ := eq_ok_of_toBool hok
    have hpair : move.run runtime = (.ok (), (move.run runtime).2) := Prod.ext hresult rfl
    refine ⟨tr, w, move, _, hrun, hsource, hdestination, hamount, ?_, (hmove move rfl).2.1 _ hpair⟩
    rw [hexec]
    show LamportMove.finish runtime move = _
    rw [LamportMove.finish, hpair]
  · cases hw

end VeriAgentPay.Devnet
