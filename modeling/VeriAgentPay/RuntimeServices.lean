import VeriAgentPay.ProgramAccounts

/-!
# What the program calls: address derivation, the system program and the token program

Address derivation, SHA-256, the client-data parser and the rent rate are parameters. The
system and token programs are the fragments the instructions reach, with the checks their
documentation gives. A failed call leaves no state behind, as a failed transaction does.
-/

namespace VeriAgentPay
open FixedWidth CheckedOutcome

/-- `errors.rs`. -/
inductive VeriAgentError where
  | protocolPaused | invalidStablecoinMint | invalidRootKeyHash | invalidAuthorizationExpiry
  | invalidVaultNonce | invalidSessionNonce | missingSecp256r1Instruction
  | invalidSecp256r1Instruction | invalidSecp256r1PublicKey | invalidSecp256r1Message
  | invalidAuthenticatorData | invalidRpIdHash | userVerificationRequired | invalidClientData
  | invalidWebAuthnType | crossOriginAssertion | invalidWebAuthnOrigin | invalidWebAuthnChallenge
  | invalidSessionWindow | invalidSessionActions | invalidSessionLimits | sessionRevoked
  | sessionInactive | sessionActionDenied | perActionLimitExceeded | cumulativeLimitExceeded
  | arithmeticOverflow | invalidTransferAmount | identicalTokenAccounts
  | invalidPaymentLinkExpiry | invalidRecipientCommitment | paymentLinkNotActive
  | paymentLinkExpired | paymentLinkNotExpired | invalidPaymentLinkSender
  | invalidClaimAuthority | insufficientVaultLamports | insufficientEscrowLamports
  | identicalAccounts | invalidNativePaymentLink
  deriving DecidableEq

inductive AnchorError where
  | accountNotInitialized | accountDiscriminatorMismatch | accountNotSigner
  | constraintSeeds | constraintRaw | constraintAddress | constraintTokenMint
  | constraintTokenOwner | constraintAssociated | tryingToInitPayerAsProgramAccount
  | noViableBump
  deriving DecidableEq

inductive SystemError where
  | accountAlreadyInUse | invalidArgument | resultWithNegativeLamports | lamportOverflow
  | missingRequiredSignature | invalidSeeds | unsupportedSysvar
  deriving DecidableEq

inductive TokenError where
  | accountFrozen | insufficientFunds | mintMismatch | mintDecimalsMismatch | ownerMismatch
  | overflow
  deriving DecidableEq

inductive ProgramError where
  | custom (e : VeriAgentError)
  | anchor (e : AnchorError)
  | system (e : SystemError)
  | token (e : TokenError)
  deriving DecidableEq

abbrev Outcome := Except ProgramError

/-- The members of the client data that the program reads. -/
structure CollectedClientData where
  ceremonyType : String
  challenge : String
  origin : String
  crossOrigin : Option Bool
  deriving DecidableEq

structure Runtime where
  /-- `crate::ID`, one of two by feature. -/
  programId : Pubkey
  /-- `Pubkey::create_program_address` of a program and its concatenated seeds. -/
  createProgramAddress : Pubkey → Bytes → Option Pubkey
  sha256 : Bytes → FixedBytes 32
  /-- `serde_json::from_slice` at `CollectedClientData`. -/
  parseClientData : Bytes → Option CollectedClientData
  /-- `Base64UrlUnpadded::decode_vec`. -/
  decodeBase64Url : String → Option Bytes
  /-- `Rent::minimum_balance`. -/
  minimumBalance : ℕ → UInt64

/-- A top-level instruction of the transaction, as the instructions sysvar shows it. -/
structure TransactionInstruction where
  programId : Pubkey
  accounts : List Pubkey
  data : Bytes
  deriving DecidableEq

/-- What a call can see of its transaction. Calls by CPI share the sysvar and the index of
the top-level instruction they run under. -/
structure Context where
  signers : List Pubkey
  instructions : List TransactionInstruction
  currentIndex : ℕ

def tokenProgramId : Pubkey :=
  ⟨[6, 221, 246, 225, 215, 101, 161, 147, 217, 203, 225, 70, 206, 235, 121, 172, 28, 180, 133, 237,
    95, 91, 55, 145, 58, 140, 245, 133, 126, 255, 0, 169], rfl⟩

def associatedTokenProgramId : Pubkey :=
  ⟨[140, 151, 37, 143, 78, 36, 137, 241, 187, 61, 16, 41, 20, 142, 13, 131, 11, 90, 19, 153, 218,
    255, 16, 132, 4, 142, 123, 216, 219, 233, 248, 89], rfl⟩

section Addresses

variable (rt : Runtime)

/-- `Pubkey::find_program_address`: the largest bump whose address is off the curve. -/
def findProgramAddress (programId : Pubkey) (seeds : List Bytes) : Option (Pubkey × UInt8) :=
  (List.range 255).findSome? fun i =>
    let bump := UInt8.ofNat (255 - i)
    (rt.createProgramAddress programId (seeds.flatten ++ [bump])).map fun key => (key, bump)

/-- `get_associated_token_address`. -/
def associatedTokenAddress (wallet mint : Pubkey) : Option Pubkey :=
  (findProgramAddress rt associatedTokenProgramId
    [wallet.toList, tokenProgramId.toList, mint.toList]).map Prod.fst

/-- Addresses this program can sign for. -/
def IsProgramAddress (k : Pubkey) : Prop :=
  ∃ seeds, rt.createProgramAddress rt.programId seeds = some k

/-- Addresses derived from distinct seeds are distinct. -/
def PdaInjective : Prop :=
  ∀ p s p' s' k, rt.createProgramAddress p s = some k → rt.createProgramAddress p' s' = some k →
    p = p' ∧ s = s'

variable {rt}

theorem createProgramAddress_of_find {programId : Pubkey} {seeds : List Bytes} {key : Pubkey}
    {bump : UInt8} (h : findProgramAddress rt programId seeds = some (key, bump)) :
    rt.createProgramAddress programId (seeds.flatten ++ [bump]) = some key := by
  obtain ⟨i, -, hi⟩ := List.exists_of_findSome?_eq_some h
  obtain ⟨key', hkey', heq⟩ := Option.map_eq_some_iff.mp hi
  obtain ⟨rfl, rfl⟩ := Prod.mk.inj heq
  exact hkey'

/-- Associated token addresses determine their wallet and their mint. -/
theorem associatedTokenAddress_inj (hpda : PdaInjective rt) {wallet wallet' mint mint' key : Pubkey}
    (h : associatedTokenAddress rt wallet mint = some key)
    (h' : associatedTokenAddress rt wallet' mint' = some key) :
    wallet = wallet' ∧ mint = mint' := by
  obtain ⟨⟨k, bump⟩, hk, rfl⟩ := Option.map_eq_some_iff.mp h
  obtain ⟨⟨k', bump'⟩, hk', heq⟩ := Option.map_eq_some_iff.mp h'
  obtain rfl : k' = k := heq
  have hseeds :=
    (hpda _ _ _ _ _ (createProgramAddress_of_find hk) (createProgramAddress_of_find hk')).2
  simp only [List.flatten_cons, List.flatten_nil, List.append_nil, List.append_assoc] at hseeds
  obtain ⟨hwallet, hrest⟩ := List.append_inj hseeds (by simp)
  obtain ⟨-, hrest⟩ := List.append_inj hrest rfl
  obtain ⟨hmint, -⟩ := List.append_inj hrest (by simp)
  exact ⟨List.Vector.eq _ _ hwallet, List.Vector.eq _ _ hmint⟩

end Addresses

section Accounts

/-- Deserialize an account of one kind. -/
def load {α : Type} (kind : AccountData → Option α) (w : World) (key : Pubkey) : Outcome α :=
  match kind (w.data key) with
  | some a => .ok a
  | none => .error (.anchor (if w.data key = .empty then .accountNotInitialized
      else .accountDiscriminatorMismatch))

@[simp] theorem load_eq_ok {α : Type} {kind : AccountData → Option α} {w : World}
    {key : Pubkey} {a : α} :
    load kind w key = .ok a ↔ kind (w.data key) = some a := by
  unfold load
  split <;> simp_all

theorem load_error {α : Type} {kind : AccountData → Option α} {w : World} {key : Pubkey}
    {e : ProgramError} (h : load kind w key = .error e) : ∃ e', e = .anchor e' := by
  unfold load at h
  split at h
  · cases h
  · exact ⟨_, (Except.error.inj h).symm⟩

def requireSigner (ctx : Context) (key : Pubkey) : Outcome Unit :=
  require (key ∈ ctx.signers) (.anchor .accountNotSigner)

/-- The constraint `seeds = [..], bump = ..` on an account of this program. -/
def requireSeeds (rt : Runtime) (seeds : List Bytes) (bump : UInt8) (key : Pubkey) : Outcome Unit :=
  require (rt.createProgramAddress rt.programId (seeds.flatten ++ [bump]) = some key)
    (.anchor .constraintSeeds)

/-- `system_instruction::transfer`, from a signer that carries no data. -/
def systemTransfer (w : World) (source destination : Pubkey) (amount : UInt64) : Outcome World := do
  require (w.data source = .empty) (.system .invalidArgument)
  let remaining ← orError (checkedSub (w.lamports source) amount)
    (.system .resultWithNegativeLamports)
  let received ← orError (checkedAdd (w.lamports destination) amount) (.system .lamportOverflow)
  pure ((w.setLamports source remaining).setLamports destination received)

/-- The lamports `init` adds to a new account: all of the rent minimum when it has none, and
otherwise what it lacks. -/
def fundAccount (rt : Runtime) (w : World) (payer key : Pubkey) (space : ℕ) : Outcome World :=
  let rent := rt.minimumBalance space
  if w.lamports key = 0 then systemTransfer w payer key rent
  else
    let required := saturatingSubU64 (max rent 1) (w.lamports key)
    if required > 0 then systemTransfer w payer key required else .ok w

/-- Allocation of a fresh account at the payer's cost. What the instruction writes into it
afterwards is its contents from the start, since nothing reads it in between. -/
def createAccount (rt : Runtime) (w : World) (payer key : Pubkey) (d : AccountData) :
    Outcome World := do
  require (payer ≠ key) (.anchor .tryingToInitPayerAsProgramAccount)
  require (w.data key = .empty) (.system .accountAlreadyInUse)
  let w ← fundAccount rt w payer key d.dataLen
  pure (w.setData key d)

/-- Anchor's `init` of an account of this program: its address is the canonical one of its seeds. -/
def initAccount (rt : Runtime) (ctx : Context) (w : World) (payer key : Pubkey) (seeds : List Bytes)
    (contents : UInt8 → AccountData) : Outcome World := do
  requireSigner ctx payer
  let (address, bump) ← orError (findProgramAddress rt rt.programId seeds) (.anchor .noViableBump)
  require (address = key) (.anchor .constraintSeeds)
  createAccount rt w payer key (contents bump)

/-- `create` of the associated token program. -/
def createAssociatedToken (rt : Runtime) (ctx : Context) (w : World)
    (payer key wallet mint : Pubkey) :
    Outcome World := do
  requireSigner ctx payer
  require (associatedTokenAddress rt wallet mint = some key) (.system .invalidSeeds)
  createAccount rt w payer key (.token ⟨mint, wallet, 0, false⟩)

/-- Anchor's `init_if_needed` with associated-token constraints. -/
def createAssociatedTokenIfNeeded (rt : Runtime) (ctx : Context) (w : World)
    (payer key wallet mint : Pubkey) : Outcome World := do
  if w.data key = .empty then createAssociatedToken rt ctx w payer key wallet mint
  else do
    let t ← load AccountData.token? w key
    require (t.mint = mint) (.anchor .constraintTokenMint)
    require (t.owner = wallet) (.anchor .constraintTokenOwner)
    require (associatedTokenAddress rt wallet mint = some key) (.anchor .constraintAssociated)
    pure w

/-- The constraints `associated_token::mint`, `associated_token::authority` on an existing
account. -/
def requireAssociatedToken (rt : Runtime) (t : TokenAccount) (key wallet mint : Pubkey) :
    Outcome Unit := do
  require (t.owner = wallet) (.anchor .constraintTokenOwner)
  require (associatedTokenAddress rt wallet mint = some key) (.anchor .constraintAssociated)

/-- `transfer_checked` of the token program, by an authority that has signed. -/
def transferChecked (w : World) (source mint destination authority : Pubkey) (amount : UInt64)
    (decimals : UInt8) : Outcome World := do
  let sourceAccount ← load AccountData.token? w source
  let destinationAccount ← load AccountData.token? w destination
  require (sourceAccount.frozen = false ∧ destinationAccount.frozen = false) (.token .accountFrozen)
  require (amount ≤ sourceAccount.amount) (.token .insufficientFunds)
  require (sourceAccount.mint = destinationAccount.mint ∧ sourceAccount.mint = mint)
    (.token .mintMismatch)
  let mintAccount ← load AccountData.mint? w mint
  require (mintAccount.decimals = decimals) (.token .mintDecimalsMismatch)
  require (sourceAccount.owner = authority) (.token .ownerMismatch)
  if source = destination then pure w
  else do
    let received ← orError (checkedAdd destinationAccount.amount amount) (.token .overflow)
    pure ((w.setData source
      (.token { sourceAccount with amount := sourceAccount.amount - amount })).setData
      destination (.token { destinationAccount with amount := received }))

/-- `transfer_checked` signed by an address of this program through its seeds. -/
def transferCheckedSigned (rt : Runtime) (w : World) (source mint destination authority : Pubkey)
    (signerSeeds : List Bytes) (bump : UInt8) (amount : UInt64) (decimals : UInt8) :
    Outcome World := do
  require (rt.createProgramAddress rt.programId (signerSeeds.flatten ++ [bump]) = some authority)
    (.system .missingRequiredSignature)
  transferChecked w source mint destination authority amount decimals

/-- `transfer_program_lamports`: lamports moved by this program between accounts, keeping
the source's rent reserve. -/
def transferProgramLamports (rt : Runtime) (w : World) (source destination : Pubkey)
    (amount : UInt64) (insufficientError : VeriAgentError) : Outcome World := do
  let rentReserve := rt.minimumBalance (w.data source).dataLen
  let remaining ← orError (checkedSub (w.lamports source) amount) (.custom insufficientError)
  require (¬remaining < rentReserve) (.custom insufficientError)
  let destinationBalance ← orError (checkedAdd (w.lamports destination) amount)
    (.custom .arithmeticOverflow)
  pure ((w.setLamports source remaining).setLamports destination destinationBalance)

end Accounts

end VeriAgentPay
