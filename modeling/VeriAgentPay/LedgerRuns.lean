import VeriAgentPay.LabelledRuns
import VeriAgentPay.ProgramSteps

/-!
# Runs of the program on a shared ledger

Between two calls of the program anyone may act on the ledger and the clock may advance.
What others cannot do is what the runtime and the token program promise: write or debit an
account this program owns, or move or close a token account whose owner is one of this
program's addresses.
-/

namespace VeriAgentPay
open FixedWidth CheckedOutcome LabelledRuns

/-- An arbitrary action of anyone else. -/
structure EnvStep (rt : Runtime) (w w' : World) : Prop where
  time : w.now ≤ w'.now
  record_kept : ∀ k, (w.data k).programOwned = true → w'.data k = w.data k
  record_lamports :
    ∀ k, (w.data k).programOwned = true → (w.lamports k).toNat ≤ (w'.lamports k).toNat
  not_forged : ∀ k, (w'.data k).programOwned = true → w'.data k = w.data k
  token_kept : ∀ k t, w.data k = .token t → IsProgramAddress rt t.owner →
    ∃ t', w'.data k = .token t' ∧ t'.mint = t.mint ∧ t'.owner = t.owner ∧
    t.amount.toNat ≤ t'.amount.toNat
  system_kept : w.data defaultPubkey = .foreign → w'.data defaultPubkey = .foreign

inductive Event where
  | call (ctx : Context) (c : Call)
  | env

/-- One change of the ledger: a successful call of the program, or an action of anyone else. -/
def Step (rt : Runtime) (w : World) (e : Event) (w' : World) : Prop :=
  match e with
  | .call ctx c => exec rt ctx c w = .ok w'
  | .env => EnvStep rt w w'

/-- A ledger on which the program has not acted yet. The default key is the system program. -/
structure Genesis (w : World) : Prop where
  no_records : ∀ k, (w.data k).programOwned = false
  system : w.data defaultPubkey = .foreign

/-- The calls of an atomic transaction, which commits all of them or none, with what each of them
did. -/
def runTransaction (rt : Runtime) :
    List (Context × Call) → World → Outcome (List (Transition World Event) × World)
  | [], w => pure ([], w)
  | (ctx, c) :: calls, w => do
    let w₁ ← exec rt ctx c w
    let (tr, w') ← runTransaction rt calls w₁
    pure (⟨w, .call ctx c, w₁⟩ :: tr, w')

/-- A committed transaction is a stretch of the run. -/
theorem run_append_transaction {rt : Runtime} {start w w' : World}
    {tr tr' : List (Transition World Event)} {calls : List (Context × Call)}
    (hrun : Run (Step rt) start tr w) (h : runTransaction rt calls w = .ok (tr', w')) :
    Run (Step rt) start (tr ++ tr') w' := by
  induction calls generalizing w tr tr' with
  | nil =>
    obtain ⟨rfl, rfl⟩ := Prod.mk.inj (pure_eq_ok.mp h)
    rwa [List.append_nil]
  | cons call calls ih =>
    obtain ⟨ctx, c⟩ := call
    rw [runTransaction, bind_eq_ok] at h
    obtain ⟨w₁, hfirst, h⟩ := h
    obtain ⟨⟨rest, w₂⟩, hrest, h⟩ := bind_eq_ok.mp h
    obtain ⟨rfl, rfl⟩ := Prod.mk.inj (pure_eq_ok.mp h)
    have hstep : Step rt w (.call ctx c) w₁ := hfirst
    have hrest' := ih (hrun.snoc hstep) hrest
    rwa [List.append_assoc] at hrest'

section Records

variable {rt : Runtime} {w w' : World} {e : Event}

/-- A record that is there before or after a step is unchanged, or a call changed it in one of
the classified ways. -/
theorem step_record (h : Step rt w e w') {key : Pubkey}
    (howned : (w.data key).programOwned = true ∨ (w'.data key).programOwned = true) :
    w'.data key = w.data key ∨
    ∃ ctx c, e = .call ctx c ∧ exec rt ctx c w = .ok w' ∧ key ∈ c.writes ∧
      Changed rt ctx c w w' key := by
  cases e with
  | call ctx c =>
    have hexec : exec rt ctx c w = .ok w' := h
    by_cases hkey : key ∈ c.writes
    · exact .inr ⟨ctx, c, rfl, hexec, hkey, exec_write hexec hkey⟩
    · left
      rcases howned with howned | howned
      · exact (exec_frame hexec).record_kept hkey howned
      · exact (exec_frame hexec).fresh key hkey howned
  | env =>
    have henv : EnvStep rt w w' := h
    left
    rcases howned with howned | howned
    · exact henv.record_kept key howned
    · exact henv.not_forged key howned

/-- What a step did to a record, seen from its contents after the step. -/
theorem step_record_after (h : Step rt w e w') {key : Pubkey} {after : AccountData}
    (hafter : w'.data key = after) (howned : after.programOwned = true) :
    w.data key = after ∨ ∃ ctx c before, e = .call ctx c ∧ w.data key = before ∧
      RecordChange rt ctx c w w' key before after := by
  rcases step_record h (.inr (hafter ▸ howned)) with heq | ⟨ctx, c, he, -, -, before, after', hb,
    ha, hchange⟩
  · exact .inl (heq ▸ hafter)
  · obtain rfl := ha.symm.trans hafter
    exact .inr ⟨ctx, c, before, he, hb, hchange⟩

/-- What a step did to a record, seen from its contents before the step. -/
theorem step_record_before (h : Step rt w e w') {key : Pubkey} {before : AccountData}
    (hbefore : w.data key = before) (howned : before.programOwned = true) :
    w'.data key = before ∨ ∃ ctx c after, e = .call ctx c ∧ exec rt ctx c w = .ok w' ∧
      key ∈ c.writes ∧
      w'.data key = after ∧ RecordChange rt ctx c w w' key before after := by
  rcases step_record h (.inl (hbefore ▸ howned)) with heq | ⟨ctx, c, he, hexec, hkey, before',
    after, hb, ha, hchange⟩
  · exact .inl (heq.trans hbefore)
  · obtain rfl := hb.symm.trans hbefore
    exact .inr ⟨ctx, c, after, he, hexec, hkey, ha, hchange⟩

/-- Facts about single records that every later argument starts from. -/
structure WellFormed (rt : Runtime) (w : World) : Prop where
  system : w.data defaultPubkey = .foreign
  claimAuthority : ∀ key c, w.data key = .claimAuthority c →
    findProgramAddress rt rt.programId [claimAuthoritySeed] = some (key, c.bump)
  link_address : ∀ key link, w.data key = .link link → IsProgramAddress rt key
  link_status : ∀ key link, w.data key = .link link → link.status = paymentLinkStatusActive ∨
    link.status = paymentLinkStatusClaimed ∨ link.status = paymentLinkStatusCancelled ∨
    link.status = paymentLinkStatusRefunded

theorem Genesis.wellFormed (h : Genesis w) : WellFormed rt w where
  system := h.system
  claimAuthority key c hc := by
    have := h.no_records key
    simp [hc, AccountData.programOwned] at this
  link_address key link hl := by
    have := h.no_records key
    simp [hl, AccountData.programOwned] at this
  link_status key link hl := by
    have := h.no_records key
    simp [hl, AccountData.programOwned] at this

theorem Settlement.status {ctx : Context} {c : Call} {key : Pubkey} {link link' : PaymentLink}
    (h : Settlement rt ctx c w w' key link link') : link'.status = paymentLinkStatusClaimed ∨
      link'.status = paymentLinkStatusCancelled ∨ link'.status = paymentLinkStatusRefunded := by
  cases h with
  | claimed => exact .inl rfl
  | cancelledBySession => exact .inr (.inl rfl)
  | cancelledByRoot => exact .inr (.inl rfl)
  | refunded => exact .inr (.inr rfl)

theorem WellFormed.step (hwf : WellFormed rt w) (h : Step rt w e w') : WellFormed rt w' where
  system := by
    cases e with
    | call ctx c => exact (exec_frame h).foreign _ hwf.system
    | env => exact EnvStep.system_kept h hwf.system
  claimAuthority := by
    intro key c hafter
    rcases step_record_after h hafter rfl with hbefore | ⟨ctx, call, before, rfl, hbefore, hchange⟩
    · exact hwf.claimAuthority key c hbefore
    · cases hchange with
      | claimAuthorityCreated _ address => exact address
  link_address := by
    intro key link hafter
    rcases step_record_after h hafter rfl with hbefore | ⟨ctx, call, before, rfl, hbefore, hchange⟩
    · exact hwf.link_address key link hbefore
    · cases hchange with
      | linkCreated bump vault mint linkId commitment amount expiresAt positive address =>
        obtain ⟨b, hfind⟩ := address
        exact ⟨_, createProgramAddress_of_find hfind⟩
      | linkSettled link₀ _ active how => exact hwf.link_address key link₀ hbefore
  link_status := by
    intro key link hafter
    rcases step_record_after h hafter rfl with hbefore | ⟨ctx, call, before, rfl, hbefore, hchange⟩
    · exact hwf.link_status key link hbefore
    · cases hchange with
      | linkCreated => exact .inl rfl
      | linkSettled link₀ _ active how => exact .inr how.status

theorem wellFormed_of_run {start : World} {tr : List (Transition World Event)}
    (hgenesis : Genesis start) (hrun : Run (Step rt) start tr w) : WellFormed rt w :=
  hrun.invariant hgenesis.wellFormed (fun _ _ _ hwf h => hwf.step h)

end Records

/-! A run on a concrete ledger: the protocol and a vault with a session are set up, the session
funds a link and cancels it, and a root proof funds a native link. Addresses, digests and encodings
are tables of the values that the run asks for. -/

namespace Devnet

/-- A byte array written as a number, most significant byte first. -/
def beBytes (width value : ℕ) : FixedBytes width := ⟨(leBytes width value).reverse, by simp⟩

def programId : Pubkey :=
  beBytes 32 0x8a435f92f5315451dfd46f71e8910da015fec06b30a58c9a673a105877f572c4
def payer : Pubkey := beBytes 32 0x293ba9e12dab14dc178c2ceed25846c996e462dc2bde901489101eb220d80865
def secondPayer : Pubkey :=
  beBytes 32 0x5a59a9d0f41c84614e63d0e54860267de33f650bb207a6637d5ca4f48df3dfd2
def sessionSigner : Pubkey :=
  beBytes 32 0x6875461cedd99e6dc48125a188bb69e39821e0946ad23ca2e5be45a2bb48a78c
def stablecoinMint : Pubkey :=
  beBytes 32 0x3b442cb3912157f13a933d0134282d032b5ffecd01a2dbf1b7790608df002ea7
def config : Pubkey := beBytes 32 0xcfbed663b47cede2ce735a75ed674913f6f86f5a35e655ed5899b5bf50030cab
def vault : Pubkey := beBytes 32 0x60c342432fb37831c1f6fced4cc72e9c91746a377498b3c8c1a9a9495cb0552a
def session : Pubkey :=
  beBytes 32 0x494a452805926d92dbb4768891eda7e44892f4e5a61294baea73b4b3d8b8541b
def vaultTokenAccount : Pubkey :=
  beBytes 32 0x42d8cee10afb26be7650d9e640d850ff304e481627bfaacc0204d8247e319d9d
def tokenLink : Pubkey :=
  beBytes 32 0x776a5efd16f6e96df78bdeaae28471f5ad94af94b8fdb6c818b1efb6c5bf5da2
def escrowTokenAccount : Pubkey :=
  beBytes 32 0x69130650d8fdf2bbdbd25381316743bbe6286518f5da6d31cfc0553c0676fcfa
def solLink : Pubkey :=
  beBytes 32 0x3a81fd2bb2fa04a0972b9fb923c7f4ef4bd19f0e4cc5f8e8f41d3c141a7221ed
def rpIdHash : FixedBytes 32 :=
  beBytes 32 0x49960de5880e8c687434170f6476605b8fe4aeb9a28632c7995cf3ba831d9763
def originHash : FixedBytes 32 :=
  beBytes 32 0xf1de9e489ba88cb15968b97f40f59e8ef0da5ca03ad1f37fc13a2aa45a2512a9
def clusterDomain : FixedBytes 32 :=
  beBytes 32 0x3292b0a10ea716fb77d5a951acef59c2c6b0dec5850e1f6feb40da7386991ffe
def rootKeyHash : FixedBytes 32 :=
  beBytes 32 0x99f0fd65e3945053bf44057b6ef0e09f9c4545806b22fc5aad225b3077b4c1b9
def userSalt : FixedBytes 32 :=
  beBytes 32 0x9a513373b128ec34d3c7bfea79d450bfc2fe8d7537404734fe150fbcff8aec18
def tokenLinkId : FixedBytes 32 :=
  beBytes 32 0x0396dedaa07ebf9ef8eb113e0d9ecef19db0aae07e4a802787e427ec6f2ca031
def solLinkId : FixedBytes 32 :=
  beBytes 32 0x0ae481bff0f5aae20e8f90566dc6e2472c42de1198929d436eaf9a68dc4cb6fb
def recipientCommitment : FixedBytes 32 :=
  beBytes 32 0x648eac53b7ac5f4b285ce7a439a3558f4afc946cc96302d8976d56ffbcf68cb5
def rootPublicKey : FixedBytes 33 :=
  beBytes 33 0x03b72c063c6c5646958df366f75785d615fb858a44df2a13d17e10f0a7e4928fc9

def now : Int64 := 1750000000

def policy : SessionPolicy :=
  { sessionPublicKey := sessionSigner, actionBitmap := 1, perActionLimit := 5000000
    cumulativeLimit := 20000000
    validAfter := 1749999940, validUntil := 1750604800 }

def scope : ActionScope := ⟨clusterDomain, programId, config⟩

/-- The two root actions of the run. -/
def setUp : RootAction :=
  .initializeVaultAndGrantSession scope vault session vaultTokenAccount stablecoinMint rootPublicKey
    rootKeyHash userSalt policy 1750000120

def fundSolLink : RootAction :=
  .createSolPaymentLink scope vault solLink solLinkId recipientCommitment 10000000 1750086400 1
    1750000150

def setUpChallenge : String := "ghiDSqSUNhisBkMtghsxN4_TImtLzS7IrW__NlxErqg"
def fundSolLinkChallenge : String := "DNWNfw2Lg5qU9S3xwYhIZz_Y6krJY3BJ4iX9f5PwpXM"

def setUpDigest : FixedBytes 32 :=
  beBytes 32 0x8218834aa4943618ac06432d821b31378fd3226b4bcd2ec8ad6fff365c44aea8
def fundSolLinkDigest : FixedBytes 32 :=
  beBytes 32 0x0cd58d7f0d8b839a94f52df1c18848673fd8ea4ac9637049e225fd7f93f0a573

def clientDataJson (challenge : String) : Bytes :=
  asciiBytes ("\x7b\"type\":\"webauthn.get\",\"challenge\":\"" ++ challenge ++
    "\",\"origin\":\"http://localhost:3000\",\"crossOrigin\":false\x7d")

def clientData (challenge : String) : CollectedClientData :=
  ⟨"webauthn.get", challenge, "http://localhost:3000", some false⟩

def authenticatorData (signCount : UInt8) : Bytes := rpIdHash.toList ++ [5, 0, 0, 0, signCount]

/-- Program, seeds with their bump, and address. -/
def addresses : List (Pubkey × Bytes × Pubkey) :=
  [(programId, protocolSeed ++ [255], config),
    (programId, (vaultSeeds rootKeyHash userSalt).flatten ++ [255], vault),
    (programId, (sessionSeeds vault sessionSigner).flatten ++ [255], session),
    (programId, (paymentLinkSeeds vault tokenLinkId).flatten ++ [254], tokenLink),
    (programId, (paymentLinkSeeds vault solLinkId).flatten ++ [255], solLink),
    (associatedTokenProgramId,
      vault.toList ++ tokenProgramId.toList ++ stablecoinMint.toList ++ [252], vaultTokenAccount),
    (associatedTokenProgramId,
      tokenLink.toList ++ tokenProgramId.toList ++ stablecoinMint.toList ++ [255],
      escrowTokenAccount)]

def digests : List (Bytes × FixedBytes 32) :=
  [(rootPublicKey.toList, rootKeyHash), (asciiBytes "http://localhost:3000", originHash),
    (setUp.preimage, setUpDigest), (fundSolLink.preimage, fundSolLinkDigest),
    (clientDataJson setUpChallenge,
      beBytes 32 0x98c3f7e1d7090407d0276cb05b64e620057c5054902d55095abf33fa0f27d24a),
    (clientDataJson fundSolLinkChallenge,
      beBytes 32 0xdd4d24ae44a65277e8b3db3b0029a0376a789e83f946a71003a9252cdce004df)]

def runtime : Runtime where
  programId := programId
  createProgramAddress program seeds :=
    (addresses.find? fun entry => entry.1 = program ∧ entry.2.1 = seeds).map fun entry => entry.2.2
  sha256 bytes := (digests.lookup bytes).getD (List.Vector.replicate 32 0)
  parseClientData bytes :=
    [(clientDataJson setUpChallenge, clientData setUpChallenge),
      (clientDataJson fundSolLinkChallenge, clientData fundSolLinkChallenge)].lookup bytes
  decodeBase64Url text :=
    [(setUpChallenge, setUpDigest.toList),
      (fundSolLinkChallenge, fundSolLinkDigest.toList)].lookup text
  minimumBalance bytes := UInt64.ofNat ((128 + bytes) * 6960)

def verification (signature : FixedBytes 64) (message : Bytes) : TransactionInstruction :=
  { programId := secp256r1ProgramId, accounts := []
    data := [1, 0, 49, 0, 255, 255, 16, 0, 255, 255, 113, 0, 69, 0, 255, 255] ++
      rootPublicKey.toList ++
      signature.toList ++ message }

def signedBy (signature : FixedBytes 64) (signCount : UInt8) (challenge : String) : Context :=
  { signers := [payer, secondPayer]
    instructions :=
      [verification signature (authenticatorData signCount ++
        (runtime.sha256 (clientDataJson challenge)).toList), ⟨programId, [], []⟩]
    currentIndex := 1 }

def proof (expiresAt : Int64) (signCount : UInt8) (challenge : String) : RootProof :=
  ⟨expiresAt, authenticatorData signCount, clientDataJson challenge⟩

/-- The payers hold ten SOL, the vault's address one, and its token account fifty tokens. -/
def genesis : World where
  now := now
  lamports key :=
    if key = payer ∨ key = secondPayer then 10000000000
    else if key = vault then 1000000000
    else if key = vaultTokenAccount then 2039280
    else 0
  data key :=
    if key = defaultPubkey then .foreign
    else if key = stablecoinMint then .mint ⟨6⟩
    else if key = vaultTokenAccount then .token ⟨stablecoinMint, vault, 50000000, false⟩
    else .empty

def setUpContext : Context :=
  signedBy (beBytes 64
    0x953768ea2b48eb9e730b8cd8e4a68350aaae778cb70d8b27ff0dfb182788533d5d7fc9764996be194b9439671576d19c124619d4d37b7cbf8e94ef7349f277c4) 1 setUpChallenge

def setUpProof : RootProof := proof 1750000120 1 setUpChallenge

/-- The call that sets the vault up, for any payer. -/
def setUpCall (payer : Pubkey) : Call :=
  .initializeVaultAndGrantSession
    { payer := payer, config := config, vault := vault, session := session
      stablecoinMint := stablecoinMint
      vaultTokenAccount := vaultTokenAccount }
    { toSessionPolicy := policy, toRootProof := setUpProof
      rootPublicKey := rootPublicKey, rootKeyHash := rootKeyHash, userSalt := userSalt }

def protocolConfig : ProtocolConfig :=
  { version := 1, bump := 255, paused := false, authority := payer, stablecoinMint := stablecoinMint
    rpIdHash := rpIdHash, originHash := originHash, clusterDomain := clusterDomain }

def sessionContext : Context :=
  { signers := [payer, sessionSigner], instructions := [⟨programId, [], []⟩], currentIndex := 0 }

def calls : List (Context × Call) :=
  [(⟨[payer], [⟨programId, [], []⟩], 0⟩,
      .initializeProtocol { authority := payer, config := config, stablecoinMint := stablecoinMint }
        ⟨rpIdHash, originHash, clusterDomain⟩),
    (setUpContext, setUpCall payer),
    (sessionContext,
      .createPaymentLinkWithSession
        { payer := payer, config := config, vault := vault, session := session
          sessionSigner := sessionSigner
          stablecoinMint := stablecoinMint, vaultTokenAccount :=
            vaultTokenAccount, paymentLink := tokenLink
          escrowTokenAccount := escrowTokenAccount }
        ⟨tokenLinkId, recipientCommitment, 2000000, 1750086400, 0⟩),
    (sessionContext,
      .cancelPaymentLinkWithSession
        { config := config, vault := vault, session := session, sessionSigner := sessionSigner
          paymentLink := tokenLink, stablecoinMint := stablecoinMint, escrowTokenAccount :=
            escrowTokenAccount
          vaultTokenAccount := vaultTokenAccount } ⟨1⟩),
    (signedBy (beBytes 64
      0xadda88fac9dfe46bd339cea00854753610921a3a994698be030232e7f6e8a2d568a4bedc511716eb1f34f62e01a3bb263f841bdaa5c53ea00613a06bfe1545a3) 2
        fundSolLinkChallenge,
      .createSolPaymentLinkWithPasskey
        { payer := payer, config := config, vault := vault, paymentLink := solLink }
        { toRootProof := proof 1750000150 2 fundSolLinkChallenge, linkId := solLinkId
          recipientCommitment := recipientCommitment, amount := 10000000, expiresAt := 1750086400
          vaultNonce := 1 })]

theorem genesis_fresh : Genesis genesis where
  no_records key := by
    simp only [genesis]
    split_ifs <;> rfl
  system := by simp [genesis]

/-- The address function of a table. -/
def tableAddress (table : List (Pubkey × Bytes × Pubkey)) (program : Pubkey) (seeds : Bytes) :
    Option Pubkey :=
  (table.find? fun entry => entry.1 = program ∧ entry.2.1 = seeds).map fun entry => entry.2.2

/-- Distinct entries of the table have distinct addresses. -/
theorem pdaInjective_of_table {rt : Runtime} {table : List (Pubkey × Bytes × Pubkey)}
    (hrt : rt.createProgramAddress = tableAddress table)
    (hdistinct : ∀ e ∈ table, ∀ e' ∈ table, e.2.2 = e'.2.2 → e.1 = e'.1 ∧ e.2.1 = e'.2.1) :
    PdaInjective rt := by
  have hentry : ∀ p s k, rt.createProgramAddress p s = some k →
      ∃ e ∈ table, e.1 = p ∧ e.2.1 = s ∧ e.2.2 = k := by
    intro p s k h
    rw [hrt] at h
    obtain ⟨e, he, hk⟩ := Option.map_eq_some_iff.mp h
    have hmatch := List.find?_some he
    obtain ⟨hp, hs⟩ := of_decide_eq_true hmatch
    exact ⟨e, List.mem_of_find?_eq_some he, hp, hs, hk⟩
  intro p s p' s' k h h'
  obtain ⟨e, he, rfl, rfl, hk⟩ := hentry p s k h
  obtain ⟨e', he', rfl, rfl, hk'⟩ := hentry p' s' k h'
  exact hdistinct e he e' he' (hk.trans hk'.symm)

theorem pdaInjective : PdaInjective runtime := by
  have hdistinct :
      ∀ e ∈ addresses, ∀ e' ∈ addresses, e.2.2 = e'.2.2 → e.1 = e'.1 ∧ e.2.1 = e'.2.1 := by
    decide +kernel
  exact pdaInjective_of_table rfl hdistinct

/-- The first calls succeed, and what they have left passes the test. -/
def finds (n : ℕ) (p : List (Transition World Event) → World → Bool) : Bool :=
  match runTransaction runtime (calls.take n) genesis with
  | .ok (tr, w) => p tr w
  | .error _ => false

/-- What evaluation finds after the first calls holds of a run. -/
theorem reached (n : ℕ) {p : List (Transition World Event) → World → Bool} (h : finds n p = true) :
    ∃ tr w, Run (Step runtime) genesis tr w ∧ p tr w = true := by
  unfold finds at h
  cases hresult : runTransaction runtime (calls.take n) genesis with
  | error e =>
    rw [hresult] at h
    cases h
  | ok result =>
    obtain ⟨tr, w⟩ := result
    rw [hresult] at h
    exact ⟨tr, w, run_append_transaction Run.nil hresult, h⟩

end Devnet

end VeriAgentPay
