import VeriAgentPay.KeyedTables
import VeriAgentPay.PaymentLinkServices

/-!
# Watched tokens

A user adds tokens by contract address to the ones the service supports, and refers to a token by
its address or by its symbol.
-/

namespace VeriAgentPay.UserTokens
open KeyedTables
open Backend (Failure trim truthy toBase58)

section Addresses

/-- `toLowerCase` of texts in ASCII, as addresses are. -/
def toLowerCase (text : String) : String := String.ofList (text.toList.map Char.toLower)

def hexDigits : List Char := "0123456789abcdefABCDEF".toList

/-- What the service takes from outside: the libraries' tables, and the environment. -/
structure Environment where
  /-- Whether a digit of an address is in upper case in its checksummed form, by the hash of the
  address. -/
  keccakUpper : List Char → ℕ → Bool
  /-- The address that an ICAP text with the right check digits is of. -/
  icap : String → Option String
  /-- The upper case of a character outside ASCII, which may have several characters. -/
  upperNonAscii : Char → List Char
  usdcMint : Pubkey
  processEnv : String → Option String
  dailyLimitUnits : ℤ

variable (env : Environment)

def Environment.toUpperCase (text : String) : String :=
  String.ofList (text.toList.flatMap fun c => if c.toNat < 128 then [c.toUpper]
    else env.upperNonAscii c)

def Environment.getChecksumAddress (digits : List Char) : String :=
  let chars := digits.map Char.toLower
  String.ofList ('0' :: 'x' :: chars.mapIdx fun i c => if env.keccakUpper chars i then
    c.toUpper else c)

/-- The digits of `/^(0x)?[0-9a-fA-F]{40}$/`. -/
def addressDigits (text : String) : Option (List Char) :=
  let digits := match text.toList with
    | '0' :: 'x' :: digits => digits
    | digits => digits
  if digits.length = 40 ∧ digits.all (· ∈ hexDigits) then some digits else none

/-- `/([A-F].*[a-f])|([a-f].*[A-F])/`. -/
def hasMixedCase (digits : List Char) : Bool :=
  digits.any ("ABCDEF".toList.contains ·) && digits.any ("abcdef".toList.contains ·)

/-- `/^XE[0-9]{2}[0-9A-Za-z]{30,31}$/`. -/
def isIcap (text : String) : Bool :=
  match text.toList with
  | 'X' :: 'E' :: c :: d :: rest =>
    c.isDigit && d.isDigit && (rest.length = 30 || rest.length = 31) && rest.all Char.isAlphanum
  | _ => false

def Environment.getAddress (text : String) : Option String :=
  match addressDigits text with
  | some digits =>
    let result := env.getChecksumAddress digits
    if hasMixedCase digits && result ≠ String.ofList ('0' :: 'x' :: digits) then none
      else some result
  | none => if isIcap text then env.icap text else none

def Environment.isAddress (text : String) : Bool := (env.getAddress text).isSome

end Addresses

section Model

structure TokenInfo where
  symbol : String
  name : String
  address : String
  decimals : ℕ
  icon : String
  deriving DecidableEq

structure TokenDefinition where
  symbol : String
  name : String
  envKey : Option String
  native : Bool
  decimals : ℕ
  icon : String

/-- A row of the table `UserToken`. -/
structure UserToken where
  userId : String
  chainId : ℕ
  address : String
  symbol : String
  name : String
  decimals : ℕ
  removedAt : Option ℤ
  deriving DecidableEq

def UserToken.key (row : UserToken) : String × ℕ × String := (row.userId, row.chainId, row.address)

/-- The rows, in the order in which they were created. -/
abbrev Table := Keyed UserToken.key

/-- What a contract answers; a call that fails gives nothing. -/
structure Contract where
  symbol : Option String
  name : Option String
  decimals : Option ℕ

/-- The chain that the service is connected to. -/
structure Network where
  chainId : ℕ
  contract : String → Contract

structure Metadata where
  symbol : String
  name : String
  decimals : ℕ

structure Added where
  token : TokenInfo
  alreadyKnown : Bool
  suggestedDailyLimitUnits : Option ℤ

structure Resolution where
  token : Option TokenInfo
  candidates : List TokenInfo
  deriving DecidableEq

def nativeTokenAddress : String := "11111111111111111111111111111111"

def tokenRegistry : List TokenDefinition :=
  [⟨"USDC", "USD Coin", some "SOLANA_USDC_MINT", false, 6, "USDC"⟩,
    ⟨"SOL", "Solana", none, true, 9, "SOL"⟩]

variable (env : Environment)

def TokenDefinition.address (definition : TokenDefinition) : Option String :=
  if definition.native then some nativeTokenAddress
  else if definition.symbol = "USDC" then some (toBase58 env.usdcMint)
  else definition.envKey.bind env.processEnv

/-- The supported tokens, each with its symbol for its key. -/
def getSupportedTokens : List TokenInfo :=
  tokenRegistry.filterMap fun definition =>
    (truthy (definition.address env)).map fun address =>
      ⟨definition.symbol, definition.name, address, definition.decimals, definition.icon⟩

def supportedToken (symbol : String) : Option TokenInfo :=
  (getSupportedTokens env).find? (·.symbol = symbol)

/-- The supported token whose contract has an address. -/
def builtInAt (address : String) : Option TokenInfo :=
  (getSupportedTokens env).find? fun t => env.isAddress t.address && toLowerCase t.address = address

def codeUnits (c : Char) : ℕ := if c.toNat < 0x10000 then 1 else 2

/-- The first `n` code units of a text; half of a pair of surrogates that is left over is
dropped. -/
def sliceUnits (n : ℕ) : List Char → List Char
  | [] => []
  | c :: rest => if codeUnits c ≤ n then c :: sliceUnits (n - codeUnits c) rest else []

def sanitize (value : String) : String :=
  let spaced := value.toList.map fun c => if c ∈ ['\r', '\n', '\t'] then ' ' else c
  let stripped := spaced.filter fun c => c ∉ "*_`~[]()<>|".toList
  String.ofList (sliceUnits 32 (trim (String.ofList stripped)).toList)

def readTokenMetadata (contract : Contract) : Except Failure Metadata :=
  match contract.decimals with
  | none => .error
      (.badRequest "That address does not look like a token contract — it has no decimals().")
  | some decimals =>
    if decimals > 36 then .error (.badRequest "That token reports an unusable decimals value.")
    else .ok
      { symbol := (truthy (some (sanitize (contract.symbol.getD "")))).getD "UNKNOWN"
        name := (truthy (some (sanitize (contract.name.getD "")))).getD "Unknown Token"
        decimals := decimals }

/-- A row's address that is of no accepted form makes this throw. -/
def UserToken.toTokenInfo (row : UserToken) : Option TokenInfo :=
  (env.getAddress row.address).map fun address => ⟨row.symbol, row.name, address, row.decimals, "🪙"⟩

def Table.upsert (table : Table) (row : UserToken) : Table :=
  match table.insert row with
  | some table' => table'
  | none => table.update (·.key = row.key)
      (fun old => { old with
        removedAt := none, symbol := row.symbol, name := row.name, decimals := row.decimals })
      fun _ => rfl

def deriveDailyUnits (decimals : ℕ) : Except Failure ℤ :=
  if decimals > 36 then
    .error (.error s!"Refusing to derive limits for implausible decimals: {decimals}")
  else if env.dailyLimitUnits ≤ 0 then
    .error (.error s!"Daily limit units must be a positive number, got {env.dailyLimitUnits}")
  else .ok env.dailyLimitUnits

/-- The answer to a request to add a token. -/
def addedToken (row : UserToken) : Except Failure Added :=
  match row.toTokenInfo env with
  | none => .error (.error "invalid address")
  | some token => do
    let units ← deriveDailyUnits env row.decimals
    return ⟨token, false, some units⟩

/-- The row is written before the answer is made up. -/
def addToken (network : Network) (userId rawAddress : String) (table : Table) :
    Except Failure Added × Table :=
  if !env.isAddress rawAddress then
    (.error (.badRequest "That is not a valid contract address."), table)
  else
    let address := toLowerCase rawAddress
    match builtInAt env address with
    | some builtIn => (.ok ⟨builtIn, true, none⟩, table)
    | none =>
      match readTokenMetadata (network.contract rawAddress) with
      | .error e => (.error e, table)
      | .ok metadata =>
        let row : UserToken := ⟨userId, network.chainId, address, metadata.symbol, metadata.name,
          metadata.decimals, none⟩
        (addedToken env row, table.upsert row)

def removeToken (network : Network) (now : ℤ) (userId rawAddress : String) (table : Table) :
    Except Failure Unit × Table :=
  if !env.isAddress rawAddress then
    (.error (.badRequest "That is not a valid contract address."), table)
  else
    match table.find? (userId, network.chainId, toLowerCase rawAddress) with
    | none => (.error (.notFound "That token is not on your list."), table)
    | some existing =>
      if existing.removedAt.isSome then
        (.error (.notFound "That token is not on your list."), table)
      else (.ok (), table.update (·.key = existing.key)
        (fun row => { row with removedAt := some now }) fun _ => rfl)

def activeRows (table : Table) (userId : String) : List UserToken :=
  table.rows.filter fun row => row.userId = userId && row.removedAt = none

def listForUser (table : Table) (userId : String) : Option (List TokenInfo) :=
  (activeRows table userId).mapM (UserToken.toTokenInfo env)

def allTokensForUser (table : Table) (userId : String) : Option (List TokenInfo) := do
  let custom ← listForUser env table userId
  let builtInAddresses :=
    ((getSupportedTokens env).filter (env.isAddress ·.address)).map (toLowerCase ·.address)
  return getSupportedTokens env ++ custom.filter fun t => toLowerCase t.address ∉ builtInAddresses

def resolveForUser (table : Table) (chainId : ℕ) (userId reference : String) : Option Resolution :=
  if reference = "" then some ⟨supportedToken env "USDC", []⟩
  else
    let trimmed := trim reference
    if env.isAddress trimmed then
      let address := toLowerCase trimmed
      match builtInAt env address with
      | some builtIn => some ⟨some builtIn, []⟩
      | none =>
        match table.find? (userId, chainId, address) with
        | some row =>
          if row.removedAt.isSome then some ⟨none, []⟩
            else (row.toTokenInfo env).map fun token => ⟨some token, []⟩
        | none => some ⟨none, []⟩
    else
      let upper := env.toUpperCase trimmed
      match supportedToken env upper with
      | some builtIn => some ⟨some builtIn, []⟩
      | none => do
        let custom ← listForUser env table userId
        match custom.filter fun t => env.toUpperCase t.symbol = upper with
        | [] => return ⟨none, []⟩
        | [token] => return ⟨some token, []⟩
        | candidates => return ⟨none, candidates⟩

/-- The calls that change the watch lists, each with the chain at the time. -/
inductive Call where
  | addToken (network : Network) (userId rawAddress : String)
  | removeToken (network : Network) (now : ℤ) (userId rawAddress : String)

def Call.run (table : Table) : Call → Table
  | addToken network userId rawAddress =>
    (UserTokens.addToken env network userId rawAddress table).2
  | removeToken network now userId rawAddress =>
    (UserTokens.removeToken env network now userId rawAddress table).2

/-- The table after a sequence of calls, from an empty one. -/
def after (calls : List Call) : Table := calls.foldl (Call.run env) .empty

end Model

section Addresses
variable {env : Environment} {digits : List Char} {text address : String}

theorem forall_of_all {P : Char → Prop} [DecidablePred P] (h : digits.all fun c => P c) :
    ∀ c ∈ digits, P c := by
  simpa only [List.all_eq_true, decide_eq_true_eq] using h

theorem toLower_hexDigits : ∀ c ∈ hexDigits, c.toLower ∈ hexDigits := forall_of_all (by decide)

theorem toLower_toLower_hexDigits : ∀ c ∈ hexDigits, c.toLower.toLower = c.toLower :=
  forall_of_all (by decide)

theorem toUpper_toLower_hexDigits :
    ∀ c ∈ hexDigits, c.toLower.toUpper ∈ hexDigits ∧ c.toLower.toUpper.toLower = c.toLower :=
  forall_of_all (by decide)

/-- Forty digits. -/
def IsDigits (digits : List Char) : Prop := digits.length = 40 ∧ ∀ c ∈ digits, c ∈ hexDigits

theorem isDigits_iff : IsDigits digits ↔ digits.length = 40 ∧ digits.all (· ∈ hexDigits) := by
  simp only [IsDigits, List.all_eq_true, decide_eq_true_eq]

theorem addressDigits_prefixed (h : IsDigits digits) :
    addressDigits (String.ofList ('0' :: 'x' :: digits)) = some digits := by
  simp only [addressDigits, String.toList_ofList]
  exact if_pos (isDigits_iff.mp h)

theorem isDigits_of_addressDigits (h : addressDigits text = some digits) : IsDigits digits := by
  unfold addressDigits at h
  dsimp only at h
  split_ifs at h with hdigits
  exact Option.some.inj h ▸ isDigits_iff.mpr hdigits

theorem toList_of_addressDigits (h : addressDigits text = some digits) :
    text.toList = digits ∨ text.toList = '0' :: 'x' :: digits := by
  unfold addressDigits at h
  dsimp only at h
  split_ifs at h
  obtain rfl := Option.some.inj h
  split
  next htext => exact .inr htext
  · exact .inl rfl

/-- The digits of a checksummed address are those it was made of, up to case. -/
theorem checksum_digits (env : Environment) (h : IsDigits digits) :
    ∃ chars, IsDigits chars ∧ env.getChecksumAddress digits = String.ofList ('0' :: 'x' :: chars) ∧
      chars.map Char.toLower = digits.map Char.toLower := by
  obtain ⟨hlength, hhex⟩ := h
  refine ⟨_, ⟨by simpa using hlength, ?_⟩, rfl, ?_⟩
  · intro c hc
    obtain ⟨i, hi, rfl⟩ := List.mem_mapIdx.mp hc
    have hbound : i < digits.length := by simpa using hi
    have hmem : digits[i] ∈ hexDigits := hhex _ (List.getElem_mem _)
    simp only [List.getElem_map]
    split
    · exact (toUpper_toLower_hexDigits _ hmem).1
    · exact toLower_hexDigits _ hmem
  · apply List.ext_getElem
    · simp
    · intro i hi _
      have hbound : i < digits.length := by simpa using hi
      have hmem : digits[i] ∈ hexDigits := hhex _ (List.getElem_mem _)
      simp only [List.getElem_map, List.getElem_mapIdx]
      split
      · exact (toUpper_toLower_hexDigits _ hmem).2
      · exact toLower_toLower_hexDigits _ hmem

/-- A checksummed address is its own checksummed form. -/
theorem getAddress_checksum (env : Environment) (h : IsDigits digits) :
    env.getAddress (env.getChecksumAddress digits) = some (env.getChecksumAddress digits) := by
  obtain ⟨chars, hchars, heq, hlower⟩ := checksum_digits env h
  have hsame : env.getChecksumAddress chars = env.getChecksumAddress digits := by
    simp only [Environment.getChecksumAddress, hlower]
  have hdigits : addressDigits (env.getChecksumAddress digits) = some chars :=
    heq ▸ addressDigits_prefixed hchars
  simp [Environment.getAddress, hdigits, hsame, ← heq]

theorem toLower_ne_X (c : Char) : c.toLower ≠ 'X' := by
  intro hX
  by_cases hupper : c.val ≥ 'A'.val ∧ c.val ≤ 'Z'.val
  · have hlower : c.toLower.val = c.val + 32 := by
      unfold Char.toLower
      rw [dif_pos hupper]
      rfl
    rw [hX] at hlower
    have hnat := congrArg UInt32.toNat hlower
    obtain ⟨hfrom, hto⟩ := hupper
    simp [UInt32.le_iff_toNat_le] at hfrom hto hnat
    omega
  · unfold Char.toLower at hX
    rw [dif_neg hupper] at hX
    exact hupper (hX ▸ by decide)

theorem not_isIcap_toLowerCase (text : String) : isIcap (toLowerCase text) = false := by
  have hlist : (toLowerCase text).toList = text.toList.map Char.toLower := String.toList_ofList
  unfold isIcap
  rw [hlist]
  split
  next rest h =>
    cases hchars : text.toList with
    | nil => rw [hchars] at h; cases h
    | cons c cs =>
      rw [hchars, List.map_cons] at h
      exact absurd (List.cons.inj h).1 (toLower_ne_X c)
  · rfl

theorem not_isWhiteSpace_of_isAlphanum {c : Char} (h : c.isAlphanum) :
    Backend.isWhiteSpace c = false := by
  have hrange : 48 ≤ c.toNat ∧ c.toNat ≤ 122 := by
    delta Char.isAlphanum Char.isAlpha Char.isUpper Char.isLower at h
    simp only [Char.isDigit, Bool.or_eq_true, Bool.and_eq_true, decide_eq_true_eq,
      ge_iff_le, UInt32.le_iff_toNat_le] at h
    have hnat : c.toNat = c.val.toNat := rfl
    simp at h
    omega
  simp [Backend.isWhiteSpace]
  omega

theorem isAlphanum_hexDigits : ∀ c ∈ hexDigits, c.isAlphanum := forall_of_all (by decide)

/-- What is accepted as an address is letters and digits, and longer than any symbol. -/
theorem shape_of_isAddress (h : env.isAddress text) :
    (∀ c ∈ text.toList, c.isAlphanum) ∧ 32 < text.toList.length := by
  unfold Environment.isAddress Environment.getAddress at h
  cases hdigits : addressDigits text with
  | some digits =>
    obtain ⟨hlength, hhex⟩ := isDigits_of_addressDigits hdigits
    have halnum : ∀ c ∈ digits, c.isAlphanum := fun c hc => isAlphanum_hexDigits c (hhex c hc)
    rcases toList_of_addressDigits hdigits with htext | htext
    · rw [htext]
      exact ⟨halnum, by omega⟩
    · rw [htext]
      refine ⟨?_, by simp only [List.length_cons]; omega⟩
      intro c hc
      simp only [List.mem_cons] at hc
      rcases hc with rfl | rfl | hc
      · decide
      · decide
      · exact halnum c hc
  | none =>
    rw [hdigits] at h
    have hicap : isIcap text := by
      by_contra hno
      simp [hno] at h
    unfold isIcap at hicap
    split at hicap
    next c d rest htext =>
      simp only [Bool.and_eq_true, Bool.or_eq_true, decide_eq_true_eq, List.all_eq_true] at hicap
      obtain ⟨⟨⟨hc, hd⟩, hlength⟩, hrest⟩ := hicap
      rw [htext]
      refine ⟨?_, by simp only [List.length_cons]; omega⟩
      intro e he
      simp only [List.mem_cons] at he
      rcases he with rfl | rfl | rfl | rfl | he
      · decide
      · decide
      · simp [Char.isAlphanum, hc]
      · simp [Char.isAlphanum, hd]
      · exact hrest e he
    · cases hicap

theorem trim_of_isAddress (h : env.isAddress text) : trim text = text := by
  rw [trim, Backend.trimChars_eq_self fun c hc => not_isWhiteSpace_of_isAlphanum
    ((shape_of_isAddress h).1 c hc), String.ofList_toList]

end Addresses

section Rows
variable {env : Environment} {table : Table} {row : UserToken} {t : TokenInfo} {userId : String}

/-- What every row that is ever written has. -/
structure UserToken.Sound (row : UserToken) : Prop where
  address : ∃ raw, row.address = toLowerCase raw
  symbol : row.symbol ≠ "" ∧ row.symbol.toList.length ≤ 32

theorem length_sliceUnits (n : ℕ) (text : List Char) : (sliceUnits n text).length ≤ n := by
  induction text generalizing n with
  | nil => simp [sliceUnits]
  | cons c rest ih =>
    have hone : 1 ≤ codeUnits c := by
      unfold codeUnits
      split <;> omega
    have hrest := ih (n - codeUnits c)
    rw [sliceUnits]
    split
    · rw [List.length_cons]
      omega
    · simp

theorem length_sanitize (value : String) : (sanitize value).toList.length ≤ 32 := by
  rw [sanitize, String.toList_ofList]
  exact length_sliceUnits 32 _

theorem getD_truthy (value default : String) :
    (truthy (some value)).getD default = if value = "" then default else value := by
  unfold truthy Option.filter
  by_cases hempty : value = "" <;> simp [hempty]

theorem symbol_of_readTokenMetadata {contract : Contract} {metadata : Metadata}
    (h : readTokenMetadata contract = .ok metadata) :
    metadata.symbol ≠ "" ∧ metadata.symbol.toList.length ≤ 32 := by
  unfold readTokenMetadata at h
  cases hdecimals : contract.decimals with
  | none => simp [hdecimals] at h
  | some decimals =>
    simp only [hdecimals] at h
    split_ifs at h
    obtain rfl := Except.ok.inj h
    dsimp only
    rw [getD_truthy]
    split
    · decide
    next hne => exact ⟨hne, length_sanitize _⟩

theorem sound_upsert (h : ∀ row ∈ table.rows, row.Sound) (hrow : row.Sound) :
    ∀ row' ∈ (table.upsert row).rows, row'.Sound := by
  intro row' hmem
  unfold Table.upsert at hmem
  cases hinsert : table.insert row with
  | some table' =>
    rw [hinsert] at hmem
    rcases (Keyed.mem_insert hinsert).mp hmem with hold | rfl
    · exact h row' hold
    · exact hrow
  | none =>
    rw [hinsert] at hmem
    rcases Keyed.of_mem_update _ hmem with ⟨hold, -⟩ | ⟨old, hold, -, rfl⟩
    · exact h row' hold
    · exact ⟨(h old hold).address, hrow.symbol⟩

theorem sound_run (h : ∀ row ∈ table.rows, row.Sound) (call : Call) :
    ∀ row ∈ (call.run env table).rows, row.Sound := by
  cases call with
  | addToken network userId rawAddress =>
    simp only [Call.run, addToken]
    split
    · exact h
    · split
      · exact h
      · split
        · exact h
        next metadata hmetadata => exact sound_upsert h ⟨⟨rawAddress, rfl⟩,
          symbol_of_readTokenMetadata hmetadata⟩
  | removeToken network now userId rawAddress =>
    simp only [Call.run, removeToken]
    split
    · exact h
    · split
      · exact h
      · split
        · exact h
        · have hkey : ∀ row : UserToken, { row with removedAt := some now }.key = row.key :=
            fun _ => rfl
          intro row hmem
          rcases Keyed.of_mem_update hkey hmem with ⟨hold, -⟩ | ⟨old, hold, -, rfl⟩
          · exact h row hold
          · exact ⟨(h old hold).address, (h old hold).symbol⟩

theorem sound_after (calls : List Call) : ∀ row ∈ (after env calls).rows, row.Sound := by
  have hfold : ∀ table : Table, (∀ row ∈ table.rows, row.Sound) →
      ∀ row ∈ (calls.foldl (Call.run env) table).rows, row.Sound := by
    induction calls with
    | nil => exact fun table h => h
    | cons call rest ih => exact fun table h => ih _ (sound_run h call)
  refine hfold .empty fun row hrow => ?_
  cases hrow

theorem UserToken.Sound.toTokenInfo_eq_some (h : row.Sound) (ht : row.toTokenInfo env = some t) :
    ∃ digits, IsDigits digits ∧ t = ⟨row.symbol, row.name, env.getChecksumAddress digits,
      row.decimals, "🪙"⟩ := by
  obtain ⟨address, haddress, rfl⟩ := Option.map_eq_some_iff.mp ht
  obtain ⟨raw, hraw⟩ := h.address
  unfold Environment.getAddress at haddress
  cases hdigits : addressDigits row.address with
  | none =>
    rw [hdigits, hraw] at haddress
    simp [not_isIcap_toLowerCase] at haddress
  | some digits =>
    rw [hdigits] at haddress
    dsimp only at haddress
    split_ifs at haddress
    obtain rfl := Option.some.inj haddress
    exact ⟨digits, isDigits_of_addressDigits hdigits, rfl⟩

theorem map_of_mapM {ρ τ : Type} {f : ρ → Option τ} {rows : List ρ} {l : List τ}
    (h : rows.mapM f = some l) : rows.map f = l.map some := by
  induction rows generalizing l with
  | nil =>
    obtain rfl : [] = l := by simpa using h
    rfl
  | cons row rest ih =>
    rw [List.mapM_cons] at h
    obtain ⟨t, ht, hrest⟩ := Option.bind_eq_some_iff.mp h
    obtain ⟨l', hl', hl⟩ := Option.bind_eq_some_iff.mp hrest
    obtain rfl : t :: l' = l := by simpa using hl
    rw [List.map_cons, List.map_cons, ht, ih hl']

theorem mem_listForUser {custom : List TokenInfo} (h : listForUser env table userId = some custom) :
    t ∈ custom ↔ ∃ row ∈ activeRows table userId, row.toTokenInfo env = some t := by
  have hmap := map_of_mapM h
  rw [← List.mem_map (f := UserToken.toTokenInfo env), hmap]
  simp

end Rows

section Supported
variable {env : Environment} {t b : TokenInfo} {address : String}

def usdc (env : Environment) : TokenInfo := ⟨"USDC", "USD Coin", toBase58 env.usdcMint, 6, "USDC"⟩

def sol : TokenInfo := ⟨"SOL", "Solana", nativeTokenAddress, 9, "SOL"⟩

theorem length_toBase58 (key : Pubkey) : 32 ≤ (toBase58 key).toList.length := by
  have hlength := TextEncodings.Base58.length_le_length_encode key.toList
  rw [List.Vector.toList_length] at hlength
  rwa [toBase58, String.toList_ofList]

theorem getSupportedTokens_eq (env : Environment) : getSupportedTokens env = [usdc env, sol] := by
  have hmint : toBase58 env.usdcMint ≠ "" := by
    intro hempty
    have hlength := length_toBase58 env.usdcMint
    simp [hempty] at hlength
  have hnative : nativeTokenAddress ≠ "" := by decide
  simp [getSupportedTokens, tokenRegistry, TokenDefinition.address, truthy, hmint, hnative,
    usdc, sol]

theorem mem_getSupportedTokens : t ∈ getSupportedTokens env ↔ t = usdc env ∨ t = sol := by
  simp [getSupportedTokens_eq]

theorem not_isAddress_native (env : Environment) : env.isAddress nativeTokenAddress = false := by
  by_contra h
  have hlength := (shape_of_isAddress (by simpa using h)).2
  revert hlength
  decide

/-- No watched token is taken for a supported one. -/
theorem ne_supported_of_icon (hb : b ∈ getSupportedTokens env) (ht : t.icon = "🪙") : b ≠ t := by
  rintro rfl
  rcases mem_getSupportedTokens.mp hb with rfl | rfl <;> simp [usdc, sol] at ht

theorem toUpperCase_ascii (env : Environment) {text : String}
    (h : ∀ c ∈ text.toList, c.toNat < 128) :
    env.toUpperCase text = String.ofList (text.toList.map Char.toUpper) := by
  have hmap : ∀ chars : List Char, (∀ c ∈ chars, c.toNat < 128) →
      (chars.flatMap fun c => if c.toNat < 128 then [c.toUpper] else env.upperNonAscii c) =
        chars.map Char.toUpper := by
    intro chars hchars
    induction chars with
    | nil => rfl
    | cons c rest ih =>
      rw [List.flatMap_cons, if_pos (hchars c List.mem_cons_self),
        ih fun d hd => hchars d (List.mem_cons_of_mem c hd)]
      rfl
  rw [Environment.toUpperCase, hmap _ h]

theorem supportedToken_eq_some {symbol : String} :
    supportedToken env symbol = some b ↔ b ∈ getSupportedTokens env ∧ b.symbol = symbol := by
  simp only [supportedToken, getSupportedTokens_eq]
  have husdc : (usdc env).symbol = "USDC" := rfl
  have hsol : sol.symbol = "SOL" := rfl
  constructor
  · intro h
    exact ⟨List.mem_of_find?_eq_some h, by simpa using List.find?_some h⟩
  · rintro ⟨hb, rfl⟩
    rcases mem_getSupportedTokens.mp (getSupportedTokens_eq env ▸ hb) with rfl | rfl
    · simp
    · simp [husdc, hsol]

/-- A text as long as an address in base58 is no symbol of a supported token. -/
theorem supportedToken_address {text : String} (hascii : ∀ c ∈ text.toList, c.toNat < 128)
    (hlength : 32 ≤ text.toList.length) :
    supportedToken env (env.toUpperCase text) = none := by
  rw [Option.eq_none_iff_forall_ne_some]
  intro b hb
  obtain ⟨hmem, hsymbol⟩ := supportedToken_eq_some.mp hb
  have hlong : 32 ≤ b.symbol.toList.length := by
    rw [hsymbol, toUpperCase_ascii env hascii, String.toList_ofList, List.length_map]
    exact hlength
  rcases mem_getSupportedTokens.mp hmem with rfl | rfl <;> simp [usdc, sol] at hlong

theorem builtInAt_eq_some : builtInAt env address = some b ↔ b ∈ getSupportedTokens env ∧
    env.isAddress b.address ∧ toLowerCase b.address = address := by
  have hnative := not_isAddress_native env
  have hsol : sol.address = nativeTokenAddress := rfl
  simp only [builtInAt]
  constructor
  · intro h
    exact ⟨List.mem_of_find?_eq_some h, by simpa using List.find?_some h⟩
  · rintro ⟨hb, haddress, rfl⟩
    rw [getSupportedTokens_eq]
    rcases mem_getSupportedTokens.mp hb with rfl | rfl
    · simp [haddress]
    · rw [hsol, hnative] at haddress
      cases haddress

end Supported

section Resolution
variable {env : Environment} {table : Table} {t b : TokenInfo} {chainId : ℕ}
  {userId reference : String}

/-- A reference leads to a token, without any candidates. -/
def ResolvesTo (env : Environment) (table : Table) (chainId : ℕ) (userId reference : String)
    (t : TokenInfo) : Prop :=
  resolveForUser env table chainId userId reference = some ⟨some t, []⟩

theorem resolveForUser_address (h : env.isAddress reference) :
    resolveForUser env table chainId userId reference =
      match builtInAt env (toLowerCase reference) with
      | some builtIn => some ⟨some builtIn, []⟩
      | none =>
        match table.find? (userId, chainId, toLowerCase reference) with
        | some row =>
          if row.removedAt.isSome then some ⟨none, []⟩
            else (row.toTokenInfo env).map fun token => ⟨some token, []⟩
        | none => some ⟨none, []⟩ := by
  have hne : reference ≠ "" := by
    rintro rfl
    exact absurd (shape_of_isAddress h).2 (by decide)
  rw [resolveForUser, if_neg hne]
  simp only [trim_of_isAddress h, h, if_true]

/-- The chain that the service is connected to has an active row of the user for the address, with
what the token has. -/
def Watched (env : Environment) (table : Table) (chainId : ℕ) (userId : String)
    (t : TokenInfo) : Prop :=
  ∃ row ∈ table.rows, row.userId = userId ∧ row.chainId = chainId ∧ row.removedAt = none ∧
  row.address = toLowerCase t.address ∧
    row.toTokenInfo env = some t

theorem icon_of_toTokenInfo {row : UserToken} (h : row.toTokenInfo env = some t) :
    t.icon = "🪙" := by
  obtain ⟨address, -, rfl⟩ := Option.map_eq_some_iff.mp h
  rfl

/-- A watched token that is at no supported token's address. -/
theorem resolvesTo_watched_iff (haddress : env.isAddress t.address)
    (hnone : builtInAt env (toLowerCase t.address) = none) :
    ResolvesTo env table chainId userId t.address t ↔ Watched env table chainId userId t := by
  rw [ResolvesTo, resolveForUser_address haddress, hnone]
  dsimp only
  constructor
  · intro h
    cases hfind : table.find? (userId, chainId, toLowerCase t.address) with
    | none =>
      rw [hfind] at h
      simp at h
    | some row =>
      rw [hfind] at h
      dsimp only at h
      split_ifs at h with hremoved
      · simp at h
      · obtain ⟨found, hfound, heq⟩ := Option.map_eq_some_iff.mp h
        obtain rfl : found = t := by simpa using heq
        obtain ⟨hrow, hkey⟩ := Keyed.find?_eq_some.mp hfind
        obtain ⟨huser, hchain, hat⟩ : row.userId = userId ∧ row.chainId = chainId ∧
          row.address = toLowerCase found.address := by
          simpa [UserToken.key] using hkey
        exact ⟨row, hrow, huser, hchain, by simpa using hremoved, hat, hfound⟩
  · rintro ⟨row, hrow, rfl, rfl, hremoved, hat, htoken⟩
    have hfind : table.find? (row.userId, row.chainId, toLowerCase t.address) = some row :=
      Keyed.find?_eq_some.mpr ⟨hrow, by rw [← hat]; rfl⟩
    simp [hfind, hremoved, htoken]

theorem ascii_toBase58 (key : Pubkey) : ∀ c ∈ (toBase58 key).toList, c.toNat < 128 := by
  have halphabet : ∀ c ∈ TextEncodings.Base58.alphabet, c.toNat < 128 := forall_of_all (by decide)
  intro c hc
  rw [toBase58, String.toList_ofList] at hc
  exact halphabet c (TextEncodings.Base58.mem_alphabet_of_mem_encode hc)

/-- The address of a supported token that is none of the EVM is looked up as a symbol, which no
supported token has. -/
theorem supportedToken_of_address (h : b ∈ getSupportedTokens env) :
    supportedToken env (env.toUpperCase b.address) = none := by
  rcases mem_getSupportedTokens.mp h with rfl | rfl
  · exact supportedToken_address (ascii_toBase58 _) (length_toBase58 _)
  · exact supportedToken_address (forall_of_all (by decide)) (by decide)

/-- What is found by a symbol other than those of the supported tokens is watched. -/
theorem watched_of_resolves (htrim : ¬env.isAddress (trim reference)) (hne : reference ≠ "")
    (hnone : supportedToken env (env.toUpperCase (trim reference)) = none)
    (h : ResolvesTo env table chainId userId reference t) :
    t.icon = "🪙" := by
  unfold ResolvesTo resolveForUser at h
  simp only [if_neg hne, if_neg htrim, hnone] at h
  obtain ⟨custom, hcustom, hmatches⟩ := Option.bind_eq_some_iff.mp h
  split at hmatches
  · simp at hmatches
  next token hsingle =>
    obtain rfl : token = t := by simpa using hmatches
    have hmem : token ∈ custom := (List.mem_filter.mp (hsingle ▸ List.mem_singleton_self token)).1
    obtain ⟨row, -, hrow⟩ := (mem_listForUser hcustom).mp hmem
    exact icon_of_toTokenInfo hrow
  · simp at hmatches

theorem trim_toBase58 (key : Pubkey) : trim (toBase58 key) = toBase58 key := by
  have halphabet : ∀ c ∈ TextEncodings.Base58.alphabet, Backend.isWhiteSpace c = false :=
    forall_of_all (by decide)
  rw [trim, Backend.trimChars_eq_self, String.ofList_toList]
  intro c hc
  rw [toBase58, String.toList_ofList] at hc
  exact halphabet c (TextEncodings.Base58.mem_alphabet_of_mem_encode hc)

theorem trim_supported (h : b ∈ getSupportedTokens env) :
    trim b.address = b.address ∧ b.address ≠ "" := by
  have hmint : toBase58 env.usdcMint ≠ "" := by
    intro hempty
    have hlength := length_toBase58 env.usdcMint
    simp [hempty] at hlength
  rcases mem_getSupportedTokens.mp h with rfl | rfl
  · exact ⟨trim_toBase58 _, hmint⟩
  · exact ⟨by decide, by decide⟩

/-- A supported token is found by its address if that is one of the EVM. -/
theorem resolvesTo_supported_iff (h : b ∈ getSupportedTokens env) :
    ResolvesTo env table chainId userId b.address b ↔ env.isAddress b.address := by
  obtain ⟨htrim, hne⟩ := trim_supported h
  constructor
  · intro hresolves
    by_contra hno
    refine ne_supported_of_icon h ?_ rfl
    exact watched_of_resolves (by rwa [htrim]) hne
      (by rw [htrim]; exact supportedToken_of_address h) hresolves
  · intro haddress
    rw [ResolvesTo, resolveForUser_address haddress, builtInAt_eq_some.mpr ⟨h, haddress, rfl⟩]

/-- The symbol of a supported token, in any case, leads to it. -/
theorem resolvesTo_symbol (hb : b ∈ getSupportedTokens env)
    (haddress : ¬env.isAddress (trim reference))
    (hsymbol : env.toUpperCase (trim reference) = b.symbol) :
    ResolvesTo env table chainId userId reference b := by
  have hne : reference ≠ "" := by
    rintro rfl
    have hempty : env.toUpperCase (trim "") = "" := rfl
    rw [hempty] at hsymbol
    rcases mem_getSupportedTokens.mp hb with rfl | rfl <;> simp [usdc, sol] at hsymbol
  have hfound : supportedToken env (env.toUpperCase (trim reference)) = some b :=
    supportedToken_eq_some.mpr ⟨hb, hsymbol.symm⟩
  simp only [ResolvesTo, resolveForUser, if_neg hne, if_neg haddress, hfound]

theorem length_trimChars (text : List Char) : (Backend.trimChars text).length ≤ text.length := by
  unfold Backend.trimChars
  rw [List.length_reverse]
  refine ((List.dropWhile_sublist _).length_le).trans ?_
  rw [List.length_reverse]
  exact (List.dropWhile_sublist _).length_le

/-- No symbol is read as an address. -/
theorem not_isAddress_of_length (h : reference.toList.length ≤ 32) :
    ¬env.isAddress (trim reference) := by
  intro haddress
  have hlong := (shape_of_isAddress haddress).2
  rw [trim, String.toList_ofList] at hlong
  exact absurd ((length_trimChars _).trans h) (by omega)

theorem toUpperCase_symbol (h : b ∈ getSupportedTokens env) :
    env.toUpperCase b.symbol = b.symbol := by
  rcases mem_getSupportedTokens.mp h with rfl | rfl
  · have hascii : ∀ c ∈ "USDC".toList, c.toNat < 128 := forall_of_all (by decide)
    exact toUpperCase_ascii env hascii
  · rfl

theorem mem_allTokensForUser {tokens : List TokenInfo}
    (h : allTokensForUser env table userId = some tokens) :
    ∃ custom, listForUser env table userId = some custom ∧
      tokens = getSupportedTokens env ++
        custom.filter fun t => builtInAt env (toLowerCase t.address) = none := by
  obtain ⟨custom, hcustom, hl⟩ := Option.bind_eq_some_iff.mp h
  refine ⟨custom, hcustom, ?_⟩
  rw [← Option.some.inj hl]
  congr 1
  apply List.filter_congr
  intro t _
  rw [decide_eq_decide, Option.eq_none_iff_forall_ne_some]
  simp only [List.mem_map, List.mem_filter, not_exists]
  constructor
  · intro hnot b hb
    obtain ⟨hmem, haddress, hlower⟩ := builtInAt_eq_some.mp hb
    exact hnot b ⟨⟨hmem, haddress⟩, hlower⟩
  · rintro hnot b ⟨⟨hmem, haddress⟩, hlower⟩
    exact hnot b (builtInAt_eq_some.mpr ⟨hmem, haddress, hlower⟩)

/-- A symbol that two watched tokens carry is answered with them. -/
theorem resolve_ambiguous {tokens : List TokenInfo} (hsound : ∀ row ∈ table.rows, row.Sound)
    (htokens : allTokensForUser env table userId = some tokens) {symbol : String}
    (htrim : trim symbol = symbol) (hnone : supportedToken env (env.toUpperCase symbol) = none)
    (htwo : 2 ≤ (tokens.filter (·.symbol = symbol)).length) :
    ∃ candidates, resolveForUser env table chainId userId symbol = some ⟨none, candidates⟩ ∧
      ∀ t ∈ tokens, t.symbol = symbol → t ∈ candidates := by
  obtain ⟨custom, hcustom, rfl⟩ := mem_allTokensForUser htokens
  have hsupported : ∀ b ∈ getSupportedTokens env, b.symbol ≠ symbol := by
    rintro b hb rfl
    rw [toUpperCase_symbol hb, supportedToken_eq_some.mpr ⟨hb, rfl⟩] at hnone
    cases hnone
  have hfilter : (getSupportedTokens env).filter (·.symbol = symbol) = [] := by
    simpa [List.filter_eq_nil_iff] using hsupported
  rw [List.filter_append, hfilter, List.nil_append] at htwo
  -- The matches of the resolver are all tokens with the symbol, in any case and at any address.
  let found := custom.filter fun t => env.toUpperCase t.symbol = env.toUpperCase symbol
  have hcarriers : ∀ t ∈ custom, t.symbol = symbol → t ∈ found := by
    rintro t ht rfl
    exact List.mem_filter.mpr ⟨ht, by simp⟩
  have hlength : 2 ≤ found.length := by
    refine htwo.trans ?_
    rw [List.filter_filter]
    refine (List.monotone_filter_right custom fun t ht => ?_).length_le
    obtain ⟨hsymbol, -⟩ : t.symbol = symbol ∧ _ := by simpa using ht
    simp [hsymbol]
  obtain ⟨t, ht⟩ := List.exists_mem_of_length_pos (lt_of_lt_of_le Nat.zero_lt_two htwo)
  obtain ⟨hin, hsymbol⟩ := List.mem_filter.mp ht
  obtain ⟨row, hrow, htoken⟩ := (mem_listForUser hcustom).mp (List.mem_filter.mp hin).1
  obtain ⟨digits, -, rfl⟩ := (hsound row (List.mem_filter.mp hrow).1).toTokenInfo_eq_some htoken
  obtain rfl : row.symbol = symbol := by simpa using hsymbol
  obtain ⟨hne, hshort⟩ := (hsound row (List.mem_filter.mp hrow).1).symbol
  refine ⟨found, ?_, ?_⟩
  · have hnot : ¬env.isAddress (trim row.symbol) := not_isAddress_of_length hshort
    have hno : env.isAddress (trim row.symbol) = false := by simpa using hnot
    rw [htrim] at hno
    simp only [resolveForUser, if_neg hne, htrim, hno, hnone, hcustom]
    obtain ⟨first, second, rest, hfound⟩ : ∃ first second rest, found = first :: second ::
      rest := by
      match found, hlength with
      | first :: second :: rest, _ => exact ⟨first, second, rest, rfl⟩
    have hmatches : (custom.filter fun t => env.toUpperCase t.symbol = env.toUpperCase row.symbol) =
        first :: second :: rest := hfound
    simp [hmatches, hfound]
  · intro t ht hsymbol
    rcases List.mem_append.mp ht with hb | hb
    · exact absurd hsymbol (hsupported t hb)
    · exact hcarriers t (List.mem_filter.mp hb).1 hsymbol

end Resolution

section Results
variable (env : Environment)

/-- Each way to refer to a token leads to it: the address of every token a user can transact in, the
address of what a symbol leads to, and the symbols of the supported tokens; a symbol of two tokens
leads to neither. -/
structure Consistent (table : Table) (chainId : ℕ) (userId : String) : Prop where
  address : ∀ tokens, allTokensForUser env table userId = some tokens →
    ∀ t ∈ tokens, ResolvesTo env table chainId userId t.address t
  symbol : ∀ reference t candidates, ¬env.isAddress (trim reference) →
    resolveForUser env table chainId userId reference = some ⟨some t, candidates⟩ →
    ResolvesTo env table chainId userId t.address t
  builtIn : ∀ b ∈ getSupportedTokens env, ResolvesTo env table chainId userId b.symbol b
  ambiguous : ∀ tokens symbol, allTokensForUser env table userId = some tokens →
    supportedToken env (env.toUpperCase symbol) = none →
    2 ≤ (tokens.filter (·.symbol = symbol)).length →
    ∃ candidates, resolveForUser env table chainId userId symbol = some ⟨none, candidates⟩ ∧
    ∀ t ∈ tokens, t.symbol = symbol → t ∈ candidates

/-- No list of tokens is consistent: the native token never resolves by its address. The symbols of
the supported tokens always lead to them; a token resolves by its address if that is the EVM address
of a supported token or an active row of the chain in use; and a symbol of two tokens that has no
blanks around it leads to neither. -/
theorem token_references_resolve (calls : List Call) (chainId : ℕ) (userId : String) :
    ¬Consistent env (after env calls) chainId userId ∧
    (∀ b ∈ getSupportedTokens env, ∀ reference, ¬env.isAddress (trim reference) → env.toUpperCase
      (trim reference) = b.symbol →
      ResolvesTo env (after env calls) chainId userId reference b) ∧
    ∀ tokens, allTokensForUser env (after env calls) userId = some tokens →
      (∀ t ∈ tokens, ResolvesTo env (after env calls) chainId userId t.address t ↔
        t ∈ getSupportedTokens env ∧ env.isAddress t.address ∨
        Watched env (after env calls) chainId userId t) ∧
      ∀ symbol, trim symbol = symbol → supportedToken env (env.toUpperCase symbol) = none →
        2 ≤ (tokens.filter (·.symbol = symbol)).length →
        ∃ candidates, resolveForUser env (after env calls) chainId userId symbol = some
          ⟨none, candidates⟩ ∧
          ∀ t ∈ tokens, t.symbol = symbol → t ∈ candidates := by
  have hsound : ∀ row ∈ (after env calls).rows, row.Sound := sound_after calls
  have hsol : sol ∈ getSupportedTokens env := mem_getSupportedTokens.mpr (.inr rfl)
  refine ⟨?_, fun b hb reference => resolvesTo_symbol hb, ?_⟩
  · intro h
    have hsymbol : ¬env.isAddress (trim "SOL") := not_isAddress_of_length (by decide)
    have hresolves := h.symbol "SOL" sol [] hsymbol (resolvesTo_symbol hsol hsymbol rfl)
    rw [resolvesTo_supported_iff hsol] at hresolves
    exact Bool.false_ne_true ((not_isAddress_native env).symm.trans hresolves)
  · intro tokens htokens
    refine ⟨?_, fun symbol htrim hnone htwo => resolve_ambiguous hsound htokens htrim hnone htwo⟩
    obtain ⟨custom, hcustom, rfl⟩ := mem_allTokensForUser htokens
    intro t ht
    rcases List.mem_append.mp ht with hb | hwatched
    · rw [resolvesTo_supported_iff hb]
      constructor
      · exact fun haddress => .inl ⟨hb, haddress⟩
      · rintro (⟨-, haddress⟩ | ⟨row, -, -, -, -, -, hrow⟩)
        · exact haddress
        · exact absurd rfl (ne_supported_of_icon hb (icon_of_toTokenInfo hrow))
    · obtain ⟨hin, hnone⟩ := List.mem_filter.mp hwatched
      obtain ⟨row, hrow, htoken⟩ := (mem_listForUser hcustom).mp hin
      have haddress : env.isAddress t.address := by
        obtain ⟨digits, hdigits, rfl⟩ :=
          (hsound row (List.mem_filter.mp hrow).1).toTokenInfo_eq_some htoken
        rw [Environment.isAddress, getAddress_checksum env hdigits]
        rfl
      rw [resolvesTo_watched_iff haddress (by simpa using hnone)]
      constructor
      · exact .inr
      · rintro (⟨hb, -⟩ | hw)
        · exact absurd rfl (ne_supported_of_icon hb (icon_of_toTokenInfo htoken))
        · exact hw

end Results

end VeriAgentPay.UserTokens

namespace VeriAgentPay.Devnet
open UserTokens

def usdcKey : Pubkey :=
  beBytes 32 0x3b442cb3912157f13a933d0134282d032b5ffecd01a2dbf1b7790608df002ea7

/-- The addresses of the runs have no letters, so that no digit of the hash is asked for. -/
def tokenEnvironment : UserTokens.Environment where
  keccakUpper _ _ := false
  icap _ := none
  upperNonAscii c := [c]
  usdcMint := usdcKey
  processEnv _ := none
  dailyLimitUnits := 1000

def catAddress : String := "0x1212121212121212121212121212121212121212"

/-- A contract that calls itself CAT is watched on one chain. -/
def catWatched : List UserTokens.Call :=
  [.addToken ⟨968, fun _ => ⟨some "CAT", some "Cat", some 18⟩⟩ "alice" catAddress]

/-- On another chain the symbol leads to the token and its address does not; and the native token
never resolves by its address. -/
theorem token_references_apart :
    ¬Consistent tokenEnvironment (UserTokens.after tokenEnvironment catWatched) 677 "alice" ∧
    resolveForUser tokenEnvironment
      (UserTokens.after tokenEnvironment catWatched) 677 "alice" "cat" =
      some ⟨some ⟨"CAT", "Cat", catAddress, 18, "🪙"⟩, []⟩ ∧
    resolveForUser tokenEnvironment
      (UserTokens.after tokenEnvironment catWatched) 677 "alice" catAddress = some ⟨none, []⟩ ∧
    resolveForUser tokenEnvironment (UserTokens.after tokenEnvironment catWatched) 677 "alice"
      nativeTokenAddress = some ⟨none, []⟩ := by
  have hsymbol : resolveForUser tokenEnvironment
      (UserTokens.after tokenEnvironment catWatched) 677 "alice" "cat" =
      some ⟨some ⟨"CAT", "Cat", catAddress, 18, "🪙"⟩, []⟩ := by decide +kernel
  have haddress : resolveForUser tokenEnvironment
      (UserTokens.after tokenEnvironment catWatched) 677 "alice" catAddress = some ⟨none, []⟩ := by
    decide +kernel
  refine ⟨fun h => ?_, hsymbol, haddress, by decide +kernel⟩
  have hresolves := h.symbol "cat" _ [] (by decide +kernel) hsymbol
  rw [ResolvesTo, haddress] at hresolves
  cases hresolves

end VeriAgentPay.Devnet
