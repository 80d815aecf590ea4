import VeriAgentPay.KeyedTables
import VeriAgentPay.PaymentLinkServices

/-!
# The call policy of session keys

Administrators keep a table of the functions that session keys may call. A refresh of a vault's
permissions is made from the rows that are allowed, or from a built-in list when there are none.
-/

namespace VeriAgentPay.CallPolicies
open KeyedTables
open Backend (Failure isWhiteSpace trim truthy)

section Model

/-- A row of the table `SessionCallPolicyEntry`. Rows are never deleted, so the place of a row is
its id. -/
structure Entry where
  label : String
  target : String
  signature : String
  selector : String
  allowed : Bool
  updatedBy : Option String
  deriving DecidableEq

abbrev Pair := String × String

def Entry.pair (entry : Entry) : Pair := (entry.target, entry.selector)

/-- The table, and the writes to it with the latest first. -/
structure CallPolicy where
  entries : Keyed Entry.pair
  history : List (Pair × Bool)

/-- What a vault is offered. -/
structure Offer where
  target : String
  selector : String
  allowed : Bool
  deriving DecidableEq

def Offer.pair (offer : Offer) : Pair := (offer.target, offer.selector)

/-- `ethers.getAddress`, which gives the checksummed form of an address, and `ethers.id`. -/
structure Ethers where
  getAddress : String → Option String
  id : String → String

def Ethers.isAddress (ethers : Ethers) (text : String) : Bool := (ethers.getAddress text).isSome

def Ethers.selector (ethers : Ethers) (signature : String) : String :=
  String.ofList ((ethers.id signature).toList.take 10)

/-- The addresses in the environment; an empty one is none. -/
structure Environment where
  envelopeEscrowAddress : Option String
  socialPaymentsAddress : Option String
  poolContractAddress : Option String
  groupLendingPoolAddress : Option String

def Environment.socialPayments (env : Environment) : Option String :=
  truthy env.envelopeEscrowAddress <|> truthy env.socialPaymentsAddress

def Environment.pool (env : Environment) : Option String :=
  truthy env.poolContractAddress <|> truthy env.groupLendingPoolAddress

structure Admin where
  id : Option String
  email : Option String

def Admin.name (admin : Option Admin) : Option String :=
  admin.bind fun admin => truthy admin.email <|> admin.id

structure UpsertInput where
  label : String
  target : String
  signature : String
  allowed : Option Bool

def isLineTerminator (c : Char) : Bool := c.toNat ∈ [10, 13, 0x2028, 0x2029]

def isWordChar (c : Char) : Bool := c.isAlphanum || c = '_'

/-- `/^[A-Za-z_][A-Za-z0-9_]*\(.*\)$/`. -/
def isSignature (text : List Char) : Bool :=
  match text with
  | [] => false
  | first :: rest =>
    (first.isAlpha || first = '_') &&
      match rest.dropWhile isWordChar with
      | '(' :: arguments => arguments.getLast? = some ')' && !arguments.any isLineTerminator
      | _ => false

variable (ethers : Ethers) (env : Environment)

/-- An upsert by the unique pair: the row is written over where there is one. -/
def CallPolicy.write (policy : CallPolicy) (entry : Entry) : CallPolicy where
  entries := match policy.entries.insert entry with
    | some entries => entries
    | none => policy.entries.update (·.pair = entry.pair)
        (fun row => { row with
          label := entry.label, signature := entry.signature, allowed := entry.allowed
          updatedBy := entry.updatedBy <|> row.updatedBy })
        fun _ => rfl
  history := (entry.pair, entry.allowed) :: policy.history

def upsert (policy : CallPolicy) (input : UpsertInput) (admin : Option Admin) :
    Except Failure CallPolicy :=
  match ethers.getAddress input.target with
  | none => .error (.badRequest "A valid contract address is required.")
  | some target =>
    if !isSignature (trim input.signature).toList then
      .error (.badRequest
        "A full function signature is required, e.g. \"deposit(uint256,uint256)\".")
    else if trim input.label = "" then
      .error (.badRequest "A label is required so the entry is auditable.")
    else
      let signature := String.ofList (input.signature.toList.filter fun c => !isWhiteSpace c)
      .ok (policy.write
        { label := trim input.label, target := target, signature := signature
          selector := ethers.selector signature
          allowed := input.allowed ≠ some false, updatedBy := Admin.name admin })

def revoke (policy : CallPolicy) (id : ℕ) (admin : Option Admin) : Except Failure CallPolicy :=
  match policy.entries.rows[id]? with
  | none => .error (.notFound "Call policy entry not found.")
  | some existing => .ok
    { entries := policy.entries.update (·.pair = existing.pair)
        (fun row => { row with allowed := false, updatedBy := Admin.name admin <|> row.updatedBy })
          fun _ => rfl
      history := (existing.pair, false) :: policy.history }

def spSignatures : List String :=
  ["createRedEnvelopeExtended(address,uint256,uint32,bool,bytes32,uint256,uint8,address,uint256)",
    "createRedEnvelopeExtended(address,uint256,uint32,bool,bytes32,uint256,uint8,address,uint256,bool)",
    "claimRedEnvelope(uint256,uint256,bytes)", "requestCancelEnvelope(uint256)",
    "cancelEnvelope(uint256)"]

def poolSignatures : List String :=
  ["createPool(string,address,address[])", "addMember(uint256,address)", "deposit(uint256,uint256)",
    "withdraw(uint256,uint256)",
    "requestLoan(uint256,uint256,uint256)", "voteOnLoan(uint256,uint256,bool)",
    "repayLoan(uint256,uint256,uint256)",
    "requestExtension(uint256,uint256,uint256)"]

def offersOf (contract : Option String) (signatures : List String) : List Offer :=
  match contract with
  | some target => if ethers.isAddress target then signatures.map fun sig =>
    ⟨target, ethers.selector sig, true⟩ else []
  | none => []

def builtInEntries : List Offer :=
  offersOf ethers env.socialPayments spSignatures ++ offersOf ethers env.pool poolSignatures

def activeEntries (policy : CallPolicy) : List Offer :=
  let rows := policy.entries.rows.filter (·.allowed)
  if rows.length > 0 then rows.map fun row => ⟨row.target, row.selector, true⟩
    else builtInEntries ethers env

def spEntries : List (String × String) :=
  [("SocialPayments.createRedEnvelope",
    "createRedEnvelopeExtended(address,uint256,uint32,bool,bytes32,uint256,uint8,address,uint256)"),
    ("SocialPayments.createRedEnvelopeSponsored",
      "createRedEnvelopeExtended(address,uint256,uint32,bool,bytes32,uint256,uint8,address,uint256,bool)"),
    ("SocialPayments.claimRedEnvelope", "claimRedEnvelope(uint256,uint256,bytes)"),
    ("SocialPayments.requestCancelEnvelope", "requestCancelEnvelope(uint256)"),
    ("SocialPayments.cancelEnvelope", "cancelEnvelope(uint256)")]

def poolEntries : List (String × String) :=
  [("GroupLendingPool.createPool", "createPool(string,address,address[])"),
    ("GroupLendingPool.addMember", "addMember(uint256,address)"),
    ("GroupLendingPool.deposit", "deposit(uint256,uint256)"),
    ("GroupLendingPool.withdraw", "withdraw(uint256,uint256)"),
    ("GroupLendingPool.requestLoan", "requestLoan(uint256,uint256,uint256)"),
    ("GroupLendingPool.voteOnLoan", "voteOnLoan(uint256,uint256,bool)"),
    ("GroupLendingPool.repayLoan", "repayLoan(uint256,uint256,uint256)"),
    ("GroupLendingPool.requestExtension", "requestExtension(uint256,uint256,uint256)")]

def inputsOf (contract : Option String) (entries : List (String × String)) : List UpsertInput :=
  match contract with
  | some target =>
    if ethers.isAddress target then
      entries.map fun (label, signature) => ⟨label, target, signature, some true⟩ else []
  | none => []

/-- One upsert after the other; what was written before a failure stays. -/
def upsertAll (admin : Option Admin) :
    List UpsertInput → CallPolicy → Except Failure Unit × CallPolicy
  | [], policy => (.ok (), policy)
  | input :: rest, policy =>
    match upsert ethers policy input admin with
    | .ok policy' => upsertAll admin rest policy'
    | .error e => (.error e, policy)

def seedFromBuiltIn (policy : CallPolicy) (admin : Option Admin) :
    Except Failure Unit × CallPolicy :=
  match upsertAll ethers admin
      (inputsOf ethers env.socialPayments spEntries ++ inputsOf ethers env.pool poolEntries) policy with
  | (.error e, policy') => (.error e, policy')
  | (.ok (), policy') =>
    if env.socialPayments.isNone ∧ env.pool.isNone then
      (.error (.badRequest
        "Neither SOCIAL_PAYMENTS_ADDRESS nor POOL_CONTRACT_ADDRESS is configured."), policy')
    else (.ok (), policy')

/-- The calls of the administrators. -/
inductive Call where
  | upsert (input : UpsertInput) (admin : Option Admin)
  | revoke (id : ℕ) (admin : Option Admin)
  | seedFromBuiltIn (admin : Option Admin)

/-- The table after a call; one that fails leaves what it has written. -/
def Call.run (policy : CallPolicy) : Call → CallPolicy
  | upsert input admin => ((CallPolicies.upsert ethers policy input admin).toOption).getD policy
  | revoke id admin => ((CallPolicies.revoke policy id admin).toOption).getD policy
  | seedFromBuiltIn admin => (CallPolicies.seedFromBuiltIn ethers env policy admin).2

def empty : CallPolicy := ⟨.empty, []⟩

/-- The table after a sequence of calls, from an empty one. -/
def after (calls : List Call) : CallPolicy := calls.foldl (Call.run ethers env) empty

end Model

section History
variable {ethers : Ethers} {env : Environment} {policy : CallPolicy} {pair : Pair}

/-- Whether the most recent write of a pair allowed it. -/
def CallPolicy.mostRecent (policy : CallPolicy) (pair : Pair) : Option Bool :=
  (policy.history.find? fun write => write.1 = pair).map Prod.snd

/-- Each row has what was written last. -/
def CallPolicy.Recorded (policy : CallPolicy) : Prop :=
  ∀ pair, (policy.entries.find? pair).map Entry.allowed = policy.mostRecent pair

theorem mostRecent_cons {entries : Keyed Entry.pair} {written : Pair} {allowed : Bool}
    {history : List (Pair × Bool)} :
    CallPolicy.mostRecent ⟨entries, (written, allowed) :: history⟩ pair =
      if written = pair then some allowed else CallPolicy.mostRecent ⟨entries, history⟩ pair := by
  by_cases h : written = pair <;> simp [CallPolicy.mostRecent, h]

/-- A change of the row of a pair, with its `allowed`, is a write of it. -/
theorem recorded_update (h : policy.Recorded) {row : Entry}
    (hrow : policy.entries.find? row.pair = some row) {f : Entry → Entry}
    (hf : ∀ row, (f row).pair = row.pair) {allowed : Bool}
    (hallowed : ∀ row, (f row).allowed = allowed) :
    CallPolicy.Recorded ⟨policy.entries.update (·.pair = row.pair) f hf,
      (row.pair, allowed) :: policy.history⟩ := by
  intro pair
  rw [mostRecent_cons, Keyed.find?_update]
  by_cases hpair : row.pair = pair
  · subst hpair
    simp [hrow, hallowed]
  · rw [if_neg hpair]
    refine Eq.trans ?_ (h pair)
    cases hfind : policy.entries.find? pair with
    | none => rfl
    | some other =>
      have hother : other.pair ≠ row.pair :=
        fun heq => hpair (heq ▸ (Keyed.find?_eq_some.mp hfind).2)
      simp [hother]

theorem CallPolicy.Recorded.write (h : policy.Recorded) (entry : Entry) :
    (policy.write entry).Recorded := by
  unfold CallPolicy.write
  cases hinsert : policy.entries.insert entry with
  | none =>
    obtain ⟨row, hrow, hpair⟩ := Keyed.insert_eq_none.mp hinsert
    have hfind : policy.entries.find? row.pair = some row := Keyed.find?_eq_some.mpr ⟨hrow, rfl⟩
    rw [← hpair]
    exact recorded_update h hfind _ fun _ => rfl
  | some entries =>
    intro pair
    have hfresh : policy.entries.find? entry.pair = none := by
      rw [Keyed.find?_eq_none]
      intro row hrow hpair
      have hnone := Keyed.insert_eq_none.mpr ⟨row, hrow, hpair⟩
      rw [hinsert] at hnone
      cases hnone
    rw [mostRecent_cons]
    have hrows := Keyed.rows_of_insert hinsert
    simp only [Keyed.find?, hrows, List.find?_append]
    by_cases hpair : entry.pair = pair
    · subst hpair
      have hnone : policy.entries.rows.find? (fun row => row.pair = entry.pair) = none := hfresh
      simp [hnone]
    · rw [if_neg hpair]
      have hlast : [entry].find? (fun row => decide (row.pair = pair)) = none := by simp [hpair]
      rw [hlast, Option.or_none]
      exact h pair

theorem CallPolicy.Recorded.upsert (h : policy.Recorded) {input : UpsertInput}
    {admin : Option Admin} {policy' : CallPolicy}
    (hok : upsert ethers policy input admin = .ok policy') : policy'.Recorded := by
  unfold CallPolicies.upsert at hok
  split at hok
  · cases hok
  split at hok
  · cases hok
  split at hok
  · cases hok
  cases hok
  exact h.write _

theorem CallPolicy.Recorded.revoke (h : policy.Recorded) {id : ℕ} {admin : Option Admin}
    {policy' : CallPolicy} (hok : revoke policy id admin = .ok policy') : policy'.Recorded := by
  unfold CallPolicies.revoke at hok
  split at hok
  · cases hok
  next existing hexisting =>
  cases hok
  have hfind : policy.entries.find? existing.pair = some existing :=
    Keyed.find?_eq_some.mpr ⟨List.mem_of_getElem? hexisting, rfl⟩
  exact recorded_update h hfind _ fun _ => rfl

theorem CallPolicy.Recorded.upsertAll (h : policy.Recorded) {admin : Option Admin}
    {inputs : List UpsertInput} :
    (upsertAll ethers admin inputs policy).2.Recorded := by
  induction inputs generalizing policy with
  | nil => exact h
  | cons input rest ih =>
    rw [CallPolicies.upsertAll]
    split
    · next policy' hok => exact ih (h.upsert hok)
    · exact h

theorem seedFromBuiltIn_snd {admin : Option Admin} : (seedFromBuiltIn ethers env policy admin).2 =
    (upsertAll ethers admin (inputsOf ethers env.socialPayments spEntries ++
      inputsOf ethers env.pool poolEntries) policy).2 := by
  unfold seedFromBuiltIn
  split
  · next h => rw [h]
  · next h =>
    rw [h]
    split <;> rfl

theorem CallPolicy.Recorded.run (h : policy.Recorded) (call : Call) :
    (call.run ethers env policy).Recorded := by
  cases call with
  | upsert input admin =>
    rw [Call.run]
    cases hok : CallPolicies.upsert ethers policy input admin with
    | ok policy' => exact h.upsert hok
    | error e => exact h
  | revoke id admin =>
    rw [Call.run]
    cases hok : CallPolicies.revoke policy id admin with
    | ok policy' => exact h.revoke hok
    | error e => exact h
  | seedFromBuiltIn admin =>
    rw [Call.run, seedFromBuiltIn_snd]
    exact h.upsertAll

theorem recorded_foldl (h : policy.Recorded) (calls : List Call) :
    (calls.foldl (Call.run ethers env) policy).Recorded := by
  induction calls generalizing policy with
  | nil => exact h
  | cons call calls ih => exact ih (h.run call)

theorem recorded_after (calls : List Call) : (after ethers env calls).Recorded :=
  recorded_foldl (fun _ => rfl) calls

end History

section Offers
variable {ethers : Ethers} {env : Environment} {policy : CallPolicy} {pair : Pair}

def Offered (offers : List Offer) (pair : Pair) : Prop :=
  ∃ offer ∈ offers, offer.pair = pair ∧ offer.allowed = true

theorem allowed_of_builtInEntries {offer : Offer} (h : offer ∈ builtInEntries ethers env) :
    offer.allowed = true := by
  have hoffers : ∀ contract signatures, offer ∈ offersOf ethers contract signatures →
      offer.allowed = true := by
    intro contract signatures hmem
    unfold offersOf at hmem
    split at hmem
    · split at hmem
      · obtain ⟨sig, _, rfl⟩ := List.mem_map.mp hmem
        rfl
      · cases hmem
    · cases hmem
  rcases List.mem_append.mp h with h | h <;> exact hoffers _ _ h

theorem allowed_of_activeEntries {offer : Offer} (h : offer ∈ activeEntries ethers env policy) :
    offer.allowed = true := by
  simp only [activeEntries] at h
  split at h
  · obtain ⟨row, _, rfl⟩ := List.mem_map.mp h
    rfl
  · exact allowed_of_builtInEntries h

theorem mostRecent_eq_true (h : policy.Recorded) : policy.mostRecent pair = some true ↔
    ∃ row ∈ policy.entries.rows, row.pair = pair ∧ row.allowed := by
  rw [← h pair, Option.map_eq_some_iff]
  constructor
  · rintro ⟨row, hfind, hallowed⟩
    obtain ⟨hrow, hpair⟩ := Keyed.find?_eq_some.mp hfind
    exact ⟨row, hrow, hpair, hallowed⟩
  · rintro ⟨row, hrow, hpair, hallowed⟩
    exact ⟨row, Keyed.find?_eq_some.mpr ⟨hrow, hpair⟩, hallowed⟩

/-- While some pair is allowed, just the pairs are offered whose most recent write allowed them. -/
theorem offered_iff_of_allowed (h : policy.Recorded)
    (hsome : ∃ other, policy.mostRecent other = some true) :
    Offered (activeEntries ethers env policy) pair ↔ policy.mostRecent pair = some true := by
  obtain ⟨other, hother⟩ := hsome
  obtain ⟨row, hrow, -, hallowed⟩ := (mostRecent_eq_true h).mp hother
  have hlength : 0 < (policy.entries.rows.filter (·.allowed)).length :=
    List.length_pos_of_mem (List.mem_filter.mpr ⟨hrow, hallowed⟩)
  rw [mostRecent_eq_true h]
  simp only [Offered, activeEntries, gt_iff_lt, hlength, if_true, List.mem_map, List.mem_filter]
  constructor
  · rintro ⟨offer, ⟨row, ⟨hrow, hallowed⟩, rfl⟩, hpair, -⟩
    exact ⟨row, hrow, hpair, hallowed⟩
  · rintro ⟨row, hrow, hpair, hallowed⟩
    exact ⟨_, ⟨row, ⟨hrow, hallowed⟩, rfl⟩, hpair, rfl⟩

/-- With no pair allowed, the built-in list is offered. -/
theorem activeEntries_of_none (h : policy.Recorded)
    (hnone : ¬∃ other, policy.mostRecent other = some true) :
    activeEntries ethers env policy = builtInEntries ethers env := by
  have hempty : policy.entries.rows.filter (·.allowed) = [] := by
    rw [List.filter_eq_nil_iff]
    intro row hrow hallowed
    exact hnone ⟨row.pair, (mostRecent_eq_true h).mpr ⟨row, hrow, rfl, hallowed⟩⟩
  simp [activeEntries, hempty]

/-- What is offered once something has been written is what the most recent writes allow. -/
def CallPolicy.FollowsWrites (ethers : Ethers) (env : Environment) (policy : CallPolicy) : Prop :=
  policy.history ≠ [] → ∀ pair, Offered (activeEntries ethers env policy) pair ↔
  policy.mostRecent pair = some true

/-- A revoked pair is on the list with `allowed = false`. -/
def CallPolicy.Withdraws (ethers : Ethers) (env : Environment) (policy : CallPolicy) : Prop :=
  ∀ pair, policy.mostRecent pair = some false →
  ∃ offer ∈ activeEntries ethers env policy, offer.pair = pair ∧ offer.allowed = false

theorem followsWrites_iff (h : policy.Recorded) : policy.FollowsWrites ethers env ↔
    policy.history = [] ∨ (∃ pair, policy.mostRecent pair = some true) ∨
    builtInEntries ethers env = [] := by
  by_cases hwritten : policy.history = []
  · simp [CallPolicy.FollowsWrites, hwritten]
  by_cases hsome : ∃ pair, policy.mostRecent pair = some true
  · refine iff_of_true ?_ (.inr (.inl hsome))
    exact fun _ _ => offered_iff_of_allowed h hsome
  · have hactive : activeEntries ethers env policy = builtInEntries ethers env :=
      activeEntries_of_none h hsome
    simp only [CallPolicy.FollowsWrites, hwritten, hsome, false_or, ne_eq, not_false_eq_true,
      true_imp_iff, hactive]
    constructor
    · intro hoffered
      by_contra hbuiltIn
      obtain ⟨offer, hoffer⟩ := List.exists_mem_of_ne_nil _ hbuiltIn
      have hallowed := allowed_of_builtInEntries hoffer
      exact hsome ⟨offer.pair, (hoffered offer.pair).mp ⟨offer, hoffer, rfl, hallowed⟩⟩
    · intro hbuiltIn pair
      refine iff_of_false ?_ fun hallowed => hsome ⟨pair, hallowed⟩
      rintro ⟨offer, hoffer, -⟩
      rw [hbuiltIn] at hoffer
      cases hoffer

theorem withdraws_iff :
    policy.Withdraws ethers env ↔ ∀ pair, policy.mostRecent pair ≠ some false := by
  constructor
  · intro h pair hrevoked
    obtain ⟨offer, hoffer, -, hwithdrawn⟩ := h pair hrevoked
    rw [allowed_of_activeEntries hoffer] at hwithdrawn
    cases hwithdrawn
  · exact fun h pair hrevoked => absurd hrevoked (h pair)

theorem exists_allowed (hwritten : policy.history ≠ [])
    (hrevoked : ∀ pair, policy.mostRecent pair ≠ some false) :
    ∃ pair, policy.mostRecent pair = some true := by
  obtain ⟨entries, history⟩ := policy
  cases history with
  | nil => exact absurd rfl hwritten
  | cons write history =>
    obtain ⟨written, allowed⟩ := write
    have hlast :
        CallPolicy.mostRecent ⟨entries, (written, allowed) :: history⟩ written = some allowed := by
      rw [mostRecent_cons, if_pos rfl]
    cases allowed with
    | true => exact ⟨written, hlast⟩
    | false => exact absurd hlast (hrevoked written)

end Offers

section Seeding
variable {ethers : Ethers} {env : Environment} {policy : CallPolicy} {pair : Pair}

/-- The pair of an entry that is written by hand, where its contract has an address. -/
def pairOf (ethers : Ethers) (input : UpsertInput) : Option Pair :=
  (ethers.getAddress input.target).map fun target => (target, ethers.selector input.signature)

/-- An entry of the built-in list passes every check of `upsert`, and its signature is kept as it
is. -/
structure Seedable (ethers : Ethers) (input : UpsertInput) : Prop where
  address : (ethers.getAddress input.target).isSome
  signature : isSignature (trim input.signature).toList = true
  label : trim input.label ≠ ""
  unspaced : String.ofList (input.signature.toList.filter fun c => !isWhiteSpace c) =
    input.signature
  allowed : input.allowed = some true

theorem history_upsert (policy : CallPolicy) {input : UpsertInput} (h : Seedable ethers input)
    (admin : Option Admin) :
    ∃ written policy', pairOf ethers input = some written ∧
      upsert ethers policy input admin = .ok policy' ∧
      policy'.history = (written, true) :: policy.history := by
  obtain ⟨target, htarget⟩ := Option.isSome_iff_exists.mp h.address
  let entry : Entry :=
    { label := trim input.label, target := target, signature := input.signature
      selector := ethers.selector input.signature, allowed := true
      updatedBy := Admin.name admin }
  have hok : upsert ethers policy input admin = .ok (policy.write entry) := by
    simp [upsert, htarget, h.signature, h.label, h.unspaced, h.allowed, entry]
  refine ⟨entry.pair, policy.write entry, ?_, hok, rfl⟩
  simp [pairOf, htarget, entry, Entry.pair]

theorem history_upsertAll {admin : Option Admin} {inputs : List UpsertInput}
    (h : ∀ input ∈ inputs, Seedable ethers input) :
    (upsertAll ethers admin inputs policy).2.history =
      ((inputs.filterMap (pairOf ethers)).map (·, true)).reverse ++ policy.history := by
  induction inputs generalizing policy with
  | nil => rfl
  | cons input rest ih =>
    obtain ⟨written, policy', hpair, hok, hhistory⟩ :=
      history_upsert policy (h input List.mem_cons_self) admin
    have hrest : (upsertAll ethers admin rest policy').2.history = _ :=
      ih fun input hinput => h input (List.mem_cons_of_mem _ hinput)
    rw [upsertAll, hok]
    simp only [hrest, hhistory, List.filterMap_cons, hpair, List.map_cons, List.reverse_cons,
      List.append_assoc, List.singleton_append]

theorem seedable_inputsOf {contract : Option String} {entries : List (String × String)}
    (hentries : ∀ entry ∈ entries, isSignature (trim entry.2).toList = true ∧ trim entry.1 ≠ "" ∧
      String.ofList (entry.2.toList.filter fun c => !isWhiteSpace c) = entry.2) :
    ∀ input ∈ inputsOf ethers contract entries, Seedable ethers input := by
  intro input hinput
  unfold inputsOf at hinput
  split at hinput
  next target =>
    split at hinput
    next haddress =>
      obtain ⟨⟨label, signature⟩, hentry, rfl⟩ := List.mem_map.mp hinput
      obtain ⟨hsignature, hlabel, hunspaced⟩ := hentries _ hentry
      exact ⟨haddress, hsignature, hlabel, hunspaced, rfl⟩
    · cases hinput
  · cases hinput

theorem spEntries_wellFormed :
    ∀ entry ∈ spEntries, isSignature (trim entry.2).toList = true ∧ trim entry.1 ≠ "" ∧
    String.ofList (entry.2.toList.filter fun c => !isWhiteSpace c) = entry.2 := by
  decide +kernel

theorem poolEntries_wellFormed :
    ∀ entry ∈ poolEntries, isSignature (trim entry.2).toList = true ∧ trim entry.1 ≠ "" ∧
    String.ofList (entry.2.toList.filter fun c => !isWhiteSpace c) = entry.2 := by
  decide +kernel

/-- The two hand-written lists have the same functions. -/
theorem spEntries_signatures : spEntries.map Prod.snd = spSignatures := rfl

theorem poolEntries_signatures : poolEntries.map Prod.snd = poolSignatures := rfl

/-- The contract of an offer in the form in which `upsert` stores it, with the selector. -/
def Offer.storedPair (ethers : Ethers) (offer : Offer) : Option Pair :=
  (ethers.getAddress offer.target).map (·, offer.selector)

theorem pairs_inputsOf (contract : Option String) (entries : List (String × String)) :
    (inputsOf ethers contract entries).filterMap (pairOf ethers) =
      (offersOf ethers contract (entries.map Prod.snd)).filterMap (Offer.storedPair ethers) := by
  cases contract with
  | none => rfl
  | some target =>
    by_cases haddress : ethers.isAddress target
    · simp only [inputsOf, offersOf, haddress, if_true, List.filterMap_map, List.map_map,
        Function.comp_def]
      rfl
    · simp [inputsOf, offersOf, haddress]

/-- What a seeding of the empty table writes: the pairs of the built-in list. -/
theorem history_seeded (admin : Option Admin) :
    (after ethers env [.seedFromBuiltIn admin]).history =
    (((builtInEntries ethers env).filterMap (Offer.storedPair ethers)).map (·, true)).reverse := by
  show (seedFromBuiltIn ethers env empty admin).2.history = _
  rw [seedFromBuiltIn_snd, history_upsertAll, List.filterMap_append, pairs_inputsOf, pairs_inputsOf,
    spEntries_signatures,
    poolEntries_signatures, ← List.filterMap_append]
  · exact List.append_nil _
  · intro input hinput
    rcases List.mem_append.mp hinput with hinput | hinput
    · exact seedable_inputsOf spEntries_wellFormed input hinput
    · exact seedable_inputsOf poolEntries_wellFormed input hinput

theorem isSome_storedPair {offer : Offer} (h : offer ∈ builtInEntries ethers env) :
    (offer.storedPair ethers).isSome := by
  have hoffers : ∀ contract signatures, offer ∈ offersOf ethers contract signatures →
      (offer.storedPair ethers).isSome := by
    intro contract signatures hmem
    unfold offersOf at hmem
    split at hmem
    next target =>
      split at hmem
      next haddress =>
        obtain ⟨sig, _, rfl⟩ := List.mem_map.mp hmem
        simpa [Offer.storedPair, Ethers.isAddress] using haddress
      · cases hmem
    · cases hmem
  rcases List.mem_append.mp h with h | h <;> exact hoffers _ _ h

/-- With allowing writes only, a pair is allowed if it was written. -/
theorem mostRecent_of_allowing (h : ∀ write ∈ policy.history, write.2 = true) :
    policy.mostRecent pair = if ∃ write ∈ policy.history, write.1 = pair then some true
      else none := by
  unfold CallPolicy.mostRecent
  split
  next hwritten =>
    obtain ⟨write, hwrite, hpair⟩ := hwritten
    have hsome : (policy.history.find? fun write => write.1 = pair).isSome :=
      List.find?_isSome.mpr ⟨write, hwrite, by simp [hpair]⟩
    obtain ⟨found, hfound⟩ := Option.isSome_iff_exists.mp hsome
    rw [hfound, Option.map_some, h found (List.mem_of_find?_eq_some hfound)]
  next hwritten =>
    rw [Option.map_eq_none_iff, List.find?_eq_none]
    exact fun write hwrite hpair => hwritten ⟨write, hwrite, by simpa using hpair⟩

/-- Right after a seeding of the empty table the same pairs are allowed as by the built-in list. -/
theorem offered_seeded (admin : Option Admin) (pair : Pair) :
    Offered (activeEntries ethers env (after ethers env [.seedFromBuiltIn admin])) pair ↔
      ∃ offer ∈ builtInEntries ethers env, offer.storedPair ethers = some pair ∧
        offer.allowed = true := by
  have hhistory : (after ethers env [.seedFromBuiltIn admin]).history = _ := history_seeded admin
  have hrecorded : (after ethers env [.seedFromBuiltIn admin]).Recorded := recorded_after _
  have hwritten : (∃ write ∈ (after ethers env [.seedFromBuiltIn admin]).history, write.1 = pair) ↔
      ∃ offer ∈ builtInEntries ethers env, offer.storedPair ethers = some pair := by
    obtain ⟨target, selector⟩ := pair
    simp [hhistory]
  have hallowing :
      ∀ write ∈ (after ethers env [.seedFromBuiltIn admin]).history, write.2 = true := by
    simp [hhistory]
  have hmost : (after ethers env [.seedFromBuiltIn admin]).mostRecent pair = some true ↔
      ∃ offer ∈ builtInEntries ethers env, offer.storedPair ethers = some pair := by
    rw [mostRecent_of_allowing hallowing, ← hwritten]
    split <;> simp_all
  have hbuiltIn :
      (∃ offer ∈ builtInEntries ethers env, offer.storedPair ethers = some pair ∧
        offer.allowed = true) ↔
      ∃ offer ∈ builtInEntries ethers env, offer.storedPair ethers = some pair := by
    refine exists_congr fun offer => and_congr_right fun hoffer => ?_
    exact and_iff_left (allowed_of_builtInEntries hoffer)
  rw [hbuiltIn, ← hmost]
  by_cases hempty : (after ethers env [.seedFromBuiltIn admin]).history = []
  · have hnone :
      ¬∃ other, (after ethers env [.seedFromBuiltIn admin]).mostRecent other = some true := by
      simp [CallPolicy.mostRecent, hempty]
    have hnothing : builtInEntries ethers env = [] := by
      rw [List.eq_nil_iff_forall_not_mem]
      intro offer hoffer
      obtain ⟨stored, hstored⟩ := Option.isSome_iff_exists.mp (isSome_storedPair hoffer)
      rw [hhistory, List.reverse_eq_nil_iff, List.map_eq_nil_iff,
        List.filterMap_eq_nil_iff] at hempty
      rw [hempty offer hoffer] at hstored
      cases hstored
    rw [activeEntries_of_none hrecorded hnone, hnothing]
    refine iff_of_false ?_ fun hmem => hnone ⟨pair, hmem⟩
    rintro ⟨offer, hoffer, -⟩
    cases hoffer
  · refine offered_iff_of_allowed hrecorded (exists_allowed hempty fun other => ?_)
    rw [mostRecent_of_allowing hallowing]
    split <;> simp

end Seeding

section Results
variable (ethers : Ethers) (env : Environment)

/-- For every sequence of calls: what is offered follows the writes and revoked pairs are withdrawn
if and only if no pair stands revoked; the offers alone follow the writes unless every written pair
stands revoked and there is a built-in list; and a seeding of the empty table allows what the
built-in list does. -/
theorem call_policy_follows_writes_iff (calls : List Call) :
    ((after ethers env calls).FollowsWrites ethers env ∧
      (after ethers env calls).Withdraws ethers env ↔
        ∀ pair, (after ethers env calls).mostRecent pair ≠ some false) ∧
      ((after ethers env calls).FollowsWrites ethers env ↔ (after ethers env calls).history = [] ∨
        (∃ pair, (after ethers env calls).mostRecent pair = some true) ∨
        builtInEntries ethers env = []) ∧
      ∀ (admin : Option Admin) (pair : Pair), Offered
        (activeEntries ethers env (after ethers env [.seedFromBuiltIn admin])) pair ↔
        ∃ offer ∈ builtInEntries ethers env, offer.storedPair ethers = some pair ∧
          offer.allowed = true := by
  have hrecorded : (after ethers env calls).Recorded := recorded_after calls
  refine ⟨?_, followsWrites_iff hrecorded, offered_seeded⟩
  constructor
  · exact fun h => withdraws_iff.mp h.2
  · intro hrevoked
    refine ⟨(followsWrites_iff hrecorded).mpr ?_, withdraws_iff.mpr hrevoked⟩
    by_cases hwritten : (after ethers env calls).history = []
    · exact .inl hwritten
    · exact .inr (.inl (exists_allowed hwritten hrevoked))

end Results

end VeriAgentPay.CallPolicies

namespace VeriAgentPay.Devnet
open CallPolicies

/-- Addresses are what starts with 0x, and a function has itself for its hash. -/
def policyEthers : Ethers where
  getAddress text := if text.startsWith "0x" then some text else none
  id signature := signature

def policyEnvironment : Environment := ⟨none, none, some "0xPool", none⟩

/-- The only function on the list is permitted, and then revoked. -/
def depositRevoked : List CallPolicies.Call :=
  [.upsert ⟨"GroupLendingPool.deposit", "0xPool", "deposit(uint256,uint256)", none⟩ none,
    .revoke 0 none]

/-- The revoked function is offered again, and is not withdrawn. -/
theorem revoked_pair_offered :
    ¬((after policyEthers policyEnvironment depositRevoked).FollowsWrites policyEthers
      policyEnvironment ∧
      (after policyEthers policyEnvironment depositRevoked).Withdraws policyEthers
        policyEnvironment) ∧
    Offered (activeEntries policyEthers policyEnvironment
      (after policyEthers policyEnvironment depositRevoked)) ("0xPool", "deposit(ui") ∧
    (after policyEthers policyEnvironment depositRevoked).mostRecent ("0xPool", "deposit(ui") =
      some false := by
  have hrevoked : (after policyEthers policyEnvironment depositRevoked).mostRecent
      ("0xPool", "deposit(ui") = some false := by
    decide +kernel
  refine ⟨fun h => withdraws_iff.mp h.2 _ hrevoked, ⟨⟨"0xPool", "deposit(ui", true⟩, ?_, rfl,
    rfl⟩, hrevoked⟩
  decide +kernel

end VeriAgentPay.Devnet
