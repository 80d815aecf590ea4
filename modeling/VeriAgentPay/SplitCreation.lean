import Mathlib.Algebra.Order.BigOperators.Group.List
import Mathlib.Data.List.Find
import Mathlib.Data.Rat.Lemmas
import VeriAgentPay.SplitPayments

/-!
# Creation of a split bill

The shares of a split are computed when it is created, and converted to base units one by one when
they are paid.
-/

namespace VeriAgentPay.SplitPayments
open Backend (Failure)
open CheckedOutcome (require orError)

section Conversion

/-- `parseUnits(amount.toString(), decimals)`: the decimals have to fit, and the text has no
exponent. -/
def parseUnits (amount : ℚ) (decimals : ℕ) : Option ℤ :=
  if (amount = 0 ∨ 1 / 10 ^ 6 ≤ |amount| ∧ |amount| < 10 ^ 21) ∧
    (amount * 10 ^ decimals).den = 1 then
    some (amount * 10 ^ decimals).num
  else none

structure TokenInfo where
  address : String
  decimals : ℕ
  deriving DecidableEq

/-- The amount of a participant's transfer, `decimals || 6`. -/
def amountWei (tokenInfo : TokenInfo) (participant : SplitParticipant) : Option ℤ :=
  parseUnits participant.shareAmount (if tokenInfo.decimals = 0 then 6 else tokenInfo.decimals)

variable {amount : ℚ} {decimals : ℕ} {units : ℤ}

theorem parseUnits_eq_some : parseUnits amount decimals = some units ↔
    (amount = 0 ∨ 1 / 10 ^ 6 ≤ |amount| ∧ |amount| < 10 ^ 21) ∧ amount * 10 ^ decimals = units := by
  unfold parseUnits
  constructor
  · intro h
    split_ifs at h with hfits
    obtain rfl := Option.some.inj h
    exact ⟨hfits.1, ((Rat.den_eq_one_iff _).mp hfits.2).symm⟩
  · rintro ⟨htext, hwhole⟩
    rw [hwhole, if_pos ⟨htext, Rat.den_intCast units⟩, Rat.num_intCast]

theorem parseUnits_of_pos (hpositive : 0 < amount) : parseUnits amount decimals = some units ↔
    1 / 10 ^ 6 ≤ amount ∧ amount < 10 ^ 21 ∧ amount * 10 ^ decimals = units := by
  rw [parseUnits_eq_some, abs_of_pos hpositive, and_assoc.symm]
  simp [hpositive.ne']

end Conversion

section Creation

structure CreateSplitDto where
  token : String
  totalAmount : ℚ
  participants : List String
  customAmounts : Option (List ℚ)
  deriving DecidableEq

/-- "Calculate shares". -/
def calculateShares (dto : CreateSplitDto) : Except Failure (List ℚ) :=
  let customAmounts := dto.customAmounts.getD []
  if customAmounts.length > 0 then do
    require (customAmounts.length = dto.participants.length)
      (.badRequest "Custom amounts must match participants count")
    require (¬|customAmounts.sum - dto.totalAmount| > 1 / 100)
      (.badRequest "Sum of custom amounts must equal total amount")
    pure customAmounts
  else
    -- "Equal split".
    let sharePerPerson := dto.totalAmount / dto.participants.length
    pure (List.replicate dto.participants.length sharePerPerson)

/-- What a creation takes from outside: the users that identifiers are resolved to, the rows' ids
and the time. -/
structure Surroundings where
  resolveUser : String → Bool → Option String
  toUpperCase : String → String
  uuid : ℕ → String
  now : ℤ

structure CreatedSplit where
  split : BillSplit
  participants : List SplitParticipant
  deriving DecidableEq

/-- "Resolve participant userIds if existing users". -/
def participantData (d : Surroundings) (shareAmounts : List ℚ) (participants : List String) :
    List SplitParticipant :=
  (participants.zip shareAmounts).mapIdx fun index participant =>
    { id := d.uuid index
      userId := d.resolveUser participant.1 false
      userIdentifier := participant.1
      shareAmount := participant.2
      hasPaid := false
      paidAt := none
      txHash := none }

def createSplit (d : Surroundings) (creatorIdentifier : String) (dto : CreateSplitDto) :
    Except Failure CreatedSplit := do
  let creatorId ← orError (d.resolveUser creatorIdentifier true)
    (.badRequest "Creator user not found")
  require (dto.participants.length ≠ 0) (.badRequest "At least one participant is required")
  require (¬dto.totalAmount ≤ 0) (.badRequest "Total amount must be greater than 0")
  require dto.participants.Nodup (.badRequest "Duplicate participants are not allowed")
  let shareAmounts ← calculateShares dto
  pure
    { split :=
        { creatorId := creatorId
          token := d.toUpperCase dto.token
          totalAmount := dto.totalAmount
          status := .pending
          amountCollected := 0
          -- "Set deadline to 7 days from now".
          deadline := some (d.now + 7 * 86400000) }
      participants := participantData d shareAmounts dto.participants }

variable {d : Surroundings} {creatorIdentifier : String} {dto : CreateSplitDto}
  {created : CreatedSplit} {shares : List ℚ}

/-- Whether `paySplit` takes a user for the participant of an identifier. -/
def Surroundings.standsFor (d : Surroundings) (payer : Payer) (identifier : String) : Bool :=
  d.resolveUser identifier false = some payer.id ∨ identifier ∈ payer.identifiers

theorem participantData_shares {participants : List String}
    (h : shares.length = participants.length) :
    (participantData d shares participants).map SplitParticipant.shareAmount = shares := by
  have hshares : (participantData d shares participants).map SplitParticipant.shareAmount =
      (participants.zip shares).map Prod.snd := by
    apply List.ext_getElem
    · simp [participantData]
    · intro i hi hi'
      simp [participantData]
  rw [hshares, List.map_snd_zip h.le]

theorem participantData_identifiers {participants : List String}
    (h : shares.length = participants.length) :
    (participantData d shares participants).map SplitParticipant.userIdentifier = participants := by
  have hidentifiers : (participantData d shares participants).map SplitParticipant.userIdentifier =
      (participants.zip shares).map Prod.fst := by
    apply List.ext_getElem
    · simp [participantData]
    · intro i hi hi'
      simp [participantData]
  rw [hidentifiers, List.map_fst_zip h.ge]

theorem isOf_participantData {participants : List String} {row : SplitParticipant}
    (hrow : row ∈ participantData d shares participants) (payer : Payer) :
    row.isOf payer = d.standsFor payer row.userIdentifier := by
  obtain ⟨index, hindex, rfl⟩ := List.mem_mapIdx.mp hrow
  rfl

/-- The row that a payer is taken for is that of the first identifier that stands for the payer. -/
theorem find_participantData {participants : List String} (h : shares.length = participants.length)
    (hdistinct : participants.Nodup) {row : SplitParticipant}
    (hrow : row ∈ participantData d shares participants) (payer : Payer) :
    (participantData d shares participants).find? (·.isOf payer) = some row ↔
      participants.find? (d.standsFor payer) = some row.userIdentifier := by
  have hidentifiers := participantData_identifiers (d := d) h
  have hsame : (participantData d shares participants).find? (·.isOf payer) =
      (participantData d shares participants).find?
        (d.standsFor payer ∘ SplitParticipant.userIdentifier) :=
    List.find?_congr fun row hrow => isOf_participantData hrow payer
  have hfind : participants.find? (d.standsFor payer) =
      ((participantData d shares participants).find? (·.isOf payer)).map
        SplitParticipant.userIdentifier := by
    rw [hsame, ← List.find?_map, hidentifiers]
  rw [hfind]
  constructor
  · intro hfound
    rw [hfound]
    rfl
  · intro hfound
    obtain ⟨found, hfound, hidentifier⟩ := Option.map_eq_some_iff.mp hfound
    have hmem := List.mem_of_find?_eq_some hfound
    rw [hfound, List.inj_on_of_nodup_map (hidentifiers.symm ▸ hdistinct) hmem hrow hidentifier]

theorem calculateShares_eq_ok (h : calculateShares dto = .ok shares) :
    shares.length = dto.participants.length ∧
    shares = if dto.customAmounts.getD [] = [] then
        List.replicate dto.participants.length (dto.totalAmount / dto.participants.length)
      else dto.customAmounts.getD [] := by
  unfold calculateShares at h
  by_cases hcustom : dto.customAmounts.getD [] = []
  · simp only [hcustom, List.length_nil, gt_iff_lt, lt_irrefl, if_false,
      CheckedOutcome.pure_eq_ok] at h
    rw [if_pos hcustom, ← h]
    exact ⟨List.length_replicate, rfl⟩
  · simp only [gt_iff_lt, List.length_pos_iff.mpr hcustom, if_true, CheckedOutcome.bind_eq_ok,
      CheckedOutcome.require_eq_ok,
      CheckedOutcome.exists_unit, CheckedOutcome.pure_eq_ok] at h
    obtain ⟨hlength, -, rfl⟩ := h
    exact ⟨hlength, by rw [if_neg hcustom]⟩

theorem createSplit_eq_ok (h : createSplit d creatorIdentifier dto = .ok created) :
    dto.participants.length ≠ 0 ∧ 0 < dto.totalAmount ∧
    created.split.totalAmount = dto.totalAmount ∧
      calculateShares dto = .ok (created.participants.map SplitParticipant.shareAmount) ∧
      dto.participants.Nodup ∧
        d.resolveUser creatorIdentifier true = some created.split.creatorId ∧
          ∃ shares : List ℚ, shares.length = dto.participants.length ∧
            created.participants = participantData d shares dto.participants := by
  unfold createSplit at h
  simp only [CheckedOutcome.bind_eq_ok, CheckedOutcome.require_eq_ok, CheckedOutcome.exists_unit,
    CheckedOutcome.pure_eq_ok, CheckedOutcome.orError_eq_ok] at h
  obtain ⟨creatorId, hcreator, hsome, htotal, hdistinct, shares, hshares, rfl⟩ := h
  have hlength := (calculateShares_eq_ok hshares).1
  refine ⟨hsome, not_le.mp htotal, rfl, ?_, hdistinct, hcreator, shares, hlength, rfl⟩
  rw [participantData_shares hlength]
  exact hshares

end Creation

section Completion

/-- Every share can be converted when it is paid, the shares that are then collected make up the
total, and every participant is somebody who may pay. -/
structure PaidOffExactly (users : List Payer) (tokenInfo : TokenInfo) (created : CreatedSplit) :
    Prop where
  positive : ∀ row ∈ created.participants, 0 < row.shareAmount
  collected : ∃ (units : SplitParticipant → ℤ) (total : ℤ),
    (∀ row ∈ created.participants, amountWei tokenInfo row = some (units row)) ∧
    parseUnits created.split.totalAmount (if tokenInfo.decimals = 0 then 6
      else tokenInfo.decimals) = some total ∧
    (created.participants.map units).sum = total
  payers : ∀ row ∈ created.participants, ∃ payer ∈ users, payer.smartWallet.isSome ∧
    payer.id ≠ created.split.creatorId ∧
    created.participants.find? (·.isOf payer) = some row

/-- An amount that is a whole number of base units, and not less than the smallest number that is
written without an exponent. -/
def Payable (decimals : ℕ) (amount : ℚ) : Prop :=
  1 / 10 ^ 6 ≤ amount ∧ ∃ units : ℤ, amount * 10 ^ decimals = units

/-- The total is divided without a remainder, or the custom amounts are payable and make up the
total. -/
def CreateSplitDto.Divides (decimals : ℕ) (dto : CreateSplitDto) : Prop :=
  dto.totalAmount < 10 ^ 21 ∧
    if dto.customAmounts.getD [] = [] then
      dto.participants.length / 10 ^ 6 ≤ dto.totalAmount ∧
        ∃ units : ℤ, dto.totalAmount * 10 ^ decimals = units * dto.participants.length
    else (dto.customAmounts.getD []).sum = dto.totalAmount ∧
    ∀ amount ∈ dto.customAmounts.getD [], Payable decimals amount

/-- For every participant there is a user with a wallet, who is not the creator and for whom no
earlier identifier stands. -/
def CreateSplitDto.HasPayers (d : Surroundings) (users : List Payer) (creatorIdentifier : String)
    (dto : CreateSplitDto) : Prop :=
  ∀ identifier ∈ dto.participants, ∃ payer ∈ users, payer.smartWallet.isSome ∧
    d.resolveUser creatorIdentifier true ≠ some payer.id ∧
    dto.participants.find? (d.standsFor payer) = some identifier

variable {tokenInfo : TokenInfo} {users : List Payer} {created : CreatedSplit} {decimals : ℕ}
  {shares : List ℚ} {amount total : ℚ}

theorem Payable.pos (h : Payable decimals amount) : 0 < amount := lt_of_lt_of_le (by norm_num) h.1

theorem sum_units {rows : List SplitParticipant} {units : SplitParticipant → ℤ}
    (h : ∀ row ∈ rows, row.shareAmount * 10 ^ decimals = units row) :
    (rows.map SplitParticipant.shareAmount).sum * 10 ^ decimals = ((rows.map units).sum : ℤ) := by
  induction rows with
  | nil => simp
  | cons row rows ih =>
    have hrow := h row (List.mem_cons_self ..)
    have hrows := ih fun row' h' => h row' (List.mem_cons_of_mem _ h')
    simp only [List.map_cons, List.sum_cons, add_mul, hrow, hrows]
    push_cast
    rfl

/-- The sum of payable shares is payable. -/
theorem payable_sum (hsome : shares ≠ []) (h : ∀ share ∈ shares, Payable decimals share) :
    Payable decimals shares.sum := by
  induction shares with
  | nil => exact absurd rfl hsome
  | cons share shares ih =>
    have hshare := h share (List.mem_cons_self ..)
    by_cases hrest : shares = []
    · simpa [hrest] using hshare
    · obtain ⟨hsmall, units, hunits⟩ :=
        ih hrest fun share' h' => h share' (List.mem_cons_of_mem _ h')
      obtain ⟨hsmall', units', hunits'⟩ := hshare
      refine ⟨?_, units' + units, ?_⟩
      · rw [List.sum_cons]
        linarith
      · rw [List.sum_cons, add_mul, hunits, hunits']
        push_cast
        rfl

theorem share_le_sum (h : ∀ share ∈ shares, Payable decimals share) {share : ℚ}
    (hshare : share ∈ shares) :
    share ≤ shares.sum :=
  List.single_le_sum (fun share' h' => (h share' h').pos.le) share hshare

/-- A split is paid off exactly when its shares are payable and make up its total, and there is a
payer for each. -/
theorem paidOffExactly_iff (hsome : created.participants ≠ [])
    (hpositive : 0 < created.split.totalAmount)
    (hdecimals : decimals = if tokenInfo.decimals = 0 then 6 else tokenInfo.decimals)
    (hshares : shares = created.participants.map SplitParticipant.shareAmount) :
    PaidOffExactly users tokenInfo created ↔
    (created.split.totalAmount < 10 ^ 21 ∧ shares.sum = created.split.totalAmount ∧
      ∀ share ∈ shares, Payable decimals share) ∧ ∀ row ∈ created.participants, ∃ payer ∈ users,
        payer.smartWallet.isSome ∧
        payer.id ≠ created.split.creatorId ∧
        created.participants.find? (·.isOf payer) = some row := by
  subst hshares
  constructor
  · rintro ⟨hshare, ⟨units, total, hunits, htotal, hsum⟩, hpayers⟩
    rw [← hdecimals, parseUnits_of_pos hpositive] at htotal
    have hrow : ∀ row ∈ created.participants, 1 / 10 ^ 6 ≤ row.shareAmount ∧
        row.shareAmount < 10 ^ 21 ∧
        row.shareAmount * 10 ^ decimals = units row := by
      intro row hmem
      rw [← parseUnits_of_pos (hshare row hmem), hdecimals]
      exact hunits row hmem
    refine ⟨⟨htotal.2.1, ?_, ?_⟩, hpayers⟩
    · have hconverted := sum_units fun row hmem => (hrow row hmem).2.2
      rw [hsum, ← htotal.2.2] at hconverted
      exact mul_right_cancel₀ (by positivity) hconverted
    · intro share hmem
      obtain ⟨row, hrow', rfl⟩ := List.mem_map.mp hmem
      exact ⟨(hrow row hrow').1, units row, (hrow row hrow').2.2⟩
  · rintro ⟨⟨hbound, hsum, hpayable⟩, hpayers⟩
    have hrow : ∀ row ∈ created.participants, Payable decimals row.shareAmount :=
      fun row hmem => hpayable _ (List.mem_map_of_mem hmem)
    obtain ⟨hsmall, total, htotal⟩ := payable_sum (by simpa using hsome) hpayable
    rw [hsum] at hsmall htotal
    -- The units are those that the text of the share is converted to.
    let units : SplitParticipant → ℤ := fun row => (row.shareAmount * 10 ^ decimals).num
    have hunits : ∀ row ∈ created.participants, row.shareAmount * 10 ^ decimals = units row := by
      intro row hmem
      obtain ⟨-, n, hn⟩ := hrow row hmem
      simp only [units, hn, Rat.num_intCast]
    refine ⟨fun row hmem => (hrow row hmem).pos, ⟨units, total, ?_, ?_, ?_⟩, hpayers⟩
    · intro row hmem
      have hle := share_le_sum hpayable (List.mem_map_of_mem hmem)
      rw [amountWei, ← hdecimals, parseUnits_of_pos (hrow row hmem).pos]
      exact ⟨(hrow row hmem).1, lt_of_le_of_lt (hsum ▸ hle) hbound, hunits row hmem⟩
    · rw [← hdecimals, parseUnits_of_pos hpositive]
      exact ⟨hsmall, hbound, htotal⟩
    · have hconverted := sum_units hunits
      rw [hsum, htotal] at hconverted
      exact_mod_cast hconverted.symm

/-- Equal shares make up the total, so only their digits can be in the way. -/
theorem equal_shares_iff {count : ℕ} (hcount : count ≠ 0) :
    ((List.replicate count (total / count)).sum = total ∧
      ∀ share ∈ List.replicate count (total / count), Payable decimals share) ↔
      count / 10 ^ 6 ≤ total ∧ ∃ units : ℤ, total * 10 ^ decimals = units * count := by
  have hpositive : (0 : ℚ) < count := by exact_mod_cast Nat.pos_of_ne_zero hcount
  have hsum : (List.replicate count (total / count)).sum = total := by
    rw [List.sum_replicate, nsmul_eq_mul, mul_div_cancel₀ _ hpositive.ne']
  have hsmall : 1 / 10 ^ 6 ≤ total / count ↔ count / 10 ^ 6 ≤ total := by
    rw [le_div_iff₀ hpositive, one_div_mul_eq_div]
  have hwhole : ∀ units : ℤ, total / count * 10 ^ decimals = units ↔ total * 10 ^ decimals = units *
      count := by
    intro units
    rw [div_mul_eq_mul_div, div_eq_iff hpositive.ne']
  simp only [hsum, true_and, List.mem_replicate, Payable, ← hsmall, ← hwhole]
  exact ⟨fun h => h _ ⟨hcount, rfl⟩, fun h share hshare => hshare.2 ▸ h⟩

/-- The rows have payers when the identifiers have. -/
theorem hasPayers_iff {creatorIdentifier : String} {dto : CreateSplitDto} {d : Surroundings}
    (hdistinct : dto.participants.Nodup)
    (hcreator : d.resolveUser creatorIdentifier true = some created.split.creatorId)
    (hlength : shares.length = dto.participants.length)
    (hrows : created.participants = participantData d shares dto.participants) :
    (∀ row ∈ created.participants, ∃ payer ∈ users, payer.smartWallet.isSome ∧
      payer.id ≠ created.split.creatorId ∧
      created.participants.find? (·.isOf payer) = some row) ↔
      dto.HasPayers d users creatorIdentifier := by
  have hother : ∀ payer : Payer, d.resolveUser creatorIdentifier true ≠ some payer.id ↔
      payer.id ≠ created.split.creatorId := by
    intro payer
    rw [hcreator, ne_eq, Option.some_inj, eq_comm]
  have hidentifiers := participantData_identifiers (d := d) hlength
  rw [hrows]
  constructor
  · intro hpayers identifier hmem
    rw [← hidentifiers] at hmem
    obtain ⟨row, hrow, rfl⟩ := List.mem_map.mp hmem
    obtain ⟨payer, hpayer, hwallet, hnot, hfind⟩ := hpayers row hrow
    exact ⟨payer, hpayer, hwallet, (hother payer).mpr hnot,
      (find_participantData hlength hdistinct hrow payer).mp hfind⟩
  · intro hpayers row hrow
    have hmem : row.userIdentifier ∈ dto.participants := hidentifiers ▸ List.mem_map_of_mem hrow
    obtain ⟨payer, hpayer, hwallet, hnot, hfind⟩ := hpayers row.userIdentifier hmem
    exact ⟨payer, hpayer, hwallet, (hother payer).mp hnot,
      (find_participantData hlength hdistinct hrow payer).mpr hfind⟩

/-- A split that was created can be paid off exactly when its total is divided without a remainder
and every participant is somebody else who may pay. -/
theorem createSplit_paidOffExactly_iff (d : Surroundings) (users : List Payer)
    (creatorIdentifier : String) (dto : CreateSplitDto) (tokenInfo : TokenInfo)
    (created : CreatedSplit) (h : createSplit d creatorIdentifier dto = .ok created) :
    PaidOffExactly users tokenInfo created ↔
    dto.Divides (if tokenInfo.decimals = 0 then 6 else tokenInfo.decimals) ∧
      dto.HasPayers d users creatorIdentifier := by
  obtain ⟨hsome, hpositive, htotal, hshares, hdistinct, hcreator, shareAmounts, hcount, hdata⟩ :=
    createSplit_eq_ok h
  obtain ⟨hlength, hcases⟩ := calculateShares_eq_ok hshares
  have hrows : created.participants ≠ [] := by
    rintro hnil
    rw [hnil] at hlength
    exact hsome hlength.symm
  rw [paidOffExactly_iff hrows (htotal ▸ hpositive) rfl rfl,
    hasPayers_iff hdistinct hcreator hcount hdata, htotal, hcases,
    CreateSplitDto.Divides]
  by_cases hcustom : dto.customAmounts.getD [] = []
  · simp only [if_pos hcustom, equal_shares_iff hsome]
  · simp only [if_neg hcustom]

end Completion

end VeriAgentPay.SplitPayments

namespace VeriAgentPay.Devnet
open SplitPayments

def guests : Surroundings where
  resolveUser identifier _ := if identifier = "ann" then some "u-ann" else none
  toUpperCase := String.toUpper
  uuid index := "row-" ++ toString index
  now := 0

def usdc : TokenInfo := ⟨"EPjF", 6⟩

/-- Three people share a bill of 10. -/
def dinner : CreateSplitDto := ⟨"usdc", 10, ["ben", "dan", "eve"], none⟩

def sixtyCents : CreateSplitDto := ⟨"usdc", 3 / 5, ["ben", "dan", "eve"], none⟩

/-- Ben, Dan and Eve have wallets. -/
def diners : List Payer :=
  ["ben", "dan", "eve"].map fun name => ⟨"u-" ++ name, some ("0x" ++ name), [name]⟩

theorem dinner_unpayable :
    ∃ created, createSplit guests "ann" dinner = .ok created ∧
      ¬PaidOffExactly diners usdc created := by
  refine ⟨_, rfl, ?_⟩
  rintro ⟨-, ⟨units, total, hunits, -⟩, -⟩
  have hben := hunits _ (List.mem_cons_self ..)
  have hnone : parseUnits (dinner.totalAmount / dinner.participants.length) 6 = none := by
    decide +kernel
  exact absurd (hnone.symm.trans hben) nofun

theorem sixtyCents_divides : sixtyCents.Divides 6 := by
  refine ⟨by norm_num [sixtyCents], ?_⟩
  rw [if_pos (show sixtyCents.customAmounts.getD [] = [] from rfl)]
  refine ⟨by norm_num [sixtyCents], 200000, ?_⟩
  norm_num [sixtyCents]

theorem sixtyCents_hasPayers : sixtyCents.HasPayers guests diners "ann" := by
  unfold CreateSplitDto.HasPayers
  decide +kernel

theorem createSplit_paidOffExactly_iff_devnet :
    ∃ created, createSplit guests "ann" sixtyCents = .ok created ∧
    PaidOffExactly diners usdc created := by
  obtain ⟨created, h⟩ :=
    CheckedOutcome.eq_ok_of_toBool (x := createSplit guests "ann" sixtyCents) (by decide +kernel)
  exact ⟨created, h,
    (createSplit_paidOffExactly_iff guests diners "ann" sixtyCents usdc created h).mpr
    ⟨sixtyCents_divides, sixtyCents_hasPayers⟩⟩

end VeriAgentPay.Devnet
