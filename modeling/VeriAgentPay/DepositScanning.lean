import VeriAgentPay.BackendStore
import VeriAgentPay.KeyedTables
import VeriAgentPay.ProgramCustody

/-!
# The scan for deposits

A scanner reads the logs of the blocks behind a cursor, records the transfers to the vaults among
them, and moves the cursor. Any number of scanners run side by side on one cursor. The vaults are
known by the texts of their addresses, and a text that is the address of no account stops a scan.
-/

namespace VeriAgentPay.DepositScanning
open InterleavedPrograms KeyedTables
open InterleavedPrograms.Fallible (checked dropResult forEach ignoringFailure)
open Backend (Failure outage)

section Tables

/-- An account of the chain that is scanned. -/
abbrev Account := BitVec 160

structure Log where
  address : Account
  topics : List (BitVec 256)
  data : List UInt8
  blockNumber : ℕ
  blockHash : String
  transactionHash : String
  index : ℕ
  deriving DecidableEq

def Log.key (log : Log) : String × ℕ := (log.transactionHash, log.index)

/-- A row of the table `SmartWallet`; the address is text, and need not be that of an account. -/
structure SmartWallet where
  address : String
  userId : String
  deriving DecidableEq

structure TokenInfo where
  symbol : String
  decimals : ℕ

/-- A row of the table `Deposit`. -/
structure Deposit where
  userId : String
  toAddress : String
  fromAddress : String
  tokenAddress : String
  tokenSymbol : Option String
  amountRaw : ℕ
  amount : Option ℚ
  decimals : Option ℕ
  txHash : String
  logIndex : ℕ
  blockNumber : ℕ
  blockHash : String
  occurredAt : ℤ
  recognized : Bool
  deriving DecidableEq

def Deposit.key (row : Deposit) : String × ℕ := (row.txHash, row.logIndex)

/-- The tables, and the number of the last block that is final. Of the history: where the cursor
began, for every block the vaults that have been in the table since it became final, what the table
of vaults has ever held, the deposits that were announced to their users, and the logs of which the
processing has failed. -/
structure Tables where
  head : ℕ
  wallets : Keyed SmartWallet.address
  cursor : Option ℕ
  deposits : Keyed Deposit.key
  start : ℕ
  steady : ℕ → List String
  versions : List (List String)
  credited : List (String × ℕ)
  failed : List (String × ℕ)

def addresses (wallets : Keyed SmartWallet.address) : List String :=
  wallets.rows.map SmartWallet.address

/-- `keccak256("Transfer(address,address,uint256)")`. -/
def TRANSFER_TOPIC : BitVec 256 :=
  0xddf252ad1be2c89b69c2b068fc378daa952ba7f163c4a11628f55a4df523b3ef

end Tables

section Requests

/-- The chain, the settings, and what `ethers` does with the text of an address. -/
structure Host where
  toLowerCase : String → String
  /-- The account of a text, for `getAddress`, which throws on a text that is no address. -/
  account : String → Option Account
  /-- The address of an account with its checksum, which is what `getAddress` gives. -/
  checksum : Account → String
  /-- In lower case an address is that of the same account. -/
  account_checksum : ∀ a, account (toLowerCase (checksum a)) = some a
  /-- The logs of the blocks. -/
  logs : ℕ → List Log
  /-- A log is identified by its transaction and its position within it. -/
  distinct : ∀ b b' log log', log ∈ logs b → log' ∈ logs b' → log.key = log'.key → log = log'
  maxBlockSpan : ℕ
  addressBatchSize : ℕ
  /-- With batches of no addresses the loop over them does not end. -/
  batchPos : 0 < addressBatchSize
  confirmations : ℕ
  startBlock : Option ℕ
  /-- The contracts of the protocol, in lower case. -/
  protocolAddresses : List String

variable (h : Host)

inductive Request where
  /-- The number of the block with the tag `finalized`, on a node that knows the tag. -/
  | finalizedBlock (number : Option ℕ) (fate : Fate)
  | blockNumber (number : ℕ) (fate : Fate)
  | findCursor (fate : Fate)
  | createCursor (block : ℕ) (fate : Fate)
  | upsertCursor (block : ℕ) (fate : Fate)
  | findWallets (fate : Fate)
  /-- The transfers to some recipients. -/
  | getLogs (fromBlock toBlock : ℕ) (recipients : List Account) (fate : Fate)
  /-- The time of the block of a log. -/
  | getBlock (log : Log) (timestamp : Option ℤ) (fate : Fate)
  | createDeposit (row : Deposit) (fate : Fate)
  | recordActivity (row : Deposit) (fate : Fate)
  | changeWallets (wallets : Keyed SmartWallet.address)

abbrev Answer : Request → Type
  | .finalizedBlock _ _ => Except Failure (Option ℕ)
  | .blockNumber _ _ => Except Failure ℕ
  | .findCursor _ => Except Failure (Option ℕ)
  | .createCursor _ _ | .upsertCursor _ _ | .recordActivity _ _ => Except Failure Unit
  | .findWallets _ => Except Failure (Keyed SmartWallet.address)
  | .getLogs _ _ _ _ => Except Failure (List Log)
  | .getBlock _ _ _ => Except Failure (Option ℤ)
  /- Whether there was no row of the log, `P2002` otherwise. -/
  | .createDeposit _ _ => Except Failure Bool
  | .changeWallets _ => Unit

abbrev Service (α : Type) := Fallible Failure Request Answer α

abbrev ask (r : Request) : Service (Answer r) := Fallible.ask r

/-- `zeroPadValue(address, 32)`. -/
def padded (a : Account) : BitVec 256 := a.setWidth 256

/-- The filter of a query for logs. -/
def Log.matches (log : Log) (recipients : List Account) : Bool :=
  log.topics[0]? = some TRANSFER_TOPIC && log.topics[2]?.any (· ∈ recipients.map padded)

def blocks (fromBlock toBlock : ℕ) : List ℕ := List.range' fromBlock (toBlock + 1 - fromBlock)

def Host.logsOf (fromBlock toBlock : ℕ) (recipients : List Account) : List Log :=
  ((blocks fromBlock toBlock).flatMap h.logs).filter fun log => log.matches recipients

/-- A cursor that is written where there was none is where the scan begins. -/
def Tables.setCursor (t : Tables) (block : ℕ) : Tables :=
  { t with cursor := some block, start := if t.cursor = none then block else t.start }

def Tables.failing (t : Tables) (key : String × ℕ) : Tables := { t with failed := key :: t.failed }

def Tables.announce (t : Tables) (row : Deposit) : Tables :=
  { t with credited := row.key :: t.credited }

def Tables.changeWallets (t : Tables) (wallets : Keyed SmartWallet.address) : Tables :=
  { t with
    wallets := wallets
    steady := fun b => (t.steady b).filter (· ∈ addresses wallets)
    versions := addresses wallets :: t.versions }

/-- Blocks become final. -/
def Tables.finalize (t : Tables) (n : ℕ) : Tables :=
  { t with
    head := t.head + n
    steady := fun b => if t.head < b then addresses t.wallets else t.steady b }

def carry (t : Tables) : (r : Request) → Answer r × Tables
  | .finalizedBlock number fate => (fate.told outage number, t)
  | .blockNumber number fate => (fate.told outage number, t)
  | .findCursor fate => (fate.told outage t.cursor, t)
  | .createCursor block fate =>
    if t.cursor = none then (fate.told outage (), if fate.carried then t.setCursor block else t)
      else (.error outage, t)
  | .upsertCursor block fate => (fate.told outage (), if fate.carried then t.setCursor block else t)
  | .findWallets fate => (fate.told outage t.wallets, t)
  | .getLogs fromBlock toBlock recipients fate =>
    (fate.told outage (h.logsOf fromBlock toBlock recipients), t)
  | .getBlock log timestamp fate =>
    (fate.told outage timestamp, if fate = .answered then t else t.failing log.key)
  | .createDeposit row fate =>
    match t.deposits.insert row with
    | none => (fate.told outage false, if fate = .answered then t else t.failing row.key)
    | some deposits =>
      (fate.told outage true, if fate.carried then { t with deposits := deposits }
        else t.failing row.key)
  | .recordActivity row fate => (fate.told outage (), if fate.carried then t.announce row else t)
  | .changeWallets wallets => ((), t.changeWallets wallets)

end Requests

section Services

variable (h : Host)

/-- What the outside answers to a scan. -/
structure Turns where
  finalized : Option ℕ
  finalizedFate : Fate
  latest : ℕ
  latestFate : Fate
  findCursor : Fate
  createCursor : Fate
  wallets : Fate
  logs : List Account → Fate
  /-- The tokens that are known, by their addresses in lower case. -/
  tokenIndex : String → Option TokenInfo
  timestamp : Log → Option ℤ
  now : ℤ
  getBlock : Log → Fate
  createDeposit : Log → Fate
  record : Log → Fate
  saveCursor : Fate

/-- A node without the tag answers with the last block, and blocks deep enough below it count as
final. -/
def getFinalizedBlockNumber (turns : Turns) : Service ℕ := do
  let finalized ← ask (.finalizedBlock turns.finalized turns.finalizedFate)
  match finalized with
  | .ok (some number) => pure number
  | _ => do
    let latest ← ask (.blockNumber turns.latest turns.latestFate)
    let latest ← checked latest
    pure (latest - h.confirmations)

/-- The first scan begins at the head. -/
def getCursor (finalizedHead : ℕ) (turns : Turns) : Service ℕ := do
  let existing ← ask (.findCursor turns.findCursor)
  let existing ← checked existing
  match existing with
  | some lastBlock => pure lastBlock
  | none => do
    let created ← ask (.createCursor (h.startBlock.getD finalizedHead) turns.createCursor)
    checked created
    pure (h.startBlock.getD finalizedHead)

def saveCursor (block : ℕ) (turns : Turns) : Service Unit := do
  let saved ← ask (.upsertCursor block turns.saveCursor)
  checked saved

/-- A map from the addresses of the vaults, in lower case, to whose they are. -/
structure WalletIndex where
  entries : List (String × String)

def loadWalletIndex (wallets : Keyed SmartWallet.address) : WalletIndex :=
  ⟨wallets.rows.map fun wallet => (h.toLowerCase wallet.address, wallet.userId)⟩

def WalletIndex.keys (wallets : WalletIndex) : List String :=
  (wallets.entries.map Prod.fst).eraseDups

/-- Of vaults with one key the last stays. -/
def WalletIndex.get (wallets : WalletIndex) (key : String) : Option String :=
  wallets.entries.reverse.lookup key

/-- `slice(i, i + size)` for every multiple `i` of the size; the first argument bounds the number of
slices. -/
def slices (size : ℕ) : ℕ → List String → List (List String)
  | 0, _ => []
  | _ + 1, [] => []
  | n + 1, addresses => addresses.take size :: slices size n (addresses.drop size)

def invalidAddress : Failure := .error "invalid address"

/-- The recipients of a batch; `getAddress` throws on a text that is no address. -/
def recipientsOf : List String → Except Failure (List Account)
  | [] => .ok []
  | address :: rest =>
    match h.account address with
    | none => .error invalidAddress
    | some a => (recipientsOf rest).map (a :: ·)

def fetchBatches (fromBlock toBlock : ℕ) (turns : Turns) : List (List String) → Service (List Log)
  | [] => pure []
  | batch :: rest => do
    let recipients ← checked (recipientsOf h batch)
    let logs ← ask (.getLogs fromBlock toBlock recipients (turns.logs recipients))
    let logs ← checked logs
    let others ← fetchBatches fromBlock toBlock turns rest
    pure (logs ++ others)

def fetchTransferLogs (fromBlock toBlock : ℕ) (addresses : List String) (turns : Turns) :
    Service (List Log) :=
  fetchBatches h fromBlock toBlock turns (slices h.addressBatchSize addresses.length addresses)

/-- `BigInt(data)`, which needs digits. -/
def bigInt (data : List UInt8) : Option ℕ :=
  if data = [] then none else some (data.foldl (fun n byte => n * 256 + byte.toNat) 0)

/-- The transfer to a vault that is recorded for a log. -/
structure Transfer where
  userId : String
  toAddress : String
  fromAddress : String
  amountRaw : ℕ

/-- The address in the last forty digits of a topic. -/
def Host.addressIn (topic : BitVec 256) : String := h.checksum (topic.setWidth 160)

/-- Transfers between vaults and from the contracts of the protocol are recorded where they are
made. -/
def transferOf (log : Log) (wallets : WalletIndex) : Option Transfer :=
  match log.topics with
  | [_, sender, recipient] => do
    let fromAddress := h.addressIn sender
    let toAddress := h.addressIn recipient
    let userId ← wallets.get (h.toLowerCase toAddress)
    if h.toLowerCase fromAddress ∈ wallets.keys ∨
      h.toLowerCase fromAddress ∈ h.protocolAddresses then
      none
    else do
      let amountRaw ← bigInt log.data
      if amountRaw = 0 then none else some ⟨userId, toAddress, fromAddress, amountRaw⟩
  | _ => none

def depositOf (log : Log) (transfer : Transfer) (occurredAt : ℤ) (token : Option TokenInfo) :
    Deposit where
  userId := transfer.userId
  toAddress := transfer.toAddress
  fromAddress := transfer.fromAddress
  tokenAddress := h.checksum log.address
  tokenSymbol := token.map TokenInfo.symbol
  amountRaw := transfer.amountRaw
  amount := token.map fun token => transfer.amountRaw / 10 ^ token.decimals
  decimals := token.map TokenInfo.decimals
  txHash := log.transactionHash
  logIndex := log.index
  blockNumber := log.blockNumber
  blockHash := log.blockHash
  occurredAt := occurredAt
  recognized := token.isSome

/-- What is recorded of it in the activity log; a failure there is logged. -/
def announceDeposit (row : Deposit) (fate : Fate) : Service Unit :=
  ignoringFailure do
    let recorded ← ask (.recordActivity row fate)
    checked recorded

/-- A deposit that was recorded before is not announced, and one of an unknown token neither. -/
def recordDeposit (log : Log) (transfer : Transfer) (turns : Turns) : Service Unit := do
  let block ← ask (.getBlock log (turns.timestamp log) (turns.getBlock log))
  let block ← checked block
  let token := turns.tokenIndex (h.toLowerCase (h.checksum log.address))
  let row := depositOf h log transfer (block.getD turns.now) token
  let created ← ask (.createDeposit row (turns.createDeposit log))
  let created ← checked created
  if created ∧ row.recognized then announceDeposit row (turns.record log) else pure ()

def processTransferLog (log : Log) (wallets : WalletIndex) (turns : Turns) : Service Unit :=
  match transferOf h log wallets with
  | none => pure ()
  | some transfer => recordDeposit h log transfer turns

/-- A log of which the processing fails does not stall the cursor. -/
def scanBlocks (fromBlock toBlock : ℕ) (wallets : WalletIndex) (turns : Turns) : Service Unit := do
  let logs ← fetchTransferLogs h fromBlock toBlock wallets.keys turns
  forEach (fun log => ignoringFailure (processTransferLog h log wallets turns)) logs
  saveCursor toBlock turns

def scanOnce (turns : Turns) : Service Unit := do
  let finalizedHead ← getFinalizedBlockNumber h turns
  let cursor ← getCursor h finalizedHead turns
  let fromBlock := cursor + 1
  if finalizedHead < fromBlock then pure ()
  else do
    let toBlock := min finalizedHead (fromBlock + h.maxBlockSpan - 1)
    let wallets ← ask (.findWallets turns.wallets)
    let wallets ← checked wallets
    let wallets := loadWalletIndex h wallets
    if wallets.keys = [] then saveCursor toBlock turns
    else scanBlocks h fromBlock toBlock wallets turns

inductive Operation where
  | tick (turns : Turns)
  /-- Vaults are registered, repaired and deleted elsewhere. -/
  | changeWallets (wallets : Keyed SmartWallet.address)

def Operation.program : Operation → Program Request Answer Unit
  | tick turns => dropResult (scanOnce h turns)
  | changeWallets wallets => dropResult (ask (.changeWallets wallets))

def depositService : StoreService Tables Operation Request Answer where
  program := Operation.program h
  carry _ _ := carry h
  passes n t := t.finalize n

end Services

section Scans

variable (h : Host)

/-- Blocks up to the one with the tag `finalized`, and those with enough blocks behind them, are
final. -/
def finalBlocksStay : StoreService.Conditions Tables Operation Request where
  starts _ := True
  allows _ _ t
    | .finalizedBlock number _ => ∀ n ∈ number, n ≤ t.head
    | .blockNumber number _ => number ≤ t.head + h.confirmations
    | _ => True
  passes _ _ := True

/-- The text is an address of the account, up to the case of its letters. -/
def Names (a : Account) (address : String) : Prop :=
  h.toLowerCase address = h.toLowerCase (h.checksum a)

/-- A transfer from outside to a vault that has been in the table since the block became final. -/
structure Qualifies (t : Tables) (b : ℕ) (log : Log) : Prop where
  parties : ∃ sender recipient, log.topics = [TRANSFER_TOPIC, sender, padded recipient] ∧
    (∃ address ∈ t.steady b, Names h recipient address) ∧
    (∀ version ∈ t.versions, ∀ address ∈ version, ¬Names h (sender.setWidth 160) address) ∧
    h.toLowerCase (h.addressIn sender) ∉ h.protocolAddresses
  amount : ∃ amountRaw, bigInt log.data = some amountRaw ∧ amountRaw ≠ 0

/-- The row stands for the log. -/
structure Deposit.Of (log : Log) (row : Deposit) : Prop where
  key : row.key = log.key
  token : row.tokenAddress = h.checksum log.address
  amount : bigInt log.data = some row.amountRaw
  parties : ∃ topic sender recipient, log.topics = [topic, sender, recipient] ∧
    row.fromAddress = h.addressIn sender ∧ row.toAddress = h.addressIn recipient

def Recorded (t : Tables) (log : Log) : Prop := ∃ row ∈ t.deposits.rows, row.Of h log

/-- A log that qualifies is recorded, or its processing has failed. -/
def Handled (t : Tables) (b : ℕ) (log : Log) : Prop :=
  b ≤ t.head ∧ (Qualifies h t b log → Recorded h t log ∨ log.key ∈ t.failed)

def ScannedTo (t : Tables) (block : ℕ) : Prop :=
  ∀ b, t.start < b → b ≤ block → ∀ log ∈ h.logs b, Handled h t b log

/-- Every one of the texts is the address of an account. -/
def Readable (version : List String) : Prop :=
  ∀ address ∈ version, (h.account (h.toLowerCase address)).isSome

/-- Nothing is recorded, and the cursor is where it began. -/
structure Stalled (t : Tables) : Prop where
  deposits : t.deposits.rows = []
  cursor : ∀ cursor ∈ t.cursor, cursor = t.start

/-- What a scan holds is recorded and not announced. -/
def Unannounced (t : Tables) (held : Option (String × ℕ)) : Prop :=
  ∀ key, held = some key → (∃ row ∈ t.deposits.rows, row.key = key) ∧ key ∉ t.credited

/-- The invariant, with the deposit that each scan has still to announce. -/
structure Scanned (t : Tables) (H : ℕ → Option (String × ℕ)) : Prop where
  rows : ∀ row ∈ t.deposits.rows, ∃ b, ∃ log ∈ h.logs b, row.Of h log
  credited : t.credited.Nodup
  backed : ∀ key ∈ t.credited, ∃ row ∈ t.deposits.rows, row.key = key
  steady : ∀ b ≤ t.head, ∀ a ∈ t.steady b, a ∈ addresses t.wallets
  version : addresses t.wallets ∈ t.versions
  moved : (∃ version ∈ t.versions, Readable h version) ∨ Stalled t
  cursor : ∀ cursor ∈ t.cursor, ScannedTo h t cursor
  held : ∀ i, Unannounced t (H i)
  alone : ∀ i j key, H i = some key → H j = some key → i = j

/-- What no step undoes. -/
structure Onward (t t' : Tables) : Prop where
  head : t.head ≤ t'.head
  steady : ∀ b ≤ t.head, ∀ a ∈ t'.steady b, a ∈ t.steady b
  versions : ∀ version ∈ t.versions, version ∈ t'.versions
  rows : ∀ row ∈ t.deposits.rows, row ∈ t'.deposits.rows
  failed : ∀ key ∈ t.failed, key ∈ t'.failed
  start : t.cursor ≠ none → t'.cursor ≠ none ∧ t'.start = t.start

def scanCustody : Custody Tables Operation Request Answer (Option (String × ℕ)) where
  service := depositService h
  conditions := finalBlocksStay h
  inv := Scanned h
  grows := Onward
  idle := none

variable {h} {t t' : Tables} {H : ℕ → Option (String × ℕ)} {i b block : ℕ} {log : Log}
  {row : Deposit}
  {wallets : Keyed SmartWallet.address} {transfer : Transfer}

theorem Onward.refl (t : Tables) : Onward t t :=
  ⟨le_rfl, fun _ _ _ ha => ha, fun _ hv => hv, fun _ hrow => hrow, fun _ hkey => hkey,
    fun hcursor => ⟨hcursor, rfl⟩⟩

@[simp] theorem setWidth_padded (a : Account) : (padded a).setWidth 160 = a := by
  unfold padded
  rw [BitVec.setWidth_setWidth_of_le _ (by omega), BitVec.setWidth_eq]

@[simp] theorem addressIn_padded (h : Host) (a : Account) :
    h.addressIn (padded a) = h.checksum a := by
  rw [Host.addressIn, setWidth_padded]

theorem Qualifies.earlier (hqualifies : Qualifies h t' b log) (hgrows : Onward t t')
    (hb : b ≤ t.head) :
    Qualifies h t b log := by
  obtain ⟨⟨sender, recipient, htopics, ⟨address, hvault, hnames⟩, hsender, hprotocol⟩, hamount⟩ :=
    hqualifies
  have hearlier : ∃ address ∈ t.steady b, Names h recipient address :=
    ⟨address, hgrows.steady b hb address hvault, hnames⟩
  refine ⟨⟨sender, recipient, htopics, hearlier, ?_, hprotocol⟩, hamount⟩
  exact fun version hversion => hsender version (hgrows.versions version hversion)

theorem Recorded.later (hrecorded : Recorded h t log) (hgrows : Onward t t') :
    Recorded h t' log := by
  obtain ⟨row, hrow, hof⟩ := hrecorded
  exact ⟨row, hgrows.rows row hrow, hof⟩

theorem Handled.later (hhandled : Handled h t b log) (hgrows : Onward t t') :
    Handled h t' b log := by
  obtain ⟨hb, hdone⟩ := hhandled
  refine ⟨hb.trans hgrows.head, fun hqualifies => ?_⟩
  rcases hdone (hqualifies.earlier hgrows hb) with hrecorded | hfailed
  · exact .inl (hrecorded.later hgrows)
  · exact .inr (hgrows.failed _ hfailed)

theorem ScannedTo.later (hscanned : ScannedTo h t block) (hgrows : Onward t t')
    (hcursor : t.cursor ≠ none) :
    ScannedTo h t' block := by
  intro b hstart hb log hlog
  rw [(hgrows.start hcursor).2] at hstart
  exact (hscanned b hstart hb log hlog).later hgrows

/-- What is recorded or scanned of the blocks has been read of a table of accounts. -/
theorem Scanned.moved_later (hinv : Scanned h t H) (hgrows : Onward t t')
    (hstalled : Stalled t → Stalled t') :
    (∃ version ∈ t'.versions, Readable h version) ∨ Stalled t' := by
  rcases hinv.moved with ⟨version, hversion, hreadable⟩ | hstill
  · exact .inl ⟨version, hgrows.versions version hversion, hreadable⟩
  · exact .inr (hstalled hstill)

/-- A step that leaves the deposits and their announcements alone. -/
theorem Scanned.of_same (hinv : Scanned h t H) (hdeposits : t'.deposits = t.deposits)
    (hcredited : t'.credited = t.credited)
    (hsteady : ∀ b ≤ t'.head, ∀ a ∈ t'.steady b, a ∈ addresses t'.wallets)
    (hversion : addresses t'.wallets ∈ t'.versions)
    (hmoved : (∃ version ∈ t'.versions, Readable h version) ∨ Stalled t')
    (hcursor : ∀ cursor ∈ t'.cursor, ScannedTo h t' cursor) : Scanned h t' H := by
  refine ⟨?_, ?_, ?_, hsteady, hversion, hmoved, hcursor, ?_, hinv.alone⟩
  · rw [hdeposits]
    exact hinv.rows
  · rw [hcredited]
    exact hinv.credited
  · rw [hdeposits, hcredited]
    exact hinv.backed
  · intro i
    unfold Unannounced
    rw [hdeposits, hcredited]
    exact hinv.held i

theorem Scanned.cursor_later (hinv : Scanned h t H) (hgrows : Onward t t')
    (hsame : t'.cursor = t.cursor) :
    ∀ cursor ∈ t'.cursor, ScannedTo h t' cursor := by
  intro cursor hcursor
  rw [hsame] at hcursor
  refine (hinv.cursor cursor hcursor).later hgrows ?_
  exact fun hnone => nomatch hnone ▸ hcursor

theorem onward_failing (key : String × ℕ) : Onward t (t.failing key) :=
  ⟨le_rfl, fun _ _ _ ha => ha, fun _ hv => hv, fun _ hrow => hrow, fun _ hkey =>
    List.mem_cons_of_mem _ hkey,
    fun hcursor => ⟨hcursor, rfl⟩⟩

theorem Scanned.failing (hinv : Scanned h t H) (key : String × ℕ) :
    Scanned h (t.failing key) H := by
  have hmoved :=
    hinv.moved_later (onward_failing key) fun hstalled => ⟨hstalled.deposits, hstalled.cursor⟩
  exact hinv.of_same rfl rfl hinv.steady hinv.version hmoved
    (hinv.cursor_later (onward_failing key) rfl)

theorem onward_setCursor (block : ℕ) : Onward t (t.setCursor block) := by
  refine ⟨le_rfl, fun _ _ _ ha => ha, fun _ hv => hv, fun _ hrow => hrow, fun _ hkey => hkey,
    fun hcursor => ⟨nofun, ?_⟩⟩
  exact if_neg hcursor

/-- The cursor is moved to where the blocks are scanned, by what was read of a table of accounts
unless the cursor begins there. -/
theorem Scanned.setCursor (hinv : Scanned h t H) (hscanned : ScannedTo h (t.setCursor block) block)
    (hread : t.cursor = none ∨ ∃ version ∈ t.versions, Readable h version) :
    Scanned h (t.setCursor block) H := by
  refine hinv.of_same rfl rfl hinv.steady hinv.version ?_ ?_
  · rcases hread with hnone | hreadable
    · refine hinv.moved_later (onward_setCursor block) fun hstalled => ⟨hstalled.deposits, ?_⟩
      intro cursor hcursor
      obtain rfl := Option.some.inj hcursor
      exact (if_pos hnone).symm
    · exact .inl hreadable
  · intro cursor hcursor
    obtain rfl := Option.some.inj hcursor
    exact hscanned

/-- Behind the block where the scan begins nothing has to be recorded. -/
theorem scannedTo_start (hnone : t.cursor = none) : ScannedTo h (t.setCursor block) block := by
  intro b hstart hb
  have hsame : (t.setCursor block).start = block := if_pos hnone
  omega

theorem onward_changeWallets (wallets : Keyed SmartWallet.address) :
    Onward t (t.changeWallets wallets) :=
  ⟨le_rfl, fun _ _ _ ha => List.mem_of_mem_filter ha, fun _ hv => List.mem_cons_of_mem _ hv,
    fun _ hrow => hrow, fun _ hkey => hkey, fun hcursor => ⟨hcursor, rfl⟩⟩

theorem Scanned.changeWallets (hinv : Scanned h t H) (wallets : Keyed SmartWallet.address) :
    Scanned h (t.changeWallets wallets) H := by
  have hgrows := onward_changeWallets (t := t) wallets
  have hmoved := hinv.moved_later hgrows fun hstalled => ⟨hstalled.deposits, hstalled.cursor⟩
  refine hinv.of_same rfl rfl ?_ List.mem_cons_self hmoved (hinv.cursor_later hgrows rfl)
  intro b _ a ha
  exact of_decide_eq_true (List.mem_filter.mp ha).2

theorem onward_finalize (n : ℕ) : Onward t (t.finalize n) := by
  refine ⟨Nat.le_add_right _ _, fun b hb a ha => ?_, fun _ hv => hv, fun _ hrow => hrow,
    fun _ hkey => hkey, fun hcursor => ⟨hcursor, rfl⟩⟩
  have hold : ¬t.head < b := by omega
  simpa [Tables.finalize, hold] using ha

theorem Scanned.finalize (hinv : Scanned h t H) (n : ℕ) : Scanned h (t.finalize n) H := by
  have hgrows := onward_finalize (t := t) n
  have hmoved := hinv.moved_later hgrows fun hstalled => ⟨hstalled.deposits, hstalled.cursor⟩
  refine hinv.of_same rfl rfl ?_ hinv.version hmoved (hinv.cursor_later hgrows rfl)
  intro b _ a ha
  by_cases hnew : t.head < b
  · simpa [Tables.finalize, hnew] using ha
  · have ha : a ∈ t.steady b := by simpa [Tables.finalize, hnew] using ha
    exact hinv.steady b (by omega) a ha

theorem onward_insert {deposits : Keyed Deposit.key}
    (hinsert : t.deposits.insert row = some deposits) :
    Onward t { t with deposits := deposits } :=
  ⟨le_rfl, fun _ _ _ ha => ha, fun _ hv => hv, fun _ hrow => (Keyed.mem_insert hinsert).mpr
    (.inl hrow),
    fun _ hkey => hkey, fun hcursor => ⟨hcursor, rfl⟩⟩

/-- A deposit is recorded; the scan may hold it then. -/
theorem Scanned.insert {deposits : Keyed Deposit.key} (hinv : Scanned h t H)
    (hinsert : t.deposits.insert row = some deposits) (hlog : log ∈ h.logs b) (hof : row.Of h log)
    (hread : ∃ version ∈ t.versions, Readable h version) {held : Option (String × ℕ)}
    (hheld : ∀ key, held = some key → key = row.key) :
    Scanned h { t with deposits := deposits } (Function.update H i held) := by
  have hgrows := onward_insert hinsert
  have hnew : ∀ old ∈ t.deposits.rows, old.key ≠ row.key := by
    intro old hold hsame
    have hnone : t.deposits.insert row = none := Keyed.insert_eq_none.mpr ⟨old, hold, hsame⟩
    rw [hnone] at hinsert
    cases hinsert
  have hmem : ∀ key, (∃ old ∈ t.deposits.rows, old.key = key) →
      ∃ old ∈ deposits.rows, old.key = key := by
    rintro key ⟨old, hold, hkey⟩
    exact ⟨old, hgrows.rows old hold, hkey⟩
  refine ⟨?_, hinv.credited,
    fun key hkey => hmem key (hinv.backed key hkey), hinv.steady, hinv.version,
    .inl hread, ?_, ?_, ?_⟩
  · intro old hold
    rcases (Keyed.mem_insert hinsert).mp hold with hold | rfl
    · exact hinv.rows old hold
    · exact ⟨b, log, hlog, hof⟩
  · exact hinv.cursor_later hgrows rfl
  · refine update_cases (P := fun _ => Unannounced { t with deposits := deposits }) ?_ ?_
    · intro key hkey
      rw [hheld key hkey]
      refine ⟨⟨row, (Keyed.mem_insert hinsert).mpr (.inr rfl), rfl⟩, fun hcredited => ?_⟩
      obtain ⟨old, hold, hsame⟩ := hinv.backed _ hcredited
      exact hnew old hold hsame
    · intro j _ key hkey
      exact ⟨hmem key (hinv.held j key hkey).1, (hinv.held j key hkey).2⟩
  · refine @alone_update _ _ _ _ _ id hinv.alone fun key hkey j _ hj => ?_
    obtain ⟨⟨old, hold, hsame⟩, -⟩ := hinv.held j key hj
    exact hnew old hold (hsame.trans (hheld key hkey))

theorem onward_announce : Onward t (t.announce row) :=
  ⟨le_rfl, fun _ _ _ ha => ha, fun _ hv => hv, fun _ hrow => hrow, fun _ hkey => hkey,
    fun hcursor => ⟨hcursor, rfl⟩⟩

theorem Scanned.release (hinv : Scanned h t H) (i : ℕ) :
    Scanned h t (Function.update H i none) := by
  refine ⟨hinv.rows, hinv.credited, hinv.backed, hinv.steady, hinv.version, hinv.moved,
    hinv.cursor, ?_, ?_⟩
  · exact update_cases (P := fun _ => Unannounced t) (fun _ hnone => nomatch hnone)
      fun j _ => hinv.held j
  · exact @alone_update _ _ _ _ _ id hinv.alone fun _ hnone => nomatch hnone

/-- The deposit that a scan holds is announced. -/
theorem Scanned.announce (hinv : Scanned h t H) (hi : H i = some row.key) :
    Scanned h (t.announce row) (Function.update H i none) := by
  have hgrows : Onward t (t.announce row) := onward_announce
  have hmoved := hinv.moved_later hgrows fun hstalled => ⟨hstalled.deposits, hstalled.cursor⟩
  obtain ⟨hrow, hnew⟩ := hinv.held i row.key hi
  refine ⟨hinv.rows, List.nodup_cons.mpr ⟨hnew, hinv.credited⟩, ?_, hinv.steady,
    hinv.version, hmoved,
    hinv.cursor_later hgrows rfl, ?_, ?_⟩
  · exact List.forall_mem_cons.mpr ⟨hrow, hinv.backed⟩
  · refine update_cases (P := fun _ => Unannounced (t.announce row)) (fun _ hnone => nomatch hnone)
      fun j hji key hkey => ?_
    refine ⟨(hinv.held j key hkey).1,
      List.not_mem_cons_of_ne_of_not_mem ?_ (hinv.held j key hkey).2⟩
    rintro rfl
    exact hji (hinv.alone j i _ hkey hi)
  · exact @alone_update _ _ _ _ _ id hinv.alone fun _ hnone => nomatch hnone

theorem keeps_getFinalizedBlockNumber (turns : Turns) :
    (scanCustody h).Keeps i op (getFinalizedBlockNumber h turns) (fun _ => True) none
      (fun number t => number ≤ t.head) fun _ => True := by
  refine Custody.Keeps.andThen (R := fun x t => ∀ number, x = .ok (some number) → number ≤ t.head)
    (F := fun _ => True) ?_ ?_
    fun _ _ => ⟨rfl, trivial⟩
  · refine Custody.Keeps.ask ?_ fun t H hinv _ _ hallows => ⟨Onward.refl t, hinv, ?_⟩
    · exact fun x t t' hgrows hx number hnumber => (hx number hnumber).trans hgrows.head
    · intro number hnumber
      exact hallows number (Fate.told_eq_ok.mp hnumber).2
  · intro finalized
    dsimp only
    split
    · next number => exact Custody.Upholds.pure fun t hx => ⟨rfl, hx number rfl⟩
    · refine Custody.Keeps.andThen (R := fun x t => ∀ number, x = .ok number → number ≤ t.head +
        h.confirmations) (F := fun _ => True)
        ?_ ?_ fun _ _ => ⟨rfl, trivial⟩
      · refine Custody.Keeps.ask ?_ fun t H hinv _ _ hallows => ⟨Onward.refl t, hinv, ?_⟩
        · exact fun x t t' hgrows hx number hnumber => (hx number hnumber).trans
            (Nat.add_le_add_right hgrows.head _)
        · intro number hnumber
          obtain rfl := (Fate.told_eq_ok.mp hnumber).2
          exact hallows
      · intro latest
        refine Custody.Upholds.checkedThen (fun _ _ _ _ => ⟨rfl, trivial⟩) fun latest hlatest => ?_
        refine Custody.Upholds.pure fun t hx => ⟨rfl, ?_⟩
        have hbound := hx latest hlatest
        omega

/-- What is known of the cursor that a scan goes on from. -/
structure From (h : Host) (finalizedHead cursor : ℕ) (t : Tables) : Prop where
  head : finalizedHead ≤ t.head
  set_ : t.cursor ≠ none
  scanned : ScannedTo h t cursor

theorem stable_from (finalizedHead cursor : ℕ) :
    (scanCustody h).Stable (From h finalizedHead cursor) :=
  fun _ _ hgrows hfrom =>
    ⟨hfrom.head.trans hgrows.head, (hgrows.start hfrom.set_).1,
      hfrom.scanned.later hgrows hfrom.set_⟩

theorem keeps_getCursor (finalizedHead : ℕ) (turns : Turns) :
    (scanCustody h).Keeps i op (getCursor h finalizedHead turns)
      (fun t => finalizedHead ≤ t.head) none
      (fun cursor => From h finalizedHead cursor) fun _ => True := by
  refine Custody.Keeps.andThen (F := fun _ => True)
    (R := fun x t => finalizedHead ≤ t.head ∧
      ∀ cursor, x = .ok (some cursor) → From h finalizedHead cursor t) ?_ ?_
    fun _ _ => ⟨rfl, trivial⟩
  · refine Custody.Keeps.read Onward.refl (fun _ => rfl) ?_ ?_
    · exact fun x t t' hgrows hx => ⟨hx.1.trans hgrows.head,
        fun cursor hcursor => stable_from _ _ t t' hgrows (hx.2 cursor hcursor)⟩
    · intro t H hinv hhead
      refine ⟨hhead, fun cursor hread => ?_⟩
      have hcursor : t.cursor = some cursor := (Fate.told_eq_ok.mp hread).2
      have hset : t.cursor ≠ none := by
        rw [hcursor]
        exact Option.some_ne_none cursor
      exact ⟨hhead, hset, hinv.cursor cursor hcursor⟩
  · intro existing
    refine Custody.Upholds.checkedThen (fun _ _ _ _ => ⟨rfl, trivial⟩) fun existing hexisting => ?_
    cases existing with
    | some cursor => exact Custody.Upholds.pure fun t hx => ⟨rfl, hx.2 cursor hexisting⟩
    | none =>
      refine Custody.Keeps.andThen (F := fun _ => True)
        (R := fun x t => x = .ok () → From h finalizedHead (h.startBlock.getD finalizedHead) t) ?_
          ?_ fun _ _ => ⟨rfl, trivial⟩
      · refine Custody.Keeps.ask ?_ fun t H hinv hx _ _ => ?_
        · exact fun x t t' hgrows hx hok => stable_from _ _ t t' hgrows (hx hok)
        · have hkeep : Onward t t ∧ Scanned h t H := ⟨Onward.refl t, hinv⟩
          have hset : ∀ block, t.cursor = none → Onward t (t.setCursor block) ∧
              Scanned h (t.setCursor block) H :=
            fun block hnone => ⟨onward_setCursor block,
              hinv.setCursor (scannedTo_start hnone) (.inl hnone)⟩
          by_cases hnone : t.cursor = none
          · cases hfate : turns.createCursor <;>
              simp only [scanCustody, depositService, carry, hnone, Fate.told, Fate.carried,
                if_true, reduceCtorEq, if_false,
                Bool.false_eq_true, false_implies, and_true]
            · refine ⟨(hset _ hnone).1, (hset _ hnone).2,
                fun _ => ⟨hx.1, Option.some_ne_none _, scannedTo_start hnone⟩⟩
            · exact hset _ hnone
            · exact hkeep
          · simp only [scanCustody, depositService, carry, hnone, if_false, reduceCtorEq,
              false_implies, and_true]
            exact hkeep
      · intro created
        refine Custody.Upholds.checkedThen (fun _ _ _ _ => ⟨rfl, trivial⟩) fun _ hok => ?_
        exact Custody.Upholds.pure fun t hx => ⟨rfl, hx hok⟩

/-- What a cursor is moved with: it is set, the blocks up to the new one are scanned, and the vaults
were read from a table of accounts. -/
structure Movable (h : Host) (block : ℕ) (t : Tables) : Prop where
  set_ : t.cursor ≠ none
  scanned : ScannedTo h t block
  readable : ∃ version ∈ t.versions, Readable h version

theorem heeds_saveCursor (block : ℕ) (turns : Turns) :
    (scanCustody h).Keeps i op (saveCursor block turns) (Movable h block) none (fun _ _ => True)
      fun _ => True := by
  refine Custody.Keeps.andThen (R := fun _ _ => True) (F := fun _ => True) ?_
    (fun _ => Custody.Heeds.checked)
    fun _ _ => ⟨rfl, trivial⟩
  refine Custody.Keeps.ask (fun _ => Custody.stable_const True) fun t H hinv hknown _ _ => ?_
  have hmoved : Onward t (t.setCursor block) := onward_setCursor block
  cases hcarried : turns.saveCursor.carried with
  | true =>
    simp only [scanCustody, depositService, carry, hcarried, if_true]
    have hscanned := hknown.scanned.later hmoved hknown.set_
    exact ⟨hmoved, hinv.setCursor hscanned (.inr hknown.readable), trivial⟩
  | false =>
    simp only [scanCustody, depositService, carry, hcarried]
    exact ⟨Onward.refl t, hinv, trivial⟩

/-- The vaults that were read cover those that qualify up to a final block. -/
structure Covers (wallets : Keyed SmartWallet.address) (toBlock : ℕ) (t : Tables) : Prop where
  head : toBlock ≤ t.head
  steady : ∀ b ≤ toBlock, ∀ a ∈ t.steady b, a ∈ addresses wallets
  version : addresses wallets ∈ t.versions

theorem stable_covers (wallets : Keyed SmartWallet.address) (toBlock : ℕ) :
    (scanCustody h).Stable (Covers wallets toBlock) := by
  intro t t' hgrows hcovers
  refine ⟨hcovers.head.trans hgrows.head, fun b hb a ha => ?_, hgrows.versions _ hcovers.version⟩
  exact hcovers.steady b hb a (hgrows.steady b (hb.trans hcovers.head) a ha)

theorem mem_keys {key : String} :
    key ∈ (loadWalletIndex h wallets).keys ↔ ∃ a ∈ addresses wallets, h.toLowerCase a = key := by
  simp [WalletIndex.keys, loadWalletIndex, addresses, List.mem_eraseDups]

theorem get_ne_none {index : WalletIndex} {key : String} (hkey : key ∈ index.keys) :
    index.get key ≠ none := by
  rw [WalletIndex.keys, List.mem_eraseDups, List.mem_map] at hkey
  obtain ⟨entry, hentry, rfl⟩ := hkey
  intro hnone
  rw [WalletIndex.get, List.lookup_eq_none_iff] at hnone
  simpa using hnone entry (List.mem_reverse.mpr hentry)

theorem readable_of_keys
    (hkeys : ∀ key ∈ (loadWalletIndex h wallets).keys, (h.account key).isSome) :
    Readable h (addresses wallets) := fun a ha => hkeys _ (mem_keys.mpr ⟨a, ha, rfl⟩)

theorem mem_slices {size : ℕ} (hsize : 0 < size) {a : String} : ∀ {n : ℕ} {l : List String},
    l.length ≤ n → a ∈ l → ∃ batch ∈ slices size n l, a ∈ batch := by
  intro n
  induction n with
  | zero =>
    intro l hlength ha
    rw [List.length_eq_zero_iff.mp (Nat.le_zero.mp hlength)] at ha
    cases ha
  | succ n ih =>
    intro l hlength ha
    cases l with
    | nil => cases ha
    | cons head rest =>
      have hslices : slices size (n + 1) (head :: rest) =
          (head :: rest).take size :: slices size n ((head :: rest).drop size) := rfl
      rw [hslices]
      have hsplit : a ∈ (head :: rest).take size ++ (head :: rest).drop size := by
        rwa [List.take_append_drop]
      rcases List.mem_append.mp hsplit with htake | hdrop
      · exact ⟨_, List.mem_cons_self, htake⟩
      · have hshorter : ((head :: rest).drop size).length ≤ n := by
          simp only [List.length_drop, List.length_cons] at hlength ⊢
          omega
        obtain ⟨batch, hbatch, hmem⟩ := ih hshorter hdrop
        exact ⟨batch, List.mem_cons_of_mem _ hbatch, hmem⟩

/-- The recipients of a batch are the accounts of all its texts. -/
theorem of_recipientsOf : ∀ {batch : List String} {recipients : List Account},
    recipientsOf h batch = .ok recipients →
    ∀ text ∈ batch, ∃ a ∈ recipients, h.account text = some a := by
  intro batch
  induction batch with
  | nil => exact fun _ _ hmem => (nomatch hmem)
  | cons text rest ih =>
    intro recipients hrecipients
    cases haccount : h.account text with
    | none => simp [recipientsOf, haccount] at hrecipients
    | some a =>
      cases hrest : recipientsOf h rest with
      | error e => simp [recipientsOf, haccount, hrest, Except.map] at hrecipients
      | ok others =>
        simp only [recipientsOf, haccount, hrest, Except.map, Except.ok.injEq] at hrecipients
        subst hrecipients
        refine List.forall_mem_cons.mpr ⟨⟨a, List.mem_cons_self, haccount⟩, fun text' htext' => ?_⟩
        obtain ⟨a', ha', haccount'⟩ := ih hrest text' htext'
        exact ⟨a', List.mem_cons_of_mem _ ha', haccount'⟩

/-- What was fetched is all that goes to one of the batches, and nothing but logs of the chain. -/
structure Fetched (h : Host) (fromBlock toBlock : ℕ) (batches : List (List String))
    (logs : List Log) :
    Prop where
  all : ∀ batch ∈ batches, ∃ recipients, recipientsOf h batch = .ok recipients ∧
    ∀ log ∈ h.logsOf fromBlock toBlock recipients, log ∈ logs
  only : ∀ log ∈ logs, ∃ b, log ∈ h.logs b

theorem logs_of_logsOf {fromBlock toBlock : ℕ} {recipients : List Account}
    (hlog : log ∈ h.logsOf fromBlock toBlock recipients) : ∃ b, log ∈ h.logs b := by
  obtain ⟨b, -, hb⟩ := List.mem_flatMap.mp (List.mem_filter.mp hlog).1
  exact ⟨b, hb⟩

theorem keeps_fetchBatches {K : Tables → Prop} (hK : (scanCustody h).Stable K)
    (fromBlock toBlock : ℕ) (turns : Turns) (batches : List (List String)) :
    (scanCustody h).Keeps i op (fetchBatches h fromBlock toBlock turns batches) K none
      (fun logs t => Fetched h fromBlock toBlock batches logs ∧ K t) fun _ => True := by
  induction batches with
  | nil =>
    exact Custody.Upholds.pure
      fun t ht => ⟨rfl, ⟨fun _ hmem => (nomatch hmem), fun _ hmem => (nomatch hmem)⟩, ht⟩
  | cons batch rest ih =>
    refine Custody.Upholds.checkedThen (fun _ _ _ _ => ⟨rfl, trivial⟩)
      fun recipients hrecipients => ?_
    refine Custody.Keeps.andThen (F := fun _ => True)
      (R := fun x t => (∀ logs, x = .ok logs → logs = h.logsOf fromBlock toBlock recipients) ∧
        K t) ?_ ?_
      fun _ _ => ⟨rfl, trivial⟩
    · refine Custody.Keeps.read Onward.refl (fun _ => rfl) ?_ fun t H _ ht =>
        ⟨fun logs hlogs => (Fate.told_eq_ok.mp hlogs).2.symm, ht⟩
      exact fun x => Custody.Stable.and (Custody.stable_const _) hK
    · intro x
      refine Custody.Upholds.assuming fun hx => ?_
      refine Custody.Upholds.checkedThen (fun _ _ _ _ => ⟨rfl, trivial⟩) fun logs hlogs => ?_
      obtain rfl := hx logs hlogs
      refine Custody.Keeps.andThen ih (fun others => ?_) fun _ _ => ⟨rfl, trivial⟩
      refine Custody.Upholds.pure fun t ht => ⟨rfl, ⟨?_, ?_⟩, ht.2⟩
      · refine List.forall_mem_cons.mpr
          ⟨⟨recipients, hrecipients, fun log hlog => List.mem_append_left _ hlog⟩, ?_⟩
        intro batch' hbatch'
        obtain ⟨recipients', hrecipients', hall⟩ := ht.1.all batch' hbatch'
        exact ⟨recipients', hrecipients', fun log hlog => List.mem_append_right _ (hall log hlog)⟩
      · intro log hlog
        rcases List.mem_append.mp hlog with hlog | hlog
        · exact logs_of_logsOf hlog
        · exact ht.1.only log hlog

/-- The batches of the scan of some vaults. -/
def batchesOf (h : Host) (wallets : Keyed SmartWallet.address) : List (List String) :=
  slices h.addressBatchSize (loadWalletIndex h wallets).keys.length (loadWalletIndex h wallets).keys

/-- Whatever is in a batch that was fetched is an account's address. -/
theorem readable_of_fetched {fromBlock toBlock : ℕ} {logs : List Log}
    (hfetched : Fetched h fromBlock toBlock (batchesOf h wallets) logs) :
    Readable h (addresses wallets) := by
  refine readable_of_keys fun key hkey => ?_
  obtain ⟨batch, hbatch, hmem⟩ := mem_slices h.batchPos le_rfl hkey
  obtain ⟨recipients, hrecipients, -⟩ := hfetched.all batch hbatch
  obtain ⟨a, -, haccount⟩ := of_recipientsOf hrecipients key hmem
  simp [haccount]

/-- A log of the range that qualifies is among those that were fetched. -/
theorem fetched_of_qualifies {fromBlock toBlock : ℕ} {logs : List Log}
    (hfetched : Fetched h fromBlock toBlock (batchesOf h wallets) logs)
    (hcovers : Covers wallets toBlock t) (hfrom : fromBlock ≤ b) (hto : b ≤ toBlock)
    (hlog : log ∈ h.logs b) (hqualifies : Qualifies h t b log) : log ∈ logs := by
  obtain ⟨⟨sender, recipient, htopics, ⟨address, hvault, hnames⟩, -⟩, -⟩ := hqualifies
  have hkey : h.toLowerCase (h.checksum recipient) ∈ (loadWalletIndex h wallets).keys :=
    mem_keys.mpr ⟨address, hcovers.steady b hto address hvault, hnames⟩
  obtain ⟨batch, hbatch, hmem⟩ := mem_slices h.batchPos le_rfl hkey
  obtain ⟨recipients, hrecipients, hall⟩ := hfetched.all batch hbatch
  obtain ⟨a, ha, haccount⟩ := of_recipientsOf hrecipients _ hmem
  rw [h.account_checksum] at haccount
  obtain rfl := Option.some.inj haccount
  refine hall log (List.mem_filter.mpr ⟨List.mem_flatMap.mpr ⟨b, ?_, hlog⟩, ?_⟩)
  · exact List.mem_range'_1.mpr ⟨hfrom, by omega⟩
  · simp only [Log.matches, htopics, List.getElem?_cons_zero, List.getElem?_cons_succ, decide_true,
      Option.any_some, Bool.true_and, decide_eq_true_eq]
    exact List.mem_map_of_mem ha

/-- A log that qualifies is a transfer to a vault that was read. -/
theorem transferOf_ne_none (hcovers : Covers wallets block t) (hb : b ≤ block)
    (hqualifies : Qualifies h t b log) :
    transferOf h log (loadWalletIndex h wallets) ≠ none := by
  obtain ⟨⟨sender, recipient, htopics, ⟨address, hvault, hnames⟩, hsender, hprotocol⟩, amountRaw,
    hamount, hsome⟩ :=
    hqualifies
  have hkey : h.toLowerCase (h.checksum recipient) ∈ (loadWalletIndex h wallets).keys :=
    mem_keys.mpr ⟨address, hcovers.steady b hb address hvault, hnames⟩
  obtain ⟨userId, hget⟩ := Option.ne_none_iff_exists'.mp (get_ne_none hkey)
  have houtside : ¬(h.toLowerCase (h.addressIn sender) ∈ (loadWalletIndex h wallets).keys ∨
      h.toLowerCase (h.addressIn sender) ∈ h.protocolAddresses) := by
    rintro (hmem | hmem)
    · obtain ⟨own, hown, hsame⟩ := mem_keys.mp hmem
      exact hsender _ hcovers.version own hown hsame
    · exact hprotocol hmem
  simp [transferOf, htopics, hget, if_neg houtside, hamount, hsome]

theorem of_transferOf {index : WalletIndex} (htransfer : transferOf h log index = some transfer)
    (occurredAt : ℤ) (token : Option TokenInfo) :
    (depositOf h log transfer occurredAt token).Of h log := by
  unfold transferOf at htransfer
  split at htransfer
  · next topic sender recipient htopics =>
    simp only [Option.bind_eq_bind, Option.bind_eq_some_iff] at htransfer
    obtain ⟨userId, -, htransfer⟩ := htransfer
    split at htransfer
    · cases htransfer
    · obtain ⟨amountRaw, hamount, htransfer⟩ := Option.bind_eq_some_iff.mp htransfer
      split at htransfer
      · cases htransfer
      · obtain rfl := Option.some.inj htransfer
        exact ⟨rfl, rfl, hamount, ⟨topic, sender, recipient, htopics, rfl, rfl⟩⟩
  · cases htransfer

/-- A scan up to a block is done with the log. -/
def Done (h : Host) (log : Log) (block : ℕ) (t : Tables) : Prop :=
  ∀ b, log ∈ h.logs b → b ≤ block → Handled h t b log

theorem stable_done (log : Log) (block : ℕ) : (scanCustody h).Stable (Done h log block) :=
  fun _ _ hgrows hdone b hlog hb => (hdone b hlog hb).later hgrows

theorem done_of_recorded (hcovers : Covers wallets block t) (hrecorded : Recorded h t log) :
    Done h log block t :=
  fun _ _ hb => ⟨hb.trans hcovers.head, fun _ => .inl hrecorded⟩

theorem done_of_failed (hcovers : Covers wallets block t) (hfailed : log.key ∈ t.failed) :
    Done h log block t :=
  fun _ _ hb => ⟨hb.trans hcovers.head, fun _ => .inr hfailed⟩

/-- What a scan holds once it has tried to record a deposit. -/
def heldAfter (row : Deposit) : Except Failure Bool → Option (String × ℕ)
  | .ok true => if row.recognized then some row.key else none
  | _ => none

theorem heldAfter_eq_some {x : Except Failure Bool} {key : String × ℕ}
    (hheld : heldAfter row x = some key) : key = row.key := by
  unfold heldAfter at hheld
  split at hheld
  · split at hheld
    · exact (Option.some.inj hheld).symm
    · cases hheld
  · cases hheld

theorem createDeposit_step (hinv : Scanned h t H) (hcovers : Covers wallets block t)
    (hread : Readable h (addresses wallets)) (hi : H i = none) (hlog : log ∈ h.logs b)
    (hof : row.Of h log) (fate : Fate) :
    Onward t (carry h t (.createDeposit row fate)).2 ∧
      Scanned h (carry h t (.createDeposit row fate)).2
        (Function.update H i (heldAfter row (carry h t (.createDeposit row fate)).1)) ∧
      Done h log block (carry h t (.createDeposit row fate)).2 := by
  have hidle : Function.update H i none = H := by
    rw [← hi]
    exact Function.update_eq_self i H
  have hfailing : Onward t (t.failing row.key) ∧ Scanned h (t.failing row.key) H ∧
      Done h log block (t.failing row.key) := by
    refine ⟨onward_failing _, hinv.failing _,
      done_of_failed (stable_covers (h := h) wallets block _ _ (onward_failing _) hcovers) ?_⟩
    rw [hof.key]
    exact List.mem_cons_self
  cases hinsert : t.deposits.insert row with
  | none =>
    -- The row that is there is the log's.
    obtain ⟨old, hold, hkey⟩ := Keyed.insert_eq_none.mp hinsert
    obtain ⟨b', log', hlog', hof'⟩ := hinv.rows old hold
    obtain rfl := h.distinct b' b log' log hlog' hlog (hof'.key.symm.trans (hkey.trans hof.key))
    have hrecorded : Recorded h t log' := ⟨old, hold, hof'⟩
    by_cases hfate : fate = .answered
    · simp only [carry, hinsert, hfate, if_true, Fate.told, heldAfter, hidle]
      exact ⟨Onward.refl t, hinv, done_of_recorded hcovers hrecorded⟩
    · simp only [carry, hinsert, hfate, if_false, Fate.told, heldAfter, hidle]
      exact hfailing
  | some deposits =>
    have hinserted := onward_insert hinsert
    have hdone : Done h log block { t with deposits := deposits } := by
      refine done_of_recorded (stable_covers (h := h) wallets block _ _ hinserted hcovers)
        ⟨row, ?_, hof⟩
      exact (Keyed.mem_insert hinsert).mpr (.inr rfl)
    cases hcarried : fate.carried with
    | true =>
      simp only [carry, hinsert, hcarried, if_true]
      have hversion : ∃ version ∈ t.versions, Readable h version := ⟨_, hcovers.version, hread⟩
      exact ⟨hinserted,
        hinv.insert hinsert hlog hof hversion fun key hheld => heldAfter_eq_some hheld, hdone⟩
    | false =>
      have hrefused : fate = .refused := by
        cases fate with
        | refused => rfl
        | answered => cases hcarried
        | lost => cases hcarried
      subst hrefused
      simp only [carry, hinsert, Fate.carried, Bool.false_eq_true, if_false, Fate.told,
        reduceCtorEq, heldAfter, hidle]
      exact hfailing

theorem upholds_announceDeposit (fate : Fate) :
    (scanCustody h).Upholds i op (announceDeposit row fate) (fun _ => True) (some row.key)
      (fun _ _ held => held = none) fun _ _ => False := by
  refine Custody.Upholds.ignoringFailure (E := fun _ held => held = none) ?_
  refine Custody.Upholds.bind (S := fun _ _ held => held = none) ?_ fun recorded held => ?_
  · refine Custody.Upholds.handOver none fun t H hinv _ hi _ => ?_
    cases hcarried : fate.carried with
    | true =>
      simp only [scanCustody, depositService, carry, hcarried, if_true]
      exact ⟨onward_announce, hinv.announce hi⟩
    | false =>
      simp only [scanCustody, depositService, carry, hcarried]
      exact ⟨Onward.refl t, hinv.release i⟩
  · exact Custody.Upholds.checked (fun _ _ _ hheld => hheld) fun _ _ _ hheld => hheld

theorem keeps_recordDeposit (hread : Readable h (addresses wallets)) (hlog : log ∈ h.logs b)
    (htransfer : transferOf h log (loadWalletIndex h wallets) = some transfer) (turns : Turns) :
    (scanCustody h).Keeps i op (recordDeposit h log transfer turns) (Covers wallets block) none
      (fun _ => Done h log block) (Done h log block) := by
  have hcovered : (scanCustody h).Stable (Covers wallets block) := stable_covers wallets block
  have hdone : (scanCustody h).Stable (Done h log block) := stable_done log block
  unfold recordDeposit
  refine Custody.Keeps.andThen (F := fun _ => False)
    (R := fun x t => Covers wallets block t ∧ ((∃ e, x = .error e) → log.key ∈ t.failed)) ?_ ?_
      fun _ hnever => hnever.elim
  · refine Custody.Keeps.ask ?_ fun t H hinv hcovers _ _ => ?_
    · exact fun x t t' hgrows hx => ⟨hcovered t t' hgrows hx.1,
        fun herror => hgrows.failed _ (hx.2 herror)⟩
    · by_cases hfate : turns.getBlock log = .answered
      · simp only [scanCustody, depositService, carry, hfate, if_true, Fate.told]
        refine ⟨Onward.refl t, hinv, hcovers, ?_⟩
        rintro ⟨e, herror⟩
        cases herror
      · simp only [scanCustody, depositService, carry, hfate, if_false]
        exact ⟨onward_failing _, hinv.failing _, hcovered _ _ (onward_failing _) hcovers,
          fun _ => List.mem_cons_self⟩
  intro x
  refine Custody.Upholds.checkedThen
    (fun e herror t hx => ⟨rfl, done_of_failed hx.1 (hx.2 ⟨e, herror⟩)⟩) fun timestamp _ => ?_
  have hof := of_transferOf htransfer (timestamp.getD turns.now)
    (turns.tokenIndex (h.toLowerCase (h.checksum log.address)))
  dsimp only
  generalize depositOf h log transfer (timestamp.getD turns.now)
    (turns.tokenIndex (h.toLowerCase (h.checksum log.address))) = row at hof ⊢
  refine Custody.Upholds.bind (S := fun x t held => held = heldAfter row x ∧ Done h log block t) ?_
    fun x held => ?_
  · refine Custody.Upholds.ask (r := .createDeposit row (turns.createDeposit log)) (heldAfter row)
      (fun _ => hdone) fun t H hinv hx hi _ => ?_
    exact createDeposit_step hinv hx.1 hread hi hlog hof _
  refine Custody.Upholds.assuming fun hheld => ?_
  subst hheld
  refine Custody.Upholds.bind (S := fun created t held => x = .ok created ∧ held = heldAfter row x ∧
    Done h log block t) ?_
    fun created held => ?_
  · refine Custody.Upholds.checked (fun created t hx ht => ⟨hx, rfl, ht⟩)
      fun e t herror ht => ⟨?_, ht⟩
    rw [herror]
    rfl
  refine Custody.Upholds.assuming fun hx => Custody.Upholds.assuming fun hheld => ?_
  subst hheld
  rw [hx]
  split
  · next hannounced =>
    have hheld : heldAfter row (.ok created) = some row.key := by
      simp [heldAfter, hannounced.1, hannounced.2]
    rw [hheld]
    refine (Custody.Upholds.frame (upholds_announceDeposit (turns.record log)) hdone).weaken
      (fun _ ht => ⟨trivial, ht⟩)
      (fun _ _ _ ht => ht) fun _ _ hnever => hnever.1.elim
  · next hsilent =>
    have hheld : heldAfter row (.ok created) = none := by
      unfold heldAfter
      split
      · next heq =>
        cases heq
        rw [if_neg fun hrecognized => hsilent ⟨rfl, hrecognized⟩]
      · rfl
    rw [hheld]
    exact Custody.Upholds.pure fun t ht => ⟨rfl, ht⟩

theorem keeps_processTransferLog (hread : Readable h (addresses wallets)) (hlog : log ∈ h.logs b)
    (turns : Turns) :
    (scanCustody h).Keeps i op (processTransferLog h log (loadWalletIndex h wallets) turns)
      (Covers wallets block)
      none (fun _ => Done h log block) (Done h log block) := by
  unfold processTransferLog
  split
  · next hnone =>
    refine Custody.Upholds.pure
      fun t hcovers => ⟨rfl, fun b' _ hb' => ⟨hb'.trans hcovers.head, fun hqualifies => ?_⟩⟩
    exact absurd hnone (transferOf_ne_none hcovers hb' hqualifies)
  · next transfer htransfer => exact keeps_recordDeposit hread hlog htransfer turns

/-- The blocks up to the cursor are scanned, and so is what comes behind it once every log there is
done with. -/
theorem ScannedTo.extend {cursor : ℕ} (hscanned : ScannedTo h t cursor)
    (hcovers : Covers wallets block t)
    (hrest : ∀ b, cursor < b → b ≤ block →
      ∀ log ∈ h.logs b, Qualifies h t b log → Handled h t b log) : ScannedTo h t block := by
  intro b hstart hb log hlog
  by_cases hbehind : b ≤ cursor
  · exact hscanned b hstart hbehind log hlog
  · exact ⟨hb.trans hcovers.head,
      fun hqualifies => (hrest b (not_le.mp hbehind) hb log hlog hqualifies).2 hqualifies⟩

/-- What a scan of a range knows. -/
def Ranging (h : Host) (finalizedHead cursor toBlock : ℕ) (wallets : Keyed SmartWallet.address)
    (t : Tables) : Prop :=
  From h finalizedHead cursor t ∧ Covers wallets toBlock t

theorem stable_ranging (finalizedHead cursor toBlock : ℕ) (wallets : Keyed SmartWallet.address) :
    (scanCustody h).Stable (Ranging h finalizedHead cursor toBlock wallets) :=
  Custody.Stable.and (stable_from finalizedHead cursor) (stable_covers wallets toBlock)

theorem keeps_scanBlocks (finalizedHead cursor toBlock : ℕ) (wallets : Keyed SmartWallet.address)
    (turns : Turns) :
    (scanCustody h).Keeps i op (scanBlocks h (cursor + 1) toBlock (loadWalletIndex h wallets) turns)
      (Ranging h finalizedHead cursor toBlock wallets) none (fun _ _ => True) fun _ => True := by
  have hranging : (scanCustody h).Stable (Ranging h finalizedHead cursor toBlock wallets) :=
    stable_ranging _ _ _ _
  unfold scanBlocks fetchTransferLogs
  refine Custody.Keeps.andThen (keeps_fetchBatches hranging _ _ turns _) (fun logs => ?_)
    fun _ _ => ⟨rfl, trivial⟩
  refine Custody.Upholds.assuming fun hfetched => ?_
  have hread : Readable h (addresses wallets) := readable_of_fetched hfetched
  have hloop : (scanCustody h).Keeps i op
      (forEach (fun log => ignoringFailure
        (processTransferLog h log (loadWalletIndex h wallets) turns)) logs)
      (Ranging h finalizedHead cursor toBlock wallets) none
        (fun _ t => ∀ log ∈ logs, Done h log toBlock t)
      fun _ => False := by
    refine Custody.Keeps.forEachLeaving (fun log => stable_done log toBlock) fun log hmem => ?_
    obtain ⟨b, hlog⟩ := hfetched.only log hmem
    have hround : (scanCustody h).Upholds i op
        (ignoringFailure (processTransferLog h log (loadWalletIndex h wallets) turns))
          (Covers wallets toBlock) none
        (fun _ t held => held = none ∧ Done h log toBlock t) fun _ _ => False :=
      Custody.Upholds.ignoringFailure (keeps_processTransferLog hread hlog turns)
    refine (Custody.Upholds.frame hround hranging).weaken (fun t ht => ⟨ht.2, ht⟩) ?_
      fun _ _ hnever => hnever.1.elim
    rintro _ t held ⟨⟨hheld, hdone⟩, ht⟩
    exact ⟨hheld, ht, hdone⟩
  refine Custody.Keeps.andThen (F := fun _ => False)
    (R := fun _ t => (∀ log ∈ logs, Done h log toBlock t) ∧
      Ranging h finalizedHead cursor toBlock wallets t)
    ?_ (fun _ => ?_) fun _ hnever => hnever.elim
  · refine (Custody.Upholds.frame hloop hranging).weaken (fun t ht => ⟨ht, ht⟩) ?_
      fun _ _ hnever => ⟨hnever.1.1, hnever.1.2⟩
    rintro _ t held ⟨⟨hheld, hdone⟩, ht⟩
    exact ⟨hheld, hdone, ht⟩
  · refine Custody.Upholds.knowing (heeds_saveCursor toBlock turns) fun t ht =>
      ⟨ht.2.1.set_, ?_, ⟨_, ht.2.2.version, hread⟩⟩
    refine ht.2.1.scanned.extend ht.2.2 fun b hbehind hb log hlog hqualifies => ?_
    exact ht.1 log (fetched_of_qualifies hfetched ht.2.2 hbehind hb hlog hqualifies) b hlog hb

theorem keeps_scanOnce (turns : Turns) : (scanCustody h).Heeds i op (scanOnce h turns) none := by
  unfold scanOnce
  refine Custody.Keeps.andThen (keeps_getFinalizedBlockNumber turns) (fun finalizedHead => ?_)
    fun _ _ => ⟨rfl, trivial⟩
  refine Custody.Keeps.andThen (keeps_getCursor finalizedHead turns) (fun cursor => ?_)
    fun _ _ => ⟨rfl, trivial⟩
  dsimp only
  split
  · exact Custody.Upholds.pure fun _ _ => ⟨rfl, trivial⟩
  have hbound : ∀ t, From h finalizedHead cursor t →
      min finalizedHead (cursor + 1 + h.maxBlockSpan - 1) ≤ t.head :=
    fun t hfrom => (Nat.min_le_left _ _).trans hfrom.head
  generalize min finalizedHead (cursor + 1 + h.maxBlockSpan - 1) = toBlock at hbound
  refine Custody.Keeps.andThen (F := fun _ => True)
    (R := fun x t => ∀ wallets, x = .ok wallets → Ranging h finalizedHead cursor toBlock wallets t)
      ?_ (fun x => ?_)
    fun _ _ => ⟨rfl, trivial⟩
  · refine Custody.Keeps.read Onward.refl (fun _ => rfl) ?_ fun t H hinv hfrom wallets hread => ?_
    · exact fun x t t' hgrows hx wallets hwallets => stable_ranging _ _ _ wallets t t' hgrows
        (hx wallets hwallets)
    · obtain rfl := (Fate.told_eq_ok.mp hread).2
      exact ⟨hfrom, hbound t hfrom,
        fun b hb => hinv.steady b (hb.trans (hbound t hfrom)), hinv.version⟩
  · refine Custody.Upholds.checkedThen (fun _ _ _ _ => ⟨rfl, trivial⟩) fun wallets hwallets => ?_
    refine Custody.Upholds.knowing (K := Ranging h finalizedHead cursor toBlock wallets) ?_
      fun t hx => hx wallets hwallets
    split
    · next hempty =>
      -- Without vaults there is none that is no account, and nothing qualifies.
      have hnone : ∀ key, key ∉ (loadWalletIndex h wallets).keys := fun key => by simp [hempty]
      have hread : Readable h (addresses wallets) :=
        readable_of_keys fun key hkey => absurd hkey (hnone key)
      refine Custody.Upholds.knowing (heeds_saveCursor toBlock turns) fun t ht =>
        ⟨ht.1.set_, ?_, ⟨_, ht.2.version, hread⟩⟩
      refine ht.1.scanned.extend ht.2 fun b _ hb log _ hqualifies => ?_
      obtain ⟨⟨sender, recipient, -, ⟨address, hvault, hnames⟩, -⟩, -⟩ := hqualifies
      exact absurd (mem_keys.mpr ⟨address, ht.2.steady b hb address hvault, hnames⟩) (hnone _)
    · exact keeps_scanBlocks finalizedHead cursor toBlock wallets turns

theorem scanCustody_kept : (scanCustody h).Kept := by
  refine ⟨Onward.refl, ?_, ?_⟩
  · intro i op _
    cases op with
    | tick turns => exact (keeps_scanOnce turns).plays
    | changeWallets wallets =>
      refine Custody.Heeds.plays ?_
      refine Custody.Keeps.ask (fun _ => Custody.stable_const True) fun t H hinv _ _ _ => ?_
      exact ⟨onward_changeWallets wallets, hinv.changeWallets wallets, trivial⟩
  · intro n t H hinv _
    exact ⟨onward_finalize n, hinv.finalize n⟩

/-- Before the first scan. -/
structure Tables.Fresh (t : Tables) : Prop where
  cursor : t.cursor = none
  deposits : t.deposits.rows = []
  credited : t.credited = []
  steady : ∀ b ≤ t.head, ∀ a ∈ t.steady b, a ∈ addresses t.wallets
  version : addresses t.wallets ∈ t.versions

/-- In every run of any number of scans, with any of their requests failing, every deposit is
announced once at most, and every transfer to a vault in the blocks behind the first cursor and up
to the present one is recorded, unless its processing has failed. As long as some vault has a text
that is no address nothing is recorded, and the cursor stays where it began. -/
theorem deposits_scanned {start : Tables} {tr : Trace Tables Operation Request Answer}
    {c : Config Tables Operation Request Answer} (hstart : start.Fresh)
    (hrun : (depositService h).Runs start tr c)
    (hmeets : ∀ t ∈ tr, StoreService.Meets (finalBlocksStay h) t) :
    c.state.credited.Nodup ∧
    (∀ key ∈ c.state.credited, ∃ row ∈ c.state.deposits.rows, row.key = key) ∧
      (∀ row ∈ c.state.deposits.rows, ∃ b, ∃ log ∈ h.logs b, row.Of h log) ∧
      (∀ cursor, c.state.cursor = some cursor → ∀ b, c.state.start < b → b ≤ cursor →
        ∀ log ∈ h.logs b, Qualifies h c.state b log → Recorded h c.state log ∨
          log.key ∈ c.state.failed) ∧
      ((∀ version ∈ c.state.versions, ¬Readable h version) → Stalled c.state) := by
  have hfresh : Scanned h start fun _ => none := by
    refine ⟨?_, ?_, ?_, hstart.steady, hstart.version, .inr ⟨hstart.deposits, ?_⟩, ?_,
      fun _ _ hnone => (nomatch hnone), fun _ _ _ hnone => (nomatch hnone)⟩
    · rw [hstart.deposits]
      exact fun _ hmem => absurd hmem List.not_mem_nil
    · rw [hstart.credited]
      exact List.nodup_nil
    · rw [hstart.credited]
      exact fun _ hmem => absurd hmem List.not_mem_nil
    · rw [hstart.cursor]
      exact fun _ hmem => (nomatch hmem)
    · rw [hstart.cursor]
      exact fun _ hmem => (nomatch hmem)
  obtain ⟨H, hinv⟩ := scanCustody_kept.run hrun hmeets hfresh
  refine ⟨hinv.credited, hinv.backed, hinv.rows, ?_, ?_⟩
  · intro cursor hcursor b hbegun hb log hlog
    exact (hinv.cursor cursor hcursor b hbegun hb log hlog).2
  · intro hunread
    refine hinv.moved.resolve_left ?_
    rintro ⟨version, hversion, hreadable⟩
    exact hunread version hversion hreadable

end Scans

end VeriAgentPay.DepositScanning

namespace VeriAgentPay.Devnet
open InterleavedPrograms KeyedTables DepositScanning

section Addresses

/-- The last digits of a number, in base 16. -/
def hexDigits : ℕ → ℕ → List Char
  | 0, _ => []
  | k + 1, n => hexDigits k (n / 16) ++ [Nat.digitChar (n % 16)]

/-- `0x` and the forty digits of an account. -/
def hexAddress (a : Account) : String := String.ofList ('0' :: 'x' :: hexDigits 40 a.toNat)

/-- A text without capitals stays as it is. -/
def lowered (text : String) : String := if text.toList.any Char.isUpper then text.toLower else text

def accountOf (address : String) : Option Account :=
  match address.toList with
  | '0' :: 'x' :: digits =>
    if digits.length = 40 then (Backend.readDigits 16 digits).map (BitVec.ofInt 160) else none
  | _ => none

theorem digitChar_spec :
    ∀ d < 16, Backend.digitValue (Nat.digitChar d) = d ∧ (Nat.digitChar d).isUpper = false := by
  decide

theorem length_hexDigits (k n : ℕ) : (hexDigits k n).length = k := by
  induction k generalizing n with
  | zero => rfl
  | succ k ih => simp [hexDigits, ih]

theorem mem_hexDigits {c : Char} :
    ∀ {k n : ℕ}, c ∈ hexDigits k n → ∃ d < 16, c = Nat.digitChar d := by
  intro k
  induction k with
  | zero => exact fun hc => nomatch hc
  | succ k ih =>
    intro n hc
    rcases List.mem_append.mp hc with hc | hc
    · exact ih hc
    · exact ⟨n % 16, Nat.mod_lt _ (by decide), List.mem_singleton.mp hc⟩

theorem foldl_hexDigits (k n : ℕ) :
    (hexDigits k n).foldl (fun n c => n * 16 + Backend.digitValue c) 0 = n % 16 ^ k := by
  induction k generalizing n with
  | zero => simp [hexDigits, Nat.mod_one]
  | succ k ih =>
    rw [hexDigits, List.foldl_append, ih, List.foldl_cons, List.foldl_nil,
      (digitChar_spec _ (Nat.mod_lt _ (by decide))).1, Nat.pow_succ, Nat.mul_comm (16 ^ k) 16,
      Nat.mod_mul]
    omega

theorem readDigits_hexDigits (k n : ℕ) :
    Backend.readDigits 16 (hexDigits (k + 1) n) = some ((n % 16 ^ (k + 1) : ℕ) : ℤ) := by
  have hnonempty : hexDigits (k + 1) n ≠ [] :=
    List.ne_nil_of_length_pos (by simp [length_hexDigits])
  have hdigits : ¬(hexDigits (k + 1) n).any fun c => 16 ≤ Backend.digitValue c := by
    rw [List.any_eq_true]
    rintro ⟨c, hc, hlarge⟩
    obtain ⟨d, hd, rfl⟩ := mem_hexDigits hc
    rw [(digitChar_spec d hd).1] at hlarge
    exact absurd hd (not_lt.mpr (of_decide_eq_true hlarge))
  rw [Backend.readDigits, if_neg (by simp [hnonempty, hdigits]), foldl_hexDigits]

theorem lowered_hexAddress (a : Account) : lowered (hexAddress a) = hexAddress a := by
  have hlower : ¬('0' :: 'x' :: hexDigits 40 a.toNat).any Char.isUpper := by
    rw [List.any_eq_true]
    rintro ⟨c, hc, hupper⟩
    rcases List.mem_cons.mp hc with rfl | hc
    · exact absurd hupper (by decide)
    rcases List.mem_cons.mp hc with rfl | hc
    · exact absurd hupper (by decide)
    obtain ⟨d, hd, rfl⟩ := mem_hexDigits hc
    rw [(digitChar_spec d hd).2] at hupper
    cases hupper
  rw [lowered, if_neg]
  rwa [hexAddress, String.toList_ofList]

theorem accountOf_hexAddress (a : Account) : accountOf (lowered (hexAddress a)) = some a := by
  have hlt : a.toNat % 16 ^ (39 + 1) = a.toNat := Nat.mod_eq_of_lt a.isLt
  rw [lowered_hexAddress, accountOf, hexAddress, String.toList_ofList]
  simp only [length_hexDigits, if_true, readDigits_hexDigits, hlt, Option.map_some,
    Option.some.injEq]
  simp

end Addresses

/-- A transfer of 5 units to the vault of Ann, in block 11. -/
def incomingLog : Log := ⟨33, [TRANSFER_TOPIC, 9, padded 7], [5], 11, "0xb11", "0x1", 0⟩

/-- The addresses of this chain's accounts have no letters, so the checksum leaves them alone. -/
def depositHost : DepositScanning.Host where
  toLowerCase := lowered
  account := accountOf
  checksum := hexAddress
  account_checksum := accountOf_hexAddress
  logs b := if b = 11 then [incomingLog] else []
  distinct b b' log log' hlog hlog' _ := by
    split at hlog
    · split at hlog'
      · exact (List.mem_singleton.mp hlog).trans (List.mem_singleton.mp hlog').symm
      · cases hlog'
    · cases hlog
  maxBlockSpan := 100
  addressBatchSize := 50
  batchPos := by decide
  confirmations := 0
  startBlock := none
  protocolAddresses := []

def annsAddress : String := "0x0000000000000000000000000000000000000007"

/-- The address of a vault on Solana. -/
def bensVault : String := "7xKXtg2CW87d97TXJSDpbD5jBkheTqA83TZRuJosgAsU"

def watching (address : String) : DepositScanning.Tables where
  head := 10
  wallets := ⟨[⟨address, "ann"⟩], List.nodup_singleton _⟩
  cursor := none
  deposits := .empty
  start := 0
  steady _ := [address]
  versions := [[address]]
  credited := []
  failed := []

def scanTurns (finalized : ℕ) (createDeposit : Fate) : DepositScanning.Turns where
  finalized := some finalized
  finalizedFate := .answered
  latest := finalized
  latestFate := .answered
  findCursor := .answered
  createCursor := .answered
  wallets := .answered
  logs _ := .answered
  tokenIndex _ := some ⟨"USDC", 6⟩
  timestamp _ := none
  now := 1750000000
  getBlock _ := .answered
  createDeposit _ := createDeposit
  record _ := .answered
  saveCursor := .answered

/-- A scan, a new block, and the scan of it. -/
def twoScans (createDeposit : Fate) (n : ℕ) : List (Move DepositScanning.Operation) :=
  .start 0 (.tick (scanTurns 10 .answered)) :: List.replicate 3 (.step 0) ++
    [.pass 1, .start 1 (.tick (scanTurns 11 createDeposit))] ++ List.replicate n (.step 1)

instance : DecidablePred (finalBlocksStay depositHost).starts :=
  fun _ => inferInstanceAs (Decidable True)
instance (i : ℕ) (op : DepositScanning.Operation) (t : DepositScanning.Tables)
    (r : DepositScanning.Request) :
    Decidable ((finalBlocksStay depositHost).allows i op t r) := by
  cases r with
  | finalizedBlock number fate => exact inferInstanceAs (Decidable (∀ n ∈ number, _))
  | blockNumber number fate => exact inferInstanceAs (Decidable (_ ≤ _))
  | findCursor | createCursor | upsertCursor | findWallets | getLogs | getBlock | createDeposit
  | recordActivity | changeWallets => exact inferInstanceAs (Decidable True)
instance (t t' : DepositScanning.Tables) : Decidable ((finalBlocksStay depositHost).passes t t') :=
  inferInstanceAs (Decidable True)

structure ScanOutcome where
  head : ℕ
  cursor : Option ℕ
  start : ℕ
  keys : List (String × ℕ)
  credited : List (String × ℕ)
  failed : List (String × ℕ)
  steady : List String
  versions : List (List String)
  deriving DecidableEq

def scanOutcome (t : DepositScanning.Tables) : ScanOutcome :=
  ⟨t.head, t.cursor, t.start, t.deposits.rows.map Deposit.key, t.credited, t.failed, t.steady 11,
    t.versions⟩

/-- How the tables stand after two scans with one vault. -/
def scanned (address : String) (createDeposit : Fate) (n : ℕ) : Option ScanOutcome :=
  ((depositService depositHost).moves (finalBlocksStay depositHost)
    (Config.initial (watching address))
    (twoScans createDeposit n)).map fun c => scanOutcome c.state

theorem scans_computed :
    scanned annsAddress .refused 7 = some ⟨11, some 11, 10, [], [], [("0x1", 0)], [annsAddress],
      [[annsAddress]]⟩ ∧
      scanned annsAddress .answered 8 =
        some ⟨11, some 11, 10, [("0x1", 0)], [("0x1", 0)], [], [annsAddress], [[annsAddress]]⟩ ∧
      scanned bensVault .answered 3 = some ⟨11, some 10, 10, [], [], [], [bensVault],
        [[bensVault]]⟩ := by
  refine ⟨?_, ?_, ?_⟩ <;> decide +kernel

theorem annsAddress_eq : annsAddress = hexAddress 7 := by decide +kernel

theorem incomingLog_qualifies {t : DepositScanning.Tables} (hsteady : t.steady 11 = [annsAddress])
    (hversions : t.versions = [[annsAddress]]) : Qualifies depositHost t 11 incomingLog := by
  have hann : Names depositHost 7 annsAddress := by
    rw [annsAddress_eq]
    exact rfl
  have hsender : ¬Names depositHost ((9 : BitVec 256).setWidth 160) annsAddress := by
    unfold Names
    decide +kernel
  refine ⟨⟨9, 7, rfl, ⟨annsAddress, ?_, hann⟩, ?_, List.not_mem_nil⟩, 5, rfl, by decide⟩
  · rw [hsteady]
    exact List.mem_singleton.mpr rfl
  · intro version hversion address haddress
    rw [hversions] at hversion
    obtain rfl := List.mem_singleton.mp hversion
    obtain rfl := List.mem_singleton.mp haddress
    exact hsender

theorem fresh_watching (address : String) : (watching address).Fresh :=
  ⟨rfl, rfl, rfl, fun _ _ _ ha => ha, List.mem_singleton.mpr rfl⟩

/-- The insertion of a deposit fails once, and the cursor moves past it. -/
theorem deposit_passed_over :
    ∃ tr c, (depositService depositHost).Runs (watching annsAddress) tr c ∧
    (∀ t ∈ tr, StoreService.Meets (finalBlocksStay depositHost) t) ∧ c.state.cursor = some 11 ∧
    incomingLog ∈ depositHost.logs 11 ∧ Qualifies depositHost c.state 11 incomingLog ∧
    ¬Recorded depositHost c.state incomingLog := by
  obtain ⟨tr, c, hrun, hmeets, -, houtcome⟩ := StoreService.runs_of_computed scans_computed.1
  simp only [scanOutcome, ScanOutcome.mk.injEq] at houtcome
  obtain ⟨-, hcursor, -, hkeys, -, -, hsteady, hversions⟩ := houtcome
  refine ⟨tr, c, hrun, hmeets, hcursor, List.mem_singleton.mpr rfl,
    incomingLog_qualifies hsteady hversions, ?_⟩
  rintro ⟨row, hrow, -⟩
  rw [List.map_eq_nil_iff.mp hkeys] at hrow
  cases hrow

/-- One deposit is recorded and announced; with a vault on Solana in the table the cursor stays. -/
theorem deposits_scanned_devnet :
    (∃ tr c, (depositService depositHost).Runs (watching annsAddress) tr c ∧
      c.state.cursor = some 11 ∧
      c.state.credited = [incomingLog.key] ∧ Recorded depositHost c.state incomingLog) ∧
    ∃ tr c, (depositService depositHost).Runs (watching bensVault) tr c ∧ c.state.head = 11 ∧
      Stalled c.state := by
  constructor
  · obtain ⟨tr, c, hrun, hmeets, -, houtcome⟩ := StoreService.runs_of_computed scans_computed.2.1
    simp only [scanOutcome, ScanOutcome.mk.injEq] at houtcome
    obtain ⟨-, hcursor, hbegun, -, hcredited, hfailed, hsteady, hversions⟩ := houtcome
    have hscanned := deposits_scanned (fresh_watching annsAddress) hrun hmeets
    refine ⟨tr, c, hrun, hcursor, hcredited, ?_⟩
    have hhandled := hscanned.2.2.2.1 11 hcursor 11 (by omega) le_rfl incomingLog
      (List.mem_singleton.mpr rfl) (incomingLog_qualifies hsteady hversions)
    rw [hfailed] at hhandled
    exact hhandled.resolve_right List.not_mem_nil
  · obtain ⟨tr, c, hrun, hmeets, -, houtcome⟩ := StoreService.runs_of_computed scans_computed.2.2
    simp only [scanOutcome, ScanOutcome.mk.injEq] at houtcome
    obtain ⟨hhead, -, -, -, -, -, -, hversions⟩ := houtcome
    have hscanned := deposits_scanned (fresh_watching bensVault) hrun hmeets
    refine ⟨tr, c, hrun, hhead, hscanned.2.2.2.2 ?_⟩
    rw [hversions]
    intro version hversion hreadable
    obtain rfl := List.mem_singleton.mp hversion
    have haccount : (accountOf (lowered bensVault)).isSome :=
      hreadable bensVault (List.mem_singleton.mpr rfl)
    revert haccount
    decide +kernel

end VeriAgentPay.Devnet
