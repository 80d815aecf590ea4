import Mathlib.Logic.Function.Basic
import VeriAgentPay.FixedWidthArithmetic
import VeriAgentPay.CheckedOutcomes

/-!
# Accounts of the payment program and the ledger that holds them

The records are those of `state.rs`. An account's contents carry its owner with them: the
five record kinds belong to this program, mints and token accounts to the token program,
an empty account to the system program, and everything else is foreign. Accounts whose
address a constraint fixes to a constant (the instructions sysvar, the token, associated
token and system programs) are left out of the account lists.
-/

namespace VeriAgentPay
open FixedWidth CheckedOutcome

abbrev Pubkey := FixedBytes 32

/-- `Pubkey::default()`, which is also the system program's address. -/
def defaultPubkey : Pubkey := List.Vector.replicate 32 0

def asciiBytes (s : String) : Bytes := s.toList.map (fun c => UInt8.ofNat c.toNat)

def protocolSeed : Bytes := asciiBytes "protocol"
def vaultSeed : Bytes := asciiBytes "vault"
def sessionSeed : Bytes := asciiBytes "session"
def claimAuthoritySeed : Bytes := asciiBytes "claim_authority"
def paymentLinkSeed : Bytes := asciiBytes "payment_link"
def challengeDomain : Bytes := asciiBytes "VERIAGENT_SOLANA_V1"

def actionInitializeVault : UInt8 := 1
def actionGrantSession : UInt8 := 2
def actionTransfer : UInt8 := 3
def actionInitializeVaultAndGrantSession : UInt8 := 4
def actionTransferSol : UInt8 := 5
def actionCreateSolPaymentLink : UInt8 := 6
def actionCancelSolPaymentLink : UInt8 := 7

def sessionActionTransfer : UInt16 := 1
def supportedSessionActions : UInt16 := sessionActionTransfer
def maxSessionDurationSeconds : Int64 := 2592000
def maxPaymentLinkDurationSeconds : Int64 := 2592000
def maxAuthorizationTtlSeconds : Int64 := 300

def paymentLinkStatusActive : UInt8 := 0
def paymentLinkStatusClaimed : UInt8 := 1
def paymentLinkStatusCancelled : UInt8 := 2
def paymentLinkStatusRefunded : UInt8 := 3

structure ProtocolConfig where
  version : UInt8
  bump : UInt8
  paused : Bool
  authority : Pubkey
  stablecoinMint : Pubkey
  rpIdHash : FixedBytes 32
  originHash : FixedBytes 32
  clusterDomain : FixedBytes 32
  deriving DecidableEq

structure Vault where
  version : UInt8
  bump : UInt8
  rootPublicKey : FixedBytes 33
  rootKeyHash : FixedBytes 32
  userSalt : FixedBytes 32
  nonce : UInt64
  createdAt : Int64
  deriving DecidableEq

structure Session where
  version : UInt8
  bump : UInt8
  revoked : Bool
  vault : Pubkey
  publicKey : Pubkey
  actionBitmap : UInt16
  perActionLimit : UInt64
  cumulativeLimit : UInt64
  spent : UInt64
  validAfter : Int64
  validUntil : Int64
  nonce : UInt64
  deriving DecidableEq

structure ClaimAuthorityConfig where
  version : UInt8
  bump : UInt8
  authority : Pubkey
  deriving DecidableEq

structure PaymentLink where
  version : UInt8
  bump : UInt8
  status : UInt8
  senderVault : Pubkey
  mint : Pubkey
  linkId : FixedBytes 32
  recipientCommitment : FixedBytes 32
  amount : UInt64
  expiresAt : Int64
  createdAt : Int64
  settledAt : Int64
  claimedDestination : Pubkey
  deriving DecidableEq

/-- A mint of the token program; only its decimals are read. -/
structure Mint where
  decimals : UInt8
  deriving DecidableEq

/-- An initialized account of the token program. -/
structure TokenAccount where
  mint : Pubkey
  owner : Pubkey
  amount : UInt64
  frozen : Bool
  deriving DecidableEq

inductive AccountData where
  | empty
  | config (c : ProtocolConfig)
  | vault (v : Vault)
  | session (s : Session)
  | claimAuthority (c : ClaimAuthorityConfig)
  | link (l : PaymentLink)
  | mint (m : Mint)
  | token (t : TokenAccount)
  | foreign
  deriving DecidableEq

namespace AccountData

def config? : AccountData → Option ProtocolConfig
  | config c => some c
  | _ => none

def vault? : AccountData → Option Vault
  | vault v => some v
  | _ => none

def session? : AccountData → Option Session
  | session s => some s
  | _ => none

def claimAuthority? : AccountData → Option ClaimAuthorityConfig
  | claimAuthority c => some c
  | _ => none

def link? : AccountData → Option PaymentLink
  | link l => some l
  | _ => none

def mint? : AccountData → Option Mint
  | mint m => some m
  | _ => none

def token? : AccountData → Option TokenAccount
  | token t => some t
  | _ => none

@[simp] theorem config?_eq_some {d : AccountData} {c : ProtocolConfig} :
    d.config? = some c ↔ d = config c := by cases d <;> simp [config?]

@[simp] theorem vault?_eq_some {d : AccountData} {v : Vault} :
    d.vault? = some v ↔ d = vault v := by cases d <;> simp [vault?]

@[simp] theorem session?_eq_some {d : AccountData} {s : Session} :
    d.session? = some s ↔ d = session s := by cases d <;> simp [session?]

@[simp] theorem claimAuthority?_eq_some {d : AccountData} {c : ClaimAuthorityConfig} :
    d.claimAuthority? = some c ↔ d = claimAuthority c := by cases d <;> simp [claimAuthority?]

@[simp] theorem link?_eq_some {d : AccountData} {l : PaymentLink} :
    d.link? = some l ↔ d = link l := by cases d <;> simp [link?]

@[simp] theorem mint?_eq_some {d : AccountData} {m : Mint} :
    d.mint? = some m ↔ d = mint m := by cases d <;> simp [mint?]

@[simp] theorem token?_eq_some {d : AccountData} {t : TokenAccount} :
    d.token? = some t ↔ d = token t := by cases d <;> simp [token?]

@[simp] theorem vault?_vault (v : Vault) : (vault v).vault? = some v := rfl

@[simp] theorem session?_session (s : Session) : (session s).session? = some s := rfl

@[simp] theorem session?_empty : empty.session? = none := rfl

@[simp] theorem link?_link (l : PaymentLink) : (link l).link? = some l := rfl

/-- Accounts that only this program can write or debit. -/
def programOwned : AccountData → Bool
  | config _ | vault _ | session _ | claimAuthority _ | link _ => true
  | _ => false

/-- `data_len` of the two kinds lamports are taken from: the discriminator and `INIT_SPACE`. -/
def dataLen : AccountData → ℕ
  | empty => 0
  | config _ => 8 + (1 + 1 + 1 + 32 + 32 + 32 + 32 + 32)
  | vault _ => 8 + (1 + 1 + 33 + 32 + 32 + 8 + 8)
  | session _ => 8 + (1 + 1 + 1 + 32 + 32 + 2 + 8 + 8 + 8 + 8 + 8 + 8)
  | claimAuthority _ => 8 + (1 + 1 + 32)
  | link _ => 8 + (1 + 1 + 1 + 32 + 32 + 32 + 32 + 8 + 8 + 8 + 8 + 32)
  | mint _ => 82
  | token _ => 165
  | foreign => 0

end AccountData

/-- The ledger at one instant, with the clock sysvar's unix timestamp. -/
structure World where
  now : Int64
  lamports : Pubkey → UInt64
  data : Pubkey → AccountData

namespace World

def setLamports (w : World) (k : Pubkey) (v : UInt64) : World :=
  { w with lamports := Function.update w.lamports k v }

def setData (w : World) (k : Pubkey) (d : AccountData) : World :=
  { w with data := Function.update w.data k d }

@[simp] theorem setLamports_now (w : World) (k : Pubkey) (v : UInt64) :
    (w.setLamports k v).now = w.now := rfl

@[simp] theorem setLamports_data (w : World) (k : Pubkey) (v : UInt64) :
    (w.setLamports k v).data = w.data := rfl

@[simp] theorem setLamports_lamports (w : World) (k : Pubkey) (v : UInt64) :
    (w.setLamports k v).lamports = Function.update w.lamports k v := rfl

@[simp] theorem setData_now (w : World) (k : Pubkey) (d : AccountData) :
    (w.setData k d).now = w.now := rfl

@[simp] theorem setData_lamports (w : World) (k : Pubkey) (d : AccountData) :
    (w.setData k d).lamports = w.lamports := rfl

@[simp] theorem setData_data (w : World) (k : Pubkey) (d : AccountData) :
    (w.setData k d).data = Function.update w.data k d := rfl

/-- Accounts with different contents are different accounts. -/
theorem ne_of_data {w : World} {k k' : Pubkey} {d d' : AccountData} (h : w.data k = d)
    (h' : w.data k' = d') (hne : d ≠ d') : k ≠ k' := by
  rintro rfl
  exact hne (h.symm.trans h')

/-- Tokens held at an address, zero where no token account is. -/
def tokenBalance (w : World) (k : Pubkey) : ℕ :=
  match w.data k with
  | .token t => t.amount.toNat
  | _ => 0

theorem tokenBalance_of_token {w : World} {k : Pubkey} {t : TokenAccount}
    (h : w.data k = .token t) :
    w.tokenBalance k = t.amount.toNat := by simp [tokenBalance, h]

theorem tokenBalance_congr {w w' : World} {k : Pubkey} (h : w'.data k = w.data k) :
    w'.tokenBalance k = w.tokenBalance k := by simp [tokenBalance, h]

end World

end VeriAgentPay
