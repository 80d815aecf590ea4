import VeriAgentPay.BackendStore

/-!
# Actions that a session key signs

The services of the splits, requests, envelopes, pools and subscriptions move money with
`executeLocalSessionAction` of the relayer. The relayer that the module provides under the name
of `RelayerService` is `SolanaRelayerService`, which refuses every such action.
-/

namespace VeriAgentPay.SessionActions
open Backend (Failure)
open CheckedOutcome (orError)

structure ActionResult where
  success : Bool
  txHash : Option String
  message : Option String
  deriving DecidableEq

/-- The arguments are not looked at. -/
def executeLocalSessionAction : Except Failure ActionResult :=
  .error (.badRequest "This feature has not yet been routed to its native Solana instruction.")

/-- `if (!result.success || !result.txHash)`. -/
def ActionResult.settled (result : ActionResult) (e : Failure) : Except Failure String :=
  if result.success then orError (result.txHash.filter (· ≠ "")) e else .error e

/-- What an action leaves: `done` if it has succeeded. -/
def afterAction {σ : Type} (result : Except Failure ActionResult) (s done : σ) : σ :=
  match result with
  | .ok result => if result.success then done else s
  | .error _ => s

/-- The answer of the relayer. -/
def NotRouted (answer : Except Failure ActionResult) : Prop := answer = executeLocalSessionAction

@[simp] theorem afterAction_executeLocalSessionAction {σ : Type} (s done : σ) :
    afterAction executeLocalSessionAction s done = s := rfl

theorem NotRouted.ne_ok {answer : Except Failure ActionResult} (h : NotRouted answer)
    (result : ActionResult) : answer ≠ .ok result := by
  rw [h]
  exact nofun

end VeriAgentPay.SessionActions
