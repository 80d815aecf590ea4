import VeriAgentPay.BackendStore
import VeriAgentPay.KeyedTables
import VeriAgentPay.ProgramCustody
import Mathlib.Data.Rat.Floor
import Mathlib.Algebra.BigOperators.Group.List.Basic

/-!
# Public envelopes

A public envelope is claimed in random shares. The envelope's counters and the claims are written in
one batch, guarded by the counter that the call has read. Amounts are exact decimals.
-/

namespace VeriAgentPay.PublicEnvelopes
open InterleavedPrograms KeyedTables
open InterleavedPrograms.Fallible (checked check onFailure dropResult)
open Backend (Failure)
open CheckedOutcome (orError)

section Tables

inductive EnvelopeStatus where
  | active | completed
  deriving DecidableEq

structure PublicEnvelope where
  totalAmount : ℚ
  remainingBalance : ℚ
  maxClaims : ℕ
  remainingClaims : ℕ
  status : EnvelopeStatus
  deriving DecidableEq

structure PublicEnvelopeClaim where
  claimerAddress : String
  amount : ℚ
  /-- The call that has inserted the row. -/
  call : ℕ
  deriving DecidableEq

/-- The rows of one envelope. -/
structure Tables where
  envelope : Option PublicEnvelope
  claims : Keyed PublicEnvelopeClaim.claimerAddress
  /-- The calls that have thrown. -/
  thrown : List ℕ

/-- `x.toFixed(2)`, of a number that is not negative. -/
def toFixed2 (x : ℚ) : ℚ := ⌊x * 100 + 1 / 2⌋ / 100

/-- A share that was drawn: around the average of what is left, but not below one half. -/
def drawnShare (remainingBalance : ℚ) (remainingClaims : ℕ) (random : ℚ) : ℚ :=
  max (1 / 2) (remainingBalance / remainingClaims * (random * (4 / 5) + 3 / 5))

def claimAmount (env : PublicEnvelope) (random : ℚ) : ℚ :=
  toFixed2 (min env.remainingBalance (drawnShare env.remainingBalance env.remainingClaims random))

/-- The counters after a claim. -/
def PublicEnvelope.after (env : PublicEnvelope) (amount : ℚ) : PublicEnvelope :=
  { env with
    remainingBalance := max 0 (env.remainingBalance - amount)
    remainingClaims := env.remainingClaims - 1
    status := if env.remainingClaims - 1 = 0 then .completed else .active }

/-- `createPublicEnvelope`: what is stored. -/
def createPublicEnvelope (totalAmount : ℚ) (maxClaims : Option ℕ) : Except Failure PublicEnvelope :=
  if totalAmount ≤ 0 then .error (.badRequest "Total amount must be > 0")
  else
    let maxClaims := min 1000 (max 1 (((maxClaims.filter (· ≠ 0)).getD 100)))
    .ok ⟨totalAmount, totalAmount, maxClaims, maxClaims, .active⟩

end Tables

section Requests

inductive Request where
  | findEnvelope
  | findClaim (claimerAddress : String)
  /-- The batch: the update where the counter is as it was read, and the insert. -/
  | claimBatch (env : PublicEnvelope) (random : ℚ) (claimerAddress : String) (amount : ℚ)
  /-- The call throws. -/
  | throws

/-- How a batch ends. -/
inductive Batch where
  | committed (count : ℕ)
  | uniqueViolation
  deriving DecidableEq

abbrev Answer : Request → Type
  | .findEnvelope => Option PublicEnvelope
  | .findClaim _ => Option PublicEnvelopeClaim
  | .claimBatch _ _ _ _ => Batch
  | .throws => Unit

abbrev Service (α : Type) := Fallible Failure Request Answer α

abbrev ask (r : Request) : Service (Answer r) := Fallible.ask r

def Tables.matching (t : Tables) (env : PublicEnvelope) : Bool :=
  t.envelope.any fun row => row.remainingClaims = env.remainingClaims

/-- A request of a call, carried out at once. A batch whose insert fails leaves nothing. -/
def carry (i : ℕ) (t : Tables) : (r : Request) → Answer r × Tables
  | .findEnvelope => (t.envelope, t)
  | .findClaim claimerAddress => (t.claims.find? claimerAddress, t)
  | .claimBatch env _ claimerAddress amount =>
    match t.claims.insert ⟨claimerAddress, amount, i⟩ with
    | none => (.uniqueViolation, t)
    | some claims =>
      (.committed (if t.matching env then 1 else 0),
        { t with
          envelope := if t.matching env then t.envelope.map fun row =>
              { row with
                remainingBalance := (env.after amount).remainingBalance
                remainingClaims := (env.after amount).remainingClaims
                status := (env.after amount).status }
            else t.envelope
          claims := claims })
  | .throws => ((), { t with thrown := i :: t.thrown })

end Requests

section Services

def getPublicEnvelope : Service PublicEnvelope := do
  let envelope ← ask .findEnvelope
  checked (orError envelope (.notFound "Public envelope not found"))

/-- The amount that is paid. -/
def claimPublicEnvelope (claimerAddress : String) (random : ℚ) : Service ℚ := do
  let env ← getPublicEnvelope
  check (¬(env.remainingClaims = 0 ∨ env.remainingBalance ≤ 0))
    (.badRequest "Public envelope drop fully claimed")
  let existingClaim ← ask (.findClaim claimerAddress)
  check existingClaim.isNone (.badRequest "You have already claimed from this envelope")
  let batch ← ask (.claimBatch env random claimerAddress (claimAmount env random))
  check (batch ≠ .uniqueViolation) (.badRequest "You have already claimed from this envelope")
  check (batch = .committed 1) (.badRequest "Envelope was claimed concurrently. Please try again.")
  pure (claimAmount env random)

structure Operation where
  claimerAddress : String
  /-- What `Math.random` returns. -/
  random : ℚ
  drawn : 0 ≤ random ∧ random < 1

def Operation.program (op : Operation) : Program Request Answer Unit :=
  dropResult (onFailure (claimPublicEnvelope op.claimerAddress op.random) (ask .throws))

def envelopeService : StoreService Tables Operation Request Answer where
  program := Operation.program
  carry i _ := carry i
  passes _ t := t

end Services

section Amounts

/-- What is at least half a cent is rounded to a cent or more. -/
theorem toFixed2_pos {x : ℚ} (hx : 1 / 200 ≤ x) : 0 < toFixed2 x := by
  have hone : (1 : ℤ) ≤ ⌊x * 100 + 1 / 2⌋ := Int.le_floor.mpr (by push_cast; linarith)
  have hcast : (1 : ℚ) ≤ ⌊x * 100 + 1 / 2⌋ := by exact_mod_cast hone
  exact div_pos (by linarith) (by norm_num)

theorem claimAmount_pos {env : PublicEnvelope} (hbalance : 1 / 200 ≤ env.remainingBalance)
    (random : ℚ) :
    0 < claimAmount env random := by
  refine toFixed2_pos (le_min hbalance ?_)
  calc (1 : ℚ) / 200 ≤ 1 / 2 := by norm_num
    _ ≤ drawnShare env.remainingBalance env.remainingClaims random := le_max_left _ _

end Amounts

section Accounting

/-- What is drawn, or the balance where that is less, is not rounded up over the balance; and it
leaves at least half a cent, unless the claim is the last. -/
def Covered (env : PublicEnvelope) (random : ℚ) : Prop :=
  let share :=
    toFixed2 (min env.remainingBalance (drawnShare env.remainingBalance env.remainingClaims random))
  share ≤ env.remainingBalance ∧ (env.remainingClaims = 1 ∨ 1 / 200 ≤ env.remainingBalance - share)

instance (env : PublicEnvelope) (random : ℚ) : Decidable (Covered env random) :=
  inferInstanceAs (Decidable (_ ∧ _))

/-- Nobody has claimed since the call has read the envelope, which has as much as is drawn. -/
def ClaimsAlone (t : Tables) (env : PublicEnvelope) (random : ℚ) : Prop :=
  t.envelope = some env ∧ Covered env random

instance (t : Tables) (env : PublicEnvelope) (random : ℚ) : Decidable (ClaimsAlone t env random) :=
  inferInstanceAs (Decidable (_ ∧ _))

/-- Where a claim is inserted. -/
def sharesLeft : StoreService.Conditions Tables Operation Request where
  starts _ := True
  allows _ _ t
    | .claimBatch env random claimerAddress _ =>
      t.claims.find? claimerAddress = none → ClaimsAlone t env random
    | _ => True
  passes _ _ := True

/-- The counters agree with the claims, and every claim that is left can be made. -/
structure Accounts (env : PublicEnvelope) (claims : List PublicEnvelopeClaim) : Prop where
  counted : claims.length + env.remainingClaims = env.maxClaims
  summed : (claims.map PublicEnvelopeClaim.amount).sum + env.remainingBalance = env.totalAmount
  paid : ∀ claim ∈ claims, 0 < claim.amount
  left : 0 < env.remainingClaims → 1 / 200 ≤ env.remainingBalance

/-- What a call has come to. -/
inductive Progress where
  | begun | claimed | thrown
  deriving DecidableEq

/-- The invariant. -/
structure Accounted (t : Tables) (H : ℕ → Progress) : Prop where
  envelope : ∀ env ∈ t.envelope, Accounts env t.claims.rows
  claimed : ∀ claim ∈ t.claims.rows, H claim.call = .claimed
  thrown : ∀ i ∈ t.thrown, H i = .thrown

def envelopeCustody : Custody Tables Operation Request Answer Progress where
  service := envelopeService
  conditions := sharesLeft
  inv := Accounted
  grows _ _ := True
  idle := .begun

variable {t : Tables} {H : ℕ → Progress} {env : PublicEnvelope} {claims : List PublicEnvelopeClaim}
  {i : ℕ} {op : Operation}

/-- A claim is added. -/
theorem Accounts.claim (h : Accounts env claims) {random : ℚ} (hclaims : 0 < env.remainingClaims)
    (hcovered : Covered env random) (claimerAddress : String) (call : ℕ) :
    Accounts (env.after (claimAmount env random))
      (claims ++ [⟨claimerAddress, claimAmount env random, call⟩]) := by
  have hbalance := h.left hclaims
  have hle : claimAmount env random ≤ env.remainingBalance := hcovered.1
  have hrest : (env.after (claimAmount env random)).remainingBalance = env.remainingBalance -
      claimAmount env random :=
    max_eq_right (by linarith)
  constructor
  · have hcounted := h.counted
    show (claims ++ [_]).length + (env.remainingClaims - 1) = env.maxClaims
    rw [List.length_append, List.length_singleton]
    omega
  · have hsummed := h.summed
    rw [hrest, List.map_append, List.sum_append, List.map_singleton, List.sum_singleton]
    show _ = env.totalAmount
    dsimp only
    linarith
  · intro claim hclaim
    rcases List.mem_append.mp hclaim with hold | hnew
    · exact h.paid claim hold
    · rw [List.mem_singleton.mp hnew]
      exact claimAmount_pos hbalance random
  · intro hleft
    have hleft' : 0 < env.remainingClaims - 1 := hleft
    rw [hrest]
    exact hcovered.2.resolve_left (by omega)

theorem Accounted.hold (h : Accounted t H) (hbegun : H i = .begun) (progress : Progress) :
    (∀ claim ∈ t.claims.rows, Function.update H i progress claim.call = .claimed) ∧
      ∀ j ∈ t.thrown, Function.update H i progress j = .thrown := by
  constructor
  · intro claim hclaim
    have hheld := h.claimed claim hclaim
    have hne : claim.call ≠ i := by
      rintro rfl
      rw [hbegun] at hheld
      cases hheld
    rw [Function.update_of_ne hne]
    exact hheld
  · intro j hj
    have hheld := h.thrown j hj
    have hne : j ≠ i := by
      rintro rfl
      rw [hbegun] at hheld
      cases hheld
    rw [Function.update_of_ne hne]
    exact hheld

theorem carry_claimBatch {random : ℚ} {claimerAddress : String} {amount : ℚ}
    {rows : Keyed PublicEnvelopeClaim.claimerAddress} (henvelope : t.envelope = some env)
    (hinsert : t.claims.insert ⟨claimerAddress, amount, i⟩ = some rows) :
    carry i t (.claimBatch env random claimerAddress amount) =
      (.committed 1, { t with envelope := some (env.after amount), claims := rows }) := by
  simp only [carry, hinsert, Tables.matching, henvelope, Option.any_some, decide_true, if_true,
    Option.map_some]
  rfl

/-- The batch inserts a claim where the counters are as they were read, or nothing. -/
theorem upholds_claimBatch {random : ℚ} {claimerAddress : String} {E : Tables → Progress → Prop}
    (hclaims : 0 < env.remainingClaims) :
    envelopeCustody.Upholds i op
      (ask (.claimBatch env random claimerAddress (claimAmount env random))) (fun _ => True) .begun
      (fun batch _ progress => progress = (if batch = .committed 1 then .claimed else .begun) ∧
        (batch = .committed 1 ∨ batch = .uniqueViolation)) E := by
  refine Custody.Upholds.ask (D := envelopeCustody)
    (r := .claimBatch env random claimerAddress (claimAmount env random))
    (fun batch : Batch => if batch = .committed 1 then .claimed else .begun)
      (fun _ => Custody.stable_const _) ?_
  intro t H hinv _ hbegun hallows
  have hinv : Accounted t H := hinv
  refine ⟨trivial, ?_⟩
  show Accounted (carry i t (.claimBatch env random claimerAddress (claimAmount env random))).2
      (Function.update H i
      (if (carry i t (.claimBatch env random claimerAddress (claimAmount env random))).1 =
        .committed 1 then .claimed else .begun)) ∧
    ((carry i t (.claimBatch env random claimerAddress (claimAmount env random))).1 =
      Batch.committed 1 ∨
      (carry i t (.claimBatch env random claimerAddress (claimAmount env random))).1 =
        Batch.uniqueViolation)
  cases hinsert : t.claims.insert ⟨claimerAddress, claimAmount env random, i⟩ with
  | none =>
    have hcarry : carry i t (.claimBatch env random claimerAddress (claimAmount env random)) =
        (.uniqueViolation, t) := by
      simp only [carry, hinsert]
    have hsame : Function.update H i .begun = H := by
      rw [← hbegun]
      exact Function.update_eq_self i H
    rw [hcarry, if_neg (fun h => nomatch h), hsame]
    exact ⟨hinv, .inr rfl⟩
  | some rows =>
    have hnew : t.claims.find? claimerAddress = none := by
      rw [Keyed.find?_eq_none]
      intro row hrow hsame
      rw [Keyed.insert_eq_none.mpr ⟨row, hrow, hsame⟩] at hinsert
      cases hinsert
    obtain ⟨henvelope, hcovered⟩ := hallows hnew
    rw [carry_claimBatch henvelope hinsert, if_pos rfl]
    obtain ⟨hclaimed, hthrown⟩ := hinv.hold hbegun .claimed
    refine ⟨⟨?_, ?_, hthrown⟩, .inl rfl⟩
    · rintro _ ⟨⟩
      dsimp only
      rw [Keyed.rows_of_insert hinsert]
      exact (hinv.envelope env henvelope).claim hclaims hcovered claimerAddress i
    · intro claim hclaim
      rcases (Keyed.mem_insert hinsert).mp hclaim with hold | rfl
      · exact hclaimed claim hold
      · exact Function.update_self ..

theorem upholds_throws {E : Tables → Progress → Prop} :
    envelopeCustody.Upholds i op (ask .throws) (fun _ => True) .begun (fun _ _ _ => True) E := by
  refine Custody.Upholds.weaken (Custody.Upholds.handOver .thrown ?_) (fun _ h => h)
    (fun _ _ _ _ => trivial) fun _ _ h => h
  intro t H hinv _ hbegun _
  have hinv : Accounted t H := hinv
  obtain ⟨hclaimed, hthrown⟩ := hinv.hold hbegun .thrown
  refine ⟨trivial, hinv.envelope, hclaimed, ?_⟩
  intro j hj
  rcases List.mem_cons.mp hj with rfl | hj
  · exact Function.update_self ..
  · exact hthrown j hj

theorem upholds_claimPublicEnvelope {claimerAddress : String} {random : ℚ} :
    envelopeCustody.Upholds i op (claimPublicEnvelope claimerAddress random) (fun _ => True) .begun
      (fun _ _ _ => True)
      fun _ progress => progress = .begun := by
  unfold claimPublicEnvelope getPublicEnvelope
  refine Custody.Upholds.bind (S := fun _ _ progress => progress = .begun) ?_ ?_
  · apply Custody.Upholds.lookThen (fun _ => trivial) (fun _ => rfl) (Custody.stable_const True)
    intro envelope
    exact Custody.Upholds.checked (fun _ _ _ _ => rfl) fun _ _ _ _ => rfl
  intro env progress
  apply Custody.Upholds.given fun _ h => h
  rintro rfl
  refine Custody.Upholds.checkThen (fun _ _ _ => rfl) ?_
  intro hopen
  push Not at hopen
  apply Custody.Upholds.lookThen (fun _ => trivial) (fun _ => rfl) (Custody.stable_const _)
  intro existingClaim
  refine Custody.Upholds.checkThen (fun _ _ _ => rfl) ?_
  intro _
  refine Custody.Upholds.bind
    ((upholds_claimBatch (Nat.pos_of_ne_zero hopen.1)).knowing fun _ _ => trivial) ?_
  intro batch progress
  apply Custody.Upholds.given fun _ h => h
  rintro ⟨rfl, rfl | rfl⟩
  · refine Custody.Upholds.checkThen (fun hne => absurd (fun h => nomatch h) hne) ?_
    intro _
    refine Custody.Upholds.checkThen (fun hne => absurd rfl hne) ?_
    intro _
    apply Custody.Upholds.pure
    exact fun _ _ => trivial
  · refine Custody.Upholds.checkThen (fun _ _ _ => rfl) ?_
    intro hne
    exact absurd rfl hne

theorem envelopeCustody_kept : envelopeCustody.Kept where
  refl _ := trivial
  programs i op _ := by
    refine Custody.Upholds.dropResult (Custody.Upholds.onFailure upholds_claimPublicEnvelope ?_)
    intro progress
    apply Custody.Upholds.given fun _ h => h
    rintro rfl
    exact upholds_throws.knowing fun _ _ => trivial
  passes _ _ _ h _ := ⟨trivial, h⟩

/-- A claim that is left can be made by whoever has none, whatever is drawn. -/
theorem eval_claimPublicEnvelope {t : Tables} {claimerAddress : String} {random : ℚ} (i : ℕ)
    (henvelope : t.envelope = some env)
    (hnew : ∀ claim ∈ t.claims.rows, claim.claimerAddress ≠ claimerAddress)
    (hclaims : 0 < env.remainingClaims) (hbalance : 0 < env.remainingBalance) :
    ((claimPublicEnvelope claimerAddress random).eval (carry i) t).1 = .ok
      (claimAmount env random) := by
  have hfind : t.claims.find? claimerAddress = none := Keyed.find?_eq_none.mpr hnew
  have hget : getPublicEnvelope.eval (carry i) t = (.ok env, t) := by
    unfold getPublicEnvelope
    rw [Fallible.eval_ask_of (rfl : carry i t .findEnvelope = (t.envelope, t)), henvelope]
    rfl
  cases hinsert : t.claims.insert ⟨claimerAddress, claimAmount env random, i⟩ with
  | none =>
    obtain ⟨row, hrow, hsame⟩ := Keyed.insert_eq_none.mp hinsert
    exact absurd hsame (hnew row hrow)
  | some rows =>
    have hbatch : carry i t (.claimBatch env random claimerAddress (claimAmount env random)) =
        (.committed 1,
          { t with envelope := some (env.after (claimAmount env random)), claims := rows }) :=
      carry_claimBatch henvelope hinsert
    have hopen : ¬(env.remainingClaims = 0 ∨ env.remainingBalance ≤ 0) := by
      push Not
      exact ⟨hclaims.ne', hbalance⟩
    have hnone : (none : Option PublicEnvelopeClaim).isNone = true := rfl
    have hcommitted : Batch.committed 1 ≠ .uniqueViolation := fun h => nomatch h
    have hone : Batch.committed 1 = .committed 1 := rfl
    unfold claimPublicEnvelope
    rw [Fallible.eval_andThen_ok hget, Fallible.eval_check_of hopen,
      Fallible.eval_ask_of
        (rfl : carry i t (.findClaim claimerAddress) = (t.claims.find? claimerAddress, t)), hfind,
      Fallible.eval_check_of hnone, Fallible.eval_ask_of hbatch, Fallible.eval_check_of hcommitted,
      Fallible.eval_check_of hone]
    rfl

variable {start : Tables} {tr : Trace Tables Operation Request Answer}
  {c : Config Tables Operation Request Answer}

/-- The counters agree with the claims, at most one is a claimer's, and a call that has thrown has
left none; what is left can be claimed by anybody who has no claim, whatever is drawn, and pays
something. -/
structure ClaimsExact (t : Tables) : Prop where
  accounts : ∀ env ∈ t.envelope, Accounts env t.claims.rows
  distinct : (t.claims.rows.map PublicEnvelopeClaim.claimerAddress).Nodup
  claimable : ∀ env ∈ t.envelope, 0 < env.remainingClaims → ∀ claimerAddress,
    (∀ claim ∈ t.claims.rows, claim.claimerAddress ≠ claimerAddress) →
    ∀ random i, ∃ amount, 0 < amount ∧
      ((claimPublicEnvelope claimerAddress random).eval (carry i) t).1 = .ok amount
  thrown : ∀ i ∈ t.thrown, ∀ claim ∈ t.claims.rows, claim.call ≠ i

/-- An envelope that was created with half a cent at least: in every interleaving in which nobody
claims between another's reading the envelope and its batch, and the envelope covers what is
drawn. -/
theorem public_envelope_claims_exact {totalAmount : ℚ} {maxClaims : Option ℕ} {env : PublicEnvelope}
    (hcreated : createPublicEnvelope totalAmount maxClaims = .ok env)
    (htotal : 1 / 200 ≤ totalAmount) (hrun : envelopeService.Runs ⟨some env, .empty, []⟩ tr c)
    (hmeets : ∀ t ∈ tr, StoreService.Meets sharesLeft t) :
    ClaimsExact c.state := by
  have hstart : Accounted ⟨some env, .empty, []⟩ fun _ => .begun := by
    unfold createPublicEnvelope at hcreated
    split_ifs at hcreated
    cases hcreated
    constructor
    · rintro _ ⟨⟩
      refine ⟨Nat.zero_add _, ?_, fun _ h => (nomatch h), fun _ => htotal⟩
      simp [Keyed.empty]
    · intro claim hclaim
      cases hclaim
    · intro i hi
      cases hi
  obtain ⟨H, hfinish⟩ := envelopeCustody_kept.run hrun hmeets hstart
  have hfinish : Accounted c.state H := hfinish
  refine ⟨hfinish.envelope, c.state.claims.distinct, ?_, ?_⟩
  · intro env henv hclaims claimerAddress hnew random i
    have hleft := (hfinish.envelope env henv).left hclaims
    exact ⟨claimAmount env random, claimAmount_pos hleft random,
      eval_claimPublicEnvelope i henv hnew hclaims (lt_of_lt_of_le (by norm_num) hleft)⟩
  · rintro i hi claim hclaim rfl
    have hclaimed := hfinish.claimed claim hclaim
    rw [hfinish.thrown _ hi] at hclaimed
    cases hclaimed

end Accounting

end VeriAgentPay.PublicEnvelopes

namespace VeriAgentPay.Devnet
open InterleavedPrograms PublicEnvelopes

def drop (env : PublicEnvelope) : PublicEnvelopes.Tables := ⟨some env, .empty, []⟩

/-- A claim that draws the smallest share. -/
def claimBy (claimerAddress : String) : PublicEnvelopes.Operation :=
  ⟨claimerAddress, 0, by norm_num⟩

def claimCall (i n : ℕ) (claimerAddress : String) : List (Move PublicEnvelopes.Operation) :=
  .start i (claimBy claimerAddress) :: List.replicate n (.step i)

/-- The envelope, what was paid to which calls, and the calls that have thrown. -/
def dropFacts (t : PublicEnvelopes.Tables) : Option PublicEnvelope × List (ℚ × ℕ) × List ℕ :=
  (t.envelope, t.claims.rows.map fun claim => (claim.amount, claim.call), t.thrown)

def dropAfter (start : PublicEnvelope) (schedule : List (Move PublicEnvelopes.Operation)) :
    Option (Option PublicEnvelope × List (ℚ × ℕ) × List ℕ) :=
  (envelopeService.moves StoreService.anything (Config.initial (drop start)) schedule).map
    fun c => dropFacts c.state

def tenForTwo : PublicEnvelope := ⟨10, 10, 2, 2, .active⟩

/-- Two calls read the same counter. -/
def claimedTogether : List (Move PublicEnvelopes.Operation) :=
  claimCall 0 2 "ann" ++ claimCall 1 2 "ben" ++ [.step 0, .step 1, .step 1]

theorem drops_computed :
    dropAfter tenForTwo claimedTogether = some (some ⟨10, 7, 2, 1, .active⟩,
      [(3, 0), (3, 1)], [1]) ∧
      dropAfter ⟨1 / 2, 1 / 2, 2, 2, .active⟩ (claimCall 0 3 "ann") = some
        (some ⟨1 / 2, 0, 2, 1, .active⟩, [(1 / 2, 0)], []) ∧
      dropAfter ⟨3 / 500, 3 / 500, 1, 1, .active⟩ (claimCall 0 3 "ann") =
        some (some ⟨3 / 500, 0, 1, 0, .completed⟩, [(1 / 100, 0)], []) := by
  refine ⟨?_, ?_, ?_⟩ <;> decide +kernel

/-- Claims by two calls that have read the same counter, an envelope with too little for its claims,
and one whose total is not in cents. -/
theorem public_envelope_overclaimed :
    (∃ tr c, createPublicEnvelope 10 (some 2) = .ok tenForTwo ∧
      envelopeService.Runs (drop tenForTwo) tr c ∧
      ∃ env ∈ c.state.envelope, c.state.claims.rows.length + env.remainingClaims ≠ env.maxClaims ∧
        ∃ i ∈ c.state.thrown, ∃ claim ∈ c.state.claims.rows, claim.call = i) ∧
    (∃ start tr c, createPublicEnvelope (1 / 2) (some 2) = .ok start ∧
      envelopeService.Runs (drop start) tr c ∧
      ∃ env ∈ c.state.envelope, 0 < env.remainingClaims ∧ env.remainingBalance = 0) ∧
    ∃ start tr c, createPublicEnvelope (3 / 500) (some 1) = .ok start ∧
      envelopeService.Runs (drop start) tr c ∧
      ∃ env ∈ c.state.envelope,
        (c.state.claims.rows.map PublicEnvelopeClaim.amount).sum +
          env.remainingBalance ≠ env.totalAmount := by
  obtain ⟨htogether, hshort, hcents⟩ := drops_computed
  have hruns : ∀ {start : PublicEnvelope} {schedule : List (Move PublicEnvelopes.Operation)}
      {env : PublicEnvelope}
      {paid : List (ℚ × ℕ)} {thrown : List ℕ},
      dropAfter start schedule = some (some env, paid, thrown) →
      ∃ tr c, envelopeService.Runs (drop start) tr c ∧ c.state.envelope = some env ∧
        c.state.claims.rows.map (fun claim => (claim.amount, claim.call)) = paid ∧
        c.state.thrown = thrown := by
    intro start schedule env paid thrown h
    obtain ⟨tr, c, hrun, -, -, hfacts⟩ := StoreService.runs_of_computed h
    simp only [dropFacts, Prod.mk.injEq] at hfacts
    exact ⟨tr, c, hrun, hfacts⟩
  refine ⟨?_, ?_, ?_⟩
  · obtain ⟨tr, c, hrun, henv, hpaid, hthrown⟩ := hruns htogether
    have hlength : c.state.claims.rows.length = 2 := by simpa using congrArg List.length hpaid
    have hmem : (3, 1) ∈ c.state.claims.rows.map fun claim => (claim.amount, claim.call) := by
      simp [hpaid]
    obtain ⟨claim, hclaim, hcall⟩ := List.mem_map.mp hmem
    refine ⟨tr, c, by decide +kernel, hrun, _, henv, ?_, 1, ?_, claim, hclaim,
      congrArg Prod.snd hcall⟩
    · rw [hlength]
      decide
    · rw [hthrown]
      exact List.mem_cons_self
  · obtain ⟨tr, c, hrun, henv, -⟩ := hruns hshort
    exact ⟨_, tr, c, by decide +kernel, hrun, _, henv, Nat.one_pos, rfl⟩
  · obtain ⟨tr, c, hrun, henv, hpaid, -⟩ := hruns hcents
    have hamounts : c.state.claims.rows.map PublicEnvelopeClaim.amount = [1 / 100] := by
      simpa [Function.comp_def] using congrArg (List.map Prod.fst) hpaid
    refine ⟨_, tr, c, by decide +kernel, hrun, _, henv, ?_⟩
    rw [hamounts]
    norm_num

instance : DecidablePred sharesLeft.starts := fun _ => inferInstanceAs (Decidable True)
instance (i : ℕ) (op : PublicEnvelopes.Operation) (t : PublicEnvelopes.Tables)
    (r : PublicEnvelopes.Request) :
    Decidable (sharesLeft.allows i op t r) := by
  cases r with
  | claimBatch env random claimerAddress amount =>
    exact inferInstanceAs
      (Decidable (t.claims.find? claimerAddress = none → ClaimsAlone t env random))
  | _ => exact .isTrue trivial
instance (t t' : PublicEnvelopes.Tables) : Decidable (sharesLeft.passes t t') := .isTrue trivial

/-- A total that is not in whole cents. -/
def oddDrop : PublicEnvelope := ⟨10001 / 1000, 10001 / 1000, 2, 2, .active⟩

/-- Two claims in turn. -/
theorem drop_claimed : (envelopeService.moves sharesLeft (Config.initial (drop oddDrop))
    (claimCall 0 3 "ann" ++ claimCall 1 3 "ben")).map (fun c => dropFacts c.state) =
      some (some ⟨10001 / 1000, 2801 / 1000, 2, 0, .completed⟩, [(3, 0), (21 / 5, 1)], []) := by
  decide +kernel

theorem public_envelope_claims_exact_devnet :
    ∃ tr c, envelopeService.Runs (drop oddDrop) tr c ∧ ClaimsExact c.state ∧
    c.state.claims.rows.map (fun claim => (claim.amount, claim.call)) = [(3, 0), (21 / 5, 1)] := by
  obtain ⟨tr, c, hrun, hmeets, -, hfacts⟩ := StoreService.runs_of_computed drop_claimed
  have hcreated : createPublicEnvelope (10001 / 1000) (some 2) = .ok oddDrop := by decide +kernel
  simp only [dropFacts, Prod.mk.injEq] at hfacts
  exact ⟨tr, c, hrun, public_envelope_claims_exact hcreated (by norm_num) hrun hmeets, hfacts.2.1⟩

end VeriAgentPay.Devnet
