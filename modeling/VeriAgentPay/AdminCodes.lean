import VeriAgentPay.BackendStore
import VeriAgentPay.GuessBudgets
import VeriAgentPay.ScheduledPrograms
import VeriAgentPay.UnreliableStores

/-!
# One-time codes of administrators

`requestOtp` limits how many codes are issued, `verifyOtp` how often a code is guessed. Both decide
by rows that other calls write and delete; when their limits hold all the same.
-/

namespace VeriAgentPay.Admin
open InterleavedPrograms GuessBudgets
open InterleavedPrograms.Fallible (checked check onFailure dropResult)
open Backend (Failure trim)

section Services

/-- What `codeHash` holds: `scrypt$salt$hash`, or a digest without a salt. -/
inductive CodeHash where
  | scrypt (salt hash : String)
  | digest (hash : String)
  deriving DecidableEq

structure AdminOtp where
  id : ℕ
  identifier : String
  codeHash : CodeHash
  attempts : ℕ
  expiresAt : ℤ
  createdAt : ℤ
  deriving DecidableEq

/-- Case mapping and the key derivation. -/
structure Host where
  toLowerCase : String → String
  scryptSync : String → String → String

/-- The tables. The codes issued for an identifier, and the guesses that were compared with each,
are history. -/
structure Tables where
  adminIdentifiers : List String
  otps : List AdminOtp
  nextId : ℕ
  now : ℤ
  rounds : String → List Round

inductive Request where
  | findAdminIdentifier (value : String)
  | countOtps (identifier : String) (since : ℤ)
  | deleteOtps (identifier : String)
  | createOtp (identifier : String) (codeHash : CodeHash) (expiresAt : ℤ)
  | findOtp (identifier : String) (now : ℤ) (choice : ℕ)
  | compare (otp : AdminOtp) (isRight : Bool)
  | incrementAttempts (id : ℕ)
  | deleteOtp (id : ℕ)
  | now

abbrev Answer : Request → Type
  | .findAdminIdentifier _ => Bool
  | .countOtps _ _ => ℕ
  | .deleteOtps _ | .createOtp _ _ _ | .compare _ _ | .incrementAttempts _ | .deleteOtp _ => Unit
  | .findOtp _ _ _ => Option AdminOtp
  | .now => ℤ

abbrev Service (α : Type) := Fallible Failure Request Answer α

def ask (r : Request) : Service (Answer r) := Fallible.ask r

def fifteenMinutes : ℤ := 15 * 60 * 1000

/-- The newest rows of an identifier that have not expired. -/
def isNewest (t : Tables) (identifier : String) (now : ℤ) (row : AdminOtp) : Bool :=
  row.identifier = identifier ∧ now < row.expiresAt ∧
    t.otps.all fun other => other.identifier ≠ identifier ∨ other.expiresAt ≤ now ∨
    other.createdAt ≤ row.createdAt

def carry (t : Tables) : (r : Request) → Answer r × Tables
  | .findAdminIdentifier value => (t.adminIdentifiers.contains value, t)
  | .countOtps identifier since =>
    (t.otps.countP fun row => row.identifier = identifier ∧ since ≤ row.createdAt, t)
  | .deleteOtps identifier =>
    ((), { t with otps := t.otps.filter fun row => row.identifier ≠ identifier })
  | .createOtp identifier codeHash expiresAt =>
    ((), { t with
      otps := ⟨t.nextId, identifier, codeHash, 0, expiresAt, t.now⟩ :: t.otps
      nextId := t.nextId + 1
      rounds := Function.update t.rounds identifier (issue t.nextId t.now (t.rounds identifier)) })
  | .findOtp identifier now choice =>
    (UnreliableStores.pick choice t.otps (isNewest t identifier now), t)
  | .compare otp isRight =>
    ((), { t with
      rounds :=
        Function.update t.rounds otp.identifier
          (guess otp.id t.now isRight (t.rounds otp.identifier)) })
  | .incrementAttempts id =>
    ((), { t with
      otps := t.otps.map fun row =>
        if row.id = id then { row with attempts := row.attempts + 1 } else row })
  | .deleteOtp id => ((), { t with otps := t.otps.filter fun row => row.id ≠ id })
  | .now => (t.now, t)

namespace AdminService

variable (host : Host)

def hashOtp (code salt : String) : CodeHash := .scrypt salt (host.scryptSync code salt)

def verifyOtpHash (code : String) : CodeHash → Bool
  | .scrypt salt hash => host.scryptSync code salt = hash
  | .digest _ => false

def cleanIdentifier (identifier : String) : String := trim (host.toLowerCase identifier)

def isWhitelisted (value : String) : Service Bool :=
  if value = "" then pure false else ask (.findAdminIdentifier (cleanIdentifier host value))

/-- The code and its salt are drawn at random; the delivery ends with the chat's id or an error. -/
def requestOtp (identifier code salt : String) (delivery : Except String String) : Service String :=
  do
  let cleaned := cleanIdentifier host identifier
  let isAllowed ← isWhitelisted host cleaned
  check isAllowed (.unauthorized "Access Denied: Account not whitelisted for admin access")
  let now ← ask .now
  let recentCount ← ask (.countOtps cleaned (now - fifteenMinutes))
  check (recentCount < 3)
    (.error "Too many verification code requests. Try again in a few minutes.")
  ask (.deleteOtps cleaned)
  let now ← ask .now
  ask (.createOtp cleaned (hashOtp host code salt) (now + 5 * 60 * 1000))
  match delivery with
  | .ok chatId =>
    pure ("A 6-digit OTP verification code has been sent to your registered Telegram account (Chat ID: " ++ chatId ++ ").")
  | .error message =>
    pure ("OTP generated but Telegram delivery failed: " ++ message ++
      ". [DEV MODE: Check backend logs for the OTP code]")

/-- A write whose failure is ignored. -/
def attempt (written : Bool) (r : Service Unit) : Service Unit := if written then r else pure ()

def verifyOtp (identifier code : String) (choice : ℕ) (written : Bool) : Service Bool :=
  if identifier = "" ∨ code = "" then pure false
  else do
    let now ← ask .now
    let otp ← ask (.findOtp (cleanIdentifier host identifier) now choice)
    match otp with
    | none => pure false
    | some otp =>
      if 5 ≤ otp.attempts then do
        attempt written (ask (.deleteOtp otp.id))
        pure false
      else do
        let isRight := verifyOtpHash host code otp.codeHash
        ask (.compare otp isRight)
        if ¬isRight then do
          attempt written (ask (.incrementAttempts otp.id))
          pure false
        else do
          attempt written (ask (.deleteOtp otp.id))
          pure true

end AdminService

inductive Operation where
  | requestOtp (identifier code salt : String) (delivery : Except String String)
  | verifyOtp (identifier code : String) (choice : ℕ) (written : Bool)

def Operation.program (host : Host) : Operation → Program Request Answer Unit
  | requestOtp identifier code salt delivery => dropResult
    (AdminService.requestOtp host identifier code salt delivery)
  | verifyOtp identifier code choice written =>
    dropResult (AdminService.verifyOtp host identifier code choice written)

/-- The calls side by side; time passes. -/
def adminService (host : Host) : StoreService Tables Operation Request Answer where
  program := Operation.program host
  carry _ _ := carry
  passes n t := { t with now := t.now + n }

end Services

section Budgets

open AdminService

/-- A code is created where no other one is left, and within the limit of three. -/
def CreationWithin (t : Tables) (identifier : String) : Prop :=
  (∀ row ∈ t.otps, row.identifier ≠ identifier) ∧
  recent fifteenMinutes t.now (t.rounds identifier) < 3

/-- A code is compared as it was read, and all that was compared with it is counted in its row. -/
def ComparisonWithin (t : Tables) (otp : AdminOtp) : Prop :=
  ∃ row ∈ t.otps, row.id = otp.id ∧ row.identifier = otp.identifier ∧ row.attempts = otp.attempts ∧
    ∀ r ∈ t.rounds otp.identifier, r.id = otp.id → r.wrong = row.attempts ∧ r.right = 0

instance (t : Tables) (identifier : String) : Decidable (CreationWithin t identifier) :=
  inferInstanceAs (Decidable (_ ∧ _))
instance (t : Tables) (otp : AdminOtp) : Decidable (ComparisonWithin t otp) :=
  inferInstanceAs (Decidable (∃ row ∈ t.otps, _ ∧ _ ∧ _ ∧ ∀ r ∈ t.rounds otp.identifier, _))

/-- Calls that are not overtaken. -/
def inTurn : StoreService.Conditions Tables Operation Request where
  starts _ := True
  allows _ _ t
    | .createOtp identifier _ _ => CreationWithin t identifier
    | .compare otp _ => ComparisonWithin t otp
    | _ => True
  passes _ _ := True

/-- The invariant. The row of an identifier, if there is one, is that of the code issued last. -/
structure Budgeted (t : Tables) : Prop where
  ordered : ∀ identifier, Ordered t.now (t.rounds identifier)
  issued : ∀ identifier w, issuedIn fifteenMinutes w (t.rounds identifier) ≤ 3
  guessed : ∀ identifier, ∀ r ∈ t.rounds identifier, r.wrong ≤ 5 ∧ r.right ≤ 1
  current : ∀ row ∈ t.otps, ∃ r rest, t.rounds row.identifier = r :: rest ∧ r.id = row.id
  single : ∀ identifier, (t.otps.countP fun row => row.identifier = identifier) ≤ 1

abbrev budgetDiscipline (host : Host) : Discipline Tables Operation Request Answer where
  service := adminService host
  conditions := inTurn
  inv := Budgeted
  grows _ _ := True

variable {host : Host} {t : Tables} {i : ℕ} {op : Operation}

/-- Rows are deleted, or changed in other columns. -/
theorem Budgeted.of_rows {otps : List AdminOtp} (h : Budgeted t)
    (hrows : ∀ row ∈ otps, ∃ old ∈ t.otps, old.id = row.id ∧ old.identifier = row.identifier)
    (hcount : ∀ identifier, (otps.countP fun row => row.identifier = identifier) ≤ t.otps.countP
      fun row => row.identifier = identifier) :
    Budgeted { t with otps := otps } where
  ordered := h.ordered
  issued := h.issued
  guessed := h.guessed
  current := by
    intro row hrow
    obtain ⟨old, hold, hid, hidentifier⟩ := hrows row hrow
    obtain ⟨r, rest, hrounds, hr⟩ := h.current old hold
    exact ⟨r, rest, hidentifier ▸ hrounds, hr.trans hid⟩
  single identifier := (hcount identifier).trans (h.single identifier)

theorem Budgeted.filter (h : Budgeted t) (p : AdminOtp → Bool) :
    Budgeted { t with otps := t.otps.filter p } := by
  apply h.of_rows
  · intro row hrow
    exact ⟨row, (List.mem_filter.mp hrow).1, rfl, rfl⟩
  · intro identifier
    exact List.filter_sublist.countP_le

theorem Budgeted.incrementAttempts (h : Budgeted t) (id : ℕ) :
    Budgeted (carry t (.incrementAttempts id)).2 := by
  apply h.of_rows
  · intro row hrow
    obtain ⟨old, hold, rfl⟩ := List.mem_map.mp hrow
    refine ⟨old, hold, ?_, ?_⟩
    · split_ifs
      · rfl
      · rfl
    · split_ifs
      · rfl
      · rfl
  · intro identifier
    rw [List.countP_map]
    apply le_of_eq
    congr 1
    funext row
    dsimp only [Function.comp]
    split_ifs
    · rfl
    · rfl

theorem Budgeted.createOtp (h : Budgeted t) {identifier : String}
    (hwithin : CreationWithin t identifier) (codeHash : CodeHash) (expiresAt : ℤ) :
    Budgeted (carry t (.createOtp identifier codeHash expiresAt)).2 := by
  obtain ⟨hfree, hrecent⟩ := hwithin
  refine ⟨?_, ?_, ?_, ?_, ?_⟩
  · intro other
    by_cases hother : other = identifier
    · subst hother
      simpa [carry] using (h.ordered other).issue t.nextId
    · simpa [carry, hother] using h.ordered other
  · intro other
    by_cases hother : other = identifier
    · subst hother
      simpa [carry] using issuedIn_issue fifteenMinutes hrecent (h.issued other) t.nextId
    · simpa [carry, hother] using h.issued other
  · intro other
    by_cases hother : other = identifier
    · subst hother
      simpa [carry, issue, Round.wrong, Round.right] using h.guessed other
    · simpa [carry, hother] using h.guessed other
  · intro row hrow
    rcases List.mem_cons.mp hrow with rfl | hrow
    · exact ⟨⟨t.nextId, t.now, []⟩, t.rounds identifier, by simp [carry, issue], rfl⟩
    · simpa [carry, hfree row hrow] using h.current row hrow
  · intro other
    show (List.countP _ (_ :: t.otps)) ≤ 1
    rw [List.countP_cons]
    by_cases hother : other = identifier
    · subst hother
      have hnone : (t.otps.countP fun row => row.identifier = other) = 0 := by
        rw [List.countP_eq_zero]
        intro row hrow
        simpa using hfree row hrow
      rw [hnone]
      simp
    · simpa [Ne.symm hother] using h.single other

theorem Budgeted.compare (h : Budgeted t) {otp : AdminOtp} (hwithin : ComparisonWithin t otp)
    (hattempts : otp.attempts < 5) (isRight : Bool) :
    Budgeted (carry t (.compare otp isRight)).2 := by
  obtain ⟨row, hrow, hid, hidentifier, hsame, hcounted⟩ := hwithin
  obtain ⟨r, rest, hrounds, hr⟩ := h.current row hrow
  rw [hidentifier] at hrounds
  have hguess : guess otp.id t.now isRight (t.rounds otp.identifier) = r.add t.now isRight ::
      rest := by
    rw [hrounds, guess, if_pos (hr.trans hid)]
  obtain ⟨hwrong, hright⟩ := hcounted r (by simp [hrounds]) (hr.trans hid)
  refine ⟨?_, ?_, ?_, ?_, h.single⟩
  · intro other
    by_cases hother : other = otp.identifier
    · subst hother
      have hordered := h.ordered otp.identifier
      rw [hrounds] at hordered
      simpa [carry, hguess] using hordered.guess isRight
    · simpa [carry, hother] using h.ordered other
  · intro other w
    by_cases hother : other = otp.identifier
    · subst hother
      have hissued := h.issued otp.identifier w
      rw [hrounds] at hissued
      simpa [carry, hguess, issuedIn, List.countP_cons, Round.add] using hissued
    · simpa [carry, hother] using h.issued other w
  · intro other
    by_cases hother : other = otp.identifier
    · subst hother
      have hguessed := h.guessed otp.identifier
      rw [hrounds] at hguessed
      intro r' hr'
      simp only [carry, Function.update_self, hguess, List.mem_cons] at hr'
      rcases hr' with rfl | hr'
      · rw [Round.wrong_add, Round.right_add]
        split_ifs
        · omega
        · omega
      · exact hguessed r' (List.mem_cons_of_mem _ hr')
    · simpa [carry, hother] using h.guessed other
  · intro row' hrow'
    by_cases hother : row'.identifier = otp.identifier
    · obtain ⟨r', rest', hrounds', hr'⟩ := h.current row' hrow'
      rw [hother, hrounds] at hrounds'
      obtain ⟨rfl, rfl⟩ := List.cons.inj hrounds'
      exact ⟨r.add t.now isRight, rest, by simp [carry, hother, hguess], hr'⟩
    · simpa [carry, hother] using h.current row' hrow'

/-- A request that keeps the invariant whatever is known. -/
theorem upholds_ask {K : Prop} {r : Request}
    (h : ∀ t, Budgeted t → inTurn.allows i op t r → Budgeted (carry t r).2) :
    (budgetDiscipline host).Upholds i op (ask r) (fun _ => K) (fun _ _ => K) fun _ => True := by
  apply Discipline.Upholds.ask fun _ => Discipline.stable_const K
  intro t ht hK hallows
  exact ⟨trivial, h t ht hallows, hK⟩

theorem upholds_attempt {written : Bool} {x : Service Unit}
    (h : (budgetDiscipline host).Upholds i op x (fun _ => True) (fun _ _ => True) fun _ => True) :
    (budgetDiscipline host).Upholds i op (attempt written x) (fun _ => True) (fun _ _ => True)
      fun _ => True := by
  cases written with
  | true => exact h
  | false => exact Discipline.Upholds.pure fun _ _ _ => trivial

theorem upholds_requestOtp (identifier code salt : String) (delivery : Except String String) :
    (budgetDiscipline host).Upholds i op (requestOtp host identifier code salt delivery)
      (fun _ => True) (fun _ _ => True)
      fun _ => True := by
  unfold requestOtp
  dsimp only
  apply Discipline.Upholds.bind (R := fun _ _ => True)
  · unfold isWhitelisted
    split_ifs
    · exact Discipline.Upholds.pure fun _ _ _ => trivial
    · exact upholds_ask fun _ ht _ => ht
  intro isAllowed
  apply Discipline.Upholds.bind (R := fun _ _ => True)
  · exact Discipline.Upholds.require fun _ _ => trivial
  intro _
  apply Discipline.Upholds.bind (R := fun _ _ => True)
  · exact upholds_ask fun _ ht _ => ht
  intro now
  apply Discipline.Upholds.bind (R := fun _ _ => True)
  · exact upholds_ask fun _ ht _ => ht
  intro recentCount
  apply Discipline.Upholds.bind (R := fun _ _ => True)
  · exact Discipline.Upholds.require fun _ _ => trivial
  intro _
  apply Discipline.Upholds.bind (R := fun _ _ => True)
  · exact upholds_ask fun _ ht _ => ht.filter _
  intro _
  apply Discipline.Upholds.bind (R := fun _ _ => True)
  · exact upholds_ask fun _ ht _ => ht
  intro later
  apply Discipline.Upholds.bind (R := fun _ _ => True)
  · exact upholds_ask fun _ ht hallows => ht.createOtp hallows _ _
  intro _
  cases delivery with
  | ok chatId => exact Discipline.Upholds.pure fun _ _ _ => trivial
  | error message => exact Discipline.Upholds.pure fun _ _ _ => trivial

theorem upholds_verifyOtp (identifier code : String) (choice : ℕ) (written : Bool) :
    (budgetDiscipline host).Upholds i op (verifyOtp host identifier code choice written)
      (fun _ => True) (fun _ _ => True)
      fun _ => True := by
  unfold verifyOtp
  split_ifs
  · exact Discipline.Upholds.pure fun _ _ _ => trivial
  · apply Discipline.Upholds.bind (R := fun _ _ => True)
    · exact upholds_ask fun _ ht _ => ht
    intro now
    apply Discipline.Upholds.bind (R := fun _ _ => True)
    · exact upholds_ask fun _ ht _ => ht
    intro found
    cases found with
    | none => exact Discipline.Upholds.pure fun _ _ _ => trivial
    | some otp =>
      dsimp only
      by_cases hattempts : 5 ≤ otp.attempts
      · rw [if_pos hattempts]
        apply Discipline.Upholds.bind (R := fun _ _ => True)
        · exact upholds_attempt (upholds_ask fun _ ht _ => ht.filter _)
        intro _
        exact Discipline.Upholds.pure fun _ _ _ => trivial
      · rw [if_neg hattempts]
        apply Discipline.Upholds.bind (R := fun _ _ => True)
        · exact upholds_ask fun _ ht hallows => ht.compare hallows (not_le.mp hattempts) _
        intro _
        split_ifs
        · apply Discipline.Upholds.bind (R := fun _ _ => True)
          · exact upholds_attempt (upholds_ask fun _ ht _ => ht.filter _)
          intro _
          exact Discipline.Upholds.pure fun _ _ _ => trivial
        · apply Discipline.Upholds.bind (R := fun _ _ => True)
          · exact upholds_attempt (upholds_ask fun _ ht _ => ht.incrementAttempts _)
          intro _
          exact Discipline.Upholds.pure fun _ _ _ => trivial

theorem budgetDiscipline_kept (host : Host) : (budgetDiscipline host).Kept := by
  refine Discipline.kept_of_plays (fun _ => trivial) ?_ ?_
  · intro i op _
    cases op with
    | requestOtp identifier code salt delivery =>
      exact (upholds_requestOtp identifier code salt delivery).plays
    | verifyOtp identifier code choice written =>
      exact (upholds_verifyOtp identifier code choice written).plays
  · intro n t ht _
    refine ⟨trivial, ?_, ht.issued, ht.guessed, ht.current, ht.single⟩
    intro identifier
    exact (ht.ordered identifier).later (by simp [adminService])

/-- The budget of an identifier: codes issued in a window, codes that are live, guesses at a code,
guesses in a window. -/
structure Budget (t : Tables) (identifier : String) : Prop where
  issued : ∀ w, issuedIn fifteenMinutes w (t.rounds identifier) ≤ 3
  live : (t.otps.countP fun row => row.identifier = identifier ∧ t.now < row.expiresAt) ≤ 1
  wrong : ∀ r ∈ t.rounds identifier, r.wrong ≤ 5
  accepted : ∀ r ∈ t.rounds identifier, r.right ≤ 1
  guesses : ∀ w, guessesIn fifteenMinutes w (t.rounds identifier) ≤ 24

theorem Budgeted.budget (h : Budgeted t) (identifier : String) : Budget t identifier where
  issued := h.issued identifier
  live := by
    refine le_trans (List.countP_mono_left ?_) (h.single identifier)
    intro row _ hrow
    simp only [decide_eq_true_eq] at hrow ⊢
    exact hrow.1
  wrong r hr := (h.guessed identifier r hr).1
  accepted r hr := (h.guessed identifier r hr).2
  guesses w := by
    have hbound : ∀ r ∈ t.rounds identifier, r.guesses.length ≤ 6 := by
      intro r hr
      have hguessed := h.guessed identifier r hr
      rw [r.guesses_length]
      omega
    have hissued := h.issued identifier w
    have htotal := guessesIn_le fifteenMinutes (h.ordered identifier) hbound w
    omega

/-- In every interleaving of calls that are not overtaken, every identifier keeps to its budget. -/
theorem otp_budget_kept {start : Tables} {tr : Trace Tables Operation Request Answer}
    {c : Config Tables Operation Request Answer} (hrun : (adminService host).Runs start tr c)
    (hmeets : ∀ t ∈ tr, StoreService.Meets inTurn t) (hotps : start.otps = [])
    (hrounds : ∀ identifier, start.rounds identifier = []) :
    ∀ identifier, Budget c.state identifier := by
  have hstart : Budgeted start := by
    constructor
    · simp [hrounds, Ordered]
    · simp [hrounds, issuedIn]
    · simp [hrounds]
    · simp [hotps]
    · simp [hotps]
  exact ((budgetDiscipline_kept host).run hrun hmeets hstart).1.budget

end Budgets

end VeriAgentPay.Admin

namespace VeriAgentPay.Devnet
open InterleavedPrograms GuessBudgets Admin

def adminHost : Host := ⟨fun text => text, fun code salt => code ++ salt⟩

def admins : Admin.Tables := ⟨["ops@veriagent.pay"], [], 0, 1750000000000, fun _ => []⟩

def requestCode : Admin.Operation := .requestOtp "ops@veriagent.pay" "042137" "5a" (.ok "7")

def guessCode (code : String) : Admin.Operation := .verifyOtp "ops@veriagent.pay" code 0 true

/-- `n` calls from process `first` on, one after another. -/
def oneByOne (first n : ℕ) (op : Admin.Operation) (requests : ℕ) : List (Move Admin.Operation) :=
  (List.range' first n).flatMap fun i => .start i op :: List.replicate requests (.step i)

/-- `n` calls from process `first` on, side by side: all make some requests before any goes on. -/
def sideBySide (first n : ℕ) (op : Admin.Operation) (requests rest : ℕ) :
    List (Move Admin.Operation) :=
  oneByOne first n op requests ++ (List.range' first n).flatMap
    fun i => List.replicate rest (.step i)

def liveCodes (t : Admin.Tables) : ℕ :=
  t.otps.countP fun row => row.identifier = "ops@veriagent.pay" ∧ t.now < row.expiresAt

def opsRounds (t : Admin.Tables) : List Round := t.rounds "ops@veriagent.pay"

/-- A figure of the tables after a schedule. -/
def figureAfter (f : Admin.Tables → ℕ) (schedule : List (Move Admin.Operation)) : Option ℕ :=
  ((adminService adminHost).moves StoreService.anything (Config.initial admins) schedule).map
    fun c => f c.state

theorem runs_of_figure {f : Admin.Tables → ℕ} {schedule : List (Move Admin.Operation)} {n : ℕ}
    (h : figureAfter f schedule = some n) :
    ∃ tr c, (adminService adminHost).Runs admins tr c ∧ f c.state = n := by
  obtain ⟨tr, c, hrun, -, -, hfigure⟩ := StoreService.runs_of_computed h
  exact ⟨tr, c, hrun, hfigure⟩

def issuedNow (t : Admin.Tables) : ℕ := issuedIn fifteenMinutes 1750000000000 (opsRounds t)
def wrongGuesses (t : Admin.Tables) : ℕ := ((opsRounds t).map Round.wrong).headD 0
def acceptances (t : Admin.Tables) : ℕ := ((opsRounds t).map Round.right).headD 0

theorem figures_exceeded :
    figureAfter issuedNow (oneByOne 0 4 requestCode 6) = some 4 ∧
    figureAfter liveCodes (sideBySide 0 2 requestCode 4 2) = some 2 ∧
      figureAfter wrongGuesses
        (oneByOne 0 1 requestCode 6 ++ sideBySide 1 6 (guessCode "000000") 2 2) = some 6 ∧
      figureAfter acceptances
        (oneByOne 0 1 requestCode 6 ++ sideBySide 1 2 (guessCode "042137") 2 2) = some 2 := by
  decide +kernel

/-- Four codes are issued at once; two codes are live; a code is compared with six wrong guesses; a
code is accepted twice. -/
theorem otp_budget_exceeded :
    (∃ tr c, (adminService adminHost).Runs admins tr c ∧ issuedNow c.state = 4) ∧
    (∃ tr c, (adminService adminHost).Runs admins tr c ∧ liveCodes c.state = 2) ∧
    (∃ tr c, (adminService adminHost).Runs admins tr c ∧ wrongGuesses c.state = 6) ∧
    ∃ tr c, (adminService adminHost).Runs admins tr c ∧ acceptances c.state = 2 := by
  obtain ⟨hissued, hlive, hwrong, haccepted⟩ := figures_exceeded
  exact ⟨runs_of_figure hissued, runs_of_figure hlive, runs_of_figure hwrong,
    runs_of_figure haccepted⟩

instance : DecidablePred inTurn.starts := fun _ => inferInstanceAs (Decidable True)
instance (i : ℕ) (op : Admin.Operation) (t : Admin.Tables) (r : Admin.Request) :
    Decidable (inTurn.allows i op t r) := by
  cases r with
  | createOtp identifier codeHash expiresAt =>
    exact inferInstanceAs (Decidable (CreationWithin t identifier))
  | compare otp isRight => exact inferInstanceAs (Decidable (ComparisonWithin t otp))
  | _ => exact .isTrue trivial
instance (t t' : Admin.Tables) : Decidable (inTurn.passes t t') := .isTrue trivial

/-- Three codes are issued, five wrong guesses are compared with the last one, and a sixth guess is
not. -/
def guessingInTurn : List (Move Admin.Operation) :=
  oneByOne 0 3 requestCode 6 ++ oneByOne 3 5 (guessCode "000000") 4 ++
    oneByOne 8 1 (guessCode "042137") 3

theorem guessing_in_turn :
    ((adminService adminHost).moves inTurn (Config.initial admins) guessingInTurn).map (fun c =>
        (issuedNow c.state, wrongGuesses c.state, acceptances c.state, c.state.otps.length)) = some
          (3, 5, 0, 0) := by
  decide +kernel

theorem otp_budget_kept_devnet :
    ∃ tr c, (adminService adminHost).Runs admins tr c ∧ wrongGuesses c.state = 5 ∧
    Budget c.state "ops@veriagent.pay" := by
  obtain ⟨tr, c, hrun, hmeets, -, hfacts⟩ := StoreService.runs_of_computed guessing_in_turn
  simp only [Prod.mk.injEq] at hfacts
  exact ⟨tr, c, hrun, hfacts.2.1,
    otp_budget_kept hrun hmeets rfl (fun _ => rfl) "ops@veriagent.pay"⟩

end VeriAgentPay.Devnet
