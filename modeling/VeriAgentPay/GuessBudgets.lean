import Mathlib.Algebra.BigOperators.Group.List.Basic
import Mathlib.Algebra.GroupWithZero.Nat
import Mathlib.Algebra.Order.Group.Int
import Mathlib.Data.List.Count

/-!
# Budgets for guesses

Secrets are issued one after another, and each can be guessed until the next one is issued. A limit
on the secrets issued in a window of time and one on the guesses at each secret bound the guesses in
a window.
-/

namespace GuessBudgets

/-- A secret that was issued, and the guesses at it: when each was made, and whether it was
right. -/
structure Round where
  id : ℕ
  issuedAt : ℤ
  guesses : List (ℤ × Bool)
  deriving DecidableEq

namespace Round

def wrong (r : Round) : ℕ := r.guesses.countP fun g => !g.2
def right (r : Round) : ℕ := r.guesses.countP fun g => g.2

theorem guesses_length (r : Round) : r.guesses.length = r.right + r.wrong := by
  rw [right, wrong, List.length_eq_countP_add_countP fun g => g.2]
  simp

def add (time : ℤ) (isRight : Bool) (r : Round) : Round :=
  { r with guesses := (time, isRight) :: r.guesses }

theorem wrong_add (time : ℤ) (isRight : Bool) (r : Round) :
    (r.add time isRight).wrong = r.wrong + if isRight then 0 else 1 := by
  cases isRight with
  | false => simp [wrong, add]
  | true => simp [wrong, add]

theorem right_add (time : ℤ) (isRight : Bool) (r : Round) :
    (r.add time isRight).right = r.right + if isRight then 1 else 0 := by
  cases isRight with
  | false => simp [right, add]
  | true => simp [right, add]

end Round

def issue (id : ℕ) (time : ℤ) (rounds : List Round) : List Round := ⟨id, time, []⟩ :: rounds

/-- A guess counts for the round of its secret. -/
def guess (id : ℕ) (time : ℤ) (isRight : Bool) : List Round → List Round
  | [] => []
  | r :: rest => if r.id = id then r.add time isRight :: rest else r :: guess id time isRight rest

section Windows

variable (width : ℤ)

/-- The window that begins at `w`. -/
def inWindow (w time : ℤ) : Bool := w ≤ time ∧ time ≤ w + width

def issuedIn (w : ℤ) (rounds : List Round) : ℕ := rounds.countP fun r => inWindow width w r.issuedAt

def guessesIn (w : ℤ) (rounds : List Round) : ℕ :=
  (rounds.map fun r => r.guesses.countP fun g => inWindow width w g.1).sum

/-- The secrets issued in the window that ends now. -/
def recent (now : ℤ) (rounds : List Round) : ℕ := rounds.countP fun r => now - width ≤ r.issuedAt

/-- Newest first: each round's guesses lie between its issue and the next one's, or now. -/
def Ordered (now : ℤ) : List Round → Prop
  | [] => True
  | r :: rest =>
    r.issuedAt ≤ now ∧ (∀ g ∈ r.guesses, r.issuedAt ≤ g.1 ∧ g.1 ≤ now) ∧ Ordered r.issuedAt rest

variable {now now' w : ℤ} {rounds rest : List Round} {r : Round}

theorem Ordered.later (h : Ordered now rounds) (hnow : now ≤ now') : Ordered now' rounds := by
  cases rounds with
  | nil => trivial
  | cons r rest =>
    obtain ⟨hissued, hguesses, hrest⟩ := h
    refine ⟨hissued.trans hnow, ?_, hrest⟩
    intro g hg
    exact ⟨(hguesses g hg).1, (hguesses g hg).2.trans hnow⟩

theorem Ordered.issue (h : Ordered now rounds) (id : ℕ) : Ordered now (issue id now rounds) :=
  ⟨le_rfl, by simp, h⟩

theorem Ordered.guess (h : Ordered now (r :: rest)) (isRight : Bool) :
    Ordered now (r.add now isRight :: rest) := by
  obtain ⟨hissued, hguesses, hrest⟩ := h
  refine ⟨hissued, ?_, hrest⟩
  intro g hg
  rcases List.mem_cons.mp hg with rfl | hg
  · exact ⟨hissued, le_rfl⟩
  · exact hguesses g hg

/-- A secret that is issued while the limit is not reached keeps every window to it. -/
theorem issuedIn_issue {limit : ℕ} (hrecent : recent width now rounds < limit)
    (hlimit : ∀ w, issuedIn width w rounds ≤ limit) (id : ℕ) (w : ℤ) :
    issuedIn width w (issue id now rounds) ≤ limit := by
  rw [issuedIn, issue, List.countP_cons]
  by_cases hinside : inWindow width w now
  · have hcounted :
      (rounds.countP fun r => inWindow width w r.issuedAt) ≤ recent width now rounds := by
      apply List.countP_mono_left
      intro r _ hr
      simp only [inWindow, decide_eq_true_eq] at hr hinside ⊢
      omega
    rw [if_pos hinside]
    omega
  · rw [if_neg hinside]
    exact hlimit w

/-- No guess is made in a window that begins after all of them. -/
theorem guessesIn_eq_zero (h : Ordered now rounds) (hw : now < w) :
    guessesIn width w rounds = 0 := by
  induction rounds generalizing now with
  | nil => rfl
  | cons r rest ih =>
    obtain ⟨hissued, hguesses, hrest⟩ := h
    rw [guessesIn, List.map_cons, List.sum_cons]
    have hnone : (r.guesses.countP fun g => inWindow width w g.1) = 0 := by
      rw [List.countP_eq_zero]
      intro g hg
      have hg' := (hguesses g hg).2
      simp only [inWindow, decide_eq_true_eq, not_and]
      omega
    have hlater := ih hrest (hissued.trans_lt hw)
    rw [guessesIn] at hlater
    rw [hnone, hlater]

/-- In a window there are the guesses at the secrets issued in it, and at the one that was current
when it began. -/
theorem guessesIn_le {bound : ℕ} (h : Ordered now rounds)
    (hbound : ∀ r ∈ rounds, r.guesses.length ≤ bound) (w : ℤ) :
    guessesIn width w rounds ≤ bound * (issuedIn width w rounds + 1) := by
  induction rounds generalizing now with
  | nil => simp [guessesIn]
  | cons r rest ih =>
    obtain ⟨hissued, hguesses, hrest⟩ := h
    have hr := hbound r List.mem_cons_self
    have hfew : (r.guesses.countP fun g => inWindow width w g.1) ≤ bound :=
      List.countP_le_length.trans hr
    have hsplit : guessesIn width w (r :: rest) = (r.guesses.countP fun g => inWindow width w g.1) +
        guessesIn width w rest := by
      simp [guessesIn]
    have hcount : issuedIn width w (r :: rest) = issuedIn width w rest +
        if inWindow width w r.issuedAt then 1 else 0 := by
      simp [issuedIn, List.countP_cons]
    rw [hsplit, hcount]
    by_cases hbefore : r.issuedAt < w
    · rw [guessesIn_eq_zero width hrest hbefore, Nat.add_zero]
      exact hfew.trans (Nat.le_mul_of_pos_right bound (Nat.succ_pos _))
    · have hlater := ih hrest fun r hr => hbound r (List.mem_cons_of_mem _ hr)
      by_cases hinside : r.issuedAt ≤ w + width
      · have hin : inWindow width w r.issuedAt := by simp [inWindow, hinside, not_lt.mp hbefore]
        rw [if_pos hin]
        calc _ ≤ bound + bound * (issuedIn width w rest + 1) := Nat.add_le_add hfew hlater
          _ = bound * (issuedIn width w rest + 1 + 1) := by
            simp only [Nat.mul_add, Nat.mul_one]
            omega
      · have hnone : (r.guesses.countP fun g => inWindow width w g.1) = 0 := by
          rw [List.countP_eq_zero]
          intro g hg
          have hg' := (hguesses g hg).1
          simp only [inWindow, decide_eq_true_eq, not_and]
          omega
        have hout : ¬inWindow width w r.issuedAt := by simp [inWindow, hinside]
        rw [if_neg hout, hnone, Nat.zero_add]
        exact hlater

end Windows

end GuessBudgets
