import Mathlib.Algebra.Order.Ring.Int
import Mathlib.Data.List.Nodup
import Mathlib.Logic.Function.Basic

/-!
# Values that are taken once

A store holds values under keys, each for a time. Whoever takes a value removes it, so what was
written is taken at most once and only while its time lasts. A call that goes through stages in
order is in the log of a stage at most once.
-/

namespace OneTimeValues

section Stores

variable {κ β : Type}

/-- Of the history: a value that a call has written, and which write it was. -/
structure Written (κ β : Type) where
  serial : ℕ
  writer : ℕ
  key : κ
  value : β
  time : ℤ
  expiresAt : ℤ
  deriving DecidableEq

/-- Of the history: what a call has taken. -/
structure Taken (κ β : Type) where
  taker : ℕ
  written : Written κ β
  time : ℤ

structure Store (κ β : Type) where
  now : ℤ
  entries : κ → Option (Written κ β)
  written : List (Written κ β)
  taken : List (Taken κ β)

namespace Store

variable (s : Store κ β)

def opened (now : ℤ) : Store κ β := ⟨now, fun _ => none, [], []⟩

def next (writer : ℕ) (key : κ) (value : β) (ttl : ℤ) : Written κ β :=
  ⟨s.written.length, writer, key, value, s.now, s.now + ttl⟩

/-- A value whose time is over is not there. -/
def live (key : κ) : Option (Written κ β) := (s.entries key).filter fun w => s.now < w.expiresAt

def wait (n : ℕ) : Store κ β := { s with now := s.now + n }

/-- Everything the store holds is lost. -/
def emptied : Store κ β := { s with entries := fun _ => none }

variable [DecidableEq κ]

def put (writer : ℕ) (key : κ) (value : β) (ttl : ℤ) : Store κ β :=
  { s with
    entries := Function.update s.entries key (some (s.next writer key value ttl))
    written := s.next writer key value ttl :: s.written }

def unset (key : κ) : Store κ β := { s with entries := Function.update s.entries key none }

def take (taker : ℕ) (key : κ) : Option β × Store κ β :=
  match s.live key with
  | some w => (some w.value, { s.unset key with taken := ⟨taker, w, s.now⟩ :: s.taken })
  | none => (none, s.unset key)

end Store

/-- What is held is as it was written and has not been taken. -/
structure Sound (s : Store κ β) : Prop where
  entries : ∀ k w, s.entries k = some w → w.key = k ∧ w ∈ s.written ∧ ∀ t ∈ s.taken, t.written ≠ w
  written : ∀ w ∈ s.written, w.serial < s.written.length ∧ w.time ≤ s.now
  taken : ∀ t ∈ s.taken, t.written ∈ s.written ∧ t.written.time ≤ t.time ∧
    t.time < t.written.expiresAt ∧ t.time ≤ s.now
  once : (s.taken.map Taken.written).Nodup

/-- The history goes on. -/
structure Grows (s s' : Store κ β) : Prop where
  now : s.now ≤ s'.now
  written : s.written ⊆ s'.written
  taken : s.taken ⊆ s'.taken

variable {s s' s'' : Store κ β} {key : κ} {w : Written κ β} {value : β} {ttl : ℤ} {call : ℕ}

theorem Grows.refl (s : Store κ β) : Grows s s := ⟨le_rfl, List.Subset.refl _, List.Subset.refl _⟩

theorem live_eq_some : s.live key = some w ↔ s.entries key = some w ∧ s.now < w.expiresAt := by
  simp [Store.live, Option.filter_eq_some_iff]

theorem sound_opened (now : ℤ) : Sound (Store.opened now : Store κ β) where
  entries _ _ h := nomatch h
  written _ h := nomatch h
  taken _ h := nomatch h
  once := List.nodup_nil

theorem Sound.wait (h : Sound s) (n : ℕ) : Sound (s.wait n) := by
  refine ⟨h.entries, ?_, ?_, h.once⟩
  · intro w hw
    obtain ⟨hserial, htime⟩ := h.written w hw
    have : w.time ≤ s.now + n := by omega
    exact ⟨hserial, this⟩
  · intro t ht
    obtain ⟨hmem, hfrom, huntil, htime⟩ := h.taken t ht
    have : t.time ≤ s.now + n := by omega
    exact ⟨hmem, hfrom, huntil, this⟩

theorem Sound.emptied (h : Sound s) : Sound s.emptied where
  entries _ _ hw := nomatch hw
  written := h.written
  taken := h.taken
  once := h.once

theorem grows_wait (s : Store κ β) (n : ℕ) : Grows s (s.wait n) := by
  have : s.now ≤ s.now + n := by omega
  exact ⟨this, List.Subset.refl _, List.Subset.refl _⟩

variable [DecidableEq κ]

theorem Sound.put (h : Sound s) (call : ℕ) (key : κ) (value : β) (ttl : ℤ) :
    Sound (s.put call key value ttl) := by
  -- The serial of the new value is above all others.
  have hfresh : s.next call key value ttl ∉ s.written := by
    intro hmem
    have := (h.written _ hmem).1
    simp [Store.next] at this
  refine ⟨?_, ?_, ?_, h.once⟩
  · intro k w hw
    by_cases hk : k = key
    · subst hk
      obtain rfl : s.next call k value ttl = w := by simpa [Store.put] using hw
      refine ⟨rfl, List.mem_cons_self, ?_⟩
      intro t ht hsame
      exact hfresh (hsame ▸ (h.taken t ht).1)
    · have hold : s.entries k = some w := by simpa [Store.put, Function.update_of_ne hk] using hw
      obtain ⟨hkey, hmem, huntaken⟩ := h.entries k w hold
      exact ⟨hkey, List.mem_cons_of_mem _ hmem, huntaken⟩
  · intro w hw
    rcases List.mem_cons.mp hw with rfl | hw
    · simp [Store.put, Store.next]
    · have := h.written w hw
      simp only [Store.put, List.length_cons]
      omega
  · intro t ht
    obtain ⟨hmem, htimes⟩ := h.taken t ht
    exact ⟨List.mem_cons_of_mem _ hmem, htimes⟩

theorem Sound.unset (h : Sound s) (key : κ) : Sound (s.unset key) := by
  refine ⟨?_, h.written, h.taken, h.once⟩
  intro k w hw
  by_cases hk : k = key
  · subst hk
    simp [Store.unset] at hw
  · exact h.entries k w (by simpa [Store.unset, Function.update_of_ne hk] using hw)

theorem Sound.take (h : Sound s) (call : ℕ) (key : κ) : Sound (s.take call key).2 := by
  unfold Store.take
  cases hlive : s.live key with
  | none => exact h.unset key
  | some w =>
    obtain ⟨hentry, hnow⟩ := live_eq_some.mp hlive
    obtain ⟨hkey, hmem, huntaken⟩ := h.entries key w hentry
    refine ⟨?_, h.written, ?_, ?_⟩
    · intro k w' hw'
      obtain ⟨hkey', hmem', huntaken'⟩ := (h.unset key).entries k w' hw'
      refine ⟨hkey', hmem', List.forall_mem_cons.mpr ⟨?_, huntaken'⟩⟩
      -- The value that is taken is no longer under its key, and it was under no other one.
      rintro rfl
      obtain rfl : k = key := hkey'.symm.trans hkey
      simp [Store.unset] at hw'
    · exact List.forall_mem_cons.mpr ⟨⟨hmem, (h.written w hmem).2, hnow, le_rfl⟩, h.taken⟩
    · refine List.nodup_cons.mpr ⟨?_, h.once⟩
      intro hmem'
      obtain ⟨t, ht, hsame⟩ := List.mem_map.mp hmem'
      exact huntaken t ht hsame

theorem grows_put (s : Store κ β) (call : ℕ) (key : κ) (value : β) (ttl : ℤ) :
    Grows s (s.put call key value ttl) :=
  ⟨le_rfl, List.subset_cons_self _ _, List.Subset.refl _⟩

theorem grows_unset (s : Store κ β) (key : κ) : Grows s (s.unset key) :=
  ⟨le_rfl, List.Subset.refl _, List.Subset.refl _⟩

theorem grows_take (s : Store κ β) (call : ℕ) (key : κ) : Grows s (s.take call key).2 := by
  unfold Store.take
  cases s.live key with
  | none => exact grows_unset s key
  | some w => exact ⟨le_rfl, List.Subset.refl _, List.subset_cons_self _ _⟩

/-- What a call is given was written under the key it asks for, and is in the log for it. -/
theorem taken_of_take (h : Sound s) (htake : (s.take call key).1 = some value) :
    ∃ t ∈ (s.take call key).2.taken, t.taker = call ∧ t.written.key = key ∧
      t.written.value = value ∧ t.time = s.now := by
  unfold Store.take at htake ⊢
  cases hlive : s.live key with
  | none =>
    rw [hlive] at htake
    cases htake
  | some w =>
    rw [hlive] at htake
    obtain ⟨hkey, -⟩ := h.entries key w (live_eq_some.mp hlive).1
    exact ⟨_, List.mem_cons_self, rfl, hkey, Option.some.inj htake, rfl⟩

/-- A call that takes is in the log, and nothing else changes there. -/
theorem takers_take (s : Store κ β) (call : ℕ) (key : κ) :
    (s.take call key).2.taken.map Taken.taker = s.taken.map Taken.taker ∨
      (s.take call key).2.taken.map Taken.taker = call :: s.taken.map Taken.taker := by
  unfold Store.take
  cases s.live key with
  | none => exact .inl rfl
  | some w => exact .inr rfl

theorem written_take (s : Store κ β) (call : ℕ) (key : κ) :
    (s.take call key).2.written = s.written := by
  unfold Store.take
  cases s.live key <;> rfl

theorem now_take (s : Store κ β) (call : ℕ) (key : κ) : (s.take call key).2.now = s.now := by
  unfold Store.take
  cases s.live key <;> rfl

end Stores

section Stages

variable {log : List ℕ} {stage : ℕ → ℕ} {n m i : ℕ}

/-- Every call of the log is past the stage, and is in it once. -/
structure Past (log : List ℕ) (stage : ℕ → ℕ) (n : ℕ) : Prop where
  once : log.Nodup
  reached : ∀ i ∈ log, n ≤ stage i

theorem past_nil (stage : ℕ → ℕ) (n : ℕ) : Past [] stage n := ⟨List.nodup_nil, fun _ h => nomatch h⟩

theorem le_advance (hle : stage i ≤ m) (j : ℕ) : stage j ≤ Function.update stage i m j := by
  by_cases hj : j = i
  · subst hj
    rw [Function.update_self]
    exact hle
  · rw [Function.update_of_ne hj]

/-- A call goes on. -/
theorem Past.advance (h : Past log stage n) (hle : stage i ≤ m) :
    Past log (Function.update stage i m) n :=
  ⟨h.once, fun j hj => (h.reached j hj).trans (le_advance hle j)⟩

/-- A call that is before the stage passes it. -/
theorem Past.add (h : Past log stage n) (hbefore : stage i < n) (hm : n ≤ m) :
    Past (i :: log) (Function.update stage i m) n := by
  have hfresh : i ∉ log := fun hi => absurd (h.reached i hi) (not_le.mpr hbefore)
  refine ⟨List.nodup_cons.mpr ⟨hfresh, h.once⟩, ?_⟩
  refine List.forall_mem_cons.mpr ⟨by rwa [Function.update_self], ?_⟩
  exact (h.advance (hbefore.le.trans hm)).reached

/-- Two entries of one call are one. -/
theorem Past.eq_of_call {γ : Type} {entries : List γ} {call : γ → ℕ}
    (h : Past (entries.map call) stage n) {a b : γ} (ha : a ∈ entries) (hb : b ∈ entries)
    (hcall : call a = call b) : a = b :=
  List.inj_on_of_nodup_map h.once ha hb hcall

end Stages

end OneTimeValues
