import Mathlib.Data.List.Basic

/-!
# Operations on a store that may fail

An operation asks a store one request after the other and ends with a value or an error. Any
request may be refused, and one that was carried out may still end in an error; what an
operation has written by then stays. `Ensures` states what an operation leaves behind, with one
condition for a value and one for an error, so that a handler goes on from the second.
-/

namespace UnreliableStores

variable {σ ε α β : Type}

/-- How the store meets the next request: it answers, it carries the request out and the answer
is lost, or it refuses. The number picks one of several rows that a query may return. -/
inductive Turn where
  | answers (choice : ℕ)
  | loses (choice : ℕ)
  | refuses
  deriving DecidableEq

abbrev Operation (σ ε α : Type) := ExceptT ε (StateM (σ × List Turn)) α

/-- The result, the state at the end and the turns that are left. -/
def outcome (x : Operation σ ε α) (s : σ) (turns : List Turn) : Except ε α × (σ × List Turn) :=
  (ExceptT.run x).run (s, turns)

/-- A request gives a value and a new state, or an error and nothing else. -/
def Turn.meets (outage : ε) (carry : ℕ → σ → Except ε (α × σ)) (s : σ) : Turn → Except ε α × σ
  | .answers n =>
    match carry n s with
    | .ok (a, s') => (.ok a, s')
    | .error e => (.error e, s)
  | .loses n =>
    match carry n s with
    | .ok (_, s') => (.error outage, s')
    | .error e => (.error e, s)
  | .refuses => (.error outage, s)

def request (outage : ε) (carry : ℕ → σ → Except ε (α × σ)) : Operation σ ε α :=
  ExceptT.mk fun (s, turns) =>
    let met := (turns.headD (.answers 0)).meets outage carry s
    (met.1, (met.2, turns.tail))

/-- A request that leaves the state alone. -/
def read (outage : ε) (f : ℕ → σ → α) : Operation σ ε α := request outage fun n s => .ok (f n s, s)

/-- One of the rows that meet a condition; without one, none. -/
def pick {ρ : Type} (n : ℕ) (rows : List ρ) (p : ρ → Bool) : Option ρ :=
  (rows.filter p)[n % (rows.filter p).length]?

theorem mem_of_pick {ρ : Type} {n : ℕ} {rows : List ρ} {p : ρ → Bool} {row : ρ}
    (h : pick n rows p = some row) :
    row ∈ rows ∧ p row := by
  have hmem := List.mem_of_getElem? h
  exact List.mem_filter.mp hmem

theorem pick_eq_none {ρ : Type} {n : ℕ} {rows : List ρ} {p : ρ → Bool} :
    pick n rows p = none ↔ ∀ row ∈ rows, ¬p row := by
  rw [pick, List.getElem?_eq_none_iff]
  constructor
  · intro h row hrow hp
    have hpos : 0 < (rows.filter p).length :=
      List.length_pos_of_mem (List.mem_filter.mpr ⟨hrow, hp⟩)
    have hlt := Nat.mod_lt n hpos
    omega
  · intro h
    have hnil : rows.filter p = [] := List.filter_eq_nil_iff.mpr fun row hrow => h row hrow
    simp [hnil]

/-- Every row that meets the condition may be the one. -/
theorem exists_pick {ρ : Type} {rows : List ρ} {p : ρ → Bool} {row : ρ} (hrow : row ∈ rows)
    (hp : p row) :
    ∃ n, pick n rows p = some row := by
  obtain ⟨n, hn, hget⟩ := List.mem_iff_getElem.mp (List.mem_filter.mpr ⟨hrow, hp⟩)
  refine ⟨n, ?_⟩
  rw [pick, Nat.mod_eq_of_lt hn, List.getElem?_eq_getElem hn, hget]

section Judgment

/-- From a state in `P`, a value leaves a state in `Q` and an error one in `E`. -/
def Ensures (P : σ → Prop) (x : Operation σ ε α) (Q : α → σ → Prop) (E : σ → Prop) : Prop :=
  ∀ s turns, P s →
    match outcome x s turns with
    | (.ok a, (s', _)) => Q a s'
    | (.error _, (s', _)) => E s'

/-- The operation ends in `I` where it started in it, however it ends. -/
def Keeps (I : σ → Prop) (x : Operation σ ε α) : Prop := Ensures I x (fun _ => I) I

variable {P P' R : σ → Prop} {Q Q' : α → σ → Prop} {E E' : σ → Prop} {x : Operation σ ε α}

theorem Ensures.weaken (h : Ensures P x Q E) (hP : ∀ s, P' s → P s) (hQ : ∀ a s, Q a s → Q' a s)
    (hE : ∀ s, E s → E' s) : Ensures P' x Q' E' := by
  intro s turns hs
  have hout := h s turns (hP s hs)
  split at hout
  · exact hQ _ _ hout
  · exact hE _ hout

theorem Ensures.pure {a : α} (h : ∀ s, P s → Q a s) : Ensures P (pure a : Operation σ ε α) Q E :=
  fun s _ hs => h s hs

theorem Ensures.throw {e : ε} (h : ∀ s, P s → E s) : Ensures P (throw e : Operation σ ε α) Q E :=
  fun s _ hs => h s hs

theorem outcome_request (outage : ε) (carry : ℕ → σ → Except ε (α × σ)) (s : σ)
    (turns : List Turn) :
    outcome (request outage carry) s turns =
      let met := (turns.headD (.answers 0)).meets outage carry s
      (met.1, (met.2, turns.tail)) :=
  rfl

theorem outcome_bind (x : Operation σ ε α) (f : α → Operation σ ε β) (s : σ) (turns : List Turn) :
    outcome (x >>= f) s turns =
      match outcome x s turns with
      | (.ok a, (s', turns')) => outcome (f a) s' turns'
      | (.error e, rest) => (.error e, rest) := by
  show (ExceptT.run (x >>= f)).run (s, turns) = _
  rw [ExceptT.run_bind, StateT.run_bind]
  unfold outcome
  generalize (ExceptT.run x).run (s, turns) = r
  obtain ⟨r, s', turns'⟩ := r
  cases r with
  | ok a => rfl
  | error e => rfl

theorem outcome_tryCatch (x : Operation σ ε α) (handler : ε → Operation σ ε α) (s : σ)
    (turns : List Turn) :
    outcome (tryCatch x handler) s turns =
      match outcome x s turns with
      | (.ok a, rest) => (.ok a, rest)
      | (.error e, (s', turns')) => outcome (handler e) s' turns' := by
  show (ExceptT.run (tryCatch x handler)).run (s, turns) = _
  unfold outcome
  show StateT.run (ExceptT.run x >>=
      fun r => match r with | .ok a => pure (.ok a) | .error e => ExceptT.run (handler e))
    (s, turns) = _
  rw [StateT.run_bind]
  generalize (ExceptT.run x).run (s, turns) = r
  obtain ⟨r, s', turns'⟩ := r
  cases r with
  | ok a => rfl
  | error e => rfl

theorem Ensures.bind {R : α → σ → Prop} {Q : β → σ → Prop} {f : α → Operation σ ε β}
    (hx : Ensures P x R E) (hf : ∀ a, Ensures (R a) (f a) Q E) : Ensures P (x >>= f) Q E := by
  intro s turns hs
  have hout := hx s turns hs
  rw [outcome_bind]
  generalize outcome x s turns = r at hout
  obtain ⟨r, s', turns'⟩ := r
  cases r with
  | ok a => exact hf a s' turns' hout
  | error e => exact hout

theorem Ensures.tryCatch {handler : ε → Operation σ ε α} (hx : Ensures P x Q R)
    (hh : ∀ e, Ensures R (handler e) Q E) :
    Ensures P (tryCatch x handler) Q E := by
  intro s turns hs
  have hout := hx s turns hs
  rw [outcome_tryCatch]
  generalize outcome x s turns = r at hout
  obtain ⟨r, s', turns'⟩ := r
  cases r with
  | ok a => exact hout
  | error e => exact hh e s' turns' hout

theorem Ensures.request {outage : ε} {carry : ℕ → σ → Except ε (α × σ)} (hrefused : ∀ s, P s → E s)
    (hcarried : ∀ n s a s', P s → carry n s = .ok (a, s') → Q a s' ∧ E s') :
    Ensures P (request outage carry) Q E := by
  intro s turns hs
  rw [outcome_request]
  have hmet : match (turns.headD (.answers 0)).meets outage carry s with
      | (.ok a, s') => Q a s'
      | (.error _, s') => E s' := by
    cases turns.headD (.answers 0) with
    | refuses => exact hrefused s hs
    | answers n =>
      cases hcarry : carry n s with
      | ok r => simpa only [Turn.meets, hcarry] using (hcarried n s r.1 r.2 hs hcarry).1
      | error e => simpa only [Turn.meets, hcarry] using hrefused s hs
    | loses n =>
      cases hcarry : carry n s with
      | ok r => simpa only [Turn.meets, hcarry] using (hcarried n s r.1 r.2 hs hcarry).2
      | error e => simpa only [Turn.meets, hcarry] using hrefused s hs
  generalize (turns.headD (.answers 0)).meets outage carry s = met at hmet
  obtain ⟨r, s'⟩ := met
  cases r with
  | ok a => exact hmet
  | error e => exact hmet

theorem Ensures.read {outage : ε} {f : ℕ → σ → α} (hrefused : ∀ s, P s → E s)
    (hread : ∀ n s, P s → Q (f n s) s) :
    Ensures P (read outage f) Q E := by
  refine Ensures.request hrefused fun n s a s' hs h => ?_
  cases h
  exact ⟨hread n s hs, hrefused s hs⟩

/-- One state of the precondition at a time. -/
theorem Ensures.states (h : ∀ s, P s → Ensures (· = s) x Q E) : Ensures P x Q E :=
  fun s turns hs => h s hs s turns rfl

theorem Ensures.trivial (P : σ → Prop) (x : Operation σ ε α) :
    Ensures P x (fun _ _ => True) (fun _ => True) := by
  intro s turns _
  split <;> constructor

/-- A fact that needs no state may be used while the operation is judged. -/
theorem Ensures.assume {φ : Prop} (h : φ → Ensures P x Q E) : Ensures (fun s => φ ∧ P s) x Q E :=
  fun s turns hs => h hs.1 s turns hs.2

end Judgment

section Kept

variable {I : σ → Prop} {x : Operation σ ε α}

theorem Keeps.pure (a : α) : Keeps I (pure a : Operation σ ε α) := Ensures.pure fun _ hs => hs

theorem Keeps.throw (e : ε) : Keeps I (throw e : Operation σ ε α) := Ensures.throw fun _ hs => hs

theorem Keeps.bind {f : α → Operation σ ε β} (hx : Keeps I x) (hf : ∀ a, Keeps I (f a)) :
    Keeps I (x >>= f) :=
  Ensures.bind hx hf

theorem Keeps.tryCatch {handler : ε → Operation σ ε α} (hx : Keeps I x)
    (hh : ∀ e, Keeps I (handler e)) :
    Keeps I (tryCatch x handler) :=
  Ensures.tryCatch hx hh

theorem Keeps.request {outage : ε} {carry : ℕ → σ → Except ε (α × σ)}
    (h : ∀ n s a s', I s → carry n s = .ok (a, s') → I s') : Keeps I (request outage carry) :=
  Ensures.request (fun _ hs => hs) fun n s a s' hs hcarry => ⟨h n s a s' hs hcarry,
    h n s a s' hs hcarry⟩

theorem Keeps.read {outage : ε} {f : ℕ → σ → α} : Keeps I (read outage f) :=
  Ensures.read (fun _ hs => hs) fun _ _ hs => hs

end Kept

section Answers

/-- A store that answers. -/
def Answering (turns : List Turn) : Prop := ∀ turn ∈ turns, ∃ n, turn = .answers n

theorem Answering.tail {turns : List Turn} (h : Answering turns) : Answering turns.tail :=
  fun turn hturn => h turn (List.mem_of_mem_tail hturn)

theorem Answering.headD {turns : List Turn} (h : Answering turns) :
    ∃ n, turns.headD (.answers 0) = .answers n := by
  cases turns with
  | nil => exact ⟨0, rfl⟩
  | cons turn turns => exact h turn List.mem_cons_self

/-- From a state in `P`, with a store that answers, the operation ends with a value. -/
def Yields (P : σ → Prop) (x : Operation σ ε α) (Q : α → σ → Prop) : Prop :=
  ∀ s turns, Answering turns → P s →
    ∃ a s' rest, outcome x s turns = (.ok a, (s', rest)) ∧ Answering rest ∧ Q a s'

variable {P P' : σ → Prop} {Q Q' : α → σ → Prop} {x : Operation σ ε α}

theorem Yields.weaken (h : Yields P x Q) (hP : ∀ s, P' s → P s) (hQ : ∀ a s, Q a s → Q' a s) :
    Yields P' x Q' := by
  intro s turns hturns hs
  obtain ⟨a, s', rest, hout, hrest, hq⟩ := h s turns hturns (hP s hs)
  exact ⟨a, s', rest, hout, hrest, hQ a s' hq⟩

theorem Yields.pure {a : α} (h : ∀ s, P s → Q a s) : Yields P (pure a : Operation σ ε α) Q := by
  intro s turns hturns hs
  exact ⟨a, s, turns, rfl, hturns, h s hs⟩

theorem Yields.bind {R : α → σ → Prop} {Q : β → σ → Prop} {f : α → Operation σ ε β}
    (hx : Yields P x R) (hf : ∀ a, Yields (R a) (f a) Q) : Yields P (x >>= f) Q := by
  intro s turns hturns hs
  obtain ⟨a, s', rest, hout, hrest, hr⟩ := hx s turns hturns hs
  obtain ⟨b, s'', rest', hout', hrest', hq⟩ := hf a s' rest hrest hr
  refine ⟨b, s'', rest', ?_, hrest', hq⟩
  rw [outcome_bind, hout]
  exact hout'

theorem Yields.tryCatch {handler : ε → Operation σ ε α} (hx : Yields P x Q) :
    Yields P (tryCatch x handler) Q := by
  intro s turns hturns hs
  obtain ⟨a, s', rest, hout, hrest, hq⟩ := hx s turns hturns hs
  refine ⟨a, s', rest, ?_, hrest, hq⟩
  rw [outcome_tryCatch, hout]

theorem Yields.request {outage : ε} {carry : ℕ → σ → Except ε (α × σ)}
    (h : ∀ n s, P s → ∃ a s', carry n s = .ok (a, s') ∧ Q a s') :
    Yields P (request outage carry) Q := by
  intro s turns hturns hs
  obtain ⟨n, hn⟩ := hturns.headD
  obtain ⟨a, s', hcarry, hq⟩ := h n s hs
  refine ⟨a, s', turns.tail, ?_, hturns.tail, hq⟩
  rw [outcome_request, hn]
  simp only [Turn.meets, hcarry]

theorem Yields.states (h : ∀ s, P s → Yields (· = s) x Q) : Yields P x Q :=
  fun s turns hturns hs => h s hs s turns hturns rfl

/-- What any outcome leaves, a value leaves. -/
theorem Yields.ensures {E : σ → Prop} (h : Yields P x fun _ _ => True) (he : Ensures P x Q E) :
    Yields P x Q := by
  intro s turns hturns hs
  obtain ⟨a, s', rest, hout, hrest, -⟩ := h s turns hturns hs
  have hq := he s turns hs
  rw [hout] at hq
  exact ⟨a, s', rest, hout, hrest, hq⟩

theorem Yields.read {outage : ε} {f : ℕ → σ → α} (h : ∀ n s, P s → Q (f n s) s) :
    Yields P (read outage f) Q :=
  Yields.request fun n s hs => ⟨f n s, s, rfl, h n s hs⟩

end Answers

section Steadiness

variable {x : Operation σ ε α}

/-- Once an operation has used its turns, those that follow are free. -/
def Steady (x : Operation σ ε α) : Prop :=
  ∀ s turns, ∃ used, ∀ more, outcome x s (used ++ more) = ((outcome x s turns).1,
    ((outcome x s turns).2.1, more))

theorem Steady.pure (a : α) : Steady (pure a : Operation σ ε α) := by
  intro s turns
  exact ⟨[], fun more => rfl⟩

theorem Steady.throw (e : ε) : Steady (throw e : Operation σ ε α) := by
  intro s turns
  exact ⟨[], fun more => rfl⟩

theorem Steady.request (outage : ε) (carry : ℕ → σ → Except ε (α × σ)) :
    Steady (request outage carry) := by
  intro s turns
  exact ⟨[turns.headD (.answers 0)], fun more => rfl⟩

theorem Steady.bind {f : α → Operation σ ε β} (hx : Steady x) (hf : ∀ a, Steady (f a)) :
    Steady (x >>= f) := by
  intro s turns
  obtain ⟨used, hused⟩ := hx s turns
  generalize hout : outcome x s turns = r at hused
  obtain ⟨r, s', turns'⟩ := r
  cases r with
  | error e =>
    refine ⟨used, ?_⟩
    intro more
    rw [outcome_bind, outcome_bind, hout, hused]
  | ok a =>
    obtain ⟨used', hused'⟩ := hf a s' turns'
    refine ⟨used ++ used', ?_⟩
    intro more
    rw [outcome_bind, outcome_bind, hout, List.append_assoc, hused]
    exact hused' more

theorem Steady.tryCatch {handler : ε → Operation σ ε α} (hx : Steady x)
    (hh : ∀ e, Steady (handler e)) :
    Steady (tryCatch x handler) := by
  intro s turns
  obtain ⟨used, hused⟩ := hx s turns
  generalize hout : outcome x s turns = r at hused
  obtain ⟨r, s', turns'⟩ := r
  cases r with
  | ok a =>
    refine ⟨used, ?_⟩
    intro more
    rw [outcome_tryCatch, outcome_tryCatch, hout, hused]
  | error e =>
    obtain ⟨used', hused'⟩ := hh e s' turns'
    refine ⟨used ++ used', ?_⟩
    intro more
    rw [outcome_tryCatch, outcome_tryCatch, hout, List.append_assoc, hused]
    exact hused' more

end Steadiness

end UnreliableStores
