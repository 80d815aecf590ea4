import Mathlib.Data.List.Basic
import Mathlib.Data.List.Infix
import Mathlib.Data.List.TakeWhile

/-!
# Matches in the order in which they are tried

A pattern gives for a text all the ways in which it matches a beginning of it, in the order in which
a backtracking matcher tries them: what it has read and what is left. A match is the first of them.
Where the first choice of every part lets the next part match, it is made up of these choices.
-/

namespace OrderedMatches

variable {α β : Type}

abbrev Matches (α : Type) := List Char → List (α × List Char)

/-- The characters of a text are gone through, and not all that there are. -/
scoped instance (priority := high) decidableForallMem (p : Char → Prop) [DecidablePred p]
  (text : List Char) : Decidable (∀ c ∈ text, p c) :=
  List.decidableBAll p text

scoped instance (priority := high) decidableForallHead (p : Char → Prop) [DecidablePred p]
  (c : Option Char) : Decidable (∀ d ∈ c, p d) :=
  Option.decidableForallMem c

namespace Matches

protected def pure (a : α) : Matches α := fun text => [(a, text)]

protected def bind (m : Matches α) (f : α → Matches β) : Matches β :=
  fun text => (m text).flatMap fun result => f result.1 result.2

/-- The first pattern is tried first. -/
def orElse (m m' : Matches α) : Matches α := fun text => m text ++ m' text

/-- A part that may be missing, and is missing only when it has to be. -/
def opt (m : Matches α) : Matches (Option α) :=
  (m.bind fun a => Matches.pure (some a)).orElse (Matches.pure none)

/-- One character of a class. -/
def one (p : Char → Bool) : Matches Char
  | [] => []
  | c :: rest => if p c then [(c, rest)] else []

/-- Characters of a class, as many as there are and `least` at least. -/
def run (p : Char → Bool) (least : ℕ) : Matches (List Char) := fun text =>
  ((List.range ((text.takeWhile p).length + 1)).reverse.filter fun n => least ≤ n).map
    fun n => (text.take n, text.drop n)

/-- Characters that `f` takes to the given ones. -/
def spelled (f : Char → Char) : List Char → Matches (List Char)
  | [] => Matches.pure []
  | c :: rest => (one fun d => f d = c).bind fun d => (spelled f rest).bind fun ds =>
    Matches.pure (d :: ds)

/-- A word in small letters, written in small or capital ones. -/
abbrev word (letters : List Char) : Matches (List Char) := spelled Char.toLower letters

abbrev literal (text : List Char) : Matches (List Char) := spelled id text

def oneOf : List (Matches α) → Matches α
  | [] => fun _ => []
  | m :: ms => m.orElse (oneOf ms)

/-- The pattern again and again, as often as it can be and reads something. -/
def againUpTo (m : Matches α) : ℕ → Matches (List α)
  | 0 => Matches.pure []
  | n + 1 => fun text =>
    ((m text).filter fun result => result.2.length < text.length).flatMap
        (fun result => ((againUpTo m n) result.2).map fun more => (result.1 :: more.1, more.2)) ++
          [([], text)]

def again (m : Matches α) : Matches (List α) := fun text => againUpTo m text.length text

/-- What the pattern reads, as text. -/
def reading (m : Matches α) : Matches (List Char) := fun text =>
  (m text).map fun result => (text.take (text.length - result.2.length), result.2)

/-- The first match at the first place where there is one. -/
def search (m : Matches α) (text : List Char) : Option α :=
  text.tails.findSome? fun rest => (m rest).head?.map Prod.fst

/-- The pattern matches at the beginning. -/
def matchesAt (m : Matches α) (text : List Char) : Bool := !(m text).isEmpty

end Matches

/-- What is tried first. -/
def First (m : Matches α) (text : List Char) (a : α) (rest : List Char) : Prop :=
  (m text).head? = some (a, rest)

section Firsts
open Matches

variable {m m' : Matches α} {f : α → Matches β} {text rest rest' : List Char} {a : α} {b : β}
  {p : Char → Bool} {c : Char} {least : ℕ}

theorem first_pure : First (Matches.pure a) text a text := rfl

theorem first_bind (hm : First m text a rest) (hf : First (f a) rest b rest') :
    First (m.bind f) text b rest' := by
  obtain ⟨more, hmore⟩ := List.head?_eq_some_iff.mp hm
  obtain ⟨more', hmore'⟩ := List.head?_eq_some_iff.mp hf
  simp [First, Matches.bind, hmore, hmore']

theorem first_orElse_left (hm : First m text a rest) : First (m.orElse m') text a rest := by
  obtain ⟨more, hmore⟩ := List.head?_eq_some_iff.mp hm
  simp [First, orElse, hmore]

theorem first_orElse_right (hm : m text = []) (hm' : First m' text a rest) :
    First (m.orElse m') text a rest := by
  simpa [First, orElse, hm] using hm'

theorem first_opt_some (hm : First m text a rest) : First m.opt text (some a) rest :=
  first_orElse_left (first_bind hm first_pure)

theorem first_opt_none (hm : m text = []) : First m.opt text none text := by
  refine first_orElse_right ?_ first_pure
  simp [Matches.bind, hm]

theorem first_one (hc : p c) : First (one p) (c :: rest) c rest := by simp [First, one, hc]

/-- A run goes on to the first character that is not of the class. -/
theorem first_run (hleast : least ≤ text.length) (htext : ∀ c ∈ text, p c)
    (hrest : ∀ c ∈ rest.head?, ¬p c) :
    First (run p least) (text ++ rest) text rest := by
  have hstop : rest.takeWhile p = [] := by
    cases rest with
    | nil => rfl
    | cons c rest => exact List.takeWhile_cons_of_neg (hrest c rfl)
  have hlength : ((text ++ rest).takeWhile p).length = text.length := by
    rw [List.takeWhile_append_of_pos htext, hstop, List.append_nil]
  rw [First, run, hlength, List.range_succ, List.reverse_append, List.reverse_singleton,
    List.singleton_append,
    List.filter_cons_of_pos (by simpa using hleast), List.map_cons, List.head?_cons, List.take_left,
    List.drop_left]

/-- A run may go on to the end. -/
theorem first_run_end (hleast : least ≤ text.length) (htext : ∀ c ∈ text, p c) :
    First (run p least) text text [] := by
  have hread :=
    first_run hleast htext (show ∀ c ∈ ([] : List Char).head?, ¬p c from fun c hc => nomatch hc)
  rwa [List.append_nil] at hread

theorem run_eq_nil (hleast : 0 < least) (htext : ∀ c ∈ text.head?, ¬p c) :
    run p least text = [] := by
  have hstop : text.takeWhile p = [] := by
    cases text with
    | nil => rfl
    | cons c rest => exact List.takeWhile_cons_of_neg (htext c rfl)
  rw [run, hstop]
  simp
  omega

/-- A word is read in one way at most. -/
theorem spelled_eq (g : Char → Char) (letters text : List Char) :
    spelled g letters text =
      if (text.take letters.length).map g = letters then
        [(text.take letters.length, text.drop letters.length)] else [] := by
  induction letters generalizing text with
  | nil => rfl
  | cons letter letters ih =>
    cases text with
    | nil => rfl
    | cons c text =>
      by_cases hc : g c = letter
      · by_cases hrest : (text.take letters.length).map g = letters
        · simp [spelled, Matches.bind, Matches.pure, one, hc, ih, hrest, -List.map_take]
        · simp [spelled, Matches.bind, one, hc, ih, hrest, -List.map_take]
      · simp [spelled, Matches.bind, one, hc]

theorem first_spelled {g : Char → Char} {letters written : List Char}
    (hwritten : written.map g = letters) :
    First (spelled g letters) (written ++ rest) written rest := by
  have hlength : letters.length = written.length := by rw [← hwritten, List.length_map]
  rw [First, spelled_eq, hlength, List.take_left, List.drop_left, if_pos hwritten]
  rfl

/-- A text that begins with another character. -/
theorem spelled_cons_eq_nil {g : Char → Char} {letter : Char} {letters : List Char}
    (htext : ∀ c ∈ text.head?, g c ≠ letter) :
    spelled g (letter :: letters) text = [] := by
  cases text with
  | nil => rfl
  | cons c text =>
    have hc : g c ≠ letter := htext c rfl
    simp [spelled, Matches.bind, one, hc]

theorem one_eq_nil (htext : ∀ c ∈ text.head?, ¬p c) : one p text = [] := by
  cases text with
  | nil => rfl
  | cons c text => simp [one, htext c rfl]

theorem bind_eq_nil (h : ∀ result ∈ m text, f result.1 result.2 = []) : m.bind f text = [] :=
  List.flatMap_eq_nil_iff.mpr h

theorem bind_eq_nil_of_eq_nil (h : m text = []) : m.bind f text = [] :=
  bind_eq_nil fun result hresult => by
    rw [h] at hresult
    cases hresult

theorem reading_eq_nil (h : m text = []) : reading m text = [] := by simp [reading, h]

/-- What is read of a text is what stands before the rest. -/
theorem first_reading (hm : First m (text ++ rest) a rest) :
    First (reading m) (text ++ rest) text rest := by
  obtain ⟨more, hmore⟩ := List.head?_eq_some_iff.mp hm
  simp [First, reading, hmore]

theorem first_search (hm : First m text a rest) : search m text = some a := by
  have hhere : (m text).head?.map Prod.fst = some a := by
    rw [hm]
    rfl
  cases text with
  | nil => simp [search, hhere]
  | cons c text => simp [search, hhere]

end Firsts

section Reads
open Matches

variable {m m' : Matches α} {f : α → Matches β} {R S : List Char → α → Prop} {T : List Char → β →
  Prop} {p : Char → Bool}

/-- Whatever is tried, the text that is read and what it is read as are related. -/
def Reads (m : Matches α) (R : List Char → α → Prop) : Prop :=
  ∀ text, ∀ result ∈ m text, ∃ read, text = read ++ result.2 ∧ R read result.1

theorem reads_pure {a : α} (ha : R [] a) : Reads (Matches.pure a) R := by
  intro text result hresult
  obtain rfl := List.mem_singleton.mp hresult
  exact ⟨[], rfl, ha⟩

theorem reads_bind (hm : Reads m R)
    (hf : ∀ read a, R read a → Reads (f a) fun more b => T (read ++ more) b) :
    Reads (m.bind f) T := by
  intro text result hresult
  obtain ⟨middle, hmiddle, hresult⟩ := List.mem_flatMap.mp hresult
  obtain ⟨read, htext, hread⟩ := hm text middle hmiddle
  obtain ⟨more, hrest, hmore⟩ := hf read middle.1 hread middle.2 result hresult
  exact ⟨read ++ more, by rw [htext, hrest, List.append_assoc], hmore⟩

theorem reads_imp (hm : Reads m R) (hR : ∀ read a, R read a → S read a) : Reads m S := by
  intro text result hresult
  obtain ⟨read, htext, hread⟩ := hm text result hresult
  exact ⟨read, htext, hR read result.1 hread⟩

theorem reads_orElse (hm : Reads m R) (hm' : Reads m' R) : Reads (m.orElse m') R := by
  intro text result hresult
  rcases List.mem_append.mp hresult with hresult | hresult
  · exact hm text result hresult
  · exact hm' text result hresult

theorem reads_oneOf {ms : List (Matches α)} (hms : ∀ m ∈ ms, Reads m R) : Reads (oneOf ms) R := by
  induction ms with
  | nil => exact fun text result hresult => nomatch hresult
  | cons m ms ih =>
    obtain ⟨hm, hms⟩ := List.forall_mem_cons.mp hms
    exact reads_orElse hm (ih hms)

/-- What is missing is read as nothing. -/
theorem reads_opt (hm : Reads m R) :
    Reads m.opt fun read a => match a with | some a => R read a | none => read = [] := by
  refine reads_orElse (reads_bind hm fun read a hread => reads_pure ?_) (reads_pure rfl)
  rwa [List.append_nil]

theorem reads_one : Reads (one p) fun read c => read = [c] ∧ p c := by
  intro text result hresult
  cases text with
  | nil => cases hresult
  | cons c rest =>
    by_cases hc : p c
    · simp only [one, hc, if_true, List.mem_singleton] at hresult
      rw [hresult]
      exact ⟨[c], rfl, rfl, hc⟩
    · simp [one, hc] at hresult

theorem reads_run (least : ℕ) :
    Reads (run p least) fun read cs => read = cs ∧ (∀ c ∈ cs, p c) ∧ least ≤ cs.length := by
  intro text result hresult
  obtain ⟨n, hn, rfl⟩ := List.mem_map.mp hresult
  obtain ⟨hrange, hleast⟩ := List.mem_filter.mp hn
  have hle : n ≤ (text.takeWhile p).length :=
    Nat.lt_succ_iff.mp (List.mem_range.mp (List.mem_reverse.mp hrange))
  have htake : text.take n = (text.takeWhile p).take n := by
    conv_lhs => rw [← List.takeWhile_append_dropWhile (p := p) (l := text)]
    rw [List.take_append_of_le_length hle]
  refine ⟨text.take n, (List.take_append_drop n text).symm, rfl, ?_, ?_⟩
  · intro c hc
    exact List.mem_takeWhile_imp (List.mem_of_mem_take (htake ▸ hc))
  · rw [htake, List.length_take]
    have hleast' : least ≤ n := of_decide_eq_true hleast
    omega

theorem reads_spelled (g : Char → Char) (letters : List Char) :
    Reads (spelled g letters) fun read written => read = written ∧ written.map g = letters := by
  intro text result hresult
  rw [spelled_eq] at hresult
  split at hresult
  case isFalse => cases hresult
  case isTrue hread =>
    obtain rfl := List.mem_singleton.mp hresult
    exact ⟨text.take letters.length, (List.take_append_drop letters.length text).symm, rfl, hread⟩

theorem reads_reading (hm : Reads m R) :
    Reads (reading m) fun read text => read = text ∧ ∃ a, R read a := by
  intro text result hresult
  obtain ⟨found, hfound, rfl⟩ := List.mem_map.mp hresult
  obtain ⟨read, htext, hread⟩ := hm text found hfound
  refine ⟨read, htext, ?_, found.1, hread⟩
  rw [htext, List.length_append, Nat.add_sub_cancel, List.take_left]

/-- What is read again and again is read one after the other. -/
theorem reads_again (hm : Reads m R) :
    Reads (again m) fun read as => ∃ reads, read = reads.flatten ∧ List.Forall₂ R reads as := by
  have hupTo : ∀ n, Reads (againUpTo m n)
      fun read as => ∃ reads, read = reads.flatten ∧ List.Forall₂ R reads as := by
    intro n
    induction n with
    | zero => exact reads_pure ⟨[], rfl, .nil⟩
    | succ n ih =>
      intro text result hresult
      rcases List.mem_append.mp hresult with hresult | hresult
      · obtain ⟨found, hfound, hresult⟩ := List.mem_flatMap.mp hresult
        obtain ⟨more, hmore, rfl⟩ := List.mem_map.mp hresult
        obtain ⟨read, htext, hread⟩ := hm text found (List.mem_of_mem_filter hfound)
        obtain ⟨-, hrest, reads, rfl, hreads⟩ := ih found.2 more hmore
        exact ⟨read ++ reads.flatten, by rw [htext, hrest, List.append_assoc], read :: reads, rfl,
          .cons hread hreads⟩
      · obtain rfl := List.mem_singleton.mp hresult
        exact ⟨[], rfl, [], rfl, .nil⟩
  exact fun text => hupTo text.length text

/-- A match that is found stands somewhere in the text. -/
theorem Reads.of_search (hm : Reads m R) {text : List Char} {a : α} (h : search m text = some a) :
    ∃ before read after, text = before ++ (read ++ after) ∧ R read a := by
  obtain ⟨rest, hrest, hfound⟩ := List.exists_of_findSome?_eq_some h
  obtain ⟨result, hresult, rfl⟩ := Option.map_eq_some_iff.mp hfound
  obtain ⟨read, htext, hread⟩ := hm rest result (List.mem_of_mem_head? hresult)
  obtain ⟨before, hbefore⟩ := (List.mem_tails _ _).mp hrest
  exact ⟨before, read, result.2, by rw [← hbefore, htext], hread⟩

end Reads

end OrderedMatches
