import Mathlib.Data.List.Nodup
import Mathlib.Data.List.Count
import Mathlib.Algebra.BigOperators.Group.List.Basic

/-!
# Tables with a key

No two rows of a table have the same key. A row whose key is taken is not inserted, and an
update leaves the keys as they are, so every table that can be built is one of this kind.
-/

namespace KeyedTables

variable {ρ κ : Type}

structure Keyed (key : ρ → κ) where
  rows : List ρ
  distinct : (rows.map key).Nodup

namespace Keyed

variable {key : ρ → κ}

def empty : Keyed key := ⟨[], List.nodup_nil⟩

instance : Inhabited (Keyed key) := ⟨empty⟩

instance [DecidableEq ρ] : DecidableEq (Keyed key) := fun t t' =>
  decidable_of_iff (t.rows = t'.rows) (by
    obtain ⟨rows, distinct⟩ := t
    obtain ⟨rows', distinct'⟩ := t'
    simp)

def delete (t : Keyed key) (p : ρ → Bool) : Keyed key where
  rows := t.rows.filter fun row => !p row
  distinct := t.distinct.sublist (List.filter_sublist.map key)

/-- The rows that meet a condition are changed. -/
def update (t : Keyed key) (p : ρ → Bool) (f : ρ → ρ) (hf : ∀ row, key (f row) = key row) :
    Keyed key where
  rows := t.rows.map fun row => if p row then f row else row
  distinct := by
    have hkeys : (t.rows.map fun row => if p row then f row else row).map key = t.rows.map key := by
      rw [List.map_map]
      apply List.map_congr_left
      intro row _
      show key (if p row then f row else row) = key row
      split_ifs
      · exact hf row
      · rfl
    exact hkeys ▸ t.distinct

def count (t : Keyed key) (p : ρ → Bool) : ℕ := t.rows.countP p

variable [DecidableEq κ]

def find? (t : Keyed key) (k : κ) : Option ρ := t.rows.find? fun row => key row = k

def insert (t : Keyed key) (row : ρ) : Option (Keyed key) :=
  if h : key row ∈ t.rows.map key then none
  else some
    { rows := t.rows ++ [row]
      distinct := by
        rw [List.map_append, List.nodup_append]
        refine ⟨t.distinct, List.nodup_singleton _, ?_⟩
        rintro k hk k' hk' rfl
        exact h (List.mem_singleton.mp hk' ▸ hk) }

variable {t t' : Keyed key} {row row' : ρ} {p q : ρ → Bool} {f : ρ → ρ}
  (hf : ∀ row, key (f row) = key row)

omit [DecidableEq κ] in
theorem eq_of_key (hrow : row ∈ t.rows) (hrow' : row' ∈ t.rows) (hkey : key row = key row') :
    row = row' :=
  List.inj_on_of_nodup_map t.distinct hrow hrow' hkey

theorem find?_eq_some {k : κ} : t.find? k = some row ↔ row ∈ t.rows ∧ key row = k := by
  constructor
  · intro h
    exact ⟨List.mem_of_find?_eq_some h, by simpa using List.find?_some h⟩
  · rintro ⟨hrow, hkey⟩
    have hsome : (t.find? k).isSome := List.find?_isSome.mpr ⟨row, hrow, by simp [hkey]⟩
    obtain ⟨found, hfound⟩ := Option.isSome_iff_exists.mp hsome
    have hfoundKey : key found = k := by simpa using List.find?_some hfound
    rw [hfound, eq_of_key (List.mem_of_find?_eq_some hfound) hrow (hfoundKey.trans hkey.symm)]

theorem find?_eq_none {k : κ} : t.find? k = none ↔ ∀ row ∈ t.rows, key row ≠ k := by
  simp [find?]

theorem insert_eq_none : t.insert row = none ↔ ∃ row' ∈ t.rows, key row' = key row := by
  unfold insert
  split_ifs with h
  · simpa using h
  · simpa using h

theorem rows_of_insert (h : t.insert row = some t') : t'.rows = t.rows ++ [row] := by
  unfold insert at h
  split_ifs at h
  rw [← Option.some.inj h]

theorem mem_insert (h : t.insert row = some t') : row' ∈ t'.rows ↔ row' ∈ t.rows ∨ row' = row := by
  rw [rows_of_insert h, List.mem_append, List.mem_singleton]

theorem count_insert (h : t.insert row = some t') (p : ρ → Bool) :
    t'.count p = t.count p + if p row then 1 else 0 := by
  rw [count, rows_of_insert h, List.countP_append, List.countP_singleton]
  rfl

/-- Only the row of a key is counted among the rows with it. -/
theorem count_of_key {k : κ} (h : t.find? k = some row) :
    (t.count fun row => key row = k && p row) = if p row then 1 else 0 := by
  obtain ⟨hrow, rfl⟩ := find?_eq_some.mp h
  obtain ⟨rows, distinct⟩ := t
  unfold count
  clear h
  induction rows with
  | nil => cases hrow
  | cons first rest ih =>
    obtain ⟨hfresh, hrest⟩ :=
      List.nodup_cons.mp (by simpa using distinct : (key first :: rest.map key).Nodup)
    rw [List.countP_cons]
    rcases List.mem_cons.mp hrow with rfl | hlater
    · have hnone : (rest.countP fun r => key r = key row && p r) = 0 := by
        rw [List.countP_eq_zero]
        intro r hr
        have hne : key r ≠ key row := fun heq => hfresh (heq ▸ List.mem_map_of_mem hr)
        simp [hne]
      simp [hnone]
    · have hne : key first ≠ key row := fun heq => hfresh (heq ▸ List.mem_map_of_mem hlater)
      rw [ih hrest hlater]
      simp [hne]

omit [DecidableEq κ] in
theorem count_add (p q : ρ → Bool) :
    t.count p = (t.count fun row => p row && q row) + t.count fun row => p row && !q row := by
  unfold count
  generalize t.rows = rows
  induction rows with
  | nil => rfl
  | cons row rows ih =>
    simp only [List.countP_cons, ih]
    cases p row <;> cases q row <;> simp <;> omega

omit [DecidableEq κ] in
theorem mem_delete : row ∈ (t.delete p).rows ↔ row ∈ t.rows ∧ ¬p row := by
  simp [delete, List.mem_filter]

omit [DecidableEq κ] in
theorem mem_update :
    row ∈ (t.update p f hf).rows ↔ ∃ old ∈ t.rows, (if p old then f old else old) = row := by
  simp [update]

omit [DecidableEq κ] in
/-- A row of an updated table has its old version. -/
theorem of_mem_update (h : row ∈ (t.update p f hf).rows) :
    row ∈ t.rows ∧ ¬p row ∨ ∃ old ∈ t.rows, p old ∧ row = f old := by
  obtain ⟨old, hold, rfl⟩ := (mem_update hf).mp h
  by_cases hp : p old
  · exact .inr ⟨old, hold, hp, by rw [if_pos hp]⟩
  · rw [if_neg hp]
    exact .inl ⟨hold, hp⟩

theorem find?_update {k : κ} : (t.update p f hf).find? k = (t.find? k).map fun row => if p row then
    f row else row := by
  cases hfind : t.find? k with
  | none =>
    rw [find?_eq_none] at hfind
    refine find?_eq_none.mpr ?_
    intro row hrow
    obtain ⟨old, hold, rfl⟩ := (mem_update hf).mp hrow
    split_ifs
    · rw [hf]
      exact hfind old hold
    · exact hfind old hold
  | some old =>
    obtain ⟨hold, hkey⟩ := find?_eq_some.mp hfind
    refine find?_eq_some.mpr ⟨(mem_update hf).mpr ⟨old, hold, rfl⟩, ?_⟩
    dsimp only
    split_ifs
    · rw [hf, hkey]
    · exact hkey

/-- A row is found as before when the update is of others. -/
theorem find?_update_of_not {k : κ} (h : ∀ row, key row = k → p row = false) :
    (t.update p f hf).find? k = t.find? k := by
  rw [find?_update]
  cases hfind : t.find? k with
  | none => rfl
  | some row =>
    obtain ⟨-, hkey⟩ := find?_eq_some.mp hfind
    rw [Option.map_some, h row hkey, if_neg Bool.false_ne_true]

def sum {M : Type} [AddCommMonoid M] (t : Keyed key) (g : ρ → M) : M := (t.rows.map g).sum

end Keyed

end KeyedTables
