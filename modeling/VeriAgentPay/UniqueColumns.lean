import Mathlib.Data.List.Nodup
import Mathlib.Data.List.Pairwise

/-!
# Tables with unique columns

A table may have several columns of which no two rows have the same value, where a row may also have
no value in a column. A write that would give two rows one value is refused, so every table that can
be built is one of this kind.
-/

namespace UniqueColumns

variable {ρ κ : Type} {columns : List (ρ → Option κ)} {rows rows' : List ρ} {row old new : ρ}

def Distinct (columns : List (ρ → Option κ)) (rows : List ρ) : Prop :=
  ∀ column ∈ columns, (rows.filterMap column).Nodup

instance [DecidableEq κ] : Decidable (Distinct columns rows) :=
  inferInstanceAs (Decidable (∀ column ∈ columns, (rows.filterMap column).Nodup))

structure Table (columns : List (ρ → Option κ)) where
  rows : List ρ
  distinct : Distinct columns rows

section Lists

theorem Distinct.sublist (h : Distinct columns rows) (hsub : rows'.Sublist rows) :
    Distinct columns rows' := by
  intro column hcolumn
  exact (h column hcolumn).sublist (hsub.filterMap column)

theorem distinct_perm (hperm : rows'.Perm rows) :
    Distinct columns rows' ↔ Distinct columns rows := by
  constructor
  · exact fun h column hcolumn => ((hperm.filterMap column).nodup_iff).mp (h column hcolumn)
  · exact fun h column hcolumn => ((hperm.filterMap column).nodup_iff).mpr (h column hcolumn)

/-- A row is known by its value in a column. -/
theorem Distinct.eq_of_column (h : Distinct columns rows) {column : ρ → Option κ}
    (hcolumn : column ∈ columns) {k : κ} (hold : old ∈ rows) (hnew : new ∈ rows)
    (hk : column old = some k) (hk' : column new = some k) : old = new := by
  have hpairs := List.pairwise_filterMap.mp (h column hcolumn)
  have : Std.Symm fun a b => ∀ k, column a = some k → ∀ k', column b = some k' → k ≠ k' :=
    ⟨fun a b hab k hb k' ha => (hab k' ha k hb).symm⟩
  by_contra hne
  exact hpairs.forall hold hnew hne k hk k hk' rfl

/-- Rows that all have a value in a column are different. -/
theorem Distinct.nodup (h : Distinct columns rows) {column : ρ → Option κ}
    (hcolumn : column ∈ columns) (htotal : ∀ row, (column row).isSome) : rows.Nodup := by
  refine (List.pairwise_filterMap.mp (h column hcolumn)).imp ?_
  rintro a _ hab rfl
  obtain ⟨k, hk⟩ := Option.isSome_iff_exists.mp (htotal a)
  exact hab k hk k hk rfl

theorem distinct_concat : Distinct columns (rows ++ [row]) ↔
    Distinct columns rows ∧
    ∀ column ∈ columns, ∀ k, column row = some k → ∀ other ∈ rows, column other ≠ some k := by
  have hcolumn : ∀ column : ρ → Option κ, ((rows ++ [row]).filterMap column).Nodup ↔
      (rows.filterMap column).Nodup ∧
      ∀ k, column row = some k → ∀ other ∈ rows, column other ≠ some k := by
    intro column
    rw [List.filterMap_append]
    cases hrow : column row with
    | none => simp [hrow]
    | some k =>
      rw [List.filterMap_cons_some hrow, List.nodup_append]
      simp only [List.filterMap_nil, List.nodup_singleton, List.mem_filterMap, List.mem_singleton,
        true_and, forall_eq, Option.some.injEq,
        forall_eq', ne_eq]
      refine and_congr_right fun _ => ⟨fun h other hother hk => h k ⟨other, hother, hk⟩ rfl, ?_⟩
      rintro h _ ⟨other, hother, hk⟩ rfl
      exact h other hother hk
  simp only [Distinct, hcolumn]
  exact ⟨fun h => ⟨fun c hc => (h c hc).1, fun c hc => (h c hc).2⟩, fun h c hc => ⟨h.1 c hc,
    h.2 c hc⟩⟩

variable [DecidableEq ρ]

def replaced (old new : ρ) (rows : List ρ) : List ρ :=
  rows.map fun row => if row = old then new else row

theorem mem_replaced : row ∈ replaced old new rows ↔ row ∈ rows ∧ row ≠ old ∨ old ∈ rows ∧
    row = new := by
  simp only [replaced, List.mem_map]
  constructor
  · rintro ⟨r, hr, rfl⟩
    split_ifs with hsame
    · exact .inr ⟨hsame ▸ hr, rfl⟩
    · exact .inl ⟨hr, hsame⟩
  · rintro (⟨hrow, hne⟩ | ⟨hold, rfl⟩)
    · exact ⟨row, hrow, if_neg hne⟩
    · exact ⟨old, hold, if_pos rfl⟩

/-- A row can be replaced where no other row has a value that the new one has. -/
theorem distinct_replaced (h : Distinct columns rows) (hnodup : rows.Nodup) (hold : old ∈ rows) :
    Distinct columns (replaced old new rows) ↔
      ∀ column ∈ columns, ∀ k, column new = some k → ∀ other ∈ rows,
        other ≠ old → column other ≠ some k := by
  obtain ⟨before, after, rfl⟩ := List.append_of_mem hold
  have hperm : (before ++ old :: after).Perm (before ++ after ++ [old]) := by
    refine List.perm_middle.trans ?_
    exact (List.perm_append_singleton old (before ++ after)).symm
  have hfresh : old ∉ before ++ after := by
    have := (hperm.nodup_iff).mp hnodup
    rw [List.nodup_append] at this
    exact fun hmem => this.2.2 old hmem old (List.mem_singleton_self _) rfl
  have hrest : replaced old new (before ++ after) = before ++ after := by
    refine (List.map_congr_left ?_).trans (List.map_id _)
    intro row hrow
    have hne : row ≠ old := fun hsame => hfresh (hsame ▸ hrow)
    exact if_neg hne
  have hreplaced : (replaced old new (before ++ old :: after)).Perm (before ++ after ++ [new]) := by
    have hmapped := hperm.map fun row => if row = old then new else row
    have hsplit : replaced old new (before ++ after ++ [old]) = before ++ after ++ [new] := by
      rw [replaced, List.map_append, ← replaced, hrest, List.map_singleton, if_pos rfl]
    exact hsplit ▸ hmapped
  rw [distinct_perm hreplaced, distinct_concat]
  constructor
  · rintro ⟨-, hnew⟩ column hcolumn k hk other hother hne
    rcases List.mem_append.mp (hperm.mem_iff.mp hother) with hother | hother
    · exact hnew column hcolumn k hk other hother
    · exact absurd (List.mem_singleton.mp hother) hne
  · intro hnew
    have hsub : (before ++ after).Sublist (before ++ old :: after) :=
      (List.Sublist.refl before).append (List.sublist_cons_self old after)
    refine ⟨h.sublist hsub, ?_⟩
    intro column hcolumn k hk other hother
    exact hnew column hcolumn k hk other (hsub.subset hother) fun hsame => hfresh (hsame ▸ hother)

end Lists

namespace Table

def empty : Table columns := ⟨[], fun _ _ => List.nodup_nil⟩

def filter (t : Table columns) (p : ρ → Bool) : Table columns :=
  ⟨t.rows.filter p, t.distinct.sublist List.filter_sublist⟩

section Writes
variable [DecidableEq κ]

/-- The rows of a write, unless two of them have one value in a column. -/
def write (rows : List ρ) : Option (Table columns) :=
  if h : Distinct columns rows then some ⟨rows, h⟩ else none

theorem write_eq_some {t : Table columns} : write rows = some t ↔ t.rows = rows := by
  unfold write
  split_ifs with h
  · obtain ⟨own, distinct⟩ := t
    simp [eq_comm]
  · refine iff_of_false (by simp) ?_
    rintro rfl
    exact h t.distinct

theorem write_eq_none : (write rows : Option (Table columns)) = none ↔ ¬Distinct columns rows := by
  unfold write
  split_ifs with h <;> simp [h]

def insert (t : Table columns) (row : ρ) : Option (Table columns) := write (t.rows ++ [row])

def replace [DecidableEq ρ] (t : Table columns) (old new : ρ) : Option (Table columns) :=
  write (replaced old new t.rows)

end Writes

end Table

end UniqueColumns
