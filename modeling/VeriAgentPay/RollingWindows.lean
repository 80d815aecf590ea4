import Mathlib.Algebra.BigOperators.Group.Finset.Basic
import Mathlib.Algebra.Order.BigOperators.Group.Finset
import Mathlib.Algebra.Order.Ring.Rat
import Mathlib.Data.List.Nodup

/-!
# Sums over rolling windows

Amounts that come at times are bounded in every window of a fixed length, wherever it begins.
-/

namespace RollingWindows

variable {ε : Type} (time : ε → ℤ) (amount : ε → ℚ) (width : ℤ)

def total (entries : List ε) : ℚ := (entries.map amount).sum

def inWindow (begins : ℤ) (entries : List ε) : List ε :=
  entries.filter fun e => begins ≤ time e ∧ time e < begins + width

/-- No window of this width has more than the limit. -/
def Within (limit : ℚ) (entries : List ε) : Prop :=
  ∀ begins, total amount (inWindow time width begins entries) ≤ limit

variable {time amount width} {entries counted : List ε} {e : ε} {limit : ℚ}

@[simp] theorem total_cons : total amount (e :: entries) = amount e + total amount entries := by
  simp [total]

/-- More entries have a larger total. -/
theorem total_le_of_subset (hentries : entries.Nodup) (hcounted : counted.Nodup)
    (hsubset : ∀ x ∈ entries, x ∈ counted) (hpos : ∀ x ∈ counted, 0 ≤ amount x) :
    total amount entries ≤ total amount counted := by
  classical
  unfold total
  rw [← List.sum_toFinset amount hentries, ← List.sum_toFinset amount hcounted]
  refine Finset.sum_le_sum_of_subset_of_nonneg ?_ ?_
  · intro x hx
    rw [List.mem_toFinset] at hx ⊢
    exact hsubset x hx
  · intro x hx _
    rw [List.mem_toFinset] at hx
    exact hpos x hx

theorem within_nil (hlimit : 0 ≤ limit) : Within time amount width limit [] := by
  intro begins
  simpa [total, inWindow] using hlimit

/-- Fewer entries stay within the limit. -/
theorem Within.of_subset (h : Within time amount width limit entries) {fewer : List ε}
    (hfewer : fewer.Nodup) (hentries : entries.Nodup) (hsubset : ∀ x ∈ fewer, x ∈ entries)
    (hpos : ∀ x ∈ entries, 0 ≤ amount x) : Within time amount width limit fewer := by
  intro begins
  refine (total_le_of_subset (hfewer.filter _) (hentries.filter _) ?_ ?_).trans (h begins)
  · intro x hx
    obtain ⟨hmem, hin⟩ := List.mem_filter.mp hx
    exact List.mem_filter.mpr ⟨hsubset x hmem, hin⟩
  · intro x hx
    exact hpos x (List.mem_of_mem_filter hx)

/-- An entry is added for which there is room beside all entries that are not older than the
width. -/
theorem Within.cons (h : Within time amount width limit entries) (hentries : entries.Nodup)
    (hcounted : counted.Nodup) (hpos : ∀ x ∈ counted, 0 ≤ amount x)
    (hcover : ∀ x ∈ entries, time e < time x + width → x ∈ counted)
    (hroom : total amount counted + amount e ≤ limit) :
    Within time amount width limit (e :: entries) := by
  intro begins
  unfold inWindow
  rw [List.filter_cons]
  split_ifs with hin
  · have hin : begins ≤ time e ∧ time e < begins + width := of_decide_eq_true hin
    rw [total_cons]
    have hle : total amount (inWindow time width begins entries) ≤ total amount counted := by
      refine total_le_of_subset (hentries.filter _) hcounted ?_ hpos
      intro x hx
      obtain ⟨hmem, hinx⟩ := List.mem_filter.mp hx
      have hinx : begins ≤ time x ∧ time x < begins + width := of_decide_eq_true hinx
      exact hcover x hmem (by omega)
    calc amount e + total amount (inWindow time width begins entries)
        = total amount (inWindow time width begins entries) + amount e := add_comm _ _
      _ ≤ total amount counted + amount e := add_le_add hle le_rfl
      _ ≤ limit := hroom
  · exact h begins

end RollingWindows
