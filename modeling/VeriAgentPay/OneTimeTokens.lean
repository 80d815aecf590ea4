import Mathlib.Data.List.Nodup
import Mathlib.Logic.Function.Basic

/-!
# Tokens that are spent once

A token is issued to one holder, who spends it or drops it. So what is spent is spent once, whatever
the others do, and where no token is dropped every issued one is held or spent.
-/

namespace OneTimeTokens

variable {κ : Type} {issued spent : List κ} {held : ℕ → Option κ} {i : ℕ} {k : κ}

structure Once (issued spent : List κ) (held : ℕ → Option κ) : Prop where
  alone : ∀ i j k, held i = some k → held j = some k → i = j
  heldIssued : ∀ i k, held i = some k → k ∈ issued
  heldUnspent : ∀ i k, held i = some k → k ∉ spent
  spentIssued : ∀ k ∈ spent, k ∈ issued
  spentOnce : spent.Nodup

/-- No issued token is lost. -/
def Accounted (issued spent : List κ) (held : ℕ → Option κ) : Prop :=
  ∀ k ∈ issued, k ∈ spent ∨ ∃ i, held i = some k

theorem once_nil : Once ([] : List κ) [] fun _ => none where
  alone _ _ _ h := nomatch h
  heldIssued _ _ h := nomatch h
  heldUnspent _ _ h := nomatch h
  spentIssued _ h := nomatch h
  spentOnce := List.nodup_nil

theorem held_update_none {j : ℕ} (h : Function.update held i none j = some k) :
    j ≠ i ∧ held j = some k := by
  rcases eq_or_ne j i with rfl | hne
  · simp at h
  · exact ⟨hne, by rwa [Function.update_of_ne hne] at h⟩

theorem held_update_some {j : ℕ} {k' : κ} (h : Function.update held i (some k) j = some k') :
    j = i ∧ k' = k ∨ j ≠ i ∧ held j = some k' := by
  rcases eq_or_ne j i with rfl | hne
  · rw [Function.update_self] at h
    exact .inl ⟨rfl, (Option.some.inj h).symm⟩
  · exact .inr ⟨hne, by rwa [Function.update_of_ne hne] at h⟩

theorem Once.drop (h : Once issued spent held) (i : ℕ) :
    Once issued spent (Function.update held i none) where
  alone _ _ k hj hj' := h.alone _ _ k (held_update_none hj).2 (held_update_none hj').2
  heldIssued _ k hj := h.heldIssued _ k (held_update_none hj).2
  heldUnspent _ k hj := h.heldUnspent _ k (held_update_none hj).2
  spentIssued := h.spentIssued
  spentOnce := h.spentOnce

theorem Once.spend (h : Once issued spent held) (hi : held i = some k) :
    Once issued (k :: spent) (Function.update held i none) where
  alone := (h.drop i).alone
  heldIssued := (h.drop i).heldIssued
  heldUnspent j k' hj := by
    obtain ⟨hne, hj⟩ := held_update_none hj
    intro hspent
    rcases List.mem_cons.mp hspent with rfl | hspent
    · exact hne (h.alone j i _ hj hi)
    · exact h.heldUnspent j k' hj hspent
  spentIssued := List.forall_mem_cons.mpr ⟨h.heldIssued i k hi, h.spentIssued⟩
  spentOnce := List.nodup_cons.mpr ⟨h.heldUnspent i k hi, h.spentOnce⟩

/-- Only a new token is issued; what the holder held before is dropped. -/
theorem Once.issue (h : Once issued spent held) (hk : k ∉ issued) (i : ℕ) :
    Once (k :: issued) spent (Function.update held i (some k)) where
  alone j j' k' hj hj' := by
    rcases held_update_some hj with ⟨rfl, rfl⟩ | ⟨-, hold⟩ <;>
      rcases held_update_some hj' with ⟨rfl, hk'⟩ | ⟨-, hold'⟩
    · rfl
    · exact absurd (h.heldIssued _ _ hold') hk
    · exact absurd (hk' ▸ h.heldIssued _ _ hold) hk
    · exact h.alone _ _ _ hold hold'
  heldIssued j k' hj := by
    rcases held_update_some hj with ⟨-, rfl⟩ | ⟨-, hj⟩
    · exact List.mem_cons_self
    · exact List.mem_cons_of_mem _ (h.heldIssued j k' hj)
  heldUnspent j k' hj := by
    rcases held_update_some hj with ⟨-, rfl⟩ | ⟨-, hj⟩
    · exact fun hspent => hk (h.spentIssued _ hspent)
    · exact h.heldUnspent j k' hj
  spentIssued k' hk' := List.mem_cons_of_mem _ (h.spentIssued k' hk')
  spentOnce := h.spentOnce

theorem accounted_nil : Accounted ([] : List κ) spent held := fun _ h => nomatch h

theorem Accounted.spend (h : Accounted issued spent held) (hi : held i = some k) :
    Accounted issued (k :: spent) (Function.update held i none) := by
  intro k' hk'
  rcases h k' hk' with hspent | ⟨j, hj⟩
  · exact .inl (List.mem_cons_of_mem _ hspent)
  · rcases eq_or_ne j i with rfl | hne
    · exact .inl (Option.some.inj (hi.symm.trans hj) ▸ List.mem_cons_self)
    · exact .inr ⟨j, by rwa [Function.update_of_ne hne]⟩

theorem Accounted.issue (h : Accounted issued spent held) (hi : held i = none) :
    Accounted (k :: issued) spent (Function.update held i (some k)) := by
  refine List.forall_mem_cons.mpr ⟨.inr ⟨i, Function.update_self ..⟩, fun k' hk' => ?_⟩
  rcases h k' hk' with hspent | ⟨j, hj⟩
  · exact .inl hspent
  · have hne : j ≠ i := by
      rintro rfl
      rw [hi] at hj
      cases hj
    exact .inr ⟨j, by rwa [Function.update_of_ne hne]⟩

/-- When nobody holds anything, exactly the issued tokens are spent. -/
theorem Accounted.spent_of_idle (h : Accounted issued spent held) (hidle : ∀ i, held i = none)
    (hk : k ∈ issued) : k ∈ spent := by
  rcases h k hk with hspent | ⟨i, hi⟩
  · exact hspent
  · rw [hidle i] at hi
    cases hi

end OneTimeTokens
