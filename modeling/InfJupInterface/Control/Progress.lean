import Mathlib.Tactic.Common

/-!
# Progress measured by a rank

A process that lowers a rank whenever it does not reach its goal reaches the goal after at most as
many steps as the rank says at the start.
-/

namespace InfJup

/-- If every step at which `P` fails lowers the rank, then `P` holds within `rank 0` steps. -/
theorem exists_le_of_rank_lt {P : ℕ → Prop} {rank : ℕ → ℕ}
    (h : ∀ k, ¬ P k → rank (k + 1) < rank k) : ∃ k ≤ rank 0, P k := by
  -- as long as `P` fails, the rank and the number of steps add up to at most `rank 0`
  by_contra hgoal
  have hnever : ∀ k ≤ rank 0, ¬ P k := fun k hk hP => hgoal ⟨k, hk, hP⟩
  have hsum : ∀ k ≤ rank 0 + 1, rank k + k ≤ rank 0 := by
    intro k
    induction k with
    | zero => intro _; simp
    | succ k ih =>
      intro hk
      have hstep := h k (hnever k (by omega))
      have hprev := ih (by omega)
      omega
  have hlast := hsum (rank 0 + 1) (Nat.le_refl _)
  omega

/-- The number of elements with a property goes down when no element gains the property and one loses
it. -/
theorem countP_lt_countP {α : Type} {p q : α → Bool} {xs : List α}
    (hmono : ∀ x ∈ xs, p x = true → q x = true) {y : α} (hy : y ∈ xs) (hp : p y = false)
    (hq : q y = true) : xs.countP p < xs.countP q := by
  induction xs with
  | nil => cases hy
  | cons x xs ih =>
    have htail : xs.countP p ≤ xs.countP q :=
      List.countP_mono_left fun z hz => hmono z (List.mem_cons_of_mem x hz)
    rcases List.mem_cons.mp hy with rfl | hy
    · rw [List.countP_cons_of_neg (by simp [hp]), List.countP_cons_of_pos hq]
      omega
    · have hlt := ih (fun z hz => hmono z (List.mem_cons_of_mem x hz)) hy
      have hhead := hmono x List.mem_cons_self
      rw [List.countP_cons, List.countP_cons]
      rcases hx : p x with _ | _
      · simp only [Bool.false_eq_true, if_false]
        omega
      · rw [hhead hx]
        omega

end InfJup
