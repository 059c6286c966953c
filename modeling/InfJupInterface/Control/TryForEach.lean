import InfJupInterface.Control.Mutation

/-!
# Loops that stop at the first failure

`tryForEach f xs` runs `f` on the elements of `xs` in order and stops at the first failure,
keeping whatever the earlier steps and the failing step wrote.  The rules below are the ones a
verification needs:

* `exists_failing_step` locates a failure: the steps before it all succeeded, so that an invariant
  still holds (`exists_failing_step_of_preserves`);
* `tryForEach_preserves` carries an invariant through both outcomes;
* `tryForEach_run_ok` shows that a loop succeeds, one step at a time, and `tryForEach_passes` that it
  gets as far as a given step;
* `tryForEach_prefix_invariant` and `tryForEach_prefix_relation` carry a property of the
  elements already processed, in one run and in two runs side by side;
* `tryForEach_establishes` is the special case of a property of single elements.
-/

namespace InfJup

namespace Mutation

variable {σ τ ε δ α : Type}

/-- Run `f` on every element in order, stopping at the first failure. -/
def tryForEach (f : α → Mutation σ ε Unit) : List α → Mutation σ ε Unit
  | [] => pure ()
  | x :: xs => do
    f x
    tryForEach f xs

@[simp] theorem tryForEach_nil (f : α → Mutation σ ε Unit) (s : σ) :
    (tryForEach f []).run s = (.ok (), s) := rfl

/-- A successful first step hands its state to the rest of the loop. -/
theorem tryForEach_cons_of_ok {f : α → Mutation σ ε Unit} {x : α} {xs : List α} {s s' : σ}
    (h : (f x).run s = (.ok (), s')) :
    (tryForEach f (x :: xs)).run s = (tryForEach f xs).run s' :=
  run_bind_of_ok h

/-- A failing first step ends the loop. -/
theorem tryForEach_cons_of_error {f : α → Mutation σ ε Unit} {x : α} {xs : List α} {s s' : σ}
    {e : ε} (h : (f x).run s = (.error e, s')) :
    (tryForEach f (x :: xs)).run s = (.error e, s') :=
  run_bind_of_error h

/-- A loop over `xs ++ ys` that gets through `xs` goes on with `ys`. -/
theorem tryForEach_append_of_ok {f : α → Mutation σ ε Unit} {xs ys : List α} {s s' : σ}
    (h : (tryForEach f xs).run s = (.ok (), s')) :
    (tryForEach f (xs ++ ys)).run s = (tryForEach f ys).run s' := by
  induction xs generalizing s with
  | nil =>
    rw [tryForEach_nil] at h
    cases h
    rfl
  | cons x xs ih =>
    obtain ⟨_, t, hx, hxs⟩ := run_bind_eq_ok_iff.mp h
    rw [List.cons_append, tryForEach_cons_of_ok hx]
    exact ih hxs

/-- A loop that succeeds gets through every prefix. -/
theorem exists_run_take {f : α → Mutation σ ε Unit} {xs : List α} {s s' : σ}
    (h : (tryForEach f xs).run s = (.ok (), s')) (k : ℕ) :
    ∃ t, (tryForEach f (xs.take k)).run s = (.ok (), t) := by
  induction xs generalizing s k with
  | nil => exact ⟨s, by simp⟩
  | cons x xs ih =>
    obtain ⟨_, t, hx, hxs⟩ := run_bind_eq_ok_iff.mp h
    cases k with
    | zero => exact ⟨s, rfl⟩
    | succ k =>
      obtain ⟨u, hu⟩ := ih hxs k
      exact ⟨u, by rw [List.take_succ_cons, tryForEach_cons_of_ok hx, hu]⟩

/-- A loop that fails does so at some position `k`: the steps before `k` succeed, and the loop
ends with the outcome of step `k`. -/
theorem exists_failing_step {f : α → Mutation σ ε Unit} {xs : List α} {s s' : σ} {e : ε}
    (h : (tryForEach f xs).run s = (.error e, s')) :
    ∃ k, ∃ hk : k < xs.length, ∃ t,
      (tryForEach f (xs.take k)).run s = (.ok (), t) ∧ (f xs[k]).run t = (.error e, s') := by
  induction xs generalizing s with
  | nil => simp at h
  | cons x xs ih =>
    rcases run_bind_eq_error h with hx | ⟨_, t, hx, hxs⟩
    · exact ⟨0, by simp, s, rfl, hx⟩
    · obtain ⟨k, hk, u, hu, hfail⟩ := ih hxs
      refine ⟨k + 1, by simpa using hk, u, ?_, hfail⟩
      rw [List.take_succ_cons, tryForEach_cons_of_ok hx, hu]

/-- If the steps before `k` succeed and step `k` fails, the loop ends there. -/
theorem tryForEach_of_failing_step {f : α → Mutation σ ε Unit} {xs : List α} {s t s' : σ} {e : ε}
    {k : ℕ} (hk : k < xs.length) (hpre : (tryForEach f (xs.take k)).run s = (.ok (), t))
    (hfail : (f xs[k]).run t = (.error e, s')) :
    (tryForEach f xs).run s = (.error e, s') := by
  have hsplit : xs = xs.take k ++ xs[k] :: xs.drop (k + 1) := by
    rw [List.getElem_cons_drop, List.take_append_drop]
  rw [hsplit, tryForEach_append_of_ok hpre]
  exact tryForEach_cons_of_error hfail

/-- What every step preserves, succeeding or failing, the loop preserves. -/
theorem tryForEach_preserves {f : α → Mutation σ ε Unit} {P : σ → Prop} {xs : List α} {s : σ}
    (hs : P s) (hf : ∀ x ∈ xs, ∀ t, P t → P ((f x).run t).2) :
    P ((tryForEach f xs).run s).2 := by
  induction xs generalizing s with
  | nil => exact hs
  | cons x xs ih =>
    have hx : P ((f x).run s).2 := hf x (by simp) s hs
    rcases h : (f x).run s with ⟨e | u, s'⟩
    · rw [tryForEach_cons_of_error h]
      simpa [h] using hx
    · rw [tryForEach_cons_of_ok h]
      exact ih (by simpa [h] using hx) fun y hy => hf y (List.mem_cons_of_mem x hy)

/-- A loop that fails does so at a step from a state with the invariant. -/
theorem exists_failing_step_of_preserves {f : α → Mutation σ ε Unit} {P : σ → Prop} {xs : List α}
    {s s' : σ} {e : ε} (hs : P s) (hf : ∀ x ∈ xs, ∀ t, P t → P ((f x).run t).2)
    (h : (tryForEach f xs).run s = (.error e, s')) :
    ∃ x ∈ xs, ∃ t, P t ∧ (f x).run t = (.error e, s') := by
  obtain ⟨k, hk, t, hpre, hfail⟩ := exists_failing_step h
  have ht : P ((tryForEach f (xs.take k)).run s).2 :=
    tryForEach_preserves hs fun x hx => hf x (List.mem_of_mem_take hx)
  rw [hpre] at ht
  exact ⟨xs[k], List.getElem_mem hk, t, ht, hfail⟩

/-- A loop succeeds when every step succeeds from an invariant and restores it. -/
theorem tryForEach_run_ok {f : α → Mutation σ ε Unit} {P : σ → Prop} {xs : List α} {s : σ}
    (hs : P s) (hf : ∀ x ∈ xs, ∀ t, P t → ∃ t', (f x).run t = (.ok (), t') ∧ P t') :
    ∃ s', (tryForEach f xs).run s = (.ok (), s') ∧ P s' := by
  induction xs generalizing s with
  | nil => exact ⟨s, rfl, hs⟩
  | cons x xs ih =>
    obtain ⟨t, hx, ht⟩ := hf x (by simp) s hs
    obtain ⟨s', hrun, hs'⟩ := ih ht fun y hy => hf y (List.mem_cons_of_mem x hy)
    exact ⟨s', by rw [tryForEach_cons_of_ok hx, hrun], hs'⟩

/-- If the steps before `x` succeed and step `x` establishes `Q`, however it ends, then the loop ends
with `Q`, as long as the steps after `x` preserve it. -/
theorem tryForEach_passes {f : α → Mutation σ ε Unit} {P Q : σ → Prop} {xs ys : List α} {x : α}
    {s : σ} (hs : P s)
    (hpre : ∀ y ∈ xs, ∀ t, P t → ∃ t', (f y).run t = (.ok (), t') ∧ P t')
    (hx : ∀ t, P t → Q ((f x).run t).2) (hpost : ∀ y ∈ ys, ∀ t, Q t → Q ((f y).run t).2) :
    Q ((tryForEach f (xs ++ x :: ys)).run s).2 := by
  obtain ⟨t, hrun, ht⟩ := tryForEach_run_ok hs hpre
  rw [tryForEach_append_of_ok hrun]
  have hQ : Q ((f x).run t).2 := hx t ht
  rcases h : (f x).run t with ⟨e | u, t'⟩
  · rw [tryForEach_cons_of_error h]
    simpa [h] using hQ
  · rw [tryForEach_cons_of_ok h]
    exact tryForEach_preserves (by simpa [h] using hQ) hpost

/-- A property of the elements already processed, re-established by every successful step,
holds of the whole list after a successful loop. -/
theorem tryForEach_prefix_invariant {f : α → Mutation σ ε Unit} {I : List α → σ → Prop}
    {xs : List α} {s s' : σ} (hs : I [] s)
    (hf : ∀ done, ∀ x ∈ xs, ∀ t t', I done t → (f x).run t = (.ok (), t') → I (done ++ [x]) t')
    (hrun : (tryForEach f xs).run s = (.ok (), s')) : I xs s' := by
  suffices h : ∀ (ys done : List α) (t : σ), (∀ y ∈ ys, y ∈ xs) → I done t →
      (tryForEach f ys).run t = (.ok (), s') → I (done ++ ys) s' by
    simpa using h xs [] s (fun _ hy => hy) hs hrun
  intro ys
  induction ys with
  | nil =>
    intro done t _ ht h
    rw [tryForEach_nil] at h
    cases h
    simpa using ht
  | cons y ys ih =>
    intro done t hmem ht h
    obtain ⟨_, t', hy, hys⟩ := run_bind_eq_ok_iff.mp h
    have ht' : I (done ++ [y]) t' := hf done y (hmem y (by simp)) t t' ht hy
    simpa using ih (done ++ [y]) t' (fun z hz => hmem z (List.mem_cons_of_mem y hz)) ht' hys

/-- What each successful step establishes of its own element, and keeps for the others, holds of
every element after a successful loop.  `P` is an invariant that the steps may rely on. -/
theorem tryForEach_establishes {f : α → Mutation σ ε Unit} {P : σ → Prop} {Q : α → σ → Prop}
    {xs : List α} {s s' : σ} (hs : P s)
    (hf : ∀ x ∈ xs, ∀ t t', P t → (f x).run t = (.ok (), t') →
      P t' ∧ Q x t' ∧ ∀ y ∈ xs, Q y t → Q y t')
    (hrun : (tryForEach f xs).run s = (.ok (), s')) : P s' ∧ ∀ x ∈ xs, Q x s' := by
  have hloop := tryForEach_prefix_invariant
    (I := fun done t => P t ∧ (∀ x ∈ done, x ∈ xs) ∧ ∀ x ∈ done, Q x t) ⟨hs, by simp, by simp⟩ ?_ hrun
  · exact ⟨hloop.1, hloop.2.2⟩
  · rintro done x hx t t' ⟨ht, hmem, hdone⟩ hstep
    obtain ⟨ht', hQx, hkeep⟩ := hf x hx t t' ht hstep
    refine ⟨ht', fun y hy => ?_, fun y hy => ?_⟩
    · rcases List.mem_append.mp hy with hy | hy
      · exact hmem y hy
      · rwa [List.mem_singleton.mp hy]
    · rcases List.mem_append.mp hy with hy | hy
      · exact hkeep y (hmem y hy) (hdone y hy)
      · rwa [List.mem_singleton.mp hy]

/-- The two-run version: a relation between two loops over the same elements, re-established
by every pair of successful steps. -/
theorem tryForEach_prefix_relation {f : α → Mutation σ ε Unit} {g : α → Mutation τ δ Unit}
    {R : List α → σ → τ → Prop} {xs : List α} {s s' : σ} {t t' : τ} (hst : R [] s t)
    (hfg : ∀ done, ∀ x ∈ xs, ∀ u u' v v', R done u v → (f x).run u = (.ok (), u') →
      (g x).run v = (.ok (), v') → R (done ++ [x]) u' v')
    (hf : (tryForEach f xs).run s = (.ok (), s')) (hg : (tryForEach g xs).run t = (.ok (), t')) :
    R xs s' t' := by
  suffices h : ∀ (ys done : List α) (u : σ) (v : τ), (∀ y ∈ ys, y ∈ xs) → R done u v →
      (tryForEach f ys).run u = (.ok (), s') → (tryForEach g ys).run v = (.ok (), t') →
      R (done ++ ys) s' t' by
    simpa using h xs [] s t (fun _ hy => hy) hst hf hg
  intro ys
  induction ys with
  | nil =>
    intro done u v _ huv hu hv
    rw [tryForEach_nil] at hu hv
    cases hu
    cases hv
    simpa using huv
  | cons y ys ih =>
    intro done u v hmem huv hu hv
    obtain ⟨_, u', hyu, hu'⟩ := run_bind_eq_ok_iff.mp hu
    obtain ⟨_, v', hyv, hv'⟩ := run_bind_eq_ok_iff.mp hv
    have huv' : R (done ++ [y]) u' v' := hfg done y (hmem y (by simp)) u u' v v' huv hyu hyv
    simpa using ih (done ++ [y]) u' v' (fun z hz => hmem z (List.mem_cons_of_mem y hz)) huv' hu' hv'

end Mutation

end InfJup
