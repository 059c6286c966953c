import Mathlib.Tactic.Common

/-!
# Fallible programs on a mutable state

`Mutation σ ε α` is a program that may change a state of type `σ` and then either returns an
`α` or fails with an `ε`.  The state it leaves behind is part of the outcome in both cases: a
failure does not roll anything back.  This is the shape of a method that takes an exclusive
reference to its state and returns a fallible result.

The inversion lemmas `run_bind_eq_ok_iff` and `run_bind_eq_error` take a sequence of programs
apart without unfolding the programs themselves.
-/

namespace InfJup

/-- A program on a state of type `σ` that returns an `α` or fails with an `ε`, and leaves a
state behind in both cases. -/
def Mutation (σ ε α : Type) : Type := σ → Except ε α × σ

namespace Mutation

variable {σ τ ε δ α β : Type}

/-- Run a program from a state: the result, and the state left behind. -/
def run (m : Mutation σ ε α) (s : σ) : Except ε α × σ := m s

/-- Sequencing stops at the first failure and keeps the state of that moment. -/
instance : Monad (Mutation σ ε) where
  pure a := fun s => (.ok a, s)
  bind m k := fun s =>
    match m s with
    | (.ok a, s') => k a s'
    | (.error e, s') => (.error e, s')

/-- Fail, leaving the state as it is. -/
def fail (e : ε) : Mutation σ ε α := fun s => (.error e, s)

/-- Read the state. -/
def read : Mutation σ ε σ := fun s => (.ok s, s)

/-- Return or fail as an `Except` does. -/
def ofExcept : Except ε α → Mutation σ ε α
  | .ok a => pure a
  | .error e => fail e

/-- Replace the error of a failing program. -/
def mapErr (f : ε → δ) (m : Mutation σ ε α) : Mutation σ δ α := fun s =>
  ((m s).1.mapError f, (m s).2)

/-- Run a program on a part of the state: `get` reads the part and `set` writes it back. -/
def zoom (get : σ → τ) (set : τ → σ → σ) (m : Mutation τ ε α) : Mutation σ ε α := fun s =>
  ((m (get s)).1, set (m (get s)).2 s)

@[simp] theorem run_pure (a : α) (s : σ) :
    run (pure a : Mutation σ ε α) s = (.ok a, s) := rfl

@[simp] theorem run_fail (e : ε) (s : σ) :
    run (fail e : Mutation σ ε α) s = (.error e, s) := rfl

@[simp] theorem run_read (s : σ) :
    run (read : Mutation σ ε σ) s = (.ok s, s) := rfl

@[simp] theorem run_ofExcept (x : Except ε α) (s : σ) :
    run (ofExcept x : Mutation σ ε α) s = (x, s) := by
  cases x <;> rfl

@[simp] theorem run_mapErr (f : ε → δ) (m : Mutation σ ε α) (s : σ) :
    run (mapErr f m) s = ((m.run s).1.mapError f, (m.run s).2) := rfl

@[simp] theorem run_zoom (get : σ → τ) (set : τ → σ → σ) (m : Mutation τ ε α) (s : σ) :
    run (zoom get set m) s = ((m.run (get s)).1, set (m.run (get s)).2 s) := rfl

/-- After a success the continuation runs from the state left behind. -/
theorem run_bind_of_ok {m : Mutation σ ε α} {k : α → Mutation σ ε β} {s s' : σ} {a : α}
    (h : m.run s = (.ok a, s')) : (m >>= k).run s = (k a).run s' := by
  change (match m s with
    | (.ok a, s') => k a s'
    | (.error e, s') => (.error e, s')) = k a s'
  rw [show m s = (.ok a, s') from h]

/-- After a failure the continuation is skipped. -/
theorem run_bind_of_error {m : Mutation σ ε α} {k : α → Mutation σ ε β} {s s' : σ} {e : ε}
    (h : m.run s = (.error e, s')) : (m >>= k).run s = (.error e, s') := by
  change (match m s with
    | (.ok a, s') => k a s'
    | (.error e, s') => (.error e, s')) = (.error e, s')
  rw [show m s = (.error e, s') from h]

/-- A sequence succeeds exactly when both parts succeed in turn. -/
theorem run_bind_eq_ok_iff {m : Mutation σ ε α} {k : α → Mutation σ ε β} {s s'' : σ} {b : β} :
    (m >>= k).run s = (.ok b, s'') ↔
      ∃ a s', m.run s = (.ok a, s') ∧ (k a).run s' = (.ok b, s'') := by
  rcases hm : m.run s with ⟨e | a, s'⟩
  · rw [run_bind_of_error hm]
    simp
  · rw [run_bind_of_ok hm]
    constructor
    · intro h
      exact ⟨a, s', rfl, h⟩
    · rintro ⟨a', t, h, h'⟩
      cases h
      exact h'

/-- A program whose result is a success ends in the state it leaves behind. -/
theorem run_eq_of_ok {m : Mutation σ ε α} {s : σ} {a : α} (h : (m.run s).1 = .ok a) :
    m.run s = (.ok a, (m.run s).2) :=
  Prod.ext h rfl

/-- A program whose result is a success ends in some state. -/
theorem exists_run_of_ok {m : Mutation σ ε α} {s : σ} {a : α} (h : (m.run s).1 = .ok a) :
    ∃ s', m.run s = (.ok a, s') :=
  ⟨(m.run s).2, run_eq_of_ok h⟩

/-- `mapErr` does not change a success. -/
theorem run_mapErr_eq_ok_iff {f : ε → δ} {m : Mutation σ ε α} {s s' : σ} {a : α} :
    (mapErr f m).run s = (.ok a, s') ↔ m.run s = (.ok a, s') := by
  rcases h : m.run s with ⟨e | b, t⟩ <;> simp [h, Except.mapError]

/-- A success on a part of the state. -/
theorem run_zoom_eq_ok_iff {get : σ → τ} {set : τ → σ → σ} {m : Mutation τ ε α} {s s' : σ} {a : α} :
    (zoom get set m).run s = (.ok a, s') ↔ ∃ t, m.run (get s) = (.ok a, t) ∧ s' = set t s := by
  rcases h : m.run (get s) with ⟨e | b, t⟩ <;> simp [h, eq_comm]

/-- A sequence fails in its first part, or after it. -/
theorem run_bind_eq_error {m : Mutation σ ε α} {k : α → Mutation σ ε β} {s s'' : σ} {e : ε}
    (h : (m >>= k).run s = (.error e, s'')) :
    m.run s = (.error e, s'') ∨
      ∃ a s', m.run s = (.ok a, s') ∧ (k a).run s' = (.error e, s'') := by
  rcases hm : m.run s with ⟨e' | a, s'⟩
  · rw [run_bind_of_error hm] at h
    cases h
    exact Or.inl rfl
  · rw [run_bind_of_ok hm] at h
    exact Or.inr ⟨a, s', rfl, h⟩

/-- A replaced error stands for an error of the program. -/
theorem run_mapErr_eq_error {f : ε → δ} {m : Mutation σ ε α} {s s' : σ} {e : δ}
    (h : (mapErr f m).run s = (.error e, s')) : ∃ e', m.run s = (.error e', s') ∧ e = f e' := by
  rcases hm : m.run s with ⟨e' | a, t⟩
  · rw [run_mapErr, hm] at h
    cases h
    exact ⟨e', rfl, rfl⟩
  · rw [run_mapErr, hm] at h
    cases h

/-- A program on a part of the state fails there. -/
theorem run_zoom_eq_error {get : σ → τ} {set : τ → σ → σ} {m : Mutation τ ε α} {s s' : σ} {e : ε}
    (h : (zoom get set m).run s = (.error e, s')) : ∃ t, m.run (get s) = (.error e, t) := by
  rw [run_zoom] at h
  have hres : (m.run (get s)).1 = .error e := congrArg Prod.fst h
  exact ⟨(m.run (get s)).2, Prod.ext hres rfl⟩

/-- What both outcomes of a program preserve, both outcomes of a sequence preserve. -/
theorem run_bind_preserves {m : Mutation σ ε α} {k : α → Mutation σ ε β} {P : σ → Prop} {s : σ}
    (hs : P s) (hm : ∀ t, P t → P (m.run t).2) (hk : ∀ a t, P t → P ((k a).run t).2) :
    P ((m >>= k).run s).2 := by
  rcases h : m.run s with ⟨e | a, s'⟩
  · rw [run_bind_of_error h]
    simpa [h] using hm s hs
  · rw [run_bind_of_ok h]
    exact hk a s' (by simpa [h] using hm s hs)

/-! ### The errors of a program -/

/-- Every error of the program is one of `P`, whatever state it starts from. -/
def FailsIn (m : Mutation σ ε α) (P : ε → Prop) : Prop :=
  ∀ s e, (m.run s).1 = .error e → P e

section Errors

variable {P : ε → Prop}

/-- What returns does not fail. -/
theorem failsIn_pure (a : α) : FailsIn (pure a : Mutation σ ε α) P := by
  intro s e h
  cases h

/-- Reading does not fail. -/
theorem failsIn_read : FailsIn (read : Mutation σ ε σ) P := by
  intro s e h
  cases h

/-- An `Except` fails in its own error. -/
theorem failsIn_ofExcept {x : Except ε α} (h : ∀ e, x = .error e → P e) :
    FailsIn (ofExcept x : Mutation σ ε α) P := by
  intro s e he
  rw [run_ofExcept] at he
  exact h e he

/-- A sequence fails in an error of one of its parts. -/
theorem FailsIn.bind {m : Mutation σ ε α} {k : α → Mutation σ ε β} (hm : FailsIn m P)
    (hk : ∀ a, FailsIn (k a) P) : FailsIn (m >>= k) P := by
  intro s e h
  rcases hrun : (m >>= k).run s with ⟨res, s''⟩
  rw [hrun] at h
  subst h
  rcases run_bind_eq_error hrun with hfirst | ⟨a, s', -, hsecond⟩
  · exact hm s e (congrArg Prod.fst hfirst)
  · exact hk a s' e (congrArg Prod.fst hsecond)

/-- A replaced error comes from the replacement. -/
theorem failsIn_mapErr {Q : δ → Prop} {f : ε → δ} (m : Mutation σ ε α) (h : ∀ e, Q (f e)) :
    FailsIn (mapErr f m) Q := by
  intro s e he
  rw [run_mapErr] at he
  rcases hrun : (m.run s).1 with e' | a
  · rw [hrun] at he
    cases he
    exact h e'
  · rw [hrun] at he
    cases he

/-- A program on a part of the state fails as it does on its own. -/
theorem FailsIn.zoom {get : σ → τ} {set : τ → σ → σ} {m : Mutation τ ε α} (h : FailsIn m P) :
    FailsIn (zoom get set m) P := fun s e he => h (get s) e he

end Errors

end Mutation

end InfJup
