import Mathlib.Data.List.Perm.Basic
import Mathlib.Data.List.Pairwise

/-!
# Writes onto windows of a fixed-size array

A `Window α A` is a block of values together with the place in an array of size `A` it belongs
to; that the block fits is a field, so an out-of-bounds window cannot be built.  Writing a window
is characterised by its two `getElem` lemmas (inside the window, and the frame outside it).
Writes to disjoint windows commute, hence the result of writing pairwise disjoint windows does
not depend on their order, and each window reads back its own block.
-/

namespace InfJup

/-- The block of `len` elements of `arr` from position `start`. -/
def readWindow {α : Type} {A : ℕ} (arr : Vector α A) (start len : ℕ) (h : start + len ≤ A) :
    Vector α len :=
  Vector.ofFn fun i => arr[start + i.val]

@[simp] theorem getElem_readWindow {α : Type} {A : ℕ} (arr : Vector α A) (start len : ℕ)
    (h : start + len ≤ A) (i : ℕ) (hi : i < len) :
    (readWindow arr start len h)[i] = arr[start + i] := by
  simp [readWindow]

/-- A block of values and the place in an array of size `A` where it goes. -/
structure Window (α : Type) (A : ℕ) where
  /-- The first position of the window. -/
  start : ℕ
  /-- The length of the window. -/
  len : ℕ
  /-- The values to write. -/
  val : Vector α len
  /-- The window lies inside the array. -/
  inBounds : start + len ≤ A

namespace Window

variable {α : Type} {A : ℕ}

/-- Position `j` lies in the window. -/
def Covers (w : Window α A) (j : ℕ) : Prop := w.start ≤ j ∧ j < w.start + w.len

instance (w : Window α A) (j : ℕ) : Decidable (w.Covers j) :=
  inferInstanceAs (Decidable (w.start ≤ j ∧ j < w.start + w.len))

/-- Two windows share no position. -/
def Disjoint (w w' : Window α A) : Prop :=
  w.start + w.len ≤ w'.start ∨ w'.start + w'.len ≤ w.start

lemma Disjoint.symm {w w' : Window α A} (h : w.Disjoint w') : w'.Disjoint w := Or.symm h

/-- A position of one of two disjoint windows lies outside the other. -/
lemma Disjoint.not_covers {w w' : Window α A} (h : w.Disjoint w') {j : ℕ} (hj : w.Covers j) :
    ¬ w'.Covers j := by
  rintro ⟨h1, h2⟩
  obtain ⟨h3, h4⟩ := hj
  rcases h with h | h <;> omega

/-- The value the window has for a position it covers. -/
def valueAt (w : Window α A) {j : ℕ} (h : w.Covers j) : α :=
  w.val.get ⟨j - w.start, by have := h.1; have := h.2; omega⟩

/-- Write the block onto its window. -/
def write (w : Window α A) (arr : Vector α A) : Vector α A :=
  Vector.ofFn fun j => if h : w.Covers j.val then w.valueAt h else arr[j.val]

/-- Inside the window a write stores the block. -/
theorem getElem_write_of_covers (w : Window α A) (arr : Vector α A) {j : ℕ} (hA : j < A)
    (h : w.Covers j) :
    (w.write arr)[j] = w.valueAt h := by
  simp [write, h]

/-- Outside the window a write changes nothing. -/
theorem getElem_write_of_not_covers (w : Window α A) (arr : Vector α A) {j : ℕ} (hA : j < A)
    (h : ¬ w.Covers j) : (w.write arr)[j] = arr[j] := by
  simp [write, h]

/-- A window reads back the block written onto it. -/
theorem readWindow_write (w : Window α A) (arr : Vector α A) :
    readWindow (w.write arr) w.start w.len w.inBounds = w.val := by
  apply Vector.ext
  intro i hi
  have hcov : w.Covers (w.start + i) := ⟨by omega, by omega⟩
  have hA : w.start + i < A := by have := w.inBounds; omega
  rw [getElem_readWindow, getElem_write_of_covers w arr hA hcov, valueAt]
  change w.val[w.start + i - w.start] = w.val[i]
  simp

/-- A window disjoint from the written one reads as before. -/
theorem readWindow_write_of_disjoint {w : Window α A} {start len : ℕ} (h : start + len ≤ A)
    (hd : start + len ≤ w.start ∨ w.start + w.len ≤ start) (arr : Vector α A) :
    readWindow (w.write arr) start len h = readWindow arr start len h := by
  apply Vector.ext
  intro i hi
  have hcov : ¬ w.Covers (start + i) := by
    rintro ⟨h1, h2⟩
    omega
  rw [getElem_readWindow, getElem_readWindow, getElem_write_of_not_covers w arr (by omega) hcov]

/-- Writes to disjoint windows commute. -/
theorem write_comm {w w' : Window α A} (h : w.Disjoint w') (arr : Vector α A) :
    w.write (w'.write arr) = w'.write (w.write arr) := by
  apply Vector.ext
  intro j hA
  by_cases hj : w.Covers j
  · rw [getElem_write_of_covers w _ hA hj, getElem_write_of_not_covers w' _ hA (h.not_covers hj),
      getElem_write_of_covers w _ hA hj]
  · rw [getElem_write_of_not_covers w _ hA hj]
    by_cases hj' : w'.Covers j
    · rw [getElem_write_of_covers w' _ hA hj', getElem_write_of_covers w' _ hA hj']
    · rw [getElem_write_of_not_covers w' _ hA hj', getElem_write_of_not_covers w' _ hA hj',
        getElem_write_of_not_covers w _ hA hj]

/-- Write a sequence of windows, first to last. -/
def writeAll (ws : List (Window α A)) (arr : Vector α A) : Vector α A :=
  ws.foldl (fun a w => w.write a) arr

@[simp] theorem writeAll_nil (arr : Vector α A) : writeAll [] arr = arr := rfl

@[simp] theorem writeAll_cons (w : Window α A) (ws : List (Window α A)) (arr : Vector α A) :
    writeAll (w :: ws) arr = writeAll ws (w.write arr) := rfl

/-- A position no window covers is left alone. -/
theorem getElem_writeAll_of_not_covers {ws : List (Window α A)} {j : ℕ} (hA : j < A)
    (h : ∀ w ∈ ws, ¬ w.Covers j) (arr : Vector α A) : (writeAll ws arr)[j] = arr[j] := by
  induction ws generalizing arr with
  | nil => rfl
  | cons w ws ih =>
    rw [writeAll_cons, ih (fun v hv => h v (List.mem_cons_of_mem w hv)),
      getElem_write_of_not_covers w arr hA (h w (by simp))]

/-- The order in which pairwise disjoint windows are written does not matter. -/
theorem writeAll_perm {ws ws' : List (Window α A)} (hperm : ws.Perm ws')
    (hdisj : ws.Pairwise Disjoint) (arr : Vector α A) : writeAll ws arr = writeAll ws' arr := by
  induction hperm generalizing arr with
  | nil => rfl
  | cons w _ ih =>
    rw [writeAll_cons, writeAll_cons, ih (List.pairwise_cons.mp hdisj).2]
  | swap w w' ws =>
    have hww' : w'.Disjoint w := (List.pairwise_cons.mp hdisj).1 w (by simp)
    rw [writeAll_cons, writeAll_cons, writeAll_cons, writeAll_cons, write_comm hww'.symm]
  | trans h₁ _ ih₁ ih₂ =>
    rw [ih₁ hdisj, ih₂ (h₁.pairwise hdisj fun h => h.symm)]

/-- After pairwise disjoint writes every window reads back its own block. -/
theorem readWindow_writeAll {ws : List (Window α A)} (hdisj : ws.Pairwise Disjoint)
    {w : Window α A} (hw : w ∈ ws) (arr : Vector α A) :
    readWindow (writeAll ws arr) w.start w.len w.inBounds = w.val := by
  induction ws generalizing arr with
  | nil => simp at hw
  | cons v ws ih =>
    obtain ⟨hv, htail⟩ := List.pairwise_cons.mp hdisj
    rw [writeAll_cons]
    rcases List.mem_cons.mp hw with rfl | hmem
    · -- nothing after the window's own write touches it
      apply Vector.ext
      intro i hi
      have hA : w.start + i < A := by have := w.inBounds; omega
      have hcov : w.Covers (w.start + i) := ⟨by omega, by omega⟩
      rw [getElem_readWindow,
        getElem_writeAll_of_not_covers hA (fun u hu => (hv u hu).not_covers hcov),
        ← getElem_readWindow (w.write arr) w.start w.len w.inBounds i hi, readWindow_write]
    · exact ih htail hmem (v.write arr)

end Window

end InfJup
