import Mathlib.Data.List.Nodup

/-!
# The last entry of a key

A list of entries with keys, read as a map in which a later entry replaces an earlier one of the same
key: `lastEntry key xs k` is the entry that is left for `k`.
-/

namespace InfJup

variable {α κ : Type} [DecidableEq κ] {key : α → κ} {xs : List α} {x : α} {k : κ}

/-- The last entry with the given key. -/
def lastEntry (key : α → κ) (xs : List α) (k : κ) : Option α := xs.findRev? fun x => key x = k

@[simp] theorem lastEntry_nil : lastEntry key [] k = none := rfl

/-- An entry at the end replaces those of its key. -/
theorem lastEntry_append_self (key : α → κ) (xs : List α) (x : α) :
    lastEntry key (xs ++ [x]) (key x) = some x := by
  simp [lastEntry]

/-- It leaves the other keys alone. -/
theorem lastEntry_append_of_ne (h : k ≠ key x) : lastEntry key (xs ++ [x]) k = lastEntry key xs k := by
  simp [lastEntry, h.symm]

/-- The last entry of a key is followed by entries of other keys. -/
theorem lastEntry_eq_some_iff : lastEntry key xs k = some x ↔
    key x = k ∧ ∃ before after, xs = before ++ x :: after ∧ ∀ y ∈ after, key y ≠ k := by
  rw [lastEntry, List.findRev?_eq_find?_reverse, List.find?_eq_some_iff_append]
  constructor
  · rintro ⟨hx, after, before, hrev, hafter⟩
    refine ⟨of_decide_eq_true hx, before.reverse, after.reverse, ?_, fun y hy => ?_⟩
    · rw [← List.reverse_reverse xs, hrev]
      simp
    · simpa using hafter y (List.mem_reverse.mp hy)
  · rintro ⟨hx, before, after, rfl, hafter⟩
    refine ⟨decide_eq_true hx, after.reverse, before.reverse, by simp, fun y hy => ?_⟩
    simpa using hafter y (List.mem_reverse.mp hy)

/-- A key has a last entry when it has an entry. -/
theorem exists_lastEntry (h : k ∈ xs.map key) : ∃ x, lastEntry key xs k = some x := by
  obtain ⟨y, hy, hk⟩ := List.mem_map.mp h
  refine Option.isSome_iff_exists.mp ?_
  rw [lastEntry, List.findRev?_eq_find?_reverse, List.find?_isSome]
  exact ⟨y, List.mem_reverse.mpr hy, decide_eq_true hk⟩

/-- A last entry is an entry of its key. -/
theorem mem_of_lastEntry (h : lastEntry key xs k = some x) : x ∈ xs ∧ key x = k := by
  obtain ⟨hk, before, after, rfl, -⟩ := lastEntry_eq_some_iff.mp h
  exact ⟨by simp, hk⟩

/-- Where no key occurs twice, every entry is the last of its key. -/
theorem lastEntry_of_nodup (hdistinct : (xs.map key).Nodup) (hx : x ∈ xs) :
    lastEntry key xs (key x) = some x := by
  obtain ⟨y, hy⟩ := exists_lastEntry (List.mem_map_of_mem (f := key) hx)
  obtain ⟨hmem, hkey⟩ := mem_of_lastEntry hy
  rw [hy, List.inj_on_of_nodup_map hdistinct hmem hx hkey]

end InfJup
