import Mathlib.Data.List.TakeWhile
import Mathlib.Data.Nat.Digits.Lemmas

/-!
# Base 58

A digit string, most significant digit first, is rewritten in another base by way of the number it
stands for.  The number does not show the zeros in front, so they are kept one by one; with them the
change of base can be undone (`changeBase_changeBase`).

Base 58 is the change of base from bytes to the letters of an alphabet, and decoding undoes it
(`Base58.decode_encode`).
-/

namespace InfJup

/-! ### Change of base -/

/-- Rewrite a digit string in base `b` in base `c`, most significant digit first.  The zeros in front
are kept. -/
def changeBase (b c : ℕ) (ds : List ℕ) : List ℕ :=
  ds.takeWhile (· = 0) ++ (Nat.digits c (Nat.ofDigits b ds.reverse)).reverse

/-- Zeros in front do not count. -/
lemma ofDigits_reverse_zeros_append {b : ℕ} {zeros ds : List ℕ} (h : ∀ d ∈ zeros, d = 0) :
    Nat.ofDigits b (zeros ++ ds).reverse = Nat.ofDigits b ds.reverse := by
  rw [List.eq_replicate_of_mem h, List.reverse_append, List.reverse_replicate, Nat.ofDigits_append,
    Nat.ofDigits_replicate_zero, Nat.mul_zero, Nat.add_zero]

/-- What `takeWhile` takes are zeros. -/
lemma eq_zero_of_mem_zeros {ds : List ℕ} {d : ℕ} (h : d ∈ ds.takeWhile (· = 0)) : d = 0 := by
  simpa using List.mem_takeWhile_imp h

/-- The leading digit of a number is not zero. -/
lemma takeWhile_zero_digits_reverse (c n : ℕ) :
    (Nat.digits c n).reverse.takeWhile (· = 0) = [] := by
  rcases hdigits : (Nat.digits c n).reverse with _ | ⟨d, ds⟩
  · rfl
  · have hn : n ≠ 0 := by
      rintro rfl
      simp at hdigits
    have hlast := Nat.getLast_digit_ne_zero c hn
    rw [List.getLast_eq_head_reverse] at hlast
    simp only [hdigits, List.head_cons] at hlast
    rw [List.takeWhile_cons_of_neg (by simpa using hlast)]

/-- The zeros in front are those of the digit string. -/
lemma takeWhile_zero_changeBase (b c : ℕ) (ds : List ℕ) :
    (changeBase b c ds).takeWhile (· = 0) = ds.takeWhile (· = 0) := by
  rw [changeBase, List.takeWhile_append_of_pos fun d hd => by simpa using eq_zero_of_mem_zeros hd,
    takeWhile_zero_digits_reverse, List.append_nil]

/-- The number stays the same. -/
lemma ofDigits_changeBase (b c : ℕ) (ds : List ℕ) :
    Nat.ofDigits c (changeBase b c ds).reverse = Nat.ofDigits b ds.reverse := by
  rw [changeBase, ofDigits_reverse_zeros_append fun d => eq_zero_of_mem_zeros, List.reverse_reverse,
    Nat.ofDigits_digits]

/-- **A change of base can be undone.** -/
theorem changeBase_changeBase {b : ℕ} (hb : 1 < b) (c : ℕ) {ds : List ℕ} (hds : ∀ d ∈ ds, d < b) :
    changeBase c b (changeBase b c ds) = ds := by
  have hsplit : ds.takeWhile (· = 0) ++ ds.dropWhile (· = 0) = ds := List.takeWhile_append_dropWhile
  have hvalue : Nat.ofDigits b ds.reverse = Nat.ofDigits b (ds.dropWhile (· = 0)).reverse := by
    conv_lhs => rw [← hsplit]
    exact ofDigits_reverse_zeros_append fun d => eq_zero_of_mem_zeros
  -- the digits after the zeros are the digits of the number, as the first of them is not zero
  have hdigits : Nat.digits b (Nat.ofDigits b (ds.dropWhile (· = 0)).reverse) =
      (ds.dropWhile (· = 0)).reverse := by
    refine Nat.digits_ofDigits b hb _ (fun d hd => ?_) fun hne => ?_
    · exact hds d ((List.dropWhile_sublist _).mem (List.mem_reverse.mp hd))
    · have hne' : ds.dropWhile (· = 0) ≠ [] := by simpa using hne
      have hhead := List.head_dropWhile_not (fun d : ℕ => decide (d = 0)) hne'
      rw [List.getLast_reverse]
      simpa using hhead
  rw [changeBase, takeWhile_zero_changeBase, ofDigits_changeBase, hvalue, hdigits,
    List.reverse_reverse, hsplit]

/-- The digits are digits of the new base. -/
theorem lt_of_mem_changeBase {b c : ℕ} (hc : 1 < c) {ds : List ℕ} {d : ℕ}
    (hd : d ∈ changeBase b c ds) : d < c := by
  rcases List.mem_append.mp hd with hzero | hdigit
  · rw [eq_zero_of_mem_zeros hzero]
    omega
  · exact Nat.digits_lt_base hc (List.mem_reverse.mp hdigit)

/-! ### The encoding -/

namespace Base58

/-- The letters, in the order of their values. -/
def alphabet : List Char :=
  ['1', '2', '3', '4', '5', '6', '7', '8', '9', 'A', 'B', 'C', 'D', 'E', 'F', 'G', 'H', 'J', 'K',
    'L', 'M', 'N', 'P', 'Q', 'R', 'S', 'T', 'U', 'V', 'W', 'X', 'Y', 'Z', 'a', 'b', 'c', 'd', 'e',
    'f', 'g', 'h', 'i', 'j', 'k', 'm', 'n', 'o', 'p', 'q', 'r', 's', 't', 'u', 'v', 'w', 'x', 'y',
    'z']

/-- The letter of a digit. -/
def letter (d : ℕ) : Char := alphabet.getD d '1'

/-- The digit of a letter. -/
def digit (c : Char) : Option ℕ := alphabet.idxOf? c

/-- The text of a byte string. -/
def encode (bytes : List UInt8) : List Char :=
  (changeBase 256 58 (bytes.map UInt8.toNat)).map letter

/-- The byte string of a text, unless a letter is not of the alphabet. -/
def decode (text : List Char) : Option (List UInt8) :=
  (text.mapM digit).map fun ds => (changeBase 58 256 ds).map UInt8.ofNat

/-- Letters are read as their digits. -/
lemma digit_letter {d : ℕ} (h : d < 58) : digit (letter d) = some d := by
  have hall : ∀ d : Fin 58, digit (letter d.val) = some d.val := by decide
  exact hall ⟨d, h⟩

/-- A word in letters is read digit by digit. -/
lemma mapM_digit_map_letter {ds : List ℕ} (h : ∀ d ∈ ds, d < 58) :
    (ds.map letter).mapM digit = some ds := by
  induction ds with
  | nil => rfl
  | cons d ds ih =>
    rw [List.map_cons, List.mapM_cons, digit_letter (h d List.mem_cons_self),
      ih fun e he => h e (List.mem_cons_of_mem d he)]
    rfl

/-- **Decoding undoes encoding.** -/
theorem decode_encode (bytes : List UInt8) : decode (encode bytes) = some bytes := by
  have hbytes : ∀ d ∈ bytes.map UInt8.toNat, d < 256 := by
    intro d hd
    obtain ⟨byte, -, rfl⟩ := List.mem_map.mp hd
    exact byte.toNat_lt
  rw [decode, encode, mapM_digit_map_letter fun d => lt_of_mem_changeBase (by decide),
    Option.map_some, changeBase_changeBase (by decide) 58 hbytes, List.map_map]
  exact congrArg some (List.map_id'' (fun byte => UInt8.ofNat_toNat) bytes)

end Base58

end InfJup
