import Mathlib.Data.Nat.Digits.Lemmas

/-!
# Little-endian byte strings

`leBytes n v` is the `n`-byte little-endian encoding of the number `v` and `leNat bytes` is the
number a byte string stands for.  The two are inverse to each other on the numbers below
`256 ^ n`; the fixed-width integers of 64 bits inherit this in both signednesses.
-/

namespace InfJup

/-- The number a little-endian byte string stands for. -/
def leNat {n : ℕ} (bytes : Vector UInt8 n) : ℕ :=
  Nat.ofDigits 256 (bytes.toList.map UInt8.toNat)

/-- The `n`-byte little-endian encoding of a number, reduced modulo `256 ^ n`. -/
def leBytes (n v : ℕ) : Vector UInt8 n :=
  Vector.ofFn fun i => UInt8.ofNat (v / 256 ^ i.val)

/-- Every byte is a digit in base 256. -/
lemma toNat_lt_of_mem_map (bytes : List UInt8) {d : ℕ} (hd : d ∈ bytes.map UInt8.toNat) :
    d < 256 := by
  obtain ⟨b, _, rfl⟩ := List.mem_map.mp hd
  exact b.toNat_lt

/-- An `n`-byte string stands for a number below `256 ^ n`. -/
theorem leNat_lt {n : ℕ} (bytes : Vector UInt8 n) : leNat bytes < 256 ^ n := by
  have h := Nat.ofDigits_lt_base_pow_length (b := 256) (by decide)
    (fun _ => toNat_lt_of_mem_map bytes.toList)
  simpa [leNat] using h

/-- Byte strings of one length that stand for the same number are equal. -/
theorem leNat_injective {n : ℕ} : Function.Injective (leNat (n := n)) := by
  intro a b hab
  have hdigits : a.toList.map UInt8.toNat = b.toList.map UInt8.toNat :=
    Nat.ofDigits_inj_of_len_eq (b := 256) (by decide) (by simp)
      (fun _ => toNat_lt_of_mem_map a.toList) (fun _ => toNat_lt_of_mem_map b.toList) hab
  have hlist : a.toList = b.toList :=
    (List.map_inj_right fun _ _ h => UInt8.toNat_inj.mp h).mp hdigits
  exact Vector.toList_inj.mp hlist

/-- The base-256 digits of `v`, cut off after `n` of them, stand for `v` modulo `256 ^ n`. -/
lemma ofDigits_ofFn_div (n v : ℕ) :
    Nat.ofDigits 256 (List.ofFn fun i : Fin n => v / 256 ^ i.val % 256) = v % 256 ^ n := by
  induction n generalizing v with
  | zero => simp [Nat.mod_one]
  | succ n ih =>
    have htail : (List.ofFn fun i : Fin n => v / 256 ^ (i.succ : Fin (n + 1)).val % 256) =
        List.ofFn fun i : Fin n => v / 256 / 256 ^ i.val % 256 := by
      congr 1
      funext i
      rw [Fin.val_succ, pow_succ', Nat.div_div_eq_div_mul]
    rw [List.ofFn_succ, Nat.ofDigits_cons, htail, ih (v / 256)]
    simp only [Fin.val_zero, pow_zero, Nat.div_one]
    rw [pow_succ', Nat.mod_mul]

/-- Encoding and decoding returns the number, reduced to the width. -/
theorem leNat_leBytes (n v : ℕ) : leNat (leBytes n v) = v % 256 ^ n := by
  have hdigits : (leBytes n v).toList.map UInt8.toNat =
      List.ofFn fun i : Fin n => v / 256 ^ i.val % 256 := by
    rw [leBytes, Vector.toList_ofFn, List.map_ofFn]
    rfl
  rw [leNat, hdigits, ofDigits_ofFn_div]

/-- Decoding and encoding returns the byte string. -/
theorem leBytes_leNat {n : ℕ} (bytes : Vector UInt8 n) : leBytes n (leNat bytes) = bytes := by
  apply leNat_injective
  rw [leNat_leBytes, Nat.mod_eq_of_lt (leNat_lt bytes)]

/-! ### Integers of 64 bits -/

/-- `u64::to_le_bytes`. -/
def u64ToLeBytes (x : UInt64) : Vector UInt8 8 := leBytes 8 x.toNat

/-- `u64::from_le_bytes`. -/
def u64OfLeBytes (bytes : Vector UInt8 8) : UInt64 := UInt64.ofNat (leNat bytes)

/-- `i64::to_le_bytes`: the bytes of the two's complement representation. -/
def i64ToLeBytes (x : Int64) : Vector UInt8 8 := u64ToLeBytes x.toUInt64

/-- `i64::from_le_bytes`. -/
def i64OfLeBytes (bytes : Vector UInt8 8) : Int64 := (u64OfLeBytes bytes).toInt64

@[simp] theorem u64OfLeBytes_toLeBytes (x : UInt64) : u64OfLeBytes (u64ToLeBytes x) = x := by
  have hlt : x.toNat < 256 ^ 8 := x.toNat_lt
  rw [u64OfLeBytes, u64ToLeBytes, leNat_leBytes, Nat.mod_eq_of_lt hlt, UInt64.ofNat_toNat]

@[simp] theorem u64ToLeBytes_ofLeBytes (bytes : Vector UInt8 8) :
    u64ToLeBytes (u64OfLeBytes bytes) = bytes := by
  have hlt : leNat bytes < 2 ^ 64 := leNat_lt bytes
  rw [u64ToLeBytes, u64OfLeBytes, UInt64.toNat_ofNat_of_lt' hlt, leBytes_leNat]

@[simp] theorem i64OfLeBytes_toLeBytes (x : Int64) : i64OfLeBytes (i64ToLeBytes x) = x := by
  simp [i64OfLeBytes, i64ToLeBytes]

@[simp] theorem i64ToLeBytes_ofLeBytes (bytes : Vector UInt8 8) :
    i64ToLeBytes (i64OfLeBytes bytes) = bytes := by
  simp [i64OfLeBytes, i64ToLeBytes]

end InfJup
