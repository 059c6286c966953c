import Mathlib.Tactic.Common

/-!
# Streaming hashers

A streaming hasher is fed byte slices one after the other and gives a digest at the end.
`LawfulStreamHash` says what every such hasher guarantees: there is a digest function on byte
strings, and the result is the digest of the concatenation of everything fed so far.  The cut of
the input into slices and calls is then irrelevant.
-/

namespace InfJup

/-- The operations of a streaming hasher with digests of type `D`. -/
class StreamHash (H : Type) (D : outParam Type) where
  /-- A fresh hasher. -/
  fresh : H
  /-- Feed one slice. -/
  hash : H → List UInt8 → H
  /-- Feed several slices. -/
  hashv : H → List (List UInt8) → H
  /-- The digest of what was fed. -/
  result : H → D

/-- Successive calls hash the concatenation of all the slices fed so far. -/
class LawfulStreamHash (H : Type) {D : Type} [StreamHash H D] where
  /-- The digest of a byte string. -/
  digest : List UInt8 → D
  /-- Everything fed to the hasher so far. -/
  absorbed : H → List UInt8
  absorbed_fresh : absorbed (StreamHash.fresh : H) = []
  absorbed_hash : ∀ (h : H) (b : List UInt8), absorbed (StreamHash.hash h b) = absorbed h ++ b
  absorbed_hashv : ∀ (h : H) (bs : List (List UInt8)),
    absorbed (StreamHash.hashv h bs) = absorbed h ++ bs.flatten
  result_eq : ∀ h : H, StreamHash.result h = digest (absorbed h)

namespace LawfulStreamHash

attribute [simp] absorbed_fresh absorbed_hash absorbed_hashv result_eq

variable {H D : Type} [StreamHash H D] [LawfulStreamHash H]

/-- Feeding a list of slices one at a time absorbs their concatenation. -/
theorem absorbed_foldl_hash (seeds : List (List UInt8)) (h : H) :
    absorbed D (seeds.foldl StreamHash.hash h) = absorbed D h ++ seeds.flatten := by
  induction seeds generalizing h with
  | nil => simp
  | cons seed seeds ih => rw [List.foldl_cons, ih, absorbed_hash, List.flatten_cons, List.append_assoc]

/-- Slices fed one at a time, and then several at once, are hashed as one byte string. -/
theorem result_hashv_foldl_hash (seeds tail : List (List UInt8)) :
    StreamHash.result (StreamHash.hashv (seeds.foldl StreamHash.hash (StreamHash.fresh : H)) tail) =
      digest H (seeds.flatten ++ tail.flatten) := by
  rw [result_eq, absorbed_hashv, absorbed_foldl_hash, absorbed_fresh, List.nil_append]

end LawfulStreamHash

end InfJup
