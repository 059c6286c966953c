import InfJupInterface.Data.LittleEndian

/-!
# Points of the Edwards curve

Whether a 32-byte string is the compressed form of a point of Curve25519 in Edwards form,
`-x² + y² = 1 + d x² y²` over the field of `2 ^ 255 - 19` elements.  The string is `y` in
little-endian order with the sign of `x` in the top bit, so the question is whether
`(y² - 1) / (d y² + 1)` is a square.
-/

namespace InfJup

namespace Ed25519

/-- The size of the field. -/
def prime : ℕ := 2 ^ 255 - 19

/-- `x ^ n` in the field, where `n` is given by its binary digits, least significant first. -/
def powBits : List Bool → ℕ → ℕ
  | [], _ => 1
  | b :: bs, x =>
    let rest := powBits bs (x * x % prime)
    if b then x * rest % prime else rest

/-- The `width` low binary digits of `n`, least significant first. -/
def bits (width n : ℕ) : List Bool := (List.range width).map fun i => n.testBit i

/-- `x ^ n` in the field, for `n < 2 ^ 256`. -/
def pow (x n : ℕ) : ℕ := powBits (bits 256 n) x

/-- Multiplicative inverse in the field. -/
def inv (x : ℕ) : ℕ := pow x (prime - 2)

/-- The curve parameter `-121665 / 121666`. -/
def d : ℕ := (prime - 121665) * inv 121666 % prime

/-- Euler's criterion, with zero counted as a square. -/
def isSquare (x : ℕ) : Bool := x == 0 || pow x ((prime - 1) / 2) == 1

/-- The bytes are the compressed form of a curve point. -/
def isPoint (bytes : Vector UInt8 32) : Bool :=
  let y := leNat bytes % 2 ^ 255 % prime
  let u := (y * y + (prime - 1)) % prime
  let v := (d * (y * y % prime) + 1) % prime
  isSquare (u * inv v % prime)

end Ed25519

end InfJup
