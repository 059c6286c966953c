import InfJupInterface.Crypto.StreamHash

/-!
# SHA-256

An executable SHA-256 and the streaming hasher over it.  The hasher collects its input and
digests it at the end, so it is lawful with `sha256` as its digest function.
-/

namespace InfJup

namespace Sha256

/-- The round constants. -/
def roundConstants : List UInt32 :=
  [0x428a2f98, 0x71374491, 0xb5c0fbcf, 0xe9b5dba5, 0x3956c25b, 0x59f111f1, 0x923f82a4, 0xab1c5ed5,
    0xd807aa98, 0x12835b01, 0x243185be, 0x550c7dc3, 0x72be5d74, 0x80deb1fe, 0x9bdc06a7, 0xc19bf174,
    0xe49b69c1, 0xefbe4786, 0x0fc19dc6, 0x240ca1cc, 0x2de92c6f, 0x4a7484aa, 0x5cb0a9dc, 0x76f988da,
    0x983e5152, 0xa831c66d, 0xb00327c8, 0xbf597fc7, 0xc6e00bf3, 0xd5a79147, 0x06ca6351, 0x14292967,
    0x27b70a85, 0x2e1b2138, 0x4d2c6dfc, 0x53380d13, 0x650a7354, 0x766a0abb, 0x81c2c92e, 0x92722c85,
    0xa2bfe8a1, 0xa81a664b, 0xc24b8b70, 0xc76c51a3, 0xd192e819, 0xd6990624, 0xf40e3585, 0x106aa070,
    0x19a4c116, 0x1e376c08, 0x2748774c, 0x34b0bcb5, 0x391c0cb3, 0x4ed8aa4a, 0x5b9cca4f, 0x682e6ff3,
    0x748f82ee, 0x78a5636f, 0x84c87814, 0x8cc70208, 0x90befffa, 0xa4506ceb, 0xbef9a3f7, 0xc67178f2]

/-- The eight working variables. -/
structure State where
  a : UInt32
  b : UInt32
  c : UInt32
  d : UInt32
  e : UInt32
  f : UInt32
  g : UInt32
  h : UInt32

/-- The initial hash value. -/
def initial : State :=
  ⟨0x6a09e667, 0xbb67ae85, 0x3c6ef372, 0xa54ff53a, 0x510e527f, 0x9b05688c, 0x1f83d9ab, 0x5be0cd19⟩

/-- Rotate right by `n` bits, `0 < n < 32`. -/
def rotr (x : UInt32) (n : UInt32) : UInt32 := (x >>> n) ||| (x <<< (32 - n))

/-- One round with round constant `k` and schedule word `w`. -/
def round (s : State) (k w : UInt32) : State :=
  let t₁ := s.h + (rotr s.e 6 ^^^ rotr s.e 11 ^^^ rotr s.e 25) +
    ((s.e &&& s.f) ^^^ (~~~s.e &&& s.g)) + k + w
  let t₂ := (rotr s.a 2 ^^^ rotr s.a 13 ^^^ rotr s.a 22) +
    ((s.a &&& s.b) ^^^ (s.a &&& s.c) ^^^ (s.b &&& s.c))
  ⟨t₁ + t₂, s.a, s.b, s.c, s.d + t₁, s.e, s.f, s.g⟩

/-- The schedule word after the sixteen words of the window `w`. -/
def nextWord (w : List UInt32) : UInt32 :=
  let x := w.getD 1 0
  let y := w.getD 14 0
  w.getD 0 0 + (rotr x 7 ^^^ rotr x 18 ^^^ (x >>> 3)) + w.getD 9 0 +
    (rotr y 17 ^^^ rotr y 19 ^^^ (y >>> 10))

/-- Run the rounds; the window holds the next sixteen schedule words. -/
def rounds : List UInt32 → List UInt32 → State → State
  | [], _, s => s
  | k :: ks, w, s => rounds ks (w.tail ++ [nextWord w]) (round s k (w.headD 0))

/-- Add a block's outcome to the chaining value. -/
def State.add (s t : State) : State :=
  ⟨s.a + t.a, s.b + t.b, s.c + t.c, s.d + t.d, s.e + t.e, s.f + t.f, s.g + t.g, s.h + t.h⟩

/-- The bytes of a word, most significant first. -/
def wordBytes (x : UInt32) : List UInt8 :=
  [(x >>> 24).toUInt8, (x >>> 16).toUInt8, (x >>> 8).toUInt8, x.toUInt8]

/-- The words of a byte string, most significant byte first. -/
def words : List UInt8 → List UInt32
  | b₀ :: b₁ :: b₂ :: b₃ :: rest =>
    ((b₀.toUInt32 <<< 24) ||| (b₁.toUInt32 <<< 16) ||| (b₂.toUInt32 <<< 8) ||| b₃.toUInt32) ::
      words rest
  | _ => []

/-- Compress `n` blocks of sixteen words each. -/
def compress : ℕ → List UInt32 → State → State
  | 0, _, s => s
  | n + 1, ws, s => compress n (ws.drop 16) (s.add (rounds roundConstants (ws.take 16) s))

/-- The number of blocks of a padded message of `len` bytes. -/
def blocks (len : ℕ) : ℕ := (len + 9 + 63) / 64

/-- The message, a one bit, zeros, and the bit length in eight bytes. -/
def pad (message : List UInt8) : List UInt8 :=
  let bits := message.length * 8
  let zeros := blocks message.length * 64 - message.length - 9
  let size : List UInt8 := (List.range 8).map fun i => UInt8.ofNat (bits >>> (8 * (7 - i)))
  message ++ [128] ++ List.replicate zeros 0 ++ size

/-- The bytes of the final hash value. -/
def State.bytes (s : State) : Vector UInt8 32 :=
  ⟨(wordBytes s.a ++ wordBytes s.b ++ wordBytes s.c ++ wordBytes s.d ++ wordBytes s.e ++
    wordBytes s.f ++ wordBytes s.g ++ wordBytes s.h).toArray, rfl⟩

end Sha256

/-- The SHA-256 digest of a byte string. -/
def sha256 (message : List UInt8) : Vector UInt8 32 :=
  (Sha256.compress (Sha256.blocks message.length) (Sha256.words (Sha256.pad message))
    Sha256.initial).bytes

/-- A streaming SHA-256 hasher that collects its input. -/
structure Sha256Hasher where
  /-- Everything fed so far. -/
  input : List UInt8

instance : StreamHash Sha256Hasher (Vector UInt8 32) where
  fresh := ⟨[]⟩
  hash h b := ⟨h.input ++ b⟩
  hashv h bs := ⟨h.input ++ bs.flatten⟩
  result h := sha256 h.input

instance : LawfulStreamHash Sha256Hasher where
  digest := sha256
  absorbed := Sha256Hasher.input
  absorbed_fresh := rfl
  absorbed_hash _ _ := rfl
  absorbed_hashv _ _ := rfl
  result_eq _ := rfl

end InfJup
