import InfJupInterface.Crypto.Ed25519
import InfJupInterface.Crypto.Sha256
import InfJupInterface.Solana.Account

/-!
# The checked address constructors

The two constructors of program-derived addresses of the `solana_pubkey` crate, as a class, and
what the crate documents about them (`LawfulSolanaPubkey`).  The constructors over the executable
SHA-256 and the Edwards curve are an instance, in the scope `Reference`.
-/

namespace InfJup

/-- `PDA_MARKER`, the ASCII string `ProgramDerivedAddress`. -/
def pdaMarker : List UInt8 :=
  [80, 114, 111, 103, 114, 97, 109, 68, 101, 114, 105, 118, 101, 100, 65, 100, 100, 114, 101, 115,
    115]

/-- `solana_pubkey::PubkeyError`, as far as the address constructors return it. -/
inductive PubkeyError where
  | maxSeedLengthExceeded
  | invalidSeeds
  deriving DecidableEq

/-- The checked constructors of `solana_pubkey`. -/
class SolanaPubkey where
  /-- `Pubkey::create_program_address`. -/
  createProgramAddress : List (List UInt8) → Pubkey → Except PubkeyError Pubkey
  /-- `Pubkey::try_find_program_address`. -/
  tryFindProgramAddress : List (List UInt8) → Pubkey → Option (Pubkey × UInt8)

export SolanaPubkey (createProgramAddress tryFindProgramAddress)

/-- `MAX_SEEDS` of `solana_pubkey`. -/
def maxSeeds : ℕ := 16

/-- `MAX_SEED_LEN` of `solana_pubkey`. -/
def maxSeedLen : ℕ := 32

/-- The checked constructor over a digest function and a curve test: too many or too long seeds
are rejected, and so is an address on the curve. -/
def createChecked (digest : List UInt8 → Pubkey) (onCurve : Pubkey → Bool)
    (seeds : List (List UInt8)) (programId : Pubkey) : Except PubkeyError Pubkey :=
  if maxSeeds < seeds.length ∨ ∃ seed ∈ seeds, maxSeedLen < seed.length then
    .error .maxSeedLengthExceeded
  else
    let key := digest (seeds.flatten ++ programId.toList ++ pdaMarker)
    if onCurve key then .error .invalidSeeds else .ok key

/-- The first `tries` bumps, from 255 downwards. -/
def bumps (tries : ℕ) : List UInt8 := (List.range tries).map fun i => UInt8.ofNat (255 - i)

/-- The first bump a constructor accepts, with the address it makes. -/
def firstAccepted (create : UInt8 → Except PubkeyError Pubkey) :
    List UInt8 → Option (Pubkey × UInt8)
  | [] => none
  | bump :: rest =>
    match create bump with
    | .ok key => some (key, bump)
    | .error _ => firstAccepted create rest

/-- The documented behaviour of `solana_pubkey` over the hasher `H`: the checked constructor
rejects too many or too long seeds and addresses on the curve, and otherwise returns the SHA-256
digest of the seeds, the program id and the marker; the search tries the bumps from 255
downwards and returns the first one accepted. -/
class LawfulSolanaPubkey (H : Type) [StreamHash H Pubkey] [LawfulStreamHash H] [SolanaPubkey] where
  /-- The address is a point of the curve. -/
  onCurve : Pubkey → Bool
  /-- The number of bumps the search tries. -/
  tries : ℕ
  createProgramAddress_eq : ∀ seeds programId,
    createProgramAddress seeds programId =
      createChecked (LawfulStreamHash.digest H) onCurve seeds programId
  tryFindProgramAddress_eq : ∀ seeds programId,
    tryFindProgramAddress seeds programId =
      firstAccepted (fun bump => createProgramAddress (seeds ++ [[bump]]) programId) (bumps tries)

/-- An accepted address is the digest of the seeds, the program id and the marker. -/
theorem createChecked_eq_ok {digest : List UInt8 → Pubkey} {onCurve : Pubkey → Bool}
    {seeds : List (List UInt8)} {programId key : Pubkey}
    (h : createChecked digest onCurve seeds programId = .ok key) :
    key = digest (seeds.flatten ++ programId.toList ++ pdaMarker) := by
  rw [createChecked] at h
  split at h
  · cases h
  · dsimp only at h
    split at h
    · cases h
    · cases h
      rfl

/-- What a search returns was accepted at the bump it reports. -/
theorem firstAccepted_eq_some {create : UInt8 → Except PubkeyError Pubkey} {candidates : List UInt8}
    {key : Pubkey} {bump : UInt8} (h : firstAccepted create candidates = some (key, bump)) :
    create bump = .ok key := by
  induction candidates with
  | nil => simp [firstAccepted] at h
  | cons b rest ih =>
    rw [firstAccepted] at h
    split at h
    · rename_i accepted hb
      cases h
      exact hb
    · exact ih h

namespace Reference

/-- The constructors over SHA-256 and the Edwards curve.  The search makes 255 tries, so bump 0 is
never tried. -/
scoped instance : SolanaPubkey where
  createProgramAddress := createChecked sha256 Ed25519.isPoint
  tryFindProgramAddress seeds programId :=
    firstAccepted (fun bump => createChecked sha256 Ed25519.isPoint (seeds ++ [[bump]]) programId)
      (bumps 255)

scoped instance : LawfulSolanaPubkey Sha256Hasher where
  onCurve := Ed25519.isPoint
  tries := 255
  createProgramAddress_eq _ _ := rfl
  tryFindProgramAddress_eq _ _ := rfl

end Reference

end InfJup
