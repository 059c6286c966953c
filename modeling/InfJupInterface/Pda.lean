import InfJupInterface.Solana.Pubkey

/-!
# Program-derived addresses

Two ways to compute a program-derived address.  `findPda` goes through the checked search of
`solana_pubkey`; `createRawPda` hashes without any check, and is only to be used on seeds that
are known to give a valid address.
-/

namespace InfJup

/-- `create_raw_pda`: hash the seeds one at a time, then the program id and the marker.  The hasher
`H` is the one of `solana_sha256_hasher`. -/
def createRawPda (H : Type) [StreamHash H Pubkey] (seeds : List (List UInt8)) (programId : Pubkey) :
    Option Pubkey :=
  let hasher : H := seeds.foldl StreamHash.hash StreamHash.fresh
  let hasher := StreamHash.hashv hasher [programId.toList, pdaMarker]
  some (StreamHash.result hasher)

/-- `find_pda`. -/
def findPda [SolanaPubkey] (seeds : List (List UInt8)) (programId : Pubkey) :
    Option (Pubkey × UInt8) :=
  (tryFindProgramAddress seeds programId).map fun (pk, bump) => (pk, bump)

section Lawful

variable {H : Type} [StreamHash H Pubkey] [LawfulStreamHash H]

/-- The raw address is the digest of the seeds, the program id and the marker. -/
theorem createRawPda_eq (seeds : List (List UInt8)) (programId : Pubkey) :
    createRawPda H seeds programId =
      some (LawfulStreamHash.digest H (seeds.flatten ++ programId.toList ++ pdaMarker)) := by
  have h := LawfulStreamHash.result_hashv_foldl_hash (H := H) seeds [programId.toList, pdaMarker]
  rw [createRawPda, h]
  simp [List.append_assoc]

/-- An accepted address is the one the raw path computes. -/
theorem createRawPda_of_createProgramAddress [SolanaPubkey] [LawfulSolanaPubkey H]
    {seeds : List (List UInt8)} {programId key : Pubkey}
    (h : createProgramAddress seeds programId = .ok key) :
    createRawPda H seeds programId = some key := by
  rw [LawfulSolanaPubkey.createProgramAddress_eq (H := H)] at h
  rw [createRawPda_eq, createChecked_eq_ok h]

end Lawful

/-- **The raw path agrees with the checked one.**  A found address is the raw address of the seeds
followed by the bump, and whenever the checked constructor succeeds the raw one returns the same
address. -/
theorem createRawPda_agrees (H : Type) [StreamHash H Pubkey] [LawfulStreamHash H] [SolanaPubkey]
    [LawfulSolanaPubkey H] :
    (∀ (seeds : List (List UInt8)) (programId key : Pubkey) (bump : UInt8),
      findPda seeds programId = some (key, bump) →
        createRawPda H (seeds ++ [[bump]]) programId = some key) ∧
    (∀ (seeds : List (List UInt8)) (programId key : Pubkey),
      createProgramAddress seeds programId = .ok key →
        createRawPda H seeds programId = some key) := by
  refine ⟨?_, fun seeds programId key h => createRawPda_of_createProgramAddress h⟩
  intro seeds programId key bump h
  have hfind : tryFindProgramAddress seeds programId = some (key, bump) := by
    simpa [findPda] using h
  rw [LawfulSolanaPubkey.tryFindProgramAddress_eq (H := H)] at hfind
  exact createRawPda_of_createProgramAddress (firstAccepted_eq_some hfind)

open Reference in
/-- The pool state address of the program `5ocnV1qiCgaQR8Jb8xWnVbApfaygJ8tNoZfgPwsgx9kx`, found under
the seed `state` with bump 255. -/
theorem createRawPda_agrees_pool_state :
    createRawPda Sha256Hasher ([[115, 116, 97, 116, 101]] ++ [[255]])
      #v[71, 95, 237, 29, 192, 255, 243, 155, 191, 35, 123, 25, 170, 151, 71, 251, 86, 212, 176,
        221, 242, 51, 162, 19, 67, 201, 66, 214, 78, 24, 131, 221] =
      some #v[141, 216, 114, 163, 183, 21, 222, 209, 212, 96, 52, 63, 245, 186, 74, 40, 16, 46, 57,
        2, 71, 37, 137, 95, 235, 199, 169, 199, 151, 33, 51, 211] :=
  (createRawPda_agrees Sha256Hasher).1 [[115, 116, 97, 116, 101]] _ _ 255 (by decide +kernel)

end InfJup
