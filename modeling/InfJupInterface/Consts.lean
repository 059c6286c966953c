import InfJupInterface.Inf1Std.Interface

/-!
# Constants

The controller programs the AMM supports, and the bootstrap pool of each.
-/

namespace InfJup

/-- `LABEL`. -/
def infLabel : String := "Sanctum Infinity"

/-- `RESERVE_V2_LABEL`. -/
def reserveV2Label : String := "Sanctum Reserve V2"

/-- `INF_PROGRAM_ID`, the address `5ocnV1qiCgaQR8Jb8xWnVbApfaygJ8tNoZfgPwsgx9kx`. -/
def infProgramId : Pubkey :=
  #v[71, 95, 237, 29, 192, 255, 243, 155, 191, 35, 123, 25, 170, 151, 71, 251, 86, 212, 176, 221,
    242, 51, 162, 19, 67, 201, 66, 214, 78, 24, 131, 221]

/-- `RESERVE_V2_PROGRAM_ID`, the address `un27kVAKYscfzvrkNeYkNZ74tW9o4txuArAweftjakw`. -/
def reserveV2ProgramId : Pubkey :=
  #v[13, 133, 27, 1, 230, 23, 11, 31, 185, 136, 0, 245, 38, 209, 55, 117, 224, 205, 248, 5, 177, 126,
    84, 208, 129, 238, 217, 145, 98, 133, 171, 88]

/-- `INF_MINT_ADDR`, the address `5oVNBeEEQvYi1cX3ir8Dx5n1P7pdxydbGF2X4TxVusJm`. -/
def infMintAddr : Pubkey :=
  #v[71, 87, 137, 159, 184, 190, 219, 162, 135, 120, 170, 205, 103, 229, 104, 231, 52, 112, 204, 233,
    11, 205, 83, 43, 108, 182, 24, 41, 118, 40, 130, 78]

/-- `RESERVE_V2_MINT_ADDR`. -/
def reserveV2MintAddr : Pubkey :=
  #v[6, 131, 52, 17, 160, 35, 141, 250, 133, 104, 54, 252, 235, 26, 24, 122, 85, 176, 113, 160,
    83, 73, 152, 183, 203, 172, 1, 69, 243, 108, 225, 55]

/-- `inf1_pp_reserve_v2_core::ID`, the address `uppoVuoFZuXisHkrxCU96VvNibU6vzxkEpeH3WbmnEn`. -/
def reserveV2PricingProgramId : Pubkey :=
  #v[13, 136, 70, 235, 114, 155, 47, 0, 131, 60, 201, 37, 240, 107, 237, 233, 203, 72, 138, 29,
    176, 119, 252, 40, 205, 168, 46, 151, 62, 154, 220, 19]

/-- `initial_pool`: a pool state with the mainnet values of the fields that
`get_accounts_to_update` uses.  The first update replaces it with the state on chain. -/
def initialPool {T : Inf1Types} [Inf1Api T] (programId : Pubkey) : Option T.VerPoolState :=
  if programId = infProgramId then
    some (Inf1Api.verPoolStateV2
      (Inf1Api.poolStateV2 2 (Inf1Api.flatFeeProgramId T) infMintAddr))
  else if programId = reserveV2ProgramId then
    some (Inf1Api.verPoolStateV2
      (Inf1Api.poolStateV2 2 reserveV2PricingProgramId reserveV2MintAddr))
  else
    none

end InfJup
