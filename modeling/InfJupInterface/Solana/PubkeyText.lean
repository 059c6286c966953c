import InfJupInterface.Consts
import InfJupInterface.Data.Base58
import InfJupInterface.Update

/-!
# The text of a public key

Public keys are displayed in base 58, and read from it.
-/

namespace InfJup

/-- `std::fmt::Display`. -/
class Display (α : Type) where
  /-- `to_string`. -/
  toText : α → String

export Display (toText)

/-- A public key is displayed in base 58. -/
instance : Display Pubkey where
  toText pk := String.ofList (Base58.encode pk.toList)

/-- `Pubkey::from_str`: the key of a text in base 58, if it stands for 32 bytes. -/
def Pubkey.fromStr (text : String) : Option Pubkey := do
  let bytes ← Base58.decode text.toList
  if h : bytes.length = 32 then some ⟨bytes.toArray, h⟩ else none

/-- **A key is read from its text.** -/
theorem Pubkey.fromStr_toText (pk : Pubkey) : Pubkey.fromStr (toText pk) = some pk := by
  have hlength : pk.toList.length = 32 := pk.length_toList
  simp only [Pubkey.fromStr, toText, String.toList_ofList, Base58.decode_encode,
    Option.bind_eq_bind, Option.bind_some, dif_pos hlength]
  rfl

/-! The constants of the source are written as texts. -/

example : Pubkey.fromStr "5ocnV1qiCgaQR8Jb8xWnVbApfaygJ8tNoZfgPwsgx9kx" = some infProgramId := by
  decide +kernel

example : Pubkey.fromStr "un27kVAKYscfzvrkNeYkNZ74tW9o4txuArAweftjakw" = some reserveV2ProgramId := by
  decide +kernel

example : Pubkey.fromStr "5oVNBeEEQvYi1cX3ir8Dx5n1P7pdxydbGF2X4TxVusJm" = some infMintAddr := by
  decide +kernel

example : Pubkey.fromStr "SysvarC1ock11111111111111111111111111111111" = some sysvarClock := by
  decide +kernel

end InfJup
