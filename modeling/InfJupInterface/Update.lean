import InfJupInterface.Clock
import InfJupInterface.Inf1Std.Interface

/-!
# The fetched accounts

`AccountMapRef` is how an update looks up accounts: the account map that Jupiter passes in, with
the synthetic Clock account in the place of `SYSVAR_CLOCK`.
-/

namespace InfJup

/-- `SYSVAR_CLOCK`, the address `SysvarC1ock11111111111111111111111111111111`. -/
def sysvarClock : Pubkey :=
  #v[6, 167, 213, 23, 24, 199, 116, 201, 40, 86, 99, 152, 105, 29, 94, 182, 139, 94, 184, 163, 155,
    75, 109, 92, 115, 85, 91, 33, 0, 0, 0, 0]

/-- `AccountMapRef`: an account map and the Clock account that goes with it. -/
structure AccountMapRef where
  accountMap : AccountMap
  clock : Account

namespace AccountMapRef

/-- `AccountMapRef::get_account`: the Clock account never comes from the account map. -/
def getAccount (fetched : AccountMapRef) : UpdateMap := fun pk =>
  if pk = sysvarClock then some fetched.clock else fetched.accountMap pk

@[simp] theorem getAccount_sysvarClock (fetched : AccountMapRef) :
    fetched.getAccount sysvarClock = some fetched.clock := by
  simp [getAccount]

theorem getAccount_of_ne (fetched : AccountMapRef) {pk : Pubkey} (h : pk ≠ sysvarClock) :
    fetched.getAccount pk = fetched.accountMap pk := by
  simp [getAccount, h]

end AccountMapRef

end InfJup
