import InfJupInterface.Amm.Reachable

/-!
# What an update is asked for

The accounts that `get_accounts_to_update` names, in terms of what is stored: the two addresses,
the LP token mint, the accounts of the pricing program, and for every listed LST with a calculator
its pool reserves and the accounts of the calculator.  `SYSVAR_CLOCK` is never among them.
-/

namespace InfJup

variable {T : Inf1Types}

/-- The address of the pool reserves is always some address: `create_raw_pda` does not fail. -/
theorem exists_reservesAddr [Inf1Spec T] (H : Type) [StreamHash H Pubkey] (poolStateId : Pubkey) (l : T.LstState) :
    ∃ key, reservesAddr (createRawPda H) poolStateId l = some key :=
  ⟨_, rfl⟩

variable [Inf1Api T] [Inf1Spec T] [LawfulInf1 T]

namespace InfAmm

/-- The list that the AMM goes by is the stored one. -/
theorem lstStates_eq (s : InfStd T) :
    lstStates s = (Inf1Api.lstStatePackedListOfAccData s.lstStateListData).getD [] := by
  rw [← LawfulInf1.tryLstStateList_toOption, lstStates]
  cases Inf1Api.tryLstStateList s <;> rfl

/-- An LST without a calculator asks for nothing. -/
theorem lstAccountsToUpdate_of_none {s : InfStd T} {l : T.LstState}
    (h : s.lstCalcs (Inf1Api.mint l) = none) : lstAccountsToUpdate s l = [] := by
  obtain ⟨e, he⟩ := LawfulInf1.accountsToUpdateLst_of_none h
  rw [lstAccountsToUpdate, he]

section Named

variable {amm : InfAmm T} {s : InfStd T} {poolStateId lstStateListId : Pubkey}

/-- An LST with a calculator asks for its pool reserves and the accounts of the calculator. -/
theorem lstAccountsToUpdate_of_some {bump : UInt8} {l : T.LstState} {c : T.SvcAg} {key : Pubkey}
    (hpda : Inf1Api.findPoolState s = some (poolStateId, bump))
    (h : s.lstCalcs (Inf1Api.mint l) = some c)
    (hkey : reservesAddr s.createPda poolStateId l = some key) :
    lstAccountsToUpdate s l = key :: Inf1Spec.accountsToUpdateSvc c := by
  rw [lstAccountsToUpdate, LawfulInf1.accountsToUpdateLst_of_some hpda h hkey]

omit [Inf1Spec T] [LawfulInf1 T] in
/-- What the AMM asks for. -/
theorem getAccountsToUpdate_eq (hpool : amm.poolStateId = .ok poolStateId)
    (hlist : amm.lstStateListId = .ok lstStateListId) :
    amm.getAccountsToUpdate = .ok ((namedAccounts amm.inner poolStateId lstStateListId).filter
      fun pk => pk ≠ sysvarClock) := by
  rw [getAccountsToUpdate, hpool, hlist]
  rfl

end Named

end InfAmm

/-- The list of a state that stores what was fetched. -/
theorem StoresFetched.lstStates_eq {poolStateId lstStateListId : Pubkey} {fetched : UpdateMap}
    {lsts : List T.LstState} {s : InfStd T}
    (hs : StoresFetched poolStateId lstStateListId fetched lsts s) : InfAmm.lstStates s = lsts := by
  rw [InfAmm.lstStates_eq, hs.decodes]
  rfl

end InfJup
