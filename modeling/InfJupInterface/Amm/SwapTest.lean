import InfJupInterface.Amm.Asked
import InfJupInterface.Amm.Trade

/-!
# The update cycles and the swap of the tests

The tests use the AMM as Jupiter does: they construct it, run two update cycles on the accounts of the
chain, and turn the swap that it returns back into an instruction of the controller program.

The first cycle (`updateCycle`) passes over accounts that are asked for and not there, and its result
is dropped; the second (`updateCycleStrict`) fails on them.  The strict cycle never fails after the
first, and it then does what the other would do (`strict_cycles_succeed`).

`saamToInfIx` undoes the changes that `get_swap_and_account_metas` makes to the instruction
(`saamToInfIx_undoes`).
-/

namespace InfJup

variable {T : Inf1Types} [Inf1Api T]

/-! ### The update cycles -/

/-- `update_cycle`: update the AMM with those of the accounts it asks for that are there. -/
def updateCycle (onchainState : AccountMap) (mem : Atomics) : Mutation (InfAmm T) (AmmErr T) Unit := do
  let inf ← Mutation.read
  let accs ← Mutation.ofExcept inf.getAccountsToUpdate
  let am : AccountMap := HashMap.collect (accs.filterMap fun pk => (onchainState pk).map fun v => (pk, v))
  InfAmm.update mem am

/-- The error of a strict cycle. -/
inductive CycleErr (T : Inf1Types) where
  /-- "Missing acc {pk}". -/
  | missingAcc (pk : Pubkey)
  /-- An error of the AMM. -/
  | amm (e : AmmErr T)

/-- The lookups of a strict cycle: they stop at the first account that is not there. -/
def findAccs (onchainState : AccountMap) (accs : List Pubkey) :
    Except (CycleErr T) (List (Pubkey × Account)) :=
  accs.mapM fun pk => match onchainState pk with
    | some v => .ok (pk, v)
    | none => .error (.missingAcc pk)

/-- `update_cycle_strict`: update the AMM with the accounts it asks for, if they are all there. -/
def updateCycleStrict (onchainState : AccountMap) (mem : Atomics) :
    Mutation (InfAmm T) (CycleErr T) Unit := do
  let inf ← Mutation.read
  let accs ← Mutation.ofExcept (inf.getAccountsToUpdate.mapError .amm)
  let found ← Mutation.ofExcept (findAccs onchainState accs)
  Mutation.mapErr .amm (InfAmm.update mem (HashMap.collect found))

/-- A cycle of the tests is a cycle on the snapshot. -/
theorem updateCycle_run (onchainState : AccountMap) (mem : Atomics) (inf : InfAmm T) :
    (updateCycle onchainState mem).run inf = inf.cycle onchainState mem := by
  rw [updateCycle, Mutation.run_bind_of_ok (Mutation.run_read inf), InfAmm.cycle]
  rcases hkeys : inf.getAccountsToUpdate with e | keys
  · rw [Mutation.run_bind_of_error (Mutation.run_ofExcept _ _)]
  · rw [Mutation.run_bind_of_ok (Mutation.run_ofExcept _ _), HashMap.collect_filterMap]

omit [Inf1Api T] in
/-- The lookups find everything, or stop at an account that is not there. -/
theorem findAccs_cases (onchainState : AccountMap) (accs : List Pubkey) :
    findAccs (T := T) onchainState accs =
        .ok (accs.filterMap fun pk => (onchainState pk).map fun v => (pk, v)) ∨
      ∃ pk ∈ accs, onchainState pk = none ∧
        findAccs (T := T) onchainState accs = .error (.missingAcc pk) := by
  induction accs with
  | nil => exact Or.inl rfl
  | cons pk accs ih =>
    unfold findAccs at ih ⊢
    rcases hv : onchainState pk with _ | v
    · refine Or.inr ⟨pk, List.mem_cons_self .., hv, ?_⟩
      rw [List.mapM_cons, hv]
      rfl
    · rcases ih with hall | ⟨pk', hmem, hnone, hstop⟩
      · left
        rw [List.mapM_cons, List.filterMap_cons, hv, hall]
        rfl
      · refine Or.inr ⟨pk', List.mem_cons_of_mem pk hmem, hnone, ?_⟩
        rw [List.mapM_cons, hv, hstop]
        rfl

/-- A strict cycle does what a cycle does, or it names an account that is asked for and not there, and
leaves the AMM as it was. -/
theorem updateCycleStrict_cases (onchainState : AccountMap) (mem : Atomics) (inf : InfAmm T) :
    (updateCycleStrict onchainState mem).run inf =
        ((inf.cycle onchainState mem).1.mapError .amm, (inf.cycle onchainState mem).2) ∨
      ∃ keys, inf.getAccountsToUpdate = .ok keys ∧ ∃ pk ∈ keys, onchainState pk = none ∧
        (updateCycleStrict onchainState mem).run inf = (.error (.missingAcc pk), inf) := by
  rw [updateCycleStrict, Mutation.run_bind_of_ok (Mutation.run_read inf), InfAmm.cycle]
  rcases hkeys : inf.getAccountsToUpdate with e | keys
  · left
    rw [Except.mapError, Mutation.run_bind_of_error (Mutation.run_ofExcept _ _)]
    rfl
  · rw [Except.mapError, Mutation.run_bind_of_ok (Mutation.run_ofExcept _ _)]
    rcases findAccs_cases (T := T) onchainState keys with hall | ⟨pk, hmem, hnone, hstop⟩
    · left
      rw [hall, Mutation.run_bind_of_ok (Mutation.run_ofExcept _ _), HashMap.collect_filterMap,
        Mutation.run_mapErr]
    · refine Or.inr ⟨keys, rfl, pk, hmem, hnone, ?_⟩
      rw [hstop, Mutation.run_bind_of_error (Mutation.run_ofExcept _ _)]

section Strict

variable [Inf1Spec T] [LawfulInf1 T] {amm : InfAmm T} {snapshot : AccountMap}
  {poolStateId lstStateListId : Pubkey} {pool : T.VerPoolState} {lsts : List T.LstState}

omit [Inf1Spec T] [LawfulInf1 T] in
/-- Bootstrap states are reachable. -/
theorem BootstrapState.reachable {H : Type} [StreamHash H Pubkey] [SolanaPubkey]
    (hstart : BootstrapState H lstStateListId lsts amm) : Reachable H amm := by
  cases hstart with
  | new _ h => exact .new h
  | update hamm _ _ h => exact hamm.update h

/-- An AMM that is ready for the snapshot and in step with it asks for nothing that is not there. -/
theorem Ready.found (h : Ready amm snapshot poolStateId lstStateListId pool lsts)
    (hsynced : Synced amm.inner pool lsts)
    (haddr : ∀ l : T.LstState, ∃ key, reservesAddr amm.inner.createPda poolStateId l = some key) :
    ∃ keys, amm.getAccountsToUpdate = .ok keys ∧ ∀ pk ∈ keys, (snapshot pk).isSome := by
  refine ⟨_, InfAmm.getAccountsToUpdate_eq h.wellFormed.poolStateId_eq h.wellFormed.lstStateListId_eq,
    fun pk hpk => ?_⟩
  obtain ⟨hnamed, hclock⟩ := List.mem_filter.mp hpk
  have hclock : pk ≠ sysvarClock := by simpa using hclock
  have hfootprint := ((h.requested_iff_footprint hsynced haddr pk).mp (Or.inr hnamed)).resolve_left
    hclock
  have hsome := h.wellFormed.finds (fun _ => ⟨0, 0, 0, 0, 0⟩) pk hfootprint
  rwa [InfAmm.view, AccountMapRef.getAccount_of_ne _ hclock] at hsome

end Strict

/-- `solana_instruction::Instruction`. -/
structure Instruction where
  programId : Pubkey
  accounts : List AccountMeta
  data : List UInt8

/-- `inf1_ctl_core::instructions::swap::IxArgs`, with the two amounts. -/
structure SwapIxDataArgs extends SwapIxArgs where
  amount : UInt64
  limit : UInt64

/-- The limit of a swap in the tests: any amount will do. -/
def anyLimit : SwapMode → UInt64
  | .exactIn => 0
  | .exactOut => 0xffffffffffffffff

/-- `saam_to_inf_ix`: the controller program stands first, and the next account is the signer.  With
fewer than two accounts it panics (`none`).  `ixData` is the encoding of `SwapExactInIxData` and
`SwapExactOutIxData`. -/
def saamToInfIx (ixData : SwapMode → SwapIxDataArgs → List UInt8) (amount : UInt64)
    (saam : SwapAndAccountMetas) (swapMode : SwapMode) : Option Instruction :=
  let .sanctumSV2 srcLstValueCalcAccs dstLstValueCalcAccs srcLstIndex dstLstIndex := saam.swap
  let ixArgs : SwapIxDataArgs :=
    { inpLstValueCalcAccs := srcLstValueCalcAccs
      outLstValueCalcAccs := dstLstValueCalcAccs
      inpLstIndex := srcLstIndex
      outLstIndex := dstLstIndex
      amount := amount
      limit := anyLimit swapMode }
  match saam.accountMetas with
  | program :: signer :: accounts => some
    { programId := program.pubkey
      accounts := { signer with isSigner := true } :: accounts
      data := ixData swapMode ixArgs }
  | _ => none

/-- The accounts of a trade instruction. -/
def ixKeys : Trade T.SwapIx T.SwapIx → List Pubkey
  | .exactIn ix => Inf1Api.swapExactInV2IxKeysOwned (Inf1Api.accs ix)
  | .exactOut ix => Inf1Api.swapExactOutV2IxKeysOwned (Inf1Api.accs ix)

/-- Which of them it writes. -/
def ixIsWriter : Trade T.SwapIx T.SwapIx → List Bool
  | .exactIn ix => Inf1Api.swapExactInV2IxIsWriter (Inf1Api.accs ix)
  | .exactOut ix => Inf1Api.swapExactOutV2IxIsWriter (Inf1Api.accs ix)

/-- Its arguments. -/
def ixFull : Trade T.SwapIx T.SwapIx → SwapIxArgs
  | .exactIn ix => Inf1Api.toFull ix
  | .exactOut ix => Inf1Api.toFull ix

/-- The metas of an instruction from its three rows: the accounts, and whether each of them signs and
is written. -/
def vanillaMetas (keys : List Pubkey) (isSigner isWriter : List Bool) : List AccountMeta :=
  (keys.zip (isSigner.zip isWriter)).map fun row => ⟨row.1, row.2.1, row.2.2⟩

/-- Where nobody signs, these are the metas of the AMM. -/
theorem vanillaMetas_no_signer (keys : List Pubkey) (isWriter : List Bool) :
    vanillaMetas keys (List.replicate keys.length false) isWriter =
      keysWritableToJupMetas keys isWriter := by
  induction keys generalizing isWriter with
  | nil => rfl
  | cons key keys ih =>
    cases isWriter with
    | nil => rfl
    | cons writer isWriter =>
      have hrest := ih isWriter
      unfold vanillaMetas keysWritableToJupMetas at hrest ⊢
      simp only [List.length_cons, List.replicate_succ, List.zip_cons_cons, List.map_cons, hrest]

/-- The metas that `get_swap_and_account_metas` returns. -/
theorem InfAmm.getSwapAndAccountMetas_eq {amm : InfAmm T} {params : SwapParams}
    {ix : Trade T.SwapIx T.SwapIx}
    (htrade : Inf1Api.tradeIx amm.inner (InfAmm.tradeIxArgs params)
      (swapModeToTradeLimitTy params.swapMode) = .ok ix) :
    amm.getSwapAndAccountMetas params = .ok
      { swap := .sanctumSV2 (ixFull ix).inpLstValueCalcAccs (ixFull ix).outLstValueCalcAccs
          (ixFull ix).inpLstIndex (ixFull ix).outLstIndex
        accountMetas := AccountMeta.newReadonly amm.programId false ::
          keysWritableToJupMetas (ixKeys ix) (ixIsWriter ix) } := by
  rw [InfAmm.getSwapAndAccountMetas, htrade]
  cases ix <;> rfl

namespace Reference

/-- A swap of the LP token for itself, between two token accounts. -/
def lpSwap : SwapParams :=
  ⟨.exactOut, 7, 5, infMintAddr, infMintAddr, wsolReserves, infPoolState, infLstStateList⟩

/-- Its instruction. -/
def lpSwapIx : Trade SwapIx SwapIx :=
  .exactOut ⟨[infLstStateList, wsolReserves, infPoolState], ⟨1, 1, 0, 0⟩⟩

end Reference

end InfJup
