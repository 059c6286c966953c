import InfJupInterface.Consts
import InfJupInterface.Control.TryForEach
import InfJupInterface.Inf1Std.Laws
import InfJupInterface.Pda
import InfJupInterface.Update

/-!
# The AMM

`InfAmm` wraps the state of `inf1_std` for Jupiter.  Jupiter constructs it from the LST state list
account, asks it for the accounts it wants (`getAccountsToUpdate`), hands over those accounts
(`update`), and asks for quotes and swap instructions in between.

An update changes the state in place, field by field, and stops at the first error; what it has
written by then stays.  It is therefore a `Mutation`: the state left behind is part of the
outcome of a failed update too.
-/

namespace InfJup

/-- `jup_interface::InfAmm`. -/
structure InfAmm (T : Inf1Types) where
  inner : InfStd T
  clockRef : ClockRef

/-- The `anyhow` errors of the AMM, by the place they come from, and its panics. -/
inductive AmmErr (T : Inf1Types) where
  /-- `expect` on a `None`. -/
  | panic (msg : String)
  /-- "Unsupported controller program: {program_id}". -/
  | unsupportedControllerProgram (programId : Pubkey)
  /-- "Incorrect LST state list keyed_account". -/
  | incorrectLstStateList
  /-- "LstStatePackedList::of_acc_data failed". -/
  | lstStatePackedListOfAccData
  /-- A formatted `InfErr`. -/
  | inf (e : InfErr T)
  /-- A formatted `UpdateErr<InfErr>`. -/
  | update (e : UpdateErr (InfErr T))

variable {T : Inf1Types} [Inf1Api T]

/-! ### Construction -/

/-- The step of the loop in `InfAmm::new`: the calculator of one LST.  An LST without the necessary
SPL data is passed over. -/
def initLstSvc (lstState : T.LstState) : Mutation (InfStd T) (InfErr T) Unit := fun inner =>
  match (Inf1Api.tryGetOrInitLstSvc lstState).run inner with
  | (.ok _, inner) => (.ok (), inner)
  | (.error (.missingSplData _), inner) => (.ok (), inner)
  | (.error e, inner) => (.error e, inner)

/-- The first half of `InfAmm::new`: the state of `inf1_std` with both addresses cached. -/
def InfAmm.newInner (findPda : FindPda) (createPda : CreatePda) (keyedAccount : KeyedAccount)
    (splLsts : HashMap Pubkey Pubkey) : Except (AmmErr T) (InfStd T) :=
  let programId := keyedAccount.account.owner
  match initialPool programId with
  | none => .error (.unsupportedControllerProgram programId)
  | some initialPool =>
    match Inf1Api.new (some programId) initialPool keyedAccount.account.data none none
        HashMap.empty HashMap.empty splLsts findPda createPda with
    | .error e => .error (.inf e)
    | .ok inner =>
      match Inf1Api.findCacheLstStateList inner with
      | (none, _) => .error (.inf .noValidPda)
      | (some (lstStateListId, _), inner) =>
        match Inf1Api.findCachePoolState inner with
        | (none, _) => .error (.inf .noValidPda)
        | (some _, inner) =>
          if keyedAccount.key ≠ lstStateListId then .error .incorrectLstStateList else .ok inner

/-- `InfAmm::new`: the AMM for the LST state list account of a controller program.  The pool is the
bootstrap pool, and every LST on the list gets its calculator, so that the first update does not
fail for the lack of it.  `H` is the hasher of `create_raw_pda`. -/
def InfAmm.new (H : Type) [StreamHash H Pubkey] [SolanaPubkey] (keyedAccount : KeyedAccount)
    (clockRef : ClockRef) (splLsts : HashMap Pubkey Pubkey) : Except (AmmErr T) (InfAmm T) :=
  match InfAmm.newInner findPda (createRawPda H) keyedAccount splLsts with
  | .error e => .error e
  | .ok inner =>
    match Inf1Api.lstStatePackedListOfAccData keyedAccount.account.data with
    | none => .error .lstStatePackedListOfAccData
    | some lstStateList =>
      match (Mutation.tryForEach initLstSvc lstStateList).run inner with
      | (.error e, _) => .error (.inf e)
      | (.ok _, inner) => .ok ⟨inner, clockRef⟩

namespace InfAmm

/-! ### What the AMM asks for -/

/-- `pool_state_id`. -/
def poolStateId (amm : InfAmm T) : Except (AmmErr T) Pubkey :=
  match Inf1Api.findPoolState amm.inner with
  | some (key, _) => .ok key
  | none => .error (.panic "pool state PDA cached in InfAmm::new")

/-- `lst_state_list_id`. -/
def lstStateListId (amm : InfAmm T) : Except (AmmErr T) Pubkey :=
  match Inf1Api.findLstStateList amm.inner with
  | some (key, _) => .ok key
  | none => .error (.panic "LST state list PDA cached in InfAmm::new")

/-- `PROGRAM_ID_TO_LABELS`. -/
def programIdToLabels : List (Pubkey × String) :=
  [(infProgramId, infLabel), (reserveV2ProgramId, reserveV2Label)]

/-- `program_id`. -/
def programId (amm : InfAmm T) : Pubkey := amm.inner.progId

/-- `label`. -/
def label (amm : InfAmm T) : Except (AmmErr T) String :=
  match programIdToLabels.find? fun entry => entry.1 = amm.programId with
  | some (_, label) => .ok label
  | none => .error (.panic "program ID missing from InfAmm::PROGRAM_ID_TO_LABELS")

/-- `key`: each controller program has one pool, identified by its LST state list account. -/
def key (amm : InfAmm T) : Except (AmmErr T) Pubkey := amm.lstStateListId

/-- The stored LST state list, or the empty list if the stored data does not decode. -/
def lstStates (inner : InfStd T) : List T.LstState :=
  match Inf1Api.tryLstStateList inner with
  | .ok lsts => lsts
  | .error _ => []

/-- `get_reserve_mints`. -/
def getReserveMints (amm : InfAmm T) : List Pubkey :=
  (lstStates amm.inner).map Inf1Api.mint ++ [Inf1Api.lpTokenMint amm.inner.pool]

/-- The accounts named for one LST: none, if it has no calculator yet. -/
def lstAccountsToUpdate (inner : InfStd T) (lst : T.LstState) : List Pubkey :=
  match Inf1Api.accountsToUpdateLst inner lst with
  | .ok keys => keys
  | .error _ => []

/-- The accounts named before `SYSVAR_CLOCK` is taken out. -/
def namedAccounts (inner : InfStd T) (poolStateId lstStateListId : Pubkey) : List Pubkey :=
  [poolStateId, lstStateListId, Inf1Api.lpTokenMint inner.pool] ++
    Inf1Api.accountsToUpdateAll inner.pricing ((lstStates inner).map Inf1Api.mint) ++
    (lstStates inner).flatMap (lstAccountsToUpdate inner)

/-- `get_accounts_to_update`. -/
def getAccountsToUpdate (amm : InfAmm T) : Except (AmmErr T) (List Pubkey) := do
  let poolStateId ← amm.poolStateId
  let lstStateListId ← amm.lstStateListId
  pure ((namedAccounts amm.inner poolStateId lstStateListId).filter fun pk => pk ≠ sysvarClock)

end InfAmm

/-! ### The update -/

/-- The first half of the per-LST step: the pool reserves of the LST. -/
def updateReservesOf (createPda : CreatePda) (poolStateId : Pubkey) (fetched : UpdateMap)
    (lstState : T.LstState) : Mutation (LstMaps T) (UpdateErr (InfErr T)) Unit :=
  Mutation.zoom LstMaps.lstReserves (fun lstReserves m => { m with lstReserves := lstReserves })
    (Inf1Api.updateLstReserves createPda poolStateId lstState fetched)

/-- The second half of the per-LST step: the calculator of the LST, updated in place.  An LST
without the necessary SPL data loses its calculator, and the step goes through. -/
def updateCalcOf (splLsts : HashMap Pubkey Pubkey) (fetched : UpdateMap) (lstState : T.LstState) :
    Mutation (LstMaps T) (UpdateErr (InfErr T)) Unit := fun m =>
  match (Inf1Api.tryGetOrInitLstSvcStatic splLsts lstState).run m.lstCalcs with
  | (.ok svc, lstCalcs) =>
    let updated := (Inf1Api.updateSvc fetched).run svc
    (updated.1.mapError (UpdateErr.mapInner .updateSvc),
      { m with lstCalcs := lstCalcs.insert (Inf1Api.mint lstState) updated.2 })
  | (.error (.missingSplData _), lstCalcs) =>
    (.ok (), { m with lstCalcs := lstCalcs.remove (Inf1Api.mint lstState) })
  | (.error e, lstCalcs) => (.error (.inner e), { m with lstCalcs := lstCalcs })

/-- The step of the loop in `update`. -/
def updateLst (createPda : CreatePda) (splLsts : HashMap Pubkey Pubkey) (poolStateId : Pubkey)
    (fetched : UpdateMap) (lstState : T.LstState) :
    Mutation (LstMaps T) (UpdateErr (InfErr T)) Unit := do
  updateReservesOf createPda poolStateId fetched lstState
  updateCalcOf splLsts fetched lstState

/-- The part of `update` before the loop: the fields of the pool as a whole.  It returns the list
that the loop runs over. -/
def updateWholePool (lstStateListId : Pubkey) (fetched : UpdateMap) :
    Mutation (InfStd T) (AmmErr T) (List T.LstState) := do
  Mutation.mapErr .update (Inf1Api.updatePool fetched)
  Mutation.mapErr .update (Inf1Api.updateLstStateList fetched)
  Mutation.mapErr .update (Inf1Api.updateLpTokenSupply fetched)
  let inner ← Mutation.read
  let allLstStates ← Mutation.ofExcept
    (match Inf1Api.lstStatePackedListOfAccData inner.lstStateListData with
    | some lsts => .ok lsts
    | none => .error (.inf (.accDeser lstStateListId)))
  Mutation.zoom InfStd.pricing (fun pricing inner => { inner with pricing := pricing })
    (Mutation.mapErr (fun e => .update (e.mapInner .updatePp))
      (Inf1Api.updateAll (allLstStates.map Inf1Api.mint) fetched))
  pure allLstStates

/-- The loop of `update`. -/
def updateLsts (poolStateId : Pubkey) (fetched : UpdateMap) (allLstStates : List T.LstState) :
    Mutation (InfStd T) (AmmErr T) Unit := do
  let inner ← Mutation.read
  Mutation.zoom InfStd.lstMaps InfStd.setLstMaps
    (Mutation.mapErr .update
      (Mutation.tryForEach (updateLst inner.createPda inner.splLsts poolStateId fetched) allLstStates))

/-- `update`, on the state of `inf1_std`. -/
def updateInner (poolStateId lstStateListId : Pubkey) (fetched : UpdateMap) :
    Mutation (InfStd T) (AmmErr T) Unit := do
  let allLstStates ← updateWholePool lstStateListId fetched
  updateLsts poolStateId fetched allLstStates

namespace InfAmm

/-- What an update looks accounts up in. -/
def fetched (amm : InfAmm T) (mem : Atomics) (accountMap : AccountMap) : AccountMapRef :=
  ⟨accountMap, simClock mem amm.clockRef⟩

/-- `update`. -/
def update (mem : Atomics) (accountMap : AccountMap) : Mutation (InfAmm T) (AmmErr T) Unit := do
  let amm ← Mutation.read
  let poolStateId ← Mutation.ofExcept amm.poolStateId
  let lstStateListId ← Mutation.ofExcept amm.lstStateListId
  Mutation.zoom InfAmm.inner (fun inner amm => { amm with inner := inner })
    (updateInner poolStateId lstStateListId (amm.fetched mem accountMap).getAccount)

end InfAmm

end InfJup
