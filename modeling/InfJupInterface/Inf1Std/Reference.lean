import InfJupInterface.Consts
import InfJupInterface.Inf1Std.Laws
import InfJupInterface.Pda
import InfJupInterface.Update

/-!
# A reference instance

An executable instance of the interface, and its laws (`Reference.lawfulInf1`).  It has the account
layouts, program ids and addresses of the pool on chain, two pricing programs and four kinds of sol
value calculators.  Pricing programs and calculators keep the data of their accounts as it is, and
trades are at par.

The addresses come from SHA-256 and the Edwards curve.
-/

namespace InfJup

namespace Reference

/-! ### The data -/

/-- A pool state, of version 1 or 2. -/
structure PoolState where
  version : UInt8
  pricingProgram : Pubkey
  lpTokenMint : Pubkey
  /-- Zero in version 1, which does not have it. -/
  lastReleaseSlot : UInt64
  deriving DecidableEq

/-- An entry of the LST state list. -/
structure LstState where
  poolReservesBump : UInt8
  mint : Pubkey
  solValueCalculator : Pubkey
  deriving DecidableEq

/-- A pricing program, with the data of its accounts. -/
structure PricingAg where
  programId : Pubkey
  fetched : HashMap Pubkey (List UInt8)

/-- A sol value calculator, with its accounts and their data. -/
structure SvcAg where
  program : Pubkey
  accounts : List Pubkey
  fetched : List (List UInt8)

/-- A swap instruction. -/
structure SwapIx where
  accs : List Pubkey
  args : SwapIxArgs

/-- The types of the instance. -/
abbrev inf1 : Inf1Types where
  VerPoolState := PoolState
  PoolStateV2 := PoolState
  LstState := LstState
  Reserves := UInt64
  PricingAg := PricingAg
  SvcAg := SvcAg
  SwapIx := SwapIx
  SwapIxAccs := List Pubkey
  PricingProgErr := Unit
  RebalanceQuoteErr := Unit
  SwapQuoteErr := Unit
  UpdatePpErr := Unit
  UpdateSvcErr := Unit
  CtlErr := Unit

/-- The public key at an offset of account data. -/
def pubkeyAt (data : List UInt8) (offset : ℕ) : Pubkey :=
  Vector.ofFn fun i : Fin 32 => data.getD (offset + i.val) 0

/-- The `u64` at an offset of account data. -/
def u64At (data : List UInt8) (offset : ℕ) : UInt64 :=
  u64OfLeBytes (Vector.ofFn fun i : Fin 8 => data.getD (offset + i.val) 0)

/-- A pool state account has 176 bytes in version 1 and 240 bytes in version 2. -/
def poolOfAccData (data : List UInt8) : Option PoolState :=
  if data.length = 176 then
    some ⟨data.getD 12 0, pubkeyAt data 112, pubkeyAt data 144, 0⟩
  else if data.length = 240 then
    some ⟨data.getD 12 0, pubkeyAt data 112, pubkeyAt data 144, u64At data 232⟩
  else none

/-- The entry at a position of the LST state list. -/
def entryAt (data : List UInt8) (i : ℕ) : LstState :=
  ⟨data.getD (80 * i + 1) 0, pubkeyAt data (80 * i + 16), pubkeyAt data (80 * i + 48)⟩

/-- The LST state list is a packed list of entries of 80 bytes. -/
def lstStatePackedListOfAccData (data : List UInt8) : Option (List LstState) :=
  if data.length % 80 = 0 then some ((List.range (data.length / 80)).map (entryAt data)) else none

/-- The supply stands at offset 36 of a mint account. -/
def supplyOfAccData (data : List UInt8) : Option UInt64 :=
  if 82 ≤ data.length then some (u64At data 36) else none

/-- The balance stands at offset 64 of a token account. -/
def balanceOfAccData (data : List UInt8) : Option UInt64 :=
  if 165 ≤ data.length then some (u64At data 64) else none

/-- The data of the given accounts, or the first one that is missing. -/
def readAll (fetched : UpdateMap) : List Pubkey → Except Pubkey (List (List UInt8))
  | [] => .ok []
  | key :: keys =>
    match fetched key with
    | none => .error key
    | some acc => (readAll fetched keys).map fun data => acc.data :: data

/-- What was read was there. -/
theorem readAll_isSome {fetched : UpdateMap} {keys : List Pubkey} {data : List (List UInt8)}
    (h : readAll fetched keys = .ok data) : ∀ key ∈ keys, (fetched key).isSome := by
  induction keys generalizing data with
  | nil => simp
  | cons k ks ih =>
    unfold readAll at h
    split at h
    · cases h
    · rename_i acc hacc
      rcases hrest : readAll fetched ks with e | rest
      · rw [hrest] at h
        cases h
      · intro key hkey
        rcases List.mem_cons.mp hkey with rfl | hkey
        · rw [hacc]
          rfl
        · exact ih hrest key hkey

/-- Reading depends on the accounts read. -/
theorem readAll_congr {fetched fetched' : UpdateMap} {keys : List Pubkey}
    (h : ∀ key ∈ keys, fetched key = fetched' key) : readAll fetched keys = readAll fetched' keys := by
  induction keys with
  | nil => rfl
  | cons k ks ih =>
    rw [readAll, readAll, h k List.mem_cons_self, ih fun key hkey => h key (List.mem_cons_of_mem k hkey)]

/-! ### Pricing programs -/

/-- The pricing program with a flat fee per LST. -/
def flatFeeProgramId : Pubkey :=
  #v[9, 189, 19, 7, 43, 38, 253, 101, 178, 196, 239, 148, 28, 21, 207, 91, 113, 25, 124, 248, 97, 108,
    239, 200, 254, 120, 135, 24, 116, 172, 138, 90]

/-- Its state, the address with the seed `state`. -/
def flatFeeState : Pubkey :=
  #v[190, 120, 117, 138, 48, 109, 182, 62, 204, 190, 226, 25, 20, 167, 179, 226, 107, 248, 99, 172,
    184, 239, 91, 182, 137, 194, 79, 145, 177, 225, 35, 251]

/-- Its account for an LST, the address with the seeds `fee` and the mint. -/
def feeAccount (mint : Pubkey) : Option Pubkey :=
  (tryFindProgramAddress [[102, 101, 101], mint.toList] flatFeeProgramId).map Prod.fst

/-- The pricing program with all fees in one account, the slab. -/
def flatSlabProgramId : Pubkey :=
  #v[12, 207, 180, 128, 111, 21, 163, 207, 146, 194, 91, 245, 76, 167, 197, 210, 16, 12, 203, 195, 193,
    198, 150, 214, 244, 19, 160, 68, 119, 195, 98, 254]

/-- The slab, the address with the seed `slab`. -/
def slab : Pubkey :=
  #v[51, 69, 212, 196, 115, 210, 122, 72, 196, 161, 34, 146, 217, 30, 167, 11, 43, 245, 250, 224, 248,
    25, 97, 65, 104, 189, 255, 228, 71, 24, 163, 150]

/-- The accounts of a pricing program for the given mints. -/
def pricingAccounts (programId : Pubkey) (mints : List Pubkey) : List Pubkey :=
  if programId = flatFeeProgramId then flatFeeState :: mints.filterMap feeAccount
  else if programId = flatSlabProgramId then [slab]
  else []

/-- The accounts for one of the mints are among those for all of them. -/
theorem pricingAccounts_subset {programId mint key : Pubkey} {mints : List Pubkey} (hmint : mint ∈ mints)
    (hkey : key ∈ pricingAccounts programId [mint]) : key ∈ pricingAccounts programId mints := by
  unfold pricingAccounts at hkey ⊢
  split at hkey
  · rename_i hprogram
    rw [if_pos hprogram]
    rcases List.mem_cons.mp hkey with rfl | hkey
    · exact List.mem_cons_self
    · obtain ⟨m, hm, hfee⟩ := List.mem_filterMap.mp hkey
      rw [List.mem_singleton.mp hm] at hfee
      exact List.mem_cons_of_mem _ (List.mem_filterMap.mpr ⟨mint, hmint, hfee⟩)
  · rename_i hprogram
    rwa [if_neg hprogram]

/-- The accounts for the LP token are among those for any mints. -/
theorem pricingAccounts_nil_subset {programId key : Pubkey} (mints : List Pubkey)
    (hkey : key ∈ pricingAccounts programId []) : key ∈ pricingAccounts programId mints := by
  unfold pricingAccounts at hkey ⊢
  split at hkey
  · rename_i hprogram
    rw [if_pos hprogram]
    rw [List.mem_singleton.mp hkey]
    exact List.mem_cons_self
  · rename_i hprogram
    rwa [if_neg hprogram]

/-- There is an implementation for these two. -/
def isKnownPricing (programId : Pubkey) : Bool :=
  programId = flatFeeProgramId || programId = flatSlabProgramId

/-! ### Sol value calculators -/

/-- The calculator program of wSOL, which reads nothing. -/
def wsolCalculator : Pubkey :=
  #v[14, 14, 205, 10, 61, 204, 45, 160, 19, 92, 21, 237, 10, 251, 131, 152, 224, 213, 147, 237, 142,
    198, 190, 169, 193, 75, 202, 207, 46, 96, 146, 173]

/-- The calculator program of stSOL. -/
def lidoCalculator : Pubkey :=
  #v[0, 47, 17, 228, 71, 112, 231, 24, 163, 45, 146, 53, 174, 166, 116, 136, 53, 249, 208, 90, 169, 236,
    89, 199, 143, 251, 143, 84, 83, 117, 5, 108]

/-- The state of Lido. -/
def lidoState : Pubkey :=
  #v[46, 195, 142, 250, 71, 7, 14, 31, 131, 13, 41, 188, 37, 184, 24, 165, 85, 96, 114, 68, 1, 123, 223,
    158, 34, 157, 250, 98, 24, 162, 89, 209]

/-- The calculator program of mSOL. -/
def marinadeCalculator : Pubkey :=
  #v[11, 107, 214, 38, 17, 52, 58, 163, 112, 136, 117, 179, 109, 82, 198, 170, 177, 61, 242, 47, 115,
    250, 17, 187, 124, 82, 172, 198, 86, 45, 197, 202]

/-- The state of Marinade. -/
def marinadeState : Pubkey :=
  #v[117, 17, 155, 49, 117, 128, 117, 134, 227, 244, 167, 229, 205, 15, 137, 14, 150, 167, 83, 177, 15,
    204, 199, 104, 30, 148, 115, 160, 8, 50, 112, 241]

/-- The calculator program of LSTs of SPL stake pools. -/
def splCalculator : Pubkey :=
  #v[13, 8, 113, 244, 157, 15, 149, 30, 172, 177, 5, 234, 25, 38, 117, 24, 106, 166, 213, 175, 70, 248,
    124, 125, 30, 79, 206, 139, 50, 235, 5, 114]

/-- A fresh calculator for an LST. -/
def initSvc (splLsts : HashMap Pubkey Pubkey) (l : LstState) : Except (InfErr inf1) SvcAg :=
  if l.solValueCalculator = wsolCalculator then .ok ⟨wsolCalculator, [], []⟩
  else if l.solValueCalculator = lidoCalculator then
    .ok ⟨lidoCalculator, [lidoState, sysvarClock], []⟩
  else if l.solValueCalculator = marinadeCalculator then .ok ⟨marinadeCalculator, [marinadeState], []⟩
  else if l.solValueCalculator = splCalculator then
    match splLsts l.mint with
    | some stakePool => .ok ⟨splCalculator, [stakePool, sysvarClock], []⟩
    | none => .error (.missingSplData l.mint)
  else .error (.unknownSvc l.solValueCalculator)

/-! ### The instance -/

/-- The seed `state`. -/
def poolStateSeeds : List (List UInt8) := [[115, 116, 97, 116, 101]]

/-- The seed `lst-state-list`. -/
def lstStateListSeeds : List (List UInt8) :=
  [[108, 115, 116, 45, 115, 116, 97, 116, 101, 45, 108, 105, 115, 116]]

/-- The token program. -/
def tokenProgramId : Pubkey :=
  #v[6, 221, 246, 225, 215, 101, 161, 147, 217, 203, 225, 70, 206, 235, 121, 172, 28, 180, 133, 237, 95,
    91, 55, 145, 58, 140, 245, 133, 126, 255, 0, 169]

/-- The associated token account program. -/
def ataProgramId : Pubkey :=
  #v[140, 151, 37, 143, 78, 36, 137, 241, 187, 61, 16, 41, 20, 142, 13, 131, 11, 90, 19, 153, 218, 255,
    16, 132, 4, 142, 123, 216, 219, 233, 248, 89]

/-- The pool reserves of an LST are the associated token account of the pool. -/
def reservesSeeds (poolStateId : Pubkey) (l : LstState) : List (List UInt8) :=
  [poolStateId.toList, tokenProgramId.toList, l.mint.toList, [l.poolReservesBump]]

/-- The address of the pool state, from the cache if it is there. -/
def findPoolState (s : InfStd inf1) : Option Pda :=
  s.poolStatePda <|> s.findPda poolStateSeeds s.progId

/-- The address of the LST state list, from the cache if it is there. -/
def findLstStateList (s : InfStd inf1) : Option Pda :=
  s.lstStateListPda <|> s.findPda lstStateListSeeds s.progId

/-- A fetched account, decoded. -/
def fetchAs {α : Type} (fetched : UpdateMap) (decode : List UInt8 → Option α) (key : Pubkey) :
    Except (UpdateErr (InfErr inf1)) α :=
  match fetched key with
  | none => .error (.accMissing key)
  | some acc =>
    match decode acc.data with
    | none => .error (.inner (.accDeser key))
    | some a => .ok a

/-- Fetch an account at an address that may not be there, and store what it decodes to. -/
def fetchInto {α σ : Type} (fetched : UpdateMap) (decode : List UInt8 → Option α) (pda : Option Pubkey)
    (store : α → Except (InfErr inf1) σ) : Except (UpdateErr (InfErr inf1)) σ :=
  match pda with
  | none => .error (.inner .noValidPda)
  | some key =>
    match fetchAs fetched decode key with
    | .error e => .error e
    | .ok a => (store a).mapError .inner

/-- Go over to a pool, with its pricing program. -/
def setPool (s : InfStd inf1) (pool : PoolState) : Except (InfErr inf1) (InfStd inf1) :=
  if s.pricing.programId = pool.pricingProgram then .ok { s with pool := pool }
  else if isKnownPricing pool.pricingProgram then
    .ok { s with pool := pool, pricing := ⟨pool.pricingProgram, HashMap.empty⟩ }
  else .error (.unknownPp pool.pricingProgram)

/-- `update_pool`. -/
def updatePool (fetched : UpdateMap) (s : InfStd inf1) :
    Except (UpdateErr (InfErr inf1)) (InfStd inf1) :=
  fetchInto fetched poolOfAccData ((findPoolState s).map Prod.fst) (setPool s)

/-- `update_lst_state_list`. -/
def updateLstStateList (fetched : UpdateMap) (s : InfStd inf1) :
    Except (UpdateErr (InfErr inf1)) (InfStd inf1) :=
  fetchInto fetched some ((findLstStateList s).map Prod.fst) fun data =>
    .ok { s with lstStateListData := data }

/-- `update_lp_token_supply`. -/
def updateLpTokenSupply (fetched : UpdateMap) (s : InfStd inf1) :
    Except (UpdateErr (InfErr inf1)) (InfStd inf1) :=
  fetchInto fetched supplyOfAccData (some s.pool.lpTokenMint) fun supply =>
    .ok { s with lpTokenSupply := some supply }

/-- `update_lst_reserves`. -/
def updateLstReserves (createPda : CreatePda) (poolStateId : Pubkey) (l : LstState)
    (fetched : UpdateMap) (m : HashMap Pubkey UInt64) :
    Except (UpdateErr (InfErr inf1)) (HashMap Pubkey UInt64) :=
  fetchInto fetched balanceOfAccData (createPda (reservesSeeds poolStateId l) ataProgramId)
    fun balance => .ok (m.insert l.mint balance)

/-- `update_svc`. -/
def updateSvc (fetched : UpdateMap) (c : SvcAg) : Except (UpdateErr Unit) SvcAg :=
  match readAll fetched c.accounts with
  | .ok data => .ok ⟨c.program, c.accounts, data⟩
  | .error key => .error (.accMissing key)

/-- Replace the data of the given accounts. -/
def overwrite (stored : HashMap Pubkey (List UInt8)) (fetched : UpdateMap) (keys : List Pubkey) :
    HashMap Pubkey (List UInt8) := fun key =>
  if key ∈ keys then (fetched key).map Account.data else stored key

/-- `update_all`. -/
def updateAll (mints : List Pubkey) (fetched : UpdateMap) (p : PricingAg) :
    Except (UpdateErr Unit) PricingAg :=
  match readAll fetched (pricingAccounts p.programId mints) with
  | .ok _ => .ok ⟨p.programId, overwrite p.fetched fetched (pricingAccounts p.programId mints)⟩
  | .error key => .error (.accMissing key)

/-- Run an update that writes nothing when it fails. -/
def commit {σ ε : Type} (f : σ → Except ε σ) : Mutation σ ε Unit := fun s =>
  match f s with
  | .ok s' => (.ok (), s')
  | .error e => (.error e, s)

/-- `commit` succeeds when the function does. -/
theorem commit_eq_ok_iff {σ ε : Type} {f : σ → Except ε σ} {s s' : σ} :
    (commit f).run s = (.ok (), s') ↔ f s = .ok s' := by
  rcases h : f s with e | t <;> simp [commit, Mutation.run, h]

/-- Whatever the function preserves, `commit` preserves. -/
theorem commit_preserves {σ ε : Type} {f : σ → Except ε σ} {P : σ → Prop} {s : σ} (hs : P s)
    (hf : ∀ s', f s = .ok s' → P s') : P ((commit f).run s).2 := by
  rcases h : f s with e | t
  · simpa [commit, Mutation.run, h] using hs
  · simpa [commit, Mutation.run, h] using hf t h

/-- The calculator of an LST, made afresh unless the stored one is of the program that the list
names. -/
def tryGetOrInitLstSvcStatic (splLsts : HashMap Pubkey Pubkey) (l : LstState) :
    Mutation (HashMap Pubkey SvcAg) (InfErr inf1) SvcAg := fun calcs =>
  match (calcs l.mint).filter fun c => c.program = l.solValueCalculator with
  | some c => (.ok c, calcs)
  | none =>
    match initSvc splLsts l with
    | .ok c => (.ok c, calcs.insert l.mint c)
    | .error e => (.error e, calcs)

/-- What is stored for one side of a trade: nothing is needed for the LP token. -/
def checkMint (s : InfStd inf1) (mint : Pubkey) : Except (InfErr inf1) Unit :=
  if mint = s.pool.lpTokenMint then .ok ()
  else
    match s.lstCalcs mint with
    | none => .error (.missingSvcData mint)
    | some _ =>
      match s.lstReserves mint with
      | none => .error (.missingReserves mint)
      | some _ => .ok ()

/-- Trades are at par. -/
def quoteTrade (s : InfStd inf1) (mints : Pair Pubkey) (amt : UInt64) :
    Except (InfErr inf1) TradeQuote := do
  checkMint s mints.inp
  checkMint s mints.out
  pure ⟨amt, amt, mints.out⟩

/-- The instruction names the pool and the token accounts. -/
def tradeIx (s : InfStd inf1) (args : TradeIxArgs) (limitTy : TradeLimitTy) :
    Except (InfErr inf1) (Trade SwapIx SwapIx) := do
  checkMint s args.mints.inp
  checkMint s args.mints.out
  let ix : SwapIx := ⟨[args.signer, args.tokenAccs.inp, args.tokenAccs.out], ⟨1, 1, 0, 0⟩⟩
  match limitTy with
  | .exactIn _ => pure (.exactIn ix)
  | .exactOut _ => pure (.exactOut ix)

instance : Inf1Api inf1 where
  flatFeeProgramId := flatFeeProgramId
  poolStateV2 version pricingProgram lpTokenMint := ⟨version, pricingProgram, lpTokenMint, 0⟩
  verPoolStateV2 pool := pool
  lpTokenMint := PoolState.lpTokenMint
  migrated pool slot :=
    if pool.version = 2 then pool else { pool with version := 2, lastReleaseSlot := slot }
  lastReleaseSlot := PoolState.lastReleaseSlot
  mint := LstState.mint
  lstStatePackedListOfAccData := lstStatePackedListOfAccData
  new progId pool data supply pricing calcs reserves splLsts findPda createPda :=
    if isKnownPricing pool.pricingProgram then
      .ok ⟨progId.getD infProgramId, pool, data, supply,
        pricing.getD ⟨pool.pricingProgram, HashMap.empty⟩, calcs, reserves, splLsts, findPda, createPda,
        none, none⟩
    else .error (.unknownPp pool.pricingProgram)
  findCachePoolState s := (findPoolState s, { s with poolStatePda := findPoolState s })
  findCacheLstStateList s := (findLstStateList s, { s with lstStateListPda := findLstStateList s })
  findPoolState := findPoolState
  findLstStateList := findLstStateList
  tryLstStateList s :=
    match lstStatePackedListOfAccData s.lstStateListData with
    | some lsts => .ok lsts
    | none => .error .noValidPda
  updatePool fetched := commit (updatePool fetched)
  updateLstStateList fetched := commit (updateLstStateList fetched)
  updateLpTokenSupply fetched := commit (updateLpTokenSupply fetched)
  updateLstReserves createPda poolStateId l fetched :=
    commit (updateLstReserves createPda poolStateId l fetched)
  tryGetOrInitLstSvc l := fun s => Mutation.zoom InfStd.lstCalcs
    (fun calcs s => { s with lstCalcs := calcs }) (tryGetOrInitLstSvcStatic s.splLsts l) s
  tryGetOrInitLstSvcStatic := tryGetOrInitLstSvcStatic
  updateSvc fetched := commit (updateSvc fetched)
  updateAll mints fetched := commit (updateAll mints fetched)
  accountsToUpdateAll p := pricingAccounts p.programId
  accountsToUpdateLst s l :=
    match s.lstCalcs l.mint, findPoolState s with
    | some c, some (poolStateId, _) =>
      match s.createPda (reservesSeeds poolStateId l) ataProgramId with
      | some key => .ok (key :: c.accounts)
      | none => .error .noValidPda
    | _, _ => .error (.missingSvcData l.mint)
  quoteTrade s mints amt _ _ := quoteTrade s mints amt
  tradeIx := tradeIx
  accs := SwapIx.accs
  toFull := SwapIx.args
  swapExactInV2IxKeysOwned accs := accs
  swapExactInV2IxIsWriter accs := accs.map fun _ => true
  swapExactOutV2IxKeysOwned accs := accs
  swapExactOutV2IxIsWriter accs := accs.map fun _ => true

instance : Inf1Spec inf1 where
  poolOfAccData := poolOfAccData
  pricingProgram := PoolState.pricingProgram
  KnownPricing programId := isKnownPricing programId = true
  pricingProgramId := PricingAg.programId
  PricingAnswer := List (Option (List UInt8))
  pricingAnswer p mint := (pricingAccounts p.programId [mint]).map p.fetched
  lpPricingAnswer p := (pricingAccounts p.programId []).map p.fetched
  supplyOfAccData := supplyOfAccData
  solValueCalculator := LstState.solValueCalculator
  reservesSeeds := reservesSeeds
  reservesProgram := ataProgramId
  reservesOfAccData := balanceOfAccData
  svcProgram := SvcAg.program
  accountsToUpdateSvc := SvcAg.accounts
  initSvc := initSvc
  poolStateSeeds := poolStateSeeds
  lstStateListSeeds := lstStateListSeeds

/-! ### The laws -/

/-- What it takes to fetch and store. -/
theorem fetchInto_eq_ok_iff {α σ : Type} {fetched : UpdateMap} {decode : List UInt8 → Option α}
    {pda : Option Pubkey} {store : α → Except (InfErr inf1) σ} {s : σ} :
    fetchInto fetched decode pda store = .ok s ↔
      ∃ key acc a, pda = some key ∧ fetched key = some acc ∧ decode acc.data = some a ∧
        store a = .ok s := by
  unfold fetchInto fetchAs
  rcases pda with _ | key
  · simp
  · rcases hacc : fetched key with _ | acc
    · simp [hacc]
    · rcases ha : decode acc.data with _ | a
      · simp [hacc, ha]
      · rcases hs : store a with e | s' <;> simp [hacc, ha, hs, Except.mapError]

/-- Going over to a pool writes the pool and the pricing program only. -/
theorem setPool_eq_ok {s s' : InfStd inf1} {pool : PoolState} (h : setPool s pool = .ok s') :
    s'.pricing.programId = pool.pricingProgram ∧
      ∃ pricing, s' = { s with pool := pool, pricing := pricing } := by
  unfold setPool at h
  split at h
  · rename_i hprogram
    cases h
    exact ⟨hprogram, s.pricing, rfl⟩
  · split at h
    · cases h
      exact ⟨rfl, _, rfl⟩
    · cases h

/-- It succeeds if the pricing program is known. -/
theorem exists_setPool {s : InfStd inf1} {pool : PoolState}
    (h : isKnownPricing pool.pricingProgram = true) : ∃ s', setPool s pool = .ok s' := by
  unfold setPool
  split
  · exact ⟨_, rfl⟩
  · exact ⟨_, rfl⟩

/-- A stored calculator of the named program is found. -/
theorem filter_of_current {calcs : HashMap Pubkey SvcAg} {l : LstState} {c : SvcAg}
    (h : HasCurrentCalc (T := inf1) calcs l c) :
    (calcs l.mint).filter (fun c => c.program = l.solValueCalculator) = some c := by
  have hstored : calcs l.mint = some c := h.1
  have hprogram : c.program = l.solValueCalculator := h.2
  simp [hstored, hprogram]

/-- Any other is not. -/
theorem filter_of_not_current {calcs : HashMap Pubkey SvcAg} {l : LstState}
    (h : ¬ ∃ c, HasCurrentCalc (T := inf1) calcs l c) :
    (calcs l.mint).filter (fun c => c.program = l.solValueCalculator) = none := by
  rcases hstored : calcs l.mint with _ | c
  · rfl
  · have hprogram : c.program ≠ l.solValueCalculator := fun hprogram => h ⟨c, hstored, hprogram⟩
    simp [hprogram]

/-- `try_get_or_init_lst_svc_static`, when the stored calculator is not of the named program. -/
theorem tryGetOrInit_of_not_current {splLsts : HashMap Pubkey Pubkey} {calcs : HashMap Pubkey SvcAg}
    {l : LstState} (h : ¬ ∃ c, HasCurrentCalc (T := inf1) calcs l c) :
    tryGetOrInitLstSvcStatic splLsts l calcs =
      match initSvc splLsts l with
      | .ok c => (.ok c, calcs.insert l.mint c)
      | .error e => (.error e, calcs) := by
  rw [tryGetOrInitLstSvcStatic, filter_of_not_current h]

/-- A fresh calculator is of the program that the list names. -/
theorem initSvc_program {splLsts : HashMap Pubkey Pubkey} {l : LstState} {c : SvcAg}
    (h : initSvc splLsts l = .ok c) : c.program = l.solValueCalculator := by
  unfold initSvc at h
  split_ifs at h with hwsol hlido hmarinade hspl
  · cases h
    exact hwsol.symm
  · cases h
    exact hlido.symm
  · cases h
    exact hmarinade.symm
  · split at h
    · cases h
      exact hspl.symm
    · cases h

/-- A successful `update_svc` has read its accounts, and keeps them. -/
theorem updateSvc_eq_ok {fetched : UpdateMap} {c c' : SvcAg} (h : updateSvc fetched c = .ok c') :
    (∀ key ∈ c.accounts, (fetched key).isSome) ∧ c'.program = c.program ∧
      c'.accounts = c.accounts := by
  unfold updateSvc at h
  split at h
  · rename_i data hread
    cases h
    exact ⟨readAll_isSome hread, rfl, rfl⟩
  · cases h

/-- A successful `update_all` has read its accounts, and stores them. -/
theorem updateAll_eq_ok {mints : List Pubkey} {fetched : UpdateMap} {p p' : PricingAg}
    (h : updateAll mints fetched p = .ok p') :
    (∀ key ∈ pricingAccounts p.programId mints, (fetched key).isSome) ∧
      p' = ⟨p.programId, overwrite p.fetched fetched (pricingAccounts p.programId mints)⟩ := by
  unfold updateAll at h
  split at h
  · rename_i data hread
    cases h
    exact ⟨readAll_isSome hread, rfl⟩
  · cases h

/-- The check of a mint depends on what is stored for it. -/
theorem checkMint_congr {s t : InfStd inf1} {mint : Pubkey} (hpool : s.pool = t.pool)
    (h : mint ≠ s.pool.lpTokenMint → SameForMint mint s t) : checkMint s mint = checkMint t mint := by
  unfold checkMint
  rw [← hpool]
  by_cases hlp : mint = s.pool.lpTokenMint
  · rw [if_pos hlp, if_pos hlp]
  · rw [if_neg hlp, if_neg hlp, (h hlp).svc, (h hlp).reserves]

/-- The laws hold of the instance. -/
instance lawfulInf1 : LawfulInf1 inf1 where
  new_eq_ok := by
    intro progId pool data splLsts findPda createPda s h
    simp only [Inf1Api.new, Option.getD_some, Option.getD_none] at h
    split at h
    · cases h
      exact ⟨_, rfl, rfl⟩
    · cases h
  findCachePoolState_eq := by
    intro s h
    simp only [Inf1Api.findCachePoolState, findPoolState, h]
    rfl
  findCacheLstStateList_eq := by
    intro s h
    simp only [Inf1Api.findCacheLstStateList, findLstStateList, h]
    rfl
  findPoolState_cached := by
    intro s pda h
    simp only [Inf1Api.findPoolState, findPoolState, h]
    rfl
  findLstStateList_cached := by
    intro s pda h
    simp only [Inf1Api.findLstStateList, findLstStateList, h]
    rfl
  findPoolState_congr := by
    intro s t h
    simp only [Inf1Api.findPoolState, findPoolState, h.poolStatePda, h.findPda, h.progId]
  findLstStateList_congr := by
    intro s t h
    simp only [Inf1Api.findLstStateList, findLstStateList, h.lstStateListPda, h.findPda, h.progId]
  tryLstStateList_toOption := by
    intro s
    simp only [Inf1Api.tryLstStateList, Inf1Api.lstStatePackedListOfAccData]
    cases lstStatePackedListOfAccData s.lstStateListData <;> rfl
  updatePool_frame := by
    intro fetched s
    refine commit_preserves (P := fun s' : InfStd inf1 => ∃ pool pricing,
      s' = { s with pool := pool, pricing := pricing }) ⟨s.pool, s.pricing, rfl⟩ fun s' h => ?_
    obtain ⟨key, acc, pool, -, -, -, hset⟩ := fetchInto_eq_ok_iff.mp h
    exact ⟨pool, (setPool_eq_ok hset).2⟩
  updatePool_ok := by
    intro fetched s s' pda hpda h
    obtain ⟨key, acc, pool, hkey, hacc, hpool, hset⟩ := fetchInto_eq_ok_iff.mp (commit_eq_ok_iff.mp h)
    have hpda' : findPoolState s = some pda := hpda
    rw [hpda'] at hkey
    cases hkey
    obtain ⟨hprogram, pricing, rfl⟩ := setPool_eq_ok hset
    exact ⟨⟨acc, hacc, hpool⟩, hprogram⟩
  updatePool_succeeds := by
    intro fetched s pda acc pool hpda hacc hpool hknown
    obtain ⟨s', hs'⟩ := exists_setPool (s := s) hknown
    have hpda' : findPoolState s = some pda := hpda
    have hrun : updatePool fetched s = .ok s' := fetchInto_eq_ok_iff.mpr
      ⟨pda.1, acc, pool, congrArg (Option.map Prod.fst) hpda', hacc, hpool, hs'⟩
    exact congrArg Prod.fst (commit_eq_ok_iff.mpr hrun)
  updateLstStateList_frame := by
    intro fetched s
    refine commit_preserves (P := fun s' : InfStd inf1 => ∃ data,
      s' = { s with lstStateListData := data }) ⟨s.lstStateListData, rfl⟩ fun s' h => ?_
    obtain ⟨key, acc, data, -, -, -, hset⟩ := fetchInto_eq_ok_iff.mp h
    cases hset
    exact ⟨data, rfl⟩
  updateLstStateList_ok := by
    intro fetched s s' pda hpda h
    obtain ⟨key, acc, data, hkey, hacc, hdata, hset⟩ := fetchInto_eq_ok_iff.mp (commit_eq_ok_iff.mp h)
    have hpda' : findLstStateList s = some pda := hpda
    rw [hpda'] at hkey
    cases hkey
    cases hdata
    cases hset
    exact ⟨acc, hacc, rfl⟩
  updateLstStateList_succeeds := by
    intro fetched s pda acc lsts hpda hacc _
    have hpda' : findLstStateList s = some pda := hpda
    have hrun : updateLstStateList fetched s = .ok { s with lstStateListData := acc.data } :=
      fetchInto_eq_ok_iff.mpr
        ⟨pda.1, acc, acc.data, congrArg (Option.map Prod.fst) hpda', hacc, rfl, rfl⟩
    exact congrArg Prod.fst (commit_eq_ok_iff.mpr hrun)
  updateLpTokenSupply_frame := by
    intro fetched s
    refine commit_preserves (P := fun s' : InfStd inf1 => ∃ supply,
      s' = { s with lpTokenSupply := supply }) ⟨s.lpTokenSupply, rfl⟩ fun s' h => ?_
    obtain ⟨key, acc, supply, -, -, -, hset⟩ := fetchInto_eq_ok_iff.mp h
    cases hset
    exact ⟨some supply, rfl⟩
  updateLpTokenSupply_ok := by
    intro fetched s s' h
    obtain ⟨key, acc, supply, hkey, hacc, hsupply, hset⟩ :=
      fetchInto_eq_ok_iff.mp (commit_eq_ok_iff.mp h)
    cases hkey
    cases hset
    exact ⟨acc, supply, hacc, hsupply, rfl⟩
  updateLpTokenSupply_succeeds := by
    intro fetched s acc supply hacc hsupply
    have hrun : updateLpTokenSupply fetched s = .ok { s with lpTokenSupply := some supply } :=
      fetchInto_eq_ok_iff.mpr ⟨s.pool.lpTokenMint, acc, supply, rfl, hacc, hsupply, rfl⟩
    exact congrArg Prod.fst (commit_eq_ok_iff.mpr hrun)
  updateLstReserves_frame := by
    intro createPda poolStateId l fetched m mint hmint
    refine commit_preserves (P := fun m' : HashMap Pubkey UInt64 => m' mint = m mint) rfl
      fun m' h => ?_
    obtain ⟨key, acc, balance, -, -, -, hset⟩ := fetchInto_eq_ok_iff.mp h
    cases hset
    exact HashMap.insert_of_ne _ _ hmint
  updateLstReserves_eq_ok_iff := by
    intro createPda poolStateId l fetched m m'
    refine commit_eq_ok_iff.trans (fetchInto_eq_ok_iff.trans ?_)
    constructor
    · rintro ⟨key, acc, balance, hkey, hacc, hbalance, hset⟩
      cases hset
      refine ⟨balance, ?_, rfl⟩
      have hkey' : reservesAddr (T := inf1) createPda poolStateId l = some key := hkey
      simp only [fetchedReserves, hkey', hacc, Option.bind_eq_bind, Option.bind_some]
      exact hbalance
    · rintro ⟨r, hr, rfl⟩
      obtain ⟨key, hkey, hr⟩ := Option.bind_eq_some_iff.mp hr
      obtain ⟨acc, hacc, hr⟩ := Option.bind_eq_some_iff.mp hr
      exact ⟨key, acc, r, hkey, hacc, hr, rfl⟩
  tryGetOrInitLstSvc_eq _ _ := rfl
  getOrInit_current := by
    intro spl calcs l c h
    change tryGetOrInitLstSvcStatic spl l calcs = (.ok c, calcs)
    rw [tryGetOrInitLstSvcStatic, filter_of_current h]
  getOrInit_fresh := by
    intro spl calcs l c hcur hinit
    have hinit' : initSvc spl l = .ok c := hinit
    change tryGetOrInitLstSvcStatic spl l calcs = (.ok c, calcs.insert l.mint c)
    rw [tryGetOrInit_of_not_current hcur, hinit']
  getOrInit_error := by
    intro spl calcs l e hcur hinit
    have hinit' : initSvc spl l = .error e := hinit
    have hrun : tryGetOrInitLstSvcStatic spl l calcs = (.error e, calcs) := by
      rw [tryGetOrInit_of_not_current hcur, hinit']
    exact ⟨congrArg Prod.fst hrun, fun mint _ => congrFun (congrArg Prod.snd hrun) mint⟩
  getOrInit_error_self := by
    intro spl calcs l e hcur hinit
    have hinit' : initSvc spl l = .error e := hinit
    have hrun : tryGetOrInitLstSvcStatic spl l calcs = (.error e, calcs) := by
      rw [tryGetOrInit_of_not_current hcur, hinit']
    exact Or.inl (congrFun (congrArg Prod.snd hrun) _)
  initSvc_program h := initSvc_program h
  initSvc_congr := by
    intro spl l l' hmint hprogram
    have hmint' : l.mint = l'.mint := hmint
    have hprogram' : l.solValueCalculator = l'.solValueCalculator := hprogram
    simp only [Inf1Spec.initSvc, initSvc, hmint', hprogram']
  svcProgram_updateSvc fetched c :=
    commit_preserves (P := fun d : SvcAg => d.program = c.program) rfl fun d h =>
      (updateSvc_eq_ok h).2.1
  accountsToUpdateSvc_updateSvc fetched c :=
    commit_preserves (P := fun d : SvcAg => d.accounts = c.accounts) rfl fun d h =>
      (updateSvc_eq_ok h).2.2
  updateSvc_reads h := (updateSvc_eq_ok (commit_eq_ok_iff.mp h)).1
  updateSvc_congr := by
    intro fetched fetched' c d c' hprogram haccounts hsame h
    have hprogram' : c.program = d.program := hprogram
    have haccounts' : c.accounts = d.accounts := haccounts
    have hrun : updateSvc fetched c = .ok c' := commit_eq_ok_iff.mp h
    have hread : readAll fetched c.accounts = readAll fetched' d.accounts := by
      rw [← haccounts']
      exact readAll_congr hsame
    refine commit_eq_ok_iff.mpr ?_
    rw [← hrun, updateSvc, updateSvc, hread, hprogram', haccounts']
  pricingProgramId_updateAll mints fetched p :=
    commit_preserves (P := fun q : PricingAg => q.programId = p.programId) rfl fun q h => by
      rw [(updateAll_eq_ok h).2]
  accountsToUpdateAll_congr mints hprogram := congrArg (fun id => pricingAccounts id mints) hprogram
  updateAll_reads h := (updateAll_eq_ok (commit_eq_ok_iff.mp h)).1
  updateAll_congr := by
    intro mints fetched fetched' p q p' hprogram hsame h
    have hprogram' : p.programId = q.programId := hprogram
    have hrun : updateAll mints fetched p = .ok p' := commit_eq_ok_iff.mp h
    obtain ⟨hreads, hp'⟩ := updateAll_eq_ok hrun
    have hread : readAll fetched (pricingAccounts p.programId mints) =
        readAll fetched' (pricingAccounts q.programId mints) := by
      rw [← hprogram']
      exact readAll_congr hsame
    have hrun' : updateAll mints fetched' q = .ok ⟨q.programId,
        overwrite q.fetched fetched' (pricingAccounts q.programId mints)⟩ := by
      unfold updateAll at hrun ⊢
      rw [← hread]
      split at hrun
      · rfl
      · cases hrun
    have hanswer {keys : List Pubkey} (hkeys : ∀ key ∈ keys, key ∈ pricingAccounts p.programId mints) :
        keys.map (overwrite p.fetched fetched (pricingAccounts p.programId mints)) =
          keys.map (overwrite q.fetched fetched' (pricingAccounts p.programId mints)) := by
      refine List.map_congr_left fun key hkey => ?_
      rw [overwrite, overwrite, if_pos (hkeys key hkey), if_pos (hkeys key hkey),
        hsame key (hkeys key hkey)]
    rw [← hprogram'] at hrun'
    refine ⟨_, commit_eq_ok_iff.mpr hrun', fun m hm => ?_, ?_⟩
    · rw [hp']
      exact hanswer fun key hkey => pricingAccounts_subset hm hkey
    · rw [hp']
      exact hanswer fun key hkey => pricingAccounts_nil_subset mints hkey
  accountsToUpdateLst_of_none := by
    intro s l hnone
    have hnone' : s.lstCalcs l.mint = none := hnone
    exact ⟨_, by simp only [Inf1Api.accountsToUpdateLst, hnone']; rfl⟩
  accountsToUpdateLst_of_some := by
    intro s l pda c key hpda hc hkey
    have hpda' : findPoolState s = some pda := hpda
    have hc' : s.lstCalcs l.mint = some c := hc
    have hkey' : s.createPda (reservesSeeds pda.1 l) ataProgramId = some key := hkey
    simp only [Inf1Api.accountsToUpdateLst, hpda', hc', hkey']
    rfl
  quoteTrade_congr := by
    intro s t mints amt slotLookahead limitTy h hin hout
    simp only [Inf1Api.quoteTrade, quoteTrade, checkMint_congr h.pool hin, checkMint_congr h.pool hout]
  tradeIx_congr := by
    intro s t args limitTy h hin hout
    simp only [Inf1Api.tradeIx, tradeIx, checkMint_congr h.pool hin, checkMint_congr h.pool hout]

/-! ### Account data -/

/-- An offset past a prefix. -/
theorem pubkeyAt_append (pre rest : List UInt8) (offset : ℕ) :
    pubkeyAt (pre ++ rest) (pre.length + offset) = pubkeyAt rest offset := by
  ext i hi
  simp only [pubkeyAt, Vector.getElem_ofFn]
  have hshift : pre.length + offset + i - pre.length = offset + i := by omega
  rw [List.getD_append_right _ _ _ _ (by omega), hshift]

/-- An offset past a prefix. -/
theorem u64At_append (pre rest : List UInt8) (offset : ℕ) :
    u64At (pre ++ rest) (pre.length + offset) = u64At rest offset := by
  unfold u64At
  congr 1
  ext i hi
  have hshift : pre.length + offset + i - pre.length = offset + i := by omega
  simp only [Vector.getElem_ofFn]
  rw [List.getD_append_right _ _ _ _ (by omega), hshift]

/-- A public key at the start. -/
theorem pubkeyAt_zero (key : Pubkey) (rest : List UInt8) : pubkeyAt (key.toList ++ rest) 0 = key := by
  ext i hi
  simp only [pubkeyAt, Vector.getElem_ofFn]
  rw [List.getD_append _ _ _ _ (by simpa using hi)]
  simp [hi]

/-- The data of a list entry. -/
def lstData (l : LstState) : List UInt8 :=
  ([0, l.poolReservesBump] ++ List.replicate 14 0) ++ (l.mint.toList ++ l.solValueCalculator.toList)

/-- The data of an LST state list account. -/
def lstStateListData (lsts : List LstState) : List UInt8 := lsts.flatMap lstData

@[simp] theorem length_lstData (l : LstState) : (lstData l).length = 80 := by
  simp [lstData]

/-- The first entry. -/
theorem entryAt_zero (l : LstState) (rest : List UInt8) : entryAt (lstData l ++ rest) 0 = l := by
  have hmint := pubkeyAt_append ([0, l.poolReservesBump] ++ List.replicate 14 0)
    (l.mint.toList ++ (l.solValueCalculator.toList ++ rest)) 0
  have hcalc := pubkeyAt_append ([0, l.poolReservesBump] ++ List.replicate 14 0)
    (l.mint.toList ++ (l.solValueCalculator.toList ++ rest)) 32
  have hrest := pubkeyAt_append l.mint.toList (l.solValueCalculator.toList ++ rest) 0
  rw [pubkeyAt_zero] at hmint hrest
  simp only [Vector.length_toList, Nat.add_zero] at hrest
  rw [hrest] at hcalc
  have hdata : lstData l ++ rest = ([0, l.poolReservesBump] ++ List.replicate 14 0) ++
      (l.mint.toList ++ (l.solValueCalculator.toList ++ rest)) := by simp [lstData]
  rw [entryAt, hdata]
  simp only [List.length_append, List.length_cons, List.length_nil, List.length_replicate,
    Nat.reduceAdd, Nat.reduceMul, Nat.add_zero, Nat.zero_add] at hmint hcalc ⊢
  rw [hmint, hcalc]
  rfl

/-- The other entries are those of the rest. -/
theorem entryAt_succ (l : LstState) (rest : List UInt8) (i : ℕ) :
    entryAt (lstData l ++ rest) (i + 1) = entryAt rest i := by
  have hshift (offset : ℕ) : 80 * (i + 1) + offset = (lstData l).length + (80 * i + offset) := by
    rw [length_lstData]
    omega
  rw [entryAt, entryAt, hshift, hshift, hshift, pubkeyAt_append, pubkeyAt_append,
    List.getD_append_right _ _ _ _ (by omega), Nat.add_sub_cancel_left]

/-- The list account reads back what was written. -/
theorem lstStatePackedListOfAccData_lstStateListData (lsts : List LstState) :
    lstStatePackedListOfAccData (lstStateListData lsts) = some lsts := by
  have hlength : (lstStateListData lsts).length = 80 * lsts.length := by
    simp [lstStateListData, List.length_flatMap, Nat.mul_comm]
  have hentries : (List.range lsts.length).map (entryAt (lstStateListData lsts)) = lsts := by
    induction lsts with
    | nil => rfl
    | cons l lsts ih =>
      have hlength' : (lstStateListData lsts).length = 80 * lsts.length := by
        simp [lstStateListData, List.length_flatMap, Nat.mul_comm]
      have hcons : lstStateListData (l :: lsts) = lstData l ++ lstStateListData lsts := rfl
      rw [List.length_cons, List.range_succ_eq_map, List.map_cons, List.map_map, hcons, entryAt_zero]
      have hsucc : entryAt (lstData l ++ lstStateListData lsts) ∘ Nat.succ =
          entryAt (lstStateListData lsts) := funext fun i => entryAt_succ l _ i
      rw [hsucc, ih hlength']
  rw [lstStatePackedListOfAccData, hlength, if_pos (by omega),
    Nat.mul_div_cancel_left _ (by omega), hentries]

/-- The data of a pool state account of version 2. -/
def poolData (pricingProgram lpTokenMint : Pubkey) : List UInt8 :=
  (List.replicate 12 0 ++ [2] ++ List.replicate 99 0) ++
    (pricingProgram.toList ++ (lpTokenMint.toList ++ List.replicate 64 0))

/-- The pool account reads back what was written. -/
theorem poolOfAccData_poolData (pricingProgram lpTokenMint : Pubkey) :
    poolOfAccData (poolData pricingProgram lpTokenMint) =
      some ⟨2, pricingProgram, lpTokenMint, 0⟩ := by
  have hpricing := pubkeyAt_append (List.replicate 12 0 ++ [2] ++ List.replicate 99 0)
    (pricingProgram.toList ++ (lpTokenMint.toList ++ List.replicate 64 0)) 0
  have hmint := pubkeyAt_append (List.replicate 12 0 ++ [2] ++ List.replicate 99 0)
    (pricingProgram.toList ++ (lpTokenMint.toList ++ List.replicate 64 0)) 32
  have hslot := u64At_append (List.replicate 12 0 ++ [2] ++ List.replicate 99 0)
    (pricingProgram.toList ++ (lpTokenMint.toList ++ List.replicate 64 0)) 120
  have hmint' := pubkeyAt_append pricingProgram.toList (lpTokenMint.toList ++ List.replicate 64 0) 0
  have hslot' := u64At_append pricingProgram.toList (lpTokenMint.toList ++ List.replicate 64 0) 88
  have hslot'' := u64At_append lpTokenMint.toList (List.replicate 64 0) 56
  have hzeros : u64At (List.replicate 64 0) 56 = 0 := by decide
  rw [pubkeyAt_zero] at hpricing hmint'
  simp only [Vector.length_toList, Nat.reduceAdd] at hmint' hslot' hslot''
  rw [hmint'] at hmint
  rw [hslot', hslot'', hzeros] at hslot
  have hversion : (poolData pricingProgram lpTokenMint).getD 12 0 = 2 := by
    have hbound : 12 < (List.replicate 12 (0 : UInt8) ++ [2] ++ List.replicate 99 0).length := by
      simp only [List.length_append, List.length_replicate, List.length_cons, List.length_nil]
      omega
    rw [poolData, List.getD_append _ _ _ _ hbound]
    rfl
  have hlength : (poolData pricingProgram lpTokenMint).length = 240 := by
    simp only [poolData, List.length_append, List.length_replicate, List.length_cons,
      List.length_nil, Vector.length_toList]
  rw [poolOfAccData, if_neg (by omega), if_pos hlength, hversion]
  simp only [List.length_append, List.length_cons, List.length_nil, List.length_replicate,
    Nat.reduceAdd] at hpricing hmint hslot
  rw [poolData, hpricing, hmint, hslot]

end Reference

end InfJup
