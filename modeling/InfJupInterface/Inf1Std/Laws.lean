import InfJupInterface.Inf1Std.Interface

/-!
# What the AMM relies on

The documented behaviour of the functions in `Inf1Api`.  `Inf1Spec` has the words for it: how
account data decodes, which program a pricing state or a calculator belongs to, which accounts a
calculator reads, where the reserves of an LST are.  `LawfulInf1` has the laws:

* the whole-pool updates write only their own field, and store what they decode;
* a pricing program or a calculator reads exactly the accounts it names, and a successful update
  replaces whatever was there before;
* `try_get_or_init_lst_svc_static` keeps a calculator of the program that the list names, and
  otherwise initializes one from the list entry and the SPL data;
* `accounts_to_update_lst` fails without a calculator, and otherwise names the pool reserves and
  the accounts of the calculator;
* a quote or an instruction depends on what is stored for the two mints, and on nothing else that
  is stored for some mint.
-/

namespace InfJup

/-- The words in which the behaviour of `inf1_std` is stated. -/
class Inf1Spec (T : Inf1Types) where
  /-- `PoolState::of_acc_data`, for any version. -/
  poolOfAccData : List UInt8 → Option T.VerPoolState
  /-- The pricing program of a pool. -/
  pricingProgram : T.VerPoolState → Pubkey
  /-- There is a pricing implementation for the program. -/
  KnownPricing : Pubkey → Prop
  /-- The program a pricing state belongs to. -/
  pricingProgramId : T.PricingAg → Pubkey
  /-- What a pricing program contributes to a trade on the side of one mint. -/
  PricingAnswer : Type
  /-- The contribution on the side of an LST. -/
  pricingAnswer : T.PricingAg → Pubkey → PricingAnswer
  /-- The contribution on the side of the LP token. -/
  lpPricingAnswer : T.PricingAg → PricingAnswer
  /-- The supply in the data of a mint account. -/
  supplyOfAccData : List UInt8 → Option UInt64
  /-- The sol value calculator program that the list names for an LST. -/
  solValueCalculator : T.LstState → Pubkey
  /-- The seeds of the pool reserves of an LST. -/
  reservesSeeds : Pubkey → T.LstState → List (List UInt8)
  /-- The program whose address the pool reserves are. -/
  reservesProgram : Pubkey
  /-- The reserves in the data of a token account. -/
  reservesOfAccData : List UInt8 → Option T.Reserves
  /-- The program a calculator belongs to. -/
  svcProgram : T.SvcAg → Pubkey
  /-- The accounts a calculator reads. -/
  accountsToUpdateSvc : T.SvcAg → List Pubkey
  /-- A fresh calculator for an LST. -/
  initSvc : HashMap Pubkey Pubkey → T.LstState → Except (InfErr T) T.SvcAg
  /-- The seeds of the pool state. -/
  poolStateSeeds : List (List UInt8)
  /-- The seeds of the LST state list. -/
  lstStateListSeeds : List (List UInt8)

export Inf1Spec (KnownPricing)

section Words

variable {T : Inf1Types} [Inf1Api T] [Inf1Spec T]

/-- The address of the pool reserves of an LST. -/
def reservesAddr (createPda : CreatePda) (poolStateId : Pubkey) (l : T.LstState) : Option Pubkey :=
  createPda (Inf1Spec.reservesSeeds poolStateId l) (Inf1Spec.reservesProgram T)

/-- The reserves of an LST among the fetched accounts. -/
def fetchedReserves (createPda : CreatePda) (poolStateId : Pubkey) (fetched : UpdateMap)
    (l : T.LstState) : Option T.Reserves := do
  let key ← reservesAddr createPda poolStateId l
  let acc ← fetched key
  Inf1Spec.reservesOfAccData acc.data

/-- The stored calculator of an LST is one of the program that the list names. -/
def HasCurrentCalc (calcs : HashMap Pubkey T.SvcAg) (l : T.LstState) (c : T.SvcAg) : Prop :=
  calcs (Inf1Api.mint l) = some c ∧ Inf1Spec.svcProgram c = Inf1Spec.solValueCalculator l

/-- The parts of the state that no update writes. -/
structure Fixed (s t : InfStd T) : Prop where
  progId : s.progId = t.progId
  splLsts : s.splLsts = t.splLsts
  findPda : s.findPda = t.findPda
  createPda : s.createPda = t.createPda
  poolStatePda : s.poolStatePda = t.poolStatePda
  lstStateListPda : s.lstStateListPda = t.lstStateListPda

/-- Two states show the same to a trade on the side of `mint`. -/
structure SameForMint (mint : Pubkey) (s t : InfStd T) : Prop where
  svc : s.lstCalcs mint = t.lstCalcs mint
  reserves : s.lstReserves mint = t.lstReserves mint
  pricing : Inf1Spec.pricingAnswer s.pricing mint = Inf1Spec.pricingAnswer t.pricing mint

/-- Two states show the same to every trade, apart from what they store for single mints. -/
structure SameForPool (s t : InfStd T) : Prop extends Fixed s t where
  pool : s.pool = t.pool
  lstStateListData : s.lstStateListData = t.lstStateListData
  lpTokenSupply : s.lpTokenSupply = t.lpTokenSupply
  pricingProgramId : Inf1Spec.pricingProgramId s.pricing = Inf1Spec.pricingProgramId t.pricing
  lpPricing : Inf1Spec.lpPricingAnswer s.pricing = Inf1Spec.lpPricingAnswer t.pricing

end Words

/-- The laws of `inf1_std`. -/
class LawfulInf1 (T : Inf1Types) [Inf1Api T] [Inf1Spec T] : Prop where
  /-- A new state has the given parts, no cached address, and the pricing program of its pool. -/
  new_eq_ok : ∀ {progId pool data splLsts findPda createPda} {s : InfStd T},
    Inf1Api.new (some progId) pool data none none HashMap.empty HashMap.empty splLsts findPda
        createPda = .ok s →
      ∃ pricing, Inf1Spec.pricingProgramId pricing = Inf1Spec.pricingProgram pool ∧
        s = ⟨progId, pool, data, none, pricing, HashMap.empty, HashMap.empty, splLsts, findPda,
          createPda, none, none⟩
  findCachePoolState_eq : ∀ {s : InfStd T}, s.poolStatePda = none →
    Inf1Api.findCachePoolState s = (s.findPda (Inf1Spec.poolStateSeeds T) s.progId,
      { s with poolStatePda := s.findPda (Inf1Spec.poolStateSeeds T) s.progId })
  findCacheLstStateList_eq : ∀ {s : InfStd T}, s.lstStateListPda = none →
    Inf1Api.findCacheLstStateList s = (s.findPda (Inf1Spec.lstStateListSeeds T) s.progId,
      { s with lstStateListPda := s.findPda (Inf1Spec.lstStateListSeeds T) s.progId })
  findPoolState_cached : ∀ {s : InfStd T} {pda}, s.poolStatePda = some pda →
    Inf1Api.findPoolState s = some pda
  findLstStateList_cached : ∀ {s : InfStd T} {pda}, s.lstStateListPda = some pda →
    Inf1Api.findLstStateList s = some pda
  /-- The addresses of the pool depend on the fixed parts. -/
  findPoolState_congr : ∀ {s t : InfStd T}, Fixed s t →
    Inf1Api.findPoolState s = Inf1Api.findPoolState t
  findLstStateList_congr : ∀ {s t : InfStd T}, Fixed s t →
    Inf1Api.findLstStateList s = Inf1Api.findLstStateList t
  /-- The list is decoded from the stored data. -/
  tryLstStateList_toOption : ∀ s : InfStd T, (Inf1Api.tryLstStateList s).toOption =
    Inf1Api.lstStatePackedListOfAccData s.lstStateListData
  /-- `update_pool` writes the pool and the pricing program only. -/
  updatePool_frame : ∀ fetched (s : InfStd T), ∃ pool pricing,
    ((Inf1Api.updatePool fetched).run s).2 = { s with pool := pool, pricing := pricing }
  /-- `update_pool` stores the fetched pool, and goes over to its pricing program. -/
  updatePool_ok : ∀ {fetched} {s s' : InfStd T} {pda}, Inf1Api.findPoolState s = some pda →
    (Inf1Api.updatePool fetched).run s = (.ok (), s') →
      (∃ acc, fetched pda.1 = some acc ∧ Inf1Spec.poolOfAccData acc.data = some s'.pool) ∧
        Inf1Spec.pricingProgramId s'.pricing = Inf1Spec.pricingProgram s'.pool
  updatePool_succeeds : ∀ {fetched} {s : InfStd T} {pda acc} {pool : T.VerPoolState},
    Inf1Api.findPoolState s = some pda → fetched pda.1 = some acc →
      Inf1Spec.poolOfAccData acc.data = some pool →
      KnownPricing T (Inf1Spec.pricingProgram pool) →
      ((Inf1Api.updatePool fetched).run s).1 = .ok ()
  /-- `update_lst_state_list` writes the list data only. -/
  updateLstStateList_frame : ∀ fetched (s : InfStd T), ∃ data,
    ((Inf1Api.updateLstStateList fetched).run s).2 = { s with lstStateListData := data }
  /-- `update_lst_state_list` stores the fetched data. -/
  updateLstStateList_ok : ∀ {fetched} {s s' : InfStd T} {pda},
    Inf1Api.findLstStateList s = some pda → (Inf1Api.updateLstStateList fetched).run s = (.ok (), s') →
      ∃ acc, fetched pda.1 = some acc ∧ s'.lstStateListData = acc.data
  updateLstStateList_succeeds : ∀ {fetched} {s : InfStd T} {pda acc} {lsts : List T.LstState},
    Inf1Api.findLstStateList s = some pda → fetched pda.1 = some acc →
      Inf1Api.lstStatePackedListOfAccData acc.data = some lsts →
      ((Inf1Api.updateLstStateList fetched).run s).1 = .ok ()
  /-- `update_lp_token_supply` writes the supply only. -/
  updateLpTokenSupply_frame : ∀ fetched (s : InfStd T), ∃ supply,
    ((Inf1Api.updateLpTokenSupply fetched).run s).2 = { s with lpTokenSupply := supply }
  /-- `update_lp_token_supply` stores the supply of the LP token of the pool. -/
  updateLpTokenSupply_ok : ∀ {fetched} {s s' : InfStd T},
    (Inf1Api.updateLpTokenSupply fetched).run s = (.ok (), s') →
      ∃ acc supply, fetched (Inf1Api.lpTokenMint s.pool) = some acc ∧
        Inf1Spec.supplyOfAccData T acc.data = some supply ∧ s'.lpTokenSupply = some supply
  updateLpTokenSupply_succeeds : ∀ {fetched} {s : InfStd T} {acc supply},
    fetched (Inf1Api.lpTokenMint s.pool) = some acc →
      Inf1Spec.supplyOfAccData T acc.data = some supply →
      ((Inf1Api.updateLpTokenSupply fetched).run s).1 = .ok ()
  /-- `update_lst_reserves` writes the entry of its mint only. -/
  updateLstReserves_frame : ∀ createPda poolStateId (l : T.LstState) fetched m mint,
    mint ≠ Inf1Api.mint l →
      ((Inf1Api.updateLstReserves createPda poolStateId l fetched).run m).2 mint = m mint
  /-- `update_lst_reserves` stores the fetched reserves. -/
  updateLstReserves_eq_ok_iff : ∀ createPda poolStateId (l : T.LstState) fetched m m',
    (Inf1Api.updateLstReserves createPda poolStateId l fetched).run m = (.ok (), m') ↔
      ∃ r, fetchedReserves createPda poolStateId fetched l = some r ∧
        m' = m.insert (Inf1Api.mint l) r
  /-- The method is the static function on the fields of the state. -/
  tryGetOrInitLstSvc_eq : ∀ l : T.LstState, ∀ s : InfStd T,
    (Inf1Api.tryGetOrInitLstSvc l).run s =
      (((Inf1Api.tryGetOrInitLstSvcStatic s.splLsts l).run s.lstCalcs).1,
        { s with lstCalcs := ((Inf1Api.tryGetOrInitLstSvcStatic s.splLsts l).run s.lstCalcs).2 })
  /-- A calculator of the named program is kept. -/
  getOrInit_current : ∀ {spl} {calcs : HashMap Pubkey T.SvcAg} {l c}, HasCurrentCalc calcs l c →
    (Inf1Api.tryGetOrInitLstSvcStatic spl l).run calcs = (.ok c, calcs)
  /-- Otherwise a fresh one takes its place. -/
  getOrInit_fresh : ∀ {spl} {calcs : HashMap Pubkey T.SvcAg} {l c},
    (¬ ∃ c, HasCurrentCalc calcs l c) → Inf1Spec.initSvc spl l = .ok c →
      (Inf1Api.tryGetOrInitLstSvcStatic spl l).run calcs =
        (.ok c, calcs.insert (Inf1Api.mint l) c)
  /-- If there is none, the call fails, and the entries of the other mints stay. -/
  getOrInit_error : ∀ {spl} {calcs : HashMap Pubkey T.SvcAg} {l e},
    (¬ ∃ c, HasCurrentCalc calcs l c) → Inf1Spec.initSvc spl l = .error e →
      ((Inf1Api.tryGetOrInitLstSvcStatic spl l).run calcs).1 = .error e ∧
        ∀ mint ≠ Inf1Api.mint l,
          ((Inf1Api.tryGetOrInitLstSvcStatic spl l).run calcs).2 mint = calcs mint
  /-- A failed call never leaves a calculator that was not there before. -/
  getOrInit_error_self : ∀ {spl} {calcs : HashMap Pubkey T.SvcAg} {l e},
    (¬ ∃ c, HasCurrentCalc calcs l c) → Inf1Spec.initSvc spl l = .error e →
      ((Inf1Api.tryGetOrInitLstSvcStatic spl l).run calcs).2 (Inf1Api.mint l) =
          calcs (Inf1Api.mint l) ∨
        ((Inf1Api.tryGetOrInitLstSvcStatic spl l).run calcs).2 (Inf1Api.mint l) = none
  initSvc_program : ∀ {spl} {l : T.LstState} {c}, Inf1Spec.initSvc spl l = .ok c →
    Inf1Spec.svcProgram c = Inf1Spec.solValueCalculator l
  /-- A fresh calculator depends on the mint and the program that the list names. -/
  initSvc_congr : ∀ {spl} {l l' : T.LstState}, Inf1Api.mint l = Inf1Api.mint l' →
    Inf1Spec.solValueCalculator l = Inf1Spec.solValueCalculator l' →
      Inf1Spec.initSvc spl l = Inf1Spec.initSvc spl l'
  /-- An update leaves a calculator of the same program and with the same accounts. -/
  svcProgram_updateSvc : ∀ fetched (c : T.SvcAg),
    Inf1Spec.svcProgram ((Inf1Api.updateSvc fetched).run c).2 = Inf1Spec.svcProgram c
  accountsToUpdateSvc_updateSvc : ∀ fetched (c : T.SvcAg),
    Inf1Spec.accountsToUpdateSvc ((Inf1Api.updateSvc fetched).run c).2 =
      Inf1Spec.accountsToUpdateSvc c
  /-- A successful update has read all the accounts of the calculator. -/
  updateSvc_reads : ∀ {fetched} {c c' : T.SvcAg},
    (Inf1Api.updateSvc fetched).run c = (.ok (), c') →
      ∀ k ∈ Inf1Spec.accountsToUpdateSvc c, (fetched k).isSome
  /-- A successful update depends on these accounts, and replaces what was fetched before. -/
  updateSvc_congr : ∀ {fetched fetched'} {c d c' : T.SvcAg},
    Inf1Spec.svcProgram c = Inf1Spec.svcProgram d →
      Inf1Spec.accountsToUpdateSvc c = Inf1Spec.accountsToUpdateSvc d →
      (∀ k ∈ Inf1Spec.accountsToUpdateSvc c, fetched k = fetched' k) →
      (Inf1Api.updateSvc fetched).run c = (.ok (), c') →
      (Inf1Api.updateSvc fetched').run d = (.ok (), c')
  /-- An update leaves a pricing state of the same program. -/
  pricingProgramId_updateAll : ∀ mints fetched (p : T.PricingAg),
    Inf1Spec.pricingProgramId ((Inf1Api.updateAll mints fetched).run p).2 =
      Inf1Spec.pricingProgramId p
  /-- The accounts of a pricing program depend on the program and the mints. -/
  accountsToUpdateAll_congr : ∀ {p q : T.PricingAg} mints,
    Inf1Spec.pricingProgramId p = Inf1Spec.pricingProgramId q →
      Inf1Api.accountsToUpdateAll p mints = Inf1Api.accountsToUpdateAll q mints
  /-- A successful update has read all the accounts of the pricing program. -/
  updateAll_reads : ∀ {mints fetched} {p p' : T.PricingAg},
    (Inf1Api.updateAll mints fetched).run p = (.ok (), p') →
      ∀ k ∈ Inf1Api.accountsToUpdateAll p mints, (fetched k).isSome
  /-- A successful update depends on these accounts, and replaces the answers for the mints and
  for the LP token. -/
  updateAll_congr : ∀ {mints fetched fetched'} {p q p' : T.PricingAg},
    Inf1Spec.pricingProgramId p = Inf1Spec.pricingProgramId q →
      (∀ k ∈ Inf1Api.accountsToUpdateAll p mints, fetched k = fetched' k) →
      (Inf1Api.updateAll mints fetched).run p = (.ok (), p') →
      ∃ q', (Inf1Api.updateAll mints fetched').run q = (.ok (), q') ∧
        (∀ m ∈ mints, Inf1Spec.pricingAnswer p' m = Inf1Spec.pricingAnswer q' m) ∧
        Inf1Spec.lpPricingAnswer p' = Inf1Spec.lpPricingAnswer q'
  /-- Without a calculator there is an error. -/
  accountsToUpdateLst_of_none : ∀ {s : InfStd T} {l : T.LstState},
    s.lstCalcs (Inf1Api.mint l) = none → ∃ e, Inf1Api.accountsToUpdateLst s l = .error e
  /-- Otherwise the pool reserves and the accounts of the calculator are named. -/
  accountsToUpdateLst_of_some : ∀ {s : InfStd T} {l : T.LstState} {pda c key},
    Inf1Api.findPoolState s = some pda → s.lstCalcs (Inf1Api.mint l) = some c →
      reservesAddr s.createPda pda.1 l = some key →
      Inf1Api.accountsToUpdateLst s l = .ok (key :: Inf1Spec.accountsToUpdateSvc c)
  /-- A quote depends on the pool and on what is stored for those of its mints that are not the LP
  token. -/
  quoteTrade_congr : ∀ {s t : InfStd T} {mints : Pair Pubkey} amt slotLookahead limitTy,
    SameForPool s t →
      (mints.inp ≠ Inf1Api.lpTokenMint s.pool → SameForMint mints.inp s t) →
      (mints.out ≠ Inf1Api.lpTokenMint s.pool → SameForMint mints.out s t) →
      Inf1Api.quoteTrade s mints amt slotLookahead limitTy =
        Inf1Api.quoteTrade t mints amt slotLookahead limitTy
  /-- So does an instruction. -/
  tradeIx_congr : ∀ {s t : InfStd T} {args : TradeIxArgs} limitTy,
    SameForPool s t →
      (args.mints.inp ≠ Inf1Api.lpTokenMint s.pool → SameForMint args.mints.inp s t) →
      (args.mints.out ≠ Inf1Api.lpTokenMint s.pool → SameForMint args.mints.out s t) →
      Inf1Api.tradeIx s args limitTy = Inf1Api.tradeIx t args limitTy

end InfJup
