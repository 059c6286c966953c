import InfJupInterface.Control.Mutation
import InfJupInterface.Solana.Account

/-!
# The interface of `inf1_std`

The AMM is a layer over the crate `inf1_std`, whose code is not part of the repository.  This
file has the part of the crate that the AMM is written against: the record `InfStd` that it
embeds and whose fields it borrows one by one, the error types it matches on, and the functions
it calls, as a class `Inf1Api`.

The types that the AMM only passes around (pools, pricing programs, calculators, instructions)
are a parameter `T : Inf1Types`.
-/

namespace InfJup

/-- The types of `inf1_std` that the AMM passes around without looking inside. -/
structure Inf1Types where
  /-- `VerPoolState`, a pool state of any version. -/
  VerPoolState : Type
  /-- `PoolStateV2`, the current version. -/
  PoolStateV2 : Type
  /-- `LstState`, one entry of the LST state list. -/
  LstState : Type
  /-- `Reserves`, the balance of the pool in one LST. -/
  Reserves : Type
  /-- `PricingAgStd`, the state of a pricing program. -/
  PricingAg : Type
  /-- `SvcAgStd`, the state of a sol value calculator. -/
  SvcAg : Type
  /-- `SwapExactInIx` and `SwapExactOutIx`, a swap instruction. -/
  SwapIx : Type
  /-- The accounts of a swap instruction. -/
  SwapIxAccs : Type
  /-- `PricingProgAgErr`. -/
  PricingProgErr : Type
  /-- `RebalanceQuoteErr`. -/
  RebalanceQuoteErr : Type
  /-- `QuoteErr`, of a swap. -/
  SwapQuoteErr : Type
  /-- `UpdatePpErr`. -/
  UpdatePpErr : Type
  /-- `UpdateSvcErr`. -/
  UpdateSvcErr : Type
  /-- `Inf1CtlErr`. -/
  CtlErr : Type

/-- `inf1_std::err::InfErr`. -/
inductive InfErr (T : Inf1Types) where
  | accDeser (pk : Pubkey)
  | missingAcc (pk : Pubkey)
  | missingReserves (mint : Pubkey)
  | missingSplData (mint : Pubkey)
  | missingSvcData (mint : Pubkey)
  | unknownPp (ppProgId : Pubkey)
  | unknownSvc (svcProgId : Pubkey)
  | unsupportedMint (mint : Pubkey)
  | pricingProg (e : T.PricingProgErr)
  | rebalanceQuote (e : T.RebalanceQuoteErr)
  | swapQuote (e : T.SwapQuoteErr)
  | updatePp (e : T.UpdatePpErr)
  | updateSvc (e : T.UpdateSvcErr)
  | ctl (e : T.CtlErr)
  | noValidPda

/-- `inf1_std::update::UpdateErr`: a fetched account is missing, or something is wrong with it. -/
inductive UpdateErr (ε : Type) where
  | accMissing (pk : Pubkey)
  | inner (e : ε)

/-- `UpdateErr::map_inner`. -/
def UpdateErr.mapInner {ε δ : Type} (f : ε → δ) : UpdateErr ε → UpdateErr δ
  | .accMissing pk => .accMissing pk
  | .inner e => .inner (f e)

/-- `inf1_std::update::UpdateMap`: how the update functions look up a fetched account. -/
abbrev UpdateMap : Type := Pubkey → Option Account

/-- A program-derived address with its bump. -/
abbrev Pda : Type := Pubkey × UInt8

/-- The search for a program-derived address, as `InfStd` takes it. -/
abbrev FindPda : Type := List (List UInt8) → Pubkey → Option Pda

/-- The constructor of a program-derived address, as `InfStd` takes it. -/
abbrev CreatePda : Type := List (List UInt8) → Pubkey → Option Pubkey

/-- `inf1_std::InfStd`. -/
structure InfStd (T : Inf1Types) where
  /-- The controller program. -/
  progId : Pubkey
  /-- The pool state last fetched. -/
  pool : T.VerPoolState
  /-- The data of the LST state list account last fetched. -/
  lstStateListData : List UInt8
  /-- The LP token supply last fetched. -/
  lpTokenSupply : Option UInt64
  /-- The pricing program, with what it last fetched. -/
  pricing : T.PricingAg
  /-- The sol value calculator of each mint, with what it last fetched. -/
  lstCalcs : HashMap Pubkey T.SvcAg
  /-- The pool reserves of each mint. -/
  lstReserves : HashMap Pubkey T.Reserves
  /-- The stake pool of each SPL LST mint. -/
  splLsts : HashMap Pubkey Pubkey
  findPda : FindPda
  createPda : CreatePda
  /-- The cached address of the pool state. -/
  poolStatePda : Option Pda
  /-- The cached address of the LST state list. -/
  lstStateListPda : Option Pda

/-- The two maps that the per-LST step of an update writes. -/
structure LstMaps (T : Inf1Types) where
  lstCalcs : HashMap Pubkey T.SvcAg
  lstReserves : HashMap Pubkey T.Reserves

/-- The two maps of a state. -/
def InfStd.lstMaps {T : Inf1Types} (s : InfStd T) : LstMaps T := ⟨s.lstCalcs, s.lstReserves⟩

/-- Write the two maps of a state. -/
def InfStd.setLstMaps {T : Inf1Types} (m : LstMaps T) (s : InfStd T) : InfStd T :=
  { s with lstCalcs := m.lstCalcs, lstReserves := m.lstReserves }

/-- `inf1_pp_core::pair::Pair`. -/
structure Pair (α : Type) where
  inp : α
  out : α

/-- `inf1_std::trade::Trade`. -/
inductive Trade (α β : Type) where
  | exactIn (a : α)
  | exactOut (b : β)

/-- `inf1_std::trade::TradeLimitTy`. -/
abbrev TradeLimitTy : Type := Trade Unit Unit

/-- The quote of `inf1_std`, as far as the AMM reads it. -/
structure TradeQuote where
  inp : UInt64
  out : UInt64
  outMint : Pubkey

/-- `inf1_std::trade::instruction::TradeIxArgs`. -/
structure TradeIxArgs where
  amt : UInt64
  limit : UInt64
  mints : Pair Pubkey
  signer : Pubkey
  tokenAccs : Pair Pubkey

/-- The arguments of a full swap instruction, as far as the AMM reads them. -/
structure SwapIxArgs where
  inpLstValueCalcAccs : UInt8
  outLstValueCalcAccs : UInt8
  inpLstIndex : UInt32
  outLstIndex : UInt32

/-- The functions of `inf1_std` and its companion crates that the AMM calls.  A method that takes
`&mut self` is a `Mutation` of what it borrows. -/
class Inf1Api (T : Inf1Types) where
  /-- `PricingAgTy::FlatFee(()).program_id()`. -/
  flatFeeProgramId : Pubkey
  /-- A `PoolStateV2` with the given version, pricing program and LP token mint; the other fields
  have their defaults. -/
  poolStateV2 (version : UInt8) (pricingProgram lpTokenMint : Pubkey) : T.PoolStateV2
  /-- `VerPoolState::V2`. -/
  verPoolStateV2 : T.PoolStateV2 → T.VerPoolState
  /-- `VerPoolState::lp_token_mint`. -/
  lpTokenMint : T.VerPoolState → Pubkey
  /-- `VerPoolState::migrated`. -/
  migrated (pool : T.VerPoolState) (slot : UInt64) : T.PoolStateV2
  /-- The field `last_release_slot`. -/
  lastReleaseSlot : T.PoolStateV2 → UInt64
  /-- The field `mint` of an LST state. -/
  mint : T.LstState → Pubkey
  /-- `LstStatePackedList::of_acc_data`, with every entry unpacked by `into_lst_state`. -/
  lstStatePackedListOfAccData : List UInt8 → Option (List T.LstState)
  /-- `InfStd::new`. -/
  new (progId : Option Pubkey) (pool : T.VerPoolState) (lstStateListData : List UInt8)
    (lpTokenSupply : Option UInt64) (pricing : Option T.PricingAg)
    (lstCalcs : HashMap Pubkey T.SvcAg) (lstReserves : HashMap Pubkey T.Reserves)
    (splLsts : HashMap Pubkey Pubkey) (findPda : FindPda) (createPda : CreatePda) :
    Except (InfErr T) (InfStd T)
  /-- `InfStd::find_cache_pool_state`. -/
  findCachePoolState : InfStd T → Option Pda × InfStd T
  /-- `InfStd::find_cache_lst_state_list`. -/
  findCacheLstStateList : InfStd T → Option Pda × InfStd T
  /-- `InfStd::find_pool_state`. -/
  findPoolState : InfStd T → Option Pda
  /-- `InfStd::find_lst_state_list`. -/
  findLstStateList : InfStd T → Option Pda
  /-- `InfStd::try_lst_state_list`, with every entry unpacked by `into_lst_state`. -/
  tryLstStateList : InfStd T → Except (InfErr T) (List T.LstState)
  /-- `InfStd::update_pool`. -/
  updatePool (fetched : UpdateMap) : Mutation (InfStd T) (UpdateErr (InfErr T)) Unit
  /-- `InfStd::update_lst_state_list`. -/
  updateLstStateList (fetched : UpdateMap) : Mutation (InfStd T) (UpdateErr (InfErr T)) Unit
  /-- `InfStd::update_lp_token_supply`. -/
  updateLpTokenSupply (fetched : UpdateMap) : Mutation (InfStd T) (UpdateErr (InfErr T)) Unit
  /-- `InfStd::update_lst_reserves`. -/
  updateLstReserves (createPda : CreatePda) (poolStateId : Pubkey) (lstState : T.LstState)
    (fetched : UpdateMap) : Mutation (HashMap Pubkey T.Reserves) (UpdateErr (InfErr T)) Unit
  /-- `InfStd::try_get_or_init_lst_svc`.  The calculator returned is the entry of the map. -/
  tryGetOrInitLstSvc (lstState : T.LstState) : Mutation (InfStd T) (InfErr T) T.SvcAg
  /-- `InfStd::try_get_or_init_lst_svc_static`.  The calculator returned is the entry of the map. -/
  tryGetOrInitLstSvcStatic (splLsts : HashMap Pubkey Pubkey) (lstState : T.LstState) :
    Mutation (HashMap Pubkey T.SvcAg) (InfErr T) T.SvcAg
  /-- `UpdateSvc::update_svc`. -/
  updateSvc (fetched : UpdateMap) : Mutation T.SvcAg (UpdateErr T.UpdateSvcErr) Unit
  /-- `UpdatePricingProg::update_all`. -/
  updateAll (mints : List Pubkey) (fetched : UpdateMap) :
    Mutation T.PricingAg (UpdateErr T.UpdatePpErr) Unit
  /-- `AccountsToUpdateAll::accounts_to_update_all`. -/
  accountsToUpdateAll (pricing : T.PricingAg) (mints : List Pubkey) : List Pubkey
  /-- `InfStd::accounts_to_update_lst`. -/
  accountsToUpdateLst (inner : InfStd T) (lstState : T.LstState) :
    Except (InfErr T) (List Pubkey)
  /-- `InfStd::quote_trade`. -/
  quoteTrade (inner : InfStd T) (mints : Pair Pubkey) (amt slotLookahead : UInt64)
    (limitTy : TradeLimitTy) : Except (InfErr T) TradeQuote
  /-- `InfStd::trade_ix`. -/
  tradeIx (inner : InfStd T) (args : TradeIxArgs) (limitTy : TradeLimitTy) :
    Except (InfErr T) (Trade T.SwapIx T.SwapIx)
  /-- The field `accs` of an instruction. -/
  accs : T.SwapIx → T.SwapIxAccs
  /-- `to_full`. -/
  toFull : T.SwapIx → SwapIxArgs
  /-- `swap_exact_in_v2_ix_keys_owned(..).seq()`. -/
  swapExactInV2IxKeysOwned : T.SwapIxAccs → List Pubkey
  /-- `swap_exact_in_v2_ix_is_writer(..).seq()`. -/
  swapExactInV2IxIsWriter : T.SwapIxAccs → List Bool
  /-- `swap_exact_out_v2_ix_keys_owned(..).seq()`. -/
  swapExactOutV2IxKeysOwned : T.SwapIxAccs → List Pubkey
  /-- `swap_exact_out_v2_ix_is_writer(..).seq()`. -/
  swapExactOutV2IxIsWriter : T.SwapIxAccs → List Bool

@[simp] theorem InfStd.setLstMaps_lstMaps {T : Inf1Types} (s : InfStd T) :
    InfStd.setLstMaps s.lstMaps s = s := rfl

@[simp] theorem InfStd.lstMaps_setLstMaps {T : Inf1Types} (m : LstMaps T) (s : InfStd T) :
    (InfStd.setLstMaps m s).lstMaps = m := rfl

end InfJup
