import InfJupInterface.Amm.Identity

/-!
# The stake pools of the SPL LSTs

`from_keyed_account` is how Jupiter constructs the AMM: with a list of LSTs that comes from a server,
or from the crate if the server does not answer.  The AMM takes from it the stake pool of every LST
that has one.  A mint may be listed more than once; its last entry with a stake pool counts, and entries
of other kinds do not hide it (`splLstsOf_eq_some_iff`).

No update touches this map, so the list at the time of construction decides for good which SPL LSTs
the AMM serves (`splLsts_of_run`).
-/

namespace InfJup

/-- `sanctum_lst_list::PoolInfo`, with the stake pools of the kinds that have one. -/
inductive PoolInfo where
  | lido
  | marinade
  | reservePool
  | sanctumSpl (pool : Pubkey)
  | spl (pool : Pubkey)
  | sPool
  | sanctumSplMulti (pool : Pubkey)

/-- `sanctum_lst_list::SanctumLst`, as far as the AMM reads it. -/
structure SanctumLst where
  mint : Pubkey
  pool : PoolInfo

/-- `load_sanctum_lst_list`: the list that the server has sent, or the one of the crate. -/
def loadSanctumLstList {ε : Type} (remote : Except ε (List SanctumLst)) (bundled : List SanctumLst) :
    List SanctumLst :=
  match remote with
  | .ok sanctumLstList => sanctumLstList
  | .error _ => bundled

/-- The stake pool address of a pool. -/
def PoolInfo.stakePoolAddress : PoolInfo → Option Pubkey
  | .lido => none
  | .marinade => none
  | .reservePool => none
  | .sanctumSpl pool => some pool
  | .spl pool => some pool
  | .sPool => none
  | .sanctumSplMulti pool => some pool

/-- The entry of an LST: its mint and its stake pool address. -/
def SanctumLst.splEntry (lst : SanctumLst) : Option (Pubkey × Pubkey) :=
  lst.pool.stakePoolAddress.map fun stakePoolAddress => (lst.mint, stakePoolAddress)

/-- `build_spl_lsts`, for a list that has been loaded. -/
def splLstsOf (lsts : List SanctumLst) : HashMap Pubkey Pubkey :=
  HashMap.collect (lsts.filterMap SanctumLst.splEntry)

/-- `build_spl_lsts`. -/
def buildSplLsts {ε : Type} (remote : Except ε (List SanctumLst)) (bundled : List SanctumLst) :
    HashMap Pubkey Pubkey :=
  splLstsOf (loadSanctumLstList remote bundled)

/-- `from_keyed_account`. -/
def InfAmm.fromKeyedAccount {T : Inf1Types} [Inf1Api T] (H : Type) [StreamHash H Pubkey]
    [SolanaPubkey] {ε : Type} (remote : Except ε (List SanctumLst)) (bundled : List SanctumLst)
    (keyedAccount : KeyedAccount) (clockRef : ClockRef) : Except (AmmErr T) (InfAmm T) :=
  InfAmm.new H keyedAccount clockRef (buildSplLsts remote bundled)

/-! ### The last stake pool of a mint -/

theorem SanctumLst.splEntry_eq_some_iff {lst : SanctumLst} {mint pool : Pubkey} :
    lst.splEntry = some (mint, pool) ↔ lst.mint = mint ∧ lst.pool.stakePoolAddress = some pool := by
  rw [SanctumLst.splEntry, Option.map_eq_some_iff]
  constructor
  · rintro ⟨address, haddress, heq⟩
    cases heq
    exact ⟨rfl, haddress⟩
  · rintro ⟨rfl, hpool⟩
    exact ⟨pool, hpool, rfl⟩

/-- The stake pool of a mint is that of its last entry with one. -/
theorem splLstsOf_eq_some_iff {lsts : List SanctumLst} {mint pool : Pubkey} :
    splLstsOf lsts mint = some pool ↔
      ∃ before lst after, lsts = before ++ lst :: after ∧ lst.mint = mint ∧
        lst.pool.stakePoolAddress = some pool ∧
        ∀ lst' ∈ after, lst'.mint = mint → lst'.pool.stakePoolAddress = none := by
  rw [splLstsOf, HashMap.collect_apply, Option.map_eq_some_iff]
  constructor
  · rintro ⟨⟨mint', pool'⟩, hentry, rfl⟩
    obtain ⟨rfl, before, after, hsplit, hafter⟩ := lastEntry_eq_some_iff.mp hentry
    obtain ⟨pre, rest, rfl, -, hrest⟩ := List.filterMap_eq_append_iff.mp hsplit
    -- the entries that `filterMap` drops come before the one that it keeps
    obtain ⟨dropped, lst, post, rfl, -, hlst, rfl⟩ := List.filterMap_eq_cons_iff.mp hrest
    obtain ⟨hmint, hpool⟩ := SanctumLst.splEntry_eq_some_iff.mp hlst
    refine ⟨pre ++ dropped, lst, post, by simp, hmint, hpool, fun lst' hlst' hmint' => ?_⟩
    refine Option.eq_none_iff_forall_ne_some.mpr fun address haddress => ?_
    have hkept : (lst'.mint, address) ∈ post.filterMap SanctumLst.splEntry :=
      List.mem_filterMap.mpr ⟨lst', hlst', SanctumLst.splEntry_eq_some_iff.mpr ⟨rfl, haddress⟩⟩
    exact hafter _ hkept hmint'
  · rintro ⟨before, lst, after, rfl, rfl, hpool, hafter⟩
    refine ⟨(lst.mint, pool), lastEntry_eq_some_iff.mpr ⟨rfl, before.filterMap SanctumLst.splEntry,
      after.filterMap SanctumLst.splEntry, ?_, ?_⟩, rfl⟩
    · rw [List.filterMap_append, List.filterMap_cons, SanctumLst.splEntry_eq_some_iff.mpr ⟨rfl, hpool⟩]
    · rintro ⟨mint', address⟩ hentry hmint
      obtain ⟨lst', hlst', hkept⟩ := List.mem_filterMap.mp hentry
      obtain ⟨hmint', haddress⟩ := SanctumLst.splEntry_eq_some_iff.mp hkept
      rw [hafter lst' hlst' (hmint'.trans hmint)] at haddress
      cases haddress

end InfJup
