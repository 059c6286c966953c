import InfJupInterface.Amm.Requests

/-!
# Update cycles on a snapshot

A cycle is what Jupiter does over and over: fetch the accounts that the AMM asks for, and update it
with them.  Here the accounts come from a fixed snapshot `S`, and the clock may be any.

* `WellFormed` says that the accounts which the pool of `S` needs are there and decode, and that
  its pricing program and calculators are known; `HasSplData` adds the SPL data.
* `Requested` are the accounts that a cycle has at hand: those named, and the Clock.  A cycle that
  has at hand what the pool as a whole needs enters its loop (`entersLoop_of_requested`).
* After any cycle the pool, the list and the pricing program are those of `S`
  (`synced_of_cycle`), so that every later cycle enters its loop.
-/

namespace InfJup

variable {T : Inf1Types} [Inf1Api T]

namespace InfAmm

/-- Update the AMM with the accounts of the snapshot that it asks for. -/
def cycle (snapshot : AccountMap) (mem : Atomics) (amm : InfAmm T) :
    Except (AmmErr T) Unit × InfAmm T :=
  match amm.getAccountsToUpdate with
  | .ok keys => (update mem (snapshot.restrict keys)).run amm
  | .error e => (.error e, amm)

/-- The state after a number of cycles; `mems k` is the clock in cycle `k`. -/
def afterCycles (snapshot : AccountMap) (mems : ℕ → Atomics) (amm : InfAmm T) : ℕ → InfAmm T
  | 0 => amm
  | k + 1 => (cycle snapshot (mems k) (afterCycles snapshot mems amm k)).2

/-- The result of cycle `k`, counted from zero. -/
def cycleResult (snapshot : AccountMap) (mems : ℕ → Atomics) (amm : InfAmm T) (k : ℕ) :
    Except (AmmErr T) Unit :=
  (cycle snapshot (mems k) (afterCycles snapshot mems amm k)).1

/-- The first cycle may be set apart. -/
theorem afterCycles_succ (snapshot : AccountMap) (mems : ℕ → Atomics) (amm : InfAmm T) (k : ℕ) :
    afterCycles snapshot mems amm (k + 1) =
      afterCycles snapshot (fun k => mems (k + 1)) (cycle snapshot (mems 0) amm).2 k := by
  induction k with
  | zero => rfl
  | succ k ih => rw [afterCycles, ih, afterCycles]

/-- The first cycle may be set apart. -/
theorem cycleResult_succ (snapshot : AccountMap) (mems : ℕ → Atomics) (amm : InfAmm T) (k : ℕ) :
    cycleResult snapshot mems amm (k + 1) =
      cycleResult snapshot (fun k => mems (k + 1)) (cycle snapshot (mems 0) amm).2 k := by
  rw [cycleResult, afterCycles_succ, cycleResult]

/-- The whole snapshot, as an update would see it. -/
def view (amm : InfAmm T) (snapshot : AccountMap) (mem : Atomics) : UpdateMap :=
  (amm.fetched mem snapshot).getAccount

/-- The account map of a cycle. -/
def cycleMap (amm : InfAmm T) (snapshot : AccountMap) (poolStateId lstStateListId : Pubkey) :
    AccountMap :=
  snapshot.restrict ((namedAccounts amm.inner poolStateId lstStateListId).filter
    fun pk => pk ≠ sysvarClock)

/-- The part of the snapshot that a cycle sees. -/
def cycleView (amm : InfAmm T) (snapshot : AccountMap) (mem : Atomics)
    (poolStateId lstStateListId : Pubkey) : UpdateMap :=
  (amm.fetched mem (amm.cycleMap snapshot poolStateId lstStateListId)).getAccount

/-- The accounts that a cycle has at hand, if they are in the snapshot: those named, and the
Clock. -/
def Requested (amm : InfAmm T) (poolStateId lstStateListId key : Pubkey) : Prop :=
  key = sysvarClock ∨ key ∈ namedAccounts amm.inner poolStateId lstStateListId

/-- The pool state is asked for. -/
theorem requested_poolStateId (amm : InfAmm T) (poolStateId lstStateListId : Pubkey) :
    amm.Requested poolStateId lstStateListId poolStateId :=
  Or.inr (by simp [namedAccounts])

/-- So is the LST state list. -/
theorem requested_lstStateListId (amm : InfAmm T) (poolStateId lstStateListId : Pubkey) :
    amm.Requested poolStateId lstStateListId lstStateListId :=
  Or.inr (by simp [namedAccounts])

/-- So is the LP token mint of the stored pool. -/
theorem requested_lpTokenMint (amm : InfAmm T) (poolStateId lstStateListId : Pubkey) :
    amm.Requested poolStateId lstStateListId (Inf1Api.lpTokenMint amm.inner.pool) :=
  Or.inr (by simp [namedAccounts])

/-- So are the accounts of the stored pricing program. -/
theorem requested_of_mem_pricing {amm : InfAmm T} {poolStateId lstStateListId key : Pubkey}
    (h : key ∈ Inf1Api.accountsToUpdateAll amm.inner.pricing
      ((lstStates amm.inner).map Inf1Api.mint)) : amm.Requested poolStateId lstStateListId key :=
  Or.inr (by simp [namedAccounts, h])

/-- So are the accounts of every LST on the stored list. -/
theorem requested_of_mem_lst {amm : InfAmm T} {poolStateId lstStateListId key : Pubkey}
    {l : T.LstState} (hl : l ∈ lstStates amm.inner) (h : key ∈ lstAccountsToUpdate amm.inner l) :
    amm.Requested poolStateId lstStateListId key :=
  Or.inr (List.mem_append_right _ (List.mem_flatMap.mpr ⟨l, hl, h⟩))

/-- A cycle sees what it has at hand as it is in the snapshot. -/
theorem cycleView_of_requested {amm : InfAmm T} {snapshot : AccountMap} {mem : Atomics}
    {poolStateId lstStateListId key : Pubkey}
    (h : amm.Requested poolStateId lstStateListId key) :
    amm.cycleView snapshot mem poolStateId lstStateListId key = amm.view snapshot mem key := by
  by_cases hclock : key = sysvarClock
  · rw [hclock, cycleView, view, AccountMapRef.getAccount_sysvarClock,
      AccountMapRef.getAccount_sysvarClock]
    rfl
  · have hnamed : key ∈ namedAccounts amm.inner poolStateId lstStateListId := h.resolve_left hclock
    have hmem : key ∈ (namedAccounts amm.inner poolStateId lstStateListId).filter
        fun pk => pk ≠ sysvarClock := by simp [hnamed, hclock]
    rw [cycleView, view, AccountMapRef.getAccount_of_ne _ hclock,
      AccountMapRef.getAccount_of_ne _ hclock]
    exact HashMap.restrict_of_mem snapshot hmem

/-- A cycle does not see anything else. -/
theorem cycleView_of_not_requested {amm : InfAmm T} {snapshot : AccountMap} {mem : Atomics}
    {poolStateId lstStateListId key : Pubkey}
    (h : ¬ amm.Requested poolStateId lstStateListId key) :
    amm.cycleView snapshot mem poolStateId lstStateListId key = none := by
  have hclock : key ≠ sysvarClock := fun hkey => h (Or.inl hkey)
  have hmem : key ∉ (namedAccounts amm.inner poolStateId lstStateListId).filter
      fun pk => pk ≠ sysvarClock := fun hmem => h (Or.inr (List.mem_filter.mp hmem).1)
  rw [cycleView, AccountMapRef.getAccount_of_ne _ hclock]
  exact HashMap.restrict_of_not_mem snapshot hmem

/-- What a cycle sees, it has asked for. -/
theorem requested_of_isSome {amm : InfAmm T} {snapshot : AccountMap} {mem : Atomics}
    {poolStateId lstStateListId key : Pubkey}
    (h : (amm.cycleView snapshot mem poolStateId lstStateListId key).isSome) :
    amm.Requested poolStateId lstStateListId key := by
  by_contra hmissing
  rw [cycleView_of_not_requested hmissing] at h
  cases h

end InfAmm

/-! ### Well-formed snapshots -/

variable [Inf1Spec T]

/-- The snapshot has what the pool of the AMM needs: the accounts of the pool, of its pricing program
and of every calculator on its list are there and decode, at any time, and the pricing program and
the calculators are known. -/
structure WellFormed (amm : InfAmm T) (snapshot : AccountMap) (poolStateId lstStateListId : Pubkey)
    (pool : T.VerPoolState) (lsts : List T.LstState) : Prop where
  poolStateId_eq : amm.poolStateId = .ok poolStateId
  lstStateListId_eq : amm.lstStateListId = .ok lstStateListId
  poolAcc : ∀ mem, ∃ acc, amm.view snapshot mem poolStateId = some acc ∧
    Inf1Spec.poolOfAccData acc.data = some pool
  listAcc : ∀ mem, ∃ acc, amm.view snapshot mem lstStateListId = some acc ∧
    Inf1Api.lstStatePackedListOfAccData acc.data = some lsts
  mintAcc : ∀ mem, ∃ acc supply, amm.view snapshot mem (Inf1Api.lpTokenMint pool) = some acc ∧
    Inf1Spec.supplyOfAccData T acc.data = some supply
  knownPricing : KnownPricing T (Inf1Spec.pricingProgram pool)
  pricing : ∀ mem (p : T.PricingAg), Inf1Spec.pricingProgramId p = Inf1Spec.pricingProgram pool →
    ∃ p', (Inf1Api.updateAll (lsts.map Inf1Api.mint) (amm.view snapshot mem)).run p = (.ok (), p')
  reserves : ∀ mem, ∀ l ∈ lsts, ∃ r,
    fetchedReserves amm.inner.createPda poolStateId (amm.view snapshot mem) l = some r
  knownSvc : ∀ l ∈ lsts, ∀ e, Inf1Spec.initSvc amm.inner.splLsts l = .error e →
    ∃ mint, e = .missingSplData mint
  svc : ∀ l ∈ lsts, ∀ c, Inf1Spec.initSvc amm.inner.splLsts l = .ok c →
    ∀ mem, ∃ c', (Inf1Api.updateSvc (amm.view snapshot mem)).run c = (.ok (), c')

/-- The SPL data of every LST on the list is there, if it needs any. -/
def HasSplData (splLsts : HashMap Pubkey Pubkey) (lsts : List T.LstState) : Prop :=
  ∀ l ∈ lsts, ∀ mint, Inf1Spec.initSvc splLsts l ≠ .error (.missingSplData mint)

/-- No mint is listed with two different calculators. -/
def OneCalculatorPerMint (lsts : List T.LstState) : Prop :=
  ∀ l ∈ lsts, ∀ l' ∈ lsts, Inf1Api.mint l = Inf1Api.mint l' →
    Inf1Spec.solValueCalculator l = Inf1Spec.solValueCalculator l'

/-- The pool, the list and the pricing program are those of the snapshot. -/
structure Synced (s : InfStd T) (pool : T.VerPoolState) (lsts : List T.LstState) : Prop where
  pool_eq : s.pool = pool
  decodes : Inf1Api.lstStatePackedListOfAccData s.lstStateListData = some lsts
  pricing_eq : Inf1Spec.pricingProgramId s.pricing = Inf1Spec.pricingProgram pool

/-- The AMM asks for what the pool of the snapshot needs as a whole. -/
def PoolRequested (amm : InfAmm T) (poolStateId lstStateListId : Pubkey) (pool : T.VerPoolState)
    (lsts : List T.LstState) : Prop :=
  amm.Requested poolStateId lstStateListId (Inf1Api.lpTokenMint pool) ∧
    ∀ p : T.PricingAg, Inf1Spec.pricingProgramId p = Inf1Spec.pricingProgram pool →
      ∀ key ∈ Inf1Api.accountsToUpdateAll p (lsts.map Inf1Api.mint),
        amm.Requested poolStateId lstStateListId key

/-- The AMM asks for the reserves of the LST. -/
def ReservesRequested (amm : InfAmm T) (poolStateId lstStateListId : Pubkey) (l : T.LstState) : Prop :=
  ∀ key, reservesAddr amm.inner.createPda poolStateId l = some key →
    amm.Requested poolStateId lstStateListId key

/-- The AMM asks for the accounts of the calculator that would be made for the LST. -/
def SvcRequested (amm : InfAmm T) (poolStateId lstStateListId : Pubkey) (l : T.LstState) : Prop :=
  ∀ c, Inf1Spec.initSvc amm.inner.splLsts l = .ok c →
    ∀ key ∈ Inf1Spec.accountsToUpdateSvc c, amm.Requested poolStateId lstStateListId key

variable [LawfulInf1 T]

/-- A state in step with the snapshot asks for what the pool as a whole needs. -/
theorem Synced.poolRequested {amm : InfAmm T} {poolStateId lstStateListId : Pubkey}
    {pool : T.VerPoolState} {lsts : List T.LstState} (h : Synced amm.inner pool lsts) :
    PoolRequested amm poolStateId lstStateListId pool lsts := by
  have hlsts : InfAmm.lstStates amm.inner = lsts := by
    rw [InfAmm.lstStates_eq, h.decodes]
    rfl
  constructor
  · rw [← h.pool_eq]
    exact amm.requested_lpTokenMint poolStateId lstStateListId
  · intro p hp key hkey
    refine InfAmm.requested_of_mem_pricing ?_
    rwa [hlsts, LawfulInf1.accountsToUpdateAll_congr _ (h.pricing_eq.trans hp.symm)]

namespace WellFormed

variable {amm amm' : InfAmm T} {snapshot : AccountMap} {poolStateId lstStateListId : Pubkey}
  {pool : T.VerPoolState} {lsts : List T.LstState} {mem : Atomics}

/-- A well-formed snapshot stays one: no update changes what it is well-formed for. -/
theorem of_fixedParts (h : WellFormed amm snapshot poolStateId lstStateListId pool lsts)
    (hfixed : InfAmm.FixedParts amm amm') :
    WellFormed amm' snapshot poolStateId lstStateListId pool lsts := by
  have hview (mem : Atomics) : amm'.view snapshot mem = amm.view snapshot mem := by
    rw [InfAmm.view, InfAmm.view, InfAmm.fetched, InfAmm.fetched, hfixed.clockRef]
  have hpool : amm'.poolStateId = amm.poolStateId := by
    rw [InfAmm.poolStateId, InfAmm.poolStateId, LawfulInf1.findPoolState_congr hfixed.inner]
  have hlist : amm'.lstStateListId = amm.lstStateListId := by
    rw [InfAmm.lstStateListId, InfAmm.lstStateListId, LawfulInf1.findLstStateList_congr hfixed.inner]
  constructor
  · rw [hpool]
    exact h.poolStateId_eq
  · rw [hlist]
    exact h.lstStateListId_eq
  · simpa only [hview] using h.poolAcc
  · simpa only [hview] using h.listAcc
  · simpa only [hview] using h.mintAcc
  · exact h.knownPricing
  · simpa only [hview] using h.pricing
  · simpa only [hview, ← hfixed.inner.createPda] using h.reserves
  · simpa only [← hfixed.inner.splLsts] using h.knownSvc
  · simpa only [hview, ← hfixed.inner.splLsts] using h.svc

omit [LawfulInf1 T] in
/-- What a cycle runs. -/
theorem cycle_eq (h : WellFormed amm snapshot poolStateId lstStateListId pool lsts) :
    amm.cycle snapshot mem =
      (InfAmm.update mem (amm.cycleMap snapshot poolStateId lstStateListId)).run amm := by
  rw [InfAmm.cycle, InfAmm.getAccountsToUpdate_eq h.poolStateId_eq h.lstStateListId_eq]
  rfl

/-- The fixed parts are kept by a cycle. -/
theorem fixedParts_cycle (h : WellFormed amm snapshot poolStateId lstStateListId pool lsts) :
    InfAmm.FixedParts amm (amm.cycle snapshot mem).2 := by
  rw [h.cycle_eq]
  exact InfAmm.fixedParts_of_update rfl

/-- The fixed parts are kept by any number of cycles. -/
theorem fixedParts_afterCycles (h : WellFormed amm snapshot poolStateId lstStateListId pool lsts)
    (mems : ℕ → Atomics) (k : ℕ) :
    InfAmm.FixedParts amm (InfAmm.afterCycles snapshot mems amm k) := by
  induction k with
  | zero => exact InfAmm.FixedParts.refl amm
  | succ k ih => exact ih.trans (h.of_fixedParts ih).fixedParts_cycle

/-- An update that sees what the pool as a whole needs enters its loop. -/
theorem entersLoop_of_seen (h : WellFormed amm snapshot poolStateId lstStateListId pool lsts)
    {accountMap : AccountMap}
    (hpool : (amm.fetched mem accountMap).getAccount poolStateId =
      amm.view snapshot mem poolStateId)
    (hlist : (amm.fetched mem accountMap).getAccount lstStateListId =
      amm.view snapshot mem lstStateListId)
    (hmint : (amm.fetched mem accountMap).getAccount (Inf1Api.lpTokenMint pool) =
      amm.view snapshot mem (Inf1Api.lpTokenMint pool))
    (hpricing : ∀ p : T.PricingAg, Inf1Spec.pricingProgramId p = Inf1Spec.pricingProgram pool →
      ∀ key ∈ Inf1Api.accountsToUpdateAll p (lsts.map Inf1Api.mint),
        (amm.fetched mem accountMap).getAccount key = amm.view snapshot mem key) :
    ∃ s, amm.EntersLoop mem accountMap poolStateId lstStateListId lsts s := by
  obtain ⟨bump, hpda⟩ := InfAmm.findPoolState_of_poolStateId h.poolStateId_eq
  obtain ⟨bump', hpda'⟩ := InfAmm.findLstStateList_of_lstStateListId h.lstStateListId_eq
  obtain ⟨poolAcc, hpoolAcc, hdecodes⟩ := h.poolAcc mem
  obtain ⟨listAcc, hlistAcc, hlsts⟩ := h.listAcc mem
  obtain ⟨mintAcc, supply, hmintAcc, hsupply⟩ := h.mintAcc mem
  have hprices : ∀ p : T.PricingAg,
      Inf1Spec.pricingProgramId p = Inf1Spec.pricingProgram pool →
      ∃ p', (Inf1Api.updateAll (lsts.map Inf1Api.mint)
        (amm.fetched mem accountMap).getAccount).run p = (.ok (), p') := by
    intro p hp
    obtain ⟨p', hrun⟩ := h.pricing mem p hp
    obtain ⟨q', hrun', -⟩ := LawfulInf1.updateAll_congr rfl
      (fun key hkey => (hpricing p hp key hkey).symm) hrun
    exact ⟨q', hrun'⟩
  obtain ⟨s, hs⟩ := updateWholePool_succeeds hpda hpda' (hpool.trans hpoolAcc) hdecodes
    h.knownPricing (hlist.trans hlistAcc) hlsts (hmint.trans hmintAcc) hsupply hprices
  exact ⟨s, h.poolStateId_eq, h.lstStateListId_eq, hs⟩

/-- A cycle that has at hand what the pool as a whole needs enters its loop. -/
theorem entersLoop_of_requested
    (h : WellFormed amm snapshot poolStateId lstStateListId pool lsts) (mem : Atomics)
    (hwhole : PoolRequested amm poolStateId lstStateListId pool lsts) :
    ∃ s, amm.EntersLoop mem (amm.cycleMap snapshot poolStateId lstStateListId) poolStateId
      lstStateListId lsts s :=
  h.entersLoop_of_seen
    (InfAmm.cycleView_of_requested (amm.requested_poolStateId poolStateId lstStateListId))
    (InfAmm.cycleView_of_requested (amm.requested_lstStateListId poolStateId lstStateListId))
    (InfAmm.cycleView_of_requested hwhole.1)
    fun p hp key hkey => InfAmm.cycleView_of_requested (hwhole.2 p hp key hkey)

/-- A cycle that enters its loop has at hand what the pool as a whole needs. -/
theorem poolRequested (h : WellFormed amm snapshot poolStateId lstStateListId pool lsts)
    {s : InfStd T} (henter : amm.EntersLoop mem (amm.cycleMap snapshot poolStateId lstStateListId)
      poolStateId lstStateListId lsts s) :
    PoolRequested amm poolStateId lstStateListId pool lsts := by
  have hstores := henter.storesFetched
  have hpool : s.pool = pool := by
    obtain ⟨acc, hacc, hdecodes⟩ := hstores.pool
    obtain ⟨acc', hacc', hdecodes'⟩ := h.poolAcc mem
    have hseen : amm.cycleView snapshot mem poolStateId lstStateListId poolStateId = some acc' :=
      (InfAmm.cycleView_of_requested
        (amm.requested_poolStateId poolStateId lstStateListId)).trans hacc'
    obtain rfl : acc = acc' := Option.some.inj (hacc.symm.trans hseen)
    exact Option.some.inj (hdecodes.symm.trans hdecodes')
  refine ⟨?_, fun p hp key hkey => ?_⟩
  · obtain ⟨acc, supply, hacc, -⟩ := hstores.supply
    rw [hpool] at hacc
    exact InfAmm.requested_of_isSome (by rw [InfAmm.cycleView, hacc]; rfl)
  · obtain ⟨q, hq, hrun⟩ := hstores.pricing
    rw [hpool] at hq
    rw [LawfulInf1.accountsToUpdateAll_congr _ (hp.trans hq.symm)] at hkey
    exact InfAmm.requested_of_isSome (LawfulInf1.updateAll_reads hrun key hkey)

/-- The loop of a cycle runs over the list of the snapshot. -/
theorem entersLoop_unique (h : WellFormed amm snapshot poolStateId lstStateListId pool lsts)
    {poolStateId' lstStateListId' : Pubkey} {lsts' : List T.LstState} {s : InfStd T}
    (henter : amm.EntersLoop mem (amm.cycleMap snapshot poolStateId lstStateListId) poolStateId'
      lstStateListId' lsts' s) :
    poolStateId' = poolStateId ∧ lstStateListId' = lstStateListId ∧ lsts' = lsts := by
  have hpool := henter.1
  have hlist := henter.2.1
  rw [h.poolStateId_eq] at hpool
  rw [h.lstStateListId_eq] at hlist
  cases hpool
  cases hlist
  obtain ⟨acc, hacc, hdecodes⟩ := h.listAcc mem
  have hstores := henter.storesFetched
  obtain ⟨acc', hacc', hdata⟩ := hstores.list
  have hseen : amm.cycleView snapshot mem poolStateId lstStateListId lstStateListId = some acc :=
    (InfAmm.cycleView_of_requested
      (amm.requested_lstStateListId poolStateId lstStateListId)).trans hacc
  obtain rfl : acc' = acc := Option.some.inj (hacc'.symm.trans hseen)
  have hdecodes' := hstores.decodes
  rw [hdata, hdecodes] at hdecodes'
  exact ⟨rfl, rfl, (Option.some.inj hdecodes').symm⟩

/-- After any cycle the state is in step with the snapshot. -/
theorem synced_of_cycle (h : WellFormed amm snapshot poolStateId lstStateListId pool lsts)
    (mem : Atomics) :
    Synced (amm.cycle snapshot mem).2.inner pool lsts := by
  obtain ⟨bump, hpda⟩ := InfAmm.findPoolState_of_poolStateId h.poolStateId_eq
  obtain ⟨bump', hpda'⟩ := InfAmm.findLstStateList_of_lstStateListId h.lstStateListId_eq
  obtain ⟨poolAcc, hpoolAcc, hpool⟩ := h.poolAcc mem
  obtain ⟨listAcc, hlistAcc, hlsts⟩ := h.listAcc mem
  have hpoolSeen : amm.cycleView snapshot mem poolStateId lstStateListId poolStateId = some poolAcc :=
    (InfAmm.cycleView_of_requested
      (amm.requested_poolStateId poolStateId lstStateListId)).trans hpoolAcc
  have hlistSeen :
      amm.cycleView snapshot mem poolStateId lstStateListId lstStateListId = some listAcc :=
    (InfAmm.cycleView_of_requested
      (amm.requested_lstStateListId poolStateId lstStateListId)).trans hlistAcc
  rcases hrun : (updateWholePool lstStateListId
    (amm.cycleView snapshot mem poolStateId lstStateListId)).run amm.inner with ⟨res, s⟩
  obtain ⟨hpool', hdata, hpricing⟩ := updateWholePool_stores hpda hpda' hpoolSeen hpool h.knownPricing
    hlistSeen hlsts hrun
  have hsynced : Synced s pool lsts := ⟨hpool', hdata ▸ hlsts, hpricing⟩
  rw [h.cycle_eq]
  rcases res with e | lsts'
  · have hstop : (updateInner poolStateId lstStateListId (amm.fetched mem
        (amm.cycleMap snapshot poolStateId lstStateListId)).getAccount).run amm.inner = (.error e, s) :=
      updateInner_of_error hrun
    rw [InfAmm.update_run h.poolStateId_eq h.lstStateListId_eq, hstop]
    exact hsynced
  · have henter : amm.EntersLoop mem (amm.cycleMap snapshot poolStateId lstStateListId) poolStateId
        lstStateListId lsts' s := ⟨h.poolStateId_eq, h.lstStateListId_eq, hrun⟩
    rw [henter.run]
    exact ⟨hsynced.pool_eq, hsynced.decodes, hsynced.pricing_eq⟩

end WellFormed

/-! ### The loop of a cycle -/

/-- The LST has a stored calculator of the program that the list names. -/
def CurrentAt (m : LstMaps T) (l : T.LstState) : Prop := ∃ c, HasCurrentCalc m.lstCalcs l c

omit [LawfulInf1 T] in
/-- A step that makes its own LST current keeps every listed LST current that was. -/
theorem OneCalculatorPerMint.currentAt_of_step {lsts : List T.LstState}
    (hone : OneCalculatorPerMint lsts) {m m' : LstMaps T} {l l' : T.LstState} (hl : l ∈ lsts)
    (hl' : l' ∈ lsts) (hframe : ∀ mint ≠ Inf1Api.mint l, m'.lstCalcs mint = m.lstCalcs mint)
    (hcur : CurrentAt m' l) (h : CurrentAt m l') : CurrentAt m' l' := by
  by_cases hmint : Inf1Api.mint l' = Inf1Api.mint l
  · obtain ⟨c, hc, hprogram⟩ := hcur
    exact ⟨c, by rw [hmint, hc], hprogram.trans (hone l hl l' hl' hmint.symm)⟩
  · obtain ⟨c, hc, hprogram⟩ := h
    exact ⟨c, (hframe _ hmint).trans hc, hprogram⟩

/-- An LST whose calculator has been through an update is current. -/
theorem currentAt_insert {splLsts : HashMap Pubkey Pubkey} {fetched : UpdateMap} {m : LstMaps T}
    {l : T.LstState} {c c' : T.SvcAg} {res : Except (UpdateErr T.UpdateSvcErr) Unit}
    {reserves : HashMap Pubkey T.Reserves} (hcalc : calcFor splLsts m.lstCalcs l = .ok c)
    (hupdate : (Inf1Api.updateSvc fetched).run c = (res, c')) :
    CurrentAt ⟨m.lstCalcs.insert (Inf1Api.mint l) c', reserves⟩ l := by
  have hkept := LawfulInf1.svcProgram_updateSvc fetched c
  rw [hupdate] at hkept
  exact ⟨c', HashMap.insert_self _ _ _, hkept.trans (svcProgram_calcFor hcalc)⟩

omit [Inf1Api T] [LawfulInf1 T] in
/-- The fetched reserves depend on the account of the reserves. -/
theorem fetchedReserves_congr {createPda : CreatePda} {poolStateId : Pubkey}
    {fetched fetched' : UpdateMap} {l : T.LstState}
    (h : ∀ key, reservesAddr createPda poolStateId l = some key → fetched key = fetched' key) :
    fetchedReserves createPda poolStateId fetched l =
      fetchedReserves createPda poolStateId fetched' l := by
  unfold fetchedReserves
  rcases hkey : reservesAddr createPda poolStateId l with _ | key
  · rfl
  · simp only [Option.bind_eq_bind, Option.bind_some, h key hkey]

omit [Inf1Api T] [LawfulInf1 T] in
/-- Fetched reserves come from the account of the reserves. -/
theorem exists_key_of_fetchedReserves {createPda : CreatePda} {poolStateId : Pubkey}
    {fetched : UpdateMap} {l : T.LstState} {r : T.Reserves}
    (h : fetchedReserves createPda poolStateId fetched l = some r) :
    ∃ key, reservesAddr createPda poolStateId l = some key ∧ (fetched key).isSome := by
  unfold fetchedReserves at h
  obtain ⟨key, hkey, h⟩ := Option.bind_eq_some_iff.mp h
  obtain ⟨acc, hacc, -⟩ := Option.bind_eq_some_iff.mp h
  exact ⟨key, hkey, by rw [hacc]; rfl⟩

/-- What the per-LST step of a cycle depends on: the account of the reserves, and the accounts of the
calculator. -/
inductive CycleStep (amm : InfAmm T) (poolStateId lstStateListId : Pubkey) (l : T.LstState)
    (m : LstMaps T) : Except (UpdateErr (InfErr T)) Unit × LstMaps T → Prop
  /-- The reserves were not asked for: the calculators stay as they are. -/
  | noReserves {e : UpdateErr (InfErr T)} {m' : LstMaps T}
      (hmissing : ¬ ReservesRequested amm poolStateId lstStateListId l)
      (hcalcs : m'.lstCalcs = m.lstCalcs) :
      CycleStep amm poolStateId lstStateListId l m (.error e, m')
  /-- The reserves were asked for: the LST becomes current.  The step fails only if some account of
  its calculator was not asked for. -/
  | reserves {res : Except (UpdateErr (InfErr T)) Unit} {m' : LstMaps T}
      (hreserves : ReservesRequested amm poolStateId lstStateListId l)
      (hcur : CurrentAt m' l)
      (hframe : ∀ mint ≠ Inf1Api.mint l, m'.lstCalcs mint = m.lstCalcs mint)
      (hres : res = .ok () ↔ SvcRequested amm poolStateId lstStateListId l) :
      CycleStep amm poolStateId lstStateListId l m (res, m')

namespace CycleStep

variable {amm : InfAmm T} {poolStateId lstStateListId : Pubkey} {l : T.LstState} {m m' : LstMaps T}
  {res : Except (UpdateErr (InfErr T)) Unit}

omit [LawfulInf1 T] in
/-- The step touches no calculator of another mint. -/
theorem frame (h : CycleStep amm poolStateId lstStateListId l m (res, m')) {mint : Pubkey}
    (hmint : mint ≠ Inf1Api.mint l) : m'.lstCalcs mint = m.lstCalcs mint := by
  cases h with
  | noReserves _ hcalcs => rw [hcalcs]
  | reserves _ _ hframe _ => exact hframe mint hmint

omit [LawfulInf1 T] in
/-- A step that gets past the reserves leaves its LST current. -/
theorem makesCurrent (h : CycleStep amm poolStateId lstStateListId l m (res, m'))
    (hreserves : ReservesRequested amm poolStateId lstStateListId l) : CurrentAt m' l := by
  cases h with
  | noReserves hmissing => exact absurd hreserves hmissing
  | reserves _ hcur _ _ => exact hcur

omit [LawfulInf1 T] in
/-- A step never takes a calculator away. -/
theorem keepsCalc (h : CycleStep amm poolStateId lstStateListId l m (res, m')) {mint : Pubkey}
    (hm : ∃ c, m.lstCalcs mint = some c) : ∃ c, m'.lstCalcs mint = some c := by
  cases h with
  | noReserves _ hcalcs => rwa [hcalcs]
  | reserves _ hcur hframe _ =>
    by_cases hmint : mint = Inf1Api.mint l
    · obtain ⟨c, hc, -⟩ := hcur
      exact ⟨c, hmint ▸ hc⟩
    · rwa [hframe mint hmint]

omit [LawfulInf1 T] in
/-- A step keeps the listed LSTs current that were. -/
theorem keepsCurrent {lsts : List T.LstState}
    (h : CycleStep amm poolStateId lstStateListId l m (res, m')) (hone : OneCalculatorPerMint lsts)
    (hl : l ∈ lsts) {l' : T.LstState} (hl' : l' ∈ lsts) (hm : CurrentAt m l') : CurrentAt m' l' := by
  cases h with
  | noReserves _ hcalcs =>
    obtain ⟨c, hc⟩ := hm
    exact ⟨c, by rwa [hcalcs]⟩
  | reserves _ hcur hframe _ => exact hone.currentAt_of_step hl hl' hframe hcur hm

omit [LawfulInf1 T] in
/-- A step goes through exactly when it has at hand all that its LST needs. -/
theorem eq_ok_iff (h : CycleStep amm poolStateId lstStateListId l m (res, m')) :
    res = .ok () ↔ ReservesRequested amm poolStateId lstStateListId l ∧
      SvcRequested amm poolStateId lstStateListId l := by
  cases h with
  | noReserves hmissing =>
    exact ⟨fun hres => (by cases hres), fun hboth => absurd hboth.1 hmissing⟩
  | reserves hreserves _ _ hres =>
    rw [hres]
    exact ⟨fun hsvc => ⟨hreserves, hsvc⟩, fun hboth => hboth.2⟩

end CycleStep

namespace WellFormed

variable {amm amm' : InfAmm T} {snapshot : AccountMap} {poolStateId lstStateListId : Pubkey}
  {pool : T.VerPoolState} {lsts : List T.LstState} {mem : Atomics} {l : T.LstState}

omit [LawfulInf1 T] in
/-- With the SPL data, every listed LST has a calculator made for it. -/
theorem exists_initSvc (h : WellFormed amm snapshot poolStateId lstStateListId pool lsts)
    (hspl : HasSplData amm.inner.splLsts lsts) (hl : l ∈ lsts) :
    ∃ c₀, Inf1Spec.initSvc amm.inner.splLsts l = .ok c₀ := by
  rcases hinit : Inf1Spec.initSvc amm.inner.splLsts l with e | c₀
  · obtain ⟨mint, rfl⟩ := h.knownSvc l hl e hinit
    exact absurd hinit (hspl l hl mint)
  · exact ⟨c₀, rfl⟩

omit [LawfulInf1 T] in
/-- The reserves of every listed LST have an address. -/
theorem exists_reservesAddr (h : WellFormed amm snapshot poolStateId lstStateListId pool lsts)
    (hl : l ∈ lsts) : ∃ key, reservesAddr amm.inner.createPda poolStateId l = some key := by
  obtain ⟨r, hr⟩ := h.reserves (fun _ => ⟨0, 0, 0, 0, 0⟩) l hl
  obtain ⟨key, hkey, -⟩ := exists_key_of_fetchedReserves hr
  exact ⟨key, hkey⟩

omit [LawfulInf1 T] in
/-- The reserves are at hand exactly when they were asked for. -/
theorem fetchedReserves_isSome_iff (h : WellFormed amm snapshot poolStateId lstStateListId pool lsts)
    (mem : Atomics) (hl : l ∈ lsts) :
    (fetchedReserves amm.inner.createPda poolStateId
      (amm.cycleView snapshot mem poolStateId lstStateListId) l).isSome ↔
        ReservesRequested amm poolStateId lstStateListId l := by
  constructor
  · intro hsome key hkey
    obtain ⟨r, hr⟩ := Option.isSome_iff_exists.mp hsome
    obtain ⟨key', hkey', hfetched⟩ := exists_key_of_fetchedReserves hr
    rw [hkey'] at hkey
    cases hkey
    exact InfAmm.requested_of_isSome hfetched
  · intro hreserves
    obtain ⟨r, hr⟩ := h.reserves mem l hl
    have hsame : fetchedReserves amm.inner.createPda poolStateId
        (amm.cycleView snapshot mem poolStateId lstStateListId) l =
          fetchedReserves amm.inner.createPda poolStateId (amm.view snapshot mem) l :=
      fetchedReserves_congr fun key hkey => InfAmm.cycleView_of_requested (hreserves key hkey)
    rw [hsame, hr]
    rfl

/-- **The per-LST step of a cycle.** -/
theorem cycleStep (h : WellFormed amm snapshot poolStateId lstStateListId pool lsts)
    (hspl : HasSplData amm.inner.splLsts lsts) (mem : Atomics) (hl : l ∈ lsts) {m : LstMaps T}
    (hm : CalcsMade amm.inner.splLsts m.lstCalcs) :
    CycleStep amm poolStateId lstStateListId l m
      ((amm.lstStep mem (amm.cycleMap snapshot poolStateId lstStateListId) poolStateId l).run m) := by
  obtain ⟨c₀, hinit⟩ := h.exists_initSvc hspl hl
  rcases hrun : (amm.lstStep mem (amm.cycleMap snapshot poolStateId lstStateListId)
    poolStateId l).run m with ⟨res, m'⟩
  have hout : LstOutcome amm.inner.createPda amm.inner.splLsts poolStateId
      (amm.cycleView snapshot mem poolStateId lstStateListId) l m (res, m') :=
    hrun ▸ updateLst_outcome
  have hnoError {e : InfErr T} (hcalc : calcFor amm.inner.splLsts m.lstCalcs l = .error e) : False := by
    rw [initSvc_of_calcFor_error hcalc] at hinit
    cases hinit
  have hrequested {r : T.Reserves} (hreserves : fetchedReserves amm.inner.createPda poolStateId
      (amm.cycleView snapshot mem poolStateId lstStateListId) l = some r) :
      ReservesRequested amm poolStateId lstStateListId l :=
    (h.fetchedReserves_isSome_iff mem hl).mp (by rw [hreserves]; rfl)
  cases hout with
  | noReserves hreserves hcalcs hframe =>
    refine .noReserves (fun hreq => ?_) hcalcs
    have hsome := (h.fetchedReserves_isSome_iff mem hl).mpr hreq
    rw [hreserves] at hsome
    cases hsome
  | noSplData _ hcalc => exact (hnoError hcalc).elim
  | noCalc _ hcalc => exact (hnoError hcalc).elim
  | @notUpdated r c c' e hreserves hcalc hupdate =>
    obtain ⟨d₀, hinit', hprogram, haccounts⟩ := initSvc_of_calcFor_ok hm hcalc
    refine .reserves (hrequested hreserves) (currentAt_insert hcalc hupdate)
      (fun mint hmint => HashMap.insert_of_ne _ _ hmint) ⟨fun herr => (by cases herr), fun hall => ?_⟩
    obtain ⟨d', hupdate'⟩ := h.svc l hl d₀ hinit' mem
    have hsame := LawfulInf1.updateSvc_congr hprogram.symm haccounts.symm
      (fun key hkey => (InfAmm.cycleView_of_requested (hall d₀ hinit' key hkey)).symm) hupdate'
    rw [hupdate] at hsame
    cases hsame
  | @updated r c c' hreserves hcalc hupdate =>
    obtain ⟨d₀, hinit', hprogram, haccounts⟩ := initSvc_of_calcFor_ok hm hcalc
    refine .reserves (hrequested hreserves) (currentAt_insert hcalc hupdate)
      (fun mint hmint => HashMap.insert_of_ne _ _ hmint) ⟨fun _ d hd key hkey => ?_, fun _ => rfl⟩
    rw [hinit'] at hd
    cases hd
    exact InfAmm.requested_of_isSome (LawfulInf1.updateSvc_reads hupdate key (haccounts ▸ hkey))

/-- A listed LST with a calculator has its reserves and the accounts of the calculator asked for. -/
theorem requested_of_stored (h : WellFormed amm snapshot poolStateId lstStateListId pool lsts)
    (hdecodes : Inf1Api.lstStatePackedListOfAccData amm.inner.lstStateListData = some lsts)
    (hl : l ∈ lsts) {c : T.SvcAg} (hc : amm.inner.lstCalcs (Inf1Api.mint l) = some c) :
    ReservesRequested amm poolStateId lstStateListId l ∧
      ∀ key ∈ Inf1Spec.accountsToUpdateSvc c, amm.Requested poolStateId lstStateListId key := by
  obtain ⟨bump, hpda⟩ := InfAmm.findPoolState_of_poolStateId h.poolStateId_eq
  obtain ⟨key, hkey⟩ := h.exists_reservesAddr hl
  have hlisted : l ∈ InfAmm.lstStates amm.inner := by
    rw [InfAmm.lstStates_eq, hdecodes]
    exact hl
  have hnamed := InfAmm.lstAccountsToUpdate_of_some hpda hc hkey
  refine ⟨fun key' hkey' => ?_, fun key' hkey' => ?_⟩
  · rw [hkey] at hkey'
    cases hkey'
    exact InfAmm.requested_of_mem_lst hlisted (by rw [hnamed]; exact List.mem_cons_self)
  · refine InfAmm.requested_of_mem_lst hlisted ?_
    rw [hnamed]
    exact List.mem_cons_of_mem _ hkey'

/-- In particular a listed LST that is current has all that it needs asked for. -/
theorem requested_of_current (h : WellFormed amm snapshot poolStateId lstStateListId pool lsts)
    (hdecodes : Inf1Api.lstStatePackedListOfAccData amm.inner.lstStateListData = some lsts)
    (hmade : CalcsMade amm.inner.splLsts amm.inner.lstCalcs) (hl : l ∈ lsts)
    (hcur : CurrentAt amm.inner.lstMaps l) :
    ReservesRequested amm poolStateId lstStateListId l ∧
      SvcRequested amm poolStateId lstStateListId l := by
  obtain ⟨c, hc⟩ := hcur
  obtain ⟨hreserves, haccounts⟩ := h.requested_of_stored hdecodes hl hc.1
  refine ⟨hreserves, fun c₀ hinit key hkey => ?_⟩
  obtain ⟨d₀, hinit', -, hsame⟩ := initSvc_of_calcFor_ok hmade (calcFor_of_current hc)
  rw [hinit] at hinit'
  cases hinit'
  exact haccounts key (hsame ▸ hkey)

/-- A cycle keeps the calculators made for their mints. -/
theorem calcsMade_cycle (h : WellFormed amm snapshot poolStateId lstStateListId pool lsts)
    (mem : Atomics) (hmade : CalcsMade amm.inner.splLsts amm.inner.lstCalcs) :
    CalcsMade (amm.cycle snapshot mem).2.inner.splLsts (amm.cycle snapshot mem).2.inner.lstCalcs := by
  rw [h.cycle_eq]
  exact calcsMade_of_update hmade rfl

/-- A cycle that enters its loop ends as the loop does. -/
theorem cycle_of_loop (h : WellFormed amm snapshot poolStateId lstStateListId pool lsts)
    {s : InfStd T} {m : LstMaps T} {res : Except (UpdateErr (InfErr T)) Unit}
    (henter : amm.EntersLoop mem (amm.cycleMap snapshot poolStateId lstStateListId) poolStateId
      lstStateListId lsts s)
    (hloop : (Mutation.tryForEach (amm.lstStep mem (amm.cycleMap snapshot poolStateId lstStateListId)
      poolStateId) lsts).run amm.inner.lstMaps = (res, m)) :
    (amm.cycle snapshot mem).1 = res.mapError .update ∧
      (amm.cycle snapshot mem).2.inner.lstMaps = m := by
  rw [h.cycle_eq, henter.run, hloop]
  exact ⟨rfl, rfl⟩

/-- A cycle that does not enter its loop fails, and keeps the two maps. -/
theorem cycle_of_stopsBeforeLoop
    (h : WellFormed amm snapshot poolStateId lstStateListId pool lsts)
    (hstop : amm.StopsBeforeLoop mem (amm.cycleMap snapshot poolStateId lstStateListId)) :
    (∃ e, (amm.cycle snapshot mem).1 = .error e) ∧
      (amm.cycle snapshot mem).2.inner.lstMaps = amm.inner.lstMaps := by
  obtain ⟨e, amm', hrun, hkept, -⟩ := hstop.run
  rw [h.cycle_eq, hrun]
  exact ⟨⟨e, rfl⟩, hkept.maps⟩

/-- What every step of a cycle preserves, the cycle preserves. -/
theorem cycle_preserves (h : WellFormed amm snapshot poolStateId lstStateListId pool lsts)
    (hspl : HasSplData amm.inner.splLsts lsts)
    (hmade : CalcsMade amm.inner.splLsts amm.inner.lstCalcs) {P : LstMaps T → Prop}
    (hP : P amm.inner.lstMaps)
    (hstep : ∀ l ∈ lsts, ∀ m res m', P m →
      CycleStep amm poolStateId lstStateListId l m (res, m') → P m') :
    P (amm.cycle snapshot mem).2.inner.lstMaps := by
  rcases InfAmm.stopsBeforeLoop_or_entersLoop amm mem
    (amm.cycleMap snapshot poolStateId lstStateListId) with hstop | ⟨p, q, lsts', s, henter⟩
  · rw [(h.cycle_of_stopsBeforeLoop hstop).2]
    exact hP
  · obtain ⟨rfl, rfl, rfl⟩ := h.entersLoop_unique henter
    rw [(h.cycle_of_loop henter rfl).2]
    refine (Mutation.tryForEach_preserves
      (P := fun m : LstMaps T => CalcsMade amm.inner.splLsts m.lstCalcs ∧ P m) ⟨hmade, hP⟩ ?_).2
    intro x hx m hm
    exact ⟨calcsMade_of_lstStep hm.1 rfl, hstep x hx m _ _ hm.2 (h.cycleStep hspl mem hx hm.1)⟩

end WellFormed

/-! ### The pool on chain -/

namespace Reference

/-- The pool reserves of wSOL. -/
def wsolReserves : Pubkey :=
  #v[208, 79, 162, 235, 89, 74, 56, 57, 42, 50, 57, 229, 224, 100, 94, 219, 131, 124, 41, 241, 209, 249,
    123, 81, 23, 26, 75, 39, 36, 247, 142, 162]

theorem reservesAddr_wsol :
    reservesAddr (T := inf1) (createRawPda Sha256Hasher) infPoolState wsol = some wsolReserves := by
  decide +kernel

/-- The pool of the snapshot: its pricing program is no longer that of the bootstrap pool. -/
def chainPool : PoolState := ⟨2, flatSlabProgramId, infMintAddr, 0⟩

/-- The accounts of the pool with the given list, with its reserves. -/
def onChain (lsts : List LstState) : AccountMap := fun key =>
  if key = infPoolState then some (account (poolData flatSlabProgramId infMintAddr) infProgramId)
  else if key = infLstStateList then some (listAccount lsts)
  else if key = infMintAddr then some (account (List.replicate 82 0) tokenProgramId)
  else if key = slab then some (account [] flatSlabProgramId)
  else if some key ∈ lsts.map (reservesAddr (T := inf1) (createRawPda Sha256Hasher) infPoolState) then
    some (account (List.replicate 165 0) tokenProgramId)
  else none

/-- The clock at the start of the chain. -/
def genesis : Atomics := fun _ => ⟨0, 0, 0, 0, 0⟩

/-- The reserves of every listed LST are at an address of their own. -/
def ReservesApart (lsts : List LstState) : Prop :=
  ∀ l ∈ lsts, ∃ key, reservesAddr (T := inf1) (createRawPda Sha256Hasher) infPoolState l = some key ∧
    key ∉ [sysvarClock, infPoolState, infLstStateList, infMintAddr, slab]

theorem reservesApart_wsol : ReservesApart [wsol] := by
  intro l hl
  rw [List.mem_singleton.mp hl]
  exact ⟨wsolReserves, reservesAddr_wsol, by decide⟩

/-- The addresses of the pool are cached. -/
theorem addresses_ammWith (pricingProgram : Pubkey) (lsts : List LstState)
    (calcs : HashMap Pubkey SvcAg) :
    Addresses Sha256Hasher (ammWith pricingProgram lsts calcs).inner infPoolState infLstStateList :=
  ⟨rfl, rfl, ⟨255, findPda_infPoolState, rfl⟩, ⟨255, findPda_infLstStateList, rfl⟩⟩

/-- The stored list is the given one. -/
theorem lstStates_ammWith (pricingProgram : Pubkey) (lsts : List LstState)
    (calcs : HashMap Pubkey SvcAg) :
    InfAmm.lstStates (ammWith pricingProgram lsts calcs).inner = lsts := by
  have hdecodes : Inf1Api.lstStatePackedListOfAccData (T := inf1)
      (ammWith pricingProgram lsts calcs).inner.lstStateListData = some lsts :=
    lstStatePackedListOfAccData_lstStateListData lsts
  rw [InfAmm.lstStates_eq, hdecodes]
  rfl

theorem pricingAccounts_flatSlab (mints : List Pubkey) :
    pricingAccounts flatSlabProgramId mints = [slab] := by
  rw [pricingAccounts, if_neg (by decide), if_pos rfl]

/-- Without SPL data, an SPL LST has no calculator, and wSOL has one. -/
theorem initSvc_of_wsol_or_spl {l : LstState}
    (h : l.solValueCalculator = wsolCalculator ∨ l.solValueCalculator = splCalculator) :
    initSvc HashMap.empty l = .ok wsolSvc ∨
      initSvc HashMap.empty l = .error (.missingSplData l.mint) := by
  rcases h with hcalc | hcalc
  · left
    rw [initSvc, if_pos hcalc]
    rfl
  · right
    rw [initSvc, hcalc, if_neg (by decide), if_neg (by decide), if_neg (by decide), if_pos rfl]
    rfl

section OnChain

variable {amm : InfAmm inf1} {lsts : List LstState} {mem : Atomics}

/-- What is in the snapshot, at addresses other than that of the Clock. -/
theorem view_onChain {key : Pubkey} (h : key ≠ sysvarClock) :
    amm.view (onChain lsts) mem key = onChain lsts key := by
  rw [InfAmm.view, AccountMapRef.getAccount_of_ne _ h]
  rfl

/-- The pricing program of the snapshot updates. -/
theorem updateAll_onChain {p : PricingAg} (hprogram : p.programId = flatSlabProgramId)
    (mints : List Pubkey) : ∃ p', (Inf1Api.updateAll (T := inf1) mints
      (amm.view (onChain lsts) mem)).run p = (.ok (), p') := by
  have hslab : amm.view (onChain lsts) mem slab = some (account [] flatSlabProgramId) := by
    rw [view_onChain (by decide), onChain, if_neg (by decide), if_neg (by decide),
      if_neg (by decide), if_pos rfl]
  have hread : readAll (amm.view (onChain lsts) mem) (pricingAccounts p.programId mints) =
      .ok [[]] := by
    rw [hprogram, pricingAccounts_flatSlab, readAll, hslab]
    rfl
  exact ⟨_, commit_eq_ok_iff.mpr (by rw [updateAll, hread])⟩

/-- The reserves of a listed LST are in the snapshot. -/
theorem fetchedReserves_onChain (h : ReservesApart lsts) {l : LstState} (hl : l ∈ lsts) :
    ∃ r, fetchedReserves (T := inf1) (createRawPda Sha256Hasher) infPoolState
      (amm.view (onChain lsts) mem) l = some r := by
  obtain ⟨key, hkey, hapart⟩ := h l hl
  simp only [List.mem_cons, List.not_mem_nil, or_false, not_or] at hapart
  obtain ⟨hclock, hpool, hlist, hmint, hslab⟩ := hapart
  have hlisted : some key ∈ lsts.map
      (reservesAddr (T := inf1) (createRawPda Sha256Hasher) infPoolState) :=
    List.mem_map.mpr ⟨l, hl, hkey⟩
  have hview : amm.view (onChain lsts) mem key =
      some (account (List.replicate 165 0) tokenProgramId) := by
    rw [view_onChain hclock, onChain, if_neg hpool, if_neg hlist, if_neg hmint, if_neg hslab,
      if_pos hlisted]
  refine ⟨u64At (List.replicate 165 0) 64, ?_⟩
  simp only [fetchedReserves, hkey, hview, Option.bind_eq_bind, Option.bind_some]
  change balanceOfAccData (List.replicate 165 0) = _
  rw [balanceOfAccData, if_pos (by simp only [List.length_replicate, le_refl])]

/-- The snapshot is well-formed, if its LSTs are wSOL or SPL LSTs. -/
theorem wellFormed_onChain {pricingProgram : Pubkey} {lsts' : List LstState}
    {calcs : HashMap Pubkey SvcAg} (hreserves : ReservesApart lsts)
    (hcalcs : ∀ l ∈ lsts, l.solValueCalculator = wsolCalculator ∨
      l.solValueCalculator = splCalculator) :
    WellFormed (ammWith pricingProgram lsts' calcs) (onChain lsts) infPoolState infLstStateList
      chainPool lsts := by
  have haddr := addresses_ammWith pricingProgram lsts' calcs
  refine ⟨haddr.poolStateId_eq, haddr.lstStateListId_eq, fun mem => ?_, fun mem => ?_, fun mem => ?_, ?_,
    fun mem p hp => updateAll_onChain hp _, fun mem l hl => fetchedReserves_onChain hreserves hl,
    fun l hl e he => ?_, fun l hl c hc mem => ?_⟩
  · exact ⟨_, (view_onChain (by decide)).trans (if_pos rfl),
      poolOfAccData_poolData flatSlabProgramId infMintAddr⟩
  · refine ⟨listAccount lsts, ?_, lstStatePackedListOfAccData_lstStateListData lsts⟩
    rw [view_onChain (by decide), onChain, if_neg (by decide), if_pos rfl]
  · refine ⟨account (List.replicate 82 0) tokenProgramId, u64At (List.replicate 82 0) 36, ?_, ?_⟩
    · change InfAmm.view _ _ _ infMintAddr = _
      rw [view_onChain (by decide), onChain, if_neg (by decide), if_neg (by decide), if_pos rfl]
    · change supplyOfAccData (List.replicate 82 0) = _
      rw [supplyOfAccData, if_pos (by simp only [List.length_replicate, le_refl])]
  · change isKnownPricing flatSlabProgramId = true
    decide
  · rcases initSvc_of_wsol_or_spl (hcalcs l hl) with h | h
    · cases h.symm.trans he
    · cases h.symm.trans he
      exact ⟨_, rfl⟩
  · rcases initSvc_of_wsol_or_spl (hcalcs l hl) with h | h
    · cases h.symm.trans hc
      exact ⟨wsolSvc, rfl⟩
    · cases h.symm.trans hc

end OnChain

/-- The snapshot of the pool with wSOL alone. -/
theorem wellFormed_wsol (pricingProgram : Pubkey) (lsts : List LstState)
    (calcs : HashMap Pubkey SvcAg) :
    WellFormed (ammWith pricingProgram lsts calcs) (onChain [wsol]) infPoolState infLstStateList
      chainPool [wsol] :=
  wellFormed_onChain reservesApart_wsol fun l hl => Or.inl (by rw [List.mem_singleton.mp hl]; rfl)

theorem hasSplData_wsol (splLsts : HashMap Pubkey Pubkey) :
    HasSplData (T := inf1) splLsts [wsol] := by
  intro l hl mint h
  rw [List.mem_singleton.mp hl] at h
  cases h.symm.trans (initSvc_wsol splLsts)

theorem oneCalculatorPerMint_wsol : OneCalculatorPerMint (T := inf1) [wsol] := by
  intro l hl l' hl' _
  rw [List.mem_singleton.mp hl, List.mem_singleton.mp hl']

end Reference

end InfJup
