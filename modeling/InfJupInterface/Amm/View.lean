import InfJupInterface.Amm.Footprint
import InfJupInterface.Amm.HistoryIndependence
import InfJupInterface.Data.LastEntry

/-!
# What a successful update shows

The purpose of the AMM is to mirror the pool on chain.  `poolView` says what there is to mirror, as a
function of the fetched accounts alone: the pool, the list, the supply of the LP token, and for every
listed mint the reserves and a calculator made afresh and updated once.  A mint may be listed more
than once; its last entry decides.

The update computes it in place, over whatever the updates before have left, and reuses the
calculators it finds.  In every reachable state a successful update refines the view
(`update_mirrors`).  It follows that accounts outside the footprint make no difference: the update
with a part of a snapshot leaves what the update with the whole snapshot leaves
(`update_part_eq_update_whole`).
-/

namespace InfJup

variable {T : Inf1Types} [Inf1Api T] [Inf1Spec T]

/-! ### The view -/

/-- What there is to know about a pool. -/
structure PoolView (T : Inf1Types) where
  /-- The pool state. -/
  pool : T.VerPoolState
  /-- The LST state list. -/
  lsts : List T.LstState
  /-- The supply of the LP token. -/
  supply : UInt64
  /-- The reserves of the listed mints. -/
  reserves : HashMap Pubkey T.Reserves
  /-- The calculators of the listed mints, as far as there is the SPL data for them. -/
  calcs : HashMap Pubkey T.SvcAg

/-- A calculator made afresh and updated once. -/
def freshCalc (splLsts : HashMap Pubkey Pubkey) (fetched : UpdateMap) (l : T.LstState) :
    Option T.SvcAg :=
  match Inf1Spec.initSvc splLsts l with
  | .ok c => some ((Inf1Api.updateSvc fetched).run c).2
  | .error _ => none

/-- The reserves that the fetched accounts show. -/
def shownReserves (createPda : CreatePda) (poolStateId : Pubkey) (fetched : UpdateMap)
    (lsts : List T.LstState) : HashMap Pubkey T.Reserves := fun mint =>
  (lastEntry Inf1Api.mint lsts mint).bind (fetchedReserves createPda poolStateId fetched)

/-- The calculators that they show. -/
def shownCalcs (splLsts : HashMap Pubkey Pubkey) (fetched : UpdateMap) (lsts : List T.LstState) :
    HashMap Pubkey T.SvcAg := fun mint =>
  (lastEntry Inf1Api.mint lsts mint).bind (freshCalc splLsts fetched)

/-- The pool that they show. -/
def poolView (createPda : CreatePda) (splLsts : HashMap Pubkey Pubkey)
    (poolStateId lstStateListId : Pubkey) (fetched : UpdateMap) : Option (PoolView T) := do
  let poolAcc ← fetched poolStateId
  let pool ← Inf1Spec.poolOfAccData poolAcc.data
  let listAcc ← fetched lstStateListId
  let lsts ← Inf1Api.lstStatePackedListOfAccData listAcc.data
  let mintAcc ← fetched (Inf1Api.lpTokenMint pool)
  let supply ← Inf1Spec.supplyOfAccData T mintAcc.data
  some
    { pool := pool
      lsts := lsts
      supply := supply
      reserves := shownReserves createPda poolStateId fetched lsts
      calcs := shownCalcs splLsts fetched lsts }

/-- The state shows the view, and its pricing program is updated from the fetched accounts. -/
structure Mirrors (fetched : UpdateMap) (view : PoolView T) (s : InfStd T) : Prop where
  pool : s.pool = view.pool
  list : Inf1Api.lstStatePackedListOfAccData s.lstStateListData = some view.lsts
  supply : s.lpTokenSupply = some view.supply
  pricing : ∃ p : T.PricingAg, Inf1Spec.pricingProgramId p = Inf1Spec.pricingProgram view.pool ∧
    (Inf1Api.updateAll (view.lsts.map Inf1Api.mint) fetched).run p = (.ok (), s.pricing)
  entries : ∀ mint ∈ view.lsts.map Inf1Api.mint, s.lstCalcs mint = view.calcs mint ∧
    s.lstReserves mint = view.reserves mint ∧ (s.lstReserves mint).isSome

/-- What is stored shows the view, as far as the fields of the pool as a whole go. -/
theorem StoresFetched.poolView_eq {createPda : CreatePda} {splLsts : HashMap Pubkey Pubkey}
    {poolStateId lstStateListId : Pubkey} {fetched : UpdateMap} {lsts : List T.LstState}
    {s : InfStd T} (h : StoresFetched poolStateId lstStateListId fetched lsts s) :
    ∃ supply, s.lpTokenSupply = some supply ∧
      poolView createPda splLsts poolStateId lstStateListId fetched =
        some ⟨s.pool, lsts, supply, shownReserves createPda poolStateId fetched lsts,
          shownCalcs splLsts fetched lsts⟩ := by
  obtain ⟨poolAcc, hpoolAcc, hpool⟩ := h.pool
  obtain ⟨listAcc, hlistAcc, hdata⟩ := h.list
  obtain ⟨mintAcc, supply, hmintAcc, hsupply, hstored⟩ := h.supply
  have hlsts := h.decodes
  rw [hdata] at hlsts
  refine ⟨supply, hstored, ?_⟩
  simp only [poolView, hpoolAcc, hpool, hlistAcc, hlsts, hmintAcc, hsupply, Option.bind_eq_bind,
    Option.bind_some]

/-! ### The loop -/

section Loop

variable {createPda : CreatePda} {splLsts : HashMap Pubkey Pubkey} {poolStateId : Pubkey}
  {fetched fetched' : UpdateMap} {lsts : List T.LstState} {m m' : LstMaps T}

variable [LawfulInf1 T]

/-- A successful step leaves the fetched reserves of its LST, and a calculator like a fresh one. -/
theorem LstOutcome.shown {l : T.LstState} (hm : CalcsMade splLsts m.lstCalcs)
    (h : LstOutcome createPda splLsts poolStateId fetched l m (.ok (), m')) :
    m'.lstCalcs (Inf1Api.mint l) = freshCalc splLsts fetched l ∧
      m'.lstReserves (Inf1Api.mint l) = fetchedReserves createPda poolStateId fetched l ∧
      (m'.lstReserves (Inf1Api.mint l)).isSome := by
  cases h with
  | noSplData hreserves hcalc =>
    rw [hreserves, freshCalc, initSvc_of_calcFor_error hcalc]
    simp
  | @updated r c c' hreserves hcalc hupdate =>
    obtain ⟨c₀, hinit, hprogram, haccounts⟩ := initSvc_of_calcFor_ok hm hcalc
    have hfresh : (Inf1Api.updateSvc fetched).run c₀ = (.ok (), c') :=
      LawfulInf1.updateSvc_congr hprogram haccounts (fun _ _ => rfl) hupdate
    rw [hreserves, freshCalc, hinit]
    simp [hfresh]

/-- A successful loop leaves what the fetched accounts show. -/
theorem shown_of_tryForEach (hm : CalcsMade splLsts m.lstCalcs)
    (h : (Mutation.tryForEach (updateLst createPda splLsts poolStateId fetched) lsts).run m =
      (.ok (), m')) :
    ∀ mint ∈ lsts.map Inf1Api.mint, m'.lstCalcs mint = shownCalcs splLsts fetched lsts mint ∧
      m'.lstReserves mint = shownReserves createPda poolStateId fetched lsts mint ∧
      (m'.lstReserves mint).isSome := by
  refine (Mutation.tryForEach_prefix_invariant (I := fun done t =>
    CalcsMade splLsts t.lstCalcs ∧ ∀ mint ∈ done.map Inf1Api.mint,
      t.lstCalcs mint = shownCalcs splLsts fetched done mint ∧
      t.lstReserves mint = shownReserves createPda poolStateId fetched done mint ∧
      (t.lstReserves mint).isSome) ⟨hm, by simp⟩ ?_ h).2
  rintro done x _ t t' ⟨ht, hdone⟩ hx
  have hout : LstOutcome createPda splLsts poolStateId fetched x t (.ok (), t') :=
    hx ▸ updateLst_outcome
  refine ⟨hout.calcsMade ht, fun mint hmint => ?_⟩
  by_cases hlast : mint = Inf1Api.mint x
  · subst hlast
    rw [shownCalcs, shownReserves, lastEntry_append_self]
    exact hout.shown ht
  · have hmem : mint ∈ done.map Inf1Api.mint := by
      simpa [hlast, eq_comm] using hmint
    obtain ⟨hcalcs, hreserves⟩ := hout.frame hlast
    rw [hcalcs, hreserves, shownCalcs, shownReserves, lastEntry_append_of_ne hlast]
    exact hdone mint hmem

omit [LawfulInf1 T] in
/-- What the fetched accounts show of the reserves depends on the accounts of the reserves. -/
theorem shownReserves_congr
    (h : ∀ l ∈ lsts, ∀ key, reservesAddr createPda poolStateId l = some key →
      fetched key = fetched' key) :
    shownReserves createPda poolStateId fetched lsts =
      shownReserves createPda poolStateId fetched' lsts := by
  funext mint
  rw [shownReserves, shownReserves]
  rcases hentry : lastEntry Inf1Api.mint lsts mint with _ | l
  · rfl
  · exact fetchedReserves_congr fun key hkey => h l (mem_of_lastEntry hentry).1 key hkey

/-- What they show of the calculators depends on the accounts of the calculators. -/
theorem shownCalcs_congr
    (hsvc : ∀ l ∈ lsts, ∀ c, Inf1Spec.initSvc splLsts l = .ok c →
      ∃ c', (Inf1Api.updateSvc fetched).run c = (.ok (), c'))
    (h : ∀ l ∈ lsts, ∀ c, Inf1Spec.initSvc splLsts l = .ok c →
      ∀ key ∈ Inf1Spec.accountsToUpdateSvc c, fetched key = fetched' key) :
    shownCalcs splLsts fetched lsts = shownCalcs splLsts fetched' lsts := by
  funext mint
  rw [shownCalcs, shownCalcs]
  rcases hentry : lastEntry Inf1Api.mint lsts mint with _ | l
  · rfl
  · have hl := (mem_of_lastEntry hentry).1
    rw [Option.bind_some, Option.bind_some, freshCalc, freshCalc]
    rcases hinit : Inf1Spec.initSvc splLsts l with e | c
    · rfl
    · obtain ⟨c', hc'⟩ := hsvc l hl c hinit
      have hsame := LawfulInf1.updateSvc_congr rfl rfl (h l hl c hinit) hc'
      dsimp only
      rw [hc', hsame]

end Loop

/-! ### The refinement -/

section Refinement

variable [LawfulInf1 T] {H : Type} [StreamHash H Pubkey] [SolanaPubkey] {amm amm' : InfAmm T}
  {mem : Atomics} {accountMap : AccountMap}

/-- **A successful update refines the view.**  In every reachable state, the fetched accounts show a
pool, the update leaves a state that shows it, and it keeps what is stored for the mints that are not
on the list. -/
theorem update_mirrors (hamm : Reachable H amm)
    (hrun : (InfAmm.update mem accountMap).run amm = (.ok (), amm')) :
    ∃ poolStateId lstStateListId view,
      amm.poolStateId = .ok poolStateId ∧ amm.lstStateListId = .ok lstStateListId ∧
      poolView amm.inner.createPda amm.inner.splLsts poolStateId lstStateListId
        (amm.fetched mem accountMap).getAccount = some view ∧
      Mirrors (amm.fetched mem accountMap).getAccount view amm'.inner ∧
      ∀ mint ∉ view.lsts.map Inf1Api.mint, amm'.inner.lstCalcs mint = amm.inner.lstCalcs mint ∧
        amm'.inner.lstReserves mint = amm.inner.lstReserves mint := by
  obtain ⟨poolStateId, lstStateListId, lsts, hpool, hlist, hstores, hloop⟩ := InfAmm.update_eq_ok hrun
  obtain ⟨supply, hsupply, hview⟩ := hstores.poolView_eq
  exact ⟨poolStateId, lstStateListId, _, hpool, hlist, hview,
    ⟨rfl, hstores.decodes, hsupply, hstores.pricing, shown_of_tryForEach hamm.calcsMade hloop⟩,
    fun mint hmint => tryForEach_updateLst_frame hloop hmint⟩

end Refinement

open Reference in
/-- An AMM that is constructed before wSOL is listed comes to show the pool with wSOL. -/
theorem update_mirrors_wsol : ∃ view, Mirrors (T := inf1)
    ((ammWith flatFeeProgramId [] HashMap.empty).fetched genesis (onChain [wsol])).getAccount view
    ((InfAmm.update genesis (onChain [wsol])).run (ammWith flatFeeProgramId [] HashMap.empty)).2.inner := by
  have hreach : Reachable Sha256Hasher (ammWith flatFeeProgramId [] HashMap.empty) := .new new_nil
  have hok := (wellFormed_wsol flatFeeProgramId [] HashMap.empty).update_ok hreach.calcsMade genesis
  obtain ⟨p, q, view, -, -, -, hmirrors, -⟩ := update_mirrors hreach (Mutation.run_eq_of_ok hok)
  exact ⟨view, hmirrors⟩

/-! ### The accounts outside the footprint -/

section Part

variable [LawfulInf1 T] {H : Type} [StreamHash H Pubkey] [SolanaPubkey] {amm amm' : InfAmm T}
  {mem : Atomics} {accountMap : AccountMap}

/-- **Accounts outside the footprint make no difference.**  If an update with a part of a well-formed
snapshot succeeds, then so does the update with the whole snapshot, and both leave the same entries,
the same pool, and the same pricing, quotes and swap instructions for the listed mints. -/
theorem update_part_eq_update_whole {snapshot : AccountMap} {poolStateId lstStateListId : Pubkey}
    {pool : T.VerPoolState} {lsts : List T.LstState} (hamm : Reachable H amm)
    (hwf : WellFormed amm snapshot poolStateId lstStateListId pool lsts)
    (hpart : PartOf accountMap snapshot)
    (hrun : (InfAmm.update mem accountMap).run amm = (.ok (), amm')) :
    ∃ whole, (InfAmm.update mem snapshot).run amm = (.ok (), whole) ∧
      SameForPool amm'.inner whole.inner ∧ amm'.inner.lstMaps = whole.inner.lstMaps ∧
      (∀ mint ∈ lsts.map Inf1Api.mint,
        Inf1Spec.pricingAnswer amm'.inner.pricing mint =
          Inf1Spec.pricingAnswer whole.inner.pricing mint) ∧
      (∀ (mem : Atomics) (params : QuoteParams), Tradable amm' params.inputMint →
        Tradable amm' params.outputMint → amm'.quote mem params = whole.quote mem params) ∧
      ∀ params : SwapParams, Tradable amm' params.sourceMint →
        Tradable amm' params.destinationMint →
          amm'.getSwapAndAccountMetas params = whole.getSwapAndAccountMetas params := by
  have hrun' : (InfAmm.update mem snapshot).run amm =
      (.ok (), ((InfAmm.update mem snapshot).run amm).2) :=
    Mutation.run_eq_of_ok (hwf.update_ok hamm.calcsMade mem)
  generalize ((InfAmm.update mem snapshot).run amm).2 = whole at hrun'
  obtain ⟨hpool, hstores, hloop⟩ := hwf.storesFetched_of_update_ok hpart hrun
  obtain ⟨-, hstores', hloop'⟩ := hwf.storesFetched_of_update_ok (fun _ _ hacc => hacc) hrun'
  have hfinds := hwf.finds_of_update_ok hamm.calcsMade hpart hrun
  have hsees (key : Pubkey) (hkey : amm.footprint poolStateId lstStateListId pool lsts key) :
      (amm.fetched mem accountMap).getAccount key = (amm.fetched mem snapshot).getAccount key :=
    hpart.fetched_eq_view (hfinds key hkey)
  -- the two loops leave the same entries
  have hcalcs : shownCalcs amm.inner.splLsts (amm.fetched mem snapshot).getAccount lsts =
      shownCalcs amm.inner.splLsts (amm.fetched mem accountMap).getAccount lsts :=
    shownCalcs_congr (fun l hl c hc => hwf.svc l hl c hc mem)
      fun l hl c hc key hkey => (hsees key (.svc hl hc hkey)).symm
  have hreserves : shownReserves amm.inner.createPda poolStateId
      (amm.fetched mem snapshot).getAccount lsts =
        shownReserves amm.inner.createPda poolStateId (amm.fetched mem accountMap).getAccount lsts :=
    shownReserves_congr fun l hl key hkey => (hsees key (.reserves hl hkey)).symm
  have hentries (mint : Pubkey) : amm'.inner.lstCalcs mint = whole.inner.lstCalcs mint ∧
      amm'.inner.lstReserves mint = whole.inner.lstReserves mint := by
    by_cases hmint : mint ∈ lsts.map Inf1Api.mint
    · obtain ⟨hc, hr, -⟩ := shown_of_tryForEach hamm.calcsMade hloop mint hmint
      obtain ⟨hc', hr', -⟩ := shown_of_tryForEach hamm.calcsMade hloop' mint hmint
      rw [hcalcs] at hc'
      rw [hreserves] at hr'
      exact ⟨hc.trans hc'.symm, hr.trans hr'.symm⟩
    · obtain ⟨hc, hr⟩ := tryForEach_updateLst_frame hloop hmint
      obtain ⟨hc', hr'⟩ := tryForEach_updateLst_frame hloop' hmint
      exact ⟨hc.trans hc'.symm, hr.trans hr'.symm⟩
  have hfixed : Fixed amm'.inner whole.inner :=
    (InfAmm.fixedParts_of_update hrun).inner.symm.trans (InfAmm.fixedParts_of_update hrun').inner
  obtain ⟨hsame, hpricing⟩ := hstores.agree hstores' hfixed (hsees _ .poolState)
    (hsees _ .lstStateList) (hsees _ (hpool ▸ .lpTokenMint))
    fun p hp key hkey => hsees key (.pricing (hpool ▸ hp) hkey)
  have hmaps : amm'.inner.lstMaps = whole.inner.lstMaps := by
    rw [InfStd.lstMaps, InfStd.lstMaps, LstMaps.mk.injEq]
    exact ⟨funext fun mint => (hentries mint).1, funext fun mint => (hentries mint).2⟩
  have hmints : ∀ mint ∈ (InfAmm.lstStates amm'.inner).map Inf1Api.mint,
      SameForMint mint amm'.inner whole.inner := by
    rw [hstores.lstStates_eq]
    exact fun mint hmint => ⟨(hentries mint).1, (hentries mint).2, hpricing mint hmint⟩
  have hclock : amm'.clockRef = whole.clockRef :=
    (InfAmm.fixedParts_of_update hrun).clockRef.symm.trans
      (InfAmm.fixedParts_of_update hrun').clockRef
  refine ⟨whole, hrun', hsame, hmaps, hpricing, fun mem params hin hout => ?_,
    fun params hsource hdestination => ?_⟩
  · exact hsame.quote_eq hmints (by rw [hclock]) hin hout
  · exact hsame.getSwapAndAccountMetas_eq hmints hsource hdestination

end Part

namespace Reference

/-- What the pool with wSOL needs. -/
def wsolAccounts : List Pubkey := [infPoolState, infLstStateList, infMintAddr, slab, wsolReserves]

theorem mem_wsolAccounts_of_footprint {key : Pubkey}
    (h : Footprint (T := inf1) (createRawPda Sha256Hasher) HashMap.empty infPoolState infLstStateList
      chainPool [wsol] key) : key ∈ wsolAccounts := by
  cases h with
  | poolState => decide
  | lstStateList => decide
  | lpTokenMint => exact (by decide : infMintAddr ∈ wsolAccounts)
  | @pricing p _ hp hmem =>
    have hprogram : p.programId = flatSlabProgramId := hp
    change key ∈ pricingAccounts p.programId _ at hmem
    rw [hprogram, pricingAccounts_flatSlab] at hmem
    rw [List.mem_singleton.mp hmem]
    decide
  | reserves hl hkey =>
    rw [List.mem_singleton.mp hl, reservesAddr_wsol] at hkey
    cases hkey
    decide
  | svc hl hc hmem =>
    rw [List.mem_singleton.mp hl] at hc
    cases (initSvc_wsol HashMap.empty).symm.trans hc
    cases hmem

end Reference

open Reference in
/-- The accounts of the pool with wSOL do as well as all accounts. -/
theorem update_part_eq_update_whole_wsol :
    ∃ whole : InfAmm inf1,
      (InfAmm.update genesis (onChain [wsol])).run (ammWith flatFeeProgramId [] HashMap.empty) =
        (.ok (), whole) ∧
      ((InfAmm.update genesis ((onChain [wsol]).restrict wsolAccounts)).run
        (ammWith flatFeeProgramId [] HashMap.empty)).2.inner.lstMaps = whole.inner.lstMaps := by
  have hreach : Reachable Sha256Hasher (ammWith flatFeeProgramId [] HashMap.empty) := .new new_nil
  have hwf := wellFormed_wsol flatFeeProgramId [] HashMap.empty
  have hok : ((InfAmm.update genesis ((onChain [wsol]).restrict wsolAccounts)).run
      (ammWith flatFeeProgramId [] HashMap.empty)).1 = .ok () := by
    refine hwf.update_ok_of_seen hreach.calcsMade fun key hkey => ?_
    have hmem := mem_wsolAccounts_of_footprint hkey
    have hclock : key ≠ sysvarClock := by
      rintro rfl
      exact absurd hmem (by decide)
    rw [InfAmm.view, AccountMapRef.getAccount_of_ne _ hclock, AccountMapRef.getAccount_of_ne _ hclock]
    exact HashMap.restrict_of_mem _ hmem
  have hpart : PartOf ((onChain [wsol]).restrict wsolAccounts) (onChain [wsol]) := by
    intro key acc hacc
    by_cases hmem : key ∈ wsolAccounts
    · rwa [HashMap.restrict_of_mem _ hmem] at hacc
    · rw [HashMap.restrict_of_not_mem _ hmem] at hacc
      cases hacc
  obtain ⟨whole, hrun, -, hmaps, -⟩ := update_part_eq_update_whole hreach hwf hpart (Mutation.run_eq_of_ok hok)
  exact ⟨whole, hrun, hmaps⟩

end InfJup
