import InfJupInterface.Amm.Cycle

/-!
# The footprint of an update

The accounts that the pool of a snapshot needs: its state, its list, its LP token mint, the accounts
of its pricing program, and for every LST on the list the pool reserves and the accounts of its
calculator.  The footprint is a matter of the snapshot, the addresses and the SPL data; no pool, list
or calculator that the AMM has stored enters into it.

An update with accounts of the snapshot succeeds exactly when the footprint is among them
(`update_ok_iff_footprint`): whether it succeeds depends on what it is given, and not on the updates,
failed or not, that came before.
-/

namespace InfJup

variable {T : Inf1Types} [Inf1Api T] [Inf1Spec T]

/-- The account is one that the pool with the given list needs. -/
inductive Footprint (createPda : CreatePda) (splLsts : HashMap Pubkey Pubkey)
    (poolStateId lstStateListId : Pubkey) (pool : T.VerPoolState) (lsts : List T.LstState) :
    Pubkey → Prop
  | poolState : Footprint createPda splLsts poolStateId lstStateListId pool lsts poolStateId
  | lstStateList : Footprint createPda splLsts poolStateId lstStateListId pool lsts lstStateListId
  | lpTokenMint : Footprint createPda splLsts poolStateId lstStateListId pool lsts
      (Inf1Api.lpTokenMint pool)
  | pricing {p : T.PricingAg} {key : Pubkey}
      (hp : Inf1Spec.pricingProgramId p = Inf1Spec.pricingProgram pool)
      (h : key ∈ Inf1Api.accountsToUpdateAll p (lsts.map Inf1Api.mint)) :
      Footprint createPda splLsts poolStateId lstStateListId pool lsts key
  | reserves {l : T.LstState} {key : Pubkey} (hl : l ∈ lsts)
      (h : reservesAddr createPda poolStateId l = some key) :
      Footprint createPda splLsts poolStateId lstStateListId pool lsts key
  | svc {l : T.LstState} {c : T.SvcAg} {key : Pubkey} (hl : l ∈ lsts)
      (hc : Inf1Spec.initSvc splLsts l = .ok c) (h : key ∈ Inf1Spec.accountsToUpdateSvc c) :
      Footprint createPda splLsts poolStateId lstStateListId pool lsts key

/-- The footprint for an AMM. -/
def InfAmm.footprint (amm : InfAmm T) (poolStateId lstStateListId : Pubkey) (pool : T.VerPoolState)
    (lsts : List T.LstState) : Pubkey → Prop :=
  Footprint amm.inner.createPda amm.inner.splLsts poolStateId lstStateListId pool lsts

/-- The accounts of the map are accounts of the snapshot. -/
def PartOf (accountMap snapshot : AccountMap) : Prop :=
  ∀ key acc, accountMap key = some acc → snapshot key = some acc

omit [Inf1Api T] [Inf1Spec T] in
/-- What an update finds in a part of the snapshot is as it is in the snapshot. -/
theorem PartOf.fetched_eq_view {amm : InfAmm T} {accountMap snapshot : AccountMap} {mem : Atomics}
    {key : Pubkey} (h : PartOf accountMap snapshot)
    (hsome : ((amm.fetched mem accountMap).getAccount key).isSome) :
    (amm.fetched mem accountMap).getAccount key = amm.view snapshot mem key := by
  by_cases hclock : key = sysvarClock
  · rw [hclock, InfAmm.view, AccountMapRef.getAccount_sysvarClock,
      AccountMapRef.getAccount_sysvarClock]
    rfl
  · obtain ⟨acc, hacc⟩ := Option.isSome_iff_exists.mp hsome
    rw [AccountMapRef.getAccount_of_ne _ hclock] at hacc ⊢
    rw [InfAmm.view, AccountMapRef.getAccount_of_ne _ hclock]
    exact hacc.trans (h key acc hacc).symm

variable [LawfulInf1 T]

section Loop

variable {createPda : CreatePda} {splLsts : HashMap Pubkey Pubkey} {poolStateId : Pubkey}
  {fetched : UpdateMap} {m m' : LstMaps T}

/-- A loop that gets through has found, for every LST on its list, the reserves and the accounts of
the calculator that would be made for it. -/
theorem finds_of_tryForEach {lsts : List T.LstState} (hm : CalcsMade splLsts m.lstCalcs)
    (h : (Mutation.tryForEach (updateLst createPda splLsts poolStateId fetched) lsts).run m =
      (.ok (), m')) :
    ∀ l ∈ lsts, (fetchedReserves createPda poolStateId fetched l).isSome ∧
      ∀ c, Inf1Spec.initSvc splLsts l = .ok c →
        ∀ key ∈ Inf1Spec.accountsToUpdateSvc c, (fetched key).isSome := by
  refine (Mutation.tryForEach_establishes (P := fun t : LstMaps T => CalcsMade splLsts t.lstCalcs)
    (Q := fun l _ => (fetchedReserves createPda poolStateId fetched l).isSome ∧
      ∀ c, Inf1Spec.initSvc splLsts l = .ok c →
        ∀ key ∈ Inf1Spec.accountsToUpdateSvc c, (fetched key).isSome) hm ?_ h).2
  intro x _ t t' ht hx
  have hout : LstOutcome createPda splLsts poolStateId fetched x t (.ok (), t') :=
    hx ▸ updateLst_outcome
  refine ⟨hout.calcsMade ht, ?_, fun l _ hl => hl⟩
  cases hout with
  | noSplData hreserves hcalc =>
    refine ⟨by rw [hreserves]; rfl, fun c hc => ?_⟩
    rw [initSvc_of_calcFor_error hcalc] at hc
    cases hc
  | updated hreserves hcalc hupdate =>
    refine ⟨by rw [hreserves]; rfl, fun c hc key hkey => ?_⟩
    obtain ⟨c₀, hc₀, -, haccounts⟩ := initSvc_of_calcFor_ok ht hcalc
    rw [hc₀] at hc
    cases hc
    exact LawfulInf1.updateSvc_reads hupdate key (haccounts ▸ hkey)

end Loop

namespace WellFormed

variable {amm : InfAmm T} {accountMap snapshot : AccountMap} {poolStateId lstStateListId : Pubkey}
  {pool : T.VerPoolState} {lsts : List T.LstState} {mem : Atomics}

/-- The per-LST step of an update that sees what the LST needs goes through, whatever is stored. -/
theorem lstStep_ok (h : WellFormed amm snapshot poolStateId lstStateListId pool lsts)
    {l : T.LstState} (hl : l ∈ lsts) {m : LstMaps T} (hm : CalcsMade amm.inner.splLsts m.lstCalcs)
    (hreserves : ∀ key, reservesAddr amm.inner.createPda poolStateId l = some key →
      (amm.fetched mem accountMap).getAccount key = amm.view snapshot mem key)
    (hsvc : ∀ c, Inf1Spec.initSvc amm.inner.splLsts l = .ok c →
      ∀ key ∈ Inf1Spec.accountsToUpdateSvc c,
        (amm.fetched mem accountMap).getAccount key = amm.view snapshot mem key) :
    ∃ m', (amm.lstStep mem accountMap poolStateId l).run m = (.ok (), m') := by
  rcases hrun : (amm.lstStep mem accountMap poolStateId l).run m with ⟨res, m'⟩
  have hout : LstOutcome amm.inner.createPda amm.inner.splLsts poolStateId
      (amm.fetched mem accountMap).getAccount l m (res, m') := hrun ▸ updateLst_outcome
  cases hout with
  | noReserves hnone =>
    obtain ⟨r, hr⟩ := h.reserves mem l hl
    rw [← fetchedReserves_congr hreserves, hnone] at hr
    cases hr
  | noSplData => exact ⟨_, rfl⟩
  | noCalc _ hcalc hother =>
    obtain ⟨mint, hmint⟩ := h.knownSvc l hl _ (initSvc_of_calcFor_error hcalc)
    exact absurd hmint (hother mint)
  | notUpdated _ hcalc hupdate =>
    -- the calculator at hand is like a fresh one, which updates from the snapshot
    obtain ⟨c₀, hinit, hprogram, haccounts⟩ := initSvc_of_calcFor_ok hm hcalc
    obtain ⟨c', hc'⟩ := h.svc l hl c₀ hinit mem
    have hsame := LawfulInf1.updateSvc_congr hprogram.symm haccounts.symm
      (fun key hkey => (hsvc c₀ hinit key hkey).symm) hc'
    rw [hupdate] at hsame
    cases hsame
  | updated => exact ⟨_, rfl⟩

/-- An update that sees the footprint succeeds. -/
theorem update_ok_of_seen (h : WellFormed amm snapshot poolStateId lstStateListId pool lsts)
    (hmade : CalcsMade amm.inner.splLsts amm.inner.lstCalcs)
    (hsees : ∀ key, amm.footprint poolStateId lstStateListId pool lsts key →
      (amm.fetched mem accountMap).getAccount key = amm.view snapshot mem key) :
    ((InfAmm.update mem accountMap).run amm).1 = .ok () := by
  obtain ⟨s, henter⟩ := h.entersLoop_of_seen (hsees _ .poolState) (hsees _ .lstStateList)
    (hsees _ .lpTokenMint) fun p hp key hkey => hsees key (.pricing hp hkey)
  have hloop : ∃ m, (Mutation.tryForEach (amm.lstStep mem accountMap poolStateId) lsts).run
      amm.inner.lstMaps = (.ok (), m) ∧ CalcsMade amm.inner.splLsts m.lstCalcs := by
    refine Mutation.tryForEach_run_ok
      (P := fun m : LstMaps T => CalcsMade amm.inner.splLsts m.lstCalcs) hmade fun l hl m hm => ?_
    obtain ⟨m', hrun⟩ := h.lstStep_ok hl hm (fun key hkey => hsees key (.reserves hl hkey))
      fun c hc key hkey => hsees key (.svc hl hc hkey)
    exact ⟨m', hrun, calcsMade_of_lstStep hm hrun⟩
  obtain ⟨m, hloop, -⟩ := hloop
  rw [henter.run, hloop]
  rfl

omit [LawfulInf1 T] in
/-- The list fetched with accounts of the snapshot is that of the snapshot. -/
theorem lsts_eq_of_storesFetched
    (h : WellFormed amm snapshot poolStateId lstStateListId pool lsts)
    (hpart : PartOf accountMap snapshot) {lsts' : List T.LstState} {s : InfStd T}
    (hstores : StoresFetched poolStateId lstStateListId (amm.fetched mem accountMap).getAccount lsts'
      s) : lsts' = lsts := by
  obtain ⟨acc, hacc, hdata⟩ := hstores.list
  obtain ⟨acc', hacc', hdecodes'⟩ := h.listAcc mem
  rw [hpart.fetched_eq_view (by rw [hacc]; rfl), hacc'] at hacc
  cases hacc
  have hdecodes := hstores.decodes
  rw [hdata] at hdecodes
  exact Option.some.inj (hdecodes.symm.trans hdecodes')

/-- A successful update with accounts of the snapshot fetched the pool and the list of the
snapshot. -/
theorem storesFetched_of_update_ok
    (h : WellFormed amm snapshot poolStateId lstStateListId pool lsts)
    (hpart : PartOf accountMap snapshot) {amm' : InfAmm T}
    (hrun : (InfAmm.update mem accountMap).run amm = (.ok (), amm')) :
    amm'.inner.pool = pool ∧
      StoresFetched poolStateId lstStateListId (amm.fetched mem accountMap).getAccount lsts
        amm'.inner ∧
      (Mutation.tryForEach (amm.lstStep mem accountMap poolStateId) lsts).run amm.inner.lstMaps =
        (.ok (), amm'.inner.lstMaps) := by
  obtain ⟨p, q, lsts', hp, hq, hstores, hloop⟩ := InfAmm.update_eq_ok hrun
  rw [h.poolStateId_eq] at hp
  rw [h.lstStateListId_eq] at hq
  cases hp
  cases hq
  have hpool : amm'.inner.pool = pool := by
    obtain ⟨acc, hacc, hdecodes⟩ := hstores.pool
    obtain ⟨acc', hacc', hdecodes'⟩ := h.poolAcc mem
    rw [hpart.fetched_eq_view (by rw [hacc]; rfl), hacc'] at hacc
    cases hacc
    exact Option.some.inj (hdecodes.symm.trans hdecodes')
  obtain rfl := h.lsts_eq_of_storesFetched hpart hstores
  exact ⟨hpool, hstores, hloop⟩

/-- It has found the footprint. -/
theorem finds_of_update_ok (h : WellFormed amm snapshot poolStateId lstStateListId pool lsts)
    (hmade : CalcsMade amm.inner.splLsts amm.inner.lstCalcs) (hpart : PartOf accountMap snapshot)
    {amm' : InfAmm T} (hrun : (InfAmm.update mem accountMap).run amm = (.ok (), amm')) :
    ∀ key, amm.footprint poolStateId lstStateListId pool lsts key →
      ((amm.fetched mem accountMap).getAccount key).isSome := by
  obtain ⟨hpool, hstores, hloop⟩ := h.storesFetched_of_update_ok hpart hrun
  have hfinds := finds_of_tryForEach hmade hloop
  intro key hkey
  cases hkey with
  | poolState =>
    obtain ⟨acc, hacc, -⟩ := hstores.pool
    rw [hacc]
    rfl
  | lstStateList =>
    obtain ⟨acc, hacc, -⟩ := hstores.list
    rw [hacc]
    rfl
  | lpTokenMint =>
    obtain ⟨acc, supply, hacc, -⟩ := hstores.supply
    rw [← hpool, hacc]
    rfl
  | pricing hp hmem =>
    obtain ⟨p, hp', hprices⟩ := hstores.pricing
    rw [hpool] at hp'
    rw [LawfulInf1.accountsToUpdateAll_congr _ (hp.trans hp'.symm)] at hmem
    exact LawfulInf1.updateAll_reads hprices key hmem
  | reserves hl haddr =>
    obtain ⟨r, hr⟩ := Option.isSome_iff_exists.mp (hfinds _ hl).1
    obtain ⟨key', hkey', hsome⟩ := exists_key_of_fetchedReserves hr
    rw [hkey'] at haddr
    cases haddr
    exact hsome
  | svc hl hc hmem => exact (hfinds _ hl).2 _ hc key hmem

/-- A well-formed snapshot has its footprint. -/
theorem finds (h : WellFormed amm snapshot poolStateId lstStateListId pool lsts) (mem : Atomics) :
    ∀ key, amm.footprint poolStateId lstStateListId pool lsts key →
      (amm.view snapshot mem key).isSome := by
  intro key hkey
  cases hkey with
  | poolState =>
    obtain ⟨acc, hacc, -⟩ := h.poolAcc mem
    rw [hacc]
    rfl
  | lstStateList =>
    obtain ⟨acc, hacc, -⟩ := h.listAcc mem
    rw [hacc]
    rfl
  | lpTokenMint =>
    obtain ⟨acc, supply, hacc, -⟩ := h.mintAcc mem
    rw [hacc]
    rfl
  | pricing hp hmem =>
    obtain ⟨p', hprices⟩ := h.pricing mem _ hp
    exact LawfulInf1.updateAll_reads hprices key hmem
  | reserves hl haddr =>
    obtain ⟨r, hr⟩ := h.reserves mem _ hl
    obtain ⟨key', hkey', hsome⟩ := exists_key_of_fetchedReserves hr
    rw [hkey'] at haddr
    cases haddr
    exact hsome
  | svc hl hc hmem =>
    obtain ⟨c', hc'⟩ := h.svc _ hl _ hc mem
    exact LawfulInf1.updateSvc_reads hc' key hmem

/-- So an update with the whole snapshot succeeds. -/
theorem update_ok (h : WellFormed amm snapshot poolStateId lstStateListId pool lsts)
    (hmade : CalcsMade amm.inner.splLsts amm.inner.lstCalcs) (mem : Atomics) :
    ((InfAmm.update mem snapshot).run amm).1 = .ok () :=
  h.update_ok_of_seen hmade fun _ _ => rfl

end WellFormed

/-- **An update succeeds exactly when it finds its footprint.**  In every reachable state, an update
with accounts of a well-formed snapshot succeeds if and only if the accounts that the pool of the
snapshot needs are among them.  The snapshot as a whole has them. -/
theorem update_ok_iff_footprint {H : Type} [StreamHash H Pubkey] [SolanaPubkey] {amm : InfAmm T}
    {accountMap snapshot : AccountMap} {poolStateId lstStateListId : Pubkey} {pool : T.VerPoolState}
    {lsts : List T.LstState} (hamm : Reachable H amm)
    (hwf : WellFormed amm snapshot poolStateId lstStateListId pool lsts)
    (hpart : PartOf accountMap snapshot) (mem : Atomics) :
    (((InfAmm.update mem accountMap).run amm).1 = .ok () ↔
      ∀ key, amm.footprint poolStateId lstStateListId pool lsts key →
        ((amm.fetched mem accountMap).getAccount key).isSome) ∧
    (∀ key, amm.footprint poolStateId lstStateListId pool lsts key →
      (amm.view snapshot mem key).isSome) := by
  refine ⟨⟨fun hok => ?_, fun hfinds => ?_⟩, hwf.finds mem⟩
  · exact hwf.finds_of_update_ok hamm.calcsMade hpart (Mutation.run_eq_of_ok hok)
  · exact hwf.update_ok_of_seen hamm.calcsMade fun key hkey =>
      hpart.fetched_eq_view (hfinds key hkey)

open Reference in
/-- An AMM that is constructed before wSOL is listed updates from the whole snapshot. -/
theorem update_ok_iff_footprint_wsol :
    ((InfAmm.update genesis (onChain [wsol])).run (ammWith flatFeeProgramId [] HashMap.empty)).1 =
      .ok () := by
  have h := update_ok_iff_footprint (H := Sha256Hasher) (.new new_nil)
    (wellFormed_wsol flatFeeProgramId [] HashMap.empty) (fun _ _ hacc => hacc) genesis
  exact h.1.mpr h.2

end InfJup
