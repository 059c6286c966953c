import InfJupInterface.Amm.Cycle

/-!
# What a failed update leaves behind

An update stops at its first error and undoes nothing.  If it stops before its loop, the two maps
are as they were.  If it stops in the loop, at position `k` of the fetched list, the fields of the
pool as a whole are those of the fetched accounts, and the entries of every mint other than that of
position `k` are those which the steps before `k` made.

The steps before `k` leave no LST half updated: `LstUpToDate` is the invariant that they carry
along the list.
-/

namespace InfJup

variable {T : Inf1Types} [Inf1Api T]

namespace InfAmm

/-- The update stops in its loop, at position `k` of the list `lsts`. -/
def StopsInLoop (amm : InfAmm T) (mem : Atomics) (accountMap : AccountMap)
    (lsts : List T.LstState) (k : ℕ) : Prop :=
  ∃ poolStateId lstStateListId s l t e m,
    amm.EntersLoop mem accountMap poolStateId lstStateListId lsts s ∧ lsts[k]? = some l ∧
      (Mutation.tryForEach (amm.lstStep mem accountMap poolStateId) (lsts.take k)).run s.lstMaps =
        (.ok (), t) ∧
      (amm.lstStep mem accountMap poolStateId l).run t = (.error e, m)

end InfAmm

variable [Inf1Spec T]

/-- The entries of an LST are up to date: the reserves are the fetched ones, and the calculator has
been updated from the fetched accounts, or there is none for the lack of the SPL data. -/
structure LstUpToDate (createPda : CreatePda) (splLsts : HashMap Pubkey Pubkey) (poolStateId : Pubkey)
    (fetched : UpdateMap) (m : LstMaps T) (l : T.LstState) : Prop where
  reserves : ∃ r, fetchedReserves createPda poolStateId fetched l = some r ∧
    m.lstReserves (Inf1Api.mint l) = some r
  svc : (m.lstCalcs (Inf1Api.mint l) = none ∧
      ∃ mint, Inf1Spec.initSvc splLsts l = .error (.missingSplData mint)) ∨
    ∃ c c', m.lstCalcs (Inf1Api.mint l) = some c' ∧
      Inf1Spec.svcProgram c' = Inf1Spec.solValueCalculator l ∧
      (Inf1Api.updateSvc fetched).run c = (.ok (), c')

/-- Whether an LST is up to date depends on the entries of its mint. -/
theorem LstUpToDate.congr {createPda : CreatePda} {splLsts : HashMap Pubkey Pubkey}
    {poolStateId : Pubkey} {fetched : UpdateMap} {m m' : LstMaps T} {l : T.LstState}
    (h : LstUpToDate createPda splLsts poolStateId fetched m l)
    (hcalcs : m'.lstCalcs (Inf1Api.mint l) = m.lstCalcs (Inf1Api.mint l))
    (hreserves : m'.lstReserves (Inf1Api.mint l) = m.lstReserves (Inf1Api.mint l)) :
    LstUpToDate createPda splLsts poolStateId fetched m' l := by
  refine ⟨?_, ?_⟩
  · rw [hreserves]
    exact h.reserves
  · rw [hcalcs]
    exact h.svc

variable [LawfulInf1 T]

section Step

variable {createPda : CreatePda} {splLsts : HashMap Pubkey Pubkey} {poolStateId : Pubkey}
  {fetched : UpdateMap} {m m' : LstMaps T}

/-- A successful step brings its LST up to date. -/
theorem lstUpToDate_of_updateLst {l : T.LstState}
    (h : (updateLst createPda splLsts poolStateId fetched l).run m = (.ok (), m')) :
    LstUpToDate createPda splLsts poolStateId fetched m' l := by
  have hout : LstOutcome createPda splLsts poolStateId fetched l m (.ok (), m') :=
    h ▸ updateLst_outcome
  cases hout with
  | noSplData hreserves hcalc =>
    exact ⟨⟨_, hreserves, HashMap.insert_self _ _ _⟩,
      Or.inl ⟨HashMap.remove_self _ _, _, initSvc_of_calcFor_error hcalc⟩⟩
  | @updated r c c' hreserves hcalc hupdate =>
    have hprogram : Inf1Spec.svcProgram c' = Inf1Spec.solValueCalculator l := by
      have hkept := LawfulInf1.svcProgram_updateSvc fetched c
      rw [hupdate] at hkept
      exact hkept.trans (svcProgram_calcFor hcalc)
    exact ⟨⟨_, hreserves, HashMap.insert_self _ _ _⟩,
      Or.inr ⟨c, c', HashMap.insert_self _ _ _, hprogram, hupdate⟩⟩

/-- A loop that gets through leaves every mint on its list up to date, as its last entry on the
list has it. -/
theorem lstUpToDate_of_tryForEach {lsts : List T.LstState}
    (h : (Mutation.tryForEach (updateLst createPda splLsts poolStateId fetched) lsts).run m =
      (.ok (), m')) :
    ∀ mint ∈ lsts.map Inf1Api.mint, ∃ l ∈ lsts, Inf1Api.mint l = mint ∧
      LstUpToDate createPda splLsts poolStateId fetched m' l := by
  refine Mutation.tryForEach_prefix_invariant (I := fun done t =>
    ∀ mint ∈ done.map Inf1Api.mint, ∃ l ∈ done, Inf1Api.mint l = mint ∧
      LstUpToDate createPda splLsts poolStateId fetched t l) (by simp) ?_ h
  intro done x _ t t' ht hx mint hmint
  by_cases hlast : mint = Inf1Api.mint x
  · exact ⟨x, by simp, hlast.symm, lstUpToDate_of_updateLst hx⟩
  · have hdone : mint ∈ done.map Inf1Api.mint := by
      simpa [hlast, eq_comm] using hmint
    obtain ⟨l, hl, rfl, huptodate⟩ := ht mint hdone
    obtain ⟨hcalcs, hreserves⟩ := updateLst_frame hx hlast
    exact ⟨l, List.mem_append_left _ hl, rfl, huptodate.congr hcalcs hreserves⟩

end Step

namespace InfAmm

variable {amm amm' : InfAmm T} {mem : Atomics} {accountMap : AccountMap}
  {res : Except (AmmErr T) Unit}

/-- An update that fails stops before its loop, or at a position of the list. -/
theorem stopsBeforeLoop_or_stopsInLoop {e : AmmErr T}
    (h : (update mem accountMap).run amm = (.error e, amm')) :
    amm.StopsBeforeLoop mem accountMap ∨ ∃ lsts k, amm.StopsInLoop mem accountMap lsts k := by
  rcases stopsBeforeLoop_or_entersLoop amm mem accountMap with
    hstop | ⟨poolStateId, lstStateListId, lsts, s, henter⟩
  · exact Or.inl hstop
  · have hrun := henter.run
    rw [h] at hrun
    rcases hloop : (Mutation.tryForEach (amm.lstStep mem accountMap poolStateId) lsts).run
      amm.inner.lstMaps with ⟨e' | u, m⟩
    · obtain ⟨k, hk, t, hpre, hfail⟩ := Mutation.exists_failing_step hloop
      rw [← henter.mapsKept.maps] at hpre
      exact Or.inr ⟨lsts, k, poolStateId, lstStateListId, s, lsts[k], t, e', m, henter,
        List.getElem?_eq_getElem hk, hpre, hfail⟩
    · rw [hloop] at hrun
      cases hrun

/-- What an update that stops in its loop leaves behind: the outcome of the failing step, in a
state that otherwise stores what was fetched. -/
theorem StopsInLoop.run {lsts : List T.LstState} {k : ℕ}
    (h : amm.StopsInLoop mem accountMap lsts k) :
    ∃ poolStateId lstStateListId l t e m e' amm',
      amm.poolStateId = .ok poolStateId ∧ amm.lstStateListId = .ok lstStateListId ∧
      lsts[k]? = some l ∧
      (Mutation.tryForEach (amm.lstStep mem accountMap poolStateId) (lsts.take k)).run
        amm.inner.lstMaps = (.ok (), t) ∧
      (amm.lstStep mem accountMap poolStateId l).run t = (.error e, m) ∧
      (update mem accountMap).run amm = (.error e', amm') ∧ amm'.inner.lstMaps = m ∧
      StoresFetched poolStateId lstStateListId (amm.fetched mem accountMap).getAccount lsts
        amm'.inner := by
  obtain ⟨poolStateId, lstStateListId, s, l, t, e, m, henter, hl, hpre, hfail⟩ := h
  rw [henter.mapsKept.maps] at hpre
  obtain ⟨hk, rfl⟩ := List.getElem?_eq_some_iff.mp hl
  have hloop := Mutation.tryForEach_of_failing_step hk hpre hfail
  have hrun := henter.run
  rw [hloop] at hrun
  exact ⟨poolStateId, lstStateListId, lsts[k], t, e, m, _, _, henter.1, henter.2.1, hl, hpre, hfail,
    hrun, rfl, henter.storesFetched.setLstMaps m⟩

/-- **What a failed update leaves behind.**  An update fails before its loop or at a position of the
fetched list.  Before the loop, it leaves both maps as they were.  At position `k`, it leaves the
pool, the list, the supply and the pricing as fetched, and every mint other than that of position
`k` as the successful steps over the first `k` entries left it: a mint that is not among these has
its old entries, and a mint among these is up to date.  However an update ends, the SPL data, the
program, the cached addresses and the clock handle are kept. -/
theorem failed_update_leaves (h : (update mem accountMap).run amm = (res, amm')) :
    FixedParts amm amm' ∧
    (∀ e, res = .error e →
      amm.StopsBeforeLoop mem accountMap ∨ ∃ lsts k, amm.StopsInLoop mem accountMap lsts k) ∧
    (amm.StopsBeforeLoop mem accountMap →
      (∃ e, res = .error e) ∧ amm'.inner.lstCalcs = amm.inner.lstCalcs ∧
        amm'.inner.lstReserves = amm.inner.lstReserves) ∧
    ∀ lsts k, amm.StopsInLoop mem accountMap lsts k → (∃ e, res = .error e) ∧
      ∃ poolStateId lstStateListId l t,
        amm.poolStateId = .ok poolStateId ∧ amm.lstStateListId = .ok lstStateListId ∧
        StoresFetched poolStateId lstStateListId (amm.fetched mem accountMap).getAccount lsts
          amm'.inner ∧
        lsts[k]? = some l ∧
        (Mutation.tryForEach (amm.lstStep mem accountMap poolStateId) (lsts.take k)).run
          amm.inner.lstMaps = (.ok (), t) ∧
        (∀ mint ≠ Inf1Api.mint l, amm'.inner.lstCalcs mint = t.lstCalcs mint ∧
          amm'.inner.lstReserves mint = t.lstReserves mint) ∧
        (∀ mint ∉ (lsts.take k).map Inf1Api.mint, mint ≠ Inf1Api.mint l →
          amm'.inner.lstCalcs mint = amm.inner.lstCalcs mint ∧
            amm'.inner.lstReserves mint = amm.inner.lstReserves mint) ∧
        ∀ mint ∈ (lsts.take k).map Inf1Api.mint, mint ≠ Inf1Api.mint l →
          ∃ l' ∈ lsts.take k, Inf1Api.mint l' = mint ∧
            LstUpToDate amm.inner.createPda amm.inner.splLsts poolStateId
              (amm.fetched mem accountMap).getAccount amm'.inner.lstMaps l' := by
  refine ⟨fixedParts_of_update h, ?_, ?_, ?_⟩
  · rintro e rfl
    exact stopsBeforeLoop_or_stopsInLoop h
  · intro hstop
    obtain ⟨e, amm'', hrun, hkept, -⟩ := hstop.run
    rw [h] at hrun
    cases hrun
    exact ⟨⟨e, rfl⟩, congrArg LstMaps.lstCalcs hkept.maps, congrArg LstMaps.lstReserves hkept.maps⟩
  · intro lsts k hstop
    obtain ⟨poolStateId, lstStateListId, l, t, e, m, e', amm'', hpool, hlist, hl, hpre, hfail, hrun,
      rfl, hstores⟩ := hstop.run
    rw [h] at hrun
    cases hrun
    -- position `k` writes its own mint only
    have hlast : ∀ mint ≠ Inf1Api.mint l, amm'.inner.lstCalcs mint = t.lstCalcs mint ∧
        amm'.inner.lstReserves mint = t.lstReserves mint := fun mint hmint =>
      updateLst_frame hfail hmint
    refine ⟨⟨e', rfl⟩, poolStateId, lstStateListId, l, t, hpool, hlist, hstores, hl, hpre, hlast,
      ?_, ?_⟩
    · intro mint hmint hne
      obtain ⟨hcalcs, hreserves⟩ := tryForEach_updateLst_frame hpre hmint
      exact ⟨(hlast mint hne).1.trans hcalcs, (hlast mint hne).2.trans hreserves⟩
    · intro mint hmint hne
      obtain ⟨l', hl', rfl, huptodate⟩ := lstUpToDate_of_tryForEach hpre mint hmint
      exact ⟨l', hl', rfl, huptodate.congr (hlast _ hne).1 (hlast _ hne).2⟩

end InfAmm

namespace Reference

/-- The accounts of the pool as a whole. -/
def wholePoolAccounts : AccountMap :=
  (onChain [wsol]).restrict [infPoolState, infLstStateList, infMintAddr, slab]

/-- With these accounts, an AMM without LSTs stops at the first LST. -/
theorem stopsInLoop_wholePoolAccounts :
    (ammWith flatFeeProgramId [] HashMap.empty).StopsInLoop genesis wholePoolAccounts [wsol] 0 := by
  have hwf := wellFormed_wsol flatFeeProgramId [] HashMap.empty
  have hseen : ∀ key ∈ [infPoolState, infLstStateList, infMintAddr, slab],
      ((ammWith flatFeeProgramId [] HashMap.empty).fetched genesis wholePoolAccounts).getAccount key =
        (ammWith flatFeeProgramId [] HashMap.empty).view (onChain [wsol]) genesis key := by
    intro key hkey
    have hclock : key ≠ sysvarClock := by
      rintro rfl
      exact absurd hkey (by decide)
    rw [InfAmm.view, AccountMapRef.getAccount_of_ne _ hclock, AccountMapRef.getAccount_of_ne _ hclock]
    exact HashMap.restrict_of_mem _ hkey
  obtain ⟨s, henter⟩ := hwf.entersLoop_of_seen (hseen infPoolState (by simp))
    (hseen infLstStateList (by simp)) (hseen infMintAddr (by simp)) fun p hp key hkey => by
      have hprogram : p.programId = flatSlabProgramId := hp
      change key ∈ pricingAccounts p.programId _ at hkey
      rw [hprogram, pricingAccounts_flatSlab] at hkey
      exact hseen key (by simp [List.mem_singleton.mp hkey])
  -- the reserves of wSOL are not there
  have hreserves : fetchedReserves (T := inf1) (createRawPda Sha256Hasher) infPoolState
      ((ammWith flatFeeProgramId [] HashMap.empty).fetched genesis wholePoolAccounts).getAccount wsol =
        none := by
    have hnone : ((ammWith flatFeeProgramId [] HashMap.empty).fetched genesis
        wholePoolAccounts).getAccount wsolReserves = none := by
      rw [AccountMapRef.getAccount_of_ne _ (by decide)]
      have hmem : wsolReserves ∉ [infPoolState, infLstStateList, infMintAddr, slab] := by decide
      exact HashMap.restrict_of_not_mem (onChain [wsol]) hmem
    simp only [fetchedReserves, reservesAddr_wsol, hnone, Option.bind_eq_bind, Option.bind_some,
      Option.bind_none]
  have hstep : ∃ e reserves,
      ((ammWith flatFeeProgramId [] HashMap.empty).lstStep genesis wholePoolAccounts infPoolState
        wsol).run s.lstMaps = (.error e, { s.lstMaps with lstReserves := reserves }) ∧
      ∀ mint ≠ wsol.mint, reserves mint = s.lstReserves mint := updateLst_of_no_reserves hreserves
  obtain ⟨e, reserves, hfail, -⟩ := hstep
  exact ⟨infPoolState, infLstStateList, s, wsol, s.lstMaps, e, _, henter, rfl, rfl, hfail⟩

end Reference

open Reference in
/-- The update fails and leaves the pool of the snapshot. -/
theorem failed_update_leaves_wsol :
    (∃ e, ((InfAmm.update genesis wholePoolAccounts).run
      (ammWith flatFeeProgramId [] HashMap.empty)).1 = .error e) ∧
    ((InfAmm.update genesis wholePoolAccounts).run
      (ammWith flatFeeProgramId [] HashMap.empty)).2.inner.pool = chainPool := by
  have hrun := (Prod.mk.eta (p := (InfAmm.update genesis wholePoolAccounts).run
    (ammWith flatFeeProgramId [] HashMap.empty))).symm
  obtain ⟨herr, p, q, l, t, hp, -, hstores, -⟩ :=
    (InfAmm.failed_update_leaves hrun).2.2.2 [wsol] 0 stopsInLoop_wholePoolAccounts
  refine ⟨herr, ?_⟩
  obtain rfl : infPoolState = p := Except.ok.inj hp
  obtain ⟨acc, hacc, hdecodes⟩ := hstores.pool
  obtain rfl : account (poolData flatSlabProgramId infMintAddr) infProgramId = acc :=
    Option.some.inj hacc
  exact Option.some.inj
    (hdecodes.symm.trans (poolOfAccData_poolData flatSlabProgramId infMintAddr))

end InfJup
