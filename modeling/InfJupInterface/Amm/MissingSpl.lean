import InfJupInterface.Amm.Recovery

/-!
# LSTs without SPL data

An SPL LST whose stake pool the AMM does not know has no calculator, and the per-LST step passes over
it.  The other LSTs come out as if it were not on the list: the entries of a mint depend on what was
stored for the mint and on the fetched accounts only (`exists_step_of_mem`,
`LstOutcome.entries_congr`).

But the step reads the reserves of the LST first.  They are not among the accounts asked for, since
the LST has no calculator, so the update fails on it unless something else asks for them.
-/

namespace InfJup

variable {T : Inf1Types} [Inf1Api T]

/-- `try_get_or_init_lst_svc_static` fails with `MissingSplData` for the LST. -/
def InfAmm.missesSplData (amm : InfAmm T) (l : T.LstState) : Bool :=
  match ((Inf1Api.tryGetOrInitLstSvcStatic amm.inner.splLsts l).run amm.inner.lstCalcs).1 with
  | .error (.missingSplData _) => true
  | _ => false

/-- The update with the given LSTs taken off the list that its loop runs over. -/
def updateInnerWithout (missing : T.LstState → Bool) (poolStateId lstStateListId : Pubkey)
    (fetched : UpdateMap) : Mutation (InfStd T) (AmmErr T) Unit := do
  let allLstStates ← updateWholePool lstStateListId fetched
  updateLsts poolStateId fetched (allLstStates.filter fun l => !missing l)

variable [Inf1Spec T]

/-- The stored pool and the stored list are those of the snapshot, whose mints are distinct.  Every
listed LST lacks its SPL data, or has its calculator, whose accounts are in the snapshot. -/
structure SplState (amm : InfAmm T) (snapshot : AccountMap) (poolStateId lstStateListId : Pubkey)
    (pool : T.VerPoolState) (lsts : List T.LstState) : Prop where
  wellFormed : WellFormed amm snapshot poolStateId lstStateListId pool lsts
  pool_eq : amm.inner.pool = pool
  decodes : Inf1Api.lstStatePackedListOfAccData amm.inner.lstStateListData = some lsts
  distinct : (lsts.map Inf1Api.mint).Nodup
  calcs : ∀ l ∈ lsts, amm.missesSplData l = true ∨
    ∃ c, HasCurrentCalc amm.inner.lstCalcs l c ∧
      ∀ mem, ∃ c', (Inf1Api.updateSvc (amm.view snapshot mem)).run c = (.ok (), c')

/-- A cycle isolates the LSTs without SPL data: it succeeds, leaves them no calculator, and leaves
the other LSTs the entries that it would leave if the former were not on the list. -/
structure CycleIsolates (amm : InfAmm T) (snapshot : AccountMap) (mem : Atomics)
    (poolStateId lstStateListId : Pubkey) (lsts : List T.LstState) : Prop where
  ok : (amm.cycle snapshot mem).1 = .ok ()
  noCalc : ∀ l ∈ lsts, amm.missesSplData l = true →
    (amm.cycle snapshot mem).2.inner.lstCalcs (Inf1Api.mint l) = none
  entries : ∃ s, (updateInnerWithout amm.missesSplData poolStateId lstStateListId
      (amm.cycleView snapshot mem poolStateId lstStateListId)).run amm.inner = (.ok (), s) ∧
    ∀ l ∈ lsts, amm.missesSplData l = false →
      (amm.cycle snapshot mem).2.inner.lstCalcs (Inf1Api.mint l) = s.lstCalcs (Inf1Api.mint l) ∧
      (amm.cycle snapshot mem).2.inner.lstReserves (Inf1Api.mint l) =
        s.lstReserves (Inf1Api.mint l)

/-- Something else asks for the reserves of every LST without SPL data, in every cycle: the pool as a
whole, or an LST that has its calculator. -/
structure ReservesOtherwiseRequested (amm : InfAmm T) (poolStateId lstStateListId : Pubkey)
    (pool : T.VerPoolState) (lsts : List T.LstState) : Prop where
  whole : PoolRequested amm poolStateId lstStateListId pool lsts
  reserves : ∀ l ∈ lsts, amm.missesSplData l = true →
    ∀ key, reservesAddr amm.inner.createPda poolStateId l = some key →
      AlwaysRequested poolStateId lstStateListId pool lsts key ∨
        ∃ l' ∈ lsts, ∃ c, HasCurrentCalc amm.inner.lstCalcs l' c ∧
          (reservesAddr amm.inner.createPda poolStateId l' = some key ∨
            key ∈ Inf1Spec.accountsToUpdateSvc c)

variable [LawfulInf1 T]

/-- The LST lacks its SPL data when there is no calculator for it for that reason. -/
theorem InfAmm.missesSplData_iff {amm : InfAmm T} {l : T.LstState} : amm.missesSplData l = true ↔
    ∃ mint, calcFor amm.inner.splLsts amm.inner.lstCalcs l = .error (.missingSplData mint) := by
  unfold missesSplData
  rcases hcalc : calcFor amm.inner.splLsts amm.inner.lstCalcs l with e | c
  · obtain ⟨calcs', hrun, -⟩ := getOrInit_of_error hcalc
    rw [hrun]
    cases e <;> simp
  · rw [getOrInit_of_ok hcalc]
    simp

/-! ### The entries of one mint -/

section Entries

variable {createPda : CreatePda} {splLsts : HashMap Pubkey Pubkey} {poolStateId : Pubkey}
  {fetched : UpdateMap} {l : T.LstState} {m m' t t' u u' : LstMaps T}

omit [LawfulInf1 T] in
/-- The calculator of an LST depends on what is stored for its mint. -/
theorem calcFor_congr (splLsts : HashMap Pubkey Pubkey)
    (h : m.lstCalcs (Inf1Api.mint l) = t.lstCalcs (Inf1Api.mint l)) :
    calcFor splLsts m.lstCalcs l = calcFor splLsts t.lstCalcs l := by
  rw [calcFor, calcFor, h]

omit [LawfulInf1 T] in
/-- So do the entries that a successful step leaves for its mint. -/
theorem LstOutcome.entries_congr
    (ht : LstOutcome createPda splLsts poolStateId fetched l t (.ok (), t'))
    (hu : LstOutcome createPda splLsts poolStateId fetched l u (.ok (), u'))
    (h : t.lstCalcs (Inf1Api.mint l) = u.lstCalcs (Inf1Api.mint l)) :
    t'.lstCalcs (Inf1Api.mint l) = u'.lstCalcs (Inf1Api.mint l) ∧
      t'.lstReserves (Inf1Api.mint l) = u'.lstReserves (Inf1Api.mint l) := by
  have hsame := calcFor_congr splLsts h
  cases ht with
  | noSplData hreserves hcalc =>
    cases hu with
    | noSplData hreserves' _ =>
      rw [hreserves] at hreserves'
      cases hreserves'
      simp
    | updated _ hcalc' _ =>
      rw [hsame, hcalc'] at hcalc
      cases hcalc
  | updated hreserves hcalc hupdate =>
    cases hu with
    | noSplData _ hcalc' =>
      rw [hsame, hcalc'] at hcalc
      cases hcalc
    | updated hreserves' hcalc' hupdate' =>
      rw [hsame, hcalc'] at hcalc
      cases hcalc
      rw [hupdate] at hupdate'
      cases hupdate'
      rw [hreserves] at hreserves'
      cases hreserves'
      simp

/-- On a list of distinct mints, the entries of a mint are those that its own step leaves, started
from what was stored for the mint before the loop. -/
theorem exists_step_of_mem {lsts : List T.LstState} (hdistinct : (lsts.map Inf1Api.mint).Nodup)
    (hrun : (Mutation.tryForEach (updateLst createPda splLsts poolStateId fetched) lsts).run m =
      (.ok (), m')) (hl : l ∈ lsts) :
    ∃ t t', LstOutcome createPda splLsts poolStateId fetched l t (.ok (), t') ∧
      t.lstCalcs (Inf1Api.mint l) = m.lstCalcs (Inf1Api.mint l) ∧
      m'.lstCalcs (Inf1Api.mint l) = t'.lstCalcs (Inf1Api.mint l) ∧
      m'.lstReserves (Inf1Api.mint l) = t'.lstReserves (Inf1Api.mint l) := by
  induction lsts generalizing m with
  | nil => cases hl
  | cons x xs ih =>
    obtain ⟨hx, hxs⟩ := List.nodup_cons.mp hdistinct
    obtain ⟨_, s, hstep, hrest⟩ := Mutation.run_bind_eq_ok_iff.mp hrun
    have hout : LstOutcome createPda splLsts poolStateId fetched x m (.ok (), s) :=
      hstep ▸ updateLst_outcome
    rcases List.mem_cons.mp hl with rfl | hl
    · obtain ⟨hcalcs, hreserves⟩ := tryForEach_updateLst_frame hrest hx
      exact ⟨m, s, hout, rfl, hcalcs, hreserves⟩
    · have hne : Inf1Api.mint l ≠ Inf1Api.mint x := fun hmint =>
        hx (hmint ▸ List.mem_map_of_mem hl)
      obtain ⟨t, t', hout', hstored, hafter⟩ := ih hxs hrest hl
      exact ⟨t, t', hout', hstored.trans (hout.frame hne).1, hafter⟩

/-- An LST without SPL data has no calculator after the loop. -/
theorem noCalc_of_tryForEach {lsts : List T.LstState} (hdistinct : (lsts.map Inf1Api.mint).Nodup)
    (hrun : (Mutation.tryForEach (updateLst createPda splLsts poolStateId fetched) lsts).run m =
      (.ok (), m')) (hl : l ∈ lsts)
    (hmissing : ∃ mint, calcFor splLsts m.lstCalcs l = .error (.missingSplData mint)) :
    m'.lstCalcs (Inf1Api.mint l) = none := by
  obtain ⟨t, t', hout, hstored, hcalcs, -⟩ := exists_step_of_mem hdistinct hrun hl
  obtain ⟨mint, hmint⟩ := hmissing
  rw [hcalcs]
  cases hout with
  | noSplData => exact HashMap.remove_self _ _
  | updated _ hcalc _ =>
    rw [calcFor_congr splLsts hstored, hmint] at hcalc
    cases hcalc

/-- An LST that is current stays so, with the same accounts. -/
theorem current_after_tryForEach {lsts : List T.LstState} {c : T.SvcAg}
    (hdistinct : (lsts.map Inf1Api.mint).Nodup)
    (hrun : (Mutation.tryForEach (updateLst createPda splLsts poolStateId fetched) lsts).run m =
      (.ok (), m')) (hl : l ∈ lsts) (hcur : HasCurrentCalc m.lstCalcs l c) :
    ∃ c', HasCurrentCalc m'.lstCalcs l c' ∧
      Inf1Spec.accountsToUpdateSvc c' = Inf1Spec.accountsToUpdateSvc c := by
  obtain ⟨t, t', hout, hstored, hcalcs, -⟩ := exists_step_of_mem hdistinct hrun hl
  have hsame := (calcFor_congr splLsts hstored).trans (calcFor_of_current hcur)
  cases hout with
  | noSplData _ hcalc =>
    rw [hsame] at hcalc
    cases hcalc
  | @updated r d c' _ hcalc hupdate =>
    rw [hsame] at hcalc
    cases hcalc
    have hprogram := LawfulInf1.svcProgram_updateSvc fetched c
    have haccounts := LawfulInf1.accountsToUpdateSvc_updateSvc fetched c
    rw [hupdate] at hprogram haccounts
    exact ⟨c', ⟨by rw [hcalcs]; exact HashMap.insert_self _ _ _, hprogram.trans hcur.2⟩, haccounts⟩

end Entries

/-! ### The loop of a cycle -/

/-- What the loop tolerates at an LST: there is no SPL data for it, or it has its calculator, and the
accounts of the calculator are asked for and in the snapshot. -/
def Tolerable (amm : InfAmm T) (snapshot : AccountMap) (poolStateId lstStateListId : Pubkey)
    (calcs : HashMap Pubkey T.SvcAg) (l : T.LstState) : Prop :=
  (∃ mint, calcFor amm.inner.splLsts calcs l = .error (.missingSplData mint)) ∨
    ∃ c, HasCurrentCalc calcs l c ∧
      (∀ mem, ∃ c', (Inf1Api.updateSvc (amm.view snapshot mem)).run c = (.ok (), c')) ∧
      ∀ key ∈ Inf1Spec.accountsToUpdateSvc c, amm.Requested poolStateId lstStateListId key

section Loop

variable {amm : InfAmm T} {snapshot : AccountMap} {poolStateId lstStateListId : Pubkey}
  {pool : T.VerPoolState} {lsts : List T.LstState} {mem : Atomics} {l : T.LstState} {m : LstMaps T}

omit [LawfulInf1 T] in
theorem Tolerable.congr {calcs calcs' : HashMap Pubkey T.SvcAg}
    (h : Tolerable amm snapshot poolStateId lstStateListId calcs l)
    (hsame : calcs' (Inf1Api.mint l) = calcs (Inf1Api.mint l)) :
    Tolerable amm snapshot poolStateId lstStateListId calcs' l := by
  rcases h with ⟨mint, hmint⟩ | ⟨c, ⟨hc, hprogram⟩, hsvc⟩
  · exact Or.inl ⟨mint, by rwa [calcFor, hsame]⟩
  · exact Or.inr ⟨c, ⟨hsame.trans hc, hprogram⟩, hsvc⟩

/-- The step goes through, and the LST stays tolerable. -/
theorem WellFormed.tolerable_step
    (h : WellFormed amm snapshot poolStateId lstStateListId pool lsts) (mem : Atomics) (hl : l ∈ lsts)
    (hreserves : ReservesRequested amm poolStateId lstStateListId l)
    (htol : Tolerable amm snapshot poolStateId lstStateListId m.lstCalcs l) :
    ∃ m', (amm.lstStep mem (amm.cycleMap snapshot poolStateId lstStateListId) poolStateId l).run m =
        (.ok (), m') ∧ Tolerable amm snapshot poolStateId lstStateListId m'.lstCalcs l := by
  rcases hrun : (amm.lstStep mem (amm.cycleMap snapshot poolStateId lstStateListId)
    poolStateId l).run m with ⟨res, m'⟩
  have hout : LstOutcome amm.inner.createPda amm.inner.splLsts poolStateId
      (amm.cycleView snapshot mem poolStateId lstStateListId) l m (res, m') :=
    hrun ▸ updateLst_outcome
  cases hout with
  | noReserves hnone =>
    have hsome := (h.fetchedReserves_isSome_iff mem hl).mpr hreserves
    rw [hnone] at hsome
    cases hsome
  | @noSplData r mint _ hcalc =>
    refine ⟨_, rfl, Or.inl ⟨mint, ?_⟩⟩
    rw [calcFor_of_not_current, initSvc_of_calcFor_error hcalc]
    rintro ⟨c, hc, -⟩
    simp at hc
  | noCalc _ hcalc hother =>
    rcases htol with ⟨mint, hmint⟩ | ⟨c, hc, -⟩
    · rw [hmint] at hcalc
      cases hcalc
      exact absurd rfl (hother mint)
    · rw [calcFor_of_current hc] at hcalc
      cases hcalc
  | @notUpdated r d d' e _ hcalc hupdate =>
    rcases htol with ⟨mint, hmint⟩ | ⟨c, hc, hsvc, hrequested⟩
    · rw [hmint] at hcalc
      cases hcalc
    · rw [calcFor_of_current hc] at hcalc
      cases hcalc
      obtain ⟨c', hc'⟩ := hsvc mem
      have hsame := LawfulInf1.updateSvc_congr rfl rfl
        (fun key hkey => (InfAmm.cycleView_of_requested (hrequested key hkey)).symm) hc'
      rw [hupdate] at hsame
      cases hsame
  | @updated r d d' _ hcalc hupdate =>
    rcases htol with ⟨mint, hmint⟩ | ⟨c, hc, hsvc, hrequested⟩
    · rw [hmint] at hcalc
      cases hcalc
    · rw [calcFor_of_current hc] at hcalc
      cases hcalc
      have hprogram := LawfulInf1.svcProgram_updateSvc
        (amm.cycleView snapshot mem poolStateId lstStateListId) d
      have haccounts := LawfulInf1.accountsToUpdateSvc_updateSvc
        (amm.cycleView snapshot mem poolStateId lstStateListId) d
      rw [hupdate] at hprogram haccounts
      refine ⟨_, rfl, Or.inr ⟨d', ⟨HashMap.insert_self _ _ _, hprogram.trans hc.2⟩, fun mem' => ?_,
        by rwa [haccounts]⟩⟩
      obtain ⟨c', hc'⟩ := hsvc mem'
      exact ⟨c', LawfulInf1.updateSvc_congr hprogram.symm haccounts.symm (fun _ _ => rfl) hc'⟩

/-- So the loop goes through, over the whole list or any part of it. -/
theorem WellFormed.tolerable_loop
    (h : WellFormed amm snapshot poolStateId lstStateListId pool lsts) (mem : Atomics)
    (hdistinct : (lsts.map Inf1Api.mint).Nodup) {done : List T.LstState}
    (hdone : ∀ x ∈ done, x ∈ lsts)
    (hreserves : ∀ l ∈ lsts, ReservesRequested amm poolStateId lstStateListId l)
    (htol : ∀ l ∈ lsts, Tolerable amm snapshot poolStateId lstStateListId m.lstCalcs l) :
    ∃ m', (Mutation.tryForEach (amm.lstStep mem (amm.cycleMap snapshot poolStateId lstStateListId)
        poolStateId) done).run m = (.ok (), m') ∧
      ∀ l ∈ lsts, Tolerable amm snapshot poolStateId lstStateListId m'.lstCalcs l := by
  refine Mutation.tryForEach_run_ok (P := fun m : LstMaps T =>
    ∀ l ∈ lsts, Tolerable amm snapshot poolStateId lstStateListId m.lstCalcs l) htol ?_
  intro x hx t ht
  obtain ⟨t', hrun, hself⟩ := h.tolerable_step mem (hdone x hx)
    (hreserves x (hdone x hx)) (ht x (hdone x hx))
  refine ⟨t', hrun, fun l hl => ?_⟩
  by_cases hmint : Inf1Api.mint l = Inf1Api.mint x
  · obtain rfl : l = x := List.inj_on_of_nodup_map hdistinct hl (hdone x hx) hmint
    exact hself
  · exact (ht l hl).congr (updateLst_frame hrun hmint).1

end Loop

/-! ### Two cycles -/

/-- At the loop, the update without the given LSTs ends as the loop over the rest of the list does. -/
theorem InfAmm.EntersLoop.runWithout {amm : InfAmm T} {mem : Atomics} {accountMap : AccountMap}
    {poolStateId lstStateListId : Pubkey} {lsts : List T.LstState} {s : InfStd T}
    (h : amm.EntersLoop mem accountMap poolStateId lstStateListId lsts s)
    (missing : T.LstState → Bool) :
    (updateInnerWithout missing poolStateId lstStateListId
        (amm.fetched mem accountMap).getAccount).run amm.inner =
      (((Mutation.tryForEach (amm.lstStep mem accountMap poolStateId)
          (lsts.filter fun l => !missing l)).run amm.inner.lstMaps).1.mapError .update,
        InfStd.setLstMaps ((Mutation.tryForEach (amm.lstStep mem accountMap poolStateId)
          (lsts.filter fun l => !missing l)).run amm.inner.lstMaps).2 s) := by
  have hkept := h.mapsKept
  rw [updateInnerWithout, Mutation.run_bind_of_ok h.2.2, updateLsts_run, hkept.maps,
    ← hkept.createPda, ← hkept.splLsts]
  rfl

section Cycles

variable {amm : InfAmm T} {snapshot : AccountMap} {poolStateId lstStateListId : Pubkey}
  {pool : T.VerPoolState} {lsts : List T.LstState} {mem : Atomics} {l : T.LstState}

namespace SplState

/-- Every listed LST is tolerable. -/
theorem tolerable (h : SplState amm snapshot poolStateId lstStateListId pool lsts) (hl : l ∈ lsts) :
    Tolerable amm snapshot poolStateId lstStateListId amm.inner.lstCalcs l := by
  rcases h.calcs l hl with hmissing | ⟨c, hc, hsvc⟩
  · exact Or.inl (InfAmm.missesSplData_iff.mp hmissing)
  · exact Or.inr ⟨c, hc, hsvc, (h.wellFormed.requested_of_stored h.decodes hl hc.1).2⟩

/-- If something else asks for the reserves of the LSTs without SPL data, then all reserves are asked
for. -/
theorem reservesRequested (h : SplState amm snapshot poolStateId lstStateListId pool lsts)
    (hreq : ReservesOtherwiseRequested amm poolStateId lstStateListId pool lsts) (hl : l ∈ lsts) :
    ReservesRequested amm poolStateId lstStateListId l := by
  rcases h.calcs l hl with hmissing | ⟨c, hc, -⟩
  · intro key hkey
    rcases hreq.reserves l hl hmissing key hkey with halways | ⟨l', hl', c, hc, haddr | hsvc⟩
    · exact halways.requested hreq.whole
    · exact (h.wellFormed.requested_of_stored h.decodes hl' hc.1).1 key haddr
    · exact (h.wellFormed.requested_of_stored h.decodes hl' hc.1).2 key hsvc
  · exact (h.wellFormed.requested_of_stored h.decodes hl hc.1).1

/-- A successful cycle went through its loop, over the whole list. -/
theorem loop_of_cycle_ok (h : SplState amm snapshot poolStateId lstStateListId pool lsts)
    (hok : (amm.cycle snapshot mem).1 = .ok ()) :
    PoolRequested amm poolStateId lstStateListId pool lsts ∧
      (Mutation.tryForEach (amm.lstStep mem (amm.cycleMap snapshot poolStateId lstStateListId)
        poolStateId) lsts).run amm.inner.lstMaps =
          (.ok (), (amm.cycle snapshot mem).2.inner.lstMaps) := by
  rcases InfAmm.stopsBeforeLoop_or_entersLoop amm mem
    (amm.cycleMap snapshot poolStateId lstStateListId) with hstop | ⟨p, q, lsts', s, henter⟩
  · obtain ⟨⟨e, he⟩, -⟩ := h.wellFormed.cycle_of_stopsBeforeLoop hstop
    rw [hok] at he
    cases he
  · obtain ⟨rfl, rfl, rfl⟩ := h.wellFormed.entersLoop_unique henter
    refine ⟨h.wellFormed.poolRequested henter, ?_⟩
    rcases hloop : (Mutation.tryForEach (amm.lstStep mem (amm.cycleMap snapshot p q) p) lsts').run
      amm.inner.lstMaps with ⟨e | u, m⟩
    · obtain ⟨hres, -⟩ := h.wellFormed.cycle_of_loop henter hloop
      rw [hok] at hres
      cases hres
    · rw [(h.wellFormed.cycle_of_loop henter hloop).2]

/-- After a successful cycle an LST without SPL data has no calculator, and the data is still not
there. -/
theorem misses_after (h : SplState amm snapshot poolStateId lstStateListId pool lsts)
    (hok : (amm.cycle snapshot mem).1 = .ok ()) (hl : l ∈ lsts)
    (hmissing : amm.missesSplData l = true) :
    (amm.cycle snapshot mem).2.inner.lstCalcs (Inf1Api.mint l) = none ∧
      (amm.cycle snapshot mem).2.missesSplData l = true := by
  have hfixed : InfAmm.FixedParts amm (amm.cycle snapshot mem).2 := h.wellFormed.fixedParts_cycle
  have hcalc := InfAmm.missesSplData_iff.mp hmissing
  have hnone := noCalc_of_tryForEach h.distinct (h.loop_of_cycle_ok hok).2 hl hcalc
  obtain ⟨mint, hmint⟩ := hcalc
  refine ⟨hnone, InfAmm.missesSplData_iff.mpr ⟨mint, ?_⟩⟩
  rw [calcFor_of_not_current, ← hfixed.inner.splLsts, initSvc_of_calcFor_error hmint]
  rintro ⟨c, hc, -⟩
  cases hnone.symm.trans hc

/-- A successful cycle leaves a state of the same kind. -/
theorem cycle (h : SplState amm snapshot poolStateId lstStateListId pool lsts)
    (hok : (amm.cycle snapshot mem).1 = .ok ()) :
    SplState (amm.cycle snapshot mem).2 snapshot poolStateId lstStateListId pool lsts := by
  have hfixed : InfAmm.FixedParts amm (amm.cycle snapshot mem).2 := h.wellFormed.fixedParts_cycle
  have hsynced := h.wellFormed.synced_of_cycle mem
  obtain ⟨hwhole, hloop⟩ := h.loop_of_cycle_ok hok
  refine ⟨h.wellFormed.of_fixedParts hfixed, hsynced.pool_eq, hsynced.decodes, h.distinct,
    fun l hl => ?_⟩
  rcases h.calcs l hl with hmissing | ⟨c, hc, hsvc⟩
  · left
    exact (h.misses_after hok hl hmissing).2
  · right
    obtain ⟨c', hc', haccounts⟩ := current_after_tryForEach h.distinct hloop hl hc
    refine ⟨c', hc', fun mem' => ?_⟩
    obtain ⟨d, hd⟩ := hsvc mem'
    rw [InfAmm.view, InfAmm.fetched, ← hfixed.clockRef]
    exact ⟨d, LawfulInf1.updateSvc_congr (hc.2.trans hc'.2.symm) haccounts.symm (fun _ _ => rfl) hd⟩

/-- If something else asks for the reserves of the LSTs without SPL data, then the cycle isolates
them. -/
theorem isolates (h : SplState amm snapshot poolStateId lstStateListId pool lsts) (mem : Atomics)
    (hreq : ReservesOtherwiseRequested amm poolStateId lstStateListId pool lsts) :
    CycleIsolates amm snapshot mem poolStateId lstStateListId lsts := by
  obtain ⟨s, henter⟩ := h.wellFormed.entersLoop_of_requested mem hreq.whole
  have hreserves (l : T.LstState) (hl : l ∈ lsts) := h.reservesRequested hreq hl
  have htol (l : T.LstState) (hl : l ∈ lsts) := h.tolerable hl
  obtain ⟨m, hloop, -⟩ := h.wellFormed.tolerable_loop (m := amm.inner.lstMaps) mem h.distinct
    (fun x hx => hx) hreserves htol
  obtain ⟨m', hloop', -⟩ := h.wellFormed.tolerable_loop (m := amm.inner.lstMaps) mem
    h.distinct (fun x hx => (List.mem_filter.mp hx).1 : ∀ x ∈ lsts.filter fun l =>
      !amm.missesSplData l, x ∈ lsts) hreserves htol
  obtain ⟨hok, hmaps⟩ := h.wellFormed.cycle_of_loop henter hloop
  refine ⟨hok, fun l hl hmissing => (h.misses_after hok hl hmissing).1, ?_⟩
  refine ⟨InfStd.setLstMaps m' s, ?_, fun l hl hserved => ?_⟩
  · have hrun := henter.runWithout amm.missesSplData
    rw [hloop'] at hrun
    exact hrun
  · have hl' : l ∈ lsts.filter fun l => !amm.missesSplData l := by simp [hl, hserved]
    have hdistinct : ((lsts.filter fun l => !amm.missesSplData l).map Inf1Api.mint).Nodup :=
      h.distinct.sublist (List.filter_sublist.map _)
    obtain ⟨t, t', ht, hstored, hcalcs, hres⟩ := exists_step_of_mem h.distinct hloop hl
    obtain ⟨u, u', hu, hstored', hcalcs', hres'⟩ := exists_step_of_mem hdistinct hloop' hl'
    obtain ⟨hsame, hsame'⟩ := ht.entries_congr hu (hstored.trans hstored'.symm)
    rw [← hmaps] at hcalcs hres
    exact ⟨hcalcs.trans (hsame.trans hcalcs'.symm), hres.trans (hsame'.trans hres'.symm)⟩

/-- And the same holds of the state after it. -/
theorem otherwiseRequested_after (h : SplState amm snapshot poolStateId lstStateListId pool lsts)
    (hok : (amm.cycle snapshot mem).1 = .ok ())
    (hreq : ReservesOtherwiseRequested amm poolStateId lstStateListId pool lsts) :
    ReservesOtherwiseRequested (amm.cycle snapshot mem).2 poolStateId lstStateListId pool lsts := by
  have hfixed : InfAmm.FixedParts amm (amm.cycle snapshot mem).2 := h.wellFormed.fixedParts_cycle
  have hloop := (h.loop_of_cycle_ok hok).2
  refine ⟨(h.wellFormed.synced_of_cycle mem).poolRequested, fun l hl hmissing key hkey => ?_⟩
  rw [← hfixed.inner.createPda] at hkey ⊢
  have hbefore : amm.missesSplData l = true := by
    rcases h.calcs l hl with hmissing' | ⟨c, hc, -⟩
    · exact hmissing'
    · obtain ⟨c', hc', -⟩ := current_after_tryForEach h.distinct hloop hl hc
      obtain ⟨mint, hmint⟩ := InfAmm.missesSplData_iff.mp hmissing
      cases hmint.symm.trans (calcFor_of_current hc')
  rcases hreq.reserves l hl hbefore key hkey with halways | ⟨l', hl', c, hc, hrequested⟩
  · exact Or.inl halways
  · obtain ⟨c', hc', haccounts⟩ := current_after_tryForEach h.distinct hloop hl' hc
    exact Or.inr ⟨l', hl', c', hc', haccounts ▸ hrequested⟩

/-- Two successful cycles in a row need something else to ask for the reserves of the LSTs without SPL
data. -/
theorem otherwiseRequested_of_ok (h : SplState amm snapshot poolStateId lstStateListId pool lsts)
    {mem' : Atomics} (hok : (amm.cycle snapshot mem).1 = .ok ())
    (hok' : ((amm.cycle snapshot mem).2.cycle snapshot mem').1 = .ok ()) :
    ReservesOtherwiseRequested amm poolStateId lstStateListId pool lsts := by
  have hfixed : InfAmm.FixedParts amm (amm.cycle snapshot mem).2 := h.wellFormed.fixedParts_cycle
  have hafter := h.cycle hok
  obtain ⟨hwhole, hloop⟩ := h.loop_of_cycle_ok hok
  refine ⟨hwhole, fun l hl hmissing key hkey => ?_⟩
  have hreads := (reads_of_tryForEach (hafter.loop_of_cycle_ok hok').2 l hl).1
  have hrequested := (hafter.wellFormed.fetchedReserves_isSome_iff _ hl).mp hreads key
    (hfixed.inner.createPda ▸ hkey)
  rcases hrequested.cases hafter.wellFormed.poolStateId_eq (h.wellFormed.synced_of_cycle mem)
    (fun x hx => hafter.wellFormed.exists_reservesAddr hx) with halways | ⟨x, hx, c, hc, hsource⟩
  · exact Or.inl halways
  · right
    rcases h.calcs x hx with hmissing' | ⟨d, hd, -⟩
    · cases (h.misses_after hok hx hmissing').1.symm.trans hc
    · obtain ⟨d', hd', haccounts⟩ := current_after_tryForEach h.distinct hloop hx hd
      obtain rfl : d' = c := Option.some.inj (hd'.1.symm.trans hc)
      rw [haccounts, ← hfixed.inner.createPda] at hsource
      exact ⟨x, hx, d, hd, hsource⟩

end SplState

end Cycles

/-! ### The pool on chain -/

namespace Reference

/-- The entry of jupSOL, an SPL LST. -/
def jupsol : LstState where
  poolReservesBump := 253
  mint := #v[10, 254, 29, 145, 103, 20, 34, 199, 101, 199, 160, 106, 17, 57, 255, 97, 57, 211, 128, 252,
    180, 34, 186, 120, 247, 120, 190, 213, 60, 105, 125, 129]
  solValueCalculator := splCalculator

/-- Its pool reserves. -/
def jupsolReserves : Pubkey :=
  #v[136, 122, 165, 252, 127, 90, 30, 83, 25, 212, 151, 189, 198, 155, 202, 111, 15, 134, 248, 112, 202,
    126, 131, 244, 58, 179, 31, 118, 79, 6, 50, 109]

theorem reservesAddr_jupsol :
    reservesAddr (T := inf1) (createRawPda Sha256Hasher) infPoolState jupsol = some jupsolReserves := by
  decide +kernel

theorem initSvc_jupsol : initSvc HashMap.empty jupsol = .error (.missingSplData jupsol.mint) := by
  have hcalc : jupsol.solValueCalculator = splCalculator := rfl
  rw [initSvc, hcalc, if_neg (by decide), if_neg (by decide), if_neg (by decide), if_pos rfl]
  rfl

/-- The AMM that has the pool and the list of the snapshot, and the calculator of wSOL. -/
def ammWithJupsol : InfAmm inf1 :=
  ammWith flatSlabProgramId [wsol, jupsol] (HashMap.empty.insert wsol.mint wsolSvc)

theorem hasCurrentCalc_wsol : HasCurrentCalc (T := inf1) ammWithJupsol.inner.lstCalcs wsol wsolSvc :=
  ⟨HashMap.insert_self HashMap.empty wsol.mint wsolSvc, rfl⟩

theorem missesSplData_jupsol : ammWithJupsol.missesSplData jupsol = true := by
  refine InfAmm.missesSplData_iff.mpr ⟨jupsol.mint, ?_⟩
  have hnone : ammWithJupsol.inner.lstCalcs (Inf1Api.mint (T := inf1) jupsol) = none := by
    change (HashMap.empty.insert wsol.mint wsolSvc) jupsol.mint = none
    rw [HashMap.insert_of_ne _ _ (by decide)]
    rfl
  rw [calcFor, hnone]
  exact initSvc_jupsol

/-- The snapshot of the pool with both LSTs. -/
theorem splState_jupsol : SplState ammWithJupsol (onChain [wsol, jupsol]) infPoolState infLstStateList
    chainPool [wsol, jupsol] where
  wellFormed := by
    refine wellFormed_onChain (fun l hl => ?_) fun l hl => ?_
    · rcases List.mem_pair.mp hl with rfl | rfl
      · exact ⟨wsolReserves, reservesAddr_wsol, by decide⟩
      · exact ⟨jupsolReserves, reservesAddr_jupsol, by decide⟩
    · rcases List.mem_pair.mp hl with rfl | rfl
      · exact Or.inl rfl
      · exact Or.inr rfl
  pool_eq := rfl
  decodes := lstStatePackedListOfAccData_lstStateListData _
  distinct := by decide
  calcs := by
    intro l hl
    rcases List.mem_pair.mp hl with rfl | rfl
    · exact Or.inr ⟨wsolSvc, hasCurrentCalc_wsol, fun _ => ⟨wsolSvc, rfl⟩⟩
    · exact Or.inl missesSplData_jupsol

/-- Nothing else asks for the reserves of jupSOL. -/
theorem not_reservesOtherwiseRequested_jupsol : ¬ ReservesOtherwiseRequested ammWithJupsol infPoolState
    infLstStateList chainPool [wsol, jupsol] := by
  intro hreq
  rcases hreq.reserves jupsol (by simp) missesSplData_jupsol jupsolReserves reservesAddr_jupsol with
    halways | ⟨l, hl, c, hc, hsource⟩
  · rcases halways with h | h | h | h | ⟨p, hp, hmem⟩
    · exact absurd h (by decide)
    · exact absurd h (by decide)
    · exact absurd h (by decide)
    · exact absurd h (by decide)
    · have hprogram : p.programId = flatSlabProgramId := hp
      change jupsolReserves ∈ pricingAccounts p.programId _ at hmem
      rw [hprogram, pricingAccounts_flatSlab] at hmem
      exact absurd hmem (by decide)
  · rcases List.mem_pair.mp hl with rfl | rfl
    · obtain rfl : wsolSvc = c := Option.some.inj (hasCurrentCalc_wsol.1.symm.trans hc.1)
      rcases hsource with hkey | hmem
      · cases reservesAddr_wsol.symm.trans hkey
      · cases hmem
    · obtain ⟨mint, hmint⟩ := InfAmm.missesSplData_iff.mp missesSplData_jupsol
      cases hmint.symm.trans (calcFor_of_current hc)

end Reference

/-! ### The theorem -/

end InfJup
