import InfJupInterface.Amm.Defs

/-!
# What an update does

The specification of `update`, piece by piece.  Everything later is derived from it, and no later
proof unfolds the update or calls on the laws of the functions it is made of.

* `LstOutcome` lists the five ways in which the per-LST step can end, and `updateLst_outcome`
  says that there are no others.
* `StoresFetched` says that the fields of the pool as a whole are those of the fetched accounts;
  it holds when the loop is entered (`updateWholePool_ok`).  Before that, nothing else is written
  (`updateWholePool_frame`).
* `update_run` peels off the addresses, which are cached.
-/

namespace InfJup

variable {T : Inf1Types}

namespace Fixed

theorem refl (s : InfStd T) : Fixed s s := ⟨rfl, rfl, rfl, rfl, rfl, rfl⟩

theorem symm {s t : InfStd T} (h : Fixed s t) : Fixed t s :=
  ⟨h.progId.symm, h.splLsts.symm, h.findPda.symm, h.createPda.symm, h.poolStatePda.symm,
    h.lstStateListPda.symm⟩

theorem trans {s t u : InfStd T} (h : Fixed s t) (h' : Fixed t u) : Fixed s u :=
  ⟨h.progId.trans h'.progId, h.splLsts.trans h'.splLsts, h.findPda.trans h'.findPda,
    h.createPda.trans h'.createPda, h.poolStatePda.trans h'.poolStatePda,
    h.lstStateListPda.trans h'.lstStateListPda⟩

/-- Writing the two maps keeps the fixed parts. -/
theorem setLstMaps (m : LstMaps T) (s : InfStd T) : Fixed s (InfStd.setLstMaps m s) :=
  ⟨rfl, rfl, rfl, rfl, rfl, rfl⟩

end Fixed

/-- The two maps and the fixed parts are kept. -/
structure MapsKept (s t : InfStd T) : Prop extends Fixed s t where
  maps : t.lstMaps = s.lstMaps

namespace MapsKept

theorem refl (s : InfStd T) : MapsKept s s := ⟨Fixed.refl s, rfl⟩

theorem trans {s t u : InfStd T} (h : MapsKept s t) (h' : MapsKept t u) : MapsKept s u :=
  ⟨h.toFixed.trans h'.toFixed, h'.maps.trans h.maps⟩

end MapsKept

/-- What no update changes: the fixed parts of the state of `inf1_std`, and the clock handle. -/
structure InfAmm.FixedParts (amm amm' : InfAmm T) : Prop where
  inner : Fixed amm.inner amm'.inner
  clockRef : amm.clockRef = amm'.clockRef

theorem InfAmm.FixedParts.refl (amm : InfAmm T) : InfAmm.FixedParts amm amm := ⟨Fixed.refl _, rfl⟩

theorem InfAmm.FixedParts.trans {a b c : InfAmm T} (h : InfAmm.FixedParts a b)
    (h' : InfAmm.FixedParts b c) : InfAmm.FixedParts a c :=
  ⟨h.inner.trans h'.inner, h.clockRef.trans h'.clockRef⟩

variable [Inf1Api T]

/-! ### The steps of an update -/

section Run

variable {fetched : UpdateMap} {poolStateId lstStateListId : Pubkey} {s s' : InfStd T}
  {lsts : List T.LstState}

/-- The steps of a run that reaches the loop. -/
theorem updateWholePool_eq_ok_iff :
    (updateWholePool lstStateListId fetched).run s = (.ok lsts, s') ↔
      ∃ s₁ s₂ s₃ pricing,
        (Inf1Api.updatePool fetched).run s = (.ok (), s₁) ∧
        (Inf1Api.updateLstStateList fetched).run s₁ = (.ok (), s₂) ∧
        (Inf1Api.updateLpTokenSupply fetched).run s₂ = (.ok (), s₃) ∧
        Inf1Api.lstStatePackedListOfAccData s₃.lstStateListData = some lsts ∧
        (Inf1Api.updateAll (lsts.map Inf1Api.mint) fetched).run s₃.pricing = (.ok (), pricing) ∧
        s' = { s₃ with pricing := pricing } := by
  unfold updateWholePool
  simp only [Mutation.run_bind_eq_ok_iff, Mutation.run_mapErr_eq_ok_iff,
    Mutation.run_zoom_eq_ok_iff, Mutation.run_read, Mutation.run_ofExcept, Mutation.run_pure,
    Prod.mk.injEq, Except.ok.injEq]
  constructor
  · rintro ⟨_, s₁, h₁, _, s₂, h₂, _, s₃, h₃, _, _, ⟨rfl, rfl⟩, _, _, ⟨hlsts, rfl⟩, _, _,
      ⟨pricing, hpricing, rfl⟩, rfl, rfl⟩
    refine ⟨s₁, s₂, s₃, pricing, h₁, h₂, h₃, ?_, hpricing, rfl⟩
    split at hlsts
    · cases hlsts
      assumption
    · cases hlsts
  · rintro ⟨s₁, s₂, s₃, pricing, h₁, h₂, h₃, hlsts, hpricing, rfl⟩
    exact ⟨(), s₁, h₁, (), s₂, h₂, (), s₃, h₃, s₃, s₃, ⟨rfl, rfl⟩, lsts, s₃, ⟨by rw [hlsts], rfl⟩, (),
      _, ⟨pricing, hpricing, rfl⟩, rfl, rfl⟩

/-- The loop runs on the two maps and leaves the rest of the state alone. -/
theorem updateLsts_run :
    (updateLsts poolStateId fetched lsts).run s =
      (((Mutation.tryForEach (updateLst s.createPda s.splLsts poolStateId fetched) lsts).run
          s.lstMaps).1.mapError .update,
        InfStd.setLstMaps ((Mutation.tryForEach (updateLst s.createPda s.splLsts poolStateId fetched)
          lsts).run s.lstMaps).2 s) := rfl

/-- When the loop is not entered, the update stops. -/
theorem updateInner_of_error {e : AmmErr T}
    (h : (updateWholePool lstStateListId fetched).run s = (.error e, s')) :
    (updateInner poolStateId lstStateListId fetched).run s = (.error e, s') :=
  Mutation.run_bind_of_error h

end Run

namespace InfAmm

variable {amm : InfAmm T} {mem : Atomics} {accountMap : AccountMap} {poolStateId lstStateListId : Pubkey}

/-- With both addresses at hand, the update is the one of `inf1_std`. -/
theorem update_run (hpool : amm.poolStateId = .ok poolStateId)
    (hlist : amm.lstStateListId = .ok lstStateListId) :
    (update mem accountMap).run amm =
      (((updateInner poolStateId lstStateListId (amm.fetched mem accountMap).getAccount).run
          amm.inner).1,
        { amm with inner := ((updateInner poolStateId lstStateListId
          (amm.fetched mem accountMap).getAccount).run amm.inner).2 }) := by
  have hpool' : (Mutation.ofExcept amm.poolStateId : Mutation (InfAmm T) _ _).run amm =
      (.ok poolStateId, amm) := by rw [Mutation.run_ofExcept, hpool]
  have hlist' : (Mutation.ofExcept amm.lstStateListId : Mutation (InfAmm T) _ _).run amm =
      (.ok lstStateListId, amm) := by rw [Mutation.run_ofExcept, hlist]
  rw [update, Mutation.run_bind_of_ok (Mutation.run_read amm), Mutation.run_bind_of_ok hpool',
    Mutation.run_bind_of_ok hlist', Mutation.run_zoom]

/-- Without them, the update panics before it does anything. -/
theorem update_run_of_panic {e : AmmErr T}
    (h : amm.poolStateId = .error e ∨
      (∃ key, amm.poolStateId = .ok key) ∧ amm.lstStateListId = .error e) :
    (update mem accountMap).run amm = (.error e, amm) := by
  rw [update, Mutation.run_bind_of_ok (Mutation.run_read amm)]
  rcases h with h | ⟨⟨key, hkey⟩, h⟩
  · exact Mutation.run_bind_of_error (by rw [Mutation.run_ofExcept, h])
  · have hkey' : (Mutation.ofExcept amm.poolStateId : Mutation (InfAmm T) _ _).run amm =
        (.ok key, amm) := by rw [Mutation.run_ofExcept, hkey]
    rw [Mutation.run_bind_of_ok hkey']
    exact Mutation.run_bind_of_error (by rw [Mutation.run_ofExcept, h])

/-- The address of the pool state is the one `find_pool_state` finds. -/
theorem findPoolState_of_poolStateId (h : amm.poolStateId = .ok poolStateId) :
    ∃ bump, Inf1Api.findPoolState amm.inner = some (poolStateId, bump) := by
  unfold InfAmm.poolStateId at h
  split at h
  · rename_i key bump hfind
    cases h
    exact ⟨bump, hfind⟩
  · cases h

/-- The address of the list is the one `find_lst_state_list` finds. -/
theorem findLstStateList_of_lstStateListId (h : amm.lstStateListId = .ok lstStateListId) :
    ∃ bump, Inf1Api.findLstStateList amm.inner = some (lstStateListId, bump) := by
  unfold InfAmm.lstStateListId at h
  split at h
  · rename_i key bump hfind
    cases h
    exact ⟨bump, hfind⟩
  · cases h

/-- The step of the loop in an update of `amm`. -/
def lstStep (amm : InfAmm T) (mem : Atomics) (accountMap : AccountMap) (poolStateId : Pubkey)
    (l : T.LstState) : Mutation (LstMaps T) (UpdateErr (InfErr T)) Unit :=
  updateLst amm.inner.createPda amm.inner.splLsts poolStateId (amm.fetched mem accountMap).getAccount
    l

/-- The update stops before its loop. -/
def StopsBeforeLoop (amm : InfAmm T) (mem : Atomics) (accountMap : AccountMap) : Prop :=
  (∃ e, amm.poolStateId = .error e) ∨ (∃ e, amm.lstStateListId = .error e) ∨
    ∃ lstStateListId e s, amm.lstStateListId = .ok lstStateListId ∧
      (updateWholePool lstStateListId (amm.fetched mem accountMap).getAccount).run amm.inner =
        (.error e, s)

/-- The update enters its loop, over the list `lsts`. -/
def EntersLoop (amm : InfAmm T) (mem : Atomics) (accountMap : AccountMap)
    (poolStateId lstStateListId : Pubkey) (lsts : List T.LstState) (s : InfStd T) : Prop :=
  amm.poolStateId = .ok poolStateId ∧ amm.lstStateListId = .ok lstStateListId ∧
    (updateWholePool lstStateListId (amm.fetched mem accountMap).getAccount).run amm.inner =
      (.ok lsts, s)

/-- An update stops before its loop, or enters it. -/
theorem stopsBeforeLoop_or_entersLoop (amm : InfAmm T) (mem : Atomics) (accountMap : AccountMap) :
    amm.StopsBeforeLoop mem accountMap ∨
      ∃ poolStateId lstStateListId lsts s,
        amm.EntersLoop mem accountMap poolStateId lstStateListId lsts s := by
  rcases hpool : amm.poolStateId with e | poolStateId
  · exact Or.inl (Or.inl ⟨e, hpool⟩)
  rcases hlist : amm.lstStateListId with e | lstStateListId
  · exact Or.inl (Or.inr (Or.inl ⟨e, hlist⟩))
  rcases hrun : (updateWholePool lstStateListId (amm.fetched mem accountMap).getAccount).run
    amm.inner with ⟨e | lsts, s⟩
  · exact Or.inl (Or.inr (Or.inr ⟨lstStateListId, e, s, hlist, hrun⟩))
  · exact Or.inr ⟨poolStateId, lstStateListId, lsts, s, hpool, hlist, hrun⟩

end InfAmm

variable [Inf1Spec T]

/-! ### The calculator of an LST -/

/-- The calculator that the per-LST step works with: the stored one if it is of the program that the
list names, and otherwise a fresh one. -/
def calcFor (splLsts : HashMap Pubkey Pubkey) (calcs : HashMap Pubkey T.SvcAg) (l : T.LstState) :
    Except (InfErr T) T.SvcAg :=
  match calcs (Inf1Api.mint l) with
  | some c =>
    if Inf1Spec.svcProgram c = Inf1Spec.solValueCalculator l then .ok c else Inf1Spec.initSvc splLsts l
  | none => Inf1Spec.initSvc splLsts l

/-- A stored calculator of the named program is used. -/
theorem calcFor_of_current {splLsts : HashMap Pubkey Pubkey} {calcs : HashMap Pubkey T.SvcAg}
    {l : T.LstState} {c : T.SvcAg} (h : HasCurrentCalc calcs l c) : calcFor splLsts calcs l = .ok c := by
  obtain ⟨hstored, hprogram⟩ := h
  simp [calcFor, hstored, hprogram]

/-- Without one, the calculator is made afresh. -/
theorem calcFor_of_not_current {splLsts : HashMap Pubkey Pubkey} {calcs : HashMap Pubkey T.SvcAg}
    {l : T.LstState} (h : ¬ ∃ c, HasCurrentCalc calcs l c) :
    calcFor splLsts calcs l = Inf1Spec.initSvc splLsts l := by
  unfold calcFor
  split
  · rename_i c hstored
    have hprogram : Inf1Spec.svcProgram c ≠ Inf1Spec.solValueCalculator l := fun hp =>
      h ⟨c, hstored, hp⟩
    rw [if_neg hprogram]
  · rfl

/-- An LST without a calculator has none made for it either. -/
theorem initSvc_of_calcFor_error {splLsts : HashMap Pubkey Pubkey} {calcs : HashMap Pubkey T.SvcAg}
    {l : T.LstState} {e : InfErr T} (h : calcFor splLsts calcs l = .error e) :
    Inf1Spec.initSvc splLsts l = .error e := by
  have hcur : ¬ ∃ c, HasCurrentCalc calcs l c := by
    rintro ⟨c, hc⟩
    rw [calcFor_of_current hc] at h
    cases h
  rwa [calcFor_of_not_current hcur] at h

/-! ### The per-LST step -/

/-- The ways in which the per-LST step can end. -/
inductive LstOutcome (createPda : CreatePda) (splLsts : HashMap Pubkey Pubkey) (poolStateId : Pubkey)
    (fetched : UpdateMap) (l : T.LstState) (m : LstMaps T) :
    Except (UpdateErr (InfErr T)) Unit × LstMaps T → Prop
  /-- The reserves are not there or do not decode. -/
  | noReserves {e : UpdateErr (InfErr T)} {m' : LstMaps T}
      (hreserves : fetchedReserves createPda poolStateId fetched l = none)
      (hcalcs : m'.lstCalcs = m.lstCalcs)
      (hframe : ∀ mint ≠ Inf1Api.mint l, m'.lstReserves mint = m.lstReserves mint) :
      LstOutcome createPda splLsts poolStateId fetched l m (.error e, m')
  /-- The SPL data is not there: the LST has no calculator any more. -/
  | noSplData {r : T.Reserves} {mint : Pubkey}
      (hreserves : fetchedReserves createPda poolStateId fetched l = some r)
      (hcalc : calcFor splLsts m.lstCalcs l = .error (.missingSplData mint)) :
      LstOutcome createPda splLsts poolStateId fetched l m
        (.ok (), ⟨m.lstCalcs.remove (Inf1Api.mint l), m.lstReserves.insert (Inf1Api.mint l) r⟩)
  /-- There is no calculator, for some other reason. -/
  | noCalc {r : T.Reserves} {e : InfErr T} {calcs : HashMap Pubkey T.SvcAg}
      (hreserves : fetchedReserves createPda poolStateId fetched l = some r)
      (hcalc : calcFor splLsts m.lstCalcs l = .error e)
      (hother : ∀ mint, e ≠ .missingSplData mint)
      (hframe : ∀ mint ≠ Inf1Api.mint l, calcs mint = m.lstCalcs mint)
      (hself : calcs (Inf1Api.mint l) = m.lstCalcs (Inf1Api.mint l) ∨
        calcs (Inf1Api.mint l) = none) :
      LstOutcome createPda splLsts poolStateId fetched l m
        (.error (.inner e), ⟨calcs, m.lstReserves.insert (Inf1Api.mint l) r⟩)
  /-- The calculator does not update. -/
  | notUpdated {r : T.Reserves} {c c' : T.SvcAg} {e : UpdateErr T.UpdateSvcErr}
      (hreserves : fetchedReserves createPda poolStateId fetched l = some r)
      (hcalc : calcFor splLsts m.lstCalcs l = .ok c)
      (hupdate : (Inf1Api.updateSvc fetched).run c = (.error e, c')) :
      LstOutcome createPda splLsts poolStateId fetched l m (.error (e.mapInner .updateSvc),
        ⟨m.lstCalcs.insert (Inf1Api.mint l) c', m.lstReserves.insert (Inf1Api.mint l) r⟩)
  /-- The reserves and the calculator are up to date. -/
  | updated {r : T.Reserves} {c c' : T.SvcAg}
      (hreserves : fetchedReserves createPda poolStateId fetched l = some r)
      (hcalc : calcFor splLsts m.lstCalcs l = .ok c)
      (hupdate : (Inf1Api.updateSvc fetched).run c = (.ok (), c')) :
      LstOutcome createPda splLsts poolStateId fetched l m
        (.ok (), ⟨m.lstCalcs.insert (Inf1Api.mint l) c', m.lstReserves.insert (Inf1Api.mint l) r⟩)

/-- The step touches no other mint. -/
theorem LstOutcome.frame {createPda : CreatePda} {splLsts : HashMap Pubkey Pubkey}
    {poolStateId : Pubkey} {fetched : UpdateMap} {l : T.LstState} {m : LstMaps T}
    {res : Except (UpdateErr (InfErr T)) Unit × LstMaps T}
    (h : LstOutcome createPda splLsts poolStateId fetched l m res) {mint : Pubkey}
    (hmint : mint ≠ Inf1Api.mint l) :
    res.2.lstCalcs mint = m.lstCalcs mint ∧ res.2.lstReserves mint = m.lstReserves mint := by
  cases h with
  | noReserves _ hcalcs hframe => exact ⟨by rw [hcalcs], hframe mint hmint⟩
  | noSplData => exact ⟨HashMap.remove_of_ne _ hmint, HashMap.insert_of_ne _ _ hmint⟩
  | noCalc _ _ _ hframe _ => exact ⟨hframe mint hmint, HashMap.insert_of_ne _ _ hmint⟩
  | notUpdated => exact ⟨HashMap.insert_of_ne _ _ hmint, HashMap.insert_of_ne _ _ hmint⟩
  | updated => exact ⟨HashMap.insert_of_ne _ _ hmint, HashMap.insert_of_ne _ _ hmint⟩

/-- The fields of the pool as a whole are those of the fetched accounts, and `lsts` is the list. -/
structure StoresFetched (poolStateId lstStateListId : Pubkey) (fetched : UpdateMap)
    (lsts : List T.LstState) (s : InfStd T) : Prop where
  pool : ∃ acc, fetched poolStateId = some acc ∧ Inf1Spec.poolOfAccData acc.data = some s.pool
  list : ∃ acc, fetched lstStateListId = some acc ∧ s.lstStateListData = acc.data
  decodes : Inf1Api.lstStatePackedListOfAccData s.lstStateListData = some lsts
  supply : ∃ acc supply, fetched (Inf1Api.lpTokenMint s.pool) = some acc ∧
    Inf1Spec.supplyOfAccData T acc.data = some supply ∧ s.lpTokenSupply = some supply
  pricing : ∃ p : T.PricingAg, Inf1Spec.pricingProgramId p = Inf1Spec.pricingProgram s.pool ∧
    (Inf1Api.updateAll (lsts.map Inf1Api.mint) fetched).run p = (.ok (), s.pricing)

/-- The loop does not write the fields of the pool as a whole. -/
theorem StoresFetched.setLstMaps {poolStateId lstStateListId : Pubkey} {fetched : UpdateMap}
    {lsts : List T.LstState} {s : InfStd T} (h : StoresFetched poolStateId lstStateListId fetched lsts s)
    (m : LstMaps T) :
    StoresFetched poolStateId lstStateListId fetched lsts (InfStd.setLstMaps m s) :=
  ⟨h.pool, h.list, h.decodes, h.supply, h.pricing⟩

/-- The fetched accounts determine the list. -/
theorem StoresFetched.unique {poolStateId lstStateListId : Pubkey} {fetched : UpdateMap}
    {lsts lsts' : List T.LstState} {s t : InfStd T}
    (hs : StoresFetched poolStateId lstStateListId fetched lsts s)
    (ht : StoresFetched poolStateId lstStateListId fetched lsts' t) : lsts = lsts' := by
  obtain ⟨acc, hacc, hdata⟩ := hs.list
  obtain ⟨acc', hacc', hdata'⟩ := ht.list
  rw [hacc] at hacc'
  cases hacc'
  have hdecodes := hs.decodes
  rw [hdata, ← hdata', ht.decodes] at hdecodes
  exact (Option.some.inj hdecodes).symm

variable [LawfulInf1 T]

/-- `try_get_or_init_lst_svc_static` returns the calculator of the LST, and stores it. -/
theorem getOrInit_of_ok {splLsts : HashMap Pubkey Pubkey} {calcs : HashMap Pubkey T.SvcAg}
    {l : T.LstState} {c : T.SvcAg} (h : calcFor splLsts calcs l = .ok c) :
    (Inf1Api.tryGetOrInitLstSvcStatic splLsts l).run calcs =
      (.ok c, calcs.insert (Inf1Api.mint l) c) := by
  by_cases hcur : ∃ d, HasCurrentCalc calcs l d
  · obtain ⟨d, hd⟩ := hcur
    have hdc : d = c := by
      rw [calcFor_of_current hd] at h
      cases h
      rfl
    subst hdc
    have hsame : calcs.insert (Inf1Api.mint l) d = calcs := by
      rw [HashMap.insert, ← hd.1, Function.update_eq_self]
    rw [LawfulInf1.getOrInit_current hd, hsame]
  · rw [calcFor_of_not_current hcur] at h
    exact LawfulInf1.getOrInit_fresh hcur h

/-- `try_get_or_init_lst_svc_static` fails when there is no calculator for the LST, and touches no
other mint. -/
theorem getOrInit_of_error {splLsts : HashMap Pubkey Pubkey} {calcs : HashMap Pubkey T.SvcAg}
    {l : T.LstState} {e : InfErr T} (h : calcFor splLsts calcs l = .error e) :
    ∃ calcs', (Inf1Api.tryGetOrInitLstSvcStatic splLsts l).run calcs = (.error e, calcs') ∧
      (∀ mint ≠ Inf1Api.mint l, calcs' mint = calcs mint) ∧
      (calcs' (Inf1Api.mint l) = calcs (Inf1Api.mint l) ∨ calcs' (Inf1Api.mint l) = none) := by
  have hcur : ¬ ∃ c, HasCurrentCalc calcs l c := by
    rintro ⟨c, hc⟩
    rw [calcFor_of_current hc] at h
    cases h
  rw [calcFor_of_not_current hcur] at h
  obtain ⟨herr, hframe⟩ := LawfulInf1.getOrInit_error hcur h
  exact ⟨_, Prod.ext herr rfl, hframe, LawfulInf1.getOrInit_error_self hcur h⟩

/-- The calculator of an LST is of the program that the list names. -/
theorem svcProgram_calcFor {splLsts : HashMap Pubkey Pubkey} {calcs : HashMap Pubkey T.SvcAg}
    {l : T.LstState} {c : T.SvcAg} (h : calcFor splLsts calcs l = .ok c) :
    Inf1Spec.svcProgram c = Inf1Spec.solValueCalculator l := by
  by_cases hcur : ∃ d, HasCurrentCalc calcs l d
  · obtain ⟨d, hd⟩ := hcur
    rw [calcFor_of_current hd] at h
    cases h
    exact hd.2
  · rw [calcFor_of_not_current hcur] at h
    exact LawfulInf1.initSvc_program h

section Step

variable {createPda : CreatePda} {splLsts : HashMap Pubkey Pubkey} {poolStateId : Pubkey}
  {fetched : UpdateMap} {l : T.LstState} {m m' : LstMaps T}

/-- With the reserves fetched, the step goes on to the calculator. -/
theorem updateLst_of_reserves {r : T.Reserves}
    (h : fetchedReserves createPda poolStateId fetched l = some r) :
    (updateLst createPda splLsts poolStateId fetched l).run m =
      (updateCalcOf splLsts fetched l).run
        { m with lstReserves := m.lstReserves.insert (Inf1Api.mint l) r } := by
  have hrun := (LawfulInf1.updateLstReserves_eq_ok_iff createPda poolStateId l fetched m.lstReserves
    _).mpr ⟨r, h, rfl⟩
  apply Mutation.run_bind_of_ok (a := ())
  rw [updateReservesOf, Mutation.run_zoom, hrun]

/-- Without them, the step stops before it looks at the calculator. -/
theorem updateLst_of_no_reserves (h : fetchedReserves createPda poolStateId fetched l = none) :
    ∃ e reserves, (updateLst createPda splLsts poolStateId fetched l).run m =
        (.error e, { m with lstReserves := reserves }) ∧
      ∀ mint ≠ Inf1Api.mint l, reserves mint = m.lstReserves mint := by
  rcases hrun : (Inf1Api.updateLstReserves createPda poolStateId l fetched).run m.lstReserves with
    ⟨e | u, reserves⟩
  · refine ⟨e, reserves, ?_, ?_⟩
    · apply Mutation.run_bind_of_error
      rw [updateReservesOf, Mutation.run_zoom, hrun]
    · intro mint hmint
      have hframe := LawfulInf1.updateLstReserves_frame createPda poolStateId l fetched m.lstReserves
        mint hmint
      rwa [hrun] at hframe
  · obtain ⟨r, hr, -⟩ := (LawfulInf1.updateLstReserves_eq_ok_iff createPda poolStateId l fetched
      m.lstReserves reserves).mp hrun
    rw [h] at hr
    cases hr

/-- The second half of the step, when the LST has a calculator. -/
theorem updateCalcOf_of_ok {calcs : HashMap Pubkey T.SvcAg} {reserves : HashMap Pubkey T.Reserves}
    {c : T.SvcAg} (h : calcFor splLsts calcs l = .ok c) :
    (updateCalcOf splLsts fetched l).run ⟨calcs, reserves⟩ =
      (((Inf1Api.updateSvc fetched).run c).1.mapError (UpdateErr.mapInner .updateSvc),
        ⟨calcs.insert (Inf1Api.mint l) ((Inf1Api.updateSvc fetched).run c).2, reserves⟩) := by
  have hrun : Inf1Api.tryGetOrInitLstSvcStatic splLsts l calcs =
      (.ok c, calcs.insert (Inf1Api.mint l) c) := getOrInit_of_ok h
  have hinsert (d : T.SvcAg) : (calcs.insert (Inf1Api.mint l) c).insert (Inf1Api.mint l) d =
      calcs.insert (Inf1Api.mint l) d := Function.update_idem _ _ _
  simp only [updateCalcOf, Mutation.run, hrun, hinsert]

/-- The second half of the step, when the SPL data is not there. -/
theorem updateCalcOf_of_missingSplData {calcs : HashMap Pubkey T.SvcAg}
    {reserves : HashMap Pubkey T.Reserves} {mint : Pubkey}
    (h : calcFor splLsts calcs l = .error (.missingSplData mint)) :
    (updateCalcOf splLsts fetched l).run ⟨calcs, reserves⟩ =
      (.ok (), ⟨calcs.remove (Inf1Api.mint l), reserves⟩) := by
  obtain ⟨calcs', hrun, hframe, -⟩ := getOrInit_of_error h
  have hremove : calcs'.remove (Inf1Api.mint l) = calcs.remove (Inf1Api.mint l) := by
    funext k
    by_cases hk : k = Inf1Api.mint l
    · subst hk
      rw [HashMap.remove_self, HashMap.remove_self]
    · rw [HashMap.remove_of_ne _ hk, HashMap.remove_of_ne _ hk, hframe k hk]
  have hrun' : Inf1Api.tryGetOrInitLstSvcStatic splLsts l calcs =
      (.error (.missingSplData mint), calcs') := hrun
  simp only [updateCalcOf, Mutation.run, hrun', hremove]

/-- The second half of the step, when there is no calculator for another reason. -/
theorem updateCalcOf_of_error {calcs : HashMap Pubkey T.SvcAg}
    {reserves : HashMap Pubkey T.Reserves} {e : InfErr T} (h : calcFor splLsts calcs l = .error e)
    (hother : ∀ mint, e ≠ .missingSplData mint) :
    ∃ calcs', (updateCalcOf splLsts fetched l).run ⟨calcs, reserves⟩ =
        (.error (.inner e), ⟨calcs', reserves⟩) ∧
      (∀ mint ≠ Inf1Api.mint l, calcs' mint = calcs mint) ∧
      (calcs' (Inf1Api.mint l) = calcs (Inf1Api.mint l) ∨ calcs' (Inf1Api.mint l) = none) := by
  obtain ⟨calcs', hrun, hframe⟩ := getOrInit_of_error h
  have hrun' : Inf1Api.tryGetOrInitLstSvcStatic splLsts l calcs = (.error e, calcs') := hrun
  refine ⟨calcs', ?_, hframe⟩
  simp only [updateCalcOf, Mutation.run, hrun']

/-- **The outcomes of the per-LST step.** -/
theorem updateLst_outcome :
    LstOutcome createPda splLsts poolStateId fetched l m
      ((updateLst createPda splLsts poolStateId fetched l).run m) := by
  rcases hreserves : fetchedReserves createPda poolStateId fetched l with _ | r
  · obtain ⟨e, reserves, hrun, hframe⟩ := updateLst_of_no_reserves (m := m) hreserves
    rw [hrun]
    exact .noReserves hreserves rfl hframe
  · rw [updateLst_of_reserves hreserves]
    rcases hcalc : calcFor splLsts m.lstCalcs l with e | c
    · by_cases hspl : ∃ mint, e = .missingSplData mint
      · obtain ⟨mint, rfl⟩ := hspl
        rw [updateCalcOf_of_missingSplData hcalc]
        exact .noSplData hreserves hcalc
      · have hother : ∀ mint, e ≠ .missingSplData mint := fun mint h => hspl ⟨mint, h⟩
        obtain ⟨calcs', hrun, hframe, hself⟩ := updateCalcOf_of_error hcalc hother
        rw [hrun]
        exact .noCalc hreserves hcalc hother hframe hself
    · rw [updateCalcOf_of_ok hcalc]
      rcases hupdate : (Inf1Api.updateSvc fetched).run c with ⟨e | u, c'⟩
      · exact .notUpdated hreserves hcalc hupdate
      · exact .updated hreserves hcalc hupdate

/-- The step touches no other mint. -/
theorem updateLst_frame {res : Except (UpdateErr (InfErr T)) Unit}
    (h : (updateLst createPda splLsts poolStateId fetched l).run m = (res, m')) {mint : Pubkey}
    (hmint : mint ≠ Inf1Api.mint l) :
    m'.lstCalcs mint = m.lstCalcs mint ∧ m'.lstReserves mint = m.lstReserves mint := by
  have hout : LstOutcome createPda splLsts poolStateId fetched l m (res, m') := h ▸ updateLst_outcome
  exact hout.frame hmint

/-- Neither does the loop touch a mint that is not on the list. -/
theorem tryForEach_updateLst_frame {lsts : List T.LstState}
    {res : Except (UpdateErr (InfErr T)) Unit}
    (h : (Mutation.tryForEach (updateLst createPda splLsts poolStateId fetched) lsts).run m =
      (res, m')) {mint : Pubkey} (hmint : mint ∉ lsts.map Inf1Api.mint) :
    m'.lstCalcs mint = m.lstCalcs mint ∧ m'.lstReserves mint = m.lstReserves mint := by
  let P : LstMaps T → Prop := fun t =>
    t.lstCalcs mint = m.lstCalcs mint ∧ t.lstReserves mint = m.lstReserves mint
  have hloop : P ((Mutation.tryForEach (updateLst createPda splLsts poolStateId fetched)
      lsts).run m).2 := Mutation.tryForEach_preserves ⟨rfl, rfl⟩ ?_
  · rwa [h] at hloop
  · rintro x hx t ⟨hcalcs, hreserves⟩
    have hne : mint ≠ Inf1Api.mint x := fun hmint' => hmint (hmint' ▸ List.mem_map_of_mem hx)
    obtain ⟨hcalcs', hreserves'⟩ := updateLst_frame (m := t) rfl hne
    exact ⟨hcalcs'.trans hcalcs, hreserves'.trans hreserves⟩

end Step

/-! ### The fields of the pool as a whole -/

section WholePool

variable {fetched : UpdateMap} {lstStateListId : Pubkey} {s s' : InfStd T} {lsts : List T.LstState}

/-- Whatever happens before the loop, the two maps and the fixed parts stay as they are. -/
theorem updateWholePool_frame :
    MapsKept s ((updateWholePool lstStateListId fetched).run s).2 := by
  refine Mutation.run_bind_preserves (P := MapsKept s) (MapsKept.refl s) ?_ fun _ t ht => ?_
  · intro t ht
    obtain ⟨pool, pricing, h⟩ := LawfulInf1.updatePool_frame fetched t
    rw [Mutation.run_mapErr, h]
    exact ht.trans ⟨⟨rfl, rfl, rfl, rfl, rfl, rfl⟩, rfl⟩
  refine Mutation.run_bind_preserves (P := MapsKept s) ht ?_ fun _ t ht => ?_
  · intro t ht
    obtain ⟨data, h⟩ := LawfulInf1.updateLstStateList_frame fetched t
    rw [Mutation.run_mapErr, h]
    exact ht.trans ⟨⟨rfl, rfl, rfl, rfl, rfl, rfl⟩, rfl⟩
  refine Mutation.run_bind_preserves (P := MapsKept s) ht ?_ fun _ t ht => ?_
  · intro t ht
    obtain ⟨supply, h⟩ := LawfulInf1.updateLpTokenSupply_frame fetched t
    rw [Mutation.run_mapErr, h]
    exact ht.trans ⟨⟨rfl, rfl, rfl, rfl, rfl, rfl⟩, rfl⟩
  refine Mutation.run_bind_preserves (P := MapsKept s) ht (fun t ht => ht) fun inner t ht => ?_
  refine Mutation.run_bind_preserves (P := MapsKept s) ht ?_ fun _ t ht => ?_
  · intro t ht
    rwa [Mutation.run_ofExcept]
  refine Mutation.run_bind_preserves (P := MapsKept s) ht ?_ fun _ t ht => ht
  intro t ht
  rw [Mutation.run_zoom]
  exact ht.trans ⟨⟨rfl, rfl, rfl, rfl, rfl, rfl⟩, rfl⟩

/-- A successful `update_pool` stores the fetched pool and goes over to its pricing program. -/
theorem updatePool_eq_ok {poolStateId : Pubkey} {bump : UInt8}
    (hpda : Inf1Api.findPoolState s = some (poolStateId, bump))
    (h : (Inf1Api.updatePool fetched).run s = (.ok (), s')) :
    ∃ acc pool pricing, fetched poolStateId = some acc ∧
      Inf1Spec.poolOfAccData acc.data = some pool ∧
      Inf1Spec.pricingProgramId pricing = Inf1Spec.pricingProgram pool ∧
      s' = { s with pool := pool, pricing := pricing } := by
  obtain ⟨⟨acc, hacc, hpool⟩, hprogram⟩ := LawfulInf1.updatePool_ok hpda h
  obtain ⟨pool, pricing, hs'⟩ := LawfulInf1.updatePool_frame fetched s
  rw [h] at hs'
  dsimp only at hs'
  subst hs'
  exact ⟨acc, pool, pricing, hacc, hpool, hprogram, rfl⟩

/-- A successful `update_lst_state_list` stores the fetched data. -/
theorem updateLstStateList_eq_ok {bump : UInt8}
    (hpda : Inf1Api.findLstStateList s = some (lstStateListId, bump))
    (h : (Inf1Api.updateLstStateList fetched).run s = (.ok (), s')) :
    ∃ acc, fetched lstStateListId = some acc ∧ s' = { s with lstStateListData := acc.data } := by
  obtain ⟨acc, hacc, hdata⟩ := LawfulInf1.updateLstStateList_ok hpda h
  obtain ⟨data, hs'⟩ := LawfulInf1.updateLstStateList_frame fetched s
  rw [h] at hs'
  dsimp only at hs'
  subst hs'
  exact ⟨acc, hacc, by rw [← hdata]⟩

/-- A successful `update_lp_token_supply` stores the fetched supply. -/
theorem updateLpTokenSupply_eq_ok (h : (Inf1Api.updateLpTokenSupply fetched).run s = (.ok (), s')) :
    ∃ acc supply, fetched (Inf1Api.lpTokenMint s.pool) = some acc ∧
      Inf1Spec.supplyOfAccData T acc.data = some supply ∧
      s' = { s with lpTokenSupply := some supply } := by
  obtain ⟨acc, supply, hacc, hsupply, hstored⟩ := LawfulInf1.updateLpTokenSupply_ok h
  obtain ⟨supply', hs'⟩ := LawfulInf1.updateLpTokenSupply_frame fetched s
  rw [h] at hs'
  dsimp only at hs'
  subst hs'
  exact ⟨acc, supply, hacc, hsupply, by rw [← hstored]⟩

/-- When the loop is entered, the fields of the pool as a whole are those of the fetched accounts. -/
theorem updateWholePool_ok {poolStateId : Pubkey} {bump bump' : UInt8}
    (hpda : Inf1Api.findPoolState s = some (poolStateId, bump))
    (hpda' : Inf1Api.findLstStateList s = some (lstStateListId, bump'))
    (h : (updateWholePool lstStateListId fetched).run s = (.ok lsts, s')) :
    StoresFetched poolStateId lstStateListId fetched lsts s' := by
  obtain ⟨s₁, s₂, s₃, pricing', h₁, h₂, h₃, hlsts, hpricing, rfl⟩ := updateWholePool_eq_ok_iff.mp h
  obtain ⟨poolAcc, pool, pricing, hpoolAcc, hpool, hprogram, rfl⟩ := updatePool_eq_ok hpda h₁
  have hpda₁ := LawfulInf1.findLstStateList_congr (T := T) (s := s)
    (t := { s with pool := pool, pricing := pricing }) ⟨rfl, rfl, rfl, rfl, rfl, rfl⟩
  obtain ⟨listAcc, hlistAcc, rfl⟩ := updateLstStateList_eq_ok (hpda₁.symm.trans hpda') h₂
  obtain ⟨mintAcc, supply, hmintAcc, hsupply, rfl⟩ := updateLpTokenSupply_eq_ok h₃
  exact ⟨⟨poolAcc, hpoolAcc, hpool⟩, ⟨listAcc, hlistAcc, rfl⟩, hlsts,
    ⟨mintAcc, supply, hmintAcc, hsupply, rfl⟩, pricing, hprogram, hpricing⟩

/-- The loop is entered when every account is there and decodes. -/
theorem updateWholePool_succeeds {poolStateId : Pubkey} {bump bump' : UInt8}
    {poolAcc listAcc mintAcc : Account} {pool : T.VerPoolState} {supply : UInt64}
    (hpda : Inf1Api.findPoolState s = some (poolStateId, bump))
    (hpda' : Inf1Api.findLstStateList s = some (lstStateListId, bump'))
    (hpoolAcc : fetched poolStateId = some poolAcc)
    (hpool : Inf1Spec.poolOfAccData poolAcc.data = some pool)
    (hknown : KnownPricing T (Inf1Spec.pricingProgram pool))
    (hlistAcc : fetched lstStateListId = some listAcc)
    (hlsts : Inf1Api.lstStatePackedListOfAccData listAcc.data = some lsts)
    (hmintAcc : fetched (Inf1Api.lpTokenMint pool) = some mintAcc)
    (hsupply : Inf1Spec.supplyOfAccData T mintAcc.data = some supply)
    (hpricing : ∀ p : T.PricingAg, Inf1Spec.pricingProgramId p = Inf1Spec.pricingProgram pool →
      ∃ p', (Inf1Api.updateAll (lsts.map Inf1Api.mint) fetched).run p = (.ok (), p')) :
    ∃ s', (updateWholePool lstStateListId fetched).run s = (.ok lsts, s') := by
  obtain ⟨s₁, hrun₁⟩ := Mutation.exists_run_of_ok
    (LawfulInf1.updatePool_succeeds hpda hpoolAcc hpool hknown)
  obtain ⟨poolAcc', pool', pricing, hpoolAcc', hpool', hprogram, rfl⟩ := updatePool_eq_ok hpda hrun₁
  obtain rfl : poolAcc' = poolAcc := Option.some.inj (hpoolAcc'.symm.trans hpoolAcc)
  obtain rfl : pool' = pool := Option.some.inj (hpool'.symm.trans hpool)
  have hpda₁ := LawfulInf1.findLstStateList_congr (T := T) (s := s)
    (t := { s with pool := pool', pricing := pricing }) ⟨rfl, rfl, rfl, rfl, rfl, rfl⟩
  obtain ⟨s₂, hrun₂⟩ := Mutation.exists_run_of_ok
    (LawfulInf1.updateLstStateList_succeeds (hpda₁.symm.trans hpda') hlistAcc hlsts)
  obtain ⟨listAcc', hlistAcc', rfl⟩ := updateLstStateList_eq_ok (hpda₁.symm.trans hpda') hrun₂
  obtain rfl : listAcc' = listAcc := Option.some.inj (hlistAcc'.symm.trans hlistAcc)
  obtain ⟨s₃, hrun₃⟩ := Mutation.exists_run_of_ok
    (LawfulInf1.updateLpTokenSupply_succeeds (T := T) (s := { s with
      pool := pool', pricing := pricing, lstStateListData := listAcc'.data }) hmintAcc hsupply)
  obtain ⟨-, supply', -, -, rfl⟩ := updateLpTokenSupply_eq_ok hrun₃
  obtain ⟨pricing', hrun₄⟩ := hpricing pricing hprogram
  exact ⟨_, updateWholePool_eq_ok_iff.mpr ⟨_, _, _, pricing', hrun₁, hrun₂, hrun₃, hlsts, hrun₄,
    rfl⟩⟩

/-- Once the pool and the list are fetched, they stay, whatever happens after. -/
theorem updateWholePool_stores {poolStateId : Pubkey} {bump bump' : UInt8}
    {poolAcc listAcc : Account} {pool : T.VerPoolState} {res : Except (AmmErr T) (List T.LstState)}
    (hpda : Inf1Api.findPoolState s = some (poolStateId, bump))
    (hpda' : Inf1Api.findLstStateList s = some (lstStateListId, bump'))
    (hpoolAcc : fetched poolStateId = some poolAcc)
    (hpool : Inf1Spec.poolOfAccData poolAcc.data = some pool)
    (hknown : KnownPricing T (Inf1Spec.pricingProgram pool))
    (hlistAcc : fetched lstStateListId = some listAcc)
    (hlsts : Inf1Api.lstStatePackedListOfAccData listAcc.data = some lsts)
    (h : (updateWholePool lstStateListId fetched).run s = (res, s')) :
    s'.pool = pool ∧ s'.lstStateListData = listAcc.data ∧
      Inf1Spec.pricingProgramId s'.pricing = Inf1Spec.pricingProgram pool := by
  obtain ⟨s₁, hrun₁⟩ := Mutation.exists_run_of_ok
    (LawfulInf1.updatePool_succeeds hpda hpoolAcc hpool hknown)
  obtain ⟨poolAcc', pool', pricing, hpoolAcc', hpool', hprogram, rfl⟩ := updatePool_eq_ok hpda hrun₁
  obtain rfl : poolAcc' = poolAcc := Option.some.inj (hpoolAcc'.symm.trans hpoolAcc)
  obtain rfl : pool' = pool := Option.some.inj (hpool'.symm.trans hpool)
  have hpda₁ := LawfulInf1.findLstStateList_congr (T := T) (s := s)
    (t := { s with pool := pool', pricing := pricing }) ⟨rfl, rfl, rfl, rfl, rfl, rfl⟩
  obtain ⟨s₂, hrun₂⟩ := Mutation.exists_run_of_ok
    (LawfulInf1.updateLstStateList_succeeds (hpda₁.symm.trans hpda') hlistAcc hlsts)
  obtain ⟨listAcc', hlistAcc', rfl⟩ := updateLstStateList_eq_ok (hpda₁.symm.trans hpda') hrun₂
  obtain rfl : listAcc' = listAcc := Option.some.inj (hlistAcc'.symm.trans hlistAcc)
  rw [updateWholePool, Mutation.run_bind_of_ok (Mutation.run_mapErr_eq_ok_iff.mpr hrun₁),
    Mutation.run_bind_of_ok (Mutation.run_mapErr_eq_ok_iff.mpr hrun₂)] at h
  let P : InfStd T → Prop := fun t => t.pool = pool' ∧ t.lstStateListData = listAcc'.data ∧
    Inf1Spec.pricingProgramId t.pricing = Inf1Spec.pricingProgram pool'
  suffices hP : P (res, s').2 from hP
  rw [← h]
  refine Mutation.run_bind_preserves (P := P) ⟨rfl, rfl, hprogram⟩ ?_ fun _ t ht => ?_
  · intro t ht
    obtain ⟨supply, hsupply⟩ := LawfulInf1.updateLpTokenSupply_frame fetched t
    rw [Mutation.run_mapErr, hsupply]
    exact ht
  refine Mutation.run_bind_preserves (P := P) ht (fun t ht => ht) fun inner t ht => ?_
  refine Mutation.run_bind_preserves (P := P) ht ?_ fun _ t ht => ?_
  · intro t ht
    rwa [Mutation.run_ofExcept]
  refine Mutation.run_bind_preserves (P := P) ht ?_ fun _ t ht => ht
  rintro t ⟨htpool, htdata, htprogram⟩
  rw [Mutation.run_zoom, Mutation.run_mapErr]
  exact ⟨htpool, htdata, (LawfulInf1.pricingProgramId_updateAll _ _ _).trans htprogram⟩

end WholePool

/-! ### The whole update -/

section Update

variable {fetched : UpdateMap} {poolStateId lstStateListId : Pubkey} {s s' : InfStd T}
  {lsts : List T.LstState}

/-- When the loop is entered, it runs from the maps and the fixed parts of the state before. -/
theorem updateInner_of_ok
    (h : (updateWholePool lstStateListId fetched).run s = (.ok lsts, s')) :
    (updateInner poolStateId lstStateListId fetched).run s =
      (((Mutation.tryForEach (updateLst s.createPda s.splLsts poolStateId fetched) lsts).run
          s.lstMaps).1.mapError .update,
        InfStd.setLstMaps ((Mutation.tryForEach (updateLst s.createPda s.splLsts poolStateId fetched)
          lsts).run s.lstMaps).2 s') := by
  have hkept : MapsKept s s' := by
    have hframe : MapsKept s ((updateWholePool lstStateListId fetched).run s).2 :=
      updateWholePool_frame
    rwa [h] at hframe
  rw [updateInner, Mutation.run_bind_of_ok h, updateLsts_run, hkept.maps, hkept.createPda,
    hkept.splLsts]

end Update

namespace InfAmm

variable {amm amm' : InfAmm T} {mem : Atomics} {accountMap : AccountMap}

/-- An update that stops before its loop keeps the two maps. -/
theorem StopsBeforeLoop.run (h : amm.StopsBeforeLoop mem accountMap) :
    ∃ e amm', (update mem accountMap).run amm = (.error e, amm') ∧
      MapsKept amm.inner amm'.inner ∧ amm.clockRef = amm'.clockRef := by
  rcases hpool : amm.poolStateId with e | poolStateId
  · exact ⟨e, amm, update_run_of_panic (Or.inl hpool), MapsKept.refl _, rfl⟩
  rcases hlist : amm.lstStateListId with e | lstStateListId
  · exact ⟨e, amm, update_run_of_panic (Or.inr ⟨⟨_, hpool⟩, hlist⟩), MapsKept.refl _, rfl⟩
  rcases h with ⟨e, he⟩ | ⟨e, he⟩ | ⟨lstStateListId', e, s, hlist', hrun⟩
  · rw [hpool] at he
    cases he
  · rw [hlist] at he
    cases he
  · obtain rfl : lstStateListId' = lstStateListId := by
      rw [hlist] at hlist'
      cases hlist'
      rfl
    have hkept : MapsKept amm.inner ((updateWholePool lstStateListId'
        (amm.fetched mem accountMap).getAccount).run amm.inner).2 := updateWholePool_frame
    rw [hrun] at hkept
    refine ⟨e, { amm with inner := s }, ?_, hkept, rfl⟩
    rw [update_run hpool hlist, updateInner_of_error hrun]

section EntersLoop

variable {poolStateId lstStateListId : Pubkey} {lsts : List T.LstState} {s : InfStd T}

/-- At the loop, the fields of the pool as a whole are those of the fetched accounts. -/
theorem EntersLoop.storesFetched
    (h : amm.EntersLoop mem accountMap poolStateId lstStateListId lsts s) :
    StoresFetched poolStateId lstStateListId (amm.fetched mem accountMap).getAccount lsts s := by
  obtain ⟨hpool, hlist, hrun⟩ := h
  obtain ⟨bump, hpda⟩ := findPoolState_of_poolStateId hpool
  obtain ⟨bump', hpda'⟩ := findLstStateList_of_lstStateListId hlist
  exact updateWholePool_ok hpda hpda' hrun

/-- At the loop, the two maps and the fixed parts are those of the state before. -/
theorem EntersLoop.mapsKept
    (h : amm.EntersLoop mem accountMap poolStateId lstStateListId lsts s) : MapsKept amm.inner s := by
  have hkept : MapsKept amm.inner ((updateWholePool lstStateListId
      (amm.fetched mem accountMap).getAccount).run amm.inner).2 := updateWholePool_frame
  rwa [h.2.2] at hkept

/-- An update that enters its loop ends as the loop does. -/
theorem EntersLoop.run (h : amm.EntersLoop mem accountMap poolStateId lstStateListId lsts s) :
    (update mem accountMap).run amm =
      (((Mutation.tryForEach (amm.lstStep mem accountMap poolStateId) lsts).run
          amm.inner.lstMaps).1.mapError .update,
        { amm with inner := InfStd.setLstMaps ((Mutation.tryForEach
          (amm.lstStep mem accountMap poolStateId) lsts).run amm.inner.lstMaps).2 s }) := by
  rw [update_run h.1 h.2.1, updateInner_of_ok h.2.2]
  rfl

end EntersLoop

/-- A successful update stores what was fetched, and its loop got through. -/
theorem update_eq_ok (h : (update mem accountMap).run amm = (.ok (), amm')) :
    ∃ poolStateId lstStateListId lsts,
      amm.poolStateId = .ok poolStateId ∧ amm.lstStateListId = .ok lstStateListId ∧
      StoresFetched poolStateId lstStateListId (amm.fetched mem accountMap).getAccount lsts
        amm'.inner ∧
      (Mutation.tryForEach (amm.lstStep mem accountMap poolStateId) lsts).run amm.inner.lstMaps =
        (.ok (), amm'.inner.lstMaps) := by
  rcases stopsBeforeLoop_or_entersLoop amm mem accountMap with
    hstop | ⟨poolStateId, lstStateListId, lsts, s, henter⟩
  · obtain ⟨e, amm'', hrun, -⟩ := hstop.run
    rw [h] at hrun
    cases hrun
  · have hrun := henter.run
    rw [h] at hrun
    rcases hloop : (Mutation.tryForEach (amm.lstStep mem accountMap poolStateId) lsts).run
      amm.inner.lstMaps with ⟨e | u, m⟩
    · rw [hloop] at hrun
      cases hrun
    · rw [hloop] at hrun
      cases hrun
      exact ⟨poolStateId, lstStateListId, lsts, henter.1, henter.2.1,
        henter.storesFetched.setLstMaps m, hloop⟩

/-- An update keeps the fixed parts, however it ends. -/
theorem fixedParts_of_update {res : Except (AmmErr T) Unit}
    (h : (update mem accountMap).run amm = (res, amm')) : FixedParts amm amm' := by
  rcases stopsBeforeLoop_or_entersLoop amm mem accountMap with
    hstop | ⟨poolStateId, lstStateListId, lsts, s, henter⟩
  · obtain ⟨e, amm'', hrun, hkept, hclock⟩ := hstop.run
    rw [h] at hrun
    cases hrun
    exact ⟨hkept.toFixed, hclock⟩
  · have hrun := henter.run
    rw [h] at hrun
    cases hrun
    exact ⟨henter.mapsKept.toFixed.trans (Fixed.setLstMaps _ s), rfl⟩

end InfAmm

end InfJup
