import InfJupInterface.Amm.UpdateSpec
import InfJupInterface.Inf1Std.Reference

/-!
# Reachable states

The states that `InfAmm::new` and any sequence of updates lead to, whether these succeed or not and
whatever accounts they are given.  Two things hold of all of them:

* both addresses are cached, and `create_pda` is `create_raw_pda` (`Reachable.addresses`);
* every stored calculator was made from the SPL data of the state for some list entry of its mint
  (`Reachable.calcsMade`).  A calculator left over from an earlier list is therefore
  interchangeable with a fresh one of the same program.
-/

namespace InfJup

variable {T : Inf1Types} [Inf1Api T]

section Reachable

variable [SolanaPubkey]

/-- The states that `new` and updates lead to. -/
inductive Reachable (H : Type) [StreamHash H Pubkey] : InfAmm T → Prop
  | new {keyedAccount : KeyedAccount} {clockRef : ClockRef} {splLsts : HashMap Pubkey Pubkey}
      {amm : InfAmm T} (h : InfAmm.new H keyedAccount clockRef splLsts = .ok amm) : Reachable H amm
  | update {amm amm' : InfAmm T} {mem : Atomics} {accountMap : AccountMap}
      {res : Except (AmmErr T) Unit} (hamm : Reachable H amm)
      (h : (InfAmm.update mem accountMap).run amm = (res, amm')) : Reachable H amm'

end Reachable

/-- The parts of a successful `new`. -/
theorem InfAmm.new_eq_ok {H : Type} [StreamHash H Pubkey] [SolanaPubkey] {keyedAccount : KeyedAccount}
    {clockRef : ClockRef} {splLsts : HashMap Pubkey Pubkey} {amm : InfAmm T}
    (h : InfAmm.new H keyedAccount clockRef splLsts = .ok amm) :
    ∃ inner lsts, InfAmm.newInner findPda (createRawPda H) keyedAccount splLsts = .ok inner ∧
      Inf1Api.lstStatePackedListOfAccData keyedAccount.account.data = some lsts ∧
      (Mutation.tryForEach initLstSvc lsts).run inner = (.ok (), amm.inner) ∧
      amm.clockRef = clockRef := by
  unfold InfAmm.new at h
  split at h
  · cases h
  · rename_i inner hinner
    split at h
    · cases h
    · rename_i lsts hlsts
      split at h
      · cases h
      · rename_i u s' hloop
        cases h
        exact ⟨inner, lsts, hinner, hlsts, hloop, rfl⟩

/-- The steps of a successful `new`. -/
theorem InfAmm.new_of_steps {H : Type} [StreamHash H Pubkey] [SolanaPubkey]
    {keyedAccount : KeyedAccount} {clockRef : ClockRef} {splLsts : HashMap Pubkey Pubkey}
    {inner inner' : InfStd T} {lsts : List T.LstState}
    (hinner : InfAmm.newInner findPda (createRawPda H) keyedAccount splLsts = .ok inner)
    (hlsts : Inf1Api.lstStatePackedListOfAccData keyedAccount.account.data = some lsts)
    (hloop : (Mutation.tryForEach initLstSvc lsts).run inner = (.ok (), inner')) :
    InfAmm.new H keyedAccount clockRef splLsts = .ok ⟨inner', clockRef⟩ := by
  simp only [InfAmm.new, hinner, hlsts, hloop]

variable [Inf1Spec T]

/-! ### The calculators of a reachable state -/

/-- A calculator that was made for some list entry of the mint, and perhaps updated since. -/
def MadeFor (splLsts : HashMap Pubkey Pubkey) (mint : Pubkey) (c : T.SvcAg) : Prop :=
  ∃ (l : T.LstState) (c₀ : T.SvcAg), Inf1Api.mint l = mint ∧ Inf1Spec.initSvc splLsts l = .ok c₀ ∧
    Inf1Spec.svcProgram c = Inf1Spec.svcProgram c₀ ∧
    Inf1Spec.accountsToUpdateSvc c = Inf1Spec.accountsToUpdateSvc c₀

/-- Every stored calculator was made for its mint. -/
def CalcsMade (splLsts : HashMap Pubkey Pubkey) (calcs : HashMap Pubkey T.SvcAg) : Prop :=
  ∀ mint c, calcs mint = some c → MadeFor splLsts mint c

theorem CalcsMade.empty (splLsts : HashMap Pubkey Pubkey) :
    CalcsMade (T := T) splLsts HashMap.empty := by
  intro mint c h
  cases h

theorem CalcsMade.insert {splLsts : HashMap Pubkey Pubkey} {calcs : HashMap Pubkey T.SvcAg}
    (h : CalcsMade splLsts calcs) {mint : Pubkey} {c : T.SvcAg} (hc : MadeFor splLsts mint c) :
    CalcsMade splLsts (calcs.insert mint c) := by
  intro mint' c' hstored
  by_cases hmint : mint' = mint
  · subst hmint
    rw [HashMap.insert_self] at hstored
    cases hstored
    exact hc
  · rw [HashMap.insert_of_ne _ _ hmint] at hstored
    exact h mint' c' hstored

/-- Entries may go away. -/
theorem CalcsMade.mono {splLsts : HashMap Pubkey Pubkey} {calcs calcs' : HashMap Pubkey T.SvcAg}
    (h : CalcsMade splLsts calcs) (hsub : ∀ mint, calcs' mint = calcs mint ∨ calcs' mint = none) :
    CalcsMade splLsts calcs' := by
  intro mint c hstored
  rcases hsub mint with hsame | hnone
  · exact h mint c (hsame ▸ hstored)
  · rw [hnone] at hstored
    cases hstored

/-- The calculator that the per-LST step works with was made for the mint. -/
theorem madeFor_of_calcFor {splLsts : HashMap Pubkey Pubkey} {calcs : HashMap Pubkey T.SvcAg}
    {l : T.LstState} {c : T.SvcAg} (hcalcs : CalcsMade splLsts calcs)
    (h : calcFor splLsts calcs l = .ok c) : MadeFor splLsts (Inf1Api.mint l) c := by
  by_cases hcur : ∃ d, HasCurrentCalc calcs l d
  · obtain ⟨d, hd⟩ := hcur
    rw [calcFor_of_current hd] at h
    cases h
    exact hcalcs _ _ hd.1
  · rw [calcFor_of_not_current hcur] at h
    exact ⟨l, c, rfl, h, rfl, rfl⟩

/-! ### The addresses of a reachable state -/

/-- The addresses are cached, and the functions that derive addresses are those of this crate. -/
structure Addresses (H : Type) [StreamHash H Pubkey] [SolanaPubkey] (s : InfStd T)
    (poolStateId lstStateListId : Pubkey) : Prop where
  findPda_eq : s.findPda = findPda
  createPda_eq : s.createPda = createRawPda H
  pool : ∃ bump, findPda (Inf1Spec.poolStateSeeds T) s.progId = some (poolStateId, bump) ∧
    s.poolStatePda = some (poolStateId, bump)
  list : ∃ bump, findPda (Inf1Spec.lstStateListSeeds T) s.progId = some (lstStateListId, bump) ∧
    s.lstStateListPda = some (lstStateListId, bump)

omit [Inf1Api T] in
/-- The addresses are among the fixed parts. -/
theorem Addresses.of_fixed {H : Type} [StreamHash H Pubkey] [SolanaPubkey] {s t : InfStd T}
    {poolStateId lstStateListId : Pubkey} (h : Addresses H s poolStateId lstStateListId)
    (hfixed : Fixed s t) : Addresses H t poolStateId lstStateListId := by
  refine ⟨hfixed.findPda ▸ h.findPda_eq, hfixed.createPda ▸ h.createPda_eq, ?_, ?_⟩
  · rw [← hfixed.progId, ← hfixed.poolStatePda]
    exact h.pool
  · rw [← hfixed.progId, ← hfixed.lstStateListPda]
    exact h.list

omit [Inf1Api T] in
/-- The addresses are determined by the program. -/
theorem Addresses.fixed_of_same_program {H : Type} [StreamHash H Pubkey] [SolanaPubkey]
    {s t : InfStd T} {poolStateId poolStateId' lstStateListId lstStateListId' : Pubkey}
    (hs : Addresses H s poolStateId lstStateListId) (ht : Addresses H t poolStateId' lstStateListId')
    (hprogram : s.progId = t.progId) (hspl : s.splLsts = t.splLsts) :
    Fixed s t ∧ poolStateId = poolStateId' ∧ lstStateListId = lstStateListId' := by
  obtain ⟨bump, hpool, hcached⟩ := hs.pool
  obtain ⟨bump', hpool', hcached'⟩ := ht.pool
  obtain ⟨bump₂, hlist, hcached₂⟩ := hs.list
  obtain ⟨bump₂', hlist', hcached₂'⟩ := ht.list
  rw [hprogram, hpool'] at hpool
  rw [hprogram, hlist'] at hlist
  cases hpool
  cases hlist
  exact ⟨⟨hprogram, hspl, hs.findPda_eq.trans ht.findPda_eq.symm,
    hs.createPda_eq.trans ht.createPda_eq.symm, hcached.trans hcached'.symm,
    hcached₂.trans hcached₂'.symm⟩, rfl, rfl⟩

variable [LawfulInf1 T]

/-- A calculator that the per-LST step works with is like the one that would be made afresh. -/
theorem initSvc_of_calcFor_ok {splLsts : HashMap Pubkey Pubkey} {calcs : HashMap Pubkey T.SvcAg}
    {l : T.LstState} {c : T.SvcAg} (hcalcs : CalcsMade splLsts calcs)
    (h : calcFor splLsts calcs l = .ok c) :
    ∃ c₀, Inf1Spec.initSvc splLsts l = .ok c₀ ∧ Inf1Spec.svcProgram c = Inf1Spec.svcProgram c₀ ∧
      Inf1Spec.accountsToUpdateSvc c = Inf1Spec.accountsToUpdateSvc c₀ := by
  obtain ⟨k, c₀, hk, hc₀, hprogram, haccounts⟩ := madeFor_of_calcFor hcalcs h
  have hnamed : Inf1Spec.solValueCalculator l = Inf1Spec.solValueCalculator k := by
    rw [← svcProgram_calcFor h, hprogram, LawfulInf1.initSvc_program hc₀]
  exact ⟨c₀, (LawfulInf1.initSvc_congr hk.symm hnamed).trans hc₀, hprogram, haccounts⟩

/-- Updating a calculator keeps what it was made for. -/
theorem MadeFor.updateSvc {splLsts : HashMap Pubkey Pubkey} {mint : Pubkey} {fetched : UpdateMap}
    {c c' : T.SvcAg} {res : Except (UpdateErr T.UpdateSvcErr) Unit} (hc : MadeFor splLsts mint c)
    (h : (Inf1Api.updateSvc fetched).run c = (res, c')) : MadeFor splLsts mint c' := by
  obtain ⟨l, c₀, hl, hc₀, hprogram, haccounts⟩ := hc
  have hprogram' := LawfulInf1.svcProgram_updateSvc fetched c
  have haccounts' := LawfulInf1.accountsToUpdateSvc_updateSvc fetched c
  rw [h] at hprogram' haccounts'
  exact ⟨l, c₀, hl, hc₀, hprogram'.trans hprogram, haccounts'.trans haccounts⟩

/-- The per-LST step, however it ends, leaves calculators that were made for their mints. -/
theorem LstOutcome.calcsMade {createPda : CreatePda} {splLsts : HashMap Pubkey Pubkey}
    {poolStateId : Pubkey} {fetched : UpdateMap} {l : T.LstState} {m : LstMaps T}
    {res : Except (UpdateErr (InfErr T)) Unit × LstMaps T}
    (h : LstOutcome createPda splLsts poolStateId fetched l m res)
    (hm : CalcsMade splLsts m.lstCalcs) : CalcsMade splLsts res.2.lstCalcs := by
  cases h with
  | noReserves _ hcalcs _ => rwa [hcalcs]
  | noSplData =>
    refine hm.mono fun mint => ?_
    by_cases hmint : mint = Inf1Api.mint l
    · exact Or.inr (by rw [hmint]; exact HashMap.remove_self _ _)
    · exact Or.inl (HashMap.remove_of_ne _ hmint)
  | noCalc _ _ _ hframe hself =>
    refine hm.mono fun mint => ?_
    by_cases hmint : mint = Inf1Api.mint l
    · rw [hmint]
      exact hself
    · exact Or.inl (hframe mint hmint)
  | notUpdated _ hcalc hupdate => exact hm.insert ((madeFor_of_calcFor hm hcalc).updateSvc hupdate)
  | updated _ hcalc hupdate => exact hm.insert ((madeFor_of_calcFor hm hcalc).updateSvc hupdate)

/-- So does the step of an update. -/
theorem calcsMade_of_lstStep {amm : InfAmm T} {mem : Atomics} {accountMap : AccountMap}
    {poolStateId : Pubkey} {l : T.LstState} {m m' : LstMaps T}
    {res : Except (UpdateErr (InfErr T)) Unit} (hm : CalcsMade amm.inner.splLsts m.lstCalcs)
    (h : (amm.lstStep mem accountMap poolStateId l).run m = (res, m')) :
    CalcsMade amm.inner.splLsts m'.lstCalcs := by
  have hout : LstOutcome amm.inner.createPda amm.inner.splLsts poolStateId
      (amm.fetched mem accountMap).getAccount l m (res, m') := h ▸ updateLst_outcome
  exact hout.calcsMade hm

/-- So does an update, however it ends. -/
theorem calcsMade_of_update {amm amm' : InfAmm T} {mem : Atomics} {accountMap : AccountMap}
    {res : Except (AmmErr T) Unit} (hamm : CalcsMade amm.inner.splLsts amm.inner.lstCalcs)
    (h : (InfAmm.update mem accountMap).run amm = (res, amm')) :
    CalcsMade amm'.inner.splLsts amm'.inner.lstCalcs := by
  rcases InfAmm.stopsBeforeLoop_or_entersLoop amm mem accountMap with
    hstop | ⟨poolStateId, lstStateListId, lsts, s, henter⟩
  · obtain ⟨e, amm'', hrun, hkept, -⟩ := hstop.run
    rw [h] at hrun
    cases hrun
    have hcalcs : amm'.inner.lstCalcs = amm.inner.lstCalcs := congrArg LstMaps.lstCalcs hkept.maps
    rwa [← hkept.splLsts, hcalcs]
  · have hloop : CalcsMade amm.inner.splLsts
        ((Mutation.tryForEach (amm.lstStep mem accountMap poolStateId) lsts).run
          amm.inner.lstMaps).2.lstCalcs :=
      Mutation.tryForEach_preserves (P := fun m : LstMaps T => CalcsMade amm.inner.splLsts m.lstCalcs)
        hamm fun l _ m hm => updateLst_outcome.calcsMade hm
    have hrun := henter.run
    rw [h] at hrun
    cases hrun
    have hspl : amm.inner.splLsts = s.splLsts := henter.mapsKept.splLsts
    rwa [hspl] at hloop

/-! ### Construction -/

/-- The step of the loop in `new`, when the LST has no calculator yet. -/
theorem initLstSvc_of_fresh {s : InfStd T} {l : T.LstState} {c : T.SvcAg}
    (hcur : ¬ ∃ c, HasCurrentCalc s.lstCalcs l c) (hinit : Inf1Spec.initSvc s.splLsts l = .ok c) :
    (initLstSvc l).run s =
      (.ok (), { s with lstCalcs := s.lstCalcs.insert (Inf1Api.mint l) c }) := by
  have hmethod := LawfulInf1.tryGetOrInitLstSvc_eq l s
  rw [LawfulInf1.getOrInit_fresh hcur hinit] at hmethod
  simp only [initLstSvc, Mutation.run] at hmethod ⊢
  rw [hmethod]

/-- The step of the loop in `new` writes the calculator of its LST, if there is one for it. -/
theorem initLstSvc_run {l : T.LstState} {s s' : InfStd T} {res : Except (InfErr T) Unit}
    (h : (initLstSvc l).run s = (res, s')) :
    ∃ calcs, s' = { s with lstCalcs := calcs } ∧
      (∀ mint ≠ Inf1Api.mint l, calcs mint = s.lstCalcs mint) ∧
      ((∃ c, calcFor s.splLsts s.lstCalcs l = .ok c ∧ calcs (Inf1Api.mint l) = some c) ∨
        (∃ e, calcFor s.splLsts s.lstCalcs l = .error e) ∧
          (calcs (Inf1Api.mint l) = s.lstCalcs (Inf1Api.mint l) ∨ calcs (Inf1Api.mint l) = none)) := by
  have hmethod := LawfulInf1.tryGetOrInitLstSvc_eq l s
  simp only [initLstSvc, Mutation.run] at h hmethod
  rw [hmethod] at h
  rcases hcalc : calcFor s.splLsts s.lstCalcs l with e | c
  · obtain ⟨calcs', hrun, hframe, hself⟩ := getOrInit_of_error hcalc
    have hrun' : Inf1Api.tryGetOrInitLstSvcStatic s.splLsts l s.lstCalcs = (.error e, calcs') := hrun
    have hs' : s' = { s with lstCalcs := calcs' } := by
      simp only [hrun'] at h
      split at h <;> cases h <;> rename_i heq <;> cases heq <;> rfl
    exact ⟨calcs', hs', hframe, Or.inr ⟨⟨e, rfl⟩, hself⟩⟩
  · have hrun : Inf1Api.tryGetOrInitLstSvcStatic s.splLsts l s.lstCalcs = (.ok c, _) :=
      getOrInit_of_ok hcalc
    simp only [hrun] at h
    cases h
    exact ⟨_, rfl, fun mint hmint => HashMap.insert_of_ne _ _ hmint,
      Or.inl ⟨c, rfl, HashMap.insert_self _ _ _⟩⟩

/-- The loop of `new` writes the calculators only, and makes them for their mints. -/
theorem tryForEach_initLstSvc_run {lsts : List T.LstState} {s s' : InfStd T}
    {res : Except (InfErr T) Unit} (hs : CalcsMade s.splLsts s.lstCalcs)
    (h : (Mutation.tryForEach initLstSvc lsts).run s = (res, s')) :
    ∃ calcs, s' = { s with lstCalcs := calcs } ∧ CalcsMade s.splLsts calcs := by
  let P : InfStd T → Prop := fun t =>
    ∃ calcs, t = { s with lstCalcs := calcs } ∧ CalcsMade s.splLsts calcs
  have hloop : P ((Mutation.tryForEach initLstSvc lsts).run s).2 :=
    Mutation.tryForEach_preserves ⟨s.lstCalcs, rfl, hs⟩ ?_
  · rwa [h] at hloop
  · rintro l _ t ⟨calcs, rfl, hcalcs⟩
    obtain ⟨calcs', hs', hframe, hself⟩ :=
      initLstSvc_run (l := l) (s := { s with lstCalcs := calcs }) rfl
    refine ⟨calcs', hs', fun mint c hstored => ?_⟩
    by_cases hmint : mint = Inf1Api.mint l
    · subst hmint
      rcases hself with ⟨d, hd, hstored'⟩ | ⟨-, hsame | hnone⟩
      · rw [hstored] at hstored'
        cases hstored'
        exact madeFor_of_calcFor hcalcs hd
      · exact hcalcs _ _ (hsame.symm.trans hstored)
      · rw [hnone] at hstored
        cases hstored
    · exact hcalcs mint c ((hframe mint hmint).symm.trans hstored)

omit [Inf1Spec T] [LawfulInf1 T] in
/-- The steps of a successful `newInner`. -/
theorem newInner_of_steps {findPda : FindPda} {createPda : CreatePda} {keyedAccount : KeyedAccount}
    {splLsts : HashMap Pubkey Pubkey} {pool : T.VerPoolState} {s s' s'' : InfStd T} {pda : Pda}
    {bump : UInt8} (hpool : initialPool keyedAccount.account.owner = some pool)
    (hnew : Inf1Api.new (some keyedAccount.account.owner) pool keyedAccount.account.data none none
      HashMap.empty HashMap.empty splLsts findPda createPda = .ok s)
    (hlist : Inf1Api.findCacheLstStateList s = (some (keyedAccount.key, bump), s'))
    (hstate : Inf1Api.findCachePoolState s' = (some pda, s'')) :
    InfAmm.newInner findPda createPda keyedAccount splLsts = .ok s'' := by
  simp [InfAmm.newInner, hpool, hnew, hlist, hstate]

/-- What `new` starts its loop with: the bootstrap pool of the program, the given list account, no
calculators, and both addresses. -/
theorem newInner_eq_ok {findPda : FindPda} {createPda : CreatePda} {keyedAccount : KeyedAccount}
    {splLsts : HashMap Pubkey Pubkey} {inner : InfStd T}
    (h : InfAmm.newInner findPda createPda keyedAccount splLsts = .ok inner) :
    ∃ pool pricing pda pda', initialPool keyedAccount.account.owner = some pool ∧
      Inf1Spec.pricingProgramId pricing = Inf1Spec.pricingProgram pool ∧
      findPda (Inf1Spec.poolStateSeeds T) keyedAccount.account.owner = some pda ∧
      findPda (Inf1Spec.lstStateListSeeds T) keyedAccount.account.owner = some pda' ∧
      keyedAccount.key = pda'.1 ∧
      inner = ⟨keyedAccount.account.owner, pool, keyedAccount.account.data, none, pricing,
        HashMap.empty, HashMap.empty, splLsts, findPda, createPda, some pda, some pda'⟩ := by
  unfold InfAmm.newInner at h
  dsimp only at h
  split at h
  · cases h
  · rename_i pool hpool
    split at h
    · cases h
    · rename_i s hnew
      obtain ⟨pricing, hpricing, rfl⟩ := LawfulInf1.new_eq_ok hnew
      rw [LawfulInf1.findCacheLstStateList_eq rfl] at h
      split at h
      · cases h
      · rename_i key bump s' hcacheList
        obtain ⟨hlist, rfl⟩ := Prod.mk.inj hcacheList
        rw [LawfulInf1.findCachePoolState_eq rfl] at h
        split at h
        · cases h
        · rename_i pda s'' hcachePool
          obtain ⟨hpda, rfl⟩ := Prod.mk.inj hcachePool
          split at h
          · cases h
          · rename_i hkey
            cases h
            clear hcacheList hcachePool
            dsimp only at hpda hlist
            refine ⟨pool, pricing, pda, (key, bump), hpool, hpricing, hpda, hlist, not_not.mp hkey, ?_⟩
            dsimp only
            rw [hpda, hlist]

/-! ### The invariants -/

section Invariants

variable {H : Type} [StreamHash H Pubkey] [SolanaPubkey] {amm amm' : InfAmm T}
  {poolStateId lstStateListId : Pubkey}

theorem Addresses.poolStateId_eq (h : Addresses H amm.inner poolStateId lstStateListId) :
    amm.poolStateId = .ok poolStateId := by
  obtain ⟨bump, -, hcached⟩ := h.pool
  rw [InfAmm.poolStateId, LawfulInf1.findPoolState_cached hcached]

theorem Addresses.lstStateListId_eq (h : Addresses H amm.inner poolStateId lstStateListId) :
    amm.lstStateListId = .ok lstStateListId := by
  obtain ⟨bump, -, hcached⟩ := h.list
  rw [InfAmm.lstStateListId, LawfulInf1.findLstStateList_cached hcached]

/-- The state that `new` returns. -/
theorem addresses_of_new {keyedAccount : KeyedAccount} {clockRef : ClockRef}
    {splLsts : HashMap Pubkey Pubkey} (h : InfAmm.new H keyedAccount clockRef splLsts = .ok amm) :
    (∃ poolStateId, Addresses H amm.inner poolStateId keyedAccount.key) ∧
      amm.inner.progId = keyedAccount.account.owner ∧ amm.inner.splLsts = splLsts ∧
      CalcsMade splLsts amm.inner.lstCalcs := by
  obtain ⟨inner, lsts, hinner, -, hloop, -⟩ := InfAmm.new_eq_ok h
  obtain ⟨pool, pricing, ⟨poolStateId, bump⟩, ⟨lstStateListId, bump'⟩, -, -, hpool, hlist, hkey,
    rfl⟩ := newInner_eq_ok hinner
  obtain ⟨calcs, hamm, hcalcs⟩ := tryForEach_initLstSvc_run (CalcsMade.empty splLsts) hloop
  rw [hamm, hkey]
  exact ⟨⟨poolStateId, rfl, rfl, ⟨bump, hpool, rfl⟩, ⟨bump', hlist, rfl⟩⟩, rfl, rfl, hcalcs⟩

/-- The addresses of a reachable state are at hand. -/
theorem Reachable.addresses (h : Reachable H amm) :
    ∃ poolStateId lstStateListId, Addresses H amm.inner poolStateId lstStateListId := by
  induction h with
  | new h =>
    obtain ⟨⟨poolStateId, haddr⟩, -⟩ := addresses_of_new h
    exact ⟨poolStateId, _, haddr⟩
  | update _ h ih =>
    obtain ⟨poolStateId, lstStateListId, haddr⟩ := ih
    exact ⟨poolStateId, lstStateListId, haddr.of_fixed (InfAmm.fixedParts_of_update h).inner⟩

/-- The calculators of a reachable state were made for their mints. -/
theorem Reachable.calcsMade (h : Reachable H amm) :
    CalcsMade amm.inner.splLsts amm.inner.lstCalcs := by
  induction h with
  | new h =>
    obtain ⟨-, -, hspl, hcalcs⟩ := addresses_of_new h
    rwa [hspl]
  | update _ h ih => exact calcsMade_of_update ih h

end Invariants

/-! ### The pool on chain -/

namespace Reference

/-- The pool state of the program `5ocnV1qiCgaQR8Jb8xWnVbApfaygJ8tNoZfgPwsgx9kx`. -/
def infPoolState : Pubkey :=
  #v[141, 216, 114, 163, 183, 21, 222, 209, 212, 96, 52, 63, 245, 186, 74, 40, 16, 46, 57, 2, 71, 37,
    137, 95, 235, 199, 169, 199, 151, 33, 51, 211]

/-- Its LST state list. -/
def infLstStateList : Pubkey :=
  #v[231, 156, 177, 210, 173, 188, 40, 15, 89, 80, 179, 5, 97, 102, 132, 161, 184, 47, 239, 103, 119,
    198, 241, 223, 166, 16, 66, 124, 248, 46, 152, 107]

theorem findPda_infPoolState :
    findPda poolStateSeeds infProgramId = some (infPoolState, 255) := by decide +kernel

theorem findPda_infLstStateList :
    findPda lstStateListSeeds infProgramId = some (infLstStateList, 255) := by decide +kernel

/-- An account with the given data and owner. -/
def account (data : List UInt8) (owner : Pubkey) : Account := ⟨1, data, owner, false, 0⟩

/-- The LST state list account with the given entries. -/
def listAccount (lsts : List LstState) : Account := account (lstStateListData lsts) infProgramId

/-- The state of the pool with the given pricing program, list and calculators, no SPL data, and the
given cached addresses. -/
def stateWith (pricingProgram : Pubkey) (lsts : List LstState) (calcs : HashMap Pubkey SvcAg)
    (poolStatePda lstStateListPda : Option Pda) : InfStd inf1 :=
  ⟨infProgramId, ⟨2, pricingProgram, infMintAddr, 0⟩, lstStateListData lsts, none,
    ⟨pricingProgram, HashMap.empty⟩, calcs, HashMap.empty, HashMap.empty, findPda,
    createRawPda Sha256Hasher, poolStatePda, lstStateListPda⟩

/-- The AMM with this state. -/
def ammWith (pricingProgram : Pubkey) (lsts : List LstState) (calcs : HashMap Pubkey SvcAg) :
    InfAmm inf1 :=
  ⟨stateWith pricingProgram lsts calcs (some (infPoolState, 255)) (some (infLstStateList, 255)), ⟨0⟩⟩

/-- What `new` starts its loop with. -/
theorem newInner_listAccount (lsts : List LstState) :
    InfAmm.newInner findPda (createRawPda Sha256Hasher) ⟨infLstStateList, listAccount lsts⟩
      HashMap.empty = .ok (ammWith flatFeeProgramId lsts HashMap.empty).inner := by
  have hpool : initialPool (T := inf1) infProgramId =
      some ⟨2, flatFeeProgramId, infMintAddr, 0⟩ := by
    rw [initialPool, if_pos rfl]
    rfl
  have hknown : isKnownPricing flatFeeProgramId = true := by decide +kernel
  have hnew : Inf1Api.new (T := inf1) (some infProgramId) ⟨2, flatFeeProgramId, infMintAddr, 0⟩
      (lstStateListData lsts) none none HashMap.empty HashMap.empty HashMap.empty findPda
      (createRawPda Sha256Hasher) = .ok (stateWith flatFeeProgramId lsts HashMap.empty none none) := by
    simp only [Inf1Api.new, hknown, if_true]
    rfl
  have hlist : Inf1Api.findCacheLstStateList (stateWith flatFeeProgramId lsts HashMap.empty none none) =
      (some (infLstStateList, 255),
        stateWith flatFeeProgramId lsts HashMap.empty none (some (infLstStateList, 255))) := by
    rw [LawfulInf1.findCacheLstStateList_eq rfl]
    dsimp only [stateWith, Inf1Spec.lstStateListSeeds]
    rw [findPda_infLstStateList]
  have hstate : Inf1Api.findCachePoolState
      (stateWith flatFeeProgramId lsts HashMap.empty none (some (infLstStateList, 255))) =
        (some (infPoolState, 255), (ammWith flatFeeProgramId lsts HashMap.empty).inner) := by
    rw [LawfulInf1.findCachePoolState_eq rfl]
    dsimp only [stateWith, ammWith, Inf1Spec.poolStateSeeds]
    rw [findPda_infPoolState]
  exact newInner_of_steps hpool hnew hlist hstate

/-- `new` succeeds with the calculators that its loop makes. -/
theorem new_listAccount {lsts : List LstState} {calcs : HashMap Pubkey SvcAg}
    (hloop : (Mutation.tryForEach initLstSvc lsts).run (ammWith flatFeeProgramId lsts HashMap.empty).inner =
      (.ok (), (ammWith flatFeeProgramId lsts calcs).inner)) :
    InfAmm.new Sha256Hasher ⟨infLstStateList, listAccount lsts⟩ ⟨0⟩ HashMap.empty =
      .ok (ammWith flatFeeProgramId lsts calcs) :=
  InfAmm.new_of_steps (newInner_listAccount lsts) (lstStatePackedListOfAccData_lstStateListData lsts)
    hloop

/-- The entry of wSOL. -/
def wsol : LstState where
  poolReservesBump := 255
  mint := #v[6, 155, 136, 87, 254, 171, 129, 132, 251, 104, 127, 99, 70, 24, 192, 53, 218, 196, 57, 220,
    26, 235, 59, 85, 152, 160, 240, 0, 0, 0, 0, 1]
  solValueCalculator := wsolCalculator

/-- Its calculator. -/
def wsolSvc : SvcAg := ⟨wsolCalculator, [], []⟩

theorem initSvc_wsol (splLsts : HashMap Pubkey Pubkey) : initSvc splLsts wsol = .ok wsolSvc := by
  have hcalc : wsol.solValueCalculator = wsolCalculator := rfl
  rw [initSvc, if_pos hcalc]
  rfl

/-- The AMM of an empty pool. -/
theorem new_nil : InfAmm.new Sha256Hasher ⟨infLstStateList, listAccount []⟩ ⟨0⟩ HashMap.empty =
    .ok (ammWith flatFeeProgramId [] HashMap.empty) :=
  new_listAccount rfl

/-- The AMM of a pool with wSOL alone. -/
theorem new_wsol : InfAmm.new Sha256Hasher ⟨infLstStateList, listAccount [wsol]⟩ ⟨0⟩ HashMap.empty =
    .ok (ammWith flatFeeProgramId [wsol] (HashMap.empty.insert wsol.mint wsolSvc)) := by
  have hcur : ¬ ∃ c, HasCurrentCalc (T := inf1) HashMap.empty wsol c := by
    rintro ⟨c, hc, -⟩
    cases hc
  have hstep := initLstSvc_of_fresh (T := inf1)
    (s := (ammWith flatFeeProgramId [wsol] HashMap.empty).inner) hcur (initSvc_wsol _)
  exact new_listAccount (Mutation.tryForEach_cons_of_ok hstep)

end Reference

end InfJup
