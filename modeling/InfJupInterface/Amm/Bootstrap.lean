import InfJupInterface.Amm.Cycle

/-!
# Bootstrap converges in two cycles

The AMM starts from a bootstrap pool that may be out of date, so the first cycle may ask for the
wrong pricing accounts or the wrong LP token mint, and fail.  It still fetches the pool and the list,
and it does not spoil the calculators: `Ready` is the invariant that every listed LST has a current
calculator.  The second cycle then asks for exactly what it reads.

This needs that no mint is listed with two different calculators.  On a list that does so the two
entries take turns in replacing each other's calculator, and the cycle may fail forever.
-/

namespace InfJup

variable {T : Inf1Types} [Inf1Api T] [Inf1Spec T]

/-! ### The reads of an update -/

/-- An update that ends in the state `s` reads the account: the pool state, the list, the LP token
mint, the accounts of the pricing program, and for every LST on the list its pool reserves and the
accounts of its calculator. -/
inductive ReadBy (s : InfStd T) (poolStateId lstStateListId : Pubkey) (lsts : List T.LstState) :
    Pubkey → Prop
  | poolState : ReadBy s poolStateId lstStateListId lsts poolStateId
  | lstStateList : ReadBy s poolStateId lstStateListId lsts lstStateListId
  | lpTokenMint : ReadBy s poolStateId lstStateListId lsts (Inf1Api.lpTokenMint s.pool)
  | pricing {key : Pubkey}
      (h : key ∈ Inf1Api.accountsToUpdateAll s.pricing (lsts.map Inf1Api.mint)) :
      ReadBy s poolStateId lstStateListId lsts key
  | reserves {l : T.LstState} {key : Pubkey} (hl : l ∈ lsts)
      (h : reservesAddr s.createPda poolStateId l = some key) :
      ReadBy s poolStateId lstStateListId lsts key
  | svc {l : T.LstState} {c : T.SvcAg} {key : Pubkey} (hl : l ∈ lsts)
      (hc : s.lstCalcs (Inf1Api.mint l) = some c) (h : key ∈ Inf1Spec.accountsToUpdateSvc c) :
      ReadBy s poolStateId lstStateListId lsts key

/-- If a calculator can be made for the LST, then the per-LST step has one to work with. -/
theorem exists_calcFor {splLsts : HashMap Pubkey Pubkey} {l : T.LstState}
    (hinit : ∃ c₀, Inf1Spec.initSvc splLsts l = .ok c₀) (calcs : HashMap Pubkey T.SvcAg) :
    ∃ c, calcFor splLsts calcs l = .ok c := by
  obtain ⟨c₀, hc₀⟩ := hinit
  rcases hcalc : calcFor splLsts calcs l with e | c
  · rw [initSvc_of_calcFor_error hcalc] at hc₀
    cases hc₀
  · exact ⟨c, rfl⟩

variable [LawfulInf1 T]

/-- A loop that gets through has found the reserves and the calculator accounts of every LST on its
list. -/
theorem reads_of_tryForEach {createPda : CreatePda} {splLsts : HashMap Pubkey Pubkey}
    {poolStateId : Pubkey} {fetched : UpdateMap} {m m' : LstMaps T} {lsts : List T.LstState}
    (h : (Mutation.tryForEach (updateLst createPda splLsts poolStateId fetched) lsts).run m =
      (.ok (), m')) :
    ∀ l ∈ lsts, (fetchedReserves createPda poolStateId fetched l).isSome ∧
      ∀ c, m'.lstCalcs (Inf1Api.mint l) = some c →
        ∀ key ∈ Inf1Spec.accountsToUpdateSvc c, (fetched key).isSome := by
  refine (Mutation.tryForEach_establishes (P := fun _ => True) (Q := fun l t =>
    (fetchedReserves createPda poolStateId fetched l).isSome ∧
      ∀ c, t.lstCalcs (Inf1Api.mint l) = some c →
        ∀ key ∈ Inf1Spec.accountsToUpdateSvc c, (fetched key).isSome) trivial ?_ h).2
  intro x _ t t' _ hx
  have hout : LstOutcome createPda splLsts poolStateId fetched x t (.ok (), t') :=
    hx ▸ updateLst_outcome
  have hself : (fetchedReserves createPda poolStateId fetched x).isSome ∧
      ∀ c, t'.lstCalcs (Inf1Api.mint x) = some c →
        ∀ key ∈ Inf1Spec.accountsToUpdateSvc c, (fetched key).isSome := by
    cases hout with
    | noSplData hreserves _ => exact ⟨by rw [hreserves]; rfl, fun c hc => by simp at hc⟩
    | @updated r c c' hreserves _ hupdate =>
      refine ⟨by rw [hreserves]; rfl, fun d hd key hkey => ?_⟩
      obtain rfl : c' = d := Option.some.inj ((HashMap.insert_self _ _ _).symm.trans hd)
      have hkept := LawfulInf1.accountsToUpdateSvc_updateSvc fetched c
      rw [hupdate] at hkept
      exact LawfulInf1.updateSvc_reads hupdate key (hkept ▸ hkey)
  refine ⟨trivial, hself, fun l _ hl => ⟨hl.1, ?_⟩⟩
  by_cases hmint : Inf1Api.mint l = Inf1Api.mint x
  · rw [hmint]
    exact hself.2
  · rw [(hout.frame hmint).1]
    exact hl.2

/-- A successful update has found every account that it reads. -/
theorem InfAmm.update_ok_reads {amm amm' : InfAmm T} {mem : Atomics} {accountMap : AccountMap}
    (h : (InfAmm.update mem accountMap).run amm = (.ok (), amm')) :
    ∃ poolStateId lstStateListId, amm.poolStateId = .ok poolStateId ∧
      amm.lstStateListId = .ok lstStateListId ∧
      ∀ key, ReadBy amm'.inner poolStateId lstStateListId (InfAmm.lstStates amm'.inner) key →
        ((amm.fetched mem accountMap).getAccount key).isSome := by
  obtain ⟨poolStateId, lstStateListId, lsts, hpool, hlist, hstores, hloop⟩ := InfAmm.update_eq_ok h
  refine ⟨poolStateId, lstStateListId, hpool, hlist, ?_⟩
  have hlsts : InfAmm.lstStates amm'.inner = lsts := hstores.lstStates_eq
  have hreads := reads_of_tryForEach hloop
  have hcreate : amm.inner.createPda = amm'.inner.createPda :=
    (InfAmm.fixedParts_of_update h).inner.createPda
  rw [hlsts]
  intro key hkey
  cases hkey with
  | poolState =>
    obtain ⟨acc, hacc, -⟩ := hstores.pool
    rw [hacc]
    rfl
  | lstStateList =>
    obtain ⟨acc, hacc, -⟩ := hstores.list
    rw [hacc]
    rfl
  | lpTokenMint =>
    obtain ⟨acc, supply, hacc, -⟩ := hstores.supply
    rw [hacc]
    rfl
  | pricing hmem =>
    obtain ⟨p, hp, hrun⟩ := hstores.pricing
    have hkept := LawfulInf1.pricingProgramId_updateAll (lsts.map Inf1Api.mint)
      (amm.fetched mem accountMap).getAccount p
    rw [hrun] at hkept
    rw [LawfulInf1.accountsToUpdateAll_congr _ hkept] at hmem
    exact LawfulInf1.updateAll_reads hrun key hmem
  | reserves hl haddr =>
    obtain ⟨r, hr⟩ := Option.isSome_iff_exists.mp (hreads _ hl).1
    obtain ⟨key', hkey', hsome⟩ := exists_key_of_fetchedReserves hr
    rw [← hcreate, hkey'] at haddr
    cases haddr
    exact hsome
  | svc hl hc hmem => exact (hreads _ hl).2 _ hc key hmem

/-! ### The invariant -/

/-- The AMM has the list of the snapshot, and a current calculator for every LST on it. -/
structure Ready (amm : InfAmm T) (snapshot : AccountMap) (poolStateId lstStateListId : Pubkey)
    (pool : T.VerPoolState) (lsts : List T.LstState) : Prop where
  wellFormed : WellFormed amm snapshot poolStateId lstStateListId pool lsts
  hasSplData : HasSplData amm.inner.splLsts lsts
  calcsMade : CalcsMade amm.inner.splLsts amm.inner.lstCalcs
  decodes : Inf1Api.lstStatePackedListOfAccData amm.inner.lstStateListData = some lsts
  current : ∀ l ∈ lsts, CurrentAt amm.inner.lstMaps l

namespace Ready

variable {amm : InfAmm T} {snapshot : AccountMap} {poolStateId lstStateListId : Pubkey}
  {pool : T.VerPoolState} {lsts : List T.LstState} {mem : Atomics}

/-- The loop of a cycle gets through. -/
theorem loop_ok (h : Ready amm snapshot poolStateId lstStateListId pool lsts) (mem : Atomics) :
    ∃ m, (Mutation.tryForEach (amm.lstStep mem (amm.cycleMap snapshot poolStateId lstStateListId)
        poolStateId) lsts).run amm.inner.lstMaps = (.ok (), m) ∧
      CalcsMade amm.inner.splLsts m.lstCalcs := by
  refine Mutation.tryForEach_run_ok
    (P := fun m : LstMaps T => CalcsMade amm.inner.splLsts m.lstCalcs) h.calcsMade ?_
  intro l hl t hmade
  have hok := (h.wellFormed.cycleStep h.hasSplData mem hl hmade).eq_ok_iff.mpr
    (h.wellFormed.requested_of_current h.decodes h.calcsMade hl (h.current l hl))
  exact ⟨_, Mutation.run_eq_of_ok hok, calcsMade_of_lstStep hmade rfl⟩

/-- A cycle keeps the invariant. -/
theorem cycle (h : Ready amm snapshot poolStateId lstStateListId pool lsts)
    (hone : OneCalculatorPerMint lsts) :
    Ready (amm.cycle snapshot mem).2 snapshot poolStateId lstStateListId pool lsts := by
  have hfixed : InfAmm.FixedParts amm (amm.cycle snapshot mem).2 := h.wellFormed.fixedParts_cycle
  refine ⟨h.wellFormed.of_fixedParts hfixed, hfixed.inner.splLsts ▸ h.hasSplData,
    h.wellFormed.calcsMade_cycle mem h.calcsMade, (h.wellFormed.synced_of_cycle mem).decodes, ?_⟩
  exact h.wellFormed.cycle_preserves h.hasSplData h.calcsMade
    (P := fun m => ∀ l ∈ lsts, CurrentAt m l) h.current
    fun x hx m res m' hm hstep l hl => hstep.keepsCurrent hone hx hl (hm l hl)

/-- From a state in step with the snapshot, a cycle succeeds. -/
theorem cycle_ok (h : Ready amm snapshot poolStateId lstStateListId pool lsts)
    (hsynced : Synced amm.inner pool lsts) : (amm.cycle snapshot mem).1 = .ok () := by
  obtain ⟨s, henter⟩ := h.wellFormed.entersLoop_of_requested mem hsynced.poolRequested
  obtain ⟨m, hloop, -⟩ := h.loop_ok mem
  exact (h.wellFormed.cycle_of_loop henter hloop).1

/-- All cycles keep the invariant, and from the second on every cycle succeeds. -/
theorem cycles (h : Ready amm snapshot poolStateId lstStateListId pool lsts)
    (hone : OneCalculatorPerMint lsts) (mems : ℕ → Atomics) (k : ℕ) :
    Ready (InfAmm.afterCycles snapshot mems amm k) snapshot poolStateId lstStateListId pool lsts ∧
      (1 ≤ k → InfAmm.cycleResult snapshot mems amm k = .ok ()) := by
  have hready : ∀ k, Ready (InfAmm.afterCycles snapshot mems amm k) snapshot poolStateId
      lstStateListId pool lsts := by
    intro k
    induction k with
    | zero => exact h
    | succ k ih => exact ih.cycle hone
  refine ⟨hready k, fun hk => ?_⟩
  obtain ⟨k, rfl⟩ := Nat.exists_eq_add_of_le' hk
  -- the cycle before has fetched the pool and the list
  have hsynced : Synced (InfAmm.afterCycles snapshot mems amm (k + 1)).inner pool lsts :=
    (hready k).wellFormed.synced_of_cycle (mems k)
  exact (hready (k + 1)).cycle_ok hsynced

end Ready

/-! ### The starting states -/

section Start

variable {lsts : List T.LstState}

/-- A successful `new` leaves every listed LST current. -/
theorem current_of_new {H : Type} [StreamHash H Pubkey] [SolanaPubkey] {keyedAccount : KeyedAccount}
    {clockRef : ClockRef} {splLsts : HashMap Pubkey Pubkey} {amm : InfAmm T}
    (h : InfAmm.new H keyedAccount clockRef splLsts = .ok amm)
    (hlsts : Inf1Api.lstStatePackedListOfAccData keyedAccount.account.data = some lsts)
    (hinit : ∀ l ∈ lsts, ∃ c₀, Inf1Spec.initSvc splLsts l = .ok c₀)
    (hone : OneCalculatorPerMint lsts) :
    amm.inner.lstStateListData = keyedAccount.account.data ∧
      ∀ l ∈ lsts, CurrentAt amm.inner.lstMaps l := by
  obtain ⟨inner, lsts', hinner, hlsts', hloop, -⟩ := InfAmm.new_eq_ok h
  obtain rfl : lsts' = lsts := Option.some.inj (hlsts'.symm.trans hlsts)
  obtain ⟨pool, pricing, pda, pda', -, -, -, -, -, rfl⟩ := newInner_eq_ok hinner
  have hloop' := Mutation.tryForEach_establishes
    (P := fun t => t.splLsts = splLsts ∧ t.lstStateListData = keyedAccount.account.data)
    (Q := fun l t => CurrentAt t.lstMaps l) ⟨rfl, rfl⟩ ?_ hloop
  · exact ⟨hloop'.1.2, hloop'.2⟩
  · rintro x hx t t' ⟨hspl, hdata⟩ hrun
    obtain ⟨calcs, rfl, hframe, hself⟩ := initLstSvc_run hrun
    obtain ⟨c, hc⟩ := exists_calcFor (hspl.symm ▸ hinit x hx) t.lstCalcs
    have hstored : calcs (Inf1Api.mint x) = some c := by
      rcases hself with ⟨d, hd, hstored⟩ | ⟨⟨e, he⟩, -⟩
      · rw [hc] at hd
        cases hd
        exact hstored
      · rw [hc] at he
        cases he
    have hcurx : CurrentAt ({ t with lstCalcs := calcs }).lstMaps x :=
      ⟨c, hstored, svcProgram_calcFor hc⟩
    exact ⟨⟨hspl, hdata⟩, hcurx, fun l hl hcur =>
      hone.currentAt_of_step (m := t.lstMaps) hx hl hframe hcurx hcur⟩

/-- A loop that gets through leaves every listed LST current, if there is a calculator for each. -/
theorem current_of_tryForEach {createPda : CreatePda} {splLsts : HashMap Pubkey Pubkey}
    {poolStateId : Pubkey} {fetched : UpdateMap} {m m' : LstMaps T}
    (h : (Mutation.tryForEach (updateLst createPda splLsts poolStateId fetched) lsts).run m =
      (.ok (), m'))
    (hinit : ∀ l ∈ lsts, ∃ c₀, Inf1Spec.initSvc splLsts l = .ok c₀)
    (hone : OneCalculatorPerMint lsts) : ∀ l ∈ lsts, CurrentAt m' l := by
  refine (Mutation.tryForEach_establishes (P := fun _ => True) (Q := fun l t => CurrentAt t l) trivial
    ?_ h).2
  intro x hx t t' _ hrun
  have hout : LstOutcome createPda splLsts poolStateId fetched x t (.ok (), t') :=
    hrun ▸ updateLst_outcome
  have hcurx : CurrentAt t' x := by
    cases hout with
    | noSplData _ hcalc =>
      obtain ⟨c, hc⟩ := exists_calcFor (hinit x hx) t.lstCalcs
      rw [hc] at hcalc
      cases hcalc
    | updated _ hcalc hupdate => exact currentAt_insert hcalc hupdate
  exact ⟨trivial, hcurx, fun l hl hcur =>
    hone.currentAt_of_step hx hl (fun mint hmint => (hout.frame hmint).1) hcurx hcur⟩

end Start

/-! ### The theorem -/

/-- A state to bootstrap from: what `new` returns for an account with the given list, or what a
successful update leaves whose fetched list was the given one. -/
inductive BootstrapState (H : Type) [StreamHash H Pubkey] [SolanaPubkey] (lstStateListId : Pubkey)
    (lsts : List T.LstState) : InfAmm T → Prop
  | new {account : Account} {clockRef : ClockRef} {splLsts : HashMap Pubkey Pubkey} {amm : InfAmm T}
      (hlsts : Inf1Api.lstStatePackedListOfAccData account.data = some lsts)
      (h : InfAmm.new H ⟨lstStateListId, account⟩ clockRef splLsts = .ok amm) :
      BootstrapState H lstStateListId lsts amm
  | update {amm amm' : InfAmm T} {mem : Atomics} {accountMap : AccountMap} {account : Account}
      (hamm : Reachable H amm)
      (haccount : (amm.fetched mem accountMap).getAccount lstStateListId = some account)
      (hlsts : Inf1Api.lstStatePackedListOfAccData account.data = some lsts)
      (h : (InfAmm.update mem accountMap).run amm = (.ok (), amm')) :
      BootstrapState H lstStateListId lsts amm'

section Bootstrap

variable {H : Type} [StreamHash H Pubkey] [SolanaPubkey] {amm : InfAmm T} {snapshot : AccountMap}
  {poolStateId lstStateListId : Pubkey} {pool : T.VerPoolState} {lsts : List T.LstState}

/-- Bootstrap states are ready. -/
theorem BootstrapState.ready (hstart : BootstrapState H lstStateListId lsts amm)
    (hwf : WellFormed amm snapshot poolStateId lstStateListId pool lsts)
    (hspl : HasSplData amm.inner.splLsts lsts) (hone : OneCalculatorPerMint lsts) :
    Ready amm snapshot poolStateId lstStateListId pool lsts := by
  have hinit : ∀ l ∈ lsts, ∃ c₀, Inf1Spec.initSvc amm.inner.splLsts l = .ok c₀ := fun l hl =>
    hwf.exists_initSvc hspl hl
  cases hstart with
  | @new account clockRef splLsts _ hlsts h =>
    obtain ⟨-, -, hspl', hmade⟩ := addresses_of_new h
    obtain ⟨hdata, hcur⟩ := current_of_new h hlsts (hspl' ▸ hinit) hone
    exact ⟨hwf, hspl, hspl'.symm ▸ hmade, hdata ▸ hlsts, hcur⟩
  | @update amm₀ _ mem accountMap account hamm haccount hlsts h =>
    obtain ⟨p, q, lsts', hp, hq, hstores, hloop⟩ := InfAmm.update_eq_ok h
    have hfixed := (InfAmm.fixedParts_of_update h).inner
    have hq' : q = lstStateListId := by
      have hsame : amm.lstStateListId = amm₀.lstStateListId := by
        rw [InfAmm.lstStateListId, InfAmm.lstStateListId, LawfulInf1.findLstStateList_congr hfixed]
      rw [hwf.lstStateListId_eq, hq] at hsame
      cases hsame
      rfl
    subst hq'
    obtain ⟨account', haccount', hdata⟩ := hstores.list
    obtain rfl : account' = account := Option.some.inj (haccount'.symm.trans haccount)
    have hdecodes := hstores.decodes
    obtain rfl : lsts' = lsts := Option.some.inj (hdecodes.symm.trans (hdata ▸ hlsts))
    exact ⟨hwf, hspl, calcsMade_of_update hamm.calcsMade h, hdecodes,
      current_of_tryForEach hloop (hfixed.splLsts ▸ hinit) hone⟩

/-- **Bootstrap converges in two cycles.**  From the second cycle on, every cycle succeeds and finds
every account that it reads, whatever the clock; the clock is always at hand, and never asked for. -/
theorem bootstrap_converges (hstart : BootstrapState H lstStateListId lsts amm)
    (hwf : WellFormed amm snapshot poolStateId lstStateListId pool lsts)
    (hspl : HasSplData amm.inner.splLsts lsts) (hone : OneCalculatorPerMint lsts)
    (mems : ℕ → Atomics) :
    (∀ k, 1 ≤ k → InfAmm.cycleResult snapshot mems amm k = .ok () ∧
      ∀ key, ReadBy (InfAmm.afterCycles snapshot mems amm (k + 1)).inner poolStateId lstStateListId
          lsts key →
        ((InfAmm.afterCycles snapshot mems amm k).cycleView snapshot (mems k) poolStateId
          lstStateListId key).isSome) ∧
    ∀ k, (∃ keys, (InfAmm.afterCycles snapshot mems amm k).getAccountsToUpdate = .ok keys ∧
        sysvarClock ∉ keys) ∧
      (InfAmm.afterCycles snapshot mems amm k).cycleView snapshot (mems k) poolStateId lstStateListId
        sysvarClock = some (simClock (mems k) amm.clockRef) := by
  have hready (k : ℕ) : Ready (InfAmm.afterCycles snapshot mems amm k) snapshot poolStateId
      lstStateListId pool lsts := ((hstart.ready hwf hspl hone).cycles hone mems k).1
  refine ⟨fun k hk => ?_, fun k => ⟨?_, ?_⟩⟩
  · have hok := ((hstart.ready hwf hspl hone).cycles hone mems k).2 hk
    refine ⟨hok, ?_⟩
    have hrun : (InfAmm.update (mems k) ((InfAmm.afterCycles snapshot mems amm k).cycleMap snapshot
        poolStateId lstStateListId)).run (InfAmm.afterCycles snapshot mems amm k) =
          (.ok (), InfAmm.afterCycles snapshot mems amm (k + 1)) := by
      rw [← (hready k).wellFormed.cycle_eq]
      exact Prod.ext hok rfl
    obtain ⟨p, q, hp, hq, hreads⟩ := InfAmm.update_ok_reads hrun
    rw [(hready k).wellFormed.poolStateId_eq] at hp
    rw [(hready k).wellFormed.lstStateListId_eq] at hq
    cases hp
    cases hq
    have hlsts : InfAmm.lstStates (InfAmm.afterCycles snapshot mems amm (k + 1)).inner = lsts := by
      rw [InfAmm.lstStates_eq, (hready (k + 1)).decodes]
      rfl
    rw [hlsts] at hreads
    exact hreads
  · refine ⟨_, InfAmm.getAccountsToUpdate_eq (hready k).wellFormed.poolStateId_eq
      (hready k).wellFormed.lstStateListId_eq, ?_⟩
    simp
  · rw [InfAmm.cycleView, AccountMapRef.getAccount_sysvarClock, InfAmm.fetched,
      (hwf.fixedParts_afterCycles mems k).clockRef]

end Bootstrap

open Reference in
/-- The bootstrap pool of an AMM with wSOL has another pricing program than the pool on chain. -/
theorem bootstrap_converges_wsol :
    InfAmm.cycleResult (onChain [wsol]) (fun _ => genesis)
      (ammWith flatFeeProgramId [wsol] (HashMap.empty.insert wsol.mint wsolSvc)) 1 = .ok () :=
  ((bootstrap_converges (H := Sha256Hasher)
    (.new (lstStatePackedListOfAccData_lstStateListData [wsol]) new_wsol) (wellFormed_wsol _ _ _)
    (hasSplData_wsol _) oneCalculatorPerMint_wsol fun _ => genesis).1 1 (Nat.le_refl 1)).1

end InfJup
