import InfJupInterface.Amm.Footprint
import InfJupInterface.Amm.Trade

/-!
# A successful update forgets the history

Two instances of one controller program with the same SPL data may have gone through quite
different updates: other lists, other pricing programs, other calculators, failures half way.  An
update that succeeds on both with the same accounts leaves them showing the same.

The heart of it is the per-LST loop, run side by side on both instances
(`tryForEach_updateLst_agree`): `AgreeOn` is the relation between the two pairs of maps that the
entries already processed have established.
-/

namespace InfJup

variable {T : Inf1Types} [Inf1Api T] [Inf1Spec T]

/-- The two maps of two states have the same entries for the mints of the list. -/
def AgreeOn (lsts : List T.LstState) (m n : LstMaps T) : Prop :=
  ∀ mint ∈ lsts.map Inf1Api.mint,
    m.lstCalcs mint = n.lstCalcs mint ∧ m.lstReserves mint = n.lstReserves mint

/-- The mint is one that trades are about: a listed one, or the LP token. -/
def Tradable (amm : InfAmm T) (mint : Pubkey) : Prop := mint ∈ amm.getReserveMints

variable [LawfulInf1 T]

section Loop

variable {createPda : CreatePda} {splLsts : HashMap Pubkey Pubkey} {poolStateId : Pubkey}
  {fetched : UpdateMap} {l : T.LstState} {m m' n n' : LstMaps T}

/-- Two successful steps on one LST leave the same entries for it, whatever was there before. -/
theorem updateLst_agree (hm : CalcsMade splLsts m.lstCalcs) (hn : CalcsMade splLsts n.lstCalcs)
    (hrunm : (updateLst createPda splLsts poolStateId fetched l).run m = (.ok (), m'))
    (hrunn : (updateLst createPda splLsts poolStateId fetched l).run n = (.ok (), n')) :
    m'.lstCalcs (Inf1Api.mint l) = n'.lstCalcs (Inf1Api.mint l) ∧
      m'.lstReserves (Inf1Api.mint l) = n'.lstReserves (Inf1Api.mint l) := by
  have hout : LstOutcome createPda splLsts poolStateId fetched l m (.ok (), m') :=
    hrunm ▸ updateLst_outcome
  have hout' : LstOutcome createPda splLsts poolStateId fetched l n (.ok (), n') :=
    hrunn ▸ updateLst_outcome
  cases hout with
  | @noSplData r mint hreserves hcalc =>
    cases hout' with
    | noSplData hreserves' _ =>
      rw [hreserves] at hreserves'
      cases hreserves'
      simp
    | updated _ hcalc' _ =>
      -- a calculator that was made for the mint could be made again
      obtain ⟨c₀, hinit, -, -⟩ := initSvc_of_calcFor_ok hn hcalc'
      rw [initSvc_of_calcFor_error hcalc] at hinit
      cases hinit
  | @updated r c c' hreserves hcalc hupdate =>
    obtain ⟨c₀, hinit, hprogram, haccounts⟩ := initSvc_of_calcFor_ok hm hcalc
    cases hout' with
    | noSplData _ hcalc' =>
      rw [initSvc_of_calcFor_error hcalc'] at hinit
      cases hinit
    | @updated r' d d' hreserves' hcalc' hupdate' =>
      obtain ⟨d₀, hinit', hprogram', haccounts'⟩ := initSvc_of_calcFor_ok hn hcalc'
      rw [hinit] at hinit'
      cases hinit'
      have hsame := LawfulInf1.updateSvc_congr (hprogram.trans hprogram'.symm)
        (haccounts.trans haccounts'.symm) (fun _ _ => rfl) hupdate
      rw [hupdate'] at hsame
      cases hsame
      rw [hreserves] at hreserves'
      cases hreserves'
      simp

/-- Two loops over one list that both get through agree on the mints of the list. -/
theorem tryForEach_updateLst_agree {lsts : List T.LstState} (hm : CalcsMade splLsts m.lstCalcs)
    (hn : CalcsMade splLsts n.lstCalcs)
    (hrunm : (Mutation.tryForEach (updateLst createPda splLsts poolStateId fetched) lsts).run m =
      (.ok (), m'))
    (hrunn : (Mutation.tryForEach (updateLst createPda splLsts poolStateId fetched) lsts).run n =
      (.ok (), n')) : AgreeOn lsts m' n' := by
  have hloop := Mutation.tryForEach_prefix_relation (R := fun done u v =>
    CalcsMade splLsts u.lstCalcs ∧ CalcsMade splLsts v.lstCalcs ∧ AgreeOn done u v)
    ⟨hm, hn, by simp [AgreeOn]⟩ ?_ hrunm hrunn
  · exact hloop.2.2
  · rintro done x _ u u' v v' ⟨hu, hv, hagree⟩ hrunu hrunv
    have houtu : LstOutcome createPda splLsts poolStateId fetched x u (.ok (), u') :=
      hrunu ▸ updateLst_outcome
    have houtv : LstOutcome createPda splLsts poolStateId fetched x v (.ok (), v') :=
      hrunv ▸ updateLst_outcome
    refine ⟨houtu.calcsMade hu, houtv.calcsMade hv, ?_⟩
    intro mint hmint
    by_cases hlast : mint = Inf1Api.mint x
    · subst hlast
      exact updateLst_agree hu hv hrunu hrunv
    · have hdone : mint ∈ done.map Inf1Api.mint := by
        simpa [hlast, eq_comm] using hmint
      obtain ⟨hcalcs, hreserves⟩ := hagree mint hdone
      obtain ⟨hcalcsu, hreservesu⟩ := houtu.frame hlast
      obtain ⟨hcalcsv, hreservesv⟩ := houtv.frame hlast
      exact ⟨hcalcsu.trans (hcalcs.trans hcalcsv.symm),
        hreservesu.trans (hreserves.trans hreservesv.symm)⟩

end Loop

/-! ### The pool as a whole -/

/-- Two states that store what was fetched, from the same accounts as far as the pool as a whole goes,
show the same pool, and the same pricing for the mints of the list and the LP token. -/
theorem StoresFetched.agree {poolStateId lstStateListId : Pubkey} {fetched fetched' : UpdateMap}
    {lsts : List T.LstState} {s t : InfStd T}
    (hs : StoresFetched poolStateId lstStateListId fetched lsts s)
    (ht : StoresFetched poolStateId lstStateListId fetched' lsts t) (hfixed : Fixed s t)
    (hpoolAcc : fetched poolStateId = fetched' poolStateId)
    (hlistAcc : fetched lstStateListId = fetched' lstStateListId)
    (hmintAcc : fetched (Inf1Api.lpTokenMint s.pool) = fetched' (Inf1Api.lpTokenMint s.pool))
    (hpricing : ∀ p : T.PricingAg, Inf1Spec.pricingProgramId p = Inf1Spec.pricingProgram s.pool →
      ∀ key ∈ Inf1Api.accountsToUpdateAll p (lsts.map Inf1Api.mint), fetched key = fetched' key) :
    SameForPool s t ∧ ∀ mint ∈ lsts.map Inf1Api.mint,
      Inf1Spec.pricingAnswer s.pricing mint = Inf1Spec.pricingAnswer t.pricing mint := by
  have hpool : s.pool = t.pool := by
    obtain ⟨acc, hacc, hpool⟩ := hs.pool
    obtain ⟨acc', hacc', hpool'⟩ := ht.pool
    rw [← hpoolAcc, hacc] at hacc'
    cases hacc'
    exact Option.some.inj (hpool.symm.trans hpool')
  have hlist : s.lstStateListData = t.lstStateListData := by
    obtain ⟨acc, hacc, hdata⟩ := hs.list
    obtain ⟨acc', hacc', hdata'⟩ := ht.list
    rw [← hlistAcc, hacc] at hacc'
    cases hacc'
    exact hdata.trans hdata'.symm
  have hsupply : s.lpTokenSupply = t.lpTokenSupply := by
    obtain ⟨acc, supply, hacc, hsupply, hstored⟩ := hs.supply
    obtain ⟨acc', supply', hacc', hsupply', hstored'⟩ := ht.supply
    rw [hmintAcc, hpool, hacc'] at hacc
    cases hacc
    rw [hsupply'] at hsupply
    cases hsupply
    exact hstored.trans hstored'.symm
  obtain ⟨p, hp, hprun⟩ := hs.pricing
  obtain ⟨q, hq, hqrun⟩ := ht.pricing
  have hprogram : Inf1Spec.pricingProgramId p = Inf1Spec.pricingProgramId q := by
    rw [hp, hq, hpool]
  obtain ⟨q', hqrun', hanswers, hlp⟩ := LawfulInf1.updateAll_congr hprogram (hpricing p hp) hprun
  rw [hqrun] at hqrun'
  cases hqrun'
  have hkept := LawfulInf1.pricingProgramId_updateAll (lsts.map Inf1Api.mint) fetched p
  have hkept' := LawfulInf1.pricingProgramId_updateAll (lsts.map Inf1Api.mint) fetched' q
  rw [hprun] at hkept
  rw [hqrun] at hkept'
  exact ⟨⟨hfixed, hpool, hlist, hsupply, hkept.trans (hprogram.trans hkept'.symm), hlp⟩, hanswers⟩

/-! ### What Jupiter sees -/

section Seen

variable {amm amm' : InfAmm T}

/-- States that show the same pool and the same for the mints of the list give the same quotes. -/
theorem SameForPool.quote_eq (h : SameForPool amm.inner amm'.inner)
    (hmints : ∀ mint ∈ (InfAmm.lstStates amm.inner).map Inf1Api.mint,
      SameForMint mint amm.inner amm'.inner)
    {mem mem' : Atomics} (hclock : mem amm.clockRef = mem' amm'.clockRef) {params : QuoteParams}
    (hin : Tradable amm params.inputMint) (hout : Tradable amm params.outputMint) :
    amm.quote mem params = amm'.quote mem' params := by
  have hside {mint : Pubkey} (hmint : Tradable amm mint)
      (hne : mint ≠ Inf1Api.lpTokenMint amm.inner.pool) : SameForMint mint amm.inner amm'.inner := by
    rcases List.mem_append.mp hmint with hlisted | hlp
    · exact hmints mint hlisted
    · exact absurd (List.mem_singleton.mp hlp) hne
  have hquote (slotLookahead : UInt64) :
      Inf1Api.quoteTrade amm.inner ⟨params.inputMint, params.outputMint⟩ params.amount slotLookahead
          (swapModeToTradeLimitTy params.swapMode) =
        Inf1Api.quoteTrade amm'.inner ⟨params.inputMint, params.outputMint⟩ params.amount
          slotLookahead (swapModeToTradeLimitTy params.swapMode) :=
    LawfulInf1.quoteTrade_congr _ _ _ h (hside hin) (hside hout)
  simp only [InfAmm.quote, ← hclock, ← h.pool, hquote]

/-- They give the same swap instructions as well. -/
theorem SameForPool.getSwapAndAccountMetas_eq (h : SameForPool amm.inner amm'.inner)
    (hmints : ∀ mint ∈ (InfAmm.lstStates amm.inner).map Inf1Api.mint,
      SameForMint mint amm.inner amm'.inner)
    {params : SwapParams} (hsource : Tradable amm params.sourceMint)
    (hdestination : Tradable amm params.destinationMint) :
    amm.getSwapAndAccountMetas params = amm'.getSwapAndAccountMetas params := by
  have hside {mint : Pubkey} (hmint : Tradable amm mint)
      (hne : mint ≠ Inf1Api.lpTokenMint amm.inner.pool) : SameForMint mint amm.inner amm'.inner := by
    rcases List.mem_append.mp hmint with hlisted | hlp
    · exact hmints mint hlisted
    · exact absurd (List.mem_singleton.mp hlp) hne
  have hix : Inf1Api.tradeIx amm.inner (InfAmm.tradeIxArgs params)
        (swapModeToTradeLimitTy params.swapMode) =
      Inf1Api.tradeIx amm'.inner (InfAmm.tradeIxArgs params)
        (swapModeToTradeLimitTy params.swapMode) :=
    LawfulInf1.tradeIx_congr _ h (hside hsource) (hside hdestination)
  simp only [InfAmm.getSwapAndAccountMetas, InfAmm.programId, hix, h.progId]


variable {H : Type} [StreamHash H Pubkey] [SolanaPubkey] {poolStateId lstStateListId : Pubkey}

/-- States that show the same pool and the same entries ask for the same accounts. -/
theorem SameForPool.getAccountsToUpdate_eq (h : SameForPool amm.inner amm'.inner)
    (haddr : Addresses H amm.inner poolStateId lstStateListId)
    (hmaps : AgreeOn (InfAmm.lstStates amm.inner) amm.inner.lstMaps amm'.inner.lstMaps) :
    amm.getAccountsToUpdate = amm'.getAccountsToUpdate := by
  have haddr' := haddr.of_fixed h.toFixed
  have hlsts : InfAmm.lstStates amm.inner = InfAmm.lstStates amm'.inner := by
    rw [InfAmm.lstStates_eq, InfAmm.lstStates_eq, h.lstStateListData]
  have hneeds : ∀ l ∈ InfAmm.lstStates amm.inner,
      InfAmm.lstAccountsToUpdate amm.inner l = InfAmm.lstAccountsToUpdate amm'.inner l := by
    intro l hl
    obtain ⟨hcalcs, -⟩ := hmaps (Inf1Api.mint l) (List.mem_map_of_mem hl)
    change amm.inner.lstCalcs _ = amm'.inner.lstCalcs _ at hcalcs
    rcases hcalc : amm.inner.lstCalcs (Inf1Api.mint l) with _ | c
    · rw [InfAmm.lstAccountsToUpdate_of_none hcalc,
        InfAmm.lstAccountsToUpdate_of_none (hcalcs.symm.trans hcalc)]
    · obtain ⟨key, hkey⟩ := exists_reservesAddr H poolStateId l
      obtain ⟨bump, hpda⟩ := InfAmm.findPoolState_of_poolStateId haddr.poolStateId_eq
      rw [InfAmm.lstAccountsToUpdate_of_some hpda hcalc (haddr.createPda_eq ▸ hkey),
        InfAmm.lstAccountsToUpdate_of_some ((LawfulInf1.findPoolState_congr h.toFixed).symm.trans hpda)
          (hcalcs.symm.trans hcalc) (haddr'.createPda_eq ▸ hkey)]
  rw [InfAmm.getAccountsToUpdate_eq haddr.poolStateId_eq haddr.lstStateListId_eq,
    InfAmm.getAccountsToUpdate_eq haddr'.poolStateId_eq haddr'.lstStateListId_eq,
    InfAmm.namedAccounts, InfAmm.namedAccounts, ← hlsts, h.pool,
    LawfulInf1.accountsToUpdateAll_congr _ h.pricingProgramId, List.flatMap_congr hneeds]

/-- **History independence of a successful update.** -/
theorem update_history_independent {a b a' b' : InfAmm T} {memA memB : Atomics}
    {accountMap : AccountMap} (ha : Reachable H a) (hb : Reachable H b)
    (hprogram : a.programId = b.programId) (hspl : a.inner.splLsts = b.inner.splLsts)
    (hclock : memA a.clockRef = memB b.clockRef)
    (hrunA : (InfAmm.update memA accountMap).run a = (.ok (), a'))
    (hrunB : (InfAmm.update memB accountMap).run b = (.ok (), b')) :
    a'.inner.pool = b'.inner.pool ∧
    a'.inner.lstStateListData = b'.inner.lstStateListData ∧
    a'.inner.lpTokenSupply = b'.inner.lpTokenSupply ∧
    (∀ mint ∈ (InfAmm.lstStates a'.inner).map Inf1Api.mint,
      Inf1Spec.pricingAnswer a'.inner.pricing mint = Inf1Spec.pricingAnswer b'.inner.pricing mint ∧
        a'.inner.lstReserves mint = b'.inner.lstReserves mint ∧
        a'.inner.lstCalcs mint = b'.inner.lstCalcs mint) ∧
    a'.getReserveMints = b'.getReserveMints ∧
    a'.getAccountsToUpdate = b'.getAccountsToUpdate ∧
    (∀ (mem mem' : Atomics) (params : QuoteParams), mem a'.clockRef = mem' b'.clockRef →
      Tradable a' params.inputMint → Tradable a' params.outputMint →
        a'.quote mem params = b'.quote mem' params) ∧
    ∀ params : SwapParams, Tradable a' params.sourceMint → Tradable a' params.destinationMint →
      a'.getSwapAndAccountMetas params = b'.getSwapAndAccountMetas params := by
  obtain ⟨poolStateId, lstStateListId, haddrA⟩ := ha.addresses
  obtain ⟨poolStateId', lstStateListId', haddrB⟩ := hb.addresses
  obtain ⟨hfixed, rfl, rfl⟩ := haddrA.fixed_of_same_program haddrB hprogram hspl
  have hfetched : (a.fetched memA accountMap).getAccount = (b.fetched memB accountMap).getAccount := by
    rw [InfAmm.fetched, InfAmm.fetched, simClock_congr hclock]
  obtain ⟨p, q, lsts, hp, hq, hstoresA, hloopA⟩ := InfAmm.update_eq_ok hrunA
  obtain ⟨p', q', lsts', hp', hq', hstoresB, hloopB⟩ := InfAmm.update_eq_ok hrunB
  rw [haddrA.poolStateId_eq] at hp
  rw [haddrA.lstStateListId_eq] at hq
  rw [haddrB.poolStateId_eq] at hp'
  rw [haddrB.lstStateListId_eq] at hq'
  cases hp
  cases hq
  cases hp'
  cases hq'
  rw [← hfetched] at hstoresB
  -- both loops ran over the same list, with the same step
  obtain rfl : lsts' = lsts := hstoresB.unique hstoresA
  have hstep : b.lstStep memB accountMap poolStateId = a.lstStep memA accountMap poolStateId := by
    funext l
    rw [InfAmm.lstStep, InfAmm.lstStep, hfetched, hfixed.createPda, hfixed.splLsts]
  rw [hstep] at hloopB
  have hagree : AgreeOn lsts' a'.inner.lstMaps b'.inner.lstMaps :=
    tryForEach_updateLst_agree ha.calcsMade (hfixed.splLsts ▸ hb.calcsMade) hloopA hloopB
  have hfixed' : Fixed a'.inner b'.inner :=
    (InfAmm.fixedParts_of_update hrunA).inner.symm.trans
      (hfixed.trans (InfAmm.fixedParts_of_update hrunB).inner)
  obtain ⟨hpool, hpricing⟩ := hstoresA.agree hstoresB hfixed' rfl rfl rfl fun _ _ _ _ => rfl
  have haddrA' := haddrA.of_fixed (InfAmm.fixedParts_of_update hrunA).inner
  have hlsts : InfAmm.lstStates a'.inner = lsts' := hstoresA.lstStates_eq
  have hmints : ∀ mint ∈ (InfAmm.lstStates a'.inner).map Inf1Api.mint,
      SameForMint mint a'.inner b'.inner := by
    intro mint hmint
    rw [hlsts] at hmint
    exact ⟨(hagree mint hmint).1, (hagree mint hmint).2, hpricing mint hmint⟩
  refine ⟨hpool.pool, hpool.lstStateListData, hpool.lpTokenSupply, ?_, ?_, ?_, ?_, ?_⟩
  · intro mint hmint
    exact ⟨(hmints mint hmint).pricing, (hmints mint hmint).reserves, (hmints mint hmint).svc⟩
  · rw [InfAmm.getReserveMints, InfAmm.getReserveMints, hlsts, hstoresB.lstStates_eq, hpool.pool]
  · exact hpool.getAccountsToUpdate_eq haddrA' (hlsts.symm ▸ hagree)
  · intro mem mem' params hclock' hin hout
    exact hpool.quote_eq hmints hclock' hin hout
  · intro params hsource hdestination
    exact hpool.getSwapAndAccountMetas_eq hmints hsource hdestination

end Seen

open Reference in
/-- One AMM is constructed before wSOL is listed, and one after. -/
theorem update_history_independent_wsol :
    ((InfAmm.update genesis (onChain [wsol])).run
      (ammWith flatFeeProgramId [] HashMap.empty)).2.getAccountsToUpdate =
    ((InfAmm.update genesis (onChain [wsol])).run
      (ammWith flatFeeProgramId [wsol] (HashMap.empty.insert wsol.mint wsolSvc))).2.getAccountsToUpdate := by
  have hreach : Reachable Sha256Hasher (ammWith flatFeeProgramId [] HashMap.empty) := .new new_nil
  have hreach' : Reachable Sha256Hasher (ammWith flatFeeProgramId [wsol]
      (HashMap.empty.insert wsol.mint wsolSvc)) := .new new_wsol
  have hok := (wellFormed_wsol flatFeeProgramId [] HashMap.empty).update_ok hreach.calcsMade genesis
  have hok' := (wellFormed_wsol flatFeeProgramId [wsol]
    (HashMap.empty.insert wsol.mint wsolSvc)).update_ok hreach'.calcsMade genesis
  have hprogram : (ammWith flatFeeProgramId [] HashMap.empty).programId =
    (ammWith flatFeeProgramId [wsol] (HashMap.empty.insert wsol.mint wsolSvc)).programId := rfl
  exact (update_history_independent hreach hreach' hprogram rfl rfl (Mutation.run_eq_of_ok hok)
    (Mutation.run_eq_of_ok hok')).2.2.2.2.2.1

end InfJup
