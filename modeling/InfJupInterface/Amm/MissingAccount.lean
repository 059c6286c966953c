import InfJupInterface.Amm.Asked
import InfJupInterface.Amm.Recovery
import InfJupInterface.Err

/-!
# The account that a failed update names

An update with accounts of a well-formed snapshot has one way to fail: an account that the pool needs
was not handed over.  The error is then "MissingAcc" with the key of such an account
(`failed_update_names_missing`), in every reachable state.

For cycles this says where the AMM failed to ask.  From the second cycle on the account belongs to a
listed LST that has no calculator of the named program in the state, and if the account is the
reserves, no calculator at all (`failed_cycle_names_lst`).

Both rest on what `inf1_std` reports, which is the class `NamesMissing`.
-/

namespace InfJup

variable {T : Inf1Types} [Inf1Api T] [Inf1Spec T]

/-- What `inf1_std` reports when an account is missing.  An update function that reads one account
names it; one that reads several names one of them, if it has found no other fault. -/
class NamesMissing (T : Inf1Types) [Inf1Api T] [Inf1Spec T] : Prop where
  updatePool_missing : ∀ {fetched} {s : InfStd T} {pda}, Inf1Api.findPoolState s = some pda →
    fetched pda.1 = none → ((Inf1Api.updatePool fetched).run s).1 = .error (.accMissing pda.1)
  updateLstStateList_missing : ∀ {fetched} {s : InfStd T} {pda},
    Inf1Api.findLstStateList s = some pda → fetched pda.1 = none →
      ((Inf1Api.updateLstStateList fetched).run s).1 = .error (.accMissing pda.1)
  updateLpTokenSupply_missing : ∀ {fetched} {s : InfStd T},
    fetched (Inf1Api.lpTokenMint s.pool) = none →
      ((Inf1Api.updateLpTokenSupply fetched).run s).1 =
        .error (.accMissing (Inf1Api.lpTokenMint s.pool))
  updateLstReserves_missing : ∀ {createPda poolStateId} {l : T.LstState} {fetched m key},
    reservesAddr createPda poolStateId l = some key → fetched key = none →
      ((Inf1Api.updateLstReserves createPda poolStateId l fetched).run m).1 =
        .error (.accMissing key)
  updateSvc_missing : ∀ {fetched fetched'} {c d c' : T.SvcAg} {e},
    (∀ key ∈ Inf1Spec.accountsToUpdateSvc c, (fetched key).isSome → fetched key = fetched' key) →
      (Inf1Api.updateSvc fetched').run c = (.ok (), d) →
      (Inf1Api.updateSvc fetched).run c = (.error e, c') →
      ∃ key ∈ Inf1Spec.accountsToUpdateSvc c, fetched key = none ∧ e = .accMissing key
  updateAll_missing : ∀ {mints fetched fetched'} {p q p' : T.PricingAg} {e},
    (∀ key ∈ Inf1Api.accountsToUpdateAll p mints, (fetched key).isSome → fetched key = fetched' key) →
      (Inf1Api.updateAll mints fetched').run p = (.ok (), q) →
      (Inf1Api.updateAll mints fetched).run p = (.error e, p') →
      ∃ key ∈ Inf1Api.accountsToUpdateAll p mints, fetched key = none ∧ e = .accMissing key

namespace Reference

/-- What is not read is named, and is missing. -/
theorem readAll_eq_error {fetched : UpdateMap} {keys : List Pubkey} {key : Pubkey}
    (h : readAll fetched keys = .error key) : key ∈ keys ∧ fetched key = none := by
  induction keys with
  | nil => cases h
  | cons k ks ih =>
    unfold readAll at h
    split at h
    · rename_i hnone
      cases h
      exact ⟨List.mem_cons_self, hnone⟩
    · rcases hrest : readAll fetched ks with e | rest
      · rw [hrest] at h
        cases h
        exact ⟨List.mem_cons_of_mem k (ih hrest).1, (ih hrest).2⟩
      · rw [hrest] at h
        cases h

/-- An account that is not there is named. -/
theorem commit_fetchInto_missing {α σ : Type} {fetched : UpdateMap} {decode : List UInt8 → Option α}
    {pda : σ → Option Pubkey} {store : σ → α → Except (InfErr inf1) σ} {s : σ} {key : Pubkey}
    (hkey : pda s = some key) (hnone : fetched key = none) :
    ((commit fun s => fetchInto fetched decode (pda s) (store s)).run s).1 =
      .error (.accMissing key) := by
  simp only [commit, Mutation.run, fetchInto, fetchAs, hkey, hnone]

/-- A program that stores what it reads names an account that is not there. -/
theorem commit_readAll_missing {σ : Type} {f : σ → Except (UpdateErr Unit) σ} {fetched : UpdateMap}
    {keys : List Pubkey} {s s' : σ} {e : UpdateErr Unit}
    (hok : ∀ data, readAll fetched keys = .ok data → ∃ t, f s = .ok t)
    (herror : ∀ key, readAll fetched keys = .error key → f s = .error (.accMissing key))
    (h : (commit f).run s = (.error e, s')) : ∃ key ∈ keys, fetched key = none ∧ e = .accMissing key := by
  change commit f s = (.error e, s') at h
  rcases hread : readAll fetched keys with key | data
  · obtain ⟨hmem, hnone⟩ := readAll_eq_error hread
    rw [commit, herror key hread] at h
    cases h
    exact ⟨key, hmem, hnone, rfl⟩
  · obtain ⟨t, ht⟩ := hok data hread
    rw [commit, ht] at h
    cases h

/-- The instance reports what is missing. -/
instance namesMissing : NamesMissing inf1 where
  updatePool_missing hpda hnone :=
    commit_fetchInto_missing (congrArg (Option.map Prod.fst) hpda) hnone
  updateLstStateList_missing hpda hnone :=
    commit_fetchInto_missing (congrArg (Option.map Prod.fst) hpda) hnone
  updateLpTokenSupply_missing hnone := commit_fetchInto_missing rfl hnone
  updateLstReserves_missing hkey hnone := commit_fetchInto_missing hkey hnone
  updateSvc_missing := by
    intro fetched _ c _ _ _ _ _ h
    have hok (data) (hread : readAll fetched c.accounts = .ok data) :
        ∃ t, updateSvc fetched c = .ok t := ⟨_, by rw [updateSvc, hread]⟩
    have herror (key) (hread : readAll fetched c.accounts = .error key) :
        updateSvc fetched c = .error (.accMissing key) := by rw [updateSvc, hread]
    exact commit_readAll_missing hok herror h
  updateAll_missing := by
    intro mints fetched _ p _ _ _ _ _ h
    have hok (data) (hread : readAll fetched (pricingAccounts p.programId mints) = .ok data) :
        ∃ q, updateAll mints fetched p = .ok q := ⟨_, by rw [updateAll, hread]⟩
    have herror (key) (hread : readAll fetched (pricingAccounts p.programId mints) = .error key) :
        updateAll mints fetched p = .error (.accMissing key) := by rw [updateAll, hread]
    exact commit_readAll_missing hok herror h

end Reference

/-! ### Updates with a part of the snapshot -/

/-- The account is one that the update of an LST reads: its reserves, or an account of the calculator
that would be made for it. -/
inductive AccountOf (amm : InfAmm T) (poolStateId : Pubkey) (l : T.LstState) (key : Pubkey) : Prop
  | reserves (h : reservesAddr amm.inner.createPda poolStateId l = some key)
  | svc {c : T.SvcAg} (hc : Inf1Spec.initSvc amm.inner.splLsts l = .ok c)
      (h : key ∈ Inf1Spec.accountsToUpdateSvc c)

/-- Such an account of a listed LST is in the footprint. -/
theorem AccountOf.footprint {amm : InfAmm T} {poolStateId lstStateListId : Pubkey}
    {pool : T.VerPoolState} {lsts : List T.LstState} {l : T.LstState} {key : Pubkey}
    (h : AccountOf amm poolStateId l key) (hl : l ∈ lsts) :
    amm.footprint poolStateId lstStateListId pool lsts key := by
  cases h with
  | reserves h => exact .reserves hl h
  | svc hc h => exact .svc hl hc h

section Part

variable {amm : InfAmm T} {accountMap snapshot : AccountMap} {poolStateId lstStateListId : Pubkey}
  {pool : T.VerPoolState} {lsts : List T.LstState} {mem : Atomics}

omit [Inf1Api T] [Inf1Spec T] in
/-- If a program that reads one account fails, and would not with the account of the snapshot, then
it names the account, and the account is missing. -/
theorem PartOf.missing_of_error (hpart : PartOf accountMap snapshot) {σ : Type}
    {m : Mutation σ (UpdateErr (InfErr T)) Unit} {key : Pubkey} {s s' : σ} {e : UpdateErr (InfErr T)}
    (hmissing : (amm.fetched mem accountMap).getAccount key = none →
      (m.run s).1 = .error (.accMissing key))
    (hok : (amm.fetched mem accountMap).getAccount key = amm.view snapshot mem key →
      (m.run s).1 = .ok ())
    (hrun : m.run s = (.error e, s')) :
    e = .accMissing key ∧ (amm.fetched mem accountMap).getAccount key = none := by
  rcases hfetched : (amm.fetched mem accountMap).getAccount key with _ | acc
  · have hnamed := hmissing hfetched
    rw [hrun] at hnamed
    cases hnamed
    exact ⟨rfl, rfl⟩
  · have hdone := hok (hpart.fetched_eq_view (by rw [hfetched]; rfl))
    rw [hrun] at hdone
    cases hdone

variable [LawfulInf1 T] [NamesMissing T]

/-- The part of an update before its loop names an account of the footprint. -/
theorem WellFormed.updateWholePool_missing
    (h : WellFormed amm snapshot poolStateId lstStateListId pool lsts)
    (hpart : PartOf accountMap snapshot) {e : AmmErr T} {s : InfStd T}
    (hrun : (updateWholePool lstStateListId (amm.fetched mem accountMap).getAccount).run amm.inner =
      (.error e, s)) :
    ∃ key, e = .update (.accMissing key) ∧ amm.footprint poolStateId lstStateListId pool lsts key ∧
      (amm.fetched mem accountMap).getAccount key = none := by
  obtain ⟨bump, hpda⟩ := InfAmm.findPoolState_of_poolStateId h.poolStateId_eq
  obtain ⟨bump', hpda'⟩ := InfAmm.findLstStateList_of_lstStateListId h.lstStateListId_eq
  obtain ⟨poolAcc, hpoolAcc, hpool⟩ := h.poolAcc mem
  obtain ⟨listAcc, hlistAcc, hlsts⟩ := h.listAcc mem
  obtain ⟨mintAcc, supply, hmintAcc, hsupply⟩ := h.mintAcc mem
  -- the pool
  rcases Mutation.run_bind_eq_error hrun with hfail | ⟨_, s₁, hrun₁, hrun⟩
  · obtain ⟨e', hnamed, rfl⟩ := Mutation.run_mapErr_eq_error hfail
    obtain ⟨rfl, hnone⟩ := hpart.missing_of_error (NamesMissing.updatePool_missing hpda)
      (fun hview => LawfulInf1.updatePool_succeeds hpda (hview.trans hpoolAcc) hpool h.knownPricing)
      hnamed
    exact ⟨poolStateId, rfl, .poolState, hnone⟩
  obtain ⟨poolAcc', pool', pricing, hpoolAcc', hpool', hprogram, rfl⟩ :=
    updatePool_eq_ok hpda (Mutation.run_mapErr_eq_ok_iff.mp hrun₁)
  rw [hpart.fetched_eq_view (by rw [hpoolAcc']; rfl), hpoolAcc] at hpoolAcc'
  cases hpoolAcc'
  obtain rfl : pool' = pool := Option.some.inj (hpool'.symm.trans hpool)
  have hpda₁ := (LawfulInf1.findLstStateList_congr (T := T) (s := amm.inner)
    (t := { amm.inner with pool := pool', pricing := pricing })
    ⟨rfl, rfl, rfl, rfl, rfl, rfl⟩).symm.trans hpda'
  -- the list
  rcases Mutation.run_bind_eq_error hrun with hfail | ⟨_, s₂, hrun₂, hrun⟩
  · obtain ⟨e', hnamed, rfl⟩ := Mutation.run_mapErr_eq_error hfail
    obtain ⟨rfl, hnone⟩ := hpart.missing_of_error (NamesMissing.updateLstStateList_missing hpda₁)
      (fun hview => LawfulInf1.updateLstStateList_succeeds hpda₁ (hview.trans hlistAcc) hlsts) hnamed
    exact ⟨lstStateListId, rfl, .lstStateList, hnone⟩
  obtain ⟨listAcc', hlistAcc', rfl⟩ :=
    updateLstStateList_eq_ok hpda₁ (Mutation.run_mapErr_eq_ok_iff.mp hrun₂)
  rw [hpart.fetched_eq_view (by rw [hlistAcc']; rfl), hlistAcc] at hlistAcc'
  cases hlistAcc'
  -- the LP token mint
  rcases Mutation.run_bind_eq_error hrun with hfail | ⟨_, s₃, hrun₃, hrun⟩
  · obtain ⟨e', hnamed, rfl⟩ := Mutation.run_mapErr_eq_error hfail
    obtain ⟨rfl, hnone⟩ := hpart.missing_of_error NamesMissing.updateLpTokenSupply_missing
      (fun hview => LawfulInf1.updateLpTokenSupply_succeeds (hview.trans hmintAcc) hsupply) hnamed
    exact ⟨_, rfl, .lpTokenMint, hnone⟩
  obtain ⟨-, supply', -, -, rfl⟩ :=
    updateLpTokenSupply_eq_ok (Mutation.run_mapErr_eq_ok_iff.mp hrun₃)
  -- the list decodes, so that the pricing program is all that is left
  rw [Mutation.run_bind_of_ok (Mutation.run_read _), hlsts,
    Mutation.run_bind_of_ok (Mutation.run_ofExcept _ _)] at hrun
  rcases Mutation.run_bind_eq_error hrun with hfail | ⟨_, s₄, -, hpure⟩
  · obtain ⟨pricing', hfail⟩ := Mutation.run_zoom_eq_error hfail
    obtain ⟨e', hnamed, rfl⟩ := Mutation.run_mapErr_eq_error hfail
    obtain ⟨p', hprices⟩ := h.pricing mem pricing hprogram
    obtain ⟨key, hkey, hnone, rfl⟩ := NamesMissing.updateAll_missing
      (fun key _ hsome => hpart.fetched_eq_view hsome) hprices hnamed
    exact ⟨key, rfl, .pricing hprogram hkey, hnone⟩
  · cases hpure

/-- A failing step of the loop names an account of its LST. -/
theorem WellFormed.lstStep_missing
    (h : WellFormed amm snapshot poolStateId lstStateListId pool lsts)
    (hpart : PartOf accountMap snapshot) {l : T.LstState} (hl : l ∈ lsts) {m m' : LstMaps T}
    (hm : CalcsMade amm.inner.splLsts m.lstCalcs) {e : UpdateErr (InfErr T)}
    (hrun : (amm.lstStep mem accountMap poolStateId l).run m = (.error e, m')) :
    ∃ key, e = .accMissing key ∧ AccountOf amm poolStateId l key ∧
      (amm.fetched mem accountMap).getAccount key = none := by
  have hout : LstOutcome amm.inner.createPda amm.inner.splLsts poolStateId
      (amm.fetched mem accountMap).getAccount l m (.error e, m') := hrun ▸ updateLst_outcome
  cases hout with
  | noReserves hnone =>
    obtain ⟨key, hkey⟩ := h.exists_reservesAddr hl
    rw [InfAmm.lstStep, updateLst] at hrun
    rcases Mutation.run_bind_eq_error hrun with hfail | ⟨_, t, hok, -⟩
    · obtain ⟨reserves, hfail⟩ := Mutation.run_zoom_eq_error hfail
      obtain ⟨rfl, hmissing⟩ := hpart.missing_of_error (NamesMissing.updateLstReserves_missing hkey)
        (fun hview => by
          obtain ⟨r, hr⟩ := h.reserves mem l hl
          have hsame : fetchedReserves amm.inner.createPda poolStateId
              (amm.fetched mem accountMap).getAccount l = some r := by
            rw [fetchedReserves_congr fun key' hkey' => ?_, hr]
            rw [hkey] at hkey'
            cases hkey'
            exact hview
          rw [hnone] at hsame
          cases hsame) hfail
      exact ⟨key, rfl, .reserves hkey, hmissing⟩
    · obtain ⟨reserves, hok, -⟩ := Mutation.run_zoom_eq_ok_iff.mp hok
      obtain ⟨r, hr, -⟩ := (LawfulInf1.updateLstReserves_eq_ok_iff _ _ _ _ _ _).mp hok
      rw [hnone] at hr
      cases hr
  | noCalc _ hcalc hother =>
    obtain ⟨mint, hmint⟩ := h.knownSvc l hl _ (initSvc_of_calcFor_error hcalc)
    exact absurd hmint (hother mint)
  | @notUpdated r c c' e' _ hcalc hupdate =>
    -- the calculator at hand is like a fresh one, which updates from the snapshot
    obtain ⟨c₀, hinit, hprogram, haccounts⟩ := initSvc_of_calcFor_ok hm hcalc
    obtain ⟨d₀, hd₀⟩ := h.svc l hl c₀ hinit mem
    have hd := LawfulInf1.updateSvc_congr hprogram.symm haccounts.symm (fun _ _ => rfl) hd₀
    obtain ⟨key, hkey, hmissing, rfl⟩ := NamesMissing.updateSvc_missing
      (fun key _ hsome => hpart.fetched_eq_view hsome) hd hupdate
    exact ⟨key, rfl, .svc hinit (haccounts ▸ hkey), hmissing⟩

/-- A failing loop names an account of an LST on its list. -/
theorem WellFormed.loop_missing
    (h : WellFormed amm snapshot poolStateId lstStateListId pool lsts)
    (hpart : PartOf accountMap snapshot) (hmade : CalcsMade amm.inner.splLsts amm.inner.lstCalcs)
    {e : UpdateErr (InfErr T)} {m : LstMaps T}
    (hloop : (Mutation.tryForEach (amm.lstStep mem accountMap poolStateId) lsts).run
      amm.inner.lstMaps = (.error e, m)) :
    ∃ l ∈ lsts, ∃ key, e = .accMissing key ∧ AccountOf amm poolStateId l key ∧
      (amm.fetched mem accountMap).getAccount key = none := by
  obtain ⟨l, hl, t, ht, hfail⟩ := Mutation.exists_failing_step_of_preserves
    (P := fun t : LstMaps T => CalcsMade amm.inner.splLsts t.lstCalcs) hmade
    (fun x _ t ht => calcsMade_of_lstStep ht rfl) hloop
  exact ⟨l, hl, h.lstStep_missing hpart hl ht hfail⟩

/-- A failing update names an account of the footprint. -/
theorem WellFormed.update_missing
    (h : WellFormed amm snapshot poolStateId lstStateListId pool lsts)
    (hpart : PartOf accountMap snapshot) (hmade : CalcsMade amm.inner.splLsts amm.inner.lstCalcs)
    {e : AmmErr T} (herr : ((InfAmm.update mem accountMap).run amm).1 = .error e) :
    ∃ key, e = .update (.accMissing key) ∧ amm.footprint poolStateId lstStateListId pool lsts key ∧
      (amm.fetched mem accountMap).getAccount key = none := by
  rcases hwhole : (updateWholePool lstStateListId (amm.fetched mem accountMap).getAccount).run
    amm.inner with ⟨e' | lsts', s⟩
  · rw [InfAmm.update_run h.poolStateId_eq h.lstStateListId_eq, updateInner_of_error hwhole] at herr
    cases herr
    exact h.updateWholePool_missing hpart hwhole
  · have henter : amm.EntersLoop mem accountMap poolStateId lstStateListId lsts' s :=
      ⟨h.poolStateId_eq, h.lstStateListId_eq, hwhole⟩
    obtain rfl := h.lsts_eq_of_storesFetched hpart henter.storesFetched
    rcases hloop : (Mutation.tryForEach (amm.lstStep mem accountMap poolStateId) lsts').run
      amm.inner.lstMaps with ⟨e' | u, m⟩
    · rw [henter.run, hloop] at herr
      cases herr
      obtain ⟨l, hl, key, rfl, haccount, hnone⟩ := h.loop_missing hpart hmade hloop
      exact ⟨key, rfl, haccount.footprint hl, hnone⟩
    · rw [henter.run, hloop] at herr
      cases herr

omit [NamesMissing T] in
/-- Cycles keep the calculators made for their mints. -/
theorem WellFormed.calcsMade_afterCycles
    (h : WellFormed amm snapshot poolStateId lstStateListId pool lsts)
    (hmade : CalcsMade amm.inner.splLsts amm.inner.lstCalcs) (mems : ℕ → Atomics) (k : ℕ) :
    CalcsMade (InfAmm.afterCycles snapshot mems amm k).inner.splLsts
      (InfAmm.afterCycles snapshot mems amm k).inner.lstCalcs := by
  induction k with
  | zero => exact hmade
  | succ k ih => exact (h.of_fixedParts (h.fixedParts_afterCycles mems k)).calcsMade_cycle (mems k) ih

/-- A failing cycle of a state in step with the snapshot names an account of a listed LST without a
calculator of the named program. -/
theorem WellFormed.cycle_missing
    (h : WellFormed amm snapshot poolStateId lstStateListId pool lsts)
    (hmade : CalcsMade amm.inner.splLsts amm.inner.lstCalcs) (hsynced : Synced amm.inner pool lsts)
    {e : AmmErr T} (herr : (amm.cycle snapshot mem).1 = .error e) :
    ∃ l ∈ lsts, ∃ key, e = .update (.accMissing key) ∧
      ¬ amm.Requested poolStateId lstStateListId key ∧
      ((reservesAddr amm.inner.createPda poolStateId l = some key ∧
          amm.inner.lstCalcs (Inf1Api.mint l) = none) ∨
        ∃ c, Inf1Spec.initSvc amm.inner.splLsts l = .ok c ∧
          key ∈ Inf1Spec.accountsToUpdateSvc c ∧ ¬ CurrentAt amm.inner.lstMaps l) := by
  obtain ⟨s, henter⟩ := h.entersLoop_of_requested mem hsynced.poolRequested
  rcases hloop : (Mutation.tryForEach (amm.lstStep mem (amm.cycleMap snapshot poolStateId
    lstStateListId) poolStateId) lsts).run amm.inner.lstMaps with ⟨e' | u, m⟩
  · obtain ⟨hres, -⟩ := h.cycle_of_loop henter hloop
    rw [herr] at hres
    cases hres
    obtain ⟨l, hl, key, rfl, haccount, hnone⟩ := h.loop_missing
      (partOf_cycleMap amm snapshot poolStateId lstStateListId) hmade hloop
    -- what is asked for is found, as the snapshot has the footprint
    have hnot : ¬ amm.Requested poolStateId lstStateListId key := by
      intro hreq
      have hsome := h.finds mem key (haccount.footprint hl)
      rw [← InfAmm.cycleView_of_requested hreq, InfAmm.cycleView, hnone] at hsome
      cases hsome
    refine ⟨l, hl, key, rfl, hnot, ?_⟩
    cases haccount with
    | reserves haddr =>
      refine Or.inl ⟨haddr, Option.eq_none_iff_forall_ne_some.mpr fun c hc => hnot ?_⟩
      exact (h.requested_of_stored hsynced.decodes hl hc).1 key haddr
    | svc hc hkey =>
      refine Or.inr ⟨_, hc, hkey, fun hcur => hnot ?_⟩
      exact (h.requested_of_current hsynced.decodes hmade hl hcur).2 _ hc key hkey
  · obtain ⟨hres, -⟩ := h.cycle_of_loop henter hloop
    rw [herr] at hres
    cases hres

end Part

/-! ### The theorems -/

section Named

variable {H : Type} [StreamHash H Pubkey] [SolanaPubkey] [LawfulInf1 T] [NamesMissing T]
  [Display (FmtErr T.PricingProgErr)] [Display (FmtErr T.RebalanceQuoteErr)]
  [Display (FmtErr T.SwapQuoteErr)] [Display (FmtErr T.UpdatePpErr)] [Display (FmtErr T.UpdateSvcErr)]
  [Display T.CtlErr] [Display (InfErr T)]

/-- **A failed update names what is missing.**  In every reachable state, an update with accounts of
a well-formed snapshot fails for one reason only: an account that the pool of the snapshot needs is
not among them.  The text of the error is "MissingAcc" and the key of such an account, which can be
read back from it. -/
theorem failed_update_names_missing {amm : InfAmm T} {accountMap snapshot : AccountMap}
    {poolStateId lstStateListId : Pubkey} {pool : T.VerPoolState} {lsts : List T.LstState}
    (hamm : Reachable H amm)
    (hwf : WellFormed amm snapshot poolStateId lstStateListId pool lsts)
    (hpart : PartOf accountMap snapshot) {mem : Atomics} {e : AmmErr T}
    (herr : ((InfAmm.update mem accountMap).run amm).1 = .error e) :
    ∃ key, toText e = keyed "MissingAcc" key ∧ readKey (toText e) = some key ∧
      amm.footprint poolStateId lstStateListId pool lsts key ∧ accountMap key = none ∧
      ∃ acc, snapshot key = some acc := by
  obtain ⟨key, rfl, hkey, hnone⟩ := hwf.update_missing hpart hamm.calcsMade herr
  -- the Clock is never missing
  have hclock : key ≠ sysvarClock := by
    rintro rfl
    rw [AccountMapRef.getAccount_sysvarClock] at hnone
    cases hnone
  rw [AccountMapRef.getAccount_of_ne _ hclock] at hnone
  have hsome := hwf.finds mem key hkey
  rw [InfAmm.view, AccountMapRef.getAccount_of_ne _ hclock] at hsome
  exact ⟨key, rfl, readKey_keyed (by decide) key, hkey, hnone, Option.isSome_iff_exists.mp hsome⟩

/-- **A failed cycle names an LST without its calculator.**  On a well-formed snapshot, from the
second cycle on, a cycle fails only for the lack of an account that belongs to a listed LST and that
`get_accounts_to_update` left out.  Either it is the reserves of an LST that has no calculator in the
state, or it is an account of the calculator of an LST that has none of the named program.  The text
of the error has its key. -/
theorem failed_cycle_names_lst {amm : InfAmm T} {snapshot : AccountMap}
    {poolStateId lstStateListId : Pubkey} {pool : T.VerPoolState} {lsts : List T.LstState}
    (hamm : Reachable H amm)
    (hwf : WellFormed amm snapshot poolStateId lstStateListId pool lsts) (mems : ℕ → Atomics) {k : ℕ}
    {e : AmmErr T} (herr : InfAmm.cycleResult snapshot mems amm (k + 1) = .error e) :
    ∃ l ∈ lsts, ∃ key, toText e = keyed "MissingAcc" key ∧ readKey (toText e) = some key ∧
      ¬ (InfAmm.afterCycles snapshot mems amm (k + 1)).Requested poolStateId lstStateListId key ∧
      ((reservesAddr amm.inner.createPda poolStateId l = some key ∧
          (InfAmm.afterCycles snapshot mems amm (k + 1)).inner.lstCalcs (Inf1Api.mint l) = none) ∨
        ∃ c, Inf1Spec.initSvc amm.inner.splLsts l = .ok c ∧
          key ∈ Inf1Spec.accountsToUpdateSvc c ∧
          ¬ CurrentAt (InfAmm.afterCycles snapshot mems amm (k + 1)).inner.lstMaps l) := by
  have hfixed := hwf.fixedParts_afterCycles mems (k + 1)
  have hsynced : Synced (InfAmm.afterCycles snapshot mems amm (k + 1)).inner pool lsts :=
    (hwf.of_fixedParts (hwf.fixedParts_afterCycles mems k)).synced_of_cycle (mems k)
  obtain ⟨l, hl, key, rfl, hnot, hwhy⟩ := (hwf.of_fixedParts hfixed).cycle_missing
    (hwf.calcsMade_afterCycles hamm.calcsMade mems (k + 1)) hsynced herr
  rw [← hfixed.inner.createPda, ← hfixed.inner.splLsts] at hwhy
  exact ⟨l, hl, key, rfl, readKey_keyed (by decide) key, hnot, hwhy⟩

end Named

open Reference in
/-- An update that is handed nothing says so. -/
theorem failed_update_names_missing_empty :
    ∃ (e : AmmErr inf1) (key : Pubkey),
      ((InfAmm.update genesis HashMap.empty).run (ammWith flatFeeProgramId [] HashMap.empty)).1 =
        .error e ∧
      toText e = keyed "MissingAcc" key ∧ readKey (toText e) = some key := by
  have hwf := wellFormed_wsol flatFeeProgramId [] HashMap.empty
  have hamm : Reachable Sha256Hasher (ammWith flatFeeProgramId [] HashMap.empty) := .new new_nil
  have hpart : PartOf HashMap.empty (onChain [wsol]) := fun key acc hacc => by cases hacc
  rcases hrun : (InfAmm.update genesis HashMap.empty).run
    (ammWith flatFeeProgramId [] HashMap.empty) with ⟨e | u, amm'⟩
  · obtain ⟨key, htext, hread, -⟩ := failed_update_names_missing hamm hwf hpart
      (congrArg Prod.fst hrun)
    exact ⟨e, key, rfl, htext, hread⟩
  · have hpool := hwf.finds_of_update_ok hamm.calcsMade hpart hrun _ .poolState
    rw [AccountMapRef.getAccount_of_ne _ (by decide)] at hpool
    cases hpool

open Reference in
/-- An AMM that is constructed before wSOL is listed does not ask for the reserves of wSOL. -/
theorem failed_cycle_names_lst_wsol :
    ∃ e : AmmErr inf1, InfAmm.cycleResult (onChain [wsol]) (fun _ => genesis)
        (ammWith flatFeeProgramId [] HashMap.empty) 1 = .error e ∧
      toText e = keyed "MissingAcc" wsolReserves ∧ readKey (toText e) = some wsolReserves := by
  have hwf := wellFormed_wsol flatFeeProgramId [] HashMap.empty
  have hamm : Reachable Sha256Hasher (ammWith flatFeeProgramId [] HashMap.empty) := .new new_nil
  have hstuck : Stuck (ammWith flatFeeProgramId [] HashMap.empty) (onChain [wsol]) infPoolState
      infLstStateList chainPool [wsol] wsol :=
    ⟨hwf, hasSplData_wsol _, hamm.calcsMade, ownReserves_wsol, List.mem_singleton.mpr rfl,
      ⟨wsolReserves, reservesAddr_wsol, not_alwaysRequested_wsolReserves⟩, rfl,
      fun l' _ hreach => not_poolRequested_bootstrap [wsol] hreach.1⟩
  rcases hres : InfAmm.cycleResult (onChain [wsol]) (fun _ => genesis)
    (ammWith flatFeeProgramId [] HashMap.empty) 1 with e | u
  · obtain ⟨l, hl, key, htext, hread, -, hwhy⟩ := failed_cycle_names_lst hamm hwf (fun _ => genesis) hres
    obtain rfl : l = wsol := List.mem_singleton.mp hl
    -- the calculator of wSOL reads nothing
    have hkey : key = wsolReserves := by
      rcases hwhy with ⟨haddr, -⟩ | ⟨c, hc, hmem, -⟩
      · exact Option.some.inj (haddr.symm.trans reservesAddr_wsol)
      · obtain rfl : wsolSvc = c := Except.ok.inj ((initSvc_wsol _).symm.trans hc)
        cases hmem
    subst hkey
    exact ⟨e, rfl, htext, hread⟩
  · exact absurd hres (hstuck.never_recovers _ 1)

end InfJup
