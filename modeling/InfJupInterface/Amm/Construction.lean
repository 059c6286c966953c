import InfJupInterface.Amm.Reachable

/-!
# Construction

`new` makes an AMM of an LST state list account.  It succeeds for the list account of a supported
program whose list decodes and names known calculators only (`new_ok_iff`); SPL data that is missing is
no reason to fail.  What it stores is then determined: the bootstrap pool, the list, and for every
listed mint the calculator that is made for its last entry on the list (`new_stores`).

The loop keeps a calculator that is there already.  As nothing has been fetched yet, this is one that
was made for an earlier entry of the same mint and program, so it is the calculator that would be made
now: on the states of the loop, `calcFor` is `initSvc` (`FreshFor.calcFor_eq`).
-/

namespace InfJup

variable {T : Inf1Types} [Inf1Api T] [Inf1Spec T]

/-! ### Fresh calculators -/

/-- Every stored calculator is as it was made for one of the entries. -/
def FreshFor (splLsts : HashMap Pubkey Pubkey) (done : List T.LstState)
    (calcs : HashMap Pubkey T.SvcAg) : Prop :=
  ∀ mint c, calcs mint = some c → ∃ l ∈ done, Inf1Api.mint l = mint ∧ Inf1Spec.initSvc splLsts l = .ok c

/-- For every mint, the calculator of its last entry is stored, if there is one. -/
def ServesLast (splLsts : HashMap Pubkey Pubkey) (done : List T.LstState)
    (calcs : HashMap Pubkey T.SvcAg) : Prop :=
  ∀ mint l c, lastEntry Inf1Api.mint done mint = some l → Inf1Spec.initSvc splLsts l = .ok c →
    calcs mint = some c

variable [LawfulInf1 T]

section Step

variable {splLsts : HashMap Pubkey Pubkey} {done : List T.LstState} {calcs : HashMap Pubkey T.SvcAg}
  {l : T.LstState} {s s' : InfStd T}

/-- Among fresh calculators, the one to use for an LST is the one that is made for it. -/
theorem FreshFor.calcFor_eq (h : FreshFor splLsts done calcs) (l : T.LstState) :
    calcFor splLsts calcs l = Inf1Spec.initSvc splLsts l := by
  by_cases hcur : ∃ c, HasCurrentCalc calcs l c
  · obtain ⟨c, hc⟩ := hcur
    obtain ⟨l', -, hmint, hinit⟩ := h _ c hc.1
    have hnamed : Inf1Spec.solValueCalculator l = Inf1Spec.solValueCalculator l' :=
      hc.2.symm.trans (LawfulInf1.initSvc_program hinit)
    rw [calcFor_of_current hc, LawfulInf1.initSvc_congr hmint.symm hnamed, hinit]
  · exact calcFor_of_not_current hcur

/-- The step of the loop passes over missing SPL data, and over no other error. -/
theorem initLstSvc_ok_iff : ((initLstSvc l).run s).1 = .ok () ↔
    ∀ e, calcFor s.splLsts s.lstCalcs l = .error e → ∃ mint, e = .missingSplData mint := by
  have hmethod := LawfulInf1.tryGetOrInitLstSvc_eq l s
  simp only [initLstSvc, Mutation.run] at hmethod ⊢
  rw [hmethod]
  rcases hcalc : calcFor s.splLsts s.lstCalcs l with e | c
  · obtain ⟨calcs', hrun, -⟩ := getOrInit_of_error hcalc
    have hrun' : Inf1Api.tryGetOrInitLstSvcStatic s.splLsts l s.lstCalcs = (.error e, calcs') := hrun
    rw [hrun']
    cases e <;> simp
  · have hrun : Inf1Api.tryGetOrInitLstSvcStatic s.splLsts l s.lstCalcs = (.ok c, _) :=
      getOrInit_of_ok hcalc
    rw [hrun]
    simp

/-- A step writes the calculators only, and makes them for its entry. -/
theorem initLstSvc_fresh (hfresh : FreshFor s.splLsts done s.lstCalcs)
    (hlast : ServesLast s.splLsts done s.lstCalcs) (h : (initLstSvc l).run s = (.ok (), s')) :
    ∃ calcs, s' = { s with lstCalcs := calcs } ∧ FreshFor s.splLsts (done ++ [l]) calcs ∧
      ServesLast s.splLsts (done ++ [l]) calcs := by
  obtain ⟨calcs, rfl, hframe, hself⟩ := initLstSvc_run h
  rw [hfresh.calcFor_eq] at hself
  refine ⟨calcs, rfl, fun mint c hc => ?_, fun mint k c hk hinit => ?_⟩
  · by_cases hmint : mint = Inf1Api.mint l
    · subst hmint
      rcases hself with ⟨d, hd, hstored⟩ | ⟨-, hsame | hnone⟩
      · rw [hc] at hstored
        cases hstored
        exact ⟨l, by simp, rfl, hd⟩
      · obtain ⟨l', hl', hmint', hinit⟩ := hfresh _ c (hsame.symm.trans hc)
        exact ⟨l', List.mem_append_left _ hl', hmint', hinit⟩
      · rw [hnone] at hc
        cases hc
    · obtain ⟨l', hl', hmint', hinit⟩ := hfresh _ c ((hframe mint hmint).symm.trans hc)
      exact ⟨l', List.mem_append_left _ hl', hmint', hinit⟩
  · by_cases hmint : mint = Inf1Api.mint l
    · subst hmint
      rw [lastEntry_append_self] at hk
      cases hk
      rcases hself with ⟨d, hd, hstored⟩ | ⟨⟨e, he⟩, -⟩
      · rw [hinit] at hd
        cases hd
        exact hstored
      · rw [hinit] at he
        cases he
    · rw [lastEntry_append_of_ne hmint] at hk
      exact (hframe mint hmint).trans (hlast mint k c hk hinit)

end Step

/-- The loop of `new`, from a state without calculators. -/
theorem tryForEach_initLstSvc_fresh {lsts : List T.LstState} {s s' : InfStd T}
    (hs : s.lstCalcs = HashMap.empty)
    (h : (Mutation.tryForEach initLstSvc lsts).run s = (.ok (), s')) :
    ∃ calcs, s' = { s with lstCalcs := calcs } ∧ FreshFor s.splLsts lsts calcs ∧
      ServesLast s.splLsts lsts calcs := by
  refine Mutation.tryForEach_prefix_invariant (I := fun done t =>
    ∃ calcs, t = { s with lstCalcs := calcs } ∧ FreshFor s.splLsts done calcs ∧
      ServesLast s.splLsts done calcs) ⟨s.lstCalcs, rfl, ?_, ?_⟩ ?_ h
  · intro mint c hc
    rw [hs] at hc
    cases hc
  · intro mint l c hl
    cases hl
  · rintro done l - t t' ⟨calcs, rfl, hfresh, hlast⟩ hrun
    obtain ⟨calcs', rfl, hfresh', hlast'⟩ := initLstSvc_fresh hfresh hlast hrun
    exact ⟨calcs', rfl, hfresh', hlast'⟩

/-- The loop gets through when every calculator is known or lacks its SPL data. -/
theorem tryForEach_initLstSvc_ok_iff {lsts : List T.LstState} {s : InfStd T}
    (hs : s.lstCalcs = HashMap.empty) :
    ((Mutation.tryForEach initLstSvc lsts).run s).1 = .ok () ↔
      ∀ l ∈ lsts, ∀ e, Inf1Spec.initSvc s.splLsts l = .error e → ∃ mint, e = .missingSplData mint := by
  let Made (t : InfStd T) : Prop := ∃ done calcs, t = { s with lstCalcs := calcs } ∧
    FreshFor s.splLsts done calcs ∧ ServesLast s.splLsts done calcs
  have hmade : Made s := ⟨[], s.lstCalcs, rfl, by simp [FreshFor, hs, HashMap.empty],
    by simp [ServesLast]⟩
  -- on these states, the step passes over what `initSvc` says is missing
  have hstep {l : T.LstState} {t : InfStd T} (ht : Made t) : ((initLstSvc l).run t).1 = .ok () ↔
      ∀ e, Inf1Spec.initSvc s.splLsts l = .error e → ∃ mint, e = .missingSplData mint := by
    obtain ⟨done, calcs, rfl, hfresh, -⟩ := ht
    rw [initLstSvc_ok_iff]
    simp only [hfresh.calcFor_eq]
  have hkeeps {l : T.LstState} {t t' : InfStd T} (ht : Made t)
      (hrun : (initLstSvc l).run t = (.ok (), t')) : Made t' := by
    obtain ⟨done, calcs, rfl, hfresh, hlast⟩ := ht
    obtain ⟨calcs', rfl, hfresh', hlast'⟩ := initLstSvc_fresh hfresh hlast hrun
    exact ⟨done ++ [l], calcs', rfl, hfresh', hlast'⟩
  constructor
  · intro hok
    refine (Mutation.tryForEach_establishes (P := Made) (Q := fun l _ =>
      ∀ e, Inf1Spec.initSvc s.splLsts l = .error e → ∃ mint, e = .missingSplData mint) hmade ?_
      (Mutation.run_eq_of_ok hok)).2
    intro l _ t t' ht hrun
    exact ⟨hkeeps ht hrun, (hstep ht).mp (congrArg Prod.fst hrun), fun _ _ hl => hl⟩
  · intro hknown
    obtain ⟨s', hrun, -⟩ := Mutation.tryForEach_run_ok (P := Made) hmade fun l hl t ht => by
      have hok := (hstep ht).mpr (hknown l hl)
      exact ⟨_, Mutation.run_eq_of_ok hok, hkeeps ht (Mutation.run_eq_of_ok hok)⟩
    rw [hrun]

/-! ### The two theorems -/

/-- **When construction succeeds.**  The program that owns the account has a bootstrap pool, which
`inf1_std` accepts; the two addresses of its pool are found, and the account is at that of the list;
the list decodes; and every LST on it has a known calculator, or lacks its SPL data. -/
theorem new_ok_iff {H : Type} [StreamHash H Pubkey] [SolanaPubkey] {keyedAccount : KeyedAccount}
    {clockRef : ClockRef} {splLsts : HashMap Pubkey Pubkey} :
    (∃ amm : InfAmm T, InfAmm.new H keyedAccount clockRef splLsts = .ok amm) ↔
      ∃ (pool : T.VerPoolState) (s : InfStd T) (pda : Pda) (bump : UInt8) (lsts : List T.LstState),
        initialPool keyedAccount.account.owner = some pool ∧
        Inf1Api.new (some keyedAccount.account.owner) pool keyedAccount.account.data none none
          HashMap.empty HashMap.empty splLsts findPda (createRawPda H) = .ok s ∧
        findPda (Inf1Spec.poolStateSeeds T) keyedAccount.account.owner = some pda ∧
        findPda (Inf1Spec.lstStateListSeeds T) keyedAccount.account.owner =
          some (keyedAccount.key, bump) ∧
        Inf1Api.lstStatePackedListOfAccData keyedAccount.account.data = some lsts ∧
        ∀ l ∈ lsts, ∀ e, Inf1Spec.initSvc splLsts l = .error e → ∃ mint, e = .missingSplData mint := by
  constructor
  · rintro ⟨amm, hnew⟩
    obtain ⟨inner, lsts, hinner, hlsts, hloop, -⟩ := InfAmm.new_eq_ok hnew
    obtain ⟨pool, pricing, pda, ⟨key, bump⟩, hpool, -, hpda, hlist, hkey, rfl⟩ :=
      newInner_eq_ok hinner
    have hs : ∃ s, Inf1Api.new (some keyedAccount.account.owner) pool keyedAccount.account.data none
        none HashMap.empty HashMap.empty splLsts findPda (createRawPda H) = .ok s := by
      rcases hs : Inf1Api.new (some keyedAccount.account.owner) pool keyedAccount.account.data none none
        HashMap.empty HashMap.empty splLsts findPda (createRawPda H) with e | s
      · simp [InfAmm.newInner, hpool, hs] at hinner
      · exact ⟨s, rfl⟩
    obtain ⟨s, hs⟩ := hs
    obtain rfl : keyedAccount.key = key := hkey
    exact ⟨pool, s, pda, bump, lsts, hpool, hs, hpda, hlist, hlsts,
      (tryForEach_initLstSvc_ok_iff rfl).mp (congrArg Prod.fst hloop)⟩
  · rintro ⟨pool, s, pda, bump, lsts, hpool, hs, hpda, hlist, hlsts, hknown⟩
    obtain ⟨pricing, -, rfl⟩ := LawfulInf1.new_eq_ok hs
    have hcacheList := LawfulInf1.findCacheLstStateList_eq (T := T) (s := ⟨keyedAccount.account.owner,
      pool, keyedAccount.account.data, none, pricing, HashMap.empty, HashMap.empty, splLsts, findPda,
      createRawPda H, none, none⟩) rfl
    dsimp only at hcacheList
    rw [hlist] at hcacheList
    have hcachePool := LawfulInf1.findCachePoolState_eq (T := T) (s := ⟨keyedAccount.account.owner,
      pool, keyedAccount.account.data, none, pricing, HashMap.empty, HashMap.empty, splLsts, findPda,
      createRawPda H, none, some (keyedAccount.key, bump)⟩) rfl
    dsimp only at hcachePool
    rw [hpda] at hcachePool
    have hinner := newInner_of_steps hpool hs hcacheList hcachePool
    exact ⟨_, InfAmm.new_of_steps hinner hlsts
      (Mutation.run_eq_of_ok ((tryForEach_initLstSvc_ok_iff rfl).mpr hknown))⟩

open Reference in
/-- No AMM is made of an account at the address of the pool state. -/
theorem new_ok_iff_poolState : ¬ ∃ amm : InfAmm inf1,
    InfAmm.new Sha256Hasher ⟨infPoolState, listAccount []⟩ ⟨0⟩ HashMap.empty = .ok amm := by
  intro hnew
  obtain ⟨pool, s, pda, bump, lsts, -, -, -, hlist, -⟩ := new_ok_iff.mp hnew
  have hkey : some (infLstStateList, (255 : UInt8)) = some (infPoolState, bump) :=
    findPda_infLstStateList.symm.trans hlist
  exact absurd (Prod.mk.inj (Option.some.inj hkey)).1 (by decide)

/-- **What construction stores.**  The AMM has the bootstrap pool of the program and the list of the
account, no supply and no reserves.  Every calculator it has was made for a listed LST; every mint has
the calculator of its last entry, if there is one for it; and if no mint is listed twice, then an LST
has a calculator exactly when there is one for it. -/
theorem new_stores {H : Type} [StreamHash H Pubkey] [SolanaPubkey] {keyedAccount : KeyedAccount}
    {clockRef : ClockRef} {splLsts : HashMap Pubkey Pubkey} {amm : InfAmm T}
    (hnew : InfAmm.new H keyedAccount clockRef splLsts = .ok amm) :
    ∃ lsts, initialPool keyedAccount.account.owner = some amm.inner.pool ∧
      amm.inner.lstStateListData = keyedAccount.account.data ∧
      Inf1Api.lstStatePackedListOfAccData keyedAccount.account.data = some lsts ∧
      amm.inner.lpTokenSupply = none ∧ amm.inner.lstReserves = HashMap.empty ∧
      FreshFor splLsts lsts amm.inner.lstCalcs ∧ ServesLast splLsts lsts amm.inner.lstCalcs ∧
      ((lsts.map Inf1Api.mint).Nodup → ∀ l ∈ lsts,
        amm.inner.lstCalcs (Inf1Api.mint l) = (Inf1Spec.initSvc splLsts l).toOption) := by
  obtain ⟨inner, lsts, hinner, hlsts, hloop, -⟩ := InfAmm.new_eq_ok hnew
  obtain ⟨pool, pricing, pda, pda', hpool, -, -, -, -, rfl⟩ := newInner_eq_ok hinner
  obtain ⟨calcs, hamm, hfresh, hlast⟩ := tryForEach_initLstSvc_fresh rfl hloop
  rw [hamm]
  refine ⟨lsts, hpool, rfl, hlsts, rfl, rfl, hfresh, hlast, fun hdistinct l hl => ?_⟩
  dsimp only at hfresh hlast ⊢
  rcases hinit : Inf1Spec.initSvc splLsts l with e | c
  · refine Option.eq_none_iff_forall_ne_some.mpr fun c hc => ?_
    obtain ⟨l', hl', hmint, hinit'⟩ := hfresh _ c hc
    obtain rfl : l' = l := List.inj_on_of_nodup_map hdistinct hl' hl hmint
    rw [hinit] at hinit'
    cases hinit'
  · exact hlast _ l c (lastEntry_of_nodup hdistinct hl) hinit

open Reference in
/-- The AMM of a pool with wSOL has its calculator. -/
theorem new_stores_wsol :
    (ammWith flatFeeProgramId [wsol] (HashMap.empty.insert wsol.mint wsolSvc)).inner.lstCalcs wsol.mint =
      some wsolSvc := by
  obtain ⟨lsts, -, -, hlsts, -, -, -, hlast, -⟩ := new_stores new_wsol
  obtain rfl : [wsol] = lsts :=
    Option.some.inj ((lstStatePackedListOfAccData_lstStateListData [wsol]).symm.trans hlsts)
  exact hlast wsol.mint wsol wsolSvc (lastEntry_append_self _ [] wsol) (initSvc_wsol _)

end InfJup
