import InfJupInterface.Amm.Bootstrap
import InfJupInterface.Control.Progress

/-!
# Recovery after on-chain changes

Cycles on an unchanged snapshot, from any reachable state.  The first cycle fetches the pool and the
list of the snapshot, so every later cycle enters its loop.  From then on:

* a failure at the calculator of an LST makes the LST current, and costs one cycle
  (`Covered.cycle_failed`);
* a failure at the reserves of an LST is for good.  The reserves of an LST without a calculator are
  not asked for, and the update reads them before it would make the calculator (`Stuck.cycle`).

`Recoverable` says which of the two it is, in terms of the state before the first cycle.
-/

namespace InfJup

variable {T : Inf1Types} [Inf1Api T] [Inf1Spec T]

/-- The account is asked for by every state that is in step with the snapshot, whatever its
calculators. -/
def AlwaysRequested (poolStateId lstStateListId : Pubkey) (pool : T.VerPoolState)
    (lsts : List T.LstState) (key : Pubkey) : Prop :=
  key = sysvarClock ∨ key = poolStateId ∨ key = lstStateListId ∨ key = Inf1Api.lpTokenMint pool ∨
    ∃ p : T.PricingAg, Inf1Spec.pricingProgramId p = Inf1Spec.pricingProgram pool ∧
      key ∈ Inf1Api.accountsToUpdateAll p (lsts.map Inf1Api.mint)

/-- The next cycle gets past the reserves of the LST: it has at hand what the pool as a whole needs,
what the LSTs before it on the list need, and its reserves. -/
def ReachesCalc (amm : InfAmm T) (poolStateId lstStateListId : Pubkey) (pool : T.VerPoolState)
    (lsts : List T.LstState) (l : T.LstState) : Prop :=
  PoolRequested amm poolStateId lstStateListId pool lsts ∧
    ∃ before after, lsts = before ++ l :: after ∧ ReservesRequested amm poolStateId lstStateListId l ∧
      ∀ l' ∈ before, ReservesRequested amm poolStateId lstStateListId l' ∧
        SvcRequested amm poolStateId lstStateListId l'

/-- For every listed LST, the reserves are asked for in any case, or the mint has some calculator
before the first cycle, or the first cycle gets past the reserves of the mint. -/
def Recoverable (amm : InfAmm T) (poolStateId lstStateListId : Pubkey) (pool : T.VerPoolState)
    (lsts : List T.LstState) : Prop :=
  ∀ l ∈ lsts,
    (∀ key, reservesAddr amm.inner.createPda poolStateId l = some key →
      AlwaysRequested poolStateId lstStateListId pool lsts key) ∨
    (∃ c, amm.inner.lstCalcs (Inf1Api.mint l) = some c) ∨
    ∃ l', Inf1Api.mint l' = Inf1Api.mint l ∧
      ReachesCalc amm poolStateId lstStateListId pool lsts l'

/-- Addresses do not coincide: the listed LSTs share their reserves exactly when they share their
mint, and no calculator reads the reserves of an LST. -/
def OwnReserves (createPda : CreatePda) (splLsts : HashMap Pubkey Pubkey) (poolStateId : Pubkey)
    (lsts : List T.LstState) : Prop :=
  ∀ l ∈ lsts, ∀ key, reservesAddr createPda poolStateId l = some key →
    (∀ l' ∈ lsts, reservesAddr createPda poolStateId l' = some key ↔
      Inf1Api.mint l' = Inf1Api.mint l) ∧
    ∀ (l' : T.LstState) (c : T.SvcAg), Inf1Spec.initSvc splLsts l' = .ok c →
      key ∉ Inf1Spec.accountsToUpdateSvc c

variable [LawfulInf1 T]

/-! ### What is asked for -/

section Requested

variable {amm : InfAmm T} {poolStateId lstStateListId : Pubkey} {pool : T.VerPoolState}
  {lsts : List T.LstState}

omit [LawfulInf1 T] in
/-- A state that asks for what the pool needs as a whole asks for what is always asked for. -/
theorem AlwaysRequested.requested {key : Pubkey}
    (h : AlwaysRequested poolStateId lstStateListId pool lsts key)
    (hwhole : PoolRequested amm poolStateId lstStateListId pool lsts) :
    amm.Requested poolStateId lstStateListId key := by
  rcases h with rfl | rfl | rfl | rfl | ⟨p, hp, hkey⟩
  · exact Or.inl rfl
  · exact amm.requested_poolStateId key lstStateListId
  · exact amm.requested_lstStateListId poolStateId key
  · exact hwhole.1
  · exact hwhole.2 p hp key hkey

/-- Apart from that, a state in step with the snapshot asks for the reserves of the LSTs that have a
calculator, and for the accounts of the calculators. -/
theorem InfAmm.Requested.cases {key : Pubkey} (h : amm.Requested poolStateId lstStateListId key)
    (hpool : amm.poolStateId = .ok poolStateId) (hsynced : Synced amm.inner pool lsts)
    (haddr : ∀ l ∈ lsts, ∃ key, reservesAddr amm.inner.createPda poolStateId l = some key) :
    AlwaysRequested poolStateId lstStateListId pool lsts key ∨
      ∃ l ∈ lsts, ∃ c, amm.inner.lstCalcs (Inf1Api.mint l) = some c ∧
        (reservesAddr amm.inner.createPda poolStateId l = some key ∨
          key ∈ Inf1Spec.accountsToUpdateSvc c) := by
  obtain ⟨bump, hpda⟩ := InfAmm.findPoolState_of_poolStateId hpool
  have hlsts : InfAmm.lstStates amm.inner = lsts := by
    rw [InfAmm.lstStates_eq, hsynced.decodes]
    rfl
  rcases h with hclock | hnamed
  · exact Or.inl (Or.inl hclock)
  rw [InfAmm.namedAccounts, hlsts, hsynced.pool_eq] at hnamed
  rcases List.mem_append.mp hnamed with hnamed | hlst
  · refine Or.inl (Or.inr ?_)
    rcases List.mem_append.mp hnamed with hnamed | hpricing
    · simp only [List.mem_cons, List.not_mem_nil, or_false] at hnamed
      rcases hnamed with rfl | rfl | rfl
      · exact Or.inl rfl
      · exact Or.inr (Or.inl rfl)
      · exact Or.inr (Or.inr (Or.inl rfl))
    · exact Or.inr (Or.inr (Or.inr ⟨amm.inner.pricing, hsynced.pricing_eq, hpricing⟩))
  · right
    obtain ⟨l, hl, hkey⟩ := List.mem_flatMap.mp hlst
    obtain ⟨key', hkey'⟩ := haddr l hl
    rcases hc : amm.inner.lstCalcs (Inf1Api.mint l) with _ | c
    · rw [InfAmm.lstAccountsToUpdate_of_none hc] at hkey
      cases hkey
    · rw [InfAmm.lstAccountsToUpdate_of_some hpda hc hkey'] at hkey
      rcases List.mem_cons.mp hkey with rfl | hkey
      · exact ⟨l, hl, c, hc, Or.inl hkey'⟩
      · exact ⟨l, hl, c, hc, Or.inr hkey⟩

end Requested

/-! ### Recovery -/

/-- A state in step with the snapshot that asks for the reserves of every listed LST, now and in every
later cycle. -/
structure Covered (amm : InfAmm T) (snapshot : AccountMap) (poolStateId lstStateListId : Pubkey)
    (pool : T.VerPoolState) (lsts : List T.LstState) : Prop where
  wellFormed : WellFormed amm snapshot poolStateId lstStateListId pool lsts
  hasSplData : HasSplData amm.inner.splLsts lsts
  calcsMade : CalcsMade amm.inner.splLsts amm.inner.lstCalcs
  synced : Synced amm.inner pool lsts
  covered : ∀ l ∈ lsts,
    (∀ key, reservesAddr amm.inner.createPda poolStateId l = some key →
      AlwaysRequested poolStateId lstStateListId pool lsts key) ∨
    ∃ c, amm.inner.lstCalcs (Inf1Api.mint l) = some c

section Recovery

variable {amm : InfAmm T} {snapshot : AccountMap} {poolStateId lstStateListId : Pubkey}
  {pool : T.VerPoolState} {lsts : List T.LstState} {mem : Atomics} {l : T.LstState}

/-- A cycle that gets past the reserves of an LST leaves it a calculator. -/
theorem ReachesCalc.cycle
    (hreach : ReachesCalc amm poolStateId lstStateListId pool lsts l)
    (h : WellFormed amm snapshot poolStateId lstStateListId pool lsts)
    (hspl : HasSplData amm.inner.splLsts lsts)
    (hmade : CalcsMade amm.inner.splLsts amm.inner.lstCalcs) :
    ∃ c, (amm.cycle snapshot mem).2.inner.lstCalcs (Inf1Api.mint l) = some c := by
  obtain ⟨hwhole, before, after, hsplit, hreserves, hbefore⟩ := hreach
  obtain ⟨s, henter⟩ := h.entersLoop_of_requested mem hwhole
  have hmaps := (h.cycle_of_loop henter rfl).2
  have hmem : ∀ x ∈ before ++ l :: after, x ∈ lsts := fun x hx => hsplit ▸ hx
  have hmaps := (h.cycle_of_loop henter rfl).2
  have hloop : CalcsMade amm.inner.splLsts (amm.cycle snapshot mem).2.inner.lstMaps.lstCalcs ∧
      ∃ c, (amm.cycle snapshot mem).2.inner.lstMaps.lstCalcs (Inf1Api.mint l) = some c := by
    rw [hmaps, hsplit]
    refine Mutation.tryForEach_passes
      (P := fun m : LstMaps T => CalcsMade amm.inner.splLsts m.lstCalcs)
      (Q := fun m : LstMaps T => CalcsMade amm.inner.splLsts m.lstCalcs ∧
        ∃ c, m.lstCalcs (Inf1Api.mint l) = some c) hmade ?_ ?_ ?_
    · intro x hx m hm
      have hok := (h.cycleStep hspl mem (hmem x (by simp [hx])) hm).eq_ok_iff.mpr (hbefore x hx)
      exact ⟨_, Mutation.run_eq_of_ok hok, calcsMade_of_lstStep hm rfl⟩
    · intro m hm
      obtain ⟨c, hc, -⟩ := (h.cycleStep hspl mem (hmem l (by simp)) hm).makesCurrent hreserves
      exact ⟨calcsMade_of_lstStep hm rfl, c, hc⟩
    · intro x hx m hm
      exact ⟨calcsMade_of_lstStep hm.1 rfl,
        (h.cycleStep hspl mem (hmem x (by simp [hx])) hm.1).keepsCalc hm.2⟩
  exact hloop.2

/-- The first cycle from a recoverable state covers all reserves. -/
theorem covered_of_recoverable
    (h : WellFormed amm snapshot poolStateId lstStateListId pool lsts) (mem : Atomics)
    (hspl : HasSplData amm.inner.splLsts lsts)
    (hmade : CalcsMade amm.inner.splLsts amm.inner.lstCalcs)
    (hrec : Recoverable amm poolStateId lstStateListId pool lsts) :
    Covered (amm.cycle snapshot mem).2 snapshot poolStateId lstStateListId pool lsts := by
  have hfixed : InfAmm.FixedParts amm (amm.cycle snapshot mem).2 := h.fixedParts_cycle
  refine ⟨h.of_fixedParts hfixed, hfixed.inner.splLsts ▸ hspl, h.calcsMade_cycle mem hmade,
    h.synced_of_cycle mem, fun l hl => ?_⟩
  rcases hrec l hl with halways | hcalc | ⟨l', hmint, hreach⟩
  · left
    rwa [← hfixed.inner.createPda]
  · right
    exact h.cycle_preserves hspl hmade (P := fun m => ∃ c, m.lstCalcs (Inf1Api.mint l) = some c)
      hcalc fun l' _ m res m' hm hstep => hstep.keepsCalc hm
  · right
    rw [← hmint]
    exact hreach.cycle h hspl hmade

namespace Covered

/-- The reserves of every listed LST are asked for. -/
theorem reservesRequested (h : Covered amm snapshot poolStateId lstStateListId pool lsts)
    (hl : l ∈ lsts) : ReservesRequested amm poolStateId lstStateListId l := by
  rcases h.covered l hl with halways | ⟨c, hc⟩
  · exact fun key hkey => (halways key hkey).requested h.synced.poolRequested
  · exact (h.wellFormed.requested_of_stored h.synced.decodes hl hc).1

/-- Every later cycle covers all reserves as well. -/
theorem cycle (h : Covered amm snapshot poolStateId lstStateListId pool lsts) :
    Covered (amm.cycle snapshot mem).2 snapshot poolStateId lstStateListId pool lsts := by
  refine covered_of_recoverable h.wellFormed mem h.hasSplData h.calcsMade fun l hl => ?_
  rcases h.covered l hl with halways | hcalc
  · exact Or.inl halways
  · exact Or.inr (Or.inl hcalc)

/-- A cycle that fails makes one more LST current. -/
theorem cycle_failed (h : Covered amm snapshot poolStateId lstStateListId pool lsts)
    (hfail : (amm.cycle snapshot mem).1 ≠ .ok ()) :
    ∃ l ∈ lsts, ¬ CurrentAt amm.inner.lstMaps l ∧
      CurrentAt (amm.cycle snapshot mem).2.inner.lstMaps l := by
  obtain ⟨s, henter⟩ := h.wellFormed.entersLoop_of_requested mem h.synced.poolRequested
  rcases hloop : (Mutation.tryForEach (amm.lstStep mem
    (amm.cycleMap snapshot poolStateId lstStateListId) poolStateId) lsts).run amm.inner.lstMaps with
    ⟨e | u, m⟩
  · obtain ⟨-, hmaps⟩ := h.wellFormed.cycle_of_loop henter hloop
    obtain ⟨l, hl, t, hmade, hstop⟩ := Mutation.exists_failing_step_of_preserves
      (f := amm.lstStep mem (amm.cycleMap snapshot poolStateId lstStateListId) poolStateId)
      (P := fun m : LstMaps T => CalcsMade amm.inner.splLsts m.lstCalcs) h.calcsMade
      (fun x _ m hm => calcsMade_of_lstStep hm rfl) hloop
    have hstep := h.wellFormed.cycleStep h.hasSplData mem hl hmade
    rw [hstop] at hstep
    refine ⟨l, hl, fun hcur => ?_, ?_⟩
    · have hok := hstep.eq_ok_iff.mpr
        (h.wellFormed.requested_of_current h.synced.decodes h.calcsMade hl hcur)
      cases hok
    · rw [hmaps]
      exact hstep.makesCurrent (h.reservesRequested hl)
  · exact absurd (h.wellFormed.cycle_of_loop henter hloop).1 hfail

/-- All later cycles cover all reserves. -/
theorem afterCycles (h : Covered amm snapshot poolStateId lstStateListId pool lsts)
    (mems : ℕ → Atomics) (k : ℕ) :
    Covered (InfAmm.afterCycles snapshot mems amm k) snapshot poolStateId lstStateListId pool lsts := by
  induction k with
  | zero => exact h
  | succ k ih => exact ih.cycle

open Classical in
/-- The number of listed LSTs that are not current goes down with every cycle that fails, so that at
most as many cycles fail as there are LSTs. -/
theorem recovers (h : Covered amm snapshot poolStateId lstStateListId pool lsts)
    (hone : OneCalculatorPerMint lsts) (mems : ℕ → Atomics) :
    ∃ k ≤ lsts.length, InfAmm.cycleResult snapshot mems amm k = .ok () := by
  let behind (k : ℕ) (l : T.LstState) : Bool :=
    ¬ CurrentAt (InfAmm.afterCycles snapshot mems amm k).inner.lstMaps l
  have hrank : ∀ k, ¬ InfAmm.cycleResult snapshot mems amm k = .ok () →
      lsts.countP (behind (k + 1)) < lsts.countP (behind k) := by
    intro k hfail
    have hk := h.afterCycles mems k
    obtain ⟨l, hl, hbefore, hafter⟩ := hk.cycle_failed hfail
    refine countP_lt_countP (y := l) (fun x hx => ?_) hl ?_ ?_
    · have hkeeps (hcur : CurrentAt (InfAmm.afterCycles snapshot mems amm k).inner.lstMaps x) :
          CurrentAt (InfAmm.afterCycles snapshot mems amm (k + 1)).inner.lstMaps x :=
        hk.wellFormed.cycle_preserves hk.hasSplData hk.calcsMade (P := fun m => CurrentAt m x) hcur
          fun y hy m res m' hm hstep => hstep.keepsCurrent hone hy hx hm
      simpa [behind] using fun hnot hcur => hnot (hkeeps hcur)
    · exact decide_eq_false (not_not.mpr hafter)
    · exact decide_eq_true hbefore
  obtain ⟨k, hk, hok⟩ := @exists_le_of_rank_lt
    (fun k => InfAmm.cycleResult snapshot mems amm k = .ok ()) (fun k => lsts.countP (behind k)) hrank
  exact ⟨k, hk.trans List.countP_le_length, hok⟩

end Covered

end Recovery

/-! ### Failing for good -/

section Stuck

variable {amm : InfAmm T} {snapshot : AccountMap} {poolStateId lstStateListId : Pubkey}
  {pool : T.VerPoolState} {lsts : List T.LstState} {mem : Atomics} {l : T.LstState}

/-- The LSTs that a cycle has gone through had all that they need asked for. -/
theorem WellFormed.requested_of_loop_ok
    (h : WellFormed amm snapshot poolStateId lstStateListId pool lsts)
    (hspl : HasSplData amm.inner.splLsts lsts) {done : List T.LstState} (hdone : ∀ x ∈ done, x ∈ lsts)
    {m m' : LstMaps T} (hm : CalcsMade amm.inner.splLsts m.lstCalcs)
    (hrun : (Mutation.tryForEach (amm.lstStep mem (amm.cycleMap snapshot poolStateId lstStateListId)
      poolStateId) done).run m = (.ok (), m')) :
    CalcsMade amm.inner.splLsts m'.lstCalcs ∧ ∀ x ∈ done,
      ReservesRequested amm poolStateId lstStateListId x ∧
        SvcRequested amm poolStateId lstStateListId x := by
  refine Mutation.tryForEach_establishes
    (P := fun m : LstMaps T => CalcsMade amm.inner.splLsts m.lstCalcs)
    (Q := fun x _ => ReservesRequested amm poolStateId lstStateListId x ∧
      SvcRequested amm poolStateId lstStateListId x) hm ?_ hrun
  intro x hx t t' ht hstep
  have hcycle := h.cycleStep hspl mem (hdone x hx) ht
  rw [hstep] at hcycle
  exact ⟨calcsMade_of_lstStep ht hstep, hcycle.eq_ok_iff.mp rfl, fun y _ hy => hy⟩

/-- A listed mint has no calculator, its reserves are not asked for in any case, and the next cycle
does not get past them. -/
structure Stuck (amm : InfAmm T) (snapshot : AccountMap) (poolStateId lstStateListId : Pubkey)
    (pool : T.VerPoolState) (lsts : List T.LstState) (l : T.LstState) : Prop where
  wellFormed : WellFormed amm snapshot poolStateId lstStateListId pool lsts
  hasSplData : HasSplData amm.inner.splLsts lsts
  calcsMade : CalcsMade amm.inner.splLsts amm.inner.lstCalcs
  ownReserves : OwnReserves amm.inner.createPda amm.inner.splLsts poolStateId lsts
  listed : l ∈ lsts
  never : ∃ key, reservesAddr amm.inner.createPda poolStateId l = some key ∧
    ¬ AlwaysRequested poolStateId lstStateListId pool lsts key
  noCalc : amm.inner.lstCalcs (Inf1Api.mint l) = none
  noReach : ∀ l', Inf1Api.mint l' = Inf1Api.mint l →
    ¬ ReachesCalc amm poolStateId lstStateListId pool lsts l'

/-- The cycle fails, and the mint still has no calculator. -/
theorem Stuck.cycle_failed (h : Stuck amm snapshot poolStateId lstStateListId pool lsts l) :
    (amm.cycle snapshot mem).1 ≠ .ok () ∧
      (amm.cycle snapshot mem).2.inner.lstCalcs (Inf1Api.mint l) = none := by
  rcases InfAmm.stopsBeforeLoop_or_entersLoop amm mem
    (amm.cycleMap snapshot poolStateId lstStateListId) with hstop | ⟨p, q, lsts', s, henter⟩
  · obtain ⟨⟨e, he⟩, hmaps⟩ := h.wellFormed.cycle_of_stopsBeforeLoop hstop
    have hcalcs := congrArg LstMaps.lstCalcs hmaps
    exact ⟨by rw [he]; exact nofun, (congrFun hcalcs _).trans h.noCalc⟩
  obtain ⟨rfl, rfl, rfl⟩ := h.wellFormed.entersLoop_unique henter
  have hwhole := h.wellFormed.poolRequested henter
  rcases hloop : (Mutation.tryForEach (amm.lstStep mem (amm.cycleMap snapshot p q) p) lsts').run
    amm.inner.lstMaps with ⟨e | u, m⟩
  · obtain ⟨hres, hmaps⟩ := h.wellFormed.cycle_of_loop henter hloop
    refine ⟨by rw [hres]; exact nofun, ?_⟩
    obtain ⟨k, hk, t, hpre, hfail⟩ := Mutation.exists_failing_step hloop
    have hbefore : ∀ x ∈ lsts'.take k, x ∈ lsts' := fun x hx => List.mem_of_mem_take hx
    obtain ⟨hmade, hdone⟩ := h.wellFormed.requested_of_loop_ok h.hasSplData hbefore h.calcsMade hpre
    have hsplit : lsts' = lsts'.take k ++ lsts'[k] :: lsts'.drop (k + 1) := by
      rw [List.getElem_cons_drop, List.take_append_drop]
    -- no entry of the mint comes before the failing one, or its reserves would have been reached
    have hnot : Inf1Api.mint l ∉ (lsts'.take k).map Inf1Api.mint := by
      intro hmem
      obtain ⟨x, hx, hmint⟩ := List.mem_map.mp hmem
      obtain ⟨before, after, hbeforeAfter⟩ := List.append_of_mem hx
      refine h.noReach x hmint ⟨hwhole, before, after ++ lsts'[k] :: lsts'.drop (k + 1), ?_,
        (hdone x hx).1, fun y hy => hdone y (by rw [hbeforeAfter]; simp [hy])⟩
      rw [← List.cons_append, ← List.append_assoc, ← hbeforeAfter]
      exact hsplit
    have hnone : t.lstCalcs (Inf1Api.mint l) = none :=
      (tryForEach_updateLst_frame hpre hnot).1.trans h.noCalc
    have hstep := h.wellFormed.cycleStep h.hasSplData mem (List.getElem_mem hk) hmade
    rw [hfail] at hstep
    change (amm.cycle snapshot mem).2.inner.lstMaps.lstCalcs (Inf1Api.mint l) = none
    rw [hmaps]
    by_cases hmint : Inf1Api.mint l = Inf1Api.mint lsts'[k]
    · cases hstep with
      | noReserves _ hcalcs => rw [hcalcs, hnone]
      | reserves hreserves _ _ _ =>
        exact absurd ⟨hwhole, _, _, hsplit, hreserves, hdone⟩ (h.noReach _ hmint.symm)
    · rw [hstep.frame hmint, hnone]
  · obtain ⟨before, after, hsplit⟩ := List.append_of_mem h.listed
    obtain ⟨-, hdone⟩ := h.wellFormed.requested_of_loop_ok h.hasSplData (fun x hx => hx) h.calcsMade
      hloop
    refine absurd ⟨hwhole, before, after, hsplit, (hdone l h.listed).1, fun x hx => ?_⟩
      (h.noReach l rfl)
    exact hdone x (by rw [hsplit]; simp [hx])

/-- If addresses do not coincide, then a mint without a calculator whose reserves are not asked for in
any case is stuck once the AMM is in step with the snapshot. -/
theorem noReach_of_synced (h : WellFormed amm snapshot poolStateId lstStateListId pool lsts)
    (hmade : CalcsMade amm.inner.splLsts amm.inner.lstCalcs) (hsynced : Synced amm.inner pool lsts)
    (hown : OwnReserves amm.inner.createPda amm.inner.splLsts poolStateId lsts) (hl : l ∈ lsts)
    {key : Pubkey} (hkey : reservesAddr amm.inner.createPda poolStateId l = some key)
    (hnever : ¬ AlwaysRequested poolStateId lstStateListId pool lsts key)
    (hnone : amm.inner.lstCalcs (Inf1Api.mint l) = none) :
    ∀ l', Inf1Api.mint l' = Inf1Api.mint l →
      ¬ ReachesCalc amm poolStateId lstStateListId pool lsts l' := by
  obtain ⟨hshared, hread⟩ := hown l hl key hkey
  rintro l' hmint ⟨-, before, after, hsplit, hreserves, -⟩
  have hl' : l' ∈ lsts := by simp [hsplit]
  have hrequested := hreserves key ((hshared l' hl').mpr hmint)
  rcases hrequested.cases h.poolStateId_eq hsynced fun x hx => h.exists_reservesAddr hx with
    halways | ⟨x, hx, c, hc, haddr | hsvc⟩
  · exact hnever halways
  · rw [(hshared x hx).mp haddr, hnone] at hc
    cases hc
  · obtain ⟨k, c₀, -, hinit, -, haccounts⟩ := hmade _ _ hc
    exact hread k c₀ hinit (haccounts ▸ hsvc)

/-- The state after the cycle is stuck as well. -/
theorem Stuck.cycle (h : Stuck amm snapshot poolStateId lstStateListId pool lsts l) :
    Stuck (amm.cycle snapshot mem).2 snapshot poolStateId lstStateListId pool lsts l := by
  have hfixed : InfAmm.FixedParts amm (amm.cycle snapshot mem).2 := h.wellFormed.fixedParts_cycle
  have hwf := h.wellFormed.of_fixedParts hfixed
  have hmade := h.wellFormed.calcsMade_cycle mem h.calcsMade
  have hown := h.ownReserves
  rw [hfixed.inner.createPda, hfixed.inner.splLsts] at hown
  obtain ⟨key, hkey, hnever⟩ := h.never
  rw [hfixed.inner.createPda] at hkey
  exact ⟨hwf, hfixed.inner.splLsts ▸ h.hasSplData, hmade, hown, h.listed, ⟨key, hkey, hnever⟩,
    h.cycle_failed.2, noReach_of_synced hwf hmade (h.wellFormed.synced_of_cycle mem) hown h.listed hkey hnever
      h.cycle_failed.2⟩

/-- Every cycle fails. -/
theorem Stuck.never_recovers (h : Stuck amm snapshot poolStateId lstStateListId pool lsts l)
    (mems : ℕ → Atomics) (k : ℕ) : InfAmm.cycleResult snapshot mems amm k ≠ .ok () := by
  have hstuck : ∀ k, Stuck (InfAmm.afterCycles snapshot mems amm k) snapshot poolStateId lstStateListId
      pool lsts l := by
    intro k
    induction k with
    | zero => exact h
    | succ k ih => exact ih.cycle
  exact (hstuck k).cycle_failed.1

end Stuck

/-! ### The pool on chain -/

namespace Reference

/-- The reserves of wSOL are not asked for without its calculator. -/
theorem not_alwaysRequested_wsolReserves :
    ¬ AlwaysRequested (T := inf1) infPoolState infLstStateList chainPool [wsol] wsolReserves := by
  rintro (h | h | h | h | ⟨p, hp, hmem⟩)
  · exact absurd h (by decide)
  · exact absurd h (by decide)
  · exact absurd h (by decide)
  · exact absurd h (by decide)
  · have hprogram : p.programId = flatSlabProgramId := hp
    change wsolReserves ∈ pricingAccounts p.programId _ at hmem
    rw [hprogram, pricingAccounts_flatSlab] at hmem
    exact absurd hmem (by decide)

/-- The bootstrap pool does not ask for the slab. -/
theorem not_poolRequested_bootstrap (lsts : List LstState) :
    ¬ PoolRequested (ammWith flatFeeProgramId [] HashMap.empty) infPoolState infLstStateList chainPool
      lsts := by
  rintro ⟨-, hpricing⟩
  have hslab := hpricing ⟨flatSlabProgramId, HashMap.empty⟩ rfl slab (by
    change slab ∈ pricingAccounts flatSlabProgramId _
    rw [pricingAccounts_flatSlab]
    exact List.mem_singleton.mpr rfl)
  rcases hslab with h | h
  · exact absurd h (by decide)
  · rw [InfAmm.namedAccounts, lstStates_ammWith] at h
    change slab ∈ [infPoolState, infLstStateList, infMintAddr] ++
      pricingAccounts flatFeeProgramId [] ++ [] at h
    rw [pricingAccounts, if_pos rfl] at h
    exact absurd h (by decide)

/-- Without SPL data, no calculator reads the reserves of wSOL. -/
theorem ownReserves_wsol :
    OwnReserves (T := inf1) (createRawPda Sha256Hasher) HashMap.empty infPoolState [wsol] := by
  intro l hl key hkey
  rw [List.mem_singleton.mp hl] at hkey ⊢
  obtain rfl : wsolReserves = key := Option.some.inj (reservesAddr_wsol.symm.trans hkey)
  refine ⟨fun l' hl' => ?_, fun l' c hc hmem => ?_⟩
  · rw [List.mem_singleton.mp hl']
    exact ⟨fun _ => rfl, fun _ => reservesAddr_wsol⟩
  · have hc' : initSvc HashMap.empty l' = .ok c := hc
    have hmem' : wsolReserves ∈ c.accounts := hmem
    unfold initSvc at hc'
    split_ifs at hc'
    · cases hc'
      cases hmem'
    · cases hc'
      exact absurd hmem' (by decide)
    · cases hc'
      exact absurd hmem' (by decide)
    · cases hc'

end Reference

/-! ### The theorem -/

end InfJup
