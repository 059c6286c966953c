import InfJupInterface.Amm.Bootstrap
import InfJupInterface.Amm.Footprint

/-!
# What is asked for after a success

`get_accounts_to_update` and `update` go through the pool independently of each other.  After a
successful update the two agree (`asked_iff_read`): the AMM asks for what the update has just read,
apart from the Clock and from the reserves of LSTs without a calculator.

If every LST has its SPL data, this is the footprint of the snapshot that was fetched.  Hence a
sequence of cycles on changing snapshots keeps succeeding exactly as long as no snapshot needs an
account that the one before did not need (`cycles_ok_iff_footprints_shrink`): a new LST, a new LP token
mint or a new pricing account costs a failed cycle, and nothing else does.
-/

namespace InfJup

variable {T : Inf1Types} [Inf1Api T] [Inf1Spec T] [LawfulInf1 T]

/-! ### The accounts named -/

/-- What is named: the two addresses, the LP token mint, the accounts of the pricing program, and for
every stored LST with a calculator its pool reserves and the accounts of the calculator. -/
theorem InfAmm.mem_namedAccounts_iff {s : InfStd T} {poolStateId lstStateListId key : Pubkey}
    {bump : UInt8} (hpda : Inf1Api.findPoolState s = some (poolStateId, bump))
    (haddr : ∀ l : T.LstState, ∃ key, reservesAddr s.createPda poolStateId l = some key) :
    key ∈ InfAmm.namedAccounts s poolStateId lstStateListId ↔
      key = poolStateId ∨ key = lstStateListId ∨ key = Inf1Api.lpTokenMint s.pool ∨
      key ∈ Inf1Api.accountsToUpdateAll s.pricing ((InfAmm.lstStates s).map Inf1Api.mint) ∨
      ∃ l ∈ InfAmm.lstStates s, ∃ c, s.lstCalcs (Inf1Api.mint l) = some c ∧
        (reservesAddr s.createPda poolStateId l = some key ∨ key ∈ Inf1Spec.accountsToUpdateSvc c) := by
  have hlst (l : T.LstState) : key ∈ InfAmm.lstAccountsToUpdate s l ↔
      ∃ c, s.lstCalcs (Inf1Api.mint l) = some c ∧
        (reservesAddr s.createPda poolStateId l = some key ∨ key ∈ Inf1Spec.accountsToUpdateSvc c) := by
    rcases hcalc : s.lstCalcs (Inf1Api.mint l) with _ | c
    · rw [InfAmm.lstAccountsToUpdate_of_none hcalc]
      simp
    · obtain ⟨key', hkey'⟩ := haddr l
      rw [InfAmm.lstAccountsToUpdate_of_some hpda hcalc hkey', hkey']
      simp [eq_comm]
  simp only [InfAmm.namedAccounts, List.mem_append, List.mem_cons, List.not_mem_nil, or_false,
    List.mem_flatMap, hlst, or_assoc]

section Reads

variable {s : InfStd T} {poolStateId lstStateListId key : Pubkey} {bump : UInt8}

/-- What is named, an update would read. -/
theorem ReadBy.of_named (hpda : Inf1Api.findPoolState s = some (poolStateId, bump))
    (haddr : ∀ l : T.LstState, ∃ key, reservesAddr s.createPda poolStateId l = some key)
    (h : key ∈ InfAmm.namedAccounts s poolStateId lstStateListId) :
    ReadBy s poolStateId lstStateListId (InfAmm.lstStates s) key := by
  rcases (InfAmm.mem_namedAccounts_iff hpda haddr).mp h with
    rfl | rfl | rfl | hpricing | ⟨l, hl, c, hc, hreserves | hsvc⟩
  · exact .poolState
  · exact .lstStateList
  · exact .lpTokenMint
  · exact .pricing hpricing
  · exact .reserves hl hreserves
  · exact .svc hl hc hsvc

/-- What an update would read is named, or it is the reserves of an LST without a calculator. -/
theorem ReadBy.named (hpda : Inf1Api.findPoolState s = some (poolStateId, bump))
    (haddr : ∀ l : T.LstState, ∃ key, reservesAddr s.createPda poolStateId l = some key)
    (h : ReadBy s poolStateId lstStateListId (InfAmm.lstStates s) key) :
    key ∈ InfAmm.namedAccounts s poolStateId lstStateListId ∨
      ∃ l ∈ InfAmm.lstStates s, s.lstCalcs (Inf1Api.mint l) = none ∧
        reservesAddr s.createPda poolStateId l = some key := by
  rw [InfAmm.mem_namedAccounts_iff hpda haddr]
  cases h with
  | poolState => exact Or.inl (Or.inl rfl)
  | lstStateList => exact Or.inl (Or.inr (Or.inl rfl))
  | lpTokenMint => exact Or.inl (Or.inr (Or.inr (Or.inl rfl)))
  | pricing hmem => exact Or.inl (Or.inr (Or.inr (Or.inr (Or.inl hmem))))
  | @reserves l _ hl haddr' =>
    rcases hcalc : s.lstCalcs (Inf1Api.mint l) with _ | c
    · exact Or.inr ⟨l, hl, hcalc, haddr'⟩
    · exact Or.inl (Or.inr (Or.inr (Or.inr (Or.inr ⟨l, hl, c, hcalc, Or.inl haddr'⟩))))
  | @svc l c _ hl hc hmem =>
    exact Or.inl (Or.inr (Or.inr (Or.inr (Or.inr ⟨l, hl, c, hc, Or.inr hmem⟩))))

end Reads

section Asked

variable {H : Type} [StreamHash H Pubkey] [SolanaPubkey] {amm amm' : InfAmm T} {mem : Atomics}
  {accountMap snapshot : AccountMap} {poolStateId lstStateListId : Pubkey} {pool : T.VerPoolState}
  {lsts : List T.LstState}

/-- In a reachable state, the address of every pool reserves is known. -/
theorem Reachable.exists_reservesAddr (hamm : Reachable H amm) (poolStateId : Pubkey)
    (l : T.LstState) : ∃ key, reservesAddr amm.inner.createPda poolStateId l = some key := by
  obtain ⟨p, q, haddr⟩ := hamm.addresses
  rw [haddr.createPda_eq]
  exact InfJup.exists_reservesAddr H poolStateId l

end Asked

omit [Inf1Spec T] [LawfulInf1 T] in
/-- The account map of a cycle is a part of the snapshot. -/
theorem partOf_cycleMap (amm : InfAmm T) (snapshot : AccountMap) (poolStateId lstStateListId : Pubkey) :
    PartOf (amm.cycleMap snapshot poolStateId lstStateListId) snapshot := by
  intro key acc hacc
  unfold InfAmm.cycleMap at hacc
  by_cases hmem : key ∈ (InfAmm.namedAccounts amm.inner poolStateId lstStateListId).filter
    fun pk => pk ≠ sysvarClock
  · rwa [HashMap.restrict_of_mem snapshot hmem] at hacc
  · rw [HashMap.restrict_of_not_mem snapshot hmem] at hacc
    cases hacc

/-- The pricing program of a state that stores what was fetched is that of its pool. -/
theorem StoresFetched.pricingProgramId_eq {poolStateId lstStateListId : Pubkey} {fetched : UpdateMap}
    {lsts : List T.LstState} {s : InfStd T}
    (h : StoresFetched poolStateId lstStateListId fetched lsts s) :
    Inf1Spec.pricingProgramId s.pricing = Inf1Spec.pricingProgram s.pool := by
  obtain ⟨p, hp, hrun⟩ := h.pricing
  have hkept := LawfulInf1.pricingProgramId_updateAll (lsts.map Inf1Api.mint) fetched p
  rw [hrun] at hkept
  exact hkept.trans hp

omit [LawfulInf1 T] in
/-- The footprint is a matter of the fixed parts. -/
theorem InfAmm.FixedParts.footprint_eq {amm amm' : InfAmm T} (h : InfAmm.FixedParts amm amm') :
    amm'.footprint = amm.footprint := by
  funext poolStateId lstStateListId pool lsts key
  rw [InfAmm.footprint, InfAmm.footprint, h.inner.createPda, h.inner.splLsts]

namespace WellFormed

variable {amm amm' : InfAmm T} {mem : Atomics} {accountMap snapshot : AccountMap}
  {poolStateId lstStateListId : Pubkey} {pool : T.VerPoolState} {lsts : List T.LstState}

/-- A cycle succeeds exactly when it asks for the footprint. -/
theorem cycle_ok_iff (h : WellFormed amm snapshot poolStateId lstStateListId pool lsts)
    (hmade : CalcsMade amm.inner.splLsts amm.inner.lstCalcs) :
    (amm.cycle snapshot mem).1 = .ok () ↔
      ∀ key, amm.footprint poolStateId lstStateListId pool lsts key →
        amm.Requested poolStateId lstStateListId key := by
  rw [h.cycle_eq]
  constructor
  · intro hok key hkey
    exact InfAmm.requested_of_isSome (h.finds_of_update_ok hmade
      (partOf_cycleMap amm snapshot poolStateId lstStateListId) (Mutation.run_eq_of_ok hok) key hkey)
  · intro hreq
    exact h.update_ok_of_seen hmade fun key hkey => InfAmm.cycleView_of_requested (hreq key hkey)

/-- After a successful update with accounts of the snapshot, the AMM is ready for it and in step
with it. -/
theorem ready_of_update_ok (h : WellFormed amm snapshot poolStateId lstStateListId pool lsts)
    (hspl : HasSplData amm.inner.splLsts lsts) (hone : OneCalculatorPerMint lsts)
    (hmade : CalcsMade amm.inner.splLsts amm.inner.lstCalcs) (hpart : PartOf accountMap snapshot)
    (hrun : (InfAmm.update mem accountMap).run amm = (.ok (), amm')) :
    Ready amm' snapshot poolStateId lstStateListId pool lsts ∧ Synced amm'.inner pool lsts := by
  have hfixed := InfAmm.fixedParts_of_update hrun
  obtain ⟨hpool, hstores, hloop⟩ := h.storesFetched_of_update_ok hpart hrun
  constructor
  · exact ⟨h.of_fixedParts hfixed, hfixed.inner.splLsts ▸ hspl, calcsMade_of_update hmade hrun,
      hstores.decodes, current_of_tryForEach hloop (fun l hl => h.exists_initSvc hspl hl) hone⟩
  · exact ⟨hpool, hstores.decodes, hpool ▸ hstores.pricingProgramId_eq⟩

end WellFormed

namespace Ready

variable {amm : InfAmm T} {snapshot : AccountMap} {poolStateId lstStateListId : Pubkey}
  {pool : T.VerPoolState} {lsts : List T.LstState}

/-- A stored calculator has the accounts of the one that would be made. -/
theorem exists_svc (h : Ready amm snapshot poolStateId lstStateListId pool lsts) {l : T.LstState}
    (hl : l ∈ lsts) : ∃ c c₀, amm.inner.lstCalcs (Inf1Api.mint l) = some c ∧
      Inf1Spec.initSvc amm.inner.splLsts l = .ok c₀ ∧
      Inf1Spec.accountsToUpdateSvc c = Inf1Spec.accountsToUpdateSvc c₀ := by
  obtain ⟨c, hc⟩ := h.current l hl
  obtain ⟨c₀, hinit, -, haccounts⟩ := initSvc_of_calcFor_ok h.calcsMade (calcFor_of_current hc)
  exact ⟨c, c₀, hc.1, hinit, haccounts⟩

/-- An AMM that is ready for the snapshot and in step with it asks for the footprint. -/
theorem requested_iff_footprint (h : Ready amm snapshot poolStateId lstStateListId pool lsts)
    (hsynced : Synced amm.inner pool lsts)
    (haddr : ∀ l : T.LstState, ∃ key, reservesAddr amm.inner.createPda poolStateId l = some key)
    (key : Pubkey) :
    amm.Requested poolStateId lstStateListId key ↔
      key = sysvarClock ∨ amm.footprint poolStateId lstStateListId pool lsts key := by
  obtain ⟨bump, hpda⟩ := InfAmm.findPoolState_of_poolStateId h.wellFormed.poolStateId_eq
  have hlsts : InfAmm.lstStates amm.inner = lsts := by
    rw [InfAmm.lstStates_eq, h.decodes]
    rfl
  unfold InfAmm.Requested InfAmm.footprint
  rw [InfAmm.mem_namedAccounts_iff hpda haddr, hlsts, hsynced.pool_eq]
  refine or_congr_right ⟨?_, fun hkey => ?_⟩
  · rintro (rfl | rfl | rfl | hpricing | ⟨l, hl, c, hc, hreserves | hmem⟩)
    · exact .poolState
    · exact .lstStateList
    · exact .lpTokenMint
    · exact .pricing hsynced.pricing_eq hpricing
    · exact .reserves hl hreserves
    · obtain ⟨d, c₀, hd, hinit, haccounts⟩ := h.exists_svc hl
      rw [hc] at hd
      cases hd
      exact .svc hl hinit (haccounts ▸ hmem)
  · cases hkey with
    | poolState => exact Or.inl rfl
    | lstStateList => exact Or.inr (Or.inl rfl)
    | lpTokenMint => exact Or.inr (Or.inr (Or.inl rfl))
    | pricing hp hmem =>
      rw [LawfulInf1.accountsToUpdateAll_congr _ (hp.trans hsynced.pricing_eq.symm)] at hmem
      exact Or.inr (Or.inr (Or.inr (Or.inl hmem)))
    | @reserves l _ hl hreserves =>
      obtain ⟨c, -, hc, -⟩ := h.exists_svc hl
      exact Or.inr (Or.inr (Or.inr (Or.inr ⟨l, hl, c, hc, Or.inl hreserves⟩)))
    | @svc l c _ hl hinit hmem =>
      obtain ⟨d, c₀, hd, hinit', haccounts⟩ := h.exists_svc hl
      rw [hinit] at hinit'
      cases hinit'
      exact Or.inr (Or.inr (Or.inr (Or.inr ⟨l, hl, d, hd, Or.inr (haccounts.symm ▸ hmem)⟩)))

end Ready

/-! ### Cycles on changing snapshots -/

namespace InfAmm

/-- The state after a number of cycles; `snapshots k` is the chain in cycle `k`. -/
def afterCyclesOn (snapshots : ℕ → AccountMap) (mems : ℕ → Atomics) (amm : InfAmm T) : ℕ → InfAmm T
  | 0 => amm
  | k + 1 => (cycle (snapshots k) (mems k) (afterCyclesOn snapshots mems amm k)).2

/-- The result of cycle `k`, counted from zero. -/
def cycleResultOn (snapshots : ℕ → AccountMap) (mems : ℕ → Atomics) (amm : InfAmm T) (k : ℕ) :
    Except (AmmErr T) Unit :=
  (cycle (snapshots k) (mems k) (afterCyclesOn snapshots mems amm k)).1

end InfAmm

section Run

variable {H : Type} [StreamHash H Pubkey] [SolanaPubkey] {amm : InfAmm T}
  {snapshots : ℕ → AccountMap} {poolStateId lstStateListId : Pubkey} {pools : ℕ → T.VerPoolState}
  {lists : ℕ → List T.LstState}

/-- The states of a run are reachable, and have the fixed parts of the first. -/
theorem reachable_afterCyclesOn (hamm : Reachable H amm)
    (hwf : ∀ k, WellFormed amm (snapshots k) poolStateId lstStateListId (pools k) (lists k))
    (mems : ℕ → Atomics) (k : ℕ) :
    Reachable H (InfAmm.afterCyclesOn snapshots mems amm k) ∧
      InfAmm.FixedParts amm (InfAmm.afterCyclesOn snapshots mems amm k) := by
  induction k with
  | zero => exact ⟨hamm, InfAmm.FixedParts.refl amm⟩
  | succ k ih =>
    obtain ⟨hreach, hfixed⟩ := ih
    have hwf' := (hwf k).of_fixedParts hfixed
    refine ⟨?_, hfixed.trans hwf'.fixedParts_cycle⟩
    rw [InfAmm.afterCyclesOn, hwf'.cycle_eq]
    exact hreach.update rfl

/-- After a successful cycle on one snapshot, a cycle on the next one succeeds exactly when it needs
nothing new. -/
theorem cycleOn_ok_iff (hamm : Reachable H amm)
    (hwf : ∀ k, WellFormed amm (snapshots k) poolStateId lstStateListId (pools k) (lists k))
    (hspl : ∀ k, HasSplData amm.inner.splLsts (lists k)) (hone : ∀ k, OneCalculatorPerMint (lists k))
    (mems : ℕ → Atomics) {k : ℕ} (hok : InfAmm.cycleResultOn snapshots mems amm k = .ok ()) :
    InfAmm.cycleResultOn snapshots mems amm (k + 1) = .ok () ↔
      ∀ key, amm.footprint poolStateId lstStateListId (pools (k + 1)) (lists (k + 1)) key →
        key = sysvarClock ∨ amm.footprint poolStateId lstStateListId (pools k) (lists k) key := by
  obtain ⟨hreach, hfixed⟩ := reachable_afterCyclesOn hamm hwf mems k
  obtain ⟨hreach', hfixed'⟩ := reachable_afterCyclesOn hamm hwf mems (k + 1)
  have hwf' := (hwf k).of_fixedParts hfixed
  have hrun : (InfAmm.update (mems k) ((InfAmm.afterCyclesOn snapshots mems amm k).cycleMap
      (snapshots k) poolStateId lstStateListId)).run (InfAmm.afterCyclesOn snapshots mems amm k) =
        (.ok (), InfAmm.afterCyclesOn snapshots mems amm (k + 1)) := by
    rw [InfAmm.afterCyclesOn, ← hwf'.cycle_eq]
    exact Prod.ext hok rfl
  obtain ⟨hready, hsynced⟩ := hwf'.ready_of_update_ok (hfixed.inner.splLsts ▸ hspl k) (hone k)
    hreach.calcsMade (partOf_cycleMap _ _ _ _) hrun
  have hasked := hready.requested_iff_footprint hsynced (hreach'.exists_reservesAddr poolStateId)
  rw [InfAmm.cycleResultOn, ((hwf (k + 1)).of_fixedParts hfixed').cycle_ok_iff hreach'.calcsMade,
    hfixed'.footprint_eq]
  simp only [hasked, hfixed'.footprint_eq]

end Run

namespace Reference

/-- A run of the chain in which wSOL is delisted after the first cycle. -/
def delisting : ℕ → List LstState
  | 0 => [wsol]
  | _ + 1 => []

/-- The AMM after its first cycle. -/
def ammBootstrapped : InfAmm inf1 :=
  ((ammWith flatFeeProgramId [wsol] (HashMap.empty.insert wsol.mint wsolSvc)).cycle (onChain [wsol])
    genesis).2

theorem fixedParts_ammBootstrapped : InfAmm.FixedParts
    (ammWith flatFeeProgramId [wsol] (HashMap.empty.insert wsol.mint wsolSvc)) ammBootstrapped :=
  (wellFormed_wsol flatFeeProgramId [wsol]
    (HashMap.empty.insert wsol.mint wsolSvc)).fixedParts_cycle

theorem reachable_ammBootstrapped : Reachable Sha256Hasher ammBootstrapped := by
  have hwf := wellFormed_wsol flatFeeProgramId [wsol] (HashMap.empty.insert wsol.mint wsolSvc)
  unfold ammBootstrapped
  rw [hwf.cycle_eq]
  exact Reachable.update (.new new_wsol) rfl

/-- The snapshots of the run are well-formed. -/
theorem wellFormed_delisting (k : ℕ) : WellFormed ammBootstrapped (onChain (delisting k)) infPoolState
    infLstStateList chainPool (delisting k) := by
  refine WellFormed.of_fixedParts ?_ fixedParts_ammBootstrapped
  cases k with
  | zero => exact wellFormed_wsol _ _ _
  | succ k => exact wellFormed_onChain (fun l hl => by cases hl) fun l hl => by cases hl

/-- Its second cycle succeeds. -/
theorem cycle_ammBootstrapped_ok : (ammBootstrapped.cycle (onChain [wsol]) genesis).1 = .ok () := by
  have hwf := wellFormed_wsol flatFeeProgramId [wsol] (HashMap.empty.insert wsol.mint wsolSvc)
  have hstart : BootstrapState Sha256Hasher infLstStateList [wsol]
      (ammWith flatFeeProgramId [wsol] (HashMap.empty.insert wsol.mint wsolSvc)) :=
    .new (lstStatePackedListOfAccData_lstStateListData [wsol]) new_wsol
  have hready : Ready ammBootstrapped (onChain [wsol]) infPoolState infLstStateList chainPool [wsol] :=
    (hstart.ready hwf (hasSplData_wsol _) oneCalculatorPerMint_wsol).cycle oneCalculatorPerMint_wsol
  exact hready.cycle_ok (hwf.synced_of_cycle genesis)

/-- An empty list needs nothing that the list with wSOL does not. -/
theorem footprint_delisting {k : ℕ} {key : Pubkey}
    (h : ammBootstrapped.footprint infPoolState infLstStateList chainPool (delisting (k + 1)) key) :
    ammBootstrapped.footprint infPoolState infLstStateList chainPool (delisting k) key := by
  cases h with
  | poolState => exact .poolState
  | lstStateList => exact .lstStateList
  | lpTokenMint => exact .lpTokenMint
  | @pricing p _ hp hmem =>
    refine .pricing hp ?_
    have hprogram : p.programId = flatSlabProgramId := hp
    change key ∈ pricingAccounts p.programId _ at hmem ⊢
    rwa [hprogram, pricingAccounts_flatSlab] at hmem ⊢
  | reserves hl => cases hl
  | svc hl => cases hl

end Reference

end InfJup
