import InfJupInterface.Amm.Cycle

/-!
# The identity of an AMM

An AMM stands for one pool of one controller program.  Which pool that is, `new` decides, and no
update changes it: over any run of updates, successful or not, the program, the label, the key, the
clock handle and the SPL data stay as they were (`identity_of_run`).

The three `expect`s of the AMM are about the identity: the two addresses are cached, and the program
has a label.  They never fail, so that an update fails in an error of `inf1_std`, or because the list
does not decode, and in nothing else.

The clock handle is the only clock an AMM knows.  What other clocks are shared, or what stands at
`SYSVAR_CLOCK` in an account map, makes no difference to a run (`run_depends_on_own_clock`).
-/

namespace InfJup

variable {T : Inf1Types} [Inf1Api T]

/-! ### The errors of an update -/

/-- The errors that an update returns: those of its steps, and that of the list it has fetched. -/
def UpdateFails (lstStateListId : Pubkey) (e : AmmErr T) : Prop :=
  (∃ e', e = .update e') ∨ e = .inf (.accDeser lstStateListId)

/-- The part before the loop. -/
theorem updateWholePool_fails (lstStateListId : Pubkey) (fetched : UpdateMap) :
    Mutation.FailsIn (updateWholePool (T := T) lstStateListId fetched)
      (UpdateFails lstStateListId) := by
  have hupdate {σ α : Type} (m : Mutation σ (UpdateErr (InfErr T)) α) :
      Mutation.FailsIn (Mutation.mapErr AmmErr.update m) (UpdateFails lstStateListId) :=
    Mutation.failsIn_mapErr m fun e => Or.inl ⟨e, rfl⟩
  unfold updateWholePool
  refine (hupdate _).bind fun _ => (hupdate _).bind fun _ => (hupdate _).bind fun _ =>
    Mutation.failsIn_read.bind fun inner => (Mutation.failsIn_ofExcept fun e he => ?_).bind fun _ =>
      (Mutation.FailsIn.zoom ?_).bind fun _ => Mutation.failsIn_pure _
  · split at he
    · cases he
    · cases he
      exact Or.inr rfl
  · exact Mutation.failsIn_mapErr _ fun e => Or.inl ⟨_, rfl⟩

/-- An update of the state of `inf1_std`. -/
theorem updateInner_fails (poolStateId lstStateListId : Pubkey) (fetched : UpdateMap) :
    Mutation.FailsIn (updateInner (T := T) poolStateId lstStateListId fetched)
      (UpdateFails lstStateListId) := by
  refine (updateWholePool_fails lstStateListId fetched).bind fun lsts =>
    Mutation.failsIn_read.bind fun inner => Mutation.FailsIn.zoom ?_
  exact Mutation.failsIn_mapErr _ fun e => Or.inl ⟨e, rfl⟩

/-- An update of an AMM whose addresses are at hand. -/
theorem InfAmm.update_fails {amm : InfAmm T} {poolStateId lstStateListId : Pubkey}
    (hpool : amm.poolStateId = .ok poolStateId) (hlist : amm.lstStateListId = .ok lstStateListId)
    {mem : Atomics} {accountMap : AccountMap} {e : AmmErr T}
    (h : ((InfAmm.update mem accountMap).run amm).1 = .error e) : UpdateFails lstStateListId e := by
  rw [InfAmm.update, Mutation.run_bind_of_ok (Mutation.run_read amm), hpool,
    Mutation.run_bind_of_ok (Mutation.run_ofExcept _ _), hlist,
    Mutation.run_bind_of_ok (Mutation.run_ofExcept _ _)] at h
  exact (updateInner_fails poolStateId lstStateListId _).zoom amm e h

/-! ### The program -/

omit [Inf1Api T] in
/-- The label of a program is that of the table. -/
theorem InfAmm.label_of_mem {amm : InfAmm T} {label : String}
    (h : (amm.programId, label) ∈ InfAmm.programIdToLabels) : amm.label = .ok label := by
  have hne : infProgramId ≠ reserveV2ProgramId := by decide
  unfold InfAmm.programIdToLabels at h
  rw [InfAmm.label, InfAmm.programIdToLabels]
  rcases List.mem_pair.mp h with heq | heq
  · obtain ⟨hprogram, rfl⟩ := Prod.mk.inj heq
    rw [hprogram, List.find?_cons_of_pos (by simp)]
  · obtain ⟨hprogram, rfl⟩ := Prod.mk.inj heq
    rw [hprogram, List.find?_cons_of_neg (by simpa using hne), List.find?_cons_of_pos (by simp)]

/-- A program with a bootstrap pool has a label. -/
theorem exists_label_of_initialPool {programId : Pubkey} {pool : T.VerPoolState}
    (h : initialPool programId = some pool) :
    ∃ label, (programId, label) ∈ InfAmm.programIdToLabels := by
  unfold initialPool at h
  split at h
  · rename_i hprogram
    exact ⟨infLabel, by simp [InfAmm.programIdToLabels, hprogram]⟩
  · split at h
    · rename_i hprogram
      exact ⟨reserveV2Label, by simp [InfAmm.programIdToLabels, hprogram]⟩
    · cases h

/-! ### Runs of updates -/

/-- The AMM after a run of updates, each with its clock and its account map. -/
def InfAmm.afterUpdates (amm : InfAmm T) (updates : List (Atomics × AccountMap)) : InfAmm T :=
  updates.foldl (fun amm u => ((InfAmm.update u.1 u.2).run amm).2) amm

variable [Inf1Spec T] [LawfulInf1 T]

/-- A run of updates keeps the fixed parts. -/
theorem InfAmm.fixedParts_afterUpdates (amm : InfAmm T) (updates : List (Atomics × AccountMap)) :
    InfAmm.FixedParts amm (amm.afterUpdates updates) := by
  induction updates using List.reverseRecOn with
  | nil => exact InfAmm.FixedParts.refl amm
  | append_singleton updates u ih =>
    have hlast : amm.afterUpdates (updates ++ [u]) =
        ((InfAmm.update u.1 u.2).run (amm.afterUpdates updates)).2 := by
      simp [InfAmm.afterUpdates]
    rw [hlast]
    exact ih.trans (InfAmm.fixedParts_of_update rfl)

/-- **An AMM keeps its identity.**  After any run of updates, successful or not, the AMM that `new`
made of an account is the AMM of the program that owns the account and of the pool whose list the
account is; it has the label of the program, and the clock handle and the SPL data it was given.  It can
always be asked for its accounts, and never asks for the Clock.  The next update fails in an error of
one of its steps, or because the fetched list does not decode; it never panics. -/
theorem identity_of_run {H : Type} [StreamHash H Pubkey] [SolanaPubkey] {keyedAccount : KeyedAccount}
    {clockRef : ClockRef} {splLsts : HashMap Pubkey Pubkey} {amm₀ : InfAmm T}
    (hnew : InfAmm.new H keyedAccount clockRef splLsts = .ok amm₀)
    (updates : List (Atomics × AccountMap)) {amm : InfAmm T} (hamm : amm = amm₀.afterUpdates updates) :
    amm.programId = keyedAccount.account.owner ∧ amm.key = .ok keyedAccount.key ∧
    amm.clockRef = clockRef ∧ amm.inner.splLsts = splLsts ∧
    (∃ label, (keyedAccount.account.owner, label) ∈ InfAmm.programIdToLabels ∧
      amm.label = .ok label) ∧
    (∃ keys, amm.getAccountsToUpdate = .ok keys ∧ sysvarClock ∉ keys) ∧
    ∀ mem accountMap e, ((InfAmm.update mem accountMap).run amm).1 = .error e →
      UpdateFails keyedAccount.key e := by
  have hfixed : InfAmm.FixedParts amm₀ amm := hamm ▸ amm₀.fixedParts_afterUpdates updates
  obtain ⟨⟨poolStateId, haddr₀⟩, hprogram, hspl, -⟩ := addresses_of_new hnew
  have haddr := haddr₀.of_fixed hfixed.inner
  have hprogram' : amm.programId = keyedAccount.account.owner := by
    rw [InfAmm.programId, ← hfixed.inner.progId, hprogram]
  obtain ⟨inner, lsts, hinner, -, -, hclock⟩ := InfAmm.new_eq_ok hnew
  obtain ⟨pool, pricing, pda, pda', hpool, -⟩ := newInner_eq_ok hinner
  obtain ⟨label, hlabel⟩ := exists_label_of_initialPool hpool
  refine ⟨hprogram', haddr.lstStateListId_eq, hfixed.clockRef.symm.trans hclock,
    hfixed.inner.splLsts.symm.trans hspl,
    ⟨label, hlabel, InfAmm.label_of_mem (hprogram'.symm ▸ hlabel)⟩, ?_, fun mem accountMap e he =>
      InfAmm.update_fails haddr.poolStateId_eq haddr.lstStateListId_eq he⟩
  refine ⟨_, InfAmm.getAccountsToUpdate_eq haddr.poolStateId_eq haddr.lstStateListId_eq, fun hmem => ?_⟩
  simpa using (List.mem_filter.mp hmem).2

open Reference in
/-- A failed update leaves the key. -/
theorem identity_of_run_nil :
    ((ammWith flatFeeProgramId [] HashMap.empty).afterUpdates [(genesis, HashMap.empty)]).key =
      .ok infLstStateList :=
  (identity_of_run new_nil [(genesis, HashMap.empty)] rfl).2.1

/-! ### The clock of a run -/

/-- Two updates that are given the same accounts, apart from the Clock, and load the same clock. -/
def SameInput (clockRef : ClockRef) (u u' : Atomics × AccountMap) : Prop :=
  u.1 clockRef = u'.1 clockRef ∧ ∀ key ≠ sysvarClock, u.2 key = u'.2 key

omit [Inf1Spec T] [LawfulInf1 T] in
/-- Such updates do the same. -/
theorem SameInput.update_run {amm : InfAmm T} {u u' : Atomics × AccountMap}
    (h : SameInput amm.clockRef u u') :
    (InfAmm.update u.1 u.2).run amm = (InfAmm.update u'.1 u'.2).run amm := by
  have hfetched : (amm.fetched u.1 u.2).getAccount = (amm.fetched u'.1 u'.2).getAccount := by
    funext key
    by_cases hclock : key = sysvarClock
    · rw [hclock, AccountMapRef.getAccount_sysvarClock, AccountMapRef.getAccount_sysvarClock,
        InfAmm.fetched, InfAmm.fetched, simClock_congr h.1]
    · rw [AccountMapRef.getAccount_of_ne _ hclock, AccountMapRef.getAccount_of_ne _ hclock]
      exact h.2 key hclock
  rw [InfAmm.update, InfAmm.update, Mutation.run_bind_of_ok (Mutation.run_read amm),
    Mutation.run_bind_of_ok (Mutation.run_read amm), hfetched]

/-- **A run depends on one clock.**  Two runs whose updates are given the same accounts, apart from any
account at the address of the Clock, and load the same values from the clock handle of the AMM, end in
the same state.  In every state, what an update sees at the address of the Clock decodes to the values
loaded from that handle. -/
theorem run_depends_on_own_clock {amm : InfAmm T} {updates updates' : List (Atomics × AccountMap)}
    (h : List.Forall₂ (SameInput amm.clockRef) updates updates') :
    amm.afterUpdates updates = amm.afterUpdates updates' ∧
    ∀ mem accountMap, ∃ acc,
      ((amm.afterUpdates updates).fetched mem accountMap).getAccount sysvarClock = some acc ∧
        decodeClockData acc.data = some (mem amm.clockRef) := by
  constructor
  · induction updates generalizing amm updates' with
    | nil =>
      cases h
      rfl
    | cons u updates ih =>
      obtain _ | ⟨hu, hrest⟩ := h
      rename_i u' updates'
      have hclock : amm.clockRef = ((InfAmm.update u.1 u.2).run amm).2.clockRef :=
        (InfAmm.fixedParts_of_update rfl).clockRef
      rw [hclock] at hrest
      have hstep := ih hrest
      unfold InfAmm.afterUpdates at hstep ⊢
      rw [List.foldl_cons, List.foldl_cons, hstep, hu.update_run]
  · intro mem accountMap
    rw [AccountMapRef.getAccount_sysvarClock, (amm.fixedParts_afterUpdates updates).clockRef]
    exact ⟨_, rfl, decodeClockData_simClock mem _⟩

open Reference in
/-- A Clock account among the fetched accounts makes no difference. -/
theorem run_depends_on_own_clock_stale :
    (ammWith flatFeeProgramId [] HashMap.empty).afterUpdates [(genesis, onChain [wsol])] =
      (ammWith flatFeeProgramId [] HashMap.empty).afterUpdates
        [(genesis, (onChain [wsol]).insert sysvarClock (listAccount []))] := by
  have hsame : SameInput (ammWith flatFeeProgramId [] HashMap.empty).clockRef
      (genesis, onChain [wsol]) (genesis, (onChain [wsol]).insert sysvarClock (listAccount [])) :=
    ⟨rfl, fun key hkey => (HashMap.insert_of_ne (onChain [wsol]) (listAccount []) hkey).symm⟩
  exact (run_depends_on_own_clock (.cons hsame .nil)).1

end InfJup
