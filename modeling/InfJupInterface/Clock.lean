import InfJupInterface.Data.LittleEndian
import InfJupInterface.Data.Window
import InfJupInterface.Solana.Account

/-!
# The synthetic Clock account

Jupiter hands the AMM a `ClockRef`, a handle to five shared atomics, instead of the Clock sysvar
account.  `simClock` dresses the loaded values up as that account, so that the sol value
calculators can read `SYSVAR_CLOCK` like any other account.  The 40 data bytes are put together
by `serClock`, five calls of the byte-copy loop `caba` into an array of zeros.

`caba` writes a window (`caba_eq_write`), so the general facts about windows apply: the five
fields do not overlap, and each reads back what was written.  With the two-way little-endian
bijection this makes `serClock` a bijection between the quintuples and the 40-byte arrays.
-/

namespace InfJup

/-- The values behind the five atomics of a `ClockRef`, as loaded. -/
structure Clock where
  slot : UInt64
  epochStartTimestamp : Int64
  epoch : UInt64
  leaderScheduleEpoch : UInt64
  unixTimestamp : Int64
  deriving DecidableEq

/-- `jupiter_amm_interface::ClockRef`: the handle by which the shared atomics are reached. -/
structure ClockRef where
  handle : ℕ
  deriving DecidableEq

/-- The contents of the shared atomics at the moment of a call. -/
abbrev Atomics : Type := ClockRef → Clock

/-! ### The byte-copy loop -/

/-- The loop `while i < LEN { arr[START + i] = val[i]; i += 1 }` of `caba`.  `none` is a panic on
an index out of bounds; `fuel` bounds the number of iterations, and running out of it is `none`
as well. -/
def cabaLoop {A len : ℕ} (start : ℕ) (val : Vector UInt8 len) :
    ℕ → ℕ → Vector UInt8 A → Option (Vector UInt8 A)
  | 0, i, arr => if i < len then none else some arr
  | fuel + 1, i, arr =>
    if hi : i < len then
      if hs : start + i < A then cabaLoop start val fuel (i + 1) (arr.set (start + i) val[i])
      else none
    else some arr

/-- The loop invariant: from counter `i` the loop copies what is left of `val`, and touches no
other position. -/
theorem cabaLoop_eq {A len start : ℕ} (h : start + len ≤ A) (val : Vector UInt8 len)
    (fuel i : ℕ) (hfuel : len ≤ i + fuel) (arr : Vector UInt8 A) :
    cabaLoop start val fuel i arr = some (Vector.ofFn fun j =>
      if hj : start + i ≤ j.val ∧ j.val < start + len then val.get ⟨j.val - start, by omega⟩
      else arr[j.val]) := by
  induction fuel generalizing i arr with
  | zero =>
    have hi : ¬ i < len := by omega
    rw [cabaLoop, if_neg hi]
    congr 1
    apply Vector.ext
    intro j hj
    simp only [Vector.getElem_ofFn]
    rw [dif_neg (by omega)]
  | succ fuel ih =>
    by_cases hi : i < len
    · have hs : start + i < A := by omega
      rw [cabaLoop, dif_pos hi, dif_pos hs, ih (i + 1) (by omega)]
      congr 1
      apply Vector.ext
      intro j hj
      simp only [Vector.getElem_ofFn]
      by_cases hlast : j = start + i
      · -- the position written in this iteration
        subst hlast
        rw [dif_neg (by omega), dif_pos (by omega), Vector.getElem_set_self]
        change val[i] = val[start + i - start]
        simp
      · rw [Vector.getElem_set_ne _ _ (fun h => hlast h.symm)]
        by_cases hj' : start + (i + 1) ≤ j ∧ j < start + len
        · rw [dif_pos hj', dif_pos (by omega)]
        · rw [dif_neg hj', dif_neg (by omega)]
    · rw [cabaLoop, dif_neg hi]
      congr 1
      apply Vector.ext
      intro j hj
      simp only [Vector.getElem_ofFn]
      rw [dif_neg (by omega)]

/-- The loop runs to its end: it never indexes out of bounds. -/
theorem cabaLoop_isSome {A len start : ℕ} (h : start + len ≤ A) (arr : Vector UInt8 A)
    (val : Vector UInt8 len) : (cabaLoop start val len 0 arr).isSome := by
  rw [cabaLoop_eq h val len 0 (by omega) arr]
  rfl

/-- `caba`, "const assign byte array": copy `val` into `arr` at `start`.  The hypothesis is the
compile-time assertion `START + LEN <= A`. -/
def caba {A len : ℕ} (start : ℕ) (h : start + len ≤ A) (arr : Vector UInt8 A) (val : Vector UInt8 len) :
    Vector UInt8 A :=
  (cabaLoop start val len 0 arr).get (cabaLoop_isSome h arr val)

/-- `caba` is the write of one window. -/
theorem caba_eq_write {A len start : ℕ} (h : start + len ≤ A) (arr : Vector UInt8 A)
    (val : Vector UInt8 len) : caba start h arr val = Window.write ⟨start, len, val, h⟩ arr := by
  have hrun : cabaLoop start val len 0 arr = some (Window.write ⟨start, len, val, h⟩ arr) :=
    cabaLoop_eq h val len 0 (by omega) arr
  rw [caba, Option.get_of_eq_some _ hrun]

/-- A sequence of calls of `caba`, one for each window. -/
def cabaAll {A : ℕ} (ws : List (Window UInt8 A)) (arr : Vector UInt8 A) : Vector UInt8 A :=
  ws.foldl (fun a w => caba w.start w.inBounds a w.val) arr

/-- A sequence of calls of `caba` writes its windows one after the other. -/
theorem cabaAll_eq_writeAll {A : ℕ} (ws : List (Window UInt8 A)) (arr : Vector UInt8 A) :
    cabaAll ws arr = Window.writeAll ws arr := by
  induction ws generalizing arr with
  | nil => rfl
  | cons w ws ih =>
    rw [Window.writeAll_cons, ← ih, ← caba_eq_write w.inBounds arr w.val]
    rfl

/-! ### The account data -/

/-- `CLOCK_SIZE`. -/
def clockSize : ℕ := 40

/-- `ser_clock`: the data of the Clock account. -/
def serClock (c : Clock) : Vector UInt8 clockSize :=
  let d := Vector.replicate clockSize 0
  let d := caba 0 (by decide) d (u64ToLeBytes c.slot)
  let d := caba 8 (by decide) d (i64ToLeBytes c.epochStartTimestamp)
  let d := caba 16 (by decide) d (u64ToLeBytes c.epoch)
  let d := caba 24 (by decide) d (u64ToLeBytes c.leaderScheduleEpoch)
  let d := caba 32 (by decide) d (i64ToLeBytes c.unixTimestamp)
  d

/-- The owner of the sysvar accounts, `Sysvar1111111111111111111111111111111111111`. -/
def sysvarOwner : Pubkey :=
  #v[6, 167, 213, 23, 24, 117, 247, 41, 199, 61, 147, 64, 143, 33, 97, 32, 6, 126, 216, 140, 118,
    224, 140, 40, 127, 193, 148, 96, 0, 0, 0, 0]

/-- `sim_clock`: the Clock account made up from the current values of the atomics. -/
def simClock (mem : Atomics) (clockRef : ClockRef) : Account where
  lamports := 1169280
  data := (serClock (mem clockRef)).toList
  owner := sysvarOwner
  executable := false
  rentEpoch := 18446744073709551615

/-- The account depends on the loaded values only. -/
theorem simClock_congr {mem mem' : Atomics} {clockRef clockRef' : ClockRef}
    (h : mem clockRef = mem' clockRef') : simClock mem clockRef = simClock mem' clockRef' := by
  rw [simClock, simClock, h]

/-- The layout of the Clock sysvar: five fields of eight bytes, in little-endian order. -/
def decodeClock (data : Vector UInt8 clockSize) : Clock where
  slot := u64OfLeBytes (readWindow data 0 8 (by decide))
  epochStartTimestamp := i64OfLeBytes (readWindow data 8 8 (by decide))
  epoch := u64OfLeBytes (readWindow data 16 8 (by decide))
  leaderScheduleEpoch := u64OfLeBytes (readWindow data 24 8 (by decide))
  unixTimestamp := i64OfLeBytes (readWindow data 32 8 (by decide))

/-- Decoding of account data: anything but 40 bytes is rejected. -/
def decodeClockData (data : List UInt8) : Option Clock :=
  if h : data.length = clockSize then some (decodeClock ⟨data.toArray, by simpa using h⟩) else none

/-- The five windows `serClock` writes. -/
def clockWindows (c : Clock) : List (Window UInt8 clockSize) :=
  [⟨0, 8, u64ToLeBytes c.slot, by decide⟩, ⟨8, 8, i64ToLeBytes c.epochStartTimestamp, by decide⟩,
    ⟨16, 8, u64ToLeBytes c.epoch, by decide⟩, ⟨24, 8, u64ToLeBytes c.leaderScheduleEpoch, by decide⟩,
    ⟨32, 8, i64ToLeBytes c.unixTimestamp, by decide⟩]

/-- `serClock` is a sequence of `caba` calls. -/
theorem serClock_eq_cabaAll (c : Clock) :
    serClock c = cabaAll (clockWindows c) (Vector.replicate clockSize 0) := rfl

/-- No two fields overlap. -/
theorem clockWindows_disjoint (c : Clock) : (clockWindows c).Pairwise Window.Disjoint := by
  simp [clockWindows, Window.Disjoint]

/-- Every field of the account data reads back the bytes written for it. -/
theorem readWindow_serClock (c : Clock) {w : Window UInt8 clockSize} (hw : w ∈ clockWindows c) :
    readWindow (serClock c) w.start w.len w.inBounds = w.val := by
  rw [serClock_eq_cabaAll, cabaAll_eq_writeAll]
  exact Window.readWindow_writeAll (clockWindows_disjoint c) hw _

/-- Decoding the serialized clock gives back the five values. -/
theorem decodeClock_serClock (c : Clock) : decodeClock (serClock c) = c := by
  have hslot := readWindow_serClock c (w := ⟨0, 8, u64ToLeBytes c.slot, by decide⟩)
    (by simp [clockWindows])
  have hstart := readWindow_serClock c
    (w := ⟨8, 8, i64ToLeBytes c.epochStartTimestamp, by decide⟩) (by simp [clockWindows])
  have hepoch := readWindow_serClock c (w := ⟨16, 8, u64ToLeBytes c.epoch, by decide⟩)
    (by simp [clockWindows])
  have hleader := readWindow_serClock c
    (w := ⟨24, 8, u64ToLeBytes c.leaderScheduleEpoch, by decide⟩) (by simp [clockWindows])
  have hunix := readWindow_serClock c (w := ⟨32, 8, i64ToLeBytes c.unixTimestamp, by decide⟩)
    (by simp [clockWindows])
  dsimp only at hslot hstart hepoch hleader hunix
  rw [decodeClock, hslot, hstart, hepoch, hleader, hunix]
  simp

/-- Two 40-byte arrays with the same five fields are equal. -/
lemma eq_of_readWindow_eq {d d' : Vector UInt8 clockSize}
    (h : ∀ k, (hk : k < 5) → readWindow d (8 * k) 8 (by simp [clockSize]; omega) =
      readWindow d' (8 * k) 8 (by simp [clockSize]; omega)) : d = d' := by
  apply Vector.ext
  intro j hj
  have hk : j / 8 < 5 := by simp only [clockSize] at hj; omega
  have hmod : j % 8 < 8 := Nat.mod_lt j (by decide)
  have hget := congrArg (fun v => v[j % 8]) (h (j / 8) hk)
  simp only [getElem_readWindow] at hget
  have hj8 : 8 * (j / 8) + j % 8 = j := Nat.div_add_mod j 8
  simpa only [hj8] using hget

/-- Serializing a decoded array gives back the array. -/
theorem serClock_decodeClock (data : Vector UInt8 clockSize) :
    serClock (decodeClock data) = data := by
  apply eq_of_readWindow_eq
  intro k hk
  have hread {w : Window UInt8 clockSize} (hw : w ∈ clockWindows (decodeClock data)) :=
    readWindow_serClock (decodeClock data) hw
  match k, hk with
  | 0, _ =>
    rw [hread (w := ⟨0, 8, u64ToLeBytes (decodeClock data).slot, by decide⟩)
      (by simp [clockWindows])]
    simp [decodeClock]
  | 1, _ =>
    rw [hread (w := ⟨8, 8, i64ToLeBytes (decodeClock data).epochStartTimestamp, by decide⟩)
      (by simp [clockWindows])]
    simp [decodeClock]
  | 2, _ =>
    rw [hread (w := ⟨16, 8, u64ToLeBytes (decodeClock data).epoch, by decide⟩)
      (by simp [clockWindows])]
    simp [decodeClock]
  | 3, _ =>
    rw [hread (w := ⟨24, 8, u64ToLeBytes (decodeClock data).leaderScheduleEpoch, by decide⟩)
      (by simp [clockWindows])]
    simp [decodeClock]
  | 4, _ =>
    rw [hread (w := ⟨32, 8, i64ToLeBytes (decodeClock data).unixTimestamp, by decide⟩)
      (by simp [clockWindows])]
    simp [decodeClock]

@[simp] theorem simClock_data (mem : Atomics) (clockRef : ClockRef) :
    (simClock mem clockRef).data = (serClock (mem clockRef)).toList := by
  rw [simClock]

/-- The synthetic account has the size of the Clock sysvar. -/
theorem length_simClock_data (mem : Atomics) (clockRef : ClockRef) :
    (simClock mem clockRef).data.length = clockSize := by
  rw [simClock_data, Vector.length_toList]

/-- The data of the synthetic account decodes to the loaded values. -/
theorem decodeClockData_simClock (mem : Atomics) (clockRef : ClockRef) :
    decodeClockData (simClock mem clockRef).data = some (mem clockRef) := by
  have hlen : (simClock mem clockRef).data.length = clockSize := length_simClock_data mem clockRef
  have hvec : (⟨(simClock mem clockRef).data.toArray, by simp⟩ :
      Vector UInt8 clockSize) = serClock (mem clockRef) := by
    apply Vector.toArray_inj.mp
    simp only [simClock_data, Vector.toArray_toList]
  rw [decodeClockData, dif_pos hlen, hvec, decodeClock_serClock]

/-- **The synthetic Clock account round-trips.**  The account data decodes to the five values
that were loaded, and every 40-byte array encodes exactly one quintuple.  Behind this, `caba` is
correct for every size and offset: the loop never leaves the array, it writes the block onto its
window and nothing else; a sequence of calls on pairwise disjoint windows gives the same array in
any order, and every window reads back its own block. -/
theorem clock_account_round_trip :
    (∀ (mem : Atomics) (clockRef : ClockRef),
      (simClock mem clockRef).data.length = 40 ∧
        decodeClockData (simClock mem clockRef).data = some (mem clockRef)) ∧
    (∀ data : Vector UInt8 40, ∃! c : Clock, serClock c = data) ∧
    (∀ (A start len : ℕ) (h : start + len ≤ A) (arr : Vector UInt8 A) (val : Vector UInt8 len),
      cabaLoop start val len 0 arr = some (caba start h arr val) ∧
        (∀ i, i < len → (caba start h arr val)[start + i]? = val[i]?) ∧
        ∀ j, j < start ∨ start + len ≤ j → (caba start h arr val)[j]? = arr[j]?) ∧
    (∀ (A : ℕ) (ws : List (Window UInt8 A)), ws.Pairwise Window.Disjoint →
      ∀ arr : Vector UInt8 A,
        (∀ ws' : List (Window UInt8 A), ws.Perm ws' → cabaAll ws' arr = cabaAll ws arr) ∧
        ∀ w ∈ ws, readWindow (cabaAll ws arr) w.start w.len w.inBounds = w.val) := by
  refine ⟨?_, ?_, ?_, ?_⟩
  · intro mem clockRef
    exact ⟨length_simClock_data mem clockRef, decodeClockData_simClock mem clockRef⟩
  · intro data
    refine ⟨decodeClock data, serClock_decodeClock data, ?_⟩
    rintro c rfl
    exact (decodeClock_serClock c).symm
  · intro A start len h arr val
    refine ⟨(Option.some_get (cabaLoop_isSome h arr val)).symm, ?_, ?_⟩
    · intro i hi
      have hread := Window.readWindow_write ⟨start, len, val, h⟩ arr
      have hget : (caba start h arr val)[start + i] = val[i] := by
        rw [caba_eq_write, ← getElem_readWindow _ start len h i hi]
        exact congrArg (fun v => v[i]) hread
      rw [Vector.getElem?_eq_getElem (by omega), Vector.getElem?_eq_getElem hi, hget]
    · intro j hout
      have hcov : ¬ Window.Covers ⟨start, len, val, h⟩ j := by
        rintro ⟨h1, h2⟩
        dsimp only at h1 h2
        omega
      rcases Nat.lt_or_ge j A with hj | hj
      · rw [caba_eq_write, Vector.getElem?_eq_getElem hj, Vector.getElem?_eq_getElem hj,
          Window.getElem_write_of_not_covers _ arr hj hcov]
      · rw [Vector.getElem?_eq_none hj, Vector.getElem?_eq_none hj]
  · intro A ws hdisj arr
    rw [cabaAll_eq_writeAll]
    refine ⟨?_, ?_⟩
    · intro ws' hperm
      rw [cabaAll_eq_writeAll]
      exact (Window.writeAll_perm hperm hdisj arr).symm
    · intro w hw
      exact Window.readWindow_writeAll hdisj hw arr

/-- The two ends of a four-byte array, written in either order. -/
theorem clock_account_round_trip_two_ends :
    (caba (A := 4) 2 (by decide) #v[0, 0, 0, 0] #v[7, 9])[2 + 1]? = some 9 ∧
    cabaAll [⟨2, 2, #v[7, 9], by decide⟩, ⟨0, 1, #v[5], by decide⟩] #v[0, 0, 0, 0] =
      cabaAll (A := 4) [⟨0, 1, #v[5], by decide⟩, ⟨2, 2, #v[7, 9], by decide⟩] #v[0, 0, 0, 0] := by
  refine ⟨?_, ?_⟩
  · exact (clock_account_round_trip.2.2.1 4 2 2 (by decide) _ _).2.1 1 (by decide)
  · refine (clock_account_round_trip.2.2.2 4 _ ?_ _).1 _ (List.Perm.swap _ _ [])
    simp [Window.Disjoint]

end InfJup
