import InfJupInterface.Data.LastEntry
import Mathlib

/-!
# Accounts and account maps

The data types of the Solana client crates that the AMM handles: public keys, accounts, keyed
accounts and account maps.  A `HashMap` is only read and written by key here, so it is modelled
by its lookup function.
-/

namespace InfJup

/-- A public key: 32 bytes. -/
abbrev Pubkey : Type := Vector UInt8 32

/-- `solana_account::Account`. -/
structure Account where
  /-- The balance in lamports. -/
  lamports : UInt64
  /-- The account data. -/
  data : List UInt8
  /-- The program that owns the account. -/
  owner : Pubkey
  /-- Whether the account holds a program. -/
  executable : Bool
  /-- The epoch at which rent is next due. -/
  rentEpoch : UInt64

/-- `jupiter_amm_interface::KeyedAccount`, without the parameters that nothing here reads. -/
structure KeyedAccount where
  /-- The address of the account. -/
  key : Pubkey
  /-- The account. -/
  account : Account

/-- A hash map, as its lookup function. -/
abbrev HashMap (κ ν : Type) : Type := κ → Option ν

namespace HashMap

variable {κ ν : Type} [DecidableEq κ]

/-- The empty map. -/
def empty : HashMap κ ν := fun _ => none

/-- Insert or overwrite an entry. -/
def insert (m : HashMap κ ν) (k : κ) (v : ν) : HashMap κ ν := Function.update m k (some v)

/-- Remove an entry. -/
def remove (m : HashMap κ ν) (k : κ) : HashMap κ ν := Function.update m k none

/-- Keep only the entries of the listed keys. -/
def restrict (m : HashMap κ ν) (keys : List κ) : HashMap κ ν := fun k =>
  if k ∈ keys then m k else none

/-- Collect entries into a map: a later entry replaces an earlier one of its key. -/
def collect (entries : List (κ × ν)) : HashMap κ ν :=
  entries.foldl (fun m entry => m.insert entry.1 entry.2) empty

@[simp] theorem insert_self (m : HashMap κ ν) (k : κ) (v : ν) : m.insert k v k = some v := by
  simp [insert]

@[simp] theorem insert_of_ne (m : HashMap κ ν) {k k' : κ} (v : ν) (h : k' ≠ k) :
    m.insert k v k' = m k' := by
  simp [insert, h]

@[simp] theorem remove_self (m : HashMap κ ν) (k : κ) : m.remove k k = none := by
  simp [remove]

@[simp] theorem remove_of_ne (m : HashMap κ ν) {k k' : κ} (h : k' ≠ k) :
    m.remove k k' = m k' := by
  simp [remove, h]

theorem restrict_of_mem (m : HashMap κ ν) {keys : List κ} {k : κ} (h : k ∈ keys) :
    m.restrict keys k = m k := by
  simp [restrict, h]

theorem restrict_of_not_mem (m : HashMap κ ν) {keys : List κ} {k : κ} (h : k ∉ keys) :
    m.restrict keys k = none := by
  simp [restrict, h]

/-- What is collected for a key is its last entry. -/
theorem collect_apply (entries : List (κ × ν)) (k : κ) :
    collect entries k = (lastEntry Prod.fst entries k).map Prod.snd := by
  induction entries using List.reverseRecOn with
  | nil => rfl
  | append_singleton entries entry ih =>
    have hlast : collect (entries ++ [entry]) = (collect entries).insert entry.1 entry.2 := by
      simp [collect]
    rw [hlast]
    by_cases h : k = entry.1
    · rw [h, insert_self, lastEntry_append_self]
      rfl
    · rw [insert_of_ne _ _ h, ih, lastEntry_append_of_ne h]

omit [DecidableEq κ] in
/-- What looking keys up has found. -/
theorem mem_filterMap_find {m : HashMap κ ν} {keys : List κ} {k : κ} {v : ν} :
    (k, v) ∈ keys.filterMap (fun k => (m k).map fun v => (k, v)) ↔ k ∈ keys ∧ m k = some v := by
  rw [List.mem_filterMap]
  constructor
  · rintro ⟨k', hk', hfound⟩
    obtain ⟨v', hv', heq⟩ := Option.map_eq_some_iff.mp hfound
    cases heq
    exact ⟨hk', hv'⟩
  · rintro ⟨hk, hv⟩
    exact ⟨k, hk, by rw [hv]; rfl⟩

/-- Looking keys up and collecting what was found restricts the map to the keys. -/
theorem collect_filterMap (m : HashMap κ ν) (keys : List κ) :
    collect (keys.filterMap fun k => (m k).map fun v => (k, v)) = m.restrict keys := by
  funext k
  rw [collect_apply]
  rcases hentry : lastEntry Prod.fst (keys.filterMap fun k => (m k).map fun v => (k, v)) k with
    _ | ⟨k', v⟩
  · by_cases hk : k ∈ keys
    · rw [restrict_of_mem m hk]
      rcases hv : m k with _ | v
      · rfl
      · have hmem : k ∈ (keys.filterMap fun k => (m k).map fun v => (k, v)).map Prod.fst :=
          List.mem_map_of_mem (f := Prod.fst) (mem_filterMap_find.mpr ⟨hk, hv⟩)
        obtain ⟨entry, hsome⟩ := exists_lastEntry hmem
        cases hentry.symm.trans hsome
    · rw [restrict_of_not_mem m hk]
      rfl
  · obtain ⟨hmem, rfl⟩ := mem_of_lastEntry hentry
    obtain ⟨hk, hv⟩ := mem_filterMap_find.mp hmem
    rw [restrict_of_mem m hk, hv]
    rfl

end HashMap

/-- `jupiter_amm_interface::AccountMap`: the accounts fetched for an update. -/
abbrev AccountMap : Type := HashMap Pubkey Account

end InfJup
