import Mathlib.Data.Finmap

/-!
# Tables whose keys are generated

A table maps keys to rows. It remembers every key it has ever held, so that a generated
key is one that no row, present or removed, has had before. `upsert` is the usual
save-by-key operation: it overwrites the row with the given key when there is one and
otherwise inserts a row under a generated key, whatever key was asked for.
-/

namespace Library

/-- A generator of keys that have never been used. -/
structure KeySource (κ : Type*) where
  next : Finset κ → κ
  next_notMem : ∀ used, next used ∉ used

/-- A table with the keys it has ever held. -/
structure KeyedTable (κ ν : Type*) where
  rows : Finmap fun _ : κ => ν
  used : Finset κ
  rows_used : ∀ k ∈ rows, k ∈ used

namespace KeyedTable

variable {κ ν : Type*} [DecidableEq κ]

/-- The table without rows. -/
def empty : KeyedTable κ ν := ⟨∅, ∅, fun _ h => absurd h Finmap.notMem_empty⟩

/-- The row with the given key, if there is one. -/
def lookup (t : KeyedTable κ ν) (k : κ) : Option ν := t.rows.lookup k

/-- Write a row under a key that counts as used from then on. -/
def put (t : KeyedTable κ ν) (k : κ) (v : ν) : KeyedTable κ ν where
  rows := t.rows.insert k v
  used := insert k t.used
  rows_used := by
    intro k' hk'
    rcases Finmap.mem_insert.mp hk' with rfl | hold
    · exact Finset.mem_insert_self _ _
    · exact Finset.mem_insert_of_mem (t.rows_used k' hold)

/-- Remove the row with the given key; the key stays used. -/
def remove (t : KeyedTable κ ν) (k : κ) : KeyedTable κ ν where
  rows := t.rows.erase k
  used := t.used
  rows_used k' hk' := t.rows_used k' (Finmap.mem_erase.mp hk').2

/-- The key under which a row is saved: the requested one if a row has it, else a generated one. -/
def saveKey (t : KeyedTable κ ν) (source : KeySource κ) (requested : Option κ) : κ :=
  match requested with
  | some k => if k ∈ t.rows then k else source.next t.used
  | none => source.next t.used

/-- Save a row, returning the key under which it is stored. -/
def upsert (t : KeyedTable κ ν) (source : KeySource κ) (requested : Option κ) (v : ν) :
    KeyedTable κ ν × κ :=
  (t.put (t.saveKey source requested) v, t.saveKey source requested)

/-- Remove the row with the requested key; nothing happens without a key or without such a row. -/
def removeRequested (t : KeyedTable κ ν) (requested : Option κ) : KeyedTable κ ν :=
  match requested with
  | some k => t.remove k
  | none => t

/-- The row just written is found. -/
@[simp] theorem lookup_put_self (t : KeyedTable κ ν) (k : κ) (v : ν) :
    (t.put k v).lookup k = some v := Finmap.lookup_insert _

/-- Writing one row leaves the others alone. -/
theorem lookup_put_of_ne (t : KeyedTable κ ν) {k k' : κ} (v : ν) (h : k' ≠ k) :
    (t.put k v).lookup k' = t.lookup k' := Finmap.lookup_insert_of_ne _ h

/-- Writing a row twice is writing it once, with the later columns. -/
@[simp] theorem put_put (t : KeyedTable κ ν) (k : κ) (v v' : ν) : (t.put k v).put k v' = t.put k v' := by
  simp [put, Finmap.insert_insert]

/-- A removed row is not found. -/
@[simp] theorem lookup_remove_self (t : KeyedTable κ ν) (k : κ) :
    (t.remove k).lookup k = none := Finmap.lookup_erase _ _

/-- Removing one row leaves the others alone. -/
theorem lookup_remove_of_ne (t : KeyedTable κ ν) {k k' : κ} (h : k' ≠ k) :
    (t.remove k).lookup k' = t.lookup k' := Finmap.lookup_erase_ne h

/-- A row that is found has a used key. -/
theorem mem_used_of_lookup {t : KeyedTable κ ν} {k : κ} {v : ν} (h : t.lookup k = some v) :
    k ∈ t.used := t.rows_used k (Finmap.mem_of_lookup_eq_some h)

/-- Membership of a key is the existence of a row found under it. -/
theorem mem_rows_iff {t : KeyedTable κ ν} {k : κ} : k ∈ t.rows ↔ ∃ v, t.lookup k = some v :=
  Finmap.mem_iff

/-- No row is found under a key that the table does not hold. -/
theorem lookup_eq_none_iff {t : KeyedTable κ ν} {k : κ} : t.lookup k = none ↔ k ∉ t.rows :=
  Finmap.lookup_eq_none

/-- A key present in the table is kept by a save. -/
theorem saveKey_of_mem {t : KeyedTable κ ν} {k : κ} (source : KeySource κ) (h : k ∈ t.rows) :
    t.saveKey source (some k) = k := by simp [saveKey, h]

/-- Without a present key a save generates one. -/
theorem saveKey_of_absent {t : KeyedTable κ ν} {requested : Option κ} (source : KeySource κ)
    (h : ∀ k, requested = some k → k ∉ t.rows) :
    t.saveKey source requested = source.next t.used := by
  cases requested with
  | none => rfl
  | some k => simp [saveKey, h k rfl]

/-- The key of a save is either the requested key of a present row, or has never been used. -/
theorem saveKey_cases (t : KeyedTable κ ν) (source : KeySource κ) (requested : Option κ) :
    (∃ k, requested = some k ∧ k ∈ t.rows ∧ t.saveKey source requested = k) ∨
      ((∀ k, requested = some k → k ∉ t.rows) ∧ t.saveKey source requested ∉ t.used) := by
  by_cases h : ∃ k, requested = some k ∧ k ∈ t.rows
  · obtain ⟨k, rfl, hk⟩ := h
    exact Or.inl ⟨k, rfl, hk, saveKey_of_mem source hk⟩
  · have habsent : ∀ k, requested = some k → k ∉ t.rows := fun k hk hmem => h ⟨k, hk, hmem⟩
    refine Or.inr ⟨habsent, ?_⟩
    rw [saveKey_of_absent source habsent]
    exact source.next_notMem t.used

/-- Used keys stay used. -/
theorem used_subset_put (t : KeyedTable κ ν) (k : κ) (v : ν) : t.used ⊆ (t.put k v).used :=
  Finset.subset_insert _ _

end KeyedTable

end Library
