import EventMonitor.Model.Dto
import Mathlib.Data.List.Nodup
import Mathlib.Data.List.Sort
import Mathlib.Data.String.Basic

/-!
# The versions table

The application reports one row of this table, the first one in the descending order of the text
column `version`. The column is the key, so that the row is determined by the table alone, whatever
the order in which its rows were inserted.
-/

namespace EventMonitor

/-- The JPA entity of the versions table. -/
structure Version where
  version : String
  name : Option String
  author : Option String
  deriving DecidableEq, Repr

/-- The versions table: its rows in the order of their insertion, and `version` is their key. -/
structure VersionsTable where
  rows : List Version
  distinct : (rows.map Version.version).Nodup

namespace VersionsTable

/-- A row is known by its version. -/
theorem eq_of_version {table : VersionsTable} {a b : Version} (ha : a ∈ table.rows)
    (hb : b ∈ table.rows) (h : a.version = b.version) : a = b :=
  List.inj_on_of_nodup_map table.distinct ha hb h

/-- No row comes behind this one in the order of the text column. -/
def Greatest (table : VersionsTable) (row : Version) : Prop :=
  row ∈ table.rows ∧ ∀ other ∈ table.rows, other.version ≤ row.version

/-- There is at most one such row. -/
theorem Greatest.unique {table : VersionsTable} {a b : Version} (ha : table.Greatest a)
    (hb : table.Greatest b) : a = b :=
  eq_of_version ha.1 hb.1 (le_antisymm (hb.2 a ha.1) (ha.2 b hb.1))

/-- The table with a row inserted. -/
def insert (table : VersionsTable) (row : Version)
    (hnew : ∀ other ∈ table.rows, other.version ≠ row.version) : VersionsTable where
  rows := table.rows ++ [row]
  distinct := by
    rw [List.map_append, List.map_singleton]
    refine table.distinct.append (List.nodup_singleton _) ?_
    rw [List.disjoint_singleton, List.mem_map, not_exists]
    exact fun other h => hnew other h.1 h.2

end VersionsTable

namespace VersionRepository

/-- `findFirst1ByOrderByVersionDesc`. -/
def findFirst1ByOrderByVersionDesc (table : VersionsTable) : Option Version :=
  (table.rows.insertionSort fun a b => b.version ≤ a.version).head?

/-- The first row in the descending order is the greatest one. -/
theorem findFirst1_eq_some_iff (table : VersionsTable) (row : Version) :
    findFirst1ByOrderByVersionDesc table = some row ↔ table.Greatest row := by
  let descending : Version → Version → Prop := fun a b => b.version ≤ a.version
  have : Std.Total descending := ⟨fun a b => le_total b.version a.version⟩
  have : IsTrans Version descending := ⟨fun _ _ _ hab hbc => le_trans hbc hab⟩
  have hsorted : (table.rows.insertionSort descending).Pairwise descending :=
    List.pairwise_insertionSort descending table.rows
  have hmem : ∀ other, other ∈ table.rows.insertionSort descending ↔ other ∈ table.rows :=
    fun _ => List.mem_insertionSort descending
  change (table.rows.insertionSort descending).head? = some row ↔ _
  cases hrows : table.rows.insertionSort descending with
  | nil =>
    rw [hrows] at hmem
    have habsent : ¬ table.Greatest row := fun h => List.not_mem_nil ((hmem row).mpr h.1)
    simp [habsent]
  | cons first rest =>
    rw [hrows] at hsorted hmem
    have hfirst : table.Greatest first := by
      refine ⟨(hmem first).mp List.mem_cons_self, fun other hother => ?_⟩
      rcases List.mem_cons.mp ((hmem other).mpr hother) with rfl | hrest
      · exact le_rfl
      · exact List.rel_of_pairwise_cons hsorted hrest
    rw [List.head?_cons, Option.some.injEq]
    constructor
    · intro h
      exact h ▸ hfirst
    · intro h
      exact hfirst.unique h

/-- A table that is not empty has a first row. -/
theorem exists_findFirst1 {table : VersionsTable} (h : table.rows ≠ []) :
    ∃ row, findFirst1ByOrderByVersionDesc table = some row := by
  rw [← Option.isSome_iff_exists, findFirst1ByOrderByVersionDesc, List.isSome_head?]
  intro hempty
  apply h
  rw [← List.length_eq_zero_iff, ← List.length_insertionSort (fun a b : Version => b.version ≤ a.version),
    hempty]
  rfl

end VersionRepository

namespace VersionDaoImpl

/-- `findVersion`. -/
def findVersion (table : VersionsTable) : Option Version :=
  VersionRepository.findFirst1ByOrderByVersionDesc table

end VersionDaoImpl

end EventMonitor
