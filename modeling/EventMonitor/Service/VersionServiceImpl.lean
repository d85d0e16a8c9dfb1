import EventMonitor.Dao.Version
import EventMonitor.Library.DottedText
import EventMonitor.Library.ReadThroughCache

/-!
# `VersionServiceImpl`

The information about the version of the application is the first row of the versions table in the
descending order of a text column. Version numbers are meant as numbers: the row that is reported
is the newest one unless the text of another row comes behind the text of the newest.
-/

namespace EventMonitor

open Library DottedText

/-- The data of `GET /rest/info`. -/
structure VersionDto where
  version : String
  name : Option String
  author : Option String
  deriving DecidableEq, Repr

namespace VersionVersionDtoMapper

/-- All three fields are copied; a missing entity is dereferenced all the same. -/
def convertEntityToDto : Option Version → Except Throwable VersionDto
  | some entity => .ok ⟨entity.version, entity.name, entity.author⟩
  | none => .error (.external "java.lang.NullPointerException")

/-- Rows with the same data are equal. -/
theorem convertEntityToDto_inj {entity entity' : Version} :
    convertEntityToDto (some entity) = convertEntityToDto (some entity') ↔ entity = entity' := by
  cases entity
  cases entity'
  simp [convertEntityToDto]

end VersionVersionDtoMapper

namespace VersionServiceImpl

open VersionVersionDtoMapper

/-- The body of `getVersionInformation`. -/
def getVersionInformationBody (table : VersionsTable) : Except Throwable VersionDto :=
  convertEntityToDto (VersionDaoImpl.findVersion table)

/-- `getVersionInformation` under `@Cacheable`: its answer, and the cache that it leaves. -/
def getVersionInformation (table : VersionsTable) (versionCache : Option VersionDto) :
    Except Throwable VersionDto × Option VersionDto :=
  ReadThroughCache.read getVersionInformationBody table versionCache

/-- The body reports a row exactly when it is the greatest one. -/
theorem getVersionInformationBody_eq_iff {table : VersionsTable} (row : Version) :
    getVersionInformationBody table = convertEntityToDto (some row) ↔ table.Greatest row := by
  rw [← VersionRepository.findFirst1_eq_some_iff, getVersionInformationBody, VersionDaoImpl.findVersion]
  cases VersionRepository.findFirst1ByOrderByVersionDesc table with
  | none => simp [convertEntityToDto]
  | some first => rw [convertEntityToDto_inj, Option.some.injEq]

/-- With an empty cache, the greatest row is reported. -/
theorem getVersionInformation_eq_iff {table : VersionsTable} (row : Version) :
    (getVersionInformation table none).1 = convertEntityToDto (some row) ↔ table.Greatest row := by
  rw [getVersionInformation, ReadThroughCache.read_none, getVersionInformationBody_eq_iff]

/-- Every version is a dotted number. -/
def DottedVersions (table : VersionsTable) : Prop := ∀ row ∈ table.rows, IsDotted row.version

/-- The row's version is greater, as a dotted number, than that of every other row. -/
def Newest (table : VersionsTable) (row : Version) : Prop :=
  row ∈ table.rows ∧ ∀ other ∈ table.rows, other ≠ row →
    components other.version < components row.version

/-- A table of dotted numbers that is not empty has a newest row. -/
theorem exists_newest {table : VersionsTable} (hdotted : DottedVersions table) (h : table.rows ≠ []) :
    ∃ row, Newest table row := by
  have hrows : table.rows.toFinset.Nonempty := by simpa using h
  obtain ⟨row, hmem, hmax⟩ := Finset.exists_max_image _ (fun row => components row.version) hrows
  rw [List.mem_toFinset] at hmem
  refine ⟨row, hmem, fun other hother hdifferent => ?_⟩
  apply lt_of_le_of_ne (hmax other (List.mem_toFinset.mpr hother))
  intro hsame
  apply hdifferent
  exact VersionsTable.eq_of_version hother hmem
    ((hdotted other hother).eq_of_components (hdotted row hmem) hsame)

/-- The newest row is the greatest one unless another row overtakes it. -/
theorem greatest_iff_of_newest {table : VersionsTable} (hdotted : DottedVersions table) {row : Version}
    (hnewest : Newest table row) : table.Greatest row ↔
      ∀ other ∈ table.rows, ¬ Overtakes (components other.version) (components row.version) := by
  constructor
  · intro hgreatest other hother hovertakes
    have hdifferent : other ≠ row := by
      intro hsame
      rw [hsame] at hovertakes
      exact not_overtakes_self _ hovertakes
    have hfirst := ((hdotted other hother).lt_iff (hdotted row hnewest.1)
      (hnewest.2 other hother hdifferent)).mpr hovertakes
    exact not_lt_of_ge (hgreatest.2 other hother) hfirst
  · intro hnone
    refine ⟨hnewest.1, fun other hother => ?_⟩
    by_cases hsame : other = row
    · exact le_of_eq (congrArg Version.version hsame)
    · apply le_of_not_gt
      rw [(hdotted other hother).lt_iff (hdotted row hnewest.1)
        (hnewest.2 other hother hsame)]
      exact hnone other hother

/-- With an empty cache, the newest row is reported exactly when no other row overtakes it. -/
theorem reported_iff_of_newest {table : VersionsTable} (hdotted : DottedVersions table) {row : Version}
    (hnewest : Newest table row) :
    (getVersionInformation table none).1 = convertEntityToDto (some row) ↔
      ∀ other ∈ table.rows, ¬ Overtakes (components other.version) (components row.version) := by
  rw [getVersionInformation_eq_iff, greatest_iff_of_newest hdotted hnewest]

/-- A row with a greater version is the newest one of the table into which it is inserted. -/
theorem newest_insert {table : VersionsTable} {row : Version}
    (hnew : ∀ other ∈ table.rows, other.version ≠ row.version)
    (hgreater : ∀ other ∈ table.rows, components other.version < components row.version) :
    Newest (table.insert row hnew) row := by
  refine ⟨List.mem_append_right _ (List.mem_singleton_self row), fun other hother hdifferent => ?_⟩
  rcases List.mem_append.mp hother with hbefore | hrow
  · exact hgreater other hbefore
  · exact absurd (List.mem_singleton.mp hrow) hdifferent

/-- Inserting a dotted number keeps the table one of dotted numbers. -/
theorem dottedVersions_insert {table : VersionsTable} (hdotted : DottedVersions table) {row : Version}
    (hnew : ∀ other ∈ table.rows, other.version ≠ row.version) (hrow : IsDotted row.version) :
    DottedVersions (table.insert row hnew) := by
  intro other hother
  rcases List.mem_append.mp hother with hbefore | hlast
  · exact hdotted other hbefore
  · exact List.mem_singleton.mp hlast ▸ hrow

/-- Among versions of single digits the newest one is reported. -/
theorem reported_of_single_digits {table : VersionsTable} (hdotted : DottedVersions table)
    {row : Version} (hnewest : Newest table row) (hdigits : ∀ n ∈ components row.version, n < 10) :
    (getVersionInformation table none).1 = convertEntityToDto (some row) := by
  rw [reported_iff_of_newest hdotted hnewest]
  exact fun _ _ => not_overtakes_of_lt_ten hdigits

/-- With an empty cache, the newest row of a table that is not empty is reported exactly when no other
row overtakes it; in particular a row that is inserted with a greater version is reported exactly
when it is not overtaken. -/
theorem newestReported_iff {table : VersionsTable} (hdotted : DottedVersions table)
    (hrows : table.rows ≠ []) :
    (∃ newest, Newest table newest ∧
      ((getVersionInformation table none).1 = convertEntityToDto (some newest) ↔
        ∀ other ∈ table.rows, ¬ Overtakes (components other.version) (components newest.version))) ∧
    (∀ row hnew, IsDotted row.version →
      (∀ other ∈ table.rows, components other.version < components row.version) →
      ((getVersionInformation (table.insert row hnew) none).1 = convertEntityToDto (some row) ↔
        ∀ other ∈ table.rows, ¬ Overtakes (components other.version) (components row.version))) := by
  constructor
  · obtain ⟨newest, hnewest⟩ := exists_newest hdotted hrows
    exact ⟨newest, hnewest, reported_iff_of_newest hdotted hnewest⟩
  · intro row hnew hrow hgreater
    rw [reported_iff_of_newest (dottedVersions_insert hdotted hnew hrow) (newest_insert hnew hgreater)]
    change (∀ other ∈ table.rows ++ [row], _) ↔ _
    rw [List.forall_mem_append, List.forall_mem_singleton]
    exact and_iff_left (not_overtakes_self _)

/-- The rows of `import.sql`. -/
def shippedVersions : VersionsTable where
  rows := [⟨"2.0.0", some "EventMonitor", some "Ernestas Kardzys"⟩,
    ⟨"2.0.1", some "EventMonitor", some "Ernestas Kardzys"⟩]
  distinct := by decide

/-- Version 2.1.0 is reported once its row has been added to the shipped ones. -/
theorem newestReported_shipped :
    (getVersionInformation (shippedVersions.insert ⟨"2.1.0", none, none⟩ (by decide)) none).1 =
      convertEntityToDto (some ⟨"2.1.0", none, none⟩) := by
  have hdotted : DottedVersions shippedVersions := by
    unfold DottedVersions
    decide
  exact ((newestReported_iff hdotted (by decide)).2 ⟨"2.1.0", none, none⟩ (by decide) (by decide)
    (by decide)).mpr (by decide)

/-- After version 10.0.0 has been added, version 9.0.0 is still reported. -/
theorem newestReported_ten : ∃ table : VersionsTable, ∃ newest older : Version,
    DottedVersions table ∧ Newest table newest ∧ newest.version = "10.0.0" ∧
      older.version = "9.0.0" ∧
        (getVersionInformation table none).1 = convertEntityToDto (some older) ∧
          (getVersionInformation table none).1 ≠ convertEntityToDto (some newest) := by
  let older : Version := ⟨"9.0.0", none, none⟩
  let newest : Version := ⟨"10.0.0", none, none⟩
  let table : VersionsTable := ⟨[older, newest], by decide⟩
  have hdotted : DottedVersions table := by
    unfold DottedVersions
    decide
  have hnewest : Newest table newest := by
    unfold Newest
    decide
  have hreported : (getVersionInformation table none).1 = convertEntityToDto (some older) := by
    rw [getVersionInformation_eq_iff, VersionsTable.Greatest]
    decide
  refine ⟨table, newest, older, hdotted, hnewest, rfl, rfl, hreported, ?_⟩
  rw [hreported, Ne, convertEntityToDto_inj]
  decide

end VersionServiceImpl

end EventMonitor
