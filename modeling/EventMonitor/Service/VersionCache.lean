import EventMonitor.Service.VersionServiceImpl

/-!
# The version information over restarts

An orderly restart creates the versions table anew from the `import.sql` of the deployed release. A
cache that is declared `diskPersistent` is reloaded, and nothing evicts its entry. So the version
information that was read first is answered in every later release as well; it is right in those
runs only in which the reported row never changes.
-/

namespace EventMonitor

open Library VersionVersionDtoMapper

/-- A deployed release, known by the rows of its `import.sql`. -/
structure Release where
  versions : VersionsTable
  nonempty : versions.rows ≠ []

/-- A cache of `ehcache.xml` that declares no time to live and no idle time. -/
structure CacheConfiguration where
  diskPersistent : Bool
  deriving DecidableEq, Repr

/-- The declaration of `versionCache`. -/
def versionCache : CacheConfiguration := ⟨true⟩

namespace VersionServiceImpl

/-- What the uncached method computes from the table of a release. -/
def uncached (release : Release) : Except Throwable VersionDto :=
  getVersionInformationBody release.versions

/-- The running application: a read is a call of `getVersionInformation`, a replacement is an orderly
restart with a release. -/
def application (configuration : CacheConfiguration) :
    TransitionSystem (ReadThroughCache.State Release VersionDto) (ReadThroughCache.Label Release) :=
  ReadThroughCache.system uncached configuration.diskPersistent

/-- A step of the application. -/
abbrev Step := ReadThroughCache.Taken Release VersionDto

/-- The step is a call of `getVersionInformation`. -/
def IsCall (step : Step) : Prop := step.label = .read

/-- The release that is deployed when the step is taken. -/
def deployed (step : Step) : Release := step.source.source

/-- What a call answers. -/
def answer (step : Step) : Except Throwable VersionDto :=
  (getVersionInformation (deployed step).versions step.source.cache).1

/-- Every call is answered as the uncached method would answer from the current table. -/
def NeverStale (history : List Step) : Prop :=
  ∀ step ∈ history, IsCall step → answer step = uncached (deployed step)

/-- A call reads through the cache. -/
theorem getVersionInformation_eq_read (release : Release) (cache : Option VersionDto) :
    getVersionInformation release.versions cache = ReadThroughCache.read uncached release cache := by
  cases cache <;> rfl

/-- No call is stale exactly when all reads are fresh. -/
theorem neverStale_iff_fresh (history : List Step) :
    NeverStale history ↔ ∀ step ∈ history, ReadThroughCache.Fresh uncached step := by
  simp only [NeverStale, answer, getVersionInformation_eq_read]
  rfl

/-- A release has a greatest row, and the uncached method reports it. -/
theorem exists_greatest (release : Release) :
    ∃ row, release.versions.Greatest row ∧ uncached release = convertEntityToDto (some row) := by
  obtain ⟨row, hrow⟩ := VersionRepository.exists_findFirst1 release.nonempty
  rw [VersionRepository.findFirst1_eq_some_iff] at hrow
  exact ⟨row, hrow, (getVersionInformationBody_eq_iff row).mpr hrow⟩

/-- The uncached method never fails on a release. -/
theorem uncached_ok (release : Release) : ∃ dto, uncached release = .ok dto := by
  obtain ⟨row, -, hreport⟩ := exists_greatest release
  exact ⟨_, hreport⟩

/-- Without persistence the application never answers a stale version. -/
theorem neverStale_of_not_persistent {configuration : CacheConfiguration}
    (hvolatile : configuration.diskPersistent = false) {history : List Step}
    {s : ReadThroughCache.State Release VersionDto} (h : (application configuration).Run history s) :
    NeverStale history := by
  rw [neverStale_iff_fresh]
  rw [application, hvolatile] at h
  exact ReadThroughCache.run_fresh_of_cleared h

/-- With the cache as it is declared, no call of a run is stale exactly when the uncached method would
answer all of them alike. -/
theorem neverStale_iff_same_answer {history : List Step}
    {s : ReadThroughCache.State Release VersionDto} (h : (application versionCache).Run history s) :
    NeverStale history ↔ ∀ step ∈ history, ∀ step' ∈ history, IsCall step → IsCall step' →
      uncached (deployed step) = uncached (deployed step') := by
  rw [neverStale_iff_fresh, ReadThroughCache.run_fresh_iff_eq uncached_ok h]
  rfl

/-- With the cache as it is declared, no call of a run is stale exactly when one row is the greatest
one of every table that a call is made on. -/
theorem neverStale_iff {history : List Step} {s : ReadThroughCache.State Release VersionDto}
    (h : (application versionCache).Run history s) :
    NeverStale history ↔
      ∃ row, ∀ step ∈ history, IsCall step → (deployed step).versions.Greatest row := by
  rw [neverStale_iff_same_answer h]
  constructor
  · intro hsame
    by_cases hcalls : ∃ step ∈ history, IsCall step
    · obtain ⟨first, hfirst, hcall⟩ := hcalls
      obtain ⟨row, -, hreport⟩ := exists_greatest (deployed first)
      refine ⟨row, fun step hstep hcall' => ?_⟩
      rw [← getVersionInformationBody_eq_iff, ← hreport]
      exact hsame step hstep first hfirst hcall' hcall
    · refine ⟨⟨"", none, none⟩, fun step hstep hcall => ?_⟩
      exact absurd ⟨step, hstep, hcall⟩ hcalls
  · intro hgreatest step hstep step' hstep' hcall hcall'
    obtain ⟨row, hrow⟩ := hgreatest
    have hreport := (getVersionInformationBody_eq_iff row).mpr (hrow step hstep hcall)
    have hreport' := (getVersionInformationBody_eq_iff row).mpr (hrow step' hstep' hcall')
    exact hreport.trans hreport'.symm

/-- The application after its first call. -/
def called (release : Release) : ReadThroughCache.State Release VersionDto :=
  ⟨release, (getVersionInformation release.versions none).2⟩

/-- A call, an orderly restart with another release, and a second call. -/
def upgrade (release release' : Release) : List Step :=
  [⟨⟨release, none⟩, .read, called release⟩,
    ⟨called release, .replace release', ⟨release', (called release).cache⟩⟩,
    ⟨⟨release', (called release).cache⟩, .read,
      ⟨release', (getVersionInformation release'.versions (called release).cache).2⟩⟩]

/-- The application can be upgraded in this way. -/
theorem run_upgrade (release release' : Release) :
    ∃ s, (application versionCache).Run (upgrade release release') s := by
  have hcall : ∀ (r : Release) (cache : Option VersionDto), (application versionCache).step ⟨r, cache⟩
      .read ⟨r, (getVersionInformation r.versions cache).2⟩ := by
    intro r cache
    rw [getVersionInformation_eq_read]
    rfl
  have hrestart : (application versionCache).step (called release) (.replace release')
      ⟨release', (called release).cache⟩ := rfl
  have hstart : (application versionCache).Run [] ⟨release, none⟩ := .start rfl
  exact ⟨_, ((hstart.snoc (hcall release none)).snoc hrestart).snoc (hcall release' _)⟩

/-- A release with one row. -/
def singleRelease (row : Version) : Release where
  versions := ⟨[row], by simp⟩
  nonempty := by simp

/-- The row of such a release is its greatest one. -/
theorem greatest_singleRelease (row : Version) : (singleRelease row).versions.Greatest row := by
  refine ⟨List.mem_singleton_self row, fun other hother => ?_⟩
  rw [List.mem_singleton.mp hother]

/-- A restart of the same release answers nothing stale. -/
theorem neverStale_same_release :
    NeverStale (upgrade (singleRelease ⟨"2.0.1", none, none⟩) (singleRelease ⟨"2.0.1", none, none⟩)) := by
  obtain ⟨s, hrun⟩ :=
    run_upgrade (singleRelease ⟨"2.0.1", none, none⟩) (singleRelease ⟨"2.0.1", none, none⟩)
  refine (neverStale_iff hrun).mpr ⟨⟨"2.0.1", none, none⟩, fun step hstep _ => ?_⟩
  have hdeployed : deployed step = singleRelease ⟨"2.0.1", none, none⟩ := by
    rw [upgrade, List.mem_cons, List.mem_cons, List.mem_singleton] at hstep
    rcases hstep with rfl | rfl | rfl <;> rfl
  rw [hdeployed]
  exact greatest_singleRelease _

/-- After an upgrade from version 2.0.1 to version 2.0.2, version 2.0.1 is still answered. -/
theorem neverStale_upgrade :
    ∃ history s, (application versionCache).Run history s ∧
      history = upgrade (singleRelease ⟨"2.0.1", none, none⟩) (singleRelease ⟨"2.0.2", none, none⟩) ∧
        ¬ NeverStale history := by
  obtain ⟨s, hrun⟩ :=
    run_upgrade (singleRelease ⟨"2.0.1", none, none⟩) (singleRelease ⟨"2.0.2", none, none⟩)
  refine ⟨_, s, hrun, rfl, ?_⟩
  rw [neverStale_iff_same_answer hrun]
  intro hsame
  have hlast := hsame _ List.mem_cons_self _ (List.mem_of_mem_getLast? rfl) rfl rfl
  exact absurd hlast (by decide)

end VersionServiceImpl

end EventMonitor
