import EventMonitor.Library.KeyedTable
import EventMonitor.Library.TransitionSystem
import Mathlib.Data.Multiset.MapFold
import Mathlib.Data.Multiset.UnionInter

/-!
# Temporary rows of a shared table

Owners put rows into a table that they share, save them again and finally remove them. An
owner carries nothing but the key that its last save returned and the values of its row.
The key it asks for at first may be the key of a row that is not its own, and two owners
may end up with one key; this file says what holds nevertheless (no row is left without
an owner, rows that nobody asks for stay untouched), and what holds in addition when
every first save inserts a new row.
-/

namespace Library

namespace OwnedRows

variable {κ ν : Type*} [DecidableEq κ]

/-- The shared table, what each present owner carries, and the keys asked for so far. -/
structure State (κ ν : Type*) where
  table : KeyedTable κ ν
  owners : Multiset (κ × ν)
  requested : Multiset (Option κ)

/-- What an owner can do. -/
inductive Label (κ ν : Type*)
  | claim (source : KeySource κ) (requested : Option κ) (v : ν)
  | renew (source : KeySource κ) (k : κ) (v : ν)
  | release (k : κ) (v : ν)

/-- One save or removal; a renewed row keeps its values. -/
def Step (s : State κ ν) : Label κ ν → State κ ν → Prop
  | .claim source requested v, t =>
    t = ⟨(s.table.upsert source requested v).1,
      ((s.table.upsert source requested v).2, v) ::ₘ s.owners, requested ::ₘ s.requested⟩
  | .renew source k v, t => ∃ rest, s.owners = (k, v) ::ₘ rest ∧
    t = ⟨(s.table.upsert source (some k) v).1,
      ((s.table.upsert source (some k) v).2, v) ::ₘ rest, s.requested⟩
  | .release k v, t => ∃ rest, s.owners = (k, v) ::ₘ rest ∧ t = ⟨s.table.remove k, rest, s.requested⟩

/-- The transition system of the owners of rows in a table. -/
def system (initial : KeyedTable κ ν) : TransitionSystem (State κ ν) (Label κ ν) where
  init s := s = ⟨initial, 0, 0⟩
  step := Step

/-- Every row is an initial one or has an owner, and only requested initial rows are touched. -/
structure Owned (initial : KeyedTable κ ν) (s : State κ ν) : Prop where
  used_subset : initial.used ⊆ s.table.used
  origin : ∀ o ∈ s.owners, some o.1 ∈ s.requested ∨ o.1 ∉ initial.used
  owned : ∀ k v, s.table.lookup k = some v → initial.lookup k = some v ∨ ∃ v', (k, v') ∈ s.owners
  untouched : ∀ k ∈ initial.used, some k ∉ s.requested → s.table.lookup k = initial.lookup k
  requested_owned : ∀ k ∈ initial.used, some k ∈ s.requested → k ∈ s.table.rows →
    ∃ v, (k, v) ∈ s.owners

/-- A row of a written table is the written one or an old one. -/
theorem mem_rows_put {t : KeyedTable κ ν} {k k' : κ} {v : ν} (h : k' ∈ (t.put k v).rows) :
    k' = k ∨ k' ∈ t.rows := Finmap.mem_insert.mp h

/-- Writing a row for one owner keeps the ownership invariant, if the others still own the other rows
and the row is one that has been asked for or a new one. -/
theorem Owned.put {initial : KeyedTable κ ν} {s : State κ ν} (h : Owned initial s) {key : κ} (v : ν)
    {rest : Multiset (κ × ν)} {requested : Multiset (Option κ)} (hrest : ∀ o ∈ rest, o ∈ s.owners)
    (hothers : ∀ k w, k ≠ key → k ∈ s.table.rows → (k, w) ∈ s.owners → (k, w) ∈ rest)
    (horigin : some key ∈ requested ∨ key ∉ initial.used) (hkept : ∀ k ∈ s.requested, k ∈ requested)
    (hrequested : ∀ k, some k ∈ requested → k ≠ key → k ∈ s.table.rows → some k ∈ s.requested) :
    Owned initial ⟨s.table.put key v, (key, v) ::ₘ rest, requested⟩ := by
  refine ⟨h.used_subset.trans (s.table.used_subset_put _ _), ?_, ?_, ?_, ?_⟩
  · intro o ho
    rcases Multiset.mem_cons.mp ho with rfl | hother
    · exact horigin
    · exact (h.origin o (hrest o hother)).imp_left (hkept _)
  · intro k w hw
    by_cases hk : k = key
    · exact Or.inr ⟨v, hk ▸ Multiset.mem_cons_self _ _⟩
    · rw [KeyedTable.lookup_put_of_ne _ _ hk] at hw
      refine (h.owned k w hw).imp_right fun ⟨v', hv'⟩ => ⟨v', Multiset.mem_cons_of_mem ?_⟩
      exact hothers k v' hk (KeyedTable.mem_rows_iff.mpr ⟨w, hw⟩) hv'
  · intro k hused hnone
    have hk : k ≠ key := by
      rintro rfl
      exact horigin.elim hnone fun hnew => hnew hused
    rw [KeyedTable.lookup_put_of_ne _ _ hk]
    exact h.untouched k hused fun hmem => hnone (hkept _ hmem)
  · intro k hused hmem hrow
    by_cases hk : k = key
    · exact ⟨v, hk ▸ Multiset.mem_cons_self _ _⟩
    · have hrow' := (mem_rows_put hrow).resolve_left hk
      obtain ⟨w, hw⟩ := h.requested_owned k hused (hrequested k hmem hk hrow') hrow'
      exact ⟨w, Multiset.mem_cons_of_mem (hothers k w hk hrow' hw)⟩

/-- Claiming a row keeps the ownership invariant. -/
theorem Owned.claim {initial : KeyedTable κ ν} {s : State κ ν} (h : Owned initial s)
    (source : KeySource κ) (requested : Option κ) (v : ν) :
    Owned initial ⟨(s.table.upsert source requested v).1,
      ((s.table.upsert source requested v).2, v) ::ₘ s.owners, requested ::ₘ s.requested⟩ := by
  simp only [KeyedTable.upsert]
  have hkey := s.table.saveKey_cases source requested
  generalize s.table.saveKey source requested = key at hkey
  refine h.put v (fun o ho => ho) (fun k w _ _ hmem => hmem) ?_ (fun k => Multiset.mem_cons_of_mem) ?_
  · rcases hkey with ⟨k, rfl, -, rfl⟩ | ⟨-, hfresh⟩
    · exact Or.inl (Multiset.mem_cons_self _ _)
    · exact Or.inr fun hused => hfresh (h.used_subset hused)
  · intro k hmem hne hrow
    rcases Multiset.mem_cons.mp hmem with rfl | hbefore
    · rcases hkey with ⟨k', hk', -, rfl⟩ | ⟨habsent, -⟩
      · exact absurd (Option.some.inj hk') hne
      · exact absurd hrow (habsent k rfl)
    · exact hbefore

omit [DecidableEq κ] in
/-- An owner other than the one singled out is among the rest when its key differs. -/
theorem owner_of_present {s : State κ ν} {k k' : κ} {v w : ν} {rest : Multiset (κ × ν)}
    (howners : s.owners = (k, v) ::ₘ rest) (hmem : (k', w) ∈ s.owners) (hne : k' ≠ k) :
    (k', w) ∈ rest := by
  rw [howners] at hmem
  rcases Multiset.mem_cons.mp hmem with heq | hrest
  · exact absurd (congrArg Prod.fst heq) hne
  · exact hrest

/-- Renewing a row keeps the ownership invariant. -/
theorem Owned.renew {initial : KeyedTable κ ν} {s : State κ ν} (h : Owned initial s)
    (source : KeySource κ) {k : κ} {v : ν} {rest : Multiset (κ × ν)}
    (howners : s.owners = (k, v) ::ₘ rest) :
    Owned initial ⟨(s.table.upsert source (some k) v).1,
      ((s.table.upsert source (some k) v).2, v) ::ₘ rest, s.requested⟩ := by
  simp only [KeyedTable.upsert]
  have hkey := s.table.saveKey_cases source (some k)
  generalize s.table.saveKey source (some k) = key at hkey
  have hrest : ∀ o ∈ rest, o ∈ s.owners := fun o ho => howners ▸ Multiset.mem_cons_of_mem ho
  refine h.put v hrest (fun k' w hne hrow hmem => owner_of_present howners hmem ?_) ?_ (fun _ => id)
    fun k' hmem _ _ => hmem
  · -- a key other than the saved one is not the carried key, unless its row is gone
    rintro rfl
    rcases hkey with ⟨k'', hk'', -, rfl⟩ | ⟨habsent, -⟩
    · exact hne (Option.some.inj hk'')
    · exact habsent k' rfl hrow
  · rcases hkey with ⟨k', hk', -, rfl⟩ | ⟨-, hfresh⟩
    · obtain rfl := Option.some.inj hk'
      exact h.origin (k, v) (howners ▸ Multiset.mem_cons_self _ _)
    · exact Or.inr fun hused => hfresh (h.used_subset hused)

/-- Releasing a row keeps the ownership invariant. -/
theorem Owned.release {initial : KeyedTable κ ν} {s : State κ ν} (h : Owned initial s)
    {k : κ} {v : ν} {rest : Multiset (κ × ν)} (howners : s.owners = (k, v) ::ₘ rest) :
    Owned initial ⟨s.table.remove k, rest, s.requested⟩ := by
  have horigin := h.origin (k, v) (howners ▸ Multiset.mem_cons_self _ _)
  refine ⟨h.used_subset, ?_, ?_, ?_, ?_⟩
  · intro o ho
    exact h.origin o (howners ▸ Multiset.mem_cons_of_mem ho)
  · intro k' w hw
    have hne : k' ≠ k := by
      rintro rfl
      simp at hw
    rw [KeyedTable.lookup_remove_of_ne _ hne] at hw
    exact (h.owned k' w hw).imp_right fun ⟨v', hv'⟩ => ⟨v', owner_of_present howners hv' hne⟩
  · intro k' hused hrequested
    have hne : k' ≠ k := by
      rintro rfl
      exact horigin.elim hrequested fun hnew => hnew hused
    rw [KeyedTable.lookup_remove_of_ne _ hne]
    exact h.untouched k' hused hrequested
  · intro k' hused hrequested hrow
    obtain ⟨hne, hrow⟩ := Finmap.mem_erase.mp hrow
    obtain ⟨w, hw⟩ := h.requested_owned k' hused hrequested hrow
    exact ⟨w, owner_of_present howners hw hne⟩

/-- The ownership invariant holds whatever the owners do. -/
theorem owned_of_reachable {initial : KeyedTable κ ν} {s : State κ ν}
    (h : (system initial).Reachable s) : Owned initial s := by
  refine TransitionSystem.Reachable.invariant (fun s hs => ?_) (fun s l t ih hstep => ?_) h
  · obtain rfl : s = ⟨initial, 0, 0⟩ := hs
    exact ⟨subset_rfl, by simp, fun k v hv => Or.inl hv, fun k _ _ => rfl, by simp⟩
  · cases l with
    | claim source requested v =>
      obtain rfl := hstep
      exact ih.claim source requested v
    | renew source k v =>
      obtain ⟨rest, howners, rfl⟩ := hstep
      exact ih.renew source howners
    | release k v =>
      obtain ⟨rest, howners, rfl⟩ := hstep
      exact ih.release howners

/-- Without owners the table holds exactly the initial rows that nobody has asked for. -/
theorem Owned.lookup_of_no_owners {initial : KeyedTable κ ν} {s : State κ ν}
    (h : Owned initial s) (hnone : s.owners = 0) (k : κ) :
    s.table.lookup k = if some k ∈ s.requested then none else initial.lookup k := by
  have hinitial : ∀ v, s.table.lookup k = some v → initial.lookup k = some v := fun v hv =>
    (h.owned k v hv).resolve_right fun ⟨v', hv'⟩ => by simp [hnone] at hv'
  split
  next hrequested =>
    rw [KeyedTable.lookup_eq_none_iff]
    intro hrow
    obtain ⟨v, hv⟩ := KeyedTable.mem_rows_iff.mp hrow
    have hused := KeyedTable.mem_used_of_lookup (hinitial v hv)
    obtain ⟨w, hw⟩ := h.requested_owned k hused hrequested hrow
    simp [hnone] at hw
  next hrequested =>
    by_cases hused : k ∈ initial.used
    · exact h.untouched k hused hrequested
    · have hnew : ∀ v, initial.lookup k ≠ some v := fun v hv =>
        hused (KeyedTable.mem_used_of_lookup hv)
      have hgone : ∀ v, s.table.lookup k ≠ some v := fun v hv => hnew v (hinitial v hv)
      rw [Option.eq_none_iff_forall_ne_some.mpr hnew, Option.eq_none_iff_forall_ne_some.mpr hgone]

section Isolation

/-- Every owner has a row of its own, and the initial rows are as they were. -/
structure Isolated (initial : KeyedTable κ ν) (s : State κ ν) : Prop where
  used_subset : initial.used ⊆ s.table.used
  own : ∀ o ∈ s.owners, s.table.lookup o.1 = some o.2
  distinct : (s.owners.map Prod.fst).Nodup
  new : ∀ o ∈ s.owners, o.1 ∉ initial.used
  kept : ∀ k v, initial.lookup k = some v → s.table.lookup k = some v

/-- The runs in which every first save inserts a new row. -/
def inserting (initial : KeyedTable κ ν) : TransitionSystem (State κ ν) (Label κ ν) :=
  (system initial).restrict fun taken => ∀ source requested v,
    taken.label = .claim source requested v → ∀ k, requested = some k → k ∉ taken.source.table.rows

/-- The keys of the other owners of a renewed or released row. -/
theorem Isolated.nodup_cons {initial : KeyedTable κ ν} {s : State κ ν} (h : Isolated initial s)
    {k : κ} {v : ν} {rest : Multiset (κ × ν)} (howners : s.owners = (k, v) ::ₘ rest) :
    k ∉ rest.map Prod.fst ∧ (rest.map Prod.fst).Nodup := by
  have hnodup := h.distinct
  rwa [howners, Multiset.map_cons, Multiset.nodup_cons] at hnodup

/-- Other owners of a renewed or released row carry other keys. -/
theorem Isolated.ne_of_mem_rest {initial : KeyedTable κ ν} {s : State κ ν}
    (h : Isolated initial s) {k : κ} {v : ν} {rest : Multiset (κ × ν)}
    (howners : s.owners = (k, v) ::ₘ rest) : ∀ o ∈ rest, o.1 ≠ k :=
  fun o ho heq => (h.nodup_cons howners).1 (Multiset.mem_map.mpr ⟨o, ho, heq⟩)

/-- Writing a row that no other owner and no initial row has. -/
theorem Isolated.put {initial : KeyedTable κ ν} {s : State κ ν} (h : Isolated initial s) {key : κ}
    (v : ν) {rest : Multiset (κ × ν)} (requested : Multiset (Option κ))
    (hrest : ∀ o ∈ rest, o ∈ s.owners ∧ o.1 ≠ key) (hdistinct : (rest.map Prod.fst).Nodup)
    (hnew : key ∉ initial.used) :
    Isolated initial ⟨s.table.put key v, (key, v) ::ₘ rest, requested⟩ := by
  refine ⟨h.used_subset.trans (s.table.used_subset_put _ _), ?_, ?_, ?_, ?_⟩
  · intro o ho
    rcases Multiset.mem_cons.mp ho with rfl | hother
    · exact KeyedTable.lookup_put_self _ _ _
    · obtain ⟨hold, hne⟩ := hrest o hother
      rw [KeyedTable.lookup_put_of_ne _ _ hne]
      exact h.own o hold
  · rw [Multiset.map_cons, Multiset.nodup_cons]
    refine ⟨fun hmem => ?_, hdistinct⟩
    obtain ⟨o, ho, heq⟩ := Multiset.mem_map.mp hmem
    exact (hrest o ho).2 heq
  · intro o ho
    rcases Multiset.mem_cons.mp ho with rfl | hother
    · exact hnew
    · exact h.new o (hrest o hother).1
  · intro k w hw
    have hne : k ≠ key := by
      rintro rfl
      exact hnew (KeyedTable.mem_used_of_lookup hw)
    rw [KeyedTable.lookup_put_of_ne _ _ hne]
    exact h.kept k w hw

/-- Inserting a row keeps the owners apart. -/
theorem Isolated.claim {initial : KeyedTable κ ν} {s : State κ ν} (h : Isolated initial s)
    (source : KeySource κ) {requested : Option κ} (v : ν)
    (habsent : ∀ k, requested = some k → k ∉ s.table.rows) :
    Isolated initial ⟨(s.table.upsert source requested v).1,
      ((s.table.upsert source requested v).2, v) ::ₘ s.owners, requested ::ₘ s.requested⟩ := by
  have hfresh := source.next_notMem s.table.used
  rw [KeyedTable.upsert, KeyedTable.saveKey_of_absent source habsent]
  refine h.put v _ (fun o ho => ⟨ho, fun heq => ?_⟩) h.distinct fun hused => hfresh (h.used_subset hused)
  exact hfresh (heq ▸ KeyedTable.mem_used_of_lookup (h.own o ho))

/-- Renewing a row keeps the owners apart. -/
theorem Isolated.renew {initial : KeyedTable κ ν} {s : State κ ν} (h : Isolated initial s)
    (source : KeySource κ) {k : κ} {v : ν} {rest : Multiset (κ × ν)}
    (howners : s.owners = (k, v) ::ₘ rest) :
    Isolated initial ⟨(s.table.upsert source (some k) v).1,
      ((s.table.upsert source (some k) v).2, v) ::ₘ rest, s.requested⟩ := by
  have hmem : (k, v) ∈ s.owners := howners ▸ Multiset.mem_cons_self _ _
  have hrow : k ∈ s.table.rows := KeyedTable.mem_rows_iff.mpr ⟨v, h.own _ hmem⟩
  rw [KeyedTable.upsert, KeyedTable.saveKey_of_mem source hrow]
  refine h.put v _ (fun o ho => ⟨howners ▸ Multiset.mem_cons_of_mem ho, h.ne_of_mem_rest howners o ho⟩)
    (h.nodup_cons howners).2 (h.new _ hmem)

/-- Releasing a row keeps the owners apart. -/
theorem Isolated.release {initial : KeyedTable κ ν} {s : State κ ν} (h : Isolated initial s)
    {k : κ} {v : ν} {rest : Multiset (κ × ν)} (howners : s.owners = (k, v) ::ₘ rest) :
    Isolated initial ⟨s.table.remove k, rest, s.requested⟩ := by
  have hmem : (k, v) ∈ s.owners := howners ▸ Multiset.mem_cons_self _ _
  have hrest : ∀ o ∈ rest, o ∈ s.owners := fun o ho => howners ▸ Multiset.mem_cons_of_mem ho
  refine ⟨h.used_subset, ?_, (h.nodup_cons howners).2, fun o ho => h.new o (hrest o ho), ?_⟩
  · intro o ho
    rw [KeyedTable.lookup_remove_of_ne _ (h.ne_of_mem_rest howners o ho)]
    exact h.own o (hrest o ho)
  · intro k' w hw
    have hne : k' ≠ k := by
      rintro rfl
      exact h.new _ hmem (KeyedTable.mem_used_of_lookup hw)
    rw [KeyedTable.lookup_remove_of_ne _ hne]
    exact h.kept k' w hw

/-- When first saves insert, owners never share a row and never touch an initial one. -/
theorem isolated_of_reachable {initial : KeyedTable κ ν} {s : State κ ν}
    (h : (inserting initial).Reachable s) : Isolated initial s := by
  refine TransitionSystem.Reachable.invariant (fun s hs => ?_) (fun s l t ih hstep => ?_) h
  · obtain rfl : s = ⟨initial, 0, 0⟩ := hs
    exact ⟨subset_rfl, by simp, by simp, by simp, fun k v hv => hv⟩
  · obtain ⟨hstep, hguard⟩ := hstep
    cases l with
    | claim source requested v =>
      obtain rfl := hstep
      exact ih.claim source v (hguard source requested v rfl)
    | renew source k v =>
      obtain ⟨rest, howners, rfl⟩ := hstep
      exact ih.renew source howners
    | release k v =>
      obtain ⟨rest, howners, rfl⟩ := hstep
      exact ih.release howners

end Isolation

end OwnedRows

end Library
