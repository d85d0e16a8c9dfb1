import Mathlib.Data.List.Nodup
import Mathlib.Data.List.Perm.Subperm

/-!
# Readers of a log

A log grows at its end, and its readers refer to its entries by their numbers. What has been read stays
the same when the log grows. A reader that has not taken a number twice has read no entry more often
than it is in the log, and one that has taken all numbers from some point on has read the rest of it.
-/

namespace Library

namespace LogReaders

variable {α β : Type*} {log log' : List α} {numbers numbers' : List ℕ}

/-- The entries with the given numbers. -/
def entries (log : List α) (numbers : List ℕ) : List α := numbers.filterMap (log[·]?)

/-- Numbers after numbers. -/
theorem entries_append (log : List α) (numbers numbers' : List ℕ) :
    entries log (numbers ++ numbers') = entries log numbers ++ entries log numbers' :=
  List.filterMap_append

/-- The numbers in another order. -/
theorem entries_perm (log : List α) (h : numbers.Perm numbers') :
    (entries log numbers).Perm (entries log numbers') := h.filterMap _

/-- What has been read stays when the log grows. -/
theorem entries_of_prefix (h : log <+: log') (hnumbers : ∀ n ∈ numbers, n < log.length) :
    entries log' numbers = entries log numbers := by
  obtain ⟨later, rfl⟩ := h
  apply List.filterMap_congr
  intro n hmem
  exact List.getElem?_append_left (hnumbers n hmem)

/-- Only entries of the log are read. -/
theorem mem_of_mem_entries {a : α} (h : a ∈ entries log numbers) : ∃ n ∈ numbers, log[n]? = some a :=
  List.mem_filterMap.mp h

/-- All numbers from some point on are those of the rest. -/
theorem entries_range' (log : List α) (start : ℕ) :
    entries log (List.range' start (log.length - start)) = log.drop start := by
  induction hrest : log.length - start generalizing start with
  | zero => rw [List.range'_zero, List.drop_of_length_le (by omega), entries, List.filterMap_nil]
  | succ rest ih =>
    have hlt : start < log.length := by omega
    rw [List.range'_succ, entries, List.filterMap_cons, List.getElem?_eq_getElem hlt, ← entries,
      ih (start + 1) (by omega), List.drop_eq_getElem_cons hlt]

/-- Numbers that are counted from some entry on. -/
theorem entries_map_add (log : List α) (start : ℕ) (numbers : List ℕ) :
    entries log (numbers.map (start + ·)) = entries (log.drop start) numbers := by
  rw [entries, List.filterMap_map]
  exact List.filterMap_congr fun n _ => List.getElem?_drop.symm

/-- A reader that takes no number twice reads no entry more often than it is in the log. -/
theorem entries_subperm (log : List α) (h : numbers.Nodup) : (entries log numbers).Subperm log := by
  have hall := entries_range' log 0
  rw [Nat.sub_zero, List.drop_zero] at hall
  have hvalid : entries log numbers = entries log (numbers.filter (· < log.length)) := by
    rw [entries, entries, List.filterMap_filter]
    apply List.filterMap_congr
    intro n _
    by_cases hlt : n < log.length
    · simp [hlt]
    · simp [hlt]
  have hsubset : (numbers.filter (· < log.length)).Subperm (List.range' 0 log.length) := by
    apply List.subperm_of_subset (h.filter _)
    intro n hmem
    simpa using List.of_mem_filter hmem
  obtain ⟨taken, hperm, hsublist⟩ := hsubset
  have hread := (hsublist.filterMap (log[·]?)).subperm
  rw [← entries, ← entries, hall] at hread
  rw [hvalid]
  exact (entries_perm log hperm).symm.subperm.trans hread

/-- Part of a list, in any order, seen through a function. -/
theorem subperm_map {l l' : List α} (h : l.Subperm l') (f : α → β) : (l.map f).Subperm (l'.map f) := by
  obtain ⟨taken, hperm, hsublist⟩ := h
  exact ⟨taken.map f, hperm.map f, hsublist.map f⟩

/-- Readers that agree with the log about what they have read. -/
theorem map_entries {γ : Type*} {seen : List γ} {number : γ → ℕ} {view : α → β} {seenAs : γ → β}
    (h : ∀ x ∈ seen, (log[number x]?).map view = some (seenAs x)) :
    (entries log (seen.map number)).map view = seen.map seenAs := by
  induction seen with
  | nil => rfl
  | cons x seen ih =>
    have hhead := h x List.mem_cons_self
    have htail := ih fun y hmem => h y (List.mem_cons_of_mem _ hmem)
    obtain ⟨a, hget, ha⟩ := Option.map_eq_some_iff.mp hhead
    rw [List.map_cons, List.map_cons, ← htail, ← ha, entries, List.filterMap_cons, hget]
    rfl

end LogReaders

end Library
