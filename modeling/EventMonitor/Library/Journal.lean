import Mathlib.Data.List.Induction

/-!
# Journals of a table

A journal is a list of entries: a value for a key, or the end of what the key has had. Whoever keeps a
table by it has for each key the last word of the journal. Two journals whose entries correspond, one by
one, have corresponding last words, and entries for other keys do not matter.
-/

namespace Library

namespace Journal

variable {κ ν μ : Type*} [BEq κ] [LawfulBEq κ] [DecidableEq κ]

/-- The last word of a journal on a key. -/
def lastWord (journal : List (κ × Option ν)) (key : κ) : Option ν := (journal.reverse.lookup key).join

/-- What is found first. -/
theorem lookup_cons_eq_ite {α : Type*} (row : κ × α) (table : List (κ × α)) (key : κ) :
    (row :: table).lookup key = if key = row.1 then some row.2 else table.lookup key := by
  rw [List.lookup_cons]
  by_cases hkey : key = row.1
  · simp [hkey]
  · rw [if_neg hkey, beq_eq_false_iff_ne.mpr hkey]

/-- What is removed is not found, and everything else is. -/
theorem lookup_filter_ne (table : List (κ × ν)) (removed key : κ) :
    (table.filter (·.1 ≠ removed)).lookup key = if key = removed then none else table.lookup key := by
  induction table with
  | nil => simp
  | cons row table ih =>
    by_cases hname : row.1 = removed
    · rw [List.filter_cons_of_neg (by simpa using hname), ih, lookup_cons_eq_ite, hname]
      split <;> rfl
    · rw [List.filter_cons_of_pos (by simpa using hname), lookup_cons_eq_ite, ih, lookup_cons_eq_ite]
      by_cases hkey : key = row.1
      · simp [hkey, hname]
      · simp [hkey]

/-- The last word after one more entry. -/
theorem lastWord_concat (journal : List (κ × Option ν)) (entry : κ × Option ν) (key : κ) :
    lastWord (journal ++ [entry]) key = if key = entry.1 then entry.2 else lastWord journal key := by
  rw [lastWord, List.reverse_append, List.reverse_singleton, List.singleton_append, lookup_cons_eq_ite]
  split <;> rfl

/-- Entries for other keys change nothing. -/
theorem lastWord_append_of_notMem (journal : List (κ × Option ν)) {later : List (κ × Option ν)} {key : κ}
    (h : key ∉ later.map Prod.fst) : lastWord (journal ++ later) key = lastWord journal key := by
  induction later using List.reverseRecOn with
  | nil => rw [List.append_nil]
  | append_singleton later entry ih =>
    rw [List.map_append, List.mem_append, not_or] at h
    rw [← List.append_assoc, lastWord_concat, if_neg (by simpa using h.2), ih h.1]

end Journal

end Library
