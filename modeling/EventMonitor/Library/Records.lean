import Mathlib.Data.List.Basic

/-!
# Records that end with a separator

A stream of records, each of which is followed by a separator, as it is read from its beginning. A
reader that has taken some records can go on behind them when more of the stream has arrived: it
does not matter where the stream has been cut.
-/

namespace Library

namespace Records

variable {α : Type*} [DecidableEq α] (sep : α)

/-- The stream of some records. -/
def write (records : List (List α)) : List α := records.flatMap (· ++ [sep])

/-- The complete records of a stream. -/
def read (stream : List α) : List (List α) := (stream.splitOn sep).dropLast

variable {sep}

omit [DecidableEq α] in
/-- A record and those behind it. -/
theorem write_cons (record : List α) (records : List (List α)) :
    write sep (record :: records) = record ++ sep :: write sep records := by
  simp [write]

omit [DecidableEq α] in
/-- More records are written behind. -/
theorem write_concat (records : List (List α)) (record : List α) :
    write sep (records ++ [record]) = write sep records ++ (record ++ [sep]) := by
  simp [write]

/-- Without a separator there is no complete record. -/
theorem read_of_notMem {rest : List α} (h : sep ∉ rest) : read sep rest = [] := by
  rw [read, List.splitOn_eq_singleton h]
  rfl

/-- The first record is what stands before the first separator. -/
theorem read_cons {record rest : List α} (h : sep ∉ record) :
    read sep (record ++ sep :: rest) = record :: read sep rest := by
  rw [read, List.splitOn_append_cons_self_of_not_mem h,
    List.dropLast_cons_of_ne_nil (List.splitOn_ne_nil sep rest)]
  rfl

/-- Reading goes on behind the records that have been written. -/
theorem read_write_append {records : List (List α)} (h : ∀ record ∈ records, sep ∉ record) (rest : List α) :
    read sep (write sep records ++ rest) = records ++ read sep rest := by
  induction records with
  | nil => rfl
  | cons record records ih =>
    rw [write_cons, List.append_assoc, List.cons_append, read_cons (h record List.mem_cons_self),
      ih fun other hmem => h other (List.mem_cons_of_mem _ hmem)]
    rfl

/-- A stream is cut at its first separator. -/
theorem cut_of_idxOf? {stream : List α} {p : ℕ} (h : stream.idxOf? sep = some p) :
    sep ∉ stream.take p ∧ stream = stream.take p ++ sep :: stream.drop (p + 1) := by
  obtain ⟨hlt, hget, hfirst⟩ := List.idxOf?_eq_some_iff.mp h
  constructor
  · intro hmem
    obtain ⟨i, hi, hsep⟩ := List.mem_iff_getElem.mp hmem
    rw [List.length_take] at hi
    rw [List.getElem_take] at hsep
    exact hfirst i (by omega) hsep
  · have hcut := (List.take_append_drop p stream).symm
    rwa [List.drop_eq_getElem_cons hlt, hget] at hcut

end Records

end Library
