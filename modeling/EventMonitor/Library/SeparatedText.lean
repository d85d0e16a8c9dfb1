import Mathlib.Data.List.Basic

/-!
# Texts that are read at a separator

A text that is put together around a separator can be taken apart again when the part on one side
of it does not contain the separator: at its first occurrence when this is the part before, at its
last one when this is the part behind. The part on the other side may be any text.
-/

namespace Library

namespace SeparatedText

variable {α : Type*} {c : α} {xs ys as bs : List α}

/-- A text is taken apart at the first occurrence of the separator. -/
theorem append_cons_inj_of_notMem_before (hxs : c ∉ xs) (hys : c ∉ ys) :
    xs ++ c :: as = ys ++ c :: bs ↔ xs = ys ∧ as = bs := by
  constructor
  · intro h
    induction xs generalizing ys with
    | nil =>
      cases ys with
      | nil => exact ⟨rfl, (List.cons.inj h).2⟩
      | cons y ys =>
        obtain rfl : c = y := (List.cons.inj h).1
        exact absurd List.mem_cons_self hys
    | cons x xs ih =>
      cases ys with
      | nil =>
        obtain rfl : x = c := (List.cons.inj h).1
        exact absurd List.mem_cons_self hxs
      | cons y ys =>
        obtain ⟨rfl, hrest⟩ := List.cons.inj h
        have hsame := ih (fun hmem => hxs (List.mem_cons_of_mem _ hmem))
          (fun hmem => hys (List.mem_cons_of_mem _ hmem)) hrest
        exact ⟨congrArg (List.cons x) hsame.1, hsame.2⟩
  · intro h
    rw [h.1, h.2]

/-- A text is taken apart at the last occurrence of the separator. -/
theorem append_cons_inj_of_notMem_behind (has : c ∉ as) (hbs : c ∉ bs) :
    xs ++ c :: as = ys ++ c :: bs ↔ xs = ys ∧ as = bs := by
  rw [← List.reverse_inj, List.reverse_append, List.reverse_append, List.reverse_cons,
    List.reverse_cons, List.append_assoc, List.append_assoc, List.singleton_append,
    List.singleton_append, append_cons_inj_of_notMem_before (by simpa using has) (by simpa using hbs),
    List.reverse_inj, List.reverse_inj]
  exact And.comm

end SeparatedText

end Library
