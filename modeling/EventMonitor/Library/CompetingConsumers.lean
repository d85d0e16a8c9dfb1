import EventMonitor.Library.TransitionSystem
import Mathlib.Data.List.Nodup
import Mathlib.Data.List.Perm.Basic
import Mathlib.Data.List.Lattice
import Mathlib.Data.Multiset.AddSub

/-!
# A queue drained by competing consumers

Messages arrive in one order and are handed out in that order, each to one consumer. The
consumers then run independently: a held message is finished, or lost by a consumer that
fails, at any later time. Nothing is duplicated, whatever the interleaving. The order of
arrival survives only per key and only as long as no two messages of one key are held at
the same time.
-/

namespace Library

/-- A list splits at every slot it has; erasing and replacing the slot keep the two sides. -/
theorem exists_split_of_getElem? {α : Type*} {l : List α} {i : ℕ} {a : α} (h : l[i]? = some a) :
    ∃ before after, l = before ++ a :: after ∧ l.eraseIdx i = before ++ after ∧
      ∀ b, l.set i b = before ++ b :: after := by
  obtain ⟨hi, rfl⟩ := List.getElem?_eq_some_iff.mp h
  refine ⟨l.take i, l.drop (i + 1), ?_, List.eraseIdx_eq_take_drop_succ .., fun b => ?_⟩
  · rw [List.getElem_cons_drop, List.take_append_drop]
  · rw [List.set_eq_take_append_cons_drop, if_pos hi]

namespace CompetingConsumers

variable {μ κ : Type*}

/-- The queue with its history: what arrived, what waits, what consumers hold, what is finished. -/
structure State (μ : Type*) where
  arrived : List μ
  waiting : List μ
  held : List μ
  finished : List μ

/-- What can happen to the queue. -/
inductive Label (μ : Type*)
  | arrive (m : μ)
  | take
  | finish (i : ℕ)
  | lose (i : ℕ)

/-- One step; a consumer takes the oldest waiting message. -/
def step (s : State μ) : Label μ → Option (State μ)
  | .arrive m => some { s with arrived := s.arrived ++ [m], waiting := s.waiting ++ [m] }
  | .take =>
    match s.waiting with
    | m :: rest => some { s with waiting := rest, held := s.held ++ [m] }
    | [] => none
  | .finish i =>
    match s.held[i]? with
    | some m => some { s with held := s.held.eraseIdx i, finished := s.finished ++ [m] }
    | none => none
  | .lose i =>
    match s.held[i]? with
    | some _ => some { s with held := s.held.eraseIdx i }
    | none => none

/-- The queue starts empty. -/
def start : State μ := ⟨[], [], [], []⟩

/-- The transition system of the queue. -/
def system (μ : Type*) : TransitionSystem (State μ) (Label μ) :=
  .ofStep (· = start) step

/-- What one step can do, with the held list split at the slot that the step is about. -/
theorem step_cases {s t : State μ} {l : Label μ} (h : step s l = some t) :
    (∃ m, l = .arrive m ∧ t = { s with arrived := s.arrived ++ [m], waiting := s.waiting ++ [m] }) ∨
    (∃ m rest, l = .take ∧ s.waiting = m :: rest ∧
      t = { s with waiting := rest, held := s.held ++ [m] }) ∨
    (∃ i m before after, l = .finish i ∧ s.held = before ++ m :: after ∧
      t = { s with held := before ++ after, finished := s.finished ++ [m] }) ∨
    (∃ i m before after, l = .lose i ∧ s.held = before ++ m :: after ∧
      t = { s with held := before ++ after }) := by
  cases l with
  | arrive m => exact Or.inl ⟨m, rfl, by simpa [step] using h.symm⟩
  | take =>
    simp only [step] at h
    split at h
    · next m rest hw => exact Or.inr (Or.inl ⟨m, rest, rfl, hw, by simpa using h.symm⟩)
    · contradiction
  | finish i =>
    simp only [step] at h
    split at h
    · next m hm =>
      obtain ⟨before, after, hheld, herase, -⟩ := exists_split_of_getElem? hm
      rw [herase] at h
      exact Or.inr (Or.inr (Or.inl ⟨i, m, before, after, rfl, hheld, by simpa using h.symm⟩))
    · contradiction
  | lose i =>
    simp only [step] at h
    split at h
    · next m hm =>
      obtain ⟨before, after, hheld, herase, -⟩ := exists_split_of_getElem? hm
      rw [herase] at h
      exact Or.inr (Or.inr (Or.inr ⟨i, m, before, after, rfl, hheld, by simpa using h.symm⟩))
    · contradiction

/-- The messages that are still accounted for, finished ones first. -/
def State.present (s : State μ) : List μ := s.finished ++ (s.held ++ s.waiting)

/-- What is accounted for after one step: arrivals are, taking and finishing change nothing, and a
lost message is not any more. -/
theorem present_step {s t : State μ} {l : Label μ} (h : step s l = some t) :
    (∃ m, t.arrived = s.arrived ++ [m] ∧ t.present = s.present ++ [m]) ∨
    (t.arrived = s.arrived ∧ t.present.Perm s.present) ∨
    ((∃ i, l = .lose i) ∧ t.arrived = s.arrived ∧ t.present.Sublist s.present) := by
  unfold State.present
  rcases step_cases h with ⟨m, -, rfl⟩ | ⟨m, rest, -, hw, rfl⟩ |
    ⟨i, m, before, after, -, hheld, rfl⟩ | ⟨i, m, before, after, hl, hheld, rfl⟩
  · exact Or.inl ⟨m, rfl, by simp⟩
  · exact Or.inr (Or.inl ⟨rfl, by simp [hw]⟩)
  · have hmove : (m :: (before ++ (after ++ s.waiting))).Perm
        (before ++ m :: (after ++ s.waiting)) := List.perm_middle.symm
    refine Or.inr (Or.inl ⟨rfl, ?_⟩)
    simpa [hheld, List.append_assoc] using hmove.append_left s.finished
  · have hdrop : (before ++ after).Sublist s.held :=
      hheld ▸ (List.sublist_cons_self m after).append_left before
    exact Or.inr (Or.inr ⟨⟨i, hl⟩, rfl, (hdrop.append_right s.waiting).append_left s.finished⟩)

/-- No message is finished, held or waiting more often than it arrived. -/
theorem present_subperm {s : State μ} (h : (system μ).Reachable s) :
    s.present.Subperm s.arrived := by
  refine TransitionSystem.Reachable.invariant (P := fun s => s.present.Subperm s.arrived)
    (fun s hs => ?_) (fun s l t ih hstep => ?_) h
  · obtain rfl : s = start := hs
    exact List.Subperm.refl _
  · rcases present_step hstep with ⟨m, harrived, hpresent⟩ | ⟨harrived, hperm⟩ | ⟨-, harrived, hsub⟩
    · rw [harrived, hpresent]
      exact (List.subperm_append_right [m]).mpr ih
    · rw [harrived]
      exact hperm.subperm.trans ih
    · rw [harrived]
      exact hsub.subperm.trans ih

/-- The runs in which no consumer fails. -/
def lossless (μ : Type*) : TransitionSystem (State μ) (Label μ) :=
  (system μ).restrict fun taken => ∀ i, taken.label ≠ .lose i

/-- Without failing consumers every arrived message is accounted for exactly once. -/
theorem lossless_perm {s : State μ} (h : (lossless μ).Reachable s) : s.present.Perm s.arrived := by
  refine TransitionSystem.Reachable.invariant (P := fun s => s.present.Perm s.arrived)
    (fun s hs => ?_) (fun s l t ih hstep => ?_) h
  · obtain rfl : s = start := hs
    exact List.Perm.refl _
  · rcases present_step hstep.1 with ⟨m, harrived, hpresent⟩ | ⟨harrived, hperm⟩ | ⟨⟨i, hl⟩, -⟩
    · rw [harrived, hpresent]
      exact ih.append_right [m]
    · rw [harrived]
      exact hperm.trans ih
    · exact absurd hl (hstep.2 i)

section Order

variable (key : μ → κ)

/-- A message is taken only while no consumer holds another message of its key. -/
def exclusive : TransitionSystem (State μ) (Label μ) :=
  (system μ).restrict fun taken =>
    taken.label = .take → ∀ m ∈ taken.source.waiting.head?, ∀ m' ∈ taken.source.held, key m' ≠ key m

/-- Under exclusive taking the held messages have distinct keys. -/
theorem exclusive_held_nodup {s : State μ} (h : (exclusive key).Reachable s) :
    (s.held.map key).Nodup := by
  refine TransitionSystem.Reachable.invariant (P := fun s => (s.held.map key).Nodup)
    (fun s hs => ?_) (fun s l t ih hstep => ?_) h
  · obtain rfl : s = start := hs
    exact List.nodup_nil
  · rcases step_cases hstep.1 with ⟨m, -, rfl⟩ | ⟨m, rest, hl, hw, rfl⟩ |
      ⟨i, m, before, after, -, hheld, rfl⟩ | ⟨i, m, before, after, -, hheld, rfl⟩
    · exact ih
    · have hfree := hstep.2 hl m (by simp [hw])
      simp only [List.map_append, List.map_cons, List.map_nil]
      refine List.Nodup.append ih (List.nodup_singleton _) ?_
      intro k hk hk'
      obtain ⟨m', hm', rfl⟩ := List.mem_map.mp hk
      exact hfree m' hm' (List.mem_singleton.mp hk')
    all_goals
      rw [hheld] at ih
      exact ih.sublist (((List.sublist_cons_self m after).append_left before).map key)

/-- Under exclusive taking the messages of one key stay in the order in which they arrived. -/
theorem exclusive_present_sublist [DecidableEq κ] {s : State μ} (h : (exclusive key).Reachable s) (k : κ) :
    (s.present.filter (key · = k)).Sublist (s.arrived.filter (key · = k)) := by
  refine TransitionSystem.Reachable.induct
    (P := fun s => (s.present.filter (key · = k)).Sublist (s.arrived.filter (key · = k)))
    (fun s hs => ?_) (fun s l t hs ih hstep => ?_) h
  · obtain rfl : s = start := hs
    exact List.Sublist.refl _
  · unfold State.present at ih ⊢
    rcases step_cases hstep.1 with ⟨m, -, rfl⟩ | ⟨m, rest, -, hw, rfl⟩ |
      ⟨i, m, before, after, -, hheld, rfl⟩ | ⟨i, m, before, after, -, hheld, rfl⟩
    · have hgrow := ih.append (List.Sublist.refl ([m].filter (key · = k)))
      simpa only [← List.filter_append, List.append_assoc] using hgrow
    · rw [hw] at ih
      simpa [List.append_assoc] using ih
    · -- a finished message overtakes only held messages of other keys
      have hnodup := exclusive_held_nodup key hs
      rw [hheld] at ih hnodup
      have hsame : (s.finished ++ [m] ++ (before ++ after ++ s.waiting)).filter (key · = k) =
          (s.finished ++ (before ++ m :: after ++ s.waiting)).filter (key · = k) := by
        by_cases hm : key m = k
        · have hbefore : before.filter (key · = k) = [] := by
            refine List.filter_eq_nil_iff.mpr fun m' hm' => ?_
            rw [List.map_append, List.map_cons] at hnodup
            have hdisjoint := (List.nodup_append.mp hnodup).2.2 (key m') (List.mem_map_of_mem hm')
              (key m) List.mem_cons_self
            simpa [hm] using hdisjoint
          simp [List.filter_append, hbefore, hm]
        · simp [List.filter_append, hm]
      rw [hsame]
      exact ih
    · rw [hheld] at ih
      refine List.Sublist.trans (List.Sublist.filter _ ?_) ih
      have hdrop : (before ++ after ++ s.waiting).Sublist (before ++ m :: after ++ s.waiting) :=
        List.Sublist.append ((List.sublist_cons_self m after).append_left before) (.refl _)
      exact hdrop.append_left s.finished

/-- Under exclusive taking the finished messages of one key are in the order of their arrival. -/
theorem exclusive_finished_sublist [DecidableEq κ] {s : State μ} (h : (exclusive key).Reachable s) (k : κ) :
    (s.finished.filter (key · = k)).Sublist (s.arrived.filter (key · = k)) := by
  refine List.Sublist.trans ?_ (exclusive_present_sublist key h k)
  exact (List.sublist_append_left _ _).filter _

end Order

end CompetingConsumers

end Library
