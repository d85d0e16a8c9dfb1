import EventMonitor.Library.TransitionSystem
import Mathlib.Algebra.BigOperators.Group.List.Basic
import Mathlib.Algebra.GroupWithZero.Nat
import Mathlib.Algebra.Order.Group.Nat

/-!
# Systems that work off what they are given

Some steps bring in work from outside, with a credit that pays for everything it will cause;
every step is paid for. Then the length of a run is bounded by the credit it has been given,
and a system that can always go on while it is not idle becomes idle.
-/

namespace Library

namespace TransitionSystem

variable {σ lab : Type*} {S : TransitionSystem σ lab}

/-- A finite path from any state, with its steps in the order in which they are taken. -/
inductive Path (S : TransitionSystem σ lab) : σ → List (Taken σ lab) → σ → Prop
  | nil (s : σ) : Path S s [] s
  | cons {s u t : σ} {l : lab} {later : List (Taken σ lab)} :
      S.step s l u → Path S u later t → Path S s (⟨s, l, u⟩ :: later) t

/-- A run goes on along a path. -/
theorem Run.append {history later : List (Taken σ lab)} {s t : σ} (h : S.Run history s)
    (hlater : S.Path s later t) : S.Run (history ++ later) t := by
  induction hlater generalizing history with
  | nil => simpa using h
  | cons hstep _ ih =>
    rw [List.append_cons]
    exact ih (h.snoc hstep)

/-- What is reachable stays reachable along a path. -/
theorem Reachable.append {later : List (Taken σ lab)} {s t : σ} (h : S.Reachable s)
    (hlater : S.Path s later t) : S.Reachable t := by
  obtain ⟨history, hrun⟩ := h
  exact ⟨_, hrun.append hlater⟩

/-- What every step of a path keeps is kept by the path. -/
theorem Path.keeps {α : Type*} {view : σ → α} {later : List (Taken σ lab)} {s t : σ}
    (h : S.Path s later t) (hkeeps : ∀ taken ∈ later, S.step taken.source taken.label taken.target →
      view taken.target = view taken.source) : view t = view s := by
  induction h with
  | nil => rfl
  | cons hstep _ ih =>
    have hhead := hkeeps _ List.mem_cons_self hstep
    have htail := ih fun taken hmem => hkeeps taken (List.mem_cons_of_mem _ hmem)
    exact htail.trans hhead

/-- A system in which some allowed step makes a measure smaller and keeps a condition, wherever it is not
there yet, gets there from everywhere, in no more steps than the measure. -/
theorem Reachable.exists_path_of (allowed : Taken σ lab → Prop) {P goal : σ → Prop} {μ : σ → ℕ}
    (hmoves : ∀ s, S.Reachable s → P s → ¬ goal s →
      ∃ l t, allowed ⟨s, l, t⟩ ∧ S.step s l t ∧ P t ∧ μ t < μ s)
    {s : σ} (h : S.Reachable s) (hs : P s) :
    ∃ later t, S.Path s later t ∧ (∀ taken ∈ later, allowed taken) ∧ later.length ≤ μ s ∧ goal t := by
  induction hμ : μ s using Nat.strong_induction_on generalizing s with
  | _ n ih =>
    by_cases hgoal : goal s
    · exact ⟨[], s, .nil s, by simp, by simp, hgoal⟩
    · obtain ⟨l, u, hallowed, hstep, hu, hless⟩ := hmoves s h hs hgoal
      obtain ⟨later, t, hpath, hlater, hlength, ht⟩ := ih (μ u) (by omega) (h.snoc hstep) hu rfl
      refine ⟨⟨s, l, u⟩ :: later, t, .cons hstep hpath, ?_, ?_, ht⟩
      · intro taken hmem
        rcases List.mem_cons.mp hmem with hhead | htail
        · rw [hhead]
          exact hallowed
        · exact hlater taken htail
      · rw [List.length_cons]
        omega

/-- The same, where the labels decide what is allowed. -/
theorem Reachable.exists_path {P goal : σ → Prop} {allowed : lab → Prop} {μ : σ → ℕ}
    (hmoves : ∀ s, S.Reachable s → P s → ¬ goal s → ∃ l t, allowed l ∧ S.step s l t ∧ P t ∧ μ t < μ s)
    {s : σ} (h : S.Reachable s) (hs : P s) :
    ∃ later t, S.Path s later t ∧ (∀ taken ∈ later, allowed taken.label) ∧ later.length ≤ μ s ∧ goal t :=
  h.exists_path_of (fun taken => allowed taken.label) hmoves hs

/-- Every step is paid for, out of the work that is left or by the credit of its label. -/
structure Paid (S : TransitionSystem σ lab) (credit : lab → ℕ) (work : σ → ℕ) : Prop where
  init : ∀ s, S.init s → work s = 0
  step : ∀ s l t, S.step s l t → work t + 1 ≤ work s + credit l

variable {credit : lab → ℕ} {work : σ → ℕ}

/-- A run is no longer than its credit, less the work that is left. -/
theorem Paid.run_length_le (paid : Paid S credit work) {history : List (Taken σ lab)} {s : σ}
    (h : S.Run history s) :
    history.length + work s ≤ (history.map fun taken => credit taken.label).sum := by
  induction h with
  | start hs => simp [paid.init _ hs]
  | snoc _ hstep ih =>
    have hpaid := paid.step _ _ _ hstep
    simp only [List.length_append, List.length_singleton, List.map_append, List.map_cons,
      List.map_nil, List.sum_append, List.sum_singleton]
    omega

/-- Where every step costs exactly what it is paid, so does a run. -/
theorem Run.length_add_work (hinit : ∀ s, S.init s → work s = 0)
    (hstep : ∀ s l t, S.step s l t → work t + 1 = work s + credit l)
    {history : List (Taken σ lab)} {s : σ} (h : S.Run history s) :
    history.length + work s = (history.map fun taken => credit taken.label).sum := by
  induction h with
  | start hs => simp [hinit _ hs]
  | snoc _ hs ih =>
    have hpaid := hstep _ _ _ hs
    simp only [List.length_append, List.length_singleton, List.map_append, List.map_cons,
      List.map_nil, List.sum_append, List.sum_singleton]
    omega

/-- Without further credit a path is no longer than the work that is left. -/
theorem Paid.path_length_le (paid : Paid S credit work) {later : List (Taken σ lab)} {s t : σ}
    (h : S.Path s later t) (hcredit : ∀ taken ∈ later, credit taken.label = 0) :
    later.length + work t ≤ work s := by
  induction h with
  | nil => simp
  | cons hstep _ ih =>
    have hpaid := paid.step _ _ _ hstep
    have hhead := hcredit _ List.mem_cons_self
    have htail := ih fun taken hmem => hcredit taken (List.mem_cons_of_mem _ hmem)
    simp only at hhead
    simp only [List.length_cons]
    omega

/-- A system that can go on without credit wherever it is not idle becomes idle from everywhere. -/
theorem Paid.exists_idle (paid : Paid S credit work) {idle : σ → Prop}
    (hmoves : ∀ s, S.Reachable s → ¬ idle s → ∃ l t, credit l = 0 ∧ S.step s l t) {s : σ}
    (h : S.Reachable s) :
    ∃ later t, S.Path s later t ∧ (∀ taken ∈ later, credit taken.label = 0) ∧ idle t := by
  have hless (s : σ) (hs : S.Reachable s) (_ : True) (hidle : ¬ idle s) :
      ∃ l t, credit l = 0 ∧ S.step s l t ∧ True ∧ work t < work s := by
    obtain ⟨l, t, hcredit, hstep⟩ := hmoves s hs hidle
    have hpaid := paid.step s l t hstep
    exact ⟨l, t, hcredit, hstep, trivial, by omega⟩
  obtain ⟨later, t, hpath, hlater, -, ht⟩ := h.exists_path hless trivial
  exact ⟨later, t, hpath, hlater, ht⟩

/-- A path of the restricted system is a path. -/
theorem Path.of_restrict {guard : Taken σ lab → Prop} {later : List (Taken σ lab)} {s t : σ}
    (h : (S.restrict guard).Path s later t) : S.Path s later t := by
  induction h with
  | nil s => exact .nil s
  | cons hstep _ ih => exact .cons hstep.1 ih

end TransitionSystem

end Library
