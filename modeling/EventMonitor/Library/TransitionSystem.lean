import Mathlib.Logic.Relation

/-!
# Transition systems, their runs and their simulations

A labelled transition system with a predicate of initial states. A run keeps every step
it has taken, so that a condition on the steps of a run and a property of the states it
visits can be stated about the same object. Executable systems are given by a guarded
step function; replaying a list of labels then produces a run.
-/

namespace Library

/-- States, labels, initial states and a labelled step relation. -/
structure TransitionSystem (σ lab : Type*) where
  init : σ → Prop
  step : σ → lab → σ → Prop

namespace TransitionSystem

variable {σ τ lab lab' : Type*}

/-- One taken step of a run. -/
structure Taken (σ lab : Type*) where
  source : σ
  label : lab
  target : σ

/-- A finite run from an initial state, with its steps in the order they were taken. -/
inductive Run (S : TransitionSystem σ lab) : List (Taken σ lab) → σ → Prop
  | start {s : σ} : S.init s → Run S [] s
  | snoc {history : List (Taken σ lab)} {s t : σ} {l : lab} :
      Run S history s → S.step s l t → Run S (history ++ [⟨s, l, t⟩]) t

/-- Some run ends in the state. -/
def Reachable (S : TransitionSystem σ lab) (s : σ) : Prop := ∃ history, S.Run history s

variable {S : TransitionSystem σ lab} {T : TransitionSystem τ lab'}

/-- Initial states are reachable. -/
theorem Reachable.start {s : σ} (h : S.init s) : S.Reachable s := ⟨[], .start h⟩

/-- Reachability is closed under steps. -/
theorem Reachable.snoc {s t : σ} {l : lab} (h : S.Reachable s) (hstep : S.step s l t) :
    S.Reachable t := by
  obtain ⟨history, hrun⟩ := h
  exact ⟨_, hrun.snoc hstep⟩

/-- Induction over reachable states, with the reachability of the source at hand. -/
theorem Reachable.induct {P : σ → Prop} (hinit : ∀ s, S.init s → P s)
    (hstep : ∀ s l t, S.Reachable s → P s → S.step s l t → P t)
    {s : σ} (h : S.Reachable s) : P s := by
  obtain ⟨history, hrun⟩ := h
  induction hrun with
  | start h => exact hinit _ h
  | snoc hrun hs ih => exact hstep _ _ _ ⟨_, hrun⟩ ih hs

/-- The invariant rule: what holds initially and survives every step holds of every reachable state. -/
theorem Reachable.invariant {P : σ → Prop} (hinit : ∀ s, S.init s → P s)
    (hstep : ∀ s l t, P s → S.step s l t → P t) {s : σ} (h : S.Reachable s) : P s :=
  Reachable.induct hinit (fun s l t _ hs ht => hstep s l t hs ht) h

/-- Every step of a run is a step of the system, taken from a reachable state. -/
theorem Run.step_of_mem {history : List (Taken σ lab)} {s : σ} (h : S.Run history s) :
    ∀ taken ∈ history, S.Reachable taken.source ∧ S.step taken.source taken.label taken.target := by
  induction h with
  | start h => simp
  | snoc hrun hs ih =>
    intro taken hmem
    rcases List.mem_append.mp hmem with hold | hnew
    · exact ih taken hold
    · obtain rfl := List.mem_singleton.mp hnew
      exact ⟨⟨_, hrun⟩, hs⟩

/-- The system whose steps also have to meet a condition. -/
def restrict (S : TransitionSystem σ lab) (guard : Taken σ lab → Prop) : TransitionSystem σ lab where
  init := S.init
  step s l t := S.step s l t ∧ guard ⟨s, l, t⟩

/-- A run all of whose steps meet the condition is a run of the restricted system. -/
theorem Run.restrict {guard : Taken σ lab → Prop} {history : List (Taken σ lab)} {s : σ}
    (h : S.Run history s) (hguard : ∀ taken ∈ history, guard taken) :
    (S.restrict guard).Run history s := by
  induction h with
  | start h => exact .start h
  | snoc hrun hs ih =>
    have hbefore := ih fun taken hmem => hguard taken (List.mem_append_left _ hmem)
    exact hbefore.snoc ⟨hs, hguard _ (by simp)⟩

/-- Restricting the steps only removes runs. -/
theorem Run.of_restrict {guard : Taken σ lab → Prop} {history : List (Taken σ lab)} {s : σ}
    (h : (S.restrict guard).Run history s) :
    S.Run history s ∧ ∀ taken ∈ history, guard taken := by
  induction h with
  | start h => exact ⟨.start h, by simp⟩
  | snoc hrun hs ih =>
    refine ⟨ih.1.snoc hs.1, fun taken hmem => ?_⟩
    rcases List.mem_append.mp hmem with hold | hnew
    · exact ih.2 taken hold
    · exact List.mem_singleton.mp hnew ▸ hs.2

/-- Restricting the steps only removes reachable states. -/
theorem Reachable.of_restrict {guard : Taken σ lab → Prop} {s : σ}
    (h : (S.restrict guard).Reachable s) : S.Reachable s := by
  obtain ⟨history, hrun⟩ := h
  exact ⟨history, hrun.of_restrict.1⟩

/-- A weaker condition on the steps keeps every reachable state. -/
theorem Reachable.restrict_mono {guard guard' : Taken σ lab → Prop}
    (hguard : ∀ s l t, S.step s l t → guard ⟨s, l, t⟩ → guard' ⟨s, l, t⟩) {s : σ}
    (h : (S.restrict guard).Reachable s) : (S.restrict guard').Reachable s := by
  obtain ⟨history, hrun⟩ := h
  induction hrun with
  | start h => exact .start h
  | snoc _ hs ih => exact ih.snoc ⟨hs.1, hguard _ _ _ hs.1 hs.2⟩

/-- Every initial state abstracts to an initial state, every step to a step or to a stutter. -/
structure Simulation (S : TransitionSystem σ lab) (T : TransitionSystem τ lab') (abs : σ → τ) :
    Prop where
  init : ∀ s, S.init s → T.init (abs s)
  step : ∀ s l t, S.Reachable s → S.step s l t → abs t = abs s ∨ ∃ l', T.step (abs s) l' (abs t)

/-- A simulation carries reachable states to reachable states, so that every invariant of the
abstract system holds of the concrete one. -/
theorem Simulation.reachable {abs : σ → τ} (sim : Simulation S T abs) {s : σ}
    (h : S.Reachable s) : T.Reachable (abs s) := by
  refine Reachable.induct (P := fun s => T.Reachable (abs s))
    (fun s hs => .start (sim.init s hs)) (fun s l t hs ih hstep => ?_) h
  rcases sim.step s l t hs hstep with hsame | ⟨l', hmove⟩
  · rw [hsame]
    exact ih
  · exact ih.snoc hmove

/-- The system of a guarded step function: `none` means that the label is not enabled. -/
def ofStep (init : σ → Prop) (step : σ → lab → Option σ) : TransitionSystem σ lab where
  init := init
  step s l t := step s l = some t

/-- Replay a list of labels, stopping at the first one that is not enabled. -/
def replay (step : σ → lab → Option σ) : σ → List lab → Option σ
  | s, [] => some s
  | s, l :: rest => (step s l).bind fun t => replay step t rest

/-- A successful replay continues a run by steps with the given labels. -/
theorem run_replay {init : σ → Prop} {step : σ → lab → Option σ} {labels : List lab} {s t : σ}
    {history : List (Taken σ lab)} (hs : (ofStep init step).Run history s)
    (h : replay step s labels = some t) :
    ∃ later, (ofStep init step).Run (history ++ later) t ∧ later.map Taken.label = labels := by
  induction labels generalizing s history with
  | nil =>
    obtain rfl : s = t := by simpa [replay] using h
    exact ⟨[], by rwa [List.append_nil], rfl⟩
  | cons l rest ih =>
    obtain ⟨u, hu, hrest⟩ := Option.bind_eq_some_iff.mp h
    obtain ⟨later, hrun, hlabels⟩ := ih (hs.snoc hu) hrest
    refine ⟨⟨s, l, u⟩ :: later, by rwa [← List.append_cons] at hrun, ?_⟩
    rw [List.map_cons, hlabels]

/-- A successful replay stays among the reachable states. -/
theorem reachable_replay {init : σ → Prop} {step : σ → lab → Option σ} {labels : List lab} {s t : σ}
    (hs : (ofStep init step).Reachable s) (h : replay step s labels = some t) :
    (ofStep init step).Reachable t := by
  obtain ⟨history, hrun⟩ := hs
  obtain ⟨later, hlater, -⟩ := run_replay hrun h
  exact ⟨_, hlater⟩

/-- A replay that succeeds, seen through a function, gives a run with its labels to a state with that
view. -/
theorem exists_labelled_run {α : Type*} {init : σ → Prop} {step : σ → lab → Option σ} {s : σ}
    (labels : List lab) (view : σ → α) {a : α} (hs : init s)
    (h : (replay step s labels).map view = some a) :
    ∃ history t, (ofStep init step).Run history t ∧ history.map Taken.label = labels ∧ view t = a := by
  obtain ⟨t, hreplay, hview⟩ := Option.map_eq_some_iff.mp h
  obtain ⟨history, hrun, hlabels⟩ := run_replay (.start hs) hreplay
  exact ⟨history, t, hrun, hlabels, hview⟩

/-- A replay that succeeds, seen through a function, gives a reachable state with that view. -/
theorem exists_reachable_of_replay {α : Type*} {init : σ → Prop}
    {step : σ → lab → Option σ} {s : σ} (labels : List lab) (view : σ → α) {a : α} (hs : init s)
    (h : (replay step s labels).map view = some a) :
    ∃ t, (ofStep init step).Reachable t ∧ view t = a := by
  obtain ⟨t, hreplay, hview⟩ := Option.map_eq_some_iff.mp h
  exact ⟨t, reachable_replay (.start hs) hreplay, hview⟩

/-- Runs of a step function behind a guard are the runs whose steps pass the guard. -/
theorem Run.of_guarded {init : σ → Prop} {step : σ → lab → Option σ} {guard : σ → lab → Prop}
    [DecidableRel guard] {history : List (Taken σ lab)} {t : σ}
    (h : (ofStep init fun s l => if guard s l then step s l else none).Run history t) :
    (ofStep init step).Run history t ∧ ∀ taken ∈ history, guard taken.source taken.label := by
  induction h with
  | start hs => exact ⟨.start hs, by simp⟩
  | snoc hbefore hstep ih =>
    obtain ⟨hguard, htaken⟩ := Option.ite_none_right_eq_some.mp hstep
    refine ⟨ih.1.snoc htaken, fun taken hmem => ?_⟩
    rcases List.mem_append.mp hmem with hearlier | hlast
    · exact ih.2 taken hearlier
    · exact List.mem_singleton.mp hlast ▸ hguard

/-- A replay behind a guard gives a run whose steps pass the guard. -/
theorem exists_run_of_replay {α : Type*} {init : σ → Prop} {step : σ → lab → Option σ}
    {guard : σ → lab → Prop} [DecidableRel guard] {s : σ} (labels : List lab) (view : σ → α) {a : α}
    (hs : init s)
    (h : (replay (fun s l => if guard s l then step s l else none) s labels).map view = some a) :
    ∃ history t, (ofStep init step).Run history t ∧
      (∀ taken ∈ history, guard taken.source taken.label) ∧ view t = a := by
  obtain ⟨t, ⟨history, hrun⟩, hview⟩ := exists_reachable_of_replay labels view hs h
  obtain ⟨htaken, hguard⟩ := hrun.of_guarded
  exact ⟨history, t, htaken, hguard, hview⟩

end TransitionSystem

end Library
