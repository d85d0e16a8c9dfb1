import Mathlib.Init

/-!
# Effects that survive an exception

Programs that change a state and may throw. The state is threaded below the exceptions:
what a program did before it threw stays done, and has to be undone explicitly.
`transactional` is the usual all-or-nothing wrapper around a body whose commit may itself
fail; the part of the state that takes no part in the transaction is left to `rollback`.
-/

namespace Library

/-- A computation over a state that may throw; the state outlives the exception. -/
abbrev Effect (ε σ : Type) := ExceptT ε (StateM σ)

namespace Effect

variable {ε σ α β : Type}

/-- Run a computation: its result, and the state it leaves behind in either case. -/
def outcome (x : Effect ε σ α) (s : σ) : Except ε α × σ := x.run.run s

/-- A value is returned without touching the state. -/
@[simp] theorem outcome_pure (a : α) (s : σ) :
    outcome (pure a : Effect ε σ α) s = (.ok a, s) := rfl

/-- Throwing leaves the state as it is at that point. -/
@[simp] theorem outcome_throw (e : ε) (s : σ) :
    outcome (throw e : Effect ε σ α) s = (.error e, s) := rfl

/-- The continuation runs from the state left behind, and only after a normal return. -/
theorem outcome_bind (x : Effect ε σ α) (f : α → Effect ε σ β) (s : σ) :
    outcome (x >>= f) s =
      match outcome x s with
      | (.ok a, t) => outcome (f a) t
      | (.error e, t) => (.error e, t) := by
  change (StateT.bind (x.run) (ExceptT.bindCont f)).run s = _
  unfold StateT.bind
  change (match x.run.run s with | (r, t) => ExceptT.bindCont f r t) = _
  rcases hx : outcome x s with ⟨_ | _, t⟩ <;>
    simp only [outcome] at hx <;> rw [hx] <;> rfl

/-- Mapping a function over the result leaves the state alone. -/
theorem outcome_map (g : α → β) (x : Effect ε σ α) (s : σ) :
    outcome (g <$> x) s =
      match outcome x s with
      | (.ok a, t) => (.ok (g a), t)
      | (.error e, t) => (.error e, t) := by
  rw [map_eq_pure_bind, outcome_bind]
  rfl

/-- Reading the state. -/
@[simp] theorem outcome_get (s : σ) : outcome (get : Effect ε σ σ) s = (.ok s, s) := rfl

/-- Changing the state. -/
@[simp] theorem outcome_modify (f : σ → σ) (s : σ) :
    outcome (modify f : Effect ε σ Unit) s = (.ok (), f s) := rfl

/-- A loop over a list runs its first round first. -/
theorem outcome_forM_cons (f : α → Effect ε σ PUnit) (a : α) (l : List α) (s : σ) :
    outcome ((a :: l).forM f) s = outcome (f a >>= fun _ => l.forM f) s := rfl

/-- The result of a pure fallible computation. -/
def ofExcept (r : Except ε α) : Effect ε σ α :=
  match r with
  | .ok a => pure a
  | .error e => throw e

/-- A pure fallible computation leaves the state alone. -/
@[simp] theorem outcome_ofExcept (r : Except ε α) (s : σ) :
    outcome (ofExcept r : Effect ε σ α) s = (r, s) := by
  cases r <;> rfl

/-- A handler runs from the state in which the exception was thrown. -/
theorem outcome_tryCatch (x : Effect ε σ α) (handler : ε → Effect ε σ α) (s : σ) :
    outcome (tryCatch x handler) s =
      match outcome x s with
      | (.ok a, t) => (.ok a, t)
      | (.error e, t) => outcome (handler e) t := by
  change (match x.run.run s with
    | (r, t) => (match r with
      | Except.ok a => (pure (Except.ok a) : StateM σ (Except ε α))
      | Except.error e => (handler e).run) t) = _
  rcases hx : outcome x s with ⟨_ | _, t⟩ <;>
    simp only [outcome] at hx <;> rw [hx] <;> rfl

/-- Run the body and then the commit; if either throws, restore and rethrow. -/
def transactional (commit : Effect ε σ Unit) (rollback : σ → σ → σ) (body : Effect ε σ α) :
    Effect ε σ α := do
  let before ← get
  tryCatch (do
      let a ← body
      commit
      return a)
    (fun e => do
      modify (rollback before)
      throw e)

/-- A transaction keeps the state of a body that has been committed and rolls back any other. -/
theorem outcome_transactional (commit : Effect ε σ Unit) (rollback : σ → σ → σ)
    (body : Effect ε σ α) (s : σ) :
    outcome (transactional commit rollback body) s =
      match outcome (do let a ← body; commit; return a) s with
      | (.ok a, t) => (.ok a, t)
      | (.error e, t) => (.error e, rollback s t) := by
  rw [transactional, outcome_bind, outcome_get]
  simp only [outcome_tryCatch]
  rcases outcome (do let a ← body; commit; return a) s with ⟨_ | _, t⟩ <;> rfl

end Effect

end Library
