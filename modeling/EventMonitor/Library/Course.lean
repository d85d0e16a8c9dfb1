import EventMonitor.Library.Effect
import Mathlib.Logic.Relation

/-!
# Scripts that keep to a set of moves

A script may be left by an exception at any point, so what it does to the state is described by a
path: from every state that meets an invariant, whatever the script has done when it ends is a
sequence of moves. The invariant is one that the moves keep; it is at hand whenever the script
looks at the state again.
-/

namespace Library

namespace Effect

variable {ε σ α β : Type} {P : σ → Prop} {R : σ → σ → Prop}

/-- Every move keeps the invariant. -/
def Keeps (P : σ → Prop) (R : σ → σ → Prop) : Prop := ∀ s t, P s → R s t → P t

/-- So does a sequence of moves. -/
theorem Keeps.path (hkeeps : Keeps P R) {s t : σ} (hs : P s) (h : Relation.ReflTransGen R s t) : P t := by
  induction h with
  | refl => exact hs
  | tail _ hmove ih => exact hkeeps _ _ ih hmove

/-- Moves to states that meet the invariant keep it. -/
theorem Keeps.into : Keeps P fun _ t => P t := fun _ _ _ ht => ht

/-- From states that meet the invariant, the script only makes moves. -/
def Follows (P : σ → Prop) (R : σ → σ → Prop) (x : Effect ε σ α) : Prop :=
  ∀ s, P s → Relation.ReflTransGen R s (outcome x s).2

/-- A script that only returns. -/
theorem Follows.pure (a : α) : Follows P R (pure a : Effect ε σ α) := fun _ _ => .refl

/-- A script that only throws. -/
theorem Follows.throw (e : ε) : Follows P R (throw e : Effect ε σ α) := fun _ _ => .refl

/-- A script that changes the state once. -/
theorem Follows.modify {f : σ → σ} (hf : ∀ s, P s → R s (f s)) : Follows P R (modify f : Effect ε σ Unit) :=
  fun s hs => .single (hf s hs)

/-- One script after the other. -/
theorem Follows.bind (hkeeps : Keeps P R) {x : Effect ε σ α} {f : α → Effect ε σ β} (hx : Follows P R x)
    (hf : ∀ a, Follows P R (f a)) : Follows P R (x >>= f) := by
  intro s hs
  have hfirst := hx s hs
  rw [outcome_bind]
  rcases hout : outcome x s with ⟨e | a, t⟩ <;> rw [hout] at hfirst
  · exact hfirst
  · exact hfirst.trans (hf a t (hkeeps.path hs hfirst))

/-- A script that looks at the state. -/
theorem Follows.get_bind {f : σ → Effect ε σ β}
    (hf : ∀ s, P s → Relation.ReflTransGen R s (outcome (f s) s).2) : Follows P R (get >>= f) := by
  intro s hs
  rw [outcome_bind, outcome_get]
  exact hf s hs

/-- A loop over a list. -/
theorem Follows.forM (hkeeps : Keeps P R) {f : α → Effect ε σ PUnit} (hf : ∀ a, Follows P R (f a)) (l : List α) :
    Follows P R (l.forM f) := by
  induction l with
  | nil => exact .pure _
  | cons a l ih => exact .bind hkeeps (hf a) fun _ => ih

end Effect

end Library
