import EventMonitor.Library.TransitionSystem
import Mathlib.Data.List.Pairwise

/-!
# A cache in front of a source that is replaced

A cache for one value that is computed from a source. It answers when it has a value; otherwise the
value is computed from the current source and kept, unless the computation fails. Replacing the
source either keeps or clears the cache. A cache that is cleared is always fresh. One that is kept
answers with the value of an earlier source for ever, so that it is fresh in those runs only in
which every read gives the value of the earlier ones.
-/

namespace Library

namespace ReadThroughCache

variable {σ ε α : Type*}

/-- The answer of a read, and the cache that it leaves. -/
def read (compute : σ → Except ε α) (source : σ) : Option α → Except ε α × Option α
  | some a => (.ok a, some a)
  | none =>
    match compute source with
    | .ok a => (.ok a, some a)
    | .error e => (.error e, none)

/-- The current source and the cache. -/
structure State (σ α : Type*) where
  source : σ
  cache : Option α
  deriving DecidableEq, Repr

/-- The value is read, or the source is replaced. -/
inductive Label (σ : Type*)
  | read
  | replace (source : σ)

/-- A kept cache survives the replacement of its source. -/
def step (compute : σ → Except ε α) (kept : Bool) : State σ α → Label σ → Option (State σ α)
  | s, .read => some ⟨s.source, (read compute s.source s.cache).2⟩
  | s, .replace source => some ⟨source, if kept then s.cache else none⟩

/-- The system begins with an empty cache. -/
def system (compute : σ → Except ε α) (kept : Bool) : TransitionSystem (State σ α) (Label σ) :=
  .ofStep (fun s => s.cache = none) (step compute kept)

/-- A step of a run: a state, what is done, and the state that it leads to. -/
abbrev Taken (σ α : Type*) := TransitionSystem.Taken (State σ α) (Label σ)

/-- If the step is a read, it is answered as the current source would answer. -/
def Fresh (compute : σ → Except ε α) (taken : Taken σ α) : Prop :=
  taken.label = .read → (read compute taken.source.source taken.source.cache).1 =
    compute taken.source.source

/-- If both steps are reads, a value of the source of the earlier one is that of the later one. -/
def Agree (compute : σ → Except ε α) (earlier later : Taken σ α) : Prop :=
  earlier.label = .read → later.label = .read →
    ∀ a, compute earlier.source.source = .ok a → compute later.source.source = .ok a

variable {compute : σ → Except ε α}

/-- An empty cache answers as the source does. -/
theorem read_none (compute : σ → Except ε α) (source : σ) :
    (read compute source none).1 = compute source := by
  unfold read
  cases compute source <;> rfl

/-- A value that is read is in the cache afterwards. -/
theorem cache_of_read {source : σ} {cache : Option α} {a : α}
    (h : (read compute source cache).1 = .ok a) : (read compute source cache).2 = some a := by
  cases cache with
  | some b =>
    obtain rfl : b = a := Except.ok.inj h
    rfl
  | none =>
    rw [read_none] at h
    simp [read, h]

/-- A value in the cache after a read was there before, or has just been computed. -/
theorem cache_of_cache_read {source : σ} {cache : Option α} {a : α}
    (h : (read compute source cache).2 = some a) :
    cache = some a ∨ (cache = none ∧ compute source = .ok a) := by
  cases cache with
  | some b => exact Or.inl h
  | none =>
    refine Or.inr ⟨rfl, ?_⟩
    unfold read at h
    cases hcompute : compute source with
    | ok b =>
      simp only [hcompute, Option.some.injEq] at h
      rw [h]
    | error e => simp [hcompute] at h

section Kept

/-- A kept cache has the value of every read that gave one. -/
theorem cache_of_run {history : List (Taken σ α)} {s : State σ α}
    (h : (system compute true).Run history s) {taken : Taken σ α} (hmem : taken ∈ history)
    (hread : taken.label = .read) {a : α}
    (hanswer : (read compute taken.source.source taken.source.cache).1 = .ok a) :
    s.cache = some a := by
  induction h with
  | start _ => contradiction
  | @snoc history s t l hrun hstep ih =>
    rcases List.mem_append.mp hmem with hearlier | hlast
    · have hcache := ih hearlier
      cases l with
      | read =>
        obtain rfl := Option.some.inj hstep
        simp [hcache, read]
      | replace source =>
        obtain rfl := Option.some.inj hstep
        exact hcache
    · obtain rfl := List.mem_singleton.mp hlast
      obtain rfl : l = .read := hread
      obtain rfl := Option.some.inj hstep
      exact cache_of_read hanswer

/-- A value in a kept cache is the value of a source that was read. -/
theorem read_of_cache {history : List (Taken σ α)} {s : State σ α}
    (h : (system compute true).Run history s) {a : α} (hcache : s.cache = some a) :
    ∃ taken ∈ history, taken.label = .read ∧ compute taken.source.source = .ok a := by
  induction h with
  | start hinit => exact absurd (hinit.symm.trans hcache) (by simp)
  | @snoc history s t l hrun hstep ih =>
    cases l with
    | read =>
      obtain rfl := Option.some.inj hstep
      rcases cache_of_cache_read hcache with hbefore | ⟨-, hcomputed⟩
      · obtain ⟨taken, hmem, hread⟩ := ih hbefore
        exact ⟨taken, List.mem_append_left _ hmem, hread⟩
      · exact ⟨_, List.mem_append_right _ (List.mem_singleton_self _), rfl, hcomputed⟩
    | replace source =>
      obtain rfl := Option.some.inj hstep
      obtain ⟨taken, hmem, hread⟩ := ih hcache
      exact ⟨taken, List.mem_append_left _ hmem, hread⟩

/-- After fresh reads, the next one is fresh exactly when it agrees with them. -/
theorem fresh_iff_agree {history : List (Taken σ α)} {s t : State σ α}
    (h : (system compute true).Run history s) (hfresh : ∀ taken ∈ history, Fresh compute taken)
    (l : Label σ) :
    Fresh compute ⟨s, l, t⟩ ↔ ∀ earlier ∈ history, Agree compute earlier ⟨s, l, t⟩ := by
  constructor
  · intro hlast earlier hmem hearlier hread a ha
    have hanswer := (hfresh earlier hmem hearlier).trans ha
    have hcache : s.cache = some a := cache_of_run h hmem hearlier hanswer
    change compute s.source = .ok a
    rw [← hlast hread]
    change (read compute s.source s.cache).1 = .ok a
    rw [hcache]
    rfl
  · intro hagree hread
    change (read compute s.source s.cache).1 = compute s.source
    cases hcache : s.cache with
    | none => exact read_none compute s.source
    | some a =>
      obtain ⟨earlier, hmem, hearlier, ha⟩ := read_of_cache h hcache
      exact (hagree earlier hmem hearlier hread a ha).symm

/-- With a kept cache, all reads of a run are fresh exactly when each agrees with the earlier ones. -/
theorem run_fresh_iff {history : List (Taken σ α)} {s : State σ α}
    (h : (system compute true).Run history s) :
    (∀ taken ∈ history, Fresh compute taken) ↔ history.Pairwise (Agree compute) := by
  induction h with
  | start _ => simp
  | @snoc history s t l hrun hstep ih =>
    rw [List.forall_mem_append, List.pairwise_append, ← ih]
    simp only [List.mem_singleton, forall_eq, List.pairwise_singleton, true_and]
    exact and_congr_right fun hfresh => fresh_iff_agree hrun hfresh l

/-- When the computation never fails, all reads of a run are fresh exactly when the sources that they
are made from have the same value. -/
theorem run_fresh_iff_eq (htotal : ∀ source, ∃ a, compute source = .ok a)
    {history : List (Taken σ α)} {s : State σ α} (h : (system compute true).Run history s) :
    (∀ taken ∈ history, Fresh compute taken) ↔
      ∀ taken ∈ history, ∀ taken' ∈ history, taken.label = .read → taken'.label = .read →
        compute taken.source.source = compute taken'.source.source := by
  have hagree : ∀ taken taken' : Taken σ α, Agree compute taken taken' ↔
      (taken.label = .read → taken'.label = .read →
        compute taken.source.source = compute taken'.source.source) := by
    intro taken taken'
    obtain ⟨a, ha⟩ := htotal taken.source.source
    constructor
    · intro hvalue hread hread'
      exact ha.trans (hvalue hread hread' a ha).symm
    · intro hsame hread hread' b hb
      exact (hsame hread hread').symm.trans hb
  rw [run_fresh_iff h]
  constructor
  · intro hpairwise taken hmem taken' hmem'
    have : Std.Symm (Agree compute) := by
      refine ⟨fun earlier later hpair => ?_⟩
      rw [hagree] at *
      exact fun hread hread' => (hpair hread' hread).symm
    rw [← hagree]
    exact hpairwise.forall_of_forall (fun _ _ _ _ _ ha => ha) hmem hmem'
  · intro hsame
    apply List.pairwise_of_forall_mem_list
    intro earlier hearlier later hlater
    rw [hagree]
    exact hsame earlier hearlier later hlater

end Kept

section Cleared

/-- A cleared cache is empty or has the value of the current source. -/
theorem cache_eq_compute {s : State σ α} (h : (system compute false).Reachable s) {a : α}
    (hcache : s.cache = some a) : compute s.source = .ok a := by
  revert a hcache
  apply TransitionSystem.Reachable.invariant (P := fun s => ∀ a, s.cache = some a →
    compute s.source = .ok a) ?_ ?_ h
  · intro s hinit a hcache
    exact absurd (hinit.symm.trans hcache) (by simp)
  · intro s l t ih hstep a hcache
    cases l with
    | read =>
      obtain rfl := Option.some.inj hstep
      rcases cache_of_cache_read hcache with hbefore | ⟨-, hcomputed⟩
      · exact ih a hbefore
      · exact hcomputed
    | replace source =>
      obtain rfl := Option.some.inj hstep
      contradiction

/-- With a cache that is cleared, all reads are fresh. -/
theorem run_fresh_of_cleared {history : List (Taken σ α)} {s : State σ α}
    (h : (system compute false).Run history s) : ∀ taken ∈ history, Fresh compute taken := by
  intro taken hmem hread
  have hreachable := (h.step_of_mem taken hmem).1
  cases hcache : taken.source.cache with
  | none => exact read_none compute _
  | some a => exact (cache_eq_compute hreachable hcache).symm

end Cleared

end ReadThroughCache

end Library
