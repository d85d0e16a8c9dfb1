import EventMonitor.Pipeline.Moves

/-!
# The steps of a job are one call of the listener

The pipeline cuts `IncomingEventListener.onMessage` at its transactions, so that other
consumers can come in between. When none does, the steps of one job are the whole call: the
same table, the same messages sent, and the same exception, if any, at the end.
-/

namespace EventMonitor

open Library

namespace Pipeline

open EventServiceImpl

variable {props : ApplicationProperties}

/-- A consumer's step that gets through its commit. -/
theorem step_of_succeeds {s : State} {i : ℕ} {job : Job} {env : CallEnv}
    (hget : s.processing[i]? = some job) (h : succeeds props env job.stage.action) :
    step props s (.process i env) = some { s with
      events := (job.effect env s.events).1
      processedEventQueue := s.processedEventQueue ++ [⟨job.ticket, (job.effect env s.events).2.2⟩]
      published := s.published ++ [⟨job.ticket, (job.effect env s.events).2.2⟩]
      processing := match job.advance (job.effect env s.events).2.1 with
        | some next => s.processing.set i next
        | none => s.processing.eraseIdx i } := by
  simp only [step, hget, process, call, outcome_of_succeeds h]
  rcases hadvance : job.advance (job.effect env s.events).2.1 with _ | next
  · rw [Job.effect] at hadvance
    simp [hadvance, Job.effect]
  · rw [Job.effect] at hadvance
    simp [hadvance, Job.effect]

/-- The state after the listener has done with a job: what it has sent and how it has ended. -/
def afterJob (s : State) (others : List Job) (ticket : ℕ) (sent : List EventStatusChange)
    (events : EventsTable) (result : Except Throwable Unit) : State :=
  let s := { s with
    events := events
    processedEventQueue := s.processedEventQueue ++ sent.map (⟨ticket, ·⟩)
    published := s.published ++ sent.map (⟨ticket, ·⟩)
    processing := others }
  match result with
  | .ok _ => s
  | .error e => s.escape ⟨.incoming, ticket, IncomingEventListener.wrap e⟩
      [errorNotification (IncomingEventListener.wrap e)]

/-- The steps, cut short by the first that fails, do for the last job what the calls do. -/
def Performs (props : ApplicationProperties) (job : Job) (i : ℕ) (labels : List Label)
    (calls : Service Unit) : Prop :=
  ∀ (s : State) (others : List Job) (w : World), others.length = i →
    s.processing = others ++ [job] → w.events = s.events →
      ∃ taken sent result v, taken <+: labels ∧ Effect.outcome calls w = (result, v) ∧
        v.processedEventQueue = w.processedEventQueue ++ sent ∧
        TransitionSystem.replay (step props) s taken =
          some (afterJob s others job.ticket sent v.events result)

/-- The last job is found behind the others, and taken away from behind them. -/
theorem last_job {processing others : List Job} {job : Job} (hjob : processing = others ++ [job]) :
    processing[others.length]? = some job ∧ processing.eraseIdx others.length = others := by
  rw [hjob, List.eraseIdx_append_of_length_le (Nat.le_refl _)]
  simp

/-- A step that fails performs its call, and nothing comes after it. -/
theorem performs_failure {job : Job} {env : CallEnv}
    (h : succeeds props env job.stage.action = false) (i : ℕ) (labels : List Label)
    (calls : EventDto → Service Unit) :
    Performs props job i (.process i env :: labels)
      (processEvent props env job.eventDto job.stage.action >>= calls) := by
  rintro s others w rfl hjob hevents
  obtain ⟨e, hrun⟩ := outcome_processEvent props env job.eventDto job.stage.action
  simp only [h, Bool.false_eq_true, if_false] at hrun
  obtain ⟨hget, herase⟩ := last_job hjob
  refine ⟨[.process others.length env],
    if sends props env job.stage.action then [(job.effect env w.events).2.2] else [], .error e,
    (Effect.outcome (processEvent props env job.eventDto job.stage.action) w).2, by simp, ?_, ?_, ?_⟩
  · rw [Effect.outcome_bind, hrun]
  · rw [hrun]
    rfl
  · simp only [TransitionSystem.replay, step, hget, process, call, hrun, abandon, herase, hevents,
      List.nil_append]
    rfl

/-- A step that succeeds performs its call, and the next steps perform the next calls. -/
theorem performs_call {job : Job} {env : CallEnv} {stage : Stage}
    (hnext : job.stage.next = some stage) {i : ℕ} {labels : List Label}
    {calls : EventDto → Service Unit}
    (hcalls : ∀ eventDto, Performs props ⟨job.ticket, stage, eventDto⟩ i labels (calls eventDto)) :
    Performs props job i (.process i env :: labels)
      (processEvent props env job.eventDto job.stage.action >>= calls) := by
  by_cases hsucceeds : succeeds props env job.stage.action
  · rintro s others w rfl hjob hevents
    have hstep := step_of_succeeds (last_job hjob).1 hsucceeds
    simp only [Job.advance, hnext, Option.map_some] at hstep
    set t : State := { s with
      events := (job.effect env s.events).1
      processedEventQueue := s.processedEventQueue ++ [⟨job.ticket, (job.effect env s.events).2.2⟩]
      published := s.published ++ [⟨job.ticket, (job.effect env s.events).2.2⟩]
      processing := others ++ [⟨job.ticket, stage, (job.effect env s.events).2.1⟩] } with ht
    have hset : ∀ next, s.processing.set others.length next = others ++ [next] := by
      intro next
      simp [hjob]
    rw [hset] at hstep
    obtain ⟨taken, sent, result, v, hbegins, hrun, hsent, hreplay⟩ :=
      hcalls (job.effect env s.events).2.1 t others
        (Effect.outcome (processEvent props env job.eventDto job.stage.action) w).2 rfl rfl (by
          rw [outcome_of_succeeds hsucceeds, hevents]
          rfl)
    rw [outcome_of_succeeds hsucceeds, hevents] at hsent hrun
    refine ⟨.process others.length env :: taken, (job.effect env s.events).2.2 :: sent, result, v,
      List.cons_prefix_cons.mpr ⟨rfl, hbegins⟩, ?_, ?_, ?_⟩
    · rw [Effect.outcome_bind, outcome_of_succeeds hsucceeds, hevents]
      exact hrun
    · rw [hsent, List.append_assoc]
      rfl
    · rw [TransitionSystem.replay, hstep, Option.bind_some, ← ht, hreplay]
      simp [afterJob, ht, State.escape]
  · exact performs_failure (by simpa using hsucceeds) i labels calls

/-- A step that succeeds performs the last call. -/
theorem performs_last {job : Job} {env : CallEnv} (hnext : job.stage.next = none) (i : ℕ) :
    Performs props job i [.process i env]
      (processEvent props env job.eventDto job.stage.action >>= fun _ => pure ()) := by
  by_cases hsucceeds : succeeds props env job.stage.action
  · rintro s others w rfl hjob hevents
    obtain ⟨hget, herase⟩ := last_job hjob
    have hstep := step_of_succeeds hget hsucceeds
    simp only [Job.advance, hnext, Option.map_none, herase] at hstep
    refine ⟨[.process others.length env], [(job.effect env s.events).2.2], .ok (),
      (Effect.outcome (processEvent props env job.eventDto job.stage.action) w).2, by simp, ?_, ?_, ?_⟩
    · rw [Effect.outcome_bind, outcome_of_succeeds hsucceeds]
      rfl
    · rw [outcome_of_succeeds hsucceeds, hevents]
      rfl
    · rw [TransitionSystem.replay, hstep, outcome_of_succeeds hsucceeds, hevents]
      rfl
  · exact performs_failure (by simpa using hsucceeds) i [] _

/-- The transactions of a message, taken in a row by one consumer, are one call of the listener. -/
theorem replay_onMessage (props : ApplicationProperties) (env : MessageEnv) (s : State)
    (others : List Job) (ticket : ℕ) (eventDto : EventDto)
    (hjob : s.processing = others ++ [⟨ticket, .received, eventDto⟩]) :
    ∃ taken result v,
      taken <+: [Label.process others.length env.insert, .process others.length env.update,
        .process others.length env.delete] ∧
      Effect.outcome (IncomingEventListener.onMessage props env (.ok (.eventDto eventDto)))
        ⟨s.events, [], [], [], 0⟩ = (result.mapError IncomingEventListener.wrap, v) ∧
      TransitionSystem.replay (step props) s taken =
        some (afterJob s others ticket v.processedEventQueue v.events result) := by
  have hperforms : Performs props ⟨ticket, .received, eventDto⟩ others.length
      [.process others.length env.insert, .process others.length env.update,
        .process others.length env.delete]
      (processEvent props env.insert eventDto .insert >>= fun eventDto =>
        processEvent props env.update eventDto .update >>= fun eventDto =>
          processEvent props env.delete eventDto .delete >>= fun _ => pure ()) := by
    apply performs_call (show Stage.next .received = some .inserted from rfl)
    intro inserted
    apply performs_call (show Stage.next .inserted = some .updated from rfl)
    intro updated
    exact performs_last (show Stage.next .updated = none from rfl) others.length
  obtain ⟨taken, sent, result, v, hbegins, hrun, hsent, hreplay⟩ :=
    hperforms s others ⟨s.events, [], [], [], 0⟩ rfl hjob rfl
  obtain rfl : v.processedEventQueue = sent := hsent
  refine ⟨taken, result, v, hbegins, ?_, hreplay⟩
  simp only [IncomingEventListener.onMessage, Effect.outcome_tryCatch, Effect.outcome_bind,
    Effect.outcome_ofExcept] at hrun ⊢
  rw [hrun]
  cases result <;> rfl

end Pipeline

end EventMonitor
