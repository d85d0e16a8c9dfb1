import EventMonitor.Library.CompetingConsumers
import EventMonitor.Pipeline.System

/-!
# What one step of the pipeline can do

Each possible step, with the list of jobs split at the consumer that takes it. Everything that
is proved about runs uses these nine cases.
-/

namespace EventMonitor

open Library

namespace Pipeline

open EventServiceImpl

variable {props : ApplicationProperties} {events : EventsTable}

/-- The effect of the next call of a job. -/
def Job.effect (job : Job) (env : CallEnv) (events : EventsTable) :
    EventsTable × EventDto × EventStatusChange :=
  EventServiceImpl.effect env events job.eventDto job.stage.action

/-- A step of the application by what it does. -/
inductive Move (props : ApplicationProperties) (s : State) : Label → State → Prop
  | uploaded (uri : String) (eventDto : EventDto) (env : CallEnv) :
      Move props s (.upload uri eventDto env) { s with
        requests := s.requests ++ [eventDto]
        incomingEventQueue := s.incomingEventQueue ++ [⟨s.requests.length, eventDto⟩] }
  | uploadFailed (uri : String) (eventDto : EventDto) (env : CallEnv) (e : Throwable)
      (sent : List EventDto) (hsent : sent = [] ∨ sent = [eventDto]) :
      Move props s (.upload uri eventDto env) (State.escape { s with
          requests := s.requests ++ [eventDto]
          incomingEventQueue := s.incomingEventQueue ++ sent.map (⟨s.requests.length, ·⟩) }
        ⟨.upload, s.requests.length, e⟩ [errorNotification e])
  | received (message : Message EventDto) (rest : List (Message EventDto))
      (hqueue : s.incomingEventQueue = message :: rest) :
      Move props s .receiveIncoming { s with
        incomingEventQueue := rest
        processing := s.processing ++ [⟨message.ticket, .received, message.object⟩] }
  | unreadable (i : ℕ) (e : Throwable) (job : Job) (before after : List Job)
      (hjob : s.processing = before ++ job :: after) (hstage : job.stage = .received) :
      Move props s (.failToRead i e) (State.escape { s with processing := before ++ after }
        ⟨.incoming, job.ticket, IncomingEventListener.wrap e⟩
        [errorNotification (IncomingEventListener.wrap e)])
  | processed (i : ℕ) (env : CallEnv) (job : Job) (before after : List Job)
      (hget : s.processing[i]? = some job) (hjob : s.processing = before ++ job :: after)
      (hsucceeds : succeeds props env job.stage.action) :
      Move props s (.process i env) { s with
        events := (job.effect env s.events).1
        processedEventQueue := s.processedEventQueue ++ [⟨job.ticket, (job.effect env s.events).2.2⟩]
        published := s.published ++ [⟨job.ticket, (job.effect env s.events).2.2⟩]
        processing := before ++ ((job.advance (job.effect env s.events).2.1).toList ++ after) }
  | processFailed (i : ℕ) (env : CallEnv) (job : Job) (before after : List Job) (e : Throwable)
      (sent : List (Message EventStatusChange)) (hjob : s.processing = before ++ job :: after)
      (hsent : sent = [] ∨ sent = [⟨job.ticket, (job.effect env s.events).2.2⟩]) :
      Move props s (.process i env) (State.escape { s with
          processedEventQueue := s.processedEventQueue ++ sent
          published := s.published ++ sent
          processing := before ++ after }
        ⟨.incoming, job.ticket, IncomingEventListener.wrap e⟩
        [errorNotification (IncomingEventListener.wrap e)])
  | taken (message : Message EventStatusChange) (rest : List (Message EventStatusChange))
      (hidle : s.informing.length < max props.consumersCount props.maxConsumersCount)
      (hqueue : s.processedEventQueue = message :: rest) :
      Move props s .receiveProcessed { s with
        processedEventQueue := rest
        informing := s.informing ++ [message] }
  | informed (i : ℕ) (message : Message EventStatusChange) (hget : s.informing[i]? = some message) :
      Move props s (.inform i none none) { s with
        informing := s.informing.eraseIdx i
        serverList := s.serverList ++
          [⟨ProcessedEventListener.informUserAboutStatusChange message.object, .statusChange message⟩] }
  | informFailed (i : ℕ) (unreadable convertAndSend : Option Throwable) (e : Throwable)
      (message : Message EventStatusChange) (hget : s.informing[i]? = some message)
      (hfails : unreadable ≠ none ∨ convertAndSend ≠ none) :
      Move props s (.inform i unreadable convertAndSend) (State.escape
        { s with informing := s.informing.eraseIdx i } ⟨.processed, message.ticket, e⟩ [])

/-- The outcome of a PUT on a table. -/
theorem upload_move (uri : String) (eventDto : EventDto) (env : CallEnv) (s : State) :
    Move props s (.upload uri eventDto env) (upload uri eventDto env s) := by
  have hrun := ManagementEndpoint.outcome_upload env eventDto ⟨s.events, [], [], [], 0⟩
  unfold upload call
  rw [hrun]
  by_cases hsend : env.failsAt .send
  · simp only [hsend, if_true]
    exact .uploadFailed uri eventDto env env.failure [] (Or.inl rfl)
  by_cases hcommit : env.failsAt .commit
  · simp only [hsend, hcommit, if_true]
    exact .uploadFailed uri eventDto env env.failure [eventDto] (Or.inr rfl)
  · simp only [hsend, hcommit]
    exact .uploaded uri eventDto env

/-- The outcome of the next call of a job. -/
theorem process_move {i : ℕ} {job : Job} (env : CallEnv) {s : State}
    (hget : s.processing[i]? = some job) :
    Move props s (.process i env) (process props i job env s) := by
  obtain ⟨before, after, hjob, herase, hset⟩ := exists_split_of_getElem? hget
  obtain ⟨e, hrun⟩ := outcome_processEvent props env job.eventDto job.stage.action
  unfold process call
  rw [hrun]
  by_cases hsucceeds : succeeds props env job.stage.action
  · have hmove := Move.processed i env job before after hget hjob hsucceeds
    simp only [hsucceeds, if_true, List.nil_append, List.map_cons, List.map_nil]
    rcases hadvance : job.advance (job.effect env s.events).2.1 with _ | next
    · rw [hadvance] at hmove
      rw [Job.effect] at hadvance
      simp only [hadvance, herase]
      exact hmove
    · rw [hadvance] at hmove
      rw [Job.effect] at hadvance
      simp only [hadvance, hset]
      exact hmove
  · simp only [hsucceeds, abandon, herase, List.nil_append]
    by_cases hsends : sends props env job.stage.action
    · simp only [hsends, if_true]
      exact .processFailed i env job before after e _ hjob (Or.inr rfl)
    · simp only [hsends]
      exact .processFailed i env job before after e _ hjob (Or.inl rfl)

/-- The outcome of a notification. -/
theorem inform_move {i : ℕ} {message : Message EventStatusChange} {s : State}
    (hget : s.informing[i]? = some message) (unreadable convertAndSend : Option Throwable) :
    Move props s (.inform i unreadable convertAndSend)
      (inform props i message unreadable convertAndSend s) := by
  unfold inform
  cases unreadable with
  | some e => exact .informFailed i _ _ _ message hget (Or.inl (by simp))
  | none =>
    cases convertAndSend with
    | some e => exact .informFailed i _ _ _ message hget (Or.inr (by simp))
    | none => exact .informed i message hget

/-- Every step is one of the nine. -/
theorem step_move {s t : State} {l : Label} (h : step props s l = some t) : Move props s l t := by
  cases l with
  | upload uri eventDto env =>
    obtain rfl := Option.some.inj h
    exact upload_move uri eventDto env s
  | receiveIncoming =>
    simp only [step] at h
    split at h
    · rcases hqueue : s.incomingEventQueue with _ | ⟨message, rest⟩
      · simp [hqueue] at h
      · rw [hqueue] at h
        obtain rfl := Option.some.inj h
        exact .received message rest hqueue
    · contradiction
  | failToRead i e =>
    simp only [step] at h
    rcases hget : s.processing[i]? with _ | job
    · simp [hget] at h
    · rw [hget] at h
      by_cases hstage : job.stage = .received
      · simp only [hstage, if_true] at h
        obtain rfl := Option.some.inj h
        obtain ⟨before, after, hjob, herase, -⟩ := exists_split_of_getElem? hget
        unfold abandon
        rw [herase]
        exact .unreadable i e job before after hjob hstage
      · simp [hstage] at h
  | process i env =>
    simp only [step] at h
    rcases hget : s.processing[i]? with _ | job
    · simp [hget] at h
    · rw [hget] at h
      obtain rfl := Option.some.inj h
      exact process_move env hget
  | receiveProcessed =>
    simp only [step] at h
    split at h
    next hidle =>
      rcases hqueue : s.processedEventQueue with _ | ⟨message, rest⟩
      · simp [hqueue] at h
      · rw [hqueue] at h
        obtain rfl := Option.some.inj h
        exact .taken message rest hidle hqueue
    · contradiction
  | inform i unreadable convertAndSend =>
    simp only [step] at h
    rcases hget : s.informing[i]? with _ | message
    · simp [hget] at h
    · rw [hget] at h
      obtain rfl := Option.some.inj h
      exact inform_move hget unreadable convertAndSend

/-- A step that lets an exception escape is not one in which nothing fails. -/
theorem escape_escaped_ne {s t : State} (escape : Escape) (answers : List (JsonResult WebSocketDto))
    (h : t.escaped = s.escaped) : (t.escape escape answers).escaped ≠ s.escaped := by
  simp [State.escape, h]

/-- Escaped exceptions are never forgotten. -/
theorem Move.escaped_kept {s t : State} {l : Label} (h : Move props s l t) :
    s.escaped <+: t.escaped := by
  cases h with
  | uploaded | received | processed | taken | informed => exact List.prefix_refl _
  | uploadFailed | unreadable | processFailed | informFailed => exact List.prefix_append _ _

/-- Nothing has failed in a run exactly when no exception has escaped in it. -/
theorem faultFree_iff {s : State} :
    (faultFree props events).Reachable s ↔ (system props events).Reachable s ∧ s.escaped = [] := by
  constructor
  · intro h
    refine ⟨h.of_restrict, ?_⟩
    refine TransitionSystem.Reachable.invariant (P := fun s => s.escaped = [])
      (fun s hs => ?_) (fun s l t ih hstep => ?_) h
    · obtain rfl : s = start events := hs
      rfl
    · exact hstep.2.trans ih
  · rintro ⟨h, hnone⟩
    revert hnone
    obtain ⟨history, hrun⟩ := h
    induction hrun with
    | start hs => exact fun _ => .start hs
    | snoc hrun hstep ih =>
      intro hnone
      have hbegins := (step_move hstep).escaped_kept
      rw [hnone, List.prefix_nil] at hbegins
      exact (ih hbegins).snoc ⟨hstep, hnone.trans hbegins.symm⟩

/-- The run of one event, from its PUT to its last notification. -/
def oneEvent (eventDto : EventDto) : List Label :=
  [.upload "/rest" eventDto quietEnv, .receiveIncoming, .process 0 quietEnv, .process 0 quietEnv,
    .process 0 quietEnv, .receiveProcessed, .inform 0 none none, .receiveProcessed, .inform 0 none none,
    .receiveProcessed, .inform 0 none none]

end Pipeline

end EventMonitor
