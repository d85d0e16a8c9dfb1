import EventMonitor.Service.EventServiceImpl

/-!
# What one call of `processEvent` does

The outcome of a call, for every action and every point of failure. A call that returns
has committed the change of the table that its action stands for and has sent exactly one
status change; a call that throws leaves the table as it was, but what it has sent before
it threw stays sent.
-/

namespace EventMonitor

open Library EventEventDtoMapper

namespace EventServiceImpl

/-- The user number that an INSERT draws. -/
def drawnUser (env : CallEnv) : Int := env.userDraw % maxUserId

/-- The draw of the user number never throws. -/
theorem nextInt_maxUserId (env : CallEnv) : nextInt maxUserId env.userDraw = .ok (drawnUser env) := rfl

/-- User numbers lie between 0 and 9999. -/
theorem drawnUser_bounds (env : CallEnv) : 0 ≤ drawnUser env ∧ drawnUser env ≤ 9999 := by
  unfold drawnUser maxUserId
  omega

/-- How the simulated delay ends: the sleeps it takes, or the exception it throws. -/
def delayResult (props : ApplicationProperties) (env : CallEnv) : Except Throwable (List Int) :=
  if props.enableDelay then
    match nextInt props.maxRandom env.delayDraw with
    | .error e => .error e
    | .ok random =>
      if addInt props.initial random < 0 then
        .error (.illegalArgument "timeout value is negative")
      else if env.failsAt .sleep then .error (.eventMonitor "Error in delay" .interrupted)
      else .ok [addInt props.initial random]
  else .ok []

/-- The delay throws: it belongs to the UPDATE step only. -/
def delayFails (props : ApplicationProperties) (env : CallEnv) : Action → Bool
  | .update => match delayResult props env with
    | .ok _ => false
    | .error _ => true
  | _ => false

/-- The sleeps of a step that gets past its delay. -/
def sleeps (props : ApplicationProperties) (env : CallEnv) : Action → List Int
  | .update => match delayResult props env with
    | .ok millis => millis
    | .error _ => []
  | _ => []

/-- What an action stands for when nothing fails: the new table, the returned data and the
status change that is sent. -/
def effect (env : CallEnv) (events : EventsTable) (eventDto : EventDto) :
    Action → EventsTable × EventDto × EventStatusChange
  | .insert =>
    let event := stampEvent env (drawnUser env) (convertDtoToEntity eventDto)
    let (events, stored) := EventRepository.save events env.ids event
    (events, convertEntityToDto (some stored), ⟨convertEntityToDto (some stored), .insert⟩)
  | .update =>
    let (events, stored) := EventRepository.save events env.ids (convertDtoToEntity eventDto)
    (events, convertEntityToDto (some stored), ⟨eventDto, .update⟩)
  | .delete =>
    let (events, deleted) := EventRepository.delete events (convertDtoToEntity eventDto)
    (events, convertEntityToDto deleted, ⟨eventDto, .delete⟩)
  | .error => (events, eventDto, ⟨eventDto, .error⟩)

/-- The send is reached and succeeds: DELETE sends before it deletes, the others save first. -/
def sends (props : ApplicationProperties) (env : CallEnv) (action : Action) : Bool :=
  match action with
  | .insert | .update =>
    !delayFails props env action && !env.failsAt .repository && !env.failsAt .send
  | .delete | .error => !env.failsAt .send

/-- The body of the call returns: after its send, only DELETE still has a repository call to make. -/
def returns (props : ApplicationProperties) (env : CallEnv) (action : Action) : Bool :=
  sends props env action && !(action = .delete && env.failsAt .repository)

/-- The call gets through to the end of its commit. -/
def succeeds (props : ApplicationProperties) (env : CallEnv) (action : Action) : Bool :=
  returns props env action && !env.failsAt .commit

/-- The delay changes nothing but the record of the sleeps. -/
theorem outcome_simulateDelay (props : ApplicationProperties) (env : CallEnv) (w : World) :
    Effect.outcome (simulateDelay props env) w =
      match delayResult props env with
      | .ok millis => (.ok (), { w with slept := w.slept ++ millis })
      | .error e => (.error e, w) := by
  unfold simulateDelay delayResult
  by_cases hdelay : props.enableDelay
  · simp only [hdelay, if_true, Effect.outcome_tryCatch, Effect.outcome_bind, Effect.outcome_ofExcept]
    rcases hdraw : nextInt props.maxRandom env.delayDraw with e | random
    · unfold nextInt at hdraw
      split at hdraw
      · cases hdraw
        rfl
      · contradiction
    · simp only [threadSleep]
      by_cases hneg : addInt props.initial random < 0
      · simp [hneg]
      · by_cases hsleep : env.failsAt .sleep <;> simp [hneg, hsleep]
  · simp [hdelay]

/-- The body of a call, for every action and every point of failure before the commit. -/
theorem outcome_processEventBody (props : ApplicationProperties) (env : CallEnv)
    (eventDto : EventDto) (action : Action) :
    ∃ e, ∀ w, ∃ events, Effect.outcome (processEventBody props env eventDto action) w =
      if returns props env action then
        (.ok (effect env w.events eventDto action).2.1,
          { w with
            events := (effect env w.events eventDto action).1
            processedEventQueue := w.processedEventQueue ++ [(effect env w.events eventDto action).2.2]
            slept := w.slept ++ sleeps props env action })
      else
        (.error e,
          { w with
            events := events
            processedEventQueue := w.processedEventQueue ++
              if sends props env action then [(effect env w.events eventDto action).2.2] else []
            slept := w.slept ++ sleeps props env action }) := by
  cases action with
  | insert =>
    refine ⟨env.failure, fun w => ?_⟩
    simp only [processEventBody, Effect.outcome_bind, nextInt_maxUserId, Effect.outcome_ofExcept,
      outcome_save, saveProcessedEvent]
    by_cases hrepository : env.failsAt .repository
    · exact ⟨w.events, by simp [hrepository, returns, sends, sleeps]⟩
    · refine ⟨(effect env w.events eventDto .insert).1, ?_⟩
      by_cases hsend : env.failsAt .send <;>
        simp [hrepository, hsend, outcome_sendProcessed, returns, sends, sleeps, delayFails, effect]
  | update =>
    simp only [processEventBody, updateEvent, Effect.outcome_bind, outcome_simulateDelay,
      outcome_save, saveProcessedEvent]
    rcases hdelay : delayResult props env with e | millis
    · exact ⟨e, fun w => ⟨w.events, by simp [returns, sends, sleeps, delayFails, hdelay]⟩⟩
    · refine ⟨env.failure, fun w => ?_⟩
      by_cases hrepository : env.failsAt .repository
      · exact ⟨w.events, by simp [hrepository, returns, sends, sleeps, hdelay]⟩
      · refine ⟨(effect env w.events eventDto .update).1, ?_⟩
        by_cases hsend : env.failsAt .send <;>
          simp [hrepository, hsend, outcome_sendProcessed, returns, sends, sleeps, delayFails, effect,
            hdelay]
  | delete =>
    refine ⟨env.failure, fun w => ⟨w.events, ?_⟩⟩
    simp only [processEventBody, Effect.outcome_bind, outcome_sendProcessed, saveProcessedEvent]
    by_cases hsend : env.failsAt .send
    · simp [hsend, returns, sends, sleeps]
    · by_cases hrepository : env.failsAt .repository <;>
        simp [hrepository, hsend, outcome_delete, returns, sends, sleeps, effect]
  | error =>
    refine ⟨env.failure, fun w => ⟨w.events, ?_⟩⟩
    simp only [processEventBody, Effect.outcome_bind, outcome_sendProcessed, saveProcessedEvent]
    by_cases hsend : env.failsAt .send <;> simp [hsend, returns, sends, sleeps, effect]

/-- The outcome of a call, for every action and every point of failure: it commits or it leaves
the table alone, and a message sent before the failure stays sent. -/
theorem outcome_processEvent (props : ApplicationProperties) (env : CallEnv)
    (eventDto : EventDto) (action : Action) :
    ∃ e, ∀ w, Effect.outcome (processEvent props env eventDto action) w =
      if succeeds props env action then
        (.ok (effect env w.events eventDto action).2.1,
          { w with
            events := (effect env w.events eventDto action).1
            processedEventQueue := w.processedEventQueue ++ [(effect env w.events eventDto action).2.2]
            slept := w.slept ++ sleeps props env action
            commits := w.commits + 1 })
      else
        (.error e,
          { w with
            processedEventQueue := w.processedEventQueue ++
              if sends props env action then [(effect env w.events eventDto action).2.2] else []
            slept := w.slept ++ sleeps props env action }) := by
  obtain ⟨e, hbody⟩ := outcome_processEventBody props env eventDto action
  by_cases hreturns : returns props env action
  · have hsends : sends props env action := by
      unfold returns at hreturns
      simp_all
    refine ⟨env.failure, fun w => ?_⟩
    obtain ⟨events, hw⟩ := hbody w
    rw [processEvent, outcome_transactional, hw]
    by_cases hcommit : env.failsAt .commit <;> simp [hreturns, hcommit, hsends, succeeds]
  · refine ⟨e, fun w => ?_⟩
    obtain ⟨events, hw⟩ := hbody w
    rw [processEvent, outcome_transactional, hw]
    simp [hreturns, succeeds]

/-- The outcome of a call that gets through its commit. -/
theorem outcome_of_succeeds {props : ApplicationProperties} {env : CallEnv} {action : Action}
    (h : succeeds props env action) (eventDto : EventDto) (w : World) :
    Effect.outcome (processEvent props env eventDto action) w =
      (.ok (effect env w.events eventDto action).2.1,
        { w with
          events := (effect env w.events eventDto action).1
          processedEventQueue := w.processedEventQueue ++ [(effect env w.events eventDto action).2.2]
          slept := w.slept ++ sleeps props env action
          commits := w.commits + 1 }) := by
  obtain ⟨e, hrun⟩ := outcome_processEvent props env eventDto action
  rw [hrun, if_pos h]

/-- A call that returns has done what its action stands for. -/
theorem processEvent_ok {props : ApplicationProperties} {env : CallEnv} {eventDto returned : EventDto}
    {action : Action} {w v : World}
    (h : Effect.outcome (processEvent props env eventDto action) w = (.ok returned, v)) :
    succeeds props env action ∧ returned = (effect env w.events eventDto action).2.1 ∧
      v.events = (effect env w.events eventDto action).1 ∧
      v.processedEventQueue =
        w.processedEventQueue ++ [(effect env w.events eventDto action).2.2] ∧
      v.incomingEventQueue = w.incomingEventQueue := by
  obtain ⟨e, hrun⟩ := outcome_processEvent props env eventDto action
  rw [hrun] at h
  by_cases hsucceeds : succeeds props env action
  · simp only [hsucceeds, if_true, Prod.mk.injEq, Except.ok.injEq] at h
    obtain ⟨rfl, rfl⟩ := h
    exact ⟨hsucceeds, rfl, rfl, rfl, rfl⟩
  · simp [hsucceeds] at h

/-- A call that throws leaves the table alone and has sent at most its status change. -/
theorem processEvent_error {props : ApplicationProperties} {env : CallEnv} {eventDto : EventDto}
    {action : Action} {w v : World} {e : Throwable}
    (h : Effect.outcome (processEvent props env eventDto action) w = (.error e, v)) :
    succeeds props env action = false ∧ v.events = w.events ∧
      v.processedEventQueue = w.processedEventQueue ++
        (if sends props env action then [(effect env w.events eventDto action).2.2] else []) ∧
      v.incomingEventQueue = w.incomingEventQueue := by
  obtain ⟨e', hrun⟩ := outcome_processEvent props env eventDto action
  rw [hrun] at h
  by_cases hsucceeds : succeeds props env action
  · simp [hsucceeds] at h
  · simp only [hsucceeds, Bool.false_eq_true, if_false, Prod.mk.injEq] at h
    obtain ⟨-, rfl⟩ := h
    exact ⟨Bool.eq_false_iff.mpr hsucceeds, rfl, rfl, rfl⟩

/-- A world with an empty table and empty queues. -/
def emptyWorld : World := ⟨KeyedTable.empty, [], [], [], 0⟩

/-- A clock reading at midnight. -/
def midnight : LocalDateTime := ⟨0, 0, 0, 0⟩

/-- A call in which nothing fails. -/
def quietEnv : CallEnv := ⟨countingIds, 0, 0, midnight, midnight, none⟩

/-- A call that fails at the given point. -/
def faultyEnv (point : FaultPoint) : CallEnv := { quietEnv with fault := some ⟨point, "failed"⟩ }

end EventServiceImpl

end EventMonitor
