import EventMonitor.Service.ProcessEvent

/-!
# Database, queue and returned data of one call

`processEvent` updates two resources without a common transaction: the table is rolled
back when the call throws, the queue is not. It also takes the published and the returned
`EventDto` from different places. This file says exactly when the two resources, and the
two `EventDto`s, agree.
-/

namespace EventMonitor

open Library EventEventDtoMapper

namespace EventServiceImpl

/-- The status change for one call: INSERT reports the id under which the row is saved, the name that
it was given, and the new timestamp and user; UPDATE, DELETE and ERROR report what they were given. -/
def changeOf (env : CallEnv) (events : EventsTable) (eventDto : EventDto) (action : Action) :
    EventStatusChange :=
  match action with
  | .insert =>
    { eventDto :=
        { id := some (events.saveKey env.ids eventDto.id)
          name := eventDto.name
          timestamp := some (timestampText env.hourReading env.minuteReading)
          updatedBy := some (drawnUser env) }
      action := .insert }
  | .update | .delete | .error => ⟨eventDto, action⟩

/-- The state that a call leaves behind. -/
def after (props : ApplicationProperties) (env : CallEnv) (eventDto : EventDto) (action : Action)
    (w : World) : World :=
  (Effect.outcome (processEvent props env eventDto action) w).2

/-- The status change that an action sends is the one for the call. -/
@[simp] theorem effect_change (env : CallEnv) (events : EventsTable) (eventDto : EventDto)
    (action : Action) :
    (effect env events eventDto action).2.2 = changeOf env events eventDto action := by
  cases action <;> rfl

/-- The published, the returned and, after INSERT and UPDATE, the stored data are the same. -/
def Agree (action : Action) (returned : EventDto) (w v : World) : Prop :=
  (∃ change : EventStatusChange, v.processedEventQueue = w.processedEventQueue ++ [change] ∧
      change.eventDto = returned) ∧
    (action = .insert ∨ action = .update →
      ∃ id, returned.id = some id ∧ v.events.lookup id = some returned.columns)

/-- UPDATE needs a row for the id that it is given (or, by chance, generates just that id);
DELETE returns an `EventDto` without data. -/
def AgreementCondition (env : CallEnv) (events : EventsTable) (eventDto : EventDto) : Action → Prop
  | .insert => True
  | .update => ∃ id, eventDto.id = some id ∧ (id ∈ events.rows ∨ env.ids.next events.used = id)
  | .delete => eventDto = .empty
  | .error => True

/-- A saved entity is found in the table under the id with which it is returned. -/
theorem lookup_save (events : EventsTable) (ids : KeySource Int) (event : Event) :
    ∃ id, (EventRepository.save events ids event).2.id = some id ∧
      (EventRepository.save events ids event).1.lookup id = some event.columns :=
  ⟨_, rfl, KeyedTable.lookup_put_self _ _ _⟩

/-- A save keeps the id of the entity exactly when a row has it or when it is generated again. -/
theorem saveKey_eq_iff (events : EventsTable) (ids : KeySource Int) (id : Int) :
    events.saveKey ids (some id) = id ↔ id ∈ events.rows ∨ ids.next events.used = id := by
  by_cases h : id ∈ events.rows <;> simp [KeyedTable.saveKey, h]

/-- The three `EventDto`s of a call that returns agree exactly under the condition. -/
theorem processEvent_agree_iff (props : ApplicationProperties) (env : CallEnv) (eventDto : EventDto)
    (action : Action) (w v : World) (returned : EventDto)
    (h : Effect.outcome (processEvent props env eventDto action) w = (.ok returned, v)) :
    Agree action returned w v ↔ AgreementCondition env w.events eventDto action := by
  obtain ⟨-, rfl, hevents, hqueue, -⟩ := processEvent_ok h
  have hpublished : (∃ change : EventStatusChange,
      v.processedEventQueue = w.processedEventQueue ++ [change] ∧
        change.eventDto = (effect env w.events eventDto action).2.1) ↔
      (effect env w.events eventDto action).2.2.eventDto =
        (effect env w.events eventDto action).2.1 := by
    rw [hqueue]
    simp
  rw [Agree, hpublished, hevents]
  cases action with
  | insert =>
    have hstored := lookup_save w.events env.ids
      (stampEvent env (drawnUser env) (convertDtoToEntity eventDto))
    simp only [AgreementCondition, iff_true]
    exact ⟨rfl, fun _ => hstored⟩
  | update =>
    have hstored := lookup_save w.events env.ids (convertDtoToEntity eventDto)
    have hsame : (effect env w.events eventDto .update).2.2.eventDto =
        (effect env w.events eventDto .update).2.1 ↔
        eventDto.id = some (w.events.saveKey env.ids eventDto.id) := by
      rcases eventDto with ⟨id, name, timestamp, updatedBy⟩
      simp [effect, EventRepository.save, KeyedTable.upsert, convertEntityToDto, convertDtoToEntity]
    rw [hsame]
    simp only [AgreementCondition]
    rcases hid : eventDto.id with _ | id
    · simp
    · rw [Option.some.injEq, eq_comm, saveKey_eq_iff]
      simp only [Option.some.injEq, exists_eq_left']
      exact and_iff_left fun _ => hstored
  | delete =>
    simp [AgreementCondition, effect, EventRepository.delete, convertEntityToDto]
  | error => simp [AgreementCondition, effect]

/-- A table from which another event with the same id has already removed the row. -/
def rowRemoved : World :=
  { emptyWorld with events := ((KeyedTable.empty : EventsTable).put 1 ⟨none, none, none⟩).remove 1 }

/-- The UPDATE of an event whose row is gone publishes the old id and returns the new one. -/
theorem update_of_removed_row_disagrees :
    ∃ returned v, Effect.outcome (processEvent .test quietEnv ⟨some 1, none, none, none⟩ .update)
        rowRemoved = (.ok returned, v) ∧ ¬ Agree .update returned rowRemoved v := by
  refine ⟨_, _, outcome_of_succeeds (by decide) _ _, ?_⟩
  rintro ⟨⟨change, hqueue, hsame⟩, -⟩
  obtain rfl := List.singleton_inj.mp (List.append_cancel_left hqueue)
  exact absurd hsame (by decide)

/-- The INSERT of a new event, as the three `EventDto`s of one call. -/
theorem insert_agrees :
    ∃ returned v, Effect.outcome (processEvent .test quietEnv ⟨none, some "event", none, none⟩ .insert)
        emptyWorld = (.ok returned, v) ∧
      (Agree .insert returned emptyWorld v ↔
        AgreementCondition quietEnv emptyWorld.events ⟨none, some "event", none, none⟩ .insert) :=
  ⟨_, _, outcome_of_succeeds (by decide) _ _,
    processEvent_agree_iff .test quietEnv _ .insert emptyWorld _ _
      (outcome_of_succeeds (by decide) _ _)⟩

end EventServiceImpl

end EventMonitor
