import EventMonitor.Service.ProcessEvent

/-!
# `IncomingEventListener`

One message is processed by three service calls, each in its own transaction, chained by
the `EventDto` that the previous one returned. There is no compensation: a failure in the
second or third call leaves what the first one has committed. The container has
acknowledged the message before it calls the listener, so a failed message is gone.
-/

namespace EventMonitor

open Library EventEventDtoMapper

/-- What `ObjectMessage.getObject` can give. -/
inductive Payload
  | eventDto (dto : EventDto)
  | eventStatusChange (change : EventStatusChange)
  | other
  deriving DecidableEq, Repr

/-- What the three service calls for one message take from outside. -/
structure MessageEnv where
  insert : CallEnv
  update : CallEnv
  delete : CallEnv

namespace IncomingEventListener

open EventServiceImpl

/-- Every exception that leaves a listener is wrapped. -/
def wrap (e : Throwable) : Throwable := .eventMonitor "JMS error " e

/-- `IncomingEventListener.onMessage`; reading the object may throw. -/
def onMessage (props : ApplicationProperties) (env : MessageEnv) (object : Except Throwable Payload) :
    Service Unit :=
  tryCatch (do
      let object ← Effect.ofExcept object
      match object with
      | .eventDto eventDto => do
        let eventDto ← processEvent props env.insert eventDto .insert
        let eventDto ← processEvent props env.update eventDto .update
        let _ ← processEvent props env.delete eventDto .delete
        pure ()
      | _ => pure ())
    (fun e => throw (wrap e))

/-- The effect of the INSERT of a message. -/
def inserted (env : MessageEnv) (events : EventsTable) (eventDto : EventDto) : EventsTable × EventDto :=
  let (events, returned, _) := effect env.insert events eventDto .insert
  (events, returned)

/-- The effect of the INSERT and the UPDATE of a message. -/
def updated (env : MessageEnv) (events : EventsTable) (eventDto : EventDto) : EventsTable × EventDto :=
  let (events, eventDto) := inserted env events eventDto
  let (events, returned, _) := effect env.update events eventDto .update
  (events, returned)

/-- The effect of all three steps of a message. -/
def deleted (env : MessageEnv) (events : EventsTable) (eventDto : EventDto) : EventsTable :=
  let (events, eventDto) := updated env events eventDto
  (effect env.delete events eventDto .delete).1

/-- How far a message gets, and the table that it leaves behind. -/
theorem onMessage_cases {props : ApplicationProperties} {env : MessageEnv} {eventDto : EventDto}
    {w v : World} {r : Except Throwable Unit}
    (h : Effect.outcome (onMessage props env (.ok (.eventDto eventDto))) w = (r, v)) :
    (succeeds props env.insert .insert = false ∧ (∃ e, r = .error e) ∧ v.events = w.events) ∨
    (succeeds props env.insert .insert ∧ succeeds props env.update .update = false ∧
      (∃ e, r = .error e) ∧ v.events = (inserted env w.events eventDto).1) ∨
    (succeeds props env.insert .insert ∧ succeeds props env.update .update ∧
      succeeds props env.delete .delete = false ∧
      (∃ e, r = .error e) ∧ v.events = (updated env w.events eventDto).1) ∨
    (succeeds props env.insert .insert ∧ succeeds props env.update .update ∧
      succeeds props env.delete .delete ∧ r = .ok () ∧ v.events = deleted env w.events eventDto) := by
  simp only [onMessage, Effect.outcome_tryCatch, Effect.outcome_bind, Effect.outcome_ofExcept,
    Effect.outcome_throw, Effect.outcome_pure] at h
  rcases hinsert : Effect.outcome (processEvent props env.insert eventDto .insert) w with ⟨e | d₁, w₁⟩
  · obtain ⟨hfails, hevents, -⟩ := processEvent_error hinsert
    simp only [hinsert, Prod.mk.injEq] at h
    exact Or.inl ⟨hfails, ⟨_, h.1.symm⟩, h.2 ▸ hevents⟩
  obtain ⟨hsucceeds₁, hd₁, hevents₁, -⟩ := processEvent_ok hinsert
  rcases hupdate : Effect.outcome (processEvent props env.update d₁ .update) w₁ with ⟨e | d₂, w₂⟩
  · obtain ⟨hfails, hevents, -⟩ := processEvent_error hupdate
    simp only [hinsert, hupdate, Prod.mk.injEq] at h
    refine Or.inr (Or.inl ⟨hsucceeds₁, hfails, ⟨_, h.1.symm⟩, ?_⟩)
    rw [← h.2, hevents, hevents₁]
    rfl
  obtain ⟨hsucceeds₂, hd₂, hevents₂, -⟩ := processEvent_ok hupdate
  rcases hdelete : Effect.outcome (processEvent props env.delete d₂ .delete) w₂ with ⟨e | d₃, w₃⟩
  · obtain ⟨hfails, hevents, -⟩ := processEvent_error hdelete
    simp only [hinsert, hupdate, hdelete, Prod.mk.injEq] at h
    refine Or.inr (Or.inr (Or.inl ⟨hsucceeds₁, hsucceeds₂, hfails, ⟨_, h.1.symm⟩, ?_⟩))
    rw [← h.2, hevents, hevents₂, hevents₁, hd₁]
    rfl
  · obtain ⟨hsucceeds₃, -, hevents₃, -⟩ := processEvent_ok hdelete
    simp only [hinsert, hupdate, hdelete, Prod.mk.injEq] at h
    refine Or.inr (Or.inr (Or.inr ⟨hsucceeds₁, hsucceeds₂, hsucceeds₃, h.1.symm, ?_⟩))
    rw [← h.2, hevents₃, hevents₂, hevents₁, hd₂, hevents₁, hd₁]
    rfl

/-- The key under which the INSERT of a message stores its row. -/
def insertKey (env : MessageEnv) (events : EventsTable) (eventDto : EventDto) : Int :=
  events.saveKey env.insert.ids eventDto.id

/-- The columns that a message stores. -/
def insertColumns (env : MessageEnv) (eventDto : EventDto) : EventColumns :=
  (stampEvent env.insert (drawnUser env.insert) (convertDtoToEntity eventDto)).columns

/-- The INSERT of a message writes one row. -/
theorem inserted_fst (env : MessageEnv) (events : EventsTable) (eventDto : EventDto) :
    (inserted env events eventDto).1 =
      events.put (insertKey env events eventDto) (insertColumns env eventDto) := rfl

/-- Undisturbed, the UPDATE of a message finds the row of its INSERT and writes it again. -/
theorem updated_eq_inserted (env : MessageEnv) (events : EventsTable) (eventDto : EventDto) :
    updated env events eventDto = inserted env events eventDto := by
  have hrow : insertKey env events eventDto ∈ (inserted env events eventDto).1.rows :=
    KeyedTable.mem_rows_iff.mpr ⟨_, KeyedTable.lookup_put_self _ _ _⟩
  have hkey : (inserted env events eventDto).1.saveKey env.update.ids
      (some (insertKey env events eventDto)) = insertKey env events eventDto :=
    KeyedTable.saveKey_of_mem _ hrow
  have hput : ((inserted env events eventDto).1).put (insertKey env events eventDto)
      (insertColumns env eventDto) = (inserted env events eventDto).1 := KeyedTable.put_put _ _ _ _
  refine Prod.ext ?_ ?_
  · change ((inserted env events eventDto).1).put ((inserted env events eventDto).1.saveKey
      env.update.ids (some (insertKey env events eventDto))) (insertColumns env eventDto) = _
    rw [hkey, hput]
  · change convertEntityToDto (some { stampEvent env.insert (drawnUser env.insert)
      (convertDtoToEntity eventDto) with id := some ((inserted env events eventDto).1.saveKey
        env.update.ids (some (insertKey env events eventDto))) }) = _
    rw [hkey]
    rfl

/-- Undisturbed, a whole message removes the row with the id it came with and no other. -/
theorem lookup_deleted (env : MessageEnv) (events : EventsTable) (eventDto : EventDto) (id : Int) :
    (deleted env events eventDto).lookup id =
      if eventDto.id = some id then none else events.lookup id := by
  have htable : deleted env events eventDto = ((events.put (insertKey env events eventDto)
      (insertColumns env eventDto)).remove (insertKey env events eventDto)) := by
    unfold deleted
    rw [updated_eq_inserted]
    rfl
  rw [htable]
  have hkey : (∃ k, eventDto.id = some k ∧ k ∈ events.rows ∧ insertKey env events eventDto = k) ∨
      ((∀ k, eventDto.id = some k → k ∉ events.rows) ∧ insertKey env events eventDto ∉ events.used) :=
    events.saveKey_cases env.insert.ids eventDto.id
  by_cases hid : id = insertKey env events eventDto
  · subst hid
    rw [KeyedTable.lookup_remove_self]
    rcases hkey with ⟨k, hk, -, hsave⟩ | ⟨-, hfresh⟩
    · rw [if_pos (hk.trans (congrArg some hsave.symm))]
    · split
      · rfl
      · symm
        rw [KeyedTable.lookup_eq_none_iff]
        exact fun hrow => hfresh (events.rows_used _ hrow)
  · rw [KeyedTable.lookup_remove_of_ne _ hid, KeyedTable.lookup_put_of_ne _ _ hid]
    split
    next hrequested =>
      rw [KeyedTable.lookup_eq_none_iff]
      intro hrow
      rcases hkey with ⟨k, hk, -, hsave⟩ | ⟨habsent, -⟩
      · obtain rfl := Option.some.inj (hrequested.symm.trans hk)
        exact hid hsave.symm
      · exact habsent id hrequested hrow
    · rfl

/-- What a message leaves in the table: nothing of its own when the listener returns, the row that
its INSERT has committed when the listener throws later, no change when it throws before that. -/
theorem onMessage_table (props : ApplicationProperties) (env : MessageEnv) (eventDto : EventDto)
    (w : World) :
    match Effect.outcome (onMessage props env (.ok (.eventDto eventDto))) w with
    | (.ok _, v) => ∀ id, v.events.lookup id = if eventDto.id = some id then none else w.events.lookup id
    | (.error _, v) => v.events =
        if succeeds props env.insert .insert then
          w.events.put (insertKey env w.events eventDto) (insertColumns env eventDto)
        else w.events := by
  rcases hrun : Effect.outcome (onMessage props env (.ok (.eventDto eventDto))) w with ⟨r, v⟩
  rcases onMessage_cases hrun with ⟨hinsert, ⟨e, rfl⟩, hevents⟩ | ⟨hinsert, -, ⟨e, rfl⟩, hevents⟩ |
    ⟨hinsert, -, -, ⟨e, rfl⟩, hevents⟩ | ⟨-, -, -, rfl, hevents⟩
  · simpa [hinsert] using hevents
  · simpa [hinsert, inserted_fst] using hevents
  · simpa [hinsert, updated_eq_inserted, inserted_fst] using hevents
  · simp only [hevents]
    exact lookup_deleted env w.events eventDto

/-- An event whose UPDATE cannot be sent leaves the row of its INSERT behind. -/
theorem failed_update_leaves_row :
    ∃ e v, Effect.outcome (onMessage .test
        ⟨quietEnv, faultyEnv .send, quietEnv⟩ (.ok (.eventDto .empty))) emptyWorld = (.error e, v) ∧
      v.events ≠ emptyWorld.events := by
  rcases hrun : Effect.outcome (onMessage .test
    ⟨quietEnv, faultyEnv .send, quietEnv⟩ (.ok (.eventDto .empty))) emptyWorld with ⟨r, v⟩
  rcases onMessage_cases hrun with ⟨hinsert, -⟩ | ⟨-, -, ⟨e, rfl⟩, hevents⟩ | ⟨-, hupdate, -⟩ |
    ⟨-, hupdate, -⟩
  · exact absurd hinsert (by decide)
  · refine ⟨e, v, rfl, fun hsame => ?_⟩
    have hrow : v.events.lookup 1 ≠ none := by
      rw [hevents]
      decide
    exact hrow (hsame ▸ rfl)
  · exact absurd hupdate (by decide)
  · exact absurd hupdate (by decide)

end IncomingEventListener

end EventMonitor
