import EventMonitor.Dao.Event
import EventMonitor.Library.Effect

/-!
# What a service call works on

A service call reads and writes the events table, sends to two JMS queues and may put its
thread to sleep. `CallEnv` supplies what comes from outside during one call: random draws,
clock readings, generated ids, and the point at which some library call fails, if any.

The JMS session is not transacted: a message that has been sent stays sent when the
surrounding database transaction is rolled back. Changes of the table are flushed when
the transaction commits, so that the commit itself can fail.
-/

namespace EventMonitor

open Library

/-- The state that service calls share. -/
structure World where
  events : EventsTable
  incomingEventQueue : List EventDto
  processedEventQueue : List EventStatusChange
  slept : List Int
  commits : ℕ

/-- A service method: it works on the shared state and may throw. -/
abbrev Service := Effect Throwable World

/-- The library calls of a service method that can fail. -/
inductive FaultPoint
  | repository
  | send
  | commit
  | sleep
  deriving DecidableEq, Repr

/-- The library call that fails, and the text of its exception. -/
structure Fault where
  point : FaultPoint
  text : String
  deriving DecidableEq, Repr

/-- A local wall-clock reading. -/
structure LocalDateTime where
  epochDay : Int
  hour : Fin 24
  minute : Fin 60
  nanoOfMinute : Fin 60000000000
  deriving DecidableEq, Repr

/-- What one service call takes from outside. -/
structure CallEnv where
  ids : KeySource Int
  userDraw : ℕ
  delayDraw : ℕ
  hourReading : LocalDateTime
  minuteReading : LocalDateTime
  fault : Option Fault

/-- The call fails at the given point, if it gets there. -/
def CallEnv.failsAt (env : CallEnv) (point : FaultPoint) : Bool :=
  env.fault.any fun fault => fault.point = point

/-- The exception of the library call that fails. -/
def CallEnv.failure (env : CallEnv) : Throwable :=
  .external ((env.fault.map Fault.text).getD "")

/-- Throw the library's exception if this is the point of failure. -/
def CallEnv.check (env : CallEnv) (point : FaultPoint) : Service Unit :=
  if env.failsAt point then throw env.failure else pure ()

/-- `int` addition wraps around at 32 bits. -/
def addInt (a b : Int) : Int := (a + b).bmod (2 ^ 32)

/-- `ThreadLocalRandom.nextInt(bound)`, from a raw draw. -/
def nextInt (bound : Int) (draw : ℕ) : Except Throwable Int :=
  if bound ≤ 0 then .error (.illegalArgument "bound must be positive") else .ok (draw % bound)

/-- `Thread.sleep`, which can be interrupted. -/
def threadSleep (env : CallEnv) (millis : Int) : Service Unit :=
  if millis < 0 then throw (.illegalArgument "timeout value is negative")
  else if env.failsAt .sleep then throw .interrupted
  else modify fun w => { w with slept := w.slept ++ [millis] }

/-- Commit the database transaction. -/
def commitTransaction (env : CallEnv) : Service Unit := do
  env.check .commit
  modify fun w => { w with commits := w.commits + 1 }

/-- A method under Spring's `@Transactional`: only the table is rolled back. -/
def transactional {α : Type} (env : CallEnv) (body : Service α) : Service α :=
  Effect.transactional (commitTransaction env) (fun before w => { w with events := before.events }) body

namespace EventDaoImpl

/-- `EventDaoImpl.save`. -/
def save (env : CallEnv) (event : Event) : Service Event := do
  env.check .repository
  let w ← get
  let (events, stored) := EventRepository.save w.events env.ids event
  modify fun w => { w with events := events }
  return stored

/-- `EventDaoImpl.delete`. -/
def delete (env : CallEnv) (event : Event) : Service (Option Event) := do
  env.check .repository
  let w ← get
  let (events, deleted) := EventRepository.delete w.events event
  modify fun w => { w with events := events }
  return deleted

end EventDaoImpl

namespace JmsTemplate

/-- `jmsTemplate.send` to `incomingEventQueue`. -/
def sendIncoming (env : CallEnv) (eventDto : EventDto) : Service Unit := do
  env.check .send
  modify fun w => { w with incomingEventQueue := w.incomingEventQueue ++ [eventDto] }

/-- `jmsTemplate.send` to `processedEventQueue`. -/
def sendProcessed (env : CallEnv) (change : EventStatusChange) : Service Unit := do
  env.check .send
  modify fun w => { w with processedEventQueue := w.processedEventQueue ++ [change] }

end JmsTemplate

/-- A point of failure throws when it is the chosen one and is harmless otherwise. -/
theorem outcome_check (env : CallEnv) (point : FaultPoint) (w : World) :
    Effect.outcome (env.check point) w =
      (if env.failsAt point then .error env.failure else .ok (), w) := by
  unfold CallEnv.check
  split <;> rfl

/-- Saving stores the entity unless the repository fails. -/
theorem outcome_save (env : CallEnv) (event : Event) (w : World) :
    Effect.outcome (EventDaoImpl.save env event) w =
      if env.failsAt .repository then (.error env.failure, w)
      else (.ok (EventRepository.save w.events env.ids event).2,
        { w with events := (EventRepository.save w.events env.ids event).1 }) := by
  rw [EventDaoImpl.save, Effect.outcome_bind, outcome_check]
  by_cases h : env.failsAt .repository
  · simp [h]
  · simp [h, Effect.outcome_bind, Effect.outcome_map]

/-- Deleting removes the row unless the repository fails. -/
theorem outcome_delete (env : CallEnv) (event : Event) (w : World) :
    Effect.outcome (EventDaoImpl.delete env event) w =
      if env.failsAt .repository then (.error env.failure, w)
      else (.ok (EventRepository.delete w.events event).2,
        { w with events := (EventRepository.delete w.events event).1 }) := by
  rw [EventDaoImpl.delete, Effect.outcome_bind, outcome_check]
  by_cases h : env.failsAt .repository
  · simp [h]
  · simp [h, Effect.outcome_bind, Effect.outcome_map]

/-- Sending appends to the incoming queue unless JMS fails. -/
theorem outcome_sendIncoming (env : CallEnv) (eventDto : EventDto) (w : World) :
    Effect.outcome (JmsTemplate.sendIncoming env eventDto) w =
      if env.failsAt .send then (.error env.failure, w)
      else (.ok (), { w with incomingEventQueue := w.incomingEventQueue ++ [eventDto] }) := by
  rw [JmsTemplate.sendIncoming, Effect.outcome_bind, outcome_check]
  by_cases h : env.failsAt .send <;> simp [h]

/-- Sending appends to the processed queue unless JMS fails. -/
theorem outcome_sendProcessed (env : CallEnv) (change : EventStatusChange) (w : World) :
    Effect.outcome (JmsTemplate.sendProcessed env change) w =
      if env.failsAt .send then (.error env.failure, w)
      else (.ok (), { w with processedEventQueue := w.processedEventQueue ++ [change] }) := by
  rw [JmsTemplate.sendProcessed, Effect.outcome_bind, outcome_check]
  by_cases h : env.failsAt .send <;> simp [h]

/-- A transactional method keeps the table of a body that has returned and could be committed. -/
theorem outcome_transactional {α : Type} (env : CallEnv) (body : Service α) (w : World) :
    Effect.outcome (transactional env body) w =
      match Effect.outcome body w with
      | (.ok a, v) =>
        if env.failsAt .commit then (.error env.failure, { v with events := w.events })
        else (.ok a, { v with commits := v.commits + 1 })
      | (.error e, v) => (.error e, { v with events := w.events }) := by
  rw [transactional, Effect.outcome_transactional, Effect.outcome_bind]
  rcases Effect.outcome body w with ⟨e | a, v⟩
  · rfl
  · simp only [Effect.outcome_bind, commitTransaction, outcome_check]
    by_cases h : env.failsAt .commit <;> simp [h]

end EventMonitor
