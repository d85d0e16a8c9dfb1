import EventMonitor.Listener.IncomingEventListener

/-!
# What is sent to `/server/list`, and by whom

Users see the text of a status change, sent by `ProcessedEventListener`, or the text of an
exception, sent by the REST exception handler or by the error handler of a listener
container. A container without an error handler only logs what escapes its listener.
-/

namespace EventMonitor

open Library

namespace ProcessedEventListener

/-- The notification that `informUserAboutStatusChange` sends. -/
def informUserAboutStatusChange (change : EventStatusChange) : JsonResult WebSocketDto :=
  .of ⟨change.action.toString ++ change.eventDto.toString⟩

/-- Every exception that leaves a listener is wrapped. -/
def wrap (e : Throwable) : Throwable := .eventMonitor "JMS error " e

/-- `ProcessedEventListener.onMessage`: the notification it sends, if the message is a status
change; reading the object and sending the notification may throw. -/
def onMessage (object : Except Throwable Payload) (convertAndSend : Option Throwable) :
    Except Throwable (Option (JsonResult WebSocketDto)) :=
  match object with
  | .error e => .error (wrap e)
  | .ok (.eventStatusChange change) =>
    match convertAndSend with
    | none => .ok (some (informUserAboutStatusChange change))
    | some e => .error (wrap e)
  | .ok _ => .ok none

end ProcessedEventListener

/-- The notification about an exception. -/
def errorNotification (throwable : Throwable) : JsonResult WebSocketDto :=
  .of ⟨Action.error.toString ++ " " ++ throwable.toString⟩

/-- `ActiveMQErrorHandler.handleError`. -/
def ActiveMQErrorHandler.handleError (throwable : Throwable) : JsonResult WebSocketDto :=
  errorNotification throwable

namespace ManagementEndpoint

/-- `SUCCESS_FLAG`. -/
def successFlag : String := "OK"

/-- `PUT /rest`. -/
def upload (env : CallEnv) (eventDto : EventDto) : Service (JsonResult String) := do
  EventServiceImpl.saveIncomingEvent env eventDto
  return .of successFlag

/-- `exceptionHandler`: the notification, and the answer to the client. -/
def exceptionHandler (uri : String) (exception : Throwable) :
    JsonResult WebSocketDto × JsonResult ErrorInformationDto :=
  (errorNotification exception, ⟨.error, ⟨exception.toString, uri⟩⟩)

/-- A PUT is accepted unless JMS fails, or the empty transaction around the send cannot commit; in
the second case the message has been sent all the same. -/
theorem outcome_upload (env : CallEnv) (eventDto : EventDto) (w : World) :
    Effect.outcome (upload env eventDto) w =
      if env.failsAt .send then (.error env.failure, w)
      else if env.failsAt .commit then
        (.error env.failure, { w with incomingEventQueue := w.incomingEventQueue ++ [eventDto] })
      else (.ok (.of successFlag), { w with
        incomingEventQueue := w.incomingEventQueue ++ [eventDto]
        commits := w.commits + 1 }) := by
  rw [upload, Effect.outcome_bind, EventServiceImpl.saveIncomingEvent, outcome_transactional,
    outcome_sendIncoming]
  by_cases hsend : env.failsAt .send
  · simp [hsend]
  · by_cases hcommit : env.failsAt .commit <;> simp [hsend, hcommit]

end ManagementEndpoint

/-- The parts of a `DefaultMessageListenerContainer` that the configuration sets. -/
structure ListenerContainer where
  errorHandler : Option (Throwable → JsonResult WebSocketDto)
  concurrentConsumers : ℕ
  maxConcurrentConsumers : ℕ

namespace ActiveMQConfiguration

/-- `incomingEventQueueContainer`. -/
def incomingEventQueueContainer (props : ApplicationProperties) : ListenerContainer where
  errorHandler := some ActiveMQErrorHandler.handleError
  concurrentConsumers := props.consumersCount
  maxConcurrentConsumers := props.maxConsumersCount

/-- `processedEventQueueContainer`; no error handler is set here. -/
def processedEventQueueContainer (props : ApplicationProperties) : ListenerContainer where
  errorHandler := none
  concurrentConsumers := props.consumersCount
  maxConcurrentConsumers := props.maxConsumersCount

end ActiveMQConfiguration

/-- How many consumers a container may run at once: the upper bound gives way to the number that the
container starts with. -/
def ListenerContainer.consumers (container : ListenerContainer) : ℕ :=
  max container.concurrentConsumers container.maxConcurrentConsumers

/-- What a container sends when its listener throws: its error handler decides. -/
def ListenerContainer.invokeErrorHandler (container : ListenerContainer) (e : Throwable) :
    List (JsonResult WebSocketDto) :=
  match container.errorHandler with
  | some handleError => [handleError e]
  | none => []

end EventMonitor
