import Mathlib.Init

/-!
# The data that travels through the application

Event data, status changes and the JSON bodies sent to browsers and REST clients, with
the texts that the Java classes print. Every field of an `EventDto` is a nullable Java
object. `Integer` values are modelled by integers: ids and user numbers are stored,
compared and printed, but never computed with.
-/

namespace EventMonitor

/-- What happened to an event. -/
inductive Action
  | insert
  | delete
  | update
  | error
  deriving DecidableEq, Repr

/-- The name of the enum constant. -/
def Action.toString : Action → String
  | .insert => "INSERT"
  | .delete => "DELETE"
  | .update => "UPDATE"
  | .error => "ERROR"

/-- The body of `PUT /rest`, and the event data inside a status change. -/
structure EventDto where
  id : Option Int
  name : Option String
  timestamp : Option String
  updatedBy : Option Int
  deriving DecidableEq, Repr

/-- The `EventDto` of the constructor without arguments. -/
def EventDto.empty : EventDto := ⟨none, none, none, none⟩

/-- How string concatenation prints a nullable `Integer`. -/
def printInteger : Option Int → String
  | some n => ToString.toString n
  | none => "null"

/-- How string concatenation prints a nullable `String`. -/
def printString : Option String → String
  | some s => s
  | none => "null"

/-- `EventDto.toString`; the name is not printed. -/
def EventDto.toString (dto : EventDto) : String :=
  " id=" ++ printInteger dto.id ++ ", timestamp=" ++ printString dto.timestamp ++
    ", updatedBy=" ++ printInteger dto.updatedBy

/-- The message on `processedEventQueue`. -/
structure EventStatusChange where
  eventDto : EventDto
  action : Action
  deriving DecidableEq, Repr

/-- Whether a request or a notification reports success. -/
inductive ResultStatus
  | success
  | error
  deriving DecidableEq, Repr

/-- The JSON wrapper of every answer and every notification. -/
structure JsonResult (α : Type) where
  status : ResultStatus
  data : α
  deriving DecidableEq, Repr

/-- The one-argument constructor reports success. -/
def JsonResult.of {α : Type} (data : α) : JsonResult α := ⟨.success, data⟩

/-- The text shown to the users of the page. -/
structure WebSocketDto where
  content : String
  deriving DecidableEq, Repr

/-- The data of an error answer of the REST endpoint. -/
structure ErrorInformationDto where
  exception : String
  uri : String
  deriving DecidableEq, Repr

/-- Exceptions. One thrown by a library is known by the text its `toString` gives. -/
inductive Throwable
  | external (text : String)
  | illegalArgument (message : String)
  | interrupted
  | eventMonitor (message : String) (cause : Throwable)
  deriving DecidableEq, Repr

/-- `Throwable.toString`: the class name and, when there is one, the message. -/
def Throwable.toString : Throwable → String
  | .external text => text
  | .illegalArgument message => "java.lang.IllegalArgumentException: " ++ message
  | .interrupted => "java.lang.InterruptedException: sleep interrupted"
  | .eventMonitor message _ =>
    "info.ernestas.eventmonitor.model.EventMonitorException: " ++ message

end EventMonitor
