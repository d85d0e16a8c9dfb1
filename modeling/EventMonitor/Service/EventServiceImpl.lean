import EventMonitor.Service.World

/-!
# `EventServiceImpl`

The service methods as the Java class has them. `processEvent` is one database
transaction; in each branch the repository call, the send and the returned data stand in
the order and with the arguments of the source.
-/

namespace EventMonitor

open Library

/-- The properties that configure the application. -/
structure ApplicationProperties where
  enableDelay : Bool
  initial : Int
  maxRandom : Int
  consumersCount : ℕ
  maxConsumersCount : ℕ
  deriving DecidableEq, Repr

namespace ApplicationProperties

/-- `dev.application.properties`. -/
def dev : ApplicationProperties := ⟨true, 1000, 1000, 1, 10⟩

/-- `prod.application.properties`. -/
def prod : ApplicationProperties := ⟨true, 500, 500, 5, 10⟩

/-- `test.application.properties`. -/
def test : ApplicationProperties := ⟨false, 0, 0, 1, 10⟩

end ApplicationProperties

namespace EventServiceImpl

open EventEventDtoMapper

/-- `MAX_USER_ID`. -/
def maxUserId : Int := 10000

/-- The hour of one clock reading and the minute of a later one, printed without padding. -/
def timestampText (hourReading minuteReading : LocalDateTime) : String :=
  toString hourReading.hour.val ++ ":" ++ toString minuteReading.minute.val

/-- `saveIncomingEvent`. -/
def saveIncomingEvent (env : CallEnv) (eventDto : EventDto) : Service Unit :=
  transactional env (JmsTemplate.sendIncoming env eventDto)

/-- `saveProcessedEvent`. -/
def saveProcessedEvent (env : CallEnv) (eventDto : EventDto) (action : Action) : Service Unit :=
  JmsTemplate.sendProcessed env ⟨eventDto, action⟩

/-- The simulated processing time; an interrupted sleep is wrapped, other exceptions pass. -/
def simulateDelay (props : ApplicationProperties) (env : CallEnv) : Service Unit :=
  if props.enableDelay then
    tryCatch (do
        let random ← Effect.ofExcept (nextInt props.maxRandom env.delayDraw)
        threadSleep env (addInt props.initial random))
      (fun e =>
        match e with
        | .interrupted => throw (.eventMonitor "Error in delay" .interrupted)
        | e => throw e)
  else pure ()

/-- `updateEvent`. -/
def updateEvent (props : ApplicationProperties) (env : CallEnv) (event : Event) : Service Event := do
  simulateDelay props env
  EventDaoImpl.save env event

/-- The entity that an INSERT saves: the client's user and timestamp are replaced. -/
def stampEvent (env : CallEnv) (userId : Int) (event : Event) : Event :=
  { event with
    updatedBy := some userId
    timestamp := some (timestampText env.hourReading env.minuteReading) }

/-- The body of `processEvent`, inside its transaction. -/
def processEventBody (props : ApplicationProperties) (env : CallEnv) (eventDto : EventDto)
    (action : Action) : Service EventDto := do
  let event := convertDtoToEntity eventDto
  let event ← match action with
    | .insert => do
      let userId ← Effect.ofExcept (nextInt maxUserId env.userDraw)
      let event ← EventDaoImpl.save env (stampEvent env userId event)
      saveProcessedEvent env (convertEntityToDto (some event)) action
      pure (some event)
    | .update => do
      let event ← updateEvent props env event
      saveProcessedEvent env eventDto action
      pure (some event)
    | .delete => do
      saveProcessedEvent env eventDto action
      EventDaoImpl.delete env event
    | .error => do
      saveProcessedEvent env eventDto .error
      pure (some event)
  return convertEntityToDto event

/-- `processEvent`. -/
def processEvent (props : ApplicationProperties) (env : CallEnv) (eventDto : EventDto)
    (action : Action) : Service EventDto :=
  transactional env (processEventBody props env eventDto action)

end EventServiceImpl

end EventMonitor
