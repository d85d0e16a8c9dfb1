import EventMonitor.Library.TransitionSystem
import EventMonitor.Listener.Notifications

/-!
# The pipeline from `PUT /rest` to `/server/list`

Requests, two queues, the consumers of both, and the notifications that the users have been
sent. A step is one transaction of one party, so that every interleaving of the consumers is
a run. Messages are handed out in the order in which they were sent, each to one consumer,
while fewer consumers are busy than the container may run.

A message carries the number of the request it stems from. No step depends on that number;
it lets properties speak about one event. For the same reason the state keeps the requests,
the exceptions and everything that was ever put on the processed queue.
-/

namespace EventMonitor

open Library

namespace Pipeline

/-- A message with the number of the request that it stems from. -/
structure Message (α : Type) where
  ticket : ℕ
  object : α
  deriving DecidableEq, Repr

/-- How far `IncomingEventListener.onMessage` has got. -/
inductive Stage
  | received
  | inserted
  | updated
  deriving DecidableEq, Repr

/-- The action that comes next. -/
def Stage.action : Stage → Action
  | .received => .insert
  | .inserted => .update
  | .updated => .delete

/-- The stage after that action, unless the message is then done with. -/
def Stage.next : Stage → Option Stage
  | .received => some .inserted
  | .inserted => some .updated
  | .updated => none

/-- A message in the hands of a consumer of the incoming queue, with its current `EventDto`. -/
structure Job where
  ticket : ℕ
  stage : Stage
  eventDto : EventDto
  deriving DecidableEq, Repr

/-- The job after a normal return, if there is still something to do. -/
def Job.advance (job : Job) (returned : EventDto) : Option Job :=
  job.stage.next.map fun stage => { job with stage := stage, eventDto := returned }

/-- The three places that an exception can escape from. -/
inductive Origin
  | upload
  | incoming
  | processed
  deriving DecidableEq, Repr

/-- An exception that has escaped, and the request that it was about. -/
structure Escape where
  origin : Origin
  ticket : ℕ
  throwable : Throwable
  deriving DecidableEq, Repr

/-- Why a notification was sent. -/
inductive Cause
  | statusChange (message : Message EventStatusChange)
  | error (escape : Escape)
  deriving DecidableEq, Repr

/-- A notification on `/server/list`. -/
structure Broadcast where
  body : JsonResult WebSocketDto
  cause : Cause
  deriving DecidableEq, Repr

/-- The state of the whole application. -/
structure State where
  requests : List EventDto
  events : EventsTable
  incomingEventQueue : List (Message EventDto)
  processing : List Job
  processedEventQueue : List (Message EventStatusChange)
  informing : List (Message EventStatusChange)
  serverList : List Broadcast
  published : List (Message EventStatusChange)
  escaped : List Escape

/-- The application starts with some table, empty queues and idle consumers. -/
def start (events : EventsTable) : State := ⟨[], events, [], [], [], [], [], [], []⟩

/-- An exception escapes and is answered by the given notifications. -/
def State.escape (s : State) (escape : Escape) (answers : List (JsonResult WebSocketDto)) : State :=
  { s with
    escaped := s.escaped ++ [escape]
    serverList := s.serverList ++ answers.map fun body => ⟨body, .error escape⟩ }

/-- What can happen next: a client's PUT, a consumer taking a message, or a consumer's next step
with what it takes from outside. -/
inductive Label
  | upload (uri : String) (eventDto : EventDto) (env : CallEnv)
  | receiveIncoming
  | failToRead (i : ℕ) (e : Throwable)
  | process (i : ℕ) (env : CallEnv)
  | receiveProcessed
  | inform (i : ℕ) (unreadable convertAndSend : Option Throwable)

/-- Run a service call on the table, collecting what it sends. -/
def call {α : Type} (x : Service α) (events : EventsTable) : Except Throwable α × World :=
  Effect.outcome x ⟨events, [], [], [], 0⟩

/-- A client's PUT; the exception handler answers what escapes. -/
def upload (uri : String) (eventDto : EventDto) (env : CallEnv) (s : State) : State :=
  let ticket := s.requests.length
  let (result, world) := call (ManagementEndpoint.upload env eventDto) s.events
  let s := { s with
    requests := s.requests ++ [eventDto]
    incomingEventQueue := s.incomingEventQueue ++ world.incomingEventQueue.map (⟨ticket, ·⟩) }
  match result with
  | .ok _ => s
  | .error e => s.escape ⟨.upload, ticket, e⟩ [(ManagementEndpoint.exceptionHandler uri e).1]

/-- The consumer of the `i`th job gives it up; its container answers. -/
def abandon (props : ApplicationProperties) (i : ℕ) (job : Job) (e : Throwable) (s : State) : State :=
  { s with processing := s.processing.eraseIdx i }.escape
    ⟨.incoming, job.ticket, IncomingEventListener.wrap e⟩
    ((ActiveMQConfiguration.incomingEventQueueContainer props).invokeErrorHandler
      (IncomingEventListener.wrap e))

/-- The next `processEvent` call of the `i`th job. -/
def process (props : ApplicationProperties) (i : ℕ) (job : Job) (env : CallEnv) (s : State) : State :=
  let (result, world) :=
    call (EventServiceImpl.processEvent props env job.eventDto job.stage.action) s.events
  let sent := world.processedEventQueue.map (⟨job.ticket, ·⟩ : EventStatusChange → Message _)
  let s := { s with
    events := world.events
    processedEventQueue := s.processedEventQueue ++ sent
    published := s.published ++ sent }
  match result with
  | .ok returned =>
    match job.advance returned with
    | some job => { s with processing := s.processing.set i job }
    | none => { s with processing := s.processing.eraseIdx i }
  | .error e => abandon props i job e s

/-- The consumer of the `i`th held status change informs the users. -/
def inform (props : ApplicationProperties) (i : ℕ) (message : Message EventStatusChange)
    (unreadable convertAndSend : Option Throwable) (s : State) : State :=
  let object : Except Throwable Payload := match unreadable with
    | none => .ok (.eventStatusChange message.object)
    | some e => .error e
  let s := { s with informing := s.informing.eraseIdx i }
  match ProcessedEventListener.onMessage object convertAndSend with
  | .ok body => { s with
      serverList := s.serverList ++ body.toList.map fun body => ⟨body, .statusChange message⟩ }
  | .error e => s.escape ⟨.processed, message.ticket, e⟩
      ((ActiveMQConfiguration.processedEventQueueContainer props).invokeErrorHandler e)

/-- One step of the application; `none` when the step is not possible. -/
def step (props : ApplicationProperties) (s : State) : Label → Option State
  | .upload uri eventDto env => some (upload uri eventDto env s)
  | .receiveIncoming =>
    if s.processing.length < (ActiveMQConfiguration.incomingEventQueueContainer props).consumers then
      match s.incomingEventQueue with
      | [] => none
      | message :: rest => some { s with
          incomingEventQueue := rest
          processing := s.processing ++ [⟨message.ticket, .received, message.object⟩] }
    else none
  | .failToRead i e =>
    match s.processing[i]? with
    | some job => if job.stage = .received then some (abandon props i job e s) else none
    | none => none
  | .process i env =>
    match s.processing[i]? with
    | some job => some (process props i job env s)
    | none => none
  | .receiveProcessed =>
    if s.informing.length < (ActiveMQConfiguration.processedEventQueueContainer props).consumers then
      match s.processedEventQueue with
      | [] => none
      | message :: rest => some { s with
          processedEventQueue := rest
          informing := s.informing ++ [message] }
    else none
  | .inform i unreadable convertAndSend =>
    match s.informing[i]? with
    | some message => some (inform props i message unreadable convertAndSend s)
    | none => none

/-- Both queues are empty and no listener is running. -/
structure Idle (s : State) : Prop where
  incomingEventQueue : s.incomingEventQueue = []
  processing : s.processing = []
  processedEventQueue : s.processedEventQueue = []
  informing : s.informing = []

/-- All runs of the application over an initial table. -/
def system (props : ApplicationProperties) (events : EventsTable) : TransitionSystem State Label :=
  .ofStep (· = start events) (step props)

/-- The runs in which nothing fails: no step lets an exception escape. -/
def faultFree (props : ApplicationProperties) (events : EventsTable) : TransitionSystem State Label :=
  (system props events).restrict fun taken => taken.target.escaped = taken.source.escaped

/-- A replay that succeeds, seen through a function, gives a reachable state with that view. -/
theorem exists_reachable {α : Type} {props : ApplicationProperties} {events : EventsTable}
    {labels : List Label} {view : State → α} {a : α}
    (h : (TransitionSystem.replay (step props) (start events) labels).map view = some a) :
    ∃ s, (system props events).Reachable s ∧ view s = a :=
  TransitionSystem.exists_reachable_of_replay labels view rfl h

end Pipeline

end EventMonitor
