import EventMonitor.Library.Course
import EventMonitor.Library.TransitionSystem
import EventMonitor.Page.Script
import EventMonitor.Stomp.SubscriptionTable
import EventMonitor.Stomp.Transmit

/-!
# The Stomp client

`Client` of `stomp.js` over a socket of its own, from the call of `connect` on. The handlers of the
user run inside the events that lead to them, and what they throw ends the event: the frames that have
arrived with it are lost. A handler that is not given is one that does nothing, and so is the callback
of `disconnect`, which could as well stand behind the call. Objects with headers are made for one call.
-/

namespace EventMonitor

open Library JavaScript

namespace Stomp

open Page (ReadyState)

/-- What an interval of the client does: it sends a line break, or it looks for signs of the server. -/
inductive Beat
  | ping
  | pong
  deriving DecidableEq, Repr

/-- An interval that is running, with its length in milliseconds if that is a number. -/
structure Interval where
  id : ℕ
  beat : Beat
  ttl : Option ℤ
  deriving DecidableEq, Repr

/-- What a user can ask of the client; a handler for a subscription is given by its number. -/
inductive Call
  | send (destination : JsString) (headers : Option JsObject) (body : Option JsString)
  | subscribe (destination : JsString) (callback : ℕ) (headers : Option JsObject)
  | unsubscribe (id : JsString)
  | begin (transaction : Option JsString)
  | commit (transaction : JsString)
  | abort (transaction : JsString)
  | ack (messageID subscription : JsString) (headers : Option JsObject)
  | nack (messageID subscription : JsString) (headers : Option JsObject)
  | disconnect
  | throwing
  deriving DecidableEq, Repr

/-- What the user is told: a message by the handler of its subscription, or by `onreceive`. -/
inductive Callback
  | connected (frame : Frame)
  | message (callback : Option ℕ) (frame : Frame)
  | receipt (frame : Frame)
  | error (frame : Frame)
  | lost (msg : String)
  deriving DecidableEq, Repr

/-- What passes between the client and its user, and the loss of the connection. -/
inductive Event
  | callback (event : Callback)
  | called (call : Call) (thrown : Option JsError)
  | lost
  deriving DecidableEq, Repr

/-- A client with its socket. The intervals are numbered in the order in which they are started; `sent`,
`transmitted` and `trace` record what has been handed to the socket, the frames that have been transmitted
over it, and what has passed to and from the user, with the moment at which the connection was lost. -/
structure Client where
  readyState : ReadyState
  onclose : Bool
  closeEvents : ℕ
  counter : ℕ
  connected : Bool
  subscriptions : SubscriptionTable
  serverActivity : Value
  pinger : Option ℕ
  ponger : Option ℕ
  intervals : List Interval
  started : ℕ
  sent : List JsString
  transmitted : List Frame
  trace : List Event
  deriving DecidableEq, Repr

/-- What the client finds around it: its `heartbeat`, the headers given to `connect`, the `url` of the
socket as it is printed, whether `onreceive` is set, the handlers of the user, and the properties in
which functions differ. -/
structure Env where
  outgoing : ℕ
  incoming : ℕ
  headers : JsObject
  url : String
  onreceive : Bool
  handlers : List Event → List Call
  functions : ℕ → JsString → FunctionProperty

/-- A script of the client. -/
abbrev Script := Effect JsError Client

namespace Client

/-- `readyState` of a socket that is closed, with the close event to come. -/
def didClose (s : Client) : Client := { s with readyState := .closed, closeEvents := s.closeEvents + 1 }

/-- `ws.send`. -/
def wsSend (data : JsString) : Script Unit := do
  let s ← get
  match s.readyState with
  | .connecting => throw .invalidState
  | .opened => modify fun s => { s with sent := s.sent ++ [data] }
  | .closing | .closed => return ()

/-- `ws.close`. -/
def wsClose : Script Unit := do
  let s ← get
  match s.readyState with
  | .connecting | .opened => modify didClose
  | .closing | .closed => return ()

/-- A frame has been transmitted, unless the socket is closed. -/
def remember (frame : Frame) (s : Client) : Client :=
  if s.readyState = .opened then { s with transmitted := s.transmitted ++ [frame] } else s

/-- `_transmit`. -/
def transmit (command : JsString) (headers : Option JsObject) (body : Option JsString) : Script Unit :=
  match Stomp.transmit command headers body with
  | .error _ => throw .malformed
  | .ok parts => do
    parts.forM wsSend
    modify (remember ⟨command, headers.getD .empty, body.getD []⟩)

/-- `Stomp.setInterval`. -/
def setInterval (beat : Beat) (ttl : Option ℤ) (s : Client) : Client :=
  { s with
    intervals := s.intervals ++ [⟨s.started, beat, ttl⟩]
    started := s.started + 1 }

/-- The pings are started; pings that have been started before are forgotten. -/
def startPinger (ttl : Option ℤ) (s : Client) : Client :=
  { s.setInterval .ping ttl with pinger := some s.started }

/-- The checks are started, in the same way. -/
def startPonger (ttl : Option ℤ) (s : Client) : Client :=
  { s.setInterval .pong ttl with ponger := some s.started }

/-- `_cleanUp`. -/
def cleanUp (s : Client) : Client :=
  { s with
    connected := false
    intervals := s.intervals.filter fun interval =>
      s.pinger ≠ some interval.id ∧ s.ponger ≠ some interval.id }

/-- What passes between the client and its user is recorded. -/
def record (event : Event) (s : Client) : Client := { s with trace := s.trace ++ [event] }

/-- The connection is lost. -/
def lose (s : Client) : Client := s.didClose.record .lost

end Client

/-- A property that is missing or empty counts as false. -/
def isFalsy (value : Option JsString) : Bool := value = none || value = some []

/-- `"sub-" + counter` and `"tx-" + counter`. -/
def numbered (label : String) (counter : ℕ) : JsString := literal label ++ ofNat counter

section Scripts

variable (env : Env)

/-- `send`. -/
def send (destination : JsString) (headers : Option JsObject) (body : Option JsString) : Script Unit :=
  Client.transmit (literal "SEND") (some ((headers.getD .empty).set (literal "destination") destination))
    (some (body.getD []))

/-- `this.subscriptions[id] = callback`. -/
def setSubscription (id : JsString) (callback : ℕ) : Script Unit := do
  let s ← get
  let subscriptions ← Effect.ofExcept (s.subscriptions.assign env.functions id callback)
  modify fun s => { s with subscriptions := subscriptions }

/-- `subscribe`. -/
def subscribe (destination : JsString) (callback : ℕ) (headers : Option JsObject) : Script Unit := do
  let headers := headers.getD .empty
  if isFalsy (headers.get (literal "id")) then
    let s ← get
    let id := numbered "sub-" s.counter
    modify fun s => { s with counter := s.counter + 1 }
    setSubscription env id callback
    Client.transmit (literal "SUBSCRIBE")
      (some ((headers.set (literal "id") id).set (literal "destination") destination)) none
  else
    setSubscription env ((headers.get (literal "id")).getD []) callback
    Client.transmit (literal "SUBSCRIBE") (some (headers.set (literal "destination") destination)) none

/-- `unsubscribe`. -/
def unsubscribe (id : JsString) : Script Unit := do
  modify fun s => { s with subscriptions := s.subscriptions.delete id }
  Client.transmit (literal "UNSUBSCRIBE") (some (JsObject.empty.set (literal "id") id)) none

/-- `commit` and `abort`, and the end of `begin`. -/
def transmitTransaction (command : String) (transaction : JsString) : Script Unit :=
  Client.transmit (literal command) (some (JsObject.empty.set (literal "transaction") transaction)) none

/-- `begin`. -/
def begin (transaction : Option JsString) : Script Unit := do
  if isFalsy transaction then
    let s ← get
    modify fun s => { s with counter := s.counter + 1 }
    transmitTransaction "BEGIN" (numbered "tx-" s.counter)
  else
    transmitTransaction "BEGIN" (transaction.getD [])

/-- `commit`. -/
def commit (transaction : JsString) : Script Unit := transmitTransaction "COMMIT" transaction

/-- `abort`. -/
def abort (transaction : JsString) : Script Unit := transmitTransaction "ABORT" transaction

/-- `ack` and `nack`. -/
def transmitReceived (command : String) (messageID subscription : JsString) (headers : Option JsObject) :
    Script Unit :=
  Client.transmit (literal command) (some (((headers.getD .empty).set (literal "message-id") messageID).set
    (literal "subscription") subscription)) none

/-- `ack`. -/
def ack (messageID subscription : JsString) (headers : Option JsObject) : Script Unit :=
  transmitReceived "ACK" messageID subscription headers

/-- `nack`. -/
def nack (messageID subscription : JsString) (headers : Option JsObject) : Script Unit :=
  transmitReceived "NACK" messageID subscription headers

/-- `disconnect`. -/
def disconnect : Script Unit := do
  Client.transmit (literal "DISCONNECT") none none
  modify fun s => { s with onclose := false }
  Client.wsClose
  modify Client.cleanUp

/-- A call of the user, without the record of it. -/
def perform : Call → Script Unit
  | .send destination headers body => send destination headers body
  | .subscribe destination callback headers => subscribe env destination callback headers
  | .unsubscribe id => unsubscribe id
  | .begin transaction => begin transaction
  | .commit transaction => commit transaction
  | .abort transaction => abort transaction
  | .ack messageID subscription headers => ack messageID subscription headers
  | .nack messageID subscription headers => nack messageID subscription headers
  | .disconnect => disconnect
  | .throwing => throw .user

/-- A call of the user. -/
def call (c : Call) : Script Unit :=
  tryCatch (do
      perform env c
      modify (Client.record (.called c none)))
    fun e => do
      modify (Client.record (.called c (some e)))
      throw e

/-- A handler of the user runs. -/
def tell (event : Callback) : Script Unit := do
  modify (Client.record (.callback event))
  let s ← get
  (env.handlers s.trace).forM (call env)

/-- `_setupHeartbeat`. -/
def setupHeartbeat (headers : JsObject) : Script Unit :=
  if headers.get (literal "version") ≠ some (literal "1.1") ∧
      headers.get (literal "version") ≠ some (literal "1.2") then
    return ()
  else
    match headers.get (literal "heart-beat") with
    | none => throw .typeError
    | some value => do
      let numbers := (value.splitOn 44).map parseInt
      let serverOutgoing := numbers[0]?.join
      let serverIncoming := numbers[1]?.join
      if ¬ (env.outgoing = 0 ∨ serverIncoming = some 0) then
        modify (Client.startPinger (serverIncoming.map fun n => max (env.outgoing : ℤ) n))
      if ¬ (env.incoming = 0 ∨ serverOutgoing = some 0) then
        modify (Client.startPonger (serverOutgoing.map fun n => max (env.incoming : ℤ) n))

/-- The debug text of a frame that nobody handles. -/
def debug (frame : Frame) : Script Unit :=
  match frame.toString with
  | .error _ => throw .malformed
  | .ok _ => return ()

/-- One frame of `ws.onmessage`. -/
def onframe (frame : Frame) : Script Unit := do
  if frame.command = literal "CONNECTED" then
    modify fun s => { s with connected := true }
    setupHeartbeat env frame.headers
    tell env (.connected frame)
  else if frame.command = literal "MESSAGE" then
    let s ← get
    let subscription := (frame.headers.get (literal "subscription")).getD (literal "undefined")
    match s.subscriptions.find env.functions frame subscription with
    | .handler callback => tell env (.message (some callback) frame)
    | .builtin thrown => thrown.elim (return ()) throw
    | .nothing => if env.onreceive then tell env (.message none frame) else debug frame
  else if frame.command = literal "RECEIPT" then
    tell env (.receipt frame)
  else if frame.command = literal "ERROR" then
    tell env (.error frame)
  else
    debug frame

/-- `now`, which returns a function instead of calling it. -/
def now : Value := .function

/-- `ws.onmessage`. -/
def onmessage (data : JsString) : Script Unit := do
  modify fun s => { s with serverActivity := now }
  if data = [LF] then return () else (Frame.unmarshall data).forM (onframe env)

/-- `ws.onclose`. -/
def onclose : Script Unit := do
  modify Client.cleanUp
  tell env (.lost ("Whoops! Lost connection to " ++ env.url))

/-- The headers that `ws.onopen` transmits. -/
def Env.connectHeaders : JsObject :=
  (env.headers.set (literal "accept-version") (literal "1.1,1.0")).set (literal "heart-beat")
    (ofNat env.outgoing ++ 44 :: ofNat env.incoming)

/-- `ws.onopen`. -/
def onopen : Script Unit := Client.transmit (literal "CONNECT") (some env.connectHeaders) none

end Scripts

/-- `delta > ttl * 2`, which is false unless both are numbers. -/
def isOver (delta ttl : Option ℤ) : Bool := delta.any fun delta => ttl.any fun ttl => delta > ttl * 2

/-- What an interval does. -/
def tick (interval : Interval) : Script Unit :=
  match interval.beat with
  | .ping => Client.wsSend [LF]
  | .pong => do
    let s ← get
    let delta := now.minus s.serverActivity
    if isOver delta interval.ttl then Client.wsClose else return ()

/-- Run a script to its end; an exception is reported to the console. -/
def run (script : Script Unit) (s : Client) : Client := (Effect.outcome script s).2

/-- What can happen next. -/
inductive Label
  | opened
  | data (data : JsString)
  | lost
  | closeEvent
  | tick (id : ℕ)
  | call (c : Call)
  deriving DecidableEq, Repr

/-- One event at the client; `none` when it is not possible. -/
def step (env : Env) (s : Client) : Label → Option Client
  | .opened =>
    if s.readyState = .connecting then some (run (onopen env) { s with readyState := .opened }) else none
  | .data data => if s.readyState = .opened then some (run (onmessage env data) s) else none
  | .lost => if s.readyState = .connecting ∨ s.readyState = .opened then some s.lose else none
  | .closeEvent =>
    if 0 < s.closeEvents then
      let s := { s with closeEvents := s.closeEvents - 1 }
      some (if s.onclose then run (onclose env) s else s)
    else none
  | .tick id => (s.intervals.find? (·.id = id)).map fun interval => run (tick interval) s
  | .call c => some (run (call env c) s)

/-- A client on which `connect` has been called, over a new socket. -/
def Client.new : Client :=
  { readyState := .connecting, onclose := true, closeEvents := 0, counter := 0, connected := false
    subscriptions := .empty, serverActivity := .undefined, pinger := none, ponger := none, intervals := []
    started := 0, sent := [], transmitted := [], trace := [] }

/-- All runs of a client. -/
def system (env : Env) : TransitionSystem Client Label := .ofStep (· = Client.new) (step env)

end Stomp

end EventMonitor
