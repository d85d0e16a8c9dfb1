import EventMonitor.Library.TransitionSystem
import EventMonitor.Page.Script
import EventMonitor.SockJs.Protocols
import EventMonitor.SockJs.Quote

/-!
# The socket of SockJS

`SockJS` as its prototype is written: the answer to `/info`, the transports that are tried one
after the other, the timer of each, the frames of the server, `send` and `close`. Scripts run to
their end or to the exception that leaves them. The user is whoever calls `send` and `close`, from
outside or in a callback; a handler is the list of calls that it makes, and may throw as well. The
handler of close events can be installed and removed at any time.

A transport stands for what `websocket`, the streaming and the polling transports share: it hands
frames to the socket until `doCleanup`, and reports that it has failed. One that posts what it
sends may still report a failed request after that.
-/

namespace EventMonitor

open Library JavaScript

namespace SockJs

open Page (ReadyState)

/-- A close event. -/
structure CloseEvent where
  code : Option ℤ
  reason : Option String
  wasClean : Bool
  deriving DecidableEq, Repr

/-- An event that is dispatched to the user. -/
inductive Callback
  | opened
  | message (data : JsString)
  | heartbeat
  | closed (event : CloseEvent) (lastEvent : Option CloseEvent)
  deriving DecidableEq, Repr

/-- What the user does: call the socket, install or remove `onclose`, or throw. -/
inductive Call
  | close (code : Option ℤ) (reason : Option String)
  | send (data : JsString)
  | setOnclose (installed : Bool)
  | throwing
  deriving DecidableEq, Repr

/-- What the scripts can throw. -/
inductive JsError
  | invalidState
  | invalidAccess
  | typeError
  | syntaxError
  | constructor
  | user
  deriving DecidableEq, Repr

/-- What passes between the socket and the user. -/
inductive Event
  | callback (event : Callback)
  | called (call : Call) (thrown : Option JsError)
  deriving DecidableEq, Repr

/-- A frame of the server, by its first character. -/
inductive ServerFrame
  | o
  | a (payload : List JsString)
  | m (payload : JsString)
  | c (code : Option ℤ) (reason : Option String)
  | h
  | malformed
  | unknown
  deriving DecidableEq, Repr

/-- A timer that has been started, and how long it runs. -/
structure Timer where
  id : ℕ
  delay : ℕ
  deriving DecidableEq, Repr

/-- A SockJS socket with the document it lives in. The transports that have been created are numbered
in the order of `opened`; `trace` and `sent` record what has passed to and from the user, and what
has been handed to the transports, and `closedAt` how much of the trace there was when the socket was
closed. -/
structure Socket where
  readyState : ReadyState
  ir : Bool
  protocols : List Protocol
  rto : ℕ
  transport : Option ℕ
  opened : List Protocol
  transportTref : Option ℕ
  timers : List Timer
  started : ℕ
  complete : Bool
  loaded : Bool
  loadListeners : ℕ
  onclose : Bool
  closeEvents : List (CloseEvent × Option CloseEvent)
  sent : List (ℕ × JsString)
  trace : List Event
  closedAt : Option ℕ
  deriving DecidableEq, Repr

/-- What the socket finds around it: the browser, the options, the handlers of the user, and which of
the constructors of transports return normally. -/
structure Env where
  browser : Browser
  whitelist : Option (List Protocol)
  rtt : Option ℕ
  handlers : List Event → List Call
  construct : ℕ → Bool

/-- A script of the socket. -/
abbrev Script := Effect JsError Socket

/-- `userSetCode`. -/
def userSetCode (code : Option ℤ) : Bool :=
  code.any fun code => code = 1000 || (3000 ≤ code && code ≤ 4999)

/-- `clearTimeout(_transport_tref)`, if there is one. -/
def Socket.clearTref (s : Socket) : Socket :=
  { s with timers := s.timers.filter fun timer => s.transportTref ≠ some timer.id, transportTref := none }

/-- A new timer that takes the place of `_transport_tref`. -/
def Socket.startTimer (delay : ℕ) (s : Socket) : Socket :=
  { s with
    timers := s.timers ++ [⟨s.started, delay⟩]
    transportTref := some s.started
    started := s.started + 1 }

/-- `_applyInfo`. -/
def Socket.applyInfo (env : Env) (info : Info) (rtt : ℕ) (s : Socket) : Socket :=
  { s with
    rto := countRTO rtt
    protocols := detectProtocols (Protocol.enabled env.browser) env.whitelist info (!env.browser.domain) }

section Scripts

variable (env : Env)

/-- The loop of `_try_next_protocol`. -/
def tryProtocols : List Protocol → Script Bool
  | [] => do
    modify fun s => { s with protocols := [] }
    return false
  | protocol :: rest => do
    let s ← get
    if protocol.needBody && !s.complete then
      modify fun s => { s with protocols := protocol :: rest, loadListeners := s.loadListeners + 1 }
      return true
    else if !protocol.enabled env.browser then
      tryProtocols rest
    else
      modify fun s => { s with protocols := rest }
      modify (Socket.startTimer (protocol.timeout s.rto))
      if env.construct s.started then
        modify fun s => { s with transport := some s.opened.length, opened := s.opened ++ [protocol] }
        return true
      else
        throw .constructor

/-- `_try_next_protocol`. -/
def tryNextProtocol : Script Bool := do
  modify Socket.clearTref
  let s ← get
  tryProtocols env s.protocols

/-- The end of `_didClose`: the close event is dispatched later. -/
def scheduleClose (event : CloseEvent) (lastEvent : Option CloseEvent) : Script Unit :=
  modify fun s => { s with
    readyState := .closed
    closeEvents := s.closeEvents ++ [(event, lastEvent)]
    closedAt := some s.trace.length }

/-- `_didClose`. -/
def didClose (code : Option ℤ) (reason : Option String) (force : Bool) : Script Unit := do
  let s ← get
  if s.readyState = .closed then
    throw .invalidState
  else
    modify fun s => { s with ir := false }
    modify fun s => { s with transport := none }
    let closeEvent : CloseEvent := ⟨code, reason, userSetCode code⟩
    if !userSetCode code && s.readyState = .connecting && !force then
      if ← tryNextProtocol env then
        return ()
      else
        scheduleClose ⟨some 2000, some "All transports failed", false⟩ (some closeEvent)
    else
      scheduleClose closeEvent none

/-- `close`. -/
def close (code : Option ℤ) (reason : Option String) : Script Unit := do
  if code.getD 0 ≠ 0 ∧ ¬ userSetCode code then
    throw .invalidAccess
  else
    let s ← get
    if s.readyState = .connecting ∨ s.readyState = .opened then
      modify fun s => { s with readyState := .closing }
      didClose env (if code.getD 0 ≠ 0 then code else some 1000)
        (if reason.getD "" ≠ "" then reason else some "Normal closure") false
    else
      return ()

/-- `send`. -/
def send (data : JsString) : Script Unit := do
  let s ← get
  match s.readyState with
  | .connecting => throw .invalidState
  | .opened =>
    match s.transport with
    | none => throw .typeError
    | some k => modify fun s => { s with sent := s.sent ++ [(k, quote env.browser.stringify data)] }
  | .closing | .closed => return ()

/-- A call of the user, without the record of it. -/
def perform : Call → Script Unit
  | .close code reason => close env code reason
  | .send data => send env data
  | .setOnclose installed => modify fun s => { s with onclose := installed }
  | .throwing => throw .user

/-- A call of the user. -/
def call (c : Call) : Script Unit :=
  tryCatch (do
      perform env c
      modify fun s => { s with trace := s.trace ++ [.called c none] })
    fun e => do
      modify fun s => { s with trace := s.trace ++ [.called c (some e)] }
      throw e

/-- A handler is installed for the event. -/
def Socket.hears (s : Socket) : Callback → Bool
  | .closed _ _ => s.onclose
  | _ => true

/-- `dispatchEvent`: the handler runs, if there is one. -/
def dispatchEvent (event : Callback) : Script Unit := do
  modify fun s => { s with trace := s.trace ++ [.callback event] }
  let s ← get
  if s.hears event then (env.handlers s.trace).forM (call env) else return ()

/-- `_dispatchOpen`. -/
def dispatchOpen : Script Unit := do
  let s ← get
  if s.readyState = .connecting then
    modify Socket.clearTref
    modify fun s => { s with readyState := .opened }
    dispatchEvent env .opened
  else
    didClose env (some 1006) (some "Server lost session") false

/-- `_dispatchMessage` and `_dispatchHeartbeat`: nothing unless the socket is open. -/
def dispatchWhenOpen (event : Callback) : Script Unit := do
  let s ← get
  if s.readyState = .opened then dispatchEvent env event else return ()

/-- `_dispatchMessage`. -/
def dispatchMessage (data : JsString) : Script Unit := dispatchWhenOpen env (.message data)

/-- `_dispatchHeartbeat`. -/
def dispatchHeartbeat : Script Unit := dispatchWhenOpen env .heartbeat

/-- `_didMessage`. -/
def didMessage : ServerFrame → Script Unit
  | .o => dispatchOpen env
  | .a payload => payload.forM (dispatchMessage env)
  | .m payload => dispatchMessage env payload
  | .c code reason => didClose env code reason false
  | .h => dispatchHeartbeat env
  | .malformed => throw .syntaxError
  | .unknown => return ()

/-- `_ir.onfinish`. -/
def onInfo (answer : Option (Info × ℕ)) : Script Unit := do
  modify fun s => { s with ir := false }
  match answer with
  | some (info, rtt) => do
    modify (Socket.applyInfo env info (if env.rtt.getD 0 ≠ 0 then env.rtt.getD 0 else rtt))
    didClose env none none false
  | none => didClose env (some 1002) (some "Can't connect to server") true

/-- The timer of a transport. -/
def onTimeout : Script Unit := do
  let s ← get
  if s.readyState = .connecting then didClose env (some 2007) (some "Transport timeouted") false
  else return ()

/-- Run a script to its end; an exception is reported to the console. -/
def run {α : Type} (script : Script α) (s : Socket) : Socket := (Effect.outcome script s).2

end Scripts

/-- The transport posts by requests of its own and has been given something to send, so that one of
these requests may still fail. -/
def Socket.posts (s : Socket) (k : ℕ) : Bool :=
  s.opened[k]?.any Protocol.ajaxBased && s.sent.any (·.1 = k)

/-- What can happen next. -/
inductive Label
  | info (answer : Option (Info × ℕ))
  | frame (k : ℕ) (frame : ServerFrame)
  | failed (k : ℕ) (reason : String)
  | timer (id : ℕ)
  | call (c : Call)
  | closeEvent
  | complete
  | load
  deriving DecidableEq, Repr

/-- One event at the socket; `none` when it is not possible. -/
def step (env : Env) (s : Socket) : Label → Option Socket
  | .info answer => if s.ir then some (run (onInfo env answer) s) else none
  | .frame k frame => if s.transport = some k then some (run (didMessage env frame) s) else none
  | .failed k reason =>
    if s.transport = some k ∨ s.posts k then some (run (didClose env (some 1006) (some reason) false) s)
    else none
  | .timer id =>
    if s.timers.any (·.id = id) then
      some (run (onTimeout env) { s with timers := s.timers.filter (·.id ≠ id) })
    else none
  | .call c => some (run (call env c) s)
  | .closeEvent =>
    match s.closeEvents with
    | [] => none
    | (event, lastEvent) :: rest =>
      some (run (dispatchEvent env (.closed event lastEvent)) { s with closeEvents := rest })
  | .complete => some { s with complete := true }
  | .load =>
    if s.complete && !s.loaded then
      some ((run (tryNextProtocol env))^[s.loadListeners] { s with loaded := true, loadListeners := 0 })
    else none

/-- A socket that has just been created, in a document that may have been loaded. -/
def Socket.new (complete loaded : Bool) : Socket :=
  { readyState := .connecting, ir := true, protocols := [], rto := 0, transport := none, opened := []
    transportTref := none, timers := [], started := 0, complete := complete, loaded := loaded
    loadListeners := 0, onclose := false, closeEvents := [], sent := [], trace := [], closedAt := none }

/-- All runs of a socket. The document is complete before it is loaded. -/
def system (env : Env) : TransitionSystem Socket Label :=
  .ofStep (fun s => ∃ complete loaded : Bool, (loaded → complete) ∧ s = Socket.new complete loaded) (step env)

end SockJs

end EventMonitor
