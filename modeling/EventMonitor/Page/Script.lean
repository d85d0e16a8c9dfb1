import EventMonitor.Library.Effect
import EventMonitor.Model.Dto
import Mathlib.Data.List.Basic

/-!
# The scripts of the page

`eventMonitor.js` on top of Stomp on top of SockJS, as far as the page uses them. The objects
that the scripts create live in the window; a Stomp client and the SockJS socket it was
made for are one entry, referred to by its index. An exception ends the running script and
leaves the window as it is at that point.

What the server sends can be printed and read here: CONNECTED frames, and the bodies of MESSAGE
frames. Stomp's refinement of the page says what happens with the others.

Heartbeats are left out: pings change nothing, and the check for missing pongs compares with a
time that is not a number, so that it never closes a socket.
-/

namespace EventMonitor

open Library

namespace Page

/-- `readyState` of a socket. -/
inductive ReadyState
  | connecting
  | opened
  | closing
  | closed
  deriving DecidableEq, Repr

/-- The frames that the page sends, with their destination. -/
inductive Frame
  | connect
  | subscribe (destination : String) (id : ℕ)
  | send (destination : String)
  | disconnect
  deriving DecidableEq, Repr

/-- A SockJS socket: whether Stomp's `onclose` handler is installed, how many dispatches of a close
event have been scheduled, and what has been sent. -/
structure SockJS where
  readyState : ReadyState
  onclose : Bool
  closeEvents : ℕ
  sent : List Frame
  deriving DecidableEq, Repr

/-- A Stomp client with its socket, and the frames it has received so far. -/
structure Client where
  ws : SockJS
  connected : Bool
  counter : ℕ
  subscriptions : List ℕ
  connectedFrames : ℕ
  errorFrames : ℕ
  deriving DecidableEq, Repr

/-- A MESSAGE frame: the subscription of the client that it is sent to, and the broadcast it carries. -/
structure MessageFrame where
  client : ℕ
  subscription : ℕ
  broadcast : ℕ
  body : JsonResult WebSocketDto
  deriving DecidableEq, Repr

/-- The window of the page, with the clock, the MESSAGE frames under way and those shown so far. -/
structure Window where
  clients : List Client
  stompClient : Option ℕ
  timeouts : List ℕ
  now : ℕ
  attempts : List ℕ
  response : List String
  broadcasts : ℕ
  inFlight : List MessageFrame
  shown : List MessageFrame
  deriving DecidableEq, Repr

/-- What the scripts can throw. -/
inductive JsError
  | invalidState
  | typeError
  deriving DecidableEq, Repr

/-- A script of the page. -/
abbrev Script := Effect JsError Window

/-- Change the client with the given index. -/
def Window.update (i : ℕ) (f : Client → Client) (w : Window) : Window :=
  { w with clients := w.clients.modify i f }

/-- Change the socket of a client. -/
def Client.mapSocket (f : SockJS → SockJS) (client : Client) : Client := { client with ws := f client.ws }

namespace SockJS

/-- A new socket, on which no handler has been installed yet. -/
def new : SockJS := ⟨.connecting, false, 0, []⟩

/-- `_didClose`, once no transport is left to try: the close event is dispatched later. -/
def didClose (ws : SockJS) : SockJS :=
  { ws with readyState := .closed, closeEvents := ws.closeEvents + 1 }

/-- `close` does nothing on a socket that is closing or closed. -/
def close (i : ℕ) : Script Unit := do
  let w ← get
  match w.clients[i]? with
  | none => pure ()
  | some client =>
    match client.ws.readyState with
    | .connecting | .opened => do
      modify (Window.update i (Client.mapSocket fun ws => { ws with readyState := .closing }))
      modify (Window.update i (Client.mapSocket didClose))
    | .closing | .closed => pure ()

/-- `send` throws while connecting and does nothing when closed. -/
def send (i : ℕ) (frame : Frame) : Script Unit := do
  let w ← get
  match w.clients[i]? with
  | none => pure ()
  | some client =>
    match client.ws.readyState with
    | .connecting => throw .invalidState
    | .opened => modify (Window.update i (Client.mapSocket fun ws => { ws with sent := ws.sent ++ [frame] }))
    | .closing | .closed => pure ()

/-- `_dispatchMessage`: frames are handed on only while the socket is open. -/
def dispatchMessage (i : ℕ) (onmessage : Script Unit) : Script Unit := do
  let w ← get
  match w.clients[i]? with
  | none => pure ()
  | some client => if client.ws.readyState = .opened then onmessage else pure ()

/-- `_dispatchOpen`, on a socket that is connecting. -/
def dispatchOpen (i : ℕ) (onopen : Script Unit) : Script Unit := do
  modify (Window.update i (Client.mapSocket fun ws => { ws with readyState := .opened }))
  onopen

/-- A scheduled close event reaches the handler that is installed by then. -/
def dispatchClose (i : ℕ) (onclose : Script Unit) : Script Unit := do
  modify (Window.update i (Client.mapSocket fun ws => { ws with closeEvents := ws.closeEvents - 1 }))
  let w ← get
  match w.clients[i]? with
  | none => pure ()
  | some client => if client.ws.onclose then onclose else pure ()

end SockJS

namespace Stomp

/-- `Stomp.over` a new socket. -/
def overSocket (ws : SockJS) : Client := ⟨ws, false, 0, [], 0, 0⟩

/-- `_transmit`. -/
def transmit (i : ℕ) (frame : Frame) : Script Unit := SockJS.send i frame

/-- `_cleanUp`. -/
def cleanUp (i : ℕ) : Script Unit :=
  modify (Window.update i fun client => { client with connected := false })

/-- `connect` installs the handlers; of these only `onclose` is ever removed again. -/
def connect (i : ℕ) : Script Unit :=
  modify (Window.update i (Client.mapSocket fun ws => { ws with onclose := true }))

/-- `disconnect`. -/
def disconnect (i : ℕ) : Script Unit := do
  transmit i .disconnect
  modify (Window.update i (Client.mapSocket fun ws => { ws with onclose := false }))
  SockJS.close i
  cleanUp i

/-- `subscribe`, with an id that the client chooses. -/
def subscribe (i : ℕ) (destination : String) : Script Unit := do
  let w ← get
  match w.clients[i]? with
  | none => pure ()
  | some client =>
    modify (Window.update i fun client => { client with
      counter := client.counter + 1
      subscriptions := client.subscriptions ++ [client.counter] })
    transmit i (.subscribe destination client.counter)

/-- `send`, of a message without headers. -/
def send (i : ℕ) (destination : String) : Script Unit := transmit i (.send destination)

/-- `ws.onopen`. -/
def onopen (i : ℕ) : Script Unit := transmit i .connect

/-- `ws.onmessage` for a CONNECTED frame. -/
def onConnected (i : ℕ) (connectCallback : Script Unit) : Script Unit := do
  modify (Window.update i fun client => { client with
    connected := true
    connectedFrames := client.connectedFrames + 1 })
  connectCallback

/-- `ws.onmessage` for an ERROR frame. -/
def onError (i : ℕ) (errorCallback : Script Unit) : Script Unit := do
  modify (Window.update i fun client => { client with errorFrames := client.errorFrames + 1 })
  errorCallback

/-- `ws.onmessage` for a MESSAGE frame; one without a subscription is only logged. -/
def onMessage (frame : MessageFrame) (onreceive : MessageFrame → Script Unit) : Script Unit := do
  let w ← get
  match w.clients[frame.client]? with
  | none => pure ()
  | some client => if frame.subscription ∈ client.subscriptions then onreceive frame else pure ()

/-- `ws.onclose`. -/
def onclose (i : ℕ) (errorCallback : Script Unit) : Script Unit := do
  cleanUp i
  errorCallback

end Stomp

/-- `reconnect`: `connect` is called in ten seconds. -/
def reconnect : Script Unit :=
  modify fun w => { w with timeouts := w.timeouts ++ [w.now + 10000] }

/-- `setConnected` clears the list. -/
def setConnected : Script Unit := modify fun w => { w with response := [] }

/-- `showResponse`, for the text inside a MESSAGE frame. -/
def showResponse (frame : MessageFrame) : Script Unit :=
  modify fun w => { w with
    response := w.response ++ [frame.body.data.content]
    shown := w.shown ++ [frame] }

/-- The callback for a CONNECTED frame; it uses the global `stompClient`. -/
def connectCallback : Script Unit := do
  setConnected
  let w ← get
  match w.stompClient with
  | none => throw .typeError
  | some i => do
    Stomp.subscribe i "/server/list"
    Stomp.send i "/eventmonitor/events"

/-- `new SockJS`, wrapped by `Stomp.over` and assigned to `stompClient`. -/
def newStompClient : Script Unit :=
  modify fun w => { w with
    clients := w.clients ++ [Stomp.overSocket SockJS.new]
    stompClient := some w.clients.length
    attempts := w.attempts ++ [w.now] }

/-- `connect`. -/
def connect : Script Unit := do
  let w ← get
  match w.stompClient with
  | none => pure ()
  | some i => Stomp.disconnect i
  newStompClient
  Stomp.connect w.clients.length

end Page

end EventMonitor
