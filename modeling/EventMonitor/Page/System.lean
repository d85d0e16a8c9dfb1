import EventMonitor.Library.TransitionSystem
import EventMonitor.Page.Script

/-!
# The events at the page

What can happen to the page between the runs of its scripts: a socket opens, fails or is
closed by the server, a frame arrives, a scheduled close event or a timeout is due. Each
event runs one script to its end. Frames may arrive in any number and order; a MESSAGE frame
is one that the server has sent for a broadcast, to a subscription it has been asked for.
-/

namespace EventMonitor

open Library

namespace Page

/-- What can happen next. -/
inductive Label
  | opened (i : ℕ)
  | attemptFailed (i : ℕ)
  | connectedFrame (i : ℕ)
  | errorFrame (i : ℕ)
  | broadcast (body : JsonResult WebSocketDto) (targets : List (ℕ × ℕ))
  | messageFrame (k : ℕ)
  | serverClose (i : ℕ)
  | dispatchClose (i : ℕ)
  | elapse (millis : ℕ)
  | timeout (k : ℕ)
  deriving DecidableEq, Repr

/-- Run a script to its end; an exception is reported to the console. -/
def run (script : Script Unit) (w : Window) : Window := (Effect.outcome script w).2

/-- An event at a socket, possible in some states of the socket only. -/
def socketEvent (w : Window) (i : ℕ) (possible : SockJS → Bool) (script : Script Unit) : Option Window :=
  match w.clients[i]? with
  | some client => if possible client.ws then some (run script w) else none
  | none => none

/-- The server has been asked for a subscription to `/server/list`. -/
def Window.subscribed (w : Window) (target : ℕ × ℕ) : Bool :=
  w.clients[target.1]?.any fun client => .subscribe "/server/list" target.2 ∈ client.ws.sent

/-- The MESSAGE frames that the server sends for one broadcast. -/
def messageFrames (broadcast : ℕ) (body : JsonResult WebSocketDto) (targets : List (ℕ × ℕ)) :
    List MessageFrame :=
  targets.map fun target => ⟨target.1, target.2, broadcast, body⟩

/-- One event at the page; `none` when it is not possible. -/
def step (w : Window) : Label → Option Window
  | .opened i =>
    socketEvent w i (·.readyState = .connecting) (SockJS.dispatchOpen i (Stomp.onopen i))
  | .attemptFailed i =>
    socketEvent w i (·.readyState = .connecting) (modify (Window.update i (Client.mapSocket SockJS.didClose)))
  | .serverClose i =>
    socketEvent w i (·.readyState = .opened) (modify (Window.update i (Client.mapSocket SockJS.didClose)))
  | .connectedFrame i =>
    socketEvent w i (fun _ => true) (SockJS.dispatchMessage i (Stomp.onConnected i connectCallback))
  | .errorFrame i =>
    socketEvent w i (fun _ => true) (SockJS.dispatchMessage i (Stomp.onError i reconnect))
  | .broadcast body targets =>
    if targets.Nodup ∧ ∀ target ∈ targets, w.subscribed target then some { w with
      broadcasts := w.broadcasts + 1
      inFlight := w.inFlight ++ messageFrames w.broadcasts body targets }
    else none
  | .messageFrame k =>
    match w.inFlight[k]? with
    | some frame => some (run (SockJS.dispatchMessage frame.client (Stomp.onMessage frame showResponse))
        { w with inFlight := w.inFlight.eraseIdx k })
    | none => none
  | .dispatchClose i =>
    socketEvent w i (0 < ·.closeEvents) (SockJS.dispatchClose i (Stomp.onclose i reconnect))
  | .elapse millis => some { w with now := w.now + millis }
  | .timeout k =>
    match w.timeouts[k]? with
    | some due =>
      if due ≤ w.now then some (run connect { w with timeouts := w.timeouts.eraseIdx k }) else none
    | none => none

/-- The window before the page has been loaded. -/
def blank : Window := ⟨[], none, [], 0, [], [], 0, [], []⟩

/-- The window when `onload="connect()"` has run. -/
def loaded : Window := run connect blank

/-- All runs of the page, from its load. -/
def system : TransitionSystem Window Label := .ofStep (· = loaded) step

/-- A replay from the load ends in a reachable state. -/
theorem exists_reachable {α : Type} {labels : List Label} {view : Window → α} {a : α}
    (h : (TransitionSystem.replay step loaded labels).map view = some a) :
    ∃ w, system.Reachable w ∧ view w = a :=
  TransitionSystem.exists_reachable_of_replay labels view rfl h

/-- A replay from the load is a run with its labels. -/
theorem exists_labelled_run {α : Type} {labels : List Label} {view : Window → α} {a : α}
    (h : (TransitionSystem.replay step loaded labels).map view = some a) :
    ∃ history w, system.Run history w ∧ history.map TransitionSystem.Taken.label = labels ∧ view w = a :=
  TransitionSystem.exists_labelled_run labels view rfl h

/-- A replay from the load behind a guard ends a run whose steps pass the guard. -/
theorem exists_run {α : Type} {guard : Window → Label → Prop} [DecidableRel guard] {labels : List Label}
    {view : Window → α} {a : α}
    (h : (TransitionSystem.replay (fun w l => if guard w l then step w l else none) loaded labels).map view =
      some a) :
    ∃ history w, system.Run history w ∧ (∀ taken ∈ history, guard taken.source taken.label) ∧ view w = a :=
  TransitionSystem.exists_run_of_replay labels view rfl h

end Page

end EventMonitor
