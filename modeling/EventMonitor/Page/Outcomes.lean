import EventMonitor.Page.System

/-!
# What the scripts do to the client that the page holds

The outcome of each script for the client that was created last, as a change of that client
and of the few fields of the window that the script writes. `disconnect` throws on a client
that is still connecting, before it has changed anything; `connect` then ends without a new
attempt.
-/

namespace EventMonitor

open Library

namespace Page

/-- The socket opens, and CONNECT is sent. -/
def Client.onOpen (client : Client) : Client :=
  client.mapSocket fun ws => { ws with readyState := .opened, sent := ws.sent ++ [.connect] }

/-- The client subscribes to `/server/list`. -/
def Client.subscribe (client : Client) : Client :=
  { client with
    ws := { client.ws with sent := client.ws.sent ++ [.subscribe "/server/list" client.counter] }
    counter := client.counter + 1
    subscriptions := client.subscriptions ++ [client.counter] }

/-- A CONNECTED frame arrives, and the client subscribes. -/
def Client.onConnected (client : Client) : Client :=
  { client with
    connected := true
    connectedFrames := client.connectedFrames + 1 }.subscribe.mapSocket
      fun ws => { ws with sent := ws.sent ++ [Frame.send "/eventmonitor/events"] }

/-- An ERROR frame arrives. -/
def Client.onError (client : Client) : Client := { client with errorFrames := client.errorFrames + 1 }

/-- A scheduled close event is dispatched. -/
def Client.onCloseEvent (client : Client) : Client :=
  client.mapSocket fun ws => { ws with closeEvents := ws.closeEvents - 1 }

/-- The page has given the client up. -/
def Client.disconnected (client : Client) : Client :=
  { client with
    connected := false
    ws := if client.ws.readyState = .opened then
        { client.ws with
          sent := client.ws.sent ++ [.disconnect]
          onclose := false
          readyState := .closed
          closeEvents := client.ws.closeEvents + 1 }
      else { client.ws with onclose := false } }

/-- A client that has just been created and is the held one. -/
def Client.fresh : Client := ⟨⟨.connecting, true, 0, []⟩, false, 0, [], 0, 0⟩

@[simp] theorem Client.mapSocket_ws (f : SockJS → SockJS) (client : Client) :
    (client.mapSocket f).ws = f client.ws := rfl

@[simp] theorem SockJS.didClose_readyState (ws : SockJS) : ws.didClose.readyState = .closed := rfl

@[simp] theorem Client.onOpen_readyState (client : Client) : client.onOpen.ws.readyState = .opened := rfl

@[simp] theorem Client.fresh_readyState : Client.fresh.ws.readyState = .connecting := rfl

@[simp] theorem Client.fresh_errorFrames : Client.fresh.errorFrames = 0 := rfl

/-- Changing the last client of a list. -/
theorem modify_last {α : Type} (l : List α) (a : α) (f : α → α) :
    (l ++ [a]).modify l.length f = l ++ [f a] := by
  induction l with
  | nil => rfl
  | cons b l ih => simpa using ih

/-- Changing another client of a list. -/
theorem modify_earlier {α : Type} (l : List α) (a : α) (f : α → α) {i : ℕ} (h : i < l.length) :
    (l ++ [a]).modify i f = l.modify i f ++ [a] := by
  induction l generalizing i with
  | nil => simp at h
  | cons b l ih =>
    cases i with
    | zero => rfl
    | succ i => simpa using ih (Nat.lt_of_succ_lt_succ h)

/-- What a change preserves still holds of all clients after one of them has changed. -/
theorem forall_mem_modify {α : Type} {l : List α} {f : α → α} {P : α → Prop} (h : ∀ a ∈ l, P a)
    (hf : ∀ a, P a → P (f a)) (i : ℕ) : ∀ a ∈ l.modify i f, P a := by
  intro a hmem
  obtain ⟨j, hget⟩ := List.mem_iff_getElem?.mp hmem
  rw [List.getElem?_modify] at hget
  obtain ⟨before, hbefore, rfl⟩ := Option.map_eq_some_iff.mp hget
  have hold := h before (List.mem_of_getElem? hbefore)
  split
  · exact hf before hold
  · exact hold

/-- The window with the given clients, the last one of them apart. -/
def Window.hold (w : Window) (old : List Client) (held : Client) : Window :=
  { w with clients := old ++ [held] }

section Scripts

variable (w : Window) (old : List Client) (held : Client)

@[simp] theorem Window.hold_clients : (w.hold old held).clients = old ++ [held] := rfl

@[simp] theorem Window.hold_stompClient : (w.hold old held).stompClient = w.stompClient := rfl

@[simp] theorem Window.hold_timeouts : (w.hold old held).timeouts = w.timeouts := rfl

@[simp] theorem Window.hold_attempts : (w.hold old held).attempts = w.attempts := rfl

@[simp] theorem Window.hold_inFlight : (w.hold old held).inFlight = w.inFlight := rfl

@[simp] theorem Window.hold_shown : (w.hold old held).shown = w.shown := rfl

/-- Changing the held client. -/
@[simp] theorem Window.update_hold (f : Client → Client) :
    (w.hold old held).update old.length f = w.hold old (f held) := by
  rw [Window.update, Window.hold_clients, modify_last]
  rfl

/-- Sending throws while connecting, and does nothing unless the socket is open. -/
theorem outcome_send (frame : Frame) :
    Effect.outcome (SockJS.send old.length frame) (w.hold old held) =
      if held.ws.readyState = .connecting then (.error .invalidState, w.hold old held)
      else if held.ws.readyState = .opened then
        (.ok (), w.hold old (held.mapSocket fun ws => { ws with sent := ws.sent ++ [frame] }))
      else (.ok (), w.hold old held) := by
  rw [SockJS.send, Effect.outcome_bind, Effect.outcome_get]
  simp only [Window.hold_clients, List.getElem?_concat_length]
  rcases hstate : held.ws.readyState <;> simp

/-- Sending on an open socket. -/
theorem outcome_send_opened (frame : Frame) (hopen : held.ws.readyState = .opened) :
    Effect.outcome (SockJS.send old.length frame) (w.hold old held) =
      (.ok (), w.hold old (held.mapSocket fun ws => { ws with sent := ws.sent ++ [frame] })) := by
  rw [outcome_send, if_neg (by simp [hopen]), if_pos hopen]

/-- Closing a socket that is not connecting. -/
theorem outcome_close (h : held.ws.readyState ≠ .connecting) :
    Effect.outcome (SockJS.close old.length) (w.hold old held) =
      (.ok (), w.hold old (if held.ws.readyState = .opened then held.mapSocket SockJS.didClose else held)) := by
  rw [SockJS.close, Effect.outcome_bind, Effect.outcome_get]
  simp only [Window.hold_clients, List.getElem?_concat_length]
  rcases hstate : held.ws.readyState with _ | _ | _ | _
  · exact absurd hstate h
  · simp only [Effect.outcome_bind, Effect.outcome_modify, Window.update_hold, if_true]
    rfl
  all_goals simp

/-- Disconnecting throws while connecting, before anything has been done. -/
theorem outcome_disconnect :
    Effect.outcome (Stomp.disconnect old.length) (w.hold old held) =
      if held.ws.readyState = .connecting then (.error .invalidState, w.hold old held)
      else (.ok (), w.hold old held.disconnected) := by
  rw [Stomp.disconnect, Effect.outcome_bind, Stomp.transmit, outcome_send]
  rcases hstate : held.ws.readyState with _ | _ | _ | _
  · simp
  all_goals
    simp only [reduceCtorEq, if_true, if_false, Effect.outcome_bind, Effect.outcome_modify,
      Window.update_hold]
    rw [outcome_close _ _ _ (by simp [Client.mapSocket, hstate])]
    simp [Stomp.cleanUp, Client.mapSocket, Client.disconnected, SockJS.didClose, hstate]

/-- Subscribing on an open socket. -/
theorem outcome_subscribe (hopen : held.ws.readyState = .opened) :
    Effect.outcome (Stomp.subscribe old.length "/server/list") (w.hold old held) =
      (.ok (), w.hold old held.subscribe) := by
  rw [Stomp.subscribe, Effect.outcome_bind, Effect.outcome_get]
  simp only [Window.hold_clients, List.getElem?_concat_length, Effect.outcome_bind, Effect.outcome_modify,
    Window.update_hold, Stomp.transmit]
  exact outcome_send_opened w old _ _ hopen

/-- Opening the held socket. -/
theorem run_dispatchOpen :
    run (SockJS.dispatchOpen old.length (Stomp.onopen old.length)) (w.hold old held) =
      w.hold old held.onOpen := by
  rw [run, SockJS.dispatchOpen, Effect.outcome_bind, Effect.outcome_modify, Window.update_hold]
  simp only [Stomp.onopen, Stomp.transmit]
  rw [outcome_send_opened _ _ _ _ rfl]
  rfl

/-- The callback of a CONNECTED frame finds its own client. -/
theorem outcome_connectCallback (hopen : held.ws.readyState = .opened)
    (hheld : w.stompClient = some old.length) :
    Effect.outcome connectCallback (w.hold old held) = (.ok (), { w with response := [] }.hold old
      (held.subscribe.mapSocket fun ws => { ws with sent := ws.sent ++ [Frame.send "/eventmonitor/events"] })) := by
  have hclear : Effect.outcome setConnected (w.hold old held) =
      (.ok (), { w with response := [] }.hold old held) := rfl
  rw [connectCallback, Effect.outcome_bind, hclear]
  simp only [Effect.outcome_bind, Effect.outcome_get, Window.hold_stompClient, hheld, Stomp.send,
    Stomp.transmit]
  rw [outcome_subscribe _ _ _ hopen]
  exact outcome_send_opened _ old _ _ hopen

/-- A CONNECTED frame on the held socket. -/
theorem run_onConnected (hopen : held.ws.readyState = .opened) (hheld : w.stompClient = some old.length) :
    run (SockJS.dispatchMessage old.length (Stomp.onConnected old.length connectCallback)) (w.hold old held) =
      { w with response := [] }.hold old held.onConnected := by
  rw [run, SockJS.dispatchMessage, Effect.outcome_bind, Effect.outcome_get]
  simp only [Window.hold_clients, List.getElem?_concat_length]
  rw [if_pos hopen, Stomp.onConnected, Effect.outcome_bind, Effect.outcome_modify, Window.update_hold]
  exact congrArg Prod.snd (outcome_connectCallback w old { held with
    connected := true
    connectedFrames := held.connectedFrames + 1 } hopen hheld)

/-- An ERROR frame on the held socket. -/
theorem run_onError (hopen : held.ws.readyState = .opened) :
    run (SockJS.dispatchMessage old.length (Stomp.onError old.length reconnect)) (w.hold old held) =
      { w with timeouts := w.timeouts ++ [w.now + 10000] }.hold old held.onError := by
  rw [run, SockJS.dispatchMessage, Effect.outcome_bind, Effect.outcome_get]
  simp only [Window.hold_clients, List.getElem?_concat_length]
  rw [if_pos hopen, Stomp.onError, Effect.outcome_bind, Effect.outcome_modify, Window.update_hold]
  rfl

/-- The close event of the held socket, with its handler installed. -/
theorem run_dispatchClose (hinstalled : held.ws.onclose = true) :
    run (SockJS.dispatchClose old.length (Stomp.onclose old.length reconnect)) (w.hold old held) =
      { w with timeouts := w.timeouts ++ [w.now + 10000] }.hold old
        { held.onCloseEvent with connected := false } := by
  have hkept : held.onCloseEvent.ws.onclose = true := hinstalled
  rw [run, SockJS.dispatchClose, Effect.outcome_bind, Effect.outcome_modify, Window.update_hold]
  simp only [Effect.outcome_bind, Effect.outcome_get, Window.hold_clients, List.getElem?_concat_length]
  rw [← Client.onCloseEvent, if_pos hkept, Stomp.onclose, Effect.outcome_bind, Stomp.cleanUp,
    Effect.outcome_modify, Window.update_hold]
  rfl

/-- The close event of the held socket, with its handler removed. -/
theorem run_dispatchClose_unheard (hremoved : held.ws.onclose = false) :
    run (SockJS.dispatchClose old.length (Stomp.onclose old.length reconnect)) (w.hold old held) =
      w.hold old held.onCloseEvent := by
  have hkept : held.onCloseEvent.ws.onclose = false := hremoved
  rw [run, SockJS.dispatchClose, Effect.outcome_bind, Effect.outcome_modify, Window.update_hold]
  simp only [Effect.outcome_bind, Effect.outcome_get, Window.hold_clients, List.getElem?_concat_length]
  rw [← Client.onCloseEvent, if_neg (by simp [hkept])]
  rfl

/-- A new attempt, unless the held socket is still connecting. -/
theorem run_connect (hheld : w.stompClient = some old.length) :
    run connect (w.hold old held) =
      if held.ws.readyState = .connecting then w.hold old held
      else { w with
        stompClient := some (old.length + 1)
        attempts := w.attempts ++ [w.now] }.hold (old ++ [held.disconnected]) .fresh := by
  rw [run, connect, Effect.outcome_bind, Effect.outcome_get]
  simp only [Window.hold_stompClient, hheld, Effect.outcome_bind, outcome_disconnect]
  by_cases hconnecting : held.ws.readyState = .connecting
  · simp only [hconnecting, if_true]
  · simp only [hconnecting, if_false, newStompClient, Effect.outcome_modify, Stomp.connect,
      Window.hold_clients]
    have hlength : (old ++ [held]).length = (old ++ [held.disconnected]).length := by simp
    have hindex : (old ++ [held.disconnected]).length = old.length + 1 := by simp
    rw [hlength, ← hindex]
    exact Window.update_hold { w with
      stompClient := some (old ++ [held.disconnected]).length
      attempts := w.attempts ++ [w.now] } (old ++ [held.disconnected]) (Stomp.overSocket SockJS.new) _

end Scripts

end Page

end EventMonitor
