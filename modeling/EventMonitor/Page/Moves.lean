import EventMonitor.Page.Outcomes

/-!
# What one event does to the page

The page holds the client that it has created last; all earlier ones are closed and have lost
their `onclose` handler. As long as this is so, the scripts that look up the global
`stompClient` find the client whose frame they handle, and every event has one of a few
effects. The invariant itself is proved from these effects.
-/

namespace EventMonitor

open Library

namespace Page

/-- The page holds its last client and has closed the others. -/
structure Line (w : Window) (old : List Client) (held : Client) : Prop where
  clients : w.clients = old ++ [held]
  stompClient : w.stompClient = some old.length
  old_closed : ∀ client ∈ old, client.ws.readyState = .closed ∧ client.ws.onclose = false
  held_onclose : held.ws.onclose = true
  held_closing : held.ws.readyState ≠ .closing

/-- An event by what it does to the clients, the timeouts and the MESSAGE frames: the next window,
with its last client apart. -/
inductive Move (w : Window) (old : List Client) (held : Client) :
    Label → Window → List Client → Client → Prop
  | opened (hconnecting : held.ws.readyState = .connecting) :
      Move w old held (.opened old.length) (w.hold old held.onOpen) old held.onOpen
  | lost {l : Label} (hlabel : l = .attemptFailed old.length ∨ l = .serverClose old.length)
      (halive : held.ws.readyState ≠ .closed) :
      Move w old held l (w.hold old (held.mapSocket SockJS.didClose)) old (held.mapSocket SockJS.didClose)
  | connected (hopen : held.ws.readyState = .opened) :
      Move w old held (.connectedFrame old.length) ({ w with response := [] }.hold old held.onConnected)
        old held.onConnected
  | errored (hopen : held.ws.readyState = .opened) :
      Move w old held (.errorFrame old.length)
        ({ w with timeouts := w.timeouts ++ [w.now + 10000] }.hold old held.onError) old held.onError
  | ignored {l : Label} (i : ℕ) (hlabel : l = .connectedFrame i ∨ l = .errorFrame i)
      (hnotOpen : i = old.length → held.ws.readyState ≠ .opened) : Move w old held l w old held
  | broadcast (body : JsonResult WebSocketDto) (targets : List (ℕ × ℕ)) (hnodup : targets.Nodup)
      (hsubscribed : ∀ target ∈ targets, w.subscribed target) :
      Move w old held (.broadcast body targets) { w with
        broadcasts := w.broadcasts + 1
        inFlight := w.inFlight ++ messageFrames w.broadcasts body targets }
        old held
  | shown (k : ℕ) (frame : MessageFrame) (hframe : w.inFlight[k]? = some frame)
      (hclient : frame.client = old.length) (hsubscription : frame.subscription ∈ held.subscriptions) :
      Move w old held (.messageFrame k) { w with
        inFlight := w.inFlight.eraseIdx k
        response := w.response ++ [frame.body.data.content]
        shown := w.shown ++ [frame] } old held
  | dropped (k : ℕ) :
      Move w old held (.messageFrame k) { w with inFlight := w.inFlight.eraseIdx k } old held
  | closed (hscheduled : 0 < held.ws.closeEvents) :
      Move w old held (.dispatchClose old.length)
        ({ w with timeouts := w.timeouts ++ [w.now + 10000] }.hold old
          { held.onCloseEvent with connected := false }) old { held.onCloseEvent with connected := false }
  | closedEarlier (i : ℕ) (hearlier : i < old.length) :
      Move w old held (.dispatchClose i) (w.hold (old.modify i Client.onCloseEvent) held)
        (old.modify i Client.onCloseEvent) held
  | elapsed (millis : ℕ) : Move w old held (.elapse millis) { w with now := w.now + millis } old held
  | refused (k : ℕ) (hconnecting : held.ws.readyState = .connecting) :
      Move w old held (.timeout k) { w with timeouts := w.timeouts.eraseIdx k } old held
  | reconnected (k : ℕ) (due : ℕ) (htimeout : w.timeouts[k]? = some due) (hdue : due ≤ w.now)
      (hready : held.ws.readyState ≠ .connecting) :
      Move w old held (.timeout k) ({ w with
        stompClient := some (old.length + 1)
        timeouts := w.timeouts.eraseIdx k
        attempts := w.attempts ++ [w.now] }.hold (old ++ [held.disconnected]) .fresh)
        (old ++ [held.disconnected]) .fresh

variable {w : Window} {old : List Client} {held : Client}

/-- The window with the held client apart. -/
theorem Line.eq_hold (h : Line w old held) : w = w.hold old held := by
  rw [Window.hold, ← h.clients]

/-- A client that is not closed is the held one. -/
theorem Line.held_of_not_closed (h : Line w old held) {i : ℕ} {client : Client}
    (hget : w.clients[i]? = some client) (halive : client.ws.readyState ≠ .closed) :
    i = old.length ∧ client = held := by
  rw [h.clients] at hget
  rcases Nat.lt_trichotomy i old.length with hlt | rfl | hgt
  · rw [List.getElem?_append_left hlt] at hget
    exact absurd (h.old_closed client (List.mem_of_getElem? hget)).1 halive
  · rw [List.getElem?_concat_length] at hget
    exact ⟨rfl, (Option.some.inj hget).symm⟩
  · rw [List.getElem?_eq_none (by simp; omega)] at hget
    contradiction

/-- An event at a socket that is possible runs its script. -/
theorem socketEvent_eq_some {i : ℕ} {possible : SockJS → Bool} {script : Script Unit} {w' : Window} :
    socketEvent w i possible script = some w' ↔
      ∃ client, w.clients[i]? = some client ∧ possible client.ws ∧ run script w = w' := by
  unfold socketEvent
  rcases hget : w.clients[i]? with _ | client
  · simp
  · by_cases hpossible : possible client.ws <;> simp [hpossible]

/-- An event at the held socket that is possible happens. -/
theorem socketEvent_hold {possible : SockJS → Bool} {script : Script Unit} {w' : Window} (hpossible : possible held.ws)
    (hrun : run script (w.hold old held) = w') :
    socketEvent (w.hold old held) old.length possible script = some w' :=
  socketEvent_eq_some.mpr ⟨held, List.getElem?_concat_length, hpossible, hrun⟩

/-- A frame at a socket that is not open has no effect. -/
theorem run_dispatchMessage_ignored {i : ℕ} {client : Client} (hget : w.clients[i]? = some client)
    (hnotOpen : client.ws.readyState ≠ .opened) (script : Script Unit) :
    run (SockJS.dispatchMessage i script) w = w := by
  simp [run, SockJS.dispatchMessage, Effect.outcome_bind, hget, hnotOpen]

/-- A MESSAGE frame at an open socket is shown if its subscription is known. -/
theorem run_onMessage {client : Client} {frame : MessageFrame}
    (hget : w.clients[frame.client]? = some client) (hopen : client.ws.readyState = .opened) :
    run (SockJS.dispatchMessage frame.client (Stomp.onMessage frame showResponse)) w =
      if frame.subscription ∈ client.subscriptions then { w with
        response := w.response ++ [frame.body.data.content]
        shown := w.shown ++ [frame] }
      else w := by
  simp only [run, SockJS.dispatchMessage, Stomp.onMessage, Effect.outcome_bind, Effect.outcome_get, hget,
    hopen, if_true]
  by_cases hsubscription : frame.subscription ∈ client.subscriptions
  · simp [hsubscription, showResponse]
  · simp [hsubscription]

/-- A close event without a handler only counts as dispatched. -/
theorem run_dispatchClose_ignored {i : ℕ} {client : Client} (hget : w.clients[i]? = some client)
    (hremoved : client.ws.onclose = false) (script : Script Unit) :
    run (SockJS.dispatchClose i script) w = w.update i Client.onCloseEvent := by
  have hget' : (w.update i Client.onCloseEvent).clients[i]? = some client.onCloseEvent := by
    simp [Window.update, hget]
  have hremoved' : ¬ client.onCloseEvent.ws.onclose = true := by
    simpa [Client.onCloseEvent, Client.mapSocket] using hremoved
  rw [run, SockJS.dispatchClose, Effect.outcome_bind, Effect.outcome_modify]
  change (Effect.outcome _ (w.update i Client.onCloseEvent)).2 = _
  simp only [Effect.outcome_bind, Effect.outcome_get, hget', if_neg hremoved', Effect.outcome_pure]

/-- Losing the socket of the held client. -/
theorem move_lost (h : Line w old held) {l : Label} {i : ℕ} {client : Client}
    (hlabel : l = .attemptFailed i ∨ l = .serverClose i) (hget : w.clients[i]? = some client)
    (halive : client.ws.readyState ≠ .closed) :
    ∃ old' held', Move w old held l
      (run (modify (Window.update i (Client.mapSocket SockJS.didClose))) w) old' held' := by
  obtain ⟨rfl, rfl⟩ := h.held_of_not_closed hget halive
  have hrun := Window.update_hold w old client (Client.mapSocket SockJS.didClose)
  rw [← h.eq_hold] at hrun
  rw [run, Effect.outcome_modify, hrun]
  exact ⟨_, _, .lost hlabel halive⟩

/-- A frame at a socket that is not open. -/
theorem move_ignored (h : Line w old held) {l : Label} {i : ℕ} {client : Client}
    (hlabel : l = .connectedFrame i ∨ l = .errorFrame i) (hget : w.clients[i]? = some client)
    (hnotOpen : client.ws.readyState ≠ .opened) (script : Script Unit) :
    ∃ old' held', Move w old held l (run (SockJS.dispatchMessage i script) w) old' held' := by
  rw [run_dispatchMessage_ignored hget hnotOpen]
  refine ⟨_, _, .ignored i hlabel ?_⟩
  rintro rfl
  obtain rfl : held = client := by simpa [h.clients] using hget
  exact hnotOpen

/-- A MESSAGE frame is shown by the held client or dropped. -/
theorem move_messageFrame (h : Line w old held) {k : ℕ} {frame : MessageFrame}
    (hframe : w.inFlight[k]? = some frame) :
    ∃ old' held', Move w old held (.messageFrame k)
      (run (SockJS.dispatchMessage frame.client (Stomp.onMessage frame showResponse))
        { w with inFlight := w.inFlight.eraseIdx k }) old' held' := by
  have hdropped : Move w old held (.messageFrame k) { w with inFlight := w.inFlight.eraseIdx k } old held :=
    .dropped k
  generalize hrest : { w with inFlight := w.inFlight.eraseIdx k } = rest at hdropped
  have hclients : rest.clients = w.clients := hrest ▸ rfl
  rcases hget : w.clients[frame.client]? with _ | client
  · have hrun : run (SockJS.dispatchMessage frame.client (Stomp.onMessage frame showResponse)) rest = rest := by
      simp [run, SockJS.dispatchMessage, Effect.outcome_bind, hclients, hget]
    rw [hrun]
    exact ⟨_, _, hdropped⟩
  rw [← hclients] at hget
  by_cases hopen : client.ws.readyState = .opened
  · rw [run_onMessage hget hopen]
    split
    next hsubscription =>
      rw [hclients] at hget
      obtain ⟨hclient, rfl⟩ := h.held_of_not_closed hget (by simp [hopen])
      subst hrest
      exact ⟨_, _, .shown k frame hframe hclient hsubscription⟩
    · exact ⟨_, _, hdropped⟩
  · rw [run_dispatchMessage_ignored hget hopen]
    exact ⟨_, _, hdropped⟩

/-- A close event reaches the handler of the held client only. -/
theorem move_dispatchClose (h : Line w old held) {i : ℕ} {client : Client}
    (hget : w.clients[i]? = some client) (hscheduled : 0 < client.ws.closeEvents) :
    ∃ old' held', Move w old held (.dispatchClose i)
      (run (SockJS.dispatchClose i (Stomp.onclose i reconnect)) w) old' held' := by
  rw [h.clients] at hget
  rcases Nat.lt_trichotomy i old.length with hearlier | rfl | hbeyond
  · rw [List.getElem?_append_left hearlier] at hget
    have hremoved := (h.old_closed client (List.mem_of_getElem? hget)).2
    rw [run_dispatchClose_ignored (by rw [h.clients, List.getElem?_append_left hearlier, hget]) hremoved,
      Window.update, h.clients, modify_earlier _ _ _ hearlier]
    exact ⟨_, _, .closedEarlier i hearlier⟩
  · rw [List.getElem?_concat_length] at hget
    obtain rfl := Option.some.inj hget
    have hrun := run_dispatchClose w old held h.held_onclose
    rw [← h.eq_hold] at hrun
    rw [hrun]
    exact ⟨_, _, .closed hscheduled⟩
  · rw [List.getElem?_eq_none (by simp; omega)] at hget
    contradiction

/-- A timeout leads to an attempt unless the held client is connecting. -/
theorem move_timeout (h : Line w old held) {k due : ℕ} (htimeout : w.timeouts[k]? = some due)
    (hdue : due ≤ w.now) :
    ∃ old' held', Move w old held (.timeout k)
      (run connect { w with timeouts := w.timeouts.eraseIdx k }) old' held' := by
  have hrun := run_connect { w with timeouts := w.timeouts.eraseIdx k } old held h.stompClient
  have hhold : { w with timeouts := w.timeouts.eraseIdx k } =
      Window.hold { w with timeouts := w.timeouts.eraseIdx k } old held := by
    rw [Window.hold, ← h.clients]
  rw [← hhold] at hrun
  rw [hrun]
  by_cases hconnecting : held.ws.readyState = .connecting
  · rw [if_pos hconnecting]
    exact ⟨_, _, .refused k hconnecting⟩
  · rw [if_neg hconnecting]
    exact ⟨_, _, .reconnected k due htimeout hdue hconnecting⟩

/-- Every event has one of these effects. -/
theorem step_move {w' : Window} {l : Label} (h : Line w old held) (hstep : step w l = some w') :
    ∃ old' held', Move w old held l w' old' held' := by
  cases l with
  | opened i =>
    simp only [step, socketEvent_eq_some, decide_eq_true_eq] at hstep
    obtain ⟨client, hget, hconnecting, rfl⟩ := hstep
    obtain ⟨rfl, rfl⟩ := h.held_of_not_closed hget (by simp [hconnecting])
    have hrun := run_dispatchOpen w old client
    rw [← h.eq_hold] at hrun
    rw [hrun]
    exact ⟨_, _, .opened hconnecting⟩
  | attemptFailed i =>
    simp only [step, socketEvent_eq_some, decide_eq_true_eq] at hstep
    obtain ⟨client, hget, hconnecting, rfl⟩ := hstep
    exact move_lost h (Or.inl rfl) hget (by simp [hconnecting])
  | serverClose i =>
    simp only [step, socketEvent_eq_some, decide_eq_true_eq] at hstep
    obtain ⟨client, hget, hopen, rfl⟩ := hstep
    exact move_lost h (Or.inr rfl) hget (by simp [hopen])
  | connectedFrame i =>
    simp only [step, socketEvent_eq_some, true_and] at hstep
    obtain ⟨client, hget, rfl⟩ := hstep
    by_cases hopen : client.ws.readyState = .opened
    · obtain ⟨rfl, rfl⟩ := h.held_of_not_closed hget (by simp [hopen])
      have hrun := run_onConnected w old client hopen h.stompClient
      rw [← h.eq_hold] at hrun
      rw [hrun]
      exact ⟨_, _, .connected hopen⟩
    · exact move_ignored h (Or.inl rfl) hget hopen _
  | errorFrame i =>
    simp only [step, socketEvent_eq_some, true_and] at hstep
    obtain ⟨client, hget, rfl⟩ := hstep
    by_cases hopen : client.ws.readyState = .opened
    · obtain ⟨rfl, rfl⟩ := h.held_of_not_closed hget (by simp [hopen])
      have hrun := run_onError w old client hopen
      rw [← h.eq_hold] at hrun
      rw [hrun]
      exact ⟨_, _, .errored hopen⟩
    · exact move_ignored h (Or.inr rfl) hget hopen _
  | broadcast body targets =>
    simp only [step] at hstep
    split at hstep
    next hpossible =>
      obtain rfl := Option.some.inj hstep
      exact ⟨_, _, .broadcast body targets hpossible.1 hpossible.2⟩
    · contradiction
  | messageFrame k =>
    simp only [step] at hstep
    split at hstep
    next frame hframe =>
      obtain rfl := Option.some.inj hstep
      exact move_messageFrame h hframe
    · contradiction
  | dispatchClose i =>
    simp only [step, socketEvent_eq_some, decide_eq_true_eq] at hstep
    obtain ⟨client, hget, hscheduled, rfl⟩ := hstep
    exact move_dispatchClose h hget hscheduled
  | elapse millis =>
    obtain rfl := Option.some.inj hstep
    exact ⟨_, _, .elapsed millis⟩
  | timeout k =>
    simp only [step] at hstep
    split at hstep
    next due htimeout =>
      split at hstep
      next hdue =>
        obtain rfl := Option.some.inj hstep
        exact move_timeout h htimeout hdue
      · contradiction
    · contradiction

end Page

end EventMonitor
