import EventMonitor.Library.LogReaders
import EventMonitor.Page.System
import EventMonitor.Pipeline.System
import Mathlib.Algebra.GroupWithZero.Nat

/-!
# The server and its pages

The pipeline and any number of pages, each in a window of its own, joined by `/server/list`. What the
server sends there is handed to the subscriptions of each page in the order in which it was sent, at
any later time and to some of them only; the page sees it as a broadcast. A page that has been
connected sends a SEND frame, which the server answers there as well, for all pages.
-/

namespace EventMonitor

open Library

namespace WebSocketController

/-- `websocketEndpoint`. -/
def websocketEndpoint : JsonResult WebSocketDto := .of ⟨"Websocket connection established."⟩

end WebSocketController

/-- An event that the server causes by sending to `/server/list`. -/
def Page.Label.isBroadcast : Page.Label → Bool
  | .broadcast _ _ => true
  | .opened _ | .attemptFailed _ | .connectedFrame _ | .errorFrame _ | .messageFrame _ | .serverClose _
  | .dispatchClose _ | .elapse _ | .timeout _ => false

namespace Monitor

/-- What has been sent to `/server/list`: a notification of the pipeline, or without a cause the answer to
a SEND frame. -/
structure Notification where
  body : JsonResult WebSocketDto
  cause : Option Pipeline.Cause
  deriving DecidableEq, Repr

/-- A page, and how much had been sent to `/server/list` when it was loaded. -/
structure Tab where
  window : Page.Window
  since : ℕ
  deriving DecidableEq, Repr

/-- The server with everything that has been sent to `/server/list`, and the pages. -/
structure State where
  server : Pipeline.State
  serverList : List Notification
  tabs : List Tab

/-- What can happen next: a step of the pipeline, the answer to a SEND frame, the load of a page, a
broadcast to a page, or another event at a page. -/
inductive Label
  | server (l : Pipeline.Label)
  | websocketEndpoint
  | load
  | deliver (i : ℕ) (targets : List (ℕ × ℕ))
  | page (i : ℕ) (l : Page.Label)

/-- A notification of the pipeline. -/
def Notification.of (broadcast : Pipeline.Broadcast) : Notification := ⟨broadcast.body, some broadcast.cause⟩

/-- The number of the notification that is broadcast to the page next. -/
def Tab.next (tab : Tab) : ℕ := tab.since + tab.window.broadcasts

/-- The SEND frames of all pages to the controller. -/
def State.asked (s : State) : ℕ :=
  (s.tabs.map fun tab => (tab.window.clients.map (·.ws.sent.count (.send "/eventmonitor/events"))).sum).sum

/-- The answers to SEND frames. -/
def State.answered (s : State) : ℕ := s.serverList.countP (·.cause.isNone)

/-- An event at a page. -/
def State.atTab (s : State) (i : ℕ) (l : Tab → Option Page.Label) : Option State :=
  s.tabs[i]?.bind fun tab => (l tab).bind fun l =>
    (Page.step tab.window l).map fun w => { s with tabs := s.tabs.set i { tab with window := w } }

/-- One step of the server or of a page; `none` when the step is not possible. -/
def step (props : ApplicationProperties) (s : State) : Label → Option State
  | .server l => (Pipeline.step props s.server l).map fun server => { s with
      server := server
      serverList := s.serverList ++ (server.serverList.drop s.server.serverList.length).map .of }
  | .websocketEndpoint =>
    if s.answered < s.asked then
      some { s with serverList := s.serverList ++ [⟨WebSocketController.websocketEndpoint, none⟩] }
    else none
  | .load => some { s with tabs := s.tabs ++ [⟨Page.loaded, s.serverList.length⟩] }
  | .deliver i targets => s.atTab i fun tab => s.serverList[tab.next]?.map fun n => .broadcast n.body targets
  | .page i l => s.atTab i fun _ => if l.isBroadcast then none else some l

/-- The server has started, and no page has been loaded yet. -/
def start (events : EventsTable) : State := ⟨Pipeline.start events, [], []⟩

/-- All runs of the server and its pages. -/
def system (props : ApplicationProperties) (events : EventsTable) : TransitionSystem State Label :=
  .ofStep (· = start events) (step props)

variable {props : ApplicationProperties} {events : EventsTable} {s t : State} {l : Label}

/-- A step by what it does. -/
inductive Move (props : ApplicationProperties) (s : State) : Label → State → Prop
  | server (l : Pipeline.Label) (server : Pipeline.State) (hstep : Pipeline.step props s.server l = some server) :
      Move props s (.server l) { s with
        server := server
        serverList := s.serverList ++ (server.serverList.drop s.server.serverList.length).map .of }
  | answered (hasked : s.answered < s.asked) :
      Move props s .websocketEndpoint { s with
        serverList := s.serverList ++ [⟨WebSocketController.websocketEndpoint, none⟩] }
  | loaded : Move props s .load { s with tabs := s.tabs ++ [⟨Page.loaded, s.serverList.length⟩] }
  | delivered (i : ℕ) (targets : List (ℕ × ℕ)) (tab : Tab) (n : Notification) (w : Page.Window)
      (htab : s.tabs[i]? = some tab) (hnext : s.serverList[tab.next]? = some n)
      (hstep : Page.step tab.window (.broadcast n.body targets) = some w) :
      Move props s (.deliver i targets) { s with tabs := s.tabs.set i { tab with window := w } }
  | moved (i : ℕ) (l : Page.Label) (tab : Tab) (w : Page.Window) (htab : s.tabs[i]? = some tab)
      (hl : l.isBroadcast = false) (hstep : Page.step tab.window l = some w) :
      Move props s (.page i l) { s with tabs := s.tabs.set i { tab with window := w } }

/-- An event at a page happens in its window. -/
theorem atTab_eq_some {i : ℕ} {event : Tab → Option Page.Label} :
    s.atTab i event = some t ↔ ∃ tab l w, s.tabs[i]? = some tab ∧ event tab = some l ∧
      Page.step tab.window l = some w ∧ { s with tabs := s.tabs.set i { tab with window := w } } = t := by
  simp only [State.atTab, Option.bind_eq_some_iff, Option.map_eq_some_iff]
  constructor
  · rintro ⟨tab, htab, l, hl, w, hstep, ht⟩
    exact ⟨tab, l, w, htab, hl, hstep, ht⟩
  · rintro ⟨tab, l, w, htab, hl, hstep, ht⟩
    exact ⟨tab, htab, l, hl, w, hstep, ht⟩

/-- Every step is one of the five. -/
theorem step_move (h : step props s l = some t) : Move props s l t := by
  cases l with
  | server l =>
    obtain ⟨server, hstep, rfl⟩ := Option.map_eq_some_iff.mp h
    exact .server l server hstep
  | websocketEndpoint =>
    obtain ⟨hasked, ht⟩ := Option.ite_none_right_eq_some.mp h
    obtain rfl := Option.some.inj ht
    exact .answered hasked
  | load =>
    obtain rfl := Option.some.inj h
    exact .loaded
  | deliver i targets =>
    obtain ⟨tab, l, w, htab, hl, hstep, rfl⟩ := atTab_eq_some.mp h
    obtain ⟨n, hnext, rfl⟩ := Option.map_eq_some_iff.mp hl
    exact .delivered i targets tab n w htab hnext hstep
  | page i l =>
    obtain ⟨tab, l', w, htab, hl, hstep, rfl⟩ := atTab_eq_some.mp h
    split at hl
    · contradiction
    next hnot =>
      obtain rfl := Option.some.inj hl
      exact .moved i l tab w htab (Bool.eq_false_of_not_eq_true hnot) hstep

/-- The pipeline takes part in the runs as it runs on its own. -/
theorem server_reachable (h : (system props events).Reachable s) :
    (Pipeline.system props events).Reachable s.server := by
  refine TransitionSystem.Simulation.reachable ⟨fun s hs => ?_, fun s l t _ htaken => ?_⟩ h
  · obtain rfl : s = start events := hs
    rfl
  · cases step_move htaken with
    | server l server hstep => exact Or.inr ⟨l, hstep⟩
    | _ => exact Or.inl rfl

/-- What holds of a page when it is loaded, and is kept by its events and when more is sent to
`/server/list`, holds of every page. -/
theorem tab_induct {P : List Notification → Tab → Prop}
    (hloaded : ∀ sent : List Notification, P sent ⟨Page.loaded, sent.length⟩)
    (hsent : ∀ sent later tab, P sent tab → P (sent ++ later) tab)
    (hdelivered : ∀ sent tab n targets w, P sent tab → sent[tab.next]? = some n →
      Page.step tab.window (.broadcast n.body targets) = some w → P sent { tab with window := w })
    (hmoved : ∀ sent tab l w, P sent tab → l.isBroadcast = false → Page.step tab.window l = some w →
      P sent { tab with window := w })
    (h : (system props events).Reachable s) : ∀ tab ∈ s.tabs, P s.serverList tab := by
  refine h.invariant (P := fun s => ∀ tab ∈ s.tabs, P s.serverList tab) ?_ ?_
  · rintro s rfl
    simp [start]
  · intro s l t hs htaken
    cases step_move htaken with
    | server l server hstep => exact fun tab htab => hsent _ _ tab (hs tab htab)
    | answered hasked => exact fun tab htab => hsent _ _ tab (hs tab htab)
    | loaded =>
      intro tab htab
      rcases List.mem_append.mp htab with hearlier | hlast
      · exact hs tab hearlier
      · rw [List.mem_singleton.mp hlast]
        exact hloaded s.serverList
    | delivered i targets tab n w htab hnext hstep =>
      intro other hother
      rcases List.mem_or_eq_of_mem_set hother with hearlier | rfl
      · exact hs other hearlier
      · exact hdelivered _ tab n targets w (hs tab (List.mem_of_getElem? htab)) hnext hstep
    | moved i l tab w htab hl hstep =>
      intro other hother
      rcases List.mem_or_eq_of_mem_set hother with hearlier | rfl
      · exact hs other hearlier
      · exact hmoved _ tab l w (hs tab (List.mem_of_getElem? htab)) hl hstep

/-- Every page runs as it runs on its own. -/
theorem window_reachable (h : (system props events).Reachable s) :
    ∀ tab ∈ s.tabs, Page.system.Reachable tab.window := by
  refine tab_induct (P := fun _ tab => Page.system.Reachable tab.window) (fun _ => .start rfl)
    (fun _ _ _ hw => hw) (fun _ tab n targets w hw _ hstep => ?_) (fun _ tab l w hw _ hstep => ?_) h
  · exact hw.snoc hstep
  · exact hw.snoc hstep

/-- A replay that succeeds, seen through a function, gives a reachable state with that view. -/
theorem exists_reachable {α : Type} {labels : List Label} {view : State → α} {a : α}
    (h : (TransitionSystem.replay (step props) (start events) labels).map view = some a) :
    ∃ s, (system props events).Reachable s ∧ view s = a :=
  TransitionSystem.exists_reachable_of_replay labels view rfl h

/-- A page is loaded and connected, and shows the answer. -/
def connectedPage : List Label :=
  [.load, .page 0 (.opened 0), .page 0 (.connectedFrame 0), .websocketEndpoint, .deliver 0 [(0, 0)],
    .page 0 (.messageFrame 0)]

end Monitor

end EventMonitor
