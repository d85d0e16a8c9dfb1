import EventMonitor.Page.Moves
import EventMonitor.Stomp.Subscriptions

/-!
# The client that the page is modelled with

The scripts of the page run on a client that knows its frames by name and its subscriptions by number,
without headers, texts and heartbeats. What that client can tell is said by the scripts themselves; beside
a Stomp client it agrees with it on everything that a script ever reads.
-/

namespace EventMonitor

open Library JavaScript

namespace Stomp

open Page (ReadyState)

/-- What the callbacks of the page ask for: the one of a CONNECTED frame prints the frame, subscribes and sends,
and the one of a MESSAGE frame reads its body; both may throw. -/
def pageHandlers (read : JsString → Option (JsonResult WebSocketDto)) (trace : List Event) : List Call :=
  match trace.getLast? with
  | some (.callback (.connected frame)) =>
    match frame.toString with
    | .error _ => [.throwing]
    | .ok _ => [.subscribe (literal "/server/list") 0 none,
        .send (literal "/eventmonitor/events") (some .empty) (some (literal "{}"))]
  | some (.callback (.message _ frame)) => if read frame.body = none then [.throwing] else []
  | _ => []

/-- The page around its client: it gives no headers to `connect`, and leaves the heartbeat as it is. What
`JSON.parse` makes of a body is left to `read`; it is nothing if there is no text to be shown. What its
handlers are besides functions does not matter. -/
def pageEnv (url : String) (read : JsString → Option (JsonResult WebSocketDto))
    (functions : ℕ → JsString → FunctionProperty) : Env where
  outgoing := 10000
  incoming := 10000
  headers := .empty
  url := url
  onreceive := false
  handlers := pageHandlers read
  functions := functions

variable {url : String} {read : JsString → Option (JsonResult WebSocketDto)}
  {functions : ℕ → JsString → FunctionProperty} {s t : Client} {client client' : Page.Client}

/-- Of its own accord the page only disconnects. -/
def Label.OfPage : Label → Prop
  | .call c => c = .disconnect
  | _ => True

instance (l : Label) : Decidable l.OfPage := by
  cases l <;> simp only [Label.OfPage] <;> infer_instance

/-- What the callbacks of the page are told; it is not interested in receipts. -/
def toldPage (trace : List Event) : List Callback :=
  trace.filterMap fun event => match event with
    | .callback (.receipt _) => none
    | .callback event => some event
    | .called _ _ | .lost => none

/-- An event at the page turns the client that it holds into another one and changes the rest of the window, in
every window that holds the client. -/
def PageSteps (l : ℕ → Page.Label) (change : Page.Window → Page.Window) (client client' : Page.Client) : Prop :=
  ∀ (w : Page.Window) (old : List Page.Client), w.stompClient = some old.length →
    Page.step (w.hold old client) (l old.length) = some ((change w).hold old client')

/-- A script of the page does so, with a result. -/
def PageRuns (script : ℕ → Page.Script Unit) (result : Except Page.JsError Unit)
    (change : Page.Window → Page.Window) (client client' : Page.Client) : Prop :=
  ∀ (w : Page.Window) (old : List Page.Client), w.stompClient = some old.length →
    Effect.outcome (script old.length) (w.hold old client) = (result, (change w).hold old client')

/-- The list is cleared. -/
def cleared (w : Page.Window) : Page.Window := { w with response := [] }

/-- The page connects again in ten seconds. -/
def reconnecting (w : Page.Window) : Page.Window := { w with timeouts := w.timeouts ++ [w.now + 10000] }

/-- A MESSAGE frame is the next one to arrive. -/
def arriving (frame : Page.MessageFrame) (w : Page.Window) : Page.Window :=
  { w with inFlight := frame :: w.inFlight }

/-- Its text is added to the list. -/
def showing (frame : Page.MessageFrame) (w : Page.Window) : Page.Window :=
  { w with response := w.response ++ [frame.body.data.content], shown := w.shown ++ [frame] }

/-- What the client of the page can tell, and the client that it leaves: the events at the page, each with what
it does to the window. Where the callback throws before it has come to an end, the script is given with that
callback. -/
inductive PageTells (read : JsString → Option (JsonResult WebSocketDto)) (client : Page.Client) :
    List Callback → Page.Client → Prop
  | opened {client' : Page.Client} (h : PageSteps .opened id client client') : PageTells read client [] client'
  | attemptFailed {client' : Page.Client} (h : PageSteps .attemptFailed id client client') :
      PageTells read client [] client'
  | serverClose {client' : Page.Client} (h : PageSteps .serverClose id client client') :
      PageTells read client [] client'
  | connected {client' : Page.Client} (frame : Frame) (hprinted : ∃ text, frame.toString = .ok text)
      (h : PageSteps .connectedFrame cleared client client') : PageTells read client [.connected frame] client'
  | unprinted {client' : Page.Client} (frame : Frame) (hthrows : frame.toString = .error .malformed)
      (h : PageRuns (fun i => Page.SockJS.dispatchMessage i (Page.Stomp.onConnected i (do
          Page.setConnected
          throw .typeError))) (.error .typeError) cleared client client') :
      PageTells read client [.connected frame] client'
  | errored {client' : Page.Client} (frame : Frame) (h : PageSteps .errorFrame reconnecting client client') :
      PageTells read client [.error frame] client'
  | message {client' : Page.Client} (frame : Frame) (n : ℕ) (body : JsonResult WebSocketDto)
      (hframe : frame.subscription = numbered "sub-" n) (hbody : read frame.body = some body)
      (h : ∀ (w : Page.Window) (old : List Page.Client) (broadcast : ℕ),
        Page.step (arriving ⟨old.length, n, broadcast, body⟩ (w.hold old client)) (.messageFrame 0) =
          some ((showing ⟨old.length, n, broadcast, body⟩ w).hold old client')) :
      PageTells read client [.message (some 0) frame] client'
  | unread {client' : Page.Client} (frame : Frame) (n : ℕ) (hframe : frame.subscription = numbered "sub-" n)
      (hbody : read frame.body = none)
      (h : ∀ (broadcast : ℕ) (body : JsonResult WebSocketDto),
        PageRuns (fun i => Page.SockJS.dispatchMessage i (Page.Stomp.onMessage ⟨i, n, broadcast, body⟩
          fun _ => throw .typeError)) (.error .typeError) id client client') :
      PageTells read client [.message (some 0) frame] client'
  | closed {client' : Page.Client} (msg : String) (h : PageSteps .dispatchClose reconnecting client client') :
      PageTells read client [.lost msg] client'
  | closedUnheard {client' : Page.Client} (h : PageSteps .dispatchClose id client client') :
      PageTells read client [] client'
  | disconnected {client' : Page.Client} (h : PageRuns Page.Stomp.disconnect (.ok ()) id client client') :
      PageTells read client [] client'

/-- What the client of the page can have told since it has been created. -/
inductive PageTold (read : JsString → Option (JsonResult WebSocketDto)) : List Callback → Page.Client → Prop
  | fresh : PageTold read [] .fresh
  | tells {before now : List Callback} {client client' : Page.Client} (h : PageTold read before client)
      (hnow : PageTells read client now client') : PageTold read (before ++ now) client'

/-- A script of the page that tells nothing. -/
theorem PageTold.silently {before : List Callback} (h : PageTold read before client)
    (hnow : PageTells read client [] client') : PageTold read before client' := by
  rw [← List.append_nil before]
  exact h.tells hnow

/-- A frame of the Stomp client as a frame of the page. -/
inductive Means (env : Env) : Frame → Page.Frame → Prop
  | connect : Means env env.connectFrame .connect
  | subscribe (n : ℕ) : Means env ⟨literal "SUBSCRIBE", (JsObject.empty.set (literal "id") (numbered "sub-" n)).set
      (literal "destination") (literal "/server/list"), []⟩ (.subscribe "/server/list" n)
  | send : Means env ⟨literal "SEND", JsObject.empty.set (literal "destination") (literal "/eventmonitor/events"),
      literal "{}"⟩ (.send "/eventmonitor/events")
  | disconnect : Means env ⟨literal "DISCONNECT", .empty, []⟩ .disconnect

/-- The two clients agree on everything that a script reads. -/
structure Agrees (env : Env) (s : Client) (client : Page.Client) : Prop where
  readyState : client.ws.readyState = s.readyState
  onclose : client.ws.onclose = s.onclose
  closeEvents : client.ws.closeEvents = s.closeEvents
  sent : List.Forall₂ (Means env) s.transmitted client.ws.sent
  counter : client.counter = s.counter
  subscriptions : s.subscriptions = ⟨client.subscriptions.reverse.map fun n => (numbered "sub-" n, 0), none⟩
  fresh : ∀ n ∈ client.subscriptions, n < client.counter

/-- All that has been told can be told by a client of the page with which the client agrees. -/
def Matched (url : String) (read : JsString → Option (JsonResult WebSocketDto))
    (functions : ℕ → JsString → FunctionProperty) (s : Client) : Prop :=
  ∃ client, PageTold read (toldPage s.trace) client ∧ Agrees (pageEnv url read functions) s client

/-- What is told goes on with the trace. -/
theorem toldPage_append (trace later : List Event) :
    toldPage (trace ++ later) = toldPage trace ++ toldPage later := List.filterMap_append

/-- Fields that no script of the page can see. -/
theorem Agrees.of_eq {env : Env} (h : Agrees env s client) (hstate : t.readyState = s.readyState)
    (honclose : t.onclose = s.onclose) (hevents : t.closeEvents = s.closeEvents) (hsent : t.transmitted = s.transmitted)
    (hcounter : t.counter = s.counter) (hsubscriptions : t.subscriptions = s.subscriptions) : Agrees env t client :=
  ⟨hstate ▸ h.readyState, honclose ▸ h.onclose, hevents ▸ h.closeEvents, hsent ▸ h.sent, hcounter ▸ h.counter,
    hsubscriptions ▸ h.subscriptions, h.fresh⟩

/-- Nothing is told. -/
theorem Matched.of_eq (h : Matched url read functions s) (hstate : t.readyState = s.readyState)
    (honclose : t.onclose = s.onclose)
    (hevents : t.closeEvents = s.closeEvents) (hsent : t.transmitted = s.transmitted) (hcounter : t.counter = s.counter)
    (hsubscriptions : t.subscriptions = s.subscriptions) (htrace : toldPage t.trace = toldPage s.trace) :
    Matched url read functions t := by
  obtain ⟨client, htold, hagrees⟩ := h
  exact ⟨client, htrace ▸ htold, hagrees.of_eq hstate honclose hevents hsent hcounter hsubscriptions⟩

/-- A subscription of the page is found under its id, and no other handler is. -/
theorem Agrees.found {env : Env} (h : Agrees env s client) {frame : Frame} {id : JsString} {callback : ℕ}
    (hfound : s.subscriptions.find env.functions frame id = .handler callback) :
    callback = 0 ∧ ∃ n ∈ client.subscriptions, id = numbered "sub-" n := by
  rw [h.subscriptions, SubscriptionTable.find] at hfound
  rcases hlookup : (client.subscriptions.reverse.map fun n => (numbered "sub-" n, 0)).lookup id with _ | found
  · simp only [SubscriptionTable.lookup, hlookup, objectPrototype] at hfound
    split_ifs at hfound
    split at hfound <;> cases hfound
  · simp only [SubscriptionTable.lookup, hlookup, Found.handler.injEq] at hfound
    obtain ⟨before, after, hsplit, -⟩ := List.lookup_eq_some_iff.mp hlookup
    have hmem : (id, found) ∈ client.subscriptions.reverse.map fun n => (numbered "sub-" n, 0) := by simp [hsplit]
    obtain ⟨n, hn, hrow⟩ := List.mem_map.mp hmem
    obtain ⟨rfl, rfl⟩ := Prod.mk.inj hrow
    exact ⟨hfound.symm, n, List.mem_reverse.mp hn, rfl⟩

section Scripts

variable {env : Env}

/-- A call that transmits its frame over the open socket. -/
theorem outcome_call_spoken {c : Call} {frame : Frame} {parts : List JsString} {subscriptions : SubscriptionTable}
    (hopen : s.readyState = .opened) (htable : c.table env.functions s.counter s.subscriptions = .ok subscriptions)
    (hframe : c.frame s.counter = some frame) (hparts : frame.parts = .ok parts) (hc : c ≠ .disconnect) :
    Effect.outcome (call env c) s = (.ok (), ((s.asked env c).spoken frame parts).record (.called c none)) := by
  have hstate : (s.asked env c).readyState = .opened := hopen
  rw [call, Effect.outcome_tryCatch, Effect.outcome_bind, outcome_perform c hframe htable, Client.transmits, hparts,
    hstate]
  simp only [Client.given, if_neg hc]
  rfl

/-- The subscriptions of the page after one more. -/
theorem Agrees.table_subscribe (h : Agrees env s client) (destination : JsString) :
    Call.table env.functions s.counter s.subscriptions (.subscribe destination 0 none) =
      .ok ⟨client.subscribe.subscriptions.reverse.map fun n => (numbered "sub-" n, 0), none⟩ := by
  have hid : subscriptionId none s.counter = numbered "sub-" s.counter := rfl
  have hmissing : ∀ row ∈ client.subscriptions.reverse.map fun n => (numbered "sub-" n, (0 : ℕ)),
      row.1 ≠ numbered "sub-" s.counter := by
    intro row hmem
    obtain ⟨n, hn, rfl⟩ := List.mem_map.mp hmem
    intro hsame
    have hless := h.fresh n (List.mem_reverse.mp hn)
    rw [numbered_injective "sub-" hsame, h.counter] at hless
    exact Nat.lt_irrefl _ hless
  rw [Call.table, hid, SubscriptionTable.assign_of_ordinary env.functions (ordinary_numbered _), h.subscriptions]
  simp only []
  rw [List.filter_eq_self.mpr (by simpa using hmissing)]
  simp [Page.Client.subscribe, h.counter]

/-- The subscription of the page. -/
theorem Agrees.subscribed (h : Agrees env s client) (hopen : s.readyState = .opened) :
    ∃ t, Effect.outcome (call env (.subscribe (literal "/server/list") 0 none)) s = (.ok (), t) ∧
      t.readyState = .opened ∧ toldPage t.trace = toldPage s.trace ∧ Agrees env t client.subscribe := by
  obtain ⟨parts, hparts⟩ := Frame.parts_of_body
    (rfl : (⟨literal "SUBSCRIBE", (withId .empty s.counter).set (literal "destination") (literal "/server/list"), []⟩ :
      Frame).body = [])
  have htable := h.table_subscribe (literal "/server/list")
  refine ⟨_, outcome_call_spoken hopen htable rfl hparts (by simp), hopen, ?_, ?_⟩
  · exact (toldPage_append s.trace _).trans (List.append_nil _)
  · refine ⟨h.readyState, h.onclose, h.closeEvents, ?_, ?_, ?_, ?_⟩
    · refine List.rel_append h.sent (.cons ?_ .nil)
      rw [h.counter]
      exact .subscribe s.counter
    · exact congrArg (· + 1) h.counter
    · change (s.asked env (.subscribe (literal "/server/list") 0 none)).subscriptions = _
      rw [Client.asked, htable]
    · intro n hmem
      rcases List.mem_append.mp hmem with hold | hnew
      · exact Nat.lt_succ_of_lt (h.fresh n hold)
      · rw [List.mem_singleton.mp hnew]
        exact Nat.lt_succ_self _

/-- The request of the page. -/
theorem Agrees.requested (h : Agrees env s client) (hopen : s.readyState = .opened) :
    ∃ t, Effect.outcome (call env (.send (literal "/eventmonitor/events") (some .empty) (some (literal "{}")))) s =
        (.ok (), t) ∧ t.readyState = .opened ∧ toldPage t.trace = toldPage s.trace ∧
      Agrees env t (client.mapSocket fun ws => { ws with sent := ws.sent ++ [.send "/eventmonitor/events"] }) := by
  have hdata := Frame.marshall_of_encode (literal "SEND")
    (JsObject.empty.set (literal "destination") (literal "/eventmonitor/events"))
    (rfl : Utf16.encode "{}".toList = literal "{}")
  have hparts := transmit_eq_ok_iff.mpr ⟨_, hdata, rfl⟩
  refine ⟨_, outcome_call_spoken hopen rfl rfl hparts (by simp), hopen, ?_, ?_⟩
  · exact (toldPage_append s.trace _).trans (List.append_nil _)
  · exact ⟨h.readyState, h.onclose, h.closeEvents, List.rel_append h.sent (.cons .send .nil), h.counter,
      h.subscriptions, h.fresh⟩

variable (url read functions) in
/-- A callback that asks for nothing, or throws. -/
theorem outcome_tell_quiet (event : Callback)
    (hevent : ∀ frame text, event = .connected frame → frame.toString ≠ .ok text) :
    ∃ later, toldPage later = [] ∧ (Effect.outcome (tell (pageEnv url read functions) event) s).2 =
      { s with trace := s.trace ++ .callback event :: later } := by
  have hlast : (s.record (.callback event)).trace.getLast? = some (.callback event) := List.getLast?_concat
  have hthrows :
      Effect.outcome ([Call.throwing].forM (call (pageEnv url read functions))) (s.record (.callback event)) =
        (.error .user, (s.record (.callback event)).record (.called .throwing (some .user))) := rfl
  have hnothing :
      Effect.outcome (([] : List Call).forM (call (pageEnv url read functions))) (s.record (.callback event)) =
        (.ok (), s.record (.callback event)) := rfl
  rw [tell, Effect.outcome_bind, Effect.outcome_modify]
  change ∃ later, toldPage later = [] ∧ (Effect.outcome ((pageHandlers read (s.record (.callback event)).trace).forM
    (call (pageEnv url read functions))) (s.record (.callback event))).2 = _
  rw [pageHandlers, hlast]
  have hthrown : ∃ later, toldPage later = [] ∧
      ((s.record (.callback event)).record (.called .throwing (some .user)) : Client) =
        { s with trace := s.trace ++ .callback event :: later } :=
    ⟨[.called .throwing (some .user)], rfl, by simp [Client.record]⟩
  cases event with
  | connected frame =>
    simp only []
    rcases hprinted : frame.toString with e | text
    · simp only [hthrows]
      exact hthrown
    · exact absurd hprinted (hevent frame text rfl)
  | message callback frame =>
    simp only []
    split
    · rw [hthrows]
      exact hthrown
    · exact ⟨[], rfl, rfl⟩
  | receipt frame => exact ⟨[], rfl, rfl⟩
  | error frame => exact ⟨[], rfl, rfl⟩
  | lost msg => exact ⟨[], rfl, rfl⟩

end Scripts

end Stomp

end EventMonitor
