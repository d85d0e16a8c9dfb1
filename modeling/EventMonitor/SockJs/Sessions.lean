import EventMonitor.Library.Draining
import EventMonitor.SockJs.Outcomes

/-!
# Whole sessions

What holds in every state of a socket, whatever the server, the document, the clock and the
handlers of the user do: what the user is told and in which order, what a socket that is connecting
waits for and how it gets on without the server, where the data of the user goes, and what a
closed socket still holds.
-/

namespace EventMonitor

open Library JavaScript

namespace SockJs

open Page (ReadyState)

variable {env : Env} {s t : Socket}

/-- A new socket waits for the answer to `/info`. -/
theorem invariant_new {complete loaded : Bool} (hloaded : loaded → complete) :
    (Socket.new complete loaded).Invariant env where
  phase := .awaitsInfo rfl rfl ⟨rfl, rfl, rfl, rfl, rfl, rfl⟩
  order := List.nil_sublist _
  enabled := by simp [Socket.new]
  complete := hloaded

/-- What moves keep, and the late load event as well, holds in every state. -/
theorem reachable_induct {P : Socket → Prop} (hnew : ∀ complete loaded, P (Socket.new complete loaded))
    (hmove : ∀ s t, s.Invariant env → P s → Move env s t → P t)
    (hrevived : ∀ s t, s.readyState = .closed → P s → Revived s t → P t) (h : (system env).Reachable s) :
    s.Invariant env ∧ P s := by
  refine h.induct (P := fun s => s.Invariant env ∧ P s) ?_ ?_
  · rintro s ⟨complete, loaded, hloaded, rfl⟩
    exact ⟨invariant_new hloaded, hnew complete loaded⟩
  · rintro s l t - ⟨hs, hP⟩ hstep
    rcases step_cases hs hstep with hpath | ⟨-, hclosed, hcomplete, hlate⟩
    · have hboth : Effect.Keeps (fun s => s.Invariant env ∧ P s) (Move env) :=
        fun s t hs hmoved => ⟨hmoved.invariant hs.1, hmove s t hs.1 hs.2 hmoved⟩
      exact hboth.path ⟨hs, hP⟩ hpath
    · exact ⟨hlate.invariant hs hclosed hcomplete, hrevived s t hclosed hP hlate⟩

/-- The invariant holds in every state. -/
theorem invariant_of_reachable (h : (system env).Reachable s) : s.Invariant env :=
  (reachable_induct (P := fun _ => True) (fun _ _ => trivial) (fun _ _ _ _ _ => trivial)
    (fun _ _ _ _ _ => trivial) h).1

/-- The user is told `open` at most once and first, then messages and heartbeats, and at the end of
every session one close event; what is told goes with the `readyState`. -/
theorem told_in_order (h : (system env).Reachable s) : Told s.readyState s.callbacks s.closeEvents := by
  refine (reachable_induct (P := fun s => Told s.readyState s.callbacks s.closeEvents)
    (fun _ _ => .connecting) (fun s t _ htold hmove => hmove.told htold) ?_ h).2
  intro s t _ htold hlate
  rw [hlate.readyState, hlate.closeEvents, Socket.callbacks, hlate.trace]
  exact htold

/-- A replay from a new socket, in a document that has been loaded or is still loading, ends a run. -/
theorem exists_run (env : Env) (loaded : Bool) (labels : List Label) {α : Type} (view : Socket → α) {a : α}
    (h : (TransitionSystem.replay (step env) (Socket.new loaded loaded) labels).map view = some a) :
    ∃ history s, (system env).Run history s ∧ view s = a := by
  have hnew : (system env).init (Socket.new loaded loaded) := ⟨loaded, loaded, id, rfl⟩
  obtain ⟨s, ⟨history, hrun⟩, hview⟩ := TransitionSystem.exists_reachable_of_replay labels view hnew h
  exact ⟨history, s, hrun, hview⟩

/-- A browser with WebSockets and with XMLHttpRequest, or with the latter alone. -/
def browserWith (webSocket : Bool) : Browser :=
  ⟨webSocket, true, true, false, false, false, true, false, true, true⟩

/-- A user who answers the `open` event with one message. -/
def greeting (webSocket : Bool) : Env where
  browser := browserWith webSocket
  whitelist := none
  rtt := none
  handlers := fun trace => if trace = [.callback .opened] then [.send (literal "hi")] else []
  construct := fun _ => true

/-- A session with one message in each direction, closed by the server. -/
theorem session_told_in_order : ∃ s : Socket,
    Told s.readyState s.callbacks s.closeEvents ∧ s.callbacks =
      [.opened, .message (literal "a"), .closed ⟨some 3000, some "Go away!", true⟩ none] := by
  obtain ⟨history, s, hrun, hview⟩ := exists_run (greeting true) true
    [.info (some (⟨some true, false⟩, 10)), .frame 0 .o, .frame 0 (.a [literal "a"]),
      .frame 0 (.c (some 3000) (some "Go away!")), .closeEvent] Socket.callbacks
    (a := [.opened, .message (literal "a"), .closed ⟨some 3000, some "Go away!", true⟩ none]) (by decide)
  exact ⟨s, told_in_order ⟨history, hrun⟩, hview⟩

/-- An attempt is made without waiting for `/info`. -/
theorem Attempt.ir (h : Attempt s t) : t.ir = s.ir := by
  cases h <;> rfl

/-- A socket that is closed by a move has no transport. -/
theorem Move.released (h : Move env s t) (hs : s.readyState = .closed → s.transport = none)
    (hclosed : t.readyState = .closed) : t.transport = none := by
  cases h with
  | informed info rtt hir => exact hs hclosed
  | retried hconnecting hlisteners h => simp [h.kept.2.1, Socket.cleared, Socket.clearTref, hconnecting] at hclosed
  | loaded hconnecting hlisteners hcomplete h => simp [h.kept.2.1, Socket.atLoad, hconnecting] at hclosed
  | opened k hconnecting htransport => simp [Socket.record] at hclosed
  | received event hevent hopen => exact hs hclosed
  | refused c thrown h => exact hs hclosed
  | sent data k hopen htransport => exact hs hclosed
  | installed onclose => exact hs hclosed
  | closed code reason event hlive => rfl
  | ended event hlive => rfl
  | exhausted event lastEvent hconnecting => rfl
  | announced event lastEvent rest hscheduled => exact hs hclosed
  | timedOut timers hclosed' => exact hs hclosed
  | completed => exact hs hclosed
  | loadedEarlier hcomplete hlisteners => exact hs hclosed

/-- A closed socket holds a transport only if the document was loaded after it had been closed: it was
waiting for the load when it was closed, and the listener was left. -/
theorem released_unless_loaded_late {history : List (TransitionSystem.Taken Socket Label)}
    (h : (system env).Run history s) (hclosed : s.readyState = .closed) (htransport : s.transport ≠ none) :
    ∃ taken ∈ history, taken.label = .load ∧ taken.source.readyState = .closed := by
  induction h with
  | start hs =>
    obtain ⟨complete, loaded, -, rfl⟩ := hs
    simp [Socket.new] at hclosed
  | @snoc history s t l hrun hstep ih =>
    have hs := invariant_of_reachable ⟨history, hrun⟩
    rcases step_cases hs hstep with hpath | ⟨rfl, hbefore, -, -⟩
    · by_cases hearlier : s.readyState = .closed → s.transport = none
      · have hboth : Effect.Keeps (fun s : Socket => s.readyState = .closed → s.transport = none) (Move env) :=
          fun s t hs hmove => hmove.released hs
        exact absurd (hboth.path hearlier hpath hclosed) htransport
      · rw [Classical.not_imp] at hearlier
        obtain ⟨taken, hmem, hload⟩ := ih hearlier.1 hearlier.2
        exact ⟨taken, List.mem_append_left _ hmem, hload⟩
    · exact ⟨_, List.mem_append_right _ (List.mem_singleton_self _), rfl, hbefore⟩

/-- A socket that is closed while it waits for the document opens a transport when that is loaded. -/
theorem loaded_late : ∃ (history : List (TransitionSystem.Taken Socket Label)) (s : Socket),
    s.readyState = .closed ∧ s.transport = some 0 ∧
      ∃ taken ∈ history, taken.label = .load ∧ taken.source.readyState = .closed := by
  obtain ⟨history, s, hrun, hview⟩ := exists_run (greeting false) false
    [.info (some (⟨some true, false⟩, 10)), .call (.close none none), .complete, .load]
    (fun s => (s.readyState, s.transport)) (a := (.closed, some 0)) (by decide)
  rw [Prod.mk.injEq] at hview
  exact ⟨history, s, hview.1, hview.2, released_unless_loaded_late hrun hview.1 (by simp [hview.2])⟩

/-- The data of the calls of `send` that have not thrown. -/
def accepted (trace : List Event) : List JsString :=
  trace.filterMap fun
    | .called (.send data) none => some data
    | _ => none

/-- All data that the user has sent. -/
def Socket.accepted (s : Socket) : List JsString := SockJs.accepted s.trace

/-- What had passed when the socket was closed, or what has passed so far. -/
def Socket.untilClosed (s : Socket) : List Event := s.trace.take (s.closedAt.getD s.trace.length)

/-- The moment at which the socket was closed lies in the past. -/
def Socket.Dated (s : Socket) : Prop :=
  (s.readyState = .closed ↔ s.closedAt ≠ none) ∧ ∀ n ∈ s.closedAt, n ≤ s.trace.length

/-- As long as the socket is not closed, nothing is left out. -/
theorem Socket.Dated.untilClosed_eq (h : s.Dated) (hlive : s.readyState ≠ .closed) : s.untilClosed = s.trace := by
  have hnone : s.closedAt = none := not_not.mp fun hsome => hlive (h.1.mpr hsome)
  rw [Socket.untilClosed, hnone, Option.getD_none, List.take_length]

/-- Something is recorded. -/
theorem Socket.Dated.record (h : s.Dated)
    (hstate : t.readyState = s.readyState ∨ s.readyState ≠ .closed ∧ t.readyState ≠ .closed)
    (hclosedAt : t.closedAt = s.closedAt) (event : Event) (htrace : t.trace = s.trace ++ [event]) :
    t.Dated ∧ (s.readyState ≠ .closed → t.untilClosed = s.untilClosed ++ [event]) ∧
      (s.readyState = .closed → t.untilClosed = s.untilClosed) := by
  have hdated : t.Dated := by
    refine ⟨?_, fun n hn => ?_⟩
    · rw [hclosedAt, ← h.1]
      rcases hstate with hsame | ⟨hlive, hlive'⟩
      · rw [hsame]
      · exact iff_of_false hlive' hlive
    · rw [htrace, List.length_append]
      exact Nat.le_add_right_of_le (h.2 n (hclosedAt ▸ hn))
  refine ⟨hdated, fun hlive => ?_, fun hclosed => ?_⟩
  · have hlive' : t.readyState ≠ .closed := by
      rcases hstate with hsame | ⟨-, hlive'⟩
      · exact hsame ▸ hlive
      · exact hlive'
    rw [hdated.untilClosed_eq hlive', h.untilClosed_eq hlive, htrace]
  · obtain ⟨n, hn⟩ := Option.ne_none_iff_exists'.mp (h.1.mp hclosed)
    rw [Socket.untilClosed, Socket.untilClosed, hclosedAt, hn, Option.getD_some, htrace,
      List.take_append_of_le_length (h.2 n hn), Option.getD_some]

/-- The socket is closed. -/
theorem Socket.Dated.ended (h : s.Dated) (hlive : s.readyState ≠ .closed) (hstate : t.readyState = .closed)
    (hclosedAt : t.closedAt = some s.trace.length) (htrace : t.trace = s.trace) :
    t.Dated ∧ t.untilClosed = s.untilClosed := by
  refine ⟨⟨iff_of_true hstate (by simp [hclosedAt]), fun n hn => ?_⟩, ?_⟩
  · rw [hclosedAt, Option.mem_some_iff] at hn
    exact hn ▸ htrace ▸ Nat.le_refl _
  · rw [h.untilClosed_eq hlive, Socket.untilClosed, hclosedAt, htrace, Option.getD_some, List.take_length]

/-- What has been handed to a transport, for the data that the user has sent until the socket was closed. -/
inductive Handed (stringify : Bool) : ReadyState → Option ℕ → List (ℕ × JsString) → List JsString → Prop
  | connecting (transport : Option ℕ) : Handed stringify .connecting transport [] []
  | opened (k : ℕ) (data : List JsString) :
      Handed stringify .opened (some k) (data.map fun text => (k, quote stringify text)) data
  | closed (transport : Option ℕ) (k : ℕ) (data : List JsString) :
      Handed stringify .closed transport (data.map fun text => (k, quote stringify text)) data

namespace Handed

variable {stringify : Bool} {state : ReadyState} {transport transport' : Option ℕ}
  {sent : List (ℕ × JsString)} {accepted : List JsString}

/-- While the socket is not open, transports come and go. -/
theorem retry (h : Handed stringify state transport sent accepted) (hstate : state ≠ .opened) :
    Handed stringify state transport' sent accepted := by
  cases h with
  | connecting => exact .connecting transport'
  | opened => exact absurd rfl hstate
  | closed transport k => exact .closed transport' k accepted

/-- A transport has opened. -/
theorem dispatchOpen (h : Handed stringify state transport sent accepted) (hconnecting : state = .connecting)
    (k : ℕ) : Handed stringify .opened (some k) sent accepted := by
  cases h with
  | connecting => exact .opened k []
  | _ => simp at hconnecting

/-- Data is sent on an open socket. -/
theorem send {k : ℕ} (h : Handed stringify .opened (some k) sent accepted) (data : JsString) :
    Handed stringify .opened (some k) (sent ++ [(k, quote stringify data)]) (accepted ++ [data]) := by
  cases h with
  | opened k =>
    rw [show accepted.map (fun text => (k, quote stringify text)) ++ [(k, quote stringify data)] =
      (accepted ++ [data]).map fun text => (k, quote stringify text) by simp]
    exact .opened k _

/-- The socket is closed. -/
theorem didClose (h : Handed stringify state transport sent accepted)
    (hlive : state = .connecting ∨ state = .opened) : Handed stringify .closed none sent accepted := by
  cases h with
  | connecting => exact .closed none 0 []
  | opened k => exact .closed none k accepted
  | closed => simp at hlive

/-- All of it has been handed to one transport. -/
theorem exists_transport (h : Handed stringify state transport sent accepted) :
    ∃ k, sent = accepted.map (fun text => (k, quote stringify text)) ∧ (state = .connecting → sent = []) ∧
      (state = .opened → transport = some k) := by
  cases h with
  | connecting => exact ⟨0, rfl, fun _ => rfl, nofun⟩
  | opened k => exact ⟨k, rfl, nofun, fun _ => rfl⟩
  | closed transport k => exact ⟨k, rfl, nofun, nofun⟩

end Handed

/-- A socket hands on what is sent until it is closed. -/
structure Socket.HandsOn (stringify : Bool) (s : Socket) : Prop where
  dated : s.Dated
  handed : Handed stringify s.readyState s.transport s.sent (SockJs.accepted s.untilClosed)

variable {stringify : Bool}

/-- Nothing is recorded, and transports come and go while the socket is not open. -/
theorem Socket.HandsOn.same (hs : s.HandsOn stringify) (hstate : t.readyState = s.readyState)
    (htransport : t.transport = s.transport ∨ s.readyState ≠ .opened) (hsent : t.sent = s.sent)
    (htrace : t.trace = s.trace) (hclosedAt : t.closedAt = s.closedAt) : t.HandsOn stringify := by
  have huntil : t.untilClosed = s.untilClosed := by rw [Socket.untilClosed, Socket.untilClosed, htrace, hclosedAt]
  refine ⟨?_, ?_⟩
  · rw [Socket.Dated, hstate, hclosedAt, htrace]
    exact hs.dated
  · rw [hstate, hsent, huntil]
    rcases htransport with hsame | hretry
    · rw [hsame]
      exact hs.handed
    · exact hs.handed.retry hretry

/-- Something is recorded that sends nothing, or too late. -/
theorem Socket.HandsOn.record (hs : s.HandsOn stringify) (event : Event)
    (hevent : s.readyState ≠ .closed → SockJs.accepted [event] = []) (hstate : t.readyState = s.readyState)
    (htransport : t.transport = s.transport) (hsent : t.sent = s.sent) (htrace : t.trace = s.trace ++ [event])
    (hclosedAt : t.closedAt = s.closedAt) : t.HandsOn stringify := by
  obtain ⟨hdated, hlive, hclosed⟩ := hs.dated.record (.inl hstate) hclosedAt event htrace
  refine ⟨hdated, ?_⟩
  rw [hstate, htransport, hsent]
  by_cases hstate' : s.readyState = .closed
  · rw [hclosed hstate']
    exact hs.handed
  · rw [hlive hstate', SockJs.accepted, List.filterMap_append]
    change Handed stringify s.readyState s.transport s.sent (SockJs.accepted s.untilClosed ++ SockJs.accepted [event])
    rw [hevent hstate', List.append_nil]
    exact hs.handed

/-- The socket is closed. -/
theorem Socket.HandsOn.ended (hs : s.HandsOn stringify) (hlive : s.readyState = .connecting ∨ s.readyState = .opened)
    (hstate : t.readyState = .closed) (htransport : t.transport = none) (hsent : t.sent = s.sent)
    (htrace : t.trace = s.trace) (hclosedAt : t.closedAt = some s.trace.length) : t.HandsOn stringify := by
  have hopen : s.readyState ≠ .closed := by rcases hlive with hsame | hsame <;> simp [hsame]
  obtain ⟨hdated, huntil⟩ := hs.dated.ended hopen hstate hclosedAt htrace
  refine ⟨hdated, ?_⟩
  rw [hstate, htransport, hsent, huntil]
  exact hs.handed.didClose hlive

/-- Every move hands on what is sent, in order. -/
theorem Move.handsOn (h : Move env s t) (hs : s.HandsOn env.browser.stringify) : t.HandsOn env.browser.stringify := by
  cases h with
  | informed info rtt hir => exact hs.same rfl (.inl rfl) rfl rfl rfl
  | retried hconnecting hlisteners h =>
    obtain ⟨-, hstate, hsent, htrace, -⟩ := h.kept
    exact hs.same hstate (.inr (by simp [hconnecting])) hsent htrace h.closedAt
  | loaded hconnecting hlisteners hcomplete h =>
    obtain ⟨-, hstate, hsent, htrace, -⟩ := h.kept
    exact hs.same hstate (.inr (by simp [hconnecting])) hsent htrace h.closedAt
  | opened k hconnecting htransport =>
    have hlive : s.readyState ≠ .closed := by simp [hconnecting]
    obtain ⟨hdated, huntil, -⟩ := hs.dated.record (t := Socket.record (.callback .opened)
      { s.clearTref with readyState := .opened }) (.inr ⟨hlive, by simp [Socket.record]⟩) rfl (.callback .opened) rfl
    refine ⟨hdated, ?_⟩
    rw [huntil hlive, SockJs.accepted, List.filterMap_append]
    have hopened := hs.handed.dispatchOpen hconnecting k
    rw [← htransport] at hopened
    exact (List.append_nil (SockJs.accepted s.untilClosed)).symm ▸ hopened
  | received event hevent hopen => exact hs.record (.callback event) (fun _ => rfl) rfl rfl rfl rfl rfl
  | refused c thrown h =>
    refine hs.record (.called c thrown) (fun hlive => ?_) rfl rfl rfl rfl rfl
    cases h with
    | late data hclosed => exact absurd hclosed hlive
    | _ => rfl
  | sent data k hopen htransport =>
    have hlive : s.readyState ≠ .closed := by simp [hopen]
    obtain ⟨hdated, huntil, -⟩ := hs.dated.record (t := Socket.record (.called (.send data) none)
      { s with sent := s.sent ++ [(k, quote env.browser.stringify data)] }) (.inl rfl) rfl _ rfl
    refine ⟨hdated, ?_⟩
    rw [huntil hlive, SockJs.accepted, List.filterMap_append]
    have hhanded := hs.handed
    rw [hopen, htransport] at hhanded
    have hsent := hhanded.send data
    rw [← hopen, ← htransport] at hsent
    exact hsent
  | installed onclose => exact hs.record (.called (.setOnclose onclose) none) (fun _ => rfl) rfl rfl rfl rfl rfl
  | closed code reason event hlive =>
    have hended : (s.ended event none).HandsOn env.browser.stringify := hs.ended hlive rfl rfl rfl rfl rfl
    exact hended.record (.called (.close code reason) none) (fun _ => rfl) rfl rfl rfl rfl rfl
  | ended event hlive => exact hs.ended hlive rfl rfl rfl rfl rfl
  | exhausted event lastEvent hconnecting => exact hs.ended (.inl hconnecting) rfl rfl rfl rfl rfl
  | announced event lastEvent rest hscheduled =>
    exact hs.record (.callback (.closed event lastEvent)) (fun _ => rfl) rfl rfl rfl rfl rfl
  | timedOut timers hclosed => exact hs.same rfl (.inl rfl) rfl rfl rfl
  | completed => exact hs.same rfl (.inl rfl) rfl rfl rfl
  | loadedEarlier hcomplete hlisteners => exact hs.same rfl (.inl rfl) rfl rfl rfl

/-- In every state, the transport has been handed what the user has sent. -/
theorem handsOn_of_reachable (h : (system env).Reachable s) : s.HandsOn env.browser.stringify := by
  refine (reachable_induct (P := fun s => s.HandsOn env.browser.stringify) (fun _ _ => ?_)
    (fun s t _ hs hmove => hmove.handsOn hs) ?_ h).2
  · exact ⟨⟨by simp [Socket.new], by simp [Socket.new]⟩, .connecting none⟩
  · intro s t hclosed hs hlate
    exact hs.same hlate.readyState (.inr (by simp [hclosed])) hlate.sent hlate.trace hlate.closedAt

/-- All data that is sent until the socket is closed goes to one transport, in the order in which it is sent: nothing
before the transport is open, everything while the socket is open, and nothing that is sent after it has been
closed. -/
theorem sent_in_order (h : (system env).Reachable s) :
    (s.readyState = .closed ↔ s.closedAt ≠ none) ∧
      ∃ k, s.sent = (accepted s.untilClosed).map (fun text => (k, quote env.browser.stringify text)) ∧
        (s.readyState = .connecting → s.sent = []) ∧ (s.readyState = .opened → s.transport = some k) :=
  ⟨(handsOn_of_reachable h).dated.1, (handsOn_of_reachable h).handed.exists_transport⟩

/-- The greeting is handed on, and a message after the close is not. -/
theorem greeting_sent_in_order : ∃ (s : Socket) (k : ℕ),
    s.sent = (accepted s.untilClosed).map (fun text => (k, quote true text)) ∧
      s.sent = [(0, literal "\"hi\"")] ∧ s.accepted = [literal "hi", literal "late"] := by
  obtain ⟨history, s, hrun, hview⟩ := exists_run (greeting true) true
    [.info (some (⟨some true, false⟩, 10)), .frame 0 .o, .call (.close none none), .call (.send (literal "late"))]
    (fun s => (s.sent, s.accepted)) (a := ([(0, literal "\"hi\"")], [literal "hi", literal "late"])) (by decide)
  rw [Prod.mk.injEq] at hview
  obtain ⟨-, k, hsent, -⟩ := sent_in_order ⟨history, hrun⟩
  exact ⟨s, k, hsent, hview.1, hview.2⟩

end SockJs

end EventMonitor
