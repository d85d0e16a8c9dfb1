import EventMonitor.Stomp.Calls

/-!
# What an event does to the client

Every event is a sequence of moves, also when a handler of the user or a frame of the server ends it
early. A handler may disconnect in the middle of a text: the frames behind it are handled all the same,
and a CONNECTED frame among them starts the heartbeat again.
-/

namespace EventMonitor

open Library JavaScript

namespace Stomp

open Page (ReadyState)
open Relation (ReflTransGen)

variable {env : Env} {s t : Client}

/-- The frame that is transmitted when the socket has opened. -/
def Env.connectFrame (env : Env) : Frame := ⟨literal "CONNECT", env.connectHeaders, []⟩

/-- What a call throws. -/
inductive Refuses (env : Env) (s : Client) : Call → JsError → Prop
  | readOnly (c : Call) (e : JsError) (htable : c.table env.functions s.counter s.subscriptions = .error e) :
      Refuses env s c e
  | malformed (c : Call) (frame : Frame) (hframe : c.frame s.counter = some frame)
      (hparts : frame.parts = .error .malformed) : Refuses env s c .malformed
  | early (c : Call) (frame : Frame) (hframe : c.frame s.counter = some frame)
      (hconnecting : s.readyState = .connecting) : Refuses env s c .invalidState
  | throwing : Refuses env s .throwing .user

/-- The subscription that a MESSAGE frame names. -/
def Frame.subscription (frame : Frame) : JsString :=
  (frame.headers.get (literal "subscription")).getD (literal "undefined")

/-- Who is told of a frame that arrives. -/
def Callback.Due (env : Env) (s : Client) : Callback → Prop
  | .message (some callback) frame =>
    s.subscriptions.find env.functions frame frame.subscription = .handler callback
  | .message none frame => env.onreceive ∧ s.subscriptions.find env.functions frame frame.subscription = .nothing
  | .receipt _ | .error _ => True
  | .connected _ | .lost _ => False

/-- The heartbeat is set up: pings, or checks, or both. -/
def Client.beats (pinger ponger : Option (Option ℤ)) (s : Client) : Client :=
  let s := pinger.elim s fun ttl => s.startPinger ttl
  ponger.elim s fun ttl => s.startPonger ttl

/-- What the scripts of a client do, one thing at a time. -/
inductive Move (env : Env) (s : Client) : Client → Prop
  | opened (parts : List JsString) (hconnecting : s.readyState = .connecting)
      (hparts : env.connectFrame.parts = .ok parts) :
      Move env s ({ s with readyState := .opened }.spoken env.connectFrame parts)
  | refused (c : Call) (e : JsError) (h : Refuses env s c e) :
      Move env s ((s.asked env c).record (.called c (some e)))
  | spoke (c : Call) (frame : Frame) (parts : List JsString) (hopen : s.readyState = .opened)
      (hframe : c.frame s.counter = some frame) (hparts : frame.parts = .ok parts) :
      Move env s ((((s.asked env c).spoken frame parts).given c).record (.called c none))
  | dropped (c : Call) (frame : Frame) (hconnecting : s.readyState ≠ .connecting)
      (hopen : s.readyState ≠ .opened) (hframe : c.frame s.counter = some frame) :
      Move env s (((s.asked env c).given c).record (.called c none))
  | noticed : Move env s { s with serverActivity := now }
  | accepted : Move env s { s with connected := true }
  | connected (frame : Frame) (pinger ponger : Option (Option ℤ))
      (houtgoing : env.outgoing = 0 → pinger = none) (hincoming : env.incoming = 0 → ponger = none) :
      Move env s (({ s with connected := true }.beats pinger ponger).record (.callback (.connected frame)))
  | told (event : Callback) (hdue : event.Due env s) : Move env s (s.record (.callback event))
  | pinged (hopen : s.readyState = .opened) : Move env s { s with sent := s.sent ++ [[LF]] }
  | closed (msg : String) (hscheduled : 0 < s.closeEvents) (honclose : s.onclose) :
      Move env s ({ s with closeEvents := s.closeEvents - 1 }.cleanUp.record (.callback (.lost msg)))
  | closedUnheard (hscheduled : 0 < s.closeEvents) (honclose : s.onclose = false) :
      Move env s { s with closeEvents := s.closeEvents - 1 }

namespace Client

section Fields

variable (c : Call) (pinger ponger : Option (Option ℤ))

@[simp] theorem sent_given : (s.given c).sent = s.sent := by
  simp only [given, hungUp]
  split_ifs <;> rfl

@[simp] theorem transmitted_given : (s.given c).transmitted = s.transmitted := by
  simp only [given, hungUp]
  split_ifs <;> rfl

@[simp] theorem counter_given : (s.given c).counter = s.counter := by
  simp only [given, hungUp]
  split_ifs <;> rfl

@[simp] theorem subscriptions_given : (s.given c).subscriptions = s.subscriptions := by
  simp only [given, hungUp]
  split_ifs <;> rfl

@[simp] theorem trace_given : (s.given c).trace = s.trace := by
  simp only [given, hungUp]
  split_ifs <;> rfl

theorem readyState_given : (s.given c).readyState = s.readyState ∨ (s.given c).readyState = .closed := by
  simp only [given, hungUp]
  split_ifs
  · exact .inr rfl
  · exact .inl rfl
  · exact .inl rfl

@[simp] theorem sent_beats : (s.beats pinger ponger).sent = s.sent := by
  cases pinger <;> cases ponger <;> rfl

@[simp] theorem transmitted_beats : (s.beats pinger ponger).transmitted = s.transmitted := by
  cases pinger <;> cases ponger <;> rfl

@[simp] theorem counter_beats : (s.beats pinger ponger).counter = s.counter := by
  cases pinger <;> cases ponger <;> rfl

@[simp] theorem subscriptions_beats : (s.beats pinger ponger).subscriptions = s.subscriptions := by
  cases pinger <;> cases ponger <;> rfl

@[simp] theorem trace_beats : (s.beats pinger ponger).trace = s.trace := by
  cases pinger <;> cases ponger <;> rfl

@[simp] theorem readyState_beats : (s.beats pinger ponger).readyState = s.readyState := by
  cases pinger <;> cases ponger <;> rfl

end Fields

end Client

/-- What a move records is recorded behind everything else. -/
theorem Move.trace_prefix (h : Move env s t) : s.trace <+: t.trace := by
  cases h with
  | opened parts hconnecting hparts => exact List.prefix_refl _
  | refused c e h => exact List.prefix_append _ _
  | spoke c frame parts hopen hframe hparts => simp [Client.record, Client.spoken, Client.asked]
  | dropped c frame hconnecting hopen hframe => simp [Client.record, Client.asked]
  | noticed | accepted => exact List.prefix_refl _
  | connected frame pinger ponger => simp [Client.record]
  | told event hdue => exact List.prefix_append _ _
  | pinged hopen => exact List.prefix_refl _
  | closed msg hscheduled honclose => exact List.prefix_append _ _
  | closedUnheard hscheduled honclose => exact List.prefix_refl _

/-- So it is along a path. -/
theorem trace_prefix_of_path (h : ReflTransGen (Move env) s t) : s.trace <+: t.trace := by
  induction h with
  | refl => exact List.prefix_refl _
  | tail _ hmove ih => exact ih.trans hmove.trace_prefix

/-- A frame without a body is always marshalled. -/
theorem Frame.parts_of_body {frame : Frame} (hbody : frame.body = []) : ∃ parts, frame.parts = .ok parts := by
  have hdata := Frame.marshall_of_encode frame.command frame.headers (hbody.symm ▸ rfl : Utf16.encode [] = frame.body)
  exact ⟨_, transmit_eq_ok_iff.mpr ⟨_, hdata, rfl⟩⟩

/-- What a call of the user does. -/
theorem move_call (c : Call) : Move env s (Effect.outcome (call env c) s).2 := by
  rw [outcome_call]
  rcases htable : c.table env.functions s.counter s.subscriptions with e | subscriptions
  · rw [outcome_perform_refused htable]
    exact .refused c e (.readOnly c e htable)
  rcases hframe : c.frame s.counter with _ | frame
  · cases c with
    | throwing => exact .refused _ _ .throwing
    | _ => simp [Call.frame] at hframe
  · rw [outcome_perform c hframe htable, Client.transmits]
    have hstate : (s.asked env c).readyState = s.readyState := rfl
    rw [hstate]
    rcases hparts : frame.parts with ⟨⟩ | parts
    · exact .refused _ _ (.malformed c frame hframe hparts)
    · cases hready : s.readyState with
      | connecting => exact .refused _ _ (.early c frame hframe hready)
      | opened => exact .spoke c frame parts hready hframe hparts
      | closing => exact .dropped c frame (by simp [hready]) (by simp [hready]) hframe
      | closed => exact .dropped c frame (by simp [hready]) (by simp [hready]) hframe

variable (env) in
/-- The socket opens. -/
theorem exists_opened (hconnecting : s.readyState = .connecting) :
    ∃ parts, env.connectFrame.parts = .ok parts ∧
      step env s .opened = some ({ s with readyState := .opened }.spoken env.connectFrame parts) := by
  obtain ⟨parts, hparts⟩ := Frame.parts_of_body (rfl : env.connectFrame.body = [])
  refine ⟨parts, hparts, ?_⟩
  have hout : Effect.outcome (onopen env) { s with readyState := .opened } =
      (.ok (), { s with readyState := .opened }.spoken env.connectFrame parts) := by
    rw [onopen, outcome_transmit]
    change Client.transmits env.connectFrame _ = _
    rw [Client.transmits, hparts]
  rw [step, if_pos hconnecting, run, hout]

section Scripts

/-- Nothing needs to be known of a state to make moves from it. -/
theorem keeps : Effect.Keeps (fun _ : Client => True) (Move env) := fun _ _ _ _ => trivial

/-- The handlers of the user may make any calls. -/
theorem follows_handlers (calls : List Call) :
    Effect.Follows (fun _ => True) (Move env) (calls.forM (call env)) :=
  .forM keeps (fun c _ _ => .single (move_call c)) calls

/-- The user is told something, and may call. -/
theorem path_tell {event : Callback} {t : Client} (hmove : Move env t (s.record (.callback event))) :
    ReflTransGen (Move env) t (Effect.outcome (tell env event) s).2 := by
  rw [tell, Effect.outcome_bind, Effect.outcome_modify]
  exact .head hmove (follows_handlers _ _ trivial)

/-- Pings and checks are started or not. -/
theorem outcome_beats (ping pong : Prop) [Decidable ping] [Decidable pong] (ttl ttl' : Option ℤ) :
    Effect.outcome (do
        if ping then modify (Client.startPinger ttl)
        if pong then modify (Client.startPonger ttl') : Script Unit) s =
      (.ok (), s.beats (if ping then some ttl else none) (if pong then some ttl' else none)) := by
  by_cases hping : ping
  · rw [if_pos hping, if_pos hping, Effect.outcome_bind, Effect.outcome_modify]
    by_cases hpong : pong
    · rw [if_pos hpong, if_pos hpong]
      rfl
    · rw [if_neg hpong, if_neg hpong]
      rfl
  · rw [if_neg hping, if_neg hping]
    by_cases hpong : pong
    · rw [if_pos hpong, if_pos hpong]
      rfl
    · rw [if_neg hpong, if_neg hpong]
      rfl

variable (env) in
/-- The heartbeat is set up, or its header is missing. -/
theorem outcome_setupHeartbeat (headers : JsObject) :
    Effect.outcome (setupHeartbeat env headers) s = (.error .typeError, s) ∨
      ∃ pinger ponger, (env.outgoing = 0 → pinger = none) ∧ (env.incoming = 0 → ponger = none) ∧
        Effect.outcome (setupHeartbeat env headers) s = (.ok (), s.beats pinger ponger) := by
  rw [setupHeartbeat]
  split
  · exact .inr ⟨none, none, fun _ => rfl, fun _ => rfl, rfl⟩
  · rcases headers.get (literal "heart-beat") with _ | value
    · exact .inl rfl
    · right
      refine ⟨_, _, ?_, ?_, outcome_beats _ _ _ _⟩
      · exact fun hzero => if_neg fun hping => hping (.inl hzero)
      · exact fun hzero => if_neg fun hpong => hpong (.inl hzero)

/-- The debug text of a frame leaves the client alone. -/
theorem outcome_debug (frame : Frame) : (Effect.outcome (debug frame) s).2 = s := by
  rw [debug]
  cases frame.toString <;> rfl

/-- One frame that has arrived. -/
theorem follows_onframe (frame : Frame) : Effect.Follows (fun _ => True) (Move env) (onframe env frame) := by
  intro s _
  rw [onframe]
  split
  · rw [Effect.outcome_bind, Effect.outcome_modify]
    simp only []
    rw [Effect.outcome_bind]
    rcases outcome_setupHeartbeat env frame.headers with hout | ⟨pinger, ponger, houtgoing, hincoming, hout⟩
    · rw [hout]
      exact .single .accepted
    · rw [hout]
      exact path_tell (.connected frame pinger ponger houtgoing hincoming)
  split
  · rw [Effect.outcome_bind, Effect.outcome_get]
    simp only []
    rw [← Frame.subscription]
    split
    next callback hfound => exact path_tell (.told _ hfound)
    next thrown hfound => cases thrown <;> exact .refl
    next hfound =>
      split
      next honreceive => exact path_tell (.told _ ⟨honreceive, hfound⟩)
      next => rw [outcome_debug]
  split
  · exact path_tell (.told _ trivial)
  split
  · exact path_tell (.told _ trivial)
  · rw [outcome_debug]

/-- `now() - serverActivity` is never a number. -/
theorem delta_eq_none (s : Client) : now.minus s.serverActivity = none := Value.minus_function _

/-- A check never finds that the server has been silent for too long. -/
theorem outcome_tick_pong {interval : Interval} (hbeat : interval.beat = .pong) :
    Effect.outcome (tick interval) s = (.ok (), s) := by
  have hnever : isOver (now.minus s.serverActivity) interval.ttl = false := by
    rw [delta_eq_none, isOver, Option.any_none]
  rw [tick, hbeat]
  simp only []
  rw [Effect.outcome_bind, Effect.outcome_get]
  simp only [hnever, Bool.false_eq_true, if_false]
  rfl

/-- What an interval does. -/
theorem path_tick (interval : Interval) : ReflTransGen (Move env) s (Effect.outcome (tick interval) s).2 := by
  cases hbeat : interval.beat with
  | ping =>
    rw [tick, hbeat]
    by_cases hopen : s.readyState = .opened
    · rw [outcome_wsSend hopen]
      exact .single (.pinged hopen)
    · by_cases hconnecting : s.readyState = .connecting
      · rw [outcome_wsSend_early hconnecting]
      · rw [outcome_wsSend_late hconnecting hopen]
  | pong => rw [outcome_tick_pong hbeat]

/-- The connection is lost, or an event at a client is a sequence of moves. -/
theorem step_cases {l : Label} (h : step env s l = some t) :
    (l = .lost ∧ (s.readyState = .connecting ∨ s.readyState = .opened) ∧ t = s.lose) ∨
      ReflTransGen (Move env) s t := by
  cases l with
  | opened =>
    obtain ⟨hconnecting, -⟩ := Option.ite_none_right_eq_some.mp h
    obtain ⟨parts, hparts, hstep⟩ := exists_opened env hconnecting
    obtain rfl := Option.some.inj (h.symm.trans hstep)
    exact .inr (.single (.opened parts hconnecting hparts))
  | data data =>
    obtain ⟨-, hrun⟩ := Option.ite_none_right_eq_some.mp h
    obtain rfl := Option.some.inj hrun
    rw [run, onmessage, Effect.outcome_bind, Effect.outcome_modify]
    simp only []
    split
    · exact .inr (.single .noticed)
    · exact .inr (.head .noticed (Effect.Follows.forM keeps follows_onframe _ _ trivial))
  | lost =>
    obtain ⟨hlive, hrun⟩ := Option.ite_none_right_eq_some.mp h
    exact .inl ⟨rfl, hlive, (Option.some.inj hrun).symm⟩
  | closeEvent =>
    obtain ⟨hscheduled, hrun⟩ := Option.ite_none_right_eq_some.mp h
    obtain rfl := Option.some.inj hrun
    split
    next honclose =>
      rw [run, onclose, Effect.outcome_bind, Effect.outcome_modify]
      exact .inr (path_tell (.closed _ hscheduled honclose))
    next honclose => exact .inr (.single (.closedUnheard hscheduled (by simpa using honclose)))
  | tick id =>
    obtain ⟨interval, -, rfl⟩ := Option.map_eq_some_iff.mp h
    exact .inr (path_tick interval)
  | call c =>
    obtain rfl := Option.some.inj h
    exact .inr (.single (move_call c))

end Scripts

/-- What moves keep, and the loss of the connection as well, holds in every state. -/
theorem reachable_induct {P : Client → Prop} (hnew : P .new)
    (hlost : ∀ s, P s → s.readyState = .connecting ∨ s.readyState = .opened → P s.lose)
    (hmove : ∀ s t, P s → Move env s t → P t) (h : (system env).Reachable s) : P s := by
  have hinit (s : Client) (hs : s = .new) : P s := hs ▸ hnew
  have hstep (s : Client) (l : Label) (t : Client) (hs : P s) (htaken : step env s l = some t) : P t := by
    rcases step_cases htaken with ⟨-, hlive, rfl⟩ | hpath
    · exact hlost s hs hlive
    · exact Effect.Keeps.path hmove hs hpath
  exact h.invariant hinit hstep

/-- A replay from a new client ends a run. -/
theorem exists_run (env : Env) (labels : List Label) {α : Type} (view : Client → α) {a : α}
    (h : (TransitionSystem.replay (step env) .new labels).map view = some a) :
    ∃ history s, (system env).Run history s ∧ view s = a := by
  have hnew : (system env).init .new := rfl
  obtain ⟨s, ⟨history, hrun⟩, hview⟩ := TransitionSystem.exists_reachable_of_replay labels view hnew h
  exact ⟨history, s, hrun, hview⟩

end Stomp

end EventMonitor
