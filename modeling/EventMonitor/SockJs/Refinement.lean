import EventMonitor.Page.System
import EventMonitor.SockJs.Sessions

/-!
# The socket that the page is modelled with

The scripts of the page run on a socket that opens, fails or is closed in one step, without
transports, timers and `/info`. Everything that passes between a SockJS socket and its user can pass
at that socket as well, with the scripts of the page around the same handlers: what holds of every
run of the page does not depend on what SockJS does to get through.
-/

namespace EventMonitor

open Library JavaScript

namespace SockJs

open Relation (ReflTransGen)

/-- A window with one socket. -/
def lone (ws : Page.SockJS) : Page.Window := { Page.blank with clients := [Page.Stomp.overSocket ws] }

/-- The socket of the page as its user has it, with what has passed between them. -/
structure PageSocket where
  window : Page.Window
  trace : List Event

/-- What can happen next at the socket of the page. -/
inductive PageLabel
  | opened
  | message (data : JsString)
  | heartbeat
  | lost
  | closeEvent (event : CloseEvent) (lastEvent : Option CloseEvent)
  | call (c : Call)

section Scripts

variable (env : Env) (frameOf : JsString → Page.Frame)

/-- A call of the user as a script of the page, with payloads that are frames. The errors of the page do not
tell more apart than they have to. -/
def pageCall : Call → Page.Script Unit
  | .send data => Page.SockJS.send 0 (frameOf (quote env.browser.stringify data))
  | .close code _ =>
    if code.getD 0 ≠ 0 ∧ ¬ userSetCode code then throw .typeError else Page.SockJS.close 0
  | .setOnclose installed =>
    modify (Page.Window.update 0 (Page.Client.mapSocket fun ws => { ws with onclose := installed }))
  | .throwing => throw .typeError

/-- What is thrown at a SockJS socket where the call throws at that of the page. -/
def Call.thrown : Call → JsError
  | .send _ => .invalidState
  | .close _ _ => .invalidAccess
  | .setOnclose _ | .throwing => .user

/-- A handler of the user as a script of the page. -/
def pageHandler (calls : List Call) : Page.Script Unit := calls.forM (pageCall env frameOf)

/-- The calls that a handler makes, up to the one that throws. -/
def made : List Call → Page.Window → List Event
  | [], _ => []
  | c :: calls, w =>
    match Effect.outcome (pageCall env frameOf c) w with
    | (.ok (), w') => .called c none :: made calls w'
    | (.error _, _) => [.called c (some c.thrown)]

/-- An event is dispatched by a script of the page, which is given the handler of the user. -/
def PageSocket.dispatch (event : Callback) (heard : Bool) (script : Page.Script Unit → Page.Script Unit)
    (p : PageSocket) : PageSocket :=
  let trace := p.trace ++ [.callback event]
  let calls := env.handlers trace
  { window := Page.run (script (pageHandler env frameOf calls)) p.window
    trace := trace ++ if heard then made env frameOf calls (Page.run (script (pure ())) p.window) else [] }

/-- One event at the socket of the page; `none` when it is not possible. -/
def pageStep (p : PageSocket) (l : PageLabel) : Option PageSocket :=
  match p.window.clients[0]? with
  | none => none
  | some client =>
    match l with
    | .opened =>
      if client.ws.readyState = .connecting then
        some (p.dispatch env frameOf .opened true (Page.SockJS.dispatchOpen 0))
      else none
    | .message data =>
      if client.ws.readyState = .opened then
        some (p.dispatch env frameOf (.message data) true (Page.SockJS.dispatchMessage 0))
      else none
    | .heartbeat =>
      if client.ws.readyState = .opened then
        some (p.dispatch env frameOf .heartbeat true (Page.SockJS.dispatchMessage 0))
      else none
    | .lost =>
      if client.ws.readyState = .connecting ∨ client.ws.readyState = .opened then
        some { p with window := p.window.update 0 (Page.Client.mapSocket Page.SockJS.didClose) }
      else none
    | .closeEvent event lastEvent =>
      if 0 < client.ws.closeEvents then
        some (p.dispatch env frameOf (.closed event lastEvent) client.ws.onclose (Page.SockJS.dispatchClose 0))
      else none
    | .call c => some ⟨Page.run (pageCall env frameOf c) p.window, p.trace ++ made env frameOf [c] p.window⟩

/-- All runs of the socket of the page, with the same user. -/
def pageSystem : TransitionSystem PageSocket PageLabel :=
  .ofStep (· = ⟨lone Page.SockJS.new, []⟩) (pageStep env frameOf)

end Scripts

/-- A SockJS socket as the socket of the page. -/
def Socket.view (frameOf : JsString → Page.Frame) (s : Socket) : Page.SockJS :=
  ⟨s.readyState, s.onclose, s.closeEvents.length, s.sent.map fun entry => frameOf entry.2⟩

/-- A SockJS socket with what has passed, as the page has it. -/
def Socket.shown (frameOf : JsString → Page.Frame) (s : Socket) : PageSocket := ⟨lone (s.view frameOf), s.trace⟩

variable {env : Env} {s t : Socket} {frameOf : JsString → Page.Frame}

/-- Closing a socket, as the page sees it. -/
theorem Socket.view_ended (event : CloseEvent) (lastEvent : Option CloseEvent) :
    (s.ended event lastEvent).view frameOf = (s.view frameOf).didClose := by
  simp [Socket.view, Socket.ended, Page.SockJS.didClose]

/-- Changing the only socket of a window. -/
theorem update_lone (f : Page.SockJS → Page.SockJS) (ws : Page.SockJS) :
    (lone ws).update 0 (Page.Client.mapSocket f) = lone (f ws) := rfl

section Calls

/-- `close` on a socket that is connecting or open. -/
theorem outcome_pageClose {ws : Page.SockJS} (hlive : ws.readyState = .connecting ∨ ws.readyState = .opened) :
    Effect.outcome (Page.SockJS.close 0) (lone ws) = (.ok (), lone ws.didClose) := by
  rw [Page.SockJS.close, Effect.outcome_bind, Effect.outcome_get]
  rcases hlive with hstate | hstate <;>
    simp [lone, Page.Stomp.overSocket, hstate, Page.Window.update, Page.Client.mapSocket, Page.SockJS.didClose,
      Effect.outcome_bind]

/-- `close` on a socket that is closed. -/
theorem outcome_pageClose_closed {ws : Page.SockJS} (hclosed : ws.readyState = .closed) :
    Effect.outcome (Page.SockJS.close 0) (lone ws) = (.ok (), lone ws) := by
  rw [Page.SockJS.close, Effect.outcome_bind, Effect.outcome_get]
  simp [lone, Page.Stomp.overSocket, hclosed]

/-- `send` by the state of the socket. -/
theorem outcome_pageSend (ws : Page.SockJS) (frame : Page.Frame) :
    (ws.readyState = .connecting →
        Effect.outcome (Page.SockJS.send 0 frame) (lone ws) = (.error .invalidState, lone ws)) ∧
      (ws.readyState = .opened →
        Effect.outcome (Page.SockJS.send 0 frame) (lone ws) = (.ok (), lone { ws with sent := ws.sent ++ [frame] })) ∧
      (ws.readyState = .closed → Effect.outcome (Page.SockJS.send 0 frame) (lone ws) = (.ok (), lone ws)) := by
  refine ⟨fun hstate => ?_, fun hstate => ?_, fun hstate => ?_⟩ <;>
    rw [Page.SockJS.send, Effect.outcome_bind, Effect.outcome_get] <;>
    simp [lone, Page.Stomp.overSocket, hstate, Page.Window.update, Page.Client.mapSocket]

/-- A call returns or throws at both sockets, and what it leaves behind agrees. -/
def Answers (env : Env) (frameOf : JsString → Page.Frame) (s : Socket) (c : Call) (t : Socket) : Prop :=
  (Effect.outcome (call env c) s = (.ok (), t) ∧
    Effect.outcome (pageCall env frameOf c) (lone (s.view frameOf)) = (.ok (), lone (t.view frameOf)) ∧
    t.trace = s.trace ++ [.called c none]) ∨
  ∃ e e', Effect.outcome (call env c) s = (.error e, t) ∧
    Effect.outcome (pageCall env frameOf c) (lone (s.view frameOf)) = (.error e', lone (t.view frameOf)) ∧
    t.trace = s.trace ++ [.called c (some c.thrown)]

/-- A call that returns. -/
theorem Answers.returned {c : Call} (hout : Effect.outcome (perform env c) s = (.ok (), t))
    (hpage : Effect.outcome (pageCall env frameOf c) (lone (s.view frameOf)) = (.ok (), lone (t.view frameOf)))
    (htrace : t.trace = s.trace) : Answers env frameOf s c (t.record (.called c none)) := by
  refine .inl ⟨?_, hpage, ?_⟩
  · rw [outcome_call, hout]
  · rw [Socket.record, htrace]

/-- A call that throws. -/
theorem Answers.threw {c : Call} {e : Page.JsError}
    (hout : Effect.outcome (perform env c) s = (.error c.thrown, s))
    (hpage : Effect.outcome (pageCall env frameOf c) (lone (s.view frameOf)) = (.error e, lone (s.view frameOf))) :
    Answers env frameOf s c (s.record (.called c (some c.thrown))) := by
  refine .inr ⟨c.thrown, e, ?_, hpage, rfl⟩
  rw [outcome_call, hout]

variable (frameOf)

/-- `close` at the two sockets. -/
theorem exists_answer_close (hs : s.Invariant env) (code : Option ℤ) (reason : Option String) :
    ∃ t, Answers env frameOf s (.close code reason) t := by
  by_cases hcode : code.getD 0 ≠ 0 ∧ ¬ userSetCode code
  · refine ⟨_, .threw (e := .typeError) (outcome_close_refused code reason hcode) ?_⟩
    rw [pageCall, if_pos hcode]
    rfl
  rcases hs.phase.state_cases with hlive | hclosed
  · obtain ⟨event, hout⟩ := outcome_close_live env code reason hcode hlive
    refine ⟨_, .returned hout ?_ rfl⟩
    rw [pageCall, if_neg hcode, Socket.view_ended]
    exact outcome_pageClose hlive
  · refine ⟨_, .returned (outcome_close_closed code reason hcode hclosed) ?_ rfl⟩
    rw [pageCall, if_neg hcode]
    exact outcome_pageClose_closed hclosed

/-- `send` at the two sockets. -/
theorem exists_answer_send (hs : s.Invariant env) (data : JsString) : ∃ t, Answers env frameOf s (.send data) t := by
  obtain ⟨hpage_early, hpage_open, hpage_late⟩ :=
    outcome_pageSend (s.view frameOf) (frameOf (quote env.browser.stringify data))
  rcases hs.phase.send_cases with hconnecting | ⟨hopen, k, htransport⟩ | hclosed
  · exact ⟨_, .threw (outcome_send_early data hconnecting) (hpage_early hconnecting)⟩
  · refine ⟨_, .returned (outcome_send data hopen htransport) ((hpage_open hopen).trans ?_) rfl⟩
    simp [Socket.view]
  · exact ⟨_, .returned (outcome_send_late data hclosed) (hpage_late hclosed) rfl⟩

/-- What a call does at the two sockets. -/
theorem exists_answer (hs : s.Invariant env) (c : Call) : ∃ t, Answers env frameOf s c t := by
  cases c with
  | close code reason => exact exists_answer_close frameOf hs code reason
  | send data => exact exists_answer_send frameOf hs data
  | setOnclose installed => exact ⟨_, .returned (t := { s with onclose := installed }) rfl rfl rfl⟩
  | throwing => exact ⟨_, .threw (e := .typeError) rfl rfl⟩

variable {frameOf}

/-- What a handler does at the two sockets: it makes the same calls, with the same results. -/
theorem run_pageHandler (hs : s.Invariant env) (calls : List Call) :
    (Effect.outcome (calls.forM (call env)) s).2.shown frameOf =
      ⟨Page.run (pageHandler env frameOf calls) (lone (s.view frameOf)),
        s.trace ++ made env frameOf calls (lone (s.view frameOf))⟩ := by
  induction calls generalizing s with
  | nil =>
    rw [made, List.append_nil]
    rfl
  | cons c calls ih =>
    obtain ⟨t, hanswer⟩ := exists_answer frameOf hs c
    rw [Effect.outcome_forM_cons, Effect.outcome_bind, pageHandler, Page.run, Effect.outcome_forM_cons,
      Effect.outcome_bind, made]
    rcases hanswer with ⟨hcall, hpage, htrace⟩ | ⟨e, e', hcall, hpage, htrace⟩
    · have ht : t.Invariant env := by
        have hmove := move_call hs c
        rw [hcall] at hmove
        exact hmove.invariant hs
      rw [hcall, hpage]
      simp only []
      rw [ih ht, htrace, List.append_assoc]
      rfl
    · rw [hcall, hpage]
      simp only [Socket.shown, htrace]

end Calls

section Events

/-- An event is dispatched at both sockets. -/
theorem shown_dispatchEvent {event : Callback} {w : Page.Window} {script : Page.Script Unit → Page.Script Unit}
    (hs : (s.record (.callback event)).Invariant env)
    (hscript : ∀ handler, Page.run (script handler) w =
      if s.hears event then Page.run handler (lone (s.view frameOf)) else lone (s.view frameOf)) :
    (Effect.outcome (dispatchEvent env event) s).2.shown frameOf =
      PageSocket.dispatch env frameOf event (s.hears event) script ⟨w, s.trace⟩ := by
  have hview : (s.record (.callback event)).view frameOf = s.view frameOf := rfl
  have hnothing : Page.run (pure ()) (lone (s.view frameOf)) = lone (s.view frameOf) := rfl
  rw [outcome_dispatchEvent, PageSocket.dispatch, hscript, hscript]
  split
  · rw [run_pageHandler hs, hview, hnothing]
    rfl
  · simp [Socket.shown, Socket.record, Socket.view]

/-- The invariant, and a socket of the page that has got there. -/
def Seen (env : Env) (frameOf : JsString → Page.Frame) (s : Socket) : Prop :=
  s.Invariant env ∧ (pageSystem env frameOf).Reachable (s.shown frameOf)

/-- One event at the socket of the page. -/
theorem Seen.step (hs : Seen env frameOf s) (ht : t.Invariant env) (l : PageLabel)
    (h : pageStep env frameOf (s.shown frameOf) l = some (t.shown frameOf)) : Seen env frameOf t :=
  ⟨ht, hs.2.snoc (l := l) h⟩

/-- What the page does not see. -/
theorem Seen.same (hs : Seen env frameOf s) (ht : t.Invariant env) (hview : t.view frameOf = s.view frameOf)
    (htrace : t.trace = s.trace) : Seen env frameOf t := by
  refine ⟨ht, ?_⟩
  rw [Socket.shown, hview, htrace]
  exact hs.2

/-- The socket is closed without the user. -/
theorem Seen.lost (hs : Seen env frameOf s) (ht : t.Invariant env)
    (hlive : s.readyState = .connecting ∨ s.readyState = .opened) (hview : t.view frameOf = (s.view frameOf).didClose)
    (htrace : t.trace = s.trace) : Seen env frameOf t := by
  refine hs.step ht .lost ?_
  have hpossible : pageStep env frameOf (s.shown frameOf) .lost =
      some ⟨lone (s.view frameOf).didClose, s.trace⟩ := if_pos hlive
  rw [hpossible, Socket.shown, hview, htrace]

/-- A move of which the user learns nothing. -/
theorem Seen.silent (hs : Seen env frameOf s) (h : Silent env s t) : Seen env frameOf t := by
  obtain ⟨hmove, htrace⟩ := h
  have ht := hmove.invariant hs.1
  have hrecorded {u : Socket} {event : Event} (hu : u.trace = s.trace) (hsame : (u.record event).trace = s.trace) :
      False := by simp [Socket.record, hu] at hsame
  have hattempt {u : Socket} (h : Attempt u t) (hu : u.view frameOf = s.view frameOf) :
      t.view frameOf = s.view frameOf := by
    obtain ⟨-, hstate, hsent, -, hevents, -, -⟩ := h.kept
    rw [← hu, Socket.view, Socket.view, hstate, hsent, hevents, h.onclose]
  cases hmove with
  | informed info rtt hir => exact hs.same ht rfl rfl
  | retried hconnecting hlisteners h => exact hs.same ht (hattempt h rfl) htrace
  | loaded hconnecting hlisteners hcomplete h => exact hs.same ht (hattempt h rfl) htrace
  | opened k hconnecting htransport => exact (hrecorded (by rfl) htrace).elim
  | received event hevent hopen => exact (hrecorded rfl htrace).elim
  | refused c thrown h => exact (hrecorded rfl htrace).elim
  | sent data k hopen htransport => exact (hrecorded (by rfl) htrace).elim
  | installed onclose => exact (hrecorded (by rfl) htrace).elim
  | closed code reason event hlive => exact (hrecorded (by rfl) htrace).elim
  | ended event hlive => exact hs.lost ht hlive (Socket.view_ended event none) rfl
  | exhausted event lastEvent hconnecting => exact hs.lost ht (.inl hconnecting) (Socket.view_ended event _) rfl
  | announced event lastEvent rest hscheduled => exact (hrecorded (by rfl) htrace).elim
  | timedOut timers hclosed => exact hs.same ht rfl rfl
  | completed => exact hs.same ht rfl rfl
  | loadedEarlier hcomplete hlisteners => exact hs.same ht rfl rfl

/-- So do several of them. -/
theorem Seen.path (hs : Seen env frameOf s) (h : ReflTransGen (Silent env) s t) : Seen env frameOf t := by
  induction h with
  | refl => exact hs
  | tail _ hmove ih => exact ih.silent hmove

/-- A message or a heartbeat arrives. -/
theorem Seen.received (hs : Seen env frameOf s) (event : Callback) (hevent : event.Quiet) :
    Seen env frameOf (Effect.outcome (dispatchWhenOpen env event) s).2 := by
  rw [dispatchWhenOpen, Effect.outcome_bind, Effect.outcome_get]
  simp only []
  split
  next hopen =>
    have hmove : Move env s (s.record (.callback event)) := .received event hevent hopen
    have hscript (handler : Page.Script Unit) :
        Page.run (Page.SockJS.dispatchMessage 0 handler) (lone (s.view frameOf)) =
          if s.hears event then Page.run handler (lone (s.view frameOf)) else lone (s.view frameOf) := by
      have hheard : s.hears event = true := by cases event <;> simp_all [Socket.hears, Callback.Quiet]
      rw [if_pos hheard, Page.run, Page.SockJS.dispatchMessage, Effect.outcome_bind, Effect.outcome_get]
      simp [lone, Page.Stomp.overSocket, Socket.view, hopen, Page.run]
    have hshown := shown_dispatchEvent (hmove.invariant hs.1) hscript
    have ht := keeps.path hs.1 (path_dispatchEvent hs.1 hmove)
    cases event with
    | message data =>
      refine hs.step ht (.message data) ?_
      rw [hshown]
      exact if_pos hopen
    | heartbeat =>
      refine hs.step ht .heartbeat ?_
      rw [hshown]
      exact if_pos hopen
    | opened => exact hevent.elim
    | closed => exact hevent.elim
  next => exact hs

/-- The current transport opens. -/
theorem Seen.opened (hs : Seen env frameOf s) {k : ℕ} (htransport : s.transport = some k)
    (hconnecting : s.readyState = .connecting) : Seen env frameOf (Effect.outcome (dispatchOpen env) s).2 := by
  have hmove : Move env s (Socket.record (.callback .opened) { s.clearTref with readyState := .opened }) :=
    .opened k hconnecting htransport
  have hout : (Effect.outcome (dispatchOpen env) s).2 =
      (Effect.outcome (dispatchEvent env .opened) { s.clearTref with readyState := .opened }).2 := by
    rw [dispatchOpen, Effect.outcome_bind, Effect.outcome_get]
    simp only []
    rw [if_pos hconnecting, Effect.outcome_bind, Effect.outcome_modify]
    simp only []
    rw [Effect.outcome_bind, Effect.outcome_modify]
  have hscript (handler : Page.Script Unit) :
      Page.run (Page.SockJS.dispatchOpen 0 handler) (lone (s.view frameOf)) =
        if Socket.hears { s.clearTref with readyState := .opened } .opened then
          Page.run handler (lone (Socket.view frameOf { s.clearTref with readyState := .opened }))
        else lone (Socket.view frameOf { s.clearTref with readyState := .opened }) := rfl
  have hshown := shown_dispatchEvent (hmove.invariant hs.1) hscript
  have ht := keeps.path hs.1 (path_dispatchEvent hs.1 hmove)
  rw [hout]
  refine hs.step ht .opened ?_
  rw [hshown]
  exact if_pos hconnecting

/-- A close event is dispatched. -/
theorem Seen.announced (hs : Seen env frameOf s) {event : CloseEvent} {lastEvent : Option CloseEvent}
    {rest : List (CloseEvent × Option CloseEvent)} (hscheduled : s.closeEvents = (event, lastEvent) :: rest) :
    Seen env frameOf (run (dispatchEvent env (.closed event lastEvent)) { s with closeEvents := rest }) := by
  have hmove : Move env s (Socket.record (.callback (.closed event lastEvent)) { s with closeEvents := rest }) :=
    .announced event lastEvent rest hscheduled
  have hlength : (s.view frameOf).closeEvents = rest.length + 1 := by simp [Socket.view, hscheduled]
  have hscript (handler : Page.Script Unit) :
      Page.run (Page.SockJS.dispatchClose 0 handler) (lone (s.view frameOf)) =
        if Socket.hears { s with closeEvents := rest } (.closed event lastEvent) then
          Page.run handler (lone (Socket.view frameOf { s with closeEvents := rest }))
        else lone (Socket.view frameOf { s with closeEvents := rest }) := by
    have hcounted : { s.view frameOf with closeEvents := (s.view frameOf).closeEvents - 1 } =
        Socket.view frameOf { s with closeEvents := rest } := by simp [Socket.view, hscheduled]
    rw [Page.run, Page.SockJS.dispatchClose, Effect.outcome_bind, Effect.outcome_modify, update_lone, hcounted]
    simp only []
    rw [Effect.outcome_bind, Effect.outcome_get]
    change (Effect.outcome (if s.onclose then handler else pure ()) _).2 = if s.onclose then _ else _
    split <;> rfl
  have hshown := shown_dispatchEvent (hmove.invariant hs.1) hscript
  have ht := keeps.path hs.1 (path_dispatchEvent hs.1 hmove)
  refine hs.step ht (.closeEvent event lastEvent) ?_
  rw [run, hshown]
  exact if_pos (hlength ▸ Nat.succ_pos _)

/-- The user calls of his own accord. -/
theorem Seen.called (hs : Seen env frameOf s) (c : Call) : Seen env frameOf (run (call env c) s) := by
  have ht := (move_call hs.1 c).invariant hs.1
  refine hs.step ht (.call c) ?_
  obtain ⟨u, hanswer⟩ := exists_answer frameOf hs.1 c
  change some (PageSocket.mk (Page.run (pageCall env frameOf c) (lone (s.view frameOf)))
    (s.trace ++ made env frameOf [c] (lone (s.view frameOf)))) = _
  rw [run, Page.run, made]
  rcases hanswer with ⟨hcall, hpage, htrace⟩ | ⟨e, e', hcall, hpage, htrace⟩
  · rw [hcall, hpage, Socket.shown, htrace]
    rfl
  · rw [hcall, hpage, Socket.shown, htrace]

/-- A frame of the server is handed to the socket by its transport. -/
theorem Seen.framed (hs : Seen env frameOf s) {k : ℕ} (htransport : s.transport = some k) (frame : ServerFrame) :
    Seen env frameOf (run (didMessage env frame) s) := by
  have hlisteners (hconnecting : s.readyState = .connecting) : s.loadListeners = 0 :=
    (hs.1.phase.awaitsTransport_of_transport hconnecting htransport).loadListeners
  cases frame with
  | o =>
    by_cases hconnecting : s.readyState = .connecting
    · exact hs.opened htransport hconnecting
    · have hout : run (dispatchOpen env) s = run (didClose env (some 1006) (some "Server lost session") false) s := by
        rw [run, dispatchOpen, Effect.outcome_bind, Effect.outcome_get]
        simp only []
        rw [if_neg hconnecting]
        rfl
      change Seen env frameOf (run (dispatchOpen env) s)
      rw [hout]
      exact hs.path (path_didClose hs.1 _ _ _ hlisteners)
  | a payload =>
    have hmessages (data : JsString) : Effect.Follows (Seen env frameOf) (fun _ t => Seen env frameOf t)
        (dispatchMessage env data) := fun s hs => .single (hs.received (.message data) trivial)
    exact Effect.Keeps.into.path hs (Effect.Follows.forM .into hmessages payload s hs)
  | m payload => exact hs.received (.message payload) trivial
  | c code reason => exact hs.path (path_didClose hs.1 code reason false hlisteners)
  | h => exact hs.received .heartbeat trivial
  | malformed => exact hs
  | unknown => exact hs

end Events

/-- The page does not see the load event at a closed socket. -/
theorem Revived.view (h : Revived s t) : t.view frameOf = s.view frameOf := by
  rw [Socket.view, Socket.view, h.readyState, h.closeEvents, h.sent, h.onclose]

/-- One event at a SockJS socket is none or several at the socket of the page. -/
theorem Seen.next {l : Label} (hs : Seen env frameOf s) (h : SockJs.step env s l = some t) : Seen env frameOf t := by
  cases l with
  | info answer =>
    obtain ⟨hir, hrun⟩ := Option.ite_none_right_eq_some.mp h
    obtain rfl := Option.some.inj hrun
    exact hs.path (path_onInfo hs.1 hir answer)
  | frame k frame =>
    obtain ⟨htransport, hrun⟩ := Option.ite_none_right_eq_some.mp h
    obtain rfl := Option.some.inj hrun
    exact hs.framed htransport frame
  | failed k reason =>
    obtain ⟨hfailed, hrun⟩ := Option.ite_none_right_eq_some.mp h
    obtain rfl := Option.some.inj hrun
    exact hs.path (path_failed hs.1 hfailed reason)
  | timer id =>
    obtain ⟨hid, hrun⟩ := Option.ite_none_right_eq_some.mp h
    obtain rfl := Option.some.inj hrun
    exact hs.path (path_onTimeout hs.1 hid)
  | call c =>
    obtain rfl := Option.some.inj h
    exact hs.called c
  | closeEvent =>
    rw [SockJs.step] at h
    rcases hscheduled : s.closeEvents with _ | ⟨⟨event, lastEvent⟩, rest⟩
    · simp [hscheduled] at h
    · simp only [hscheduled, Option.some.injEq] at h
      rw [← h]
      exact hs.announced hscheduled
  | complete =>
    obtain rfl := Option.some.inj h
    exact hs.silent ⟨.completed, rfl⟩
  | load =>
    obtain ⟨hcondition, hrun⟩ := Option.ite_none_right_eq_some.mp h
    obtain rfl := Option.some.inj hrun
    rw [Bool.and_eq_true] at hcondition
    rcases load_cases hs.1 hcondition.1 with hpath | ⟨hclosed, hlate⟩
    · exact hs.path hpath
    · exact hs.same (hlate.invariant hs.1 hclosed hcondition.1) hlate.view hlate.trace

/-- Whatever happens at a SockJS socket, the socket with which the page is modelled can get to where it is: with
the same callbacks and calls between it and the same user, in the same order and with the same results, with the
same `readyState`, the same handler of close events, as many of these still to come, and with the same frames
sent. -/
theorem refines_page_socket (frameOf : JsString → Page.Frame) (h : (system env).Reachable s) :
    (pageSystem env frameOf).Reachable ⟨lone (s.view frameOf), s.trace⟩ := by
  refine (h.invariant (P := Seen env frameOf) ?_ fun s l t hs hstep => hs.next hstep).2
  rintro s ⟨complete, loaded, hloaded, rfl⟩
  exact ⟨invariant_new hloaded, .start rfl⟩

/-- A user who hears of the close event, and sends something whenever he is called back. -/
def polite : Env where
  browser := browserWith true
  whitelist := none
  rtt := none
  handlers := fun trace =>
    match trace.getLast? with
    | some (.callback .opened) => [.setOnclose true, .send (literal "hi")]
    | some (.callback _) => [.send (literal "bye")]
    | _ => []
  construct := fun _ => true

/-- A greeting that is sent and a farewell that is not, at the socket of the page. -/
theorem greeting_seen : ∃ s : Socket,
    (pageSystem polite fun _ => .send "/eventmonitor/events").Reachable
        ⟨lone (s.view fun _ => .send "/eventmonitor/events"), s.trace⟩ ∧
      s.view (fun _ => .send "/eventmonitor/events") = ⟨.closed, true, 0, [.send "/eventmonitor/events"]⟩ ∧
      s.trace = [.callback .opened, .called (.setOnclose true) none, .called (.send (literal "hi")) none,
        .callback (.closed ⟨some 3000, some "Go away!", true⟩ none), .called (.send (literal "bye")) none] := by
  obtain ⟨history, s, hrun, hview⟩ := exists_run polite true
    [.info (some (⟨some true, false⟩, 10)), .frame 0 .o, .frame 0 (.c (some 3000) (some "Go away!")), .closeEvent]
    (fun s => (s.view fun _ => .send "/eventmonitor/events", s.trace))
    (a := (⟨.closed, true, 0, [.send "/eventmonitor/events"]⟩,
      [.callback .opened, .called (.setOnclose true) none, .called (.send (literal "hi")) none,
        .callback (.closed ⟨some 3000, some "Go away!", true⟩ none), .called (.send (literal "bye")) none])) (by decide)
  rw [Prod.mk.injEq] at hview
  exact ⟨s, refines_page_socket _ ⟨history, hrun⟩, hview⟩

end SockJs

end EventMonitor
