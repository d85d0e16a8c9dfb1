import EventMonitor.Stomp.PageClient

/-!
# The Stomp client refines that of the page

Everything that the callbacks of the page are told by a Stomp client can be told by the client with which
the page is modelled, in the same order, and what the server reads is what that client has sent: what holds
of every run of the page does not depend on what Stomp does besides.
-/

namespace EventMonitor

open Library JavaScript

namespace Stomp

variable {url : String} {read : JsString → Option (JsonResult WebSocketDto)}
  {functions : ℕ → JsString → FunctionProperty} {s t : Client} {client : Page.Client}

section Scripts

/-- An open socket with everything matched. -/
def Serving (url : String) (read : JsString → Option (JsonResult WebSocketDto))
    (functions : ℕ → JsString → FunctionProperty) (s : Client) : Prop :=
  Matched url read functions s ∧ s.readyState = .opened

/-- A CONNECTED frame that can be printed is told to the page. -/
theorem serving_connected (h : Serving url read functions s) (frame : Frame) {text : JsString}
    (hprinted : frame.toString = .ok text) (pinger ponger : Option (Option ℤ)) :
    Serving url read functions (Effect.outcome (tell (pageEnv url read functions) (.connected frame))
      ({ s with connected := true }.beats pinger ponger)).2 := by
  obtain ⟨⟨client, htold, hagrees⟩, hopen⟩ := h
  let u := ({ s with connected := true }.beats pinger ponger).record (.callback (.connected frame))
  have hbeats : Agrees (pageEnv url read functions) u { client with
      connected := true
      connectedFrames := client.connectedFrames + 1 } := by
    have hsame : Agrees (pageEnv url read functions) u client := by
      cases pinger <;> cases ponger <;> exact hagrees.of_eq rfl rfl rfl rfl rfl rfl
    exact ⟨hsame.readyState, hsame.onclose, hsame.closeEvents, hsame.sent, hsame.counter, hsame.subscriptions,
      hsame.fresh⟩
  have hu : u.readyState = .opened := by simp [u, Client.record, hopen]
  have hlast : u.trace.getLast? = some (.callback (.connected frame)) := List.getLast?_concat
  obtain ⟨v, hcall, hv, htoldv, hagreesv⟩ := hbeats.subscribed hu
  obtain ⟨t, hcall', ht, htoldt, hagreest⟩ := hagreesv.requested hv
  have hout : (Effect.outcome (tell (pageEnv url read functions) (.connected frame))
      ({ s with connected := true }.beats pinger ponger)).2 = t := by
    rw [tell, Effect.outcome_bind, Effect.outcome_modify]
    change (Effect.outcome ((pageHandlers read u.trace).forM (call (pageEnv url read functions))) u).2 = t
    rw [pageHandlers, hlast]
    simp only [hprinted]
    rw [Effect.outcome_forM_cons, Effect.outcome_bind, hcall]
    simp only []
    rw [Effect.outcome_forM_cons, Effect.outcome_bind, hcall']
    rfl
  rw [hout]
  have htells : PageTells read client [.connected frame] client.onConnected := by
    refine .connected frame ⟨text, hprinted⟩ fun w old hheld => ?_
    rw [Page.step]
    exact Page.socketEvent_hold rfl (Page.run_onConnected w old client (hagrees.readyState.trans hopen) hheld)
  refine ⟨⟨client.onConnected, ?_, hagreest⟩, ht⟩
  have htrace : toldPage t.trace = toldPage s.trace ++ [.connected frame] := by
    rw [htoldt, htoldv]
    change toldPage (({ s with connected := true }.beats pinger ponger).trace ++ [.callback (.connected frame)]) = _
    rw [toldPage_append, Client.trace_beats]
    rfl
  rw [htrace]
  exact htold.tells htells

/-- The page is told something, and asks for nothing. -/
theorem serving_told (h : Serving url read functions s) (event : Callback)
    (hevent : ∀ frame text, event = .connected frame → frame.toString ≠ .ok text)
    (hnow : ∀ client, Agrees (pageEnv url read functions) s client →
      ∃ client', Agrees (pageEnv url read functions) s client' ∧
        (PageTells read client (toldPage [.callback event]) client' ∨
          toldPage [.callback event] = [] ∧ client' = client)) :
    Serving url read functions (Effect.outcome (tell (pageEnv url read functions) event) s).2 := by
  obtain ⟨later, hlater, hout⟩ := outcome_tell_quiet (s := s) url read functions event hevent
  obtain ⟨⟨client, htold, hagrees⟩, hopen⟩ := h
  obtain ⟨client', hagrees', hnow⟩ := hnow client hagrees
  rw [hout]
  have htrace : toldPage (s.trace ++ .callback event :: later) = toldPage s.trace ++ toldPage [.callback event] := by
    rw [List.append_cons, toldPage_append, hlater, List.append_nil, toldPage_append]
  refine ⟨⟨client', ?_, hagrees'.of_eq rfl rfl rfl rfl rfl rfl⟩, hopen⟩
  change PageTold read (toldPage (s.trace ++ .callback event :: later)) client'
  rw [htrace]
  rcases hnow with htells | ⟨hnone, rfl⟩
  · exact htold.tells htells
  · rwa [hnone, List.append_nil]

/-- A CONNECTED frame that cannot be printed clears the list, and the page gets no further. -/
theorem serving_unprinted (h : Serving url read functions s) (frame : Frame)
    (hthrows : frame.toString = .error .malformed) (pinger ponger : Option (Option ℤ)) :
    Serving url read functions (Effect.outcome (tell (pageEnv url read functions) (.connected frame))
      ({ s with connected := true }.beats pinger ponger)).2 := by
  obtain ⟨⟨client, htold, hagrees⟩, hopen⟩ := h
  have hbeats : Serving url read functions ({ s with connected := true }.beats pinger ponger) := by
    refine ⟨⟨client, ?_, ?_⟩, by simp [hopen]⟩
    · rw [Client.trace_beats]
      exact htold
    · cases pinger <;> cases ponger <;> exact hagrees.of_eq rfl rfl rfl rfl rfl rfl
  refine serving_told hbeats _ (fun other text hsame => ?_) fun client hclient => ?_
  · obtain rfl := Callback.connected.inj hsame
    simp [hthrows]
  · refine ⟨{ client with connected := true, connectedFrames := client.connectedFrames + 1 }, ?_, .inl ?_⟩
    · exact ⟨hclient.readyState, hclient.onclose, hclient.closeEvents, hclient.sent, hclient.counter,
        hclient.subscriptions, hclient.fresh⟩
    · refine .unprinted frame hthrows fun w old _ => ?_
      have hpage : client.ws.readyState = .opened := hclient.readyState.trans hbeats.2
      simp only []
      rw [Page.SockJS.dispatchMessage, Effect.outcome_bind, Effect.outcome_get]
      simp only [Page.Window.hold_clients, List.getElem?_concat_length]
      rw [if_pos hpage, Page.Stomp.onConnected, Effect.outcome_bind, Effect.outcome_modify, Page.Window.update_hold]
      rfl

/-- A MESSAGE frame for a subscription of the page is shown, or its callback throws. -/
theorem pageTells_message {n : ℕ} (hopen : client.ws.readyState = .opened) (hn : n ∈ client.subscriptions)
    (frame : Frame) (hframe : frame.subscription = numbered "sub-" n) :
    PageTells read client [.message (some 0) frame] client := by
  rcases hbody : read frame.body with _ | body
  · refine .unread frame n hframe hbody fun broadcast body w old _ => ?_
    simp only []
    rw [Page.SockJS.dispatchMessage, Effect.outcome_bind, Effect.outcome_get]
    simp only [Page.Window.hold_clients, List.getElem?_concat_length]
    rw [if_pos hopen, Page.Stomp.onMessage, Effect.outcome_bind, Effect.outcome_get]
    simp only [Page.Window.hold_clients, List.getElem?_concat_length]
    rw [if_pos hn]
    rfl
  · refine .message frame n body hframe hbody fun w old broadcast => ?_
    let arrived : Page.MessageFrame := ⟨old.length, n, broadcast, body⟩
    have hget : (w.hold old client).clients[arrived.client]? = some client := List.getElem?_concat_length
    have hrun := (Page.run_onMessage hget hopen).trans (if_pos hn)
    exact congrArg some hrun

/-- A frame arrives at the client of the page. -/
theorem serving_onframe (h : Serving url read functions s) (frame : Frame) :
    Serving url read functions (Effect.outcome (onframe (pageEnv url read functions) frame) s).2 := by
  rw [onframe]
  split
  · rw [Effect.outcome_bind, Effect.outcome_modify]
    simp only []
    rw [Effect.outcome_bind]
    rcases outcome_setupHeartbeat (s := { s with connected := true }) (pageEnv url read functions) frame.headers with
      hout | ⟨pinger, ponger, -, -, hout⟩
    · rw [hout]
      exact ⟨h.1.of_eq rfl rfl rfl rfl rfl rfl rfl, h.2⟩
    · rw [hout]
      rcases hprinted : frame.toString with ⟨⟩ | text
      · exact serving_unprinted h frame hprinted pinger ponger
      · exact serving_connected h frame hprinted pinger ponger
  split
  · rw [Effect.outcome_bind, Effect.outcome_get]
    simp only []
    rw [← Frame.subscription]
    split
    next callback hfound =>
      refine serving_told h _ (by simp) fun client hagrees => ?_
      obtain ⟨rfl, n, hn, hsame⟩ := hagrees.found hfound
      exact ⟨client, hagrees, .inl (pageTells_message (hagrees.readyState.trans h.2) hn frame hsame)⟩
    next thrown hfound => cases thrown <;> exact h
    next hfound =>
      rw [if_neg (by simp [pageEnv]), outcome_debug]
      exact h
  split
  · exact serving_told h _ (by simp) fun client hagrees => ⟨client, hagrees, .inr ⟨rfl, rfl⟩⟩
  split
  · refine serving_told h _ (by simp) fun client hagrees => ⟨client.onError, ?_, .inl (.errored frame ?_)⟩
    · exact ⟨hagrees.readyState, hagrees.onclose, hagrees.closeEvents, hagrees.sent, hagrees.counter,
        hagrees.subscriptions, hagrees.fresh⟩
    · intro w old _
      rw [Page.step]
      exact Page.socketEvent_hold rfl (Page.run_onError w old client (hagrees.readyState.trans h.2))
  · rw [outcome_debug]
    exact h

/-- A text arrives at the client of the page. -/
theorem serving_onmessage (h : Serving url read functions s) (data : JsString) :
    Serving url read functions (run (onmessage (pageEnv url read functions) data) s) := by
  have hnoticed : Serving url read functions { s with serverActivity := now } :=
    ⟨h.1.of_eq rfl rfl rfl rfl rfl rfl rfl, h.2⟩
  rw [run, onmessage, Effect.outcome_bind, Effect.outcome_modify]
  simp only []
  split
  · exact hnoticed
  · have hframes (frame : Frame) : Effect.Follows (Serving url read functions)
        (fun _ t => Serving url read functions t) (onframe (pageEnv url read functions) frame) :=
      fun s hs => .single (serving_onframe hs frame)
    exact Effect.Keeps.into.path hnoticed (Effect.Follows.forM .into hframes (Frame.unmarshall data) _ hnoticed)

/-- The socket of the client opens. -/
theorem matched_opened (h : Matched url read functions s) (hconnecting : s.readyState = .connecting)
    (parts : List JsString) : Matched url read functions
      ({ s with readyState := .opened }.spoken (pageEnv url read functions).connectFrame parts) := by
  obtain ⟨client, htold, hagrees⟩ := h
  have hpossible : client.ws.readyState = .connecting := hagrees.readyState.trans hconnecting
  have htells : PageTells read client [] client.onOpen := by
    refine .opened fun w old _ => ?_
    rw [Page.step]
    exact Page.socketEvent_hold (by simpa using hpossible) (Page.run_dispatchOpen w old client)
  refine ⟨client.onOpen, htold.silently htells, ?_⟩
  exact ⟨rfl, hagrees.onclose, hagrees.closeEvents, List.rel_append hagrees.sent (.cons .connect .nil),
    hagrees.counter, hagrees.subscriptions, hagrees.fresh⟩

/-- The connection is lost. -/
theorem matched_lost (h : Matched url read functions s) (hlive : s.readyState = .connecting ∨ s.readyState = .opened) :
    Matched url read functions s.lose := by
  obtain ⟨client, htold, hagrees⟩ := h
  have hrun (w : Page.Window) (old : List Page.Client) :
      Page.run (modify (Page.Window.update old.length (Page.Client.mapSocket Page.SockJS.didClose)))
        (w.hold old client) = w.hold old (client.mapSocket Page.SockJS.didClose) :=
    Page.Window.update_hold w old client _
  have htells : PageTells read client [] (client.mapSocket Page.SockJS.didClose) := by
    rcases hlive with hstate | hstate
    · have hpossible : client.ws.readyState = .connecting := hagrees.readyState.trans hstate
      refine .attemptFailed fun w old _ => ?_
      rw [Page.step]
      exact Page.socketEvent_hold (by simpa using hpossible) (hrun w old)
    · have hpossible : client.ws.readyState = .opened := hagrees.readyState.trans hstate
      refine .serverClose fun w old _ => ?_
      rw [Page.step]
      exact Page.socketEvent_hold (by simpa using hpossible) (hrun w old)
  refine ⟨client.mapSocket Page.SockJS.didClose, ?_, ?_⟩
  · have htrace : toldPage s.lose.trace = toldPage s.trace :=
      (toldPage_append s.trace [.lost]).trans (List.append_nil _)
    rw [htrace]
    exact htold.silently htells
  · exact ⟨rfl, hagrees.onclose, congrArg (· + 1) hagrees.closeEvents, hagrees.sent, hagrees.counter,
      hagrees.subscriptions, hagrees.fresh⟩

/-- A close event that the page hears. -/
theorem matched_closed (h : Matched url read functions s) (hscheduled : 0 < s.closeEvents) (honclose : s.onclose) :
    Matched url read functions
      (run (onclose (pageEnv url read functions)) { s with closeEvents := s.closeEvents - 1 }) := by
  obtain ⟨client, htold, hagrees⟩ := h
  have hinstalled : client.ws.onclose = true := hagrees.onclose.trans honclose
  have hpossible : 0 < client.ws.closeEvents := hagrees.closeEvents.symm ▸ hscheduled
  have htells : PageTells read client [.lost ("Whoops! Lost connection to " ++ url)]
      { client.onCloseEvent with connected := false } := by
    refine .closed _ fun w old _ => ?_
    rw [Page.step]
    exact Page.socketEvent_hold (by simpa using hpossible) (Page.run_dispatchClose w old client hinstalled)
  obtain ⟨later, hlater, hout⟩ := outcome_tell_quiet
    (s := { s with closeEvents := s.closeEvents - 1 }.cleanUp) url read functions
    (.lost ("Whoops! Lost connection to " ++ url)) (by simp)
  have hrun : run (onclose (pageEnv url read functions)) { s with closeEvents := s.closeEvents - 1 } =
      { { s with closeEvents := s.closeEvents - 1 }.cleanUp with
        trace := s.trace ++ .callback (.lost ("Whoops! Lost connection to " ++ url)) :: later } := by
    rw [run, onclose, Effect.outcome_bind, Effect.outcome_modify]
    exact hout
  rw [hrun]
  refine ⟨{ client.onCloseEvent with connected := false }, ?_, ?_⟩
  · change PageTold read (toldPage (s.trace ++ .callback (.lost ("Whoops! Lost connection to " ++ url)) :: later)) _
    rw [List.append_cons, toldPage_append, hlater, List.append_nil, toldPage_append]
    exact htold.tells htells
  · exact ⟨hagrees.readyState, hagrees.onclose, congrArg (· - 1) hagrees.closeEvents, hagrees.sent, hagrees.counter,
      hagrees.subscriptions, hagrees.fresh⟩

/-- A close event that the page does not hear. -/
theorem matched_closedUnheard (h : Matched url read functions s) (hscheduled : 0 < s.closeEvents)
    (honclose : s.onclose = false) : Matched url read functions { s with closeEvents := s.closeEvents - 1 } := by
  obtain ⟨client, htold, hagrees⟩ := h
  have hremoved : client.ws.onclose = false := hagrees.onclose.trans honclose
  have hpossible : 0 < client.ws.closeEvents := hagrees.closeEvents.symm ▸ hscheduled
  have htells : PageTells read client [] client.onCloseEvent := by
    refine .closedUnheard fun w old _ => ?_
    rw [Page.step]
    exact Page.socketEvent_hold (by simpa using hpossible) (Page.run_dispatchClose_unheard w old client hremoved)
  refine ⟨_, htold.silently htells, ?_⟩
  exact ⟨hagrees.readyState, hagrees.onclose, congrArg (· - 1) hagrees.closeEvents, hagrees.sent, hagrees.counter,
    hagrees.subscriptions, hagrees.fresh⟩

variable (s) in
/-- `disconnect` by the state of the socket. -/
theorem run_disconnect (env : Env) : ∃ parts, run (call env .disconnect) s =
    if s.readyState = .connecting then s.record (.called .disconnect (some .invalidState))
    else (if s.readyState = .opened then s.spoken ⟨literal "DISCONNECT", .empty, []⟩ parts else s).hungUp.record
      (.called .disconnect none) := by
  obtain ⟨parts, hparts⟩ := Frame.parts_of_body (rfl : (⟨literal "DISCONNECT", .empty, []⟩ : Frame).body = [])
  have hasked : s.asked env .disconnect = s := rfl
  refine ⟨parts, ?_⟩
  rw [run, outcome_call, outcome_perform .disconnect rfl rfl, Client.transmits, hparts, hasked]
  cases s.readyState <;> rfl

/-- A client that has been given up, with DISCONNECT sent if the socket is open. -/
theorem Agrees.hungUp (h : Agrees (pageEnv url read functions) s client) (hconnecting : s.readyState ≠ .connecting)
    (parts : List JsString) :
    Agrees (pageEnv url read functions)
      (if s.readyState = .opened then s.spoken ⟨literal "DISCONNECT", .empty, []⟩ parts else s).hungUp
      client.disconnected := by
  by_cases hopen : s.readyState = .opened
  · have hpage : client.ws.readyState = .opened := h.readyState.trans hopen
    have hungUp : (s.spoken ⟨literal "DISCONNECT", .empty, []⟩ parts).hungUp =
        ({ s.spoken ⟨literal "DISCONNECT", .empty, []⟩ parts with onclose := false }.didClose).cleanUp := by
      simp [Client.hungUp, Client.spoken, hopen]
    have hgone : client.disconnected = { client with
        connected := false
        ws := { client.ws with
          sent := client.ws.sent ++ [.disconnect]
          onclose := false
          readyState := .closed
          closeEvents := client.ws.closeEvents + 1 } } := by
      simp [Page.Client.disconnected, hpage]
    rw [if_pos hopen, hungUp, hgone]
    exact ⟨rfl, rfl, congrArg (· + 1) h.closeEvents, List.rel_append h.sent (.cons .disconnect .nil), h.counter,
      h.subscriptions, h.fresh⟩
  · have hpage : client.ws.readyState ≠ .opened := fun hopens => hopen (h.readyState.symm.trans hopens)
    have hungUp : s.hungUp = { s with onclose := false }.cleanUp := by
      simp [Client.hungUp, hopen, hconnecting]
    have hgone : client.disconnected = { client with
        connected := false
        ws := { client.ws with onclose := false } } := by
      simp [Page.Client.disconnected, hpage]
    rw [if_neg hopen, hungUp, hgone]
    exact ⟨h.readyState, rfl, h.closeEvents, h.sent, h.counter, h.subscriptions, h.fresh⟩

/-- The page gives its client up, or fails to do so while it is connecting. -/
theorem matched_disconnect (h : Matched url read functions s) :
    Matched url read functions (run (call (pageEnv url read functions) .disconnect) s) := by
  obtain ⟨client, htold, hagrees⟩ := h
  obtain ⟨parts, hrun⟩ := run_disconnect s (pageEnv url read functions)
  have hsilent (thrown : Option JsError) :
      toldPage (s.trace ++ [.called .disconnect thrown]) = toldPage s.trace :=
    (toldPage_append s.trace _).trans (List.append_nil _)
  rw [hrun]
  by_cases hconnecting : s.readyState = .connecting
  · rw [if_pos hconnecting]
    exact ⟨client, (hsilent (some .invalidState)).symm ▸ htold, hagrees.of_eq rfl rfl rfl rfl rfl rfl⟩
  · have htells : PageTells read client [] client.disconnected := by
      refine .disconnected fun w old _ => ?_
      rw [Page.outcome_disconnect, if_neg (hagrees.readyState ▸ hconnecting)]
      rfl
    have htrace : toldPage ((if s.readyState = .opened then s.spoken ⟨literal "DISCONNECT", .empty, []⟩ parts
        else s).hungUp.record (.called .disconnect none)).trace = toldPage s.trace := by
      rw [← hsilent none]
      simp only [Client.record, Client.hungUp]
      split_ifs <;> rfl
    rw [if_neg hconnecting]
    refine ⟨client.disconnected, ?_, (hagrees.hungUp hconnecting parts).of_eq rfl rfl rfl rfl rfl rfl⟩
    rw [htrace]
    exact htold.silently htells

/-- What an interval does is not seen by the page. -/
theorem matched_tick (h : Matched url read functions s) (interval : Interval) :
    Matched url read functions (run (tick interval) s) := by
  cases hbeat : interval.beat with
  | ping =>
    rw [run, tick, hbeat]
    by_cases hopen : s.readyState = .opened
    · rw [outcome_wsSend hopen]
      exact h.of_eq rfl rfl rfl rfl rfl rfl rfl
    · by_cases hconnecting : s.readyState = .connecting
      · rw [outcome_wsSend_early hconnecting]
        exact h
      · rw [outcome_wsSend_late hconnecting hopen]
        exact h
  | pong =>
    rw [run, outcome_tick_pong hbeat]
    exact h

/-- One event at the client of the page. -/
theorem matched_step {l : Label} (h : Matched url read functions s)
    (hstep : step (pageEnv url read functions) s l = some t) (hl : l.OfPage) : Matched url read functions t := by
  cases l with
  | opened =>
    obtain ⟨hconnecting, -⟩ := Option.ite_none_right_eq_some.mp hstep
    obtain ⟨parts, -, hopened⟩ := exists_opened (pageEnv url read functions) hconnecting
    obtain rfl := Option.some.inj (hstep.symm.trans hopened)
    exact matched_opened h hconnecting parts
  | data data =>
    obtain ⟨hopen, hrun⟩ := Option.ite_none_right_eq_some.mp hstep
    obtain rfl := Option.some.inj hrun
    exact (serving_onmessage ⟨h, hopen⟩ data).1
  | lost =>
    obtain ⟨hlive, hrun⟩ := Option.ite_none_right_eq_some.mp hstep
    obtain rfl := Option.some.inj hrun
    exact matched_lost h hlive
  | closeEvent =>
    obtain ⟨hscheduled, hrun⟩ := Option.ite_none_right_eq_some.mp hstep
    obtain rfl := Option.some.inj hrun
    split
    next honclose => exact matched_closed h hscheduled honclose
    next honclose => exact matched_closedUnheard h hscheduled (by simpa using honclose)
  | tick id =>
    obtain ⟨interval, -, rfl⟩ := Option.map_eq_some_iff.mp hstep
    exact matched_tick h interval
  | call c =>
    obtain rfl : c = .disconnect := hl
    obtain rfl := Option.some.inj hstep
    exact matched_disconnect h

end Scripts

/-- The frames of the page are plain. -/
theorem Means.plain {frame : Frame} {sent : Page.Frame} (h : Means (pageEnv url read functions) frame sent) :
    frame.Plain := by
  cases h with
  | connect => exact plain_connectFrame Frame.plainHeaders_empty
  | subscribe n =>
    refine plain_of_command (by decide) (Frame.PlainHeaders.set ?_ (by decide) (by decide) (by decide)) List.not_mem_nil
    exact Frame.plainHeaders_empty.set (by decide) (by decide) (plainValue_numbered (by decide) n)
  | send =>
    exact plain_of_command (by decide) (Frame.plainHeaders_empty.set (by decide) (by decide) (by decide)) (by decide)
  | disconnect => exact plain_of_command (by decide) Frame.plainHeaders_empty List.not_mem_nil

/-- What the server reads in the text of a session is what the client of the page has sent. -/
theorem read_as_sent (hstreamed : s.Streamed) (hagrees : Agrees (pageEnv url read functions) s client) :
    List.Forall₂ (fun received sent => ∃ frame, Means (pageEnv url read functions) frame sent ∧ frame.ReadAs received)
      (Frame.unmarshall s.sent.flatten) client.ws.sent := by
  have hplain : ∀ frame ∈ s.transmitted, frame.Plain := by
    intro frame hmem
    obtain ⟨i, hi, rfl⟩ := List.mem_iff_getElem.mp hmem
    exact ((List.forall₂_iff_get.mp hagrees.sent).2 i hi (hagrees.sent.length_eq ▸ hi)).plain
  have hread := hstreamed.written.read hplain
  refine List.forall₂_iff_get.mpr ⟨hread.length_eq.symm.trans hagrees.sent.length_eq, fun i hi hi' => ?_⟩
  have hlength : i < s.transmitted.length := hread.length_eq ▸ hi
  exact ⟨s.transmitted.get ⟨i, hlength⟩, (List.forall₂_iff_get.mp hagrees.sent).2 i hlength hi',
    (List.forall₂_iff_get.mp hread).2 i hlength hi⟩

/-- Whatever happens at the client of the page, everything that its callbacks are told can be told, in the same
order, by the client with which the page is modelled; the two agree on everything that a script reads, and what the
server reads in the text of the session is what that client has sent. -/
theorem refines_page_client {history : List (TransitionSystem.Taken Client Label)}
    (h : (system (pageEnv url read functions)).Run history s)
    (hlabels : ∀ taken ∈ history, taken.label.OfPage) :
    ∃ client, PageTold read (toldPage s.trace) client ∧ Agrees (pageEnv url read functions) s client ∧
      List.Forall₂ (fun received sent => ∃ frame, Means (pageEnv url read functions) frame sent ∧ frame.ReadAs received)
        (Frame.unmarshall s.sent.flatten) client.ws.sent := by
  have hstreamed := (numbered_of_reachable ⟨history, h⟩).2
  have hmatched : Matched url read functions s := by
    clear hstreamed
    induction h with
    | start hs =>
      obtain rfl : _ = Client.new := hs
      exact ⟨.fresh, .fresh, rfl, rfl, rfl, .nil, rfl, rfl, by simp [Page.Client.fresh]⟩
    | snoc _ hstep ih =>
      have hbefore := ih fun taken hmem => hlabels taken (List.mem_append_left _ hmem)
      exact matched_step hbefore hstep (hlabels _ (List.mem_append_right _ List.mem_cons_self))
  obtain ⟨client, htold, hagrees⟩ := hmatched
  exact ⟨client, htold, hagrees, read_as_sent hstreamed hagrees⟩

/-- A replay of events at the page ends a run. -/
theorem exists_pageRun (url : String) (read : JsString → Option (JsonResult WebSocketDto))
    (functions : ℕ → JsString → FunctionProperty) (labels : List Label) {α : Type} (view : Client → α) {a : α}
    (h : (TransitionSystem.replay
      (fun s l => if l.OfPage then step (pageEnv url read functions) s l else none) .new labels).map view = some a) :
    ∃ history s, (system (pageEnv url read functions)).Run history s ∧ (∀ taken ∈ history, taken.label.OfPage) ∧
      view s = a := by
  have hnew : (system (pageEnv url read functions)).init .new := rfl
  exact TransitionSystem.exists_run_of_replay labels view hnew h

/-- The body of a broadcast. -/
def broadcastBody : JsString := literal "\x7b\"status\":\"SUCCESS\",\"data\":\x7b\"content\":\"a\"\x7d\x7d"

/-- What `JSON.parse` makes of it; it throws on an empty text. -/
def readBroadcast (body : JsString) : Option (JsonResult WebSocketDto) :=
  if body = broadcastBody then some (.of ⟨"a"⟩) else none

/-- The broadcast for the subscription of the page. -/
def pageMessage : JsString :=
  Frame.wire ⟨literal "MESSAGE", JsObject.empty.set (literal "subscription") (literal "sub-0"), broadcastBody⟩ 0

/-- A session of the page: it is connected, told of one message that it shows and of one that it cannot read, and
gives its client up. -/
theorem session_told_page : ∃ (s : Client) (client : Page.Client),
    s.transmitted.map Frame.command =
      [literal "CONNECT", literal "SUBSCRIBE", literal "SEND", literal "DISCONNECT"] ∧
    (toldPage s.trace).length = 3 ∧
    PageTold readBroadcast (toldPage s.trace) client ∧
    Agrees (pageEnv "/events" readBroadcast quiet.functions) s client ∧
    List.Forall₂ (fun received sent => ∃ frame, Means (pageEnv "/events" readBroadcast quiet.functions) frame sent ∧
        frame.ReadAs received)
      (Frame.unmarshall s.sent.flatten) client.ws.sent := by
  obtain ⟨history, s, hrun, hlabels, hview⟩ := exists_pageRun "/events" readBroadcast quiet.functions
    [.opened, .data (Frame.wire Frame.connectedFrame 1), .data pageMessage, .data listMessage, .call .disconnect]
    (fun s => (s.transmitted.map Frame.command, (toldPage s.trace).length))
    (a := ([literal "CONNECT", literal "SUBSCRIBE", literal "SEND", literal "DISCONNECT"], 3)) (by decide +kernel)
  obtain ⟨hcommands, hlength⟩ := Prod.mk.inj hview
  obtain ⟨client, hclient⟩ := refines_page_client hrun hlabels
  exact ⟨s, client, hcommands, hlength, hclient⟩

end Stomp

end EventMonitor
