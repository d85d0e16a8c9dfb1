import EventMonitor.SockJs.Phases

/-!
# What one event does to a socket

Each script is a sequence of moves from every state that meets the invariant, wherever it ends; the
handlers of the user may make any calls on the way. The load event at a socket that is already
closed is the exception: the listener that is left tries the next transport all the same.
-/

namespace EventMonitor

open Library JavaScript

namespace SockJs

open Relation (ReflTransGen)

section Scripts

variable {env : Env} {s : Socket}

variable (env) in
/-- The first transport of the list is enabled, and decides how the attempt goes on. -/
theorem outcome_tryProtocols {protocol : Protocol} {rest : List Protocol}
    (hsuffix : protocol :: rest <:+ s.protocols) (henabled : protocol.enabled env.browser) :
    ∃ t, Attempt s t ∧ (Effect.outcome (tryProtocols env (protocol :: rest)) s = (.ok true, t) ∨
      Effect.outcome (tryProtocols env (protocol :: rest)) s = (.error .constructor, t)) := by
  rw [tryProtocols, Effect.outcome_bind, Effect.outcome_get]
  simp only []
  split
  next hbody =>
    rw [Bool.and_eq_true, Bool.not_eq_true'] at hbody
    exact ⟨_, .waiting protocol rest hsuffix hbody.2, .inl rfl⟩
  next =>
    refine ⟨_, .opening protocol rest hsuffix (env.construct s.started), ?_⟩
    rw [henabled]
    cases hconstruct : env.construct s.started with
    | true => exact .inl rfl
    | false => exact .inr rfl

/-- The loop of `_try_next_protocol`: no transport is left, or there is an attempt. -/
theorem outcome_tryProtocols_cases (henabled : ∀ protocol ∈ s.protocols, protocol.enabled env.browser) :
    Effect.outcome (tryProtocols env s.protocols) s = (.ok false, { s with protocols := [] }) ∨
      ∃ t, Attempt s t ∧ (Effect.outcome (tryProtocols env s.protocols) s = (.ok true, t) ∨
        Effect.outcome (tryProtocols env s.protocols) s = (.error .constructor, t)) := by
  rcases hprotocols : s.protocols with _ | ⟨protocol, rest⟩
  · exact .inl rfl
  · right
    have hfirst := henabled protocol (by simp [hprotocols])
    exact outcome_tryProtocols env (by rw [hprotocols]) hfirst

/-- `_try_next_protocol`. -/
theorem outcome_tryNextProtocol :
    Effect.outcome (tryNextProtocol env) s = Effect.outcome (tryProtocols env s.protocols) s.clearTref := by
  rw [tryNextProtocol, Effect.outcome_bind, Effect.outcome_modify]
  rfl

/-- `_didClose` on a closed socket throws. -/
theorem outcome_didClose_closed (code : Option ℤ) (reason : Option String) (force : Bool)
    (hclosed : s.readyState = .closed) :
    Effect.outcome (didClose env code reason force) s = (.error .invalidState, s) := by
  rw [didClose, Effect.outcome_bind, Effect.outcome_get]
  simp [hclosed]

/-- `_didClose` that tries no other transport. -/
theorem outcome_didClose_final (code : Option ℤ) (reason : Option String) (force : Bool)
    (hnotClosed : s.readyState ≠ .closed)
    (hfinal : (!userSetCode code && s.readyState = .connecting && !force) = false) :
    Effect.outcome (didClose env code reason force) s =
      (.ok (), s.ended ⟨code, reason, userSetCode code⟩ none) := by
  rw [didClose, Effect.outcome_bind, Effect.outcome_get]
  simp only [hnotClosed, if_false, Effect.outcome_bind, Effect.outcome_modify, hfinal, scheduleClose]
  rfl

/-- `_didClose` that tries the next transport. -/
theorem outcome_didClose_next (code : Option ℤ) (reason : Option String)
    (hconnecting : s.readyState = .connecting) (hcode : userSetCode code = false) :
    Effect.outcome (didClose env code reason false) s =
      match Effect.outcome (tryProtocols env s.cleared.protocols) s.cleared with
      | (.ok true, t) => (.ok (), t)
      | (.ok false, t) => (.ok (), { t with
          readyState := .closed
          closeEvents := t.closeEvents ++
            [(⟨some 2000, some "All transports failed", false⟩, some ⟨code, reason, userSetCode code⟩)]
          closedAt := some t.trace.length })
      | (.error e, t) => (.error e, t) := by
  have hnext : (!userSetCode code && decide (s.readyState = .connecting) && !false) = true := by
    simp [hconnecting, hcode]
  rw [didClose, Effect.outcome_bind, Effect.outcome_get]
  simp only []
  rw [if_neg (by simp [hconnecting]), if_pos hnext, Effect.outcome_bind, Effect.outcome_modify]
  simp only []
  rw [Effect.outcome_bind, Effect.outcome_modify]
  simp only []
  rw [Effect.outcome_bind]
  have htry : Effect.outcome (tryNextProtocol env) { s with ir := false, transport := none } =
      Effect.outcome (tryProtocols env s.cleared.protocols) s.cleared := outcome_tryNextProtocol
  rw [htry]
  rcases Effect.outcome (tryProtocols env s.cleared.protocols) s.cleared with ⟨_ | _ | _, t⟩ <;> rfl

/-- It ends the socket when no transport is left, or there is an attempt. -/
theorem didClose_next_cases (code : Option ℤ) (reason : Option String)
    (hconnecting : s.readyState = .connecting) (hcode : userSetCode code = false)
    (henabled : ∀ protocol ∈ s.protocols, protocol.enabled env.browser) :
    (Effect.outcome (didClose env code reason false) s).2 =
        Socket.ended ⟨some 2000, some "All transports failed", false⟩ (some ⟨code, reason, userSetCode code⟩)
          { s.cleared with protocols := [] } ∨
      Attempt s.cleared (Effect.outcome (didClose env code reason false) s).2 := by
  rw [outcome_didClose_next code reason hconnecting hcode]
  rcases outcome_tryProtocols_cases (s := s.cleared) henabled with hout | ⟨t, hattempt, hout | hout⟩
  · rw [hout]
    exact .inl rfl
  · rw [hout]
    exact .inr hattempt
  · rw [hout]
    exact .inr hattempt

/-- The invariant is kept by the moves. -/
theorem keeps : Effect.Keeps (Socket.Invariant env) (Move env) := fun _ _ hs h => h.invariant hs

/-- A socket that is open has a transport. -/
theorem Socket.Phase.send_cases (h : s.Phase) :
    s.readyState = .connecting ∨ (s.readyState = .opened ∧ ∃ k, s.transport = some k) ∨ s.readyState = .closed := by
  cases h with
  | awaitsInfo hstate hsent h => exact .inl hstate
  | awaitsTransport hstate hsent h => exact .inl hstate
  | awaitsLoad hstate hsent h => exact .inl hstate
  | opened hstate k h => exact .inr (.inl ⟨hstate, k, h.transport⟩)
  | closed hstate h => exact .inr (.inr hstate)

/-- `CLOSING` does not outlive the script that sets it. -/
theorem Socket.Phase.state_cases (h : s.Phase) :
    (s.readyState = .connecting ∨ s.readyState = .opened) ∨ s.readyState = .closed := by
  rcases h.send_cases with hconnecting | ⟨hopen, -⟩ | hclosed
  · exact .inl (.inl hconnecting)
  · exact .inl (.inr hopen)
  · exact .inr hclosed

variable (env) in
/-- A move of which the user learns nothing. -/
def Silent (s t : Socket) : Prop := Move env s t ∧ t.trace = s.trace

/-- Silent moves are moves. -/
theorem path_of_silent {t : Socket} (h : ReflTransGen (Silent env) s t) : ReflTransGen (Move env) s t :=
  ReflTransGen.mono (fun _ _ hmove => hmove.1) _ _ h

/-- `_didClose` in any state but that of a socket which waits for the document. -/
theorem path_didClose (hs : s.Invariant env) (code : Option ℤ) (reason : Option String) (force : Bool)
    (hlisteners : s.readyState = .connecting → s.loadListeners = 0) :
    ReflTransGen (Silent env) s (Effect.outcome (didClose env code reason force) s).2 := by
  rcases hs.phase.state_cases with hlive | hclosed
  · by_cases hfinal : (!userSetCode code && s.readyState = .connecting && !force) = false
    · rw [outcome_didClose_final code reason force (by rcases hlive with h | h <;> simp [h]) hfinal]
      exact .single ⟨.ended _ hlive, rfl⟩
    · have hnext : userSetCode code = false ∧ s.readyState = .connecting ∧ force = false := by
        simpa using hfinal
      obtain ⟨hcode, hconnecting, rfl⟩ := hnext
      have henabled : ∀ protocol ∈ s.protocols, protocol.enabled env.browser :=
        fun protocol hmem => hs.enabled protocol (List.mem_append_right _ hmem)
      rcases didClose_next_cases code reason hconnecting hcode henabled with hended | hattempt
      · rw [hended]
        exact .single ⟨.exhausted _ _ hconnecting, rfl⟩
      · exact .single ⟨.retried hconnecting (hlisteners hconnecting) hattempt, hattempt.kept.2.2.2.1⟩
  · rw [outcome_didClose_closed code reason force hclosed]

variable (env) in
/-- `close` on a socket that is connecting or open. -/
theorem outcome_close_live (code : Option ℤ) (reason : Option String)
    (hcode : ¬ (code.getD 0 ≠ 0 ∧ ¬ userSetCode code))
    (hlive : s.readyState = .connecting ∨ s.readyState = .opened) :
    ∃ event, Effect.outcome (close env code reason) s = (.ok (), s.ended event none) := by
  rw [close, if_neg hcode, Effect.outcome_bind, Effect.outcome_get]
  simp only []
  rw [if_pos hlive, Effect.outcome_bind, Effect.outcome_modify]
  simp only []
  rw [outcome_didClose_final (s := { s with readyState := .closing }) _ _ _ (by simp) (by simp)]
  exact ⟨_, rfl⟩

/-- `close` on a socket that is closed. -/
theorem outcome_close_closed (code : Option ℤ) (reason : Option String)
    (hcode : ¬ (code.getD 0 ≠ 0 ∧ ¬ userSetCode code)) (hclosed : s.readyState = .closed) :
    Effect.outcome (close env code reason) s = (.ok (), s) := by
  rw [close, if_neg hcode, Effect.outcome_bind, Effect.outcome_get]
  simp [hclosed]

/-- `close` with a code that is not for users. -/
theorem outcome_close_refused (code : Option ℤ) (reason : Option String)
    (hcode : code.getD 0 ≠ 0 ∧ ¬ userSetCode code) :
    Effect.outcome (close env code reason) s = (.error .invalidAccess, s) := by
  rw [close, if_pos hcode]
  rfl

/-- `send` on a socket that is connecting. -/
theorem outcome_send_early (data : JsString) (hconnecting : s.readyState = .connecting) :
    Effect.outcome (send env data) s = (.error .invalidState, s) := by
  rw [send, Effect.outcome_bind, Effect.outcome_get]
  simp [hconnecting]

/-- `send` on an open socket. -/
theorem outcome_send (data : JsString) (hopen : s.readyState = .opened) {k : ℕ} (htransport : s.transport = some k) :
    Effect.outcome (send env data) s =
      (.ok (), { s with sent := s.sent ++ [(k, quote env.browser.stringify data)] }) := by
  rw [send, Effect.outcome_bind, Effect.outcome_get]
  simp only [hopen, htransport, Effect.outcome_modify]

/-- `send` on a closed socket. -/
theorem outcome_send_late (data : JsString) (hclosed : s.readyState = .closed) :
    Effect.outcome (send env data) s = (.ok (), s) := by
  rw [send, Effect.outcome_bind, Effect.outcome_get]
  simp [hclosed]

/-- A call is recorded with what it throws. -/
theorem outcome_call (c : Call) :
    Effect.outcome (call env c) s =
      match Effect.outcome (perform env c) s with
      | (.ok (), t) => (.ok (), t.record (.called c none))
      | (.error e, t) => (.error e, t.record (.called c (some e))) := by
  rw [call, Effect.outcome_tryCatch, Effect.outcome_bind]
  rcases Effect.outcome (perform env c) s with ⟨_ | _, t⟩ <;> rfl

/-- What a call of the user does. -/
theorem move_call (hs : s.Invariant env) (c : Call) : Move env s (Effect.outcome (call env c) s).2 := by
  rw [outcome_call]
  cases c with
  | close code reason =>
    by_cases hcode : code.getD 0 ≠ 0 ∧ ¬ userSetCode code
    · rw [perform, outcome_close_refused code reason hcode]
      exact .refused _ _ (.badCode code reason hcode)
    rcases hs.phase.state_cases with hlive | hclosed
    · obtain ⟨event, hout⟩ := outcome_close_live env code reason hcode hlive
      rw [perform, hout]
      exact .closed code reason event hlive
    · rw [perform, outcome_close_closed code reason hcode hclosed]
      exact .refused _ _ (.closedBefore code reason hclosed)
  | send data =>
    rcases hs.phase.send_cases with hconnecting | ⟨hopen, k, htransport⟩ | hclosed
    · rw [perform, outcome_send_early data hconnecting]
      exact .refused _ _ (.early data hconnecting)
    · rw [perform, outcome_send data hopen htransport]
      exact .sent data k hopen htransport
    · rw [perform, outcome_send_late data hclosed]
      exact .refused _ _ (.late data hclosed)
  | setOnclose installed => exact .installed installed
  | throwing => exact .refused _ _ .throwing

/-- The handlers of the user may make any calls. -/
theorem follows_handlers (calls : List Call) :
    Effect.Follows (Socket.Invariant env) (Move env) (calls.forM (call env)) :=
  .forM keeps (fun c _ hs => .single (move_call hs c)) calls

variable (env) in
/-- An event is dispatched: it is recorded, and the handlers run if it is heard. -/
theorem outcome_dispatchEvent (event : Callback) :
    Effect.outcome (dispatchEvent env event) s =
      if s.hears event then
        Effect.outcome ((env.handlers (s.trace ++ [.callback event])).forM (call env)) (s.record (.callback event))
      else (.ok (), s.record (.callback event)) := by
  have hheard : (s.record (.callback event)).hears event = s.hears event := by cases event <;> rfl
  rw [dispatchEvent, Effect.outcome_bind, Effect.outcome_modify]
  simp only []
  rw [Effect.outcome_bind, Effect.outcome_get, ← hheard]
  change Effect.outcome (if (s.record (.callback event)).hears event then _ else _) _ = _
  split <;> rfl

/-- An event is dispatched, and the handlers run. -/
theorem path_dispatchEvent {event : Callback} {t : Socket} (hs : t.Invariant env)
    (hmove : Move env t (s.record (.callback event))) :
    ReflTransGen (Move env) t (Effect.outcome (dispatchEvent env event) s).2 := by
  rw [outcome_dispatchEvent]
  split
  · exact .head hmove (follows_handlers _ _ (hmove.invariant hs))
  · exact .single hmove

/-- `_dispatchMessage` and `_dispatchHeartbeat`. -/
theorem follows_dispatchWhenOpen (event : Callback) (hevent : event.Quiet) :
    Effect.Follows (Socket.Invariant env) (Move env) (dispatchWhenOpen env event) := by
  apply Effect.Follows.get_bind
  intro s hs
  split
  next hopen => exact path_dispatchEvent hs (.received event hevent hopen)
  next => exact .refl

/-- `_dispatchOpen`, called by the current transport. -/
theorem path_dispatchOpen (hs : s.Invariant env) {k : ℕ} (htransport : s.transport = some k)
    (hlisteners : s.readyState = .connecting → s.loadListeners = 0) :
    ReflTransGen (Move env) s (Effect.outcome (dispatchOpen env) s).2 := by
  rw [dispatchOpen, Effect.outcome_bind, Effect.outcome_get]
  simp only []
  split
  next hconnecting =>
    rw [Effect.outcome_bind, Effect.outcome_modify]
    simp only []
    rw [Effect.outcome_bind, Effect.outcome_modify]
    exact path_dispatchEvent hs (.opened k hconnecting htransport)
  next => exact path_of_silent (path_didClose hs _ _ _ hlisteners)

/-- A transport reports that it has failed. -/
theorem path_failed (hs : s.Invariant env) {k : ℕ} (hfailed : s.transport = some k ∨ s.posts k) (reason : String) :
    ReflTransGen (Silent env) s (run (didClose env (some 1006) (some reason) false) s) := by
  apply path_didClose hs
  intro hconnecting
  rcases hfailed with htransport | hposts
  · exact (hs.phase.awaitsTransport_of_transport hconnecting htransport).loadListeners
  · simp [Socket.posts, hs.phase.sent_of_connecting hconnecting] at hposts

/-- `_didMessage`, called by the current transport. -/
theorem path_didMessage (hs : s.Invariant env) {k : ℕ} (htransport : s.transport = some k) (frame : ServerFrame) :
    ReflTransGen (Move env) s (Effect.outcome (didMessage env frame) s).2 := by
  have hlisteners (hconnecting : s.readyState = .connecting) : s.loadListeners = 0 :=
    (hs.phase.awaitsTransport_of_transport hconnecting htransport).loadListeners
  cases frame with
  | o => exact path_dispatchOpen hs htransport hlisteners
  | a payload =>
    have hmessages (data : JsString) : Effect.Follows (Socket.Invariant env) (Move env) (dispatchMessage env data) :=
      follows_dispatchWhenOpen (.message data) trivial
    exact Effect.Follows.forM keeps hmessages payload s hs
  | m payload => exact follows_dispatchWhenOpen (.message payload) trivial s hs
  | c code reason => exact path_of_silent (path_didClose hs code reason false hlisteners)
  | h => exact follows_dispatchWhenOpen .heartbeat trivial s hs
  | malformed => exact .refl
  | unknown => exact .refl

/-- `_ir.onfinish`. -/
theorem path_onInfo (hs : s.Invariant env) (hir : s.ir = true) (answer : Option (Info × ℕ)) :
    ReflTransGen (Silent env) s (Effect.outcome (onInfo env answer) s).2 := by
  obtain ⟨hconnecting, -, hawaits⟩ := hs.phase.awaitsInfo_of_ir hir
  cases answer with
  | none =>
    have hmove : Move env s (s.ended ⟨some 1002, some "Can't connect to server", userSetCode (some 1002)⟩ none) :=
      .ended _ (.inl hconnecting)
    rw [onInfo, Effect.outcome_bind, Effect.outcome_modify]
    simp only []
    rw [outcome_didClose_final (s := { s with ir := false }) _ _ _ (by simp [hconnecting]) (by simp)]
    exact .single ⟨hmove, rfl⟩
  | some answer =>
    obtain ⟨info, rtt⟩ := answer
    generalize hrtt : (if env.rtt.getD 0 ≠ 0 then env.rtt.getD 0 else rtt) = rtt'
    have hinformed : Move env s (s.applyInfo env info rtt') := .informed info rtt' hir
    -- `_ir` is null by now, but `_didClose` is going to make it so all the same.
    have hout : (Effect.outcome (onInfo env (some (info, rtt))) s).2 =
        (Effect.outcome (didClose env none none false) (s.applyInfo env info rtt')).2 := by
      rw [onInfo, Effect.outcome_bind, Effect.outcome_modify]
      simp only [hrtt]
      rw [Effect.outcome_bind, Effect.outcome_modify]
      simp only []
      rw [outcome_didClose_next (s := Socket.applyInfo env info rtt' { s with ir := false }) none none
        hconnecting rfl, outcome_didClose_next (s := s.applyInfo env info rtt') none none hconnecting rfl]
      rfl
    rw [hout]
    exact .head ⟨hinformed, rfl⟩ (path_didClose (hinformed.invariant hs) _ _ _ fun _ => hawaits.loadListeners)

/-- The transport that is waited for has not opened in time. -/
theorem onTimeout_cases (hs : s.Invariant env) (hconnecting : s.readyState = .connecting)
    (h : s.AwaitsTransport) (id : ℕ) :
    (∃ event lastEvent, run (onTimeout env) { s with timers := s.timers.filter (·.id ≠ id) } =
        Socket.ended event (some lastEvent) { s.cleared with protocols := [] }) ∨
      Attempt s.cleared (run (onTimeout env) { s with timers := s.timers.filter (·.id ≠ id) }) := by
  obtain ⟨timer, htimers, htref⟩ := h.running
  have hcleared : Socket.cleared { s with timers := s.timers.filter (·.id ≠ id) } = s.cleared := by
    simp [Socket.cleared, Socket.clearTref, htimers, htref]
  have hout : Effect.outcome (onTimeout env) { s with timers := s.timers.filter (·.id ≠ id) } =
      Effect.outcome (didClose env (some 2007) (some "Transport timeouted") false)
        { s with timers := s.timers.filter (·.id ≠ id) } := by
    rw [onTimeout, Effect.outcome_bind, Effect.outcome_get]
    simp only []
    rw [if_pos hconnecting]
  have henabled : ∀ protocol ∈ s.protocols, protocol.enabled env.browser :=
    fun protocol hmem => hs.enabled protocol (List.mem_append_right _ hmem)
  have hcases := didClose_next_cases (s := { s with timers := s.timers.filter (·.id ≠ id) }) (some 2007)
    (some "Transport timeouted") hconnecting (by decide) henabled
  rw [← hout, hcleared] at hcases
  exact hcases.imp_left fun hended => ⟨_, _, hended⟩

/-- The timer of a transport. -/
theorem path_onTimeout (hs : s.Invariant env) {id : ℕ} (hid : s.timers.any (·.id = id)) :
    ReflTransGen (Silent env) s (run (onTimeout env) { s with timers := s.timers.filter (·.id ≠ id) }) := by
  have hnone (htimers : s.timers = []) : False := by simp [htimers] at hid
  cases hs.phase with
  | awaitsTransport hconnecting hsent h =>
    rcases onTimeout_cases hs hconnecting h id with ⟨event, lastEvent, hended⟩ | hattempt
    · rw [hended]
      exact .single ⟨.exhausted event lastEvent hconnecting, rfl⟩
    · exact .single ⟨.retried hconnecting h.loadListeners hattempt, hattempt.kept.2.2.2.1⟩
  | closed hclosed h =>
    have hout : Effect.outcome (onTimeout env) { s with timers := s.timers.filter (·.id ≠ id) } =
        (.ok (), { s with timers := s.timers.filter (·.id ≠ id) }) := by
      rw [onTimeout, Effect.outcome_bind, Effect.outcome_get]
      simp [hclosed]
    rw [run, hout]
    exact .single ⟨.timedOut _ hclosed, rfl⟩
  | awaitsInfo hstate hsent h => exact (hnone h.timers).elim
  | awaitsLoad hstate hsent h => exact (hnone h.timers).elim
  | opened hstate k h => exact (hnone h.timers).elim

/-- The load event that a socket waits for. -/
theorem attempt_load (hs : s.Invariant env) (h : s.AwaitsLoad) :
    Attempt s.atLoad (run (tryNextProtocol env) s.atLoad) := by
  have henabled : ∀ protocol ∈ s.protocols, protocol.enabled env.browser :=
    fun protocol hmem => hs.enabled protocol (List.mem_append_right _ hmem)
  have hcleared : s.atLoad.clearTref = s.atLoad := by
    simp [Socket.clearTref, Socket.atLoad, h.timers, h.transportTref]
  have hprotocols : s.atLoad.protocols = s.protocols := rfl
  obtain ⟨protocol, rest, hlist⟩ := List.exists_cons_of_ne_nil h.protocols
  have hfirst := henabled protocol (by simp [hlist])
  obtain ⟨t, hattempt, hout⟩ := outcome_tryProtocols (s := s.atLoad) env
    (by rw [hprotocols, hlist]) hfirst
  have hrun : run (tryNextProtocol env) s.atLoad = t := by
    rw [run, outcome_tryNextProtocol, hcleared, hprotocols, hlist]
    rcases hout with hout | hout <;> rw [hout]
  rw [hrun]
  exact hattempt

/-- The load event at a closed socket on which a listener is left. -/
structure Revived (s t : Socket) : Prop where
  readyState : t.readyState = s.readyState
  ir : t.ir = s.ir
  order : (t.opened ++ t.protocols).Sublist (s.opened ++ s.protocols)
  sent : t.sent = s.sent
  trace : t.trace = s.trace
  closeEvents : t.closeEvents = s.closeEvents
  onclose : t.onclose = s.onclose
  closedAt : t.closedAt = s.closedAt
  complete : t.complete = s.complete
  loadListeners : t.loadListeners = 0

/-- The listener tries the next transport although the socket is closed. -/
theorem revived_load (hs : s.Invariant env) (hcomplete : s.complete) :
    Revived s (run (tryNextProtocol env) s.atLoad) := by
  have henabled : ∀ protocol ∈ s.protocols, protocol.enabled env.browser :=
    fun protocol hmem => hs.enabled protocol (List.mem_append_right _ hmem)
  rw [run, outcome_tryNextProtocol]
  rcases outcome_tryProtocols_cases (s := s.atLoad.clearTref) henabled with hout | ⟨t, hattempt, hout⟩
  · change Revived s (Effect.outcome (tryProtocols env s.atLoad.clearTref.protocols) s.atLoad.clearTref).2
    rw [hout]
    exact ⟨rfl, rfl, (List.Sublist.refl _).append (List.nil_sublist _), rfl, rfl, rfl, rfl, rfl, rfl, rfl⟩
  · have hrun : (Effect.outcome (tryProtocols env s.atLoad.protocols) s.atLoad.clearTref).2 = t := by
      change (Effect.outcome (tryProtocols env s.atLoad.clearTref.protocols) s.atLoad.clearTref).2 = t
      rcases hout with hout | hout <;> rw [hout]
    rw [hrun]
    cases hattempt with
    | waiting protocol rest hsuffix hnot =>
      have hcontra : s.complete = false := hnot
      simp [hcomplete] at hcontra
    | opening protocol rest hsuffix created =>
      obtain ⟨hsublist, -⟩ := (Attempt.opening (s := s.atLoad.clearTref) protocol rest hsuffix created).kept
      exact ⟨rfl, rfl, hsublist, rfl, rfl, rfl, rfl, rfl, rfl, rfl⟩

/-- The load event at a socket. -/
theorem load_cases (hs : s.Invariant env) (hcomplete : s.complete) :
    ReflTransGen (Silent env) s ((run (tryNextProtocol env))^[s.loadListeners] s.atLoad) ∨
      s.readyState = .closed ∧ Revived s ((run (tryNextProtocol env))^[s.loadListeners] s.atLoad) := by
  have hnone (hlisteners : s.loadListeners = 0) :
      ReflTransGen (Silent env) s ((run (tryNextProtocol env))^[s.loadListeners] s.atLoad) := by
    rw [hlisteners]
    exact .single ⟨.loadedEarlier hcomplete hlisteners, rfl⟩
  cases hs.phase with
  | awaitsInfo hstate hsent h => exact .inl (hnone h.loadListeners)
  | awaitsTransport hstate hsent h => exact .inl (hnone h.loadListeners)
  | awaitsLoad hstate hsent h =>
    rw [h.loadListeners]
    have hattempt := attempt_load hs h
    exact .inl (.single ⟨.loaded hstate h.loadListeners hcomplete hattempt, hattempt.kept.2.2.2.1⟩)
  | opened hstate k h => exact .inl (hnone h.loadListeners)
  | closed hstate h =>
    rcases h.loadListeners with hlisteners | ⟨hlisteners, -⟩
    · exact .inl (hnone hlisteners)
    · rw [hlisteners]
      exact .inr ⟨hstate, revived_load hs hcomplete⟩

/-- It stays closed. -/
theorem Revived.invariant {t : Socket} (h : Revived s t) (hs : s.Invariant env)
    (hclosed : s.readyState = .closed) (hcomplete : s.complete) : t.Invariant env := by
  have hisClosed := hs.phase.isClosed hclosed
  refine ⟨.closed (h.readyState.trans hclosed) ⟨h.ir.trans hisClosed.ir, ?_, .inl h.loadListeners⟩,
    h.order.trans hs.order, fun protocol hmem => hs.enabled protocol (h.order.subset hmem), ?_⟩
  · rw [h.sent]
    exact hisClosed.sent
  · rw [h.complete]
    exact fun _ => hcomplete

/-- One event at a socket is a sequence of moves, or the load event after it has been closed. -/
theorem step_cases {l : Label} {t : Socket} (hs : s.Invariant env) (h : step env s l = some t) :
    ReflTransGen (Move env) s t ∨ l = .load ∧ s.readyState = .closed ∧ s.complete ∧ Revived s t := by
  cases l with
  | info answer =>
    obtain ⟨hir, hrun⟩ := Option.ite_none_right_eq_some.mp h
    obtain rfl := Option.some.inj hrun
    exact .inl (path_of_silent (path_onInfo hs hir answer))
  | frame k frame =>
    obtain ⟨htransport, hrun⟩ := Option.ite_none_right_eq_some.mp h
    obtain rfl := Option.some.inj hrun
    exact .inl (path_didMessage hs htransport frame)
  | failed k reason =>
    obtain ⟨hfailed, hrun⟩ := Option.ite_none_right_eq_some.mp h
    obtain rfl := Option.some.inj hrun
    exact .inl (path_of_silent (path_failed hs hfailed reason))
  | timer id =>
    obtain ⟨hid, hrun⟩ := Option.ite_none_right_eq_some.mp h
    obtain rfl := Option.some.inj hrun
    exact .inl (path_of_silent (path_onTimeout hs hid))
  | call c =>
    obtain rfl := Option.some.inj h
    exact .inl (.single (move_call hs c))
  | closeEvent =>
    rw [step] at h
    rcases hscheduled : s.closeEvents with _ | ⟨⟨event, lastEvent⟩, rest⟩
    · simp [hscheduled] at h
    · simp only [hscheduled, Option.some.injEq] at h
      rw [← h]
      exact .inl (path_dispatchEvent hs (.announced event lastEvent rest hscheduled))
  | complete =>
    obtain rfl := Option.some.inj h
    exact .inl (.single .completed)
  | load =>
    obtain ⟨hcondition, hrun⟩ := Option.ite_none_right_eq_some.mp h
    obtain rfl := Option.some.inj hrun
    rw [Bool.and_eq_true] at hcondition
    rcases load_cases hs hcondition.1 with hpath | ⟨hclosed, hlate⟩
    · exact .inl (path_of_silent hpath)
    · exact .inr ⟨rfl, hclosed, hcondition.1, hlate⟩

end Scripts

end SockJs

end EventMonitor
