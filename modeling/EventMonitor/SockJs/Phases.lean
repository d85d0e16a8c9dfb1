import EventMonitor.Library.Course
import EventMonitor.SockJs.Socket

/-!
# The phases of a socket

A socket that is connecting waits for the answer to `/info`, for a transport whose timer is running,
or for the document to be loaded. The moves below are all that the scripts do to it, and every
one of them leads from one phase to another. What has been told to the user goes with the
`readyState`: `open` first, then messages and heartbeats, and one close event at the end.
-/

namespace EventMonitor

open Library JavaScript

namespace SockJs

open Page (ReadyState)

/-- Messages and heartbeats. -/
def Callback.Quiet : Callback → Prop
  | .message _ | .heartbeat => True
  | .opened | .closed _ _ => False

namespace Socket

/-- Note what passes between the socket and the user. -/
def record (event : Event) (s : Socket) : Socket := { s with trace := s.trace ++ [event] }

/-- The socket is closed, and the close event scheduled. -/
def ended (event : CloseEvent) (lastEvent : Option CloseEvent) (s : Socket) : Socket :=
  { s with
    ir := false
    transport := none
    readyState := .closed
    closeEvents := s.closeEvents ++ [(event, lastEvent)]
    closedAt := some s.trace.length }

/-- Nothing is left of the transport and its timer. -/
def cleared (s : Socket) : Socket := { s.clearTref with ir := false, transport := none }

/-- The transport is opened, unless its constructor throws. -/
def opening (protocol : Protocol) (rest : List Protocol) (created : Bool) (s : Socket) : Socket :=
  { { s with protocols := rest }.startTimer (protocol.timeout s.rto) with
    transport := if created then some s.opened.length else s.transport
    opened := if created then s.opened ++ [protocol] else s.opened }

/-- The load event is dispatched. -/
def atLoad (s : Socket) : Socket := { s with loaded := true, loadListeners := 0 }

/-- The events that have been dispatched to the user. -/
def callbacks (s : Socket) : List Callback :=
  s.trace.filterMap fun
    | .callback event => some event
    | .called _ _ => none

/-- Nothing has been tried yet, and the answer to `/info` is still to come. -/
structure AwaitsInfo (s : Socket) : Prop where
  ir : s.ir = true
  opened : s.opened = []
  transport : s.transport = none
  transportTref : s.transportTref = none
  timers : s.timers = []
  loadListeners : s.loadListeners = 0

/-- A transport has been tried last, and its timer is running. -/
structure AwaitsTransport (s : Socket) : Prop where
  ir : s.ir = false
  running : ∃ timer, s.timers = [timer] ∧ s.transportTref = some timer.id
  transport : ∀ k, s.transport = some k → k + 1 = s.opened.length
  loadListeners : s.loadListeners = 0

/-- The next transport needs the body of the document, which is still to be loaded. -/
structure AwaitsLoad (s : Socket) : Prop where
  ir : s.ir = false
  protocols : s.protocols ≠ []
  transport : s.transport = none
  transportTref : s.transportTref = none
  timers : s.timers = []
  loadListeners : s.loadListeners = 1
  loaded : s.loaded = false

/-- A transport is open, and everything sent so far has gone to it. -/
structure IsOpen (s : Socket) (k : ℕ) : Prop where
  ir : s.ir = false
  transport : s.transport = some k
  last : k + 1 = s.opened.length
  transportTref : s.transportTref = none
  timers : s.timers = []
  loadListeners : s.loadListeners = 0
  sent : ∀ entry ∈ s.sent, entry.1 = k

/-- The socket is closed. A listener for the load event may be left, but then nothing has been sent. -/
structure IsClosed (s : Socket) : Prop where
  ir : s.ir = false
  sent : ∃ k, ∀ entry ∈ s.sent, entry.1 = k
  loadListeners : s.loadListeners = 0 ∨ s.loadListeners = 1 ∧ s.loaded = false ∧ s.sent = []

/-- The phases, by `readyState`; `CLOSING` does not outlive the script that sets it. -/
inductive Phase (s : Socket) : Prop
  | awaitsInfo (hstate : s.readyState = .connecting) (hsent : s.sent = []) (h : s.AwaitsInfo)
  | awaitsTransport (hstate : s.readyState = .connecting) (hsent : s.sent = []) (h : s.AwaitsTransport)
  | awaitsLoad (hstate : s.readyState = .connecting) (hsent : s.sent = []) (h : s.AwaitsLoad)
  | opened (hstate : s.readyState = .opened) (k : ℕ) (h : s.IsOpen k)
  | closed (hstate : s.readyState = .closed) (h : s.IsClosed)

/-- The invariant of a socket: its phase, and the transports that it tries one after the other. -/
structure Invariant (env : Env) (s : Socket) : Prop where
  phase : s.Phase
  order : (s.opened ++ s.protocols).Sublist Protocol.all
  enabled : ∀ protocol ∈ s.opened ++ s.protocols, protocol.enabled env.browser
  complete : s.loaded → s.complete

end Socket

/-- An attempt with the next transport: it has to wait for the document, or it is opened. -/
inductive Attempt (s : Socket) : Socket → Prop
  | waiting (protocol : Protocol) (rest : List Protocol) (hsuffix : protocol :: rest <:+ s.protocols)
      (hcomplete : s.complete = false) :
      Attempt s { s with protocols := protocol :: rest, loadListeners := s.loadListeners + 1 }
  | opening (protocol : Protocol) (rest : List Protocol) (hsuffix : protocol :: rest <:+ s.protocols)
      (created : Bool) : Attempt s (s.opening protocol rest created)

/-- A call without effect, and what it throws. -/
inductive Refused (s : Socket) : Call → Option JsError → Prop
  | badCode (code : Option ℤ) (reason : Option String) (hcode : code.getD 0 ≠ 0 ∧ ¬ userSetCode code) :
      Refused s (.close code reason) (some .invalidAccess)
  | closedBefore (code : Option ℤ) (reason : Option String) (hclosed : s.readyState = .closed) :
      Refused s (.close code reason) none
  | early (data : JsString) (hconnecting : s.readyState = .connecting) :
      Refused s (.send data) (some .invalidState)
  | late (data : JsString) (hclosed : s.readyState = .closed) : Refused s (.send data) none
  | throwing : Refused s .throwing (some .user)

/-- What the scripts do to a socket. -/
inductive Move (env : Env) (s : Socket) : Socket → Prop
  | informed (info : Info) (rtt : ℕ) (hir : s.ir = true) : Move env s (s.applyInfo env info rtt)
  | retried {t : Socket} (hconnecting : s.readyState = .connecting) (hlisteners : s.loadListeners = 0)
      (h : Attempt s.cleared t) : Move env s t
  | loaded {t : Socket} (hconnecting : s.readyState = .connecting) (hlisteners : s.loadListeners = 1)
      (hcomplete : s.complete) (h : Attempt s.atLoad t) : Move env s t
  | opened (k : ℕ) (hconnecting : s.readyState = .connecting) (htransport : s.transport = some k) :
      Move env s (Socket.record (.callback .opened) { s.clearTref with readyState := .opened })
  | received (event : Callback) (hevent : event.Quiet) (hopen : s.readyState = .opened) :
      Move env s (s.record (.callback event))
  | refused (c : Call) (thrown : Option JsError) (h : Refused s c thrown) :
      Move env s (s.record (.called c thrown))
  | sent (data : JsString) (k : ℕ) (hopen : s.readyState = .opened) (htransport : s.transport = some k) :
      Move env s (Socket.record (.called (.send data) none)
        { s with sent := s.sent ++ [(k, quote env.browser.stringify data)] })
  | installed (onclose : Bool) :
      Move env s (Socket.record (.called (.setOnclose onclose) none) { s with onclose := onclose })
  | closed (code : Option ℤ) (reason : Option String) (event : CloseEvent)
      (hlive : s.readyState = .connecting ∨ s.readyState = .opened) :
      Move env s ((s.ended event none).record (.called (.close code reason) none))
  | ended (event : CloseEvent) (hlive : s.readyState = .connecting ∨ s.readyState = .opened) :
      Move env s (s.ended event none)
  | exhausted (event lastEvent : CloseEvent) (hconnecting : s.readyState = .connecting) :
      Move env s (Socket.ended event (some lastEvent) { s.cleared with protocols := [] })
  | announced (event : CloseEvent) (lastEvent : Option CloseEvent) (rest : List (CloseEvent × Option CloseEvent))
      (hscheduled : s.closeEvents = (event, lastEvent) :: rest) :
      Move env s (Socket.record (.callback (.closed event lastEvent)) { s with closeEvents := rest })
  | timedOut (timers : List Timer) (hclosed : s.readyState = .closed) : Move env s { s with timers := timers }
  | completed : Move env s { s with complete := true }
  | loadedEarlier (hcomplete : s.complete) (hlisteners : s.loadListeners = 0) : Move env s s.atLoad

namespace Socket

/-- No transport, no timer and no listener is left, as it is before an attempt. -/
structure IsIdle (s : Socket) : Prop where
  ir : s.ir = false
  transport : s.transport = none
  transportTref : s.transportTref = none
  timers : s.timers = []
  loadListeners : s.loadListeners = 0

variable {s t : Socket}

/-- Before the first attempt. -/
theorem AwaitsInfo.isIdle (h : s.AwaitsInfo) : s.cleared.IsIdle where
  ir := rfl
  transport := rfl
  transportTref := rfl
  timers := by simp [cleared, clearTref, h.timers]
  loadListeners := h.loadListeners

/-- After an attempt that has failed. -/
theorem AwaitsTransport.isIdle (h : s.AwaitsTransport) : s.cleared.IsIdle where
  ir := rfl
  transport := rfl
  transportTref := rfl
  timers := by
    obtain ⟨timer, htimers, htref⟩ := h.running
    simp [cleared, clearTref, htimers, htref]
  loadListeners := h.loadListeners

/-- When the document has been loaded. -/
theorem AwaitsLoad.isIdle (h : s.AwaitsLoad) : s.atLoad.IsIdle where
  ir := h.ir
  transport := h.transport
  transportTref := h.transportTref
  timers := h.timers
  loadListeners := rfl

/-- An attempt leaves a socket that waits for it. -/
theorem IsIdle.attempt (h : s.IsIdle) (hattempt : Attempt s t) (hcomplete : s.loaded → s.complete) :
    t.AwaitsTransport ∨ t.AwaitsLoad := by
  cases hattempt with
  | waiting protocol rest hsuffix hnot =>
    right
    refine ⟨h.ir, List.cons_ne_nil _ _, h.transport, h.transportTref, h.timers, ?_, ?_⟩
    · simp [h.loadListeners]
    · by_contra hloaded
      rw [Bool.not_eq_false] at hloaded
      simp [hcomplete hloaded] at hnot
  | opening protocol rest hsuffix created =>
    left
    refine ⟨h.ir, ⟨⟨s.started, protocol.timeout s.rto⟩, ?_, rfl⟩, ?_, h.loadListeners⟩
    · simp [opening, startTimer, h.timers]
    · intro k hk
      cases created with
      | false => simp [opening, startTimer, h.transport] at hk
      | true => simp_all [opening, startTimer]

end Socket

/-- An attempt takes transports from the front of the list, and tells the user nothing. -/
theorem Attempt.kept {s t : Socket} (h : Attempt s t) :
    (t.opened ++ t.protocols).Sublist (s.opened ++ s.protocols) ∧ t.readyState = s.readyState ∧
      t.sent = s.sent ∧ t.trace = s.trace ∧ t.closeEvents = s.closeEvents ∧ t.complete = s.complete ∧
      t.loaded = s.loaded := by
  cases h with
  | waiting protocol rest hsuffix hnot =>
    exact ⟨(List.Sublist.refl _).append hsuffix.sublist, rfl, rfl, rfl, rfl, rfl, rfl⟩
  | opening protocol rest hsuffix created =>
    refine ⟨?_, rfl, rfl, rfl, rfl, rfl, rfl⟩
    cases created with
    | false =>
      exact (List.Sublist.refl _).append ((List.sublist_cons_self protocol rest).trans hsuffix.sublist)
    | true =>
      have hmoved : (s.opened ++ [protocol] ++ rest).Sublist (s.opened ++ s.protocols) := by
        rw [List.append_assoc]
        exact (List.Sublist.refl _).append hsuffix.sublist
      exact hmoved

/-- An attempt does not close the socket. -/
theorem Attempt.closedAt {s t : Socket} (h : Attempt s t) : t.closedAt = s.closedAt := by
  cases h <;> rfl

/-- An attempt does not touch the handler of close events. -/
theorem Attempt.onclose {s t : Socket} (h : Attempt s t) : t.onclose = s.onclose := by
  cases h <;> rfl

section Invariant

variable {env : Env} {s t : Socket}

/-- What stays of a socket that is closed in any phase. -/
theorem Socket.Phase.leaves (h : s.Phase) : (∃ k, ∀ entry ∈ s.sent, entry.1 = k) ∧
    (s.loadListeners = 0 ∨ s.loadListeners = 1 ∧ s.loaded = false ∧ s.sent = []) := by
  cases h with
  | awaitsInfo hstate hsent h => exact ⟨⟨0, by simp [hsent]⟩, .inl h.loadListeners⟩
  | awaitsTransport hstate hsent h => exact ⟨⟨0, by simp [hsent]⟩, .inl h.loadListeners⟩
  | awaitsLoad hstate hsent h => exact ⟨⟨0, by simp [hsent]⟩, .inr ⟨h.loadListeners, h.loaded, hsent⟩⟩
  | opened hstate k h => exact ⟨⟨k, h.sent⟩, .inl h.loadListeners⟩
  | closed hstate h => exact ⟨h.sent, h.loadListeners⟩

/-- The phase has nothing to do with the record, the close events and their handler, and the state of the
document. -/
theorem Socket.Phase.update (h : s.Phase) (complete onclose : Bool)
    (closeEvents : List (CloseEvent × Option CloseEvent)) (trace : List Event) :
    Phase { s with complete := complete, onclose := onclose, closeEvents := closeEvents, trace := trace } := by
  cases h with
  | awaitsInfo hstate hsent h => exact .awaitsInfo hstate hsent { h with }
  | awaitsTransport hstate hsent h => exact .awaitsTransport hstate hsent { h with }
  | awaitsLoad hstate hsent h => exact .awaitsLoad hstate hsent { h with }
  | opened hstate k h => exact .opened hstate k { h with }
  | closed hstate h => exact .closed hstate { h with }

/-- An attempt from an idle socket leads to one that waits for it. -/
theorem Socket.Invariant.attempt (hs : s.Invariant env) {idle : Socket} (hidle : idle.IsIdle)
    (hstate : idle.readyState = .connecting) (hsent : idle.sent = [])
    (horder : idle.opened ++ idle.protocols = s.opened ++ s.protocols) (hcomplete : idle.loaded → idle.complete)
    (h : Attempt idle t) : t.Invariant env := by
  obtain ⟨hsublist, htstate, htsent, -, -, htcomplete, htloaded⟩ := h.kept
  rw [horder] at hsublist
  refine ⟨?_, hsublist.trans hs.order, fun protocol hmem => hs.enabled protocol (hsublist.subset hmem), ?_⟩
  · rcases hidle.attempt h hcomplete with hwaits | hwaits
    · exact .awaitsTransport (htstate.trans hstate) (htsent.trans hsent) hwaits
    · exact .awaitsLoad (htstate.trans hstate) (htsent.trans hsent) hwaits
  · rw [htcomplete, htloaded]
    exact hcomplete

/-- While the socket is connecting, nothing has been sent. -/
theorem Socket.Phase.sent_of_connecting (h : s.Phase) (hconnecting : s.readyState = .connecting) :
    s.sent = [] := by
  cases h with
  | awaitsInfo hstate hsent h => exact hsent
  | awaitsTransport hstate hsent h => exact hsent
  | awaitsLoad hstate hsent h => exact hsent
  | opened hstate k h => simp [hstate] at hconnecting
  | closed hstate h => simp [hstate] at hconnecting

/-- While the socket is connecting and has no listener, whatever it waits for can be cleared. -/
theorem Socket.Phase.isIdle_cleared (h : s.Phase) (hconnecting : s.readyState = .connecting)
    (hlisteners : s.loadListeners = 0) : s.cleared.IsIdle := by
  cases h with
  | awaitsInfo hstate hsent h => exact h.isIdle
  | awaitsTransport hstate hsent h => exact h.isIdle
  | awaitsLoad hstate hsent h => simp [h.loadListeners] at hlisteners
  | opened hstate k h => simp [hstate] at hconnecting
  | closed hstate h => simp [hstate] at hconnecting

/-- A connecting socket with a listener waits for the document. -/
theorem Socket.Phase.awaitsLoad_of_listener (h : s.Phase) (hconnecting : s.readyState = .connecting)
    (hlisteners : s.loadListeners = 1) : s.AwaitsLoad := by
  cases h with
  | awaitsInfo hstate hsent h => simp [h.loadListeners] at hlisteners
  | awaitsTransport hstate hsent h => simp [h.loadListeners] at hlisteners
  | awaitsLoad hstate hsent h => exact h
  | opened hstate k h => simp [hstate] at hconnecting
  | closed hstate h => simp [hstate] at hconnecting

/-- A connecting socket with a transport waits for it. -/
theorem Socket.Phase.awaitsTransport_of_transport (h : s.Phase) (hconnecting : s.readyState = .connecting)
    {k : ℕ} (htransport : s.transport = some k) : s.AwaitsTransport := by
  cases h with
  | awaitsInfo hstate hsent h => simp [h.transport] at htransport
  | awaitsTransport hstate hsent h => exact h
  | awaitsLoad hstate hsent h => simp [h.transport] at htransport
  | opened hstate k h => simp [hstate] at hconnecting
  | closed hstate h => simp [hstate] at hconnecting

/-- A closed socket is in the phase of that name. -/
theorem Socket.Phase.isClosed (h : s.Phase) (hclosed : s.readyState = .closed) : s.IsClosed := by
  cases h with
  | awaitsInfo hstate hsent h => simp [hstate] at hclosed
  | awaitsTransport hstate hsent h => simp [hstate] at hclosed
  | awaitsLoad hstate hsent h => simp [hstate] at hclosed
  | opened hstate k h => simp [hstate] at hclosed
  | closed hstate h => exact h

/-- The answer to `/info` is only awaited at the beginning. -/
theorem Socket.Phase.awaitsInfo_of_ir (h : s.Phase) (hir : s.ir = true) :
    s.readyState = .connecting ∧ s.sent = [] ∧ s.AwaitsInfo := by
  cases h with
  | awaitsInfo hstate hsent h => exact ⟨hstate, hsent, h⟩
  | awaitsTransport hstate hsent h => simp [h.ir] at hir
  | awaitsLoad hstate hsent h => simp [h.ir] at hir
  | opened hstate k h => simp [h.ir] at hir
  | closed hstate h => simp [h.ir] at hir

/-- A load event without listeners. -/
theorem Socket.Phase.atLoad (h : s.Phase) (hlisteners : s.loadListeners = 0) : s.atLoad.Phase := by
  cases h with
  | awaitsInfo hstate hsent h => exact .awaitsInfo hstate hsent { h with loadListeners := rfl }
  | awaitsTransport hstate hsent h => exact .awaitsTransport hstate hsent { h with loadListeners := rfl }
  | awaitsLoad hstate hsent h => simp [h.loadListeners] at hlisteners
  | opened hstate k h => exact .opened hstate k { h with loadListeners := rfl }
  | closed hstate h => exact .closed hstate { h with loadListeners := .inl rfl }

/-- An open socket is in the phase of that name. -/
theorem Socket.Phase.isOpen (h : s.Phase) (hopen : s.readyState = .opened) {k : ℕ}
    (htransport : s.transport = some k) : s.IsOpen k := by
  cases h with
  | awaitsInfo hstate hsent h => simp [hstate] at hopen
  | awaitsTransport hstate hsent h => simp [hstate] at hopen
  | awaitsLoad hstate hsent h => simp [hstate] at hopen
  | opened hstate k' h =>
    obtain rfl : k' = k := by simpa [h.transport] using htransport
    exact h
  | closed hstate h => simp [hstate] at hopen

/-- Ending a socket keeps the invariant. -/
theorem Socket.Invariant.ended (hs : s.Invariant env) (event : CloseEvent) (lastEvent : Option CloseEvent) :
    (s.ended event lastEvent).Invariant env where
  phase := .closed rfl ⟨rfl, hs.phase.leaves.1, hs.phase.leaves.2⟩
  order := hs.order
  enabled := hs.enabled
  complete := hs.complete

/-- Every move leads from one phase to another. -/
theorem Move.invariant (h : Move env s t) (hs : s.Invariant env) : t.Invariant env := by
  cases h with
  | informed info rtt hir =>
    obtain ⟨hstate, hsent, hawaits⟩ := hs.phase.awaitsInfo_of_ir hir
    have hprotocols : (s.applyInfo env info rtt).opened ++ (s.applyInfo env info rtt).protocols =
        detectProtocols (Protocol.enabled env.browser) env.whitelist info (!env.browser.domain) := by
      simp [Socket.applyInfo, hawaits.opened]
    refine ⟨.awaitsInfo hstate hsent { hawaits with }, ?_, fun protocol hmem => ?_, hs.complete⟩
    · rw [hprotocols]
      exact detectProtocols_sublist _ _ _ _
    · rw [hprotocols] at hmem
      have hpermitted := permitted_of_mem _ _ _ _ hmem
      rw [permitted, Bool.and_eq_true] at hpermitted
      exact hpermitted.2
  | retried hconnecting hlisteners h =>
    exact hs.attempt (hs.phase.isIdle_cleared hconnecting hlisteners) hconnecting
      (hs.phase.sent_of_connecting hconnecting) rfl hs.complete h
  | loaded hconnecting hlisteners hcomplete h =>
    exact hs.attempt (hs.phase.awaitsLoad_of_listener hconnecting hlisteners).isIdle hconnecting
      (hs.phase.sent_of_connecting hconnecting) rfl (fun _ => hcomplete) h
  | opened k hconnecting htransport =>
    have hawaits := hs.phase.awaitsTransport_of_transport hconnecting htransport
    refine ⟨.opened rfl k ⟨hawaits.ir, htransport, hawaits.transport k htransport, rfl, hawaits.isIdle.timers,
      hawaits.loadListeners, ?_⟩, hs.order, hs.enabled, hs.complete⟩
    have hsent := hs.phase.sent_of_connecting hconnecting
    simp [Socket.record, Socket.clearTref, hsent]
  | received event hevent hopen => exact ⟨hs.phase.update _ _ _ _, hs.order, hs.enabled, hs.complete⟩
  | refused c thrown h => exact ⟨hs.phase.update _ _ _ _, hs.order, hs.enabled, hs.complete⟩
  | sent data k hopen htransport =>
    have hisOpen := hs.phase.isOpen hopen htransport
    refine ⟨.opened hopen k { hisOpen with sent := ?_ }, hs.order, hs.enabled, hs.complete⟩
    intro entry hmem
    rcases List.mem_append.mp hmem with hearlier | hlast
    · exact hisOpen.sent entry hearlier
    · rw [List.mem_singleton.mp hlast]
  | installed onclose => exact ⟨hs.phase.update _ _ _ _, hs.order, hs.enabled, hs.complete⟩
  | closed code reason event hlive =>
    have hended := hs.ended event none
    exact ⟨hended.phase.update _ _ _ _, hended.order, hended.enabled, hended.complete⟩
  | ended event hlive => exact hs.ended event none
  | exhausted event lastEvent hconnecting =>
    have hsublist : (s.opened ++ []).Sublist (s.opened ++ s.protocols) :=
      (List.Sublist.refl _).append (List.nil_sublist _)
    exact ⟨.closed rfl ⟨rfl, hs.phase.leaves.1, hs.phase.leaves.2⟩, hsublist.trans hs.order,
      fun protocol hmem => hs.enabled protocol (hsublist.subset hmem), hs.complete⟩
  | announced event lastEvent rest hscheduled =>
    exact ⟨hs.phase.update _ _ _ _, hs.order, hs.enabled, hs.complete⟩
  | timedOut timers hclosed =>
    exact ⟨.closed hclosed { hs.phase.isClosed hclosed with }, hs.order, hs.enabled, hs.complete⟩
  | completed => exact ⟨hs.phase.update _ _ _ _, hs.order, hs.enabled, fun _ => rfl⟩
  | loadedEarlier hcomplete hlisteners =>
    exact ⟨hs.phase.atLoad hlisteners, hs.order, hs.enabled, fun _ => hcomplete⟩

/-- What has been dispatched to the user, and what is still scheduled, by `readyState`. -/
inductive Told : ReadyState → List Callback → List (CloseEvent × Option CloseEvent) → Prop
  | connecting : Told .connecting [] []
  | opened (messages : List Callback) (hquiet : ∀ message ∈ messages, message.Quiet) :
      Told .opened (.opened :: messages) []
  | failed (event : CloseEvent) (lastEvent : Option CloseEvent) : Told .closed [] [(event, lastEvent)]
  | ended (messages : List Callback) (hquiet : ∀ message ∈ messages, message.Quiet) (event : CloseEvent)
      (lastEvent : Option CloseEvent) : Told .closed (.opened :: messages) [(event, lastEvent)]
  | failureTold (event : CloseEvent) (lastEvent : Option CloseEvent) :
      Told .closed [.closed event lastEvent] []
  | endTold (messages : List Callback) (hquiet : ∀ message ∈ messages, message.Quiet) (event : CloseEvent)
      (lastEvent : Option CloseEvent) : Told .closed (.opened :: messages ++ [.closed event lastEvent]) []

/-- A call is not a callback. -/
@[simp] theorem Socket.callbacks_called (c : Call) (thrown : Option JsError) :
    (s.record (.called c thrown)).callbacks = s.callbacks := by
  simp [Socket.callbacks, Socket.record]

/-- A callback is told last. -/
@[simp] theorem Socket.callbacks_callback (event : Callback) :
    (s.record (.callback event)).callbacks = s.callbacks ++ [event] := by
  simp [Socket.callbacks, Socket.record]

namespace Told

variable {state : ReadyState} {callbacks : List Callback} {closeEvents : List (CloseEvent × Option CloseEvent)}

/-- Ending a socket schedules the only close event. -/
theorem ended_of_live (h : Told state callbacks closeEvents) (hlive : state = .connecting ∨ state = .opened)
    (event : CloseEvent) (lastEvent : Option CloseEvent) :
    Told .closed callbacks (closeEvents ++ [(event, lastEvent)]) := by
  cases h with
  | connecting => exact .failed event lastEvent
  | opened messages hquiet => exact .ended messages hquiet event lastEvent
  | _ => simp at hlive

/-- A transport has opened. -/
theorem dispatchOpen (h : Told state callbacks closeEvents) (hconnecting : state = .connecting) :
    Told .opened (callbacks ++ [.opened]) closeEvents := by
  cases h with
  | connecting => exact .opened [] (by simp)
  | _ => simp at hconnecting

/-- A message or a heartbeat on an open socket. -/
theorem dispatchMessage (h : Told state callbacks closeEvents) (hopen : state = .opened) {event : Callback}
    (hevent : event.Quiet) : Told state (callbacks ++ [event]) closeEvents := by
  cases h with
  | opened messages hquiet =>
    apply Told.opened
    intro message hmem
    rcases List.mem_append.mp hmem with hearlier | hlast
    · exact hquiet message hearlier
    · exact List.mem_singleton.mp hlast ▸ hevent
  | _ => simp at hopen

/-- The close event is dispatched. -/
theorem dispatchClose {event : CloseEvent} {lastEvent : Option CloseEvent}
    {rest : List (CloseEvent × Option CloseEvent)} (h : Told state callbacks ((event, lastEvent) :: rest)) :
    Told state (callbacks ++ [.closed event lastEvent]) rest := by
  cases h with
  | failed => exact .failureTold event lastEvent
  | ended messages hquiet => exact .endTold messages hquiet event lastEvent

end Told

/-- Every move keeps the order of what the user is told. -/
theorem Move.told (h : Move env s t) (hs : Told s.readyState s.callbacks s.closeEvents) :
    Told t.readyState t.callbacks t.closeEvents := by
  cases h with
  | informed info rtt hir => exact hs
  | retried hconnecting hlisteners h =>
    obtain ⟨-, hstate, -, htrace, hevents, -, -⟩ := h.kept
    rw [hstate, hevents, Socket.callbacks, htrace]
    exact hs
  | loaded hconnecting hlisteners hcomplete h =>
    obtain ⟨-, hstate, -, htrace, hevents, -, -⟩ := h.kept
    rw [hstate, hevents, Socket.callbacks, htrace]
    exact hs
  | opened k hconnecting htransport =>
    rw [Socket.callbacks_callback]
    exact hs.dispatchOpen hconnecting
  | received event hevent hopen =>
    rw [Socket.callbacks_callback]
    exact hs.dispatchMessage hopen hevent
  | refused c thrown h =>
    rw [Socket.callbacks_called]
    exact hs
  | sent data k hopen htransport =>
    rw [Socket.callbacks_called]
    exact hs
  | installed onclose =>
    rw [Socket.callbacks_called]
    exact hs
  | closed code reason event hlive =>
    rw [Socket.callbacks_called]
    exact hs.ended_of_live hlive event none
  | ended event hlive => exact hs.ended_of_live hlive event none
  | exhausted event lastEvent hconnecting => exact hs.ended_of_live (.inl hconnecting) _ _
  | announced event lastEvent rest hscheduled =>
    rw [Socket.callbacks_callback]
    rw [hscheduled] at hs
    exact hs.dispatchClose
  | timedOut timers hclosed => exact hs
  | completed => exact hs
  | loadedEarlier hcomplete hlisteners => exact hs

end Invariant

end SockJs

end EventMonitor
