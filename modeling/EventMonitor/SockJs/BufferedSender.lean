import EventMonitor.SockJs.Sessions

/-!
# How the transports without a WebSocket send

`BufferedSender` keeps what it is given while a request is under way, and for 25 ms after it, and
then posts it in one array. Whatever the times at which messages are given and requests answered,
the arrays contain what was given, once and in order; and a socket that is closed meanwhile does not
stop them.
-/

namespace EventMonitor

open Library JavaScript JsonText

namespace SockJs

/-- What `send_stop` would stop: a request, or the wait after one. -/
inductive SendStop
  | request
  | wait
  deriving DecidableEq, Repr

/-- A `BufferedSender`, with the bodies of its requests, what it has been given in all and how often it
has reported a failure to the socket. -/
structure BufferedSender where
  sendBuffer : List JsString
  sendStop : Option SendStop
  posted : List JsString
  given : List JsString
  failures : ℕ
  deriving DecidableEq, Repr

namespace BufferedSender

/-- `send_constructor`. -/
def new : BufferedSender := ⟨[], none, [], [], 0⟩

/-- `send_schedule`. -/
def sendSchedule (s : BufferedSender) : BufferedSender :=
  if s.sendBuffer.length > 0 then
    { s with
      posted := s.posted ++ [arrayText s.sendBuffer]
      sendStop := some .request
      sendBuffer := [] }
  else s

/-- `doSend`. -/
def doSend (message : JsString) (s : BufferedSender) : BufferedSender :=
  let buffered := { s with sendBuffer := s.sendBuffer ++ [message], given := s.given ++ [message] }
  if s.sendStop = none then buffered.sendSchedule else buffered

/-- `send_schedule_wait`. -/
def sendScheduleWait (s : BufferedSender) : BufferedSender := { s with sendStop := some .wait }

/-- The answer to a request; a failure is reported to the socket. -/
def onAnswer (success : Bool) (s : BufferedSender) : BufferedSender :=
  if success then { s with sendStop := none }.sendScheduleWait
  else { s with sendStop := none, failures := s.failures + 1 }

/-- The wait is over. -/
def onWait (s : BufferedSender) : BufferedSender := { s with sendStop := none }.sendSchedule

/-- What can happen to a sender. -/
inductive Label
  | doSend (message : JsString)
  | answer (success : Bool)
  | waited
  deriving DecidableEq, Repr

/-- One event at a sender; `none` when it is not possible. -/
def step (s : BufferedSender) : Label → Option BufferedSender
  | .doSend message => some (s.doSend message)
  | .answer success => if s.sendStop = some .request then some (s.onAnswer success) else none
  | .waited => if s.sendStop = some .wait then some s.onWait else none

/-- All runs of a sender. -/
def system : TransitionSystem BufferedSender Label := .ofStep (· = new) step

/-- A replay from a new sender ends in a reachable state. -/
theorem exists_reachable (labels : List Label) {α : Type} (view : BufferedSender → α) {a : α}
    (h : (TransitionSystem.replay step new labels).map view = some a) : ∃ s, system.Reachable s ∧ view s = a :=
  TransitionSystem.exists_reachable_of_replay labels view rfl h

/-- What has been posted are arrays, which together with the buffer are what has been given; and the
buffer is only left alone after a failure. -/
structure Posts (s : BufferedSender) (batches : List (List JsString)) : Prop where
  posted : s.posted = batches.map arrayText
  given : batches.flatten ++ s.sendBuffer = s.given
  nonempty : ∀ batch ∈ batches, batch ≠ []
  pending : s.sendStop = none → s.failures = 0 → s.sendBuffer = []

/-- `send_schedule` posts the buffer. -/
theorem posts_sendSchedule {s : BufferedSender} {batches : List (List JsString)}
    (hposted : s.posted = batches.map arrayText) (hgiven : batches.flatten ++ s.sendBuffer = s.given)
    (hnonempty : ∀ batch ∈ batches, batch ≠ []) : ∃ batches', s.sendSchedule.Posts batches' := by
  rw [sendSchedule]
  split
  next hlength =>
    refine ⟨batches ++ [s.sendBuffer], by simp [hposted], by simpa using hgiven, ?_, fun h => by simp at h⟩
    intro batch hmem
    rcases List.mem_append.mp hmem with hearlier | hlast
    · exact hnonempty batch hearlier
    · rw [List.mem_singleton.mp hlast]
      exact List.ne_nil_of_length_pos hlength
  next hlength =>
    exact ⟨batches, hposted, hgiven, hnonempty, fun _ _ => List.eq_nil_of_length_eq_zero (by omega)⟩

/-- Every event keeps what has been given together. -/
theorem posts_step {s t : BufferedSender} {l : Label} {batches : List (List JsString)} (hs : s.Posts batches)
    (h : step s l = some t) : ∃ batches', t.Posts batches' := by
  cases l with
  | doSend message =>
    obtain rfl := Option.some.inj h
    rw [doSend]
    split
    · have hgiven : batches.flatten ++ (s.sendBuffer ++ [message]) = s.given ++ [message] := by
        rw [← hs.given, List.append_assoc]
      exact posts_sendSchedule (s := ⟨_, _, _, _, _⟩) hs.posted hgiven hs.nonempty
    next hstop =>
      refine ⟨batches, hs.posted, ?_, hs.nonempty, fun hnone => absurd hnone hstop⟩
      rw [← hs.given, List.append_assoc]
  | answer success =>
    obtain ⟨-, hanswer⟩ := Option.ite_none_right_eq_some.mp h
    obtain rfl := Option.some.inj hanswer
    cases success with
    | true =>
      refine ⟨batches, hs.posted, hs.given, hs.nonempty, fun hnone => ?_⟩
      simp [onAnswer, sendScheduleWait] at hnone
    | false =>
      refine ⟨batches, hs.posted, hs.given, hs.nonempty, fun _ hfailures => ?_⟩
      simp [onAnswer] at hfailures
  | waited =>
    obtain ⟨-, hwaited⟩ := Option.ite_none_right_eq_some.mp h
    obtain rfl := Option.some.inj hwaited
    exact posts_sendSchedule hs.posted hs.given hs.nonempty

/-- What is posted is what has been given, once and in order, up to the buffer. -/
theorem exists_posts {s : BufferedSender} (h : system.Reachable s) : ∃ batches, s.Posts batches := by
  refine h.invariant (P := fun s => ∃ batches, s.Posts batches) ?_ ?_
  · rintro s rfl
    exact ⟨[], rfl, rfl, by simp, fun _ _ => rfl⟩
  · rintro s l t ⟨batches, hs⟩ hstep
    exact posts_step hs hstep

/-- An event that goes on with what has been given: a request succeeds, or a wait is over. -/
def Label.GoesOn : Label → Prop
  | .answer success => success
  | .waited => True
  | .doSend _ => False

/-- How far the buffer is from being posted. -/
def distance (s : BufferedSender) : ℕ :=
  if s.sendBuffer = [] then 0
  else match s.sendStop with
    | some .request => 2
    | some .wait => 1
    | none => 0

/-- The distance is at most a request and a wait. -/
theorem distance_le (s : BufferedSender) : s.distance ≤ 2 := by
  rw [distance]
  split
  · omega
  · split <;> omega

/-- What goes on with what has been given adds nothing to it. -/
theorem given_of_goesOn {s t : BufferedSender} {l : Label} (hl : l.GoesOn) (h : step s l = some t) :
    t.given = s.given := by
  cases l with
  | doSend message => exact hl.elim
  | answer success =>
    obtain ⟨-, hanswer⟩ := Option.ite_none_right_eq_some.mp h
    obtain rfl := Option.some.inj hanswer
    rw [onAnswer]
    split <;> rfl
  | waited =>
    obtain ⟨-, hwaited⟩ := Option.ite_none_right_eq_some.mp h
    obtain rfl := Option.some.inj hwaited
    rw [onWait, sendSchedule]
    split <;> rfl

/-- While something is buffered, an event that goes on brings it closer to being posted. -/
theorem exists_goesOn {s : BufferedSender} (h : system.Reachable s) (hfailures : s.failures = 0)
    (hbuffer : s.sendBuffer ≠ []) :
    ∃ l t, l.GoesOn ∧ step s l = some t ∧ t.failures = 0 ∧ t.distance < s.distance := by
  obtain ⟨batches, hposts⟩ := exists_posts h
  rcases hstop : s.sendStop with _ | _ | _
  · exact absurd (hposts.pending hstop hfailures) hbuffer
  · refine ⟨.answer true, _, rfl, if_pos hstop, hfailures, ?_⟩
    simp [distance, onAnswer, sendScheduleWait, hstop, hbuffer]
  · have hwaited : s.onWait = { s with
        posted := s.posted ++ [arrayText s.sendBuffer], sendStop := some .request, sendBuffer := [] } :=
      if_pos (List.length_pos_of_ne_nil hbuffer)
    refine ⟨.waited, _, trivial, if_pos hstop, ?_, ?_⟩
    · rw [hwaited]
      exact hfailures
    · rw [hwaited]
      simp [distance, hstop, hbuffer]

/-- Without a failure everything that has been given is posted when the request that is under way has
been answered and the wait after it is over. -/
theorem posted_in_the_end {s : BufferedSender} (h : system.Reachable s) (hfailures : s.failures = 0) :
    ∃ later t, system.Path s later t ∧ (∀ taken ∈ later, taken.label.GoesOn) ∧ later.length ≤ 2 ∧
      ∃ batches : List (List JsString), t.posted = batches.map arrayText ∧ batches.flatten = s.given := by
  obtain ⟨later, t, hpath, hlater, hlength, hbuffer⟩ :=
    h.exists_path (P := fun s => s.failures = 0)
      (fun _ hs hnone (hbuffer : ¬ _ = []) => exists_goesOn hs hnone hbuffer) hfailures
  have hgiven : t.given = s.given :=
    hpath.keeps fun taken hmem hstep => given_of_goesOn (hlater taken hmem) hstep
  obtain ⟨batches, hposts⟩ := exists_posts (h.append hpath)
  refine ⟨later, t, hpath, hlater, hlength.trans s.distance_le, batches, hposts.posted, ?_⟩
  rw [← hgiven, ← hposts.given, hbuffer, List.append_nil]

/-- Two messages that are given while the first one is under way. -/
theorem waiting_posted_in_the_end : ∃ s later t, system.Path s later t ∧ later.length ≤ 2 ∧
    ∃ batches : List (List JsString), t.posted = batches.map arrayText ∧
      batches.flatten = [literal "1", literal "2", literal "3"] := by
  obtain ⟨s, hs, hview⟩ := exists_reachable
    [.doSend (literal "1"), .doSend (literal "2"), .doSend (literal "3")] (fun s => (s.failures, s.given))
    (a := (0, [literal "1", literal "2", literal "3"])) (by decide)
  rw [Prod.mk.injEq] at hview
  obtain ⟨later, t, hpath, -, hlength, batches, hposted, hgiven⟩ := posted_in_the_end hs hview.1
  exact ⟨s, later, t, hpath, hlength, batches, hposted, hgiven.trans hview.2⟩

/-- Taking quoted messages apart gives the messages apart. -/
theorem exists_batches {α β : Type} (f : α → β) {batches : List (List β)} {rest : List β} {l : List α}
    (h : batches.flatten ++ rest = l.map f) :
    ∃ parts : List (List α), batches = parts.map (List.map f) ∧ ∃ later, parts.flatten ++ later = l ∧
      later.map f = rest := by
  induction batches generalizing l with
  | nil => exact ⟨[], rfl, l, rfl, h.symm⟩
  | cons batch batches ih =>
    rw [List.flatten_cons, List.append_assoc] at h
    obtain ⟨part, tail, rfl, rfl, htail⟩ := List.append_eq_map_iff.mp h
    obtain ⟨parts, rfl, later, rfl, hlater⟩ := ih htail.symm
    exact ⟨part :: parts, rfl, later, by simp, hlater⟩

end BufferedSender

/-- A transport that posts gets to the server what the user of its socket sends, once and in order: what
the server reads from the arrays is the beginning of it, and all of it when the buffer is empty and
the socket open. -/
theorem posted_in_order {env : Env} {s : Socket} (hs : (system env).Reachable s) {sender : BufferedSender}
    (hsender : BufferedSender.system.Reachable sender) (hgiven : sender.given = s.sent.map (·.2)) :
    ∃ batches : List (List JsString), sender.posted.map parseArray = batches.map some ∧
      batches.flatten <+: s.accepted ∧
        (sender.sendBuffer = [] → s.readyState = .opened → batches.flatten = s.accepted) := by
  obtain ⟨hdated, hhanded⟩ := handsOn_of_reachable hs
  obtain ⟨k, hsent, -⟩ := hhanded.exists_transport
  have hprefix : accepted s.untilClosed <+: s.accepted := (List.take_prefix _ _).filterMap _
  obtain ⟨arrays, hposts⟩ := BufferedSender.exists_posts hsender
  have harrays : arrays.flatten ++ sender.sendBuffer =
      (accepted s.untilClosed).map (quote env.browser.stringify) := by
    rw [hposts.given, hgiven, hsent, List.map_map]
    rfl
  obtain ⟨batches, rfl, later, hdata, hbuffer⟩ := BufferedSender.exists_batches _ harrays
  refine ⟨batches, ?_, ?_, fun hempty hopen => ?_⟩
  · have hread (batch : List JsString) :
        parseArray (arrayText (batch.map (quote env.browser.stringify))) = some batch :=
      parseArray_quoted env.browser.stringify batch
    rw [hposts.posted, List.map_map, List.map_map]
    exact List.map_congr_left fun batch _ => hread batch
  · exact (hdata ▸ List.prefix_append _ _).trans hprefix
  · rw [hempty, List.map_eq_nil_iff] at hbuffer
    rw [hdated.untilClosed_eq (by simp [hopen]), hbuffer, List.append_nil] at hdata
    exact hdata

/-- The greeting and a second message, which waits until the first one has been answered. -/
theorem greeting_posted_in_order : ∃ (s : Socket) (sender : BufferedSender) (batches : List (List JsString)),
    sender.posted.map parseArray = batches.map some ∧ batches.flatten <+: s.accepted ∧
      sender.posted = [literal "[\"hi\"]", literal "[\"a\",\"b\"]"] := by
  obtain ⟨history, s, hrun, hview⟩ := exists_run (greeting false) true
    [.info (some (⟨some true, false⟩, 10)), .frame 0 .o, .call (.send (literal "a")), .call (.send (literal "b"))]
    (fun s => s.sent.map (·.2)) (a := [literal "\"hi\"", literal "\"a\"", literal "\"b\""]) (by decide)
  obtain ⟨sender, hsender, hsent⟩ := BufferedSender.exists_reachable
    [.doSend (literal "\"hi\""), .doSend (literal "\"a\""), .doSend (literal "\"b\""), .answer true, .waited]
    (fun sender => (sender.given, sender.posted))
    (a := ([literal "\"hi\"", literal "\"a\"", literal "\"b\""], [literal "[\"hi\"]", literal "[\"a\",\"b\"]"]))
    (by decide)
  rw [Prod.mk.injEq] at hsent
  obtain ⟨batches, hread, hprefix, -⟩ := posted_in_order ⟨history, hrun⟩ hsender (hsent.1.trans hview.symm)
  exact ⟨s, sender, batches, hread, hprefix, hsent.2⟩

end SockJs

end EventMonitor
