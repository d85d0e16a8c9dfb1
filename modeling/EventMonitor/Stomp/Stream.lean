import EventMonitor.Stomp.Outcomes
import EventMonitor.Stomp.PlainCalls

/-!
# What the server reads of a session

Everything that a client hands to its socket is one text: the parts of the frames, and a line break for
each ping. The server reads in it a CONNECT frame and the frames of the calls of the user that have not
been refused, in the order of the calls and with the numbers that the client has given them, up to the moment
at which the socket is closed; calls behind it are accepted as well, and dropped.
-/

namespace EventMonitor

open Library JavaScript

namespace Stomp

open Page (ReadyState)

variable {env : Env} {s t : Client}

/-- The number that the next call will be given. -/
def numberAfter (counter : ℕ) : List Event → ℕ
  | [] => counter
  | .callback _ :: trace | .lost :: trace => numberAfter counter trace
  | .called c _ :: trace => numberAfter (c.next counter) trace

/-- The frames of the calls that have not thrown. -/
def frames (counter : ℕ) : List Event → List Frame
  | [] => []
  | .callback _ :: trace | .lost :: trace => frames counter trace
  | .called c none :: trace => (c.frame counter).toList ++ frames (c.next counter) trace
  | .called c (some _) :: trace => frames (c.next counter) trace

/-- The event closes the socket: the user has disconnected, or the connection has been lost. -/
def Event.Closes : Event → Prop
  | .called .disconnect none | .lost => True
  | _ => False

instance : DecidablePred Event.Closes
  | .callback _ => .isFalse id
  | .called .disconnect none => .isTrue trivial
  | .called .disconnect (some _) => .isFalse id
  | .called (.send _ _ _) _ | .called (.subscribe _ _ _) _ | .called (.unsubscribe _) _ | .called (.begin _) _
  | .called (.commit _) _ | .called (.abort _) _ | .called (.ack _ _ _) _ | .called (.nack _ _ _) _
  | .called .throwing _ => .isFalse id
  | .lost => .isTrue trivial

/-- What has passed up to the event that has closed the socket. -/
def untilClosed : List Event → List Event
  | [] => []
  | event :: trace => if event.Closes then [event] else event :: untilClosed trace

/-- Nothing has closed the socket before the last event. -/
theorem untilClosed_concat {trace : List Event} (h : ∀ event ∈ trace, ¬ event.Closes) (last : Event) :
    untilClosed (trace ++ [last]) = trace ++ [last] := by
  induction trace with
  | nil => simp [untilClosed]
  | cons event trace ih =>
    rw [List.cons_append, untilClosed, if_neg (h event List.mem_cons_self),
      ih fun other hmem => h other (List.mem_cons_of_mem _ hmem)]

/-- Nothing has closed the socket. -/
theorem untilClosed_eq_self {trace : List Event} (h : ∀ event ∈ trace, ¬ event.Closes) :
    untilClosed trace = trace := by
  rcases List.eq_nil_or_concat trace with rfl | ⟨earlier, last, rfl⟩
  · rfl
  · rw [List.concat_eq_append] at h ⊢
    exact untilClosed_concat (fun event hmem => h event (List.mem_append_left _ hmem)) last

/-- The socket has been closed before. -/
theorem untilClosed_append {trace : List Event} (h : ∃ event ∈ trace, event.Closes) (later : List Event) :
    untilClosed (trace ++ later) = untilClosed trace := by
  induction trace with
  | nil => simp at h
  | cons event trace ih =>
    rw [List.cons_append, untilClosed, untilClosed]
    split
    next => rfl
    next hevent =>
      rw [ih]
      obtain ⟨other, hmem, hcloses⟩ := h
      rcases List.mem_cons.mp hmem with rfl | hrest
      · exact absurd hcloses hevent
      · exact ⟨other, hrest, hcloses⟩

/-- The numbers go on. -/
theorem numberAfter_append (counter : ℕ) (trace later : List Event) :
    numberAfter counter (trace ++ later) = numberAfter (numberAfter counter trace) later := by
  induction trace generalizing counter with
  | nil => rfl
  | cons event trace ih =>
    cases event with
    | callback event => exact ih counter
    | called c thrown => exact ih (c.next counter)
    | lost => exact ih counter

/-- The frames go on with them. -/
theorem frames_append (counter : ℕ) (trace later : List Event) :
    frames counter (trace ++ later) = frames counter trace ++ frames (numberAfter counter trace) later := by
  induction trace generalizing counter with
  | nil => rfl
  | cons event trace ih =>
    cases event with
    | callback event => exact ih counter
    | called c thrown =>
      cases thrown with
      | none =>
        rw [List.cons_append, frames, ih, frames, numberAfter, List.append_assoc]
      | some e => exact ih (c.next counter)
    | lost => exact ih counter

/-- What has been transmitted, by the state of the socket. -/
inductive Transmitted (env : Env) (s : Client) : Prop
  | connecting (hstate : s.readyState = .connecting) (hlive : ∀ event ∈ s.trace, ¬ event.Closes)
      (htransmitted : s.transmitted = []) (htrace : frames 0 s.trace = [])
  | opened (hstate : s.readyState = .opened) (hlive : ∀ event ∈ s.trace, ¬ event.Closes)
      (htransmitted : s.transmitted = env.connectFrame :: frames 0 s.trace)
  | closed (hstate : s.readyState = .closed) (hclosed : ∃ event ∈ s.trace, event.Closes)
      (htransmitted : s.transmitted = [] ∧ frames 0 (untilClosed s.trace) = [] ∨
        s.transmitted = env.connectFrame :: frames 0 (untilClosed s.trace))

/-- The numbers of a client agree with its trace, and so does what has been transmitted. -/
structure Client.Numbered (env : Env) (s : Client) : Prop where
  counter : s.counter = numberAfter 0 s.trace
  transmitted : Transmitted env s

/-- Nothing is recorded. -/
theorem Transmitted.same (h : Transmitted env s) (hstate : t.readyState = s.readyState)
    (htransmitted : t.transmitted = s.transmitted) (htrace : t.trace = s.trace) : Transmitted env t := by
  cases h with
  | connecting hconnecting hlive hsent hnone =>
    exact .connecting (hstate.trans hconnecting) (htrace ▸ hlive) (htransmitted.trans hsent) (htrace ▸ hnone)
  | opened hopen hlive hsent =>
    exact .opened (hstate.trans hopen) (htrace ▸ hlive) (by rw [htransmitted, hsent, htrace])
  | closed hclosed hcloses hsent =>
    exact .closed (hstate.trans hclosed) (htrace ▸ hcloses) (by rw [htransmitted, htrace]; exact hsent)

/-- Nothing is transmitted for what is recorded. -/
theorem Transmitted.keep (h : Transmitted env s) (event : Event) (hevent : s.readyState ≠ .closed → ¬ event.Closes)
    (hframes : s.readyState ≠ .closed → frames (numberAfter 0 s.trace) [event] = [])
    (hstate : t.readyState = s.readyState) (htransmitted : t.transmitted = s.transmitted)
    (htrace : t.trace = s.trace ++ [event]) : Transmitted env t := by
  have hlive' (hopen : s.readyState ≠ .closed) (hlive : ∀ event ∈ s.trace, ¬ event.Closes) :
      ∀ event ∈ t.trace, ¬ event.Closes := by
    intro other hmem
    rcases List.mem_append.mp (htrace ▸ hmem) with hold | hnew
    · exact hlive other hold
    · exact List.mem_singleton.mp hnew ▸ hevent hopen
  have hsame (hopen : s.readyState ≠ .closed) : frames 0 t.trace = frames 0 s.trace := by
    rw [htrace, frames_append, hframes hopen, List.append_nil]
  cases h with
  | connecting hconnecting hlive hsent hnone =>
    have hopen : s.readyState ≠ .closed := by simp [hconnecting]
    exact .connecting (hstate.trans hconnecting) (hlive' hopen hlive) (htransmitted.trans hsent)
      ((hsame hopen).trans hnone)
  | opened hopened hlive hsent =>
    have hopen : s.readyState ≠ .closed := by simp [hopened]
    exact .opened (hstate.trans hopened) (hlive' hopen hlive) (by rw [htransmitted, hsent, hsame hopen])
  | closed hclosed hcloses hsent =>
    obtain ⟨other, hmem, hother⟩ := hcloses
    refine .closed (hstate.trans hclosed) ⟨other, htrace ▸ List.mem_append_left _ hmem, hother⟩ ?_
    rw [htransmitted, htrace, untilClosed_append ⟨other, hmem, hother⟩]
    exact hsent

/-- The socket is closed by what is recorded. -/
theorem closed_by {trace : List Event} (last : Event) (hlive : ∀ event ∈ trace, ¬ event.Closes)
    (hlast : last.Closes) (hclosed : t.readyState = .closed) (htrace : t.trace = trace ++ [last])
    (htransmitted : t.transmitted = [] ∧ frames 0 (trace ++ [last]) = [] ∨
      t.transmitted = env.connectFrame :: frames 0 (trace ++ [last])) : Transmitted env t := by
  refine .closed hclosed ⟨last, htrace ▸ List.mem_append_right _ List.mem_cons_self, hlast⟩ ?_
  rw [htrace, untilClosed_concat hlive]
  exact htransmitted

/-- What is known of an open socket. -/
theorem Transmitted.of_opened (h : Transmitted env s) (hopen : s.readyState = .opened) :
    (∀ event ∈ s.trace, ¬ event.Closes) ∧ s.transmitted = env.connectFrame :: frames 0 s.trace := by
  cases h with
  | connecting hconnecting => simp [hopen] at hconnecting
  | opened _ hlive hsent => exact ⟨hlive, hsent⟩
  | closed hclosed => simp [hopen] at hclosed

/-- What is known of a socket that is connecting. -/
theorem Transmitted.of_connecting (h : Transmitted env s) (hconnecting : s.readyState = .connecting) :
    (∀ event ∈ s.trace, ¬ event.Closes) ∧ s.transmitted = [] ∧ frames 0 s.trace = [] := by
  cases h with
  | connecting _ hlive hsent hnone => exact ⟨hlive, hsent, hnone⟩
  | opened hopen => simp [hconnecting] at hopen
  | closed hclosed => simp [hconnecting] at hclosed

/-- A socket that is neither connecting nor open is closed. -/
theorem Transmitted.isClosed (h : Transmitted env s) (hconnecting : s.readyState ≠ .connecting)
    (hopen : s.readyState ≠ .opened) : s.readyState = .closed := by
  cases h with
  | connecting hstate => exact absurd hstate hconnecting
  | opened hstate => exact absurd hstate hopen
  | closed hstate => exact hstate

/-- The connection is lost. -/
theorem Client.Numbered.lost (hs : s.Numbered env)
    (hlive : s.readyState = .connecting ∨ s.readyState = .opened) : s.lose.Numbered env := by
  have hcounter : s.counter = numberAfter 0 (s.trace ++ [.lost]) := by
    rw [numberAfter_append, hs.counter]
    rfl
  have hframes : frames 0 (s.trace ++ [.lost]) = frames 0 s.trace := by
    rw [frames_append]
    exact List.append_nil _
  refine ⟨hcounter, ?_⟩
  rcases hlive with hconnecting | hopen
  · obtain ⟨hquiet, hsent, hnone⟩ := hs.transmitted.of_connecting hconnecting
    exact closed_by .lost hquiet trivial rfl rfl (.inl ⟨hsent, hframes.trans hnone⟩)
  · obtain ⟨hquiet, hsent⟩ := hs.transmitted.of_opened hopen
    exact closed_by .lost hquiet trivial rfl rfl (.inr (hframes ▸ hsent))

/-- A call that is not `disconnect` does not close the socket. -/
theorem not_closes {c : Call} (hc : c ≠ .disconnect) (thrown : Option JsError) : ¬ (Event.called c thrown).Closes := by
  cases c <;> simp_all [Event.Closes]

/-- A call that throws does not close the socket. -/
theorem not_closes_thrown (c : Call) (e : JsError) : ¬ (Event.called c (some e)).Closes := by
  cases c <;> simp [Event.Closes]

/-- A frame is transmitted over the open socket, and if it is the last one, the socket is closed. -/
theorem Transmitted.speak (h : Transmitted env s) (hopen : s.readyState = .opened) {c : Call} {frame : Frame}
    (hframe : c.frame (numberAfter 0 s.trace) = some frame)
    (hstate : t.readyState = if c = .disconnect then .closed else .opened)
    (htransmitted : t.transmitted = s.transmitted ++ [frame]) (htrace : t.trace = s.trace ++ [.called c none]) :
    Transmitted env t := by
  obtain ⟨hlive, hsent⟩ := h.of_opened hopen
  have hall : t.transmitted = env.connectFrame :: frames 0 (s.trace ++ [.called c none]) := by
    rw [htransmitted, hsent, frames_append, frames, hframe, frames]
    rfl
  by_cases hc : c = .disconnect
  · rw [if_pos hc] at hstate
    exact closed_by _ hlive (by rw [hc]; trivial) hstate htrace (.inr hall)
  · rw [if_neg hc] at hstate
    refine .opened hstate ?_ (htrace ▸ hall)
    intro event hmem
    rcases List.mem_append.mp (htrace ▸ hmem) with hold | hnew
    · exact hlive event hold
    · exact List.mem_singleton.mp hnew ▸ not_closes hc none

/-- Every move keeps the numbers. -/
theorem Move.numbered (h : Move env s t) (hs : s.Numbered env) : t.Numbered env := by
  have hasked (c : Call) (thrown : Option JsError) :
      c.next s.counter = numberAfter 0 (s.trace ++ [.called c thrown]) := by
    rw [numberAfter_append, hs.counter, numberAfter, numberAfter]
  have htold (event : Callback) : s.counter = numberAfter 0 (s.trace ++ [.callback event]) := by
    rw [numberAfter_append, hs.counter, numberAfter, numberAfter]
  cases h with
  | opened parts hconnecting hparts =>
    obtain ⟨hlive, hsent, hnone⟩ := hs.transmitted.of_connecting hconnecting
    refine ⟨hs.counter, .opened rfl hlive ?_⟩
    change s.transmitted ++ [env.connectFrame] = env.connectFrame :: frames 0 s.trace
    rw [hsent, hnone, List.nil_append]
  | refused c e h =>
    exact ⟨hasked c (some e), hs.transmitted.keep _ (fun _ => not_closes_thrown c e) (fun _ => rfl) rfl rfl rfl⟩
  | spoke c frame parts hopen hframe hparts =>
    refine ⟨by simpa [Client.record, Client.asked, Client.spoken] using hasked c none,
      hs.transmitted.speak hopen (hs.counter ▸ hframe) ?_ ?_ ?_⟩
    · by_cases hc : c = .disconnect
      · simp [Client.record, Client.given, hc, Client.hungUp, Client.asked, Client.spoken, hopen, Client.didClose,
          Client.cleanUp]
      · simp [Client.record, Client.given, hc, Client.asked, Client.spoken, hopen]
    · simp [Client.record, Client.spoken, Client.asked]
    · simp [Client.record, Client.spoken, Client.asked]
  | dropped c frame hconnecting hopen hframe =>
    have hclosed := hs.transmitted.isClosed hconnecting hopen
    have hstays (hlive : s.readyState ≠ .closed) : ¬ (Event.called c none).Closes := absurd hclosed hlive
    refine ⟨by simpa [Client.record, Client.asked] using hasked c none, hs.transmitted.keep (.called c none) hstays
      (fun hlive => absurd hclosed hlive) ?_ ?_ ?_⟩
    · rcases Client.readyState_given (s := s.asked env c) c with hsame | hended
      · exact hsame
      · exact hended.trans hclosed.symm
    · simp [Client.record, Client.asked]
    · simp [Client.record, Client.asked]
  | noticed | accepted => exact ⟨hs.counter, hs.transmitted.same rfl rfl rfl⟩
  | connected frame pinger ponger =>
    refine ⟨by simpa [Client.record] using htold (.connected frame),
      hs.transmitted.keep (.callback (.connected frame)) (fun _ => id) (fun _ => rfl) ?_ ?_ ?_⟩ <;>
        simp [Client.record]
  | told event hdue => exact ⟨htold event, hs.transmitted.keep _ (fun _ => id) (fun _ => rfl) rfl rfl rfl⟩
  | pinged hopen => exact ⟨hs.counter, hs.transmitted.same rfl rfl rfl⟩
  | closed msg hscheduled honclose =>
    exact ⟨htold (.lost msg), hs.transmitted.keep _ (fun _ => id) (fun _ => rfl) rfl rfl rfl⟩
  | closedUnheard hscheduled honclose => exact ⟨hs.counter, hs.transmitted.same rfl rfl rfl⟩

/-! ## The text of a session -/

/-- A text in which frames have been written one after the other, with pings between them. -/
inductive Written : List Frame → JsString → Prop
  | nil : Written [] []
  | frame {before : List Frame} {text data : JsString} (frame : Frame) (h : Written before text)
      (hdata : Frame.marshall frame.command (some frame.headers) (some frame.body) = .ok data) :
      Written (before ++ [frame]) (text ++ data)
  | ping {before : List Frame} {text : JsString} (h : Written before text) (hbefore : before ≠ []) :
      Written before (text ++ [LF])

/-- A frame is read with its command and its body, and with its headers except for the length. -/
structure Frame.ReadAs (frame read : Frame) : Prop where
  command : read.command = frame.command
  body : read.body = frame.body
  headers : ∀ name, name ≠ contentLength → read.headers.get name = frame.headers.get name

/-- The text of a plain frame is the text of a frame with a length, and so it is read. -/
theorem Frame.Plain.exists_wire {frame : Frame} (h : frame.Plain) {data : JsString}
    (hdata : marshall frame.command (some frame.headers) (some frame.body) = .ok data) :
    ∃ counted : Frame, counted.Sendable ∧ data = wire counted 0 ∧ frame.ReadAs (readBack counted) := by
  obtain ⟨text, -, -, htext, -⟩ := unmarshall_marshalled h.marshallable hdata
  have hplain := h.marshallable.sent_plain text
  have hdistinct : ((sent frame.headers.properties text).map Prod.fst).Nodup := by
    rw [sent]
    split
    · exact frame.headers.distinct
    · have hmissing := JsObject.find_eq_none_iff.mp h.length
      rw [List.map_append, List.map_cons, List.map_nil]
      exact frame.headers.distinct.append (List.nodup_singleton _) (List.disjoint_singleton.mpr hmissing)
  refine ⟨⟨frame.command, ⟨sent frame.headers.properties text, hdistinct⟩, frame.body⟩,
    ⟨h.command_line, h.command_null, h.command_ne, hplain, h.body,
      h.marshallable.delimits htext (List.prefix_refl _)⟩, ?_, rfl, rfl, ?_⟩
  · rw [marshall_of_encode frame.command frame.headers htext] at hdata
    exact (Except.ok.inj hdata).symm
  · intro name hname
    change (received (sent frame.headers.properties text)).get name = frame.headers.get name
    rw [get_received hplain, h.marshallable.find_sent, if_neg fun hboth => hname hboth.1]

/-- The frames of a text, each with the pings behind it. -/
theorem Written.exists_wires {frames : List Frame} {text : JsString} (h : Written frames text)
    (hplain : ∀ frame ∈ frames, frame.Plain) :
    ∃ wires : List (Frame × ℕ), (∀ f ∈ wires, f.1.Sendable) ∧
      text = (wires.flatMap fun f => Frame.wire f.1 f.2) ∧
      List.Forall₂ Frame.ReadAs frames (wires.map fun f => Frame.readBack f.1) := by
  induction h with
  | nil => exact ⟨[], by simp, rfl, .nil⟩
  | frame frame _ hdata ih =>
    obtain ⟨wires, hsendable, rfl, hread⟩ := ih fun frame hmem => hplain frame (List.mem_append_left _ hmem)
    obtain ⟨counted, hcounted, rfl, hlast⟩ := (hplain frame (by simp)).exists_wire hdata
    refine ⟨wires ++ [(counted, 0)], ?_, by simp, ?_⟩
    · intro f hmem
      rcases List.mem_append.mp hmem with hearlier | hlater
      · exact hsendable f hearlier
      · rw [List.mem_singleton.mp hlater]
        exact hcounted
    · rw [List.map_append]
      exact List.rel_append hread (.cons hlast .nil)
  | ping _ hbefore ih =>
    obtain ⟨wires, hsendable, rfl, hread⟩ := ih hplain
    rcases List.eq_nil_or_concat wires with rfl | ⟨earlier, last, rfl⟩
    · exact absurd (List.forall₂_nil_right_iff.mp hread) hbefore
    · rw [List.concat_eq_append] at *
      refine ⟨earlier ++ [(last.1, last.2 + 1)], ?_, ?_, by simpa using hread⟩
      · intro f hmem
        rcases List.mem_append.mp hmem with hearlier | hlater
        · exact hsendable f (List.mem_append_left _ hearlier)
        · rw [List.mem_singleton.mp hlater]
          exact hsendable last (by simp)
      · simp [Frame.wire, List.replicate_succ']

/-- A text is read as the frames that have been written in it. -/
theorem Written.read {frames : List Frame} {text : JsString} (h : Written frames text)
    (hplain : ∀ frame ∈ frames, frame.Plain) : List.Forall₂ Frame.ReadAs frames (Frame.unmarshall text) := by
  obtain ⟨wires, hsendable, rfl, hread⟩ := h.exists_wires hplain
  rw [Frame.unmarshall_wires wires hsendable]
  exact hread

/-- The parts that have been handed to the socket, and the text that they add up to. -/
structure Client.Streamed (s : Client) : Prop where
  parts : ∀ part ∈ s.sent, part.length ≤ maxWebSocketFrameSize
  written : Written s.transmitted s.sent.flatten

/-- One more frame. -/
theorem Client.Streamed.spoken (hs : s.Streamed) {frame : Frame} {parts : List JsString}
    (hparts : frame.parts = .ok parts) : (s.spoken frame parts).Streamed := by
  obtain ⟨data, hdata, rfl⟩ := transmit_eq_ok_iff.mp hparts
  obtain ⟨hflatten, full, last, hsplit, hlast, hfull⟩ := transmitLoop_parts data
  constructor
  · intro part hmem
    rcases List.mem_append.mp hmem with hearlier | hlater
    · exact hs.parts part hearlier
    · rw [hsplit] at hlater
      rcases List.mem_append.mp hlater with hmiddle | hend
      · exact Nat.le_of_eq (hfull part hmiddle)
      · exact List.mem_singleton.mp hend ▸ hlast
  · change Written (s.transmitted ++ [frame]) (s.sent ++ transmitLoop data).flatten
    rw [List.flatten_append, hflatten]
    exact .frame frame hs.written hdata

/-- Nothing is sent. -/
theorem Client.Streamed.same (hs : s.Streamed) (hsent : t.sent = s.sent)
    (htransmitted : t.transmitted = s.transmitted) : t.Streamed :=
  ⟨hsent.symm ▸ hs.parts, hsent.symm ▸ htransmitted.symm ▸ hs.written⟩

/-- Every move keeps the text. -/
theorem Move.streamed (h : Move env s t) (hnumbered : s.Numbered env) (hs : s.Streamed) : t.Streamed := by
  cases h with
  | opened parts hconnecting hparts =>
    have hopened : ({ s with readyState := .opened } : Client).Streamed := hs.same rfl rfl
    exact hopened.spoken hparts
  | refused c e h => exact hs.same rfl rfl
  | spoke c frame parts hopen hframe hparts =>
    have hasked : (s.asked env c).Streamed := hs.same rfl rfl
    exact (hasked.spoken hparts).same (by simp [Client.record]) (by simp [Client.record])
  | dropped c frame hconnecting hopen hframe =>
    exact hs.same (by simp [Client.record, Client.asked]) (by simp [Client.record, Client.asked])
  | noticed | accepted => exact hs.same rfl rfl
  | connected frame pinger ponger => exact hs.same (by simp [Client.record]) (by simp [Client.record])
  | told event hdue => exact hs.same rfl rfl
  | pinged hopen =>
    have hne : s.transmitted ≠ [] := by simp [(hnumbered.transmitted.of_opened hopen).2]
    constructor
    · intro part hmem
      rcases List.mem_append.mp hmem with hearlier | hlater
      · exact hs.parts part hearlier
      · rw [List.mem_singleton.mp hlater]
        decide
    · change Written s.transmitted (s.sent ++ [[LF]]).flatten
      rw [List.flatten_append, List.flatten_singleton]
      exact .ping hs.written hne
  | closed msg hscheduled honclose => exact hs.same rfl rfl
  | closedUnheard hscheduled honclose => exact hs.same rfl rfl

/-- The numbers and the text of a client in every state. -/
theorem numbered_of_reachable (h : (system env).Reachable s) : s.Numbered env ∧ s.Streamed := by
  refine reachable_induct (P := fun s => s.Numbered env ∧ s.Streamed) ?_ ?_ ?_ h
  · exact ⟨⟨rfl, .connecting rfl (by simp [Client.new]) rfl rfl⟩, by simp [Client.new], .nil⟩
  · exact fun s hs hlive => ⟨hs.1.lost hlive, hs.2.same rfl rfl⟩
  · exact fun s t hs hmove => ⟨hmove.numbered hs.1, hmove.streamed hs.1 hs.2⟩

/-- What passes with the user is plain. -/
def Event.Plain : Event → Prop
  | .called c _ => c.Plain
  | .callback _ | .lost => True

/-- The frames of plain calls are plain. -/
theorem plain_frames {trace : List Event} (h : ∀ event ∈ trace, event.Plain) (counter : ℕ) :
    ∀ frame ∈ frames counter trace, frame.Plain := by
  induction trace generalizing counter with
  | nil => simp [frames]
  | cons event trace ih =>
    have hrest := ih fun event hmem => h event (List.mem_cons_of_mem _ hmem)
    have hfirst := h event List.mem_cons_self
    cases event with
    | callback event => exact hrest counter
    | lost => exact hrest counter
    | called c thrown =>
      cases thrown with
      | some e => exact hrest _
      | none =>
        intro frame hmem
        rcases List.mem_append.mp hmem with hown | hlater
        · exact Call.Plain.frame hfirst (Option.mem_toList.mp hown)
        · exact hrest _ frame hlater

/-- The CONNECT frame is plain if the headers given to `connect` are. -/
theorem plain_connectFrame (h : Frame.PlainHeaders env.headers) : env.connectFrame.Plain := by
  have hbeat : Frame.PlainValue (ofNat env.outgoing ++ 44 :: ofNat env.incoming) := by
    have houtgoing := isDecimal_ofNat env.outgoing
    have hincoming := isDecimal_ofNat env.incoming
    apply Frame.plainValue_of_notSpace
    · intro c hmem
      rcases List.mem_append.mp hmem with hleft | hright
      · exact isSpace_of_isDecimal houtgoing c hleft
      rcases List.mem_cons.mp hright with rfl | hnumber
      · decide
      · exact isSpace_of_isDecimal hincoming c hnumber
    · intro hmem
      rcases List.mem_append.mp hmem with hleft | hright
      · exact absurd (houtgoing _ hleft).1 (by decide)
      rcases List.mem_cons.mp hright with hcomma | hnumber
      · exact absurd hcomma (by decide)
      · exact absurd (hincoming _ hnumber).1 (by decide)
  exact plain_of_command (by decide) ((h.set (by decide) (by decide) (by decide)).set (by decide) (by decide) hbeat)
    List.not_mem_nil

/-- All that can have been transmitted is plain. -/
theorem plain_asked (hheaders : Frame.PlainHeaders env.headers) {trace : List Event}
    (hplain : ∀ event ∈ trace, event.Plain) : ∀ frame ∈ env.connectFrame :: frames 0 trace, frame.Plain := by
  intro frame hmem
  rcases List.mem_cons.mp hmem with rfl | hcalls
  · exact plain_connectFrame hheaders
  · exact plain_frames hplain 0 frame hcalls

/-- What the server reads as long as the socket is open. -/
theorem read_of_opened (h : (system env).Reachable s) (hopen : s.readyState = .opened)
    (hheaders : Frame.PlainHeaders env.headers) (hplain : ∀ event ∈ s.trace, event.Plain) :
    List.Forall₂ Frame.ReadAs (env.connectFrame :: frames 0 s.trace) (Frame.unmarshall s.sent.flatten) := by
  obtain ⟨hnumbered, hstreamed⟩ := numbered_of_reachable h
  obtain ⟨-, hsent⟩ := hnumbered.transmitted.of_opened hopen
  exact hsent ▸ hstreamed.written.read (hsent ▸ plain_asked hheaders hplain)

/-- Whatever has happened, the parts that a client has handed to its socket have at most the greatest length
and add up to a text in which the server reads CONNECT, if the socket was ever open, and then the frames of the
calls that were not refused, one by one and in order, with the numbers that they were given: all calls up to
the one that has disconnected, or up to the loss of the connection, and none behind it. -/
theorem calls_received_in_order (h : (system env).Reachable s) (hheaders : Frame.PlainHeaders env.headers)
    (hplain : ∀ event ∈ untilClosed s.trace, event.Plain) :
    (∀ part ∈ s.sent, part.length ≤ maxWebSocketFrameSize) ∧
      (s.readyState = .closed ↔ ∃ event ∈ s.trace, event.Closes) ∧
      ∃ asked, (asked = [] ∧ frames 0 (untilClosed s.trace) = [] ∧ s.readyState ≠ .opened ∨
          asked = env.connectFrame :: frames 0 (untilClosed s.trace) ∧ s.readyState ≠ .connecting) ∧
        List.Forall₂ Frame.ReadAs asked (Frame.unmarshall s.sent.flatten) := by
  obtain ⟨hnumbered, hstreamed⟩ := numbered_of_reachable h
  refine ⟨hstreamed.parts, ?_⟩
  have hread (asked : List Frame) (hsent : s.transmitted = asked) (hasked : ∀ frame ∈ asked, frame.Plain) :
      List.Forall₂ Frame.ReadAs asked (Frame.unmarshall s.sent.flatten) :=
    hsent ▸ hstreamed.written.read (hsent ▸ hasked)
  have hnever (hlive : ∀ event ∈ s.trace, ¬ event.Closes) : ¬ ∃ event ∈ s.trace, event.Closes :=
    fun ⟨event, hmem, hcloses⟩ => hlive event hmem hcloses
  cases hnumbered.transmitted with
  | connecting hstate hlive hsent hnone =>
    refine ⟨iff_of_false (by simp [hstate]) (hnever hlive), [], .inl ⟨rfl, ?_, by simp [hstate]⟩,
      hread [] hsent (by simp)⟩
    rwa [untilClosed_eq_self hlive]
  | opened hstate hlive hsent =>
    refine ⟨iff_of_false (by simp [hstate]) (hnever hlive), _, .inr ⟨rfl, by simp [hstate]⟩, ?_⟩
    rw [untilClosed_eq_self hlive] at hplain ⊢
    exact read_of_opened h hstate hheaders hplain
  | closed hstate hcloses hsent =>
    refine ⟨iff_of_true hstate hcloses, ?_⟩
    rcases hsent with ⟨hsent, hnone⟩ | hsent
    · exact ⟨[], .inl ⟨rfl, hnone, by simp [hstate]⟩, hread [] hsent (by simp)⟩
    · exact ⟨_, .inr ⟨rfl, by simp [hstate]⟩, hread _ hsent (plain_asked hheaders hplain)⟩

/-- A user who does nothing of his own accord, whose handlers are functions without a name and with one
parameter, and who gets no frames that are programs. -/
def quiet : Env where
  outgoing := 10000
  incoming := 10000
  headers := .empty
  url := "/eventmonitor/events"
  onreceive := false
  handlers := fun _ => []
  functions := fun _ => functionExpression fun _ => false

/-- A subscription is ended, and the server is told; behind the loss of the connection it is not. -/
theorem unsubscribe_received : ∃ s : Client,
    s.trace = [.called (.unsubscribe (literal "sub-0")) none, .lost, .called (.unsubscribe (literal "sub-1")) none] ∧
    ∃ asked, (asked = [] ∧ frames 0 (untilClosed s.trace) = [] ∧ s.readyState ≠ .opened ∨
        asked = quiet.connectFrame :: frames 0 (untilClosed s.trace) ∧ s.readyState ≠ .connecting) ∧
      List.Forall₂ Frame.ReadAs asked (Frame.unmarshall s.sent.flatten) := by
  obtain ⟨history, s, hrun, htrace⟩ := exists_run quiet
    [.opened, .call (.unsubscribe (literal "sub-0")), .lost, .call (.unsubscribe (literal "sub-1"))] Client.trace
    (a := [.called (.unsubscribe (literal "sub-0")) none, .lost, .called (.unsubscribe (literal "sub-1")) none])
    (by decide +kernel)
  have hplain : ∀ event ∈ untilClosed s.trace, event.Plain := by
    rw [htrace]
    intro event hmem
    rcases List.mem_cons.mp hmem with rfl | hlost
    · exact (by decide : Frame.PlainValue (literal "sub-0"))
    · rw [List.mem_singleton.mp hlost]
      trivial
  obtain ⟨-, -, hread⟩ := calls_received_in_order ⟨history, hrun⟩ (by decide) hplain
  exact ⟨s, htrace, hread⟩

end Stomp

end EventMonitor
