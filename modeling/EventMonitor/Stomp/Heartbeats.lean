import EventMonitor.Stomp.Stream

/-!
# The heartbeat of a client

Every CONNECTED frame starts the intervals that its versions and its header ask for, and the clean-up
stops those that have been started last. An interval is left over only if another CONNECTED frame has come
before the clean-up, or if its own has come after it. The checks themselves do nothing: a client never
closes its socket because the server is silent.
-/

namespace EventMonitor

open Library JavaScript

namespace Stomp

open Page (ReadyState)

variable {env : Env} {s t : Client}

/-- The client has cleaned up. -/
def Event.Ends : Event → Prop
  | .called .disconnect none => True
  | .callback (.lost _) => True
  | _ => False

/-- Another CONNECTED frame has come before the clean-up. -/
def Superseded (after : List Event) : Prop :=
  ∃ mid frame rest, after = mid ++ .callback (.connected frame) :: rest ∧ ∀ event ∈ mid, ¬ event.Ends

/-- An interval has been started for a CONNECTED frame, and if the client has forgotten it, for another one. -/
def Explained (trace : List Event) (known : Prop) : Prop :=
  ∃ before frame after, trace = before ++ .callback (.connected frame) :: after ∧
    (Superseded after ∨ (∀ event ∈ after, ¬ event.Ends) ∧ known)

/-- Something more is recorded. -/
theorem Superseded.concat {after : List Event} (h : Superseded after) (event : Event) :
    Superseded (after ++ [event]) := by
  obtain ⟨mid, frame, rest, rfl, hmid⟩ := h
  exact ⟨mid, frame, rest ++ [event], by simp, hmid⟩

/-- Something is recorded that is no clean-up. -/
theorem Explained.concat {trace : List Event} {known : Prop} (h : Explained trace known) {event : Event}
    (hevent : ¬ event.Ends) : Explained (trace ++ [event]) known := by
  obtain ⟨before, frame, after, rfl, hafter⟩ := h
  refine ⟨before, frame, after ++ [event], by simp, hafter.imp (·.concat event) fun ⟨hquiet, hknown⟩ => ⟨?_, hknown⟩⟩
  intro other hmem
  rcases List.mem_append.mp hmem with hold | hnew
  · exact hquiet other hold
  · exact List.mem_singleton.mp hnew ▸ hevent

/-- A CONNECTED frame comes after another one. -/
theorem Explained.connected {trace : List Event} {known : Prop} (h : Explained trace known) (frame : Frame)
    (later : Prop) : Explained (trace ++ [.callback (.connected frame)]) later := by
  obtain ⟨before, earlier, after, rfl, hafter⟩ := h
  refine ⟨before, earlier, after ++ [.callback (.connected frame)], by simp, .inl ?_⟩
  rcases hafter with hsuperseded | ⟨hquiet, -⟩
  · exact hsuperseded.concat _
  · exact ⟨after, frame, [], rfl, hquiet⟩

/-- A CONNECTED frame starts an interval. -/
theorem Explained.start (trace : List Event) (frame : Frame) {known : Prop} (hknown : known) :
    Explained (trace ++ [.callback (.connected frame)]) known :=
  ⟨trace, frame, [], rfl, .inr ⟨by simp, hknown⟩⟩

/-- The clean-up leaves what the client has forgotten. -/
theorem Explained.forgotten {trace : List Event} {known : Prop} (h : Explained trace known) (hknown : ¬ known)
    (event : Event) (later : Prop) : Explained (trace ++ [event]) later := by
  obtain ⟨before, frame, after, rfl, hafter⟩ := h
  rcases hafter with hsuperseded | ⟨-, hstill⟩
  · exact ⟨before, frame, after ++ [event], by simp, .inl (hsuperseded.concat event)⟩
  · exact absurd hstill hknown

/-- The client knows an interval, and will stop it when it cleans up. -/
def Client.Knows (s : Client) (interval : Interval) : Prop :=
  s.pinger = some interval.id ∨ s.ponger = some interval.id

/-- How often the user has been told that the client is connected. -/
def connections (trace : List Event) : ℕ :=
  trace.countP fun event => match event with
    | .callback (.connected _) => true
    | _ => false

/-- How many intervals of a kind there are. -/
def beatCount (beat : Beat) (intervals : List Interval) : ℕ := intervals.countP (·.beat = beat)

/-- What is known of the intervals that are running. -/
structure Client.Beating (env : Env) (s : Client) : Prop where
  explained : ∀ interval ∈ s.intervals, Explained s.trace (s.Knows interval)
  agreed : ∀ interval ∈ s.intervals, match interval.beat with
    | .ping => env.outgoing ≠ 0
    | .pong => env.incoming ≠ 0
  once : ∀ beat, beatCount beat s.intervals ≤ connections s.trace

/-- Intervals that have been running before. -/
theorem Client.Beating.sublist (hs : s.Beating env) (hintervals : t.intervals.Sublist s.intervals)
    (hexplained : ∀ interval ∈ t.intervals, Explained s.trace (s.Knows interval) → Explained t.trace (t.Knows interval))
    (htrace : connections s.trace ≤ connections t.trace) : t.Beating env where
  explained interval hmem := hexplained interval hmem (hs.explained interval (hintervals.subset hmem))
  agreed interval hmem := hs.agreed interval (hintervals.subset hmem)
  once beat := (hintervals.countP_le).trans ((hs.once beat).trans htrace)

/-- Nothing happens to the intervals. -/
theorem Client.Beating.same (hs : s.Beating env) (hintervals : t.intervals = s.intervals)
    (hpinger : t.pinger = s.pinger) (hponger : t.ponger = s.ponger) (htrace : t.trace = s.trace) : t.Beating env := by
  refine hs.sublist (hintervals ▸ List.Sublist.refl _) (fun interval _ hexplained => ?_) (htrace ▸ Nat.le_refl _)
  rw [Client.Knows, hpinger, hponger, htrace]
  exact hexplained

/-- Something is recorded that is no clean-up. -/
theorem Client.Beating.concat (hs : s.Beating env) (event : Event) (hevent : ¬ event.Ends)
    (hintervals : t.intervals = s.intervals) (hpinger : t.pinger = s.pinger) (hponger : t.ponger = s.ponger)
    (htrace : t.trace = s.trace ++ [event]) : t.Beating env := by
  refine hs.sublist (hintervals ▸ List.Sublist.refl _) (fun interval _ hexplained => ?_) ?_
  · rw [Client.Knows, hpinger, hponger, htrace]
    exact hexplained.concat hevent
  · rw [htrace, connections, connections, List.countP_append]
    exact Nat.le_add_right _ _

/-- The client cleans up. -/
theorem Client.Beating.cleanUp (hs : s.Beating env) (event : Event) (hintervals : t.intervals = s.cleanUp.intervals)
    (htrace : t.trace = s.trace ++ [event]) : t.Beating env := by
  refine hs.sublist (hintervals ▸ List.filter_sublist) (fun interval hmem hexplained => ?_) ?_
  · rw [htrace]
    apply hexplained.forgotten
    have hkept := (List.mem_filter.mp (hintervals ▸ hmem)).2
    rw [Client.Knows, not_or]
    simpa using hkept
  · rw [htrace, connections, connections, List.countP_append]
    exact Nat.le_add_right _ _

/-- A script closes the socket only when the user disconnects. -/
theorem Move.closes (h : Move env s t) (hclosed : t.readyState = .closed) (hopen : s.readyState ≠ .closed) :
    .called .disconnect none ∈ t.trace := by
  have hgiven (c : Call) (u : Client) (hstate : u.readyState = s.readyState)
      (hended : (u.given c).readyState = .closed) :
      .called .disconnect none ∈ ((u.given c).record (.called c none)).trace := by
    by_cases hc : c = .disconnect
    · simp [Client.record, hc]
    · rw [Client.given, if_neg hc] at hended
      exact absurd (hstate.symm.trans hended) hopen
  cases h with
  | spoke c frame parts hstate hframe hparts => exact hgiven c _ rfl hclosed
  | dropped c frame hconnecting hstate hframe => exact hgiven c _ rfl hclosed
  | opened parts hconnecting hparts => cases hclosed
  | connected frame pinger ponger =>
    have hsame : s.readyState = .closed := by simpa [Client.record] using hclosed
    exact absurd hsame hopen
  | refused | noticed | accepted | told | pinged | closed | closedUnheard => exact absurd hclosed hopen

/-- So do several of them. -/
theorem closes_of_path (h : Relation.ReflTransGen (Move env) s t) (hclosed : t.readyState = .closed)
    (hopen : s.readyState ≠ .closed) : .called .disconnect none ∈ t.trace := by
  induction h with
  | refl => exact absurd hclosed hopen
  | @tail u t hpath hmove ih =>
    by_cases hbefore : u.readyState = .closed
    · exact hmove.trace_prefix.subset (ih hbefore)
    · exact hmove.closes hclosed hbefore

/-- A socket is never closed because the server is silent: when it is closed, the connection has been lost, or the
user has disconnected. -/
theorem closed_by_user_or_lost {history : List (TransitionSystem.Taken Client Label)}
    (h : (system env).Run history s) (hclosed : s.readyState = .closed) :
    (∃ taken ∈ history, taken.label = .lost) ∨ .called .disconnect none ∈ s.trace := by
  induction h with
  | start hs =>
    rw [show _ = Client.new from hs] at hclosed
    cases hclosed
  | @snoc history s t l hrun hstep ih =>
    rcases step_cases hstep with ⟨hlost, -⟩ | hpath
    · exact .inl ⟨_, List.mem_append_right _ List.mem_cons_self, hlost⟩
    · by_cases hbefore : s.readyState = .closed
      · rcases ih hbefore with ⟨taken, hmem, hlost⟩ | hdisconnected
        · exact .inl ⟨taken, List.mem_append_left _ hmem, hlost⟩
        · exact .inr ((trace_prefix_of_path hpath).subset hdisconnected)
      · exact .inr (closes_of_path hpath hclosed hbefore)

/-- The answer of a server that wants a heartbeat in one direction. -/
def connectedAnswer : JsString :=
  Frame.wire ⟨literal "CONNECTED", ⟨[(literal "version", literal "1.1"), (literal "heart-beat", literal "0,20000")],
    by decide⟩, []⟩ 0

-- A second CONNECTED frame in the same text: one of two intervals survives the user.
example : (TransitionSystem.replay (step quiet) .new
    [.opened, .data (connectedAnswer ++ connectedAnswer), .call .disconnect]).map Client.intervals =
      some [⟨0, .ping, some 20000⟩] := by decide +kernel

/-- The connection is lost under a check that has found nothing. -/
theorem silent_lost : ∃ (history : List (TransitionSystem.Taken Client Label)) (s : Client),
    s.readyState = .closed ∧ ((∃ taken ∈ history, taken.label = .lost) ∨ .called .disconnect none ∈ s.trace) := by
  obtain ⟨history, s, hrun, hclosed⟩ := exists_run quiet [.opened, .data connectedAnswer, .tick 0, .lost]
    Client.readyState (a := .closed) (by decide +kernel)
  exact ⟨history, s, hclosed, closed_by_user_or_lost hrun hclosed⟩

end Stomp

end EventMonitor
