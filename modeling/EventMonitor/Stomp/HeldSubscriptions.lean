import EventMonitor.Stomp.Subscriptions

/-!
# The subscriptions that the server holds

While the client keeps its own journal of subscriptions, the server has that of the frames. Since only a
socket that is still connecting refuses these frames, the server never holds a subscription for which the
client has no handler. Ids that objects or functions inherit are left out.
-/

namespace EventMonitor

open Library JavaScript

namespace Stomp

open Page (ReadyState)

variable {env : Env} {s t : Client}

/-- What a frame tells the server about a subscription. -/
def Frame.entry (frame : Frame) : Option (JsString × Option Unit) :=
  let id := (frame.headers.get (literal "id")).getD []
  if frame.command = literal "SUBSCRIBE" then some (id, some ())
  else if frame.command = literal "UNSUBSCRIBE" then some (id, none)
  else none

/-- A server that has read the frames holds the subscription. -/
def Held (frames : List Frame) (id : JsString) : Prop :=
  Journal.lastWord (frames.filterMap Frame.entry) id = some ()

/-- A call about a subscription with an ordinary id; which number the client would choose makes no difference. -/
def Call.Subscribes (c : Call) : Prop := ∃ entry ∈ c.request 0, Ordinary entry.1

/-- No call about such a subscription has thrown. -/
def Honoured (trace : List Event) : Prop :=
  ∀ c thrown, .called c thrown ∈ trace → c.Subscribes → thrown = none

/-- Once the socket is open, no call about a subscription throws. -/
def HonouredSinceOpen (s : Client) : Prop :=
  s.readyState = .opened → ∃ early later, s.trace = early ++ later ∧ frames 0 early = [] ∧ Honoured later

/-- One more event. -/
theorem HonouredSinceOpen.concat (hs : HonouredSinceOpen s) (event : Event)
    (hevent : ∀ c thrown, event = .called c thrown → c.Subscribes → s.readyState = .opened → thrown = none)
    (hstate : t.readyState = s.readyState ∨ t.readyState ≠ .opened) (htrace : t.trace = s.trace ++ [event]) :
    HonouredSinceOpen t := by
  intro hopen
  have hopenBefore : s.readyState = .opened := by
    rcases hstate with hsame | hnot
    · exact hsame ▸ hopen
    · exact absurd hopen hnot
  obtain ⟨early, later, hsplit, hnone, hhonoured⟩ := hs hopenBefore
  refine ⟨early, later ++ [event], by rw [htrace, hsplit, List.append_assoc], hnone, ?_⟩
  intro c thrown hmem hsubscribes
  rcases List.mem_append.mp hmem with hold | hnew
  · exact hhonoured c thrown hold hsubscribes
  · exact hevent c thrown (List.mem_singleton.mp hnew).symm hsubscribes hopenBefore

/-- Nothing is recorded. -/
theorem HonouredSinceOpen.same (hs : HonouredSinceOpen s)
    (hstate : t.readyState = s.readyState ∨ t.readyState ≠ .opened) (htrace : t.trace = s.trace) :
    HonouredSinceOpen t := by
  intro hopen
  rcases hstate with hsame | hnot
  · exact htrace ▸ hs (hsame ▸ hopen)
  · exact absurd hopen hnot

end Stomp

end EventMonitor
