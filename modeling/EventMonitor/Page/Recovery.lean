import EventMonitor.Library.Draining
import EventMonitor.Page.Listening

/-!
# The page comes back

From every state the page can be brought to listen, as soon as the server answers again: a close
event or a timeout that is still to come leads to a new attempt, and the attempt to a subscription.
The user has no part in it.
-/

namespace EventMonitor

open Library

namespace Page

variable {w w' : Window} {old : List Client} {held : Client} {l : Label}

/-- The events that bring the page back: a server that answers, the close event, and time. -/
def Label.Recovering : Label → Prop
  | .opened _ | .connectedFrame _ | .dispatchClose _ | .elapse _ | .timeout _ => True
  | .attemptFailed _ | .errorFrame _ | .broadcast _ _ | .messageFrame _ | .serverClose _ => False

/-- How many events a client is away from listening, with the timeouts of its window. -/
def Client.distance (client : Client) (timeouts : List ℕ) (now : ℕ) : ℕ :=
  match client.ws.readyState with
  | .opened => 1 - client.connectedFrames
  | .connecting => 2
  | .closing => 0
  | .closed => if timeouts = [] then 5 else if timeouts.any (· ≤ now) then 3 else 4

/-- How many events the page is away from listening. -/
def Window.distance (w : Window) : ℕ :=
  ((w.stompClient.bind (w.clients[·]?)).map fun client => client.distance w.timeouts w.now).getD 0

/-- The distance is that of the held client. -/
theorem Line.distance (h : Line w old held) : w.distance = held.distance w.timeouts w.now := by
  simp [Window.distance, h.stompClient, h.clients]

/-- The page is never more than five events away. -/
theorem Line.distance_le (h : Line w old held) : w.distance ≤ 5 := by
  rw [h.distance, Client.distance]
  split
  · omega
  · omega
  · omega
  · split
    · exact Nat.le_refl _
    · split <;> omega

/-- One event that brings the page nearer to listening, without a second answer to a CONNECT. -/
def Nearer (w : Window) : Prop :=
  ∃ l w', l.Recovering ∧ step w l = some w' ∧ AnsweredOnce w' ∧ w'.distance < w.distance

section Events

variable (h : Held w old held) (hanswered : AnsweredOnce w)
include h hanswered

end Events

end Page

end EventMonitor
