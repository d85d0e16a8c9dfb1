import EventMonitor.Page.Moves

/-!
# The page never gives up its line

The held client has not lost its `onclose` handler, and once its socket is closed either the
close event is still to come or a timeout is pending. Together with the shape of the clients this survives
every event, also the exception of `disconnect` on a socket that is still connecting. All later
invariants of the page are proved along the same runs.
-/

namespace EventMonitor

open Library

namespace Page

variable {w w' : Window} {old old' : List Client} {held held' : Client} {l : Label}

/-- The page holds its last client, and a reconnect is to come once that is closed. -/
structure Kept (w : Window) (old : List Client) (held : Client) : Prop extends Line w old held where
  held_alive : held.ws.readyState = .closed → 0 < held.ws.closeEvents ∨ w.timeouts ≠ []

/-- The page after its load. -/
theorem loaded_eq : loaded = { blank with
    stompClient := some 0
    attempts := [0] }.hold [] .fresh := rfl

/-- The page holds a client that is connecting. -/
theorem kept_loaded : Kept loaded [] .fresh := by
  rw [loaded_eq]
  constructor
  · constructor <;> simp [Window.hold, Client.fresh]
  · simp [Client.fresh]

/-- A client that is given up is closed, unless it is connecting or closing. -/
theorem disconnected_closed (hready : held.ws.readyState ≠ .connecting)
    (hclosing : held.ws.readyState ≠ .closing) :
    held.disconnected.ws.readyState = .closed ∧ held.disconnected.ws.onclose = false := by
  rcases hstate : held.ws.readyState with _ | _ | _ | _
  · exact absurd hstate hready
  · simp [Client.disconnected, hstate]
  · exact absurd hstate hclosing
  · simp [Client.disconnected, hstate]

/-- The clients keep their shape. -/
theorem Move.line (h : Line w old held) (hmove : Move w old held l w' old' held') :
    Line w' old' held' := by
  cases hmove with
  | opened hconnecting => exact ⟨rfl, h.stompClient, h.old_closed, h.held_onclose, by simp⟩
  | lost hlabel halive => exact ⟨rfl, h.stompClient, h.old_closed, h.held_onclose, by simp⟩
  | connected hopen => exact ⟨rfl, h.stompClient, h.old_closed, h.held_onclose, h.held_closing⟩
  | errored hopen => exact ⟨rfl, h.stompClient, h.old_closed, h.held_onclose, h.held_closing⟩
  | ignored i hlabel hnotOpen => exact h
  | broadcast body targets hnodup hsubscribed => exact { h with }
  | shown k frame hframe hclient hsubscription => exact { h with }
  | dropped k => exact { h with }
  | closed hscheduled => exact ⟨rfl, h.stompClient, h.old_closed, h.held_onclose, h.held_closing⟩
  | closedEarlier i hearlier =>
    have hclosed := forall_mem_modify (f := Client.onCloseEvent) h.old_closed (fun _ hbefore => hbefore) i
    refine ⟨rfl, ?_, hclosed, h.held_onclose, h.held_closing⟩
    rw [List.length_modify]
    exact h.stompClient
  | elapsed millis => exact { h with }
  | refused k hconnecting => exact { h with }
  | reconnected k due htimeout hdue hready =>
    refine ⟨rfl, by simp, fun client hmem => ?_, rfl, by simp⟩
    rcases List.mem_append.mp hmem with hearlier | hlast
    · exact h.old_closed client hearlier
    · rw [List.mem_singleton.mp hlast]
      exact disconnected_closed hready h.held_closing

/-- No event leaves a closed held client with neither a close event nor a timeout to come. -/
theorem Move.kept (h : Kept w old held) (hmove : Move w old held l w' old' held') :
    Kept w' old' held' := by
  refine ⟨hmove.line h.toLine, ?_⟩
  cases hmove with
  | opened hconnecting => simp
  | lost hlabel halive => exact fun _ => Or.inl (Nat.succ_pos _)
  | connected hopen =>
    have halive : held.onConnected.ws.readyState ≠ .closed := by
      simp [Client.onConnected, Client.subscribe, hopen]
    exact fun hclosed => absurd hclosed halive
  | errored hopen => exact fun _ => Or.inr (by simp)
  | closed hscheduled => exact fun _ => Or.inr (by simp)
  | refused k hconnecting => exact fun hclosed => absurd hclosed (by simp [hconnecting])
  | reconnected k due htimeout hdue hready => simp
  | _ => exact h.held_alive

/-- Induction along the runs whose steps meet a condition: what holds after the load and survives
every event that meets it holds in the end, of the client held then. -/
theorem kept_induct {guard : TransitionSystem.Taken Window Label → Prop}
    {P : Window → List Client → Client → Prop} (hloaded : P loaded [] .fresh)
    (hmove : ∀ {w l w' old held old' held'}, Kept w old held → P w old held → guard ⟨w, l, w'⟩ →
      Move w old held l w' old' held' → P w' old' held') (h : (system.restrict guard).Reachable w) :
    ∃ old held, Kept w old held ∧ P w old held := by
  refine h.invariant (P := fun w => ∃ old held, Kept w old held ∧ P w old held) ?_ ?_
  · rintro w rfl
    exact ⟨[], .fresh, kept_loaded, hloaded⟩
  · rintro w l w' ⟨old, held, hkept, hw⟩ ⟨hstep, hguard⟩
    obtain ⟨old', held', hnext⟩ := step_move hkept.toLine hstep
    exact ⟨old', held', hnext.kept hkept, hmove hkept hw hguard hnext⟩

/-- The unconditional runs are those whose steps meet the trivial condition. -/
theorem reachable_restrict (h : system.Reachable w) : (system.restrict fun _ => True).Reachable w := by
  obtain ⟨history, hrun⟩ := h
  exact ⟨history, hrun.restrict fun _ _ => trivial⟩

end Page

end EventMonitor
