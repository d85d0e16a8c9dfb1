import EventMonitor.Page.Line

/-!
# Reconnects

The same `reconnect` is called for an ERROR frame and for the close event, and nothing records
that a timeout is pending. Without a second call for a client that has had an ERROR frame there is
at most one timeout, and the attempts are ten seconds apart; with one there are two timeouts.
-/

namespace EventMonitor

open Library

namespace Page

variable {w w' : Window} {old old' : List Client} {held held' : Client} {l : Label}

/-- At most one reconnect is pending, and the attempts so far are ten seconds apart. -/
def Paced (w : Window) : Prop :=
  w.timeouts.length ≤ 1 ∧ w.attempts.Pairwise fun earlier later => earlier + 10000 ≤ later

instance (w : Window) : Decidable (Paced w) :=
  inferInstanceAs (Decidable (_ ∧ w.attempts.Pairwise fun earlier later => earlier + 10000 ≤ later))

/-- The event is a further ERROR frame, or the close event, of a client that has had an ERROR frame. -/
def CallsBackAgain (w : Window) : Label → Prop
  | .errorFrame i => ∃ client, w.clients[i]? = some client ∧ client.ws.readyState = .opened ∧
      0 < client.errorFrames
  | .dispatchClose i => ∃ client, w.clients[i]? = some client ∧ client.ws.onclose = true ∧
      0 < client.errorFrames
  | _ => False

instance (w : Window) : DecidablePred (CallsBackAgain w)
  | .errorFrame i => inferInstanceAs (Decidable (∃ client ∈ w.clients[i]?,
      client.ws.readyState = .opened ∧ 0 < client.errorFrames))
  | .dispatchClose i => inferInstanceAs (Decidable (∃ client ∈ w.clients[i]?,
      client.ws.onclose = true ∧ 0 < client.errorFrames))
  | .opened _ | .attemptFailed _ | .connectedFrame _ | .broadcast _ _ | .messageFrame _
  | .serverClose _ | .elapse _ | .timeout _ => inferInstanceAs (Decidable False)

/-- Once the held client has had an ERROR frame, a timeout is pending. -/
structure ErrorPending (w : Window) (held : Client) : Prop where
  ready : 0 < held.errorFrames → held.ws.readyState ≠ .connecting
  pending : 0 < held.errorFrames → w.timeouts ≠ []

/-- No event takes the timeout of an ERROR frame away but the next attempt. -/
theorem Move.errorPending (h : ErrorPending w held) (hmove : Move w old held l w' old' held') :
    ErrorPending w' held' := by
  cases hmove with
  | opened hconnecting => exact ⟨by simp, h.pending⟩
  | lost hlabel halive => exact ⟨by simp, h.pending⟩
  | errored hopen =>
    have hready : held.ws.readyState ≠ .connecting := by simp [hopen]
    exact ⟨fun _ => hready, fun _ => by simp⟩
  | closed hscheduled => exact ⟨h.ready, fun _ => by simp⟩
  | refused k hconnecting => exact ⟨h.ready, fun herror => absurd hconnecting (h.ready herror)⟩
  | reconnected k due htimeout hdue hready => exact ⟨by simp, by simp⟩
  | _ => exact ⟨h.ready, h.pending⟩

/-- A second call leaves two timeouts. -/
theorem not_paced_of_callsBackAgain (hline : Line w old held) (h : ErrorPending w held)
    (hmove : Move w old held l w' old' held') (hagain : CallsBackAgain w l) : ¬ Paced w' := by
  have htwo : 0 < held.errorFrames → 1 < (w.timeouts ++ [w.now + 10000]).length := by
    intro herror
    have hpending := List.length_pos_iff.mpr (h.pending herror)
    rw [List.length_append, List.length_singleton]
    omega
  have hlast : w.clients[old.length]? = some held := by rw [hline.clients, List.getElem?_concat_length]
  rintro ⟨hone, -⟩
  cases hmove with
  | errored hopen =>
    obtain ⟨client, hget, -, herror⟩ := hagain
    obtain rfl : held = client := Option.some.inj (hlast.symm.trans hget)
    exact absurd hone (Nat.not_le.mpr (htwo herror))
  | closed hscheduled =>
    obtain ⟨client, hget, -, herror⟩ := hagain
    obtain rfl : held = client := Option.some.inj (hlast.symm.trans hget)
    exact absurd hone (Nat.not_le.mpr (htwo herror))
  | ignored i hlabel hnotOpen =>
    rcases hlabel with rfl | rfl
    · exact hagain
    · obtain ⟨client, hget, hopen, -⟩ := hagain
      obtain ⟨hi, rfl⟩ := hline.held_of_not_closed hget (by simp [hopen])
      exact hnotOpen hi hopen
  | closedEarlier i hearlier =>
    obtain ⟨client, hget, hinstalled, -⟩ := hagain
    rw [hline.clients, List.getElem?_append_left hearlier] at hget
    rw [(hline.old_closed client (List.mem_of_getElem? hget)).2] at hinstalled
    contradiction
  | lost hlabel halive =>
    rcases hlabel with rfl | rfl
    · exact hagain
    · exact hagain
  | _ => exact hagain

/-- The timeout that is pending, and the attempts so far. -/
structure Timed (w : Window) (held : Client) : Prop where
  one : w.timeouts.length ≤ 1
  cause : w.timeouts ≠ [] → 0 < held.errorFrames ∨
    (held.ws.readyState = .closed ∧ held.ws.closeEvents = 0)
  close_events : held.ws.closeEvents ≤ 1
  close_closed : 0 < held.ws.closeEvents → held.ws.readyState = .closed
  past : ∀ attempt ∈ w.attempts, attempt ≤ w.now
  due : ∀ due ∈ w.timeouts, ∀ attempt ∈ w.attempts, attempt + 10000 ≤ due
  spaced : w.attempts.Pairwise fun earlier later => earlier + 10000 ≤ later

/-- Nothing is pending for an open client without an ERROR frame, nor before its close event. -/
theorem Timed.none_pending (h : Timed w held) (herror : held.errorFrames = 0)
    (hcloses : held.ws.readyState = .closed → 0 < held.ws.closeEvents) : w.timeouts = [] := by
  by_contra hpending
  rcases h.cause hpending with hafter | ⟨hclosed, hnone⟩
  · omega
  · have hscheduled := hcloses hclosed
    omega

/-- A timeout that is set when none is pending is due ten seconds after every attempt. -/
theorem Timed.scheduled (h : Timed w held) (hnone : w.timeouts = []) :
    (w.timeouts ++ [w.now + 10000]).length ≤ 1 ∧
      ∀ due ∈ w.timeouts ++ [w.now + 10000], ∀ attempt ∈ w.attempts, attempt + 10000 ≤ due := by
  rw [hnone]
  refine ⟨Nat.le_refl _, fun due hdue attempt hattempt => ?_⟩
  rw [List.mem_singleton.mp hdue]
  exact Nat.add_le_add_right (h.past attempt hattempt) _

/-- An event that does not call `reconnect` again keeps the one timeout. -/
theorem Move.timed (hline : Line w old held) (h : Timed w held)
    (hmove : Move w old held l w' old' held') (honce : ¬ CallsBackAgain w l) : Timed w' held' := by
  have hlast : w.clients[old.length]? = some held := by rw [hline.clients, List.getElem?_concat_length]
  cases hmove with
  | opened hconnecting =>
    refine { h with cause := fun hpending => ?_, close_closed := fun hscheduled => ?_ }
    · rcases h.cause hpending with hafter | ⟨hclosed, -⟩
      · exact Or.inl hafter
      · exact absurd hclosed (by simp [hconnecting])
    · exact absurd (h.close_closed hscheduled) (by simp [hconnecting])
  | lost hlabel halive =>
    have hfirst : held.ws.closeEvents = 0 := by
      by_contra hscheduled
      exact halive (h.close_closed (Nat.pos_of_ne_zero hscheduled))
    refine { h with cause := fun hpending => ?_, close_events := ?_, close_closed := fun _ => rfl }
    · rcases h.cause hpending with hafter | ⟨hclosed, -⟩
      · exact Or.inl hafter
      · exact absurd hclosed halive
    · simp [Client.mapSocket, SockJS.didClose, hfirst]
  | connected hopen => exact { h with }
  | errored hopen =>
    have herror : held.errorFrames = 0 := by
      by_contra hbefore
      exact honce ⟨held, hlast, hopen, Nat.pos_of_ne_zero hbefore⟩
    have hnone := h.none_pending herror fun hclosed => absurd hclosed (by simp [hopen])
    obtain ⟨hone, hdue⟩ := h.scheduled hnone
    exact { h with one := hone, due := hdue, cause := fun _ => Or.inl (Nat.succ_pos _) }
  | closed hscheduled =>
    have herror : held.errorFrames = 0 := by
      by_contra hbefore
      exact honce ⟨held, hlast, hline.held_onclose, Nat.pos_of_ne_zero hbefore⟩
    have hnone := h.none_pending herror fun _ => hscheduled
    obtain ⟨hone, hdue⟩ := h.scheduled hnone
    have hclosed := h.close_closed hscheduled
    have hevents := h.close_events
    have hnow : held.ws.closeEvents - 1 = 0 := by omega
    exact { h with
      one := hone
      due := hdue
      cause := fun _ => Or.inr ⟨hclosed, hnow⟩
      close_events := Nat.le_trans (Nat.sub_le ..) hevents
      close_closed := fun _ => hclosed }
  | elapsed millis =>
    exact { h with past := fun attempt hmem => Nat.le_add_right_of_le (h.past attempt hmem) }
  | refused k hconnecting =>
    have hsub : (w.timeouts.eraseIdx k).Sublist w.timeouts := List.eraseIdx_sublist ..
    refine { h with
      one := Nat.le_trans hsub.length_le h.one
      cause := fun hpending => h.cause fun hnil => hpending ?_
      due := fun due hmem => h.due due (hsub.subset hmem) }
    change w.timeouts.eraseIdx k = []
    rw [hnil, List.eraseIdx_nil]
  | reconnected k due htimeout hdue hready =>
    have hmem := List.mem_of_getElem? htimeout
    have hnone : w.timeouts.eraseIdx k = [] := by
      have hk := (List.getElem?_eq_some_iff.mp htimeout).1
      have hlength := List.length_eraseIdx_of_lt hk
      have hone := h.one
      exact List.eq_nil_of_length_eq_zero (by omega)
    constructor
    · simp [hnone]
    · simp [hnone]
    · simp [Client.fresh]
    · simp [Client.fresh]
    · intro attempt hattempt
      rcases List.mem_append.mp hattempt with hbefore | hlatest
      · exact h.past attempt hbefore
      · rw [List.mem_singleton.mp hlatest]
        exact Nat.le_refl _
    · simp [hnone]
    · refine List.pairwise_append.mpr ⟨h.spaced, List.pairwise_singleton .., ?_⟩
      intro earlier hearlier later hlater
      rw [List.mem_singleton.mp hlater]
      exact Nat.le_trans (h.due due hmem earlier hearlier) hdue
  | _ => exact { h with }

/-- A run keeps to one reconnect at a time, in all states that it visits, exactly if no client
calls `reconnect` again after an ERROR frame. -/
theorem paced_iff {history : List (TransitionSystem.Taken Window Label)}
    (hrun : system.Run history w) :
    (∀ visited ∈ loaded :: history.map (·.target), Paced visited) ↔
      ∀ taken ∈ history, ¬ CallsBackAgain taken.source taken.label := by
  constructor
  · intro hpaced taken hmem hagain
    obtain ⟨hsource, hstep⟩ := hrun.step_of_mem taken hmem
    obtain ⟨old, held, hkept, herror⟩ := kept_induct (P := fun w _ held => ErrorPending w held)
      ⟨by simp, by simp⟩ (fun _ h _ hmove => hmove.errorPending h) (reachable_restrict hsource)
    obtain ⟨old', held', hmove⟩ := step_move hkept.toLine hstep
    refine not_paced_of_callsBackAgain hkept.toLine herror hmove hagain (hpaced _ ?_)
    exact List.mem_cons_of_mem _ (List.mem_map_of_mem hmem)
  · intro honce visited hmem
    have hreachable : (system.restrict fun taken => ¬ CallsBackAgain taken.source taken.label).Reachable
        visited := by
      rcases List.mem_cons.mp hmem with rfl | htarget
      · exact .start rfl
      · obtain ⟨taken, htaken, rfl⟩ := List.mem_map.mp htarget
        obtain ⟨hsource, hstep⟩ := (hrun.restrict honce).step_of_mem taken htaken
        exact hsource.snoc hstep
    have hloaded : Timed loaded .fresh := by
      constructor <;> simp [loaded_eq, blank, Client.fresh]
    obtain ⟨old, held, -, htimed⟩ := kept_induct (P := fun w _ held => Timed w held) hloaded
      (fun hkept h honce hmove => hmove.timed hkept.toLine h honce) hreachable
    exact ⟨htimed.one, htimed.spaced⟩

/-- The server closes the socket after an ERROR frame: `reconnect` has then been called twice, and
both timeouts lead to an attempt if the socket of the first attempt opens in between. -/
theorem two_reconnects_pending :
    (∃ w, system.Reachable w ∧ w.timeouts = [10000, 10000] ∧ ¬ Paced w) ∧
      ∃ w, system.Reachable w ∧ w.attempts = [0, 10000, 10000] := by
  have hpending : (TransitionSystem.replay step loaded [.opened 0, .connectedFrame 0, .errorFrame 0,
      .serverClose 0, .dispatchClose 0]).map (fun w => (w.timeouts, decide (Paced w))) =
      some ([10000, 10000], false) := by decide
  have hattempts : (TransitionSystem.replay step loaded [.opened 0, .connectedFrame 0, .errorFrame 0,
      .serverClose 0, .dispatchClose 0, .elapse 10000, .timeout 0, .opened 1, .timeout 0]).map (·.attempts) =
      some [0, 10000, 10000] := by decide
  obtain ⟨w, hreachable, hview⟩ := exists_reachable hpending
  simp only [Prod.mk.injEq, decide_eq_false_iff_not] at hview
  exact ⟨⟨w, hreachable, hview⟩, exists_reachable hattempts⟩

/-- A lost connection without an ERROR frame is followed by one attempt after ten seconds. -/
theorem lost_connection_paced :
    ∃ history w, system.Run history w ∧ w.attempts = [0, 10000] ∧
      ∀ visited ∈ loaded :: history.map (·.target), Paced visited := by
  have hrun : (TransitionSystem.replay (fun w l => if ¬ CallsBackAgain w l then step w l else none) loaded
      [.opened 0, .connectedFrame 0, .serverClose 0, .dispatchClose 0, .elapse 10000, .timeout 0]).map
      (·.attempts) = some [0, 10000] := by decide
  obtain ⟨history, w, hhistory, honce, hattempts⟩ := exists_run hrun
  exact ⟨history, w, hhistory, hattempts, (paced_iff hhistory).mpr honce⟩

end Page

end EventMonitor
