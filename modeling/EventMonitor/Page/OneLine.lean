import EventMonitor.Library.LogReaders
import EventMonitor.Page.Listening

/-!
# One line to the server

The page keeps exactly one line to the server and never gives up, whatever happens at its sockets
and in whatever order its timeouts fire. What it shows of one broadcast has come over that line, once
for each CONNECTED frame that the line has been answered with.
-/

namespace EventMonitor

open Library

namespace Page

variable {w : Window}

/-- The broadcasts that the server has sent to the page, in their order. -/
def sentBy (labels : List Label) : List (JsonResult WebSocketDto) :=
  labels.filterMap fun l => match l with
    | .broadcast body _ => some body
    | .opened _ | .attemptFailed _ | .connectedFrame _ | .errorFrame _ | .messageFrame _ | .serverClose _
    | .dispatchClose _ | .elapse _ | .timeout _ => none

/-- The page holds one client: all others are closed. Its list ends what has been shown, each line with the
text of a broadcast; the frames shown for one broadcast have come over one client, once for each of its
subscriptions, and if every CONNECT has been answered once, no broadcast is on the list twice. Unless a
timeout is pending, the held client still has the handler that leads to the next attempt. -/
structure OneLine (sent : List (JsonResult WebSocketDto)) (w : Window) (i : ℕ) (held : Client) : Prop where
  stompClient : w.stompClient = some i
  held_client : w.clients[i]? = some held
  others_closed : ∀ (j : ℕ) (client : Client), w.clients[j]? = some client → j ≠ i →
    client.ws.readyState = .closed
  response : w.response <:+ w.shown.map MessageFrame.text
  shown_sent : ∀ frame ∈ w.shown, sent[frame.broadcast]? = some frame.body
  shown_one_client : ∀ x ∈ w.shown, ∀ y ∈ w.shown, x.broadcast = y.broadcast → x.client = y.client
  shown_distinct : (w.shown.map MessageFrame.delivery).Nodup
  shown_once : AnsweredOnce w → (w.shown.map (·.broadcast)).Nodup
  response_once : AnsweredOnce w → w.response.Subperm (sent.map (·.data.content))
  not_given_up : w.timeouts ≠ [] ∨
    (held.ws.onclose = true ∧ (held.ws.readyState ≠ .closed ∨ 0 < held.ws.closeEvents))

/-- The frames of the page carry what has been sent to it. -/
structure Carries (sent : List (JsonResult WebSocketDto)) (w : Window) : Prop where
  broadcasts : w.broadcasts = sent.length
  body : ∀ frame ∈ w.inFlight ++ w.shown, sent[frame.broadcast]? = some frame.body

/-- A broadcast brings frames with its body. -/
theorem Carries.broadcast {sent : List (JsonResult WebSocketDto)} (h : Carries sent w)
    (body : JsonResult WebSocketDto) (targets : List (ℕ × ℕ)) :
    Carries (sent ++ [body]) { w with
      broadcasts := w.broadcasts + 1
      inFlight := w.inFlight ++ messageFrames w.broadcasts body targets } := by
  refine ⟨by simp [h.broadcasts], fun frame hmem => ?_⟩
  have hcases : frame ∈ w.inFlight ++ w.shown ∨ frame ∈ messageFrames w.broadcasts body targets := by
    simp only [List.mem_append] at hmem ⊢
    tauto
  rcases hcases with hearlier | hnew
  · have hbody := h.body frame hearlier
    rw [List.getElem?_append_left (List.getElem?_eq_some_iff.mp hbody).1, hbody]
  · obtain ⟨target, -, rfl⟩ := List.mem_map.mp hnew
    rw [h.broadcasts, List.getElem?_concat_length]

/-- In every run the frames carry what has been sent. -/
theorem carries_of_run {history : List (TransitionSystem.Taken Window Label)} (hrun : system.Run history w) :
    Carries (sentBy (history.map TransitionSystem.Taken.label)) w := by
  induction hrun with
  | start hs =>
    obtain rfl : _ = loaded := hs
    rw [loaded_eq]
    exact ⟨rfl, by simp [blank, Window.hold]⟩
  | @snoc history w w' l hbefore hstep ih =>
    obtain ⟨old, held, hheld⟩ := exists_held ⟨history, hbefore⟩
    obtain ⟨old', held', hmove⟩ := step_move hheld.toLine hstep
    rw [List.map_append, sentBy, List.filterMap_append, ← sentBy]
    by_cases hl : ∃ body targets, l = .broadcast body targets
    · obtain ⟨body, targets, rfl⟩ := hl
      cases hmove with
      | lost hlabel halive => rcases hlabel with hlabel | hlabel <;> contradiction
      | ignored i hlabel hnotOpen => rcases hlabel with hlabel | hlabel <;> contradiction
      | broadcast body targets hnodup hsubscribed => exact ih.broadcast body targets
    · obtain ⟨hbroadcasts, hframes⟩ := hmove.frames fun body targets heq => hl ⟨body, targets, heq⟩
      have hnone : sentBy [l] = [] := by
        cases l with
        | broadcast body targets => exact absurd ⟨body, targets, rfl⟩ hl
        | _ => rfl
      rw [List.map_singleton, ← sentBy, hnone, List.append_nil]
      exact ⟨hbroadcasts.trans ih.broadcasts, fun frame hmem => ih.body frame (hframes.subset hmem)⟩

/-- Frames of one broadcast are shown once if every CONNECT has been answered once: the client that
shows them has then asked for one subscription. -/
theorem shown_once_of_answeredOnce {old : List Client} (h : Deliveries w old)
    (hcounted : ∀ client ∈ w.clients, client.Counted) (hanswered : AnsweredOnce w) :
    (w.shown.map (·.broadcast)).Nodup := by
  have hsubscription : ∀ frame ∈ w.shown, frame.subscription = 0 := by
    intro frame hmem
    obtain ⟨client, hget, hlt⟩ := (h.addressed frame (List.mem_append_right _ hmem)).2
    have hclient := List.mem_of_getElem? hget
    have hconnected := hanswered client hclient
    have hconnects := (hcounted client hclient).connects
    have hcounter := (hcounted client hclient).counter
    omega
  have hdistinct : (w.shown.map MessageFrame.delivery).Nodup :=
    h.distinct.sublist ((List.sublist_append_right _ _).map _)
  rw [List.Nodup, List.pairwise_map] at hdistinct ⊢
  refine hdistinct.imp_of_mem fun {x y} hx hy hne hsame => hne ?_
  simp only [MessageFrame.delivery, Prod.mk.injEq]
  exact ⟨h.one_client x hx y hy hsame, by rw [hsubscription x hx, hsubscription y hy], hsame⟩

/-- In every state after the load there is one line to the server, and it is not given up. -/
theorem oneLine_kept {history : List (TransitionSystem.Taken Window Label)} (hrun : system.Run history w) :
    ∃ i held, OneLine (sentBy (history.map TransitionSystem.Taken.label)) w i held := by
  obtain ⟨old, held, hheld⟩ := exists_held ⟨history, hrun⟩
  have hsent : ∀ frame ∈ w.shown,
      (sentBy (history.map TransitionSystem.Taken.label))[frame.broadcast]? = some frame.body :=
    fun frame hmem => (carries_of_run hrun).body frame (List.mem_append_right _ hmem)
  have honce := shown_once_of_answeredOnce hheld.deliveries (hheld.counted.of_mem hheld.toLine)
  refine ⟨old.length, held, ⟨hheld.stompClient, ?_, ?_, hheld.response, hsent, hheld.deliveries.one_client, ?_,
    honce, fun hanswered => ?_, ?_⟩⟩
  · rw [hheld.clients, List.getElem?_concat_length]
  · intro j client hget hother
    by_contra halive
    exact hother (hheld.held_of_not_closed hget halive).1
  · exact hheld.deliveries.distinct.sublist ((List.sublist_append_right _ _).map _)
  · -- what is on the list has been read from what has been sent, nothing of it twice
    have hread : (LogReaders.entries (sentBy (history.map TransitionSystem.Taken.label))
        (w.shown.map (·.broadcast))).map (·.data.content) = w.shown.map MessageFrame.text :=
      LogReaders.map_entries fun frame hmem => by rw [hsent frame hmem]; rfl
    have hsubperm := LogReaders.entries_subperm (sentBy (history.map TransitionSystem.Taken.label))
      (honce hanswered)
    have hall := LogReaders.subperm_map hsubperm (·.data.content)
    rw [hread] at hall
    exact hheld.response.sublist.subperm.trans hall
  · by_cases hclosed : held.ws.readyState = .closed
    · rcases hheld.held_alive hclosed with hscheduled | hpending
      · exact Or.inr ⟨hheld.held_onclose, Or.inr hscheduled⟩
      · exact Or.inl hpending
    · exact Or.inr ⟨hheld.held_onclose, Or.inl hclosed⟩

/-- A server that answers one CONNECT twice: the page then has two subscriptions, and one broadcast is on
its list twice. -/
theorem broadcast_shown_twice : ∃ history w, system.Run history w ∧
    sentBy (history.map TransitionSystem.Taken.label) = [.of ⟨"event"⟩] ∧ w.response = ["event", "event"] := by
  have hrun : (TransitionSystem.replay step loaded [.opened 0, .connectedFrame 0, .connectedFrame 0,
      .broadcast (.of ⟨"event"⟩) [(0, 0), (0, 1)], .messageFrame 0, .messageFrame 0]).map (·.response) =
      some ["event", "event"] := by decide
  obtain ⟨history, w, hreached, hlabels, hresponse⟩ := exists_labelled_run hrun
  exact ⟨history, w, hreached, by rw [hlabels]; rfl, hresponse⟩

/-- The first line is lost with a broadcast under way, and the next broadcast is shown over the second. -/
def secondLine : List Label :=
  [.opened 0, .connectedFrame 0, .broadcast (.of ⟨"first"⟩) [(0, 0)], .serverClose 0, .dispatchClose 0,
    .elapse 10000, .timeout 0, .opened 1, .connectedFrame 1, .broadcast (.of ⟨"second"⟩) [(1, 0)],
    .messageFrame 0, .messageFrame 0]

/-- The second line is the only one. -/
theorem secondLine_kept : ∃ history w, system.Run history w ∧ w.clients.length = 2 ∧ AnsweredOnce w ∧
    w.response = ["second"] ∧ w.response.Subperm ["first", "second"] ∧
      ∃ i held, OneLine (sentBy (history.map TransitionSystem.Taken.label)) w i held := by
  have hrun : (TransitionSystem.replay step loaded secondLine).map (fun w =>
      (w.clients.length, decide (AnsweredOnce w), w.response)) = some (2, true, ["second"]) := by decide
  obtain ⟨history, w, hreached, hlabels, hview⟩ := exists_labelled_run hrun
  simp only [Prod.mk.injEq, decide_eq_true_eq] at hview
  obtain ⟨hclients, hanswered, hresponse⟩ := hview
  obtain ⟨i, held, hline⟩ := oneLine_kept hreached
  have honce := hline.response_once hanswered
  rw [hlabels] at honce
  exact ⟨history, w, hreached, hclients, hanswered, hresponse, honce, i, held, hline⟩

end Page

end EventMonitor
