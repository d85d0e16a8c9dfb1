import EventMonitor.Page.Shown

/-!
# A page that listens

A page listens when its socket is open and it has been told CONNECTED once: it then shows every
MESSAGE frame that comes over its subscription, and adds it to the list. Nothing else leads to a
line on the list, and only a CONNECTED frame takes lines away.
-/

namespace EventMonitor

open Library

namespace Page

variable {w w' : Window} {old old' : List Client} {held held' : Client} {l : Label} {c : ℕ}

/-- The text that a MESSAGE frame puts on the list. -/
def MessageFrame.text (frame : MessageFrame) : String := frame.body.data.content

/-- A client knows what it has asked for: one subscription for each CONNECTED frame. -/
structure Client.Subscribed (client : Client) : Prop where
  connect : client.ws.readyState = .opened → .connect ∈ client.ws.sent
  counter : client.counter = client.connectedFrames
  subscriptions : client.subscriptions = List.range client.counter
  asked : ∀ id < client.counter, .subscribe "/server/list" id ∈ client.ws.sent

/-- A new client has asked for nothing. -/
theorem subscribed_fresh : Client.fresh.Subscribed := by
  constructor <;> simp [Client.fresh]

/-- Subscribing adds the next subscription. -/
theorem subscribed_onConnected (h : held.Subscribed) : held.onConnected.Subscribed := by
  constructor
  · intro hopen
    exact List.mem_append_left _ (List.mem_append_left _ (h.connect hopen))
  · simp [Client.onConnected, Client.subscribe, Client.mapSocket, h.counter]
  · simp [Client.onConnected, Client.subscribe, Client.mapSocket, h.subscriptions, List.range_succ]
  · intro id hlt
    have hcases : id < held.counter ∨ id = held.counter := Nat.lt_succ_iff_lt_or_eq.mp hlt
    rcases hcases with hbefore | rfl
    · exact List.mem_append_left _ (List.mem_append_left _ (h.asked id hbefore))
    · exact List.mem_append_left _ (List.mem_append_right _ (List.mem_singleton_self _))

/-- Every event keeps what the held client knows. -/
theorem Move.subscribed (h : held.Subscribed) (hmove : Move w old held l w' old' held') :
    held'.Subscribed := by
  cases hmove with
  | opened hconnecting =>
    refine ⟨fun _ => by simp [Client.onOpen], h.counter, h.subscriptions, fun id hlt => ?_⟩
    exact List.mem_append_left _ (h.asked id hlt)
  | lost hlabel halive => exact ⟨by simp, h.counter, h.subscriptions, h.asked⟩
  | connected hopen => exact subscribed_onConnected h
  | reconnected k due htimeout hdue hready => exact subscribed_fresh
  | errored hopen => exact ⟨h.connect, h.counter, h.subscriptions, h.asked⟩
  | closed hscheduled => exact ⟨h.connect, h.counter, h.subscriptions, h.asked⟩
  | _ => exact h

/-- The list ends what has been shown. -/
theorem Move.response (h : w.response <:+ w.shown.map MessageFrame.text)
    (hmove : Move w old held l w' old' held') : w'.response <:+ w'.shown.map MessageFrame.text := by
  cases hmove with
  | connected hopen => exact List.nil_suffix
  | shown k frame hframe hclient hsubscription =>
    obtain ⟨earlier, hearlier⟩ := h
    refine ⟨earlier, ?_⟩
    rw [List.map_append, ← hearlier, List.append_assoc]
    rfl
  | _ => exact h

/-- What holds of the page in every state, of the client held then. -/
structure Held (w : Window) (old : List Client) (held : Client) : Prop extends Kept w old held where
  counted : AllCounted old held
  deliveries : Deliveries w old
  subscribed : held.Subscribed
  response : w.response <:+ w.shown.map MessageFrame.text

/-- In every state the page holds a client. -/
theorem exists_held (h : system.Reachable w) : ∃ old held, Held w old held := by
  have hloaded : AllCounted [] .fresh ∧ Deliveries loaded [] ∧ Client.fresh.Subscribed ∧
      loaded.response <:+ loaded.shown.map MessageFrame.text := by
    refine ⟨⟨by simp, by constructor <;> simp [Client.fresh]⟩, ?_, subscribed_fresh, List.nil_suffix⟩
    rw [loaded_eq]
    constructor <;> simp [blank]
  obtain ⟨old, held, hkept, hcounted, hdeliveries, hsubscribed, hresponse⟩ := kept_induct
    (P := fun w old held => AllCounted old held ∧ Deliveries w old ∧ held.Subscribed ∧
      w.response <:+ w.shown.map MessageFrame.text) hloaded
    (fun hkept h _ hmove => ⟨hmove.counted h.1, hmove.deliveries hkept.toLine h.1 h.2.1,
      hmove.subscribed h.2.2.1, hmove.response h.2.2.2⟩) (reachable_restrict h)
  exact ⟨old, held, ⟨hkept, hcounted, hdeliveries, hsubscribed, hresponse⟩⟩

/-- Only a broadcast brings MESSAGE frames, and each of them is shown once at most. -/
theorem Move.frames (hmove : Move w old held l w' old' held') (hl : ∀ body targets, l ≠ .broadcast body targets) :
    w'.broadcasts = w.broadcasts ∧ (w'.inFlight ++ w'.shown).Subperm (w.inFlight ++ w.shown) := by
  cases hmove with
  | broadcast body targets hnodup hsubscribed => exact absurd rfl (hl body targets)
  | shown k frame hframe hclient hsubscription =>
    obtain ⟨hlt, hget⟩ := List.getElem?_eq_some_iff.mp hframe
    have hfront : (frame :: w.inFlight.eraseIdx k).Perm w.inFlight :=
      hget ▸ List.getElem_cons_eraseIdx_perm hlt
    refine ⟨rfl, ?_⟩
    rw [← List.append_assoc]
    exact ((List.perm_append_singleton _ _).trans (hfront.append_right w.shown)).subperm
  | dropped k => exact ⟨rfl, ((List.eraseIdx_sublist ..).append_right _).subperm⟩
  | _ => exact ⟨rfl, List.Subperm.refl _⟩

/-- The page has been connected once over its current client, and is still connected. -/
def Listening (w : Window) (c : ℕ) : Prop :=
  w.stompClient = some c ∧ w.clients[c]?.any fun client =>
    client.ws.readyState = .opened ∧ client.connectedFrames = 1

instance (w : Window) (c : ℕ) : Decidable (Listening w c) :=
  inferInstanceAs (Decidable (_ ∧ _))

/-- The client over which the page listens is the one it holds. -/
theorem listening_iff (h : Line w old held) :
    Listening w c ↔ c = old.length ∧ held.ws.readyState = .opened ∧ held.connectedFrames = 1 := by
  rw [Listening, h.stompClient, Option.some.injEq]
  constructor
  · rintro ⟨rfl, hclient⟩
    simpa [h.clients] using hclient
  · rintro ⟨rfl, hclient⟩
    simpa [h.clients] using hclient

/-- A page that listens hears `/server/list`: it has asked the server for its one subscription, and the
callback is installed. -/
theorem subscribed_of_listening (h : Held w old held) (hlistening : Listening w c) :
    w.subscribed (c, 0) ∧ ∃ client, w.clients[c]? = some client ∧ client.subscriptions = [0] := by
  obtain ⟨rfl, -, hconnected⟩ := (listening_iff h.toLine).mp hlistening
  have hcounter : held.counter = 1 := h.subscribed.counter.trans hconnected
  have hget : w.clients[old.length]? = some held := by rw [h.clients, List.getElem?_concat_length]
  refine ⟨?_, held, hget, by rw [h.subscribed.subscriptions, hcounter]; rfl⟩
  have hasked := h.subscribed.asked 0 (by rw [hcounter]; decide)
  rw [Window.subscribed, hget]
  exact decide_eq_true hasked

/-- The broadcasts under way to a subscription. -/
def pending (w : Window) (c : ℕ) : List ℕ :=
  (w.inFlight.filter fun frame => frame.client = c ∧ frame.subscription = 0).map (·.broadcast)

/-- The broadcasts that are shown in the course of some steps, and those that are then under way, are
those that were under way before and those that have been sent since. -/
structure Shows (c : ℕ) (w w' : Window) (new : List MessageFrame) : Prop where
  shown : w'.shown = w.shown ++ new
  response : w'.response = w.response ++ new.map MessageFrame.text
  broadcasts : w.broadcasts ≤ w'.broadcasts
  perm : (new.map (·.broadcast) ++ pending w' c).Perm
    (pending w c ++ List.range' w.broadcasts (w'.broadcasts - w.broadcasts))

namespace Shows

/-- Nothing that concerns the list has changed. -/
theorem same (hinFlight : w'.inFlight = w.inFlight) (hshown : w'.shown = w.shown)
    (hresponse : w'.response = w.response) (hbroadcasts : w'.broadcasts = w.broadcasts) :
    Shows c w w' [] := by
  constructor
  · simp [hshown]
  · simp [hresponse]
  · simp [hbroadcasts]
  · simp [pending, hinFlight, hbroadcasts]

/-- Steps after steps. -/
theorem trans {w₁ w₂ w₃ : Window} {new new' : List MessageFrame} (h : Shows c w₁ w₂ new)
    (h' : Shows c w₂ w₃ new') : Shows c w₁ w₃ (new ++ new') := by
  constructor
  · rw [h'.shown, h.shown, List.append_assoc]
  · rw [h'.response, h.response, List.map_append, List.append_assoc]
  · exact Nat.le_trans h.broadcasts h'.broadcasts
  · have hrange : List.range' w₁.broadcasts (w₃.broadcasts - w₁.broadcasts) =
        List.range' w₁.broadcasts (w₂.broadcasts - w₁.broadcasts) ++
          List.range' w₂.broadcasts (w₃.broadcasts - w₂.broadcasts) := by
      have hfirst := h.broadcasts
      have hsecond := h'.broadcasts
      rw [show w₃.broadcasts - w₁.broadcasts =
        (w₂.broadcasts - w₁.broadcasts) + (w₃.broadcasts - w₂.broadcasts) by omega, ← List.range'_append,
        Nat.one_mul, Nat.add_sub_cancel' hfirst]
    have hlater := h'.perm.append_left (new.map (·.broadcast))
    have hearlier := h.perm.append_right (List.range' w₂.broadcasts (w₃.broadcasts - w₂.broadcasts))
    rw [← List.append_assoc] at hlater
    rw [List.append_assoc, List.append_assoc] at hearlier
    rw [List.map_append, hrange]
    exact hlater.trans hearlier

end Shows

/-- A broadcast that is sent to the subscription is under way to it once. -/
theorem pending_messageFrames {body : JsonResult WebSocketDto} {targets : List (ℕ × ℕ)}
    (hnodup : targets.Nodup) (hmem : (c, 0) ∈ targets) (broadcast : ℕ) :
    ((messageFrames broadcast body targets).filter fun frame => frame.client = c ∧ frame.subscription = 0).map
      (·.broadcast) = [broadcast] := by
  have hfilter : targets.filter (fun target => target.1 = c ∧ target.2 = 0) = [(c, 0)] := by
    rw [show (fun target : ℕ × ℕ => decide (target.1 = c ∧ target.2 = 0)) = (· == (c, 0)) by
      funext target
      rw [Bool.eq_iff_iff, decide_eq_true_iff, beq_iff_eq, Prod.ext_iff], List.filter_beq,
      List.count_eq_one_of_mem hnodup hmem, List.replicate_one]
  rw [messageFrames, List.filter_map, List.map_map]
  change (targets.filter fun target => target.1 = c ∧ target.2 = 0).map (fun _ => broadcast) = _
  rw [hfilter]
  rfl

/-- A MESSAGE frame at a page that listens is shown if it has come over the subscription, and dropped
otherwise. -/
theorem step_messageFrame (h : Held w old held) (hlistening : Listening w c) {k : ℕ}
    (hstep : step w (.messageFrame k) = some w') :
    ∃ frame, w.inFlight[k]? = some frame ∧ w' =
      if frame.client = c ∧ frame.subscription = 0 then { w with
        inFlight := w.inFlight.eraseIdx k
        response := w.response ++ [frame.text]
        shown := w.shown ++ [frame] }
      else { w with inFlight := w.inFlight.eraseIdx k } := by
  obtain ⟨-, client, hget, hsubscriptions⟩ := subscribed_of_listening h hlistening
  obtain ⟨rfl, hopen, -⟩ := (listening_iff h.toLine).mp hlistening
  rw [h.clients, List.getElem?_concat_length] at hget
  obtain rfl := Option.some.inj hget
  simp only [step] at hstep
  split at hstep
  next frame hframe =>
    obtain rfl := Option.some.inj hstep
    refine ⟨frame, hframe, ?_⟩
    generalize hrest : { w with inFlight := w.inFlight.eraseIdx k } = rest
    have hclients : rest.clients = old ++ [held] := by rw [← hrest, ← h.clients]
    by_cases hclient : frame.client = old.length
    · have hget : rest.clients[frame.client]? = some held := by
        rw [hclients, hclient, List.getElem?_concat_length]
      rw [run_onMessage hget hopen, hsubscriptions, ← hrest]
      simp [hclient, MessageFrame.text]
    · rw [if_neg fun hboth => hclient hboth.1]
      obtain ⟨-, client, hget, -⟩ := h.deliveries.addressed frame
        (List.mem_append_left _ (List.mem_of_getElem? hframe))
      have hnotOpen : client.ws.readyState ≠ .opened := fun hclientOpen =>
        hclient (h.toLine.held_of_not_closed hget (by simp [hclientOpen])).1
      rw [h.clients, ← hclients] at hget
      exact run_dispatchMessage_ignored hget hnotOpen _
  · contradiction

/-- A frame that has come over the subscription leaves what is under way. -/
theorem perm_pending {k : ℕ} {frame : MessageFrame} (hframe : w.inFlight[k]? = some frame)
    (hmine : frame.client = c ∧ frame.subscription = 0) :
    (frame.broadcast :: pending { w with inFlight := w.inFlight.eraseIdx k } c).Perm (pending w c) := by
  obtain ⟨hlt, hget⟩ := List.getElem?_eq_some_iff.mp hframe
  have hperm : (frame :: w.inFlight.eraseIdx k).Perm w.inFlight :=
    hget ▸ List.getElem_cons_eraseIdx_perm hlt
  have hfiltered := (hperm.filter fun frame => frame.client = c ∧ frame.subscription = 0).map (·.broadcast)
  rw [List.filter_cons_of_pos (by simpa using hmine), List.map_cons] at hfiltered
  exact hfiltered

/-- Another frame leaves it as it is. -/
theorem perm_pending_other {k : ℕ} {frame : MessageFrame} (hframe : w.inFlight[k]? = some frame)
    (hother : ¬ (frame.client = c ∧ frame.subscription = 0)) :
    (pending { w with inFlight := w.inFlight.eraseIdx k } c).Perm (pending w c) := by
  obtain ⟨hlt, hget⟩ := List.getElem?_eq_some_iff.mp hframe
  have hperm : (frame :: w.inFlight.eraseIdx k).Perm w.inFlight :=
    hget ▸ List.getElem_cons_eraseIdx_perm hlt
  have hfiltered := (hperm.filter fun frame => frame.client = c ∧ frame.subscription = 0).map (·.broadcast)
  rw [List.filter_cons_of_neg (by simpa using hother)] at hfiltered
  exact hfiltered

/-- A step of a page that listens before and after it, in which a broadcast goes to its subscription,
loses no broadcast. -/
theorem step_shows (h : Held w old held) (hlistening : Listening w c) (hstill : Listening w' c)
    (hbroker : ∀ body targets, l = .broadcast body targets → (c, 0) ∈ targets)
    (hstep : step w l = some w') : ∃ new, Shows c w w' new := by
  by_cases hframe : ∃ k, l = .messageFrame k
  · obtain ⟨k, rfl⟩ := hframe
    obtain ⟨frame, hget, rfl⟩ := step_messageFrame h hlistening hstep
    by_cases hmine : frame.client = c ∧ frame.subscription = 0
    · rw [if_pos hmine]
      refine ⟨[frame], rfl, rfl, Nat.le_refl _, ?_⟩
      rw [Nat.sub_self, List.range'_zero, List.append_nil]
      exact perm_pending hget hmine
    · rw [if_neg hmine]
      refine ⟨[], by simp, by simp, Nat.le_refl _, ?_⟩
      rw [Nat.sub_self, List.range'_zero, List.append_nil]
      exact perm_pending_other hget hmine
  · obtain ⟨old', held', hmove⟩ := step_move h.toLine hstep
    have hafter := (listening_iff (hmove.line h.toLine)).mp hstill
    obtain ⟨rfl, hopen, hconnected⟩ := (listening_iff h.toLine).mp hlistening
    cases hmove with
    | opened hconnecting => simp [hopen] at hconnecting
    | lost hlabel halive => simp at hafter
    | connected hopen => simp [Client.onConnected, Client.subscribe, Client.mapSocket, hconnected] at hafter
    | reconnected k due htimeout hdue hready => simp at hafter
    | shown k frame hget hclient hsubscription => exact absurd ⟨k, rfl⟩ hframe
    | dropped k => exact absurd ⟨k, rfl⟩ hframe
    | broadcast body targets hnodup hsubscribed =>
      refine ⟨[], by simp, by simp, Nat.le_succ _, ?_⟩
      simp only [pending, List.filter_append, List.map_append]
      rw [pending_messageFrames hnodup (hbroker body targets rfl) w.broadcasts, Nat.add_sub_cancel_left]
      exact List.Perm.refl _
    | _ => exact ⟨[], Shows.same rfl rfl rfl rfl⟩

/-- A page that listens can be sent a broadcast over its subscription. -/
theorem exists_broadcast (h : Held w old held) (hlistening : Listening w c) (body : JsonResult WebSocketDto) :
    ∃ w', step w (.broadcast body [(c, 0)]) = some w' ∧ Listening w' c ∧
      w'.broadcasts = w.broadcasts + 1 ∧ w'.inFlight.length = w.inFlight.length + 1 := by
  have hsubscribed : ∀ target ∈ [(c, 0)], w.subscribed target := by
    intro target hmem
    rw [List.mem_singleton.mp hmem]
    exact (subscribed_of_listening h hlistening).1
  refine ⟨_, if_pos ⟨List.nodup_singleton _, hsubscribed⟩, hlistening, rfl, ?_⟩
  rw [List.length_append]
  rfl

/-- A frame that is under way can arrive. -/
theorem exists_messageFrame (h : Held w old held) (hlistening : Listening w c) (hne : w.inFlight ≠ []) :
    ∃ w', step w (.messageFrame 0) = some w' ∧ Listening w' c ∧ w'.broadcasts = w.broadcasts ∧
      w'.inFlight.length + 1 = w.inFlight.length := by
  obtain ⟨frame, rest, hinFlight⟩ := List.exists_cons_of_ne_nil hne
  obtain ⟨w', hstep⟩ : ∃ w', step w (.messageFrame 0) = some w' := by simp [step, hinFlight]
  refine ⟨w', hstep, ?_⟩
  obtain ⟨frame, -, rfl⟩ := step_messageFrame h hlistening hstep
  split
  · exact ⟨hlistening, rfl, by simp [hinFlight]⟩
  · exact ⟨hlistening, rfl, by simp [hinFlight]⟩

end Page

end EventMonitor
