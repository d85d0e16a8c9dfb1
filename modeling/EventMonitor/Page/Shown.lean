import EventMonitor.Page.Line
import Mathlib.Data.List.Nodup
import Mathlib.Data.List.Perm.Basic

/-!
# The broadcasts that the page shows

A broadcast reaches the page once for each subscription that the server has been asked for, and a client
asks once for each CONNECTED frame. Frames to a client that has been given up are never
shown, so that all frames shown for one broadcast have come over one client.
-/

namespace EventMonitor

open Library

namespace Page

variable {w w' : Window} {old old' : List Client} {held held' : Client} {l : Label}

/-- What tells the MESSAGE frames of the server apart. -/
def MessageFrame.delivery (frame : MessageFrame) : ℕ × ℕ × ℕ :=
  (frame.client, frame.subscription, frame.broadcast)

/-- The server answers every CONNECT with at most one CONNECTED frame. -/
def AnsweredOnce (w : Window) : Prop :=
  ∀ client ∈ w.clients, client.connectedFrames ≤ client.ws.sent.count .connect

instance (w : Window) : Decidable (AnsweredOnce w) :=
  inferInstanceAs (Decidable (∀ client ∈ w.clients, client.connectedFrames ≤ client.ws.sent.count .connect))

/-- A client sends CONNECT once, when it opens, and asks for one subscription for each CONNECTED frame. -/
structure Client.Counted (client : Client) : Prop where
  connecting : client.ws.readyState = .connecting → client.ws.sent.count .connect = 0
  connects : client.ws.sent.count .connect ≤ 1
  counter : client.counter ≤ client.connectedFrames
  subscribes : ∀ destination id, .subscribe destination id ∈ client.ws.sent → id < client.counter

/-- Every client is counted. -/
def AllCounted (old : List Client) (held : Client) : Prop :=
  (∀ client ∈ old, client.Counted) ∧ held.Counted

/-- Every client of the page is counted. -/
theorem AllCounted.of_mem (h : AllCounted old held) (hline : Line w old held) :
    ∀ client ∈ w.clients, client.Counted := by
  rw [hline.clients, List.forall_mem_append]
  exact ⟨h.1, by simpa using h.2⟩

/-- Giving a client up sends at most DISCONNECT. -/
theorem counted_disconnected (hready : held.ws.readyState ≠ .connecting) (h : held.Counted) :
    held.disconnected.Counted := by
  by_cases hopen : held.ws.readyState = .opened
  · constructor
    · simp [Client.disconnected, hopen]
    · simpa [Client.disconnected, hopen] using h.connects
    · simpa [Client.disconnected] using h.counter
    · simpa [Client.disconnected, hopen] using h.subscribes
  · constructor
    · simp [Client.disconnected, hopen, hready]
    · simpa [Client.disconnected, hopen] using h.connects
    · simpa [Client.disconnected] using h.counter
    · simpa [Client.disconnected, hopen] using h.subscribes

/-- Subscribing keeps the count. -/
theorem counted_onConnected (hopen : held.ws.readyState = .opened) (h : held.Counted) :
    held.onConnected.Counted := by
  constructor
  · simp [Client.onConnected, Client.subscribe, Client.mapSocket, hopen]
  · simpa [Client.onConnected, Client.subscribe, Client.mapSocket] using h.connects
  · simpa [Client.onConnected, Client.subscribe, Client.mapSocket] using h.counter
  · intro destination id hmem
    have hcases : .subscribe destination id ∈ held.ws.sent ∨
        destination = "/server/list" ∧ id = held.counter := by
      simpa [Client.onConnected, Client.subscribe, Client.mapSocket] using hmem
    rcases hcases with hbefore | ⟨-, rfl⟩
    · exact Nat.lt_succ_of_lt (h.subscribes destination id hbefore)
    · exact Nat.lt_succ_self _

/-- Every event keeps the counts. -/
theorem Move.counted (h : AllCounted old held) (hmove : Move w old held l w' old' held') :
    AllCounted old' held' := by
  obtain ⟨hold, hheld⟩ := h
  cases hmove with
  | opened hconnecting =>
    refine ⟨hold, by simp, ?_, hheld.counter, ?_⟩
    · simp [Client.onOpen, Client.mapSocket, hheld.connecting hconnecting]
    · simpa [Client.onOpen, Client.mapSocket] using hheld.subscribes
  | lost hlabel halive => exact ⟨hold, by simp, hheld.connects, hheld.counter, hheld.subscribes⟩
  | connected hopen => exact ⟨hold, counted_onConnected hopen hheld⟩
  | errored hopen => exact ⟨hold, hheld.connecting, hheld.connects, hheld.counter, hheld.subscribes⟩
  | closed hscheduled => exact ⟨hold, hheld.connecting, hheld.connects, hheld.counter, hheld.subscribes⟩
  | closedEarlier i hearlier =>
    refine ⟨forall_mem_modify hold (fun client hbefore => ?_) i, hheld⟩
    exact ⟨hbefore.connecting, hbefore.connects, hbefore.counter, hbefore.subscribes⟩
  | reconnected k due htimeout hdue hready =>
    refine ⟨fun client hmem => ?_, by constructor <;> simp [Client.fresh]⟩
    rcases List.mem_append.mp hmem with hearlier | hlast
    · exact hold client hearlier
    · rw [List.mem_singleton.mp hlast]
      exact counted_disconnected hready hheld
  | _ => exact ⟨hold, hheld⟩

/-- Clients stay where they are, and their counters only grow. -/
def Grown (before after : List Client) : Prop :=
  ∀ (i : ℕ) (client : Client), before[i]? = some client →
    ∃ client' : Client, after[i]? = some client' ∧ client.counter ≤ client'.counter

/-- A change of the last client. -/
theorem grown_last (hgrown : held.counter ≤ held'.counter) : Grown (old ++ [held]) (old ++ [held']) := by
  intro i client hget
  rcases Nat.lt_trichotomy i old.length with hlt | rfl | hgt
  · rw [List.getElem?_append_left hlt] at hget ⊢
    exact ⟨client, hget, Nat.le_refl _⟩
  · rw [List.getElem?_concat_length] at hget ⊢
    obtain rfl := Option.some.inj hget
    exact ⟨held', rfl, hgrown⟩
  · rw [List.getElem?_eq_none (by simp; omega)] at hget
    contradiction

/-- Every event keeps the clients in place. -/
theorem Move.grown (h : Line w old held) (hmove : Move w old held l w' old' held') :
    Grown w.clients w'.clients := by
  have hsame : Grown w.clients w.clients := fun i client hget => ⟨client, hget, Nat.le_refl _⟩
  cases hmove with
  | closedEarlier i hearlier =>
    intro j client hget
    rw [Window.hold_clients, ← modify_earlier _ _ _ hearlier, List.getElem?_modify, ← h.clients, hget]
    refine ⟨_, rfl, ?_⟩
    split
    · exact Nat.le_refl _
    · exact Nat.le_refl _
  | reconnected k due htimeout hdue hready =>
    intro j client hget
    rw [h.clients] at hget
    have hgrown : Grown (old ++ [held]) (old ++ [held.disconnected]) := grown_last (Nat.le_refl _)
    obtain ⟨client', hget', hcounter⟩ := hgrown j client hget
    have hlt := (List.getElem?_eq_some_iff.mp hget').1
    exact ⟨client', by rw [Window.hold_clients, List.getElem?_append_left hlt, hget'], hcounter⟩
  | connected hopen =>
    rw [h.clients]
    exact grown_last (Nat.le_succ _)
  | opened hconnecting => rw [h.clients]; exact grown_last (Nat.le_refl _)
  | lost hlabel halive => rw [h.clients]; exact grown_last (Nat.le_refl _)
  | errored hopen => rw [h.clients]; exact grown_last (Nat.le_refl _)
  | closed hscheduled => rw [h.clients]; exact grown_last (Nat.le_refl _)
  | _ => exact hsame

/-- The frames for one broadcast: where they can still be shown, and where they have been. -/
structure Deliveries (w : Window) (old : List Client) : Prop where
  addressed : ∀ frame ∈ w.inFlight ++ w.shown, frame.broadcast < w.broadcasts ∧
    ∃ client, w.clients[frame.client]? = some client ∧ frame.subscription < client.counter
  distinct : ((w.inFlight ++ w.shown).map MessageFrame.delivery).Nodup
  one_client : ∀ x ∈ w.shown, ∀ y ∈ w.shown, x.broadcast = y.broadcast → x.client = y.client
  others_given_up : ∀ x ∈ w.shown, ∀ y ∈ w.inFlight, x.broadcast = y.broadcast →
    y.client = x.client ∨ y.client < old.length

/-- Changes of the clients alone. -/
theorem Deliveries.grown (h : Deliveries w old) (hgrown : Grown w.clients w'.clients)
    (hlength : old.length ≤ old'.length) (hbroadcasts : w'.broadcasts = w.broadcasts)
    (hinFlight : w'.inFlight = w.inFlight) (hshown : w'.shown = w.shown) : Deliveries w' old' := by
  constructor
  · rw [hinFlight, hshown, hbroadcasts]
    intro frame hmem
    obtain ⟨hbroadcast, client, hget, hcounter⟩ := h.addressed frame hmem
    obtain ⟨client', hget', hle⟩ := hgrown _ _ hget
    exact ⟨hbroadcast, client', hget', Nat.lt_of_lt_of_le hcounter hle⟩
  · rw [hinFlight, hshown]
    exact h.distinct
  · rw [hshown]
    exact h.one_client
  · rw [hinFlight, hshown]
    intro x hx y hy hsame
    rcases h.others_given_up x hx y hy hsame with hclient | hlt
    · exact Or.inl hclient
    · exact Or.inr (Nat.lt_of_lt_of_le hlt hlength)

/-- The frames of a broadcast. -/
theorem mem_messageFrames {broadcast : ℕ} {body : JsonResult WebSocketDto} {targets : List (ℕ × ℕ)}
    {frame : MessageFrame} (hmem : frame ∈ messageFrames broadcast body targets) :
    frame.broadcast = broadcast ∧ (frame.client, frame.subscription) ∈ targets := by
  obtain ⟨target, htarget, rfl⟩ := List.mem_map.mp hmem
  exact ⟨rfl, htarget⟩

/-- The frames of a broadcast are distinct. -/
theorem messageFrames_distinct (broadcast : ℕ) (body : JsonResult WebSocketDto)
    {targets : List (ℕ × ℕ)} (hnodup : targets.Nodup) :
    ((messageFrames broadcast body targets).map MessageFrame.delivery).Nodup := by
  rw [messageFrames, List.map_map]
  refine hnodup.map ?_
  intro target target' hsame
  simp only [Function.comp_apply, MessageFrame.delivery, Prod.mk.injEq, and_true] at hsame
  exact Prod.ext hsame.1 hsame.2

/-- A new broadcast. -/
theorem Deliveries.broadcast (h : Deliveries w old) (hcounted : ∀ client ∈ w.clients, client.Counted)
    (body : JsonResult WebSocketDto) {targets : List (ℕ × ℕ)} (hnodup : targets.Nodup)
    (hsubscribed : ∀ target ∈ targets, w.subscribed target) :
    Deliveries { w with
      broadcasts := w.broadcasts + 1
      inFlight := w.inFlight ++ messageFrames w.broadcasts body targets } old := by
  have hperm : ((w.inFlight ++ messageFrames w.broadcasts body targets) ++ w.shown).Perm
      ((w.inFlight ++ w.shown) ++ messageFrames w.broadcasts body targets) := by
    rw [List.append_assoc, List.append_assoc]
    exact List.perm_append_comm.append_left _
  constructor
  · intro frame hmem
    rcases List.mem_append.mp (hperm.mem_iff.mp hmem) with hbefore | hafter
    · obtain ⟨hbroadcast, hclient⟩ := h.addressed frame hbefore
      exact ⟨Nat.lt_succ_of_lt hbroadcast, hclient⟩
    · obtain ⟨hbroadcast, htarget⟩ := mem_messageFrames hafter
      obtain ⟨client, hget, hasked⟩ := (Option.any_eq_true _ _).mp (hsubscribed _ htarget)
      refine ⟨hbroadcast ▸ Nat.lt_succ_self _, client, hget, ?_⟩
      exact (hcounted client (List.mem_of_getElem? hget)).subscribes _ _ (of_decide_eq_true hasked)
  · rw [(hperm.map _).nodup_iff, List.map_append, List.nodup_append]
    refine ⟨h.distinct, messageFrames_distinct _ _ hnodup, fun a hbefore b hafter hab => ?_⟩
    obtain ⟨x, hx, rfl⟩ := List.mem_map.mp hbefore
    obtain ⟨y, hy, rfl⟩ := List.mem_map.mp hafter
    have hsame : x.broadcast = y.broadcast := congrArg (fun delivery => delivery.2.2) hab
    have hlt := (h.addressed x hx).1
    rw [hsame, (mem_messageFrames hy).1] at hlt
    exact absurd hlt (Nat.lt_irrefl _)
  · exact h.one_client
  · intro x hx y hy hsame
    rcases List.mem_append.mp hy with hbefore | hafter
    · exact h.others_given_up x hx y hbefore hsame
    · have hlt := (h.addressed x (List.mem_append_right _ hx)).1
      rw [hsame, (mem_messageFrames hafter).1] at hlt
      exact absurd hlt (Nat.lt_irrefl _)

/-- A frame that is not shown. -/
theorem Deliveries.dropped (h : Deliveries w old) (k : ℕ) :
    Deliveries { w with inFlight := w.inFlight.eraseIdx k } old := by
  have hsub : (w.inFlight.eraseIdx k).Sublist w.inFlight := List.eraseIdx_sublist ..
  constructor
  · exact fun frame hmem => h.addressed frame ((hsub.append_right _).subset hmem)
  · exact h.distinct.sublist ((hsub.append_right _).map _)
  · exact h.one_client
  · exact fun x hx y hy => h.others_given_up x hx y (hsub.subset hy)

/-- A frame that is shown by the held client. -/
theorem Deliveries.shown (h : Deliveries w old) (hline : Line w old held) {k : ℕ} {frame : MessageFrame}
    (hframe : w.inFlight[k]? = some frame) (hclient : frame.client = old.length) :
    Deliveries { w with
      inFlight := w.inFlight.eraseIdx k
      response := w.response ++ [frame.body.data.content]
      shown := w.shown ++ [frame] } old := by
  have hmem : frame ∈ w.inFlight := List.mem_of_getElem? hframe
  have hsub : (w.inFlight.eraseIdx k).Sublist w.inFlight := List.eraseIdx_sublist ..
  have hperm : (w.inFlight.eraseIdx k ++ (w.shown ++ [frame])).Perm (w.inFlight ++ w.shown) := by
    obtain ⟨hlt, hget⟩ := List.getElem?_eq_some_iff.mp hframe
    have hfront : (frame :: w.inFlight.eraseIdx k).Perm w.inFlight := hget ▸ List.getElem_cons_eraseIdx_perm hlt
    rw [← List.append_assoc]
    exact (List.perm_append_singleton _ _).trans (hfront.append_right w.shown)
  -- a client that has not been given up is the held one
  have hshown : ∀ x ∈ w.shown, x.broadcast = frame.broadcast → x.client = frame.client := by
    intro x hx hsame
    rcases h.others_given_up x hx frame hmem hsame with hsameClient | hlt
    · exact hsameClient.symm
    · omega
  constructor
  · exact fun x hx => h.addressed x (hperm.mem_iff.mp hx)
  · rw [(hperm.map _).nodup_iff]
    exact h.distinct
  · intro x hx y hy hsame
    rcases List.mem_append.mp hx with hx | hx
    · rcases List.mem_append.mp hy with hy | hy
      · exact h.one_client x hx y hy hsame
      · rw [List.mem_singleton.mp hy] at hsame ⊢
        exact hshown x hx hsame
    · rw [List.mem_singleton.mp hx] at hsame ⊢
      rcases List.mem_append.mp hy with hy | hy
      · exact (hshown y hy hsame.symm).symm
      · rw [List.mem_singleton.mp hy]
  · intro x hx y hy hsame
    rcases List.mem_append.mp hx with hx | hx
    · exact h.others_given_up x hx y (hsub.subset hy) hsame
    · rw [List.mem_singleton.mp hx]
      obtain ⟨client, hget, _⟩ := (h.addressed y (List.mem_append_left _ (hsub.subset hy))).2
      have hlt := (List.getElem?_eq_some_iff.mp hget).1
      rw [hline.clients, List.length_append, List.length_singleton] at hlt
      omega

/-- Every event keeps the frames in order. -/
theorem Move.deliveries (hline : Line w old held) (hcounted : AllCounted old held) (h : Deliveries w old)
    (hmove : Move w old held l w' old' held') : Deliveries w' old' := by
  have hgrown := hmove.grown hline
  cases hmove with
  | broadcast body targets hnodup hsubscribed =>
    exact h.broadcast (hcounted.of_mem hline) body hnodup hsubscribed
  | shown k frame hframe hclient hsubscription => exact h.shown hline hframe hclient
  | dropped k => exact h.dropped k
  | closedEarlier i hearlier => exact h.grown hgrown (by simp) rfl rfl rfl
  | reconnected k due htimeout hdue hready => exact h.grown hgrown (by simp) rfl rfl rfl
  | _ => exact h.grown hgrown (Nat.le_refl _) rfl rfl rfl

end Page

end EventMonitor
