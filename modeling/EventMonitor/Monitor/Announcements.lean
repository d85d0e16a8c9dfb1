import EventMonitor.Monitor.System
import EventMonitor.Page.Listening
import EventMonitor.Page.OneLine
import EventMonitor.Pipeline.ExactlyOnce

/-!
# What users see of the requests

Every line on the list of a page is a notification that the server has sent since the page was loaded,
and every notification is about a request, about an exception, or the answer to a page. A page that
is answered once shows a notification once at most, so that no user reads twice of an action on a
request, whatever fails and however often the page has to connect again.
-/

namespace EventMonitor

open Library

namespace Monitor

open LogReaders Pipeline

variable {props : ApplicationProperties} {events : EventsTable} {s t : State} {tab : Tab}

/-- The text that a notification puts on a list. -/
def Notification.text (n : Notification) : String := n.body.data.content

/-- The status change that a notification is about. -/
def Notification.status (n : Notification) : Option (Message EventStatusChange) :=
  n.cause.bind fun cause => match cause with
    | .statusChange message => some message
    | .error _ => none

/-- The numbers of what a page has shown. -/
def Tab.numbers (tab : Tab) : List ℕ := tab.window.shown.map fun frame => tab.since + frame.broadcast

/-- What a page has shown since it was loaded. -/
def State.seen (s : State) (tab : Tab) : List Notification := entries s.serverList tab.numbers

/-- The frames of a page carry notifications that have been sent since it was loaded. -/
structure Tab.Sound (tab : Tab) (sent : List Notification) : Prop where
  next_le : tab.next ≤ sent.length
  body : ∀ frame ∈ tab.window.inFlight ++ tab.window.shown,
    (sent[tab.since + frame.broadcast]?).map Notification.body = some frame.body

/-- More is sent. -/
theorem Tab.Sound.sent {sent : List Notification} (h : tab.Sound sent) (later : List Notification) :
    tab.Sound (sent ++ later) := by
  refine ⟨?_, fun frame hmem => ?_⟩
  · rw [List.length_append]
    exact Nat.le_add_right_of_le h.next_le
  · obtain ⟨n, hget, hbody⟩ := Option.map_eq_some_iff.mp (h.body frame hmem)
    have hlt := (List.getElem?_eq_some_iff.mp hget).1
    rw [List.getElem?_append_left hlt, hget]
    exact congrArg some hbody

/-- A broadcast carries the notification that is due. -/
theorem Tab.Sound.delivered {sent : List Notification} (h : tab.Sound sent) {n : Notification}
    (hnext : sent[tab.next]? = some n) {targets : List (ℕ × ℕ)} {w : Page.Window}
    (hstep : Page.step tab.window (.broadcast n.body targets) = some w) :
    Tab.Sound { tab with window := w } sent := by
  obtain ⟨-, hw⟩ := Option.ite_none_right_eq_some.mp hstep
  obtain rfl := Option.some.inj hw
  refine ⟨(List.getElem?_eq_some_iff.mp hnext).1, fun frame hmem => ?_⟩
  have hcases : frame ∈ tab.window.inFlight ++ tab.window.shown ∨
      frame ∈ Page.messageFrames tab.window.broadcasts n.body targets := by
    simp only [List.mem_append] at hmem ⊢
    tauto
  rcases hcases with hearlier | hnew
  · exact h.body frame hearlier
  · obtain ⟨target, -, rfl⟩ := List.mem_map.mp hnew
    change (sent[tab.next]?).map Notification.body = some n.body
    rw [hnext]
    rfl

/-- Every page shows what has been sent. -/
theorem sound_of_reachable (h : (system props events).Reachable s) : ∀ tab ∈ s.tabs, tab.Sound s.serverList := by
  have hboth := tab_induct (P := fun sent tab => Page.system.Reachable tab.window ∧ tab.Sound sent)
    (fun sent => ?_) (fun sent later tab hs => ?_) (fun sent tab n targets w hs hnext hstep => ?_)
    (fun sent tab l w hs hl hstep => ?_) h
  · exact fun tab htab => (hboth tab htab).2
  · refine ⟨.start rfl, Nat.le_refl _, ?_⟩
    rw [Page.loaded_eq]
    simp [Page.blank, Page.Window.hold]
  · exact ⟨hs.1, hs.2.sent later⟩
  · exact ⟨hs.1.snoc hstep, hs.2.delivered hnext hstep⟩
  · obtain ⟨old, held, hheld⟩ := Page.exists_held hs.1
    obtain ⟨old', held', hmove⟩ := Page.step_move hheld.toLine hstep
    have hnot (body : JsonResult WebSocketDto) (targets : List (ℕ × ℕ)) : l ≠ .broadcast body targets := by
      rintro rfl
      contradiction
    obtain ⟨hbroadcasts, hframes⟩ := hmove.frames hnot
    refine ⟨hs.1.snoc hstep, ?_, fun frame hmem => hs.2.body frame (hframes.subset hmem)⟩
    have hnext := hs.2.next_le
    rw [Tab.next] at hnext ⊢
    rwa [hbroadcasts]

/-- What a page has shown, with the bodies it has been shown with. -/
theorem seen_body (h : tab.Sound s.serverList) :
    (s.seen tab).map Notification.body = tab.window.shown.map (·.body) :=
  map_entries fun frame hmem => h.body frame (List.mem_append_right _ hmem)

/-- What a page has shown, as users read it. -/
theorem seen_text (h : tab.Sound s.serverList) :
    (s.seen tab).map Notification.text = tab.window.shown.map Page.MessageFrame.text := by
  have hbody := congrArg (List.map fun body : JsonResult WebSocketDto => body.data.content) (seen_body h)
  rw [List.map_map, List.map_map] at hbody
  exact hbody

/-- The notification comes from the pipeline, or it answers a page. -/
structure Sent (s : State) : Prop where
  broadcasts : (s.serverList.filterMap fun n => n.cause.map fun cause => Broadcast.mk n.body cause) =
    s.server.serverList
  answers : ∀ n ∈ s.serverList, n.cause = none → n.body = WebSocketController.websocketEndpoint

/-- Nothing else is sent to `/server/list`. -/
theorem sent_of_reachable (h : (system props events).Reachable s) : Sent s := by
  refine h.invariant ?_ ?_
  · rintro s rfl
    exact ⟨rfl, by simp [start]⟩
  · intro s l t hs htaken
    cases step_move htaken with
    | server l server hstep =>
      have hkept := (Pipeline.step_move hstep).serverList_kept
      have hview (sent : List Broadcast) : (sent.map Notification.of).filterMap (fun n =>
          n.cause.map fun cause => Broadcast.mk n.body cause) = sent := by
        rw [List.filterMap_map]
        exact List.filterMap_some
      refine ⟨?_, fun n hmem hnone => ?_⟩
      · rw [List.filterMap_append, hs.broadcasts, hview]
        exact List.prefix_iff_eq_append.mp hkept
      · rcases List.mem_append.mp hmem with hearlier | hnew
        · exact hs.answers n hearlier hnone
        · obtain ⟨broadcast, -, rfl⟩ := List.mem_map.mp hnew
          contradiction
    | answered hasked =>
      refine ⟨?_, fun n hmem hnone => ?_⟩
      · rw [List.filterMap_append, hs.broadcasts]
        exact List.append_nil _
      · rcases List.mem_append.mp hmem with hearlier | hnew
        · exact hs.answers n hearlier hnone
        · rw [List.mem_singleton.mp hnew]
    | _ => exact ⟨hs.broadcasts, hs.answers⟩

/-- The status changes on `/server/list` are those that the pipeline has broadcast. -/
theorem Sent.statuses (h : Sent s) :
    s.serverList.filterMap Notification.status = Pipeline.statuses s.server.serverList := by
  rw [← h.broadcasts, Pipeline.statuses, List.filterMap_filterMap]
  apply List.filterMap_congr
  intro n _
  obtain ⟨body, cause⟩ := n
  cases cause with
  | none => rfl
  | some cause => cases cause <;> rfl

/-- What a notification can tell, and in which words: an action on a request that has been announced as
the listener does, an exception that has escaped and is answered, or that a page has connected. -/
inductive Explained (s : Pipeline.State) : Notification → Prop
  | announced (message : Message EventStatusChange) (body : EventDto) (changes : List EventStatusChange)
      (hrequest : s.requests[message.ticket]? = some body) (hchanges : Announced body changes)
      (hmem : message.object ∈ changes) :
      Explained s ⟨announcement message.object, some (.statusChange message)⟩
  | escaped (escape : Escape) (hmem : escape ∈ s.escaped) (horigin : escape.origin ≠ .processed) :
      Explained s ⟨errorReport escape.throwable, some (.error escape)⟩
  | connected : Explained s ⟨⟨.success, ⟨"Websocket connection established."⟩⟩, none⟩

/-- Every notification is explained. -/
theorem explained_of_reachable (h : (system props events).Reachable s) :
    ∀ n ∈ s.serverList, Explained s.server n := by
  have hsent := sent_of_reachable h
  have hserver := server_reachable h
  rintro ⟨notified, cause⟩ hmem
  cases cause with
  | none =>
    obtain rfl : notified = WebSocketController.websocketEndpoint := hsent.answers _ hmem rfl
    exact .connected
  | some cause =>
    have hbroadcast : Broadcast.mk notified cause ∈ s.server.serverList := by
      rw [← hsent.broadcasts, List.mem_filterMap]
      exact ⟨_, hmem, rfl⟩
    obtain rfl : notified = cause.body := body_of_reachable hserver _ hbroadcast
    cases cause with
    | statusChange message =>
      have hstatus := mem_statuses.mpr ⟨_, hbroadcast, rfl⟩
      have hpublished := (statuses_subperm hserver).subset hstatus
      obtain ⟨body, changes, hrequest, hchanges, hannounced⟩ :=
        mem_announced (ledger_of_reachable hserver) hpublished
      exact .announced message body changes hrequest hchanges hannounced
    | error escape =>
      have herror : escape ∈ errors s.server.serverList := List.mem_filterMap.mpr ⟨_, hbroadcast, rfl⟩
      rw [errors_of_reachable hserver, List.mem_filter, decide_eq_true_iff] at herror
      exact .escaped escape herror.1 herror.2

/-- Fewer messages have fewer status changes of a request. -/
theorem changesOf_subperm {first second : List (Message EventStatusChange)} (h : first.Subperm second)
    (ticket : ℕ) : (changesOf first ticket).Subperm (changesOf second ticket) := by
  obtain ⟨taken, hperm, hsublist⟩ := h
  exact ⟨changesOf taken ticket, (hperm.filter _).map _, (hsublist.filter _).map _⟩

/-- Whatever fails, no action on a request is published twice. -/
theorem published_once {s : Pipeline.State} (h : Ledger s) (ticket : ℕ) (action : Action) :
    ((changesOf s.published ticket).filter (·.action = action)).length ≤ 1 := by
  by_cases hticket : ticket < s.requests.length
  · obtain ⟨full, hfull, hbegins⟩ := h.changes_begin (List.getElem?_eq_getElem hticket)
    exact filter_action_length_le hfull hbegins action
  · have hnone : changesOf s.published ticket = [] :=
      changesOf_eq_nil fun m hm heq => hticket (heq ▸ h.known m hm)
    simp [hnone]

/-- What is on the list of a page is read from what has been sent since the page was loaded. -/
theorem exists_lines (h : (system props events).Reachable s) (htab : tab ∈ s.tabs) :
    ∃ lines : List Notification, tab.window.response = lines.map Notification.text ∧
      lines ⊆ s.serverList.drop tab.since ∧
      (Page.AnsweredOnce tab.window → lines.Subperm (s.serverList.drop tab.since)) := by
  have hwindow := window_reachable h tab htab
  obtain ⟨old, held, hheld⟩ := Page.exists_held hwindow
  have hresponse := hheld.response
  have hseen : s.seen tab =
      entries (s.serverList.drop tab.since) (tab.window.shown.map (·.broadcast)) := by
    rw [← entries_map_add, List.map_map]
    rfl
  rw [← seen_text (sound_of_reachable h tab htab)] at hresponse
  obtain ⟨lines, hlast, hlines⟩ := List.suffix_map_iff.mp hresponse
  refine ⟨lines, hlines, fun n hmem => ?_, fun hanswered => ?_⟩
  · have hread := hlast.subset hmem
    rw [hseen] at hread
    obtain ⟨number, -, hget⟩ := mem_of_mem_entries hread
    exact List.mem_of_getElem? hget
  · have honce := Page.shown_once_of_answeredOnce hheld.deliveries (hheld.counted.of_mem hheld.toLine) hanswered
    have hread := entries_subperm (s.serverList.drop tab.since) honce
    rw [← hseen] at hread
    exact hlast.sublist.subperm.trans hread

/-- Whatever fails, no action on a request is announced twice. -/
theorem announced_once (h : (system props events).Reachable s) (ticket : ℕ) (action : Action) :
    ((changesOf (s.serverList.filterMap Notification.status) ticket).filter (·.action = action)).length ≤ 1 := by
  have hserver := server_reachable h
  rw [(sent_of_reachable h).statuses]
  have hchanges := (changesOf_subperm (statuses_subperm hserver) ticket).filter (·.action = action)
  exact hchanges.length_le.trans (published_once (ledger_of_reachable hserver) ticket action)

/-- In every run of the server and its pages, with whatever failures and reconnects, every line on the list
of a page is a notification that has been sent since the page was loaded, and it is explained. If every
CONNECT of the page has been answered once, no notification is on its list twice; and of each request no
action has been announced twice. -/
theorem lines_explained (h : (system props events).Reachable s) (htab : tab ∈ s.tabs) :
    (∃ lines : List Notification, tab.window.response = lines.map Notification.text ∧
      (∀ n ∈ lines, n ∈ s.serverList.drop tab.since ∧ Explained s.server n) ∧
      (Page.AnsweredOnce tab.window → lines.Subperm (s.serverList.drop tab.since))) ∧
    ∀ ticket action,
      ((changesOf (s.serverList.filterMap Notification.status) ticket).filter (·.action = action)).length ≤ 1 := by
  obtain ⟨lines, hresponse, hsent, honce⟩ := exists_lines h htab
  exact ⟨⟨lines, hresponse, fun n hmem =>
    ⟨hsent hmem, explained_of_reachable h n (List.mem_of_mem_drop (hsent hmem))⟩, honce⟩, announced_once h⟩

/-- One event, from its PUT to the list of a page. -/
theorem event_explained : ∃ s tab, (system .test KeyedTable.empty).Reachable s ∧ tab ∈ s.tabs ∧
    tab.window.response = ["Websocket connection established.", "INSERT id=1, timestamp=0:0, updatedBy=0"] ∧
      ∃ lines : List Notification, tab.window.response = lines.map Notification.text ∧
        (∀ n ∈ lines, n ∈ s.serverList.drop tab.since ∧ Explained s.server n) ∧
        lines.Subperm (s.serverList.drop tab.since) := by
  have hrun : (TransitionSystem.replay (step .test) (start KeyedTable.empty)
      (connectedPage ++ (oneEvent ⟨none, some "event", none, none⟩).map .server ++
        [.deliver 0 [(0, 0)], .page 0 (.messageFrame 0)])).map (fun s => s.tabs.map fun tab =>
          (tab.window.response, decide (Page.AnsweredOnce tab.window))) =
      some [(["Websocket connection established.", "INSERT id=1, timestamp=0:0, updatedBy=0"], true)] := rfl
  obtain ⟨s, hs, hview⟩ := exists_reachable hrun
  obtain ⟨tab, rest, htabs, hhead, -⟩ := List.map_eq_cons_iff.mp hview
  rw [Prod.mk.injEq, decide_eq_true_iff] at hhead
  have htab : tab ∈ s.tabs := by rw [htabs]; exact List.mem_cons_self
  obtain ⟨⟨lines, hresponse, hsent, honce⟩, -⟩ := lines_explained hs htab
  exact ⟨s, tab, hs, htab, hhead.1, lines, hresponse, hsent, honce hhead.2⟩

end Monitor

end EventMonitor
