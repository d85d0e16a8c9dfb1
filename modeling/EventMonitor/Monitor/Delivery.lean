import EventMonitor.Monitor.Announcements
import EventMonitor.Page.Recovery
import EventMonitor.Pipeline.Progress

/-!
# What users are shown of their requests

As long as a page stays connected and nothing fails, nothing is lost on the way from a PUT to the list:
when the server has become idle and all frames have arrived, the three lines of every request that has
been made since have been added to the list, once each, and nothing else about it. And the server and
the page can always be brought there.
-/

namespace EventMonitor

open Library

namespace Monitor

open LogReaders Pipeline EventServiceImpl

variable {props : ApplicationProperties} {events : EventsTable} {s t : State} {l : Label} {i c : ℕ}

/-- A page is connected. -/
def Listening (s : State) (i c : ℕ) : Prop := s.tabs[i]?.any fun tab => Page.Listening tab.window c

instance (s : State) (i c : ℕ) : Decidable (Listening s i c) := inferInstanceAs (Decidable (_ = true))

/-- The page that is connected. -/
theorem listening_iff : Listening s i c ↔ ∃ tab, s.tabs[i]? = some tab ∧ Page.Listening tab.window c := by
  simp [Listening, Option.any_eq_true]

/-- A step in which the page stays connected, its subscription gets what is broadcast to the page, and
nothing fails at the server. -/
structure Undisturbed (i c : ℕ) (taken : TransitionSystem.Taken State Label) : Prop where
  listening : Listening taken.target i c
  broker : ∀ targets, taken.label = .deliver i targets → (c, 0) ∈ targets
  server : taken.target.server.escaped = taken.source.server.escaped

/-- The server is idle, and the page has been handed everything. -/
structure Done (s : State) (i : ℕ) : Prop where
  server : Idle s.server
  page : ∀ tab, s.tabs[i]? = some tab → tab.next = s.serverList.length ∧ tab.window.inFlight = []

/-- The pages, and what the page with the given index shows in the course of some steps. -/
def Shown (i c : ℕ) (s t : State) (new : List Page.MessageFrame) : Prop :=
  s.serverList <+: t.serverList ∧ ∃ tab tab', s.tabs[i]? = some tab ∧ t.tabs[i]? = some tab' ∧
    tab'.since = tab.since ∧ Page.Shows c tab.window tab'.window new

/-- A step at another page, or at none. -/
theorem shown_same {tab : Tab} (hkept : s.serverList <+: t.serverList) (htab : s.tabs[i]? = some tab)
    (htab' : t.tabs[i]? = some tab) : Shown i c s t [] :=
  ⟨hkept, tab, tab, htab, htab', rfl, .same rfl rfl rfl rfl⟩

/-- A step at the page itself. -/
theorem shown_of_step {tab : Tab} {w : Page.Window} {l : Page.Label} (h : (system props events).Reachable s)
    (htab : s.tabs[i]? = some tab) (hlistening : Page.Listening tab.window c)
    (hstill : Listening { s with tabs := s.tabs.set i { tab with window := w } } i c)
    (hbroker : ∀ body targets, l = .broadcast body targets → (c, 0) ∈ targets)
    (hstep : Page.step tab.window l = some w) :
    ∃ new, Shown i c s { s with tabs := s.tabs.set i { tab with window := w } } new := by
  have hlt := (List.getElem?_eq_some_iff.mp htab).1
  have htab' : (s.tabs.set i { tab with window := w })[i]? = some { tab with window := w } :=
    List.getElem?_set_self hlt
  obtain ⟨other, hother, hw⟩ := listening_iff.mp hstill
  obtain rfl := Option.some.inj (htab'.symm.trans hother)
  obtain ⟨old, held, hheld⟩ := Page.exists_held (window_reachable h tab (List.mem_of_getElem? htab))
  obtain ⟨new, hshows⟩ := Page.step_shows hheld hlistening hw hbroker hstep
  exact ⟨new, List.prefix_refl _, tab, _, htab, htab', rfl, hshows⟩

/-- An undisturbed step loses nothing. -/
theorem shown_of_undisturbed (h : (system props events).Reachable s) (hlistening : Listening s i c)
    (htaken : (system props events).step s l t) (hl : Undisturbed i c ⟨s, l, t⟩) :
    ∃ new, Shown i c s t new := by
  obtain ⟨tab, htab, hpage⟩ := listening_iff.mp hlistening
  have hstill := hl.listening
  cases step_move htaken with
  | server l server hstep => exact ⟨[], shown_same (List.prefix_append _ _) htab htab⟩
  | answered hasked => exact ⟨[], shown_same (List.prefix_append _ _) htab htab⟩
  | loaded =>
    have hlt := (List.getElem?_eq_some_iff.mp htab).1
    exact ⟨[], shown_same (List.prefix_refl _) htab ((List.getElem?_append_left hlt).trans htab)⟩
  | delivered j targets other n w hother hnext hstep =>
    by_cases hsame : j = i
    · subst hsame
      obtain rfl := Option.some.inj (htab.symm.trans hother)
      refine shown_of_step h htab hpage hstill (fun body targets' hlabel => ?_) hstep
      rw [Page.Label.broadcast.injEq] at hlabel
      exact hlabel.2 ▸ hl.broker targets rfl
    · exact ⟨[], shown_same (List.prefix_refl _) htab ((List.getElem?_set_ne hsame).trans htab)⟩
  | moved j l other w hother hnot hstep =>
    by_cases hsame : j = i
    · subst hsame
      obtain rfl := Option.some.inj (htab.symm.trans hother)
      refine shown_of_step h htab hpage hstill (fun body targets hlabel => ?_) hstep
      rw [hlabel] at hnot
      contradiction
    · exact ⟨[], shown_same (List.prefix_refl _) htab ((List.getElem?_set_ne hsame).trans htab)⟩

/-- Undisturbed steps lose nothing. -/
theorem shown_of_path {later : List (TransitionSystem.Taken State Label)}
    (h : (system props events).Reachable s) (hlistening : Listening s i c)
    (hpath : (system props events).Path s later t) (hlater : ∀ taken ∈ later, Undisturbed i c taken) :
    (∃ new, Shown i c s t new) ∧ t.server.escaped = s.server.escaped := by
  induction hpath with
  | nil s =>
    obtain ⟨tab, htab, -⟩ := listening_iff.mp hlistening
    exact ⟨⟨[], shown_same (List.prefix_refl _) htab htab⟩, rfl⟩
  | cons hstep _ ih =>
    have hhead := hlater _ List.mem_cons_self
    obtain ⟨new, hkept, tab, tab', htab, htab', hsince, hshows⟩ := shown_of_undisturbed h hlistening hstep hhead
    obtain ⟨⟨new', hkept', tab₁, tab'', htab₁, htab'', hsince', hshows'⟩, hescaped⟩ :=
      ih (h.snoc hstep) hhead.listening fun taken hmem => hlater taken (List.mem_cons_of_mem _ hmem)
    obtain rfl := Option.some.inj (htab'.symm.trans htab₁)
    refine ⟨⟨new ++ new', hkept.trans hkept', tab, tab'', htab, htab'', hsince'.trans hsince,
      hshows.trans hshows'⟩, hescaped.trans hhead.server⟩

/-- A notification is about a request. -/
def Notification.about (ticket : ℕ) (n : Notification) : Bool := n.cause.map Cause.ticket = some ticket

/-- What has been sent about a request. -/
theorem Sent.notificationsOf (h : Sent s) (ticket : ℕ) :
    (s.serverList.filter (Notification.about ticket)).map Notification.body =
      Pipeline.notificationsOf s.server ticket := by
  rw [Pipeline.notificationsOf, ← h.broadcasts]
  induction s.serverList with
  | nil => rfl
  | cons n sent ih =>
    obtain ⟨body, cause⟩ := n
    cases cause with
    | none => simpa [Notification.about] using ih
    | some cause => by_cases hticket : cause.ticket = ticket <;> simp [Notification.about, hticket, ih]

/-- Where nothing has failed, nothing has been sent about a request that is still to come. -/
theorem about_eq_false (h : (system props events).Reachable s) (hnone : s.server.escaped = []) {ticket : ℕ}
    (hticket : s.server.requests.length ≤ ticket) : ∀ n ∈ s.serverList, n.about ticket = false := by
  have hserver := server_reachable h
  intro n hmem
  rw [Notification.about, decide_eq_false_iff_not]
  intro habout
  obtain ⟨cause, hcause, rfl⟩ := Option.map_eq_some_iff.mp habout
  have hbroadcast : Broadcast.mk n.body cause ∈ s.server.serverList := by
    rw [← (sent_of_reachable h).broadcasts, List.mem_filterMap]
    exact ⟨n, hmem, by rw [hcause]; rfl⟩
  cases cause with
  | statusChange message =>
    have hpublished := (statuses_subperm hserver).subset (mem_statuses.mpr ⟨_, hbroadcast, rfl⟩)
    exact absurd ((ledger_of_reachable hserver).known message hpublished) (Nat.not_lt.mpr hticket)
  | error escape =>
    have herror : escape ∈ errors s.server.serverList := List.mem_filterMap.mpr ⟨_, hbroadcast, rfl⟩
    rw [errors_of_reachable hserver, hnone] at herror
    contradiction

/-- The frames that are under way over the subscription of a page. -/
def Tab.underWay (tab : Tab) (c : ℕ) : List Page.MessageFrame :=
  tab.window.inFlight.filter fun frame => frame.client = c ∧ frame.subscription = 0

/-- The notifications that they carry. -/
def State.underWay (s : State) (tab : Tab) (c : ℕ) : List Notification :=
  entries s.serverList ((tab.underWay c).map fun frame => tab.since + frame.broadcast)

/-- They have been sent before. -/
theorem underWay_subset (tab : Tab) (c : ℕ) : s.underWay tab c ⊆ s.serverList := by
  intro n hmem
  obtain ⟨number, -, hget⟩ := mem_of_mem_entries hmem
  exact List.mem_of_getElem? hget

/-- They are shown as they have been sent. -/
theorem underWay_text {tab : Tab} (hsound : tab.Sound s.serverList) (c : ℕ) :
    (s.underWay tab c).map Notification.text = (tab.underWay c).map Page.MessageFrame.text := by
  refine map_entries fun frame hmem => ?_
  have hbody := hsound.body frame (List.mem_append_left _ (List.mem_of_mem_filter hmem))
  have htext := congrArg (Option.map fun body : JsonResult WebSocketDto => body.data.content) hbody
  rw [Option.map_map] at htext
  exact htext

/-- They stay the same when more is sent. -/
theorem entries_underWay {tab : Tab} (hsound : tab.Sound s.serverList) (hkept : s.serverList <+: t.serverList)
    (c : ℕ) : entries t.serverList ((tab.underWay c).map fun frame => tab.since + frame.broadcast) =
      s.underWay tab c := by
  refine entries_of_prefix hkept fun number hmem => ?_
  obtain ⟨frame, hframe, rfl⟩ := List.mem_map.mp hmem
  obtain ⟨n, hget, -⟩ := Option.map_eq_some_iff.mp
    (hsound.body frame (List.mem_append_left _ (List.mem_of_mem_filter hframe)))
  exact (List.getElem?_eq_some_iff.mp hget).1

/-- The page that has been handed everything has shown what was under way to it and what has been sent
since. -/
theorem perm_entries {new : List Page.MessageFrame} (hkept : s.serverList <+: t.serverList) {tab tab' : Tab}
    (hsound : tab.Sound s.serverList) (hsince : tab'.since = tab.since)
    (hshows : Page.Shows c tab.window tab'.window new) (hnext : tab'.next = t.serverList.length)
    (harrived : tab'.window.inFlight = []) :
    (entries t.serverList (new.map fun frame => tab.since + frame.broadcast)).Perm
      (s.underWay tab c ++ t.serverList.drop tab.next) := by
  have hperm := (hshows.perm.map (tab.since + ·))
  have hlength : t.serverList.length = tab.since + tab'.window.broadcasts := by rw [← hnext, Tab.next, hsince]
  have hrest : (List.range' tab.window.broadcasts (tab'.window.broadcasts - tab.window.broadcasts)).map
      (tab.since + ·) = List.range' tab.next (t.serverList.length - tab.next) := by
    rw [List.map_add_range', hlength, Tab.next, Nat.add_sub_add_left]
  have hpending : (Page.pending tab.window c).map (tab.since + ·) =
      (tab.underWay c).map fun frame => tab.since + frame.broadcast := List.map_map
  rw [show Page.pending tab'.window c = [] by simp [Page.pending, harrived], List.append_nil, List.map_map,
    List.map_append, hrest, hpending] at hperm
  have hread := entries_perm t.serverList hperm
  rwa [entries_append, entries_range', entries_underWay hsound hkept] at hread

/-- What has been sent about a request that has been made since has not been handed to the page before. -/
theorem perm_about (h : (system props events).Reachable s) (hnone : s.server.escaped = [])
    (hkept : s.serverList <+: t.serverList) {tab : Tab} (hsound : tab.Sound s.serverList) {ticket : ℕ}
    (hticket : s.server.requests.length ≤ ticket) {lines : List Notification}
    (hlines : lines.Perm (s.underWay tab c ++ t.serverList.drop tab.next)) :
    (lines.filter (Notification.about ticket)).Perm (t.serverList.filter (Notification.about ticket)) := by
  have hbefore := about_eq_false h hnone hticket
  have hunderWay : (s.underWay tab c).filter (Notification.about ticket) = [] := by
    rw [List.filter_eq_nil_iff]
    intro n hmem
    rw [hbefore n (underWay_subset tab c hmem)]
    simp
  have htaken : (t.serverList.take tab.next).filter (Notification.about ticket) = [] := by
    rw [List.filter_eq_nil_iff]
    intro n hmem
    obtain ⟨more, hmore⟩ := hkept
    rw [← hmore, List.take_append_of_le_length hsound.next_le] at hmem
    rw [hbefore n (List.mem_of_mem_take hmem)]
    simp
  have hrest : t.serverList.filter (Notification.about ticket) =
      (t.serverList.drop tab.next).filter (Notification.about ticket) := by
    rw [← congrArg (List.filter (Notification.about ticket)) (List.take_append_drop tab.next t.serverList),
      List.filter_append, htaken, List.nil_append]
  have hfiltered := hlines.filter (Notification.about ticket)
  rwa [List.filter_append, hunderWay, List.nil_append, ← hrest] at hfiltered

/-- What is still ahead: the steps of the server with the notifications they may lead to, and what is to
be broadcast to the page or under way to it. -/
def State.ahead (s : State) (i : ℕ) : ℕ :=
  3 * s.server.work + (s.tabs[i]?.map fun tab =>
    2 * (s.serverList.length - tab.next) + tab.window.inFlight.length).getD 0

/-- A step that brings the page nearer to having shown everything. -/
def Nearer (props : ApplicationProperties) (s : State) (i c : ℕ) : Prop :=
  ∃ l t, (Undisturbed i c ⟨s, l, t⟩ ∧ ∀ l', l = .server l' → ¬ l'.IsPut) ∧ step props s l = some t ∧
    (Listening t i c ∧ t.server.escaped = []) ∧ t.ahead i < s.ahead i

/-- The server goes on. -/
theorem nearer_of_busy {tab : Tab} (htab : s.tabs[i]? = some tab) (hlistening : Page.Listening tab.window c)
    (hnone : s.server.escaped = []) (hconsumers : 0 < props.maxConsumersCount) (hfeasible : Feasible props)
    (hbusy : ¬ Idle s.server) : Nearer props s i c := by
  obtain ⟨l, server, hcredit, hstep, hquiet⟩ := exists_step hconsumers hbusy
  have hmove := Pipeline.step_move hstep
  have hwork := hmove.work_le
  have hlength := hmove.serverList_length_le
  have hescaped := hquiet hfeasible
  have hstill : Listening { s with
      server := server
      serverList := s.serverList ++ (server.serverList.drop s.server.serverList.length).map .of } i c :=
    listening_iff.mpr ⟨tab, htab, hlistening⟩
  refine ⟨.server l, _, ⟨⟨hstill, nofun, hescaped⟩, ?_⟩, by simp only [step, hstep, Option.map_some],
    ⟨hstill, hescaped.trans hnone⟩, ?_⟩
  · intro l' hlabel
    rw [← Label.server.inj hlabel]
    exact credit_eq_zero_iff.mp hcredit
  · simp only [State.ahead, htab, Option.map_some, Option.getD_some, List.length_append, List.length_map,
      List.length_drop]
    omega

/-- An event at the page. -/
theorem nearer_of_page {tab : Tab} (htab : s.tabs[i]? = some tab) (hnone : s.server.escaped = [])
    {l : Label} {w : Page.Window} (hl : ∀ l', l ≠ .server l')
    (hbroker : ∀ targets, l = .deliver i targets → (c, 0) ∈ targets)
    (hstep : step props s l = some { s with tabs := s.tabs.set i { tab with window := w } })
    (hpage : Page.Listening w c)
    (hless : 2 * (s.serverList.length - (tab.since + w.broadcasts)) + w.inFlight.length <
      2 * (s.serverList.length - tab.next) + tab.window.inFlight.length) : Nearer props s i c := by
  have htab' : (s.tabs.set i { tab with window := w })[i]? = some { tab with window := w } :=
    List.getElem?_set_self (List.getElem?_eq_some_iff.mp htab).1
  have hstill : Listening { s with tabs := s.tabs.set i { tab with window := w } } i c :=
    listening_iff.mpr ⟨_, htab', hpage⟩
  refine ⟨l, _, ⟨⟨hstill, hbroker, rfl⟩, fun l' hlabel => absurd hlabel (hl l')⟩, hstep, ⟨hstill, hnone⟩, ?_⟩
  simp only [State.ahead, htab, htab', Option.map_some, Option.getD_some]
  exact Nat.add_lt_add_left hless _

/-- Wherever not everything has been shown, some step brings the page nearer to it. -/
theorem nearer_of_not_done (h : (system props events).Reachable s) (hlistening : Listening s i c)
    (hnone : s.server.escaped = []) (hconsumers : 0 < props.maxConsumersCount) (hfeasible : Feasible props)
    (hgoal : ¬ Done s i) : Nearer props s i c := by
  obtain ⟨tab, htab, hpage⟩ := listening_iff.mp hlistening
  have hmem := List.mem_of_getElem? htab
  obtain ⟨old, held, hheld⟩ := Page.exists_held (window_reachable h tab hmem)
  have hsound := sound_of_reachable h tab hmem
  by_cases hidle : Idle s.server
  rotate_left
  · exact nearer_of_busy htab hpage hnone hconsumers hfeasible hidle
  by_cases hnext : tab.next = s.serverList.length
  · have hflight : tab.window.inFlight ≠ [] := by
      intro hempty
      refine hgoal ⟨hidle, fun other hother => ?_⟩
      obtain rfl := Option.some.inj (htab.symm.trans hother)
      exact ⟨hnext, hempty⟩
    obtain ⟨w, hstep, hstill, hbroadcasts, hlength⟩ := Page.exists_messageFrame hheld hpage hflight
    have htaken : step props s (.page i (.messageFrame 0)) =
        some { s with tabs := s.tabs.set i { tab with window := w } } := by
      rw [step, atTab_eq_some]
      exact ⟨tab, _, w, htab, rfl, hstep, rfl⟩
    refine nearer_of_page htab hnone (by simp) (by simp) htaken hstill ?_
    rw [hbroadcasts, Tab.next]
    omega
  · have hlt := Nat.lt_of_le_of_ne hsound.next_le hnext
    obtain ⟨w, hstep, hstill, hbroadcasts, hlength⟩ :=
      Page.exists_broadcast hheld hpage s.serverList[tab.next].body
    have htaken : step props s (.deliver i [(c, 0)]) =
        some { s with tabs := s.tabs.set i { tab with window := w } } := by
      rw [step, atTab_eq_some]
      refine ⟨tab, _, w, htab, ?_, hstep, rfl⟩
      rw [List.getElem?_eq_getElem hlt, Option.map_some]
    have hbroker (targets : List (ℕ × ℕ)) (hlabel : Label.deliver i [(c, 0)] = .deliver i targets) :
        (c, 0) ∈ targets := by
      rw [← (Label.deliver.inj hlabel).2]
      exact List.mem_singleton_self _
    refine nearer_of_page htab hnone (by simp) hbroker htaken hstill ?_
    rw [hbroadcasts, hlength]
    rw [Tab.next] at hlt ⊢
    omega

/-- A page that is connected while nothing fails at the server can be brought to show everything, if the
calls can succeed. Over whatever undisturbed steps, its list only grows; and once everything has been
handed to it, the new lines are the notifications that were under way to it and all that have been sent
since, and of each request that has been made since exactly the three by which it is announced. -/
theorem requests_shown (h : (system props events).Reachable s) (hlistening : Listening s i c)
    (hnone : s.server.escaped = []) :
    (0 < props.maxConsumersCount → Feasible props → ∃ later t, (system props events).Path s later t ∧
      (∀ taken ∈ later, Undisturbed i c taken ∧ ∀ l, taken.label = .server l → ¬ l.IsPut) ∧ Done t i) ∧
    ∀ later t, (system props events).Path s later t → (∀ taken ∈ later, Undisturbed i c taken) →
      ∃ (tab tab' : Tab) (lines : List Notification), s.tabs[i]? = some tab ∧ t.tabs[i]? = some tab' ∧
        tab'.window.response = tab.window.response ++ lines.map Notification.text ∧
        (Done t i →
          (∃ underWay ⊆ s.serverList, underWay.map Notification.text =
              (tab.underWay c).map Page.MessageFrame.text ∧
            lines.Perm (underWay ++ t.serverList.drop tab.next)) ∧
          ∀ ticket body, s.server.requests.length ≤ ticket → t.server.requests[ticket]? = some body →
            ∃ changes, Announced body changes ∧
              ((lines.filter (Notification.about ticket)).map Notification.body).Perm
                (changes.map announcement)) := by
  refine ⟨fun hconsumers hfeasible => ?_, fun later t hpath hlater => ?_⟩
  · obtain ⟨later, t, hpath, hlater, -, hdone⟩ := h.exists_path_of
      (fun taken => Undisturbed i c taken ∧ ∀ l, taken.label = .server l → ¬ l.IsPut)
      (P := fun s => Listening s i c ∧ s.server.escaped = [])
      (fun s hs hboth (hgoal : ¬ Done s i) =>
        nearer_of_not_done hs hboth.1 hboth.2 hconsumers hfeasible hgoal) ⟨hlistening, hnone⟩
    exact ⟨later, t, hpath, hlater, hdone⟩
  · obtain ⟨⟨new, hkept, tab, tab', htab, htab', hsince, hshows⟩, hescaped⟩ :=
      shown_of_path h hlistening hpath hlater
    have ht := h.append hpath
    have hsound := sound_of_reachable h tab (List.mem_of_getElem? htab)
    have hsound' := sound_of_reachable ht tab' (List.mem_of_getElem? htab')
    have hbody : (entries t.serverList (new.map fun frame => tab.since + frame.broadcast)).map
        Notification.body = new.map (·.body) := by
      refine map_entries fun frame hmem => ?_
      rw [← hsince]
      refine hsound'.body frame (List.mem_append_right _ ?_)
      rw [hshows.shown]
      exact List.mem_append_right _ hmem
    have htext := congrArg (List.map fun body : JsonResult WebSocketDto => body.data.content) hbody
    rw [List.map_map, List.map_map] at htext
    refine ⟨tab, tab', _, htab, htab', hshows.response.trans (congrArg _ htext.symm), fun hdone => ?_⟩
    obtain ⟨hnext, harrived⟩ := hdone.page tab' htab'
    have hlines := perm_entries hkept hsound hsince hshows hnext harrived
    refine ⟨⟨_, underWay_subset tab c, underWay_text hsound c, hlines⟩, ?_⟩
    intro ticket body hticket hrequest
    have hperm := (perm_about h hnone hkept hsound hticket hlines).map Notification.body
    rw [(sent_of_reachable ht).notificationsOf] at hperm
    have hserver := faultFree_iff.mpr ⟨server_reachable ht, hescaped.trans hnone⟩
    obtain ⟨hannounced, hnotified⟩ := allAnnounced_of_idle hserver hdone.server ticket body hrequest
    exact ⟨_, hannounced, hperm.trans hnotified⟩

/-- Only a PUT changes the list of requests. -/
theorem Move.requests_eq (h : Move props s l t) (hl : ∀ l', l = .server l' → ¬ l'.IsPut) :
    t.server.requests = s.server.requests := by
  cases h with
  | server l server hstep => exact (Pipeline.step_move hstep).requests_eq (credit_eq_zero_iff.mpr (hl l rfl))
  | _ => rfl

/-- Without a PUT the requests stay the same. -/
theorem requests_of_path {later : List (TransitionSystem.Taken State Label)}
    (hpath : (system props events).Path s later t)
    (hlater : ∀ taken ∈ later, ∀ l, taken.label = .server l → ¬ l.IsPut) :
    t.server.requests = s.server.requests := by
  let requests (s : State) : List EventDto := s.server.requests
  suffices hkept : requests t = requests s from hkept
  exact hpath.keeps fun taken hmem hstep => (step_move hstep).requests_eq (hlater taken hmem)

/-- A page that is connected when an event is put. -/
theorem event_shown : ∃ s later t, (system .test KeyedTable.empty).Path s later t ∧ s.server.requests = [] ∧
    t.server.requests = [.empty] ∧ Done t 0 ∧
      ∃ (tab tab' : Tab) (lines : List Notification), s.tabs[0]? = some tab ∧ t.tabs[0]? = some tab' ∧
        tab'.window.response = tab.window.response ++ lines.map Notification.text ∧
        ∃ changes, Announced .empty changes ∧
          ((lines.filter (Notification.about 0)).map Notification.body).Perm (changes.map announcement) := by
  have hrun : (TransitionSystem.replay (step .test) (start KeyedTable.empty) connectedPage).map (fun s =>
      (decide (Listening s 0 0), s.server.escaped, s.server.requests)) = some (true, [], []) := by decide
  obtain ⟨s, hs, hview⟩ := exists_reachable hrun
  simp only [Prod.mk.injEq, decide_eq_true_eq] at hview
  obtain ⟨hlistening, hnone, hrequests⟩ := hview
  obtain ⟨u, hput⟩ : ∃ u, u = Pipeline.upload "/rest" .empty quietEnv s.server := ⟨_, rfl⟩
  have hstep : step .test s (.server (.upload "/rest" .empty quietEnv)) = some { s with
      server := u
      serverList := s.serverList ++ (u.serverList.drop s.server.serverList.length).map .of } := by
    rw [hput]
    rfl
  have hquiet : u.escaped = s.server.escaped := by rw [hput]; rfl
  have hmade : u.requests = [.empty] := by
    have happended : u.requests = s.server.requests ++ [.empty] := by rw [hput]; rfl
    rw [happended, hrequests, List.nil_append]
  obtain ⟨tab, htab, hpage⟩ := listening_iff.mp hlistening
  have hstill : Listening { s with
      server := u
      serverList := s.serverList ++ (u.serverList.drop s.server.serverList.length).map .of } 0 0 :=
    listening_iff.mpr ⟨tab, htab, hpage⟩
  have hfeasible : Feasible .test := feasible_of_delayInRange (by constructor <;> decide) (by decide)
  obtain ⟨later, t, hpath, hlater, hdone⟩ :=
    (requests_shown (hs.snoc hstep) hstill (hquiet.trans hnone)).1 (by decide) hfeasible
  have hall := (requests_of_path hpath fun taken hmem => (hlater taken hmem).2).trans hmade
  obtain ⟨tab, tab', lines, htab, htab', hresponse, hshown⟩ :=
    (requests_shown hs hlistening hnone).2 _ t (.cons hstep hpath)
      (List.forall_mem_cons.mpr ⟨⟨hstill, nofun, hquiet⟩, fun taken hmem => (hlater taken hmem).1⟩)
  obtain ⟨changes, hannounced, hperm⟩ :=
    (hshown hdone).2 0 .empty (by rw [hrequests]; exact Nat.le_refl 0) (by rw [hall]; rfl)
  exact ⟨s, _, t, .cons hstep hpath, hrequests, hall, hdone, tab, tab', lines, htab, htab', hresponse,
    changes, hannounced, hperm⟩

end Monitor

end EventMonitor
