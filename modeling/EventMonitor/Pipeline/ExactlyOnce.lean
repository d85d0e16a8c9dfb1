import EventMonitor.Pipeline.Broadcasts
import EventMonitor.Pipeline.Ledger

/-!
# Every event is announced exactly once

Two conservation laws meet here: the ledger says what each request has put on the processed
queue, and the queue hands everything that it has been given to exactly one consumer. When
nothing fails and nobody is busy any more, every request has been announced three times,
once for each action.
-/

namespace EventMonitor

open Library

namespace Pipeline

open EventServiceImpl ProcessedEventListener

variable {props : ApplicationProperties} {events : EventsTable}

/-- The request that a notification is about. -/
def Cause.ticket : Cause → ℕ
  | .statusChange message => message.ticket
  | .error escape => escape.ticket

/-- What the users have been told about a request. -/
def notificationsOf (s : State) (ticket : ℕ) : List (JsonResult WebSocketDto) :=
  (s.serverList.filter (·.cause.ticket = ticket)).map Broadcast.body

/-- Without exceptions the notifications are those of the status changes. -/
theorem serverList_of_faultFree {s : State} (h : (faultFree props events).Reachable s) :
    s.serverList = (statuses s.serverList).map fun message =>
      ⟨announcement message.object, .statusChange message⟩ := by
  obtain ⟨hreachable, hnone⟩ := faultFree_iff.mp h
  have herrors : errors s.serverList = [] := by
    rw [errors_of_reachable hreachable, hnone]
    rfl
  have hbody := body_of_reachable hreachable
  generalize s.serverList = broadcasts at herrors hbody
  induction broadcasts with
  | nil => rfl
  | cons b rest ih =>
    obtain ⟨body, message | escape⟩ := b
    · have hhead : body = announcement message.object :=
        hbody _ List.mem_cons_self
      have htail := ih herrors fun b hb => hbody b (List.mem_cons_of_mem _ hb)
      rw [hhead]
      exact congrArg (List.cons _) htail
    · simp [errors] at herrors

/-- Without exceptions the users are told about the status changes of a request and nothing else. -/
theorem notificationsOf_of_faultFree {s : State} (h : (faultFree props events).Reachable s) (ticket : ℕ) :
    notificationsOf s ticket =
      (changesOf (statuses s.serverList) ticket).map announcement := by
  rw [notificationsOf, serverList_of_faultFree h, List.filter_map, List.map_map, changesOf, List.map_map,
    ← serverList_of_faultFree h]
  rfl

/-- The announcements of a request: all three have its name, one user, and one timestamp. -/
def Announced (body : EventDto) (changes : List EventStatusChange) : Prop :=
  ∃ saved eventDto, Stamped body saved ∧ Resaved saved eventDto ∧
    changes = [⟨saved, .insert⟩, ⟨saved, .update⟩, ⟨eventDto, .delete⟩]

/-- A complete trace is a complete announcement. -/
theorem Trace.announced {body : EventDto} {changes : List EventStatusChange}
    (h : Trace body none changes) : Announced body changes := by
  cases h with
  | done hsaved heventDto => exact ⟨_, _, hsaved, heventDto, rfl⟩

/-- No action is announced twice. -/
theorem filter_action_length_le {body : EventDto} {full changes : List EventStatusChange}
    (hfull : Trace body none full) (hbegins : changes <+: full) (action : Action) :
    (changes.filter (·.action = action)).length ≤ 1 := by
  refine (hbegins.sublist.filter _).length_le.trans ?_
  cases hfull
  cases action <;> simp

/-- A published status change belongs to the announcements of its request. -/
theorem mem_announced {s : State} (h : Ledger s) {message : Message EventStatusChange}
    (hmem : message ∈ s.published) :
    ∃ body full, s.requests[message.ticket]? = some body ∧ Announced body full ∧
      message.object ∈ full := by
  have hbody := List.getElem?_eq_getElem (h.known message hmem)
  obtain ⟨full, hfull, hbegins⟩ := h.changes_begin hbody
  exact ⟨_, full, hbody, hfull.announced, hbegins.subset (mem_changesOf.mpr hmem)⟩

/-- An idle application in which nothing has failed has brought every request to its end. -/
theorem done_of_idle {s : State} (h : (faultFree props events).Reachable s) (hidle : Idle s)
    {ticket : ℕ} {body : EventDto} (hbody : s.requests[ticket]? = some body) :
    Trace body none (changesOf s.published ticket) := by
  obtain ⟨hreachable, hnone⟩ := faultFree_iff.mp h
  have hsettled := (ledger_of_reachable hreachable).settled ticket body hbody
    (by simp [State.pending, hidle.incomingEventQueue, hidle.processing])
  rcases hsettled with hdone | ⟨⟨e, he, -⟩, -⟩
  · exact hdone
  · simp [hnone] at he

/-- Every request has been announced: three status changes, and a notification for each of them. -/
def AllAnnounced (s : State) : Prop :=
  ∀ ticket body, s.requests[ticket]? = some body →
    Announced body (changesOf s.published ticket) ∧
    (notificationsOf s ticket).Perm ((changesOf s.published ticket).map announcement)

/-- An idle application in which nothing has failed has announced every request. -/
theorem allAnnounced_of_idle {s : State} (h : (faultFree props events).Reachable s) (hidle : Idle s) :
    AllAnnounced s := by
  intro ticket body hbody
  refine ⟨(done_of_idle h hidle hbody).announced, ?_⟩
  rw [notificationsOf_of_faultFree h]
  exact (((statuses_perm (reliable_of_faultFree h) hidle).filter _).map _).map _

/-- In every state at most one status change for each request and action, and nothing that no
request has led to; in an idle state all three for every request, each broadcast once. -/
theorem exactlyOnce {s : State} (h : (faultFree props events).Reachable s) :
    (∀ ticket action, ((changesOf s.published ticket).filter (·.action = action)).length ≤ 1) ∧
    (∀ message ∈ s.published, ∃ body full, s.requests[message.ticket]? = some body ∧
      Announced body full ∧ message.object ∈ full) ∧
    (∀ b ∈ s.serverList, ∃ message ∈ s.published,
      b = ⟨announcement message.object, .statusChange message⟩) ∧
    (Idle s → ∀ ticket body, s.requests[ticket]? = some body →
      Announced body (changesOf s.published ticket) ∧
      (notificationsOf s ticket).Perm
        ((changesOf s.published ticket).map announcement)) := by
  have hledger := ledger_of_reachable h.of_restrict
  refine ⟨fun ticket action => ?_, fun message hmem => mem_announced hledger hmem, fun b hb => ?_,
    fun hidle ticket body hbody => allAnnounced_of_idle h hidle ticket body hbody⟩
  · by_cases hticket : ticket < s.requests.length
    · obtain ⟨full, hfull, hbegins⟩ := hledger.changes_begin (List.getElem?_eq_getElem hticket)
      exact filter_action_length_le hfull hbegins action
    · have hnone : changesOf s.published ticket = [] :=
        changesOf_eq_nil fun m hm heq => hticket (heq ▸ hledger.known m hm)
      simp [hnone]
  · rw [serverList_of_faultFree h] at hb
    obtain ⟨message, hmessage, rfl⟩ := List.mem_map.mp hb
    exact ⟨message, (statuses_subperm h.of_restrict).subset hmessage, rfl⟩

/-- One event, announced by three notifications. -/
theorem oneEvent_announced :
    ∃ s, (faultFree .test KeyedTable.empty).Reachable s ∧ s.serverList.length = 3 ∧
      Announced ⟨none, some "event", none, none⟩ (changesOf s.published 0) ∧
      (notificationsOf s 0).Perm ((changesOf s.published 0).map announcement) := by
  have hrun : (TransitionSystem.replay (step .test) (start KeyedTable.empty)
      (oneEvent ⟨none, some "event", none, none⟩)).map
        (fun s => (s.escaped, s.requests, s.serverList.length, s.incomingEventQueue, s.processing,
          s.processedEventQueue, s.informing)) =
      some ([], [⟨none, some "event", none, none⟩], 3, [], [], [], []) := rfl
  obtain ⟨s, hreachable, hview⟩ := exists_reachable hrun
  simp only [Prod.mk.injEq] at hview
  obtain ⟨hnone, hrequests, hlength, hincoming, hprocessing, hprocessed, hinforming⟩ := hview
  have h := faultFree_iff.mpr ⟨hreachable, hnone⟩
  have hannounced := (exactlyOnce h).2.2.2 ⟨hincoming, hprocessing, hprocessed, hinforming⟩ 0 _
    (congrArg (·[0]?) hrequests)
  exact ⟨s, h, hlength, hannounced⟩

end Pipeline

end EventMonitor
