import EventMonitor.Library.OwnedRows
import EventMonitor.Pipeline.Ledger

/-!
# Events as owners of rows

Between its INSERT and its DELETE an event carries the id of a row in its `EventDto`. Seen
from the table, the application is therefore a number of owners of temporary rows: INSERT
claims a row, UPDATE renews it, DELETE releases it. This holds as long as nothing fails; an
exception makes an owner disappear without releasing its row.
-/

namespace EventMonitor

open Library

namespace Pipeline

open EventServiceImpl

variable {props : ApplicationProperties} {events : EventsTable}

/-- The row that a job owns: none before its INSERT, afterwards the one whose id it carries. -/
def Job.row (job : Job) : Option (Int × EventColumns) :=
  match job.stage with
  | .received => none
  | .inserted | .updated => job.eventDto.id.map fun id => (id, job.eventDto.columns)

/-- The rows that some jobs own. -/
def rowsOf (jobs : List Job) : Multiset (Int × EventColumns) := ↑(jobs.filterMap Job.row)

/-- The ids with which the events that have been inserted so far were requested. -/
def requestedIds (requests : List EventDto) (published : List (Message EventStatusChange)) :
    Multiset (Option Int) :=
  ↑((published.filter (·.object.action = .insert)).map fun m => requests[m.ticket]?.bind EventDto.id)

/-- The application as a table with the owners of its rows. -/
def ownedRows (s : State) : OwnedRows.State Int EventColumns :=
  ⟨s.events, rowsOf s.processing, requestedIds s.requests s.published⟩

/-- A job that owns a row, and the others. -/
theorem rowsOf_some {before after : List Job} {job : Job} {row : Int × EventColumns}
    (h : job.row = some row) : rowsOf (before ++ job :: after) = row ::ₘ rowsOf (before ++ after) := by
  simp only [rowsOf, List.filterMap_append, List.filterMap_cons, h]
  exact Multiset.coe_eq_coe.mpr List.perm_middle

/-- A job that owns no row does not count. -/
theorem rowsOf_none {before after : List Job} {job : Job} (h : job.row = none) :
    rowsOf (before ++ job :: after) = rowsOf (before ++ after) := by
  simp only [rowsOf, List.filterMap_append, List.filterMap_cons, h]

/-- An INSERT adds the id of its request. -/
theorem requestedIds_insert {requests : List EventDto} {published : List (Message EventStatusChange)}
    {ticket : ℕ} {body eventDto : EventDto} (hbody : requests[ticket]? = some body) :
    requestedIds requests (published ++ [⟨ticket, ⟨eventDto, .insert⟩⟩]) =
      body.id ::ₘ requestedIds requests published := by
  simp only [requestedIds, List.filter_append, List.map_append]
  simp [hbody, ← Multiset.coe_add, add_comm]

/-- Other actions ask for no id. -/
theorem requestedIds_other {requests : List EventDto} {published : List (Message EventStatusChange)}
    {ticket : ℕ} {change : EventStatusChange} (h : change.action ≠ .insert) :
    requestedIds requests (published ++ [⟨ticket, change⟩]) = requestedIds requests published := by
  simp [requestedIds, h]

/-- A new request asks for nothing before its INSERT. -/
theorem requestedIds_request {requests : List EventDto} {published : List (Message EventStatusChange)}
    (h : ∀ m ∈ published, m.ticket < requests.length) (eventDto : EventDto) :
    requestedIds (requests ++ [eventDto]) published = requestedIds requests published := by
  unfold requestedIds
  congr 1
  apply List.map_congr_left
  intro m hm
  rw [List.getElem?_append_left (h m (List.mem_of_mem_filter hm))]

/-- An id has been asked for when a request with that id has been inserted. -/
theorem mem_requestedIds {requests : List EventDto} {published : List (Message EventStatusChange)}
    {id : Int} : some id ∈ requestedIds requests published ↔ ∃ m ∈ published,
      m.object.action = .insert ∧ ∃ body, requests[m.ticket]? = some body ∧ body.id = some id := by
  simp [requestedIds, Option.bind_eq_some_iff, and_assoc]

/-- Seen from the table, a consumer's step claims, renews or releases a row. -/
theorem processed_step {s : State} {job : Job} {before after : List Job} {body : EventDto}
    (hjob : s.processing = before ++ job :: after) (hbody : s.requests[job.ticket]? = some body)
    {changes : List EventStatusChange} (htrace : Trace body (some job.progress) changes)
    (env : CallEnv) :
    ∃ l, OwnedRows.Step (ownedRows s) l
        ⟨(job.effect env s.events).1,
          rowsOf (before ++ ((job.advance (job.effect env s.events).2.1).toList ++ after)),
          requestedIds s.requests (s.published ++ [⟨job.ticket, (job.effect env s.events).2.2⟩])⟩ ∧
      ∀ source requested columns, l = .claim source requested columns →
        job.stage = .received ∧ requested = job.eventDto.id := by
  obtain ⟨ticket, stage, eventDto⟩ := job
  cases htrace with
  | received =>
    refine ⟨.claim env.ids eventDto.id
      (stampEvent env (drawnUser env) (EventEventDtoMapper.convertDtoToEntity eventDto)).columns, ?_, ?_⟩
    · have hbefore : rowsOf s.processing = rowsOf (before ++ after) := by
        rw [hjob]
        exact rowsOf_none rfl
      simp only [OwnedRows.Step, ownedRows, hbefore]
      rw [← requestedIds_insert hbody]
      exact congrArg₂ _ (rowsOf_some rfl) rfl
    · rintro source requested columns heq
      cases heq
      exact ⟨rfl, rfl⟩
  | inserted hsaved =>
    obtain ⟨id, hid⟩ : ∃ id, eventDto.id = some id := Option.ne_none_iff_exists'.mp hsaved.id
    refine ⟨.renew env.ids id eventDto.columns, ⟨rowsOf (before ++ after), ?_, ?_⟩, by simp⟩
    · rw [ownedRows, hjob]
      exact rowsOf_some (by simp [Job.row, hid])
    · simp only [ownedRows, ← hid]
      rw [requestedIds_other (by simp [Job.effect, effect, Stage.action])]
      exact congrArg₂ _ (rowsOf_some rfl) rfl
  | updated hsaved heventDto =>
    obtain ⟨id, hid⟩ : ∃ id, eventDto.id = some id := Option.ne_none_iff_exists'.mp heventDto.id
    refine ⟨.release id eventDto.columns, ⟨rowsOf (before ++ after), ?_, ?_⟩, by simp⟩
    · rw [ownedRows, hjob]
      exact rowsOf_some (by simp [Job.row, hid])
    · simp only [ownedRows]
      rw [requestedIds_other (by simp [Job.effect, effect, Stage.action])]
      simp [Job.effect, effect, Stage.action, EventRepository.delete,
        EventEventDtoMapper.convertDtoToEntity, hid, KeyedTable.removeRequested, Job.advance, Stage.next]

/-- Seen from the table, the application in which nothing fails is a system of owners of rows. A row
is claimed by the INSERT of a job, with the id that its `EventDto` came with. -/
theorem ownedRows_step {s t : State} {l : Label} (h : (faultFree props events).Reachable s)
    (hstep : (faultFree props events).step s l t) :
    ownedRows t = ownedRows s ∨ ∃ l', (OwnedRows.system events).step (ownedRows s) l' (ownedRows t) ∧
      ∀ source requested columns, l' = .claim source requested columns →
        ∃ i env job, l = .process i env ∧ s.processing[i]? = some job ∧ job.stage = .received ∧
          requested = job.eventDto.id := by
  have hledger := ledger_of_reachable h.of_restrict
  obtain ⟨hstep, hquiet⟩ := hstep
  cases step_move hstep with
  | uploaded uri eventDto env =>
    left
    simp only [ownedRows]
    rw [requestedIds_request hledger.known]
  | received message rest hqueue =>
    left
    have hrows : rowsOf (s.processing ++ [⟨message.ticket, .received, message.object⟩]) =
        rowsOf (s.processing ++ []) := rowsOf_none rfl
    simp only [ownedRows, hrows, List.append_nil]
  | processed i env job before after hget hjob hsucceeds =>
    obtain ⟨body, hbody, htrace⟩ := hledger.running job (by simp [hjob])
    obtain ⟨l', hl', hclaim⟩ := processed_step hjob hbody htrace env
    refine Or.inr ⟨l', hl', fun source requested columns heq => ?_⟩
    obtain ⟨hstage, hrequested⟩ := hclaim source requested columns heq
    exact ⟨i, env, job, rfl, hget, hstage, hrequested⟩
  | taken | informed => exact Or.inl rfl
  | uploadFailed | unreadable | processFailed | informFailed =>
    exact absurd hquiet (escape_escaped_ne _ _ rfl)

/-- Whatever the interleaving, every row is an initial one or has an owner. -/
theorem owned_of_faultFree {s : State} (h : (faultFree props events).Reachable s) :
    OwnedRows.Owned events (ownedRows s) := by
  refine OwnedRows.owned_of_reachable (TransitionSystem.Simulation.reachable
    ⟨fun s hs => ?_, fun s l t hs hstep => ?_⟩ h)
  · obtain rfl : s = start events := hs
    rfl
  · exact (ownedRows_step hs hstep).imp_right fun ⟨l', hl', _⟩ => ⟨l', hl'⟩

end Pipeline

end EventMonitor
