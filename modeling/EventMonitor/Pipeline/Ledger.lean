import EventMonitor.Pipeline.Moves

/-!
# The ledger of requests

Every request is waiting, in the hands of exactly one consumer, or settled. What it has put
on the processed queue so far is determined by how far it has got: INSERT, UPDATE and DELETE,
in this order, once each, all with the name of the request and with the timestamp and the
user that its INSERT has stamped. A request that is settled without having got that far has
let an exception escape.
-/

namespace EventMonitor

open Library

namespace Pipeline

open EventServiceImpl

variable {props : ApplicationProperties} {events : EventsTable}

/-- The data of an inserted event: the name of the request, a timestamp, and a user number. -/
structure Stamped (body eventDto : EventDto) : Prop where
  id : eventDto.id ≠ none
  name : eventDto.name = body.name
  timestamp : ∃ hourReading minuteReading,
    eventDto.timestamp = some (timestampText hourReading minuteReading)
  updatedBy : ∃ user, eventDto.updatedBy = some user ∧ 0 ≤ user ∧ user ≤ 9999

/-- The data of an event that has been saved again: only its id may be another one. -/
structure Resaved (saved eventDto : EventDto) : Prop where
  id : eventDto.id ≠ none
  columns : eventDto.columns = saved.columns

/-- What a request has published, by how far it has got; `none` when it is done. -/
inductive Trace (body : EventDto) : Option (Stage × EventDto) → List EventStatusChange → Prop
  | received : Trace body (some (.received, body)) []
  | inserted {saved : EventDto} (hsaved : Stamped body saved) :
      Trace body (some (.inserted, saved)) [⟨saved, .insert⟩]
  | updated {saved eventDto : EventDto} (hsaved : Stamped body saved)
      (heventDto : Resaved saved eventDto) :
      Trace body (some (.updated, eventDto)) [⟨saved, .insert⟩, ⟨saved, .update⟩]
  | done {saved eventDto : EventDto} (hsaved : Stamped body saved)
      (heventDto : Resaved saved eventDto) :
      Trace body none [⟨saved, .insert⟩, ⟨saved, .update⟩, ⟨eventDto, .delete⟩]

/-- Where a job stands. -/
def Job.progress (job : Job) : Stage × EventDto := (job.stage, job.eventDto)

/-- A job stays the job of its request. -/
theorem Job.ticket_advance (job : Job) {returned : EventDto} {next : Job}
    (h : next ∈ job.advance returned) : next.ticket = job.ticket := by
  obtain ⟨stage, -, rfl⟩ := Option.map_eq_some_iff.mp h
  rfl

/-- An INSERT returns the data of an inserted event. -/
theorem stamped_effect (env : CallEnv) (events : EventsTable) (body : EventDto) :
    Stamped body (effect env events body .insert).2.1 where
  id := by simp [effect, EventRepository.save, EventEventDtoMapper.convertEntityToDto]
  name := rfl
  timestamp := ⟨env.hourReading, env.minuteReading, rfl⟩
  updatedBy := ⟨drawnUser env, rfl, drawnUser_bounds env⟩

/-- An UPDATE returns the data that it was given, under the id of the saved row. -/
theorem resaved_effect (env : CallEnv) (events : EventsTable) (eventDto : EventDto) :
    Resaved eventDto (effect env events eventDto .update).2.1 where
  id := by simp [effect, EventRepository.save, EventEventDtoMapper.convertEntityToDto]
  columns := rfl

/-- A call that succeeds takes a request from one point of its trace to the next. -/
theorem Trace.advance {body : EventDto} {job : Job} {changes : List EventStatusChange}
    (h : Trace body (some job.progress) changes) (env : CallEnv) (events : EventsTable) :
    Trace body ((job.advance (job.effect env events).2.1).map Job.progress)
      (changes ++ [(job.effect env events).2.2]) := by
  obtain ⟨ticket, stage, eventDto⟩ := job
  cases h with
  | received => exact .inserted (stamped_effect env events eventDto)
  | inserted hsaved => exact .updated hsaved (resaved_effect env events eventDto)
  | updated hsaved heventDto => exact .done hsaved heventDto

/-- Every trace is the beginning of a complete one. -/
theorem Trace.exists_done {body : EventDto} {progress : Option (Stage × EventDto)}
    {changes : List EventStatusChange} (h : Trace body progress changes) :
    ∃ full, Trace body none full ∧ changes <+: full := by
  have resaved : ∀ {saved : EventDto}, Stamped body saved → Resaved saved saved :=
    fun hsaved => ⟨hsaved.id, rfl⟩
  cases h with
  | received =>
    have hsaved := stamped_effect quietEnv KeyedTable.empty body
    exact ⟨_, .done hsaved (resaved hsaved), List.nil_prefix⟩
  | inserted hsaved => exact ⟨_, .done hsaved (resaved hsaved), by simp⟩
  | updated hsaved heventDto => exact ⟨_, .done hsaved heventDto, by simp⟩
  | done hsaved heventDto => exact ⟨_, .done hsaved heventDto, List.prefix_refl _⟩

/-- A complete trace consists of an INSERT, an UPDATE and a DELETE. -/
theorem Trace.actions {body : EventDto} {changes : List EventStatusChange}
    (h : Trace body none changes) :
    changes.map EventStatusChange.action = [.insert, .update, .delete] := by
  cases h
  rfl

/-- The status changes among some messages that stem from one request. -/
def changesOf (messages : List (Message EventStatusChange)) (ticket : ℕ) : List EventStatusChange :=
  (messages.filter (·.ticket = ticket)).map Message.object

/-- A status change of a request is a message with its ticket. -/
theorem mem_changesOf {messages : List (Message EventStatusChange)} {ticket : ℕ}
    {change : EventStatusChange} : change ∈ changesOf messages ticket ↔ ⟨ticket, change⟩ ∈ messages := by
  simp only [changesOf, List.mem_map, List.mem_filter, decide_eq_true_eq]
  constructor
  · rintro ⟨message, ⟨hmem, rfl⟩, rfl⟩
    exact hmem
  · intro hmem
    exact ⟨_, ⟨hmem, rfl⟩, rfl⟩

/-- The status changes of one request, among two lists of messages. -/
theorem changesOf_append (first second : List (Message EventStatusChange)) (ticket : ℕ) :
    changesOf (first ++ second) ticket = changesOf first ticket ++ changesOf second ticket := by
  simp [changesOf]

/-- Messages of other requests are no status changes of this one. -/
theorem changesOf_eq_nil {messages : List (Message EventStatusChange)} {ticket : ℕ}
    (h : ∀ m ∈ messages, m.ticket ≠ ticket) : changesOf messages ticket = [] := by
  simp only [changesOf, List.map_eq_nil_iff, List.filter_eq_nil_iff, decide_eq_true_eq]
  exact h

/-- The requests that are waiting or in the hands of a consumer. -/
def State.pending (s : State) : List ℕ :=
  s.incomingEventQueue.map Message.ticket ++ s.processing.map Job.ticket

/-- A request is done, or one of its steps has let an exception escape. -/
def Settled (s : State) (ticket : ℕ) (body : EventDto) : Prop :=
  Trace body none (changesOf s.published ticket) ∨
    ((∃ e ∈ s.escaped, e.ticket = ticket) ∧
      ∃ full, Trace body none full ∧ changesOf s.published ticket <+: full)

/-- Where each request is, and what it has published. -/
structure Ledger (s : State) : Prop where
  distinct : s.pending.Nodup
  known : ∀ m ∈ s.published, m.ticket < s.requests.length
  queued : ∀ m ∈ s.incomingEventQueue,
    s.requests[m.ticket]? = some m.object ∧ changesOf s.published m.ticket = []
  running : ∀ job ∈ s.processing, ∃ body, s.requests[job.ticket]? = some body ∧
    Trace body (some job.progress) (changesOf s.published job.ticket)
  settled : ∀ ticket body, s.requests[ticket]? = some body → ticket ∉ s.pending →
    Settled s ticket body

/-- Pending requests have been made. -/
theorem Ledger.lt_of_pending {s : State} (h : Ledger s) {ticket : ℕ} (hpending : ticket ∈ s.pending) :
    ticket < s.requests.length := by
  rcases List.mem_append.mp hpending with hqueue | hprocessing
  · obtain ⟨m, hm, rfl⟩ := List.mem_map.mp hqueue
    exact (List.getElem?_eq_some_iff.mp (h.queued m hm).1).1
  · obtain ⟨job, hjob, rfl⟩ := List.mem_map.mp hprocessing
    obtain ⟨body, hbody, -⟩ := h.running job hjob
    exact (List.getElem?_eq_some_iff.mp hbody).1

/-- What is settled stays settled when further exceptions escape. -/
theorem Settled.mono {s t : State} {ticket : ℕ} {body : EventDto} (h : Settled s ticket body)
    (hpublished : changesOf t.published ticket = changesOf s.published ticket)
    (hescaped : s.escaped ⊆ t.escaped) : Settled t ticket body := by
  rw [Settled, hpublished]
  exact h.imp_right fun ⟨⟨e, he, hticket⟩, hbegins⟩ => ⟨⟨e, hescaped he, hticket⟩, hbegins⟩

/-- A new request is queued, or answered by an exception, or both. -/
theorem Ledger.request {s t : State} (h : Ledger s) {eventDto : EventDto} {sent : List EventDto}
    (hrequests : t.requests = s.requests ++ [eventDto])
    (hqueue : t.incomingEventQueue =
      s.incomingEventQueue ++ sent.map (⟨s.requests.length, ·⟩))
    (hprocessing : t.processing = s.processing) (hpublished : t.published = s.published)
    (hescaped : s.escaped ⊆ t.escaped)
    (hsent : sent = [eventDto] ∨ sent = [] ∧ ∃ e ∈ t.escaped, e.ticket = s.requests.length) :
    Ledger t := by
  have hold : ∀ {ticket : ℕ} {body : EventDto}, s.requests[ticket]? = some body →
      t.requests[ticket]? = some body := by
    intro ticket body hbody
    rw [hrequests, List.getElem?_append_left (List.getElem?_eq_some_iff.mp hbody).1, hbody]
  have hnew : changesOf s.published s.requests.length = [] :=
    changesOf_eq_nil fun m hm => Nat.ne_of_lt (h.known m hm)
  have hfresh : s.requests.length ∉ s.pending := fun hmem => Nat.lt_irrefl _ (h.lt_of_pending hmem)
  have hpending : t.pending.Perm (sent.map (fun _ => s.requests.length) ++ s.pending) := by
    simp only [State.pending, hqueue, hprocessing, List.map_append, List.map_map]
    exact (List.perm_append_comm.append_right _).trans (List.append_assoc _ _ _ ▸ List.Perm.refl _)
  refine ⟨?_, ?_, ?_, ?_, ?_⟩
  · rw [hpending.nodup_iff]
    rcases hsent with rfl | ⟨rfl, -⟩
    · exact List.nodup_cons.mpr ⟨hfresh, h.distinct⟩
    · exact h.distinct
  · intro m hm
    rw [hpublished] at hm
    rw [hrequests, List.length_append]
    exact Nat.lt_add_right _ (h.known m hm)
  · intro m hm
    rw [hpublished]
    rw [hqueue] at hm
    rcases List.mem_append.mp hm with hwaiting | hjust
    · exact ⟨hold (h.queued m hwaiting).1, (h.queued m hwaiting).2⟩
    · obtain ⟨body, hbody, rfl⟩ := List.mem_map.mp hjust
      rcases hsent with rfl | ⟨rfl, -⟩
      · obtain rfl := List.mem_singleton.mp hbody
        exact ⟨by simp [hrequests], hnew⟩
      · simp at hbody
  · intro job hjob
    rw [hprocessing] at hjob
    rw [hpublished]
    obtain ⟨body, hbody, htrace⟩ := h.running job hjob
    exact ⟨body, hold hbody, htrace⟩
  · intro ticket body hbody hsettled
    rw [hpending.mem_iff, List.mem_append, not_or] at hsettled
    rw [hrequests] at hbody
    by_cases hlt : ticket < s.requests.length
    · rw [List.getElem?_append_left hlt] at hbody
      exact (h.settled ticket body hbody hsettled.2).mono (by rw [hpublished]) hescaped
    · obtain rfl : ticket = s.requests.length := by
        have := (List.getElem?_eq_some_iff.mp hbody).1
        simp at this
        omega
      rcases hsent with rfl | ⟨-, hescape⟩
      · simp at hsettled
      · obtain ⟨full, hfull, hbegins⟩ := Trace.exists_done (.received : Trace body _ _)
        refine Or.inr ⟨hescape, full, hfull, ?_⟩
        rw [hpublished, hnew]
        exact hbegins

/-- A job that takes a step, or gives up, leaves the ledger in order if its own entry is. -/
theorem Ledger.step_job {s t : State} (h : Ledger s) {job : Job} {before after : List Job}
    (next : Option Job) {sent : List (Message EventStatusChange)}
    (hjob : s.processing = before ++ job :: after) (hrequests : t.requests = s.requests)
    (hqueue : t.incomingEventQueue = s.incomingEventQueue)
    (hprocessing : t.processing = before ++ (next.toList ++ after))
    (hpublished : t.published = s.published ++ sent) (hescaped : s.escaped ⊆ t.escaped)
    (hsent : ∀ m ∈ sent, m.ticket = job.ticket) (hticket : ∀ j ∈ next, j.ticket = job.ticket)
    (hrunning : ∀ j ∈ next, ∀ body, s.requests[job.ticket]? = some body →
      Trace body (some j.progress) (changesOf t.published job.ticket))
    (hdone : next = none → ∀ body, s.requests[job.ticket]? = some body → Settled t job.ticket body) :
    Ledger t := by
  have hmem : job ∈ s.processing := by simp [hjob]
  -- only the entry of the job itself changes
  have hother : ∀ ticket, ticket ≠ job.ticket →
      changesOf t.published ticket = changesOf s.published ticket := by
    intro ticket hne
    have hnone : changesOf sent ticket = [] := changesOf_eq_nil fun m hm => hsent m hm ▸ hne.symm
    rw [hpublished, changesOf_append, hnone, List.append_nil]
  have hpending : s.pending.Perm (job.ticket ::
      (s.incomingEventQueue.map Message.ticket ++ (before ++ after).map Job.ticket)) := by
    simp only [State.pending, hjob, List.map_append, List.map_cons, ← List.append_assoc]
    exact List.perm_middle
  have hpending' : t.pending.Perm (next.toList.map Job.ticket ++
      (s.incomingEventQueue.map Message.ticket ++ (before ++ after).map Job.ticket)) := by
    simp only [State.pending, hqueue, hprocessing, List.map_append]
    have hinner := List.perm_append_comm_assoc (before.map Job.ticket) (next.toList.map Job.ticket)
      (after.map Job.ticket)
    exact (hinner.append_left _).trans (List.perm_append_comm_assoc _ _ _)
  have hdistinct := hpending.nodup_iff.mp h.distinct
  have hothers : ∀ ticket ∈ s.incomingEventQueue.map Message.ticket ++ (before ++ after).map Job.ticket,
      ticket ≠ job.ticket := by
    rintro ticket hticket rfl
    exact (List.nodup_cons.mp hdistinct).1 hticket
  refine ⟨?_, ?_, ?_, ?_, ?_⟩
  · rw [hpending'.nodup_iff]
    cases next with
    | none => exact (List.nodup_cons.mp hdistinct).2
    | some j =>
      rw [← hticket j rfl] at hdistinct
      exact hdistinct
  · intro m hm
    rw [hpublished] at hm
    rw [hrequests]
    rcases List.mem_append.mp hm with hold | hnew
    · exact h.known m hold
    · rw [hsent m hnew]
      exact h.lt_of_pending (List.mem_append_right _ (List.mem_map_of_mem hmem))
  · intro m hm
    rw [hqueue] at hm
    rw [hrequests, hother _ (hothers _ (List.mem_append_left _ (List.mem_map_of_mem hm)))]
    exact h.queued m hm
  · intro j hj
    rw [hrequests]
    rw [hprocessing] at hj
    by_cases hnext : j ∈ next
    · obtain ⟨body, hbody, -⟩ := h.running job hmem
      rw [hticket j hnext]
      exact ⟨body, hbody, hrunning j hnext body hbody⟩
    · have hrest : j ∈ before ++ after := by
        simp only [List.mem_append, Option.mem_toList] at hj ⊢
        exact hj.imp_right fun hj => hj.resolve_left hnext
      rw [hother _ (hothers _ (List.mem_append_right _ (List.mem_map_of_mem hrest)))]
      apply h.running j
      rw [hjob]
      exact List.mem_append.mpr ((List.mem_append.mp hrest).imp_right (List.mem_cons_of_mem _))
  · intro ticket body hbody hsettled
    rw [hrequests] at hbody
    rw [hpending'.mem_iff, List.mem_append, not_or] at hsettled
    by_cases hown : ticket = job.ticket
    · subst hown
      cases next with
      | none => exact hdone rfl body hbody
      | some j => exact absurd (hticket j rfl).symm (by simpa using hsettled.1)
    · refine (h.settled ticket body hbody ?_).mono (hother ticket hown) hescaped
      rw [hpending.mem_iff, List.mem_cons, not_or]
      exact ⟨hown, hsettled.2⟩

/-- Steps that leave the incoming side alone leave the ledger in order. -/
theorem Ledger.of_same {s t : State} (h : Ledger s) (hrequests : t.requests = s.requests)
    (hqueue : t.incomingEventQueue = s.incomingEventQueue) (hprocessing : t.processing = s.processing)
    (hpublished : t.published = s.published) (hescaped : s.escaped ⊆ t.escaped) : Ledger t := by
  refine ⟨?_, ?_, ?_, ?_, ?_⟩
  · simpa only [State.pending, hqueue, hprocessing] using h.distinct
  · simpa only [hpublished, hrequests] using h.known
  · simpa only [hqueue, hpublished, hrequests] using h.queued
  · simpa only [hprocessing, hpublished, hrequests] using h.running
  · intro ticket body hbody hsettled
    rw [hrequests] at hbody
    simp only [State.pending, hqueue, hprocessing] at hsettled
    exact (h.settled ticket body hbody hsettled).mono (by rw [hpublished]) hescaped

/-- A job that is given up is settled by the exception. -/
theorem settled_of_trace {s t : State} {job : Job} {body : EventDto}
    {sent : List (Message EventStatusChange)} (env : CallEnv) (events : EventsTable)
    (htrace : Trace body (some job.progress) (changesOf s.published job.ticket))
    (hpublished : t.published = s.published ++ sent)
    (hsent : sent = [] ∨ sent = [⟨job.ticket, (job.effect env events).2.2⟩])
    (hescaped : ∃ e ∈ t.escaped, e.ticket = job.ticket) : Settled t job.ticket body := by
  rw [Settled, hpublished, changesOf_append]
  refine Or.inr ⟨hescaped, ?_⟩
  rcases hsent with rfl | rfl
  · simpa [changesOf] using htrace.exists_done
  · simpa [changesOf] using (htrace.advance env events).exists_done

/-- Every step leaves the ledger in order. -/
theorem Ledger.move {s t : State} {l : Label} (h : Ledger s) (hmove : Move props s l t) : Ledger t := by
  cases hmove with
  | uploaded uri eventDto env =>
    exact h.request rfl rfl rfl rfl (List.Subset.refl _) (Or.inl rfl)
  | uploadFailed uri eventDto env e sent hsent =>
    refine h.request rfl rfl rfl rfl (List.subset_append_left _ _) ?_
    exact hsent.symm.imp_right fun hnone => ⟨hnone, _, List.mem_append_right _ List.mem_cons_self, rfl⟩
  | received message rest hqueue =>
    have hpending : List.Perm (State.pending { s with
        incomingEventQueue := rest
        processing := s.processing ++ [⟨message.ticket, .received, message.object⟩] }) s.pending := by
      simp only [State.pending, hqueue, List.map_append, List.map_cons, List.map_nil,
        ← List.append_assoc]
      exact List.perm_append_comm
    refine ⟨hpending.nodup_iff.mpr h.distinct, h.known, fun m hm => ?_, fun job hjob => ?_,
      fun ticket body hbody hsettled => ?_⟩
    · exact h.queued m (hqueue ▸ List.mem_cons_of_mem _ hm)
    · rcases List.mem_append.mp hjob with hold | hnew
      · exact h.running job hold
      · obtain rfl := List.mem_singleton.mp hnew
        obtain ⟨hbody, hnone⟩ := h.queued message (hqueue ▸ List.mem_cons_self)
        refine ⟨message.object, hbody, ?_⟩
        rw [hnone]
        exact .received
    · rw [hpending.mem_iff] at hsettled
      exact h.settled ticket body hbody hsettled
  | unreadable i e job before after hjob hstage =>
    obtain ⟨body, hbody, htrace⟩ := h.running job (by simp [hjob])
    refine h.step_job none hjob rfl rfl rfl (List.append_nil _).symm
      (List.subset_append_left _ _) (by simp) (by simp) (by simp) fun _ body' hbody' => ?_
    obtain rfl := Option.some.inj (hbody.symm.trans hbody')
    exact settled_of_trace quietEnv s.events htrace (List.append_nil _).symm (Or.inl rfl)
      ⟨_, List.mem_append_right _ List.mem_cons_self, rfl⟩
  | processed i env job before after hget hjob hsucceeds =>
    obtain ⟨body, hbody, htrace⟩ := h.running job (by simp [hjob])
    have hnext := htrace.advance env s.events
    have hchanges : changesOf (s.published ++ [⟨job.ticket, (job.effect env s.events).2.2⟩])
        job.ticket = changesOf s.published job.ticket ++ [(job.effect env s.events).2.2] := by
      simp [changesOf]
    rw [← hchanges] at hnext
    refine h.step_job (job.advance (job.effect env s.events).2.1) hjob rfl rfl rfl rfl
      (List.Subset.refl _) (by simp) (fun j hj => job.ticket_advance hj) ?_ ?_
    · intro j hj body' hbody'
      obtain rfl := Option.some.inj (hbody.symm.trans hbody')
      rw [Option.mem_def.mp hj] at hnext
      exact hnext
    · intro hlast body' hbody'
      obtain rfl := Option.some.inj (hbody.symm.trans hbody')
      rw [hlast] at hnext
      exact Or.inl hnext
  | processFailed i env job before after e sent hjob hsent =>
    obtain ⟨body, hbody, htrace⟩ := h.running job (by simp [hjob])
    refine h.step_job none hjob rfl rfl rfl rfl
      (List.subset_append_left _ _) ?_ (by simp) (by simp) fun _ body' hbody' => ?_
    · rcases hsent with rfl | rfl <;> simp
    · obtain rfl := Option.some.inj (hbody.symm.trans hbody')
      exact settled_of_trace env s.events htrace rfl hsent ⟨_, List.mem_append_right _ List.mem_cons_self, rfl⟩
  | taken message rest hidle hqueue => exact h.of_same rfl rfl rfl rfl (List.Subset.refl _)
  | informed i message hget => exact h.of_same rfl rfl rfl rfl (List.Subset.refl _)
  | informFailed i unreadable convertAndSend e message hget hfails =>
    exact h.of_same rfl rfl rfl rfl (List.subset_append_left _ _)

/-- The ledger is in order in every reachable state. -/
theorem ledger_of_reachable {s : State} (h : (system props events).Reachable s) : Ledger s := by
  refine TransitionSystem.Reachable.invariant (fun s hs => ?_) (fun s l t ih hstep => ?_) h
  · obtain rfl : s = start events := hs
    refine ⟨List.nodup_nil, ?_, ?_, ?_, ?_⟩ <;> simp [start]
  · exact ih.move (step_move hstep)

/-- What a request has published is always the beginning of INSERT, UPDATE, DELETE. -/
theorem Ledger.changes_begin {s : State} (h : Ledger s) {ticket : ℕ} {body : EventDto}
    (hbody : s.requests[ticket]? = some body) :
    ∃ full, Trace body none full ∧ changesOf s.published ticket <+: full := by
  by_cases hpending : ticket ∈ s.pending
  · rcases List.mem_append.mp hpending with hqueue | hprocessing
    · obtain ⟨m, hm, rfl⟩ := List.mem_map.mp hqueue
      rw [(h.queued m hm).2]
      obtain ⟨full, hfull, -⟩ := Trace.exists_done (.received : Trace body _ _)
      exact ⟨full, hfull, List.nil_prefix⟩
    · obtain ⟨job, hjob, rfl⟩ := List.mem_map.mp hprocessing
      obtain ⟨body', hbody', htrace⟩ := h.running job hjob
      obtain rfl := Option.some.inj (hbody.symm.trans hbody')
      exact htrace.exists_done
  · rcases h.settled ticket body hbody hpending with hdone | ⟨-, hbegins⟩
    · exact ⟨_, hdone, List.prefix_refl _⟩
    · exact hbegins

end Pipeline

end EventMonitor
