import EventMonitor.Pipeline.Moves

/-!
# What reaches `/server/list`

Every notification has the text that its cause prescribes. The processed queue and its
consumers are a queue drained by competing consumers: a status change arrives there when it
is published, and it is finished when it has been broadcast. Exceptions are broadcast by
whoever catches them; nobody catches those of `ProcessedEventListener`.
-/

namespace EventMonitor

open Library

namespace Pipeline

variable {props : ApplicationProperties} {events : EventsTable}

/-- The status changes that have been broadcast. -/
def statuses (broadcasts : List Broadcast) : List (Message EventStatusChange) :=
  broadcasts.filterMap fun broadcast => match broadcast.cause with
    | .statusChange message => some message
    | .error _ => none

/-- The exceptions that have been broadcast. -/
def errors (broadcasts : List Broadcast) : List Escape :=
  broadcasts.filterMap fun broadcast => match broadcast.cause with
    | .statusChange _ => none
    | .error escape => some escape

/-- What users are to read about a status change: what has happened, and the id, the timestamp and
the user number of the event, each `null` if there is none. -/
def announcement (change : EventStatusChange) : JsonResult WebSocketDto :=
  let name := match change.action with
    | .insert => "INSERT"
    | .update => "UPDATE"
    | .delete => "DELETE"
    | .error => "ERROR"
  let id := (change.eventDto.id.map toString).getD "null"
  let timestamp := change.eventDto.timestamp.getD "null"
  let updatedBy := (change.eventDto.updatedBy.map toString).getD "null"
  ⟨.success, ⟨name ++ " id=" ++ id ++ ", timestamp=" ++ timestamp ++ ", updatedBy=" ++ updatedBy⟩⟩

/-- What users are to read about an exception. -/
def errorReport (throwable : Throwable) : JsonResult WebSocketDto :=
  ⟨.success, ⟨"ERROR " ++ throwable.toString⟩⟩

/-- The listener sends the announcement of the status change. -/
theorem informUserAboutStatusChange_eq (change : EventStatusChange) :
    ProcessedEventListener.informUserAboutStatusChange change = announcement change := by
  have hnumber : ∀ n : Option Int, printInteger n = (n.map toString).getD "null" := by
    intro n
    cases n <;> rfl
  have htext : printString change.eventDto.timestamp = change.eventDto.timestamp.getD "null" := by
    cases change.eventDto.timestamp <;> rfl
  simp only [ProcessedEventListener.informUserAboutStatusChange, EventDto.toString, hnumber, htext,
    announcement, JsonResult.of, String.append_assoc]
  cases change.action <;> rfl

/-- The exception handlers send the report of the exception. -/
theorem errorNotification_eq (throwable : Throwable) :
    errorNotification throwable = errorReport throwable := rfl

/-- The notification that a cause prescribes. -/
def Cause.body : Cause → JsonResult WebSocketDto
  | .statusChange message => announcement message.object
  | .error escape => errorReport escape.throwable

/-- Status changes of two lists of notifications. -/
@[simp] theorem statuses_append (first second : List Broadcast) :
    statuses (first ++ second) = statuses first ++ statuses second := List.filterMap_append

/-- Exceptions of two lists of notifications. -/
@[simp] theorem errors_append (first second : List Broadcast) :
    errors (first ++ second) = errors first ++ errors second := List.filterMap_append

/-- A notification about a status change counts as one. -/
@[simp] theorem statuses_statusChange (body : JsonResult WebSocketDto)
    (message : Message EventStatusChange) : statuses [⟨body, .statusChange message⟩] = [message] := rfl

/-- A notification about an exception is not one about a status change. -/
@[simp] theorem statuses_error (body : JsonResult WebSocketDto) (escape : Escape) :
    statuses [⟨body, .error escape⟩] = [] := rfl

/-- A notification about a status change is not one about an exception. -/
@[simp] theorem errors_statusChange (body : JsonResult WebSocketDto)
    (message : Message EventStatusChange) : errors [⟨body, .statusChange message⟩] = [] := rfl

/-- A notification about an exception counts as one. -/
@[simp] theorem errors_error (body : JsonResult WebSocketDto) (escape : Escape) :
    errors [⟨body, .error escape⟩] = [escape] := rfl

/-- A status change that has been broadcast is the cause of a notification. -/
theorem mem_statuses {broadcasts : List Broadcast} {message : Message EventStatusChange} :
    message ∈ statuses broadcasts ↔ ∃ b ∈ broadcasts, b.cause = .statusChange message := by
  rw [statuses, List.mem_filterMap]
  refine exists_congr fun b => and_congr_right fun _ => ?_
  rcases b with ⟨body, message' | escape⟩ <;> simp

/-- Notifications are never taken back. -/
theorem Move.serverList_kept {s t : State} {l : Label} (h : Move props s l t) :
    s.serverList <+: t.serverList := by
  cases h with
  | uploaded | received | processed | taken => exact List.prefix_refl _
  | uploadFailed | unreadable | processFailed | informed | informFailed => exact List.prefix_append _ _

/-- A step sends at most one notification. -/
theorem Move.serverList_length_le {s t : State} {l : Label} (h : Move props s l t) :
    t.serverList.length ≤ s.serverList.length + 1 := by
  cases h <;> simp [State.escape]

/-- Every notification has the text of its cause. -/
theorem body_of_reachable {s : State} (h : (system props events).Reachable s) :
    ∀ b ∈ s.serverList, b.body = b.cause.body := by
  refine TransitionSystem.Reachable.invariant
    (P := fun s => ∀ b ∈ s.serverList, b.body = b.cause.body)
    (fun s hs => ?_) (fun s l t ih hstep => ?_) h
  · obtain rfl : s = start events := hs
    simp [start]
  · cases step_move hstep with
    | uploaded | received | processed | taken => exact ih
    | informFailed => simpa only [State.escape, List.map_nil, List.append_nil] using ih
    | uploadFailed | unreadable | processFailed =>
      intro b hb
      rcases List.mem_append.mp hb with hold | hnew
      · exact ih b hold
      · obtain rfl := List.mem_singleton.mp hnew
        exact errorNotification_eq _
    | informed =>
      intro b hb
      rcases List.mem_append.mp hb with hold | hnew
      · exact ih b hold
      · obtain rfl := List.mem_singleton.mp hnew
        exact informUserAboutStatusChange_eq _

/-- An exception is answered if it has escaped anywhere but from `ProcessedEventListener`. -/
theorem errors_of_reachable {s : State} (h : (system props events).Reachable s) :
    errors s.serverList = s.escaped.filter (·.origin ≠ .processed) := by
  refine TransitionSystem.Reachable.invariant
    (P := fun s => errors s.serverList = s.escaped.filter (·.origin ≠ .processed))
    (fun s hs => ?_) (fun s l t ih hstep => ?_) h
  · obtain rfl : s = start events := hs
    rfl
  · cases step_move hstep with
    | uploaded | received | processed | taken => exact ih
    | uploadFailed | unreadable | processFailed | informed | informFailed =>
      simp [State.escape, ih]

/-- The processed queue with its consumers, as a queue drained by competing consumers. -/
def processedQueue (s : State) : CompetingConsumers.State (Message EventStatusChange) :=
  ⟨s.published, s.processedEventQueue, s.informing, statuses s.serverList⟩

/-- The step is not a notification that fails. -/
def Informs (l : Label) : Prop :=
  ∀ i unreadable convertAndSend, l = .inform i unreadable convertAndSend →
    unreadable = none ∧ convertAndSend = none

/-- When no exception escapes, no notification has failed. -/
theorem Move.informs {s t : State} {l : Label} (h : Move props s l t) (hquiet : t.escaped = s.escaped) :
    Informs l := by
  rintro i unreadable convertAndSend rfl
  cases h with
  | informed => exact ⟨rfl, rfl⟩
  | informFailed => exact absurd hquiet (escape_escaped_ne _ _ rfl)

/-- Seen from the processed queue, a step is nothing or a step of the queue; a message is taken
by `receiveProcessed` only, and it is lost only when its notification fails. -/
theorem Move.processedQueue {s t : State} {l : Label} (h : Move props s l t) :
    processedQueue t = processedQueue s ∨ ∃ l', CompetingConsumers.step (processedQueue s) l' =
      some (processedQueue t) ∧ (l' = .take → l = .receiveProcessed) ∧
        ((∃ i, l' = .lose i) → ¬ Informs l) := by
  cases h with
  | uploaded | received => exact Or.inl rfl
  | uploadFailed | unreadable =>
    left
    simp [Pipeline.processedQueue, State.escape]
  | processed i env job before after hget hjob hsucceeds =>
    exact Or.inr ⟨.arrive _, rfl, by simp, by simp⟩
  | processFailed i env job before after e sent hjob hsent =>
    rcases hsent with rfl | rfl
    · left
      simp [Pipeline.processedQueue, State.escape]
    · refine Or.inr ⟨.arrive ⟨job.ticket, (job.effect env s.events).2.2⟩, ?_, by simp, by simp⟩
      simp [CompetingConsumers.step, Pipeline.processedQueue, State.escape]
  | taken message rest hidle hqueue =>
    refine Or.inr ⟨.take, ?_, fun _ => rfl, by simp⟩
    simp [CompetingConsumers.step, Pipeline.processedQueue, hqueue]
  | informed i message hget =>
    refine Or.inr ⟨.finish i, ?_, by simp, by simp⟩
    simp [CompetingConsumers.step, Pipeline.processedQueue, hget]
  | informFailed i unreadable convertAndSend e message hget hfails =>
    refine Or.inr ⟨.lose i, ?_, by simp, fun _ hinforms => ?_⟩
    rotate_left
    · obtain ⟨rfl, rfl⟩ := hinforms i _ _ rfl
      simp at hfails
    simp [CompetingConsumers.step, Pipeline.processedQueue, hget, State.escape]

/-- Whatever fails, the processed queue is drained by competing consumers. -/
theorem processedQueue_reachable {s : State} (h : (system props events).Reachable s) :
    (CompetingConsumers.system _).Reachable (processedQueue s) := by
  refine TransitionSystem.Simulation.reachable ⟨fun s hs => ?_, fun s l t _ hstep => ?_⟩ h
  · obtain rfl : s = start events := hs
    rfl
  · exact (step_move hstep).processedQueue.imp_right fun ⟨l', hl', _⟩ => ⟨l', hl'⟩

/-- Whatever fails, a status change is broadcast at most as often as it has been published. -/
theorem statuses_subperm {s : State} (h : (system props events).Reachable s) :
    (statuses s.serverList).Subperm s.published := by
  have hpresent := CompetingConsumers.present_subperm (processedQueue_reachable h)
  exact (List.sublist_append_left _ _).subperm.trans hpresent

/-- The runs in which no notification fails. -/
def reliable (props : ApplicationProperties) (events : EventsTable) : TransitionSystem State Label :=
  (system props events).restrict fun taken => Informs taken.label

/-- Where nothing fails, no notification fails. -/
theorem reliable_of_faultFree {s : State} (h : (faultFree props events).Reachable s) :
    (reliable props events).Reachable s :=
  h.restrict_mono fun _ _ _ hstep hquiet => (step_move hstep).informs hquiet

/-- As long as no notification fails, every published status change is waiting, held or broadcast. -/
theorem processedQueue_lossless {s : State} (h : (reliable props events).Reachable s) :
    (CompetingConsumers.lossless _).Reachable (processedQueue s) := by
  refine TransitionSystem.Simulation.reachable ⟨fun s hs => ?_, fun s l t _ hstep => ?_⟩ h
  · obtain rfl : s = start events := hs
    rfl
  · refine (step_move hstep.1).processedQueue.imp_right fun ⟨l', hl', _, hlose⟩ => ⟨l', hl', ?_⟩
    intro i hi
    exact hlose ⟨i, hi⟩ hstep.2

/-- When the processed queue is empty and nobody holds a message, all has been broadcast. -/
theorem statuses_perm {s : State} (h : (reliable props events).Reachable s) (hidle : Idle s) :
    (statuses s.serverList).Perm s.published := by
  have hperm := CompetingConsumers.lossless_perm (processedQueue_lossless h)
  simpa [CompetingConsumers.State.present, processedQueue, hidle.processedEventQueue,
    hidle.informing] using hperm

end Pipeline

end EventMonitor
