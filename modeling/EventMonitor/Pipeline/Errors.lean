import EventMonitor.Pipeline.Broadcasts
import EventMonitor.Pipeline.Ledger

/-!
# Which failures the users hear of

An exception that escapes from a PUT is answered by the exception handler of the endpoint,
one that escapes from `IncomingEventListener` by the error handler of its container. The
container of `ProcessedEventListener` has no error handler: a notification that fails is
logged, and neither it nor an ERROR reaches the users.
-/

namespace EventMonitor

open Library

namespace Pipeline

open EventServiceImpl ProcessedEventListener

variable {props : ApplicationProperties} {events : EventsTable}

/-- The notification reports an exception. -/
def Broadcast.isError (broadcast : Broadcast) : Bool :=
  match broadcast.cause with
  | .statusChange _ => false
  | .error _ => true

/-- The notification that answers an exception. -/
def Escape.answer (escape : Escape) : Broadcast := ⟨errorReport escape.throwable, .error escape⟩

/-- The users have been told about an action of a request. -/
def Told (s : State) (ticket : ℕ) (action : Action) : Prop :=
  ∃ change : EventStatusChange, change.action = action ∧
    ⟨announcement change, .statusChange ⟨ticket, change⟩⟩ ∈ s.serverList

/-- The users have been told about an exception of a request. -/
def ToldError (s : State) (ticket : ℕ) : Prop :=
  ∃ escape : Escape, escape.ticket = ticket ∧ escape.answer ∈ s.serverList

/-- Each escaped exception is answered by one ERROR notification; once nobody is busy any more, every
request has had all of its notifications or an ERROR. -/
structure NothingLost (s : State) : Prop where
  answered : (s.serverList.filter Broadcast.isError).Perm (s.escaped.map Escape.answer)
  complete : Idle s → ∀ ticket body, s.requests[ticket]? = some body →
    (∀ action, action = .insert ∨ action = .update ∨ action = .delete → Told s ticket action) ∨
      ToldError s ticket

/-- The ERROR notifications are the answers to the exceptions that have been broadcast. -/
theorem filter_isError {broadcasts : List Broadcast} (hbody : ∀ b ∈ broadcasts, b.body = b.cause.body) :
    broadcasts.filter Broadcast.isError = (errors broadcasts).map Escape.answer := by
  induction broadcasts with
  | nil => rfl
  | cons b rest ih =>
    have htail := ih fun b hb => hbody b (List.mem_cons_of_mem _ hb)
    have hhead := hbody b List.mem_cons_self
    obtain ⟨body, message | escape⟩ := b
    · exact htail
    · obtain rfl : body = errorReport escape.throwable := hhead
      exact congrArg (List.cons (Escape.answer escape)) htail

/-- An exception escapes from `ProcessedEventListener` exactly in a notification that fails. -/
theorem Move.escaped_processed {s t : State} {l : Label} (h : Move props s l t) :
    (∃ escape ∈ t.escaped, escape.origin = .processed) ↔
      (∃ escape ∈ s.escaped, escape.origin = .processed) ∨ ¬ Informs l := by
  cases h with
  | uploaded | received | processed | taken =>
    rw [or_iff_left]
    simp [Informs]
  | uploadFailed | unreadable | processFailed =>
    rw [or_iff_left]
    · simp [State.escape, or_and_right, exists_or]
    · simp [Informs]
  | informed =>
    rw [or_iff_left]
    simp [Informs]
  | informFailed i unreadable convertAndSend e message hget hfails =>
    refine iff_of_true ⟨_, List.mem_append_right _ List.mem_cons_self, rfl⟩ (Or.inr fun hinforms => ?_)
    obtain ⟨rfl, rfl⟩ := hinforms i _ _ rfl
    simp at hfails

/-- An exception has escaped from `ProcessedEventListener` exactly if a notification has failed. -/
theorem escaped_processed_iff {history : List (TransitionSystem.Taken State Label)} {s : State}
    (hrun : (system props events).Run history s) :
    (∃ escape ∈ s.escaped, escape.origin = .processed) ↔ ∃ taken ∈ history, ¬ Informs taken.label := by
  induction hrun with
  | start hs =>
    rename_i s
    obtain rfl : s = start events := hs
    simp [start]
  | snoc _ hstep ih =>
    rw [(step_move hstep).escaped_processed, ih]
    simp [or_and_right, exists_or]

/-- A published status change has been told to the users when nothing is under way any more. -/
theorem told_of_published {s : State} (h : (reliable props events).Reachable s) (hidle : Idle s)
    {message : Message EventStatusChange} (hmem : message ∈ s.published) :
    Told s message.ticket message.object.action := by
  obtain ⟨b, hb, hcause⟩ := mem_statuses.mp ((statuses_perm h hidle).mem_iff.mpr hmem)
  have hbody := body_of_reachable h.of_restrict b hb
  obtain ⟨body, cause⟩ := b
  obtain rfl : cause = .statusChange message := hcause
  obtain rfl : body = announcement message.object := hbody
  exact ⟨message.object, rfl, hb⟩

/-- A run loses nothing exactly if none of its notifications fails. -/
theorem nothingLost_iff {history : List (TransitionSystem.Taken State Label)} {s : State}
    (hrun : (system props events).Run history s) :
    NothingLost s ↔ ∀ taken ∈ history, Informs taken.label := by
  have hreachable : (system props events).Reachable s := ⟨history, hrun⟩
  have hanswers := filter_isError (body_of_reachable hreachable)
  rw [errors_of_reachable hreachable] at hanswers
  constructor
  · intro h
    by_contra hfails
    simp only [not_forall] at hfails
    obtain ⟨taken, hmem, hfail⟩ := hfails
    obtain ⟨escape, hescape, horigin⟩ := (escaped_processed_iff hrun).mpr ⟨taken, hmem, hfail⟩
    -- fewer answers than exceptions
    have hlength := h.answered.length_eq
    rw [hanswers, List.length_map, List.length_map] at hlength
    have hall := List.length_filter_eq_length_iff.mp hlength escape hescape
    simp [horigin] at hall
  · intro hinforms
    have hreliable : (reliable props events).Reachable s := ⟨history, hrun.restrict hinforms⟩
    have horigin : ∀ escape ∈ s.escaped, escape.origin ≠ .processed := by
      intro escape hmem heq
      obtain ⟨taken, htaken, hfail⟩ := (escaped_processed_iff hrun).mp ⟨escape, hmem, heq⟩
      exact hfail (hinforms taken htaken)
    have hfilter : s.escaped.filter (·.origin ≠ .processed) = s.escaped :=
      List.filter_eq_self.mpr fun escape hmem => by simpa using horigin escape hmem
    rw [hfilter] at hanswers
    refine ⟨hanswers ▸ List.Perm.refl _, fun hidle ticket body hbody => ?_⟩
    have hsettled := (ledger_of_reachable hreachable).settled ticket body hbody
      (by simp [State.pending, hidle.incomingEventQueue, hidle.processing])
    rcases hsettled with hdone | ⟨⟨escape, hescape, hticket⟩, -⟩
    · left
      intro action haction
      have hlisted : action ∈ (changesOf s.published ticket).map EventStatusChange.action := by
        rw [hdone.actions]
        simpa using haction
      obtain ⟨change, hchange, rfl⟩ := List.mem_map.mp hlisted
      exact told_of_published hreliable hidle (mem_changesOf.mp hchange)
    · right
      refine ⟨escape, hticket, List.mem_of_mem_filter (p := Broadcast.isError) ?_⟩
      rw [hanswers]
      exact List.mem_map_of_mem hescape

/-- The INSERT notification of the only event fails; nobody hears of it. -/
theorem failed_notification_is_lost :
    ∃ s, (system .prod KeyedTable.empty).Reachable s ∧ Idle s ∧ ¬ NothingLost s := by
  have hrun : (TransitionSystem.replay (step .prod) (start KeyedTable.empty)
      [.upload "/rest" .empty quietEnv, .receiveIncoming, .process 0 quietEnv, .process 0 quietEnv,
        .process 0 quietEnv, .receiveProcessed, .inform 0 none (some (.external "failed")),
        .receiveProcessed, .inform 0 none none, .receiveProcessed, .inform 0 none none]).map
      (fun s => (s.incomingEventQueue, s.processing, s.processedEventQueue, s.informing,
        (s.serverList.filter Broadcast.isError).length, s.escaped.length)) =
      some ([], [], [], [], 0, 1) := rfl
  obtain ⟨s, hreachable, hview⟩ := exists_reachable hrun
  simp only [Prod.mk.injEq] at hview
  obtain ⟨hincoming, hprocessing, hprocessed, hinforming, hanswers, hescaped⟩ := hview
  refine ⟨s, hreachable, ⟨hincoming, hprocessing, hprocessed, hinforming⟩, fun h => ?_⟩
  have hlength := h.answered.length_eq
  rw [hanswers, List.length_map, hescaped] at hlength
  contradiction

/-- An event whose UPDATE fails is answered by an ERROR, and so nothing is lost. -/
theorem failed_update_is_answered :
    ∃ s, (system .prod KeyedTable.empty).Reachable s ∧ s.escaped.map Escape.origin = [.incoming] ∧
      NothingLost s := by
  have hrun : (TransitionSystem.replay (step .prod) (start KeyedTable.empty)
      [.upload "/rest" .empty quietEnv, .receiveIncoming, .process 0 quietEnv,
        .process 0 (faultyEnv .repository)]).map (fun s => s.escaped.map Escape.origin) =
      some [.incoming] := by decide
  obtain ⟨s, ⟨history, hreachable⟩, hview⟩ := exists_reachable hrun
  refine ⟨s, ⟨history, hreachable⟩, hview, (nothingLost_iff hreachable).mpr fun taken hmem => ?_⟩
  by_contra hfails
  obtain ⟨escape, hescape, horigin⟩ := (escaped_processed_iff hreachable).mpr ⟨taken, hmem, hfails⟩
  have hlisted : Origin.processed ∈ s.escaped.map Escape.origin :=
    List.mem_map.mpr ⟨escape, hescape, horigin⟩
  simp [hview] at hlisted

end Pipeline

end EventMonitor
