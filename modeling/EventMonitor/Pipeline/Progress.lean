import EventMonitor.Library.Draining
import EventMonitor.Listener.ProcessingTime
import EventMonitor.Pipeline.ExactlyOnce
import EventMonitor.Pipeline.ListenerCall

/-!
# Every PUT is worked off

A PUT causes at most ten further steps: its message is received once, the listener makes three
calls, and each of the three status changes is received and announced. Consumers never block
each other, so the application comes to rest as soon as no more requests come in, whatever has
failed until then.
-/

namespace EventMonitor

open Library

namespace Pipeline

open EventServiceImpl ProcessedEventListener

variable {props : ApplicationProperties} {events : EventsTable}

/-- The steps that a job may still cause. -/
def Stage.work : Stage → ℕ
  | .received => 9
  | .inserted => 6
  | .updated => 3

/-- The steps that are still ahead when nothing fails. -/
def State.work (s : State) : ℕ :=
  10 * s.incomingEventQueue.length + (s.processing.map (·.stage.work)).sum +
    2 * s.processedEventQueue.length + s.informing.length

/-- A PUT pays for itself and for the ten steps that it causes. -/
def credit : Label → ℕ
  | .upload _ _ _ => 11
  | _ => 0

/-- A call of a job costs one step, and leads to two more for its status change. -/
theorem Job.work_advance (job : Job) (returned : EventDto) :
    ((job.advance returned).toList.map (·.stage.work)).sum + 3 = job.stage.work := by
  obtain ⟨ticket, stage, eventDto⟩ := job
  cases stage <;> rfl

/-- Every job has a call ahead, with its status change. -/
theorem Stage.three_le_work (stage : Stage) : 3 ≤ stage.work := by
  cases stage <;> decide

/-- Every step is paid for; one in which nothing fails costs exactly what it is paid. -/
theorem Move.work {s t : State} {l : Label} (h : Move props s l t) :
    t.work + 1 = s.work + credit l ∨ t.work + 1 ≤ s.work + credit l ∧ t.escaped ≠ s.escaped := by
  cases h with
  | uploaded =>
    left
    simp only [State.work, credit, List.length_append, List.length_singleton]
    omega
  | received message rest hqueue =>
    left
    simp only [State.work, credit, hqueue, List.length_cons, List.map_append, List.map_cons,
      List.map_nil, List.sum_append, List.sum_singleton, Stage.work]
    omega
  | processed i env job before after hget hjob hsucceeds =>
    have hwork := job.work_advance (job.effect env s.events).2.1
    left
    simp only [State.work, credit, hjob, List.map_append, List.map_cons, List.sum_append,
      List.sum_cons, List.length_append, List.length_singleton]
    omega
  | taken message rest hidle hqueue =>
    left
    simp only [State.work, credit, hqueue, List.length_cons, List.length_append, List.length_nil]
    omega
  | informed i message hget =>
    have herase := List.length_eraseIdx_of_lt (List.getElem?_eq_some_iff.mp hget).1
    have hlt := (List.getElem?_eq_some_iff.mp hget).1
    left
    simp only [State.work, credit, herase]
    omega
  | uploadFailed uri eventDto env e sent hsent =>
    have hlength : sent.length ≤ 1 := by
      rcases hsent with rfl | rfl <;> simp
    refine Or.inr ⟨?_, escape_escaped_ne _ _ rfl⟩
    simp only [State.work, State.escape, credit, List.length_append, List.length_map]
    omega
  | unreadable i e job before after hjob hstage =>
    have hwork := job.stage.three_le_work
    refine Or.inr ⟨?_, escape_escaped_ne _ _ rfl⟩
    simp only [State.work, State.escape, credit, hjob, List.map_append, List.map_cons,
      List.sum_append, List.sum_cons]
    omega
  | processFailed i env job before after e sent hjob hsent =>
    have hwork := job.stage.three_le_work
    have hlength : sent.length ≤ 1 := by
      rcases hsent with rfl | rfl <;> simp
    refine Or.inr ⟨?_, escape_escaped_ne _ _ rfl⟩
    simp only [State.work, State.escape, credit, hjob, List.map_append, List.map_cons,
      List.sum_append, List.sum_cons, List.length_append]
    omega
  | informFailed i unreadable convertAndSend e message hget hfails =>
    have herase := List.length_eraseIdx_of_lt (List.getElem?_eq_some_iff.mp hget).1
    have hlt := (List.getElem?_eq_some_iff.mp hget).1
    refine Or.inr ⟨?_, escape_escaped_ne _ _ rfl⟩
    simp only [State.work, State.escape, credit, herase]
    omega

/-- A step is never dearer than what it is paid. -/
theorem Move.work_le {s t : State} {l : Label} (h : Move props s l t) :
    t.work + 1 ≤ s.work + credit l :=
  h.work.elim Nat.le_of_eq fun hdropped => hdropped.1

/-- A step in which nothing fails drops no work. -/
theorem Move.work_eq {s t : State} {l : Label} (h : Move props s l t) (hquiet : t.escaped = s.escaped) :
    t.work + 1 = s.work + credit l :=
  h.work.resolve_right fun hdropped => hdropped.2 hquiet

/-- The application never takes a step that is not paid for. -/
theorem paid (props : ApplicationProperties) (events : EventsTable) :
    (system props events).Paid credit State.work where
  init s hs := by
    obtain rfl : s = start events := hs
    rfl
  step _ _ _ hstep := (step_move hstep).work_le

/-- Requests are counted by their credit. -/
theorem Move.requests_length {s t : State} {l : Label} (h : Move props s l t) :
    11 * t.requests.length = 11 * s.requests.length + credit l := by
  cases h with
  | uploaded | uploadFailed =>
    simp only [State.escape, credit, List.length_append, List.length_singleton]
    omega
  | received | unreadable | processed | processFailed | taken | informed | informFailed => rfl

/-- Only a PUT changes the list of requests. -/
theorem Move.requests_eq {s t : State} {l : Label} (h : Move props s l t) (hcredit : credit l = 0) :
    t.requests = s.requests := by
  cases h with
  | uploaded | uploadFailed => simp [credit] at hcredit
  | received | unreadable | processed | processFailed | taken | informed | informFailed => rfl

/-- The credit of a run is that of its requests. -/
theorem sum_credit {history : List (TransitionSystem.Taken State Label)} {s : State}
    (h : (system props events).Run history s) :
    (history.map fun taken => credit taken.label).sum = 11 * s.requests.length := by
  induction h with
  | start hs =>
    obtain rfl : _ = start events := hs
    rfl
  | snoc _ hstep ih =>
    have hrequests := (step_move hstep).requests_length
    rw [List.map_append, List.sum_append, ih, hrequests]
    rfl

/-- Nothing is ahead exactly when the application is idle. -/
theorem work_eq_zero_iff {s : State} : s.work = 0 ↔ Idle s := by
  constructor
  · intro h
    have hjobs : s.processing = [] := by
      rcases hprocessing : s.processing with _ | ⟨job, rest⟩
      · rfl
      · have hwork := job.stage.three_le_work
        simp only [State.work, hprocessing, List.map_cons, List.sum_cons] at h
        omega
    have hlengths : s.incomingEventQueue.length = 0 ∧ s.processedEventQueue.length = 0 ∧
        s.informing.length = 0 := by
      simp only [State.work] at h
      omega
    exact ⟨List.length_eq_zero_iff.mp hlengths.1, hjobs, List.length_eq_zero_iff.mp hlengths.2.1,
      List.length_eq_zero_iff.mp hlengths.2.2⟩
  · intro h
    simp [State.work, h.incomingEventQueue, h.processing, h.processedEventQueue, h.informing]

/-- Every call of a job can succeed. -/
def Feasible (props : ApplicationProperties) : Prop :=
  ∀ stage : Stage, ∃ env, succeeds props env stage.action

/-- With a delay in the range of an `int`, it is enough that its random part can be drawn. -/
theorem feasible_of_delayInRange (hprops : props.DelayInRange)
    (hdelay : props.enableDelay = false ∨ 0 < props.maxRandom) : Feasible props := by
  have hquiet : quietEnv.Undisturbed := rfl
  intro stage
  refine ⟨quietEnv, ?_⟩
  cases stage with
  | received | updated => exact succeeds_of_undisturbed hquiet props _
  | inserted =>
    apply (succeeds_update_iff hprops hquiet).mpr
    refine hdelay.imp_right fun hpos => ⟨hpos, ?_⟩
    simpa [quietEnv] using hprops.initial_lt

/-- The first job can go on, without a failure if its call can succeed. -/
theorem exists_step_of_job {s : State} {job : Job} (hget : s.processing[0]? = some job) :
    ∃ env t, step props s (.process 0 env) = some t ∧ (Feasible props → t.escaped = s.escaped) := by
  by_cases hfeasible : ∃ env, succeeds props env job.stage.action
  · obtain ⟨env, hsucceeds⟩ := hfeasible
    exact ⟨env, _, step_of_succeeds hget hsucceeds, fun _ => rfl⟩
  · refine ⟨quietEnv, process props 0 job quietEnv s, ?_, fun h => absurd (h job.stage) hfeasible⟩
    simp only [step, hget]

/-- With at least one consumer for each queue, something can be done wherever something is left, and
it can be done without a failure if the calls can succeed. -/
theorem exists_step {s : State} (hconsumers : 0 < props.maxConsumersCount) (hbusy : ¬ Idle s) :
    ∃ l t, credit l = 0 ∧ step props s l = some t ∧ (Feasible props → t.escaped = s.escaped) := by
  rcases hinforming : s.informing with _ | ⟨message, rest⟩
  rotate_left
  · have hstep : step props s (.inform 0 none none) = some (inform props 0 message none none s) := by
      simp only [step, hinforming, List.getElem?_cons_zero]
    exact ⟨_, _, rfl, hstep, fun _ => rfl⟩
  rcases hprocessed : s.processedEventQueue with _ | ⟨message, rest⟩
  rotate_left
  · have hstep : step props s .receiveProcessed = some { s with
        processedEventQueue := rest
        informing := s.informing ++ [message] } := by
      simp only [step, hinforming, hprocessed, List.length_nil]
      exact if_pos (lt_max_of_lt_right hconsumers)
    exact ⟨_, _, rfl, hstep, fun _ => rfl⟩
  rcases hprocessing : s.processing with _ | ⟨job, others⟩
  rotate_left
  · have hget : s.processing[0]? = some job := by rw [hprocessing, List.getElem?_cons_zero]
    obtain ⟨env, t, hstep, hquiet⟩ := exists_step_of_job hget
    exact ⟨_, t, rfl, hstep, hquiet⟩
  rcases hincoming : s.incomingEventQueue with _ | ⟨message, rest⟩
  · exact absurd ⟨hincoming, hprocessing, hprocessed, hinforming⟩ hbusy
  · have hstep : step props s .receiveIncoming = some { s with
        incomingEventQueue := rest
        processing := s.processing ++ [⟨message.ticket, .received, message.object⟩] } := by
      simp only [step, hprocessing, hincoming, List.length_nil]
      exact if_pos (lt_max_of_lt_right hconsumers)
    exact ⟨_, _, rfl, hstep, fun _ => rfl⟩

/-- A client's PUT. -/
def Label.IsPut (l : Label) : Prop := ∃ uri eventDto env, l = .upload uri eventDto env

/-- Everything but a PUT comes without credit. -/
theorem credit_eq_zero_iff {l : Label} : credit l = 0 ↔ ¬ l.IsPut := by
  cases l <;> simp [credit, Label.IsPut]

/-- No step of the path is a PUT. -/
def WithoutPut (later : List (TransitionSystem.Taken State Label)) : Prop :=
  ∀ taken ∈ later, ¬ taken.label.IsPut

/-- Such a path has no credit. -/
theorem WithoutPut.credit {later : List (TransitionSystem.Taken State Label)} (h : WithoutPut later) :
    ∀ taken ∈ later, Pipeline.credit taken.label = 0 :=
  fun taken hmem => credit_eq_zero_iff.mpr (h taken hmem)

/-- Nothing can happen any more, but for a PUT. -/
def AtRest (S : TransitionSystem State Label) (s : State) : Prop :=
  ∀ l t, S.step s l t → l.IsPut

/-- Without a PUT the requests stay the same. -/
theorem requests_of_path {later : List (TransitionSystem.Taken State Label)} {s t : State}
    (h : (system props events).Path s later t) (hlater : WithoutPut later) : t.requests = s.requests :=
  h.keeps fun taken hmem hstep => (step_move hstep).requests_eq (hlater.credit taken hmem)

/-- A run takes at most eleven steps for each PUT. Whatever has failed in it, it can be continued
until the application is idle, and every continuation without further PUTs ends there. -/
theorem worked_off {history : List (TransitionSystem.Taken State Label)} {s : State}
    (hrun : (system props events).Run history s) :
    history.length + s.work ≤ 11 * s.requests.length ∧
    (0 < props.maxConsumersCount →
      (∃ later t, (system props events).Path s later t ∧ WithoutPut later ∧ Idle t) ∧
      ∀ later t, (system props events).Path s later t → WithoutPut later →
        later.length + t.work ≤ s.work ∧ (AtRest (system props events) t → Idle t)) := by
  refine ⟨?_, fun hconsumers => ⟨?_, fun later t hpath hlater => ⟨?_, fun hrest => ?_⟩⟩⟩
  · rw [← sum_credit hrun]
    exact (paid props events).run_length_le hrun
  · have hmoves : ∀ u, (system props events).Reachable u → ¬ Idle u →
        ∃ l v, credit l = 0 ∧ (system props events).step u l v := by
      intro u _ hbusy
      obtain ⟨l, v, hcredit, hstep, -⟩ := exists_step hconsumers hbusy
      exact ⟨l, v, hcredit, hstep⟩
    obtain ⟨later, t, hpath, hlater, hidle⟩ :=
      (paid props events).exists_idle hmoves ⟨history, hrun⟩
    exact ⟨later, t, hpath, fun taken hmem => credit_eq_zero_iff.mp (hlater taken hmem), hidle⟩
  · exact (paid props events).path_length_le hpath hlater.credit
  · by_contra hbusy
    obtain ⟨l, u, hcredit, hstep, -⟩ := exists_step hconsumers hbusy
    exact credit_eq_zero_iff.mp hcredit (hrest l u hstep)

/-- An event whose INSERT cannot be committed is worked off like all others. -/
theorem failed_insert_worked_off :
    ∃ s, (system .prod KeyedTable.empty).Reachable s ∧ s.escaped.length = 1 ∧ s.work = 2 ∧
      ∃ later t, (system .prod KeyedTable.empty).Path s later t ∧ WithoutPut later ∧ Idle t := by
  have hrun : (TransitionSystem.replay (step .prod) (start KeyedTable.empty)
      [.upload "/rest" .empty quietEnv, .receiveIncoming, .process 0 (faultyEnv .commit)]).map
      (fun s => (s.escaped.length, s.work)) = some (1, 2) := by decide
  obtain ⟨s, ⟨history, hreachable⟩, hview⟩ := exists_reachable hrun
  simp only [Prod.mk.injEq] at hview
  exact ⟨s, ⟨history, hreachable⟩, hview.1, hview.2, ((worked_off hreachable).2 (by decide)).1⟩

/-- The runs in which nothing fails are paid for as well. -/
theorem paid_faultFree (props : ApplicationProperties) (events : EventsTable) :
    (faultFree props events).Paid credit State.work where
  init := (paid props events).init
  step s l t hstep := (paid props events).step s l t hstep.1

/-- As long as nothing fails, a run that leaves nothing to do has taken exactly eleven steps for each
PUT. If the calls can succeed, it can be continued in this way without further PUTs, and every such
continuation ends with all requests announced. -/
theorem announced_in_the_end {history : List (TransitionSystem.Taken State Label)} {s : State}
    (hrun : (faultFree props events).Run history s) :
    history.length + s.work = 11 * s.requests.length ∧
    (0 < props.maxConsumersCount → Feasible props →
      (∃ later t, (faultFree props events).Path s later t ∧ WithoutPut later ∧
        AtRest (faultFree props events) t) ∧
      ∀ later t, (faultFree props events).Path s later t → WithoutPut later →
        AtRest (faultFree props events) t →
          later.length = s.work ∧ t.requests = s.requests ∧ AllAnnounced t) := by
  have hexact : ∀ {history : List (TransitionSystem.Taken State Label)} {s : State},
      (faultFree props events).Run history s →
        history.length + s.work = 11 * s.requests.length := by
    intro history s hrun
    rw [← sum_credit hrun.of_restrict.1]
    have hcost : ∀ s l t, (faultFree props events).step s l t → t.work + 1 = s.work + credit l :=
      fun s l t hstep => (step_move hstep.1).work_eq hstep.2
    exact hrun.length_add_work (paid_faultFree props events).init hcost
  refine ⟨hexact hrun, fun hconsumers hfeasible => ⟨?_, fun later t hpath hlater hrest => ?_⟩⟩
  · have hmoves : ∀ u, (faultFree props events).Reachable u → ¬ AtRest (faultFree props events) u →
        ∃ l v, credit l = 0 ∧ (faultFree props events).step u l v := by
      intro u _ hbusy
      simp only [AtRest, not_forall] at hbusy
      obtain ⟨l, v, hstep, hput⟩ := hbusy
      exact ⟨l, v, credit_eq_zero_iff.mpr hput, hstep⟩
    obtain ⟨later, t, hpath, hlater, hrest⟩ :=
      (paid_faultFree props events).exists_idle hmoves ⟨history, hrun⟩
    exact ⟨later, t, hpath, fun taken hmem => credit_eq_zero_iff.mp (hlater taken hmem), hrest⟩
  · have hidle : Idle t := by
      by_contra hbusy
      obtain ⟨l, u, hcredit, hstep, hquiet⟩ := exists_step hconsumers hbusy
      exact credit_eq_zero_iff.mp hcredit (hrest l u ⟨hstep, hquiet hfeasible⟩)
    have hrequests := requests_of_path hpath.of_restrict hlater
    have hbefore := hexact hrun
    have hafter := hexact (hrun.append hpath)
    rw [List.length_append, work_eq_zero_iff.mpr hidle, hrequests] at hafter
    exact ⟨by omega, hrequests, allAnnounced_of_idle ⟨_, hrun.append hpath⟩ hidle⟩

/-- Right after the PUT of an event, ten steps are ahead, and they announce it. -/
theorem put_announced_in_the_end :
    ∃ s, (faultFree .prod KeyedTable.empty).Reachable s ∧ s.requests = [.empty] ∧ s.serverList = [] ∧
      ∃ later t, (faultFree .prod KeyedTable.empty).Path s later t ∧ later.length = 10 ∧
        AllAnnounced t := by
  have hrun : (TransitionSystem.replay (step .prod) (start KeyedTable.empty)
      [.upload "/rest" .empty quietEnv]).map
      (fun s => (s.escaped, s.requests, s.serverList.length, s.work)) = some ([], [.empty], 0, 10) := by
    decide
  obtain ⟨s, hreachable, hview⟩ := exists_reachable hrun
  simp only [Prod.mk.injEq, List.length_eq_zero_iff] at hview
  obtain ⟨hnone, hrequests, hserverList, hwork⟩ := hview
  have h := faultFree_iff.mpr ⟨hreachable, hnone⟩
  obtain ⟨history, hrun⟩ := h
  have hfeasible : Feasible .prod := feasible_of_delayInRange (by constructor <;> decide) (by decide)
  obtain ⟨⟨later, t, hpath, hlater, hrest⟩, hends⟩ :=
    (announced_in_the_end hrun).2 (by decide) hfeasible
  obtain ⟨hlength, -, hall⟩ := hends later t hpath hlater hrest
  exact ⟨s, ⟨history, hrun⟩, hrequests, hserverList, later, t, hpath, hlength.trans hwork, hall⟩

end Pipeline

end EventMonitor
