import EventMonitor.Pipeline.Broadcasts
import EventMonitor.Pipeline.Ledger

/-!
# The order of the notifications of one event

The status changes of an event are put on the processed queue in order, by one consumer
after the other. Several consumers drain that queue, and nothing keeps two of them from
holding status changes of one event at the same time; the notification of the later one may
then come first. This is the only way in which the order gets lost.
-/

namespace EventMonitor

open Library

namespace Pipeline

open EventServiceImpl

variable {props : ApplicationProperties} {events : EventsTable}

/-- No status change is taken while another one of its event is in the hands of a consumer. -/
def Exclusive (taken : TransitionSystem.Taken State Label) : Prop :=
  taken.label = .receiveProcessed → ∀ message ∈ taken.source.processedEventQueue.head?,
    ∀ held ∈ taken.source.informing, held.ticket ≠ message.ticket

/-- The condition can be evaluated. -/
instance (taken : TransitionSystem.Taken State Label) : Decidable (Exclusive taken) :=
  match taken with
  | ⟨s, .receiveProcessed, _⟩ =>
    decidable_of_iff (∀ message ∈ s.processedEventQueue.head?,
        ∀ held ∈ s.informing, held.ticket ≠ message.ticket)
      ⟨fun h _ => h, fun h => h rfl⟩
  | ⟨_, .upload .., _⟩ | ⟨_, .receiveIncoming, _⟩ | ⟨_, .failToRead .., _⟩ | ⟨_, .process .., _⟩
  | ⟨_, .inform .., _⟩ => isTrue fun h => nomatch h

/-- Under that condition the processed queue is drained exclusively. -/
theorem processedQueue_exclusive {s : State} (h : ((system props events).restrict Exclusive).Reachable s) :
    (CompetingConsumers.exclusive Message.ticket).Reachable (processedQueue s) := by
  refine TransitionSystem.Simulation.reachable ⟨fun s hs => ?_, fun s l t _ hstep => ?_⟩ h
  · obtain rfl : s = start events := hs
    rfl
  · refine (step_move hstep.1).processedQueue.imp_right fun ⟨l', hl', htake, _⟩ => ⟨l', hl', ?_⟩
    exact fun hl => hstep.2 (htake hl)

/-- With one consumer the condition holds of itself. -/
theorem exclusive_of_single {history : List (TransitionSystem.Taken State Label)} {s : State}
    (hrun : (system props events).Run history s)
    (hsingle : max props.consumersCount props.maxConsumersCount ≤ 1) :
    ∀ taken ∈ history, Exclusive taken := by
  rintro ⟨u, l, v⟩ hmem hlabel
  obtain rfl : l = .receiveProcessed := hlabel
  have hstep : step props u .receiveProcessed = some v := (hrun.step_of_mem _ hmem).2
  cases step_move hstep with
  | taken message rest hidle hqueue =>
    have hnone : u.informing = [] := List.length_eq_zero_iff.mp (by omega)
    simp [hnone]

/-- The actions that users have been told about for a request, in the order of the notifications. -/
def toldActions (s : State) (ticket : ℕ) : List Action :=
  (changesOf (statuses s.serverList) ticket).map EventStatusChange.action

/-- The order in which an event goes through its actions. -/
def lifecycle : List Action := [.insert, .update, .delete]

/-- Status changes of a request are published in the order of its lifecycle. -/
theorem published_begins {s : State} (h : Ledger s) (ticket : ℕ) :
    (changesOf s.published ticket).map EventStatusChange.action <+: lifecycle := by
  by_cases hticket : ticket < s.requests.length
  · obtain ⟨full, hfull, hbegins⟩ := h.changes_begin (List.getElem?_eq_getElem hticket)
    have hmap := hbegins.map EventStatusChange.action
    rwa [hfull.actions] at hmap
  · have hnone : changesOf s.published ticket = [] :=
      changesOf_eq_nil fun m hm heq => hticket (heq ▸ h.known m hm)
    rw [hnone]
    exact List.nil_prefix

/-- Status changes are published in order; as long as no two consumers hold status changes of one
event they are also broadcast in that order, each at most once. -/
theorem notifications_in_order {history : List (TransitionSystem.Taken State Label)} {s : State}
    (hrun : (system props events).Run history s) (ticket : ℕ) :
    (changesOf s.published ticket).map EventStatusChange.action <+: lifecycle ∧
      ((∀ taken ∈ history, Exclusive taken) ∨ max props.consumersCount props.maxConsumersCount ≤ 1 →
        (toldActions s ticket).Sublist lifecycle) := by
  have hpublished := published_begins (ledger_of_reachable ⟨history, hrun⟩) ticket
  refine ⟨hpublished, fun hexclusive => ?_⟩
  have hall : ∀ taken ∈ history, Exclusive taken :=
    hexclusive.elim id fun hsingle => exclusive_of_single hrun hsingle
  have hqueue := processedQueue_exclusive ⟨history, hrun.restrict hall⟩
  have hfinished := CompetingConsumers.exclusive_finished_sublist Message.ticket hqueue ticket
  exact ((hfinished.map Message.object).map EventStatusChange.action).trans hpublished.sublist

/-- Two consumers take INSERT and UPDATE of one event, and the second one is faster. -/
theorem update_told_before_insert :
    ∃ s, (faultFree .prod KeyedTable.empty).Reachable s ∧ ¬ (toldActions s 0).Sublist lifecycle := by
  have hrun : (TransitionSystem.replay (step .prod) (start KeyedTable.empty)
      [.upload "/rest" .empty quietEnv, .receiveIncoming, .process 0 quietEnv, .process 0 quietEnv,
        .receiveProcessed, .receiveProcessed, .inform 1 none none, .inform 0 none none]).map
      (fun s => (s.escaped, toldActions s 0)) = some ([], [.update, .insert]) := by decide
  obtain ⟨s, hreachable, hview⟩ := exists_reachable hrun
  simp only [Prod.mk.injEq] at hview
  refine ⟨s, faultFree_iff.mpr ⟨hreachable, hview.1⟩, ?_⟩
  rw [hview.2]
  decide

/-- A replay behind that condition, seen through a function, gives an exclusive run with that view. -/
theorem exists_exclusive_run {α : Type} {labels : List Label} {view : State → α} {a : α}
    (h : (TransitionSystem.replay (fun s l => if Exclusive ⟨s, l, s⟩ then step props s l else none)
      (start events) labels).map view = some a) :
    ∃ history s, (system props events).Run history s ∧ (∀ taken ∈ history, Exclusive taken) ∧
      view s = a := by
  have hstart : (system props events).init (start events) := rfl
  exact TransitionSystem.exists_run_of_replay labels view hstart h

/-- Two events and several consumers, none of which takes a status change of an event whose last one
another consumer still holds: the notifications of each event come in order. -/
theorem exclusive_consumers_in_order :
    ∃ history s, (system .prod KeyedTable.empty).Run history s ∧ (∀ taken ∈ history, Exclusive taken) ∧
      (statuses s.serverList).map Message.ticket = [1, 0, 1, 0, 1, 0] ∧
      (toldActions s 0).Sublist lifecycle ∧ (toldActions s 1).Sublist lifecycle := by
  have hrun : (TransitionSystem.replay
      (fun s l => if Exclusive ⟨s, l, s⟩ then step .prod s l else none) (start KeyedTable.empty)
      [.upload "/rest" .empty quietEnv, .upload "/rest" .empty quietEnv, .receiveIncoming,
        .receiveIncoming, .process 0 quietEnv, .process 1 quietEnv, .receiveProcessed, .receiveProcessed,
        .inform 1 none none, .inform 0 none none, .process 0 quietEnv, .process 1 quietEnv,
        .receiveProcessed, .receiveProcessed, .inform 1 none none, .inform 0 none none,
        .process 0 quietEnv, .process 0 quietEnv, .receiveProcessed, .receiveProcessed,
        .inform 1 none none, .inform 0 none none]).map
      (fun s => (statuses s.serverList).map Message.ticket) = some [1, 0, 1, 0, 1, 0] := by
    decide +kernel
  obtain ⟨history, s, hreachable, hexclusive, hview⟩ := exists_exclusive_run hrun
  exact ⟨history, s, hreachable, hexclusive, hview,
    (notifications_in_order hreachable 0).2 (Or.inl hexclusive),
    (notifications_in_order hreachable 1).2 (Or.inl hexclusive)⟩

end Pipeline

end EventMonitor
