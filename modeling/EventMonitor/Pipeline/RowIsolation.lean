import EventMonitor.Pipeline.Rows

/-!
# Rows that leak and rows that are overwritten

As long as nothing fails, no row outlives its event: a row that one event has taken from
another is chased under the id that the last save returned, and removed in the end. What
gets lost are other rows. A client may name the id of an existing row, and the INSERT of its
event then overwrites that row instead of inserting one. Where no INSERT does that, every
event has a row of its own and the initial rows stay as they are.
-/

namespace EventMonitor

open Library

namespace Pipeline

open EventServiceImpl

variable {props : ApplicationProperties} {events : EventsTable}

/-- The row of a job is among the rows that jobs own. -/
theorem mem_rowsOf {jobs : List Job} {row : Int × EventColumns} :
    row ∈ rowsOf jobs ↔ ∃ job ∈ jobs, job.row = some row := by
  simp [rowsOf]

/-- A job owns a row exactly between its INSERT and its DELETE. -/
theorem Job.row_eq_some {job : Job} {row : Int × EventColumns} :
    job.row = some row ↔
      job.stage ≠ .received ∧ job.eventDto.id = some row.1 ∧ job.eventDto.columns = row.2 := by
  obtain ⟨ticket, _ | _ | _, eventDto⟩ := job <;> simp [Job.row, Option.map_eq_some_iff, Prod.ext_iff]

/-- When no event is in flight, exactly the ids of the accepted bodies have been asked for. -/
theorem mem_requestedIds_of_settled {s : State} (h : (faultFree props events).Reachable s)
    (hqueue : s.incomingEventQueue = []) (hprocessing : s.processing = []) (id : Int) :
    some id ∈ requestedIds s.requests s.published ↔ ∃ body ∈ s.requests, body.id = some id := by
  have hledger := ledger_of_reachable h.of_restrict
  rw [mem_requestedIds]
  constructor
  · rintro ⟨m, -, -, body, hbody, hid⟩
    exact ⟨body, List.mem_of_getElem? hbody, hid⟩
  · rintro ⟨body, hmem, hid⟩
    obtain ⟨ticket, hbody⟩ := List.mem_iff_getElem?.mp hmem
    have hsettled := hledger.settled ticket body hbody (by simp [State.pending, hqueue, hprocessing])
    have hdone : Trace body none (changesOf s.published ticket) := by
      refine hsettled.resolve_right ?_
      rintro ⟨⟨escape, hescape, -⟩, -⟩
      simp [(faultFree_iff.mp h).2] at hescape
    have hlisted : Action.insert ∈ (changesOf s.published ticket).map EventStatusChange.action := by
      rw [hdone.actions]
      exact List.mem_cons_self
    obtain ⟨change, hchange, haction⟩ := List.mem_map.mp hlisted
    exact ⟨_, mem_changesOf.mp hchange, haction, body, hbody, hid⟩

/-- Every row is an initial one or carried by an event between its INSERT and its DELETE; once no
event is in flight, exactly the initial rows are left whose ids no body has named. -/
theorem noRowLeaks {s : State} (h : (faultFree props events).Reachable s) :
    (∀ id columns, s.events.lookup id = some columns → events.lookup id = some columns ∨
      ∃ job ∈ s.processing, job.stage ≠ .received ∧ job.eventDto.id = some id) ∧
    (s.incomingEventQueue = [] → s.processing = [] → ∀ id, s.events.lookup id =
      if ∃ body ∈ s.requests, body.id = some id then none else events.lookup id) := by
  have howned := owned_of_faultFree h
  refine ⟨fun id columns hrow => ?_, fun hqueue hprocessing id => ?_⟩
  · refine (howned.owned id columns hrow).imp_right fun ⟨columns', hmem⟩ => ?_
    obtain ⟨job, hjob, hown⟩ := mem_rowsOf.mp hmem
    obtain ⟨hstage, hid, -⟩ := Job.row_eq_some.mp hown
    exact ⟨job, hjob, hstage, hid⟩
  · have hnone : (ownedRows s).owners = 0 := by simp [ownedRows, rowsOf, hprocessing]
    have hlookup := howned.lookup_of_no_owners hnone id
    have hids := mem_requestedIds_of_settled h hqueue hprocessing id
    by_cases hasked : ∃ body ∈ s.requests, body.id = some id
    · rw [if_pos hasked]
      exact hlookup.trans (if_pos (hids.mpr hasked))
    · rw [if_neg hasked]
      exact hlookup.trans (if_neg (mt hids.mp hasked))

/-- A table with a row under the id 1. -/
def oneRow : EventsTable := KeyedTable.put .empty 1 ⟨some "kept", none, none⟩

/-- Two events that name the same row: the one is removed with it, the other under a new id. -/
theorem shared_id_leaves_no_row :
    ∃ s, (faultFree .prod oneRow).Reachable s ∧ s.requests.length = 2 ∧
      ∀ id, s.events.lookup id =
        if ∃ body ∈ s.requests, body.id = some id then none else oneRow.lookup id := by
  have hrun : (TransitionSystem.replay (step .prod) (start oneRow)
      [.upload "/rest" ⟨some 1, none, none, none⟩ quietEnv,
        .upload "/rest" ⟨some 1, none, none, none⟩ quietEnv, .receiveIncoming, .receiveIncoming,
        .process 0 quietEnv, .process 1 quietEnv, .process 0 quietEnv, .process 0 quietEnv,
        .process 0 quietEnv, .process 0 quietEnv]).map
      (fun s => (s.escaped, s.incomingEventQueue, s.processing, s.requests.length)) =
      some ([], [], [], 2) := by decide
  obtain ⟨s, hreachable, hview⟩ := exists_reachable hrun
  simp only [Prod.mk.injEq] at hview
  obtain ⟨hnone, hqueue, hprocessing, hlength⟩ := hview
  have h := faultFree_iff.mpr ⟨hreachable, hnone⟩
  exact ⟨s, h, hlength, (noRowLeaks h).2 hqueue hprocessing⟩

/-- The INSERT of the step, if it is one, finds no row with the id of its body. -/
def InsertsNewRow (taken : TransitionSystem.Taken State Label) : Prop :=
  ∀ i env job, taken.label = .process i env → taken.source.processing[i]? = some job →
    job.stage = .received → ∀ id, job.eventDto.id = some id → id ∉ taken.source.events.rows

/-- Where every INSERT inserts a new row, owners never share a row. -/
theorem isolated_of_run {history : List (TransitionSystem.Taken State Label)} {s : State}
    (hrun : (faultFree props events).Run history s) (hnew : ∀ taken ∈ history, InsertsNewRow taken) :
    OwnedRows.Isolated events (ownedRows s) := by
  have hreachable : ((faultFree props events).restrict InsertsNewRow).Reachable s :=
    ⟨history, hrun.restrict hnew⟩
  refine OwnedRows.isolated_of_reachable (TransitionSystem.Simulation.reachable
    ⟨fun s hs => ?_, fun s l t hs hstep => ?_⟩ hreachable)
  · obtain rfl : s = start events := hs
    rfl
  · refine (ownedRows_step hs.of_restrict hstep.1).imp_right fun ⟨l', hl', hclaim⟩ => ⟨l', hl', ?_⟩
    intro source requested columns heq id hid
    obtain ⟨i, env, job, rfl, hget, hstage, rfl⟩ := hclaim source requested columns heq
    exact hstep.2 i env job rfl hget hstage id hid

/-- Owners of different rows carry different ids. -/
theorem ids_ne_of_distinct {jobs : List Job} (h : ((rowsOf jobs).map Prod.fst).Nodup) {job job' : Job}
    (hjob : job ∈ jobs) (hjob' : job' ∈ jobs) (hne : job ≠ job') {row row' : Int × EventColumns}
    (hrow : job.row = some row) (hrow' : job'.row = some row') : row.1 ≠ row'.1 := by
  rw [rowsOf, Multiset.map_coe, Multiset.coe_nodup, List.Nodup, List.pairwise_map,
    List.pairwise_filterMap] at h
  have hsymm : Std.Symm fun a b : Job =>
      ∀ p, a.row = some p → ∀ q, b.row = some q → (p : Int × EventColumns).1 ≠ q.1 :=
    ⟨fun a b hab q hq p hp => (hab p hp q hq).symm⟩
  exact h.forall hjob hjob' hne row hrow row' hrow'

/-- The columns of an event between its INSERT and its DELETE: those that its INSERT has published,
with the name of its request. -/
def Inserted (s : State) (ticket : ℕ) (columns : EventColumns) : Prop :=
  ∃ body saved, s.requests[ticket]? = some body ∧ Stamped body saved ∧
    ⟨ticket, ⟨saved, .insert⟩⟩ ∈ s.published ∧ columns = saved.columns

/-- A job between its INSERT and its DELETE carries an id and the columns of its INSERT. -/
theorem Ledger.inserted {s : State} (h : Ledger s) {job : Job} (hjob : job ∈ s.processing)
    (hstage : job.stage ≠ .received) :
    (∃ id, job.eventDto.id = some id) ∧ Inserted s job.ticket job.eventDto.columns := by
  obtain ⟨body, hbody, htrace⟩ := h.running job hjob
  obtain ⟨ticket, stage, eventDto⟩ := job
  generalize hchanges : changesOf s.published ticket = changes at htrace
  cases htrace with
  | received => exact absurd rfl hstage
  | inserted hsaved =>
    have hmem := mem_changesOf.mp (hchanges ▸ List.mem_cons_self)
    exact ⟨Option.ne_none_iff_exists'.mp hsaved.id, body, eventDto, hbody, hsaved, hmem, rfl⟩
  | updated hsaved heventDto =>
    have hmem := mem_changesOf.mp (hchanges ▸ List.mem_cons_self)
    exact ⟨Option.ne_none_iff_exists'.mp heventDto.id, body, _, hbody, hsaved, hmem, heventDto.columns⟩

/-- Every event between its INSERT and its DELETE has a row of its own with its data, and the
initial rows are as they were. -/
structure RowsIsolated (events : EventsTable) (s : State) : Prop where
  own : ∀ job ∈ s.processing, job.stage ≠ .received → ∃ id columns, job.eventDto.id = some id ∧
    s.events.lookup id = some columns ∧ Inserted s job.ticket columns
  distinct : ∀ job ∈ s.processing, ∀ job' ∈ s.processing, job.stage ≠ .received →
    job'.stage ≠ .received → job.ticket ≠ job'.ticket → job.eventDto.id ≠ job'.eventDto.id
  kept : ∀ id columns, events.lookup id = some columns → s.events.lookup id = some columns

/-- Rows are isolated in every run in which no INSERT finds a row with the id of its body. -/
theorem rowIsolation {history : List (TransitionSystem.Taken State Label)} {s : State}
    (hrun : (faultFree props events).Run history s) (hnew : ∀ taken ∈ history, InsertsNewRow taken) :
    RowsIsolated events s := by
  have hisolated := isolated_of_run hrun hnew
  have hledger := ledger_of_reachable (TransitionSystem.Reachable.of_restrict ⟨history, hrun⟩)
  have hrow : ∀ job ∈ s.processing, job.stage ≠ .received → ∃ id, job.eventDto.id = some id ∧
      job.row = some (id, job.eventDto.columns) := by
    intro job hjob hstage
    obtain ⟨⟨id, hid⟩, -⟩ := hledger.inserted hjob hstage
    exact ⟨id, hid, Job.row_eq_some.mpr ⟨hstage, hid, rfl⟩⟩
  refine ⟨fun job hjob hstage => ?_, fun job hjob job' hjob' hstage hstage' hne heq => ?_,
    hisolated.kept⟩
  · obtain ⟨id, hid, hown⟩ := hrow job hjob hstage
    have hlookup := hisolated.own _ (mem_rowsOf.mpr ⟨job, hjob, hown⟩)
    exact ⟨id, job.eventDto.columns, hid, hlookup, (hledger.inserted hjob hstage).2⟩
  · obtain ⟨id, hid, hown⟩ := hrow job hjob hstage
    obtain ⟨id', hid', hown'⟩ := hrow job' hjob' hstage'
    have hids : id ≠ id' := ids_ne_of_distinct hisolated.distinct hjob hjob'
      (fun hsame => hne (congrArg Job.ticket hsame)) hown hown'
    rw [hid, hid'] at heq
    exact hids (Option.some.inj heq)

/-- Requests are never forgotten. -/
theorem Move.requests_kept {s t : State} {l : Label} (h : Move props s l t) :
    s.requests ⊆ t.requests := by
  cases h with
  | uploaded | uploadFailed => exact List.subset_append_left _ _
  | _ => exact List.Subset.refl _

/-- Bodies without an id insert new rows. -/
theorem insertsNewRow_of_null {history : List (TransitionSystem.Taken State Label)} {s : State}
    (hrun : (faultFree props events).Run history s) (hnull : ∀ body ∈ s.requests, body.id = none) :
    ∀ taken ∈ history, InsertsNewRow taken := by
  induction hrun with
  | start => simp
  | @snoc history u t l hbefore hstep ih =>
    have hkept : u.requests ⊆ t.requests := (step_move hstep.1).requests_kept
    have hledger := ledger_of_reachable (TransitionSystem.Reachable.of_restrict ⟨history, hbefore⟩)
    intro taken hmem
    rcases List.mem_append.mp hmem with hold | hlast
    · exact ih (fun body hbody => hnull body (hkept hbody)) taken hold
    · obtain rfl := List.mem_singleton.mp hlast
      rintro i env ⟨ticket, stage, eventDto⟩ - hget rfl id hid
      obtain ⟨body, hbody, htrace⟩ := hledger.running _ (List.mem_of_getElem? hget)
      generalize changesOf u.published ticket = changes at htrace
      cases htrace
      have hnone : eventDto.id = none := hnull _ (hkept (List.mem_of_getElem? hbody))
      simp [hnone] at hid

/-- A client names the id of an existing row, and the row is overwritten. -/
theorem insert_overwrites_row :
    ∃ s, (faultFree .prod oneRow).Reachable s ∧ ¬ RowsIsolated oneRow s := by
  have hrun : (TransitionSystem.replay (step .prod) (start oneRow)
      [.upload "/rest" ⟨some 1, some "event", none, none⟩ quietEnv, .receiveIncoming,
        .process 0 quietEnv]).map (fun s => (s.escaped, (s.events.lookup 1).bind EventColumns.name)) =
      some ([], some "event") := by decide
  obtain ⟨s, hreachable, hview⟩ := exists_reachable hrun
  simp only [Prod.mk.injEq] at hview
  refine ⟨s, faultFree_iff.mpr ⟨hreachable, hview.1⟩, fun h => ?_⟩
  have hkept := h.kept 1 ⟨some "kept", none, none⟩ (by decide)
  simp [hkept] at hview

/-- Two events without ids, both inserted, next to an existing row. -/
theorem null_ids_isolated :
    ∃ s, (faultFree .prod oneRow).Reachable s ∧ s.processing.length = 2 ∧ RowsIsolated oneRow s := by
  have hrun : (TransitionSystem.replay (step .prod) (start oneRow)
      [.upload "/rest" .empty quietEnv, .upload "/rest" .empty quietEnv, .receiveIncoming,
        .receiveIncoming, .process 0 quietEnv, .process 1 quietEnv]).map
      (fun s => (s.escaped, s.requests, s.processing.length)) = some ([], [.empty, .empty], 2) := by decide
  obtain ⟨s, hreachable, hview⟩ := exists_reachable hrun
  simp only [Prod.mk.injEq] at hview
  obtain ⟨hnone, hrequests, hlength⟩ := hview
  obtain ⟨history, hfaultFree⟩ := faultFree_iff.mpr ⟨hreachable, hnone⟩
  refine ⟨s, ⟨history, hfaultFree⟩, hlength, rowIsolation hfaultFree ?_⟩
  exact insertsNewRow_of_null hfaultFree (by simp [hrequests, EventDto.empty])

end Pipeline

end EventMonitor
