import EventMonitor.Library.Journal
import EventMonitor.Stomp.Stream

/-!
# Who is told of a message

The subscriptions of a client are a journal that it keeps for itself, also where a call throws. A message is
told to the handler that the journal names last for its subscription, unless the id is one that objects or
functions inherit; the ids that the client chooses do not get in each other's way.
-/

namespace EventMonitor

open Library JavaScript

namespace Stomp

open Page (ReadyState)

variable {env : Env} {s t : Client}

/-- What a call says about a subscription: its handler, or that it has none any more. -/
def Call.request (counter : ℕ) : Call → Option (JsString × Option ℕ)
  | .subscribe _ callback headers => some (subscriptionId headers counter, some callback)
  | .unsubscribe id => some (id, none)
  | _ => none

/-- What the calls have said, whether they have thrown or not. -/
def requests (counter : ℕ) : List Event → List (JsString × Option ℕ)
  | [] => []
  | .callback _ :: trace | .lost :: trace => requests counter trace
  | .called c _ :: trace => (c.request counter).toList ++ requests (c.next counter) trace

/-- The handler that has been given last for an id. -/
def lastHandler (trace : List Event) (id : JsString) : Option ℕ := Journal.lastWord (requests 0 trace) id

/-- The requests go on with the numbers. -/
theorem requests_append (counter : ℕ) (trace later : List Event) :
    requests counter (trace ++ later) = requests counter trace ++ requests (numberAfter counter trace) later := by
  induction trace generalizing counter with
  | nil => rfl
  | cons event trace ih =>
    cases event with
    | callback event => exact ih counter
    | called c thrown => rw [List.cons_append, requests, ih, requests, numberAfter, List.append_assoc]
    | lost => exact ih counter

/-- The subscriptions after a call: the last word on an ordinary id. -/
theorem Client.lookup_asked {id : JsString} (hid : Ordinary id) (c : Call) :
    (s.asked env c).subscriptions.lookup id =
      (c.request s.counter).elim (s.subscriptions.lookup id)
        fun entry => if id = entry.1 then entry.2 else s.subscriptions.lookup id := by
  cases c with
  | subscribe destination callback headers =>
    simp only [Client.asked, Call.table, Call.request, Option.elim_some]
    rcases hassign : s.subscriptions.assign env.functions (subscriptionId headers s.counter) callback with e | table
    · rw [if_neg (SubscriptionTable.ne_of_refused env.functions hid hassign)]
    · exact SubscriptionTable.lookup_assign env.functions hid hassign
  | unsubscribe other => exact SubscriptionTable.lookup_delete other s.subscriptions
  | _ => rfl

/-- Every message for an ordinary id has been told to the handler that was given last for it. -/
def ToldToLast (env : Env) (trace : List Event) : Prop :=
  ∀ before callback frame after, trace = before ++ .callback (.message callback frame) :: after →
    Ordinary frame.subscription → callback = lastHandler before frame.subscription ∧ (callback = none → env.onreceive)

/-- Something is recorded that is not a message. -/
theorem ToldToLast.concat {trace : List Event} (h : ToldToLast env trace) {event : Event}
    (hevent : ∀ callback frame, event = .callback (.message callback frame) → Ordinary frame.subscription →
      callback = lastHandler trace frame.subscription ∧ (callback = none → env.onreceive)) :
    ToldToLast env (trace ++ [event]) := by
  intro before callback frame after hsplit
  rcases List.eq_nil_or_concat after with rfl | ⟨earlier, last, rfl⟩
  · obtain ⟨rfl, hlast⟩ := List.append_inj' hsplit rfl
    exact hevent callback frame (List.cons.inj hlast).1
  · rw [List.concat_eq_append, ← List.cons_append, ← List.append_assoc] at hsplit
    obtain ⟨rfl, -⟩ := List.append_inj' hsplit rfl
    exact h before callback frame earlier rfl

/-- The subscriptions of a client are what its user has asked for last, and its messages have been told
accordingly. -/
structure Client.Follows (env : Env) (s : Client) : Prop where
  lookup : ∀ id, Ordinary id → s.subscriptions.lookup id = lastHandler s.trace id
  told : ToldToLast env s.trace

/-- A call is recorded. -/
theorem Client.Follows.called (hs : s.Follows env) (hnumbered : s.Numbered env) {c : Call}
    (thrown : Option JsError) (hsubscriptions : t.subscriptions = (s.asked env c).subscriptions)
    (htrace : t.trace = s.trace ++ [.called c thrown]) : t.Follows env := by
  constructor
  · intro id hid
    rw [hsubscriptions, htrace, lastHandler, requests_append, requests, requests, List.append_nil,
      Client.lookup_asked hid, ← hnumbered.counter, hs.lookup id hid]
    cases c.request s.counter with
    | none => rw [Option.toList_none, List.append_nil, lastHandler, Option.elim_none]
    | some entry => rw [Option.toList_some, Journal.lastWord_concat, lastHandler, Option.elim_some]
  · rw [htrace]
    exact hs.told.concat (by simp)

/-- Something else is recorded. -/
theorem Client.Follows.record (hs : s.Follows env) (event : Event)
    (hquiet : requests (numberAfter 0 s.trace) [event] = [])
    (hevent : ∀ callback frame, event = .callback (.message callback frame) → Ordinary frame.subscription →
      callback = lastHandler s.trace frame.subscription ∧ (callback = none → env.onreceive))
    (hsubscriptions : t.subscriptions = s.subscriptions) (htrace : t.trace = s.trace ++ [event]) :
    t.Follows env := by
  constructor
  · intro id hid
    rw [hsubscriptions, htrace, lastHandler, requests_append, hquiet, List.append_nil, hs.lookup id hid, lastHandler]
  · rw [htrace]
    exact hs.told.concat hevent

/-- Nothing is recorded. -/
theorem Client.Follows.same (hs : s.Follows env) (hsubscriptions : t.subscriptions = s.subscriptions)
    (htrace : t.trace = s.trace) : t.Follows env :=
  ⟨hsubscriptions ▸ htrace ▸ hs.lookup, htrace ▸ hs.told⟩

/-- Every move keeps the journal. -/
theorem Move.follows (h : Move env s t) (hnumbered : s.Numbered env) (hs : s.Follows env) : t.Follows env := by
  cases h with
  | opened parts hconnecting hparts => exact hs.same rfl rfl
  | refused c e h => exact hs.called hnumbered (some e) rfl rfl
  | spoke c frame parts hopen hframe hparts =>
    apply hs.called hnumbered (c := c) none
    · simp [Client.record, Client.spoken, Client.asked]
    · simp [Client.record, Client.spoken, Client.asked]
  | dropped c frame hconnecting hopen hframe =>
    apply hs.called hnumbered (c := c) none
    · simp [Client.record, Client.asked]
    · simp [Client.record, Client.asked]
  | noticed | accepted => exact hs.same rfl rfl
  | connected frame pinger ponger =>
    refine hs.record (.callback (.connected frame)) rfl (by simp) ?_ ?_ <;> simp [Client.record]
  | told event hdue =>
    refine hs.record (.callback event) rfl (fun callback frame hevent hid => ?_) rfl rfl
    rw [Event.callback.inj hevent] at hdue
    rw [← hs.lookup _ hid]
    cases callback with
    | none =>
      obtain ⟨honreceive, hfound⟩ := hdue
      rw [SubscriptionTable.find_of_ordinary env.functions hid] at hfound
      refine ⟨?_, fun _ => honreceive⟩
      cases hlookup : s.subscriptions.lookup frame.subscription with
      | none => rfl
      | some callback => simp [hlookup] at hfound
    | some callback =>
      rw [Callback.Due, SubscriptionTable.find_of_ordinary env.functions hid] at hdue
      refine ⟨?_, by simp⟩
      cases hlookup : s.subscriptions.lookup frame.subscription with
      | none => simp [hlookup] at hdue
      | some found => simpa [hlookup, eq_comm] using hdue
  | pinged hopen => exact hs.same rfl rfl
  | closed msg hscheduled honclose => exact hs.record (.callback (.lost msg)) rfl (by simp) rfl rfl
  | closedUnheard hscheduled honclose => exact hs.same rfl rfl

/-- The journal of a client in every state. -/
theorem follows_of_reachable (h : (system env).Reachable s) : s.Follows env := by
  refine (reachable_induct (P := fun s => s.Numbered env ∧ s.Follows env) ?_ ?_ ?_ h).2
  · refine ⟨⟨rfl, .connecting rfl (by simp [Client.new]) rfl rfl⟩, fun _ _ => rfl, ?_⟩
    intro before callback frame after hsplit
    simp [Client.new] at hsplit
  · exact fun s hs hlive => ⟨hs.1.lost hlive, hs.2.record .lost rfl (by simp) rfl rfl⟩
  · exact fun s t hs hmove => ⟨hmove.numbered hs.1, hmove.follows hs.1 hs.2⟩

/-- Whoever a message has been told to is the handler that was given last for its subscription when it
arrived; only where there is none, and the user wants to know, `onreceive` has been told. -/
theorem told_to_last_handler (h : (system env).Reachable s) {before after : List Event} {callback : Option ℕ}
    {frame : Frame} (hsplit : s.trace = before ++ .callback (.message callback frame) :: after)
    (hordinary : Ordinary frame.subscription) :
    callback = lastHandler before frame.subscription ∧ (callback = none → env.onreceive) :=
  (follows_of_reachable h).told before callback frame after hsplit hordinary

-- A handler that has been given for `__proto__` is told after it has been taken back.
example : (TransitionSystem.replay (step quiet) .new
    [.opened, .call (.subscribe (literal "/queue") 7 (some (JsObject.empty.set (literal "id") proto))),
      .call (.unsubscribe proto),
      .data (Frame.wire ⟨literal "MESSAGE", JsObject.empty.set (literal "subscription") proto, []⟩ 0)]).map
    (fun s => (s.subscriptions.own, s.trace.filterMap fun event => match event with
      | .callback (.message callback _) => some callback
      | _ => none)) = some ([], [some 7]) := by decide +kernel

/-! ## Ids that the client chooses -/

/-- Different numbers give different ids. -/
theorem numbered_injective (label : String) : Function.Injective (numbered label) := by
  intro a b h
  have hdigits : ofNat a = ofNat b := List.append_cancel_left h
  have hvalue : some (a : ℤ) = some (b : ℤ) := by rw [← parseInt_ofNat, hdigits, parseInt_ofNat]
  exact_mod_cast Option.some.inj hvalue

/-- They are ordinary: no name that is inherited begins with the same letter. -/
theorem ordinary_numbered (counter : ℕ) : Ordinary (numbered "sub-" counter) := by
  intro hmem
  have hfirst : ∀ name ∈ functionNames ++ functionMethods ++ objectFunctions ++ nameMethods ++ objectMethods,
      name.head? ≠ some 115 := by decide
  exact hfirst _ hmem rfl

/-- The user names the id in the call. -/
def Call.Names (id : JsString) : Call → Prop
  | .subscribe _ _ headers => (headers.getD .empty).get (literal "id") = some id
  | .unsubscribe other => other = id
  | _ => False

/-- An id that is not named is not chosen again. -/
theorem notMem_requests {trace : List Event} {n counter : ℕ} (hcounter : n < counter)
    (h : ∀ c thrown, .called c thrown ∈ trace → ¬ c.Names (numbered "sub-" n)) :
    numbered "sub-" n ∉ (requests counter trace).map Prod.fst := by
  induction trace generalizing counter with
  | nil => simp [requests]
  | cons event trace ih =>
    have hrest : ∀ c thrown, .called c thrown ∈ trace → ¬ c.Names (numbered "sub-" n) :=
      fun c thrown hmem => h c thrown (List.mem_cons_of_mem _ hmem)
    cases event with
    | callback event => exact ih hcounter hrest
    | lost => exact ih hcounter hrest
    | called c thrown =>
      have hnames := h c thrown List.mem_cons_self
      have hnext : n < c.next counter := by
        rw [Call.next]
        split <;> omega
      rw [requests, List.map_append, List.mem_append, not_or]
      refine ⟨?_, ih hnext hrest⟩
      cases c with
      | subscribe destination callback headers =>
        simp only [Call.request, Option.toList_some, List.map_cons, List.map_nil, List.mem_singleton,
          subscriptionId_eq]
        split
        next => exact fun hsame => absurd (numbered_injective "sub-" hsame) (Nat.ne_of_lt hcounter)
        next hid =>
          rcases hgiven : (headers.getD .empty).get (literal "id") with _ | id
          · simp [hgiven, isFalsy] at hid
          · intro hsame
            exact hnames (hgiven.trans (congrArg some hsame.symm))
      | unsubscribe id => simpa [Call.request, Call.Names, eq_comm] using hnames
      | _ => simp [Call.request]

/-- A subscription for which the client has chosen the id keeps its handler, whatever else is asked for, until
the user names its id in a call. -/
theorem subscription_kept (h : (system env).Reachable s) {before after : List Event} {destination : JsString}
    {callback : ℕ} {headers : Option JsObject} {thrown : Option JsError}
    (hsplit : s.trace = before ++ .called (.subscribe destination callback headers) thrown :: after)
    (hid : isFalsy ((headers.getD .empty).get (literal "id")))
    (hafter : ∀ c thrown, .called c thrown ∈ after → ¬ c.Names (numbered "sub-" (numberAfter 0 before))) :
    s.subscriptions.lookup (numbered "sub-" (numberAfter 0 before)) = some callback := by
  have hnext : Call.next (numberAfter 0 before) (.subscribe destination callback headers) =
      numberAfter 0 before + 1 := by simp [Call.next, Call.takesNumber, hid]
  have hmissing := notMem_requests (Nat.lt_succ_self (numberAfter 0 before)) hafter
  rw [(follows_of_reachable h).lookup _ (ordinary_numbered _), lastHandler, hsplit, requests_append, requests,
    Call.request, Option.toList_some, hnext, ← List.append_assoc, Journal.lastWord_append_of_notMem _ hmissing,
    Journal.lastWord_concat, subscriptionId_eq, if_pos hid, if_pos rfl]

/-! ## Messages -/

/-- The user is told something, and then the script goes on. -/
theorem path_told (event : Callback) {rest : Script Unit} (hrest : Effect.Follows (fun _ => True) (Move env) rest) :
    Relation.ReflTransGen (Move env) (s.record (.callback event))
      (Effect.outcome (tell env event >>= fun _ => rest) s).2 := by
  have hhandlers : Effect.Follows (fun _ => True) (Move env)
      (get >>= fun s : Client => (env.handlers s.trace).forM (call env)) :=
    .get_bind fun s _ => follows_handlers _ s trivial
  rw [tell, bind_assoc, Effect.outcome_bind, Effect.outcome_modify]
  exact hhandlers.bind keeps (fun _ => hrest) _ trivial

/-- A message that comes first in its text is told to the handler of its subscription. -/
theorem message_told {data : JsString} {frame : Frame} {later : List Frame} {callback : ℕ}
    (hopen : s.readyState = .opened) (hdata : Frame.unmarshall data = frame :: later)
    (hcommand : frame.command = literal "MESSAGE")
    (hfound : s.subscriptions.lookup frame.subscription = some callback) :
    ∃ t, step env s (.data data) = some t ∧ s.trace ++ [.callback (.message (some callback) frame)] <+: t.trace := by
  have hbeat : data ≠ [LF] := by
    rintro rfl
    have hread : (Frame.unmarshall [LF]).map Frame.command = [[]] := by decide
    rw [hdata, List.map_cons, hcommand] at hread
    exact absurd (List.cons.inj hread).1 (by decide)
  let u : Client := { s with serverActivity := now }
  have hmessage : Effect.outcome (onframe env frame) u =
      Effect.outcome (tell env (.message (some callback) frame)) u := by
    rw [onframe, hcommand, if_neg (by decide), if_pos rfl, Effect.outcome_bind, Effect.outcome_get]
    simp only []
    rw [← Frame.subscription, SubscriptionTable.find_of_lookup env.functions hfound]
  have hpath : Relation.ReflTransGen (Move env) (u.record (.callback (.message (some callback) frame)))
      (run (onmessage env data) s) := by
    rw [run, onmessage, if_neg hbeat, hdata, Effect.outcome_bind, Effect.outcome_modify]
    change Relation.ReflTransGen (Move env) _ (Effect.outcome ((frame :: later).forM (onframe env)) u).2
    rw [Effect.outcome_forM_cons, Effect.outcome_bind, hmessage, ← Effect.outcome_bind]
    exact path_told _ (.forM keeps follows_onframe later)
  refine ⟨_, by rw [step, if_pos hopen], ?_⟩
  exact trace_prefix_of_path hpath

/-! ## A subscription -/

/-- The call of a user who subscribes. -/
def listCall : Call := .subscribe (literal "/server/list") 7 none

/-- A client whose user has subscribed. -/
theorem exists_subscribed : ∃ s : Client, (system quiet).Reachable s ∧ s.readyState = .opened ∧
    s.trace = [.called listCall none] ∧ s.subscriptions = ⟨[(literal "sub-0", 7)], none⟩ := by
  obtain ⟨history, s, hrun, hview⟩ := exists_run quiet [.opened, .call listCall]
    (fun s => (s.readyState, s.trace, s.subscriptions))
    (a := (.opened, [.called listCall none], ⟨[(literal "sub-0", 7)], none⟩)) (by decide +kernel)
  obtain ⟨hopen, hrest⟩ := Prod.mk.inj hview
  obtain ⟨htrace, hsubscriptions⟩ := Prod.mk.inj hrest
  exact ⟨s, ⟨history, hrun⟩, hopen, htrace, hsubscriptions⟩

/-- A message for the subscription. -/
def listMessage : JsString :=
  Frame.wire ⟨literal "MESSAGE", JsObject.empty.set (literal "subscription") (literal "sub-0"), []⟩ 0

/-- It is told to the handler. -/
theorem list_told_to_last_handler : ∃ (s : Client) (before after : List Event) (frame : Frame),
    s.trace = before ++ .callback (.message (some 7) frame) :: after ∧
      some 7 = lastHandler before frame.subscription := by
  obtain ⟨s, hs, hopen, -, hsubscriptions⟩ := exists_subscribed
  obtain ⟨frame, hdata, hcommand, hsubscription⟩ : ∃ frame, Frame.unmarshall listMessage = [frame] ∧
      frame.command = literal "MESSAGE" ∧ frame.subscription = literal "sub-0" := ⟨_, rfl, rfl, rfl⟩
  have hfound : s.subscriptions.lookup frame.subscription = some 7 := by
    rw [hsubscriptions, hsubscription]
    rfl
  obtain ⟨t, hstep, after, hafter⟩ := message_told hopen hdata hcommand hfound
  have hsplit : t.trace = s.trace ++ .callback (.message (some 7) frame) :: after := by
    rw [← hafter, List.append_assoc, List.singleton_append]
  have hordinary : Ordinary frame.subscription := hsubscription ▸ (by decide)
  exact ⟨t, s.trace, after, frame, hsplit, (told_to_last_handler (hs.snoc hstep) hsplit hordinary).1⟩

/-- The subscription keeps its handler. -/
theorem list_kept : ∃ s : Client, s.trace = [.called listCall none] ∧
    s.subscriptions.lookup (numbered "sub-" (numberAfter 0 [])) = some 7 := by
  obtain ⟨s, hs, -, htrace, -⟩ := exists_subscribed
  have hsplit : s.trace = [] ++ .called listCall none :: [] := htrace
  exact ⟨s, htrace, subscription_kept hs hsplit (by decide) (by simp)⟩

end Stomp

end EventMonitor
