import EventMonitor.Stomp.Client

/-!
# What a call does to the client

Each call of the user has one frame. It is transmitted if the socket is open, refused while it is
connecting, and dropped when it is closed; the client has taken the number and changed its
subscriptions before it finds out, unless it is not allowed to change them.
-/

namespace EventMonitor

open Library JavaScript

namespace Stomp

open Page (ReadyState)

variable {env : Env} {s : Client}

/-- The parts of a frame. -/
def Frame.parts (frame : Frame) : Except URIError (List JsString) :=
  transmit frame.command (some frame.headers) (some frame.body)

/-- The headers of a subscription, with an id. -/
def withId (headers : JsObject) (counter : ℕ) : JsObject :=
  if isFalsy (headers.get (literal "id")) then headers.set (literal "id") (numbered "sub-" counter) else headers

/-- The id of a subscription. -/
def subscriptionId (headers : Option JsObject) (counter : ℕ) : JsString :=
  ((withId (headers.getD .empty) counter).get (literal "id")).getD []

/-- The frame of a transaction. -/
def transactionFrame (command : String) (transaction : JsString) : Frame :=
  ⟨literal command, JsObject.empty.set (literal "transaction") transaction, []⟩

/-- The frame of an acknowledgement. -/
def receivedFrame (command : String) (messageID subscription : JsString) (headers : Option JsObject) : Frame :=
  ⟨literal command, ((headers.getD .empty).set (literal "message-id") messageID).set
    (literal "subscription") subscription, []⟩

namespace Call

/-- The frame of a call, made when the counter of the client has the given value. -/
def frame (counter : ℕ) : Call → Option Frame
  | .send destination headers body =>
    some ⟨literal "SEND", (headers.getD .empty).set (literal "destination") destination, body.getD []⟩
  | .subscribe destination _ headers =>
    some ⟨literal "SUBSCRIBE", (withId (headers.getD .empty) counter).set (literal "destination") destination, []⟩
  | .unsubscribe id => some ⟨literal "UNSUBSCRIBE", JsObject.empty.set (literal "id") id, []⟩
  | .begin transaction => some (transactionFrame "BEGIN"
      (if isFalsy transaction then numbered "tx-" counter else transaction.getD []))
  | .commit transaction => some (transactionFrame "COMMIT" transaction)
  | .abort transaction => some (transactionFrame "ABORT" transaction)
  | .ack messageID subscription headers => some (receivedFrame "ACK" messageID subscription headers)
  | .nack messageID subscription headers => some (receivedFrame "NACK" messageID subscription headers)
  | .disconnect => some ⟨literal "DISCONNECT", .empty, []⟩
  | .throwing => none

/-- The call is given a number. -/
def takesNumber : Call → Bool
  | .subscribe _ _ headers => isFalsy ((headers.getD .empty).get (literal "id"))
  | .begin transaction => isFalsy transaction
  | _ => false

/-- The counter after a call. -/
def next (counter : ℕ) (c : Call) : ℕ := if c.takesNumber then counter + 1 else counter

/-- The subscriptions after a call. -/
def table (functions : ℕ → JsString → FunctionProperty) (counter : ℕ) (subscriptions : SubscriptionTable) :
    Call → Except JsError SubscriptionTable
  | .subscribe _ callback headers => subscriptions.assign functions (subscriptionId headers counter) callback
  | .unsubscribe id => .ok (subscriptions.delete id)
  | _ => .ok subscriptions

end Call

namespace Client

/-- What a call does before its frame is transmitted. -/
def asked (env : Env) (c : Call) (s : Client) : Client :=
  { s with
    counter := c.next s.counter
    subscriptions := match c.table env.functions s.counter s.subscriptions with
      | .ok subscriptions => subscriptions
      | .error _ => s.subscriptions }

/-- A frame has been transmitted over an open socket. -/
def spoken (frame : Frame) (parts : List JsString) (s : Client) : Client :=
  { s with sent := s.sent ++ parts, transmitted := s.transmitted ++ [frame] }

/-- The user has disconnected. -/
def hungUp (s : Client) : Client :=
  let s := { s with onclose := false }
  (if s.readyState = .connecting ∨ s.readyState = .opened then s.didClose else s).cleanUp

/-- What a call does after its frame has been transmitted. -/
def given (c : Call) (s : Client) : Client := if c = .disconnect then s.hungUp else s

/-- What becomes of a frame. -/
def transmits (frame : Frame) (s : Client) : Except JsError Unit × Client :=
  match frame.parts, s.readyState with
  | .error _, _ => (.error .malformed, s)
  | .ok _, .connecting => (.error .invalidState, s)
  | .ok parts, .opened => (.ok (), s.spoken frame parts)
  | .ok _, .closing | .ok _, .closed => (.ok (), s)

end Client

/-- `send` on an open socket. -/
theorem outcome_wsSend (hopen : s.readyState = .opened) (data : JsString) :
    Effect.outcome (Client.wsSend data) s = (.ok (), { s with sent := s.sent ++ [data] }) := by
  rw [Client.wsSend, Effect.outcome_bind, Effect.outcome_get]
  simp [hopen]

/-- `send` on a socket that is not open. -/
theorem outcome_wsSend_late (hconnecting : s.readyState ≠ .connecting) (hopen : s.readyState ≠ .opened)
    (data : JsString) : Effect.outcome (Client.wsSend data) s = (.ok (), s) := by
  rw [Client.wsSend, Effect.outcome_bind, Effect.outcome_get]
  cases hstate : s.readyState with
  | connecting => exact absurd hstate hconnecting
  | opened => exact absurd hstate hopen
  | closing => simp [hstate]
  | closed => simp [hstate]

/-- `send` on a socket that is connecting. -/
theorem outcome_wsSend_early (hconnecting : s.readyState = .connecting) (data : JsString) :
    Effect.outcome (Client.wsSend data) s = (.error .invalidState, s) := by
  rw [Client.wsSend, Effect.outcome_bind, Effect.outcome_get]
  simp [hconnecting]

/-- All parts of a frame on an open socket. -/
theorem outcome_sendParts (hopen : s.readyState = .opened) (parts : List JsString) :
    Effect.outcome (parts.forM Client.wsSend) s = (.ok (), { s with sent := s.sent ++ parts }) := by
  induction parts generalizing s with
  | nil => simp
  | cons part parts ih =>
    rw [Effect.outcome_forM_cons, Effect.outcome_bind, outcome_wsSend hopen]
    have hrest := ih (s := { s with sent := s.sent ++ [part] }) hopen
    simpa using hrest

/-- All parts of a frame on a socket that is not open. -/
theorem outcome_sendParts_late (hconnecting : s.readyState ≠ .connecting) (hopen : s.readyState ≠ .opened)
    (parts : List JsString) : Effect.outcome (parts.forM Client.wsSend) s = (.ok (), s) := by
  induction parts with
  | nil => rfl
  | cons part parts ih =>
    rw [Effect.outcome_forM_cons, Effect.outcome_bind, outcome_wsSend_late hconnecting hopen]
    exact ih

/-- Nothing is sent while the socket is connecting. -/
theorem outcome_sendParts_early (hconnecting : s.readyState = .connecting) {parts : List JsString}
    (hparts : parts ≠ []) : Effect.outcome (parts.forM Client.wsSend) s = (.error .invalidState, s) := by
  obtain ⟨part, rest, rfl⟩ := List.exists_cons_of_ne_nil hparts
  rw [Effect.outcome_forM_cons, Effect.outcome_bind, outcome_wsSend_early hconnecting]

/-- A frame has at least one part. -/
theorem Frame.parts_ne_nil {frame : Frame} {parts : List JsString} (h : frame.parts = .ok parts) : parts ≠ [] := by
  obtain ⟨data, -, rfl⟩ := transmit_eq_ok_iff.mp h
  obtain ⟨-, full, last, hparts, -⟩ := transmitLoop_parts data
  simp [hparts]

/-- `_transmit`. -/
theorem outcome_transmit (command : JsString) (headers : Option JsObject) (body : Option JsString) :
    Effect.outcome (Client.transmit command headers body) s =
      s.transmits ⟨command, headers.getD .empty, body.getD []⟩ := by
  have hparts : Stomp.transmit command headers body = Frame.parts ⟨command, headers.getD .empty, body.getD []⟩ := rfl
  rw [Client.transmit, Client.transmits, hparts]
  rcases hresult : Frame.parts ⟨command, headers.getD .empty, body.getD []⟩ with e | parts
  · rfl
  · simp only []
    rw [Effect.outcome_bind]
    cases hstate : s.readyState with
    | connecting => rw [outcome_sendParts_early hstate (Frame.parts_ne_nil hresult)]
    | opened =>
      rw [outcome_sendParts hstate]
      simp [Client.remember, Client.spoken, hstate]
    | closing =>
      rw [outcome_sendParts_late (by simp [hstate]) (by simp [hstate])]
      simp [Client.remember, hstate]
    | closed =>
      rw [outcome_sendParts_late (by simp [hstate]) (by simp [hstate])]
      simp [Client.remember, hstate]

/-- A property that has been assigned. -/
theorem subscriptionId_eq (headers : Option JsObject) (counter : ℕ) :
    subscriptionId headers counter =
      if isFalsy ((headers.getD .empty).get (literal "id")) then numbered "sub-" counter
      else ((headers.getD .empty).get (literal "id")).getD [] := by
  rw [subscriptionId, withId]
  split
  · rw [JsObject.get_set _ (by decide), if_pos rfl, Option.getD_some]
  · rfl

/-- A subscription is assigned, or the assignment throws. -/
theorem outcome_setSubscription (id : JsString) (callback : ℕ) :
    Effect.outcome (setSubscription env id callback) s =
      match s.subscriptions.assign env.functions id callback with
      | .ok subscriptions => (.ok (), { s with subscriptions := subscriptions })
      | .error e => (.error e, s) := by
  rw [setSubscription, Effect.outcome_bind, Effect.outcome_get]
  simp only []
  rw [Effect.outcome_bind, Effect.outcome_ofExcept]
  cases s.subscriptions.assign env.functions id callback <;> rfl

/-- `subscribe` numbers the subscription if need be and assigns its handler, before its frame is transmitted. -/
theorem outcome_subscribe (destination : JsString) (callback : ℕ) (headers : Option JsObject) :
    Effect.outcome (subscribe env destination callback headers) s =
      match s.subscriptions.assign env.functions (subscriptionId headers s.counter) callback with
      | .ok subscriptions => Client.transmits
          ⟨literal "SUBSCRIBE", (withId (headers.getD .empty) s.counter).set (literal "destination") destination, []⟩
          { s with
            counter := Call.next s.counter (.subscribe destination callback headers)
            subscriptions := subscriptions }
      | .error e =>
        (.error e, { s with counter := Call.next s.counter (.subscribe destination callback headers) }) := by
  rw [subscribe, withId, subscriptionId_eq, Call.next, Call.takesNumber]
  by_cases hid : isFalsy ((headers.getD .empty).get (literal "id"))
  · simp only [hid, if_true, Effect.outcome_bind, Effect.outcome_get, Effect.outcome_modify, outcome_setSubscription]
    cases s.subscriptions.assign env.functions (numbered "sub-" s.counter) callback with
    | error e => rfl
    | ok subscriptions => exact outcome_transmit _ _ _
  · simp only [hid, Bool.false_eq_true, if_false, Effect.outcome_bind, outcome_setSubscription]
    cases s.subscriptions.assign env.functions (((headers.getD .empty).get (literal "id")).getD []) callback with
    | error e => rfl
    | ok subscriptions => exact outcome_transmit _ _ _

/-- A subscription that is not allowed is not transmitted. -/
theorem outcome_perform_refused {c : Call} {e : JsError}
    (htable : c.table env.functions s.counter s.subscriptions = .error e) :
    Effect.outcome (perform env c) s = (.error e, s.asked env c) := by
  cases c with
  | subscribe destination callback headers =>
    have hassign : s.subscriptions.assign env.functions (subscriptionId headers s.counter) callback = .error e := htable
    rw [perform, outcome_subscribe, hassign, Client.asked, htable]
  | _ => cases htable

/-- A call transmits its frame; what it does besides is done before, or behind if nothing is thrown. -/
theorem outcome_perform (c : Call) {frame : Frame} (hframe : c.frame s.counter = some frame)
    {subscriptions : SubscriptionTable} (htable : c.table env.functions s.counter s.subscriptions = .ok subscriptions) :
    Effect.outcome (perform env c) s =
      match (s.asked env c).transmits frame with
      | (.ok (), t) => (.ok (), t.given c)
      | (.error e, t) => (.error e, t) := by
  have hleft (r : Except JsError Unit × Client) (hc : c ≠ .disconnect) : r =
      match r with
      | (.ok (), t) => (.ok (), t.given c)
      | (.error e, t) => (.error e, t) := by
    rcases r with ⟨e | _, t⟩
    · rfl
    · simp only [Client.given, if_neg hc]
  cases c with
  | throwing => simp [Call.frame] at hframe
  | disconnect =>
    obtain rfl := Option.some.inj hframe
    have hasked : s.asked env .disconnect = s := rfl
    rw [perform, disconnect, Effect.outcome_bind, outcome_transmit, Option.getD_none, Option.getD_none, hasked]
    rcases s.transmits ⟨literal "DISCONNECT", .empty, []⟩ with ⟨e | _, t⟩
    · rfl
    · simp only [Effect.outcome_bind, Effect.outcome_modify, Client.given, if_true, Client.hungUp]
      rw [Client.wsClose, Effect.outcome_bind, Effect.outcome_get]
      cases hstate : t.readyState <;> simp
  | subscribe destination callback headers =>
    obtain rfl := Option.some.inj hframe
    have hassign : s.subscriptions.assign env.functions (subscriptionId headers s.counter) callback =
      .ok subscriptions := htable
    rw [← hleft _ (by simp), perform, outcome_subscribe, hassign, Client.asked, htable]
  | begin transaction =>
    obtain rfl := Option.some.inj hframe
    rw [← hleft _ (by simp), perform, begin]
    by_cases htx : isFalsy transaction
    · have hasked : s.asked env (.begin transaction) = { s with counter := s.counter + 1 } := by
        simp [Client.asked, Call.next, Call.takesNumber, Call.table, htx]
      simp only [htx, if_true, Effect.outcome_bind, Effect.outcome_get, Effect.outcome_modify, transmitTransaction,
        outcome_transmit, hasked]
      rfl
    · have hasked : s.asked env (.begin transaction) = s := by
        simp [Client.asked, Call.next, Call.takesNumber, Call.table, htx]
      simp only [htx, Bool.false_eq_true, if_false, transmitTransaction, outcome_transmit, hasked]
      rfl
  | unsubscribe id =>
    obtain rfl := Option.some.inj hframe
    rw [← hleft _ (by simp), perform, unsubscribe, Effect.outcome_bind, Effect.outcome_modify]
    exact outcome_transmit _ _ _
  | send destination headers body =>
    obtain rfl := Option.some.inj hframe
    rw [← hleft _ (by simp)]
    exact outcome_transmit _ _ _
  | commit transaction =>
    obtain rfl := Option.some.inj hframe
    rw [← hleft _ (by simp), perform, commit, transmitTransaction, outcome_transmit]
    rfl
  | abort transaction =>
    obtain rfl := Option.some.inj hframe
    rw [← hleft _ (by simp), perform, abort, transmitTransaction, outcome_transmit]
    rfl
  | ack messageID subscription headers =>
    obtain rfl := Option.some.inj hframe
    rw [← hleft _ (by simp), perform, ack, transmitReceived, outcome_transmit]
    rfl
  | nack messageID subscription headers =>
    obtain rfl := Option.some.inj hframe
    rw [← hleft _ (by simp), perform, nack, transmitReceived, outcome_transmit]
    rfl

/-- A call is recorded with what it throws. -/
theorem outcome_call (c : Call) :
    (Effect.outcome (call env c) s).2 =
      match Effect.outcome (perform env c) s with
      | (.ok (), t) => t.record (.called c none)
      | (.error e, t) => t.record (.called c (some e)) := by
  rw [call, Effect.outcome_tryCatch, Effect.outcome_bind]
  rcases Effect.outcome (perform env c) s with ⟨_ | _, t⟩ <;> rfl

end Stomp

end EventMonitor
