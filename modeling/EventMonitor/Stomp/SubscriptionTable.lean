import EventMonitor.Library.Journal
import EventMonitor.Stomp.Frame

/-!
# The object with the subscriptions

`subscriptions` is an object that starts out as `{}`, and an id may be any name. What the object inherits
is found as well, and called with the frame; the name `__proto__` stands for the object from which it
inherits, which becomes a handler when it is assigned one. A handler is a function that has been given no
further properties; on a few names functions differ, and that is left to them.
-/

namespace EventMonitor

open Library JavaScript

namespace Stomp

/-- What can be thrown. -/
inductive JsError
  | malformed
  | invalidState
  | typeError
  | syntaxError
  | user
  deriving DecidableEq, Repr

/-- What is found for a message: a handler, nothing that counts as true, or something that belongs to the
language and is called with the frame. -/
inductive Found
  | handler (callback : ℕ)
  | nothing
  | builtin (thrown : Option JsError)
  deriving DecidableEq, Repr

/-- What an assignment does to an object that has inherited the name. -/
inductive Assignment
  | creates
  | ignored
  | refused
  deriving DecidableEq, Repr

/-- A property of a function from which an object inherits. -/
structure FunctionProperty where
  read : Frame → Found
  assignment : Assignment

/-- The name of the prototype. -/
def proto : JsString := literal "__proto__"

/-- The names on which functions differ. -/
def functionNames : List JsString :=
  [literal "length", literal "name", literal "prototype", literal "arguments", literal "caller",
    literal "constructor"]

/-- What comes of `Function(frame)`: the text of the frame has to be the body of a function. -/
def makeFunction (isProgram : JsString → Bool) (frame : Frame) : Found :=
  match frame.toString with
  | .error _ => .builtin (some .malformed)
  | .ok text => if isProgram text then .builtin none else .builtin (some .syntaxError)

/-- The properties of a function expression without a name and with one parameter. -/
def functionExpression (isProgram : JsString → Bool) (name : JsString) : FunctionProperty :=
  if name = literal "length" then ⟨fun _ => .builtin (some .typeError), .ignored⟩
  else if name = literal "prototype" then ⟨fun _ => .builtin (some .typeError), .creates⟩
  else if name = literal "constructor" then ⟨makeFunction isProgram, .creates⟩
  else ⟨fun _ => .nothing, .ignored⟩

/-- The methods of all functions; none of them can be called without a function. -/
def functionMethods : List JsString :=
  [literal "apply", literal "bind", literal "call", literal "toString"]

/-- What can be called with nothing but a frame. -/
def objectFunctions : List JsString := [literal "constructor", literal "toString"]

/-- The methods that make a name of the frame before they find that they are called without an object. -/
def nameMethods : List JsString := [literal "hasOwnProperty", literal "propertyIsEnumerable"]

/-- The other methods, and the prototype itself, which is no function. -/
def objectMethods : List JsString :=
  [proto, literal "isPrototypeOf", literal "toLocaleString", literal "valueOf", literal "__defineGetter__",
    literal "__defineSetter__", literal "__lookupGetter__", literal "__lookupSetter__"]

/-- What every object inherits, called with a frame. -/
def objectPrototype (frame : Frame) (id : JsString) : Found :=
  if id ∈ objectFunctions then .builtin none
  else if id ∈ nameMethods then
    match frame.toString with
    | .error _ => .builtin (some .malformed)
    | .ok _ => .builtin (some .typeError)
  else if id ∈ objectMethods then .builtin (some .typeError)
  else .nothing

/-- `subscriptions`: its own properties, and the handler from which it inherits if `__proto__` has been
assigned one. -/
structure SubscriptionTable where
  own : List (JsString × ℕ)
  prototype : Option ℕ
  deriving DecidableEq, Repr

namespace SubscriptionTable

/-- `{}`. -/
def empty : SubscriptionTable := ⟨[], none⟩

/-- The handler among the own properties. -/
def lookup (id : JsString) (table : SubscriptionTable) : Option ℕ := table.own.lookup id

variable (functions : ℕ → JsString → FunctionProperty)

/-- What an assignment to another name than `__proto__` does. -/
def assignment (id : JsString) (table : SubscriptionTable) : Assignment :=
  match table.lookup id, table.prototype with
  | none, some callback => if id ∈ functionNames then (functions callback id).assignment else .creates
  | _, _ => .creates

/-- `subscriptions[id] = callback`. -/
def assign (id : JsString) (callback : ℕ) (table : SubscriptionTable) : Except JsError SubscriptionTable :=
  if id = proto then .ok { table with prototype := some callback }
  else
    match table.assignment functions id with
    | .creates => .ok { table with own := (id, callback) :: table.own.filter (·.1 ≠ id) }
    | .ignored => .ok table
    | .refused => .error .typeError

/-- `delete subscriptions[id]`. -/
def delete (id : JsString) (table : SubscriptionTable) : SubscriptionTable :=
  { table with own := table.own.filter (·.1 ≠ id) }

/-- What is inherited from a handler. -/
def inherited (callback : ℕ) (frame : Frame) (id : JsString) : Found :=
  if id = proto then .handler callback
  else if id ∈ functionNames then (functions callback id).read frame
  else if id ∈ functionMethods then .builtin (some .typeError)
  else objectPrototype frame id

/-- `subscriptions[id]`, called with a frame. -/
def find (frame : Frame) (id : JsString) (table : SubscriptionTable) : Found :=
  match table.lookup id, table.prototype with
  | some callback, _ => .handler callback
  | none, some callback => inherited functions callback frame id
  | none, none => objectPrototype frame id

end SubscriptionTable

/-- An id that no object and no function inherits. -/
def Ordinary (id : JsString) : Prop :=
  id ∉ functionNames ++ functionMethods ++ objectFunctions ++ nameMethods ++ objectMethods

instance (id : JsString) : Decidable (Ordinary id) := inferInstanceAs (Decidable (id ∉ _))

namespace SubscriptionTable

variable (functions : ℕ → JsString → FunctionProperty) {id : JsString}

/-- Nothing is inherited under an ordinary id. -/
theorem objectPrototype_of_ordinary (h : Ordinary id) (frame : Frame) : objectPrototype frame id = .nothing := by
  simp only [Ordinary, List.mem_append, not_or] at h
  rw [objectPrototype, if_neg h.1.1.2, if_neg h.1.2, if_neg h.2]

/-- The prototype itself is not ordinary. -/
theorem ne_proto_of_ordinary (h : Ordinary id) : id ≠ proto := by
  rintro rfl
  exact absurd h (by decide)

/-- What is found under an ordinary id is what has been assigned. -/
theorem find_of_ordinary (h : Ordinary id) (frame : Frame) (table : SubscriptionTable) :
    table.find functions frame id = (table.lookup id).elim .nothing .handler := by
  have hobject := objectPrototype_of_ordinary h frame
  have hproto := ne_proto_of_ordinary h
  simp only [Ordinary, List.mem_append, not_or] at h
  rw [find]
  cases table.lookup id with
  | some callback => rfl
  | none =>
    cases table.prototype with
    | none => exact hobject
    | some callback =>
      change inherited functions callback frame id = .nothing
      rw [inherited, if_neg hproto, if_neg h.1.1.1.1, if_neg h.1.1.1.2, hobject]

/-- What has been assigned is found first. -/
theorem find_of_lookup {callback : ℕ} {table : SubscriptionTable} (h : table.lookup id = some callback)
    (frame : Frame) : table.find functions frame id = .handler callback := by
  rw [find, h]

/-- An assignment to an ordinary id creates it. -/
theorem assign_of_ordinary (h : Ordinary id) (callback : ℕ) (table : SubscriptionTable) :
    table.assign functions id callback =
      .ok { table with own := (id, callback) :: table.own.filter (·.1 ≠ id) } := by
  have hcreates : table.assignment functions id = .creates := by
    simp only [Ordinary, List.mem_append, not_or] at h
    rw [assignment]
    cases table.lookup id <;> cases table.prototype <;> simp [h.1.1.1.1]
  rw [assign, if_neg (ne_proto_of_ordinary h), hcreates]

/-- What is found first among the properties after an assignment. -/
theorem lookup_assign {other : JsString} (h : Ordinary id) {callback : ℕ} {table table' : SubscriptionTable}
    (hassign : table.assign functions other callback = .ok table') :
    table'.lookup id = if id = other then some callback else table.lookup id := by
  by_cases hother : id = other
  · subst hother
    rw [assign_of_ordinary functions h] at hassign
    obtain rfl := Except.ok.inj hassign
    rw [if_pos rfl, lookup, Journal.lookup_cons_eq_ite, if_pos rfl]
  · rw [if_neg hother]
    rw [assign] at hassign
    split at hassign
    · obtain rfl := Except.ok.inj hassign
      rfl
    · split at hassign
      · obtain rfl := Except.ok.inj hassign
        rw [lookup, Journal.lookup_cons_eq_ite, if_neg hother, Journal.lookup_filter_ne, if_neg hother, lookup]
      · obtain rfl := Except.ok.inj hassign
        rfl
      · cases hassign

/-- An assignment that is refused is one to another name. -/
theorem ne_of_refused {other : JsString} (h : Ordinary id) {callback : ℕ} {table : SubscriptionTable} {e : JsError}
    (hassign : table.assign functions other callback = .error e) : id ≠ other := by
  rintro rfl
  rw [assign_of_ordinary functions h] at hassign
  cases hassign

/-- What is found after a deletion. -/
theorem lookup_delete (other : JsString) (table : SubscriptionTable) :
    (table.delete other).lookup id = if id = other then none else table.lookup id :=
  Journal.lookup_filter_ne table.own other id

end SubscriptionTable

end Stomp

end EventMonitor
