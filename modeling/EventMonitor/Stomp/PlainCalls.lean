import EventMonitor.Stomp.Calls

/-!
# Calls whose frames are read as they are written

Nothing is escaped in a header. A call is plain if no name and no value that it is given breaks a line
or the frame, and then its frame is read with exactly these headers: the numbers of the client and the
headers it adds do no harm.
-/

namespace EventMonitor

open Library JavaScript

namespace Stomp

namespace Frame

/-- A value that is read as it was written, whatever the name of its header. -/
structure PlainValue (value : JsString) : Prop where
  line : LF ∉ value
  null : NULL ∉ value
  trim : trim value = value

instance (value : JsString) : Decidable (PlainValue value) :=
  decidable_of_iff (LF ∉ value ∧ NULL ∉ value ∧ JavaScript.trim value = value)
    ⟨fun ⟨hline, hnull, htrim⟩ => ⟨hline, hnull, htrim⟩, fun ⟨hline, hnull, htrim⟩ => ⟨hline, hnull, htrim⟩⟩

/-- A header whose name is plain. -/
theorem PlainValue.header {name value : JsString} (h : PlainValue value) (hname : PlainHeader (name, [])) :
    PlainHeader (name, value) :=
  ⟨hname.name_line, h.line, hname.name_null, h.null, hname.name_colon, hname.name_trim, h.trim, hname.name_proto⟩

/-- A value without white space. -/
theorem plainValue_of_notSpace {value : JsString} (hspace : ∀ c ∈ value, ¬ isSpace c) (hnull : NULL ∉ value) :
    PlainValue value :=
  ⟨fun hmem => hspace LF hmem (by decide), hnull, trim_of_notSpace hspace⟩

/-- Headers that are read as they are written; the length of the body is not among them. -/
def PlainHeaders (headers : JsObject) : Prop :=
  ∀ header ∈ headers.properties, PlainHeader header ∧ header.1 ≠ contentLength

instance (headers : JsObject) : Decidable (PlainHeaders headers) := List.decidableBAll _ _

/-- No headers. -/
theorem plainHeaders_empty : PlainHeaders .empty := by simp [PlainHeaders, JsObject.empty]

/-- One more header. -/
theorem PlainHeaders.set {headers : JsObject} {name value : JsString} (h : PlainHeaders headers)
    (hname : PlainHeader (name, [])) (hlength : name ≠ contentLength) (hvalue : PlainValue value) :
    PlainHeaders (headers.set name value) := by
  intro header hmem
  rcases JsObject.mem_set hmem with hold | rfl
  · exact h header hold
  · exact ⟨hvalue.header hname, hlength⟩

/-- A frame that is read as it is written. -/
structure Plain (frame : Frame) : Prop where
  command_line : LF ∉ frame.command
  command_null : NULL ∉ frame.command
  command_ne : frame.command ≠ []
  headers : PlainHeaders frame.headers
  body : NULL ∉ frame.body

/-- The length of the body is added to its headers. -/
theorem Plain.length {frame : Frame} (h : frame.Plain) : frame.headers.get contentLength = none := by
  rw [JsObject.get, JsObject.find_eq_none_iff]
  intro hmem
  obtain ⟨header, hheader, hname⟩ := List.mem_map.mp hmem
  exact (h.headers header hheader).2 hname

/-- It can be marshalled if its body is the code of a text. -/
theorem Plain.marshallable {frame : Frame} (h : frame.Plain) : Marshallable frame.command frame.headers :=
  ⟨h.command_line, h.command_null, fun header hmem => (h.headers header hmem).1, h.length⟩

end Frame

open Stomp.Frame

/-- Headers that may be given. -/
def PlainGiven (headers : Option JsObject) : Prop := PlainHeaders (headers.getD .empty)

/-- What the user gives to a call is plain. -/
def Call.Plain : Call → Prop
  | .send destination headers body => PlainValue destination ∧ PlainGiven headers ∧ NULL ∉ body.getD []
  | .subscribe destination _ headers => PlainValue destination ∧ PlainGiven headers
  | .unsubscribe id => PlainValue id
  | .begin transaction => PlainValue (transaction.getD [])
  | .commit transaction => PlainValue transaction
  | .abort transaction => PlainValue transaction
  | .ack messageID subscription headers => PlainValue messageID ∧ PlainValue subscription ∧ PlainGiven headers
  | .nack messageID subscription headers => PlainValue messageID ∧ PlainValue subscription ∧ PlainGiven headers
  | .disconnect => True
  | .throwing => True

/-- A label before a number. -/
theorem plainValue_numbered {label : String}
    (h : (literal label).all (fun c => !isSpace c && c ≠ NULL) = true) (counter : ℕ) :
    PlainValue (numbered label counter) := by
  have hlabel := List.all_eq_true.mp h
  have hdecimal := isDecimal_ofNat counter
  apply plainValue_of_notSpace
  · intro c hmem
    rcases List.mem_append.mp hmem with hhead | hnumber
    · have hc := hlabel c hhead
      simp only [Bool.and_eq_true, Bool.not_eq_true'] at hc
      simp [hc.1]
    · exact isSpace_of_isDecimal hdecimal c hnumber
  · intro hmem
    rcases List.mem_append.mp hmem with hhead | hnumber
    · have hc := hlabel NULL hhead
      simp at hc
    · exact absurd (hdecimal NULL hnumber).1 (by decide)

/-- The headers of a subscription. -/
theorem plainHeaders_withId {headers : JsObject} (h : PlainHeaders headers) (counter : ℕ) :
    PlainHeaders (withId headers counter) := by
  rw [withId]
  split
  · exact h.set (by decide) (by decide) (plainValue_numbered (by decide) counter)
  · exact h

/-- The name of a command. -/
def PlainCommand (command : String) : Prop :=
  LF ∉ literal command ∧ NULL ∉ literal command ∧ literal command ≠ []

instance (command : String) : Decidable (PlainCommand command) :=
  inferInstanceAs (Decidable (LF ∉ literal command ∧ NULL ∉ literal command ∧ literal command ≠ []))

/-- A frame with a command and plain headers. -/
theorem plain_of_command {command : String} (hcommand : PlainCommand command) {headers : JsObject}
    (hheaders : PlainHeaders headers) {body : JsString} (hbody : NULL ∉ body) :
    Frame.Plain ⟨literal command, headers, body⟩ :=
  ⟨hcommand.1, hcommand.2.1, hcommand.2.2, hheaders, hbody⟩

/-- The frame of a transaction. -/
theorem plain_transactionFrame {command : String} (hcommand : PlainCommand command) {transaction : JsString}
    (h : PlainValue transaction) : (transactionFrame command transaction).Plain :=
  plain_of_command hcommand (plainHeaders_empty.set (by decide) (by decide) h) List.not_mem_nil

/-- The frame of an acknowledgement. -/
theorem plain_receivedFrame {command : String} (hcommand : PlainCommand command)
    {messageID subscription : JsString} {headers : Option JsObject} (hmessage : PlainValue messageID)
    (hsubscription : PlainValue subscription) (hheaders : PlainGiven headers) :
    (receivedFrame command messageID subscription headers).Plain :=
  plain_of_command hcommand ((PlainHeaders.set hheaders (by decide) (by decide) hmessage).set (by decide)
    (by decide) hsubscription) List.not_mem_nil

/-- The frame of a plain call is plain. -/
theorem Call.Plain.frame {c : Call} (h : c.Plain) {counter : ℕ} {frame : Frame}
    (hframe : c.frame counter = some frame) : frame.Plain := by
  cases c with
  | send destination headers body =>
    obtain rfl := Option.some.inj hframe
    obtain ⟨hdestination, hheaders, hbody⟩ := h
    exact plain_of_command (by decide) (PlainHeaders.set hheaders (by decide) (by decide) hdestination) hbody
  | subscribe destination callback headers =>
    obtain rfl := Option.some.inj hframe
    obtain ⟨hdestination, hheaders⟩ := h
    exact plain_of_command (by decide)
      ((plainHeaders_withId hheaders counter).set (by decide) (by decide) hdestination) List.not_mem_nil
  | unsubscribe id =>
    obtain rfl := Option.some.inj hframe
    exact plain_of_command (by decide) (plainHeaders_empty.set (by decide) (by decide) h) List.not_mem_nil
  | begin transaction =>
    obtain rfl := Option.some.inj hframe
    apply plain_transactionFrame (by decide)
    split
    · exact plainValue_numbered (by decide) counter
    · exact h
  | commit transaction =>
    obtain rfl := Option.some.inj hframe
    exact plain_transactionFrame (by decide) h
  | abort transaction =>
    obtain rfl := Option.some.inj hframe
    exact plain_transactionFrame (by decide) h
  | ack messageID subscription headers =>
    obtain rfl := Option.some.inj hframe
    obtain ⟨hmessage, hsubscription, hheaders⟩ := h
    exact plain_receivedFrame (by decide) hmessage hsubscription hheaders
  | nack messageID subscription headers =>
    obtain rfl := Option.some.inj hframe
    obtain ⟨hmessage, hsubscription, hheaders⟩ := h
    exact plain_receivedFrame (by decide) hmessage hsubscription hheaders
  | disconnect =>
    obtain rfl := Option.some.inj hframe
    exact plain_of_command (by decide) plainHeaders_empty List.not_mem_nil
  | throwing => simp [Call.frame] at hframe

end Stomp

end EventMonitor
