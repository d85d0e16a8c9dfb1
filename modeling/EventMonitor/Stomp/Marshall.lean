import EventMonitor.Stomp.RoundTrip

/-!
# The frames that the client writes

`marshall` adds the length of a body in bytes of UTF-8. The reader counts code units instead, of
which there are never more; so the length alone would let it read every body, but it has cut the
text at the NULs before.
-/

namespace EventMonitor

open Library JavaScript

namespace Stomp

namespace Frame

/-- The headers that are written: the length of the text of a body comes last. -/
def sent (headers : List (JsString × JsString)) (text : List Char) : List (JsString × JsString) :=
  if text = [] then headers else headers ++ [(contentLength, ofNat (Utf16.utf8Size text))]

/-- A body can be written exactly if it is the code of a text. -/
theorem sizeOfUTF8_encode (text : List Char) :
    sizeOfUTF8 (Utf16.encode text) = .ok (Utf16.utf8Size text) := by
  rw [sizeOfUTF8]
  split
  next hempty =>
    obtain rfl := Utf16.encode_eq_nil_iff.mp hempty
    rfl
  next => rw [encodeURI, Utf16.decode_encode]; exact congrArg Except.ok (countMatches_encodeURI text)

/-- The size of anything else cannot be told. -/
theorem sizeOfUTF8_malformed {s : JsString} (h : ∀ text, Utf16.encode text ≠ s) :
    sizeOfUTF8 s = .error .malformed := by
  have hne : s ≠ [] := fun hnone => h [] hnone.symm
  have hdecode : Utf16.decode s = none := by
    rcases hdecode : Utf16.decode s with _ | text
    · rfl
    · exact absurd (Utf16.encode_decode hdecode) (h text)
  rw [sizeOfUTF8, if_neg hne, encodeURI, hdecode]
  rfl

/-- One more line at the end. -/
theorem join_concat (lines : List JsString) (hlines : lines ≠ []) (last : JsString) :
    join LF (lines ++ [last]) = join LF lines ++ LF :: last := by
  induction lines with
  | nil => exact absurd rfl hlines
  | cons line lines ih =>
    cases lines with
    | nil => rw [List.singleton_append, join_cons_cons, join, join, List.intercalate_singleton,
        List.intercalate_singleton]
    | cons next lines =>
      have htail := ih (List.cons_ne_nil _ _)
      rw [List.cons_append, List.cons_append, join_cons_cons, ← List.cons_append, htail, join_cons_cons,
        List.append_assoc, List.cons_append]

/-- A frame whose body is the code of a text is written with the length of that text. -/
theorem toString_of_encode {frame : Frame} {text : List Char} (h : Utf16.encode text = frame.body) :
    toString frame =
      .ok (written frame.command (sent frame.headers.properties text) frame.body) := by
  by_cases htext : text = []
  · have hbody : frame.body = [] := by rw [← h, htext]; rfl
    rw [toString, if_pos hbody, written, sent, if_pos htext, join_concat _ (List.cons_ne_nil _ _)]
    rfl
  · have hbody : frame.body ≠ [] := fun hnone => htext (Utf16.encode_eq_nil_iff.mp (h.trans hnone))
    rw [toString, if_neg hbody, ← h, sizeOfUTF8_encode, h, written, sent, if_neg htext, List.map_append]
    change Except.ok (join LF (_ ++ ([_] ++ [_]))) = _
    rw [← List.append_assoc, join_concat _ (by simp)]
    rfl

/-- A body that is the code of no text is not written. -/
theorem toString_malformed {frame : Frame} (h : ∀ text, Utf16.encode text ≠ frame.body) :
    toString frame = .error .malformed := by
  have hne : frame.body ≠ [] := fun hnone => h [] hnone.symm
  rw [toString, if_neg hne, sizeOfUTF8_malformed h]
  rfl

/-- Command and headers that are read as they are written; the length of the body is not among
them. -/
structure Marshallable (command : JsString) (headers : JsObject) : Prop where
  command_line : LF ∉ command
  command_null : NULL ∉ command
  plain : ∀ header ∈ headers.properties, PlainHeader header
  length : headers.get contentLength = none

instance (command : JsString) (headers : JsObject) : Decidable (Marshallable command headers) :=
  decidable_of_iff ((LF ∉ command ∧ NULL ∉ command) ∧
      (∀ header ∈ headers.properties, PlainHeader header) ∧ headers.get contentLength = none)
    ⟨fun ⟨⟨hline, hnull⟩, hplain, hlength⟩ => ⟨hline, hnull, hplain, hlength⟩,
      fun ⟨hline, hnull, hplain, hlength⟩ => ⟨⟨hline, hnull⟩, hplain, hlength⟩⟩

/-- The header of the length is plain. -/
theorem plainHeader_contentLength (n : ℕ) : PlainHeader (contentLength, ofNat n) := by
  have hdecimal := isDecimal_ofNat n
  have hdigit : ∀ c : UInt16, c.toNat < 48 → c ∉ ofNat n :=
    fun c hlow hmem => Nat.not_le_of_lt hlow (hdecimal c hmem).1
  have hname : LF ∉ contentLength ∧ NULL ∉ contentLength ∧ colon ∉ contentLength ∧
      trim contentLength = contentLength ∧ contentLength ≠ literal "__proto__" := by decide
  exact ⟨hname.1, hdigit LF (by decide), hname.2.1, hdigit NULL (by decide), hname.2.2.1,
    hname.2.2.2.1, trim_of_isDecimal hdecimal, hname.2.2.2.2⟩

/-- The written headers are plain. -/
theorem Marshallable.sent_plain {command : JsString} {headers : JsObject}
    (h : Marshallable command headers) (text : List Char) :
    ∀ header ∈ sent headers.properties text, PlainHeader header := by
  intro header hmem
  rw [sent] at hmem
  split at hmem
  · exact h.plain header hmem
  · rcases List.mem_append.mp hmem with hown | hlength
    · exact h.plain header hown
    · rw [List.mem_singleton.mp hlength]
      exact plainHeader_contentLength _

/-- What is found in the written headers. -/
theorem Marshallable.find_sent {command : JsString} {headers : JsObject}
    (h : Marshallable command headers) (text : List Char) (name : JsString) :
    JsObject.find (sent headers.properties text) name =
      if name = contentLength ∧ text ≠ [] then some (ofNat (Utf16.utf8Size text))
      else headers.get name := by
  rw [sent]
  by_cases htext : text = []
  · simp [htext, JsObject.get]
  · have happend : JsObject.find (headers.properties ++ [(contentLength,
        ofNat (Utf16.utf8Size text))]) name = (headers.get name).or
          (JsObject.find [(contentLength, ofNat (Utf16.utf8Size text))] name) :=
      List.lookup_append
    rw [if_neg htext, happend, JsObject.find_cons]
    by_cases hname : name = contentLength
    · rw [hname, if_pos rfl, if_pos ⟨rfl, htext⟩, h.length, Option.none_or]
    · rw [if_neg hname, if_neg fun hboth => hname hboth.1]
      exact Option.or_none

/-- The written length is long enough for every part of the body. -/
theorem Marshallable.delimits {command : JsString} {headers : JsObject}
    (h : Marshallable command headers) {text : List Char} {body part : JsString}
    (htext : Utf16.encode text = body) (hpart : part <+: body) :
    Delimits (sent headers.properties text) part := by
  have hsize : body.length ≤ Utf16.utf8Size text := htext ▸ Utf16.length_encode_le text
  have hlength := hpart.length_le
  by_cases hempty : text = []
  · right
    have hbody : body = [] := by rw [← htext, hempty]; rfl
    have hnone : part = [] := List.prefix_nil.mp (hbody ▸ hpart)
    rw [h.find_sent, if_neg fun hboth => hboth.2 hempty, hnone]
    exact ⟨h.length, List.not_mem_nil⟩
  · left
    refine ⟨Utf16.utf8Size text, ?_, by omega⟩
    rw [h.find_sent, if_pos ⟨rfl, hempty⟩]

/-- A text splits at its first NUL. -/
theorem takeWhile_null (body : JsString) :
    (NULL ∉ body ∧ body.takeWhile (· ≠ NULL) = body) ∨
      ∃ rest, body = body.takeWhile (· ≠ NULL) ++ NULL :: rest := by
  induction body with
  | nil => exact Or.inl ⟨List.not_mem_nil, rfl⟩
  | cons c body ih =>
    by_cases hc : c = NULL
    · subst hc
      exact Or.inr ⟨body, by simp⟩
    · rw [List.takeWhile_cons_of_pos (by simpa using hc), List.mem_cons, not_or]
      rcases ih with ⟨hnull, htake⟩ | ⟨rest, hrest⟩
      · exact Or.inl ⟨⟨Ne.symm hc, hnull⟩, by rw [htake]⟩
      · exact Or.inr ⟨rest, by rw [List.cons_append, ← hrest]⟩

/-- A text without NUL is taken as a whole. -/
theorem takeWhile_of_notMem {body : JsString} (h : NULL ∉ body) : body.takeWhile (· ≠ NULL) = body := by
  rcases takeWhile_null body with ⟨-, htake⟩ | ⟨rest, hrest⟩
  · exact htake
  · rw [hrest] at h
    simp at h

/-- What the reader finds in the text of a frame that the client has written: first of all that frame,
with the body up to its first NUL. -/
theorem unmarshall_written {command : JsString} {headers : JsObject}
    (h : Marshallable command headers) {text : List Char} {body : JsString}
    (htext : Utf16.encode text = body) :
    ∃ others, unmarshall (written command (sent headers.properties text) body ++ [NULL]) =
        ⟨command, received (sent headers.properties text), body.takeWhile (· ≠ NULL)⟩ :: others ∧
      (NULL ∉ body → others = []) := by
  have hplain := h.sent_plain text
  have hread : ∀ part, part <+: body →
      unmarshallSingle (written command (sent headers.properties text) part) =
        ⟨command, received (sent headers.properties text), part⟩ :=
    fun part hpart => unmarshallSingle_written h.command_line hplain (h.delimits htext hpart)
  have hne : ∀ part, written command (sent headers.properties text) part ≠ [] := by
    intro part
    simp [written]
  rcases takeWhile_null body with ⟨hnull, htake⟩ | ⟨rest, hrest⟩
  · refine ⟨[], ?_, fun _ => rfl⟩
    have hclear := null_notMem_written h.command_null hplain hnull
    rw [unmarshall, splitFrames, List.splitOn_append_cons_self, List.splitOn_eq_singleton hclear,
      List.splitOn_nil, htake]
    simp [hne, hread body (List.prefix_refl _)]
  · have hpart : body.takeWhile (· ≠ NULL) <+: body := List.takeWhile_prefix _
    have hnotMem : NULL ∉ body.takeWhile (· ≠ NULL) := by
      intro hmem
      simpa using List.mem_takeWhile_imp hmem
    have hclear := null_notMem_written h.command_null hplain hnotMem
    have hcut : written command (sent headers.properties text) body ++ [NULL] =
        written command (sent headers.properties text) (body.takeWhile (· ≠ NULL)) ++
          NULL :: (rest ++ [NULL]) := by
      conv_lhs => rw [hrest]
      simp [written]
    rw [hcut, unmarshall, splitFrames, List.splitOn_append_cons_self,
      List.splitOn_eq_singleton hclear]
    simp only [List.singleton_append]
    rw [List.filter_cons_of_pos (by simpa using hne _), List.map_cons, hread _ hpart]
    refine ⟨_, rfl, fun hnull => ?_⟩
    rw [hrest] at hnull
    simp at hnull

/-- A frame whose body is the code of a text is marshalled. -/
theorem marshall_of_encode (command : JsString) (headers : JsObject) {text : List Char}
    {body : JsString} (h : Utf16.encode text = body) : marshall command (some headers) (some body) =
      .ok (written command (sent headers.properties text) body ++ [NULL]) := by
  rw [marshall, Option.getD_some, Option.getD_some, toString_of_encode h]
  rfl

/-- A frame whose body is the code of no text is not. -/
theorem marshall_malformed {command : JsString} {headers : JsObject} {body : JsString}
    (h : ∀ text, Utf16.encode text ≠ body) :
    marshall command (some headers) (some body) = .error .malformed := by
  rw [marshall, Option.getD_some, Option.getD_some, toString_malformed h]
  rfl

/-- What has been marshalled is read as that frame, with the body up to its first NUL. -/
theorem unmarshall_marshalled {command : JsString} {headers : JsObject} {body data : JsString}
    (h : Marshallable command headers)
    (hdata : marshall command (some headers) (some body) = .ok data) :
    ∃ text received others, Utf16.encode text = body ∧
      unmarshall data = ⟨command, received, body.takeWhile (· ≠ NULL)⟩ :: others ∧
      (∀ name, received.get name =
        if name = contentLength ∧ body ≠ [] then some (ofNat (Utf16.utf8Size text))
        else headers.get name) ∧
      (NULL ∉ body → others = []) := by
  have hexists : ∃ text, Utf16.encode text = body := by
    by_contra hnone
    rw [marshall_malformed fun text htext => hnone ⟨text, htext⟩] at hdata
    contradiction
  obtain ⟨text, htext⟩ := hexists
  obtain rfl : written command (sent headers.properties text) body ++ [NULL] = data :=
    Except.ok.inj ((marshall_of_encode command headers htext).symm.trans hdata)
  obtain ⟨others, hread, hothers⟩ := unmarshall_written h htext
  refine ⟨text, _, others, htext, hread, fun name => ?_, hothers⟩
  have hempty : text = [] ↔ body = [] := by
    rw [← htext]
    exact Utf16.encode_eq_nil_iff.symm
  rw [get_received (h.sent_plain text), h.find_sent]
  simp only [ne_eq, hempty]

/-- A frame can be written unless a surrogate stands alone in its body. It is read with its command,
its headers, and the number of bytes of its body; the body itself is read up to its first NUL, and
the frame is read alone exactly when there is none. -/
theorem unmarshall_marshall {command : JsString} {headers : JsObject}
    (h : Marshallable command headers) (body : JsString) :
    (marshall command (some headers) (some body) = .error .malformed ↔
      ∀ text, Utf16.encode text ≠ body) ∧
    ∀ data, marshall command (some headers) (some body) = .ok data →
      ∃ text received others, Utf16.encode text = body ∧
        unmarshall data = ⟨command, received, body.takeWhile (· ≠ NULL)⟩ :: others ∧
        (∀ name, received.get name =
          if name = contentLength ∧ body ≠ [] then some (ofNat (Utf16.utf8Size text))
          else headers.get name) ∧
        (NULL ∉ body ↔ unmarshall data = [⟨command, received, body⟩]) := by
  refine ⟨⟨fun herror text htext => ?_, marshall_malformed⟩, fun data hdata => ?_⟩
  · rw [marshall_of_encode command headers htext] at herror
    contradiction
  · obtain ⟨text, received, others, htext, hread, hheaders, hothers⟩ := unmarshall_marshalled h hdata
    refine ⟨text, received, others, htext, hread, hheaders, fun hnull => ?_, fun halone => ?_⟩
    · obtain rfl := hothers hnull
      rw [hread, takeWhile_of_notMem hnull]
    · rw [halone] at hread
      have hsame : body = body.takeWhile (· ≠ NULL) :=
        congrArg Frame.body (List.cons.inj hread).1
      rw [hsame]
      intro hmem
      simpa using List.mem_takeWhile_imp hmem

/-- The headers with which the page asks for the list. -/
def listRequest : JsObject := JsObject.empty.set (literal "destination") (literal "/eventmonitor/events")

/-- The request of the page is read as it was written. -/
theorem listRequest_read_back :
    ∃ data received, marshall (literal "SEND") (some listRequest) (some (literal "{}")) = .ok data ∧
      unmarshall data = [⟨literal "SEND", received, literal "{}"⟩] := by
  have hdata := marshall_of_encode (literal "SEND") listRequest (rfl : Utf16.encode "{}".toList = _)
  obtain ⟨text, received, others, -, -, -, hread⟩ :=
    (unmarshall_marshall (by decide) (literal "{}")).2 _ hdata
  exact ⟨_, received, hdata, hread.mp (by decide)⟩

end Frame

end Stomp

end EventMonitor
