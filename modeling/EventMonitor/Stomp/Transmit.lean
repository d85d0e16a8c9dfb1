import EventMonitor.SockJs.Quote
import EventMonitor.Stomp.Marshall

/-!
# A frame on its way to the server

`_transmit` cuts the text of a frame into parts that are sent one by one, without regard to what
it cuts: a part may end between the two halves of a pair of surrogates. Since a socket quotes
each part so that surrogates survive alone, the parts still add up to the text of the frame.
-/

namespace EventMonitor

open Library JavaScript JsonText SockJs

namespace Stomp

/-- `maxWebSocketFrameSize`. -/
def maxWebSocketFrameSize : ℕ := 16 * 1024

/-- The loop of `_transmit`: what is handed to `ws.send`, call by call. -/
def transmitLoop (out : JsString) : List JsString :=
  if out.length > maxWebSocketFrameSize then
    substring out (some 0) (some maxWebSocketFrameSize) ::
      transmitLoop (substring out (some maxWebSocketFrameSize) (some out.length))
  else [out]
termination_by out.length
decreasing_by
  simp only [substring, clamp, maxWebSocketFrameSize] at *
  simp
  omega

/-- `_transmit`. -/
def transmit (command : JsString) (headers : Option JsObject) (body : Option JsString) :
    Except URIError (List JsString) := do
  let out ← Frame.marshall command headers body
  return transmitLoop out

/-- What is transmitted is the marshalled frame. -/
theorem transmit_eq_ok_iff {command : JsString} {headers : Option JsObject} {body : Option JsString}
    {parts : List JsString} : transmit command headers body = .ok parts ↔
      ∃ out, Frame.marshall command headers body = .ok out ∧ transmitLoop out = parts := by
  rw [transmit]
  rcases Frame.marshall command headers body with e | out
  · constructor
    · intro h
      contradiction
    · rintro ⟨out, h, -⟩
      contradiction
  · constructor
    · exact fun h => ⟨out, rfl, Except.ok.inj h⟩
    · rintro ⟨out', h, rfl⟩
      rw [← Except.ok.inj h]
      rfl

/-- A text is cut in two. -/
theorem substring_cut (out : JsString) (n : ℕ) :
    substring out (some 0) (some n) = out.take n ∧
      substring out (some n) (some out.length) = out.drop n := by
  simp only [substring, clamp]
  constructor <;> simp

/-- The parts are the text, and all but the last one have the greatest length. -/
theorem transmitLoop_parts (out : JsString) :
    (transmitLoop out).flatten = out ∧
      ∃ full last, transmitLoop out = full ++ [last] ∧ last.length ≤ maxWebSocketFrameSize ∧
        ∀ part ∈ full, part.length = maxWebSocketFrameSize := by
  fun_induction transmitLoop out with
  | case1 out h ih =>
    obtain ⟨hflatten, full, last, hparts, hlast, hfull⟩ := ih
    obtain ⟨hhead, htail⟩ := substring_cut out maxWebSocketFrameSize
    refine ⟨?_, _ :: full, last, by rw [hparts, List.cons_append], hlast, ?_⟩
    · rw [List.flatten_cons, hflatten, hhead, htail, List.take_append_drop]
    · intro part hmem
      rcases List.mem_cons.mp hmem with rfl | hlater
      · rw [hhead, List.length_take]
        omega
      · exact hfull part hlater
  | case2 out h => exact ⟨by simp, [], out, rfl, Nat.le_of_not_lt h, by simp⟩

/-- Each part is read alone, whatever it was cut from, and the parts add up to the text of the frame:
without a NUL in its body the server reads that frame and nothing else. -/
theorem transmit_received {command : JsString} {headers : JsObject}
    (h : Frame.Marshallable command headers) {body : JsString} (hbody : NULL ∉ body)
    {parts : List JsString} (htransmit : transmit command (some headers) (some body) = .ok parts)
    (hasStringify : Bool) :
    (∀ part ∈ parts, part.length ≤ maxWebSocketFrameSize ∧
      parseArray (payload hasStringify [part]) = some [part]) ∧
    ∃ received, Frame.unmarshall parts.flatten = [⟨command, received, body⟩] ∧
      ∀ name, name ≠ Frame.contentLength → received.get name = headers.get name := by
  obtain ⟨data, hdata, hparts⟩ := transmit_eq_ok_iff.mp htransmit
  obtain ⟨hflatten, full, last, hsplit, hlast, hfull⟩ := transmitLoop_parts data
  rw [← hparts, hflatten]
  constructor
  · intro part hmem
    refine ⟨?_, parseArray_quoted hasStringify [part]⟩
    rw [hsplit] at hmem
    rcases List.mem_append.mp hmem with hearlier | hlater
    · exact Nat.le_of_eq (hfull part hearlier)
    · exact List.mem_singleton.mp hlater ▸ hlast
  · obtain ⟨text, received, others, -, hread, hheaders, hothers⟩ := Frame.unmarshall_marshalled h hdata
    obtain rfl := hothers hbody
    rw [Frame.takeWhile_of_notMem hbody] at hread
    refine ⟨received, hread, fun name hname => ?_⟩
    rw [hheaders, if_neg fun hboth => hname hboth.1]

/-- The request of the page is sent in one part. -/
theorem listRequest_received :
    ∃ parts received, transmit (literal "SEND") (some Frame.listRequest) (some (literal "{}")) = .ok parts ∧
      Frame.unmarshall parts.flatten = [⟨literal "SEND", received, literal "{}"⟩] := by
  have hdata := Frame.marshall_of_encode (literal "SEND") Frame.listRequest
    (rfl : Utf16.encode "{}".toList = _)
  have hparts := transmit_eq_ok_iff.mpr ⟨_, hdata, rfl⟩
  obtain ⟨-, received, hread, -⟩ := transmit_received (by decide) (by decide) hparts true
  exact ⟨_, received, hparts, hread⟩

end Stomp

end EventMonitor
