import EventMonitor.Library.JsonText

/-!
# How SockJS quotes a message

`utils.quote`: a message becomes a JSON string literal, and the code units that browsers have been
seen to break are escaped in that literal. The literal still spells the message, whatever code
units it consists of, and none of those that get broken is left in it.
-/

namespace EventMonitor

open Library JavaScript JsonText

namespace SockJs

/-- A class of code units, as a list of ranges. -/
def inClass (ranges : List (ℕ × ℕ)) (c : UInt16) : Bool :=
  ranges.any fun range => range.1 ≤ c.toNat && c.toNat ≤ range.2

/-- `json_escapable`. -/
def jsonEscapable : List (ℕ × ℕ) :=
  [(0x5c, 0x5c), (0x22, 0x22), (0x0, 0x1f), (0x7f, 0x9f), (0xad, 0xad), (0x600, 0x604), (0x70f, 0x70f),
    (0x17b4, 0x17b4), (0x17b5, 0x17b5), (0x200c, 0x200f), (0x2028, 0x202f), (0x2060, 0x206f),
    (0xfeff, 0xfeff), (0xfff0, 0xffff)]

/-- `extra_escapable`. -/
def extraEscapable : List (ℕ × ℕ) :=
  [(0x0, 0x1f), (0xd800, 0xdfff), (0xfffe, 0xfffe), (0xffff, 0xffff), (0x300, 0x333), (0x33d, 0x346),
    (0x34a, 0x34c), (0x350, 0x352), (0x357, 0x358), (0x35c, 0x362), (0x374, 0x374), (0x37e, 0x37e),
    (0x387, 0x387), (0x591, 0x5af), (0x5c4, 0x5c4), (0x610, 0x617), (0x653, 0x654), (0x657, 0x65b),
    (0x65d, 0x65e), (0x6df, 0x6e2), (0x6eb, 0x6ec), (0x730, 0x730), (0x732, 0x733), (0x735, 0x736),
    (0x73a, 0x73a), (0x73d, 0x73d), (0x73f, 0x741), (0x743, 0x743), (0x745, 0x745), (0x747, 0x747),
    (0x7eb, 0x7f1), (0x951, 0x951), (0x958, 0x95f), (0x9dc, 0x9dd), (0x9df, 0x9df), (0xa33, 0xa33),
    (0xa36, 0xa36), (0xa59, 0xa5b), (0xa5e, 0xa5e), (0xb5c, 0xb5d), (0xe38, 0xe39), (0xf43, 0xf43),
    (0xf4d, 0xf4d), (0xf52, 0xf52), (0xf57, 0xf57), (0xf5c, 0xf5c), (0xf69, 0xf69), (0xf72, 0xf76),
    (0xf78, 0xf78), (0xf80, 0xf83), (0xf93, 0xf93), (0xf9d, 0xf9d), (0xfa2, 0xfa2), (0xfa7, 0xfa7),
    (0xfac, 0xfac), (0xfb9, 0xfb9), (0x1939, 0x193a), (0x1a17, 0x1a17), (0x1b6b, 0x1b6b),
    (0x1cda, 0x1cdb), (0x1dc0, 0x1dcf), (0x1dfc, 0x1dfc), (0x1dfe, 0x1dfe), (0x1f71, 0x1f71),
    (0x1f73, 0x1f73), (0x1f75, 0x1f75), (0x1f77, 0x1f77), (0x1f79, 0x1f79), (0x1f7b, 0x1f7b),
    (0x1f7d, 0x1f7d), (0x1fbb, 0x1fbb), (0x1fbe, 0x1fbe), (0x1fc9, 0x1fc9), (0x1fcb, 0x1fcb),
    (0x1fd3, 0x1fd3), (0x1fdb, 0x1fdb), (0x1fe3, 0x1fe3), (0x1feb, 0x1feb), (0x1fee, 0x1fef),
    (0x1ff9, 0x1ff9), (0x1ffb, 0x1ffb), (0x1ffd, 0x1ffd), (0x2000, 0x2001), (0x20d0, 0x20d1),
    (0x20d4, 0x20d7), (0x20e7, 0x20e9), (0x2126, 0x2126), (0x212a, 0x212b), (0x2329, 0x232a),
    (0x2adc, 0x2adc), (0x302b, 0x302c), (0xaab2, 0xaab3), (0xf900, 0xfa0d), (0xfa10, 0xfa10),
    (0xfa12, 0xfa12), (0xfa15, 0xfa1e), (0xfa20, 0xfa20), (0xfa22, 0xfa22), (0xfa25, 0xfa26),
    (0xfa2a, 0xfa2d), (0xfa30, 0xfa6d), (0xfa70, 0xfad9), (0xfb1d, 0xfb1d), (0xfb1f, 0xfb1f),
    (0xfb2a, 0xfb36), (0xfb38, 0xfb3c), (0xfb3e, 0xfb3e), (0xfb40, 0xfb41), (0xfb43, 0xfb44),
    (0xfb46, 0xfb4e), (0xfff0, 0xffff)]

/-- `json_lookup`: short escapes where there are any. -/
def jsonLookup (c : UInt16) : JsString :=
  if c = 34 ∨ c = 92 then [92, c]
  else if c = 8 then [92, 98]
  else if c = 9 then [92, 116]
  else if c = 10 then [92, 110]
  else if c = 12 then [92, 102]
  else if c = 13 then [92, 114]
  else unicodeEscape c

/-- `JSONQuote`, for browsers with and without a `JSON.stringify` of their own. -/
def jsonQuote (hasStringify : Bool) (s : JsString) : JsString :=
  literalText (if hasStringify then stringify s
    else escapeClass (fun c => if inClass jsonEscapable c then some (jsonLookup c) else none) s)

/-- `extra_lookup`, as `unroll_lookup` fills it. -/
def extraLookup (c : UInt16) : Option JsString :=
  if inClass extraEscapable c then some (unicodeEscape c) else none

/-- `utils.quote`. -/
def quote (hasStringify : Bool) (s : JsString) : JsString :=
  let quoted := jsonQuote hasStringify s
  if ¬ quoted.any (inClass extraEscapable) then quoted else escapeClass extraLookup quoted

/-- Ranges that keep off the printed characters of ASCII do not contain them. -/
theorem inClass_of_isAscii {ranges : List (ℕ × ℕ)} (hranges : ∀ range ∈ ranges, range.2 < 32 ∨ 127 ≤ range.1)
    {c : UInt16} (hc : IsAscii c) : inClass ranges c = false := by
  rw [inClass, List.any_eq_false]
  intro range hmem
  have hrange := hranges range hmem
  rw [IsAscii] at hc
  simp only [Bool.and_eq_true, decide_eq_true_eq]
  omega

/-- Nothing is escaped in ASCII. -/
theorem extraLookup_of_isAscii (c : UInt16) (hc : IsAscii c) : extraLookup c = none := by
  have hranges : ∀ range ∈ extraEscapable, range.2 < 32 ∨ 127 ≤ range.1 := by decide
  rw [extraLookup, inClass_of_isAscii hranges hc]
  rfl

/-- An escape is one of the code unit that it replaces. -/
theorem extraLookup_eq_some {c : UInt16} {token : JsString} (h : extraLookup c = some token) :
    token = unicodeEscape c := by
  rw [extraLookup] at h
  split at h
  · exact (Option.some.inj h).symm
  · contradiction

/-- A unicode escape is longer than the code unit that it replaces, and written in ASCII. -/
theorem isAscii_unicodeEscape (c : UInt16) : ∀ u ∈ unicodeEscape c, IsAscii u :=
  (token_unicodeEscape c).isAscii (by simp [unicodeEscape])

/-- Every entry of the table spells its code unit. -/
theorem token_jsonLookup (c : UInt16) : Token c (jsonLookup c) := by
  unfold jsonLookup
  split
  next h => exact .short (by rcases h with rfl | rfl <;> rfl)
  split
  next h => exact .short (h ▸ rfl)
  split
  next h => exact .short (h ▸ rfl)
  split
  next h => exact .short (h ▸ rfl)
  split
  next h => exact .short (h ▸ rfl)
  split
  next h => exact .short (h ▸ rfl)
  next => exact token_unicodeEscape c

/-- What the table has no entry for stands for itself. -/
theorem token_jsonEscape (c : UInt16) :
    Token c ((if inClass jsonEscapable c then some (jsonLookup c) else none).getD [c]) := by
  split
  next => exact token_jsonLookup c
  next hnone =>
    have hmarks : inClass jsonEscapable 34 ∧ inClass jsonEscapable 92 := by decide
    have hcontrol : 32 ≤ c.toNat := by
      by_contra hlow
      apply hnone
      rw [inClass, List.any_eq_true]
      exact ⟨(0x0, 0x1f), by decide, by simp; omega⟩
    refine .plain hcontrol ?_ ?_
    · rintro rfl
      exact hnone hmarks.1
    · rintro rfl
      exact hnone hmarks.2

/-- With and without a `JSON.stringify`, the message is spelled. -/
theorem jsonQuote_spelling (hasStringify : Bool) (s : JsString) :
    ∃ t, jsonQuote hasStringify s = literalText t ∧ Spelling s t := by
  cases hasStringify with
  | true => exact ⟨_, rfl, spelling_stringify s⟩
  | false => exact ⟨_, rfl, spelling_escapeClass_self token_jsonEscape s⟩

/-- Quotes are left alone. -/
theorem escapeClass_literalText (t : JsString) :
    escapeClass extraLookup (literalText t) = literalText (escapeClass extraLookup t) := by
  have hquote : extraLookup 34 = none := by decide
  simp [escapeClass, literalText, hquote]

/-- Where there is nothing to escape, nothing is escaped. -/
theorem escapeClass_of_not_any {t : JsString} (h : ¬ t.any (inClass extraEscapable)) :
    escapeClass extraLookup t = t := by
  induction t with
  | nil => rfl
  | cons c t ih =>
    rw [List.any_cons, Bool.or_eq_true, not_or] at h
    have htail := ih h.2
    have hc : extraLookup c = none := by
      rw [extraLookup, if_neg h.1]
    rw [escapeClass, List.flatMap_cons, ← escapeClass, htail, hc]
    rfl

/-- Testing first makes no difference. -/
theorem quote_eq (hasStringify : Bool) (s : JsString) :
    quote hasStringify s = escapeClass extraLookup (jsonQuote hasStringify s) := by
  rw [quote]
  split
  next hnone => exact (escapeClass_of_not_any hnone).symm
  next => rfl

/-- A quoted message is a literal that spells it. -/
theorem quote_spelling (hasStringify : Bool) (s : JsString) :
    ∃ t, quote hasStringify s = literalText t ∧ Spelling s t := by
  obtain ⟨t, ht, hspelling⟩ := jsonQuote_spelling hasStringify s
  refine ⟨escapeClass extraLookup t, ?_, ?_⟩
  · rw [quote_eq, ht, escapeClass_literalText]
  · apply spelling_escapeClass extraLookup_of_isAscii ?_ hspelling
    intro c token hc
    rw [extraLookup_eq_some hc]
    exact token_unicodeEscape c

/-- Several messages in one payload, as the transports send them. -/
def payload (hasStringify : Bool) (messages : List JsString) : JsString :=
  arrayText (messages.map (quote hasStringify))

/-- A payload is read as the messages it is made of. -/
theorem parseArray_quoted (hasStringify : Bool) (messages : List JsString) :
    parseArray (payload hasStringify messages) = some messages := by
  have hcontents : ∃ contents, messages.map (quote hasStringify) = contents.map literalText ∧
      List.Forall₂ Spelling messages contents := by
    induction messages with
    | nil => exact ⟨[], rfl, .nil⟩
    | cons message messages ih =>
      obtain ⟨t, ht, hspelling⟩ := quote_spelling hasStringify message
      obtain ⟨contents, hcontents, hall⟩ := ih
      exact ⟨t :: contents, by rw [List.map_cons, List.map_cons, ht, hcontents],
        .cons hspelling hall⟩
  obtain ⟨contents, hcontents, hall⟩ := hcontents
  rw [payload, hcontents]
  exact parseArray_arrayText hall

/-- No code unit that gets broken on its way is left in a quoted message. -/
theorem inClass_of_mem_quote {hasStringify : Bool} {message : JsString} {c : UInt16}
    (h : c ∈ quote hasStringify message) : inClass extraEscapable c = false := by
  have hascii (c : UInt16) (token : JsString) (hc : extraLookup c = some token) :
      ∀ u ∈ token, IsAscii u := by
    rw [extraLookup_eq_some hc]
    exact isAscii_unicodeEscape c
  rw [quote_eq] at h
  have hnone := escape_eq_none_of_mem extraLookup_of_isAscii hascii c h
  by_contra hbroken
  rw [extraLookup, if_pos (Bool.eq_true_of_not_eq_false hbroken)] at hnone
  exact Option.some_ne_none _ hnone

/-- Whatever code units the messages of a payload consist of, the payload is read as these messages,
and no code unit that gets broken is left in a quoted message. -/
theorem parseArray_payload (hasStringify : Bool) (messages : List JsString) :
    parseArray (payload hasStringify messages) = some messages ∧
      ∀ message ∈ messages, ∀ c ∈ quote hasStringify message, inClass extraEscapable c = false :=
  ⟨parseArray_quoted hasStringify messages, fun _ _ _ hc => inClass_of_mem_quote hc⟩

end SockJs

end EventMonitor
