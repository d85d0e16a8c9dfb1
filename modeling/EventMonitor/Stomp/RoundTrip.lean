import EventMonitor.Stomp.Frame

/-!
# What is written is read back

A stream of frames, with any number of line breaks behind each, is taken apart into the same
frames, if no part of a frame contains the marks that the reader looks for. For the frames that
the client writes itself, the only thing that can go wrong is a NUL in the body: it is neither
escaped nor protected by the length, and the reader sees nothing but the part before it.
-/

namespace EventMonitor

open Library JavaScript

namespace Stomp

namespace Frame

/-- A header whose line is read as it was written. -/
structure PlainHeader (header : JsString × JsString) : Prop where
  name_line : LF ∉ header.1
  value_line : LF ∉ header.2
  name_null : NULL ∉ header.1
  value_null : NULL ∉ header.2
  name_colon : colon ∉ header.1
  name_trim : trim header.1 = header.1
  value_trim : trim header.2 = header.2
  name_proto : header.1 ≠ literal "__proto__"

instance (header : JsString × JsString) : Decidable (PlainHeader header) :=
  decidable_of_iff ((LF ∉ header.1 ∧ LF ∉ header.2) ∧ (NULL ∉ header.1 ∧ NULL ∉ header.2) ∧
      colon ∉ header.1 ∧ trim header.1 = header.1 ∧ trim header.2 = header.2 ∧
      header.1 ≠ literal "__proto__")
    ⟨fun ⟨⟨hn, hv⟩, ⟨hn0, hv0⟩, hc, ht, ht', hp⟩ => ⟨hn, hv, hn0, hv0, hc, ht, ht', hp⟩,
      fun ⟨hn, hv, hn0, hv0, hc, ht, ht', hp⟩ => ⟨⟨hn, hv⟩, ⟨hn0, hv0⟩, hc, ht, ht', hp⟩⟩

/-- The line of a header is read as that header. -/
theorem readHeader_headerLine {header : JsString × JsString} (h : PlainHeader header) :
    readHeader (headerLine header) = header := by
  obtain ⟨name, value⟩ := header
  have hidx : indexOf colon (headerLine (name, value)) = name.length :=
    indexOf_append_cons h.name_colon value
  have hname : substring (headerLine (name, value)) (some 0) (some name.length) = name :=
    substring_prefix name _
  have hline : headerLine (name, value) = (name ++ [colon]) ++ value := by simp [headerLine]
  have hvalue : substring (headerLine (name, value)) (some (name.length + 1))
      (some (headerLine (name, value)).length) = value := by
    have hbehind := substring_behind (name ++ [colon]) value value.length
    rw [hline]
    simp only [List.length_append, List.length_singleton, List.take_length] at hbehind ⊢
    exact_mod_cast hbehind
  rw [readHeader, hidx, hname, hvalue, h.name_trim, h.value_trim]

/-- The text of a frame with the given header lines. -/
def written (command : JsString) (headers : List (JsString × JsString)) (text : JsString) : JsString :=
  join LF (command :: headers.map headerLine) ++ LF :: LF :: text

/-- The headers that are read. -/
def received (headers : List (JsString × JsString)) : JsObject :=
  headers.foldr (fun header o => o.set header.1 header.2) .empty

/-- The line of a plain header. -/
theorem headerLine_plain {header : JsString × JsString} (h : PlainHeader header) :
    LF ∉ headerLine header ∧ NULL ∉ headerLine header ∧ headerLine header ≠ [] := by
  have hcolon : LF ≠ colon ∧ NULL ≠ colon := by decide
  simp only [headerLine, List.mem_append, List.mem_cons, not_or]
  exact ⟨⟨h.name_line, hcolon.1, h.value_line⟩, ⟨h.name_null, hcolon.2, h.value_null⟩, by simp⟩

variable {command : JsString} {headers : List (JsString × JsString)}

/-- The lines of plain headers. -/
theorem headerLines_plain (hheaders : ∀ header ∈ headers, PlainHeader header) :
    ∀ line ∈ headers.map headerLine, LF ∉ line ∧ NULL ∉ line ∧ line ≠ [] := by
  intro line hmem
  obtain ⟨header, hheader, rfl⟩ := List.mem_map.mp hmem
  exact headerLine_plain (hheaders header hheader)

/-- The end of the body can be told: by a length that is long enough, or by the NUL behind it. -/
def Delimits (headers : List (JsString × JsString)) (text : JsString) : Prop :=
  (∃ n, JsObject.find headers contentLength = some (ofNat n) ∧ text.length ≤ n) ∨
    (JsObject.find headers contentLength = none ∧ NULL ∉ text)

/-- The headers are read as they were written. -/
theorem get_received (hheaders : ∀ header ∈ headers, PlainHeader header) (name : JsString) :
    (received headers).get name = JsObject.find headers name :=
  JsObject.get_foldr_set headers (fun header hmem => (hheaders header hmem).name_proto) name

/-- Reading the header lines in the reverse order gives the received headers. -/
theorem foldl_readHeader (hheaders : ∀ header ∈ headers, PlainHeader header) :
    (headers.map headerLine).reverse.foldl
      (fun headers line => headers.set (readHeader line).1 (readHeader line).2) JsObject.empty =
        received headers := by
  rw [List.foldl_reverse, List.foldr_map, received]
  apply List.foldr_ext
  intro header hmem o
  rw [readHeader_headerLine (hheaders header hmem)]

/-- The body is read up to its end. -/
theorem body_written {headers : List (JsString × JsString)} {text : JsString}
    (htext : Delimits headers text) (head : JsString) :
    (match JsObject.find headers contentLength with
      | some (c :: rest) => substring (head ++ text) (some head.length)
          ((parseInt (c :: rest)).map ((head.length : ℤ) + ·))
      | _ => ((head ++ text).drop head.length).takeWhile (· ≠ NULL)) = text := by
  rcases htext with ⟨n, hlength, hle⟩ | ⟨hnone, hnull⟩
  · obtain ⟨c, rest, hdigits⟩ := List.exists_cons_of_ne_nil (ofNat_ne_nil n)
    rw [hlength, hdigits]
    simp only
    rw [← hdigits, parseInt_ofNat, Option.map_some, substring_behind]
    exact List.take_of_length_le hle
  · rw [hnone, List.drop_left]
    apply List.takeWhile_eq_self_iff.mpr
    intro c hmem
    rw [decide_eq_true_eq]
    exact fun hc => hnull (hc ▸ hmem)

/-- A written frame is read as that frame. -/
theorem unmarshallSingle_written (hcommand : LF ∉ command)
    (hheaders : ∀ header ∈ headers, PlainHeader header) {text : JsString}
    (htext : Delimits headers text) :
    unmarshallSingle (written command headers text) = ⟨command, received headers, text⟩ := by
  have hlines := headerLines_plain hheaders
  have hfound : findDouble LF (written command headers text) =
      some (join LF (command :: headers.map headerLine)).length :=
    findDouble_join hcommand (fun line hmem => ⟨(hlines line hmem).1, (hlines line hmem).2.2⟩) text
  have hdivider : searchDouble LF (written command headers text) =
      (join LF (command :: headers.map headerLine)).length := by
    rw [searchDouble, hfound]
  have hsplit : (join LF (command :: headers.map headerLine)).splitOn LF =
      command :: headers.map headerLine := by
    apply List.splitOn_intercalate LF ?_ (List.cons_ne_nil _ _)
    intro line hmem
    rcases List.mem_cons.mp hmem with rfl | hheader
    · exact hcommand
    · exact (hlines line hheader).1
  have hhead : substring (written command headers text) (some 0)
      (some (join LF (command :: headers.map headerLine)).length) =
        join LF (command :: headers.map headerLine) := substring_prefix _ _
  have hbody := body_written htext (join LF (command :: headers.map headerLine) ++ [LF, LF])
  rw [List.append_assoc, List.cons_append, List.singleton_append, ← written, List.length_append] at hbody
  unfold unmarshallSingle
  simp only [hdivider, hhead, hsplit, List.tail_cons, List.headD_cons, foldl_readHeader hheaders,
    get_received hheaders]
  congr 1

/-- A frame whose text is read as that frame, also in a stream. -/
structure Sendable (frame : Frame) : Prop where
  command_line : LF ∉ frame.command
  command_null : NULL ∉ frame.command
  command_ne : frame.command ≠ []
  headers : ∀ header ∈ frame.headers.properties, PlainHeader header
  body_null : NULL ∉ frame.body
  delimits : Delimits frame.headers.properties frame.body

/-- A frame on the wire: the NUL behind it may be followed by line breaks. -/
def wire (frame : Frame) (beats : ℕ) : JsString :=
  written frame.command frame.headers.properties frame.body ++ NULL :: List.replicate beats LF

/-- The frame that is read. -/
def readBack (frame : Frame) : Frame :=
  ⟨frame.command, received frame.headers.properties, frame.body⟩

/-- A text does not contain the mark of its end. -/
theorem null_notMem_written (hcommand : NULL ∉ command)
    (hheaders : ∀ header ∈ headers, PlainHeader header) {text : JsString} (htext : NULL ∉ text) :
    NULL ∉ written command headers text := by
  have hmark : NULL ≠ LF := by decide
  have hlines := headerLines_plain hheaders
  have hjoin : NULL ∉ join LF (command :: headers.map headerLine) := by
    apply notMem_join hmark
    intro line hmem
    rcases List.mem_cons.mp hmem with rfl | hheader
    · exact hcommand
    · exact (hlines line hheader).2.1
  simp only [written, List.mem_append, List.mem_cons, not_or]
  exact ⟨hjoin, hmark, hmark, htext⟩

/-- A frame does not begin with a line break. -/
theorem Sendable.dropWhile {frame : Frame} (h : frame.Sendable) (beats : ℕ) :
    (List.replicate beats LF ++ written frame.command frame.headers.properties frame.body).dropWhile
      (· = LF) = written frame.command frame.headers.properties frame.body := by
  obtain ⟨c, rest, hcommand⟩ := List.exists_cons_of_ne_nil h.command_ne
  have hfirst : c ≠ LF := by
    rintro rfl
    exact h.command_line (hcommand ▸ List.mem_cons_self)
  obtain ⟨tail, htail⟩ := join_cons LF frame.command (frame.headers.properties.map headerLine)
  induction beats with
  | zero =>
    rw [List.replicate_zero, List.nil_append, written, htail, hcommand]
    simp [hfirst]
  | succ beats ih =>
    rw [List.replicate_succ, List.cons_append, List.dropWhile_cons_of_pos (by simp)]
    exact ih

/-- A stream is cut at the ends of its frames. -/
theorem splitOn_stream (frames : List (Frame × ℕ)) (hframes : ∀ f ∈ frames, f.1.Sendable)
    (beats : ℕ) :
    (((List.replicate beats LF ++ frames.flatMap fun f => wire f.1 f.2).splitOn NULL).map
      (fun data => data.dropWhile (· = LF))).filter (· ≠ []) =
        frames.map fun f => written f.1.command f.1.headers.properties f.1.body := by
  have hbeats : ∀ n, NULL ∉ List.replicate n LF := by
    intro n hmem
    exact absurd (List.eq_of_mem_replicate hmem) (by decide)
  induction frames generalizing beats with
  | nil =>
    rw [List.flatMap_nil, List.append_nil, List.splitOn_eq_singleton (hbeats beats)]
    simp
  | cons f frames ih =>
    have hframe := hframes f List.mem_cons_self
    have htail := ih (fun g hg => hframes g (List.mem_cons_of_mem _ hg)) f.2
    have hnull : NULL ∉ List.replicate beats LF ++
        written f.1.command f.1.headers.properties f.1.body := by
      rw [List.mem_append, not_or]
      exact ⟨hbeats beats, null_notMem_written hframe.command_null hframe.headers hframe.body_null⟩
    have hne : written f.1.command f.1.headers.properties f.1.body ≠ [] := by simp [written]
    have hstream : List.replicate beats LF ++ ((f :: frames).flatMap fun f => wire f.1 f.2) =
        (List.replicate beats LF ++ written f.1.command f.1.headers.properties f.1.body) ++
          NULL :: (List.replicate f.2 LF ++ frames.flatMap fun f => wire f.1 f.2) := by
      simp [wire]
    rw [hstream, List.splitOn_append_cons_self, List.splitOn_eq_singleton hnull,
      List.singleton_append, List.map_cons, hframe.dropWhile, List.filter_cons_of_pos (by simpa),
      htail, List.map_cons]

/-- The reader takes the frames of a stream one by one. -/
theorem unmarshall_wires (frames : List (Frame × ℕ)) (hframes : ∀ f ∈ frames, f.1.Sendable) :
    unmarshall (frames.flatMap fun f => wire f.1 f.2) = frames.map fun f => readBack f.1 := by
  have hsplit := splitOn_stream frames hframes 0
  rw [List.replicate_zero, List.nil_append] at hsplit
  have hfirst : splitFrames (frames.flatMap fun f => wire f.1 f.2) =
      ((frames.flatMap fun f => wire f.1 f.2).splitOn NULL).map fun data =>
        data.dropWhile (· = LF) := by
    cases frames with
    | nil => rfl
    | cons f frames =>
      have hframe := hframes f List.mem_cons_self
      have hnull := null_notMem_written hframe.command_null hframe.headers hframe.body_null
      have hhead := hframe.dropWhile 0
      rw [List.replicate_zero, List.nil_append] at hhead
      rw [splitFrames, List.flatMap_cons, wire, List.append_assoc, List.cons_append,
        List.splitOn_append_cons_self, List.splitOn_eq_singleton hnull]
      simp only [List.singleton_append, List.map_cons, hhead]
  rw [unmarshall, hfirst, hsplit, List.map_map]
  apply List.map_congr_left
  intro f hmem
  have hframe := hframes f hmem
  exact unmarshallSingle_written hframe.command_line hframe.headers hframe.delimits

/-- A stream of frames, with line breaks behind them, is read as these frames; what is read differs from
what was written in the order of the headers only. -/
theorem unmarshall_stream (frames : List (Frame × ℕ)) (hframes : ∀ f ∈ frames, f.1.Sendable) :
    unmarshall (frames.flatMap fun f => wire f.1 f.2) = frames.map (fun f => readBack f.1) ∧
      ∀ f ∈ frames, ∀ name, (readBack f.1).headers.get name = f.1.headers.get name :=
  ⟨unmarshall_wires frames hframes, fun f hmem name => get_received (hframes f hmem).headers name⟩

/-- A frame that has no body. -/
def connectedFrame : Frame :=
  ⟨literal "CONNECTED", ⟨[(literal "version", literal "1.1"), (literal "heart-beat", literal "0,0")],
    by decide⟩, []⟩

/-- Two frames, with two line breaks between them. -/
theorem unmarshall_two_frames :
    unmarshall ([(connectedFrame, 2), (connectedFrame, 0)].flatMap fun f => wire f.1 f.2) =
      [readBack connectedFrame, readBack connectedFrame] := by
  have hsendable : connectedFrame.Sendable :=
    ⟨by decide, by decide, by decide, by decide, by decide, Or.inr (by decide)⟩
  have hframes : ∀ f ∈ [(connectedFrame, 2), (connectedFrame, 0)], f.1.Sendable := by
    intro f hmem
    rcases List.mem_pair.mp hmem with rfl | rfl <;> exact hsendable
  exact (unmarshall_stream _ hframes).1

end Frame

end Stomp

end EventMonitor
