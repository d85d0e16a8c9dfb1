import EventMonitor.Library.EncodeUri

/-!
# Stomp frames and their text

`Frame` of `stomp.js`: how a frame is written, and how frames are read from what arrives. A text
carries its length in bytes, and its end is marked by a NUL; the reader takes the text apart at
every NUL before it looks at lengths.
-/

namespace EventMonitor

open Library JavaScript

namespace Stomp

/-- `Byte.LF`. -/
def LF : UInt16 := 10

/-- `Byte.NULL`. -/
def NULL : UInt16 := 0

/-- The code unit of `:`. -/
def colon : UInt16 := 58

/-- A frame; the headers are listed in the order in which a script enumerates them. -/
structure Frame where
  command : JsString
  headers : JsObject
  body : JsString
  deriving DecidableEq, Repr

namespace Frame

/-- The name of the header that carries the length of the body. -/
def contentLength : JsString := literal "content-length"

/-- `Frame.sizeOfUTF8`. -/
def sizeOfUTF8 (s : JsString) : Except URIError ℕ :=
  if s = [] then .ok 0 else (encodeURI s).map countMatches

/-- The line of a header. -/
def headerLine (header : JsString × JsString) : JsString := header.1 ++ colon :: header.2

/-- `toString`; the length is only written for a body. -/
def toString (frame : Frame) : Except URIError JsString := do
  let lines := frame.command :: frame.headers.properties.map headerLine
  if frame.body = [] then
    return join LF (lines ++ [LF :: frame.body])
  else
    let size ← sizeOfUTF8 frame.body
    return join LF (lines ++ [headerLine (contentLength, ofNat size), LF :: frame.body])

/-- `Frame.marshall`. -/
def marshall (command : JsString) (headers : Option JsObject) (body : Option JsString) :
    Except URIError JsString := do
  let text ← toString ⟨command, headers.getD .empty, body.getD []⟩
  return text ++ [NULL]

/-- One header line is read: what stands before the first colon, and what stands behind it. -/
def readHeader (line : JsString) : JsString × JsString :=
  let idx := indexOf colon line
  (trim (substring line (some 0) (some idx)),
    trim (substring line (some (idx + 1)) (some line.length)))

/-- `unmarshallSingle`; the last header line is read first, so that the first one stays. -/
def unmarshallSingle (data : JsString) : Frame :=
  let divider := searchDouble LF data
  let headerLines := (substring data (some 0) (some divider)).splitOn LF
  let headers := headerLines.tail.reverse.foldl
    (fun headers line => headers.set (readHeader line).1 (readHeader line).2) JsObject.empty
  let start := divider + 2
  let body := match headers.get contentLength with
    | some (c :: rest) => substring data (some start) ((parseInt (c :: rest)).map (start + ·))
    | _ => (data.drop start.toNat).takeWhile (· ≠ NULL)
  ⟨headerLines.headD [], headers, body⟩

/-- `split(/\x00\n*/)`: every NUL separates, and takes the line breaks behind it away. -/
def splitFrames (datas : JsString) : List JsString :=
  match datas.splitOn NULL with
  | [] => []
  | first :: rest => first :: rest.map fun data => data.dropWhile (· = LF)

/-- `Frame.unmarshall`. -/
def unmarshall (datas : JsString) : List Frame :=
  ((splitFrames datas).filter (· ≠ [])).map unmarshallSingle

end Frame

end Stomp

end EventMonitor
