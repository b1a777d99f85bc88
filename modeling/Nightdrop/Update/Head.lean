import Nightdrop.Lib.Find
import Nightdrop.Node.Route

/-! The head of an update server's response, read in one piece or as it arrives. -/

namespace Nightdrop

/-- The blank line that ends a head. -/
def HEAD_END : Bytes := [13, 10, 13, 10]

/-- The most bytes a manifest may have, and a head that is still without its end. -/
def MAX_MANIFEST_BYTES : Nat := 8 * 1024

/-- Why a response is refused. -/
inductive HeadError where
  | notText
  | statusLine (line : String)
  | status (code : Nat)
  | noTerminator
  deriving DecidableEq

/-- A line without the carriage return before its line feed. -/
def stripCarriage (line : List Char) : List Char :=
  if line.getLast? = some '\r' then line.dropLast else line

/-- The lines of a text; what follows the last line feed is one only if it is not empty. -/
def textLines (text : String) : List String :=
  let pieces := text.toList.splitOn '\n'
  ((pieces.dropLast.map stripCarriage)
    ++ (if pieces.getLast? = some [] then [] else pieces.getLast?.toList)).map String.ofList

/-- The first line of a text. -/
def firstTextLine (text : String) : String := (textLines text).head?.getD ""

/-- The runs of characters between white space. -/
def textWords (text : String) : List String :=
  ((text.toList.splitOnP isSpace).filter (· ≠ [])).map String.ofList

/-- The status code a status line says, in its second word. -/
def statusOfLine (line : String) : Option Nat := ((textWords line)[1]?).bind (parseDecimal 65535)

/-- The numeric status from a head's first line. -/
def parseStatus (head : Bytes) : Except HeadError Nat :=
  match fromUtf8 head with
  | none => .error .notText
  | some text =>
    match statusOfLine (firstTextLine text) with
    | none => .error (.statusLine (firstTextLine text))
    | some code => .ok code

/-- The length a head claims for the body, if it can be read. -/
def parseContentLength (head : Bytes) : Option Nat :=
  match fromUtf8 head with
  | none => none
  | some text =>
    (((textLines text).filterMap splitColon).find? fun field =>
        (trimText field.1).toLower = "content-length").bind fun field =>
      parseDecimal (2 ^ 64 - 1) (trimText field.2)

/-- A streamed response: its head as far as it has arrived. -/
structure ResponseHead where
  head : Bytes
  done : Bool
  contentLength : Option Nat
  status : Nat

namespace ResponseHead

/-- A response of which nothing has arrived. -/
def fresh : ResponseHead := ⟨[], false, none, 0⟩

/-- Takes one chunk in; hands on the part of it that is body. -/
def push (r : ResponseHead) (chunk : Bytes) : Except HeadError (ResponseHead × Bytes) :=
  if r.done then .ok (r, chunk)
  else
    let head := r.head ++ chunk
    match findBytes HEAD_END head with
    | none =>
      if head.length > MAX_MANIFEST_BYTES then .error .noTerminator
      else .ok ({ r with head := head }, [])
    | some stop =>
      match parseStatus (head.take stop) with
      | .error e => .error e
      | .ok status =>
        if status ≠ 200 ∧ status ≠ 206 then .error (.status status)
        else
          let consumed := min (head.length - (stop + 4)) chunk.length
          .ok (⟨head, true, parseContentLength (head.take stop), status⟩, chunk.drop (chunk.length - consumed))

/-- Takes all chunks in, one after the other; collects the body. -/
def pushAll (r : ResponseHead) : List Bytes → Except HeadError (ResponseHead × Bytes)
  | [] => .ok (r, [])
  | chunk :: rest =>
    match r.push chunk with
    | .error e => .error e
    | .ok (r, body) =>
      match r.pushAll rest with
      | .error e => .error e
      | .ok (r, more) => .ok (r, body ++ more)

end ResponseHead

/-- Whether a status line says that the whole of the file follows, as the one-piece parser sees it. -/
def opensTwoHundred (line : String) : Bool :=
  "HTTP/1.0 200".toList.isPrefixOf line.toList || "HTTP/1.1 200".toList.isPrefixOf line.toList

/-- The body of a response that is all there. -/
def bodyOf (response : Bytes) : Except HeadError Bytes :=
  match findBytes HEAD_END response with
  | none => .error .noTerminator
  | some stop =>
    match fromUtf8 (response.take stop) with
    | none => .error .notText
    | some text =>
      if opensTwoHundred (firstTextLine text) then .ok (response.drop (stop + 4))
      else .error (.statusLine (firstTextLine text))

/-- The body a streamed response has, if it is accepted as a 200 one. -/
def streamedBody (chunks : List Bytes) : Option Bytes :=
  match ResponseHead.fresh.pushAll chunks with
  | .error _ => none
  | .ok (r, body) => if r.done ∧ r.status = 200 then some body else none

/-- Whether the streaming parser accepts these chunks as a 200 response exactly when the whole is one. -/
def HeadsAgree (chunks : List Bytes) : Prop := streamedBody chunks = (bodyOf chunks.flatten).toOption

/-- How many bytes come in the chunks before the one that brings the head's end, `got` being there already. -/
def beforeEnd (got : Bytes) : List Bytes → Nat
  | [] => got.length
  | chunk :: rest =>
    if (findBytes HEAD_END (got ++ chunk)).isSome then got.length else beforeEnd (got ++ chunk) rest

/-- The status line of a response whose head has an end and is text. -/
def statusLineOf (response : Bytes) : Option String :=
  (findBytes HEAD_END response).bind fun stop => (fromUtf8 (response.take stop)).map firstTextLine

/-- Whether only one of the parsers takes a response with this status line, or it comes too long after its begin. -/
def HeadsSplit (chunks : List Bytes) : Prop :=
  ∃ line, statusLineOf chunks.flatten = some line ∧
    if opensTwoHundred line then
      statusOfLine line ≠ some 200 ∨ MAX_MANIFEST_BYTES < beforeEnd [] chunks
    else
      statusOfLine line = some 200 ∧ beforeEnd [] chunks ≤ MAX_MANIFEST_BYTES

end Nightdrop
