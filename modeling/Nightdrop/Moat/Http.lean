import Nightdrop.Lib.Find
import Nightdrop.Node.Route

/-! The bridge service's HTTP replies: the incremental parser and the loop that feeds it. -/

namespace Nightdrop
namespace Moat

/-- The line end of HTTP. -/
def CRLF : Bytes := [13, 10]

/-- The blank line that ends a header section. -/
def BLANK : Bytes := [13, 10, 13, 10]

/-- The longest body of a reply. -/
def MAX_BODY : Nat := 1048576

/-- How long a header section without its end may be. -/
def MAX_HEAD : Nat := 16 * 1024

/-- The most bytes one read brings. -/
def READ_SIZE : Nat := 16 * 1024

/-- One more than the largest word. -/
def WORD : Nat := 2 ^ 64

/-- A reply. -/
structure Reply where
  status : Nat
  body : Bytes
  deriving DecidableEq

/-- Why a reply is refused. -/
inductive HttpError where
  | headTooLong
  | headNotText
  | statusLine
  | notHttp
  | status
  | headerLine
  | contentLength
  | bodyTooLong
  | chunkSize
  | chunkEnd
  /-- A sum does not fit a word: the build's overflow checks panic. -/
  | overflow
  deriving DecidableEq

/-- The pieces of a text between its line ends. -/
def splitCrlf : List Char → List (List Char)
  | '\r' :: '\n' :: rest => [] :: splitCrlf rest
  | c :: rest => (c :: (splitCrlf rest).headD []) :: (splitCrlf rest).tail
  | [] => [[]]

/-- The number a run of hexadecimal digits says, if it fits a word; a sign may lead. -/
def parseHex (text : String) : Option Nat :=
  let digits := if text.toList.head? = some '+' then text.toList.tail else text.toList
  let value (c : Char) : Nat :=
    if c.isDigit then c.toNat - 48 else if 97 ≤ c.toNat then c.toNat - 87 else c.toNat - 55
  let isHex (c : Char) : Bool := c.isDigit ∨ ('a' ≤ c ∧ c ≤ 'f') ∨ ('A' ≤ c ∧ c ≤ 'F')
  let number := digits.foldl (fun n c => n * 16 + value c) 0
  if digits ≠ [] ∧ digits.all isHex ∧ number < WORD then some number else none

/-- How a body is framed: the length declared for it, and whether it comes in chunks. -/
structure Framing where
  contentLength : Option Nat
  chunked : Bool

/-- Takes one header line in. -/
def takeHeader (f : Framing) (line : String) : Except HttpError Framing :=
  match splitColon line with
  | none => .error .headerLine
  | some (name, value) =>
    if name.toLower = "content-length" then
      match parseDecimal (WORD - 1) (trimText value) with
      | none => .error .contentLength
      | some n => if n > MAX_BODY then .error .bodyTooLong else .ok { f with contentLength := some n }
    else if name.toLower = "transfer-encoding" then
      let codings := ((trimText value).toLower.toList.splitOn ',').map String.ofList
      .ok { f with chunked := codings.any (trimText · = "chunked") }
    else .ok f

/-- The status a status line says. -/
def parseStatusLine (line : String) : Except HttpError Nat :=
  match line.toList.splitOn ' ' with
  | version :: code :: _ =>
    if "HTTP/1.".toList.isPrefixOf version then
      match parseDecimal 65535 (String.ofList code) with
      | none => .error .status
      | some n => .ok n
    else .error .notHttp
  | _ => .error .statusLine

/-- The status and the framing a header section says. -/
def parseHead (head : Bytes) : Except HttpError (Nat × Framing) :=
  match fromUtf8 head with
  | none => .error .headNotText
  | some text =>
    let lines := (splitCrlf text.toList).map String.ofList
    match parseStatusLine (lines.headD "") with
    | .error e => .error e
    | .ok status =>
      match lines.tail.foldlM takeHeader ⟨none, false⟩ with
      | .error e => .error e
      | .ok f => .ok (status, f)

/-- How many bytes the trailers and the final blank line take, if that has arrived. -/
def skipTrailers : Nat → Bytes → Option Nat
  | 0, _ => none
  | fuel + 1, rest =>
    match findBytes CRLF rest with
    | none => none
    | some stop => if stop = 0 then some 2 else (skipTrailers fuel (rest.drop (stop + 2))).map (stop + 2 + ·)

/-- The size a chunk-size line says. -/
def sizeOfLine (line : Bytes) : Option Nat :=
  (fromUtf8 line).bind fun text => parseHex (trimText (String.ofList (text.toList.takeWhile (· ≠ ';'))))

/-- The chunks from a place on: `body` is decoded already, `i` bytes are used, `rest` follows. -/
def parseChunked.loop : Nat → Bytes → Nat → Bytes → Except HttpError (Option (Bytes × Nat))
  | 0, _, _, _ => .ok none
  | fuel + 1, body, i, rest =>
    match findBytes CRLF rest with
    | none => .ok none
    | some lineEnd =>
      match sizeOfLine (rest.take lineEnd) with
      | none => .error .chunkSize
      | some size =>
        let i := i + (lineEnd + 2)
        let rest := rest.drop (lineEnd + 2)
        if size = 0 then .ok ((skipTrailers (rest.length + 1) rest).map fun n => (body, i + n))
        else if WORD ≤ body.length + size then .error .overflow
        else if body.length + size > MAX_BODY then .error .bodyTooLong
        else if rest.length < size + 2 then .ok none
        else if (rest.drop size).take 2 ≠ CRLF then .error .chunkEnd
        else loop fuel (body ++ rest.take size) (i + size + 2) (rest.drop (size + 2))

/-- A chunked body and how many bytes it takes; `none` while its end has not arrived. -/
def parseChunked (buf : Bytes) : Except HttpError (Option (Bytes × Nat)) :=
  parseChunked.loop (buf.length + 1) [] 0 buf

/-- The body behind the header section, in its framing. -/
def parseBody (f : Framing) (rest : Bytes) : Except HttpError (Option (Bytes × Nat)) :=
  if f.chunked then parseChunked rest
  else
    let len := f.contentLength.getD 0
    if rest.length < len then .ok none else .ok (some (rest.take len, len))

/-- One reply from the begin of the buffer and how many bytes it takes; `none` while it is incomplete. -/
def parse (buf : Bytes) : Except HttpError (Option (Reply × Nat)) :=
  match findBytes BLANK buf with
  | none => if buf.length > MAX_HEAD then .error .headTooLong else .ok none
  | some headEnd =>
    match parseHead (buf.take headEnd) with
    | .error e => .error e
    | .ok (status, f) =>
      match parseBody f (buf.drop (headEnd + 4)) with
      | .error e => .error e
      | .ok found => .ok (found.map fun out => (⟨status, out.1⟩, headEnd + 4 + out.2))

/-- How the read loop stands after all reads so far. -/
inductive Verdict where
  | reply (r : Reply) (used : Nat)
  | error (e : HttpError)
  | waiting
  deriving DecidableEq

/-- What one parse says about the loop. -/
def Verdict.ofParse : Except HttpError (Option (Reply × Nat)) → Verdict
  | .error e => .error e
  | .ok none => .waiting
  | .ok (some (r, used)) => .reply r used

/-- The read loop: parses the buffer, and appends the next read while the reply is incomplete. -/
def readReply (buf : Bytes) : List Bytes → Verdict
  | [] => .ofParse (parse buf)
  | chunk :: rest =>
    match parse buf with
    | .ok none => readReply (buf ++ chunk) rest
    | decided => .ofParse decided

/-- A stream cut into reads: none empty, none longer than the loop's buffer. -/
structure Cut (stream : Bytes) where
  reads : List Bytes
  whole : reads.flatten = stream
  nonempty : ∀ read ∈ reads, read ≠ []
  short : ∀ read ∈ reads, read.length ≤ READ_SIZE

/-- What the loop makes of a cut stream. -/
def Cut.verdict {stream : Bytes} (cut : Cut stream) : Verdict := readReply [] cut.reads

/-- The verdict without the reason of a refusal. -/
def Verdict.outcome : Verdict → Option (Option (Reply × Nat))
  | .reply r used => some (some (r, used))
  | .error _ => some none
  | .waiting => none

/-- Whether no cut of the stream overflows and all end alike. -/
def Steady (stream : Bytes) : Prop :=
  (∀ cut : Cut stream, cut.verdict ≠ .error .overflow)
    ∧ ∀ cut cut' : Cut stream, cut.verdict.outcome = cut'.verdict.outcome

/-- Whether, over these streams, replies are read safely, alike for all cuts and within a bound. -/
def RepliesRight (streams : Set Bytes) : Prop :=
  ∃ bound, ∀ stream ∈ streams, Steady stream
    ∧ ∀ sofar, sofar <+: stream → ∀ cut : Cut sofar, cut.verdict = .waiting → sofar.length ≤ bound

/-- How many bytes the header section takes with its end. -/
def headLength (stream : Bytes) : Option Nat := (findBytes BLANK stream).map (· + 4)

/-- The chunks behind a header section that announces some. -/
def chunksOf (stream : Bytes) : Option Bytes :=
  (findBytes BLANK stream).bind fun headEnd =>
    match parseHead (stream.take headEnd) with
    | .ok (_, f) => if f.chunked then some (stream.drop (headEnd + 4)) else none
    | .error _ => none

/-- Well-formed chunks lead, from `got` decoded bytes on, to one whose declared size overflows the sum. -/
inductive Overflows : Nat → Bytes → Prop
  | here {got size lineEnd : Nat} {rest : Bytes} (line : findBytes CRLF rest = some lineEnd)
      (declared : sizeOfLine (rest.take lineEnd) = some size) (positive : 0 < size)
      (past : WORD ≤ got + size) : Overflows got rest
  | later {got size lineEnd : Nat} {rest : Bytes} (line : findBytes CRLF rest = some lineEnd)
      (declared : sizeOfLine (rest.take lineEnd) = some size) (positive : 0 < size)
      (within : got + size ≤ MAX_BODY) (complete : lineEnd + 2 + size + 2 ≤ rest.length)
      (ended : (rest.drop (lineEnd + 2 + size)).take 2 = CRLF)
      (next : Overflows (got + size) (rest.drop (lineEnd + 2 + size + 2))) : Overflows got rest

/-- A chunk's declared size overflows, behind a header section that some cut lets pass. -/
def Overflowing (stream : Bytes) : Prop :=
  ∃ chunks, chunksOf stream = some chunks ∧ Overflows 0 chunks
    ∧ ∃ n, headLength stream = some n ∧ n ≤ MAX_HEAD + READ_SIZE

/-- The header section's end comes so late that it depends on the cut whether it is seen in time. -/
def Straddles (stream : Bytes) : Prop :=
  (∃ n, headLength stream = some n ∧ MAX_HEAD + 1 < n ∧ n ≤ MAX_HEAD + READ_SIZE)
    ∧ ∀ e, parse stream ≠ .error e

/-- How many bytes go into chunk-size lines and trailers, from a place on. -/
def framingFrom : Nat → Bytes → Nat
  | 0, _ => 0
  | fuel + 1, rest =>
    match findBytes CRLF rest with
    | none => rest.length
    | some lineEnd =>
      match sizeOfLine (rest.take lineEnd) with
      | none => lineEnd + 2
      | some size =>
        if size = 0 then rest.length
        else if rest.length < lineEnd + 2 + size + 2 then lineEnd + 2
        else lineEnd + 2 + framingFrom fuel (rest.drop (lineEnd + 2 + size + 2))

/-- How many bytes of the stream go into chunk-size lines and trailers. -/
def framing (stream : Bytes) : Nat :=
  match chunksOf stream with
  | none => 0
  | some chunks => framingFrom (chunks.length + 1) chunks

/-- Whether a reply is neither complete nor refused yet, its header section seen in time by some cut. -/
def Undecided (sofar : Bytes) : Prop :=
  parse sofar = .ok none ∧ ∀ n, headLength sofar = some n → n ≤ MAX_HEAD + READ_SIZE

end Moat
end Nightdrop
