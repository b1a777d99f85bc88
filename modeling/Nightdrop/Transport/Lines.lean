import Nightdrop.Lib.Text

/-! Reading one newline-terminated line from a buffered stream, in the client and in the relay. -/

namespace Nightdrop

/-- The byte that ends a line. -/
def NEWLINE : UInt8 := 10

/-- Why no line was read. -/
inductive LineError where
  /-- The line is longer than the cap. -/
  | invalidData
  /-- The relay gave up on a stream that is idle or drips. -/
  | timedOut
  /-- The relay holds too many bytes of request lines already. -/
  | busy
  /-- Reading the stream itself failed. -/
  | io
  deriving DecidableEq

/-- A stream as its reader sees it: the chunks its buffer is filled with, then its end. -/
structure LineStream where
  chunks : List Bytes
  /-- Whether reading fails after the last chunk, rather than reaching the end. -/
  broken : Bool
  /-- An empty buffer would mean the end of the stream. -/
  nonempty : ∀ chunk ∈ chunks, chunk ≠ []

namespace LineStream

/-- All bytes still to come. -/
def bytes (s : LineStream) : Bytes := s.chunks.flatten

/-- What the buffer holds, filled if it was empty; empty at the end. -/
def fillBuf (s : LineStream) : Except LineError Bytes :=
  match s.chunks with
  | [] => if s.broken then .error .io else .ok []
  | chunk :: _ => .ok chunk

/-- Takes `n` bytes out of the buffer. -/
def consume (s : LineStream) (n : Nat) : LineStream :=
  match s with
  | ⟨[], broken, nonempty⟩ => ⟨[], broken, nonempty⟩
  | ⟨chunk :: rest, broken, nonempty⟩ =>
    if left : chunk.drop n = [] then ⟨rest, broken, fun c among => nonempty c (.tail _ among)⟩
    else ⟨chunk.drop n :: rest, broken, by
      intro c among
      rcases List.mem_cons.mp among with rfl | among
      · exact left
      · exact nonempty c (.tail _ among)⟩

end LineStream

/-- What one look at the buffer adds to the line, how much of it is used up, and whether that ends the line. -/
def takeChunk (chunk : Bytes) : Bytes × Nat × Bool :=
  if chunk = [] then ([], 0, true)
  else if NEWLINE ∈ chunk then
    let i := chunk.idxOf NEWLINE
    (chunk.take i, i + 1, true)
  else (chunk, chunk.length, false)

/-- The line a reader returns once it is done. -/
def finishLine (buf : Bytes) (consumed : Nat) : Option String :=
  if buf = [] ∧ consumed = 0 then none else some (fromUtf8Lossy buf)

/-- The client's loop, `buf` being the line so far; `fuel` bounds the number of its turns. -/
def readLineCapped.loop (max : Nat) : Nat → Bytes → LineStream → Except LineError (Option String) × LineStream
  | 0, _, s => (.error .io, s)
  | fuel + 1, buf, s =>
    match s.fillBuf with
    | .error e => (.error e, s)
    | .ok chunk =>
      let (more, consumed, done) := takeChunk chunk
      let buf := buf ++ more
      let s := s.consume consumed
      if done then (.ok (finishLine buf consumed), s)
      else if buf.length > max then (.error .invalidData, s)
      else loop max fuel buf s

/-- The client's reader: one line of at most `max` bytes, `none` at a clean end. -/
def readLineCapped (max : Nat) (s : LineStream) : Except LineError (Option String) × LineStream :=
  readLineCapped.loop max (s.chunks.length + 1) [] s

/-- All request lines being read may hold so many bytes together. -/
def MAX_LINE_BYTES_IN_FLIGHT : Nat := 512 * 1024 * 1024

/-- The relay's pacing limits, times in nanoseconds. -/
structure Pacing where
  grace : Nat
  /-- Bytes a second a line must average once `grace` is over. -/
  minRate : Nat

/-- What surrounds one turn of the relay's loop. -/
structure LineTurn where
  /-- Nanoseconds since the line was begun. -/
  elapsed : Nat
  /-- Whether nothing arrives in time. -/
  idle : Bool
  /-- How many bytes the other streams hold of `MAX_LINE_BYTES_IN_FLIGHT`. -/
  inFlight : Nat

/-- Whether a line of which `got` bytes are read arrives too slowly. -/
def Pacing.tooSlow (p : Pacing) (elapsed got : Nat) : Bool :=
  decide (p.grace < elapsed ∧ got * 1000000000 < p.minRate * elapsed)

/-- Whether the shared budget lets a line that holds `held` bytes grow by `n`. -/
def LineTurn.grow (turn : LineTurn) (held n : Nat) : Bool :=
  decide (turn.inFlight + held + n ≤ MAX_LINE_BYTES_IN_FLIGHT)

/-- The relay's loop, with what surrounds its turns from the `i`th on. -/
def readLinePaced.loop (max : Nat) (p : Pacing) (turns : Nat → LineTurn) :
    Nat → Nat → Bytes → LineStream → Except LineError (Option String) × LineStream
  | 0, _, _, s => (.error .io, s)
  | fuel + 1, i, buf, s =>
    if p.tooSlow (turns i).elapsed buf.length then (.error .timedOut, s)
    else if (turns i).idle then (.error .timedOut, s)
    else match s.fillBuf with
    | .error e => (.error e, s)
    | .ok chunk =>
      let (more, consumed, done) := takeChunk chunk
      if (turns i).grow buf.length more.length = false ∧ chunk ≠ [] then (.error .busy, s)
      else
        let buf := buf ++ more
        let s := s.consume consumed
        if done then (.ok (finishLine buf consumed), s)
        else if buf.length > max then (.error .invalidData, s)
        else loop max p turns fuel (i + 1) buf s

/-- The relay's reader. -/
def readLinePaced (max : Nat) (p : Pacing) (turns : Nat → LineTurn) (s : LineStream) :
    Except LineError (Option String) × LineStream :=
  readLinePaced.loop max p turns (s.chunks.length + 1) 0 [] s

/-- Whether a reader was stopped by its pacing or by the shared budget. -/
def LineError.stops : Except LineError (Option String) × LineStream → Bool
  | (.error .timedOut, _) => true
  | (.error .busy, _) => true
  | _ => false

namespace LineStream

/-- The bytes up to the first newline. -/
def line (s : LineStream) : Bytes := s.bytes.takeWhile (· ≠ NEWLINE)

/-- The reference splitter: the first line of the stream's bytes, however they are cut. -/
def firstLine (s : LineStream) (max : Nat) : Except LineError (Option String) :=
  if s.line.length > max then .error .invalidData
  else if NEWLINE ∈ s.bytes then .ok (some (fromUtf8Lossy s.line))
  else if s.broken then .error .io
  else if s.bytes = [] then .ok none
  else .ok (some (fromUtf8Lossy s.line))

/-- The bytes behind the first newline. -/
def behindLine (s : LineStream) : Bytes := (s.bytes.dropWhile (· ≠ NEWLINE)).drop 1

/-- Whether `out` is the first line of the stream, the bytes behind it left for the next call. -/
def Splits (s : LineStream) (max : Nat) (out : Except LineError (Option String) × LineStream) : Prop :=
  out.1 = s.firstLine max ∧ ∀ line, out.1 = .ok line → out.2.bytes = s.behindLine

/-- Whether both readers split the stream as the reference does, and alike when neither is stopped. -/
def LinesRight (s : LineStream) (max : Nat) : Prop :=
  s.Splits max (readLineCapped max s)
    ∧ ∀ p turns, LineError.stops (readLinePaced max p turns s) = false →
      s.Splits max (readLinePaced max p turns s) ∧ readLinePaced max p turns s = readLineCapped max s

/-- How many bytes come in the chunks before the one that holds the first newline. -/
def before (s : LineStream) : Nat := (s.chunks.takeWhile (NEWLINE ∉ ·)).flatten.length

/-- Whether the first line is over the cap, and its newline comes while no more than the cap was read. -/
def Overlooked (s : LineStream) (max : Nat) : Prop :=
  NEWLINE ∈ s.bytes ∧ max < s.line.length ∧ s.before ≤ max

end LineStream
end Nightdrop
