import Nightdrop.Lib.Text

/-! The byte budget for inbound frames, and the connection readers, queue and pump that share it. -/

namespace Nightdrop

/-- The largest attachment. -/
def MAX_MEDIA_BYTES : Nat := 100 * 1024 * 1024

/-- The longest frame a peer may announce. -/
def MAX_FRAME_BYTES : Nat := (MAX_MEDIA_BYTES + 2) / 3 * 4 + 1024 * 1024

/-- The length a frame's prefix announces, within the limit. -/
def frameLen (a b c d : UInt8) : Option Nat :=
  if ofBe32 a b c d ≤ MAX_FRAME_BYTES then some (ofBe32 a b c d) else none

namespace Inbound

/-- Which listener a reader serves. -/
inductive Kind where
  | tor
  | nearby
  deriving DecidableEq

/-- Where a connection's reader stands. -/
inductive Reader where
  /-- Before a frame's prefix. -/
  | idle
  /-- A frame of `len` bytes is announced and waits for room. -/
  | waiting (len : Nat)
  /-- In the reservation's loop, with the count it last saw. -/
  | reserving (len current : Nat)
  /-- The room is reserved and `got` has arrived. -/
  | reading (len : Nat) (got : Bytes)
  | closed

/-- The bytes a reader holds of the budget. -/
def Reader.share : Reader → Nat
  | .reading len _ => len
  | _ => 0

/-- The bytes of a frame a reader has in memory. -/
def Reader.buffered : Reader → Nat
  | .reading _ got => got.length
  | _ => 0

/-- Whether a reader is in a frame's body. -/
def Reader.inFrame : Reader → Nat
  | .reading _ _ => 1
  | _ => 0

/-- A listener: its budget, its connections' readers and the frames that wait for the core. -/
structure Listener where
  kind : Kind
  limit : Nat
  held : Nat
  readers : List Reader
  queue : List Bytes
  /-- Whether the core's end of the queue is still there. -/
  taken : Bool

/-- What a reader, the pump or the transport's owner does next. -/
inductive Action where
  | connect
  | announce (i : Nat) (a b c d : UInt8)
  | load (i : Nat)
  | exchange (i : Nat) (spurious : Bool)
  | giveUp (i : Nat)
  | arrive (i : Nat) (bytes : Bytes)
  | finish (i : Nat)
  | fail (i : Nat)
  | take
  | dropReceiver

namespace Listener

/-- A listener without connections. -/
def fresh (kind : Kind) (limit : Nat) : Listener := ⟨kind, limit, 0, [], [], true⟩

/-- Puts the `i`th reader in another place. -/
def put (s : Listener) (i : Nat) (r : Reader) : Listener := { s with readers := s.readers.set i r }

/-- Gives back `len` bytes. -/
def release (s : Listener) (len : Nat) : Listener := { s with held := s.held - len }

/-- A frame is announced; one over the limit ends the connection. -/
def hear (s : Listener) (i : Nat) : Option Nat → Listener
  | some len => s.put i (.waiting len)
  | none => s.put i .closed

/-- One turn of the reservation's loop: refused, exchanged, or with a newer count. -/
def exchanged (s : Listener) (i len current : Nat) (spurious : Bool) : Listener :=
  if current ≠ 0 ∧ current + len > s.limit then s.put i (.waiting len)
  else if s.held = current ∧ spurious = false then { s with held := current + len }.put i (.reading len [])
  else s.put i (.reserving len s.held)

/-- A whole frame goes to the core, or the connection ends because there is none. -/
def deliver (s : Listener) (i : Nat) (frame : Bytes) : Listener :=
  if s.taken then { s with queue := s.queue ++ [frame] }.put i .idle
  else match s.kind with
    | .tor => (s.release frame.length).put i .closed
    | .nearby => s.put i .closed

/-- A connection ends: what was reserved for the frame being read is given back. -/
def close (s : Listener) (i : Nat) : Option Reader → Listener
  | some (.reading len _) => (s.release len).put i .closed
  | some _ => s.put i .closed
  | none => s

/-- One step of any of them; a step that is not due changes nothing. -/
def step (s : Listener) : Action → Listener
  | .connect => { s with readers := s.readers ++ [.idle] }
  | .announce i a b c d =>
    match s.readers[i]? with
    | some .idle => s.hear i (frameLen a b c d)
    | _ => s
  | .load i =>
    match s.readers[i]? with
    | some (.waiting len) => s.put i (.reserving len s.held)
    | _ => s
  | .exchange i spurious =>
    match s.readers[i]? with
    | some (.reserving len current) => s.exchanged i len current spurious
    | _ => s
  | .giveUp i =>
    match s.readers[i]? with
    | some (.waiting _) => s.put i .closed
    | _ => s
  | .arrive i bytes =>
    match s.readers[i]? with
    | some (.reading len got) => s.put i (.reading len (got ++ bytes.take (len - got.length)))
    | _ => s
  | .finish i =>
    match s.readers[i]? with
    | some (.reading len got) => if got.length = len then s.deliver i got else s
    | _ => s
  | .fail i => s.close i s.readers[i]?
  | .take =>
    match s.queue with
    | [] => s
    | frame :: rest => { s with queue := rest }.release frame.length
  | .dropReceiver => { s with queue := [], taken := false }

/-- All steps of a run. -/
def run (s : Listener) (actions : List Action) : Listener := actions.foldl step s

/-- The lengths of the frames being read or queued, together. -/
def total (s : Listener) : Nat := (s.readers.map Reader.share).sum + (s.queue.map List.length).sum

/-- The frames being read or queued. -/
def frames (s : Listener) : Nat := (s.readers.map Reader.inFrame).sum + s.queue.length

/-- The bytes of frames in memory. -/
def memory (s : Listener) : Nat := (s.readers.map Reader.buffered).sum + (s.queue.map List.length).sum

/-- The count is exact and bounded, back at zero when all is drained, and the frames are within `bound`. -/
structure InBudget (bound : Nat → Nat) (s : Listener) : Prop where
  exact : s.held = s.total
  limited : s.held ≤ max s.limit MAX_FRAME_BYTES
  drained : s.frames = 0 → s.held = 0
  few : s.frames ≤ bound s.limit
  small : s.memory ≤ bound s.limit

/-- Whether a step neither announces an empty frame nor takes the core's end of the queue away. -/
def Weighs : Action → Prop
  | .announce _ a b c d => [a, b, c, d] ≠ [0, 0, 0, 0]
  | .dropReceiver => False
  | _ => True

end Listener
end Inbound
end Nightdrop
