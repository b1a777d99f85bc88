import Nightdrop.Lib.Text

/-! The meek tunnel: round trips over rotating fronts to one reflector that keeps the session's streams. -/

namespace Nightdrop
namespace Moat

/-- The most bytes a request or a reply carries. -/
def MAX_PAYLOAD : Nat := 65536

/-- Attempts per round trip before it gives up. -/
def MAX_ATTEMPTS : Nat := 4

/-- How one attempt goes, from the front to the reflector and back. -/
inductive Attempt where
  /-- It fails before the reflector has taken the whole request. -/
  | unsent
  /-- The reflector takes the request and hands out bytes, but no good reply is read. -/
  | unheard (handed : Bytes)
  /-- The reflector takes the request, and a reply with these bytes is read. -/
  | answered (bytes : Bytes)
  /-- The reflector takes the request and says that the far end has closed. -/
  | closed

/-- What one round trip produced. -/
inductive Down where
  | data (bytes : Bytes)
  | closed

/-- The bytes a round trip returns. -/
def Down.bytes : Down → Bytes
  | .data bytes => bytes
  | .closed => []

/-- The reflector's view of the session. -/
structure Reflector where
  /-- The bodies taken, one after the other. -/
  upstream : Bytes
  /-- The downstream bytes handed out so far, each once. -/
  handed : Bytes

/-- What an attempt with the payload `up` does at the reflector. -/
def Reflector.take (r : Reflector) (up : Bytes) : Attempt → Reflector
  | .unsent => r
  | .unheard handed => ⟨r.upstream ++ up, r.handed ++ handed⟩
  | .answered bytes => ⟨r.upstream ++ up, r.handed ++ bytes⟩
  | .closed => ⟨r.upstream ++ up, r.handed⟩

/-- The client. -/
structure FrontedMeek where
  fronts : List String
  current : Nat
  connected : Bool
  lastFront : Option String

/-- What an attempt gives the client; `none` for an error. -/
def tryOnce : Attempt → Option Down
  | .unsent => none
  | .unheard _ => none
  | .answered bytes => if bytes.length ≤ MAX_PAYLOAD then some (.data bytes) else none
  | .closed => some .closed

/-- The client after a good reply: its connection stays, and the front is noted. -/
def FrontedMeek.succeeded (m : FrontedMeek) : FrontedMeek :=
  { m with connected := true, lastFront := m.fronts[m.current]? }

/-- The client after a failed attempt: it drops the connection and moves on to the next front. -/
def FrontedMeek.moveOn (m : FrontedMeek) : FrontedMeek :=
  { m with connected := false, current := (m.current + 1) % m.fronts.length }

/-- The attempts of a round trip from the `i`th on, while `left` remain. -/
def roundTrip.loop (up : Bytes) (attempts : Nat → Attempt) :
    Nat → Nat → FrontedMeek → Reflector → FrontedMeek × Reflector × Option Down
  | 0, _, m, r => (m, r, none)
  | left + 1, i, m, r =>
    match tryOnce (attempts i) with
    | some down => (m.succeeded, r.take up (attempts i), some down)
    | none => loop up attempts left (i + 1) m.moveOn (r.take up (attempts i))

/-- One round trip; `none` for an error. -/
def roundTrip (up : Bytes) (attempts : Nat → Attempt) (m : FrontedMeek) (r : Reflector) :
    FrontedMeek × Reflector × Option Down :=
  if up.length > MAX_PAYLOAD then (m, r, none) else roundTrip.loop up attempts MAX_ATTEMPTS 0 m r

/-- A round trip's payload and how its attempts go. -/
structure Call where
  up : Bytes
  attempts : Nat → Attempt

/-- A session: the client, the reflector, and what the calls without an error sent and returned. -/
structure Tunnel where
  meek : FrontedMeek
  reflector : Reflector
  sent : Bytes
  returned : Bytes
  /-- Whether a call has returned an error, which ends the session. -/
  failed : Bool

namespace Tunnel

/-- A session that has not called yet. -/
def fresh (meek : FrontedMeek) : Tunnel := ⟨meek, ⟨[], []⟩, [], [], false⟩

/-- One call, unless the session has ended. -/
def call (t : Tunnel) (c : Call) : Tunnel :=
  if t.failed then t
  else
    let (meek, reflector, result) := roundTrip c.up c.attempts t.meek t.reflector
    match result with
    | some down => ⟨meek, reflector, t.sent ++ c.up, t.returned ++ down.bytes, false⟩
    | none => ⟨meek, reflector, t.sent, t.returned, true⟩

/-- All calls, one after the other. -/
def run (t : Tunnel) (calls : List Call) : Tunnel := calls.foldl call t

/-- While no call has failed, each payload went up once and in order, and nothing that came down is missing. -/
def Intact (t : Tunnel) : Prop :=
  t.failed = false → t.reflector.upstream = t.sent ∧ t.returned = t.reflector.handed

end Tunnel

/-- Whether an attempt left nothing behind at the reflector. -/
def Attempt.Traceless (up : Bytes) : Attempt → Prop
  | .unsent => True
  | .unheard handed => up = [] ∧ handed = []
  | .answered bytes => up = [] ∧ bytes = []
  | .closed => up = []

/-- Whether every attempt that is retried left nothing behind at the reflector. -/
def Call.Clean (c : Call) : Prop :=
  ∀ i, i + 1 < MAX_ATTEMPTS → (∀ j, j ≤ i → tryOnce (c.attempts j) = none) → (c.attempts i).Traceless c.up

end Moat
end Nightdrop
