import Nightdrop.Lib.Ask
import Nightdrop.Relay.Run

/-! The relay client: draining by round trips, any of which can fail at any point. -/

namespace Nightdrop.Relay

/-- Which relay a client dials: the primary one, or an advertised extra. -/
abbrev Addr := Option String

/-- A request to one relay. -/
structure Query where
  addr : Addr
  req : Request

/-- What a round trip comes back with, if it comes back. -/
abbrev Reply := Option Response

/-- Why a client call failed. -/
inductive ClientError where
  /-- The round trip failed, or its answer could not be parsed. -/
  | roundTrip
  /-- The relay refused: `relay {op} failed: {error}`. -/
  | refused (op : String) (error : Option String)
  /-- A blob of the answer is not base64. -/
  | undecodable
deriving DecidableEq

/-- A client's code between its round trips. -/
abbrev Client (A : Type) := Ask Query Reply A

def roundTrip (addr : Addr) (req : Request) : Client Reply := .ask ⟨addr, req⟩ .done

/-- Decode every blob of an answer; the first that does not decode fails the call. -/
def decodeAll (b64 : Base64) : List String → Except ClientError (List Bytes)
  | [] => .ok []
  | blob :: blobs =>
    match b64.decode blob with
    | none => .error .undecodable
    | some bytes => (decodeAll b64 blobs).map (bytes :: ·)

/-- Drain queued messages, ids and blobs, under `handle`. -/
def fetch (b64 : Base64) (addr : Addr) (handle : Handle) :
    Client (Except ClientError (List (String × Bytes))) := do
  match ← roundTrip addr (.fetch handle) with
  | none => return .error .roundTrip
  | some response =>
    if !response.ok then return .error (.refused "fetch" response.error)
    return (decodeAll b64 (response.items.map Prod.snd)).map
      (fun blobs => (response.items.map Prod.fst).zip blobs)

/-- Drain all queued blobs under `handle`. -/
def take (b64 : Base64) (addr : Addr) (handle : Handle) :
    Client (Except ClientError (List Bytes)) := do
  match ← roundTrip addr (.take handle) with
  | none => return .error .roundTrip
  | some response =>
    if !response.ok then return .error (.refused "take" response.error)
    return decodeAll b64 response.blobs

/-- The loop of `takeEach`: what arrived, whether anything answered, the last error. -/
def takeEachLoop (b64 : Base64) (addr : Addr) : List Handle → List Bytes → Bool →
    Option ClientError → Client (Except ClientError (List Bytes))
  | [], out, answered, lastErr =>
    match answered, lastErr with
    | false, some e => .done (.error e)
    | _, _ => .done (.ok out)
  | handle :: handles, out, answered, lastErr => do
    match ← take b64 addr handle with
    | .ok blobs => takeEachLoop b64 addr handles (out ++ blobs) true lastErr
    | .error e => takeEachLoop b64 addr handles out answered (some e)

def takeEach (b64 : Base64) (addr : Addr) (handles : List Handle) :
    Client (Except ClientError (List Bytes)) :=
  takeEachLoop b64 addr handles [] handles.isEmpty none

/-- Drain several handles in one round trip, or one by one against an older relay. -/
def takeMany (b64 : Base64) (addr : Addr) (handles : List Handle) :
    Client (Except ClientError (List Bytes)) := do
  if handles.length ≤ 1 || handles.length > MAX_TAKE_MANY then
    takeEach b64 addr handles
  else
    match ← roundTrip addr (.takeMany handles) with
    | none => return .error .roundTrip
    | some response =>
      if !response.ok then
        if response.error.any (fun e => e.startsWith "bad request") then
          takeEach b64 addr handles -- an older relay
        else return .error (.refused "take_many" response.error)
      else return decodeAll b64 response.blobs

/-- One polling fragment on one relay. -/
structure DrainJob where
  addr : Addr
  epoch : Option Nat
  handles : List Handle

/-- What a relay poll drains, and the epoch it can retire. -/
structure RelayDrainPlan where
  jobs : List DrainJob
  settles : Option Nat

/-- What a relay poll found. -/
structure RelayHarvest where
  blobs : List Bytes
  reachability : List (String × Bool)
  settled : Option Nat

/-- Fragments a relay may fail, with none answered, before the round skips it. -/
def DEAD_AFTER : Nat := 2

/-- The accumulators of one drain round. -/
structure DrainRound where
  blobs : List Bytes
  /-- Fragments answered and failed, by relay. -/
  tally : KeyedMap Addr (Nat × Nat)
  answered : List (String × Bool)
  settleOk : Bool

/-- Note whether an addressed relay answered, keeping that it ever did. -/
def noteAnswered (addr : Addr) (ok : Bool) (answered : List (String × Bool)) :
    List (String × Bool) :=
  match addr with
  | none => answered
  | some addr =>
    if answered.any (fun seen => seen.1 = addr) then
      answered.map (fun seen => if seen.1 = addr then (seen.1, seen.2 || ok) else seen)
    else answered ++ [(addr, ok)]

/-- The loop of a drain round over its jobs. -/
def drainJobs (b64 : Base64) (settles : Option Nat) : List DrainJob → DrainRound →
    Client DrainRound
  | [], round => .done round
  | job :: jobs, round =>
    let tally := (round.tally.lookup job.addr).getD (0, 0)
    if tally.1 = 0 && tally.2 ≥ DEAD_AFTER then
      drainJobs b64 settles jobs
        { round with settleOk := round.settleOk && job.epoch != settles }
    else do
      match ← takeMany b64 job.addr job.handles with
      | .ok taken =>
        drainJobs b64 settles jobs { round with
          blobs := round.blobs ++ taken
          tally := round.tally.insert job.addr (tally.1 + 1, tally.2)
          answered := noteAnswered job.addr true round.answered }
      | .error _ =>
        drainJobs b64 settles jobs { round with
          tally := round.tally.insert job.addr (tally.1, tally.2 + 1)
          answered := noteAnswered job.addr false round.answered
          settleOk := round.settleOk && job.epoch != settles }

/-- Drain every relay mailbox in a plan; a relay that errors never stops the others. -/
def drainRelayMailboxes (b64 : Base64) (plan : RelayDrainPlan) : Client RelayHarvest := do
  let round ← drainJobs b64 plan.settles plan.jobs ⟨[], ∅, [], plan.settles.isSome⟩
  return ⟨round.blobs, round.answered, plan.settles.filter (fun _ => round.settleOk)⟩

/-- A drain that a client starts. -/
inductive Drain where
  | fetch (addr : Addr) (handle : Handle)
  | take (addr : Addr) (handle : Handle)
  | takeMany (addr : Addr) (handles : List Handle)
  | round (plan : RelayDrainPlan)

/-- A client call in flight: it ends with the blobs it hands over, or with an error. -/
abbrev Call := Client (Except ClientError (List Bytes))

/-- The blobs each drain hands to its caller. -/
def Drain.call (b64 : Base64) : Drain → Call
  | .fetch addr handle => do return (← Relay.fetch b64 addr handle).map (·.map Prod.snd)
  | .take addr handle => Relay.take b64 addr handle
  | .takeMany addr handles => Relay.takeMany b64 addr handles
  | .round plan => do return .ok (← drainRelayMailboxes b64 plan).blobs

end Nightdrop.Relay
