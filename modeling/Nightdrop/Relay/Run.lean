import Nightdrop.Relay.Process

/-! Runs of the relay: any interleaving of requests and reaper passes against one store. -/

namespace Nightdrop.Relay

/-- One critical section: a request handler or a reaper pass, with the clock it read before. -/
inductive Event where
  | request (amb : Ambient) (req : Request)
  | reap (now : Nanos)

/-- The clock a critical section works with, read before it took the lock. -/
def Event.now : Event → Nanos
  | .request amb _ => amb.now
  | .reap now => now

/-- The store after one critical section. -/
def step (cfg : Config) (inner : StoreInner) : Event → StoreInner
  | .request amb req => (process cfg amb req inner).store
  | .reap now => (inner.reap now).2

/-- The store after a run of critical sections. -/
def run (cfg : Config) : StoreInner → List Event → StoreInner
  | inner, [] => inner
  | inner, event :: events => run cfg (step cfg inner event) events

/-- The entry a post stored under `handle`, when it was accepted. -/
def acceptedBy (cfg : Config) (inner : StoreInner) (handle : Handle) : Event → List Stored
  | .request amb (.post target blob ttlSecs) =>
    if target = handle then
      match (post cfg amb target blob ttlSecs inner).reply, cfg.b64.decode blob with
      | some (response, _), some bytes =>
        if response.ok then
          [storedOf cfg amb bytes
            (bytes.length + target.utf8ByteSize + cfg.limits.entryOverheadBytes) ttlSecs]
        else []
      | _, _ => []
    else []
  | _ => []

/-- The handles a request drains, in order. -/
def Request.drains : Request → List Handle
  | .fetch target | .take target => [target]
  | .takeMany handles => if handles.length > MAX_TAKE_MANY then [] else handles
  | _ => []

/-- Whether a request neither posts nor recalls. -/
def Request.onlyReads : Request → Bool
  | .post .. | .recallBlob .. => false
  | _ => true

/-- What a request took from each handle it drains. -/
def drainParts (inner : StoreInner) : Event → List (Handle × List Stored)
  | .request amb req => (drainAll amb.now req.drains .default inner).1.getD []
  | .reap _ => []

/-- What a list of drained parts holds for one handle. -/
def partsOf (handle : Handle) (parts : List (Handle × List Stored)) : List Stored :=
  (parts.filter (fun part => part.1 = handle)).flatMap Prod.snd

/-- What a request took out of the queue under `handle` to return it. -/
def drainedBy (inner : StoreInner) (handle : Handle) (event : Event) : List Stored :=
  partsOf handle (drainParts inner event)

/-- Every entry accepted under `handle` in a run, in post order. -/
def accepted (cfg : Config) (handle : Handle) : StoreInner → List Event → List Stored
  | _, [] => []
  | inner, event :: events =>
    acceptedBy cfg inner handle event ++ accepted cfg handle (step cfg inner event) events

/-- Every entry the draining requests of a run took out of `handle`, in order. -/
def drained (cfg : Config) (handle : Handle) : StoreInner → List Event → List Stored
  | _, [] => []
  | inner, event :: events =>
    drainedBy inner handle event ++ drained cfg handle (step cfg inner event) events

/-- Whether an event is a recall that names this entry under `handle`. -/
def Event.Recalls (handle : Handle) (s : Stored) (event : Event) : Prop :=
  ∃ amb, event = .request amb (.recallBlob handle s.msgId s.deleteToken)

/-- What a response returns of the entries its request took: ids and blobs to a fetch, blobs else. -/
def Carries (b64 : Base64) (req : Request) (taken : List Stored) (response : Response) : Prop :=
  match req with
  | .fetch _ =>
    response.items = taken.map (fun s => (s.msgId, b64.encode s.bytes)) ∧ response.blobs = []
  | _ => response.blobs = taken.map (fun s => b64.encode s.bytes) ∧ response.items = []

end Nightdrop.Relay
