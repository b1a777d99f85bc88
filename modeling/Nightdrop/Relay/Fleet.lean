import Nightdrop.Relay.Client

/-! Clients draining a fleet of relays: every interleaving, with round trips that fail anywhere. -/

namespace Nightdrop.Relay

/-- The relays of a run, some of which may predate `takeMany`. -/
structure Fleet where
  cfg : Config
  old : Addr → Bool
  /-- The text of the parse error an older relay answers with. -/
  parseError : String

/-- An entry with the relay and the handle it was drained from. -/
abbrev Parcel := Addr × Handle × Stored

/-- A client call in flight, with every entry the relays drained on its behalf. -/
structure Session where
  call : Call
  got : List Parcel

/-- The history of every relay, the calls in flight, and what has been handed over. -/
structure World where
  log : Addr → List Event
  sessions : List Session
  handed : List Bytes
  /-- The entries drained on behalf of calls that have ended. -/
  credited : List Parcel

def World.start : World := ⟨fun _ => [], [], [], []⟩

/-- The store of one relay. -/
def World.store (fleet : Fleet) (world : World) (addr : Addr) : StoreInner :=
  run fleet.cfg .empty (world.log addr)

/-- What becomes of the answer to a request the relay has processed. -/
inductive Trip where
  /-- It arrives as it was sent. -/
  | heard
  /-- It is lost or cut off on the way. -/
  | lost
  /-- It arrives with one blob replaced. -/
  | garbled (index : Nat) (blob : String)

/-- What the client hears of an answer. -/
def Trip.hear : Trip → Option (Response × RelayEvent) → Reply
  | .lost, _ => none
  | .heard, answer => answer.map Prod.fst
  | .garbled index blob, answer => answer.map (fun a =>
    { a.1 with
      blobs := a.1.blobs.set index blob
      items := a.1.items.modify index (fun item => (item.1, blob)) })

/-- Whether a relay only knows this request as a bad one. -/
def Fleet.unknown (fleet : Fleet) (query : Query) : Bool :=
  fleet.old query.addr && match query.req with
    | .takeMany _ => true
    | _ => false

/-- What a relay answers. -/
def Fleet.answer (fleet : Fleet) (world : World) (query : Query) (amb : Ambient) :
    Option (Response × RelayEvent) :=
  if fleet.unknown query then
    some (.err s!"bad request: {fleet.parseError}", simpleEv "" "" 0 "")
  else (process fleet.cfg amb query.req (world.store fleet query.addr)).reply

/-- The entries a relay drains for a request, each with where it came from. -/
def Fleet.drains (fleet : Fleet) (world : World) (query : Query) (amb : Ambient) : List Parcel :=
  if fleet.unknown query then []
  else (drainParts (world.store fleet query.addr) (.request amb query.req)).flatMap
    (fun part => part.2.map (fun s => (query.addr, part.1, s)))

/-- The history of every relay after one more critical section. -/
def World.after (world : World) (addr : Addr) (event : Event) : Addr → List Event :=
  fun other => if other = addr then world.log other ++ [event] else world.log other

/-- Whether a critical section drains nothing, whatever is queued. -/
def Event.drainsNothing : Event → Prop
  | .request _ req => req.drains = []
  | .reap _ => True

/-- One step of the world. -/
inductive Label where
  /-- Anyone posts, peeks, recalls or asks for the directory, or the reaper runs. -/
  | relay (addr : Addr) (event : Event)
  /-- A client starts a drain. -/
  | start (drain : Drain)
  /-- A call's request never reaches the relay. -/
  | unsent (query : Query)
  /-- A call's request is processed. -/
  | trip (query : Query) (amb : Ambient) (fate : Trip)
  /-- A call ends. -/
  | finish

/-- What each step does. -/
inductive WorldStep (fleet : Fleet) (world : World) : Label → World → Prop where
  | relay (addr : Addr) (event : Event) (plain : event.drainsNothing) :
      WorldStep fleet world (.relay addr event) { world with log := world.after addr event }
  | start (drain : Drain) :
      WorldStep fleet world (.start drain)
        { world with sessions := world.sessions ++ [⟨drain.call fleet.cfg.b64, []⟩] }
  | unsent (front back : List Session) (query : Query) (next : Reply → Call) (got : List Parcel)
      (here : world.sessions = front ++ ⟨.ask query next, got⟩ :: back) :
      WorldStep fleet world (.unsent query)
        { world with sessions := front ++ ⟨next none, got⟩ :: back }
  | trip (front back : List Session) (query : Query) (next : Reply → Call) (got : List Parcel)
      (amb : Ambient) (fate : Trip)
      (here : world.sessions = front ++ ⟨.ask query next, got⟩ :: back) :
      WorldStep fleet world (.trip query amb fate)
        { world with
          log := if fleet.unknown query then world.log
            else world.after query.addr (.request amb query.req)
          sessions := front ++ ⟨next (fate.hear (fleet.answer world query amb)),
            got ++ fleet.drains world query amb⟩ :: back }
  | finish (front back : List Session) (result : Except ClientError (List Bytes))
      (got : List Parcel) (here : world.sessions = front ++ ⟨.done result, got⟩ :: back) :
      WorldStep fleet world .finish
        { world with
          sessions := front ++ back
          handed := world.handed ++ result.toOption.getD []
          credited := world.credited ++ got }

/-- Whether a step keeps what it drains: an answer not heard as it was sent carried nothing. -/
def KeepsAnswer (fleet : Fleet) (world : World) : Label → Prop
  | .trip query amb fate =>
    fate.hear (fleet.answer world query amb) = (fleet.answer world query amb).map Prod.fst
      ∨ fleet.drains world query amb = []
  | _ => True

end Nightdrop.Relay
