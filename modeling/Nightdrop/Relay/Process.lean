import Nightdrop.Lib.Base64
import Nightdrop.Relay.Store

/-! The relay's request dispatch: one request against the locked store. -/

namespace Nightdrop.Relay

/-- The base64 codec of the wire, which the relay only calls. -/
structure Base64 where
  encode : Bytes → String
  decode : String → Option Bytes

/-- The codec's standard engine. -/
def Base64.standard : Base64 := ⟨Nightdrop.Base64.encode, Nightdrop.Base64.decode⟩

/-- A request to the relay. -/
inductive Request where
  | post (handle : Handle) (blob : String) (ttlSecs : Nat)
  | peek (handle : Handle)
  | fetch (handle : Handle)
  | take (handle : Handle)
  | takeMany (handles : List Handle)
  | recallBlob (handle : Handle) (msgId deleteToken : String)
  | getDirectory

/-- A response from the relay. -/
structure Response where
  ok : Bool
  error : Option String
  blobs : List String
  items : List (String × String)
  count : Nat
  msgId : Option String
  deleteToken : Option String
  directory : Option String
deriving DecidableEq

def Response.default : Response := ⟨false, none, [], [], 0, none, none, none⟩

def Response.err (msg : String) : Response := { Response.default with error := some msg }

def Response.justOk : Response := { Response.default with ok := true }

/-- One observed operation, for the dev flow-log: metadata only. -/
structure RelayEvent where
  op : String
  handle : Handle
  msgId : Option String
  blobLen : Nat
  blobHash : String
  ttlSecs : Nat
  queueDepth : Nat
  result : String

def simpleEv (op : String) (handle : Handle) (depth : Nat) (result : String) : RelayEvent :=
  ⟨op, handle, none, 0, "", 0, depth, result⟩

/-- What one request handler reads off the clocks and the random generator. -/
structure Ambient where
  now : Nanos
  nowUnix : Nat
  msgId : String
  deleteToken : String

/-- The relay's configuration and the code it calls but does not define. -/
structure Config where
  plat : Platform
  limits : RelayLimits
  directory : Option String
  b64 : Base64
  shortHash : Bytes → String

/--
The outcome of one handler, and the store the next holder of the lock finds.

No reply means the handler panicked under the lock; the next holder recovers the poisoned store.
-/
structure Handled where
  reply : Option (Response × RelayEvent)
  store : StoreInner

def Handled.panicked (inner : StoreInner) : Handled := ⟨none, inner⟩

def Handled.answer (response : Response) (event : RelayEvent) (inner : StoreInner) : Handled :=
  ⟨some (response, event), inner⟩

def StoreInner.depthOf (inner : StoreInner) (handle : Handle) : Nat :=
  (inner.queue handle).length

/-- The reason a post is refused, if any; the outer `none` is an overflow panic. -/
def rejection (cfg : Config) (inner : StoreInner) (handle : Handle) (len cost : Nat) :
    Option (Option String) :=
  if len > cfg.limits.maxBlobBytes then some (some "blob too large")
  else
    (checkedAdd cfg.plat inner.totalBytes cost).bind fun after =>
      if after > cfg.limits.maxTotalBytes then some (some "relay full")
      else if len > cfg.limits.smallBlobBytes
          && after > cfg.limits.maxTotalBytes - cfg.limits.smallReserveBytes then
        -- Large blobs leave the reserve to small ones.
        some (some "relay full")
      else
        let queue := inner.queue handle
        (checkedSum cfg.plat (queue.map (fun s => s.bytes.length))).bind fun queueBytes =>
          if queue.length ≥ cfg.limits.maxMailboxBlobs then some (some "mailbox full")
          else (checkedAdd cfg.plat queueBytes len).bind fun together =>
            if together > cfg.limits.maxMailboxBytes then some (some "mailbox full")
            else some none

/-- The time a post is kept, clamped to the advertised cap. -/
def clampTtl (limits : RelayLimits) (ttlSecs : Nat) : Nanos :=
  min (ttlSecs * nanosPerSec) limits.maxTtl

/-- Whether both expiry times of a post can be represented. -/
def expiryFits (cfg : Config) (amb : Ambient) (ttlSecs : Nat) : Bool :=
  amb.now + clampTtl cfg.limits ttlSecs ≤ cfg.plat.instantMax
    && amb.nowUnix + clampTtl cfg.limits ttlSecs / nanosPerSec ≤ u64Max

/-- The entry an accepted post stores. -/
def storedOf (cfg : Config) (amb : Ambient) (bytes : Bytes) (cost ttlSecs : Nat) : Stored where
  msgId := amb.msgId
  deleteToken := amb.deleteToken
  posted := amb.now
  expiry := amb.now + clampTtl cfg.limits ttlSecs
  expiryUnix := amb.nowUnix + clampTtl cfg.limits ttlSecs / nanosPerSec
  bytes := bytes
  cost := cost

/-- `Post`: check the limits, then charge and store the blob. -/
def post (cfg : Config) (amb : Ambient) (handle : Handle) (blob : String) (ttlSecs : Nat)
    (inner : StoreInner) : Handled :=
  let ev : RelayEvent := { simpleEv "POST" handle 0 "" with ttlSecs := ttlSecs }
  match cfg.b64.decode blob with
  | none => .answer (.err "bad blob") { ev with result := "bad blob" } inner
  | some bytes =>
    let ev := { ev with blobLen := bytes.length, blobHash := cfg.shortHash bytes }
    if !validHandle handle then
      .answer (.err "bad handle") { ev with result := "rejected: bad handle" } inner
    else
      match entryCost cfg.plat handle bytes.length cfg.limits.entryOverheadBytes with
      | none => .panicked inner
      | some cost =>
        match rejection cfg inner handle bytes.length cost with
        | none => .panicked inner
        | some (some reason) =>
          .answer (.err reason)
            { ev with queueDepth := inner.depthOf handle, result := "rejected: " ++ reason } inner
        | some none =>
          -- The total is charged and the mailbox opened before the expiry is computed.
          let charged := { inner with totalBytes := inner.totalBytes + cost }
          if !expiryFits cfg amb ttlSecs then
            .panicked { charged with map := inner.map.insert handle (inner.queue handle) }
          else
            let queue := inner.queue handle ++ [storedOf cfg amb bytes cost ttlSecs]
            .answer
              { Response.justOk with
                msgId := some amb.msgId
                deleteToken := some amb.deleteToken }
              { ev with msgId := some amb.msgId, queueDepth := queue.length, result := "ok" }
              { charged with map := inner.map.insert handle queue, dirty := true }

/-- Drain several handles under one response budget; `none` is a panic on the way. -/
def drainAll (now : Nanos) : List Handle → TakeBudget → StoreInner →
    Option (List (Handle × List Stored)) × StoreInner
  | [], _, inner => (some [], inner)
  | handle :: handles, budget, inner =>
    match inner.drainHandleBounded handle budget now with
    | (none, left) => (none, left)
    | (some (taken, budget), left) =>
      match drainAll now handles budget left with
      | (none, last) => (none, last)
      | (some others, last) => (some ((handle, taken) :: others), last)

/-- Whether a recall with this id and token hits an entry. -/
def recallHit (msgId deleteToken : String) (s : Stored) : Bool :=
  s.msgId == msgId && s.deleteToken == deleteToken

/--
Delete the queued blobs a recall hits, and say whether there were any.

`none` is the panic of the unchecked subtraction.
-/
def StoreInner.recallHits (inner : StoreInner) (handle : Handle) (msgId deleteToken : String) :
    Option Bool × StoreInner :=
  match inner.map.lookup handle with
  | none => (some false, inner)
  | some queue =>
    let kept := queue.filter (fun s => !recallHit msgId deleteToken s)
    let freed := freedBy (fun s => !recallHit msgId deleteToken s) queue
    let removed := kept.length != queue.length
    let left := { inner with
      map := if kept.isEmpty then inner.map.erase handle else inner.map.insert handle kept }
    if inner.totalBytes < freed then (none, left)
    else
      (some removed,
        { left with
          totalBytes := inner.totalBytes - freed
          dirty := inner.dirty || removed })

/-- `Recall`: delete the queued blobs that carry both the id and the token. -/
def recallBlob (handle : Handle) (msgId deleteToken : String) (inner : StoreInner) : Handled :=
  match inner.recallHits handle msgId deleteToken with
  | (none, left) => .panicked left
  | (some removed, left) =>
    .answer (if removed then .justOk else .err "not found")
      { simpleEv "RECALL" handle (left.depthOf handle)
        (if removed then "removed" else "not found") with msgId := some msgId } left

/-- Apply a request to the store, returning the response and a flow-log event. -/
def process (cfg : Config) (amb : Ambient) (request : Request) (inner : StoreInner) : Handled :=
  match request with
  | .getDirectory =>
    .answer { Response.justOk with directory := cfg.directory }
      (simpleEv "DIRECTORY" "-" 0 (if cfg.directory.isSome then "served" else "none")) inner
  | .post handle blob ttlSecs => post cfg amb handle blob ttlSecs inner
  | .peek handle =>
    let count := ((inner.queue handle).filter (fun s => s.expiry > amb.now)).length
    .answer { Response.justOk with count := count }
      (simpleEv "PEEK" handle (inner.depthOf handle) s!"count={count}") inner
  | .fetch handle =>
    match inner.drainHandleBounded handle .default amb.now with
    | (none, left) => .panicked left
    | (some (taken, _), left) =>
      .answer
        { Response.justOk with items := taken.map (fun s => (s.msgId, cfg.b64.encode s.bytes)) }
        (simpleEv "FETCH" handle 0 s!"{taken.length} items") left
  | .takeMany handles =>
    if handles.length > MAX_TAKE_MANY then
      .answer (.err s!"at most {MAX_TAKE_MANY} handles")
        (simpleEv "TAKE_MANY" "-" 0 "refused: too many handles") inner
    else
      match drainAll amb.now handles .default inner with
      | (none, left) => .panicked left
      | (some drained, left) =>
        let blobs := drained.flatMap (fun d => d.2.map (fun s => cfg.b64.encode s.bytes))
        .answer { Response.justOk with blobs := blobs }
          (simpleEv "TAKE_MANY" (handles.head?.getD "-") 0
            s!"{handles.length} handles, {blobs.length} blobs") left
  | .take handle =>
    match inner.drainHandleBounded handle .default amb.now with
    | (none, left) => .panicked left
    | (some (taken, _), left) =>
      .answer { Response.justOk with blobs := taken.map (fun s => cfg.b64.encode s.bytes) }
        (simpleEv "TAKE" handle 0 s!"{taken.length} blobs") left
  | .recallBlob handle msgId deleteToken => recallBlob handle msgId deleteToken inner

end Nightdrop.Relay
