import Nightdrop.Relay.Run

/-! The relay's queue file: snapshots of the store, their writers, and what a restart loads. -/

namespace Nightdrop.Relay

/-- The shortest time between two writes that requests make. -/
def FLUSH_MIN_INTERVAL : Nanos := 500 * 1000000

/-- On-disk form of one queued blob. -/
structure PersistedBlob where
  msgId : String
  deleteToken : String
  expiryUnix : Nat
  blob : String
deriving DecidableEq

/-- On-disk form of the whole mailbox store: the value its JSON text stands for. -/
structure PersistedStore where
  mailboxes : KeyedMap Handle (List PersistedBlob)

/-- How one queued blob is written. -/
def persistedOf (b64 : Base64) (s : Stored) : PersistedBlob where
  msgId := s.msgId
  deleteToken := s.deleteToken
  expiryUnix := s.expiryUnix
  blob := b64.encode s.bytes

/-- The store as it is written: every mailbox that holds anything, expired blobs included. -/
def serializeStore (b64 : Base64) (inner : StoreInner) : PersistedStore where
  mailboxes := KeyedMap.mapMaybe (fun _ queue =>
    if queue.isEmpty then none else some (queue.map (persistedOf b64))) inner.map

/-- The clocks a load reads: the monotonic one starts anew with every process. -/
structure Clocks where
  now : Nanos
  nowUnix : Nat

/-- The monotonic expiry a load gives a blob, from the time it has left. -/
def Clocks.expiryOf (clocks : Clocks) (expiryUnix : Nat) : Nanos :=
  clocks.now + (expiryUnix - clocks.nowUnix) * nanosPerSec

/-- What a load makes of one blob: nothing when it is past its expiry or cannot be decoded. -/
def loadBlob (cfg : Config) (clocks : Clocks) (handle : Handle) (b : PersistedBlob) :
    Option Stored :=
  if b.expiryUnix ≤ clocks.nowUnix then none
  else (cfg.b64.decode b.blob).map fun bytes =>
    { msgId := b.msgId
      deleteToken := b.deleteToken
      posted := clocks.now
      expiry := clocks.expiryOf b.expiryUnix
      expiryUnix := b.expiryUnix
      bytes := bytes
      cost := bytes.length + handle.utf8ByteSize + cfg.limits.entryOverheadBytes }

/-- What a load makes of one mailbox. -/
def loadQueue (cfg : Config) (clocks : Clocks) (handle : Handle) (blobs : List PersistedBlob) :
    List Stored :=
  blobs.filterMap (loadBlob cfg clocks handle)

/-- The mailboxes a load fills; the ones left empty are not opened. -/
def loadMailboxes (cfg : Config) (clocks : Clocks) (persisted : PersistedStore) :
    KeyedMap Handle (List Stored) :=
  KeyedMap.mapMaybe (fun handle blobs =>
    let queue := loadQueue cfg clocks handle blobs
    if queue.isEmpty then none else some queue) persisted.mailboxes

/--
The store a persisted file stands for; a missing one stands for the empty store.

`none` is the panic of a sum or an expiry that cannot be represented.
-/
def loadStore (cfg : Config) (clocks : Clocks) (file : Option PersistedStore) :
    Option StoreInner :=
  match file with
  | none => some .empty
  | some persisted =>
    let map := loadMailboxes cfg clocks persisted
    -- The running total never exceeds the sum, so one check stands for every addition.
    let total := KeyedMap.total (fun _ queue => (queue.map Stored.cost).sum) map
    if total ≤ cfg.plat.usizeMax
        ∧ map.entries.all (fun e => e.2.all (fun s => s.expiry ≤ cfg.plat.instantMax)) then
      some { StoreInner.empty with map := map, totalBytes := total }
    else none

/-- Where the flush that holds the writer stands. -/
inductive Flush where
  /-- It has not looked at the store yet. -/
  | entered (respectInterval : Bool)
  /-- It writes the snapshot of this number, off the store's lock. -/
  | writing (number : Nat) (json : PersistedStore)
  /-- Its write failed, and the store is not marked again yet. -/
  | failed

/--
A relay with persistence.

The history of the snapshots stands beside what the code keeps, for the properties to speak of.
-/
structure RelayCore where
  store : StoreInner
  /-- The flush that holds the writer's mutex, if any does. -/
  writer : Option Flush
  /-- What stands at the persistence path. -/
  file : Option PersistedStore
  /-- The wall clock at the last start. -/
  booted : Nat
  /-- How many snapshots were taken. -/
  taken : Nat
  /-- The snapshots that reached the path, the last one first. -/
  landed : List (Nat × PersistedStore)

/-- A relay that never ran. -/
def RelayCore.fresh : RelayCore := ⟨.empty, none, none, 0, 0, []⟩

/-- Whether a snapshot was taken whose write is not over. -/
def RelayCore.writing (core : RelayCore) : Bool :=
  match core.writer with
  | none | some (.entered _) => false
  | some (.writing ..) | some .failed => true

/-- Whether a request's flush leaves the write to the background flusher. -/
def StoreInner.coalesces (inner : StoreInner) (respectInterval : Bool) (now : Nanos) : Bool :=
  respectInterval && inner.lastFlush.any (fun last => now - last < FLUSH_MIN_INTERVAL)

/-- What can happen to a relay with persistence: one critical section, or one stage of a flush. -/
inductive CoreEvent where
  | store (event : Event)
  | enter (respectInterval : Bool)
  | snapshot (now : Nanos)
  | written
  | writeFailed
  | remark
  | restart (clocks : Clocks)

/-- The flush's look at the store: skip, or clear the mark and go on with a snapshot. -/
def RelayCore.snapshot (cfg : Config) (core : RelayCore) (respectInterval : Bool) (now : Nanos) :
    RelayCore :=
  if !core.store.dirty || core.store.coalesces respectInterval now then
    { core with writer := none }
  else
    { core with
      store := { core.store with dirty := false, lastFlush := some now }
      writer := some (.writing core.taken (serializeStore cfg.b64 core.store))
      taken := core.taken + 1 }

/-- The relay after one event; `none` when the event cannot happen now. -/
def RelayCore.step (cfg : Config) (core : RelayCore) : CoreEvent → Option RelayCore
  | .store event => some { core with store := Relay.step cfg core.store event }
  | .enter respectInterval =>
    match core.writer with
    | none => some { core with writer := some (.entered respectInterval) }
    | some _ => none
  | .snapshot now =>
    match core.writer with
    | some (.entered respectInterval) => some (core.snapshot cfg respectInterval now)
    | _ => none
  | .written =>
    -- The rename puts the whole snapshot in the place of the old file.
    match core.writer with
    | some (.writing number json) =>
      some { core with
        writer := none, file := some json, landed := (number, json) :: core.landed }
    | _ => none
  | .writeFailed =>
    match core.writer with
    | some (.writing _ _) => some { core with writer := some .failed }
    | _ => none
  | .remark =>
    match core.writer with
    | some .failed =>
      some { core with writer := none, store := { core.store with dirty := true } }
    | _ => none
  | .restart clocks =>
    -- A relay can stop at any time; what it was writing is lost with it.
    (loadStore cfg clocks core.file).map fun store =>
      { core with store := store, writer := none, booted := clocks.nowUnix }

/-- One step of a relay with persistence. -/
def RelayCore.Next (cfg : Config) (core : RelayCore) (event : CoreEvent) (next : RelayCore) :
    Prop :=
  core.step cfg event = some next

end Nightdrop.Relay
