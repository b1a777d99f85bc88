import Nightdrop.Lib.KeyedMap

/-! The relay's mailbox store: queued blobs, limits, the response budget, draining and reaping. -/

namespace Nightdrop.Relay

/-- Opaque blob bytes. -/
abbrev Bytes := List UInt8

/-- A mailbox name chosen by the clients. -/
abbrev Handle := String

/-- Monotonic time and durations, in nanoseconds. -/
abbrev Nanos := Nat

def nanosPerSec : Nat := 1000000000

def u64Max : Nat := 2 ^ 64 - 1

/-- What the build target fixes: the widest `usize` and the latest representable `Instant`. -/
structure Platform where
  usizeMax : Nat
  instantMax : Nanos

/-- Addition of two `usize` values; `none` is the overflow panic. -/
def checkedAdd (plat : Platform) (a b : Nat) : Option Nat :=
  if a + b ≤ plat.usizeMax then some (a + b) else none

/-- The sum of `usize` values; `none` is the overflow panic. -/
def checkedSum (plat : Platform) (values : List Nat) : Option Nat :=
  if values.sum ≤ plat.usizeMax then some values.sum else none

/-- Resource limits, all reject-new: a full mailbox refuses posts rather than evicting blobs. -/
structure RelayLimits where
  maxBlobBytes : Nat
  maxMailboxBlobs : Nat
  maxMailboxBytes : Nat
  maxTotalBytes : Nat
  smallBlobBytes : Nat
  smallReserveBytes : Nat
  entryOverheadBytes : Nat
  maxTtl : Nanos
  maxLineBytes : Nat

/-- Largest blob a relay stores by default. -/
def MAX_BLOB_BYTES : Nat := 150 * 1024 * 1024

/-- Most handles one `takeMany` may name. -/
def MAX_TAKE_MANY : Nat := 64

/-- Raw blob bytes one draining response carries, at most, after its first blob. -/
def TAKE_BUDGET_BYTES : Nat := 32 * 1024 * 1024

/-- Longest handle a post may use. -/
def MAX_HANDLE_BYTES : Nat := 128

/-- The limits a relay runs with unless told otherwise. -/
def RelayLimits.default : RelayLimits where
  maxBlobBytes := MAX_BLOB_BYTES
  maxMailboxBlobs := 256
  maxMailboxBytes := 256 * 1024 * 1024
  maxTotalBytes := 1024 * 1024 * 1024
  smallBlobBytes := 64 * 1024
  smallReserveBytes := 128 * 1024 * 1024
  entryOverheadBytes := 512
  maxTtl := 24 * 60 * 60 * nanosPerSec
  maxLineBytes := MAX_BLOB_BYTES / 3 * 4 + 4096

/-- One queued blob. -/
structure Stored where
  msgId : String
  deleteToken : String
  posted : Nanos
  expiry : Nanos
  expiryUnix : Nat
  bytes : Bytes
  /-- What this entry counts against `maxTotalBytes`. -/
  cost : Nat
deriving DecidableEq

/-- The bytes a handle may be made of. -/
def handleByte (b : UInt8) : Bool :=
  (65 ≤ b && b ≤ 90) || (97 ≤ b && b ≤ 122) || (48 ≤ b && b ≤ 57)
    || b == 58 || b == 95 || b == 45 || b == 46

/-- Whether `handle` may be posted to. -/
def validHandle (handle : Handle) : Bool :=
  (1 ≤ handle.utf8ByteSize && handle.utf8ByteSize ≤ MAX_HANDLE_BYTES)
    && handle.toUTF8.data.toList.all handleByte

/-- What one stored blob costs against `maxTotalBytes`; `none` is the overflow panic. -/
def entryCost (plat : Platform) (handle : Handle) (blobLen overhead : Nat) : Option Nat :=
  (checkedAdd plat blobLen handle.utf8ByteSize).bind (fun sum => checkedAdd plat sum overhead)

/-- The mailbox map plus a running byte total. -/
structure StoreInner where
  map : KeyedMap Handle (List Stored)
  totalBytes : Nat
  dirty : Bool
  lastFlush : Option Nanos

/-- The store a relay starts with. -/
def StoreInner.empty : StoreInner := ⟨∅, 0, false, none⟩

/-- The queue under a handle, empty when there is none. -/
def StoreInner.queue (inner : StoreInner) (handle : Handle) : List Stored :=
  (inner.map.lookup handle).getD []

/-- What is left of one draining response's budget. -/
structure TakeBudget where
  room : Nat
  first : Bool

def TakeBudget.default : TakeBudget := ⟨TAKE_BUDGET_BYTES, true⟩

/-- Whether a blob of `len` bytes goes in this response; counts it if so. The first always does. -/
def TakeBudget.admit (budget : TakeBudget) (len : Nat) : Bool × TakeBudget :=
  if !budget.first && len > budget.room then (false, budget)
  else (true, ⟨budget.room - len, false⟩)

/-- What draining one queue yields. -/
structure Drained where
  taken : List Stored
  freed : Nat
  rest : List Stored
  budget : TakeBudget

/-- The draining loop: expired heads are dropped, live ones are taken while the budget admits them. -/
def drainLoop (now : Nanos) : List Stored → TakeBudget → Drained
  | [], budget => ⟨[], 0, [], budget⟩
  | head :: queue, budget =>
    if head.expiry ≤ now then
      let tail := drainLoop now queue budget
      { tail with freed := head.cost + tail.freed }
    else
      match budget.admit head.bytes.length with
      | (false, budget) => ⟨[], 0, head :: queue, budget⟩
      | (true, budget) =>
        let tail := drainLoop now queue budget
        { tail with taken := head :: tail.taken, freed := head.cost + tail.freed }

/--
Remove the oldest live blobs under `handle` that fit in the budget.

`none` is the panic of the unchecked subtraction, which leaves the map already drained.
-/
def StoreInner.drainHandleBounded (inner : StoreInner) (handle : Handle) (budget : TakeBudget)
    (now : Nanos) : Option (List Stored × TakeBudget) × StoreInner :=
  match inner.map.lookup handle with
  | none => (some ([], budget), inner)
  | some queue =>
    let drained := drainLoop now queue budget
    let left := { inner with
      map := if drained.rest.isEmpty then inner.map.erase handle
        else inner.map.insert handle drained.rest }
    if inner.totalBytes < drained.freed then (none, left)
    else
      (some (drained.taken, drained.budget),
        { left with
          totalBytes := inner.totalBytes - drained.freed
          dirty := inner.dirty || 0 < drained.freed })

/-- What the reaper keeps of one queue. -/
def reapQueue (now : Nanos) (queue : List Stored) : List Stored :=
  queue.filter (fun s => s.expiry > now)

/-- What dropping the entries that fail `keep` frees. -/
def freedBy (keep : Stored → Bool) (queue : List Stored) : Nat :=
  ((queue.filter (fun s => !keep s)).map Stored.cost).sum

/--
One pass of the reaper: expired blobs are dropped everywhere, then empty mailboxes.

`none` is the panic of the unchecked subtraction.
-/
def StoreInner.reap (inner : StoreInner) (now : Nanos) : Option Unit × StoreInner :=
  let freed := KeyedMap.total (fun _ queue => freedBy (fun s => s.expiry > now) queue) inner.map
  let left := { inner with
    map := KeyedMap.mapMaybe (fun _ queue =>
      let kept := reapQueue now queue
      if kept.isEmpty then none else some kept) inner.map }
  if inner.totalBytes < freed then (none, left)
  else
    (some (),
      { left with
        totalBytes := inner.totalBytes - freed
        dirty := inner.dirty || 0 < freed })

end Nightdrop.Relay
