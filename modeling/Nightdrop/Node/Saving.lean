import Nightdrop.Node.Persist

/-! When the state file is written: at once, or after a while for what changes in the background. -/

namespace Nightdrop

/-- Coalescing window for background changes, in milliseconds. -/
def PERSIST_DEBOUNCE : Nat := 3 * 1000

/-- The debounce bookkeeping of the state file. -/
structure Persist where
  /-- When we last wrote to disk. -/
  lastWrite : Nat
  /-- A debounced change is waiting to be flushed once the window elapses. -/
  pending : Bool := false
deriving DecidableEq, Repr

/-- The bookkeeping of a core that starts at `now`, as if the last write were a window ago. -/
def Persist.new (now : Nat) : Persist where
  lastWrite := if PERSIST_DEBOUNCE ≤ now then now - PERSIST_DEBOUNCE else now

/-- A core behind its lock, and the state file on disk. -/
structure Inner (X : Externals) where
  me : Node X
  persist : Option Persist
  file : Option (PersistedState X)

variable {X : Externals}

namespace Node

/-- Inbound requests awaiting approval. -/
def pendingCount (n : Node X) : Nat := (n.chats.entries.filter (fun e => !e.2.authorized)).length

/-- Authorized contacts. -/
def contactCount (n : Node X) : Nat := (n.chats.entries.filter (fun e => e.2.authorized)).length

end Node

/-- What one poll cycle made of the device, before it is saved. -/
structure Tick (X : Externals) where
  me : Node X
  /-- Messages arrived, or a chat's messages changed. -/
  messagesArrived : Bool
  burned : Bool
  /-- Pumping the transport or applying the harvest failed, which ends the cycle there. -/
  failed : Bool

namespace Inner

/-- Writes the full state now; a write that fails is logged. -/
def save (i : Inner X) (now : Nat) (written : Bool) : Inner X :=
  match i.persist with
  | none => i
  | some _ =>
    { i with
      file := if written then some i.me.exportState else i.file
      persist := some { lastWrite := now, pending := false } }

/-- Writes now if the last write was a window ago, and marks a pending write otherwise. -/
def saveSoon (i : Inner X) (now : Nat) (written : Bool) : Inner X :=
  match i.persist with
  | none => i
  | some p =>
    if PERSIST_DEBOUNCE ≤ now - p.lastWrite then i.save now written
    else { i with persist := some { p with pending := true } }

/-- Writes a pending save now, ignoring the window. -/
def flushPending (i : Inner X) (now : Nat) (written : Bool) : Inner X :=
  match i.persist with
  | none => i
  | some p => if p.pending then i.save now written else i

/-- Flushes a pending save once its window has elapsed. -/
def maybeFlush (i : Inner X) (now : Nat) (written : Bool) : Inner X :=
  match i.persist with
  | none => i
  | some p =>
    if p.pending ∧ PERSIST_DEBOUNCE ≤ now - p.lastWrite then i.save now written else i

/-- Whether a poll cycle reports a change, and whether it wants it written at once. -/
def reports (i : Inner X) (t : Tick X) : Option Bool :=
  if t.failed then none
  else
    let roster := t.me.pendingCount ≠ i.me.pendingCount ∨ t.me.contactCount ≠ i.me.contactCount
    if t.messagesArrived ∨ t.burned ∨ t.me.dirty ∨ roster then some (t.messagesArrived ∨ roster)
    else none

/-- The device a poll cycle leaves: one that ran through took the dirty mark. -/
def ticked (t : Tick X) : Node X := if t.failed then t.me else { t.me with dirty := false }

/-- A poll cycle under the lock: what it changed is saved now, or soon. -/
def applyTick (i : Inner X) (t : Tick X) (now : Nat) (written : Bool) : Inner X :=
  let moved := { i with me := ticked t }
  match i.reports t with
  | none => moved
  | some true => moved.save now written
  | some false => moved.saveSoon now written

end Inner

/-- What may happen to a core, one step under its lock at a time. -/
inductive SaveEvent (X : Externals) where
  /-- The device changes in any way, not yet reported. -/
  | change (me : Node X)
  | save (now : Nat) (written : Bool)
  | saveSoon (now : Nat) (written : Bool)
  /-- A poll cycle, then the flush of what is pending, which may write a second time. -/
  | tick (t : Tick X) (now : Nat) (written flushed : Bool)
  /-- Shutting down. -/
  | flushPending (now : Nat) (written : Bool)

/-- A core with the states its device went through, and how many of them were reported. -/
structure Saves (X : Externals) where
  inner : Inner X
  history : List (Node X)
  reported : Nat

namespace Saves

/-- A core as it starts, with whatever state file there is. -/
def start (me : Node X) (file : Option (PersistedState X)) (now : Nat) : Saves X where
  inner := { me := me, persist := some (Persist.new now), file := file }
  history := [me]
  reported := 0

/-- The device changes. -/
def change (w : Saves X) (me : Node X) : Saves X :=
  { w with
    inner := { w.inner with me := me }
    history := w.history ++ [me] }

/-- All that changed so far is reported. -/
def report (w : Saves X) : Saves X := { w with reported := w.history.length }

/-- One event. -/
def step (w : Saves X) : SaveEvent X → Saves X
  | .change me => w.change me
  | .save now written => { w.report with inner := w.inner.save now written }
  | .saveSoon now written => { w.report with inner := w.inner.saveSoon now written }
  | .tick t now written flushed =>
    let moved := w.change (Inner.ticked t)
    let told := if (w.inner.reports t).isSome then moved.report else moved
    { told with inner := (w.inner.applyTick t now written).maybeFlush now flushed }
  | .flushPending now written => { w with inner := w.inner.flushPending now written }

end Saves

end Nightdrop
