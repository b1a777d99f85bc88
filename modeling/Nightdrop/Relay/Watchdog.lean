import Mathlib.Data.List.Basic

/-! The relay's watchdog: what one cycle observed, how long each signal has been bad, the verdict. -/

namespace Nightdrop.Watchdog

/-- One second, in the nanoseconds that instants are counted in since the relay started. -/
def SECOND : Nat := 1000000000

/-- How long the onion is dark before the relay restarts. -/
def WATCHDOG_MAX_DARK : Nat := 15 * 60 * SECOND

/-- The whole seconds of a duration. -/
def asSecs (duration : Nat) : Nat := duration / SECOND

/-- How long each watchdog signal has been continuously bad, one clock for each. -/
structure DarkClocks where
  /-- Since when the descriptor has been missing from one of the two HsDir rings. -/
  publisher : Option Nat := none
  /-- Since when the end-to-end self-dial has been failing. -/
  dial : Option Nat := none
deriving DecidableEq, Repr

namespace DarkClocks

/-- Starts each clock when its own signal first goes bad, and stops it once that signal is good. -/
def observe (clocks : DarkClocks) (publisherDark dialFailed : Bool) (now : Nat) : DarkClocks where
  publisher := if publisherDark then some (clocks.publisher.getD now) else none
  dial := if dialFailed then some (clocks.dial.getD now) else none

/-- How long the outage being judged has lasted. -/
def darkFor (clocks : DarkClocks) (publisherDark : Bool) (now : Nat) : Nat :=
  ((if publisherDark then clocks.publisher else clocks.dial).map (now - ·)).getD 0

/-- Spends a veto against only what it is entitled to explain. -/
def excuse (clocks : DarkClocks) (clientUnusable : Bool) : DarkClocks where
  dial := none
  publisher := if clientUnusable then none else clocks.publisher

end DarkClocks

/-- What one watchdog cycle observed. -/
structure Cycle where
  dialFailed : Bool
  /-- The descriptor is on one of the two HsDir rings and not on the other. -/
  publisherDark : Bool
  /-- A client's stream was served after this dark spell began. -/
  servedSinceDark : Bool
  /-- Why our own Tor client cannot work, if it cannot. -/
  clientUnusable : Option String
  darkFor : Nat
deriving DecidableEq, Repr

/-- What to do about a cycle. -/
inductive Verdict where
  | healthy
  /-- The probe failed for a reason that is not the onion being dark. -/
  | inconclusive (why : String)
  /-- The onion looks dark, but not yet for long enough. -/
  | dark (why : String)
  /-- Sustained darkness: exit, and be started again. -/
  | restart (why : String)
deriving DecidableEq, Repr

def CLIENT_UNUSABLE : String := "our own Tor client is unusable"

def RING_MISSING : String := "the descriptor is missing from one of the two HsDir rings"

def STILL_SERVED : String := "clients are still being served"

def DIAL_FAILED : String := "the self-dial could not reach this relay"

namespace Cycle

/-- Darkness is acted on only once it has lasted. -/
def escalate (cycle : Cycle) (why : String) : Verdict :=
  if cycle.darkFor < WATCHDOG_MAX_DARK then .dark why else .restart why

/-- What a cycle comes to. A veto is spent only against a signal it explains, in this order. -/
def verdict (cycle : Cycle) : Verdict :=
  if !cycle.dialFailed && !cycle.publisherDark then .healthy
  else if cycle.clientUnusable.isSome then .inconclusive CLIENT_UNUSABLE
  else if cycle.publisherDark then cycle.escalate RING_MISSING
  else if cycle.servedSinceDark then .inconclusive STILL_SERVED
  else cycle.escalate DIAL_FAILED

end Cycle

/-- What one cycle of the loop reads: the probe, the publisher, the client, and the time of both. -/
structure Observation where
  dialFailed : Bool
  publisherDark : Bool
  /-- The second since the relay started at which a stream was last served. -/
  lastServed : Nat
  clientUnusable : Option String
  now : Nat
deriving DecidableEq, Repr

/-- The cycle an observation makes, with the clocks that already took it in. -/
def DarkClocks.cycle (clocks : DarkClocks) (seen : Observation) : Cycle where
  dialFailed := seen.dialFailed
  publisherDark := seen.publisherDark
  servedSinceDark := asSecs (clocks.dial.getD seen.now) < seen.lastServed
  clientUnusable := seen.clientUnusable
  darkFor := clocks.darkFor seen.publisherDark seen.now

/-- The clocks after a verdict: a good one stops both, and a veto those it explains. -/
def DarkClocks.settle (clocks : DarkClocks) (seen : Observation) : Verdict → DarkClocks
  | .healthy => {}
  | .inconclusive _ => clocks.excuse seen.clientUnusable.isSome
  | .dark _ | .restart _ => clocks

/-- One turn of the loop: its verdict, and the clocks it leaves. -/
def DarkClocks.turn (clocks : DarkClocks) (seen : Observation) : Verdict × DarkClocks :=
  let clocks := clocks.observe seen.publisherDark seen.dialFailed seen.now
  let verdict := (clocks.cycle seen).verdict
  (verdict, clocks.settle seen verdict)

/-- Whether a verdict ends the process. -/
def Verdict.isRestart : Verdict → Bool
  | .restart _ => true
  | _ => false

/-- The loop over what its cycles observe, with the verdict of each; a restart is the last one. -/
def watch : DarkClocks → List Observation → List (Observation × Verdict)
  | _, [] => []
  | clocks, seen :: rest =>
    let turned := clocks.turn seen
    (seen, turned.1) :: if turned.1.isRestart then [] else watch turned.2 rest

end Nightdrop.Watchdog
