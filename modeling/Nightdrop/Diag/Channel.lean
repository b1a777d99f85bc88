import Nightdrop.Lib.KeyedMap
import Nightdrop.Lib.Marks
import Nightdrop.Node.Route

/-! The diagnostics channel: what is taken out of a line, how many lines of a shape pass, and the time in front of them. -/

namespace Nightdrop
namespace Diag

def ONION : List Char := ['.', 'o', 'n', 'i', 'o', 'n']

/-- The argument that bridge lines carry for the listener. -/
def LISTENER_SECRET_ARG : List Char := "listener-secret=".toList

def REDACTED : List Char := "<redacted>".toList

/-- A character of an onion label. -/
def isBase32 (c : Char) : Bool := ('a' ≤ c ∧ c ≤ 'z') ∨ ('2' ≤ c ∧ c ≤ '7')

/-- The scan: what is written so far, from which a label is dropped once its suffix is met. -/
def redactOnions.loop (out : List Char) : List Char → List Char
  | [] => out
  -- A suffix takes the label with it that was written just before.
  | '.' :: 'o' :: 'n' :: 'i' :: 'o' :: 'n' :: rest => loop (out.rdropWhile isBase32 ++ "<onion>".toList) rest
  | c :: rest => loop (out ++ [c]) rest

/-- Replaces any onion label by a mark. -/
def redactOnions (s : List Char) : List Char := if around ONION s = none then s else redactOnions.loop [] s

/-- A space, a quote, a bracket or a comma: what ends a value. -/
def endsValue (c : Char) : Bool := isSpace c ∨ c.toNat ∈ [0x22, 0x27, 0x29, 0x2C, 0x5D]

/-- The text behind each argument, in so many steps. -/
def redactListenerSecret.loop : Nat → List Char → List Char
  | 0, rest => rest
  | steps + 1, rest =>
    match around LISTENER_SECRET_ARG rest with
    | none => rest
    | some (before, value) =>
      -- The value is dropped, and the text behind it searched on.
      before ++ LISTENER_SECRET_ARG ++ REDACTED ++ loop steps (value.dropWhile fun c => !endsValue c)

/-- Replaces the value of every listener secret. -/
def redactListenerSecret (s : List Char) : List Char := redactListenerSecret.loop s.length s

/-- Everything that the channel must never print, removed in one place. -/
def redact (s : List Char) : List Char := redactListenerSecret (redactOnions s)

/-- One shape's events since the first of them. -/
structure Window where
  start : Nat
  passed : Nat
  dropped : Nat

/-- What is said of a window that closed with events dropped. -/
structure Summary where
  shape : List Char
  dropped : Nat
  passed : Nat
  window : Nat

/-- A budget of `burst` events of each shape in each window, which starts at the shape's first event. -/
structure RateLimiter where
  burst : Nat
  window : Nat
  shapes : KeyedMap (List Char) Window

def TOR_BURST : Nat := 100
def TOR_WINDOW : Nat := 60000

def RateLimiter.new (burst window : Nat) : RateLimiter := ⟨burst, window, ∅⟩

/-- A word's place in a shape: a mark, if a digit is in it. -/
def flushed (word : List Char) : List Char := if word.any Char.isDigit then ['#'] else word

/-- The words of a line, as its shape has them: the word being read, and the rest of the line. -/
def shapeWords (word : List Char) : List Char → List Char
  | [] => flushed word
  | c :: rest =>
    if c.isAlphanum ∨ c = '_' then shapeWords (word ++ [c]) rest
    -- A character between words ends one, and is kept.
    else flushed word ++ c :: shapeWords [] rest

/-- A line without the timestamp that leads it. -/
def shapeBody (line : List Char) : List Char :=
  match around [' '] line with
  -- A first word that begins with a digit is a timestamp.
  | some (first, rest) => if (first.head?.map Char.isDigit).getD false then rest else line
  | none => line

/-- What makes two lines the same message. -/
def eventShape (line : List Char) : List Char :=
  (shapeWords [] (trimText (String.ofList (shapeBody line))).toList).take 120

/-- Whether a window that began at `start` is open still. -/
def stillOpen (window now : Nat) (w : Window) : Bool := now - w.start < window

/-- Forgets the windows that closed, and says so of those that dropped anything. -/
def RateLimiter.retain (l : RateLimiter) (now : Nat) : List Summary × KeyedMap (List Char) Window :=
  (l.shapes.entries.filterMap fun e =>
      if !stillOpen l.window now e.2 ∧ 0 < e.2.dropped then some ⟨e.1, e.2.dropped, e.2.passed, l.window⟩ else none,
    l.shapes.mapMaybe fun _ w => if stillOpen l.window now w then some w else none)

/-- Counts one event into its window, and says whether it passes. -/
def Window.count (burst : Nat) (w : Window) : Bool × Window :=
  if w.passed < burst then (true, { w with passed := w.passed + 1 }) else (false, { w with dropped := w.dropped + 1 })

/-- Whether to log this event, and what to say of the windows that just closed. -/
def RateLimiter.check (l : RateLimiter) (line : List Char) (now : Nat) : Bool × List Summary × RateLimiter :=
  let (summaries, shapes) := l.retain now
  -- Windows that closed are gone by now, so the event may open a new one.
  let counted := ((shapes.lookup (eventShape line)).getD ⟨now, 0, 0⟩).count l.burst
  (counted.1, summaries, { l with shapes := shapes.insert (eventShape line) counted.2 })

/-- The line that a summary is printed as. -/
def Summary.text (s : Summary) : List Char :=
  "rate limit: dropped ".toList ++ (toString s.dropped).toList ++ " more lines like \"".toList ++ s.shape
    ++ "\" (over ".toList ++ (toString s.passed).toList ++ " in ".toList ++ (toString (s.window / 1000)).toList ++ "s)".toList

/-- Whether an event is logged, after what the summaries print. -/
def admitTorEvent (limiter : Option RateLimiter) (firstLine : List Char) (now : Nat) :
    Bool × List (List Char) × RateLimiter :=
  let checked := (limiter.getD (.new TOR_BURST TOR_WINDOW)).check firstLine now
  (checked.1, checked.2.1.map fun s => redact s.text, checked.2.2)

/-- A day of the calendar. -/
structure Date where
  year : Nat
  month : Nat
  day : Nat
deriving DecidableEq

/-- The date of a day, counted from the first of January 1970. -/
def civil (days : Nat) : Date :=
  -- Years count from March in eras of 400, so that the leap day comes last.
  let z := days + 719468
  let era := z / 146097
  let doe := z % 146097
  let yoe := (doe - doe / 1460 + doe / 36524 - doe / 146096) / 365
  let doy := doe - (365 * yoe + yoe / 4 - yoe / 100)
  let mp := (5 * doy + 2) / 153
  let month := if mp < 10 then mp + 3 else mp - 9
  ⟨yoe + era * 400 + (if month ≤ 2 then 1 else 0), month, doy - (153 * mp + 2) / 5 + 1⟩

/-- A number in at least so many digits. -/
def padded (width n : Nat) : List Char :=
  List.replicate (width - (Nat.toDigits 10 n).length) '0' ++ Nat.toDigits 10 n

/-- The time so many milliseconds after the start of 1970. -/
def utcTimestamp (millis : Nat) : List Char :=
  let secs := millis / 1000
  let rem := secs % 86400
  let date := civil (secs / 86400)
  padded 4 date.year ++ '-' :: padded 2 date.month ++ '-' :: padded 2 date.day ++ 'T' :: padded 2 (rem / 3600)
    ++ ':' :: padded 2 (rem / 60 % 60) ++ ':' :: padded 2 (rem % 60) ++ '.' :: padded 3 (millis % 1000) ++ ['Z']

end Diag
end Nightdrop
