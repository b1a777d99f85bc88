import Nightdrop.Lib.Text

/-! Bounds on what a contact's frames may carry, and how many of them a day. -/

namespace Nightdrop

/-- Longest message text kept, in bytes. -/
def MAX_TEXT_BYTES : Nat := 64 * 1024

/-- Longest id a contact may name. -/
def MAX_ID_BYTES : Nat := 128

/-- Longest peer address kept. -/
def MAX_ADDRESS_BYTES : Nat := 128

/-- Messages one contact may add to this device in a rolling day. -/
def MAX_MESSAGES_PER_DAY : Nat := 5000

/-- Attachment bytes one contact may add to this device in a rolling day. -/
def MAX_MEDIA_BYTES_PER_DAY : Nat := 1024 * 1024 * 1024

def DAY_SECS : Nat := 24 * 60 * 60

/-- One contact's use of the daily allowance. -/
structure Allowance where
  windowStart : Nat := 0
  messages : Nat := 0
  mediaBytes : Nat := 0
  noticed : Bool := false
deriving DecidableEq, Repr

/-- What `Allowance.admit` decided. -/
inductive Admit where
  /-- Keep it. -/
  | yes
  /-- Over the allowance: drop it, and show the one notice for this window. -/
  | dropAndNotice
  /-- Over the allowance, notice already shown: drop it quietly. -/
  | drop
deriving DecidableEq, Repr

/-- The window in force at `now`: a fresh one once the day is over, or the clock moved back. -/
def Allowance.current (a : Allowance) (now : Nat) : Allowance :=
  if now < a.windowStart ∨ a.windowStart + DAY_SECS ≤ now then { windowStart := now } else a

/-- Count one received message carrying `media` bytes of attachment at `now`. -/
def Allowance.admit (a : Allowance) (now media : Nat) : Allowance × Admit :=
  let a := a.current now
  if MAX_MESSAGES_PER_DAY ≤ a.messages ∨ MAX_MEDIA_BYTES_PER_DAY < a.mediaBytes + media then
    if a.noticed then (a, .drop) else ({ a with noticed := true }, .dropAndNotice)
  else
    ({ a with messages := a.messages + 1, mediaBytes := a.mediaBytes + media }, .yes)

/-- The notice a chat shows once when its contact runs past the daily allowance. -/
def OVER_ALLOWANCE_NOTICE : String :=
  "This contact has sent more than Night Drop keeps in a day. Further messages from them are " ++
    "being dropped until tomorrow."

/-- The longest run of leading characters that fits in `room` bytes. -/
def takeBytes (room : Nat) : List Char → List Char
  | [] => []
  | c :: rest => if c.utf8Size ≤ room then c :: takeBytes (room - c.utf8Size) rest else []

/-- A received text, cut at a character boundary and marked if it was cut. -/
def clampText (text : String) : String :=
  if text.utf8ByteSize ≤ MAX_TEXT_BYTES then text
  else String.ofList (takeBytes MAX_TEXT_BYTES text.toList) ++ " […]"

/-- Whether `c` is printable ASCII other than the space. -/
def asciiGraphic (c : Char) : Bool := 0x21 ≤ c.toNat ∧ c.toNat ≤ 0x7e

/-- Whether `id` can be a message or transfer id. -/
def saneId (id : String) : Bool :=
  (1 ≤ id.utf8ByteSize ∧ id.utf8ByteSize ≤ MAX_ID_BYTES) && id.toList.all asciiGraphic

/-- Whether `addr` can be a peer address. -/
def saneAddress (addr : String) : Bool :=
  (1 ≤ addr.utf8ByteSize ∧ addr.utf8ByteSize ≤ MAX_ADDRESS_BYTES)
    && addr.toList.all
      (fun c => (c.isAlphanum && c.toNat < 0x80) || c ∈ ['.', ':', '-', '_'])

example : saneId "AbC-_123" = true := by decide +kernel

/-- A text within the limit is kept as it is. -/
theorem clampText_of_le {text : String} (fits : text.utf8ByteSize ≤ MAX_TEXT_BYTES) :
    clampText text = text := if_pos fits

/-- No id that is kept is empty. -/
theorem saneId_ne_empty {id : String} (sane : saneId id = true) : id ≠ "" := by
  rintro rfl
  exact absurd sane (by decide +kernel)

end Nightdrop
