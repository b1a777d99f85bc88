import Nightdrop.Lib.Synchronizing
import Nightdrop.Node.Route
import Nightdrop.Node.Limits

/-! What a cleaned name and a cut text may hold, and the cut as it is made in the bytes. -/

namespace Nightdrop
namespace Names

/-- A control character. -/
def isControl (c : Char) : Bool := c.toNat < 0x20 ∨ (0x7F ≤ c.toNat ∧ c.toNat ≤ 0x9F)

/-- A character that changes the direction of the text around it. -/
def isBidi (c : Char) : Bool :=
  c.toNat ∈ [0x61C, 0x200E, 0x200F] ∨ (0x202A ≤ c.toNat ∧ c.toNat ≤ 0x202E) ∨ (0x2066 ≤ c.toNat ∧ c.toNat ≤ 0x2069)

/-- A character without a width: the zero-width space, non-joiner and joiner, the word joiner and the byte order mark. -/
def isZeroWidth (c : Char) : Bool := c.toNat ∈ [0x200B, 0x200C, 0x200D, 0x2060, 0xFEFF]

/-- What a name may be shown as. -/
structure Shown (name : List Char) : Prop where
  some : name ≠ []
  short : name.length ≤ MAX_NAME_CHARS
  control : ∀ c ∈ name, isControl c = false
  bidi : ∀ c ∈ name, isBidi c = false
  visible : ∀ c ∈ name, invisible c = false
  spaces : ∀ c ∈ name, isSpace c = true → c = ' '
  single : name.IsChain fun a b => ¬ (a = ' ' ∧ b = ' ')
  front : name.head? ≠ .some ' '
  back : name.getLast? ≠ .some ' '

/-- The characters of a name that can be seen. -/
def letters (raw : List Char) : List Char := raw.filter fun c => !invisible c && !isSpace c

/-- Whether a name is cleaned as it should be. -/
structure Cleaned (raw : String) : Prop where
  shown : Shown (cleanDisplayName raw).toList
  again : cleanDisplayName (cleanDisplayName raw) = cleanDisplayName raw
  leading : letters raw.toList ≠ [] → letters (cleanDisplayName raw).toList <+: letters raw.toList
  default : letters raw.toList = [] → cleanDisplayName raw = DEFAULT_NAME

/-- Whether a text may be cut at the byte `i`. -/
def isCharBoundary (text : String) (i : Nat) : Bool := Synchronizing.boundary continues (utf8 text) i

/-- Where a long text is cut: the last character boundary within the limit. -/
def clampEnd (text : String) : Nat := Synchronizing.floorBoundary continues (utf8 text) MAX_TEXT_BYTES

/-- The bytes of a received text, cut and marked if it is too long. -/
def clampBytes (text : String) : Bytes :=
  if (utf8 text).length ≤ MAX_TEXT_BYTES then utf8 text
  else (utf8 text).take (clampEnd text) ++ utf8 " […]"

/-- Whether a text is cut between characters. -/
structure Clamped (text : String) : Prop where
  boundary : isCharBoundary text (clampEnd text) = true
  within : clampEnd text ≤ MAX_TEXT_BYTES
  whole : MAX_TEXT_BYTES < text.utf8ByteSize → ∃ kept, kept <+: text.toList
    ∧ (utf8 text).take (clampEnd text) = utf8 (String.ofList kept)
  bytes : clampBytes text = utf8 (clampText text)

end Names
end Nightdrop
