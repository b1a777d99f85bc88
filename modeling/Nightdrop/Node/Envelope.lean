import Nightdrop.Lib.Codec
import Nightdrop.Node.Attach
import Nightdrop.Node.Route
import Nightdrop.Node.Wire

/-! The envelopes inside sealed frames, with all their fields, and the blobs of an invite's rendezvous. -/

namespace Nightdrop

/-- Mime types an image may carry. -/
def IMAGE_MIMES : List String := ["image/jpeg", "image/png", "image/gif", "image/webp", "image/heic"]

/-- Mime types a video may carry. -/
def VIDEO_MIMES : List String :=
  ["video/mp4", "video/quicktime", "video/webm", "video/x-matroska", "video/x-msvideo", "video/x-m4v", "video/3gpp",
    "video/octet-stream"]

/-- A text in small letters, of those that are ASCII. -/
def asciiLower (text : String) : String := String.ofList (text.toList.map Char.toLower)

/-- A received attachment's kind and mime: an unknown kind is an image, an unknown mime the kind's neutral one. -/
def sanitize (kind mime : String) : String × String :=
  let (kind, allowed, fallback) :=
    if kind = "video" then ("video", VIDEO_MIMES, "video/octet-stream") else ("image", IMAGE_MIMES, "image/jpeg")
  let mime := asciiLower (trimText mime)
  (kind, if mime ∈ allowed then mime else fallback)

namespace Envelopes

/-- What a `Media` envelope says of its data. -/
structure Head where
  transferId : String
  kind : String
  mime : String
deriving DecidableEq, Repr

/-- The fields that lead an attachment's envelope. -/
def packHead (head : Head) : Bytes :=
  putField (utf8 head.transferId) ++ putField (utf8 head.kind) ++ putField (utf8 head.mime)

/-- The fields that lead an attachment's envelope, and what follows them. -/
def unpackHead (buf : Bytes) : Except String (Head × Bytes) := do
  let (transferId, rest) ← takeText buf
  if !saneId transferId then throw "bad transfer id"
  let (kind, rest) ← takeText rest
  let (mime, rest) ← takeText rest
  let (kind, mime) := sanitize kind mime
  return (⟨transferId, kind, mime⟩, rest)

/-- A `Media` envelope: the transfer id, kind and mime, then the data. -/
def media : Codec (Head × Bytes) where
  pack v := packHead v.1 ++ v.2
  unpack buf := (unpackHead buf).toOption
  size v := v.1.transferId.utf8ByteSize + v.2.length

def unpackBurnMedia (buf : Bytes) : Except String (Nat × Head × Bytes) := do
  let (secs, rest) ← takeText buf
  let (head, data) ← unpackHead rest
  return ((parseDecimal U64_MAX secs).getD 0, head, data)

/-- A `BurnMedia` envelope: the timer in decimal, then as a `Media` envelope. -/
def burnMedia : Codec (Nat × Head × Bytes) where
  pack v := putField (decimal v.1) ++ (packHead v.2.1 ++ v.2.2)
  unpack buf := (unpackBurnMedia buf).toOption
  size v := v.2.1.transferId.utf8ByteSize + v.2.2.length

def unpackIncoming (buf : Bytes) : Except String (Head × Nat × Bytes) := do
  let (head, rest) ← unpackHead buf
  if rest.length < 8 then throw "corrupt media-incoming envelope"
  return (head, ofBigEndian (rest.take 8), rest.drop 8)

/-- A `MediaIncoming` envelope: the fields, the size in eight bytes, then the preview. -/
def incoming : Codec (Head × Nat × Bytes) where
  pack v := packHead v.1 ++ (bigEndian 8 v.2.1 ++ v.2.2)
  unpack buf := (unpackIncoming buf).toOption
  size v := v.1.transferId.utf8ByteSize + v.2.2.length

/-- An `Edit` envelope. -/
def edit : Codec (String × String) where
  pack v := packEdit v.1 v.2
  unpack := unpackEdit
  size v := v.1.utf8ByteSize + v.2.utf8ByteSize

/-- A `Burn` envelope. -/
def burn : Codec (Nat × String) where
  pack v := packBurn v.1 v.2
  unpack := unpackBurn
  size v := v.2.utf8ByteSize

/-- An `Unsend` envelope. -/
def unsend : Codec String where
  pack := packUnsend
  unpack := unpackUnsend
  size v := v.utf8ByteSize

/-- The joiner's opener: two fields. -/
def twoFields : Codec (Bytes × Bytes) where
  pack v := putField v.1 ++ putField v.2
  unpack blob := do
    let (a, rest) ← takeField blob
    let (b, _) ← takeField rest
    return (a, b)
  size v := v.1.length + v.2.length

/-- The inviter's answer: three fields. -/
def threeFields : Codec (Bytes × Bytes × Bytes) where
  pack v := putField v.1 ++ (putField v.2.1 ++ putField v.2.2)
  unpack blob := do
    let (a, rest) ← takeField blob
    let (b, rest) ← takeField rest
    let (c, _) ← takeField rest
    return (a, b, c)
  size v := v.1.length + v.2.1.length + v.2.2.length

/-- Whether a sender may send these fields: a sane id, and a kind and mime that are normal already. -/
def Head.Within (head : Head) : Prop :=
  saneId head.transferId = true ∧ sanitize head.kind head.mime = (head.kind, head.mime)

/-- Whether a text is as long as one may be. -/
def Fits (text : String) : Prop := text.utf8ByteSize ≤ MAX_TEXT_BYTES

/-- Whether bytes are a field's. -/
def IsField (bytes : Bytes) : Prop := bytes.length < 2 ^ 32

/-- Every codec is faithful within the senders' limits; a text that had to be cut is not packed again as it is. -/
structure AllFaithful : Prop where
  media : media.Faithful (fun v => v.1.Within) fun _ => True
  burnMedia : burnMedia.Faithful (fun v => v.1 ≤ U64_MAX ∧ v.2.1.Within) fun _ => True
  incoming : incoming.Faithful (fun v => v.1.Within ∧ v.2.1 < 256 ^ 8) fun _ => True
  edit : edit.Faithful (fun v => v.1.utf8ByteSize < 2 ^ 32 ∧ Fits v.2) fun v => Fits v.2
  burn : burn.Faithful (fun v => v.1 ≤ U64_MAX ∧ Fits v.2) fun v => Fits v.2
  unsend : unsend.Faithful (fun _ => True) fun _ => True
  twoFields : twoFields.Faithful (fun v => IsField v.1 ∧ IsField v.2) fun _ => True
  threeFields : threeFields.Faithful (fun v => IsField v.1 ∧ IsField v.2.1 ∧ IsField v.2.2) fun _ => True

end Envelopes
end Nightdrop
