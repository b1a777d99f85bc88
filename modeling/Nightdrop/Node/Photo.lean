import Nightdrop.Lib.Find

/-! Scrubbing a photo: which segments of a JPEG are left out, and what a JPEG's pieces are. -/

namespace Nightdrop
namespace Photo

/-- The largest side of a picture. -/
def MAX_IMAGE_SIDE : Nat := 8192

/-- The most pixels of a picture. -/
def MAX_IMAGE_PIXELS : Nat := 40000000

/-- Whether a marker has no segment behind it. -/
def alone (marker : UInt8) : Bool := marker = 0x01 ∨ (0xD0 ≤ marker ∧ marker ≤ 0xD7)

/-- Whether a marker's segment says something about the photo rather than how to draw it. -/
def metadata (marker : UInt8) : Bool := (0xE1 ≤ marker ∧ marker ≤ 0xED) ∨ marker = 0xEF ∨ marker = 0xFE

/-- The marker that leads some bytes, behind any number of fill bytes, and what follows it. -/
def takeMarker : Bytes → Option (UInt8 × Bytes)
  | 0xFF :: more =>
    match more.dropWhile (· = 0xFF) with
    | marker :: after => some (marker, after)
    | [] => none
  | _ => none

/-- The length two bytes say. -/
def be16 (hi lo : UInt8) : Nat := hi.toNat * 256 + lo.toNat

/-- The segment whose length leads some bytes, that length included, and what follows it. -/
def takeSegment : Bytes → Option (Bytes × Bytes)
  | hi :: lo :: more =>
    if be16 hi lo ≤ (hi :: lo :: more).length
    then some ((hi :: lo :: more).take (be16 hi lo), (hi :: lo :: more).drop (be16 hi lo)) else none
  | _ => none

/-- The size and the number of components a frame header says. -/
def frameOf (seg : Bytes) : Option (Nat × Nat × UInt8) :=
  match seg.drop 2 with
  | _ :: h1 :: h0 :: w1 :: w0 :: comps :: _ => some (be16 w1 w0, be16 h1 h0, comps)
  | _ => none

/-- Whether a marker begins a frame of a coding that is drawn. -/
def drawn (marker : UInt8) : Bool := 0xC0 ≤ marker ∧ marker ≤ 0xC2

/-- Whether a marker begins a frame of another coding. -/
def otherFrame (marker : UInt8) : Bool :=
  marker = 0xC3 ∨ (0xC5 ≤ marker ∧ marker ≤ 0xC7) ∨ (0xC9 ≤ marker ∧ marker ≤ 0xCB)
    ∨ (0xCD ≤ marker ∧ marker ≤ 0xCF)

/-- The walk over the segments before the frame header. -/
def jpegFrame.loop : Nat → Bytes → Option (Nat × Nat × UInt8)
  | 0, _ => none
  | fuel + 1, rest =>
    match takeMarker rest with
    | none => none
    | some (marker, after) =>
      if alone marker then loop fuel after
      else if 0xD8 ≤ marker ∧ marker ≤ 0xDA then none
      else match takeSegment after with
      | none => none
      | some (seg, next) =>
        if seg.length < 2 then none
        else if drawn marker then frameOf seg
        else if otherFrame marker then none
        else loop fuel next

/-- Width, height and components from the frame header of a JPEG. -/
def jpegFrame (data : Bytes) : Option (Nat × Nat × UInt8) :=
  match data with
  | 0xFF :: 0xD8 :: rest => jpegFrame.loop (rest.length + 1) rest
  | _ => none

/-- Whether the app may draw the picture. -/
def displayableImage (data : Bytes) : Bool :=
  match jpegFrame data with
  | some (w, h, comps) =>
    1 ≤ w ∧ w ≤ MAX_IMAGE_SIDE ∧ 1 ≤ h ∧ h ≤ MAX_IMAGE_SIDE ∧ w * h ≤ MAX_IMAGE_PIXELS ∧ (comps = 1 ∨ comps = 3)
  | none => false

/-- The two bytes that end an image. -/
def EOI : Bytes := [0xFF, 0xD9]

/-- Some bytes up to the first end of image in them. -/
def copyToEoi (rest : Bytes) : Bytes :=
  match findBytes EOI rest with
  | some i => rest.take (i + 2)
  | none => rest

/-- The walk over the segments before the first scan, and that scan's copy. -/
def scrubJpeg.loop : Nat → Bytes → Option Bytes
  | 0, _ => none
  | fuel + 1, rest =>
    match takeMarker rest with
    | none => none
    | some (marker, after) =>
      if alone marker then (loop fuel after).map (0xFF :: marker :: ·)
      else if marker = 0xDA then some (0xFF :: marker :: copyToEoi after)
      else match takeSegment after with
      | none => none
      | some (seg, next) =>
        (loop fuel next).map fun out => if metadata marker then out else 0xFF :: marker :: (seg ++ out)

/-- A photo without its metadata segments; `none` if it is not a JPEG that can be sent. -/
def scrubJpeg (data : Bytes) : Option Bytes :=
  if displayableImage data then (scrubJpeg.loop (data.length + 1) (data.drop 2)).map (0xFF :: 0xD8 :: ·) else none

/-- A piece of a JPEG, with how many fill bytes lead it. -/
inductive Piece where
  /-- A byte of entropy-coded data. -/
  | data (byte : UInt8)
  /-- Fill bytes that nothing follows. -/
  | fill (fills : Nat)
  /-- A stuffed byte, a marker that stands alone, or the end of the image. -/
  | mark (fills : Nat) (marker : UInt8)
  | segment (fills : Nat) (marker : UInt8) (seg : Bytes)

/-- The bytes of a piece. -/
def Piece.bytes : Piece → Bytes
  | .data byte => [byte]
  | .fill fills => List.replicate (fills + 1) 0xFF
  | .mark fills marker => List.replicate (fills + 1) 0xFF ++ [marker]
  | .segment fills marker seg => List.replicate (fills + 1) 0xFF ++ marker :: seg

/-- Whether a piece is no metadata. -/
def Piece.stays : Piece → Bool
  | .segment _ marker _ => !metadata marker
  | _ => true

/-- The segment that leads some bytes, cut short where they end, and what follows it. -/
def cutSegment : Bytes → Bytes × Bytes
  | hi :: lo :: more =>
    ((hi :: lo :: more).take (max 2 (be16 hi lo)), (hi :: lo :: more).drop (max 2 (be16 hi lo)))
  | short => (short, [])

/-- The pieces of some bytes, up to the end of the image. -/
def pieces : Nat → Bytes → List Piece
  | 0, _ => []
  | _ + 1, [] => []
  | fuel + 1, b :: rest =>
    if b ≠ 0xFF then .data b :: pieces fuel rest
    else match rest.dropWhile (· = 0xFF) with
    | [] => [.fill rest.length]
    | marker :: after =>
      let fills := (rest.takeWhile (· = 0xFF)).length
      if marker = 0xD9 then [.mark fills marker]
      else if marker = 0 ∨ alone marker then .mark fills marker :: pieces fuel after
      else .segment fills marker (cutSegment after).1 :: pieces fuel (cutSegment after).2

/-- The bytes of some pieces. -/
def bytesOf (ps : List Piece) : Bytes := ps.flatMap Piece.bytes

/-- The pieces before the first scan, and the bytes from that scan's marker on. -/
def headPieces : Nat → Bytes → Option (List Piece × Bytes)
  | 0, _ => none
  | fuel + 1, rest =>
    match takeMarker rest with
    | none => none
    | some (marker, after) =>
      if alone marker then (headPieces fuel after).map fun out => (.mark 0 marker :: out.1, out.2)
      else if marker = 0xDA then some ([], 0xFF :: marker :: after)
      else match takeSegment after with
      | none => none
      | some (seg, next) => (headPieces fuel next).map fun out => (.segment 0 marker seg :: out.1, out.2)

/-- The pieces of a photo from its first scan on. -/
def scanPieces (scan : Bytes) : List Piece := pieces (scan.length + 1) scan

/-- A photo as it should be sent: all its pieces up to the end of the image but the metadata. -/
def tidied (head : List Piece) (scan : Bytes) : Bytes :=
  0xFF :: 0xD8 :: (bytesOf (head.filter Piece.stays) ++ bytesOf ((scanPieces scan).filter Piece.stays))

/-- Whether a photo, if it is accepted, is scrubbed of metadata only, keeps its frame, and is then left as it is. -/
def PhotoRight (data : Bytes) : Prop :=
  ∀ out head scan, scrubJpeg data = some out → headPieces (data.length + 1) (data.drop 2) = some (head, scan) →
    out = tidied head scan ∧ jpegFrame out = jpegFrame data ∧ scrubJpeg out = some out

/-- Where the first end-of-image pair of some bytes ends, or where they end without one. -/
def firstEnd (scan : Bytes) : Nat := ((findBytes EOI scan).map (· + 2)).getD scan.length

/-- Whether only metadata follows a scan's pieces that are none, and its first end-of-image pair is where it begins. -/
def CleanScan (scan : Bytes) : Prop :=
  ∃ copied dropped, scanPieces scan = copied ++ dropped ∧ (∀ p ∈ copied, p.stays = true)
    ∧ (∀ p ∈ dropped, p.stays = false) ∧ (bytesOf copied).length = firstEnd scan

end Photo
end Nightdrop
