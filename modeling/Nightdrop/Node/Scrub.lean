import Nightdrop.Node.Movie

/-! What a video says of where, when and on what it was recorded is turned into padding where it stands. -/

namespace Nightdrop
namespace Scrub

open Movie (slice)

/-- Why a file is not scrubbed: an index outside of it, or a refusal in so many words. -/
inductive Failure where
  | outOfRange
  | refused (why : String)
deriving DecidableEq

/-- What was done: metadata turned into padding, and times zeroed. -/
structure Scrubbed where
  blanked : Nat
  times : Nat
deriving DecidableEq

def NOT_CLEANABLE : String := "not a video this app can clean"
def UNREADABLE : String := "the video's header could not be read"

/-- A file under way, with what was done to it. -/
abbrev Work := Bytes × Scrubbed

def Work.blank (data : Bytes) (done : Scrubbed) : Work := (data, { done with blanked := done.blanked + 1 })

/-- Zeros from `first` up to `last`. -/
def fill (data : Bytes) (first last : Nat) : Except Failure Bytes :=
  if first ≤ last ∧ last ≤ data.length then
    .ok (data.take first ++ (List.replicate (last - first) 0 ++ data.drop last))
  else .error .outOfRange

/-- Other bytes from `first` on, as many as they replace. -/
def overwrite (data : Bytes) (first : Nat) (bytes : Bytes) : Except Failure Bytes :=
  if first + bytes.length ≤ data.length then
    .ok (data.take first ++ (bytes ++ data.drop (first + bytes.length)))
  else .error .outOfRange

/-- A box: its type, where it starts, where its body starts, where it ends. -/
structure IsoBox where
  kind : Bytes
  start : Nat
  body : Nat
  finish : Nat
deriving DecidableEq

/-- How long the header of the box at `p` is, and the whole box. -/
def isoSize (data head : Bytes) (p last : Nat) : Option (Nat × Nat) :=
  -- Size 0 runs to the end of what the box stands in; size 1 puts 64 bits of size behind the type.
  if ofBigEndian (head.take 4) = 0 then some (8, last - p)
  else if ofBigEndian (head.take 4) = 1 then (slice data (p + 8) (p + 16)).map fun b => (16, ofBigEndian b)
  else some (8, ofBigEndian (head.take 4))

def isoBoxesFrom : Nat → Bytes → Nat → Nat → List IsoBox × Bool
  | 0, _, p, last => ([], decide (last ≤ p))
  | steps + 1, data, p, last =>
    if last ≤ p then ([], true)
    else match slice data p (p + 8) with
    | none => ([], false)
    | some head =>
      match isoSize data head p last with
      | none => ([], false)
      | some (header, size) =>
        -- A size that does not fit ends the walk, and the boxes do not fill the range.
        if size < header ∨ last - p < size then ([], false)
        else
          let more := isoBoxesFrom steps data (p + size) last
          (⟨head.drop 4, p, p + header, p + size⟩ :: more.1, more.2)

/-- The boxes from `first` up to `last`, and whether they fill it: it stops at the first size that does not fit. -/
def isoBoxes (data : Bytes) (first last : Nat) : List IsoBox × Bool := isoBoxesFrom (last - first) data first last

/-- Boxes that only describe the recording. -/
def ISO_METADATA : List Bytes := [utf8 "udta", utf8 "meta", utf8 "uuid", utf8 "XMP_"]

/-- Turns a box into padding of its size: the size field stays, only the type changes. -/
def blankIso (work : Work) (b : IsoBox) : Except Failure Work := do
  let data ← overwrite work.1 (b.start + 4) (utf8 "free")
  let data ← fill data b.body b.finish
  return Work.blank data work.2

/-- How many bytes each time of a full box takes. -/
def timeWidth (version : UInt8) : Nat := if version = 1 then 8 else 4

/-- Zeros the creation and modification times of a full box. -/
def zeroIsoTimes (work : Work) (b : IsoBox) : Except Failure Work :=
  match work.1[b.body]? with
  | none => .ok work
  | some version =>
    -- Behind the version and the flags stand the two times; a box too short for them is left alone.
    if b.body + 4 + 2 * timeWidth version ≤ b.finish then do
      let data ← fill work.1 (b.body + 4) (b.body + 4 + 2 * timeWidth version)
      return (data, { work.2 with times := work.2.times + 2 })
    else .ok work

/-- Works on each of the boxes inside of `b`, which they have to fill. -/
def withinBox (step : Work → IsoBox → Except Failure Work) (work : Work) (b : IsoBox) : Except Failure Work :=
  let inner := isoBoxes work.1 b.body b.finish
  -- A box that does not split into whole boxes is refused, not guessed at.
  if inner.2 then inner.1.foldlM step work else .error (.refused UNREADABLE)

/-- A box of a media: its header's times are zeroed. -/
def scrubInMedia (work : Work) (b : IsoBox) : Except Failure Work :=
  if b.kind = utf8 "mdhd" then zeroIsoTimes work b else .ok work

/-- A box of a track. -/
def scrubInTrack (work : Work) (b : IsoBox) : Except Failure Work :=
  if b.kind = utf8 "tkhd" then zeroIsoTimes work b
  else if b.kind = utf8 "mdia" then withinBox scrubInMedia work b
  else if ISO_METADATA.contains b.kind then blankIso work b
  else .ok work

/-- A box of the movie. -/
def scrubInMovie (work : Work) (b : IsoBox) : Except Failure Work :=
  if b.kind = utf8 "mvhd" then zeroIsoTimes work b
  else if b.kind = utf8 "trak" then withinBox scrubInTrack work b
  else if ISO_METADATA.contains b.kind then blankIso work b
  else .ok work

def scrubMoov (work : Work) (moov : IsoBox) : Except Failure Work := withinBox scrubInMovie work moov

/-- A box of the file. -/
def scrubTop (work : Work) (b : IsoBox) : Except Failure Work :=
  if b.kind = utf8 "moov" then scrubMoov work b
  else if ISO_METADATA.contains b.kind then blankIso work b
  else .ok work

/-- The types that a file that is taken for an ISO video begins with. -/
def ISO_FIRST : List Bytes := [utf8 "ftyp", utf8 "moov", utf8 "mdat", utf8 "wide", utf8 "free", utf8 "skip"]

/-- The types that tell a file cut short from one with a trailer. -/
def ISO_CUT : List Bytes := [utf8 "mdat", utf8 "moof", utf8 "mfra", utf8 "moov"]

/-- Whether what stands at `last` begins like a box of the movie. -/
def truncatedBox (data : Bytes) (last : Nat) : Bool :=
  ((slice data (last + 4) (last + 8)).map fun kind => ISO_CUT.contains kind).getD false

def scrubIso (work : Work) : Except Failure Work :=
  let top := (isoBoxes work.1 0 work.1.length).1
  if (top.head?.map fun b => ISO_FIRST.contains b.kind).getD false then do
    let work ← top.foldlM scrubTop work
    if top.any fun b => b.kind = utf8 "moov" then
      -- What follows the last box is a trailer, unless it begins like a box that was cut short.
      let last := (top.getLast?.map fun b => b.finish).getD 0
      if last < work.1.length ∧ ¬ truncatedBox work.1 last then do
        let data ← fill work.1 last work.1.length
        return Work.blank data work.2
      else .ok work
    else .error (.refused UNREADABLE)
  else .error (.refused NOT_CLEANABLE)

def EBML_HEADER : Nat := 0x1A45DFA3
def SEGMENT : Nat := 0x18538067
def SEG_INFO : Nat := 0x1549A966
def SEG_TAGS : Nat := 0x1254C367
def SEG_ATTACHMENTS : Nat := 0x1941A469
def INFO_DATE_UTC : Nat := 0x4461
def INFO_TITLE : Nat := 0x7BA9

/-- How many of a byte's bits lead its first one that is set. -/
def leadingZeros (b : UInt8) : Nat :=
  if 0x80 ≤ b then 0 else if 0x40 ≤ b then 1 else if 0x20 ≤ b then 2 else if 0x10 ≤ b then 3
  else if 0x08 ≤ b then 4 else if 0x04 ≤ b then 5 else if 0x02 ≤ b then 6 else if 0x01 ≤ b then 7 else 8

/-- An element's id at `p`, and how many bytes it takes. -/
def ebmlId (data : Bytes) (p : Nat) : Option (Nat × Nat) := do
  let first ← data[p]?
  let len := leadingZeros first + 1
  if 4 < len then none
  else
    let bytes ← slice data p (p + len)
    return (ofBigEndian bytes, len)

/-- An element's size at `p`, none for an unknown one, and how many bytes it takes. -/
def ebmlSize (data : Bytes) (p : Nat) : Option (Option Nat × Nat) := do
  let first ← data[p]?
  let len := leadingZeros first + 1
  if 8 < len then none
  else
    let bytes ← slice data p (p + len)
    -- The marker bit is dropped from the first byte; all ones mean that the size is unknown.
    let v := (bytes.drop 1).foldl (fun v b => v * 256 + b.toNat) (first.toNat % 2 ^ (8 - len))
    return (if v = 2 ^ (7 * len) - 1 then none else some v, len)

/-- One element: its id, where it starts, where its body starts, where it ends if its size is known. -/
structure Ebml where
  id : Nat
  start : Nat
  body : Nat
  finish : Option Nat
deriving DecidableEq

def ebmlAt (data : Bytes) (p limit : Nat) : Option Ebml := do
  let (id, idLen) ← ebmlId data p
  let (size, sizeLen) ← ebmlSize data (p + idLen)
  let body := p + idLen + sizeLen
  match size with
  | none => return ⟨id, p, body, none⟩
  | some size => if body + size ≤ limit then return ⟨id, p, body, some (body + size)⟩ else none

/-- What a void element of so many bytes begins with. -/
def voidHead (len : Nat) : Bytes :=
  -- From nine bytes on there is room for a size of eight.
  if 9 ≤ len then 0xEC :: 0x01 :: (bigEndian 8 (len - 9)).drop 1
  else if 2 ≤ len then [0xEC, 0x80 ||| UInt8.ofNat (len - 2)]
  else [0xEC]

/-- Turns what stands from `start` up to `finish` into a void element of exactly that length. -/
def ebmlVoid (work : Work) (start finish : Nat) : Except Failure Work := do
  let data ← fill work.1 start finish
  let data ← overwrite data start (voidHead (finish - start))
  return Work.blank data work.2

/-- The elements of the segment's information, in so many steps. -/
def scrubInfo : Nat → Work → Nat → Nat → Except Failure Work
  | 0, work, _, _ => .ok work
  | steps + 1, work, q, limit =>
    if limit ≤ q then .ok work
    else match ebmlAt work.1 q limit with
    | some ⟨id, start, body, some finish⟩ => do
      -- The date is zeroed inside its element; the element of a title becomes padding.
      let work ← if id = INFO_DATE_UTC then do
          let data ← fill work.1 body finish
          pure (data, { work.2 with times := work.2.times + 1 })
        else if id = INFO_TITLE then ebmlVoid work start finish
        else .ok work
      scrubInfo steps work finish limit
    | _ => .ok work

/-- The elements of the segment, in so many steps: the walk stops where a size is unknown or does not fit. -/
def scrubSegment : Nat → Work → Nat → Nat → Except Failure Work
  | 0, work, _, _ => .ok work
  | steps + 1, work, p, limit =>
    if limit ≤ p then .ok work
    else match ebmlAt work.1 p limit with
    | some ⟨id, start, body, some finish⟩ => do
      let work ← if id = SEG_TAGS ∨ id = SEG_ATTACHMENTS then ebmlVoid work start finish
        else if id = SEG_INFO then scrubInfo (finish - body) work body finish
        else .ok work
      scrubSegment steps work finish limit
    | _ => .ok work

def scrubMatroska (work : Work) : Except Failure Work :=
  match ebmlAt work.1 0 work.1.length with
  | some ⟨id, _, _, some segAt⟩ =>
    if id = EBML_HEADER then
      match ebmlAt work.1 segAt work.1.length with
      | some seg =>
        if seg.id = SEGMENT then
          -- A segment of unknown size runs to the end of the file.
          let limit := seg.finish.getD work.1.length
          scrubSegment (limit - seg.body) work seg.body limit
        else .error (.refused NOT_CLEANABLE)
      | none => .error (.refused NOT_CLEANABLE)
    else .error (.refused NOT_CLEANABLE)
  | _ => .error (.refused NOT_CLEANABLE)

/-- The number that bytes say, least significant first. -/
def ofLittleEndian (bytes : Bytes) : Nat := ofBigEndian bytes.reverse

/-- The chunks from `p` up to `last`, in so many steps; bodies are padded to even length. -/
def riffChunksFrom : Nat → Bytes → Nat → Nat → List IsoBox
  | 0, _, _, _ => []
  | steps + 1, data, p, last =>
    match slice data p (p + 8) with
    | none => []
    | some head =>
      if last < p + 8 then []
      else
        let size := ofLittleEndian (head.drop 4)
        let finish := p + 8 + size
        if last < finish then []
        else ⟨head.take 4, p, p + 8, finish⟩ :: riffChunksFrom steps data (finish + size % 2) last

def riffChunks (data : Bytes) (first last : Nat) : List IsoBox := riffChunksFrom (data.length - first) data first last

def junk (work : Work) (b : IsoBox) : Except Failure Work := do
  let data ← overwrite work.1 b.start (utf8 "JUNK")
  let data ← fill data b.body b.finish
  return Work.blank data work.2

/-- A chunk of the list of headers. -/
def scrubInHeaders (work : Work) (b : IsoBox) : Except Failure Work :=
  if b.kind = utf8 "IDIT" then junk work b else .ok work

/-- A chunk of the file. -/
def scrubInRiff (work : Work) (b : IsoBox) : Except Failure Work :=
  -- Only a list is looked into, and only one with room for its type.
  if b.kind ≠ utf8 "LIST" ∨ b.finish < b.body + 4 then .ok work
  else match slice work.1 b.body (b.body + 4) with
  | none => .error .outOfRange
  | some kind =>
    if kind = utf8 "INFO" then junk work b
    else if kind = utf8 "hdrl" then (riffChunks work.1 (b.body + 4) b.finish).foldlM scrubInHeaders work
    else .ok work

def scrubAvi (work : Work) : Except Failure Work :=
  match slice work.1 4 8 with
  | none => .error .outOfRange
  | some size =>
    -- The size at the head may say more than the file holds.
    (riffChunks work.1 12 (min (8 + ofLittleEndian size) work.1.length)).foldlM scrubInRiff work

/-- Scrubs a video that is about to be sent, where it stands. -/
def scrubVideo (data : Bytes) : Except Failure Work :=
  -- Matroska goes by its first bytes and AVI by its RIFF type; all else is tried as ISO.
  if [0x1A, 0x45, 0xDF, 0xA3].isPrefixOf data then scrubMatroska (data, ⟨0, 0⟩)
  else if 12 ≤ data.length ∧ data.take 4 = utf8 "RIFF" ∧ (data.drop 8).take 4 = utf8 "AVI " then
    scrubAvi (data, ⟨0, 0⟩)
  else scrubIso (data, ⟨0, 0⟩)

end Scrub
end Nightdrop
