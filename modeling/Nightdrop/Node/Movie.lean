import Nightdrop.Lib.Codec

/-! Which files are handed to a player as videos: the boxes of an ISO file, and the data references inside of it. -/

namespace Nightdrop
namespace Movie

/-- What a walk through bytes comes to: it is stuck where it reads outside of them or does not end. -/
inductive Walk (α : Type) where
  | stuck
  | refused
  | found (a : α)
deriving DecidableEq

/-- The bytes from `first` up to `last`; reading outside of them is stuck. -/
def slice (data : Bytes) (first last : Nat) : Option Bytes :=
  if first ≤ last ∧ last ≤ data.length then some ((data.take last).drop first) else none

/-- A box: its type and what it holds. -/
structure IsoBox where
  kind : Bytes
  body : Bytes
deriving DecidableEq

/-- How long the header of the box that leads some bytes is, and the whole of the box. -/
def boxHead (data : Bytes) : Option (Nat × Nat) :=
  if data.length < 8 then none
  else if ofBigEndian (data.take 4) = 0 then some (8, data.length)
  else if ofBigEndian (data.take 4) = 1 then
    if data.length < 16 then none else some (16, ofBigEndian ((data.drop 8).take 8))
  else some (8, ofBigEndian (data.take 4))

/-- The boxes of some bytes, in so many steps. -/
def boxesIn : Nat → Bytes → Walk (List IsoBox)
  | 0, data => if data = [] then .found [] else .stuck
  | steps + 1, data =>
    if data = [] then .found []
    else match boxHead data with
    | none => .refused
    | some (header, size) =>
      if size < header ∨ data.length < size then .refused
      else match slice data header size, slice data size data.length with
      | some body, some rest =>
        match boxesIn steps rest with
        | .found more => .found (⟨(data.drop 4).take 4, body⟩ :: more)
        | other => other
      | _, _ => .stuck

/-- Splits bytes into boxes; refused where a size does not fit. -/
def boxes (data : Bytes) : Walk (List IsoBox) := boxesIn data.length data

/-- Box types that hold other boxes on the way to anything that can point outside the file. -/
def ISO_CONTAINERS : List Bytes :=
  [utf8 "moov", utf8 "trak", utf8 "mdia", utf8 "minf", utf8 "dinf", utf8 "edts", utf8 "udta"]

/-- The names of the reference-movie atoms. -/
def REFERENCE_MOVIE : List Bytes := [utf8 "rmra", utf8 "rmda", utf8 "rdrf"]

/-- Whether an entry references only the file itself. -/
def selfContained (entry : Bytes) : Bool := entry[3]?.any fun flags => flags &&& 1 = 1

/-- The conjunction of what is found at each box, up to the first that is not found true. -/
def allBoxes (check : IsoBox → Walk Bool) : List IsoBox → Walk Bool
  | [] => .found true
  | b :: rest =>
    match check b with
    | .found true => allBoxes check rest
    | other => other

/-- Whether every entry of a data reference box references only the file itself. -/
def drefSelfContained (body : Bytes) : Walk Bool :=
  if body.length < 8 then .found false
  else match boxes (body.drop 8) with
  | .found entries => .found (entries.all fun e => selfContained e.body)
  | .refused => .found false
  | .stuck => .stuck

/-- Walks the children down through the containers, in so many steps: every data reference found is checked. -/
def drefsIn : Nat → Bytes → Walk Bool
  | 0, _ => .stuck
  | steps + 1, body =>
    match boxes body with
    | .found children => allBoxes (fun b =>
        if b.kind = utf8 "dref" then drefSelfContained b.body
        else if ISO_CONTAINERS.contains b.kind then drefsIn steps b.body
        else .found true) children
    | .refused => .found false
    | .stuck => .stuck

def drefsSelfContained (body : Bytes) : Walk Bool := drefsIn (body.length + 1) body

/-- Whether a file can play without fetching anything. -/
def isoBmffIsSelfContained (data : Bytes) : Walk Bool :=
  match boxes data with
  | .found top =>
    match allBoxes (fun b =>
        if b.kind = utf8 "moov" then
          if REFERENCE_MOVIE.any fun tag => b.body.tails.any fun w => tag.isPrefixOf w then .found false
          else drefsSelfContained b.body
        else .found true) top with
    | .found true => .found (top.any fun b => b.kind = utf8 "moov")
    | other => other
  | .refused => .found false
  | .stuck => .stuck

/-- The extension that the leading bytes of an ISO file give it. -/
def isoExt (data : Bytes) : Option String :=
  if data.length < 12 then none
  else if (data.drop 4).take 4 = utf8 "ftyp" then
    if (data.drop 8).take 4 = utf8 "qt  " then some "mov"
    else if [utf8 "3gp4", utf8 "3gp5", utf8 "3gp6", utf8 "3gg6", utf8 "3gp7"].contains ((data.drop 8).take 4) then
      some "3gp"
    else some "mp4"
  else if [utf8 "moov", utf8 "mdat", utf8 "wide", utf8 "free", utf8 "skip"].contains ((data.drop 4).take 4) then some "mov"
  else none

/-- The extension to give a decrypted video, read from its own bytes; refused for what is not opened at all. -/
def videoExt (data : Bytes) : Walk String :=
  match isoExt data with
  | some ext =>
    match isoBmffIsSelfContained data with
    | .found true => .found ext
    | .found false => .refused
    | .refused => .refused
    | .stuck => .stuck
  | none =>
    if [0x1A, 0x45, 0xDF, 0xA3].isPrefixOf data then
      .found (if (data.take 64).tails.any fun w => (utf8 "webm").isPrefixOf w then "webm" else "mkv")
    else if 12 ≤ data.length ∧ data.take 4 = utf8 "RIFF" ∧ (data.drop 8).take 4 = utf8 "AVI " then .found "avi"
    else .refused

/-- Boxes that tile bytes: each as long as its header says, one behind the other, to the end. -/
inductive Tiles : List IsoBox → Bytes → Prop where
  | nil : Tiles [] []
  | cons {header body rest : Bytes} {more : List IsoBox}
      (sized : header.length = 8 ∧ ofBigEndian (header.take 4) = (header ++ body).length
        ∨ header.length = 8 ∧ ofBigEndian (header.take 4) = 0 ∧ rest = []
        ∨ header.length = 16 ∧ ofBigEndian (header.take 4) = 1
          ∧ ofBigEndian ((header.drop 8).take 8) = (header ++ body).length)
      (tiled : Tiles more rest) :
      Tiles (⟨(header.drop 4).take 4, body⟩ :: more) (header ++ (body ++ rest))

/-- A data-reference entry that is reached through the containers. -/
inductive Entry : Bytes → Bytes → Prop where
  | here {body : Bytes} {children entries : List IsoBox} {b e : IsoBox} (split : boxes body = .found children)
      (child : b ∈ children) (dref : b.kind = utf8 "dref") (listed : boxes (b.body.drop 8) = .found entries)
      (entry : e ∈ entries) : Entry body e.body
  | inside {body entry : Bytes} {children : List IsoBox} {b : IsoBox} (split : boxes body = .found children)
      (child : b ∈ children) (holds : b.kind ∈ ISO_CONTAINERS) (deeper : Entry b.body entry) : Entry body entry

/-- Whether a file's boxes tile it, with a movie in it, and nothing in the movie points outside the file. -/
structure SelfContained (data : Bytes) (top : List IsoBox) : Prop where
  tiles : Tiles top data
  movie : ∃ b ∈ top, b.kind = utf8 "moov"
  names : ∀ b ∈ top, b.kind = utf8 "moov" → ∀ tag ∈ REFERENCE_MOVIE, ¬ tag <:+: b.body
  entries : ∀ b ∈ top, b.kind = utf8 "moov" → ∀ entry, Entry b.body entry → selfContained entry = true

end Movie
end Nightdrop
