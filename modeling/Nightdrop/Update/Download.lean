import Nightdrop.Update.Head

/-! Downloading a build: the streamed, resumable fetch, and the check before the file is put in place. -/

namespace Nightdrop
namespace Update

/-- The most bytes a build may have. -/
def MAX_DOWNLOAD_BYTES : Nat := 200 * 1024 * 1024

/-- How a stream ends. -/
inductive Ending where
  | closed
  /-- A read fails, or the time is up. -/
  | broken
  deriving DecidableEq

/-- The fetch's loop: the response's head, the file, and the two counts. -/
structure Fetching where
  head : ResponseHead
  content : Bytes
  resumed : Nat
  written : Nat
  checked : Bool

/-- What the fetch says once the stream has ended. -/
def Fetching.finish (f : Fetching) : Ending → Bytes × Option Nat
  | .closed => (f.content, if f.head.done then some (f.resumed + f.written) else none)
  | .broken => (f.content, none)

/-- Whether what is on disk already must go: the server sends the whole of it. -/
def Fetching.restarts (f : Fetching) (head : ResponseHead) : Bool :=
  head.done && !f.checked && decide (f.resumed > 0) && decide (head.status = 200)

/-- Reads the response to its end: the file as it is left, and how many bytes it has, `none` for an error. -/
def onionGetToFile (maxBytes : Nat) (f : Fetching) (ending : Ending) : List Bytes → Bytes × Option Nat
  | [] => f.finish ending
  | chunk :: rest =>
    if chunk = [] then f.finish .closed
    else match f.head.push chunk with
    | .error _ => (f.content, none)
    | .ok (head, body) =>
      let content := if f.restarts head then [] else f.content
      let resumed := if f.restarts head then 0 else f.resumed
      let written := f.written + body.length
      if resumed + written > maxBytes then (content, none)
      else onionGetToFile maxBytes ⟨head, content ++ body, resumed, written, f.checked || head.done⟩ ending rest

/-- How an attempt's fetch goes. -/
inductive Reach where
  /-- The transport cannot fetch anonymously, or nothing is answered before the file is opened. -/
  | nothing
  | answers (reads : List Bytes) (ending : Ending)

/-- One attempt: what the server does, and whether the disk can be read back and renamed on. -/
structure Attempt where
  reach : Reach
  readBack : Bool
  placed : Bool

/-- The destination, and the scratch file of the build that is wanted. -/
structure Disk where
  dest : Option Bytes
  part : Option Bytes

section Hashed

variable (sha256 : Bytes → String) (published : String)

/-- Whether the content has the published hash. -/
def Verified (content : Bytes) : Prop :=
  (sha256 content).toList.map Char.toLower = (trimText published).toList.map Char.toLower

instance (content : Bytes) : Decidable (Verified sha256 published content) :=
  inferInstanceAs (Decidable ((sha256 content).toList.map Char.toLower
    = (trimText published).toList.map Char.toLower))

/-- How many bytes of the scratch file an attempt resumes from. -/
def Disk.resumeFrom (d : Disk) : Nat := (d.part.map List.length).getD 0

/-- One attempt: the disk afterwards, and how many bytes were put in place, `none` for an error. -/
def download (d : Disk) (a : Attempt) : Disk × Option Nat :=
  match a.reach with
  | .nothing => (d, none)
  | .answers reads ending =>
    let start := if d.resumeFrom = 0 then [] else d.part.getD []
    match onionGetToFile MAX_DOWNLOAD_BYTES ⟨.fresh, start, d.resumeFrom, 0, false⟩ ending reads with
    | (content, none) => ({ d with part := some content }, none)
    | (content, some n) =>
      if a.readBack = false then ({ d with part := none }, none)
      else if Verified sha256 published content then
        if a.placed then (⟨some content, none⟩, some n) else ({ d with part := none }, none)
      else ({ d with part := none }, none)

/-- All attempts, one after the other. -/
def downloads (d : Disk) (attempts : List Attempt) : Disk :=
  attempts.foldl (fun d a => (download sha256 published d a).1) d

/-- An attempt changes the destination only to verified content, and not at all when it is an error. -/
def Guarded (d : Disk) (a : Attempt) : Prop :=
  match download sha256 published d a with
  | (d', some _) => ∃ content, d'.dest = some content ∧ Verified sha256 published content
  | (d', none) => d'.dest = d.dest

/-- The status and the body with which a server that honours ranges answers for `build` from a byte on. -/
def Answers (build : Bytes) (start status : Nat) (body : Bytes) : Prop :=
  if start = 0 then status = 200 ∧ body = build
  else if start < build.length then status = 206 ∧ body = build.drop start
  else status = 416

/-- An attempt at a server that honours ranges, over a connection and a disk that work. -/
structure Honest (build : Bytes) (start : Nat) (a : Attempt) : Prop where
  readBack : a.readBack = true
  placed : a.placed = true
  answered : ∃ reads head body status, a.reach = .answers reads .closed ∧ (∀ read ∈ reads, read ≠ [])
    ∧ reads.flatten = head ++ (HEAD_END ++ body) ∧ findBytes HEAD_END reads.flatten = some head.length
    ∧ head.length + 4 ≤ MAX_MANIFEST_BYTES ∧ parseStatus head = .ok status
    ∧ Answers build start status body

/-- Whether all attempts, from this disk on, are honest. -/
def HonestRun (build : Bytes) (d : Disk) : List Attempt → Prop
  | [] => True
  | a :: rest => Honest build d.resumeFrom a ∧ HonestRun build (download sha256 published d a).1 rest

/-- Whether some number of honest attempts puts a verified build in place, from this leftover on. -/
def Arrives (build : Bytes) (part : Option Bytes) : Prop :=
  ∃ count, ∀ attempts, attempts.length = count → HonestRun sha256 published build ⟨none, part⟩ attempts →
    ∃ content, (downloads sha256 published ⟨none, part⟩ attempts).dest = some content
      ∧ Verified sha256 published content

/-- Whether updates are safe at every server and disk, and arrive from this leftover on. -/
def UpdatesRight (build : Bytes) (part : Option Bytes) : Prop :=
  (∀ d a, Guarded sha256 published d a) ∧ Arrives sha256 published build part

end Hashed

end Update
end Nightdrop
