import Nightdrop.Lib.Paths
import Nightdrop.Node.Attach

/-! Where files taken from a backup are written: the onion keystore and the media directory. -/

namespace Nightdrop
namespace Keystore

open Paths

/-- Whether a component is a plain name, without a separator or drive mark of any platform. -/
def isPlain : Component → Bool
  | .normal part => decide ('\\' ∉ part ∧ ':' ∉ part)
  | _ => false

/-- Where a restored keystore file goes, only if its path is made of plain relative components. -/
def keystoreDest (platform : Platform) (root : List Component) (rel : String) : Except String (List Component) :=
  let parts := components platform rel.toList
  if !parts.all isPlain then .error "backup carries an unsafe keystore path"
  else if parts = [] then .error "backup carries an empty keystore path"
  else .ok (join root parts)

/-- A name a directory can hold: on Windows without a colon, too. -/
structure FileName (platform : Platform) where
  text : List Char
  named : IsName (isSep platform) text
  driveless : platform = .windows → ':' ∉ text

/-- What an entry of a directory is. -/
inductive Kind where
  | dir
  | file (readable : Bool)
deriving DecidableEq, Repr

variable {platform : Platform}

/-- Every directory under the keystore that can be read, by the names that lead to it. -/
abbrev Tree (platform : Platform) := List (FileName platform) → Option (List (FileName platform × Kind))

/-- The directories among the entries of `dir`. -/
def subdirs (dir : List (FileName platform)) (entries : List (FileName platform × Kind)) :
    List (List (FileName platform)) :=
  entries.filterMap fun e => if e.2 = .dir then some (dir ++ [e.1]) else none

/-- The files among the entries of `dir` that can be read. -/
def readables (dir : List (FileName platform)) (entries : List (FileName platform × Kind)) :
    List (List (FileName platform)) :=
  entries.filterMap fun e => if e.2 = .file true then some (dir ++ [e.1]) else none

/-- The walk through the keystore: `stack` holds the directories that are still to be read, the last one first. -/
def walk (tree : Tree platform) : Nat → List (List (FileName platform)) → List (List (FileName platform))
    → List (List (FileName platform))
  | 0, _, out => out
  | _ + 1, [], out => out
  | steps + 1, dir :: stack, out =>
    match tree dir with
    | none => walk tree steps stack out
    | some entries => walk tree steps ((subdirs dir entries).reverse ++ stack) (out ++ readables dir entries)

/-- How a path is written down. -/
def written (platform : Platform) (names : List (FileName platform)) : String :=
  String.ofList ([if platform = .unix then '/' else '\\'].intercalate (names.map (·.text)))

/-- The paths of the onion keys that a backup holds, after that many directories were read. -/
def collectOnionKeys (tree : Tree platform) (steps : Nat) : List String :=
  (walk tree steps [[]] []).map (written platform)

/-- The file a media id is kept in. -/
def mediaFile (id : String) : String := id ++ ".bin"

/-- Whether a name is plain on every platform. -/
def PlainName (name : List Char) : Prop :=
  IsName (fun c => c = '/' ∨ c = '\\' ∨ c = ':') name

/-- Whether files taken from a backup stay where they belong. -/
structure Contained (platform : Platform) (root : List Component) : Prop where
  inside : ∀ rel dest, keystoreDest platform root rel = .ok dest →
    ∃ names : List (List Char), names ≠ [] ∧ (∀ name ∈ names, PlainName name) ∧ dest = root ++ names.map .normal
  collected : ∀ (tree : Tree platform) steps, ∀ rel ∈ collectOnionKeys tree steps,
    (∃ dest, keystoreDest platform root rel = .ok dest)
      ↔ (platform = .unix → '\\' ∉ rel.toList ∧ ':' ∉ rel.toList)
  media : ∀ id, isMediaId id = true → PlainName (mediaFile id).toList
    ∧ join root (components platform (mediaFile id).toList) = root ++ [.normal (mediaFile id).toList]

end Keystore
end Nightdrop
