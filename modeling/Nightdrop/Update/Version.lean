import Nightdrop.Node.Route

/-! The update check's reading of versions, and which offered one it takes for newer. -/

namespace Nightdrop
namespace Version

/-- A version without the blanks and `v`s that lead it, up to the first `+` or `-`. -/
def core (v : String) : List Char :=
  ((trimText v).toList.dropWhile (· = 'v')).takeWhile (fun c => c ≠ '+' && c ≠ '-')

/-- What one component reads as. -/
def component (p : List Char) : Option Nat := parseDecimal U64_MAX (trimText (String.ofList p))

/-- What each component reads as, with 0 for one that cannot be read. -/
def lenient (v : String) : List Nat := ((core v).splitOn '.').map fun p => (component p).getD 0

/-- The first three components; one that is missing is 0. -/
def parts (v : String) : Nat × Nat × Nat :=
  ((lenient v).getD 0 0, (lenient v).getD 1 0, (lenient v).getD 2 0)

/-- Whether `a` is strictly newer than `b`. -/
def isNewer (a b : String) : Bool :=
  let (a0, a1, a2) := parts a
  let (b0, b1, b2) := parts b
  b0 < a0 ∨ (b0 = a0 ∧ (b1 < a1 ∨ (b1 = a1 ∧ b2 < a2)))

/-- What an update check tells. -/
structure UpdateStatus where
  updateAvailable : Bool
  current : String
  latest : String
deriving DecidableEq, Repr

/-- The update check's answer. -/
def compare (current latest : String) : UpdateStatus := ⟨isNewer latest current, current, latest⟩

/-- Refuses a download that is not strictly newer than what runs. -/
def ensureNewer (current : Option String) (latest : String) : Except String Unit :=
  match current with
  | none => .error "this build's version is not known yet; try again in a moment"
  | some current =>
    if !isNewer latest current then .error "the site does not offer a newer version than this one"
    else .ok ()

/-- The release a well-formed version names, ordered as releases follow each other. -/
def release (v : String) : Option (ℕ ×ₗ ℕ ×ₗ ℕ) :=
  match ((core v).splitOn '.').map component with
  | [some major, some minor, some patch] => some (toLex (major, toLex (minor, patch)))
  | _ => none

/-- Whether a version names a release: three numbers. -/
def WellFormed (v : String) : Prop := (release v).isSome = true

/-- Whether none of a version's first three components reads as a positive number. -/
def NothingPositive (v : String) : Prop := ∀ p ∈ ((core v).splitOn '.').take 3, (component p).getD 0 = 0

/-- Whether an offered version is treated as it should be against every running one. -/
structure Sound (offered : String) : Prop where
  never : ¬ WellFormed offered → ∀ running, (compare running offered).updateAvailable = false
  accepted : ∀ running : Option String, ensureNewer running offered = .ok ()
    ↔ WellFormed offered ∧ ∃ current, running = some current ∧ (compare current offered).updateAvailable = true

/-- Whether the comparison is the strict order of the releases that well-formed versions name. -/
structure Ordered : Prop where
  releases : ∀ a b x y, release a = some x → release b = some y → ((compare b a).updateAvailable = true ↔ y < x)
  irrefl : ∀ a, (compare a a).updateAvailable = false
  trans : ∀ a b c, (compare b a).updateAvailable = true → (compare c b).updateAvailable = true →
    (compare c a).updateAvailable = true

end Version
end Nightdrop
