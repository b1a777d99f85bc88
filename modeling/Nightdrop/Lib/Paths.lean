import Mathlib.Data.List.Basic
import Mathlib.Tactic.Common

/-! Paths as the standard library reads them: their components on each platform, and how one is joined to another. -/

namespace Nightdrop
namespace Paths

/-- The platforms paths are read on. -/
inductive Platform where
  | unix
  | windows
deriving DecidableEq, Repr

/-- One component of a path. -/
inductive Component where
  | pfx (text : List Char)
  | rootDir
  | curDir
  | parentDir
  | normal (name : List Char)
deriving DecidableEq, Repr

/-- Whether `c` separates components. -/
def isSep : Platform → Char → Bool
  | .unix, c => c = '/'
  | .windows, c => c = '/' ∨ c = '\\'

/-- Whether `c` separates components behind a verbatim prefix. -/
def isVerbatimSep (c : Char) : Bool := c = '\\'

/-- Whether a path leads with a drive. -/
def hasDrive : List Char → Bool
  | letter :: ':' :: _ => letter.isAlpha
  | _ => false

/-- What leads a Windows path: its length, and whether it is verbatim and whether a root follows from it. -/
structure Prefix where
  length : Nat
  verbatim : Bool := false
  root : Bool := false
deriving DecidableEq, Repr

/-- The length of two components and of the separator between them, where the second may be missing. -/
def twoComponents (sep : Char → Bool) (path : List Char) : Nat × Nat :=
  ((path.takeWhile (!sep ·)).length, (((path.dropWhile (!sep ·)).drop 1).takeWhile (!sep ·)).length)

/-- The prefix of a path behind `\\?\`. -/
def verbatimPrefix (path : List Char) : Prefix :=
  if (path.take 4).map (fun c => if c = '/' then '\\' else c) = ['U', 'N', 'C', '\\'] then
    let (server, share) := twoComponents isVerbatimSep (path.drop 4)
    { length := 8 + server + (if share = 0 then 0 else share + 1), verbatim := true }
  else if hasDrive path && ((path.drop 2).head?.all (isSep .windows)) then { length := 6, verbatim := true }
  else { length := 4 + (twoComponents isVerbatimSep path).1, verbatim := true }

/-- The prefix that leads a path, if any. -/
def parsePrefix : Platform → List Char → Option Prefix
  | .unix, _ => none
  | .windows, path =>
    if (path.take 2).map (isSep .windows) = [true, true] then
      if path.take 4 = ['\\', '\\', '?', '\\'] then some (verbatimPrefix (path.drop 4))
      else if (path.drop 2).take 1 = ['.'] ∧ ((path.drop 3).take 1).map (isSep .windows) = [true] then
        some { length := 4 + (twoComponents (isSep .windows) (path.drop 4)).1, root := true }
      else
        let (server, share) := twoComponents (isSep .windows) (path.drop 2)
        if server = 0 ∨ share = 0 then none else some { length := 2 + server + 1 + share, root := true }
    else if hasDrive path then some { length := 2 }
    else none

/-- What one piece between separators stands for; nothing for an empty one, nor for `.` where no prefix is verbatim. -/
def component (verbatim : Bool) (piece : List Char) : Option Component :=
  if piece = [] then none
  else if piece = ['.'] then if verbatim then some .curDir else none
  else if piece = ['.', '.'] then some .parentDir
  else some (.normal piece)

/-- The components behind the prefix; a leading dot counts where nothing is before it. -/
def bodyComponents (sep : Char → Bool) (led : Option Prefix) (body : List Char) : List Component :=
  (if body.head?.any sep || led.any (·.root) then [.rootDir]
    else if led = none ∧ (body.splitOnP sep).head? = some ['.'] then [.curDir] else [])
    ++ (body.splitOnP sep).filterMap (component (led.any (·.verbatim)))

/-- The components of a path. -/
def components (platform : Platform) (path : List Char) : List Component :=
  match parsePrefix platform path with
  | none => bodyComponents (isSep platform) none path
  | some p => .pfx (path.take p.length)
    :: bodyComponents (if p.verbatim then isVerbatimSep else isSep platform) (some p) (path.drop p.length)

/-- Whether a path leads with a prefix. -/
def hasPrefix : List Component → Bool
  | .pfx _ :: _ => true
  | _ => false

/-- Whether a path has a root. -/
def hasRoot (path : List Component) : Bool := Component.rootDir ∈ path.take 2

/-- One path joined to another: one that leads with a prefix, or on Unix with a root, takes the other's place; on
Windows a root keeps the other's prefix only. -/
def join (root path : List Component) : List Component :=
  if hasPrefix path then path
  else if hasRoot path then root.takeWhile (hasPrefix [·]) ++ path
  else if root = [] then path
  else root ++ path.filter (· ≠ .curDir)

/-- Whether a path lies strictly inside of another: only names follow. -/
def Inside (root path : List Component) : Prop :=
  ∃ names : List (List Char), names ≠ [] ∧ path = root ++ names.map .normal

variable {sep : Char → Bool} {verbatim : Bool} {path name : List Char} {platform : Platform}

/-- A name in a directory. -/
structure IsName (sep : Char → Bool) (name : List Char) : Prop where
  some : name ≠ []
  dot : name ≠ ['.']
  dots : name ≠ ['.', '.']
  whole : ∀ c ∈ name, sep c = false

/-- No separator is left in what stands between separators. -/
theorem splitOnP_whole (sep : Char → Bool) (path : List Char) :
    ∀ piece ∈ path.splitOnP sep, ∀ c ∈ piece, sep c = false := by
  induction path with
  | nil => simp
  | cons a path ih =>
    intro piece among
    rw [List.splitOnP_cons_eq_if_modifyHead] at among
    split at among
    · rcases List.mem_cons.mp among with rfl | later
      · simp
      · exact ih piece later
    · rename_i letter
      cases pieces : path.splitOnP sep with
      | nil => exact absurd pieces (List.splitOnP_ne_nil sep path)
      | cons first later =>
        rw [pieces] at ih among
        rw [List.modifyHead_cons] at among
        rcases List.mem_cons.mp among with rfl | old
        · intro c within
          rcases List.mem_cons.mp within with rfl | inner
          · simpa using letter
          · exact ih first List.mem_cons_self c inner
        · exact ih piece (List.mem_cons_of_mem _ old)

/-- A piece that reads as a name is one. -/
theorem isName_of_component {piece : List Char} (whole : ∀ c ∈ piece, sep c = false)
    (read : component verbatim piece = some (.normal name)) : name = piece ∧ IsName sep name := by
  unfold component at read
  split at read
  · cases read
  · rename_i some'
    split at read
    · split at read <;> cases read
    · rename_i dot
      split at read
      · cases read
      · rename_i dots
        cases read
        exact ⟨rfl, some', dot, dots, whole⟩

theorem component_isName (named : IsName sep name) : component verbatim name = some (.normal name) := by
  unfold component
  rw [if_neg named.some, if_neg named.dot, if_neg named.dots]

/-- A path whose components are all names has no prefix, no root and no leading dot. -/
theorem components_of_names (names : ∀ c ∈ components platform path, ∃ name, c = .normal name) :
    parsePrefix platform path = none
      ∧ components platform path = (path.splitOnP (isSep platform)).filterMap (component false) := by
  unfold components at names ⊢
  cases led : parsePrefix platform path with
  | some p =>
    rw [led] at names
    obtain ⟨name, same⟩ := names _ List.mem_cons_self
    cases same
  | none =>
    rw [led] at names
    refine ⟨rfl, ?_⟩
    simp only [bodyComponents] at names ⊢
    split
    · rename_i rooted
      rw [if_pos rooted] at names
      obtain ⟨name, same⟩ := names _ (List.mem_append_left _ List.mem_cons_self)
      cases same
    · rename_i unrooted
      rw [if_neg unrooted] at names
      split
      · rename_i dotted
        rw [if_pos dotted] at names
        obtain ⟨name, same⟩ := names _ (List.mem_append_left _ List.mem_cons_self)
        cases same
      · rfl

/-- Every name among the components is one. -/
theorem isName_of_mem (names : ∀ c ∈ components platform path, ∃ name, c = .normal name)
    (among : .normal name ∈ components platform path) : IsName (isSep platform) name := by
  rw [(components_of_names names).2] at among
  obtain ⟨piece, between, read⟩ := List.mem_filterMap.mp among
  exact (isName_of_component (splitOnP_whole _ _ piece between) read).2

/-- Joining names to a path puts them behind it. -/
theorem join_names (root : List Component) (names : List (List Char)) :
    join root (names.map .normal) = root ++ names.map .normal := by
  have kept : (names.map Component.normal).filter (· ≠ .curDir) = names.map .normal := by
    rw [List.filter_eq_self]
    intro c among
    obtain ⟨name, _, rfl⟩ := List.mem_map.mp among
    simp
  have unled : hasPrefix (names.map Component.normal) = false := by
    cases names <;> rfl
  have unrooted : hasRoot (names.map Component.normal) = false := by
    simp [hasRoot, ← List.map_take]
  unfold join
  rw [unled, unrooted, kept]
  by_cases empty : root = []
  · simp [empty]
  · simp [empty]

/-- Splitting names that were put together gives them back. -/
theorem splitOnP_intercalate {names : List (List Char)} {between : Char} (separates : sep between = true)
    (some : names ≠ []) (named : ∀ name ∈ names, IsName sep name) :
    ([between].intercalate names).splitOnP sep = names := by
  induction names with
  | nil => exact absurd rfl some
  | cons name names ih =>
    have whole := (named name List.mem_cons_self).whole
    cases names with
    | nil =>
      rw [List.intercalate_singleton]
      exact List.splitOnP_eq_singleton whole
    | cons next names =>
      rw [List.intercalate_cons_cons, List.append_assoc, List.singleton_append,
        List.splitOnP_append_cons _ _ separates, List.splitOnP_eq_singleton whole,
        ih (by simp) (fun other among => named other (List.mem_cons_of_mem _ among))]
      rfl

/-- The characters of what is put together are those of the parts and the one between them. -/
theorem mem_intercalate {names : List (List Char)} {between c : Char} (among : c ∈ [between].intercalate names) :
    c = between ∨ ∃ name ∈ names, c ∈ name := by
  induction names with
  | nil => cases among
  | cons name names ih =>
    cases names with
    | nil =>
      rw [List.intercalate_singleton] at among
      exact .inr ⟨name, List.mem_cons_self, among⟩
    | cons next names =>
      rw [List.intercalate_cons_cons, List.append_assoc, List.mem_append, List.singleton_append, List.mem_cons] at among
      rcases among with first | rfl | later
      · exact .inr ⟨name, List.mem_cons_self, first⟩
      · exact .inl rfl
      · rcases ih later with same | ⟨other, further, within⟩
        · exact .inl same
        · exact .inr ⟨other, List.mem_cons_of_mem _ further, within⟩

theorem mem_intercalate_of_mem {names : List (List Char)} {between c : Char} (among : name ∈ names) (within : c ∈ name) :
    c ∈ [between].intercalate names := by
  induction names with
  | nil => cases among
  | cons first names ih =>
    cases names with
    | nil =>
      rw [List.mem_singleton.mp among] at within
      rw [List.intercalate_singleton]
      exact within
    | cons next names =>
      rw [List.intercalate_cons_cons, List.append_assoc, List.mem_append]
      rcases List.mem_cons.mp among with rfl | later
      · exact .inl within
      · exact .inr (List.mem_append_right _ (ih later))

/-- What is put together starts with a name, so with no separator. -/
theorem head_intercalate {names : List (List Char)} {between : Char} (some : names ≠ [])
    (named : ∀ name ∈ names, IsName (isSep platform) name) :
    ([between].intercalate names).head?.any (isSep platform) = false := by
  cases names with
  | nil => exact absurd rfl some
  | cons name names =>
    have first := named name List.mem_cons_self
    cases name with
    | nil => exact absurd rfl first.some
    | cons c name =>
      have letter := first.whole c List.mem_cons_self
      cases names <;> simpa [List.intercalate] using letter

/-- Names that were put together are the components of the path, where no drive leads it. -/
theorem components_intercalate {names : List (List Char)} {between : Char} (separates : isSep platform between = true)
    (some : names ≠ []) (named : ∀ name ∈ names, IsName (isSep platform) name)
    (unled : parsePrefix platform ([between].intercalate names) = none) :
    components platform ([between].intercalate names) = names.map .normal := by
  have pieces := splitOnP_intercalate separates some named
  unfold components
  rw [unled]
  simp only [bodyComponents, pieces, Option.any_none, Bool.or_false]
  have undotted : ¬ (True ∧ names.head? = .some ['.']) := by
    rintro ⟨_, leads⟩
    exact (named _ (List.mem_of_mem_head? leads)).dot rfl
  rw [head_intercalate some named, if_neg (by simp), if_neg undotted, List.nil_append]
  have read : ∀ rest : List (List Char), (∀ name ∈ rest, IsName (isSep platform) name) →
      rest.filterMap (component false) = rest.map .normal := by
    intro rest all
    induction rest with
    | nil => rfl
    | cons name rest ih =>
      rw [List.filterMap_cons_some (component_isName (all name List.mem_cons_self)), List.map_cons,
        ih fun other among => all other (List.mem_cons_of_mem _ among)]
  exact read names named

/-- A path with neither a separator first nor a colon has no prefix. -/
theorem parsePrefix_none (relative : path.head?.any (isSep platform) = false) (colon : ':' ∉ path) :
    parsePrefix platform path = none := by
  cases platform with
  | unix => rfl
  | windows =>
    have undriven : hasDrive path = false := by
      unfold hasDrive
      split
      · exact absurd (by simp) colon
      · rfl
    have led : ¬ (path.take 2).map (isSep .windows) = [true, true] := by
      cases path with
      | nil => simp
      | cons c path =>
        rw [List.head?_cons, Option.any_some] at relative
        simp [relative]
    simp only [parsePrefix]
    rw [if_neg led, undriven]
    rfl

end Paths
end Nightdrop
