import Nightdrop.Node.Keystore

/-! Files taken from a backup land strictly inside their directory, and what a backup wrote is taken back. -/

namespace Nightdrop
namespace Keystore

open Paths

variable {platform : Platform} {root dest : List Component} {rel : String} {name : List Char}

/-- Only plain names are accepted, at least one. -/
theorem keystoreDest_ok : keystoreDest platform root rel = .ok dest
    ↔ (components platform rel.toList).all isPlain = true ∧ components platform rel.toList ≠ []
      ∧ dest = join root (components platform rel.toList) := by
  unfold keystoreDest
  simp only
  cases plain : (components platform rel.toList).all isPlain with
  | false => simp
  | true =>
    by_cases empty : components platform rel.toList = []
    · simp [empty]
    · simp [empty, eq_comm]

theorem isPlain_normal : isPlain (.normal name) = true ↔ '\\' ∉ name ∧ ':' ∉ name := by
  simp [isPlain]

/-- A plain component is a name. -/
theorem normal_of_isPlain {c : Component} (plain : isPlain c = true) : ∃ name, c = .normal name := by
  cases c with
  | normal name => exact ⟨name, rfl⟩
  | pfx text => cases plain
  | rootDir => cases plain
  | curDir => cases plain
  | parentDir => cases plain

/-- Components that are all names are those names. -/
theorem exists_names {parts : List Component} (names : ∀ c ∈ parts, ∃ name, c = .normal name) :
    ∃ list : List (List Char), parts = list.map .normal := by
  induction parts with
  | nil => exact ⟨[], rfl⟩
  | cons c parts ih =>
    obtain ⟨name, rfl⟩ := names c List.mem_cons_self
    obtain ⟨list, rfl⟩ := ih fun other among => names other (List.mem_cons_of_mem _ among)
    exact ⟨name :: list, rfl⟩

/-- A name without the separators and marks of any platform is plain. -/
theorem plainName (platform : Platform) (named : IsName (isSep platform) name) (backslash : '\\' ∉ name)
    (colon : ':' ∉ name) : PlainName name := by
  refine ⟨named.some, named.dot, named.dots, fun c among => ?_⟩
  have whole := named.whole c among
  have slash : c ≠ '/' := by
    rintro rfl
    cases platform <;> exact absurd whole (by decide)
  have noBackslash : c ≠ '\\' := by
    rintro rfl
    exact backslash among
  have noColon : c ≠ ':' := by
    rintro rfl
    exact colon among
  simp [slash, noBackslash, noColon]

/-- What is accepted lies strictly inside. -/
theorem keystoreDest_inside (accepted : keystoreDest platform root rel = .ok dest) :
    ∃ names : List (List Char), names ≠ [] ∧ (∀ name ∈ names, PlainName name) ∧ dest = root ++ names.map .normal := by
  obtain ⟨plain, some, rfl⟩ := keystoreDest_ok.mp accepted
  rw [List.all_eq_true] at plain
  have named := fun c among => normal_of_isPlain (plain c among)
  obtain ⟨names, parts⟩ := exists_names named
  refine ⟨names, ?_, fun name among => ?_, ?_⟩
  · rintro rfl
    exact some parts
  · have between : .normal name ∈ components platform rel.toList := by
      rw [parts]
      exact List.mem_map_of_mem among
    have free := isPlain_normal.mp (plain _ between)
    exact plainName platform (isName_of_mem named between) free.1 free.2
  · rw [parts, join_names]

/-- Every path that is collected leads to a file by at least one name. -/
theorem walk_some {tree : Tree platform} {steps : Nat} {stack out : List (List (FileName platform))}
    (some : ∀ names ∈ out, names ≠ []) : ∀ names ∈ walk tree steps stack out, names ≠ [] := by
  induction steps generalizing stack out with
  | zero => exact some
  | succ steps ih =>
    cases stack with
    | nil => exact some
    | cons dir stack =>
      simp only [walk]
      cases tree dir with
      | none => exact ih some
      | some entries =>
        apply ih
        intro names among
        rcases List.mem_append.mp among with old | new
        · exact some names old
        · obtain ⟨entry, _, read⟩ := List.mem_filterMap.mp new
          split at read
          · cases read
            simp
          · cases read

/-- Apart from what separates them, a written path has the characters of its names. -/
theorem mem_written {names : List (FileName platform)} {c : Char} (apart : isSep platform c = false) :
    c ∈ (written platform names).toList ↔ ∃ file ∈ names, c ∈ file.text := by
  unfold written
  rw [String.toList_ofList]
  constructor
  · intro among
    rcases mem_intercalate among with rfl | ⟨name, listed, within⟩
    · cases platform <;> exact absurd apart (by decide)
    · obtain ⟨file, further, rfl⟩ := List.mem_map.mp listed
      exact ⟨file, further, within⟩
  · rintro ⟨file, listed, within⟩
    exact mem_intercalate_of_mem (List.mem_map_of_mem listed) within

/-- The components of a written path are its names. -/
theorem components_written {names : List (FileName platform)} (some : names ≠ []) :
    components platform (written platform names).toList = (names.map (·.text)).map .normal := by
  have named : ∀ name ∈ names.map (·.text), IsName (isSep platform) name := by
    intro name among
    obtain ⟨file, _, rfl⟩ := List.mem_map.mp among
    exact file.named
  have texts : names.map (·.text) ≠ [] := by simpa using some
  unfold written
  rw [String.toList_ofList]
  cases platform with
  | unix => exact components_intercalate (by decide) texts named rfl
  | windows =>
    rw [if_neg (by decide)]
    apply components_intercalate (by decide) texts named
    apply parsePrefix_none (head_intercalate texts named)
    intro colon
    have listed : ':' ∈ (written .windows names).toList := by
      unfold written
      rw [String.toList_ofList]
      exact colon
    obtain ⟨file, _, within⟩ := (mem_written (by decide)).mp listed
    exact file.driveless rfl within

/-- A written path is of plain components just where its names hold neither a backslash nor a colon. -/
theorem all_isPlain_written {names : List (FileName platform)} (some : names ≠ []) :
    (components platform (written platform names).toList).all isPlain = true
      ↔ ∀ file ∈ names, '\\' ∉ file.text ∧ ':' ∉ file.text := by
  rw [components_written some, List.all_eq_true]
  constructor
  · intro plain file listed
    exact isPlain_normal.mp (plain _ (List.mem_map_of_mem (List.mem_map_of_mem listed)))
  · intro free c among
    obtain ⟨name, further, rfl⟩ := List.mem_map.mp among
    obtain ⟨file, listed, rfl⟩ := List.mem_map.mp further
    exact isPlain_normal.mpr (free file listed)

/-- What a backup wrote is taken back, unless on Unix a name holds a backslash or a colon. -/
theorem keystoreDest_written {names : List (FileName platform)} (some : names ≠ []) :
    (∃ dest, keystoreDest platform root (written platform names) = .ok dest)
      ↔ (platform = .unix → '\\' ∉ (written platform names).toList ∧ ':' ∉ (written platform names).toList) := by
  constructor
  · rintro ⟨dest, accepted⟩ rfl
    have free := (all_isPlain_written some).mp (keystoreDest_ok.mp accepted).1
    rw [mem_written (by decide), mem_written (by decide)]
    exact ⟨fun ⟨file, listed, within⟩ => (free file listed).1 within,
      fun ⟨file, listed, within⟩ => (free file listed).2 within⟩
  · intro free
    refine ⟨_, keystoreDest_ok.mpr ⟨(all_isPlain_written some).mpr fun file listed => ?_, ?_, rfl⟩⟩
    · cases platform with
      | unix =>
        have whole := free rfl
        rw [mem_written (by decide), mem_written (by decide)] at whole
        exact ⟨fun within => whole.1 ⟨file, listed, within⟩, fun within => whole.2 ⟨file, listed, within⟩⟩
      | windows =>
        -- The backslash separates, so no name holds one.
        refine ⟨fun within => ?_, file.driveless rfl⟩
        exact absurd (file.named.whole _ within) (by decide)
    · rw [components_written some]
      simpa using some

/-- The characters of a media id and of what is put behind it are no path characters. -/
theorem mediaFile_plain {id : String} (accepted : isMediaId id = true) : PlainName (mediaFile id).toList := by
  unfold isMediaId at accepted
  rw [Bool.and_eq_true, List.all_eq_true] at accepted
  have text : (mediaFile id).toList = id.toList ++ ['.', 'b', 'i', 'n'] := by
    unfold mediaFile
    rw [String.toList_append]
    rfl
  rw [text]
  have long : 4 ≤ (id.toList ++ ['.', 'b', 'i', 'n']).length := by simp
  refine ⟨?_, ?_, ?_, ?_⟩
  · intro same
    rw [same] at long
    exact absurd long (by decide)
  · intro same
    rw [same] at long
    exact absurd long (by decide)
  · intro same
    rw [same] at long
    exact absurd long (by decide)
  · intro c among
    rcases List.mem_append.mp among with inner | ending
    · have letter := of_decide_eq_true (accepted.2 c inner)
      have differs : c ≠ '/' ∧ c ≠ '\\' ∧ c ≠ ':' := by
        refine ⟨?_, ?_, ?_⟩ <;> rintro rfl <;> exact absurd letter (by decide)
      simp [differs]
    · fin_cases ending <;> decide

/-- A plain name is a name on every platform. -/
theorem PlainName.isName (plain : PlainName name) (platform : Platform) : IsName (isSep platform) name := by
  refine ⟨plain.some, plain.dot, plain.dots, fun c among => ?_⟩
  have free := plain.whole c among
  simp only [decide_eq_false_iff_not, not_or] at free
  cases platform <;> simp [isSep, free]

/-- A plain name put to a path is one more name behind it. -/
theorem join_plainName (plain : PlainName name) (platform : Platform) (root : List Component) :
    join root (components platform name) = root ++ [.normal name] := by
  have named : ∀ other ∈ [name], IsName (isSep platform) other := by
    intro other among
    rw [List.mem_singleton.mp among]
    exact plain.isName platform
  have alone : ['/'].intercalate [name] = name := List.intercalate_singleton ..
  have unled : parsePrefix platform (['/'].intercalate [name]) = none := by
    apply parsePrefix_none (head_intercalate (by simp) named)
    rw [alone]
    intro colon
    exact absurd (plain.whole _ colon) (by decide)
  have parts := components_intercalate (by cases platform <;> decide) (by simp) named unled
  rw [alone] at parts
  rw [parts, join_names]
  rfl

/-- Files taken from a backup stay where they belong. -/
theorem restored_files_contained (platform : Platform) (root : List Component) : Contained platform root where
  inside := fun rel dest accepted => keystoreDest_inside accepted
  collected := by
    intro tree steps rel among
    obtain ⟨names, walked, rfl⟩ := List.mem_map.mp among
    exact keystoreDest_written (walk_some (by simp) names walked)
  media := fun id accepted => ⟨mediaFile_plain accepted, join_plainName (mediaFile_plain accepted) platform root⟩

/-- A key file whose name holds a colon is written into a backup and refused when it is restored. -/
theorem colon_is_refused : ¬ ∀ (root : List Component) (tree : Tree .unix) (steps : Nat),
    ∀ rel ∈ collectOnionKeys tree steps, ∃ dest, keystoreDest .unix root rel = .ok dest := by
  intro all
  have named : IsName (isSep .unix) ['a', ':', 'b'] := ⟨by decide, by decide, by decide, by simp [isSep]⟩
  have collected : collectOnionKeys (fun _ => some [(⟨['a', ':', 'b'], named, nofun⟩, .file true)]) 1 = ["a:b"] := rfl
  obtain ⟨dest, accepted⟩ := all [] _ 1 "a:b" (collected ▸ List.mem_singleton_self _)
  have refused : keystoreDest .unix [] "a:b" = .error "backup carries an unsafe keystore path" := by decide +kernel
  rw [refused] at accepted
  cases accepted

end Keystore
end Nightdrop
