import Nightdrop.Lib.Utf8
import Nightdrop.Node.Names

/-! A cleaned name shows nothing that misleads and cleans to itself, and no cut splits a character. -/

namespace Nightdrop
namespace Names

/-- What holds of a name while it is being collapsed. -/
structure Neat (out : List Char) : Prop where
  short : out.length ≤ MAX_NAME_CHARS
  visible : ∀ c ∈ out, invisible c = false
  spaces : ∀ c ∈ out, isSpace c = true → c = ' '
  single : out.IsChain fun a b => ¬ (a = ' ' ∧ b = ' ')
  front : out.head? ≠ .some ' '
  back : out.getLast? ≠ .some ' '

theorem isSpace_space : isSpace ' ' = true := by decide

theorem invisible_space : invisible ' ' = false := by decide

/-- A character that is no white space is not the space. -/
theorem ne_space {c : Char} (letter : ¬ isSpace c = true) : c ≠ ' ' := by
  rintro rfl
  exact letter isSpace_space

theorem neat_nil : Neat [] := by
  refine ⟨by decide, ?_, ?_, List.isChain_nil, ?_, ?_⟩ <;> simp

/-- A letter behind a neat name leaves it neat. -/
theorem Neat.letter {out : List Char} {c : Char} (neat : Neat out) (letter : ¬ isSpace c = true)
    (seen : invisible c = false) (room : out.length < MAX_NAME_CHARS) : Neat (out ++ [c]) := by
  have differs := ne_space letter
  refine ⟨?_, ?_, ?_, ?_, ?_, ?_⟩
  · rw [List.length_append, List.length_singleton]
    omega
  · intro b among
    rcases List.mem_append.mp among with old | new
    · exact neat.visible b old
    · rw [List.mem_singleton.mp new]
      exact seen
  · intro b among space
    rcases List.mem_append.mp among with old | new
    · exact neat.spaces b old space
    · rw [List.mem_singleton.mp new] at space
      exact absurd space letter
  · apply neat.single.append (List.isChain_singleton c)
    intro a _ b first both
    rw [List.head?_cons, Option.mem_some_iff] at first
    exact differs (first.trans both.2)
  · cases out with
    | nil => simpa using differs
    | cons a out => exact neat.front
  · simpa using differs

/-- A space and a letter behind a neat name leave it neat. -/
theorem Neat.spaced {out : List Char} {c : Char} (neat : Neat out) (some : out ≠ [])
    (letter : ¬ isSpace c = true) (seen : invisible c = false) (room : out.length + 1 < MAX_NAME_CHARS) :
    Neat (out ++ [' '] ++ [c]) := by
  have differs := ne_space letter
  refine ⟨?_, ?_, ?_, ?_, ?_, ?_⟩
  · rw [List.length_append, List.length_append, List.length_singleton, List.length_singleton]
    omega
  · intro b among
    rw [List.append_assoc, List.mem_append] at among
    rcases among with old | new
    · exact neat.visible b old
    · rcases List.mem_pair.mp new with rfl | rfl
      · exact invisible_space
      · exact seen
  · intro b among space
    rw [List.append_assoc, List.mem_append] at among
    rcases among with old | new
    · exact neat.spaces b old space
    · rcases List.mem_pair.mp new with rfl | rfl
      · rfl
      · exact absurd space letter
  · -- Neither the end of the name nor the letter is a space.
    rw [List.append_assoc]
    apply neat.single.append
    · rw [List.singleton_append, List.isChain_pair]
      exact fun both => differs both.2
    · intro a last b _ both
      rw [both.1] at last
      exact neat.back last
  · cases out with
    | nil => exact absurd rfl some
    | cons a out => exact neat.front
  · simpa using differs

/-- Collapsing keeps a name neat. -/
theorem collapseName_neat {out rest : List Char} {pending : Bool} (neat : Neat out) (due : pending = true → out ≠ [])
    (seen : ∀ c ∈ rest, invisible c = false) : Neat (collapseName out pending rest) := by
  induction rest generalizing out pending with
  | nil => exact neat
  | cons c rest ih =>
    have later : ∀ c ∈ rest, invisible c = false := fun b among => seen b (List.mem_cons_of_mem _ among)
    have visible := seen c List.mem_cons_self
    unfold collapseName
    split
    · exact ih neat (by simp) later
    · rename_i letter
      split
      · exact neat
      · rename_i room
        split
        · rename_i spaced
          exact ih (neat.spaced (due spaced.1) letter visible spaced.2) (by simp) later
        · exact ih (neat.letter letter visible (by omega)) (by simp) later

/-- A neat name is what it collapses to. -/
theorem collapseName_of_neat {out rest : List Char} {pending : Bool}
    (neat : Neat (out ++ (if pending then [' '] else []) ++ rest)) (due : pending = true → out ≠ []) :
    collapseName out pending rest = out ++ (if pending then [' '] else []) ++ rest := by
  induction rest generalizing out pending with
  | nil =>
    -- A space that is still due would be the last character.
    cases pending with
    | false => simp [collapseName]
    | true => exact absurd (by simp) neat.back
  | cons c rest ih =>
    unfold collapseName
    split
    · rename_i space
      obtain rfl : c = ' ' := neat.spaces c (by simp) space
      cases pending with
      | true =>
        have apart := neat.single
        rw [if_pos rfl, List.append_assoc, List.singleton_append, List.isChain_append_cons_cons] at apart
        exact absurd ⟨rfl, rfl⟩ apart.2.1
      | false =>
        have some : out ≠ [] := by
          rintro rfl
          exact neat.front rfl
        have split : out ++ (if false = true then [' '] else []) ++ ' ' :: rest
            = out ++ (if decide (out ≠ []) then [' '] else []) ++ rest := by
          simp [some]
        rw [split] at neat ⊢
        exact ih neat (fun _ => some)
    · rename_i letter
      have short := neat.short
      rw [List.length_append, List.length_append, List.length_cons] at short
      rw [if_neg (by omega)]
      cases pending with
      | true =>
        rw [if_pos rfl, List.length_singleton] at short
        rw [if_pos ⟨rfl, by omega⟩]
        have split : out ++ (if true = true then [' '] else []) ++ c :: rest
            = (out ++ [' '] ++ [c]) ++ (if false = true then [' '] else []) ++ rest := by simp
        rw [split] at neat ⊢
        exact ih neat (by simp)
      | false =>
        rw [if_neg (by simp)]
        have split : out ++ (if false = true then [' '] else []) ++ c :: rest
            = (out ++ [c]) ++ (if false = true then [' '] else []) ++ rest := by simp
        rw [split] at neat ⊢
        exact ih neat (by simp)

theorem letters_append (a b : List Char) : letters (a ++ b) = letters a ++ letters b := List.filter_append ..

theorem letters_space {c : Char} (space : isSpace c = true) (rest : List Char) : letters (c :: rest) = letters rest := by
  simp [letters, space]

theorem letters_letter {c : Char} (letter : ¬ isSpace c = true) (seen : invisible c = false) (rest : List Char) :
    letters (c :: rest) = c :: letters rest := by
  simp [letters, letter, seen]

/-- Removing what is invisible takes no letter. -/
theorem letters_visible (raw : List Char) : letters (raw.filter (!invisible ·)) = letters raw := by
  unfold letters
  rw [List.filter_filter]
  congr 1
  funext c
  cases invisible c <;> simp

/-- Only a name without letters collapses to nothing. -/
theorem collapseName_eq_nil {out rest : List Char} {pending : Bool} (seen : ∀ c ∈ rest, invisible c = false) :
    collapseName out pending rest = [] ↔ out = [] ∧ letters rest = [] := by
  induction rest generalizing out pending with
  | nil => simp [collapseName, letters]
  | cons c rest ih =>
    have later : ∀ c ∈ rest, invisible c = false := fun b among => seen b (List.mem_cons_of_mem _ among)
    have visible := seen c List.mem_cons_self
    unfold collapseName
    split
    · rename_i space
      rw [ih later, letters_space space]
    · rename_i letter
      rw [letters_letter letter visible]
      split
      · rename_i full
        have some : out ≠ [] := by
          rintro rfl
          exact absurd full (by decide)
        simp [some]
      · rw [ih later]
        simp

/-- The letters that are kept are the first ones. -/
theorem letters_collapseName {out rest : List Char} {pending : Bool} (seen : ∀ c ∈ rest, invisible c = false) :
    letters (collapseName out pending rest) <+: letters out ++ letters rest := by
  induction rest generalizing out pending with
  | nil => exact ⟨[], by simp [collapseName, letters]⟩
  | cons c rest ih =>
    have later : ∀ c ∈ rest, invisible c = false := fun b among => seen b (List.mem_cons_of_mem _ among)
    have visible := seen c List.mem_cons_self
    have alone : letters [c] ++ letters rest = letters (c :: rest) := by rw [← letters_append]; rfl
    unfold collapseName
    split
    · rename_i space
      rw [letters_space space]
      exact ih later
    · split
      · exact List.prefix_append _ _
      · rw [← alone, ← List.append_assoc, ← letters_append]
        split
        · have same : letters (out ++ [c]) = letters (out ++ [' '] ++ [c]) := by
            rw [letters_append, letters_append, letters_append, letters_space isSpace_space]
            simp [letters]
          rw [same]
          exact ih later
        · exact ih later

theorem visible_filter (raw : List Char) : ∀ c ∈ raw.filter (!invisible ·), invisible c = false := by
  intro c among
  simpa using (List.mem_filter.mp among).2

theorem neat_default : Neat DEFAULT_NAME.toList := by
  have all : DEFAULT_NAME.toList.all (fun c => !invisible c && !isSpace c) = true := by decide
  rw [List.all_eq_true] at all
  refine ⟨by decide, ?_, ?_, by decide +kernel, by decide +kernel, by decide +kernel⟩
  · intro c among
    have letter := all c among
    simp only [Bool.and_eq_true, Bool.not_eq_true'] at letter
    exact letter.1
  · intro c among space
    have letter := all c among
    simp only [Bool.and_eq_true, Bool.not_eq_true'] at letter
    rw [letter.2] at space
    cases space

/-- A cleaned name is neat. -/
theorem cleanDisplayName_neat (raw : String) :
    Neat (cleanDisplayName raw).toList ∧ (cleanDisplayName raw).toList ≠ [] := by
  unfold cleanDisplayName
  simp only
  split
  · exact ⟨neat_default, by decide +kernel⟩
  · rename_i some
    rw [String.toList_ofList]
    exact ⟨collapseName_neat neat_nil (by simp) (visible_filter _), some⟩

/-- A neat name is left as it is. -/
theorem cleanDisplayName_of_neat {name : String} (neat : Neat name.toList) (some : name.toList ≠ []) :
    cleanDisplayName name = name := by
  have all : name.toList.filter (!invisible ·) = name.toList := by
    rw [List.filter_eq_self]
    intro c among
    rw [neat.visible c among]
    rfl
  have collapsed := @collapseName_of_neat [] name.toList false (by simpa using neat) (by simp)
  unfold cleanDisplayName
  rw [all, collapsed]
  simp only [Bool.false_eq_true, if_false, List.append_nil, List.nil_append]
  rw [if_neg some, String.ofList_toList]

theorem isControl_of_visible {c : Char} (visible : invisible c = false) : isControl c = false := by
  unfold invisible at visible
  unfold isControl
  simp only [decide_eq_false_iff_not] at visible ⊢
  tauto

theorem isBidi_of_visible {c : Char} (visible : invisible c = false) : isBidi c = false := by
  unfold invisible at visible
  unfold isBidi
  simp only [decide_eq_false_iff_not, List.mem_cons, List.not_mem_nil, or_false] at visible ⊢
  omega

theorem Neat.shown {name : List Char} (neat : Neat name) (some : name ≠ []) : Shown name where
  some := some
  short := neat.short
  control := fun c among => isControl_of_visible (neat.visible c among)
  bidi := fun c among => isBidi_of_visible (neat.visible c among)
  visible := neat.visible
  spaces := neat.spaces
  single := neat.single
  front := neat.front
  back := neat.back

/-- Every name is cleaned as it should be. -/
theorem cleaned (raw : String) : Cleaned raw where
  shown := (cleanDisplayName_neat raw).1.shown (cleanDisplayName_neat raw).2
  again := cleanDisplayName_of_neat (cleanDisplayName_neat raw).1 (cleanDisplayName_neat raw).2
  leading := by
    intro some
    have kept : ¬ collapseName [] false (raw.toList.filter (!invisible ·)) = [] := by
      rw [collapseName_eq_nil (visible_filter _), letters_visible]
      exact fun none => some none.2
    unfold cleanDisplayName
    simp only
    rw [if_neg kept, String.toList_ofList, ← letters_visible raw.toList]
    exact letters_collapseName (visible_filter _)
  default := by
    intro none
    have nothing : collapseName [] false (raw.toList.filter (!invisible ·)) = [] := by
      rw [collapseName_eq_nil (visible_filter _), letters_visible]
      exact ⟨rfl, none⟩
    unfold cleanDisplayName
    simp only
    rw [if_pos nothing]

/-- The bytes of a text are those of its characters. -/
theorem utf8_ofList (chars : List Char) : utf8 (String.ofList chars) = chars.flatMap String.utf8EncodeChar := by
  unfold utf8
  rw [String.toUTF8_eq_toByteArray, String.bytes_ofList]
  simp [List.utf8Encode]

theorem continues_low (n : Nat) : continues (UInt8.ofNat (n % 0x40 + 0x80)) = true := by
  simp [continues, UInt8.le_iff_toNat_le]
  omega

theorem continues_lead {n : Nat} (lead : n < 0x80 ∨ (0xC0 ≤ n ∧ n < 0x100)) : continues (UInt8.ofNat n) = false := by
  simp [continues, UInt8.le_iff_toNat_le]
  omega

/-- Every character leads with a byte that continues none, and goes on with bytes that do. -/
theorem utf8_code : Synchronizing.Code String.utf8EncodeChar continues where
  word := by
    intro c
    have goes : ∀ low : List ℕ, ∀ b ∈ low.map fun n => UInt8.ofNat (n % 0x40 + 0x80), continues b = true := by
      intro low b among
      obtain ⟨n, _, rfl⟩ := List.mem_map.mp among
      exact continues_low n
    unfold String.utf8EncodeChar
    simp only
    split
    · exact ⟨_, _, rfl, continues_lead (by omega), by simp⟩
    · split
      · exact ⟨_, _, rfl, continues_lead (by omega), goes [c.toNat]⟩
      · split
        · exact ⟨_, _, rfl, continues_lead (by omega), goes [c.toNat / 64, c.toNat]⟩
        · exact ⟨_, _, rfl, continues_lead (by omega), goes [c.toNat / 4096, c.toNat / 64, c.toNat]⟩

theorem takeBytes_eq (room : Nat) (chars : List Char) :
    takeBytes room chars = Synchronizing.takeFit (fun c => (String.utf8EncodeChar c).length) room chars := by
  induction chars generalizing room with
  | nil => rfl
  | cons c rest ih =>
    unfold takeBytes Synchronizing.takeFit
    rw [String.length_utf8EncodeChar, ih]

/-- A long text is cut behind the characters that fit. -/
theorem take_clampEnd {text : String} (long : MAX_TEXT_BYTES < text.utf8ByteSize) :
    (utf8 text).take (clampEnd text) = utf8 (String.ofList (takeBytes MAX_TEXT_BYTES text.toList)) := by
  have bytes : utf8 text = text.toList.flatMap String.utf8EncodeChar := by
    rw [← utf8_ofList, String.ofList_toList]
  have within : MAX_TEXT_BYTES ≤ (text.toList.flatMap String.utf8EncodeChar).length := by
    rw [← bytes, length_utf8]
    omega
  unfold clampEnd
  rw [bytes, Synchronizing.take_floorBoundary utf8_code _ within, utf8_ofList, takeBytes_eq]

/-- Every text is cut between characters. -/
theorem clamped (text : String) : Clamped text where
  boundary := Synchronizing.boundary_floorBoundary continues (utf8 text) MAX_TEXT_BYTES
  within := Synchronizing.floorBoundary_le continues (utf8 text) MAX_TEXT_BYTES
  whole := by
    intro long
    refine ⟨takeBytes MAX_TEXT_BYTES text.toList, ?_, take_clampEnd long⟩
    rw [takeBytes_eq]
    exact Synchronizing.takeFit_prefix ..
  bytes := by
    unfold clampBytes clampText
    rw [length_utf8]
    split
    · rfl
    · rename_i long
      rw [take_clampEnd (by omega), utf8_append]

/-- Every name is cleaned as it should be, and every text cut between characters. -/
theorem names_cleaned : (∀ raw, Cleaned raw) ∧ ∀ text, Clamped text := ⟨cleaned, clamped⟩

/-- The joiner builds composite emoji and is kept, though it has no width. -/
theorem joiner_is_kept : ¬ ∀ raw : String, ∀ c ∈ (cleanDisplayName raw).toList, isZeroWidth c = false := by
  intro all
  have kept : (cleanDisplayName "a\u200db").toList.all (fun c => !isZeroWidth c) = false := by decide +kernel
  rw [List.all_eq_false] at kept
  obtain ⟨c, among, joins⟩ := kept
  exact joins (by rw [all _ c among]; rfl)

end Names
end Nightdrop
