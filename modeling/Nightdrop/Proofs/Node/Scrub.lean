import Nightdrop.Proofs.Node.ScrubMatroska
import Nightdrop.Proofs.Node.ScrubAvi

/-! Whatever the bytes of a video, it is scrubbed where it stands or refused, and a scrubbed one is scrubbed for good. -/

namespace Nightdrop
namespace Scrub

variable {data out : Bytes} {list list' : List Chunk} {c c' : Chunk} {level : Level} {s s' : Scrubbed}

/-- The kinds of file that a video may be. -/
inductive Container where
  | matroska | avi | iso
deriving DecidableEq

/-- What a file is taken for. -/
def containerOf (data : Bytes) : Container :=
  if [0x1A, 0x45, 0xDF, 0xA3].isPrefixOf data then .matroska
  else if 12 ≤ data.length ∧ data.take 4 = utf8 "RIFF" ∧ (data.drop 8).take 4 = utf8 "AVI " then .avi
  else .iso

theorem scrubVideo_eq (data : Bytes) :
    scrubVideo data = match containerOf data with
      | .matroska => scrubMatroska (data, ⟨0, 0⟩)
      | .avi => scrubAvi (data, ⟨0, 0⟩)
      | .iso => scrubIso (data, ⟨0, 0⟩) := by
  unfold scrubVideo containerOf
  split
  · rfl
  · split <;> rfl

/-- An AVI file is of twelve bytes or more. -/
theorem containerOf_avi (avi : containerOf data = .avi) : 12 ≤ data.length := by
  unfold containerOf at avi
  split at avi
  · cases avi
  · split at avi
    · rename_i head
      exact head.1
    · cases avi

theorem isPrefixOf_take (data : Bytes) :
    [0x1A, 0x45, 0xDF, 0xA3].isPrefixOf data = [0x1A, 0x45, 0xDF, 0xA3].isPrefixOf (data.take 4) := by
  match data with
  | [] | [_] | [_, _] | [_, _, _] => rfl
  | a :: b :: c :: d :: more => simp [List.isPrefixOf]

/-- A file is told by its first four bytes, and by the four behind the next four where those say RIFF. -/
theorem containerOf_same (long : out.length = data.length) (first : out.take 4 = data.take 4)
    (next : data.take 4 = utf8 "RIFF" → (out.drop 8).take 4 = (data.drop 8).take 4) :
    containerOf out = containerOf data := by
  unfold containerOf
  rw [isPrefixOf_take out, isPrefixOf_take data, first, long]
  split
  · rfl
  · by_cases riff : data.take 4 = utf8 "RIFF"
    · rw [next riff]
    · simp only [riff, false_and, and_false]

/-- The size field of a box is not changed. -/
theorem Scrubs.size (scrubs : Scrubs level c c') (long : 8 ≤ c.header.length) :
    c'.header.take 4 = c.header.take 4 ∧ c'.header.length = c.header.length := by
  have blankedHeader : (blanked c).header.take 4 = c.header.take 4 ∧ (blanked c).header.length = c.header.length := by
    have free : (utf8 "free").length = 4 := by decide
    have four : (c.header.take 4).length = 4 := by
      rw [List.length_take]
      omega
    refine ⟨List.take_left' four, ?_⟩
    simp only [blanked, List.length_append, List.length_drop, four, free]
    omega
  -- Zeroed times are in the body, and a blanked box changes its type alone.
  cases level with
  | last timed =>
    simp only [Scrubs] at scrubs
    split at scrubs <;> rw [scrubs]
    · exact ⟨by rw [untimed_header], by rw [untimed_header]⟩
    · exact ⟨rfl, rfl⟩
  | outer timed holder inside =>
    simp only [Scrubs] at scrubs
    split at scrubs
    · rw [scrubs]
      exact ⟨by rw [untimed_header], by rw [untimed_header]⟩
    · split at scrubs
      · obtain ⟨_, _, _, _, rfl⟩ := scrubs
        exact ⟨rfl, rfl⟩
      · split at scrubs <;> rw [scrubs]
        · exact blankedHeader
        · exact ⟨rfl, rfl⟩

/-- The first size field of some boxes is not changed. -/
theorem scrubs_first (headers : ∀ c ∈ list, 8 ≤ c.header.length) (each : List.Forall₂ (Scrubs level) list list')
    (some' : list ≠ []) (rest rest' : Bytes) : (joined list' ++ rest').take 4 = (joined list ++ rest).take 4 := by
  -- The first box decides.
  cases each with
  | nil => exact absurd rfl some'
  | @cons c c' list list' one _ =>
    have long := headers c (by simp)
    obtain ⟨same, count⟩ := one.size long
    simp only [joined_cons, Chunk.bytes, List.append_assoc]
    rw [List.take_append_of_le_length (by omega), List.take_append_of_le_length (by omega), same]

/-- A scrubbed ISO video is taken for one again. -/
theorem scrubIso_container (scrubbed : scrubIso (data, s) = .ok (out, s')) : containerOf out = containerOf data := by
  have long := (scrubIso_scrubbed scrubbed).long
  obtain ⟨list', rest', each, rfl, _, first, _⟩ := scrubIso_parts scrubbed
  have cuts := isoHeading.cut_cuts data
  have headers := cuts_headers cuts
  have whole := cuts.joined
  generalize (isoHeading.cut data).1 = list at cuts headers whole each first
  generalize (isoHeading.cut data).2 = rest at cuts whole
  have some' : list ≠ [] := by
    -- A file that was scrubbed has a first box.
    intro none
    subst none
    simp at first
  refine containerOf_same long ?_ ?_
  · rw [scrubs_first headers each some' rest rest', whole]
  · intro riff
    cases each with
    | nil => exact absurd rfl some'
    | @cons c c' list list' one later =>
      cases cuts with
      | @next _ bytes _ _ led more =>
        obtain ⟨_, count⟩ := one.size (led_header led)
        -- A first box of that size has a header of eight bytes and a long body.
        have eight : c.header.length = 8 ∧ 4 ≤ c.body.length := by
          rw [isoHeading_read] at led
          cases head : Movie.boxHead (c.bytes ++ bytes) with
          | none => simp [head] at led
          | some both =>
            obtain ⟨taken, size⟩ := both
            simp only [head] at led
            split at led
            · cases led
            · cases led
              have number : ofBigEndian (utf8 "RIFF") = 1380533830 := by decide
              obtain ⟨_, said⟩ := Movie.boxHead_some head
              rw [riff, number] at said
              have body : c.bytes.length = c.header.length + c.body.length := by rw [Chunk.bytes, List.length_append]
              omega
        -- A first box that is no movie is of a type that stays.
        have plain : isoKind c ≠ utf8 "moov" → c' = c := by
          intro unmoved
          simp only [List.head?_cons, Option.map_some, Option.getD_some] at first
          have described := first_plain first
          simp only [TOP, Scrubs, reduceCtorEq, if_false, if_neg unmoved] at one
          rwa [described, if_neg (by simp)] at one
        -- What follows the header begins as it did.
        have body : c'.body.take 4 = c.body.take 4 ∧ 4 ≤ c'.body.length := by
          by_cases moov : isoKind c = utf8 "moov"
          · have same := (one.replaces (led_header led)).1
            have longer : 4 ≤ c'.body.length := by
              simp only [Chunk.bytes, List.length_append] at same
              omega
            refine ⟨?_, longer⟩
            simp only [TOP, Scrubs, reduceCtorEq, if_false, if_pos moov] at one
            obtain ⟨inner, inner', cuts', each', rfl⟩ := one
            have held := cuts'.joined
            have filled : inner ≠ [] := by
              intro none
              subst none
              have empty : c.body = [] := held.symm
              rw [empty] at eight
              exact absurd eight.2 (by decide)
            -- Within the movie it is the first box's size that begins the body.
            have lead := scrubs_first (cuts_headers cuts') each' filled [] []
            rw [List.append_nil, held] at lead
            exact lead
          · rw [plain moov]
            exact ⟨rfl, eight.2⟩
        have split : ∀ d : Chunk, d.header.length = 8 → 4 ≤ d.body.length → ∀ behind : Bytes,
            ((d.bytes ++ behind).drop 8).take 4 = d.body.take 4 := by
          intro d eight' four behind
          rw [Chunk.bytes, List.append_assoc, List.drop_left' eight', List.take_append_of_le_length four]
        rw [joined_cons, List.append_assoc, split c' (by omega) body.2, split c eight.1 eight.2, body.1]

/-- An ISO video that is scrubbed keeps every byte but those that describe the recording, and none of these is left. -/
theorem scrubVideo_iso (kind : containerOf data = .iso) (scrubbed : scrubVideo data = .ok (out, s)) :
    IsoScrubbed data out := by
  rw [scrubVideo_eq, kind] at scrubbed
  exact scrubIso_scrubbed scrubbed

/-- A movie that says where it was made, scrubbed. -/
theorem scrubVideo_iso_located :
    IsoScrubbed ([0, 0, 0, 20] ++ utf8 "moov" ++ [0, 0, 0, 12] ++ utf8 "udta" ++ [1, 2, 3, 4])
      ([0, 0, 0, 20] ++ utf8 "moov" ++ [0, 0, 0, 12] ++ utf8 "free" ++ [0, 0, 0, 0]) :=
  scrubVideo_iso (s := ⟨1, 0⟩) (by decide) (by decide)

/-- An AVI video that is scrubbed keeps every byte but those that describe the recording, and none of these is left. -/
theorem scrubVideo_avi (kind : containerOf data = .avi) (scrubbed : scrubVideo data = .ok (out, s)) :
    AviScrubbed data out := by
  rw [scrubVideo_eq, kind] at scrubbed
  exact scrubAvi_scrubbed (containerOf_avi kind) scrubbed

/-- A list of descriptive texts, scrubbed. -/
theorem scrubVideo_avi_described :
    AviScrubbed (utf8 "RIFF" ++ [18, 0, 0, 0] ++ utf8 "AVI LIST" ++ [6, 0, 0, 0] ++ utf8 "INFOab")
      (utf8 "RIFF" ++ [18, 0, 0, 0] ++ utf8 "AVI JUNK" ++ [6, 0, 0, 0] ++ List.replicate 6 0) :=
  scrubVideo_avi (s := ⟨1, 0⟩) (by decide) (by decide)

/-- The first bytes of an element that leads a file are not changed. -/
theorem take_of_front {first : Nat} (front : out.take first = data.take first) {count : Nat} (early : count ≤ first) :
    out.take count = data.take count := by
  have shorter := congrArg (List.take count) front
  rwa [List.take_take, List.take_take, Nat.min_eq_left early] at shorter

/-- A scrubbed video is taken for what it was, and another scrub changes nothing in it. -/
theorem scrubVideo_again (small : data.length < 2 ^ 56) (scrubbed : scrubVideo data = .ok (out, s)) :
    containerOf out = containerOf data ∧ ∃ s', scrubVideo out = .ok (out, s') := by
  have parts : containerOf out = containerOf data := by
    rw [scrubVideo_eq] at scrubbed
    cases kind : containerOf data with
    | matroska =>
      rw [kind] at scrubbed
      obtain ⟨first, last, made⟩ := scrubMatroska_scrubbed small scrubbed
      have same : out.take 4 = data.take 4 := take_of_front made.front (segmentOf_four made.found)
      -- Only one of the three kinds begins so.
      have magic : data.take 4 ≠ utf8 "RIFF" := by
        intro riff
        unfold containerOf at kind
        rw [isPrefixOf_take, riff, if_neg (by decide)] at kind
        split at kind <;> cases kind
      rw [← kind]
      exact containerOf_same made.long same (fun riff => absurd riff magic)
    | avi =>
      rw [kind] at scrubbed
      have made := scrubAvi_scrubbed (containerOf_avi kind) scrubbed
      rw [← kind]
      -- The head of an AVI file is not touched.
      refine containerOf_same made.long (take_of_front made.front (by omega)) (fun _ => ?_)
      have shorter := congrArg (List.drop 8) made.front
      simpa only [List.drop_take] using shorter
    | iso =>
      rw [kind] at scrubbed
      rw [scrubIso_container scrubbed, kind]
  refine ⟨parts, ?_⟩
  rw [scrubVideo_eq] at scrubbed
  rw [scrubVideo_eq, parts]
  cases kind : containerOf data with
  | matroska =>
    rw [kind] at scrubbed
    exact scrubMatroska_again small scrubbed
  | avi =>
    rw [kind] at scrubbed
    exact scrubAvi_again (containerOf_avi kind) scrubbed
  | iso =>
    rw [kind] at scrubbed
    exact scrubIso_again scrubbed

/-- A movie with a trailer, scrubbed twice. -/
theorem scrubVideo_again_trailer :
    containerOf ([0, 0, 0, 8] ++ utf8 "moov" ++ [0, 0, 0]) = containerOf ([0, 0, 0, 8] ++ utf8 "moov" ++ [1, 2, 3])
    ∧ ∃ s', scrubVideo ([0, 0, 0, 8] ++ utf8 "moov" ++ [0, 0, 0])
      = .ok ([0, 0, 0, 8] ++ utf8 "moov" ++ [0, 0, 0], s') :=
  scrubVideo_again (s := ⟨1, 0⟩) (by decide) (by decide)

end Scrub
end Nightdrop
