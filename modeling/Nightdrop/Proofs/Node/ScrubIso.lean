import Nightdrop.Node.Scrub
import Nightdrop.Proofs.Node.Movie
import Nightdrop.Lib.Chunks

/-! An ISO video is scrubbed where it stands, box by box, and says nothing of its recording afterwards. -/

namespace Nightdrop
namespace Scrub

open Movie (slice slice_of_le)

variable {data before behind out : Bytes} {list : List Chunk} {c c' : Chunk}

/-- A header that is read takes eight or sixteen bytes, and its box is within the data. -/
theorem isoRead_fits {data : Bytes} {header size : Nat}
    (read : (match Movie.boxHead data with
      | some (header, size) => if size < header ∨ data.length < size then none else some (header, size)
      | none => none) = some (header, size)) : 0 < header ∧ header ≤ size ∧ size ≤ data.length := by
  cases head : Movie.boxHead data with
  | none => simp [head] at read
  | some both =>
    simp only [head] at read
    split at read
    · cases read
    · cases read
      unfold Movie.boxHead at head
      split at head
      · cases head
      · grind

/-- The headers of the boxes of an ISO file. -/
def isoHeading : Heading where
  read data :=
    match Movie.boxHead data with
    | some (header, size) => if size < header ∨ data.length < size then none else some (header, size)
    | none => none
  fits := isoRead_fits

theorem isoHeading_read (data : Bytes) :
    isoHeading.read data = match Movie.boxHead data with
      | some (header, size) => if size < header ∨ data.length < size then none else some (header, size)
      | none => none := rfl

/-- The type of a box. -/
def isoKind (c : Chunk) : Bytes := (c.header.drop 4).take 4

/-- A box where it stands in a file. -/
def isoPlace (start : Nat) (c : Chunk) : IsoBox := ⟨isoKind c, start, start + c.header.length, start + c.bytes.length⟩

/-- Bytes between others are read by themselves. -/
theorem slice_between {first last : Nat} (order : first ≤ last) (within : last ≤ data.length) :
    slice (before ++ (data ++ behind)) (before.length + first) (before.length + last) = slice data first last := by
  rw [slice_of_le order within, slice_of_le (by omega) (by simp only [List.length_append]; omega)]
  -- What is taken ends before the bytes behind, and what is dropped begins behind the bytes before.
  rw [List.take_length_add_append, List.drop_length_add_append, List.take_append_of_le_length within]

/-- What is read is a run of the bytes from where it begins. -/
theorem slice_eq_some {first last : Nat} {read : Bytes} (found : slice data first last = some read) :
    read = (data.drop first).take (last - first) ∧ last ≤ data.length := by
  unfold slice at found
  split at found
  · rename_i fits
    cases found
    exact ⟨by rw [List.drop_take], fits.2⟩
  · cases found

/-- How long the header of the box at `p` is and the whole box, if it fits. -/
def isoHeadAt (data : Bytes) (p last : Nat) : Option (Nat × Nat) :=
  match slice data p (p + 8) with
  | none => none
  | some head =>
    match isoSize data head p last with
    | none => none
    | some (header, size) => if size < header ∨ last - p < size then none else some (header, size)

/-- One step of the walk over boxes. -/
theorem isoBoxesFrom_succ (steps : Nat) (data : Bytes) (p last : Nat) :
    isoBoxesFrom (steps + 1) data p last =
      if last ≤ p then ([], true)
      else match isoHeadAt data p last with
      | none => ([], false)
      | some (header, size) =>
        (⟨((data.drop p).drop 4).take 4, p, p + header, p + size⟩ :: (isoBoxesFrom steps data (p + size) last).1,
          (isoBoxesFrom steps data (p + size) last).2) := by
  rw [isoBoxesFrom, isoHeadAt]
  split
  · rfl
  · cases found : slice data p (p + 8) with
    | none => rfl
    | some head =>
      -- The type is the second half of the eight bytes read.
      have kind : head.drop 4 = ((data.drop p).drop 4).take 4 := by
        rw [(slice_eq_some found).1, List.drop_take]
        congr 1
        omega
      simp only [kind]
      cases isoSize data head p last with
      | none => rfl
      | some both =>
        obtain ⟨header, size⟩ := both
        dsimp only
        split <;> rfl

/-- The header of a box is read from its own bytes: those behind them never make a box that fits. -/
theorem isoHeadAt_between (some' : data ≠ []) :
    isoHeadAt (before ++ (data ++ behind)) before.length (before.length + data.length) = isoHeading.read data := by
  have positive : 0 < data.length := List.length_pos_iff.mpr some'
  unfold isoHeadAt isoHeading
  by_cases long : 8 ≤ data.length
  · have head := @slice_between _ before behind 0 8 (by omega) long
    rw [Nat.add_zero, slice_of_le (by omega) long, List.drop_zero] at head
    have size : (data.take 8).take 4 = data.take 4 := by rw [List.take_take, Nat.min_eq_left (by omega)]
    have whole : before.length + data.length - before.length = data.length := by omega
    simp only [head, isoSize, size, whole, Movie.boxHead, if_neg (Nat.not_lt.mpr long)]
    by_cases zero : ofBigEndian (data.take 4) = 0
    · simp only [zero, if_true]
    · by_cases one : ofBigEndian (data.take 4) = 1
      · simp only [one, if_true, if_neg (show ¬ 1 = 0 by omega)]
        by_cases wide : 16 ≤ data.length
        · have more := @slice_between _ before behind 8 16 (by omega) wide
          rw [slice_of_le (by omega) wide, List.drop_take] at more
          simp only [more, Option.map_some, if_neg (Nat.not_lt.mpr wide)]
        · -- A box of a long header does not fit into so few bytes.
          rw [if_pos (by omega)]
          cases slice (before ++ (data ++ behind)) (before.length + 8) (before.length + 16) with
          | none => rfl
          | some b =>
            simp only [Option.map_some]
            rw [if_pos (by omega)]
      · simp only [zero, one, if_false]
  · -- Fewer than eight bytes are no box, whatever stands behind them.
    have short : Movie.boxHead data = none := by
      unfold Movie.boxHead
      rw [if_pos (by omega)]
    simp only [short]
    cases slice (before ++ (data ++ behind)) before.length (before.length + 8) with
    | none => rfl
    | some head =>
      dsimp only
      cases found : isoSize (before ++ (data ++ behind)) head before.length (before.length + data.length) with
      | none => rfl
      | some both =>
        obtain ⟨header, size⟩ := both
        dsimp only
        unfold isoSize at found
        split at found
        · cases found
          rw [if_pos (by omega)]
        · split at found
          · obtain ⟨read, _, same⟩ := Option.map_eq_some_iff.mp found
            cases same
            rw [if_pos (by omega)]
          · cases found
            rw [if_pos (by omega)]

/-- The header of a box takes eight or sixteen bytes. -/
theorem isoHeading_header {header size : Nat} (read : isoHeading.read data = some (header, size)) :
    8 ≤ data.length ∧ (header = 8 ∨ header = 16) := by
  unfold isoHeading at read
  cases head : Movie.boxHead data with
  | none => simp [head] at read
  | some both =>
    simp only [head] at read
    split at read
    · cases read
    · cases read
      have said := Movie.boxHead_some head
      omega

/-- The boxes of some bytes between others are the chunks they are cut into, where these stand. -/
theorem isoBoxesFrom_between {rest : Bytes} (cuts : isoHeading.Cuts data list rest) {steps : Nat}
    (enough : data.length ≤ steps) (before behind : Bytes) :
    isoBoxesFrom steps (before ++ (data ++ behind)) before.length (before.length + data.length)
      = (places isoPlace before.length list, decide (rest = [])) := by
  induction cuts generalizing steps before with
  | @stop rest unled =>
    by_cases empty : rest = []
    · subst empty
      cases steps <;> simp [isoBoxesFrom, places]
    · have positive : 0 < rest.length := List.length_pos_iff.mpr empty
      cases steps with
      | zero => omega
      | succ steps =>
        rw [isoBoxesFrom_succ, if_neg (by omega), isoHeadAt_between empty, unled]
        simp [places, empty]
  | @next c data rest list led more ih =>
    have fits := isoHeading.fits led
    have positive : 0 < (c.bytes ++ data).length := by omega
    cases steps with
    | zero => omega
    | succ steps =>
      have some' : c.bytes ++ data ≠ [] := List.length_pos_iff.mp positive
      rw [isoBoxesFrom_succ, if_neg (by omega), isoHeadAt_between some', led]
      -- The rest of the walk is the walk over what stands behind the box.
      have shape : before ++ ((c.bytes ++ data) ++ behind) = (before ++ c.bytes) ++ (data ++ behind) := by
        simp only [List.append_assoc]
      have last : before.length + (c.bytes ++ data).length = (before ++ c.bytes).length + data.length := by
        simp only [List.length_append, Nat.add_assoc]
      have later := @ih steps (by simp only [List.length_append] at enough; omega) (before ++ c.bytes)
      rw [List.length_append] at later
      have kind : (((before ++ (c.bytes ++ data ++ behind)).drop before.length).drop 4).take 4 = isoKind c := by
        have header := isoHeading_header led
        rw [List.drop_left, isoKind, Chunk.bytes]
        rw [List.append_assoc, List.append_assoc, List.drop_append_of_le_length (by omega),
          List.take_append_of_le_length (by rw [List.length_drop]; omega)]
      simp only [kind, places]
      rw [shape, last, List.length_append, later]
      rfl

theorem isoBoxes_between {rest : Bytes} (cuts : isoHeading.Cuts data list rest) (before behind : Bytes) :
    isoBoxes (before ++ (data ++ behind)) before.length (before.length + data.length)
      = (places isoPlace before.length list, decide (rest = [])) := by
  unfold isoBoxes
  exact isoBoxesFrom_between cuts (by omega) before behind

/-- Writing over bytes between others leaves those as they are. -/
theorem overwrite_between {old new : Bytes} (same : new.length = old.length) :
    overwrite (before ++ (old ++ behind)) before.length new = .ok (before ++ (new ++ behind)) := by
  unfold overwrite
  rw [if_pos (by simp only [List.length_append]; omega), List.take_left, List.drop_length_add_append, same,
    List.drop_left]

/-- Zeros between others leave those as they are. -/
theorem fill_between {old : Bytes} :
    fill (before ++ (old ++ behind)) before.length (before.length + old.length)
      = .ok (before ++ (List.replicate old.length 0 ++ behind)) := by
  unfold fill
  rw [if_pos (by simp only [List.length_append]; omega), List.take_left, List.drop_length_add_append, List.drop_left]
  congr
  omega

/-- A level of boxes: the header whose times are zeroed, and, but for the innermost one, the boxes that are gone into. -/
inductive Level where
  | last (timed : Bytes)
  | outer (timed : Option Bytes) (holder : Bytes) (inside : Level)

def MEDIA : Level := .last (utf8 "mdhd")
def TRACK : Level := .outer (some (utf8 "tkhd")) (utf8 "mdia") MEDIA
def MOVIE : Level := .outer (some (utf8 "mvhd")) (utf8 "trak") TRACK
def TOP : Level := .outer none (utf8 "moov") MOVIE

/-- A box turned into padding of its size. -/
def blanked (c : Chunk) : Chunk :=
  ⟨c.header.take 4 ++ (utf8 "free" ++ c.header.drop 8), List.replicate c.body.length 0⟩

/-- A full box whose times are zero, if it is long enough to have any. -/
def untimed (c : Chunk) : Chunk :=
  match c.body[0]? with
  | none => c
  | some version =>
    if 4 + 2 * timeWidth version ≤ c.body.length then
      ⟨c.header, c.body.take 4 ++ (List.replicate (2 * timeWidth version) 0 ++ c.body.drop (4 + 2 * timeWidth version))⟩
    else c

/-- How many times that zeroes. -/
def timesOf (c : Chunk) : Nat :=
  match c.body[0]? with
  | none => 0
  | some version => if 4 + 2 * timeWidth version ≤ c.body.length then 2 else 0

/-- What becomes of a box of a level, by itself. -/
def edit : Level → Chunk → Scrubbed → Except Failure (Chunk × Scrubbed)
  | .last timed, c, s =>
    if isoKind c = timed then .ok (untimed c, { s with times := s.times + timesOf c }) else .ok (c, s)
  | .outer timed holder inside, c, s =>
    if timed = some (isoKind c) then .ok (untimed c, { s with times := s.times + timesOf c })
    else if isoKind c = holder then
      if (isoHeading.cut c.body).2 = [] then
        (editAll (edit inside) (isoHeading.cut c.body).1 s).map fun (list, s) => (⟨c.header, joined list⟩, s)
      else .error (.refused UNREADABLE)
    else if ISO_METADATA.contains (isoKind c) then .ok (blanked c, { s with blanked := s.blanked + 1 })
    else .ok (c, s)

/-- What the walk does at a box of a level. -/
def stepAt : Level → Work → IsoBox → Except Failure Work
  | .last timed, work, b => if b.kind = timed then zeroIsoTimes work b else .ok work
  | .outer timed holder inside, work, b =>
    if timed = some b.kind then zeroIsoTimes work b
    else if b.kind = holder then withinBox (stepAt inside) work b
    else if ISO_METADATA.contains b.kind then blankIso work b
    else .ok work

theorem stepAt_top : stepAt TOP = scrubTop := by
  have media : stepAt MEDIA = scrubInMedia := rfl
  have track : stepAt TRACK = scrubInTrack := by
    funext work b
    simp only [TRACK, stepAt, scrubInTrack, media, Option.some.injEq, eq_comm]
  have movie : stepAt MOVIE = scrubInMovie := by
    funext work b
    simp only [MOVIE, stepAt, scrubInMovie, track, Option.some.injEq, eq_comm]
  funext work b
  simp [TOP, stepAt, scrubTop, scrubMoov, movie]

/-- Blanking a box where it stands is blanking it by itself. -/
theorem blankIso_there (long : 8 ≤ c.header.length) (s : Scrubbed) :
    blankIso (before ++ (c.bytes ++ behind), s) (isoPlace before.length c)
      = .ok (before ++ ((blanked c).bytes ++ behind), { s with blanked := s.blanked + 1 }) := by
  have kind : (isoKind c).length = 4 := by
    rw [isoKind, List.length_take, List.length_drop]
    omega
  have split : c.header = c.header.take 4 ++ (isoKind c ++ c.header.drop 8) := by
    have first := (List.take_append_drop 4 c.header).symm
    have second := (List.take_append_drop 4 (c.header.drop 4)).symm
    rw [List.drop_drop] at second
    rwa [second] at first
  have size : (c.header.take 4).length = 4 := by
    rw [List.length_take]
    omega
  -- The type is written over first.
  have typed := @overwrite_between (before ++ c.header.take 4) (c.header.drop 8 ++ (c.body ++ behind)) (isoKind c)
    (utf8 "free")
    (by rw [kind]; decide)
  have shape : before ++ (c.bytes ++ behind)
      = (before ++ c.header.take 4) ++ (isoKind c ++ (c.header.drop 8 ++ (c.body ++ behind))) := by
    rw [Chunk.bytes]
    nth_rewrite 1 [split]
    simp only [List.append_assoc]
  have there : (before ++ c.header.take 4).length = before.length + 4 := by rw [List.length_append, size]
  rw [there] at typed
  -- Then the body is zeroed.
  have free : (utf8 "free").length = 4 := by decide
  have head : (before ++ ((blanked c).header)).length = before.length + c.header.length := by
    simp only [blanked, List.length_append, List.length_drop, size, free]
    omega
  have filled := @fill_between (before ++ (blanked c).header) behind c.body
  rw [head] at filled
  have shape' : (before ++ c.header.take 4) ++ (utf8 "free" ++ (c.header.drop 8 ++ (c.body ++ behind)))
      = (before ++ (blanked c).header) ++ (c.body ++ behind) := by
    simp only [blanked, List.append_assoc]
  simp only [blankIso, isoPlace, shape, typed, shape', bind, Except.bind]
  rw [Chunk.bytes, List.length_append, ← Nat.add_assoc, filled]
  simp only [Work.blank, Chunk.bytes, List.append_assoc, pure, Except.pure, blanked]

theorem zeroIsoTimes_eq (data kind : Bytes) (s : Scrubbed) (start body finish : Nat) :
    zeroIsoTimes (data, s) ⟨kind, start, body, finish⟩ = match data[body]? with
      | none => .ok (data, s)
      | some version =>
        if body + 4 + 2 * timeWidth version ≤ finish then
          (fill data (body + 4) (body + 4 + 2 * timeWidth version)).map fun data => (data, { s with times := s.times + 2 })
        else .ok (data, s) := rfl

/-- Zeroing a box's times where it stands is zeroing them by itself. -/
theorem zeroIsoTimes_there (s : Scrubbed) :
    zeroIsoTimes (before ++ (c.bytes ++ behind), s) (isoPlace before.length c)
      = .ok (before ++ ((untimed c).bytes ++ behind), { s with times := s.times + timesOf c }) := by
  have shape : before ++ (c.bytes ++ behind) = (before ++ c.header) ++ (c.body ++ behind) := by
    simp only [Chunk.bytes, List.append_assoc]
  have at' : (before ++ (c.bytes ++ behind))[before.length + c.header.length]? = (c.body ++ behind)[0]? := by
    rw [shape, ← List.length_append, List.getElem?_append_right (Nat.le_refl _), Nat.sub_self]
  rw [isoPlace, zeroIsoTimes_eq, at']
  unfold untimed timesOf
  cases body : c.body with
  | nil =>
    -- An empty box has no times, even if a byte is read behind it.
    simp only [List.nil_append, List.getElem?_nil]
    cases behind[0]? with
    | none => simp
    | some version =>
      simp only [Chunk.bytes, body, List.append_nil]
      rw [if_neg (by unfold timeWidth; split <;> omega)]
      simp
  | cons version more =>
    simp only [List.cons_append, List.getElem?_cons_zero]
    have size : c.bytes.length = c.header.length + (version :: more).length := by
      rw [Chunk.bytes, List.length_append, body]
    -- The times are zeroed where the body has room for them.
    by_cases long : 4 + 2 * timeWidth version ≤ (version :: more).length
    · simp only [long, if_true]
      rw [if_pos (by omega)]
      have four : ((version :: more).take 4).length = 4 := by
        rw [List.length_take]
        omega
      have width : (((version :: more).drop 4).take (2 * timeWidth version)).length = 2 * timeWidth version := by
        rw [List.length_take, List.length_drop]
        omega
      -- The times stand between the version and the rest of the body.
      have filled := @fill_between (before ++ (c.header ++ (version :: more).take 4))
        ((version :: more).drop (4 + 2 * timeWidth version) ++ behind)
        (((version :: more).drop 4).take (2 * timeWidth version))
      have split : version :: more = (version :: more).take 4 ++ (((version :: more).drop 4).take (2 * timeWidth version)
          ++ (version :: more).drop (4 + 2 * timeWidth version)) := by
        have second := (List.take_append_drop (2 * timeWidth version) ((version :: more).drop 4)).symm
        rw [List.drop_drop] at second
        rw [← second, List.take_append_drop]
      have shape' : before ++ (c.bytes ++ behind) = (before ++ (c.header ++ (version :: more).take 4))
          ++ (((version :: more).drop 4).take (2 * timeWidth version)
            ++ ((version :: more).drop (4 + 2 * timeWidth version) ++ behind)) := by
        rw [Chunk.bytes, body]
        nth_rewrite 1 [split]
        simp only [List.append_assoc]
      rw [width] at filled
      have there : (before ++ (c.header ++ (version :: more).take 4)).length = before.length + c.header.length + 4 := by
        simp only [List.length_append, four]
        omega
      rw [there] at filled
      rw [shape', filled]
      simp only [Except.map, Chunk.bytes, List.append_assoc]
    · simp only [long, if_false, Nat.add_zero]
      rw [if_neg (by omega)]

/-- The box that leads the bytes has a header of eight or sixteen bytes. -/
theorem led_header (led : isoHeading.read (c.bytes ++ data) = some (c.header.length, c.bytes.length)) :
    8 ≤ c.header.length := by
  have header := isoHeading_header led
  omega

/-- A box of another type or another body, of the same size field, stands in a box's place. -/
theorem isoHeading_replaces (size : c'.header.take 4 = c.header.take 4) (wide : c'.header.drop 8 = c.header.drop 8)
    (header : c'.header.length = c.header.length) (body : c'.body.length = c.body.length) :
    isoHeading.Replaces c c' := by
  have long : c'.bytes.length = c.bytes.length := by
    simp only [Chunk.bytes, List.length_append]
    omega
  refine ⟨long, ?_⟩
  intro data data' same led
  have eight := led_header led
  have first : (c'.bytes ++ data').take 4 = (c.bytes ++ data).take 4 := by
    simp only [Chunk.bytes, List.append_assoc]
    rw [List.take_append_of_le_length (by omega), List.take_append_of_le_length (by omega), size]
  have total : (c'.bytes ++ data').length = (c.bytes ++ data).length := by
    rw [List.length_append, List.length_append, long, same]
  rw [isoHeading_read] at led ⊢
  cases head : Movie.boxHead (c.bytes ++ data) with
  | none => simp [head] at led
  | some both =>
    obtain ⟨taken, whole⟩ := both
    simp only [head] at led
    split at led
    · cases led
    · rename_i fits
      cases led
      -- Where the size is behind the type, it is in the header still.
      have head' : Movie.boxHead (c'.bytes ++ data') = some (c.header.length, c.bytes.length) := by
        -- The size stands in the first four bytes, is left to the end, or stands behind the type.
        rcases Movie.boxHead_some head with ⟨enough, ⟨_, said⟩ | ⟨short, zero, all⟩ | ⟨sixteen, one, said⟩⟩
        · unfold Movie.boxHead at head ⊢
          rw [first, total]
          split at head
          · cases head
          · rw [if_neg (by omega)]
            split
            · rename_i zero
              simpa [zero] using head
            · split
              · rename_i one
                -- A box of size one would end within its own header.
                have small : c.bytes.length = 1 := by omega
                have room : 8 ≤ c.bytes.length := by
                  simp only [Chunk.bytes, List.length_append]
                  omega
                omega
              · rename_i other more
                simpa [other, more] using head
        · unfold Movie.boxHead
          rw [first, total, if_neg (by omega), if_pos zero, short, all]
        -- A header of sixteen bytes holds the large size too.
        · have later : ((c'.bytes ++ data').drop 8).take 8 = ((c.bytes ++ data).drop 8).take 8 := by
            simp only [Chunk.bytes, List.append_assoc]
            rw [List.drop_append_of_le_length (by omega), List.drop_append_of_le_length eight, wide,
              List.take_append_of_le_length (by rw [List.length_drop]; omega),
              List.take_append_of_le_length (by rw [List.length_drop]; omega)]
          have enough' : 16 ≤ (c.bytes ++ data).length := by
            simp only [Chunk.bytes, List.length_append]
            omega
          unfold Movie.boxHead
          rw [first, total, later, if_neg (by omega), if_neg (by omega), if_pos one, if_neg (by omega), said, sixteen]
      rw [head']
      dsimp only
      rw [if_neg (by omega), header, long]

theorem blanked_replaces (long : 8 ≤ c.header.length) : isoHeading.Replaces c (blanked c) := by
  have free : (utf8 "free").length = 4 := by decide
  have size : (c.header.take 4).length = 4 := by
    rw [List.length_take]
    omega
  refine isoHeading_replaces ?_ ?_ ?_ ?_
  · rw [blanked, List.take_append_of_le_length (by omega), List.take_of_length_le (by omega)]
  · rw [blanked, ← List.append_assoc]
    exact List.drop_left' (by rw [List.length_append, size, free])
  · simp only [blanked, List.length_append, List.length_drop, size, free]
    omega
  · simp only [blanked, List.length_replicate]

theorem untimed_header (c : Chunk) : (untimed c).header = c.header := by
  unfold untimed
  split
  · rfl
  · split <;> rfl

theorem untimed_replaces (c : Chunk) : isoHeading.Replaces c (untimed c) := by
  have header := untimed_header c
  have body : (untimed c).body.length = c.body.length := by
    unfold untimed
    split
    · rfl
    · split
      · simp only [List.length_append, List.length_take, List.length_replicate, List.length_drop]
        omega
      · rfl
  exact isoHeading_replaces (by rw [header]) (by rw [header]) (by rw [header]) body

theorem replaces_refl (c : Chunk) : isoHeading.Replaces c c := isoHeading_replaces rfl rfl rfl rfl

/-- The headers of boxes that bytes are cut into are of eight bytes or more. -/
theorem cuts_headers {rest : Bytes} (cuts : isoHeading.Cuts data list rest) : ∀ c ∈ list, 8 ≤ c.header.length := by
  induction cuts with
  | stop _ => simp
  | next led _ ih =>
    intro c member
    rcases List.mem_cons.mp member with rfl | later
    · exact led_header led
    · exact ih c later

/-- What may become of a box of a level. -/
def Scrubs : Level → Chunk → Chunk → Prop
  | .last timed => fun c c' => if isoKind c = timed then c' = untimed c else c' = c
  | .outer timed holder inside => fun c c' =>
    if timed = some (isoKind c) then c' = untimed c
    else if isoKind c = holder then
      ∃ list list', isoHeading.Cuts c.body list [] ∧ List.Forall₂ (Scrubs inside) list list'
        ∧ c' = ⟨c.header, joined list'⟩
    else if ISO_METADATA.contains (isoKind c) then c' = blanked c
    else c' = c

/-- A scrubbed box stands in the box's place. -/
theorem Scrubs.replaces {level : Level} (scrubs : Scrubs level c c') (long : 8 ≤ c.header.length) :
    isoHeading.Replaces c c' := by
  -- By induction on the level: what a box holds is scrubbed one level further down.
  induction level generalizing c c' with
  | last timed =>
    simp only [Scrubs] at scrubs
    split at scrubs <;> subst scrubs
    · exact untimed_replaces c
    · exact replaces_refl _
  | outer timed holder inside ih =>
    simp only [Scrubs] at scrubs
    split at scrubs
    · subst scrubs
      exact untimed_replaces c
    · split at scrubs
      · obtain ⟨list, list', cuts, each, rfl⟩ := scrubs
        -- The boxes inside are as long as they were, so the body is.
        have long' := cuts_headers cuts
        have same : List.Forall₂ isoHeading.Replaces list list' := by
          clear cuts
          induction each with
          | nil => exact .nil
          | cons head _ more =>
            exact .cons (ih head (long' _ (by simp))) (more fun d member => long' d (by simp [member]))
        have body := Heading.joined_length same
        have whole := cuts.joined
        rw [List.append_nil] at whole
        exact isoHeading_replaces rfl rfl rfl (by rw [body, whole])
      · split at scrubs <;> subst scrubs
        · exact blanked_replaces long
        · exact replaces_refl _

theorem scrubs_replace {level : Level} {list' : List Chunk} (long : ∀ c ∈ list, 8 ≤ c.header.length)
    (each : List.Forall₂ (Scrubs level) list list') : List.Forall₂ isoHeading.Replaces list list' := by
  induction each with
  | nil => exact .nil
  | cons head _ ih => exact .cons (head.replaces (long _ (by simp))) (ih fun d member => long d (by simp [member]))

/-- An edit of a box scrubs it. -/
theorem edit_scrubs {level : Level} {s s' : Scrubbed} (edited : edit level c s = .ok (c', s')) : Scrubs level c c' := by
  induction level generalizing c c' s s' with
  | last timed =>
    simp only [edit, Scrubs] at edited ⊢
    split at edited <;> cases edited
    · rw [if_pos (by assumption)]
    · rw [if_neg (by assumption)]
  | outer timed holder inside ih =>
    simp only [edit, Scrubs] at edited ⊢
    split at edited
    · cases edited
      rw [if_pos (by assumption)]
    · rw [if_neg (by assumption)]
      split at edited
      · rw [if_pos (by assumption)]
        split at edited
        · rename_i filled
          -- The boxes inside are those that the body is cut into.
          cases all : editAll (edit inside) (isoHeading.cut c.body).1 s with
          | error e => simp [all, Except.map] at edited
          | ok both =>
            rw [all] at edited
            cases edited
            have cuts := isoHeading.cut_cuts c.body
            rw [filled] at cuts
            exact ⟨_, both.1, cuts, editAll_forall₂ (fun d _ s d' s' one => ih one) all, rfl⟩
        · cases edited
      · rw [if_neg (by assumption)]
        split at edited <;> cases edited
        · rw [if_pos (by assumption)]
        · rw [if_neg (by assumption)]

/-- An edit fails only where a header could not be read. -/
theorem edit_error {level : Level} {s : Scrubbed} {e : Failure} (failed : edit level c s = .error e) :
    e = .refused UNREADABLE := by
  induction level generalizing c s with
  | last timed =>
    simp only [edit] at failed
    split at failed <;> cases failed
  | outer timed holder inside ih =>
    simp only [edit] at failed
    split at failed
    · cases failed
    · split at failed
      · split at failed
        · cases all : editAll (edit inside) (isoHeading.cut c.body).1 s with
          | error e' =>
            rw [all] at failed
            cases failed
            -- It failed at one of the boxes inside.
            obtain ⟨d, _, _, bad⟩ := editAll_error all
            exact ih bad
          | ok both => simp [all, Except.map] at failed
        · cases failed
          rfl
      · split at failed <;> cases failed

/-- The walk edits each box where it stands. -/
theorem stepAt_there (level : Level) (long : 8 ≤ c.header.length) :
    EditsThere (stepAt level) isoPlace (edit level) c := by
  induction level generalizing c with
  | last timed =>
    intro before behind s
    simp only [stepAt, edit]
    have kind : (isoPlace before.length c).kind = isoKind c := rfl
    rw [kind]
    split
    · exact zeroIsoTimes_there s
    · rfl
  | outer timed holder inside ih =>
    intro before behind s
    simp only [stepAt, edit]
    have kind : (isoPlace before.length c).kind = isoKind c := rfl
    rw [kind]
    split
    · exact zeroIsoTimes_there s
    · split
      · -- The boxes inside stand behind the header, and the walk over them ends where this box does.
        have cuts := isoHeading.cut_cuts c.body
        have inner := isoBoxes_between cuts (before ++ c.header) behind
        have there : before.length + c.bytes.length = (before ++ c.header).length + c.body.length := by
          simp only [Chunk.bytes, List.length_append]
          omega
        have shape : before ++ (c.bytes ++ behind) = (before ++ c.header) ++ (c.body ++ behind) := by
          simp only [Chunk.bytes, List.append_assoc]
        have start : (isoPlace before.length c).body = (before ++ c.header).length := by
          rw [isoPlace, List.length_append]
        have finish : (isoPlace before.length c).finish = (before ++ c.header).length + c.body.length := there
        simp only [withinBox, shape, start, finish, inner]
        -- A body that its boxes do not fill is refused by both.
        by_cases filled : (isoHeading.cut c.body).2 = []
        · have whole := cuts.joined
          rw [filled, List.append_nil] at whole
          have each := cuts_headers cuts
          -- No edit changes a box's length, so the boxes behind it are where the walk found them.
          have fold := foldlM_places (fun d member => ih (each d member))
            (fun d member s d' s' edited => ((edit_scrubs edited).replaces (each d member)).1)
            (before ++ c.header) behind s
          rw [whole] at fold
          rw [if_pos filled, if_pos (by simpa using filled), fold]
          cases editAll (edit inside) (isoHeading.cut c.body).1 s with
          | error e => rfl
          | ok both => simp only [Except.map, Chunk.bytes, List.append_assoc]
        · rw [if_neg filled, if_neg (by simpa using filled)]
          rfl
      · split
        · exact blankIso_there long s
        · rfl

end Scrub
end Nightdrop
