import Nightdrop.Proofs.Node.ScrubClean

/-! An AVI video is scrubbed where it stands, chunk by chunk. -/

namespace Nightdrop
namespace Scrub

open Movie (slice slice_of_le)

variable {data before behind out : Bytes} {list list' : List Chunk} {c c' : Chunk} {s s' : Scrubbed}

/-- The headers of the chunks of an AVI file: a body is padded to even length, unless the bytes end with it. -/
def riffHeading : Heading where
  read data :=
    if data.length < 8 then none
    else if data.length < 8 + ofLittleEndian ((data.drop 4).take 4) then none
    else some (8, min (8 + ofLittleEndian ((data.drop 4).take 4) + ofLittleEndian ((data.drop 4).take 4) % 2) data.length)
  fits := by
    intro data header size read
    split at read
    · cases read
    · split at read
      · cases read
      · cases read
        omega

theorem riffHeading_read (data : Bytes) :
    riffHeading.read data = if data.length < 8 then none
      else if data.length < 8 + ofLittleEndian ((data.drop 4).take 4) then none
      else some (8, min (8 + ofLittleEndian ((data.drop 4).take 4) + ofLittleEndian ((data.drop 4).take 4) % 2)
        data.length) := rfl

theorem riffHeading_unled_nil : riffHeading.read [] = none := by
  rw [riffHeading_read, if_pos (by decide)]

/-- How long the body of a chunk is, without its padding. -/
def riffSize (c : Chunk) : Nat := ofLittleEndian (c.header.drop 4)

/-- The type of a chunk. -/
def riffKind (c : Chunk) : Bytes := c.header.take 4

/-- A chunk where it stands in a file. -/
def riffPlace (start : Nat) (c : Chunk) : IsoBox := ⟨riffKind c, start, start + 8, start + 8 + riffSize c⟩

/-- A chunk is led by its header exactly where that takes eight bytes and says how long the body is. -/
theorem riff_led : riffHeading.read (c.bytes ++ data) = some (c.header.length, c.bytes.length) ↔
    c.header.length = 8 ∧ riffSize c ≤ c.body.length
      ∧ c.body.length = min (riffSize c + riffSize c % 2) (c.body.length + data.length) := by
  rw [riffHeading_read]
  constructor
  · intro led
    split at led
    · cases led
    · rename_i long
      split at led
      · cases led
      · rename_i fits
        simp only [Option.some.injEq, Prod.mk.injEq] at led
        obtain ⟨eight, whole⟩ := led
        -- The size is read in the header.
        have size : ((c.bytes ++ data).drop 4).take 4 = c.header.drop 4 := by
          rw [Chunk.bytes, List.append_assoc, List.drop_append_of_le_length (by omega)]
          exact List.take_left' (by rw [List.length_drop]; omega)
        rw [size] at fits whole
        simp only [Chunk.bytes, List.length_append] at fits whole
        unfold riffSize
        omega
  · rintro ⟨eight, fits, padded⟩
    have size : ((c.bytes ++ data).drop 4).take 4 = c.header.drop 4 := by
      rw [Chunk.bytes, List.append_assoc, List.drop_append_of_le_length (by omega)]
      exact List.take_left' (by rw [List.length_drop]; omega)
    have whole : (c.bytes ++ data).length = 8 + (c.body.length + data.length) := by
      simp only [Chunk.bytes, List.length_append]
      omega
    unfold riffSize at fits padded
    rw [size, whole, if_neg (by omega), if_neg (by omega), Chunk.bytes, List.length_append, eight]
    congr 2
    omega

/-- A chunk of another type or another body, of the same size field, stands in a chunk's place. -/
theorem riff_replaces (size : c'.header.drop 4 = c.header.drop 4) (header : c'.header.length = c.header.length)
    (body : c'.body.length = c.body.length) : riffHeading.Replaces c c' := by
  refine ⟨by rw [Chunk.bytes, Chunk.bytes, List.length_append, List.length_append, header, body], ?_⟩
  intro data data' same led
  obtain ⟨eight, fits, padded⟩ := riff_led.mp led
  have size' : riffSize c' = riffSize c := by rw [riffSize, riffSize, size]
  exact riff_led.mpr ⟨by rw [header, eight], by rw [size', body]; exact fits, by rw [size', body, same]; exact padded⟩

/-- No chunk begins where fewer than eight bytes are left. -/
theorem riffChunksFrom_nil {steps p last : Nat} (few : last < p + 8) : riffChunksFrom steps data p last = [] := by
  cases steps with
  | zero => rfl
  | succ steps =>
    rw [riffChunksFrom]
    split
    · rfl
    · rw [if_pos few]

/-- The chunks of some bytes between others are what these are cut into, where it stands. -/
theorem riffChunksFrom_between {rest : Bytes} (cuts : riffHeading.Cuts data list rest) {steps : Nat}
    (enough : data.length ≤ steps) (before behind : Bytes) :
    riffChunksFrom steps (before ++ (data ++ behind)) before.length (before.length + data.length)
      = places riffPlace before.length list := by
  induction cuts generalizing steps before with
  | @stop rest unled =>
    cases steps with
    | zero => rfl
    | succ steps =>
      by_cases few : rest.length < 8
      · exact riffChunksFrom_nil (by omega)
      · -- There is a header, but it says more bytes than there are.
        have head := @slice_between rest before behind 0 8
          (by omega) (by omega)
        rw [Nat.add_zero, @slice_of_le rest _ _ (by omega) (by omega), List.drop_zero] at head
        rw [riffHeading_read, if_neg few] at unled
        have more : rest.length < 8 + ofLittleEndian ((rest.drop 4).take 4) := by
          split at unled
          · assumption
          · cases unled
        have size : (rest.take 8).drop 4 = (rest.drop 4).take 4 := List.drop_take
        rw [riffChunksFrom, head]
        dsimp only
        rw [if_neg (by omega), size, if_pos (by omega)]
        rfl
  | @next c data rest list led more ih =>
    obtain ⟨eight, fits, padded⟩ := riff_led.mp led
    have whole : c.bytes.length = 8 + c.body.length := by rw [Chunk.bytes, List.length_append, eight]
    cases steps with
    | zero =>
      simp only [List.length_append] at enough
      omega
    | succ steps =>
      have total : (c.bytes ++ data).length = 8 + (c.body.length + data.length) := by
        rw [List.length_append, whole, Nat.add_assoc]
      have lead : (c.bytes ++ data).take 8 = c.header := by
        rw [Chunk.bytes, List.append_assoc]
        exact List.take_left' eight
      have head := @slice_between (c.bytes ++ data) before behind 0 8
        (by omega) (by omega)
      rw [Nat.add_zero, @slice_of_le (c.bytes ++ data) _ _ (by omega) (by omega), List.drop_zero, lead] at head
      have shape : before ++ ((c.bytes ++ data) ++ behind) = (before ++ c.bytes) ++ (data ++ behind) := by
        simp only [List.append_assoc]
      have size : ofLittleEndian (c.header.drop 4) = riffSize c := rfl
      rw [riffChunksFrom, head]
      dsimp only
      rw [if_neg (by omega), size, if_neg (by omega), places, riffPlace, riffKind]
      congr 1
      by_cases ends : data = []
      · -- Nothing follows the last chunk, whether or not its padding is there.
        subst ends
        have none : list = [] := (more.unique (.stop riffHeading_unled_nil)).1
        have empty : ([] : Bytes).length = 0 := rfl
        subst none
        exact riffChunksFrom_nil (by omega)
      · have some' : 0 < data.length := List.length_pos_iff.mpr ends
        have next : before.length + 8 + riffSize c + riffSize c % 2 = (before ++ c.bytes).length := by
          rw [List.length_append, whole]
          omega
        have last : before.length + (c.bytes ++ data).length = (before ++ c.bytes).length + data.length := by
          simp only [List.length_append, Nat.add_assoc]
        have later := @ih steps (by omega) (before ++ c.bytes)
        rw [next, shape, last, later, List.length_append]

/-- The chunks of a stretch of a file. -/
theorem riffChunks_between {rest : Bytes} (cuts : riffHeading.Cuts data list rest) (before behind : Bytes) :
    riffChunks (before ++ (data ++ behind)) before.length (before.length + data.length)
      = places riffPlace before.length list := by
  unfold riffChunks
  exact riffChunksFrom_between cuts (by simp only [List.length_append]; omega) before behind

/-- A chunk turned into padding of its size. -/
def junked (c : Chunk) : Chunk :=
  ⟨utf8 "JUNK" ++ c.header.drop 4, List.replicate (riffSize c) 0 ++ c.body.drop (riffSize c)⟩

/-- Turning a chunk into padding where it stands is turning it by itself. -/
theorem junk_there (eight : c.header.length = 8) (fits : riffSize c ≤ c.body.length) (s : Scrubbed) :
    junk (before ++ (c.bytes ++ behind), s) (riffPlace before.length c)
      = .ok (before ++ ((junked c).bytes ++ behind), { s with blanked := s.blanked + 1 }) := by
  have four : (utf8 "JUNK").length = 4 := by decide
  have kind : (c.header.take 4).length = 4 := by
    rw [List.length_take]
    omega
  -- The type is written over first.
  have typed := @overwrite_between before (c.header.drop 4 ++ (c.body ++ behind)) (c.header.take 4)
    (utf8 "JUNK") (by rw [four, kind])
  have shape : before ++ (c.bytes ++ behind) = before ++ (c.header.take 4 ++ (c.header.drop 4 ++ (c.body ++ behind))) := by
    rw [Chunk.bytes, List.append_assoc, ← List.append_assoc (c.header.take 4), List.take_append_drop]
  -- Then the body is zeroed, but for its padding.
  have filled := @fill_between (before ++ (junked c).header) (c.body.drop (riffSize c) ++ behind) (c.body.take (riffSize c))
  have size : (c.body.take (riffSize c)).length = riffSize c := by
    rw [List.length_take]
    omega
  have head : (before ++ (junked c).header).length = before.length + 8 := by
    simp only [junked, List.length_append, List.length_drop, four]
    omega
  have shape' : before ++ (utf8 "JUNK" ++ (c.header.drop 4 ++ (c.body ++ behind)))
      = (before ++ (junked c).header) ++ (c.body.take (riffSize c) ++ (c.body.drop (riffSize c) ++ behind)) := by
    rw [← List.append_assoc (c.body.take _), List.take_append_drop, junked]
    simp only [List.append_assoc]
  rw [head, size] at filled
  simp only [junk, riffPlace, shape, typed, shape', filled, bind, Except.bind, pure, Except.pure, Work.blank]
  have whole : (junked c).bytes = (junked c).header ++ (List.replicate (riffSize c) 0 ++ c.body.drop (riffSize c)) := rfl
  rw [whole]
  simp only [List.append_assoc]

theorem junked_replaces (eight : c.header.length = 8) (fits : riffSize c ≤ c.body.length) :
    riffHeading.Replaces c (junked c) := by
  have four : (utf8 "JUNK").length = 4 := by decide
  refine riff_replaces ?_ ?_ ?_
  · exact List.drop_left' four
  · simp only [junked, List.length_append, List.length_drop, four]
    omega
  · simp only [junked, List.length_append, List.length_drop, List.length_replicate]
    omega

theorem junked_kind (c : Chunk) : riffKind (junked c) = utf8 "JUNK" := by
  have four : (utf8 "JUNK").length = 4 := by decide
  exact List.take_left' four

/-- What a list holds behind its own type. -/
def inside (c : Chunk) : Bytes := (c.body.take (riffSize c)).drop 4

/-- What becomes of a chunk in the list of headers. -/
def editHeaders (c : Chunk) (s : Scrubbed) : Except Failure (Chunk × Scrubbed) :=
  if riffKind c = utf8 "IDIT" then .ok (junked c, { s with blanked := s.blanked + 1 }) else .ok (c, s)

/-- What becomes of a chunk of the file. -/
def editRiff (c : Chunk) (s : Scrubbed) : Except Failure (Chunk × Scrubbed) :=
  if riffKind c ≠ utf8 "LIST" ∨ riffSize c < 4 then .ok (c, s)
  else if c.body.take 4 = utf8 "INFO" then .ok (junked c, { s with blanked := s.blanked + 1 })
  else if c.body.take 4 = utf8 "hdrl" then
    (editAll editHeaders (riffHeading.cut (inside c)).1 s).map fun (list, s) =>
      (⟨c.header, c.body.take 4 ++ (joined list ++ (riffHeading.cut (inside c)).2 ++ c.body.drop (riffSize c))⟩, s)
  else .ok (c, s)

/-- What may become of a chunk in the list of headers: the date makes way. -/
def HeadersScrubs (c c' : Chunk) : Prop := if riffKind c = utf8 "IDIT" then c' = junked c else c' = c

/-- What may become of a chunk of the file: the descriptive texts make way, and the list of headers is scrubbed. -/
def RiffScrubs (c c' : Chunk) : Prop :=
  if riffKind c ≠ utf8 "LIST" ∨ riffSize c < 4 then c' = c
  else if c.body.take 4 = utf8 "INFO" then c' = junked c
  else if c.body.take 4 = utf8 "hdrl" then
    ∃ list rest list', riffHeading.Cuts (inside c) list rest ∧ List.Forall₂ HeadersScrubs list list'
      ∧ c' = ⟨c.header, c.body.take 4 ++ (joined list' ++ rest ++ c.body.drop (riffSize c))⟩
  else c' = c

/-- A chunk of the file that says nothing of the recording. -/
def RiffClean (c : Chunk) : Prop :=
  riffKind c = utf8 "LIST" → 4 ≤ riffSize c → c.body.take 4 ≠ utf8 "INFO"
    ∧ (c.body.take 4 = utf8 "hdrl" → ∀ d ∈ (riffHeading.cut (inside c)).1, riffKind d ≠ utf8 "IDIT")

/-- A chunk whose header takes eight bytes and whose body is all there. -/
def Whole (c : Chunk) : Prop := c.header.length = 8 ∧ riffSize c ≤ c.body.length

theorem cuts_whole {rest : Bytes} (cuts : riffHeading.Cuts data list rest) : ∀ c ∈ list, Whole c := by
  induction cuts with
  | stop _ => simp
  | next led _ ih =>
    intro c member
    rcases List.mem_cons.mp member with rfl | later
    · obtain ⟨eight, fits, _⟩ := riff_led.mp led
      exact ⟨eight, fits⟩
    · exact ih c later

theorem HeadersScrubs.replaces (scrubs : HeadersScrubs c c') (whole : Whole c) : riffHeading.Replaces c c' := by
  unfold HeadersScrubs at scrubs
  split at scrubs
  · rw [scrubs]
    exact junked_replaces whole.1 whole.2
  · rw [scrubs]
    exact riff_replaces rfl rfl rfl

theorem headers_replace (whole : ∀ c ∈ list, Whole c) (each : List.Forall₂ HeadersScrubs list list') :
    List.Forall₂ riffHeading.Replaces list list' := by
  induction each with
  | nil => exact .nil
  | @cons c c' rest rest' one _ ih =>
    exact .cons (one.replaces (whole c (by simp))) (ih fun d member => whole d (by simp [member]))

/-- The list of headers is as long as it was. -/
theorem inside_length {rest : Bytes} (whole : Whole c) (four : 4 ≤ riffSize c) (cuts : riffHeading.Cuts (inside c) list rest)
    (each : List.Forall₂ HeadersScrubs list list') :
    (c.body.take 4 ++ (joined list' ++ rest ++ c.body.drop (riffSize c))).length = c.body.length
    ∧ (joined list' ++ rest).length = riffSize c - 4 := by
  have same := Heading.joined_length (headers_replace (cuts_whole cuts) each)
  have count := congrArg List.length cuts.joined
  have fits := whole.2
  simp only [inside, List.length_append, List.length_drop, List.length_take] at count ⊢
  omega

theorem RiffScrubs.replaces (scrubs : RiffScrubs c c') (whole : Whole c) : riffHeading.Replaces c c' := by
  unfold RiffScrubs at scrubs
  split at scrubs
  · rw [scrubs]
    exact riff_replaces rfl rfl rfl
  · rename_i list'
    have four : 4 ≤ riffSize c := by
      by_contra few
      exact list' (.inr (by omega))
    split at scrubs
    · rw [scrubs]
      exact junked_replaces whole.1 whole.2
    · split at scrubs
      · obtain ⟨list, rest, list', cuts, each, rfl⟩ := scrubs
        exact riff_replaces rfl rfl (inside_length whole four cuts each).1
      · rw [scrubs]
        exact riff_replaces rfl rfl rfl

theorem riff_replace_all (whole : ∀ c ∈ list, Whole c) (each : List.Forall₂ RiffScrubs list list') :
    List.Forall₂ riffHeading.Replaces list list' := by
  induction each with
  | nil => exact .nil
  | @cons c c' rest rest' one _ ih =>
    exact .cons (one.replaces (whole c (by simp))) (ih fun d member => whole d (by simp [member]))

theorem editHeaders_scrubs (edited : editHeaders c s = .ok (c', s')) : HeadersScrubs c c' := by
  unfold editHeaders at edited
  unfold HeadersScrubs
  split at edited <;> cases edited
  · rw [if_pos (by assumption)]
  · rw [if_neg (by assumption)]

theorem editHeaders_ok (list : List Chunk) (s : Scrubbed) : ∃ list' s', editAll editHeaders list s = .ok (list', s') := by
  cases all : editAll editHeaders list s with
  | ok both => exact ⟨both.1, both.2, rfl⟩
  | error e =>
    obtain ⟨c, _, s', bad⟩ := editAll_error all
    unfold editHeaders at bad
    split at bad <;> cases bad

theorem editRiff_scrubs (edited : editRiff c s = .ok (c', s')) : RiffScrubs c c' := by
  unfold editRiff at edited
  unfold RiffScrubs
  split at edited
  · cases edited
    rw [if_pos (by assumption)]
  · rw [if_neg (by assumption)]
    split at edited
    · cases edited
      rw [if_pos (by assumption)]
    · rw [if_neg (by assumption)]
      split at edited
      · rw [if_pos (by assumption)]
        obtain ⟨list', s₁, all⟩ := editHeaders_ok (riffHeading.cut (inside c)).1 s
        rw [all] at edited
        cases edited
        exact ⟨_, _, list', riffHeading.cut_cuts (inside c),
          editAll_forall₂ (fun d _ s d' s' one => editHeaders_scrubs one) all, rfl⟩
      · cases edited
        rw [if_neg (by assumption)]

theorem editRiff_ok (list : List Chunk) (s : Scrubbed) : ∃ list' s', editAll editRiff list s = .ok (list', s') := by
  cases all : editAll editRiff list s with
  | ok both => exact ⟨both.1, both.2, rfl⟩
  | error e =>
    obtain ⟨c, _, s', bad⟩ := editAll_error all
    -- No branch fails, and within the list of headers none does either.
    unfold editRiff at bad
    split at bad
    · cases bad
    · split at bad
      · cases bad
      · split at bad
        · obtain ⟨list', s₁, fine⟩ := editHeaders_ok (riffHeading.cut (inside c)).1 s'
          rw [fine] at bad
          cases bad
        · cases bad

/-- The walk edits each chunk of the list of headers where it stands. -/
theorem scrubInHeaders_there (whole : Whole c) : EditsThere scrubInHeaders riffPlace editHeaders c := by
  intro before behind s
  have kind : (riffPlace before.length c).kind = riffKind c := rfl
  rw [scrubInHeaders, editHeaders, kind]
  by_cases date : riffKind c = utf8 "IDIT"
  · rw [if_pos date, if_pos date]
    exact junk_there whole.1 whole.2 s
  · rw [if_neg date, if_neg date]
    rfl

/-- The walk edits each chunk of the file where it stands. -/
theorem scrubInRiff_there (whole : Whole c) : EditsThere scrubInRiff riffPlace editRiff c := by
  intro before behind s
  obtain ⟨eight, fits⟩ := whole
  have kind : (riffPlace before.length c).kind = riffKind c := rfl
  have room : (riffPlace before.length c).finish < (riffPlace before.length c).body + 4 ↔ riffSize c < 4 := by
    simp only [riffPlace]
    omega
  rw [scrubInRiff, editRiff, kind]
  by_cases other : riffKind c ≠ utf8 "LIST" ∨ riffSize c < 4
  · rw [if_pos other, if_pos (by rw [room]; exact other)]
    rfl
  · rw [if_neg other, if_neg (by rw [room]; exact other)]
    -- The list has room for its type, so the type is read.
    have four : 4 ≤ riffSize c := by
      by_contra few
      exact other (.inr (by omega))
    -- The type of the list leads its body.
    have head := @slice_between c.body (before ++ c.header) behind 0 4
      (by omega) (by omega)
    rw [Nat.add_zero, @slice_of_le c.body _ _ (by omega) (by omega), List.drop_zero, List.length_append, eight] at head
    have shape : before ++ (c.bytes ++ behind) = (before ++ c.header) ++ (c.body ++ behind) := by
      simp only [Chunk.bytes, List.append_assoc]
    have body : (riffPlace before.length c).body = before.length + 8 := rfl
    rw [body, shape, head]
    dsimp only
    by_cases info : c.body.take 4 = utf8 "INFO"
    · rw [if_pos info, if_pos info, ← shape]
      exact junk_there eight fits s
    · rw [if_neg info, if_neg info]
      by_cases headers : c.body.take 4 = utf8 "hdrl"
      · rw [if_pos headers, if_pos headers]
        have cuts := riffHeading.cut_cuts (inside c)
        have each := cuts_whole cuts
        -- The chunks in the list stand behind its type, up to where its body ends.
        have split : c.body = c.body.take 4 ++ (inside c ++ c.body.drop (riffSize c)) := by
          have outer := (List.take_append_drop (riffSize c) c.body).symm
          have inner := List.take_append_drop 4 (c.body.take (riffSize c))
          rw [List.take_take, Nat.min_eq_left four] at inner
          rw [inside, ← List.append_assoc, inner, ← outer]
        have long : (inside c).length = riffSize c - 4 := by
          rw [inside, List.length_drop, List.length_take]
          omega
        have front : (before ++ c.header ++ c.body.take 4).length = before.length + 8 + 4 := by
          simp only [List.length_append, List.length_take, eight]
          omega
        have shape' : before ++ c.header ++ (c.body ++ behind)
            = (before ++ c.header ++ c.body.take 4) ++ (inside c ++ (c.body.drop (riffSize c) ++ behind)) := by
          nth_rewrite 1 [split]
          simp only [List.append_assoc]
        have finish : (riffPlace before.length c).finish = (before ++ c.header ++ c.body.take 4).length + (inside c).length := by
          have last : (riffPlace before.length c).finish = before.length + 8 + riffSize c := rfl
          omega
        have inner := riffChunks_between cuts (before ++ c.header ++ c.body.take 4) (c.body.drop (riffSize c) ++ behind)
        -- No edit changes a chunk's length, so the chunks behind it are where the walk found them.
        have fold := foldlM_places (fun d member => scrubInHeaders_there (each d member))
          (fun d member s d' s' edited => ((editHeaders_scrubs edited).replaces (each d member)).1)
          (before ++ c.header ++ c.body.take 4) ((riffHeading.cut (inside c)).2 ++ (c.body.drop (riffSize c) ++ behind)) s
        rw [← List.append_assoc (joined _), cuts.joined] at fold
        rw [finish, shape', ← front, inner, fold]
        cases editAll editHeaders (riffHeading.cut (inside c)).1 s with
        | error e => rfl
        | ok both => simp only [Except.map, Chunk.bytes, List.append_assoc]
      · rw [if_neg headers, if_neg headers, ← shape]
        rfl

/-- Where the chunks of an AVI file end. -/
def aviEnd (data : Bytes) : Nat := max 12 (min (8 + ofLittleEndian ((data.drop 4).take 4)) data.length)

/-- An AVI video and what it is once scrubbed: nothing moves, and only what describes the recording changes. -/
structure AviScrubbed (data out : Bytes) : Prop where
  long : out.length = data.length
  /-- The head is as it was, and so is what follows the chunks. -/
  front : out.take 12 = data.take 12
  behind : out.drop (aviEnd data) = data.drop (aviEnd data)
  /-- The chunks are scrubbed one by one; what follows them stays. -/
  chunks : ∃ list rest list', riffHeading.Cuts ((data.take (aviEnd data)).drop 12) list rest
    ∧ List.Forall₂ RiffScrubs list list' ∧ (out.take (aviEnd data)).drop 12 = joined list' ++ rest
  clean : ∀ c ∈ (riffHeading.cut ((out.take (aviEnd data)).drop 12)).1, RiffClean c

/-- Scrubbing an AVI video is editing the chunks that it is cut into. -/
theorem scrubAvi_eq (long : 12 ≤ data.length) (s : Scrubbed) :
    scrubAvi (data, s) =
      (editAll editRiff (riffHeading.cut ((data.take (aviEnd data)).drop 12)).1 s).map fun (list', s') =>
        (data.take 12 ++ (joined list' ++ ((riffHeading.cut ((data.take (aviEnd data)).drop 12)).2
          ++ data.drop (aviEnd data))), s') := by
  have order : 12 ≤ aviEnd data ∧ aviEnd data ≤ data.length := by
    unfold aviEnd
    omega
  have cuts := riffHeading.cut_cuts ((data.take (aviEnd data)).drop 12)
  have each := cuts_whole cuts
  -- The chunks of the file, with what surrounds them.
  have inside := riffChunks_between cuts (data.take 12) (data.drop (aviEnd data))
  have fold := foldlM_places (fun c member => scrubInRiff_there (each c member))
    (fun c member s c' s' edited => ((editRiff_scrubs edited).replaces (each c member)).1) (data.take 12)
    ((riffHeading.cut ((data.take (aviEnd data)).drop 12)).2 ++ data.drop (aviEnd data)) s
  have twelve : (data.take 12).length = 12 := by
    rw [List.length_take]
    omega
  have count : ((data.take (aviEnd data)).drop 12).length = aviEnd data - 12 := by
    rw [List.length_drop, List.length_take]
    omega
  -- The bytes are the head, the chunks, and what follows them.
  have whole : data.take 12 ++ ((data.take (aviEnd data)).drop 12 ++ data.drop (aviEnd data)) = data := by
    have split := List.take_append_drop 12 (data.take (aviEnd data))
    rw [List.take_take, Nat.min_eq_left order.1] at split
    rw [← List.append_assoc, split, List.take_append_drop]
  have finish : 12 + (aviEnd data - 12) = aviEnd data := by omega
  rw [whole, twelve, count, finish] at inside
  rw [← List.append_assoc (joined _), cuts.joined, whole, twelve] at fold
  -- Where the file says fewer bytes than its head takes, it has no chunks.
  have walked : riffChunks data 12 (min (8 + ofLittleEndian ((data.drop 4).take 4)) data.length)
      = riffChunks data 12 (aviEnd data) := by
    by_cases few : min (8 + ofLittleEndian ((data.drop 4).take 4)) data.length < 12
    · rw [riffChunks, riffChunks, riffChunksFrom_nil (by omega), riffChunksFrom_nil]
      unfold aviEnd
      omega
    · congr 1
      unfold aviEnd
      omega
  have size : slice data 4 8 = some ((data.drop 4).take 4) := by
    rw [slice_of_le (by omega) (by omega), List.drop_take]
  simp only [scrubAvi, size, walked, inside, fold]

theorem scrubAvi_inRange (long : 12 ≤ data.length) (s : Scrubbed) : scrubAvi (data, s) ≠ .error .outOfRange := by
  obtain ⟨list', s', all⟩ := editRiff_ok (riffHeading.cut ((data.take (aviEnd data)).drop 12)).1 s
  rw [scrubAvi_eq long, all]
  simp [Except.map]

/-- A scrubbed chunk says nothing of the recording. -/
theorem RiffScrubs.clean (scrubs : RiffScrubs c c') (whole : Whole c) : RiffClean c' := by
  intro kind four
  unfold RiffScrubs at scrubs
  split at scrubs
  · rename_i other
    subst scrubs
    rcases other with unlisted | few
    · exact absurd kind unlisted
    · omega
  · rename_i listed
    have four' : 4 ≤ riffSize c := by
      by_contra few
      exact listed (.inr (by omega))
    split at scrubs
    · subst scrubs
      rw [junked_kind] at kind
      exact absurd kind (by decide)
    · rename_i info
      split at scrubs
      · rename_i headers
        obtain ⟨list, rest, list', cuts, each, rfl⟩ := scrubs
        obtain ⟨_, long⟩ := inside_length whole four' cuts each
        have lead : (c.body.take 4).length = 4 := by
          have fits := whole.2
          rw [List.length_take]
          omega
        -- The list holds what it held, scrubbed, where it was.
        have size : riffSize ⟨c.header, c.body.take 4 ++ (joined list' ++ rest ++ c.body.drop (riffSize c))⟩
            = riffSize c := rfl
        have holds : inside ⟨c.header, c.body.take 4 ++ (joined list' ++ rest ++ c.body.drop (riffSize c))⟩
            = joined list' ++ rest := by
          rw [inside, size]
          dsimp only
          rw [← List.append_assoc (c.body.take 4), List.take_left' (by rw [List.length_append, lead, long]; omega),
            List.drop_left' lead]
        have unled := cut_unled riffHeading (inside c)
        rw [cuts.cut_eq] at unled
        have behind := riffHeading.cut_cuts rest
        rw [unled] at behind
        -- So the list is cut into the scrubbed chunks.
        have again := cuts.rewrite (headers_replace (cuts_whole cuts) each) rfl behind
        rw [List.append_nil] at again
        dsimp only
        rw [List.take_left' lead, holds, again.cut_eq]
        refine ⟨info, fun _ d member => ?_⟩
        obtain ⟨b, _, one⟩ := mem_forall₂_right each member
        -- A date became junk, and what is no date is none.
        unfold HeadersScrubs at one
        split at one
        · rw [one, junked_kind]
          decide
        · rw [one]
          assumption
      · rename_i headers
        subst scrubs
        exact ⟨info, fun same => absurd same headers⟩

/-- A chunk that says nothing of the recording is left as it is. -/
theorem RiffClean.still (clean : RiffClean c) (s : Scrubbed) : ∃ s', editRiff c s = .ok (c, s') := by
  unfold editRiff
  split
  · exact ⟨s, rfl⟩
  · rename_i listed
    have four : 4 ≤ riffSize c := by
      by_contra few
      exact listed (.inr (by omega))
    have kind : riffKind c = utf8 "LIST" := by
      by_contra other
      exact listed (.inl other)
    obtain ⟨info, headers⟩ := clean kind four
    rw [if_neg info]
    split
    · rename_i same
      have each : ∀ d ∈ (riffHeading.cut (inside c)).1, ∀ s, ∃ s', editHeaders d s = .ok (d, s') := by
        intro d member s
        rw [editHeaders, if_neg (headers same d member)]
        exact ⟨s, rfl⟩
      obtain ⟨s', all⟩ := editAll_still each s
      -- The body is its type, what it holds, and its padding.
      have outer := List.take_append_drop (riffSize c) c.body
      have inner := List.take_append_drop 4 (c.body.take (riffSize c))
      rw [List.take_take, Nat.min_eq_left four] at inner
      refine ⟨s', ?_⟩
      simp only [all, Except.map, (riffHeading.cut_cuts (inside c)).joined]
      rw [inside, ← List.append_assoc, inner, outer]
    · exact ⟨s, rfl⟩

/-- Only what describes the recording changes in a scrubbed AVI video, nothing moves, and nothing of it is left. -/
theorem scrubAvi_scrubbed (long : 12 ≤ data.length) (scrubbed : scrubAvi (data, s) = .ok (out, s')) :
    AviScrubbed data out := by
  have order : 12 ≤ aviEnd data ∧ aviEnd data ≤ data.length := by
    unfold aviEnd
    omega
  rw [scrubAvi_eq long] at scrubbed
  obtain ⟨list', s₁, all⟩ := editRiff_ok (riffHeading.cut ((data.take (aviEnd data)).drop 12)).1 s
  rw [all] at scrubbed
  cases scrubbed
  have cuts := riffHeading.cut_cuts ((data.take (aviEnd data)).drop 12)
  have each : List.Forall₂ RiffScrubs (riffHeading.cut ((data.take (aviEnd data)).drop 12)).1 list' :=
    editAll_forall₂ (fun c _ s c' s' one => editRiff_scrubs one) all
  have known := cuts_whole cuts
  -- Each scrubbed chunk stands in the place of the one it was.
  have same := riff_replace_all known each
  have count := congrArg List.length cuts.joined
  rw [List.length_append, ← Heading.joined_length same, List.length_drop, List.length_take] at count
  have twelve : (data.take 12).length = 12 := by
    rw [List.length_take]
    omega
  generalize left : (riffHeading.cut ((data.take (aviEnd data)).drop 12)).2 = rest at count cuts
  -- The chunks are as long as they were, so what surrounds them is where it was.
  have shape : data.take 12 ++ (joined list' ++ (rest ++ data.drop (aviEnd data)))
      = (data.take 12 ++ (joined list' ++ rest)) ++ data.drop (aviEnd data) := by
    simp only [List.append_assoc]
  have reach : (data.take 12 ++ (joined list' ++ rest)).length = aviEnd data := by
    simp only [List.length_append, twelve]
    omega
  have middle : ((data.take 12 ++ (joined list' ++ (rest ++ data.drop (aviEnd data)))).take (aviEnd data)).drop 12
      = joined list' ++ rest := by
    rw [shape, List.take_left' reach, List.drop_left' twelve]
  refine ⟨?_, List.take_left' twelve, ?_, ⟨_, rest, list', cuts, each, middle⟩, ?_⟩
  · rw [shape, List.length_append, reach, List.length_drop]
    omega
  · rw [shape, List.drop_left' reach]
  · rw [middle]
    have unled := cut_unled riffHeading ((data.take (aviEnd data)).drop 12)
    rw [left] at unled
    have behind := riffHeading.cut_cuts rest
    rw [unled] at behind
    -- So the scrubbed file is cut into the scrubbed chunks.
    have again := cuts.rewrite same rfl behind
    rw [List.append_nil] at again
    rw [again.cut_eq]
    intro c member
    obtain ⟨b, member', one⟩ := mem_forall₂_right each member
    exact one.clean (known b member')

/-- Another scrub of a scrubbed AVI video changes nothing in it. -/
theorem scrubAvi_again (long : 12 ≤ data.length) (scrubbed : scrubAvi (data, s) = .ok (out, s')) :
    ∃ s'', scrubAvi (out, s) = .ok (out, s'') := by
  have made := scrubAvi_scrubbed long scrubbed
  -- The size that the head says is as it was.
  have size : (out.drop 4).take 4 = (data.drop 4).take 4 := by
    have shorter := congrArg (fun bytes => (List.drop 4 bytes).take 4) made.front
    simp only [List.drop_take, List.take_take] at shorter
    exact shorter
  have same : aviEnd out = aviEnd data := by rw [aviEnd, aviEnd, size, made.long]
  have clean := made.clean
  rw [← same] at clean
  have cuts := riffHeading.cut_cuts ((out.take (aviEnd out)).drop 12)
  -- Chunks that are clean are left as they are.
  obtain ⟨s'', still⟩ := editAll_still (fun c member s => (clean c member).still s) s
  have order : 12 ≤ aviEnd out := by
    unfold aviEnd
    omega
  refine ⟨s'', ?_⟩
  rw [scrubAvi_eq (by rw [made.long]; exact long), still]
  have split := List.take_append_drop 12 (out.take (aviEnd out))
  rw [List.take_take, Nat.min_eq_left order] at split
  simp only [Except.map]
  rw [← List.append_assoc (joined _), cuts.joined, ← List.append_assoc, split, List.take_append_drop]

end Scrub
end Nightdrop
