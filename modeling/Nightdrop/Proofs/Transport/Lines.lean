import Nightdrop.Transport.Lines

/-! A line longer than its cap is refused, except when its newline comes before the cap is checked. -/

namespace Nightdrop

/-- What stands before the first `a`. -/
theorem take_idxOf (a : UInt8) (bytes : Bytes) :
    bytes.take (bytes.idxOf a) = bytes.takeWhile (· ≠ a) := by
  induction bytes with
  | nil => rfl
  | cons b rest ih =>
    by_cases same : b = a
    · simp [same]
    · simp [List.idxOf_cons_ne rest same, same, ih]

/-- What stands behind the first `a`. -/
theorem drop_idxOf_succ (a : UInt8) (bytes : Bytes) :
    bytes.drop (bytes.idxOf a + 1) = (bytes.dropWhile (· ≠ a)).drop 1 := by
  induction bytes with
  | nil => rfl
  | cons b rest ih =>
    by_cases same : b = a
    · simp [same]
    · simp [List.idxOf_cons_ne rest same, same, ih]

/-- Without an `a` in it, all of a prefix stands before the first one. -/
theorem takeWhile_ne_append {a : UInt8} {bytes : Bytes} (free : a ∉ bytes) (rest : Bytes) :
    (bytes ++ rest).takeWhile (· ≠ a) = bytes ++ rest.takeWhile (· ≠ a) := by
  refine List.takeWhile_append_of_pos fun b among => ?_
  have apart : b ≠ a := by
    rintro rfl
    exact free among
  simpa using apart

/-- Without an `a` in it, a prefix is skipped on the way to the first one. -/
theorem dropWhile_ne_append {a : UInt8} {bytes : Bytes} (free : a ∉ bytes) (rest : Bytes) :
    (bytes ++ rest).dropWhile (· ≠ a) = rest.dropWhile (· ≠ a) := by
  refine List.dropWhile_append_of_pos fun b among => ?_
  have apart : b ≠ a := by
    rintro rfl
    exact free among
  simpa using apart

/-- With an `a` in it, a prefix alone decides what stands before the first one. -/
theorem takeWhile_ne_append_of_mem {a : UInt8} {bytes : Bytes} (has : a ∈ bytes) (rest : Bytes) :
    (bytes ++ rest).takeWhile (· ≠ a) = bytes.takeWhile (· ≠ a) := by
  induction bytes with
  | nil => cases has
  | cons b more ih =>
    by_cases same : b = a
    · simp [same]
    · have later : a ∈ more := (List.mem_cons.mp has).resolve_left (fun first => same first.symm)
      simpa [same] using ih later

/-- With an `a` in it, all of the rest stands behind the first one. -/
theorem dropWhile_ne_append_of_mem {a : UInt8} {bytes : Bytes} (has : a ∈ bytes) (rest : Bytes) :
    ((bytes ++ rest).dropWhile (· ≠ a)).drop 1 = (bytes.dropWhile (· ≠ a)).drop 1 ++ rest := by
  induction bytes with
  | nil => cases has
  | cons b more ih =>
    by_cases same : b = a
    · simp [same]
    · have later : a ∈ more := (List.mem_cons.mp has).resolve_left (fun first => same first.symm)
      simpa [same] using ih later

namespace LineStream

variable {max fuel : Nat} {buf : Bytes} {s : LineStream}

/-- Consuming part of the first chunk leaves the rest of the bytes. -/
theorem consume_bytes (chunk : Bytes) (rest : List Bytes) (broken : Bool)
    (nonempty : ∀ c ∈ chunk :: rest, c ≠ []) (n : Nat) :
    (LineStream.consume ⟨chunk :: rest, broken, nonempty⟩ n).bytes = chunk.drop n ++ rest.flatten := by
  simp only [consume, bytes]
  split
  · rename_i left
    rw [left, List.nil_append]
  · rw [List.flatten_cons]

/-- Consuming the whole first chunk leaves the other chunks. -/
theorem consume_all (chunk : Bytes) (rest : List Bytes) (broken : Bool)
    (nonempty : ∀ c ∈ chunk :: rest, c ≠ []) :
    LineStream.consume ⟨chunk :: rest, broken, nonempty⟩ chunk.length
      = ⟨rest, broken, fun c among => nonempty c (.tail _ among)⟩ := by
  simp [consume]

/-- What the loop makes of the stream once `buf` was read: the cap counts only chunks without a newline. -/
def looped (s : LineStream) (max : Nat) (buf : Bytes) : Except LineError (Option String) :=
  if max < buf.length + s.before then .error .invalidData
  else if NEWLINE ∈ s.bytes then .ok (some (fromUtf8Lossy (buf ++ s.line)))
  else if s.broken then .error .io
  else if buf ++ s.bytes = [] then .ok none
  else .ok (some (fromUtf8Lossy (buf ++ s.bytes)))

/-- The loop's result, and what it leaves behind a line. -/
theorem loop_eq (buf : Bytes) (chunks : List Bytes) (broken : Bool) (nonempty : ∀ c ∈ chunks, c ≠ [])
    (enough : chunks.length < fuel) (within : buf.length ≤ max) :
    (readLineCapped.loop max fuel buf ⟨chunks, broken, nonempty⟩).1
        = looped ⟨chunks, broken, nonempty⟩ max buf
      ∧ ∀ line, (readLineCapped.loop max fuel buf ⟨chunks, broken, nonempty⟩).1 = .ok line →
        (readLineCapped.loop max fuel buf ⟨chunks, broken, nonempty⟩).2.bytes
          = behindLine ⟨chunks, broken, nonempty⟩ := by
  -- Each turn without a newline uses up one chunk, so the chunks bound the turns.
  induction chunks generalizing fuel buf with
  | nil =>
    cases fuel with
    | zero => cases enough
    | succ fuel =>
      have early : ¬ max < buf.length := by omega
      cases broken with
      | true => simp [readLineCapped.loop, fillBuf, looped, before, bytes, early]
      | false =>
        by_cases empty : buf = []
        · simp [readLineCapped.loop, fillBuf, looped, before, bytes, takeChunk, finishLine,
            consume, behindLine, empty]
        · simp [readLineCapped.loop, fillBuf, looped, before, bytes, takeChunk, finishLine,
            consume, behindLine, empty, early]
  | cons chunk rest ih =>
    cases fuel with
    | zero => cases enough
    | succ fuel =>
      have some' : chunk ≠ [] := nonempty chunk (.head _)
      by_cases has : NEWLINE ∈ chunk
      -- The newline is here: nothing looks at the cap any more.
      · have early : ¬ max < buf.length := by omega
        have line : LineStream.line ⟨chunk :: rest, broken, nonempty⟩ = chunk.takeWhile (· ≠ NEWLINE) := by
          simp only [LineStream.line, bytes, List.flatten_cons]
          exact takeWhile_ne_append_of_mem has _
        have behind := consume_bytes chunk rest broken nonempty (chunk.idxOf NEWLINE + 1)
        rw [drop_idxOf_succ] at behind
        constructor
        · simp [readLineCapped.loop, fillBuf, looped, before, takeChunk, finishLine, some', has,
            line, take_idxOf, early, bytes]
        · intro read _
          simp only [readLineCapped.loop, fillBuf, takeChunk, if_neg some', if_pos has, if_true]
          rw [behind]
          simp only [behindLine, bytes, List.flatten_cons]
          exact (dropWhile_ne_append_of_mem has _).symm
      · have beforeEq : before ⟨chunk :: rest, broken, nonempty⟩
            = chunk.length + before ⟨rest, broken, fun c among => nonempty c (.tail _ among)⟩ := by
          simp [before, has]
        have unfolded : readLineCapped.loop max (fuel + 1) buf ⟨chunk :: rest, broken, nonempty⟩
            = if max < (buf ++ chunk).length
              then (.error .invalidData, ⟨rest, broken, fun c among => nonempty c (.tail _ among)⟩)
              else readLineCapped.loop max fuel (buf ++ chunk)
                ⟨rest, broken, fun c among => nonempty c (.tail _ among)⟩ := by
          simp [readLineCapped.loop, fillBuf, takeChunk, some', has, consume_all]
        rw [unfolded]
        by_cases long : max < (buf ++ chunk).length
        · rw [if_pos long]
          constructor
          · have past : max < buf.length + before ⟨chunk :: rest, broken, nonempty⟩ := by
              rw [beforeEq]
              simp only [List.length_append] at long
              omega
            simp [looped, past]
          · intro read fine
            cases fine
        · rw [if_neg long]
          obtain ⟨result, left⟩ := ih (buf ++ chunk) (fun c among => nonempty c (.tail _ among))
            (Nat.lt_of_succ_lt_succ enough) (by omega)
          have same : looped ⟨rest, broken, fun c among => nonempty c (.tail _ among)⟩ max (buf ++ chunk)
              = looped ⟨chunk :: rest, broken, nonempty⟩ max buf := by
            by_cases later : NEWLINE ∈ rest.flatten
            all_goals by_cases none' : buf ++ (chunk ++ rest.flatten) = []
            all_goals
              simp only [looped, beforeEq, LineStream.line, bytes, List.flatten_cons, List.length_append,
                takeWhile_ne_append has, List.append_assoc, List.mem_append, has, later, none', false_or,
                if_true, if_false, Nat.add_assoc]
          refine ⟨result.trans same, fun read fine => (left read fine).trans ?_⟩
          simp only [behindLine, bytes, List.flatten_cons, dropWhile_ne_append has]

/-- The client's reader, from its first turn. -/
theorem readLineCapped_eq (s : LineStream) (max : Nat) :
    (readLineCapped max s).1 = s.looped max []
      ∧ ∀ line, (readLineCapped max s).1 = .ok line → (readLineCapped max s).2.bytes = s.behindLine :=
  loop_eq [] s.chunks s.broken s.nonempty (by omega) (by simp)

/-- What comes in chunks without a newline is part of the line. -/
theorem before_le_line (s : LineStream) : s.before ≤ s.line.length := by
  obtain ⟨chunks, broken, nonempty⟩ := s
  simp only [before, line, bytes]
  induction chunks with
  | nil => simp
  | cons chunk rest ih =>
    by_cases has : NEWLINE ∈ chunk
    · simp [has]
    · have later := ih fun c among => nonempty c (.tail _ among)
      rw [List.flatten_cons, takeWhile_ne_append has]
      simp [has] at later ⊢
      exact later

/-- Without a newline, all of the stream comes before it and is the line. -/
theorem before_eq_of_free (free : NEWLINE ∉ s.bytes) : s.before = s.bytes.length ∧ s.line = s.bytes := by
  constructor
  · have all : s.chunks.takeWhile (NEWLINE ∉ ·) = s.chunks := by
      rw [List.takeWhile_eq_self_iff]
      intro chunk among
      have apart : NEWLINE ∉ chunk := fun has => free (List.mem_flatten.mpr ⟨chunk, among, has⟩)
      simpa using apart
    rw [before, all, bytes]
  · rw [line, List.takeWhile_eq_self_iff]
    intro b among
    have apart : b ≠ NEWLINE := by
      rintro rfl
      exact free among
    simpa using apart

/-- The loop splits as the reference does, unless the line is overlooked. -/
theorem looped_eq_firstLine_iff : s.looped max [] = s.firstLine max ↔ ¬ s.Overlooked max := by
  have below := s.before_le_line
  unfold looped firstLine Overlooked
  simp only [List.length_nil, Nat.zero_add, List.nil_append]
  by_cases has : NEWLINE ∈ s.bytes
  · by_cases early : max < s.before
    · have long : max < s.line.length := by omega
      simp [early, long]
    · by_cases long : max < s.line.length
      · have late : s.before ≤ max := by omega
        simp [early, long, has, late]
      · simp [early, long, has]
  · obtain ⟨all, whole⟩ := before_eq_of_free has
    rw [all, whole]
    simp [has]

/-- A turn that nothing stops is the same in both readers. -/
theorem paced_loop_eq (p : Pacing) (turns : Nat → LineTurn) (i : Nat) (buf : Bytes) (s : LineStream)
    (going : LineError.stops (readLinePaced.loop max p turns fuel i buf s) = false) :
    readLinePaced.loop max p turns fuel i buf s = readLineCapped.loop max fuel buf s := by
  induction fuel generalizing i buf s with
  | zero => rfl
  | succ fuel ih =>
    simp only [readLinePaced.loop, readLineCapped.loop] at going ⊢
    by_cases slow : p.tooSlow (turns i).elapsed buf.length = true
    · simp [slow, LineError.stops] at going
    · by_cases idle : (turns i).idle = true
      · simp [slow, idle, LineError.stops] at going
      · simp only [slow, idle, Bool.false_eq_true, if_false] at going ⊢
        cases filled : s.fillBuf with
        | error e => rfl
        | ok chunk =>
          simp only [filled] at going ⊢
          by_cases refused : (turns i).grow buf.length (takeChunk chunk).1.length = false ∧ chunk ≠ []
          · simp [refused, LineError.stops] at going
          · simp only [refused, if_false] at going ⊢
            by_cases done : (takeChunk chunk).2.2 = true
            · simp [done]
            · simp only [done, Bool.false_eq_true, if_false] at going ⊢
              by_cases long : (buf ++ (takeChunk chunk).1).length > max
              · simp only [long, if_true]
              · simp only [long, if_false] at going ⊢
                exact ih _ _ _ going

/-- The readers are right exactly on the streams whose line is not overlooked. -/
theorem lines_right_iff (s : LineStream) (max : Nat) : s.LinesRight max ↔ ¬ s.Overlooked max := by
  obtain ⟨result, left⟩ := readLineCapped_eq s max
  constructor
  · rintro ⟨⟨split, -⟩, -⟩
    exact looped_eq_firstLine_iff.mp (result.symm.trans split)
  · intro seen
    have split : s.Splits max (readLineCapped max s) :=
      ⟨result.trans (looped_eq_firstLine_iff.mpr seen), left⟩
    refine ⟨split, fun p turns going => ?_⟩
    have same := paced_loop_eq p turns 0 [] s going
    refine ⟨?_, same⟩
    rw [show readLinePaced max p turns s = readLineCapped max s from same]
    exact split

/-- A line of four bytes in one chunk. -/
def fourBytes : LineStream := ⟨[[97, 98, 99, 100, NEWLINE]], false, by decide⟩

/-- A line of four bytes in one chunk passes a cap of three. -/
theorem one_chunk_passes_the_cap : ¬ ∀ (s : LineStream) (max : Nat), s.LinesRight max := by
  intro right
  obtain ⟨⟨split, -⟩, -⟩ := right fourBytes 3
  revert split
  decide +kernel

end LineStream
end Nightdrop
