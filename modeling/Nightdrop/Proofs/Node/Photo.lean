import Nightdrop.Node.Photo

/-! A scrubbed photo keeps its frame and is left as it is; behind its first scan nothing is scrubbed any more. -/

namespace Nightdrop

namespace Photo

/-- What follows a run of fill bytes is none, and shorter. -/
theorem dropWhile_fill {more after : Bytes} {marker : UInt8}
    (left : more.dropWhile (· = 0xFF) = marker :: after) : marker ≠ 0xFF ∧ after.length < more.length := by
  induction more with
  | nil => cases left
  | cons b rest ih =>
    by_cases fill : b = 0xFF
    · rw [List.dropWhile_cons_of_pos (by simpa using fill)] at left
      have shorter := ih left
      simp only [List.length_cons]
      exact ⟨shorter.1, by omega⟩
    · rw [List.dropWhile_cons_of_neg (by simpa using fill)] at left
      cases left
      exact ⟨fill, by simp⟩

/-- A marker without fill bytes is taken with what follows it. -/
theorem takeMarker_pair {marker : UInt8} (real : marker ≠ 0xFF) (after : Bytes) :
    takeMarker (0xFF :: marker :: after) = some (marker, after) := by
  simp [takeMarker, real]

/-- A marker that was taken is no fill byte. -/
theorem takeMarker_ne {rest after : Bytes} {marker : UInt8} (taken : takeMarker rest = some (marker, after)) :
    marker ≠ 0xFF := by
  unfold takeMarker at taken
  split at taken
  · split at taken
    · rename_i left
      cases taken
      exact (dropWhile_fill left).1
    · cases taken
  · cases taken

/-- A segment of its own length is taken back whole. -/
theorem takeSegment_append {after seg next : Bytes} (taken : takeSegment after = some (seg, next))
    (long : 2 ≤ seg.length) (out : Bytes) : takeSegment (seg ++ out) = some (seg, out) := by
  unfold takeSegment at taken
  split at taken
  · rename_i hi lo more
    split at taken
    · rename_i fits
      cases taken
      rw [List.length_take, Nat.min_eq_left fits] at long
      obtain ⟨n, size⟩ : ∃ n, be16 hi lo = n + 2 := ⟨be16 hi lo - 2, by omega⟩
      rw [size] at fits ⊢
      have length : (more.take n).length = n := by
        rw [List.length_take]
        simp only [List.length_cons] at fits
        omega
      simp only [List.take_succ_cons, List.cons_append, takeSegment, size]
      rw [if_pos (by simp only [List.length_cons, List.length_append, length]; omega)]
      simp only [List.take_succ_cons, List.drop_succ_cons]
      rw [List.take_left' length, List.drop_left' length]
    · cases taken
  · cases taken

/-- A segment that claims less than its own length is followed by no marker. -/
theorem takeMarker_of_short {after seg next : Bytes} (taken : takeSegment after = some (seg, next))
    (short : seg.length < 2) : takeMarker next = none := by
  unfold takeSegment at taken
  split at taken
  · rename_i hi lo more
    split at taken
    · rename_i fits
      cases taken
      rw [List.length_take, Nat.min_eq_left fits] at short
      unfold be16 at short ⊢
      have high : hi = 0 := by
        rw [← UInt8.toNat_inj]
        show hi.toNat = 0
        omega
      subst high
      have low : lo.toNat = 0 ∨ lo.toNat = 1 := by
        have zero : (0 : UInt8).toNat = 0 := rfl
        omega
      rcases low with none' | one
      · simp [none', takeMarker]
      · have same : lo = 1 := by
          rw [← UInt8.toNat_inj]
          exact one
        subst same
        have size : (0 : UInt8).toNat * 256 + (1 : UInt8).toNat = 1 := rfl
        rw [size]
        simp [takeMarker]
    · cases taken
  · cases taken

/-- A metadata marker begins no frame and is none that the walks stop at. -/
theorem metadata_apart {marker : UInt8} (tells : metadata marker = true) :
    drawn marker = false ∧ otherFrame marker = false := by
  simp only [metadata, drawn, otherFrame, decide_eq_true_eq, decide_eq_false_iff_not, UInt8.le_iff_toNat_le,
    ← UInt8.toNat_inj] at tells ⊢
  simp only [UInt8.reduceToNat] at tells ⊢
  omega

/-- Copying up to the end of the image leaves a copy as it is. -/
theorem copyToEoi_copyToEoi (rest : Bytes) : copyToEoi (copyToEoi rest) = copyToEoi rest := by
  unfold copyToEoi
  cases found : findBytes EOI rest with
  | none => simp [found]
  | some i =>
    have again : findBytes EOI (rest.take (i + 2)) = some i := findBytes_take found
    simp only [again]
    rw [List.take_take, Nat.min_self]

/-- The first scan's marker is copied with the scan. -/
theorem copyToEoi_scan (after : Bytes) : copyToEoi (0xFF :: 0xDA :: after) = 0xFF :: 0xDA :: copyToEoi after := by
  have skipped : findBytes EOI (0xFF :: 0xDA :: after) = (findBytes EOI after).map (· + 2) := by
    have one : EOI.isPrefixOf (0xFF :: 0xDA :: after) = false := by simp [EOI, List.isPrefixOf]
    have two : EOI.isPrefixOf (0xDA :: after) = false := by simp [EOI, List.isPrefixOf]
    rw [findBytes, one, findBytes, two]
    cases findBytes EOI after with
    | none => rfl
    | some i => rfl
  unfold copyToEoi
  rw [skipped]
  cases findBytes EOI after with
  | none => rfl
  | some i => rfl

/-- The frame header is found in what the walk puts out as it was in what it read. -/
theorem loop_frame {fuel more : Nat} {rest out : Bytes} {frame : Nat × Nat × UInt8}
    (scrubbed : scrubJpeg.loop fuel rest = some out) (framed : jpegFrame.loop more rest = some frame)
    {enough : Nat} (size : out.length < enough) : jpegFrame.loop enough out = some frame := by
  induction fuel generalizing rest out more enough with
  | zero => cases scrubbed
  | succ fuel ih =>
    cases more with
    | zero => cases framed
    | succ more =>
      cases enough with
      | zero => omega
      | succ enough =>
        unfold scrubJpeg.loop at scrubbed
        unfold jpegFrame.loop at framed
        cases taken : takeMarker rest with
        | none => simp [taken] at scrubbed
        | some both =>
          obtain ⟨marker, after⟩ := both
          have real := takeMarker_ne taken
          simp only [taken] at scrubbed framed
          by_cases single : alone marker = true
          · simp only [single, if_true] at scrubbed framed
            obtain ⟨out', inner, rfl⟩ := Option.map_eq_some_iff.mp scrubbed
            simp only [List.length_cons] at size
            have next : jpegFrame.loop enough out' = some frame := ih inner framed (by omega)
            simp only [jpegFrame.loop, takeMarker_pair real, single, if_true, next]
          · simp only [single, Bool.false_eq_true, if_false] at scrubbed framed
            -- The frame is found before the first scan, so the copy is not reached.
            by_cases scan : 0xD8 ≤ marker ∧ marker ≤ 0xDA
            · simp [scan] at framed
            · rw [if_neg scan] at framed
              have begins : marker ≠ 0xDA := by
                rintro rfl
                exact scan (by decide)
              rw [if_neg begins] at scrubbed
              cases cut : takeSegment after with
              | none => simp [cut] at scrubbed
              | some both =>
                obtain ⟨seg, next⟩ := both
                simp only [cut] at scrubbed framed
                obtain ⟨out', inner, rfl⟩ := Option.map_eq_some_iff.mp scrubbed
                by_cases short : seg.length < 2
                · simp [short] at framed
                · rw [if_neg short] at framed
                  -- What is dropped is neither a frame nor a reason to refuse.
                  by_cases dropped : metadata marker = true
                  · obtain ⟨noFrame, noOther⟩ := metadata_apart dropped
                    simp only [dropped, noFrame, noOther, if_true, Bool.false_eq_true, if_false] at size framed ⊢
                    exact ih inner framed size
                  · simp only [dropped, Bool.false_eq_true, if_false, List.length_cons, List.length_append] at size ⊢
                    have again := takeSegment_append cut (by omega) out'
                    simp only [jpegFrame.loop, takeMarker_pair real, single, Bool.false_eq_true, if_false, scan,
                      again, short]
                    by_cases frames : drawn marker = true
                    · simpa only [frames, if_true] using framed
                    · simp only [frames, Bool.false_eq_true, if_false] at framed ⊢
                      by_cases other : otherFrame marker = true
                      · simp [other] at framed
                      · simp only [other, Bool.false_eq_true, if_false] at framed ⊢
                        exact ih inner framed (by omega)

/-- What the walk puts out, it puts out again. -/
theorem loop_again {fuel : Nat} {rest out : Bytes} (scrubbed : scrubJpeg.loop fuel rest = some out)
    {enough : Nat} (size : out.length < enough) : scrubJpeg.loop enough out = some out := by
  induction fuel generalizing rest out enough with
  | zero => cases scrubbed
  | succ fuel ih =>
    cases enough with
    | zero => omega
    | succ enough =>
      unfold scrubJpeg.loop at scrubbed
      cases taken : takeMarker rest with
      | none => simp [taken] at scrubbed
      | some both =>
        obtain ⟨marker, after⟩ := both
        have real := takeMarker_ne taken
        simp only [taken] at scrubbed
        by_cases single : alone marker = true
        · simp only [single, if_true] at scrubbed
          obtain ⟨out', inner, rfl⟩ := Option.map_eq_some_iff.mp scrubbed
          simp only [List.length_cons] at size
          have next : scrubJpeg.loop enough out' = some out' := ih inner (by omega)
          simp only [scrubJpeg.loop, takeMarker_pair real, single, if_true, next, Option.map_some]
        · simp only [single, Bool.false_eq_true, if_false] at scrubbed
          by_cases begins : marker = 0xDA
          · subst begins
            rw [if_pos rfl] at scrubbed
            cases scrubbed
            simp only [scrubJpeg.loop, takeMarker_pair real, single, Bool.false_eq_true, if_false, if_true,
              copyToEoi_copyToEoi]
          · rw [if_neg begins] at scrubbed
            cases cut : takeSegment after with
            | none => simp [cut] at scrubbed
            | some both =>
              obtain ⟨seg, next⟩ := both
              simp only [cut] at scrubbed
              obtain ⟨out', inner, rfl⟩ := Option.map_eq_some_iff.mp scrubbed
              by_cases dropped : metadata marker = true
              · simp only [dropped, if_true] at size ⊢
                exact ih inner size
              · simp only [dropped, Bool.false_eq_true, if_false, List.length_cons, List.length_append] at size ⊢
                -- A shorter segment would have ended the walk at the next marker.
                have long : 2 ≤ seg.length := by
                  by_contra short
                  have none' := takeMarker_of_short cut (by omega)
                  cases fuel with
                  | zero => cases inner
                  | succ fuel => simp [scrubJpeg.loop, none'] at inner
                have again := takeSegment_append cut long out'
                have later : scrubJpeg.loop enough out' = some out' := ih inner (by omega)
                simp only [scrubJpeg.loop, takeMarker_pair real, single, Bool.false_eq_true, if_false, begins,
                  again, later, Option.map_some, dropped]

/-- The walk puts out the pieces before the first scan that are no metadata, and that scan's copy. -/
theorem loop_pieces {fuel : Nat} {rest out scan : Bytes} {head : List Piece}
    (scrubbed : scrubJpeg.loop fuel rest = some out) (read : headPieces fuel rest = some (head, scan)) :
    out = bytesOf (head.filter Piece.stays) ++ copyToEoi scan := by
  induction fuel generalizing rest out head with
  | zero => cases scrubbed
  | succ fuel ih =>
    unfold scrubJpeg.loop at scrubbed
    unfold headPieces at read
    cases taken : takeMarker rest with
    | none => simp [taken] at scrubbed
    | some both =>
      obtain ⟨marker, after⟩ := both
      simp only [taken] at scrubbed read
      by_cases single : alone marker = true
      · simp only [single, if_true] at scrubbed read
        obtain ⟨out', inner, rfl⟩ := Option.map_eq_some_iff.mp scrubbed
        obtain ⟨⟨head', scan'⟩, innerRead, same⟩ := Option.map_eq_some_iff.mp read
        cases same
        rw [ih inner innerRead, List.filter_cons_of_pos rfl]
        rfl
      · simp only [single, Bool.false_eq_true, if_false] at scrubbed read
        by_cases begins : marker = 0xDA
        · rw [if_pos begins] at scrubbed read
          cases scrubbed
          cases read
          rw [begins, copyToEoi_scan]
          rfl
        · rw [if_neg begins] at scrubbed read
          cases cut : takeSegment after with
          | none => simp [cut] at scrubbed
          | some both =>
            obtain ⟨seg, next⟩ := both
            simp only [cut] at scrubbed read
            obtain ⟨out', inner, rfl⟩ := Option.map_eq_some_iff.mp scrubbed
            obtain ⟨⟨head', scan'⟩, innerRead, same⟩ := Option.map_eq_some_iff.mp read
            cases same
            rw [ih inner innerRead]
            by_cases dropped : metadata marker = true
            · have away : ¬ (Piece.segment 0 marker seg).stays = true := by simp [Piece.stays, dropped]
              rw [List.filter_cons_of_neg away, if_pos dropped]
            · have kept : (Piece.segment 0 marker seg).stays = true := by simp [Piece.stays, dropped]
              rw [List.filter_cons_of_pos kept, if_neg dropped, ← List.append_assoc]
              rfl

section Scan

/-- What every piece of a scan is like, fill bytes being last. -/
def Wellformed : List Piece → Prop
  | [] => True
  | .fill _ :: rest => rest = []
  | .data byte :: rest => byte ≠ 0xFF ∧ Wellformed rest
  | .mark _ marker :: rest => (marker ≠ 0xFF ∧ metadata marker = false) ∧ Wellformed rest
  | .segment _ marker _ :: rest => marker ≠ 0xFF ∧ Wellformed rest

/-- A stuffed byte or a marker that stands alone is no metadata. -/
theorem metadata_single {marker : UInt8} (single : marker = 0 ∨ alone marker = true) : metadata marker = false := by
  simp only [metadata, alone, decide_eq_true_eq, decide_eq_false_iff_not, UInt8.le_iff_toNat_le,
    ← UInt8.toNat_inj] at single ⊢
  simp only [UInt8.reduceToNat] at single ⊢
  omega

/-- A run of fill bytes and what ends it. -/
theorem takeWhile_fill (rest : Bytes) :
    rest = List.replicate (rest.takeWhile (· = 0xFF)).length 0xFF ++ rest.dropWhile (· = 0xFF) := by
  have run : rest.takeWhile (· = 0xFF) = List.replicate (rest.takeWhile (· = 0xFF)).length 0xFF := by
    rw [List.eq_replicate_iff]
    refine ⟨rfl, fun b among => ?_⟩
    simpa using List.mem_takeWhile_imp among
  rw [← run, List.takeWhile_append_dropWhile]

/-- A segment and what follows it are all the bytes. -/
theorem cutSegment_append (after : Bytes) : (cutSegment after).1 ++ (cutSegment after).2 = after := by
  unfold cutSegment
  split
  · exact List.take_append_drop _ _
  · exact List.append_nil _

/-- The pieces are well formed, and are all the bytes up to the end of the image. -/
theorem pieces_spec {fuel : Nat} {rest : Bytes} (enough : rest.length < fuel) :
    Wellformed (pieces fuel rest) ∧ ∃ behind, rest = bytesOf (pieces fuel rest) ++ behind
      ∧ (behind = [] ∨ findBytes EOI (bytesOf (pieces fuel rest)) ≠ none) := by
  induction fuel generalizing rest with
  | zero => omega
  | succ fuel ih =>
    cases rest with
    | nil => exact ⟨trivial, [], rfl, .inl rfl⟩
    | cons b rest =>
      rw [List.length_cons] at enough
      by_cases plain : b ≠ 0xFF
      · obtain ⟨formed, behind, whole, ended⟩ := ih (show rest.length < fuel by omega)
        have same : pieces (fuel + 1) (b :: rest) = .data b :: pieces fuel rest := by
          simp only [pieces, plain, if_true, ne_eq, not_false_eq_true]
        rw [same]
        refine ⟨⟨plain, formed⟩, behind, ?_, ended.imp_right fun found => ?_⟩
        · show b :: rest = b :: (bytesOf (pieces fuel rest) ++ behind)
          rw [← whole]
        · exact findBytes_append_ne_none [b] found
      · have fill : b = 0xFF := by simpa using plain
        subst fill
        have run := takeWhile_fill rest
        cases left : rest.dropWhile (· = 0xFF) with
        | nil =>
          -- Nothing but fill bytes is left.
          have same : pieces (fuel + 1) (0xFF :: rest) = [.fill rest.length] := by
            simp only [pieces, plain, if_false, left]
          rw [left, List.append_nil] at run
          have all : (rest.takeWhile (· = 0xFF)).length = rest.length := by
            have size := congrArg List.length run
            rw [List.length_replicate] at size
            exact size.symm
          rw [all] at run
          rw [same]
          refine ⟨rfl, [], ?_, .inl rfl⟩
          simp only [bytesOf, List.flatMap_cons, List.flatMap_nil, Piece.bytes, List.append_nil,
            List.replicate_succ]
          rw [← run]
        | cons marker after =>
          obtain ⟨real, shorter⟩ := dropWhile_fill left
          rw [left] at run
          have lead : 0xFF :: rest = List.replicate ((rest.takeWhile (· = 0xFF)).length + 1) 0xFF ++ marker :: after := by
            rw [List.replicate_succ, List.cons_append, ← run]
          by_cases ends : marker = 0xD9
          · have same : pieces (fuel + 1) (0xFF :: rest) = [.mark (rest.takeWhile (· = 0xFF)).length marker] := by
              simp only [pieces, plain, if_false, left, ends, if_true]
            rw [same]
            refine ⟨⟨⟨real, by rw [ends]; decide⟩, trivial⟩, after, ?_, .inr ?_⟩
            · simpa [bytesOf, Piece.bytes] using lead
            -- The last fill byte and the marker are the pair.
            · have there := findBytes_ne_none (List.replicate (rest.takeWhile (· = 0xFF)).length 0xFF) EOI []
              simpa [bytesOf, Piece.bytes, ends, EOI, List.replicate_succ'] using there
          · by_cases single : marker = 0 ∨ alone marker = true
            · obtain ⟨formed, behind, whole, ended⟩ := ih (show after.length < fuel by omega)
              have same : pieces (fuel + 1) (0xFF :: rest)
                  = .mark (rest.takeWhile (· = 0xFF)).length marker :: pieces fuel after := by
                simp only [pieces, plain, if_false, left, ends, single, if_true]
              rw [same]
              refine ⟨⟨⟨real, metadata_single single⟩, formed⟩, behind, ?_, ended.imp_right fun found => ?_⟩
              · rw [lead, bytesOf, List.flatMap_cons, List.append_assoc, ← bytesOf, ← whole]
                simp [Piece.bytes]
              · exact findBytes_append_ne_none _ found
            · have cut := cutSegment_append after
              have size := congrArg List.length cut
              rw [List.length_append] at size
              obtain ⟨formed, behind, whole, ended⟩ := ih (show (cutSegment after).2.length < fuel by omega)
              have same : pieces (fuel + 1) (0xFF :: rest)
                  = .segment (rest.takeWhile (· = 0xFF)).length marker (cutSegment after).1
                    :: pieces fuel (cutSegment after).2 := by
                simp only [pieces, plain, if_false, left, ends, single]
              rw [same]
              refine ⟨⟨real, formed⟩, behind, ?_, ended.imp_right fun found => ?_⟩
              · rw [lead, bytesOf, List.flatMap_cons, List.append_assoc, ← bytesOf, ← whole]
                simp [Piece.bytes, cut]
              · exact findBytes_append_ne_none _ found

/-- What is copied is the begin of the pieces: all of them, or up to an end-of-image pair. -/
theorem copy_prefix (scan : Bytes) : copyToEoi scan <+: bytesOf (scanPieces scan)
    ∧ (copyToEoi scan = bytesOf (scanPieces scan) ∨ ∃ front, copyToEoi scan = front ++ [0xD9]) := by
  obtain ⟨-, behind, whole, ended⟩ := pieces_spec (Nat.lt_succ_self scan.length)
  change scan = bytesOf (scanPieces scan) ++ behind at whole
  change behind = [] ∨ findBytes EOI (bytesOf (scanPieces scan)) ≠ none at ended
  generalize bytesOf (scanPieces scan) = all at whole ended
  -- Where a pair is found in the pieces, it is the first one of the scan.
  have cut (i : Nat) (found : findBytes EOI all = some i) :
      copyToEoi scan <+: all ∧ (copyToEoi scan = all ∨ ∃ front, copyToEoi scan = front ++ [0xD9]) := by
    have fits : i + 2 ≤ all.length := findBytes_le found
    have same : copyToEoi scan = all.take (i + 2) := by
      unfold copyToEoi
      rw [whole, findBytes_append found]
      simp only []
      exact List.take_append_of_le_length fits
    refine ⟨same ▸ List.take_prefix _ _, .inr ⟨all.take (i + 1), ?_⟩⟩
    have last : all[i + 1]? = some 0xD9 := by
      obtain ⟨lead, tail, split', size⟩ := findBytes_split found
      rw [split', List.getElem?_append_right (by omega), ← size]
      simp [EOI]
    rw [same, List.take_add_one, last]
    rfl
  rcases ended with none' | found
  · rw [none', List.append_nil] at whole
    cases found : findBytes EOI all with
    | none =>
      have same : copyToEoi scan = all := by
        unfold copyToEoi
        rw [whole, found]
      exact ⟨same ▸ List.prefix_rfl, .inl same⟩
    | some i => exact cut i found
  · obtain ⟨i, found⟩ := Option.ne_none_iff_exists'.mp found
    exact cut i found

/-- No piece is without bytes. -/
theorem bytes_ne_nil (p : Piece) : p.bytes ≠ [] := by
  cases p <;> simp [Piece.bytes, List.replicate_succ]

/-- Two runs of fill bytes that agree as far as they go are ended by the same marker. -/
theorem marker_eq {a b : Nat} {x y : UInt8} {u v : Bytes} (noFill : x ≠ 0xFF) (noFill' : y ≠ 0xFF)
    (agree : (List.replicate a 0xFF ++ x :: u) <+: (List.replicate b 0xFF ++ y :: v)) : x = y := by
  induction a generalizing b with
  | zero =>
    cases b with
    | zero => exact (List.cons_prefix_cons.mp agree).1
    | succ b => exact absurd (List.cons_prefix_cons.mp agree).1 noFill
  | succ a ih =>
    cases b with
    | zero => exact absurd (List.cons_prefix_cons.mp agree).1.symm noFill'
    | succ b => exact ih (List.cons_prefix_cons.mp agree).2

/-- What is kept of well-formed pieces begins with a well-formed piece, and fill bytes end it. -/
theorem kept_head {ps : List Piece} (formed : Wellformed ps) {q : Piece} {qs : List Piece}
    (kept : ps.filter Piece.stays = q :: qs) : Wellformed [q] ∧ ∀ n, q = .fill n → qs = [] := by
  induction ps with
  | nil => cases kept
  | cons p rest ih =>
    cases p with
    | fill n =>
      cases formed
      cases kept
      exact ⟨rfl, fun _ _ => rfl⟩
    | data byte =>
      cases kept
      exact ⟨⟨formed.1, trivial⟩, fun n same => by cases same⟩
    | mark fills marker =>
      cases kept
      exact ⟨⟨formed.1, trivial⟩, fun n same => by cases same⟩
    | segment fills marker seg =>
      by_cases stays : (Piece.segment fills marker seg).stays = true
      · rw [List.filter_cons_of_pos stays] at kept
        cases kept
        exact ⟨⟨formed.1, trivial⟩, fun n same => by cases same⟩
      · rw [List.filter_cons_of_neg stays] at kept
        exact ih formed.2 kept

/-- If what is kept of the pieces is a begin of them, nothing but metadata follows it. -/
theorem kept_prefix {ps : List Piece} (formed : Wellformed ps)
    (begins : bytesOf (ps.filter Piece.stays) <+: bytesOf ps)
    (ended : bytesOf (ps.filter Piece.stays) = bytesOf ps
      ∨ ∃ front, bytesOf (ps.filter Piece.stays) = front ++ [0xD9]) :
    ∃ copied dropped, ps = copied ++ dropped ∧ bytesOf copied = bytesOf (ps.filter Piece.stays)
      ∧ (∀ p ∈ copied, p.stays = true) ∧ ∀ p ∈ dropped, p.stays = false := by
  induction ps with
  | nil => exact ⟨[], [], rfl, rfl, by simp, by simp⟩
  | cons p rest ih =>
    have formedRest : Wellformed rest := by
      cases p with
      | fill n =>
        cases formed
        trivial
      | _ => exact formed.2
    by_cases none' : rest.filter Piece.stays = []
    · have others : ∀ q ∈ rest, q.stays = false := by
        intro q among
        have out := List.filter_eq_nil_iff.mp none' q among
        simpa using out
      by_cases stays : p.stays = true
      · rw [List.filter_cons_of_pos stays, none']
        exact ⟨[p], rest, rfl, rfl, by simpa using stays, others⟩
      · rw [List.filter_cons_of_neg stays, none']
        exact ⟨[], p :: rest, rfl, rfl, by simp, by simpa using ⟨by simpa using stays, others⟩⟩
    · by_cases stays : p.stays = true
      · rw [List.filter_cons_of_pos stays] at begins ended ⊢
        change p.bytes ++ bytesOf (rest.filter Piece.stays) <+: p.bytes ++ bytesOf rest at begins
        have begins' := (List.prefix_append_right_inj p.bytes).mp begins
        have ended' : bytesOf (rest.filter Piece.stays) = bytesOf rest
            ∨ ∃ front, bytesOf (rest.filter Piece.stays) = front ++ [0xD9] := by
          rcases ended with same | ⟨front, same⟩
          · exact .inl (List.append_cancel_left same)
          · change p.bytes ++ bytesOf (rest.filter Piece.stays) = front ++ [0xD9] at same
            have filled : bytesOf (rest.filter Piece.stays) ≠ [] := by
              cases kept : rest.filter Piece.stays with
              | nil => exact absurd kept none'
              | cons q qs =>
                intro empty
                exact bytes_ne_nil q (List.append_eq_nil_iff.mp empty).1
            refine .inr ⟨(bytesOf (rest.filter Piece.stays)).dropLast, ?_⟩
            have last := congrArg List.getLast? same
            rw [List.getLast?_append_of_ne_nil _ filled, List.getLast?_concat] at last
            exact (List.dropLast_append_getLast? _ last).symm
        obtain ⟨copied, dropped, rfl, bytes, kept, others⟩ := ih formedRest begins' ended'
        refine ⟨p :: copied, dropped, rfl, ?_, ?_, others⟩
        · show p.bytes ++ bytesOf copied = p.bytes ++ bytesOf ((copied ++ dropped).filter Piece.stays)
          rw [bytes]
        · simpa using ⟨stays, kept⟩
      -- A metadata piece before one that is kept would have to begin as that one does.
      · exfalso
        rw [List.filter_cons_of_neg stays] at begins ended
        cases kept : rest.filter Piece.stays with
        | nil => exact none' kept
        | cons q qs =>
          obtain ⟨formedHead, last⟩ := kept_head formedRest kept
          rw [kept] at begins ended
          -- Only a segment is dropped: no kept piece has its marker behind the fill bytes.
          cases p with
          | segment fills marker seg =>
            have tells : metadata marker = true := by simpa [Piece.stays] using stays
            have real : marker ≠ 0xFF := formed.1
            change q.bytes ++ bytesOf qs <+: (List.replicate (fills + 1) 0xFF ++ marker :: seg) ++ bytesOf rest at begins
            rw [List.append_assoc] at begins
            have keeps : q.stays = true := by
              have among : q ∈ rest.filter Piece.stays := by rw [kept]; exact .head _
              exact (List.mem_filter.mp among).2
            cases q with
            | data byte => exact formedHead.1 (List.cons_prefix_cons.mp begins).1
            -- Fill bytes are the last piece: they are too few, and do not end as an image does.
            | fill n =>
              rw [last n rfl] at begins ended
              rcases ended with same | ⟨front, same⟩
              · have size := congrArg List.length same
                have inside : (Piece.fill n).bytes.length ≤ (bytesOf rest).length := by
                  have among : Piece.fill n ∈ rest := by
                    have kept' : Piece.fill n ∈ rest.filter Piece.stays := by rw [kept]; exact .head _
                    exact (List.mem_filter.mp kept').1
                  obtain ⟨before, after, split'⟩ := List.append_of_mem among
                  rw [split']
                  simp [bytesOf]
                  omega
                simp only [bytesOf, List.flatMap_cons, List.flatMap_nil, List.append_nil, List.length_append] at size inside
                have positive := List.length_pos_iff.mpr (bytes_ne_nil (.segment fills marker seg))
                omega
              · have tail := congrArg List.getLast? same
                simp only [bytesOf, List.flatMap_cons, List.flatMap_nil, List.append_nil, Piece.bytes,
                  List.replicate_succ', List.getLast?_concat, Option.some.injEq] at tail
                revert tail
                decide
            | mark fills' marker' =>
              change (List.replicate (fills' + 1) 0xFF ++ [marker']) ++ bytesOf qs <+: _ at begins
              rw [List.append_assoc] at begins
              have same := marker_eq formedHead.1.1 real begins
              rw [← same, formedHead.1.2] at tells
              cases tells
            | segment fills' marker' seg' =>
              change (List.replicate (fills' + 1) 0xFF ++ marker' :: seg') ++ bytesOf qs <+: _ at begins
              rw [List.append_assoc] at begins
              have same := marker_eq formedHead.1 real begins
              subst same
              simp [Piece.stays, tells] at keeps
          | _ => simp [Piece.stays] at stays

end Scan

/-- Where the pieces before the first scan are read, the walk puts something out. -/
theorem loop_of_head {fuel : Nat} {rest scan : Bytes} {head : List Piece}
    (read : headPieces fuel rest = some (head, scan)) : ∃ out, scrubJpeg.loop fuel rest = some out := by
  induction fuel generalizing rest head scan with
  | zero => cases read
  | succ fuel ih =>
    unfold headPieces at read
    cases taken : takeMarker rest with
    | none => simp [taken] at read
    | some both =>
      obtain ⟨marker, after⟩ := both
      simp only [taken] at read
      simp only [scrubJpeg.loop, taken]
      by_cases single : alone marker = true
      · simp only [single, if_true] at read ⊢
        obtain ⟨⟨head', scan'⟩, inner, -⟩ := Option.map_eq_some_iff.mp read
        obtain ⟨out, more⟩ := ih inner
        exact ⟨0xFF :: marker :: out, by rw [more]; rfl⟩
      · simp only [single, Bool.false_eq_true, if_false] at read ⊢
        by_cases begins : marker = 0xDA
        · rw [if_pos begins]
          exact ⟨_, rfl⟩
        · rw [if_neg begins] at read ⊢
          cases cut : takeSegment after with
          | none => simp [cut] at read
          | some both =>
            obtain ⟨seg, next⟩ := both
            simp only [cut] at read ⊢
            obtain ⟨⟨head', scan'⟩, inner, -⟩ := Option.map_eq_some_iff.mp read
            obtain ⟨out, more⟩ := ih inner
            exact ⟨_, by rw [more]; rfl⟩

/-- What is copied is the scan's bytes up to the end of its first end-of-image pair. -/
theorem copyToEoi_eq (scan : Bytes) : copyToEoi scan = scan.take (firstEnd scan) ∧ firstEnd scan ≤ scan.length := by
  unfold copyToEoi firstEnd
  cases found : findBytes EOI scan with
  | none => simp
  | some i =>
    have fits : i + 2 ≤ scan.length := findBytes_le found
    exact ⟨rfl, fits⟩

/-- What is copied of a scan is its pieces but the metadata exactly if the scan is clean. -/
theorem copied_iff (scan : Bytes) : copyToEoi scan = bytesOf ((scanPieces scan).filter Piece.stays) ↔ CleanScan scan := by
  obtain ⟨formed, behind, whole, -⟩ := pieces_spec (Nat.lt_succ_self scan.length)
  change Wellformed (scanPieces scan) at formed
  change scan = bytesOf (scanPieces scan) ++ behind at whole
  obtain ⟨copies, fits⟩ := copyToEoi_eq scan
  constructor
  · intro same
    obtain ⟨begins, ended⟩ := copy_prefix scan
    rw [same] at begins ended
    obtain ⟨copied, dropped, parts, bytes, kept, others⟩ := kept_prefix formed begins ended
    refine ⟨copied, dropped, parts, kept, others, ?_⟩
    rw [bytes, ← same, copies, List.length_take, Nat.min_eq_left fits]
  · rintro ⟨copied, dropped, parts, kept, others, size⟩
    have stays : (copied ++ dropped).filter Piece.stays = copied := by
      rw [List.filter_append, List.filter_eq_self.mpr kept, List.filter_eq_nil_iff.mpr, List.append_nil]
      intro p among
      simp [others p among]
    rw [parts, stays, copies, ← size]
    have begins : scan = bytesOf copied ++ (bytesOf dropped ++ behind) := by
      rw [← List.append_assoc, bytesOf, bytesOf, ← List.flatMap_append, ← parts]
      exact whole
    rw [begins]
    exact List.take_left

end Photo
end Nightdrop
