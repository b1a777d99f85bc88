import Nightdrop.Moat.Http

/-! What a reply's reader makes of a stream, told without its cuts, and what bounds its buffer. -/

namespace Nightdrop
namespace Moat

/-- Trailers that have all arrived stay as they are when more bytes come. -/
theorem skipTrailers_append {fuel more : Nat} {rest : Bytes} {n : Nat}
    (skipped : skipTrailers fuel rest = some n) (enough : fuel ≤ more) (extra : Bytes) :
    skipTrailers more (rest ++ extra) = some n := by
  induction fuel generalizing more rest n with
  | zero => cases skipped
  | succ fuel ih =>
    cases more with
    | zero => omega
    | succ more =>
      unfold skipTrailers at skipped ⊢
      cases line : findBytes CRLF rest with
      | none => simp [line] at skipped
      | some stop =>
        have fits : stop + 2 ≤ rest.length := findBytes_le line
        simp only [line, findBytes_append line] at skipped ⊢
        by_cases blank : stop = 0
        · simpa [blank] using skipped
        · simp only [blank, if_false] at skipped ⊢
          rw [List.drop_append_of_le_length fits]
          cases next : skipTrailers fuel (rest.drop (stop + 2)) with
          | none => simp [next] at skipped
          | some k =>
            rw [ih next (by omega)]
            simpa [next] using skipped

/-- Chunks that are decided stay so when more bytes come. -/
theorem loop_append {fuel more : Nat} {body rest : Bytes} {i : Nat}
    (decided : parseChunked.loop fuel body i rest ≠ .ok none) (enough : fuel ≤ more) (extra : Bytes) :
    parseChunked.loop more body i (rest ++ extra) = parseChunked.loop fuel body i rest := by
  induction fuel generalizing more body rest i with
  | zero => exact absurd rfl decided
  | succ fuel ih =>
    cases more with
    | zero => omega
    | succ more =>
      unfold parseChunked.loop at decided ⊢
      cases line : findBytes CRLF rest with
      | none => simp [line] at decided
      | some lineEnd =>
        have fits : lineEnd + 2 ≤ rest.length := findBytes_le line
        have lineSame : (rest ++ extra).take lineEnd = rest.take lineEnd :=
          List.take_append_of_le_length (by omega)
        have restSame : (rest ++ extra).drop (lineEnd + 2) = rest.drop (lineEnd + 2) ++ extra :=
          List.drop_append_of_le_length fits
        simp only [line, findBytes_append line, lineSame, restSame] at decided ⊢
        cases declared : sizeOfLine (rest.take lineEnd) with
        | none => rfl
        | some size =>
          simp only [declared] at decided ⊢
          generalize rest.drop (lineEnd + 2) = after at decided ⊢
          by_cases last : size = 0
          -- The final blank line has arrived, or nothing would be decided.
          · simp only [last, if_true] at decided ⊢
            cases skipped : skipTrailers (after.length + 1) after with
            | none => simp [skipped] at decided
            | some n => rw [skipTrailers_append skipped (by simp)]
          · simp only [last, if_false] at decided ⊢
            by_cases past : WORD ≤ body.length + size
            · simp [past]
            · simp only [past, if_false] at decided ⊢
              by_cases large : body.length + size > MAX_BODY
              · simp [large]
              · simp only [large, if_false] at decided ⊢
                by_cases part : after.length < size + 2
                · simp [part] at decided
                · have whole : ¬ (after ++ extra).length < size + 2 := by
                    rw [List.length_append]
                    omega
                  have endSame : ((after ++ extra).drop size).take 2 = (after.drop size).take 2 := by
                    rw [List.drop_append_of_le_length (by omega)]
                    exact List.take_append_of_le_length (by rw [List.length_drop]; omega)
                  have dataSame : (after ++ extra).take size = after.take size :=
                    List.take_append_of_le_length (by omega)
                  have tailSame : (after ++ extra).drop (size + 2) = after.drop (size + 2) ++ extra :=
                    List.drop_append_of_le_length (by omega)
                  simp only [part, whole, endSame, dataSame, tailSame, if_false] at decided ⊢
                  by_cases ended : (after.drop size).take 2 ≠ CRLF
                  · simp [ended]
                  · simp only [ended, if_false] at decided ⊢
                    exact ih decided (by omega)

/-- A body that is decided stays so when more bytes come. -/
theorem parseBody_append {f : Framing} {rest : Bytes} (decided : parseBody f rest ≠ .ok none) (extra : Bytes) :
    parseBody f (rest ++ extra) = parseBody f rest := by
  unfold parseBody at decided ⊢
  by_cases chunked : f.chunked = true
  · simp only [chunked, if_true] at decided ⊢
    exact loop_append decided (by simp) extra
  · simp only [chunked, Bool.false_eq_true, if_false] at decided ⊢
    by_cases part : rest.length < f.contentLength.getD 0
    · simp [part] at decided
    · have whole : ¬ (rest ++ extra).length < f.contentLength.getD 0 := by
        rw [List.length_append]
        omega
      have same : (rest ++ extra).take (f.contentLength.getD 0) = rest.take (f.contentLength.getD 0) :=
        List.take_append_of_le_length (by omega)
      simp only [part, whole, same, if_false]

/-- Behind a header section with its end, what is decided stays so when more bytes come. -/
theorem parse_append {buf : Bytes} (ended : findBytes BLANK buf ≠ none) (decided : parse buf ≠ .ok none)
    (extra : Bytes) : parse (buf ++ extra) = parse buf := by
  unfold parse at decided ⊢
  cases found : findBytes BLANK buf with
  | none => exact absurd found ended
  | some headEnd =>
    have fits : headEnd + 4 ≤ buf.length := findBytes_le found
    have headSame : (buf ++ extra).take headEnd = buf.take headEnd :=
      List.take_append_of_le_length (by omega)
    have bodySame : (buf ++ extra).drop (headEnd + 4) = buf.drop (headEnd + 4) ++ extra :=
      List.drop_append_of_le_length fits
    simp only [found, findBytes_append found, headSame, bodySame] at decided ⊢
    cases parsed : parseHead (buf.take headEnd) with
    | error e => rfl
    | ok head =>
      obtain ⟨status, f⟩ := head
      simp only [parsed] at decided ⊢
      have undecided : parseBody f (buf.drop (headEnd + 4)) ≠ .ok none := by
        intro none'
        simp [none'] at decided
      rw [parseBody_append undecided]

/-- Without the end of its header section, a buffer is only measured. -/
theorem parse_of_open {buf : Bytes} (open' : findBytes BLANK buf = none) :
    parse buf = if buf.length > MAX_HEAD then .error .headTooLong else .ok none := by
  simp [parse, open']

/-- Whether the loop looks at a header section that is over its limit and still without its end. -/
def Late (buf : Bytes) (reads : List Bytes) : Prop :=
  ∃ before behind, reads = before ++ behind ∧ findBytes BLANK (buf ++ before.flatten) = none
    ∧ MAX_HEAD < (buf ++ before.flatten).length

/-- A cut's verdict: a late header section is refused, and otherwise only the whole counts. -/
theorem readReply_eq (buf : Bytes) (reads : List Bytes) :
    (Late buf reads → readReply buf reads = .error .headTooLong)
      ∧ (¬ Late buf reads → readReply buf reads = .ofParse (parse (buf ++ reads.flatten))) := by
  induction reads generalizing buf with
  | nil =>
    constructor
    · rintro ⟨before, behind, split', open', long⟩
      have none' : before = [] := (List.append_eq_nil_iff.mp split'.symm).1
      subst none'
      rw [List.flatten_nil, List.append_nil] at open' long
      simp [readReply, parse_of_open open', long, Verdict.ofParse]
    · intro _
      simp [readReply]
  | cons read rest ih =>
    obtain ⟨late, early⟩ := ih (buf ++ read)
    have joined : buf ++ read ++ rest.flatten = buf ++ (read :: rest).flatten := by simp
    by_cases open' : findBytes BLANK buf = none
    · by_cases long : MAX_HEAD < buf.length
      -- Here already the loop gives up.
      · have now : Late buf (read :: rest) := ⟨[], read :: rest, rfl, by simpa using open', by simpa using long⟩
        have refused : readReply buf (read :: rest) = .error .headTooLong := by
          simp [readReply, parse_of_open open', long, Verdict.ofParse]
        exact ⟨fun _ => refused, fun no => absurd now no⟩
      · have step : readReply buf (read :: rest) = readReply (buf ++ read) rest := by
          simp [readReply, parse_of_open open', long]
        have same : Late buf (read :: rest) ↔ Late (buf ++ read) rest := by
          constructor
          · rintro ⟨before, behind, split', none', past⟩
            cases before with
            | nil =>
              rw [List.flatten_nil, List.append_nil] at past
              exact absurd past long
            | cons first more =>
              obtain ⟨rfl, rest'⟩ := List.cons.inj split'
              exact ⟨more, behind, rest', by simpa using none', by simpa using past⟩
          · rintro ⟨before, behind, split', none', past⟩
            exact ⟨read :: before, behind, by simp [split'], by simpa using none', by simpa using past⟩
        rw [same, step, ← joined]
        exact ⟨late, early⟩
    · have notLate : ∀ more, ¬ Late (buf ++ more) rest := by
        rintro more ⟨before, behind, -, none', -⟩
        rw [List.append_assoc] at none'
        exact open' (findBytes_eq_none_of_append none')
      have notNow : ¬ Late buf (read :: rest) := by
        rintro ⟨before, behind, -, none', -⟩
        exact open' (findBytes_eq_none_of_append none')
      refine ⟨fun now => absurd now notNow, fun _ => ?_⟩
      by_cases decided : parse buf = .ok none
      · rw [← joined, ← early (notLate read)]
        simp [readReply, decided]
      · have kept := parse_append open' decided (read :: rest).flatten
        rw [kept]
        unfold readReply
        split
        · rename_i undecided
          exact absurd undecided decided
        · rfl

section Cuts

variable {stream : Bytes} {n : Nat}

/-- A cut's verdict, from its reads' view. -/
theorem Cut.verdict_eq (cut : Cut stream) :
    (Late [] cut.reads → cut.verdict = .error .headTooLong)
      ∧ (¬ Late [] cut.reads → cut.verdict = .ofParse (parse stream)) := by
  have both := readReply_eq [] cut.reads
  rwa [List.nil_append, cut.whole] at both

/-- What is read before a late look ends before the header section does. -/
theorem lt_headLength (ends : headLength stream = some n) {before behind : Bytes}
    (split' : stream = before ++ behind) (open' : findBytes BLANK before = none) : before.length < n := by
  obtain ⟨headEnd, found, rfl⟩ := Option.map_eq_some_iff.mp ends
  rw [split'] at found
  exact lt_of_findBytes_append open' found

/-- A prefix shorter than the header section has no end of it. -/
theorem findBytes_eq_none_of_lt (ends : headLength stream = some n) {before behind : Bytes}
    (split' : stream = before ++ behind) (short : before.length < n) : findBytes BLANK before = none := by
  obtain ⟨headEnd, found, rfl⟩ := Option.map_eq_some_iff.mp ends
  cases sooner : findBytes BLANK before with
  | none => rfl
  | some j =>
    have same := findBytes_append sooner behind
    rw [← split', found] at same
    have fits : j + 4 ≤ before.length := findBytes_le sooner
    cases same
    omega

/-- Whole buffers, one after the other, and what is left. -/
def evenly : Nat → Bytes → List Bytes
  | 0, _ => []
  | fuel + 1, stream => if stream = [] then [] else stream.take READ_SIZE :: evenly fuel (stream.drop READ_SIZE)

/-- Whole buffers cut the stream. -/
theorem evenly_cuts (stream : Bytes) {fuel : Nat} (enough : stream.length ≤ fuel) :
    (evenly fuel stream).flatten = stream ∧ (∀ read ∈ evenly fuel stream, read ≠ [])
      ∧ ∀ read ∈ evenly fuel stream, read.length ≤ READ_SIZE := by
  induction fuel generalizing stream with
  | zero =>
    have empty : stream = [] := List.eq_nil_of_length_eq_zero (by omega)
    simp [evenly, empty]
  | succ fuel ih =>
    unfold evenly
    split
    · rename_i empty
      simp [empty]
    · rename_i filled
      have positive : 0 < stream.length := List.length_pos_iff.mpr filled
      have size : 0 < READ_SIZE := by decide
      obtain ⟨whole, nonempty, short⟩ := ih (stream.drop READ_SIZE) (by
        rw [List.length_drop]
        omega)
      refine ⟨?_, ?_, ?_⟩
      · rw [List.flatten_cons, whole, List.take_append_drop]
      · intro read among
        rcases List.mem_cons.mp among with rfl | among
        · intro none'
          have zero := congrArg List.length none'
          simp only [List.length_take, List.length_nil] at zero
          omega
        · exact nonempty read among
      · intro read among
        rcases List.mem_cons.mp among with rfl | among
        · exact (List.length_take_le _ _)
        · exact short read among

/-- Before the last of them, all buffers are whole. -/
theorem evenly_before {fuel : Nat} {before behind : List Bytes}
    (split' : evenly fuel stream = before ++ behind) (more : behind ≠ []) :
    before.flatten.length = before.length * READ_SIZE := by
  induction before generalizing fuel stream with
  | nil => simp
  | cons first rest ih =>
    cases fuel with
    | zero => simp [evenly] at split'
    | succ fuel =>
      unfold evenly at split'
      split at split'
      · simp at split'
      · rw [List.cons_append] at split'
        obtain ⟨rfl, rest'⟩ := List.cons.inj split'
        have left : stream.drop READ_SIZE ≠ [] := by
          intro empty
          have none' : evenly fuel (stream.drop READ_SIZE) = [] := by
            rw [empty]
            cases fuel with
            | zero => rfl
            | succ _ => simp [evenly]
          rw [none'] at rest'
          exact more (List.append_eq_nil_iff.mp rest'.symm).2
        have long : READ_SIZE ≤ stream.length := by
          have positive := List.length_pos_iff.mpr left
          rw [List.length_drop] at positive
          omega
        rw [List.flatten_cons, List.length_append, ih rest', List.length_take, List.length_cons,
          Nat.min_eq_left long, Nat.add_mul]
        omega

/-- The cut into whole buffers. -/
def evenCut (stream : Bytes) : Cut stream :=
  have cuts := evenly_cuts stream le_rfl
  ⟨evenly stream.length stream, cuts.1, cuts.2.1, cuts.2.2⟩

/-- Whole buffers see a header section's end in time if any cut does. -/
theorem evenCut_not_late (ends : headLength stream = some n) (near : n ≤ MAX_HEAD + READ_SIZE) :
    ¬ Late [] (evenCut stream).reads := by
  rintro ⟨before, behind, split', open', long⟩
  have whole := (evenCut stream).whole
  rw [split', List.flatten_append] at whole
  rw [List.nil_append] at open' long
  have early := lt_headLength ends whole.symm open'
  cases behind with
  | nil =>
    rw [List.flatten_nil, List.append_nil] at whole
    obtain ⟨headEnd, found, -⟩ := Option.map_eq_some_iff.mp ends
    rw [whole, found] at open'
    cases open'
  | cons read rest =>
    have even := evenly_before split' (by simp)
    rw [even] at early long
    -- Between one whole buffer and two there is no look.
    have bounds : MAX_HEAD = 16384 ∧ READ_SIZE = 16384 := by decide
    rw [bounds.1, bounds.2] at long near
    rw [bounds.2] at early
    omega

/-- The cut that looks one byte behind the limit. -/
theorem exists_late (ends : headLength stream = some n) (far : MAX_HEAD + 1 < n) :
    ∃ cut : Cut stream, Late [] cut.reads := by
  obtain ⟨headEnd, found, total⟩ := Option.map_eq_some_iff.mp ends
  have fits : headEnd + 4 ≤ stream.length := findBytes_le found
  have bounds : MAX_HEAD = 16384 ∧ READ_SIZE = 16384 := by decide
  have long : READ_SIZE + 1 < stream.length := by omega
  obtain ⟨whole, nonempty, short⟩ := evenly_cuts (stream.drop (READ_SIZE + 1)) le_rfl
  have first : (stream.take READ_SIZE ++ (stream.drop READ_SIZE).take 1) = stream.take (READ_SIZE + 1) :=
    (List.take_add).symm
  have sizes : (stream.take READ_SIZE).length = READ_SIZE ∧ ((stream.drop READ_SIZE).take 1).length = 1 := by
    rw [List.length_take, List.length_take, List.length_drop]
    omega
  refine ⟨⟨stream.take READ_SIZE :: (stream.drop READ_SIZE).take 1
      :: evenly (stream.drop (READ_SIZE + 1)).length (stream.drop (READ_SIZE + 1)), ?_, ?_, ?_⟩,
    [stream.take READ_SIZE, (stream.drop READ_SIZE).take 1], _, rfl, ?_, ?_⟩
  · rw [List.flatten_cons, List.flatten_cons, whole, ← List.append_assoc, first, List.take_append_drop]
  · intro read among
    simp only [List.mem_cons] at among
    rcases among with rfl | rfl | among
    · exact List.ne_nil_of_length_pos (by omega)
    · exact List.ne_nil_of_length_pos (by omega)
    · exact nonempty read among
  · intro read among
    simp only [List.mem_cons] at among
    rcases among with rfl | rfl | among
    · omega
    · omega
    · exact short read among
  · simp only [List.flatten_cons, List.flatten_nil, List.append_nil, List.nil_append, first]
    refine findBytes_eq_none_of_lt ends (List.take_append_drop (READ_SIZE + 1) stream).symm ?_
    rw [List.length_take]
    omega
  · simp only [List.flatten_cons, List.flatten_nil, List.append_nil, List.nil_append, List.length_append]
    omega

/-- Reads that pass a limit pass it by one read at most. -/
theorem exists_crossing {limit : Nat} (got : Nat) (reads : List Bytes) (short : ∀ read ∈ reads, read.length ≤ READ_SIZE)
    (below : got ≤ limit) (past : limit < got + reads.flatten.length) :
    ∃ before behind, reads = before ++ behind ∧ limit < got + before.flatten.length
      ∧ got + before.flatten.length ≤ limit + READ_SIZE := by
  induction reads generalizing got with
  | nil =>
    simp only [List.flatten_nil, List.length_nil] at past
    omega
  | cons read rest ih =>
    have size := short read (.head _)
    by_cases here : limit < got + read.length
    · exact ⟨[read], rest, rfl, by simpa using here, by simp; omega⟩
    · rw [List.flatten_cons, List.length_append] at past
      obtain ⟨before, behind, rfl, low, high⟩ :=
        ih (got + read.length) (fun r among => short r (.tail _ among)) (by omega) (by omega)
      refine ⟨read :: before, behind, rfl, ?_, ?_⟩
      all_goals
        rw [List.flatten_cons, List.length_append]
        omega

/-- Every cut looks too early at a header section that is longer than the limit by more than one read. -/
theorem late_of_far (ends : headLength stream = some n) (far : MAX_HEAD + READ_SIZE < n) (cut : Cut stream) :
    Late [] cut.reads := by
  obtain ⟨headEnd, found, total⟩ := Option.map_eq_some_iff.mp ends
  have fits : headEnd + 4 ≤ stream.length := findBytes_le found
  have size : 0 < READ_SIZE := by decide
  obtain ⟨before, behind, split', low, high⟩ := exists_crossing 0 cut.reads cut.short
    (Nat.zero_le MAX_HEAD) (by rw [cut.whole]; omega)
  have whole := cut.whole
  rw [split', List.flatten_append] at whole
  refine ⟨before, behind, split', ?_, by simpa using low⟩
  rw [List.nil_append]
  exact findBytes_eq_none_of_lt ends whole.symm (by omega)

/-- No cut looks too early at a header section within its limit. -/
theorem not_late_of_near (ends : headLength stream = some n) (near : n ≤ MAX_HEAD + 1) (cut : Cut stream) :
    ¬ Late [] cut.reads := by
  rintro ⟨before, behind, split', open', long⟩
  have whole := cut.whole
  rw [split', List.flatten_append] at whole
  rw [List.nil_append] at open' long
  have early := lt_headLength ends whole.symm open'
  omega

/-- Without a header section's end, all cuts say what the whole says. -/
theorem verdict_of_open (open' : headLength stream = none) (cut : Cut stream) :
    cut.verdict = .ofParse (parse stream) := by
  have none' : findBytes BLANK stream = none := Option.map_eq_none_iff.mp open'
  by_cases late : Late [] cut.reads
  · rw [cut.verdict_eq.1 late]
    obtain ⟨before, behind, split', -, long⟩ := late
    have whole := cut.whole
    rw [split', List.flatten_append] at whole
    have past : MAX_HEAD < stream.length := by
      rw [← whole, List.length_append]
      rw [List.nil_append] at long
      omega
    simp [parse_of_open none', past, Verdict.ofParse]
  · exact cut.verdict_eq.2 late

end Cuts

section Sizes

/-- A header section is never refused for an overflow. -/
theorem parseHead_ne_overflow (head : Bytes) : parseHead head ≠ .error .overflow := by
  have line (text : String) : parseStatusLine text ≠ .error .overflow := by
    unfold parseStatusLine
    repeat' split
    all_goals simp
  have header (f : Framing) (text : String) : takeHeader f text ≠ .error .overflow := by
    unfold takeHeader
    repeat' split
    all_goals simp
  have headers (lines : List String) : ∀ f, lines.foldlM takeHeader f ≠ .error .overflow := by
    induction lines with
    | nil => simp [pure, Except.pure]
    | cons text rest ih =>
      intro f
      rw [List.foldlM_cons]
      cases took : takeHeader f text with
      | error e =>
        intro same
        apply header f text
        rw [took]
        exact same
      | ok next => exact ih next
  unfold parseHead
  split
  · simp
  · simp only []
    split
    · rename_i failed
      intro same
      cases same
      exact line _ failed
    · split
      · rename_i failed
        intro same
        cases same
        exact headers _ _ failed
      · simp

/-- The loop over chunks overflows exactly where a declared size does. -/
theorem loop_overflow_iff {fuel : Nat} (body : Bytes) (i : Nat) {rest : Bytes} (enough : rest.length < fuel) :
    parseChunked.loop fuel body i rest = .error .overflow ↔ Overflows body.length rest := by
  induction fuel generalizing body i rest with
  | zero => omega
  | succ fuel ih =>
    cases line : findBytes CRLF rest with
    | none =>
      refine ⟨fun same => ?_, fun over' => ?_⟩
      · simp [parseChunked.loop, line] at same
      · cases over' with
        | here found => simp [line] at found
        | later found => simp [line] at found
    | some lineEnd =>
      have fits : lineEnd + 2 ≤ rest.length := findBytes_le line
      cases declared : sizeOfLine (rest.take lineEnd) with
      | none =>
        refine ⟨fun same => ?_, fun over' => ?_⟩
        · simp [parseChunked.loop, line, declared] at same
        · cases over' with
          | here found said => simp_all
          | later found said => simp_all
      | some size =>
        have unfolded : parseChunked.loop (fuel + 1) body i rest
            = if size = 0 then
                .ok ((skipTrailers ((rest.drop (lineEnd + 2)).length + 1) (rest.drop (lineEnd + 2))).map
                  fun n => (body, i + (lineEnd + 2) + n))
              else if WORD ≤ body.length + size then .error .overflow
              else if body.length + size > MAX_BODY then .error .bodyTooLong
              else if (rest.drop (lineEnd + 2)).length < size + 2 then .ok none
              else if ((rest.drop (lineEnd + 2)).drop size).take 2 ≠ CRLF then .error .chunkEnd
              else parseChunked.loop fuel (body ++ (rest.drop (lineEnd + 2)).take size)
                (i + (lineEnd + 2) + size + 2) ((rest.drop (lineEnd + 2)).drop (size + 2)) := by
          simp only [parseChunked.loop, line, declared]
        rw [unfolded]
        have inv : Overflows body.length rest ↔ 0 < size ∧ (WORD ≤ body.length + size
            ∨ (body.length + size ≤ MAX_BODY ∧ lineEnd + 2 + size + 2 ≤ rest.length
              ∧ (rest.drop (lineEnd + 2 + size)).take 2 = CRLF
              ∧ Overflows (body.length + size) (rest.drop (lineEnd + 2 + size + 2)))) := by
          constructor
          · rintro (⟨found, said, positive, past⟩ | ⟨found, said, positive, within, complete, ended, next⟩)
            · cases line.symm.trans found
              cases declared.symm.trans said
              exact ⟨positive, .inl past⟩
            · cases line.symm.trans found
              cases declared.symm.trans said
              exact ⟨positive, .inr ⟨within, complete, ended, next⟩⟩
          · rintro ⟨positive, past | ⟨within, complete, ended, next⟩⟩
            · exact .here line declared positive past
            · exact .later line declared positive within complete ended next
        rw [inv]
        by_cases last : size = 0
        · simp [last]
        · by_cases past : WORD ≤ body.length + size
          · have positive : 0 < size := by omega
            simp [last, past, positive]
          · by_cases large : body.length + size > MAX_BODY
            · have within : ¬ body.length + size ≤ MAX_BODY := by omega
              simp [last, past, large, within]
            · by_cases part : (rest.drop (lineEnd + 2)).length < size + 2
              · have short : ¬ lineEnd + 2 + size + 2 ≤ rest.length := by
                  rw [List.length_drop] at part
                  omega
                simp only [last, past, large, part, short, if_true, if_false, false_and, and_false, or_false,
                  reduceCtorEq]
              · have whole : lineEnd + 2 + size + 2 ≤ rest.length := by
                  rw [List.length_drop] at part
                  omega
                have grown : (body ++ (rest.drop (lineEnd + 2)).take size).length = body.length + size := by
                  rw [List.length_append, List.length_take, List.length_drop]
                  omega
                have shorter : (rest.drop (lineEnd + 2 + size + 2)).length < fuel := by
                  rw [List.length_drop]
                  omega
                have next := ih (body ++ (rest.drop (lineEnd + 2)).take size) (i + (lineEnd + 2) + size + 2) shorter
                rw [grown] at next
                have within : body.length + size ≤ MAX_BODY := by omega
                have positive : 0 < size := by omega
                simp only [last, past, large, part, whole, within, positive, if_false, List.drop_drop,
                  ← Nat.add_assoc, true_and, false_or]
                by_cases ended : (rest.drop (lineEnd + 2 + size)).take 2 = CRLF
                · simp only [ended, ne_eq, not_true_eq_false, if_false, true_and]
                  exact next
                · simp [ended]

/-- A stream overflows exactly where a declared size behind its header section does. -/
theorem parse_overflow_iff (stream : Bytes) :
    parse stream = .error .overflow ↔ ∃ chunks, chunksOf stream = some chunks ∧ Overflows 0 chunks := by
  unfold parse chunksOf
  cases found : findBytes BLANK stream with
  | none =>
    by_cases long : stream.length > MAX_HEAD
    · simp [long]
    · simp [long]
  | some headEnd =>
    cases parsed : parseHead (stream.take headEnd) with
    | error e =>
      have other : e ≠ .overflow := by
        rintro rfl
        exact parseHead_ne_overflow _ parsed
      simp [parsed, other]
    | ok head =>
      obtain ⟨status, f⟩ := head
      simp only [parsed, Option.bind_some]
      by_cases chunked : f.chunked = true
      · simp only [parseBody, chunked, if_true, Option.some.injEq, exists_eq_left']
        have chunks := loop_overflow_iff [] 0 (Nat.lt_succ_self (stream.drop (headEnd + 4)).length)
        rw [List.length_nil] at chunks
        rw [← chunks]
        unfold parseChunked
        cases parseChunked.loop ((stream.drop (headEnd + 4)).length + 1) [] 0 (stream.drop (headEnd + 4)) with
        | error e => simp
        | ok found => simp
      · simp only [parseBody, chunked, Bool.false_eq_true, if_false]
        by_cases part : (stream.drop (headEnd + 4)).length < f.contentLength.getD 0
        · simp only [part, if_true]
          simp
        · simp only [part, if_false]
          simp

/-- Chunks that are still undecided hold little besides their framing. -/
theorem undecided_chunks {fuel : Nat} {body rest : Bytes} {i : Nat} (enough : rest.length < fuel)
    (within : body.length ≤ MAX_BODY) (undecided : parseChunked.loop fuel body i rest = .ok none) :
    rest.length ≤ framingFrom fuel rest + 3 * (MAX_BODY - body.length) := by
  induction fuel generalizing body i rest with
  | zero => omega
  | succ fuel ih =>
    unfold parseChunked.loop at undecided
    unfold framingFrom
    cases line : findBytes CRLF rest with
    | none =>
      simp only
      omega
    | some lineEnd =>
      have fits : lineEnd + 2 ≤ rest.length := findBytes_le line
      simp only [line] at undecided ⊢
      cases declared : sizeOfLine (rest.take lineEnd) with
      | none => simp [declared] at undecided
      | some size =>
        simp only [declared] at undecided ⊢
        by_cases last : size = 0
        · rw [if_pos last]
          omega
        · simp only [last, if_false] at undecided ⊢
          split at undecided
          · cases undecided
          · split at undecided
            · cases undecided
            · rename_i small
              rw [List.length_drop] at undecided
              by_cases part : rest.length < lineEnd + 2 + size + 2
              · rw [if_pos part]
                omega
              · rw [if_neg part]
                have whole : ¬ rest.length - (lineEnd + 2) < size + 2 := by omega
                simp only [whole, if_false] at undecided
                split at undecided
                · cases undecided
                · rw [List.drop_drop] at undecided
                  have grown : (body ++ (rest.drop (lineEnd + 2)).take size).length = body.length + size := by
                    rw [List.length_append, List.length_take, List.length_drop]
                    omega
                  have shorter : (rest.drop (lineEnd + 2 + (size + 2))).length < fuel := by
                    rw [List.length_drop]
                    omega
                  have next := ih shorter (by omega) undecided
                  rw [List.length_drop, grown] at next
                  rw [Nat.add_assoc (lineEnd + 2) size 2]
                  omega

/-- A declared length is within the limit of a body. -/
theorem parseHead_within {head : Bytes} {status : Nat} {f : Framing} (parsed : parseHead head = .ok (status, f)) :
    f.contentLength.getD 0 ≤ MAX_BODY := by
  have header (f f' : Framing) (text : String) (took : takeHeader f text = .ok f')
      (small : f.contentLength.getD 0 ≤ MAX_BODY) : f'.contentLength.getD 0 ≤ MAX_BODY := by
    unfold takeHeader at took
    split at took
    · cases took
    · split at took
      · split at took
        · cases took
        · split at took
          · cases took
          · rename_i fits
            cases took
            simpa using fits
      · split at took
        · cases took
          exact small
        · cases took
          exact small
  have headers (lines : List String) : ∀ f f' : Framing, lines.foldlM takeHeader f = .ok f' →
      f.contentLength.getD 0 ≤ MAX_BODY → f'.contentLength.getD 0 ≤ MAX_BODY := by
    induction lines with
    | nil =>
      intro f f' took small
      cases took
      exact small
    | cons text rest ih =>
      intro f f' took small
      rw [List.foldlM_cons] at took
      cases first : takeHeader f text with
      | error e =>
        rw [first] at took
        cases took
      | ok next =>
        rw [first] at took
        exact ih next f' took (header f next text first small)
  unfold parseHead at parsed
  split at parsed
  · cases parsed
  · simp only [] at parsed
    split at parsed
    · cases parsed
    · split at parsed
      · cases parsed
      · rename_i took
        cases parsed
        exact headers _ _ _ took (by simp)

/-- An undecided reply holds, besides chunk-size lines and trailers, no more than its limits allow. -/
theorem undecided_length {sofar : Bytes} {n : Nat} (ends : headLength sofar = some n)
    (undecided : parse sofar = .ok none) : sofar.length ≤ n + 3 * MAX_BODY + framing sofar := by
  obtain ⟨headEnd, found, rfl⟩ := Option.map_eq_some_iff.mp ends
  unfold parse at undecided
  unfold framing chunksOf
  simp only [found, Option.bind_some] at undecided ⊢
  cases parsed : parseHead (sofar.take headEnd) with
  | error e => simp [parsed] at undecided
  | ok head =>
    obtain ⟨status, f⟩ := head
    simp only [parsed] at undecided ⊢
    have open' : parseBody f (sofar.drop (headEnd + 4)) = .ok none := by
      cases body : parseBody f (sofar.drop (headEnd + 4)) with
      | error e => simp [body] at undecided
      | ok out =>
        cases out with
        | none => rfl
        | some out => simp [body] at undecided
    unfold parseBody at open'
    by_cases chunked : f.chunked = true
    · simp only [chunked, if_true] at open' ⊢
      have bound := undecided_chunks (Nat.lt_succ_self _) (by simp) open'
      rw [List.length_nil] at bound
      have size : (sofar.drop (headEnd + 4)).length = sofar.length - (headEnd + 4) := List.length_drop
      simp only [Nat.succ_eq_add_one] at bound
      omega
    · simp only [chunked, Bool.false_eq_true, if_false] at open' ⊢
      have small := parseHead_within parsed
      split at open'
      · rename_i part
        rw [List.length_drop] at part
        omega
      · cases open'

/-- Framing is part of the stream. -/
theorem framing_le (stream : Bytes) : framing stream ≤ stream.length := by
  have chunks (fuel : Nat) : ∀ rest : Bytes, framingFrom fuel rest ≤ rest.length := by
    induction fuel with
    | zero => simp [framingFrom]
    | succ fuel ih =>
      intro rest
      unfold framingFrom
      split
      · exact le_rfl
      · rename_i lineEnd line
        have fits : lineEnd + 2 ≤ rest.length := findBytes_le line
        split
        · exact fits
        · rename_i size _
          split
          · exact le_rfl
          · split
            · exact fits
            · have next := ih (rest.drop (lineEnd + 2 + size + 2))
              rw [List.length_drop] at next
              omega
  unfold framing chunksOf
  cases findBytes BLANK stream with
  | none => simp
  | some headEnd =>
    simp only [Option.bind_some]
    split
    · exact Nat.zero_le _
    · rename_i chunks' found
      have bound := chunks (chunks'.length + 1) chunks'
      split at found
      · split at found
        · cases found
          rw [List.length_drop] at bound ⊢
          omega
        · cases found
      · cases found

end Sizes

/-- A stream is read alike for all its cuts exactly if nothing in it overflows and its head does not straddle. -/
theorem steady_iff (stream : Bytes) : Steady stream ↔ ¬ Overflowing stream ∧ ¬ Straddles stream := by
  cases ends : headLength stream with
  | none =>
    have alike : Steady stream := by
      refine ⟨fun cut over' => ?_, fun cut cut' => ?_⟩
      · rw [verdict_of_open ends cut] at over'
        have none' : findBytes BLANK stream = none := Option.map_eq_none_iff.mp ends
        rw [parse_of_open none'] at over'
        split at over' <;> cases over'
      · rw [verdict_of_open ends cut, verdict_of_open ends cut']
    refine ⟨fun _ => ⟨?_, ?_⟩, fun _ => alike⟩
    · rintro ⟨chunks, -, -, n, some', -⟩
      rw [ends] at some'
      cases some'
    · rintro ⟨⟨n, some', -⟩, -⟩
      rw [ends] at some'
      cases some'
  | some n =>
    by_cases far : MAX_HEAD + READ_SIZE < n
    -- Every cut is refused for its header section.
    · have refused (cut : Cut stream) : cut.verdict = .error .headTooLong :=
        cut.verdict_eq.1 (late_of_far ends far cut)
      refine ⟨fun _ => ⟨?_, ?_⟩, fun _ => ⟨fun cut => ?_, fun cut cut' => ?_⟩⟩
      · rintro ⟨chunks, -, -, m, some', near⟩
        rw [ends] at some'
        cases some'
        omega
      · rintro ⟨⟨m, some', -, near⟩, -⟩
        rw [ends] at some'
        cases some'
        omega
      · simp [refused]
      · rw [refused, refused]
    · have even := (evenCut stream).verdict_eq.2 (evenCut_not_late ends (by omega))
      constructor
      · rintro ⟨sound, alike⟩
        constructor
        · rintro ⟨chunks, among, overflows, -⟩
          apply sound (evenCut stream)
          rw [even, (parse_overflow_iff stream).mpr ⟨chunks, among, overflows⟩]
          rfl
        · rintro ⟨⟨m, some', over', -⟩, fine⟩
          rw [ends] at some'
          cases some'
          obtain ⟨cut, late⟩ := exists_late ends over'
          have same := alike cut (evenCut stream)
          rw [cut.verdict_eq.1 late, even] at same
          cases parsed : parse stream with
          | error e => exact fine e parsed
          | ok out =>
            rw [parsed] at same
            cases out with
            | none => cases same
            | some out => cases same
      · rintro ⟨small, straight⟩
        constructor
        · intro cut over'
          by_cases late : Late [] cut.reads
          · rw [cut.verdict_eq.1 late] at over'
            cases over'
          · rw [cut.verdict_eq.2 late] at over'
            have parsed : parse stream = .error .overflow := by
              cases parsed : parse stream with
              | error e =>
                rw [parsed] at over'
                cases over'
                rfl
              | ok out =>
                rw [parsed] at over'
                cases out with
                | none => cases over'
                | some out => cases over'
            obtain ⟨chunks, among, overflows⟩ := (parse_overflow_iff stream).mp parsed
            exact small ⟨chunks, among, overflows, n, ends, by omega⟩
        · have alike (cut : Cut stream) : cut.verdict.outcome = (Verdict.ofParse (parse stream)).outcome := by
            by_cases late : Late [] cut.reads
            · have past : MAX_HEAD + 1 < n := by
                by_contra near
                exact not_late_of_near ends (by omega) cut late
              -- A late head is refused, and so must the whole be, or it would straddle.
              have faulty : ∃ e, parse stream = .error e := by
                by_contra fine
                exact straight ⟨⟨n, ends, past, by omega⟩, fun e parsed => fine ⟨e, parsed⟩⟩
              obtain ⟨e, parsed⟩ := faulty
              rw [cut.verdict_eq.1 late, parsed]
              rfl
            · rw [cut.verdict_eq.2 late]
          intro cut cut'
          rw [alike cut, alike cut']

/-- A waiting loop holds an undecided reply, with a bounded header section. -/
theorem waiting_cut {sofar : Bytes} (cut : Cut sofar) (waits : cut.verdict = .waiting) :
    Undecided sofar ∧ (headLength sofar = none → sofar.length ≤ MAX_HEAD) := by
  have early : ¬ Late [] cut.reads := by
    intro late
    rw [cut.verdict_eq.1 late] at waits
    cases waits
  have undecided : parse sofar = .ok none := by
    rw [cut.verdict_eq.2 early] at waits
    cases parsed : parse sofar with
    | error e =>
      rw [parsed] at waits
      cases waits
    | ok out =>
      cases out with
      | none => rfl
      | some out =>
        rw [parsed] at waits
        cases waits
  refine ⟨⟨undecided, fun n ends => ?_⟩, fun open' => ?_⟩
  · by_contra far
    exact early (late_of_far ends (by omega) cut)
  · rw [parse_of_open (Option.map_eq_none_iff.mp open')] at undecided
    split at undecided
    · cases undecided
    · omega

/-- A reply whose second chunk declares the largest word as its size. -/
def hugeChunk : Bytes :=
  utf8 "HTTP/1.1 200 OK\r\nTransfer-Encoding: chunked\r\n\r\n1\r\na\r\nffffffffffffffff\r\n"

end Moat
end Nightdrop
