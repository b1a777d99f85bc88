import Nightdrop.Update.Head

/-! Where the two parsers of a response head agree, whatever the chunks. -/

namespace Nightdrop
namespace ResponseHead

/-- Behind the head, every chunk is body. -/
theorem pushAll_of_done {r : ResponseHead} (done : r.done = true) (chunks : List Bytes) :
    r.pushAll chunks = .ok (r, chunks.flatten) := by
  induction chunks with
  | nil => rfl
  | cons chunk rest ih => simp [pushAll, push, done, ih]

/-- The body a state ends with, if it is that of a 200 response. -/
def accepted : Except HeadError (ResponseHead × Bytes) → Option Bytes
  | .error _ => none
  | .ok (r, body) => if r.done ∧ r.status = 200 then some body else none

/-- The tail of the chunk that completes the head is the begin of the body. -/
theorem tail_eq {got chunk : Bytes} {stop : Nat} (open' : findBytes HEAD_END got = none)
    (found : findBytes HEAD_END (got ++ chunk) = some stop) :
    chunk.drop (chunk.length - min ((got ++ chunk).length - (stop + 4)) chunk.length)
      = (got ++ chunk).drop (stop + 4) := by
  have late : got.length < stop + 4 := lt_of_findBytes_append open' found
  have whole : stop + 4 ≤ (got ++ chunk).length := findBytes_le found
  rw [List.length_append] at whole ⊢
  have cut : chunk.length - min (got.length + chunk.length - (stop + 4)) chunk.length
      = stop + 4 - got.length := by
    omega
  rw [cut, List.drop_append, List.drop_eq_nil_of_le late.le, List.nil_append]

/-- What the streaming parser accepts, told from all the bytes and from how long the head took. -/
theorem accepted_pushAll (r : ResponseHead) (chunks : List Bytes) (going : r.done = false)
    (open' : findBytes HEAD_END r.head = none) (short : r.head.length ≤ MAX_MANIFEST_BYTES) :
    accepted (r.pushAll chunks) =
      match findBytes HEAD_END (r.head ++ chunks.flatten) with
      | none => none
      | some stop =>
        if beforeEnd r.head chunks ≤ MAX_MANIFEST_BYTES
            ∧ parseStatus ((r.head ++ chunks.flatten).take stop) = .ok 200
        then some ((r.head ++ chunks.flatten).drop (stop + 4)) else none := by
  induction chunks generalizing r with
  | nil => simp [pushAll, accepted, going, open']
  | cons chunk rest ih =>
    have joined : r.head ++ (chunk :: rest).flatten = (r.head ++ chunk) ++ rest.flatten := by
      simp
    rw [joined]
    cases found : findBytes HEAD_END (r.head ++ chunk) with
    | none =>
      by_cases long : (r.head ++ chunk).length > MAX_MANIFEST_BYTES
      -- The parser gives up, whatever follows.
      · have refused : accepted (r.pushAll (chunk :: rest)) = none := by
          simp only [pushAll, push, going, found, long, if_true, Bool.false_eq_true, if_false, accepted]
        have late : ¬ beforeEnd r.head (chunk :: rest) ≤ MAX_MANIFEST_BYTES := by
          have grows : ∀ (got : Bytes) (more : List Bytes), got.length ≤ beforeEnd got more := by
            intro got more
            induction more generalizing got with
            | nil => exact le_rfl
            | cons c cs grow =>
              unfold beforeEnd
              split
              · exact le_rfl
              · exact le_trans (by simp) (grow (got ++ c))
          have past := grows (r.head ++ chunk) rest
          simp only [beforeEnd, found, Option.isSome_none, Bool.false_eq_true, if_false]
          omega
        rw [refused]
        cases findBytes HEAD_END (r.head ++ chunk ++ rest.flatten) with
        | none => rfl
        | some stop => simp [late]
      · have within : (r.head ++ chunk).length ≤ MAX_MANIFEST_BYTES := by omega
        have next := ih { r with head := r.head ++ chunk } going found within
        have pushed : r.push chunk = .ok ({ r with head := r.head ++ chunk }, []) := by
          simp only [push, going, found, long, Bool.false_eq_true, if_false]
        have step : r.pushAll (chunk :: rest) = ({ r with head := r.head ++ chunk } : ResponseHead).pushAll rest := by
          simp only [pushAll, pushed, List.nil_append]
          cases ({ r with head := r.head ++ chunk } : ResponseHead).pushAll rest with
          | error e => rfl
          | ok out => rfl
        have counted : beforeEnd r.head (chunk :: rest) = beforeEnd (r.head ++ chunk) rest := by
          simp [beforeEnd, found]
        rw [step, next, counted]
    | some stop =>
      have kept := findBytes_append found rest.flatten
      have whole : stop + 4 ≤ (r.head ++ chunk).length := findBytes_le found
      have counted : beforeEnd r.head (chunk :: rest) = r.head.length := by
        simp [beforeEnd, found]
      have headSame : (r.head ++ chunk ++ rest.flatten).take stop = (r.head ++ chunk).take stop :=
        List.take_append_of_le_length (by omega)
      have bodySame : (r.head ++ chunk ++ rest.flatten).drop (stop + 4)
          = (r.head ++ chunk).drop (stop + 4) ++ rest.flatten :=
        List.drop_append_of_le_length whole
      rw [kept]
      simp only [counted, short, true_and, headSame, bodySame]
      cases status : parseStatus ((r.head ++ chunk).take stop) with
      | error e => simp [pushAll, push, going, found, status, accepted]
      | ok code =>
        by_cases taken : code ≠ 200 ∧ code ≠ 206
        · simp [pushAll, push, going, found, status, taken, accepted]
        · simp only [pushAll, push, going, found, status, taken, Bool.false_eq_true, if_false]
          rw [pushAll_of_done rfl, tail_eq open' found]
          by_cases good : code = 200
          · simp [accepted, good]
          · simp [accepted, good]

end ResponseHead

/-- What the one-piece parser accepts. -/
theorem toOption_bodyOf (response : Bytes) :
    (bodyOf response).toOption =
      match findBytes HEAD_END response with
      | none => none
      | some stop =>
        if (statusLineOf response).any opensTwoHundred then some (response.drop (stop + 4)) else none := by
  unfold bodyOf statusLineOf
  cases findBytes HEAD_END response with
  | none => rfl
  | some stop =>
    simp only [Option.bind_some]
    rcases Option.eq_none_or_eq_some (fromUtf8 (response.take stop)) with unread | ⟨text, read⟩
    · simp [unread, Except.toOption]
    · simp only [read, Option.map_some, Option.any_some]
      cases opens : opensTwoHundred (firstTextLine text) with
      | true => rfl
      | false => rfl

/-- A head says 200 exactly when it is text whose status line does. -/
theorem parseStatus_eq_iff (head : Bytes) (code : Nat) :
    parseStatus head = .ok code ↔
      ∃ text, fromUtf8 head = some text ∧ statusOfLine (firstTextLine text) = some code := by
  unfold parseStatus
  cases fromUtf8 head with
  | none => simp
  | some text =>
    simp only [Option.some.injEq, exists_eq_left']
    cases statusOfLine (firstTextLine text) with
    | none => simp
    | some n => simp

/-- The parsers agree exactly on the responses that do not split them. -/
theorem heads_agree_iff (chunks : List Bytes) : HeadsAgree chunks ↔ ¬ HeadsSplit chunks := by
  have streamed := ResponseHead.accepted_pushAll .fresh chunks rfl (by decide) (by decide)
  have whole := toOption_bodyOf chunks.flatten
  simp only [ResponseHead.fresh, List.nil_append] at streamed
  have same : streamedBody chunks = ResponseHead.accepted (ResponseHead.fresh.pushAll chunks) := by
    unfold streamedBody ResponseHead.accepted
    cases ResponseHead.fresh.pushAll chunks with
    | error e => rfl
    | ok out => rfl
  unfold HeadsAgree HeadsSplit
  rw [same, whole]
  rw [show ResponseHead.fresh = ⟨[], false, none, 0⟩ from rfl, streamed]
  unfold statusLineOf
  cases found : findBytes HEAD_END chunks.flatten with
  | none => simp
  | some stop =>
    cases text : fromUtf8 (chunks.flatten.take stop) with
    | none =>
      have unread : parseStatus (chunks.flatten.take stop) ≠ .ok 200 := by
        intro read
        obtain ⟨found', some', -⟩ := (parseStatus_eq_iff _ _).mp read
        rw [text] at some'
        cases some'
      simp [text, unread]
    | some words =>
      have read : parseStatus (chunks.flatten.take stop) = .ok 200
          ↔ statusOfLine (firstTextLine words) = some 200 := by
        rw [parseStatus_eq_iff, text]
        simp
      simp only [read, text, Option.bind_some, Option.map_some, Option.any_some, Option.some.injEq,
        exists_eq_left']
      -- The four ways in which the two checks of the status line can come out.
      cases opens : opensTwoHundred (firstTextLine words) with
      | true =>
        by_cases agreed : statusOfLine (firstTextLine words) = some 200
        · by_cases early : beforeEnd [] chunks ≤ MAX_MANIFEST_BYTES
          · simp [agreed, early]
          · have late : MAX_MANIFEST_BYTES < beforeEnd [] chunks := by omega
            simp [agreed, early, late]
        · simp [agreed]
      | false =>
        by_cases agreed : statusOfLine (firstTextLine words) = some 200
        · by_cases early : beforeEnd [] chunks ≤ MAX_MANIFEST_BYTES
          · simp [agreed, early]
          · simp [agreed, early]
        · simp [agreed]

/-- A status line of another protocol is taken by the streaming parser alone. -/
theorem another_protocol_is_streamed : ¬ ∀ chunks, HeadsAgree chunks := by
  intro agree
  have same := agree [utf8 "FTP 200 OK\r\n\r\nbuild"]
  revert same
  unfold HeadsAgree
  decide +kernel

end Nightdrop
