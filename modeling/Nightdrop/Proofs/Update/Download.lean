import Nightdrop.Update.Download
import Nightdrop.Proofs.Update.Head

/-! A destination is only ever replaced by verified content; a leftover as long as the build blocks updates for good. -/

namespace Nightdrop
namespace Update

variable {sha256 : Bytes → String} {published : String} {build : Bytes}

/-- Every attempt guards the destination. -/
theorem download_guarded (d : Disk) (a : Attempt) : Guarded sha256 published d a := by
  unfold Guarded download
  cases a.reach with
  | nothing => rfl
  | answers reads ending =>
    simp only []
    cases onionGetToFile MAX_DOWNLOAD_BYTES
        ⟨.fresh, if d.resumeFrom = 0 then [] else d.part.getD [], d.resumeFrom, 0, false⟩ ending reads with
    | mk content fetched =>
      cases fetched with
      | none => rfl
      | some n =>
        simp only []
        by_cases lost : a.readBack = false
        · rw [if_pos lost]
        · rw [if_neg lost]
          by_cases good : Verified sha256 published content
          · rw [if_pos good]
            cases a.placed with
            | true => exact ⟨content, rfl, good⟩
            | false => rfl
          · rw [if_neg good]

/-- Behind the head, the rest of the stream goes to the file. -/
theorem fetch_body {maxBytes : Nat} (f : Fetching) (reads : List Bytes) (done : f.head.done = true)
    (checked : f.checked = true) (filled : ∀ read ∈ reads, read ≠ [])
    (fits : f.resumed + f.written + reads.flatten.length ≤ maxBytes) :
    onionGetToFile maxBytes f .closed reads
      = (f.content ++ reads.flatten, some (f.resumed + f.written + reads.flatten.length)) := by
  induction reads generalizing f with
  | nil => simp [onionGetToFile, Fetching.finish, done]
  | cons read rest ih =>
    have some' : read ≠ [] := filled read (.head _)
    rw [List.flatten_cons, List.length_append] at fits
    have pushed : f.head.push read = .ok (f.head, read) := by
      simp [ResponseHead.push, done]
    have stays : f.restarts f.head = false := by
      simp [Fetching.restarts, checked]
    have small : ¬ f.resumed + (f.written + read.length) > maxBytes := by omega
    have next := ih ⟨f.head, f.content ++ read, f.resumed, f.written + read.length, f.checked || f.head.done⟩ done
      (by simp [checked]) (fun r among => filled r (.tail _ among)) (by simp only []; omega)
    simp only [onionGetToFile, some', if_false, pushed, stays, Bool.false_eq_true, small]
    rw [next]
    simp [Nat.add_assoc]

/-- While the head goes on within its limit, a read changes nothing but the head. -/
theorem fetch_going {maxBytes : Nat} {f : Fetching} {read : Bytes} (some' : read ≠ []) (going : f.head.done = false)
    (here : findBytes HEAD_END (f.head.head ++ read) = none)
    (within : ¬ (f.head.head ++ read).length > MAX_MANIFEST_BYTES) (rest : List Bytes) (ending : Ending) :
    onionGetToFile maxBytes f ending (read :: rest)
      = if f.resumed + f.written > maxBytes then (f.content, none)
        else onionGetToFile maxBytes { f with head := { f.head with head := f.head.head ++ read } } ending rest := by
  have pushed : f.head.push read = .ok ({ f.head with head := f.head.head ++ read }, []) := by
    simp only [ResponseHead.push, going, here, within, Bool.false_eq_true, if_false]
  have stays : f.restarts { f.head with head := f.head.head ++ read } = false := by
    simp [Fetching.restarts, going]
  have unchecked : (f.checked || f.head.done) = f.checked := by simp [going]
  simp only [onionGetToFile, some', if_false, pushed, stays, unchecked, Bool.false_eq_true, List.length_nil,
    Nat.add_zero, List.append_nil]

/-- Once the end of the head is in, the bytes before it are the head. -/
theorem head_read {before read head behind : Bytes} {later : Bytes}
    (whole : before ++ read ++ later = head ++ (HEAD_END ++ behind))
    (inside : head.length + 4 ≤ (before ++ read).length) : (before ++ read).take head.length = head := by
  have all := congrArg (List.take head.length) whole
  rwa [List.take_append_of_le_length (by omega), List.take_left] at all

/-- A response with a good status is fetched whole, over what was there or, for a 200, instead of it. -/
theorem fetch_good (maxBytes : Nat) {status : Nat} {head body : Bytes} (f : Fetching) (reads : List Bytes)
    (going : f.head.done = false) (fresh : f.checked = false) (none' : f.written = 0)
    (open' : findBytes HEAD_END f.head.head = none) (filled : ∀ read ∈ reads, read ≠ [])
    (whole : f.head.head ++ reads.flatten = head ++ (HEAD_END ++ body))
    (found : findBytes HEAD_END (f.head.head ++ reads.flatten) = some head.length)
    (short : head.length + 4 ≤ MAX_MANIFEST_BYTES) (parsed : parseStatus head = .ok status)
    (good : status = 200 ∨ status = 206) (room : f.resumed ≤ maxBytes)
    (fits : (if f.resumed > 0 ∧ status = 200 then 0 else f.resumed) + body.length ≤ maxBytes) :
    onionGetToFile maxBytes f .closed reads
      = ((if f.resumed > 0 ∧ status = 200 then [] else f.content) ++ body,
        some ((if f.resumed > 0 ∧ status = 200 then 0 else f.resumed) + body.length)) := by
  induction reads generalizing f with
  | nil =>
    rw [List.flatten_nil, List.append_nil, open'] at found
    cases found
  | cons read rest ih =>
    have some' : read ≠ [] := filled read (.head _)
    have later : ∀ r ∈ rest, r ≠ [] := fun r among => filled r (.tail _ among)
    rw [List.flatten_cons, ← List.append_assoc] at whole found
    cases here : findBytes HEAD_END (f.head.head ++ read) with
    | none =>
      -- The head goes on: it is still shorter than its limit.
      have before : (f.head.head ++ read).length < head.length + 4 := lt_of_findBytes_append here found
      have within : ¬ (f.head.head ++ read).length > MAX_MANIFEST_BYTES := by omega
      rw [fetch_going some' going here within, if_neg (by omega)]
      exact ih { f with head := { f.head with head := f.head.head ++ read } } going fresh none' here later whole
        found room fits
    | some stop =>
      -- The end of the head is in this read: it is where it is in the whole stream.
      have same := findBytes_append here rest.flatten
      rw [found] at same
      cases same
      have inside : head.length + 4 ≤ (f.head.head ++ read).length := findBytes_le here
      have headSame := head_read whole inside
      have bodySame : (f.head.head ++ read).drop (head.length + 4) ++ rest.flatten = body := by
        have all := congrArg (List.drop (head.length + 4)) whole
        rw [List.drop_append_of_le_length inside] at all
        have marked : (head ++ HEAD_END).length = head.length + 4 := by
          rw [List.length_append]
          rfl
        have right : (head ++ (HEAD_END ++ body)).drop (head.length + 4) = body := by
          rw [← List.append_assoc, ← marked, List.drop_left]
        exact all.trans right
      have tail := ResponseHead.tail_eq open' here
      have pushed : f.head.push read = .ok (⟨f.head.head ++ read, true, parseContentLength head, status⟩,
          (f.head.head ++ read).drop (head.length + 4)) := by
        have taken : ¬ (status ≠ 200 ∧ status ≠ 206) := by omega
        simp only [ResponseHead.push, going, here, headSame, parsed, taken, Bool.false_eq_true, if_false, tail]
      have total := congrArg List.length bodySame
      rw [List.length_append] at total
      have starts : f.restarts ⟨f.head.head ++ read, true, parseContentLength head, status⟩
          = decide (f.resumed > 0 ∧ status = 200) := by
        simp [Fetching.restarts, fresh]
      simp only [onionGetToFile, some', if_false, pushed, starts, decide_eq_true_eq, none', Nat.zero_add]
      have small : ¬ (if f.resumed > 0 ∧ status = 200 then 0 else f.resumed)
          + ((f.head.head ++ read).drop (head.length + 4)).length > maxBytes := by omega
      rw [if_neg small, fetch_body _ rest rfl (by simp) later (by simp only []; omega)]
      simp only [List.append_assoc, bodySame, Nat.add_assoc, total]

/-- A refused range leaves the file as it is. -/
theorem fetch_refused (maxBytes : Nat) {status : Nat} {head body : Bytes} (f : Fetching) (reads : List Bytes)
    (going : f.head.done = false) (open' : findBytes HEAD_END f.head.head = none)
    (filled : ∀ read ∈ reads, read ≠ [])
    (whole : f.head.head ++ reads.flatten = head ++ (HEAD_END ++ body))
    (found : findBytes HEAD_END (f.head.head ++ reads.flatten) = some head.length)
    (parsed : parseStatus head = .ok status) (bad : status ≠ 200 ∧ status ≠ 206) :
    onionGetToFile maxBytes f .closed reads = (f.content, none) := by
  induction reads generalizing f with
  | nil =>
    rw [List.flatten_nil, List.append_nil, open'] at found
    cases found
  | cons read rest ih =>
    have some' : read ≠ [] := filled read (.head _)
    rw [List.flatten_cons, ← List.append_assoc] at whole found
    cases here : findBytes HEAD_END (f.head.head ++ read) with
    | none =>
      by_cases long : (f.head.head ++ read).length > MAX_MANIFEST_BYTES
      · simp only [onionGetToFile, some', if_false, ResponseHead.push, going, here, long, if_true,
          Bool.false_eq_true]
      · rw [fetch_going some' going here long]
        split
        · rfl
        · exact ih { f with head := { f.head with head := f.head.head ++ read } } going here
            (fun r among => filled r (.tail _ among)) whole found
    | some stop =>
      -- The end of the head is in this read: it is where it is in the whole stream.
      have same := findBytes_append here rest.flatten
      rw [found] at same
      cases same
      have inside : head.length + 4 ≤ (f.head.head ++ read).length := findBytes_le here
      have headSame := head_read whole inside
      simp only [onionGetToFile, some', if_false, ResponseHead.push, going, here, headSame, parsed, bad,
        Bool.false_eq_true, ne_eq, not_false_eq_true, and_self, if_true]

/-- An honest attempt on a leftover shorter than the build puts what it completes in place, if it is verified. -/
theorem honest_download (sha256 : Bytes → String) (published : String) {d : Disk} {a : Attempt} (honest : Honest build d.resumeFrom a)
    (fits : build.length ≤ MAX_DOWNLOAD_BYTES) (short : d.resumeFrom = 0 ∨ d.resumeFrom < build.length) :
    (download sha256 published d a).1 =
      if Verified sha256 published (d.part.getD [] ++ build.drop d.resumeFrom)
      then ⟨some (d.part.getD [] ++ build.drop d.resumeFrom), none⟩ else { d with part := none } := by
  obtain ⟨readBack, placed, reads, head, body, status, reach, filled, whole, found, small, parsed, answers⟩ := honest
  -- A leftover without bytes counts as none.
  have kept : (if d.resumeFrom = 0 then [] else d.part.getD []) = d.part.getD [] := by
    split
    · rename_i zero
      unfold Disk.resumeFrom at zero
      cases part : d.part with
      | none => rfl
      | some content =>
        rw [part] at zero
        exact (List.eq_nil_of_length_eq_zero (by simpa using zero)).symm
    · rfl
  have facts : (status = 200 ∨ status = 206) ∧ ¬ (d.resumeFrom > 0 ∧ status = 200)
      ∧ body = build.drop d.resumeFrom := by
    unfold Answers at answers
    rcases short with zero | part
    · rw [if_pos zero] at answers
      refine ⟨.inl answers.1, by omega, ?_⟩
      rw [answers.2, zero, List.drop_zero]
    · by_cases zero : d.resumeFrom = 0
      · rw [if_pos zero] at answers
        refine ⟨.inl answers.1, by omega, ?_⟩
        rw [answers.2, zero, List.drop_zero]
      · rw [if_neg zero, if_pos part] at answers
        exact ⟨.inr answers.1, by omega, answers.2⟩
  obtain ⟨good, stays, rest⟩ := facts
  have size : body.length = build.length - d.resumeFrom := by rw [rest, List.length_drop]
  have fetched := fetch_good MAX_DOWNLOAD_BYTES ⟨.fresh, d.part.getD [], d.resumeFrom, 0, false⟩ reads
    rfl rfl rfl (show findBytes HEAD_END [] = none by decide) filled (by simpa [ResponseHead.fresh] using whole)
    (by simpa [ResponseHead.fresh] using found) small parsed good (by simp only []; omega)
    (by rw [if_neg stays]; simp only []; omega)
  rw [if_neg stays, if_neg stays] at fetched
  unfold download
  rw [reach]
  simp only [kept, fetched, readBack, placed, rest, Bool.true_eq_false, if_false, if_true]
  split
  · rfl
  · rfl

/-- An honest attempt on a leftover at least as long as the build changes nothing. -/
theorem refused_download (sha256 : Bytes → String) (published : String) {d : Disk} {a : Attempt} (honest : Honest build d.resumeFrom a)
    (some' : d.resumeFrom ≠ 0) (long : build.length ≤ d.resumeFrom) : (download sha256 published d a).1 = d := by
  obtain ⟨-, -, reads, head, body, status, reach, filled, whole, found, -, parsed, answers⟩ := honest
  have refused : status = 416 := by
    unfold Answers at answers
    rwa [if_neg some', if_neg (by omega)] at answers
  have fetched := fetch_refused MAX_DOWNLOAD_BYTES ⟨.fresh, d.part.getD [], d.resumeFrom, 0, false⟩
    reads rfl (show findBytes HEAD_END [] = none by decide) filled (by simpa [ResponseHead.fresh] using whole)
    (by simpa [ResponseHead.fresh] using found) parsed (by omega)
  unfold download
  rw [reach]
  simp only [some', if_false, fetched]
  cases d with
  | mk dest part =>
    cases part with
    | none => exact absurd rfl some'
    | some content => rfl

/-- A server's refusal of a range, in one read. -/
def refusal : Attempt := ⟨.answers [utf8 "HTTP/1.0 416 Range Not Satisfiable\r\n\r\n"] .closed, true, true⟩

/-- The refusal is honest for every leftover at least as long as the build. -/
theorem refusal_honest {start : Nat} (some' : start ≠ 0) (long : build.length ≤ start) :
    Honest build start refusal := by
  refine ⟨rfl, rfl, _, utf8 "HTTP/1.0 416 Range Not Satisfiable", [], 416, rfl, ?_, ?_, ?_, ?_, ?_, ?_⟩
  · decide +kernel
  · decide +kernel
  · decide +kernel
  · decide +kernel
  · decide +kernel
  · unfold Answers
    rw [if_neg some', if_neg (by omega)]

/-- From a leftover at least as long as the build, no number of honest attempts need arrive. -/
theorem blocked_never_arrives {part : Option Bytes} (some' : Disk.resumeFrom ⟨none, part⟩ ≠ 0)
    (long : build.length ≤ Disk.resumeFrom ⟨none, part⟩) : ¬ Arrives sha256 published build part := by
  rintro ⟨count, arrives⟩
  -- The refusal leaves the same leftover, so it is honest again.
  have honest := refusal_honest some' long
  have stuck := refused_download sha256 published honest some' long
  have run : ∀ n, HonestRun sha256 published build ⟨none, part⟩ (List.replicate n refusal)
      ∧ downloads sha256 published ⟨none, part⟩ (List.replicate n refusal) = ⟨none, part⟩ := by
    intro n
    induction n with
    | zero => exact ⟨trivial, rfl⟩
    | succ n ih =>
      rw [List.replicate_succ]
      constructor
      · exact ⟨honest, by rw [stuck]; exact ih.1⟩
      · unfold downloads at ih ⊢
        rw [List.foldl_cons, stuck]
        exact ih.2
  obtain ⟨honestRun, same⟩ := run count
  obtain ⟨content, there, -⟩ := arrives _ List.length_replicate honestRun
  rw [same] at there
  cases there

/-- Updates are right from a leftover on exactly if it is empty or shorter than the build. -/
theorem updates_right_iff (good : Verified sha256 published build) (fits : build.length ≤ MAX_DOWNLOAD_BYTES)
    (part : Option Bytes) :
    UpdatesRight sha256 published build part
      ↔ Disk.resumeFrom ⟨none, part⟩ = 0 ∨ Disk.resumeFrom ⟨none, part⟩ < build.length := by
  constructor
  · rintro ⟨-, arrives⟩
    by_contra blocked
    exact blocked_never_arrives (by omega) (by omega) arrives
  · intro short
    refine ⟨fun d a => download_guarded d a, 2, fun attempts two honest => ?_⟩
    obtain ⟨a, b, rfl⟩ : ∃ a b, attempts = [a, b] := List.length_eq_two.mp two
    obtain ⟨first, second, -⟩ := honest
    have one := honest_download sha256 published first fits short
    -- Whatever the first attempt leaves, there is no leftover for the second.
    have clean : ((download sha256 published ⟨none, part⟩ a).1).part = none := by
      rw [one]
      split <;> rfl
    have zero : ((download sha256 published ⟨none, part⟩ a).1).resumeFrom = 0 := by
      simp [Disk.resumeFrom, clean]
    have two' := honest_download sha256 published second fits (.inl zero)
    rw [clean, zero] at two'
    simp only [Option.getD_none, List.nil_append, List.drop_zero, good, if_true] at two'
    refine ⟨build, ?_, good⟩
    unfold downloads
    simp only [List.foldl_cons, List.foldl_nil, two']

/-- The hash of a three-byte build. -/
def abcHash (bytes : Bytes) : String :=
  if bytes = utf8 "abc" then "ba7816bf8f01cfea414140de5dae2223b00361a396177a9cb410ff61f20015ad" else ""

/-- The published hash of that build, in capitals and with a line feed behind it. -/
def abcPublished : String := "BA7816BF8F01CFEA414140DE5DAE2223B00361A396177A9CB410FF61F20015AD\n"

/-- An update resumes from the build's first byte. -/
theorem abc_resumes : UpdatesRight abcHash abcPublished (utf8 "abc") (some (utf8 "a")) :=
  (updates_right_iff (by decide +kernel) (by decide +kernel) (some (utf8 "a"))).mpr (.inr (by decide +kernel))

/-- A leftover that is the whole build already blocks the update for good. -/
theorem whole_leftover_blocks : ¬ ∀ part, UpdatesRight abcHash abcPublished (utf8 "abc") part := by
  intro right
  exact blocked_never_arrives (by decide +kernel) (by decide +kernel) (right (some (utf8 "abc"))).2

end Update
end Nightdrop
