import Nightdrop.Proofs.Node.ScrubIso

/-! What an ISO video is after it was scrubbed, and that another scrub finds nothing in it. -/

namespace Nightdrop
namespace Scrub

open Movie (slice slice_of_le)

variable {data rest out : Bytes} {list list' : List Chunk} {c c' : Chunk} {level : Level} {s s' : Scrubbed}

/-- A full box whose creation and modification times are zero, where it is long enough to have any. -/
def Timeless (c : Chunk) : Prop :=
  ∀ version, c.body[0]? = some version → 4 + 2 * timeWidth version ≤ c.body.length →
    (c.body.drop 4).take (2 * timeWidth version) = List.replicate (2 * timeWidth version) 0

/-- A box of a level that says nothing of its recording. -/
def Clean : Level → Chunk → Prop
  | .last timed => fun c => isoKind c = timed → Timeless c
  | .outer timed holder inside => fun c =>
    ISO_METADATA.contains (isoKind c) = false ∧ (timed = some (isoKind c) → Timeless c)
    ∧ (isoKind c = holder → (isoHeading.cut c.body).2 = [] ∧ ∀ d ∈ (isoHeading.cut c.body).1, Clean inside d)

/-- A level whose header, holder and padding are told apart, and none of them from metadata only. -/
def Level.Apart : Level → Prop
  | .last _ => True
  | .outer timed holder inside => timed ≠ some holder ∧ (∀ kind, timed = some kind → ISO_METADATA.contains kind = false)
    ∧ ISO_METADATA.contains holder = false ∧ timed ≠ some (utf8 "free") ∧ utf8 "free" ≠ holder ∧ inside.Apart

theorem top_apart : TOP.Apart := by
  simp only [TOP, MOVIE, TRACK, MEDIA, Level.Apart, Option.some.injEq, forall_eq']
  decide

/-- The times of a box are zero once they were zeroed. -/
theorem untimed_timeless (c : Chunk) : Timeless (untimed c) := by
  intro version first long
  unfold untimed at first long ⊢
  cases found : c.body[0]? with
  | none => simp [found] at first
  | some version' =>
    simp only [found] at first long ⊢
    by_cases room : 4 + 2 * timeWidth version' ≤ c.body.length
    · rw [if_pos room] at first long ⊢
      have four : (c.body.take 4).length = 4 := by
        rw [List.length_take]
        omega
      -- The version stands before the times.
      rw [List.getElem?_append_left (by omega), List.getElem?_take_of_lt (by omega), found] at first
      cases first
      rw [List.drop_left' four, List.take_left' (by rw [List.length_replicate])]
    · rw [if_neg room] at first long
      rw [found] at first
      cases first
      exact absurd long room

theorem Timeless.still (timeless : Timeless c) : untimed c = c := by
  unfold untimed
  cases found : c.body[0]? with
  | none => rfl
  | some version =>
    dsimp only
    split
    · rename_i long
      have zero := timeless version found long
      have second := List.take_append_drop (2 * timeWidth version) (c.body.drop 4)
      rw [List.drop_drop, zero] at second
      rw [second, List.take_append_drop]
    · rfl

theorem untimed_kind (c : Chunk) : isoKind (untimed c) = isoKind c := by
  unfold untimed isoKind
  split
  · rfl
  · split <;> rfl

theorem blanked_kind (long : 8 ≤ c.header.length) : isoKind (blanked c) = utf8 "free" := by
  have free : (utf8 "free").length = 4 := by decide
  have size : (c.header.take 4).length = 4 := by
    rw [List.length_take]
    omega
  rw [isoKind, blanked, List.drop_left' size, List.take_left' free]

theorem isoHeading_unled_nil : isoHeading.read [] = none := by
  simp [isoHeading_read, Movie.boxHead]

/-- A scrubbed box says nothing of its recording. -/
theorem Scrubs.clean (scrubs : Scrubs level c c') (apart : level.Apart) (long : 8 ≤ c.header.length) :
    Clean level c' := by
  -- By induction on the level, as boxes are scrubbed.
  induction level generalizing c c' with
  | last timed =>
    simp only [Scrubs] at scrubs
    intro kind
    split at scrubs
    · subst scrubs
      exact untimed_timeless c
    · subst scrubs
      exact absurd kind (by assumption)
  | outer timed holder inside ih =>
    obtain ⟨other, timedApart, holderApart, freeTimed, freeHolder, insideApart⟩ := apart
    simp only [Scrubs] at scrubs
    simp only [Clean]
    split at scrubs
    · rename_i same
      subst scrubs
      rw [untimed_kind]
      refine ⟨timedApart _ same, fun _ => untimed_timeless c, ?_⟩
      intro held
      exact absurd (held ▸ same) other
    · rename_i untimed'
      split at scrubs
      · rename_i held
        obtain ⟨list, list', cuts, each, rfl⟩ := scrubs
        have kind : isoKind ⟨c.header, joined list'⟩ = isoKind c := rfl
        rw [kind]
        refine ⟨held ▸ holderApart, fun same => absurd same untimed', fun _ => ?_⟩
        -- The body is cut where it was.
        have headers := cuts_headers cuts
        have again := cuts.rewrite (scrubs_replace headers each) rfl (.stop isoHeading_unled_nil)
        rw [List.append_nil, List.append_nil] at again
        rw [again.cut_eq]
        refine ⟨rfl, ?_⟩
        intro d member
        obtain ⟨b, inside', one⟩ := mem_forall₂_right each member
        exact ih one insideApart (headers b inside')
      · rename_i unheld
        split at scrubs
        · subst scrubs
          rw [blanked_kind long]
          exact ⟨by decide, fun same => absurd same freeTimed, fun same => absurd same freeHolder⟩
        · rename_i described
          subst scrubs
          exact ⟨by simpa using described, fun same => absurd same untimed', fun same => absurd same unheld⟩

/-- A box that says nothing of its recording is left as it is. -/
theorem Clean.still (clean : Clean level c) (s : Scrubbed) : ∃ s', edit level c s = .ok (c, s') := by
  induction level generalizing c s with
  | last timed =>
    simp only [edit]
    split
    · rename_i same
      exact ⟨_, by rw [(clean same).still]⟩
    · exact ⟨s, rfl⟩
  | outer timed holder inside ih =>
    obtain ⟨plain, times, inner⟩ := clean
    simp only [edit]
    split
    · rename_i same
      exact ⟨_, by rw [(times same).still]⟩
    · split
      · rename_i held
        obtain ⟨filled, each⟩ := inner held
        rw [if_pos filled]
        obtain ⟨s', all⟩ := editAll_still (fun d member s => ih (each d member) s) s
        -- Boxes that are left as they are make up the body that they were cut from.
        have whole := (isoHeading.cut_cuts c.body).joined
        rw [filled, List.append_nil] at whole
        exact ⟨s', by rw [all, Except.map, whole]⟩
      · rw [plain]
        exact ⟨s, rfl⟩

/-- Whether what follows the last box begins like a box of the movie. -/
def cutShort (rest : Bytes) : Bool := ((slice rest 4 8).map fun kind => ISO_CUT.contains kind).getD false

theorem slice_behind (before rest : Bytes) (first last : Nat) :
    slice (before ++ rest) (before.length + first) (before.length + last) = slice rest first last := by
  by_cases fits : first ≤ last ∧ last ≤ rest.length
  · have between := @slice_between _ before [] _ _ fits.1 fits.2
    rwa [List.append_nil] at between
  · unfold slice
    rw [if_neg fits, if_neg]
    simp only [List.length_append]
    omega

theorem truncatedBox_behind (before rest : Bytes) : truncatedBox (before ++ rest) before.length = cutShort rest := by
  rw [truncatedBox, cutShort, slice_behind]

theorem places_any (start : Nat) (list : List Chunk) (f : Bytes → Bool) :
    ((places isoPlace start list).any fun b => f b.kind) = list.any fun c => f (isoKind c) := by
  induction list generalizing start with
  | nil => rfl
  | cons c rest ih => simp only [places, List.any_cons, ih, isoPlace]

theorem places_first (start : Nat) (list : List Chunk) (f : Bytes → Bool) :
    ((places isoPlace start list).head?.map fun b => f b.kind) = list.head?.map fun c => f (isoKind c) := by
  cases list <;> rfl

/-- The last box ends where what follows the boxes begins. -/
theorem places_last (start : Nat) (list : List Chunk) :
    (((places isoPlace start list).getLast?.map fun b => b.finish).getD start) = start + (joined list).length := by
  induction list generalizing start with
  | nil => rfl
  | cons c rest ih =>
    have later := ih (start + c.bytes.length)
    cases rest with
    | nil => simp [places, isoPlace, joined]
    | cons d more =>
      simp only [places, List.getLast?_cons_cons, joined, List.flatMap_cons, List.length_append] at later ⊢
      rw [← Nat.add_assoc, ← later]
      cases found : ((isoPlace (start + c.bytes.length) d
          :: places isoPlace (start + c.bytes.length + d.bytes.length) more).getLast?) with
      | none => simp at found
      | some b => rfl

/-- Scrubbing an ISO video is editing its boxes by themselves, and zeroing what follows the last of them. -/
theorem scrubIso_eq (data : Bytes) (s : Scrubbed) :
    scrubIso (data, s) =
      if ((isoHeading.cut data).1.head?.map fun c => ISO_FIRST.contains (isoKind c)).getD false then
        match editAll (edit TOP) (isoHeading.cut data).1 s with
        | .error e => .error e
        | .ok (list', s') =>
          if (isoHeading.cut data).1.any fun c => isoKind c = utf8 "moov" then
            if (isoHeading.cut data).2 ≠ [] ∧ ¬ cutShort (isoHeading.cut data).2 then
              .ok (Work.blank (joined list' ++ List.replicate (isoHeading.cut data).2.length 0) s')
            else .ok (joined list' ++ (isoHeading.cut data).2, s')
          else .error (.refused UNREADABLE)
      else .error (.refused NOT_CLEANABLE) := by
  have cuts := isoHeading.cut_cuts data
  generalize (isoHeading.cut data).1 = list at cuts ⊢
  generalize (isoHeading.cut data).2 = rest at cuts ⊢
  have whole := cuts.joined
  have boxes := isoBoxes_between cuts [] []
  simp only [List.nil_append, List.append_nil, List.length_nil, Nat.zero_add] at boxes
  have headers := cuts_headers cuts
  -- The walk over the boxes is an edit of each by itself.
  have fold := foldlM_places (fun d member => stepAt_there TOP (headers d member))
    (fun d member s d' s' edited => ((edit_scrubs edited).replaces (headers d member)).1) [] rest s
  rw [stepAt_top, List.nil_append, whole, List.length_nil] at fold
  -- Its tests look at the boxes' types and at where the last one ends.
  have first := places_first 0 list fun kind => ISO_FIRST.contains kind
  have seen := places_any 0 list fun kind => decide (kind = utf8 "moov")
  have last := places_last 0 list
  simp only [scrubIso, boxes, first, seen, last, fold, Nat.zero_add]
  split
  · cases all : editAll (edit TOP) list s with
    | error e => rfl
    | ok both =>
      obtain ⟨list', s'⟩ := both
      simp only [Except.map, bind, Except.bind, List.nil_append]
      -- What follows the boxes stands where it stood.
      have same := Heading.joined_length (scrubs_replace headers (editAll_forall₂ (fun d _ s d' s' one => edit_scrubs one) all))
      have cut := truncatedBox_behind (joined list') rest
      have filled := @fill_between (joined list') [] rest
      have order : (joined list).length < (joined list' ++ rest).length ↔ rest ≠ [] := by
        rw [List.length_append, same, ← List.length_pos_iff]
        omega
      rw [List.append_nil, List.append_nil, ← List.length_append, same] at filled
      rw [same] at cut
      simp only [order, cut, filled]
      split
      · split <;> rfl
      · rfl
  · rfl

/-- An ISO video and what it is once scrubbed: nothing moves, and only what describes the recording changes. -/
structure IsoScrubbed (data out : Bytes) : Prop where
  long : out.length = data.length
  /-- The boxes are scrubbed one by one; what follows them stays, or is zeroed. -/
  boxes : ∃ list rest list' rest', isoHeading.Cuts data list rest ∧ List.Forall₂ (Scrubs TOP) list list'
    ∧ out = joined list' ++ rest' ∧ (rest' = rest ∧ (rest = [] ∨ cutShort rest) ∨ rest' = List.replicate rest.length 0)
  /-- The picture and the sound are where they were. -/
  kept : ∀ before c after, (isoHeading.cut data).1 = before ++ c :: after → isoKind c ≠ utf8 "moov" →
    ISO_METADATA.contains (isoKind c) = false → (out.drop (joined before).length).take c.bytes.length = c.bytes
  movie : ∃ c ∈ (isoHeading.cut data).1, isoKind c = utf8 "moov"
  clean : ∀ c ∈ (isoHeading.cut out).1, Clean TOP c

/-- Zeros behind the boxes are at most one box, of no type. -/
theorem zeros_cut (count : Nat) :
    isoHeading.cut (List.replicate count 0) = if count < 8 then ([], List.replicate count 0)
      else ([⟨List.replicate 8 0, List.replicate (count - 8) 0⟩], []) := by
  split
  · refine Heading.Cuts.cut_eq (.stop ?_)
    have short : Movie.boxHead (List.replicate count 0) = none := by
      rw [Movie.boxHead, if_pos (by simpa using by assumption)]
    rw [isoHeading_read, short]
  · have whole : (⟨List.replicate 8 0, List.replicate (count - 8) 0⟩ : Chunk).bytes = List.replicate count 0 := by
      rw [Chunk.bytes, List.replicate_append_replicate]
      congr 1
      omega
    have zero : ofBigEndian ((List.replicate count (0 : UInt8)).take 4) = 0 := by
      rw [List.take_replicate, Nat.min_eq_left (by omega)]
      decide
    -- A size of zero reaches to the end.
    have next := @Heading.Cuts.next isoHeading ⟨List.replicate 8 0, List.replicate (count - 8) 0⟩ [] [] [] (by
      rw [List.append_nil, whole, isoHeading_read, Movie.boxHead, if_neg (by simp only [List.length_replicate]; omega),
        if_pos zero]
      simp only [List.length_replicate]
      rw [if_neg (by omega)]) (.stop isoHeading_unled_nil)
    rw [List.append_nil, whole] at next
    exact next.cut_eq

theorem zeros_clean (count : Nat) : ∀ c ∈ (isoHeading.cut (List.replicate count 0)).1, Clean TOP c := by
  rw [zeros_cut]
  split
  · simp
  · intro c member
    rw [List.mem_singleton.mp member]
    -- Four zeros are no type that is looked for.
    have kind : isoKind ⟨List.replicate 8 0, List.replicate (count - 8) 0⟩ = List.replicate 4 0 := rfl
    simp only [TOP, Clean, kind]
    exact ⟨by decide, fun same => (by cases same), fun same => absurd same (by decide)⟩

/-- What a scrubbed ISO video is made of. -/
theorem scrubIso_parts (scrubbed : scrubIso (data, s) = .ok (out, s')) :
    ∃ list' rest', List.Forall₂ (Scrubs TOP) (isoHeading.cut data).1 list' ∧ out = joined list' ++ rest'
      ∧ (rest' = (isoHeading.cut data).2 ∧ ((isoHeading.cut data).2 = [] ∨ cutShort (isoHeading.cut data).2)
        ∨ rest' = List.replicate (isoHeading.cut data).2.length 0)
      ∧ ((isoHeading.cut data).1.head?.map fun c => ISO_FIRST.contains (isoKind c)).getD false = true
      ∧ (isoHeading.cut data).1.any (fun c => isoKind c = utf8 "moov") = true := by
  rw [scrubIso_eq] at scrubbed
  split at scrubbed
  · rename_i first
    cases all : editAll (edit TOP) (isoHeading.cut data).1 s with
    | error e => simp [all] at scrubbed
    | ok both =>
      obtain ⟨list', s₁⟩ := both
      simp only [all] at scrubbed
      have each : List.Forall₂ (Scrubs TOP) (isoHeading.cut data).1 list' :=
        editAll_forall₂ (fun d _ s d' s' one => edit_scrubs one) all
      split at scrubbed
      · rename_i movie
        split at scrubbed
        · cases scrubbed
          exact ⟨list', _, each, rfl, .inr rfl, first, movie⟩
        · rename_i stays
          cases scrubbed
          refine ⟨list', _, each, rfl, .inl ⟨rfl, ?_⟩, first, movie⟩
          -- What stays is nothing, or a box that was cut short.
          by_cases none : (isoHeading.cut data).2 = []
          · exact .inl none
          · exact .inr (by simpa [none] using stays)
      · cases scrubbed
  · cases scrubbed

/-- A scrubbed ISO video is cut where the video was, and what is zeroed behind its boxes is none or one. -/
theorem scrubIso_cut {rest' : Bytes} (each : List.Forall₂ (Scrubs TOP) (isoHeading.cut data).1 list')
    (behind : rest' = (isoHeading.cut data).2 ∧ ((isoHeading.cut data).2 = [] ∨ cutShort (isoHeading.cut data).2)
      ∨ rest' = List.replicate (isoHeading.cut data).2.length 0) :
    isoHeading.cut (joined list' ++ rest') = (list' ++ (isoHeading.cut rest').1, (isoHeading.cut rest').2) := by
  have cuts := isoHeading.cut_cuts data
  have long : rest'.length = (isoHeading.cut data).2.length := by
    rcases behind with ⟨same, _⟩ | zero
    · rw [same]
    · rw [zero, List.length_replicate]
  exact (cuts.rewrite (scrubs_replace (cuts_headers cuts) each) long (isoHeading.cut_cuts rest')).cut_eq

/-- What follows the boxes of bytes is led by none. -/
theorem cut_unled (heading : Heading) (data : Bytes) : heading.cut (heading.cut data).2 = ([], (heading.cut data).2) := by
  have cuts := heading.cut_cuts data
  generalize (heading.cut data).1 = list at cuts
  generalize (heading.cut data).2 = rest at cuts ⊢
  have unled : heading.read rest = none := by
    induction cuts with
    | stop unled => exact unled
    | next _ _ ih => exact ih
  exact (Heading.Cuts.stop unled).cut_eq

/-- Only what describes the recording changes in a scrubbed ISO video, nothing moves, and nothing of it is left. -/
theorem scrubIso_scrubbed (scrubbed : scrubIso (data, s) = .ok (out, s')) : IsoScrubbed data out := by
  obtain ⟨list', rest', each, rfl, behind, _, movie⟩ := scrubIso_parts scrubbed
  have cuts := isoHeading.cut_cuts data
  have headers := cuts_headers cuts
  have same := scrubs_replace headers each
  have long := Heading.joined_length same
  refine ⟨?_, ⟨_, _, list', rest', cuts, each, rfl, behind⟩, ?_, by simpa using movie, ?_⟩
  · have count := congrArg List.length cuts.joined
    rw [List.length_append] at count ⊢
    rcases behind with ⟨rfl, _⟩ | rfl
    · omega
    · rw [List.length_replicate]
      omega
  · intro before c after shape unmoved plain
    rw [shape] at each same
    -- The boxes before it are as long as they were, and it is itself.
    have front := List.forall₂_take before.length each
    have there := List.forall₂_drop before.length each
    rw [List.take_left] at front
    rw [List.drop_left] at there
    obtain ⟨c', after', one, _, there'⟩ := List.forall₂_cons_left_iff.mp there
    have still : c' = c := by
      simp only [TOP, Scrubs, reduceCtorEq, if_false, if_neg unmoved] at one
      rwa [plain, if_neg (by simp)] at one
    have split : list' = list'.take before.length ++ c :: after' := by
      rw [← still, ← there', List.take_append_drop]
    have early : (joined (list'.take before.length)).length = (joined before).length :=
      Heading.joined_length (scrubs_replace (fun d member => headers d (by rw [shape]; simp [member])) front)
    rw [split, joined_append, joined_cons, List.append_assoc, ← early, List.drop_left, List.append_assoc, List.take_left]
  · rw [scrubIso_cut each behind]
    intro c member
    -- A box of the result is a scrubbed one, or one of the zeros behind.
    rcases List.mem_append.mp member with inside | later
    · obtain ⟨b, inside', one⟩ := mem_forall₂_right each inside
      exact one.clean top_apart (headers b inside')
    · rcases behind with ⟨rfl, _⟩ | rfl
      · rw [cut_unled] at later
        cases later
      · exact zeros_clean _ c later

/-- Scrubbing an ISO video fails with a refusal only. -/
theorem scrubIso_inRange (data : Bytes) (s : Scrubbed) : scrubIso (data, s) ≠ .error .outOfRange := by
  rw [scrubIso_eq]
  split
  · cases all : editAll (edit TOP) (isoHeading.cut data).1 s with
    | error e =>
      obtain ⟨c, _, _, bad⟩ := editAll_error all
      rw [edit_error bad]
      simp
    | ok both =>
      dsimp only
      split
      · split <;> simp
      · simp
  · simp

/-- A box that a file may begin with keeps its type, or is not one of metadata. -/
theorem Scrubs.kind (scrubs : Scrubs TOP c c') (plain : ISO_METADATA.contains (isoKind c) = false) :
    isoKind c' = isoKind c := by
  simp only [TOP, Scrubs, reduceCtorEq, if_false, plain, Bool.false_eq_true] at scrubs
  split at scrubs
  · obtain ⟨_, _, _, _, rfl⟩ := scrubs
    rfl
  · rw [scrubs]

/-- No type that a file may begin with is one of metadata. -/
theorem first_plain {kind : Bytes} (first : ISO_FIRST.contains kind = true) : ISO_METADATA.contains kind = false := by
  have member := List.contains_iff_mem.mp first
  simp only [ISO_FIRST, List.mem_cons, List.not_mem_nil, or_false] at member
  rcases member with same | same | same | same | same | same <;> rw [same] <;> decide

/-- Another scrub of a scrubbed ISO video changes nothing in it. -/
theorem scrubIso_again (scrubbed : scrubIso (data, s) = .ok (out, s')) : ∃ s'', scrubIso (out, s) = .ok (out, s'') := by
  have clean := (scrubIso_scrubbed scrubbed).clean
  obtain ⟨list', rest', each, rfl, behind, first, movie⟩ := scrubIso_parts scrubbed
  have cut := scrubIso_cut each behind
  have whole := (isoHeading.cut_cuts (joined list' ++ rest')).joined
  -- Every box of it says nothing of its recording, so none is changed.
  obtain ⟨s'', still⟩ := editAll_still (fun c member s => (clean c member).still s) s
  have first' : ((isoHeading.cut (joined list' ++ rest')).1.head?.map fun c => ISO_FIRST.contains (isoKind c)).getD false
      = true := by
    rw [cut]
    generalize (isoHeading.cut data).1 = list at each first
    cases each with
    | nil => simp at first
    | @cons c c' list list' one _ =>
      simp only [List.head?_cons, Option.map_some, Option.getD_some] at first
      have plain := first_plain first
      simp only [List.cons_append, List.head?_cons, Option.map_some, Option.getD_some, one.kind plain, first]
  -- The movie is among the boxes still, for a scrub keeps its type.
  have movie' : (isoHeading.cut (joined list' ++ rest')).1.any (fun c => isoKind c = utf8 "moov") = true := by
    obtain ⟨c, member, same⟩ := List.any_eq_true.mp movie
    have same' : isoKind c = utf8 "moov" := of_decide_eq_true same
    rw [cut]
    refine List.any_eq_true.mpr ?_
    obtain ⟨i, small, at'⟩ := List.getElem_of_mem member
    have small' : i < list'.length := by
      rw [← each.length_eq]
      exact small
    have one := each.get small small'
    simp only [List.get_eq_getElem, at'] at one
    have kind := one.kind (by rw [same']; decide)
    exact ⟨list'[i], List.mem_append_left _ (List.getElem_mem small'), by rw [kind]; exact same⟩
  rw [scrubIso_eq, first', if_pos rfl, still]
  dsimp only
  rw [movie', if_pos rfl]
  split
  · rename_i more
    -- Fewer than eight zeros are no box: they are zeroed once more.
    rcases behind with ⟨rfl, short⟩ | rfl
    · rw [cut, cut_unled] at more
      rcases short with none | begun
      · exact absurd none more.1
      · exact absurd begun more.2
    · have zeros : (isoHeading.cut (joined list' ++ List.replicate (isoHeading.cut data).2.length 0)).2
          = List.replicate (isoHeading.cut (joined list' ++ List.replicate (isoHeading.cut data).2.length 0)).2.length 0 := by
        rw [cut, zeros_cut]
        split
        · simp only [List.length_replicate]
        · rfl
      exact ⟨{ s'' with blanked := s''.blanked + 1 }, by rw [Work.blank, ← zeros, whole]⟩
  · exact ⟨s'', by rw [whole]⟩

end Scrub
end Nightdrop
