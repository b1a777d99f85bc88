import Nightdrop.Proofs.Node.Forged
import Nightdrop.Proofs.Node.Talk

/-! Two devices hold the same once everything said was heard, where nothing late undoes the newest. -/

namespace Nightdrop

variable {X : Externals}

/-- A ciphertext opens to nothing but the plaintext it was sealed from. -/
def Externals.Authentic (X : Externals) : Prop :=
  ∀ (s t s' t' : X.Session) message plaintext plaintext',
    X.encrypt s plaintext = some (t, message) → X.decrypt s' message = some (t', plaintext') →
      plaintext' = plaintext

namespace Talk

/-- What one side holds on a topic in its chat with the other. -/
def record (key : Side → String) (w : Talk X) (side : Side) (topic : Topic) : Option Told :=
  (w.node side).record (key side.other) topic

/-- Everything that was told on a topic, oldest first: by both sides if they share it, else by one. -/
def log (w : Talk X) (topic : Topic) (author : Side) : List (SentFrame X) :=
  w.sent.filter (fun e => e.told.topic = topic && (topic.shared || e.author = author))

/-- What one side takes up from a frame. -/
def heeds (w : Talk X) (side : Side) (e : SentFrame X) (now : Nat) : Option Told :=
  e.bytes.f.sealedBy.bind (fun from_ => (w.node side).heeds from_.1 e.told.topic from_.2 now)

/-- Hearing a frame leaves a side with the newest that was told: it is taken up, or held already. -/
def Settles (key : Side → String) (w : Talk X) (side : Side) (e last : SentFrame X) (now : Nat) : Prop :=
  w.heeds side e now = some last.told
    ∨ w.heeds side e now = none ∧ w.record key side e.told.topic = some last.told

/-- An older frame does no harm: it is not taken up, or the newest is yet to come to this side. -/
def Harmless (w : Talk X) (side : Side) (e last : SentFrame X) (now : Nat) : Prop :=
  e ≠ last ∧ (w.heeds side e now = none ∨ last.heard = false ∧ last.author = side.other)

/-- The condition on one step, for one topic. A shared setting is changed in a live chat whose session
seals it, or the app refuses. A frame heard leaves its side with the newest told, or does no harm. -/
def Orderly (key : Side → String) (topic : Topic) (w : Talk X) : TalkEvent X → Prop
  | .tell side told _ => told.topic = topic → topic.shared = true →
      (w.node side).Refuses (key side.other) told
        ∨ (w.node side).Seals (key side.other) (told.payload X)
  | .hear side _ e _ now => e.told.topic = topic →
      ∀ last, (w.log topic e.author).getLast? = some last →
        w.Settles key side e last now ∨ w.Harmless side e last now
  | .elsewhere _ => True

/-- One step that meets the condition for a topic. -/
def OrderlyStep (key : Side → String) (topic : Topic) (w : Talk X) (event : TalkEvent X)
    (w' : Talk X) : Prop :=
  w.Orderly key topic event ∧ TalkStep key w event w'

/-- Where two devices begin: each is known to the other by its name, and nothing was told yet. -/
structure Begins (key : Side → String) (w : Talk X) : Prop where
  known : ∀ side, (w.node side).identityKey = key side
  silent : w.sent = []

/-- Every frame that was told on a topic has been heard. -/
def AllHeard (w : Talk X) (topic : Topic) : Prop :=
  ∀ e ∈ w.sent, e.told.topic = topic → e.heard = true

/-- What holds of a topic as told by one side: who told it last holds it, if it is shared, and so does
the other side once it heard. -/
def Tracks (key : Side → String) (w : Talk X) (topic : Topic) (author : Side) : Prop :=
  match (w.log topic author).getLast? with
  | none => topic.shared = true → w.record key .left topic = w.record key .right topic
  | some e => (e.heard = true → w.record key e.author.other topic = some e.told)
      ∧ (topic.shared = true → w.record key e.author topic = some e.told)

/-- The invariant of orderly runs. -/
structure Ordered (key : Side → String) (topic : Topic) (w : Talk X) : Prop where
  known : ∀ side, (w.node side).identityKey = key side
  /-- Every frame was sealed from what it tells. -/
  genuine : ∀ e ∈ w.sent, ∃ s t message, X.encrypt s (e.told.payload X) = some (t, message)
    ∧ e.bytes = encode (.sealed e.told.topic.carrier (key e.author) (.fromOlm message))
  tracks : ∀ author, w.Tracks key topic author

variable {key : Side → String} {topic : Topic} {w w' : Talk X}

@[simp] theorem node_setNode (w : Talk X) (side side' : Side) (n : Node X) :
    (w.setNode side n).node side' = if side' = side then n else w.node side' := by
  cases side <;> cases side' <;> rfl

@[simp] theorem sent_setNode (w : Talk X) (side : Side) (n : Node X) :
    (w.setNode side n).sent = w.sent := by
  cases side <;> rfl

/-- What was told is beside the devices. -/
@[simp] theorem log_setNode (w : Talk X) (side author : Side) (n : Node X) (topic : Topic) :
    (w.setNode side n).log topic author = w.log topic author := by
  unfold log
  rw [sent_setNode]

/-- The list of what was sent is beside the devices. -/
@[simp] theorem node_sent (w : Talk X) (sent : List (SentFrame X)) (side : Side) :
    ({ w with sent := sent } : Talk X).node side = w.node side := by
  cases side <;> rfl

/-- What is tracked of a topic that was told. -/
theorem tracks_iff {author : Side} {e : SentFrame X} (newest : (w.log topic author).getLast? = some e) :
    w.Tracks key topic author ↔ (e.heard = true → w.record key e.author.other topic = some e.told)
      ∧ (topic.shared = true → w.record key e.author topic = some e.told) := by
  unfold Tracks
  rw [newest]

/-- Same records and same frames are tracked alike. -/
theorem Tracks.same {author : Side} (tracks : w.Tracks key topic author)
    (logs : w'.log topic author = w.log topic author)
    (records : ∀ side, w'.record key side topic = w.record key side topic) :
    w'.Tracks key topic author := by
  unfold Tracks at tracks ⊢
  simpa only [logs, records] using tracks

/-- Telling something adds to its own topic's log only. -/
theorem log_tell (w : Talk X) (e : SentFrame X) (topic : Topic) (author : Side) :
    ({ w with sent := w.sent ++ [e] } : Talk X).log topic author
      = w.log topic author
        ++ if e.told.topic = topic ∧ (topic.shared = true ∨ e.author = author) then [e] else [] := by
  unfold log
  rw [List.filter_append]
  congr 1
  by_cases here : e.told.topic = topic ∧ (topic.shared = true ∨ e.author = author)
  · simp [here]
  · rw [if_neg here, List.filter_cons, if_neg (by simpa using here)]
    rfl

/-- Every topic's log of what one side told, when one frame of it is heard. -/
theorem log_hear {front back : List (SentFrame X)} {e : SentFrame X} (pooled : w.sent = front ++ e :: back)
    (topic : Topic) (author : Side) :
    (e.told.topic = topic ∧ (topic.shared = true ∨ e.author = author)
      ∧ ∃ f b, w.log topic author = f ++ e :: b
        ∧ ({ w with sent := front ++ { e with heard := true } :: back } : Talk X).log topic author
          = f ++ { e with heard := true } :: b)
    ∨ (¬ (e.told.topic = topic ∧ (topic.shared = true ∨ e.author = author))
      ∧ ({ w with sent := front ++ { e with heard := true } :: back } : Talk X).log topic author
        = w.log topic author) := by
  unfold log
  rw [pooled]
  simp only [List.filter_append, List.filter_cons]
  by_cases here : e.told.topic = topic ∧ (topic.shared = true ∨ e.author = author)
  · have marked : (decide (e.told.topic = topic) && (topic.shared || decide (e.author = author))) = true := by
      simpa using here
    simp only [marked, if_true]
    exact .inl ⟨here.1, here.2, _, _, rfl, rfl⟩
  · have unmarked : ¬ (decide (e.told.topic = topic) && (topic.shared || decide (e.author = author))) = true := by
      simpa using here
    simp only [unmarked]
    exact .inr ⟨here, rfl⟩

/-- The other side's other side is this side. -/
@[simp] theorem other_other (side : Side) : side.other.other = side := by cases side <;> rfl

theorem ne_other (side : Side) : side ≠ side.other := by cases side <;> simp [Side.other]

/-- A side is this one or the other. -/
theorem eq_or_other (side side' : Side) : side' = side ∨ side' = side.other := by
  cases side <;> cases side' <;> simp [Side.other]

/-- Telling keeps the invariant: the newest is now what was just told. -/
theorem Ordered.tell (ordered : w.Ordered key topic) {side : Side} {told : Told} {now : Nat} {n : Node X}
    {bytes : Envelope X.OlmMessage} (did : (w.node side).Tells (key side.other) now told n)
    (handed : (w.node side).Hands n bytes) :
    Ordered key topic
      { w.setNode side n with sent := w.sent ++ [{ author := side, told := told, bytes := bytes }] } := by
  obtain ⟨spoken, others, made, -, -⟩ := did.spec
  have records (other : Side) (t : Topic) (away : other ≠ side ∨ t ≠ told.topic ∨ told.topic.shared = false) :
      (w.setNode side n).record key other t = w.record key other t := by
    unfold record
    rw [node_setNode]
    split
    · rename_i here
      subst here
      refine others t fun same => ?_
      rcases away with far | elsewhere | alone
      · exact absurd rfl far
      · exact absurd same elsewhere
      · exact alone
    · rfl
  refine ⟨fun other => ?_, fun e member => ?_, fun author => ?_⟩
  · rw [node_sent, node_setNode]
    split
    · rename_i here
      rw [spoken.identityKey, here, ordered.known]
    · exact ordered.known other
  · rcases List.mem_append.mp member with earlier | last
    · exact ordered.genuine e earlier
    · rw [List.mem_singleton] at last
      subst last
      obtain ⟨chat, session, message, found, sealed, same⟩ := spoken.hands bytes handed
      exact ⟨chat.session, session, message, sealed, by rw [same, ordered.known]⟩
  · have logs := log_tell (w.setNode side n) ⟨side, told, bytes, false⟩ topic author
    rw [sent_setNode, log_setNode] at logs
    by_cases here : told.topic = topic ∧ (topic.shared = true ∨ side = author)
    · rw [if_pos here] at logs
      unfold Tracks
      rw [logs]
      simp only [List.getLast?_append, List.getLast?_singleton, Option.some_or]
      refine ⟨by simp, fun shared => ?_⟩
      have holds := made (here.1 ▸ shared) bytes handed
      rw [here.1] at holds
      unfold record
      rw [node_sent, node_setNode, if_pos rfl]
      exact holds
    · rw [if_neg here, List.append_nil] at logs
      refine (ordered.tracks author).same logs fun other => records other topic ?_
      -- What was told belongs to another topic, or to the other side's own log.
      by_cases elsewhere : told.topic = topic
      · rw [not_and_or, not_or, Bool.not_eq_true] at here
        exact .inr (.inr (by rw [elsewhere]; exact (here.resolve_left (absurd elsewhere)).1))
      · exact .inr (.inl (Ne.symm elsewhere))

/-- A change that is not told is no change, where it should have been told. -/
theorem Ordered.keep (ordered : w.Ordered key topic) {side : Side} {told : Told} {now : Nat} {n : Node X}
    (did : (w.node side).Tells (key side.other) now told n) (unsent : (w.node side).Silent n)
    (ok : w.Orderly key topic (.tell side told now)) : Ordered key topic (w.setNode side n) := by
  obtain ⟨spoken, others, -, refused, handed⟩ := did.spec
  have records (other : Side) : (w.setNode side n).record key other topic = w.record key other topic := by
    unfold record
    rw [node_setNode]
    split
    · rename_i here
      subst here
      by_cases same : topic = told.topic
      · cases shared : told.topic.shared with
        | false => exact others topic fun _ => shared
        | true =>
          rw [same]
          refine refused ?_ shared
          rcases ok same.symm (same ▸ shared) with refuses | seals
          · exact refuses
          · -- A session that seals would have told it.
            by_contra granted
            obtain ⟨bytes, out⟩ := handed shared granted seals
            exact unsent.not_hands out
      · exact others topic fun here => absurd here same
    · rfl
  refine ⟨fun other => ?_, fun e member => ?_, fun author => ?_⟩
  · rw [node_setNode]
    split
    · rename_i here
      rw [spoken.identityKey, here, ordered.known]
    · exact ordered.known other
  · rw [sent_setNode] at member
    exact ordered.genuine e member
  · exact (ordered.tracks author).same (log_setNode w side author n topic) records

/-- What is said of captures says whether they are reported. -/
theorem reads_captures {told : Told} (captures : told.topic = .captures) :
    (Topic.reads X (told.payload X) .captures).isSome = true := by
  cases told with
  | captures visible =>
    cases visible with
    | true => simp [Told.payload, Topic.reads]
    | false =>
      have other : MARK_CAPTURES_SILENT ≠ MARK_CAPTURES_VISIBLE := by decide +kernel
      have plain : stripMark MARK_NEARBY_PREFIX MARK_CAPTURES_SILENT = none :=
        Option.isNone_iff_eq_none.mp (by decide +kernel)
      simp [Told.payload, Topic.reads, other, plain]
  | timer _ | storage _ | name _ | address _ | relaySet _ | version _ => cases captures

/-- Hearing a frame does to the records what is taken up from it. -/
theorem heard_record (authentic : X.Authentic) (ordered : w.Ordered key topic) {side : Side}
    {e : SentFrame X} (member : e ∈ w.sent) (across : e.author = side.other)
    (fromAddress : Option String) (inputs : Node.FrameInputs) (now : Nat) :
    ((w.node side).takeIn fromAddress e.bytes inputs now).1.identityKey = key side
      ∧ ∀ t, ((w.node side).takeIn fromAddress e.bytes inputs now).1.record (key side.other) t
        = if t = e.told.topic then (w.heeds side e now).orElse (fun _ => w.record key side t)
          else w.record key side t := by
  obtain ⟨s, s', message, sealed, bytes⟩ := ordered.genuine e member
  rw [across] at bytes
  rw [bytes, Node.takeIn_topic]
  constructor
  · exact (Node.processSealed_identityKey e.told.topic inputs).trans (ordered.known side)
  · intro t
    rw [Node.processSealed_record inputs]
    · unfold heeds
      rw [bytes]
      rfl
    · intro captures session plaintext opened
      obtain ⟨chat, olm, found, readable, opens⟩ := Node.opens_eq_some.mp opened
      obtain rfl : message = olm := by simpa [WireOlm.fromOlm, WireOlm.toOlm] using readable
      rw [authentic _ _ _ _ _ _ _ sealed opens, captures]
      exact reads_captures captures

/-- What one side told is in its own log, and in the other's if the topic is shared. -/
theorem log_own {author author' : Side} (own : topic.shared = true ∨ author = author') :
    w.log topic author' = w.log topic author := by
  rcases own with shared | rfl
  · unfold log
    simp [shared]
  · rfl

/-- Who is in the log of an unshared topic told it. -/
theorem author_of_log {author : Side} {e : SentFrame X} (alone : topic.shared = false)
    (newest : (w.log topic author).getLast? = some e) : e.author = author := by
  have member := List.mem_of_getLast? newest
  unfold log at member
  have told := (List.mem_filter.mp member).2
  simp only [alone, Bool.false_or, Bool.and_eq_true, decide_eq_true_eq] at told
  exact told.2

/-- The last of what stands behind is the last of all. -/
theorem getLast?_behind {α : Type*} (front : List α) (a : α) (back : List α) (last : α) :
    (front ++ a :: back.concat last).getLast? = some last := by
  rw [List.concat_eq_append, ← List.cons_append, ← List.append_assoc, List.getLast?_concat]

/-- Hearing keeps the invariant, where it leaves the newest or does no harm. -/
theorem Ordered.hear (authentic : X.Authentic) (ordered : w.Ordered key topic) {side : Side}
    {e : SentFrame X} {front back : List (SentFrame X)} (pooled : w.sent = front ++ e :: back)
    (across : e.author = side.other) (fromAddress : Option String) (inputs : Node.FrameInputs) (now : Nat)
    (ok : w.Orderly key topic (.hear side fromAddress e inputs now)) :
    Ordered key topic
      { w.setNode side ((w.node side).takeIn fromAddress e.bytes inputs now).1 with
        sent := front ++ { e with heard := true } :: back } := by
  have member : e ∈ w.sent := by rw [pooled]; simp
  obtain ⟨identity, heard⟩ := heard_record authentic ordered member across fromAddress inputs now
  revert identity heard
  generalize ((w.node side).takeIn fromAddress e.bytes inputs now).1 = n
  intro identity heard
  -- Only the hearing side's record of this topic may have changed.
  have away : (w.setNode side n).record key side.other topic = w.record key side.other topic := by
    unfold record
    rw [node_setNode, if_neg (ne_other side).symm]
  have here : (w.setNode side n).record key side topic
      = if topic = e.told.topic then (w.heeds side e now).orElse (fun _ => w.record key side topic)
        else w.record key side topic := by
    rw [← heard topic]
    unfold record
    rw [node_setNode, if_pos rfl]
  generalize made : ({ w.setNode side n with sent := front ++ { e with heard := true } :: back } : Talk X)
    = w'
  have records (other : Side) : w'.record key other topic = (w.setNode side n).record key other topic := by
    rw [← made]
    unfold record
    rw [node_sent]
  have logs' (author : Side) : w'.log topic author
      = ({ w with sent := front ++ { e with heard := true } :: back } : Talk X).log topic author := by
    rw [← made]
    rfl
  rw [← records] at away here
  refine ⟨fun other => ?_, fun e' member' => ?_, fun author => ?_⟩
  · rw [← made, node_sent, node_setNode]
    split
    · rename_i same
      rw [identity, same]
    · exact ordered.known other
  · rw [← made] at member'
    rcases List.mem_append.mp member' with before | after
    · exact ordered.genuine e' (by rw [pooled]; simp [before])
    · rcases List.mem_cons.mp after with rfl | behind
      · exact ordered.genuine e member
      · exact ordered.genuine e' (by rw [pooled]; simp [behind])
  · have tracks := ordered.tracks author
    rcases log_hear pooled topic author with ⟨topical, own, f, b, logs, marked⟩ | ⟨foreign, same⟩
    · rw [if_pos topical.symm] at here
      have verdict := ok topical
      rw [← log_own own, logs] at verdict
      rw [← logs'] at marked
      -- What settles leaves the newest in the hearing side's record.
      have settled {last : SentFrame X} (settles : w.Settles key side e last now) :
          w'.record key side topic = some last.told := by
        rw [here]
        rcases settles with taken | ⟨refused, held⟩
        · rw [taken]
          rfl
        · rw [refused, ← topical]
          exact held
      -- The newest is the frame heard itself, or one behind it.
      rcases List.eq_nil_or_concat b with rfl | ⟨b', last, rfl⟩
      · have newest : (w.log topic author).getLast? = some e := by rw [logs]; simp
        have newest' : (w'.log topic author).getLast? = some { e with heard := true } := by
          rw [marked]; simp
        rw [tracks_iff newest] at tracks
        rw [tracks_iff newest']
        rcases verdict e (by simp) with settles | ⟨other, -⟩
        · rw [across, other_other, away]
          rw [across] at tracks
          exact ⟨fun _ => settled settles, tracks.2⟩
        · exact absurd rfl other
      · have newest : (w.log topic author).getLast? = some last := by rw [logs, getLast?_behind]
        have newest' : (w'.log topic author).getLast? = some last := by rw [marked, getLast?_behind]
        rw [tracks_iff newest] at tracks
        rw [tracks_iff newest']
        rcases verdict last (getLast?_behind ..) with settles | ⟨-, refused | ⟨coming, told⟩⟩
        · have holds := settled settles
          rcases eq_or_other side last.author with mine | theirs
          · rw [mine] at tracks ⊢
            rw [away]
            exact ⟨tracks.1, fun _ => holds⟩
          · rw [theirs, other_other] at tracks ⊢
            rw [away]
            exact ⟨fun _ => holds, tracks.2⟩
        · -- What is not taken up changes nothing.
          have unchanged (other : Side) : w'.record key other topic = w.record key other topic := by
            rcases eq_or_other side other with rfl | rfl
            · rw [here, refused]
              rfl
            · exact away
          rw [unchanged, unchanged]
          exact tracks
        · rw [told] at tracks ⊢
          rw [away]
          exact ⟨fun taken => absurd taken (by simp [coming]), tracks.2⟩
    · rw [← logs'] at same
      by_cases topical : e.told.topic = topic
      · -- An unshared topic that the hearing side tells itself.
        rw [not_and_or, not_or, Bool.not_eq_true] at foreign
        obtain ⟨alone, others⟩ := foreign.resolve_left (absurd topical)
        have mine : author = side := by
          rw [across] at others
          rcases eq_or_other side author with same | other
          · exact same
          · exact absurd other.symm others
        cases newest : (w.log topic author).getLast? with
        | none =>
          unfold Tracks
          rw [same, newest]
          simp [alone]
        | some last =>
          have told := author_of_log alone newest
          rw [tracks_iff newest, told, mine] at tracks
          rw [tracks_iff (same ▸ newest), told, mine]
          exact ⟨fun taken => away.trans (tracks.1 taken), by simp [alone]⟩
      · refine tracks.same same fun other => ?_
        rcases eq_or_other side other with rfl | rfl
        · rw [if_neg (Ne.symm topical)] at here
          exact here
        · exact away

/-- One orderly step keeps the invariant. -/
theorem step_ordered (authentic : X.Authentic) {event : TalkEvent X} (ordered : w.Ordered key topic)
    (step : w.OrderlyStep key topic event w') : w'.Ordered key topic := by
  obtain ⟨ok, taken⟩ := step
  cases taken with
  | tell did handed => exact ordered.tell did handed
  | keep did unsent => exact ordered.keep did unsent ok
  | hear pooled across => exact ordered.hear authentic pooled across _ _ _ ok
  | @elsewhere side n same holds =>
    refine ⟨fun other => ?_, fun e member => ?_, fun author => ?_⟩
    · rw [node_setNode]
      split
      · rename_i here
        rw [same, here, ordered.known]
      · exact ordered.known other
    · rw [sent_setNode] at member
      exact ordered.genuine e member
    · refine (ordered.tracks author).same (log_setNode w side author n topic) fun other => ?_
      unfold record
      rw [node_setNode]
      split
      · rename_i here
        rw [here]
        exact holds topic
      · rfl

/-- Every orderly run keeps the invariant. -/
theorem run_ordered (authentic : X.Authentic) {start : Talk X} (begins : start.Begins key)
    (agreed : topic.shared = true → start.record key .left topic = start.record key .right topic)
    (reached : Reach start (OrderlyStep key topic) w) : w.Ordered key topic := by
  refine reached.invariant ⟨begins.known, ?_, fun author => ?_⟩
    fun s event s' _ ordered step => step_ordered authentic ordered step
  · simp [begins.silent]
  · unfold Tracks log
    rw [begins.silent]
    exact agreed

/-- Two devices just paired, and the names they know each other by. -/
def paired : Talk symbolic := { left := Symbolic.device, right := Symbolic.theirDevice }

def names : Side → String
  | .left => "me"
  | .right => "them"

/-- A frame one of them sealed, as the second of their session or a later one. -/
def frameOf (author : Side) (told : Told) (index : Nat) : SentFrame symbolic where
  author := author
  told := told
  bytes := encode (.sealed told.topic.carrier (names author)
    (.valid (⟨"first", author = .left, index, told.payload symbolic⟩ : Symbolic.Cipher)))

/-- The devices after one of them set a timer. -/
def afterTimer (side : Side) (secs : Nat) (w : Talk symbolic) : Talk symbolic :=
  { w.setNode side ((w.node side).setDisappearing (names side.other) secs 5).1 with
    sent := w.sent ++ [frameOf side (.timer secs) 1] }

/-- The devices after a frame was heard by the side it is for. -/
def afterHeard (side : Side) (front : List (SentFrame symbolic)) (e : SentFrame symbolic)
    (back : List (SentFrame symbolic)) (w : Talk symbolic) : Talk symbolic :=
  { w.setNode side ((w.node side).takeIn none e.bytes {} 6).1 with
    sent := front ++ { e with heard := true } :: back }

theorem symbolic_authentic : symbolic.Authentic := by
  intro s t s' t' message plaintext plaintext' sealed opened
  cases sealed
  have opens : Symbolic.decrypt s' ⟨s.pairing, s.opener, s.used, plaintext⟩ = some (t', plaintext') := opened
  unfold Symbolic.decrypt at opens
  split at opens
  · cases opens
    rfl
  · cases opens

theorem paired_begins : paired.Begins names := ⟨fun side => by cases side <;> rfl, rfl⟩

/--
Shared settings converge: once every frame that told of one was heard, both sides hold the same.

In every orderly run, in whatever order, however late and however often frames are heard, and
whatever else both devices do in between.
-/
theorem settings_converge (authentic : X.Authentic) {start : Talk X} (begins : start.Begins key)
    (shared : topic.shared = true)
    (agreed : start.record key .left topic = start.record key .right topic)
    (reached : Reach start (OrderlyStep key topic) w) (heard : w.AllHeard topic) :
    w.record key .left topic = w.record key .right topic := by
  have tracks := (run_ordered authentic begins (fun _ => agreed) reached).tracks .left
  cases newest : (w.log topic .left).getLast? with
  | none =>
    unfold Tracks at tracks
    rw [newest] at tracks
    exact tracks shared
  | some last =>
    rw [tracks_iff newest] at tracks
    have member := List.mem_of_getLast? newest
    unfold log at member
    obtain ⟨listed, told⟩ := List.mem_filter.mp member
    have taken := heard last listed (by simpa [shared] using told)
    -- Who told it last holds it, and the other side heard it.
    rcases eq_or_other .left last.author with mine | theirs
    · rw [mine] at tracks
      exact (tracks.2 shared).trans (tracks.1 taken).symm
    · rw [theirs, other_other] at tracks
      exact (tracks.1 taken).trans (tracks.2 shared).symm

/-- A timer of a minute that one side set and the other heard is the timer of both. -/
theorem settings_converge_minute :
    let w := afterHeard .right [] (frameOf .left (.timer 60) 1) [] (afterTimer .left 60 paired)
    w.record names .left .timer = w.record names .right .timer := by
  have told : OrderlyStep names .timer paired (.tell .left (.timer 60) 5) (afterTimer .left 60 paired) := by
    refine ⟨fun _ _ => .inr ⟨Symbolic.chat, rfl, rfl, rfl, rfl⟩, ?_⟩
    exact .tell (.timer (by decide)) (.inl ⟨rfl, _, rfl, rfl⟩)
  have heard : OrderlyStep names .timer (afterTimer .left 60 paired)
      (.hear .right none (frameOf .left (.timer 60) 1) {} 6)
      (afterHeard .right [] (frameOf .left (.timer 60) 1) [] (afterTimer .left 60 paired)) := by
    refine ⟨fun _ last newest => ?_, .hear rfl rfl⟩
    obtain rfl : frameOf .left (.timer 60) 1 = last := by
      simpa [log, afterTimer, paired, frameOf, Told.topic] using newest
    exact .inl (.inl (by decide +kernel))
  refine settings_converge symbolic_authentic paired_begins rfl rfl
    (.step _ (.step _ .start told) heard) ?_
  intro e member _
  obtain rfl : e = { frameOf .left (.timer 60) 1 with heard := true } := by
    simpa [afterHeard] using member
  rfl

/-- Two timers set at once cross, and each side ends with the other's. -/
theorem crossed_timers_differ :
    ∃ w, Reach paired (TalkStep names) w ∧ (∀ e ∈ w.sent, e.heard = true)
      ∧ w.record names .left .timer = some (.timer 120)
      ∧ w.record names .right .timer = some (.timer 60) := by
  let mine := frameOf .left (.timer 60) 1
  let theirs := frameOf .right (.timer 120) 1
  let set := afterTimer .right 120 (afterTimer .left 60 paired)
  let crossed := afterHeard .left [mine] theirs [] set
  refine ⟨afterHeard .right [] mine [{ theirs with heard := true }] crossed, ?_, ?_, ?_, ?_⟩
  · have first : TalkStep names paired (.tell .left (.timer 60) 5) (afterTimer .left 60 paired) :=
      .tell (.timer (by decide)) (.inl ⟨rfl, _, rfl, rfl⟩)
    have second : TalkStep names (afterTimer .left 60 paired) (.tell .right (.timer 120) 5) set :=
      .tell (.timer (by decide)) (.inl ⟨rfl, _, rfl, rfl⟩)
    have third : TalkStep names set (.hear .left none theirs {} 6) crossed := .hear rfl rfl
    exact .step _ (.step _ (.step _ (.step _ .start first) second) third) (.hear rfl rfl)
  · intro e member
    have listed : e = { mine with heard := true } ∨ e = { theirs with heard := true } := by
      simpa [afterHeard] using member
    rcases listed with rfl | rfl <;> rfl
  · decide +kernel
  · decide +kernel

/-- What a contact last confirmed hearing from us on a topic, as we recorded it. -/
def toldRecord (key : Side → String) (w : Talk X) (author : Side) (topic : Topic) : Option Told :=
  ((w.node author).chats.lookup (key author.other)).bind (fun chat =>
    match topic with
    | .address => chat.toldAddress.map .address
    | .relaySet => chat.relaysTold.map .relaySet
    | .version => chat.toldVersion.map .version
    | .captures => chat.toldCaptures.map .captures
    | .timer | .storage | .name => none)

/-- What one side last announced is what the other holds, and so is what it recorded as confirmed. -/
structure Latest (key : Side → String) (w : Talk X) (author : Side) (topic : Topic) (told : Told) :
    Prop where
  holds : w.record key author.other topic = some told
  confirmed : w.toldRecord key author topic = some told →
    w.record key author.other topic = w.toldRecord key author topic

/--
Announced values converge to the latest: once every frame a side announced on a topic was heard, the
other side holds what was announced last.

In every orderly run, in whatever order, however late and however often frames are heard, and
whatever else both devices do in between.
-/
theorem announcements_latest (authentic : X.Authentic) {start : Talk X} (begins : start.Begins key)
    (alone : topic.shared = false) (reached : Reach start (OrderlyStep key topic) w) {author : Side}
    (heard : ∀ e ∈ w.log topic author, e.heard = true) {last : SentFrame X}
    (newest : (w.log topic author).getLast? = some last) : w.Latest key author topic last.told := by
  have ordered := run_ordered authentic begins (by simp [alone]) reached
  have tracks := ordered.tracks author
  rw [tracks_iff newest, author_of_log alone newest] at tracks
  have holds := tracks.1 (heard last (List.mem_of_getLast? newest))
  exact ⟨holds, fun told => holds.trans told.symm⟩

/-- The devices after the left one moved to another address and announced it. -/
def afterMove (address : String) (index : Nat) (w : Talk symbolic) : Talk symbolic :=
  { w.setNode .left ({ w.left with address := address }.sendAddressTo "them" 5) with
    sent := w.sent ++ [frameOf .left (.address address) index] }

/-- Moving to another address and announcing it are steps of a run. -/
theorem afterMove_reach {w : Talk symbolic} (reached : Reach paired (TalkStep names) w)
    {address : String} {index : Nat}
    (handed : w.left.Hands ({ w.left with address := address }.sendAddressTo "them" 5)
      (frameOf .left (.address address) index).bytes) :
    Reach paired (TalkStep names) (afterMove address index w) := by
  let moved := w.setNode .left { w.left with address := address }
  have here : TalkStep names w (.elsewhere .left) moved := .elsewhere rfl fun _ => rfl
  have there : TalkStep names moved (.tell .left (.address address) 5) (afterMove address index w) :=
    .tell .address handed
  exact .step _ (.step _ reached here) there

/-- An announced address that the other side hears is the one it holds. -/
theorem announcements_latest_moved :
    let one := frameOf .left (.address "one.onion") 1
    let w := afterHeard .right [] one [] (afterMove "one.onion" 1 paired)
    w.Latest names .left .address (.address "one.onion") := by
  intro one w
  let moved := paired.setNode .left { paired.left with address := "one.onion" }
  have moves : OrderlyStep names .address paired (.elsewhere .left) moved :=
    ⟨trivial, .elsewhere rfl fun _ => rfl⟩
  have told : OrderlyStep names .address moved (.tell .left (.address "one.onion") 5)
      (afterMove "one.onion" 1 paired) :=
    ⟨fun _ => nofun, .tell .address (.inl ⟨rfl, _, rfl, rfl⟩)⟩
  have heard : OrderlyStep names .address (afterMove "one.onion" 1 paired) (.hear .right none one {} 6) w := by
    refine ⟨fun _ last newest => ?_, .hear rfl rfl⟩
    obtain rfl : one = last := by
      simpa [log, afterMove, paired, one, frameOf, Told.topic] using newest
    exact .inl (.inl (by decide +kernel))
  have newest : (w.log .address .left).getLast? = some { one with heard := true } := by
    simp [log, w, one, afterHeard, frameOf, Told.topic]
  refine announcements_latest symbolic_authentic paired_begins rfl
    (.step _ (.step _ (.step _ .start moves) told) heard) (fun e member => ?_) newest
  obtain rfl : e = { one with heard := true } := by
    simpa [log, w, one, afterHeard, frameOf, Told.topic] using member
  rfl

/-- A late copy of an older address undoes the newer one that the contact had confirmed. -/
theorem late_address_undoes :
    ∃ w, Reach paired (TalkStep names) w ∧ (∀ e ∈ w.sent, e.heard = true)
      ∧ (w.log .address .left).getLast?.map (·.told) = some (.address "two.onion")
      ∧ w.toldRecord names .left .address = some (.address "two.onion")
      ∧ w.record names .right .address = some (.address "one.onion") := by
  let one := frameOf .left (.address "one.onion") 1
  let two := frameOf .left (.address "two.onion") 2
  let moved := afterMove "two.onion" 2 (afterMove "one.onion" 1 paired)
  let confirmed := moved.setNode .left (moved.left.applyAnnounced .address "them" true 6)
  let ahead := afterHeard .right [one] two [] confirmed
  have once : Reach paired (TalkStep names) (afterMove "one.onion" 1 paired) :=
    afterMove_reach .start (.inl ⟨rfl, _, rfl, rfl⟩)
  have twice : Reach paired (TalkStep names) moved := afterMove_reach once (.inl ⟨rfl, _, rfl, rfl⟩)
  have record : TalkStep names moved (.elsewhere .left) confirmed :=
    .elsewhere rfl fun topic => by cases topic <;> decide +kernel
  have second : TalkStep names confirmed (.hear .right none two {} 6) ahead := .hear rfl rfl
  refine ⟨afterHeard .right [] one [{ two with heard := true }] ahead,
    .step _ (.step _ (.step _ twice record) second) (.hear rfl rfl), fun e member => ?_, ?_, ?_, ?_⟩
  · have listed : e = { one with heard := true } ∨ e = { two with heard := true } := by
      simpa [afterHeard] using member
    rcases listed with rfl | rfl <;> rfl
  all_goals decide +kernel

end Talk

end Nightdrop
