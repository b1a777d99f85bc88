import Nightdrop.Proofs.Node.Agreement

/-! When an agreement on a mailbox heals by itself, and when it never does. -/

namespace Nightdrop

/-- What a side does with a frame when its reply goes out. -/
def Party.respond (prove : Bytes → Bytes → Bytes) (frame : KeyFrame) (depth : Nat) (side : Party) : Party :=
  let heard := side.hear prove frame
  if heard.pair.answers frame then heard.send prove (depth + 1) else heard

namespace Party

variable {prove : Bytes → Bytes → Bytes} {frame : KeyFrame} {depth : Nat} {side : Party}

/-- Whether a side replies to a frame. -/
theorem answers_iff : (side.hear prove frame).pair.answers frame = true
    ↔ frame.2 = none ∨ ¬ (side.pair.confirmSent = true ∧ side.pair.peer = some frame.1) := by
  have sent : (side.hear prove frame).pair.confirmSent = _ :=
    MailboxPair.hears_sent _ _ _
  unfold MailboxPair.answers
  rw [sent]
  simp only [Bool.or_eq_true, Option.isNone_iff_eq_none, Bool.not_eq_true', ← Bool.not_eq_true,
    Bool.and_eq_true, decide_eq_true_eq]

/-- What responding to a frame does to a side. -/
theorem respond_spec (prove : Bytes → Bytes → Bytes) (frame : KeyFrame) (depth : Nat) (side : Party) :
    (side.respond prove frame depth).pair.own = side.pair.own
    ∧ (side.respond prove frame depth).pair.peer = some frame.1
    ∧ (side.respond prove frame depth).pair.confirmSent = true
    ∧ ((side.respond prove frame depth).pair.peerConfirmed = true
        ↔ frame.2 = some (prove side.pair.own frame.1)
          ∨ (side.pair.peerConfirmed = true ∧ side.pair.peer = some frame.1))
    ∧ (side.respond prove frame depth).flying
        = if frame.2 = none ∨ ¬ (side.pair.confirmSent = true ∧ side.pair.peer = some frame.1) then
            ((side.pair.own, some (prove side.pair.own frame.1)), depth + 1) :: side.flying
          else side.flying := by
  have stored := MailboxPair.hears_contributions prove side.pair frame
  have confirmed := MailboxPair.hears_confirmed prove side.pair frame
  have sent : (side.hear prove frame).pair.confirmSent = _ :=
    MailboxPair.hears_sent _ _ _
  unfold respond
  simp only []
  by_cases replies : (side.hear prove frame).pair.answers frame = true
  · rw [if_pos replies, if_pos (answers_iff.mp replies)]
    refine ⟨stored.1, stored.2, ?_, confirmed, ?_⟩
    · show (_ || _) = true
      simp [MailboxPair.payload, hear, become, stored.2]
    · show (_ :: _ : List (KeyFrame × Nat)) = _
      simp [MailboxPair.payload, hear, become, stored.1, stored.2]
  · rw [if_neg replies, if_neg (fun asks => replies (answers_iff.mpr asks))]
    refine ⟨stored.1, stored.2, ?_, confirmed, rfl⟩
    rw [sent]
    have silent := mt answers_iff.mpr replies
    simp only [not_or, not_not] at silent
    simp [silent.2]

end Party

/-- What two sides may do while every frame is delivered: a side that is not confirmed announces, a
side hears a frame and replies where it should, or a side restarts. -/
def Joint.Lives (H : Hashes) (keys : Bool → String) (w : Joint) (event : AgreeEvent) (w' : Joint) :
    Prop :=
  w.Step H keys event w' ∧ match event with
    | .announce s => (w s).pair.peerConfirmed = false
    | .deliver s frame _ replied again =>
      again = false ∧ replied = ((w s).hear (H.prove keys s) frame).pair.answers frame
    | .restart _ => True
    | .lose _ _ _ => False
    | .change _ _ => False

/-- A run that goes on for ever: each side announces again and again while it is not confirmed, and
every frame on its way is delivered. -/
structure FairRun (H : Hashes) (keys : Bool → String) (w : Joint) where
  state : Nat → Joint
  event : Nat → AgreeEvent
  start : state 0 = w
  step : ∀ n, (state n).Lives H keys (event n) (state (n + 1))
  announces : ∀ s n, ∃ m, n ≤ m
    ∧ ((state m s).pair.peerConfirmed = true ∨ event m = .announce s)
  delivers : ∀ s n frame depth, (frame, depth) ∈ (state n !s).flying →
    ∃ m, n ≤ m ∧ ∃ replied again, event m = .deliver s frame depth replied again

/-- One side's view of a step: `a` is the side, `b` the other. -/
inductive Move (proveA proveB : Bytes → Bytes → Bytes) (a b : Party) : Party → Party → Prop
  | speaks (unconfirmed : a.pair.peerConfirmed = false) : Move proveA proveB a b (a.send proveA 0) b
  | spoken (unconfirmed : b.pair.peerConfirmed = false) : Move proveA proveB a b a (b.send proveB 0)
  | hears (frame : KeyFrame) (depth : Nat) (arrives : (frame, depth) ∈ b.flying) :
      Move proveA proveB a b (a.respond proveA frame depth)
        { b with flying := b.flying.erase (frame, depth) }
  | heard (frame : KeyFrame) (depth : Nat) (arrives : (frame, depth) ∈ a.flying) :
      Move proveA proveB a b { a with flying := a.flying.erase (frame, depth) }
        (b.respond proveB frame depth)
  | rests (a' b' : Party) (pairA : a'.pair = a.pair) (flyingA : a'.flying = a.flying)
      (pairB : b'.pair = b.pair) (flyingB : b'.flying = b.flying) : Move proveA proveB a b a' b'

namespace Joint

variable {H : Hashes} {keys : Bool → String} {w w' : Joint}

/-- What a delivery does to both sides. -/
theorem deliver_eq {s replied again : Bool} {frame : KeyFrame} {depth : Nat}
    (lives : w.Lives H keys (.deliver s frame depth replied again) w') :
    (frame, depth) ∈ (w !s).flying ∧ w' s = (w s).respond (H.prove keys s) frame depth
      ∧ w' (!s) = { (w !s) with flying := (w !s).flying.erase (frame, depth) } := by
  obtain ⟨⟨arrives, _, rfl⟩, rfl, rfl⟩ := lives
  have apart : (!s) ≠ s := by simp
  refine ⟨arrives, ?_, ?_⟩
  · rw [Function.update_self]
    rfl
  · rw [Function.update_of_ne apart]
    simp [without]

/-- Every step of a fair run, as either side sees it. -/
theorem Lives.move (reads : H.Reads) (sound : w.Sound H keys) {event : AgreeEvent}
    (lives : w.Lives H keys event w') (s : Bool) :
    Move (H.prove keys s) (H.prove keys !s) (w s) (w !s) (w' s) (w' !s) := by
  have apart : (!s) ≠ s := by simp
  cases event with
  | announce t =>
    obtain ⟨rfl, unconfirmed⟩ := lives
    rcases eq_or_ne t s with rfl | other
    · rw [Function.update_self, Function.update_of_ne apart]
      exact .speaks unconfirmed
    · obtain rfl := eq_other other
      rw [Function.update_self, Function.update_of_ne apart.symm]
      exact .spoken unconfirmed
  | deliver t frame depth replied again =>
    obtain ⟨arrives, own, other⟩ := deliver_eq lives
    rcases eq_or_ne t s with rfl | apart
    · rw [own, other]
      exact .hears frame depth arrives
    · obtain rfl := eq_other apart
      rw [Bool.not_not] at other arrives
      rw [own, other]
      exact .heard frame depth arrives
  | lose t frame depth => exact absurd lives.2 id
  | restart t =>
    obtain ⟨⟨pair, saved, rfl⟩, _⟩ := lives
    rw [MailboxPair.fromPersisted_toPersisted reads (sound.sized t _ (sound.current t))
      (sound.backed t)] at saved
    cases saved
    rcases eq_or_ne t s with rfl | other
    · rw [Function.update_self, Function.update_of_ne apart]
      exact .rests _ _ rfl rfl rfl rfl
    · obtain rfl := eq_other other
      rw [Function.update_self, Function.update_of_ne apart.symm]
      exact .rests _ _ rfl rfl rfl rfl
  | change t own => exact absurd lives.2 id

end Joint

namespace Party

/-- What announcing does to a side. -/
theorem send_spec (prove : Bytes → Bytes → Bytes) (depth : Nat) (side : Party) :
    (side.send prove depth).pair.own = side.pair.own
      ∧ (side.send prove depth).pair.peer = side.pair.peer
      ∧ (side.send prove depth).pair.peerConfirmed = side.pair.peerConfirmed
      ∧ (side.send prove depth).flying
          = ((side.pair.own, side.pair.peer.map (prove side.pair.own)), depth) :: side.flying :=
  ⟨rfl, rfl, rfl, rfl⟩

/-- Every frame on its way carries the side's contribution. -/
def Fresh (a : Party) : Prop := ∀ f ∈ a.flying, f.1.1 = a.pair.own

/-- The frame of `b` that proves to `a` that both have one secret. -/
def proof (proveB : Bytes → Bytes → Bytes) (a b : Party) : KeyFrame :=
  (b.pair.own, some (proveB b.pair.own a.pair.own))

/-- `a` is confirmed for the contribution `b` has. -/
def Done (a b : Party) : Prop :=
  a.pair.peerConfirmed = true ∧ a.pair.peer = some b.pair.own

/-- The proof `a` needs is on its way. -/
def Coming (proveB : Bytes → Bytes → Bytes) (a b : Party) : Prop :=
  ∃ depth, (proof proveB a b, depth) ∈ b.flying

/-- `b` answers the next frame of `a`: it does not know the contribution of `a`, has not told it its
proof, or is asked by a frame without a proof. -/
def Answers (proveB : Bytes → Bytes → Bytes) (a b : Party) : Prop :=
  b.pair.peer ≠ some a.pair.own
    ∨ (b.pair.peer = some a.pair.own ∧ b.pair.confirmSent = false)
    ∨ (b.pair.peer = some a.pair.own ∧ a.pair.peer = none
        ∧ (∀ f ∈ b.flying, f.1 = proof proveB a b) ∧ ∀ f ∈ a.flying, f.1.2 = none)

/-- `b` knows `a` and is not confirmed, nor can any frame of `a` confirm it: it will announce. -/
def Announces (proveB : Bytes → Bytes → Bytes) (a b : Party) : Prop :=
  b.pair.peer = some a.pair.own ∧ b.pair.peerConfirmed = false
    ∧ a.pair.peer ≠ some b.pair.own ∧ (∀ f ∈ b.flying, f.1 = proof proveB a b)
    ∧ ∀ f ∈ a.flying, f.1.2 ≠ some (proveB b.pair.own a.pair.own)

end Party

namespace Move

open Party

variable {proveA proveB : Bytes → Bytes → Bytes} {a b a' b' : Party}

/-- No step changes a contribution. -/
theorem own (move : Move proveA proveB a b a' b') :
    a'.pair.own = a.pair.own ∧ b'.pair.own = b.pair.own := by
  cases move with
  | speaks => exact ⟨rfl, rfl⟩
  | spoken => exact ⟨rfl, rfl⟩
  | hears frame depth arrives => exact ⟨(respond_spec _ _ _ _).1, rfl⟩
  | heard frame depth arrives => exact ⟨rfl, (respond_spec _ _ _ _).1⟩
  | rests _ _ pairA flyingA pairB flyingB => exact ⟨by rw [pairA], by rw [pairB]⟩

/-- Frames go on carrying the contribution of the side that sent them. -/
theorem fresh (move : Move proveA proveB a b a' b') (freshA : a.Fresh) (freshB : b.Fresh) :
    a'.Fresh ∧ b'.Fresh := by
  unfold Fresh at *
  cases move with
  | speaks => exact ⟨by simpa [(send_spec proveA 0 a)] using freshA, freshB⟩
  | spoken => exact ⟨freshA, by simpa [(send_spec proveB 0 b)] using freshB⟩
  | hears frame depth arrives =>
    obtain ⟨own, _, _, _, flying⟩ := respond_spec proveA frame depth a
    refine ⟨?_, fun f flies => freshB f (List.mem_of_mem_erase flies)⟩
    rw [own, flying]
    split <;> simpa using freshA
  | heard frame depth arrives =>
    obtain ⟨own, _, _, _, flying⟩ := respond_spec proveB frame depth b
    refine ⟨fun f flies => freshA f (List.mem_of_mem_erase flies), ?_⟩
    rw [own, flying]
    split <;> simpa using freshB
  | rests _ _ pairA flyingA pairB flyingB =>
    rw [pairA, flyingA, pairB, flyingB]
    exact ⟨freshA, freshB⟩

/-- A side that is done stays done. -/
theorem done (move : Move proveA proveB a b a' b') (freshB : b.Fresh) (done : a.Done b) :
    a'.Done b' := by
  obtain ⟨confirmed, peer⟩ := done
  cases move with
  | speaks => exact ⟨confirmed, peer⟩
  | spoken => exact ⟨confirmed, peer⟩
  | hears frame depth arrives =>
    have carries := freshB _ arrives
    obtain ⟨_, stored, _, proves, _⟩ := respond_spec proveA frame depth a
    exact ⟨proves.mpr (.inr ⟨confirmed, by rw [peer, carries]⟩), by rw [stored, carries]⟩
  | heard frame depth arrives => exact ⟨confirmed, by rw [peer, (respond_spec _ _ _ _).1]⟩
  | rests _ _ pairA flyingA pairB flyingB =>
    unfold Done
    rw [pairA, pairB]
    exact ⟨confirmed, peer⟩

/-- A proof on its way stays on its way until it is heard. -/
theorem coming (comm : ∀ own peer, proveA own peer = proveB peer own)
    (move : Move proveA proveB a b a' b') (coming : a.Coming proveB b) :
    a'.Coming proveB b' ∨ a'.Done b' := by
  obtain ⟨depth, flies⟩ := coming
  cases move with
  | speaks => exact .inl ⟨depth, flies⟩
  | spoken => exact .inl ⟨depth, List.mem_cons_of_mem _ flies⟩
  | hears frame other arrives =>
    obtain ⟨own, stored, _, proves, _⟩ := respond_spec proveA frame other a
    by_cases it : frame = proof proveB a b
    · right
      subst it
      exact ⟨proves.mpr (.inl (congrArg some (comm _ _).symm)), stored⟩
    · refine .inl ⟨depth, ?_⟩
      unfold proof
      rw [own]
      exact (List.mem_erase_of_ne (by simpa using fun same => absurd same.symm it)).mpr flies
  | heard frame other arrives =>
    obtain ⟨own, _, _, _, flying⟩ := respond_spec proveB frame other b
    refine .inl ⟨depth, ?_⟩
    unfold proof
    rw [own, flying]
    split
    · exact List.mem_cons_of_mem _ flies
    · exact flies
  | rests _ _ pairA flyingA pairB flyingB =>
    refine .inl ⟨depth, ?_⟩
    unfold proof
    rw [pairA, pairB, flyingB]
    exact flies

/-- A frame of `a` that `b` answers brings the proof. -/
theorem answered {frame : KeyFrame} {depth : Nat} (freshA : a.Fresh)
    (arrives : (frame, depth) ∈ a.flying) (answers : a.Answers proveB b) (a' : Party)
    (same : a'.pair.own = a.pair.own) : a'.Coming proveB (b.respond proveB frame depth) := by
  have carries : frame.1 = a.pair.own := freshA _ arrives
  obtain ⟨own, _, _, _, flying⟩ := respond_spec proveB frame depth b
  have asks : frame.2 = none ∨ ¬ (b.pair.confirmSent = true ∧ b.pair.peer = some frame.1) := by
    rcases answers with unknown | ⟨_, untold⟩ | ⟨_, _, _, blank⟩
    · exact .inr (fun told => unknown (carries ▸ told.2))
    · exact .inr (fun told => absurd told.1 (by simp [untold]))
    · exact .inl (blank _ arrives)
  refine ⟨depth + 1, ?_⟩
  unfold proof
  rw [own, flying, if_pos asks, same, carries]
  exact List.mem_cons_self

/-- An announcement of a side that knows `a` brings the proof. -/
theorem announced (knows : b.pair.peer = some a.pair.own) : a.Coming proveB (b.send proveB 0) :=
  ⟨0, by
    rw [(send_spec proveB 0 b).2.2.2, knows]
    exact List.mem_cons_self⟩

/-- While `b` would answer `a`, it goes on doing so, or the proof comes. -/
theorem answers (comm : ∀ own peer, proveA own peer = proveB peer own)
    (move : Move proveA proveB a b a' b') (freshA : a.Fresh) (answers : a.Answers proveB b) :
    a'.Answers proveB b' ∨ a'.Coming proveB b' ∨ a'.Done b' := by
  cases move with
  | speaks =>
    refine .inl (answers.imp id (Or.imp id ?_))
    rintro ⟨knows, blank, proofs, proofless⟩
    refine ⟨knows, blank, proofs, fun f flies => ?_⟩
    rw [(send_spec proveA 0 a).2.2.2, blank] at flies
    rcases List.mem_cons.mp flies with rfl | flies
    · rfl
    · exact proofless f flies
  | spoken =>
    rcases answers with unknown | ⟨knows, _⟩ | ⟨knows, _⟩
    · exact .inl (.inl unknown)
    · exact .inr (.inl (announced knows))
    · exact .inr (.inl (announced knows))
  | hears frame depth arrives =>
    obtain ⟨own, stored, _, proves, _⟩ := respond_spec proveA frame depth a
    rcases answers with unknown | ⟨knows, untold⟩ | ⟨_, _, proofs, _⟩
    · exact .inl (.inl (by rwa [own]))
    · exact .inl (.inr (.inl ⟨by rwa [own], untold⟩))
    · -- Whatever `a` hears now is the proof.
      have it : frame = proof proveB a b := proofs _ arrives
      subst it
      exact .inr (.inr ⟨proves.mpr (.inl (congrArg some (comm _ _).symm)), stored⟩)
  | heard frame depth arrives => exact .inr (.inl (answered freshA arrives answers _ rfl))
  | rests _ _ pairA flyingA pairB flyingB =>
    left
    unfold Answers proof at *
    rw [pairA, pairB, flyingA, flyingB]
    exact answers

/-- While `b` is about to announce, it stays so, or the proof comes. -/
theorem announces (comm : ∀ own peer, proveA own peer = proveB peer own)
    (apart : ∀ peer, a.pair.peer = some peer →
      proveA a.pair.own peer = proveB b.pair.own a.pair.own → peer = b.pair.own)
    (move : Move proveA proveB a b a' b') (freshA : a.Fresh) (announces : a.Announces proveB b) :
    a'.Announces proveB b' ∨ a'.Coming proveB b' ∨ a'.Done b' := by
  obtain ⟨knows, unconfirmed, stray, proofs, useless⟩ := announces
  cases move with
  | speaks =>
    refine .inl ⟨knows, unconfirmed, stray, proofs, fun f flies => ?_⟩
    rw [(send_spec proveA 0 a).2.2.2] at flies
    rcases List.mem_cons.mp flies with rfl | flies
    · intro proves
      obtain ⟨peer, stored, same⟩ := Option.map_eq_some_iff.mp proves
      exact stray (stored.trans (congrArg some (apart peer stored same)))
    · exact useless f flies
  | spoken => exact .inr (.inl (announced knows))
  | hears frame depth arrives =>
    obtain ⟨own, stored, _, proves, _⟩ := respond_spec proveA frame depth a
    have it : frame = proof proveB a b := proofs _ arrives
    subst it
    exact .inr (.inr ⟨proves.mpr (.inl (congrArg some (comm _ _).symm)), stored⟩)
  | heard frame depth arrives =>
    have carries : frame.1 = a.pair.own := freshA _ arrives
    obtain ⟨own, stored, _, proves, flying⟩ := respond_spec proveB frame depth b
    refine .inl ⟨by rw [stored, carries], ?_, by rwa [own], fun f flies => ?_, fun f flies => ?_⟩
    · rw [← Bool.not_eq_true, proves]
      rintro (proof | ⟨before, _⟩)
      · rw [carries] at proof
        exact useless _ arrives proof
      · exact absurd before (by simp [unconfirmed])
    · unfold proof
      rw [own]
      rw [flying] at flies
      split at flies
      · rcases List.mem_cons.mp flies with rfl | flies
        · exact congrArg (fun x => (b.pair.own, some (proveB b.pair.own x))) carries
        · exact proofs f flies
      · exact proofs f flies
    · rw [own]
      exact useless f (List.mem_of_mem_erase flies)
  | rests _ _ pairA flyingA pairB flyingB =>
    left
    unfold Announces proof at *
    rw [pairA, pairB, flyingA, flyingB]
    exact ⟨knows, unconfirmed, stray, proofs, useless⟩

end Move

namespace FairRun

open Party

variable {H : Hashes} {keys : Bool → String} {w : Joint}

/-- What holds at every moment of a fair run: both sides are sound, and send their contributions of
the start. -/
structure Kept (H : Hashes) (keys : Bool → String) (w v : Joint) : Prop where
  sound : v.Sound H keys
  fresh : ∀ s, (v s).Fresh
  own : ∀ s, (v s).pair.own = (w s).pair.own

theorem kept (injective : H.Injective) (reads : H.Reads) (sound : w.Sound H keys)
    (idle : ∀ s, (w s).flying = []) (r : FairRun H keys w) (n : Nat) :
    Kept H keys w (r.state n) := by
  induction n with
  | zero =>
    rw [r.start]
    refine ⟨sound, fun s f flies => ?_, fun _ => rfl⟩
    rw [idle s] at flies
    exact absurd flies List.not_mem_nil
  | succ n ih =>
    have lives := r.step n
    refine ⟨ih.sound.step injective reads lives.1, fun s => ?_, fun s => ?_⟩
    · exact ((lives.move reads ih.sound s).fresh (ih.fresh s) (ih.fresh !s)).1
    · exact (lives.move reads ih.sound s).own.1.trans (ih.own s)

variable (injective : H.Injective) (reads : H.Reads) (sound : w.Sound H keys)
  (idle : ∀ s, (w s).flying = []) (r : FairRun H keys w)

include injective reads sound idle

/-- A side that is done stays done. -/
theorem done_mono {s : Bool} {n m : Nat} (later : n ≤ m) (done : (r.state n s).Done (r.state n !s)) :
    (r.state m s).Done (r.state m !s) := by
  induction m, later using Nat.le_induction with
  | base => exact done
  | succ m _ ih =>
    have kept := r.kept injective reads sound idle m
    exact ((r.step m).move reads kept.sound s).done (kept.fresh !s) ih

/-- A proof on its way is heard. -/
theorem done_of_coming {s : Bool} {n : Nat}
    (coming : (r.state n s).Coming (H.prove keys !s) (r.state n !s)) :
    ∃ m, (r.state m s).Done (r.state m !s) := by
  obtain ⟨depth, flies⟩ := coming
  obtain ⟨m, _, replied, again, heard⟩ := r.delivers s n _ depth flies
  have lives := r.step m
  rw [heard] at lives
  obtain ⟨_, own, other⟩ := Joint.deliver_eq lives
  have sent := r.kept injective reads sound idle n
  have now := r.kept injective reads sound idle m
  obtain ⟨_, stored, _, proves, _⟩ := respond_spec (H.prove keys s)
    (proof (H.prove keys !s) (r.state n s) (r.state n !s)) depth (r.state m s)
  refine ⟨m + 1, ?_, ?_⟩
  · rw [own, proves]
    left
    show some (H.prove keys (!s) (r.state n !s).pair.own (r.state n s).pair.own)
      = some (H.prove keys s (r.state m s).pair.own (r.state n !s).pair.own)
    rw [Hashes.prove_comm keys s, now.own s, sent.own s]
  · rw [own, other, stored]
    show some (r.state n !s).pair.own = some (r.state m !s).pair.own
    rw [now.own !s, sent.own !s]

/-- Whoever hears the other side goes on knowing its contribution. -/
theorem knows_mono {s : Bool} {n m : Nat} (later : n ≤ m)
    (knows : (r.state n s).pair.peer = some (w !s).pair.own) :
    (r.state m s).pair.peer = some (w !s).pair.own := by
  induction m, later using Nat.le_induction with
  | base => exact knows
  | succ m _ ih =>
    have kept := r.kept injective reads sound idle m
    have move := (r.step m).move reads kept.sound s
    have fresh := kept.fresh !s
    have own := kept.own !s
    generalize r.state (m + 1) s = a' at *
    generalize r.state (m + 1) (!s) = b' at *
    cases move with
    | speaks => exact ih
    | spoken => exact ih
    | hears frame depth arrives =>
      rw [(respond_spec _ _ _ _).2.1]
      exact congrArg some ((fresh _ arrives).trans own)
    | heard => exact ih
    | rests _ _ pairA _ _ _ => rw [pairA]; exact ih

/-- Only hearing a frame can confirm a side. -/
theorem unconfirmed_step {s : Bool} {n : Nat}
    (unconfirmed : (r.state n s).pair.peerConfirmed = false)
    (deaf : ∀ frame depth, (frame, depth) ∉ (r.state n !s).flying) :
    (r.state (n + 1) s).pair.peerConfirmed = false := by
  have kept := r.kept injective reads sound idle n
  have move := (r.step n).move reads kept.sound s
  generalize r.state (n + 1) s = a' at *
  generalize r.state (n + 1) (!s) = b' at *
  cases move with
  | speaks => exact unconfirmed
  | spoken => exact unconfirmed
  | hears frame depth arrives => exact absurd arrives (deaf frame depth)
  | heard => exact unconfirmed
  | rests _ _ pairA _ _ _ => rw [pairA]; exact unconfirmed

/-- A side whose proof never comes, though the other side would announce, cannot be: it announces. -/
theorem done_of_announces {s : Bool}
    (announces : (r.state 0 s).Announces (H.prove keys !s) (r.state 0 !s)) :
    ∃ n, (r.state n s).Done (r.state n !s) := by
  by_contra never
  have undone : ∀ n, ¬ (r.state n s).Done (r.state n !s) := fun n done => never ⟨n, done⟩
  have coming : ∀ n, ¬ (r.state n s).Coming (H.prove keys !s) (r.state n !s) := fun n coming =>
    never (r.done_of_coming injective reads sound idle coming)
  have always : ∀ n, (r.state n s).Announces (H.prove keys !s) (r.state n !s) := by
    intro n
    induction n with
    | zero => exact announces
    | succ n ih =>
      have kept := r.kept injective reads sound idle n
      have sizedA := kept.sound.sized s _ (kept.sound.current s)
      have sizedB := kept.sound.sized (!s) _ (kept.sound.current !s)
      refine (((r.step n).move reads kept.sound s).announces
        (fun own peer => Hashes.prove_comm keys s own peer) (fun peer stored same => ?_)
        (kept.fresh s) ih).resolve_right (not_or.mpr ⟨coming _, undone _⟩)
      -- Equal proofs are about equal contributions.
      rw [Hashes.prove_comm keys s] at same
      rcases Hashes.prove_injective injective (sizedA.2 peer stored) sizedA.1 sizedB.1 sizedA.1 same
        with ⟨it, _⟩ | ⟨first, second⟩
      · exact it
      · rw [first, second]
  obtain ⟨m, _, confirmed | speaks⟩ := r.announces (!s) 0
  · exact absurd confirmed (by simp [(always m).2.1])
  · have lives := r.step m
    rw [speaks] at lives
    obtain ⟨made, _⟩ := lives
    refine coming (m + 1) ?_
    rw [show r.state (m + 1) = _ from made, Function.update_self, Function.update_of_ne (by simp)]
    exact Move.announced (always m).1

/-- A side the other one would answer gets its proof, unless both are confirmed at some moment. -/
theorem done_of_answers {s : Bool}
    (apart : ∀ n, ¬ ((r.state n s).pair.peerConfirmed = true ∧ (r.state n !s).pair.peerConfirmed = true))
    (answers : (r.state 0 s).Answers (H.prove keys !s) (r.state 0 !s)) :
    ∃ n, (r.state n s).Done (r.state n !s) := by
  by_contra never
  have undone : ∀ n, ¬ (r.state n s).Done (r.state n !s) := fun n done => never ⟨n, done⟩
  have coming : ∀ n, ¬ (r.state n s).Coming (H.prove keys !s) (r.state n !s) := fun n coming =>
    never (r.done_of_coming injective reads sound idle coming)
  have always : ∀ n, (r.state n s).Answers (H.prove keys !s) (r.state n !s) := by
    intro n
    induction n with
    | zero => exact answers
    | succ n ih =>
      have kept := r.kept injective reads sound idle n
      exact (((r.step n).move reads kept.sound s).answers
        (fun own peer => Hashes.prove_comm keys s own peer) (kept.fresh s) ih).resolve_right
        (not_or.mpr ⟨coming _, undone _⟩)
  -- No frame of this side is ever delivered, so it never sends one.
  have mute : ∀ n frame depth, (frame, depth) ∉ (r.state n s).flying := by
    intro n frame depth flies
    obtain ⟨m, _, replied, again, heard⟩ := r.delivers (!s) n frame depth (by rwa [Bool.not_not])
    have lives := r.step m
    rw [heard] at lives
    obtain ⟨arrives, own, other⟩ := Joint.deliver_eq lives
    rw [Bool.not_not] at arrives other
    have kept := r.kept injective reads sound idle m
    refine coming (m + 1) ?_
    rw [own, other]
    exact Move.answered (kept.fresh s) arrives (always m) _ rfl
  -- So it never announces: whenever it is its turn, it is confirmed.
  have confirmed : ∀ n, ∃ m, n ≤ m ∧ (r.state m s).pair.peerConfirmed = true := by
    intro n
    obtain ⟨m, later, confirmed | speaks⟩ := r.announces s n
    · exact ⟨m, later, confirmed⟩
    · have lives := r.step m
      rw [speaks] at lives
      obtain ⟨made, _⟩ := lives
      refine absurd ?_ (mute (m + 1) ((r.state m s).pair.payload (H.prove keys s)) 0)
      rw [show r.state (m + 1) = _ from made, Function.update_self]
      exact List.mem_cons_self
  -- The other side is not, from some moment on, for it hears nothing.
  obtain ⟨first, _, here⟩ := confirmed 0
  have silent : ∀ n, first ≤ n → (r.state n !s).pair.peerConfirmed = false := by
    intro n later
    induction n, later using Nat.le_induction with
    | base => simpa using fun there => apart first ⟨here, there⟩
    | succ n _ ih =>
      refine r.unconfirmed_step injective reads sound idle ih (fun frame depth => ?_)
      rw [Bool.not_not]
      exact mute n frame depth
  -- It announces, and this side hears it; it then knows the other's contribution for good.
  obtain ⟨m, later, there | speaks⟩ := r.announces (!s) first
  · exact absurd there (by simp [silent m later])
  · have lives := r.step m
    rw [speaks] at lives
    obtain ⟨made, _⟩ := lives
    obtain ⟨k, _, replied, again, heard⟩ := r.delivers s (m + 1)
      ((r.state m !s).pair.payload (H.prove keys !s)) 0 (by
        rw [show r.state (m + 1) = _ from made, Function.update_self]
        exact List.mem_cons_self)
    have lives := r.step k
    rw [heard] at lives
    obtain ⟨_, own, _⟩ := Joint.deliver_eq lives
    have kept := r.kept injective reads sound idle m
    have knows : (r.state (k + 1) s).pair.peer = some (w !s).pair.own := by
      rw [own, (respond_spec _ _ _ _).2.1]
      exact congrArg some (kept.own !s)
    obtain ⟨last, after, confirmed⟩ := confirmed (k + 1)
    refine undone last ⟨confirmed, ?_⟩
    rw [(r.kept injective reads sound idle last).own !s]
    exact r.knows_mono injective reads sound idle after knows

end FairRun

namespace Joint

variable {H : Hashes} {keys : Bool → String} {w : Joint}

/-- A side that no frame will confirm: it knows a contribution of the other side, which knows its
own, has told it a proof, and is confirmed or will be by this side's next frame. -/
def Stuck (w : Joint) (s : Bool) : Prop :=
  (w s).pair.peerConfirmed = false ∧ (w s).pair.peer.isSome = true
    ∧ (w !s).pair.peer = some (w s).pair.own ∧ (w !s).pair.confirmSent = true
    ∧ ((w !s).pair.peerConfirmed = true ∨ (w s).pair.peer = some (w !s).pair.own)

/-- Where nothing is stuck, a side gets its proof, unless both are confirmed at some moment. -/
theorem done_of_not_stuck (injective : H.Injective) (reads : H.Reads) (sound : w.Sound H keys)
    (idle : ∀ s, (w s).flying = []) (r : FairRun H keys w) {s : Bool} (free : ¬ w.Stuck s)
    (apart : ∀ n, ¬ ((r.state n s).pair.peerConfirmed = true
      ∧ (r.state n !s).pair.peerConfirmed = true)) :
    ∃ n, (r.state n s).Done (r.state n !s) := by
  have first := apart 0
  rw [r.start] at first
  by_cases knows : (w !s).pair.peer = some (w s).pair.own
  · by_cases told : (w !s).pair.confirmSent = true
    · by_cases blank : (w s).pair.peer = none
      · refine r.done_of_answers injective reads sound idle apart ?_
        rw [r.start]
        exact .inr (.inr ⟨knows, blank, by simp [idle], by simp [idle]⟩)
      · -- Told and asked with a proof, the other side does not answer; it may announce.
        by_cases current : (w s).pair.peer = some (w !s).pair.own
        · refine ⟨0, ?_⟩
          rw [r.start]
          refine ⟨?_, current⟩
          by_contra unconfirmed
          exact free ⟨by simpa using unconfirmed, Option.isSome_iff_ne_none.mpr blank, knows, told,
            .inr current⟩
        · refine r.done_of_announces injective reads sound idle ?_
          rw [r.start]
          refine ⟨knows, ?_, current, by simp [idle], by simp [idle]⟩
          by_contra confirmed
          have confirmed : (w !s).pair.peerConfirmed = true := by simpa using confirmed
          exact free ⟨by simpa using fun here => first ⟨here, confirmed⟩,
            Option.isSome_iff_ne_none.mpr blank, knows, told, .inl confirmed⟩
    · refine r.done_of_answers injective reads sound idle apart ?_
      rw [r.start]
      exact .inr (.inl ⟨knows, by simpa using told⟩)
  · refine r.done_of_answers injective reads sound idle apart ?_
    rw [r.start]
    exact .inl knows

/-- One side announces. -/
def speak (H : Hashes) (keys : Bool → String) (s : Bool) (w : Joint) : Joint :=
  Function.update w s ((w s).send (H.prove keys s) 0)

/-- One side announces and the other hears it, without a reply. -/
def round (H : Hashes) (keys : Bool → String) (s : Bool) (w : Joint) : Joint :=
  Function.update ((speak H keys s w).without s ((w s).pair.payload (H.prove keys s)) 0) (!s)
    ((w !s).hear (H.prove keys !s) ((w s).pair.payload (H.prove keys s)))

/-- A side is stuck and nothing is on its way. -/
def Dead (s : Bool) (w : Joint) : Prop := w.Stuck s ∧ ∀ t, (w t).flying = []

/-- What a round leaves of a stuck side and the other one. -/
theorem round_spec (H : Hashes) (keys : Bool → String) (s : Bool) (w : Joint) :
    (round H keys s w s).pair = (w s).pair.told (H.prove keys s)
      ∧ ((w s).flying = [] → (round H keys s w s).flying = [])
      ∧ (round H keys s w !s).pair
          = (w !s).pair.hears (H.prove keys !s) ((w s).pair.payload (H.prove keys s))
      ∧ (round H keys s w !s).flying = (w !s).flying := by
  have apart : s ≠ !s := by simp
  unfold round speak without
  rw [Function.update_of_ne apart, Function.update_self, Function.update_self, Function.update_self]
  exact ⟨rfl, fun idle => by simp [Party.send, idle], rfl, rfl⟩

/-- A stuck side stays stuck after a round, and the other side is confirmed. -/
theorem Dead.kept {s : Bool} (dead : w.Dead s) :
    (w.round H keys s).Dead s ∧ (w.round H keys s !s).pair.peerConfirmed = true := by
  obtain ⟨⟨unconfirmed, some', knows, told, other⟩, idle⟩ := dead
  obtain ⟨mine, mineIdle, theirs, theirsIdle⟩ := round_spec H keys s w
  have stored := MailboxPair.hears_contributions (H.prove keys !s) (w !s).pair
    ((w s).pair.payload (H.prove keys s))
  have sent : ((w !s).pair.hears _ _).confirmSent = _ :=
    MailboxPair.hears_sent (H.prove keys !s) (w !s).pair ((w s).pair.payload (H.prove keys s))
  have confirmed : (w.round H keys s !s).pair.peerConfirmed = true := by
    rw [theirs, MailboxPair.hears_confirmed]
    -- It was confirmed already, or this side's frame proves its contribution.
    rcases other with before | current
    · exact .inr ⟨before, knows⟩
    · left
      show (w s).pair.peer.map _ = some _
      rw [current, Option.map_some, Hashes.prove_comm keys s]
      rfl
  refine ⟨⟨⟨?_, ?_, ?_, ?_, .inl confirmed⟩, fun t => ?_⟩, confirmed⟩
  · rw [mine]
    exact unconfirmed
  · rw [mine]
    exact some'
  · rw [theirs, mine, stored.2]
    rfl
  · rw [theirs, sent, told, knows]
    simp [MailboxPair.payload]
  · by_cases same : t = s
    · rw [same]
      exact mineIdle (idle s)
    · rw [eq_other same, theirsIdle]
      exact idle !s

/-- Rounds for ever: a stuck side announces, and nobody replies. -/
def lonely (H : Hashes) (keys : Bool → String) (s : Bool) (w : Joint) (n : Nat) : Joint :=
  if n % 2 = 0 then (round H keys s)^[n / 2] w else speak H keys s ((round H keys s)^[n / 2] w)

/-- Every round leaves the side stuck. -/
theorem Dead.iterate {s : Bool} (dead : w.Dead s) (n : Nat) : ((round H keys s)^[n] w).Dead s := by
  induction n with
  | zero => exact dead
  | succ n ih =>
    rw [Function.iterate_succ_apply']
    exact ih.kept.1

/-- A stuck side that announces for ever makes a fair run. -/
def Dead.run {s : Bool} (dead : w.Dead s) : FairRun H keys w where
  state := lonely H keys s w
  event n :=
    if n % 2 = 0 then .announce s
    else .deliver (!s) ((((round H keys s)^[n / 2] w) s).pair.payload (H.prove keys s)) 0 false false
  start := rfl
  step n := by
    have here : ((round H keys s)^[n / 2] w).Dead s := dead.iterate (n / 2)
    obtain ⟨⟨unconfirmed, some', knows, told, _⟩, idle⟩ := here
    rcases Nat.mod_two_eq_zero_or_one n with even | odd
    · have next : (n + 1) % 2 = 1 ∧ (n + 1) / 2 = n / 2 := by omega
      simp only [lonely, even, next, if_true, Nat.one_ne_zero, if_false]
      exact ⟨rfl, unconfirmed⟩
    · have next : (n + 1) % 2 = 0 ∧ (n + 1) / 2 = n / 2 + 1 := by omega
      simp only [lonely, odd, next, if_true, Nat.one_ne_zero, if_false, Function.iterate_succ_apply']
      generalize (round H keys s)^[n / 2] w = v at *
      have apart : (!s) ≠ s := by simp
      have there : speak H keys s v (!s) = v !s := Function.update_of_ne apart _ _
      -- The other side knows the contribution, has told its proof, and is not asked for it.
      have deaf : (((speak H keys s v) !s).hear (H.prove keys !s)
          ((v s).pair.payload (H.prove keys s))).pair.answers
            ((v s).pair.payload (H.prove keys s)) = false := by
        rw [there, ← Bool.not_eq_true, Party.answers_iff, not_or, not_not]
        refine ⟨?_, told, knows⟩
        intro proofless
        have proofless : (v s).pair.peer.map _ = none := proofless
        rw [Option.map_eq_none_iff] at proofless
        rw [proofless] at some'
        cases some'
      refine ⟨⟨?_, by simp, ?_⟩, rfl, deaf.symm⟩
      · rw [Bool.not_not]
        show _ ∈ (Function.update v s _ s).flying
        rw [Function.update_self]
        exact List.mem_cons_self
      · rw [there, Bool.not_not]
        rfl
  announces t n := by
    by_cases same : t = s
    · subst same
      exact ⟨2 * n, by omega, .inr (if_pos (by omega))⟩
    · obtain rfl := eq_other same
      refine ⟨2 * (n + 1), by omega, .inl ?_⟩
      have even : 2 * (n + 1) % 2 = 0 ∧ 2 * (n + 1) / 2 = n + 1 := by omega
      simp only [lonely, even, if_true, Function.iterate_succ_apply']
      exact (dead.iterate n).kept.2
  delivers t n frame depth flies := by
    have here : ((round H keys s)^[n / 2] w).Dead s := dead.iterate (n / 2)
    rcases Nat.mod_two_eq_zero_or_one n with even | odd
    · simp only [lonely, even, if_true, here.2] at flies
      exact absurd flies List.not_mem_nil
    · simp only [lonely, odd, Nat.one_ne_zero, if_false, speak] at flies
      by_cases same : (!t) = s
      · subst same
        rw [Function.update_self] at flies
        rw [(Party.send_spec _ _ _).2.2.2, here.2] at flies
        cases List.mem_singleton.mp flies
        refine ⟨n, le_rfl, false, false, ?_⟩
        simp only [odd, Nat.one_ne_zero, if_false, Bool.not_not]
        rfl
      · rw [Function.update_of_ne same, here.2] at flies
        exact absurd flies List.not_mem_nil

/-- In that run the stuck side is never confirmed. -/
theorem Dead.never {s : Bool} (dead : w.Dead s) (n : Nat) :
    ((dead.run : FairRun H keys w).state n s).pair.peerConfirmed = false := by
  have here : ((round H keys s)^[n / 2] w).Dead s := dead.iterate (n / 2)
  show (lonely H keys s w n s).pair.peerConfirmed = false
  unfold lonely
  split
  · exact here.1.1
  · unfold speak
    rw [Function.update_self]
    exact here.1.1

end Joint

/-- From a reached state with no frame on its way, every fair run makes both sides confirmed exactly
when no side is stuck. -/
theorem agreement_heals_iff {H : Hashes} (injective : H.Injective) (reads : H.Reads)
    {keys : Bool → String} {pairs : Bool → MailboxPair} (fresh : StartsFresh pairs) {w : Joint}
    (run : Reach (Joint.start pairs) (Joint.Step H keys) w) (idle : ∀ s, (w s).flying = []) :
    (∀ r : FairRun H keys w, ∃ n, ∀ s, (r.state n s).pair.peerConfirmed = true)
      ↔ ∀ s, ¬ w.Stuck s := by
  have sound := Joint.Sound.reached injective reads fresh run
  constructor
  · intro heals s stuck
    have dead : w.Dead s := ⟨stuck, idle⟩
    obtain ⟨n, confirmed⟩ := heals dead.run
    exact absurd (confirmed s) (by simp [dead.never n])
  · intro free r
    by_contra never
    have apart : ∀ s n, ¬ ((r.state n s).pair.peerConfirmed = true
        ∧ (r.state n !s).pair.peerConfirmed = true) := by
      intro s n both
      refine never ⟨n, fun t => ?_⟩
      by_cases same : t = s
      · exact same ▸ both.1
      · rw [eq_other same]
        exact both.2
    -- Each side gets its proof at some moment, and both are confirmed at the later one.
    obtain ⟨n, done⟩ := Joint.done_of_not_stuck injective reads sound idle r (free true) (apart true)
    obtain ⟨m, back⟩ := Joint.done_of_not_stuck injective reads sound idle r (free false) (apart false)
    exact apart true (max n m)
      ⟨(r.done_mono injective reads sound idle (le_max_left n m) done).1,
        (r.done_mono injective reads sound idle (le_max_right n m) back).1⟩

namespace Symbolic

/-- Two fresh contributions, told apart by their first byte. -/
def freshPairs (s : Bool) : MailboxPair := { own := (if s then 1 else 2) :: List.replicate 31 0 }

theorem freshPairs_fresh : StartsFresh freshPairs :=
  ⟨fun s => by cases s <;> decide, .inl fun s => rfl⟩

/-- Who the two sides are. -/
def names (s : Bool) : String := if s then "me" else "them"

/-- The first announcement. -/
def announced : KeyFrame := (freshPairs true).payload (hashes.prove names true)

/-- The reply to it, with a proof. -/
def replied : KeyFrame :=
  ((freshPairs false).hears (hashes.prove names false) announced).payload (hashes.prove names false)

/-- The reply to that, with the other proof. -/
def confirmed : KeyFrame :=
  ((freshPairs true).hears (hashes.prove names true) replied).payload (hashes.prove names true)

/-- After the announcement. -/
def afterAnnounced : Joint := (Joint.start freshPairs).speak hashes names true

/-- After the reply. -/
def afterReplied : Joint :=
  Function.update (afterAnnounced.without true announced 0) false
    (((afterAnnounced false).hear (hashes.prove names false) announced).send
      (hashes.prove names false) 1)

/-- After the reply to the reply. -/
def afterConfirmed : Joint :=
  Function.update (afterReplied.without false replied 1) true
    (((afterReplied true).hear (hashes.prove names true) replied).send (hashes.prove names true) 2)

/-- The last frame is lost. -/
def lost : Joint := afterConfirmed.without true confirmed 2

theorem lost_reached : Reach (Joint.start freshPairs) (Joint.Step hashes names) lost := by
  have first : Reach (Joint.start freshPairs) (Joint.Step hashes names) afterAnnounced :=
    .step (.announce true) .start rfl
  have second : Reach (Joint.start freshPairs) (Joint.Step hashes names) afterReplied :=
    .step (.deliver false announced 0 true false) first
      ⟨by decide +kernel, fun _ => by decide +kernel, rfl⟩
  have third : Reach (Joint.start freshPairs) (Joint.Step hashes names) afterConfirmed :=
    .step (.deliver true replied 1 true false) second
      ⟨by decide +kernel, fun _ => by decide +kernel, rfl⟩
  exact .step (.lose true confirmed 2) third rfl

theorem lost_idle (s : Bool) : (lost s).flying = [] := by
  cases s <;> decide +kernel

theorem lost_stuck : lost.Stuck false :=
  ⟨by decide +kernel, by decide +kernel, by decide +kernel, by decide +kernel,
    .inl (by decide +kernel)⟩

end Symbolic

/-- Two sides that never heard of each other agree in every fair run. -/
theorem fresh_agreement_heals :
    ¬ ∃ r : FairRun Symbolic.hashes Symbolic.names (Joint.start Symbolic.freshPairs),
      ∀ n, ¬ ∀ s, (r.state n s).pair.peerConfirmed = true := by
  rintro ⟨r, never⟩
  have reached : Reach (Joint.start Symbolic.freshPairs)
      (Joint.Step Symbolic.hashes Symbolic.names) (Joint.start Symbolic.freshPairs) := .start
  obtain ⟨n, both⟩ := (agreement_heals_iff Symbolic.hashes_injective Symbolic.hashes_reads
    Symbolic.freshPairs_fresh reached (fun _ => rfl)).mpr
    (fun _ stuck => absurd stuck.2.1 (by simp [Joint.start, Symbolic.freshPairs])) r
  exact never n both

/-- The last frame of the agreement is lost: one side is confirmed and falls silent, and the other
announces for ever. -/
theorem lost_confirmation_never_heals :
    ∃ w, Reach (Joint.start Symbolic.freshPairs) (Joint.Step Symbolic.hashes Symbolic.names) w
      ∧ (∀ s, (w s).flying = [])
      ∧ ∃ r : FairRun Symbolic.hashes Symbolic.names w,
          ∀ n, ¬ ∀ s, (r.state n s).pair.peerConfirmed = true :=
  have dead : Symbolic.lost.Dead false := ⟨Symbolic.lost_stuck, Symbolic.lost_idle⟩
  ⟨Symbolic.lost, Symbolic.lost_reached, Symbolic.lost_idle, dead.run,
    fun n both => absurd (both false) (by simp [dead.never n])⟩

end Nightdrop
