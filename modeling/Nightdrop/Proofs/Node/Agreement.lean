import Nightdrop.Node.Agreement
import Nightdrop.Proofs.Node.Polling

/-! The agreement on a pair's mailbox never confirms a secret the other side did not hold. -/

namespace Nightdrop

/-- A side that is not one is the other. -/
theorem eq_other {s t : Bool} (apart : t ≠ s) : t = !s := by
  cases s <;> cases t <;> first | rfl | exact absurd rfl apart

/-- A contribution and its key frame are 32-byte values. -/
def MailboxPair.Sized (pair : MailboxPair) : Prop :=
  pair.own.length = 32 ∧ ∀ peer, pair.peer = some peer → peer.length = 32

/-- Nothing is confirmed or told without the contribution it is about. -/
def MailboxPair.Backed (pair : MailboxPair) : Prop :=
  (pair.peerConfirmed = true → pair.peer.isSome = true)
    ∧ (pair.confirmSent = true → pair.peer.isSome = true)

namespace Hashes

variable {H : Hashes}

/-- The hash functions keep different inputs apart. -/
structure Injective (H : Hashes) : Prop where
  derive : ∀ salt label, Function.Injective (fun key => H.derive salt key label)
  sha256 : Function.Injective H.sha256

/-- The base64 of a handle can be read back. -/
def Reads (H : Hashes) : Prop := ∀ bytes, H.unbase64Handle (H.base64Handle bytes) = some bytes

/-- Both sides compute one confirmation from the same contributions. -/
theorem prove_comm (keys : Bool → String) (s : Bool) (own peer : Bytes) :
    H.prove keys s own peer = H.prove keys (!s) peer own := by
  unfold prove
  rw [pairSecret_comm, Bool.not_not]

/-- Two values in order are the same two values. -/
theorem ordered_eq {α : Type} [LE α] [DecidableLE α] {a b c d : α}
    (same : ordered a b = ordered c d) : (a = c ∧ b = d) ∨ (a = d ∧ b = c) := by
  unfold ordered at same
  split at same <;> split at same <;> cases same <;> simp

/-- Equal secrets come from equal contributions, in either order. -/
theorem pairSecret_injective (injective : H.Injective) {me them : String} {own peer own' peer' : Bytes}
    (sized : own.length = 32) (sizedPeer : peer.length = 32) (sized' : own'.length = 32)
    (sizedPeer' : peer'.length = 32)
    (same : H.pairSecret me them own peer = H.pairSecret me them own' peer') :
    (own = own' ∧ peer = peer') ∨ (own = peer' ∧ peer = own') := by
  have keyed := injective.derive _ _ same
  -- Both keys are two 32-byte values one after the other.
  have first : (ordered own peer).1.length = (ordered own' peer').1.length := by
    unfold ordered
    split <;> split <;> simp only [] <;> omega
  obtain ⟨low, high⟩ := List.append_inj keyed first
  exact ordered_eq (Prod.ext low high)

/-- A confirmation that matches is about the same contributions. -/
theorem prove_injective (injective : H.Injective) {keys : Bool → String} {s : Bool}
    {own peer own' peer' : Bytes} (sized : own.length = 32) (sizedPeer : peer.length = 32)
    (sized' : own'.length = 32) (sizedPeer' : peer'.length = 32)
    (same : H.prove keys s own peer = H.prove keys s own' peer') :
    (own = own' ∧ peer = peer') ∨ (own = peer' ∧ peer = own') := by
  have secret := List.append_cancel_left (injective.sha256 same)
  exact pairSecret_injective injective sized sizedPeer sized' sizedPeer' secret

end Hashes

namespace MailboxPair

variable {H : Hashes} {prove : Bytes → Bytes → Bytes} {pair : MailboxPair} {frame : KeyFrame}

/-- Hearing a frame leaves the own contribution and stores theirs. -/
theorem hears_contributions (prove : Bytes → Bytes → Bytes) (pair : MailboxPair) (frame : KeyFrame) :
    (pair.hears prove frame).own = pair.own
    ∧ (pair.hears prove frame).peer = some frame.1 := by
  unfold hears heard
  grind

/-- A frame with another contribution undoes the confirmation; only its own proof makes a new one. -/
theorem hears_changed (changed : pair.peer ≠ some frame.1) :
    ((pair.hears prove frame).peerConfirmed = true ↔ frame.2 = some (prove pair.own frame.1))
      ∧ (pair.hears prove frame).confirmSent = false := by
  unfold hears heard
  rw [if_neg changed]
  grind

/-- A frame undoes what was told only by carrying another contribution. -/
theorem hears_sent (prove : Bytes → Bytes → Bytes) (pair : MailboxPair) (frame : KeyFrame) :
    (pair.hears prove frame).confirmSent = (pair.confirmSent && pair.peer = some frame.1) := by
  unfold hears heard
  grind

/-- A confirmation after a frame was there before it, or is the frame's. -/
theorem hears_confirmed (prove : Bytes → Bytes → Bytes) (pair : MailboxPair) (frame : KeyFrame) :
    (pair.hears prove frame).peerConfirmed = true
    ↔ frame.2 = some (prove pair.own frame.1)
      ∨ (pair.peerConfirmed = true ∧ pair.peer = some frame.1) := by
  unfold hears heard
  grind

/-- A restart gives the agreement back as it was saved. -/
theorem fromPersisted_toPersisted (reads : H.Reads) (sized : pair.Sized) (backed : pair.Backed) :
    fromPersisted H (toPersisted H (some pair)) = some pair := by
  obtain ⟨own, peer, confirmed, sent, announcedAt⟩ := pair
  have unread : ∀ bytes : Bytes, bytes.length = 32 → unb64 H (H.base64Handle bytes) = some bytes := by
    intro bytes length
    unfold unb64
    rw [reads bytes]
    simp [length]
  have first := unread own sized.1
  cases peer with
  | none =>
    have unconfirmed : confirmed = false := by simpa [Backed] using backed.1
    have untold : sent = false := by simpa [Backed] using backed.2
    simp [fromPersisted, toPersisted, first, unconfirmed, untold]
  | some peer =>
    simp [fromPersisted, toPersisted, first, unread peer (sized.2 peer rfl)]

/-- No saved state is read back as confirmed without a contribution of theirs. -/
theorem fromPersisted_backed
    {fields : Option String × Option String × Bool × Bool × Option Nat}
    (restored : fromPersisted H fields = some pair) : pair.Backed := by
  obtain ⟨own, peer, confirmed, sent, announcedAt⟩ := fields
  obtain ⟨own, _, rfl⟩ := Option.map_eq_some_iff.mp restored
  constructor <;> simp +contextual

end MailboxPair

/-- Both sides start with a contribution of their own, or with the seed of their pairing. -/
def StartsFresh (pairs : Bool → MailboxPair) : Prop :=
  (∀ s, (pairs s).own.length = 32)
    ∧ ((∀ s, pairs s = { own := (pairs s).own }) ∨ ∃ seed, ∀ s, pairs s = .seeded seed)

namespace Joint

variable {H : Hashes} {keys : Bool → String} {w w' : Joint}

/-- What every step of an agreement keeps. -/
structure Sound (H : Hashes) (keys : Bool → String) (w : Joint) : Prop where
  sized : ∀ s, ∀ q ∈ (w s).held, q.Sized
  current : ∀ s, (w s).pair ∈ (w s).held
  backed : ∀ s, (w s).pair.Backed
  flying : ∀ s, ∀ f ∈ (w s).flying, ∃ q ∈ (w s).held, f.1 = q.payload (H.prove keys s)
  /-- A confirmed side's two contributions were once the other side's, the other way round. -/
  proven : ∀ s, (w s).pair.peerConfirmed = true →
    ∃ q ∈ (w !s).held, (w s).pair.peer = some q.own ∧ q.peer = some (w s).pair.own

/-- One side may change as long as it forgets no state and stays sound itself. -/
theorem Sound.update (sound : w.Sound H keys) {s : Bool} {side : Party}
    (grows : ∀ q ∈ (w s).held, q ∈ side.held) (sized : ∀ q ∈ side.held, q.Sized)
    (current : side.pair ∈ side.held) (backed : side.pair.Backed)
    (flying : ∀ f ∈ side.flying, ∃ q ∈ side.held, f.1 = q.payload (H.prove keys s))
    (proven : side.pair.peerConfirmed = true →
      ∃ q ∈ (w !s).held, side.pair.peer = some q.own ∧ q.peer = some side.pair.own) :
    Sound H keys (Function.update w s side) := by
  have other : ∀ t, t ≠ s → Function.update w s side t = w t := fun t apart =>
    Function.update_of_ne apart _ _
  constructor
  all_goals
    intro t
    rcases eq_or_ne t s with rfl | apart
  · simpa using sized
  · simpa [other t apart] using sound.sized t
  · simpa using current
  · simpa [other t apart] using sound.current t
  · simpa using backed
  · simpa [other t apart] using sound.backed t
  · simpa using flying
  · simpa [other t apart] using sound.flying t
  · rw [Function.update_self, other (!t) (by simp)]
    exact proven
  · obtain rfl := eq_other apart.symm
    rw [other t apart, Function.update_self]
    intro confirmed
    obtain ⟨q, held, mirrored⟩ := sound.proven t confirmed
    exact ⟨q, grows q held, mirrored⟩

/-- Sealing a frame keeps both sides sound. -/
theorem Sound.send (sound : w.Sound H keys) (s : Bool) (depth : Nat) :
    Sound H keys (Function.update w s ((w s).send (H.prove keys s) depth)) := by
  have backed := sound.backed s
  have told : (w s).pair.told (H.prove keys s) ∈ ((w s).send (H.prove keys s) depth).held :=
    List.mem_cons_self
  refine sound.update (fun q held => List.mem_cons_of_mem _ held) (fun q held => ?_) told ?_
    (fun f out => ?_) (fun confirmed => ?_)
  · rcases List.mem_cons.mp held with rfl | held
    · have same : (w s).pair.Sized := sound.sized s _ (sound.current s)
      exact same
    · exact sound.sized s q held
  · refine ⟨backed.1, fun sent => ?_⟩
    -- The frame carries a confirmation only when their contribution is known.
    have sent : ((w s).pair.confirmSent || ((w s).pair.peer.map _).isSome) = true := sent
    rcases Bool.or_eq_true_iff.mp sent with before | now
    · exact backed.2 before
    · have known : (w s).pair.peer.isSome = true := by simpa using now
      exact known
  · rcases List.mem_cons.mp out with rfl | out
    · exact ⟨_, List.mem_cons_of_mem _ (sound.current s), rfl⟩
    · obtain ⟨q, held, made⟩ := sound.flying s f out
      exact ⟨q, List.mem_cons_of_mem _ held, made⟩
  · exact sound.proven s confirmed

/-- Hearing a frame of the other side keeps both sides sound. -/
theorem Sound.hear (injective : H.Injective) (sound : w.Sound H keys) (s : Bool) {frame : KeyFrame}
    {depth : Nat} (arrives : (frame, depth) ∈ (w !s).flying) :
    Sound H keys (Function.update w s ((w s).hear (H.prove keys s) frame)) := by
  obtain ⟨q, sender, rfl⟩ := sound.flying (!s) _ arrives
  have theirs := sound.sized (!s) q sender
  have ours := sound.sized s _ (sound.current s)
  have stored := MailboxPair.hears_contributions (H.prove keys s) (w s).pair
    (q.payload (H.prove keys !s))
  refine sound.update (fun q held => List.mem_cons_of_mem _ held) (fun p held => ?_)
    List.mem_cons_self ⟨fun _ => ?_, fun _ => ?_⟩ (fun f out => ?_) (fun confirmed => ?_)
  · rcases List.mem_cons.mp held with rfl | held
    · exact ⟨stored.1 ▸ ours.1, fun peer known => by
        rw [stored.2] at known
        cases known
        exact theirs.1⟩
    · exact sound.sized s p held
  · exact Option.isSome_of_eq_some stored.2
  · exact Option.isSome_of_eq_some stored.2
  · obtain ⟨p, held, made⟩ := sound.flying s f out
    exact ⟨p, List.mem_cons_of_mem _ held, made⟩
  · show ∃ p ∈ (w !s).held, ((w s).pair.hears _ _).peer = some p.own
      ∧ p.peer = some ((w s).pair.hears _ _).own
    rw [stored.1, stored.2]
    rcases (MailboxPair.hears_confirmed _ _ _).mp confirmed with proof | ⟨before, same⟩
    · -- The frame's proof was computed from our contribution.
      obtain ⟨peer, known, same⟩ := Option.map_eq_some_iff.mp proof
      rw [Hashes.prove_comm keys s] at same
      refine ⟨q, sender, rfl, known.trans ?_⟩
      rcases Hashes.prove_injective injective theirs.1 (theirs.2 peer known) theirs.1 ours.1 same
        with ⟨_, rfl⟩ | ⟨first, second⟩
      · rfl
      · rw [second, first]
    · obtain ⟨p, held, mirrored⟩ := sound.proven s before
      exact ⟨p, held, same ▸ mirrored.1, mirrored.2⟩

/-- Frames that get lost change nothing else. -/
theorem Sound.without (sound : w.Sound H keys) (s : Bool) (frame : KeyFrame) (depth : Nat) :
    Sound H keys (w.without s frame depth) :=
  sound.update (fun _ held => held) (sound.sized s) (sound.current s) (sound.backed s)
    (fun f out => sound.flying s f (List.mem_of_mem_erase out)) (sound.proven s)

/-- Every step of an agreement keeps both sides sound. -/
theorem Sound.step (injective : H.Injective) (reads : H.Reads) (sound : w.Sound H keys)
    {event : AgreeEvent} (taken : w.Step H keys event w') : w'.Sound H keys := by
  cases event with
  | announce s =>
    cases taken
    exact sound.send s 0
  | deliver s frame depth replied again =>
    obtain ⟨arrives, _, rfl⟩ := taken
    -- The frame leaves its sender, is heard, and perhaps answered.
    have left : Sound H keys (if again then w else w.without (!s) frame depth) := by
      split
      · exact sound
      · exact sound.without (!s) frame depth
    have same : (if again then w else w.without (!s) frame depth) s = w s := by
      split
      · rfl
      · exact Function.update_of_ne (by simp) _ _
    have heard : Sound H keys (Function.update (if again then w else w.without (!s) frame depth) s
        ((w s).hear (H.prove keys s) frame)) := by
      have first := sound.hear injective s arrives
      refine left.update ?_ ?_ ?_ ?_ ?_ ?_
      · rw [same]
        exact fun q held => List.mem_cons_of_mem _ held
      · simpa using first.sized s
      · simpa using first.current s
      · simpa using first.backed s
      · simpa using first.flying s
      · have proven := first.proven s
        simp only [Function.update_self, Function.update_of_ne (show (!s) ≠ s by simp)] at proven
        intro confirmed
        obtain ⟨q, held, mirrored⟩ := proven confirmed
        refine ⟨q, ?_, mirrored⟩
        split
        · exact held
        · simpa [Joint.without] using held
    cases replied with
    | false => simpa using heard
    | true => simpa using heard.send s (depth + 1)
  | lose s frame depth =>
    cases taken
    exact sound.without s frame depth
  | restart s =>
    obtain ⟨pair, saved, rfl⟩ := taken
    rw [MailboxPair.fromPersisted_toPersisted reads (sound.sized s _ (sound.current s))
      (sound.backed s)] at saved
    cases saved
    refine sound.update (fun q held => List.mem_cons_of_mem _ held) (fun q held => ?_)
      List.mem_cons_self (sound.backed s) (fun f out => ?_) (sound.proven s)
    · rcases List.mem_cons.mp held with rfl | held
      · exact sound.sized s _ (sound.current s)
      · exact sound.sized s q held
    · obtain ⟨q, held, made⟩ := sound.flying s f out
      exact ⟨q, List.mem_cons_of_mem _ held, made⟩
  | change s own =>
    obtain ⟨sized, rfl⟩ := taken
    refine sound.update (fun q held => List.mem_cons_of_mem _ held) (fun q held => ?_)
      List.mem_cons_self ⟨by simp [Party.become], by simp [Party.become]⟩ (fun f out => ?_)
      (by simp [Party.become])
    · rcases List.mem_cons.mp held with rfl | held
      · exact ⟨sized, by simp⟩
      · exact sound.sized s q held
    · obtain ⟨q, held, made⟩ := sound.flying s f out
      exact ⟨q, List.mem_cons_of_mem _ held, made⟩

/-- Both ways to start are sound. -/
theorem Sound.start {pairs : Bool → MailboxPair} (fresh : StartsFresh pairs) :
    Sound H keys (Joint.start pairs) := by
  obtain ⟨sized, alone | ⟨seed, seeded⟩⟩ := fresh
  · constructor <;> intro s
    · intro q held
      cases List.mem_singleton.mp held
      exact ⟨sized s, by rw [alone s]; simp⟩
    · exact List.mem_singleton_self _
    · constructor <;> (rw [show (Joint.start pairs s).pair = _ from alone s]; simp)
    · exact fun f out => absurd out List.not_mem_nil
    · rw [show (Joint.start pairs s).pair = _ from alone s]
      simp
  · have whole : ∀ s, (Joint.start pairs s).pair = .seeded seed := seeded
    constructor <;> intro s
    · intro q held
      cases List.mem_singleton.mp held
      have length := sized s
      rw [seeded s] at length ⊢
      exact ⟨length, fun peer known => by cases known; exact length⟩
    · exact List.mem_singleton_self _
    · rw [whole s]
      exact ⟨fun _ => rfl, fun _ => rfl⟩
    · exact fun f out => absurd out List.not_mem_nil
    · intro _
      exact ⟨_, List.mem_singleton_self _, by rw [whole s, seeded]; exact ⟨rfl, rfl⟩⟩

/-- Every reached state of an agreement is sound. -/
theorem Sound.reached (injective : H.Injective) (reads : H.Reads) {pairs : Bool → MailboxPair}
    (fresh : StartsFresh pairs) (run : Reach (Joint.start pairs) (Joint.Step H keys) w) :
    w.Sound H keys :=
  run.invariant (.start fresh) (fun _ _ _ _ sound taken => sound.step injective reads taken)

/-- How many frames on their way carry another contribution than `own`. -/
def stale (own : Bytes) (frames : List (KeyFrame × Nat)) : Nat :=
  frames.countP (fun f => f.1.1 ≠ own)

/-- A bound on the replies one side still owes to frames that confirm: two for each stale frame on
its way to it, one for not having heard the contribution, one for not having confirmed. -/
def owed (own : Bool → Bytes) (w : Joint) (s : Bool) : Nat :=
  2 * stale (own !s) (w !s).flying + (if (w s).pair.peer = some (own !s) then 0 else 1)
    + if (w s).pair.confirmSent then 0 else 1

/-- What both sides still owe. -/
def rank (own : Bool → Bytes) (w : Joint) : Nat := owed own w false + owed own w true

theorem rank_eq (own : Bool → Bytes) (w : Joint) (s : Bool) :
    rank own w = owed own w s + owed own w !s := by
  cases s
  · rfl
  · exact Nat.add_comm _ _

/-- One frame fewer on its way. -/
theorem stale_erase (own : Bytes) {frames : List (KeyFrame × Nat)} {frame : KeyFrame} {depth : Nat}
    (here : (frame, depth) ∈ frames) :
    stale own frames = stale own (frames.erase (frame, depth)) + if frame.1 ≠ own then 1 else 0 := by
  unfold stale
  have split := (List.perm_cons_erase here).countP_eq (fun f => f.1.1 ≠ own)
  rw [split, List.countP_cons]
  simp

/-- A side's own frame is not stale. -/
theorem stale_send {own : Bytes} {prove : Bytes → Bytes → Bytes} {pair : MailboxPair} {depth : Nat}
    {frames : List (KeyFrame × Nat)} (mine : pair.own = own) :
    stale own ((pair.payload prove, depth) :: frames) = stale own frames := by
  unfold stale
  rw [List.countP_cons_of_neg]
  simp [MailboxPair.payload, mine]

/-- What is left to answer once a side has heard a frame, and perhaps replied. -/
theorem owed_deliver (own : Bool → Bytes) {s : Bool} {frame : KeyFrame} {depth : Nat} {replied : Bool}
    (arrives : (frame, depth) ∈ (w !s).flying) (mine : (w s).pair.own = own s)
    (calls : replied = true → ((w s).hear (H.prove keys s) frame).pair.answers frame = true) :
    let side := if replied then ((w s).hear (H.prove keys s) frame).send (H.prove keys s) (depth + 1)
      else (w s).hear (H.prove keys s) frame
    rank own (Function.update (w.without (!s) frame depth) s side)
        + (if replied = true ∧ frame.2.isSome then 1 else 0) ≤ rank own w := by
  intro side
  have stored := MailboxPair.hears_contributions (H.prove keys s) (w s).pair frame
  have fewer := stale_erase (own !s) arrives
  have apart : (!s) ≠ s := by simp
  have rest : Function.update (w.without (!s) frame depth) s side (!s)
      = { (w !s) with flying := (w !s).flying.erase (frame, depth) } := by
    rw [Function.update_of_ne apart, without, Function.update_self]
  -- The other side's account is unchanged: what this side sends is not stale.
  have other : stale (own s) side.flying = stale (own s) (w s).flying := by
    cases replied with
    | false => rfl
    | true => exact stale_send (stored.1.trans mine)
  have heardPeer : side.pair.peer = some frame.1 := by
    cases replied with
    | false => exact stored.2
    | true => exact stored.2
  -- A reply tells; without one, what was told stays so unless the contribution is another.
  have told : replied = true → side.pair.confirmSent = true := by
    rintro rfl
    show (_ || _) = true
    simp [MailboxPair.payload, Party.hear, Party.become, stored.2]
  have silent : replied = false →
      side.pair.confirmSent = ((w s).pair.confirmSent && (w s).pair.peer = some frame.1) := by
    rintro rfl
    exact MailboxPair.hears_sent _ _ _
  have asked : replied = true → frame.2.isSome = true →
      ((w s).pair.confirmSent && (w s).pair.peer = some frame.1) = false := by
    intro reply proof
    have calls := calls reply
    have sent : ((w s).hear (H.prove keys s) frame).pair.confirmSent = _ :=
      MailboxPair.hears_sent _ _ _
    unfold MailboxPair.answers at calls
    rw [sent] at calls
    grind
  rw [rank_eq own _ s, rank_eq own w s]
  unfold owed
  rw [rest, Function.update_self, Bool.not_not, Function.update_self]
  simp only [heardPeer, Option.some.injEq, other]
  cases replied with
  | false =>
    rw [silent rfl]
    grind
  | true =>
    rw [told rfl]
    grind

/-- A joint state whose chains of replies are counted from here on. -/
def renumbered (w : Joint) : Joint := fun s =>
  { w s with flying := (w s).flying.map (fun f => (f.1, 0)) }

/-- Counting from here on changes nothing about the agreement. -/
theorem Sound.renumbered (sound : w.Sound H keys) : Sound H keys w.renumbered where
  sized := sound.sized
  current := sound.current
  backed := sound.backed
  flying := fun s f out => by
    obtain ⟨g, before, rfl⟩ := List.mem_map.mp out
    exact sound.flying s g before
  proven := sound.proven

/-- What holds while the contributions stay fixed: a chain of replies grows only as what is owed
shrinks. -/
structure Quiet (own : Bool → Bytes) (limit : Nat) (w : Joint) : Prop where
  mine : ∀ s, (w s).pair.own = own s
  bounded : rank own w ≤ limit
  depth : ∀ s, ∀ f ∈ (w s).flying, f.2 + rank own w ≤ 1 + limit
  proofs : ∀ s, ∀ f ∈ (w s).flying, 1 ≤ f.2 → f.1.2.isSome = true

/-- A step that leaves the contributions fixed, adds frames of depth 0 at most and owes no more
keeps every chain short. -/
theorem Quiet.of_le {own : Bool → Bytes} {limit : Nat} (quiet : w.Quiet own limit)
    (mine : ∀ s, (w' s).pair.own = (w s).pair.own) (fewer : rank own w' ≤ rank own w)
    (out : ∀ s, ∀ f ∈ (w' s).flying, f ∈ (w s).flying ∨ f.2 = 0) : w'.Quiet own limit where
  mine s := (mine s).trans (quiet.mine s)
  bounded := fewer.trans quiet.bounded
  depth s f flies := by
    rcases out s f flies with before | fresh
    · have old := quiet.depth s f before
      omega
    · have bounded := quiet.bounded
      omega
  proofs s f flies deep := by
    rcases out s f flies with before | fresh
    · exact quiet.proofs s f before deep
    · omega

/-- Changing one side changes what is owed only by its two flags and its stale frames. -/
theorem rank_update_le {own : Bool → Bytes} {s : Bool} {side : Party}
    (peer : side.pair.peer = (w s).pair.peer)
    (sent : (w s).pair.confirmSent = true → side.pair.confirmSent = true)
    (fewer : stale (own s) side.flying ≤ stale (own s) (w s).flying) :
    rank own (Function.update w s side) ≤ rank own w := by
  have apart : (!s) ≠ s := by simp
  rw [rank_eq own _ s, rank_eq own w s]
  unfold owed
  rw [Function.update_self, Function.update_of_ne apart, Bool.not_not, Function.update_self, peer]
  grind

/-- Every settled step keeps the chains of replies short. -/
theorem Quiet.step {own : Bool → Bytes} {limit : Nat} (reads : H.Reads) (sound : w.Sound H keys)
    (quiet : w.Quiet own limit) {event : AgreeEvent} (settled : event.Settled)
    (taken : w.Step H keys event w') : w'.Quiet own limit := by
  cases event with
  | announce s =>
    cases taken
    refine quiet.of_le (fun t => ?_) (rank_update_le rfl (fun sent => ?_) ?_) (fun t f flies => ?_)
    · rcases eq_or_ne t s with rfl | apart
      · rw [Function.update_self]
        rfl
      · rw [Function.update_of_ne apart]
    · show (_ || _) = true
      rw [sent, Bool.true_or]
    · exact (stale_send (quiet.mine s)).le
    · rcases eq_or_ne t s with rfl | apart
      · rw [Function.update_self] at flies
        rcases List.mem_cons.mp flies with rfl | flies
        · exact .inr rfl
        · exact .inl flies
      · rw [Function.update_of_ne apart] at flies
        exact .inl flies
  | deliver s frame depth replied again =>
    obtain ⟨arrives, calls, rfl⟩ := taken
    cases (show again = false from settled)
    have accounted := owed_deliver own arrives (quiet.mine s) calls
    have stored := MailboxPair.hears_contributions (H.prove keys s) (w s).pair frame
    simp only [Bool.false_eq_true, if_false] at accounted ⊢
    -- What flies afterwards flew before, or is the reply.
    have out : ∀ t, ∀ f ∈ (Function.update (w.without (!s) frame depth) s
        (if replied then ((w s).hear (H.prove keys s) frame).send (H.prove keys s) (depth + 1)
          else (w s).hear (H.prove keys s) frame) t).flying,
        f ∈ (w t).flying ∨ (replied = true ∧ f.2 = depth + 1 ∧ f.1.2.isSome = true) := by
      intro t f flies
      rcases eq_or_ne t s with rfl | apart
      · rw [Function.update_self] at flies
        cases replied with
        | false => exact .inl flies
        | true =>
          rcases List.mem_cons.mp flies with rfl | flies
          · exact .inr ⟨rfl, rfl, by simp [MailboxPair.payload, Party.hear, Party.become, stored.2]⟩
          · exact .inl flies
      · obtain rfl := eq_other apart
        rw [Function.update_of_ne apart, without, Function.update_self] at flies
        exact .inl (List.mem_of_mem_erase flies)
    have came := quiet.depth (!s) _ arrives
    have proof := quiet.proofs (!s) _ arrives
    have bounded := quiet.bounded
    refine ⟨fun t => ?_, by omega, fun t f flies => ?_, fun t f flies deep => ?_⟩
    · rcases eq_or_ne t s with rfl | apart
      · rw [Function.update_self]
        cases replied with
        | false => exact stored.1.trans (quiet.mine t)
        | true => exact stored.1.trans (quiet.mine t)
      · obtain rfl := eq_other apart
        rw [Function.update_of_ne apart, without, Function.update_self]
        exact quiet.mine _
    · rcases out t f flies with before | ⟨reply, deeper, _⟩
      · have old := quiet.depth t f before
        omega
      · -- A reply to a reply confirms, so it uses up some of what is owed.
        rcases Nat.eq_zero_or_pos depth with first | later
        · omega
        · have used : (if replied = true ∧ frame.2.isSome = true then 1 else 0) = 1 :=
            if_pos ⟨reply, proof later⟩
          simp only [] at came
          omega
    · rcases out t f flies with before | ⟨_, _, confirms⟩
      · exact quiet.proofs t f before deep
      · exact confirms
  | lose s frame depth =>
    cases taken
    refine quiet.of_le (fun t => ?_) (rank_update_le rfl id ?_) (fun t f flies => ?_)
    · rcases eq_or_ne t s with rfl | apart
      · rw [without, Function.update_self]
      · rw [without, Function.update_of_ne apart]
    · exact List.Sublist.countP_le List.erase_sublist
    · rcases eq_or_ne t s with rfl | apart
      · rw [without, Function.update_self] at flies
        exact .inl (List.mem_of_mem_erase flies)
      · rw [without, Function.update_of_ne apart] at flies
        exact .inl flies
  | restart s =>
    obtain ⟨pair, saved, rfl⟩ := taken
    rw [MailboxPair.fromPersisted_toPersisted reads (sound.sized s _ (sound.current s))
      (sound.backed s)] at saved
    cases saved
    refine quiet.of_le (fun t => ?_) (rank_update_le rfl id le_rfl) (fun t f flies => ?_)
    · rcases eq_or_ne t s with rfl | apart
      · rw [Function.update_self]
        rfl
      · rw [Function.update_of_ne apart]
    · rcases eq_or_ne t s with rfl | apart
      · rw [Function.update_self] at flies
        exact .inl flies
      · rw [Function.update_of_ne apart] at flies
        exact .inl flies
  | change s own => exact absurd settled id

/-- With the contributions fixed, no chain of replies is longer than what is owed, and one. -/
theorem Quiet.reached (injective : H.Injective) (reads : H.Reads) (sound : w.Sound H keys)
    (run : Reach w.renumbered (fun a event b => event.Settled ∧ a.Step H keys event b) w') (s : Bool) :
    ∀ f ∈ (w' s).flying, f.2 ≤ 1 + rank (fun s => (w s).pair.own) w.renumbered := by
  have start : Quiet (fun s => (w s).pair.own) (rank (fun s => (w s).pair.own) w.renumbered)
      w.renumbered := by
    refine ⟨fun _ => rfl, le_rfl, fun s f flies => ?_, fun s f flies deep => ?_⟩
    all_goals
      obtain ⟨f, _, rfl⟩ := List.mem_map.mp flies
    · simp only []
      omega
    · exact absurd deep (by simp)
  have both := run.invariant (P := fun w' => w'.Sound H keys ∧ Quiet (fun s => (w s).pair.own)
      (rank (fun s => (w s).pair.own) w.renumbered) w') ⟨sound.renumbered, start⟩
    (fun a event b _ kept taken =>
      ⟨kept.1.step injective reads taken.2, kept.2.step reads kept.1 taken.1 taken.2⟩)
  intro f flies
  have short := both.2.depth s f flies
  omega

end Joint

/-- The agreement on a mailbox is safe and quiet. Whoever is confirmed has contributions the other
side once held too; two sides confirmed for each other's current contributions, as they are while
nobody changes theirs, have one secret, and each posts where the other polls; another contribution
undoes a confirmation; a frame gets one reply at most, a chain of replies ends, and a restart gives
the agreement back. -/
theorem mailbox_agreement_safe {H : Hashes} (injective : H.Injective) (reads : H.Reads)
    {keys : Bool → String} {pairs : Bool → MailboxPair} (fresh : StartsFresh pairs) {w : Joint}
    (run : Reach (Joint.start pairs) (Joint.Step H keys) w) :
    (∀ s, (w s).pair.peerConfirmed = true →
        (∃ q ∈ (w !s).held, (w s).pair.peer = some q.own ∧ q.peer = some (w s).pair.own)
          ∧ ((∀ q ∈ (w !s).held, q.own = (w !s).pair.own) →
              (w s).pair.peer = some (w !s).pair.own))
      ∧ ((∀ s, (w s).pair.peerConfirmed = true ∧ (w s).pair.peer = some (w !s).pair.own) →
          ∃ secret, ∀ s, ∃ peer, (w s).pair.peer = some peer
            ∧ H.pairSecret (keys s) (keys !s) (w s).pair.own peer = secret
            ∧ ∀ back, (w !s).pair.peer = some back → ∀ epoch,
                H.v2Handle (H.pairSecret (keys s) (keys !s) (w s).pair.own peer) (keys !s) epoch
                  = H.v2Handle (H.pairSecret (keys !s) (keys s) (w !s).pair.own back) (keys !s) epoch)
      ∧ (∀ s frame, (w s).pair.peer ≠ some frame.1 →
          (((w s).pair.hears (H.prove keys s) frame).peerConfirmed = true
            ↔ frame.2 = some (H.prove keys s (w s).pair.own frame.1)))
      ∧ (∀ s frame depth replied again w', w.Step H keys (.deliver s frame depth replied again) w' →
          (w' s).flying.length ≤ (w s).flying.length + 1
            ∧ (w' !s).flying.length ≤ (w !s).flying.length)
      ∧ (∃ longest, ∀ w', Reach w.renumbered
            (fun a event b => event.Settled ∧ a.Step H keys event b) w' →
          ∀ s, ∀ f ∈ (w' s).flying, f.2 ≤ longest)
      ∧ (∀ s, MailboxPair.fromPersisted H (MailboxPair.toPersisted H (some (w s).pair))
          = some (w s).pair)
      ∧ ∀ fields pair, MailboxPair.fromPersisted H fields = some pair →
          pair.peerConfirmed = true → pair.peer.isSome = true := by
  have sound := Joint.Sound.reached injective reads fresh run
  refine ⟨fun s confirmed => ⟨sound.proven s confirmed, fun unchanged => ?_⟩, fun current => ?_,
    fun s frame changed => (MailboxPair.hears_changed changed).1,
    fun s frame depth replied again w' taken => ?_,
    ⟨_, fun w' later s => Joint.Quiet.reached injective reads sound later s⟩,
    fun s => MailboxPair.fromPersisted_toPersisted reads (sound.sized s _ (sound.current s))
      (sound.backed s),
    fun fields pair restored => (MailboxPair.fromPersisted_backed restored).1⟩
  · obtain ⟨q, held, theirs, _⟩ := sound.proven s confirmed
    rw [theirs, unchanged q held]
  · -- Each side's contributions are the other's, the other way round.
    refine ⟨H.pairSecret (keys true) (keys false) (w true).pair.own (w false).pair.own, fun s => ?_⟩
    refine ⟨_, (current s).2, ?_, fun back known epoch => ?_⟩
    · cases s with
      | true => rfl
      | false => exact Hashes.pairSecret_comm H _ _ _ _
    · have mirrored := (current !s).2
      rw [Bool.not_not, known] at mirrored
      cases mirrored
      rw [Hashes.pairSecret_comm]
  · obtain ⟨_, _, rfl⟩ := taken
    have apart : (!s) ≠ s := by simp
    constructor
    · rw [Function.update_self]
      cases replied with
      | false => exact Nat.le_succ _
      | true => exact le_rfl
    · rw [Function.update_of_ne apart]
      split
      · exact le_rfl
      · rw [Joint.without, Function.update_self]
        exact (List.erase_sublist).length_le

namespace Symbolic

/-- The symbolic hash functions keep everything apart. -/
theorem hashes_injective : hashes.Injective where
  derive salt label := by
    intro key other same
    simpa [hashes] using same
  sha256 := fun _ _ same => same

/-- A character past ASCII and its number. -/
theorem toNat_ofNat_byte (b : UInt8) : (Char.ofNat (0x100 + b.toNat)).toNat = 0x100 + b.toNat := by
  have small := b.toNat_lt
  rw [Char.toNat_ofNat, if_pos (.inl (by omega))]

/-- The symbolic text of a handle can be read back. -/
theorem hashes_reads : hashes.Reads := by
  intro bytes
  simp [hashes, Function.comp_def, toNat_ofNat_byte]

/-- Both sides of a pairing with one seed. -/
def seededPairs (_ : Bool) : MailboxPair := .seeded (List.replicate 32 1)

end Symbolic

/-- Two sides of a pairing agree from the start. -/
theorem seeded_agreement_safe :
    ∃ secret, ∀ s, ∃ peer, (Joint.start Symbolic.seededPairs s).pair.peer = some peer
      ∧ Symbolic.hashes.pairSecret (if s then "me" else "them") (if !s then "me" else "them")
          (Joint.start Symbolic.seededPairs s).pair.own peer = secret
      ∧ ∀ back, (Joint.start Symbolic.seededPairs !s).pair.peer = some back → ∀ epoch,
          Symbolic.hashes.v2Handle
              (Symbolic.hashes.pairSecret (if s then "me" else "them") (if !s then "me" else "them")
                (Joint.start Symbolic.seededPairs s).pair.own peer) (if !s then "me" else "them") epoch
            = Symbolic.hashes.v2Handle
              (Symbolic.hashes.pairSecret (if !s then "me" else "them") (if s then "me" else "them")
                (Joint.start Symbolic.seededPairs !s).pair.own back) (if !s then "me" else "them")
              epoch :=
  have fresh : StartsFresh Symbolic.seededPairs := ⟨fun _ => rfl, .inr ⟨_, fun _ => rfl⟩⟩
  (mailbox_agreement_safe Symbolic.hashes_injective Symbolic.hashes_reads fresh .start).2.1
    (fun _ => ⟨rfl, rfl⟩)

end Nightdrop
