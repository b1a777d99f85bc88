import Nightdrop.Transport.Inbound

/-! The inbound budget counts exactly the frames being read or queued, and bounds them unless they are empty. -/

namespace Nightdrop
namespace Inbound

/-- A sum over a list, after one of its elements was replaced. -/
theorem sum_map_set {α : Type} (f : α → Nat) {l : List α} {i : Nat} {old : α} (found : l[i]? = some old)
    (x : α) : ((l.set i x).map f).sum + f old = (l.map f).sum + f x := by
  induction l generalizing i with
  | nil => simp at found
  | cons y rest ih =>
    cases i with
    | zero =>
      simp only [List.getElem?_cons_zero, Option.some.injEq] at found
      subst found
      simp only [List.set_cons_zero, List.map_cons, List.sum_cons]
      omega
    | succ i =>
      rw [List.getElem?_cons_succ] at found
      have later := ih found
      simp only [List.set_cons_succ, List.map_cons, List.sum_cons]
      omega

/-- What is true of a reader that obeys the announced lengths. -/
def Reader.Fits : Reader → Prop
  | .waiting len => 0 < len ∧ len ≤ MAX_FRAME_BYTES
  | .reserving len _ => 0 < len ∧ len ≤ MAX_FRAME_BYTES
  | .reading len got => 0 < len ∧ len ≤ MAX_FRAME_BYTES ∧ got.length ≤ len
  | _ => True

/-- A fitting reader is in at most as many frames as it holds bytes, and has at most those in memory. -/
theorem Reader.Fits.le_share {r : Reader} (fits : r.Fits) : r.inFrame ≤ r.share ∧ r.buffered ≤ r.share := by
  cases r with
  | reading len got => exact ⟨fits.1, fits.2.2⟩
  | _ => simp [Reader.inFrame, Reader.buffered, Reader.share]

namespace Listener

/-- What every state of a run without empty frames is like. -/
structure Sound (s : Listener) : Prop where
  taken : s.taken = true
  exact : s.held = s.total
  limited : s.held ≤ max s.limit MAX_FRAME_BYTES
  readers : ∀ r ∈ s.readers, r.Fits
  queue : ∀ frame ∈ s.queue, frame ≠ []

variable {s : Listener} {i : Nat} {old : Reader}

/-- What another place of one reader changes in the total. -/
theorem total_put (found : s.readers[i]? = some old) (r : Reader) :
    (s.put i r).total + old.share = s.total + r.share := by
  have sum := sum_map_set Reader.share found r
  simp only [total, put]
  omega

/-- A reader's share is part of the total. -/
theorem share_le_total (found : s.readers[i]? = some old) : old.share ≤ s.total := by
  have without := total_put found .closed
  rw [show Reader.closed.share = 0 from rfl] at without
  omega

/-- The readers fit after one of them moved to a place that does. -/
theorem fits_set (fit : ∀ r ∈ s.readers, r.Fits) {r : Reader} (fits : r.Fits) :
    ∀ r' ∈ s.readers.set i r, r'.Fits := by
  intro r' among
  rcases List.mem_or_eq_of_mem_set among with before | rfl
  · exact fit r' before
  · exact fits

/-- A reader that moves without holding anything keeps the listener sound. -/
theorem Sound.put (sound : s.Sound) (found : s.readers[i]? = some old) {r : Reader} (fits : r.Fits)
    (same : r.share = old.share) : (s.put i r).Sound := by
  have total := total_put found r
  refine ⟨sound.taken, ?_, sound.limited, fits_set sound.readers fits, sound.queue⟩
  have exact := sound.exact
  simp only [Listener.put] at total ⊢
  omega

/-- A reader that ends gives back what it holds. -/
theorem Sound.close (sound : s.Sound) (i : Nat) : (s.close i s.readers[i]?).Sound := by
  cases found : s.readers[i]? with
  | none => exact sound
  | some old =>
    cases old with
    -- Only a reader inside a frame holds anything.
    | reading len got =>
      have total := total_put found .closed
      have part := share_le_total found
      have exact := sound.exact
      have limited := sound.limited
      refine ⟨sound.taken, ?_, ?_, fits_set sound.readers trivial, sound.queue⟩
      · simp only [Listener.close, release, Listener.put, Reader.share, Listener.total] at total part exact ⊢
        omega
      · simp only [Listener.close, release, Listener.put]
        omega
    | idle => exact sound.put found trivial rfl
    | waiting len => exact sound.put found trivial rfl
    | reserving len current => exact sound.put found trivial rfl
    | closed => exact sound.put found trivial rfl

/-- A turn of the reservation's loop stays within the larger of the limit and one frame. -/
theorem Sound.exchanged (sound : s.Sound) {len current : Nat}
    (found : s.readers[i]? = some (.reserving len current)) (spurious : Bool) :
    (s.exchanged i len current spurious).Sound := by
  have fits : 0 < len ∧ len ≤ MAX_FRAME_BYTES := sound.readers _ (List.mem_of_getElem? found)
  unfold Listener.exchanged
  split
  · exact sound.put found fits rfl
  · rename_i room
    split
    · rename_i same
      have total := total_put found (.reading len [])
      have exact := sound.exact
      refine ⟨sound.taken, ?_, ?_, fits_set sound.readers ⟨fits.1, fits.2, by simp⟩, sound.queue⟩
      · simp only [Listener.put, Reader.share, Listener.total] at total exact ⊢
        omega
      -- Either nothing was held, or the sum is within the limit.
      · simp only [Listener.put]
        omega
    · exact sound.put found fits rfl

/-- A whole frame moves from its reader to the queue. -/
theorem Sound.deliver (sound : s.Sound) {len : Nat} {got : Bytes}
    (found : s.readers[i]? = some (.reading len got)) (whole : got.length = len) : (s.deliver i got).Sound := by
  have fits : 0 < len ∧ len ≤ MAX_FRAME_BYTES ∧ got.length ≤ len := sound.readers _ (List.mem_of_getElem? found)
  -- No announced frame is empty, so no queued one is.
  have filled : got ≠ [] := by
    rintro rfl
    simp only [List.length_nil] at whole
    omega
  have total := total_put found .idle
  have exact := sound.exact
  unfold Listener.deliver
  rw [if_pos sound.taken]
  refine ⟨sound.taken, ?_, sound.limited, fits_set sound.readers trivial, ?_⟩
  · simp only [Listener.put, Reader.share, Listener.total, List.map_append, List.map_cons, List.map_nil,
      List.sum_append, List.sum_cons, List.sum_nil] at total exact ⊢
    omega
  · intro frame among
    rcases List.mem_append.mp among with before | last
    · exact sound.queue frame before
    · rwa [List.mem_singleton.mp last]

/-- A prefix that is not all zeros announces a frame that is not empty. -/
theorem ofBe32_pos {a b c d : UInt8} (some' : [a, b, c, d] ≠ [0, 0, 0, 0]) : 0 < ofBe32 a b c d := by
  have zero (x : UInt8) (none' : x.toNat = 0) : x = 0 := by
    rwa [← UInt8.toNat_inj]
  apply Nat.pos_of_ne_zero
  intro sum
  unfold ofBe32 at sum
  apply some'
  rw [zero a (by omega), zero b (by omega), zero c (by omega), zero d (by omega)]

/-- An announced length is what the prefix says, within the limit. -/
theorem frameLen_some {a b c d : UInt8} {len : Nat} (announced : frameLen a b c d = some len) :
    ofBe32 a b c d = len ∧ len ≤ MAX_FRAME_BYTES := by
  unfold frameLen at announced
  generalize ofBe32 a b c d = n at announced ⊢
  generalize MAX_FRAME_BYTES = most at announced ⊢
  split at announced
  · rename_i small
    cases announced
    exact ⟨rfl, small⟩
  · cases announced

/-- A reader that announces a frame that is not empty keeps the listener sound. -/
theorem Sound.hear (sound : s.Sound) (found : s.readers[i]? = some .idle) {heard : Option Nat}
    (fits : ∀ len, heard = some len → 0 < len ∧ len ≤ MAX_FRAME_BYTES) : (s.hear i heard).Sound := by
  cases heard with
  | none => exact sound.put found trivial rfl
  | some len => exact sound.put found (fits len rfl) rfl

/-- Every step that neither announces an empty frame nor ends the queue keeps the listener sound. -/
theorem Sound.step (sound : s.Sound) {a : Action} (weighs : Weighs a) : (s.step a).Sound := by
  cases a with
  | connect =>
    refine ⟨sound.taken, ?_, sound.limited, ?_, sound.queue⟩
    · have exact := sound.exact
      simp only [Listener.step, Listener.total, List.map_append, List.map_cons, List.map_nil,
        List.sum_append, List.sum_cons, List.sum_nil, Reader.share] at exact ⊢
      omega
    · intro r among
      rcases List.mem_append.mp among with before | last
      · exact sound.readers r before
      · rw [List.mem_singleton.mp last]
        trivial
  | announce i a b c d =>
    have heard : ∀ len, frameLen a b c d = some len → 0 < len ∧ len ≤ MAX_FRAME_BYTES := by
      intro len announced
      obtain ⟨same, small⟩ := frameLen_some announced
      exact ⟨same ▸ ofBe32_pos weighs, small⟩
    generalize said : frameLen a b c d = announced at heard
    simp only [Listener.step, said]
    split
    · rename_i found
      exact sound.hear found heard
    · exact sound
  | load i =>
    simp only [Listener.step]
    split
    · rename_i len found
      have fits : 0 < len ∧ len ≤ MAX_FRAME_BYTES := sound.readers _ (List.mem_of_getElem? found)
      exact sound.put found fits rfl
    · exact sound
  | exchange i spurious =>
    simp only [Listener.step]
    split
    · rename_i len current found
      exact sound.exchanged found spurious
    · exact sound
  | giveUp i =>
    simp only [Listener.step]
    split
    · rename_i len found
      exact sound.put found trivial rfl
    · exact sound
  | arrive i bytes =>
    simp only [Listener.step]
    split
    · rename_i len got found
      have fits : 0 < len ∧ len ≤ MAX_FRAME_BYTES ∧ got.length ≤ len :=
        sound.readers _ (List.mem_of_getElem? found)
      refine sound.put found ⟨fits.1, fits.2.1, ?_⟩ rfl
      rw [List.length_append, List.length_take]
      omega
    · exact sound
  | finish i =>
    simp only [Listener.step]
    split
    · rename_i len got found
      split
      · rename_i whole
        exact sound.deliver found whole
      · exact sound
    · exact sound
  | fail i => exact sound.close i
  | take =>
    simp only [Listener.step]
    split
    · exact sound
    · rename_i frame rest queued
      have exact := sound.exact
      have limited := sound.limited
      refine ⟨sound.taken, ?_, ?_, sound.readers, fun f among => sound.queue f (queued ▸ .tail _ among)⟩
      · simp only [release, Listener.total, queued, List.map_cons, List.sum_cons] at exact ⊢
        omega
      · simp only [release]
        omega
  | dropReceiver => exact weighs.elim

/-- A sound listener is in budget. -/
theorem Sound.inBudget (sound : s.Sound) : s.InBudget (fun limit => max limit MAX_FRAME_BYTES) := by
  have readers : ∀ (l : List Reader), (∀ r ∈ l, r.Fits) →
      (l.map Reader.inFrame).sum ≤ (l.map Reader.share).sum
        ∧ (l.map Reader.buffered).sum ≤ (l.map Reader.share).sum := by
    intro l fit
    exact ⟨List.sum_le_sum fun r among => (fit r among).le_share.1,
      List.sum_le_sum fun r among => (fit r among).le_share.2⟩
  have queue : ∀ (l : List Bytes), (∀ f ∈ l, f ≠ []) → l.length ≤ (l.map List.length).sum := by
    intro l filled
    induction l with
    | nil => simp
    | cons f rest ih =>
      have one := List.length_pos_iff.mpr (filled f (.head _))
      have more := ih fun g among => filled g (.tail _ among)
      rw [List.map_cons, List.sum_cons, List.length_cons]
      omega
  obtain ⟨frames, bytes⟩ := readers s.readers sound.readers
  have queued := queue s.queue sound.queue
  have exact := sound.exact
  have limited := sound.limited
  have few : s.frames ≤ s.held := by
    simp only [Listener.frames, Listener.total] at exact ⊢
    omega
  refine ⟨exact, limited, fun none' => ?_, few.trans limited, ?_⟩
  -- Without a frame no reader holds a share, and the queue is empty.
  · have empty : s.queue = [] := List.eq_nil_of_length_eq_zero (by simp only [Listener.frames] at none'; omega)
    have idle : ∀ r ∈ s.readers, r.share = 0 := by
      have zero : (s.readers.map Reader.inFrame).sum = 0 := by
        simp only [Listener.frames] at none'
        omega
      intro r among
      have mine := List.sum_eq_zero_iff.mp zero r.inFrame (List.mem_map_of_mem among)
      cases r with
      | reading len got => simp [Reader.inFrame] at mine
      | _ => rfl
    rw [exact, Listener.total, empty, List.map_congr_left idle]
    simp
  · simp only [Listener.memory, Listener.total] at exact ⊢
    omega

/-- In every run without empty frames, on either listener, the budget is kept. -/
theorem inbound_in_budget (kind : Kind) (limit : Nat) (actions : List Action)
    (weigh : ∀ a ∈ actions, Weighs a) :
    ((fresh kind limit).run actions).InBudget (fun limit => max limit MAX_FRAME_BYTES) := by
  have start : (fresh kind limit).Sound :=
    ⟨rfl, rfl, Nat.zero_le _, (fun r among => by cases among), (fun f among => by cases among)⟩
  have kept : ∀ (s : Listener) (actions : List Action), (∀ a ∈ actions, Weighs a) → s.Sound →
      (s.run actions).Sound := by
    intro s actions weigh sound
    induction actions generalizing s with
    | nil => exact sound
    | cons a rest ih =>
      exact ih (s.step a) (fun b among => weigh b (.tail _ among)) (sound.step (weigh a (.head _)))
  exact (kept _ actions weigh start).inBudget

/-- One connection's three-byte frame, read in two parts and taken. -/
theorem three_bytes_in_budget :
    ((fresh .tor 64).run [.connect, .announce 0 0 0 0 3, .load 0, .exchange 0 false, .arrive 0 [1, 2],
      .arrive 0 [3], .finish 0, .take]).InBudget (fun limit => max limit MAX_FRAME_BYTES) :=
  inbound_in_budget .tor 64 _ (by
    intro a among
    simp only [List.mem_cons, List.not_mem_nil, or_false] at among
    rcases among with rfl | rfl | rfl | rfl | rfl | rfl | rfl | rfl
    all_goals first | trivial | exact (by decide : [(0 : UInt8), 0, 0, 3] ≠ [0, 0, 0, 0]))

/-- The steps by which one connection queues an empty frame. -/
def emptyFrame : List Action := [.announce 0 0 0 0 0, .load 0, .exchange 0 false, .finish 0]

/-- Empty frames queue up beyond every bound. -/
theorem empty_frames_are_unbounded : ¬ ∃ bound : Nat → Nat, ∀ kind limit actions,
    ((fresh kind limit).run actions).InBudget bound := by
  rintro ⟨bound, kept⟩
  -- One round leaves the reader idle, nothing held, and one more frame in the queue.
  have cycle (queue : List Bytes) : (⟨.tor, 0, 0, [.idle], queue, true⟩ : Listener).run emptyFrame
      = ⟨.tor, 0, 0, [.idle], queue ++ [[]], true⟩ := by
    have empty : frameLen 0 0 0 0 = some 0 := by decide +kernel
    simp [emptyFrame, run, step, hear, empty, put, exchanged, deliver]
  have cycles (n : Nat) : (fresh .tor 0).run (.connect :: (List.replicate n emptyFrame).flatten)
      = ⟨.tor, 0, 0, [.idle], List.replicate n [], true⟩ := by
    induction n with
    | zero => rfl
    | succ n ih =>
      have split' : Action.connect :: (List.replicate (n + 1) emptyFrame).flatten
          = (.connect :: (List.replicate n emptyFrame).flatten) ++ emptyFrame := by
        simp [List.replicate_succ']
      have joined (s : Listener) (a b : List Action) : s.run (a ++ b) = (s.run a).run b :=
        List.foldl_append
      rw [split', joined, ih, cycle, List.replicate_succ']
  have few := (kept .tor 0 (.connect :: (List.replicate (bound 0 + 1) emptyFrame).flatten)).few
  rw [cycles] at few
  simp only [frames, List.length_replicate, List.map_cons, List.map_nil, Reader.inFrame, List.sum_cons,
    List.sum_nil] at few
  omega

end Listener
end Inbound
end Nightdrop
