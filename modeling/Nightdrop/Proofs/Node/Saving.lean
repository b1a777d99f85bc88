import Nightdrop.Node.Saving
import Nightdrop.Node.Symbolic

/-! A change that was reported is in the state file or waits to be written, as long as writes work. -/

namespace Nightdrop

variable {X : Externals}

/-- Every write an event makes goes through. -/
def SaveEvent.Written : SaveEvent X → Prop
  | .change _ => True
  | .save _ written | .saveSoon _ written | .flushPending _ written => written = true
  | .tick _ _ written flushed => written = true ∧ flushed = true

namespace Saves

/-- The state file holds the device as it was at the last report or later, or a write is pending. -/
def Kept (w : Saves X) : Prop :=
  ∀ p, w.inner.persist = some p →
    p.pending = true ∨ w.reported = 0
      ∨ ∃ s ∈ w.history.drop (w.reported - 1), w.inner.file = some s.exportState

/-- The history ends with the device as it is, and no more was reported than happened. -/
structure Sound (w : Saves X) : Prop where
  last : w.history.getLast? = some w.inner.me
  bound : w.reported ≤ w.history.length
  kept : w.Kept

theorem Sound.start (me : Node X) (file : Option (PersistedState X)) (now : Nat) :
    (start me file now).Sound :=
  ⟨rfl, Nat.zero_le _, fun _ _ => Or.inr (Or.inl rfl)⟩

/-- The device as it is stands behind any report. -/
theorem Sound.me_mem {w : Saves X} (sound : w.Sound) {k : Nat} (below : k < w.history.length) :
    w.inner.me ∈ w.history.drop k := by
  obtain ⟨earlier, ends⟩ := List.getLast?_eq_some_iff.mp sound.last
  rw [ends, List.length_append, List.length_singleton] at below
  rw [ends, List.drop_append_of_le_length (by omega)]
  exact List.mem_append_right _ (List.mem_singleton.mpr rfl)

/-- A change that is not reported yet takes nothing away. -/
theorem Sound.change {w : Saves X} (sound : w.Sound) (me : Node X) : (w.change me).Sound where
  last := List.getLast?_concat
  bound := by
    show w.reported ≤ (w.history ++ [me]).length
    rw [List.length_append]
    exact Nat.le_add_right_of_le sound.bound
  kept := by
    intro p held
    rcases sound.kept p held with pending | nothing | ⟨s, among, written⟩
    · exact Or.inl pending
    · exact Or.inr (Or.inl nothing)
    · refine Or.inr (Or.inr ⟨s, ?_, written⟩)
      show s ∈ (w.history ++ [me]).drop (w.reported - 1)
      rw [List.drop_append]
      exact List.mem_append_left _ among

/-- After a write that goes through, the file holds the device as it is. -/
theorem save_file {i : Inner X} {p : Persist} (held : i.persist = some p) (now : Nat) :
    (i.save now true).file = some i.me.exportState ∧ (i.save now true).me = i.me := by
  unfold Inner.save
  rw [held]
  exact ⟨rfl, rfl⟩

theorem save_me (i : Inner X) (now : Nat) (written : Bool) : (i.save now written).me = i.me := by
  unfold Inner.save
  split <;> rfl

/-- A write keeps what was reported, whether or not it comes with a report of its own. -/
theorem Sound.saved {w : Saves X} (sound : w.Sound) (now : Nat) {reported : Nat}
    (bound : reported ≤ w.history.length) :
    ({ w with inner := w.inner.save now true, reported := reported } : Saves X).Sound where
  last := by
    show w.history.getLast? = some (w.inner.save now true).me
    rw [save_me]
    exact sound.last
  bound := bound
  kept := by
    intro p held
    rcases Nat.eq_zero_or_pos reported with nothing | some
    · exact Or.inr (Or.inl nothing)
    · refine Or.inr (Or.inr ⟨w.inner.me, ?_, ?_⟩)
      · exact sound.me_mem (show reported - 1 < w.history.length by omega)
      · cases target : w.inner.persist with
        | none =>
          simp only [Inner.save, target] at held
          cases held
        | some p => exact (save_file target now).1

/-- A mark that a write is pending keeps what was reported. -/
theorem Sound.marked {w : Saves X} (sound : w.Sound) (p : Persist) {reported : Nat}
    (bound : reported ≤ w.history.length) :
    ({ w with
        inner := { w.inner with persist := some { p with pending := true } }
        reported := reported } : Saves X).Sound where
  last := sound.last
  bound := bound
  kept := by
    rintro q ⟨⟩
    exact Or.inl rfl

/-- With no state file to keep, a report says nothing. -/
theorem Sound.unkept {w : Saves X} (sound : w.Sound) (none : w.inner.persist = none) {reported : Nat}
    (bound : reported ≤ w.history.length) : ({ w with reported := reported } : Saves X).Sound where
  last := sound.last
  bound := bound
  kept := by
    intro p held
    rw [none] at held
    cases held

/-- A change reported to `save` is kept. -/
theorem Sound.save {w : Saves X} (sound : w.Sound) (now : Nat) :
    ({ w.report with inner := w.inner.save now true } : Saves X).Sound :=
  sound.saved now (Nat.le_refl _)

/-- A change reported to `saveSoon` is written or pending. -/
theorem Sound.saveSoon {w : Saves X} (sound : w.Sound) (now : Nat) :
    ({ w.report with inner := w.inner.saveSoon now true } : Saves X).Sound := by
  unfold Inner.saveSoon
  cases target : w.inner.persist with
  | none => exact sound.unkept target (Nat.le_refl _)
  | some p =>
    simp only []
    split
    · exact sound.save now
    · exact sound.marked p (Nat.le_refl _)

/-- A flush keeps what was reported. -/
theorem Sound.flushPending {w : Saves X} (sound : w.Sound) (now : Nat) :
    ({ w with inner := w.inner.flushPending now true } : Saves X).Sound := by
  unfold Inner.flushPending
  split
  · exact sound
  · split
    · exact sound.saved now sound.bound
    · exact sound

theorem Sound.maybeFlush {w : Saves X} (sound : w.Sound) (now : Nat) :
    ({ w with inner := w.inner.maybeFlush now true } : Saves X).Sound := by
  unfold Inner.maybeFlush
  split
  · exact sound
  · split
    · exact sound.saved now sound.bound
    · exact sound

/-- An event whose writes go through keeps what was reported. -/
theorem Sound.step {w : Saves X} (sound : w.Sound) {event : SaveEvent X} (written : event.Written) :
    (w.step event).Sound := by
  cases event with
  | change me => exact sound.change me
  | save now written' =>
    obtain rfl := written
    exact sound.save now
  | saveSoon now written' =>
    obtain rfl := written
    exact sound.saveSoon now
  | flushPending now written' =>
    obtain rfl := written
    exact sound.flushPending now
  | tick t now written' flushed =>
    obtain ⟨rfl, rfl⟩ := written
    have moved := sound.change (Inner.ticked t)
    -- The cycle reports its change, at once or soon, and then flushes what is due.
    unfold Saves.step
    simp only []
    unfold Inner.applyTick
    cases told : w.inner.reports t with
    | none => exact moved.maybeFlush now
    | some urgent =>
      cases urgent with
      | true => exact (moved.save now).maybeFlush now
      | false => exact (moved.saveSoon now).maybeFlush now

/-- A run of events. -/
def run (w : Saves X) (events : List (SaveEvent X)) : Saves X := events.foldl step w

theorem Sound.run {w : Saves X} (sound : w.Sound) {events : List (SaveEvent X)}
    (written : ∀ event ∈ events, event.Written) : (w.run events).Sound := by
  induction events generalizing w with
  | nil => exact sound
  | cons event rest ih =>
    exact ih (sound.step (written event (List.mem_cons_self ..)))
      (fun other among => written other (List.mem_cons_of_mem _ among))

/--
In every run whose writes go through, the state file holds the device of the last report or a later
one unless a write is pending, and then a cycle past the window writes it. A save whose write fails
keeps its change only if the file already held it.
-/
theorem reported_change_kept (me : Node X) (file : Option (PersistedState X)) (began : Nat)
    (events : List (SaveEvent X)) (written : ∀ event ∈ events, event.Written) :
    let w := (start me file began).run events
    (∀ p, w.inner.persist = some p →
      (p.pending = true ∨ w.reported = 0
        ∨ ∃ s ∈ w.history.drop (w.reported - 1), w.inner.file = some s.exportState)
      ∧ (w.reported = w.history.length →
          p.pending = true ∨ w.inner.file = some w.inner.me.exportState)
      ∧ (p.pending = true → ∀ now, PERSIST_DEBOUNCE ≤ now - p.lastWrite →
          (w.inner.maybeFlush now true).file = some w.inner.me.exportState)
      ∧ ∀ now, ((∃ q, (w.inner.save now false).persist = some q ∧ q.pending = true)
            ∨ (w.inner.save now false).file = some w.inner.me.exportState)
          ↔ w.inner.file = some w.inner.me.exportState) := by
  intro w p held
  have sound : w.Sound := (Sound.start me file began).run written
  refine ⟨sound.kept p held, ?_, ?_, ?_⟩
  · intro current
    rcases sound.kept p held with pending | nothing | ⟨s, among, stored⟩
    · exact Or.inl pending
    · -- Something was reported: the history is never empty.
      have last := sound.last
      rw [current, List.length_eq_zero_iff] at nothing
      rw [nothing] at last
      cases last
    · right
      obtain ⟨earlier, ends⟩ := List.getLast?_eq_some_iff.mp sound.last
      -- Behind a report of everything stands only the device as it is.
      rw [current, ends, List.length_append, List.length_singleton, Nat.add_sub_cancel,
        List.drop_left, List.mem_singleton] at among
      rw [stored, among]
  · intro pending now elapsed
    unfold Inner.maybeFlush
    rw [held]
    simp only []
    rw [if_pos ⟨pending, elapsed⟩]
    exact (save_file held now).1
  · intro now
    unfold Inner.save
    rw [held]
    simp

end Saves

namespace Symbolic

/-- A core that starts with no state file. -/
def newCore : Saves symbolic := Saves.start device none 10000

end Symbolic

/-- A save whose write fails leaves no mark: later cycles and the shutdown write nothing. -/
theorem failed_save_forgotten :
    let w := Symbolic.newCore.run
      [.save 10000 false,
        .tick { me := Symbolic.device, messagesArrived := false, burned := false, failed := false }
          20000 true true,
        .flushPending 30000 true]
    w.inner.file = none ∧ w.inner.persist = some { lastWrite := 10000, pending := false }
      ∧ ¬ w.Kept := by
  intro w
  have file : w.inner.file = none := by rfl
  have persist : w.inner.persist = some { lastWrite := 10000, pending := false } := by rfl
  refine ⟨file, persist, fun kept => ?_⟩
  rcases kept _ persist with pending | nothing | ⟨s, _, stored⟩
  · cases pending
  · exact absurd (show w.reported = 1 by rfl) (by rw [nothing]; decide)
  · rw [file] at stored
    cases stored

/-- A change reported inside the window is pending, and a cycle past the window writes it. -/
theorem pending_change_written :
    (Symbolic.newCore.run [.save 10000 true, .saveSoon 10001 true]).inner.persist
        = some { lastWrite := 10000, pending := true }
    ∧ ((Symbolic.newCore.run [.save 10000 true, .saveSoon 10001 true]).inner.maybeFlush 20000
        true).file = some Symbolic.device.exportState := by
  have persist : (Symbolic.newCore.run [.save 10000 true, .saveSoon 10001 true]).inner.persist
      = some { lastWrite := 10000, pending := true } := by rfl
  have kept := Saves.reported_change_kept Symbolic.device none 10000
    [.save 10000 true, .saveSoon 10001 true]
    (by
      intro event among
      rcases List.mem_cons.mp among with rfl | last
      · exact rfl
      · rw [List.mem_singleton.mp last]
        exact rfl)
  exact ⟨persist, (kept _ persist).2.2.1 rfl 20000 (by decide)⟩

end Nightdrop
