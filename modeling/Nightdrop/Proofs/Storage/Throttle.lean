import Nightdrop.Proofs.Storage.Lock

/-! What the throttle holds off: the wrong secrets that can be tried in a time, call by call. -/

namespace Nightdrop.Lock

variable {C : Crypto}

/-- The secret a call is asked to test. -/
def Call.candidate : Call C → Option String
  | .setDuress passphrase duress => if duress = "" then none else some passphrase
  | .clearDuress passphrase => some passphrase
  | .clear passphrase => some passphrase
  | .unlock secret => some secret
  | .isNormalSecret secret => some secret
  | .setPassphrase _ _ | .destroy | .restart => none

/-- Whether a call tries its secret without asking whether a wait runs. -/
def Call.skips : Call C → Bool
  | .setDuress _ _ | .clearDuress _ => true
  | _ => false

/-- Whether a secret opens neither slot of the lock. -/
def opensNeither (disk : Disk) (m : Moment C) (secret : String) : Bool :=
  match read C disk m.decoy with
  | .error _ => false
  | .ok lock =>
    (trySlot C lock.normal secret lock.costs).isNone
      && (trySlot C lock.duress secret lock.costs).isNone

/-- Whether the secret a call tests is wrong. -/
def wrong (disk : Disk) (m : Moment C) (asked : Call C) : Bool :=
  match asked.candidate with
  | none => false
  | some secret => opensNeither disk m secret

/-- Whether a call tries a wrong secret against the slots. -/
def guesses (disk : Disk) (m : Moment C) (asked : Call C) : Bool :=
  wrong disk m asked && (asked.skips || waitSecs disk m.now == 0)

/-- The same call with another secret to test. -/
def Call.instead (other : String) : Call C → Call C
  | .setDuress _ duress => .setDuress other duress
  | .clearDuress _ => .clearDuress other
  | .clear _ => .clear other
  | .unlock _ => .unlock other
  | .isNormalSecret _ => .isNormalSecret other
  | asked => asked

/-- A wrong secret goes through the counted path, and the disk takes the count. -/
def Counted (disk : Disk) (m : Moment C) (asked : Call C) : Prop :=
  wrong disk m asked = true → asked.skips = false ∧ m.takesAttempts = true

/-- The disk after some calls. -/
def after (disk : Disk) (calls : List (Call C × Moment C)) : Disk :=
  calls.foldl (fun disk asked => (call C disk asked.2 asked.1).2) disk

/-- The wrong secrets a run of calls tries. -/
def guessed (disk : Disk) : List (Call C × Moment C) → Nat
  | [] => 0
  | asked :: rest =>
    (if guesses disk asked.2 asked.1 then 1 else 0)
      + guessed (call C disk asked.2 asked.1).2 rest

/-- How far the clock went on over some readings, counted from one before them. -/
def elapsed (from_ : Nat) : List (Call C × Moment C) → Nat
  | [] => 0
  | asked :: rest => (asked.2.now - from_) + elapsed asked.2.now rest

/-- A condition on the state before each call of a run. -/
def Along (P : Disk → Moment C → Call C → Prop) (disk : Disk) : List (Call C × Moment C) → Prop
  | [] => True
  | asked :: rest => P disk asked.2 asked.1 ∧ Along P (call C disk asked.2 asked.1).2 rest

/-- The waits imposed between `guesses` wrong secrets in a row, behind some failures already. -/
def waits (failures : Nat) : Nat → Nat
  | 0 => 0
  | 1 => 0
  | guesses + 2 => waits failures (guesses + 1) + waitAfter (failures + (guesses + 1))

/-- More failures never shorten the wait. -/
theorem waitAfter_mono {a b : Nat} (fewer : a ≤ b) : waitAfter a ≤ waitAfter b := by
  unfold waitAfter
  split_ifs <;> omega

/-- The schedule is flat long before the count is full. -/
theorem waitAfter_capped (failures : Nat) :
    waitAfter (min failures (2 ^ 32 - 1)) = waitAfter failures := by
  rcases Nat.le_total failures (2 ^ 32 - 1) with small | large
  · rw [Nat.min_eq_left small]
  · rw [Nat.min_eq_right large]
    unfold waitAfter
    rw [if_neg (by omega), if_neg (by omega), if_neg (by omega), if_neg (by omega),
      if_neg (by omega), if_neg (by omega), if_neg (by omega), if_neg (by omega)]

/-- Once no wait runs, the clock has gone on by the whole of it. -/
theorem wait_le_of_free {disk : Disk} {now : Nat} (free : waitSecs disk now = 0) :
    waitAfter (readAttempts disk).failures ≤ now - (readAttempts disk).lastUnix := by
  unfold waitSecs at free
  simp only [] at free
  split at free
  · omega
  · split at free <;> omega

section Calls

variable {disk : Disk} {m : Moment C}

/-- While a wait runs, an unlock fails alike on every secret and leaves the files. -/
theorem unlock_waiting (waiting : 0 < waitSecs disk m.now) :
    ∃ e, ∀ secret, unlock C disk m secret = (.error e, disk) := by
  refine ⟨"too many wrong attempts: try again in " ++ toString (waitSecs disk m.now) ++ " s", ?_⟩
  intro secret
  unfold unlock
  simp only []
  rw [if_pos waiting]

/-- A wrong secret that is tried is counted. -/
theorem unlock_wrong (free : waitSecs disk m.now = 0) {secret : String}
    (wrong : opensNeither disk m secret = true) :
    unlock C disk m secret =
      (.error "wrong passphrase", noteFailure disk m.now m.takesAttempts) := by
  unfold opensNeither at wrong
  cases reads : read C disk m.decoy with
  | error e =>
    rw [reads] at wrong
    cases wrong
  | ok lock =>
    rw [reads] at wrong
    simp only [Bool.and_eq_true, Option.isNone_iff_eq_none] at wrong
    unfold unlock
    simp only [reads, wrong.1, wrong.2]
    rw [if_neg (by omega)]

/-- Asking for the normal secret leaves what the unlock leaves. -/
theorem unlockNormal_snd (disk : Disk) (m : Moment C) (secret : String) :
    (unlockNormal C disk m secret).2 = (unlock C disk m secret).2 := by
  unfold unlockNormal
  split
  all_goals
    rename_i answered
    rw [answered]

/-- A wrong secret that a counted call is asked to test while a wait runs is not tried. -/
theorem call_waiting {asked : Call C} (isWrong : wrong disk m asked = true)
    (counts : asked.skips = false) (waiting : 0 < waitSecs disk m.now) (other : String) :
    call C disk m (asked.instead other) = call C disk m asked
      ∧ (call C disk m asked).2 = disk := by
  obtain ⟨e, refused⟩ := unlock_waiting (C := C) waiting
  have refusedNormal : ∀ secret, unlockNormal C disk m secret = (.error e, disk) := by
    intro secret
    unfold unlockNormal
    rw [refused]
  cases asked with
  | setPassphrase key passphrase => cases isWrong
  | setDuress passphrase duress => cases counts
  | clearDuress passphrase => cases counts
  | clear passphrase => simp only [Call.instead, call, clear, refusedNormal, Prod.map, id, and_self]
  | unlock secret => simp only [Call.instead, call, refused, Prod.map, id, and_self]
  | isNormalSecret secret =>
    simp only [Call.instead, call, isNormalSecret, refusedNormal, Prod.map, id, and_self]
  | destroy => cases isWrong
  | restart => cases isWrong

/-- A wrong secret that a counted call tries is on record after it. -/
theorem call_counts {asked : Call C} (isWrong : wrong disk m asked = true)
    (counts : asked.skips = false) (free : waitSecs disk m.now = 0) :
    (call C disk m asked).2 = noteFailure disk m.now m.takesAttempts := by
  cases asked with
  | setPassphrase key passphrase => cases isWrong
  | setDuress passphrase duress => cases counts
  | clearDuress passphrase => cases counts
  | clear passphrase =>
    have tried := unlock_wrong free (show opensNeither disk m passphrase = true from isWrong)
    simp only [call, clear, unlockNormal, tried, Prod.map, id]
  | unlock secret =>
    have tried := unlock_wrong free (show opensNeither disk m secret = true from isWrong)
    simp only [call, tried, Prod.map, id]
  | isNormalSecret secret =>
    have tried := unlock_wrong free (show opensNeither disk m secret = true from isWrong)
    simp only [call, isNormalSecret, unlockNormal, tried, Prod.map, id]
  | destroy => cases isWrong
  | restart => cases isWrong

/-- What one call may do to the count: nothing, forget it, or add one at its own time. -/
def CountMoves (disk : Disk) (now : Nat) (left : Disk) : Prop :=
  left.attempts = disk.attempts ∨ left.attempts = none
    ∨ left.attempts = some ⟨min ((readAttempts disk).failures + 1) (2 ^ 32 - 1), now⟩

theorem unlock_moves (disk : Disk) (m : Moment C) (secret : String) :
    CountMoves disk m.now (unlock C disk m secret).2 := by
  have forgets : CountMoves disk m.now (forgetAttempts disk m.takesAttempts) := by
    unfold forgetAttempts
    split
    · exact Or.inr (Or.inl rfl)
    · exact Or.inl rfl
  unfold unlock
  simp only []
  split
  · exact Or.inl rfl
  · split
    · exact Or.inl rfl
    · split
      · exact forgets
      · exact forgets
      · unfold noteFailure
        simp only []
        split
        · exact Or.inr (Or.inr rfl)
        · exact Or.inl rfl

/-- Arming moves the count only by its self-check, which starts from the same count. -/
theorem setDuress_moves (disk : Disk) (m : Moment C) (passphrase duress : String) :
    CountMoves disk m.now (setDuress C disk m passphrase duress).2 := by
  unfold setDuress
  split
  · exact Or.inl rfl
  · split
    · exact Or.inl rfl
    · split
      · exact Or.inl rfl
      · split
        · exact Or.inl rfl
        · split
          · exact Or.inl rfl
          · rename_i slot _
            simp only []
            split
            · exact Or.inl rfl
            · rename_i written wrote
              have counted : written.attempts = disk.attempts := by
                unfold write at wrote
                split at wrote
                · cases wrote
                  rfl
                · cases wrote
              have moves := unlock_moves written m duress
              unfold CountMoves readAttempts at moves
              rw [counted] at moves
              split
              · exact moves
              · unfold putBack
                split <;> exact moves

theorem call_moves (disk : Disk) (m : Moment C) (asked : Call C) :
    CountMoves disk m.now (call C disk m asked).2 := by
  have normal : ∀ secret, CountMoves disk m.now (unlockNormal C disk m secret).2 := by
    intro secret
    rw [unlockNormal_snd]
    exact unlock_moves disk m secret
  cases asked with
  | setPassphrase key passphrase =>
    show CountMoves disk m.now (setPassphrase C disk m key passphrase).2
    unfold setPassphrase write
    split
    · exact Or.inl rfl
    · split
      · exact Or.inl rfl
      · simp only []
        cases m.takesLock <;> exact Or.inl rfl
  | setDuress passphrase duress => exact setDuress_moves disk m passphrase duress
  | clearDuress passphrase =>
    show CountMoves disk m.now (clearDuress C disk m passphrase).2
    unfold clearDuress write
    split
    · exact Or.inl rfl
    · split
      · exact Or.inl rfl
      · simp only []
        cases m.takesLock <;> exact Or.inl rfl
  | clear passphrase =>
    have moves := normal passphrase
    show CountMoves disk m.now (clear C disk m passphrase).2
    unfold clear
    split
    · rename_i unlocked
      rw [unlocked] at moves
      exact moves
    · rename_i unlocked
      rw [unlocked] at moves
      split <;> exact moves
  | unlock secret => exact unlock_moves disk m secret
  | isNormalSecret secret => exact normal secret
  | destroy =>
    show CountMoves disk m.now (destroy disk m.takesLock).2
    unfold destroy
    split
    · exact Or.inl rfl
    · split <;> exact Or.inl rfl
  | restart => exact Or.inl rfl

end Calls

/-- The count only grows over a call: no secret is found that would clear it. -/
def Grows (disk : Disk) (m : Moment C) (asked : Call C) : Prop :=
  (readAttempts disk).failures ≤ (readAttempts (call C disk m asked).2).failures

/--
Over a stretch with no success, the waits imposed between the wrong secrets tried fit in the time
that went by: the debt carried along is the waits so far and the clock's lead over the last failure.
-/
theorem waits_le (failures : Nat) (calls : List (Call C × Moment C)) :
    ∀ (disk : Disk) (before tried time : Nat),
      min (failures + tried) (2 ^ 32 - 1) ≤ (readAttempts disk).failures →
      (tried = 0 ∨ waits failures tried + (before - (readAttempts disk).lastUnix) ≤ time) →
      Along Counted disk calls → Along Grows disk calls →
      waits failures (tried + guessed disk calls) ≤ time + elapsed before calls := by
  induction calls with
  | nil =>
    intro disk before tried time _ debt _ _
    show waits failures tried ≤ time
    rcases debt with rfl | debt
    · exact Nat.zero_le _
    · omega
  | cons asked rest ih =>
    obtain ⟨asked, m⟩ := asked
    intro disk before tried time record debt counted grows
    obtain ⟨counts, countedRest⟩ := counted
    obtain ⟨grows, growsRest⟩ := grows
    have onwards := ih (call C disk m asked).2 m.now
    show waits failures (tried + ((if guesses disk m asked then 1 else 0)
      + guessed (call C disk m asked).2 rest)) ≤ time + ((m.now - before) + elapsed m.now rest)
    by_cases guess : guesses disk m asked = true
    · -- A wrong secret was tried: the wait before it is over, and its failure is on record.
      simp only [guesses, Bool.and_eq_true, Bool.or_eq_true, beq_iff_eq] at guess
      obtain ⟨noSkip, takes⟩ := counts guess.1
      have free : waitSecs disk m.now = 0 := by
        rcases guess.2 with skips | free
        · rw [noSkip] at skips
          cases skips
        · exact free
      have left := call_counts guess.1 noSkip free
      have recorded : readAttempts (call C disk m asked).2 =
          ⟨min ((readAttempts disk).failures + 1) (2 ^ 32 - 1), m.now⟩ := by
        rw [left, takes]
        rfl
      have more := onwards (tried + 1) (time + (m.now - before)) (by
        rw [recorded]
        show min (failures + (tried + 1)) (2 ^ 32 - 1)
          ≤ min ((readAttempts disk).failures + 1) (2 ^ 32 - 1)
        omega) (by
        right
        rw [recorded]
        simp only [Nat.sub_self, Nat.add_zero]
        cases tried with
        | zero => exact Nat.zero_le _
        | succ tried =>
          have passed := wait_le_of_free free
          have longer := waitAfter_mono record
          rw [waitAfter_capped] at longer
          have debt := debt.resolve_left (Nat.succ_ne_zero tried)
          show waits failures (tried + 1) + waitAfter (failures + (tried + 1)) ≤ _
          omega) countedRest growsRest
      rw [if_pos (by simp only [guesses, Bool.and_eq_true, Bool.or_eq_true, beq_iff_eq]; exact guess)]
      rw [show tried + (1 + guessed (call C disk m asked).2 rest)
        = tried + 1 + guessed (call C disk m asked).2 rest by omega]
      omega
    · -- Nothing wrong was tried: the count stands, or a failed self-check added to it.
      have more := onwards tried (time + (m.now - before)) (Nat.le_trans record grows) (by
        rcases debt with none | debt
        · exact Or.inl none
        · rcases Nat.eq_zero_or_pos tried with none | some
          · exact Or.inl none
          · right
            rcases call_moves disk m asked with same | gone | added
            · unfold readAttempts at debt ⊢
              rw [same]
              omega
            · unfold Grows readAttempts at grows
              rw [gone] at grows
              unfold readAttempts at record
              simp only [Option.getD_none] at grows
              omega
            · unfold readAttempts
              rw [added]
              simp only [Option.getD_some, Nat.sub_self]
              omega) countedRest growsRest
      rw [if_neg guess, Nat.zero_add]
      omega

/-- A condition along a run holds along any stretch of it. -/
theorem Along.stretch {P : Disk → Moment C → Call C → Prop} {disk : Disk}
    {before stretch rest : List (Call C × Moment C)}
    (along : Along P disk (before ++ stretch ++ rest)) : Along P (after disk before) stretch := by
  induction before generalizing disk with
  | nil =>
    induction stretch generalizing disk with
    | nil => trivial
    | cons asked stretch ih => exact ⟨along.1, ih along.2⟩
  | cons asked before ih => exact ih along.2

/-- What follows from a condition on the state before a call follows at every call of a run. -/
theorem Along.mono {P Q : Disk → Moment C → Call C → Prop} (follows : ∀ d m a, P d m a → Q d m a)
    {disk : Disk} {calls : List (Call C × Moment C)} (along : Along P disk calls) :
    Along Q disk calls := by
  induction calls generalizing disk with
  | nil => trivial
  | cons asked rest ih => exact ⟨follows _ _ _ along.1, ih along.2⟩

/-- A wrong secret is refused unseen while a wait runs, and counted when none does. -/
def Throttled (disk : Disk) (m : Moment C) (asked : Call C) : Prop :=
  wrong disk m asked = true →
    (0 < waitSecs disk m.now → (call C disk m asked).2 = disk
      ∧ ∀ other, call C disk m (asked.instead other) = call C disk m asked)
    ∧ (waitSecs disk m.now = 0 → (call C disk m asked).2.attempts =
        some ⟨min ((readAttempts disk).failures + 1) (2 ^ 32 - 1), m.now⟩)

/-- A call whose wrong secret takes the counted path is throttled. -/
theorem throttled_of_counted {disk : Disk} {m : Moment C} {asked : Call C}
    (counted : Counted disk m asked) : Throttled disk m asked := by
  intro isWrong
  obtain ⟨counts, takes⟩ := counted isWrong
  constructor
  · intro waiting
    have refused := fun other => call_waiting isWrong counts waiting other
    exact ⟨(refused "").2, fun other => (refused other).1⟩
  · intro free
    rw [call_counts isWrong counts free, takes]
    rfl

/-- A store locked with "1234" after five wrong attempts, the last at time 100. -/
def guessedAt : Disk :=
  ⟨(setPassphrase plain ⟨none, none⟩ (plainMoment 0) ([5] : Bytes) "1234").2.lock, some ⟨5, 100⟩⟩

end Nightdrop.Lock
