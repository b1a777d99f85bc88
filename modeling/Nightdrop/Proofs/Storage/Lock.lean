import Nightdrop.Storage.Lock

/-! What the lock answers over any run of its calls: the keys it knows, and the files it leaves. -/

namespace Nightdrop.Lock

/-- What the lock relies on of the key derivation and of the cipher. -/
structure Crypto.Sound (C : Crypto) : Prop where
  tryInto_bytes : ∀ key, C.tryInto (C.bytes key) = some key
  decrypt_encrypt : ∀ key nonce plain, C.decrypt key nonce (C.encrypt key nonce plain) = some plain
  /-- A wrong key fails the tag. -/
  decrypt_other : ∀ key other nonce plain, key ≠ other →
    C.decrypt key nonce (C.encrypt other nonce plain) = none
  /-- Two secrets, or one at two costs, do not derive one key. -/
  argon2_apart : ∀ secret salt costs secret' salt' costs' key,
    C.argon2 secret salt costs = .ok key → C.argon2 secret' salt' costs' = .ok key →
      secret = secret' ∧ costs = costs'
  /-- Today's costs are parameters that Argon2id takes. -/
  argon2_today : ∀ secret salt, salt.length = 16 → ∃ key, C.argon2 secret salt TODAY = .ok key

/-- A random key is derived from no secret, and a drawn nonce has its length. -/
structure Decoy.Drawn {C : Crypto} (decoy : Decoy C) : Prop where
  apart : ∀ secret salt costs, C.argon2 secret salt costs ≠ .ok decoy.kek
  nonce : decoy.nonce.length = NONCE_LEN

/-- The draws of one call have their lengths. -/
structure Moment.Drawn {C : Crypto} (m : Moment C) : Prop where
  decoy : m.decoy.Drawn
  salt : m.salt.length = 16
  nonce : m.nonce.length = NONCE_LEN

variable {C : Crypto}

section Slots

variable (sound : C.Sound)

include sound in
/-- A sealed blob opens under its own key. -/
theorem openBlob_sealBlob (key : C.StoreKey) {nonce : Bytes} (length : nonce.length = NONCE_LEN)
    (plain : Bytes) : openBlob C key (sealBlob C key nonce plain) = some plain := by
  unfold openBlob sealBlob
  rw [if_neg (by rw [List.length_append, length]; omega), ← length, List.take_left,
    List.drop_left]
  exact sound.decrypt_encrypt key nonce plain

include sound in
/-- A sealed blob opens under no other key. -/
theorem openBlob_other {key other : C.StoreKey} {nonce : Bytes}
    (length : nonce.length = NONCE_LEN) (plain : Bytes) (apart : key ≠ other) :
    openBlob C key (sealBlob C other nonce plain) = none := by
  unfold openBlob sealBlob
  rw [if_neg (by rw [List.length_append, length]; omega), ← length, List.take_left,
    List.drop_left]
  exact sound.decrypt_other key other nonce plain apart

/-- A key that was derived came out of Argon2id. -/
theorem argon2_of_derive {secret : String} {salt : Bytes} {costs : Costs} {key : C.StoreKey}
    (derived : derive C secret salt costs = .ok key) :
    C.argon2 (utf8 secret) salt costs = .ok key := by
  unfold derive at derived
  split at derived
  · exact derived
  · cases derived

/-- Today's costs are within what a lock file may ask for. -/
theorem derive_today (secret : String) (salt : Bytes) :
    derive C secret salt TODAY = C.argon2 (utf8 secret) salt TODAY := by
  unfold derive
  rw [if_pos (by decide)]

include sound in
/-- No secret opens a decoy, at any cost. -/
theorem trySlot_decoySlot {decoy : Decoy C} (drawn : decoy.Drawn) (secret : String)
    (costs : Costs) : trySlot C (decoySlot C decoy) secret costs = none := by
  unfold trySlot decoySlot
  simp only [Base64.decode_encode, Option.bind_eq_bind, Option.bind_some]
  cases derived : derive C secret decoy.salt costs with
  | error e => rfl
  | ok kek =>
    -- The key the decoy is sealed under was derived from nothing.
    have apart : kek ≠ decoy.kek := by
      rintro rfl
      exact drawn.apart _ _ _ (argon2_of_derive derived)
    have shut := openBlob_other sound drawn.nonce (C.bytes decoy.filler) apart
    simp [Except.toOption, shut]

include sound in
/-- A wrapped slot opens to its key for its own secret at today's costs, and for nothing else. -/
theorem trySlot_wrapSlot {key : C.StoreKey} {secret : String} {salt nonce : Bytes} {slot : Slot}
    (length : nonce.length = NONCE_LEN) (wrapped : wrapSlot C key secret salt nonce = .ok slot)
    (tried : String) (costs : Costs) :
    trySlot C slot tried costs = if tried = secret ∧ costs = TODAY then some key else none := by
  unfold wrapSlot at wrapped
  cases derived : derive C secret salt TODAY with
  | error e =>
    rw [derived] at wrapped
    cases wrapped
  | ok kek =>
    rw [derived] at wrapped
    cases wrapped
    unfold trySlot
    simp only [Base64.decode_encode, Option.bind_eq_bind, Option.bind_some]
    by_cases own : tried = secret ∧ costs = TODAY
    · rw [if_pos own, own.1, own.2, derived]
      have opens := openBlob_sealBlob sound kek length (C.bytes key)
      simp [Except.toOption, opens, sound.tryInto_bytes]
    · rw [if_neg own]
      cases other : derive C tried salt costs with
      | error e => rfl
      | ok kek' =>
        -- Another secret, or the same one at other costs, derives another key.
        have apart : kek' ≠ kek := by
          rintro rfl
          have same := sound.argon2_apart _ _ _ _ _ _ _ (argon2_of_derive other)
            (argon2_of_derive derived)
          exact own ⟨utf8_inj.mp same.1, same.2⟩
        have shut := openBlob_other sound length (C.bytes key) apart
        simp [Except.toOption, shut]

end Slots

/-- What the owner of a lock knows of it: the key behind it, the passphrase and the wipe code. -/
structure Known (C : Crypto) where
  key : C.StoreKey
  normal : String
  /-- The duress secret, where one is armed. -/
  duress : Option String

/-- The slots of a lock open for what its owner knows, and for nothing else. -/
structure Known.Opens (known : Known C) (lock : LockV2) : Prop where
  normal : ∀ secret, trySlot C lock.normal secret lock.costs =
    if secret = known.normal then some known.key else none
  duress : ∀ secret, (trySlot C lock.duress secret lock.costs).isSome = true ↔
    known.duress = some secret
  apart : known.duress ≠ some known.normal

/-- The lock file is the one its owner knows; with nothing known, no lock file reads. -/
def Matches (known : Option (Known C)) (disk : Disk) : Prop :=
  match known with
  | none => ∀ decoy : Decoy C, ∃ e, read C disk decoy = .error e
  | some known => ∀ decoy : Decoy C, decoy.Drawn →
    ∃ lock, read C disk decoy = .ok lock ∧ known.Opens lock

/-- What a secret stands for to the owner. -/
def verdict (known : Option (Known C)) (secret : String) : Option (Opened C) :=
  known.bind fun known =>
    if secret = known.normal then some (.normal known.key)
    else if known.duress = some secret then some .duress else none

/-- What the owner knows after a call: only a call that succeeds changes it. -/
def learn (known : Option (Known C)) (asked : Call C) (answer : Except String (Answer C)) :
    Option (Known C) :=
  match answer with
  | .error _ => known
  | .ok _ =>
    match asked with
    | .setPassphrase key passphrase => some ⟨key, passphrase, none⟩
    | .setDuress _ duress => known.map fun known => { known with duress := some duress }
    | .clearDuress _ => known.map fun known => { known with duress := none }
    | .clear _ => none
    | .destroy => none
    | .unlock _ | .isNormalSecret _ | .restart => known

/-- One call, and what its owner knows of the lock after it. -/
def step (world : Option (Known C) × Disk) (asked : Call C × Moment C) :
    Option (Known C) × Disk :=
  let (answer, disk) := call C world.2 asked.2 asked.1
  (learn world.1 asked.1 answer, disk)

/-- A run of calls. -/
def run (world : Option (Known C) × Disk) (calls : List (Call C × Moment C)) :
    Option (Known C) × Disk :=
  calls.foldl step world

section Answers

variable {known : Option (Known C)} {disk : Disk}

/-- Reading looks at the lock file alone. -/
theorem read_congr {disk other : Disk} (same : other.lock = disk.lock) (decoy : Decoy C) :
    read C other decoy = read C disk decoy := by
  unfold read
  rw [same]

/-- A match is about the lock file alone. -/
theorem Matches.congr {disk other : Disk} (same : other.lock = disk.lock)
    (matched : Matches known disk) : Matches known other := by
  cases known with
  | none => exact fun decoy => by rw [read_congr same]; exact matched decoy
  | some known => exact fun decoy drawn => by rw [read_congr same]; exact matched decoy drawn

@[simp] theorem forgetAttempts_lock (disk : Disk) (takes : Bool) :
    (forgetAttempts disk takes).lock = disk.lock := by
  unfold forgetAttempts
  split <;> rfl

@[simp] theorem noteFailure_lock (disk : Disk) (now : Nat) (takes : Bool) :
    (noteFailure disk now takes).lock = disk.lock := by
  unfold noteFailure
  simp only []
  split <;> rfl

/-- An unlock leaves the lock file as it was, whatever it answers. -/
@[simp] theorem unlock_lock (disk : Disk) (m : Moment C) (secret : String) :
    (unlock C disk m secret).2.lock = disk.lock := by
  unfold unlock
  simp only []
  split
  · rfl
  · split
    · rfl
    · split
      · exact forgetAttempts_lock disk _
      · exact forgetAttempts_lock disk _
      · exact noteFailure_lock disk _ _

@[simp] theorem unlockNormal_lock (disk : Disk) (m : Moment C) (secret : String) :
    (unlockNormal C disk m secret).2.lock = disk.lock := by
  rw [← unlock_lock disk m secret]
  unfold unlockNormal
  split
  all_goals
    rename_i answered
    rw [answered]

/-- With no wait running, an unlock answers by the slots of the lock file alone. -/
theorem unlock_of_read {m : Moment C} {lock : LockV2} (free : waitSecs disk m.now = 0)
    (reads : read C disk m.decoy = .ok lock) (secret : String) :
    (unlock C disk m secret).1.toOption =
      match trySlot C lock.normal secret lock.costs with
      | some key => some (.normal key)
      | none => if (trySlot C lock.duress secret lock.costs).isSome then some .duress else none := by
  unfold unlock
  simp only []
  rw [if_neg (by omega), reads]
  simp only []
  cases trySlot C lock.normal secret lock.costs with
  | some key => rfl
  | none =>
    cases trySlot C lock.duress secret lock.costs with
    | some filler => rfl
    | none => rfl

/-- With no wait running, an unlock answers what the secret stands for to the owner. -/
theorem unlock_verdict (matched : Matches known disk) {m : Moment C} (drawn : m.Drawn)
    (free : waitSecs disk m.now = 0) (secret : String) :
    (unlock C disk m secret).1.toOption = verdict known secret := by
  cases known with
  | none =>
    obtain ⟨e, unread⟩ := matched m.decoy
    unfold unlock
    simp only []
    rw [if_neg (by omega), unread]
    rfl
  | some known =>
    obtain ⟨lock, reads, opens⟩ := matched m.decoy drawn.decoy
    rw [unlock_of_read free reads, opens.normal]
    unfold verdict
    simp only [Option.bind_some]
    by_cases normal : secret = known.normal
    · rw [if_pos normal, if_pos normal]
    · rw [if_neg normal, if_neg normal]
      simp only [opens.duress]

/-- An unlock that succeeds met no wait. -/
theorem free_of_unlock {m : Moment C} {secret : String} {opened : Opened C}
    (unlocked : (unlock C disk m secret).1 = .ok opened) : waitSecs disk m.now = 0 := by
  unfold unlock at unlocked
  simp only [] at unlocked
  split at unlocked
  · cases unlocked
  · omega

/-- A secret that reports duress opens the duress slot. -/
theorem duress_of_unlock {m : Moment C} {lock : LockV2} {secret : String}
    (reads : read C disk m.decoy = .ok lock)
    (unlocked : (unlock C disk m secret).1 = .ok .duress) :
    (trySlot C lock.duress secret lock.costs).isSome = true := by
  have answered := unlock_of_read (free_of_unlock unlocked) reads secret
  rw [unlocked] at answered
  cases normal : trySlot C lock.normal secret lock.costs with
  | some key =>
    rw [normal] at answered
    cases answered
  | none =>
    rw [normal] at answered
    simp only [] at answered
    split at answered
    · assumption
    · cases answered

/-- The lock that arming a duress secret writes. -/
def armedLock (lock : LockV2) (slot : Slot) (armed : String) : LockV2 :=
  { lock with
    v := 2
    duress := slot
    armed }

/-- Arming succeeds when the secrets prove out and the self-check does; its lock is then written. -/
theorem setDuress_done {m : Moment C} {passphrase duress : String} {answer : Unit}
    (done : (setDuress C disk m passphrase duress).1 = .ok answer) :
    ∃ lock slot key, read C disk m.decoy = .ok lock
      ∧ trySlot C lock.normal passphrase lock.costs = some key
      ∧ trySlot C lock.normal duress lock.costs = none
      ∧ wrapSlot C m.filler duress m.salt m.nonce = .ok slot
      ∧ (trySlot C slot duress lock.costs).isSome = true
      ∧ (setDuress C disk m passphrase duress).2.lock =
        some (.v2 (armedLock lock slot (sealArmed C key m.armedNonce true))) := by
  unfold setDuress at done ⊢
  split at done
  · cases done
  · cases reads : read C disk m.decoy with
    | error e => rw [reads] at done; cases done
    | ok lock =>
      rw [reads] at done
      simp only [] at done ⊢
      rw [if_neg ‹_›]
      cases owner : trySlot C lock.normal passphrase lock.costs with
      | none => rw [owner] at done; cases done
      | some key =>
        rw [owner] at done
        simp only [] at done ⊢
        split at done
        · cases done
        · rename_i unlike
          rw [if_neg unlike]
          cases wrapped : wrapSlot C m.filler duress m.salt m.nonce with
          | error e => rw [wrapped] at done; cases done
          | ok slot =>
            rw [wrapped] at done
            simp only [] at done ⊢
            unfold write at done ⊢
            cases takes : m.takesLock with
            | false => rw [takes] at done; cases done
            | true =>
              rw [takes] at done
              simp only [if_true] at done ⊢
              -- Only a self-check that answers duress lets the call succeed.
              split at done
              · rename_i checked
                refine ⟨lock, slot, key, rfl, owner, ?_, rfl, ?_, ?_⟩
                · simpa using unlike
                · have stored : read C
                      { disk with lock := some (.v2 (armedLock lock slot (sealArmed C key m.armedNonce true))) } m.decoy
                        = .ok (armedLock lock slot (sealArmed C key m.armedNonce true)) := rfl
                  exact duress_of_unlock stored checked
                · exact unlock_lock _ m duress
              · unfold putBack at done
                split at done <;> cases done

/-- Arming that fails leaves the lock file as it was, if the disk takes the earlier one back. -/
theorem setDuress_failed {m : Moment C} (takes : m.takesRestore = true) {passphrase duress e : String}
    (failed : (setDuress C disk m passphrase duress).1 = .error e) :
    (setDuress C disk m passphrase duress).2.lock = disk.lock := by
  unfold setDuress at failed ⊢
  split
  · rfl
  · rename_i nonempty
    rw [if_neg nonempty] at failed
    cases reads : read C disk m.decoy with
    | error e => rfl
    | ok lock =>
      rw [reads] at failed
      simp only [] at failed ⊢
      cases owner : trySlot C lock.normal passphrase lock.costs with
      | none => rfl
      | some key =>
        rw [owner] at failed
        simp only [] at failed ⊢
        split
        · rfl
        · rename_i unlike
          rw [if_neg unlike] at failed
          cases wrapped : wrapSlot C m.filler duress m.salt m.nonce with
          | error e => rfl
          | ok slot =>
            rw [wrapped] at failed
            simp only [] at failed ⊢
            unfold write at failed ⊢
            cases written : m.takesLock with
            | false => rfl
            | true =>
              rw [written] at failed
              simp only [if_true] at failed ⊢
              split at failed
              · cases failed
              · -- The earlier bytes go back over the lock just written.
                unfold putBack
                rw [takes]
                rfl

/-- Arming succeeds on a lock of today's costs once no wait runs and the disk takes the write. -/
theorem setDuress_succeeds (sound : C.Sound) {known : Known C} {m : Moment C} (drawn : m.Drawn)
    {lock : LockV2} (reads : read C disk m.decoy = .ok lock) (opens : known.Opens lock)
    (today : lock.costs = TODAY) (free : waitSecs disk m.now = 0) (takes : m.takesLock = true)
    {duress : String} (nonempty : duress ≠ "") (apart : duress ≠ known.normal) :
    (setDuress C disk m known.normal duress).1 = .ok () := by
  have owner : trySlot C lock.normal known.normal lock.costs = some known.key := by
    rw [opens.normal, if_pos rfl]
  have unlike : trySlot C lock.normal duress lock.costs = none := by
    rw [opens.normal, if_neg apart]
  obtain ⟨kek, derived⟩ := sound.argon2_today (utf8 duress) m.salt drawn.salt
  obtain ⟨slot, wrapped⟩ : ∃ slot, wrapSlot C m.filler duress m.salt m.nonce = .ok slot := by
    unfold wrapSlot
    rw [derive_today, derived]
    exact ⟨_, rfl⟩
  have wipes : trySlot C slot duress lock.costs = some m.filler := by
    rw [trySlot_wrapSlot sound drawn.nonce wrapped, if_pos ⟨rfl, today⟩]
  unfold setDuress
  rw [if_neg nonempty, reads]
  simp only [owner, unlike, wrapped, write, takes, if_true, Option.isSome_none, Bool.false_eq_true,
    if_false]
  -- The self-check reads the lock just written, under the count of before.
  have checked : ∀ written : Disk, written.attempts = disk.attempts →
      written.lock = some (.v2 (armedLock lock slot (sealArmed C known.key m.armedNonce true))) →
      (unlock C written m duress).1 = .ok .duress := by
    intro written counted held
    have free' : waitSecs written m.now = 0 := by
      rw [← free]
      unfold waitSecs readAttempts
      rw [counted]
    have reads' : read C written m.decoy =
        .ok (armedLock lock slot (sealArmed C known.key m.armedNonce true)) := by
      unfold read
      rw [held]
    have answered := unlock_of_read free' reads' duress
    simp only [armedLock, unlike, wipes, Option.isSome_some, if_true] at answered
    cases unlocked : (unlock C written m duress).1 with
    | error e =>
      rw [unlocked] at answered
      cases answered
    | ok opened =>
      rw [unlocked] at answered
      cases answered
      rfl
  have passed := checked
    ⟨some (.v2 (armedLock lock slot (sealArmed C known.key m.armedNonce true))), disk.attempts⟩
    rfl rfl
  unfold armedLock at passed
  rw [passed]

/-- What arming leaves is the lock its owner knows, the new secret included. -/
theorem setDuress_matches (sound : C.Sound) {known : Option (Known C)} (matched : Matches known disk)
    {m : Moment C} (drawn : m.Drawn) {passphrase duress : String} {answer : Unit}
    (done : (setDuress C disk m passphrase duress).1 = .ok answer) :
    Matches (known.map fun known => { known with duress := some duress })
      (setDuress C disk m passphrase duress).2 := by
  obtain ⟨lock, slot, key, reads, owner, unlike, wrapped, wipes, left⟩ := setDuress_done done
  cases known with
  | none =>
    obtain ⟨e, unread⟩ := matched m.decoy
    rw [reads] at unread
    cases unread
  | some known =>
    obtain ⟨lock', reads', opens⟩ := matched m.decoy drawn.decoy
    obtain rfl : lock = lock' := by
      rw [reads] at reads'
      cases reads'
      rfl
    have slotOpens := trySlot_wrapSlot sound drawn.nonce wrapped
    -- The self-check opened the new slot, so the file's costs are today's.
    have today : lock.costs = TODAY := by
      rw [slotOpens] at wipes
      by_contra other
      rw [if_neg (fun both => other both.2)] at wipes
      cases wipes
    intro decoy _
    refine ⟨armedLock lock slot (sealArmed C key m.armedNonce true), ?_, ?_, ?_, ?_⟩
    · unfold read
      rw [left]
    · exact opens.normal
    · intro secret
      show (trySlot C slot secret lock.costs).isSome = true ↔ some duress = some secret
      rw [slotOpens]
      constructor
      · intro opened
        split at opened
        · rename_i same
          rw [same.1]
        · cases opened
      · rintro ⟨⟩
        rw [if_pos ⟨rfl, today⟩]
        rfl
    · -- A secret that opens the normal slot was refused.
      intro same
      rw [opens.normal, if_pos (Option.some.inj same)] at unlike
      cases unlike

/-- A passphrase that is set is the one the new lock opens for, and no wipe code is armed. -/
theorem setPassphrase_matches (sound : C.Sound) {m : Moment C} (drawn : m.Drawn)
    {key : C.StoreKey} {passphrase : String} {answer : Unit}
    (done : (setPassphrase C disk m key passphrase).1 = .ok answer) :
    Matches (some ⟨key, passphrase, none⟩) (setPassphrase C disk m key passphrase).2 := by
  unfold setPassphrase at done ⊢
  split
  · rename_i empty
    rw [if_pos empty] at done
    cases done
  · rename_i nonempty
    rw [if_neg nonempty] at done
    cases wrapped : wrapSlot C key passphrase m.salt m.nonce with
    | error e => rw [wrapped] at done; cases done
    | ok normal =>
      rw [wrapped] at done
      simp only [] at done ⊢
      unfold write at done ⊢
      cases takes : m.takesLock with
      | false => rw [takes] at done; cases done
      | true =>
        intro decoy _
        refine ⟨_, rfl, ?_, ?_, ?_⟩
        · intro secret
          simp only [trySlot_wrapSlot sound drawn.nonce wrapped, and_true]
        · intro secret
          simp [trySlot_decoySlot sound drawn.decoy]
        · simp

/-- A passphrase that could not be set leaves the files as they were. -/
theorem setPassphrase_failed {m : Moment C} {key : C.StoreKey} {passphrase e : String}
    (failed : (setPassphrase C disk m key passphrase).1 = .error e) :
    (setPassphrase C disk m key passphrase).2 = disk := by
  unfold setPassphrase at failed ⊢
  split
  · rfl
  · rename_i nonempty
    rw [if_neg nonempty] at failed
    cases wrapped : wrapSlot C key passphrase m.salt m.nonce with
    | error e => rfl
    | ok normal =>
      rw [wrapped] at failed
      simp only [] at failed ⊢
      unfold write at failed ⊢
      cases takes : m.takesLock with
      | false => rfl
      | true => rw [takes] at failed; cases failed

/-- Disarming leaves a lock that opens for the same passphrase and for no wipe code. -/
theorem clearDuress_matches (sound : C.Sound) {known : Option (Known C)}
    (matched : Matches known disk) {m : Moment C} (drawn : m.Drawn) {passphrase : String}
    {answer : Unit} (done : (clearDuress C disk m passphrase).1 = .ok answer) :
    Matches (known.map fun known => { known with duress := none })
      (clearDuress C disk m passphrase).2 := by
  cases known with
  | none =>
    obtain ⟨e, unread⟩ := matched m.decoy
    unfold clearDuress at done
    rw [unread] at done
    cases done
  | some known =>
    obtain ⟨lock, reads, opens⟩ := matched m.decoy drawn.decoy
    unfold clearDuress at done ⊢
    rw [reads] at done ⊢
    simp only [] at done ⊢
    cases owner : trySlot C lock.normal passphrase lock.costs with
    | none => rw [owner] at done; cases done
    | some key =>
      rw [owner] at done
      simp only [] at done ⊢
      unfold write at done ⊢
      cases takes : m.takesLock with
      | false => rw [takes] at done; cases done
      | true =>
        intro decoy _
        refine ⟨_, rfl, opens.normal, ?_, ?_⟩
        · intro secret
          simp [trySlot_decoySlot sound drawn.decoy]
        · simp

/-- Disarming that fails leaves the files as they were. -/
theorem clearDuress_failed {m : Moment C} {passphrase e : String}
    (failed : (clearDuress C disk m passphrase).1 = .error e) :
    (clearDuress C disk m passphrase).2 = disk := by
  unfold clearDuress at failed ⊢
  cases reads : read C disk m.decoy with
  | error e => rfl
  | ok lock =>
    rw [reads] at failed
    simp only [] at failed ⊢
    cases owner : trySlot C lock.normal passphrase lock.costs with
    | none => rfl
    | some key =>
      rw [owner] at failed
      simp only [] at failed ⊢
      unfold write at failed ⊢
      cases takes : m.takesLock with
      | false => rfl
      | true => rw [takes] at failed; cases failed

/-- With no lock file there is nothing to read. -/
theorem matches_none {disk : Disk} (gone : disk.lock = none) : Matches (C := C) none disk := by
  intro decoy
  unfold read
  rw [gone]
  exact ⟨_, rfl⟩

/-- A lock that was removed leaves nothing to read. -/
theorem clear_done {m : Moment C} {passphrase : String} {key : C.StoreKey}
    (done : (clear C disk m passphrase).1 = .ok key) :
    (clear C disk m passphrase).2.lock = none := by
  unfold clear at done ⊢
  split
  · rename_i unlocked
    rw [unlocked] at done
    cases done
  · rename_i unlocked
    rw [unlocked] at done
    simp only [] at done
    split at done
    · rename_i takes
      rw [if_pos takes]
    · cases done

/-- A removal that fails leaves the lock file as it was. -/
theorem clear_failed {m : Moment C} {passphrase e : String}
    (failed : (clear C disk m passphrase).1 = .error e) :
    (clear C disk m passphrase).2.lock = disk.lock := by
  have kept := unlockNormal_lock disk m passphrase
  unfold clear at failed ⊢
  split
  · rename_i unlocked
    rw [unlocked] at kept
    exact kept
  · rename_i unlocked
    rw [unlocked] at kept failed
    simp only [] at failed
    split at failed
    · cases failed
    · rename_i refused
      rw [if_neg refused]
      exact kept

end Answers

/-- A call that fails leaves the lock file as it was, if the disk takes back what arming wrote. -/
theorem call_failed (disk : Disk) (m : Moment C) (takes : m.takesRestore = true)
    (asked : Call C) {e : String} (failed : (call C disk m asked).1 = .error e) :
    (call C disk m asked).2.lock = disk.lock := by
  -- An answer is an error of the call exactly when it is one of the worker.
  have worker : ∀ {α : Type} {answer : Except String α} {f : α → Answer C},
      answer.map f = .error e → answer = .error e := by
    intro α answer f failed
    cases answer with
    | error e' => simpa [Except.map] using failed
    | ok a => cases failed
  cases asked with
  | setPassphrase key passphrase =>
    show (setPassphrase C disk m key passphrase).2.lock = _
    rw [setPassphrase_failed (worker failed)]
  | setDuress passphrase duress => exact setDuress_failed takes (worker failed)
  | clearDuress passphrase =>
    show (clearDuress C disk m passphrase).2.lock = _
    rw [clearDuress_failed (worker failed)]
  | clear passphrase => exact clear_failed (worker failed)
  | unlock secret => exact unlock_lock disk m secret
  | isNormalSecret secret => exact unlockNormal_lock disk m secret
  | destroy =>
    have failed' : (destroy disk m.takesLock).1 = .error e := worker failed
    show (destroy disk m.takesLock).2.lock = _
    unfold destroy at failed' ⊢
    split
    · rfl
    · rename_i present
      rw [if_neg present] at failed'
      split at failed'
      · cases failed'
      · rename_i refused
        rw [if_neg refused]
  | restart => rfl

/-- One call leaves the lock file its owner knows. -/
theorem step_matches (sound : C.Sound) {known : Option (Known C)} {disk : Disk}
    (matched : Matches known disk) {asked : Call C × Moment C} (drawn : asked.2.Drawn)
    (takes : asked.2.takesRestore = true) :
    Matches (step (known, disk) asked).1 (step (known, disk) asked).2 := by
  obtain ⟨asked, m⟩ := asked
  show Matches (learn known asked (call C disk m asked).1) (call C disk m asked).2
  cases answered : (call C disk m asked).1 with
  | error e => exact matched.congr (call_failed disk m takes asked answered)
  | ok answer =>
    -- The worker's own answer, one call at a time.
    cases asked with
    | setPassphrase key passphrase =>
      cases done : (setPassphrase C disk m key passphrase).1 with
      | error e => simp [call, done, Except.map] at answered
      | ok _ => exact setPassphrase_matches sound drawn done
    | setDuress passphrase duress =>
      cases done : (setDuress C disk m passphrase duress).1 with
      | error e => simp [call, done, Except.map] at answered
      | ok _ => exact setDuress_matches sound matched drawn done
    | clearDuress passphrase =>
      cases done : (clearDuress C disk m passphrase).1 with
      | error e => simp [call, done, Except.map] at answered
      | ok _ => exact clearDuress_matches sound matched drawn done
    | clear passphrase =>
      cases done : (clear C disk m passphrase).1 with
      | error e => simp [call, done, Except.map] at answered
      | ok _ => exact matches_none (clear_done done)
    | unlock secret => exact matched.congr (unlock_lock disk m secret)
    | isNormalSecret secret => exact matched.congr (unlockNormal_lock disk m secret)
    | destroy =>
      apply matches_none
      show (destroy disk m.takesLock).2.lock = none
      simp only [call, destroy, Prod.map_fst] at answered
      unfold destroy
      split
      · rename_i absent
        exact Option.isNone_iff_eq_none.mp absent
      · rename_i present
        rw [if_neg present] at answered
        split
        · rfl
        · rename_i refused
          rw [if_neg refused] at answered
          cases answered
    | restart => exact matched

/-- A run of calls leaves the lock file its owner knows. -/
theorem run_matches (sound : C.Sound) (calls : List (Call C × Moment C))
    (settled : ∀ asked ∈ calls, asked.2.Drawn ∧ asked.2.takesRestore = true)
    (world : Option (Known C) × Disk) (matched : Matches world.1 world.2) :
    Matches (run world calls).1 (run world calls).2 := by
  induction calls generalizing world with
  | nil => exact matched
  | cons asked rest ih =>
    obtain ⟨drawn, takes⟩ := settled asked (List.mem_cons_self ..)
    exact ih (fun other among => settled other (List.mem_cons_of_mem _ among)) (step world asked)
      (step_matches sound matched drawn takes)

/--
Over every run of calls on the lock: an unlock that meets no wait answers what the secret stands
for, arming succeeds on a lock of today's costs while no wait runs, and a call that fails leaves
the lock file as it was.
-/
theorem lock_answers (sound : C.Sound) (known : Option (Known C)) (disk : Disk)
    (matched : Matches known disk) (calls : List (Call C × Moment C))
    (settled : ∀ asked ∈ calls, asked.2.Drawn ∧ asked.2.takesRestore = true)
    (m : Moment C) (drawn : m.Drawn) :
    let world := run (known, disk) calls
    (waitSecs world.2 m.now = 0 →
      ∀ secret, (unlock C world.2 m secret).1.toOption = verdict world.1 secret)
    ∧ (∀ owner lock duress, world.1 = some owner → read C world.2 m.decoy = .ok lock →
        lock.costs = TODAY → waitSecs world.2 m.now = 0 → m.takesLock = true →
        duress ≠ "" → duress ≠ owner.normal →
        (setDuress C world.2 m owner.normal duress).1 = .ok ())
    ∧ (m.takesRestore = true → ∀ asked e, (call C world.2 m asked).1 = .error e →
        (call C world.2 m asked).2.lock = world.2.lock) := by
  intro world
  have held : Matches world.1 world.2 := run_matches sound calls settled (known, disk) matched
  refine ⟨fun free secret => unlock_verdict held drawn free secret, ?_, ?_⟩
  · intro owner lock duress knows reads today free takes nonempty apart
    rw [knows] at held
    obtain ⟨lock', reads', opens⟩ := held m.decoy drawn.decoy
    obtain rfl : lock = lock' := by
      rw [reads] at reads'
      cases reads'
      rfl
    exact setDuress_succeeds sound drawn reads opens today free takes nonempty apart
  · exact fun takes asked e failed => call_failed world.2 m takes asked failed

section Plain

/-- A key's bytes, each behind a one. -/
def mark (key : Bytes) : Bytes := key.flatMap fun b => [1, b]

/-- What stands behind a key's marked bytes and a zero. -/
def unmark : Bytes → Bytes → Option Bytes
  | [], 0 :: plain => some plain
  | b :: key, 1 :: c :: rest => if b = c then unmark key rest else none
  | _, _ => none

/-- The four bytes of a cost. -/
def costBytes (n : UInt32) : Bytes :=
  [UInt8.ofNat n.toNat, UInt8.ofNat (n.toNat / 256), UInt8.ofNat (n.toNat / 65536),
    UInt8.ofNat (n.toNat / 16777216)]

/-- A derivation and a cipher that hide nothing, but keep keys apart as the real ones do. -/
def plain : Crypto where
  StoreKey := Bytes
  decKey := inferInstance
  bytes := id
  tryInto := some
  argon2 := fun secret _ costs =>
    .ok (mark secret ++ 0 :: (costBytes costs.mCostKib ++ costBytes costs.tCost
      ++ costBytes costs.pCost))
  encrypt := fun key _ text => mark key ++ 0 :: text
  decrypt := fun key _ blob => unmark key blob

/-- A marked key is read back by itself and by no other. -/
theorem unmark_mark (key other text : Bytes) :
    unmark key (mark other ++ 0 :: text) = if key = other then some text else none := by
  induction key generalizing other with
  | nil =>
    cases other with
    | nil => rfl
    | cons b other => simp [mark, unmark]
  | cons b key ih =>
    cases other with
    | nil => simp [mark, unmark]
    | cons c other =>
      show (if b = c then unmark key (mark other ++ 0 :: text) else none) = _
      by_cases same : b = c
      · rw [if_pos same, ih, same]
        simp
      · rw [if_neg same, if_neg]
        rintro ⟨⟩
        exact same rfl

/-- A cost is read off its bytes. -/
theorem costBytes_inj {a b : UInt32} (same : costBytes a = costBytes b) : a = b := by
  have digit : ∀ {m n : Nat}, UInt8.ofNat m = UInt8.ofNat n → m % 256 = n % 256 := by
    intro m n equal
    simpa using congrArg UInt8.toNat equal
  simp only [costBytes, List.cons.injEq, and_true] at same
  obtain ⟨first, second, third, fourth⟩ := same
  have first := digit first
  have second := digit second
  have third := digit third
  have fourth := digit fourth
  have small := a.toNat_lt
  have small' := b.toNat_lt
  apply UInt32.toNat_inj.mp
  omega

theorem plain_sound : plain.Sound where
  tryInto_bytes := fun _ => rfl
  decrypt_encrypt := fun key _ text => 
    (unmark_mark key key text).trans (if_pos rfl)
  decrypt_other := fun key other _ text apart => 
    (unmark_mark key other text).trans (if_neg apart)
  argon2_apart := by
    intro secret _ costs secret' _ costs' key first second
    have same := Except.ok.inj (first.trans second.symm)
    have read := congrArg (unmark secret) same
    rw [unmark_mark, unmark_mark, if_pos rfl] at read
    split at read
    · rename_i equal
      refine ⟨equal, ?_⟩
      have parts := Option.some.inj read
      have front := List.append_inj parts rfl
      have middle := List.append_inj front.1 rfl
      have m := costBytes_inj middle.1
      have t := costBytes_inj middle.2
      have p := costBytes_inj front.2
      cases costs
      cases costs'
      simp_all
    · cases read
  argon2_today := fun _ _ _ => ⟨_, rfl⟩

/-- The surroundings of a call at one time, on a disk that takes every write. -/
def plainMoment (now : Nat) : Moment plain where
  now
  decoy := ⟨List.replicate 16 0, ([2] : Bytes), ([7] : Bytes), List.replicate 12 0⟩
  salt := List.replicate 16 1
  nonce := List.replicate 12 1
  filler := ([8] : Bytes)
  armedNonce := List.replicate 12 2
  takesLock := true
  takesRestore := true
  takesAttempts := true

theorem plainMoment_drawn (now : Nat) : (plainMoment now).Drawn where
  decoy := by
    refine ⟨?_, rfl⟩
    intro secret salt costs same
    -- Every derived key starts with a mark or with the zero behind the last one.
    cases secret with
    | nil => cases Except.ok.inj same
    | cons b secret => cases Except.ok.inj same
  salt := rfl
  nonce := rfl

/-- A lock whose passphrase is "1234", written by a build with the crate's default costs. -/
def earlierLock : LockV2 where
  v := 2
  costs := ⟨19 * 1024, 2, 1⟩
  normal :=
    { salt := Base64.encode (List.replicate 16 0)
      wrapped := Base64.encode (sealBlob plain
        (mark (utf8 "1234") ++ 0 :: (costBytes (19 * 1024) ++ costBytes 2 ++ costBytes 1) : Bytes)
        (List.replicate 12 0) [5]) }
  duress := decoySlot plain (plainMoment 0).decoy
  armed := ""

/--
A lock of other costs opens for its passphrase and yet cannot be armed, and while a wait runs the
right passphrase is refused.
-/
theorem earlier_lock_unarmed :
    (unlock plain ⟨some (.v2 earlierLock), none⟩ (plainMoment 0) "1234").1.toOption
        = some (.normal ([5] : Bytes))
    ∧ (setDuress plain ⟨some (.v2 earlierLock), none⟩ (plainMoment 0) "1234" "9999").1.toOption
        = none
    ∧ waitSecs ⟨some (.v2 earlierLock), some ⟨5, 100⟩⟩ 110 = 20
    ∧ (unlock plain ⟨some (.v2 earlierLock), some ⟨5, 100⟩⟩ (plainMoment 110) "1234").1.toOption
        = none := by
  decide +kernel

/-- On a store just locked, each part holds with its conditions met. -/
theorem lock_answers_fresh :
    Matches (C := plain) none ⟨none, none⟩
    ∧ (unlock plain (run (none, ⟨none, none⟩)
        [(.setPassphrase ([5] : Bytes) "1234", plainMoment 0)]).2 (plainMoment 1) "1234").1.toOption
        = some (.normal ([5] : Bytes))
    ∧ (setDuress plain (run (none, ⟨none, none⟩)
        [(.setPassphrase ([5] : Bytes) "1234", plainMoment 0)]).2 (plainMoment 1) "1234" "9999").1
        = .ok () := by
  have start : Matches (C := plain) none ⟨none, none⟩ := matches_none rfl
  have whole := lock_answers plain_sound none ⟨none, none⟩ start
    [(.setPassphrase ([5] : Bytes) "1234", plainMoment 0)]
    (by
      intro asked among
      rw [List.mem_singleton.mp among]
      exact ⟨plainMoment_drawn 0, rfl⟩)
    (plainMoment 1) (plainMoment_drawn 1)
  refine ⟨start, ?_, ?_⟩
  · rw [whole.1 (by decide +kernel) "1234"]
    decide +kernel
  · exact whole.2.1 ⟨([5] : Bytes), "1234", none⟩ _ "9999" rfl rfl rfl (by decide +kernel) rfl
      (by decide) (by decide)

end Plain

end Nightdrop.Lock
