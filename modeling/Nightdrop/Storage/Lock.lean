import Nightdrop.Lib.Base64
import Nightdrop.Lib.Text

/-! The passphrase lock of the store key: its file, its two slots and the throttle on guessing. -/

namespace Nightdrop.Lock

/-- The Argon2id costs a lock file carries. -/
structure Costs where
  mCostKib : UInt32
  tCost : UInt32
  pCost : UInt32
  deriving DecidableEq, Repr

/-- The costs every slot written today is derived at. -/
def TODAY : Costs := ⟨64 * 1024, 3, 1⟩

/-- The largest costs a lock file may ask for. -/
def LARGEST : Costs := ⟨1024 * 1024, 16, 8⟩

/-- The length of a nonce, which stands ahead of its ciphertext. -/
def NONCE_LEN : Nat := 12

/-- The key derivation and the cipher the lock rests on. -/
structure Crypto where
  /-- A key of 32 bytes. -/
  StoreKey : Type
  decKey : DecidableEq StoreKey
  /-- The bytes of a key. -/
  bytes : StoreKey → Bytes
  /-- The key some bytes are, if they are as many as a key has. -/
  tryInto : Bytes → Option StoreKey
  /-- Argon2id of a secret with a salt. -/
  argon2 : Bytes → Bytes → Costs → Except String StoreKey
  /-- ChaCha20-Poly1305 of a plaintext under a key with a nonce. -/
  encrypt : StoreKey → Bytes → Bytes → Bytes
  decrypt : StoreKey → Bytes → Bytes → Option Bytes

instance (C : Crypto) : DecidableEq C.StoreKey := C.decKey

/-- One wrapped key with its own salt, both in base64. -/
structure Slot where
  salt : String
  wrapped : String
  deriving DecidableEq, Repr

/-- A lock file of today's format: the duress slot is always there, real or a decoy. -/
structure LockV2 where
  v : Nat
  costs : Costs
  normal : Slot
  duress : Slot
  /-- Whether the duress slot is real, sealed under the store key; empty where the file has none. -/
  armed : String
  deriving DecidableEq, Repr

/-- A lock file of the first format: one slot. -/
structure LockV1 where
  salt : String
  costs : Costs
  wrapped : String
  deriving DecidableEq, Repr

/-- What the bytes of a lock file read as. -/
inductive LockFile where
  | v1 (old : LockV1)
  | v2 (lock : LockV2)
  /-- JSON of no version this build knows. -/
  | newer
  | unreadable
  deriving DecidableEq, Repr

/-- The wrong attempts in a row, and when the last one was. -/
structure Attempts where
  failures : Nat
  lastUnix : Nat
  deriving DecidableEq, Repr

/-- The two files in the store's directory; an attempts file that does not read counts as none. -/
structure Disk where
  lock : Option LockFile
  attempts : Option Attempts
  deriving DecidableEq, Repr

/-- The random draws for a slot nobody can open. -/
structure Decoy (C : Crypto) where
  salt : Bytes
  kek : C.StoreKey
  filler : C.StoreKey
  nonce : Bytes

/-- What surrounds one call: the clock, its random draws, and which of its writes the disk takes. -/
structure Moment (C : Crypto) where
  now : Nat
  /-- The decoy slot the call makes, where it makes one. -/
  decoy : Decoy C
  salt : Bytes
  nonce : Bytes
  filler : C.StoreKey
  armedNonce : Bytes
  /-- The lock file is written, or removed. -/
  takesLock : Bool
  /-- The earlier lock file is put back. -/
  takesRestore : Bool
  /-- The attempts file is written, or removed. -/
  takesAttempts : Bool

/-- What a secret turned out to be. -/
inductive Opened (C : Crypto) where
  | normal (key : C.StoreKey)
  | duress
  deriving DecidableEq

section Files

variable (C : Crypto)

/-- Seals a plaintext under a key, its nonce ahead. -/
def sealBlob (key : C.StoreKey) (nonce plain : Bytes) : Bytes := nonce ++ C.encrypt key nonce plain

/-- Opens a sealed blob; nothing on a wrong key or a damaged blob. -/
def openBlob (key : C.StoreKey) (blob : Bytes) : Option Bytes :=
  if blob.length < NONCE_LEN then none
  else C.decrypt key (blob.take NONCE_LEN) (blob.drop NONCE_LEN)

/-- A slot nobody can open: filler sealed under a key that was derived from no secret. -/
def decoySlot (decoy : Decoy C) : Slot where
  salt := Base64.encode decoy.salt
  wrapped := Base64.encode (sealBlob C decoy.kek decoy.nonce (C.bytes decoy.filler))

/-- The armed flag sealed under the store key. -/
def sealArmed (key : C.StoreKey) (nonce : Bytes) (armed : Bool) : String :=
  Base64.encode (sealBlob C key nonce [if armed then 1 else 0])

/-- Derives a key at costs that a lock file may ask for. -/
def derive (passphrase : String) (salt : Bytes) (costs : Costs) : Except String C.StoreKey :=
  if costs.mCostKib ≤ LARGEST.mCostKib ∧ costs.tCost ≤ LARGEST.tCost
      ∧ costs.pCost ≤ LARGEST.pCost then
    C.argon2 (utf8 passphrase) salt costs
  else .error "lock file is unreadable"

/-- Wraps a key under a secret in a fresh slot, at today's costs. -/
def wrapSlot (key : C.StoreKey) (secret : String) (salt nonce : Bytes) : Except String Slot := do
  let kek ← derive C secret salt TODAY
  return { salt := Base64.encode salt
           wrapped := Base64.encode (sealBlob C kek nonce (C.bytes key)) }

/-- Tries a secret against one slot, at the costs of its file. -/
def trySlot (slot : Slot) (secret : String) (costs : Costs) : Option C.StoreKey := do
  let salt ← Base64.decode slot.salt
  let kek ← (derive C secret salt costs).toOption
  let wrapped ← Base64.decode slot.wrapped
  let plain ← openBlob C kek wrapped
  C.tryInto plain

/-- Reads the lock file in either format; the duress slot an old one lacks becomes a decoy. -/
def read (disk : Disk) (decoy : Decoy C) : Except String LockV2 :=
  match disk.lock with
  | none => .error "this store is not locked"
  | some (.v1 old) =>
    .ok { v := 1
          costs := old.costs
          normal := { salt := old.salt, wrapped := old.wrapped }
          duress := decoySlot C decoy
          armed := "" }
  | some (.v2 lock) => .ok lock
  | some .newer => .error "lock file was written by a newer version of the app"
  | some .unreadable => .error "lock file is unreadable"

end Files

/-- Replaces the lock file as a whole, or leaves it as it was. -/
def write (disk : Disk) (lock : LockV2) (takes : Bool) : Except String Disk :=
  if takes then .ok { disk with lock := some (.v2 lock) } else .error "write failed"

/-- The wait after a number of wrong attempts in a row, in seconds. -/
def waitAfter (failures : Nat) : Nat :=
  if failures ≤ 4 then 0
  else if failures ≤ 9 then 30
  else if failures ≤ 14 then 5 * 60
  else if failures ≤ 19 then 30 * 60
  else 60 * 60

/-- The wrong attempts on record. -/
def readAttempts (disk : Disk) : Attempts := disk.attempts.getD ⟨0, 0⟩

/-- Seconds before the next attempt is accepted; a clock set back counts as no time gone. -/
def waitSecs (disk : Disk) (now : Nat) : Nat :=
  let a := readAttempts disk
  let wait := waitAfter a.failures
  if wait = 0 then 0 else wait - (if now < a.lastUnix then 0 else now - a.lastUnix)

/-- Counts one more wrong attempt; a write that fails is let pass. -/
def noteFailure (disk : Disk) (now : Nat) (takes : Bool) : Disk :=
  let a := readAttempts disk
  if takes then
    { disk with attempts := some ⟨min (a.failures + 1) (2 ^ 32 - 1), now⟩ }
  else disk

/-- Forgets the wrong attempts; a removal that fails is let pass. -/
def forgetAttempts (disk : Disk) (takes : Bool) : Disk :=
  if takes then { disk with attempts := none } else disk

section Calls

variable (C : Crypto)

/-- Whether this store is passphrase-locked. -/
def isLocked (disk : Disk) : Bool := disk.lock.isSome

/-- Wraps the key under a passphrase, with a decoy for the duress slot. -/
def setPassphrase (disk : Disk) (m : Moment C) (key : C.StoreKey) (passphrase : String) :
    Except String Unit × Disk :=
  if passphrase = "" then (.error "passphrase must not be empty", disk)
  else
    match wrapSlot C key passphrase m.salt m.nonce with
    | .error e => (.error e, disk)
    | .ok normal =>
      let lock : LockV2 :=
        { v := 2
          costs := TODAY
          normal
          duress := decoySlot C m.decoy
          armed := sealArmed C key m.armedNonce false }
      match write disk lock m.takesLock with
      | .error e => (.error e, disk)
      | .ok disk => (.ok (), disk)

/-- Whether a real duress secret is armed; false for anything that does not read. -/
def duressArmed (disk : Disk) (m : Moment C) (key : C.StoreKey) : Bool :=
  match read C disk m.decoy with
  | .error _ => false
  | .ok lock =>
    match Base64.decode lock.armed with
    | none => false
    | some blob => openBlob C key blob == some [1]

/-- Tries a secret against the lock and reports what it was. -/
def unlock (disk : Disk) (m : Moment C) (secret : String) : Except String (Opened C) × Disk :=
  let wait := waitSecs disk m.now
  -- The wait is refused outright, without trying the secret.
  if wait > 0 then
    (.error ("too many wrong attempts: try again in " ++ toString wait ++ " s"), disk)
  else
    match read C disk m.decoy with
    | .error e => (.error e, disk)
    | .ok lock =>
      match trySlot C lock.normal secret lock.costs, trySlot C lock.duress secret lock.costs with
      | some key, _ => (.ok (.normal key), forgetAttempts disk m.takesAttempts)
      | none, some _ => (.ok .duress, forgetAttempts disk m.takesAttempts)
      | none, none => (.error "wrong passphrase", noteFailure disk m.now m.takesAttempts)

/-- Puts the earlier lock file back after the duress secret did not check out. -/
def putBack (previous : Option LockFile) (disk : Disk) (takes : Bool) : Except String Unit × Disk :=
  if takes then (.error "could not arm the duress secret", { disk with lock := previous })
  else (.error "write failed", disk)

/-- Arms the duress secret, or replaces it; it needs the normal one. -/
def setDuress (disk : Disk) (m : Moment C) (passphrase duress : String) :
    Except String Unit × Disk :=
  if duress = "" then (.error "duress secret must not be empty", disk)
  else
    match read C disk m.decoy with
    | .error e => (.error e, disk)
    | .ok lock =>
      match trySlot C lock.normal passphrase lock.costs with
      | none => (.error "wrong passphrase", disk)
      | some key =>
        if (trySlot C lock.normal duress lock.costs).isSome then
          (.error "the duress secret must be different from the normal one", disk)
        else
          match wrapSlot C m.filler duress m.salt m.nonce with
          | .error e => (.error e, disk)
          | .ok slot =>
            -- The costs of the file stay as they were read.
            let armed : LockV2 :=
              { lock with
                v := 2
                duress := slot
                armed := sealArmed C key m.armedNonce true }
            match write disk armed m.takesLock with
            | .error e => (.error e, disk)
            | .ok written =>
              -- The self-check is an unlock of its own, throttle and count included.
              let (answer, checked) := unlock C written m duress
              match answer with
              | .ok .duress => (.ok (), checked)
              | _ => putBack disk.lock checked m.takesRestore

/-- Disarms duress with a fresh decoy; it needs the normal secret. -/
def clearDuress (disk : Disk) (m : Moment C) (passphrase : String) : Except String Unit × Disk :=
  match read C disk m.decoy with
  | .error e => (.error e, disk)
  | .ok lock =>
    match trySlot C lock.normal passphrase lock.costs with
    | none => (.error "wrong passphrase", disk)
    | some key =>
      let cleared : LockV2 :=
        { lock with
          v := 2
          duress := decoySlot C m.decoy
          armed := sealArmed C key m.armedNonce false }
      match write disk cleared m.takesLock with
      | .error e => (.error e, disk)
      | .ok disk => (.ok (), disk)

/-- Recovers the store key, refusing a duress secret. -/
def unlockNormal (disk : Disk) (m : Moment C) (passphrase : String) :
    Except String C.StoreKey × Disk :=
  match unlock C disk m passphrase with
  | (.ok (.normal key), disk) => (.ok key, disk)
  | (.ok .duress, disk) => (.error "wrong passphrase", disk)
  | (.error e, disk) => (.error e, disk)

/-- Whether a secret is the normal one. -/
def isNormalSecret (disk : Disk) (m : Moment C) (secret : String) : Bool × Disk :=
  let (answer, disk) := unlockNormal C disk m secret
  (answer.isOk, disk)

/-- Removes the lock, proving knowledge of the passphrase first. -/
def clear (disk : Disk) (m : Moment C) (passphrase : String) : Except String C.StoreKey × Disk :=
  match unlockNormal C disk m passphrase with
  | (.error e, disk) => (.error e, disk)
  | (.ok key, disk) =>
    if m.takesLock then (.ok key, { disk with lock := none }) else (.error "remove failed", disk)

/-- Deletes the lock file without any secret. -/
def destroy (disk : Disk) (takes : Bool) : Except String Unit × Disk :=
  if disk.lock.isNone then (.ok (), disk)
  else if takes then (.ok (), { disk with lock := none })
  else (.error "remove failed", disk)

/-- The calls the API makes on the lock, and a restart of the process, which keeps only the disk. -/
inductive Call where
  | setPassphrase (key : C.StoreKey) (passphrase : String)
  | setDuress (passphrase duress : String)
  | clearDuress (passphrase : String)
  | clear (passphrase : String)
  | unlock (secret : String)
  | isNormalSecret (secret : String)
  | destroy
  | restart

/-- What a call answers when it does not fail. -/
inductive Answer where
  | done
  | opened (what : Opened C)
  | said (yes : Bool)
  deriving DecidableEq

/-- One call on the disk. -/
def call (disk : Disk) (m : Moment C) : Call C → Except String (Answer C) × Disk
  | .setPassphrase key passphrase =>
    (setPassphrase C disk m key passphrase).map (·.map fun _ => .done) id
  | .setDuress passphrase duress =>
    (setDuress C disk m passphrase duress).map (·.map fun _ => .done) id
  | .clearDuress passphrase => (clearDuress C disk m passphrase).map (·.map fun _ => .done) id
  | .clear passphrase =>
    (clear C disk m passphrase).map (·.map fun key => .opened (.normal key)) id
  | .unlock secret => (unlock C disk m secret).map (·.map .opened) id
  | .isNormalSecret secret => (isNormalSecret C disk m secret).map (.ok ∘ .said) id
  | .destroy => (destroy disk m.takesLock).map (·.map fun _ => .done) id
  | .restart => (.ok .done, disk)

end Calls

end Nightdrop.Lock
