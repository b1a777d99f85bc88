import Nightdrop.Lib.Base64
import Nightdrop.Lib.Text
import Nightdrop.Node.Polling

/-! The signing keys a device trusts for releases and for the relay list, and how they move on. -/

namespace Nightdrop

/-- What a key signs. -/
inductive Purpose where
  | update
  | directory
deriving DecidableEq, Repr

def Purpose.label : Purpose → String
  | .update => "update"
  | .directory => "directory"

/-- The two public keys a release carries for one purpose. -/
structure Roots where
  purpose : Purpose
  /-- The signing key at release time. -/
  signing : Bytes
  /-- The key that may name a new signing key. -/
  recovery : Bytes
deriving DecidableEq, Repr

/-- A new signing key for a purpose, signed by the recovery key. -/
structure Rotation where
  seq : Nat
  key : String
  sig : String
deriving DecidableEq, Repr

/-- The newest signing key accepted for one purpose, kept with its rotation signature. -/
structure Trust where
  seq : Nat
  key : String
  sig : String
deriving DecidableEq, Repr

/-- A signed payload and its signature, both in base64. -/
structure SignedPayload where
  payload : String
  sig : String
deriving DecidableEq, Repr

/-- What the site serves as its manifest. -/
structure SignedEnvelope where
  signed : Option SignedPayload
  rotation : Option Rotation
deriving DecidableEq, Repr

/-- The release a manifest names, and until when it is believed. -/
structure UpdateManifest where
  latest : String
  expires : Nat
deriving DecidableEq, Repr

/-- The relay list the operator publishes. -/
structure RelayDirectory where
  version : Nat
  relays : List String
deriving DecidableEq, Repr

/-- A relay list as it is served. -/
structure SignedDirectory where
  payload : String
  sig : String
  rotation : Option Rotation
deriving DecidableEq, Repr

/-- The signatures and the JSON the trusted keys rest on. -/
structure Signing where
  /-- Whether bytes are an Ed25519 public key. -/
  validKey : Bytes → Bool
  /-- Whether a signature of a message verifies under a key. -/
  verifyStrict : Bytes → Bytes → Bytes → Bool
  verify : Bytes → Bytes → Bytes → Bool
  readEnvelope : Bytes → Option SignedEnvelope
  readManifest : Bytes → Option UpdateManifest
  readSigned : String → Option SignedDirectory
  readDirectory : Bytes → Option RelayDirectory

/-- Set ahead of a manifest's bytes before they are signed. -/
def UPDATE_SIGN_CONTEXT : Bytes := utf8 "nightdrop/update/v1\n"

/-- Until the next fetch of the relay list after one that went well, and after one that did not. -/
def CHECK_INTERVAL_SECS : Nat := 24 * 3600

def RETRY_INTERVAL_SECS : Nat := 3 * 3600

/-- What the recovery key signs to name a key. -/
def rotationMessage (purpose : Purpose) (seq : Nat) (key : String) : Bytes :=
  utf8 ("nightdrop/key-rotation/v1\n" ++ purpose.label ++ "\n" ++ seq.repr ++ "\n" ++ key)

/-- The bytes of some length that a base64 text stands for. -/
def decodeSized (length : Nat) (text : String) : Option Bytes :=
  (Base64.decode text).filter (fun bytes => bytes.length = length)

/-- The 32-byte key a base64 text stands for. -/
def decodeKey (text : String) : Option Bytes := decodeSized 32 (trimText text)

section Keys

variable (S : Signing) (roots : Roots)

/-- Whether a rotation verifies under the recovery key. -/
def verifyRotation (r : Rotation) : Bool :=
  S.validKey roots.recovery &&
    match decodeSized 64 (trimText r.sig) with
    | none => false
    | some sig =>
      S.verifyStrict roots.recovery (rotationMessage roots.purpose r.seq (trimText r.key)) sig

/-- The signing key to verify with now, and what to remember if `rotation` moved it on. -/
def currentKey (learned : Option Trust) (rotation : Option Rotation) : Bytes × Option Trust :=
  let learned := learned.filter (fun t => verifyRotation S roots ⟨t.seq, t.key, t.sig⟩)
  let trusted : Nat × Bytes :=
    match learned.bind (fun t => (decodeKey t.key).map (fun k => (t.seq, k))) with
    | some (seq, key) => if 0 < seq then (seq, key) else (0, roots.signing)
    | none => (0, roots.signing)
  match rotation with
  | none => (trusted.2, none)
  | some r =>
    if trusted.1 < r.seq ∧ verifyRotation S roots r then
      match decodeKey r.key with
      | some key => (key, some { seq := r.seq, key := trimText r.key, sig := trimText r.sig })
      | none => (trusted.2, none)
    else (trusted.2, none)

/-- The signed payload's bytes, once its signature checks out under a key. -/
def verifiedPayload (envelope : SignedEnvelope) (key : Bytes) : Option Bytes := do
  let signed ← envelope.signed
  let payload ← Base64.decode (trimText signed.payload)
  let sig ← decodeSized 64 (trimText signed.sig)
  if S.validKey key ∧ S.verifyStrict key (UPDATE_SIGN_CONTEXT ++ payload) sig then some payload
  else none

/-- The manifest of an envelope, once it verifies and while it has not expired. -/
def verifyEnvelope (envelope : SignedEnvelope) (key : Bytes) (now : Nat) : Option UpdateManifest := do
  let payload ← verifiedPayload S envelope key
  let manifest ← S.readManifest payload
  if now < manifest.expires then some manifest else none

/-- Parses a served manifest against the learned key; with it, the key to remember. -/
def parseManifestRooted (body : Bytes) (learned : Option Trust) (now : Nat) :
    Option (UpdateManifest × Option Trust) := do
  let envelope ← S.readEnvelope body
  let trusted := currentKey S roots learned envelope.rotation
  let manifest ← verifyEnvelope S envelope trusted.1 now
  return (manifest, trusted.2)

/-- The relay list of a signed one, if it verifies; an all-zero key verifies nothing. -/
def SignedDirectory.verify (signed : SignedDirectory) (key : Bytes) : Option RelayDirectory := do
  if key = List.replicate 32 0 then none
  else
    let payload ← Base64.decode signed.payload
    let sig ← decodeSized 64 signed.sig
    if S.validKey key ∧ S.verify key payload sig then S.readDirectory payload else none

end Keys

/-- A device with what it trusts for releases and for the relay list. -/
structure Updater (X : Externals) extends Poller X where
  /-- The version of the relay list it took last. -/
  directoryVersion : Nat := 0
  updateKey : Option Trust := none
  directoryKey : Option Trust := none
  directoryNextCheck : Nat := 0

variable {X : Externals}

/-- What came of a relay list that was offered. -/
inductive DirectoryOutcome where
  | invalid
  | current
  | applied (changed : Bool)
deriving DecidableEq, Repr

/-- What a fetch of the relay list brought: the site's answer, if there was a path to it, and what
the relays were asked for. -/
structure DirectoryFetchResult where
  site : Option (Option String)
  relayLists : List String

namespace Updater

/-- Keeps a signing key a manifest rotated to. -/
def rememberUpdateKey (u : Updater X) (moved : Option Trust) : Updater X :=
  match moved with
  | none => u
  | some trust => { u with updateKey := some trust }

/-- The device that keeps a rotation of the list-signing key, if there was one. -/
def rememberDirectoryKey (u : Updater X) (moved : Option Trust) : Updater X :=
  match moved with
  | none => u
  | some trust =>
    { u with
      directoryKey := some trust
      dirty := true }

/-- Adopts a signed relay list if it verifies and is newer than ours. -/
def adoptDirectory (S : Signing) (u : Updater X) (wire : String) (roots : Roots) (now : Nat) :
    DirectoryOutcome × Updater X :=
  match S.readSigned wire with
  | none => (.invalid, u)
  | some signed =>
    let trusted := currentKey S roots u.directoryKey signed.rotation
    match signed.verify S trusted.1 with
    | none => (.invalid, u)
    | some dir =>
      let u := u.rememberDirectoryKey trusted.2
      if dir.version ≤ u.directoryVersion then (.current, u)
      else
        let cleaned := (dir.relays.map trimText).filter (· ≠ "")
        let changed := decide (cleaned ≠ u.discoveredRelays)
        let keep := cleaned ++ (u.toPoller.polledRelaySet now).relays
        (.applied changed,
          { u with
            discoveredRelays := cleaned
            directoryVersion := dir.version
            relayReachable :=
              u.relayReachable.mapMaybe (fun addr seen => if addr ∈ keep then some seen else none)
            dirty := true })

/-- The lists the relays gave, up to the first that applies. -/
def adoptFirst (S : Signing) (roots : Roots) (now : Nat) : Updater X → List String → Updater X
  | u, [] => u
  | u, wire :: rest =>
    match u.adoptDirectory S wire roots now with
    | (.applied _, u) => u
    | (_, u) => adoptFirst S roots now u rest

/-- Applies a fetch's result: the site's list, or else what the relays answered. -/
def finishDirectoryFetch (S : Signing) (u : Updater X) (result : DirectoryFetchResult) (now : Nat)
    (roots : Roots) : Updater X :=
  let (outcome, u) := match result.site with
    | some (some wire) => u.adoptDirectory S wire roots now
    | _ => (.invalid, u)
  match outcome with
  | .applied _ | .current =>
    { u with
      directoryNextCheck := now + CHECK_INTERVAL_SECS
      dirty := true }
  | .invalid =>
    { u.adoptFirst S roots now result.relayLists with
      directoryNextCheck := now + RETRY_INTERVAL_SECS
      dirty := true }

/-- What the state file keeps of the trusted keys, beside the rest. -/
structure Persisted (X : Externals) extends Poller.Persisted X where
  directoryVersion : Nat
  updateKey : Option Trust
  directoryKey : Option Trust
  directoryNextCheck : Nat

def exportState (H : Hashes) (u : Updater X) : Persisted X :=
  { u.toPoller.exportState H with
    directoryVersion := u.directoryVersion
    updateKey := u.updateKey
    directoryKey := u.directoryKey
    directoryNextCheck := u.directoryNextCheck }

def restore (H : Hashes) (state : Persisted X) (platform : Node.Platform) (fresh : Bytes)
    (now : Nat) : Updater X :=
  { Poller.restore H state.toPersisted platform fresh now with
    directoryVersion := state.directoryVersion
    updateKey := state.updateKey
    directoryKey := state.directoryKey
    directoryNextCheck := state.directoryNextCheck }

end Updater

/-- A device and its update calls on the way, each with the key it learned under the lock. -/
structure Updating (X : Externals) where
  device : Updater X
  /-- The calls that have learned a key and not stored one yet. -/
  calls : List (Option Trust) := []

/-- What may happen to the trusted keys. -/
inductive TrustEvent where
  /-- `check_for_update` or `download_update` reads the key it trusts, and lets the lock go. -/
  | learn
  /-- One of them gets what the site serves, if anything, and stores the key it moved to. -/
  | finish (call : Nat) (body : Option Bytes) (now : Nat)
  /-- A relay list arrives. -/
  | adopt (wire : String) (now : Nat)
  /-- A fetch of the relay list ends. -/
  | fetched (result : DirectoryFetchResult) (now : Nat)
  /-- The process ends, and its state is restored. -/
  | restart (platform : Node.Platform) (fresh : Bytes) (now : Nat)

namespace Updating

/-- What an update call makes of what it was served: the manifest and the key to remember. -/
def served (S : Signing) (roots : Roots) (body : Option Bytes) (learned : Option Trust) (now : Nat) :
    Option (UpdateManifest × Option Trust) :=
  body.bind (fun body => parseManifestRooted S roots body learned now)

/-- One event; `update` and `directory` are the keys the release carries. -/
def step (S : Signing) (H : Hashes) (update directory : Roots) (w : Updating X) :
    TrustEvent → Updating X
  | .learn => { w with calls := w.calls ++ [w.device.updateKey] }
  | .finish call body now =>
    match w.calls[call]? with
    | none => w
    | some learned =>
      { device := match served S update body learned now with
          | none => w.device
          | some (_, moved) => w.device.rememberUpdateKey moved
        calls := w.calls.eraseIdx call }
  | .adopt wire now => { w with device := (w.device.adoptDirectory S wire directory now).2 }
  | .fetched result now => { w with device := w.device.finishDirectoryFetch S result now directory }
  | .restart platform fresh now =>
    { device := Updater.restore H (w.device.exportState H) platform fresh now, calls := [] }

end Updating

end Nightdrop
