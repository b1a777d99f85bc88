import Nightdrop.Lib.Observer
import Nightdrop.Lib.Reach
import Nightdrop.Lib.Text
import Nightdrop.Storage.Lock
import Mathlib.Data.Sym.Sym2

/-! Pairing by short code: an opener, an answer sealed under the agreed key, and relays nobody trusts. -/

namespace Nightdrop
namespace Rendezvous

/-- Randomness, drawn by a device that runs this program or by anybody else. -/
inductive Seed where
  | ours (n : Nat)
  | theirs (n : Nat)
deriving DecidableEq, Repr

/-- The packages of the handshake, and how its blobs are framed. -/
structure Suite (M : Type) where
  text : String → M
  readText : M → Option String
  /-- The SPAKE2 message of a secret, and the key that a peer's message completes. -/
  start : (secret : M) → (seed : Seed) → M
  finish : (secret : M) → (seed : Seed) → (peer : M) → Except String M
  kemPublic : Seed → M
  /-- A ciphertext to a public key, and the secret in it. -/
  encapsulate : (peer : M) → (coin : Seed) → Except String (M × M)
  decapsulate : Seed → M → Except String M
  hybridSealKey : M → M → M
  storageSeal : (key : M) → (nonce : Seed) → (plaintext : M) → Except String M
  storageOpen : (key blob : M) → Except String M
  putTwo : M → M → M
  twoFields : M → Option (M × M)
  putThree : M → M → M → M
  threeFields : M → Option (M × M × M)

/-- How long the joiner tries to post its opener, and how often it posts it again, in milliseconds. -/
def POST_ESTABLISH_TIMEOUT : Nat := 240_000
def RENDEZVOUS_REPOST : Nat := 20_000

section Handshake

variable {M : Type} (S : Suite M)

/-- The inviter's half: the answer to an opener, which only the same code opens. -/
def buildInviteResponse (secret payload : String) (opener : M) (pake coin nonce : Seed) : Except String M := do
  -- The joiner's SPAKE2 message stands first, then its ML-KEM public key.
  let some (msgJ, kemPublic) := S.twoFields opener | .error "malformed pairing opener"
  let key ← S.finish (S.text secret) pake msgJ
  let (kemCt, kemSs) ← S.encapsulate kemPublic coin
  -- The payload is sealed under both secrets, so that a break of either one shows nothing.
  let sealed ← S.storageSeal (S.hybridSealKey key kemSs) nonce (S.text payload)
  return S.putThree (S.start (S.text secret) pake) kemCt sealed

/-- How far a joiner is. -/
inductive Phase where
  | posting (attempts deadline : Nat)
  | waiting (deadline lastPost reposts : Nat)
  | ended (result : Except String String)
deriving DecidableEq

/-- A joiner's handshake: the code, what it drew, and how far it is. -/
structure Joiner where
  slot : String
  secret : String
  pake : Seed
  kem : Seed
  timeout : Nat
  phase : Phase
deriving DecidableEq

/-- The opener: the SPAKE2 message and the one-time public key. -/
def Joiner.opener (j : Joiner) : M := S.putTwo (S.start (S.text j.secret) j.pake) (S.kemPublic j.kem)

/-- The start of a handshake; without a relay there is none. -/
def beginJoin (relays : Nat) (slot secret : String) (pake kem : Seed) (timeout now : Nat) : Joiner :=
  { slot, secret, pake, kem, timeout
    phase := if relays = 0 then
      .ended (.error "short codes need a relay; with direct only, add contacts by QR code")
    else .posting 0 (now + POST_ESTABLISH_TIMEOUT) }

/-- One round of posting the opener: which relays took it, and the clock after it. -/
def Joiner.postRound (j : Joiner) (posted : List Bool) (now : Nat) : Joiner :=
  match j.phase with
  | .posting attempts deadline =>
    -- One relay that took the opener is enough to be answered over.
    if posted.any id then { j with phase := .waiting (now + j.timeout) now 0 }
    -- The time is up only after a round that failed.
    else if deadline ≤ now then
      { j with phase := .ended (.error
          ("could not reach the relay yet — Tor may still be starting. Try again in a minute; "
            ++ "the code stays valid for 10 minutes")) }
    else { j with phase := .posting (attempts + 1) deadline }
  | _ => j

/-- What the joiner makes of an answer. -/
def Joiner.complete (j : Joiner) (msgI kemCt sealed : M) : Except String String :=
  match S.finish (S.text j.secret) j.pake msgI with
  | .error _ => .error "pairing handshake failed"
  | .ok key =>
    -- A ciphertext to another key gives another secret: then it is the seal that fails.
    match S.decapsulate j.kem kemCt with
    | .error _ => .error "wrong short code"
    | .ok kemSs =>
      match S.storageOpen (S.hybridSealKey key kemSs) sealed with
      | .error _ => .error "wrong short code"
      | .ok payload =>
        match S.readText payload with
        | none => .error "corrupt invite"
        | some payload => .ok payload

/-- The first well-formed answer among what the relays had; a relay that fails is passed over. -/
def firstAnswer (takes : List (Option (List M))) : Option (M × M × M) :=
  (takes.filterMap id).flatten.findSome? S.threeFields

/-- One round of the wait: its readings of the clock, and what each relay had for us. -/
structure WaitRound (M : Type) where
  began : Nat
  woke : Nat
  /-- The clock after the opener was posted again, where it was. -/
  reposted : Nat
  takes : List (Option (List M))

/-- One round of waiting for an answer. -/
def Joiner.waitRound (j : Joiner) (round : WaitRound M) : Joiner :=
  match j.phase with
  | .waiting deadline lastPost reposts =>
    -- The clock is read before the poll, so an answer that is polled late counts.
    if deadline ≤ round.began then
      { j with phase := .ended (.error
          ("timed out waiting for the other device — ask for a fresh code, or, if you "
            ++ "don't share a relay with them, use the QR code instead")) }
    else
      match firstAnswer S round.takes with
      | some (msgI, kemCt, sealed) => { j with phase := .ended (j.complete S msgI kemCt sealed) }
      | none =>
        -- The inviter's read is destructive: an opener may be gone and unanswered.
        if lastPost + RENDEZVOUS_REPOST ≤ round.woke then
          { j with phase := .waiting deadline round.reposted (reposts + 1) }
        else j
  | _ => j

end Handshake

/-- The lengths of an ML-KEM-768 public key and of a ciphertext to one. -/
def KEM_PUBLIC_LEN : Nat := 1184
def KEM_CIPHERTEXT_LEN : Nat := 1088

/-- The crypto packages: SPAKE2, ML-KEM-768, HKDF-SHA256 and ChaCha20-Poly1305. -/
structure Packages where
  start : (secret : Bytes) → Seed → Bytes
  finish : (secret : Bytes) → Seed → Bytes → Except String Bytes
  kemPublic : Seed → Bytes
  /-- A ciphertext to a public key of the right length, unless it is no valid one. -/
  encapsulate : Bytes → Seed → Option (Bytes × Bytes)
  decapsulate : Seed → Bytes → Option Bytes
  hkdf : (salt ikm info : Bytes) → Bytes
  generateNonce : Seed → Bytes
  encrypt : (key nonce plaintext : Bytes) → Option Bytes
  decrypt : (key nonce ciphertext : Bytes) → Option Bytes

section Wrappers

variable (P : Packages)

def Packages.bouncerFinish (secret : Bytes) (seed : Seed) (peerMessage : Bytes) : Except String Bytes :=
  (P.finish secret seed peerMessage).mapError fun e => "PAKE failed: " ++ e

def Packages.kemEncapsulate (peerPublic : Bytes) (coin : Seed) : Except String (Bytes × Bytes) :=
  if peerPublic.length ≠ KEM_PUBLIC_LEN then .error "bad ML-KEM public key length"
  else match P.encapsulate peerPublic coin with
    | none => .error "invalid ML-KEM public key"
    | some made => .ok made

def Packages.kemDecapsulate (holder : Seed) (ciphertext : Bytes) : Except String Bytes :=
  if ciphertext.length ≠ KEM_CIPHERTEXT_LEN then .error "bad ML-KEM ciphertext length"
  else match P.decapsulate holder ciphertext with
    | none => .error "ML-KEM decapsulation failed"
    | some shared => .ok shared

/-- The key a payload is sealed under, from both secrets. -/
def Packages.hybridSealKey (pakeSecret kemSecret : Bytes) : Bytes :=
  P.hkdf (utf8 "nightdrop/rendezvous/hybrid/v1") (pakeSecret ++ kemSecret) (utf8 "payload-seal")

/-- Seals a plaintext under a key, its nonce ahead. -/
def Packages.storageSeal (key : Bytes) (nonce : Seed) (plaintext : Bytes) : Except String Bytes :=
  match P.encrypt key (P.generateNonce nonce) plaintext with
  | none => .error "seal failed"
  | some ciphertext => .ok (P.generateNonce nonce ++ ciphertext)

def Packages.storageOpen (key blob : Bytes) : Except String Bytes :=
  if blob.length < Lock.NONCE_LEN then .error "blob too short"
  else match P.decrypt key (blob.take Lock.NONCE_LEN) (blob.drop Lock.NONCE_LEN) with
    | none => .error "decrypt failed: wrong key or corrupt store"
    | some plaintext => .ok plaintext

end Wrappers

/-- The handshake as it runs: texts are UTF-8 and each field is led by its length. -/
def Packages.suite (P : Packages) : Suite Bytes where
  text := utf8
  readText := fromUtf8
  start := P.start
  finish := P.bouncerFinish
  kemPublic := P.kemPublic
  encapsulate := P.kemEncapsulate
  decapsulate := P.kemDecapsulate
  hybridSealKey := P.hybridSealKey
  storageSeal := P.storageSeal
  storageOpen := P.storageOpen
  putTwo a b := putField a ++ putField b
  twoFields blob := do
    let (a, rest) ← takeField blob
    let (b, _) ← takeField rest
    return (a, b)
  putThree a b c := putField a ++ (putField b ++ putField c)
  threeFields blob := do
    let (a, rest) ← takeField blob
    let (b, rest) ← takeField rest
    let (c, _) ← takeField rest
    return (a, b, c)

/-- What the handshake sends and computes, each thing named by how it was made. -/
inductive Term where
  | text (text : String)
  | element (secret : Term) (seed : Seed)
  /-- The key of two ends with the same secret, and one that no other end computes. -/
  | pakeKey (secret : Term) (seeds : Sym2 Seed)
  | strayKey (secret : Term) (seed : Seed) (peer : Term)
  | kemPublic (holder : Seed)
  | kemCipher (holder coin : Seed)
  | kemShared (holder coin : Seed)
  /-- What a ciphertext to somebody else decapsulates to. -/
  | kemRejected (holder : Seed) (cipher : Term)
  | sealKey (pake kem : Term)
  | sealed (key : Term) (nonce : Seed) (plaintext : Term)
  | two (a b : Term)
  | three (a b c : Term)
deriving DecidableEq

/-- The packages with symbolic cryptography. -/
def symbolic : Suite Term where
  text := .text
  readText
    | .text text => some text
    | _ => none
  start := .element
  finish secret seed
    | .element secret' seed' =>
      -- SPAKE2 completes with any element; other words give a key that no other end has.
      .ok (if secret' = secret then .pakeKey secret s(seed, seed') else .strayKey secret seed (.element secret' seed'))
    | _ => .error "PAKE failed: WrongLength"
  kemPublic := .kemPublic
  encapsulate
    | .kemPublic holder, coin => .ok (.kemCipher holder coin, .kemShared holder coin)
    | _, _ => .error "bad ML-KEM public key length"
  decapsulate
    | holder, .kemCipher holder' coin =>
      -- ML-KEM rejects implicitly, with a secret that nobody else has.
      .ok (if holder' = holder then .kemShared holder coin else .kemRejected holder (.kemCipher holder' coin))
    | _, _ => .error "bad ML-KEM ciphertext length"
  hybridSealKey := .sealKey
  storageSeal key nonce plaintext := .ok (.sealed key nonce plaintext)
  storageOpen
    | key, .sealed key' _ plaintext =>
      if key' = key then .ok plaintext else .error "decrypt failed: wrong key or corrupt store"
    | _, _ => .error "blob too short"
  putTwo := .two
  twoFields
    | .two a b => some (a, b)
    | _ => none
  putThree := .three
  threeFields
    | .three a b c => some (a, b, c)
    | _ => none

/-- Whom the handshake must hold out against. -/
structure Observer where
  /-- The texts that it cannot come up with by itself. -/
  hidden : String → Prop
  /-- Whether it breaks SPAKE2, and whether it breaks ML-KEM. -/
  pakeBroken : Prop
  kemBroken : Prop

/-- What an observer can run: the packages with randomness of its own, and what it breaks of them. -/
inductive Op {M : Type} (S : Suite M) (o : Observer) : List M → M → Prop where
  | text {s : String} (known : ¬ o.hidden s) : Op S o [] (S.text s)
  | start (secret : M) (n : Nat) : Op S o [secret] (S.start secret (.theirs n))
  | finish {secret peer key : M} {n : Nat} (agreed : S.finish secret (.theirs n) peer = .ok key) :
      Op S o [secret, peer] key
  | kemPublic (n : Nat) : Op S o [] (S.kemPublic (.theirs n))
  | encapsulate {peer : M} {n : Nat} {out : M × M} (made : S.encapsulate peer (.theirs n) = .ok out) :
      Op S o [peer] out.1
  | shared {peer : M} {n : Nat} {out : M × M} (made : S.encapsulate peer (.theirs n) = .ok out) :
      Op S o [peer] out.2
  | decapsulate {cipher shared : M} {n : Nat} (opened : S.decapsulate (.theirs n) cipher = .ok shared) :
      Op S o [cipher] shared
  | hybridSealKey (pake kem : M) : Op S o [pake, kem] (S.hybridSealKey pake kem)
  | storageSeal {key plaintext blob : M} {n : Nat} (made : S.storageSeal key (.theirs n) plaintext = .ok blob) :
      Op S o [key, plaintext] blob
  | storageOpen {key blob plaintext : M} (opened : S.storageOpen key blob = .ok plaintext) :
      Op S o [key, blob] plaintext
  | putTwo (a b : M) : Op S o [a, b] (S.putTwo a b)
  | twoFields {blob a b m : M} (split : S.twoFields blob = some (a, b)) (field : m ∈ [a, b]) : Op S o [blob] m
  | putThree (a b c : M) : Op S o [a, b, c] (S.putThree a b c)
  | threeFields {blob a b c m : M} (split : S.threeFields blob = some (a, b, c)) (field : m ∈ [a, b, c]) :
      Op S o [blob] m
  | crackPake {secret peer key : M} {seed : Seed} (broken : o.pakeBroken)
      (agreed : S.finish secret seed peer = .ok key) : Op S o [] key
  | crackCoin {peer : M} {coin : Seed} {out : M × M} (broken : o.kemBroken)
      (made : S.encapsulate peer coin = .ok out) : Op S o [] out.2
  | crackKem {cipher shared : M} {holder : Seed} (broken : o.kemBroken)
      (opened : S.decapsulate holder cipher = .ok shared) : Op S o [] shared

/-- A code that is hosted, and what its joiner is handed. -/
structure Invite where
  slot : String
  secret : String
  payload : String
deriving DecidableEq, Repr

/-- An opener that was answered: for which invite, and with what. -/
structure Answer (M : Type) where
  invite : Invite
  opener : M
  response : M

/-- All that is hosted and joined, on any device, and what was answered. -/
structure World (M : Type) where
  invites : List Invite := []
  joiners : List Joiner := []
  answers : List (Answer M) := []
  /-- How much randomness was drawn. -/
  drawn : Nat := 0

/-- What may happen: codes are hosted and joined, and the relays hand over whatever they like. -/
inductive Event (M : Type) where
  | stage (invite : Invite)
  | join (relays : Nat) (slot secret : String) (timeout now : Nat)
  | answer (invite : Invite) (opener : M)
  | post (joiner : Nat) (posted : List Bool) (now : Nat)
  | wait (joiner : Nat) (round : WaitRound M)

section Run

variable {M : Type} (S : Suite M) (o : Observer)

/-- What passed the relays: every opener, and every answer. -/
def World.seen (w : World M) : Set M :=
  {m | (∃ j ∈ w.joiners, m = j.opener S) ∨ ∃ a ∈ w.answers, m = a.response}

/-- What may stand in a mailbox: anything that can be made of what passed the relays. -/
def World.Posted (w : World M) (m : M) : Prop := Makes (Op S o) (w.seen S) m

/-- One event. -/
inductive World.Step : World M → Event M → World M → Prop where
  | stage (w : World M) (invite : Invite) : Step w (.stage invite) { w with invites := w.invites ++ [invite] }
  | join (w : World M) (relays : Nat) (slot secret : String) (timeout now : Nat) :
      Step w (.join relays slot secret timeout now)
        { w with
          joiners := w.joiners
            ++ [beginJoin relays slot secret (.ours w.drawn) (.ours (w.drawn + 1)) timeout now]
          drawn := w.drawn + 2 }
  /-- An opener in the mailbox is answered under the words of a hosted invite. -/
  | answer (w : World M) {invite : Invite} {opener response : M} (hosted : invite ∈ w.invites)
      (taken : w.Posted S o opener)
      (built : buildInviteResponse S invite.secret invite.payload opener (.ours w.drawn) (.ours (w.drawn + 1))
        (.ours (w.drawn + 2)) = .ok response) :
      Step w (.answer invite opener)
        { w with answers := w.answers ++ [⟨invite, opener, response⟩], drawn := w.drawn + 3 }
  | post (w : World M) {joiner : Nat} {j : Joiner} (found : w.joiners[joiner]? = some j) (posted : List Bool)
      (now : Nat) :
      Step w (.post joiner posted now) { w with joiners := w.joiners.set joiner (j.postRound posted now) }
  | wait (w : World M) {joiner : Nat} {j : Joiner} (found : w.joiners[joiner]? = some j) (round : WaitRound M)
      (taken : ∀ blobs, some blobs ∈ round.takes → ∀ m ∈ blobs, w.Posted S o m) :
      Step w (.wait joiner round) { w with joiners := w.joiners.set joiner (j.waitRound S round) }

/--
Whether an answer keeps what it carries from the observer.

A payload that is to stay hidden leaves under words that are hidden too, or to a joiner's own key:
SPAKE2 holds for the first, ML-KEM for the second.
-/
def Guarded (invite : Invite) (opener : M) : Prop :=
  o.hidden invite.payload → (¬ o.pakeBroken ∧ o.hidden invite.secret)
    ∨ (¬ o.kemBroken ∧ ∃ msgJ n, S.twoFields opener = some (msgJ, S.kemPublic (.ours n)))

/-- The worlds some run reaches in which every answer is guarded. -/
def Reached (w : World M) : Prop :=
  Reach ({} : World M) (fun w event w' => World.Step S o w event w'
    ∧ ∀ invite opener, event = .answer invite opener → Guarded S o invite opener) w

end Run
end Rendezvous
end Nightdrop
