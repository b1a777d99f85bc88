import Nightdrop.Node.Rendezvous

/-! Pairing by short code: the payload stays hidden, both ends agree, and an answered joiner is served. -/

namespace Nightdrop
namespace Rendezvous

variable {o : Observer} {w w' : World Term} {invite : Invite} {opener response : Term} {j : Joiner}

/-- What an observer may see without learning a hidden text from it. -/
def Shown (o : Observer) : Term → Prop
  | .text text => ¬ o.hidden text
  | .pakeKey secret _ => o.pakeBroken ∨ Shown o secret
  | .strayKey secret _ _ => o.pakeBroken ∨ Shown o secret
  | .kemShared holder coin => o.kemBroken ∨ ∃ n, holder = .theirs n ∨ coin = .theirs n
  | .kemRejected holder _ => o.kemBroken ∨ ∃ n, holder = .theirs n
  | .sealKey pake kem => Shown o pake ∧ Shown o kem
  | .sealed key _ plaintext => Shown o key → Shown o plaintext
  | .two a b => Shown o a ∧ Shown o b
  | .three a b c => Shown o a ∧ Shown o b ∧ Shown o c
  | .element _ _ | .kemPublic _ | .kemCipher _ _ => True

/-- A sealed blob was sealed by one who may see its key, or is in an answer. -/
def Fair (o : Observer) (issued : Term → Term → Prop) : Term → Prop
  | .sealed key _ plaintext => (Shown o key ∧ Fair o issued plaintext) ∨ issued key plaintext
  | .two a b => Fair o issued a ∧ Fair o issued b
  | .three a b c => Fair o issued a ∧ Fair o issued b ∧ Fair o issued c
  | _ => True

/-- A key that SPAKE2 completes, by the peer's message. -/
theorem finish_eq {secret peer key : Term} {seed : Seed} (agreed : symbolic.finish secret seed peer = .ok key) :
    ∃ secret' seed', peer = .element secret' seed'
      ∧ (secret' = secret ∧ key = .pakeKey secret s(seed, seed') ∨ secret' ≠ secret ∧ key = .strayKey secret seed peer) := by
  cases peer <;> simp only [symbolic, reduceCtorEq] at agreed
  case element secret' seed' =>
    refine ⟨secret', seed', rfl, ?_⟩
    split at agreed <;> cases agreed
    · exact .inl ⟨‹_›, rfl⟩
    · exact .inr ⟨‹_›, rfl⟩

theorem finish_shown {secret peer key : Term} {seed : Seed} (agreed : symbolic.finish secret seed peer = .ok key) :
    Shown o key ↔ o.pakeBroken ∨ Shown o secret := by
  obtain ⟨_, _, _, ⟨_, rfl⟩ | ⟨_, rfl⟩⟩ := finish_eq agreed <;> rfl

theorem encapsulate_eq {peer : Term} {coin : Seed} {out : Term × Term} (made : symbolic.encapsulate peer coin = .ok out) :
    ∃ holder, peer = .kemPublic holder ∧ out = (.kemCipher holder coin, .kemShared holder coin) := by
  cases peer <;> simp only [symbolic, reduceCtorEq] at made
  case kemPublic holder =>
    cases made
    exact ⟨holder, rfl, rfl⟩

theorem decapsulate_eq {cipher shared : Term} {holder : Seed} (opened : symbolic.decapsulate holder cipher = .ok shared) :
    ∃ holder' coin, cipher = .kemCipher holder' coin
      ∧ (holder' = holder ∧ shared = .kemShared holder coin ∨ shared = .kemRejected holder cipher) := by
  cases cipher <;> simp only [symbolic, reduceCtorEq] at opened
  case kemCipher holder' coin =>
    refine ⟨holder', coin, rfl, ?_⟩
    split at opened <;> cases opened
    · exact .inl ⟨‹_›, rfl⟩
    · exact .inr rfl

theorem storageOpen_eq {key blob plaintext : Term} (opened : symbolic.storageOpen key blob = .ok plaintext) :
    ∃ nonce, blob = .sealed key nonce plaintext := by
  cases blob <;> simp only [symbolic, reduceCtorEq] at opened
  case sealed key' nonce plaintext' =>
    split at opened
    · cases opened
      subst ‹key' = key›
      exact ⟨nonce, rfl⟩
    · cases opened

theorem twoFields_eq {blob a b : Term} (split : symbolic.twoFields blob = some (a, b)) : blob = .two a b := by
  cases blob <;> simp only [symbolic, reduceCtorEq, Option.some.injEq, Prod.mk.injEq] at split
  case two => rw [split.1, split.2]

theorem threeFields_eq {blob a b c : Term} (split : symbolic.threeFields blob = some (a, b, c)) : blob = .three a b c := by
  cases blob <;> simp only [symbolic, reduceCtorEq, Option.some.injEq, Prod.mk.injEq] at split
  case three => rw [split.1, split.2.1, split.2.2]

/-- No operation leads out of what may be seen. -/
theorem op_shown {args : List Term} {m : Term} (each : ∀ a ∈ args, Shown o a) (result : Op symbolic o args m) :
    Shown o m := by
  -- By cases on what the observer runs: only a break, or a draw of its own, shows it a secret.
  cases result with
  | text known => exact known
  | start | kemPublic => trivial
  | finish agreed => exact (finish_shown agreed).mpr (.inr (each _ (by simp)))
  | encapsulate made =>
    obtain ⟨holder, rfl, rfl⟩ := encapsulate_eq made
    trivial
  | shared made =>
    obtain ⟨holder, rfl, rfl⟩ := encapsulate_eq made
    -- The observer drew the coin of this secret itself.
    exact .inr ⟨_, .inr rfl⟩
  | decapsulate opened =>
    obtain ⟨holder', coin, rfl, ⟨_, rfl⟩ | rfl⟩ := decapsulate_eq opened
    · exact .inr ⟨_, .inl rfl⟩
    · exact .inr ⟨_, rfl⟩
  | hybridSealKey pake kem => exact ⟨each _ (by simp), each _ (by simp)⟩
  | storageSeal made =>
    cases made
    intro _
    exact each _ (by simp)
  | @storageOpen key _ _ opened =>
    obtain ⟨nonce, rfl⟩ := storageOpen_eq opened
    -- A blob shows its plaintext to whoever may see its key.
    exact each (.sealed key nonce m) (by simp) (each key (by simp))
  | putTwo a b => exact ⟨each _ (by simp), each _ (by simp)⟩
  | twoFields split field =>
    have both := each _ (List.mem_singleton_self _)
    rw [twoFields_eq split] at both
    simp only [List.mem_cons, List.not_mem_nil, or_false] at field
    obtain rfl | rfl := field
    · exact both.1
    · exact both.2
  | putThree a b c => exact ⟨each _ (by simp), each _ (by simp), each _ (by simp)⟩
  | threeFields split field =>
    have all := each _ (List.mem_singleton_self _)
    rw [threeFields_eq split] at all
    simp only [List.mem_cons, List.not_mem_nil, or_false] at field
    obtain rfl | rfl | rfl := field
    · exact all.1
    · exact all.2.1
    · exact all.2.2
  | crackPake broken agreed => exact (finish_shown agreed).mpr (.inl broken)
  | crackCoin broken made =>
    obtain ⟨holder, rfl, rfl⟩ := encapsulate_eq made
    exact .inl broken
  | crackKem broken opened =>
    obtain ⟨holder', coin, rfl, ⟨_, rfl⟩ | rfl⟩ := decapsulate_eq opened
    · exact .inl broken
    · exact .inl broken

/-- An observer that may see everything it is given seals fairly. -/
theorem op_fair {issued : Term → Term → Prop} (plain : ∀ key plaintext, issued key plaintext → ∃ text, plaintext = .text text)
    {args : List Term} {m : Term} (each : ∀ a ∈ args, Shown o a ∧ Fair o issued a) (result : Op symbolic o args m) :
    Fair o issued m := by
  cases result with
  | text | start | kemPublic | hybridSealKey => trivial
  | finish agreed =>
    obtain ⟨_, _, _, ⟨_, rfl⟩ | ⟨_, rfl⟩⟩ := finish_eq agreed <;> trivial
  | encapsulate made =>
    obtain ⟨holder, rfl, rfl⟩ := encapsulate_eq made
    trivial
  | shared made =>
    obtain ⟨holder, rfl, rfl⟩ := encapsulate_eq made
    trivial
  | decapsulate opened =>
    obtain ⟨holder', coin, rfl, ⟨_, rfl⟩ | rfl⟩ := decapsulate_eq opened <;> trivial
  | storageSeal made =>
    cases made
    -- What the observer seals, it seals under a key that it may see.
    exact .inl ⟨(each _ (by simp)).1, (each _ (by simp)).2⟩
  | @storageOpen key _ _ opened =>
    obtain ⟨nonce, rfl⟩ := storageOpen_eq opened
    obtain ⟨_, inside⟩ | issued' := (each (.sealed key nonce m) (by simp)).2
    · exact inside
    · obtain ⟨text, rfl⟩ := plain _ _ issued'
      trivial
  | putTwo a b => exact ⟨(each _ (by simp)).2, (each _ (by simp)).2⟩
  | twoFields split field =>
    have both := (each _ (List.mem_singleton_self _)).2
    rw [twoFields_eq split] at both
    simp only [List.mem_cons, List.not_mem_nil, or_false] at field
    obtain rfl | rfl := field
    · exact both.1
    · exact both.2
  | putThree a b c => exact ⟨(each _ (by simp)).2, (each _ (by simp)).2, (each _ (by simp)).2⟩
  | threeFields split field =>
    have all := (each _ (List.mem_singleton_self _)).2
    rw [threeFields_eq split] at all
    simp only [List.mem_cons, List.not_mem_nil, or_false] at field
    obtain rfl | rfl | rfl := field
    · exact all.1
    · exact all.2.1
    · exact all.2.2
  | crackPake broken agreed =>
    obtain ⟨_, _, _, ⟨_, rfl⟩ | ⟨_, rfl⟩⟩ := finish_eq agreed <;> trivial
  | crackCoin broken made =>
    obtain ⟨holder, rfl, rfl⟩ := encapsulate_eq made
    trivial
  | crackKem broken opened =>
    obtain ⟨holder', coin, rfl, ⟨_, rfl⟩ | rfl⟩ := decapsulate_eq opened <;> trivial

/-- The keys under which the answers of a world carry their payloads. -/
def Issued (w : World Term) (key plaintext : Term) : Prop :=
  ∃ a ∈ w.answers, ∃ msgI cipher nonce, a.response = .three msgI cipher (.sealed key nonce plaintext)

/-- An answer, as it was made. -/
theorem buildInviteResponse_eq {secret payload : String} {pake coin nonce : Seed}
    (built : buildInviteResponse symbolic secret payload opener pake coin nonce = .ok response) :
    ∃ msgJ holder key, opener = .two msgJ (.kemPublic holder)
      ∧ symbolic.finish (.text secret) pake msgJ = .ok key
      ∧ response = .three (.element (.text secret) pake) (.kemCipher holder coin)
        (.sealed (.sealKey key (.kemShared holder coin)) nonce (.text payload)) := by
  unfold buildInviteResponse at built
  -- Each package either fails, and then there is no answer, or gives its part of the answer.
  cases split : symbolic.twoFields opener with
  | none => simp [split] at built
  | some fields =>
    obtain ⟨msgJ, kemPublic⟩ := fields
    rw [split] at built
    cases agreed : symbolic.finish (.text secret) pake msgJ with
    | error e =>
      have text : symbolic.text secret = .text secret := rfl
      simp [text, agreed, bind, Except.bind] at built
    | ok key =>
      cases made : symbolic.encapsulate kemPublic coin with
      | error e =>
        have text : symbolic.text secret = .text secret := rfl
        simp [text, agreed, made, bind, Except.bind] at built
      | ok out =>
        obtain ⟨holder, rfl, rfl⟩ := encapsulate_eq made
        have text : symbolic.text secret = .text secret := rfl
        simp only [text, agreed, made, bind, Except.bind] at built
        refine ⟨msgJ, holder, key, twoFields_eq split, agreed, ?_⟩
        cases built
        rfl

/-- What a run keeps: nobody sees too much, all that is sealed is sealed fairly, and nothing is drawn twice. -/
structure Sound (o : Observer) (w : World Term) : Prop where
  shown : ∀ m ∈ w.seen symbolic, Shown o m
  fair : ∀ m ∈ w.seen symbolic, Fair o (Issued w) m
  /-- Each answer is an inviter's, to an opener that it found. -/
  built : ∀ a ∈ w.answers, a.invite ∈ w.invites ∧ ∃ pake coin nonce, pake < w.drawn
    ∧ buildInviteResponse symbolic a.invite.secret a.invite.payload a.opener (.ours pake) (.ours coin) (.ours nonce)
      = .ok a.response
    ∧ ∀ j ∈ w.joiners, j.pake ≠ .ours pake
  drawn : ∀ j ∈ w.joiners, ∃ pake, j.pake = .ours pake ∧ pake < w.drawn
  /-- A joiner with words that are hidden has its payload from an inviter that answered it. -/
  agreed : ∀ j ∈ w.joiners, ∀ payload, j.phase = .ended (.ok payload) → ¬ o.pakeBroken → o.hidden j.secret →
    ∃ a ∈ w.answers, a.invite.secret = j.secret ∧ a.invite.payload = payload ∧ a.opener = j.opener symbolic

theorem issued_plain (sound : Sound o w) {key plaintext : Term} (issued : Issued w key plaintext) :
    ∃ text, plaintext = .text text := by
  obtain ⟨a, member, _, _, _, same⟩ := issued
  obtain ⟨_, pake, coin, nonce, _, built, _⟩ := sound.built a member
  obtain ⟨_, _, _, _, _, made⟩ := buildInviteResponse_eq built
  rw [same] at made
  cases made
  exact ⟨_, rfl⟩

/-- Whatever stands in a mailbox may be seen, and is sealed fairly. -/
theorem posted_shown (sound : Sound o w) {m : Term} (posted : w.Posted symbolic o m) :
    Shown o m ∧ Fair o (Issued w) m := by
  -- What holds of all that passed, and is kept by each operation, holds of all that can be posted.
  refine posted.closed (P := fun m => Shown o m ∧ Fair o (Issued w) m)
    (fun m member => ⟨sound.shown m member, sound.fair m member⟩) ?_
  intro args m each result
  exact ⟨op_shown (fun a member => (each a member).1) result,
    op_fair (fun _ _ issued => issued_plain sound issued) each result⟩

/-- Two ends have one key only from the same words and each other's messages. -/
theorem finish_same {secret secret' : String} {msgI msgJ key : Term} {joiner inviter : Seed} (fresh : joiner ≠ inviter)
    (agreed : symbolic.finish (symbolic.text secret) joiner msgI = .ok key)
    (agreed' : symbolic.finish (.text secret') inviter msgJ = .ok key) :
    secret' = secret ∧ msgJ = .element (.text secret) joiner := by
  obtain ⟨s₁, d₁, rfl, ⟨same₁, one⟩ | ⟨_, one⟩⟩ := finish_eq agreed <;>
    obtain ⟨s₂, d₂, rfl, ⟨same₂, other⟩ | ⟨_, other⟩⟩ := finish_eq agreed'
  · rw [one] at other
    -- Both keys are agreed ones: the seeds of the two ends are the same pair.
    simp only [symbolic, Term.pakeKey.injEq, Term.text.injEq, Sym2.eq_iff] at other
    obtain ⟨rfl, ⟨clash, _⟩ | ⟨mine, _⟩⟩ := other
    -- The same way round, the two ends would share one draw.
    · exact absurd clash fresh
    · exact ⟨rfl, by rw [same₂, mine]⟩
  · rw [one] at other
    cases other
  · rw [one] at other
    cases other
  · -- A stray key names the end that computed it.
    rw [one] at other
    cases other
    exact absurd rfl fresh

theorem decapsulate_same {cipher : Term} {holder holder' coin : Seed}
    (opened : symbolic.decapsulate holder cipher = .ok (.kemShared holder' coin)) : holder' = holder := by
  obtain ⟨_, _, rfl, ⟨_, same⟩ | same⟩ := decapsulate_eq opened <;> cases same
  rfl

/-- A joiner whose words are hidden completes with a payload only from the answer to its own opener. -/
theorem complete_agreed (sound : Sound o w) (member : j ∈ w.joiners) {msgI cipher blob : Term} {payload : String}
    (fair : Fair o (Issued w) blob) (unbroken : ¬ o.pakeBroken) (hidden : o.hidden j.secret)
    (done : j.complete symbolic msgI cipher blob = .ok payload) :
    ∃ a ∈ w.answers, a.invite.secret = j.secret ∧ a.invite.payload = payload ∧ a.opener = j.opener symbolic := by
  unfold Joiner.complete at done
  cases agreed : symbolic.finish (symbolic.text j.secret) j.pake msgI with
  | error e => simp [agreed] at done
  | ok key =>
    cases opened : symbolic.decapsulate j.kem cipher with
    | error e => simp [agreed, opened] at done
    | ok shared =>
      cases unsealed : symbolic.storageOpen (symbolic.hybridSealKey key shared) blob with
      | error e => simp [agreed, opened, unsealed] at done
      | ok plaintext =>
        obtain ⟨nonce, rfl⟩ := storageOpen_eq unsealed
        simp only [agreed, opened, unsealed] at done
        -- Only an answer holds what is sealed under a key that the words protect.
        have issued : Issued w (.sealKey key shared) plaintext := by
          obtain ⟨seen, _⟩ | issued := fair
          · have known := (finish_shown agreed).mp seen.1
            exact absurd known (by simp [unbroken, symbolic, Shown, hidden])
          · exact issued
        obtain ⟨a, answered, _, _, _, same⟩ := issued
        obtain ⟨_, pake, coin, nonce', _, built, fresh⟩ := sound.built a answered
        obtain ⟨msgJ, holder, key', shape, agreed', made⟩ := buildInviteResponse_eq built
        rw [same] at made
        simp only [Term.three.injEq, Term.sealed.injEq, Term.sealKey.injEq] at made
        obtain ⟨_, _, ⟨sameKey, sameShared⟩, _, samePlain⟩ := made
        subst sameKey sameShared samePlain
        have text : a.invite.payload = payload := by
          simpa [symbolic] using done
        -- One key at both ends takes the same words and this joiner's own message.
        obtain ⟨words, element⟩ := finish_same (fresh j member) agreed agreed'
        -- One shared secret at both ends takes this joiner's own public key.
        have kem : holder = j.kem := decapsulate_same opened
        refine ⟨a, answered, words, text, ?_⟩
        rw [shape, element, kem]
        rfl

theorem Fair.more {issued issued' : Term → Term → Prop} (more : ∀ key plaintext, issued key plaintext → issued' key plaintext)
    {m : Term} (fair : Fair o issued m) : Fair o issued' m := by
  induction m with
  | sealed key _ plaintext _ ih =>
    obtain ⟨seen, inside⟩ | issued := fair
    · exact .inl ⟨seen, ih inside⟩
    · exact .inr (more _ _ issued)
  | two a b first second => exact ⟨first fair.1, second fair.2⟩
  | three a b c first second third => exact ⟨first fair.1, second fair.2.1, third fair.2.2⟩
  | _ => trivial

/-- What a joiner's rounds leave as it is. -/
def SameHands (j j' : Joiner) : Prop := j'.secret = j.secret ∧ j'.pake = j.pake ∧ j'.kem = j.kem

theorem postRound_same (j : Joiner) (posted : List Bool) (now : Nat) : SameHands j (j.postRound posted now) := by
  unfold Joiner.postRound
  repeat' split
  all_goals exact ⟨rfl, rfl, rfl⟩

theorem waitRound_same {M : Type} (S : Suite M) (j : Joiner) (round : WaitRound M) :
    SameHands j (j.waitRound S round) := by
  unfold Joiner.waitRound
  repeat' split
  all_goals exact ⟨rfl, rfl, rfl⟩

/-- Posting an opener ends no handshake well. -/
theorem postRound_ended {posted : List Bool} {now : Nat} {payload : String}
    (ended : (j.postRound posted now).phase = .ended (.ok payload)) : j.phase = .ended (.ok payload) := by
  unfold Joiner.postRound at ended
  repeat' split at ended
  all_goals first
    | cases ended
    | exact ended

/-- A round of the wait ends well with the first well-formed answer alone. -/
theorem waitRound_ended {round : WaitRound Term} {payload : String}
    (ended : (j.waitRound symbolic round).phase = .ended (.ok payload)) :
    j.phase = .ended (.ok payload) ∨ ∃ msgI cipher blob, firstAnswer symbolic round.takes = some (msgI, cipher, blob)
      ∧ j.complete symbolic msgI cipher blob = .ok payload := by
  unfold Joiner.waitRound at ended
  cases phase : j.phase with
  | posting attempts deadline =>
    simp only [phase] at ended
    cases ended
  | ended result =>
    simp only [phase] at ended
    exact .inl ended
  | waiting deadline lastPost reposts =>
    simp only [phase] at ended
    split at ended
    · cases ended
    · cases found : firstAnswer symbolic round.takes with
      | none =>
        simp only [found] at ended
        split at ended
        · cases ended
        · rw [phase] at ended
          cases ended
      | some answer =>
        obtain ⟨msgI, cipher, blob⟩ := answer
        simp only [found, Phase.ended.injEq] at ended
        exact .inr ⟨msgI, cipher, blob, rfl, ended⟩

theorem complete_of {M : Type} (S : Suite M) {j : Joiner} {payload : String} {msgI key cipher shared blob plaintext : M}
    (agreed : S.finish (S.text j.secret) j.pake msgI = .ok key) (opened : S.decapsulate j.kem cipher = .ok shared)
    (unsealed : S.storageOpen (S.hybridSealKey key shared) blob = .ok plaintext)
    (text : S.readText plaintext = some payload) : j.complete S msgI cipher blob = .ok payload := by
  unfold Joiner.complete
  simp only [agreed, opened, unsealed, text]

section Wait

variable {M : Type} {S : Suite M}

/-- While nothing well-formed comes and the time is not up, a joiner waits on. -/
theorem waits_on {deadline lastPost reposts : Nat} {rounds : List (WaitRound M)}
    (phase : j.phase = .waiting deadline lastPost reposts)
    (nothing : ∀ r ∈ rounds, r.began < deadline ∧ firstAnswer S r.takes = none) :
    SameHands j (rounds.foldl (Joiner.waitRound S) j)
      ∧ ∃ lastPost reposts, (rounds.foldl (Joiner.waitRound S) j).phase = .waiting deadline lastPost reposts := by
  induction rounds generalizing j lastPost reposts with
  | nil => exact ⟨⟨rfl, rfl, rfl⟩, lastPost, reposts, phase⟩
  | cons r rest ih =>
    obtain ⟨early, none⟩ := nothing r List.mem_cons_self
    have same := waitRound_same S j r
    -- Neither the deadline nor an answer comes up: the joiner posts again, or stays as it is.
    have next : ∃ lastPost reposts, (j.waitRound S r).phase = .waiting deadline lastPost reposts := by
      unfold Joiner.waitRound
      simp only [phase, none]
      rw [if_neg (by omega)]
      split
      · exact ⟨_, _, rfl⟩
      · exact ⟨_, _, phase⟩
    obtain ⟨_, _, phase'⟩ := next
    obtain ⟨hands, waiting⟩ := ih phase' fun r member => nothing r (List.mem_cons_of_mem _ member)
    exact ⟨⟨hands.1.trans same.1, hands.2.1.trans same.2.1, hands.2.2.trans same.2.2⟩, waiting⟩

/-- A well-formed answer that comes in time ends the handshake. -/
theorem waitRound_answered {deadline lastPost reposts : Nat} {r : WaitRound M} {msgI cipher blob : M}
    (phase : j.phase = .waiting deadline lastPost reposts) (inTime : r.began < deadline)
    (first : firstAnswer S r.takes = some (msgI, cipher, blob)) :
    (j.waitRound S r).phase = .ended (j.complete S msgI cipher blob) := by
  unfold Joiner.waitRound
  simp only [phase, first]
  rw [if_neg (by omega)]

end Wait

/-- The first well-formed answer was in some relay's mailbox. -/
theorem firstAnswer_taken {takes : List (Option (List Term))} {msgI cipher blob : Term}
    (found : firstAnswer symbolic takes = some (msgI, cipher, blob)) :
    ∃ blobs, some blobs ∈ takes ∧ .three msgI cipher blob ∈ blobs := by
  obtain ⟨m, member, fields⟩ := List.exists_of_findSome?_eq_some found
  obtain ⟨blobs, among, inside⟩ := List.mem_flatten.mp member
  obtain ⟨take, taken, same⟩ := List.mem_filterMap.mp among
  rw [id_eq] at same
  subst same
  rw [threeFields_eq fields] at inside
  exact ⟨blobs, taken, inside⟩

/-- A joiner's round changes nothing that passed the relays. -/
theorem Sound.update (sound : Sound o w) {joiner : Nat} {j' : Joiner} (found : w.joiners[joiner]? = some j)
    (same : SameHands j j')
    (agreed : ∀ payload, j'.phase = .ended (.ok payload) → ¬ o.pakeBroken → o.hidden j.secret →
      ∃ a ∈ w.answers, a.invite.secret = j.secret ∧ a.invite.payload = payload ∧ a.opener = j.opener symbolic) :
    Sound o { w with joiners := w.joiners.set joiner j' } := by
  have member : j ∈ w.joiners := List.mem_of_getElem? found
  have opener : j'.opener symbolic = j.opener symbolic := by
    simp only [Joiner.opener, same.1, same.2.1, same.2.2]
  -- The opener is made of what a round leaves as it is, so nothing new has passed.
  have seen : ∀ m ∈ World.seen symbolic { w with joiners := w.joiners.set joiner j' }, m ∈ w.seen symbolic := by
    rintro m (⟨k, among, rfl⟩ | answered)
    · obtain among | rfl := List.mem_or_eq_of_mem_set among
      · exact .inl ⟨k, among, rfl⟩
      · exact .inl ⟨j, member, opener⟩
    · exact .inr answered
  refine ⟨fun m among => sound.shown m (seen m among), fun m among => sound.fair m (seen m among), ?_, ?_, ?_⟩
  · intro a answered
    obtain ⟨hosted, pake, coin, nonce, early, built, fresh⟩ := sound.built a answered
    refine ⟨hosted, pake, coin, nonce, early, built, ?_⟩
    intro k among
    obtain among | rfl := List.mem_or_eq_of_mem_set among
    · exact fresh k among
    · rw [same.2.1]
      exact fresh j member
  · intro k among
    obtain among | rfl := List.mem_or_eq_of_mem_set among
    · exact sound.drawn k among
    · rw [same.2.1]
      exact sound.drawn j member
  · intro k among payload ended unbroken hidden
    obtain among | rfl := List.mem_or_eq_of_mem_set among
    · exact sound.agreed k among payload ended unbroken hidden
    · rw [opener, same.1]
      exact agreed payload ended unbroken (same.1 ▸ hidden)

/-- An opener shows nothing, and is sealed in no part. -/
theorem opener_shown (j : Joiner) (issued : Term → Term → Prop) :
    Shown o (j.opener symbolic) ∧ Fair o issued (j.opener symbolic) :=
  ⟨⟨trivial, trivial⟩, ⟨trivial, trivial⟩⟩

/-- A guarded answer does not show a hidden payload. -/
theorem response_shown (guarded : Guarded symbolic o invite opener) {pake coin nonce : Nat}
    (built : buildInviteResponse symbolic invite.secret invite.payload opener (.ours pake) (.ours coin) (.ours nonce)
      = .ok response) : Shown o response := by
  obtain ⟨msgJ, holder, key, rfl, agreed, rfl⟩ := buildInviteResponse_eq built
  refine ⟨trivial, trivial, ?_⟩
  intro seen hidden
  obtain ⟨unbroken, words⟩ | ⟨unbroken, msg, n, split⟩ := guarded hidden
  · -- SPAKE2 holds, and nobody else has the words.
    have known := (finish_shown agreed).mp seen.1
    exact absurd known (by simp [unbroken, Shown, words])
  · -- ML-KEM holds, and the key is a joiner's.
    cases split
    obtain broken | ⟨n', theirs | theirs⟩ := seen.2
    · exact unbroken broken
    · cases theirs
    · cases theirs

/-- One step keeps a world sound. -/
theorem Sound.step {event : Event Term} (sound : Sound o w) (taken : World.Step symbolic o w event w')
    (guarded : ∀ invite opener, event = .answer invite opener → Guarded symbolic o invite opener) : Sound o w' := by
  cases taken with
  | stage invite =>
    -- Hosting a code sends nothing.
    refine ⟨sound.shown, sound.fair, ?_, sound.drawn, sound.agreed⟩
    intro a answered
    obtain ⟨hosted, made⟩ := sound.built a answered
    exact ⟨List.mem_append_left _ hosted, made⟩
  | join relays slot secret timeout now =>
    -- A joiner adds its opener to what passed, and nothing else.
    have seen : ∀ m ∈ World.seen symbolic
        { w with
          joiners := w.joiners ++ [beginJoin relays slot secret (.ours w.drawn) (.ours (w.drawn + 1)) timeout now]
          drawn := w.drawn + 2 }, m ∈ w.seen symbolic ∨ ∃ k : Joiner, m = k.opener symbolic := by
      rintro m (⟨k, among, rfl⟩ | answered)
      · exact .inr ⟨k, rfl⟩
      · exact .inl (.inr answered)
    refine ⟨?_, ?_, ?_, ?_, ?_⟩
    · intro m among
      obtain before | ⟨k, rfl⟩ := seen m among
      · exact sound.shown m before
      · exact (opener_shown k (Issued w)).1
    · intro m among
      obtain before | ⟨k, rfl⟩ := seen m among
      · exact sound.fair m before
      · exact (opener_shown k _).2
    · intro a answered
      obtain ⟨hosted, pake, coin, nonce, early, built, fresh⟩ := sound.built a answered
      refine ⟨hosted, pake, coin, nonce, by dsimp only; omega, built, ?_⟩
      intro k among
      obtain among | new := List.mem_append.mp among
      · exact fresh k among
      · rw [List.mem_singleton.mp new]
        -- The joiner draws past all that answers have drawn.
        intro clash
        cases clash
        omega
    · intro k among
      obtain among | new := List.mem_append.mp among
      · obtain ⟨pake, same, early⟩ := sound.drawn k among
        exact ⟨pake, same, by dsimp only; omega⟩
      · rw [List.mem_singleton.mp new]
        exact ⟨w.drawn, rfl, by dsimp only; omega⟩
    · intro k among payload ended unbroken hidden
      obtain among | new := List.mem_append.mp among
      · exact sound.agreed k among payload ended unbroken hidden
      · rw [List.mem_singleton.mp new] at ended
        -- A handshake that has just begun has no payload.
        unfold beginJoin at ended
        dsimp only at ended
        split at ended <;> cases ended
  | @answer invite opener response hosted posted built =>
    -- A key that is issued stays issued.
    have more : ∀ key plaintext, Issued w key plaintext →
        Issued { w with answers := w.answers ++ [⟨invite, opener, response⟩], drawn := w.drawn + 3 } key plaintext := by
      rintro key plaintext ⟨a, answered, parts⟩
      exact ⟨a, List.mem_append_left _ answered, parts⟩
    have seen : ∀ m ∈ World.seen symbolic
        { w with answers := w.answers ++ [⟨invite, opener, response⟩], drawn := w.drawn + 3 },
        m ∈ w.seen symbolic ∨ m = response := by
      rintro m (joined | ⟨a, among, rfl⟩)
      · exact .inl (.inl joined)
      · obtain among | new := List.mem_append.mp among
        · exact .inl (.inr ⟨a, among, rfl⟩)
        · exact .inr (by rw [List.mem_singleton.mp new])
    refine ⟨?_, ?_, ?_, ?_, ?_⟩
    · intro m among
      obtain before | rfl := seen m among
      · exact sound.shown m before
      -- Here alone the guard is used.
      · exact response_shown (guarded invite opener rfl) built
    · intro m among
      obtain before | rfl := seen m among
      · exact (sound.fair m before).more more
      · obtain ⟨msgJ, holder, key, _, _, made⟩ := buildInviteResponse_eq built
        -- The new answer itself issues the key that it is sealed under.
        rw [made]
        exact ⟨trivial, trivial, .inr ⟨_, List.mem_append_right _ (List.mem_singleton_self _), _, _, _, rfl⟩⟩
    · intro a among
      obtain among | new := List.mem_append.mp among
      · obtain ⟨hosted', pake, coin, nonce, early, built', fresh⟩ := sound.built a among
        exact ⟨hosted', pake, coin, nonce, by dsimp only; omega, built', fresh⟩
      · rw [List.mem_singleton.mp new]
        refine ⟨hosted, w.drawn, w.drawn + 1, w.drawn + 2, by dsimp only; omega, built, ?_⟩
        -- The answer draws past all that joiners have drawn.
        intro k joined clash
        obtain ⟨pake, same, early⟩ := sound.drawn k joined
        rw [same] at clash
        cases clash
        omega
    · intro k joined
      obtain ⟨pake, same, early⟩ := sound.drawn k joined
      exact ⟨pake, same, by dsimp only; omega⟩
    · intro k joined payload ended unbroken hidden
      obtain ⟨a, answered, parts⟩ := sound.agreed k joined payload ended unbroken hidden
      exact ⟨a, List.mem_append_left _ answered, parts⟩
  | @post joiner j found posted now =>
    refine sound.update found (postRound_same j posted now) ?_
    intro payload ended
    exact sound.agreed j (List.mem_of_getElem? found) payload (postRound_ended ended)
  | @wait joiner j found round posted =>
    refine sound.update found (waitRound_same symbolic j round) ?_
    intro payload ended unbroken hidden
    have member := List.mem_of_getElem? found
    obtain before | ⟨msgI, cipher, blob, first, done⟩ := waitRound_ended ended
    · exact sound.agreed j member payload before unbroken hidden
    · obtain ⟨blobs, among, inside⟩ := firstAnswer_taken first
      -- The answer came out of a mailbox, so its seal is an inviter's or one the observer may see.
      have fair := (posted_shown sound (posted blobs among _ inside)).2
      exact complete_agreed sound member fair.2.2 unbroken hidden done

/-- Every world that is reached is sound. -/
theorem reached_sound (reached : Reached symbolic o w) : Sound o w := by
  refine Reach.invariant (P := Sound o) ?_ ?_ reached
  -- At the start nothing has passed the relays.
  · refine ⟨?_, ?_, by simp, by simp, by simp⟩ <;>
      · rintro m (⟨_, among, _⟩ | ⟨_, among, _⟩) <;> cases among
  · intro w event w' _ sound both
    exact sound.step both.1 both.2

/--
Nothing hidden can be made of all that passes the relays.

So a payload stays with its inviter and joiner, whoever else answers or opens, as long as SPAKE2 and the words hold
or ML-KEM does; and the words stay between those who know them.
-/
theorem handshake_hides (reached : Reached symbolic o w) {secret : String} (hidden : o.hidden secret) :
    ¬ w.Posted symbolic o (.text secret) := by
  intro posted
  exact (posted_shown (reached_sound reached) posted).1 hidden

/-- A code that is hosted, joined, answered and received. -/
def hostedCode : Invite := ⟨"k7", "cedar-river", "nightdrop://pair"⟩

def joiningCode : Joiner := beginJoin 1 "k7" "cedar-river" (.ours 0) (.ours 1) 300_000 0

def answeringKey : Term := .sealKey (.pakeKey (.text "cedar-river") s(.ours 2, .ours 0)) (.kemShared (.ours 1) (.ours 3))

def answeringCode : Term :=
  .three (.element (.text "cedar-river") (.ours 2)) (.kemCipher (.ours 1) (.ours 3))
    (.sealed answeringKey (.ours 4) (.text "nightdrop://pair"))

def joinedCode : Joiner := (joiningCode.postRound [true] 5).waitRound symbolic ⟨10, 20, 20, [some [answeringCode]]⟩

def paired : World Term :=
  { invites := [hostedCode], joiners := [joinedCode]
    answers := [⟨hostedCode, joiningCode.opener symbolic, answeringCode⟩], drawn := 5 }

/-- Nobody else knows the words or the payload, and nothing is broken. -/
def outsider : Observer := ⟨fun text => text = "cedar-river" ∨ text = "nightdrop://pair", False, False⟩

theorem paired_reached : Reached symbolic outsider paired := by
  -- The one answer is guarded by words that are hidden.
  have guarded : ∀ invite opener, Event.answer hostedCode (joiningCode.opener symbolic) = .answer invite opener →
      Guarded symbolic outsider invite opener := by
    intro invite opener same
    cases same
    intro _
    exact .inl ⟨fun broken => broken, .inl rfl⟩
  have hosted : Reached symbolic outsider { invites := [hostedCode] } :=
    .step (.stage hostedCode) .start ⟨.stage _ _, fun _ _ same => by cases same⟩
  have joined : Reached symbolic outsider { invites := [hostedCode], joiners := [joiningCode], drawn := 2 } :=
    .step (.join 1 "k7" "cedar-river" 300_000 0) hosted ⟨.join _ _ _ _ _ _, fun _ _ same => by cases same⟩
  have answered : Reached symbolic outsider
      { invites := [hostedCode], joiners := [joiningCode]
        answers := [⟨hostedCode, joiningCode.opener symbolic, answeringCode⟩], drawn := 5 } := by
    refine .step (.answer hostedCode (joiningCode.opener symbolic)) joined ⟨.answer _ ?_ ?_ ?_, guarded⟩
    · exact List.mem_singleton_self _
    · exact .saw (.inl ⟨joiningCode, List.mem_singleton_self _, rfl⟩)
    · rfl
  have posted : Reached symbolic outsider
      { invites := [hostedCode], joiners := [joiningCode.postRound [true] 5]
        answers := [⟨hostedCode, joiningCode.opener symbolic, answeringCode⟩], drawn := 5 } :=
    .step (.post 0 [true] 5) answered ⟨.post _ rfl _ _, fun _ _ same => by cases same⟩
  refine .step (.wait 0 ⟨10, 20, 20, [some [answeringCode]]⟩) posted ⟨.wait _ rfl _ ?_, fun _ _ same => by cases same⟩
  intro blobs among m member
  simp only [List.mem_singleton, Option.some.injEq] at among
  subst among
  rw [List.mem_singleton.mp member]
  exact .saw (.inr ⟨_, List.mem_singleton_self _, rfl⟩)

/-- The payload of a code that was joined stays hidden. -/
theorem handshake_hides_paired : ¬ paired.Posted symbolic outsider (.text "nightdrop://pair") :=
  handshake_hides paired_reached (.inr rfl)

/--
A joiner that ends with a payload has it from an inviter of that payload with the same words, which answered this
joiner's own opener.
-/
theorem joined_agrees (reached : Reached symbolic o w) (unbroken : ¬ o.pakeBroken) (joined : j ∈ w.joiners)
    (hidden : o.hidden j.secret) {payload : String} (ended : j.phase = .ended (.ok payload)) :
    ∃ a ∈ w.answers, a.invite ∈ w.invites ∧ a.invite.secret = j.secret ∧ a.invite.payload = payload
      ∧ a.opener = j.opener symbolic := by
  have sound := reached_sound reached
  obtain ⟨a, answered, parts⟩ := sound.agreed j joined payload ended unbroken hidden
  exact ⟨a, answered, (sound.built a answered).1, parts⟩

theorem joinedCode_phase : joinedCode.phase = .ended (.ok "nightdrop://pair") := by
  have first : firstAnswer symbolic [some [answeringCode]] = some
      (.element (.text "cedar-river") (.ours 2), .kemCipher (.ours 1) (.ours 3),
        .sealed answeringKey (.ours 4) (.text "nightdrop://pair")) := rfl
  -- The two ends name the one key the other way round.
  have agreed : symbolic.finish (.text "cedar-river") (.ours 0) (.element (.text "cedar-river") (.ours 2))
      = .ok (.pakeKey (.text "cedar-river") s(.ours 2, .ours 0)) :=
    congrArg (fun ends => Except.ok (Term.pakeKey (.text "cedar-river") ends)) Sym2.eq_swap
  have opened : symbolic.decapsulate (.ours 1) (.kemCipher (.ours 1) (.ours 3))
      = .ok (.kemShared (.ours 1) (.ours 3)) := congrArg Except.ok (if_pos rfl)
  have unsealed : symbolic.storageOpen answeringKey (.sealed answeringKey (.ours 4) (.text "nightdrop://pair"))
      = .ok (.text "nightdrop://pair") := by simp [symbolic]
  refine (waitRound_answered rfl ?_ first).trans ?_
  · decide
  · exact congrArg Phase.ended (complete_of symbolic agreed opened unsealed rfl)

/-- The joiner of a code has its payload from the one who hosted it. -/
theorem joined_agrees_paired : ∃ a ∈ paired.answers, a.invite ∈ paired.invites
    ∧ a.invite.secret = joinedCode.secret ∧ a.invite.payload = "nightdrop://pair"
    ∧ a.opener = joinedCode.opener symbolic :=
  joined_agrees paired_reached (fun broken => broken) (List.mem_singleton_self _) (.inl rfl) joinedCode_phase

/-! The same handshake on bytes: an answered joiner is served. -/

/-- What the packages promise: one key for two ends with one secret, secrets and texts that come back, fixed sizes. -/
structure Packages.Kept (P : Packages) : Prop where
  agree : ∀ secret a b, a ≠ b → ∃ key, P.finish secret a (P.start secret b) = .ok key
    ∧ P.finish secret b (P.start secret a) = .ok key
  kem : ∀ holder coin, ∃ cipher shared, P.encapsulate (P.kemPublic holder) coin = some (cipher, shared)
    ∧ P.decapsulate holder cipher = some shared ∧ cipher.length = KEM_CIPHERTEXT_LEN
  aead : ∀ key seed plaintext, plaintext.length + 28 < 2 ^ 32 → ∃ ciphertext,
    P.encrypt key (P.generateNonce seed) plaintext = some ciphertext
      ∧ P.decrypt key (P.generateNonce seed) ciphertext = some plaintext ∧ ciphertext.length = plaintext.length + 16
  element : ∀ secret seed, (P.start secret seed).length = 33
  publicKey : ∀ holder, (P.kemPublic holder).length = KEM_PUBLIC_LEN
  nonce : ∀ seed, (P.generateNonce seed).length = Lock.NONCE_LEN

section Wrappers

variable {P : Packages}

theorem bouncerFinish_of {secret peer key : Bytes} {seed : Seed} (agreed : P.finish secret seed peer = .ok key) :
    P.bouncerFinish secret seed peer = .ok key := by
  unfold Packages.bouncerFinish
  rw [agreed]
  rfl

/-- A secret sent to a joiner's own public key comes back. -/
theorem kem_back (kept : P.Kept) (holder coin : Seed) : ∃ cipher shared,
    P.kemEncapsulate (P.kemPublic holder) coin = .ok (cipher, shared) ∧ P.kemDecapsulate holder cipher = .ok shared
      ∧ cipher.length = KEM_CIPHERTEXT_LEN := by
  obtain ⟨cipher, shared, made, opened, length⟩ := kept.kem holder coin
  refine ⟨cipher, shared, ?_, ?_, length⟩
  · unfold Packages.kemEncapsulate
    rw [if_neg (not_not_intro (kept.publicKey holder)), made]
  · unfold Packages.kemDecapsulate
    rw [if_neg (not_not_intro length), opened]

/-- A sealed payload comes back under its key. -/
theorem storage_back (kept : P.Kept) (key : Bytes) (nonce : Seed) {plaintext : Bytes}
    (fits : plaintext.length + 28 < 2 ^ 32) : ∃ blob,
    P.storageSeal key nonce plaintext = .ok blob ∧ P.storageOpen key blob = .ok plaintext
      ∧ blob.length = plaintext.length + 28 := by
  obtain ⟨ciphertext, made, opened, length⟩ := kept.aead key nonce plaintext fits
  have ahead := kept.nonce nonce
  refine ⟨P.generateNonce nonce ++ ciphertext, ?_, ?_, ?_⟩
  · unfold Packages.storageSeal
    rw [made]
  · unfold Packages.storageOpen
    rw [if_neg (by rw [List.length_append, ahead]; omega), List.take_left' ahead, List.drop_left' ahead, opened]
  · rw [List.length_append, ahead, length, Lock.NONCE_LEN]
    omega

end Wrappers

theorem suite_twoFields (P : Packages) {a b : Bytes} (fits : a.length < 2 ^ 32) (fits' : b.length < 2 ^ 32) :
    P.suite.twoFields (P.suite.putTwo a b) = some (a, b) := by
  have first := takeField_putField (putField b) fits
  have last := takeField_putField [] fits'
  rw [List.append_nil] at last
  change (takeField (putField a ++ putField b)).bind
    (fun x => (takeField x.2).bind fun y => some (x.1, y.1)) = some (a, b)
  rw [first, Option.bind_some, last, Option.bind_some]

theorem suite_threeFields (P : Packages) {a b c : Bytes} (fits : a.length < 2 ^ 32) (fits' : b.length < 2 ^ 32)
    (fits'' : c.length < 2 ^ 32) : P.suite.threeFields (P.suite.putThree a b c) = some (a, b, c) := by
  have first := takeField_putField (putField b ++ putField c) fits
  have second := takeField_putField (putField c) fits'
  have last := takeField_putField [] fits''
  rw [List.append_nil] at last
  change (takeField (putField a ++ (putField b ++ putField c))).bind
    (fun x => (takeField x.2).bind fun y => (takeField y.2).bind fun z => some (x.1, y.1, z.1)) = some (a, b, c)
  rw [first, Option.bind_some, second, Option.bind_some, last, Option.bind_some]

/-- The parts of an answer, put together. -/
theorem buildInviteResponse_of {M : Type} (S : Suite M) {j : Joiner} {payload : String} {pake coin nonce : Seed}
    {msgJ publicKey key cipher shared blob : M} (fields : S.twoFields (j.opener S) = some (msgJ, publicKey))
    (agreed : S.finish (S.text j.secret) pake msgJ = .ok key)
    (made : S.encapsulate publicKey coin = .ok (cipher, shared))
    (stored : S.storageSeal (S.hybridSealKey key shared) nonce (S.text payload) = .ok blob) :
    buildInviteResponse S j.secret payload (j.opener S) pake coin nonce
      = .ok (S.putThree (S.start (S.text j.secret) pake) cipher blob) := by
  unfold buildInviteResponse
  simp only [fields, agreed, made, stored, bind, Except.bind, pure, Except.pure]

/-- The answer to a joiner's opener under its own words is built, and completes the joiner. -/
theorem response_completes {P : Packages} (kept : P.Kept) (j : Joiner) {payload : String}
    (fits : (utf8 payload).length + 28 < 2 ^ 32) {pake : Seed} (apart : pake ≠ j.pake) (coin nonce : Seed) :
    ∃ response msgI cipher blob,
      buildInviteResponse P.suite j.secret payload (j.opener P.suite) pake coin nonce = .ok response
      ∧ P.suite.threeFields response = some (msgI, cipher, blob)
      ∧ j.complete P.suite msgI cipher blob = .ok payload := by
  -- What each package gives to both ends.
  obtain ⟨key, ours, theirs⟩ := kept.agree (utf8 j.secret) pake j.pake apart
  obtain ⟨cipher, shared, made, opened, long⟩ := kem_back kept j.kem coin
  obtain ⟨blob, stored, unsealed, size⟩ := storage_back kept (P.hybridSealKey key shared) nonce fits
  -- Each field is short enough for its length to be written in front of it.
  have small : ∀ secret seed, (P.start secret seed).length < 2 ^ 32 := by
    intro secret seed
    rw [kept.element]
    omega
  have publicKey : (P.kemPublic j.kem).length < 2 ^ 32 := by
    rw [kept.publicKey, KEM_PUBLIC_LEN]
    omega
  have narrow : cipher.length < 2 ^ 32 := by
    rw [long, KEM_CIPHERTEXT_LEN]
    omega
  have whole : blob.length < 2 ^ 32 := by
    rw [size]
    exact fits
  have fields := suite_twoFields P (small (utf8 j.secret) j.pake) publicKey
  have parts := suite_threeFields P (small (utf8 j.secret) pake) narrow whole
  exact ⟨_, _, _, _, buildInviteResponse_of P.suite fields (bouncerFinish_of ours) made stored, parts,
    complete_of P.suite (bouncerFinish_of theirs) opened unsealed (fromUtf8_utf8 payload)⟩

/--
A joiner that finds an answer to any of its posts in time gets the payload.

Every answer by an inviter with the same words will do, whatever it drew, however many rounds brought nothing before,
and whatever malformed blobs stand before it.
-/
theorem answered_joins {P : Packages} (kept : P.Kept) {j : Joiner} {deadline lastPost reposts : Nat}
    (phase : j.phase = .waiting deadline lastPost reposts) {payload : String}
    (fits : (utf8 payload).length + 28 < 2 ^ 32) {pake : Seed} (apart : pake ≠ j.pake) (coin nonce : Seed) :
    ∃ response, buildInviteResponse P.suite j.secret payload (j.opener P.suite) pake coin nonce = .ok response
      ∧ ∀ (rounds : List (WaitRound Bytes)) (last : WaitRound Bytes) (early late : List Bytes),
        (∀ r ∈ rounds, r.began < deadline ∧ firstAnswer P.suite r.takes = none) → last.began < deadline →
        (last.takes.filterMap id).flatten = early ++ response :: late →
        (∀ blob ∈ early, P.suite.threeFields blob = none) →
        ((rounds ++ [last]).foldl (Joiner.waitRound P.suite) j).phase = .ended (.ok payload) := by
  obtain ⟨response, msgI, cipher, blob, built, fields, complete⟩ := response_completes kept j fits apart coin nonce
  refine ⟨response, built, ?_⟩
  intro rounds last early late nothing inTime found malformed
  obtain ⟨same, lastPost', reposts', phase'⟩ := waits_on phase nothing
  -- Malformed blobs are passed over, and the answer is the first that splits.
  have first : firstAnswer P.suite last.takes = some (msgI, cipher, blob) := by
    unfold firstAnswer
    rw [found, List.findSome?_append, List.findSome?_eq_none_iff.mpr malformed, Option.none_or, List.findSome?_cons, fields]
  -- The handshake is still the one that was begun.
  have complete' : (rounds.foldl (Joiner.waitRound P.suite) j).complete P.suite msgI cipher blob = .ok payload := by
    rw [← complete]
    unfold Joiner.complete
    rw [same.1, same.2.1, same.2.2]
  rw [List.foldl_append, List.foldl_cons, List.foldl_nil, waitRound_answered phase' inTime first, complete']

/-- A tag of 16 bytes that tells a key. -/
def plainTag (key : Bytes) : Bytes := (key ++ List.replicate 16 0).take 16

theorem plainTag_length (key : Bytes) : (plainTag key).length = 16 := by
  unfold plainTag
  rw [List.length_take, List.length_append, List.length_replicate]
  omega

/-- Packages of the promised sizes: the agreed key is the words, and a cipher that only a key's tag guards. -/
def plainPackages : Packages where
  start _ _ := List.replicate 33 0
  finish secret _ _ := .ok secret
  kemPublic _ := List.replicate KEM_PUBLIC_LEN 0
  encapsulate _ _ := some (List.replicate KEM_CIPHERTEXT_LEN 0, [])
  decapsulate _ _ := some []
  hkdf _ ikm _ := ikm
  generateNonce _ := List.replicate Lock.NONCE_LEN 0
  encrypt key _ plaintext := some (plainTag key ++ plaintext)
  decrypt key _ ciphertext := if ciphertext.take 16 = plainTag key then some (ciphertext.drop 16) else none

theorem plainPackages_kept : plainPackages.Kept where
  agree secret _ _ _ := ⟨secret, rfl, rfl⟩
  kem _ _ := ⟨List.replicate KEM_CIPHERTEXT_LEN 0, [], rfl, rfl, List.length_replicate⟩
  aead key nonce plaintext _ := by
    have length := plainTag_length key
    refine ⟨plainTag key ++ plaintext, rfl, ?_, ?_⟩
    · exact (if_pos (List.take_left' length)).trans (congrArg some (List.drop_left' length))
    · rw [List.length_append, length, Nat.add_comm]
  element _ _ := List.length_replicate
  publicKey _ := List.length_replicate
  nonce _ := List.length_replicate

def postedCode : Joiner := joiningCode.postRound [true] 5

/-- A joiner that has posted its opener is served. -/
theorem answered_joins_plain :
    ∃ response, buildInviteResponse plainPackages.suite postedCode.secret "pair"
        (postedCode.opener plainPackages.suite) (.ours 2) (.ours 3) (.ours 4) = .ok response
      ∧ ∀ (rounds : List (WaitRound Bytes)) (last : WaitRound Bytes) (early late : List Bytes),
        (∀ r ∈ rounds, r.began < 5 + 300_000 ∧ firstAnswer plainPackages.suite r.takes = none) →
        last.began < 5 + 300_000 →
        (last.takes.filterMap id).flatten = early ++ response :: late →
        (∀ blob ∈ early, plainPackages.suite.threeFields blob = none) →
        ((rounds ++ [last]).foldl (Joiner.waitRound plainPackages.suite) postedCode).phase = .ended (.ok "pair") := by
  have phase : postedCode.phase = .waiting (5 + 300_000) 5 0 := rfl
  have fits : (utf8 "pair").length + 28 < 2 ^ 32 := by
    rw [show utf8 "pair" = [112, 97, 105, 114] from rfl]
    simp
  exact answered_joins plainPackages_kept phase fits (fun same => by cases same) (.ours 3) (.ours 4)

end Rendezvous
end Nightdrop
