import Nightdrop.Lib.Reach
import Nightdrop.Node.Keyroll
import Nightdrop.Node.Symbolic
import Nightdrop.Proofs.Node.Polling

/-! The trusted signing keys never roll back while no two update calls overlap. -/

namespace Nightdrop

/-- A text that is trimmed already stays as it is. -/
theorem trimText_trimText (text : String) : trimText (trimText text) = trimText text := by
  unfold trimText
  rw [String.toList_ofList]
  congr 1
  show ((List.rdropWhile isSpace (text.toList.dropWhile isSpace)).dropWhile isSpace).rdropWhile isSpace
    = List.rdropWhile isSpace (text.toList.dropWhile isSpace)
  -- Dropping at the end leaves the first character as it is, and that is no blank.
  have front : (List.rdropWhile isSpace (text.toList.dropWhile isSpace)).dropWhile isSpace
      = List.rdropWhile isSpace (text.toList.dropWhile isSpace) := by
    rw [List.dropWhile_eq_self_iff]
    intro some
    have kept := List.rdropWhile_prefix isSpace (text.toList.dropWhile isSpace)
    have longer := kept.length_le
    have first := (List.dropWhile_eq_self_iff (p := isSpace)
      (l := text.toList.dropWhile isSpace)).mp (List.dropWhile_idempotent isSpace _) (by omega)
    rwa [kept.getElem some]
  rw [front]
  exact List.rdropWhile_idempotent isSpace _

/-- A list is cut at the first place of an element in one way only. -/
theorem cut_at_first {α : Type} {c : α} {front front' back back' : List α} (fresh : c ∉ front)
    (fresh' : c ∉ front') (same : front ++ c :: back = front' ++ c :: back') :
    front = front' ∧ back = back' := by
  induction front generalizing front' with
  | nil =>
    cases front' with
    | nil => exact ⟨rfl, (List.cons.inj same).2⟩
    | cons a front' =>
      rw [(List.cons.inj same).1] at fresh'
      exact absurd (List.mem_cons_self ..) fresh'
  | cons a front ih =>
    cases front' with
    | nil =>
      rw [← (List.cons.inj same).1] at fresh
      exact absurd (List.mem_cons_self ..) fresh
    | cons b front' =>
      obtain ⟨rfl, rest⟩ := List.cons.inj same
      obtain ⟨rfl, rfl⟩ := ih (fun h => fresh (List.mem_cons_of_mem _ h))
        (fun h => fresh' (List.mem_cons_of_mem _ h)) rest
      exact ⟨rfl, rfl⟩

/-- What the recovery key signs names one purpose, one sequence and one key. -/
theorem rotationMessage_inj {purpose purpose' : Purpose} {seq seq' : Nat} {key key' : String}
    (same : rotationMessage purpose seq key = rotationMessage purpose' seq' key') :
    purpose = purpose' ∧ seq = seq' ∧ key = key' := by
  have texts := congrArg String.toList (utf8_inj.mp same)
  simp only [String.toList_append] at texts
  have digits : ∀ n : Nat, '\n' ∉ n.repr.toList := by
    intro n member
    rw [Nat.toList_repr] at member
    exact absurd (Nat.isDigit_of_mem_toDigits (by decide) (by decide) member) (by decide)
  have line : "\n".toList = ['\n'] := rfl
  -- The labels have no line break, and after them the digits have none.
  have labels : ∀ p : Purpose, '\n' ∉ p.label.toList := by
    intro p
    cases p <;> decide
  simp only [List.append_assoc, List.append_cancel_left_eq, line, List.singleton_append] at texts
  obtain ⟨label, texts⟩ := cut_at_first (labels purpose) (labels purpose') texts
  obtain ⟨number, last⟩ := cut_at_first (digits seq) (digits seq') texts
  refine ⟨?_, Nat.repr_injective (String.toList_inj.mp number), String.toList_inj.mp last⟩
  cases purpose <;> cases purpose' <;> first | rfl | exact absurd label (by decide)

section Keys

variable {S : Signing} {roots : Roots}

/-- A rotation verifies the same once its fields are trimmed. -/
theorem verifyRotation_trimmed (r : Rotation) :
    verifyRotation S roots ⟨r.seq, trimText r.key, trimText r.sig⟩ = verifyRotation S roots r := by
  unfold verifyRotation
  simp only [trimText_trimText]

/-- The sequence of a stored key; none is the key the release carries. -/
def seqOf (stored : Option Trust) : Nat := (stored.map Trust.seq).getD 0

/-- A stored key is one that its rotation still names. -/
def Stands (S : Signing) (roots : Roots) (stored : Option Trust) : Prop :=
  ∀ trust, stored = some trust → 0 < trust.seq ∧ (decodeKey trust.key).isSome = true
    ∧ verifyRotation S roots ⟨trust.seq, trust.key, trust.sig⟩ = true

/-- The sequence and the key that learning starts from. -/
def startFrom (S : Signing) (roots : Roots) (learned : Option Trust) : Nat × Bytes :=
  match (learned.filter (fun t => verifyRotation S roots ⟨t.seq, t.key, t.sig⟩)).bind
      (fun t => (decodeKey t.key).map (fun k => (t.seq, k))) with
  | some (seq, key) => if 0 < seq then (seq, key) else (0, roots.signing)
  | none => (0, roots.signing)

theorem currentKey_eq (learned : Option Trust) (rotation : Option Rotation) :
    currentKey S roots learned rotation =
      match rotation with
      | none => ((startFrom S roots learned).2, none)
      | some r =>
        if (startFrom S roots learned).1 < r.seq ∧ verifyRotation S roots r then
          match decodeKey r.key with
          | some key => (key, some { seq := r.seq, key := trimText r.key, sig := trimText r.sig })
          | none => ((startFrom S roots learned).2, none)
        else ((startFrom S roots learned).2, none) := by
  -- Both sides look at what is named first, then at the rotation, then at its key.
  obtain ⟨stored, named⟩ : ∃ stored, (learned.filter fun t => verifyRotation S roots ⟨t.seq, t.key, t.sig⟩).bind
      (fun t => (decodeKey t.key).map fun k => (t.seq, k)) = stored := ⟨_, rfl⟩
  cases rotation with
  | none => cases stored <;> simp only [currentKey, startFrom, named]
  | some r =>
    cases decoded : decodeKey r.key <;> cases stored <;> simp only [currentKey, startFrom, named, decoded]

/-- Learning starts from the key the release carries, or from one a rotation names. -/
theorem startFrom_named (learned : Option Trust) :
    (startFrom S roots learned).2 = roots.signing
      ∨ ∃ r, verifyRotation S roots r = true ∧ decodeKey r.key = some (startFrom S roots learned).2 := by
  unfold startFrom
  split
  · rename_i seq key found
    split
    · obtain ⟨trust, kept, read⟩ := Option.bind_eq_some_iff.mp found
      obtain ⟨_, verified⟩ := Option.filter_eq_some_iff.mp kept
      obtain ⟨k, decoded, same⟩ := Option.map_eq_some_iff.mp read
      cases same
      exact Or.inr ⟨⟨trust.seq, trust.key, trust.sig⟩, verified, decoded⟩
    · exact Or.inl rfl
  · exact Or.inl rfl

/-- Learning starts at the sequence of a stored key that stands. -/
theorem startFrom_seq {learned : Option Trust} (stands : Stands S roots learned) :
    (startFrom S roots learned).1 = seqOf learned := by
  cases learned with
  | none => rfl
  | some trust =>
    obtain ⟨positive, decodes, verified⟩ := stands trust rfl
    obtain ⟨key, decoded⟩ := Option.isSome_iff_exists.mp decodes
    have kept : (some trust).filter (fun t => verifyRotation S roots ⟨t.seq, t.key, t.sig⟩)
        = some trust := Option.filter_some_pos verified
    unfold startFrom
    rw [kept, Option.bind_some, decoded, Option.map_some]
    simp only []
    rw [if_pos positive]
    rfl

/-- What is verified with is the release's own key or one that a rotation names. -/
theorem currentKey_named (learned : Option Trust) (rotation : Option Rotation) :
    (currentKey S roots learned rotation).1 = roots.signing
      ∨ ∃ r, verifyRotation S roots r = true
        ∧ decodeKey r.key = some (currentKey S roots learned rotation).1 := by
  have start : (startFrom S roots learned).2 = roots.signing
      ∨ ∃ r, verifyRotation S roots r = true ∧ decodeKey r.key = some (startFrom S roots learned).2 :=
    startFrom_named learned
  rw [currentKey_eq]
  split
  · exact start
  · rename_i r
    split
    · rename_i newer
      split
      · rename_i key decoded
        exact Or.inr ⟨r, newer.2, decoded⟩
      · exact start
    · exact start

/-- A key to remember is named by its rotation, and is newer than the stored one it was learned on. -/
theorem currentKey_moved {learned : Option Trust} {rotation : Option Rotation} {trust : Trust}
    (moved : (currentKey S roots learned rotation).2 = some trust) :
    Stands S roots (some trust) ∧ (Stands S roots learned → seqOf learned < trust.seq) := by
  rw [currentKey_eq] at moved
  split at moved
  · cases moved
  · rename_i r
    split at moved
    · rename_i newer
      split at moved
      · rename_i key decoded
        cases moved
        refine ⟨?_, ?_⟩
        · rintro _ ⟨⟩
          refine ⟨Nat.lt_of_le_of_lt (Nat.zero_le _) newer.1, ?_, ?_⟩
          · show (decodeSized 32 (trimText (trimText r.key))).isSome = true
            rw [trimText_trimText]
            exact Option.isSome_iff_exists.mpr ⟨key, decoded⟩
          · rw [verifyRotation_trimmed]
            exact newer.2
        · intro stands
          have start := startFrom_seq stands
          show seqOf learned < r.seq
          rw [← start]
          exact newer.1
      · cases moved
    · cases moved

/-- What a parsed manifest moved the key to is what its rotation moved it to. -/
theorem parseManifestRooted_moved {body : Bytes} {learned moved : Option Trust} {now : Nat}
    {manifest : UpdateManifest}
    (parsed : parseManifestRooted S roots body learned now = some (manifest, moved)) :
    ∃ rotation, (currentKey S roots learned rotation).2 = moved := by
  unfold parseManifestRooted at parsed
  obtain ⟨envelope, _, parsed⟩ := Option.bind_eq_some_iff.mp parsed
  obtain ⟨_, _, parsed⟩ := Option.bind_eq_some_iff.mp parsed
  cases parsed
  exact ⟨envelope.rotation, rfl⟩

end Keys

variable {X : Externals} {S : Signing}

namespace Updater

/-- The trusted keys are named by their rotations. -/
structure Sound (S : Signing) (update directory : Roots) (u : Updater X) : Prop where
  update : Stands S update u.updateKey
  directory : Stands S directory u.directoryKey

/-- No trusted sequence and no list version is lower than before. -/
structure NoOlder (u v : Updater X) : Prop where
  update : seqOf u.updateKey ≤ seqOf v.updateKey
  directory : seqOf u.directoryKey ≤ seqOf v.directoryKey
  version : u.directoryVersion ≤ v.directoryVersion

theorem NoOlder.refl (u : Updater X) : u.NoOlder u := ⟨Nat.le_refl _, Nat.le_refl _, Nat.le_refl _⟩

theorem NoOlder.trans {u v w : Updater X} (first : u.NoOlder v) (second : v.NoOlder w) : u.NoOlder w :=
  ⟨Nat.le_trans first.update second.update, Nat.le_trans first.directory second.directory,
    Nat.le_trans first.version second.version⟩

/-- A list that is offered leaves the trusted keys sound and no older. -/
theorem adoptDirectory_sound {update directory : Roots} {u : Updater X}
    (sound : u.Sound S update directory) (wire : String) (now : Nat) :
    (u.adoptDirectory S wire directory now).2.Sound S update directory
      ∧ u.NoOlder (u.adoptDirectory S wire directory now).2 := by
  unfold adoptDirectory
  split
  · exact ⟨sound, .refl u⟩
  · rename_i signed _
    simp only []
    split
    · exact ⟨sound, .refl u⟩
    · rename_i dir _
      -- The list verified: first the key it moved to is kept, then the list, if it is newer.
      have kept : (u.rememberDirectoryKey (currentKey S directory u.directoryKey signed.rotation).2).Sound
            S update directory
          ∧ u.NoOlder
            (u.rememberDirectoryKey (currentKey S directory u.directoryKey signed.rotation).2) := by
        cases moved : (currentKey S directory u.directoryKey signed.rotation).2 with
        | none => exact ⟨sound, .refl u⟩
        | some trust =>
          obtain ⟨stands, newer⟩ := currentKey_moved moved
          exact ⟨⟨sound.update, stands⟩,
            ⟨Nat.le_refl _, Nat.le_of_lt (newer sound.directory), Nat.le_refl _⟩⟩
      split
      · exact kept
      · rename_i newer
        exact ⟨⟨kept.1.update, kept.1.directory⟩,
          ⟨kept.2.update, kept.2.directory, Nat.le_trans kept.2.version (Nat.le_of_not_le newer)⟩⟩

theorem adoptFirst_sound {update directory : Roots} (now : Nat) (lists : List String) :
    ∀ {u : Updater X}, u.Sound S update directory →
      (u.adoptFirst S directory now lists).Sound S update directory
        ∧ u.NoOlder (u.adoptFirst S directory now lists) := by
  induction lists with
  | nil => exact fun sound => ⟨sound, .refl _⟩
  | cons wire rest ih =>
    intro u sound
    have adopted := adoptDirectory_sound sound wire now
    unfold adoptFirst
    split
    · rename_i taken
      rw [taken] at adopted
      exact adopted
    · rename_i taken
      rw [taken] at adopted
      have later := ih adopted.1
      exact ⟨later.1, adopted.2.trans later.2⟩

theorem finishDirectoryFetch_sound {update directory : Roots} {u : Updater X}
    (sound : u.Sound S update directory) (result : DirectoryFetchResult) (now : Nat) :
    (u.finishDirectoryFetch S result now directory).Sound S update directory
      ∧ u.NoOlder (u.finishDirectoryFetch S result now directory) := by
  have relays : ∀ v : Updater X, v.Sound S update directory → u.NoOlder v →
      ({ v.adoptFirst S directory now result.relayLists with
          directoryNextCheck := now + RETRY_INTERVAL_SECS
          dirty := true } : Updater X).Sound S update directory
        ∧ u.NoOlder { v.adoptFirst S directory now result.relayLists with
            directoryNextCheck := now + RETRY_INTERVAL_SECS
            dirty := true } := by
    intro v soundV older
    have asked := adoptFirst_sound now result.relayLists soundV
    have all := older.trans asked.2
    exact ⟨⟨asked.1.update, asked.1.directory⟩, ⟨all.update, all.directory, all.version⟩⟩
  unfold finishDirectoryFetch
  cases site : result.site with
  | none => exact relays u sound (.refl u)
  | some answer =>
    cases answer with
    | none => exact relays u sound (.refl u)
    | some wire =>
      have adopted := adoptDirectory_sound sound wire now
      simp only []
      generalize u.adoptDirectory S wire directory now = offered at *
      obtain ⟨outcome, v⟩ := offered
      cases outcome with
      | invalid => exact relays v adopted.1 adopted.2
      | current =>
        exact ⟨⟨adopted.1.update, adopted.1.directory⟩,
          ⟨adopted.2.update, adopted.2.directory, adopted.2.version⟩⟩
      | applied changed =>
        exact ⟨⟨adopted.1.update, adopted.1.directory⟩,
          ⟨adopted.2.update, adopted.2.directory, adopted.2.version⟩⟩

end Updater

namespace Updating

/-- An update call stores its key while the key it learned is still the stored one. -/
def Alone (w : Updating X) : TrustEvent → Prop
  | .finish call _ _ => ∀ learned, w.calls[call]? = some learned → learned = w.device.updateKey
  | _ => True

/-- One event, with no update call overtaken. -/
def Next (S : Signing) (H : Hashes) (update directory : Roots) (w : Updating X) (event : TrustEvent)
    (w' : Updating X) : Prop :=
  w.Alone event ∧ w' = w.step S H update directory event

variable {H : Hashes} {update directory : Roots}

/-- A call that is not on the way stores nothing. -/
theorem step_finish_absent {w : Updating X} {call : Nat} (absent : w.calls[call]? = none)
    (body : Option Bytes) (now : Nat) :
    (w.step S H update directory (.finish call body now)).device = w.device := by
  simp only [step, absent]

/-- A call whose answer does not verify stores nothing. -/
theorem step_finish_failed {w : Updating X} {call : Nat} {learned : Option Trust}
    (learnt : w.calls[call]? = some learned) {body : Option Bytes} {now : Nat}
    (failed : served S update body learned now = none) :
    (w.step S H update directory (.finish call body now)).device = w.device := by
  simp only [step, learnt, failed]

/-- A call whose answer verifies stores the key it moved to. -/
theorem step_finish_served {w : Updating X} {call : Nat} {learned moved : Option Trust}
    (learnt : w.calls[call]? = some learned) {body : Option Bytes} {now : Nat}
    {manifest : UpdateManifest}
    (answer : served S update body learned now = some (manifest, moved)) :
    (w.step S H update directory (.finish call body now)).device
      = w.device.rememberUpdateKey moved := by
  simp only [step, learnt, answer]

/-- One event keeps the trusted keys sound and no older. -/
theorem step_sound {w w' : Updating X} {event : TrustEvent} (sound : w.device.Sound S update directory)
    (next : Next S H update directory w event w') :
    w'.device.Sound S update directory ∧ w.device.NoOlder w'.device := by
  obtain ⟨alone, rfl⟩ := next
  cases event with
  | learn => exact ⟨sound, .refl _⟩
  | finish call body now =>
    cases learnt : w.calls[call]? with
    | none =>
      rw [step_finish_absent learnt]
      exact ⟨sound, .refl _⟩
    | some learned =>
      have same := alone learned learnt
      cases answer : served S update body learned now with
      | none =>
        rw [step_finish_failed learnt answer]
        exact ⟨sound, .refl _⟩
      | some parsed =>
        obtain ⟨manifest, moved⟩ := parsed
        rw [step_finish_served learnt answer]
        cases moved with
        | none => exact ⟨sound, .refl _⟩
        | some trust =>
          -- The key moved on from the one that is still stored.
          obtain ⟨bytes, _, parsed⟩ := Option.bind_eq_some_iff.mp answer
          obtain ⟨rotation, moved⟩ := parseManifestRooted_moved parsed
          obtain ⟨stands, newer⟩ := currentKey_moved moved
          rw [same] at newer
          exact ⟨⟨stands, sound.directory⟩,
            ⟨Nat.le_of_lt (newer sound.update), Nat.le_refl _, Nat.le_refl _⟩⟩
  | adopt wire now => exact Updater.adoptDirectory_sound sound wire now
  | fetched result now => exact Updater.finishDirectoryFetch_sound sound result now
  | restart platform fresh now =>
    exact ⟨⟨sound.update, sound.directory⟩, ⟨Nat.le_refl _, Nat.le_refl _, Nat.le_refl _⟩⟩

/-- A run keeps the trusted keys sound and no older. -/
theorem run_sound {w w' : Updating X} (sound : w.device.Sound S update directory)
    (run : Reach w (Next S H update directory) w') :
    w'.device.Sound S update directory ∧ w.device.NoOlder w'.device :=
  Reach.invariant (P := fun v => v.device.Sound S update directory ∧ w.device.NoOlder v.device)
    ⟨sound, .refl _⟩
    (fun _ _ _ _ before next => by
      have after := step_sound before.1 next
      exact ⟨after.1, before.2.trans after.2⟩) run

/-- A call that starts with no other on the way is not overtaken. -/
theorem checked (w : Updating X) (idle : w.calls = []) (body : Option Bytes) (now : Nat) :
    Reach w (Next S H update directory)
      ((w.step S H update directory .learn).step S H update directory (.finish 0 body now)) := by
  refine .step (.finish 0 body now) (.step .learn .start ⟨trivial, rfl⟩) ⟨?_, rfl⟩
  intro learned found
  simp only [step, idle, List.nil_append] at found
  exact (Option.some.inj found).symm

/--
In every run in which each update call stores its key while the one it learned is still stored, no
trusted sequence and no list version ever falls; every key verified with is the release's own or one
the recovery key named for that purpose; and a failed check leaves what is trusted as it was.
-/
theorem trust_never_rolls_back {w s t : Updating X} (sound : w.device.Sound S update directory)
    (run : Reach w (Next S H update directory) s) (later : Reach s (Next S H update directory) t)
    {signed : Roots → Purpose → Nat → String → Prop}
    (unforgeable : ∀ roots ∈ [update, directory], ∀ message sig,
      S.verifyStrict roots.recovery message sig = true →
        ∃ purpose seq key, signed roots purpose seq key ∧ message = rotationMessage purpose seq key) :
    s.device.NoOlder t.device
    ∧ (∀ roots ∈ [update, directory], ∀ learned rotation,
        (currentKey S roots learned rotation).1 = roots.signing
          ∨ ∃ seq key, signed roots roots.purpose seq key
            ∧ decodeKey key = some (currentKey S roots learned rotation).1)
    ∧ (∀ call body now, (∀ learned, t.calls[call]? = some learned →
          served S update body learned now = none) →
        (t.step S H update directory (.finish call body now)).device = t.device)
    ∧ (∀ wire now, (t.device.adoptDirectory S wire directory now).1 = .invalid →
        (t.device.adoptDirectory S wire directory now).2 = t.device) := by
  refine ⟨(run_sound (run_sound sound run).1 later).2, ?_, ?_, ?_⟩
  · intro roots among learned rotation
    have named : (currentKey S roots learned rotation).1 = roots.signing
        ∨ ∃ r, verifyRotation S roots r = true
          ∧ decodeKey r.key = some (currentKey S roots learned rotation).1 :=
      currentKey_named learned rotation
    rcases named with baked | ⟨r, verified, decoded⟩
    · exact Or.inl baked
    · right
      unfold verifyRotation at verified
      obtain ⟨_, verified⟩ := Bool.and_eq_true_iff.mp verified
      split at verified
      · cases verified
      · obtain ⟨purpose, seq, key, named, same⟩ := unforgeable roots among _ _ verified
        -- What was signed names its purpose, so it was signed for this one.
        obtain ⟨rfl, rfl, rfl⟩ := rotationMessage_inj same
        refine ⟨r.seq, trimText r.key, named, ?_⟩
        rw [← decoded]
        show decodeSized 32 (trimText (trimText r.key)) = decodeSized 32 (trimText r.key)
        rw [trimText_trimText]
  · intro call body now fails
    cases learnt : t.calls[call]? with
    | none => exact step_finish_absent learnt body now
    | some learned => exact step_finish_failed learnt (fails learned learnt)
  · intro wire now refused
    unfold Updater.adoptDirectory at refused ⊢
    split
    · rfl
    · rename_i signed read
      rw [read] at refused
      simp only [] at refused ⊢
      split
      · rfl
      · rename_i dir verified
        rw [verified] at refused
        simp only [] at refused
        split at refused <;> cases refused

end Updating

namespace Symbolic

/-- A key of one byte all through, in base64. -/
def keyText (b : UInt8) : String := Base64.encode (List.replicate 32 b)

def sigText : String := Base64.encode (List.replicate 64 7)

def updateRoots : Roots := ⟨.update, List.replicate 32 1, List.replicate 32 2⟩

def directoryRoots : Roots := ⟨.directory, List.replicate 32 3, List.replicate 32 4⟩

/-- Everything that was ever signed: two rotations, and a manifest by each of the two keys. -/
def ledger : List (Bytes × Bytes) :=
  [(List.replicate 32 2, rotationMessage .update 1 (keyText 11)),
    (List.replicate 32 2, rotationMessage .update 2 (keyText 12)),
    (List.replicate 32 11, UPDATE_SIGN_CONTEXT ++ [1]),
    (List.replicate 32 12, UPDATE_SIGN_CONTEXT ++ [2])]

/-- Signatures that verify for what was signed and for nothing else. -/
def signing : Signing where
  validKey _ := true
  verifyStrict key message sig := decide ((key, message) ∈ ledger ∧ sig = List.replicate 64 7)
  verify key message sig := decide ((key, message) ∈ ledger ∧ sig = List.replicate 64 7)
  readEnvelope body := body.head?.map fun b =>
    { signed := some { payload := Base64.encode [b], sig := sigText }
      rotation := some { seq := b.toNat, key := keyText (10 + b), sig := sigText } }
  readManifest _ := some { latest := "0.2.0", expires := 1000 }
  readSigned _ := none
  readDirectory _ := none

/-- A device that trusts the keys of its release. -/
def released : Updating symbolic where
  device := { toPoller := { toNode := device } }

/-- Some events on that device. -/
def afterEvents (events : List TrustEvent) : Updating symbolic :=
  events.foldl (Updating.step signing hashes updateRoots directoryRoots) released

end Symbolic

/-- Two checks learn one key; the one served the newer rotation stores first, and the other one
brings the stored sequence back from two to one. -/
theorem overlapping_checks_roll_back :
    seqOf (Symbolic.afterEvents [.learn, .learn, .finish 1 (some [2]) 0]).device.updateKey = 2
    ∧ seqOf (Symbolic.afterEvents
        [.learn, .learn, .finish 1 (some [2]) 0, .finish 0 (some [1]) 0]).device.updateKey = 1 := by
  decide +kernel

/-- One check after another moves the key on and never back. -/
theorem trust_follows_rotations :
    seqOf (Symbolic.afterEvents [.learn, .finish 0 (some [1]) 0]).device.updateKey = 1
    ∧ (Symbolic.afterEvents [.learn, .finish 0 (some [1]) 0]).device.NoOlder
      (Symbolic.afterEvents
        [.learn, .finish 0 (some [1]) 0, .learn, .finish 0 (some [2]) 0]).device := by
  have trusted : Symbolic.released.device.Sound Symbolic.signing Symbolic.updateRoots
      Symbolic.directoryRoots := by
    constructor <;> rintro trust ⟨⟩
  let step : Updating symbolic → TrustEvent → Updating symbolic :=
    Updating.step Symbolic.signing Symbolic.hashes Symbolic.updateRoots Symbolic.directoryRoots
  let next : Updating symbolic → TrustEvent → Updating symbolic → Prop :=
    Updating.Next Symbolic.signing Symbolic.hashes Symbolic.updateRoots Symbolic.directoryRoots
  have first : Reach Symbolic.released next
      (step (step Symbolic.released .learn) (.finish 0 (some [1]) 0)) :=
    Updating.checked Symbolic.released rfl (some [1]) 0
  have idle : ((Symbolic.released.step Symbolic.signing Symbolic.hashes Symbolic.updateRoots
      Symbolic.directoryRoots .learn).step Symbolic.signing Symbolic.hashes Symbolic.updateRoots
      Symbolic.directoryRoots (.finish 0 (some [1]) 0)).calls = [] := by
    decide +kernel
  have second : Reach (step (step Symbolic.released .learn) (.finish 0 (some [1]) 0)) next
      (step (step (step (step Symbolic.released .learn) (.finish 0 (some [1]) 0)) .learn)
        (.finish 0 (some [2]) 0)) :=
    Updating.checked _ idle (some [2]) 0
  refine ⟨by decide +kernel, ?_⟩
  simp only [Symbolic.afterEvents, List.foldl_cons, List.foldl_nil]
  have unforgeable : ∀ roots ∈ [Symbolic.updateRoots, Symbolic.directoryRoots], ∀ message sig,
    Symbolic.signing.verifyStrict roots.recovery message sig = true → ∃ purpose seq key,
      (roots.recovery, rotationMessage purpose seq key) ∈ Symbolic.ledger
        ∧ message = rotationMessage purpose seq key := by
    intro roots among message sig verified
    obtain ⟨stands, _⟩ := of_decide_eq_true verified
    have recovery : roots.recovery = List.replicate 32 2 ∨ roots.recovery = List.replicate 32 4 := by
      rcases List.mem_cons.mp among with rfl | last
      · exact Or.inl rfl
      · rw [List.mem_singleton.mp last]
        exact Or.inr rfl
    simp only [Symbolic.ledger, List.mem_cons, Prod.mk.injEq, List.not_mem_nil, or_false] at stands
    rcases stands with ⟨same, rfl⟩ | ⟨same, rfl⟩ | ⟨same, _⟩ | ⟨same, _⟩
    · exact ⟨.update, 1, Symbolic.keyText 11, by rw [same]; exact List.mem_cons_self .., rfl⟩
    · exact ⟨.update, 2, Symbolic.keyText 12,
        by rw [same]; exact List.mem_cons_of_mem _ (List.mem_cons_self ..), rfl⟩
    · rcases recovery with which | which <;> rw [same] at which <;> exact absurd which (by decide)
    · rcases recovery with which | which <;> rw [same] at which <;> exact absurd which (by decide)
  exact (Updating.trust_never_rolls_back trusted first second unforgeable).1

end Nightdrop
