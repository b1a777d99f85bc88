import Nightdrop.Wire.Framing

/-! A frame shorter than 4 GiB is decoded as it was encoded, in the smallest bucket, and no older one is. -/

namespace Nightdrop
namespace Wire

variable {F : Type} {serde : Serde F}

/-- The padded length is the smallest bucket that fits. -/
theorem paddedLen_least (raw : Nat) : LeastBucket raw (paddedLen raw) := by
  unfold paddedLen
  cases found : PAD_BUCKETS.find? (raw ≤ ·) with
  | some bucket =>
    have fits : raw ≤ bucket := by simpa using List.find?_some found
    refine ⟨.inl (List.mem_of_find?_eq_some found), fits, fun m isBucket big => ?_⟩
    rcases isBucket with small | ⟨blocks, positive, rfl⟩
    · simp only [PAD_BUCKETS, List.mem_cons, List.not_mem_nil, or_false] at small
      simp only [PAD_BUCKETS, List.find?_cons, List.find?_nil] at found
      rcases small with rfl | rfl | rfl <;> grind
    · have block : PAD_BLOCK ≤ blocks * PAD_BLOCK := Nat.le_mul_of_pos_left _ positive
      have among := List.mem_of_find?_eq_some found
      have top : bucket ≤ PAD_BLOCK := by
        simp only [PAD_BUCKETS, List.mem_cons, List.not_mem_nil, or_false] at among
        unfold PAD_BLOCK
        omega
      exact top.trans block
  | none =>
    have large : 16384 < raw := by
      have no := List.find?_eq_none.mp found 16384 (by decide)
      simpa using no
    unfold PAD_BLOCK at *
    refine ⟨.inr ⟨(raw + 16 * 1024 - 1) / (16 * 1024), by omega, rfl⟩, by simp only []; omega, fun m isBucket big => ?_⟩
    rcases isBucket with small | ⟨blocks, positive, rfl⟩
    · simp only [PAD_BUCKETS, List.mem_cons, List.not_mem_nil, or_false] at small
      omega
    · apply Nat.mul_le_mul_right
      unfold PAD_BLOCK at big
      omega

/-- An encoded frame is as long as its bucket. -/
theorem length_encodeAt (serde : Serde F) (frame : F) (v : Nat) :
    (encodeAt serde frame v).length = paddedLen (4 + (serde.toVec v frame).length) := by
  have fits := (paddedLen_least (4 + (serde.toVec v frame).length)).fits
  simp only [encodeAt, List.length_append, List.length_replicate, be32, List.length_cons, List.length_nil]
  omega

/-- Four bytes say the length they are of, but for what is beyond them. -/
theorem ofBe32_be32 (n : Nat) :
    ofBe32 (UInt8.ofNat (n / 2 ^ 24)) (UInt8.ofNat (n / 2 ^ 16)) (UInt8.ofNat (n / 2 ^ 8)) (UInt8.ofNat n)
      = n % 2 ^ 32 := by
  simp only [ofBe32, UInt8.toNat_ofNat']
  omega

/-- What an encoded frame declares is the begin of its envelope. -/
theorem declared_encodeAt (serde : Serde F) (frame : F) (v : Nat) :
    declared (encodeAt serde frame v) = .ok ((serde.toVec v frame).take ((serde.toVec v frame).length % 2 ^ 32)) := by
  unfold encodeAt
  generalize serde.toVec v frame = json
  have small : json.length % 2 ^ 32 ≤ json.length := Nat.mod_le _ _
  simp only [be32, List.cons_append, List.nil_append, declared, ofBe32_be32]
  rw [if_pos (by rw [List.length_append]; omega), List.take_append_of_le_length small]

/-- An envelope of less than 4 GiB is declared whole; of a longer one, less than it is. -/
theorem declared_cases (serde : Serde F) (frame : F) (v : Nat) :
    ((serde.toVec v frame).length < 2 ^ 32 ∧ declared (encodeAt serde frame v) = .ok (serde.toVec v frame))
      ∨ (2 ^ 32 ≤ (serde.toVec v frame).length ∧ ∃ n < (serde.toVec v frame).length,
        declared (encodeAt serde frame v) = .ok ((serde.toVec v frame).take n)) := by
  have read := declared_encodeAt serde frame v
  by_cases small : (serde.toVec v frame).length < 2 ^ 32
  · rw [Nat.mod_eq_of_lt small, List.take_length] at read
    exact .inl ⟨small, read⟩
  · have cut : (serde.toVec v frame).length % 2 ^ 32 < 2 ^ 32 := Nat.mod_lt _ (by decide)
    exact .inr ⟨by omega, _, by omega, read⟩

/-- What is declared decides what is decoded. -/
theorem decode_of_envelope {bytes body : Bytes} (read : declared bytes = .ok body) {v : Nat} {frame : F}
    (env : serde.envelope body = some (v, frame)) :
    decode serde bytes = if v ≠ WIRE_VERSION then .error (.unsupported v) else .ok frame := by
  simp only [decode, read, env]

/-- Without an envelope nothing is decoded. -/
theorem decode_of_none {bytes body : Bytes} (read : declared bytes = .ok body)
    (env : serde.envelope body = none) : decode serde bytes = .error .unreadable := by
  simp only [decode, read, env]

/-- A frame is decoded as it was encoded exactly if its envelope is shorter than 4 GiB. -/
theorem decode_encode_iff (documented : serde.Documented) (frame : F) :
    decode serde (encode serde frame) = .ok frame ↔ (serde.toVec WIRE_VERSION frame).length < 2 ^ 32 := by
  have cases' := declared_cases serde frame WIRE_VERSION
  change _ ∧ declared (encode serde frame) = _ ∨ _ ∧ ∃ n < _, declared (encode serde frame) = _ at cases'
  generalize 2 ^ 32 = limit at cases' ⊢
  generalize encode serde frame = bytes at cases' ⊢
  rcases cases' with ⟨small, read⟩ | ⟨large, n, cut, read⟩
  · rw [decode_of_envelope read (documented.round_trip WIRE_VERSION frame (.inl rfl))]
    simp [small]
  · rw [decode_of_none read (documented.whole WIRE_VERSION frame n cut)]
    constructor
    · intro wrong
      cases wrong
    · intro small
      exact absurd small (Nat.not_lt.mpr large)

/-- No frame of the older version is decoded. -/
theorem decode_encodeLegacy (documented : serde.Documented) (frame other : F) :
    decode serde (encodeLegacy serde frame) ≠ .ok other := by
  have cases' := declared_cases serde frame LEGACY_WIRE_VERSION
  change _ ∧ declared (encodeLegacy serde frame) = _ ∨ _ ∧ ∃ n < _, declared (encodeLegacy serde frame) = _ at cases'
  generalize encodeLegacy serde frame = bytes at cases' ⊢
  rcases cases' with ⟨-, read⟩ | ⟨-, n, cut, read⟩
  · rw [decode_of_envelope read (documented.round_trip LEGACY_WIRE_VERSION frame (.inr rfl)), if_pos (by decide)]
    intro wrong
    cases wrong
  · rw [decode_of_none read (documented.whole LEGACY_WIRE_VERSION frame n cut)]
    intro wrong
    cases wrong

/-- No bytes are both a frame of this version and one of an older one. -/
theorem decode_or_legacy (documented : serde.Documented) {bytes : Bytes} {frame : F} {sender : String}
    (read : decode serde bytes = .ok frame) : legacySender serde bytes ≠ some sender := by
  intro older
  unfold decode at read
  unfold legacySender at older
  cases body : declared bytes with
  | error e =>
    rw [body] at read
    cases read
  | ok body' =>
    simp only [body] at read older
    cases env : serde.envelope body' with
    | none =>
      rw [env] at read
      cases read
    | some both =>
      obtain ⟨v, f⟩ := both
      simp only [env] at read
      by_cases current : v = WIRE_VERSION
      · cases value : serde.value body' with
        | none => simp [value] at older
        | some json =>
          -- The same bytes have the same version, which is not an older one.
          have version := documented.version body' v f json env value
          obtain ⟨field, found, number⟩ := Option.bind_eq_some_iff.mp version
          simp [value, found, number, current] at older
      · rw [if_pos current] at read
        cases read

/-- What stands behind the declared length changes neither reading. -/
theorem reads_declared (a b c d : UInt8) {body : Bytes} (size : body.length = ofBe32 a b c d) (behind : Bytes) :
    declared (a :: b :: c :: d :: (body ++ behind)) = .ok body := by
  rw [declared, if_pos (by rw [List.length_append]; omega), ← size, List.take_left]

/-- The same declared bytes are read in the same way. -/
theorem decode_congr {bytes other : Bytes} (same : declared bytes = declared other) :
    decode serde bytes = decode serde other ∧ legacySender serde bytes = legacySender serde other := by
  rw [decode, decode, legacySender, legacySender, same]
  exact ⟨rfl, rfl⟩

/-- How an approval's envelope of a version begins. -/
def approvedFront (v : Nat) : Bytes :=
  if v = WIRE_VERSION then utf8 "\x7b\"v\":3,\"f\":\x7b\"t\":\"approved\",\"from\":\"x\",\"code\":\""
  else utf8 "\x7b\"v\":2,\"f\":\x7b\"t\":\"approved\",\"from\":\"x\",\"code\":\""

/-- How an approval's envelope ends. -/
def approvedBack : Bytes := utf8 "\"\x7d\x7d"

/-- The envelope of an approval whose code is so many letters `y`. -/
def approvedBytes (v letters : Nat) : Bytes := approvedFront v ++ (List.replicate letters 0x79 ++ approvedBack)

/-- How many letters the code of an approval of so many bytes has. -/
def approvedLetters (length : Nat) : Nat := length - (approvedFront WIRE_VERSION).length - approvedBack.length

/-- The serializer, as it writes and reads approvals with such codes. -/
def approvedSerde : Serde Nat where
  toVec := approvedBytes
  envelope body :=
    if body = approvedBytes WIRE_VERSION (approvedLetters body.length) then some (WIRE_VERSION, approvedLetters body.length)
    else if body = approvedBytes LEGACY_WIRE_VERSION (approvedLetters body.length)
      then some (LEGACY_WIRE_VERSION, approvedLetters body.length)
    else none
  value body :=
    let frame := Json.object [("t", .string "approved"), ("from", .string "x"),
      ("code", .string (String.ofList (List.replicate (approvedLetters body.length) 'y')))]
    if body = approvedBytes WIRE_VERSION (approvedLetters body.length)
    then some (.object [("v", .number WIRE_VERSION), ("f", frame)])
    else if body = approvedBytes LEGACY_WIRE_VERSION (approvedLetters body.length)
    then some (.object [("v", .number LEGACY_WIRE_VERSION), ("f", frame)])
    else none

/-- Both versions' envelopes begin with as many bytes. -/
theorem length_approvedFront (v : Nat) : (approvedFront v).length = (approvedFront WIRE_VERSION).length := by
  have same : (approvedFront LEGACY_WIRE_VERSION).length = (approvedFront WIRE_VERSION).length := by decide +kernel
  by_cases current : v = WIRE_VERSION
  · rw [current]
  · rw [← same]
    unfold approvedFront
    rw [if_neg current, if_neg (by decide)]

/-- The length of an envelope tells how many letters are in it. -/
theorem approvedLetters_length (v letters : Nat) : approvedLetters (approvedBytes v letters).length = letters := by
  simp only [approvedLetters, approvedBytes, List.length_append, List.length_replicate, length_approvedFront v]
  omega

/-- Two versions' envelopes differ. -/
theorem approvedBytes_apart (letters other : Nat) :
    approvedBytes LEGACY_WIRE_VERSION letters ≠ approvedBytes WIRE_VERSION other := by
  intro same
  have fronts := (List.append_inj same (length_approvedFront LEGACY_WIRE_VERSION)).1
  revert fronts
  decide +kernel

/-- An envelope cut short is no envelope. -/
theorem approvedBytes_cut {v w letters n : Nat} (cut : n < (approvedBytes v letters).length) :
    (approvedBytes v letters).take n ≠ approvedBytes w (approvedLetters n) := by
  intro same
  have size := congrArg List.length same
  rw [List.length_take, Nat.min_eq_left (by omega)] at size
  simp only [approvedBytes, List.length_append, List.length_replicate, length_approvedFront v,
    length_approvedFront w] at size cut
  -- Where the shorter one has its closing quote, the longer one still has a letter.
  have quote : approvedBack[0]? = some 0x22 := by decide +kernel
  have back : 0 < approvedBack.length := by decide +kernel
  have letter : ((approvedBytes v letters).take n)[(approvedFront WIRE_VERSION).length + approvedLetters n]? = some 0x79 := by
    rw [List.getElem?_take, if_pos (by omega), approvedBytes,
      List.getElem?_append_right (by rw [length_approvedFront v]; omega), length_approvedFront v,
      Nat.add_sub_cancel_left, List.getElem?_append_left (by rw [List.length_replicate]; omega),
      List.getElem?_replicate, if_pos (by omega)]
  have closing : (approvedBytes w (approvedLetters n))[(approvedFront WIRE_VERSION).length + approvedLetters n]?
      = some 0x22 := by
    rw [approvedBytes, List.getElem?_append_right (by rw [length_approvedFront w]; omega), length_approvedFront w,
      Nat.add_sub_cancel_left, List.getElem?_append_right (by rw [List.length_replicate]), List.length_replicate,
      Nat.sub_self, quote]
  rw [same, closing] at letter
  revert letter
  decide

/-- What is promised of the serializer is kept for such approvals. -/
theorem approvedSerde_documented : approvedSerde.Documented where
  round_trip := by
    rintro v letters (rfl | rfl)
    · simp [approvedSerde, approvedLetters_length]
    · simp [approvedSerde, approvedLetters_length, approvedBytes_apart]
  version := by
    intro body v letters json env value
    simp only [approvedSerde] at env value
    split at env
    · rename_i current
      rw [if_pos current] at value
      cases env
      cases value
      rfl
    · rename_i other
      rw [if_neg other] at value
      split at env
      · rename_i older
        rw [if_pos older] at value
        cases env
        cases value
        rfl
      · cases env
  whole := by
    intro v letters n cut
    have size : ((approvedBytes v letters).take n).length = n := by
      rw [List.length_take]
      exact Nat.min_eq_left (Nat.le_of_lt cut)
    simp only [approvedSerde] at cut ⊢
    rw [size, if_neg (approvedBytes_cut cut), if_neg (approvedBytes_cut cut)]

end Wire
end Nightdrop
