import Nightdrop.Node.Envelope
import Nightdrop.Lib.Utf8

/-! Envelopes are unpacked as they were packed, and packed again from what was unpacked. -/

namespace Nightdrop

/-- A mime that is allowed is normal already. -/
theorem sanitize_video : ∀ mime ∈ VIDEO_MIMES, sanitize "video" mime = ("video", mime) := by decide

theorem sanitize_image : ∀ mime ∈ IMAGE_MIMES, sanitize "image" mime = ("image", mime) := by decide

/-- A normal kind and mime are of the fixed lists. -/
theorem sanitize_cases (kind mime : String) : (∃ m ∈ VIDEO_MIMES, sanitize kind mime = ("video", m))
    ∨ ∃ m ∈ IMAGE_MIMES, sanitize kind mime = ("image", m) := by
  unfold sanitize
  by_cases video : kind = "video"
  · refine .inl ?_
    simp only [if_pos video]
    by_cases listed : asciiLower (trimText mime) ∈ VIDEO_MIMES
    · exact ⟨_, listed, by rw [if_pos listed]⟩
    · exact ⟨"video/octet-stream", by decide, by rw [if_neg listed]⟩
  · refine .inr ?_
    simp only [if_neg video]
    by_cases listed : asciiLower (trimText mime) ∈ IMAGE_MIMES
    · exact ⟨_, listed, by rw [if_pos listed]⟩
    · exact ⟨"image/jpeg", by decide, by rw [if_neg listed]⟩

/-- What was made normal stays as it is. -/
theorem sanitize_again {kind mime kind' mime' : String} (normal : sanitize kind mime = (kind', mime')) :
    sanitize kind' mime' = (kind', mime') := by
  rcases sanitize_cases kind mime with ⟨m, listed, same⟩ | ⟨m, listed, same⟩
  · obtain ⟨kind, mime⟩ := Prod.mk.inj (same.symm.trans normal)
    rw [← kind, ← mime]
    exact sanitize_video m listed
  · obtain ⟨kind, mime⟩ := Prod.mk.inj (same.symm.trans normal)
    rw [← kind, ← mime]
    exact sanitize_image m listed

/-- The kinds and mimes that are normal are short. -/
theorem sanitize_short {kind mime : String} (normal : sanitize kind mime = (kind, mime)) :
    kind.utf8ByteSize < 2 ^ 32 ∧ mime.utf8ByteSize < 2 ^ 32 := by
  have videos : ∀ m ∈ VIDEO_MIMES, m.utf8ByteSize < 2 ^ 32 := by decide
  have images : ∀ m ∈ IMAGE_MIMES, m.utf8ByteSize < 2 ^ 32 := by decide
  have video : "video".utf8ByteSize < 2 ^ 32 := by decide
  have image : "image".utf8ByteSize < 2 ^ 32 := by decide
  rcases sanitize_cases kind mime with ⟨m, listed, same⟩ | ⟨m, listed, same⟩
  · obtain ⟨kind', mime'⟩ := Prod.mk.inj (normal.symm.trans same)
    rw [kind', mime']
    exact ⟨video, videos m listed⟩
  · obtain ⟨kind', mime'⟩ := Prod.mk.inj (normal.symm.trans same)
    rw [kind', mime']
    exact ⟨image, images m listed⟩

/-- An id that is kept is short. -/
theorem saneId_short {id : String} (sane : saneId id = true) : id.utf8ByteSize < 2 ^ 32 := by
  have short : id.utf8ByteSize ≤ MAX_ID_BYTES := by
    unfold saneId at sane
    rw [Bool.and_eq_true, decide_eq_true_eq] at sane
    exact sane.1.2
  have limit : MAX_ID_BYTES < 2 ^ 32 := by decide
  exact Nat.lt_of_le_of_lt short limit

/-- A field that is a text's bytes is read as the text. -/
theorem takeText_eq {text : String} {buf rest : Bytes} (taken : takeField buf = some (utf8 text, rest)) :
    takeText buf = .ok (text, rest) := by
  unfold takeText
  rw [taken]
  simp only [fromUtf8_utf8]

/-- A text field is read as it was written. -/
theorem takeText_putField {text : String} (short : text.utf8ByteSize < 2 ^ 32) (rest : Bytes) :
    takeText (putField (utf8 text) ++ rest) = .ok (text, rest) := by
  apply takeText_eq
  apply takeField_putField
  rw [length_utf8]
  exact short

/-- A text that is read is a field's. -/
theorem takeText_eq_ok {buf rest : Bytes} {text : String} (taken : takeText buf = .ok (text, rest)) :
    ∃ field, takeField buf = some (field, rest) ∧ fromUtf8 field = some text := by
  unfold takeText at taken
  split at taken
  · cases taken
  · rename_i field more found
    split at taken
    · cases taken
    · rename_i read
      obtain ⟨rfl, rfl⟩ := Prod.mk.inj (Except.ok.inj taken)
      exact ⟨field, found, read⟩

/-- A text that was read lies within the bytes. -/
theorem takeText_length {buf rest : Bytes} {text : String} (taken : takeText buf = .ok (text, rest)) :
    text.utf8ByteSize + rest.length + 4 = buf.length := by
  obtain ⟨field, found, read⟩ := takeText_eq_ok taken
  have lengths := (takeField_length found).1
  have said : (utf8 text).length = field.length := by rw [utf8_of_fromUtf8 read]
  have bytes := length_utf8 text
  omega

/-- A timer that cannot be read is 0, so every timer that was read fits. -/
theorem parseDecimal_le {max n : Nat} {text : String} (read : parseDecimal max text = some n) : n ≤ max := by
  unfold parseDecimal at read
  simp only at read
  generalize (if text.toList.head? = some '+' then text.toList.tail else text.toList) = digits at read
  split at read
  · rename_i fits
    rw [← Option.some.inj read]
    exact fits.2.2
  · cases read

theorem timer_fits (text : String) : (parseDecimal U64_MAX text).getD 0 ≤ U64_MAX := by
  cases read : parseDecimal U64_MAX text with
  | none => exact Nat.zero_le _
  | some n => exact parseDecimal_le read

/-- The digits of a timer make a short field. -/
theorem decimal_short {secs : Nat} (fits : secs ≤ U64_MAX) : (secs.repr).utf8ByteSize < 2 ^ 32 := by
  have few : (Nat.toDigits 10 secs).length ≤ 20 := by
    rw [Nat.length_toDigits_le_iff (by decide) (by decide)]
    unfold U64_MAX at fits
    omega
  have length := length_decimal secs
  unfold decimal at length
  rw [length_utf8] at length
  omega

/-- What is cut off is only what does not fit: less than a character's four bytes stay free. -/
theorem takeBytes_full (room : Nat) (chars : List Char) (long : room < String.utf8Len chars) :
    room < String.utf8Len (takeBytes room chars) + 4 := by
  induction chars generalizing room with
  | nil => simp at long
  | cons c rest ih =>
    rw [String.utf8Len_cons] at long
    unfold takeBytes
    have wide := Char.utf8Size_le_four c
    split
    · rename_i fits
      have behind := ih (room - c.utf8Size) (by omega)
      rw [String.utf8Len_cons]
      omega
    · rw [String.utf8Len_nil]
      omega

/-- A text that fits once it was cut was not cut, since the mark makes a cut one too long. -/
theorem clampText_fits {text : String} (fits : (clampText text).utf8ByteSize ≤ MAX_TEXT_BYTES) : clampText text = text := by
  unfold clampText at fits ⊢
  split
  · rfl
  · rename_i long
    exfalso
    rw [if_neg long] at fits
    have mark : " […]".utf8ByteSize = 6 := by decide
    rw [String.utf8ByteSize_append, mark, String.utf8ByteSize_ofList] at fits
    have whole : text.utf8ByteSize = String.utf8Len text.toList := by
      rw [← String.utf8ByteSize_ofList, String.ofList_toList]
    rw [whole] at long
    have full := takeBytes_full MAX_TEXT_BYTES text.toList (Nat.lt_of_not_le long)
    omega

/-- One-byte characters are all taken while there is room. -/
theorem takeBytes_replicate (k room : Nat) (rest : List Char) :
    takeBytes (k + room) (List.replicate k 'a' ++ rest) = List.replicate k 'a' ++ takeBytes room rest := by
  induction k with
  | zero => simp
  | succ k ih =>
    have one : 'a'.utf8Size = 1 := by decide
    rw [List.replicate_succ, List.cons_append]
    rw [takeBytes, one, if_pos (by omega), show k + 1 + room - 1 = k + room by omega, ih]
    rfl

/-- A text whose limit falls behind its run of one-byte characters is cut there. -/
theorem clampText_run {k : Nat} (limit : k + 1 = MAX_TEXT_BYTES) {rest : List Char} (more : 2 ≤ String.utf8Len rest) :
    clampText (String.ofList (List.replicate k 'a' ++ rest))
      = String.ofList (List.replicate k 'a' ++ takeBytes 1 rest) ++ " […]" := by
  have run : String.utf8Len (List.replicate k 'a') = k := by
    clear limit
    induction k with
    | zero => rfl
    | succ k ih =>
      have one : 'a'.utf8Size = 1 := by decide
      rw [List.replicate_succ, String.utf8Len_cons, ih, one]
  unfold clampText
  rw [if_neg, ← limit, String.toList_ofList, takeBytes_replicate]
  rw [String.utf8ByteSize_ofList, String.utf8Len_append, run]
  omega

/-- A burn text that is too long is unpacked as it is cut. -/
theorem unpackBurn_cut {secs : Nat} {text : String} (timer : secs ≤ U64_MAX) :
    unpackBurn (packBurn secs text) = some (secs, clampText text) := by
  have digits : (decimal secs).length < 2 ^ 32 := by
    have few : (Nat.toDigits 10 secs).length ≤ 20 := by
      rw [Nat.length_toDigits_le_iff (by decide) (by decide)]
      unfold U64_MAX at timer
      omega
    rw [length_decimal]
    omega
  unfold unpackBurn packBurn
  rw [takeField_putField _ digits]
  simp [decimal, parseDecimal_repr timer]

namespace Envelopes

/-- Three text fields, of which the first is a sane id, lead an envelope. -/
theorem unpackHead_eq {buf rest1 rest2 rest3 : Bytes} {transferId kind mime : String}
    (first : takeText buf = .ok (transferId, rest1)) (sane : saneId transferId = true)
    (second : takeText rest1 = .ok (kind, rest2)) (third : takeText rest2 = .ok (mime, rest3)) :
    unpackHead buf = .ok (⟨transferId, (sanitize kind mime).1, (sanitize kind mime).2⟩, rest3) := by
  unfold unpackHead
  simp only [first, second, third, sane, bind, Except.bind, Bool.not_true, Bool.false_eq_true, if_false]
  rfl

/-- The fields that lead an envelope are read as they were written. -/
theorem unpackHead_packHead {head : Head} (within : head.Within) (rest : Bytes) :
    unpackHead (packHead head ++ rest) = .ok (head, rest) := by
  obtain ⟨sane, normal⟩ := within
  obtain ⟨kind, mime⟩ := sanitize_short normal
  have bytes : packHead head ++ rest
      = putField (utf8 head.transferId) ++ (putField (utf8 head.kind) ++ (putField (utf8 head.mime) ++ rest)) := by
    unfold packHead
    rw [List.append_assoc, List.append_assoc]
  have read := unpackHead_eq (takeText_putField (saneId_short sane) _) sane (takeText_putField kind _)
    (takeText_putField mime rest)
  rw [normal] at read
  rw [bytes]
  exact read

/-- What leads an envelope that is read: three text fields, of which the first is a sane id. -/
theorem unpackHead_eq_ok {buf rest : Bytes} {head : Head} (read : unpackHead buf = .ok (head, rest)) :
    ∃ transferId kind mime rest1 rest2, takeText buf = .ok (transferId, rest1) ∧ saneId transferId = true
      ∧ takeText rest1 = .ok (kind, rest2) ∧ takeText rest2 = .ok (mime, rest)
      ∧ head = ⟨transferId, (sanitize kind mime).1, (sanitize kind mime).2⟩ := by
  have whole := read
  unfold unpackHead at read
  cases first : takeText buf with
  | error reason =>
    rw [first] at read
    cases read
  | ok found =>
    obtain ⟨transferId, rest1⟩ := found
    rw [first] at read
    simp only [bind, Except.bind] at read
    cases sane : saneId transferId with
    | false =>
      rw [sane] at read
      cases read
    | true =>
      rw [sane] at read
      simp only [Bool.not_true, Bool.false_eq_true, if_false] at read
      cases second : takeText rest1 with
      | error reason =>
        rw [second] at read
        cases read
      | ok found =>
        obtain ⟨kind, rest2⟩ := found
        rw [second] at read
        simp only at read
        cases third : takeText rest2 with
        | error reason =>
          rw [third] at read
          cases read
        | ok found =>
          obtain ⟨mime, rest3⟩ := found
          have fields := unpackHead_eq first sane second third
          obtain ⟨rfl, rfl⟩ := Prod.mk.inj (Except.ok.inj (fields.symm.trans whole))
          exact ⟨transferId, kind, mime, rest1, rest2, rfl, sane, second, third, rfl⟩

/-- Fields that were read are within the limits, and within the bytes. -/
theorem unpackHead_valid {buf rest : Bytes} {head : Head} (read : unpackHead buf = .ok (head, rest)) :
    head.Within ∧ head.transferId.utf8ByteSize + rest.length ≤ buf.length := by
  obtain ⟨transferId, kind, mime, rest1, rest2, first, sane, second, third, rfl⟩ := unpackHead_eq_ok read
  have lengths := takeText_length first
  have lengths' := takeText_length second
  have lengths'' := takeText_length third
  refine ⟨⟨sane, ?_⟩, ?_⟩
  · exact sanitize_again (Prod.ext (by rfl) (by rfl))
  · simp only
    omega

/-- The kind that is stored is the normal one. -/
theorem sanitizeKind_sanitize (kind mime : String) : sanitizeKind (sanitize kind mime).1 = sanitizeKind kind := by
  unfold sanitize sanitizeKind
  by_cases video : kind = "video"
  · simp [video]
  · simp [video]

/-- The handlers read the fields that lead an envelope as they are, and drop the mime. -/
theorem takeMediaHead_of_unpackHead {buf rest : Bytes} {head : Head} (read : unpackHead buf = .ok (head, rest)) :
    takeMediaHead buf = .ok (head.transferId, sanitizeKind head.kind, rest) := by
  obtain ⟨transferId, kind, mime, rest1, rest2, first, sane, second, third, rfl⟩ := unpackHead_eq_ok read
  unfold takeMediaHead
  simp only [first, second, third, sane, bind, Except.bind, Bool.not_true, Bool.false_eq_true, if_false, sanitizeKind_sanitize]
  rfl

theorem media_faithful : media.Faithful (fun v => v.1.Within) fun _ => True := by
  apply Codec.Faithful.of_round
  · rintro ⟨head, data⟩ within
    simp only [media, unpackHead_packHead within]
    rfl
  · rintro buf ⟨head, data⟩ read -
    simp only [media] at read
    cases unpacked : unpackHead buf with
    | error reason =>
      rw [unpacked] at read
      cases read
    | ok found =>
      rw [unpacked] at read
      cases read
      exact (unpackHead_valid unpacked).1
  · rintro buf ⟨head, data⟩ read -
    simp only [media] at read
    cases unpacked : unpackHead buf with
    | error reason =>
      rw [unpacked] at read
      cases read
    | ok found =>
      rw [unpacked] at read
      cases read
      exact (unpackHead_valid unpacked).2

/-- A timer and an attachment's envelope make a burn attachment's. -/
theorem unpackBurnMedia_eq {buf rest data : Bytes} {timer : String} {head : Head} (first : takeText buf = .ok (timer, rest))
    (second : unpackHead rest = .ok (head, data)) :
    unpackBurnMedia buf = .ok ((parseDecimal U64_MAX timer).getD 0, head, data) := by
  unfold unpackBurnMedia
  simp only [first, second, bind, Except.bind]
  rfl

/-- What a burn attachment's envelope holds when it is read. -/
theorem unpackBurnMedia_valid {buf data : Bytes} {secs : Nat} {head : Head}
    (read : unpackBurnMedia buf = .ok (secs, head, data)) :
    (secs ≤ U64_MAX ∧ head.Within) ∧ head.transferId.utf8ByteSize + data.length ≤ buf.length := by
  have whole := read
  unfold unpackBurnMedia at read
  cases first : takeText buf with
  | error reason =>
    rw [first] at read
    cases read
  | ok found =>
    obtain ⟨timer, rest⟩ := found
    rw [first] at read
    simp only [bind, Except.bind] at read
    cases second : unpackHead rest with
    | error reason =>
      rw [second] at read
      cases read
    | ok found =>
      obtain ⟨head', data'⟩ := found
      have parts := unpackBurnMedia_eq first second
      obtain ⟨rfl, same⟩ := Prod.mk.inj (Except.ok.inj (parts.symm.trans whole))
      obtain ⟨rfl, rfl⟩ := Prod.mk.inj same
      have lengths := takeText_length first
      obtain ⟨within, small⟩ := unpackHead_valid second
      exact ⟨⟨timer_fits timer, within⟩, by omega⟩

theorem burnMedia_faithful : burnMedia.Faithful (fun v => v.1 ≤ U64_MAX ∧ v.2.1.Within) fun _ => True := by
  have valid : ∀ buf v, burnMedia.unpack buf = some v →
      (v.1 ≤ U64_MAX ∧ v.2.1.Within) ∧ burnMedia.size v ≤ buf.length := by
    rintro buf ⟨secs, head, data⟩ read
    simp only [burnMedia] at read
    cases unpacked : unpackBurnMedia buf with
    | error reason =>
      rw [unpacked] at read
      cases read
    | ok found =>
      rw [unpacked] at read
      cases read
      exact unpackBurnMedia_valid unpacked
  apply Codec.Faithful.of_round
  · rintro ⟨secs, head, data⟩ ⟨timer, within⟩
    have read := unpackBurnMedia_eq (takeText_putField (decimal_short timer) _) (unpackHead_packHead within data)
    rw [parseDecimal_repr timer, Option.getD_some] at read
    exact congrArg Except.toOption read
  · exact fun buf v read _ => (valid buf v read).1
  · exact fun buf v read _ => (valid buf v read).2

/-- The fields, eight bytes and a preview make a notice's envelope. -/
theorem unpackIncoming_eq {buf rest : Bytes} {head : Head} (first : unpackHead buf = .ok (head, rest))
    (long : ¬ rest.length < 8) : unpackIncoming buf = .ok (head, ofBigEndian (rest.take 8), rest.drop 8) := by
  unfold unpackIncoming
  simp only [first, bind, Except.bind, if_neg long]
  rfl

/-- What a notice's envelope holds when it is read. -/
theorem unpackIncoming_valid {buf thumb : Bytes} {size : Nat} {head : Head}
    (read : unpackIncoming buf = .ok (head, size, thumb)) :
    (head.Within ∧ size < 256 ^ 8) ∧ head.transferId.utf8ByteSize + thumb.length ≤ buf.length := by
  have whole := read
  unfold unpackIncoming at read
  cases first : unpackHead buf with
  | error reason =>
    rw [first] at read
    cases read
  | ok found =>
    obtain ⟨head', rest⟩ := found
    rw [first] at read
    simp only [bind, Except.bind] at read
    by_cases short : rest.length < 8
    · rw [if_pos short] at read
      cases read
    · have parts := unpackIncoming_eq first short
      obtain ⟨rfl, same⟩ := Prod.mk.inj (Except.ok.inj (parts.symm.trans whole))
      obtain ⟨rfl, rfl⟩ := Prod.mk.inj same
      obtain ⟨within, small⟩ := unpackHead_valid first
      have eight : (rest.take 8).length = 8 := by
        rw [List.length_take]
        omega
      have bound := ofBigEndian_lt (rest.take 8)
      rw [eight] at bound
      refine ⟨⟨within, bound⟩, ?_⟩
      rw [List.length_drop]
      omega

theorem incoming_faithful : incoming.Faithful (fun v => v.1.Within ∧ v.2.1 < 256 ^ 8) fun _ => True := by
  have valid : ∀ buf v, incoming.unpack buf = some v →
      (v.1.Within ∧ v.2.1 < 256 ^ 8) ∧ incoming.size v ≤ buf.length := by
    rintro buf ⟨head, size, thumb⟩ read
    simp only [incoming] at read
    cases unpacked : unpackIncoming buf with
    | error reason =>
      rw [unpacked] at read
      cases read
    | ok found =>
      rw [unpacked] at read
      cases read
      exact unpackIncoming_valid unpacked
  apply Codec.Faithful.of_round
  · rintro ⟨head, size, thumb⟩ ⟨within, fits⟩
    have eight := length_bigEndian 8 size
    have long : ¬ (bigEndian 8 size ++ thumb).length < 8 := by
      rw [List.length_append, eight]
      omega
    have read := unpackIncoming_eq (unpackHead_packHead within _) long
    rw [List.take_left' eight, List.drop_left' eight, ofBigEndian_bigEndian fits] at read
    exact congrArg Except.toOption read
  · exact fun buf v read _ => (valid buf v read).1
  · exact fun buf v read _ => (valid buf v read).2

theorem edit_faithful : edit.Faithful (fun v => v.1.utf8ByteSize < 2 ^ 32 ∧ Fits v.2) fun v => Fits v.2 := by
  have valid : ∀ buf v, edit.unpack buf = some v → Fits v.2 → v.1.utf8ByteSize < 2 ^ 32 ∧ edit.size v ≤ buf.length := by
    rintro buf ⟨target, text⟩ read fits
    simp only [edit, unpackEdit, Option.bind_eq_bind, Option.bind_eq_some_iff] at read
    obtain ⟨⟨field, rest⟩, taken, target', first, text', second, same⟩ := read
    cases same
    obtain ⟨length, short⟩ := takeField_length taken
    have named : target.utf8ByteSize = field.length := by rw [← length_utf8, utf8_of_fromUtf8 first]
    have said : text'.utf8ByteSize = rest.length := by rw [← length_utf8, utf8_of_fromUtf8 second]
    rw [clampText_fits fits]
    simp only [edit]
    omega
  apply Codec.Faithful.of_round
  · exact fun v within => unpackEdit_packEdit within.1 within.2
  · exact fun buf v read fits => ⟨(valid buf v read fits).1, fits⟩
  · exact fun buf v read fits => (valid buf v read fits).2

theorem burn_faithful : burn.Faithful (fun v => v.1 ≤ U64_MAX ∧ Fits v.2) fun v => Fits v.2 := by
  have valid : ∀ buf v, burn.unpack buf = some v → Fits v.2 → v.1 ≤ U64_MAX ∧ burn.size v ≤ buf.length := by
    rintro buf ⟨secs, text⟩ read fits
    simp only [burn, unpackBurn, Option.bind_eq_bind, Option.bind_eq_some_iff] at read
    obtain ⟨⟨field, rest⟩, taken, timer, first, text', second, same⟩ := read
    have length := (takeField_length taken).1
    have said : (utf8 text').length = rest.length := by rw [utf8_of_fromUtf8 second]
    have bytes := length_utf8 text'
    cases same
    refine ⟨timer_fits timer, ?_⟩
    simp only [burn]
    rw [clampText_fits fits]
    omega
  apply Codec.Faithful.of_round
  · exact fun v within => unpackBurn_packBurn within.1 within.2
  · exact fun buf v read fits => ⟨(valid buf v read fits).1, fits⟩
  · exact fun buf v read fits => (valid buf v read fits).2

theorem unsend_faithful : unsend.Faithful (fun _ => True) fun _ => True := by
  apply Codec.Faithful.of_round
  · exact fun v _ => unpackUnsend_packUnsend v
  · exact fun buf v read _ => trivial
  · intro buf v read _
    have bytes := length_utf8 v
    rw [utf8_of_fromUtf8 read] at bytes
    exact Nat.le_of_eq bytes.symm

/-- A field is taken back with what follows it. -/
theorem takeField_field {field : Bytes} (short : IsField field) (rest : Bytes) :
    takeField (putField field ++ rest) = some (field, rest) := by
  apply takeField_putField
  exact short

/-- A field with nothing behind it is taken back. -/
theorem takeField_last {field : Bytes} (short : IsField field) : takeField (putField field) = some (field, []) :=
  (congrArg takeField (List.append_nil (putField field)).symm).trans (takeField_field short [])

/-- Two fields in a row are an opener's. -/
theorem twoFields_eq {blob rest rest' a b : Bytes} (first : takeField blob = some (a, rest))
    (second : takeField rest = some (b, rest')) : twoFields.unpack blob = some (a, b) := by
  simp only [twoFields, first, second, Option.bind_eq_bind, Option.bind_some]
  rfl

/-- Three fields in a row are an answer's. -/
theorem threeFields_eq {blob rest rest' rest'' a b c : Bytes} (first : takeField blob = some (a, rest))
    (second : takeField rest = some (b, rest')) (third : takeField rest' = some (c, rest'')) :
    threeFields.unpack blob = some (a, b, c) := by
  simp only [threeFields, first, second, third, Option.bind_eq_bind, Option.bind_some]
  rfl

theorem twoFields_faithful : twoFields.Faithful (fun v => IsField v.1 ∧ IsField v.2) fun _ => True := by
  have valid : ∀ buf v, twoFields.unpack buf = some v → (IsField v.1 ∧ IsField v.2) ∧ twoFields.size v ≤ buf.length := by
    rintro buf ⟨a, b⟩ read
    simp only [twoFields, Option.bind_eq_bind, Option.bind_eq_some_iff] at read
    obtain ⟨⟨a', rest⟩, first, ⟨b', rest'⟩, second, same⟩ := read
    obtain ⟨length, short⟩ := takeField_length first
    obtain ⟨length', short'⟩ := takeField_length second
    cases same
    refine ⟨⟨short, short'⟩, ?_⟩
    dsimp only at length'
    simp only [twoFields]
    omega
  apply Codec.Faithful.of_round
  · rintro ⟨a, b⟩ ⟨short, short'⟩
    exact twoFields_eq (takeField_field short (putField b)) (takeField_last short')
  · exact fun buf v read _ => (valid buf v read).1
  · exact fun buf v read _ => (valid buf v read).2

theorem threeFields_faithful :
    threeFields.Faithful (fun v => IsField v.1 ∧ IsField v.2.1 ∧ IsField v.2.2) fun _ => True := by
  have valid : ∀ buf v, threeFields.unpack buf = some v →
      (IsField v.1 ∧ IsField v.2.1 ∧ IsField v.2.2) ∧ threeFields.size v ≤ buf.length := by
    rintro buf ⟨a, b, c⟩ read
    simp only [threeFields, Option.bind_eq_bind, Option.bind_eq_some_iff] at read
    obtain ⟨⟨a', rest⟩, first, ⟨b', rest'⟩, second, ⟨c', rest''⟩, third, same⟩ := read
    obtain ⟨length, short⟩ := takeField_length first
    obtain ⟨length', short'⟩ := takeField_length second
    obtain ⟨length'', short''⟩ := takeField_length third
    cases same
    refine ⟨⟨short, short', short''⟩, ?_⟩
    dsimp only at length' length''
    simp only [threeFields]
    omega
  apply Codec.Faithful.of_round
  · rintro ⟨a, b, c⟩ ⟨short, short', short''⟩
    exact threeFields_eq (takeField_field short (putField b ++ putField c)) (takeField_field short' (putField c))
      (takeField_last short'')
  · exact fun buf v read _ => (valid buf v read).1
  · exact fun buf v read _ => (valid buf v read).2

end Envelopes
end Nightdrop
