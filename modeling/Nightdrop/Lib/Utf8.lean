import Nightdrop.Lib.Text

/-! The bytes of texts that are read, joined or cut. -/

namespace Nightdrop

/-- Bytes that are read as a text are the text's bytes. -/
theorem utf8_of_fromUtf8 {bytes : Bytes} {text : String} (read : fromUtf8 bytes = some text) : utf8 text = bytes := by
  unfold fromUtf8 String.fromUTF8? at read
  split at read
  · cases read
    rfl
  · cases read

/-- Joined texts have their bytes joined. -/
theorem utf8_append (a b : String) : utf8 (a ++ b) = utf8 a ++ utf8 b := by
  simp [utf8]

end Nightdrop
