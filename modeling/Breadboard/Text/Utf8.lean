/-!
# Text as bytes

Files and documents are byte strings, names are texts. The two meet here: a
text has one encoding, and reading that encoding gives the text back. Bytes
that encode no text are refused.
-/

namespace Breadboard.Text

/-- The UTF-8 encoding of a text. -/
def utf8 (s : String) : List UInt8 := s.toUTF8.data.toList

/-- The text that bytes encode, if they are valid UTF-8. -/
def ofUtf8? (bytes : List UInt8) : Option String := String.fromUTF8? ⟨bytes.toArray⟩

/-- **Reading back.** A text's encoding is valid and encodes that text. -/
@[simp]
theorem ofUtf8?_utf8 (s : String) : ofUtf8? (utf8 s) = some s := by
  simp [ofUtf8?, utf8, String.fromUTF8?, String.toUTF8, String.fromUTF8, s.isValidUTF8]

theorem utf8_injective {s t : String} (h : utf8 s = utf8 t) : s = t := by
  have h' := congrArg ofUtf8? h
  simpa using h'

/-- **The other way round**, bytes that encode a text are its encoding. -/
theorem utf8_of_ofUtf8? {bytes : List UInt8} {s : String} (h : ofUtf8? bytes = some s) :
    utf8 s = bytes := by
  unfold ofUtf8? String.fromUTF8? at h
  split at h
  · cases h
    rfl
  · cases h

end Breadboard.Text
