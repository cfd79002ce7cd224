/-!
Texts as bytes, in UTF-8. Main statement: bytes are read as a text if and only if they are its bytes
(`ofBytes?_eq_some_iff`).
-/

namespace ContentRules.Text

/-- The bytes of a text. -/
def bytes (s : String) : List UInt8 := s.toByteArray.data.toList

/-- The text that bytes write, if they are in UTF-8. -/
def ofBytes? (bytes : List UInt8) : Option String := String.fromUTF8? ⟨bytes.toArray⟩

theorem bytes_append (s t : String) : bytes (s ++ t) = bytes s ++ bytes t := by
  simp [bytes, String.toByteArray_append, ByteArray.data_append]

theorem ofBytes?_eq_some_iff {b : List UInt8} {s : String} : ofBytes? b = some s ↔ bytes s = b := by
  have hbytes : bytes s = b ↔ s.toByteArray = ⟨b.toArray⟩ := by
    rw [bytes]
    constructor
    · rintro rfl
      rfl
    · intro h
      rw [h]
  rw [hbytes, ofBytes?, String.fromUTF8?]
  constructor
  · intro h
    split at h
    · cases h
      rfl
    · cases h
  · intro h
    rw [dif_pos (h ▸ s.isValidUTF8)]
    exact congrArg some (String.toByteArray_inj.1 h.symm)

@[simp]
theorem ofBytes?_bytes (s : String) : ofBytes? (bytes s) = some s := ofBytes?_eq_some_iff.2 rfl

end ContentRules.Text
