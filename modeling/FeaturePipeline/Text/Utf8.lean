/-! Text held as UTF-8 bytes. A byte sequence is read as a whole or not at all, and it is
readable exactly when it is the encoding of some text. -/
namespace FeaturePipeline.Text

def encodeUtf8 (s : String) : List UInt8 := s.toList.flatMap String.utf8EncodeChar

/-- The text that the bytes encode, if they encode one. -/
def decodeUtf8? (bs : List UInt8) : Option String := String.fromUTF8? bs.toByteArray

theorem toByteArray_encodeUtf8 (s : String) : (encodeUtf8 s).toByteArray = s.toByteArray :=
  String.utf8Encode_toList

theorem decodeUtf8?_eq_some_iff {bs : List UInt8} {s : String} :
    decodeUtf8? bs = some s ↔ bs = encodeUtf8 s := by
  rw [← List.toByteArray_inj, toByteArray_encodeUtf8, decodeUtf8?, String.fromUTF8?]
  constructor
  · intro h
    split at h
    · cases h
      rfl
    · cases h
  · intro h
    have hv : bs.toByteArray.IsValidUTF8 := h ▸ s.isValidUTF8
    rw [dif_pos hv]
    exact congrArg some (String.toByteArray_inj.mp h)

@[simp] theorem decodeUtf8?_encodeUtf8 (s : String) : decodeUtf8? (encodeUtf8 s) = some s :=
  decodeUtf8?_eq_some_iff.mpr rfl

end FeaturePipeline.Text
