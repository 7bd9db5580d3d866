/-!
# Texts and their bytes

A text is the list of its characters, so patterns, lines and the parts found in them are read from
the front by ordinary recursion. Bytes appear only at the edges, where a stream is read or written.
The two forms determine each other: `ofUtf8?_eq_some_iff` says that decoding accepts exactly the
encodings.
-/

namespace LineSearch

abbrev Text := List Char

abbrev Bytes := List UInt8

namespace Text

def utf8 (text : Text) : Bytes :=
  text.flatMap String.utf8EncodeChar

def utf8Length (text : Text) : Nat :=
  text.foldr (fun c length => c.utf8Size + length) 0

/-- The text that the bytes spell, or nothing when they are not well-formed UTF-8. -/
def ofUtf8? (bytes : Bytes) : Option Text :=
  (String.fromUTF8? bytes.toByteArray).map String.toList

@[simp] theorem utf8_nil : utf8 [] = [] := rfl

@[simp] theorem utf8_append (first second : Text) :
    utf8 (first ++ second) = utf8 first ++ utf8 second := by
  simp [utf8]

@[simp] theorem length_utf8 (text : Text) : (utf8 text).length = utf8Length text := by
  induction text with
  | nil => rfl
  | cons c rest ih =>
      simp only [utf8, utf8Length, List.flatMap_cons, List.length_append, List.foldr_cons,
        String.length_utf8EncodeChar] at ih ⊢
      rw [ih]

theorem toByteArray_utf8 (text : Text) :
    (utf8 text).toByteArray = (String.ofList text).toByteArray := by
  simp [utf8, String.toByteArray_ofList, List.utf8Encode]

/-- Decoding gives back the text that was encoded. -/
@[simp] theorem ofUtf8?_utf8 (text : Text) : ofUtf8? (utf8 text) = some text := by
  have hvalid : (String.ofList text).toByteArray.IsValidUTF8 := (String.ofList text).isValidUTF8
  have hdecoded :
      String.fromUTF8? (String.ofList text).toByteArray = some (String.ofList text) := by
    rw [String.fromUTF8?, dif_pos hvalid]
    rfl
  rw [ofUtf8?, toByteArray_utf8, hdecoded]
  simp

/-- Bytes that decode are the encoding of what they decode to. -/
theorem utf8_of_ofUtf8?_eq_some {bytes : Bytes} {text : Text} (h : ofUtf8? bytes = some text) :
    utf8 text = bytes := by
  obtain ⟨s, hs, rfl⟩ := Option.map_eq_some_iff.mp h
  have hbytes : s.toByteArray = bytes.toByteArray := by
    unfold String.fromUTF8? at hs
    split at hs
    · cases hs
      rfl
    · contradiction
  have hsame : (utf8 s.toList).toByteArray = bytes.toByteArray := by
    rw [toByteArray_utf8, String.ofList_toList, hbytes]
  simpa using congrArg (fun b => b.data.toList) hsame

/-- The well-formed byte sequences are the encodings of texts. -/
theorem ofUtf8?_eq_some_iff {bytes : Bytes} {text : Text} :
    ofUtf8? bytes = some text ↔ bytes = utf8 text :=
  ⟨fun h => (utf8_of_ofUtf8?_eq_some h).symm, fun h => h ▸ ofUtf8?_utf8 text⟩

end Text

end LineSearch
