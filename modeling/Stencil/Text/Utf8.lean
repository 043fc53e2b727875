/-!
# UTF-8

Positions and lengths count bytes of the UTF-8 form.
-/

namespace Stencil
namespace Text

/-- The number of bytes in the UTF-8 form of a text. -/
def byteLength : List Char → Nat
  | [] => 0
  | character :: text => character.utf8Size + byteLength text

@[simp]
theorem byteLength_nil : byteLength [] = 0 := rfl

@[simp]
theorem byteLength_cons (character : Char) (text : List Char) :
    byteLength (character :: text) = character.utf8Size + byteLength text := rfl

@[simp]
theorem byteLength_append (before after : List Char) :
    byteLength (before ++ after) = byteLength before + byteLength after := by
  induction before with
  | nil => simp
  | cons character before induction => simp [induction, Nat.add_assoc]

/-- The UTF-8 form of a text. -/
def bytes (text : List Char) : List UInt8 :=
  text.flatMap String.utf8EncodeChar

@[simp]
theorem bytes_nil : bytes [] = [] := rfl

@[simp]
theorem bytes_append (before after : List Char) :
    bytes (before ++ after) = bytes before ++ bytes after := by
  simp [bytes]

/-- The number of bytes is the length of the UTF-8 form. -/
theorem length_bytes (text : List Char) : (bytes text).length = byteLength text := by
  induction text with
  | nil => rfl
  | cons character text induction =>
      have first : bytes (character :: text) = String.utf8EncodeChar character ++ bytes text := rfl
      simp [first, induction, String.length_utf8EncodeChar]

theorem toByteArray_bytes (text : String) : (bytes text.toList).toByteArray = text.toByteArray := by
  have form : text.toByteArray = text.toList.utf8Encode := by
    rw [← String.toByteArray_ofList, String.ofList_toList]
  rw [form]
  rfl

/-- A text has as many bytes as its UTF-8 form. -/
theorem length_bytes_toList (text : String) : (bytes text.toList).length = text.utf8ByteSize := by
  rw [String.utf8ByteSize, ← toByteArray_bytes, List.size_toByteArray]

/-- Texts are told apart by their UTF-8 forms. -/
theorem bytes_toList_inj {first second : String} :
    bytes first.toList = bytes second.toList ↔ first = second := by
  constructor
  · intro same
    rw [← String.toByteArray_inj, ← toByteArray_bytes, same, toByteArray_bytes]
  · rintro rfl
    rfl

end Text
end Stencil
