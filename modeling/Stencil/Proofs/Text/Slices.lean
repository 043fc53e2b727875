import Stencil.Text.Slice
import Stencil.Text.Utf8

/-!
# Laws of slices

A slice is what is left of a text without its first and its last bytes.  Positions behind whole
characters are those between which there are slices.
-/

namespace Stencil
namespace Text

variable {text : String} {before part : List Char}

theorem isSome_slice?_iff {first last : Nat} :
    (slice? text first last).isSome ↔
      IsBoundary text first ∧ IsBoundary text last ∧ first ≤ last := by
  simp [slice?]

theorem isBoundary_iff {position : Nat} :
    IsBoundary text position ↔
      ∃ front back, text = front ++ back ∧ position = front.utf8ByteSize := by
  simp [IsBoundary, String.Pos.Raw.isValid_iff_exists_append, String.Pos.Raw.ext_iff]

/-- A slice is the middle one of three texts that make up the whole. -/
theorem slice?_eq_some_iff {middle : String} {first last : Nat} :
    slice? text first last = some middle ↔
      ∃ front back, text = front ++ middle ++ back ∧ first = front.utf8ByteSize ∧
        last = (front ++ middle).utf8ByteSize := by
  constructor
  · intro found
    unfold slice? at found
    split at found
    · have copied := Option.some.inj found
      obtain ⟨front, back, atFirst, atLast⟩ := String.copy_slice_eq_iff_splits.1 ⟨_, copied⟩
      have first_eq := congrArg String.Pos.Raw.byteIdx atFirst.offset_eq_rawEndPos
      have last_eq := congrArg String.Pos.Raw.byteIdx atLast.offset_eq_rawEndPos
      exact ⟨front, back, atLast.eq_append, first_eq, last_eq⟩
    · cases found
  · rintro ⟨front, back, text_eq, rfl, rfl⟩
    have rest_eq : text = front ++ (middle ++ back) := by rw [text_eq, String.append_assoc]
    have begins : IsBoundary text front.utf8ByteSize :=
      isBoundary_iff.2 ⟨front, middle ++ back, rest_eq, rfl⟩
    have ends : IsBoundary text (front ++ middle).utf8ByteSize :=
      isBoundary_iff.2 ⟨front ++ middle, back, text_eq, rfl⟩
    have ordered : front.utf8ByteSize ≤ (front ++ middle).utf8ByteSize := by simp
    have atFirst : (text.pos ⟨front.utf8ByteSize⟩ begins).Splits front (middle ++ back) :=
      ⟨rest_eq, rfl⟩
    have atLast : (text.pos ⟨(front ++ middle).utf8ByteSize⟩ ends).Splits (front ++ middle) back :=
      ⟨text_eq, rfl⟩
    obtain ⟨_, copied⟩ := String.copy_slice_eq_iff_splits.2 ⟨front, back, atFirst, atLast⟩
    rw [slice?, dif_pos ⟨begins, ends, ordered⟩, copied]

example : slice? "é→" 2 5 = some "→" ∧ slice? "é→" 1 5 = none ∧ slice? "é→" 5 2 = none := by
  decide

/-! ## Slices of what has been read -/

theorem byteLength_toList (text : String) : byteLength text.toList = text.utf8ByteSize := by
  rw [← length_bytes, length_bytes_toList]

theorem utf8ByteSize_ofList (text : List Char) :
    (String.ofList text).utf8ByteSize = byteLength text := by
  rw [← byteLength_toList, String.toList_ofList]

theorem byteLength_le {after : List Char} (front : before <+: after) :
    byteLength before ≤ byteLength after := by
  obtain ⟨rest, rfl⟩ := front
  simp

theorem isBoundary_byteLength (front : before <+: text.toList) :
    IsBoundary text (byteLength before) := by
  obtain ⟨rest, text_eq⟩ := front
  refine isBoundary_iff.2 ⟨String.ofList before, String.ofList rest, ?_, ?_⟩
  · rw [← String.ofList_append, text_eq, String.ofList_toList]
  · rw [utf8ByteSize_ofList]

theorem isBoundary_utf8ByteSize (text : String) : IsBoundary text text.utf8ByteSize :=
  isBoundary_iff.2 ⟨text, "", String.append_empty.symm, rfl⟩

theorem slice?_byteLength (front : before ++ part <+: text.toList) :
    slice? text (byteLength before) (byteLength (before ++ part)) = some (String.ofList part) := by
  obtain ⟨rest, text_eq⟩ := front
  refine slice?_eq_some_iff.2 ⟨String.ofList before, String.ofList rest, ?_, ?_, ?_⟩
  · rw [← String.ofList_append, ← String.ofList_append, text_eq, String.ofList_toList]
  · rw [utf8ByteSize_ofList]
  · rw [← String.ofList_append, utf8ByteSize_ofList]

end Text
end Stencil
