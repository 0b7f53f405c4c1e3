import EvalForge.Foundation.Words
import Mathlib.Data.UInt

/-! # ASCII texts

A text whose bytes are all below 128 is read off its bytes, which is how a
closed text is best computed with.
-/

namespace EvalForge.Foundation

def IsAscii (text : String) : Prop := ∀ char ∈ text.toList, char.toNat < 128

def asciiChars (text : String) : List Char :=
  text.toByteArray.data.toList.map fun byte => Char.ofNat byte.toNat

def hasAsciiBytes (text : String) : Bool :=
  text.toByteArray.data.toList.all fun byte => byte.toNat < 128

theorem bytes_eq (text : String) :
    text.toByteArray.data.toList = text.toList.flatMap String.utf8EncodeChar := by
  rw [← String.utf8Encode_toList, List.utf8Encode, List.toList_data_toByteArray]

theorem utf8EncodeChar_of_ascii {char : Char} (ascii : char.toNat < 128) :
    String.utf8EncodeChar char = [UInt8.ofNat char.toNat] := by
  have small : char.val.toNat ≤ 0x7f := Nat.le_of_lt_succ ascii
  rw [String.utf8EncodeChar, if_pos small]
  rfl

theorem exists_large_byte {char : Char} (large : 128 ≤ char.toNat) :
    ∃ byte ∈ String.utf8EncodeChar char, 128 ≤ byte.toNat := by
  have notSmall : ¬char.val.toNat ≤ 0x7f := Nat.not_le.mpr large
  simp only [String.utf8EncodeChar, if_neg notSmall]
  split
  · exact ⟨_, List.mem_cons_self, by simp; omega⟩
  · split
    · exact ⟨_, List.mem_cons_self, by simp; omega⟩
    · exact ⟨_, List.mem_cons_self, by simp; omega⟩

theorem isAscii_of_hasAsciiBytes {text : String} (ascii : hasAsciiBytes text = true) :
    IsAscii text := by
  rw [hasAsciiBytes, bytes_eq, List.all_eq_true] at ascii
  intro char member
  by_contra large
  rcases exists_large_byte (Nat.not_lt.mp large) with ⟨byte, byteMember, largeByte⟩
  have below : byte.toNat < 128 := by
    simpa using ascii byte (List.mem_flatMap.mpr ⟨char, member, byteMember⟩)
  omega

theorem bytes_of_ascii {chars : List Char} (ascii : ∀ char ∈ chars, char.toNat < 128) :
    (chars.flatMap String.utf8EncodeChar).map (fun byte => Char.ofNat byte.toNat) = chars := by
  induction chars with
  | nil => rfl
  | cons char chars induction =>
      rcases List.forall_mem_cons.mp ascii with ⟨first, others⟩
      have value : (UInt8.ofNat char.toNat).toNat = char.toNat := by
        simp
        omega
      rw [List.flatMap_cons, List.map_append, induction others, utf8EncodeChar_of_ascii first,
        List.map_singleton, value, Char.ofNat_toNat]
      rfl

theorem toList_eq_asciiChars {text : String} (ascii : hasAsciiBytes text = true) :
    text.toList = asciiChars text := by
  rw [asciiChars, bytes_eq, bytes_of_ascii (isAscii_of_hasAsciiBytes ascii)]

theorem isAscii_append {left right : String} (leftAscii : IsAscii left)
    (rightAscii : IsAscii right) : IsAscii (left ++ right) := by
  intro char member
  rw [String.toList_append, List.mem_append] at member
  exact member.elim (leftAscii char) (rightAscii char)

theorem isAscii_lines {lines : List String} (ascii : ∀ line ∈ lines, IsAscii line) :
    IsAscii ("\n".intercalate lines) := by
  intro char member
  rw [String.toList_intercalate] at member
  rcases mem_intercalate member with rfl | ⟨line, lineMember, charMember⟩
  · decide
  · rcases List.mem_map.mp lineMember with ⟨text, textMember, rfl⟩
    exact ascii text textMember char charMember

end EvalForge.Foundation
