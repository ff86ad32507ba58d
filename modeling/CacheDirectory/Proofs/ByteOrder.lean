/-
Module: CacheDirectory.Proofs.ByteOrder
Purpose: Texts compare as their bytes do: of two characters the smaller is written with the
  smaller byte where they first differ.
Trusted boundary: none
Main exports: Text.utf8_lt_iff
-/
import CacheDirectory.Text.Utf8

namespace CacheDirectory.Text

/-- The first lies before the second at the first position where they differ, and neither
ends before that. -/
def Undercuts (first second : List UInt8) : Prop :=
  ∃ shared one other rest rest', first = shared ++ one :: rest ∧
    second = shared ++ other :: rest' ∧ one < other

/-- Whatever follows then does not matter. -/
theorem Undercuts.append_lt {first second : List UInt8} (undercuts : Undercuts first second)
    (behind behind' : List UInt8) : first ++ behind < second ++ behind' := by
  obtain ⟨shared, one, other, rest, rest', rfl, rfl, less⟩ := undercuts
  rw [List.append_assoc, List.append_assoc]
  exact List.append_left_lt (List.Lex.rel less)

/-- The bytes in front decide, unless they are the same. -/
theorem undercuts_cons {one other : Nat} {rest rest' : List UInt8} (byte : other < 256)
    (ordered : one ≤ other) (behind : one = other → Undercuts rest rest') :
    Undercuts (UInt8.ofNat one :: rest) (UInt8.ofNat other :: rest') := by
  rcases Nat.lt_or_eq_of_le ordered with less | same
  · refine ⟨[], _, _, rest, rest', rfl, rfl, ?_⟩
    rw [UInt8.lt_iff_toNat_lt, UInt8.toNat_ofNat', UInt8.toNat_ofNat']
    omega
  · obtain ⟨shared, first, second, further, further', rfl, rfl, less⟩ := behind same
    rw [same]
    exact ⟨_ :: shared, first, second, further, further', rfl, rfl, less⟩

/-- How a character is written, by its size. -/
theorem utf8EncodeChar_cases (c : Char) :
    (c.val.toNat ≤ 0x7f ∧ String.utf8EncodeChar c = [UInt8.ofNat c.val.toNat]) ∨
    (0x7f < c.val.toNat ∧ c.val.toNat ≤ 0x7ff ∧ String.utf8EncodeChar c =
      [UInt8.ofNat (c.val.toNat / 64 % 32 + 192), UInt8.ofNat (c.val.toNat % 64 + 128)]) ∨
    (0x7ff < c.val.toNat ∧ c.val.toNat ≤ 0xffff ∧ String.utf8EncodeChar c =
      [UInt8.ofNat (c.val.toNat / 4096 % 16 + 224), UInt8.ofNat (c.val.toNat / 64 % 64 + 128),
        UInt8.ofNat (c.val.toNat % 64 + 128)]) ∨
    (0xffff < c.val.toNat ∧ c.val.toNat < 0x110000 ∧ String.utf8EncodeChar c =
      [UInt8.ofNat (c.val.toNat / 262144 % 8 + 240), UInt8.ofNat (c.val.toNat / 4096 % 64 + 128),
        UInt8.ofNat (c.val.toNat / 64 % 64 + 128), UInt8.ofNat (c.val.toNat % 64 + 128)]) := by
  have valid : c.val.toNat < 0x110000 := c.valid.elim (by omega) (·.2)
  simp only [String.utf8EncodeChar]
  split
  case isTrue one => exact Or.inl ⟨one, rfl⟩
  case isFalse more =>
    split
    case isTrue two => exact Or.inr (Or.inl ⟨by omega, two, rfl⟩)
    case isFalse more =>
      split
      case isTrue three => exact Or.inr (Or.inr (Or.inl ⟨by omega, three, rfl⟩))
      case isFalse four => exact Or.inr (Or.inr (Or.inr ⟨by omega, valid, rfl⟩))

/-- Of two characters the smaller is written with the smaller byte where they differ: with
more bytes a character has a greater first one. -/
theorem undercuts_utf8EncodeChar {first second : Char} (less : first < second) :
    Undercuts (String.utf8EncodeChar first) (String.utf8EncodeChar second) := by
  have smaller : first.val.toNat < second.val.toNat := UInt32.lt_iff_toNat_lt.mp less
  rcases utf8EncodeChar_cases first with ⟨_, bytes⟩ | ⟨_, _, bytes⟩ | ⟨_, _, bytes⟩ | ⟨_, _, bytes⟩ <;>
    rcases utf8EncodeChar_cases second with
      ⟨_, bytes'⟩ | ⟨_, _, bytes'⟩ | ⟨_, _, bytes'⟩ | ⟨_, _, bytes'⟩ <;>
    rw [bytes, bytes']
  -- Where all bytes are the same the characters would be, too.
  all_goals repeat first | omega | refine undercuts_cons (by omega) (by omega) fun _ => ?_

/-- The bytes of a text are those of its characters. -/
theorem utf8_eq_flatMap (text : String) : utf8 text = text.toList.flatMap String.utf8EncodeChar := by
  rw [utf8, ← String.utf8Encode_toList]
  exact List.toList_data_toByteArray

theorem utf8EncodeChar_ne_nil (c : Char) : String.utf8EncodeChar c ≠ [] := by
  rcases utf8EncodeChar_cases c with ⟨_, bytes⟩ | ⟨_, _, bytes⟩ | ⟨_, _, bytes⟩ | ⟨_, _, bytes⟩ <;>
    rw [bytes] <;> exact List.cons_ne_nil _ _

theorem utf8_lt_of_lt {first second : String} (less : first < second) : utf8 first < utf8 second := by
  have ordered : List.Lex (· < ·) first.toList second.toList := less
  rw [utf8_eq_flatMap, utf8_eq_flatMap]
  generalize first.toList = chars at ordered
  generalize second.toList = chars' at ordered
  induction ordered with
  | @nil c rest =>
      obtain ⟨byte, further, bytes⟩ := List.exists_cons_of_ne_nil (utf8EncodeChar_ne_nil c)
      rw [List.flatMap_nil, List.flatMap_cons, bytes]
      exact List.nil_lt_cons byte _
  | @rel c rest c' rest' smaller =>
      rw [List.flatMap_cons, List.flatMap_cons]
      exact (undercuts_utf8EncodeChar smaller).append_lt _ _
  | @cons c rest rest' _ ih =>
      rw [List.flatMap_cons, List.flatMap_cons]
      exact List.append_left_lt ih

/-- Texts compare as their bytes do. -/
theorem utf8_lt_iff {first second : String} : utf8 first < utf8 second ↔ first < second := by
  refine ⟨fun less => ?_, utf8_lt_of_lt⟩
  rcases Std.lt_trichotomy first second with smaller | same | greater
  · exact smaller
  · rw [same] at less
    exact absurd less (List.lt_irrefl _)
  · exact absurd (utf8_lt_of_lt greater) (List.lt_asymm less)

end CacheDirectory.Text
