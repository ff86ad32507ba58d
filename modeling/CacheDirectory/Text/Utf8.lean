/-
Module: CacheDirectory.Text.Utf8
Purpose: Text as UTF-8 bytes, and where bytes stop being UTF-8.
Trusted boundary: none
Main exports: utf8, ofUtf8?, Utf8Fault, utf8Fault
-/

namespace CacheDirectory.Text

/-- The bytes of a text. -/
def utf8 (text : String) : List UInt8 :=
  text.toByteArray.data.toList

/-- The text with the given bytes, if they are UTF-8. -/
def ofUtf8? (bytes : List UInt8) : Option String :=
  String.fromUTF8? ⟨bytes.toArray⟩

theorem ofUtf8?_eq_some_iff {bytes : List UInt8} {text : String} :
    ofUtf8? bytes = some text ↔ bytes = utf8 text := by
  unfold ofUtf8? utf8 String.fromUTF8?
  constructor
  · intro found
    split at found
    · cases found
      rfl
    · cases found
  · intro same
    subst same
    simp only [Array.toArray_toList]
    rw [dif_pos text.isValidUTF8]
    rfl

/-- Why bytes are not UTF-8: after `validUpTo` bytes of text comes a sequence
that no continuation can mend, of which `length` bytes are read before that
shows; or the bytes end inside a character. -/
inductive Utf8Fault where
  | invalid (validUpTo length : Nat)
  | incomplete (validUpTo : Nat)
deriving DecidableEq, Repr, Inhabited

/-- The wording of a fault. -/
def Utf8Fault.message : Utf8Fault → String
  | .invalid validUpTo length =>
    "invalid utf-8 sequence of " ++ toString length ++ " bytes from index " ++ toString validUpTo
  | .incomplete validUpTo =>
    "incomplete utf-8 byte sequence from index " ++ toString validUpTo

/-- The bytes that continue a character. -/
def isContinuation (byte : UInt8) : Bool :=
  0x80 ≤ byte && byte ≤ 0xBF

/-- What may follow the first byte of a character, byte by byte; nothing stands
for a byte that begins none. The second byte is restricted where the character
would be overlong, a surrogate or beyond the last code point. -/
def continuations (first : UInt8) : Option (List (UInt8 → Bool)) :=
  if first < 0x80 then some []
  else if 0xC2 ≤ first && first ≤ 0xDF then some [isContinuation]
  else if first = 0xE0 then some [fun byte => 0xA0 ≤ byte && byte ≤ 0xBF, isContinuation]
  else if first = 0xED then some [fun byte => 0x80 ≤ byte && byte ≤ 0x9F, isContinuation]
  else if 0xE1 ≤ first && first ≤ 0xEF then some [isContinuation, isContinuation]
  else if first = 0xF0 then
    some [fun byte => 0x90 ≤ byte && byte ≤ 0xBF, isContinuation, isContinuation]
  else if 0xF1 ≤ first && first ≤ 0xF3 then
    some [isContinuation, isContinuation, isContinuation]
  else if first = 0xF4 then
    some [fun byte => 0x80 ≤ byte && byte ≤ 0x8F, isContinuation, isContinuation]
  else none

/-- The fault in a character that begins at `start`, of which `length` bytes have
been read and `expected` are to follow. -/
def characterFault (start : Nat) : (length : Nat) → List (UInt8 → Bool) → List UInt8 →
    Option Utf8Fault
  | _, [], _ => none
  | _, _ :: _, [] => some (.incomplete start)
  | length, accepts :: expected, byte :: rest =>
    if accepts byte then characterFault start (length + 1) expected rest
    else some (.invalid start length)

/-- The first fault in `bytes`, which begin at index `start`, with `skip` bytes
left of a character already checked. -/
def utf8FaultFrom (start skip : Nat) : List UInt8 → Option Utf8Fault
  | [] => none
  | byte :: rest =>
    match skip with
    | skip + 1 => utf8FaultFrom (start + 1) skip rest
    | 0 =>
      match continuations byte with
      | none => some (.invalid start 1)
      | some expected =>
        match characterFault start 1 expected rest with
        | some fault => some fault
        | none => utf8FaultFrom (start + 1) expected.length rest

/-- Why `bytes` are not UTF-8. -/
def utf8Fault (bytes : List UInt8) : Utf8Fault :=
  (utf8FaultFrom 0 0 bytes).getD (.incomplete bytes.length)

example : utf8Fault [0x61, 0xFF] = .invalid 1 1 := by decide

example : utf8Fault [0x61, 0xE2, 0x82] = .incomplete 1 := by decide

example : utf8Fault [0xE2, 0x82, 0x41] = .invalid 0 2 := by decide

end CacheDirectory.Text
