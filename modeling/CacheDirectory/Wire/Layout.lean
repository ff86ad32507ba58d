/-
Module: CacheDirectory.Wire.Layout
Purpose: How values are laid out in bytes: numbers little-endian and of fixed
  width, everything of variable length after its length.
Trusted boundary: none
Main exports: PayloadFault, Layout and the layouts of the elementary types
-/
import CacheDirectory.Key
import CacheDirectory.Text.Utf8

namespace CacheDirectory.Wire

/-- Why bytes are not the layout of a value. -/
inductive PayloadFault where
  /-- The bytes ended inside a number, a flag or a sequence of bytes. -/
  | endOfInput
  /-- A text is announced to be longer than the bytes that are left. -/
  | textTooLong
  | invalidBool (found : UInt8)
  | invalidOption (found : UInt8)
  | invalidVariant (found : Nat) (count : Nat)
  | invalidText (fault : Text.Utf8Fault)
deriving DecidableEq, Repr, Inhabited

/-- The wording of a fault. -/
def PayloadFault.message : PayloadFault → String
  | .endOfInput => "io error: unexpected end of file"
  | .textTooLong => "io error: "
  | .invalidBool found =>
    "invalid u8 while decoding bool, expected 0 or 1, found " ++ toString found.toNat
  | .invalidOption found => "tag for enum is not valid, found " ++ toString found.toNat
  | .invalidVariant found count =>
    "invalid value: integer \x60" ++ toString found ++ "\x60, expected variant index 0 <= i < " ++
      toString count
  | .invalidText fault => "string is not valid utf8: " ++ fault.message

/-- Reads a value from the front of the bytes and leaves the rest. -/
abbrev Reader (α : Type) := StateT Bytes (Except PayloadFault) α

/-- Both directions of a layout. -/
structure Layout (α : Type) where
  write : α → Bytes
  read : Reader α

/-- The `width` low bytes of a number, the lowest first. -/
def littleEndian : (width : Nat) → Nat → Bytes
  | 0, _ => []
  | width + 1, n => UInt8.ofNat (n % 256) :: littleEndian width (n / 256)

/-- The number with the given bytes, the lowest first. -/
def ofLittleEndian : Bytes → Nat
  | [] => 0
  | byte :: rest => byte.toNat + 256 * ofLittleEndian rest

/-- The next `count` bytes. -/
def take (count : Nat) : Reader Bytes := fun input =>
  if count ≤ input.length then .ok (input.take count, input.drop count)
  else .error .endOfInput

/-- A number of `width` bytes. -/
def number (width : Nat) : Reader Nat := do
  return ofLittleEndian (← take width)

namespace Layout

/-- The layout of a type whose values stand for those of another. -/
def via {α β : Type} (layout : Layout α) (forth : α → β) (back : β → α) : Layout β where
  write value := layout.write (back value)
  read := return forth (← layout.read)

/-- Two values, one after the other. -/
def pair {α β : Type} (first : Layout α) (second : Layout β) : Layout (α × β) where
  write value := first.write value.1 ++ second.write value.2
  read := do
    let a ← first.read
    let b ← second.read
    return (a, b)

/-- A byte. -/
def byte : Layout UInt8 where
  write value := [value]
  read := return UInt8.ofNat (← number 1)

/-- A word of two bytes. -/
def word16 : Layout UInt16 where
  write value := littleEndian 2 value.toNat
  read := return UInt16.ofNat (← number 2)

/-- A word of four bytes. -/
def word32 : Layout UInt32 where
  write value := littleEndian 4 value.toNat
  read := return UInt32.ofNat (← number 4)

/-- A word of eight bytes. -/
def word64 : Layout UInt64 where
  write value := littleEndian 8 value.toNat
  read := return UInt64.ofNat (← number 8)

/-- A signed word of four bytes. -/
def int32 : Layout Int32 := word32.via UInt32.toInt32 Int32.toUInt32

/-- A signed word of eight bytes. -/
def int64 : Layout Int64 := word64.via UInt64.toInt64 Int64.toUInt64

/-- A flag, as one byte. -/
def bool : Layout Bool where
  write value := [if value then 1 else 0]
  read := do
    let found ← byte.read
    if found = 0 then return false
    else if found = 1 then return true
    else throw (.invalidBool found)

/-- A value that may be missing, after a byte that tells whether it is there. -/
def option {α : Type} (layout : Layout α) : Layout (Option α) where
  write
    | none => [0]
    | some value => 1 :: layout.write value
  read := do
    let found ← byte.read
    if found = 0 then return none
    else if found = 1 then return some (← layout.read)
    else throw (.invalidOption found)

/-- A sequence of bytes after its length. -/
def bytes : Layout Bytes where
  write value := word64.write (UInt64.ofNat value.length) ++ value
  read := do
    let length ← word64.read
    take length.toNat

/-- A text after the length of its bytes. -/
def text : Layout String where
  write value := word64.write (UInt64.ofNat value.utf8ByteSize) ++ Text.utf8 value
  read := do
    let length ← word64.read
    let input ← get
    if input.length < length.toNat then throw .textTooLong
    else
      let content ← take length.toNat
      match Text.ofUtf8? content with
      | some value => return value
      | none => throw (.invalidText (Text.utf8Fault content))

/-- The number of a variant, written before its fields. -/
def writeVariant (index : Nat) (fields : Bytes) : Bytes :=
  littleEndian 4 index ++ fields

/-- The number of a variant of which there are `count`. -/
def readVariant (count : Nat) : Reader Nat := do
  let index ← number 4
  if index < count then return index else throw (.invalidVariant index count)

/-- The layout of an enumeration without fields, given by its values in
order. -/
def enumeration {α : Type} (index : α → Nat) (values : List α) : Layout α where
  write value := writeVariant (index value) []
  read := do
    let found ← readVariant values.length
    match values[found]? with
    | some value => return value
    | none => throw (.invalidVariant found values.length)

end Layout

end CacheDirectory.Wire
