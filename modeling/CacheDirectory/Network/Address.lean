/-
Module: CacheDirectory.Network.Address
Purpose: Addresses of the network with a port, their notation and how it is read.
Trusted boundary: none
Main exports: HostAddress, SocketAddress, SocketAddress.text, SocketAddress.parse?,
  dialledPort
-/
import CacheDirectory.Network.Failure
import CacheDirectory.Text.Parser

namespace CacheDirectory

open Text

/-- The eight groups of a long address. -/
structure Groups where
  toList : List UInt16
  length_eq : toList.length = 8
deriving DecidableEq, Repr

/-- An address: four bytes, or eight groups and the link that they are meant on,
zero for none. -/
inductive HostAddress where
  | short (a b c d : UInt8)
  | long (groups : Groups) (link : UInt32)
deriving DecidableEq, Repr

/-- The address of one program on a machine. -/
structure SocketAddress where
  host : HostAddress
  port : UInt16
deriving DecidableEq, Repr

/-- The address by which a machine reaches itself. -/
def HostAddress.loopback : HostAddress := .short 127 0 0 1

instance : Inhabited HostAddress := ⟨.loopback⟩

instance : Inhabited SocketAddress := ⟨⟨.loopback, 0⟩⟩

/-! ### Notation -/

/-- Four bytes with points between them. -/
def shortText (a b c d : UInt8) : List Char :=
  List.intercalate ['.'] ([a, b, c, d].map fun part => Nat.toDigits 10 part.toNat)

namespace Groups

/-- Groups with colons between them. -/
def joined (groups : List UInt16) : List Char :=
  List.intercalate [':'] (groups.map fun group => hexDigits group.toNat)

/-- The first of the longest runs of zeros: where it starts and how long it
is. -/
def longestZeros : List UInt16 → Nat × Nat
  | [] => (0, 0)
  | group :: rest =>
    let here := ((group :: rest).takeWhile (· = 0)).length
    let (start, length) := longestZeros rest
    if length ≤ here then (0, here) else (start + 1, length)

/-- The bytes of a group. -/
def bytesOf (group : UInt16) : UInt8 × UInt8 :=
  ((group >>> 8).toUInt8, group.toUInt8)

/-- The group of two bytes. -/
def ofBytes (high low : UInt8) : UInt16 :=
  high.toUInt16 <<< 8 ||| low.toUInt16

/-- The notation of a long address. One that embeds a short one shows that one;
any other leaves out the first of its longest runs of zeros, unless it is a single
zero. -/
def text (groups : Groups) : List Char :=
  match groups.toList with
  | [0, 0, 0, 0, 0, 0xffff, high, low] =>
    let (a, b) := bytesOf high
    let (c, d) := bytesOf low
    "::ffff:".toList ++ shortText a b c d
  | all =>
    let (start, length) := longestZeros all
    if 1 < length then
      joined (all.take start) ++ [':', ':'] ++ joined (all.drop (start + length))
    else joined all

end Groups

/-- The notation of an address. -/
def SocketAddress.text (address : SocketAddress) : String :=
  let port := ':' :: Nat.toDigits 10 address.port.toNat
  match address.host with
  | .short a b c d => String.ofList (shortText a b c d ++ port)
  | .long groups link =>
    let link := if link = 0 then [] else '%' :: Nat.toDigits 10 link.toNat
    String.ofList (['['] ++ groups.text ++ link ++ [']'] ++ port)

/-! ### Reading -/

namespace SocketAddress

open Parser

/-- A byte in decimal digits, without a zero in front. -/
def byte : Parser UInt8 := do
  let digits ← someOf isDigit
  if (digits.head? = some '0' && digits.length ≠ 1) || 256 ≤ ofDigits 10 digits then failure
  else return UInt8.ofNat (ofDigits 10 digits)

/-- Four bytes with points between them. -/
def short : Parser (UInt8 × UInt8 × UInt8 × UInt8) := do
  let a ← byte
  exactly ['.']
  let b ← byte
  exactly ['.']
  let c ← byte
  exactly ['.']
  return (a, b, c, ← byte)

/-- A group: up to four digits to base sixteen. -/
def group : Parser UInt16 := do
  let digits ← someOf (isDigitOf 16)
  if 4 < digits.length then failure else return UInt16.ofNat (ofDigits 16 digits)

/-- What `parser` reads, after a colon if it is not the first of its kind. -/
def separated {α : Type} (first : Bool) (parser : Parser α) : Parser α := do
  unless first do exactly [':']
  parser

/-- Groups with colons between them, as many as there are up to a limit. The last
two of them may be written as a short address; whether they are is part of the
answer. -/
def groups : (limit : Nat) → (first : Bool) → Parser (List UInt16 × Bool)
  | 0, _ => return ([], false)
  | limit + 1, first => fun input =>
    match if limit = 0 then none else separated first short input with
    | some ((a, b, c, d), rest) => some (([Groups.ofBytes a b, Groups.ofBytes c d], true), rest)
    | none =>
      match separated first group input with
      | some (found, rest) => do
        let ((later, dotted), rest) ← groups limit false rest
        return ((found :: later, dotted), rest)
      | none => some (([], false), input)

/-- A long address. Two colons stand for at least one group of zeros. -/
def long : Parser Groups := do
  let (front, dotted) ← groups 8 true
  let all ←
    if front.length = 8 then pure front
    else if dotted then failure
    else do
      exactly [':', ':']
      let (back, _) ← groups (7 - front.length) true
      pure (front ++ List.replicate (8 - front.length - back.length) 0 ++ back)
  if length_eq : all.length = 8 then return ⟨all, length_eq⟩ else failure

/-- A number in decimal digits below a bound. -/
def decimal (bound : Nat) : Parser Nat := do
  let value := ofDigits 10 (← someOf isDigit)
  if value < bound then return value else failure

/-- The link of a long address, if one is named. -/
def link : Parser UInt32 := do
  match ← peek? with
  | some '%' => do
    exactly ['%']
    return UInt32.ofNat (← decimal UInt32.size)
  | _ => return 0

/-- An address with its port. -/
def address : Parser SocketAddress := do
  let host ← match ← peek? with
    | some '[' => do
      exactly ['[']
      let groups ← long
      let link ← link
      exactly [']']
      pure (HostAddress.long groups link)
    | _ => do
      let (a, b, c, d) ← short
      pure (HostAddress.short a b c d)
  exactly [':']
  return ⟨host, UInt16.ofNat (← decimal UInt16.size)⟩

/-- The address that a text denotes. -/
def parse? (text : String) : Option SocketAddress :=
  whole address text

end SocketAddress

/-! ### Names to dial -/

/-- The number that a text writes in decimal digits, after a plus sign perhaps,
if it is a port. -/
def port? (text : List Char) : Option UInt16 :=
  let digits :=
    match text with
    | '+' :: digits => digits
    | digits => digits
  if digits.isEmpty || !digits.all isDigit || UInt16.size ≤ ofDigits 10 digits then none
  else some (UInt16.ofNat (ofDigits 10 digits))

/-- The port of a machine that is to be dialled: what follows the last colon of its
name or address. -/
def dialledPort (address : String) : Except ConnectionFailure UInt16 :=
  let backwards := address.toList.reverse
  if backwards.contains ':' then
    match port? (backwards.takeWhile (· ≠ ':')).reverse with
    | some port => .ok port
    | none => .error .invalidPort
  else .error .invalidAddress

end CacheDirectory
