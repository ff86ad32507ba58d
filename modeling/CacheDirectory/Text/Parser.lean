/-
Module: CacheDirectory.Text.Parser
Purpose: Parsers over characters: what they take from the front of a text and what
  they leave.
Trusted boundary: none
Main exports: Text.Parser, Parser.span, Parser.one, Parser.exactly, Parser.whole,
  digitValue, ofDigits
-/
import CacheDirectory.Text.Quoted

namespace CacheDirectory.Text

/-- Reads from the front of the characters and leaves the rest, or finds no value
there. -/
abbrev Parser (α : Type) := StateT (List Char) Option α

namespace Parser

/-- The characters that `accepts` takes, as many as there are. -/
def span (accepts : Char → Bool) : Parser (List Char) := fun input =>
  some (input.takeWhile accepts, input.dropWhile accepts)

/-- The same, but at least one. -/
def someOf (accepts : Char → Bool) : Parser (List Char) := do
  let found ← span accepts
  if found.isEmpty then failure else return found

/-- The next character without taking it. -/
def peek? : Parser (Option Char) := fun input => some (input.head?, input)

/-- The next character, if `accepts` takes it. -/
def one (accepts : Char → Bool) : Parser Char
  | c :: rest => if accepts c then some (c, rest) else none
  | [] => none

/-- Exactly these characters. -/
def exactly (expected : List Char) : Parser Unit := fun input =>
  if expected.isPrefixOf input then some ((), input.drop expected.length) else none

/-- The end of the input. -/
def ending : Parser Unit
  | [] => some ((), [])
  | _ => none

/-- What a text holds from its first to its last character. -/
def whole {α : Type} (parser : Parser α) (text : String) : Option α :=
  match parser text.toList with
  | some (value, []) => some value
  | _ => none

end Parser

/-! ### Digits -/

/-- The ten digits, and no other characters that count as digits somewhere. -/
def isDigit (c : Char) : Bool := '0' ≤ c && c ≤ '9'

/-- The value of a digit in any base up to sixteen; sixteen for what is no
digit. -/
def digitValue (c : Char) : Nat :=
  if isDigit c then c.toNat - '0'.toNat
  else if 'a' ≤ c && c ≤ 'f' then c.toNat - 'a'.toNat + 10
  else if 'A' ≤ c && c ≤ 'F' then c.toNat - 'A'.toNat + 10
  else 16

/-- Whether a character is a digit of a base up to sixteen. -/
def isDigitOf (base : Nat) (c : Char) : Bool :=
  digitValue c < base

/-- The number that digits write in a base. -/
def ofDigits (base : Nat) (digits : List Char) : Nat :=
  digits.foldl (fun value c => value * base + digitValue c) 0

end CacheDirectory.Text
