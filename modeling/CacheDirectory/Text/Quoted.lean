/-
Module: CacheDirectory.Text.Quoted
Purpose: Text between quotation marks in which every character can be seen.
Trusted boundary: none
Main exports: Text.quoted
-/
import CacheDirectory.Text.Invisible

namespace CacheDirectory.Text

/-- The digits of a number to base sixteen, in small letters. -/
def hexDigits (n : Nat) : List Char :=
  Nat.toDigits 16 n

/-- A character written by its code point. -/
def byCode (c : Char) : List Char :=
  ['\\', 'u', '\x7b'] ++ hexDigits c.toNat ++ ['\x7d']

/-- How a character is written between quotation marks: the mark itself and the
backslash after a backslash, the four controls that have a letter by that
letter, any other character that cannot be seen by its code point. -/
def quotedChar (c : Char) : List Char :=
  if c = '\x00' then ['\\', '0']
  else if c = '\t' then ['\\', 't']
  else if c = '\r' then ['\\', 'r']
  else if c = '\n' then ['\\', 'n']
  else if c = '\\' then ['\\', '\\']
  else if c = '"' then ['\\', '"']
  else if isInvisible c then byCode c
  else [c]

/-- `text` between quotation marks. -/
def quoted (text : String) : String :=
  String.ofList (['"'] ++ text.toList.flatMap quotedChar ++ ['"'])

end CacheDirectory.Text
