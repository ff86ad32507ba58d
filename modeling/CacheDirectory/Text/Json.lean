/-
Module: CacheDirectory.Text.Json
Purpose: Documents in the notation of the admin interface, without blanks.
Trusted boundary: none
Main exports: Json, Json.text
-/
import CacheDirectory.Text.Quoted

namespace CacheDirectory.Text

/-- A document. -/
inductive Json where
  | bool (value : Bool)
  | number (value : Int)
  | text (value : String)
  | list (items : List Json)
  | record (fields : List (String × Json))
deriving Repr, Inhabited

namespace Json

/-- How a character is written in a text: quotation mark and backslash after a
backslash, five controls by their letters, other controls by four digits to base
sixteen. -/
def escaped (c : Char) : List Char :=
  if c = '"' then ['\\', '"']
  else if c = '\\' then ['\\', '\\']
  else if c = '\n' then ['\\', 'n']
  else if c = '\r' then ['\\', 'r']
  else if c = '\t' then ['\\', 't']
  else if c = '\x08' then ['\\', 'b']
  else if c = '\x0c' then ['\\', 'f']
  else if c.toNat < 32 then
    let digits := hexDigits c.toNat
    ['\\', 'u'] ++ List.replicate (4 - digits.length) '0' ++ digits
  else [c]

/-- A text with its quotation marks. -/
def textBetweenMarks (value : String) : String :=
  String.ofList (['"'] ++ value.toList.flatMap escaped ++ ['"'])

mutual

/-- The notation of a document. -/
def render : Json → String
  | .bool true => "true"
  | .bool false => "false"
  | .number value => toString value
  | .text value => textBetweenMarks value
  | .list items => "[" ++ String.intercalate "," (renderItems items) ++ "]"
  | .record fields => "\x7b" ++ String.intercalate "," (renderFields fields) ++ "\x7d"

/-- The notation of each item of a list. -/
def renderItems : List Json → List String
  | [] => []
  | item :: rest => render item :: renderItems rest

/-- The notation of each field of a record. -/
def renderFields : List (String × Json) → List String
  | [] => []
  | (name, value) :: rest => (textBetweenMarks name ++ ":" ++ render value) :: renderFields rest

end

end Json

end CacheDirectory.Text
