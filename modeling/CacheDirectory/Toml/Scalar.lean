/-
Module: CacheDirectory.Toml.Scalar
Purpose: The notation of texts, numbers, dates and keys.
Trusted boundary: none
Main exports: markedText, keyPath, number
-/
import CacheDirectory.Text.Parser
import CacheDirectory.Toml.Value

namespace CacheDirectory.Toml

open Text Text.Parser

/-! ### Pieces -/

/-- A space or a tab. -/
def isBlank (c : Char) : Bool := c = ' ' || c = '\t'

/-- Blanks within a line. -/
def blanks : Parser Unit := do
  let _ ← span isBlank

/-- Characters that a line may hold: no control but the tab. -/
def isLineChar (c : Char) : Bool :=
  c = '\t' || (' ' ≤ c && c ≠ '\x7f')

/-- The end of a line. -/
def newline : Parser Unit
  | '\n' :: rest => some ((), rest)
  | '\r' :: '\n' :: rest => some ((), rest)
  | _ => none

/-- Exactly `count` digits of a base. -/
def fixedDigits (base : Nat) : (count : Nat) → Parser (List Char)
  | 0 => return []
  | count + 1 => do
    let c ← one (isDigitOf base)
    return c :: (← fixedDigits base count)

/-! ### Texts -/

/-- The character with a code point; surrogates are none. -/
def ofCode (code : Nat) : Option Char :=
  if h : code.isValidChar then some (Char.ofNatAux code h) else none

/-- The character that is written after a backslash. -/
def escape : Parser Char := do
  match ← one fun _ => true with
  | 'b' => return '\x08'
  | 't' => return '\t'
  | 'n' => return '\n'
  | 'f' => return '\x0c'
  | 'r' => return '\r'
  | '"' => return '"'
  | '\\' => return '\\'
  | 'u' => StateT.lift (ofCode (ofDigits 16 (← fixedDigits 16 4)))
  | 'U' => StateT.lift (ofCode (ofDigits 16 (← fixedDigits 16 8)))
  | _ => failure

/-- The blanks and line ends that a backslash at the end of a line hides. The
line must end; there may be further blank lines. -/
def hiddenLineEnd : List Char → Option (List Char)
  | input => do
    let ((), rest) ← (do blanks; newline : Parser Unit) input
    return skip rest
where
  skip : List Char → List Char
  | '\r' :: '\n' :: rest => skip rest
  | '\n' :: rest => skip rest
  | ' ' :: rest => skip rest
  | '\t' :: rest => skip rest
  | rest => rest

/-- The rest of a text that ends at the next `mark` on the same line. -/
def lineText (mark : Char) (escapes : Bool) : (fuel : Nat) → Parser (List Char)
  | 0 => failure
  | fuel + 1 => do
    let c ← one isLineChar
    if c = mark then return []
    else if escapes && c = '\\' then
      let shown ← escape
      return shown :: (← lineText mark escapes fuel)
    else return c :: (← lineText mark escapes fuel)

/-- The rest of a text over several lines, which ends at three marks. Up to two
marks right before those belong to the text. -/
def linesText (mark : Char) (escapes : Bool) : (fuel : Nat) → Parser (List Char)
  | 0 => failure
  | fuel + 1 => fun input =>
    let marks := input.takeWhile (· = mark)
    if 3 ≤ marks.length then
      if marks.length ≤ 5 then some (marks.drop 3, input.drop marks.length) else none
    else
      match input with
      | '\n' :: rest => (('\n' :: ·) <$> linesText mark escapes fuel) rest
      | '\r' :: '\n' :: rest => (('\n' :: ·) <$> linesText mark escapes fuel) rest
      | '\\' :: rest =>
        if escapes then
          match hiddenLineEnd rest with
          | some rest => linesText mark escapes fuel rest
          | none =>
            (do
              let shown ← escape
              return shown :: (← linesText mark escapes fuel) : Parser (List Char)) rest
        else (('\\' :: ·) <$> linesText mark escapes fuel) rest
      | c :: rest =>
        if isLineChar c then ((c :: ·) <$> linesText mark escapes fuel) rest else none
      | [] => none

/-- A text after its first mark, given whether it may use escapes. -/
def markedText (mark : Char) (escapes : Bool) : Parser String := fun input =>
  let fuel := input.length + 1
  match input with
  | first :: second :: rest =>
    if first = mark && second = mark then
      let rest := (newline rest).elim rest Prod.snd
      (String.ofList <$> linesText mark escapes fuel) rest
    else (String.ofList <$> lineText mark escapes fuel) input
  | _ => (String.ofList <$> lineText mark escapes fuel) input

/-- A text on one line, for keys. -/
def keyText (mark : Char) (escapes : Bool) : Parser String := fun input =>
  (String.ofList <$> lineText mark escapes (input.length + 1)) input

/-! ### Keys -/

/-- The characters of a key that stands without quotation marks. -/
def isKeyChar (c : Char) : Bool :=
  isDigit c || ('a' ≤ c && c ≤ 'z') || ('A' ≤ c && c ≤ 'Z') || c = '-' || c = '_'

/-- One part of a key. -/
def keyPart : Parser String := do
  match ← peek? with
  | some '"' => do
    let _ ← one fun _ => true
    keyText '"' true
  | some '\'' => do
    let _ ← one fun _ => true
    keyText '\'' false
  | _ => return String.ofList (← someOf isKeyChar)

/-- The most parts that a key has, and the deepest nesting of arrays and braces:
both stay below this bound. -/
def depthLimit : Nat := 80

/-- The parts of a key between points, with blanks around them, for at most so
many parts. -/
def keyParts : (limit : Nat) → Parser (List String)
  | 0 => failure
  | limit + 1 => do
    blanks
    let part ← keyPart
    blanks
    match ← peek? with
    | some '.' => do
      let _ ← one fun _ => true
      return part :: (← keyParts limit)
    | _ => return [part]

/-- A key: the parts before the last, and the last. -/
def keyPath : Parser (List String × String) := do
  let parts ← keyParts (depthLimit - 1)
  match parts.getLast? with
  | some key => return (parts.dropLast, key)
  | none => failure

/-! ### Numbers and dates -/

/-- Digits of a base, with single underscores between digits only. -/
def groupedDigits (base : Nat) (written : List Char) : Option (List Char) :=
  let digits := written.filter (· ≠ '_')
  let groups := written.splitOn '_'
  if written.isEmpty || groups.any (·.isEmpty) || !digits.all (isDigitOf base) then none
  else some digits

/-- The integers of 64 bits. -/
def inRange (value : Int) : Option Int :=
  if Int64.minValue.toInt ≤ value && value ≤ Int64.maxValue.toInt then some value else none

/-- A sign and what follows it. -/
def signed : List Char → Bool × List Char
  | '-' :: rest => (true, rest)
  | '+' :: rest => (false, rest)
  | rest => (false, rest)

/-- Digits of the whole part of a number: no zero in front of others. -/
def wholeDigits (written : List Char) : Option (List Char) := do
  let digits ← groupedDigits 10 written
  match written with
  | '0' :: _ :: _ => none
  | _ => some digits

/-- An integer in decimal notation. -/
def decimal? (literal : List Char) : Option Int := do
  let (negative, whole) := signed literal
  let value := ofDigits 10 (← wholeDigits whole)
  inRange (if negative then -(value : Int) else value)

/-- An integer in another base, without a sign. -/
def based? : List Char → Option Int
  | '0' :: 'x' :: digits => do inRange (ofDigits 16 (← groupedDigits 16 digits))
  | '0' :: 'o' :: digits => do inRange (ofDigits 8 (← groupedDigits 8 digits))
  | '0' :: 'b' :: digits => do inRange (ofDigits 2 (← groupedDigits 2 digits))
  | _ => none

/-- A number with a fraction or an exponent. -/
structure Decimal where
  whole : List Char
  fraction : List Char := []
  exponent : Int := 0
deriving DecidableEq, Repr, Inhabited

namespace Decimal

/-- The first number that is too great for a float of 64 bits: halfway between the
greatest float and the next power of two. -/
def bound : Nat := Nat.pow 2 1024 - Nat.pow 2 970

/-- Whether a number without its sign is too great for a float of 64 bits. Only
numbers of 309 digits before the point have to be compared with the bound. -/
def isTooGreat (decimal : Decimal) : Bool :=
  let digits := (decimal.whole ++ decimal.fraction).dropWhile (· = '0')
  let places := decimal.exponent - decimal.fraction.length
  let magnitude := digits.length + places
  if digits.isEmpty || magnitude < 309 then false
  else if 309 < magnitude then true
  else bound * Nat.pow 10 (-places).toNat ≤ ofDigits 10 digits * Nat.pow 10 places.toNat

end Decimal

/-- The exponent that follows a number: a letter, a sign perhaps, and digits. -/
def exponent? : List Char → Option Int
  | [] => some 0
  | letter :: written => do
    let (negative, unsigned) := signed written
    let value := ofDigits 10 (← groupedDigits 10 unsigned)
    if letter = 'e' || letter = 'E' then
      some (if negative then -(value : Int) else value)
    else none

/-- A number with a fraction or an exponent, without a sign. -/
def decimalFloat? (unsigned : List Char) : Option Decimal := do
  let isPart (c : Char) : Bool := isDigit c || c = '_'
  let whole ← wholeDigits (unsigned.takeWhile isPart)
  match unsigned.dropWhile isPart with
  | '.' :: rest =>
    let fraction ← groupedDigits 10 (rest.takeWhile isPart)
    let exponent ← exponent? (rest.dropWhile isPart)
    return { whole, fraction, exponent }
  | [] => none
  | rest =>
    let exponent ← exponent? rest
    return { whole, exponent }

/-- Whether a float is written: a number with a fraction or an exponent, which may
be too great only if it is negative, or one of the special values. -/
def isFloat (literal : List Char) : Bool :=
  let (negative, unsigned) := signed literal
  if unsigned = ['i', 'n', 'f'] || unsigned = ['n', 'a', 'n'] then true
  else
    match decimalFloat? unsigned with
    | some decimal => negative || !decimal.isTooGreat
    | none => false

/-- The number of days of a month. -/
def daysInMonth (year month : Nat) : Nat :=
  if month = 2 then
    if year % 4 = 0 && (year % 100 ≠ 0 || year % 400 = 0) then 29 else 28
  else if month = 4 || month = 6 || month = 9 || month = 11 then 30
  else 31

/-- A number of two digits within bounds. -/
def twoDigits (least greatest : Nat) : Parser Nat := do
  let value := ofDigits 10 (← fixedDigits 10 2)
  if least ≤ value && value ≤ greatest then return value else failure

/-- A day. -/
def date : Parser Unit := do
  let year := ofDigits 10 (← fixedDigits 10 4)
  exactly ['-']
  let month ← twoDigits 1 12
  exactly ['-']
  let _ ← twoDigits 1 (daysInMonth year month)

/-- A time of the day. -/
def time : Parser Unit := do
  let _ ← twoDigits 0 23
  exactly [':']
  let _ ← twoDigits 0 59
  exactly [':']
  let _ ← twoDigits 0 60
  match ← peek? with
  | some '.' => do
    let _ ← one fun _ => true
    let _ ← someOf isDigit
  | _ => return ()

/-- The distance of a time from universal time. -/
def offset : Parser Unit := do
  match ← one fun c => c = 'Z' || c = 'z' || c = '+' || c = '-' with
  | '+' | '-' => do
    let _ ← twoDigits 0 23
    exactly [':']
    let _ ← twoDigits 0 59
  | _ => return ()

/-- A day, a time, or both, the latter with or without an offset. -/
def isDate (literal : List Char) : Bool :=
  let whole (parser : Parser Unit) : Bool := ((do parser; ending : Parser Unit) literal).isSome
  let both : Parser Unit := do
    date
    let _ ← one fun c => c = 'T' || c = 't' || c = ' '
    time
  whole date || whole time || whole both || whole (do both; offset)

/-- The characters that numbers and dates are made of. -/
def isNumberChar (c : Char) : Bool :=
  isKeyChar c || c = '+' || c = '.' || c = ':'

/-- Whether a date is written so far, so that a time may follow after a blank. -/
def endsInDate (literal : List Char) : Bool :=
  ((do date; ending : Parser Unit) literal).isSome

/-- The characters of a number or a date. A blank belongs to it between a day and
a time. -/
def numberLiteral : Parser (List Char) := do
  let first ← span isNumberChar
  let input ← StateT.get
  match input with
  | ' ' :: c :: _ =>
    if endsInDate first && isDigit c then do
      let _ ← one isBlank
      let second ← span isNumberChar
      return first ++ [' '] ++ second
    else return first
  | _ => return first

/-- A number or a date. -/
def number : Parser Value := do
  let literal ← numberLiteral
  match (based? literal).or (decimal? literal) with
  | some value => return .integer value
  | none =>
    if isFloat literal then return .float (String.ofList literal)
    else if isDate literal then return .date (String.ofList literal)
    else failure

end CacheDirectory.Toml
