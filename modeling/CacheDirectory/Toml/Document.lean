/-
Module: CacheDirectory.Toml.Document
Purpose: Documents: definitions, one on a line, below headers that name tables.
Trusted boundary: none
Main exports: Toml.document?
-/
import CacheDirectory.Toml.Scalar

namespace CacheDirectory.Toml

open Text Text.Parser

/-! ### Values -/

/-- Leave out blanks, line ends and comments. -/
def skipLines (inComment : Bool) : List Char → List Char
  | '\n' :: rest => skipLines false rest
  | '\r' :: '\n' :: rest => skipLines false rest
  | c :: rest =>
    if inComment then if isLineChar c then skipLines true rest else c :: rest
    else if isBlank c then skipLines false rest
    else if c = '#' then skipLines true rest
    else c :: rest
  | [] => []

/-- Blanks, line ends and comments. -/
def lines : Parser Unit := fun input => some ((), skipLines false input)

mutual

/-- A value that may nest to a depth. Every character and every level of nesting
takes some fuel. -/
def value (depth : Nat) : (fuel : Nat) → Parser Value
  | 0 => failure
  | fuel + 1 => do
    match ← peek? with
    | some '"' => do
      let _ ← one fun _ => true
      return .text (← markedText '"' true)
    | some '\'' => do
      let _ ← one fun _ => true
      return .text (← markedText '\'' false)
    | some '[' =>
      match depth with
      | 0 => failure
      | depth + 1 => do
        let _ ← one fun _ => true
        lines
        return .array (← items depth fuel)
    | some '{' =>
      match depth with
      | 0 => failure
      | depth + 1 => do
        let _ ← one fun _ => true
        blanks
        let definitions ← inlineDefinitions depth fuel
        let fields ← StateT.lift (Fields.defineAll definitions [])
        return .table .braces fields
    | some 't' => do
      exactly ['t', 'r', 'u', 'e']
      return .bool true
    | some 'f' => do
      exactly ['f', 'a', 'l', 's', 'e']
      return .bool false
    | _ => number
termination_by structural fuel => fuel

/-- The items of an array up to its end, with a comma after each but perhaps the
last. -/
def items (depth : Nat) : (fuel : Nat) → Parser (List Value)
  | 0 => failure
  | fuel + 1 => do
    match ← peek? with
    | some ']' => do
      let _ ← one fun _ => true
      return []
    | _ => do
      let item ← value depth fuel
      lines
      match ← one fun c => c = ',' || c = ']' with
      | ',' => do
        lines
        return item :: (← items depth fuel)
      | _ => return [item]
termination_by structural fuel => fuel

/-- The definitions between braces up to the closing one, which may follow at
once. -/
def inlineDefinitions (depth : Nat) : (fuel : Nat) → Parser (List Definition)
  | 0 => failure
  | fuel + 1 => do
    match ← peek? with
    | some '}' => do
      let _ ← one fun _ => true
      return []
    | _ => moreDefinitions depth fuel
termination_by structural fuel => fuel

/-- The definitions between braces, at least one, up to the closing brace. -/
def moreDefinitions (depth : Nat) : (fuel : Nat) → Parser (List Definition)
  | 0 => failure
  | fuel + 1 => do
    let (path, key) ← keyPath
    exactly ['=']
    blanks
    let content ← value depth fuel
    blanks
    match ← one fun c => c = ',' || c = '}' with
    | ',' => return ⟨path, key, content⟩ :: (← moreDefinitions depth fuel)
    | _ => return [⟨path, key, content⟩]
termination_by structural fuel => fuel

end

/-! ### Lines -/

/-- What may stand at the end of a line: blanks and a comment. -/
def lineEnd : Parser Unit := do
  blanks
  match ← peek? with
  | some '#' => do
    let _ ← span isLineChar
  | _ => pure ()
  match ← peek? with
  | none => return ()
  | _ => newline

/-- A line that says something. -/
inductive Line where
  | definition (definition : Definition)
  | table (path : List String) (key : String)
  | element (path : List String) (key : String)
deriving Repr, Inhabited

/-- One line, after any blank lines. -/
def line (fuel : Nat) : Parser Line := do
  let input ← StateT.get
  let found ← match input with
    | '[' :: '[' :: _ => do
      exactly ['[', '[']
      let (path, key) ← keyPath
      exactly [']', ']']
      pure (Line.element path key)
    | '[' :: _ => do
      exactly ['[']
      let (path, key) ← keyPath
      exactly [']']
      pure (Line.table path key)
    | _ => do
      let (path, key) ← keyPath
      exactly ['=']
      blanks
      let content ← value (depthLimit - 1) fuel
      pure (Line.definition ⟨path, key, content⟩)
  lineEnd
  return found

/-- All lines that say something, given fuel for each. -/
def allLines (perLine : Nat) : (fuel : Nat) → Parser (List Line)
  | 0 => failure
  | fuel + 1 => do
    lines
    match ← peek? with
    | none => return []
    | some _ => do
      let first ← line perLine
      return first :: (← allLines perLine fuel)

/-- The definitions right below a header, and the lines from the next header
on. -/
def underHeader (found : List Line) : List Definition × List Line :=
  let isDefinition : Line → Bool
    | .definition _ => true
    | _ => false
  let definitions := (found.takeWhile isDefinition).filterMap fun
    | .definition definition => some definition
    | _ => none
  (definitions, found.dropWhile isDefinition)

/-- Put together the tables of a document, header by header. -/
def assemble : (fuel : Nat) → List Line → Fields → Option Fields
  | 0, _, _ => none
  | fuel + 1, found, fields =>
    match found with
    | [] => some fields
    | .definition definition :: rest => do
      let fields ← Fields.define definition.key definition.value definition.path fields
      assemble fuel rest fields
    | .table path key :: rest => do
      let (definitions, rest) := underHeader rest
      let fields ← Fields.openTable path key definitions fields
      assemble fuel rest fields
    | .element path key :: rest => do
      let (definitions, rest) := underHeader rest
      let fields ← Fields.openElement path key definitions fields
      assemble fuel rest fields

/-- A mark of the byte order at the start of a document means nothing. -/
def withoutByteOrderMark : List Char → List Char
  | '\ufeff' :: rest => rest
  | input => input

/-- The fields of a document, if it is one. -/
def document? (content : String) : Option Fields := do
  let input := withoutByteOrderMark content.toList
  let fuel := 2 * input.length + 2
  let (found, _) ← allLines fuel (input.length + 1) input
  assemble (found.length + 1) found []

end CacheDirectory.Toml
