/-
Module: CacheDirectory.Toml.Value
Purpose: The values of TOML documents, and how tables come about while a document
  is read: each table and each key may be defined once.
Trusted boundary: none
Main exports: Toml.Value, Toml.Fields, Fields.define, Fields.openTable,
  Fields.openElement
-/

namespace CacheDirectory.Toml

/-- How a table came about, which decides what may still be added to it. -/
inductive Origin where
  /-- By a header of its own. -/
  | header
  /-- On the path of a header: a header of its own may follow. -/
  | path
  /-- By a dotted key: further dotted keys may follow. -/
  | dotted
  /-- Between braces: nothing may follow. -/
  | braces
deriving DecidableEq, Repr, Inhabited

/-- A value. Numbers with a fraction and dates are kept as they were written. -/
inductive Value where
  | text (content : String)
  | integer (value : Int)
  | float (literal : String)
  | bool (value : Bool)
  | date (literal : String)
  | array (items : List Value)
  | table (origin : Origin) (fields : List (String × Value))
  /-- The tables of repeated headers, the last one first. -/
  | tables (items : List (List (String × Value)))
deriving Repr, Inhabited

/-- The fields of a table. -/
abbrev Fields := List (String × Value)

/-- A key and its value, as written; the key may have several parts. -/
structure Definition where
  path : List String
  key : String
  value : Value
deriving Repr, Inhabited

namespace Fields

/-- The value of a field. -/
def get? (fields : Fields) (key : String) : Option Value :=
  fields.lookup key

/-- Set a field, in its place if there is one and else at the end. -/
def set (key : String) (value : Value) : Fields → Fields
  | [] => [(key, value)]
  | field :: rest => if field.1 = key then (key, value) :: rest else field :: set key value rest

/-- Define `key` in the table that the dotted path leads to. A path creates the
tables it lacks. It may pass through tables that are not complete, but the table it
ends in must be the work of dotted keys alone. Nothing may be defined twice. -/
def define (key : String) (value : Value) : (path : List String) → Fields → Option Fields
  | [], fields => if (get? fields key).isSome then none else some (set key value fields)
  | part :: path, fields =>
    match get? fields part with
    | none => do
      let inner ← define key value path []
      return set part (.table .dotted inner) fields
    | some (.table .dotted inner) => do
      let inner ← define key value path inner
      return set part (.table .dotted inner) fields
    | some (.table .path inner) =>
      if path.isEmpty then none
      else do
        let inner ← define key value path inner
        return set part (.table .path inner) fields
    | some (.tables (last :: earlier)) =>
      if path.isEmpty then none
      else do
        let last ← define key value path last
        return set part (.tables (last :: earlier)) fields
    | some _ => none

/-- Make several definitions, one after the other. -/
def defineAll (definitions : List Definition) (fields : Fields) : Option Fields :=
  definitions.foldlM (fun fields definition =>
    define definition.key definition.value definition.path fields) fields

/-- Replace what stands under `key` in the table that the path of a header leads
to. The path creates the tables it lacks; it leads through every kind of table but
those between braces, and through the last of the tables of repeated headers. -/
def change (key : String) (update : Option Value → Option Value) :
    (path : List String) → Fields → Option Fields
  | [], fields => do
    let value ← update (get? fields key)
    return set key value fields
  | part :: path, fields =>
    match get? fields part with
    | none => do
      let inner ← change key update path []
      return set part (.table .path inner) fields
    | some (.table .braces _) => none
    | some (.table origin inner) => do
      let inner ← change key update path inner
      return set part (.table origin inner) fields
    | some (.tables (last :: earlier)) => do
      let last ← change key update path last
      return set part (.tables (last :: earlier)) fields
    | some _ => none

/-- Define the table under a header with the definitions below it. A table may
exist already only as part of the paths of other headers. -/
def openTable (path : List String) (key : String) (definitions : List Definition)
    (fields : Fields) : Option Fields :=
  change key (fun
    | none => (defineAll definitions []).map (.table .header)
    | some (.table .path inner) => (defineAll definitions inner).map (.table .header)
    | some _ => none) path fields

/-- Add the table under a repeated header with the definitions below it. -/
def openElement (path : List String) (key : String) (definitions : List Definition)
    (fields : Fields) : Option Fields :=
  change key (fun
    | none => (defineAll definitions []).map fun table => .tables [table]
    | some (.tables earlier) =>
      (defineAll definitions []).map fun table => .tables (table :: earlier)
    | some _ => none) path fields

end Fields

end CacheDirectory.Toml
