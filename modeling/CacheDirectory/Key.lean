/-
Module: CacheDirectory.Key
Purpose: What access is held on: objects by number, bindings by name, and the
  place after the last name.
Trusted boundary: none
Main exports: ObjectId, noObject, BindingKey, Key
-/
import CacheDirectory.Node

namespace CacheDirectory

open Std

/-- Contents of an object, or the serialised form of a class. -/
abbrev Bytes := List UInt8

/-- Number of an object. Stored objects have non-negative numbers. -/
abbrev ObjectId := Int64

/-- Stands for "no object" in an answer, and for "before the first object" in
a scan. -/
def noObject : ObjectId := -1

/-- A place in the ordered namespace of bindings: a name, or the place after
the last bound name. A lookup that runs off the end of the namespace still has
a place to take access on. -/
inductive BindingKey where
  | name (text : String)
  | ending
deriving DecidableEq, Repr, Inhabited

namespace BindingKey

/-- Names compare by their bytes, which for UTF-8 is the order of their
characters; the ending comes after every name. -/
protected def compare : BindingKey → BindingKey → Ordering
  | .name a, .name b => Ord.compare a b
  | .name _, .ending => .lt
  | .ending, .name _ => .gt
  | .ending, .ending => .eq

instance : Ord BindingKey := ⟨BindingKey.compare⟩

instance : OrientedOrd BindingKey where
  eq_swap {a b} := by
    match a, b with
    | .name _, .name _ => exact OrientedOrd.eq_swap (α := String)
    | .name _, .ending => rfl
    | .ending, .name _ => rfl
    | .ending, .ending => rfl

instance : TransOrd BindingKey where
  isLE_trans {a b c} first second := by
    match a, b, c with
    | .name _, .name _, .name _ => exact TransOrd.isLE_trans (α := String) first second
    | .name _, _, .ending => rfl
    | .ending, _, .ending => rfl
    | .ending, .name _, .name _ => cases first
    | .name _, .ending, .name _ => cases second
    | .ending, .ending, .name _ => cases second

instance : LawfulEqOrd BindingKey where
  compare_self {a} := by
    match a with
    | .name _ => exact ReflOrd.compare_self (α := String)
    | .ending => rfl
  eq_of_compare {a b} same := by
    match a, b with
    | .name _, .name _ =>
      exact congrArg BindingKey.name (LawfulEqOrd.eq_of_compare (α := String) same)
    | .name _, .ending => cases same
    | .ending, .name _ => cases same
    | .ending, .ending => rfl

/-- The place that a search for the next bound name ends at. -/
def ofNext : Option String → BindingKey
  | some text => .name text
  | none => .ending

/-- The name at this place, if it is one. -/
def name? : BindingKey → Option String
  | .name text => some text
  | .ending => none

/-- Whether this is the place after the last name. -/
def isEnding : BindingKey → Bool
  | .name _ => false
  | .ending => true

@[simp] theorem name?_ofNext (next : Option String) : (ofNext next).name? = next := by
  cases next <;> rfl

@[simp] theorem isEnding_ofNext (next : Option String) : (ofNext next).isEnding = next.isNone := by
  cases next <;> rfl

/-- Keys from the smallest to the greatest, equal ones in the order given. -/
def sorted (keys : List BindingKey) : List BindingKey :=
  keys.mergeSort fun a b => (compare a b).isLE

end BindingKey

/-- Anything the directory arbitrates access to. -/
inductive Key where
  | object (oid : ObjectId)
  | binding (place : BindingKey)
deriving DecidableEq, Repr, Inhabited

namespace Key

/-- Objects come before bindings; each kind has its own order. -/
protected def compare : Key → Key → Ordering
  | .object a, .object b => Ord.compare a b
  | .object _, .binding _ => .lt
  | .binding _, .object _ => .gt
  | .binding a, .binding b => Ord.compare a b

instance : Ord Key := ⟨Key.compare⟩

instance : OrientedOrd Key where
  eq_swap {a b} := by
    match a, b with
    | .object _, .object _ => exact OrientedOrd.eq_swap (α := ObjectId)
    | .object _, .binding _ => rfl
    | .binding _, .object _ => rfl
    | .binding _, .binding _ => exact OrientedOrd.eq_swap (α := BindingKey)

instance : TransOrd Key where
  isLE_trans {a b c} first second := by
    match a, b, c with
    | .object _, .object _, .object _ => exact TransOrd.isLE_trans (α := ObjectId) first second
    | .binding _, .binding _, .binding _ =>
      exact TransOrd.isLE_trans (α := BindingKey) first second
    | .object _, _, .binding _ => rfl
    | .binding _, .object _, .object _ => cases first
    | .binding _, .object _, .binding _ => cases first
    | .object _, .binding _, .object _ => cases second
    | .binding _, .binding _, .object _ => cases second

instance : LawfulEqOrd Key where
  compare_self {a} := by
    match a with
    | .object _ => exact ReflOrd.compare_self (α := ObjectId)
    | .binding _ => exact ReflOrd.compare_self (α := BindingKey)
  eq_of_compare {a b} same := by
    match a, b with
    | .object _, .object _ =>
      exact congrArg Key.object (LawfulEqOrd.eq_of_compare (α := ObjectId) same)
    | .object _, .binding _ => cases same
    | .binding _, .object _ => cases same
    | .binding _, .binding _ =>
      exact congrArg Key.binding (LawfulEqOrd.eq_of_compare (α := BindingKey) same)

/-- The object number of an object key. -/
def oid? : Key → Option ObjectId
  | .object oid => some oid
  | .binding _ => none

/-- The place of a binding key. -/
def place? : Key → Option BindingKey
  | .object _ => none
  | .binding place => some place

/-- Whether this is the key of an object. -/
def isObject : Key → Bool
  | .object _ => true
  | .binding _ => false

/-- Whether this is a place in the namespace of bindings. -/
def isBinding (key : Key) : Bool :=
  !key.isObject

end Key

end CacheDirectory
