/-
Module: CacheDirectory.Directory.Classes
Purpose: Numbers for serialised classes: equal bytes have one number, and it
  never changes.
Trusted boundary: none
Main exports: Classes, Classes.intern, Classes.info
-/
import CacheDirectory.Directory.Error

namespace CacheDirectory

open Std

/-- The classes seen so far, found by their bytes and by their number. -/
structure Classes where
  ids : ExtTreeMap Bytes Int32 := ∅
  infos : ExtTreeMap Int32 Bytes := ∅
  nextId : Int32 := 1

instance : Inhabited Classes := ⟨{}⟩

namespace Classes

/-- The number of a class, the next unused one if its bytes are new. The greatest
number is never assigned. -/
def intern (classes : Classes) (info : Bytes) : Except ArgumentError Int32 × Classes :=
  match classes.ids[info]? with
  | some id => (.ok id, classes)
  | none =>
    if classes.nextId = Int32.maxValue then (.error .classIdsExhausted, classes)
    else
      ( .ok classes.nextId,
        { ids := classes.ids.insert info classes.nextId
          infos := classes.infos.insert classes.nextId info
          nextId := classes.nextId + 1 } )

/-- The bytes of the class with a number, if it has been assigned. Numbers are
positive. -/
def info (classes : Classes) (id : Int32) : Except ArgumentError (Option Bytes) :=
  if id ≤ 0 then .error (.classIdNotPositive id) else .ok classes.infos[id]?

/-- The number of classes seen. -/
def size (classes : Classes) : Nat :=
  classes.infos.size

end Classes

end CacheDirectory
