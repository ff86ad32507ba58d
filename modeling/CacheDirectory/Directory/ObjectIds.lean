/-
Module: CacheDirectory.Directory.ObjectIds
Purpose: Blocks of fresh object numbers, one after the other, none given twice.
Trusted boundary: none
Main exports: ObjectIds, ObjectIds.allocate
-/
import CacheDirectory.Directory.Error

namespace CacheDirectory

/-- The numbers from `next` on have not been handed out yet. -/
structure ObjectIds where
  next : ObjectId := 0
deriving DecidableEq, Repr, Inhabited

namespace ObjectIds

/-- Reserve the block of `count` numbers from `next` on and answer with its
first number. The number after the block must still be a number, so the counter
never wraps; a request that does not fit leaves it alone, and a smaller one may
still succeed. -/
def allocate (ids : ObjectIds) (count : Int32) : Except ArgumentError ObjectId × ObjectIds :=
  if count < 1 then (.error (.countBelowOne count), ids)
  else if ids.next.toInt + count.toInt ≤ Int64.maxValue.toInt then
    (.ok ids.next, ⟨ids.next + count.toInt64⟩)
  else (.error .objectIdsExhausted, ids)

end ObjectIds

end CacheDirectory
