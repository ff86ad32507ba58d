/-
Module: CacheDirectory.Access.Mode
Purpose: How a node may hold a key, and what it can be asked to give up.
Trusted boundary: none
Main exports: Mode, Release, Mode.forfeit
-/
import CacheDirectory.Key

namespace CacheDirectory

/-- How a node holds a key. Writing includes reading, so writing is the
stronger of the two. -/
inductive Mode where
  | read
  | write
deriving DecidableEq, Repr, Inhabited, Ord

namespace Mode

/-- Whether the holder may change what the key names. -/
def isWrite : Mode → Bool
  | .read => false
  | .write => true

/-- The stronger of two modes. -/
instance : Max Mode :=
  ⟨fun a b => if a.isWrite then a else b⟩

/-- The word for a mode in messages. -/
def text : Mode → String
  | .read => "read"
  | .write => "write"

end Mode

/-- What a holder is asked to give up. An eviction is the stronger request:
the holder drops its copy. A downgrade asks it to stop reading a copy that is
about to be rewritten. Either way it keeps no access in the directory. -/
inductive Release where
  | downgrade
  | evict
deriving DecidableEq, Repr, Inhabited, Ord

namespace Release

/-- Whether the holder is to drop its copy entirely. -/
def isEvict : Release → Bool
  | .downgrade => false
  | .evict => true

/-- The stronger of two requests. -/
instance : Max Release :=
  ⟨fun a b => if a.isEvict then a else b⟩

/-- The word for a request in messages. -/
def text : Release → String
  | .downgrade => "downgrade"
  | .evict => "evict"

end Release

/-- What a holder that is displaced is asked to give up: a writer its copy, a
reader only the right to read it. -/
def Mode.forfeit : Mode → Release
  | .read => .downgrade
  | .write => .evict

end CacheDirectory
