/-
Module: CacheDirectory.Directory.Error
Purpose: Why the directory refuses a request, one constructor for each cause.
Trusted boundary: none
Main exports: ArgumentError, DirectoryError, DirectoryError.message
-/
import CacheDirectory.Key.Text
import CacheDirectory.Registry
import CacheDirectory.Store.Basic

namespace CacheDirectory

/-- What is wrong with an argument, whatever the state. -/
inductive ArgumentError where
  | negativeObject (oid : ObjectId)
  | scanBeforeStart (oid : ObjectId)
  | releaseOfNegativeObject (oid : ObjectId)
  | countBelowOne (count : Int32)
  | objectIdsExhausted
  | classIdNotPositive (id : Int32)
  | classIdsExhausted
deriving DecidableEq, Repr, Inhabited

/-- The wording of a bad argument. -/
def ArgumentError.message : ArgumentError → String
  | .negativeObject oid => "object ID must not be negative, got " ++ toString oid.toInt
  | .scanBeforeStart oid => "object ID must be -1 or greater, got " ++ toString oid.toInt
  | .releaseOfNegativeObject oid => "object id " ++ toString oid.toInt ++ " is negative"
  | .countBelowOne count => "object ID count must be at least 1, got " ++ toString count.toInt
  | .objectIdsExhausted => "object ID space exhausted"
  | .classIdNotPositive id => "class ID must be greater than 0, got " ++ toString id.toInt
  | .classIdsExhausted => "class ID space exhausted"

/-- Why the directory refused. -/
inductive DirectoryError where
  /-- The node never registered or is dead. -/
  | unknownNode (node : NodeId)
  | invalidArgument (cause : ArgumentError)
  /-- The node asked to upgrade a read access that it does not have. -/
  | upgradeWithoutRead (node : NodeId) (key : Key)
  | registration (cause : RegistryError)
  /-- The store failed while the request was being resolved. -/
  | store (cause : StoreError)
deriving DecidableEq, Repr, Inhabited

/-- The wording of a refused registration. -/
def RegistryError.message : RegistryError → String
  | .duplicate identity existing =>
    "node " ++ identity ++ " already registered as " ++ existing.text
  | .portsExhausted range => "no free update queue port in " ++ range.text

/-- The wording of a refusal. -/
def DirectoryError.message : DirectoryError → String
  | .unknownNode node => "unknown node: " ++ node.text
  | .invalidArgument cause => "invalid argument: " ++ cause.message
  | .upgradeWithoutRead node key =>
    "cache consistency violation by " ++ node.text ++ " on " ++ key.text ++
      ": upgrade requested without read access"
  | .registration cause => cause.message
  | .store cause => "store error: " ++ cause.message

end CacheDirectory
