/-
Module: CacheDirectory.Key.Text
Purpose: Keys and release requests in messages.
Trusted boundary: none
Main exports: BindingKey.text, Key.text, ReleaseRequest, ReleaseRequest.text
-/
import CacheDirectory.Access.Mode
import CacheDirectory.Text.Quoted

namespace CacheDirectory

/-- A place in the namespace in messages: a name in quotation marks, so that it
cannot be taken for the place after the last name. -/
def BindingKey.text : BindingKey → String
  | .name text => Text.quoted text
  | .ending => "<end>"

/-- A key in messages. -/
def Key.text : Key → String
  | .object oid => "oid:" ++ toString oid.toInt
  | .binding place => "name:" ++ place.text

/-- A request that `target` give up its access to `key`. -/
structure ReleaseRequest where
  target : NodeId
  key : Key
  release : Release
deriving DecidableEq, Repr, Inhabited

/-- A release request in messages. -/
def ReleaseRequest.text (request : ReleaseRequest) : String :=
  request.release.text ++ " " ++ request.key.text ++ " on " ++ request.target.text

end CacheDirectory
