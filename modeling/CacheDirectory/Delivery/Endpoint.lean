/-
Module: CacheDirectory.Delivery.Endpoint
Purpose: The far end of a release request: how a node behaves when it is asked,
  one request after the other.
Trusted boundary: none
Main exports: CallbackError, Behaviour, Endpoint, Endpoints
-/
import CacheDirectory.Key.Text

namespace CacheDirectory

open Std

/-- Why a node did not release what it was asked to. -/
inductive CallbackError where
  | unreachable (detail : String)
  | refused (reason : String)
  | malformed (detail : String)
deriving DecidableEq, Repr, Inhabited

/-- The wording of a failed release request. -/
def CallbackError.message : CallbackError → String
  | .unreachable detail => "callback endpoint unreachable: " ++ detail
  | .refused reason => "callback refused by node: " ++ reason
  | .malformed detail => "malformed callback exchange: " ++ detail

/-- What a node does when it is asked to release a key: acknowledge after some
milliseconds, fail at once, or die. -/
inductive Behaviour where
  | acknowledge (after : Nat)
  | fail (error : CallbackError)
  | die
deriving DecidableEq, Repr, Inhabited

/-- A node as the sender of release requests sees it: what it does on the next
requests, what it does on all later ones, and the requests it has received. -/
structure Endpoint where
  script : List Behaviour := []
  afterwards : Behaviour := .acknowledge 0
  received : List (Key × Release) := []
deriving DecidableEq, Repr, Inhabited

namespace Endpoint

/-- Ask a node to release a key. -/
def request (endpoint : Endpoint) (key : Key) (release : Release) : Behaviour × Endpoint :=
  let received := endpoint.received ++ [(key, release)]
  match endpoint.script with
  | next :: script => (next, { endpoint with script, received })
  | [] => (endpoint.afterwards, { endpoint with received })

/-- The requests received since they were last taken out. -/
def takeReceived (endpoint : Endpoint) : List (Key × Release) × Endpoint :=
  (endpoint.received, { endpoint with received := [] })

end Endpoint

/-- The far ends of all nodes. -/
abbrev Endpoints := ExtTreeMap NodeId Endpoint

namespace Endpoints

/-- Ask `node` to release a key. A node that has no far end here cannot be
reached. -/
def request (endpoints : Endpoints) (node : NodeId) (key : Key) (release : Release) :
    Behaviour × Endpoints :=
  match endpoints[node]? with
  | none => (.fail (.unreachable "no route to node"), endpoints)
  | some endpoint =>
    let (behaviour, asked) := endpoint.request key release
    (behaviour, endpoints.insert node asked)

/-- The requests that `node` received since they were last taken out. -/
def takeReceived (endpoints : Endpoints) (node : NodeId) :
    List (Key × Release) × Endpoints :=
  match endpoints[node]? with
  | none => ([], endpoints)
  | some endpoint =>
    let (received, rest) := endpoint.takeReceived
    (received, endpoints.insert node rest)

end Endpoints

end CacheDirectory
