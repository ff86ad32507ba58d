/-
Module: CacheDirectory.Registry
Purpose: Which nodes ever registered, which of them live, and the update-queue
  port of each.
Trusted boundary: none
Main exports: NodeInfo, PortRange, Registry, RegistryError, Registry.register,
  Registry.markDead
-/
import CacheDirectory.Node
import Std.Data.ExtTreeSet

namespace CacheDirectory

open Std

/-- The ports from `first` to `last`, both included. There are none if `first`
is after `last`. -/
structure PortRange where
  first : UInt16
  last : UInt16
deriving DecidableEq, Repr, Inhabited

namespace PortRange

/-- The number of ports in a range. -/
def size (range : PortRange) : Nat :=
  range.last.toNat + 1 - range.first.toNat

/-- The ports of a range, from the smallest. -/
def toList (range : PortRange) : List UInt16 :=
  (List.range' range.first.toNat range.size).map UInt16.ofNat

/-- A range in messages. -/
def text (range : PortRange) : String :=
  toString range.first.toNat ++ "..=" ++ toString range.last.toNat

end PortRange

/-- What is known of a node. `identity` names the machine behind it; a node that
died never lives again. -/
structure NodeInfo where
  identity : String
  port : UInt16
  alive : Bool
deriving DecidableEq, Repr, Inhabited

/-- What a node receives when it registers. -/
structure Registration where
  node : NodeId
  port : UInt16
deriving DecidableEq, Repr, Inhabited

/-- Why a node could not register. -/
inductive RegistryError where
  | duplicate (identity : String) (existing : NodeId)
  | portsExhausted (range : PortRange)
deriving DecidableEq, Repr, Inhabited

/-- The table of all nodes. `live` finds the living node of an identity, and
`freePorts` are the ports of the range that no living node owns. -/
structure Registry where
  range : PortRange
  nextRaw : UInt64
  nodes : ExtTreeMap NodeId NodeInfo
  live : ExtTreeMap String NodeId
  freePorts : ExtTreeSet UInt16

namespace Registry

/-- A registry in which nobody has registered yet. Numbers start at one. -/
def new (range : PortRange) : Registry where
  range := range
  nextRaw := 1
  nodes := ∅
  live := ∅
  freePorts := ExtTreeSet.ofList range.toList

instance : Inhabited Registry := ⟨new default⟩

/-- Whether `node` registered and lives. -/
def isLive (registry : Registry) (node : NodeId) : Bool :=
  (registry.nodes[node]?.map (·.alive)).getD false

/-- Register the node behind `identity`: it gets the next number and the
smallest free port. One machine is at most one living node. -/
def register (registry : Registry) (identity : String) :
    Except RegistryError Registration × Registry :=
  match registry.live[identity]? with
  | some existing => (.error (.duplicate identity existing), registry)
  | none =>
    match registry.freePorts.toList.head? with
    | none => (.error (.portsExhausted registry.range), registry)
    | some port =>
      let node : NodeId := ⟨registry.nextRaw⟩
      ( .ok ⟨node, port⟩,
        { registry with
          nextRaw := registry.nextRaw + 1
          nodes := registry.nodes.insert node ⟨identity, port, true⟩
          live := registry.live.insert identity node
          freePorts := registry.freePorts.erase port } )

/-- Declare `node` dead, which returns its port. The answer is whether it
lived. -/
def markDead (registry : Registry) (node : NodeId) : Bool × Registry :=
  match registry.nodes[node]? with
  | none => (false, registry)
  | some info =>
    if info.alive then
      ( true,
        { registry with
          nodes := registry.nodes.insert node { info with alive := false }
          live := registry.live.erase info.identity
          freePorts := registry.freePorts.insert info.port } )
    else (false, registry)

/-- Declare several nodes dead, one after the other. -/
def markAllDead (registry : Registry) (nodes : List NodeId) : Registry :=
  nodes.foldl (fun current node => (current.markDead node).2) registry

/-- The machine behind a living node. -/
def endpoint? (registry : Registry) (node : NodeId) : Option String :=
  registry.nodes[node]?.bind fun info => if info.alive then some info.identity else none

/-- Every node that ever registered, in the order of registration. -/
def all (registry : Registry) : List (NodeId × NodeInfo) :=
  registry.nodes.toList

/-- The number of living nodes. -/
def liveCount (registry : Registry) : Nat :=
  registry.live.size

/-- The summary of a registry in logs. -/
def summary (registry : Registry) : String :=
  "NodeRegistry \x7b ports: " ++ registry.range.text ++
    ", live: " ++ toString registry.liveCount ++ " \x7d"

end Registry

end CacheDirectory
