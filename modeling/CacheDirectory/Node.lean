/-
Module: CacheDirectory.Node
Purpose: Identity of a cache node, with its order and its printed form.
Trusted boundary: none
Main exports: NodeId, NodeId.text
-/
import Std.Data.ExtTreeMap

namespace CacheDirectory

open Std

/-- Identity of a registered cache node. Identities are handed out in
increasing order and never twice, so the raw number also tells which of two
nodes registered first. -/
structure NodeId where
  raw : UInt64
deriving DecidableEq, Repr, Inhabited

namespace NodeId

/-- Nodes are ordered by the number they were given. -/
instance : Ord NodeId := ⟨fun a b => compare a.raw b.raw⟩

instance : OrientedOrd NodeId where
  eq_swap := OrientedOrd.eq_swap (α := UInt64)

instance : TransOrd NodeId where
  isLE_trans first second := TransOrd.isLE_trans (α := UInt64) first second

instance : LawfulEqOrd NodeId where
  compare_self := ReflOrd.compare_self (α := UInt64)
  eq_of_compare {a b} same := by
    cases a
    cases b
    exact congrArg NodeId.mk (LawfulEqOrd.eq_of_compare (α := UInt64) same)

instance : OfNat NodeId n := ⟨⟨OfNat.ofNat n⟩⟩

/-- The name of a node in messages. -/
def text (node : NodeId) : String :=
  "node-" ++ toString node.raw.toNat

end NodeId

end CacheDirectory
