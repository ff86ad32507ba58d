/-
Module: CacheDirectory.Service.Admin
Purpose: The admin interface: health, counters and nodes, each at its own path.
Trusted boundary: none
Main exports: AdminReply, Service.admin
-/
import CacheDirectory.Service.Basic
import CacheDirectory.Text.Json

namespace CacheDirectory

open Text

/-- The version of the program. -/
def version : String := "0.1.0"

/-- The version of the messages between nodes and the server. -/
def protocolVersion : Int := 1

/-- A reply of the admin interface: its status and its body. -/
structure AdminReply where
  status : Nat
  body : String
deriving DecidableEq, Repr, Inhabited

/-- A published page. -/
inductive AdminPage where
  | health
  | info
  | nodes
deriving DecidableEq, Repr, Inhabited

namespace AdminPage

/-- The page at a path. Paths are compared as they are written. -/
def ofPath? (path : String) : Option AdminPage :=
  if path = "/v1/health" then some .health
  else if path = "/v1/info" then some .info
  else if path = "/v1/nodes" then some .nodes
  else none

end AdminPage

/-- The counters as a document. -/
def Stats.json (stats : Stats) : Json :=
  .record [
    ("live_nodes", .number stats.liveNodes),
    ("locked_objects", .number stats.lockedObjects),
    ("locked_bindings", .number stats.lockedBindings),
    ("classes", .number stats.classes),
    ("next_object_id", .number stats.nextObjectId.toInt)]

/-- What is known of a node as a document. -/
def NodeInfo.json (node : NodeId) (info : NodeInfo) : Json :=
  .record [
    ("node_id", .number node.raw.toNat),
    ("identity", .text info.identity),
    ("update_queue_port", .number info.port.toNat),
    ("alive", .bool info.alive)]

namespace Service

variable {σ : Type}

/-- The contents of a page. -/
def page (service : Service σ) : AdminPage → Json
  | .health =>
    .record [("status", .text "ok"), ("version", .text version),
      ("protocol_version", .number protocolVersion)]
  | .info =>
    .record [("name", .text "dstore-server"), ("version", .text version),
      ("protocol_version", .number protocolVersion), ("directory", service.stats.json)]
  | .nodes => .list (service.directory.registry.all.map fun (node, info) => info.json node)

/-- The path of a request target, without the query and the fragment after
it. -/
def pathOf (target : String) : String :=
  String.ofList (target.toList.takeWhile fun c => c != '?' && c != '#')

/-- Reply to a request of the admin interface. Pages can only be read; reading
just the head of a page leaves the body out. -/
def admin (service : Service σ) (method target : String) : AdminReply :=
  match AdminPage.ofPath? (pathOf target) with
  | none => ⟨404, ""⟩
  | some page =>
    if method = "GET" then ⟨200, (service.page page).render⟩
    else if method = "HEAD" then ⟨200, ""⟩
    else ⟨405, ""⟩

end Service

end CacheDirectory
