/-
Module: CacheDirectory.Service.Basic
Purpose: The service that nodes use: the directory in front of a store, the
  object numbers and the classes, with one operation for each request.
Trusted boundary: none
Main exports: Service, Request.Result, Service.perform, Service.dispatch
-/
import CacheDirectory.Delivery.Schedule
import CacheDirectory.Directory.Classes
import CacheDirectory.Directory.ObjectIds
import CacheDirectory.Wire.Message

namespace CacheDirectory

open Wire

/-- State of the service. -/
structure Service (σ : Type) where
  world : World σ
  ids : ObjectIds := {}
  classes : Classes := {}
  settings : DeliverySettings := {}

/-! ### What each request is answered with -/

/-- What a request for access yields. -/
abbrev Wire.Access.Result : Access → Type
  | .getObject _ => Option ObjectRead
  | .getObjectForUpdate _ => Option ObjectUpdate
  | .upgradeObject _ => Bool
  | .nextObjectId _ => Option NextObject
  | .getBinding _ => BindingRead
  | .getBindingForUpdate _ => BindingUpdate
  | .getBindingForRemove _ => BindingRemoval
  | .nextBoundName _ => NextName

/-- The operation behind a request for access. -/
def Wire.Access.action {σ : Type} [Backing σ] (node : NodeId) :
    (access : Access) → Action σ access.Result
  | .getObject oid => Action.getObject node oid
  | .getObjectForUpdate oid => Action.getObjectForUpdate node oid
  | .upgradeObject oid => Action.upgradeObject node oid
  | .nextObjectId after => Action.nextObject node after
  | .getBinding name => Action.getBinding node name
  | .getBindingForUpdate name => Action.getBindingForUpdate node name
  | .getBindingForRemove name => Action.getBindingForRemove node name
  | .nextBoundName after => Action.nextBoundName node after

/-- The response that carries what a request for access yields. -/
def Wire.Access.response : (access : Access) → access.Result → Response
  | .getObject _, result => .object result
  | .getObjectForUpdate _, result => .objectForUpdate result
  | .upgradeObject _, result => .upgraded result
  | .nextObjectId _, result => .nextObject result
  | .getBinding _, result => .binding result
  | .getBindingForUpdate _, result => .bindingForUpdate result
  | .getBindingForRemove _, result => .bindingForRemove result
  | .nextBoundName _, result => .nextBoundName result

/-- What a request yields. -/
abbrev Wire.Request.Result : Request → Type
  | .registerNode _ => Registration
  | .newObjectIds _ => ObjectId
  | .access _ what => what.Result
  | .getClassId _ => Int32
  | .getClassInfo _ => Option Bytes
  | .releaseObject _ _ => Bool
  | .releaseBinding _ _ => Bool

/-- The response that carries what a request yields. -/
def Wire.Request.response : (request : Request) → request.Result → Response
  | .registerNode _, result => .registered result
  | .newObjectIds _, result => .objectIds result
  | .access _ what, result => what.response result
  | .getClassId _, result => .classId result
  | .getClassInfo _, result => .classInfo result
  | .releaseObject _ _, result => .released result
  | .releaseBinding _ _, result => .released result

namespace Service

variable {σ : Type}

/-- A service over a store, in which nobody has registered yet. -/
def new (range : PortRange) (settings : DeliverySettings) (store : σ) : Service σ :=
  { world := { directory := Directory.new range .collecting, store }, settings }

/-- The directory of a service. -/
def directory (service : Service σ) : Directory :=
  service.world.directory

/-- Replace the directory of a service. -/
def withDirectory (service : Service σ) (directory : Directory) : Service σ :=
  { service with world := { service.world with directory } }

/-- Perform an operation of the directory. -/
def act {α : Type} (service : Service σ) (action : Action σ α) :
    Except DirectoryError α × Service σ :=
  let (outcome, world) := action.perform service.world
  (outcome, { service with world })

/-- Give up access to a key at the node's own wish. -/
def giveUp (node : NodeId) (key : Key) : Action σ Bool := do
  Action.requireLive node
  Action.release node key

/-- Perform one request. -/
def perform [Backing σ] (service : Service σ) :
    (request : Request) → Except DirectoryError request.Result × Service σ
  | .registerNode address =>
    let (outcome, directory) := service.directory.register address
    (outcome, service.withDirectory directory)
  | .newObjectIds count =>
    let (outcome, ids) := service.ids.allocate count
    (outcome.mapError .invalidArgument, { service with ids })
  | .access node what => service.act (what.action node)
  | .getClassId info =>
    let (outcome, classes) := service.classes.intern info
    (outcome.mapError .invalidArgument, { service with classes })
  | .getClassInfo id => ((service.classes.info id).mapError .invalidArgument, service)
  | .releaseObject node oid =>
    service.act do
      Action.requireArgument (0 ≤ oid) (.releaseOfNegativeObject oid)
      giveUp node (.object oid)
  | .releaseBinding node place => service.act (giveUp node (.binding place))

/-- Answer one request. A refusal is an answer too. -/
def dispatch [Backing σ] (service : Service σ) (request : Request) : Response × Service σ :=
  match service.perform request with
  | (.ok result, service) => (request.response result, service)
  | (.error cause, service) => (.error (RemoteError.ofDirectory cause), service)

/-- Declare `node` dead and take all its access. The answer is whether it
lived. -/
def nodeFailed (service : Service σ) (node : NodeId) : Bool × Service σ :=
  let (lived, directory) := service.directory.nodeFailed node
  (lived, service.withDirectory directory)

/-- Deliver the pending release requests to the nodes behind `endpoints`. -/
def settle (service : Service σ) (endpoints : Endpoints) (draws : Nat → UInt64 := fun _ => 0) :
    Service σ × Endpoints :=
  let site := Site.settle service.settings { directory := service.directory, endpoints } draws
  (service.withDirectory site.directory, site.endpoints)

end Service

/-- The counters that the service publishes. -/
structure Stats where
  liveNodes : Nat
  lockedObjects : Nat
  lockedBindings : Nat
  classes : Nat
  nextObjectId : ObjectId
deriving DecidableEq, Repr, Inhabited

namespace Service

variable {σ : Type}

/-- The counters of a service. -/
def stats (service : Service σ) : Stats where
  liveNodes := service.directory.registry.liveCount
  lockedObjects := service.directory.table.count Key.isObject
  lockedBindings := service.directory.table.count Key.isBinding
  classes := service.classes.size
  nextObjectId := service.ids.next

/-- The summary of a service in logs. -/
def summary (service : Service σ) : String :=
  let stats := service.stats
  "CachingDataStore \x7b stats: DirectoryStats \x7b live_nodes: " ++ toString stats.liveNodes ++
    ", locked_objects: " ++ toString stats.lockedObjects ++
    ", locked_bindings: " ++ toString stats.lockedBindings ++
    ", classes: " ++ toString stats.classes ++
    ", next_object_id: " ++ toString stats.nextObjectId.toInt ++ " \x7d \x7d"

end Service

end CacheDirectory
