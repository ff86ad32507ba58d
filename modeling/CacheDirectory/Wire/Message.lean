/-
Module: CacheDirectory.Wire.Message
Purpose: The messages between nodes and the server, each family with its tags
  and its layout.
Trusted boundary: none
Main exports: Access, Request, Response, CallbackMessage, Message
-/
import CacheDirectory.Directory.Bindings
import CacheDirectory.Directory.Objects
import CacheDirectory.Wire.Error

namespace CacheDirectory.Wire

/-! ### The messages -/

/-- A request for access, by a node that the message names beside it. -/
inductive Access where
  | getObject (oid : ObjectId)
  | getObjectForUpdate (oid : ObjectId)
  | upgradeObject (oid : ObjectId)
  | nextObjectId (after : ObjectId)
  | getBinding (name : String)
  | getBindingForUpdate (name : String)
  | getBindingForRemove (name : String)
  | nextBoundName (after : Option String)
deriving DecidableEq, Repr, Inhabited

/-- What a node asks of the server. -/
inductive Request where
  /-- The address is where the server sends release requests. -/
  | registerNode (callbackAddress : String)
  | newObjectIds (count : Int32)
  | access (node : NodeId) (what : Access)
  | getClassId (info : Bytes)
  | getClassInfo (id : Int32)
  | releaseObject (node : NodeId) (oid : ObjectId)
  | releaseBinding (node : NodeId) (place : BindingKey)
deriving DecidableEq, Repr, Inhabited

/-- What the server answers. Every request has one answer. -/
inductive Response where
  | registered (registration : Registration)
  | objectIds (first : ObjectId)
  | object (found : Option ObjectRead)
  | objectForUpdate (found : Option ObjectUpdate)
  | upgraded (downgrade : Bool)
  | nextObject (found : Option NextObject)
  | binding (result : BindingRead)
  | bindingForUpdate (result : BindingUpdate)
  | bindingForRemove (result : BindingRemoval)
  | nextBoundName (result : NextName)
  | classId (id : Int32)
  | classInfo (info : Option Bytes)
  | released (had : Bool)
  | error (cause : RemoteError)
deriving DecidableEq, Repr, Inhabited

/-- What the server sends to a node to have a key released, and the node's
answers. -/
inductive CallbackMessage where
  | release (key : Key) (kind : Release)
  | ack
  | refused (reason : String)
deriving DecidableEq, Repr, Inhabited

/-- A family of messages. The tag of a frame repeats which message of the family
it holds. -/
class Message (M : Type) where
  layout : Layout M
  tag : M → UInt8
  typeName : M → String

/-! ### Layouts of the parts -/

namespace Layout

/-- A node, by its number. -/
def nodeId : Layout NodeId :=
  word64.via NodeId.mk NodeId.raw

/-- A kind of release, by its number. -/
def release : Layout Release :=
  enumeration (fun release => if release.isEvict then 1 else 0) [.downgrade, .evict]

/-- A category of refusal, by its number. -/
def refusal : Layout Refusal :=
  enumeration Refusal.index Refusal.all

/-- A place in the namespace: a variant for names, one for the end. -/
def bindingKey : Layout BindingKey where
  write
    | .name name => writeVariant 0 (text.write name)
    | .ending => writeVariant 1 []
  read := do
    match ← readVariant 2 with
    | 0 => return .name (← text.read)
    | _ => return .ending

/-- A key: a variant for objects, one for bindings. -/
def key : Layout Key where
  write
    | .object oid => writeVariant 0 (int64.write oid)
    | .binding place => writeVariant 1 (bindingKey.write place)
  read := do
    match ← readVariant 2 with
    | 0 => return .object (← int64.read)
    | _ => return .binding (← bindingKey.read)

/-- Two flags: eviction, downgrade. -/
def conflicts : Layout Conflicts :=
  (bool.pair bool).via (fun (evict, downgrade) => ⟨evict, downgrade⟩)
    (fun conflicts => (conflicts.evict, conflicts.downgrade))

/-- A node and its port. -/
def registration : Layout Registration :=
  (nodeId.pair word16).via (fun (node, port) => ⟨node, port⟩)
    (fun registration => (registration.node, registration.port))

/-- Contents and a flag. -/
def objectRead : Layout ObjectRead :=
  (bytes.pair bool).via (fun (contents, evict) => ⟨contents, evict⟩)
    (fun result => (result.contents, result.evict))

/-- Contents and two flags. -/
def objectUpdate : Layout ObjectUpdate :=
  (bytes.pair conflicts).via (fun (contents, conflicts) => ⟨contents, conflicts⟩)
    (fun result => (result.contents, result.conflicts))

/-- An object before what was read of it. -/
def nextObject : Layout NextObject :=
  (int64.pair objectRead).via (fun (oid, object) => ⟨oid, object.contents, object.evict⟩)
    (fun result => (result.oid, ⟨result.contents, result.evict⟩))

/-- A name if there is one, its object and a flag. -/
def nextName : Layout NextName :=
  ((option text).pair (int64.pair bool)).via
    (fun (nextName, oid, evict) => ⟨nextName, oid, evict⟩)
    (fun result => (result.nextName, result.oid, result.evict))

/-- Whether the name is bound, before where it leads. -/
def bindingRead : Layout BindingRead :=
  (bool.pair nextName).via
    (fun (found, next) => ⟨found, next.nextName, next.oid, next.evict⟩)
    (fun result => (result.found, ⟨result.nextName, result.oid, result.evict⟩))

/-- Whether the name is bound, where it leads, and two flags. -/
def bindingUpdate : Layout BindingUpdate :=
  (bool.pair ((option text).pair (int64.pair conflicts))).via
    (fun (found, nextName, oid, conflicts) => ⟨found, nextName, oid, conflicts⟩)
    (fun result => (result.found, result.nextName, result.oid, result.conflicts))

/-- The same twice over: for the name and for the place after it. -/
def bindingRemoval : Layout BindingRemoval :=
  (bindingUpdate.pair (int64.pair conflicts)).via
    (fun (target, nextOid, nextConflicts) =>
      ⟨target.found, target.nextName, target.oid, target.conflicts, nextOid, nextConflicts⟩)
    (fun result =>
      (⟨result.found, result.nextName, result.oid, result.conflicts⟩, result.nextOid,
        result.nextConflicts))

/-- A category and a text. -/
def remoteError : Layout RemoteError :=
  (refusal.pair text).via (fun (refusal, message) => ⟨refusal, message⟩)
    (fun error => (error.refusal, error.message))

end Layout

/-! ### Requests -/

namespace Access

/-- The name of a request for access. -/
def typeName : Access → String
  | .getObject _ => "GetObject"
  | .getObjectForUpdate _ => "GetObjectForUpdate"
  | .upgradeObject _ => "UpgradeObject"
  | .nextObjectId _ => "NextObjectId"
  | .getBinding _ => "GetBinding"
  | .getBindingForUpdate _ => "GetBindingForUpdate"
  | .getBindingForRemove _ => "GetBindingForRemove"
  | .nextBoundName _ => "NextBoundName"

end Access

namespace Request

/-- The number of a request among the requests. -/
def index : Request → Nat
  | .registerNode _ => 0
  | .newObjectIds _ => 1
  | .access _ (.getObject _) => 2
  | .access _ (.getObjectForUpdate _) => 3
  | .access _ (.upgradeObject _) => 4
  | .access _ (.nextObjectId _) => 5
  | .access _ (.getBinding _) => 6
  | .access _ (.getBindingForUpdate _) => 7
  | .access _ (.getBindingForRemove _) => 8
  | .access _ (.nextBoundName _) => 9
  | .getClassId _ => 10
  | .getClassInfo _ => 11
  | .releaseObject _ _ => 12
  | .releaseBinding _ _ => 13

/-- The bytes of a request's fields. -/
def fields : Request → Bytes
  | .registerNode address => Layout.text.write address
  | .newObjectIds count => Layout.int32.write count
  | .access node (.getObject oid) => (Layout.nodeId.pair Layout.int64).write (node, oid)
  | .access node (.getObjectForUpdate oid) => (Layout.nodeId.pair Layout.int64).write (node, oid)
  | .access node (.upgradeObject oid) => (Layout.nodeId.pair Layout.int64).write (node, oid)
  | .access node (.nextObjectId oid) => (Layout.nodeId.pair Layout.int64).write (node, oid)
  | .access node (.getBinding name) => (Layout.nodeId.pair Layout.text).write (node, name)
  | .access node (.getBindingForUpdate name) => (Layout.nodeId.pair Layout.text).write (node, name)
  | .access node (.getBindingForRemove name) => (Layout.nodeId.pair Layout.text).write (node, name)
  | .access node (.nextBoundName after) =>
    (Layout.nodeId.pair (.option Layout.text)).write (node, after)
  | .getClassId info => Layout.bytes.write info
  | .getClassInfo id => Layout.int32.write id
  | .releaseObject node oid => (Layout.nodeId.pair Layout.int64).write (node, oid)
  | .releaseBinding node place => (Layout.nodeId.pair Layout.bindingKey).write (node, place)

/-- A node and the object it asks for. -/
def readObjectAccess (access : ObjectId → Access) : Reader Request := do
  let (node, oid) ← (Layout.nodeId.pair Layout.int64).read
  return .access node (access oid)

/-- A node and the name it asks for. -/
def readNameAccess (access : String → Access) : Reader Request := do
  let (node, name) ← (Layout.nodeId.pair Layout.text).read
  return .access node (access name)

/-- The fields of the request with a number below fourteen. -/
def readFields : Nat → Reader Request
  | 0 => return .registerNode (← Layout.text.read)
  | 1 => return .newObjectIds (← Layout.int32.read)
  | 2 => readObjectAccess .getObject
  | 3 => readObjectAccess .getObjectForUpdate
  | 4 => readObjectAccess .upgradeObject
  | 5 => readObjectAccess .nextObjectId
  | 6 => readNameAccess .getBinding
  | 7 => readNameAccess .getBindingForUpdate
  | 8 => readNameAccess .getBindingForRemove
  | 9 => do
    let (node, after) ← (Layout.nodeId.pair (.option Layout.text)).read
    return .access node (.nextBoundName after)
  | 10 => return .getClassId (← Layout.bytes.read)
  | 11 => return .getClassInfo (← Layout.int32.read)
  | 12 => do
    let (node, oid) ← (Layout.nodeId.pair Layout.int64).read
    return .releaseObject node oid
  | _ => do
    let (node, place) ← (Layout.nodeId.pair Layout.bindingKey).read
    return .releaseBinding node place

/-- The name of a request. -/
def typeName : Request → String
  | .registerNode _ => "RegisterNode"
  | .newObjectIds _ => "NewObjectIds"
  | .access _ what => what.typeName
  | .getClassId _ => "GetClassId"
  | .getClassInfo _ => "GetClassInfo"
  | .releaseObject _ _ => "ReleaseObject"
  | .releaseBinding _ _ => "ReleaseBinding"

/-- Requests have the tags from 1 to 14. -/
instance : Message Request where
  layout :=
    { write := fun request => Layout.writeVariant request.index request.fields
      read := do readFields (← Layout.readVariant 14) }
  tag request := UInt8.ofNat (request.index + 1)
  typeName := typeName

end Request

/-! ### Responses -/

namespace Response

/-- The number of a response among the responses. -/
def index : Response → Nat
  | .registered _ => 0
  | .objectIds _ => 1
  | .object _ => 2
  | .objectForUpdate _ => 3
  | .upgraded _ => 4
  | .nextObject _ => 5
  | .binding _ => 6
  | .bindingForUpdate _ => 7
  | .bindingForRemove _ => 8
  | .nextBoundName _ => 9
  | .classId _ => 10
  | .classInfo _ => 11
  | .released _ => 12
  | .error _ => 13

/-- The bytes of a response's fields. -/
def fields : Response → Bytes
  | .registered registration => Layout.registration.write registration
  | .objectIds first => Layout.int64.write first
  | .object found => (Layout.option .objectRead).write found
  | .objectForUpdate found => (Layout.option .objectUpdate).write found
  | .upgraded downgrade => Layout.bool.write downgrade
  | .nextObject found => (Layout.option .nextObject).write found
  | .binding result => Layout.bindingRead.write result
  | .bindingForUpdate result => Layout.bindingUpdate.write result
  | .bindingForRemove result => Layout.bindingRemoval.write result
  | .nextBoundName result => Layout.nextName.write result
  | .classId id => Layout.int32.write id
  | .classInfo info => (Layout.option .bytes).write info
  | .released had => Layout.bool.write had
  | .error cause => Layout.remoteError.write cause

/-- The fields of the response with a number below fourteen. -/
def readFields : Nat → Reader Response
  | 0 => return .registered (← Layout.registration.read)
  | 1 => return .objectIds (← Layout.int64.read)
  | 2 => return .object (← (Layout.option .objectRead).read)
  | 3 => return .objectForUpdate (← (Layout.option .objectUpdate).read)
  | 4 => return .upgraded (← Layout.bool.read)
  | 5 => return .nextObject (← (Layout.option .nextObject).read)
  | 6 => return .binding (← Layout.bindingRead.read)
  | 7 => return .bindingForUpdate (← Layout.bindingUpdate.read)
  | 8 => return .bindingForRemove (← Layout.bindingRemoval.read)
  | 9 => return .nextBoundName (← Layout.nextName.read)
  | 10 => return .classId (← Layout.int32.read)
  | 11 => return .classInfo (← (Layout.option .bytes).read)
  | 12 => return .released (← Layout.bool.read)
  | _ => return .error (← Layout.remoteError.read)

/-- The name of a response. -/
def typeName : Response → String
  | .registered _ => "Registered"
  | .objectIds _ => "ObjectIds"
  | .object _ => "Object"
  | .objectForUpdate _ => "ObjectForUpdate"
  | .upgraded _ => "Upgraded"
  | .nextObject _ => "NextObject"
  | .binding _ => "Binding"
  | .bindingForUpdate _ => "BindingForUpdate"
  | .bindingForRemove _ => "BindingForRemove"
  | .nextBoundName _ => "NextBoundName"
  | .classId _ => "ClassId"
  | .classInfo _ => "ClassInfo"
  | .released _ => "Released"
  | .error _ => "Error"

/-- Responses have the tags from 101 to 113, a refusal has the greatest tag of
all. -/
def tag : Response → UInt8
  | .error _ => 255
  | response => UInt8.ofNat (response.index + 101)

instance : Message Response where
  layout :=
    { write := fun response => Layout.writeVariant response.index response.fields
      read := do readFields (← Layout.readVariant 14) }
  tag := tag
  typeName := typeName

end Response

/-! ### Release requests and their answers -/

namespace CallbackMessage

/-- The number of a message among the three. -/
def index : CallbackMessage → Nat
  | .release _ _ => 0
  | .ack => 1
  | .refused _ => 2

/-- The bytes of a message's fields. -/
def fields : CallbackMessage → Bytes
  | .release key kind => (Layout.key.pair .release).write (key, kind)
  | .ack => []
  | .refused reason => Layout.text.write reason

/-- The fields of the message with a number below three. -/
def readFields : Nat → Reader CallbackMessage
  | 0 => do
    let (key, kind) ← (Layout.key.pair .release).read
    return .release key kind
  | 1 => return .ack
  | _ => return .refused (← Layout.text.read)

/-- The name of a message. -/
def typeName : CallbackMessage → String
  | .release _ _ => "Release"
  | .ack => "Ack"
  | .refused _ => "Refused"

/-- These messages have the tags from 201 to 203. -/
instance : Message CallbackMessage where
  layout :=
    { write := fun message => Layout.writeVariant message.index message.fields
      read := do readFields (← Layout.readVariant 3) }
  tag message := UInt8.ofNat (message.index + 201)
  typeName := typeName

end CallbackMessage

end CacheDirectory.Wire
