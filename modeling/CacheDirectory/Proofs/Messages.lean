/-
Module: CacheDirectory.Proofs.Messages
Purpose: The three families of messages: their layouts are faithful, and the tag of a
  message tells its family.
Trusted boundary: none
Main exports: Request.faithful, Response.faithful, CallbackMessage.faithful, Family,
  Family.Carried, Family.faithful, Family.ofTag?_tag
-/
import CacheDirectory.Proofs.Layouts
import CacheDirectory.Wire.Message

namespace CacheDirectory.Wire

/-! ### The parts of messages -/

namespace Layout

theorem faithful_nodeId : nodeId.Faithful :=
  faithful_word64.via (fun _ => rfl) fun _ => rfl

theorem faithful_release : release.Faithful :=
  faithful_enumeration (by decide) (fun value => by cases value <;> rfl) (by decide)

theorem faithful_refusal : refusal.Faithful :=
  faithful_enumeration (by decide) (fun value => by cases value <;> rfl) (by decide)

theorem faithful_bindingKey : bindingKey.Faithful where
  yields value short := by
    cases value with
    | name text =>
      simp only [bindingKey, writeVariant, List.length_append] at short
      have content := faithful_text.yields text (by omega)
      exact (yields_variant (by decide) (by decide)).bind (content.map BindingKey.name)
    | ending =>
      exact (yields_variant (by decide) (by decide)).bind (Reader.yields_pure BindingKey.ending)
  written read := by
    obtain ⟨number, left, first, more⟩ := Reader.bind_eq_ok.mp read
    obtain ⟨small, rfl⟩ := readVariant_eq_ok first
    cases number with
    | zero =>
      obtain ⟨text, rfl, rfl⟩ := faithful_text.field_eq_ok BindingKey.name more
      exact (List.append_assoc ..).symm
    | succ number =>
      obtain rfl : number = 0 := by omega
      obtain ⟨rfl, rfl⟩ := Reader.pure_eq_ok.mp more
      rfl

theorem faithful_key : key.Faithful where
  yields value short := by
    cases value with
    | object oid =>
      simp only [key, writeVariant, List.length_append] at short
      have content := faithful_int64.yields oid (by omega)
      exact (yields_variant (by decide) (by decide)).bind (content.map Key.object)
    | binding place =>
      simp only [key, writeVariant, List.length_append] at short
      have content := faithful_bindingKey.yields place (by omega)
      exact (yields_variant (by decide) (by decide)).bind (content.map Key.binding)
  written read := by
    obtain ⟨number, left, first, more⟩ := Reader.bind_eq_ok.mp read
    obtain ⟨small, rfl⟩ := readVariant_eq_ok first
    cases number with
    | zero =>
      obtain ⟨oid, rfl, rfl⟩ := faithful_int64.field_eq_ok Key.object more
      exact (List.append_assoc ..).symm
    | succ number =>
      obtain rfl : number = 0 := by omega
      obtain ⟨place, rfl, rfl⟩ := faithful_bindingKey.field_eq_ok Key.binding more
      exact (List.append_assoc ..).symm

theorem faithful_conflicts : conflicts.Faithful :=
  (faithful_bool.pair faithful_bool).via (fun _ => rfl) fun _ => rfl

theorem faithful_registration : registration.Faithful :=
  (faithful_nodeId.pair faithful_word16).via (fun _ => rfl) fun _ => rfl

theorem faithful_objectRead : objectRead.Faithful :=
  (faithful_bytes.pair faithful_bool).via (fun _ => rfl) fun _ => rfl

theorem faithful_objectUpdate : objectUpdate.Faithful :=
  (faithful_bytes.pair faithful_conflicts).via (fun _ => rfl) fun _ => rfl

theorem faithful_nextObject : nextObject.Faithful :=
  (faithful_int64.pair faithful_objectRead).via (fun _ => rfl) fun _ => rfl

theorem faithful_nextName : nextName.Faithful :=
  (faithful_text.option.pair (faithful_int64.pair faithful_bool)).via (fun _ => rfl) fun _ => rfl

theorem faithful_bindingRead : bindingRead.Faithful :=
  (faithful_bool.pair faithful_nextName).via (fun _ => rfl) fun _ => rfl

theorem faithful_bindingUpdate : bindingUpdate.Faithful :=
  (faithful_bool.pair (faithful_text.option.pair (faithful_int64.pair faithful_conflicts))).via
    (fun _ => rfl) fun _ => rfl

theorem faithful_bindingRemoval : bindingRemoval.Faithful :=
  (faithful_bindingUpdate.pair (faithful_int64.pair faithful_conflicts)).via (fun _ => rfl)
    fun _ => rfl

theorem faithful_remoteError : remoteError.Faithful :=
  (faithful_refusal.pair faithful_text).via (fun _ => rfl) fun _ => rfl

end Layout

open Layout

/-! ### Requests -/

namespace Request

theorem index_lt (request : Request) : request.index < 14 := by
  cases request with
  | access node what => cases what <;> simp only [index, Nat.reduceLT]
  | _ => simp only [index, Nat.reduceLT]

theorem yields_objectAccess (what : ObjectId → Access) (node : NodeId) (oid : ObjectId)
    (short : ((nodeId.pair int64).write (node, oid)).length < UInt64.size) :
    (readObjectAccess what).Yields ((nodeId.pair int64).write (node, oid))
      (access node (what oid)) := by
  have fields := (faithful_nodeId.pair faithful_int64).yields (node, oid) short
  have whole := fields.map fun asked => access asked.1 (what asked.2)
  exact whole

theorem yields_nameAccess (what : String → Access) (node : NodeId) (name : String)
    (short : ((nodeId.pair text).write (node, name)).length < UInt64.size) :
    (readNameAccess what).Yields ((nodeId.pair text).write (node, name))
      (access node (what name)) := by
  have fields := (faithful_nodeId.pair faithful_text).yields (node, name) short
  have whole := fields.map fun asked => access asked.1 (what asked.2)
  exact whole

/-- The fields of each request are read back. -/
theorem yields_fields (request : Request) (short : request.fields.length < UInt64.size) :
    (readFields request.index).Yields request.fields request := by
  cases request with
  | registerNode address => exact (faithful_text.yields address short).map registerNode
  | newObjectIds count => exact (faithful_int32.yields count short).map newObjectIds
  | access node what =>
    cases what with
    | getObject oid => exact yields_objectAccess .getObject node oid short
    | getObjectForUpdate oid => exact yields_objectAccess .getObjectForUpdate node oid short
    | upgradeObject oid => exact yields_objectAccess .upgradeObject node oid short
    | nextObjectId after => exact yields_objectAccess .nextObjectId node after short
    | getBinding name => exact yields_nameAccess .getBinding node name short
    | getBindingForUpdate name => exact yields_nameAccess .getBindingForUpdate node name short
    | getBindingForRemove name => exact yields_nameAccess .getBindingForRemove node name short
    | nextBoundName after =>
      have fields := (faithful_nodeId.pair faithful_text.option).yields (node, after) short
      exact fields.map fun asked => access asked.1 (.nextBoundName asked.2)
  | getClassId info => exact (faithful_bytes.yields info short).map getClassId
  | getClassInfo id => exact (faithful_int32.yields id short).map getClassInfo
  | releaseObject node oid =>
    have fields := (faithful_nodeId.pair faithful_int64).yields (node, oid) short
    exact fields.map fun given => releaseObject given.1 given.2
  | releaseBinding node place =>
    have fields := (faithful_nodeId.pair faithful_bindingKey).yields (node, place) short
    exact fields.map fun given => releaseBinding given.1 given.2

/-- Requests for the same kind of access are read alike, whatever is asked of the
object. -/
theorem objectAccess_eq_ok {what : ObjectId → Access} {input rest : Bytes} {request : Request}
    (read : readObjectAccess what input = .ok (request, rest)) :
    ∃ node oid, access node (what oid) = request ∧
      input = (nodeId.pair int64).write (node, oid) ++ rest := by
  obtain ⟨asked, same, written⟩ := (faithful_nodeId.pair faithful_int64).field_eq_ok
    (fun asked => access asked.1 (what asked.2)) read
  exact ⟨asked.1, asked.2, same, written⟩

theorem nameAccess_eq_ok {what : String → Access} {input rest : Bytes} {request : Request}
    (read : readNameAccess what input = .ok (request, rest)) :
    ∃ node name, access node (what name) = request ∧
      input = (nodeId.pair text).write (node, name) ++ rest := by
  obtain ⟨asked, same, written⟩ := (faithful_nodeId.pair faithful_text).field_eq_ok
    (fun asked => access asked.1 (what asked.2)) read
  exact ⟨asked.1, asked.2, same, written⟩

/-- The fields read under a number are those of a request with that number. -/
theorem fields_eq_ok {number : Nat} (small : number < 14) {input rest : Bytes} {request : Request}
    (read : readFields number input = .ok (request, rest)) :
    request.index = number ∧ input = request.fields ++ rest := by
  match number, small with
  | 0, _ =>
    obtain ⟨address, rfl, written⟩ := faithful_text.field_eq_ok registerNode read
    exact ⟨rfl, written⟩
  | 1, _ =>
    obtain ⟨count, rfl, written⟩ := faithful_int32.field_eq_ok newObjectIds read
    exact ⟨rfl, written⟩
  | 2, _ | 3, _ | 4, _ | 5, _ =>
    obtain ⟨node, oid, rfl, written⟩ := objectAccess_eq_ok read
    exact ⟨rfl, written⟩
  | 6, _ | 7, _ | 8, _ =>
    obtain ⟨node, name, rfl, written⟩ := nameAccess_eq_ok read
    exact ⟨rfl, written⟩
  | 9, _ =>
    obtain ⟨asked, rfl, written⟩ := (faithful_nodeId.pair faithful_text.option).field_eq_ok
      (fun asked => access asked.1 (.nextBoundName asked.2)) read
    exact ⟨rfl, written⟩
  | 10, _ =>
    obtain ⟨info, rfl, written⟩ := faithful_bytes.field_eq_ok getClassId read
    exact ⟨rfl, written⟩
  | 11, _ =>
    obtain ⟨id, rfl, written⟩ := faithful_int32.field_eq_ok getClassInfo read
    exact ⟨rfl, written⟩
  | 12, _ =>
    obtain ⟨given, rfl, written⟩ := (faithful_nodeId.pair faithful_int64).field_eq_ok
      (fun given => releaseObject given.1 given.2) read
    exact ⟨rfl, written⟩
  | 13, _ =>
    obtain ⟨given, rfl, written⟩ := (faithful_nodeId.pair faithful_bindingKey).field_eq_ok
      (fun given => releaseBinding given.1 given.2) read
    exact ⟨rfl, written⟩

theorem faithful : (Message.layout (M := Request)).Faithful :=
  Faithful.variants (by decide) index_lt yields_fields fun _ small => fields_eq_ok small

end Request

/-! ### Responses -/

namespace Response

theorem index_lt (response : Response) : response.index < 14 := by
  cases response <;> simp only [index, Nat.reduceLT]

/-- The fields of each response are read back. -/
theorem yields_fields (response : Response) (short : response.fields.length < UInt64.size) :
    (readFields response.index).Yields response.fields response := by
  cases response with
  | registered result => exact (faithful_registration.yields result short).map registered
  | objectIds first => exact (faithful_int64.yields first short).map objectIds
  | object found => exact (faithful_objectRead.option.yields found short).map object
  | objectForUpdate found =>
    exact (faithful_objectUpdate.option.yields found short).map objectForUpdate
  | upgraded downgrade => exact (faithful_bool.yields downgrade short).map upgraded
  | nextObject found => exact (faithful_nextObject.option.yields found short).map nextObject
  | binding result => exact (faithful_bindingRead.yields result short).map binding
  | bindingForUpdate result =>
    exact (faithful_bindingUpdate.yields result short).map bindingForUpdate
  | bindingForRemove result =>
    exact (faithful_bindingRemoval.yields result short).map bindingForRemove
  | nextBoundName result => exact (faithful_nextName.yields result short).map nextBoundName
  | classId id => exact (faithful_int32.yields id short).map classId
  | classInfo info => exact (faithful_bytes.option.yields info short).map classInfo
  | released had => exact (faithful_bool.yields had short).map released
  | error cause => exact (faithful_remoteError.yields cause short).map error

/-- The fields read under a number are those of a response with that number. -/
theorem fields_eq_ok {number : Nat} (small : number < 14) {input rest : Bytes}
    {response : Response} (read : readFields number input = .ok (response, rest)) :
    response.index = number ∧ input = response.fields ++ rest := by
  match number, small with
  | 0, _ =>
    obtain ⟨field, rfl, written⟩ := faithful_registration.field_eq_ok registered read
    exact ⟨rfl, written⟩
  | 1, _ =>
    obtain ⟨field, rfl, written⟩ := faithful_int64.field_eq_ok objectIds read
    exact ⟨rfl, written⟩
  | 2, _ =>
    obtain ⟨field, rfl, written⟩ := faithful_objectRead.option.field_eq_ok object read
    exact ⟨rfl, written⟩
  | 3, _ =>
    obtain ⟨field, rfl, written⟩ := faithful_objectUpdate.option.field_eq_ok objectForUpdate read
    exact ⟨rfl, written⟩
  | 4, _ =>
    obtain ⟨field, rfl, written⟩ := faithful_bool.field_eq_ok upgraded read
    exact ⟨rfl, written⟩
  | 5, _ =>
    obtain ⟨field, rfl, written⟩ := faithful_nextObject.option.field_eq_ok nextObject read
    exact ⟨rfl, written⟩
  | 6, _ =>
    obtain ⟨field, rfl, written⟩ := faithful_bindingRead.field_eq_ok binding read
    exact ⟨rfl, written⟩
  | 7, _ =>
    obtain ⟨field, rfl, written⟩ := faithful_bindingUpdate.field_eq_ok bindingForUpdate read
    exact ⟨rfl, written⟩
  | 8, _ =>
    obtain ⟨field, rfl, written⟩ := faithful_bindingRemoval.field_eq_ok bindingForRemove read
    exact ⟨rfl, written⟩
  | 9, _ =>
    obtain ⟨field, rfl, written⟩ := faithful_nextName.field_eq_ok nextBoundName read
    exact ⟨rfl, written⟩
  | 10, _ =>
    obtain ⟨field, rfl, written⟩ := faithful_int32.field_eq_ok classId read
    exact ⟨rfl, written⟩
  | 11, _ =>
    obtain ⟨field, rfl, written⟩ := faithful_bytes.option.field_eq_ok classInfo read
    exact ⟨rfl, written⟩
  | 12, _ =>
    obtain ⟨field, rfl, written⟩ := faithful_bool.field_eq_ok released read
    exact ⟨rfl, written⟩
  | 13, _ =>
    obtain ⟨field, rfl, written⟩ := faithful_remoteError.field_eq_ok error read
    exact ⟨rfl, written⟩

theorem faithful : (Message.layout (M := Response)).Faithful :=
  Faithful.variants (by decide) index_lt yields_fields fun _ small => fields_eq_ok small

end Response

/-! ### Release requests and their answers -/

namespace CallbackMessage

theorem index_lt (message : CallbackMessage) : message.index < 3 := by
  cases message <;> simp only [index, Nat.reduceLT]

/-- The fields of each message are read back. -/
theorem yields_fields (message : CallbackMessage) (short : message.fields.length < UInt64.size) :
    (readFields message.index).Yields message.fields message := by
  cases message with
  | release key kind =>
    have fields := (faithful_key.pair faithful_release).yields (key, kind) short
    exact fields.map fun asked => release asked.1 asked.2
  | ack => exact Reader.yields_pure ack
  | refused reason => exact (faithful_text.yields reason short).map refused

/-- The fields read under a number are those of a message with that number. -/
theorem fields_eq_ok {number : Nat} (small : number < 3) {input rest : Bytes}
    {message : CallbackMessage} (read : readFields number input = .ok (message, rest)) :
    message.index = number ∧ input = message.fields ++ rest := by
  match number, small with
  | 0, _ =>
    obtain ⟨asked, rfl, written⟩ := (faithful_key.pair faithful_release).field_eq_ok
      (fun asked => release asked.1 asked.2) read
    exact ⟨rfl, written⟩
  | 1, _ =>
    obtain ⟨rfl, rfl⟩ := Reader.pure_eq_ok.mp read
    exact ⟨rfl, rfl⟩
  | 2, _ =>
    obtain ⟨reason, rfl, written⟩ := faithful_text.field_eq_ok refused read
    exact ⟨rfl, written⟩

theorem faithful : (Message.layout (M := CallbackMessage)).Faithful :=
  Faithful.variants (by decide) index_lt yields_fields fun _ small => fields_eq_ok small

end CallbackMessage

/-! ### Families -/

/-- The families of messages: what nodes ask, what the server answers, and what both
say about releases. -/
inductive Family where
  | request
  | response
  | callback
deriving DecidableEq, Repr, Inhabited

namespace Family

/-- The messages of a family. -/
abbrev Carried : Family → Type
  | .request => Request
  | .response => Response
  | .callback => CallbackMessage

instance (family : Family) : Message family.Carried :=
  match family with
  | .request => inferInstanceAs (Message Request)
  | .response => inferInstanceAs (Message Response)
  | .callback => inferInstanceAs (Message CallbackMessage)

/-- The layout of every family is faithful. -/
theorem faithful (family : Family) : (Message.layout (M := family.Carried)).Faithful :=
  match family with
  | .request => Request.faithful
  | .response => Response.faithful
  | .callback => CallbackMessage.faithful

/-- The family whose messages have a tag. -/
def ofTag? (tag : UInt8) : Option Family :=
  if 1 ≤ tag ∧ tag ≤ 14 then some .request
  else if 101 ≤ tag ∧ tag ≤ 113 ∨ tag = 255 then some .response
  else if 201 ≤ tag ∧ tag ≤ 203 then some .callback
  else none

/-- The tag of a message tells its family. -/
theorem ofTag?_tag {family : Family} (message : family.Carried) :
    ofTag? (Message.tag message) = some family := by
  match family, message with
  | .request, .access _ what => cases what <;> rfl
  | .request, .registerNode _ | .request, .newObjectIds _ | .request, .getClassId _
  | .request, .getClassInfo _ | .request, .releaseObject _ _ | .request, .releaseBinding _ _ => rfl
  | .response, (message : Response) => cases message <;> rfl
  | .callback, (message : CallbackMessage) => cases message <;> rfl

end Family

end CacheDirectory.Wire
