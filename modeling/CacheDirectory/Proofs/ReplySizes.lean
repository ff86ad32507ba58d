/-
Module: CacheDirectory.Proofs.ReplySizes
Purpose: How large the answers of a service are whose store holds nothing. All are brief
  but two: the contents of a class, and the refusal of a registration, which repeats the
  address of the node.
Trusted boundary: none
Main exports: DirectoryError.Brief, Response.Brief, Action.Answers, Service.Overflows,
  Service.fits_iff_not_overflows
-/
import CacheDirectory.Connection.Session
import CacheDirectory.Proofs.FrameGrammar
import CacheDirectory.Proofs.SteadyStore
import Mathlib.Data.Nat.Digits.Defs

namespace CacheDirectory

open Wire

/-! ### Texts -/

namespace Text

theorem utf8ByteSize_append_le {first second : String} {bound rest : Nat}
    (one : first.utf8ByteSize ≤ bound) (other : second.utf8ByteSize ≤ rest) :
    (first ++ second).utf8ByteSize ≤ bound + rest := by
  rw [String.utf8ByteSize_append]
  omega

theorem utf8ByteSize_ofList_le (chars : List Char) :
    (String.ofList chars).utf8ByteSize ≤ 4 * chars.length := by
  induction chars with
  | nil => simp [String.ofList_nil]
  | cons first rest ih =>
      have split : String.ofList (first :: rest) = String.singleton first ++ String.ofList rest := by
        rw [String.singleton_eq_ofList, ← String.ofList_append]
        rfl
      have one := first.utf8Size_le_four
      rw [split, String.utf8ByteSize_append, String.utf8ByteSize_singleton, List.length_cons]
      omega

/-- The decimal form of a number that is not too large is short. -/
theorem utf8ByteSize_nat_le {number : Nat} (bounded : number < 10 ^ 20) :
    (toString number).utf8ByteSize ≤ 80 := by
  have digits : (Nat.toDigits 10 number).length ≤ 20 :=
    Nat.toDigits_length 10 number 20 (by omega) bounded
  have size := utf8ByteSize_ofList_le (Nat.toDigits 10 number)
  change (String.ofList (Nat.toDigits 10 number)).utf8ByteSize ≤ 80
  omega

theorem utf8ByteSize_int_le {number : Int} (bounded : number.natAbs < 10 ^ 20) :
    (toString number).utf8ByteSize ≤ 81 := by
  cases number with
  | ofNat magnitude => exact Nat.le_succ_of_le (utf8ByteSize_nat_le bounded)
  | negSucc magnitude =>
      have below : magnitude + 1 < 10 ^ 20 := bounded
      have sign : "-".utf8ByteSize ≤ 1 := by decide +kernel
      exact utf8ByteSize_append_le sign (utf8ByteSize_nat_le below)

theorem utf8ByteSize_int64_le (number : Int64) : (toString number.toInt).utf8ByteSize ≤ 81 := by
  have upper := number.toInt_lt
  have lower := number.le_toInt
  exact utf8ByteSize_int_le (by omega)

theorem utf8ByteSize_int32_le (number : Int32) : (toString number.toInt).utf8ByteSize ≤ 81 := by
  have upper := number.toInt_lt
  have lower := number.le_toInt
  exact utf8ByteSize_int_le (by omega)

end Text

/-! ### Refusals -/

theorem NodeId.utf8ByteSize_text_le (node : NodeId) : node.text.utf8ByteSize ≤ 85 := by
  have bounded := node.raw.toNat_lt
  have label : "node-".utf8ByteSize ≤ 5 := by decide +kernel
  exact Text.utf8ByteSize_append_le label (Text.utf8ByteSize_nat_le (by omega))

theorem PortRange.utf8ByteSize_text_le (range : PortRange) : range.text.utf8ByteSize ≤ 163 := by
  have port (number : UInt16) : (toString number.toNat).utf8ByteSize ≤ 80 := by
    have bounded := number.toNat_lt
    exact Text.utf8ByteSize_nat_le (by omega)
  have label : "..=".utf8ByteSize ≤ 3 := by decide +kernel
  exact Text.utf8ByteSize_append_le (Text.utf8ByteSize_append_le (port range.first) label)
    (port range.last)

theorem ArgumentError.utf8ByteSize_message_le (cause : ArgumentError) :
    cause.message.utf8ByteSize ≤ 130 := by
  have labelled {label number : String} (short : label.utf8ByteSize ≤ 40)
      (decimal : number.utf8ByteSize ≤ 81) : (label ++ number).utf8ByteSize ≤ 121 :=
    Text.utf8ByteSize_append_le short decimal
  cases cause with
  | objectIdsExhausted | classIdsExhausted => decide +kernel
  | negativeObject oid | scanBeforeStart oid =>
      exact (labelled (by decide +kernel) (Text.utf8ByteSize_int64_le oid)).trans (by omega)
  | countBelowOne number | classIdNotPositive number =>
      exact (labelled (by decide +kernel) (Text.utf8ByteSize_int32_le number)).trans (by omega)
  | releaseOfNegativeObject oid =>
      have before : "object id ".utf8ByteSize ≤ 10 := by decide +kernel
      have behind : " is negative".utf8ByteSize ≤ 12 := by decide +kernel
      exact (Text.utf8ByteSize_append_le (Text.utf8ByteSize_append_le before
        (Text.utf8ByteSize_int64_le oid)) behind).trans (by omega)

/-- The refusal is worded briefly, whatever was asked. -/
def DirectoryError.Brief (cause : DirectoryError) : Prop :=
  cause.message.utf8ByteSize ≤ 300

namespace DirectoryError

theorem brief_unknownNode (node : NodeId) : (unknownNode node).Brief := by
  have label : "unknown node: ".utf8ByteSize ≤ 14 := by decide +kernel
  exact (Text.utf8ByteSize_append_le label node.utf8ByteSize_text_le).trans (by omega)

theorem brief_invalidArgument (cause : ArgumentError) : (invalidArgument cause).Brief := by
  have label : "invalid argument: ".utf8ByteSize ≤ 18 := by decide +kernel
  exact (Text.utf8ByteSize_append_le label cause.utf8ByteSize_message_le).trans (by omega)

theorem brief_portsExhausted (range : PortRange) :
    (registration (.portsExhausted range)).Brief := by
  have label : "no free update queue port in ".utf8ByteSize ≤ 29 := by decide +kernel
  exact (Text.utf8ByteSize_append_le label range.utf8ByteSize_text_le).trans (by omega)

theorem brief_upgradeWithoutRead (node : NodeId) (oid : ObjectId) :
    (upgradeWithoutRead node (.object oid)).Brief := by
  have first : "cache consistency violation by ".utf8ByteSize ≤ 31 := by decide +kernel
  have second : " on ".utf8ByteSize ≤ 4 := by decide +kernel
  have third : "oid:".utf8ByteSize ≤ 4 := by decide +kernel
  have fourth : ": upgrade requested without read access".utf8ByteSize ≤ 39 := by decide +kernel
  have key := Text.utf8ByteSize_append_le third (Text.utf8ByteSize_int64_le oid)
  have begins := Text.utf8ByteSize_append_le first node.utf8ByteSize_text_le
  exact (Text.utf8ByteSize_append_le (Text.utf8ByteSize_append_le
    (Text.utf8ByteSize_append_le begins second) key) fourth).trans (by omega)

/-- The refusal of a registration repeats the address. -/
theorem utf8ByteSize_duplicate (address : String) (existing : NodeId) :
    (registration (.duplicate address existing)).message.utf8ByteSize =
      address.utf8ByteSize + existing.text.utf8ByteSize + 28 := by
  have parts (first second third fourth : String) :
      (first ++ second ++ third ++ fourth).utf8ByteSize =
        second.utf8ByteSize + fourth.utf8ByteSize + (first.utf8ByteSize + third.utf8ByteSize) := by
    simp only [String.utf8ByteSize_append]
    omega
  have before : "node ".utf8ByteSize = 5 := by decide +kernel
  have between : " already registered as ".utf8ByteSize = 23 := by decide +kernel
  refine (parts "node " address " already registered as " existing.text).trans ?_
  rw [before, between]

end DirectoryError

/-- The outcome satisfies `brief`, or is a brief refusal. -/
def Briefly {α : Type} (brief : α → Prop) : Except DirectoryError α → Prop
  | .ok result => brief result
  | .error cause => cause.Brief

/-! ### Answers of operations -/

namespace Action

variable {α β : Type}

/-- Over a store that holds nothing the operation comes to something `brief`. -/
def Answers (action : Action Store α) (brief : α → Prop) : Prop :=
  ∀ world, world.store = {} → Briefly brief (action.perform world).1

theorem Answers.bind {action : Action Store α} {next : α → Action Store β} {between : α → Prop}
    {brief : β → Prop} (steadily : action.Obeys SameStore) (first : action.Answers between)
    (continues : ∀ result, between result → (next result).Answers brief) :
    (action >>= next).Answers brief := by
  intro world empty
  have before := first world empty
  have same := steadily world
  rw [perform_bind]
  rcases ran : action.perform world with ⟨outcome, later⟩
  rw [ran] at before same
  cases outcome with
  | ok result => exact continues result before later (same.trans empty)
  | error cause => exact before

theorem answers_pure {brief : α → Prop} {result : α} (holds : brief result) :
    (pure result : Action Store α).Answers brief :=
  fun _ _ => holds

theorem answers_requireLive (node : NodeId) :
    (requireLive node : Action Store Unit).Answers fun _ => True := by
  intro world _
  rw [perform_requireLive, Registry.check]
  cases world.directory.registry.isLive node with
  | true => trivial
  | false => exact DirectoryError.brief_unknownNode node

theorem answers_requireArgument (acceptable : Bool) (cause : ArgumentError) :
    (requireArgument acceptable cause : Action Store Unit).Answers fun _ => True := by
  intro world _
  rw [perform_requireArgument]
  cases acceptable with
  | true => trivial
  | false => exact DirectoryError.brief_invalidArgument cause

theorem answers_grant (node : NodeId) (key : Key) (mode : Mode) :
    (grant node key mode : Action Store Conflicts).Answers fun _ => True := by
  intro world _
  rw [perform_grant]
  cases world.directory.registry.isLive node with
  | true => trivial
  | false => exact DirectoryError.brief_unknownNode node

/-- What a lookup finds in a store that holds nothing. -/
theorem answers_lookup {read : Store → Reading α × Store} {answer : α}
    (reads : (read {}).1.outcome = .ok answer) :
    (lookup read : Action Store α).Answers fun found => found = answer := by
  intro world empty
  rw [perform_lookup, empty, reads]
  rfl

theorem answers_takeObject (node : NodeId) (oid : ObjectId) (mode : Mode) :
    (takeObject node oid mode : Action Store _).Answers fun taken => taken = none := by
  apply Answers.bind (steady.requireArgument _ _) (answers_requireArgument _ _)
  intro _ _
  apply Answers.bind (steady.requireLive node) (answers_requireLive node)
  intro _ _
  apply Answers.bind (steady.object _) (answers_lookup rfl)
  rintro _ rfl
  exact answers_pure rfl

/-- Where no name is bound, every lookup of a name ends at the ending. -/
theorem answers_resolve (name : String) :
    (resolve name : Action Store _).Answers fun landing => landing = .ofNext none := by
  apply Answers.bind (steady.binding _) (answers_lookup rfl)
  rintro _ rfl
  apply Answers.bind (steady.nextBinding _) (answers_lookup rfl)
  rintro _ rfl
  exact answers_pure rfl

theorem answers_takeNext (node : NodeId) (name : String) :
    (takeNext node name : Action Store _).Answers fun taken => taken.1 = .ofNext none := by
  apply Answers.bind (steady.nextBinding _) (answers_lookup rfl)
  rintro _ rfl
  apply Answers.bind (steady.grant _ _ _) (answers_grant _ _ _)
  intro _ _
  exact answers_pure rfl

end Action

/-! ### Responses -/

namespace Wire.Layout

theorem length_word64 (value : UInt64) : (word64.write value).length = 8 :=
  length_littleEndian 8 _

theorem length_text (value : String) : (text.write value).length = 8 + value.utf8ByteSize := by
  change (word64.write _ ++ Text.utf8 value).length = _
  rw [List.length_append, length_word64]
  rfl

theorem length_bytes (value : Bytes) : (bytes.write value).length = 8 + value.length := by
  change (word64.write _ ++ value).length = _
  rw [List.length_append, length_word64]

end Wire.Layout

/-- The fields of the response take few bytes, whatever was asked. -/
def Wire.Response.Brief (response : Response) : Prop :=
  response.fields.length ≤ 400

namespace Wire.Response

instance (response : Response) : Decidable response.Brief :=
  inferInstanceAs (Decidable (_ ≤ _))

/-- The payload of a response is its fields after a number. -/
theorem length_payload (response : Response) :
    (Frame.payload response).length = response.fields.length + 4 := by
  change (littleEndian 4 _ ++ response.fields).length = _
  rw [List.length_append, length_littleEndian, Nat.add_comm]

theorem fits_of_brief {response : Response} (brief : response.Brief) :
    (Frame.payload response).length ≤ maxPayload := by
  unfold Response.Brief at brief
  rw [length_payload, maxPayload]
  omega

theorem length_payload_error (cause : DirectoryError) :
    (Frame.payload (.error (RemoteError.ofDirectory cause) : Response)).length =
      cause.message.utf8ByteSize + 16 := by
  rw [length_payload]
  change (Layout.writeVariant _ [] ++ Layout.text.write cause.message).length + 4 = _
  rw [List.length_append, Layout.length_text, Layout.writeVariant, List.length_append,
    length_littleEndian, List.length_nil]
  omega

theorem brief_error {cause : DirectoryError} (brief : cause.Brief) :
    (error (RemoteError.ofDirectory cause)).Brief := by
  have size := length_payload_error cause
  unfold DirectoryError.Brief at brief
  rw [length_payload] at size
  rw [Brief]
  omega

theorem brief_binding (evict : Bool) : (binding ⟨false, none, noObject, evict⟩).Brief := by
  cases evict <;> decide

theorem brief_bindingForUpdate (conflicts : Conflicts) :
    (bindingForUpdate ⟨false, none, noObject, conflicts⟩).Brief := by
  obtain ⟨evict, downgrade⟩ := conflicts
  cases evict <;> cases downgrade <;> decide

theorem brief_bindingForRemove (conflicts : Conflicts) :
    (bindingForRemove ⟨false, none, noObject, {}, noObject, conflicts⟩).Brief := by
  obtain ⟨evict, downgrade⟩ := conflicts
  cases evict <;> cases downgrade <;> decide

theorem brief_nextBoundName (evict : Bool) : (nextBoundName ⟨none, noObject, evict⟩).Brief := by
  cases evict <;> decide

theorem brief_upgraded (downgrade : Bool) : (upgraded downgrade).Brief := by
  cases downgrade <;> decide

theorem brief_registered (registration : Registration) : (registered registration).Brief := by
  change (Layout.word64.write _ ++ littleEndian 2 _).length ≤ 400
  rw [List.length_append, Layout.length_word64, length_littleEndian]
  omega

theorem brief_objectIds (first : ObjectId) : (objectIds first).Brief :=
  (Layout.length_word64 _).le.trans (by omega)

theorem brief_classId (id : Int32) : (classId id).Brief :=
  (length_littleEndian 4 _).le.trans (by omega)

theorem brief_released (had : Bool) : (released had).Brief := by
  cases had <;> decide

end Wire.Response

namespace Action

theorem answers_upgrade (node : NodeId) (oid : ObjectId) :
    (upgrade node (.object oid) : Action Store Conflicts).Answers fun _ => True := by
  intro world _
  rw [perform_upgrade]
  cases world.directory.table.tracks (.object oid) &&
    !world.directory.registry.isLive node with
  | true => exact DirectoryError.brief_unknownNode node
  | false =>
      cases world.directory.upgrade node (.object oid) with
      | none => exact DirectoryError.brief_upgradeWithoutRead node oid
      | some outcome => trivial

theorem answers_upgradeObject (node : NodeId) (oid : ObjectId) :
    (upgradeObject node oid : Action Store _).Answers
      fun downgrade => (Response.upgraded downgrade).Brief := by
  apply Answers.bind (steady.requireArgument _ _) (answers_requireArgument _ _)
  intro _ _
  apply Answers.bind (steady.requireLive node) (answers_requireLive node)
  intro _ _
  apply Answers.bind (steady.upgrade node _) (answers_upgrade node oid)
  intro conflicts _
  exact answers_pure (Response.brief_upgraded conflicts.downgrade)

/-- Over a store that holds nothing every request for access is answered briefly. -/
theorem answers_access (node : NodeId) (what : Access) :
    (what.action node : Action Store what.Result).Answers
      fun result => (what.response result).Brief := by
  cases what with
  | getObject oid =>
      have nothing : (Response.object none).Brief := by decide
      apply Answers.bind (steady.takeObject node oid .read) (answers_takeObject node oid .read)
      rintro _ rfl
      exact answers_pure nothing
  | getObjectForUpdate oid =>
      have nothing : (Response.objectForUpdate none).Brief := by decide
      apply Answers.bind (steady.takeObject node oid .write) (answers_takeObject node oid .write)
      rintro _ rfl
      exact answers_pure nothing
  | upgradeObject oid => exact answers_upgradeObject node oid
  | nextObjectId after =>
      have nothing : (Response.nextObject none).Brief := by decide
      apply Answers.bind (steady.requireArgument _ _) (answers_requireArgument _ _)
      intro _ _
      apply Answers.bind (steady.requireLive node) (answers_requireLive node)
      intro _ _
      apply Answers.bind (steady.nextObject _) (answers_lookup rfl)
      rintro _ rfl
      exact answers_pure nothing
  | getBinding name =>
      apply Answers.bind (steady.requireLive node) (answers_requireLive node)
      intro _ _
      apply Answers.bind (steady.resolve name) (answers_resolve name)
      rintro _ rfl
      apply Answers.bind (steady.grant _ _ _) (answers_grant _ _ _)
      intro conflicts _
      exact answers_pure (Response.brief_binding conflicts.evict)
  | getBindingForUpdate name =>
      apply Answers.bind (steady.requireLive node) (answers_requireLive node)
      intro _ _
      apply Answers.bind (steady.resolve name) (answers_resolve name)
      rintro _ rfl
      apply Answers.bind (steady.grant _ _ _) (answers_grant _ _ _)
      intro conflicts _
      exact answers_pure (Response.brief_bindingForUpdate conflicts)
  | getBindingForRemove name =>
      apply Answers.bind (steady.requireLive node) (answers_requireLive node)
      intro _ _
      apply Answers.bind (steady.binding _) (answers_lookup rfl)
      rintro _ rfl
      apply Answers.bind (steady.takeNext node name) (answers_takeNext node name)
      rintro ⟨_, conflicts⟩ rfl
      exact answers_pure (Response.brief_bindingForRemove conflicts)
  | nextBoundName after =>
      apply Answers.bind (steady.requireLive node) (answers_requireLive node)
      intro _ _
      have nothing : Store.nextBinding? {} after = none := by cases after <;> rfl
      apply Answers.bind (steady.nextBinding _) (answers_lookup rfl)
      rintro _ rfl
      rw [nothing]
      apply Answers.bind (steady.grant _ _ _) (answers_grant _ _ _)
      intro conflicts _
      exact answers_pure (Response.brief_nextBoundName conflicts.evict)

end Action

namespace Service

variable {service : Service Store}

/-- The two requests whose answer may be too large: the contents of a class, and the
registration of a machine that is registered, whose address the refusal repeats. -/
def Overflows (service : Service Store) : Request → Prop
  | .registerNode address => ∃ existing, service.directory.registry.live[address]? = some existing ∧
    maxPayload < address.utf8ByteSize + existing.text.utf8ByteSize + 44
  | .getClassInfo id => ∃ info, service.classes.info id = .ok (some info) ∧
    maxPayload < info.length + 13
  | _ => False

/-- A brief result and a brief refusal both make a brief response. -/
theorem brief_dispatch {request : Request}
    (answered : Briefly (fun result => (request.response result).Brief)
      (service.perform request).1) : (service.dispatch request).1.Brief := by
  rw [dispatch]
  rcases ran : service.perform request with ⟨outcome, later⟩
  rw [ran] at answered
  cases outcome with
  | ok result => exact answered
  | error cause => exact Response.brief_error answered

/-- A machine that is registered is refused, and nothing changes. -/
theorem dispatch_duplicate {address : String} {existing : NodeId}
    (known : service.directory.registry.live[address]? = some existing) :
    service.dispatch (.registerNode address) =
      (.error (RemoteError.ofDirectory (.registration (.duplicate address existing))), service) := by
  simp only [dispatch, perform, Directory.register, Registry.register, known]
  rfl

theorem fits_registerNode (address : String) :
    (Frame.payload (service.dispatch (.registerNode address)).1).length ≤ maxPayload ↔
      ¬ service.Overflows (.registerNode address) := by
  cases known : service.directory.registry.live[address]? with
  | some existing =>
      rw [dispatch_duplicate known, Response.length_payload_error,
        DirectoryError.utf8ByteSize_duplicate]
      simp only [Overflows, known, Option.some.injEq, exists_eq_left']
      omega
  | none =>
      refine iff_of_true (Response.fits_of_brief ?_) (by simp [Overflows, known])
      simp only [dispatch, perform, Directory.register, Registry.register, known]
      cases service.directory.registry.freePorts.toList.head? with
      | none => exact Response.brief_error (DirectoryError.brief_portsExhausted _)
      | some port => exact Response.brief_registered _

theorem fits_getClassInfo (id : Int32) :
    (Frame.payload (service.dispatch (.getClassInfo id)).1).length ≤ maxPayload ↔
      ¬ service.Overflows (.getClassInfo id) := by
  simp only [dispatch, perform, Overflows]
  cases service.classes.info id with
  | error cause =>
      simp only [reduceCtorEq, false_and, exists_false, not_false_eq_true, iff_true]
      exact Response.fits_of_brief (Response.brief_error (DirectoryError.brief_invalidArgument cause))
  | ok found =>
      cases found with
      | none =>
          simp only [Except.ok.injEq, reduceCtorEq, false_and, exists_false, not_false_eq_true,
            iff_true]
          have nothing : (Response.classInfo none).Brief := by decide
          exact Response.fits_of_brief nothing
      | some info =>
          change (Frame.payload (Response.classInfo (some info))).length ≤ maxPayload ↔ _
          rw [Response.length_payload]
          change (1 :: Layout.bytes.write info).length + 4 ≤ maxPayload ↔ _
          simp only [List.length_cons, Layout.length_bytes, Except.ok.injEq, Option.some.injEq,
            exists_eq_left']
          omega

theorem answers_giveUp (node : NodeId) (key : Key) :
    (giveUp node key : Action Store Bool).Answers fun had => (Response.released had).Brief := by
  apply Action.Answers.bind (steady.requireLive node) (Action.answers_requireLive node)
  intro _ _ world _
  exact Response.brief_released _

/-- Over a store that holds nothing all other requests are answered briefly. -/
theorem brief_of_others (empty : service.world.store = {}) {request : Request}
    (unregistered : ∀ address, request ≠ .registerNode address)
    (unread : ∀ id, request ≠ .getClassInfo id) : (service.dispatch request).1.Brief := by
  apply brief_dispatch
  cases request with
  | registerNode address => exact absurd rfl (unregistered address)
  | getClassInfo id => exact absurd rfl (unread id)
  | access node what => exact Action.answers_access node what service.world empty
  | newObjectIds count =>
      change Briefly _ ((service.ids.allocate count).1.mapError .invalidArgument)
      cases (service.ids.allocate count).1 with
      | ok first => exact Response.brief_objectIds first
      | error cause => exact DirectoryError.brief_invalidArgument cause
  | getClassId info =>
      change Briefly _ ((service.classes.intern info).1.mapError .invalidArgument)
      cases (service.classes.intern info).1 with
      | ok id => exact Response.brief_classId id
      | error cause => exact DirectoryError.brief_invalidArgument cause
  | releaseObject node oid =>
      have answers : (do
          Action.requireArgument (0 ≤ oid) (.releaseOfNegativeObject oid)
          giveUp node (.object oid) : Action Store Bool).Answers
            fun had => (Response.released had).Brief := by
        apply Action.Answers.bind (steady.requireArgument _ _)
          (Action.answers_requireArgument _ _)
        intro _ _
        exact answers_giveUp node (.object oid)
      exact answers service.world empty
  | releaseBinding node place => exact answers_giveUp node (.binding place) service.world empty

/-- Over a store that holds nothing, the answer to a request fits in a frame unless it is
one of the two that do not. -/
theorem fits_iff_not_overflows (empty : service.world.store = {}) (request : Request) :
    (Frame.payload (service.dispatch request).1).length ≤ maxPayload ↔
      ¬ service.Overflows request := by
  cases request with
  | registerNode address => exact fits_registerNode address
  | getClassInfo id => exact fits_getClassInfo id
  | _ => exact iff_of_true (Response.fits_of_brief (brief_of_others empty nofun nofun)) id

/-- Neither of the two registers a node. -/
theorem registered_of_overflows {request : Request} (overflows : service.Overflows request) :
    Session.registered (service.dispatch request).1 = [] := by
  cases request with
  | registerNode address =>
      obtain ⟨existing, known, -⟩ := overflows
      rw [dispatch_duplicate known]
      rfl
  | getClassInfo id =>
      obtain ⟨info, found, -⟩ := overflows
      simp only [dispatch, perform, found]
      rfl
  | _ => cases overflows

end Service

end CacheDirectory
