/-
Module: CacheDirectory.Proofs.Resolution
Purpose: Where lookups in the namespace end: at the first place that they reach, among
  the bound names and the ending. So much of the store decides what a lookup answers,
  and what its node is granted access to.
Trusted boundary: none
Main exports: Inquiry, Store.land, Store.FirstPlace, Store.firstPlace_land,
  Access.inquiry?, Service.perform_inquiry, Service.eq_of_perform_inquiry
-/
import CacheDirectory.Proofs.Effects

namespace CacheDirectory

open Std Wire

/-! ### The order of places -/

namespace BindingKey

/-- Places are ordered as they are compared. -/
instance : LE BindingKey := leOfOrd

instance : LT BindingKey := ltOfOrd

instance : DecidableLE BindingKey :=
  fun a b => inferInstanceAs (Decidable ((compare a b).isLE = true))

instance : DecidableLT BindingKey :=
  fun a b => decidable_of_iff (compare a b = .lt) Std.compare_eq_lt

instance : Std.IsLinearOrder BindingKey := .of_ord

theorem name_lt_iff {first second : String} : name first < name second ↔ first < second := by
  rw [← Std.compare_eq_lt]
  exact compareOfLessAndEq_eq_lt

theorem le_ending (place : BindingKey) : place ≤ ending := by
  cases place <;> rfl

end BindingKey

/-! ### What is asked of the namespace -/

/-- What a node asks: where a name leads, or what comes after a name or first of
all. -/
inductive Inquiry where
  | lookup (name : String)
  | next (after : Option String)
deriving DecidableEq, Repr, Inhabited

/-- The places at which an inquiry may end. -/
def Inquiry.Reaches : Inquiry → BindingKey → Prop
  | .lookup name, place => .name name ≤ place
  | .next after, place => ∀ name ∈ after, .name name < place

instance : (inquiry : Inquiry) → (place : BindingKey) → Decidable (inquiry.Reaches place)
  | .lookup name, place => inferInstanceAs (Decidable (.name name ≤ place))
  | .next after, place => inferInstanceAs (Decidable (∀ name ∈ after, .name name < place))

/-- Behind a place that an inquiry reaches it reaches every place. -/
theorem Inquiry.Reaches.mono {inquiry : Inquiry} {place further : BindingKey}
    (reaches : inquiry.Reaches place) (behind : place ≤ further) : inquiry.Reaches further := by
  cases inquiry with
  | lookup name => exact Std.le_trans reaches behind
  | next after => exact fun name among => Std.lt_of_lt_of_le (reaches name among) behind

namespace Store

/-- Where an inquiry ends in a store. -/
def land (store : Store) : Inquiry → Landing
  | .lookup name =>
    match store.binding? name with
    | some oid => .ofBound name oid
    | none => .ofNext (store.nextBinding? (some name))
  | .next after => .ofNext (store.nextBinding? after)

/-- The places of a store are its bound names and the ending. -/
def HasPlace (store : Store) : BindingKey → Prop
  | .name text => (store.binding? text).isSome
  | .ending => True

/-- The object at a place. -/
def oidAt (store : Store) : BindingKey → ObjectId
  | .name text => (store.binding? text).getD noObject
  | .ending => noObject

/-- The place is the first that the inquiry reaches in the store. -/
structure FirstPlace (store : Store) (inquiry : Inquiry) (place : BindingKey) : Prop where
  present : store.HasPlace place
  reached : inquiry.Reaches place
  least : ∀ other, store.HasPlace other → inquiry.Reaches other → place ≤ other

/-- There is one first place. -/
theorem FirstPlace.unique {store : Store} {inquiry : Inquiry} {first second : BindingKey}
    (one : store.FirstPlace inquiry first) (other : store.FirstPlace inquiry second) :
    first = second :=
  Std.le_antisymm (one.least second other.present other.reached)
    (other.least first one.present one.reached)

/-- The first association whose key qualifies, in a map, is that with the least such
key. -/
theorem find?_toList_eq_some {α β : Type} [Ord α] [TransOrd α] [LawfulEqOrd α]
    {map : ExtTreeMap α β} {qualifies : α → Bool} {found : α} {value : β}
    (search : map.toList.find? (fun association => qualifies association.1) = some (found, value)) :
    map[found]? = some value ∧ qualifies found = true ∧
      ∀ other ∈ map, qualifies other = true → (compare found other).isLE := by
  obtain ⟨qualified, before, behind, split, skipped⟩ := List.find?_eq_some_iff_append.mp search
  have ordered : List.Pairwise (fun first second => compare first.1 second.1 = .lt) map.toList :=
    ExtTreeMap.ordered_keys_toList
  rw [split, List.pairwise_append, List.pairwise_cons] at ordered
  refine ⟨?_, qualified, ?_⟩
  · rw [← ExtTreeMap.mem_toList_iff_getElem?_eq_some, split]
    exact List.mem_append_right before List.mem_cons_self
  · intro other present qualifying
    obtain ⟨held, holds⟩ := Option.isSome_iff_exists.mp (ExtTreeMap.mem_iff_isSome_getElem?.mp present)
    have listed := ExtTreeMap.mem_toList_iff_getElem?_eq_some.mpr holds
    rw [split, List.mem_append, List.mem_cons] at listed
    rcases listed with early | same | late
    · have unqualified := skipped _ early
      rw [qualifying] at unqualified
      cases unqualified
    · cases same
      exact ReflOrd.isLE_rfl
    · rw [ordered.2.1.1 _ late]
      rfl

/-- A name qualifies as the next after some name, or after nothing. -/
def follows (after : Option String) (name : String) : Bool :=
  after.all fun earlier => (compare earlier name).isLT

theorem follows_iff {after : Option String} {name : String} :
    follows after name = true ↔ Inquiry.Reaches (.next after) (.name name) := by
  cases after with
  | none => simp [follows, Inquiry.Reaches]
  | some earlier =>
      simp only [follows, Option.all_some, Inquiry.Reaches, Option.mem_some_iff, forall_eq',
        Ordering.isLT_iff_eq_lt]
      exact Iff.rfl

/-- The next bound name is the first that follows. -/
theorem nextBinding?_eq_find? (store : Store) (after : Option String) :
    store.nextBinding? after =
      store.bindings.toList.find? fun association => follows after association.1 := by
  cases after with
  | none =>
      cases listed : store.bindings.toList with
      | nil => simp [nextBinding?, listed]
      | cons first rest => simp [nextBinding?, listed, follows]
  | some name => rfl

theorem hasPlace_name_iff {store : Store} {text : String} :
    store.HasPlace (.name text) ↔ text ∈ store.bindings :=
  ExtTreeMap.mem_iff_isSome_getElem?.symm

/-- A search for the next bound name ends at the first place behind. -/
theorem firstPlace_next (store : Store) (after : Option String) :
    store.FirstPlace (.next after) (store.land (.next after)).place ∧
      (store.land (.next after)).oid = store.oidAt (store.land (.next after)).place := by
  rw [land, nextBinding?_eq_find?]
  cases search : store.bindings.toList.find? fun association => follows after association.1 with
  | none =>
      refine ⟨⟨trivial, ?_, ?_⟩, rfl⟩
      · cases after with
        | none => exact nofun
        | some name => exact fun _ _ => rfl
      · intro other present reached
        cases other with
        | ending => exact Std.le_refl _
        | name text =>
            have skipped := List.find?_eq_none.mp search
            obtain ⟨oid, bound⟩ := Option.isSome_iff_exists.mp present
            exact absurd (follows_iff.mpr reached)
              (skipped (text, oid) (ExtTreeMap.mem_toList_iff_getElem?_eq_some.mpr bound))
  | some association =>
      obtain ⟨found, oid⟩ := association
      obtain ⟨bound, follows, least⟩ := find?_toList_eq_some search
      refine ⟨⟨?_, follows_iff.mp follows, ?_⟩, ?_⟩
      · exact hasPlace_name_iff.mpr (ExtTreeMap.mem_iff_isSome_getElem?.mpr (by rw [bound]; rfl))
      · intro other present reached
        cases other with
        | ending => exact BindingKey.le_ending _
        | name text => exact least text (hasPlace_name_iff.mp present) (follows_iff.mpr reached)
      · simp only [Landing.ofNext, oidAt, binding?, bound, Option.getD_some]

/-- Where a name is not bound, what it leads to is what comes after it. -/
theorem reaches_lookup_iff {store : Store} {name : String} (unbound : store.binding? name = none)
    {place : BindingKey} (present : store.HasPlace place) :
    Inquiry.Reaches (.lookup name) place ↔ Inquiry.Reaches (.next (some name)) place := by
  have apart : .name name ≠ place := by
    rintro rfl
    rw [HasPlace, unbound] at present
    cases present
  simp only [Inquiry.Reaches, Option.mem_some_iff, forall_eq']
  exact ⟨fun reached => Std.lt_of_le_of_ne reached apart, Std.le_of_lt⟩

/-- Every inquiry ends at the first place that it reaches, and answers with the object
there. -/
theorem firstPlace_land (store : Store) (inquiry : Inquiry) :
    store.FirstPlace inquiry (store.land inquiry).place ∧
      (store.land inquiry).oid = store.oidAt (store.land inquiry).place := by
  cases inquiry with
  | next after => exact store.firstPlace_next after
  | lookup name =>
      rw [land]
      cases bound : store.binding? name with
      | some oid =>
          refine ⟨⟨by simp [Landing.ofBound, HasPlace, bound], Std.le_refl _,
            fun _ _ reached => reached⟩, ?_⟩
          simp only [Landing.ofBound, oidAt, bound, Option.getD_some]
      | none =>
          obtain ⟨first, same⟩ := store.firstPlace_next (some name)
          refine ⟨⟨first.present, (reaches_lookup_iff bound first.present).mpr first.reached, ?_⟩,
            same⟩
          exact fun other present reached =>
            first.least other present ((reaches_lookup_iff bound present).mp reached)

namespace FirstPlace

variable {store later : Store} {inquiry : Inquiry} {place : BindingKey} {name : String}

/-- Where an inquiry ends depends on which names are bound, not on their objects. -/
theorem of_same_names (ends : store.FirstPlace inquiry place)
    (same : ∀ name, (later.binding? name).isSome = (store.binding? name).isSome) :
    later.FirstPlace inquiry place := by
  have places : ∀ other, later.HasPlace other ↔ store.HasPlace other := by
    intro other
    cases other with
    | name text => simp only [HasPlace, same]
    | ending => exact Iff.rfl
  refine ⟨(places place).mpr ends.present, ends.reached, ?_⟩
  exact fun other present reached => ends.least other ((places other).mp present) reached

/-- A lookup of a name in the gap before the place ends at the place too. -/
theorem lookup_inside (ends : store.FirstPlace inquiry place)
    (reached : inquiry.Reaches (.name name)) (inside : .name name < place) :
    store.FirstPlace (.lookup name) place := by
  refine ⟨ends.present, Std.le_of_lt inside, ?_⟩
  exact fun other present behind => ends.least other present (reached.mono behind)

/-- The place comes next after every name in the gap before it. -/
theorem next_inside (ends : store.FirstPlace inquiry place)
    (reached : inquiry.Reaches (.name name)) (inside : .name name < place) :
    store.FirstPlace (.next (some name)) place := by
  refine ⟨ends.present, by rintro _ ⟨⟩; exact inside, ?_⟩
  exact fun other present behind =>
    ends.least other present (reached.mono (Std.le_of_lt (behind name rfl)))

end FirstPlace

/-- A search for the next bound name finds nothing where it begins. -/
theorem found_land_next (store : Store) (after : Option String) :
    (store.land (.next after)).found = false := by
  rw [land]
  cases store.nextBinding? after <;> rfl

/-- A lookup finds its name exactly if it ends there. -/
theorem found_land (store : Store) (inquiry : Inquiry) :
    (store.land inquiry).found = true ↔
      ∃ name, inquiry = .lookup name ∧ (store.land inquiry).place = .name name := by
  cases inquiry with
  | next after => simp [found_land_next]
  | lookup name =>
      have first := (store.firstPlace_land (.lookup name)).1
      rw [land] at first ⊢
      cases bound : store.binding? name with
      | some oid => simp [Landing.ofBound]
      | none =>
          rw [bound] at first
          have present := first.present
          constructor
          · intro found
            cases next : store.nextBinding? (some name) <;> rw [next] at found <;> cases found
          · rintro ⟨_, same, ends⟩
            cases same
            rw [ends, HasPlace, bound] at present
            cases present

/-- Stores in which an inquiry ends at the same place, with the same object there, answer
it alike. -/
theorem land_eq_land {store later : Store} {inquiry : Inquiry}
    (ends : later.FirstPlace inquiry (store.land inquiry).place)
    (same : later.oidAt (store.land inquiry).place = store.oidAt (store.land inquiry).place) :
    later.land inquiry = store.land inquiry := by
  obtain ⟨first, named⟩ := later.firstPlace_land inquiry
  have place : (later.land inquiry).place = (store.land inquiry).place := first.unique ends
  have oid : (later.land inquiry).oid = (store.land inquiry).oid := by
    rw [named, place, same, (store.firstPlace_land inquiry).2]
  have found : (later.land inquiry).found = (store.land inquiry).found := by
    rw [Bool.eq_iff_iff, found_land, found_land, place]
  generalize later.land inquiry = landing at place oid found
  cases landing
  cases place
  cases oid
  cases found
  rfl

end Store

/-! ### Requests that inquire -/

namespace Wire.Access

/-- What a request for access asks of the namespace, and the mode in which it takes the
place where that ends. A removal asks twice and is none of these. -/
def inquiry? : Access → Option (Inquiry × Mode)
  | .getBinding name => some (.lookup name, .read)
  | .getBindingForUpdate name => some (.lookup name, .write)
  | .nextBoundName after => some (.next after, .read)
  | _ => none

/-- Where the answer to an inquiry says that it ended. -/
def landing? : (what : Access) → what.Result → Option Landing
  | .getBinding name, result =>
    some ⟨result.found, if result.found then .name name else .ofNext result.nextName, result.oid⟩
  | .getBindingForUpdate name, result =>
    some ⟨result.found, if result.found then .name name else .ofNext result.nextName, result.oid⟩
  | .nextBoundName _, result => some ⟨false, .ofNext result.nextName, result.oid⟩
  | _, _ => none

end Wire.Access

namespace Action

theorem resolves_land (store : Store) (name : String) : Resolves name (store.land (.lookup name)) := by
  simp only [Store.land]
  cases store.binding? name with
  | some oid => rfl
  | none => cases store.nextBinding? (some name) <;> rfl

/-- The place where a lookup ends can be told from its answer. -/
theorem landing_of_resolves {name : String} {landing : Landing} (resolves : Resolves name landing) :
    (⟨landing.found, if landing.found then .name name else .ofNext landing.nextName, landing.oid⟩ :
      Landing) = landing := by
  rw [← resolves]

theorem perform_binding (name : String) (world : World Store) :
    (lookup (Backing.binding name) : Action Store _).perform world =
      (.ok (world.store.binding? name), world) :=
  perform_lookup _ world

theorem perform_nextBinding (after : Option String) (world : World Store) :
    (lookup (Backing.nextBinding after) : Action Store _).perform world =
      (.ok (world.store.nextBinding? after), world) :=
  perform_lookup _ world

theorem perform_resolve (name : String) (world : World Store) :
    (resolve name : Action Store _).perform world = (.ok (world.store.land (.lookup name)), world) := by
  rw [resolve, perform_bind, perform_binding, Store.land]
  cases world.store.binding? name with
  | some oid => rfl
  | none =>
      change (lookup (Backing.nextBinding (some name)) >>= fun next => pure (Landing.ofNext next) :
        Action Store _).perform world = _
      rw [perform_bind, perform_nextBinding]
      rfl

end Action

namespace Service

variable {service : Service Store} {node : NodeId}

/-- Only the living may inquire. -/
theorem perform_inquiry_of_dead {what : Access} {inquiry : Inquiry} {mode : Mode}
    (asks : what.inquiry? = some (inquiry, mode))
    (dead : service.directory.registry.isLive node = false) :
    service.perform (.access node what) = (.error (.unknownNode node), service) := by
  change service.world.directory.registry.isLive node = false at dead
  cases what <;> cases asks <;>
    simp only [perform, act, Access.action, Action.getBinding, Action.getBindingForUpdate,
      Action.nextBoundName, Action.perform_bind, Action.perform_requireLive, Registry.check, dead] <;>
    rfl

/-- The answer to an inquiry tells where it ended, and the node has been granted access
there. -/
theorem perform_inquiry {what : Access} {inquiry : Inquiry} {mode : Mode}
    (asks : what.inquiry? = some (inquiry, mode))
    (live : service.directory.registry.isLive node = true) :
    let landing := service.world.store.land inquiry
    let granted := service.directory.grant node (.binding landing.place) mode
    ∃ result, what.landing? result = some landing ∧
      service.perform (.access node what) = (.ok result, service.withDirectory granted.2) := by
  intro landing granted
  change service.world.directory.registry.isLive node = true at live
  cases what <;> cases asks
  case getBinding name =>
    refine ⟨⟨landing.found, landing.nextName, landing.oid, granted.1.evict⟩, ?_, ?_⟩
    · exact congrArg some (Action.landing_of_resolves (Action.resolves_land _ name))
    · simp only [perform, act, Access.action, Action.getBinding, Action.perform_bind,
        Action.perform_requireLive, Registry.check, live, if_true, Action.perform_resolve,
        Action.perform_grant]
      rfl
  case getBindingForUpdate name =>
    refine ⟨⟨landing.found, landing.nextName, landing.oid, granted.1⟩, ?_, ?_⟩
    · exact congrArg some (Action.landing_of_resolves (Action.resolves_land _ name))
    · simp only [perform, act, Access.action, Action.getBindingForUpdate, Action.perform_bind,
        Action.perform_requireLive, Registry.check, live, if_true, Action.perform_resolve,
        Action.perform_grant]
      rfl
  case nextBoundName after =>
    refine ⟨⟨landing.nextName, landing.oid, granted.1.evict⟩, ?_, ?_⟩
    · have found : landing.found = false := service.world.store.found_land_next after
      have place : landing.place = .ofNext landing.nextName := Action.place_ofNext _
      change some (⟨false, .ofNext landing.nextName, landing.oid⟩ : Landing) = some landing
      rw [← place, ← found]
    · simp only [perform, act, Access.action, Action.nextBoundName, Action.perform_bind,
        Action.perform_requireLive, Registry.check, live, if_true, Action.perform_nextBinding,
        Action.perform_grant]
      rfl

/-- A node that was answered was granted the place where its inquiry ended, which is the
one that the answer tells. -/
theorem eq_of_perform_inquiry {what : Access} {inquiry : Inquiry} {mode : Mode}
    {result : what.Result} {landing : Landing} {later : Service Store}
    (asks : what.inquiry? = some (inquiry, mode)) (told : what.landing? result = some landing)
    (performed : service.perform (.access node what) = (.ok result, later)) :
    landing = service.world.store.land inquiry ∧
      later = service.withDirectory
        (service.directory.grant node (.binding landing.place) mode).2 := by
  cases live : service.directory.registry.isLive node with
  | false =>
      rw [perform_inquiry_of_dead asks live] at performed
      cases performed
  | true =>
      obtain ⟨_, landed, same⟩ := perform_inquiry asks live
      rw [performed] at same
      obtain ⟨⟨⟩, rfl⟩ := Prod.mk.inj same
      rw [told] at landed
      cases landed
      exact ⟨rfl, rfl⟩

end Service

end CacheDirectory
