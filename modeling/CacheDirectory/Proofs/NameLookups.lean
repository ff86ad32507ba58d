/-
Module: CacheDirectory.Proofs.NameLookups
Purpose: In a store that was filled by its own operations each request about a name takes the
  least places that it reaches, among the bound names and the ending, and its answer tells
  which ones these are.
Trusted boundary: none
Main exports: Store.after, Store.WellBound, Store.Identifies, Directory.Takes,
  Service.names_resolve
-/
import CacheDirectory.Proofs.ByteOrder
import CacheDirectory.Proofs.StableLookups

namespace CacheDirectory

open Std Wire

/-! ### What can be bound -/

namespace Store

/-- The store after some operations, of which those that it refuses leave it as it is. -/
def after (changes : List StoreChange) : Store :=
  changes.foldl StoreChange.apply {}

/-- Names are bound to numbers that objects can have. -/
def WellBound (store : Store) : Prop :=
  ∀ name oid, store.binding? name = some oid → 0 ≤ oid

theorem WellBound.apply {store : Store} (wellBound : store.WellBound) (change : StoreChange) :
    (change.apply store).WellBound := by
  intro name oid bound
  by_cases concerned : change.name? = some name
  case neg =>
    rw [StoreChange.binding?_apply_of_ne concerned] at bound
    exact wellBound name oid bound
  case pos =>
    cases change with
    | putObject | removeObject => cases concerned
    | unbind _ =>
        cases concerned
        rw [StoreChange.binding?_apply_unbind] at bound
        cases bound
    | bind _ asked =>
        cases concerned
        simp only [StoreChange.apply, Store.bind, checkStored] at bound
        split at bound
        case isTrue => exact wellBound _ oid bound
        case isFalse stored =>
          change (store.bindings.insert _ asked)[_]? = some oid at bound
          rw [ExtTreeMap.getElem?_insert_self, Option.some.injEq] at bound
          rw [← bound]
          exact Int64.not_lt.mp stored

/-- No operation can bind a negative number. -/
theorem wellBound_after (changes : List StoreChange) : (after changes).WellBound := by
  suffices filled : ∀ store : Store, store.WellBound →
      (changes.foldl StoreChange.apply store).WellBound by
    refine filled {} fun name oid bound => ?_
    simp [binding?] at bound
  induction changes with
  | nil => exact fun _ wellBound => wellBound
  | cons change rest ih => exact fun store wellBound => ih _ (wellBound.apply change)

/-! ### What an answer tells -/

/-- An answer tells where an inquiry ended, at the first place that it reaches: whether a
name was found or else which comes next, and the object there. -/
structure Identifies (store : Store) (inquiry : Inquiry) (found : Bool)
    (nextName : Option String) (oid : ObjectId) (place : BindingKey) : Prop where
  first : store.FirstPlace inquiry place
  found_iff : found = true ↔ ∃ name, inquiry = .lookup name ∧ (store.binding? name).isSome
  there : found = true → ∃ name, inquiry = .lookup name ∧ place = .name name
  elsewhere : found = false → place = .ofNext nextName
  ending_iff : found = false ∧ nextName = none ↔ place = .ending
  noObject_iff : oid = noObject ↔ place = .ending
  bound : ∀ name, place = .name name → store.binding? name = some oid ∧ 0 ≤ oid

/-- A lookup ends at its name exactly if that is bound. -/
theorem found_land_iff (store : Store) (inquiry : Inquiry) :
    (store.land inquiry).found = true ↔
      ∃ name, inquiry = .lookup name ∧ (store.binding? name).isSome := by
  cases inquiry with
  | next after => simp [found_land_next]
  | lookup name =>
      rw [land]
      cases bound : store.binding? name with
      | some oid => simp [Landing.ofBound, bound]
      | none => cases store.nextBinding? (some name) <;> simp [Landing.ofNext, bound]

variable {store : Store}

/-- The object at a bound name is the one that the store has there. -/
theorem WellBound.bound (wellBound : store.WellBound) {name : String}
    (present : store.HasPlace (.name name)) :
    store.binding? name = some (store.oidAt (.name name)) ∧ 0 ≤ store.oidAt (.name name) := by
  obtain ⟨oid, binds⟩ := Option.isSome_iff_exists.mp present
  rw [oidAt, binds]
  exact ⟨rfl, wellBound name oid binds⟩

/-- Only at the ending there is no object. -/
theorem WellBound.oidAt_eq_noObject_iff (wellBound : store.WellBound) {place : BindingKey}
    (present : store.HasPlace place) : store.oidAt place = noObject ↔ place = .ending := by
  cases place with
  | ending => exact iff_of_true rfl rfl
  | name text =>
      refine iff_of_false (fun missing => ?_) nofun
      have stored := (wellBound.bound present).2
      rw [missing] at stored
      exact absurd stored (by decide)

theorem identifies_land (wellBound : store.WellBound) (inquiry : Inquiry)
    {nextName : Option String}
    (told : (store.land inquiry).found = false → (store.land inquiry).place = .ofNext nextName) :
    store.Identifies inquiry (store.land inquiry).found nextName (store.land inquiry).oid
      (store.land inquiry).place := by
  obtain ⟨first, named⟩ := store.firstPlace_land inquiry
  have there := (store.found_land inquiry).mp
  refine ⟨first, store.found_land_iff inquiry, there, told, ?ending_iff, ?noObject_iff, ?bound⟩
  case ending_iff =>
    constructor
    · rintro ⟨missed, none⟩
      rw [told missed, none]
      rfl
    · intro ends
      rw [ends] at there told
      have missed : (store.land inquiry).found = false := by
        rw [Bool.eq_false_iff]
        intro found
        obtain ⟨name, -, named⟩ := there found
        cases named
      refine ⟨missed, ?_⟩
      cases nextName with
      | none => rfl
      | some name => cases told missed
  case noObject_iff =>
    rw [named]
    exact wellBound.oidAt_eq_noObject_iff first.present
  case bound =>
    intro name ends
    have present := first.present
    rw [named]
    rw [ends] at present ⊢
    exact wellBound.bound present

variable {name : String} {found : Bool} {nextName : Option String}
  {oid : ObjectId}

theorem identifies_lookup (wellBound : store.WellBound)
    (told : (⟨found, if found then .name name else .ofNext nextName, oid⟩ : Landing) =
      store.land (.lookup name)) :
    store.Identifies (.lookup name) found nextName oid (store.land (.lookup name)).place := by
  have identifies : store.Identifies (.lookup name) (store.land (.lookup name)).found nextName
      (store.land (.lookup name)).oid (store.land (.lookup name)).place := by
    refine identifies_land wellBound _ fun missed => ?_
    rw [← told] at missed ⊢
    exact if_neg (Bool.eq_false_iff.mp missed)
  rw [← told] at identifies ⊢
  exact identifies

theorem identifies_next (wellBound : store.WellBound) (name? : Option String)
    (next : .ofNext nextName = (store.land (.next name?)).place)
    (there : oid = (store.land (.next name?)).oid) :
    store.Identifies (.next name?) false nextName oid (store.land (.next name?)).place := by
  have identifies := identifies_land wellBound (.next name?) fun _ => next.symm
  rw [found_land_next, ← there] at identifies
  exact identifies

end Store

/-! ### What a request takes -/

namespace Directory

/-- From one directory to a later one, the node was granted these places and nothing else. -/
structure Takes (before after : Directory) (node : NodeId) (mode : Mode)
    (places : List BindingKey) : Prop where
  granted : after = before.grantAll node mode places
  holds : ∀ place ∈ places, ∃ held,
    after.table.holder (.binding place) node = some held ∧ mode ≤ held
  others : ∀ key, (∀ place ∈ places, key ≠ .binding place) →
    after.table.entry key = before.table.entry key

/-- A node loses nothing by what it is granted. -/
theorem holds_grantAll {directory : Directory} {node : NodeId} {mode : Mode} {key : Key}
    (holds : ∃ held, directory.table.holder key node = some held ∧ mode ≤ held)
    (places : List BindingKey) :
    ∃ held, (directory.grantAll node mode places).table.holder key node = some held ∧
      mode ≤ held := by
  induction places generalizing directory with
  | nil => exact holds
  | cons place rest ih =>
      apply ih
      rw [Table.holder_eq, entry_grant]
      split
      case isTrue => exact Entry.holder_grant_self _ node mode
      case isFalse => exact holds

theorem takes_grantAll (directory : Directory) (node : NodeId) (mode : Mode)
    (places : List BindingKey) :
    directory.Takes (directory.grantAll node mode places) node mode places := by
  induction places generalizing directory with
  | nil => exact ⟨rfl, nofun, fun _ _ => rfl⟩
  | cons place rest ih =>
      obtain ⟨-, holds, others⟩ := ih (directory.grant node (.binding place) mode).2
      refine ⟨rfl, List.forall_mem_cons.mpr ⟨?_, holds⟩, fun key apart => ?_⟩
      · refine holds_grantAll ?_ rest
        rw [Table.holder_eq, entry_grant, if_pos rfl]
        exact Entry.holder_grant_self _ node mode
      · obtain ⟨other, apart⟩ := List.forall_mem_cons.mp apart
        rw [grantAll, others key apart, entry_grant, if_neg other]

end Directory

namespace Service

variable {service : Service Store} {node : NodeId}

/-- A request to look for a name takes the place where its inquiry ends, which the answer
tells. -/
theorem inquiry_takes {what : Access} {inquiry : Inquiry} {mode : Mode}
    (asks : what.inquiry? = some (inquiry, mode))
    (live : service.directory.registry.isLive node = true) :
    ∃ result later, service.perform (.access node what) = (.ok result, later) ∧
      what.landing? result = some (service.world.store.land inquiry) ∧
      service.directory.Takes later.directory node mode
        [(service.world.store.land inquiry).place] := by
  obtain ⟨result, told, performed⟩ := perform_inquiry asks live
  exact ⟨result, _, performed, told, service.directory.takes_grantAll node mode
    [(service.world.store.land inquiry).place]⟩

/-- Names are ordered as their bytes are, with the ending behind them all. In a store that
was filled by its own operations, a living node that asks for a name, to read or to bind it,
takes the first place that is not before the name. One that asks for the next name takes the
first place behind, or the first of all. One that asks to remove a name takes it exactly if
it is bound, and in any case the first place behind. The answers identify these places. -/
theorem names_resolve (changes : List StoreChange)
    (stored : service.world.store = Store.after changes)
    (live : service.directory.registry.isLive node = true) :
    let store := service.world.store
    let before := service.directory
    (∀ one other : String, BindingKey.name one < .name other ↔ Text.utf8 one < Text.utf8 other) ∧
    (∀ name : String, BindingKey.name name < .ending) ∧
    (∀ name, ∃ result later place,
      service.perform (.access node (.getBinding name)) = (.ok result, later) ∧
      before.Takes later.directory node .read [place] ∧
      store.Identifies (.lookup name) result.found result.nextName result.oid place) ∧
    (∀ name, ∃ result later place,
      service.perform (.access node (.getBindingForUpdate name)) = (.ok result, later) ∧
      before.Takes later.directory node .write [place] ∧
      store.Identifies (.lookup name) result.found result.nextName result.oid place) ∧
    (∀ name?, ∃ result later place,
      service.perform (.access node (.nextBoundName name?)) = (.ok result, later) ∧
      before.Takes later.directory node .read [place] ∧
      store.Identifies (.next name?) false result.nextName result.oid place) ∧
    (∀ name, ∃ result later next,
      service.perform (.access node (.getBindingForRemove name)) = (.ok result, later) ∧
      before.Takes later.directory node .write
        (if (store.binding? name).isSome then [.name name, next] else [next]) ∧
      (result.found = true ↔ (store.binding? name).isSome) ∧
      (∀ oid, store.binding? name = some oid → result.oid = oid ∧ 0 ≤ oid) ∧
      (store.binding? name = none → result.oid = noObject) ∧
      store.Identifies (.next (some name)) false result.nextName result.nextOid next) := by
  intro store before
  have wellBound : store.WellBound := by
    change service.world.store.WellBound
    rw [stored]
    exact Store.wellBound_after changes
  refine ⟨?order, fun _ => rfl, ?lookup, ?update, ?next, ?removal⟩
  case order =>
    intro one other
    rw [BindingKey.name_lt_iff, Text.utf8_lt_iff]
  case lookup =>
    intro name
    have asks : Access.inquiry? (.getBinding name) = some (.lookup name, .read) := rfl
    obtain ⟨result, later, performed, told, takes⟩ := inquiry_takes asks live
    exact ⟨result, later, _, performed, takes,
      Store.identifies_lookup wellBound (Option.some.inj told)⟩
  case update =>
    intro name
    have asks : Access.inquiry? (.getBindingForUpdate name) = some (.lookup name, .write) := rfl
    obtain ⟨result, later, performed, told, takes⟩ := inquiry_takes asks live
    exact ⟨result, later, _, performed, takes,
      Store.identifies_lookup wellBound (Option.some.inj told)⟩
  case next =>
    intro name?
    have asks : Access.inquiry? (.nextBoundName name?) = some (.next name?, .read) := rfl
    obtain ⟨result, later, performed, told, takes⟩ := inquiry_takes asks live
    have landed := Option.some.inj told
    exact ⟨result, later, _, performed, takes,
      Store.identifies_next wellBound name? (congrArg Landing.place landed)
        (congrArg Landing.oid landed)⟩
  case removal =>
    intro name
    obtain ⟨result, performed, found, oid, next, nextOid⟩ := perform_removal name live
    refine ⟨result, _, _, performed, service.directory.takes_grantAll node .write _, ?_, ?_, ?_,
      Store.identifies_next wellBound _ next nextOid⟩
    · rw [found]
    · intro stored bound
      rw [oid, bound]
      exact ⟨rfl, wellBound name stored bound⟩
    · intro unbound
      rw [oid, unbound]
      rfl

/-- Some names are bound, among them the empty one, and one is not, for it was to be bound to
a negative number. -/
def mixedNames : List StoreChange :=
  [.bind "" 3, .bind "ab" 0, .bind "é" 7, .bind "aa" (-1), .bind "z" 9, .unbind "z"]

theorem names_resolve_mixedNames :
    let service := (Cluster.start ⟨41000, 41003⟩ .collecting {} (Store.after mixedNames) ∅ |>.run
      [.request (.registerNode "a")]).2.service
    service.world.store = Store.after mixedNames ∧
      service.directory.registry.isLive 1 = true ∧
      ∃ result later, service.perform (.access 1 (.getBindingForUpdate "a")) = (.ok result, later) ∧
        service.directory.Takes later.directory 1 .write [.name "ab"] ∧
        service.world.store.Identifies (.lookup "a") result.found result.nextName result.oid
          (.name "ab") := by
  intro service
  have live : service.directory.registry.isLive 1 = true := by decide +kernel
  obtain ⟨-, -, -, updates, -⟩ := names_resolve mixedNames rfl live
  obtain ⟨result, later, place, performed, takes, identifies⟩ := updates "a"
  have least : (service.world.store.land (.lookup "a")).place = .name "ab" := by decide +kernel
  obtain rfl := identifies.first.unique (service.world.store.firstPlace_land (.lookup "a")).1
  rw [least] at takes identifies
  exact ⟨rfl, live, result, later, performed, takes, identifies⟩

end Service

end CacheDirectory
