/-
Module: CacheDirectory.Proofs.Registrations
Purpose: What becomes of the table of nodes in the course of a run: nobody is forgotten or
  renamed, nobody comes to life but by registration, and each port of the range is either
  free or owned by exactly one living node.
Trusted boundary: none
Main exports: Registry.Follows, Registry.Owns, Registry.Balanced, Effects.follows,
  Registered, Cluster.run_registered
-/
import CacheDirectory.Proofs.DeadNodes

namespace CacheDirectory

open Std

/-! ### Deaths -/

namespace Registry

/-- The table after a death, where it differs from the table before. -/
theorem markDead_of_live {registry : Registry} {node : NodeId} {info : NodeInfo}
    (known : registry.nodes[node]? = some info) (alive : info.alive = true) :
    (registry.markDead node).2 =
      { registry with
        nodes := registry.nodes.insert node { info with alive := false }
        live := registry.live.erase info.identity
        freePorts := registry.freePorts.insert info.port } := by
  simp only [markDead, known, alive, if_true]

theorem markDead_of_not_live {registry : Registry} {node : NodeId}
    (dead : registry.isLive node = false) : (registry.markDead node).2 = registry := by
  rw [markDead]
  cases known : registry.nodes[node]? with
  | none => rfl
  | some info =>
      have still : info.alive = false := by simpa [isLive, known] using dead
      simp only [still, Bool.false_eq_true, if_false]

theorem exists_of_live {registry : Registry} {node : NodeId}
    (live : registry.isLive node = true) :
    ∃ info, registry.nodes[node]? = some info ∧ info.alive = true := by
  cases known : registry.nodes[node]? with
  | none => simp [isLive, known] at live
  | some info => exact ⟨info, rfl, by simpa [isLive, known] using live⟩

theorem mem_nodes_of_live {registry : Registry} {node : NodeId}
    (live : registry.isLive node = true) : node ∈ registry.nodes := by
  obtain ⟨info, known, -⟩ := exists_of_live live
  rw [ExtTreeMap.mem_iff_isSome_getElem?, known]
  rfl

/-- Those live after some deaths who lived and are not among the dead. -/
theorem isLive_markAllDead {registry : Registry} {died : List NodeId} {node : NodeId} :
    (registry.markAllDead died).isLive node = true ↔
      registry.isLive node = true ∧ node ∉ died := by
  induction died generalizing registry with
  | nil => simp [markAllDead]
  | cons victim rest ih =>
      refine ih.trans ?_
      rw [isLive_markDead, Bool.and_eq_true, bne_iff_ne, List.mem_cons, not_or, and_assoc]

end Registry

/-! ### The table in the course of time -/

/-- What is known of a node later on: it may have died. -/
def NodeInfo.surviving (survives : Bool) (info : NodeInfo) : NodeInfo :=
  { info with alive := info.alive && survives }

@[simp] theorem NodeInfo.surviving_true (info : NodeInfo) : info.surviving true = info := by
  rw [surviving, Bool.and_true]

@[simp] theorem NodeInfo.surviving_surviving (info : NodeInfo) (first second : Bool) :
    (info.surviving first).surviving second = info.surviving (first && second) := by
  simp only [surviving, Bool.and_assoc]

namespace Registry

/-- Apart from the nodes that are `fresh`, the table after knows the nodes it knew before
and no others, as it knew them, though some may have died. -/
def Follows (before after : Registry) (fresh : List NodeId) : Prop :=
  ∀ node ∉ fresh, ∃ survives, after.nodes[node]? = before.nodes[node]?.map (·.surviving survives)

theorem Follows.refl (registry : Registry) : registry.Follows registry [] :=
  fun node _ => ⟨true, by simp⟩

theorem Follows.trans {first second third : Registry} {fresh fresher : List NodeId}
    (early : first.Follows second fresh) (late : second.Follows third fresher) :
    first.Follows third (fresh ++ fresher) := by
  intro node old
  rw [List.mem_append, not_or] at old
  obtain ⟨one, between⟩ := early node old.1
  obtain ⟨other, final⟩ := late node old.2
  refine ⟨one && other, ?_⟩
  rw [final, between, Option.map_map]
  simp only [Function.comp_def, NodeInfo.surviving_surviving]

/-- Nobody is forgotten, and nobody is known who is not new. -/
theorem Follows.mem_nodes_iff {before after : Registry} {fresh : List NodeId}
    (follows : before.Follows after fresh) {node : NodeId} (old : node ∉ fresh) :
    node ∈ after.nodes ↔ node ∈ before.nodes := by
  obtain ⟨survives, same⟩ := follows node old
  rw [ExtTreeMap.mem_iff_isSome_getElem?, ExtTreeMap.mem_iff_isSome_getElem?, same,
    Option.isSome_map]

/-- Whoever lives after lived before, or is new. -/
theorem Follows.live {before after : Registry} {fresh : List NodeId}
    (follows : before.Follows after fresh) {node : NodeId} (old : node ∉ fresh)
    (live : after.isLive node = true) : before.isLive node = true := by
  obtain ⟨survives, same⟩ := follows node old
  obtain ⟨info, known, alive⟩ := exists_of_live live
  rw [known] at same
  obtain ⟨former, was, rfl⟩ := Option.map_eq_some_iff.mp same.symm
  rw [NodeInfo.surviving, Bool.and_eq_true] at alive
  simp [isLive, was, alive.1]

theorem Follows.markDead (registry : Registry) (victim : NodeId) :
    registry.Follows (registry.markDead victim).2 [] := by
  intro node _
  cases live : registry.isLive victim with
  | false => exact ⟨true, by simp [markDead_of_not_live live]⟩
  | true =>
      obtain ⟨info, known, alive⟩ := exists_of_live live
      rw [markDead_of_live known alive]
      by_cases same : victim = node
      · subst same
        exact ⟨false, by simp [known, NodeInfo.surviving]⟩
      · exact ⟨true, by simp [ExtTreeMap.getElem?_insert, same]⟩

theorem Follows.markAllDead (registry : Registry) (died : List NodeId) :
    registry.Follows (registry.markAllDead died) [] := by
  induction died generalizing registry with
  | nil => exact .refl registry
  | cons victim rest ih => exact (Follows.markDead registry victim).trans (ih _)

theorem Follows.register {registry : Registry} {identity : String} {registration : Registration}
    (accepted : (registry.register identity).1 = .ok registration) :
    registry.Follows (registry.register identity).2 [registration.node] := by
  intro node old
  have distinct : ¬ registration.node = node := fun same => old (same ▸ List.mem_cons_self)
  refine ⟨true, ?_⟩
  rw [(register_eq accepted).2.2]
  simp [ExtTreeMap.getElem?_insert, distinct]

/-! ### Ports -/

/-- The node lives and has the port. -/
def Owns (registry : Registry) (node : NodeId) (port : UInt16) : Prop :=
  ∃ info, registry.nodes[node]? = some info ∧ info.alive = true ∧ info.port = port

theorem Owns.live {registry : Registry} {node : NodeId} {port : UInt16}
    (owns : registry.Owns node port) : registry.isLive node = true := by
  obtain ⟨info, known, alive, -⟩ := owns
  simp [isLive, known, alive]

/-- A node that lives on keeps its port, and nobody else gets one. -/
theorem Follows.owns_iff {before after : Registry} {fresh : List NodeId}
    (follows : before.Follows after fresh) {node : NodeId} (old : node ∉ fresh) {port : UInt16} :
    after.Owns node port ↔ before.Owns node port ∧ after.isLive node = true := by
  obtain ⟨survives, same⟩ := follows node old
  constructor
  · intro owns
    refine ⟨?_, owns.live⟩
    obtain ⟨info, known, alive, has⟩ := owns
    rw [known] at same
    obtain ⟨former, was, rfl⟩ := Option.map_eq_some_iff.mp same.symm
    rw [NodeInfo.surviving, Bool.and_eq_true] at alive
    exact ⟨former, was, alive.1, has⟩
  · rintro ⟨⟨info, known, -, has⟩, live⟩
    obtain ⟨later, is, alive⟩ := exists_of_live live
    rw [known, is, Option.map_some, Option.some.injEq] at same
    exact ⟨later, is, alive, by rw [same]; exact has⟩

/-- Each port of the range is free or owned by one living node, and nobody owns others. -/
structure Balanced (range : PortRange) (registry : Registry) : Prop where
  free (port : UInt16) : port ∈ registry.freePorts ↔
    port ∈ range.toList ∧ ∀ node, ¬ registry.Owns node port
  inRange {node : NodeId} {port : UInt16} : registry.Owns node port → port ∈ range.toList
  alone {first second : NodeId} {port : UInt16} :
    registry.Owns first port → registry.Owns second port → first = second

variable {range : PortRange} {registry : Registry}

theorem balanced_new (range : PortRange) : (new range).Balanced range := by
  have unowned (node : NodeId) (port : UInt16) : ¬ (new range).Owns node port := by
    rintro ⟨info, known, -⟩
    simp [new] at known
  refine ⟨fun port => ?_, fun owns => absurd owns (unowned _ _),
    fun owns => absurd owns (unowned _ _)⟩
  rw [and_iff_left fun node => unowned node port]
  exact ExtTreeSet.mem_ofList.trans List.contains_iff_mem

/-- A death frees the port of the dead. -/
theorem Balanced.markDead (balanced : registry.Balanced range) (victim : NodeId) :
    (registry.markDead victim).2.Balanced range := by
  cases live : registry.isLive victim with
  | false => rwa [markDead_of_not_live live]
  | true =>
      obtain ⟨info, known, alive⟩ := exists_of_live live
      have owner : registry.Owns victim info.port := ⟨info, known, alive, rfl⟩
      have owns (node : NodeId) (port : UInt16) :
          (registry.markDead victim).2.Owns node port ↔ registry.Owns node port ∧ node ≠ victim := by
        rw [(Follows.markDead registry victim).owns_iff List.not_mem_nil, isLive_markDead,
          Bool.and_eq_true, bne_iff_ne]
        exact ⟨fun ⟨owned, _, other⟩ => ⟨owned, other⟩,
          fun ⟨owned, other⟩ => ⟨owned, owned.live, other⟩⟩
      refine ⟨fun port => ?_, fun owned => balanced.inRange ((owns _ _).mp owned).1,
        fun one other => balanced.alone ((owns _ _).mp one).1 ((owns _ _).mp other).1⟩
      have freed : port ∈ (registry.markDead victim).2.freePorts ↔
          info.port = port ∨ port ∈ registry.freePorts := by
        rw [markDead_of_live known alive, ExtTreeSet.mem_insert, Std.compare_eq_iff_eq]
      rw [freed, balanced.free]
      simp only [owns, not_and, Decidable.not_not]
      constructor
      · rintro (rfl | ⟨among, unowned⟩)
        · exact ⟨balanced.inRange owner, fun node owned => balanced.alone owned owner⟩
        · exact ⟨among, fun node owned => absurd owned (unowned node)⟩
      · rintro ⟨among, only⟩
        by_cases same : info.port = port
        · exact Or.inl same
        · refine Or.inr ⟨among, fun node owned => same ?_⟩
          obtain rfl := only node owned
          obtain ⟨other, again, -, has⟩ := owned
          rw [known, Option.some.injEq] at again
          rw [again, has]

theorem Balanced.markAllDead (balanced : registry.Balanced range) (died : List NodeId) :
    (registry.markAllDead died).Balanced range := by
  induction died generalizing registry with
  | nil => exact balanced
  | cons victim rest ih => exact ih (balanced.markDead victim)

/-- A registration takes a free port. -/
theorem Balanced.register (balanced : registry.Balanced range) {identity : String}
    {registration : Registration} (accepted : (registry.register identity).1 = .ok registration)
    (unused : registry.isLive registration.node = false) :
    (registry.register identity).2.Balanced range := by
  obtain ⟨-, free, later⟩ := register_eq accepted
  obtain ⟨among, unowned⟩ := (balanced.free _).mp free
  have unowning (port : UInt16) : ¬ registry.Owns registration.node port :=
    fun owned => Bool.eq_false_iff.mp unused owned.live
  have owns (node : NodeId) (port : UInt16) : (registry.register identity).2.Owns node port ↔
      registration.node = node ∧ registration.port = port ∨ registry.Owns node port := by
    by_cases same : registration.node = node
    · subst same
      rw [or_iff_left (unowning port), later]
      simp [Owns]
    · simp [later, Owns, ExtTreeMap.getElem?_insert, same]
  have taken (port : UInt16) : port ∈ (registry.register identity).2.freePorts ↔
      registration.port ≠ port ∧ port ∈ registry.freePorts := by
    rw [later, ExtTreeSet.mem_erase, ne_eq, Std.compare_eq_iff_eq]
  constructor
  case free =>
    intro port
    rw [taken, balanced.free]
    simp only [owns, not_or, forall_and, not_and]
    constructor
    · rintro ⟨other, inside, nobody⟩
      exact ⟨inside, fun _ _ => other, nobody⟩
    · rintro ⟨inside, other, nobody⟩
      exact ⟨other registration.node rfl, inside, nobody⟩
  case inRange =>
    intro node port owned
    rcases (owns node port).mp owned with ⟨-, rfl⟩ | owned
    · exact among
    · exact balanced.inRange owned
  case alone =>
    intro first second port one other
    rcases (owns first port).mp one with ⟨rfl, rfl⟩ | one
    · rcases (owns second _).mp other with ⟨rfl, -⟩ | other
      · rfl
      · exact absurd other (unowned second)
    · rcases (owns second port).mp other with ⟨-, rfl⟩ | other
      · exact absurd one (unowned first)
      · exact balanced.alone one other

/-- If all who are new are dead again, then the ports that were free are free, and those
of the nodes that have died. -/
theorem Balanced.mem_freePorts_iff {later : Registry} {fresh : List NodeId}
    (balanced : registry.Balanced range) (still : later.Balanced range)
    (follows : registry.Follows later fresh)
    (dead : ∀ node ∈ fresh, later.isLive node = false) (port : UInt16) :
    port ∈ later.freePorts ↔ port ∈ registry.freePorts ∨
      ∃ node, registry.Owns node port ∧ later.isLive node = false := by
  have owns (node : NodeId) :
      later.Owns node port ↔ registry.Owns node port ∧ later.isLive node = true := by
    by_cases new : node ∈ fresh
    · have gone := Bool.eq_false_iff.mp (dead node new)
      exact iff_of_false (fun owned => gone owned.live) fun owned => gone owned.2
    · exact follows.owns_iff new
  rw [still.free, balanced.free]
  simp only [owns, not_and, Bool.not_eq_true]
  constructor
  · rintro ⟨inside, gone⟩
    by_cases owned : ∃ node, registry.Owns node port
    · obtain ⟨node, owned⟩ := owned
      exact Or.inr ⟨node, owned, gone node owned⟩
    · exact Or.inl ⟨inside, fun node owns => owned ⟨node, owns⟩⟩
  · rintro (⟨inside, unowned⟩ | ⟨node, owned, gone⟩)
    · exact ⟨inside, fun node owned => absurd owned (unowned node)⟩
    · refine ⟨balanced.inRange owned, fun other owned' => ?_⟩
      rwa [balanced.alone owned' owned]

end Registry

/-! ### Runs -/

section

variable {reliable forced : Prop} {before after : View} {events history : List Event}

theorem Effects.follows (effects : Effects reliable forced before events after) :
    before.directory.registry.Follows after.directory.registry (newcomers events) := by
  induction effects with
  | none => exact .refl _
  | cons effect _ ih =>
      rw [newcomers_append]
      refine Registry.Follows.trans ?_ ih
      rcases effect.registry with ⟨died, same, nobody⟩ | ⟨identity, registration, accepted, same, new⟩
      · rw [same, nobody]
        exact .markAllDead _ died
      · rw [same, new]
        exact .register accepted

/-- What is true of the table of nodes after each history: those are in it who registered,
and as long as numbers are left every port is accounted for. -/
structure Registered (range : PortRange) (history : List Event) (view : View) : Prop where
  numbered : Numbered history view
  known : ∀ node, node ∈ view.directory.registry.nodes ↔ node ∈ newcomers history
  balanced : (newcomers history).length ≤ UInt64.size → view.directory.registry.Balanced range

theorem registered_start (range : PortRange) (sink : Sink) :
    Registered range [] ⟨Directory.new range sink, []⟩ where
  numbered := numbered_start range sink
  known := fun _ => iff_of_false ExtTreeMap.not_mem_empty List.not_mem_nil
  balanced := fun _ => Registry.balanced_new range

/-- The number that is due has not been given to anybody. -/
theorem Numbered.next_unused {view : View} (numbered : Numbered history view)
    (few : (newcomers history).length < UInt64.size) :
    (⟨view.directory.registry.nextRaw⟩ : NodeId) ∉ newcomers history := by
  intro given
  rw [numbered.given, numbered.next, List.mem_map] at given
  obtain ⟨position, among, same⟩ := given
  rw [List.mem_range] at among
  exact Nat.ne_of_lt among (NodeId.nth_inj (Nat.lt_trans among few) few same)

theorem Registered.effect {range : PortRange} (registered : Registered range history before)
    (effect : Effect reliable forced before events after) :
    Registered range (history ++ events) after where
  numbered := registered.numbered.effect effect
  known := by
    intro node
    rw [newcomers_append, List.mem_append, ← registered.known]
    rcases effect.registry with ⟨died, same, nobody⟩ | ⟨identity, registration, accepted, same, new⟩
    · rw [same, nobody, (Registry.Follows.markAllDead _ died).mem_nodes_iff List.not_mem_nil,
        or_iff_left List.not_mem_nil]
    · rw [same, new, (Registry.register_eq accepted).2.2, ExtTreeMap.mem_insert, Std.compare_eq_iff_eq,
        List.mem_singleton, eq_comm, or_comm]
  balanced := by
    intro few
    rw [newcomers_append, List.length_append] at few
    have balanced := registered.balanced (by omega)
    rcases effect.registry with ⟨died, same, -⟩ | ⟨identity, registration, accepted, same, new⟩
    · rw [same]
      exact balanced.markAllDead died
    · rw [same]
      rw [new, List.length_singleton] at few
      have unused := registered.numbered.next_unused (by omega)
      rw [← (Registry.register_eq accepted).1] at unused
      rw [← registered.known] at unused
      exact balanced.register accepted
        (Bool.eq_false_iff.mpr fun live => unused (Registry.mem_nodes_of_live live))

theorem Registered.effects {range : PortRange} (registered : Registered range history before)
    (effects : Effects reliable forced before events after) :
    Registered range (history ++ events) after :=
  effects.preserve (Registered range) (fun registered effect => registered.effect effect) history
    registered

end

/-- After every run the table of nodes is in order. -/
theorem Cluster.run_registered {σ : Type} [Backing σ] (range : PortRange) (sink : Sink)
    (settings : DeliverySettings) (store : σ) (endpoints : Endpoints) (steps : List (Step σ)) :
    Registered range ((start range sink settings store endpoints).run steps).1
      ((start range sink settings store endpoints).run steps).2.view :=
  run_preserves (fun _ _ _ => trivial) (Registered range) (registered_start range sink)
    fun registered effect => registered.effect effect

end CacheDirectory
