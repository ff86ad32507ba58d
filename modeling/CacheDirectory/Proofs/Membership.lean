/-
Module: CacheDirectory.Proofs.Membership
Purpose: The table of nodes through any calls. The records, the identities, the ports and
  the counter stay in step, so that the next registration succeeds exactly if nobody lives
  under its name and a port is left, and it is known what it gives.
Trusted boundary: none
Main exports: Registry.Call, Registry.run, Registry.living, Registry.InStep,
  Registry.register_ok_iff, Registry.Orderly, Registry.run_orderly
-/
import CacheDirectory.Proofs.Registrations
import Mathlib.Data.List.Nodup

namespace CacheDirectory

open Std

namespace PortRange

/-- The ports of a range are those between its ends. -/
theorem mem_toList {range : PortRange} {port : UInt16} :
    port ∈ range.toList ↔ range.first ≤ port ∧ port ≤ range.last := by
  have below : range.last.toNat < UInt16.size := range.last.toNat_lt
  have fits : port.toNat < UInt16.size := port.toNat_lt
  rw [toList, List.mem_map, UInt16.le_iff_toNat_le, UInt16.le_iff_toNat_le]
  constructor
  · rintro ⟨number, among, rfl⟩
    rw [List.mem_range'_1, size] at among
    rw [UInt16.toNat_ofNat_of_lt' (by omega)]
    omega
  · rintro ⟨above, under⟩
    refine ⟨port.toNat, ?_, UInt16.ofNat_toNat⟩
    rw [List.mem_range'_1, size]
    omega

theorem nodup_toList (range : PortRange) : range.toList.Nodup := by
  have below : range.last.toNat < UInt16.size := range.last.toNat_lt
  refine List.Nodup.map_on (fun first among second among' same => ?_) List.nodup_range'
  rw [List.mem_range'_1, size] at among among'
  have numbers := congrArg UInt16.toNat same
  rwa [UInt16.toNat_ofNat_of_lt' (by omega), UInt16.toNat_ofNat_of_lt' (by omega)] at numbers

@[simp] theorem length_toList (range : PortRange) : range.toList.length = range.size := by
  rw [toList, List.length_map, List.length_range']

end PortRange

namespace Registry

/-! ### Calls -/

/-- What the table is asked for. -/
inductive Call where
  | register (identity : String)
  | markDead (node : NodeId)

/-- Serve one call. If it registers a node, then the registration comes with it. -/
def step (registry : Registry) : Call → List Registration × Registry
  | .register identity =>
      ((registry.register identity).1.toOption.toList, (registry.register identity).2)
  | .markDead node => ([], (registry.markDead node).2)

/-- Serve calls one after the other, and list the registrations. -/
def run (registry : Registry) : List Call → List Registration × Registry
  | [] => ([], registry)
  | call :: calls =>
      ((registry.step call).1 ++ ((registry.step call).2.run calls).1,
        ((registry.step call).2.run calls).2)

theorem run_append (registry : Registry) (earlier later : List Call) :
    registry.run (earlier ++ later) =
      ((registry.run earlier).1 ++ ((registry.run earlier).2.run later).1,
        ((registry.run earlier).2.run later).2) := by
  induction earlier generalizing registry with
  | nil => rfl
  | cons call calls ih => simp only [List.cons_append, run, ih, List.append_assoc]

/-- The nodes that live, with what is known of them. -/
def living (registry : Registry) : List (NodeId × NodeInfo) :=
  registry.all.filter (·.2.alive)

variable {range : PortRange} {registry : Registry} {given : List Registration}

theorem mem_living {node : NodeId} {info : NodeInfo} :
    (node, info) ∈ registry.living ↔ registry.nodes[node]? = some info ∧ info.alive = true := by
  rw [living, all, List.mem_filter, ExtTreeMap.mem_toList_iff_getElem?_eq_some]

theorem nodup_living (registry : Registry) : registry.living.Nodup := by
  have distinct : registry.nodes.toList.Pairwise
      fun first second => ¬ compare first.1 second.1 = .eq := ExtTreeMap.distinct_keys_toList
  refine (List.Pairwise.filter _ distinct).imp fun different same => different ?_
  rw [same]
  exact ReflOrd.compare_self

/-- Registration succeeds if the name is not in use and a port is free, and gives the
number that is due and the first of the free ports. -/
theorem register_ok_iff {identity : String} {registration : Registration} :
    (registry.register identity).1 = .ok registration ↔
      registry.live[identity]? = none ∧
        registry.freePorts.toList.head? = some registration.port ∧
        registration.node = ⟨registry.nextRaw⟩ := by
  obtain ⟨node, port⟩ := registration
  rw [register]
  cases registry.live[identity]? with
  | some existing => simp
  | none =>
      cases registry.freePorts.toList.head? with
      | none => simp
      | some first => simp [eq_comm, and_comm]

/-- The first of the free ports is the smallest. -/
theorem le_of_head? {port : UInt16} (first : registry.freePorts.toList.head? = some port)
    {other : UInt16} (free : other ∈ registry.freePorts) : port ≤ other := by
  obtain ⟨rest, listed⟩ := List.head?_eq_some_iff.mp first
  have ordered : registry.freePorts.toList.Pairwise fun one other => compare one other = .lt :=
    ExtTreeSet.ordered_toList
  rw [← ExtTreeSet.mem_toList, listed, List.mem_cons] at free
  rw [listed, List.pairwise_cons] at ordered
  rcases free with rfl | later
  · exact UInt16.le_refl _
  · exact UInt16.le_of_lt (Std.compare_eq_lt.mp (ordered.1 other later))

theorem markDead_of_dead {node : NodeId} (dead : registry.isLive node = false) :
    registry.markDead node = (false, registry) := by
  refine Prod.ext ?_ (markDead_of_not_live dead)
  rw [markDead]
  cases known : registry.nodes[node]? with
  | none => rfl
  | some info =>
      have still : info.alive = false := by simpa [isLive, known] using dead
      simp only [still, Bool.false_eq_true, if_false]

/-! ### What stays in step -/

/-- The four parts of a table that gave out `given` agree: the counter with the number of
registrations, the records with the registrations, the identities with the records of the
living, and the free ports with what the living own. -/
structure InStep (range : PortRange) (given : List Registration) (registry : Registry) :
    Prop where
  next : registry.nextRaw = UInt64.ofNat (given.length + 1)
  numbered : given.map (·.node.raw.toNat) = List.range' 1 given.length
  recorded (node : NodeId) (port : UInt16) :
    (∃ info, registry.nodes[node]? = some info ∧ info.port = port) ↔ ⟨node, port⟩ ∈ given
  identified (identity : String) (node : NodeId) : registry.live[identity]? = some node ↔
    ∃ info, registry.nodes[node]? = some info ∧ info.alive = true ∧ info.identity = identity
  balanced : registry.Balanced range

theorem inStep_new (range : PortRange) : InStep range [] (new range) where
  next := rfl
  numbered := rfl
  recorded _ _ := by simp [new]
  identified _ _ := by simp [new]
  balanced := balanced_new range

/-- No number up to the count of registrations is given again. -/
theorem InStep.next_toNat (inStep : InStep range given registry)
    (few : given.length < UInt64.size - 1) : registry.nextRaw.toNat = given.length + 1 := by
  rw [inStep.next, UInt64.toNat_ofNat_of_lt' (by omega)]

theorem InStep.next_unknown (inStep : InStep range given registry)
    (few : given.length < UInt64.size - 1) :
    registry.nodes[(⟨registry.nextRaw⟩ : NodeId)]? = none := by
  cases known : registry.nodes[(⟨registry.nextRaw⟩ : NodeId)]? with
  | none => rfl
  | some info =>
      have among := (inStep.recorded _ _).mp ⟨info, known, rfl⟩
      have number := List.mem_map_of_mem (f := (·.node.raw.toNat)) among
      rw [inStep.numbered, List.mem_range'_1, inStep.next_toNat few] at number
      omega

/-- A registration adds the next number and takes a port. -/
theorem InStep.register (inStep : InStep range given registry)
    (few : given.length < UInt64.size - 1) {identity : String} {registration : Registration}
    (accepted : (registry.register identity).1 = .ok registration) :
    InStep range (given ++ [registration]) (registry.register identity).2 := by
  obtain ⟨unused, -, due⟩ := register_ok_iff.mp accepted
  obtain ⟨-, -, later⟩ := register_eq accepted
  have unknown : registry.nodes[registration.node]? = none := by
    rw [due]
    exact inStep.next_unknown few
  have nodes (node : NodeId) : (registry.register identity).2.nodes[node]? =
      if registration.node = node then some ⟨identity, registration.port, true⟩
      else registry.nodes[node]? := by
    rw [later, ExtTreeMap.getElem?_insert]
    simp only [Std.compare_eq_iff_eq]
  have lives (name : String) : (registry.register identity).2.live[name]? =
      if identity = name then some registration.node else registry.live[name]? := by
    rw [later, ExtTreeMap.getElem?_insert]
    simp only [Std.compare_eq_iff_eq]
  constructor
  case next =>
    rw [later, List.length_append, List.length_singleton, UInt64.ofNat_add, ← inStep.next]
    rfl
  case numbered =>
    rw [List.map_append, List.length_append, List.length_singleton, List.range'_1_concat,
      inStep.numbered, List.map_singleton, due, inStep.next_toNat few, Nat.add_comm 1]
  case recorded =>
    intro node port
    rw [nodes, List.mem_append, List.mem_singleton, ← inStep.recorded]
    by_cases same : registration.node = node
    · subst same
      obtain ⟨number, taken⟩ := registration
      simp [unknown, eq_comm]
    · have other : ¬ (⟨node, port⟩ : Registration) = registration :=
        fun equal => same (congrArg Registration.node equal.symm)
      rw [if_neg same, or_iff_left other]
  case identified =>
    intro name node
    rw [nodes, lives]
    by_cases same : registration.node = node
    · subst same
      rw [if_pos rfl]
      by_cases called : identity = name
      · simp [called]
      · rw [if_neg called, inStep.identified, unknown]
        simp [called]
    · rw [if_neg same, ← inStep.identified]
      by_cases called : identity = name
      · subst called
        simp [same, unused]
      · rw [if_neg called]
  case balanced =>
    exact inStep.balanced.register accepted (by simp [isLive, unknown])

/-- A death takes the name out of use and frees the port. -/
theorem InStep.markDead (inStep : InStep range given registry) (victim : NodeId) :
    InStep range given (registry.markDead victim).2 := by
  cases live : registry.isLive victim with
  | false => rwa [markDead_of_not_live live]
  | true =>
      obtain ⟨dying, known, alive⟩ := exists_of_live live
      have named : registry.live[dying.identity]? = some victim :=
        (inStep.identified _ _).mpr ⟨dying, known, alive, rfl⟩
      have nodes (node : NodeId) : (registry.markDead victim).2.nodes[node]? =
          if victim = node then some { dying with alive := false }
          else registry.nodes[node]? := by
        rw [markDead_of_live known alive, ExtTreeMap.getElem?_insert]
        simp only [Std.compare_eq_iff_eq]
      have lives (name : String) : (registry.markDead victim).2.live[name]? =
          if dying.identity = name then none else registry.live[name]? := by
        rw [markDead_of_live known alive, ExtTreeMap.getElem?_erase]
        simp only [Std.compare_eq_iff_eq]
      constructor
      case next => rw [nextRaw_markDead, inStep.next]
      case numbered => exact inStep.numbered
      case recorded =>
        intro node port
        rw [nodes, ← inStep.recorded]
        by_cases same : victim = node
        · subst same
          simp [known]
        · rw [if_neg same]
      case identified =>
        intro name node
        rw [nodes, lives]
        by_cases same : victim = node
        · subst same
          by_cases called : dying.identity = name
          · simp [called]
          · rw [if_neg called, inStep.identified, known]
            simp [called]
        · rw [if_neg same, ← inStep.identified]
          by_cases called : dying.identity = name
          · subst called
            simp [named, same]
          · rw [if_neg called]
      case balanced => exact inStep.balanced.markDead victim

theorem InStep.step (inStep : InStep range given registry) (call : Call)
    (few : (given ++ (registry.step call).1).length < UInt64.size - 1) :
    InStep range (given ++ (registry.step call).1) (registry.step call).2 := by
  cases call with
  | markDead node =>
      rw [Registry.step, List.append_nil]
      exact inStep.markDead node
  | register identity =>
      simp only [Registry.step] at few ⊢
      cases answer : (registry.register identity).1 with
      | error cause =>
          rw [register_of_error answer]
          simpa [Except.toOption] using inStep
      | ok registration =>
          refine inStep.register ?_ answer
          rw [List.length_append] at few
          omega

theorem InStep.run (inStep : InStep range given registry) (calls : List Call)
    (few : (given ++ (registry.run calls).1).length < UInt64.size - 1) :
    InStep range (given ++ (registry.run calls).1) (registry.run calls).2 := by
  induction calls generalizing registry given with
  | nil =>
      rw [Registry.run, List.append_nil]
      exact inStep
  | cons call calls ih =>
      rw [Registry.run, ← List.append_assoc] at few ⊢
      refine ih (inStep.step call ?_) few
      rw [List.length_append] at few
      omega

/-- Through any calls, only those who register are new to the table. -/
theorem follows_run (registry : Registry) (calls : List Call) :
    registry.Follows (registry.run calls).2 ((registry.run calls).1.map (·.node)) := by
  induction calls generalizing registry with
  | nil => exact .refl registry
  | cons call calls ih =>
      have early :
          registry.Follows (registry.step call).2 ((registry.step call).1.map (·.node)) := by
        cases call with
        | markDead node => exact .markDead registry node
        | register identity =>
            rw [step]
            cases answer : (registry.register identity).1 with
            | error cause =>
                rw [register_of_error answer]
                exact .refl registry
            | ok registration => exact .register answer
      rw [run, List.map_append]
      exact early.trans (ih _)

/-! ### What follows for the living and their ports -/

/-- The table of nodes after it gave out `given`, for those who look at it from outside:
numbers count up from one and each record is that of a registration; a name is in use by
the one living node that bears it; and each port between the ends of the range is free or
some living node's, and not twice. -/
structure Orderly (range : PortRange) (given : List Registration) (registry : Registry) :
    Prop where
  numbered : given.map (·.node.raw.toNat) = List.range' 1 given.length
  recorded (node : NodeId) (port : UInt16) :
    (∃ info, registry.nodes[node]? = some info ∧ info.port = port) ↔ ⟨node, port⟩ ∈ given
  identified (identity : String) (node : NodeId) : registry.live[identity]? = some node ↔
    ∃ info, (node, info) ∈ registry.living ∧ info.identity = identity
  sole {first second : NodeId × NodeInfo} : first ∈ registry.living → second ∈ registry.living →
    first.2.identity = second.2.identity → first = second
  counted : registry.liveCount = registry.living.length
  distinct : (registry.living.map (·.2.port) ++ registry.freePorts.toList).Nodup
  covered (port : UInt16) :
    port ∈ registry.living.map (·.2.port) ++ registry.freePorts.toList ↔
      range.first ≤ port ∧ port ≤ range.last

theorem InStep.sole (inStep : InStep range given registry) {first second : NodeId × NodeInfo}
    (one : first ∈ registry.living) (other : second ∈ registry.living)
    (same : first.2.identity = second.2.identity) : first = second := by
  obtain ⟨node, info⟩ := first
  obtain ⟨node', info'⟩ := second
  obtain ⟨known, alive⟩ := mem_living.mp one
  obtain ⟨known', alive'⟩ := mem_living.mp other
  have named := (inStep.identified info.identity node).mpr ⟨info, known, alive, rfl⟩
  have named' := (inStep.identified info.identity node').mpr ⟨info', known', alive', same.symm⟩
  rw [named, Option.some.injEq] at named'
  subst named'
  rw [known, Option.some.injEq] at known'
  rw [known']

/-- The names in use are as many as the living. -/
theorem InStep.counted (inStep : InStep range given registry) :
    registry.liveCount = registry.living.length := by
  have names : (registry.living.map (·.2.identity)).Perm registry.live.keys := by
    rw [List.perm_ext_iff_of_nodup
      (List.Nodup.map_on (fun _ one _ other => inStep.sole one other) registry.nodup_living)
      ExtTreeMap.nodup_keys]
    intro identity
    rw [ExtTreeMap.mem_keys, ExtTreeMap.mem_iff_isSome_getElem?, Option.isSome_iff_exists,
      List.mem_map]
    simp only [inStep.identified, Prod.exists, mem_living]
    constructor
    · rintro ⟨node, info, ⟨known, alive⟩, called⟩
      exact ⟨node, info, known, alive, called⟩
    · rintro ⟨node, info, known, alive, called⟩
      exact ⟨node, info, ⟨known, alive⟩, called⟩
  rw [liveCount, ← ExtTreeMap.length_keys, ← names.length_eq, List.length_map]

theorem mem_ports_living {port : UInt16} :
    port ∈ registry.living.map (·.2.port) ↔ ∃ node, registry.Owns node port := by
  rw [List.mem_map]
  constructor
  · rintro ⟨⟨node, info⟩, lives, has⟩
    obtain ⟨known, alive⟩ := mem_living.mp lives
    exact ⟨node, info, known, alive, has⟩
  · rintro ⟨node, info, known, alive, has⟩
    exact ⟨(node, info), mem_living.mpr ⟨known, alive⟩, has⟩

theorem Balanced.nodup_ports (balanced : registry.Balanced range) :
    (registry.living.map (·.2.port)).Nodup := by
  refine List.Nodup.map_on (fun ⟨node, info⟩ one ⟨node', info'⟩ other same => ?_)
    registry.nodup_living
  obtain ⟨known, alive⟩ := mem_living.mp one
  obtain ⟨known', alive'⟩ := mem_living.mp other
  obtain rfl := balanced.alone ⟨info, known, alive, rfl⟩ ⟨info', known', alive', same.symm⟩
  rw [known, Option.some.injEq] at known'
  rw [known']

theorem nodup_freePorts (registry : Registry) : registry.freePorts.toList.Nodup := by
  have distinct : registry.freePorts.toList.Pairwise
      fun first second => ¬ compare first second = .eq := ExtTreeSet.distinct_toList
  exact distinct.imp fun different same => different (Std.compare_eq_iff_eq.mpr same)

/-- The ports of the living and the free ports are those of the range, in some order. -/
theorem Balanced.partition (balanced : registry.Balanced range) :
    (registry.living.map (·.2.port) ++ registry.freePorts.toList).Perm range.toList := by
  have apart : (registry.living.map (·.2.port)).Disjoint registry.freePorts.toList := by
    intro port taken free
    obtain ⟨node, owned⟩ := mem_ports_living.mp taken
    exact ((balanced.free port).mp (ExtTreeSet.mem_toList.mp free)).2 node owned
  rw [List.perm_ext_iff_of_nodup
    (List.nodup_append'.mpr ⟨balanced.nodup_ports, registry.nodup_freePorts, apart⟩)
    range.nodup_toList]
  intro port
  rw [List.mem_append, mem_ports_living, ExtTreeSet.mem_toList, balanced.free]
  constructor
  · rintro (⟨node, owned⟩ | ⟨among, -⟩)
    · exact balanced.inRange owned
    · exact among
  · intro among
    by_cases owned : ∃ node, registry.Owns node port
    · exact Or.inl owned
    · exact Or.inr ⟨among, not_exists.mp owned⟩

theorem InStep.orderly (inStep : InStep range given registry) : Orderly range given registry where
  numbered := inStep.numbered
  recorded := inStep.recorded
  identified identity node := by simp only [inStep.identified, mem_living, and_assoc]
  sole := inStep.sole
  counted := inStep.counted
  distinct := inStep.balanced.partition.nodup_iff.mpr range.nodup_toList
  covered port := by rw [inStep.balanced.partition.mem_iff, PortRange.mem_toList]

/-- A port is free exactly if fewer nodes live than there are ports. -/
theorem InStep.free_iff (inStep : InStep range given registry) :
    (∃ port, registry.freePorts.toList.head? = some port) ↔ registry.liveCount < range.size := by
  have whole := inStep.balanced.partition.length_eq
  rw [List.length_append, List.length_map, PortRange.length_toList, ← inStep.counted] at whole
  cases free : registry.freePorts.toList with
  | nil =>
      rw [free, List.length_nil] at whole
      exact iff_of_false (by simp) (by omega)
  | cons port rest =>
      rw [free, List.length_cons] at whole
      exact iff_of_true ⟨port, rfl⟩ (by omega)

/-- A registration succeeds exactly if nobody lives under the name and a port is left. -/
theorem InStep.register_succeeds_iff (inStep : InStep range given registry) (identity : String) :
    (∃ registration, (registry.register identity).1 = .ok registration) ↔
      (∀ known ∈ registry.living, known.2.identity ≠ identity) ∧
        registry.liveCount < range.size := by
  have unused : registry.live[identity]? = none ↔
      ∀ known ∈ registry.living, known.2.identity ≠ identity := by
    rw [Option.eq_none_iff_forall_ne_some]
    simp only [ne_eq, inStep.orderly.identified, not_exists, not_and, Prod.forall]
  rw [← unused, ← inStep.free_iff]
  constructor
  · rintro ⟨registration, accepted⟩
    obtain ⟨absent, first, -⟩ := register_ok_iff.mp accepted
    exact ⟨absent, registration.port, first⟩
  · rintro ⟨absent, port, first⟩
    exact ⟨⟨⟨registry.nextRaw⟩, port⟩, register_ok_iff.mpr ⟨absent, first, rfl⟩⟩

/-! ### Every run -/

/-- After any calls the table is in order, as long as there are numbers left: the
registrations so far are numbered from one upwards; the names in use are those of the
living; the ports of the living differ, and with the free ports they are the range. Then a
registration succeeds exactly if nobody lives under its name and fewer nodes live than
there are ports, and it gives the next number and the smallest free port. A registration
that fails changes nothing, and neither does the death of a node that is not alive. Whoever
was dead at any earlier time is dead. -/
theorem run_orderly (range : PortRange) (calls : List Call)
    (few : ((new range).run calls).1.length < UInt64.size - 1) :
    let given := ((new range).run calls).1
    let registry := ((new range).run calls).2
    Orderly range given registry ∧
    (∀ identity, (∃ registration, (registry.register identity).1 = .ok registration) ↔
      (∀ known ∈ registry.living, known.2.identity ≠ identity) ∧
        registry.liveCount < range.size) ∧
    (∀ identity registration, (registry.register identity).1 = .ok registration →
      registration.node.raw.toNat = given.length + 1 ∧ registration.port ∈ registry.freePorts ∧
        ∀ port ∈ registry.freePorts, registration.port ≤ port) ∧
    (∀ identity cause, (registry.register identity).1 = .error cause →
      (registry.register identity).2 = registry) ∧
    (∀ node, registry.isLive node = false → registry.markDead node = (false, registry)) ∧
    (∀ earlier later, calls = earlier ++ later →
      ∀ node ∈ ((new range).run earlier).2.nodes,
        ((new range).run earlier).2.isLive node = false → registry.isLive node = false) := by
  intro given registry
  have inStep : InStep range given registry := (inStep_new range).run calls few
  refine ⟨inStep.orderly, inStep.register_succeeds_iff, ?_, fun identity cause => register_of_error,
    fun node => markDead_of_dead, ?_⟩
  · intro identity registration accepted
    obtain ⟨-, first, due⟩ := register_ok_iff.mp accepted
    exact ⟨due ▸ inStep.next_toNat few, (register_eq accepted).2.1, fun port => le_of_head? first⟩
  · rintro earlier later rfl node known dead
    have both :
        given = ((new range).run earlier).1 ++ (((new range).run earlier).2.run later).1 := by
      simp only [given, run_append]
    have final : registry = (((new range).run earlier).2.run later).2 := by
      simp only [registry, run_append]
    have before : InStep range ((new range).run earlier).1 ((new range).run earlier).2 := by
      refine (inStep_new range).run earlier ?_
      change given.length < UInt64.size - 1 at few
      rw [both, List.length_append] at few
      exact Nat.lt_of_le_of_lt (Nat.le_add_right _ _) few
    -- The dead node has its number from an earlier call, so no later one gives it again.
    rw [ExtTreeMap.mem_iff_isSome_getElem?, Option.isSome_iff_exists] at known
    obtain ⟨info, known⟩ := known
    have old := (before.recorded node info.port).mp ⟨info, known, rfl⟩
    have numbers : (given.map (·.node.raw.toNat)).Nodup := by
      rw [inStep.numbered]
      exact List.nodup_range'
    have unrenewed : node ∉ (((new range).run earlier).2.run later).1.map (·.node) := by
      intro again
      obtain ⟨renewal, among, same⟩ := List.mem_map.mp again
      rw [both, List.map_append, List.nodup_append'] at numbers
      refine numbers.2.2 (List.mem_map_of_mem old) (List.mem_map.mpr ⟨renewal, among, ?_⟩)
      rw [same]
    refine Bool.eq_false_iff.mpr fun live => ?_
    rw [final] at live
    exact Bool.eq_false_iff.mp dead ((follows_run _ later).live unrenewed live)

/-- Two ports are there for three nodes. The second name is tried again while it is in use,
the third while no port is free; then the first node dies, and once more, and a node dies
that nobody knows. -/
def crowded : List Call :=
  [.register "a", .register "b", .register "b", .register "c", .markDead 1, .markDead 1,
    .markDead 9, .register "c"]

/-- The third node takes over the port of the first, under a number of its own, and after
that there is no port for the first to come back. -/
theorem run_orderly_crowded :
    let outcome := (new ⟨7000, 7001⟩).run crowded
    outcome.1.length < UInt64.size - 1 ∧ outcome.1 = [⟨1, 7000⟩, ⟨2, 7001⟩, ⟨3, 7000⟩] ∧
      Orderly ⟨7000, 7001⟩ outcome.1 outcome.2 ∧ outcome.2.isLive 1 = false ∧
      ¬ ∃ registration, (outcome.2.register "a").1 = .ok registration := by
  intro outcome
  have given : outcome.1 = [⟨1, 7000⟩, ⟨2, 7001⟩, ⟨3, 7000⟩] := by decide +kernel
  have few : outcome.1.length < UInt64.size - 1 := by
    rw [given]
    decide
  have orderly := run_orderly ⟨7000, 7001⟩ crowded few
  refine ⟨few, given, orderly.1, by decide +kernel, fun accepted => ?_⟩
  have room : outcome.2.liveCount < PortRange.size ⟨7000, 7001⟩ := ((orderly.2.1 "a").mp accepted).2
  revert room
  decide +kernel

end Registry

end CacheDirectory
