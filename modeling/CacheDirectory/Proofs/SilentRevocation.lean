/-
Module: CacheDirectory.Proofs.SilentRevocation
Purpose: The directory never takes access from a living node behind its back. A node
  that was told of access, and has neither given it up nor acknowledged a request to
  release it since, still has it, or a request to release it is on the way.
Trusted boundary: none
Main exports: Event.Entrusts, Event.Ends, View.Awaits, View.Covers, Effect.covers,
  Trusted.effect, Cluster.no_silent_revocation
-/
import CacheDirectory.Proofs.Outstanding

namespace CacheDirectory

open Std

namespace Event

/-- The node is told that it has access to the key. -/
def Entrusts (node : NodeId) (key : Key) : Event → Prop
  | .granted target taken _ => target = node ∧ taken = key
  | _ => False

/-- The node no longer relies on its access to the key: it gave the key up, or
acknowledged a request to release it, or is a new node of the same number, as there
is one once the numbers are used up. -/
def Ends (node : NodeId) (key : Key) : Event → Prop
  | .gaveUp target given => target = node ∧ given = key
  | .acknowledged target given => target = node ∧ given = key
  | .registered fresh => fresh = node
  | _ => False

instance (node : NodeId) (key : Key) : DecidablePred (Entrusts node key)
  | .granted _ _ _ => inferInstanceAs (Decidable (_ ∧ _))
  | .registered _ | .gaveUp _ _ | .acknowledged _ _ | .submitted _ | .cleared _ _ => isFalse id

instance (node : NodeId) (key : Key) : DecidablePred (Ends node key)
  | .gaveUp _ _ | .acknowledged _ _ => inferInstanceAs (Decidable (_ ∧ _))
  | .registered _ => inferInstanceAs (Decidable (_ = _))
  | .granted _ _ _ | .submitted _ | .cleared _ _ => isFalse id

end Event

/-- A request to the node for the key waits for an acknowledgement. -/
def View.Awaits (view : View) (node : NodeId) (key : Key) : Prop :=
  ∃ request : ReleaseRequest, request.target = node ∧ request.key = key ∧
    (request ∈ view.directory.pending ∨
      ∃ flight ∈ view.flights, flight.request = request ∧ flight.verdict ≠ some true)

/-- What a node may rely on. -/
def View.Covers (view : View) (node : NodeId) (key : Key) : Prop :=
  view.directory.registry.isLive node = true →
    (view.directory.table.holder key node).isSome ∨ view.Awaits node key

namespace View.Awaits

variable {directory : Directory} {flights : List Flight} {node : NodeId} {key : Key}

/-- More pending requests and the same deliveries. -/
theorem of_pending {later : Directory} (awaits : View.Awaits ⟨directory, flights⟩ node key)
    (more : ∀ request ∈ directory.pending, request ∈ later.pending) :
    View.Awaits ⟨later, flights⟩ node key := by
  obtain ⟨request, target, taken, pending | flying⟩ := awaits
  · exact ⟨request, target, taken, Or.inl (more request pending)⟩
  · exact ⟨request, target, taken, Or.inr flying⟩

theorem depart (awaits : View.Awaits ⟨directory, flights⟩ node key) {index : Nat}
    {departing : ReleaseRequest} (due : Nat)
    (waiting : directory.pending[index]? = some departing) :
    View.Awaits ⟨{ directory with pending := directory.pending.eraseIdx index },
      flights ++ [{ request := departing, due := due }]⟩ node key := by
  obtain ⟨request, target, taken, pending | ⟨flight, flying, same, unanswered⟩⟩ := awaits
  · rcases List.mem_cons.mp ((perm_eraseIdx waiting).mem_iff.mp pending) with rfl | stays
    · exact ⟨request, target, taken, Or.inr ⟨_, List.mem_append_right flights
        List.mem_cons_self, rfl, nofun⟩⟩
    · exact ⟨request, target, taken, Or.inl stays⟩
  · exact ⟨request, target, taken, Or.inr ⟨flight, List.mem_append_left _ flying, same,
      unanswered⟩⟩

/-- Another delivery goes on, or this one does without an acknowledgement. -/
theorem proceed (awaits : View.Awaits ⟨directory, flights⟩ node key) {index : Nat}
    {flight later : Flight} (flying : flights[index]? = some flight)
    (same : later.request = flight.request)
    (unrelated : ¬ (flight.request.target = node ∧ flight.request.key = key) ∨
      later.verdict ≠ some true) :
    View.Awaits ⟨directory, flights.set index later⟩ node key := by
  obtain ⟨request, target, taken, pending | ⟨other, present, is, unanswered⟩⟩ := awaits
  · exact ⟨request, target, taken, Or.inl pending⟩
  · obtain ⟨position, found⟩ := List.mem_iff_getElem?.mp present
    refine ⟨request, target, taken, Or.inr ?_⟩
    by_cases here : index = position
    · subst here
      rw [flying] at found
      cases found
      subst is
      obtain ⟨inside, -⟩ := List.getElem?_eq_some_iff.mp flying
      rcases unrelated with elsewhere | silent
      · exact absurd ⟨target, taken⟩ elsewhere
      · exact ⟨later, List.mem_set inside later, same, silent⟩
    · refine ⟨other, List.mem_iff_getElem?.mpr ⟨position, ?_⟩, is, unanswered⟩
      rw [List.getElem?_set_ne here]
      exact found

theorem land (awaits : View.Awaits ⟨directory, flights⟩ node key) {index : Nat}
    {flight : Flight} (flying : flights[index]? = some flight)
    (unrelated : ¬ (flight.request.target = node ∧ flight.request.key = key) ∨
      flight.verdict = some true) :
    View.Awaits ⟨directory, flights.eraseIdx index⟩ node key := by
  obtain ⟨request, target, taken, pending | ⟨other, present, is, unanswered⟩⟩ := awaits
  · exact ⟨request, target, taken, Or.inl pending⟩
  · rcases List.mem_cons.mp ((perm_eraseIdx flying).mem_iff.mp present) with rfl | stays
    · subst is
      rcases unrelated with elsewhere | answered
      · exact absurd ⟨target, taken⟩ elsewhere
      · exact absurd answered unanswered
    · exact ⟨request, target, taken, Or.inr ⟨other, stays, is, unanswered⟩⟩

end View.Awaits

/-! ### Effects -/

section

variable {reliable : Prop} {before after : View} {events : List Event} {node : NodeId} {key : Key}

/-- A grant moves a holder that it displaces to the pending requests. -/
theorem View.Covers.grant {directory : Directory} {flights : List Flight}
    (collecting : directory.sink = .collecting)
    (covers : View.Covers ⟨directory, flights⟩ node key) (requester : NodeId) (taken : Key)
    (mode : Mode) :
    View.Covers ⟨(directory.grant requester taken mode).2, flights⟩ node key := by
  intro live
  rw [Directory.registry_grant] at live
  have more : ∀ request ∈ directory.pending,
      request ∈ (directory.grant requester taken mode).2.pending := by
    intro request among
    rw [Directory.pending_grant]
    exact List.mem_append_left _ among
  rcases covers live with holds | awaits
  · change (((directory.grant requester taken mode).2.table.entry key).holder node).isSome ∨ _
    rw [Directory.entry_grant]
    split
    case isFalse => exact Or.inl holds
    case isTrue same =>
      subst same
      rw [Entry.holder_grant]
      split
      case isTrue => exact Or.inl rfl
      case isFalse =>
        cases demanded : (directory.table.entry key).demand requester mode node with
        | none => exact Or.inl holds
        | some kind =>
            have asked : ⟨node, key, kind⟩ ∈ directory.asked requester key mode :=
              (Directory.mem_asked collecting _ _ _ _).mpr ⟨rfl, demanded⟩
            refine Or.inr ⟨⟨node, key, kind⟩, rfl, rfl, Or.inl ?_⟩
            rw [Directory.pending_grant]
            exact List.mem_append_right _ asked
  · exact Or.inr (awaits.of_pending more)

/-- That a key was tracked for a moment concerns nobody. -/
theorem View.Covers.forgo {directory : Directory} {flights : List Flight} {other : Key}
    (covers : View.Covers ⟨directory, flights⟩ node key) :
    View.Covers ⟨directory.forgo other, flights⟩ node key := by
  intro live
  have same : (directory.forgo other).table.holder key node = directory.table.holder key node := by
    rw [Table.holder_eq, Directory.entry_forgo, Table.holder_eq]
  change ((directory.forgo other).table.holder key node).isSome ∨ _
  rw [same]
  exact covers live

/-- A release by another node, or of another key, is of no concern. -/
theorem View.Covers.release {directory : Directory} {flights : List Flight}
    (covers : View.Covers ⟨directory, flights⟩ node key) {holder : NodeId} {given : Key}
    (unrelated : ¬ (holder = node ∧ given = key)) :
    View.Covers ⟨(directory.release holder given).2, flights⟩ node key := by
  intro live
  rcases covers live with holds | awaits
  · left
    change (((directory.release holder given).2.table.entry key).holder node).isSome
    rw [Directory.entry_release]
    split
    case isFalse => exact holds
    case isTrue same =>
      subst same
      have other : ¬ node = holder := fun equal => unrelated ⟨equal.symm, rfl⟩
      rw [Entry.holder_release, if_neg other]
      exact holds
  · exact Or.inr awaits

/-- The end of a record changes no holder. -/
theorem View.Covers.complete {directory : Directory} {flights : List Flight}
    (covers : View.Covers ⟨directory, flights⟩ node key) (target : NodeId) (asked : Key) :
    View.Covers ⟨(directory.completeRelease target asked).2, flights⟩ node key := by
  intro live
  have same : (directory.completeRelease target asked).2.table.holder key node =
      directory.table.holder key node := by
    rw [Table.holder_eq, Directory.entry_completeRelease]
    split
    case isTrue same => rw [same, Entry.holder_completeRelease, Table.holder_eq]
    case isFalse => rfl
  change ((directory.completeRelease target asked).2.table.holder key node).isSome ∨ _
  rw [same]
  exact covers live

/-- What a failed node loses, it may not rely on any more. -/
theorem View.Covers.fail {directory : Directory} {flights : List Flight} {victim : NodeId}
    (covers : victim ≠ node → View.Covers ⟨directory, flights⟩ node key) :
    View.Covers ⟨(directory.nodeFailed victim).2, flights⟩ node key := by
  intro live
  change (directory.nodeFailed victim).2.registry.isLive node = true at live
  rw [Directory.isLive_nodeFailed, Bool.and_eq_true, bne_iff_ne] at live
  have same : (directory.nodeFailed victim).2.table.holder key node =
      directory.table.holder key node := by
    rw [Table.holder_eq, Directory.entry_nodeFailed, Entry.holder_strip, if_neg live.2,
      Table.holder_eq]
  change ((directory.nodeFailed victim).2.table.holder key node).isSome ∨ _
  rw [same]
  exact covers (Ne.symm live.2) live.1

theorem Effect.covers (effect : Effect reliable False before events after) (answering : reliable)
    (collecting : before.directory.sink = .collecting) (covers : before.Covers node key)
    (unended : ∀ event ∈ events, ¬ event.Ends node key) : after.Covers node key := by
  cases effect with
  | died directory flights victims =>
      intro live
      exact covers (Registry.isLive_of_isLive_markAllDead live)
  | forgone directory _ other => exact covers.forgo
  | @registered directory _ _ registration accepted =>
      intro live
      have distinct : registration.node ≠ node := unended _ List.mem_cons_self
      change (directory.register _).2.registry.isLive node = true at live
      rw [Directory.isLive_register accepted distinct] at live
      exact covers live
  | @granted _ _ requester taken mode live => exact covers.grant collecting requester taken mode
  | told => exact covers
  | @withdrawn directory _ holder given dead =>
      by_cases same : holder = node
      · intro live
        have gone : directory.registry.isLive node = false := same ▸ dead answering
        change directory.registry.isLive node = true at live
        rw [gone] at live
        cases live
      · exact covers.release fun both => same both.1
  | gaveUp directory flights holder given =>
      by_cases same : holder = node ∧ given = key
      · obtain ⟨rfl, rfl⟩ := same
        intro live
        apply (covers live).imp_left
        intro holds
        have had : (directory.release holder given).1 = true := by
          rw [Directory.release_fst]
          exact holds
        rw [had] at unended
        exact absurd ⟨rfl, rfl⟩ (unended _ List.mem_cons_self)
      · exact covers.release same
  | completed _ _ target asked => exact covers.complete target asked
  | stripped _ _ _ _ allowed => exact absurd allowed id
  | failed => exact View.Covers.fail fun _ => covers
  | departed flights due waiting =>
      intro live
      apply (covers live).imp_right
      intro awaits
      exact awaits.depart due waiting
  | @continued directory flights index flight later flying same =>
      intro live
      apply (covers live).imp_right
      intro awaits
      apply awaits.proceed flying same
      by_cases acknowledged : later.verdict = some true
      · rw [if_pos acknowledged] at unended
        exact Or.inl (unended _ List.mem_cons_self)
      · exact Or.inr acknowledged
  | @settled directory flights index flight flying gone =>
      have landed : ¬ (flight.request.target = node ∧ flight.request.key = key) ∨
          flight.verdict = some true →
            View.Covers ⟨directory, flights.eraseIdx index⟩ node key := by
        intro unrelated live
        apply (covers live).imp_right
        intro awaits
        exact awaits.land flying unrelated
      rcases verdict : flight.verdict with - | acknowledged
      · simp only [Flight.ending, verdict]
        by_cases same : flight.request.target = node
        · intro live
          have dead := gone verdict
          rw [same] at dead
          exact absurd live (Bool.eq_false_iff.mp dead)
        · exact (landed (Or.inl fun both => same both.1)).complete _ _
      · cases acknowledged with
        | true =>
            simp only [Flight.ending, verdict]
            exact (landed (Or.inr verdict)).complete _ _
        | false =>
            simp only [Flight.ending, verdict]
            exact View.Covers.fail fun distinct => landed (Or.inl fun both => distinct both.1)

/-- What ends the reliance on a key leaves no other trace. -/
theorem Effect.ends_alone {forced : Prop} (effect : Effect reliable forced before events after) :
    ∀ event ∈ events, event.Ends node key → events = [event] := by
  intro event among ends
  rcases effect.alone event among with ⟨request, rfl⟩ | alone
  · exact absurd ends id
  · exact alone

/-- Nodes are told only of access that they have. -/
theorem Effect.covers_of_entrusts {forced : Prop}
    (effect : Effect reliable forced before events after) {event : Event}
    (among : event ∈ events) (entrusts : event.Entrusts node key) : after.Covers node key := by
  cases effect with
  | died | forgone | withdrawn | departed => cases among
  | granted =>
      obtain ⟨request, -, rfl⟩ := List.mem_map.mp among
      exact absurd entrusts id
  | gaveUp directory _ holder given =>
      rw [Event.ofRelease_ok] at among
      split at among
      case isTrue =>
        rw [List.mem_singleton.mp among] at entrusts
        exact absurd entrusts id
      case isFalse => cases among
  | continued =>
      split at among
      case isTrue =>
        rw [List.mem_singleton.mp among] at entrusts
        exact absurd entrusts id
      case isFalse => cases among
  | told holds =>
      rw [List.mem_singleton.mp among] at entrusts
      obtain ⟨rfl, rfl⟩ := entrusts
      exact fun _ => Or.inl (by rw [holds]; rfl)
  | @settled directory _ _ flight =>
      obtain ⟨scope, traced, -, -⟩ := directory.clears_settle flight.request flight.ending
      rw [traced] at among
      rw [List.mem_singleton.mp among] at entrusts
      exact absurd entrusts id
  | registered | completed | stripped | failed =>
      rw [List.mem_singleton.mp among] at entrusts
      exact absurd entrusts id

end

/-! ### Runs -/

/-- The history justifies no more reliance on access than the state does. -/
structure Trusted (history : List Event) (view : View) : Prop where
  collecting : view.directory.sink = .collecting
  covers : ∀ node key, Since (Event.Entrusts node key) (Event.Ends node key) history →
    view.Covers node key

theorem trusted_start (range : PortRange) :
    Trusted [] ⟨Directory.new range .collecting, []⟩ := by
  constructor
  case collecting => rfl
  case covers =>
    intro node key since
    exact absurd since not_since_nil

theorem Event.Ends.not_entrusts {event : Event} {node : NodeId} {key : Key}
    (ends : event.Ends node key) : ¬ event.Entrusts node key := by
  cases event <;> first | exact id | exact absurd ends id

theorem Trusted.effect {reliable : Prop} {before after : View} {history events : List Event}
    (trusted : Trusted history before) (answering : reliable)
    (effect : Effect reliable False before events after) : Trusted (history ++ events) after := by
  constructor
  case collecting => exact effect.sink_eq.trans trusted.collecting
  case covers =>
    intro node key since
    rw [since_append_of_alone fun event among ends =>
      ⟨effect.ends_alone event among ends, ends.not_entrusts⟩] at since
    rcases since with ⟨earlier, unended⟩ | ⟨event, among, entrusts⟩
    · have before : View.Covers _ node key := trusted.covers node key earlier
      exact effect.covers answering trusted.collecting before unended
    · exact effect.covers_of_entrusts among entrusts

namespace Cluster

/-- Over a store that answers, however nodes register, ask, give up, acknowledge and
die, and however requests are delivered: a living node that was told of access to a
key, and since then has neither given it up nor acknowledged a request to release it,
has access to it in the directory, or a request that it release it is under way. -/
theorem no_silent_revocation {σ : Type} [Backing σ] (reliable : Backing.Reliable σ)
    (range : PortRange) (settings : DeliverySettings) (store : σ) (endpoints : Endpoints)
    (steps : List (Step σ)) (unforced : ∀ step ∈ steps, step.isForced = false) (node : NodeId)
    (key : Key) :
    let history := ((start range .collecting settings store endpoints).run steps).1
    let cluster := ((start range .collecting settings store endpoints).run steps).2
    Since (Event.Entrusts node key) (Event.Ends node key) history →
      cluster.directory.registry.isLive node = true →
      (cluster.directory.table.holder key node).isSome ∨
        ∃ request ∈ cluster.outstanding, request.target = node ∧ request.key = key := by
  intro history cluster since live
  have never : ∀ step ∈ steps, step.isForced → False := by
    intro step among isForced
    rw [unforced step among] at isForced
    cases isForced
  have trusted : Trusted history cluster.view :=
    run_preserves never Trusted (trusted_start range)
      fun trusted effect => trusted.effect reliable effect
  rcases trusted.covers node key since live with holds | ⟨request, target, taken, pending⟩
  · left
    exact holds
  · refine Or.inr ⟨request, ?_, target, taken⟩
    rcases pending with pending | ⟨flight, flying, rfl, -⟩
    · exact List.mem_append_left _ pending
    · exact List.mem_append_right _ (List.mem_map_of_mem flying)

theorem reliable_store : Backing.Reliable Store :=
  ⟨fun _ _ => ⟨_, rfl⟩, fun _ _ => ⟨_, rfl⟩, fun _ _ => ⟨_, rfl⟩, fun _ _ => ⟨_, rfl⟩⟩

/-- The writer that lost the object does not have it, and is asked to release it. -/
theorem asked_displacedTwice :
    (oneObject.run displacedTwice).2.directory.table.holder (.object 5) 1 = none ∧
      ∃ request ∈ (oneObject.run displacedTwice).2.outstanding,
        request.target = 1 ∧ request.key = .object 5 := by
  have lost : (oneObject.run displacedTwice).2.directory.table.holder (.object 5) 1 = none := by
    decide +kernel
  have trusts : Since (Event.Entrusts 1 (.object 5)) (Event.Ends 1 (.object 5))
      (oneObject.run displacedTwice).1 := by
    decide +kernel
  have live : (oneObject.run displacedTwice).2.directory.registry.isLive 1 = true := by
    decide +kernel
  have covered := no_silent_revocation reliable_store _ _ _ _ displacedTwice (by decide) 1
    (.object 5) trusts live
  refine ⟨lost, covered.resolve_left ?_⟩
  intro holds
  change ((oneObject.run displacedTwice).2.directory.table.holder (.object 5) 1).isSome = true
    at holds
  rw [lost] at holds
  cases holds

end Cluster

end CacheDirectory
