/-
Module: CacheDirectory.Proofs.Scans
Purpose: A node that asks for one name or object after the other meets them in order and
  misses none that stays, whatever is stored or removed between its questions.
Trusted boundary: none
Main exports: Question, Sweep, Scan, Scan.Reliable, Happening, Cluster.questions,
  Cluster.scans_reliable
-/
import CacheDirectory.Proofs.ByteOrder
import CacheDirectory.Proofs.StableLookups
import Mathlib.Data.List.Nodup
import Mathlib.Data.List.Perm.Subperm

namespace CacheDirectory

open Std Wire

/-! ### Going through a map that changes -/

/-- One question of a scan: whether the node that asked it lived, what was stored then, and
what it was answered. -/
structure Question (κ ν : Type) where
  live : Bool
  store : Store
  answer : Except DirectoryError (Option (κ × ν))

namespace Question

variable {κ ν : Type}

/-- What came of the questions, one after the other. -/
def returned (questions : List (Question κ ν)) : List (κ × ν) :=
  questions.filterMap fun question => question.answer.toOption.join

/-- The scan came to its end: there was nothing more. -/
def Finished (questions : List (Question κ ν)) : Prop :=
  ∃ question ∈ questions, question.answer = .ok none

theorem returned_cons_some {question : Question κ ν} {found : κ × ν}
    (answered : question.answer = .ok (some found)) (rest : List (Question κ ν)) :
    returned (question :: rest) = found :: returned rest :=
  List.filterMap_cons_some (by rw [answered]; rfl)

theorem returned_cons_none {question : Question κ ν} (answered : question.answer = .ok none)
    (rest : List (Question κ ν)) : returned (question :: rest) = returned rest :=
  List.filterMap_cons_none (by rw [answered]; rfl)

theorem mem_returned {questions : List (Question κ ν)} {found : κ × ν} :
    found ∈ returned questions ↔ ∃ question ∈ questions, question.answer = .ok (some found) := by
  have answered (answer : Except DirectoryError (Option (κ × ν))) :
      answer.toOption.join = some found ↔ answer = .ok (some found) := by
    cases answer <;> simp [Except.toOption]
  simp only [returned, List.mem_filterMap, answered]

end Question

section

variable {κ ν : Type} [Ord κ] [TransOrd κ]

/-- The key comes behind the other one, if there is another one. -/
def behind (after : Option κ) (key : κ) : Bool :=
  after.all fun earlier => (compare earlier key).isLT

/-- The first association of a map whose key comes behind the other one. -/
def firstBehind? (map : ExtTreeMap κ ν) (after : Option κ) : Option (κ × ν) :=
  map.toList.find? fun association => behind after association.1

theorem behind_trans {after : Option κ} {key further : κ} (first : behind after key = true)
    (second : behind (some key) further = true) : behind after further = true := by
  cases after with
  | none => rfl
  | some earlier =>
      simp only [behind, Option.all_some, Ordering.isLT_iff_eq_lt] at first second ⊢
      exact TransCmp.lt_trans first second

theorem nodup_of_increasing {associations : List (κ × ν)}
    (increasing : associations.Pairwise fun one other => compare one.1 other.1 = .lt) :
    (associations.map (·.1)).Nodup := by
  rw [List.nodup_iff_pairwise_ne, List.pairwise_map]
  refine increasing.imp fun {one other} ordered same => ?_
  rw [same, ReflOrd.compare_self] at ordered
  cases ordered

/-- Each question is answered with the first that is stored behind what was found before.
Once nothing is found there are no more questions. -/
inductive Sweep (stored : Store → ExtTreeMap κ ν) : Option κ → List (Question κ ν) → Prop
  | stopped (after : Option κ) : Sweep stored after []
  | finished {after : Option κ} {question : Question κ ν} (answered : question.answer = .ok none)
      (nothing : firstBehind? (stored question.store) after = none) : Sweep stored after [question]
  | found {after : Option κ} {question : Question κ ν} {rest : List (Question κ ν)} {key : κ}
      {value : ν} (answered : question.answer = .ok (some (key, value)))
      (first : firstBehind? (stored question.store) after = some (key, value))
      (further : Sweep stored (some key) rest) : Sweep stored after (question :: rest)

namespace Sweep

open Question

variable {stored : Store → ExtTreeMap κ ν} {after : Option κ} {questions : List (Question κ ν)}

theorem answered (sweep : Sweep stored after questions) :
    ∀ question ∈ questions, ∃ found, question.answer = .ok found := by
  induction sweep with
  | stopped => exact nofun
  | finished answered => simp [answered]
  | found answered _ _ ih => simpa [answered] using ih

/-- As long as it has not come to its end every question finds something. -/
theorem length_returned (sweep : Sweep stored after questions) (unfinished : ¬ Finished questions) :
    (returned questions).length = questions.length := by
  induction sweep with
  | stopped => rfl
  | finished answered => exact absurd ⟨_, List.mem_cons_self, answered⟩ unfinished
  | @found _ question rest _ _ answered _ _ ih =>
      rw [returned_cons_some answered, List.length_cons, List.length_cons, ih]
      rintro ⟨last, among, ends⟩
      exact unfinished ⟨last, List.mem_cons_of_mem question among, ends⟩

end Sweep

variable [LawfulEqOrd κ]

theorem firstBehind?_eq_some {map : ExtTreeMap κ ν} {after : Option κ} {key : κ} {value : ν}
    (first : firstBehind? map after = some (key, value)) :
    map[key]? = some value ∧ behind after key = true ∧
      ∀ other ∈ map, behind after other = true → (compare key other).isLE :=
  Store.find?_toList_eq_some first

theorem firstBehind?_eq_none {map : ExtTreeMap κ ν} {after : Option κ}
    (nothing : firstBehind? map after = none) {key : κ} (present : key ∈ map) :
    behind after key = false := by
  obtain ⟨value, held⟩ :=
    Option.isSome_iff_exists.mp (ExtTreeMap.mem_iff_isSome_getElem?.mp present)
  have listed := ExtTreeMap.mem_toList_iff_getElem?_eq_some.mpr held
  exact Bool.eq_false_iff.mpr (List.find?_eq_none.mp nothing (key, value) listed)

namespace Sweep

open Question

variable {stored : Store → ExtTreeMap κ ν} {after : Option κ} {questions : List (Question κ ν)}

/-- What is found was stored when it was found. -/
theorem stored_of_found (sweep : Sweep stored after questions) {question : Question κ ν}
    (among : question ∈ questions) {key : κ} {value : ν}
    (found : question.answer = .ok (some (key, value))) :
    (stored question.store)[key]? = some value := by
  induction sweep with
  | stopped => cases among
  | finished answered =>
      rw [List.mem_singleton.mp among, answered] at found
      cases found
  | found answered first _ ih =>
      rcases List.mem_cons.mp among with rfl | among
      · rw [answered] at found
        cases found
        exact (firstBehind?_eq_some first).1
      · exact ih among

theorem behind_of_returned (sweep : Sweep stored after questions) :
    ∀ found ∈ returned questions, behind after found.1 = true := by
  induction sweep with
  | stopped => exact nofun
  | finished answered =>
      rw [returned_cons_none answered]
      exact nofun
  | found answered first _ ih =>
      rw [returned_cons_some answered]
      have follows := (firstBehind?_eq_some first).2.1
      intro found among
      rcases List.mem_cons.mp among with rfl | among
      · exact follows
      · exact behind_trans follows (ih found among)

/-- What is found comes in order. -/
theorem increasing (sweep : Sweep stored after questions) :
    (returned questions).Pairwise fun one other => compare one.1 other.1 = .lt := by
  induction sweep with
  | stopped => exact .nil
  | finished answered =>
      rw [returned_cons_none answered]
      exact .nil
  | found answered _ further ih =>
      rw [returned_cons_some answered]
      refine .cons (fun found among => ?_) ih
      exact Ordering.isLT_iff_eq_lt.mp (further.behind_of_returned found among)

/-- A key that is stored all the time is found, unless it is passed from the start: what is
found first is not behind it. -/
theorem complete (sweep : Sweep stored after questions) (finished : Finished questions) {key : κ}
    (ahead : behind after key = true)
    (stays : ∀ question ∈ questions, key ∈ stored question.store) :
    key ∈ (returned questions).map (·.1) := by
  induction sweep with
  | stopped =>
      obtain ⟨_, among, -⟩ := finished
      cases among
  | finished _ nothing =>
      rw [firstBehind?_eq_none nothing (stays _ List.mem_cons_self)] at ahead
      cases ahead
  | @found _ question rest found _ answered first _ ih =>
      rw [returned_cons_some answered, List.map_cons, List.mem_cons]
      have least := (firstBehind?_eq_some first).2.2 key (stays question List.mem_cons_self) ahead
      rcases Ordering.isLE_iff_eq_lt_or_eq_eq.mp least with before | same
      · refine Or.inr (ih ?_ (Ordering.isLT_iff_eq_lt.mpr before)
          fun later among => stays later (List.mem_cons_of_mem question among))
        obtain ⟨last, among, ends⟩ := finished
        rcases List.mem_cons.mp among with rfl | among
        · rw [answered] at ends
          cases ends
        · exact ⟨last, among, ends⟩
      · exact Or.inl (LawfulEqOrd.eq_of_compare same).symm

/-- Nothing is found twice. -/
theorem nodup (sweep : Sweep stored after questions) : ((returned questions).map (·.1)).Nodup :=
  nodup_of_increasing sweep.increasing

section

variable {store : Store} (same : ∀ question ∈ questions, question.store = store)

include same

theorem subset_toList (sweep : Sweep stored after questions) :
    ∀ found ∈ returned questions, found ∈ (stored store).toList := by
  intro found among
  obtain ⟨question, asked, answered⟩ := mem_returned.mp among
  have held := sweep.stored_of_found asked answered
  rw [same question asked] at held
  exact ExtTreeMap.mem_toList_iff_getElem?_eq_some.mpr held

/-- As long as what is stored does not change, a scan finds just that. -/
theorem returned_eq_toList (sweep : Sweep stored none questions) (finished : Finished questions) :
    returned questions = (stored store).toList := by
  have ordered : (stored store).toList.Pairwise fun one other => compare one.1 other.1 = .lt :=
    ExtTreeMap.ordered_keys_toList
  have sameMembers : ∀ found, found ∈ returned questions ↔ found ∈ (stored store).toList := by
    rintro ⟨key, value⟩
    refine ⟨sweep.subset_toList same _, fun listed => ?_⟩
    have held := ExtTreeMap.mem_toList_iff_getElem?_eq_some.mp listed
    have stays : ∀ question ∈ questions, key ∈ stored question.store := by
      intro question among
      rw [same question among]
      exact ExtTreeMap.mem_iff_isSome_getElem?.mpr (by rw [held]; rfl)
    obtain ⟨⟨_, other⟩, returned, rfl⟩ := List.mem_map.mp (sweep.complete finished rfl stays)
    have listed := sweep.subset_toList same _ returned
    have found := ExtTreeMap.mem_toList_iff_getElem?_eq_some.mp listed
    cases held.symm.trans found
    exact returned
  refine ((List.perm_ext_iff_of_nodup (sweep.nodup.of_map _)
    ((nodup_of_increasing ordered).of_map _)).mpr sameMembers).eq_of_pairwise ?_
    sweep.increasing ordered
  intro one other _ _ before behind
  have swapped : compare one.1 other.1 = (compare other.1 one.1).swap := OrientedCmp.eq_swap
  rw [swapped, behind] at before
  cases before

/-- Then it comes to its end with the question after the last that is stored, at the
latest. -/
theorem finished_of_size_lt (sweep : Sweep stored none questions)
    (enough : (stored store).size < questions.length) : Finished questions := by
  by_contra unfinished
  have keys : ((returned questions).map (·.1)).Subperm (stored store).keys := by
    refine sweep.nodup.subperm fun key among => ?_
    obtain ⟨found, returned, rfl⟩ := List.mem_map.mp among
    have listed := sweep.subset_toList same found returned
    rw [ExtTreeMap.mem_keys, ExtTreeMap.mem_iff_isSome_getElem?,
      ExtTreeMap.mem_toList_iff_getElem?_eq_some.mp listed]
    rfl
  have bounded := keys.length_le
  rw [List.length_map, sweep.length_returned unfinished, ExtTreeMap.length_keys] at bounded
  omega

end

end Sweep

end

/-! ### What can be scanned -/

/-- Stored numbers are not negative. -/
def Store.Sound (store : Store) : Prop :=
  ∀ oid ∈ store.objects, 0 ≤ oid

theorem Store.sound_empty : Store.Sound {} :=
  fun _ among => absurd among ExtTreeMap.not_mem_empty

/-- A store refuses negative numbers, so none come in. -/
theorem Store.Sound.apply {store : Store} (sound : store.Sound) (change : StoreChange) :
    (change.apply store).Sound := by
  cases change with
  | bind name oid =>
      simp only [StoreChange.apply, Store.bind, Store.checkStored]
      split <;> exact sound
  | unbind name => exact sound
  | removeObject removed =>
      intro oid among
      exact sound oid (ExtTreeMap.mem_of_mem_erase among)
  | putObject put contents =>
      simp only [StoreChange.apply, Store.putObject, Store.checkStored]
      split
      case isTrue => exact sound
      case isFalse accepted =>
        intro oid among
        rcases ExtTreeMap.mem_insert.mp among with same | before
        · rw [← LawfulEqOrd.eq_of_compare same]
          exact Int64.not_lt.mp accepted
        · exact sound oid before

/-- Every object comes after the number that starts a scan. -/
theorem Store.Sound.nextObject?_getD {store : Store} (sound : store.Sound)
    (after : Option ObjectId) :
    store.nextObject? (after.getD noObject) = firstBehind? store.objects after := by
  cases after with
  | some earlier => rfl
  | none =>
      rw [nextObject?, firstAfter?, firstBehind?]
      cases listed : store.objects.toList with
      | nil => rfl
      | cons first rest =>
          have among : first.1 ∈ store.objects := by
            rw [ExtTreeMap.mem_iff_isSome_getElem?, ExtTreeMap.mem_toList_iff_getElem?_eq_some.mp
              (listed ▸ List.mem_cons_self)]
            rfl
          have follows : compare noObject first.1 = .lt :=
            Std.compare_eq_lt.mpr (Int64.lt_of_lt_of_le (by decide) (sound _ among))
          rw [List.find?_cons_of_pos, List.find?_cons_of_pos]
          · rfl
          · exact Ordering.isLT_iff_eq_lt.mpr follows

theorem Action.perform_nextObject (after : ObjectId) (world : World Store) :
    (lookup (Backing.nextObject after) : Action Store _).perform world =
      (.ok (world.store.nextObject? after), world) :=
  perform_lookup _ world

namespace Service

variable {service : Service Store} {node : NodeId}

/-- A living node learns the next bound name. -/
theorem perform_nextBoundName (after : Option String)
    (live : service.directory.registry.isLive node = true) :
    ∃ result, (service.perform (.access node (.nextBoundName after))).1 = .ok result ∧
      result.nextName.map (fun name => (name, result.oid)) =
        service.world.store.nextBinding? after := by
  have asks : (Access.nextBoundName after).inquiry? = some (.next after, .read) := rfl
  obtain ⟨result, landed, performed⟩ := perform_inquiry asks live
  refine ⟨result, by rw [performed], ?_⟩
  have told : (⟨false, .ofNext result.nextName, result.oid⟩ : Landing) =
      .ofNext (service.world.store.nextBinding? after) := Option.some.inj landed
  have name := congrArg (fun landing => landing.place.name?) told
  have oid := congrArg Landing.oid told
  simp only [BindingKey.name?_ofNext] at name
  cases next : service.world.store.nextBinding? after with
  | none =>
      rw [next] at name
      rw [name]
      rfl
  | some binding =>
      rw [next] at name oid
      rw [name]
      exact congrArg (fun oid => some (binding.1, oid)) oid

/-- A living node learns the next object, if it does not ask from before the start. -/
theorem perform_nextObjectId {oid : ObjectId}
    (live : service.directory.registry.isLive node = true) (started : noObject ≤ oid) :
    ∃ result, (service.perform (.access node (.nextObjectId oid))).1 = .ok result ∧
      result.map (fun next => (next.oid, next.contents)) =
        service.world.store.nextObject? oid := by
  change service.world.directory.registry.isLive node = true at live
  simp only [perform, act, Access.action, Action.nextObject, Action.perform_bind,
    Action.perform_requireArgument, Action.perform_requireLive, Registry.check, live, started,
    decide_true, if_true, Action.perform_nextObject]
  cases service.world.store.nextObject? oid with
  | none => exact ⟨none, rfl, rfl⟩
  | some next =>
      simp only [Action.perform_bind, Action.perform_grant, live, if_true]
      exact ⟨_, rfl, rfl⟩

end Service

/-- Something that nodes go through in order, one request after the other: how they ask for
what comes next, what the answer tells, and where it is stored. -/
structure Scan (κ ν : Type) [Ord κ] [TransOrd κ] where
  access : Option κ → Access
  found : (after : Option κ) → (access after).Result → Option (κ × ν)
  stored : Store → ExtTreeMap κ ν
  /-- The order in which it is gone through. -/
  precedes : κ → κ → Prop
  precedes_iff : ∀ {one other : κ}, precedes one other ↔ compare one other = .lt
  /-- The keys under which anything can be stored. -/
  valid : κ → Prop
  valid_of_stored : ∀ {store : Store}, store.Sound → ∀ {key : κ}, key ∈ stored store → valid key
  /-- A living node is answered, with the first that is stored behind. -/
  answers : ∀ {service : Service Store} {node : NodeId} {after : Option κ},
    service.world.store.Sound → (∀ key ∈ after, valid key) →
    service.directory.registry.isLive node = true →
    ∃ result, (service.perform (.access node (access after))).1 = .ok result ∧
      found after result = firstBehind? (stored service.world.store) after

namespace Scan

/-- The bound names, in the order of their bytes. -/
def names : Scan String ObjectId where
  access := .nextBoundName
  found _ result := result.nextName.map fun name => (name, result.oid)
  stored := Store.bindings
  precedes one other := Text.utf8 one < Text.utf8 other
  precedes_iff := Text.utf8_lt_iff.trans compareOfLessAndEq_eq_lt.symm
  valid _ := True
  valid_of_stored _ _ _ := trivial
  answers {_ _ after} _ _ live := by
    obtain ⟨result, answered, tells⟩ := Service.perform_nextBoundName after live
    exact ⟨result, answered, tells.trans (Store.nextBinding?_eq_find? _ after)⟩

/-- The stored objects, in the order of their numbers. -/
def objects : Scan ObjectId Bytes where
  access after := .nextObjectId (after.getD noObject)
  found _ result := result.map fun next => (next.oid, next.contents)
  stored := Store.objects
  precedes one other := one < other
  precedes_iff := Std.compare_eq_lt.symm
  valid oid := 0 ≤ oid
  valid_of_stored sound _ among := sound _ among
  answers {service _ after} sound valid live := by
    have started : noObject ≤ after.getD noObject := by
      cases after with
      | none => exact Int64.le_refl _
      | some earlier => exact Int64.le_trans (by decide) (valid earlier rfl)
    obtain ⟨result, answered, tells⟩ := Service.perform_nextObjectId live started
    exact ⟨result, answered, tells.trans (sound.nextObject?_getD after)⟩

end Scan

/-- What a scan with this many questions at most can be relied on for. -/
structure Scan.Reliable {κ ν : Type} [Ord κ] [TransOrd κ] [DecidableEq κ] (scan : Scan κ ν)
    (chances : Nat) (questions : List (Question κ ν)) : Prop where
  /-- No question is refused. -/
  answered : ∀ question ∈ questions, ∃ found, question.answer = .ok found
  /-- What is found comes in order. -/
  increasing : (Question.returned questions).Pairwise fun one other => scan.precedes one.1 other.1
  /-- What is found is stored when it is found. -/
  present : ∀ question ∈ questions, ∀ key value, question.answer = .ok (some (key, value)) →
    (scan.stored question.store)[key]? = some value
  /-- What is stored all the time is found, and found once. -/
  complete : Question.Finished questions → ∀ key,
    (∀ question ∈ questions, key ∈ scan.stored question.store) →
    ((Question.returned questions).map (·.1)).count key = 1
  /-- If what is stored does not change, all of it is found in order, and the scan comes to its
  end with the question after the last at the latest. -/
  unchanging : ∀ store, (∀ question ∈ questions, question.store = store) →
    (Question.Finished questions → Question.returned questions = (scan.stored store).toList) ∧
      ((scan.stored store).size < chances → Question.Finished questions)

/-! ### Scans while other things happen -/

/-- Something that happens between two questions: a change of what is stored, or anything
else. -/
inductive Happening where
  | change (change : StoreChange)
  | other (step : Step Store) (steady : ∀ store, step ≠ .restock store)

namespace Cluster

/-- The cluster after something happened. -/
def undergo (cluster : Cluster Store) : Happening → Cluster Store
  | .change change => (cluster.step (.restock (change.apply cluster.service.world.store))).2
  | .other step _ => (cluster.step step).2

theorem sound_undergo {cluster : Cluster Store} (sound : cluster.service.world.store.Sound)
    (happening : Happening) : (cluster.undergo happening).service.world.store.Sound := by
  cases happening with
  | change change => exact sound.apply change
  | other step steady =>
      rw [undergo, store_step]
      cases step with
      | restock store => exact absurd rfl (steady store)
      | _ => exact sound

theorem sound_foldl_undergo {cluster : Cluster Store} (sound : cluster.service.world.store.Sound)
    (happenings : List Happening) :
    (happenings.foldl undergo cluster).service.world.store.Sound := by
  induction happenings generalizing cluster with
  | nil => exact sound
  | cons happening rest ih => exact ih (sound_undergo sound happening)

section

variable {κ ν : Type} [Ord κ] [TransOrd κ]

/-- The questions of a node that asks for what comes first, then for what comes behind that,
and so on as long as there is something. Before each question happens what the list tells. -/
def questions (scan : Scan κ ν) (node : NodeId) :
    Option κ → Cluster Store → List (List Happening) → List (Question κ ν)
  | _, _, [] => []
  | after, cluster, happenings :: rest =>
    let met := happenings.foldl undergo cluster
    let (outcome, service) := met.service.perform (.access node (scan.access after))
    let question : Question κ ν := {
      live := met.directory.registry.isLive node
      store := met.service.world.store
      answer := outcome.map (scan.found after) }
    question :: match question.answer with
      | .ok (some (key, _)) => questions scan node (some key) { met with service } rest
      | _ => []

/-- A scan that did not come to its end used every chance to ask. -/
theorem length_questions {scan : Scan κ ν} {node : NodeId} {after : Option κ}
    {cluster : Cluster Store} {happenings : List (List Happening)}
    (answered : ∀ question ∈ cluster.questions scan node after happenings,
      ∃ found, question.answer = .ok found)
    (unfinished : ¬ Question.Finished (cluster.questions scan node after happenings)) :
    (cluster.questions scan node after happenings).length = happenings.length := by
  induction happenings generalizing after cluster with
  | nil => rfl
  | cons first rest ih =>
      rw [questions] at answered unfinished ⊢
      generalize first.foldl undergo cluster = met at answered unfinished ⊢
      generalize met.service.perform (.access node (scan.access after)) = performed
        at answered unfinished ⊢
      obtain ⟨outcome, service⟩ := performed
      dsimp only at answered unfinished ⊢
      generalize outcome.map (scan.found after) = answer at answered unfinished ⊢
      rw [List.forall_mem_cons] at answered
      obtain ⟨⟨found, rfl⟩, later⟩ := answered
      cases found with
      | none => exact absurd ⟨_, List.mem_cons_self, rfl⟩ unfinished
      | some found =>
          refine congrArg (· + 1) (ih later ?_)
          rintro ⟨last, among, ends⟩
          exact unfinished ⟨last, List.mem_cons_of_mem _ among, ends⟩

variable [LawfulEqOrd κ]

/-- As long as the node that asks lives, every question is answered with what comes next. -/
theorem sweep_questions (scan : Scan κ ν) {node : NodeId} {after : Option κ}
    {cluster : Cluster Store} {happenings : List (List Happening)}
    (sound : cluster.service.world.store.Sound)
    (valid : ∀ key ∈ after, scan.valid key)
    (live : ∀ question ∈ cluster.questions scan node after happenings, question.live = true) :
    Sweep scan.stored after (cluster.questions scan node after happenings) := by
  induction happenings generalizing after cluster with
  | nil => exact .stopped after
  | cons first rest ih =>
      rw [questions] at live ⊢
      have soundThen := sound_foldl_undergo sound first
      generalize first.foldl undergo cluster = met at live soundThen ⊢
      have lives : met.service.directory.registry.isLive node = true := live _ List.mem_cons_self
      obtain ⟨result, answered, tells⟩ := scan.answers soundThen valid lives
      have kept := met.service.store_perform (.access node (scan.access after))
      rcases performed : met.service.perform (.access node (scan.access after)) with
        ⟨outcome, service⟩
      rw [performed] at answered kept
      obtain rfl : outcome = .ok result := answered
      simp only [performed, Except.map, tells] at live ⊢
      cases first? : firstBehind? (scan.stored met.service.world.store) after with
      | none => exact .finished rfl first?
      | some next =>
          simp only [first?] at live ⊢
          obtain ⟨key, value⟩ := next
          have held := (firstBehind?_eq_some first?).1
          have present : key ∈ scan.stored met.service.world.store :=
            ExtTreeMap.mem_iff_isSome_getElem?.mpr (by rw [held]; rfl)
          have later := fun question among => live question (List.mem_cons_of_mem _ among)
          refine .found rfl first? (ih ?_ ?_ later)
          · change service.world.store.Sound
            rw [kept]
            exact soundThen
          · rintro _ ⟨⟩
            exact scan.valid_of_stored soundThen present

theorem reliable_questions [DecidableEq κ] (scan : Scan κ ν) {node : NodeId}
    {cluster : Cluster Store} {happenings : List (List Happening)}
    (sound : cluster.service.world.store.Sound)
    (live : ∀ question ∈ cluster.questions scan node none happenings, question.live = true) :
    scan.Reliable happenings.length (cluster.questions scan node none happenings) := by
  have fromStart : ∀ key ∈ (none : Option κ), scan.valid key :=
    fun key among => absurd among (Option.not_mem_none key)
  have sweep := sweep_questions scan sound fromStart live
  constructor
  case answered => exact sweep.answered
  case increasing => exact sweep.increasing.imp scan.precedes_iff.mpr
  case present => exact fun question among key value found => sweep.stored_of_found among found
  case complete =>
    intro finished key stays
    exact List.count_eq_one_of_mem sweep.nodup (sweep.complete finished rfl stays)
  case unchanging =>
    intro store same
    refine ⟨sweep.returned_eq_toList same, fun enough => ?_⟩
    by_contra unfinished
    rw [← length_questions sweep.answered unfinished] at enough
    exact unfinished (sweep.finished_of_size_lt same enough)

end

/-- A scan can be relied on, of names and of objects, whatever else happens between its
questions, as long as the node that asks them lives. -/
theorem scans_reliable {cluster : Cluster Store} (sound : cluster.service.world.store.Sound)
    (node : NodeId) (happenings : List (List Happening)) :
    let named := cluster.questions .names node none happenings
    let numbered := cluster.questions .objects node none happenings
    ((∀ question ∈ named, question.live = true) → Scan.names.Reliable happenings.length named) ∧
      ((∀ question ∈ numbered, question.live = true) →
        Scan.objects.Reliable happenings.length numbered) :=
  ⟨reliable_questions .names sound, reliable_questions .objects sound⟩

/-- Two nodes register, and some names and objects are stored. -/
def stocked : Cluster Store :=
  [.other (.request (.registerNode "a")) nofun, .other (.request (.registerNode "b")) nofun,
    .change (.bind "a" 1), .change (.bind "c" 2), .change (.bind "e" 3),
    .change (.putObject 4 []), .change (.putObject 9 [1])].foldl undergo
      (start ⟨41000, 41003⟩ .collecting {} {} ∅)

/-- What happens before each of five questions: among other things the first name and the
first object are removed when they have just been found, and others stored before and behind
them. -/
def meanwhile : List (List Happening) :=
  [[],
    [.change (.unbind "a"), .change (.bind "" 5), .change (.bind "b" 4),
      .change (.removeObject 4), .change (.putObject 0 []), .change (.putObject 6 [])],
    [.other (.request (.access 2 (.getBindingForUpdate "c"))) nofun],
    [.change (.unbind "e"), .other (.deliver 0) nofun],
    []]

theorem scans_reliable_stocked :
    stocked.service.world.store.Sound ∧
      (∀ question ∈ stocked.questions .names 1 none meanwhile, question.live = true) ∧
      (∀ question ∈ stocked.questions .objects 1 none meanwhile, question.live = true) ∧
      Scan.names.Reliable 5 (stocked.questions .names 1 none meanwhile) ∧
      Scan.objects.Reliable 5 (stocked.questions .objects 1 none meanwhile) := by
  have sound : stocked.service.world.store.Sound := sound_foldl_undergo Store.sound_empty _
  have live : ∀ question ∈ stocked.questions .names 1 none meanwhile, question.live = true := by
    decide +kernel
  have live' : ∀ question ∈ stocked.questions .objects 1 none meanwhile, question.live = true := by
    decide +kernel
  obtain ⟨named, numbered⟩ := scans_reliable sound 1 meanwhile
  exact ⟨sound, live, live', named live, numbered live'⟩

example : Question.returned (stocked.questions .names 1 none meanwhile) =
    [("a", 1), ("b", 4), ("c", 2)] := by
  decide +kernel

end Cluster

end CacheDirectory
