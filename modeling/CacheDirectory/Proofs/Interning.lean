/-
Module: CacheDirectory.Proofs.Interning
Purpose: The number of a class is its place among the different classes in the order of
  their first use. It never changes, no other class has it, and it leads back to the class.
Trusted boundary: none
Main exports: Classes.number, Classes.Lists, Classes.Lists.intern, Classes.internAll,
  Classes.Lists.internAll, Classes.Known, Classes.interning_stable
-/
import CacheDirectory.Directory.Classes

namespace CacheDirectory.Classes

open Std

/-! ### Places in the order of first use -/

/-- One more use adds to the different classes what has not been among them. -/
theorem eraseDups_concat (uses : List Bytes) (info : Bytes) :
    (uses ++ [info]).eraseDups =
      if info ∈ uses then uses.eraseDups else uses.eraseDups ++ [info] := by
  rw [List.eraseDups_append, List.removeAll]
  by_cases seen : info ∈ uses
  · simp [seen]
  · simp [seen, List.eraseDups_cons]

/-- What is used later does not change the place of what has been used. -/
theorem idxOf_eraseDups_append {uses : List Bytes} {info : Bytes} (seen : info ∈ uses)
    (later : List Bytes) :
    (uses ++ later).eraseDups.idxOf info = uses.eraseDups.idxOf info := by
  rw [List.eraseDups_append, List.idxOf_append, if_pos (List.mem_eraseDups.mpr seen)]

/-! ### One use -/

/-- The number at a place, where places are counted from zero and numbers from one. -/
def number (place : Nat) : Int32 :=
  Int32.ofNat (place + 1)

theorem toInt_number {place : Nat} (small : place < 2147483647) :
    (number place).toInt = place + 1 :=
  Int32.toInt_ofNat_of_lt (by omega)

theorem number_inj {place other : Nat} (small : place < 2147483647) (small' : other < 2147483647) :
    number place = number other ↔ place = other := by
  rw [← Int32.toInt_inj, toInt_number small, toInt_number small']
  omega

theorem number_pos {place : Nat} (small : place < 2147483647) : 0 < number place := by
  rw [Int32.lt_iff_toInt_lt, toInt_number small]
  exact Int.natCast_succ_pos place

/-- Every number above zero is that of a place. -/
theorem exists_place {id : Int32} (positive : 0 < id) :
    ∃ place, place < 2147483647 ∧ id = number place := by
  have bound := Int32.lt_iff_toInt_lt.mp positive
  have limit := id.toInt_lt
  have zero : (0 : Int32).toInt = 0 := rfl
  refine ⟨(id.toInt - 1).toNat, by omega, ?_⟩
  rw [← Int32.toInt_inj, toInt_number (by omega)]
  omega

/-- The classes are numbered as they are listed, in both directions. -/
structure Lists (classes : Classes) (distinct : List Bytes) : Prop where
  nodup : distinct.Nodup
  few : distinct.length < 2147483647
  next : classes.nextId = number distinct.length
  ids : ∀ info : Bytes, classes.ids[info]? =
    if info ∈ distinct then some (number (distinct.idxOf info)) else none
  infos : ∀ place < 2147483647, classes.infos[number place]? = distinct[place]?
  size_eq : classes.infos.size = distinct.length

theorem lists_empty : Lists {} [] where
  nodup := .nil
  few := by decide
  next := rfl
  ids := by simp
  infos := by simp
  size_eq := rfl

section

variable {classes : Classes} {distinct : List Bytes} {info : Bytes}

/-- A class that is listed keeps its number, and nothing changes. -/
theorem Lists.intern_seen (lists : Lists classes distinct) (seen : info ∈ distinct) :
    classes.intern info = (.ok (number (distinct.idxOf info)), classes) := by
  rw [intern, lists.ids, if_pos seen]

/-- A class that is new is listed behind the others, as long as there are numbers. -/
theorem Lists.intern_new (lists : Lists classes distinct) (new : info ∉ distinct)
    (few : distinct.length + 1 < 2147483647) :
    ∃ later, classes.intern info = (.ok (number distinct.length), later) ∧
      Lists later (distinct ++ [info]) := by
  have left : number distinct.length ≠ Int32.maxValue := by
    have greatest : Int32.maxValue = number 2147483646 := rfl
    rw [greatest, ne_eq, number_inj lists.few (by omega)]
    omega
  have length_eq : (distinct ++ [info]).length = distinct.length + 1 := List.length_append
  rw [intern, lists.ids, if_neg new, lists.next]
  refine ⟨_, if_neg left, ?_⟩
  constructor
  case nodup =>
    refine List.nodup_append.mpr ⟨lists.nodup, List.pairwise_singleton .., ?_⟩
    intro known among other single same
    rw [same, List.mem_singleton.mp single] at among
    exact new among
  case few => rwa [length_eq]
  case next =>
    rw [length_eq]
    exact (Int32.ofNat_add (distinct.length + 1) 1).symm
  case ids =>
    intro other
    by_cases same : info = other
    case pos =>
      subst same
      simp [List.idxOf_append, new]
    case neg =>
      have different : other ≠ info := Ne.symm same
      simp only [ExtTreeMap.getElem?_insert, LawfulEqCmp.compare_eq_iff_eq, if_neg same, lists.ids,
        List.mem_append, List.mem_singleton, different, or_false, List.idxOf_append]
      split <;> rfl
  case infos =>
    intro place small
    simp only [ExtTreeMap.getElem?_insert, LawfulEqCmp.compare_eq_iff_eq,
      number_inj lists.few small, lists.infos place small]
    by_cases last : distinct.length = place
    case pos => rw [if_pos last, ← last, List.getElem?_concat_length]
    case neg =>
      rw [if_neg last]
      rcases Nat.lt_or_gt_of_ne last with behind | before
      · rw [List.getElem?_eq_none (by omega), List.getElem?_eq_none (by omega)]
      · rw [List.getElem?_append_left before]
  case size_eq =>
    have unused : ¬ classes.infos.contains (number distinct.length) = true := by
      rw [ExtTreeMap.contains_eq_isSome_getElem?, lists.infos _ lists.few,
        List.getElem?_eq_none (Nat.le_refl _)]
      exact nofun
    change (classes.infos.insert (number distinct.length) info).size = _
    rw [ExtTreeMap.size_insert, if_neg unused, lists.size_eq, length_eq]

/-- Whatever has been used: the next class gets the number of its place among the different
classes, itself included. -/
theorem Lists.intern {uses : List Bytes} (lists : Lists classes uses.eraseDups)
    (few : (uses ++ [info]).eraseDups.length < 2147483647) :
    ∃ later, classes.intern info = (.ok (number ((uses ++ [info]).eraseDups.idxOf info)), later) ∧
      Lists later (uses ++ [info]).eraseDups := by
  rw [eraseDups_concat] at few ⊢
  by_cases seen : info ∈ uses
  case pos =>
    rw [if_pos seen]
    exact ⟨classes, lists.intern_seen (List.mem_eraseDups.mpr seen), lists⟩
  case neg =>
    rw [if_neg seen] at few ⊢
    rw [List.length_append, List.length_singleton] at few
    have new : info ∉ uses.eraseDups := mt List.mem_eraseDups.mp seen
    have place : (uses.eraseDups ++ [info]).idxOf info = uses.eraseDups.length := by
      simp [List.idxOf_append, new]
    rw [place]
    exact lists.intern_new new few

end

/-! ### Any number of uses -/

/-- The numbers that several classes get, one after the other, and what is known in the
end. -/
def internAll (classes : Classes) : List Bytes → List (Except ArgumentError Int32) × Classes
  | [] => ([], classes)
  | info :: rest =>
    let (id, classes) := classes.intern info
    let (ids, classes) := classes.internAll rest
    (id :: ids, classes)

/-- By induction on the uses: each is numbered by its place among those up to it, which what
comes later does not change. -/
theorem Lists.internAll {classes : Classes} {uses : List Bytes}
    (lists : Lists classes uses.eraseDups) (later : List Bytes)
    (few : (uses ++ later).eraseDups.length < 2147483647) :
    (classes.internAll later).1 =
        later.map (fun info => .ok (number ((uses ++ later).eraseDups.idxOf info))) ∧
      Lists (classes.internAll later).2 (uses ++ later).eraseDups := by
  induction later generalizing classes uses with
  | nil =>
    rw [List.append_nil]
    exact ⟨rfl, lists⟩
  | cons info rest ih =>
    rw [List.append_cons] at few ⊢
    have few' : (uses ++ [info]).eraseDups.length < 2147483647 := by
      rw [List.eraseDups_append, List.length_append] at few
      omega
    obtain ⟨next, interned, lists⟩ := lists.intern few'
    obtain ⟨ids, final⟩ := ih lists few
    have used : info ∈ uses ++ [info] := List.mem_concat_self
    have place := idxOf_eraseDups_append used rest
    simp only [Classes.internAll, interned, List.map_cons, place]
    exact ⟨congrArg _ ids, final⟩

theorem internAll_empty {uses : List Bytes} (few : uses.eraseDups.length < 2147483647) :
    (internAll {} uses).1 = uses.map (fun info => .ok (number (uses.eraseDups.idxOf info))) ∧
      Lists (internAll {} uses).2 uses.eraseDups :=
  have nothing : Lists {} ([] : List Bytes).eraseDups := lists_empty
  nothing.internAll uses few

/-! ### What the numbers lead to -/

section

variable {classes : Classes} {distinct : List Bytes} (lists : Lists classes distinct)

include lists

theorem Lists.info_number {place : Nat} (small : place < 2147483647) :
    classes.info (number place) = .ok distinct[place]? := by
  rw [info, if_neg (Int32.not_le.mpr (number_pos small)), lists.infos place small]

theorem Lists.idxOf_lt {info : Bytes} (seen : info ∈ distinct) :
    distinct.idxOf info < 2147483647 :=
  Nat.lt_trans (List.idxOf_lt_length_iff.mpr seen) lists.few

/-- The number of a class leads back to it. -/
theorem Lists.info_of_mem {info : Bytes} (seen : info ∈ distinct) :
    classes.info (number (distinct.idxOf info)) = .ok (some info) := by
  rw [lists.info_number (lists.idxOf_lt seen), List.getElem?_eq_getElem
    (List.idxOf_lt_length_iff.mpr seen), List.getElem_idxOf]

/-- A number that leads to a class is the one of that class. -/
theorem Lists.number_of_info {id : Int32} {info : Bytes} (found : classes.info id = .ok (some info)) :
    info ∈ distinct ∧ id = number (distinct.idxOf info) := by
  by_cases positive : 0 < id
  case neg =>
    rw [Classes.info, if_pos (Int32.not_lt.mp positive)] at found
    cases found
  obtain ⟨place, small, rfl⟩ := exists_place positive
  rw [lists.info_number small] at found
  have listed : distinct[place]? = some info := Except.ok.inj found
  have seen : info ∈ distinct := List.mem_of_getElem? listed
  have place_lt := List.idxOf_lt_length_iff.mpr seen
  have same : distinct[distinct.idxOf info]? = distinct[place]? := by
    rw [listed, List.getElem?_eq_getElem place_lt, List.getElem_idxOf]
  rw [(List.getElem?_inj place_lt lists.nodup).mp same]
  exact ⟨seen, rfl⟩

end

/-- What is known after some uses, of which each has got a number: the numbers that have been
given lead to what they were given for, no other number leads anywhere, and those that are
not positive are rejected. -/
structure Known (classes : Classes) (seen : List Bytes) (ids : List (Except ArgumentError Int32)) :
    Prop where
  given : ∀ (position : Nat) (info : Bytes) (id : Int32), seen[position]? = some info →
    ids[position]? = some (.ok id) → classes.info id = .ok (some info)
  others : ∀ id : Int32, 0 < id →
    (∀ position < seen.length, ids[position]? ≠ some (.ok id)) → classes.info id = .ok none
  rejected : ∀ id : Int32, id ≤ 0 → classes.info id = .error (.classIdNotPositive id)
  size_eq : classes.size = seen.eraseDups.length

theorem Lists.known {classes : Classes} {seen : List Bytes}
    {ids : List (Except ArgumentError Int32)} (lists : Lists classes seen.eraseDups)
    (given : ∀ (position : Nat) (info : Bytes), seen[position]? = some info →
      ids[position]? = some (.ok (number (seen.eraseDups.idxOf info)))) :
    Known classes seen ids := by
  refine ⟨fun position info id use answer => ?_, fun id positive free => ?_, ?_, lists.size_eq⟩
  · cases (given position info use).symm.trans answer
    exact lists.info_of_mem (List.mem_eraseDups.mpr (List.mem_of_getElem? use))
  · obtain ⟨place, small, rfl⟩ := exists_place positive
    rw [lists.info_number small]
    cases listed : seen.eraseDups[place]? with
    | none => rfl
    | some info =>
      have found : classes.info (number place) = .ok (some info) := by
        rw [lists.info_number small, listed]
      obtain ⟨among, same⟩ := lists.number_of_info found
      obtain ⟨position, use⟩ := List.mem_iff_getElem?.mp (List.mem_eraseDups.mp among)
      have inside := (List.getElem?_eq_some_iff.mp use).1
      exact absurd (same ▸ given position info use) (free position inside)
  · exact fun id negative => if_pos negative

/-- With fewer different classes than the greatest number of 32 bits with a sign, which is never
assigned: each use of a class gets as its number the place, counted from one, of the class
among the different ones in the order of first use. Two uses get the same number exactly if
they are of the same class. After any of the uses, what is known is what has been used up to
then. -/
theorem interning_stable {uses : List Bytes} (few : uses.eraseDups.length < 2147483647) :
    let ids := (internAll {} uses).1
    (∀ (position : Nat) (info : Bytes), uses[position]? = some info →
      ∃ id : Int32, ids[position]? = some (.ok id) ∧
        id.toInt = uses.eraseDups.idxOf info + 1) ∧
    (∀ (position position' : Nat) (info info' : Bytes), uses[position]? = some info →
      uses[position']? = some info' → (ids[position]? = ids[position']? ↔ info = info')) ∧
    ∀ seen later : List Bytes, uses = seen ++ later → Known (internAll {} seen).2 seen ids := by
  obtain ⟨ids_eq, final⟩ := internAll_empty few
  have numbered {position : Nat} {info : Bytes} (use : uses[position]? = some info) :
      (internAll {} uses).1[position]? = some (.ok (number (uses.eraseDups.idxOf info))) := by
    rw [ids_eq, List.getElem?_map, use]
    rfl
  have listed {position : Nat} {info : Bytes} (use : uses[position]? = some info) :
      info ∈ uses.eraseDups := List.mem_eraseDups.mpr (List.mem_of_getElem? use)
  refine ⟨fun position info use => ?_, fun position position' info info' use use' => ?_, ?_⟩
  · exact ⟨_, numbered use, toInt_number (final.idxOf_lt (listed use))⟩
  · rw [numbered use, numbered use', Option.some.injEq, Except.ok.injEq]
    refine ⟨fun same => ?_, fun same => by rw [same]⟩
    have found := final.info_of_mem (listed use)
    rw [same, final.info_of_mem (listed use')] at found
    exact (Option.some.inj (Except.ok.inj found)).symm
  · rintro seen later rfl
    have few' : seen.eraseDups.length < 2147483647 := by
      rw [List.eraseDups_append, List.length_append] at few
      omega
    obtain ⟨-, lists⟩ := internAll_empty few'
    -- A use that has been made has the number it keeps.
    refine lists.known fun position info use => ?_
    have inside := (List.getElem?_eq_some_iff.mp use).1
    rw [numbered ((List.getElem?_append_left inside).trans use),
      idxOf_eraseDups_append (List.mem_of_getElem? use)]

/-- Three uses of two classes. -/
theorem interning_stable_repeated :
    let uses : List Bytes := [[1], [], [1]]
    uses.eraseDups.length < 2147483647 ∧
      (internAll {} uses).1[2]? = (internAll {} uses).1[0]? ∧
      Known (internAll {} [[1], []]).2 [[1], []] (internAll {} uses).1 := by
  have few : ([[1], [], [1]] : List Bytes).eraseDups.length < 2147483647 := by decide
  obtain ⟨-, same, known⟩ := interning_stable few
  exact ⟨few, (same 2 0 _ _ rfl rfl).mpr rfl, known [[1], []] [[1]] rfl⟩

end CacheDirectory.Classes
