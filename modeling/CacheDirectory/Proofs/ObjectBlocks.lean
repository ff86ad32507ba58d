/-
Module: CacheDirectory.Proofs.ObjectBlocks
Purpose: Blocks of object numbers follow one another without gaps, wherever the numbers start
  and whatever is asked for, so that no number is handed out twice. A request that does not
  fit is refused and leaves what is left to the next one.
Trusted boundary: none
Main exports: Block, Block.Tiles, ObjectIds.allocate_cases, ObjectIds.allocateAll,
  ObjectIds.tiles_allocateAll, ObjectIds.blocks_consecutive
-/
import CacheDirectory.Directory.ObjectIds
import Mathlib.Algebra.Ring.Int.Defs

namespace CacheDirectory

/-! ### Blocks in a row -/

/-- What one request got: `count` numbers, from `first` on. -/
structure Block where
  first : ObjectId
  count : Int32
deriving DecidableEq, Repr

namespace Block

/-- Where a block ends: behind its last number. -/
def finish (block : Block) : Int :=
  block.first.toInt + block.count.toInt

/-- The numbers of a block. -/
instance : Membership Int Block :=
  ⟨fun block number => block.first.toInt ≤ number ∧ number < block.finish⟩

/-- No number is in both blocks. -/
def Apart (block other : Block) : Prop :=
  ∀ number : Int, number ∈ block → number ∉ other

/-- The blocks follow one another from `start` to `finish`. There is nothing between them,
and none of them is empty. -/
def Tiles : Int → List Block → Int → Prop
  | start, [], finish => start = finish
  | start, block :: rest, finish =>
    block.first.toInt = start ∧ 1 ≤ block.count ∧ Tiles block.finish rest finish

theorem first_lt_finish {block : Block} (positive : 1 ≤ block.count) :
    block.first.toInt < block.finish := by
  have counted := Int32.le_iff_toInt_le.mp positive
  rw [Int32.toInt_one] at counted
  rw [finish]
  omega

variable {start finish : Int} {blocks : List Block}

theorem Tiles.finish_eq (tiles : Tiles start blocks finish) :
    finish = start + (blocks.map (·.count.toInt)).sum := by
  induction blocks generalizing start with
  | nil =>
    rw [List.map_nil, List.sum_nil, Int.add_zero]
    exact Eq.symm tiles
  | cons block rest ih =>
    obtain ⟨begins, -, following⟩ := tiles
    rw [ih following, List.map_cons, List.sum_cons, Block.finish, begins, Int.add_assoc]

/-- Every block lies between the ends of the row. -/
theorem Tiles.within (tiles : Tiles start blocks finish) :
    start ≤ finish ∧
      ∀ block ∈ blocks, start ≤ block.first.toInt ∧ block.finish ≤ finish := by
  induction blocks generalizing start with
  | nil => exact ⟨Int.le_of_eq tiles, nofun⟩
  | cons block rest ih =>
    obtain ⟨begins, positive, following⟩ := tiles
    obtain ⟨ordered, inside⟩ := ih following
    have advances := first_lt_finish positive
    refine ⟨by omega, fun other among => ?_⟩
    rcases List.mem_cons.mp among with rfl | later
    · exact ⟨Int.le_of_eq begins.symm, ordered⟩
    · obtain ⟨behind, before⟩ := inside other later
      exact ⟨by omega, before⟩

/-- What comes later in the row starts where the block ends, or behind that. -/
theorem Tiles.apart (tiles : Tiles start blocks finish) : blocks.Pairwise Apart := by
  induction blocks generalizing start with
  | nil => exact .nil
  | cons block rest ih =>
    obtain ⟨-, -, following⟩ := tiles
    refine .cons (fun other later number inside again => ?_) (ih following)
    have behind := (following.within.2 other later).1
    have before : number < block.finish := inside.2
    have reached : other.first.toInt ≤ number := again.1
    omega

end Block

namespace ObjectIds

/-! ### One request -/

/-- The three outcomes of a request. Only a block that fits moves the counter, and by no more
than its length: the sum is a number, so it does not wrap. -/
theorem allocate_cases (ids : ObjectIds) (count : Int32) :
    (count < 1 ∧ ids.allocate count = (.error (.countBelowOne count), ids)) ∨
    (1 ≤ count ∧ Int64.maxValue.toInt < ids.next.toInt + count.toInt ∧
      ids.allocate count = (.error .objectIdsExhausted, ids)) ∨
    (1 ≤ count ∧ ids.next.toInt + count.toInt ≤ Int64.maxValue.toInt ∧
      ∃ later, ids.allocate count = (.ok ids.next, later) ∧
        later.next.toInt = ids.next.toInt + count.toInt) := by
  by_cases small : count < 1
  case pos => exact .inl ⟨small, if_pos small⟩
  have positive : 1 ≤ count := Int32.not_lt.mp small
  by_cases fits : ids.next.toInt + count.toInt ≤ Int64.maxValue.toInt
  case neg =>
    refine .inr (.inl ⟨positive, Int.not_le.mp fits, ?_⟩)
    rw [allocate, if_neg small, if_neg fits]
  case pos =>
    refine .inr (.inr ⟨positive, fits, ⟨ids.next + count.toInt64⟩, ?_, ?_⟩)
    · rw [allocate, if_neg small, if_pos fits]
    · have lower := ids.next.le_toInt
      have counted : (1 : Int32).toInt ≤ count.toInt := Int32.le_iff_toInt_le.mp positive
      rw [Int64.toInt_maxValue] at fits
      rw [Int32.toInt_one] at counted
      rw [Int64.toInt_add, Int32.toInt_toInt64, Int.bmod_eq_of_le] <;> omega

/-- A request fails exactly if it is for nothing or for more than is left. -/
theorem allocate_error_iff (ids : ObjectIds) (count : Int32) :
    (∃ cause, (ids.allocate count).1 = .error cause) ↔
      count < 1 ∨ Int64.maxValue.toInt < ids.next.toInt + count.toInt := by
  obtain ⟨small, answer⟩ | ⟨-, exceeds, answer⟩ | ⟨positive, fits, later, answer, -⟩ :=
    ids.allocate_cases count
  · exact iff_of_true ⟨_, congrArg Prod.fst answer⟩ (.inl small)
  · exact iff_of_true ⟨_, congrArg Prod.fst answer⟩ (.inr exceeds)
  · rw [answer]
    refine iff_of_false nofun ?_
    rintro (small | exceeds)
    · exact Int32.not_lt.mpr positive small
    · omega

theorem allocate_of_error {ids : ObjectIds} {count : Int32} {cause : ArgumentError}
    (failed : (ids.allocate count).1 = .error cause) : (ids.allocate count).2 = ids := by
  obtain ⟨-, answer⟩ | ⟨-, -, answer⟩ | ⟨-, -, later, answer, -⟩ := ids.allocate_cases count
  · rw [answer]
  · rw [answer]
  · rw [answer] at failed
    cases failed

theorem allocate_of_fits {ids : ObjectIds} {count : Int32} (positive : 1 ≤ count)
    (fits : ids.next.toInt + count.toInt ≤ Int64.maxValue.toInt) :
    (ids.allocate count).1 = .ok ids.next := by
  rw [allocate, if_neg (Int32.not_lt.mpr positive), if_pos fits]

/-! ### Any number of requests -/

/-- The answers to several requests, one after the other, and the counter in the end. -/
def allocateAll (ids : ObjectIds) : List Int32 → List (Except ArgumentError ObjectId) × ObjectIds
  | [] => ([], ids)
  | count :: rest =>
    let (answer, ids) := ids.allocate count
    let (answers, ids) := ids.allocateAll rest
    (answer :: answers, ids)

/-- The blocks that were handed out for these counts with these answers. -/
def handedOut (counts : List Int32) (answers : List (Except ArgumentError ObjectId)) :
    List Block :=
  (counts.zip answers).filterMap fun (count, answer) =>
    answer.toOption.map fun first => { first, count }

theorem length_allocateAll (ids : ObjectIds) (counts : List Int32) :
    (ids.allocateAll counts).1.length = counts.length := by
  induction counts generalizing ids with
  | nil => rfl
  | cons count rest ih => exact congrArg (· + 1) (ih _)

theorem allocateAll_append (ids : ObjectIds) (earlier later : List Int32) :
    ids.allocateAll (earlier ++ later) =
      ((ids.allocateAll earlier).1 ++ ((ids.allocateAll earlier).2.allocateAll later).1,
        ((ids.allocateAll earlier).2.allocateAll later).2) := by
  induction earlier generalizing ids with
  | nil => rfl
  | cons count rest ih => simp only [List.cons_append, allocateAll, ih]

/-- By induction on the requests: a refused one adds nothing to the row, a granted one the
block from the counter on, and the counter is where the row ends. -/
theorem tiles_allocateAll (ids : ObjectIds) (counts : List Int32) :
    Block.Tiles ids.next.toInt (handedOut counts (ids.allocateAll counts).1)
      (ids.allocateAll counts).2.next.toInt := by
  induction counts generalizing ids with
  | nil => exact rfl
  | cons count rest ih =>
    obtain ⟨-, answer⟩ | ⟨-, -, answer⟩ | ⟨positive, -, later, answer, moved⟩ :=
      ids.allocate_cases count
    · rw [allocateAll, answer]
      exact ih ids
    · rw [allocateAll, answer]
      exact ih ids
    · rw [allocateAll, answer]
      have following := ih later
      rw [moved] at following
      exact ⟨rfl, positive, following⟩

/-- Wherever the numbers start and whatever is asked for, one request after the other: the
blocks handed out follow one another without gaps from the first number to the counter, so
no number is in two of them, all lie between the first number and the greatest number of 64
bits, which is never handed out, and the counter is the first number plus the sum of the
counts that were granted. Each request is answered by where the counter is then: it fails
exactly if it is for less than one number, or for more than up to the greatest. A request
that fails leaves the counter as it is, and one that fits still gets the numbers from there. -/
theorem blocks_consecutive (first : ObjectId) (counts : List Int32) :
    let answers := (allocateAll ⟨first⟩ counts).1
    let counter := (allocateAll ⟨first⟩ counts).2.next.toInt
    let blocks := handedOut counts answers
    Block.Tiles first.toInt blocks counter ∧
    blocks.Pairwise Block.Apart ∧
    (∀ block ∈ blocks, ∀ number ∈ block,
      first.toInt ≤ number ∧ number < Int64.maxValue.toInt) ∧
    counter = first.toInt + (blocks.map (·.count.toInt)).sum ∧
    ∀ earlier count later, counts = earlier ++ count :: later →
      let ids := (allocateAll ⟨first⟩ earlier).2
      let answer := (ids.allocate count).1
      answers[earlier.length]? = some answer ∧
      ((∃ cause, answer = .error cause) ↔
        count < 1 ∨ Int64.maxValue.toInt < ids.next.toInt + count.toInt) ∧
      ((∃ cause, answer = .error cause) → (ids.allocate count).2 = ids ∧
        ∀ smaller : Int32, 1 ≤ smaller →
          ids.next.toInt + smaller.toInt ≤ Int64.maxValue.toInt →
            ((ids.allocate count).2.allocate smaller).1 = .ok ids.next) := by
  intro answers counter blocks
  have tiles : Block.Tiles first.toInt blocks counter := tiles_allocateAll ⟨first⟩ counts
  refine ⟨tiles, tiles.apart, fun block among number inside => ?_, tiles.finish_eq, ?_⟩
  · obtain ⟨behind, before⟩ := tiles.within.2 block among
    have last : counter ≤ Int64.maxValue.toInt := Int64.toInt_le _
    exact ⟨Int.le_trans behind inside.1, Int.lt_of_lt_of_le inside.2 (Int.le_trans before last)⟩
  · rintro earlier count later rfl ids answer
    refine ⟨?_, ids.allocate_error_iff count, fun failed => ?_⟩
    · have split := congrArg Prod.fst (allocateAll_append ⟨first⟩ earlier (count :: later))
      have place := length_allocateAll ⟨first⟩ earlier
      change (allocateAll ⟨first⟩ (earlier ++ count :: later)).1[earlier.length]? = _
      rw [split, ← place, List.getElem?_append_right (Nat.le_refl _), Nat.sub_self]
      rfl
    · obtain ⟨cause, failed⟩ := failed
      have still : (ids.allocate count).2 = ids := allocate_of_error failed
      refine ⟨still, fun smaller positive fits => ?_⟩
      rw [still]
      exact allocate_of_fits positive fits

/-- Two numbers are left below the greatest. Five do not fit, and after that the two are
still handed out, one by one. -/
example :
    let counts : List Int32 := [5, 0, 1, 2, 1]
    handedOut counts (allocateAll ⟨9223372036854775805⟩ counts).1 =
      [⟨9223372036854775805, 1⟩, ⟨9223372036854775806, 1⟩] := by decide

end ObjectIds

end CacheDirectory
