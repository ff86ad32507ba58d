/-
Module: CacheDirectory.Proofs.StoredNumbers
Purpose: The numbers in a document that was read are numbers of 64 bits with a sign, so
  they can be written again. Nothing that is done with tables while a document is read
  brings other numbers in.
Trusted boundary: none
Main exports: Parser.Ensures, Toml.Value.Writable, Toml.ensures_value,
  Fields.writable_define, Toml.writable_document?
-/
import CacheDirectory.Toml.Document

namespace CacheDirectory

namespace Text.Parser

variable {α β : Type}

/-- Whatever the parser finds satisfies `answer`. -/
def Ensures (parser : Parser α) (answer : α → Prop) : Prop :=
  ∀ input value rest, parser input = some (value, rest) → answer value

theorem Ensures.bind {first : Parser α} {next : α → Parser β} {between : α → Prop}
    {answer : β → Prop} (ensures : Ensures first between)
    (continues : ∀ value, between value → Ensures (next value) answer) :
    Ensures (first >>= next) answer := by
  intro input value rest read
  obtain ⟨⟨found, left⟩, early, late⟩ := Option.bind_eq_some_iff.mp read
  exact continues found (ensures _ _ _ early) _ _ _ late

/-- What comes before need not be looked at. -/
theorem Ensures.after {next : α → Parser β} {answer : β → Prop}
    (ensures : ∀ value, Ensures (next value) answer) (first : Parser α) :
    Ensures (first >>= next) answer := by
  have anything : Ensures first fun _ => True := fun _ _ _ _ => trivial
  exact anything.bind fun value _ => ensures value

theorem ensures_pure {answer : α → Prop} {value : α} (holds : answer value) :
    Ensures (pure value) answer := by
  intro input found rest read
  cases read
  exact holds

theorem ensures_failure {answer : α → Prop} : Ensures (failure : Parser α) answer :=
  nofun

theorem ensures_lift {answer : α → Prop} {found : Option α}
    (holds : ∀ value, found = some value → answer value) :
    Ensures (StateT.lift found : Parser α) answer := by
  cases found with
  | none => exact nofun
  | some value => exact ensures_pure (holds value rfl)

end Text.Parser

namespace Toml

open Text Text.Parser

/-! ### Numbers -/

/-- The first number that is too great for a document. -/
def numberLimit : Nat := Nat.pow 2 63

/-- All the numbers in a value can be written. -/
inductive Value.Writable : Value → Prop
  | text (content : String) : Writable (.text content)
  | integer {value : Int} (below : value < numberLimit) : Writable (.integer value)
  | float (literal : String) : Writable (.float literal)
  | bool (value : Bool) : Writable (.bool value)
  | date (literal : String) : Writable (.date literal)
  | array {items : List Value} (each : ∀ item ∈ items, Writable item) : Writable (.array items)
  | table {origin : Origin} {fields : Fields} (each : ∀ field ∈ fields, Writable field.2) :
      Writable (.table origin fields)
  | tables {items : List Fields} (each : ∀ table ∈ items, ∀ field ∈ table, Writable field.2) :
      Writable (.tables items)

/-- All the numbers in some fields can be written. -/
def Fields.Writable (fields : Fields) : Prop :=
  ∀ field ∈ fields, field.2.Writable

theorem Value.Writable.fields {origin : Origin} {fields : Fields}
    (writable : (Value.table origin fields).Writable) : fields.Writable := by
  cases writable with
  | table each => exact each

theorem Value.Writable.items {items : List Fields} (writable : (Value.tables items).Writable) :
    ∀ table ∈ items, Fields.Writable table := by
  cases writable with
  | tables each => exact each

theorem lt_of_inRange {value found : Int} (fits : inRange value = some found) :
    found < numberLimit := by
  rw [inRange] at fits
  split at fits
  case isTrue bounds =>
    cases fits
    rw [Bool.and_eq_true, decide_eq_true_iff, decide_eq_true_iff] at bounds
    have : Int64.maxValue.toInt = numberLimit - 1 := rfl
    omega
  case isFalse => cases fits

theorem lt_of_decimal? {literal : List Char} {value : Int}
    (read : decimal? literal = some value) : value < numberLimit := by
  rw [decimal?] at read
  obtain ⟨digits, -, fits⟩ := Option.bind_eq_some_iff.mp read
  exact lt_of_inRange fits

theorem lt_of_based? {literal : List Char} {value : Int}
    (read : based? literal = some value) : value < numberLimit := by
  rw [based?.eq_def] at read
  split at read
  case h_4 => cases read
  all_goals
    obtain ⟨digits, -, fits⟩ := Option.bind_eq_some_iff.mp read
    exact lt_of_inRange fits

theorem ensures_number : Ensures number Value.Writable := by
  refine Ensures.after (fun literal => ?_) numberLiteral
  split
  case h_1 value read =>
    refine ensures_pure (.integer ?_)
    rcases Option.or_eq_some_iff.mp read with based | ⟨-, decimal⟩
    · exact lt_of_based? based
    · exact lt_of_decimal? decimal
  case h_2 =>
    split
    case isTrue => exact ensures_pure (.float _)
    case isFalse =>
      split
      case isTrue => exact ensures_pure (.date _)
      case isFalse => exact ensures_failure

/-! ### Tables -/

namespace Fields

variable {fields later inner : Fields} {key part : String} {value : Value}

theorem Writable.get? (writable : fields.Writable) (found : Fields.get? fields key = some value) :
    value.Writable := by
  rw [Fields.get?, List.lookup_eq_some_iff] at found
  obtain ⟨before, behind, rfl, -⟩ := found
  exact writable (key, value) (List.mem_append_right _ List.mem_cons_self)

theorem Writable.set (writable : fields.Writable) (content : value.Writable) :
    (Fields.set key value fields).Writable := by
  induction fields with
  | nil =>
      intro field among
      rw [List.mem_singleton.mp among]
      exact content
  | cons first rest ih =>
      rw [Fields.Writable, List.forall_mem_cons] at writable
      rw [Fields.set]
      split
      case isTrue => exact List.forall_mem_cons.mpr ⟨content, writable.2⟩
      case isFalse => exact List.forall_mem_cons.mpr ⟨writable.1, ih writable.2⟩

theorem writable_nil : Fields.Writable [] :=
  nofun

/-- A definition brings in no numbers but those of its value. -/
theorem writable_define {path : List String} (writable : fields.Writable)
    (content : value.Writable) (defined : define key value path fields = some later) :
    later.Writable := by
  induction path generalizing fields later with
  | nil =>
      rw [define] at defined
      split at defined
      · cases defined
      · cases defined
        exact writable.set content
  | cons part path ih =>
      rw [define] at defined
      split at defined
      case h_1 =>
        obtain ⟨inner, deeper, done⟩ := Option.bind_eq_some_iff.mp defined
        cases done
        exact writable.set (.table (ih writable_nil deeper))
      case h_2 before found =>
        obtain ⟨inner, deeper, done⟩ := Option.bind_eq_some_iff.mp defined
        cases done
        exact writable.set (.table (ih (writable.get? found).fields deeper))
      case h_3 before found =>
        split at defined
        · cases defined
        · obtain ⟨inner, deeper, done⟩ := Option.bind_eq_some_iff.mp defined
          cases done
          exact writable.set (.table (ih (writable.get? found).fields deeper))
      case h_4 last earlier found =>
        split at defined
        · cases defined
        · obtain ⟨inner, deeper, done⟩ := Option.bind_eq_some_iff.mp defined
          cases done
          have tables := List.forall_mem_cons.mp (writable.get? found).items
          exact writable.set (.tables (List.forall_mem_cons.mpr ⟨ih tables.1 deeper, tables.2⟩))
      case h_5 => cases defined

theorem writable_defineAll {definitions : List Definition} (writable : fields.Writable)
    (each : ∀ definition ∈ definitions, definition.value.Writable)
    (defined : defineAll definitions fields = some later) : later.Writable := by
  induction definitions generalizing fields with
  | nil =>
      cases defined
      exact writable
  | cons definition rest ih =>
      rw [defineAll, List.foldlM_cons] at defined
      obtain ⟨between, first, others⟩ := Option.bind_eq_some_iff.mp defined
      rw [List.forall_mem_cons] at each
      exact ih (writable_define writable each.1 first) each.2 others

/-- A header brings in no numbers but those that stand below it. -/
theorem writable_change {update : Option Value → Option Value}
    (updates : ∀ old new, (∀ content, old = some content → content.Writable) →
      update old = some new → new.Writable) {path : List String} (writable : fields.Writable)
    (changed : change key update path fields = some later) : later.Writable := by
  induction path generalizing fields later with
  | nil =>
      rw [change] at changed
      obtain ⟨content, updated, done⟩ := Option.bind_eq_some_iff.mp changed
      cases done
      exact writable.set (updates _ _ (fun _ => writable.get?) updated)
  | cons part path ih =>
      rw [change] at changed
      split at changed
      case h_1 =>
        obtain ⟨inner, deeper, done⟩ := Option.bind_eq_some_iff.mp changed
        cases done
        exact writable.set (.table (ih writable_nil deeper))
      case h_2 => cases changed
      case h_3 origin before _ found =>
        obtain ⟨inner, deeper, done⟩ := Option.bind_eq_some_iff.mp changed
        cases done
        exact writable.set (.table (ih (writable.get? found).fields deeper))
      case h_4 last earlier found =>
        obtain ⟨inner, deeper, done⟩ := Option.bind_eq_some_iff.mp changed
        cases done
        have tables := List.forall_mem_cons.mp (writable.get? found).items
        exact writable.set (.tables (List.forall_mem_cons.mpr ⟨ih tables.1 deeper, tables.2⟩))
      case h_5 => cases changed

theorem writable_openTable {path : List String} {definitions : List Definition}
    (writable : fields.Writable) (each : ∀ definition ∈ definitions, definition.value.Writable)
    (opened : openTable path key definitions fields = some later) : later.Writable := by
  refine writable_change (fun old new before updated => ?_) writable opened
  split at updated
  case h_1 =>
    obtain ⟨table, defined, rfl⟩ := Option.map_eq_some_iff.mp updated
    exact .table (writable_defineAll writable_nil each defined)
  case h_2 inner =>
    obtain ⟨table, defined, rfl⟩ := Option.map_eq_some_iff.mp updated
    exact .table (writable_defineAll (before _ rfl).fields each defined)
  case h_3 => cases updated

theorem writable_openElement {path : List String} {definitions : List Definition}
    (writable : fields.Writable) (each : ∀ definition ∈ definitions, definition.value.Writable)
    (opened : openElement path key definitions fields = some later) : later.Writable := by
  refine writable_change (fun old new before updated => ?_) writable opened
  split at updated
  case h_1 =>
    obtain ⟨table, defined, rfl⟩ := Option.map_eq_some_iff.mp updated
    exact .tables (List.forall_mem_singleton.mpr (writable_defineAll writable_nil each defined))
  case h_2 earlier =>
    obtain ⟨table, defined, rfl⟩ := Option.map_eq_some_iff.mp updated
    exact .tables (List.forall_mem_cons.mpr
      ⟨writable_defineAll writable_nil each defined, (before _ rfl).items⟩)
  case h_3 => cases updated

end Fields

/-! ### Values -/

mutual

/-- Reading brings in no other numbers, at any depth. -/
theorem ensures_value (depth : Nat) : (fuel : Nat) → Ensures (value depth fuel) Value.Writable
  | 0 => by
      rw [value]
      exact ensures_failure
  | fuel + 1 => by
      rw [value.eq_def]
      refine Ensures.after (fun first => ?_) peek?
      split
      · refine Ensures.after (fun _ => Ensures.after (fun _ => ensures_pure (.text _)) _) _
      · refine Ensures.after (fun _ => Ensures.after (fun _ => ensures_pure (.text _)) _) _
      · split
        · exact ensures_failure
        · refine Ensures.after (fun _ => Ensures.after (fun _ => ?_) _) _
          exact (ensures_items _ fuel).bind fun found each => ensures_pure (.array each)
      · split
        · exact ensures_failure
        · refine Ensures.after (fun _ => Ensures.after (fun _ => ?_) _) _
          refine (ensures_inlineDefinitions _ fuel).bind fun definitions each => ?_
          have tables : Ensures (StateT.lift (Fields.defineAll definitions [])) Fields.Writable :=
            ensures_lift fun fields => Fields.writable_defineAll Fields.writable_nil each
          exact tables.bind fun fields writable => ensures_pure (.table writable)
      · exact Ensures.after (fun _ => ensures_pure (.bool true)) _
      · exact Ensures.after (fun _ => ensures_pure (.bool false)) _
      · exact ensures_number

theorem ensures_items (depth : Nat) : (fuel : Nat) →
    Ensures (items depth fuel) fun found => ∀ item ∈ found, item.Writable
  | 0 => by
      rw [items]
      exact ensures_failure
  | fuel + 1 => by
      rw [items]
      refine Ensures.after (fun first => ?_) peek?
      split
      · exact Ensures.after (fun _ => ensures_pure nofun) _
      · refine (ensures_value depth fuel).bind fun item writable => ?_
        refine Ensures.after (fun _ => Ensures.after (fun mark => ?_) _) _
        split
        · refine Ensures.after (fun _ => ?_) _
          exact (ensures_items depth fuel).bind fun rest each =>
            ensures_pure (List.forall_mem_cons.mpr ⟨writable, each⟩)
        · exact ensures_pure (List.forall_mem_singleton.mpr writable)

theorem ensures_inlineDefinitions (depth : Nat) : (fuel : Nat) →
    Ensures (inlineDefinitions depth fuel)
      fun found => ∀ definition ∈ found, definition.value.Writable
  | 0 => by
      rw [inlineDefinitions]
      exact ensures_failure
  | fuel + 1 => by
      rw [inlineDefinitions]
      refine Ensures.after (fun first => ?_) peek?
      split
      · exact Ensures.after (fun _ => ensures_pure nofun) _
      · exact ensures_moreDefinitions depth fuel

theorem ensures_moreDefinitions (depth : Nat) : (fuel : Nat) →
    Ensures (moreDefinitions depth fuel)
      fun found => ∀ definition ∈ found, definition.value.Writable
  | 0 => by
      rw [moreDefinitions]
      exact ensures_failure
  | fuel + 1 => by
      rw [moreDefinitions]
      -- The key, the equals sign and the blanks around them hold no numbers.
      refine Ensures.after (fun path => Ensures.after (fun _ => Ensures.after (fun _ => ?_) _) _) _
      refine (ensures_value depth fuel).bind fun content writable => ?_
      refine Ensures.after (fun _ => Ensures.after (fun mark => ?_) _) _
      split
      · exact (ensures_moreDefinitions depth fuel).bind fun rest each =>
          ensures_pure (List.forall_mem_cons.mpr ⟨writable, each⟩)
      · exact ensures_pure (List.forall_mem_singleton.mpr writable)

end

/-! ### Documents -/

/-- If a line defines something, then its numbers can be written. -/
def Line.Writable : Line → Prop
  | .definition entry => entry.value.Writable
  | _ => True

theorem ensures_line (fuel : Nat) : Ensures (line fuel) Line.Writable := by
  have ended (found : Line) (writable : found.Writable) :
      Ensures (do lineEnd; return found) Line.Writable :=
    Ensures.after (fun _ => ensures_pure writable) lineEnd
  rw [line]
  refine Ensures.after (fun input => ?_) StateT.get
  split
  case h_1 =>
    refine Ensures.after (fun _ => Ensures.after (fun path => Ensures.after (fun _ => ?_) _) _) _
    exact (ensures_pure trivial).bind ended
  case h_2 =>
    refine Ensures.after (fun _ => Ensures.after (fun path => Ensures.after (fun _ => ?_) _) _) _
    exact (ensures_pure trivial).bind ended
  case h_3 =>
    refine Ensures.after (fun path => Ensures.after (fun _ => Ensures.after (fun _ => ?_) _) _) _
    refine (ensures_value _ fuel).bind fun content writable => ?_
    have defined : Ensures (pure (Line.definition ⟨path.1, path.2, content⟩)) Line.Writable :=
      ensures_pure writable
    exact defined.bind ended

theorem ensures_allLines (perLine : Nat) : (fuel : Nat) →
    Ensures (allLines perLine fuel) fun found => ∀ line ∈ found, line.Writable
  | 0 => by
      rw [allLines]
      exact ensures_failure
  | fuel + 1 => by
      rw [allLines]
      refine Ensures.after (fun _ => Ensures.after (fun first => ?_) _) _
      split
      · exact ensures_pure nofun
      · refine (ensures_line perLine).bind fun line writable => ?_
        exact (ensures_allLines perLine fuel).bind fun rest each =>
          ensures_pure (List.forall_mem_cons.mpr ⟨writable, each⟩)

theorem writable_underHeader {found : List Line} (each : ∀ line ∈ found, line.Writable) :
    (∀ definition ∈ (underHeader found).1, definition.value.Writable) ∧
      ∀ line ∈ (underHeader found).2, line.Writable := by
  constructor
  · intro definition among
    obtain ⟨line, front, same⟩ := List.mem_filterMap.mp among
    have writable := each line ((List.takeWhile_prefix _).mem front)
    split at same
    · cases same
      exact writable
    · cases same
  · exact fun line behind => each line ((List.dropWhile_suffix _).mem behind)

theorem writable_assemble {fuel : Nat} {found : List Line} {fields later : Fields}
    (each : ∀ line ∈ found, line.Writable) (writable : fields.Writable)
    (assembled : assemble fuel found fields = some later) : later.Writable := by
  induction fuel generalizing found fields with
  | zero =>
      rw [assemble] at assembled
      cases assembled
  | succ fuel ih =>
      cases found with
      | nil =>
          cases assembled
          exact writable
      | cons first rest =>
          rw [List.forall_mem_cons] at each
          obtain ⟨below, behind⟩ := writable_underHeader each.2
          cases first with
          | definition entry =>
              rw [assemble] at assembled
              obtain ⟨between, defined, others⟩ := Option.bind_eq_some_iff.mp assembled
              exact ih each.2 (Fields.writable_define writable each.1 defined) others
          | table path key =>
              rw [assemble] at assembled
              obtain ⟨between, opened, others⟩ := Option.bind_eq_some_iff.mp assembled
              exact ih behind (Fields.writable_openTable writable below opened) others
          | element path key =>
              rw [assemble] at assembled
              obtain ⟨between, opened, others⟩ := Option.bind_eq_some_iff.mp assembled
              exact ih behind (Fields.writable_openElement writable below opened) others

/-- All the numbers in a document can be written. -/
theorem writable_document? {content : String} {fields : Fields}
    (read : document? content = some fields) : fields.Writable := by
  rw [document?] at read
  obtain ⟨⟨found, rest⟩, lines, assembled⟩ := Option.bind_eq_some_iff.mp read
  exact writable_assemble (ensures_allLines _ _ _ _ _ lines) Fields.writable_nil assembled

end Toml

end CacheDirectory
