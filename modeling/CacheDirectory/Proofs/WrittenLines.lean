/-
Module: CacheDirectory.Proofs.WrittenLines
Purpose: Documents that are written line by line are read line by line: headers with one
  name, and definitions of a number or of a text that needs no escapes.
Trusted boundary: none
Main exports: Toml.PlainKey, Toml.Denotes, Toml.denotes_number, Toml.denotes_text, Toml.Shows,
  Toml.shows_header, Toml.shows_definition, Toml.document?_shown
-/
import CacheDirectory.Proofs.StoredNumbers
import CacheDirectory.Proofs.Notation

namespace CacheDirectory

open Text Text.Parser

namespace Toml

/-! ### Keys -/

/-- A key that needs no quotation marks. -/
structure PlainKey (key : List Char) : Prop where
  present : key ≠ []
  named : ∀ c ∈ key, isKeyChar c = true

theorem plainKey_of_all {key : List Char} (present : key.isEmpty = false)
    (named : key.all isKeyChar = true) : PlainKey key :=
  ⟨List.isEmpty_eq_false_iff.mp present, List.all_eq_true.mp named⟩

theorem blanks_append {gap rest : List Char} (blank : ∀ c ∈ gap, isBlank c = true)
    (ends : Ends isBlank rest) : blanks (gap ++ rest) = some ((), rest) := by
  rw [blanks, bind_of_read (span_append blank ends)]
  rfl

theorem blanks_of_ends {rest : List Char} (ends : Ends isBlank rest) :
    blanks rest = some ((), rest) :=
  blanks_append (List.forall_mem_nil _) ends

theorem isBlank_of_isKeyChar {c : Char} (named : isKeyChar c = true) : isBlank c = false := by
  refine Bool.eq_false_iff.mpr fun blank => ?_
  rw [isBlank, Bool.or_eq_true, decide_eq_true_iff, decide_eq_true_iff] at blank
  rcases blank with rfl | rfl <;> revert named <;> decide

section

variable {key : List Char} (plain : PlainKey key)

include plain

theorem PlainKey.front {rest : List Char} {c : Char} (front : (key ++ rest).head? = some c) :
    isKeyChar c = true := by
  rw [List.head?_append, Option.or_of_isSome (by simp [plain.present])] at front
  exact plain.named c (List.mem_of_mem_head? front)

theorem PlainKey.ends_isBlank (rest : List Char) : Ends isBlank (key ++ rest) :=
  fun _ first => isBlank_of_isKeyChar (plain.front first)

theorem keyPart_append {rest : List Char} (ends : Ends isKeyChar rest) :
    keyPart (key ++ rest) = some (String.ofList key, rest) := by
  rw [keyPart, bind_of_read rfl]
  generalize front : (key ++ rest).head? = first
  split
  case h_1 => exact absurd (plain.front front) (by decide)
  case h_2 => exact absurd (plain.front front) (by decide)
  case h_3 =>
    rw [bind_of_read (someOf_append plain.named ends plain.present)]
    rfl

/-- A key of one part goes up to the mark behind it. -/
theorem keyPath_append {gap rest : List Char} {mark : Char}
    (blank : ∀ c ∈ gap, isBlank c = true) (ends : Ends isKeyChar (gap ++ mark :: rest))
    (unblank : isBlank mark = false) (undotted : mark ≠ '.') :
    keyPath (key ++ (gap ++ mark :: rest)) = some (([], String.ofList key), mark :: rest) := by
  have parts : keyParts (depthLimit - 1) (key ++ (gap ++ mark :: rest)) =
      some ([String.ofList key], mark :: rest) := by
    change keyParts (78 + 1) _ = _
    rw [keyParts, bind_of_read (blanks_of_ends (plain.ends_isBlank _)),
      bind_of_read (keyPart_append plain ends),
      bind_of_read (blanks_append blank (ends_cons.mpr unblank)), bind_of_read rfl]
    generalize front : (mark :: rest).head? = next
    split
    case h_1 => exact absurd (Option.some.inj front) undotted
    case h_2 => rfl
  rw [keyPath, bind_of_read parts]
  rfl

end

/-! ### Numbers -/

theorem not_mem_toDigits {number : Nat} {c : Char} (other : isDigit c = false) :
    c ∉ Nat.toDigits 10 number :=
  fun among => Bool.eq_false_iff.mp other (isDigit_of_mem_toDigits c among)

section

variable (number : Nat) {rest : List Char}

theorem groupedDigits_toDigits :
    groupedDigits 10 (Nat.toDigits 10 number) = some (Nat.toDigits 10 number) := by
  have absent : '_' ∉ Nat.toDigits 10 number := not_mem_toDigits rfl
  have whole : (Nat.toDigits 10 number).filter (· ≠ '_') = Nat.toDigits 10 number :=
    List.filter_eq_self.mpr fun c among => decide_eq_true fun same => absent (same ▸ among)
  have digits : (Nat.toDigits 10 number).all (isDigitOf 10) = true :=
    List.all_eq_true.mpr (isDigitOf_of_mem_toDigits (by decide) (by decide) number)
  rw [groupedDigits, List.splitOn_eq_singleton absent]
  simp only [whole, digits]
  simp [Nat.toDigits_ne_nil]

theorem wholeDigits_toDigits :
    wholeDigits (Nat.toDigits 10 number) = some (Nat.toDigits 10 number) := by
  rw [wholeDigits, groupedDigits_toDigits]
  simp only [Option.bind_eq_bind, Option.bind_some]
  split
  case h_1 second others written =>
    -- A zero in front is refused unless it is alone, and here it is alone.
    have front : (Nat.toDigits 10 number).head? = some '0' := congrArg List.head? written
    have alone := length_eq_one_of_head? front
    rw [written] at alone
    simp at alone
  case h_2 => rfl

theorem decimal?_toDigits (below : number < numberLimit) :
    decimal? (Nat.toDigits 10 number) = some (number : Int) := by
  have unsigned : signed (Nat.toDigits 10 number) = (false, Nat.toDigits 10 number) := by
    have minus : '-' ∉ Nat.toDigits 10 number := not_mem_toDigits rfl
    have plus : '+' ∉ Nat.toDigits 10 number := not_mem_toDigits rfl
    rw [signed.eq_def]
    split
    case h_1 written => exact absurd (written ▸ List.mem_cons_self) minus
    case h_2 written => exact absurd (written ▸ List.mem_cons_self) plus
    case h_3 => rfl
  have value : ofDigits 10 (Nat.toDigits 10 number) = number :=
    ofDigits_toDigits (by decide) (by decide) number
  have fits : inRange (number : Int) = some (number : Int) := by
    have least : Int64.minValue.toInt = -numberLimit := rfl
    have greatest : Int64.maxValue.toInt = numberLimit - 1 := rfl
    rw [inRange, if_pos]
    rw [Bool.and_eq_true, decide_eq_true_iff, decide_eq_true_iff]
    omega
  rw [decimal?, unsigned]
  simp only [wholeDigits_toDigits, Option.bind_eq_bind, Option.bind_some, value,
    Bool.false_eq_true, if_false, fits]

theorem based?_toDigits : based? (Nat.toDigits 10 number) = none := by
  have second {c : Char} {digits : List Char} (other : isDigit c = false) :
      Nat.toDigits 10 number ≠ '0' :: c :: digits := fun written =>
    not_mem_toDigits other (written ▸ List.mem_cons_of_mem _ List.mem_cons_self)
  rw [based?.eq_def]
  split
  case h_1 written => exact absurd written (second rfl)
  case h_2 written => exact absurd written (second rfl)
  case h_3 written => exact absurd written (second rfl)
  case h_4 => rfl

theorem number_append (below : number < numberLimit) :
    Toml.number (Nat.toDigits 10 number ++ '\n' :: rest) =
      some (.integer number, '\n' :: rest) := by
  have accepted : ∀ c ∈ Nat.toDigits 10 number, isNumberChar c = true := by
    intro c among
    simp only [isNumberChar, isKeyChar, isDigit_of_mem_toDigits c among, Bool.true_or]
  have literal : numberLiteral (Nat.toDigits 10 number ++ '\n' :: rest) =
      some (Nat.toDigits 10 number, '\n' :: rest) := by
    rw [numberLiteral, bind_of_read (span_append accepted (ends_cons.mpr rfl)), bind_of_read rfl]
    rfl
  rw [Toml.number, bind_of_read literal, based?_toDigits, Option.none_or,
    decimal?_toDigits number below]
  rfl

end

/-! ### Texts -/

/-- A character that stands for itself between quotation marks. -/
def isPlainChar (c : Char) : Bool :=
  isLineChar c && c ≠ '"' && c ≠ '\\'

theorem lineText_append {content rest : List Char} (plain : ∀ c ∈ content, isPlainChar c = true)
    {fuel : Nat} (enough : content.length < fuel) :
    lineText '"' true fuel (content ++ '"' :: rest) = some (content, rest) := by
  induction content generalizing fuel with
  | nil =>
      obtain ⟨fuel, rfl⟩ := Nat.exists_eq_add_one_of_ne_zero (Nat.ne_zero_of_lt enough)
      have mark : one isLineChar ('"' :: rest) = some ('"', rest) := one_cons rfl
      rw [lineText, List.nil_append, bind_of_read mark]
      rfl
  | cons c content ih =>
      obtain ⟨fuel, rfl⟩ := Nat.exists_eq_add_one_of_ne_zero (Nat.ne_zero_of_lt enough)
      rw [List.forall_mem_cons, isPlainChar, Bool.and_eq_true, Bool.and_eq_true,
        decide_eq_true_iff, decide_eq_true_iff] at plain
      obtain ⟨⟨⟨shown, unmarked⟩, unescaped⟩, others⟩ := plain
      have read : lineText '"' true fuel (content ++ '"' :: rest) = some (content, rest) :=
        ih others (by simpa using enough)
      rw [lineText, List.cons_append, bind_of_read (one_cons shown), if_neg unmarked, if_neg]
      · rw [bind_of_read read]
        rfl
      · simpa using unescaped

theorem markedText_append {content rest : List Char} (plain : ∀ c ∈ content, isPlainChar c = true)
    (present : content ≠ []) :
    markedText '"' true (content ++ '"' :: rest) = some (String.ofList content, rest) := by
  have enough : content.length < (content ++ '"' :: rest).length + 1 := by
    rw [List.length_append]
    omega
  have read : (String.ofList <$> lineText '"' true ((content ++ '"' :: rest).length + 1))
      (content ++ '"' :: rest) = some (String.ofList content, rest) :=
    map_of_read String.ofList (lineText_append plain enough)
  have unmarked : ∀ first ∈ (content ++ '"' :: rest).head?, first ≠ '"' := by
    rintro first front rfl
    rw [List.head?_append, Option.or_of_isSome (by simp [present])] at front
    exact absurd (plain '"' (List.mem_of_mem_head? front)) (by decide)
  -- Three quotation marks would open a text of many lines, but the first two are apart.
  rw [markedText.eq_def]
  simp only
  split
  case h_1 first second others shape =>
    rw [shape] at unmarked
    rw [if_neg]
    · exact read
    · simpa using fun same => absurd same (unmarked first rfl)
  case h_2 => exact read

/-! ### Values -/

/-- A text behind an equals sign stands for a value. -/
structure Denotes (written : List Char) (content : Value) : Prop where
  solid (rest : List Char) : Ends isBlank (written ++ rest)
  read (depth fuel : Nat) (rest : List Char) :
    value depth (fuel + 1) (written ++ '\n' :: rest) = some (content, '\n' :: rest)

theorem denotes_number {number : Nat} (below : number < numberLimit) :
    Denotes (Nat.toDigits 10 number) (.integer number) where
  solid rest c front := by
    have digit : isDigit c = true := isDigit_of_head?_toDigits front
    exact isBlank_of_isKeyChar (by simp only [isKeyChar, digit, Bool.true_or])
  read depth fuel rest := by
    rw [value.eq_def]
    simp only
    rw [bind_of_read rfl]
    generalize front : (Nat.toDigits 10 number ++ '\n' :: rest).head? = first
    split
    case h_7 => exact number_append number below
    all_goals exact absurd (isDigit_of_head?_toDigits front) (by decide)

theorem denotes_text {content : List Char} (plain : ∀ c ∈ content, isPlainChar c = true)
    (present : content ≠ []) :
    Denotes ('"' :: content ++ ['"']) (.text (String.ofList content)) where
  solid rest := ends_cons.mpr rfl
  read depth fuel rest := by
    have quoted : '"' :: content ++ ['"'] ++ '\n' :: rest =
        '"' :: (content ++ '"' :: '\n' :: rest) := by simp
    rw [quoted, value.eq_def]
    simp only
    rw [bind_of_read rfl]
    simp only [List.head?_cons]
    rw [bind_of_read (one_cons rfl), bind_of_read (markedText_append plain present)]
    rfl

/-! ### Lines -/

/-- Some characters of a document are the next line that says something, whatever comes
before and after them. -/
structure Shows (written : List Char) (found : Line) : Prop where
  present : written ≠ []
  read (perLine fuel : Nat) (rest : List Char) :
    allLines (perLine + 1) (fuel + 1) (written ++ rest) =
      (allLines (perLine + 1) fuel rest).map fun (others, rest) => (found :: others, rest)

/-- A line that starts with neither a blank nor a comment is read at once. -/
theorem allLines_cons {perLine fuel : Nat} {c : Char} {written rest : List Char} {found : Line}
    (solid : skipLines false (c :: written) = c :: written)
    (read : line perLine (c :: written) = some (found, rest)) :
    allLines perLine (fuel + 1) (c :: written) =
      (allLines perLine fuel rest).map fun (others, rest) => (found :: others, rest) := by
  have skipped : lines (c :: written) = some ((), c :: written) := by rw [lines, solid]
  rw [allLines, bind_of_read skipped, bind_of_read rfl]
  simp only [List.head?_cons]
  rw [bind_of_read read]
  cases others : allLines perLine fuel rest with
  | none => exact bind_of_failure others
  | some found => exact bind_of_read others

theorem lineEnd_newline (rest : List Char) : lineEnd ('\n' :: rest) = some ((), rest) := by
  rw [lineEnd, bind_of_read (blanks_of_ends (ends_cons.mpr rfl))]
  rfl

theorem skipLines_of_isKeyChar {c : Char} (named : isKeyChar c = true) (rest : List Char) :
    skipLines false (c :: rest) = c :: rest := by
  rw [skipLines.eq_def]
  split
  case h_1 same =>
    obtain ⟨rfl, -⟩ := List.cons.inj same
    exact absurd named (by decide)
  case h_2 same =>
    obtain ⟨rfl, -⟩ := List.cons.inj same
    exact absurd named (by decide)
  case h_3 same =>
    cases same
    rw [if_neg Bool.false_ne_true, isBlank_of_isKeyChar named, if_neg Bool.false_ne_true, if_neg]
    rintro rfl
    exact absurd named (by decide)
  case h_4 same => cases same

/-- A name between brackets, after an empty line. -/
theorem shows_header {key : List Char} (plain : PlainKey key) :
    Shows ('\n' :: '[' :: (key ++ [']', '\n'])) (.table [] (String.ofList key)) where
  present := List.cons_ne_nil _ _
  read perLine fuel rest := by
    have read : line (perLine + 1) ('[' :: (key ++ ']' :: '\n' :: rest)) =
        some (.table [] (String.ofList key), rest) := by
      rw [line, bind_of_read rfl]
      generalize shape : '[' :: (key ++ ']' :: '\n' :: rest) = input
      split
      case h_1 tail =>
        have front := congrArg List.head? (List.cons.inj shape).2
        exact absurd (plain.front front) (by decide)
      case h_2 =>
        rw [← shape]
        have gap : ∀ c ∈ ([] : List Char), isBlank c = true := List.forall_mem_nil _
        have named : keyPath (key ++ ']' :: '\n' :: rest) =
            some (([], String.ofList key), ']' :: '\n' :: rest) :=
          keyPath_append plain gap (ends_cons.mpr rfl) rfl (by decide)
        rw [bind_of_read (exactly_cons _ _), bind_of_read named]
        dsimp only
        rw [bind_of_read (exactly_cons _ _), bind_of_read rfl, bind_of_read (lineEnd_newline rest)]
        rfl
      case h_3 other => exact absurd shape.symm (other _)
    have layout : '\n' :: '[' :: (key ++ [']', '\n']) ++ rest =
        '\n' :: '[' :: (key ++ ']' :: '\n' :: rest) := by simp
    -- The empty line in front is skipped together with those before it.
    have opened : allLines (perLine + 1) (fuel + 1) ('\n' :: '[' :: (key ++ ']' :: '\n' :: rest)) =
        allLines (perLine + 1) (fuel + 1) ('[' :: (key ++ ']' :: '\n' :: rest)) := rfl
    rw [layout, opened]
    exact allLines_cons rfl read

theorem shows_definition {key written : List Char} {content : Value} (plain : PlainKey key)
    (denotes : Denotes written content) :
    Shows (key ++ ([' ', '=', ' '] ++ (written ++ ['\n'])))
      (.definition ⟨[], String.ofList key, content⟩) where
  present := by simp
  read perLine fuel rest := by
    have layout : key ++ ([' ', '=', ' '] ++ (written ++ ['\n'])) ++ rest =
        key ++ ([' '] ++ '=' :: ([' '] ++ (written ++ '\n' :: rest))) := by simp
    have read : line (perLine + 1) (key ++ ([' '] ++ '=' :: ([' '] ++ (written ++ '\n' :: rest)))) =
        some (.definition ⟨[], String.ofList key, content⟩, rest) := by
      rw [line, bind_of_read rfl]
      generalize shape : key ++ ([' '] ++ '=' :: ([' '] ++ (written ++ '\n' :: rest))) = input
      split
      case h_1 => exact absurd (plain.front (congrArg List.head? shape)) (by decide)
      case h_2 => exact absurd (plain.front (congrArg List.head? shape)) (by decide)
      case h_3 =>
        rw [← shape]
        have gap : ∀ c ∈ [' '], isBlank c = true := List.forall_mem_singleton.mpr rfl
        have named : keyPath (key ++ ([' '] ++ '=' :: ([' '] ++ (written ++ '\n' :: rest)))) =
            some (([], String.ofList key), '=' :: ([' '] ++ (written ++ '\n' :: rest))) :=
          keyPath_append plain gap (ends_cons.mpr rfl) rfl (by decide)
        rw [bind_of_read named]
        dsimp only
        rw [bind_of_read (exactly_cons _ _),
          bind_of_read (blanks_append gap (denotes.solid _)),
          bind_of_read (denotes.read _ _ _), bind_of_read rfl, bind_of_read (lineEnd_newline rest)]
        rfl
    obtain ⟨c, others, rfl⟩ := List.exists_cons_of_ne_nil plain.present
    rw [layout]
    exact allLines_cons (skipLines_of_isKeyChar (plain.named c List.mem_cons_self) _) read

/-- Lines that are written one after the other are read one after the other. -/
theorem allLines_shown {pieces : List (List Char × Line)}
    (each : ∀ piece ∈ pieces, Shows piece.1 piece.2) (perLine : Nat) {fuel : Nat}
    (enough : pieces.length < fuel) :
    allLines (perLine + 1) fuel (pieces.flatMap (·.1)) = some (pieces.map (·.2), []) := by
  induction pieces generalizing fuel with
  | nil =>
      obtain ⟨fuel, rfl⟩ := Nat.exists_eq_add_one_of_ne_zero (Nat.ne_zero_of_lt enough)
      rfl
  | cons piece pieces ih =>
      obtain ⟨fuel, rfl⟩ := Nat.exists_eq_add_one_of_ne_zero (Nat.ne_zero_of_lt enough)
      rw [List.forall_mem_cons] at each
      rw [List.flatMap_cons, each.1.read, ih each.2 (by simpa using enough)]
      rfl

theorem length_le_of_shows {pieces : List (List Char × Line)}
    (each : ∀ piece ∈ pieces, Shows piece.1 piece.2) :
    pieces.length ≤ (pieces.flatMap (·.1)).length := by
  induction pieces with
  | nil => exact Nat.le_refl 0
  | cons piece pieces ih =>
      rw [List.forall_mem_cons] at each
      have some := List.length_pos_iff.mpr each.1.present
      have others := ih each.2
      rw [List.flatMap_cons, List.length_append, List.length_cons]
      omega

/-- A document of written lines has the tables that the lines make up. -/
theorem document?_shown {pieces : List (List Char × Line)} {content : String}
    (each : ∀ piece ∈ pieces, Shows piece.1 piece.2)
    (written : content.toList = pieces.flatMap (·.1))
    (unmarked : withoutByteOrderMark content.toList = content.toList) :
    document? content = assemble (pieces.length + 1) (pieces.map (·.2)) [] := by
  have enough := length_le_of_shows each
  rw [← written] at enough
  have read : allLines (2 * content.toList.length + 1 + 1) (content.toList.length + 1)
      content.toList = some (pieces.map (·.2), []) := by
    rw [written] at enough ⊢
    exact allLines_shown each _ (Nat.lt_succ_of_le enough)
  rw [document?, unmarked]
  simp only [read, Option.bind_eq_bind, Option.bind_some, List.length_map]

end Toml

end CacheDirectory
