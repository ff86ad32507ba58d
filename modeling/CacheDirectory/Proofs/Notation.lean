/-
Module: CacheDirectory.Proofs.Notation
Purpose: Parsers on texts whose parts are known. What is written in a notation is read
  from the front of any text that goes on differently, numbers in particular.
Trusted boundary: none
Main exports: Text.Ends, Parser.bind_of_read, Parser.span_append, Parser.someOf_append,
  Text.ofDigits_toDigits, Text.isDigitOf_of_mem_toDigits, Text.length_eq_one_of_head?
-/
import CacheDirectory.Text.Parser

namespace CacheDirectory.Text

/-- A text does not go on with a character that `accepts` takes. -/
def Ends (accepts : Char → Bool) (rest : List Char) : Prop :=
  ∀ c ∈ rest.head?, accepts c = false

@[simp] theorem ends_nil (accepts : Char → Bool) : Ends accepts [] :=
  nofun

@[simp] theorem ends_cons {accepts : Char → Bool} {c : Char} {rest : List Char} :
    Ends accepts (c :: rest) ↔ accepts c = false := by
  simp [Ends]

theorem Ends.imp {accepts narrower : Char → Bool} {rest : List Char} (ends : Ends accepts rest)
    (narrow : ∀ c, narrower c = true → accepts c = true) : Ends narrower rest :=
  fun c first => Bool.eq_false_iff.mpr fun taken =>
    Bool.eq_false_iff.mp (ends c first) (narrow c taken)

namespace Ends

variable {accepts : Char → Bool} {rest : List Char}

theorem takeWhile (ends : Ends accepts rest) : rest.takeWhile accepts = [] := by
  cases rest with
  | nil => rfl
  | cons c rest => exact List.takeWhile_cons_of_neg (by simpa using ends)

theorem dropWhile (ends : Ends accepts rest) : rest.dropWhile accepts = rest := by
  cases rest with
  | nil => rfl
  | cons c rest => exact List.dropWhile_cons_of_neg (by simpa using ends)

end Ends

namespace Parser

variable {α β : Type} {accepts : Char → Bool} {input written rest : List Char}

/-- After a parser comes what follows it, on what it leaves. -/
theorem bind_of_read {first : Parser α} {next : α → Parser β} {value : α}
    (read : first input = some (value, rest)) : (first >>= next) input = next value rest := by
  change (first input >>= fun (value, rest) => next value rest) = _
  rw [read]
  rfl

theorem bind_of_failure {first : Parser α} {next : α → Parser β} (fails : first input = none) :
    (first >>= next) input = none := by
  change (first input >>= fun (value, rest) => next value rest) = _
  rw [fails]
  rfl

theorem span_append (accepted : ∀ c ∈ written, accepts c = true) (ends : Ends accepts rest) :
    span accepts (written ++ rest) = some (written, rest) := by
  rw [span, List.takeWhile_append_of_pos accepted, List.dropWhile_append_of_pos accepted,
    ends.takeWhile, ends.dropWhile, List.append_nil]

/-- At least one character is taken exactly if there is one. -/
theorem someOf_eq (input : List Char) : someOf accepts input =
    if input.takeWhile accepts = [] then none
    else some (input.takeWhile accepts, input.dropWhile accepts) := by
  have taken : span accepts input = some (input.takeWhile accepts, input.dropWhile accepts) := rfl
  rw [someOf, bind_of_read taken]
  cases input.takeWhile accepts <;> rfl

theorem someOf_append (accepted : ∀ c ∈ written, accepts c = true) (ends : Ends accepts rest)
    (present : written ≠ []) : someOf accepts (written ++ rest) = some (written, rest) := by
  rw [someOf_eq, List.takeWhile_append_of_pos accepted, List.dropWhile_append_of_pos accepted,
    ends.takeWhile, ends.dropWhile, List.append_nil, if_neg present]

theorem someOf_of_ends (ends : Ends accepts rest) : someOf accepts rest = none := by
  rw [someOf_eq, ends.takeWhile, if_pos rfl]

theorem map_of_read {parser : Parser α} {value : α} (make : α → β)
    (read : parser input = some (value, rest)) :
    (make <$> parser) input = some (make value, rest) := by
  change (parser input >>= fun (value, rest) => pure (make value, rest)) = _
  rw [read]
  rfl

theorem one_cons {c : Char} (accepted : accepts c = true) :
    one accepts (c :: rest) = some (c, rest) :=
  if_pos accepted

@[simp] theorem exactly_append (expected rest : List Char) :
    exactly expected (expected ++ rest) = some ((), rest) := by
  rw [exactly, if_pos (List.isPrefixOf_iff_prefix.mpr (List.prefix_append _ _)),
    List.drop_left]

@[simp] theorem exactly_cons (c : Char) (rest : List Char) :
    exactly [c] (c :: rest) = some ((), rest) :=
  exactly_append [c] rest

theorem exactly_of_ne {c other : Char} (differ : c ≠ other) (rest : List Char) :
    exactly [c] (other :: rest) = none := by
  simp [exactly, differ]

end Parser

/-! ### Digits -/

theorem isDigit_iff {c : Char} : isDigit c = true ↔ digitValue c < 10 := by
  rw [digitValue]
  constructor
  · intro digit
    have bounds : '0'.toNat ≤ c.toNat ∧ c.toNat ≤ '9'.toNat := by
      rw [isDigit, Bool.and_eq_true, decide_eq_true_iff, decide_eq_true_iff] at digit
      exact digit
    rw [if_pos digit]
    have : '0'.toNat = 48 := rfl
    have : '9'.toNat = 57 := rfl
    omega
  · intro small
    by_cases digit : isDigit c = true
    · exact digit
    · rw [if_neg digit] at small
      split at small
      · omega
      · split at small <;> omega

theorem isDigitOf_of_isDigit {c : Char} (digit : isDigit c = true) : isDigitOf 16 c = true := by
  have small := isDigit_iff.mp digit
  rw [isDigitOf, decide_eq_true_iff]
  omega

theorem digitValue_digitChar {value : Nat} (small : value < 16) :
    digitValue value.digitChar = value := by
  revert value
  decide

theorem ofDigits_append_singleton (base : Nat) (digits : List Char) (c : Char) :
    ofDigits base (digits ++ [c]) = ofDigits base digits * base + digitValue c :=
  List.foldl_append

section

variable {base : Nat} (proper : 1 < base) (readable : base ≤ 16)

include proper readable

/-- Digits are read as the number that they were written for. -/
theorem ofDigits_toDigits (number : Nat) : ofDigits base (Nat.toDigits base number) = number := by
  induction number using Nat.strongRecOn with
  | ind number ih =>
      rw [Nat.toDigits_eq_if proper]
      split
      case isTrue small =>
        change 0 * base + digitValue number.digitChar = number
        rw [digitValue_digitChar (by omega), Nat.zero_mul, Nat.zero_add]
      case isFalse large =>
        have below : number % base < base := Nat.mod_lt _ (by omega)
        rw [ofDigits_append_singleton, ih _ (Nat.div_lt_self (by omega) proper),
          digitValue_digitChar (by omega), Nat.mul_comm, Nat.div_add_mod]

theorem isDigitOf_of_mem_toDigits (number : Nat) :
    ∀ c ∈ Nat.toDigits base number, isDigitOf base c = true := by
  induction number using Nat.strongRecOn with
  | ind number ih =>
      intro c among
      rw [Nat.toDigits_eq_if proper] at among
      rw [isDigitOf, decide_eq_true_iff]
      split at among
      case isTrue small =>
        rw [List.mem_singleton.mp among, digitValue_digitChar (by omega)]
        exact small
      case isFalse large =>
        have below : number % base < base := Nat.mod_lt _ (by omega)
        rcases List.mem_append.mp among with early | last
        · exact of_decide_eq_true (ih _ (Nat.div_lt_self (by omega) proper) c early)
        · rw [List.mem_singleton.mp last, digitValue_digitChar (by omega)]
          exact below

end

theorem isDigit_of_mem_toDigits {number : Nat} :
    ∀ c ∈ Nat.toDigits 10 number, isDigit c = true := by
  intro c among
  have digit := isDigitOf_of_mem_toDigits (by decide) (by decide) number c among
  rw [isDigitOf, decide_eq_true_iff] at digit
  exact isDigit_iff.mpr digit

/-- A number begins with a digit. -/
theorem isDigit_of_head?_toDigits {number : Nat} {rest : List Char} {first : Char}
    (front : (Nat.toDigits 10 number ++ rest).head? = some first) : isDigit first = true := by
  rw [List.head?_append, Option.or_of_isSome (by simp [Nat.toDigits_ne_nil])] at front
  exact isDigit_of_mem_toDigits first (List.mem_of_mem_head? front)

/-- Only zero is written with a zero in front. -/
theorem eq_zero_of_head? (number : Nat) (zero : (Nat.toDigits 10 number).head? = some '0') :
    number = 0 := by
  induction number using Nat.strongRecOn with
  | ind number ih =>
      rw [Nat.toDigits_eq_if (by decide)] at zero
      split at zero
      case isTrue small => simpa using zero
      case isFalse large =>
        rw [List.head?_append, Option.or_of_isSome (by simp [Nat.toDigits_ne_nil])] at zero
        have := ih (number / 10) (Nat.div_lt_self (by omega) (by decide)) zero
        omega

theorem length_eq_one_of_head? {number : Nat}
    (zero : (Nat.toDigits 10 number).head? = some '0') :
    (Nat.toDigits 10 number).length = 1 := by
  rw [eq_zero_of_head? number zero, Nat.toDigits_zero]
  rfl

end CacheDirectory.Text
