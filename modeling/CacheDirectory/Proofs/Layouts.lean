/-
Module: CacheDirectory.Proofs.Layouts
Purpose: Layouts are faithful: what is written is read back and reading stops behind
  it, and whatever a reader accepts begins with what would be written for it. Each way
  of building a layout keeps that.
Trusted boundary: none
Main exports: Reader.Yields, Layout.Faithful, Layout.Faithful.pair,
  Layout.Faithful.option, Layout.faithful_text, Layout.Faithful.variants
-/
import CacheDirectory.Wire.Layout

namespace CacheDirectory.Wire

/-! ### Numbers as bytes -/

/-- How many numbers there are of `width` bytes. -/
def capacity : (width : Nat) → Nat
  | 0 => 1
  | width + 1 => 256 * capacity width

@[simp] theorem length_littleEndian (width n : Nat) : (littleEndian width n).length = width := by
  induction width generalizing n with
  | zero => rfl
  | succ width ih => simp only [littleEndian, List.length_cons, ih]

theorem ofLittleEndian_lt (bytes : Bytes) : ofLittleEndian bytes < capacity bytes.length := by
  induction bytes with
  | nil => exact Nat.one_pos
  | cons byte rest ih =>
    have low : byte.toNat < 256 := byte.toNat_lt
    simp only [ofLittleEndian, List.length_cons, capacity]
    omega

theorem ofLittleEndian_littleEndian {width n : Nat} (fits : n < capacity width) :
    ofLittleEndian (littleEndian width n) = n := by
  induction width generalizing n with
  | zero =>
    simp only [capacity] at fits
    simp only [littleEndian, ofLittleEndian]
    omega
  | succ width ih =>
    have high : n / 256 < capacity width := by
      rw [capacity] at fits
      omega
    have low : (UInt8.ofNat (n % 256)).toNat = n % 256 :=
      UInt8.toNat_ofNat_of_lt (Nat.mod_lt n (by decide))
    rw [littleEndian, ofLittleEndian, low, ih high]
    omega

theorem littleEndian_ofLittleEndian (bytes : Bytes) :
    littleEndian bytes.length (ofLittleEndian bytes) = bytes := by
  induction bytes with
  | nil => rfl
  | cons byte rest ih =>
    have low : byte.toNat < 256 := byte.toNat_lt
    have first : (byte.toNat + 256 * ofLittleEndian rest) % 256 = byte.toNat := by omega
    have later : (byte.toNat + 256 * ofLittleEndian rest) / 256 = ofLittleEndian rest := by omega
    rw [ofLittleEndian, List.length_cons, littleEndian, first, later, ih, UInt8.ofNat_toNat]

/-! ### Readers -/

namespace Reader

variable {α β : Type}

/-- In front of anything, `bytes` are read as `value` and reading stops behind
them. -/
def Yields (reader : Reader α) (bytes : Bytes) (value : α) : Prop :=
  ∀ rest, reader (bytes ++ rest) = .ok (value, rest)

/-- What two readers accept one after the other. -/
theorem bind_eq_ok {reader : Reader α} {next : α → Reader β} {input rest : Bytes} {b : β} :
    (reader >>= next) input = .ok (b, rest) ↔
      ∃ a left, reader input = .ok (a, left) ∧ next a left = .ok (b, rest) := by
  show (reader input >>= fun (x, left) => next x left) = .ok (b, rest) ↔ _
  cases reader input with
  | error fault =>
    constructor
    · intro read
      cases read
    · rintro ⟨a, left, read, -⟩
      cases read
  | ok found =>
    constructor
    · intro read
      exact ⟨found.1, found.2, rfl, read⟩
    · rintro ⟨a, left, first, read⟩
      cases first
      exact read

/-- One reader after another reads what they read, one after the other. -/
theorem Yields.bind {reader : Reader α} {next : α → Reader β} {front back : Bytes} {a : α}
    {b : β} (first : reader.Yields front a) (second : (next a).Yields back b) :
    Reader.Yields (reader >>= next) (front ++ back) b := by
  intro rest
  rw [List.append_assoc]
  exact bind_eq_ok.mpr ⟨a, back ++ rest, first (back ++ rest), second rest⟩

/-- A reader followed by something that reads nothing. -/
theorem Yields.map {reader : Reader α} {bytes : Bytes} {a : α} (make : α → β)
    (first : reader.Yields bytes a) :
    Reader.Yields (do return make (← reader)) bytes (make a) :=
  fun rest => bind_eq_ok.mpr ⟨a, rest, first rest, rfl⟩

theorem yields_pure (value : α) : Reader.Yields (pure value) [] value :=
  fun _ => rfl

theorem pure_eq_ok {value found : α} {input rest : Bytes} :
    (pure value : Reader α) input = .ok (found, rest) ↔ value = found ∧ input = rest := by
  show Except.ok (value, input) = .ok (found, rest) ↔ _
  simp only [Except.ok.injEq, Prod.mk.injEq]

theorem get_bind {next : Bytes → Reader β} {input : Bytes} :
    ((do next (← get)) : Reader β) input = next input input :=
  rfl

theorem throw_ne_ok {fault : PayloadFault} {found : α} {input rest : Bytes} :
    (throw fault : Reader α) input ≠ .ok (found, rest) :=
  nofun

end Reader

/-- The next bytes are read as they are. -/
theorem yields_take {bytes : Bytes} {count : Nat} (whole : bytes.length = count) :
    (take count).Yields bytes bytes := by
  subst whole
  intro rest
  simp only [take, List.length_append, Nat.le_add_right, if_true, List.take_left,
    List.drop_left]

theorem take_eq_ok {count : Nat} {input found rest : Bytes}
    (read : take count input = .ok (found, rest)) : found.length = count ∧ input = found ++ rest := by
  unfold take at read
  split at read
  case isTrue enough =>
    cases read
    exact ⟨List.length_take_of_le enough, (List.take_append_drop count input).symm⟩
  case isFalse => cases read

theorem yields_number {width n : Nat} (fits : n < capacity width) :
    (number width).Yields (littleEndian width n) n := by
  have read := Reader.Yields.map ofLittleEndian (yields_take (length_littleEndian width n))
  rwa [ofLittleEndian_littleEndian fits] at read

theorem number_eq_ok {width n : Nat} {input rest : Bytes}
    (read : number width input = .ok (n, rest)) :
    n < capacity width ∧ input = littleEndian width n ++ rest := by
  obtain ⟨found, left, taken, done⟩ := Reader.bind_eq_ok.mp read
  obtain ⟨rfl, rfl⟩ := Reader.pure_eq_ok.mp done
  obtain ⟨rfl, rfl⟩ := take_eq_ok taken
  exact ⟨ofLittleEndian_lt found, by rw [littleEndian_ofLittleEndian]⟩

namespace Layout

variable {α β : Type}

/-! ### Faithful layouts -/

/-- What is written is read back, up to where it ends, and whatever is accepted starts
with what is written for it. The bound is on lengths, which are written as eight
bytes. -/
structure Faithful (layout : Layout α) : Prop where
  yields : ∀ value, (layout.write value).length < UInt64.size →
    layout.read.Yields (layout.write value) value
  written : ∀ {input value rest}, layout.read input = .ok (value, rest) →
    input = layout.write value ++ rest

namespace Faithful

/-- Renaming the values of a layout. -/
theorem via {layout : Layout α} (faithful : layout.Faithful) {forth : α → β} {back : β → α}
    (forth_back : ∀ b, forth (back b) = b) (back_forth : ∀ a, back (forth a) = a) :
    (layout.via forth back).Faithful where
  yields b short := by
    have read := Reader.Yields.map forth (faithful.yields (back b) short)
    rwa [forth_back] at read
  written read := by
    obtain ⟨a, left, first, done⟩ := Reader.bind_eq_ok.mp read
    obtain ⟨rfl, rfl⟩ := Reader.pure_eq_ok.mp done
    show _ = layout.write (back (forth a)) ++ left
    rw [back_forth, faithful.written first]

theorem pair {first : Layout α} {second : Layout β} (firstFaithful : first.Faithful)
    (secondFaithful : second.Faithful) : (first.pair second).Faithful where
  yields value short := by
    simp only [Layout.pair, List.length_append] at short
    have readFirst := firstFaithful.yields value.1 (by omega)
    have readSecond := secondFaithful.yields value.2 (by omega)
    exact readFirst.bind (readSecond.map (Prod.mk value.1))
  written read := by
    obtain ⟨a, afterFirst, readFirst, more⟩ := Reader.bind_eq_ok.mp read
    obtain ⟨b, afterSecond, readSecond, done⟩ := Reader.bind_eq_ok.mp more
    obtain ⟨rfl, rfl⟩ := Reader.pure_eq_ok.mp done
    rw [firstFaithful.written readFirst, secondFaithful.written readSecond, Layout.pair,
      List.append_assoc]

end Faithful

/-! ### Elementary layouts -/

/-- Words of a fixed width. -/
theorem faithful_word {width : Nat} {toNat : α → Nat} {ofNat : Nat → α}
    (bounded : ∀ value, toNat value < capacity width) (ofNat_toNat : ∀ value, ofNat (toNat value) = value)
    (toNat_ofNat : ∀ n, n < capacity width → toNat (ofNat n) = n) :
    Faithful ⟨fun value => littleEndian width (toNat value), do return ofNat (← number width)⟩ where
  yields value _ := by
    have read := Reader.Yields.map ofNat (yields_number (bounded value))
    rwa [ofNat_toNat] at read
  written read := by
    obtain ⟨n, left, found, done⟩ := Reader.bind_eq_ok.mp read
    obtain ⟨rfl, rfl⟩ := Reader.pure_eq_ok.mp done
    obtain ⟨fits, rfl⟩ := number_eq_ok found
    show _ = littleEndian width (toNat (ofNat n)) ++ left
    rw [toNat_ofNat n fits]

theorem faithful_word16 : word16.Faithful :=
  faithful_word UInt16.toNat_lt (fun _ => UInt16.ofNat_toNat) fun _ => UInt16.toNat_ofNat_of_lt

theorem faithful_word32 : word32.Faithful :=
  faithful_word UInt32.toNat_lt (fun _ => UInt32.ofNat_toNat) fun _ => UInt32.toNat_ofNat_of_lt

theorem faithful_word64 : word64.Faithful :=
  faithful_word UInt64.toNat_lt (fun _ => UInt64.ofNat_toNat) fun _ => UInt64.toNat_ofNat_of_lt

theorem faithful_int32 : int32.Faithful :=
  faithful_word32.via Int32.toInt32_toUInt32 fun _ => rfl

theorem faithful_int64 : int64.Faithful :=
  faithful_word64.via Int64.toInt64_toUInt64 fun _ => rfl

theorem yields_byte (value : UInt8) : byte.read.Yields [value] value := by
  have small : value.toNat < 256 := value.toNat_lt
  have fits : value.toNat < capacity 1 := small
  have read := Reader.Yields.map UInt8.ofNat (yields_number fits)
  have alone : littleEndian 1 value.toNat = [value] := by
    rw [littleEndian, littleEndian, Nat.mod_eq_of_lt small, UInt8.ofNat_toNat]
  rw [alone, UInt8.ofNat_toNat] at read
  exact read

theorem byte_eq_ok {input rest : Bytes} {value : UInt8} (read : byte.read input = .ok (value, rest)) :
    input = value :: rest := by
  obtain ⟨n, left, found, done⟩ := Reader.bind_eq_ok.mp read
  obtain ⟨rfl, rfl⟩ := Reader.pure_eq_ok.mp done
  obtain ⟨fits, rfl⟩ := number_eq_ok found
  have small : n < 256 := fits
  rw [littleEndian, littleEndian, Nat.mod_eq_of_lt small, List.singleton_append]

theorem faithful_bool : bool.Faithful where
  yields value _ := by
    cases value with
    | false => exact (yields_byte 0).bind (Reader.yields_pure false)
    | true => exact (yields_byte 1).bind (Reader.yields_pure true)
  written read := by
    obtain ⟨found, left, first, more⟩ := Reader.bind_eq_ok.mp read
    rw [byte_eq_ok first]
    split at more
    case isTrue zero =>
      obtain ⟨rfl, rfl⟩ := Reader.pure_eq_ok.mp more
      rw [zero]
      rfl
    case isFalse =>
      split at more
      case isTrue one =>
        obtain ⟨rfl, rfl⟩ := Reader.pure_eq_ok.mp more
        rw [one]
        rfl
      case isFalse => exact absurd more Reader.throw_ne_ok

theorem Faithful.option {layout : Layout α} (faithful : layout.Faithful) :
    (Layout.option layout).Faithful where
  yields value short := by
    cases value with
    | none => exact (yields_byte 0).bind (Reader.yields_pure none)
    | some value =>
      have content : (layout.write value).length < UInt64.size := by
        simp only [Layout.option, List.length_cons] at short
        omega
      exact (yields_byte 1).bind ((faithful.yields value content).map some)
  written read := by
    obtain ⟨found, left, first, more⟩ := Reader.bind_eq_ok.mp read
    rw [byte_eq_ok first]
    split at more
    case isTrue zero =>
      obtain ⟨rfl, rfl⟩ := Reader.pure_eq_ok.mp more
      rw [zero]
      rfl
    case isFalse =>
      split at more
      case isTrue one =>
        obtain ⟨value, behind, content, done⟩ := Reader.bind_eq_ok.mp more
        obtain ⟨rfl, rfl⟩ := Reader.pure_eq_ok.mp done
        rw [one, faithful.written content]
        rfl
      case isFalse => exact absurd more Reader.throw_ne_ok

theorem yields_word64 (value : UInt64) : word64.read.Yields (word64.write value) value :=
  faithful_word64.yields value (by simp only [word64, length_littleEndian]; decide)

theorem faithful_bytes : bytes.Faithful where
  yields value short := by
    have fits : value.length < UInt64.size := by
      simp only [bytes, List.length_append] at short
      omega
    have whole : value.length = (UInt64.ofNat value.length).toNat :=
      (UInt64.toNat_ofNat_of_lt fits).symm
    exact (yields_word64 _).bind (yields_take whole)
  written {input value rest} read := by
    obtain ⟨length, left, first, more⟩ := Reader.bind_eq_ok.mp read
    obtain ⟨whole, rfl⟩ := take_eq_ok more
    show input = word64.write (UInt64.ofNat value.length) ++ value ++ rest
    rw [faithful_word64.written first, whole, UInt64.ofNat_toNat, List.append_assoc]

/-- The reader of a text behind its length. -/
theorem yields_content {value : String} {length : UInt64}
    (whole : (Text.utf8 value).length = length.toNat) :
    Reader.Yields (do
      let input ← get
      if input.length < length.toNat then throw .textTooLong
      else
        let content ← take length.toNat
        match Text.ofUtf8? content with
        | some value => return value
        | none => throw (.invalidText (Text.utf8Fault content)))
      (Text.utf8 value) value := by
  intro rest
  rw [Reader.get_bind, if_neg (by rw [List.length_append]; omega)]
  have content := yields_take whole rest
  refine Reader.bind_eq_ok.mpr ⟨_, _, content, ?_⟩
  rw [Text.ofUtf8?_eq_some_iff.mpr rfl]
  rfl

theorem faithful_text : text.Faithful where
  yields value short := by
    have fits : (Text.utf8 value).length < UInt64.size := by
      simp only [text, List.length_append] at short
      omega
    exact (yields_word64 _).bind (yields_content (UInt64.toNat_ofNat_of_lt fits).symm)
  written {input value rest} read := by
    obtain ⟨length, left, first, more⟩ := Reader.bind_eq_ok.mp read
    rw [Reader.get_bind] at more
    split at more
    case isTrue => exact absurd more Reader.throw_ne_ok
    case isFalse =>
      obtain ⟨content, behind, taken, done⟩ := Reader.bind_eq_ok.mp more
      obtain ⟨whole, rfl⟩ := take_eq_ok taken
      cases decoded : Text.ofUtf8? content with
      | none =>
        rw [decoded] at done
        exact absurd done Reader.throw_ne_ok
      | some found =>
        rw [decoded] at done
        obtain ⟨rfl, rfl⟩ := Reader.pure_eq_ok.mp done
        obtain rfl := Text.ofUtf8?_eq_some_iff.mp decoded
        have size : found.utf8ByteSize = length.toNat := whole
        show input = word64.write (UInt64.ofNat found.utf8ByteSize) ++ Text.utf8 found ++ behind
        rw [faithful_word64.written first, size, UInt64.ofNat_toNat, List.append_assoc]

/-! ### Variants -/

theorem yields_variant {index count : Nat} (valid : index < count) (few : count ≤ UInt32.size) :
    (readVariant count).Yields (littleEndian 4 index) index := by
  have fits : index < capacity 4 := Nat.lt_of_lt_of_le valid few
  have read := yields_number fits
  intro rest
  refine Reader.bind_eq_ok.mpr ⟨index, rest, read rest, ?_⟩
  rw [if_pos valid]
  rfl

theorem readVariant_eq_ok {count index : Nat} {input rest : Bytes}
    (read : readVariant count input = .ok (index, rest)) :
    index < count ∧ input = littleEndian 4 index ++ rest := by
  obtain ⟨found, left, first, more⟩ := Reader.bind_eq_ok.mp read
  split at more
  case isTrue valid =>
    obtain ⟨rfl, rfl⟩ := Reader.pure_eq_ok.mp more
    exact ⟨valid, (number_eq_ok first).2⟩
  case isFalse => exact absurd more Reader.throw_ne_ok

/-- A layout by variants: for each number there is a reader of the fields of the values
with that number. -/
theorem Faithful.variants {index : α → Nat} {fields : α → Bytes} {readFields : Nat → Reader α}
    {count : Nat} (few : count ≤ UInt32.size) (valid : ∀ value, index value < count)
    (yields : ∀ value, (fields value).length < UInt64.size →
      (readFields (index value)).Yields (fields value) value)
    (written : ∀ number, number < count → ∀ {input value rest},
      readFields number input = .ok (value, rest) →
        index value = number ∧ input = fields value ++ rest) :
    Faithful ⟨fun value => writeVariant (index value) (fields value),
      do readFields (← readVariant count)⟩ where
  yields value short := by
    simp only [writeVariant, List.length_append] at short
    exact (yields_variant (valid value) few).bind (yields value (by omega))
  written {input value rest} read := by
    obtain ⟨number, left, first, more⟩ := Reader.bind_eq_ok.mp read
    obtain ⟨small, rfl⟩ := readVariant_eq_ok first
    obtain ⟨rfl, rfl⟩ := written number small more
    exact (List.append_assoc ..).symm

/-- The fields of one variant are laid out as one value, of which `make` makes the
whole. -/
theorem Faithful.field_eq_ok {layout : Layout β} (faithful : layout.Faithful) (make : β → α)
    {input rest : Bytes} {value : α}
    (read : (do return make (← layout.read) : Reader α) input = .ok (value, rest)) :
    ∃ field, make field = value ∧ input = layout.write field ++ rest := by
  obtain ⟨field, left, first, done⟩ := Reader.bind_eq_ok.mp read
  obtain ⟨rfl, rfl⟩ := Reader.pure_eq_ok.mp done
  exact ⟨field, rfl, faithful.written first⟩

theorem faithful_enumeration {index : α → Nat} {values : List α} (few : values.length ≤ UInt32.size)
    (listed : ∀ value, values[index value]? = some value)
    (numbered : ∀ number : Fin values.length, index values[number] = number) :
    (enumeration index values).Faithful where
  yields value _ := by
    have valid : index value < values.length :=
      (List.getElem?_eq_some_iff.mp (listed value)).1
    refine (yields_variant valid few).bind ?_
    rw [listed value]
    exact Reader.yields_pure value
  written {input value rest} read := by
    obtain ⟨number, left, first, more⟩ := Reader.bind_eq_ok.mp read
    obtain ⟨small, rfl⟩ := readVariant_eq_ok first
    rw [List.getElem?_eq_getElem small] at more
    obtain ⟨rfl, rfl⟩ := Reader.pure_eq_ok.mp more
    have same : index values[number] = number := numbered ⟨number, small⟩
    show _ = writeVariant (index values[number]) [] ++ left
    rw [same, writeVariant, List.append_nil]

end Layout

end CacheDirectory.Wire
