/-
Module: CacheDirectory.Proofs.SettingsRoundTrip
Purpose: Settings that were read from a text can be written, and the text that is written
  gives the same settings.
Trusted boundary: none
Main exports: Settings.Storable, Settings.storable_ofFields?, Settings.text_of_storable,
  Settings.ofFields?_fields, Settings.ofText_text
-/
import CacheDirectory.Proofs.Addresses
import CacheDirectory.Proofs.WrittenLines
import CacheDirectory.Settings.Document

namespace CacheDirectory

open Text Toml

/-! ### Numbers that were read -/

namespace Toml

/-- All the numbers in the parts of a record can be written. -/
def Parts.Writable : Parts → Prop
  | .named fields => fields.Writable
  | .inOrder items => ∀ item ∈ items, item.Writable

theorem writable_parts? {value : Value} {parts : Parts} (writable : value.Writable)
    (read : value.parts? = some parts) : parts.Writable := by
  cases writable with
  | table each =>
      cases read
      exact each
  | array each =>
      cases read
      exact each
  | tables each =>
      cases read
      intro item among
      obtain ⟨fields, earlier, rfl⟩ := List.mem_map.mp among
      exact .table (each fields (List.mem_reverse.mp earlier))
  | date literal =>
      cases read
      exact Fields.writable_nil
  | text content => cases read
  | integer below => cases read
  | float literal => cases read
  | bool value => cases read

namespace Parts

variable {parts : Parts} {position : Nat} {name : String}

theorem Writable.get? (writable : parts.Writable) {value : Value}
    (found : parts.get? position name = some value) : value.Writable := by
  cases parts with
  | named fields => exact Fields.Writable.get? writable found
  | inOrder items => exact writable value (List.mem_of_getElem? found)

/-- A property of what is read that a default has and every writable part. -/
theorem Writable.read {α : Type} (answer : α → Prop) (writable : parts.Writable)
    {denoted : Value → Option α} {default found : α} (usual : answer default)
    (denotes : ∀ value, value.Writable → denoted value = some found → answer found)
    (read : parts.read position name denoted default = some found) : answer found := by
  rw [Parts.read] at read
  split at read
  case h_1 =>
    cases read
    exact usual
  case h_2 value present => exact denotes value (writable.get? present) read

end Parts

/-- A number of 64 bits without a sign can be written if its first bit is not set. -/
def Small (number : UInt64) : Prop :=
  number.toNat < numberLimit

instance (number : UInt64) : Decidable (Small number) :=
  inferInstanceAs (Decidable (_ < _))

theorem small_of_word64? {number : UInt64} (value : Value) (writable : value.Writable)
    (read : value.word64? = some number) : Small number := by
  obtain ⟨natural, denoted, rfl⟩ := Option.map_eq_some_iff.mp read
  cases writable with
  | integer below =>
      rw [Value.natural?] at denoted
      split at denoted
      case isTrue =>
        cases denoted
        have positive : 0 < numberLimit := by decide
        rw [Small, UInt64.toNat_ofNat']
        omega
      case isFalse => cases denoted
  | _ => cases denoted

end Toml

/-- The numbers of settings about deliveries can be written. -/
structure DeliverySettings.Storable (settings : DeliverySettings) : Prop where
  retryBackoff : Small settings.retryBackoff
  requestTimeout : Small settings.requestTimeout
  maxInFlight : Small settings.maxInFlight

theorem DeliverySettings.storable_ofValue? {settings : DeliverySettings} (value : Value)
    (writable : value.Writable) (read : ofValue? value = some settings) : settings.Storable := by
  rw [ofValue?] at read
  obtain ⟨parts, record, read⟩ := Option.bind_eq_some_iff.mp read
  have writable := writable_parts? writable record
  obtain ⟨maxAttempts, -, read⟩ := Option.bind_eq_some_iff.mp read
  obtain ⟨retryBackoff, backoff, read⟩ := Option.bind_eq_some_iff.mp read
  obtain ⟨requestTimeout, timeout, read⟩ := Option.bind_eq_some_iff.mp read
  obtain ⟨maxInFlight, flights, read⟩ := Option.bind_eq_some_iff.mp read
  cases read
  have small {position : Nat} {name : String} {default found : UInt64} :
      Small default → parts.read position name Value.word64? default = some found → Small found :=
    fun usual => writable.read Small usual small_of_word64?
  exact ⟨small (by decide) backoff, small (by decide) timeout, small (by decide) flights⟩

namespace Settings

/-- The numbers of settings can be written. -/
structure Storable (settings : Settings) : Prop where
  maxConnections : Small settings.maxConnections
  delivery : settings.delivery.Storable

theorem storable_ofFields? {fields : Fields} (writable : fields.Writable) {settings : Settings}
    (read : ofFields? fields = some settings) : settings.Storable := by
  rw [ofFields?] at read
  have writable : (Parts.named fields).Writable := writable
  obtain ⟨requests, -, read⟩ := Option.bind_eq_some_iff.mp read
  obtain ⟨admin, -, read⟩ := Option.bind_eq_some_iff.mp read
  obtain ⟨maxConnections, connections, read⟩ := Option.bind_eq_some_iff.mp read
  obtain ⟨ports, -, read⟩ := Option.bind_eq_some_iff.mp read
  obtain ⟨delivery, callbacks, read⟩ := Option.bind_eq_some_iff.mp read
  cases read
  have usual : DeliverySettings.Storable {} := ⟨by decide, by decide, by decide⟩
  exact ⟨writable.read Small (by decide) small_of_word64? connections,
    writable.read DeliverySettings.Storable usual DeliverySettings.storable_ofValue? callbacks⟩

/-- A text gives the settings that its fields denote, if they are sensible. -/
theorem ofText_eq_ok_iff {text : String} {settings : Settings} : ofText text = .ok settings ↔
    document? text >>= ofFields? = some settings ∧ settings.check = .ok () := by
  rw [ofText]
  cases document? text >>= ofFields? with
  | none => exact iff_of_false nofun fun found => nomatch found.1
  | some found =>
      constructor
      · intro accepted
        cases checked : found.check with
        | error cause =>
            simp only [checked] at accepted
            cases accepted
        | ok =>
            simp only [checked] at accepted
            cases accepted
            exact ⟨rfl, checked⟩
      · rintro ⟨same, checked⟩
        cases same
        simp only [checked]
        rfl

theorem storable_ofText {text : String} {settings : Settings}
    (accepted : ofText text = .ok settings) : settings.Storable := by
  obtain ⟨fields, document, read⟩ := Option.bind_eq_some_iff.mp (ofText_eq_ok_iff.mp accepted).1
  exact storable_ofFields? (writable_document? document) read

/-! ### The text that is written -/

/-- A line with an address, and what it says. -/
def addressPiece (key : String) (address : SocketAddress) : List Char × Line :=
  (key.toList ++ ([' ', '=', ' '] ++ ('"' :: address.text.toList ++ ['"'] ++ ['\n'])),
    .definition ⟨[], key, .text address.text⟩)

/-- A line with a number, and what it says. -/
def numberPiece (key : String) (number : Nat) : List Char × Line :=
  (key.toList ++ ([' ', '=', ' '] ++ (Nat.toDigits 10 number ++ ['\n'])),
    .definition ⟨[], key, .integer number⟩)

/-- An empty line and a header. -/
def headerPiece (key : String) : List Char × Line :=
  ('\n' :: '[' :: (key.toList ++ [']', '\n']), .table [] key)

/-- The lines of the document that settings are written as. -/
def pieces (settings : Settings) : List (List Char × Line) :=
  [addressPiece "bind_addr" settings.requests,
    addressPiece "admin_addr" settings.admin,
    numberPiece "max_connections" settings.maxConnections.toNat,
    headerPiece "update_queue_ports",
    numberPiece "first" settings.ports.first.toNat,
    numberPiece "last" settings.ports.last.toNat,
    headerPiece "callbacks",
    numberPiece "max_attempts" settings.delivery.maxAttempts.toNat,
    numberPiece "retry_backoff_ms" settings.delivery.retryBackoff.toNat,
    numberPiece "request_timeout_ms" settings.delivery.requestTimeout.toNat,
    numberPiece "max_in_flight" settings.delivery.maxInFlight.toNat]

/-- The fields of its table of ports. -/
def portFields (range : PortRange) : Fields :=
  [("first", .integer range.first.toNat), ("last", .integer range.last.toNat)]

/-- The fields of its table about deliveries. -/
def deliveryFields (delivery : DeliverySettings) : Fields :=
  [("max_attempts", .integer delivery.maxAttempts.toNat),
    ("retry_backoff_ms", .integer delivery.retryBackoff.toNat),
    ("request_timeout_ms", .integer delivery.requestTimeout.toNat),
    ("max_in_flight", .integer delivery.maxInFlight.toNat)]

/-- The fields of that document. -/
def fields (settings : Settings) : Fields :=
  [("bind_addr", .text settings.requests.text),
    ("admin_addr", .text settings.admin.text),
    ("max_connections", .integer settings.maxConnections.toNat),
    ("update_queue_ports", .table .header (portFields settings.ports)),
    ("callbacks", .table .header (deliveryFields settings.delivery))]

/-- Digits are characters that a line may hold. -/
theorem isLineChar_of_isDigitOf {c : Char} (digit : isDigitOf 16 c = true) :
    isLineChar c = true := by
  have other : c ≠ '\x7f' := by
    rintro rfl
    exact absurd digit (by decide)
  have above : ' ' ≤ c := by
    rw [isDigitOf, decide_eq_true_iff, digitValue] at digit
    split at digit
    case isTrue figure =>
      rw [isDigit, Bool.and_eq_true, decide_eq_true_iff] at figure
      exact Char.le_trans (by decide) figure.1
    case isFalse =>
      split at digit
      case isTrue letter =>
        rw [Bool.and_eq_true, decide_eq_true_iff] at letter
        exact Char.le_trans (by decide) letter.1
      case isFalse =>
        split at digit
        case isTrue letter =>
          rw [Bool.and_eq_true, decide_eq_true_iff] at letter
          exact Char.le_trans (by decide) letter.1
        case isFalse => exact absurd digit (by decide)
  simp [isLineChar, above, other]

theorem isPlainChar_of_isAddressChar {c : Char} (spelled : SocketAddress.isAddressChar c = true) :
    isPlainChar c = true := by
  have unmarked : c ≠ '"' := by
    rintro rfl
    exact absurd spelled (by decide)
  have unescaped : c ≠ '\\' := by
    rintro rfl
    exact absurd spelled (by decide)
  have visible : isLineChar c = true := by
    simp only [SocketAddress.isAddressChar, Bool.or_eq_true, decide_eq_true_iff] at spelled
    rcases spelled with ((((digit | rfl) | rfl) | rfl) | rfl) | rfl
    · exact isLineChar_of_isDigitOf digit
    all_goals rfl
  simp [isPlainChar, visible, unmarked, unescaped]

theorem shows_addressPiece {key : String} (plain : PlainKey key.toList) (address : SocketAddress) :
    Shows (addressPiece key address).1 (addressPiece key address).2 := by
  have present : address.text.toList ≠ [] := address.text_ne_nil
  have denotes := denotes_text
    (fun c among => isPlainChar_of_isAddressChar (address.spelled_text c among)) present
  have shows := shows_definition plain denotes
  rwa [String.ofList_toList, String.ofList_toList] at shows

theorem shows_numberPiece {key : String} (plain : PlainKey key.toList) {number : Nat}
    (below : number < numberLimit) :
    Shows (numberPiece key number).1 (numberPiece key number).2 := by
  have shows := shows_definition plain (denotes_number below)
  rwa [String.ofList_toList] at shows

theorem shows_headerPiece {key : String} (plain : PlainKey key.toList) :
    Shows (headerPiece key).1 (headerPiece key).2 := by
  have shows := shows_header plain
  rwa [String.ofList_toList] at shows

theorem word16_lt (word : UInt16) : word.toNat < numberLimit :=
  Nat.lt_trans word.toNat_lt (by decide)

theorem word32_lt (word : UInt32) : word.toNat < numberLimit :=
  Nat.lt_trans word.toNat_lt (by decide)

theorem shows_pieces {settings : Settings} (storable : settings.Storable) :
    ∀ piece ∈ settings.pieces, Shows piece.1 piece.2 := by
  simp only [pieces, List.forall_mem_cons]
  exact ⟨shows_addressPiece (plainKey_of_all rfl rfl) _,
    shows_addressPiece (plainKey_of_all rfl rfl) _,
    shows_numberPiece (plainKey_of_all rfl rfl) storable.maxConnections,
    shows_headerPiece (plainKey_of_all rfl rfl),
    shows_numberPiece (plainKey_of_all rfl rfl) (word16_lt _),
    shows_numberPiece (plainKey_of_all rfl rfl) (word16_lt _),
    shows_headerPiece (plainKey_of_all rfl rfl),
    shows_numberPiece (plainKey_of_all rfl rfl) (word32_lt _),
    shows_numberPiece (plainKey_of_all rfl rfl) storable.delivery.retryBackoff,
    shows_numberPiece (plainKey_of_all rfl rfl) storable.delivery.requestTimeout,
    shows_numberPiece (plainKey_of_all rfl rfl) storable.delivery.maxInFlight, nofun⟩

theorem assemble_pieces (settings : Settings) :
    assemble (settings.pieces.length + 1) (settings.pieces.map (·.2)) [] = some settings.fields :=
  rfl

theorem natural?_integer {number bound : Nat} (below : number < bound) :
    (Value.integer number).natural? bound = some number := by
  rw [Value.natural?, if_pos]
  · rfl
  · rw [Bool.and_eq_true, decide_eq_true_iff, decide_eq_true_iff]
    omega

theorem word16?_integer (word : UInt16) : (Value.integer word.toNat).word16? = some word := by
  rw [Value.word16?, natural?_integer word.toNat_lt, Option.map_some, UInt16.ofNat_toNat]

theorem word32?_integer (word : UInt32) : (Value.integer word.toNat).word32? = some word := by
  rw [Value.word32?, natural?_integer word.toNat_lt, Option.map_some, UInt32.ofNat_toNat]

theorem word64?_integer (word : UInt64) : (Value.integer word.toNat).word64? = some word := by
  rw [Value.word64?, natural?_integer word.toNat_lt, Option.map_some, UInt64.ofNat_toNat]

theorem numberLine_of_lt {key : String} {number : Nat} (below : number < numberLimit) :
    numberLine key number = .ok (line key (toString number)) :=
  if_neg (Nat.not_le_of_lt below)

/-! ### The fields that are read -/

section

variable {fields : Fields} {position : Nat} {name : String}

/-- A field that is there is read, whatever the default. -/
theorem read_of_get? {α : Type} {value : Value} (found : fields.get? name = some value)
    (denoted : Value → Option α) (default : α) :
    (Parts.named fields).read position name denoted default = denoted value := by
  rw [Parts.read, Parts.get?, found]

theorem read_word32? {word default : UInt32}
    (found : fields.get? name = some (.integer word.toNat)) :
    (Parts.named fields).read position name Value.word32? default = some word := by
  rw [read_of_get? found, word32?_integer]

theorem read_word64? {word default : UInt64}
    (found : fields.get? name = some (.integer word.toNat)) :
    (Parts.named fields).read position name Value.word64? default = some word := by
  rw [read_of_get? found, word64?_integer]

theorem read_address? {address default : SocketAddress}
    (found : fields.get? name = some (.text address.text)) :
    (Parts.named fields).read position name Value.address? default = some address := by
  rw [read_of_get? found]
  exact address.parse?_text

theorem ofValue?_ports {range : PortRange}
    (first : fields.get? "first" = some (.integer range.first.toNat))
    (last : fields.get? "last" = some (.integer range.last.toNat)) :
    PortRange.ofValue? (.table .header fields) = some range := by
  simp only [PortRange.ofValue?, Value.parts?, Parts.get?, Option.bind_eq_bind, Option.bind_some]
  rw [first, Option.bind_some, word16?_integer, Option.bind_some, last, Option.bind_some,
    word16?_integer, Option.bind_some]
  rfl

theorem ofValue?_delivery {delivery : DeliverySettings}
    (attempts : fields.get? "max_attempts" = some (.integer delivery.maxAttempts.toNat))
    (backoff : fields.get? "retry_backoff_ms" = some (.integer delivery.retryBackoff.toNat))
    (timeout : fields.get? "request_timeout_ms" = some (.integer delivery.requestTimeout.toNat))
    (flights : fields.get? "max_in_flight" = some (.integer delivery.maxInFlight.toNat)) :
    DeliverySettings.ofValue? (.table .header fields) = some delivery := by
  simp only [DeliverySettings.ofValue?, Value.parts?, Option.bind_eq_bind, Option.bind_some,
    read_word32? attempts, read_word64? backoff, read_word64? timeout, read_word64? flights]
  rfl

/-- Fields with the values that are written for settings denote the settings. -/
theorem ofFields?_of_get? {settings : Settings} {ports delivery : Value}
    (requests : fields.get? "bind_addr" = some (.text settings.requests.text))
    (admin : fields.get? "admin_addr" = some (.text settings.admin.text))
    (connections : fields.get? "max_connections" =
      some (.integer settings.maxConnections.toNat))
    (portTable : fields.get? "update_queue_ports" = some ports)
    (portsRead : PortRange.ofValue? ports = some settings.ports)
    (deliveryTable : fields.get? "callbacks" = some delivery)
    (deliveryRead : DeliverySettings.ofValue? delivery = some settings.delivery) :
    ofFields? fields = some settings := by
  simp only [ofFields?, Option.bind_eq_bind, Option.bind_some, read_address? requests,
    read_address? admin, read_word64? connections, read_of_get? portTable, portsRead,
    read_of_get? deliveryTable, deliveryRead]
  rfl

end

theorem ofFields?_fields (settings : Settings) : ofFields? settings.fields = some settings :=
  ofFields?_of_get? rfl rfl rfl rfl (ofValue?_ports rfl rfl) rfl (ofValue?_delivery rfl rfl rfl rfl)

theorem toList_addressLine (key : String) (address : SocketAddress) :
    (addressLine key address).toList = (addressPiece key address).1 := by
  simp only [addressLine, line, addressPiece, String.toList_append, List.append_assoc]
  rfl

theorem toList_numberLine (key : String) (number : Nat) :
    (line key (toString number)).toList = (numberPiece key number).1 := by
  simp only [line, numberPiece, String.toList_append, List.append_assoc, Nat.toString_eq_repr,
    Nat.toList_repr]
  rfl

/-- Settings whose numbers can be written can be written, line by line. -/
theorem text_of_storable {settings : Settings} (storable : settings.Storable) :
    ∃ written, settings.text = .ok written ∧ written.toList = settings.pieces.flatMap (·.1) := by
  have ports : "\n[update_queue_ports]\n".toList = (headerPiece "update_queue_ports").1 := rfl
  have delivery : "\n[callbacks]\n".toList = (headerPiece "callbacks").1 := rfl
  rw [text, numberLine_of_lt storable.maxConnections, numberLine_of_lt (word16_lt _),
    numberLine_of_lt (word16_lt _), numberLine_of_lt (word32_lt _),
    numberLine_of_lt storable.delivery.retryBackoff,
    numberLine_of_lt storable.delivery.requestTimeout,
    numberLine_of_lt storable.delivery.maxInFlight]
  refine ⟨_, rfl, ?_⟩
  simp only [pieces, List.flatMap_cons, List.flatMap_nil, List.append_nil, String.toList_append,
    List.append_assoc, toList_addressLine, toList_numberLine, ports, delivery]

/-- Settings that a text gives can be written, and the text that is written gives the same
settings, each of them. -/
theorem ofText_text {text : String} {settings : Settings} (accepted : ofText text = .ok settings) :
    ∃ written, settings.text = .ok written ∧ ofText written = .ok settings := by
  have storable := storable_ofText accepted
  obtain ⟨written, same, layout⟩ := text_of_storable storable
  refine ⟨written, same, ofText_eq_ok_iff.mpr ⟨?_, (ofText_eq_ok_iff.mp accepted).2⟩⟩
  have unmarked : withoutByteOrderMark written.toList = written.toList := by
    rw [layout]
    rfl
  rw [document?_shown (shows_pieces storable) layout unmarked, assemble_pieces]
  exact ofFields?_fields settings

/-- Settings in other words than those they are written in. The addresses are long ones, one
with a link and the other with a short one in it, a number is as great as it may be, and
all other fields are left out. -/
def unusual : String :=
  "bind_addr = '[FE80:0::07:0:0:1%3]:44530'\n" ++
    "admin_addr = '[0::ffff:a00:1]:01'\n" ++
    "callbacks.max_in_flight = 0x7fff_ffff_ffff_ffff\n"

/-- They are written in the usual words and read again. -/
theorem ofText_text_unusual :
    let settings : Settings :=
      { requests := ⟨.long ⟨[0xfe80, 0, 0, 0, 7, 0, 0, 1], rfl⟩ 3, 44530⟩
        admin := ⟨.long ⟨[0, 0, 0, 0, 0, 0xffff, 0xa00, 1], rfl⟩ 0, 1⟩
        delivery := { maxInFlight := 9223372036854775807 } }
    ofText unusual = .ok settings ∧
      settings.requests.text = "[fe80::7:0:0:1%3]:44530" ∧
      settings.admin.text = "[::ffff:10.0.0.1]:1" ∧
      ∃ written, settings.text = .ok written ∧ ofText written = .ok settings := by
  intro settings
  have accepted : ofText unusual = .ok settings :=
    ofText_eq_ok_iff.mpr ⟨by decide +kernel, rfl⟩
  exact ⟨accepted, by decide +kernel, by decide +kernel, ofText_text accepted⟩

end Settings

end CacheDirectory
