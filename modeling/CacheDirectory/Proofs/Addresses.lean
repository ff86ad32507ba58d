/-
Module: CacheDirectory.Proofs.Addresses
Purpose: The notation of an address is read as the address. A long address leaves out a run
  of zeros or shows a short one at its end, and neither loses a group.
Trusted boundary: none
Main exports: SocketAddress.short_append, Groups.zeros_of_longestZeros,
  SocketAddress.groups_tail, SocketAddress.long_append, SocketAddress.parse?_text
-/
import CacheDirectory.Network.Address
import CacheDirectory.Proofs.Notation

namespace CacheDirectory

open Text Text.Parser

namespace SocketAddress

/-! ### Short addresses -/

theorem byte_append (part : UInt8) {rest : List Char} (ends : Ends isDigit rest) :
    byte (Nat.toDigits 10 part.toNat ++ rest) = some (part, rest) := by
  have value : ofDigits 10 (Nat.toDigits 10 part.toNat) = part.toNat :=
    ofDigits_toDigits (by decide) (by decide) part.toNat
  have small : ¬ 256 ≤ part.toNat := Nat.not_le_of_lt part.toNat_lt
  rw [byte, bind_of_read (someOf_append isDigit_of_mem_toDigits ends Nat.toDigits_ne_nil), value,
    if_neg, UInt8.ofNat_toNat]
  · rfl
  · simp only [Bool.or_eq_true, Bool.and_eq_true, decide_eq_true_iff]
    rintro (⟨zero, more⟩ | large)
    · exact more (length_eq_one_of_head? zero)
    · exact small large

theorem short_append (a b c d : UInt8) {rest : List Char} (ends : Ends isDigit rest) :
    short (shortText a b c d ++ rest) = some ((a, b, c, d), rest) := by
  have dot : isDigit '.' = false := rfl
  have layout : shortText a b c d ++ rest =
      Nat.toDigits 10 a.toNat ++ ('.' :: (Nat.toDigits 10 b.toNat ++
        ('.' :: (Nat.toDigits 10 c.toNat ++ ('.' :: (Nat.toDigits 10 d.toNat ++ rest)))))) := by
    simp [shortText, List.intercalate]
  rw [layout, short,
    bind_of_read (byte_append a (ends_cons.mpr dot)), bind_of_read (exactly_cons _ _),
    bind_of_read (byte_append b (ends_cons.mpr dot)), bind_of_read (exactly_cons _ _),
    bind_of_read (byte_append c (ends_cons.mpr dot)), bind_of_read (exactly_cons _ _),
    bind_of_read (byte_append d ends)]
  rfl

/-- A byte takes all the digits that there are. -/
theorem rest_of_byte {input rest : List Char} {part : UInt8}
    (read : byte input = some (part, rest)) : rest = input.dropWhile isDigit := by
  rw [byte] at read
  by_cases none : input.takeWhile isDigit = []
  · rw [bind_of_failure (by rw [someOf_eq, if_pos none])] at read
    cases read
  · rw [bind_of_read (by rw [someOf_eq, if_neg none])] at read
    split at read
    · cases read
    · exact (congrArg Prod.snd (Option.some.inj read)).symm

/-- Where no point follows the first digits there is no short address. -/
theorem short_eq_none {input : List Char}
    (undotted : Ends (· = '.') (input.dropWhile isDigit)) : short input = none := by
  rw [short]
  cases read : byte input with
  | none => exact bind_of_failure read
  | some found =>
      obtain ⟨part, rest⟩ := found
      rw [bind_of_read read]
      refine bind_of_failure ?_
      rw [← rest_of_byte read] at undotted
      cases rest with
      | nil => rfl
      | cons c rest =>
          have other : c ≠ '.' := by simpa using undotted
          exact exactly_of_ne other.symm rest

/-! ### Groups -/

/-- What can follow a group: a colon, a link or the end of the address. -/
inductive GroupEnds : List Char → Prop
  | colon (rest : List Char) : GroupEnds (':' :: rest)
  | link (rest : List Char) : GroupEnds ('%' :: rest)
  | bracket (rest : List Char) : GroupEnds (']' :: rest)

/-- What can follow the last group in a row: two colons, a link or the end. -/
inductive GroupsEnd : List Char → Prop
  | zeros (rest : List Char) : GroupsEnd (':' :: ':' :: rest)
  | link (rest : List Char) : GroupsEnd ('%' :: rest)
  | bracket (rest : List Char) : GroupsEnd (']' :: rest)

theorem GroupsEnd.groupEnds {rest : List Char} (ends : GroupsEnd rest) : GroupEnds rest := by
  cases ends with
  | zeros rest => exact .colon _
  | link rest => exact .link rest
  | bracket rest => exact .bracket rest

theorem GroupEnds.digits {rest : List Char} (ends : GroupEnds rest) :
    Ends (isDigitOf 16) rest := by
  cases ends <;> exact ends_cons.mpr rfl

theorem GroupEnds.figures {rest : List Char} (ends : GroupEnds rest) : Ends isDigit rest :=
  ends.digits.imp fun _ => isDigitOf_of_isDigit

theorem GroupEnds.dot {rest : List Char} (ends : GroupEnds rest) : Ends (· = '.') rest := by
  cases ends <;> exact ends_cons.mpr rfl

theorem isDigitOf_of_mem_hexDigits (group : UInt16) :
    ∀ c ∈ hexDigits group.toNat, isDigitOf 16 c = true :=
  isDigitOf_of_mem_toDigits (by decide) (by decide) group.toNat

theorem group_append (found : UInt16) {rest : List Char} (ends : GroupEnds rest) :
    group (hexDigits found.toNat ++ rest) = some (found, rest) := by
  have value : ofDigits 16 (hexDigits found.toNat) = found.toNat :=
    ofDigits_toDigits (by decide) (by decide) found.toNat
  have few : (hexDigits found.toNat).length ≤ 4 :=
    (Nat.length_toDigits_le_iff (by decide) (by decide)).mpr found.toNat_lt
  rw [group, bind_of_read (someOf_append (isDigitOf_of_mem_hexDigits found) ends.digits
    Nat.toDigits_ne_nil), value, if_neg (Nat.not_lt_of_le few), UInt16.ofNat_toNat]
  rfl

/-- A group is no short address. -/
theorem short_group (found : UInt16) {rest : List Char} (ends : GroupEnds rest) :
    short (hexDigits found.toNat ++ rest) = none := by
  refine short_eq_none fun c first => ?_
  have dot : isDigitOf 16 '.' = false := rfl
  -- The group may begin with figures, but behind them no dot comes, in the group or after it.
  rw [List.dropWhile_append] at first
  split at first
  case isTrue =>
    rw [ends.figures.dropWhile] at first
    exact ends.dot c first
  case isFalse some =>
    rw [List.isEmpty_iff] at some
    have among : c ∈ hexDigits found.toNat := by
      refine (List.dropWhile_suffix isDigit).mem ?_
      rw [List.head?_append, Option.or_of_isSome (by simp [some])] at first
      exact List.mem_of_mem_head? first
    have digit := isDigitOf_of_mem_hexDigits found c among
    refine decide_eq_false fun same => ?_
    rw [same, dot] at digit
    cases digit

/-- Groups that follow others. -/
def tailText (later : List UInt16) : List Char :=
  later.flatMap fun group => ':' :: hexDigits group.toNat

theorem joined_cons (first : UInt16) (later : List UInt16) :
    Groups.joined (first :: later) = hexDigits first.toNat ++ tailText later := by
  induction later generalizing first with
  | nil => simp [Groups.joined, tailText]
  | cons second later ih =>
      have next := ih second
      rw [Groups.joined, List.map_cons] at next ⊢
      rw [List.map_cons, List.intercalate_cons_cons, next]
      simp [tailText]

theorem GroupsEnd.tailText_append {rest : List Char} (ends : GroupsEnd rest)
    (later : List UInt16) : GroupEnds (tailText later ++ rest) := by
  cases later with
  | nil => exact ends.groupEnds
  | cons => exact .colon _

/-- Nothing that ends a row of groups begins another. -/
theorem separated_end {α : Type} {rest : List Char} (ends : GroupsEnd rest) (first : Bool)
    {parser : Parser α} (fails : ∀ rest, GroupEnds rest → parser rest = none) :
    separated first parser rest = none := by
  cases first with
  | true => exact fails rest ends.groupEnds
  | false =>
      cases ends with
      | zeros rest =>
          change ((exactly [':']) >>= fun _ => parser) _ = none
          rw [bind_of_read (exactly_cons _ _)]
          exact fails _ (.colon rest)
      | link rest => exact bind_of_failure (exactly_of_ne (by decide) rest)
      | bracket rest => exact bind_of_failure (exactly_of_ne (by decide) rest)

theorem group_end {rest : List Char} (ends : GroupEnds rest) : group rest = none :=
  bind_of_failure (someOf_of_ends ends.digits)

theorem short_end {rest : List Char} (ends : GroupEnds rest) : short rest = none := by
  refine short_eq_none ?_
  rw [ends.figures.dropWhile]
  exact ends.dot

/-- After the last group there are no more. -/
theorem groups_end {rest : List Char} (ends : GroupsEnd rest) (limit : Nat) (first : Bool) :
    groups limit first rest = some (([], false), rest) := by
  cases limit with
  | zero => rfl
  | succ limit =>
      rw [groups]
      simp only [separated_end ends first fun _ => short_end,
        separated_end ends first fun _ => group_end, ite_self]

/-- One group is read, and then the next ones. -/
theorem groups_succ {limit : Nat} {first : Bool} {input rest : List Char} {found : UInt16}
    (noShort : separated first short input = none)
    (read : separated first group input = some (found, rest)) :
    groups (limit + 1) first input =
      (groups limit false rest).map fun answer =>
        ((found :: answer.1.1, answer.1.2), answer.2) := by
  rw [groups]
  simp only [noShort, read, ite_self]
  cases groups limit false rest <;> rfl

theorem groups_tail {rest : List Char} (ends : GroupsEnd rest) (later : List UInt16)
    (limit : Nat) (room : later.length ≤ limit) :
    groups limit false (tailText later ++ rest) = some ((later, false), rest) := by
  induction later generalizing limit with
  | nil => exact groups_end ends limit false
  | cons found later ih =>
      obtain ⟨limit, rfl⟩ := Nat.exists_eq_add_one_of_ne_zero (Nat.ne_zero_of_lt room)
      have follows := ends.tailText_append later
      have layout : tailText (found :: later) ++ rest =
          ':' :: (hexDigits found.toNat ++ (tailText later ++ rest)) := by
        simp [tailText]
      have noShort : separated false short (tailText (found :: later) ++ rest) = none := by
        rw [layout]
        exact (bind_of_read (exactly_cons _ _)).trans (short_group found follows)
      have read : separated false group (tailText (found :: later) ++ rest) =
          some (found, tailText later ++ rest) := by
        rw [layout]
        exact (bind_of_read (exactly_cons _ _)).trans (group_append found follows)
      rw [groups_succ noShort read, ih limit (by simpa using room)]
      rfl

/-- Groups are read up to where they end. -/
theorem groups_joined {rest : List Char} (ends : GroupsEnd rest) (all : List UInt16)
    (limit : Nat) (room : all.length ≤ limit) :
    groups limit true (Groups.joined all ++ rest) = some ((all, false), rest) := by
  cases all with
  | nil => exact groups_end ends limit true
  | cons found later =>
      obtain ⟨limit, rfl⟩ := Nat.exists_eq_add_one_of_ne_zero (Nat.ne_zero_of_lt room)
      have follows := ends.tailText_append later
      have noShort :
          separated true short (hexDigits found.toNat ++ (tailText later ++ rest)) = none :=
        short_group found follows
      rw [joined_cons, List.append_assoc, groups_succ noShort (group_append found follows),
        groups_tail ends later limit (by simpa using room)]
      rfl

/-! ### Long addresses -/

/-- Eight groups in a row are an address. -/
theorem long_of_row {input rest : List Char} {groups : Groups} {dotted : Bool}
    (read : SocketAddress.groups 8 true input = some ((groups.toList, dotted), rest)) :
    long input = some (groups, rest) := by
  rw [long, bind_of_read read]
  simp only [if_pos groups.length_eq]
  rw [bind_of_read rfl, dif_pos groups.length_eq]
  rfl

/-- Fewer groups with two colons among them are an address with zeros there. -/
theorem long_of_parts {input middle rest : List Char} {groups : Groups} {front back : List UInt16}
    {dotted : Bool}
    (early : SocketAddress.groups 8 true input = some ((front, false), ':' :: ':' :: middle))
    (late : SocketAddress.groups (7 - front.length) true middle = some ((back, dotted), rest))
    (few : front.length < 8)
    (same : front ++ List.replicate (8 - front.length - back.length) 0 ++ back = groups.toList) :
    long input = some (groups, rest) := by
  rw [long, bind_of_read early]
  simp only [if_neg (Nat.ne_of_lt few), Bool.false_eq_true, if_false]
  have colons : exactly [':', ':'] (':' :: ':' :: middle) = some ((), middle) :=
    exactly_append [':', ':'] middle
  rw [bind_of_read colons, bind_of_read late, bind_of_read rfl]
  simp only [same, dif_pos groups.length_eq]
  rfl

end SocketAddress

namespace Groups

/-- A group is made of its two bytes. -/
theorem ofBytes_bytesOf (group : UInt16) :
    ofBytes (bytesOf group).1 (bytesOf group).2 = group := by
  have fits : group.toNat < 2 ^ 16 := group.toNat_lt
  have low : group.toNat % 2 ^ 8 < 2 ^ 8 := Nat.mod_lt _ (by decide)
  have high : (group.toNat >>> 8 % 2 ^ 8) <<< 8 < 2 ^ 16 := by
    rw [Nat.shiftLeft_eq]
    omega
  apply UInt16.toNat_inj.mp
  calc (ofBytes (bytesOf group).1 (bytesOf group).2).toNat
      = (group.toNat >>> 8 % 2 ^ 8) <<< 8 % 2 ^ 16 ||| group.toNat % 2 ^ 8 := by
        simp [ofBytes, bytesOf]
    _ = (group.toNat >>> 8 % 2 ^ 8) <<< 8 + group.toNat % 2 ^ 8 := by
        rw [Nat.mod_eq_of_lt high, Nat.shiftLeft_add_eq_or_of_lt low]
    _ = group.toNat := by
        rw [Nat.shiftLeft_eq, Nat.shiftRight_eq_div_pow]
        omega

theorem leadingZeros (all : List UInt16) :
    List.replicate (all.takeWhile (· = 0)).length 0 ++
      all.drop (all.takeWhile (· = 0)).length = all := by
  induction all with
  | nil => rfl
  | cons group rest ih =>
      by_cases zero : group = 0
      · simpa [zero, List.replicate_succ] using ih
      · simp [zero]

/-- What a notation leaves out are zeros. -/
theorem zeros_of_longestZeros {all : List UInt16} {start length : Nat}
    (longest : longestZeros all = (start, length)) :
    all.take start ++ List.replicate length 0 ++ all.drop (start + length) = all := by
  induction all generalizing start length with
  | nil =>
      cases longest
      rfl
  | cons group rest ih =>
      rw [longestZeros] at longest
      rcases later : longestZeros rest with ⟨start', length'⟩
      simp only [later] at longest
      split at longest
      case isTrue =>
        cases longest
        rw [List.take_zero, List.nil_append, Nat.zero_add]
        exact leadingZeros (group :: rest)
      case isFalse =>
        cases longest
        rw [Nat.add_right_comm, List.take_succ_cons, List.drop_succ_cons, List.cons_append,
          List.cons_append, ih later]

end Groups

namespace SocketAddress

/-- What stands behind the two colons of an address that shows a short one. -/
theorem groups_embedded (a b c d : UInt8) {rest : List Char} (digits : Ends isDigit rest) :
    groups 7 true ("ffff:".toList ++ shortText a b c d ++ rest) =
      some (([0xffff, Groups.ofBytes a b, Groups.ofBytes c d], true), rest) := by
  have follows : GroupEnds (':' :: (shortText a b c d ++ rest)) := .colon _
  have noShort : separated true short ("ffff:".toList ++ shortText a b c d ++ rest) = none :=
    short_group 0xffff follows
  have front : separated true group ("ffff:".toList ++ shortText a b c d ++ rest) =
      some (0xffff, ':' :: (shortText a b c d ++ rest)) := group_append 0xffff follows
  have back : separated false short (':' :: (shortText a b c d ++ rest)) =
      some ((a, b, c, d), rest) :=
    (bind_of_read (exactly_cons _ _)).trans (short_append a b c d digits)
  have shown : groups 6 false (':' :: (shortText a b c d ++ rest)) =
      some (([Groups.ofBytes a b, Groups.ofBytes c d], true), rest) := by
    rw [groups]
    simp only [Nat.reduceEqDiff, if_false, back]
  rw [groups_succ noShort front, shown]
  rfl

theorem long_embedded {groups : Groups} {high low : UInt16}
    (shows : groups.toList = [0, 0, 0, 0, 0, 0xffff, high, low]) {rest : List Char}
    (digits : Ends isDigit rest) :
    long ("::ffff:".toList ++ shortText (Groups.bytesOf high).1 (Groups.bytesOf high).2
      (Groups.bytesOf low).1 (Groups.bytesOf low).2 ++ rest) = some (groups, rest) := by
  refine long_of_parts (groups_end (.zeros _) 8 true) (groups_embedded _ _ _ _ digits)
    (by decide) ?_
  rw [Groups.ofBytes_bytesOf, Groups.ofBytes_bytesOf, shows]
  rfl

/-- The groups around the two colons are in their places again. -/
theorem long_shortened {groups : Groups} {start length : Nat}
    (longest : Groups.longestZeros groups.toList = (start, length)) (several : 1 < length)
    {rest : List Char} (ends : GroupsEnd rest) :
    long (Groups.joined (groups.toList.take start) ++ [':', ':'] ++
      Groups.joined (groups.toList.drop (start + length)) ++ rest) = some (groups, rest) := by
  have whole := Groups.zeros_of_longestZeros longest
  have count := congrArg List.length whole
  rw [List.length_append, List.length_append, List.length_replicate, groups.length_eq] at count
  have layout : Groups.joined (groups.toList.take start) ++ [':', ':'] ++
      Groups.joined (groups.toList.drop (start + length)) ++ rest =
        Groups.joined (groups.toList.take start) ++
          (':' :: ':' :: (Groups.joined (groups.toList.drop (start + length)) ++ rest)) := by
    simp
  rw [layout]
  refine long_of_parts (groups_joined (.zeros _) _ 8 (by omega))
    (groups_joined ends _ _ (by omega)) (by omega) ?_
  have gap : 8 - (groups.toList.take start).length -
      (groups.toList.drop (start + length)).length = length := by omega
  rw [gap, whole]

/-- The notation of a long address, whichever it is, is read as the address. -/
theorem long_append (groups : Groups) {rest : List Char} (ends : GroupsEnd rest) :
    long (groups.text ++ rest) = some (groups, rest) := by
  rw [Groups.text]
  split
  case h_1 high low shows => exact long_embedded shows ends.groupEnds.figures
  case h_2 =>
    rcases longest : Groups.longestZeros groups.toList with ⟨start, length⟩
    simp only
    split
    case isTrue several => exact long_shortened longest several ends
    case isFalse =>
      exact long_of_row (groups_joined ends groups.toList 8 (Nat.le_of_eq groups.length_eq))

/-! ### Addresses with ports -/

theorem decimal_append {number bound : Nat} (below : number < bound) {rest : List Char}
    (digits : Ends isDigit rest) :
    decimal bound (Nat.toDigits 10 number ++ rest) = some (number, rest) := by
  have value : ofDigits 10 (Nat.toDigits 10 number) = number :=
    ofDigits_toDigits (by decide) (by decide) number
  rw [decimal, bind_of_read (someOf_append isDigit_of_mem_toDigits digits Nat.toDigits_ne_nil)]
  simp only [value, if_pos below]
  rfl

/-- The link of a long address, which is written if there is one. -/
def linkText (link : UInt32) : List Char :=
  if link = 0 then [] else '%' :: Nat.toDigits 10 link.toNat

theorem link_append (named : UInt32) (rest : List Char) :
    link (linkText named ++ ']' :: rest) = some (named, ']' :: rest) := by
  rw [linkText]
  split
  case isTrue none =>
    rw [none]
    rfl
  case isFalse some =>
    have ends : Ends isDigit (']' :: rest) := ends_cons.mpr rfl
    have read : (do
        exactly ['%']
        return UInt32.ofNat (← decimal UInt32.size) : Parser UInt32)
          ('%' :: Nat.toDigits 10 named.toNat ++ ']' :: rest) =
            Option.some (named, ']' :: rest) := by
      rw [List.cons_append, bind_of_read (exactly_cons _ _),
        bind_of_read (decimal_append named.toNat_lt ends), UInt32.ofNat_toNat]
      rfl
    exact read

/-- The notation of a port, at the end of an address. -/
def portText (port : UInt16) : List Char :=
  ':' :: Nat.toDigits 10 port.toNat

theorem port_append (host : HostAddress) (port : UInt16) :
    (do
      exactly [':']
      return ⟨host, UInt16.ofNat (← decimal UInt16.size)⟩ : Parser SocketAddress)
        (portText port) = some (⟨host, port⟩, []) := by
  have read : decimal UInt16.size (Nat.toDigits 10 port.toNat ++ []) = some (port.toNat, []) :=
    decimal_append port.toNat_lt (ends_nil isDigit)
  rw [List.append_nil] at read
  rw [portText, bind_of_read (exactly_cons _ _), bind_of_read read, UInt16.ofNat_toNat]
  rfl

/-- A short address begins with a digit. -/
theorem isDigit_of_head?_shortText {a b c d : UInt8} {rest : List Char} {first : Char}
    (front : (shortText a b c d ++ rest).head? = some first) : isDigit first = true := by
  have layout : shortText a b c d = Nat.toDigits 10 a.toNat ++
      List.intercalate ['.'] ([] :: [b, c, d].map fun part => Nat.toDigits 10 part.toNat) := by
    simp [shortText, List.intercalate]
  rw [layout, List.append_assoc] at front
  exact isDigit_of_head?_toDigits front

theorem address_short (a b c d : UInt8) (port : UInt16) :
    address (shortText a b c d ++ portText port) = some (⟨.short a b c d, port⟩, []) := by
  have ends : Ends isDigit (portText port) := ends_cons.mpr rfl
  rw [address, bind_of_read rfl]
  generalize front : (shortText a b c d ++ portText port).head? = first
  split
  case h_1 => exact absurd (isDigit_of_head?_shortText front) (by decide)
  case h_2 =>
    rw [bind_of_read (short_append a b c d ends)]
    exact port_append (.short a b c d) port

theorem address_long (groups : Groups) (link : UInt32) (port : UInt16) :
    address ('[' :: (groups.text ++ (linkText link ++ (']' :: portText port)))) =
      some (⟨.long groups link, port⟩, []) := by
  have ends : GroupsEnd (linkText link ++ (']' :: portText port)) := by
    rw [linkText]
    split
    case isTrue => exact .bracket _
    case isFalse => exact .link _
  rw [address, bind_of_read rfl]
  simp only [List.head?_cons]
  rw [bind_of_read (exactly_cons _ _), bind_of_read (long_append groups ends),
    bind_of_read (link_append link _), bind_of_read (exactly_cons _ _)]
  exact port_append (.long groups link) port

/-- The notation of an address is read as the address. -/
theorem parse?_text (address : SocketAddress) : parse? address.text = some address := by
  have read : SocketAddress.address address.text.toList = some (address, []) := by
    obtain ⟨host, port⟩ := address
    cases host with
    | short a b c d =>
        rw [text, String.toList_ofList]
        exact address_short a b c d port
    | long groups link =>
        rw [text, String.toList_ofList]
        have layout : ['['] ++ groups.text ++ linkText link ++ [']'] ++ portText port =
            '[' :: (groups.text ++ (linkText link ++ (']' :: portText port))) := by simp
        exact (congrArg SocketAddress.address layout).trans (address_long groups link port)
  rw [parse?, whole, read]

/-- The notation of an address is not empty, since nothing is no address. -/
theorem text_ne_nil (address : SocketAddress) : address.text.toList ≠ [] := by
  intro nothing
  have read := parse?_text address
  rw [parse?, whole, nothing] at read
  cases read

/-! ### Characters -/

/-- The characters of addresses. -/
def isAddressChar (c : Char) : Bool :=
  isDigitOf 16 c || c = '.' || c = ':' || c = '%' || c = '[' || c = ']'

/-- A text is made of the characters of addresses. -/
def Spelled (text : List Char) : Prop :=
  ∀ c ∈ text, isAddressChar c = true

theorem spelled_append {front back : List Char} (early : Spelled front) (late : Spelled back) :
    Spelled (front ++ back) :=
  List.forall_mem_append.mpr ⟨early, late⟩

theorem spelled_cons {c : Char} {text : List Char} (mark : isAddressChar c = true)
    (rest : Spelled text) : Spelled (c :: text) :=
  List.forall_mem_cons.mpr ⟨mark, rest⟩

theorem spelled_nil : Spelled [] :=
  nofun

theorem spelled_toDigits (number : Nat) : Spelled (Nat.toDigits 10 number) := by
  intro c among
  rw [isAddressChar, isDigitOf_of_isDigit (isDigit_of_mem_toDigits c among)]
  rfl

theorem spelled_hexDigits (group : UInt16) : Spelled (hexDigits group.toNat) := by
  intro c among
  rw [isAddressChar, isDigitOf_of_mem_hexDigits group c among]
  rfl

theorem spelled_intercalate {mark : Char} (known : isAddressChar mark = true)
    {parts : List (List Char)} (each : ∀ part ∈ parts, Spelled part) :
    Spelled (List.intercalate [mark] parts) := by
  induction parts with
  | nil => exact spelled_nil
  | cons first rest ih =>
      rw [List.forall_mem_cons] at each
      cases rest with
      | nil =>
          rw [List.intercalate_singleton]
          exact each.1
      | cons second rest =>
          rw [List.intercalate_cons_cons]
          exact spelled_append (spelled_append each.1 (spelled_cons known spelled_nil)) (ih each.2)

theorem spelled_shortText (a b c d : UInt8) : Spelled (shortText a b c d) :=
  spelled_intercalate rfl (List.forall_mem_map.mpr fun part _ => spelled_toDigits part.toNat)

theorem spelled_joined (groups : List UInt16) : Spelled (Groups.joined groups) :=
  spelled_intercalate rfl (List.forall_mem_map.mpr fun group _ => spelled_hexDigits group)

theorem spelled_groups (groups : Groups) : Spelled groups.text := by
  have colons : Spelled [':', ':'] := spelled_cons rfl (spelled_cons rfl spelled_nil)
  rw [Groups.text]
  split
  case h_1 high low _ =>
    have front : Spelled "::ffff:".toList := List.all_eq_true.mp rfl
    exact spelled_append front (spelled_shortText _ _ _ _)
  case h_2 =>
    rcases Groups.longestZeros groups.toList with ⟨start, length⟩
    simp only
    split
    case isTrue =>
      exact spelled_append (spelled_append (spelled_joined _) colons) (spelled_joined _)
    case isFalse => exact spelled_joined _

theorem spelled_portText (port : UInt16) : Spelled (portText port) :=
  spelled_cons rfl (spelled_toDigits port.toNat)

theorem spelled_linkText (link : UInt32) : Spelled (linkText link) := by
  rw [linkText]
  split
  case isTrue => exact spelled_nil
  case isFalse => exact spelled_cons rfl (spelled_toDigits link.toNat)

theorem spelled_text (address : SocketAddress) : Spelled address.text.toList := by
  obtain ⟨host, port⟩ := address
  cases host with
  | short a b c d =>
      rw [text, String.toList_ofList]
      exact spelled_append (spelled_shortText a b c d) (spelled_portText port)
  | long groups link =>
      rw [text, String.toList_ofList]
      have inside : Spelled ('[' :: groups.text ++ linkText link) :=
        spelled_append (spelled_cons rfl (spelled_groups groups)) (spelled_linkText link)
      have bracket : Spelled [']'] := spelled_cons rfl spelled_nil
      exact spelled_append (spelled_append inside bracket) (spelled_portText port)

end SocketAddress

end CacheDirectory
