import ArpProbe.Address.Mac
import ArpProbe.Proofs.Text.Separated
import Mathlib.Data.List.Forall2
import Mathlib.Tactic.SplitIfs

/-!
# Which texts are hardware addresses

A hardware address is written as six groups of two hexadecimal digits. The reader takes all texts of
this form, and also takes a plus sign for the first digit of a group: `grouped_exact` says what it
takes, and that it is what the form asks for where no plus sign stands. `parse_of_plus_sign` is a
text that is read and is not of the form.
-/

namespace ArpProbe

lemma Except.map_eq_ok_iff {ε α β : Type} {f : α → β} {outcome : Except ε α} {b : β} :
    outcome.map f = .ok b ↔ ∃ a, outcome = .ok a ∧ f a = b := by
  cases outcome <;> simp [Except.map]

/-! ## Hexadecimal digits -/

namespace Hex

/-- The character is the hexadecimal digit of the given value, in either case. -/
def Digit (c : Char) (value : Nat) : Prop :=
  value < 16 ∧ (c = value.digitChar ∨ c = value.digitChar.toUpper)

/-- The characters up to the last digit, by their codes. -/
lemma digitChar_of_value?_ofNat :
    ∀ code < 103, ∀ value ∈ value? (Char.ofNat code),
      Char.ofNat code = value.digitChar ∨ Char.ofNat code = value.digitChar.toUpper := by
  decide

/-- All hexadecimal digits come before `g`. -/
lemma toNat_lt_of_value? {c : Char} {value : Nat} (read : value? c = some value) : c.toNat < 103 := by
  have bound : ∀ {last : Char}, last.toNat < 103 → c ≤ last → c.toNat < 103 := by
    intro last small below
    have below : c.toNat ≤ last.toNat := below
    omega
  unfold value? at read
  split_ifs at read with digit lower upper
  · exact bound (by decide) digit.2
  · exact bound (by decide) lower.2
  · exact bound (by decide) upper.2

/-- The value of a character as a hexadecimal digit is the one listed for it. -/
lemma value?_eq_some_iff {c : Char} {value : Nat} : value? c = some value ↔ Digit c value := by
  constructor
  · intro read
    refine ⟨value?_lt read, ?_⟩
    -- nothing behind the last letter is a digit, so finitely many characters are left
    rw [← Char.ofNat_toNat c] at read ⊢
    exact digitChar_of_value?_ofNat _ (toNat_lt_of_value? (c.ofNat_toNat ▸ read)) value read
  · have upper : ∀ value < 16, value? value.digitChar.toUpper = some value := by decide
    rintro ⟨small, rfl | rfl⟩
    · exact value?_digitChar small
    · exact upper value small

/-- Digits take one byte each, and are neither separators nor signs. -/
lemma Digit.plain {c : Char} {value : Nat} (digit : Digit c value) :
    (String.utf8EncodeChar c).length = 1 ∧ c ≠ ':' ∧ c ≠ '+' := by
  have lower : ∀ value < 16, (String.utf8EncodeChar value.digitChar).length = 1 ∧
      value.digitChar ≠ ':' ∧ value.digitChar ≠ '+' := by
    decide
  have upper : ∀ value < 16, (String.utf8EncodeChar value.digitChar.toUpper).length = 1 ∧
      value.digitChar.toUpper ≠ ':' ∧ value.digitChar.toUpper ≠ '+' := by
    decide
  obtain ⟨small, rfl | rfl⟩ := digit
  · exact lower value small
  · exact upper value small

end Hex

namespace Mac

/-! ## Groups -/

/-- Two hexadecimal digits for a byte. -/
inductive Pair : List Char → UInt8 → Prop
  | intro {first second : Char} {high low : Nat} (left : Hex.Digit first high)
      (right : Hex.Digit second low) : Pair [first, second] (UInt8.ofNat (16 * high + low))

/-- What is read as a group: two digits, or one behind a plus sign. -/
inductive Group : List Char → UInt8 → Prop
  | pair {group : List Char} {byte : UInt8} (digits : Pair group byte) : Group group byte
  | signed {c : Char} {value : Nat} (digit : Hex.Digit c value) : Group ['+', c] (UInt8.ofNat value)

variable {group : List Char} {byte : UInt8}

/-- The groups that are accepted are two digits, or a plus sign and one digit. -/
lemma groupValue?_eq_some_iff : groupValue? group = some byte ↔ Group group byte := by
  constructor
  · intro read
    match group, read with
    | [first, second], read =>
      unfold groupValue? at read
      obtain ⟨low, right, read⟩ := Option.bind_eq_some_iff.1 read
      rw [Hex.value?_eq_some_iff] at right
      split_ifs at read with sign
      · obtain rfl := Option.some.inj read
        rw [sign]
        exact .signed right
      · obtain ⟨high, left, read⟩ := Option.bind_eq_some_iff.1 read
        rw [Hex.value?_eq_some_iff] at left
        obtain rfl := Option.some.inj read
        exact .pair (.intro left right)
  · rintro (⟨⟨left, right⟩⟩ | digit)
    · have sign := left.plain.2.2
      rw [← Hex.value?_eq_some_iff] at left right
      simp [groupValue?, left, right, sign]
    · rw [← Hex.value?_eq_some_iff] at digit
      simp [groupValue?, digit]

/-- A group takes two bytes and has no colon inside. -/
lemma Group.plain (read : Group group byte) : Utf8.size group = 2 ∧ ':' ∉ group := by
  cases read with
  | pair digits =>
    obtain ⟨left, right⟩ := digits
    simp [Utf8.size, left.plain, right.plain, Ne.symm left.plain.2.1, Ne.symm right.plain.2.1]
  | signed digit =>
    have sign : (String.utf8EncodeChar '+').length = 1 := by decide
    simp [Utf8.size, sign, digit.plain, Ne.symm digit.plain.2.1]

/-- A pair is a group without a plus sign. -/
lemma pair_iff : Pair group byte ↔ Group group byte ∧ '+' ∉ group := by
  constructor
  · intro digits
    refine ⟨.pair digits, ?_⟩
    obtain ⟨left, right⟩ := digits
    simp [Ne.symm left.plain.2.2, Ne.symm right.plain.2.2]
  · rintro ⟨digits | digit, unsigned⟩
    · exact digits
    · exact absurd List.mem_cons_self unsigned

/-! ## Six groups -/

/-- The text is made of one group for each byte of the address, with single colons between them. -/
def Grouped (Group : List Char → UInt8 → Prop) (text : List Char) (mac : Mac) : Prop :=
  ∃ groups, List.Forall₂ Group groups mac.toBytes ∧ text = [':'].intercalate groups

section

variable {count : Nat} {groups : List (List Char)} {bytes : List UInt8}

lemma readGroups_cons (read : Group group byte) :
    readGroups (count + 1) (group :: groups) = (readGroups count groups).map (byte :: ·) := by
  have sized : ¬ Utf8.size group ≠ 2 := not_not.2 read.plain.1
  rw [readGroups, if_neg sized, groupValue?_eq_some_iff.2 read]

/-- One bad group spoils the address. -/
lemma readGroups_cons_ne_ok (unread : ∀ byte, ¬ Group group byte) :
    readGroups (count + 1) (group :: groups) ≠ .ok bytes := by
  have none : groupValue? group = none := by
    apply Option.eq_none_iff_forall_ne_some.2
    intro byte read
    exact unread byte (groupValue?_eq_some_iff.1 read)
  unfold readGroups
  rw [none]
  split_ifs <;> nofun

/-- As many groups are read as are asked for, each of them for its byte. -/
lemma readGroups_eq_ok_iff :
    readGroups count groups = .ok bytes ↔
      List.Forall₂ Group groups bytes ∧ bytes.length = count := by
  -- groups and count have to run out together
  induction groups generalizing count bytes with
  | nil =>
    rw [List.forall₂_nil_left_iff]
    cases count with
    | zero => simp [readGroups, eq_comm]
    | succ count =>
      refine iff_of_false nofun ?_
      rintro ⟨rfl, long⟩
      cases long
  | cons group groups ih =>
    rw [List.forall₂_cons_left_iff]
    cases count with
    | zero =>
      refine iff_of_false nofun ?_
      rintro ⟨⟨_, _, _, _, rfl⟩, none⟩
      cases none
    | succ count =>
      constructor
      · intro reads
        by_cases read : ∃ byte, Group group byte
        · obtain ⟨byte, read⟩ := read
          rw [readGroups_cons read, Except.map_eq_ok_iff] at reads
          obtain ⟨others, rest, rfl⟩ := reads
          obtain ⟨each, length⟩ := ih.1 rest
          exact ⟨⟨byte, others, read, each, rfl⟩, congrArg (· + 1) length⟩
        · exact absurd reads (readGroups_cons_ne_ok (not_exists.1 read))
      · rintro ⟨⟨byte, others, read, each, rfl⟩, length⟩
        rw [readGroups_cons read, Except.map_eq_ok_iff]
        exact ⟨others, ih.2 ⟨each, Nat.succ.inj length⟩, rfl⟩

end

/-- Six bytes make one address. -/
lemma ofBytes_eq_iff {bytes : List UInt8} {mac : Mac} (length : bytes.length = byteLength) :
    ofBytes bytes = mac ↔ bytes = mac.toBytes := by
  match bytes, length with
  | [_, _, _, _, _, _], _ =>
    obtain ⟨b0, b1, b2, b3, b4, b5⟩ := mac
    simp [ofBytes, toBytes]

section

variable {text : List Char} {mac : Mac}

/-- The groups of an address are what its text is cut into. -/
lemma grouped_iff : Grouped Group text mac ↔
    List.Forall₂ Group (Text.fields ':' text) mac.toBytes := by
  constructor
  · rintro ⟨groups, each, rfl⟩
    have some : groups ≠ [] := by
      rintro rfl
      cases each
    have outside : ∀ group ∈ groups, ':' ∉ group :=
      ((List.forall₂_and_left _ _).1 (each.imp fun _ _ read => ⟨read.plain.2, read⟩)).1
    rwa [Text.fields_eq_iff.2 ⟨some, outside, rfl⟩]
  · intro each
    exact ⟨_, each, (Text.fields_eq_iff.1 rfl).2.2⟩

/-- The accepted texts are six good groups with colons between them. -/
lemma parse_eq_ok_iff {text : String} : parse text = .ok mac ↔ Grouped Group text.toList mac := by
  unfold parse
  rw [grouped_iff, Except.map_eq_ok_iff]
  constructor
  · rintro ⟨bytes, read, same⟩
    obtain ⟨each, length⟩ := readGroups_eq_ok_iff.1 read
    rwa [← (ofBytes_eq_iff length).1 same]
  · intro each
    exact ⟨_, readGroups_eq_ok_iff.2 ⟨each, mac.length_toBytes⟩, mac.ofBytes_toBytes⟩

/-- A text is of the form exactly if it is read and has no plus sign in it. -/
lemma grouped_pair_iff : Grouped Pair text mac ↔ Grouped Group text mac ∧ '+' ∉ text := by
  have sign : '+' ≠ ':' := by decide
  constructor
  · rintro ⟨groups, each, rfl⟩
    have split := (List.forall₂_and_left _ _).1 (each.imp fun _ _ digits => (pair_iff.1 digits).symm)
    refine ⟨⟨groups, split.2, rfl⟩, ?_⟩
    rw [Text.mem_intercalate_iff sign]
    rintro ⟨group, member, inside⟩
    exact split.1 group member inside
  · rintro ⟨⟨groups, each, rfl⟩, unsigned⟩
    rw [Text.mem_intercalate_iff sign] at unsigned
    have outside : ∀ group ∈ groups, '+' ∉ group :=
      fun group member inside => unsigned ⟨group, member, inside⟩
    have both := (List.forall₂_and_left _ _).2 ⟨outside, each⟩
    exact ⟨groups, both.imp fun _ _ read => pair_iff.2 read.symm, rfl⟩

end

/-- What is read as a hardware address.

A text is read exactly if it consists of six groups with single colons between them, each of them two
hexadecimal digits of either case or one behind a plus sign, and then as the values of its groups in
order; every other text is refused. The texts of six groups of two digits are those of them without
a plus sign. -/
theorem grouped_exact (text : String) :
    (∀ mac, parse text = .ok mac ↔ Grouped Group text.toList mac) ∧
      ((∃ fault, parse text = .error fault) ↔ ∀ mac, ¬ Grouped Group text.toList mac) ∧
      (∀ mac, Grouped Pair text.toList mac ↔ parse text = .ok mac ∧ '+' ∉ text.toList) := by
  refine ⟨fun mac => parse_eq_ok_iff, ?_, fun mac => ?_⟩
  · simp only [← parse_eq_ok_iff]
    cases parse text <;> simp
  · rw [parse_eq_ok_iff, grouped_pair_iff]

/-- A plus sign stands for a digit, and the text is read though it is not of the form. -/
theorem parse_of_plus_sign :
    parse "+f:00:00:00:00:00" = .ok ⟨15, 0, 0, 0, 0, 0⟩ ∧
      ∀ mac, ¬ Grouped Pair "+f:00:00:00:00:00".toList mac := by
  refine ⟨by decide, fun mac grouped => ?_⟩
  have unsigned := (grouped_pair_iff.1 grouped).2
  exact unsigned (by decide)

end Mac

end ArpProbe
