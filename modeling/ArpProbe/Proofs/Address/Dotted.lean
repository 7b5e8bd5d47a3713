import ArpProbe.Address.Ipv4
import ArpProbe.Proofs.Text.Numerals
import ArpProbe.Proofs.Text.Separated
import Mathlib.Data.List.Forall2

/-!
# The dotted form

An IPv4 address has one written form, of four numerals (`dotted_iff`). It is read back in front of
anything that does not go on with a digit, and nothing else is read (`read?_eq_some_iff`).
-/

namespace ArpProbe.Ipv4

/-! ## Octets -/

/-- One to three decimal digits for an octet, without leading zeros. -/
structure Octet (digits : List Char) (octet : UInt8) : Prop where
  short : digits.length ≤ 3
  numeral : Decimal.Numeral digits octet.toNat

/-- The text does not go on with a digit. -/
def Ends (text : List Char) : Prop :=
  ∀ c ∈ text.head?, c.isDigit = false

lemma ends_nil : Ends [] := nofun

lemma ends_cons {c : Char} (other : c.isDigit = false) (text : List Char) : Ends (c :: text) := by
  rintro _ ⟨⟩
  exact other

variable {digits text rest : List Char} {octet : UInt8} {ip : Ipv4}

/-- The digits of an octet are its decimal digits, without leading zeros. -/
lemma octet_iff : Octet digits octet ↔ digits = Nat.toDigits 10 octet.toNat := by
  constructor
  · exact fun valid => Decimal.numeral_iff.1 valid.numeral
  · rintro rfl
    have bound := octet.toNat_lt
    refine ⟨?_, Decimal.numeral_toDigits _⟩
    rw [Nat.length_toDigits_le_iff (by decide) (by decide)]
    omega

/-- An octet that is read takes all digits in front of the text. -/
lemma octet_of_readOctet? (read : readOctet? text = some (octet, rest)) :
    Octet (text.takeWhile Char.isDigit) octet ∧ rest = text.dropWhile Char.isDigit := by
  unfold readOctet? at read
  dsimp only at read
  split_ifs at read with length zero large
  obtain ⟨rfl, rfl⟩ := Prod.mk.inj (Option.some.inj read)
  rw [not_or, Nat.not_lt] at length
  refine ⟨⟨length.2, ?_, fun c => List.mem_takeWhile_imp, ?_, ?_⟩, rfl⟩
  · exact fun none => length.1 (congrArg List.length none)
  · intro first
    have alone : (text.takeWhile Char.isDigit).length = 1 := by
      by_contra more
      exact zero ⟨first, more⟩
    obtain ⟨digit, single⟩ := List.length_eq_one_iff.1 alone
    rw [single] at first ⊢
    rw [Option.some.inj first]
  · rw [UInt8.toNat_ofNat', Nat.mod_eq_of_lt]
    omega

/-- An octet takes all digits in front of a text. -/
lemma readOctet?_eq_some_iff : readOctet? text = some (octet, rest) ↔
    text = Nat.toDigits 10 octet.toNat ++ rest ∧ Ends rest := by
  constructor
  · intro read
    obtain ⟨valid, rfl⟩ := octet_of_readOctet? read
    rw [← octet_iff.1 valid, List.takeWhile_append_dropWhile]
    exact ⟨rfl, Text.stop_of_dropWhile Char.isDigit text⟩
  · rintro ⟨rfl, ends⟩
    obtain ⟨short, some, decimal, plain, value⟩ :=
      octet_iff.2 (rfl : Nat.toDigits 10 octet.toNat = _)
    obtain ⟨whole, left⟩ := Text.takeWhile_append_of_stop decimal ends
    have bound := octet.toNat_lt
    have counted : ¬ ((Nat.toDigits 10 octet.toNat).length = 0 ∨
        3 < (Nat.toDigits 10 octet.toNat).length) := by
      rw [List.length_eq_zero_iff]
      exact not_or.2 ⟨some, Nat.not_lt.2 short⟩
    have single : ¬ ((Nat.toDigits 10 octet.toNat).head? = .some '0' ∧
        (Nat.toDigits 10 octet.toNat).length ≠ 1) := by
      rintro ⟨first, more⟩
      exact more (congrArg List.length (plain first))
    rw [readOctet?, whole, left, if_neg counted, if_neg single, if_neg (by omega), value,
      UInt8.ofNat_toNat]

/-! ## Addresses -/

/-- Four decimal groups with single dots between them, one for each octet of the address. -/
def Dotted (text : List Char) (ip : Ipv4) : Prop :=
  ∃ groups, List.Forall₂ Octet groups ip.toBytes ∧ text = ['.'].intercalate groups

/-- An address has one dotted form. -/
lemma dotted_iff : Dotted text ip ↔ text = ip.chars := by
  have same (groups : List (List Char)) : List.Forall₂ Octet groups ip.toBytes ↔
      groups = ip.toBytes.map fun octet => Nat.toDigits 10 octet.toNat := by
    rw [← List.forall₂_eq_eq_eq, List.forall₂_map_right_iff]
    exact ⟨fun each => each.imp fun _ _ => octet_iff.1, fun each => each.imp fun _ _ => octet_iff.2⟩
  simp only [Dotted, same, exists_eq_left, chars]

lemma chars_eq (ip : Ipv4) : ip.chars = Nat.toDigits 10 ip.a.toNat ++ '.' ::
    (Nat.toDigits 10 ip.b.toNat ++ '.' ::
      (Nat.toDigits 10 ip.c.toNat ++ '.' :: Nat.toDigits 10 ip.d.toNat)) := by
  simp [chars, toBytes]

/-- An address is read exactly where its dotted form stands, if no digit follows. -/
lemma read?_eq_some_iff : read? text = some (ip, rest) ↔ text = ip.chars ++ rest ∧ Ends rest := by
  have dot (text : List Char) : Ends ('.' :: text) := ends_cons (by decide) text
  obtain ⟨a, b, c, d⟩ := ip
  simp only [read?, chars_eq, Option.bind_eq_bind, Option.bind_eq_some_iff, Prod.exists,
    readOctet?_eq_some_iff, Text.skip?_eq_some_iff]
  constructor
  · rintro ⟨_, _, ⟨rfl, -⟩, _, rfl, _, _, ⟨rfl, -⟩, _, rfl, _, _, ⟨rfl, -⟩, _, rfl, _, _,
      ⟨rfl, ends⟩, same⟩
    obtain ⟨octets, rfl⟩ := Prod.mk.inj (Option.some.inj same)
    obtain ⟨rfl, rfl, rfl, rfl⟩ := Ipv4.mk.inj octets
    exact ⟨by simp, ends⟩
  · rintro ⟨rfl, ends⟩
    refine ⟨a, _, ⟨?_, dot _⟩, _, rfl, b, _, ⟨rfl, dot _⟩, _, rfl, c, _, ⟨rfl, dot _⟩, _, rfl, d,
      rest, ⟨rfl, ends⟩, rfl⟩
    simp

/-- The dotted form has no characters but digits and dots. -/
lemma notMem_chars {c : Char} (other : c.isDigit = false) (dot : c ≠ '.') (ip : Ipv4) :
    c ∉ ip.chars := by
  rw [chars, Text.mem_intercalate_iff dot]
  rintro ⟨group, member, inside⟩
  obtain ⟨octet, -, rfl⟩ := List.mem_map.1 member
  exact notMem_toDigits other octet.toNat inside

end ArpProbe.Ipv4
