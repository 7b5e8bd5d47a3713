import ArpProbe.Text.Decimal
import Mathlib.Data.List.Induction
import Mathlib.Data.List.TakeWhile
import Mathlib.Tactic.Ring

/-!
# Numerals

A number has one decimal numeral without leading zeros, the one that it is written as
(`numeral_iff`). Readers take a numeral for all the digits in front of something else
(`takeWhile_append_of_stop`).
-/

namespace ArpProbe

/-- A run of characters of a kind ends where one of another kind follows. -/
lemma Text.takeWhile_append_of_stop {p : Char → Bool} {run rest : List Char}
    (all : ∀ c ∈ run, p c = true) (stop : ∀ c ∈ rest.head?, p c = false) :
    (run ++ rest).takeWhile p = run ∧ (run ++ rest).dropWhile p = rest := by
  rw [List.takeWhile_append_of_pos all, List.dropWhile_append_of_pos all]
  cases rest with
  | nil => simp
  | cons c rest =>
    have other : p c = false := stop c rfl
    simp [other]

/-- What follows the longest run of a kind is of another kind. -/
lemma Text.stop_of_dropWhile (p : Char → Bool) (text : List Char) :
    ∀ c ∈ (text.dropWhile p).head?, p c = false := by
  intro c first
  have stop := List.head?_dropWhile_not p text
  rw [first] at stop
  simpa using stop

lemma notMem_toDigits {c : Char} (other : c.isDigit = false) (n : Nat) : c ∉ Nat.toDigits 10 n := by
  intro member
  have digit := Nat.isDigit_of_mem_toDigits (by decide) (by decide) member
  rw [other] at digit
  cases digit

namespace Decimal

/-! ## Digits -/

/-- A digit is the one with its own value. -/
lemma digit_of_isDigit {c : Char} (digit : c.isDigit = true) :
    c.toNat - '0'.toNat < 10 ∧ (c.toNat - '0'.toNat).digitChar = c := by
  simp only [Char.isDigit, Bool.and_eq_true, decide_eq_true_eq] at digit
  have zero : 48 ≤ c.toNat := digit.1
  have nine : c.toNat ≤ 57 := digit.2
  have known : ∀ code < 58, 48 ≤ code → (code - '0'.toNat).digitChar = Char.ofNat code := by decide
  constructor
  · have first : '0'.toNat = 48 := rfl
    omega
  · rw [known c.toNat (by omega) zero, Char.ofNat_toNat]

/-- Digits in front of others count for as many places more. -/
lemma value_append (a b : List Char) : value (a ++ b) = value a * 10 ^ b.length + value b := by
  induction b using List.reverseRecOn with
  | nil => simp
  | append_singleton b c ih =>
    rw [← List.append_assoc, value_concat, value_concat, ih, List.length_append,
      List.length_singleton]
    ring

lemma value_lt {digits : List Char} (decimal : ∀ c ∈ digits, c.isDigit = true) :
    value digits < 10 ^ digits.length := by
  induction digits using List.reverseRecOn with
  | nil => simp
  | append_singleton digits c ih =>
    have small := (digit_of_isDigit (decimal c (by simp))).1
    have front := ih fun c member => decimal c (List.mem_append_left _ member)
    rw [value_concat, List.length_append, List.length_singleton, Nat.pow_succ]
    omega

/-- The value of the digits of a number is that number. -/
@[simp] lemma value_toDigits (n : Nat) : value (Nat.toDigits 10 n) = n := by
  have value : value (Nat.toDigits 10 n) = Nat.ofDigitChars 10 (Nat.toDigits 10 n) 0 := by
    rw [Nat.ofDigitChars_eq_foldl]
    rfl
  rw [value, Nat.ofDigitChars_ten_toDigits]

/-! ## Numerals -/

/-- The digits are the decimal numeral of the number: a zero in front stands alone. -/
structure Numeral (digits : List Char) (n : Nat) : Prop where
  some : digits ≠ []
  decimal : ∀ c ∈ digits, c.isDigit = true
  plain : digits.head? = .some '0' → digits = ['0']
  value : value digits = n

/-- Digits without a leading zero are those of their value. -/
lemma toDigits_value {digits : List Char} (some : digits ≠ [])
    (decimal : ∀ c ∈ digits, c.isDigit = true)
    (plain : digits.head? = .some '0' → digits = ['0']) :
    Nat.toDigits 10 (value digits) = digits := by
  induction digits using List.reverseRecOn with
  | nil => exact absurd rfl some
  | append_singleton digits c ih =>
    obtain ⟨small, digit⟩ := digit_of_isDigit (decimal c (by simp))
    by_cases none : digits = []
    · rw [none, List.nil_append, ← List.nil_append [c], value_concat, value_nil, Nat.mul_zero,
        Nat.zero_add, Nat.toDigits_of_lt_base small, digit]
      rfl
    -- more than one digit, so the first is not zero
    have front : digits.head? ≠ .some '0' := by
      intro zero
      have alone := plain (by rw [List.head?_append, zero, Option.some_or])
      exact none (by simpa using congrArg List.length alone)
    have same := ih none (fun c member => decimal c (List.mem_append_left _ member))
      fun zero => absurd zero front
    have positive : 0 < value digits := by
      rw [Nat.pos_iff_ne_zero]
      intro zero
      rw [zero, Nat.toDigits_zero] at same
      rw [← same] at front
      exact front rfl
    rw [value_concat, ← Nat.toDigits_append_toDigits (by decide) positive small, same,
      Nat.toDigits_of_lt_base small, digit]

/-- The digits of a number are a numeral for it. -/
lemma numeral_toDigits (n : Nat) : Numeral (Nat.toDigits 10 n) n where
  some := Nat.toDigits_ne_nil
  decimal c member := Nat.isDigit_of_mem_toDigits (by decide) (by decide) member
  plain := by
    induction n using Nat.strongRecOn with
    | ind n ih =>
      rw [Nat.toDigits_eq_if (by decide)]
      split
      · next small =>
        have known : ∀ n < 10, [n.digitChar].head? = .some '0' → [n.digitChar] = ['0'] := by decide
        exact known n small
      · next large =>
        -- the front is the numeral of a smaller number that is not zero
        have front := ih (n / 10) (by omega)
        rw [List.head?_append, List.head?_eq_some_head Nat.toDigits_ne_nil, Option.some_or]
        intro zero
        have value := congrArg Decimal.value
          (front (by rw [List.head?_eq_some_head Nat.toDigits_ne_nil, zero]))
        rw [value_toDigits] at value
        have nothing : Decimal.value ['0'] = 0 := rfl
        omega
  value := value_toDigits n

/-- A number has one numeral. -/
lemma numeral_iff {digits : List Char} {n : Nat} : Numeral digits n ↔ digits = Nat.toDigits 10 n := by
  constructor
  · intro numeral
    rw [← numeral.value, toDigits_value numeral.some numeral.decimal numeral.plain]
  · rintro rfl
    exact numeral_toDigits n

end Decimal

end ArpProbe
