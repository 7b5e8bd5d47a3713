import ArpProbe.Proofs.Duration.Rejection
import Mathlib.Algebra.Order.Floor.Semifield
import Mathlib.Data.Rat.Floor
import Mathlib.Tactic.FieldSimp
import Mathlib.Tactic.Linarith
import Mathlib.Tactic.NormNum
import Mathlib.Tactic.Positivity

/-!
# How a length of time is rounded

A term says a rational number of nanoseconds. It is read as the whole nanoseconds that are left
when all but the first eighteen digits behind its point are cut off. In a unit that divides
`10 ^ 18` nanoseconds the cut changes nothing (`rounded_eq_floor_exact`), in any other it takes off
one nanosecond at most (`rounded_cases`). `parse_rounds_down` says that every text in the grammar is
read as the sum of its rounded terms, and so never as more than is written.
-/

namespace ArpProbe

/-- The number with the given digits before and behind its point. -/
def Decimal.point (whole fraction : List Char) : ℚ :=
  Decimal.value whole + Decimal.value fraction / 10 ^ fraction.length

lemma Decimal.point_nonneg (whole fraction : List Char) : 0 ≤ point whole fraction := by
  unfold point
  positivity

/-- The point is moved behind the last digit, and back when all is multiplied. -/
lemma Decimal.floor_mul_point (scale : ℕ) (whole fraction : List Char) :
    ⌊scale * point whole fraction⌋₊ =
      value (whole ++ fraction) * scale / 10 ^ fraction.length := by
  have ratio : scale * point whole fraction =
      ((value (whole ++ fraction) * scale : ℕ) : ℚ) / ((10 ^ fraction.length : ℕ) : ℚ) := by
    unfold point
    rw [value_append]
    push_cast
    field_simp
  rw [ratio, Nat.floor_div_eq_div]

namespace Duration

namespace Term

/-! ## What a term says -/

/-- The nanoseconds in the unit of a term, by its name; any other name has none. The first letter of
a microsecond may be a micro sign or a Greek letter. -/
def scale (term : Term) : ℕ :=
  match String.ofList term.unit with
  | "ns" => 1
  | "us" | "\u00b5s" | "\u03bcs" => 10 ^ 3
  | "ms" => 10 ^ 6
  | "s" => 10 ^ 9
  | "m" => 60 * 10 ^ 9
  | "h" => 3600 * 10 ^ 9
  | _ => 0

/-- The nanoseconds that a term says, with all of its digits. -/
def exact (term : Term) : ℚ :=
  term.scale * Decimal.point term.whole term.fraction

/-- The whole nanoseconds in a term, without the digits that do not count. -/
def rounded (term : Term) : ℕ :=
  ⌊term.scale * Decimal.point term.whole term.places⌋₊

variable {term : Term}

/-- The names that have a length are those of the units. -/
lemma exists_unit_of_scale (known : 0 < term.scale) :
    ∃ unit ∈ units, unit.1.toList = term.unit ∧ unit.2 = term.scale := by
  unfold scale at known ⊢
  split at known
  case h_9 => omega
  all_goals
    rename_i name
    have spelled : term.unit = _ := (String.toList_ofList).symm.trans (congrArg String.toList name)
    rw [spelled]
    decide

lemma rounded_eq_nanoseconds (term : Term) : term.rounded = term.nanoseconds term.scale :=
  Decimal.floor_mul_point term.scale term.whole term.places

/-- A term of a known unit is worth its nanoseconds, rounded down. -/
lemma worth_rounded (known : 0 < term.scale) : term.Worth term.rounded := by
  obtain ⟨unit, listed, name, length⟩ := exists_unit_of_scale known
  refine ⟨unit, listed, name, ?_⟩
  rw [length, rounded_eq_nanoseconds]

/-! ## The digits that are cut off -/

/-- The digits behind the point that do not count. -/
def surplus (term : Term) : List Char :=
  term.fraction.drop fractionDigits

lemma places_append_surplus (term : Term) : term.places ++ term.surplus = term.fraction :=
  List.take_append_drop fractionDigits term.fraction

/-- What a term says is what its places say and what is cut off. -/
lemma exact_eq (term : Term) :
    term.exact = term.scale * Decimal.point term.whole term.places +
      term.scale * Decimal.value term.surplus / 10 ^ term.fraction.length := by
  unfold exact Decimal.point
  rw [← term.places_append_surplus, Decimal.value_append, List.length_append, pow_add]
  push_cast
  field_simp
  ring

/-- The digits that are cut off are worth less than one unit of the last place. -/
lemma value_surplus_lt (decimal : ∀ c ∈ term.fraction, c.isDigit = true) :
    Decimal.value term.surplus < 10 ^ term.surplus.length :=
  Decimal.value_lt fun c member => decimal c (List.mem_of_mem_drop member)

/-- What is cut off is less than a nanosecond. -/
lemma scale_mul_value_surplus_lt (decimal : ∀ c ∈ term.fraction, c.isDigit = true)
    (known : 0 < term.scale) :
    term.scale * Decimal.value term.surplus < 10 ^ term.fraction.length := by
  by_cases short : term.fraction.length ≤ fractionDigits
  · have none : term.surplus = [] := List.drop_of_length_le short
    rw [none, Decimal.value_nil, Nat.mul_zero]
    exact Nat.pow_pos (by decide)
  · have length : term.fraction.length = 18 + term.surplus.length := by
      unfold surplus
      rw [List.length_drop]
      unfold fractionDigits at short ⊢
      omega
    have small : term.scale < 10 ^ 18 := by
      obtain ⟨unit, listed, -, same⟩ := exists_unit_of_scale known
      have all : ∀ unit ∈ units, unit.2 < 10 ^ 18 := by decide
      rw [← same]
      exact all unit listed
    calc term.scale * Decimal.value term.surplus
        < 10 ^ 18 * 10 ^ term.surplus.length := Nat.mul_lt_mul'' small (value_surplus_lt decimal)
      _ = 10 ^ term.fraction.length := by rw [length, pow_add]

/-- A term is rounded down. -/
lemma rounded_le_exact (term : Term) : term.rounded ≤ term.exact := by
  have cut : (0 : ℚ) ≤ term.scale * Decimal.point term.whole term.places :=
    mul_nonneg (Nat.cast_nonneg _) (Decimal.point_nonneg _ _)
  have left : (0 : ℚ) ≤ term.scale * Decimal.value term.surplus / 10 ^ term.fraction.length := by
    positivity
  have floor := Nat.floor_le cut
  rw [exact_eq]
  unfold rounded
  linarith

/-- The cut costs one nanosecond at most. -/
lemma rounded_cases (decimal : ∀ c ∈ term.fraction, c.isDigit = true) (known : 0 < term.scale) :
    term.rounded = ⌊term.exact⌋₊ ∨ term.rounded + 1 = ⌊term.exact⌋₊ := by
  have cut : (0 : ℚ) ≤ term.scale * Decimal.point term.whole term.places :=
    mul_nonneg (Nat.cast_nonneg _) (Decimal.point_nonneg _ _)
  have lost : (term.scale * Decimal.value term.surplus : ℚ) / 10 ^ term.fraction.length < 1 := by
    rw [div_lt_one (by positivity)]
    exact_mod_cast scale_mul_value_surplus_lt decimal known
  -- both bounds are of whole numbers, so less than one is lost and at most one is missing
  have lower : term.rounded ≤ ⌊term.exact⌋₊ := Nat.le_floor term.rounded_le_exact
  have upper : ⌊term.exact⌋₊ ≤ term.rounded + 1 := by
    unfold rounded
    rw [← Nat.floor_add_one cut]
    apply Nat.floor_mono
    rw [exact_eq]
    linarith
  omega

/-- Where the unit divides the last place that counts, the digits behind it make no whole
nanosecond. -/
lemma rounded_eq_floor_exact (decimal : ∀ c ∈ term.fraction, c.isDigit = true)
    (fits : term.scale ∣ 10 ^ fractionDigits ∨ term.fraction.length ≤ fractionDigits) :
    term.rounded = ⌊term.exact⌋₊ := by
  by_cases short : term.fraction.length ≤ fractionDigits
  · -- nothing is cut off
    have all : term.places = term.fraction := List.take_of_length_le short
    unfold rounded exact
    rw [all]
  · obtain ⟨parts, divides⟩ := fits.resolve_right short
    have places : term.places.length = fractionDigits := by
      unfold places
      rw [List.length_take]
      omega
    have positive : 0 < term.scale := by
      rcases Nat.eq_zero_or_pos term.scale with zero | positive
      · rw [zero, Nat.zero_mul] at divides
        exact absurd divides (by decide)
      · exact positive
    -- the number without its point, and the same without the surplus
    have front : Decimal.value (term.whole ++ term.fraction) / 10 ^ term.surplus.length =
        Decimal.value (term.whole ++ term.places) := by
      rw [← term.places_append_surplus, ← List.append_assoc, Decimal.value_append, Nat.mul_comm,
        Nat.mul_add_div (Nat.pow_pos (by decide)), Nat.div_eq_of_lt (value_surplus_lt decimal),
        Nat.add_zero]
    have split : 10 ^ term.fraction.length = 10 ^ term.surplus.length * parts * term.scale := by
      rw [← term.places_append_surplus, List.length_append, pow_add, places, divides]
      ring
    unfold rounded exact
    rw [Decimal.floor_mul_point, Decimal.floor_mul_point, places]
    calc Decimal.value (term.whole ++ term.places) * term.scale / 10 ^ fractionDigits
        = Decimal.value (term.whole ++ term.places) / parts := by
          rw [divides, Nat.mul_comm term.scale, Nat.mul_div_mul_right _ _ positive]
      _ = Decimal.value (term.whole ++ term.fraction) / (10 ^ term.surplus.length * parts) := by
          rw [← front, Nat.div_div_eq_div_mul]
      _ = Decimal.value (term.whole ++ term.fraction) * term.scale / 10 ^ term.fraction.length := by
          rw [split, Nat.mul_div_mul_right _ _ positive]

end Term

/-! ## Whole texts -/

/-- The text is made of the terms, one after another: each of them is a number, with a digit before
or behind its point, and a unit. -/
inductive Spelled : List Term → List Char → Prop
  | nil : Spelled [] []
  | cons {term : Term} {terms : List Term} {text rest : List Char}
      (whole : ∀ c ∈ term.whole, c.isDigit = true)
      (fraction : ∀ c ∈ term.fraction, c.isDigit = true)
      (digit : term.whole ≠ [] ∨ term.fraction ≠ []) (known : 0 < term.scale)
      (spells : term.Spells text) (more : Spelled terms rest) :
      Spelled (term :: terms) (text ++ rest)

namespace Spelled

variable {terms : List Term} {text : List Char}

/-- Spelled terms sum up to their rounded values. -/
lemma sums (spelled : Spelled terms text) : Sums text (terms.map Term.rounded).sum := by
  induction spelled with
  | nil => exact .done
  | cons whole fraction digit known spells more ih =>
    have worth := Term.worth_rounded known
    exact .term ⟨whole, fraction, digit, worth.exists_unit⟩ spells worth ih

lemma ne_nil (spelled : Spelled terms text) (some : terms ≠ []) : text ≠ [] := by
  cases spelled with
  | nil => exact absurd rfl some
  | cons whole fraction digit known spells more =>
    have unit := (Term.worth_rounded known).exists_unit
    exact List.append_ne_nil_of_left_ne_nil (spells.ne_nil ⟨whole, fraction, digit, unit⟩) _

lemma of_mem {term : Term} (spelled : Spelled terms text) (member : term ∈ terms) :
    (∀ c ∈ term.fraction, c.isDigit = true) ∧ 0 < term.scale := by
  induction spelled with
  | nil => cases member
  | cons whole fraction digit known spells more ih =>
    rcases List.mem_cons.1 member with rfl | later
    · exact ⟨fraction, known⟩
    · exact ih later

end Spelled

/-- Rounding down term by term is no more than the exact sum. -/
lemma sum_rounded_le (terms : List Term) :
    ((terms.map Term.rounded).sum : ℚ) ≤ (terms.map Term.exact).sum := by
  induction terms with
  | nil => simp
  | cons term terms ih =>
    have first := term.rounded_le_exact
    rw [List.map_cons, List.map_cons, List.sum_cons, List.sum_cons, Nat.cast_add]
    linarith

/-- Units up to a second divide the last place that counts. -/
lemma Term.scale_dvd {term : Term} (known : 0 < term.scale) (short : term.scale ≤ Time.perSecond) :
    term.scale ∣ 10 ^ fractionDigits := by
  obtain ⟨unit, listed, -, same⟩ := exists_unit_of_scale known
  have all : ∀ unit ∈ units, unit.2 ≤ Time.perSecond → unit.2 ∣ 10 ^ fractionDigits := by decide
  rw [← same] at short ⊢
  exact all unit listed short

/-- What the texts in the grammar are read as.

A bare zero is no time at all. A text that is made of terms, with blanks around it or without, is
read as the sum of the rounded terms if that fits a word of 64 bits. Of each term that is the whole
part of what it says, in units up to a second whatever digits follow, and in longer ones with up to
eighteen digits behind the point; with more of them it is that or one nanosecond less. So nothing is
read as more than is written. -/
theorem parse_rounds_down (given : String) :
    (Text.trim given.toList = ['0'] → parse given = .ok 0) ∧
      ∀ terms, terms ≠ [] → Spelled terms (Text.trim given.toList) →
        ((terms.map Term.rounded).sum < 2 ^ 64 →
          parse given = .ok (terms.map Term.rounded).sum) ∧
        (∀ term ∈ terms,
          (term.scale ≤ 10 ^ 9 ∨ term.fraction.length ≤ 18 → term.rounded = ⌊term.exact⌋₊) ∧
          (term.rounded = ⌊term.exact⌋₊ ∨ term.rounded + 1 = ⌊term.exact⌋₊)) ∧
        ((terms.map Term.rounded).sum : ℚ) ≤ (terms.map Term.exact).sum := by
  refine ⟨fun zero => ?_, fun terms some spelled => ⟨fun fits => ?_, fun term member => ?_, ?_⟩⟩
  · unfold parse
    rw [zero]
    rfl
  · exact read_eq_ok_iff.2 ⟨.terms (spelled.ne_nil some) spelled.sums, fits⟩
  · obtain ⟨decimal, known⟩ := spelled.of_mem member
    refine ⟨fun short => ?_, Term.rounded_cases decimal known⟩
    exact Term.rounded_eq_floor_exact decimal (short.imp_left (Term.scale_dvd known))
  · exact sum_rounded_le terms

/-- A sixtieth of a minute and a little more, in nineteen places. -/
def Term.sixtieth : Term :=
  ⟨['0'], "0166666666666666667".toList, ['m']⟩

/-- The nineteenth digit makes the second full, and does not count. -/
theorem parse_rounds_down_of_long_fraction :
    Spelled [Term.sixtieth] (Text.trim "0.0166666666666666667m".toList) ∧
      ⌊Term.sixtieth.exact⌋₊ = 1000000000 ∧ parse "0.0166666666666666667m" = .ok 999999999 := by
  have trimmed : Text.trim "0.0166666666666666667m".toList = "0.0166666666666666667m".toList :=
    Text.trim_eq_self (by decide) (by decide)
  have spelled : Spelled [Term.sixtieth] (Text.trim "0.0166666666666666667m".toList) := by
    rw [trimmed]
    exact .cons (List.all_eq_true.1 (by decide)) (List.all_eq_true.1 (by decide)) (.inl (by decide))
      (by decide) .pointed .nil
  have rounded : ([Term.sixtieth].map Term.rounded).sum = 999999999 := by
    rw [List.map_singleton, List.sum_singleton, Term.rounded_eq_nanoseconds]
    decide
  have read := ((parse_rounds_down _).2 _ (List.cons_ne_nil _ _) spelled).1
  rw [rounded] at read
  refine ⟨spelled, ?_, read (by decide)⟩
  unfold Term.exact
  rw [Decimal.floor_mul_point]
  decide

end Duration

end ArpProbe
