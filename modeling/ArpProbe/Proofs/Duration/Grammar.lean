import ArpProbe.Duration
import ArpProbe.Proofs.Text.Numerals

/-!
# The grammar of written lengths of time

What a text stands for, said without reading it: `Sums` builds texts up from terms and adds what the
terms are worth. A term is read back from what it is written as, whatever follows that does not go
on with its unit (`readTerm?_append`), so no text stands for two lengths of time.
-/

namespace ArpProbe

namespace Duration

/-! ## Terms -/

namespace Term

/-- The term is a number with a digit before or after the point, and has a unit. -/
structure WellFormed (term : Term) : Prop where
  whole : ∀ c ∈ term.whole, c.isDigit = true
  fraction : ∀ c ∈ term.fraction, c.isDigit = true
  digit : term.whole ≠ [] ∨ term.fraction ≠ []
  unit : ∃ unit ∈ units, unit.1.toList = term.unit

/-- The ways to write a term. Without digits after the point, the point may be left out. -/
inductive Spells (term : Term) : List Char → Prop
  | plain (pointless : term.fraction = []) : Spells term (term.whole ++ term.unit)
  | pointed : Spells term (term.whole ++ '.' :: (term.fraction ++ term.unit))

/-- The digits after the point that count. -/
def places (term : Term) : List Char :=
  term.fraction.take fractionDigits

/-- The whole nanoseconds in a term with a unit of `scale` nanoseconds: the point is moved behind
the last place that counts, and back when all is multiplied. -/
def nanoseconds (term : Term) (scale : Nat) : Nat :=
  Decimal.value (term.whole ++ term.places) * scale / 10 ^ term.places.length

/-- The whole nanoseconds that a term is worth. -/
def Worth (term : Term) (time : Nat) : Prop :=
  ∃ unit ∈ units, unit.1.toList = term.unit ∧ term.nanoseconds unit.2 = time

end Term

/-- The text goes on with another number, or is over. -/
def Stops (text : List Char) : Prop :=
  ∀ c ∈ text.head?, startsNumber c = true

/-- The text is made of terms that are worth so much together. -/
inductive Sums : List Char → Nat → Prop
  | done : Sums [] 0
  | term {term : Term} {text rest : List Char} {worth time : Nat} (valid : term.WellFormed)
      (spells : term.Spells text) (value : term.Worth worth) (more : Sums rest time) :
      Sums (text ++ rest) (worth + time)

/-- The text, without blanks around it, is in the grammar of lengths of time and stands for so many
nanoseconds: it is a bare zero, or one or more terms. -/
inductive Denotes : List Char → Nat → Prop
  | zero : Denotes ['0'] 0
  | terms {text : List Char} {time : Nat} (some : text ≠ []) (sums : Sums text time) :
      Denotes text time

/-! ## Units -/

/-- No two units have one name. -/
lemma units_eq_of_name {unit unit' : String × Nat} (listed : unit ∈ units) (listed' : unit' ∈ units)
    (same : unit.1.toList = unit'.1.toList) : unit = unit' := by
  have distinct : ∀ unit ∈ units, ∀ unit' ∈ units, unit.1.toList = unit'.1.toList → unit = unit' := by
    decide
  exact distinct unit listed unit' listed' same

lemma unit?_of_mem {unit : String × Nat} (listed : unit ∈ units) :
    unit? unit.1.toList = some unit.2 := by
  have found : ∀ unit ∈ units, unit? unit.1.toList = some unit.2 := by decide
  exact found unit listed

lemma exists_unit_of_unit? {name : List Char} {scale : Nat} (known : unit? name = some scale) :
    ∃ unit ∈ units, unit.1.toList = name ∧ unit.2 = scale := by
  rw [unit?, Option.map_eq_some_iff] at known
  obtain ⟨unit, found, rfl⟩ := known
  exact ⟨unit, List.mem_of_find?_eq_some found, by simpa using List.find?_some found, rfl⟩

/-- No unit could be taken for a part of a number. -/
lemma unit_ne_nil_and_not_startsNumber {unit : String × Nat} (listed : unit ∈ units) :
    unit.1.toList ≠ [] ∧ ∀ c ∈ unit.1.toList, startsNumber c = false := by
  have all : ∀ unit ∈ units, unit.1.toList ≠ [] ∧
      unit.1.toList.all (!startsNumber ·) = true := by decide
  obtain ⟨some, letters⟩ := all unit listed
  exact ⟨some, by simpa using letters⟩

lemma Term.Worth.exists_unit {term : Term} {time : Nat} (worth : term.Worth time) :
    ∃ unit ∈ units, unit.1.toList = term.unit := by
  obtain ⟨unit, listed, name, -⟩ := worth
  exact ⟨unit, listed, name⟩

/-- A term is worth one time. -/
lemma Term.Worth.unique {term : Term} {time time' : Nat} (worth : term.Worth time)
    (worth' : term.Worth time') : time = time' := by
  obtain ⟨unit, listed, name, rfl⟩ := worth
  obtain ⟨unit', listed', name', rfl⟩ := worth'
  rw [units_eq_of_name listed listed' (name.trans name'.symm)]

/-! ## Reading a term back -/

section

variable {term : Term} {text rest : List Char}

/-- A term in front of a rest starts with its whole part, and a point or its unit follows. -/
lemma Term.Spells.append (spells : term.Spells text) (rest : List Char) :
    text ++ rest = term.whole ++ (term.unit ++ rest) ∧ term.fraction = [] ∨
      text ++ rest = term.whole ++ '.' :: (term.fraction ++ (term.unit ++ rest)) := by
  cases spells with
  | plain pointless => exact .inl ⟨by simp, pointless⟩
  | pointed => exact .inr (by simp)

/-- Without a point there is no fraction. -/
lemma readFraction_of_letter (letter : ∀ c ∈ text.head?, startsNumber c = false) :
    readFraction text = ([], text) := by
  unfold readFraction
  split
  · next rest => exact absurd (letter '.' rfl) (by decide)
  · rfl

lemma isDigit_of_letter {c : Char} (letter : startsNumber c = false) : c.isDigit = false := by
  unfold startsNumber at letter
  exact (Bool.or_eq_false_iff.1 letter).1

/-- The unit of a term in front of the rest of a text is taken for nothing else. -/
lemma Term.WellFormed.unit_append (valid : term.WellFormed) (stops : Stops rest) :
    (∀ c ∈ (term.unit ++ rest).head?, startsNumber c = false) ∧
      (term.unit ++ rest).takeWhile (!startsNumber ·) = term.unit ∧
      (term.unit ++ rest).dropWhile (!startsNumber ·) = rest := by
  obtain ⟨unit, listed, name⟩ := valid.unit
  obtain ⟨some, letters⟩ := unit_ne_nil_and_not_startsNumber listed
  rw [name] at some letters
  constructor
  · intro c first
    rw [List.head?_append, List.head?_eq_some_head some, Option.some_or] at first
    obtain rfl := Option.some.inj first
    exact letters _ (List.head_mem some)
  · apply Text.takeWhile_append_of_stop
    · intro c member
      rw [letters c member]
      rfl
    · intro c first
      rw [stops c first]
      rfl

/-- With a digit before or after the point, what follows the number is the unit. -/
lemma readTerm?_of_number {whole fraction rest : List Char}
    (before : text.takeWhile Char.isDigit = whole)
    (after : readFraction (text.dropWhile Char.isDigit) = (fraction, rest))
    (digit : whole ≠ [] ∨ fraction ≠ []) :
    readTerm? text = some (⟨whole, fraction, rest.takeWhile (!startsNumber ·)⟩,
      rest.dropWhile (!startsNumber ·)) := by
  have number : ¬ (whole = [] ∧ fraction = []) := fun none => digit.elim (· none.1) (· none.2)
  rw [readTerm?, before, after]
  exact if_neg number

/-- A term is read back from what it is written as, if what follows does not go on with its unit. -/
lemma readTerm?_append (valid : term.WellFormed) (spells : term.Spells text) (stops : Stops rest) :
    readTerm? (text ++ rest) = some (term, rest) := by
  obtain ⟨letter, unit, follows⟩ := valid.unit_append stops
  have undigit : ∀ c ∈ (term.unit ++ rest).head?, c.isDigit = false :=
    fun c first => isDigit_of_letter (letter c first)
  have read : (text ++ rest).takeWhile Char.isDigit = term.whole ∧
      readFraction ((text ++ rest).dropWhile Char.isDigit) =
        (term.fraction, term.unit ++ rest) := by
    rcases spells.append rest with ⟨split, pointless⟩ | split
    · obtain ⟨whole, left⟩ := Text.takeWhile_append_of_stop valid.whole undigit
      rw [split, whole, left, readFraction_of_letter letter, pointless]
      exact ⟨rfl, rfl⟩
    · have point : ∀ c ∈ ('.' :: (term.fraction ++ (term.unit ++ rest))).head?,
          c.isDigit = false := by
        rintro _ ⟨⟩
        rfl
      obtain ⟨whole, left⟩ := Text.takeWhile_append_of_stop valid.whole point
      obtain ⟨fraction, left'⟩ := Text.takeWhile_append_of_stop valid.fraction undigit
      rw [split, whole, left, readFraction, fraction, left']
      exact ⟨rfl, rfl⟩
  rw [readTerm?_of_number read.1 read.2 valid.digit, unit, follows]

/-- The digits after a point were written behind it, and without a point there are none. -/
lemma readFraction_eq {fraction : List Char} (read : readFraction text = (fraction, rest)) :
    (fraction = [] ∧ text = rest ∨ text = '.' :: (fraction ++ rest)) ∧
      ∀ c ∈ fraction, c.isDigit = true := by
  unfold readFraction at read
  split at read
  · next after =>
    obtain ⟨rfl, rfl⟩ := Prod.mk.inj read
    refine ⟨.inr ?_, fun c member => List.mem_takeWhile_imp member⟩
    rw [List.takeWhile_append_dropWhile]
  · obtain ⟨rfl, rfl⟩ := Prod.mk.inj read
    exact ⟨.inl ⟨rfl, rfl⟩, nofun⟩

/-- The name of a unit reaches to the next number. -/
lemma stops_dropWhile (text : List Char) : Stops (text.dropWhile (!startsNumber ·)) := by
  intro c first
  have letter := Text.stop_of_dropWhile (!startsNumber ·) text c first
  rwa [Bool.not_eq_false'] at letter

/-- What is read as a term was written as one, but for its unit, which may be none. -/
lemma spells_of_readTerm? (read : readTerm? text = some (term, rest)) :
    (∃ spelled, term.Spells spelled ∧ text = spelled ++ rest) ∧ Stops rest ∧
      ((∃ unit ∈ units, unit.1.toList = term.unit) → term.WellFormed) := by
  rcases after : readFraction (text.dropWhile Char.isDigit) with ⟨fraction, left⟩
  obtain ⟨written, decimal⟩ := readFraction_eq after
  by_cases number : text.takeWhile Char.isDigit = [] ∧ fraction = []
  · rw [readTerm?, after] at read
    simp only [if_pos number] at read
    cases read
  have digit := not_and_or.1 number
  rw [readTerm?_of_number rfl after digit] at read
  obtain ⟨rfl, rfl⟩ := Prod.mk.inj (Option.some.inj read)
  refine ⟨?_, stops_dropWhile left, fun unit =>
    ⟨fun c member => List.mem_takeWhile_imp member, decimal, digit, unit⟩⟩
  have whole := List.takeWhile_append_dropWhile (p := Char.isDigit) (l := text)
  have unit := List.takeWhile_append_dropWhile (p := (!startsNumber ·)) (l := left)
  rcases written with ⟨pointless, same⟩ | pointed
  · refine ⟨_, .plain pointless, ?_⟩
    rw [List.append_assoc, unit, ← same, whole]
  · refine ⟨_, .pointed, ?_⟩
    rw [List.append_assoc, List.cons_append, List.append_assoc, unit, ← pointed, whole]

/-- Every term starts with a number. -/
lemma Term.Spells.stops (valid : term.WellFormed) (spells : term.Spells text) (rest : List Char) :
    Stops (text ++ rest) := by
  intro c first
  rcases spells.append rest with ⟨split, pointless⟩ | split
  · -- without a point the term starts with a digit
    have some : term.whole ≠ [] := valid.digit.resolve_right fun some => some pointless
    rw [split, List.head?_append, List.head?_eq_some_head some, Option.some_or] at first
    obtain rfl := Option.some.inj first
    rw [startsNumber, valid.whole _ (List.head_mem some), Bool.true_or]
  · rw [split] at first
    cases whole : term.whole with
    | nil =>
      rw [whole] at first
      obtain rfl : '.' = c := Option.some.inj first
      rfl
    | cons digit digits =>
      rw [whole] at first
      obtain rfl : digit = c := Option.some.inj first
      rw [startsNumber, valid.whole digit (by simp [whole]), Bool.true_or]

lemma Term.Spells.ne_nil (valid : term.WellFormed) (spells : term.Spells text) : text ≠ [] := by
  obtain ⟨unit, listed, name⟩ := valid.unit
  have some : term.unit ≠ [] := name ▸ (unit_ne_nil_and_not_startsNumber listed).1
  cases spells <;> simp [some]

end

/-! ## Sums of terms -/

namespace Sums

variable {text : List Char} {time time' : Nat}

/-- A sum starts with a number, or is empty. -/
lemma stops (sums : Sums text time) : Stops text := by
  cases sums with
  | done => nofun
  | term valid spells value more => exact spells.stops valid _

lemma time_of_nil (sums : Sums text time) (none : text = []) : time = 0 := by
  cases sums with
  | done => rfl
  | term valid spells value more => exact absurd (List.append_eq_nil_iff.1 none).1 (spells.ne_nil valid)

/-- What is read first in a sum of terms is its first term. -/
lemma exists_readTerm? (sums : Sums text time) (some : text ≠ []) :
    ∃ term rest worth more, readTerm? text = .some (term, rest) ∧ term.WellFormed ∧
      term.Worth worth ∧ Sums rest more ∧ time = worth + more := by
  cases sums with
  | done => exact absurd rfl some
  | term valid spells value more =>
    exact ⟨_, _, _, _, readTerm?_append valid spells more.stops, valid, value, more, rfl⟩

/-- A text is made of terms in one way only. -/
lemma unique (sums : Sums text time) (sums' : Sums text time') : time = time' := by
  induction sums generalizing time' with
  | done => exact (sums'.time_of_nil rfl).symm
  | term valid spells value more ih =>
    have some := spells.ne_nil valid
    obtain ⟨term', rest', worth', more', read, -, value', sums', rfl⟩ :=
      sums'.exists_readTerm? (List.append_ne_nil_of_left_ne_nil some _)
    rw [readTerm?_append valid spells more.stops] at read
    obtain ⟨rfl, rfl⟩ := Prod.mk.inj (Option.some.inj read)
    rw [value.unique value', ih sums']

/-- A bare zero has no unit. -/
lemma not_bare_zero : ¬ Sums ['0'] time := by
  intro sums
  obtain ⟨term, rest, worth, more, read, valid, -⟩ := sums.exists_readTerm? (by decide)
  have bare : readTerm? ['0'] = some (⟨['0'], [], []⟩, []) := by decide
  rw [bare] at read
  obtain ⟨rfl, rfl⟩ := Prod.mk.inj (Option.some.inj read)
  obtain ⟨unit, listed, name⟩ := valid.unit
  exact (unit_ne_nil_and_not_startsNumber listed).1 name

end Sums

/-- No text stands for two lengths of time. -/
lemma Denotes.unique {text : List Char} {time time' : Nat} (denotes : Denotes text time)
    (denotes' : Denotes text time') : time = time' := by
  cases denotes with
  | zero =>
    cases denotes' with
    | zero => rfl
    | terms some sums => exact absurd sums Sums.not_bare_zero
  | terms some sums =>
    cases denotes' with
    | zero => exact absurd sums Sums.not_bare_zero
    | terms some' sums' => exact sums.unique sums'

end Duration

end ArpProbe
