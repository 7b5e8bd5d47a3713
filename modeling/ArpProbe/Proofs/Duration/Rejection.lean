import ArpProbe.Proofs.Duration.Grammar

/-!
# Which lengths of time are refused

Terms are added up in words of 128 bits. Multiplying by a unit and adding terms up is checked, and
adding the fraction of a term is not: `parse_exact` says what is read, what is refused, and when a
fraction takes its term out of the word, which `parse_of_overflowing_fraction` shows to happen.
-/

namespace ArpProbe.Duration

/-! ## One term -/

namespace Term

/-- The fraction takes the term out of its word, which the whole part still fits. -/
def Overflows (term : Term) : Prop :=
  ∃ unit ∈ units, unit.1.toList = term.unit ∧
    Decimal.value term.whole * unit.2 < word ∧ word ≤ term.nanoseconds unit.2

variable {term : Term} {unit : String × Nat}

lemma Overflows.exists_unit (leaves : term.Overflows) :
    ∃ unit ∈ units, unit.1.toList = term.unit := by
  obtain ⟨unit, listed, name, -⟩ := leaves
  exact ⟨unit, listed, name⟩

/-- The whole part and the fraction of a term can be multiplied apart. -/
lemma nanoseconds_eq (term : Term) (scale : Nat) :
    term.nanoseconds scale = Decimal.value term.whole * scale +
      Decimal.value term.places * scale / 10 ^ term.places.length := by
  have moved : Decimal.value (term.whole ++ term.places) * scale =
      Decimal.value term.places * scale +
        10 ^ term.places.length * (Decimal.value term.whole * scale) := by
    rw [Decimal.value_append]
    ring
  rw [nanoseconds, moved, Nat.add_mul_div_left _ _ (Nat.pow_pos (by decide)), Nat.add_comm]

lemma value_of_unknown (unknown : ¬ ∃ unit ∈ units, unit.1.toList = term.unit) :
    term.value = .error .invalid := by
  have none : unit? term.unit = none := by
    cases known : unit? term.unit with
    | none => rfl
    | some scale =>
      obtain ⟨unit, listed, name, -⟩ := exists_unit_of_unit? known
      exact absurd ⟨unit, listed, name⟩ unknown
  rw [value, none]

/-- Only a term with a unit has a value or leaves its word. -/
lemma exists_unit_of_value_ne (known : term.value ≠ .error .invalid) :
    ∃ unit ∈ units, unit.1.toList = term.unit := by
  by_contra unknown
  exact known (value_of_unknown unknown)

/-- What becomes of a term with a unit. -/
lemma value_eq (listed : unit ∈ units) (name : unit.1.toList = term.unit) :
    term.value =
      if word ≤ Decimal.value term.whole * unit.2 then .error .invalid
      else if word ≤ term.nanoseconds unit.2 then .error .overflow
      else .ok (term.nanoseconds unit.2) := by
  rw [value, ← name, unit?_of_mem listed, nanoseconds_eq]
  rfl

/-- A term with a unit is worth no less than its whole part. -/
lemma whole_le_nanoseconds (term : Term) (scale : Nat) :
    Decimal.value term.whole * scale ≤ term.nanoseconds scale := by
  rw [nanoseconds_eq]
  exact Nat.le_add_right _ _

/-- A term is taken for what it is worth, if that fits a word. -/
lemma value_eq_ok_iff {time : Nat} : term.value = .ok time ↔ term.Worth time ∧ time < word := by
  constructor
  · intro value
    have known : term.value ≠ .error .invalid := by
      rw [value]
      nofun
    obtain ⟨unit, listed, name⟩ := exists_unit_of_value_ne known
    rw [value_eq listed name] at value
    split at value
    · cases value
    · split at value
      · cases value
      · next fits =>
        obtain rfl := Except.ok.inj value
        exact ⟨⟨unit, listed, name, rfl⟩, Nat.not_le.1 fits⟩
  · rintro ⟨⟨unit, listed, name, rfl⟩, fits⟩
    have whole := term.whole_le_nanoseconds unit.2
    rw [value_eq listed name, if_neg (by omega), if_neg (by omega)]

/-- A term breaks down exactly if its fraction takes it out of its word. -/
lemma value_eq_overflow_iff : term.value = .error .overflow ↔ term.Overflows := by
  constructor
  · intro value
    have known : term.value ≠ .error .invalid := by
      rw [value]
      nofun
    obtain ⟨unit, listed, name⟩ := exists_unit_of_value_ne known
    rw [value_eq listed name] at value
    split at value
    · cases value
    · next fits =>
      split at value
      · next leaves => exact ⟨unit, listed, name, Nat.not_le.1 fits, leaves⟩
      · cases value
  · rintro ⟨unit, listed, name, fits, leaves⟩
    rw [value_eq listed name, if_neg (Nat.not_le.2 fits), if_pos leaves]

lemma value_places_lt (valid : term.WellFormed) :
    Decimal.value term.places < 10 ^ term.places.length :=
  Decimal.value_lt fun c member => valid.fraction c (List.mem_of_mem_take member)

/-- The product with the digits after the point always fits. -/
lemma places_fit (valid : term.WellFormed) (listed : unit ∈ units) :
    Decimal.value term.places * unit.2 < word := by
  have short : term.places.length ≤ 18 := List.length_take_le _ _
  have digits : Decimal.value term.places < 10 ^ 18 :=
    Nat.lt_of_lt_of_le (value_places_lt valid) (Nat.pow_le_pow_right (by decide) short)
  have hour : ∀ unit ∈ units, unit.2 ≤ 3600000000000 := by decide
  calc Decimal.value term.places * unit.2
      ≤ 10 ^ 18 * 3600000000000 := Nat.mul_le_mul (Nat.le_of_lt digits) (hour unit listed)
    _ < word := by decide

/-- A fraction is worth less than one unit, so a term that it takes out of its word ends within one
unit of it. -/
lemma lt_of_overflows (valid : term.WellFormed) (listed : unit ∈ units)
    (name : unit.1.toList = term.unit) (leaves : term.Overflows) :
    term.fraction ≠ [] ∧ word < (Decimal.value term.whole + 1) * unit.2 := by
  obtain ⟨unit', listed', name', fits, leaves⟩ := leaves
  obtain rfl := units_eq_of_name listed listed' (name.trans name'.symm)
  have positive : ∀ unit ∈ units, 0 < unit.2 := by decide
  have fraction : Decimal.value term.places * unit.2 / 10 ^ term.places.length < unit.2 := by
    rw [Nat.div_lt_iff_lt_mul (Nat.pow_pos (by decide)), Nat.mul_comm unit.2]
    exact Nat.mul_lt_mul_of_pos_right (value_places_lt valid) (positive unit listed)
  rw [nanoseconds_eq] at leaves
  constructor
  · intro none
    have worthless : Decimal.value term.places = 0 := by
      rw [places, none]
      rfl
    rw [worthless, Nat.zero_mul, Nat.zero_div] at leaves
    omega
  · rw [Nat.add_mul, Nat.one_mul]
    omega

end Term

/-! ## Running sums -/

/-- Terms whose sum fits a word are followed by one that its fraction takes out of it. -/
inductive OverflowsFrom (sum : Nat) : List Char → Prop
  | intro {before spelled rest : List Char} {term : Term} {time : Nat} (sums : Sums before time)
      (fits : sum + time < word) (valid : term.WellFormed) (spells : term.Spells spelled)
      (stops : Stops rest) (leaves : term.Overflows) : OverflowsFrom sum (before ++ (spelled ++ rest))

section

variable {sum worth : Nat} {term : Term} {text rest : List Char}

lemma addTerms_nil (sum : Nat) : addTerms sum [] = .ok sum := by
  rw [addTerms, if_pos rfl]

/-- What becomes of a sum when a term is read. -/
lemma addTerms_of_read (read : readTerm? text = some (term, rest)) :
    addTerms sum text =
      match term.value with
      | .error fault => .error fault
      | .ok worth => if word ≤ sum + worth then .error .invalid else addTerms (sum + worth) rest := by
  have some : text ≠ [] := by
    rintro rfl
    cases read
  rw [addTerms, if_neg some]
  split
  · simp_all
  · next read' =>
    rw [read] at read'
    obtain ⟨rfl, rfl⟩ := Prod.mk.inj (Option.some.inj read')
    rfl

/-- Terms that fit are added to the sum. -/
lemma addTerms_append {before : List Char} {time : Nat} (sums : Sums before time)
    (stops : Stops rest) (fits : sum + time < word) :
    addTerms sum (before ++ rest) = addTerms (sum + time) rest := by
  induction sums generalizing sum with
  | done => rfl
  | @term term spelled more worth time valid spells value others ih =>
    have follows : Stops (more ++ rest) := by
      cases others with
      | done => exact stops
      | term valid' spells' value' others' =>
        rw [List.append_assoc]
        exact spells'.stops valid' _
    have value : term.value = .ok worth := Term.value_eq_ok_iff.2 ⟨value, by omega⟩
    rw [List.append_assoc, addTerms_of_read (readTerm?_append valid spells follows), value]
    simp only
    rw [if_neg (by omega), ih (by omega), Nat.add_assoc]

/-- What has been added up was written in terms. -/
lemma sums_of_addTerms {time : Nat} (reads : addTerms sum text = .ok time) :
    ∃ more, Sums text more ∧ sum + more = time := by
  fun_induction addTerms sum text with
  | case1 sum => exact ⟨0, .done, Except.ok.inj reads⟩
  | case2 | case3 | case4 => cases reads
  | case5 sum text some term rest read worth value _ fits ih =>
    obtain ⟨more, sums, rfl⟩ := ih reads
    obtain ⟨⟨spelled, spells, rfl⟩, -, valid⟩ := spells_of_readTerm? read
    obtain ⟨worth, -⟩ := Term.value_eq_ok_iff.1 value
    exact ⟨_, .term (valid worth.exists_unit) spells worth sums, (Nat.add_assoc ..).symm⟩

/-- A sum is left by a fraction only where the terms before it fit. -/
lemma overflowsFrom_of_addTerms (reads : addTerms sum text = .error .overflow) (fits : sum < word) :
    OverflowsFrom sum text := by
  fun_induction addTerms sum text with
  | case1 | case2 | case4 => cases reads
  | case3 sum text some term rest read fault value =>
    obtain rfl := Except.error.inj reads
    obtain ⟨⟨spelled, spells, rfl⟩, stops, valid⟩ := spells_of_readTerm? read
    have leaves := Term.value_eq_overflow_iff.1 value
    exact .intro .done fits (valid leaves.exists_unit) spells stops leaves
  | case5 sum text some term rest read worth value _ below ih =>
    obtain ⟨⟨spelled, spells, rfl⟩, -, valid⟩ := spells_of_readTerm? read
    obtain ⟨worth, -⟩ := Term.value_eq_ok_iff.1 value
    obtain ⟨sums, fits, valid', spells', stops, leaves⟩ := ih reads (by omega)
    -- the term joins those that fit
    rw [← List.append_assoc]
    exact .intro (.term (valid worth.exists_unit) spells worth sums) (by omega) valid' spells' stops
      leaves

/-- A term that leaves its word breaks down the sum, if it is reached. -/
lemma addTerms_of_overflowsFrom (leaves : OverflowsFrom sum text) :
    addTerms sum text = .error .overflow := by
  obtain ⟨sums, fits, valid, spells, stops, leaves⟩ := leaves
  rw [addTerms_append sums (spells.stops valid _) fits,
    addTerms_of_read (readTerm?_append valid spells stops), Term.value_eq_overflow_iff.2 leaves]

end

/-! ## Whole texts -/

section

variable {text : List Char}

lemma denotes_of_addTerms {time : Nat} (some : text ≠ []) (reads : addTerms 0 text = .ok time) :
    Denotes text time := by
  obtain ⟨more, sums, same⟩ := sums_of_addTerms reads
  rw [Nat.zero_add] at same
  exact .terms some (same ▸ sums)

/-- What is in the grammar is summed up, if it fits a word. -/
lemma addTerms_of_sums {time : Nat} (sums : Sums text time) (fits : time < word) :
    addTerms 0 text = .ok time := by
  have all : addTerms 0 (text ++ []) = addTerms (0 + time) [] :=
    addTerms_append sums nofun (by omega)
  rwa [List.append_nil, addTerms_nil, Nat.zero_add] at all

/-- A bare zero is no term. -/
lemma addTerms_zero : addTerms 0 ['0'] = .error .invalid := by
  have bare : readTerm? ['0'] = some (⟨['0'], [], []⟩, []) := by decide
  rw [addTerms_of_read bare]
  rfl

/-- Any other text is read term by term. -/
lemma read_eq (nonzero : text ≠ ['0']) (some : text ≠ []) :
    read text =
      match addTerms 0 text with
      | .error fault => .error fault
      | .ok time => if time < 2 ^ 64 then .ok time else .error .invalid := by
  rw [read, if_neg nonzero, if_neg some]
  cases addTerms 0 text with
  | error fault => rfl
  | ok time => rfl

/-- A text that denotes a length of time that fits is read as it. -/
lemma read_eq_ok_iff {time : Nat} : read text = .ok time ↔ Denotes text time ∧ time < 2 ^ 64 := by
  constructor
  · intro reads
    -- a bare zero and the empty text are settled before anything is summed up
    by_cases zero : text = ['0']
    · rw [read, if_pos zero] at reads
      obtain rfl := Except.ok.inj reads
      exact ⟨zero ▸ .zero, by decide⟩
    by_cases none : text = []
    · rw [none] at reads
      cases reads
    rw [read_eq zero none] at reads
    split at reads
    · cases reads
    · next sum added =>
      split at reads
      · next fits =>
        obtain rfl := Except.ok.inj reads
        exact ⟨denotes_of_addTerms none added, fits⟩
      · cases reads
  · rintro ⟨denotes, fits⟩
    cases denotes with
    | zero => rfl
    | terms some sums =>
      have nonzero : text ≠ ['0'] := by
        rintro rfl
        exact Sums.not_bare_zero sums
      have small : time < word := Nat.lt_trans fits (by decide)
      rw [read_eq nonzero some, addTerms_of_sums sums small]
      exact if_pos fits

/-- Reading overflows exactly where a fraction takes its term out of a word. -/
lemma read_eq_overflow_iff : read text = .error .overflow ↔ OverflowsFrom 0 text := by
  constructor
  · intro reads
    by_cases zero : text = ['0']
    · rw [read, if_pos zero] at reads
      cases reads
    by_cases none : text = []
    · rw [none] at reads
      cases reads
    rw [read_eq zero none] at reads
    split at reads
    · next fault added =>
      rw [Except.error.inj reads] at added
      exact overflowsFrom_of_addTerms added (by decide)
    · split at reads
      · cases reads
      · cases reads
  · intro leaves
    -- neither a bare zero nor the empty text breaks down, so the sum is what is read
    have added := addTerms_of_overflowsFrom leaves
    have nonzero : text ≠ ['0'] := by
      rintro rfl
      rw [addTerms_zero] at added
      cases added
    have some : text ≠ [] := by
      rintro rfl
      rw [addTerms_nil] at added
      cases added
    rw [read_eq nonzero some, added]

end

/-- What reading a length of time comes to. A text, without the blanks around it, that is in the
grammar and stands for so many nanoseconds is read as them if they fit a word of 64 bits, and
every other text is refused, unless the fraction of one of its terms takes that term out of its
word. Of the arithmetic on a term only the addition of the fraction can do so, and only for whole
parts within one unit of the end of the word. -/
theorem parse_exact (given : String) :
    (∀ time, parse given = .ok time ↔ Denotes (Text.trim given.toList) time ∧ time < 2 ^ 64) ∧
      (parse given = .error .overflow ↔ OverflowsFrom 0 (Text.trim given.toList)) ∧
      (parse given = .error .invalid ↔ ¬ OverflowsFrom 0 (Text.trim given.toList) ∧
        ∀ time, Denotes (Text.trim given.toList) time → 2 ^ 64 ≤ time) ∧
      (∀ text time time', Denotes text time → Denotes text time' → time = time') ∧
      ∀ term : Term, ∀ unit ∈ units, term.WellFormed → unit.1.toList = term.unit →
        Decimal.value term.places * unit.2 < word ∧
          (term.Overflows → term.fraction ≠ [] ∧
            word < (Decimal.value term.whole + 1) * unit.2) := by
  refine ⟨fun time => read_eq_ok_iff, read_eq_overflow_iff, ?_,
    fun _ _ _ => Denotes.unique, fun term unit listed valid name =>
      ⟨Term.places_fit valid listed, Term.lt_of_overflows valid listed name⟩⟩
  constructor
  · intro refused
    rw [parse] at refused
    constructor
    · intro leaves
      rw [read_eq_overflow_iff.2 leaves] at refused
      cases refused
    · intro time denotes
      by_contra fits
      rw [read_eq_ok_iff.2 ⟨denotes, Nat.not_le.1 fits⟩] at refused
      cases refused
  · rintro ⟨fit, long⟩
    rw [parse]
    cases outcome : read (Text.trim given.toList) with
    | ok time =>
      obtain ⟨denotes, fits⟩ := read_eq_ok_iff.1 outcome
      exact absurd (long time denotes) (Nat.not_le.2 fits)
    | error fault =>
      cases fault with
      | invalid => rfl
      | overflow => exact absurd (read_eq_overflow_iff.1 outcome) fit

/-- The last whole number of microseconds in a word, and a fraction that takes it out. -/
def Term.overflowing : Term :=
  ⟨"340282366920938463463374607431768211".toList, ['9'], ['u', 's']⟩

/-- The text stands for a length of time that is too long, and that is not what is reported. -/
theorem parse_of_overflowing_fraction :
    parse "340282366920938463463374607431768211.9us" = .error .overflow ∧
      ∃ time, Denotes "340282366920938463463374607431768211.9us".toList time ∧ 2 ^ 64 ≤ time := by
  have microsecond : ("us", Time.perMicrosecond) ∈ units := by decide
  have valid : Term.overflowing.WellFormed :=
    ⟨List.all_eq_true.1 (by decide), List.all_eq_true.1 (by decide), .inl (by decide),
      ⟨_, microsecond, rfl⟩⟩
  have leaves : Term.overflowing.Overflows := ⟨_, microsecond, rfl, by decide, by decide⟩
  have worth : Term.overflowing.Worth 340282366920938463463374607431768211900 :=
    ⟨_, microsecond, rfl, by decide⟩
  constructor
  · have blank : Text.trim "340282366920938463463374607431768211.9us".toList =
        "340282366920938463463374607431768211.9us".toList :=
      Text.trim_eq_self (by decide) (by decide)
    rw [parse, blank]
    exact read_eq_overflow_iff.2 (.intro .done (by decide) valid .pointed nofun leaves)
  · exact ⟨_, .terms (by decide) (.term valid .pointed worth .done), by decide⟩

end ArpProbe.Duration
