import ArpProbe.Text.Blank
import ArpProbe.Text.Decimal
import ArpProbe.Text.Quoted
import ArpProbe.Time

/-!
# Written lengths of time

A length of time is written as one or more terms, each a decimal number and a unit, as in `1m30s`
or `1.5s`. A bare `0` needs no unit. The value is a number of nanoseconds below `2 ^ 64`.
-/

namespace ArpProbe.Duration

/-- The units with their nanoseconds. A micro sign or a Greek letter may stand for the `u`. -/
def units : List (String × Nat) :=
  [("ns", 1), ("us", Time.perMicrosecond), ("\u00b5s", Time.perMicrosecond),
    ("\u03bcs", Time.perMicrosecond), ("ms", Time.perMillisecond), ("s", Time.perSecond),
    ("m", 60 * Time.perSecond), ("h", 3600 * Time.perSecond)]

/-- The nanoseconds in a unit of the given name. -/
def unit? (name : List Char) : Option Nat :=
  (units.find? (·.1.toList == name)).map (·.2)

/-- A number and what stands as its unit. -/
structure Term where
  whole : List Char
  fraction : List Char
  unit : List Char
deriving DecidableEq, Repr

/-- The digits after a point at the front of a text, and what follows. -/
def readFraction : List Char → List Char × List Char
  | '.' :: text => (text.takeWhile Char.isDigit, text.dropWhile Char.isDigit)
  | text => ([], text)

/-- A character that starts a number. -/
def startsNumber (c : Char) : Bool :=
  c.isDigit || c == '.'

/-- Reads a term at the front of a text: a number with a digit before or after the point, and all up
to the next number as the unit. -/
def readTerm? (text : List Char) : Option (Term × List Char) :=
  let whole := text.takeWhile Char.isDigit
  let (fraction, text) := readFraction (text.dropWhile Char.isDigit)
  if whole = [] ∧ fraction = [] then none
  else
    some (⟨whole, fraction, text.takeWhile (!startsNumber ·)⟩, text.dropWhile (!startsNumber ·))

theorem length_readFraction_le (text : List Char) :
    (readFraction text).1.length + (readFraction text).2.length ≤ text.length := by
  unfold readFraction
  split
  · next rest =>
    have := congrArg List.length (List.takeWhile_append_dropWhile (p := Char.isDigit) (l := rest))
    simp only [List.length_append, List.length_cons] at *
    omega
  · simp

/-- A term takes at least a digit. -/
theorem length_rest_lt {text rest : List Char} {term : Term}
    (h : readTerm? text = some (term, rest)) : rest.length < text.length := by
  have whole := congrArg List.length (List.takeWhile_append_dropWhile (p := Char.isDigit) (l := text))
  have fraction := length_readFraction_le (text.dropWhile Char.isDigit)
  have unit := ((readFraction (text.dropWhile Char.isDigit)).2.dropWhile_suffix
    (!startsNumber ·)).length_le
  unfold readTerm? at h
  simp only at h
  split at h
  · cases h
  · next some =>
    obtain ⟨-, rfl⟩ := Prod.mk.inj (Option.some.inj h)
    rw [← List.length_eq_zero_iff, ← List.length_eq_zero_iff] at some
    simp only [List.length_append] at *
    omega

/-- Terms and their sums are kept in words of 128 bits. -/
def word : Nat := Nat.pow 2 128

/-- The number of digits after the point that count. -/
def fractionDigits : Nat := 18

/-- Why a text is not read. -/
inductive Fault
  /-- It is no length of time, or one that is too long. -/
  | invalid
  /-- The fraction of a term takes it out of its word. -/
  | overflow
deriving DecidableEq, Repr

/-- The nanoseconds of a term. The whole part has to fit a word, and so has what it becomes with the
fraction, which is rounded down. -/
def Term.value (term : Term) : Except Fault Nat :=
  match unit? term.unit with
  | none => .error .invalid
  | some scale =>
    let whole := Decimal.value term.whole * scale
    let digits := term.fraction.take fractionDigits
    let value := whole + Decimal.value digits * scale / Nat.pow 10 digits.length
    if word ≤ whole then .error .invalid
    else if word ≤ value then .error .overflow
    else .ok value

/-- Adds the terms of a text to a sum. Terms are read one after another, so the first fault decides
the error. -/
def addTerms (sum : Nat) (text : List Char) : Except Fault Nat :=
  if text = [] then .ok sum
  else match read : readTerm? text with
    | none => .error .invalid
    | some (term, rest) =>
      match term.value with
      | .error fault => .error fault
      | .ok value =>
        have := length_rest_lt read
        if word ≤ sum + value then .error .invalid else addTerms (sum + value) rest
termination_by text.length

/-- The nanoseconds that a text without blanks at its ends stands for. -/
def read (text : List Char) : Except Fault Nat :=
  if text = ['0'] then .ok 0
  else if text = [] then .error .invalid
  else do
    let time ← addTerms 0 text
    if time < Nat.pow 2 64 then return time else throw .invalid

/-- Reads a length of time, with blanks around it or without. -/
def parse (given : String) : Except Fault Nat :=
  read (Text.trim given.toList)

/-- The report of a text that is no length of time. -/
def invalidMessage (given : String) : String :=
  "invalid duration " ++ String.ofList (Text.quote given.toList) ++
    ", expected e.g. 100ms, 1.5s, 1m30s"

/-- The report of a term that leaves its word. -/
def overflowMessage : String := "attempt to add with overflow"

end ArpProbe.Duration
