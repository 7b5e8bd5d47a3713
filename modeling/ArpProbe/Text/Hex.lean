/-!
# Hexadecimal digits

Numbers are written with lower-case digits and read with digits of either case.
-/

namespace ArpProbe.Hex

/-- The value of one hexadecimal digit of either case. -/
def value? (c : Char) : Option Nat :=
  if '0' ≤ c ∧ c ≤ '9' then some (c.toNat - '0'.toNat)
  else if 'a' ≤ c ∧ c ≤ 'f' then some (c.toNat - 'a'.toNat + 10)
  else if 'A' ≤ c ∧ c ≤ 'F' then some (c.toNat - 'A'.toNat + 10)
  else none

theorem value?_digitChar {n : Nat} (h : n < 16) : value? n.digitChar = some n := by
  revert n; decide

theorem value?_lt {c : Char} {n : Nat} (h : value? c = some n) : n < 16 := by
  have span : ∀ {lo hi : Char}, lo ≤ c ∧ c ≤ hi → lo.toNat ≤ c.toNat ∧ c.toNat ≤ hi.toNat :=
    fun {_ _} h => h
  have digits : '0'.toNat = 48 ∧ '9'.toNat = 57 := by decide
  have lower : 'a'.toNat = 97 ∧ 'f'.toNat = 102 := by decide
  have upper : 'A'.toNat = 65 ∧ 'F'.toNat = 70 := by decide
  unfold value? at h
  split at h
  · have := span ‹_›; cases h; omega
  · split at h
    · have := span ‹_›; cases h; omega
    · split at h
      · have := span ‹_›; cases h; omega
      · cases h

/-- Two lower-case digits for a byte. -/
def byte (b : UInt8) : List Char :=
  [(b.toNat / 16).digitChar, (b.toNat % 16).digitChar]

/-- The digits of a number, without leading zeros. -/
def number (n : Nat) : List Char :=
  Nat.toDigits 16 n

end ArpProbe.Hex
