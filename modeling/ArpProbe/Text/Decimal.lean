/-!
# Decimal digits

Numbers are written by `Nat.toDigits 10`; this module reads a run of digits back.
-/

namespace ArpProbe.Decimal

/-- The value of a run of digits, most significant first. -/
def value (digits : List Char) : Nat :=
  digits.foldl (fun n c => 10 * n + (c.toNat - '0'.toNat)) 0

@[simp] theorem value_nil : value [] = 0 := rfl

theorem value_concat (digits : List Char) (c : Char) :
    value (digits ++ [c]) = 10 * value digits + (c.toNat - '0'.toNat) := by
  simp [value]

end ArpProbe.Decimal
