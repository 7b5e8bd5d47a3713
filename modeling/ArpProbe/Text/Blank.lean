/-!
# White space

The characters with the Unicode property `White_Space`, and texts without them at either end.
-/

namespace ArpProbe.Text

/-- The characters with the property `White_Space`. -/
def isBlank (c : Char) : Bool :=
  let n := c.toNat
  (9 ≤ n && n ≤ 13) || n == 0x20 || n == 0x85 || n == 0xa0 || n == 0x1680 ||
    (0x2000 ≤ n && n ≤ 0x200a) || n == 0x2028 || n == 0x2029 || n == 0x202f || n == 0x205f ||
    n == 0x3000

/-- A text without the blanks at its ends. -/
def trim (text : List Char) : List Char :=
  ((text.dropWhile isBlank).reverse.dropWhile isBlank).reverse

/-- A text that neither starts nor ends with a blank stays as it is. -/
theorem trim_eq_self {text : List Char} (front : text.head?.all (fun c => !isBlank c))
    (back : text.getLast?.all (fun c => !isBlank c)) : trim text = text := by
  have hold : ∀ {l : List Char}, (l.head?.all fun c => !isBlank c) → l.dropWhile isBlank = l := by
    intro l h
    cases l with
    | nil => rfl
    | cons c l => simp_all
  rw [trim, hold front, hold (by simpa using back), List.reverse_reverse]

end ArpProbe.Text
