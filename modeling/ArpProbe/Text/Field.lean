/-!
# Separated fields

Sequences cut at each occurrence of a separator, and the separator in front of a text.
-/

namespace ArpProbe.Text

/-- The fields between separators, one more than there are separators. -/
def fields {α : Type} [DecidableEq α] (separator : α) : List α → List (List α)
  | [] => [[]]
  | c :: text =>
    if c = separator then [] :: fields separator text
    else match fields separator text with
      | [] => [[c]]
      | field :: others => (c :: field) :: others

/-- Even the empty text has a field. -/
theorem fields_ne_nil {α : Type} [DecidableEq α] (separator : α) (text : List α) :
    fields separator text ≠ [] := by
  cases text with
  | nil => simp [fields]
  | cons c text => grind [fields]

/-- What follows the character `c` at the front of a text. -/
def skip? (c : Char) : List Char → Option (List Char)
  | [] => none
  | d :: text => if d = c then some text else none

end ArpProbe.Text
