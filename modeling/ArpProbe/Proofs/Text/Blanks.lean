import ArpProbe.Proofs.Text.Numerals
import ArpProbe.Text.Blank
import Mathlib.Data.List.Basic

/-!
# Blanks around a text

What is left of a text without the blanks around it is said by `Stripped`, without taking any away.
-/

namespace ArpProbe.Text

lemma isBlank_eq_of_isDigit {c : Char} (digit : c.isDigit = true) : isBlank c = false := by
  have known : ∀ value < 10, isBlank value.digitChar = false := by decide
  obtain ⟨small, same⟩ := Decimal.digit_of_isDigit digit
  rw [← same]
  exact known _ small

/-- What is left of a text without the blanks at its ends. -/
def Stripped (given text : List Char) : Prop :=
  ∃ before after, given = before ++ text ++ after ∧ (∀ c ∈ before ++ after, isBlank c = true) ∧
    (∀ c ∈ text.head?, isBlank c = false) ∧ ∀ c ∈ text.getLast?, isBlank c = false

variable {given text before after : List Char}

/-- What is left without the blanks around it is what trimming gives. -/
lemma trim_of_stripped (stripped : Stripped given text) : trim given = text := by
  obtain ⟨before, after, rfl, blank, front, back⟩ := stripped
  rw [List.forall_mem_append] at blank
  rw [trim, List.append_assoc]
  by_cases none : text = []
  · have all : (before ++ after).dropWhile isBlank = [] :=
      List.dropWhile_eq_nil_iff.2 (List.forall_mem_append.2 blank)
    rw [none, List.nil_append, all]
    rfl
  · have kept : ∀ c ∈ (text ++ after).head?, isBlank c = false := by
      rw [List.head?_append_of_ne_nil _ none]
      exact front
    rw [(takeWhile_append_of_stop blank.1 kept).2, List.reverse_append,
      (takeWhile_append_of_stop (by simpa using blank.2) (by simpa using back)).2,
      List.reverse_reverse]

/-- Trimming leaves a text without blanks around it. -/
lemma stripped_trim (given : List Char) : Stripped given (trim given) := by
  have split := List.takeWhile_append_dropWhile (p := isBlank) (l := given)
  generalize left : given.dropWhile isBlank = rest at split
  have cut : trim given ++ (rest.reverse.takeWhile isBlank).reverse = rest := by
    rw [trim, left, ← List.reverse_append, List.takeWhile_append_dropWhile, List.reverse_reverse]
  refine ⟨given.takeWhile isBlank, (rest.reverse.takeWhile isBlank).reverse, ?_, ?_, ?_, ?_⟩
  · rw [List.append_assoc, cut, split]
  · rw [List.forall_mem_append]
    exact ⟨fun c => List.mem_takeWhile_imp,
      fun c member => List.mem_takeWhile_imp (List.mem_reverse.1 member)⟩
  · intro c first
    refine stop_of_dropWhile isBlank given c ?_
    rw [left, ← cut]
    exact List.mem_head?_append_of_mem_head? first
  · rw [trim, List.getLast?_reverse]
    exact stop_of_dropWhile isBlank _

/-- A text without blanks can stand between blanks. -/
lemma stripped_append (blank : ∀ c ∈ before ++ after, isBlank c = true)
    (plain : ∀ c ∈ text, isBlank c = false) : Stripped (before ++ text ++ after) text :=
  ⟨before, after, rfl, blank, fun c first => plain c (List.mem_of_mem_head? first),
    fun c last => plain c (List.mem_of_mem_getLast? last)⟩

end ArpProbe.Text
