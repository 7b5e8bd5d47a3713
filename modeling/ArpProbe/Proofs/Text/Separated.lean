import ArpProbe.Text.Field
import Mathlib.Tactic.SplitIfs

/-!
# Groups and separators

Cutting a text at a separator and putting groups together with it are inverse to each other on
groups in which it does not occur (`fields_eq_iff`).
-/

namespace ArpProbe.Text

/-- A character is passed over only where it stands. -/
lemma skip?_eq_some_iff {c : Char} {text rest : List Char} :
    skip? c text = some rest ↔ text = c :: rest := by
  cases text with
  | nil => simp [skip?]
  | cons d text =>
    rw [skip?, List.cons.injEq]
    split_ifs with same
    · simp [same]
    · simp [same]

variable {α : Type}

section

variable [DecidableEq α] {separator : α}

/-- Fields are what the library calls splitting. -/
lemma fields_eq_splitOn (separator : α) (text : List α) :
    fields separator text = text.splitOn separator := by
  induction text with
  | nil => rfl
  | cons c text ih =>
    rw [List.splitOn_cons_eq_if_modifyHead, fields, ih]
    by_cases ends : c = separator
    · rw [if_pos ends, if_pos (beq_iff_eq.2 ends)]
    · obtain ⟨field, others, cut⟩ := List.exists_cons_of_ne_nil (List.splitOn_ne_nil separator text)
      rw [if_neg ends, if_neg (fun same => ends (beq_iff_eq.1 same)), cut]
      rfl

/-- A field ends where the separator stands. -/
lemma fields_append_cons {field : List α} (inside : separator ∉ field) (rest : List α) :
    fields separator (field ++ separator :: rest) = field :: fields separator rest := by
  rw [fields_eq_splitOn, fields_eq_splitOn, List.splitOn_append_cons_self_of_not_mem inside]

lemma separator_not_mem_of_mem_fields {text : List α} :
    ∀ field ∈ fields separator text, separator ∉ field := by
  induction text with
  | nil => simp [fields]
  | cons c text ih =>
    obtain ⟨first, others, cut⟩ := List.exists_cons_of_ne_nil (fields_ne_nil separator text)
    rw [cut, List.forall_mem_cons] at ih
    unfold fields
    rw [cut]
    by_cases ends : c = separator
    · rw [if_pos ends, List.forall_mem_cons, List.forall_mem_cons]
      exact ⟨List.not_mem_nil, ih⟩
    · rw [if_neg ends]
      show ∀ field ∈ (c :: first) :: others, separator ∉ field
      rw [List.forall_mem_cons, List.mem_cons, not_or]
      exact ⟨⟨Ne.symm ends, ih.1⟩, ih.2⟩

/-- The fields of a text are the groups that it is put together from. -/
lemma fields_eq_iff {text : List α} {groups : List (List α)} :
    fields separator text = groups ↔
      groups ≠ [] ∧ (∀ group ∈ groups, separator ∉ group) ∧
        text = [separator].intercalate groups := by
  constructor
  · rintro rfl
    refine ⟨fields_ne_nil separator text, separator_not_mem_of_mem_fields, ?_⟩
    rw [fields_eq_splitOn, List.intercalate_splitOn]
  · rw [fields_eq_splitOn]
    rintro ⟨some, outside, rfl⟩
    exact List.splitOn_intercalate separator outside some

end

/-- Apart from separators, what is put together holds what is in the groups. -/
lemma mem_intercalate_iff {c separator : α} {groups : List (List α)} (other : c ≠ separator) :
    c ∈ [separator].intercalate groups ↔ ∃ group ∈ groups, c ∈ group := by
  induction groups with
  | nil => simp
  | cons group groups ih =>
    cases groups with
    | nil => simp
    | cons next groups =>
      rw [List.intercalate_cons_cons, List.mem_append, List.mem_append, ih]
      simp [other]

end ArpProbe.Text
