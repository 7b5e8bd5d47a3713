import ArpProbe.Proofs.Address.Dotted
import ArpProbe.Report

/-!
# Lines of a report

No line of a report has a line end inside, so what is printed can be cut into lines again.
-/

namespace ArpProbe

/-! ## Characters of a line -/

/-- A hardware address is written with hexadecimal digits and colons only. -/
lemma Mac.notMem_chars {c : Char} (other : ∀ n < 16, c ≠ Nat.digitChar n) (colon : c ≠ ':')
    (mac : Mac) : c ∉ mac.chars := by
  rw [chars, Text.mem_intercalate_iff colon]
  rintro ⟨group, member, inside⟩
  obtain ⟨byte, -, rfl⟩ := List.mem_map.1 member
  have bound := byte.toNat_lt
  simp only [Hex.byte, List.mem_cons, List.not_mem_nil, or_false] at inside
  rcases inside with high | low
  · exact other _ (by omega) high
  · exact other _ (by omega) low

namespace Report

lemma toList_line (ip : Ipv4) (reply : Reply) :
    (line ip reply).toList = ip.chars ++ ' ' :: '(' :: (reply.mac.chars ++ ')' :: ' ' ::
      (Nat.toDigits 10 (Time.toMicroseconds reply.duration) ++ " usec".toList)) := by
  simp [line, Ipv4.text, Mac.text, Nat.toString_eq_repr]

lemma newline_not_mem_line (ip : Ipv4) (reply : Reply) : '\n' ∉ (line ip reply).toList := by
  have address := Ipv4.notMem_chars (c := '\n') (by decide) (by decide) ip
  have hardware := Mac.notMem_chars (c := '\n') (by decide) (by decide) reply.mac
  have digits := notMem_toDigits (c := '\n') (by decide) (Time.toMicroseconds reply.duration)
  simp [toList_line, address, hardware, digits]

/-- Every line ends with a line break. -/
lemma lines_cons (text : String) (texts : List String) :
    (lines (text :: texts)).toList = text.toList ++ '\n' :: (lines texts).toList := by
  simp [lines]

/-- What was printed line by line is cut into the same lines, with nothing after the last. -/
lemma fields_lines {texts : List String} (inside : ∀ text ∈ texts, '\n' ∉ text.toList) :
    Text.fields '\n' (lines texts).toList = texts.map String.toList ++ [[]] := by
  induction texts with
  | nil => rfl
  | cons text texts ih =>
    rw [lines_cons, Text.fields_append_cons (inside text (by simp)),
      ih fun text member => inside text (by simp [member])]
    rfl

/-- The lines about replies are read back as they are. -/
lemma fields_lines_line (ip : Ipv4) (replies : List Reply) :
    Text.fields '\n' (lines (replies.map (line ip))).toList =
      replies.map (fun reply => (line ip reply).toList) ++ [[]] := by
  have inside : ∀ text ∈ replies.map (line ip), '\n' ∉ text.toList := by
    intro text member
    obtain ⟨reply, -, rfl⟩ := List.mem_map.1 member
    exact newline_not_mem_line ip reply
  rw [fields_lines inside, List.map_map]
  rfl

end Report

end ArpProbe
