import ArpProbe.Proofs.Address.Hardware
import ArpProbe.Proofs.Report.Lines
import ArpProbe.Proofs.Text.Numerals

/-!
# Reading a report back

A line of a report can be split in one way only, at its parentheses, and its parts say who answered
and after how many whole microseconds. So scripts can read back from a report what it is about
(`report_exact`).
-/

namespace ArpProbe

/-! ## Hardware addresses as they are written -/

namespace Mac

lemma pair_byte (byte : UInt8) : Pair (Hex.byte byte) byte := by
  have bound := byte.toNat_lt
  have pair : Pair (Hex.byte byte) (UInt8.ofNat (16 * (byte.toNat / 16) + byte.toNat % 16)) :=
    .intro ⟨by omega, .inl rfl⟩ ⟨by omega, .inl rfl⟩
  rwa [Nat.div_add_mod, UInt8.ofNat_toNat] at pair

/-- An address is read back from what it is written as. -/
lemma parse_text (mac : Mac) : parse mac.text = .ok mac := by
  rw [parse_eq_ok_iff, text, String.toList_ofList]
  refine ⟨mac.toBytes.map Hex.byte, ?_, rfl⟩
  rw [List.forall₂_map_left_iff, List.forall₂_same]
  exact fun byte _ => .pair (pair_byte byte)

end Mac

namespace Report

/-! ## Parts of a line -/

/-- What a line is put together from: an address, a text in parentheses, and a number. -/
structure Parts where
  address : List Char
  hardware : List Char
  number : List Char

/-- The line with the given parts. -/
def Parts.line (parts : Parts) : List Char :=
  parts.address ++ " (".toList ++ parts.hardware ++ ") ".toList ++ parts.number ++ " usec".toList

/-- What a reply is reported as: who answered, and after how many whole microseconds. -/
def entry (reply : Reply) : Mac × Nat :=
  (reply.mac, reply.duration / 1000)

/-- The parts of a line about a reply. -/
def partsOf (ip : Ipv4) (reported : Mac × Nat) : Parts :=
  ⟨ip.chars, reported.1.chars, Nat.toDigits 10 reported.2⟩

variable {ip : Ipv4}

/-- A line, cut at its first parenthesis and at the one that closes it. -/
lemma Parts.line_eq (parts : Parts) :
    parts.line = (parts.address ++ [' ']) ++ '(' :: (parts.hardware ++ ')' ::
      ([' '] ++ (parts.number ++ " usec".toList))) := by
  simp [line]

/-- The line of a reply is made from the parts of its entry. -/
lemma toList_line_eq (reply : Reply) : (line ip reply).toList = (partsOf ip (entry reply)).line := by
  rw [toList_line, Parts.line_eq]
  simp [partsOf, entry, Time.toMicroseconds, Time.perMicrosecond]

/-- A line about a reply has one opening parenthesis and one closing one, so it is split only there. -/
lemma eq_partsOf {reported : Mac × Nat} {parts : Parts}
    (same : parts.line = (partsOf ip reported).line) : parts = partsOf ip reported := by
  obtain ⟨mac, micros⟩ := reported
  have address : '(' ∉ ip.chars ++ [' '] := by
    simp [Ipv4.notMem_chars (c := '(') (by decide) (by decide) ip]
  have hardware : '(' ∉ mac.chars ∧ ')' ∉ mac.chars :=
    ⟨Mac.notMem_chars (by decide) (by decide) mac, Mac.notMem_chars (by decide) (by decide) mac⟩
  have number : '(' ∉ Nat.toDigits 10 micros ∧ ')' ∉ Nat.toDigits 10 micros :=
    ⟨notMem_toDigits (by decide) micros, notMem_toDigits (by decide) micros⟩
  rw [Parts.line_eq, Parts.line_eq] at same
  obtain ⟨front, -, back⟩ := (List.append_cons_inj_of_notMem address (by
    simp [partsOf, hardware, number])).1 same.symm
  obtain ⟨inside, -, rest⟩ := (List.append_cons_inj_of_notMem hardware.2 (by
    simp [partsOf, number])).1 back
  have digits := List.append_cancel_right (List.append_cancel_left rest)
  have before := List.append_cancel_right front
  obtain ⟨address', hardware', number'⟩ := parts
  cases before
  cases inside
  cases digits
  rfl

/-- Entries with the same parts are the same. -/
lemma partsOf_injective (ip : Ipv4) : Function.Injective (partsOf ip) := by
  rintro ⟨mac, micros⟩ ⟨mac', micros'⟩ same
  obtain ⟨-, hardware, number⟩ := Parts.mk.inj same
  have macs : mac = mac' := by
    have text : mac.text = mac'.text := congrArg String.ofList hardware
    have read := mac.parse_text
    rw [text, mac'.parse_text] at read
    exact (Except.ok.inj read).symm
  have times : micros = micros' := by
    rw [← Decimal.value_toDigits micros, ← Decimal.value_toDigits micros', number]
  rw [macs, times]

/-! ## Reports -/

/-- The text is a line about the reply to a ping of the address: there is one way to split it into
parts, and they are the address, a text that is read as the hardware address of the reply, and the
numeral of its whole microseconds. -/
def Tells (ip : Ipv4) (text : List Char) (reply : Reply) : Prop :=
  ∃ parts : Parts, parts.line = text ∧ (∀ other : Parts, other.line = text → other = parts) ∧
    parts.address = ip.chars ∧ Mac.parse (String.ofList parts.hardware) = .ok reply.mac ∧
    Decimal.Numeral parts.number (reply.duration / 1000)

/-- What is printed about a reply tells it. -/
lemma tells_line (ip : Ipv4) (reply : Reply) : Tells ip (line ip reply).toList reply := by
  refine ⟨partsOf ip (entry reply), (toList_line_eq reply).symm, ?_, rfl, reply.mac.parse_text,
    Decimal.numeral_toDigits _⟩
  intro other same
  exact eq_partsOf (same.trans (toList_line_eq reply))

/-- Line by line, a report tells its replies. -/
lemma forall₂_tells (ip : Ipv4) (replies : List Reply) :
    List.Forall₂ (Tells ip) (replies.map fun reply => (line ip reply).toList) replies := by
  rw [List.forall₂_map_left_iff, List.forall₂_same]
  exact fun reply _ => tells_line ip reply

/-- The lines about replies depend only on their entries, and determine them. -/
lemma lines_inj (ip : Ipv4) {replies replies' : List Reply} :
    lines (replies.map (line ip)) = lines (replies'.map (line ip)) ↔
      replies.map entry = replies'.map entry := by
  have written (replies : List Reply) : replies.map (fun reply => (line ip reply).toList) =
      (replies.map entry).map fun reported => (partsOf ip reported).line := by
    rw [List.map_map]
    exact List.map_congr_left fun reply _ => toList_line_eq reply
  have injective : Function.Injective fun reported => (partsOf ip reported).line :=
    fun _ _ same => partsOf_injective ip (eq_partsOf same)
  constructor
  · intro same
    have fields := fields_lines_line ip replies
    rw [same, fields_lines_line, written, written] at fields
    exact (List.map_injective_iff.2 injective (List.append_cancel_right fields)).symm
  · intro same
    have texts := written replies
    rw [same, ← written] at texts
    have strings := congrArg (List.map String.ofList) texts
    simp only [List.map_map, Function.comp_def, String.ofList_toList] at strings
    exact congrArg lines strings

/-- What a report says.

The report of any list of replies has the exit status 0 and one line for each reply, in order. Each
line can be split in one way into an address, a text in parentheses and a number; these are the
address that was asked for, a text that is read as the hardware address of the reply, and the
microseconds that it took, rounded down. So two lists of replies have the same report exactly if
they agree in hardware addresses and whole microseconds. -/
theorem report_exact (ip : Ipv4) (replies : List Reply) :
    let report := ofResult ip (.ok replies)
    report.exit = some 0 ∧
      (∃ lines, Text.fields '\n' report.stdout.toList = lines ++ [[]] ∧
        List.Forall₂ (Tells ip) lines replies) ∧
      ∀ replies', report.stdout = (ofResult ip (.ok replies')).stdout ↔
        replies.map (fun reply => (reply.mac, reply.duration / 1000)) =
          replies'.map fun reply => (reply.mac, reply.duration / 1000) := by
  exact ⟨rfl, ⟨_, fields_lines_line ip replies, forall₂_tells ip replies⟩,
    fun replies' => lines_inj ip⟩

end Report

end ArpProbe
