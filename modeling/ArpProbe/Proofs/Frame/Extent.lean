import ArpProbe.Proofs.Frame.Correlation
import ArpProbe.Proofs.Frame.Windows

/-!
# How much of a frame is read

A frame is read up to the end of its message, byte 42, and no further. Frames that agree so far hold
messages that nobody can tell apart, or none (`rel_decode?_of_take_eq`), and from that `extent_exact`
draws what becomes of padding and of frames that are cut.
-/

namespace ArpProbe.Arp

variable {a b bytes : Bytes} {m n : Arp}

/-- The decoder accepts exactly the bytes that hold a message. -/
lemma exists_decode?_iff : (∃ m, decode? bytes = some m) ↔ Legible bytes := by
  rw [← Option.isSome_iff_exists, Option.isSome_iff_ne_none, Ne, decode?_eq_none_iff, not_not]

/-- Frames that agree on their first 42 bytes have the same header and the same message. -/
lemma sameText_of_take_eq (agree : a.take frameLength = b.take frameLength)
    (read : decode? a = some m) (read' : decode? b = some n) : SameText m n := by
  have frame := (decode?_eq_some_iff.1 read).2
  have frame' := (decode?_eq_some_iff.1 read').2
  have header : 0 + Ethernet.headerLength ≤ frameLength := by decide
  have message : Ethernet.headerLength + payloadLength ≤ frameLength := by decide
  constructor
  · rw [frame, frame']
    exact Bytes.take_drop_eq agree header
  · unfold payload
    rw [frame, frame']
    exact Bytes.take_drop_eq agree message

/-- Bytes behind the message make no difference to what is decoded. -/
lemma rel_decode?_of_take_eq (agree : a.take frameLength = b.take frameLength) :
    Option.Rel Alike (decode? a) (decode? b) := by
  have legible : Legible a ↔ Legible b :=
    ⟨fun legible => legible.of_take_eq agree, fun legible => legible.of_take_eq agree.symm⟩
  rw [← exists_decode?_iff, ← exists_decode?_iff] at legible
  cases read : decode? a with
  | some m =>
    obtain ⟨n, read'⟩ := legible.1 ⟨m, read⟩
    rw [read']
    exact .some (sameText_of_take_eq agree read read').alike
  | none =>
    cases read' : decode? b with
    | some n =>
      obtain ⟨m, some⟩ := legible.2 ⟨n, read'⟩
      rw [read] at some
      cases some
    | none => exact .none

/-- What stands behind a whole message does not matter. -/
lemma rel_decode?_append (whole : frameLength ≤ bytes.length) (padding : Bytes) :
    Option.Rel Alike (decode? (bytes ++ padding)) (decode? bytes) := by
  apply rel_decode?_of_take_eq
  rw [List.take_append_of_le_length whole]

/-- How much of a frame is read.

A frame holds a message exactly if it has at least 42 bytes with the right type, protocol and address
lengths at their places. Frames that agree on their first 42 bytes both hold a message or neither
does, and then all fields, the header, and the answers to and from other messages are the same. So
bytes that follow do not matter, be they the padding of a message that is written again, nor does it
matter where behind the message a frame is cut. A frame that is cut before is no message. -/
theorem extent_exact :
    (∀ bytes : Bytes, (∃ m, decode? bytes = some m) ↔
      42 ≤ bytes.length ∧ bytes.slice? 12 2 = some [0x08, 0x06] ∧
        bytes.slice? 16 2 = some [0x08, 0x00] ∧ bytes.slice? 18 1 = some [6] ∧
          bytes.slice? 19 1 = some [4]) ∧
    (∀ a b : Bytes, a.take 42 = b.take 42 → Option.Rel Alike (decode? a) (decode? b)) ∧
    (∀ bytes padding : Bytes, 42 ≤ bytes.length →
      Option.Rel Alike (decode? (bytes ++ padding)) (decode? bytes)) ∧
    (∀ bytes m, decode? bytes = some m → ∃ n, decode? m.toBytes = some n ∧ Alike n m) ∧
    (∀ (bytes : Bytes) (length : Nat), 42 ≤ length →
      Option.Rel Alike (decode? (bytes.take length)) (decode? bytes)) ∧
    (∀ (bytes : Bytes) (length : Nat), length < 42 → decode? (bytes.take length) = none ∧
      ∀ request, Inbound.classify request (bytes.take length) = .notArp) := by
  refine ⟨fun bytes => ?_, fun a b => rel_decode?_of_take_eq, fun bytes padding whole => ?_,
    fun bytes m read => ?_, fun bytes length whole => ?_, fun bytes length short => ?_⟩
  · rw [exists_decode?_iff, legible_iff_slices]
  · exact rel_decode?_append whole padding
  · obtain ⟨legible, frame⟩ := decode?_eq_some_iff.1 read
    have again := rel_decode?_append legible.whole
      (List.replicate (Ethernet.minimumLength - bytes.length) 0)
    -- written again, a message is its own frame with zeros behind it
    have written : m.toBytes =
        bytes ++ List.replicate (Ethernet.minimumLength - bytes.length) 0 := by
      unfold toBytes Ethernet.toPaddedBytes
      rw [frame]
    rw [← written, read] at again
    generalize decode? m.toBytes = reread at again
    cases again with
    | some alike => exact ⟨_, rfl, alike⟩
  · have inside : frameLength ≤ length := whole
    apply rel_decode?_of_take_eq
    rw [List.take_take, Nat.min_eq_left inside]
  · have unread : decode? (bytes.take length) = none := by
      rw [decode?_eq_none_iff]
      intro legible
      have whole := legible.whole
      rw [List.length_take] at whole
      unfold frameLength at whole
      omega
    refine ⟨unread, fun request => ?_⟩
    unfold Inbound.classify
    rw [unread]

end ArpProbe.Arp
