import ArpProbe.Ping
import Mathlib.Tactic.Lemma
import Mathlib.Tactic.SplitIfs

/-!
# Reading a frame

A message is read from the first 42 bytes of its frame, and what follows them is never looked at:
`decode?_eq_some_iff` says which bytes are read, and `reply?_classify_of_take_eq` that frames which
agree on their first 42 bytes mean the same for every request.
-/

namespace ArpProbe

/-! ## Windows on bytes -/

namespace Bytes

variable {a b : Bytes} {start length n : Nat}

/-- Bytes that agree up to a place agree on every window that ends before it. -/
lemma take_drop_eq (agree : a.take n = b.take n) (inside : start + length ≤ n) :
    (a.drop start).take length = (b.drop start).take length := by
  have within : length = min length (n - start) := by omega
  rw [within, ← List.take_take, ← List.drop_take, agree, List.drop_take, List.take_take]

/-- Bytes that agree up to a place agree on each byte before it. -/
lemma getD_eq_of_take_eq {i : Nat} (agree : a.take n = b.take n) (inside : i < n) :
    a.getD i 0 = b.getD i 0 := by
  rw [List.getD_eq_getElem?_getD, List.getD_eq_getElem?_getD, ← List.getElem?_take_of_lt inside,
    agree, List.getElem?_take_of_lt inside]

lemma getD_drop (bytes : Bytes) (start i : Nat) :
    (bytes.drop start).getD i 0 = bytes.getD (start + i) 0 := by
  rw [List.getD_eq_getElem?_getD, List.getElem?_drop, List.getD_eq_getElem?_getD]

lemma word_eq_of_take_eq (agree : a.take 2 = b.take 2) : word a = word b := by
  rw [word, word, getD_eq_of_take_eq agree (by omega), getD_eq_of_take_eq agree (by omega)]

end Bytes

/-- A hardware address is read from the first six bytes alone. -/
lemma Mac.ofBytes_eq_of_take_eq {a b : Bytes} (agree : a.take 6 = b.take 6) :
    ofBytes a = ofBytes b := by
  have byte (i : Nat) (inside : i < 6) : a.getD i 0 = b.getD i 0 :=
    Bytes.getD_eq_of_take_eq agree inside
  rw [ofBytes, ofBytes, byte 0, byte 1, byte 2, byte 3, byte 4, byte 5] <;> omega

lemma Ipv4.ofBytes_eq_of_take_eq {a b : Bytes} (agree : a.take 4 = b.take 4) :
    ofBytes a = ofBytes b := by
  have byte (i : Nat) (inside : i < 4) : a.getD i 0 = b.getD i 0 :=
    Bytes.getD_eq_of_take_eq agree inside
  rw [ofBytes, ofBytes, byte 0, byte 1, byte 2, byte 3] <;> omega

namespace Arp

/-! ## Fields -/

section

variable {m n : Arp} (agree : m.payload.take payloadLength = n.payload.take payloadLength)

include agree

lemma opcode_eq_of_agree : m.opcode = n.opcode :=
  Bytes.word_eq_of_take_eq (Bytes.take_drop_eq agree (by decide))

lemma senderMac_eq_of_agree : m.senderMac = n.senderMac :=
  Mac.ofBytes_eq_of_take_eq (Bytes.take_drop_eq agree (by decide))

lemma senderIp_eq_of_agree : m.senderIp = n.senderIp :=
  Ipv4.ofBytes_eq_of_take_eq (Bytes.take_drop_eq agree (by decide))

lemma targetIp_eq_of_agree : m.targetIp = n.targetIp :=
  Ipv4.ofBytes_eq_of_take_eq (Bytes.take_drop_eq agree (by decide))

/-- Messages of the same text answer the same requests. -/
lemma isResponseOf_eq_of_agree (request : Arp) : m.isResponseOf request = n.isResponseOf request := by
  rw [isResponseOf, isResponseOf, op?, op?, opcode_eq_of_agree agree, senderIp_eq_of_agree agree,
    targetIp_eq_of_agree agree]

end

/-! ## Messages in frames -/

/-- A frame with a header has its type at the end of it. -/
lemma etherType?_eq {f : Ethernet} (header : Ethernet.headerLength ≤ f.data.length) :
    f.etherType? = some (Bytes.word (f.data.drop 12)) := by
  have whole : 12 + 2 ≤ f.data.length := header
  have cut : ((f.data.drop 12).take 2).take 2 = (f.data.drop 12).take 2 := by
    rw [List.take_take, Nat.min_self]
  rw [Ethernet.etherType?, Bytes.slice?, if_pos whole, Option.map_some,
    Bytes.word_eq_of_take_eq cut]

/-- With a header and a payload, a frame is checked from the front: its type, the length of its
payload, and then the fixed fields of the message. -/
lemma ofEthernet?_eq {f : Ethernet} (header : Ethernet.headerLength ≤ f.data.length)
    (inside : f.payloadOffset ≤ f.data.length) :
    ofEthernet? f = some (
      if Bytes.word (f.data.drop 12) ≠ EtherType.arp then .error .notArp
      else if fits : f.payloadOffset + payloadLength ≤ f.data.length then check ⟨f, fits⟩
      else .error .payloadTooShort) := by
  rw [ofEthernet?, etherType?_eq header, Ethernet.payload?, if_pos inside]
  simp only [Option.bind_eq_bind, Option.bind_some, Option.pure_def]
  split_ifs <;> rfl

/-- The bytes hold a whole message about IPv4 addresses on Ethernet. -/
structure Legible (bytes : Bytes) : Prop where
  whole : frameLength ≤ bytes.length
  type : Bytes.word (bytes.drop 12) = EtherType.arp
  protocol : Bytes.word (bytes.drop 16) = EtherType.ipv4
  hardware : bytes.getD 18 0 = hardwareLength
  network : bytes.getD 19 0 = protocolLength

lemma check_eq_ok_iff {m n : Arp} : m.check = .ok n ↔
    (m.hardwareAddressLength = hardwareLength ∧ m.protocolAddressLength = protocolLength ∧
      m.protocolType = EtherType.ipv4) ∧ m = n := by
  rw [check]
  split_ifs with lengths protocol <;> grind

/-- Behind an Ethernet header, the fixed fields are the bytes at their places in the frame. -/
lemma legible_iff {bytes : Bytes} {m : Arp} (frame : m.frame = ⟨bytes, Ethernet.headerLength⟩) :
    Legible bytes ↔ Bytes.word (bytes.drop 12) = EtherType.arp ∧
      m.hardwareAddressLength = hardwareLength ∧ m.protocolAddressLength = protocolLength ∧
        m.protocolType = EtherType.ipv4 := by
  have whole := m.fits
  rw [frame] at whole
  have start : m.payload = bytes.drop Ethernet.headerLength := by rw [payload, frame]
  rw [hardwareAddressLength, protocolAddressLength, protocolType, start, Bytes.getD_drop,
    Bytes.getD_drop, List.drop_drop]
  exact ⟨fun legible => ⟨legible.type, legible.hardware, legible.network, legible.protocol⟩,
    fun fields => ⟨whole, fields.1, fields.2.2.2, fields.2.1, fields.2.2.1⟩⟩

/-- The message in a frame is read exactly if it is whole and its fixed fields are right. -/
lemma decode?_eq_some_iff {bytes : Bytes} {m : Arp} :
    decode? bytes = some m ↔ Legible bytes ∧ m.frame = ⟨bytes, Ethernet.headerLength⟩ := by
  -- without a whole header there is no frame, and with one the checks go through it from the front
  by_cases header : bytes.length < Ethernet.headerLength
  · have short : ¬ Legible bytes := by
      intro legible
      have whole := legible.whole
      simp only [frameLength, Ethernet.headerLength] at whole header
      omega
    rw [decode?, Ethernet.ofBytes, if_pos header]
    simp [Except.toOption, short]
  · rw [Nat.not_lt] at header
    have read := @ofEthernet?_eq ⟨bytes, Ethernet.headerLength⟩ header header
    rw [decode?, Ethernet.ofBytes, if_neg (Nat.not_lt.2 header)]
    simp only [Except.toOption, Option.bind_eq_bind, Option.bind_some, read]
    split_ifs with type whole
    · have unread : ¬ Legible bytes := fun legible => type legible.type
      simp [unread]
    · have fields := check_eq_ok_iff (m := ⟨⟨bytes, Ethernet.headerLength⟩, whole⟩) (n := m)
      have same : (⟨⟨bytes, Ethernet.headerLength⟩, whole⟩ : Arp) = m ↔
          m.frame = ⟨bytes, Ethernet.headerLength⟩ :=
        ⟨fun same => same ▸ rfl, fun frame => by cases m; cases frame; rfl⟩
      rw [Decidable.not_not] at type
      rw [@legible_iff bytes ⟨⟨bytes, Ethernet.headerLength⟩, whole⟩ rfl, and_iff_right type, ← same,
        ← fields]
      split <;> simp_all
    · have unread : ¬ Legible bytes := fun legible => whole legible.whole
      simp [unread]

/-! ## Frames that agree on the message -/

section

variable {a b : Bytes} (agree : a.take frameLength = b.take frameLength)

include agree

/-- Whether bytes hold a message depends on the first 42 of them. -/
lemma Legible.of_take_eq (legible : Legible a) : Legible b where
  whole := by
    have whole := legible.whole
    have lengths := congrArg List.length agree
    rw [List.length_take, List.length_take] at lengths
    omega
  type := by
    rw [← legible.type]
    exact Bytes.word_eq_of_take_eq (Bytes.take_drop_eq agree.symm (by decide))
  protocol := by
    rw [← legible.protocol]
    exact Bytes.word_eq_of_take_eq (Bytes.take_drop_eq agree.symm (by decide))
  hardware := by
    rw [← legible.hardware]
    exact Bytes.getD_eq_of_take_eq agree.symm (by decide)
  network := by
    rw [← legible.network]
    exact Bytes.getD_eq_of_take_eq agree.symm (by decide)

/-- Bytes that agree on the first 42 are both decoded, to the same text. -/
lemma exists_decode?_of_take_eq {m : Arp} (read : decode? a = some m) :
    ∃ n, decode? b = some n ∧ m.payload.take payloadLength = n.payload.take payloadLength := by
  obtain ⟨legible, frame⟩ := decode?_eq_some_iff.1 read
  have legible' := legible.of_take_eq agree
  refine ⟨⟨⟨b, Ethernet.headerLength⟩, legible'.whole⟩, decode?_eq_some_iff.2 ⟨legible', rfl⟩, ?_⟩
  have inside : Ethernet.headerLength + payloadLength ≤ frameLength := by decide
  rw [payload, payload, frame]
  exact Bytes.take_drop_eq agree inside

end

end Arp

/-- Frames that agree on their first 42 bytes are the same answer, or none, to every request. -/
lemma Inbound.reply?_classify_of_take_eq {request : Arp} {a b : Bytes}
    (agree : a.take Arp.frameLength = b.take Arp.frameLength) (duration : Nat) :
    (classify request a).reply? duration = (classify request b).reply? duration := by
  cases read : Arp.decode? a with
  | some m =>
    obtain ⟨n, read', same⟩ := Arp.exists_decode?_of_take_eq agree read
    rw [classify, classify, read, read']
    simp only [Arp.isResponseOf_eq_of_agree same]
    split_ifs with answers
    · rw [reply?, reply?, Arp.senderMac_eq_of_agree same]
    · rfl
  | none =>
    -- agreement goes both ways, so the other frame is not read either
    have read' : Arp.decode? b = none := by
      rw [Option.eq_none_iff_forall_ne_some]
      intro n some
      obtain ⟨m, some, -⟩ := Arp.exists_decode?_of_take_eq agree.symm some
      rw [read] at some
      cases some
    rw [classify, classify, read, read']

/-- What is cut off behind the message does not matter. -/
lemma Inbound.reply?_classify_take {request : Arp} {n : Nat} (whole : Arp.frameLength ≤ n)
    (bytes : Bytes) (duration : Nat) :
    (classify request (bytes.take n)).reply? duration =
      (classify request bytes).reply? duration := by
  apply reply?_classify_of_take_eq
  rw [List.take_take, Nat.min_eq_left whole]

end ArpProbe
