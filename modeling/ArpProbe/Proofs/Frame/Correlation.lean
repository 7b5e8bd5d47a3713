import ArpProbe.Proofs.Call.Watching
import ArpProbe.Proofs.Frame.RoundTrip

/-!
# Which frames answer a request

Whether a frame answers a request is read off seven windows of its bytes, which `Arp.Answers` lists:
the types and lengths that make it an ARP message, the opcode, and the two protocol addresses.
`correlation_exact` says that nothing else counts, and that no frame that goes out in a ping or an
announcement is ever taken for an answer.
-/

namespace ArpProbe

namespace Bytes

variable {bytes window : Bytes} {start length : Nat}

lemma slice?_eq_some_iff :
    bytes.slice? start length = some window ↔
      start + length ≤ bytes.length ∧ (bytes.drop start).take length = window := by
  unfold slice?
  split_ifs with inside
  · simp [inside]
  · simp [inside]

/-- A value that is written as it is read stands in a window exactly if it is read there. -/
lemma slice?_eq_some_iff_read {P : Prop}
    (reads : (bytes.drop start).take length = window ↔ length ≤ (bytes.drop start).length ∧ P)
    (inside : start + length ≤ bytes.length) : bytes.slice? start length = some window ↔ P := by
  have long : length ≤ (bytes.drop start).length := by
    rw [List.length_drop]
    omega
  rw [slice?_eq_some_iff, and_iff_right inside, reads, and_iff_right long]

/-- Two bytes of a slice are a word in network order. -/
lemma slice?_eq_ofWord_iff {w : UInt16} (inside : start + 2 ≤ bytes.length) :
    bytes.slice? start 2 = some (ofWord w) ↔ word (bytes.drop start) = w :=
  slice?_eq_some_iff_read take_two_eq_iff inside

end Bytes

namespace Arp

/-! ## Answers, byte by byte -/

/-- The bytes are an answer to the question of `src` who has `dst`: a whole ARP message about IPv4
addresses on Ethernet, a reply from `dst` to `src`. -/
structure Answers (src dst : Ipv4) (bytes : Bytes) : Prop where
  whole : 42 ≤ bytes.length
  type : bytes.slice? 12 2 = some [0x08, 0x06]
  protocol : bytes.slice? 16 2 = some [0x08, 0x00]
  hardwareLength : bytes.slice? 18 1 = some [6]
  protocolLength : bytes.slice? 19 1 = some [4]
  reply : bytes.slice? 20 2 = some [0x00, 0x02]
  sender : bytes.slice? 28 4 = some dst.toBytes
  target : bytes.slice? 38 4 = some src.toBytes

/-- The windows of a frame that an answer is known by: where they start and how long they are. -/
def examined : List (Nat × Nat) :=
  [(12, 2), (16, 2), (18, 1), (19, 1), (20, 2), (28, 4), (38, 4)]

/-- Frames of which both or neither reach to the end of a message, and then with the same bytes in
every window that is examined. -/
def Agree (a b : Bytes) : Prop :=
  ∀ window ∈ examined, a.slice? window.1 window.2 = b.slice? window.1 window.2

variable {bytes : Bytes} {m : Arp} {mac : Mac} {src dst : Ipv4}

/-- Whether bytes hold a message is settled by their length and four slices. -/
lemma legible_iff_slices :
    Legible bytes ↔ 42 ≤ bytes.length ∧ bytes.slice? 12 2 = some [0x08, 0x06] ∧
      bytes.slice? 16 2 = some [0x08, 0x00] ∧ bytes.slice? 18 1 = some [6] ∧
        bytes.slice? 19 1 = some [4] := by
  by_cases whole : 42 ≤ bytes.length
  · have arp : [0x08, 0x06] = Bytes.ofWord EtherType.arp := rfl
    have ipv4 : [0x08, 0x00] = Bytes.ofWord EtherType.ipv4 := rfl
    have hardware : bytes.slice? 18 1 = some [6] ↔ (bytes.drop 18).getD 0 0 = hardwareLength :=
      Bytes.slice?_eq_some_iff_read Bytes.take_one_eq_iff (by omega)
    have network : bytes.slice? 19 1 = some [4] ↔ (bytes.drop 19).getD 0 0 = protocolLength :=
      Bytes.slice?_eq_some_iff_read Bytes.take_one_eq_iff (by omega)
    rw [arp, ipv4, Bytes.slice?_eq_ofWord_iff (by omega), Bytes.slice?_eq_ofWord_iff (by omega),
      hardware, network, Bytes.getD_drop, Bytes.getD_drop]
    exact ⟨fun legible =>
        ⟨whole, legible.type, legible.protocol, legible.hardware, legible.network⟩,
      fun fields => ⟨whole, fields.2.1, fields.2.2.1, fields.2.2.2.1, fields.2.2.2.2⟩⟩
  · exact iff_of_false (fun legible => whole legible.whole) (fun fields => whole fields.1)

/-- The fields of a message behind an Ethernet header, by their places in the frame. -/
lemma fields_eq_of_frame (frame : m.frame = ⟨bytes, Ethernet.headerLength⟩) :
    m.opcode = Bytes.word (bytes.drop 20) ∧ m.senderMac = Mac.ofBytes (bytes.drop 22) ∧
      m.senderIp = Ipv4.ofBytes (bytes.drop 28) ∧ m.targetIp = Ipv4.ofBytes (bytes.drop 38) := by
  have start : m.payload = bytes.drop 14 := by
    rw [payload, frame]
    rfl
  rw [opcode, senderMac, senderIp, targetIp, start, List.drop_drop, List.drop_drop, List.drop_drop,
    List.drop_drop]
  exact ⟨rfl, rfl, rfl, rfl⟩

/-- What a request asks for is at the end of its frame. -/
lemma targetIp_request : (Arp.request mac src dst).targetIp = dst := by
  have last : (Arp.request mac src dst).payload.drop 24 = dst.toBytes := rfl
  rw [targetIp, last, Ipv4.ofBytes_toBytes]

lemma senderIp_request : (Arp.request mac src dst).senderIp = src := by
  have last : (Arp.request mac src dst).payload.drop 14 =
      src.toBytes ++ (Mac.broadcast.toBytes ++ dst.toBytes) := rfl
  rw [senderIp, last, Ipv4.ofBytes_toBytes_append]

/-- A response is a reply from the address that was asked for to the one that asked. -/
lemma isResponseOf_request_iff : m.isResponseOf (.request mac src dst) = true ↔
    m.opcode = Opcode.reply.code ∧ m.senderIp = dst ∧ m.targetIp = src := by
  rw [isResponseOf, targetIp_request, senderIp_request, Bool.and_eq_true, Bool.and_eq_true,
    beq_iff_eq, beq_iff_eq, beq_iff_eq, op?_eq_some_iff, and_assoc]

/-- A message that was read answers a request exactly if the bytes of its frame do. -/
lemma answers_iff (mac : Mac) (read : decode? bytes = some m) :
    Answers src dst bytes ↔ m.isResponseOf (.request mac src dst) = true := by
  obtain ⟨legible, frame⟩ := decode?_eq_some_iff.1 read
  obtain ⟨whole, type, protocol, hardware, network⟩ := legible_iff_slices.1 legible
  obtain ⟨opcode, -, senderIp, targetIp⟩ := fields_eq_of_frame frame
  have reply : bytes.slice? 20 2 = some [0x00, 0x02] ↔
      Bytes.word (bytes.drop 20) = Opcode.reply.code := by
    have written : [0x00, 0x02] = Bytes.ofWord Opcode.reply.code := rfl
    rw [written, Bytes.slice?_eq_ofWord_iff (by omega)]
  have sender : bytes.slice? 28 4 = some dst.toBytes ↔ Ipv4.ofBytes (bytes.drop 28) = dst :=
    Bytes.slice?_eq_some_iff_read Ipv4.take_eq_toBytes_iff (by omega)
  have target : bytes.slice? 38 4 = some src.toBytes ↔ Ipv4.ofBytes (bytes.drop 38) = src :=
    Bytes.slice?_eq_some_iff_read Ipv4.take_eq_toBytes_iff (by omega)
  rw [isResponseOf_request_iff, opcode, senderIp, targetIp, ← reply, ← sender, ← target]
  exact ⟨fun answers => ⟨answers.reply, answers.sender, answers.target⟩,
    fun fields => ⟨whole, type, protocol, hardware, network, fields.1, fields.2.1, fields.2.2⟩⟩

lemma Answers.legible (answers : Answers src dst bytes) : Legible bytes :=
  legible_iff_slices.2 ⟨answers.whole, answers.type, answers.protocol, answers.hardwareLength,
    answers.protocolLength⟩

lemma decode?_eq_none_iff : decode? bytes = none ↔ ¬ Legible bytes := by
  constructor
  · intro unread legible
    have read : decode? bytes = some ⟨⟨bytes, Ethernet.headerLength⟩, legible.whole⟩ :=
      decode?_eq_some_iff.2 ⟨legible, rfl⟩
    rw [unread] at read
    cases read
  · intro illegible
    rw [Option.eq_none_iff_forall_ne_some]
    intro m read
    exact illegible (decode?_eq_some_iff.1 read).1

/-! ## Frames that agree -/

section

variable {a b : Bytes} (agree : Agree a b)

include agree

/-- If one of the frames reaches to the end of a message, the other does. -/
lemma Agree.whole (whole : 42 ≤ a.length) : 42 ≤ b.length := by
  have last : a.slice? 38 4 = b.slice? 38 4 := agree (38, 4) (by decide)
  rw [Bytes.slice?_eq_some_iff.2 ⟨whole, rfl⟩] at last
  exact (Bytes.slice?_eq_some_iff.1 last.symm).1

lemma Agree.symm : Agree b a :=
  fun window member => (agree window member).symm

lemma Legible.of_agree (legible : Legible a) : Legible b := by
  obtain ⟨whole, type, protocol, hardware, network⟩ := legible_iff_slices.1 legible
  rw [agree (12, 2) (by decide)] at type
  rw [agree (16, 2) (by decide)] at protocol
  rw [agree (18, 1) (by decide)] at hardware
  rw [agree (19, 1) (by decide)] at network
  exact legible_iff_slices.2 ⟨agree.whole whole, type, protocol, hardware, network⟩

lemma Answers.of_agree (answers : Answers src dst a) : Answers src dst b := by
  obtain ⟨whole, type, protocol, hardware, network⟩ :=
    legible_iff_slices.1 (answers.legible.of_agree agree)
  have reply := answers.reply
  have sender := answers.sender
  have target := answers.target
  rw [agree (20, 2) (by decide)] at reply
  rw [agree (28, 4) (by decide)] at sender
  rw [agree (38, 4) (by decide)] at target
  exact ⟨whole, type, protocol, hardware, network, reply, sender, target⟩

end

end Arp

/-! ## The verdict on a frame -/

namespace Inbound

/-- What a frame is found to be. -/
inductive Kind
  | reply
  | unrelated
  | notArp
deriving DecidableEq, Repr

def kind : Inbound → Kind
  | .reply _ => .reply
  | .unrelated _ => .unrelated
  | .notArp => .notArp

variable {bytes : Bytes} (mac : Mac) {src dst : Ipv4}

/-- A frame counts as a reply exactly if its bytes are an answer. -/
lemma kind_classify_eq_reply_iff :
    (classify (.request mac src dst) bytes).kind = .reply ↔ Arp.Answers src dst bytes := by
  cases read : Arp.decode? bytes with
  | none =>
    have illegible := Arp.decode?_eq_none_iff.1 read
    rw [classify, read]
    exact iff_of_false (by rintro ⟨⟩) fun answers => illegible answers.legible
  | some m =>
    rw [Arp.answers_iff mac read, classify, read]
    simp only
    split_ifs with answers
    · exact iff_of_true rfl answers
    · exact iff_of_false (by rintro ⟨⟩) answers

lemma kind_classify_eq_notArp_iff (request : Arp) :
    (classify request bytes).kind = .notArp ↔ Arp.decode? bytes = none := by
  cases read : Arp.decode? bytes with
  | none =>
    rw [classify, read]
    exact iff_of_true rfl rfl
  | some m =>
    rw [classify, read]
    simp only
    split_ifs <;> exact iff_of_false (by rintro ⟨⟩) (by rintro ⟨⟩)

lemma kind_classify_eq_unrelated_iff :
    (classify (.request mac src dst) bytes).kind = .unrelated ↔
      Arp.decode? bytes ≠ none ∧ ¬ Arp.Answers src dst bytes := by
  rw [Ne, ← kind_classify_eq_notArp_iff (.request mac src dst),
    ← kind_classify_eq_reply_iff mac]
  cases (classify (.request mac src dst) bytes).kind <;> simp

/-- The hardware address that is reported stands behind the opcode. -/
lemma slice?_senderMac_of_reply {request m : Arp} (answers : classify request bytes = .reply m) :
    bytes.slice? 22 6 = some m.senderMac.toBytes := by
  unfold classify at answers
  cases read : Arp.decode? bytes with
  | none => simp [read] at answers
  | some read' =>
    simp only [read] at answers
    split_ifs at answers with responds
    obtain rfl : read' = m := Inbound.reply.inj answers
    obtain ⟨legible, frame⟩ := Arp.decode?_eq_some_iff.1 read
    obtain ⟨-, senderMac, -⟩ := Arp.fields_eq_of_frame frame
    have whole : 42 ≤ bytes.length := legible.whole
    rw [Bytes.slice?_eq_some_iff_read Mac.take_eq_toBytes_iff (by omega), senderMac]

/-- The verdict is the same on frames that agree where they are examined. -/
lemma kind_classify_eq_of_agree {a b : Bytes} (agree : Arp.Agree a b) :
    (classify (.request mac src dst) a).kind = (classify (.request mac src dst) b).kind := by
  have legible : Arp.Legible a ↔ Arp.Legible b :=
    ⟨fun legible => legible.of_agree agree, fun legible => legible.of_agree agree.symm⟩
  have answers : Arp.Answers src dst a ↔ Arp.Answers src dst b :=
    ⟨fun answers => answers.of_agree agree, fun answers => answers.of_agree agree.symm⟩
  have unread : Arp.decode? a = none ↔ Arp.decode? b = none := by
    rw [Arp.decode?_eq_none_iff, Arp.decode?_eq_none_iff, legible]
  cases found : (classify (.request mac src dst) b).kind with
  | reply => rwa [kind_classify_eq_reply_iff, answers, ← kind_classify_eq_reply_iff mac]
  | unrelated =>
    rwa [kind_classify_eq_unrelated_iff, answers, Ne, unread, ← Ne,
      ← kind_classify_eq_unrelated_iff mac]
  | notArp =>
    rwa [kind_classify_eq_notArp_iff, unread,
      ← kind_classify_eq_notArp_iff (.request mac src dst)]

/-- The frame is a message, but answers nobody's question. -/
def Unanswering (frame : Bytes) : Prop :=
  ∀ (mac : Mac) (src dst : Ipv4), (classify (.request mac src dst) frame).kind = .unrelated

/-- A request answers nobody, whoever sends it. -/
lemma unanswering_request (mac' : Mac) (src' dst' : Ipv4) :
    Unanswering (Arp.request mac' src' dst').toBytes := by
  intro mac src dst
  obtain ⟨m, fields, canonical⟩ :=
    Arp.exists_canonical_toBytes ⟨.request, mac', src', .broadcast, dst'⟩
  obtain ⟨opcode, -⟩ := Arp.fields?_eq_some_iff.1 fields
  have read : Arp.decode? (Arp.request mac' src' dst').toBytes = some m := canonical.read
  have question : Opcode.request.code ≠ Opcode.reply.code := by decide
  rw [kind_classify_eq_unrelated_iff, Arp.answers_iff mac read, read,
    Arp.isResponseOf_request_iff, opcode]
  exact ⟨nofun, fun answers => question answers.1⟩

end Inbound

/-- The exact correlation of frames with a request.

A frame answers the question of `src` who has `dst` exactly if it is at least 42 bytes long and has
the ARP type, the protocol type IPv4, the address lengths 6 and 4, the opcode of a reply, the sender
`dst` and the target `src` at their places; the hardware address reported then stands in the six
bytes from 22 on. A frame is no ARP message exactly if it cannot be read, and unrelated otherwise.
Frames that agree on the windows of these fields are found to be the same, whatever else they hold.

No frame that a ping or an announcement sends, over whatever link and from whatever addresses, is an
answer to any question. -/
theorem correlation_exact :
    (∀ (mac : Mac) (src dst : Ipv4) (bytes : Bytes),
      let verdict := Inbound.classify (.request mac src dst) bytes
      (verdict.kind = .reply ↔ Arp.Answers src dst bytes) ∧
      (∀ m, verdict = .reply m → bytes.slice? 22 6 = some m.senderMac.toBytes) ∧
      (verdict.kind = .notArp ↔ Arp.decode? bytes = none) ∧
      (verdict.kind = .unrelated ↔
        Arp.decode? bytes ≠ none ∧ ¬ Arp.Answers src dst bytes) ∧
      (∀ other, Arp.Agree bytes other →
        verdict.kind = (Inbound.classify (.request mac src dst) other).kind)) ∧
    (∀ (σ : Type) (link : Link σ) (host : List Interface) (config : Config) (route : Route)
      (ip : Ip) (start : Nat) (s : σ),
      (ping link.watched host config route ip start (s, [])).Sends
        (ping link host config route ip start s) Inbound.Unanswering ∧
      (announce link.watched host route ip (s, [])).Sends
        (announce link host route ip s) Inbound.Unanswering) := by
  refine ⟨fun mac src dst bytes => ?_, fun σ link host config route ip start s => ?_⟩
  · exact ⟨Inbound.kind_classify_eq_reply_iff mac, fun m => Inbound.slice?_senderMac_of_reply,
      Inbound.kind_classify_eq_notArp_iff _, Inbound.kind_classify_eq_unrelated_iff mac,
      fun other => Inbound.kind_classify_eq_of_agree mac⟩
  · constructor
    · apply (ping_watched link host config route ip start s).mono
      rintro _ ⟨dst, _, -, -, mac, src, -, rfl⟩
      exact Inbound.unanswering_request mac src dst
    · apply (announce_watched link host route ip s).mono
      rintro _ ⟨src, _, -, -, mac, -, rfl⟩
      exact Inbound.unanswering_request mac src src

end ArpProbe
