import ArpProbe.Proofs.Frame.Reading
import Mathlib.Data.List.SplitLengths

/-!
# Writing a frame and reading it back

The fields of a message are written into windows of its frame that follow one another without a
gap. `splitLengths_eq_iff` compares windows and fields, and gives both directions: a written message
reads back as it was, and the frames that can be written are known byte by byte (`codec_exact`).
`assemble?_eq` says that putting the fields into an empty frame one after another, each at its
place, leads to the same frame.
-/

namespace ArpProbe

namespace Bytes

/-- Parts that were put together are what windows of their lengths show. -/
lemma splitLengths_flatten (parts : List Bytes) :
    (parts.map List.length).splitLengths parts.flatten = parts := by
  induction parts with
  | nil => rfl
  | cons part parts ih =>
    rw [List.map_cons, List.splitLengths_cons, List.flatten_cons, List.take_left, List.drop_left,
      ih]

/-! ## What a window holds -/

/-- If values of a kind take `n` bytes and are written as they are read, a window of `n` bytes holds
the value that is read there. -/
lemma take_eq_iff {α : Type} {n : Nat} {write : α → Bytes} {read : Bytes → α}
    (length : ∀ value, (write value).length = n)
    (reads : ∀ value rest, read (write value ++ rest) = value)
    (writes : ∀ bytes, n ≤ bytes.length → write (read bytes) = bytes.take n)
    {bytes : Bytes} {value : α} :
    bytes.take n = write value ↔ n ≤ bytes.length ∧ read bytes = value := by
  constructor
  · intro window
    have whole : min n bytes.length = n := by
      rw [← List.length_take, window, length]
    refine ⟨by omega, ?_⟩
    rw [← List.take_append_drop n bytes, window, reads]
  · rintro ⟨whole, rfl⟩
    exact (writes bytes whole).symm

/-- A first byte of a known value is there and has that value. -/
lemma take_one_eq_iff {bytes : Bytes} {byte : UInt8} :
    bytes.take 1 = [byte] ↔ 1 ≤ bytes.length ∧ bytes.getD 0 0 = byte := by
  apply @take_eq_iff UInt8 1 (fun byte => [byte]) (fun bytes => bytes.getD 0 0)
  · exact fun _ => rfl
  · exact fun _ _ => rfl
  · intro bytes whole
    match bytes, whole with
    | _ :: _, _ => rfl

lemma take_two_eq_iff {bytes : Bytes} {w : UInt16} :
    bytes.take 2 = ofWord w ↔ 2 ≤ bytes.length ∧ word bytes = w :=
  take_eq_iff length_ofWord word_ofWord_append fun _ => ofWord_word

end Bytes

lemma Mac.take_eq_toBytes_iff {bytes : Bytes} {mac : Mac} :
    bytes.take 6 = mac.toBytes ↔ 6 ≤ bytes.length ∧ ofBytes bytes = mac := by
  apply Bytes.take_eq_iff length_toBytes ofBytes_toBytes_append
  intro bytes whole
  match bytes, whole with
  | _ :: _ :: _ :: _ :: _ :: _ :: _, _ => rfl

lemma Ipv4.take_eq_toBytes_iff {bytes : Bytes} {ip : Ipv4} :
    bytes.take 4 = ip.toBytes ↔ 4 ≤ bytes.length ∧ ofBytes bytes = ip := by
  apply Bytes.take_eq_iff length_toBytes ofBytes_toBytes_append
  intro bytes whole
  match bytes, whole with
  | _ :: _ :: _ :: _ :: _, _ => rfl

/-- The frame with bytes of its payload overwritten. -/
def Ethernet.patchPayload? (f : Ethernet) (start : Nat) (bytes : Bytes) : Option Ethernet :=
  (f.data.patch? (f.payloadOffset + start) bytes).map ({ f with data := · })

namespace Arp

/-! ## What a message is made from -/

/-- The fields that tell one message from another. -/
structure Fields where
  op : Opcode
  senderMac : Mac
  senderIp : Ipv4
  targetMac : Mac
  targetIp : Ipv4
deriving DecidableEq, Repr

/-- The bytes on the wire of the message with the given fields. -/
def Fields.toBytes (f : Fields) : Bytes :=
  (ofFields f.op f.senderMac f.senderIp f.targetMac f.targetIp).toBytes

/-- The fields of a message that is a request or a reply. -/
def fields? (m : Arp) : Option Fields :=
  m.op?.map fun op => ⟨op, m.senderMac, m.senderIp, m.targetMac, m.targetIp⟩

lemma op?_eq_some_iff {m : Arp} {op : Opcode} : m.op? = some op ↔ m.opcode = op.code := by
  rw [op?, Opcode.ofCode]
  cases op <;> split_ifs with first second <;> simp_all [Except.toOption, Opcode.code]

lemma fields?_eq_some_iff {m : Arp} {f : Fields} :
    m.fields? = some f ↔ m.opcode = f.op.code ∧ m.senderMac = f.senderMac ∧
      m.senderIp = f.senderIp ∧ m.targetMac = f.targetMac ∧ m.targetIp = f.targetIp := by
  rw [fields?, Option.map_eq_some_iff, ← op?_eq_some_iff]
  constructor
  · rintro ⟨op, known, rfl⟩
    exact ⟨known, rfl, rfl, rfl, rfl⟩
  · rintro ⟨known, senderMac, senderIp, targetMac, targetIp⟩
    exact ⟨f.op, known, by rw [senderMac, senderIp, targetMac, targetIp]⟩

/-- The zeros behind a message on the wire. -/
def padding : Bytes :=
  List.replicate (Ethernet.minimumLength - frameLength) 0

/-- What stands in the frame of a message: the header, the fixed fields with the opcode, the
addresses of the sender and of the target, and padding. -/
def Fields.parts (f : Fields) : List Bytes :=
  [f.targetMac.toBytes, f.senderMac.toBytes, Bytes.ofWord EtherType.arp, Bytes.ofWord ethernetType,
    Bytes.ofWord EtherType.ipv4, [hardwareLength], [protocolLength], Bytes.ofWord f.op.code,
    f.senderMac.toBytes, f.senderIp.toBytes, f.targetMac.toBytes, f.targetIp.toBytes, padding]

/-- The lengths of the parts of a frame. -/
def layout : List Nat := [6, 6, 2, 2, 2, 1, 1, 2, 6, 4, 6, 4, 18]

lemma map_length_parts (f : Fields) : f.parts.map List.length = layout := rfl

lemma Fields.toBytes_eq (f : Fields) : f.toBytes = f.parts.flatten := by
  rw [toBytes, Arp.toBytes, Ethernet.toPaddedBytes, ofFields, parts, padding, frameLength]
  simp

lemma Fields.length_toBytes (f : Fields) : f.toBytes.length = Ethernet.minimumLength := by
  rw [toBytes_eq, List.length_flatten, map_length_parts]
  rfl

/-- Bytes of that length are a written message exactly if they are made of its parts. -/
lemma toBytes_eq_iff {f : Fields} {bytes : Bytes} (length : bytes.length = Ethernet.minimumLength) :
    f.toBytes = bytes ↔ layout.splitLengths bytes = f.parts := by
  constructor
  · rintro rfl
    rw [f.toBytes_eq, ← map_length_parts f, Bytes.splitLengths_flatten]
  · intro windows
    rw [f.toBytes_eq, ← windows, List.flatten_splitLengths]
    rw [length]
    decide

/-! ## Windows and fields -/

/-- A hardware address in a slice is the one at its place. -/
lemma map_ofBytes_slice? {bytes : Bytes} {start : Nat} (inside : start + 6 ≤ bytes.length) :
    (bytes.slice? start 6).map Mac.ofBytes = some (Mac.ofBytes (bytes.drop start)) := by
  have cut : ((bytes.drop start).take 6).take 6 = (bytes.drop start).take 6 := by
    rw [List.take_take, Nat.min_self]
  rw [Bytes.slice?, if_pos inside, Option.map_some, Mac.ofBytes_eq_of_take_eq cut]

/-- The windows of a frame hold the parts of a message exactly if the message that is read from it
has the fields, the header says the same, and zeros follow. -/
lemma splitLengths_eq_iff {bytes : Bytes} {m : Arp} {f : Fields}
    (length : bytes.length = Ethernet.minimumLength)
    (frame : m.frame = ⟨bytes, Ethernet.headerLength⟩) :
    layout.splitLengths bytes = f.parts ↔
      Legible bytes ∧ m.hardwareType = ethernetType ∧ m.fields? = some f ∧
        m.frame.dest? = some f.targetMac ∧ m.frame.src? = some f.senderMac ∧
          bytes.drop frameLength = padding := by
  have long : bytes.length = 60 := length
  have dest : m.frame.dest? = some (Mac.ofBytes bytes) := by
    rw [Ethernet.dest?, frame, map_ofBytes_slice? (by simp [long]), List.drop_zero]
  have src : m.frame.src? = some (Mac.ofBytes (bytes.drop 6)) := by
    rw [Ethernet.src?, frame, map_ofBytes_slice? (by simp [long])]
  have start : m.payload = bytes.drop 14 := by
    rw [payload, frame]
    rfl
  have last : (bytes.drop frameLength).take 18 = bytes.drop frameLength := by
    rw [List.take_of_length_le]
    rw [List.length_drop, length]
    decide
  rw [legible_iff frame, fields?_eq_some_iff, dest, src, Option.some_inj, Option.some_inj,
    hardwareType, hardwareAddressLength, protocolAddressLength, protocolType, opcode, senderMac,
    senderIp, targetMac, targetIp, start, ← last]
  simp only [layout, Fields.parts, List.splitLengths_cons, List.splitLengths_nil, List.drop_drop,
    List.cons.injEq, Bytes.take_two_eq_iff, Bytes.take_one_eq_iff, Mac.take_eq_toBytes_iff,
    Ipv4.take_eq_toBytes_iff, Bytes.getD_drop, List.length_drop, and_true]
  constructor
  · rintro ⟨⟨-, dest⟩, ⟨-, src⟩, ⟨-, type⟩, ⟨-, hardware⟩, ⟨-, protocol⟩, ⟨-, hardwareBytes⟩,
      ⟨-, protocolBytes⟩, ⟨-, op⟩, ⟨-, senderMac⟩, ⟨-, senderIp⟩, ⟨-, targetMac⟩, ⟨-, targetIp⟩,
      left⟩
    exact ⟨⟨type, hardwareBytes, protocolBytes, protocol⟩, hardware,
      ⟨op, senderMac, senderIp, targetMac, targetIp⟩, dest, src, left⟩
  · rintro ⟨⟨type, hardwareBytes, protocolBytes, protocol⟩, hardware,
      ⟨op, senderMac, senderIp, targetMac, targetIp⟩, dest, src, left⟩
    -- every window lies inside the 42 bytes of the message
    refine ⟨⟨?_, dest⟩, ⟨?_, src⟩, ⟨?_, type⟩, ⟨?_, hardware⟩, ⟨?_, protocol⟩, ⟨?_, hardwareBytes⟩,
      ⟨?_, protocolBytes⟩, ⟨?_, op⟩, ⟨?_, senderMac⟩, ⟨?_, senderIp⟩, ⟨?_, targetMac⟩,
      ⟨?_, targetIp⟩, left⟩ <;> omega

/-! ## Both directions -/

/-- The frame has the least length, its message is a request or a reply on Ethernet between the
stations of its header, and all after it is zero. -/
structure Canonical (bytes : Bytes) (m : Arp) : Prop where
  length : bytes.length = Ethernet.minimumLength
  read : decode? bytes = some m
  ethernet : m.hardwareType = ethernetType
  known : m.op?.isSome
  dest : m.frame.dest? = some m.targetMac
  src : m.frame.src? = some m.senderMac
  zeros : ∀ byte ∈ bytes.drop frameLength, byte = 0

/-- Padding is zero bytes up to the end. -/
lemma drop_eq_padding_iff {bytes : Bytes} (length : bytes.length = Ethernet.minimumLength) :
    bytes.drop frameLength = padding ↔ ∀ byte ∈ bytes.drop frameLength, byte = 0 := by
  rw [padding, List.eq_replicate_iff, List.length_drop, length, and_iff_right rfl]

/-- A canonical frame is written again as it was. -/
lemma Canonical.toBytes_eq {bytes : Bytes} {m : Arp} {f : Fields} (canonical : Canonical bytes m)
    (fields : m.fields? = some f) : f.toBytes = bytes := by
  obtain ⟨legible, frame⟩ := decode?_eq_some_iff.1 canonical.read
  obtain ⟨-, senderMac, -, targetMac, -⟩ := fields?_eq_some_iff.1 fields
  rw [toBytes_eq_iff canonical.length, splitLengths_eq_iff canonical.length frame, ← senderMac,
    ← targetMac]
  exact ⟨legible, canonical.ethernet, fields, canonical.dest, canonical.src,
    (drop_eq_padding_iff canonical.length).2 canonical.zeros⟩

/-- What was written reads back as it was. -/
lemma exists_canonical_toBytes (f : Fields) :
    ∃ m, m.fields? = some f ∧ Canonical f.toBytes m := by
  have length := f.length_toBytes
  have whole : frameLength ≤ f.toBytes.length := by
    rw [length]
    decide
  -- the windows of a written frame are known, so all fields of the message in it are
  obtain ⟨legible, ethernet, fields, dest, src, zeros⟩ :=
    (@splitLengths_eq_iff _ ⟨⟨f.toBytes, Ethernet.headerLength⟩, whole⟩ f length rfl).1
      ((toBytes_eq_iff length).1 rfl)
  obtain ⟨op, senderMac, -, targetMac, -⟩ := fields?_eq_some_iff.1 fields
  refine ⟨_, fields, length, decode?_eq_some_iff.2 ⟨legible, rfl⟩, ethernet, ?_, ?_, ?_, ?_⟩
  · rw [op?_eq_some_iff.2 op]
    rfl
  · rw [dest, targetMac]
  · rw [src, senderMac]
  · exact (drop_eq_padding_iff length).1 zeros

lemma toBytes_injective : Function.Injective Fields.toBytes := by
  intro f g same
  obtain ⟨m, fields, canonical⟩ := exists_canonical_toBytes f
  obtain ⟨n, fields', canonical'⟩ := exists_canonical_toBytes g
  rw [← same] at canonical'
  obtain rfl : m = n := Option.some.inj (canonical.read.symm.trans canonical'.read)
  exact Option.some.inj (fields.symm.trans fields')

/-! ## One field after another -/

/-- What is written into the payload of an empty message: each field and its place. -/
def Fields.writes (f : Fields) : List (Nat × Bytes) :=
  [(0, Bytes.ofWord ethernetType), (2, Bytes.ofWord EtherType.ipv4), (4, [hardwareLength]),
    (5, [protocolLength]), (6, Bytes.ofWord f.op.code), (8, f.senderMac.toBytes),
    (14, f.senderIp.toBytes), (18, f.targetMac.toBytes), (24, f.targetIp.toBytes)]

/-- The header of a message, in an empty frame. -/
def header? (f : Fields) : Option Ethernet := do
  let frame ← Ethernet.empty.setDest? f.targetMac
  let frame ← frame.setSrc? f.senderMac
  frame.setEtherType? EtherType.arp

/-- The frame of a message as it is put together: behind the header a payload of zeros, and into it
one field after another. -/
def assemble? (f : Fields) : Option Ethernet := do
  let frame ← header? f
  f.writes.foldlM (fun frame field => frame.patchPayload? field.1 field.2)
    (frame.setPayload (List.replicate payloadLength 0))

/-- Each write starts where the one before it ends. -/
def Consecutive : Nat → List (Nat × Bytes) → Prop
  | _, [] => True
  | start, (place, bytes) :: writes => place = start ∧ Consecutive (start + bytes.length) writes

/-- Writes without gaps turn zeros into what is written, and nothing is written twice. -/
lemma foldlM_patchPayload? {writes : List (Nat × Bytes)} {start room offset : Nat} {before : Bytes}
    (place : offset + start = before.length) (consecutive : Consecutive start writes)
    (fits : (writes.flatMap Prod.snd).length ≤ room) :
    writes.foldlM (fun (frame : Ethernet) field => frame.patchPayload? field.1 field.2)
        ⟨before ++ List.replicate room 0, offset⟩ =
      some ⟨before ++ writes.flatMap Prod.snd ++
        List.replicate (room - (writes.flatMap Prod.snd).length) 0, offset⟩ := by
  induction writes generalizing start room before with
  | nil => simp
  | cons field writes ih =>
    obtain ⟨at_start, bytes⟩ := field
    obtain ⟨rfl, consecutive⟩ := consecutive
    simp only [List.flatMap_cons, List.length_append] at fits
    have inside : offset + at_start + bytes.length ≤ (before ++ List.replicate room 0).length := by
      rw [List.length_append, List.length_replicate]
      omega
    have written : Ethernet.patchPayload? ⟨before ++ List.replicate room 0, offset⟩ at_start bytes =
        some ⟨before ++ bytes ++ List.replicate (room - bytes.length) 0, offset⟩ := by
      rw [Ethernet.patchPayload?, Bytes.patch?, if_pos inside, place, List.take_left,
        ← List.drop_drop, List.drop_left, List.drop_replicate, Option.map_some]
    have next : offset + (at_start + bytes.length) = (before ++ bytes).length := by
      rw [List.length_append]
      omega
    have rest := @ih _ (room - bytes.length) _ next consecutive (by omega)
    rw [List.foldlM_cons, written, Option.bind_eq_bind, Option.bind_some, rest, List.flatMap_cons,
      List.length_append, List.append_assoc before, Nat.sub_sub]

/-- Put together field by field, a message is the same. -/
lemma assemble?_eq (f : Fields) :
    assemble? f = some (ofFields f.op f.senderMac f.senderIp f.targetMac f.targetIp).frame := by
  let header := f.targetMac.toBytes ++ f.senderMac.toBytes ++ Bytes.ofWord EtherType.arp
  have headed : header? f = some ⟨header, 14⟩ := rfl
  have blank : (⟨header, 14⟩ : Ethernet).setPayload (List.replicate payloadLength 0) =
      ⟨header ++ List.replicate payloadLength 0, 14⟩ := rfl
  have place : 14 + 0 = header.length := rfl
  have consecutive : Consecutive 0 f.writes :=
    ⟨rfl, rfl, rfl, rfl, rfl, rfl, rfl, rfl, rfl, trivial⟩
  have length : (f.writes.flatMap Prod.snd).length = payloadLength := rfl
  rw [assemble?, headed, Option.bind_eq_bind, Option.bind_some, blank,
    foldlM_patchPayload? place consecutive (Nat.le_of_eq length), length, Nat.sub_self]
  simp [Fields.writes, ofFields, Ethernet.headerLength, header]

/-- The exact codec of messages.

A message of any fields, put together field by field and padded, is read as a message with the same
fields, between the same stations in its header, and with the fixed fields of ARP over Ethernet.
Conversely, a frame is that of some message exactly if it is 60 bytes long and holds a message on
Ethernet that is a request or a reply, names the same stations in its header and is followed by
zeros. Then it is the frame of one message only, whose fields are those that are read. -/
theorem codec_exact :
    (∀ f : Fields, (assemble? f).map Ethernet.toPaddedBytes = some f.toBytes ∧
      ∃ m, decode? f.toBytes = some m ∧ m.op? = some f.op ∧
        m.senderMac = f.senderMac ∧ m.senderIp = f.senderIp ∧
        m.targetMac = f.targetMac ∧ m.targetIp = f.targetIp ∧
        m.frame.dest? = some f.targetMac ∧ m.frame.src? = some f.senderMac ∧
        m.hardwareType = 1 ∧ m.protocolType = 0x0800 ∧
        m.hardwareAddressLength = 6 ∧ m.protocolAddressLength = 4) ∧
    (∀ bytes : Bytes, (∃ f : Fields, f.toBytes = bytes) ↔ ∃ m, Canonical bytes m) ∧
    (∀ bytes m, Canonical bytes m →
      ∃ f : Fields, m.fields? = some f ∧ f.toBytes = bytes ∧
        ∀ g : Fields, g.toBytes = bytes → g = f) := by
  refine ⟨fun f => ⟨?_, ?_⟩, fun bytes => ⟨?_, ?_⟩, fun bytes m canonical => ?_⟩
  · rw [assemble?_eq]
    rfl
  · obtain ⟨m, fields, canonical⟩ := exists_canonical_toBytes f
    obtain ⟨legible, frame⟩ := decode?_eq_some_iff.1 canonical.read
    obtain ⟨-, hardware, network, protocol⟩ := (legible_iff frame).1 legible
    obtain ⟨op, senderMac, senderIp, targetMac, targetIp⟩ := fields?_eq_some_iff.1 fields
    exact ⟨m, canonical.read, op?_eq_some_iff.2 op, senderMac, senderIp, targetMac, targetIp,
      targetMac ▸ canonical.dest, senderMac ▸ canonical.src, canonical.ethernet, protocol,
      hardware, network⟩
  · rintro ⟨f, rfl⟩
    obtain ⟨m, -, canonical⟩ := exists_canonical_toBytes f
    exact ⟨m, canonical⟩
  · rintro ⟨m, canonical⟩
    obtain ⟨op, known⟩ := Option.isSome_iff_exists.1 canonical.known
    exact ⟨_, canonical.toBytes_eq (by rw [fields?, known]; rfl)⟩
  · obtain ⟨op, known⟩ := Option.isSome_iff_exists.1 canonical.known
    have fields : m.fields? = some ⟨op, m.senderMac, m.senderIp, m.targetMac, m.targetIp⟩ := by
      rw [fields?, known]
      rfl
    have written := canonical.toBytes_eq fields
    exact ⟨_, fields, written, fun g same => toBytes_injective (same.trans written.symm)⟩

end Arp

end ArpProbe
