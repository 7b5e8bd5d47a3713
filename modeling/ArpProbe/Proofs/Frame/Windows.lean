import ArpProbe.Frame.Window
import ArpProbe.Proofs.Frame.RoundTrip

/-!
# Messages at any place

A message that was found whole shows all of its fields through their windows (`reading?_frame`), and
no other bytes count: messages of the same text behind the same header have the same reading
(`SameText.reading_eq`). So the place of the payload does not matter. `examine?_eq` says that reading a
frame looks at nothing outside it, and `moved_exact` that a message at any place is the one in the
frame where it is put behind the header.
-/

namespace ArpProbe

/-! ## What a window is worth -/

namespace Bytes

lemma getD_take (bytes : Bytes) : (bytes.take 1).getD 0 0 = bytes.getD 0 0 := by
  apply getD_eq_of_take_eq (n := 1) _ (by decide)
  rw [List.take_take, Nat.min_self]

lemma word_take (bytes : Bytes) : word (bytes.take 2) = word bytes := by
  apply word_eq_of_take_eq
  rw [List.take_take, Nat.min_self]

/-- Bytes that agree up to a place show the same through every window that ends before it. -/
lemma slice?_eq_of_take_eq {a b : Bytes} {start length n : Nat} (agree : a.take n = b.take n)
    (inside : start + length ≤ n) : a.slice? start length = b.slice? start length := by
  have lengths := congrArg List.length agree
  rw [List.length_take, List.length_take] at lengths
  unfold slice?
  by_cases whole : start + length ≤ a.length
  · rw [if_pos whole, if_pos (by omega), take_drop_eq agree inside]
  · rw [if_neg whole, if_neg (by omega)]

end Bytes

lemma Mac.ofBytes_take (bytes : Bytes) : ofBytes (bytes.take 6) = ofBytes bytes := by
  apply ofBytes_eq_of_take_eq
  rw [List.take_take, Nat.min_self]

lemma Ipv4.ofBytes_take (bytes : Bytes) : ofBytes (bytes.take 4) = ofBytes bytes := by
  apply ofBytes_eq_of_take_eq
  rw [List.take_take, Nat.min_self]

lemma Ipv4.toBytes_inj {a b : Ipv4} : a.toBytes = b.toBytes ↔ a = b := by
  constructor
  · intro same
    rw [← ofBytes_toBytes a, same, ofBytes_toBytes]
  · intro same
    rw [same]

lemma Ipv4.toBytes_beq (a b : Ipv4) : (a.toBytes == b.toBytes) = (a == b) := by
  rw [Bool.eq_iff_iff, beq_iff_eq, beq_iff_eq, toBytes_inj]

namespace Arp

variable {m n : Arp}

section

variable {α : Type} {window : Window α} {start length : Nat}

lemma length_le_drop_payload (m : Arp) (inside : start + length ≤ payloadLength) :
    length ≤ (m.payload.drop start).length := by
  have fits := m.fits
  unfold payload
  rw [List.length_drop, List.length_drop]
  omega

/-- A window on a whole message shows what is behind it. -/
lemma Window.look?_frame (m : Arp) (inside : window.start + window.length ≤ payloadLength) :
    window.look? m.frame =
      some (window.value ((m.payload.drop window.start).take window.length)) := by
  have fits := m.fits
  have within : m.frame.payloadOffset + window.start + window.length ≤ m.frame.data.length := by
    omega
  unfold look? Bytes.slice? payload
  rw [if_pos within, Option.map_some, List.drop_drop]

lemma look?_byte (inside : start + 1 ≤ payloadLength) :
    (Window.byte start).look? m.frame = some (m.payload.getD start 0) := by
  rw [Window.look?_frame m inside]
  show some (((m.payload.drop start).take 1).getD 0 0) = some (m.payload.getD start 0)
  rw [Bytes.getD_take, Bytes.getD_drop, Nat.add_zero]

lemma look?_word (inside : start + 2 ≤ payloadLength) :
    (Window.word start).look? m.frame = some (Bytes.word (m.payload.drop start)) :=
  (Window.look?_frame m inside).trans (congrArg some (Bytes.word_take _))

lemma look?_mac (inside : start + 6 ≤ payloadLength) :
    (Window.mac start).look? m.frame = some (Mac.ofBytes (m.payload.drop start)) :=
  (Window.look?_frame m inside).trans (congrArg some (Mac.ofBytes_take _))

lemma look?_ip (inside : start + 4 ≤ payloadLength) :
    (Window.ip start).look? m.frame = some (Ipv4.ofBytes (m.payload.drop start)) :=
  (Window.look?_frame m inside).trans (congrArg some (Ipv4.ofBytes_take _))

/-- The bytes in a window are those of the address that is read there. -/
lemma look?_raw_mac (inside : start + 6 ≤ payloadLength) :
    (Window.mac start).raw.look? m.frame = some (Mac.ofBytes (m.payload.drop start)).toBytes :=
  (Window.look?_frame m inside).trans
    (congrArg some (Mac.take_eq_toBytes_iff.2 ⟨length_le_drop_payload m inside, rfl⟩))

lemma look?_raw_ip (inside : start + 4 ≤ payloadLength) :
    (Window.ip start).raw.look? m.frame = some (Ipv4.ofBytes (m.payload.drop start)).toBytes :=
  (Window.look?_frame m inside).trans
    (congrArg some (Ipv4.take_eq_toBytes_iff.2 ⟨length_le_drop_payload m inside, rfl⟩))

end

/-! ## Everything at once -/

/-- A whole message answers everything that it is asked. -/
lemma reading?_frame (m : Arp) : reading? m.frame = some m.reading := by
  have header : Ethernet.headerLength ≤ m.frame.data.length := by
    have fits := m.fits
    unfold payloadLength at fits
    unfold Ethernet.headerLength
    omega
  have long : 14 ≤ m.frame.data.length := header
  have dest : m.frame.dest? = some (Mac.ofBytes m.frame.data) :=
    map_ofBytes_slice? (by omega)
  have src : m.frame.src? = some (Mac.ofBytes (m.frame.data.drop 6)) :=
    map_ofBytes_slice? (by omega)
  unfold reading? Window.hardwareType Window.protocolType Window.hardwareAddressLength
    Window.protocolAddressLength Window.opcode Window.senderMac Window.senderIp Window.targetMac
    Window.targetIp
  rw [look?_word (by decide), look?_word (by decide), look?_word (by decide),
    look?_byte (by decide), look?_byte (by decide), look?_mac (by decide), look?_mac (by decide),
    look?_ip (by decide), look?_ip (by decide), look?_raw_mac (by decide),
    look?_raw_mac (by decide), look?_raw_ip (by decide), look?_raw_ip (by decide), dest, src,
    etherType?_eq header]
  rfl

/-- The messages have the same text, behind the same header. -/
structure SameText (m n : Arp) : Prop where
  header : m.frame.data.take Ethernet.headerLength = n.frame.data.take Ethernet.headerLength
  message : m.payload.take payloadLength = n.payload.take payloadLength

/-- Nothing else is ever read. -/
lemma SameText.reading_eq (same : SameText m n) : m.reading = n.reading := by
  have look {α : Type} (window : Window α)
      (inside : window.start + window.length ≤ payloadLength) :
      window.look? m.frame = window.look? n.frame := by
    rw [Window.look?_frame m inside, Window.look?_frame n inside,
      Bytes.take_drop_eq same.message inside]
  have slice (start length : Nat) (inside : start + length ≤ Ethernet.headerLength) :
      m.frame.data.slice? start length = n.frame.data.slice? start length :=
    Bytes.slice?_eq_of_take_eq same.header inside
  have asked : reading? m.frame = reading? n.frame := by
    unfold reading? Ethernet.dest? Ethernet.src? Ethernet.etherType?
    rw [look Window.opcode (by decide), look Window.hardwareType (by decide),
      look Window.protocolType (by decide), look Window.hardwareAddressLength (by decide),
      look Window.protocolAddressLength (by decide), look Window.senderMac.raw (by decide),
      look Window.senderIp.raw (by decide), look Window.targetMac.raw (by decide),
      look Window.targetIp.raw (by decide), look Window.senderMac (by decide),
      look Window.senderIp (by decide), look Window.targetMac (by decide),
      look Window.targetIp (by decide), slice 0 6 (by decide), slice 6 6 (by decide),
      slice 12 2 (by decide)]
  rw [reading?_frame, reading?_frame] at asked
  exact Option.some.inj asked

/-- Neither of the messages can be told from the other, by what it says or by what it answers. -/
structure Alike (m n : Arp) : Prop where
  reading : m.reading = n.reading
  answers : ∀ other : Arp, m.isResponseOf other = n.isResponseOf other
  asks : ∀ other : Arp, other.isResponseOf m = other.isResponseOf n

/-- Messages of the same text cannot be told apart. -/
lemma SameText.alike (same : SameText m n) : Alike m n := by
  have reading := same.reading_eq
  have op : m.op? = n.op? := congrArg Reading.op reading
  have senderIp : m.senderIp = n.senderIp := congrArg Reading.senderIp reading
  have targetIp : m.targetIp = n.targetIp := congrArg Reading.targetIp reading
  refine ⟨reading, fun other => ?_, fun other => ?_⟩
  · unfold isResponseOf
    rw [op, senderIp, targetIp]
  · unfold isResponseOf
    rw [senderIp, targetIp]

/-! ## Nothing is looked for outside -/

/-- The checks of a frame are those of the message in it, looked at through windows. -/
lemma examine?_eq (f : Ethernet) : examine? f = (ofEthernet? f).map (·.map Arp.frame) := by
  unfold examine? ofEthernet?
  -- one split for each check; only where all of them pass is a window looked through
  cases f.etherType? with
  | none => rfl
  | some etherType =>
    simp only [Option.bind_eq_bind, Option.bind_some, Option.pure_def]
    by_cases other : etherType ≠ EtherType.arp
    · rw [if_pos other, if_pos other]
      rfl
    · rw [if_neg other, if_neg other]
      unfold Ethernet.payload?
      by_cases inside : f.payloadOffset ≤ f.data.length
      · rw [if_pos inside, Option.bind_some, Option.bind_some, List.length_drop]
        by_cases fits : f.payloadOffset + payloadLength ≤ f.data.length
        · have long : ¬ f.data.length - f.payloadOffset < payloadLength := by omega
          have hardware : Window.hardwareAddressLength.look? f =
              some (⟨f, fits⟩ : Arp).hardwareAddressLength := @look?_byte ⟨f, fits⟩ 4 (by decide)
          have network : Window.protocolAddressLength.look? f =
              some (⟨f, fits⟩ : Arp).protocolAddressLength := @look?_byte ⟨f, fits⟩ 5 (by decide)
          have protocol : Window.protocolType.look? f = some (⟨f, fits⟩ : Arp).protocolType :=
            @look?_word ⟨f, fits⟩ 2 (by decide)
          rw [if_neg long, dif_pos fits, hardware, network, protocol, Option.bind_some,
            Option.bind_some, Option.bind_some]
          unfold check
          split_ifs <;> rfl
        · have short : f.data.length - f.payloadOffset < payloadLength := by
            unfold payloadLength at fits ⊢
            omega
          rw [if_pos short, dif_neg fits]
          rfl
      · rw [if_neg inside]
        rfl

/-- Comparing a message with a request leaves neither frame. -/
lemma answers?_frame (m request : Arp) :
    answers? m.frame request.frame = some (m.isResponseOf request) := by
  have opcode : Window.opcode.look? m.frame = some m.opcode := look?_word (by decide)
  have sender (m : Arp) : Window.senderIp.raw.look? m.frame = some m.senderIp.toBytes :=
    look?_raw_ip (by decide)
  have target (m : Arp) : Window.targetIp.raw.look? m.frame = some m.targetIp.toBytes :=
    look?_raw_ip (by decide)
  unfold answers?
  rw [opcode, sender, sender, target, target]
  simp only [Option.bind_eq_bind, Option.bind_some, Option.pure_def]
  unfold isResponseOf op?
  by_cases reply : (Opcode.ofCode m.opcode).toOption = some .reply
  · by_cases crossed : m.senderIp = request.targetIp
    · rw [if_neg (not_not.2 reply), if_neg (not_not.2 (congrArg Ipv4.toBytes crossed)), reply, crossed,
        beq_self_eq_true, beq_self_eq_true, Bool.true_and, Bool.true_and, Ipv4.toBytes_beq]
    · rw [if_neg (not_not.2 reply), if_pos (fun same => crossed (Ipv4.toBytes_inj.1 same)),
        beq_eq_false_iff_ne.2 crossed, Bool.and_false, Bool.false_and]
  · rw [if_pos reply, beq_eq_false_iff_ne.2 reply, Bool.false_and, Bool.false_and]

/-! ## Messages at other places -/

/-- The fixed fields of a message about IPv4 addresses on Ethernet are right. -/
structure Reading.Proper (reading : Reading) : Prop where
  type : reading.etherType = EtherType.arp
  hardware : reading.hardwareAddressLength = hardwareLength
  network : reading.protocolAddressLength = protocolLength
  protocol : reading.protocolType = EtherType.ipv4

/-- A message is read from a frame if its fixed fields are right, and holds on to the frame. -/
lemma ofEthernet?_eq_ok_iff {f : Ethernet} (header : Ethernet.headerLength ≤ f.data.length)
    (inside : f.payloadOffset ≤ f.data.length) :
    ofEthernet? f = some (.ok m) ↔ m.frame = f ∧ m.reading.Proper := by
  rw [ofEthernet?_eq header inside, Option.some_inj]
  constructor
  · intro read
    split_ifs at read with other fits
    obtain ⟨⟨hardware, network, protocol⟩, rfl⟩ := check_eq_ok_iff.1 read
    exact ⟨rfl, not_not.1 other, hardware, network, protocol⟩
  · rintro ⟨rfl, type, hardware, network, protocol⟩
    have arp : ¬ Bytes.word (m.frame.data.drop 12) ≠ EtherType.arp := not_not.2 type
    rw [if_neg arp, dif_pos m.fits]
    exact check_eq_ok_iff.2 ⟨⟨hardware, network, protocol⟩, rfl⟩

/-- Behind an Ethernet header, the message is the one that is read from the bytes. -/
lemma decode?_eq_some_iff_proper {bytes : Bytes} :
    decode? bytes = some m ↔ m.frame = ⟨bytes, Ethernet.headerLength⟩ ∧ m.reading.Proper := by
  rw [decode?_eq_some_iff, and_comm]
  constructor
  · rintro ⟨frame, legible⟩
    obtain ⟨type, hardware, network, protocol⟩ := (legible_iff frame).1 legible
    refine ⟨frame, ?_, hardware, network, protocol⟩
    show Bytes.word (m.frame.data.drop 12) = EtherType.arp
    rw [frame]
    exact type
  · rintro ⟨frame, type, hardware, network, protocol⟩
    refine ⟨frame, (legible_iff frame).2 ⟨?_, hardware, network, protocol⟩⟩
    have type : Bytes.word (m.frame.data.drop 12) = EtherType.arp := type
    rwa [frame] at type

end Arp

/-- The header of a frame with its payload right behind it. -/
def Ethernet.reassembled (f : Ethernet) : Bytes :=
  f.data.take headerLength ++ f.data.drop f.payloadOffset

namespace Arp

section

variable {m n : Arp} {f : Ethernet}

/-- Putting a frame together leaves out what was between header and payload, or doubles what was in
both. -/
lemma length_reassembled (header : Ethernet.headerLength ≤ f.data.length) :
    f.reassembled.length = Ethernet.headerLength + (f.data.length - f.payloadOffset) := by
  unfold Ethernet.reassembled
  rw [List.length_append, List.length_take, List.length_drop, Nat.min_eq_left header]

/-- Moving the payload changes neither the header nor the text of the message. -/
lemma sameText_of_reassembled (header : Ethernet.headerLength ≤ f.data.length) (here : n.frame = f)
    (there : m.frame = ⟨f.reassembled, Ethernet.headerLength⟩) : SameText n m := by
  have length : (f.data.take Ethernet.headerLength).length = Ethernet.headerLength := by
    rw [List.length_take, Nat.min_eq_left header]
  constructor
  · rw [here, there]
    show _ = (f.data.take Ethernet.headerLength ++ _).take Ethernet.headerLength
    rw [List.take_left' length]
  · unfold payload
    rw [here, there]
    show _ = ((f.data.take Ethernet.headerLength ++ _).drop Ethernet.headerLength).take payloadLength
    rw [List.drop_left' length]

end

/-- Messages at any place of a frame.

Take a frame with a whole header and a payload that starts anywhere in it. Reading the message in it
never looks outside the frame, and succeeds exactly if the payload put behind the header can be read.
Then nothing that can be asked of the message lies outside the frame either, and everything about it,
the header included, is as in the frame put together again; so are its answers to all requests, and
which replies answer it, where no comparison leaves a frame. -/
theorem moved_exact (f : Ethernet) (header : 14 ≤ f.data.length)
    (inside : f.payloadOffset ≤ f.data.length) :
    (∃ outcome, ofEthernet? f = some outcome ∧ examine? f = some (outcome.map Arp.frame)) ∧
      ((∃ n, ofEthernet? f = some (.ok n)) ↔ ∃ m, decode? f.reassembled = some m) ∧
      ∀ n m, ofEthernet? f = some (.ok n) → decode? f.reassembled = some m →
        n.frame = f ∧ reading? f = some m.reading ∧ reading? m.frame = some m.reading ∧
        Alike n m ∧
        ∀ other : Arp, answers? f other.frame = some (m.isResponseOf other) ∧
          answers? other.frame f = some (other.isResponseOf m) := by
  refine ⟨?_, ⟨?_, ?_⟩, fun n m here there => ?_⟩
  · have read := examine?_eq f
    rw [ofEthernet?_eq header inside] at read ⊢
    exact ⟨_, rfl, read⟩
  · rintro ⟨n, here⟩
    obtain ⟨frame, proper⟩ := (ofEthernet?_eq_ok_iff header inside).1 here
    -- what is whole here is whole behind the header, and the other way round below
    have whole : Ethernet.headerLength + payloadLength ≤ f.reassembled.length := by
      have fits := n.fits
      rw [frame] at fits
      rw [length_reassembled header]
      omega
    have same := sameText_of_reassembled header frame
      (m := ⟨⟨f.reassembled, Ethernet.headerLength⟩, whole⟩) rfl
    exact ⟨_, decode?_eq_some_iff_proper.2 ⟨rfl, same.reading_eq ▸ proper⟩⟩
  · rintro ⟨m, there⟩
    obtain ⟨frame, proper⟩ := decode?_eq_some_iff_proper.1 there
    have fits : f.payloadOffset + payloadLength ≤ f.data.length := by
      have whole := m.fits
      rw [frame] at whole
      have whole : Ethernet.headerLength + payloadLength ≤ f.reassembled.length := whole
      rw [length_reassembled header] at whole
      unfold payloadLength at whole ⊢
      omega
    have same := sameText_of_reassembled header (n := ⟨f, fits⟩) rfl frame
    exact ⟨⟨f, fits⟩, (ofEthernet?_eq_ok_iff header inside).2 ⟨rfl, same.reading_eq ▸ proper⟩⟩
  · obtain ⟨here, -⟩ := (ofEthernet?_eq_ok_iff header inside).1 here
    obtain ⟨there, -⟩ := decode?_eq_some_iff_proper.1 there
    have alike := (sameText_of_reassembled header here there).alike
    refine ⟨here, ?_, reading?_frame m, alike, fun other => ⟨?_, ?_⟩⟩
    · rw [← here, reading?_frame, alike.reading]
    · rw [← here, answers?_frame, alike.answers]
    · rw [← here, answers?_frame, alike.asks]

/-- A payload from the first byte on. The type of the frame is the end of the sender's hardware
address. -/
def overlapping : Ethernet where
  data := [0, 1, 8, 0, 6, 4, 0, 2, 2, 0, 0, 0, 8, 6, 10, 0, 0, 2, 2, 0, 0, 0, 0, 1, 10, 0, 0, 1]
  payloadOffset := 0

/-- A message whose payload starts in the header is read in the same way. -/
theorem moved_exact_of_overlapping :
    14 ≤ overlapping.data.length ∧ overlapping.payloadOffset ≤ overlapping.data.length ∧
      ∃ m, decode? overlapping.reassembled = some m ∧ reading? overlapping = some m.reading ∧
        m.op? = some .reply ∧ m.senderMac = ⟨2, 0, 0, 0, 8, 6⟩ ∧ m.targetIp = ⟨10, 0, 0, 1⟩ := by
  have here : ofEthernet? overlapping = some (.ok ⟨overlapping, by decide⟩) := rfl
  obtain ⟨-, reads, agree⟩ := moved_exact overlapping (by decide) (by decide)
  obtain ⟨m, there⟩ := reads.1 ⟨_, here⟩
  obtain ⟨-, asked, -, alike, -⟩ := agree _ m here there
  refine ⟨by decide, by decide, m, there, asked, ?_, ?_, ?_⟩
  · exact (congrArg Reading.op alike.reading).symm
  · exact (congrArg Reading.senderMac alike.reading).symm
  · exact (congrArg Reading.targetIp alike.reading).symm

end Arp

end ArpProbe
