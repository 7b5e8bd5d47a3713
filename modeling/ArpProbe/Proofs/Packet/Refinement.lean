import ArpProbe.Proofs.Frame.Reading
import ArpProbe.Proofs.Packet.Waiting
import ArpProbe.Proofs.Ping.Outcome
import ArpProbe.Proofs.Ping.Simulation
import Mathlib.Data.List.TakeWhile

/-!
# Packet sockets and the ideal link

A ping over a packet socket ends like one over the ideal link whose script is what the kernel has to
say of other hosts: `outcome_over_packets`. Calls that are made again, frames that this host sent
itself and the length of the buffer leave no trace in what a ping returns.
-/

namespace ArpProbe.Packet

/-! ## Opening -/

namespace Kernel

/-- The answers that the kernel still has to calls to send and to receive. -/
def answers (k : Kernel) : List SendAnswer × List ReceiveAnswer :=
  (k.sends, k.receipts)

@[simp] lemma answers_record (call : SysCall) (k : Kernel) : (k.record call).answers = k.answers :=
  rfl

@[simp] lemma answers_setFlags (flags : UInt32) (k : Kernel) :
    (k.setFlags flags).2.answers = k.answers := by
  rw [setFlags]
  split <;> rfl

end Kernel

/-- Creating a socket takes no answers to calls to send or receive. -/
lemma answers_create (protocol : UInt16) (k : Kernel) :
    (Socket.create protocol k).2.answers = k.answers := by
  rw [Socket.create, Kernel.socket]
  cases Kernel.result k.socketFault <;> rfl

lemma answers_setNonBlocking (on : Bool) (k : Kernel) :
    (Socket.setNonBlocking on k).2.answers = k.answers := by
  rw [Socket.setNonBlocking, Kernel.getFlags]
  cases Kernel.result k.getFlagsFault with
  | error error => rfl
  | ok => exact Kernel.answers_setFlags _ _

lemma answers_bind (s : Socket) (name : Bytes) (k : Kernel) :
    (s.bind name k).2.answers = k.answers := by
  rw [Socket.bind, Kernel.nameToIndex]
  split_ifs with long
  · rfl
  · cases k.nameToIndexFault with
    | some errno => rfl
    | none =>
      cases k.index? name with
      | none => rfl
      | some index =>
        simp only [Kernel.bind]
        cases Kernel.result (k.record (.nameToIndex name)).bindFault <;> rfl

/-- Opening a socket asks the kernel for nothing to send or to receive. -/
lemma answers_ofInterface (name : Bytes) (protocol : UInt16) (k : Kernel) :
    (BoundSocket.ofInterface name protocol k).2.answers = k.answers := by
  have created := answers_create protocol k
  rw [BoundSocket.ofInterface]
  split
  · simp_all
  · next socket k' made =>
    rw [made] at created
    have switched := answers_setNonBlocking true k'
    split
    · simp_all [Kernel.close]
    · next k'' switch =>
      rw [switch] at switched
      rw [answers_bind, switched, created]

namespace Channel

/-- So all answers are left when a socket is open. -/
lemma answers_openSocket (name : String) (k : Kernel) :
    (openSocket name k).2.answers = k.answers := by
  rw [openSocket]
  cases nameBytes name with
  | error error => rfl
  | ok bytes => exact answers_ofInterface bytes Protocol.arp k

/-- A channel that opened has a socket, and all answers of the kernel before it. -/
lemma open_of_attach {iface : Interface} {c next : Channel} {log : List LogEntry}
    (opens : attach iface c = (.ok log, next)) :
    (∃ socket, next.socket = some socket) ∧ next.kernel.answers = c.kernel.answers := by
  have answers := answers_openSocket iface.name c.kernel
  rw [attach] at opens
  split at opens
  · cases opens
  · next socket k opened =>
    obtain ⟨-, rfl⟩ := Prod.mk.inj opens
    rw [opened] at answers
    exact ⟨⟨socket, rfl⟩, answers⟩

/-- With room to send in the end, a frame goes out, and the answers to calls to receive stay. -/
lemma send_of_room {s : BoundSocket} {k : Kernel} {waits : Nat} {sends : List SendAnswer}
    (tries : k.sends = List.replicate waits (.fails Errno.again) ++ sends)
    (room : ∀ errno, sends.head? ≠ some (.fails errno)) (frame : Bytes) :
    ∃ k', send frame ⟨k, some s⟩ = (.ok (), ⟨k', some s⟩) ∧ k'.receipts = k.receipts := by
  -- whatever length the last answer reports, it is no failure
  have last : ∃ length, (sends.head?.getD (.sent frame.length)).result = .ok length := by
    cases head : sends.head? with
    | none => exact ⟨frame.length, rfl⟩
    | some answer =>
      cases answer with
      | sent length => exact ⟨length, rfl⟩
      | fails errno => exact absurd head (room errno)
  obtain ⟨length, last⟩ := last
  refine ⟨{ k with
    sends := sends.tail
    trace := k.trace ++ List.replicate (waits + 1) (.sendTo frame 0 s.address) }, ?_, rfl⟩
  rw [send]
  simp only [BoundSocket.awaitSend_eq tries (room Errno.again), last]
  rfl

end Channel

/-! ## The script of a kernel -/

/-- The error number of the first failure to receive. -/
def fault? (receipts : List ReceiveAnswer) : Option Errno :=
  receipts.findSome? ReceiveAnswer.fault?

/-- The frames of other hosts before the first failure, uncut. -/
def frames (receipts : List ReceiveAnswer) : List Bytes :=
  (receipts.takeWhile fun answer => answer.fault?.isNone).filterMap ReceiveAnswer.frame?

/-- What the ideal link has to say in place of the kernel. -/
def script (receipts : List ReceiveAnswer) : List Wire.Step :=
  (frames receipts).map (fun bytes => ⟨0, .frame bytes none⟩) ++
    (fault? receipts).toList.map (fun errno => ⟨0, .failure (.os errno)⟩)

section

variable {answer : ReceiveAnswer} {receipts : List ReceiveAnswer}

lemma script_cons_skipped (frame : answer.frame? = none) (fault : answer.fault? = none) :
    script (answer :: receipts) = script receipts := by
  simp [script, frames, fault?, frame, fault]

/-- The frame of another host is a step at once. -/
lemma script_cons_frame {bytes : Bytes} (frame : answer.frame? = some bytes) :
    script (answer :: receipts) = ⟨0, .frame bytes none⟩ :: script receipts := by
  have fault : answer.fault? = none := by
    cases answer with
    | received r => rfl
    | fails errno => cases frame
  simp [script, frames, fault?, frame, fault]

lemma script_cons_fault {errno : Errno} (fault : answer.fault? = some errno) :
    script (answer :: receipts) = [⟨0, .failure (.os errno)⟩] := by
  simp [script, frames, fault?, fault]

lemma frames_eq_of_fault?_eq_none (silent : fault? receipts = none) :
    frames receipts = receipts.filterMap ReceiveAnswer.frame? := by
  have all : ∀ answer ∈ receipts, answer.fault?.isNone = true := by
    simpa [fault?] using silent
  rw [frames, List.takeWhile_eq_self_iff.2 all]

end

/-! ## The simulation -/

/-- A channel is open, and an ideal link has the script of its kernel before it. -/
def Follows (c : Channel) (wire : Wire) : Prop :=
  ∃ s k, c = ⟨k, some s⟩ ∧ wire.steps = script k.receipts

lemma reception_eq (s : BoundSocket) (k : Kernel) :
    Channel.reception ⟨k, some s⟩ =
      match Channel.awaitIncoming s k with
      | (.pending, k) => .silence ⟨k, some s⟩
      | (.ready (.error error), k) => .event 0 (.failure error) ⟨k, some s⟩
      | (.ready (.ok bytes), k) => .event 0 (.frame bytes none) ⟨k, some s⟩ := by
  rw [Channel.reception, Channel.receive]
  dsimp only
  rcases Channel.awaitIncoming s k with ⟨(_ | _) | _, k⟩ <;> rfl

/-- Each wait on the channel comes to what the ideal link says next. -/
lemma reception_alike (request : Arp) (c : Channel) (wire : Wire) (follows : Follows c wire) :
    (Channel.link.receive c).Alike request Follows (Wire.link.receive wire) := by
  obtain ⟨s, k, rfl, steps⟩ := follows
  show (Channel.reception ⟨k, some s⟩).Alike request Follows (Wire.link.receive wire)
  rw [reception_eq]
  -- the induction is on the answers to come, for the channel passes over some of them
  induction receipts : k.receipts generalizing k with
  | nil =>
    rw [receipts] at steps
    rw [Channel.awaitIncoming_of_nil receipts, Ping.receive_nil steps]
    exact .silence
  | cons answer rest ih =>
    rw [receipts] at steps
    have left : (Channel.asked k).receipts = rest := by
      rw [Channel.receipts_asked, receipts, List.tail_cons]
    cases frame : answer.frame? with
    | some bytes =>
      rw [script_cons_frame frame] at steps
      rw [Channel.awaitIncoming_of_frame receipts frame, Ping.receive_cons steps]
      refine .frame (fun duration => ?_) ⟨s, _, rfl, ?_⟩
      -- the buffer is longer than a message, so what is cut off does not matter
      · exact Inbound.reply?_classify_take (by decide) bytes duration
      · rw [left]
    | none =>
      cases fault : answer.fault? with
      | some errno =>
        rw [script_cons_fault fault] at steps
        rw [Channel.awaitIncoming_of_fault receipts fault, Ping.receive_cons steps]
        exact .failure
      | none =>
        rw [script_cons_skipped frame fault] at steps
        rw [Channel.awaitIncoming_of_skipped receipts frame fault]
        exact ih (Channel.asked k) (by rw [left]; exact steps) left

/-- Who answers a request among frames, in order. -/
lemma filterMap_reply?_classify (request : Arp) (duration : Nat) (heard : List Bytes) :
    heard.filterMap (fun bytes => (Inbound.classify request bytes).reply? duration) =
      ((heard.filterMap Arp.decode?).filter (·.isResponseOf request)).map
        fun m => ⟨m.senderMac, duration⟩ := by
  induction heard with
  | nil => rfl
  | cons bytes heard ih =>
    rw [List.filterMap_cons, List.filterMap_cons, Inbound.classify]
    cases read : Arp.decode? bytes with
    | none => simpa [Inbound.reply?] using ih
    | some m =>
      by_cases answers : m.isResponseOf request
      · simpa [answers, Inbound.reply?] using ih
      · simpa [answers, Inbound.reply?] using ih

section

variable {request : Arp} {verbose : Bool} {window sentAt now : Nat}

/-- Frames that come at once are heard before what follows them. -/
lemma listen_at_once {wire : Wire} {heard : List Bytes} {rest : List Wire.Step}
    (steps : wire.steps = heard.map (fun bytes => ⟨0, .frame bytes none⟩) ++ rest)
    (early : now < window) :
    let after := Ping.listen Wire.link request verbose window sentAt now { wire with steps := rest }
    (Ping.listen Wire.link request verbose window sentAt now wire).replies =
        heard.filterMap (fun bytes =>
          (Inbound.classify request bytes).reply? (now - sentAt)) ++ after.replies ∧
      (Ping.listen Wire.link request verbose window sentAt now wire).stop = after.stop := by
  intro after
  induction heard generalizing wire with
  | nil =>
    rw [List.map_nil, List.nil_append] at steps
    subst steps
    exact ⟨rfl, rfl⟩
  | cons bytes heard ih =>
    rw [List.map_cons, List.cons_append] at steps
    have received := Ping.receive_cons steps
    obtain ⟨replies, stop⟩ := @ih { wire with
      steps := heard.map (fun bytes => ⟨0, .frame bytes none⟩) ++ rest } rfl
    rw [Ping.listen_of_frame received early, Ping.Hearing.replies_heard, Ping.Hearing.stop_heard,
      Nat.add_zero, Option.getD_none, replies, stop, List.filterMap_cons]
    refine ⟨?_, rfl⟩
    cases (Inbound.classify request bytes).reply? (now - sentAt) <;> rfl

end

variable {iface : Interface} {dst : Ipv4} {mac : Mac} {address : LocalAddress}

/-- A ping over a packet socket, for which the kernel has room to send after any number of tries, ends
like one over an ideal link that lets every frame of other hosts come in uncut and in order, up to
the first failure to receive. If the window is open at all, such a failure is returned; without one
the answers to the request among the frames of other hosts are returned, all of them and in order,
or a timeout if there are none. -/
theorem outcome_over_packets (hardware : iface.mac = some mac)
    (own : iface.addresses.find? (·.contains dst) = some address) (config : Config) (start : Nat)
    {c opened : Channel} {log : List LogEntry} (opens : Channel.attach iface c = (.ok log, opened))
    {waits : Nat} {sends : List SendAnswer}
    (tries : c.kernel.sends = List.replicate waits (.fails Errno.again) ++ sends)
    (room : ∀ errno, sends.head? ≠ some (.fails errno)) :
    let receipts := c.kernel.receipts
    let request := Arp.request mac address.ip dst
    let window := config.window start
    let call := Ping.overInterface Channel.link config start c dst iface
    call.ending = (Ping.overInterface Wire.link config start
      (.ofScript none 0 none (script receipts)) dst iface).ending ∧
    (0 < window → ∀ errno, fault? receipts = some errno →
      call.ending = .finished (.error (.transport (.os errno))) 0) ∧
    (0 < window → fault? receipts = none →
      let answers := ((receipts.filterMap ReceiveAnswer.frame?).filterMap Arp.decode?).filter
        (·.isResponseOf request)
      call.ending = .finished (Ping.verdict (answers.map fun m => ⟨m.senderMac, 0⟩)) window) := by
  intro receipts request window call
  -- both calls are exchanges, over links that have the same to say once the request is out
  have addressed := Ping.sender_eq_ok hardware own
  have call_ending : call.ending =
      (Ping.exchange Channel.link request config.verbose window opened).ending :=
    Ping.ending_overInterface addressed opens
  have ideal_ending : (Ping.overInterface Wire.link config start
      (.ofScript none 0 none (script receipts)) dst iface).ending =
      (Ping.exchange Wire.link request config.verbose window
        (Ping.openWire iface 0 none (script receipts))).ending :=
    Ping.ending_overInterface addressed rfl
  have same : call.ending = (Ping.exchange Wire.link request config.verbose window
      (Ping.openWire iface 0 none (script receipts))).ending := by
    rw [call_ending]
    obtain ⟨⟨s, socket⟩, answers⟩ := Channel.open_of_attach opens
    obtain ⟨sends_eq, receipts_eq⟩ := Prod.mk.inj answers
    obtain ⟨k, rfl⟩ : ∃ k, opened = ⟨k, some s⟩ := ⟨opened.kernel, by rw [← socket]⟩
    rw [← sends_eq] at tries
    obtain ⟨k', sent, left⟩ := @Channel.send_of_room s k waits sends tries room request.toBytes
    apply Ping.ending_exchange_eq (reception_alike request)
    · rfl
    · show (Channel.send request.toBytes ⟨k, some s⟩).1 = .ok ()
      rw [sent]
    · show Follows (Channel.send request.toBytes ⟨k, some s⟩).2
        (Ping.sentWire iface request 0 (script receipts))
      rw [sent]
      refine ⟨s, k', rfl, ?_⟩
      rw [left, receipts_eq]
      rfl
  rw [ideal_ending, same]
  -- all frames come in at the instant at which the request went out, and the failure after them
  refine ⟨rfl, ?_, ?_⟩
  · intro early errno fault
    obtain ⟨-, stop⟩ := @listen_at_once request config.verbose window 0 0
      (Ping.sentWire iface request 0 (script receipts)) _ _ rfl early
    have failed := @Ping.receive_cons
      { Ping.sentWire iface request 0 (script receipts) with
        steps := [⟨0, .failure (.os errno)⟩] } _ _ rfl
    rw [fault] at stop
    simp only [Option.toList_some, List.map_cons, List.map_nil,
      Ping.listen_of_failure failed early] at stop
    rw [Ping.exchange_script_sent early, Ping.conclude_of_failed stop]
  · intro early silent
    obtain ⟨replies, stop⟩ := @listen_at_once request config.verbose window 0 0
      (Ping.sentWire iface request 0 (script receipts)) _ _ rfl early
    have silence := @Ping.receive_nil
      { Ping.sentWire iface request 0 (script receipts) with steps := [] } rfl
    rw [silent] at replies stop
    simp only [Option.toList_none, List.map_nil, Ping.listen_of_silence silence] at replies stop
    rw [Ping.exchange_script_sent early, Ping.conclude_of_windowClosed stop, replies,
      Ping.Hearing.replies_stopped, List.append_nil, filterMap_reply?_classify,
      frames_eq_of_fault?_eq_none silent]

/-- The kernel asks twice to send again. It hands over a perfect answer that this host sent itself, an
answer that is longer than the buffer, and other traffic, with further tries in between. -/
theorem outcome_over_packets_of_long_answer :
    let own : LocalAddress := ⟨⟨192, 168, 1, 10⟩, ⟨255, 255, 255, 0⟩⟩
    let target : Ipv4 := ⟨192, 168, 1, 1⟩
    let mac : Mac := ⟨2, 0, 0, 0, 0, 1⟩
    let eth0 : Interface := ⟨"eth0", 2, some mac, [own], true⟩
    let answer (from_mac : Mac) := (Arp.ofFields .reply from_mac target mac own.ip).toBytes
    let sends : List SendAnswer := [.fails 11, .fails 11, .sent 60]
    let receipts : List ReceiveAnswer :=
      [.fails 11, .received ⟨answer ⟨2, 0, 0, 0, 0, 5⟩, outgoingType, 2⟩,
        .received ⟨answer ⟨2, 0, 0, 0, 0, 7⟩ ++ List.replicate 2000 0, 0, 2⟩, .fails 11,
        .received ⟨[1, 2, 3], 0, 2⟩]
    let c : Channel := ⟨⟨none, none, none, none, none, 0, [("eth0", 2)], sends, receipts, []⟩, none⟩
    eth0.mac = some mac ∧ eth0.addresses.find? (·.contains target) = some own ∧
      (Channel.attach eth0 c).1.toBool = true ∧
      (Ping.overInterface Channel.link .default 0 c target eth0).ending =
        .finished (.ok [⟨⟨2, 0, 0, 0, 0, 7⟩, 0⟩]) 500000000 := by
  intro own target mac eth0 answer sends receipts c
  have hardware : eth0.mac = some mac := rfl
  have contains : eth0.addresses.find? (·.contains target) = some own := by decide
  have socket : (Channel.attach eth0 c).1.toOption = some [.opened "eth0" 2] := by
    decide +kernel
  have opens : Channel.attach eth0 c = (.ok [.opened "eth0" 2], (Channel.attach eth0 c).2) := by
    cases opened : (Channel.attach eth0 c).1 with
    | error error => simp [opened, Except.toOption] at socket
    | ok log =>
      rw [opened] at socket
      obtain rfl : log = _ := Option.some.inj socket
      exact Prod.ext opened rfl
  have tries : c.kernel.sends = List.replicate 2 (.fails Errno.again) ++ [.sent 60] := rfl
  have room : ∀ errno, [SendAnswer.sent 60].head? ≠ some (.fails errno) := by
    intro errno
    simp
  obtain ⟨-, -, heard⟩ := outcome_over_packets hardware contains .default 0 opens tries room
  refine ⟨hardware, contains, by rw [opens]; rfl, ?_⟩
  have answers : (((receipts.filterMap ReceiveAnswer.frame?).filterMap Arp.decode?).filter
      (·.isResponseOf (.request mac own.ip target))).map (fun m => (⟨m.senderMac, 0⟩ : Reply)) =
        [⟨⟨2, 0, 0, 0, 0, 7⟩, 0⟩] := by
    decide +kernel
  rw [heard (by decide) rfl, answers]
  rfl

end ArpProbe.Packet
