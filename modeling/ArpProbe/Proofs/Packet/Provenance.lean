import ArpProbe.Packet.Session
import ArpProbe.Proofs.Packet.Refinement

/-!
# Where delivered frames come from

A packet socket queues frames of all interfaces until it is bound, and what is queued by then stays.
A channel delivers what its socket receives from other hosts without a look at the interface:
`delivered_of_queued` says when that is the interface that the channel was opened on, and
`delivered_of_stray` shows a ping that returns an answer from another one.
-/

namespace ArpProbe.Packet

/-- The frame of another host, with the interface that it was seen on. -/
def ReceiveAnswer.incoming? : ReceiveAnswer → Option Received
  | received r => if r.outgoing then none else some r
  | fails _ => none

lemma ReceiveAnswer.frame?_eq (answer : ReceiveAnswer) :
    answer.frame? = answer.incoming?.map Received.bytes := by
  cases answer with
  | received r =>
    rw [frame?, incoming?]
    by_cases outgoing : r.outgoing = true
    · rw [if_pos outgoing, if_pos outgoing]
      rfl
    · rw [if_neg outgoing, if_neg outgoing]
      rfl
  | fails errno => rfl

/-- The frames of other hosts among answers, in order. -/
def incoming (receipts : List ReceiveAnswer) : List Received :=
  receipts.filterMap ReceiveAnswer.incoming?

lemma incoming_append (first second : List ReceiveAnswer) :
    incoming (first ++ second) = incoming first ++ incoming second :=
  List.filterMap_append

namespace Channel

/-! ## Delivery -/

/-- The frame that a call to receive hands over. -/
def Answer.delivered? : Answer → Option Bytes
  | received (.ready (.ok bytes)) => some bytes
  | _ => none

/-- What becomes of the frame of another host in the buffer. -/
def cut (r : Received) : Bytes :=
  r.bytes.take bufferLength

/-- A wait uses up answers, and hands over the frames of other hosts among them. -/
lemma delivered_awaitIncoming (s : BoundSocket) (k : Kernel) :
    ∃ used, k.receipts = used ++ (awaitIncoming s k).2.receipts ∧
      (Answer.received ((awaitIncoming s k).1.map (·.mapError .transport))).delivered?.toList =
        (incoming used).map cut := by
  induction receipts : k.receipts generalizing k with
  | nil =>
    rw [awaitIncoming_of_nil receipts]
    exact ⟨[], by simp [receipts], rfl⟩
  -- a frame or a failure ends the wait, and anything else is passed over
  | cons answer rest ih =>
    have left : (asked k).receipts = rest := by
      rw [receipts_asked, receipts, List.tail_cons]
    have frame := answer.frame?_eq
    cases seen : answer.incoming? with
    | some r =>
      rw [seen] at frame
      rw [awaitIncoming_of_frame receipts frame]
      exact ⟨[answer], by rw [left]; rfl, by simp [incoming, seen]; rfl⟩
    | none =>
      rw [seen] at frame
      cases fault : answer.fault? with
      | some errno =>
        rw [awaitIncoming_of_fault receipts fault]
        exact ⟨[answer], by rw [left]; rfl, by simp [incoming, seen]; rfl⟩
      | none =>
        rw [awaitIncoming_of_skipped receipts frame fault]
        obtain ⟨used, split, delivered⟩ := ih (asked k) left
        refine ⟨answer :: used, by rw [split]; rfl, ?_⟩
        rw [delivered, incoming, incoming, List.filterMap_cons, seen]

/-- Calls to send use up no answers to calls to receive. -/
lemma receipts_awaitSend (s : BoundSocket) (frame : Bytes) (k : Kernel) :
    (s.awaitSend frame k).2.receipts = k.receipts := by
  have called (k : Kernel) : (s.send frame k).2.receipts = k.receipts := by
    rw [BoundSocket.send, Kernel.sendTo]
    split <;> rfl
  fun_induction BoundSocket.awaitSend s frame k with
  | case1 k length next sent => rw [← called k, sent]
  | case2 k error next sent again less ih => rw [ih, ← called k, sent]
  | case3 k error next sent final => rw [← called k, sent]

/-- One call hands over the frames of other hosts among the answers that it uses up. -/
lemma delivered_perform (c : Channel) (operation : Operation) :
    ∃ used, c.kernel.receipts = used ++ (c.perform operation).2.kernel.receipts ∧
      (c.perform operation).1.delivered?.toList = (incoming used).map cut := by
  obtain ⟨k, socket⟩ := c
  cases socket with
  | none =>
    cases operation <;> exact ⟨[], rfl, rfl⟩
  | some s =>
    cases operation with
    | send frame => exact ⟨[], (receipts_awaitSend s frame k).symm, rfl⟩
    | receive => exact delivered_awaitIncoming s k
    | close => exact ⟨[], rfl, rfl⟩

/-- Operations hand over the frames of other hosts in the answers that they use up. -/
lemma delivered_run (c : Channel) (operations : List Operation) :
    ∃ used, c.kernel.receipts = used ++ (c.run operations).2.kernel.receipts ∧
      (c.run operations).1.filterMap Answer.delivered? = (incoming used).map cut := by
  induction operations generalizing c with
  | nil => exact ⟨[], rfl, rfl⟩
  | cons operation operations ih =>
    obtain ⟨used, split, delivered⟩ := c.delivered_perform operation
    obtain ⟨used', split', delivered'⟩ := ih (c.perform operation).2
    refine ⟨used ++ used', ?_, ?_⟩
    · rw [split, split', List.append_assoc]
      rfl
    · rw [incoming_append, List.map_append, ← delivered, ← delivered']
      simp only [run, List.filterMap_cons]
      cases (c.perform operation).1.delivered? <;> rfl

/-! ## Pings -/

/-- What a wait hands over was the first frame of another host to come. -/
lemma incoming_of_reception {c next : Channel} {after : Nat} {bytes : Bytes} {stamp : Option Nat}
    (received : link.receive c = .event after (.frame bytes stamp) next) :
    ∃ r, bytes = cut r ∧ incoming c.kernel.receipts = r :: incoming next.kernel.receipts := by
  obtain ⟨k, socket⟩ := c
  cases socket with
  | none => cases received
  | some s =>
    obtain ⟨used, split, delivered⟩ := delivered_awaitIncoming s k
    change reception ⟨k, some s⟩ = _ at received
    rw [reception_eq] at received
    split at received
    · cases received
    · cases received
    · next awaited =>
      cases received
      rw [awaited] at split delivered
      obtain ⟨r, alone, rfl⟩ : ∃ r, incoming used = [r] ∧ cut r = bytes :=
        List.map_eq_singleton_iff.1 delivered.symm
      refine ⟨r, rfl, ?_⟩
      rw [split, incoming_append, alone]
      rfl

/-- The frame was sent by the host that a reply names. -/
def Names (r : Received) (reply : Reply) : Prop :=
  ∃ m, Arp.decode? (cut r) = some m ∧ m.senderMac = reply.mac

/-- A reply names the host whose frame it was. -/
lemma names_of_reply? {request : Arp} {r : Received} {duration : Nat} {reply : Reply}
    (answers : (Inbound.classify request (cut r)).reply? duration = some reply) :
    Names r reply := by
  rw [Inbound.classify] at answers
  cases read : Arp.decode? (cut r) with
  | none =>
    rw [read] at answers
    cases answers
  | some m =>
    rw [read] at answers
    by_cases answer : m.isResponseOf request = true
    · simp only [answer, if_true, Inbound.reply?] at answers
      obtain rfl := Option.some.inj answers
      exact ⟨m, read, rfl⟩
    · simp [answer, Inbound.reply?] at answers

/-- Who is heard over a channel sent a frame that was still to come. -/
lemma exists_names_of_listen {request : Arp} {verbose : Bool} {window sentAt now : Nat}
    {c : Channel} {reply : Reply}
    (member : reply ∈ (Ping.listen link request verbose window sentAt now c).replies) :
    ∃ r ∈ incoming c.kernel.receipts, Names r reply := by
  fun_induction Ping.listen link request verbose window sentAt now c with
  | case7 now c after bytes stamp next received _ _ ih =>
    obtain ⟨r, rfl, come⟩ := incoming_of_reception received
    rw [come]
    rw [Ping.Hearing.replies_heard, List.mem_append, Option.mem_toList] at member
    rcases member with first | later
    · exact ⟨r, List.mem_cons_self, names_of_reply? first⟩
    · obtain ⟨r', rest, names⟩ := ih later
      exact ⟨r', List.mem_cons_of_mem _ rest, names⟩
  | _ => cases member

/-- Who a ping returns sent a frame that was still to come when the channel was open. -/
lemma exists_names_of_ping {iface : Interface} {c : Channel} {log : List LogEntry} {bound : Kernel}
    {s : BoundSocket} {config : Config} {start elapsed : Nat} {dst : Ipv4} {replies : List Reply}
    (opens : attach iface c = (.ok log, ⟨bound, some s⟩))
    (ending : (Ping.overInterface link config start c dst iface).ending =
      .finished (.ok replies) elapsed) :
    ∀ reply ∈ replies, ∃ r ∈ incoming bound.receipts, Names r reply := by
  cases addressed : Ping.sender iface dst with
  | error error =>
    rw [Ping.overInterface, addressed] at ending
    cases ending
  | ok source =>
    rw [Ping.ending_overInterface addressed opens] at ending
    obtain ⟨-, -, -, rfl, -⟩ := Ping.ending_exchange_eq_ok_iff.1 ending
    intro reply member
    obtain ⟨r, come, names⟩ := exists_names_of_listen member
    refine ⟨r, ?_, names⟩
    rw [← receipts_awaitSend s (Arp.request source.1 source.2 dst).toBytes bound]
    exact come

/-! ## Binding -/

lemma trace_bind {unbound : Socket} {name : Bytes} {k bound : Kernel} {s : BoundSocket}
    (binds : unbound.bind name k = (.ok s, bound)) :
    bound.trace.getLast? = some (.bind s.address) := by
  rw [Socket.bind] at binds
  by_cases long : nameCapacity < name.length + 1
  · rw [if_pos long] at binds
    cases binds
  rw [if_neg long] at binds
  split at binds
  · cases binds
  · split at binds
    · cases binds
    · next called =>
      obtain ⟨-, rfl⟩ := Prod.mk.inj called
      obtain ⟨made, rfl⟩ := Prod.mk.inj binds
      obtain rfl := Except.ok.inj made
      rw [Kernel.record, List.getLast?_concat]

/-- The last call before a channel is open binds its socket. -/
lemma trace_of_attach {iface : Interface} {c : Channel} {log : List LogEntry} {bound : Kernel}
    {s : BoundSocket} (opens : attach iface c = (.ok log, ⟨bound, some s⟩)) :
    bound.trace.getLast? = some (.bind s.address) := by
  have opened : openSocket iface.name c.kernel = (.ok s, bound) := by
    rw [attach] at opens
    split at opens
    · cases opens
    · next opened =>
      cases opens
      exact opened
  rw [openSocket] at opened
  split at opened
  · cases opened
  · rw [BoundSocket.ofInterface] at opened
    split at opened
    · cases opened
    · split at opened
      · cases opened
      · exact trace_bind opened

lemma attach_eq_ok {iface : Interface} {c next : Channel} {log : List LogEntry}
    (reports : (attach iface c).1.toOption = some log) (leads : (attach iface c).2 = next) :
    attach iface c = (.ok log, next) := by
  cases opens : attach iface c with
  | mk result channel =>
    rw [opens] at reports leads
    cases result with
    | error error => cases reports
    | ok entries =>
      obtain rfl : entries = log := Option.some.inj reports
      rw [← leads]

/-! ## The interface of a delivered frame -/

/-- A leading part of what was queued is made of what came early, with what came late behind it. -/
lemma incoming_of_leading {early late used rest : List ReceiveAnswer}
    (split : early ++ late = used ++ rest) :
    incoming used = incoming (early.take used.length) ++
      incoming (late.take (used.length - early.length)) := by
  rw [← incoming_append, ← List.take_append, split, List.take_left]

lemma mem_incoming_of_take {receipts : List ReceiveAnswer} {n : Nat} {r : Received}
    (member : r ∈ incoming (receipts.take n)) : r ∈ incoming receipts :=
  ((List.take_sublist n receipts).filterMap _).mem member

/-- Where delivered frames come from, if the kernel queues frames of all interfaces before it binds
the socket, and frames of the bound interface only from then on.

Delivered is all that the channel received from other hosts, in order and cut to the length of the
buffer. It was seen on the bound interface or queued before the socket was bound, and so was every
frame whose sender a ping returns. Nothing else keeps frames of other interfaces away: all that is
delivered is from the bound interface only if no other frame was queued before. -/
theorem delivered_of_queued {iface : Interface} {k bound : Kernel} {log : List LogEntry}
    {s : BoundSocket} {early late : List ReceiveAnswer}
    (opens : attach iface ⟨k, none⟩ = (.ok log, ⟨bound, some s⟩))
    (queued : k.receipts = early ++ late) (filtered : ∀ r ∈ incoming late, r.index = s.index)
    (operations : List Operation) :
    bound.trace.getLast? = some (.bind s.address) ∧
    (∃ used, used <+: k.receipts ∧
      (run ⟨bound, some s⟩ operations).1.filterMap Answer.delivered? = (incoming used).map cut ∧
      (∀ r ∈ incoming used, r.index = s.index ∨ r ∈ incoming early) ∧
      ((∀ r ∈ incoming used, r.index = s.index) ↔
        ∀ r ∈ incoming (early.take used.length), r.index = s.index)) ∧
    (∀ config start dst replies elapsed,
      (Ping.overInterface link config start ⟨k, none⟩ dst iface).ending =
        .finished (.ok replies) elapsed →
      ∀ reply ∈ replies, ∃ r ∈ incoming k.receipts,
        Names r reply ∧ (r.index = s.index ∨ r ∈ incoming early)) := by
  have receipts : bound.receipts = k.receipts := (Prod.mk.inj (open_of_attach opens).2).2
  refine ⟨trace_of_attach opens, ?_, ?_⟩
  · obtain ⟨used, split, delivered⟩ := delivered_run ⟨bound, some s⟩ operations
    rw [receipts] at split
    have heard := incoming_of_leading (queued.symm.trans split)
    -- what came after the filter was set is from the bound interface
    have later : ∀ r ∈ incoming (late.take (used.length - early.length)), r.index = s.index :=
      fun r member => filtered r (mem_incoming_of_take member)
    refine ⟨used, ⟨_, split.symm⟩, delivered, ?_, ?_⟩
    · intro r member
      rw [heard, List.mem_append] at member
      exact member.symm.imp (later r) mem_incoming_of_take
    · rw [heard]
      constructor
      · intro all r member
        exact all r (List.mem_append_left _ member)
      · intro all r member
        exact (List.mem_append.1 member).elim (all r) (later r)
  · intro config start dst replies elapsed ending reply member
    obtain ⟨r, come, names⟩ := exists_names_of_ping opens ending reply member
    rw [receipts] at come
    refine ⟨r, come, names, ?_⟩
    rw [queued, incoming_append, List.mem_append] at come
    exact come.symm.imp_left (filtered r)

/-- The kernel queued a frame of eth1, then bound the socket to eth0 and queued a frame of that. -/
theorem delivered_of_queued_on_two :
    let eth0 : Interface := ⟨"eth0", 2, none, [], true⟩
    let early : List ReceiveAnswer := [.received ⟨[1, 2, 3], 0, 3⟩]
    let late : List ReceiveAnswer := [.fails 11, .received ⟨[4, 5, 6], 0, 2⟩]
    let k : Kernel :=
      ⟨none, none, none, none, none, 0, [("eth0", 2), ("eth1", 3)], [], early ++ late, []⟩
    let bound : Kernel := { k with
      flags := nonBlocking
      trace := [.socket 17 524291 1544, .getFlags, .setFlags nonBlocking,
        .nameToIndex [101, 116, 104, 48], .bind { protocol := 1544, index := 2 }] }
    let s : BoundSocket := ⟨{ protocol := 1544, index := 2 }⟩
    attach eth0 ⟨k, none⟩ = (.ok [.opened "eth0" 2], ⟨bound, some s⟩) ∧
      (∀ r ∈ incoming late, r.index = s.index) ∧
      ∃ used, used <+: k.receipts ∧
        (run ⟨bound, some s⟩ [.receive, .send [7], .receive]).1.filterMap Answer.delivered? =
          (incoming used).map cut ∧
        ((∀ r ∈ incoming used, r.index = s.index) ↔
          ∀ r ∈ incoming (early.take used.length), r.index = s.index) := by
  intro eth0 early late k bound s
  have opens : attach eth0 ⟨k, none⟩ = (.ok [.opened "eth0" 2], ⟨bound, some s⟩) :=
    attach_eq_ok (by decide +kernel) (by decide +kernel)
  have filtered : ∀ r ∈ incoming late, r.index = s.index := by decide
  obtain ⟨-, ⟨used, leading, delivered, -, exactly⟩, -⟩ :=
    delivered_of_queued opens rfl filtered [.receive, .send [7], .receive]
  exact ⟨opens, filtered, used, leading, delivered, exactly⟩

/-- A perfect answer that was seen on another interface before the socket was bound is delivered,
and a ping returns it. -/
theorem delivered_of_stray :
    let own : LocalAddress := ⟨⟨192, 168, 1, 10⟩, ⟨255, 255, 255, 0⟩⟩
    let target : Ipv4 := ⟨192, 168, 1, 1⟩
    let mac : Mac := ⟨2, 0, 0, 0, 0, 1⟩
    let eth0 : Interface := ⟨"eth0", 2, some mac, [own], true⟩
    let stray : Received :=
      ⟨(Arp.ofFields .reply ⟨2, 0, 0, 0, 0, 7⟩ target mac own.ip).toBytes, 0, 3⟩
    let c : Channel :=
      ⟨⟨none, none, none, none, none, 0, [("eth0", 2), ("eth1", 3)], [], [.received stray], []⟩, none⟩
    ∃ log bound s, attach eth0 c = (.ok log, ⟨bound, some s⟩) ∧ s.index = 2 ∧ stray.index = 3 ∧
      (receive ⟨bound, some s⟩).1 = .ready (.ok stray.bytes) ∧
      (Ping.overInterface link .default 0 c target eth0).ending =
        .finished (.ok [⟨⟨2, 0, 0, 0, 0, 7⟩, 0⟩]) 500000000 := by
  intro own target mac eth0 stray c
  let s : BoundSocket := ⟨{ protocol := 1544, index := 2 }⟩
  let bound : Kernel :=
    { c.kernel with
      flags := nonBlocking
      trace := [.socket 17 524291 1544, .getFlags, .setFlags nonBlocking,
        .nameToIndex [101, 116, 104, 48], .bind s.address] }
  -- the channel opens on the interface of index 2
  have opens : attach eth0 c = (.ok [.opened "eth0" 2], ⟨bound, some s⟩) :=
    attach_eq_ok (by decide +kernel) (by decide +kernel)
  have frame : (ReceiveAnswer.received stray).frame? = some stray.bytes := rfl
  have whole : stray.bytes.take bufferLength = stray.bytes :=
    List.take_of_length_le (by decide)
  have delivers : (receive ⟨bound, some s⟩).1 = .ready (.ok stray.bytes) := by
    show (awaitIncoming s bound).1 = _
    rw [awaitIncoming_of_frame rfl frame, whole]
  refine ⟨_, bound, s, opens, rfl, rfl, delivers, ?_⟩
  have hardware : eth0.mac = some mac := rfl
  have contains : eth0.addresses.find? (·.contains target) = some own := by decide
  rw [Ping.ending_overInterface (Ping.sender_eq_ok hardware contains) opens]
  let request := Arp.request mac own.ip target
  -- the request goes out, the answer comes in at once, and nothing more does
  obtain ⟨k, sent, receipts⟩ :=
    @send_of_room s bound 0 [] rfl (by simp) request.toBytes
  have received : link.receive ⟨k, some s⟩ =
      .event 0 (.frame stray.bytes none) ⟨asked k, some s⟩ := by
    show reception ⟨k, some s⟩ = _
    rw [reception_eq, awaitIncoming_of_frame receipts frame, whole]
  have silent : link.receive ⟨asked k, some s⟩ = .silence ⟨asked (asked k), some s⟩ := by
    show reception ⟨asked k, some s⟩ = _
    rw [reception_eq, awaitIncoming_of_nil (by rw [receipts_asked, receipts]; rfl)]
  have heard := @Ping.listen_of_frame _ _ request false (Config.default.window 0) 0 0 _ _ _ _ _
    received (by decide)
  rw [Ping.listen_of_silence silent] at heard
  have replies : (Inbound.classify request stray.bytes).reply? 0 =
      some ⟨⟨2, 0, 0, 0, 0, 7⟩, 0⟩ := by decide +kernel
  -- the exchange is the listening that was just followed
  have exchanged : Ping.exchange link request false (Config.default.window 0) ⟨bound, some s⟩ =
      Ping.conclude link (Config.default.window 0)
        (Ping.listen link request false (Config.default.window 0) 0 0 ⟨k, some s⟩) := by
    have next : (link.send request.toBytes ⟨bound, some s⟩).next = ⟨k, some s⟩ :=
      congrArg Prod.snd sent
    rw [← next]
    exact Ping.exchange_of_sent (by decide) (congrArg Prod.fst sent)
  show (Ping.exchange link request false (Config.default.window 0) ⟨bound, some s⟩).ending = _
  rw [exchanged, heard, Ping.conclude_of_windowClosed (by rw [Ping.Hearing.stop_heard]; rfl),
    Ping.Hearing.replies_heard]
  show Ending.finished
    (Ping.verdict (((Inbound.classify request stray.bytes).reply? 0).toList ++ [])) _ = _
  rw [replies]
  rfl

end Channel

end ArpProbe.Packet
