import ArpProbe.Packet.Buffer
import ArpProbe.Proofs.Packet.Provenance

/-!
# Call after call on an open channel

What calls to receive and to send come to, from the answers that the kernel has for them, and which
system calls they make. Answers to try again are passed over, and so are frames that this host sent
itself, whatever their number and place (`perform_receive`, `perform_send`). The buffer that all
frames go through adds nothing to that: a channel with its buffer gives the answers of a channel
without one (`run_buffered`). `receiving_exact` is about any number of calls.
-/

namespace ArpProbe.Packet

/-! ## Answers that end a wait -/

namespace ReceiveAnswer

/-- What a call on the channel comes to when the kernel gives the answer, unless the call goes on:
to try again and the own frames of this host are passed over. -/
def outcome? : ReceiveAnswer → Option (Except Error Bytes)
  | received r => if r.packetType = 4 then none else some (.ok (r.bytes.take 1500))
  | fails errno => if errno = 11 then none else some (.error (.transport (.os errno)))

variable {answer : ReceiveAnswer}

/-- The frame of another host is returned, cut to the length of the buffer. -/
lemma outcome?_of_frame {bytes : Bytes} (frame : answer.frame? = some bytes) :
    answer.outcome? = some (.ok (bytes.take 1500)) := by
  cases answer with
  | received r =>
    obtain ⟨incoming, rfl⟩ : ¬ r.outgoing = true ∧ r.bytes = bytes := by
      simpa [frame?] using frame
    exact if_neg (by simpa [Received.outgoing, outgoingType] using incoming)
  | fails errno => cases frame

lemma outcome?_of_fault {errno : Errno} (fault : answer.fault? = some errno) :
    answer.outcome? = some (.error (.transport (.os errno))) := by
  cases answer with
  | received r => cases fault
  | fails errno' =>
    obtain ⟨final, rfl⟩ : ¬ errno' = Errno.again ∧ errno' = errno := by
      simpa [fault?] using fault
    exact if_neg final

lemma outcome?_of_skipped (frame : answer.frame? = none) (fault : answer.fault? = none) :
    answer.outcome? = none := by
  cases answer with
  | received r =>
    have outgoing : r.outgoing = true := by simpa [frame?] using frame
    exact if_pos (by simpa [Received.outgoing, outgoingType] using outgoing)
  | fails errno =>
    have again : errno = Errno.again := by simpa [fault?] using fault
    exact if_pos again

end ReceiveAnswer

/-- What calls to receive come to, one after another. -/
def outcomes (receipts : List ReceiveAnswer) : List (Except Error Bytes) :=
  receipts.filterMap ReceiveAnswer.outcome?

section

variable {answer : ReceiveAnswer} {receipts : List ReceiveAnswer} {outcome : Except Error Bytes}

lemma outcomes_append (first second : List ReceiveAnswer) :
    outcomes (first ++ second) = outcomes first ++ outcomes second :=
  List.filterMap_append

lemma outcomes_cons_of_none (skipped : answer.outcome? = none) :
    outcomes (answer :: receipts) = outcomes receipts :=
  List.filterMap_cons_none skipped

lemma outcomes_cons_of_some (ends : answer.outcome? = some outcome) :
    outcomes (answer :: receipts) = outcome :: outcomes receipts :=
  List.filterMap_cons_some ends

/-- An answer that is no failure adds its frame in front, if it has one. -/
lemma frames_cons (pass : answer.fault? = none) :
    frames (answer :: receipts) = answer.frame?.toList ++ frames receipts := by
  rw [frames, frames, List.takeWhile_cons_of_pos (by simp [pass]), List.filterMap_cons]
  cases answer.frame? <;> rfl

/-- Without a failure, outcomes are the frames of other hosts. -/
lemma outcomes_eq (silent : fault? receipts = none) :
    outcomes receipts = (frames receipts).map fun bytes => .ok (bytes.take 1500) := by
  induction receipts with
  | nil => rfl
  | cons answer receipts ih =>
    have pass : answer.fault? = none ∧ fault? receipts = none := by
      simpa [fault?] using silent
    rw [frames_cons pass.1, List.map_append, ← ih pass.2]
    cases frame : answer.frame? with
    | none => exact outcomes_cons_of_none (ReceiveAnswer.outcome?_of_skipped frame pass.1)
    | some bytes => exact outcomes_cons_of_some (ReceiveAnswer.outcome?_of_frame frame)

/-- Up to the first failure, outcomes are the frames of other hosts. -/
lemma exists_outcomes_eq {errno : Errno} (fault : fault? receipts = some errno) :
    ∃ later, outcomes receipts =
      (frames receipts).map (fun bytes => .ok (bytes.take 1500)) ++
        .error (.transport (.os errno)) :: later := by
  induction receipts with
  | nil => cases fault
  | cons answer receipts ih =>
    cases failing : answer.fault? with
    | some errno' =>
      obtain rfl : errno' = errno := by simpa [fault?, failing] using fault
      refine ⟨outcomes receipts, ?_⟩
      rw [outcomes_cons_of_some (ReceiveAnswer.outcome?_of_fault failing), frames,
        List.takeWhile_cons_of_neg (by simp [failing])]
      rfl
    | none =>
      obtain ⟨later, rest⟩ := ih (by simpa [fault?, failing] using fault)
      refine ⟨later, ?_⟩
      rw [frames_cons failing]
      cases frame : answer.frame? with
      | none =>
        rw [outcomes_cons_of_none (ReceiveAnswer.outcome?_of_skipped frame failing), rest]
        rfl
      | some bytes =>
        rw [outcomes_cons_of_some (ReceiveAnswer.outcome?_of_frame frame), rest]
        rfl

end

/-! ## System calls -/

namespace Kernel

variable {k : Kernel}

/-- The kernel after a number of calls to receive, with the answers that are left. -/
def heard (calls : Nat) (rest : List ReceiveAnswer) (k : Kernel) : Kernel :=
  { k with
    receipts := rest
    trace := k.trace ++ List.replicate calls (.receiveFrom 1500 0 20) }

lemma heard_heard (first second : Nat) (middle rest : List ReceiveAnswer) (k : Kernel) :
    (k.heard first middle).heard second rest = k.heard (first + second) rest := by
  simp only [heard, List.append_assoc, List.replicate_append_replicate]

end Kernel

namespace Channel

variable {s : BoundSocket} {k : Kernel}

/-- The buffer and the address are as long for every call. -/
lemma asked_eq (k : Kernel) : asked k = k.heard 1 k.receipts.tail := by
  rw [asked, Kernel.receiveFrom]
  split
  · next none => simp [Kernel.heard, Kernel.record, none, bufferLength, Address.byteLength]
  · next some => simp [Kernel.heard, Kernel.record, some, bufferLength, Address.byteLength]

/-! ## Receiving -/

lemma perform_receive_eq (s : BoundSocket) (k : Kernel) :
    perform ⟨k, some s⟩ .receive =
      (.received ((awaitIncoming s k).1.map (·.mapError .transport)),
        ⟨(awaitIncoming s k).2, some s⟩) := rfl

/-- One call takes answers up to the first that ends its wait, or all if none does. Each answer is
one system call, and so is the one that finds nothing to receive. -/
lemma perform_receive (s : BoundSocket) (k : Kernel) :
    ∃ skipped rest, outcomes skipped = [] ∧
      ((k.receipts = skipped ∧ rest = [] ∧
          perform ⟨k, some s⟩ .receive =
            (.received .pending, ⟨k.heard (skipped.length + 1) rest, some s⟩)) ∨
        ∃ answer outcome, k.receipts = skipped ++ answer :: rest ∧
          answer.outcome? = some outcome ∧
          perform ⟨k, some s⟩ .receive =
            (.received (.ready outcome), ⟨k.heard (skipped.length + 1) rest, some s⟩)) := by
  -- an answer that is passed over is one more of those skipped by the wait that follows
  induction receipts : k.receipts generalizing k with
  | nil =>
    refine ⟨[], [], rfl, .inl ⟨rfl, rfl, ?_⟩⟩
    rw [perform_receive_eq, awaitIncoming_of_nil receipts, asked_eq, receipts]
    rfl
  | cons answer receipts' ih =>
    have left : (asked k).receipts = receipts' := by
      rw [receipts_asked, receipts, List.tail_cons]
    have first : asked k = k.heard 1 receipts' := by
      rw [asked_eq, receipts, List.tail_cons]
    cases frame : answer.frame? with
    | some bytes =>
      refine ⟨[], receipts', rfl, .inr ⟨answer, _, rfl, ReceiveAnswer.outcome?_of_frame frame, ?_⟩⟩
      rw [perform_receive_eq, awaitIncoming_of_frame receipts frame, first]
      rfl
    | none =>
      cases fault : answer.fault? with
      | some errno =>
        refine ⟨[], receipts', rfl,
          .inr ⟨answer, _, rfl, ReceiveAnswer.outcome?_of_fault fault, ?_⟩⟩
        rw [perform_receive_eq, awaitIncoming_of_fault receipts fault, first]
        rfl
      | none =>
        have same : perform ⟨k, some s⟩ .receive = perform ⟨asked k, some s⟩ .receive := by
          rw [perform_receive_eq, perform_receive_eq, awaitIncoming_of_skipped receipts frame fault]
        obtain ⟨skipped, rest, none, comes⟩ := ih (asked k) left
        refine ⟨answer :: skipped, rest, ?_, ?_⟩
        · rw [outcomes_cons_of_none (ReceiveAnswer.outcome?_of_skipped frame fault), none]
        rw [same]
        simp only [first, Kernel.heard_heard, Nat.add_comm 1] at comes ⊢
        refine comes.imp ?_ ?_
        · rintro ⟨rfl, rest, performed⟩
          exact ⟨rfl, rest, performed⟩
        · rintro ⟨last, outcome, rfl, ends, performed⟩
          exact ⟨last, outcome, rfl, ends, performed⟩

/-- Any number of calls, one after another. Those that find nothing more are still waiting. -/
lemma run_receive (s : BoundSocket) (k : Kernel) (n : Nat) :
    ∃ used rest, k.receipts = used ++ rest ∧
      outcomes used = (outcomes k.receipts).take n ∧
      run ⟨k, some s⟩ (List.replicate n .receive) =
        (((outcomes k.receipts).take n).map (fun outcome => .received (.ready outcome)) ++
            List.replicate (n - (outcomes k.receipts).length) (.received .pending),
          ⟨k.heard (used.length + (n - (outcomes k.receipts).length)) rest, some s⟩) := by
  induction n generalizing k with
  | zero =>
    refine ⟨[], k.receipts, rfl, rfl, ?_⟩
    simp [run, Kernel.heard]
  | succ n ih =>
    -- the first call takes an outcome or finds none, and the others go on from what it leaves
    obtain ⟨skipped, rest, none, comes⟩ := perform_receive s k
    rcases comes with ⟨all, rfl, performed⟩ | ⟨answer, outcome, split, ends, performed⟩
    · obtain ⟨used, rest, nothing, -, later⟩ := ih (k.heard (skipped.length + 1) [])
      obtain ⟨rfl, rfl⟩ := List.append_eq_nil_iff.1 nothing.symm
      have silent : outcomes k.receipts = [] := by rw [all, none]
      refine ⟨k.receipts, [], (List.append_nil _).symm, by rw [silent, List.take_nil], ?_⟩
      have empty : outcomes (k.heard (skipped.length + 1) []).receipts = [] := rfl
      rw [empty] at later
      rw [List.replicate_succ, run, performed]
      simp only [later, silent, List.take_nil, List.map_nil, List.length_nil, Nat.sub_zero,
        List.nil_append, Nat.zero_add, Kernel.heard_heard]
      rw [all, Nat.add_assoc, Nat.add_comm 1 n, List.replicate_succ]
    · obtain ⟨used, rest', split', taken, later⟩ := ih (k.heard (skipped.length + 1) rest)
      have left : (k.heard (skipped.length + 1) rest).receipts = rest := rfl
      rw [left] at split' taken later
      have all : outcomes k.receipts = outcome :: outcomes rest := by
        rw [split, outcomes_append, none, outcomes_cons_of_some ends, List.nil_append]
      refine ⟨skipped ++ answer :: used, rest', ?_, ?_, ?_⟩
      · rw [split, split', List.append_assoc, List.cons_append]
      · rw [all, outcomes_append, none, outcomes_cons_of_some ends, taken, List.take_succ_cons,
          List.nil_append]
      · rw [List.replicate_succ, run]
        simp only [performed, later, all, List.take_succ_cons, List.map_cons, List.length_cons,
          Nat.add_sub_add_right, List.cons_append, Kernel.heard_heard, List.length_append]
        rw [← Nat.add_assoc, ← Nat.add_assoc, Nat.add_right_comm _ 1]

/-- Calls for which there is an outcome do not wait. -/
lemma run_receive_of_due (s : BoundSocket) {n : Nat} (due : n ≤ (outcomes k.receipts).length) :
    (run ⟨k, some s⟩ (List.replicate n .receive)).1 =
      ((outcomes k.receipts).take n).map fun outcome => .received (.ready outcome) := by
  obtain ⟨used, rest, -, -, received⟩ := run_receive s k n
  rw [received, Nat.sub_eq_zero_of_le due]
  exact List.append_nil _

/-- Without a failure, as many calls as there are frames return them all. -/
lemma run_receive_of_silent (s : BoundSocket) (silent : fault? k.receipts = none) :
    (run ⟨k, some s⟩ (List.replicate (frames k.receipts).length .receive)).1 =
      (frames k.receipts).map fun bytes => .received (.ready (.ok (bytes.take 1500))) := by
  have all := outcomes_eq silent
  have count : (outcomes k.receipts).length = (frames k.receipts).length := by
    rw [all, List.length_map]
  rw [run_receive_of_due s count.ge, ← count, List.take_length, all, List.map_map]
  rfl

/-- The first failure comes after the frames before it. -/
lemma run_receive_of_fault (s : BoundSocket) {errno : Errno}
    (fault : fault? k.receipts = some errno) :
    (run ⟨k, some s⟩ (List.replicate ((frames k.receipts).length + 1) .receive)).1 =
      (frames k.receipts).map (fun bytes => .received (.ready (.ok (bytes.take 1500)))) ++
        [.received (.ready (.error (.transport (.os errno))))] := by
  obtain ⟨later, all⟩ := exists_outcomes_eq fault
  let leading : List (Except Error Bytes) :=
    (frames k.receipts).map (fun bytes => .ok (bytes.take 1500)) ++
      [.error (.transport (.os errno))]
  have count : leading.length = (frames k.receipts).length + 1 := by
    rw [List.length_append, List.length_map, List.length_singleton]
  have all : outcomes k.receipts = leading ++ later := by
    rw [List.append_assoc]
    exact all
  have due : leading.length ≤ (outcomes k.receipts).length :=
    List.IsPrefix.length_le ⟨later, all.symm⟩
  rw [← count, run_receive_of_due s due, all, List.take_left, List.map_append, List.map_map]
  rfl

/-! ## Sending -/

/-- A call to send is made once for every answer to try again, and once more. The last answer says
what becomes of the frame. -/
lemma perform_send (s : BoundSocket) (k : Kernel) (frame : Bytes) :
    let waits := (k.sends.takeWhile (· = .fails 11)).length
    let sends := k.sends.dropWhile (· = .fails 11)
    let last := sends.head?.getD (.sent frame.length)
    perform ⟨k, some s⟩ (.send frame) =
      (.sent ((last.result.map fun _ => ()).mapError .transport),
        ⟨{ k with
            sends := sends.tail
            trace := k.trace ++ List.replicate (waits + 1) (.sendTo frame 0 s.address) },
          some s⟩) := by
  intro waits sends last
  have tries : k.sends.takeWhile (· = .fails 11) = List.replicate waits (.fails Errno.again) := by
    refine List.eq_replicate_iff.2 ⟨rfl, fun answer member => ?_⟩
    have again := List.mem_takeWhile_imp member
    exact of_decide_eq_true again
  have script : k.sends = List.replicate waits (.fails Errno.again) ++ sends := by
    rw [← tries, List.takeWhile_append_dropWhile]
  have ready : sends.head? ≠ some (.fails Errno.again) := by
    intro again
    have passed := List.head?_dropWhile_not (· = SendAnswer.fails 11) k.sends
    rw [again] at passed
    exact absurd passed (by decide)
  rw [perform, send]
  simp only [BoundSocket.awaitSend_eq script ready]
  rfl

end Channel

/-! ## The buffer -/

namespace Buffer

/-- What is in the buffer when the kernel gave a notice. -/
def read (b : Buffer) (notice : Notice) : Received :=
  ⟨b.front notice.length, notice.packetType, notice.index⟩

/-- What is left of earlier frames is behind the new one. -/
lemma front_overwrite {frame : Bytes} (b : Buffer) (fits : frame.length ≤ b.bytes.length) :
    (b.overwrite frame).front frame.length = frame := by
  have whole : frame.take b.bytes.length = frame := List.take_of_length_le fits
  rw [front, overwrite]
  dsimp only
  rw [whole, List.take_left]

end Buffer

namespace BoundSocket

section

variable (s : BoundSocket) (b : Buffer) (k : Kernel)

/-- What is in the buffer after a call is what the call brings without one. -/
lemma read_receiveInto :
    ((s.receiveInto b k).1.map (s.receiveInto b k).2.1.read, (s.receiveInto b k).2.2) =
      s.receive Channel.bufferLength k := by
  rw [receive, ← b.length_eq, receiveInto, Kernel.receiveFrom]
  cases k.receipts with
  | nil => rfl
  | cons answer receipts =>
    cases answer with
    | fails errno => rfl
    | received r =>
      have fits : (r.bytes.take b.bytes.length).length ≤ b.bytes.length := List.length_take_le _ _
      simp only [ReceiveAnswer.result, Except.map, Buffer.read, b.front_overwrite fits]

/-- Waiting tries until something other than to try again is answered. -/
lemma awaitReceive_eq (bufferLength : Nat) :
    s.awaitReceive bufferLength k =
      match s.receive bufferLength k with
      | (.ok r, next) => (.ready (.ok r), next)
      | (.error error, next) =>
        if error.wouldBlock then
          if k.receipts = [] then (.pending, next) else s.awaitReceive bufferLength next
        else (.ready (.error error), next) := by
  have polled : s.pollReceive bufferLength k =
      (.ofResult (s.receive bufferLength k).1, (s.receive bufferLength k).2) := rfl
  rcases received : s.receive bufferLength k with ⟨error | r, next⟩
  all_goals
    rw [received] at polled
    rw [awaitReceive]
  · by_cases again : error.wouldBlock = true
    · rw [Poll.ofResult, if_pos again] at polled
      split <;> simp_all
    · rw [Poll.ofResult, if_neg again] at polled
      split <;> simp_all
  · split <;> simp_all [Poll.ofResult]

end

variable {s : BoundSocket} {b filled : Buffer} {k next : Kernel}

/-- What is read from the buffer is what the kernel handed over. -/
lemma receive_of_receiveInto {result : Except IoError Notice}
    (taken : s.receiveInto b k = (result, filled, next)) :
    s.receive Channel.bufferLength k = (result.map filled.read, next) := by
  rw [← read_receiveInto s b k, taken]

/-- Waiting with a buffer comes to what waiting without one does. -/
lemma awaitReceive_of_awaitInto {poll : Poll (Except IoError Notice)}
    (awaited : s.awaitInto b k = (poll, filled, next)) :
    s.awaitReceive Channel.bufferLength k = (poll.map (·.map filled.read), next) := by
  fun_induction awaitInto s b k with
  | case1 b k notice filled' next' taken =>
    cases awaited
    rw [awaitReceive_eq, receive_of_receiveInto taken]
    rfl
  | case2 b k filled' next' error taken again none =>
    cases awaited
    rw [awaitReceive_eq, receive_of_receiveInto taken]
    simp [Except.map, again, none, Poll.map]
  | case3 b k filled' next' error taken again some less ih =>
    rw [awaitReceive_eq, receive_of_receiveInto taken]
    simp [Except.map, again, some, ih awaited]
  | case4 b k filled' next' error taken final =>
    cases awaited
    rw [awaitReceive_eq, receive_of_receiveInto taken]
    simp [Except.map, final, Poll.map]

end BoundSocket

namespace BufferedChannel

lemma awaitIncoming_eq (s : BoundSocket) (b : Buffer) (k : Kernel) :
    ((awaitIncoming s b k).1, (awaitIncoming s b k).2.2) = Channel.awaitIncoming s k := by
  fun_induction awaitIncoming s b k with
  | case1 b k filled next awaited =>
    rw [Channel.awaitIncoming_eq, BoundSocket.awaitReceive_of_awaitInto awaited]
    rfl
  | case2 b k error filled next awaited =>
    rw [Channel.awaitIncoming_eq, BoundSocket.awaitReceive_of_awaitInto awaited]
    rfl
  | case3 b k notice filled next awaited outgoing less ih =>
    rw [Channel.awaitIncoming_eq, BoundSocket.awaitReceive_of_awaitInto awaited, ih]
    exact (if_pos outgoing).symm
  | case4 b k notice filled next awaited incoming =>
    rw [Channel.awaitIncoming_eq, BoundSocket.awaitReceive_of_awaitInto awaited]
    exact (if_neg incoming).symm

variable (c : BufferedChannel)

lemma receive_eq : (c.receive.1, c.receive.2.channel) = c.channel.receive := by
  obtain ⟨⟨k, socket⟩, b⟩ := c
  cases socket with
  | none => rfl
  | some s =>
    rw [Channel.receive]
    dsimp only
    rw [← awaitIncoming_eq s b k]
    rfl

/-- Every operation over the buffer answers as the channel does. -/
lemma perform_eq (operation : Channel.Operation) :
    ((c.perform operation).1, (c.perform operation).2.channel) = c.channel.perform operation := by
  cases operation with
  | receive =>
    rw [Channel.perform, ← c.receive_eq]
    rfl
  | send frame => rfl
  | close => rfl

/-- The buffer changes nothing in what calls come to, whatever it holds at first. -/
lemma run_buffered (operations : List Channel.Operation) :
    ((c.run operations).1, (c.run operations).2.channel) = c.channel.run operations := by
  induction operations generalizing c with
  | nil => rfl
  | cons operation operations ih =>
    rw [Channel.run, ← c.perform_eq operation]
    dsimp only
    rw [← ih]
    rfl

end BufferedChannel

namespace Channel

/-- Calls to receive and to send on an open channel, whatever is in its buffer.

The buffer does not show in any calls. Of `n` calls to receive, each one comes to the next outcome
that is due, and those that are left over are still waiting. Due are the frames of other hosts, each
cut to 1500 bytes, up to the first failure, which is one of the transport. Each answer that is used
up is a system call for a whole buffer and a whole address, and so is each call that is still
waiting; nothing else about the kernel changes. A call to send makes the same system call for the
whole frame until it is not told to try again, at the address that the socket was bound to, and
comes to what the last one came to. -/
theorem receiving_exact (s : BoundSocket) (k : Kernel) (b : Buffer) :
    let c : BufferedChannel := ⟨⟨k, some s⟩, b⟩
    let due := outcomes k.receipts
    let heard := (frames k.receipts).map fun bytes =>
      Answer.received (.ready (.ok (bytes.take 1500)))
    (∀ operations, ((c.run operations).1, (c.run operations).2.channel) =
      run ⟨k, some s⟩ operations) ∧
    (∀ n, ∃ used rest, k.receipts = used ++ rest ∧ outcomes used = due.take n ∧
      (c.run (List.replicate n .receive)).1 =
        (due.take n).map (fun outcome => .received (.ready outcome)) ++
          List.replicate (n - due.length) (.received .pending) ∧
      (c.run (List.replicate n .receive)).2.channel =
        ⟨{ k with
            receipts := rest
            trace := k.trace ++
              List.replicate (used.length + (n - due.length)) (.receiveFrom 1500 0 20) },
          some s⟩) ∧
    (fault? k.receipts = none →
      (c.run (List.replicate (frames k.receipts).length .receive)).1 = heard) ∧
    (∀ errno, fault? k.receipts = some errno →
      (c.run (List.replicate ((frames k.receipts).length + 1) .receive)).1 =
        heard ++ [.received (.ready (.error (.transport (.os errno))))]) ∧
    (∀ frame,
      let waits := (k.sends.takeWhile (· = .fails 11)).length
      let sends := k.sends.dropWhile (· = .fails 11)
      let last := sends.head?.getD (.sent frame.length)
      (c.perform (.send frame)).1 = .sent ((last.result.map fun _ => ()).mapError .transport) ∧
      (c.perform (.send frame)).2 =
        ⟨⟨{ k with
              sends := sends.tail
              trace := k.trace ++ List.replicate (waits + 1) (.sendTo frame 0 s.address) },
            some s⟩, b⟩) ∧
    (∀ iface before log, attach iface before = (.ok log, ⟨k, some s⟩) →
      k.trace.getLast? = some (.bind s.address)) := by
  intro c due heard
  have buffered := c.run_buffered
  have answers (operations : List Operation) :
      (c.run operations).1 = (run ⟨k, some s⟩ operations).1 :=
    congrArg Prod.fst (buffered operations)
  refine ⟨buffered, fun n => ?_, fun silent => ?_, fun errno fault => ?_, fun frame => ?_,
    fun iface before log opens => trace_of_attach opens⟩
  · obtain ⟨used, rest, split, taken, received⟩ := run_receive s k n
    rw [← buffered] at received
    obtain ⟨answered, left⟩ := Prod.mk.inj received
    exact ⟨used, rest, split, taken, answered, left⟩
  · rw [answers, run_receive_of_silent s silent]
  · rw [answers, run_receive_of_fault s fault]
  · have sent := perform_send s k frame
    rw [← c.perform_eq] at sent
    obtain ⟨answered, left⟩ := Prod.mk.inj sent
    refine ⟨answered, ?_⟩
    show (⟨(c.perform (.send frame)).2.channel, b⟩ : BufferedChannel) = _
    rw [left]

end Channel

end ArpProbe.Packet
