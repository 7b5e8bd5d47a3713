import ArpProbe.Packet.Polling
import ArpProbe.Proofs.Packet.Receiving

/-!
# Abandoned calls to receive

A call to receive may be abandoned whenever it waits, and nothing is lost by that: at the only
place where it waits it holds no frame, since all that it took from the kernel by then was to be
passed over (`poll_spec`). So calls of which some are abandoned bring what the same polls bring
without that, and in the end all that was to come: `abandoning_exact`.
-/

namespace ArpProbe.Packet

/-! ## Answers -/

/-- Only to try again and the own frames of this host are passed over. -/
lemma ReceiveAnswer.outcome?_eq_none_iff {answer : ReceiveAnswer} : answer.outcome? = none ↔
    answer = .fails 11 ∨ ∃ own, answer = .received own ∧ own.packetType = 4 := by
  cases answer <;> simp [outcome?]

/-- The frames among what calls come to are those of other hosts. -/
lemma filterMap_toOption_outcomes (receipts : List ReceiveAnswer) :
    (outcomes receipts).filterMap Except.toOption =
      (receipts.filterMap ReceiveAnswer.frame?).map (·.take 1500) := by
  rw [outcomes, List.filterMap_filterMap, List.map_filterMap]
  congr 1
  funext answer
  cases frame : answer.frame? with
  | some bytes =>
    rw [ReceiveAnswer.outcome?_of_frame frame]
    rfl
  | none =>
    cases fault : answer.fault? with
    | some errno =>
      rw [ReceiveAnswer.outcome?_of_fault fault]
      rfl
    | none =>
      rw [ReceiveAnswer.outcome?_of_skipped frame fault]
      rfl

/-! ## One try -/

/-- What the kernel says of a frame that it put into the buffer. -/
def Received.notice (r : Received) : Notice :=
  ⟨(r.bytes.take 1500).length, r.packetType, r.index⟩

namespace BoundSocket

variable {s : BoundSocket} {b : Buffer} {k : Kernel} {rest : List ReceiveAnswer}

lemma receiveInto_of_nil (none : k.receipts = []) :
    s.receiveInto b k = (.error (.os Errno.again), b, Channel.asked k) := by
  rw [receiveInto, Channel.asked, b.length_eq, Kernel.receiveFrom, none]

lemma receiveInto_of_fails {errno : Errno} (receipts : k.receipts = .fails errno :: rest) :
    s.receiveInto b k = (.error (.os errno), b, Channel.asked k) := by
  rw [receiveInto, Channel.asked, b.length_eq, Kernel.receiveFrom, receipts]
  rfl

/-- A frame is put over what the buffer holds, and cut to its length. -/
lemma receiveInto_of_received {r : Received} (receipts : k.receipts = .received r :: rest) :
    s.receiveInto b k = (.ok r.notice, b.overwrite (r.bytes.take 1500), Channel.asked k) := by
  rw [receiveInto, Channel.asked, b.length_eq, Kernel.receiveFrom, receipts]
  rfl

end BoundSocket

namespace Receiver

/-- A call at some stage, on an open channel. -/
def opened (s : BoundSocket) (b : Buffer) (k : Kernel) (stage : Stage) : Receiver :=
  ⟨⟨⟨k, some s⟩, b⟩, stage⟩

/-- A poll takes steps until the call returns or has to wait. -/
lemma poll_eq (tries : Nat) (r : Receiver) :
    r.poll tries =
      match r.stage.pass? tries with
      | none => (.pending, r)
      | some left =>
        match r.stage.step r.channel with
        | (.returns result, channel) => (.ready result, ⟨channel, .looking⟩)
        | (.goesOn stage, channel) => (⟨channel, stage⟩ : Receiver).poll left := by
  rw [poll]
  split
  · simp_all
  · split <;> simp_all

section

variable {s : BoundSocket} {b : Buffer} {k : Kernel} {answer : ReceiveAnswer}
  {rest : List ReceiveAnswer} {tries : Nat}

/-- A call waits when the socket cannot be read. -/
lemma poll_zero : (opened s b k (.waiting s)).poll 0 = (.pending, opened s b k (.waiting s)) := by
  rw [poll_eq]
  rfl

/-- A new call comes to wait for the socket of the channel. -/
lemma poll_looking :
    (opened s b k .looking).poll tries = (opened s b k (.waiting s)).poll tries := by
  rw [poll_eq]
  rfl

/-- A try that brings an error ends the call, or brings it back to where it waits. -/
lemma poll_of_error {error : IoError} {filled : Buffer} {next : Kernel}
    (taken : s.receiveInto b k = (.error error, filled, next)) :
    (opened s b k (.waiting s)).poll (tries + 1) =
      if error.wouldBlock then (opened s filled next (.waiting s)).poll tries
      else (.ready (.error error), opened s filled next .looking) := by
  rw [poll_eq]
  simp only [opened, Stage.pass?, Stage.step, taken]
  cases error.wouldBlock <;> rfl

/-- A frame that is there is returned in the same poll, or the call is back where it waits. -/
lemma poll_of_ok {notice : Notice} {filled : Buffer} {next : Kernel}
    (taken : s.receiveInto b k = (.ok notice, filled, next)) :
    (opened s b k (.waiting s)).poll (tries + 1) =
      if notice.outgoing then (opened s filled next (.waiting s)).poll tries
      else (.ready (.ok (filled.front notice.length)), opened s filled next .looking) := by
  have held : (opened s b k (.waiting s)).poll (tries + 1) =
      (opened s filled next (.holding notice)).poll tries := by
    rw [poll_eq]
    simp only [opened, Stage.pass?, Stage.step, taken]
  rw [held, poll_eq, ← poll_looking]
  simp only [opened, Stage.pass?, Stage.step]
  cases notice.outgoing <;> rfl

lemma poll_of_nil (none : k.receipts = []) :
    (opened s b k (.waiting s)).poll (tries + 1) =
      (opened s b (Channel.asked k) (.waiting s)).poll tries := by
  rw [poll_of_error (BoundSocket.receiveInto_of_nil none)]
  exact if_pos ((IoError.wouldBlock_os Errno.again).2 rfl)

/-- The frame of another host is returned in the poll that took it. -/
lemma poll_of_frame {bytes : Bytes} (receipts : k.receipts = answer :: rest)
    (frame : answer.frame? = some bytes) :
    ∃ filled, (opened s b k (.waiting s)).poll (tries + 1) =
      (.ready (.ok (bytes.take 1500)), opened s filled (Channel.asked k) .looking) := by
  cases answer with
  | fails errno => cases frame
  | received r =>
    obtain ⟨incoming, rfl⟩ : ¬ r.outgoing = true ∧ r.bytes = bytes := by
      simpa [ReceiveAnswer.frame?] using frame
    have fits : (r.bytes.take 1500).length ≤ b.bytes.length := by
      rw [b.length_eq]
      exact List.length_take_le _ _
    have whole : (b.overwrite (r.bytes.take 1500)).front r.notice.length = r.bytes.take 1500 :=
      b.front_overwrite fits
    refine ⟨b.overwrite (r.bytes.take 1500), ?_⟩
    rw [poll_of_ok (BoundSocket.receiveInto_of_received receipts), whole]
    exact if_neg incoming

lemma poll_of_fault {errno : Errno} (receipts : k.receipts = answer :: rest)
    (fault : answer.fault? = some errno) :
    (opened s b k (.waiting s)).poll (tries + 1) =
      (.ready (.error (.os errno)), opened s b (Channel.asked k) .looking) := by
  cases answer with
  | received r => cases fault
  | fails errno' =>
    obtain ⟨final, rfl⟩ : ¬ errno' = Errno.again ∧ errno' = errno := by
      simpa [ReceiveAnswer.fault?] using fault
    rw [poll_of_error (BoundSocket.receiveInto_of_fails receipts)]
    exact if_neg ((IoError.wouldBlock_os _).not.2 final)

/-- After an answer that is passed over, the call is back where it waits. -/
lemma poll_of_skipped (receipts : k.receipts = answer :: rest) (frame : answer.frame? = none)
    (fault : answer.fault? = none) :
    ∃ filled, (opened s b k (.waiting s)).poll (tries + 1) =
      (opened s filled (Channel.asked k) (.waiting s)).poll tries := by
  cases answer with
  | received r =>
    have outgoing : r.outgoing = true := by simpa [ReceiveAnswer.frame?] using frame
    refine ⟨b.overwrite (r.bytes.take 1500), ?_⟩
    rw [poll_of_ok (BoundSocket.receiveInto_of_received receipts)]
    exact if_pos outgoing
  | fails errno =>
    have again : errno = Errno.again := by simpa [ReceiveAnswer.fault?] using fault
    refine ⟨b, ?_⟩
    rw [poll_of_error (BoundSocket.receiveInto_of_fails receipts)]
    exact if_pos ((IoError.wouldBlock_os _).2 again)

end

/-! ## One poll -/

/-- What a poll of a waiting call comes to. Either it waits again and all that it took was to be
passed over, or it returns what the first other answer comes to. If the socket can be read,
something is taken unless nothing is left. -/
inductive Polled (s : BoundSocket) (k : Kernel) (tries : Nat) :
    Poll (Except IoError Bytes) × Receiver → Prop
  | waits (passed : List ReceiveAnswer) {next : Kernel} {filled : Buffer}
      (split : k.receipts = passed ++ next.receipts) (nothing : outcomes passed = [])
      (reads : 0 < tries → passed ≠ [] ∨ next.receipts = []) :
      Polled s k tries (.pending, opened s filled next (.waiting s))
  | returns (passed : List ReceiveAnswer) {answer : ReceiveAnswer} {next : Kernel}
      {filled : Buffer} {result : Except IoError Bytes}
      (split : k.receipts = passed ++ answer :: next.receipts) (nothing : outcomes passed = [])
      (ends : answer.outcome? = some (result.mapError .transport)) :
      Polled s k tries (.ready result, opened s filled next .looking)

section

variable {s : BoundSocket} {k next : Kernel} {tries : Nat}
  {polled : Poll (Except IoError Bytes) × Receiver}

/-- A look that finds nothing adds nothing to what the rest of the poll comes to. -/
lemma Polled.of_nil (later : Polled s next tries polled) (none : k.receipts = [])
    (left : next.receipts = []) : Polled s k (tries + 1) polled := by
  cases later with
  | waits passed split nothing reads =>
    rw [left] at split
    obtain ⟨rfl, left⟩ := List.append_eq_nil_iff.1 split.symm
    exact .waits [] (by rw [none, left]; rfl) rfl fun _ => .inr left
  | returns passed split nothing ends => simp [left] at split

/-- An answer that is passed over comes before those that the rest of the poll passes over. -/
lemma Polled.of_skipped (later : Polled s next tries polled) {answer : ReceiveAnswer}
    (receipts : k.receipts = answer :: next.receipts) (skipped : answer.outcome? = none) :
    Polled s k (tries + 1) polled := by
  cases later with
  | waits passed split nothing reads =>
    refine .waits (answer :: passed) (by rw [receipts, split]; rfl) ?_ fun _ => .inl (by simp)
    rw [outcomes_cons_of_none skipped, nothing]
  | returns passed split nothing ends =>
    refine .returns (answer :: passed) (by rw [receipts, split]; rfl) ?_ ends
    rw [outcomes_cons_of_none skipped, nothing]

end

/-- Every poll of a waiting call comes to one of the two. -/
lemma poll_spec (s : BoundSocket) (b : Buffer) (k : Kernel) (tries : Nat) :
    Polled s k tries ((opened s b k (.waiting s)).poll tries) := by
  -- each time the socket can be read takes one answer, so the induction is on these
  induction tries generalizing b k with
  | zero =>
    rw [poll_zero]
    exact .waits [] rfl rfl (by simp)
  | succ tries ih =>
    cases receipts : k.receipts with
    | nil =>
      have left : (Channel.asked k).receipts = [] := by
        rw [Channel.receipts_asked, receipts, List.tail_nil]
      rw [poll_of_nil receipts]
      exact (ih b (Channel.asked k)).of_nil receipts left
    | cons answer rest =>
      have left : (Channel.asked k).receipts = rest := by
        rw [Channel.receipts_asked, receipts, List.tail_cons]
      have first : k.receipts = answer :: (Channel.asked k).receipts := by rw [receipts, left]
      cases frame : answer.frame? with
      | some bytes =>
        obtain ⟨filled, polled⟩ := @poll_of_frame s b k answer rest tries bytes receipts frame
        rw [polled]
        exact .returns [] first rfl (ReceiveAnswer.outcome?_of_frame frame)
      | none =>
        cases fault : answer.fault? with
        | some errno =>
          rw [poll_of_fault receipts fault]
          exact .returns [] first rfl (ReceiveAnswer.outcome?_of_fault fault)
        | none =>
          obtain ⟨filled, polled⟩ := @poll_of_skipped s b k answer rest tries receipts frame fault
          rw [polled]
          exact (ih filled (Channel.asked k)).of_skipped first
            (ReceiveAnswer.outcome?_of_skipped frame fault)

/-- A call that can be polled through comes to what it comes to without polls. -/
lemma poll_eq_awaitIncoming (s : BoundSocket) (b : Buffer) (k : Kernel) :
    ∃ filled stage, (opened s b k (.waiting s)).poll (k.receipts.length + 1) =
      ((Channel.awaitIncoming s k).1, opened s filled (Channel.awaitIncoming s k).2 stage) := by
  -- one readiness for each answer is enough to get through all of them
  induction receipts : k.receipts generalizing b k with
  | nil =>
    rw [List.length_nil, poll_of_nil receipts, poll_zero, Channel.awaitIncoming_of_nil receipts]
    exact ⟨b, .waiting s, rfl⟩
  | cons answer rest ih =>
    have left : (Channel.asked k).receipts = rest := by
      rw [Channel.receipts_asked, receipts, List.tail_cons]
    rw [List.length_cons]
    cases frame : answer.frame? with
    | some bytes =>
      obtain ⟨filled, polled⟩ :=
        @poll_of_frame s b k answer rest (rest.length + 1) bytes receipts frame
      rw [polled, Channel.awaitIncoming_of_frame receipts frame]
      exact ⟨filled, .looking, rfl⟩
    | none =>
      cases fault : answer.fault? with
      | some errno =>
        rw [poll_of_fault receipts fault, Channel.awaitIncoming_of_fault receipts fault]
        exact ⟨b, .looking, rfl⟩
      | none =>
        obtain ⟨filled, polled⟩ :=
          @poll_of_skipped s b k answer rest (rest.length + 1) receipts frame fault
        rw [polled, Channel.awaitIncoming_of_skipped receipts frame fault]
        exact ih filled (Channel.asked k) left

/-! ## Turns -/

/-- A call between two turns, which has no frame: it is new, or it waits for the socket. -/
inductive Rests (s : BoundSocket) (b : Buffer) (k : Kernel) : Receiver → Prop
  | new : Rests s b k (opened s b k .looking)
  | waiting : Rests s b k (opened s b k (.waiting s))

section

variable {s : BoundSocket} {b : Buffer} {k : Kernel} {r : Receiver}

lemma Rests.stage (rests : Rests s b k r) : r.stage = .looking ∨ r.stage = .waiting s := by
  cases rests with
  | new => exact .inl rfl
  | waiting => exact .inr rfl

lemma Rests.kernel (rests : Rests s b k r) : r.kernel = k := by
  cases rests <;> rfl

/-- A new call and a waiting one are polled alike. -/
lemma Rests.poll_eq (rests : Rests s b k r) (tries : Nat) :
    r.poll tries = (opened s b k (.waiting s)).poll tries := by
  cases rests with
  | new => exact poll_looking
  | waiting => rfl

/-- A call that is abandoned leaves the kernel as it is. -/
lemma Rests.abandon (rests : Rests s b k r) : Rests s b k r.abandon := by
  cases rests <;> exact .new

/-- Whether a call was abandoned cannot be told from the next poll. -/
lemma Rests.take_abandon (rests : Rests s b k r) (tries : Nat) :
    r.abandon.take (.poll tries) = r.take (.poll tries) := by
  rw [take, take, rests.abandon.poll_eq, rests.poll_eq]

/-- A poll after which the call still waits took nothing that a call returns. -/
lemma Rests.exists_of_pending (rests : Rests s b k r) {tries : Nat} {next : Receiver}
    (pending : r.poll tries = (.pending, next)) :
    ∃ passed, k.receipts = passed ++ next.kernel.receipts ∧ outcomes passed = [] := by
  have polled := poll_spec s b k tries
  rw [← rests.poll_eq, pending] at polled
  cases polled with
  | waits passed split nothing reads => exact ⟨passed, split, nothing⟩

/-- What a turn brings is the next of what was to come. A turn in which the socket can be read uses
up an answer if there is one. -/
lemma Rests.exists_of_take (rests : Rests s b k r) (turn : Turn) :
    ∃ filled next, Rests s filled next (r.take turn).2 ∧
      (r.take turn).1.toList ++ outcomes next.receipts = outcomes k.receipts ∧
      next.receipts.length ≤ k.receipts.length - if turn.reads then 1 else 0 := by
  cases turn with
  | abandon => exact ⟨b, k, rests.abandon, rfl, le_rfl⟩
  | poll tries =>
    -- a call that rests is polled as a waiting one is, and that is known
    rw [take, rests.poll_eq]
    have polled := poll_spec s b k tries
    generalize (opened s b k (.waiting s)).poll tries = outcome at polled
    cases polled with
    | @waits passed next filled split nothing reads =>
      refine ⟨filled, next, .waiting, ?_, ?_⟩
      · rw [split, outcomes_append, nothing]
        rfl
      · have count : k.receipts.length = passed.length + next.receipts.length := by
          rw [split, List.length_append]
        simp only [Turn.reads, decide_eq_true_eq]
        split_ifs with readable
        · rcases reads readable with some | none
          · have := List.length_pos_iff.2 some
            omega
          · rw [none, List.length_nil]
            exact Nat.zero_le _
        · omega
    | @returns passed answer next filled result split nothing ends =>
      refine ⟨filled, next, .new, ?_, ?_⟩
      · rw [split, outcomes_append, nothing, outcomes_cons_of_some ends]
        rfl
      · rw [split, List.length_append, List.length_cons]
        split_ifs <;> omega

/-- Whatever the turns, what is returned and what is still to come are the outcomes of all answers,
in order. -/
lemma Rests.exists_of_run (rests : Rests s b k r) (turns : List Turn) :
    ∃ filled next, Rests s filled next (r.run turns).2 ∧
      (r.run turns).1 ++ outcomes next.receipts = outcomes k.receipts ∧
      next.receipts.length ≤ k.receipts.length - turns.countP Turn.reads := by
  induction turns generalizing b k r with
  | nil => exact ⟨b, k, rests, rfl, le_rfl⟩
  | cons turn turns ih =>
    obtain ⟨filled, next, rests, brings, used⟩ := rests.exists_of_take turn
    obtain ⟨filled', last, rests', brings', used'⟩ := ih rests
    refine ⟨filled', last, rests', ?_, ?_⟩
    · rw [← brings, ← brings', ← List.append_assoc]
      rfl
    · rw [List.countP_cons]
      omega

/-- What turns bring, and the channel after them. -/
lemma Rests.run_abandon (rests : Rests s b k r) (turns : List Turn) :
    ((r.abandon.run turns).1, (r.abandon.run turns).2.channel) =
      ((r.run turns).1, (r.run turns).2.channel) := by
  cases turns with
  | nil => rfl
  | cons turn turns =>
    cases turn with
    | poll tries => rw [run, run, rests.take_abandon]
    | abandon => rfl

/-- Turns that abandon a call leave no trace. -/
lemma Rests.run_filter (rests : Rests s b k r) (turns : List Turn) :
    ((r.run (turns.filter (· ≠ .abandon))).1, (r.run (turns.filter (· ≠ .abandon))).2.channel) =
      ((r.run turns).1, (r.run turns).2.channel) := by
  induction turns generalizing b k r with
  | nil => rfl
  | cons turn turns ih =>
    cases turn with
    | abandon =>
      rw [List.filter_cons_of_neg (by simp), ih rests, ← rests.run_abandon]
      rfl
    | poll tries =>
      obtain ⟨filled, next, rests, -, -⟩ := rests.exists_of_take (.poll tries)
      obtain ⟨results, channel⟩ := Prod.mk.inj (ih rests)
      rw [List.filter_cons_of_pos (by simp), run, run]
      dsimp only
      rw [results, channel]

end

/-! ## All turns -/

/-- Calls to receive on an open channel, polled and abandoned in any order, where the socket can be
read any number of times in each poll.

Between polls a call holds no frame: it is new or waits for the socket. A poll after which it waits
took answers to try again and frames that this host sent itself, and nothing else. At any time the
calls have returned the first of all that was to come, each one once and in order, and the rest is
still to come. That is what they return if none is abandoned, and the kernel and the buffer are the
same then, too; and it is what as many calls return that run through without polls. Once the socket
could be read in as many polls as the kernel has answers, all has been returned, and with it every
frame of another host, cut to 1500 bytes. A poll in which the socket can be read until no answer is
left does what a call does that runs through. -/
theorem abandoning_exact (s : BoundSocket) (b : Buffer) (k : Kernel) (turns : List Turn) :
    let r : Receiver := ⟨⟨⟨k, some s⟩, b⟩, .looking⟩
    let results := (r.run turns).1
    let after := (r.run turns).2
    let unbroken := r.run (turns.filter (· ≠ .abandon))
    let single := r.poll (k.receipts.length + 1)
    (after.stage = .looking ∨ after.stage = .waiting s) ∧
    (∀ tries next, after.poll tries = (.pending, next) →
      ∃ passed, after.kernel.receipts = passed ++ next.kernel.receipts ∧
        ∀ answer ∈ passed,
          answer = .fails 11 ∨ ∃ own, answer = .received own ∧ own.packetType = 4) ∧
    results ++ outcomes after.kernel.receipts = outcomes k.receipts ∧
    results = unbroken.1 ∧ after.channel = unbroken.2.channel ∧
    (Channel.run ⟨k, some s⟩ (List.replicate results.length .receive)).1 =
      results.map (fun result => .received (.ready result)) ∧
    (k.receipts.length ≤ turns.countP Turn.reads →
      results = outcomes k.receipts ∧
      results.filterMap Except.toOption =
        (k.receipts.filterMap ReceiveAnswer.frame?).map (·.take 1500)) ∧
    (single.1, single.2.channel.channel) = Channel.receive ⟨k, some s⟩ := by
  intro r results after unbroken single
  have start : Rests s b k r := .new
  obtain ⟨filled, last, rests, brought, used⟩ := start.exists_of_run turns
  obtain ⟨same, channel⟩ := Prod.mk.inj (start.run_filter turns)
  refine ⟨rests.stage, fun tries next pending => ?_, ?_, same.symm, channel.symm, ?_,
    fun often => ?_, ?_⟩
  · obtain ⟨passed, split, nothing⟩ := rests.exists_of_pending pending
    rw [← rests.kernel] at split
    refine ⟨passed, split, fun answer member => ?_⟩
    exact ReceiveAnswer.outcome?_eq_none_iff.1 (List.filterMap_eq_nil_iff.1 nothing answer member)
  · rw [rests.kernel]
    exact brought
  · have due : results.length ≤ (outcomes k.receipts).length :=
      List.IsPrefix.length_le ⟨_, brought⟩
    rw [Channel.run_receive_of_due s due, ← brought, List.take_left]
  · -- no answer is left, so nothing is still to come
    have none : last.receipts = [] := List.length_eq_zero_iff.1 (by omega)
    have all : results = outcomes k.receipts := by
      rw [← brought, none]
      exact (List.append_nil _).symm
    rw [all, filterMap_toOption_outcomes]
    exact ⟨rfl, rfl⟩
  · obtain ⟨filled, stage, polled⟩ := poll_eq_awaitIncoming s b k
    have comes : single = ((Channel.awaitIncoming s k).1,
        opened s filled (Channel.awaitIncoming s k).2 stage) := (start.poll_eq _).trans polled
    rw [comes]
    rfl

/-- The kernel asks to try again, then hands over a frame that this host sent itself and one of
another host. Two calls are abandoned, and the third returns that. -/
example :
    let own : Received := ⟨[1, 2, 3], 4, 2⟩
    let other : Received := ⟨[7], 0, 2⟩
    let k : Kernel :=
      ⟨none, none, none, none, none, 0, [], [], [.fails 11, .received own, .received other], []⟩
    let r := opened ⟨{ protocol := 1544, index := 2 }⟩ .zeros k .looking
    (r.run [.poll 1, .abandon, .poll 1, .abandon, .poll 1]).1.map Except.toOption = [some [7]] := by
  decide +kernel

end Receiver

end ArpProbe.Packet
