import ArpProbe.Packet.Channel
import Mathlib.Tactic.Lemma

/-!
# Waiting on a packet socket, one answer at a time

What a waiting channel does with the next answer of the kernel. An answer to try again is passed
over, and so are frames that this host sent itself; anything else ends the wait. All later proofs
about packet sockets go through these equations.
-/

namespace ArpProbe

/-- One number in the table has the kind of calls to be made again. -/
lemma Errno.eq_again_of_mem {errno : Errno} {row : IoKind × String} (listed : (errno, row) ∈ known)
    (kind : row.1 = .wouldBlock) : errno = again := by
  have single : ∀ row ∈ known, row.2.1 = .wouldBlock → row.1 = again := by decide +kernel
  exact single _ listed kind

/-- Only one error number asks for another try. -/
lemma IoError.wouldBlock_os (errno : Errno) :
    (IoError.os errno).wouldBlock = true ↔ errno = Errno.again := by
  refine ⟨fun asks => ?_, fun same => same ▸ wouldBlock_again⟩
  rw [wouldBlock, beq_iff_eq, kind, Errno.describe] at asks
  cases found : Errno.known.lookup errno with
  | none =>
    rw [found] at asks
    cases asks
  | some row =>
    rw [found] at asks
    obtain ⟨before, after, split, -⟩ := List.lookup_eq_some_iff.1 found
    exact Errno.eq_again_of_mem (split ▸ List.mem_append_right _ List.mem_cons_self) asks

namespace Packet

namespace ReceiveAnswer

/-- The frame of another host, uncut. -/
def frame? : ReceiveAnswer → Option Bytes
  | received r => if r.outgoing then none else some r.bytes
  | fails _ => none

/-- The failure of a call that is not made again. -/
def fault? : ReceiveAnswer → Option Errno
  | received _ => none
  | fails errno => if errno = Errno.again then none else some errno

end ReceiveAnswer

namespace BoundSocket

variable {s : BoundSocket} {k : Kernel}

/-! ## Sending -/

section

variable {frame : Bytes} {answer : SendAnswer} {sends : List SendAnswer}

/-- The call to send is made again. -/
lemma awaitSend_of_again (script : k.sends = .fails Errno.again :: sends) :
    s.awaitSend frame k = s.awaitSend frame (s.send frame k).2 := by
  have sent : s.send frame k = (.error (.os Errno.again), (s.send frame k).2) := by
    rw [send, Kernel.sendTo, script]
    rfl
  have again := (IoError.wouldBlock_os Errno.again).2 rfl
  rw [awaitSend]
  split <;> simp_all

/-- Any other answer to a call to send is the last one. -/
lemma awaitSend_of_ready (script : k.sends.head? ≠ some (.fails Errno.again)) :
    s.awaitSend frame k = s.send frame k := by
  rw [awaitSend]
  split
  · simp_all
  · next error next sent =>
    -- the error came from the script, which does not ask for another try here
    have final : ¬ error.wouldBlock = true := by
      intro again
      rw [send, Kernel.sendTo] at sent
      cases answers : k.sends with
      | nil => simp [answers] at sent
      | cons answer sends =>
        cases answer with
        | sent length => simp [answers, SendAnswer.result] at sent
        | fails errno =>
          simp only [answers, SendAnswer.result, Prod.mk.injEq, Except.error.injEq] at sent
          rw [← sent.1, IoError.wouldBlock_os] at again
          rw [answers, again] at script
          exact script rfl
    rw [if_neg final, sent]

/-- The call is made once for every answer to try again, and once more. -/
lemma awaitSend_eq {waits : Nat}
    (script : k.sends = List.replicate waits (.fails Errno.again) ++ sends)
    (ready : sends.head? ≠ some (.fails Errno.again)) :
    s.awaitSend frame k =
      ((sends.head?.getD (.sent frame.length)).result,
        { k with
          sends := sends.tail
          trace := k.trace ++ List.replicate (waits + 1) (.sendTo frame 0 s.address) }) := by
  induction waits generalizing k with
  | zero =>
    rw [List.replicate_zero, List.nil_append] at script
    rw [awaitSend_of_ready (by rw [script]; exact ready), send, Kernel.sendTo, script]
    cases sends <;> simp [Kernel.record, SendAnswer.result, script]
  | succ waits ih =>
    rw [List.replicate_succ, List.cons_append] at script
    rw [awaitSend_of_again script, send, Kernel.sendTo, script, ih rfl]
    simp [Kernel.record, List.replicate_succ]

end

/-! ## Receiving -/

section

variable {answer : ReceiveAnswer} {receipts : List ReceiveAnswer} {bufferLength : Nat}

/-- A poll takes the next answer, and waits only on one to try again. -/
lemma pollReceive_of_cons (script : k.receipts = answer :: receipts) :
    s.pollReceive bufferLength k =
      (.ofResult (answer.result bufferLength), (s.receive bufferLength k).2) := by
  rw [pollReceive, receive, Kernel.receiveFrom, script]

/-- With nothing left, waiting goes on for ever. -/
lemma awaitReceive_of_nil (script : k.receipts = []) :
    s.awaitReceive bufferLength k = (.pending, (s.receive bufferLength k).2) := by
  have polled : s.pollReceive bufferLength k = (.pending, (s.receive bufferLength k).2) := by
    rw [← pollReceive_of_nil script]
    rfl
  rw [awaitReceive]
  split <;> simp_all

/-- The call to receive is made again. -/
lemma awaitReceive_of_again (script : k.receipts = .fails Errno.again :: receipts) :
    s.awaitReceive bufferLength k = s.awaitReceive bufferLength (s.receive bufferLength k).2 := by
  have polled := @pollReceive_of_cons s k _ _ bufferLength script
  rw [ReceiveAnswer.result, Poll.ofResult, if_pos ((IoError.wouldBlock_os _).2 rfl)] at polled
  rw [awaitReceive]
  split <;> simp_all

/-- Any other answer to a call to receive is the last one. -/
lemma awaitReceive_of_ready (script : k.receipts = answer :: receipts)
    (ready : answer ≠ .fails Errno.again) :
    s.awaitReceive bufferLength k =
      (.ready (answer.result bufferLength), (s.receive bufferLength k).2) := by
  have polled := @pollReceive_of_cons s k _ _ bufferLength script
  have final : Poll.ofResult (answer.result bufferLength) =
      .ready (answer.result bufferLength) := by
    cases answer with
    | received r => rfl
    | fails errno =>
      rw [ReceiveAnswer.result, Poll.ofResult, if_neg]
      rw [IoError.wouldBlock_os]
      rintro rfl
      exact ready rfl
  rw [final] at polled
  rw [awaitReceive]
  split <;> simp_all

end

end BoundSocket

namespace Channel

variable {s : BoundSocket} {k : Kernel} {answer : ReceiveAnswer} {receipts : List ReceiveAnswer}

/-- The kernel after one call to receive into the channel's buffer. -/
def asked (k : Kernel) : Kernel :=
  (k.receiveFrom bufferLength).2

@[simp] lemma receipts_asked : (asked k).receipts = k.receipts.tail :=
  Kernel.receipts_receiveFrom bufferLength k

/-- Waiting for a frame of another host waits again after each own frame. -/
lemma awaitIncoming_eq (s : BoundSocket) (k : Kernel) :
    awaitIncoming s k =
      match s.awaitReceive bufferLength k with
      | (.pending, next) => (.pending, next)
      | (.ready (.error error), next) => (.ready (.error error), next)
      | (.ready (.ok received), next) =>
        if received.outgoing then awaitIncoming s next else (.ready (.ok received.bytes), next) := by
  rw [awaitIncoming]
  split <;> simp_all

lemma awaitIncoming_of_nil (script : k.receipts = []) :
    awaitIncoming s k = (.pending, asked k) := by
  rw [awaitIncoming_eq, BoundSocket.awaitReceive_of_nil script]
  rfl

/-- An answer that is neither a frame of another host nor a failure is passed over. -/
lemma awaitIncoming_of_skipped (script : k.receipts = answer :: receipts)
    (frame : answer.frame? = none) (fault : answer.fault? = none) :
    awaitIncoming s k = awaitIncoming s (asked k) := by
  cases answer with
  | received r =>
    have outgoing : r.outgoing = true := by
      simpa [ReceiveAnswer.frame?] using frame
    rw [awaitIncoming_eq s k, BoundSocket.awaitReceive_of_ready script (by simp)]
    exact if_pos outgoing
  | fails errno =>
    have again : errno = Errno.again := by
      simpa [ReceiveAnswer.fault?] using fault
    rw [again] at script
    rw [awaitIncoming_eq s k, BoundSocket.awaitReceive_of_again script]
    exact (awaitIncoming_eq s (asked k)).symm

/-- A frame of another host is handed over, cut to the length of the buffer. -/
lemma awaitIncoming_of_frame {bytes : Bytes} (script : k.receipts = answer :: receipts)
    (frame : answer.frame? = some bytes) :
    awaitIncoming s k = (.ready (.ok (bytes.take bufferLength)), asked k) := by
  cases answer with
  | received r =>
    obtain ⟨incoming, rfl⟩ : ¬ r.outgoing = true ∧ r.bytes = bytes := by
      simpa [ReceiveAnswer.frame?] using frame
    rw [awaitIncoming_eq, BoundSocket.awaitReceive_of_ready script (by simp)]
    exact if_neg incoming
  | fails errno => cases frame

lemma awaitIncoming_of_fault {errno : Errno} (script : k.receipts = answer :: receipts)
    (fault : answer.fault? = some errno) :
    awaitIncoming s k = (.ready (.error (.os errno)), asked k) := by
  cases answer with
  | received r => cases fault
  | fails errno' =>
    obtain ⟨final, rfl⟩ : ¬ errno' = Errno.again ∧ errno' = errno := by
      simpa [ReceiveAnswer.fault?] using fault
    rw [awaitIncoming_eq, BoundSocket.awaitReceive_of_ready script (by simpa using final)]
    rfl

end Channel

end Packet

end ArpProbe
