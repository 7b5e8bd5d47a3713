import ArpProbe.Packet.Session

/-!
# The buffer of a channel

A channel receives all of its frames in one buffer. The kernel writes a frame over the first bytes
of what the buffer holds and says how long the frame is, and the channel hands out as many bytes
from the front of the buffer. What was in the buffer before is still there behind them.
-/

namespace ArpProbe.Packet

/-- The place that frames are received in. It never gets shorter or longer. -/
structure Buffer where
  bytes : Bytes
  length_eq : bytes.length = Channel.bufferLength

namespace Buffer

/-- A new buffer holds zeros. -/
def zeros : Buffer :=
  ⟨List.replicate Channel.bufferLength 0, List.length_replicate⟩

instance : Inhabited Buffer := ⟨zeros⟩

/-- The buffer with a frame written over its first bytes, as far as the frame fits. -/
def overwrite (b : Buffer) (frame : Bytes) : Buffer where
  bytes := frame.take b.bytes.length ++ b.bytes.drop frame.length
  length_eq := by
    rw [List.length_append, List.length_take, List.length_drop, ← b.length_eq]
    omega

/-- The first bytes of the buffer. -/
def front (b : Buffer) (length : Nat) : Bytes :=
  b.bytes.take length

end Buffer

/-- What the kernel says of a frame that it put into a buffer. -/
structure Notice where
  length : Nat
  packetType : UInt8
  index : Int
deriving DecidableEq, Repr

/-- The frame was sent by this host. -/
def Notice.outgoing (notice : Notice) : Bool :=
  notice.packetType == outgoingType

namespace BoundSocket

/-- Takes the next frame into the buffer. If there is none, the buffer stays as it is. -/
def receiveInto (_ : BoundSocket) (b : Buffer) (k : Kernel) :
    Except IoError Notice × Buffer × Kernel :=
  match k.receiveFrom b.bytes.length with
  | (.error error, next) => (.error error, b, next)
  | (.ok r, next) => (.ok ⟨r.bytes.length, r.packetType, r.index⟩, b.overwrite r.bytes, next)

/-- A call to receive takes one answer. -/
theorem receipts_of_receiveInto {s : BoundSocket} {b filled : Buffer} {k next : Kernel}
    {result : Except IoError Notice} (h : s.receiveInto b k = (result, filled, next)) :
    next.receipts = k.receipts.tail := by
  have receipts := Kernel.receipts_receiveFrom b.bytes.length k
  unfold receiveInto at h
  split at h
  all_goals
    next called =>
      cases h
      rwa [called] at receipts

/-- Only an answer of the kernel brings a frame. -/
theorem receipts_ne_nil_of_receiveInto {s : BoundSocket} {b filled : Buffer} {k next : Kernel}
    {notice : Notice} (h : s.receiveInto b k = (.ok notice, filled, next)) : k.receipts ≠ [] := by
  intro none
  simp [receiveInto, Kernel.receiveFrom, none] at h

/-- Waits for a frame: asks again as long as something was still to come. -/
def awaitInto (s : BoundSocket) (b : Buffer) (k : Kernel) :
    Poll (Except IoError Notice) × Buffer × Kernel :=
  match taken : s.receiveInto b k with
  | (.ok notice, filled, next) => (.ready (.ok notice), filled, next)
  | (.error error, filled, next) =>
    if error.wouldBlock then
      if left : k.receipts = [] then (.pending, filled, next)
      else
        have : next.receipts.length < k.receipts.length := by
          have := List.length_pos_iff.2 left
          rw [receipts_of_receiveInto taken, List.length_tail]
          omega
        awaitInto s filled next
    else (.ready (.error error), filled, next)
termination_by k.receipts.length

/-- A wait that ends with a frame leaves fewer answers. -/
theorem receipts_lt_of_awaitInto {s : BoundSocket} {b filled : Buffer} {k next : Kernel}
    {notice : Notice} (h : s.awaitInto b k = (.ready (.ok notice), filled, next)) :
    next.receipts.length < k.receipts.length := by
  fun_induction awaitInto s b k with
  | case1 b k notice' filled' next' taken =>
    cases h
    have := List.length_pos_iff.2 (receipts_ne_nil_of_receiveInto taken)
    rw [receipts_of_receiveInto taken, List.length_tail]
    omega
  | case2 => cases h
  | case3 _ _ _ _ _ _ _ _ less ih => exact Nat.lt_trans (ih h) less
  | case4 => cases h

end BoundSocket

/-- A channel together with its buffer. -/
structure BufferedChannel where
  channel : Channel
  buffer : Buffer

namespace BufferedChannel

/-- Waits for a frame from another host, and reads it out of the buffer. -/
def awaitIncoming (s : BoundSocket) (b : Buffer) (k : Kernel) :
    Poll (Except IoError Bytes) × Buffer × Kernel :=
  match awaited : s.awaitInto b k with
  | (.pending, filled, next) => (.pending, filled, next)
  | (.ready (.error error), filled, next) => (.ready (.error error), filled, next)
  | (.ready (.ok notice), filled, next) =>
    if notice.outgoing then
      have := BoundSocket.receipts_lt_of_awaitInto awaited
      awaitIncoming s filled next
    else (.ready (.ok (filled.front notice.length)), filled, next)
termination_by k.receipts.length

/-- Waits for the next frame. -/
def receive (c : BufferedChannel) : Poll (Except IoError Bytes) × BufferedChannel :=
  match c.channel.socket with
  | none => (.ready (.error Channel.closedFault), c)
  | some socket =>
    match awaitIncoming socket c.buffer c.channel.kernel with
    | (poll, filled, k) => (poll, ⟨{ c.channel with kernel := k }, filled⟩)

/-- Makes one call. Only frames that are received go through the buffer. -/
def perform (c : BufferedChannel) : Channel.Operation → Channel.Answer × BufferedChannel
  | .receive =>
    match c.receive with
    | (poll, next) => (.received (poll.map (·.mapError .transport)), next)
  | operation =>
    match c.channel.perform operation with
    | (answer, next) => (answer, { c with channel := next })

/-- Makes one call after another. -/
def run (c : BufferedChannel) : List Channel.Operation → List Channel.Answer × BufferedChannel
  | [] => ([], c)
  | operation :: operations =>
    match c.perform operation with
    | (answer, next) =>
      match next.run operations with
      | (answers, last) => (answer :: answers, last)

end BufferedChannel

end ArpProbe.Packet
