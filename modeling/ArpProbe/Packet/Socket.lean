import ArpProbe.Packet.Kernel

/-!
# Packet sockets

A packet socket is made for one protocol, set up, and then bound to one interface. Binding uses it
up: either it becomes a bound socket or its descriptor is closed. Frames go over bound sockets only.
A waiting socket makes its call again whenever the call could not go on at once.
-/

namespace ArpProbe.Packet

/-- The protocol number of all frames. -/
def Protocol.all : UInt16 := 3

/-- The protocol number of ARP messages. -/
def Protocol.arp : UInt16 := 0x0806

/-- The status flag of descriptors whose calls never wait. -/
def nonBlocking : UInt32 := 2048

/-- The number of bytes that the name of an interface may take, its terminator included. -/
def nameCapacity : Nat := 16

/-- The name of an interface does not fit its place. -/
def nameTooLong : IoError :=
  .custom .invalidInput "interface name is longer than IFNAMSIZ"

/-- A packet socket that is not bound yet. -/
structure Socket where
  protocol : UInt16
deriving DecidableEq, Repr

/-- A packet socket bound to an interface. -/
structure BoundSocket where
  address : Address
deriving DecidableEq, Repr

namespace Socket

def create (protocol : UInt16) (k : Kernel) : Except IoError Socket × Kernel :=
  match k.socket protocol with
  | (.error error, k) => (.error error, k)
  | (.ok (), k) => (.ok ⟨protocol⟩, k)

/-- Switches waiting off or on, and leaves all other flags alone. -/
def setNonBlocking (on : Bool) (k : Kernel) : Except IoError Unit × Kernel :=
  match k.getFlags with
  | (.error error, k) => (.error error, k)
  | (.ok flags, k) =>
    k.setFlags (if on then flags ||| nonBlocking else flags &&& ~~~nonBlocking)

/-- The address that the socket is bound to on the interface of the given index. -/
def addressOn (s : Socket) (index : UInt32) : Address where
  protocol := Bytes.swapWord s.protocol
  index := index.toInt32.toInt

/-- Binds the socket to the interface of the given name, or closes it. -/
def bind (s : Socket) (name : Bytes) (k : Kernel) : Except IoError BoundSocket × Kernel :=
  if nameCapacity < name.length + 1 then (.error nameTooLong, k.close)
  else match k.nameToIndex name with
    | (.error error, k) => (.error error, k.close)
    | (.ok index, k) =>
      match k.bind (s.addressOn index) with
      | (.error error, k) => (.error error, k.close)
      | (.ok (), k) => (.ok ⟨s.addressOn index⟩, k)

end Socket

/-- What a call that does not wait comes to: a value, or nothing yet. -/
inductive Poll (α : Type)
  | ready (value : α)
  | pending
deriving DecidableEq, Repr

/-- The outcome of a call that may have to be made again. -/
def Poll.ofResult {α : Type} : Except IoError α → Poll (Except IoError α)
  | .error error => if error.wouldBlock then .pending else .ready (.error error)
  | .ok value => .ready (.ok value)

namespace BoundSocket

/-- A socket for the protocol on the interface of the given name, whose calls never wait. -/
def ofInterface (name : Bytes) (protocol : UInt16) (k : Kernel) :
    Except IoError BoundSocket × Kernel :=
  match Socket.create protocol k with
  | (.error error, k) => (.error error, k)
  | (.ok s, k) =>
    match Socket.setNonBlocking true k with
    | (.error error, k) => (.error error, k.close)
    | (.ok (), k) => s.bind name k

/-- The index of the interface that the socket is bound to. -/
def index (s : BoundSocket) : Int :=
  s.address.index

/-- Sends a frame, which has to bring its Ethernet header along. -/
def send (s : BoundSocket) (frame : Bytes) (k : Kernel) : Except IoError Nat × Kernel :=
  k.sendTo frame s.address

/-- Takes the next frame, cut to the length of the buffer. -/
def receive (_ : BoundSocket) (bufferLength : Nat) (k : Kernel) : Except IoError Received × Kernel :=
  k.receiveFrom bufferLength

/-! ## Waiting -/

/-- Sends a frame, again and again until there is room for it. -/
def awaitSend (s : BoundSocket) (frame : Bytes) (k : Kernel) : Except IoError Nat × Kernel :=
  match sent : s.send frame k with
  | (.ok length, next) => (.ok length, next)
  | (.error error, next) =>
    if error.wouldBlock then
      have := Kernel.sends_lt_of_sendTo sent
      awaitSend s frame next
    else (.error error, next)
termination_by k.sends.length

/-- Asks once for a frame. -/
def pollReceive (s : BoundSocket) (bufferLength : Nat) (k : Kernel) :
    Poll (Except IoError Received) × Kernel :=
  (.ofResult (s.receive bufferLength k).1, (s.receive bufferLength k).2)

/-- Nothing is there once all answers are used up. -/
theorem pollReceive_of_nil {s : BoundSocket} {bufferLength : Nat} {k : Kernel}
    (h : k.receipts = []) : (s.pollReceive bufferLength k).1 = .pending := by
  simp [pollReceive, receive, Kernel.receiveFrom, h, Poll.ofResult]

/-- Asking uses up an answer if there is one. -/
theorem receipts_lt_of_pollReceive {s : BoundSocket} {bufferLength : Nat} {k next : Kernel}
    {poll : Poll (Except IoError Received)} (some : k.receipts ≠ [])
    (h : s.pollReceive bufferLength k = (poll, next)) :
    next.receipts.length < k.receipts.length := by
  obtain ⟨-, rfl⟩ := Prod.mk.inj h
  have := List.length_pos_iff.2 some
  simp only [receive, Kernel.receipts_receiveFrom, List.length_tail]
  omega

/-- Waits for a frame: asks again as long as something was still to come. -/
def awaitReceive (s : BoundSocket) (bufferLength : Nat) (k : Kernel) :
    Poll (Except IoError Received) × Kernel :=
  match polled : s.pollReceive bufferLength k with
  | (.ready result, next) => (.ready result, next)
  | (.pending, next) =>
    if left : k.receipts = [] then (.pending, next)
    else
      have := receipts_lt_of_pollReceive left polled
      awaitReceive s bufferLength next
termination_by k.receipts.length

/-- What came after waiting was still to come. -/
theorem receipts_lt_of_awaitReceive {s : BoundSocket} {bufferLength : Nat} {k next : Kernel}
    {result : Except IoError Received}
    (h : s.awaitReceive bufferLength k = (.ready result, next)) :
    next.receipts.length < k.receipts.length := by
  fun_induction awaitReceive s bufferLength k with
  | case1 k result' next' polled =>
    cases h
    refine receipts_lt_of_pollReceive (fun none => ?_) polled
    simpa [polled] using @pollReceive_of_nil s bufferLength k none
  | case2 => cases h
  | case3 k next' _ _ less ih => exact Nat.lt_trans (ih h) less

end BoundSocket

end ArpProbe.Packet
