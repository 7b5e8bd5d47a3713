import ArpProbe.Link
import ArpProbe.Packet.Socket

/-!
# The link over packet sockets

A channel holds a packet socket until it is closed. It hears ARP traffic only, and leaves out frames
that this host sent itself. No time passes in its calls but the time for which they wait.
-/

namespace ArpProbe.Packet

/-- A channel over a packet socket, and the kernel that it talks to. -/
structure Channel where
  kernel : Kernel
  /-- The socket, while the channel is open. -/
  socket : Option BoundSocket
deriving DecidableEq, Repr

namespace Channel

/-- The length of the buffer that frames are received in; what is longer is cut. -/
def bufferLength : Nat := 1500

/-- The failure of a call on a closed channel. -/
def closedFault : IoError :=
  .custom .notConnected "transport is closed"

/-- The failure of a name with a zero byte in it. -/
def nulFault (position : Nat) : IoError :=
  .custom .invalidInput ("nul byte found in provided data at position: " ++ toString position)

/-- The bytes of a name, none of which may be zero. -/
def nameBytes (name : String) : Except IoError Bytes :=
  match (Utf8.encode name).findIdx? (· == 0) with
  | some position => .error (nulFault position)
  | none => .ok (Utf8.encode name)

/-- Opens a socket for ARP messages on the interface of the given name. -/
def openSocket (name : String) (k : Kernel) : Except IoError BoundSocket × Kernel :=
  match nameBytes name with
  | .error error => (.error error, k)
  | .ok bytes => BoundSocket.ofInterface bytes Protocol.arp k

/-- Opens the channel on an interface. -/
def attach (iface : Interface) (c : Channel) : Except IoError (List LogEntry) × Channel :=
  match openSocket iface.name c.kernel with
  | (.error error, k) => (.error error, { c with kernel := k })
  | (.ok socket, k) => (.ok [.opened iface.name socket.index], ⟨k, some socket⟩)

/-- Sends a frame, when there is room for it. -/
def send (frame : Bytes) (c : Channel) : Except IoError Unit × Channel :=
  match c.socket with
  | none => (.error closedFault, c)
  | some socket =>
    match socket.awaitSend frame c.kernel with
    | (result, k) => (result.map fun _ => (), { c with kernel := k })

/-- Waits for a frame from another host. -/
def awaitIncoming (s : BoundSocket) (k : Kernel) : Poll (Except IoError Bytes) × Kernel :=
  match awaited : s.awaitReceive bufferLength k with
  | (.pending, next) => (.pending, next)
  | (.ready (.error error), next) => (.ready (.error error), next)
  | (.ready (.ok received), next) =>
    if received.outgoing then
      have := BoundSocket.receipts_lt_of_awaitReceive awaited
      awaitIncoming s next
    else (.ready (.ok received.bytes), next)
termination_by k.receipts.length

/-- A frame that came in after waiting was still to come. -/
theorem receipts_lt_of_awaitIncoming {s : BoundSocket} {k next : Kernel}
    {result : Except IoError Bytes} (h : awaitIncoming s k = (.ready result, next)) :
    next.receipts.length < k.receipts.length := by
  fun_induction awaitIncoming s k with
  | case1 => cases h
  | case2 k error next' awaited =>
    cases h
    exact BoundSocket.receipts_lt_of_awaitReceive awaited
  | case3 k received next' awaited _ less ih => exact Nat.lt_trans (ih h) less
  | case4 k received next' awaited =>
    cases h
    exact BoundSocket.receipts_lt_of_awaitReceive awaited

/-- Waits for the next frame. -/
def receive (c : Channel) : Poll (Except IoError Bytes) × Channel :=
  match c.socket with
  | none => (.ready (.error closedFault), c)
  | some socket =>
    match awaitIncoming socket c.kernel with
    | (poll, k) => (poll, { c with kernel := k })

/-- Closes the channel; a closed one stays as it is. -/
def close (c : Channel) : Channel :=
  match c.socket with
  | none => c
  | some _ => ⟨c.kernel.close, none⟩

/-! ## The link -/

/-- What a wait over the channel comes to. -/
def reception (c : Channel) : Reception Channel :=
  match c.receive with
  | (.pending, next) => .silence next
  | (.ready (.error error), next) => .event 0 (.failure error) next
  | (.ready (.ok bytes), next) => .event 0 (.frame bytes none) next

/-- A frame that is received leaves fewer answers. -/
theorem receipts_lt_of_reception {c next : Channel} {after : Nat} {bytes : Bytes}
    {stamp : Option Nat} (h : c.reception = .event after (.frame bytes stamp) next) :
    next.kernel.receipts.length < c.kernel.receipts.length := by
  unfold reception at h
  split at h
  · cases h
  · cases h
  · next received =>
    cases h
    unfold receive at received
    split at received
    · cases received
    · split at received
      next awaited =>
        cases received
        exact receipts_lt_of_awaitIncoming awaited

/-- The link over packet sockets. -/
def link : Link Channel where
  attach := attach
  send frame c := ⟨0, (c.send frame).1, (c.send frame).2⟩
  receive := reception
  close := close
  pending c := c.kernel.receipts.length
  pending_lt := receipts_lt_of_reception

end Channel

end ArpProbe.Packet
