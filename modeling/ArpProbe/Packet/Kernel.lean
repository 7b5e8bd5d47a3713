import ArpProbe.Bytes
import ArpProbe.IoError
import ArpProbe.Text.Utf8

/-!
# The kernel's side of a packet socket

The system calls that a packet socket needs, made to a kernel whose answers are laid down
beforehand. The kernel keeps a trace of all calls, in order.
-/

namespace ArpProbe.Packet

/-- The address of a packet socket: a protocol in network byte order and an interface. The fields for
a remote station are zero. -/
structure Address where
  protocol : UInt16
  index : Int
  hardwareType : UInt16 := 0
  packetType : UInt8 := 0
  hardwareLength : UInt8 := 0
  hardwareAddress : Bytes := List.replicate 8 0
deriving DecidableEq, Repr

namespace Address

/-- The family of packet sockets. -/
def family : Nat := 17

/-- The number of bytes of an address. -/
def byteLength : Nat := 20

end Address

/-- A system call. -/
inductive SysCall
  | socket (domain type protocol : Nat)
  | getFlags
  | setFlags (flags : UInt32)
  | nameToIndex (name : Bytes)
  | bind (address : Address)
  | sendTo (frame : Bytes) (flags : Nat) (address : Address)
  | receiveFrom (bufferLength flags addressLength : Nat)
  | close
deriving DecidableEq, Repr

/-- What a call to send comes to. -/
inductive SendAnswer
  | sent (length : Nat)
  | fails (errno : Errno)
deriving DecidableEq, Repr

def SendAnswer.result : SendAnswer → Except IoError Nat
  | sent length => .ok length
  | fails errno => .error (.os errno)

/-- A frame as the kernel hands it over. -/
structure Received where
  bytes : Bytes
  packetType : UInt8
  /-- The interface that the frame was seen on. -/
  index : Int
deriving DecidableEq, Repr

/-- The packet type of frames that this host sent itself. -/
def outgoingType : UInt8 := 4

/-- The frame was sent by this host, and came back from the kernel. -/
def Received.outgoing (received : Received) : Bool :=
  received.packetType == outgoingType

/-- What a call to receive comes to. -/
inductive ReceiveAnswer
  | received (received : Received)
  | fails (errno : Errno)
deriving DecidableEq, Repr

/-- The result for a buffer of the given length, to which a frame is cut. -/
def ReceiveAnswer.result (bufferLength : Nat) : ReceiveAnswer → Except IoError Received
  | received r => .ok { r with bytes := r.bytes.take bufferLength }
  | fails errno => .error (.os errno)

/-- A kernel: which calls fail, what the others return, and the trace of the calls made. -/
structure Kernel where
  socketFault : Option Errno
  getFlagsFault : Option Errno
  setFlagsFault : Option Errno
  /-- How the look at a name fails, whether the name is known or not. -/
  nameToIndexFault : Option Errno := none
  bindFault : Option Errno
  /-- The status flags of the descriptor. -/
  flags : UInt32
  /-- The interfaces by name. -/
  interfaces : List (String × UInt32)
  /-- The answers to calls to send; once they are used up every frame is sent. -/
  sends : List SendAnswer
  /-- The answers to calls to receive; once they are used up nothing is there to receive. -/
  receipts : List ReceiveAnswer
  trace : List SysCall
deriving DecidableEq, Repr

/-- The socket type for whole frames, with the flag that closes it when a program is started. -/
def rawCloseOnExec : Nat := 3 ||| 0x80000

namespace Kernel

/-- The kernel with one more call in its trace. -/
def record (call : SysCall) (k : Kernel) : Kernel :=
  { k with trace := k.trace ++ [call] }

/-- The result of a call that fails if there is a fault. -/
def result (fault : Option Errno) : Except IoError Unit :=
  match fault with
  | some errno => .error (.os errno)
  | none => .ok ()

def socket (protocol : UInt16) (k : Kernel) : Except IoError Unit × Kernel :=
  (result k.socketFault,
    k.record (.socket Address.family rawCloseOnExec (Bytes.swapWord protocol).toNat))

def getFlags (k : Kernel) : Except IoError UInt32 × Kernel :=
  ((result k.getFlagsFault).map fun _ => k.flags, k.record .getFlags)

/-- The flags change only if the call succeeds. -/
def setFlags (flags : UInt32) (k : Kernel) : Except IoError Unit × Kernel :=
  match result k.setFlagsFault with
  | .ok () => (.ok (), { k.record (.setFlags flags) with flags := flags })
  | .error error => (.error error, k.record (.setFlags flags))

/-- The index of the interface of a name. No interface has index zero. -/
def index? (name : Bytes) (k : Kernel) : Option UInt32 :=
  (k.interfaces.find? fun (known, index) => Utf8.encode known == name && index != 0).map Prod.snd

def nameToIndex (name : Bytes) (k : Kernel) : Except IoError UInt32 × Kernel :=
  (match k.nameToIndexFault, k.index? name with
    | some errno, _ => .error (.os errno)
    | none, some index => .ok index
    | none, none => .error (.os Errno.noDevice),
   k.record (.nameToIndex name))

def bind (address : Address) (k : Kernel) : Except IoError Unit × Kernel :=
  (result k.bindFault, k.record (.bind address))

/-- Returns the number of bytes sent. -/
def sendTo (frame : Bytes) (address : Address) (k : Kernel) : Except IoError Nat × Kernel :=
  match k.sends with
  | [] => (.ok frame.length, k.record (.sendTo frame 0 address))
  | answer :: sends => (answer.result, { k.record (.sendTo frame 0 address) with sends })

/-- Returns the next frame. -/
def receiveFrom (bufferLength : Nat) (k : Kernel) : Except IoError Received × Kernel :=
  match k.receipts with
  | [] =>
    (.error (.os Errno.again), k.record (.receiveFrom bufferLength 0 Address.byteLength))
  | answer :: receipts =>
    (answer.result bufferLength,
      { k.record (.receiveFrom bufferLength 0 Address.byteLength) with receipts })

def close (k : Kernel) : Kernel :=
  k.record .close

/-- A call to send that fails uses up an answer. -/
theorem sends_lt_of_sendTo {frame : Bytes} {address : Address} {k next : Kernel} {error : IoError}
    (h : k.sendTo frame address = (.error error, next)) : next.sends.length < k.sends.length := by
  unfold sendTo at h
  split at h
  · cases h
  · next hs =>
    obtain ⟨-, rfl⟩ := Prod.mk.inj h
    simp [hs]

/-- A call to receive uses up an answer if there is one. -/
theorem receipts_receiveFrom (bufferLength : Nat) (k : Kernel) :
    (k.receiveFrom bufferLength).2.receipts = k.receipts.tail := by
  unfold receiveFrom
  split
  · next hs => simp [record, hs]
  · next hs => simp [hs]

end Kernel

end ArpProbe.Packet
