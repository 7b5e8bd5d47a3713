import ArpProbe.Address.Ipv4
import ArpProbe.Frame.Ethernet

/-!
# ARP messages

An ARP message about IPv4 addresses on Ethernet takes 28 bytes of a frame's payload: four fixed
fields, the opcode, and a hardware and a protocol address for the sender and for the target. The
frame is checked once; after that every field has its place.
-/

namespace ArpProbe

/-- What a message does. -/
inductive Opcode
  | request
  | reply
deriving DecidableEq, Repr

namespace Opcode

/-- The number of an opcode in a message. -/
def code : Opcode → UInt16
  | request => 1
  | reply => 2

/-- The opcode of the given number; only requests and replies are known. -/
def ofCode (code : UInt16) : Except FrameFault Opcode :=
  if code = 1 then .ok request else if code = 2 then .ok reply else .error .unknownOpcode

@[simp] theorem ofCode_code (op : Opcode) : ofCode op.code = .ok op := by
  cases op <;> rfl

end Opcode

namespace Arp

/-- The hardware type of Ethernet. -/
def ethernetType : UInt16 := 1

/-- The length of a hardware address. -/
def hardwareLength : UInt8 := 6

/-- The length of a protocol address. -/
def protocolLength : UInt8 := 4

/-- The length of a message: eight bytes, and two addresses of each kind. -/
def payloadLength : Nat := 28

/-- The length of a message in its frame. -/
def frameLength : Nat := 42

end Arp

/-- A frame that holds an ARP message. -/
structure Arp where
  frame : Ethernet
  fits : frame.payloadOffset + Arp.payloadLength ≤ frame.data.length

namespace Arp

/-- Messages are the same if their frames carry the same bytes. -/
instance : BEq Arp where
  beq m n := m.frame == n.frame

/-! ## Fields -/

/-- The message and what follows it. -/
def payload (m : Arp) : Bytes :=
  m.frame.data.drop m.frame.payloadOffset

def hardwareType (m : Arp) : UInt16 :=
  Bytes.word m.payload

def protocolType (m : Arp) : UInt16 :=
  Bytes.word (m.payload.drop 2)

def hardwareAddressLength (m : Arp) : UInt8 :=
  m.payload.getD 4 0

def protocolAddressLength (m : Arp) : UInt8 :=
  m.payload.getD 5 0

def opcode (m : Arp) : UInt16 :=
  Bytes.word (m.payload.drop 6)

/-- What the message does, for a request or a reply. -/
def op? (m : Arp) : Option Opcode :=
  (Opcode.ofCode m.opcode).toOption

def senderMac (m : Arp) : Mac :=
  Mac.ofBytes (m.payload.drop 8)

def senderIp (m : Arp) : Ipv4 :=
  Ipv4.ofBytes (m.payload.drop 14)

def targetMac (m : Arp) : Mac :=
  Mac.ofBytes (m.payload.drop 18)

def targetIp (m : Arp) : Ipv4 :=
  Ipv4.ofBytes (m.payload.drop 24)

/-! ## Reading -/

/-- The message, if its fixed fields say that it is about IPv4 addresses on Ethernet. -/
def check (m : Arp) : Except FrameFault Arp :=
  if m.hardwareAddressLength ≠ hardwareLength ∨ m.protocolAddressLength ≠ protocolLength then
    .error .notEthernetIpv4
  else if m.protocolType ≠ EtherType.ipv4 then .error .protocolNotIpv4
  else .ok m

/-- Reads the message in a frame. There is no answer for a frame without a whole header, or with an
ARP type and a payload that starts after its end. -/
def ofEthernet? (f : Ethernet) : Option (Except FrameFault Arp) := do
  if (← f.etherType?) ≠ EtherType.arp then return .error .notArp
  let _ ← f.payload?
  if fits : f.payloadOffset + payloadLength ≤ f.data.length then return check ⟨f, fits⟩
  else return .error .payloadTooShort

/-- Reads the message in the bytes of a frame. Other traffic is no fault. -/
def decode? (bytes : Bytes) : Option Arp := do
  let f ← (Ethernet.ofBytes bytes).toOption
  (← ofEthernet? f).toOption

/-! ## Writing -/

/-- The message of the given operation and addresses, sent to the target at the Ethernet level. -/
def ofFields (op : Opcode) (senderMac : Mac) (senderIp : Ipv4) (targetMac : Mac) (targetIp : Ipv4) :
    Arp where
  frame :=
    { data :=
        targetMac.toBytes ++ senderMac.toBytes ++ Bytes.ofWord EtherType.arp ++
          Bytes.ofWord ethernetType ++ Bytes.ofWord EtherType.ipv4 ++
          [hardwareLength, protocolLength] ++ Bytes.ofWord op.code ++
          senderMac.toBytes ++ senderIp.toBytes ++ targetMac.toBytes ++ targetIp.toBytes
      payloadOffset := Ethernet.headerLength }
  fits := by simp [Ethernet.headerLength, payloadLength]

/-- The question, put to everybody, who has the target address. -/
def request (senderMac : Mac) (senderIp targetIp : Ipv4) : Arp :=
  ofFields .request senderMac senderIp Mac.broadcast targetIp

/-- The bytes on the wire, padded to the least length of a frame. -/
def toBytes (m : Arp) : Bytes :=
  m.frame.toPaddedBytes

/-! ## Correlation -/

/-- The message answers the request: it is a reply from the address that was asked for, to the
address that asked. Hardware addresses do not matter, for the sender's is what is wanted. -/
def isResponseOf (m request : Arp) : Bool :=
  m.op? == some .reply && m.senderIp == request.targetIp && m.targetIp == request.senderIp

end Arp

end ArpProbe
