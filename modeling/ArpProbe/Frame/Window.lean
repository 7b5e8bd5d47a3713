import ArpProbe.Frame.Arp

/-!
# Windows on a message

A field of a message is seen through a window on its frame, counted from the place of the payload.
A window that is not all over bytes of the frame shows nothing. Here frames are read, checked and
compared through windows alone, so an answer means that nothing was looked for outside the frame.
-/

namespace ArpProbe.Arp

/-- A window on the payload of a frame, and what the bytes in it are worth. -/
structure Window (α : Type) where
  start : Nat
  length : Nat
  value : Bytes → α

namespace Window

/-- What the window shows of a frame. -/
def look? {α : Type} (window : Window α) (f : Ethernet) : Option α :=
  (f.data.slice? (f.payloadOffset + window.start) window.length).map window.value

/-- The same window, showing the bytes themselves. -/
def raw {α : Type} (window : Window α) : Window Bytes :=
  { window with value := id }

def byte (start : Nat) : Window UInt8 :=
  ⟨start, 1, (·.getD 0 0)⟩

def word (start : Nat) : Window UInt16 :=
  ⟨start, 2, Bytes.word⟩

def mac (start : Nat) : Window Mac :=
  ⟨start, 6, Mac.ofBytes⟩

def ip (start : Nat) : Window Ipv4 :=
  ⟨start, 4, Ipv4.ofBytes⟩

/-! ## The windows of a message -/

def hardwareType : Window UInt16 := word 0

def protocolType : Window UInt16 := word 2

def hardwareAddressLength : Window UInt8 := byte 4

def protocolAddressLength : Window UInt8 := byte 5

def opcode : Window UInt16 := word 6

def senderMac : Window Mac := mac 8

def senderIp : Window Ipv4 := ip 14

def targetMac : Window Mac := mac 18

def targetIp : Window Ipv4 := ip 24

end Window

/-! ## Everything at once -/

/-- All that can be asked of a message and of the header in front of it. -/
structure Reading where
  hardwareType : UInt16
  protocolType : UInt16
  hardwareAddressLength : UInt8
  protocolAddressLength : UInt8
  opcode : UInt16
  op : Option Opcode
  senderHardware : Bytes
  senderProtocol : Bytes
  targetHardware : Bytes
  targetProtocol : Bytes
  senderMac : Mac
  senderIp : Ipv4
  targetMac : Mac
  targetIp : Ipv4
  dest : Mac
  src : Mac
  etherType : UInt16
deriving DecidableEq, Repr

/-- Asks a frame for everything. -/
def reading? (f : Ethernet) : Option Reading := do
  let opcode ← Window.opcode.look? f
  return {
    hardwareType := ← Window.hardwareType.look? f
    protocolType := ← Window.protocolType.look? f
    hardwareAddressLength := ← Window.hardwareAddressLength.look? f
    protocolAddressLength := ← Window.protocolAddressLength.look? f
    opcode
    op := (Opcode.ofCode opcode).toOption
    senderHardware := ← Window.senderMac.raw.look? f
    senderProtocol := ← Window.senderIp.raw.look? f
    targetHardware := ← Window.targetMac.raw.look? f
    targetProtocol := ← Window.targetIp.raw.look? f
    senderMac := ← Window.senderMac.look? f
    senderIp := ← Window.senderIp.look? f
    targetMac := ← Window.targetMac.look? f
    targetIp := ← Window.targetIp.look? f
    dest := ← f.dest?
    src := ← f.src?
    etherType := ← f.etherType? }

/-! ## Checking and comparing -/

/-- Checks a frame from the front: its type, the length of its payload, the lengths of addresses and
the protocol. -/
def examine? (f : Ethernet) : Option (Except FrameFault Ethernet) := do
  if (← f.etherType?) ≠ EtherType.arp then return .error .notArp
  if (← f.payload?).length < payloadLength then return .error .payloadTooShort
  if (← Window.hardwareAddressLength.look? f) ≠ hardwareLength ∨
      (← Window.protocolAddressLength.look? f) ≠ protocolLength then
    return .error .notEthernetIpv4
  if (← Window.protocolType.look? f) ≠ EtherType.ipv4 then return .error .protocolNotIpv4
  return .ok f

/-- Compares the protocol addresses of a reply with those of a request, byte by byte and crosswise. -/
def answers? (f request : Ethernet) : Option Bool := do
  if (Opcode.ofCode (← Window.opcode.look? f)).toOption ≠ some .reply then return false
  if (← Window.senderIp.raw.look? f) ≠ (← Window.targetIp.raw.look? request) then return false
  return (← Window.targetIp.raw.look? f) == (← Window.senderIp.raw.look? request)

/-- The reading of a message that was found whole. -/
def reading (m : Arp) : Reading where
  hardwareType := m.hardwareType
  protocolType := m.protocolType
  hardwareAddressLength := m.hardwareAddressLength
  protocolAddressLength := m.protocolAddressLength
  opcode := m.opcode
  op := m.op?
  senderHardware := m.senderMac.toBytes
  senderProtocol := m.senderIp.toBytes
  targetHardware := m.targetMac.toBytes
  targetProtocol := m.targetIp.toBytes
  senderMac := m.senderMac
  senderIp := m.senderIp
  targetMac := m.targetMac
  targetIp := m.targetIp
  dest := Mac.ofBytes m.frame.data
  src := Mac.ofBytes (m.frame.data.drop 6)
  etherType := Bytes.word (m.frame.data.drop 12)

end ArpProbe.Arp
