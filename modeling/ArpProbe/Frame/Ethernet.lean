import ArpProbe.Address.Mac
import ArpProbe.Bytes

/-!
# Ethernet frames

A frame is its bytes together with the place where the payload starts. The header holds the
destination, the source and the type of the payload. The place of the payload can be moved, and a
new payload cuts the bytes there, so every access to a part of the frame may miss it.
-/

namespace ArpProbe

/-- Why bytes, or a frame, are not what is looked for. -/
inductive FrameFault
  | tooShort
  | notArp
  | payloadTooShort
  | notEthernetIpv4
  | protocolNotIpv4
  | unknownOpcode
deriving DecidableEq, Repr

def FrameFault.message : FrameFault → String
  | .tooShort => "Frame is less than the minimum of 14 bytes"
  | .notArp => "Frame does not have ARP ether type."
  | .payloadTooShort => "Frame payload is too small"
  | .notEthernetIpv4 => "Frame is not an Ethernet/IPv4 ARP message"
  | .protocolNotIpv4 => "Frame protocol type is not IPv4"
  | .unknownOpcode => "Unknown ARP opcode"

/-- The type of frames that carry ARP messages. -/
def EtherType.arp : UInt16 := 0x0806

/-- The type of frames that carry IPv4 packets. -/
def EtherType.ipv4 : UInt16 := 0x0800

/-- An Ethernet frame. -/
structure Ethernet where
  data : Bytes
  payloadOffset : Nat
deriving Repr

namespace Ethernet

/-- The length of destination, source and type. -/
def headerLength : Nat := 14

/-- The least length of a frame on the wire. -/
def minimumLength : Nat := 60

/-- Frames are the same if they carry the same bytes. -/
instance : BEq Ethernet where
  beq f g := f.data == g.data

/-- The frame with the given bytes, which hold at least a header. -/
def ofBytes (bytes : Bytes) : Except FrameFault Ethernet :=
  if bytes.length < headerLength then .error .tooShort else .ok ⟨bytes, headerLength⟩

/-- A header of zeros without a payload. -/
def empty : Ethernet :=
  ⟨List.replicate headerLength 0, headerLength⟩

/-! ## Parts of a frame -/

/-- The station that the frame is for. -/
def dest? (f : Ethernet) : Option Mac :=
  (f.data.slice? 0 6).map Mac.ofBytes

/-- The station that the frame is from. -/
def src? (f : Ethernet) : Option Mac :=
  (f.data.slice? 6 6).map Mac.ofBytes

/-- What the payload is. -/
def etherType? (f : Ethernet) : Option UInt16 :=
  (f.data.slice? 12 2).map Bytes.word

/-- The bytes from the place of the payload on, with any padding. -/
def payload? (f : Ethernet) : Option Bytes :=
  if f.payloadOffset ≤ f.data.length then some (f.data.drop f.payloadOffset) else none

/-! ## Changes -/

/-- The frame for another station. -/
def setDest? (f : Ethernet) (mac : Mac) : Option Ethernet :=
  (f.data.patch? 0 mac.toBytes).map ({ f with data := · })

/-- The frame from another station. -/
def setSrc? (f : Ethernet) (mac : Mac) : Option Ethernet :=
  (f.data.patch? 6 mac.toBytes).map ({ f with data := · })

/-- The frame with another type. -/
def setEtherType? (f : Ethernet) (etherType : UInt16) : Option Ethernet :=
  (f.data.patch? 12 (Bytes.ofWord etherType)).map ({ f with data := · })

/-- Puts a payload at its place, after what stands before it. -/
def setPayload (f : Ethernet) (payload : Bytes) : Ethernet :=
  { f with data := f.data.take f.payloadOffset ++ payload }

/-- Moves the place of the payload. -/
def setPayloadOffset (f : Ethernet) (offset : Nat) : Ethernet :=
  { f with payloadOffset := offset }

/-! ## On the wire -/

/-- The bytes of the frame, with zeros up to the least length. -/
def toPaddedBytes (f : Ethernet) : Bytes :=
  f.data ++ List.replicate (minimumLength - f.data.length) 0

end Ethernet

end ArpProbe
