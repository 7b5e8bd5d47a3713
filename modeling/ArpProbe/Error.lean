import ArpProbe.Address.Ipv4
import ArpProbe.IoError

/-!
# What a call can fail with

Every failure of a ping or an announcement, its text, and the coarse classes of failures.
-/

namespace ArpProbe

/-- The failures of a ping or an announcement. -/
inductive Error
  /-- The address is not an IPv4 address. -/
  | invalidAddress (given : String)
  /-- No interface has the name. -/
  | interfaceNotFound (name : String)
  /-- No interface that is up has a network with the address. -/
  | noUsableInterface (ip : Ipv4)
  /-- The interface has no network with the address. -/
  | unreachable (iface : String) (ip : Ipv4)
  /-- The interface has no hardware address to send from. -/
  | noHardwareAddress (iface : String)
  /-- The raw channel may not be opened. -/
  | noRawAccess (iface : String) (source : IoError)
  /-- The raw channel cannot be opened. -/
  | interfaceUnavailable (iface : String) (source : IoError)
  /-- Sending or receiving over the open channel failed. -/
  | transport (source : IoError)
  /-- Nobody answered in time. -/
  | timeout
deriving DecidableEq, Repr

/-- The classes of failures that callers tell apart. -/
inductive Category
  /-- Bad input, found before anything is looked up. -/
  | validation
  /-- No interface or local address fits. -/
  | resolution
  /-- The channel failed. -/
  | transport
  /-- Nobody answered, which is no fault. -/
  | timeout
deriving DecidableEq, Repr

namespace Error

def category : Error → Category
  | invalidAddress _ => .validation
  | interfaceNotFound _ | noUsableInterface _ | unreachable _ _ | noHardwareAddress _ => .resolution
  | noRawAccess _ _ | interfaceUnavailable _ _ | transport _ => .transport
  | timeout => .timeout

def message : Error → String
  | invalidAddress given => "not a valid v4 address: " ++ given
  | interfaceNotFound name => "interface '" ++ name ++ "' not found"
  | noUsableInterface ip => "no usable interface found for " ++ ip.text
  | unreachable iface ip => "iface: '" ++ iface ++ "' can't reach ip: '" ++ ip.text ++ "'"
  | noHardwareAddress iface => "interface '" ++ iface ++ "' has no hardware address"
  | noRawAccess iface source =>
    "no raw socket access on '" ++ iface ++ "' (root or cap_net_raw required): " ++ source.message
  | interfaceUnavailable iface source =>
    "interface '" ++ iface ++ "' unavailable: " ++ source.message
  | transport source => "transport error: " ++ source.message
  | timeout => "timeout"

def isTimeout (error : Error) : Bool :=
  error == timeout

/-- The exit status of a command that ends with the error: 1 for a silent target, 2 for a fault. -/
def exitCode (error : Error) : Nat :=
  if error.isTimeout then 1 else 2

/-- The failure of the system call behind the error. -/
def source? : Error → Option IoError
  | noRawAccess _ source | interfaceUnavailable _ source | transport source => some source
  | _ => none

/-- The error for a channel on `iface` that did not open: what is missing is either a right or the
interface. -/
def openFailed (iface : String) (source : IoError) : Error :=
  if source.kind = .permissionDenied then noRawAccess iface source
  else interfaceUnavailable iface source

end Error

end ArpProbe
