import ArpProbe.Address.Mac
import ArpProbe.Host.Interface

/-!
# The log

What a call reports while it runs. An entry has a level, a message and named values.
-/

namespace ArpProbe

/-- How much an entry matters. -/
inductive Level
  | trace
  | debug
deriving DecidableEq, Repr

def Level.text : Level → String
  | trace => "TRACE"
  | debug => "DEBUG"

def Verdict.text : Verdict → String
  | down => "DOWN"
  | otherNetwork => "OTHER NETWORK"
  | usable => "USABLE"

/-- What is reported. -/
inductive LogEntry
  /-- An interface for the destination is looked for. -/
  | search (dst : Ipv4)
  /-- An interface was looked at. -/
  | inspected (iface : String) (verdict : Verdict)
  /-- A socket was bound to an interface. -/
  | opened (iface : String) (index : Int)
  /-- The channel of a ping is open. -/
  | pinging (dst : Ipv4) (iface : String) (src : Ipv4)
  /-- The channel of an announcement is open. -/
  | announcing (iface : String) (src : Ipv4)
  /-- An ARP message came in, which was an answer or was not. -/
  | heard (verbose : Bool) (answer : Bool) (senderIp : Ipv4) (senderMac : Mac)
  /-- A frame came in that is no ARP message. -/
  | notArp (length : Nat)
deriving DecidableEq, Repr

namespace LogEntry

/-- Traffic is of interest only to a verbose ping, and foreign traffic to nobody. -/
def level : LogEntry → Level
  | heard verbose _ _ _ => if verbose then .debug else .trace
  | notArp _ => .trace
  | _ => .debug

def message : LogEntry → String
  | search dst => "search usable interface for " ++ dst.text
  | inspected _ verdict => verdict.text
  | opened _ _ => "opened raw ARP socket"
  | pinging dst iface src =>
    "arping '" ++ dst.text ++ "' over interface: '" ++ iface ++ "' with address: '" ++ src.text ++ "'"
  | announcing iface src =>
    "gratuitous arp over interface: '" ++ iface ++ "' with address: '" ++ src.text ++ "'"
  | heard _ answer ip mac =>
    (if answer then "process" else "ignore") ++ " received arp: srcIP: '" ++ ip.text ++
      "', srcMac: '" ++ mac.text ++ "'"
  | notArp length => "ignore non-arp frame of " ++ toString length ++ " bytes"

/-- The named values of an entry. -/
def values : LogEntry → List (String × String)
  | inspected iface _ => [("iface", iface)]
  | opened iface index => [("iface", iface), ("ifindex", toString index)]
  | _ => []

/-- The entry as one line: level, message, and each value after its name. -/
def line (entry : LogEntry) : String :=
  entry.level.text ++ " " ++ entry.message ++
    String.join (entry.values.map fun (name, value) => " " ++ name ++ "=" ++ value)

/-! ## On a terminal -/

/-- A control character that a terminal would obey, made visible; line ends and tabs stay. -/
def terminalChar (c : Char) : List Char :=
  match c with
  | '\x07' => ['\\', 'x', '0', '7']
  | '\x08' => ['\\', 'x', '0', '8']
  | '\x0c' => ['\\', 'x', '0', 'c']
  | '\x1b' => ['\\', 'x', '1', 'b']
  | '\x7f' => ['\\', 'x', '7', 'f']
  | c =>
    if 0x80 ≤ c.toNat ∧ c.toNat ≤ 0x9f then
      ['\\', 'u', '\x7b'] ++ Hex.number c.toNat ++ ['\x7d']
    else [c]

/-- A level in its colour: blue for debugging, magenta for traces. -/
def terminalLevel : Level → String
  | .trace => "\x1b[35mTRACE\x1b[0m"
  | .debug => "\x1b[34mDEBUG\x1b[0m"

/-- The entry as one line of a terminal: the level in colour, names slanted, equals signs dim. -/
def terminalLine (entry : LogEntry) : String :=
  terminalLevel entry.level ++ " " ++
    String.ofList (entry.message.toList.flatMap terminalChar) ++
    String.join (entry.values.map fun (name, value) =>
      " \x1b[3m" ++ name ++ "\x1b[0m\x1b[2m=\x1b[0m" ++ value)

end LogEntry

end ArpProbe
