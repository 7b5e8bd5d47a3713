import ArpProbe.Proofs.Address.Given
import ArpProbe.Proofs.CommandLine.Parts
import ArpProbe.Proofs.Duration.Rejection
import Mathlib.Data.List.Nodup

/-!
# Parts in any order

What a command line asks for does not depend on the order of its parts. `parse_arranged` says what
comes of a line from what it holds.
-/

namespace ArpProbe

/-! ## Timeouts in nanoseconds -/

namespace Duration

/-- A whole number of units. -/
def numeral (n : Nat) (unit : String × Nat) : String :=
  String.ofList (Nat.toDigits 10 n ++ unit.1.toList)

/-- A number of nanoseconds, with the unit. -/
def nanoseconds (n : Nat) : String :=
  numeral n ("ns", 1)

variable {unit : String × Nat} (n : Nat) (listed : unit ∈ units)

include listed

omit listed

end Duration

namespace CommandLine

/-- What a command line holds: each flag or not, and at most one text for each switch with a value
and for the address. -/
structure Line where
  verbose : Bool
  gratuitous : Bool
  help : Bool
  interface : Option String
  timeout : Option String
  address : Option String
deriving DecidableEq, Repr

namespace Line

/-- The part of a line with a switch. -/
def part? (line : Line) : Switch → Option Part
  | .verbose => if line.verbose then some (.flag .verbose) else none
  | .gratuitous => if line.gratuitous then some (.flag .gratuitous) else none
  | .help => if line.help then some (.flag .help) else none
  | .interface => line.interface.map (.value .interface)
  | .timeout => line.timeout.map (.value .timeout)

/-- The parts of a line, in one order. -/
def parts (line : Line) : List Part :=
  Switch.all.filterMap line.part? ++ (line.address.map .address).toList

end Line

namespace Line

/-- The text that a line gives to a switch. -/
def text? (line : Line) : Switch → Option String
  | .interface => line.interface
  | .timeout => line.timeout
  | _ => none

variable (line : Line)

end Line

/-- What was taken is what the line holds. -/
structure Holds (line : Line) (taken : Taken) : Prop where
  distinct : taken.switches.Nodup
  has (switch : Switch) : taken.has switch = (line.part? switch).isSome
  values (switch : Switch) : taken.valuesOf switch = ((line.text? switch).map Utf8.encode).toList
  ip : taken.ip = line.address.map Utf8.encode

variable {line : Line} {arguments : List Bytes} {name : String} {taken : Taken}

/-- The arguments of a part when every value is an argument of its own. -/
def Part.plain : Part → List Bytes
  | .flag switch => [[0x2d, switch.letter]]
  | .value switch text => [[0x2d, switch.letter], Utf8.encode text]
  | .address text => [Utf8.encode text]

end CommandLine

end ArpProbe
