import ArpProbe.Bytes

/-!
# Switches

The letters that the command knows. Three of them are flags, two take a value.
-/

namespace ArpProbe.CommandLine

/-- What a letter after a dash stands for. -/
inductive Switch
  | gratuitous
  | interface
  | help
  | timeout
  | verbose
deriving DecidableEq, Repr

namespace Switch

/-- All switches, in the order of usage lines. -/
def all : List Switch :=
  [gratuitous, interface, help, timeout, verbose]

def letter : Switch → UInt8
  | gratuitous => 'U'.toUInt8
  | interface => 'i'.toUInt8
  | help => 'h'.toUInt8
  | timeout => 't'.toUInt8
  | verbose => 'v'.toUInt8

def ofLetter? (letter : UInt8) : Option Switch :=
  all.find? (·.letter == letter)

/-- The switch needs a value. -/
def takesValue : Switch → Bool
  | interface | timeout => true
  | _ => false

/-- The switch as usage lines and messages show it. -/
def shown : Switch → String
  | gratuitous => "-U"
  | interface => "-i <IFACE>"
  | help => "-h"
  | timeout => "-t <DURATION>"
  | verbose => "-v"

end Switch

end ArpProbe.CommandLine
