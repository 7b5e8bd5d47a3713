import ArpProbe.CommandLine.Switch
import ArpProbe.Duration
import ArpProbe.Error
import ArpProbe.Text.Field
import ArpProbe.Text.Utf8

/-!
# Usage

How the command is called: the help text, the usage line, and the messages for arguments that are
refused.
-/

namespace ArpProbe.CommandLine

/-- What the exit status means. -/
def exitCodes : String :=
  "EXIT CODES:\n    0    target online\n    1    target offline\n    2    error occurred"

/-- The name of the command. -/
def commandName : String := "arping"

/-- The help text, without a line end after its last line. -/
def help : String :=
  commandName ++ " \n" ++
  "Ping a host on the local network by ARP\n\n" ++
  "USAGE:\n    " ++ commandName ++ " [FLAGS] [OPTIONS] [IP]\n\n" ++
  "FLAGS:\n" ++
  "    -U        send an unsolicited (gratuitous) ARP announcement\n" ++
  "    -h        print this help\n" ++
  "    -v        verbose output\n\n" ++
  "OPTIONS:\n" ++
  "    -i <IFACE>           interface to use, autodetected if omitted\n" ++
  "    -t <DURATION>        how long to wait for replies, e.g. 100ms, 1.5s, 1m30s " ++
  "[default: 500ms]\n\n" ++
  "ARGS:\n" ++
  "    <IP>    IPv4 address to ping\n\n" ++
  exitCodes

/-- The parts of a path between slashes, without those that are empty or a single dot. -/
def pathParts (path : Bytes) : List Bytes :=
  (Text.fields '/'.toUInt8 path).filter fun part => part ≠ [] ∧ part ≠ ['.'.toUInt8]

/-- The name that the command was called by: the last part of its path, unless that leads upwards or
is no text. -/
def calledName (path : Bytes) : String :=
  match (pathParts path).getLast? with
  | none => commandName
  | some part =>
    if part = ['.'.toUInt8, '.'.toUInt8] then commandName
    else (Utf8.decode? part).getD commandName

/-- How the command was called so far. -/
structure Usage where
  name : String
  /-- The switches seen, in any order. -/
  taken : List Switch
deriving DecidableEq, Repr

/-- The name, and the switches seen or a summary of all. -/
def Usage.line (usage : Usage) : String :=
  let taken := Switch.all.filter (usage.taken.contains ·)
  usage.name ++ " " ++
    if taken.isEmpty then "[FLAGS] [OPTIONS] [IP]"
    else " ".intercalate (taken.map Switch.shown)

/-- Why arguments are refused. -/
inductive Fault
  /-- Nothing is called that, or there is no place for another address. -/
  | unknownArgument (argument : String) (usage : Usage)
  /-- The switch was given more than once. -/
  | repeated (switch : Switch) (usage : Usage)
  /-- The switch was given without a value. -/
  | missingValue (switch : Switch) (usage : Usage)
  /-- The timeout is no length of time. -/
  | invalidTimeout (given : String)
  /-- There is no address. -/
  | missingIp
  /-- The address is no IPv4 address. -/
  | address (error : Error)
deriving DecidableEq, Repr

namespace Fault

/-- A message with the usage line and a hint below it. -/
def withUsage (message : String) (usage : Usage) : String :=
  "error: " ++ message ++ "\n\nUSAGE:\n    " ++ usage.line ++
    "\n\nFor more information try --help"

def message : Fault → String
  | unknownArgument argument usage =>
    withUsage ("Found argument '" ++ argument ++
      "' which wasn't expected, or isn't valid in this context") usage
  | repeated switch usage =>
    withUsage ("The argument '" ++ switch.shown ++
      "' was provided more than once, but cannot be used multiple times") usage
  | missingValue switch usage =>
    withUsage ("The argument '" ++ switch.shown ++ "' requires a value but none was supplied") usage
  | invalidTimeout given =>
    "error: Invalid value for '" ++ Switch.timeout.shown ++ "': " ++ Duration.invalidMessage given
  | missingIp => "Parameter <IP> missing!"
  | address error => error.message

end Fault

end ArpProbe.CommandLine
