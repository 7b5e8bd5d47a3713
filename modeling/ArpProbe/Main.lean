import ArpProbe.Command
import ArpProbe.Packet.Channel

/-!
# The program

The command as a program of its own. It runs without the right to open packet sockets and without a
list of interfaces, so that it answers questions about its arguments and finds no interface to use.
-/

open ArpProbe

/-- A kernel that does not let the program open packet sockets. -/
def ArpProbe.Packet.Kernel.unprivileged : Packet.Kernel where
  socketFault := some 1
  getFlagsFault := none
  setFlagsFault := none
  bindFault := none
  flags := 2
  interfaces := []
  sends := []
  receipts := []
  trace := []

def main (arguments : List String) : IO UInt32 := do
  let argv := (CommandLine.commandName :: arguments).map Utf8.encode
  let start ← IO.monoNanosNow
  let (output, _) := Command.run argv [] Packet.Channel.link start ⟨.unprivileged, none⟩
  IO.print output.stdout
  return UInt32.ofNat (output.exit.getD 101)
