import ArpProbe.Ping

/-!
# The report

What the command prints at the end of a call, and its exit status.
-/

namespace ArpProbe

/-- What a program leaves: its exit status, unless it broke down, and what it printed. -/
structure Output where
  exit : Option Nat
  stdout : String
deriving DecidableEq, Repr

namespace Report

/-- The line of one reply: the address that was asked for, who answered, and after how many whole
microseconds. -/
def line (ip : Ipv4) (reply : Reply) : String :=
  ip.text ++ " (" ++ reply.mac.text ++ ") " ++ toString (Time.toMicroseconds reply.duration) ++
    " usec"

/-- Lines with a line end after each. -/
def lines (texts : List String) : String :=
  String.join (texts.map (· ++ "\n"))

/-- The report of a result: a line for each reply, or the error. -/
def ofResult (ip : Ipv4) : Except Error (List Reply) → Output
  | .ok replies => ⟨some 0, lines (replies.map (line ip))⟩
  | .error error => ⟨some error.exitCode, lines [error.message]⟩

/-- The report of a call; there is none of one that broke down. -/
def ofEnding (ip : Ipv4) : Ending (List Reply) → Output
  | .finished result _ => ofResult ip result
  | .crashed _ _ => ⟨none, ""⟩

end Report

end ArpProbe
