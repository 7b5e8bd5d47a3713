import ArpProbe.Errno

/-!
# Failures reported by the operating system

A failed call is known by its error number, by a kind alone, or by a kind and a text of its own.
-/

namespace ArpProbe

/-- A failed call. -/
inductive IoError
  | os (errno : Errno)
  | plain (kind : IoKind)
  | custom (kind : IoKind) (text : String)
deriving DecidableEq, Repr

namespace IoError

def kind : IoError → IoKind
  | os errno => errno.describe.1
  | plain kind => kind
  | custom kind _ => kind

def message : IoError → String
  | os errno => errno.describe.2 ++ " (os error " ++ toString errno ++ ")"
  | plain kind => kind.message
  | custom _ text => text

/-- The error number, for a failure that has one. -/
def errno? : IoError → Option Errno
  | os errno => some errno
  | _ => none

/-- The call can be tried again when the socket is ready. -/
def wouldBlock (error : IoError) : Bool :=
  error.kind == .wouldBlock

@[simp] theorem wouldBlock_again : (os Errno.again).wouldBlock = true := rfl

end IoError

end ArpProbe
