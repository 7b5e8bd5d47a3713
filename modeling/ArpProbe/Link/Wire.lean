import ArpProbe.Link

/-!
# The ideal link

A link that follows a script and keeps a record: it opens or fails to, takes some time to send a
frame or to fail at it, then lets one event after another happen, and in the end stays silent.
-/

namespace ArpProbe

/-- An event of a script, some time after the one before. -/
structure Wire.Step where
  after : Nat
  event : Event
deriving DecidableEq, Repr

/-- A script, and the record of what was done with the link. -/
structure Wire where
  openError : Option IoError
  sendDelay : Nat
  sendError : Option IoError
  steps : List Wire.Step
  /-- The names of the interfaces that a channel was asked for on. -/
  opened : List String
  /-- The frames sent. -/
  sent : List Bytes
  /-- How often a channel was given up. -/
  closes : Nat

namespace Wire

/-- A script with nothing on record. -/
def ofScript (openError : Option IoError) (sendDelay : Nat) (sendError : Option IoError)
    (steps : List Step) : Wire :=
  ⟨openError, sendDelay, sendError, steps, [], [], 0⟩

def attach (iface : Interface) (wire : Wire) : Except IoError (List LogEntry) × Wire :=
  (match wire.openError with
    | some error => .error error
    | none => .ok [],
   { wire with opened := wire.opened ++ [iface.name] })

/-- A frame that fails to be sent is not on record. -/
def send (frame : Bytes) (wire : Wire) : Sending Wire :=
  match wire.sendError with
  | some error => ⟨wire.sendDelay, .error error, wire⟩
  | none => ⟨wire.sendDelay, .ok (), { wire with sent := wire.sent ++ [frame] }⟩

def receive (wire : Wire) : Reception Wire :=
  match wire.steps with
  | [] => .silence wire
  | step :: steps => .event step.after step.event { wire with steps }

def close (wire : Wire) : Wire :=
  { wire with closes := wire.closes + 1 }

/-- The ideal link. -/
def link : Link Wire where
  attach := attach
  send := send
  receive := receive
  close := close
  pending wire := wire.steps.length
  pending_lt {s next _ _ _} h := by
    unfold receive at h
    split at h
    · cases h
    · next step steps hs =>
      obtain ⟨-, -, rfl⟩ := Reception.event.inj h
      simp [hs]

end Wire

end ArpProbe
