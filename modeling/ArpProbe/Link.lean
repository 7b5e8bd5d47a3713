import ArpProbe.Bytes
import ArpProbe.Config
import ArpProbe.IoError
import ArpProbe.Log

/-!
# Links

A link is what frames go over. A call opens a channel on an interface, sends and receives frames
over it and closes it again. All of that changes a state, which also keeps what the link still has to
say. Time is counted from the start of the call.
-/

namespace ArpProbe

/-- What ends a wait for a frame. -/
inductive Event
  /-- A frame came in, at the given instant or now. -/
  | frame (bytes : Bytes) (stamp : Option Nat)
  /-- The channel failed. -/
  | failure (error : IoError)
  /-- The channel broke down without an error to report. -/
  | crash (text : String)
deriving DecidableEq, Repr

/-- How a wait for a frame goes on. -/
inductive Reception (σ : Type)
  /-- Nothing comes any more. -/
  | silence (next : σ)
  /-- After some time something happens. -/
  | event (after : Nat) (event : Event) (next : σ)

/-- How sending a frame ends, and after what time. -/
structure Sending (σ : Type) where
  after : Nat
  outcome : Except IoError Unit
  next : σ

/-- A link with states in `σ`. Only finitely many frames come in: each leaves fewer pending. -/
structure Link (σ : Type) where
  /-- Opens a channel on an interface, and reports on it. -/
  attach : Interface → σ → Except IoError (List LogEntry) × σ
  /-- Sends a frame over the open channel. -/
  send : Bytes → σ → Sending σ
  /-- Waits for the next frame. -/
  receive : σ → Reception σ
  /-- Gives the channel up. -/
  close : σ → σ
  /-- The number of frames that can still come in. -/
  pending : σ → Nat
  pending_lt : ∀ {s next : σ} {after : Nat} {bytes : Bytes} {stamp : Option Nat},
    receive s = .event after (.frame bytes stamp) next → pending next < pending s

end ArpProbe
