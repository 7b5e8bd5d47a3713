import ArpProbe.Error
import ArpProbe.Packet.Channel

/-!
# Sessions over a channel

A session opens a channel on an interface, makes any calls on it in any order, and drops it in the
end. A dropped channel takes its socket along. What fails on an open channel is a failure of the
transport.
-/

namespace ArpProbe.Packet

/-- Changes the value, once there is one. -/
def Poll.map {α β : Type} (f : α → β) : Poll α → Poll β
  | ready value => .ready (f value)
  | pending => .pending

namespace Channel

/-- A call on a channel. -/
inductive Operation
  | send (frame : Bytes)
  | receive
  | close
deriving DecidableEq, Repr

/-- What a call on a channel comes to. -/
inductive Answer
  | sent (result : Except Error Unit)
  | received (poll : Poll (Except Error Bytes))
  | closed
deriving Repr

/-- Makes one call. -/
def perform (c : Channel) : Operation → Answer × Channel
  | .send frame =>
    match c.send frame with
    | (result, next) => (.sent (result.mapError .transport), next)
  | .receive =>
    match c.receive with
    | (poll, next) => (.received (poll.map (·.mapError .transport)), next)
  | .close => (.closed, c.close)

/-- Makes one call after another. -/
def run (c : Channel) : List Operation → List Answer × Channel
  | [] => ([], c)
  | operation :: operations =>
    match c.perform operation with
    | (answer, next) =>
      match next.run operations with
      | (answers, last) => (answer :: answers, last)

/-- The kernel after the channel went away. -/
def drop (c : Channel) : Kernel :=
  match c.socket with
  | none => c.kernel
  | some _ => c.kernel.close

/-- Opens a channel on the interface, makes the calls on it and drops it. -/
def session (iface : Interface) (operations : List Operation) (k : Kernel) :
    Except Error (List Answer) × Kernel :=
  match attach iface ⟨k, none⟩ with
  | (.error fault, c) => (.error (.openFailed iface.name fault), c.kernel)
  | (.ok _, c) =>
    match c.run operations with
    | (answers, c) => (.ok answers, c.drop)

end Channel

end ArpProbe.Packet
