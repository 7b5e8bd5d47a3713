import ArpProbe.Packet.Buffer

/-!
# Calls to receive, poll by poll

A call to receive does not run through: it is polled, goes on until it has an answer or has to wait
for its socket, and is polled again later. In between it may be abandoned, and the next poll is then
the first one of a new call. All that a call has of its own is its stage; the buffer and the socket
belong to the channel, which stays. `Stage.step` is what is done without a wait, `Receiver.poll` is
one poll, and `Receiver.run` is any number of calls of which some are abandoned.
-/

namespace ArpProbe.Packet

/-- How far a call to receive has come. -/
inductive Stage
  /-- It is about to look for the socket. -/
  | looking
  /-- It goes on once the socket can be read. -/
  | waiting (s : BoundSocket)
  /-- It has a frame in the buffer, and has not seen yet who sent it. -/
  | holding (notice : Notice)
deriving DecidableEq, Repr

/-- What a step of a call comes to. -/
inductive Progress
  | goesOn (stage : Stage)
  | returns (result : Except IoError Bytes)

namespace Stage

/-- What is done next, up to the next stage. -/
def step (stage : Stage) (c : BufferedChannel) : Progress × BufferedChannel :=
  match stage with
  | looking =>
    match c.channel.socket with
    | none => (.returns (.error Channel.closedFault), c)
    | some s => (.goesOn (.waiting s), c)
  | waiting s =>
    match s.receiveInto c.buffer c.channel.kernel with
    | (.error error, filled, k) =>
      (if error.wouldBlock then .goesOn (.waiting s) else .returns (.error error),
        ⟨{ c.channel with kernel := k }, filled⟩)
    | (.ok notice, filled, k) =>
      (.goesOn (.holding notice), ⟨{ c.channel with kernel := k }, filled⟩)
  | holding notice =>
    (if notice.outgoing then .goesOn .looking
      else .returns (.ok (c.buffer.front notice.length)), c)

/-- How often the socket can still be read in a poll once the call is past the stage, or nothing if
it has to wait there. Only a call that waits for the socket may have to. -/
def pass? : Stage → Nat → Option Nat
  | waiting _, 0 => none
  | waiting _, tries + 1 => some tries
  | _, tries => some tries

/-- The number of steps to the next wait. -/
def rank : Stage → Nat
  | waiting _ => 0
  | looking => 1
  | holding _ => 2

/-- A call that goes on comes nearer to a wait, or the socket can be read once less. -/
theorem rank_lt_of_step {stage next : Stage} {c after : BufferedChannel} {tries left : Nat}
    (passed : stage.pass? tries = some left) (stepped : stage.step c = (.goesOn next, after)) :
    3 * left + next.rank < 3 * tries + stage.rank := by
  cases stage with
  | looking =>
    obtain rfl : tries = left := Option.some.inj passed
    rw [step] at stepped
    split at stepped
    · cases stepped
    · cases stepped
      simp only [rank]
      omega
  | waiting s =>
    cases tries with
    | zero => cases passed
    | succ tries =>
      obtain rfl : tries = left := Option.some.inj passed
      have bound : next.rank ≤ 2 := by cases next <;> simp [rank]
      have still : (waiting s).rank = 0 := rfl
      omega
  | holding notice =>
    obtain rfl : tries = left := Option.some.inj passed
    rw [step] at stepped
    by_cases outgoing : notice.outgoing = true
    · rw [if_pos outgoing] at stepped
      cases stepped
      simp only [rank]
      omega
    · rw [if_neg outgoing] at stepped
      cases stepped

end Stage

/-- A channel and the call to receive that is made on it. -/
structure Receiver where
  channel : BufferedChannel
  stage : Stage

/-- What happens to a call. -/
inductive Turn
  /-- It is polled, and in this poll the socket can be read so many times. -/
  | poll (tries : Nat)
  | abandon
deriving DecidableEq, Repr

/-- The socket can be read in the turn. -/
def Turn.reads : Turn → Bool
  | poll tries => 0 < tries
  | abandon => false

namespace Receiver

/-- The kernel that the channel talks to. -/
def kernel (r : Receiver) : Kernel :=
  r.channel.channel.kernel

/-- Polls the call. If it returns, the next poll is that of a new call. -/
def poll (tries : Nat) (r : Receiver) : Poll (Except IoError Bytes) × Receiver :=
  match passed : r.stage.pass? tries with
  | none => (.pending, r)
  | some left =>
    match stepped : r.stage.step r.channel with
    | (.returns result, channel) => (.ready result, ⟨channel, .looking⟩)
    | (.goesOn stage, channel) =>
      have := Stage.rank_lt_of_step passed stepped
      poll left ⟨channel, stage⟩
termination_by 3 * tries + r.stage.rank

/-- Abandons the call. The next poll is that of a new one. -/
def abandon (r : Receiver) : Receiver :=
  { r with stage := .looking }

/-- What a turn brings: a result, if the call returns. -/
def take (r : Receiver) : Turn → Option (Except Error Bytes) × Receiver
  | .poll tries =>
    match r.poll tries with
    | (.ready result, next) => (some (result.mapError .transport), next)
    | (.pending, next) => (none, next)
  | .abandon => (none, r.abandon)

/-- Takes one turn after another, and returns what the calls returned. -/
def run (r : Receiver) : List Turn → List (Except Error Bytes) × Receiver
  | [] => ([], r)
  | turn :: turns =>
    match r.take turn with
    | (result, next) =>
      match next.run turns with
      | (results, last) => (result.toList ++ results, last)

end Receiver

end ArpProbe.Packet
