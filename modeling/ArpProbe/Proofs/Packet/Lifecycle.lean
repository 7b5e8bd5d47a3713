import ArpProbe.Packet.Session
import ArpProbe.Proofs.Packet.Waiting

/-!
# The life of a descriptor

Of all system calls only `socket` obtains a descriptor and only `close` gives it back. What happens
to a kernel in between is `Kernel.Holding`: each system call, each function over sockets and each
call on a channel either keeps the descriptor or ends with giving it back. `descriptor_lifecycle`
follows from this for whole sessions.
-/

namespace ArpProbe.Packet

namespace SysCall

/-- The call obtains a descriptor, if it succeeds. -/
def isSocket : SysCall → Bool
  | socket .. => true
  | _ => false

/-- The call uses a descriptor or needs none. -/
def isUse : SysCall → Bool
  | socket .. | close => false
  | _ => true

section

variable {uses : List SysCall}

lemma countP_isSocket_of_uses (only : ∀ call ∈ uses, call.isUse = true) :
    uses.countP isSocket = 0 := by
  rw [List.countP_eq_zero]
  intro call member
  have use := only call member
  cases call <;> simp_all [isUse, isSocket]

lemma count_close_of_uses (only : ∀ call ∈ uses, call.isUse = true) : uses.count .close = 0 := by
  rw [List.count_eq_zero]
  intro member
  cases only _ member

end

end SysCall

namespace Kernel

/-- The number of descriptors that the calls obtained: calls to `socket` either all fail or all
succeed. -/
def descriptors (k : Kernel) (calls : List SysCall) : Nat :=
  match k.socketFault with
  | some _ => 0
  | none => calls.countP SysCall.isSocket

/-- A descriptor was used, and then given back unless it is still held. -/
def Holding (held : Bool) (k next : Kernel) : Prop :=
  ∃ uses, (∀ call ∈ uses, call.isUse = true) ∧
    next.trace = k.trace ++ (uses ++ if held then [] else [.close])

variable {k middle next : Kernel} {held : Bool}

@[simp] lemma trace_record (call : SysCall) (k : Kernel) :
    (k.record call).trace = k.trace ++ [call] := rfl

lemma Holding.refl (k : Kernel) : k.Holding true k :=
  ⟨[], by simp, by simp⟩

/-- A descriptor that is still held is used on. -/
lemma Holding.trans (first : k.Holding true middle) (second : middle.Holding held next) :
    k.Holding held next := by
  obtain ⟨uses, only, trace⟩ := first
  obtain ⟨uses', only', trace'⟩ := second
  refine ⟨uses ++ uses', ?_, ?_⟩
  · intro call member
    exact (List.mem_append.1 member).elim (only call) (only' call)
  · rw [trace', trace]
    simp

lemma Holding.close (first : k.Holding true next) : k.Holding false next.close :=
  first.trans ⟨[], by simp, by simp [Kernel.close]⟩

lemma Holding.of_trace (call : SysCall) (use : call.isUse = true)
    (trace : next.trace = k.trace ++ [call]) : k.Holding true next :=
  ⟨[call], by simp [use], by simp [trace]⟩

/-- The form for a call whose result and kernel have names. -/
lemma Holding.of_eq {α : Type} {answer : α × Kernel} {result : α}
    (holding : k.Holding held answer.2) (eq : answer = (result, next)) : k.Holding held next := by
  rw [eq] at holding
  exact holding

/-! ## System calls -/

lemma holding_getFlags (k : Kernel) : k.Holding true k.getFlags.2 :=
  .of_trace .getFlags rfl rfl

lemma holding_setFlags (flags : UInt32) (k : Kernel) : k.Holding true (k.setFlags flags).2 := by
  apply Holding.of_trace (.setFlags flags) rfl
  rw [setFlags]
  split <;> rfl

lemma holding_nameToIndex (name : Bytes) (k : Kernel) : k.Holding true (k.nameToIndex name).2 :=
  .of_trace (.nameToIndex name) rfl rfl

lemma holding_bind (address : Address) (k : Kernel) : k.Holding true (k.bind address).2 :=
  .of_trace (.bind address) rfl rfl

lemma holding_sendTo (frame : Bytes) (address : Address) (k : Kernel) :
    k.Holding true (k.sendTo frame address).2 := by
  apply Holding.of_trace (.sendTo frame 0 address) rfl
  rw [sendTo]
  split <;> rfl

lemma holding_receiveFrom (bufferLength : Nat) (k : Kernel) :
    k.Holding true (k.receiveFrom bufferLength).2 := by
  apply Holding.of_trace (.receiveFrom bufferLength 0 Address.byteLength) rfl
  rw [receiveFrom]
  split <;> rfl

end Kernel

/-! ## Sockets -/

/-- A descriptor is switched with two uses, or with one that fails. -/
lemma holding_setNonBlocking (on : Bool) (k : Kernel) :
    k.Holding true (Socket.setNonBlocking on k).2 := by
  rw [Socket.setNonBlocking]
  split
  · next got => exact k.holding_getFlags.of_eq got
  · next got => exact (k.holding_getFlags.of_eq got).trans (Kernel.holding_setFlags _ _)

/-- Binding uses the socket up: its descriptor goes into the bound socket, or is given back. -/
lemma holding_bind (s : Socket) (name : Bytes) (k : Kernel) :
    k.Holding (s.bind name k).1.toBool (s.bind name k).2 := by
  have looked := k.holding_nameToIndex name
  rw [Socket.bind]
  by_cases long : nameCapacity < name.length + 1
  · rw [if_pos long]
    exact (Kernel.Holding.refl k).close
  rw [if_neg long]
  split
  · next found => exact (looked.of_eq found).close
  · next index k' found =>
    have bound := k'.holding_bind (s.addressOn index)
    split
    · next binds => exact ((looked.of_eq found).trans (bound.of_eq binds)).close
    · next binds => exact (looked.of_eq found).trans (bound.of_eq binds)

lemma holding_send (s : BoundSocket) (frame : Bytes) (k : Kernel) :
    k.Holding true (s.send frame k).2 :=
  k.holding_sendTo frame s.address

/-- Waiting to send uses the descriptor once or more often. -/
lemma holding_awaitSend (s : BoundSocket) (frame : Bytes) (k : Kernel) :
    k.Holding true (s.awaitSend frame k).2 := by
  fun_induction BoundSocket.awaitSend s frame k with
  | case1 k length next sent => exact (holding_send s frame k).of_eq sent
  | case2 k error next sent again less ih => exact ((holding_send s frame k).of_eq sent).trans ih
  | case3 k error next sent final => exact (holding_send s frame k).of_eq sent

lemma holding_pollReceive (s : BoundSocket) (bufferLength : Nat) (k : Kernel) :
    k.Holding true (s.pollReceive bufferLength k).2 :=
  k.holding_receiveFrom bufferLength

lemma holding_awaitReceive (s : BoundSocket) (bufferLength : Nat) (k : Kernel) :
    k.Holding true (s.awaitReceive bufferLength k).2 := by
  fun_induction BoundSocket.awaitReceive s bufferLength k with
  | case1 k result next polled => exact (holding_pollReceive s bufferLength k).of_eq polled
  | case2 k next polled none => exact (holding_pollReceive s bufferLength k).of_eq polled
  | case3 k next polled some less ih =>
    exact ((holding_pollReceive s bufferLength k).of_eq polled).trans ih

namespace Channel

lemma holding_awaitIncoming (s : BoundSocket) (k : Kernel) :
    k.Holding true (awaitIncoming s k).2 := by
  fun_induction awaitIncoming s k with
  | case1 k next awaited => exact (holding_awaitReceive s bufferLength k).of_eq awaited
  | case2 k error next awaited => exact (holding_awaitReceive s bufferLength k).of_eq awaited
  | case3 k received next awaited outgoing less ih =>
    exact ((holding_awaitReceive s bufferLength k).of_eq awaited).trans ih
  | case4 k received next awaited incoming =>
    exact (holding_awaitReceive s bufferLength k).of_eq awaited

/-! ## Opening -/

/-- The call that obtains the descriptor of a channel. -/
def socketCall : SysCall :=
  .socket Address.family rawCloseOnExec (Bytes.swapWord Protocol.arp).toNat

section

variable {name : String} {bytes : Bytes} {k : Kernel}

/-- A name with a zero byte in it is refused before any call is made. -/
lemma openSocket_of_invalid {error : IoError} (invalid : nameBytes name = .error error) :
    openSocket name k = (.error error, k) := by
  rw [openSocket, invalid]

/-- A descriptor that is not obtained ends the opening at its first call. -/
lemma openSocket_of_fault {errno : Errno} (valid : nameBytes name = .ok bytes)
    (fault : k.socketFault = some errno) :
    openSocket name k = (.error (.os errno), k.record socketCall) := by
  rw [openSocket, valid]
  simp only [BoundSocket.ofInterface, Socket.create, Kernel.socket, fault]
  rfl

/-- Once a descriptor is obtained, it is held exactly if the channel opens. -/
lemma holding_openSocket (valid : nameBytes name = .ok bytes) (free : k.socketFault = none) :
    (k.record socketCall).Holding (openSocket name k).1.toBool (openSocket name k).2 := by
  have created : Socket.create Protocol.arp k = (.ok ⟨Protocol.arp⟩, k.record socketCall) := by
    rw [Socket.create, Kernel.socket, free]
    rfl
  have switched := holding_setNonBlocking true (k.record socketCall)
  rw [openSocket, valid]
  simp only [BoundSocket.ofInterface, created]
  split
  · next switch => exact (switched.of_eq switch).close
  · next switch => exact (switched.of_eq switch).trans (holding_bind _ bytes _)

end

/-! ## Sessions -/

/-- The answer of a closed channel. -/
def refused : Operation → Answer
  | .send _ => .sent (.error (.transport closedFault))
  | .receive => .received (.ready (.error (.transport closedFault)))
  | .close => .closed

/-- Nothing is done on a closed channel. -/
lemma perform_of_closed {c : Channel} (closed : c.socket = none) (operation : Operation) :
    c.perform operation = (refused operation, c) := by
  cases operation with
  | send frame =>
    rw [perform, send, closed]
    rfl
  | receive =>
    rw [perform, receive, closed]
    rfl
  | close =>
    rw [perform, close, closed]
    rfl

/-- A closed channel refuses every call, and leaves the kernel alone. -/
lemma run_of_closed {c : Channel} (closed : c.socket = none) (operations : List Operation) :
    c.run operations = (operations.map refused, c) := by
  induction operations with
  | nil => rfl
  | cons operation operations ih =>
    simp only [run, perform_of_closed closed operation, ih, List.map_cons]

/-- Operations can be made in two goes. -/
lemma run_append (c : Channel) (first second : List Operation) :
    c.run (first ++ second) =
      ((c.run first).1 ++ ((c.run first).2.run second).1, ((c.run first).2.run second).2) := by
  induction first generalizing c with
  | nil => rfl
  | cons operation first ih =>
    simp only [List.cons_append, run, ih]

/-- One call on an open channel uses the descriptor, or gives it back. -/
lemma holding_perform (s : BoundSocket) (k : Kernel) (operation : Operation) :
    ∃ socket next, (perform ⟨k, some s⟩ operation).2 = ⟨next, socket⟩ ∧
      k.Holding socket.isSome next := by
  cases operation with
  | send frame => exact ⟨some s, _, rfl, holding_awaitSend s frame k⟩
  | receive => exact ⟨some s, _, rfl, holding_awaitIncoming s k⟩
  | close => exact ⟨none, _, rfl, (Kernel.Holding.refl k).close⟩

/-- However an open channel is used, it has given its descriptor back once it is dropped. -/
lemma holding_run (s : BoundSocket) (k : Kernel) (operations : List Operation) :
    k.Holding false (run ⟨k, some s⟩ operations).2.drop := by
  induction operations generalizing s k with
  | nil => exact (Kernel.Holding.refl k).close
  | cons operation operations ih =>
    obtain ⟨socket, next, performed, holding⟩ := holding_perform s k operation
    simp only [run, performed]
    cases socket with
    | some s => exact holding.trans (ih s next)
    | none =>
      -- nothing that is done after closing gets to the kernel
      rw [run_of_closed rfl]
      exact holding

section

variable {iface : Interface} {operations : List Operation} {k : Kernel}

/-- A session opens a channel, and drops it after the operations. -/
lemma session_eq (iface : Interface) (operations : List Operation) (k : Kernel) :
    (session iface operations k).2 =
      match openSocket iface.name k with
      | (.error _, next) => next
      | (.ok s, next) => (run ⟨next, some s⟩ operations).2.drop := by
  rw [session, attach]
  rcases openSocket iface.name k with ⟨_ | _, _⟩ <;> rfl

/-- A descriptor that a session obtained is given back at its end. -/
lemma holding_session {bytes : Bytes} (valid : nameBytes iface.name = .ok bytes)
    (free : k.socketFault = none) :
    (k.record socketCall).Holding false (session iface operations k).2 := by
  have attached := holding_openSocket valid free
  rw [session_eq]
  split
  · next failed =>
    rw [failed] at attached
    exact attached
  · next s next opened =>
    rw [opened] at attached
    exact attached.trans (holding_run s next operations)

end

/-- Calls that obtain a descriptor, use it and give it back do the first and the last once. -/
lemma balanced_of_holding {k next : Kernel} (free : k.socketFault = none)
    (holding : (k.record socketCall).Holding false next) :
    ∃ calls, next.trace = k.trace ++ calls ∧ k.descriptors calls = 1 ∧
      calls.count .close = 1 ∧ calls.getLast? = some .close := by
  obtain ⟨uses, only, trace⟩ := holding
  refine ⟨socketCall :: (uses ++ [.close]), ?_, ?_, ?_, ?_⟩
  · rw [trace, Kernel.trace_record, List.append_assoc]
    rfl
  · rw [Kernel.descriptors, free]
    show List.countP _ (socketCall :: (uses ++ [.close])) = 1
    rw [List.countP_cons_of_pos rfl, List.countP_append, SysCall.countP_isSocket_of_uses only]
    rfl
  · rw [List.count_cons_of_ne (by simp [socketCall]), List.count_append,
      SysCall.count_close_of_uses only]
    rfl
  · rw [← List.cons_append, List.getLast?_concat]

/-- The life of a descriptor.

A session obtains at most one descriptor, whatever fails and in whatever order the channel is used.
It gives back just what it obtained, and does so with its last system call. A channel that was
closed stays as it is, the kernel included: it refuses to send and to receive because it is not
connected, and closing it again does nothing. -/
theorem descriptor_lifecycle (iface : Interface) (operations : List Operation) (k : Kernel) :
    (∃ calls, (session iface operations k).2.trace = k.trace ++ calls ∧
      k.descriptors calls ≤ 1 ∧ calls.count .close = k.descriptors calls ∧
      (k.descriptors calls = 1 → calls.getLast? = some .close)) ∧
    (∀ (c : Channel) (before later : List Operation),
      c.run (before ++ .close :: later) =
        ((c.run before).1 ++ .closed :: later.map refused, (c.run before).2.close)) ∧
    closedFault.kind = .notConnected := by
  refine ⟨?_, fun c before later => ?_, rfl⟩
  · -- a descriptor is obtained only if the name is valid and the first call succeeds
    cases valid : nameBytes iface.name with
    | error error =>
      refine ⟨[], ?_, ?_⟩
      · rw [session_eq, openSocket_of_invalid valid, List.append_nil]
      · cases free : k.socketFault <;> simp [Kernel.descriptors, free]
    | ok bytes =>
      cases free : k.socketFault with
      | some errno =>
        refine ⟨[socketCall], ?_, ?_⟩
        · rw [session_eq, openSocket_of_fault valid free]
          rfl
        · simp [Kernel.descriptors, free, socketCall]
      | none =>
        obtain ⟨calls, trace, obtained, closed, last⟩ :=
          balanced_of_holding free (holding_session valid free)
        exact ⟨calls, trace, Nat.le_of_eq obtained, closed.trans obtained.symm, fun _ => last⟩
  · have closed : (c.run before).2.close.socket = none := by
      rw [close]
      split
      · next unopened => exact unopened
      · rfl
    simp only [run_append, run, perform, run_of_closed closed]

end Channel

end ArpProbe.Packet
