import ArpProbe.Proofs.Packet.Lifecycle
import ArpProbe.Proofs.Packet.Receiving

/-!
# Opening a channel, call by call

A channel opens with five system calls, one after another, and stops at the first that fails. The
name of the interface is looked at twice on the way: a zero byte in it is found before the first
call, and its length once three of them are made. `Kernel.opening` lists the calls with their
failures, and `openSocket_of_failed` and `openSocket_of_fine` say what opening comes to.
`opening_exact` is about all names and all kernels.
-/

namespace ArpProbe.Packet

/-! ## Attempts -/

/-- A system call to be made, and how it fails. -/
structure Attempt where
  call : SysCall
  fault : Option Errno
deriving DecidableEq, Repr

/-- The calls that are made if one failure is the end, and that failure. -/
def attempted : List Attempt → List SysCall × Option Errno
  | [] => ([], none)
  | ⟨call, some errno⟩ :: _ => ([call], some errno)
  | ⟨call, none⟩ :: attempts => (call :: (attempted attempts).1, (attempted attempts).2)

section

variable {before after attempts : List Attempt} {call : SysCall} {errno : Errno}

/-- A list of attempts goes on with another one, if none of the first fails. -/
lemma attempted_append (first second : List Attempt) :
    attempted (first ++ second) =
      match attempted first with
      | (calls, some errno) => (calls, some errno)
      | (calls, none) => (calls ++ (attempted second).1, (attempted second).2) := by
  induction first with
  | nil => rfl
  | cons attempt first ih =>
    obtain ⟨call, _ | errno⟩ := attempt
    · rw [List.cons_append, attempted, ih, attempted]
      rcases attempted first with ⟨calls, _ | errno⟩ <;> rfl
    · rfl

/-- All calls are made if none fails. -/
lemma attempted_of_fine (fine : ∀ attempt ∈ attempts, attempt.fault = none) :
    attempted attempts = (attempts.map Attempt.call, none) := by
  induction attempts with
  | nil => rfl
  | cons attempt attempts ih =>
    obtain ⟨first, fault⟩ := attempt
    obtain ⟨rfl, rest⟩ : fault = none ∧ ∀ attempt ∈ attempts, attempt.fault = none :=
      List.forall_mem_cons.1 fine
    rw [attempted, ih rest]
    rfl

/-- The first failure is the last call. -/
lemma attempted_of_fault (fine : ∀ attempt ∈ before, attempt.fault = none) :
    attempted (before ++ ⟨call, some errno⟩ :: after) =
      (before.map Attempt.call ++ [call], some errno) := by
  rw [attempted_append, attempted_of_fine fine]
  rfl

/-- Either there is a first failure, or there is none. -/
lemma exists_fault_or_fine (attempts : List Attempt) :
    (∃ before call errno after, attempts = before ++ ⟨call, some errno⟩ :: after ∧
        ∀ attempt ∈ before, attempt.fault = none) ∨
      ∀ attempt ∈ attempts, attempt.fault = none := by
  induction attempts with
  | nil => exact .inr (by simp)
  | cons attempt attempts ih =>
    obtain ⟨first, _ | errno⟩ := attempt
    · rcases ih with ⟨before, call, errno, after, rfl, fine⟩ | fine
      · exact .inl ⟨⟨first, none⟩ :: before, call, errno, after, rfl,
          List.forall_mem_cons.2 ⟨rfl, fine⟩⟩
      · exact .inr (List.forall_mem_cons.2 ⟨rfl, fine⟩)
    · exact .inl ⟨[], first, errno, attempts, rfl, by simp⟩

end

namespace Kernel

/-- How the look at a name fails: with the fault of the call, or else for want of an interface. -/
def lookupFault (name : Bytes) (k : Kernel) : Option Errno :=
  k.nameToIndexFault.or (if (k.index? name).isSome then none else some Errno.noDevice)

/-- The look at a name fails in one of two ways, and is recorded in any case. -/
lemma nameToIndex_eq (name : Bytes) (k : Kernel) :
    k.nameToIndex name =
      (match k.lookupFault name with
        | some errno => .error (.os errno)
        | none => .ok ((k.index? name).getD 0),
      k.record (.nameToIndex name)) := by
  rw [nameToIndex, lookupFault]
  cases k.nameToIndexFault with
  | some errno => rfl
  | none => cases k.index? name <;> rfl

/-- The kernel with more calls in its trace. -/
def recorded (calls : List SysCall) (k : Kernel) : Kernel :=
  calls.foldl (fun k call => k.record call) k

lemma recorded_eq (calls : List SysCall) (k : Kernel) :
    k.recorded calls = { k with trace := k.trace ++ calls } := by
  induction calls generalizing k with
  | nil => rw [List.append_nil]; rfl
  | cons call calls ih =>
    rw [recorded, List.foldl_cons, ← recorded, ih, record, List.append_assoc]
    rfl

lemma recorded_append (first second : List SysCall) (k : Kernel) :
    k.recorded (first ++ second) = (k.recorded first).recorded second :=
  List.foldl_append

/-- The kernel with a descriptor that never waits. -/
def switched (k : Kernel) : Kernel :=
  { k with flags := k.flags ||| nonBlocking }

/-- The calls that do not depend on an interface. -/
def preparing (k : Kernel) : List Attempt :=
  [⟨Channel.socketCall, k.socketFault⟩, ⟨.getFlags, k.getFlagsFault⟩,
    ⟨.setFlags (k.flags ||| nonBlocking), k.setFlagsFault⟩]

/-- The address on the interface of the name. -/
def addressOf (name : Bytes) (k : Kernel) : Address :=
  (⟨Protocol.arp⟩ : Socket).addressOn ((k.index? name).getD 0)

/-- The calls that tie a socket to the interface of the name. -/
def binding (name : Bytes) (k : Kernel) : List Attempt :=
  [⟨.nameToIndex name, k.lookupFault name⟩,
    ⟨.bind (k.addressOf name), k.bindFault⟩]

lemma addressOf_recorded (name : Bytes) (calls : List SysCall) (k : Kernel) :
    (k.switched.recorded calls).addressOf name = k.addressOf name := by
  rw [recorded_eq]
  rfl

/-- The calls that bind a socket do not depend on those made before. -/
lemma binding_recorded (name : Bytes) (calls : List SysCall) (k : Kernel) :
    (k.switched.recorded calls).binding name = k.binding name := by
  rw [recorded_eq]
  rfl

/-- The calls that open a channel. A name of 16 bytes or more is never looked up. -/
def opening (name : Bytes) (k : Kernel) : List Attempt :=
  k.preparing ++ if name.length ≤ 15 then k.binding name else []

end Kernel

namespace Channel

variable {name : String} {bytes : Bytes} {k : Kernel}

/-! ## Names -/

/-- A name with a zero byte in it is invalid. -/
lemma nameBytes_of_mem (nul : 0 ∈ Utf8.encode name) :
    ∃ fault, nameBytes name = .error fault ∧ fault.kind = .invalidInput := by
  have found : ((Utf8.encode name).findIdx? (· == 0)).isSome = true := by
    rw [List.findIdx?_isSome, List.any_eq_true]
    exact ⟨0, nul, rfl⟩
  obtain ⟨position, found⟩ := Option.isSome_iff_exists.1 found
  refine ⟨nulFault position, ?_, rfl⟩
  rw [nameBytes, found]

lemma nameBytes_of_notMem (valid : 0 ∉ Utf8.encode name) :
    nameBytes name = .ok (Utf8.encode name) := by
  have none : (Utf8.encode name).findIdx? (· == 0) = none := by
    rw [List.findIdx?_eq_none_iff]
    intro byte member
    exact beq_false_of_ne fun zero => valid (zero ▸ member)
  rw [nameBytes, none]

/-! ## Calls -/

/-- Up to the binding, a descriptor that is there is closed when a call fails. -/
lemma ofInterface_eq (bytes : Bytes) (k : Kernel) :
    BoundSocket.ofInterface bytes Protocol.arp k =
      match attempted k.preparing with
      | (calls, some errno) =>
        (.error (.os errno),
          if k.socketFault.isSome then k.recorded calls else (k.recorded calls).close)
      | (calls, none) =>
        (⟨Protocol.arp⟩ : Socket).bind bytes (k.switched.recorded calls) := by
  obtain ⟨socketFault, getFlagsFault, setFlagsFault⟩ := k
  cases socketFault with
  | some errno => rfl
  | none =>
    cases getFlagsFault with
    | some errno => rfl
    | none => cases setFlagsFault <;> rfl

/-- A name that is too long gives the descriptor back, and makes no other call. -/
lemma bind_of_long (long : ¬ bytes.length ≤ 15) (s : Socket) (k : Kernel) :
    s.bind bytes k = (.error nameTooLong, k.close) := by
  rw [Socket.bind, if_pos]
  rw [nameCapacity]
  omega

/-- Binding makes its two calls, and gives the descriptor back if one of them fails. -/
lemma bind_of_short (short : bytes.length ≤ 15) (k : Kernel) :
    (⟨Protocol.arp⟩ : Socket).bind bytes k =
      match attempted (k.binding bytes) with
      | (calls, some errno) => (.error (.os errno), (k.recorded calls).close)
      | (calls, none) => (.ok ⟨k.addressOf bytes⟩, k.recorded calls) := by
  have fits : ¬ nameCapacity < bytes.length + 1 := by
    rw [nameCapacity]
    omega
  rw [Socket.bind, if_neg fits, Kernel.nameToIndex_eq, Kernel.binding, Kernel.addressOf]
  cases k.lookupFault bytes with
  | some errno => rfl
  | none =>
    obtain ⟨socketFault, getFlagsFault, setFlagsFault, nameToIndexFault, bindFault⟩ := k
    cases bindFault <;> rfl

section

variable {calls : List SysCall} {errno : Errno}

/-- A socket that is prepared was obtained. -/
lemma socketFault_of_prepared (prepared : attempted k.preparing = (calls, none)) :
    k.socketFault = none := by
  cases created : k.socketFault with
  | none => rfl
  | some errno =>
    rw [Kernel.preparing, created] at prepared
    cases prepared

/-- A failed call is the last one, but for a descriptor to be closed. -/
lemma openSocket_of_failed (valid : nameBytes name = .ok bytes)
    (failed : attempted (k.opening bytes) = (calls, some errno)) :
    ∃ next, openSocket name k = (.error (.os errno), next) ∧
      next.trace = k.trace ++ (calls ++ if k.socketFault.isSome then [] else [.close]) := by
  rw [Kernel.opening, attempted_append] at failed
  rw [openSocket, valid]
  dsimp only
  rw [ofInterface_eq]
  -- the failure is among the calls that prepare the socket, or they all succeed and it is later
  rcases prepared : attempted k.preparing with ⟨first, _ | errno'⟩
  · rw [prepared] at failed
    by_cases short : bytes.length ≤ 15
    · -- the name fits, so one of the calls that bind the socket failed
      rw [if_pos short] at failed
      obtain ⟨rfl, bound⟩ := Prod.mk.inj failed
      have binding : attempted (k.binding bytes) = ((attempted (k.binding bytes)).1, some errno) :=
        Prod.ext rfl bound
      dsimp only
      rw [bind_of_short short, Kernel.binding_recorded, binding, socketFault_of_prepared prepared]
      refine ⟨_, rfl, ?_⟩
      rw [← Kernel.recorded_append, Kernel.recorded_eq]
      exact List.append_assoc _ _ _
    · rw [if_neg short] at failed
      cases failed
  · rw [prepared] at failed
    cases failed
    refine ⟨_, rfl, ?_⟩
    by_cases created : k.socketFault.isSome = true
    · rw [if_pos created, if_pos created, Kernel.recorded_eq, List.append_nil]
    · rw [if_neg created, if_neg created, Kernel.close, Kernel.trace_record, Kernel.recorded_eq,
        List.append_assoc]

/-- If no call fails, only the length of the name can keep the channel from opening. -/
lemma openSocket_of_fine (valid : nameBytes name = .ok bytes)
    (fine : ∀ attempt ∈ k.opening bytes, attempt.fault = none) :
    openSocket name k =
      if bytes.length ≤ 15 then
        (.ok ⟨k.addressOf bytes⟩, k.switched.recorded ((k.opening bytes).map Attempt.call))
      else
        (.error nameTooLong,
          (k.switched.recorded ((k.opening bytes).map Attempt.call)).close) := by
  rw [Kernel.opening, List.forall_mem_append] at fine
  rw [openSocket, valid]
  dsimp only
  rw [ofInterface_eq, attempted_of_fine fine.1, Kernel.opening]
  dsimp only
  by_cases short : bytes.length ≤ 15
  · rw [if_pos short] at fine
    rw [if_pos short, if_pos short, bind_of_short short, Kernel.binding_recorded,
      Kernel.addressOf_recorded, attempted_of_fine fine.2, List.map_append,
      Kernel.recorded_append]
  · rw [if_neg short, if_neg short, bind_of_long short, List.append_nil]

end

/-! ## Refusal -/

/-- The channel does not open, after the calls and no others. A session over it fails with what the
failure is to a caller. -/
def Refuses (iface : Interface) (k : Kernel) (fault : IoError) (calls : List SysCall) : Prop :=
  ∃ next, next.trace = k.trace ++ calls ∧
    attach iface ⟨k, none⟩ = (.error fault, ⟨next, none⟩) ∧
    ∀ operations, session iface operations k =
      (.error (if fault.kind = .permissionDenied then .noRawAccess iface.name fault
        else .interfaceUnavailable iface.name fault), next)

lemma refuses_of_openSocket {iface : Interface} {fault : IoError} {calls : List SysCall}
    {next : Kernel} (failed : openSocket iface.name k = (.error fault, next))
    (trace : next.trace = k.trace ++ calls) : Refuses iface k fault calls := by
  have attached : attach iface ⟨k, none⟩ = (.error fault, ⟨next, none⟩) := by
    rw [attach, failed]
  refine ⟨next, trace, attached, fun operations => ?_⟩
  rw [session, attached]
  rfl

section

variable {iface : Interface}

lemma refuses_of_nul (nul : 0 ∈ Utf8.encode iface.name) :
    ∃ fault, fault.kind = .invalidInput ∧ Refuses iface k fault [] := by
  obtain ⟨fault, invalid, kind⟩ := nameBytes_of_mem nul
  exact ⟨fault, kind, refuses_of_openSocket (openSocket_of_invalid invalid)
    (List.append_nil _).symm⟩

/-- What fails at once is the call that would have obtained a descriptor. -/
lemma socketFault_of_split {before after : List Attempt} {call : SysCall} {errno : Errno}
    (split : k.opening bytes = before ++ ⟨call, some errno⟩ :: after)
    (fine : ∀ attempt ∈ before, attempt.fault = none) :
    k.socketFault.isSome = true ↔ before = [] := by
  cases before with
  | nil =>
    have first : k.socketFault = some errno := congrArg Attempt.fault (List.cons.inj split).1
    simp [first]
  | cons attempt before =>
    have first : k.socketFault = attempt.fault := congrArg Attempt.fault (List.cons.inj split).1
    simp [first, fine attempt List.mem_cons_self]

/-- The first call that fails refuses the channel, and what was obtained before it is given back. -/
lemma refuses_of_fault {before after : List Attempt} {call : SysCall} {errno : Errno}
    (valid : nameBytes iface.name = .ok bytes)
    (split : k.opening bytes = before ++ ⟨call, some errno⟩ :: after)
    (fine : ∀ attempt ∈ before, attempt.fault = none) :
    Refuses iface k (.os errno)
      (before.map Attempt.call ++ call :: if before = [] then [] else [.close]) := by
  obtain ⟨next, failed, trace⟩ := openSocket_of_failed valid
    ((congrArg attempted split).trans (attempted_of_fault fine))
  refine refuses_of_openSocket failed ?_
  simp only [trace, socketFault_of_split split fine, List.append_assoc, List.singleton_append]

/-- A name that is too long refuses the channel when the socket is to be bound. -/
lemma refuses_of_long (valid : nameBytes iface.name = .ok bytes)
    (fine : ∀ attempt ∈ k.opening bytes, attempt.fault = none) (long : 16 ≤ bytes.length) :
    Refuses iface k nameTooLong
      [socketCall, .getFlags, .setFlags (k.flags ||| nonBlocking), .close] := by
  have opened := openSocket_of_fine valid fine
  have calls : (k.opening bytes).map Attempt.call =
      [socketCall, .getFlags, .setFlags (k.flags ||| nonBlocking)] := by
    rw [Kernel.opening, if_neg (Nat.not_le_of_lt long)]
    rfl
  rw [if_neg (Nat.not_le_of_lt long), calls] at opened
  refine refuses_of_openSocket opened ?_
  rw [Kernel.close, Kernel.trace_record, Kernel.recorded_eq]
  exact List.append_assoc _ _ _

/-! ## Success -/

/-- A look at a name that does not fail finds an interface. -/
lemma exists_index (short : bytes.length ≤ 15)
    (fine : ∀ attempt ∈ k.opening bytes, attempt.fault = none) :
    ∃ index, k.index? bytes = some index ∧ (k.nameToIndex bytes).1 = .ok index := by
  have looked : k.lookupFault bytes = none :=
    fine ⟨.nameToIndex bytes, _⟩
      (by rw [Kernel.opening, if_pos short]; exact List.mem_append_right _ List.mem_cons_self)
  have named := (Option.or_eq_none_iff.1 looked).2
  cases found : k.index? bytes with
  | none =>
    rw [found] at named
    cases named
  | some index =>
    refine ⟨index, rfl, ?_⟩
    rw [Kernel.nameToIndex_eq, looked, found]
    rfl

/-- If no call fails the channel opens, bound to the interface of the name. -/
lemma attach_of_fine (valid : nameBytes iface.name = .ok bytes) (short : bytes.length ≤ 15)
    (fine : ∀ attempt ∈ k.opening bytes, attempt.fault = none) {index : UInt32}
    (found : k.index? bytes = some index) :
    let s : BoundSocket := ⟨(⟨Protocol.arp⟩ : Socket).addressOn index⟩
    attach iface ⟨k, none⟩ =
      (.ok [.opened iface.name s.index],
        ⟨{ k with
            flags := k.flags ||| nonBlocking
            trace := k.trace ++ [socketCall, .getFlags, .setFlags (k.flags ||| nonBlocking),
              .nameToIndex bytes, .bind s.address] }, some s⟩) := by
  intro s
  have address : k.addressOf bytes = s.address := by
    rw [Kernel.addressOf, found]
    rfl
  have calls : (k.opening bytes).map Attempt.call =
      [socketCall, .getFlags, .setFlags (k.flags ||| nonBlocking), .nameToIndex bytes,
        .bind s.address] := by
    rw [Kernel.opening, if_pos short, ← address]
    rfl
  have opened := openSocket_of_fine valid fine
  rw [if_pos short, calls, address, Kernel.recorded_eq] at opened
  rw [attach, opened]
  rfl

/-- Only a failed call keeps a name that is short enough from opening a channel. -/
lemma exists_of_attach_eq_error (valid : nameBytes iface.name = .ok bytes)
    (short : bytes.length ≤ 15) {fault : IoError} {next : Channel}
    (failed : attach iface ⟨k, none⟩ = (.error fault, next)) :
    ∃ before call errno after, k.opening bytes = before ++ ⟨call, some errno⟩ :: after ∧
      (∀ attempt ∈ before, attempt.fault = none) ∧ fault = .os errno := by
  rcases exists_fault_or_fine (k.opening bytes) with
    ⟨before, call, errno, after, split, fine⟩ | fine
  · obtain ⟨last, -, attached, -⟩ := refuses_of_fault valid split fine
    rw [attached] at failed
    cases failed
    exact ⟨before, call, errno, after, split, fine, rfl⟩
  · obtain ⟨index, found, -⟩ := exists_index short fine
    rw [attach_of_fine valid short fine found] at failed
    cases failed

end

/-! ## Addresses -/

/-- The kernel made more calls, and those to send are to the address. -/
def SendsTo (address : Address) (k next : Kernel) : Prop :=
  ∃ calls, next.trace = k.trace ++ calls ∧
    ∀ frame flags other, .sendTo frame flags other ∈ calls → other = address

section

variable {address : Address} {middle next : Kernel}

lemma SendsTo.refl (k : Kernel) : SendsTo address k k :=
  ⟨[], (List.append_nil _).symm, by simp⟩

lemma SendsTo.trans (first : SendsTo address k middle) (second : SendsTo address middle next) :
    SendsTo address k next := by
  obtain ⟨calls, trace, all⟩ := first
  obtain ⟨calls', trace', all'⟩ := second
  refine ⟨calls ++ calls', by rw [trace', trace, List.append_assoc], ?_⟩
  intro frame flags other member
  exact (List.mem_append.1 member).elim (all frame flags other) (all' frame flags other)

end

/-- One call on an open channel sends to the address of its socket, which stays for as long as the
channel is open. -/
lemma sendsTo_perform (s : BoundSocket) (k : Kernel) (operation : Operation) :
    ∃ next, SendsTo s.address k next ∧
      ((perform ⟨k, some s⟩ operation).2 = ⟨next, some s⟩ ∨
        (perform ⟨k, some s⟩ operation).2 = ⟨next, none⟩) := by
  cases operation with
  | send frame =>
    rw [perform_send]
    refine ⟨_, ⟨_, rfl, ?_⟩, .inl rfl⟩
    intro frame' flags other member
    cases List.eq_of_mem_replicate member
    rfl
  | receive =>
    obtain ⟨skipped, rest, -, ⟨-, -, performed⟩ | ⟨_, _, -, -, performed⟩⟩ :=
      perform_receive s k
    all_goals
      rw [performed]
      refine ⟨_, ⟨_, rfl, ?_⟩, .inl rfl⟩
      intro frame flags other member
      cases List.eq_of_mem_replicate member
  | close => exact ⟨_, ⟨[.close], rfl, by simp⟩, .inr rfl⟩

/-- Whatever is done with an open channel, frames go to its own address. -/
lemma sendsTo_run (s : BoundSocket) (k : Kernel) (operations : List Operation) :
    SendsTo s.address k (run ⟨k, some s⟩ operations).2.kernel := by
  induction operations generalizing k with
  | nil => exact .refl k
  | cons operation operations ih =>
    obtain ⟨next, sends, performed | performed⟩ := sendsTo_perform s k operation
    · simp only [run, performed]
      exact sends.trans (ih next)
    · simp only [run, performed, run_of_closed]
      exact sends

/-- The flag for calls that never wait is one bit. -/
lemma testBit_or_nonBlocking (flags : UInt32) (bit : Nat) :
    (flags ||| nonBlocking).toNat.testBit bit = (flags.toNat.testBit bit || bit == 11) := by
  have alone : nonBlocking.toNat.testBit bit = (bit == 11) := by
    show (2 ^ 11).testBit bit = _
    rw [Nat.testBit_two_pow]
    exact decide_eq_decide.2 eq_comm
  rw [UInt32.toNat_or, Nat.testBit_or, alone]

/-- How a channel opens.

A name with a zero byte is refused before any call. For all other names the calls are made in order
up to the first that fails, whose failure is returned once the descriptor, if there is one, is
closed. If none fails, a name of 16 bytes or more is refused before it is looked up, and a shorter
one opens the channel: only a failed call keeps it from that. The flags are those that the kernel
returned and one bit more. The socket is bound to the index that the kernel returned, and whatever
is sent later goes to the address that it was bound to. -/
theorem opening_exact (iface : Interface) (k : Kernel) :
    let bytes := Utf8.encode iface.name
    let flags := k.flags ||| nonBlocking
    (0 ∈ bytes → ∃ fault, fault.kind = .invalidInput ∧ Refuses iface k fault []) ∧
    (0 ∉ bytes → ∀ before call errno after,
      k.opening bytes = before ++ ⟨call, some errno⟩ :: after →
      (∀ attempt ∈ before, attempt.fault = none) →
      Refuses iface k (.os errno)
        (before.map Attempt.call ++ call :: if before = [] then [] else [.close])) ∧
    (0 ∉ bytes → (∀ attempt ∈ k.opening bytes, attempt.fault = none) → 16 ≤ bytes.length →
      ∃ fault, fault.kind = .invalidInput ∧
        Refuses iface k fault [.socket 17 524291 1544, .getFlags, .setFlags flags, .close]) ∧
    (0 ∉ bytes → (∀ attempt ∈ k.opening bytes, attempt.fault = none) → bytes.length ≤ 15 →
      ∃ index, (k.nameToIndex bytes).1 = .ok index ∧
        let s : BoundSocket := ⟨{ protocol := 1544, index := index.toInt32.toInt }⟩
        let bound : Kernel :=
          { k with
            flags
            trace := k.trace ++ [.socket 17 524291 1544, .getFlags, .setFlags flags,
              .nameToIndex bytes, .bind s.address] }
        attach iface ⟨k, none⟩ = (.ok [.opened iface.name s.index], ⟨bound, some s⟩) ∧
          ∀ operations, SendsTo s.address bound (run ⟨bound, some s⟩ operations).2.kernel) ∧
    (0 ∉ bytes → bytes.length ≤ 15 →
      ∀ fault next, attach iface ⟨k, none⟩ = (.error fault, next) →
        ∃ before call errno after, k.opening bytes = before ++ ⟨call, some errno⟩ :: after ∧
          (∀ attempt ∈ before, attempt.fault = none) ∧ fault = .os errno) ∧
    ∀ bit, flags.toNat.testBit bit = (k.flags.toNat.testBit bit || bit == 11) := by
  intro bytes flags
  refine ⟨refuses_of_nul, fun valid before call errno after => ?_, fun valid fine long => ?_,
    fun valid fine short => ?_, fun valid short fault next => ?_, testBit_or_nonBlocking k.flags⟩
  · exact refuses_of_fault (nameBytes_of_notMem valid)
  · exact ⟨nameTooLong, rfl, refuses_of_long (nameBytes_of_notMem valid) fine long⟩
  · obtain ⟨index, found, looked⟩ := exists_index short fine
    refine ⟨index, looked, ?_⟩
    exact ⟨attach_of_fine (nameBytes_of_notMem valid) short fine found, sendsTo_run _ _⟩
  · exact exists_of_attach_eq_error (nameBytes_of_notMem valid) short

/-- The socket may not be bound, so its descriptor is closed. Nothing is received. -/
example :
    let k : Kernel :=
      ⟨none, none, none, none, some 13, 2, [("eth0", 3)], [], [.received ⟨[1], 0, 3⟩], []⟩
    (session ⟨"eth0", 3, none, [], true⟩ [.receive] k).2.trace =
      [.socket 17 524291 1544, .getFlags, .setFlags 2050, .nameToIndex [101, 116, 104, 48],
        .bind { protocol := 1544, index := 3 }, .close] := by
  decide +kernel

end Channel

end ArpProbe.Packet
