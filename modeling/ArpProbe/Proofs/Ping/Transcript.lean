import ArpProbe.Proofs.Frame.Correlation
import ArpProbe.Proofs.Ping.Simulation
import Mathlib.Data.List.Forall2

/-!
# The log of a ping

A ping writes one line for every frame that it takes in, in the order in which they come:
`transcript_of_script` says which frames these are and what their lines read. Whether the ping is
verbose shows in the levels of the lines only, and nothing else depends on it.
-/

namespace ArpProbe

/-- The bytes of a frame that comes in. -/
def Event.bytes? : Event → Option Bytes
  | .frame bytes _ => some bytes
  | _ => none

/-- The frames that come in while a call listens to a script: those before the window closes, up to
the first event that is no frame. Nobody listens unless the request goes out. -/
def Wire.delivered (window sendDelay : Nat) (sendError : Option IoError) (steps : List Step) :
    List Bytes :=
  if sendDelay < window ∧ sendError = none then
    ((timeline sendDelay steps).takeWhile fun entry => entry.1 < window && entry.2.isFrame).filterMap
      (·.2.bytes?)
  else []

namespace LogEntry

/-- The level of a line about an ARP message. -/
def trafficLevel (verbose : Bool) : Level :=
  if verbose then .debug else .trace

/-- The end of a line about an ARP message, which names its sender. -/
def senderText (ip : Ipv4) (mac : Mac) : String :=
  " received arp: srcIP: '" ++ ip.text ++ "', srcMac: '" ++ mac.text ++ "'"

/-- The line about a frame that comes in while `src` asks who has `dst`. -/
inductive Transcribes (verbose : Bool) (src dst : Ipv4) (bytes : Bytes) (entry : LogEntry) : Prop
  | answer (answers : Arp.Answers src dst bytes) (level : entry.level = trafficLevel verbose)
      (message : entry.message =
        "process" ++ senderText (.ofBytes (bytes.drop 28)) (.ofBytes (bytes.drop 22)))
  | other (legible : Arp.Legible bytes) (unanswering : ¬ Arp.Answers src dst bytes)
      (level : entry.level = trafficLevel verbose)
      (message : entry.message =
        "ignore" ++ senderText (.ofBytes (bytes.drop 28)) (.ofBytes (bytes.drop 22)))
  | foreign (illegible : ¬ Arp.Legible bytes) (level : entry.level = .trace)
      (message : entry.message = "ignore non-arp frame of " ++ toString bytes.length ++ " bytes")

/-- The line says that an answer is processed. -/
def processes (entry : LogEntry) : Bool :=
  "process".toList.isPrefixOf entry.message.toList

/-- The line about a message says what was done with it and who sent it. -/
lemma message_heard (verbose answer : Bool) (ip : Ipv4) (mac : Mac) :
    (heard verbose answer ip mac).message =
      (if answer then "process" else "ignore") ++ senderText ip mac := by
  unfold message senderText
  simp only [String.append_assoc]

/-- Whether a line is about an answer shows in its first letters. -/
lemma processes_heard (verbose answer : Bool) (ip : Ipv4) (mac : Mac) :
    (heard verbose answer ip mac).processes = answer := by
  unfold processes
  rw [message_heard, String.toList_append]
  cases answer with
  | true => rfl
  | false => rfl

lemma processes_notArp (length : Nat) : (notArp length).processes = false := by
  have message : (notArp length).message =
      "ignore non-arp frame of " ++ (toString length ++ " bytes") := String.append_assoc
  unfold processes
  rw [message, String.toList_append]
  rfl

end LogEntry

/-! ## One frame, one line -/

/-- The line about a frame with a meaning. -/
def Inbound.entry (verbose : Bool) (bytes : Bytes) : Inbound → LogEntry
  | .reply m => .heard verbose true m.senderIp m.senderMac
  | .unrelated m => .heard verbose false m.senderIp m.senderMac
  | .notArp => .notArp bytes.length

/-- The line that is written about a frame is the one that is due. -/
lemma Inbound.transcribes_entry (verbose : Bool) (mac : Mac) (src dst : Ipv4) (bytes : Bytes) :
    ((classify (.request mac src dst) bytes).entry verbose bytes).Transcribes verbose src dst
      bytes := by
  cases read : Arp.decode? bytes with
  | none =>
    rw [classify, read]
    exact .foreign (Arp.decode?_eq_none_iff.1 read) rfl rfl
  | some m =>
    obtain ⟨legible, frame⟩ := Arp.decode?_eq_some_iff.1 read
    obtain ⟨-, senderMac, senderIp, -⟩ := Arp.fields_eq_of_frame frame
    have answers := @Arp.answers_iff bytes m src dst mac read
    rw [classify, read]
    by_cases response : m.isResponseOf (.request mac src dst) = true
    · simp only [response, if_true]
      refine .answer (answers.2 response) rfl ?_
      rw [← senderMac, ← senderIp]
      exact LogEntry.message_heard verbose true _ _
    · simp only [response]
      refine .other legible (fun answer => response (answers.1 answer)) rfl ?_
      rw [← senderMac, ← senderIp]
      exact LogEntry.message_heard verbose false _ _

/-- An answer comes from the address that was asked for. -/
lemma Inbound.senderIp_of_reply {mac : Mac} {src dst : Ipv4} {bytes : Bytes} {m : Arp}
    (answers : classify (.request mac src dst) bytes = .reply m) : m.senderIp = dst := by
  rw [classify] at answers
  cases read : Arp.decode? bytes with
  | none => simp [read] at answers
  | some read' =>
    simp only [read] at answers
    split at answers
    · next response =>
      obtain rfl : read' = m := Inbound.reply.inj answers
      exact (Arp.isResponseOf_request_iff.1 response).2.1
    · cases answers

/-- What a call comes to, without the log. -/
def Call.unlogged {α σ : Type} (call : Call α σ) : Call α σ :=
  { call with log := [] }

/-- Calls that differ only in what is logged end alike and leave the link alike. -/
lemma Call.outcome_eq_of_unlogged {α σ : Type} {call call' : Call α σ}
    (same : call.unlogged = call'.unlogged) : call.ending = call'.ending ∧ call.link = call'.link := by
  obtain ⟨ending, -, link⟩ := Call.mk.inj same
  exact ⟨ending, link⟩

namespace Ping

section

variable {σ : Type} {link : Link σ} {request : Arp} {verbose verbose' : Bool}
  {window sentAt now : Nat} {s : σ}

/-- A frame adds its line in front. -/
lemma Hearing.log_heard (bytes : Bytes) (duration : Nat) (hearing : Hearing σ) (inbound : Inbound) :
    (hearing.heard verbose bytes duration inbound).log =
      inbound.entry verbose bytes :: hearing.log := by
  cases inbound <;> rfl

/-- The lines about answers name who sent the replies, in order. -/
lemma processed_listen {mac : Mac} {src dst : Ipv4} :
    let hearing := listen link (.request mac src dst) verbose window sentAt now s
    (hearing.log.filter (·.processes)).map LogEntry.message =
      hearing.replies.map fun reply => "process" ++ LogEntry.senderText dst reply.mac := by
  intro hearing
  unfold hearing
  fun_induction listen link (.request mac src dst) verbose window sentAt now s with
  | case7 now s after bytes stamp next received late _ ih =>
    rw [Hearing.log_heard, Hearing.replies_heard, List.map_append, ← ih]
    cases meaning : Inbound.classify (.request mac src dst) bytes with
    | reply m =>
      rw [Inbound.entry, List.filter_cons_of_pos (LogEntry.processes_heard ..), List.map_cons,
        LogEntry.message_heard, Inbound.senderIp_of_reply meaning]
      rfl
    | unrelated m =>
      rw [Inbound.entry, List.filter_cons_of_neg (by simp [LogEntry.processes_heard])]
      rfl
    | notArp =>
      rw [Inbound.entry, List.filter_cons_of_neg (by simp [LogEntry.processes_notArp])]
      rfl
  | _ => rfl

/-- The lines of a call that listens to a script, one for each frame that comes in. -/
lemma log_listen_wire {steps : List Wire.Step} {wire : Wire} (script : wire.steps = steps) :
    (listen Wire.link request verbose window sentAt now wire).log =
      (((Wire.timeline now steps).takeWhile fun entry =>
        entry.1 < window && entry.2.isFrame).filterMap (·.2.bytes?)).map
          fun bytes => (Inbound.classify request bytes).entry verbose bytes := by
  -- one entry of the timeline is one step of the script, on the clock of the listener
  induction steps generalizing now wire with
  | nil =>
    rw [listen_of_silence (receive_nil script)]
    rfl
  | cons step steps ih =>
    have received := receive_cons script
    rw [Wire.timeline_cons]
    by_cases late : window ≤ now + step.after
    · rw [listen_of_late received late, List.takeWhile_cons_of_neg (by simp; omega)]
      rfl
    have early : now + step.after < window := Nat.not_le.1 late
    cases event : step.event with
    | frame bytes stamp =>
      rw [event] at received
      rw [listen_of_frame received early, Hearing.log_heard, ih rfl,
        List.takeWhile_cons_of_pos (by simp [early, Event.isFrame])]
      rfl
    | failure error =>
      rw [event] at received
      rw [listen_of_failure received early, List.takeWhile_cons_of_neg (by simp [Event.isFrame])]
      rfl
    | crash text =>
      rw [event] at received
      rw [listen_of_crash received early, List.takeWhile_cons_of_neg (by simp [Event.isFrame])]
      rfl

/-! ## Verbosity -/

/-- What was heard, without the log. -/
def Hearing.unlogged (hearing : Hearing σ) : Hearing σ :=
  { hearing with log := [] }

lemma Hearing.unlogged_heard (bytes : Bytes) (duration : Nat) (hearing : Hearing σ)
    (inbound : Inbound) :
    (hearing.heard verbose bytes duration inbound).unlogged =
      { hearing.unlogged with
        replies := (inbound.reply? duration).toList ++ hearing.unlogged.replies } := by
  cases inbound <;> rfl

/-- What is heard does not depend on who wants to know. -/
lemma unlogged_listen (verbose verbose' : Bool) :
    (listen link request verbose window sentAt now s).unlogged =
      (listen link request verbose' window sentAt now s).unlogged := by
  fun_induction listen link request verbose window sentAt now s with
  | case1 now s next received => rw [listen_of_silence received]
  | case2 now s after next error received late => rw [listen_of_late received late]
  | case3 now s after next error received early =>
    rw [listen_of_failure received (Nat.not_le.1 early)]
  | case4 now s after next text received late => rw [listen_of_late received late]
  | case5 now s after next text received early =>
    rw [listen_of_crash received (Nat.not_le.1 early)]
  | case6 now s after bytes stamp next received late => rw [listen_of_late received late]
  | case7 now s after bytes stamp next received early _ ih =>
    rw [listen_of_frame received (Nat.not_le.1 early), Hearing.unlogged_heard,
      Hearing.unlogged_heard, ih]

lemma unlogged_conclude (hearing : Hearing σ) :
    (conclude link window hearing).unlogged = conclude link window hearing.unlogged := by
  rw [conclude, conclude, Hearing.unlogged]
  cases hearing.stop <;> rfl

/-- Apart from the log, an exchange does not depend on how much is logged. -/
lemma unlogged_exchange (verbose verbose' : Bool) :
    (exchange link request verbose window s).unlogged =
      (exchange link request verbose' window s).unlogged := by
  let sending := link.send request.toBytes s
  by_cases late : window ≤ sending.after
  · rw [exchange_of_late late, exchange_of_late late]
  have early : sending.after < window := Nat.not_le.1 late
  cases outcome : sending.outcome with
  | error error => rw [exchange_of_unsent early outcome, exchange_of_unsent early outcome]
  | ok =>
    rw [exchange_of_sent early outcome, exchange_of_sent early outcome, unlogged_conclude,
      unlogged_conclude, unlogged_listen verbose verbose']

/-- Verbosity changes nothing but the log of a ping. -/
lemma unlogged_overInterface {timeout start : Nat} {dst : Ipv4} {iface : Interface}
    (verbose verbose' : Bool) :
    (overInterface link ⟨timeout, verbose⟩ start s dst iface).unlogged =
      (overInterface link ⟨timeout, verbose'⟩ start s dst iface).unlogged := by
  cases addressed : sender iface dst with
  | error error => rw [overInterface_of_refused addressed, overInterface_of_refused addressed]
  | ok addresses =>
    obtain ⟨mac, src⟩ := addresses
    rcases opens : link.attach iface s with ⟨result, next⟩
    cases result with
    | error failure =>
      rw [overInterface_of_unopened addressed opens, overInterface_of_unopened addressed opens]
    | ok log =>
      rw [overInterface_of_attach addressed opens, overInterface_of_attach addressed opens]
      exact unlogged_exchange verbose verbose'

end

/-! ## Scripts -/

lemma log_conclude {σ : Type} {link : Link σ} {window : Nat} (hearing : Hearing σ) :
    (conclude link window hearing).log = hearing.log := by
  rw [conclude]
  cases hearing.stop <;> rfl

section

variable {iface : Interface} {verbose : Bool} {window sendDelay : Nat} {sendError : Option IoError}
  {steps : List Wire.Step}

/-- The log of an exchange has a line for every frame that is delivered. -/
lemma log_exchange_script (request : Arp) :
    (exchange Wire.link request verbose window (openWire iface sendDelay sendError steps)).log =
      (Wire.delivered window sendDelay sendError steps).map
        fun bytes => (Inbound.classify request bytes).entry verbose bytes := by
  rw [Wire.delivered]
  by_cases late : window ≤ sendDelay
  · rw [exchange_of_late (by rwa [after_send_openWire]), if_neg fun sent => by omega]
    rfl
  have early : sendDelay < window := Nat.not_le.1 late
  cases sendError with
  | some error =>
    rw [exchange_of_unsent early rfl, if_neg fun sent => nomatch sent.2]
    rfl
  | none =>
    rw [exchange_script_sent early, if_pos ⟨early, rfl⟩, log_conclude, log_listen_wire rfl]
    rfl

/-- The answers in the log of an exchange are the replies that it returns. -/
lemma processed_exchange {σ : Type} {link : Link σ} {s : σ} {mac : Mac} {src dst : Ipv4}
    {replies : List Reply} {elapsed : Nat}
    (ending : (exchange link (.request mac src dst) verbose window s).ending =
      .finished (.ok replies) elapsed) :
    ((exchange link (.request mac src dst) verbose window s).log.filter (·.processes)).map
        LogEntry.message =
      replies.map fun reply => "process" ++ LogEntry.senderText dst reply.mac := by
  obtain ⟨early, sent, -, rfl, -⟩ := ending_exchange_eq_ok_iff.1 ending
  rw [exchange_of_sent early sent, log_conclude]
  exact processed_listen

end

/-- The log of a ping is a faithful transcript, and verbosity only changes its levels.

Pings over one script that differ only in their verbosity end in the same way after the same time,
and have done the same to the link. After the line about the channel that was opened, the log has
exactly one line for each frame that was delivered, in order: what it reads is settled by the bytes
of the frame, and its level by these and the verbosity. So if replies are returned, the lines about
answers name the address that was asked for and the hardware addresses of the replies, in order. -/
theorem transcript_of_script (iface : Interface) (dst : Ipv4) (timeout start sendDelay : Nat)
    (sendError : Option IoError) (steps : List Wire.Step) :
    let call := fun verbose => overInterface Wire.link ⟨timeout, verbose⟩ start
      (.ofScript none sendDelay sendError steps) dst iface
    (∀ verbose verbose', (call verbose).ending = (call verbose').ending ∧
      (call verbose).link = (call verbose').link) ∧
    (∀ verbose mac address, iface.mac = some mac →
      iface.addresses.find? (·.contains dst) = some address →
      let window := Config.window ⟨timeout, verbose⟩ start
      ∃ lines, (call verbose).log = .pinging dst iface.name address.ip :: lines ∧
        List.Forall₂ (LogEntry.Transcribes verbose address.ip dst)
          (Wire.delivered window sendDelay sendError steps) lines ∧
        ∀ replies elapsed, (call verbose).ending = .finished (.ok replies) elapsed →
          (lines.filter (·.processes)).map LogEntry.message =
            replies.map fun reply => "process" ++ LogEntry.senderText dst reply.mac) := by
  intro call
  constructor
  · intro verbose verbose'
    exact Call.outcome_eq_of_unlogged (unlogged_overInterface verbose verbose')
  · intro verbose mac address hardware own window
    have addressed := sender_eq_ok hardware own
    let exchanged := exchange Wire.link (.request mac address.ip dst) verbose window
      (openWire iface sendDelay sendError steps)
    have attached : call verbose = .reporting ([] ++ [.pinging dst iface.name address.ip])
        exchanged := overInterface_of_attach addressed rfl
    rw [attached]
    refine ⟨exchanged.log, rfl, ?_, fun replies elapsed => processed_exchange⟩
    rw [show exchanged.log = _ from log_exchange_script _, List.forall₂_map_right_iff,
      List.forall₂_same]
    exact fun bytes _ => Inbound.transcribes_entry verbose mac address.ip dst bytes

end Ping

end ArpProbe
