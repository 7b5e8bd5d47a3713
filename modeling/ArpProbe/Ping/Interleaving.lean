import ArpProbe.Ping

/-!
# The two tasks of a ping

Inside a ping two tasks take turns. The listener owns the channel: it sends the request, receives
frames, puts a reply into a queue for every answer, and closes the channel in the end. The collector
takes replies out of the queue until the window closes or an error comes out. Then it leaves the
queue, which the listener notices wherever it waits, and the call returns once the listener is done.

`Step` is a step of one of the tasks, of the link, which may answer, fail or stay silent, or of the
clock, which may close the window at any time. A state also records what came in, what entered the
queue and what was done with the channel.
-/

namespace ArpProbe.Ping.Interleaving

/-- The number of results that the queue holds. -/
def capacity : Nat := 16

/-- Where the listener is. -/
inductive Listener
  /-- It has not run yet. -/
  | starting
  /-- It waits for the request to be sent. -/
  | sending
  /-- It waits for a frame. -/
  | receiving
  /-- It waits for room in the queue for a reply. -/
  | delivering (reply : Reply)
  /-- It is about to close the channel, and has an error to report or has none. -/
  | closing (fault : Option IoError)
  /-- It waits for room in the queue for an error. -/
  | reporting (error : IoError)
  /-- It has ended. -/
  | done
deriving DecidableEq, Repr

/-- Where the collector is. -/
inductive Collector
  /-- It waits for results, unless the listener has ended, and for the window to close. -/
  | collecting (listening : Bool)
  /-- It has left the queue and waits for the listener. -/
  | leaving (outcome : Except Error (List Reply))
  /-- The call has returned. -/
  | returned (outcome : Except Error (List Reply))

namespace Collector

/-- The collector still takes results. -/
def isCollecting : Collector → Bool
  | collecting _ => true
  | _ => false

/-- What the call returns, once that is settled. -/
def outcome? : Collector → Option (Except Error (List Reply))
  | collecting _ => none
  | leaving outcome => some outcome
  | returned outcome => some outcome

end Collector

/-- What is done with the channel. -/
inductive Action
  /-- A call to send the request starts. -/
  | send
  /-- The request has been sent. -/
  | sent
  /-- A call to receive a frame starts. -/
  | receive
  /-- A call has failed. -/
  | failed (error : IoError)
  | close
deriving DecidableEq, Repr

/-- A ping between two steps. -/
structure State where
  listener : Listener
  collector : Collector
  queue : List (Except IoError Reply)
  /-- All that has entered the queue. -/
  entered : List (Except IoError Reply)
  /-- The replies that the collector has taken. -/
  collected : List Reply
  /-- The frames that came in, each with the time since the request. -/
  received : List (Bytes × Nat)
  /-- What was done with the channel. -/
  actions : List Action

namespace State

/-- A ping before its first step. -/
def start : State :=
  ⟨.starting, .collecting true, [], [], [], [], []⟩

/-- The replies among the frames that came in. -/
def answers (request : Arp) (s : State) : List Reply :=
  s.received.filterMap fun (bytes, duration) => (Inbound.classify request bytes).reply? duration

/-- The replies in the queue. -/
def queued (s : State) : List Reply :=
  s.queue.filterMap Except.toOption

/-- The reply that waits for room in the queue. -/
def blocked (s : State) : List Reply :=
  match s.listener with
  | .delivering reply => [reply]
  | _ => []

/-- The listener is in one of the waits that end when the collector leaves. -/
def interruptible (s : State) : Bool :=
  match s.listener with
  | .starting | .sending | .receiving | .delivering _ => true
  | _ => false

/-- What a call returns when its window closes. -/
def verdict (s : State) : Except Error (List Reply) :=
  Ping.verdict s.collected

/-- The state after a frame came in: an answer is delivered, anything else is passed over. -/
def hear (request : Arp) (bytes : Bytes) (duration : Nat) (s : State) : State :=
  let s := { s with received := s.received ++ [(bytes, duration)] }
  match (Inbound.classify request bytes).reply? duration with
  | some reply => { s with listener := .delivering reply }
  | none => { s with actions := s.actions ++ [.receive] }

section

variable (request : Arp) (bytes : Bytes) (duration : Nat) (s : State)

@[simp] theorem collector_hear : (s.hear request bytes duration).collector = s.collector := by
  unfold hear
  split <;> rfl

@[simp] theorem queue_hear : (s.hear request bytes duration).queue = s.queue := by
  unfold hear
  split <;> rfl

@[simp] theorem entered_hear : (s.hear request bytes duration).entered = s.entered := by
  unfold hear
  split <;> rfl

@[simp] theorem collected_hear : (s.hear request bytes duration).collected = s.collected := by
  unfold hear
  split <;> rfl

/-- An answer that comes in is the next one. -/
theorem answers_hear : (s.hear request bytes duration).answers request =
    s.answers request ++ ((Inbound.classify request bytes).reply? duration).toList := by
  cases reply : (Inbound.classify request bytes).reply? duration <;> simp [hear, answers, reply]

/-- A listener that heard an answer delivers it, and receives again otherwise. -/
theorem listener_hear {s : State} (receiving : s.listener = .receiving) :
    (s.hear request bytes duration).listener =
      ((Inbound.classify request bytes).reply? duration).elim .receiving .delivering := by
  unfold hear
  cases reply : (Inbound.classify request bytes).reply? duration with
  | none => exact receiving
  | some reply => rfl

end

/-- The state after a call over the channel failed. -/
def fault (error : IoError) (s : State) : State :=
  { s with listener := .closing (some error), actions := s.actions ++ [.failed error] }

/-- The state after the collector left the queue, and all that was in it. -/
def leave (outcome : Except Error (List Reply)) (s : State) : State :=
  { s with collector := .leaving outcome, queue := [] }

end State

/-- Whose step it is. -/
inductive Actor
  | link
  | listener
  | collector
  | clock
deriving DecidableEq, Repr

/-- A step of a ping that waits for answers to `request`. -/
inductive Step (request : Arp) : Actor → State → State → Prop
  /-- The listener starts to send the request. -/
  | begin {s : State} (at_start : s.listener = .starting) :
      Step request .listener s { s with listener := .sending, actions := s.actions ++ [.send] }
  /-- The request has been sent. -/
  | sent {s : State} (sending : s.listener = .sending) :
      Step request .link s
        { s with listener := .receiving, actions := s.actions ++ [.sent, .receive] }
  /-- The request could not be sent. -/
  | sendFails {s : State} (error : IoError) (sending : s.listener = .sending) :
      Step request .link s (s.fault error)
  /-- A frame comes in. -/
  | receive {s : State} (bytes : Bytes) (duration : Nat) (receiving : s.listener = .receiving) :
      Step request .link s (s.hear request bytes duration)
  /-- The channel fails. -/
  | receiveFails {s : State} (error : IoError) (receiving : s.listener = .receiving) :
      Step request .link s (s.fault error)
  /-- A reply enters the queue. -/
  | deliver {s : State} (reply : Reply) (delivering : s.listener = .delivering reply)
      (collecting : s.collector.isCollecting) (room : s.queue.length < capacity) :
      Step request .listener s
        { s with
          listener := .receiving
          queue := s.queue ++ [.ok reply]
          entered := s.entered ++ [.ok reply]
          actions := s.actions ++ [.receive] }
  /-- The listener notices that the collector has left. -/
  | interrupt {s : State} (left : s.collector.isCollecting = false)
      (waiting : s.interruptible) :
      Step request .listener s { s with listener := .closing none }
  /-- The channel is closed. -/
  | close {s : State} (fault : Option IoError) (closing : s.listener = .closing fault) :
      Step request .listener s
        { s with
          listener := fault.elim .done .reporting
          actions := s.actions ++ [.close] }
  /-- An error enters the queue. -/
  | report {s : State} (error : IoError) (reporting : s.listener = .reporting error)
      (collecting : s.collector.isCollecting) (room : s.queue.length < capacity) :
      Step request .listener s
        { s with
          listener := .done
          queue := s.queue ++ [.error error]
          entered := s.entered ++ [.error error] }
  /-- There is nobody to report an error to. -/
  | drop {s : State} (error : IoError) (reporting : s.listener = .reporting error)
      (left : s.collector.isCollecting = false) :
      Step request .listener s { s with listener := .done }
  /-- The collector takes a reply. -/
  | collect {s : State} (reply : Reply) (queue : List (Except IoError Reply))
      (collecting : s.collector.isCollecting) (first : s.queue = .ok reply :: queue) :
      Step request .collector s { s with queue := queue, collected := s.collected ++ [reply] }
  /-- The collector takes an error, and leaves. -/
  | fail {s : State} (error : IoError) (queue : List (Except IoError Reply))
      (collecting : s.collector.isCollecting) (first : s.queue = .error error :: queue) :
      Step request .collector s (s.leave (.error (.transport error)))
  /-- The collector notices that the listener has ended. -/
  | notice {s : State} (collecting : s.collector = .collecting true) (empty : s.queue = [])
      (done : s.listener = .done) :
      Step request .collector s { s with collector := .collecting false }
  /-- The window closes, and the collector leaves. -/
  | expire {s : State} (collecting : s.collector.isCollecting) :
      Step request .clock s (s.leave s.verdict)
  /-- The call returns. -/
  | finish {s : State} (outcome : Except Error (List Reply))
      (leaving : s.collector = .leaving outcome) (done : s.listener = .done) :
      Step request .collector s { s with collector := .returned outcome }

/-- The states that a ping can get into. -/
inductive Reachable (request : Arp) : State → Prop
  | start : Reachable request .start
  | step {actor : Actor} {s t : State} (reachable : Reachable request s)
      (step : Step request actor s t) : Reachable request t

end ArpProbe.Ping.Interleaving
