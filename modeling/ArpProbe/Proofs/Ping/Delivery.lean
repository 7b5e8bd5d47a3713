import ArpProbe.Proofs.Ping.Listening
import ArpProbe.Proofs.Ping.Progress
import Mathlib.Data.List.Basic

/-!
# From the listener to the collector

What the two tasks of a ping do to the answers, in whatever order they take turns: an answer enters
the queue in its turn, or waits to, and the collector takes what is in the queue from its front. The
invariant is `Accounted`: it holds of every state that a ping can get into.
-/

namespace ArpProbe.Ping.Interleaving

/-! ## Lists of results -/

/-- Results without an error are replies. -/
lemma map_ok_filterMap_toOption {results : List (Except IoError Reply)}
    (replies : ∀ error, .error error ∉ results) :
    (results.filterMap Except.toOption).map .ok = results := by
  induction results with
  | nil => rfl
  | cons result results ih =>
    have rest := ih fun error mem => replies error (List.mem_cons_of_mem _ mem)
    cases result with
    | error error => exact absurd (List.mem_cons_self ..) (replies error)
    | ok reply => simpa [Except.toOption] using rest

@[simp] lemma filterMap_toOption_map_ok (replies : List Reply) :
    (replies.map .ok : List (Except IoError Reply)).filterMap Except.toOption = replies := by
  induction replies with
  | nil => rfl
  | cons reply replies ih => simp [Except.toOption, ih]

/-- The replies before the first error, and what follows it, are determined by the list. -/
lemma eq_of_map_ok_append_error {first second : List Reply} {error error' : IoError}
    {rest rest' : List (Except IoError Reply)}
    (same : (first.map .ok : List (Except IoError Reply)) ++ .error error :: rest =
      second.map .ok ++ .error error' :: rest') :
    first = second ∧ error = error' ∧ rest = rest' := by
  induction first generalizing second with
  | nil =>
    cases second with
    | nil => simpa using same
    | cons reply second => simp at same
  | cons reply first ih =>
    cases second with
    | nil => simp at same
    | cons reply' second =>
      simp only [List.map_cons, List.cons_append, List.cons.injEq, Except.ok.injEq] at same
      obtain ⟨rfl, same⟩ := same
      obtain ⟨rfl, rest⟩ := ih same
      exact ⟨rfl, rest⟩

/-! ## The invariant -/

/-- The answers that the listener may still hold back: the one that waits for room in the queue, or,
once the listener has seen that the collector left, one that it gave up. -/
def Listener.Holds (answers : List Reply) : Listener → Prop
  | delivering reply => answers = [reply]
  | closing none | done => answers.length ≤ 1
  | _ => answers = []

/-- The error that the listener is going to report. -/
def Listener.fault? : Listener → Option IoError
  | closing fault => fault
  | reporting error => some error
  | _ => none

/-- Every answer is accounted for. -/
structure Accounted (request : Arp) (s : State) : Prop where
  room : s.queue.length ≤ capacity
  /-- What entered the queue was taken, or is in it, or was in it when the collector left. -/
  taken : ∃ left, s.entered = s.collected.map .ok ++ left ∧ left.length ≤ capacity ∧
    (s.collector.isCollecting → left = s.queue)
  delivered : ∃ last, s.answers request = s.entered.filterMap Except.toOption ++ last ∧
    s.listener.Holds last
  /-- An error is the last result to enter the queue. -/
  final : ∀ error, .error error ∈ s.entered → s.listener = .done ∧
    s.entered = (s.answers request).map .ok ++ [.error error] ∧ .failed error ∈ s.actions
  failed : ∀ error, s.listener.fault? = some error → .failed error ∈ s.actions
  /-- The listener does not end on its own without an error. -/
  listening : s.collector.isCollecting → s.listener ≠ .closing none ∧
    (s.listener = .done → ∃ error, .error error ∈ s.entered)
  outcome : ∀ outcome, s.collector.outcome? = some outcome → outcome = s.verdict ∨
    ∃ error, outcome = .error (.transport error) ∧
      s.entered = s.collected.map .ok ++ [.error error]

lemma accounted_start (request : Arp) : Accounted request .start where
  room := Nat.zero_le _
  taken := ⟨[], rfl, Nat.zero_le _, fun _ => rfl⟩
  delivered := ⟨[], rfl, rfl⟩
  final error mem := by simp [State.start] at mem
  failed error fault := by simp [State.start, Listener.fault?] at fault
  listening _ := by simp [State.start]
  outcome outcome settled := by simp [State.start, Collector.outcome?] at settled

/-! ## What one step does -/

section

variable {request : Arp} {actor : Actor} {s t : State}

/-- While results are taken it is open what the call returns. -/
lemma outcome?_of_isCollecting {collector : Collector} (collecting : collector.isCollecting) :
    collector.outcome? = none := by
  cases collector with
  | collecting => rfl
  | leaving => simp [Collector.isCollecting] at collecting
  | returned => simp [Collector.isCollecting] at collecting

/-- What enters the queue is taken from its front. -/
lemma taken_of_step (before : Accounted request s) (step : Step request actor s t) :
    ∃ left, t.entered = t.collected.map .ok ++ left ∧ left.length ≤ capacity ∧
      (t.collector.isCollecting → left = t.queue) := by
  obtain ⟨left, entered, short, queue⟩ := before.taken
  cases step with
  | begin | sent | sendFails | receiveFails | interrupt | close | drop =>
    exact ⟨left, entered, short, queue⟩
  | receive bytes duration =>
    rw [State.entered_hear, State.collected_hear, State.collector_hear, State.queue_hear]
    exact ⟨left, entered, short, queue⟩
  -- what enters the queue is left over at its end, and what is taken leaves it at its front
  | deliver reply _ collecting room =>
    refine ⟨s.queue ++ [.ok reply], ?_, by rw [List.length_append]; exact room, fun _ => rfl⟩
    show s.entered ++ [.ok reply] = _
    rw [entered, queue collecting, List.append_assoc]
  | report error _ collecting room =>
    refine ⟨s.queue ++ [.error error], ?_, by rw [List.length_append]; exact room, fun _ => rfl⟩
    show s.entered ++ [.error error] = _
    rw [entered, queue collecting, List.append_assoc]
  | collect reply rest collecting first =>
    rw [queue collecting, first] at entered short
    refine ⟨rest, ?_, by simp at short; omega, fun _ => rfl⟩
    show s.entered = _
    rw [entered, List.map_append, List.append_assoc]
    rfl
  -- a collector that leaves has no queue any more, so what was left over stays so
  | fail error rest collecting first => exact ⟨left, entered, short, nofun⟩
  | notice collecting => exact ⟨left, entered, short, fun _ => queue (by rw [collecting]; rfl)⟩
  | expire => exact ⟨left, entered, short, nofun⟩
  | finish => exact ⟨left, entered, short, nofun⟩

/-- The listener holds back one answer at most. -/
lemma delivered_of_step (before : Accounted request s) (step : Step request actor s t) :
    ∃ last, t.answers request = t.entered.filterMap Except.toOption ++ last ∧
      t.listener.Holds last := by
  obtain ⟨last, answers, holds⟩ := before.delivered
  -- a new answer is held back, and the one held back enters the queue or is given up
  cases step with
  | begin at_start =>
    rw [at_start] at holds
    exact ⟨last, answers, holds⟩
  | sent sending =>
    rw [sending] at holds
    exact ⟨last, answers, holds⟩
  | sendFails error sending =>
    rw [sending] at holds
    exact ⟨last, answers, holds⟩
  | receive bytes duration receiving =>
    rw [receiving] at holds
    obtain rfl : last = [] := holds
    refine ⟨((Inbound.classify request bytes).reply? duration).toList, ?_, ?_⟩
    · rw [State.answers_hear, answers, List.append_nil, State.entered_hear]
    · rw [State.listener_hear request bytes duration receiving]
      cases (Inbound.classify request bytes).reply? duration <;> rfl
  | receiveFails error receiving =>
    rw [receiving] at holds
    exact ⟨last, answers, holds⟩
  | deliver reply delivering =>
    rw [delivering] at holds
    obtain rfl : last = [reply] := holds
    refine ⟨[], ?_, rfl⟩
    show s.answers request = (s.entered ++ [Except.ok reply]).filterMap Except.toOption ++ []
    rw [answers, List.filterMap_append, List.append_nil]
    rfl
  | interrupt left waiting =>
    refine ⟨last, answers, ?_⟩
    cases listener : s.listener <;> rw [listener] at holds
    case delivering reply =>
      -- the reply that waited for room is given up
      obtain rfl : last = [reply] := holds
      exact Nat.le_refl 1
    case closing | reporting | done => simp [State.interruptible, listener] at waiting
    all_goals
      obtain rfl : last = [] := holds
      exact Nat.zero_le 1
  | close fault closing =>
    rw [closing] at holds
    cases fault with
    | none => exact ⟨last, answers, holds⟩
    | some error => exact ⟨last, answers, holds⟩
  | report error reporting =>
    rw [reporting] at holds
    obtain rfl : last = [] := holds
    refine ⟨[], ?_, Nat.zero_le 1⟩
    show s.answers request = (s.entered ++ [Except.error error]).filterMap Except.toOption ++ []
    rw [answers, List.filterMap_append]
    simp [Except.toOption]
  | drop error reporting =>
    rw [reporting] at holds
    obtain rfl : last = [] := holds
    exact ⟨[], answers, Nat.zero_le 1⟩
  | collect | fail | notice | expire | finish => exact ⟨last, answers, holds⟩

/-- Nothing enters the queue after an error. -/
lemma final_of_step (before : Accounted request s) (step : Step request actor s t)
    (error : IoError) (mem : .error error ∈ t.entered) :
    t.listener = .done ∧ t.entered = (t.answers request).map .ok ++ [.error error] ∧
      .failed error ∈ t.actions := by
  -- once an error has entered the queue, the listener has ended and takes no step
  have ended : .error error ∈ s.entered → s.listener = .done := fun mem =>
    (before.final error mem).1
  cases step with
  | begin at_start => simp [ended mem] at at_start
  | sent sending => simp [ended mem] at sending
  | sendFails _ sending => simp [ended mem] at sending
  | receive bytes duration receiving =>
    rw [State.entered_hear] at mem
    simp [ended mem] at receiving
  | receiveFails _ receiving => simp [ended mem] at receiving
  | deliver reply delivering =>
    have mem : .error error ∈ s.entered := by simpa using mem
    simp [ended mem] at delivering
  | interrupt left waiting => simp [State.interruptible, ended mem] at waiting
  | close fault closing => simp [ended mem] at closing
  | report error' reporting =>
    have none : ∀ error, .error error ∉ s.entered := fun error mem => by
      simp [(before.final error mem).1] at reporting
    obtain rfl : error = error' := by simpa [none error] using mem
    obtain ⟨last, answers, holds⟩ := before.delivered
    rw [reporting] at holds
    obtain rfl : last = [] := holds
    refine ⟨rfl, ?_, before.failed error (by rw [reporting]; rfl)⟩
    show s.entered ++ [Except.error error] = (s.answers request).map .ok ++ _
    rw [answers, List.append_nil, map_ok_filterMap_toOption none]
  | drop _ reporting => simp [ended mem] at reporting
  | collect | fail | notice | expire | finish => exact before.final error mem

/-- Only an error of the link is reported. -/
lemma failed_of_step (before : Accounted request s) (step : Step request actor s t)
    (error : IoError) (fault : t.listener.fault? = some error) : .failed error ∈ t.actions := by
  cases step with
  | begin | sent | deliver | report | drop => simp [Listener.fault?] at fault
  | sendFails error' | receiveFails error' =>
    obtain rfl : error' = error := by simpa [State.fault, Listener.fault?] using fault
    simp [State.fault]
  | receive bytes duration receiving =>
    rw [State.listener_hear request bytes duration receiving] at fault
    cases reply : (Inbound.classify request bytes).reply? duration <;>
      simp [reply, Listener.fault?] at fault
  | interrupt => simp [Listener.fault?] at fault
  | close fault' closing =>
    cases fault' with
    | none => simp [Listener.fault?] at fault
    | some error' =>
      obtain rfl : error' = error := by simpa [Listener.fault?] using fault
      exact List.mem_append_left _ (before.failed error' (by rw [closing]; rfl))
  | collect | fail | notice | expire | finish => exact before.failed error fault

/-- As long as the collector takes results, the listener ends with an error only. -/
lemma listening_of_step (before : Accounted request s) (step : Step request actor s t)
    (collecting : t.collector.isCollecting) :
    t.listener ≠ .closing none ∧ (t.listener = .done → ∃ error, .error error ∈ t.entered) := by
  cases step with
  | begin | sent | deliver => exact ⟨nofun, nofun⟩
  | sendFails | receiveFails => exact ⟨by simp [State.fault], by simp [State.fault]⟩
  | receive bytes duration receiving =>
    rw [State.listener_hear request bytes duration receiving]
    cases (Inbound.classify request bytes).reply? duration <;> exact ⟨nofun, nofun⟩
  | interrupt left => simp [left] at collecting
  | close fault closing =>
    have open_ := (before.listening collecting).1
    cases fault with
    | none => exact absurd closing open_
    | some error => exact ⟨nofun, nofun⟩
  | report error => exact ⟨nofun, fun _ => ⟨error, by simp⟩⟩
  | drop _ _ left => simp [left] at collecting
  | collect _ _ collecting' => exact before.listening collecting'
  | notice collecting' => exact before.listening (by rw [collecting']; rfl)
  | fail | expire | finish => simp [State.leave, Collector.isCollecting] at collecting

/-- What a call returns, once that is settled, is the verdict on what was collected, or an error that
the collector took last. -/
lemma outcome_of_step (before : Accounted request s) (step : Step request actor s t)
    (outcome : Except Error (List Reply)) (settled : t.collector.outcome? = some outcome) :
    outcome = t.verdict ∨ ∃ error, outcome = .error (.transport error) ∧
      t.entered = t.collected.map .ok ++ [.error error] := by
  cases step with
  | begin | sent | sendFails | receiveFails | interrupt | close | drop =>
    exact before.outcome outcome settled
  | receive bytes duration =>
    rw [State.collector_hear] at settled
    rw [State.verdict, State.collected_hear, State.entered_hear]
    exact before.outcome outcome settled
  | deliver _ _ collecting | report _ _ collecting | collect _ _ collecting =>
    simp [outcome?_of_isCollecting collecting] at settled
  | notice => simp [Collector.outcome?] at settled
  | expire => exact .inl (Option.some.inj settled).symm
  | finish outcome' leaving =>
    obtain rfl : outcome' = outcome := by simpa [Collector.outcome?] using settled
    exact before.outcome outcome' (by rw [leaving]; rfl)
  | fail error rest collecting first =>
    obtain rfl : .error (.transport error) = outcome := by
      simpa [State.leave, Collector.outcome?] using settled
    refine .inr ⟨error, rfl, ?_⟩
    -- nothing came after the error, so it was the only result that was left in the queue
    obtain ⟨left, entered, -, queue⟩ := before.taken
    rw [queue collecting, first] at entered
    have final := (before.final error (by simp [entered])).2.1
    obtain ⟨-, -, rfl⟩ := eq_of_map_ok_append_error (entered.symm.trans final)
    exact entered

/-- The queue never holds more than it has room for. -/
lemma room_of_step (before : Accounted request s) (step : Step request actor s t) :
    t.queue.length ≤ capacity := by
  have short := before.room
  cases step with
  | begin | sent | sendFails | receiveFails | interrupt | close | drop | notice | finish =>
    exact short
  | receive =>
    rw [State.queue_hear]
    exact short
  | deliver _ _ _ room | report _ _ _ room =>
    rw [List.length_append]
    exact room
  | collect reply rest _ first =>
    rw [first, List.length_cons] at short
    show rest.length ≤ capacity
    omega
  | fail | expire => exact Nat.zero_le _

/-- Every step keeps the account. -/
theorem accounted_of_step (before : Accounted request s) (step : Step request actor s t) :
    Accounted request t where
  room := room_of_step before step
  taken := taken_of_step before step
  delivered := delivered_of_step before step
  final := final_of_step before step
  failed := failed_of_step before step
  listening := listening_of_step before step
  outcome := outcome_of_step before step

/-- Wherever a ping gets, every answer is accounted for. -/
theorem Reachable.accounted (reachable : Reachable request s) : Accounted request s := by
  induction reachable with
  | start => exact accounted_start request
  | step _ step before => exact accounted_of_step before step

end

/-! ## What follows from it -/

section

variable {request : Arp} {s t : State}

lemma Listener.length_le_one {listener : Listener} {answers : List Reply}
    (holds : listener.Holds answers) : answers.length ≤ 1 := by
  cases listener with
  | closing fault =>
    cases fault with
    | none => exact holds
    | some error => simp [show answers = [] from holds]
  | done => exact holds
  | delivering reply => simp [show answers = [reply] from holds]
  | _ => simp [show answers = [] from holds]

/-- An error comes after all answers, so none is held back. -/
lemma Accounted.answers_of_error (accounted : Accounted request s) {error : IoError}
    (mem : .error error ∈ s.entered) :
    s.entered.filterMap Except.toOption = s.answers request := by
  rw [(accounted.final error mem).2.1, List.filterMap_append, filterMap_toOption_map_ok]
  simp [Except.toOption]

/-- As long as the collector takes results, every answer was collected, or is in the queue, or waits
to get there. -/
theorem Accounted.answers_of_collecting (accounted : Accounted request s)
    (collecting : s.collector.isCollecting) :
    s.collected ++ s.queued ++ s.blocked = s.answers request := by
  obtain ⟨left, entered, -, queue⟩ := accounted.taken
  obtain ⟨last, answers, holds⟩ := accounted.delivered
  obtain ⟨unclosed, ended⟩ := accounted.listening collecting
  have blocked : s.blocked = last := by
    unfold State.blocked
    cases listener : s.listener with
    | delivering reply => rw [listener] at holds; exact holds.symm
    | closing fault =>
      cases fault with
      | none => exact absurd listener unclosed
      | some error => rw [listener] at holds; exact holds.symm
    | done =>
      -- the listener ended with an error, and that came after all answers
      obtain ⟨error, mem⟩ := ended listener
      rw [accounted.answers_of_error mem] at answers
      exact (List.self_eq_append_right.1 answers).symm
    | _ => rw [listener] at holds; exact holds.symm
  rw [answers, blocked, entered, queue collecting, List.filterMap_append,
    filterMap_toOption_map_ok]
  rfl

/-- What was collected are the first answers, and those that are missing fit into the queue, except
for one. -/
theorem Accounted.collected_prefix (accounted : Accounted request s) :
    s.collected <+: s.answers request ∧
      (s.answers request).length ≤ s.collected.length + (capacity + 1) := by
  obtain ⟨left, entered, short, -⟩ := accounted.taken
  obtain ⟨last, answers, holds⟩ := accounted.delivered
  rw [entered, List.filterMap_append, filterMap_toOption_map_ok, List.append_assoc] at answers
  refine ⟨⟨_, answers.symm⟩, ?_⟩
  have := List.length_filterMap_le Except.toOption left
  have := Listener.length_le_one holds
  rw [answers, List.length_append, List.length_append]
  omega

/-- A call that returns an error of the link has taken all answers before it. -/
theorem Accounted.collected_of_transport (accounted : Accounted request s) {error : IoError}
    (settled : s.collector.outcome? = some (.error (.transport error))) :
    .error error ∈ s.entered ∧ s.collected = s.answers request := by
  rcases accounted.outcome _ settled with verdict | ⟨error', same, entered⟩
  · exact absurd verdict.symm (verdict_ne_transport _ _)
  · obtain rfl : error = error' := by simpa using same
    have mem : .error error ∈ s.entered := by simp [entered]
    have final := (accounted.final error mem).2.1
    exact ⟨mem, (eq_of_map_ok_append_error (entered.symm.trans final)).1⟩

/-! ## Left to themselves, the tasks lose nothing -/

/-- When the tasks rest while the collector takes results, nothing is on its way to it. -/
lemma queue_of_atRest (collecting : s.collector.isCollecting) (rest : AtRest request s) :
    s.queue = [] ∧ s.blocked = [] := by
  have queue : s.queue = [] := by
    cases first : s.queue with
    | nil => rfl
    | cons result queue =>
      cases result with
      | error error => exact absurd (.inr (.fail error queue collecting first)) (rest _)
      | ok reply => exact absurd (.inr (.collect reply queue collecting first)) (rest _)
  refine ⟨queue, ?_⟩
  cases listener : s.listener with
  | delivering reply =>
    have room : s.queue.length < capacity := by rw [queue]; decide
    exact absurd (.inl (.deliver reply listener collecting room)) (rest _)
  | _ => simp [State.blocked, listener]

/-- Until the window closes, the collector leaves with an error of the link only. -/
lemma collecting_or_transport_of_owns (collecting : s.collector.isCollecting)
    (owns : Owns request s t) : t.collector.isCollecting ∨
      ∃ error, t.collector.outcome? = some (.error (.transport error)) := by
  induction owns with
  | refl => exact .inl collecting
  | tail _ own ih =>
    rcases ih with collecting | ⟨error, settled⟩
    · rcases own with step | step
      · cases step <;> exact .inl collecting
      · cases step with
        | collect _ _ collecting => exact .inl collecting
        | fail error => exact .inr ⟨error, rfl⟩
        | notice => exact .inl rfl
        | finish _ leaving => simp [leaving, Collector.isCollecting] at collecting
    · exact .inr ⟨error, outcome?_of_owns (.single own) settled⟩

/-- Left to themselves, the tasks hand over all that has come in. -/
theorem collected_of_atRest (reachable : Reachable request s)
    (collecting : s.collector.isCollecting) (owns : Owns request s t) (rest : AtRest request t) :
    t.collected = s.answers request := by
  have accounted := (reachable.owns owns).accounted
  have same : t.answers request = s.answers request := by
    rw [State.answers, received_of_owns owns]
    rfl
  rw [← same]
  -- at rest the collector still takes results, of which there are none, or it has taken an error
  rcases collecting_or_transport_of_owns collecting owns with collecting | ⟨error, settled⟩
  · obtain ⟨queue, blocked⟩ := queue_of_atRest collecting rest
    have answers := accounted.answers_of_collecting collecting
    rw [State.queued, queue, blocked, List.append_nil] at answers
    simpa using answers
  · exact (accounted.collected_of_transport settled).2

/-! ## Main result -/

/-- Nothing is lost, doubled or put out of order between the listener and the collector, whatever the
order of their steps, of what comes in and of the end of the window.

As long as the collector takes results, those that it has, those in the queue and the one that waits
for room there are in order the answers that have come in. The queue holds 16 results at most. An
error of the link enters it once, after all answers, and a call that returns the error has taken all
of them before. When the window closes, the call returns a first part of the answers, and misses 17
of them at most, also of those that come in before the listener notices. As long as the window stays
open, the tasks hand over all that has come in, for by themselves they come to rest, and then all of
it has been collected. -/
theorem delivery_lossless (reachable : Reachable request s) :
    (s.collector.isCollecting → s.collected ++ s.queued ++ s.blocked = s.answers request) ∧
    s.queue.length ≤ 16 ∧
    (∀ error, .error error ∈ s.entered → .failed error ∈ s.actions ∧
      s.entered = (s.answers request).map .ok ++ [.error error]) ∧
    (∀ error, s.collector.outcome? = some (.error (.transport error)) →
      .error error ∈ s.entered ∧ s.collected = s.answers request) ∧
    (∀ t, Step request .clock s t →
      t.collector = .leaving (verdict s.collected) ∧ s.collected <+: s.answers request ∧
        (s.answers request).length ≤ s.collected.length + 17) ∧
    (∀ replies, s.collector.outcome? = some (.ok replies) →
      replies <+: s.answers request ∧ (s.answers request).length ≤ replies.length + 17) ∧
    (s.collector.outcome? = some (.error .timeout) → (s.answers request).length ≤ 17) ∧
    (s.collector.isCollecting → (∃ t, Owns request s t ∧ AtRest request t) ∧
      ∀ t, Owns request s t → AtRest request t →
        t.received = s.received ∧ t.collected = s.answers request) := by
  -- every answer is accounted for, and the outcomes are read off the account
  have accounted := reachable.accounted
  obtain ⟨collected, missing⟩ := accounted.collected_prefix
  refine ⟨accounted.answers_of_collecting, accounted.room, ?_, ?_, ?_, ?_, ?_, ?_⟩
  · intro error mem
    obtain ⟨-, entered, failed⟩ := accounted.final error mem
    exact ⟨failed, entered⟩
  · intro error settled
    exact accounted.collected_of_transport settled
  · rintro t ⟨-⟩
    exact ⟨rfl, collected, missing⟩
  · intro replies settled
    rcases accounted.outcome _ settled with verdict | ⟨error, transport, -⟩
    · obtain rfl : replies = s.collected := (verdict_eq_ok_iff.1 verdict.symm).2
      exact ⟨collected, missing⟩
    · cases transport
  · intro settled
    rcases accounted.outcome _ settled with verdict | ⟨error, transport, -⟩
    · have none : s.collected = [] := verdict_eq_timeout_iff.1 verdict.symm
      rw [none] at missing
      exact missing
    · cases transport
  · intro collecting
    refine ⟨exists_atRest s, ?_⟩
    intro t owns rest
    exact ⟨received_of_owns owns, collected_of_atRest reachable collecting owns rest⟩

end

/-! ## A full queue -/

/-- The state after `n` answers have come in and nobody took one. -/
def burst (frame : Bytes × Nat) (reply : Reply) (n : Nat) : State where
  listener := .receiving
  collector := .collecting true
  queue := List.replicate n (.ok reply)
  entered := List.replicate n (.ok reply)
  collected := []
  received := List.replicate n frame
  actions := [.send, .sent, .receive] ++ List.replicate n .receive

/-- One more answer waits for room. -/
lemma hear_burst {request : Arp} {bytes : Bytes} {duration : Nat} {reply : Reply}
    (answer : (Inbound.classify request bytes).reply? duration = some reply) (n : Nat) :
    (burst (bytes, duration) reply n).hear request bytes duration =
      { burst (bytes, duration) reply n with
        listener := .delivering reply
        received := List.replicate n (bytes, duration) ++ [(bytes, duration)] } := by
  rw [State.hear]
  simp only [answer]
  rfl

/-- A burst of answers fills the queue before the collector takes its first turn. -/
lemma reachable_burst {request : Arp} {bytes : Bytes} {duration : Nat} {reply : Reply}
    (answer : (Inbound.classify request bytes).reply? duration = some reply) {n : Nat}
    (room : n ≤ capacity) : Reachable request (burst (bytes, duration) reply n) := by
  induction n with
  | zero => exact .step (.step .start (.begin rfl)) (.sent rfl)
  | succ n ih =>
    have heard := Reachable.step (ih (by omega)) (.receive bytes duration rfl)
    rw [hear_burst answer] at heard
    have short : (burst (bytes, duration) reply n).queue.length < capacity := by
      simp only [burst, List.length_replicate]
      omega
    have delivered := Reachable.step heard (.deliver reply rfl rfl short)
    simpa [burst, List.replicate_succ'] using delivered

/-- After a burst of 17 answers that nobody took, the queue is full and one answer waits; if the
window closes now, all of them are missing. -/
theorem delivery_lossless_of_burst :
    let mac : Mac := ⟨2, 0, 0, 0, 0, 1⟩
    let request := Arp.request mac ⟨10, 0, 0, 1⟩ ⟨10, 0, 0, 2⟩
    let frame := (Arp.ofFields .reply ⟨2, 0, 0, 0, 0, 7⟩ ⟨10, 0, 0, 2⟩ mac ⟨10, 0, 0, 1⟩).toBytes
    let s := (burst (frame, 5) ⟨⟨2, 0, 0, 0, 0, 7⟩, 5⟩ 16).hear request frame 5
    Reachable request s ∧ s.queued.length = 16 ∧ s.blocked.length = 1 ∧ s.collected = [] ∧
      s.collected ++ s.queued ++ s.blocked = s.answers request ∧
      ∀ t, Step request .clock s t → t.collector = .leaving (.error .timeout) := by
  intro mac request frame s
  have answer : (Inbound.classify request frame).reply? 5 = some ⟨⟨2, 0, 0, 0, 0, 7⟩, 5⟩ := by
    decide
  have reachable : Reachable request s :=
    .step (reachable_burst answer (Nat.le_refl 16)) (.receive frame 5 rfl)
  obtain ⟨answers, -, -, -, closed, -⟩ := delivery_lossless reachable
  have heard := hear_burst answer 16
  refine ⟨reachable, ?_, ?_, ?_, answers ?_, fun t step => ?_⟩
  · rw [show s = _ from heard]; rfl
  · rw [show s = _ from heard]; rfl
  · rw [show s = _ from heard]; rfl
  · rw [show s = _ from heard]; rfl
  · rw [(closed t step).1, show s = _ from heard]; rfl

end ArpProbe.Ping.Interleaving
