import ArpProbe.Proofs.Ping.Release
import ArpProbe.Proofs.Ping.Simulation

/-!
# The tasks of a ping on a clock

`exchange` describes a ping as one task, and `Step` as two that take turns. Here the two tasks run
over a link and a clock, and time passes only while both rest: `returned_of_turns` says that however
they take turns, their runs come to an end, and then the call has returned what `exchange` says, at
the instant that it says.
-/

namespace ArpProbe.Ping.Interleaving

/-- The tasks of a ping, with the link and the clock. -/
structure World (σ : Type) where
  tasks : State
  link : σ
  now : Nat
  /-- The instant at which the request went out. -/
  sentAt : Nat

section

variable {σ : Type} (link : Link σ) (request : Arp) (window : Nat)

/-- A ping over a link, before its first step. -/
def World.start (s : σ) : World σ :=
  ⟨.start, s, 0, 0⟩

/-- Nothing that the listener waits for happens before the window closes. -/
structure Quiet (w : World σ) : Prop where
  sending : w.tasks.listener = .sending →
    window ≤ w.now + (link.send request.toBytes w.link).after
  receiving : w.tasks.listener = .receiving → ∀ after event next,
    link.receive w.link = .event after event next → window ≤ w.now + after

/-- A step on the clock. The tasks take no time, and all else happens when they rest; what happens
when the window closes is too late. A link that breaks down takes no step. -/
inductive Turn : World σ → World σ → Prop
  | own {w : World σ} {t : State} (own : Own request w.tasks t) : Turn w { w with tasks := t }
  /-- The request has been sent. -/
  | sent {w : World σ} (rest : AtRest request w.tasks) (sending : w.tasks.listener = .sending)
      (early : w.now + (link.send request.toBytes w.link).after < window)
      (sent : (link.send request.toBytes w.link).outcome = .ok ()) :
      Turn w
        { tasks :=
            { w.tasks with
              listener := .receiving
              actions := w.tasks.actions ++ [.sent, .receive] }
          link := (link.send request.toBytes w.link).next
          now := w.now + (link.send request.toBytes w.link).after
          sentAt := w.now + (link.send request.toBytes w.link).after }
  /-- The request could not be sent. -/
  | sendFails {w : World σ} {error : IoError} (rest : AtRest request w.tasks)
      (sending : w.tasks.listener = .sending)
      (early : w.now + (link.send request.toBytes w.link).after < window)
      (unsent : (link.send request.toBytes w.link).outcome = .error error) :
      Turn w
        { w with
          tasks := w.tasks.fault error
          link := (link.send request.toBytes w.link).next
          now := w.now + (link.send request.toBytes w.link).after }
  /-- A frame comes in. -/
  | receive {w : World σ} {after : Nat} {bytes : Bytes} {stamp : Option Nat} {next : σ}
      (rest : AtRest request w.tasks) (receiving : w.tasks.listener = .receiving)
      (received : link.receive w.link = .event after (.frame bytes stamp) next)
      (early : w.now + after < window) :
      Turn w
        { w with
          tasks := w.tasks.hear request bytes (stamp.getD (w.now + after) - w.sentAt)
          link := next
          now := w.now + after }
  /-- The channel fails. -/
  | receiveFails {w : World σ} {after : Nat} {error : IoError} {next : σ}
      (rest : AtRest request w.tasks) (receiving : w.tasks.listener = .receiving)
      (received : link.receive w.link = .event after (.failure error) next)
      (early : w.now + after < window) :
      Turn w { w with tasks := w.tasks.fault error, link := next, now := w.now + after }
  /-- The window closes. -/
  | expire {w : World σ} (rest : AtRest request w.tasks)
      (collecting : w.tasks.collector.isCollecting) (quiet : Quiet link request window w) :
      Turn w { w with tasks := w.tasks.leave w.tasks.verdict, now := window }

end

/-- Steps on the clock, one after another. -/
abbrev Turns {σ : Type} (link : Link σ) (request : Arp) (window : Nat) :
    World σ → World σ → Prop :=
  Relation.ReflTransGen (Turn link request window)

section

variable {σ : Type} {link : Link σ} {request : Arp} {window : Nat} {w w' : World σ}

/-- What happens on the clock may happen without it. -/
lemma step_of_turn (turn : Turn link request window w w') :
    ∃ actor, Step request actor w.tasks w'.tasks := by
  cases turn with
  | own own => exact own.elim (⟨_, ·⟩) (⟨_, ·⟩)
  | sent _ sending => exact ⟨_, .sent sending⟩
  | sendFails _ sending => exact ⟨_, .sendFails _ sending⟩
  | receive _ receiving => exact ⟨_, .receive _ _ receiving⟩
  | receiveFails _ receiving => exact ⟨_, .receiveFails _ receiving⟩
  | expire _ collecting => exact ⟨_, .expire collecting⟩

end

/-! ## Runs come to an end -/

/-- How far the listener is: the request is not out yet, or it waits for answers, or it does not. -/
def Listener.phase : Listener → Nat
  | starting | sending => 2
  | receiving | delivering _ => 1
  | closing _ | reporting _ | done => 0

section

variable {request : Arp} {s t : State}

/-- By itself the listener stays where it is or gives up. -/
lemma phase_of_own (own : Own request s t) :
    t.listener.phase = s.listener.phase ∨ t.listener.phase = 0 := by
  rcases own with step | step
  · cases step with
    | begin at_start => simp [at_start, Listener.phase]
    | deliver reply delivering => simp [delivering, Listener.phase]
    | close fault => cases fault <;> simp [Listener.phase]
    | interrupt | report | drop => exact .inr rfl
  · cases step <;> exact .inl rfl

end

section

variable {σ : Type} {link : Link σ} {request : Arp} {window : Nat} {w w' : World σ}

/-- What is left to happen: in phases, then in frames, and then in steps of the tasks. -/
def World.left (link : Link σ) (w : World σ) : Nat × Nat × Nat :=
  (w.tasks.listener.phase, link.pending w.link, w.tasks.effort)

/-- Less is left after a step: the listener comes to a later phase, or a frame less can come in, or the
tasks have less to do. -/
lemma left_lt_of_turn (turn : Turn link request window w w') :
    Prod.Lex (· < ·) (Prod.Lex (· < ·) (· < ·)) (w'.left link) (w.left link) := by
  rw [Prod.lex_def, Prod.lex_def]
  simp only [World.left]
  cases turn with
  | own own =>
    have effort := effort_lt_of_own own
    -- a listener that gives up comes to the last phase, which is later unless it was there already
    rcases phase_of_own own with phase | phase
    · exact .inr ⟨phase, .inr ⟨rfl, effort⟩⟩
    · by_cases last : w.tasks.listener.phase = 0
      · exact .inr ⟨phase.trans last.symm, .inr ⟨rfl, effort⟩⟩
      · have later : 0 < w.tasks.listener.phase := Nat.pos_of_ne_zero last
        exact .inl (phase ▸ later)
  | sent _ sending =>
    left
    rw [sending]
    exact Nat.lt_succ_self 1
  | sendFails _ sending =>
    left
    rw [sending]
    exact Nat.zero_lt_two
  | @receive after bytes stamp next _ receiving received =>
    -- hearing may make the tasks busier, but the link has a frame less to say
    have fewer := link.pending_lt received
    right
    refine ⟨?_, .inl fewer⟩
    rw [State.listener_hear request bytes _ receiving, receiving]
    cases (Inbound.classify request bytes).reply? (stamp.getD (w.now + after) - w.sentAt) <;> rfl
  | receiveFails _ receiving =>
    left
    rw [receiving]
    exact Nat.zero_lt_one
  | expire rest collecting =>
    have effort := Collector.one_lt_effort collecting
    right
    refine ⟨rfl, .inr ⟨rfl, ?_⟩⟩
    show w.tasks.listener.effort + 1 + 0 < w.tasks.listener.effort + _ + _
    omega

theorem wellFounded_turn (link : Link σ) (request : Arp) (window : Nat) :
    WellFounded fun w' w => Turn link request window w w' :=
  Subrelation.wf left_lt_of_turn
    (InvImage.wf (World.left link) (Prod.lex Nat.lt_wfRel (Prod.lex Nat.lt_wfRel Nat.lt_wfRel)).wf)

end

/-! ## How a run is going to end -/

section

variable {request : Arp} {s t : State}

lemma collecting_of_own (own : Own request s t) (collecting : t.collector.isCollecting) :
    s.collector.isCollecting := by
  rcases own with step | step
  · cases step <;> exact collecting
  · cases step with
    | collect _ _ before => exact before
    | fail _ _ before => exact before
    | notice before => rw [before]; rfl
    | finish => simp [Collector.isCollecting] at collecting

/-- By themselves, the tasks come to no error. -/
lemma failing_before_own {error : IoError} (own : Own request s t)
    (collecting : t.collector.isCollecting) (failing : Failing error t) : Failing error s := by
  -- the collector only takes errors out, and the listener passes on the one that it has
  rcases own with step | step
  · cases step with
    | begin => exact failing.imp (fun fault => by simp [Listener.fault?] at fault) id
    | deliver => exact failing.imp (fun fault => by simp [Listener.fault?] at fault) (by simp)
    | interrupt left => simp [left] at collecting
    | close fault closing =>
      refine failing.imp (fun now => ?_) id
      rw [closing]
      cases fault with
      | none => simp [Listener.fault?] at now
      | some fault => exact now
    | report error' reporting =>
      rcases failing with fault | mem
      · simp [Listener.fault?] at fault
      · rcases List.mem_append.1 mem with mem | mem
        · exact .inr mem
        · refine .inl ?_
          obtain rfl : error = error' := by simpa using mem
          rw [reporting]
          rfl
    | drop _ _ left => simp [left] at collecting
  · cases step <;> exact failing

/-- By itself the collector leaves only with an error that came out of the queue. -/
lemma settled_before_own {outcome : Except Error (List Reply)} (own : Own request s t)
    (settled : t.collector.outcome? = some outcome) :
    s.collector.outcome? = some outcome ∨
      s.collector.isCollecting ∧
        ∃ error, outcome = .error (.transport error) ∧ .error error ∈ s.queue := by
  rcases own with step | step
  · cases step <;> exact .inl settled
  · cases step with
    | collect => exact .inl settled
    | fail error rest collecting first =>
      obtain rfl : .error (.transport error) = outcome := by
        simpa [State.leave, Collector.outcome?] using settled
      exact .inr ⟨collecting, error, rfl, by simp [first]⟩
    | notice => simp [Collector.outcome?] at settled
    | finish outcome' leaving =>
      left
      rw [leaving]
      exact settled

end

/-- How the call is going to end: with what came in, and what the link has to say before the window
closes. -/
def World.prospect {σ : Type} (link : Link σ) (request : Arp) (verbose : Bool) (window : Nat)
    (w : World σ) : Ending (List Reply) :=
  let hearing := listen link request verbose window w.sentAt w.now w.link
  (conclude link window
    { hearing with replies := w.tasks.answers request ++ hearing.replies }).ending

/-- A run over a link that started as `s` goes the way that `exchange` foretells. -/
structure Foretold {σ : Type} (link : Link σ) (request : Arp) (verbose : Bool) (window : Nat) (s : σ)
    (w : World σ) : Prop where
  reachable : Reachable request w.tasks
  unsent : w.tasks.listener.phase = 2 → w.tasks.collector.isCollecting →
    w.link = s ∧ w.now = 0 ∧ w.tasks.received = []
  waiting : w.tasks.listener.phase = 1 → w.tasks.collector.isCollecting →
    (exchange link request verbose window s).ending = w.prospect link request verbose window
  failing : ∀ error, Failing error w.tasks → w.tasks.collector.isCollecting →
    (exchange link request verbose window s).ending =
      .finished (.error (.transport error)) w.now
  settled : ∀ outcome, w.tasks.collector.outcome? = some outcome →
    (exchange link request verbose window s).ending = .finished outcome w.now

section

variable {σ : Type} {link : Link σ} {request : Arp} {verbose : Bool} {window : Nat} {s : σ}
  {w w' : World σ}

lemma foretold_start (s : σ) : Foretold link request verbose window s (World.start s) where
  reachable := .start
  unsent _ _ := ⟨rfl, rfl, rfl⟩
  waiting phase _ := by simp [World.start, State.start, Listener.phase] at phase
  failing error failing _ := by
    simp [World.start, State.start, Failing, Listener.fault?] at failing
  settled outcome settled := by simp [World.start, State.start, Collector.outcome?] at settled

/-- Steps of the tasks do not change how the call is going to end. -/
lemma foretold_of_own {t : State} (before : Foretold link request verbose window s w)
    (own : Own request w.tasks t) :
    Foretold link request verbose window s { w with tasks := t } := by
  -- the tasks hear nothing by themselves, and the listener does not go back to an earlier phase
  have received : t.received = w.tasks.received := received_of_owns (.single own)
  have phase : ∀ {n}, t.listener.phase = n + 1 → w.tasks.listener.phase = n + 1 := by
    intro n now
    rcases phase_of_own own with same | given_up
    · rw [← same, now]
    · omega
  refine ⟨before.reachable.owns (.single own), ?_, ?_, ?_, ?_⟩
  · intro now collecting
    rw [received]
    exact before.unsent (phase now) (collecting_of_own own collecting)
  · intro now collecting
    rw [before.waiting (phase now) (collecting_of_own own collecting)]
    simp only [World.prospect, State.answers, received]
  · intro error failing collecting
    exact before.failing error (failing_before_own own collecting failing)
      (collecting_of_own own collecting)
  · intro outcome settled
    rcases settled_before_own own settled with settled | ⟨collecting, error, rfl, mem⟩
    · exact before.settled outcome settled
    · -- an error that the collector takes was in the queue, so it was foretold
      obtain ⟨left, entered, -, queue⟩ := before.reachable.accounted.taken
      have mem : .error error ∈ w.tasks.entered := by
        rw [entered, queue collecting]
        exact List.mem_append_right _ mem
      exact before.failing error (.inr mem) collecting

/-- As long as the listener is not done with the link, no error is on its way. -/
lemma not_failing_of_phase {error : IoError} (reachable : Reachable request w.tasks)
    (phase : w.tasks.listener.phase ≠ 0) : ¬ Failing error w.tasks := by
  rintro (fault | mem)
  · cases listener : w.tasks.listener <;> simp_all [Listener.fault?, Listener.phase]
  · rw [(reachable.accounted.final error mem).1] at phase
    exact phase rfl

/-- A task that waits for the link at rest still takes results. -/
lemma collecting_of_atRest (rest : AtRest request w.tasks) (running : w.tasks.listener ≠ .done) :
    w.tasks.collector.isCollecting := by
  cases left : w.tasks.collector.isCollecting with
  | true => rfl
  | false =>
    obtain ⟨t, step⟩ := listener_of_left left running
    exact absurd (.inl step) (rest t)

lemma not_settled_of_collecting {outcome : Except Error (List Reply)}
    (collecting : w.tasks.collector.isCollecting) :
    w.tasks.collector.outcome? ≠ some outcome := by
  rw [outcome?_of_isCollecting collecting]
  simp

/-- Once a call over the channel has failed, its error is what the call is going to return. -/
lemma foretold_of_fault {error : IoError} {next : σ} {now : Nat}
    (reachable : Reachable request (w.tasks.fault error))
    (collecting : w.tasks.collector.isCollecting)
    (ending : (exchange link request verbose window s).ending =
      .finished (.error (.transport error)) now) :
    Foretold link request verbose window s
      { w with tasks := w.tasks.fault error, link := next, now := now } where
  reachable := reachable
  unsent phase := by simp [State.fault, Listener.phase] at phase
  waiting phase := by simp [State.fault, Listener.phase] at phase
  failing error' failing _ := by
    obtain rfl : error' = error := by
      rcases failing with fault | mem
      · simpa [State.fault, Listener.fault?, eq_comm] using fault
      · have done := (reachable.accounted.final error' mem).1
        simp [State.fault] at done
    exact ending
  settled _ settled := absurd settled (@not_settled_of_collecting _ w _ collecting)

/-- When the window closes, what was collected is what was foretold. -/
lemma ending_of_expire (before : Foretold link request verbose window s w)
    (rest : AtRest request w.tasks) (collecting : w.tasks.collector.isCollecting)
    (quiet : Quiet link request window w) :
    (exchange link request verbose window s).ending = .finished w.tasks.verdict window := by
  obtain ⟨queue, blocked⟩ := queue_of_atRest collecting rest
  have collected : w.tasks.collected = w.tasks.answers request :=
    collected_of_atRest before.reachable collecting .refl rest
  rw [State.verdict, collected]
  -- a listener at rest waits for the link, unless it has ended
  cases listener : w.tasks.listener with
  | starting => exact absurd (.inl (.begin listener)) (rest _)
  | sending =>
    obtain ⟨rfl, start, none⟩ := before.unsent (by rw [listener]; rfl) collecting
    have late := quiet.sending listener
    rw [start, Nat.zero_add] at late
    rw [exchange_of_late late, State.answers, none]
    rfl
  | receiving =>
    rw [before.waiting (by rw [listener]; rfl) collecting, World.prospect]
    have closed : ∃ next, listen link request verbose window w.sentAt w.now w.link =
        .stopped .windowClosed next := by
      cases received : link.receive w.link with
      | silence next => exact ⟨next, listen_of_silence received⟩
      | event after event next =>
        exact ⟨next, listen_of_late received (quiet.receiving listener after event next received)⟩
    obtain ⟨next, closed⟩ := closed
    rw [closed, Hearing.replies_stopped, List.append_nil]
    rfl
  | delivering reply => simp [State.blocked, listener] at blocked
  | closing fault => exact absurd (.inl (.close fault listener)) (rest _)
  | reporting error =>
    have room : w.tasks.queue.length < capacity := by rw [queue]; decide
    exact absurd (.inl (.report error listener collecting room)) (rest _)
  | done =>
    -- it ended with an error, which would be in the queue still
    obtain ⟨error, mem⟩ := (before.reachable.accounted.listening collecting).2 listener
    obtain ⟨left, entered, -, same⟩ := before.reachable.accounted.taken
    rw [entered, same collecting, queue] at mem
    simp at mem

/-- A step on the clock keeps to what was foretold. -/
lemma foretold_of_turn (before : Foretold link request verbose window s w)
    (turn : Turn link request window w w') : Foretold link request verbose window s w' := by
  obtain ⟨actor, step⟩ := step_of_turn turn
  have reachable := before.reachable.step step
  -- the ending of `exchange` is unfolded by as much as the turn brings, and what is left of it is
  -- what is foretold of the new state
  cases turn with
  | own own => exact foretold_of_own before own
  -- the request is out: from here on the ending depends on listening
  | sent rest sending early sent =>
    have collecting := collecting_of_atRest rest (by simp [sending])
    obtain ⟨rfl, start, none⟩ := before.unsent (by rw [sending]; rfl) collecting
    rw [start, Nat.zero_add] at early
    refine ⟨reachable, ?_, ?_, ?_, ?_⟩
    · intro phase
      simp [Listener.phase] at phase
    · intro phase collecting
      rw [exchange_of_sent early sent, World.prospect, start, Nat.zero_add]
      apply ending_conclude_eq
      · simp [State.answers, none]
      · rfl
    · intro error failing
      exact absurd failing (not_failing_of_phase reachable (by simp [Listener.phase]))
    · intro outcome settled
      exact absurd settled (not_settled_of_collecting collecting)
  | sendFails rest sending early unsent =>
    have collecting := collecting_of_atRest rest (by simp [sending])
    obtain ⟨rfl, start, -⟩ := before.unsent (by rw [sending]; rfl) collecting
    apply foretold_of_fault reachable collecting
    rw [start, Nat.zero_add] at early
    rw [exchange_of_unsent early unsent, start, Nat.zero_add]
  | @receive after bytes stamp next rest receiving received early =>
    have collecting := collecting_of_atRest rest (by simp [receiving])
    have ending := before.waiting (by rw [receiving]; rfl) collecting
    -- the listener delivers or waits again, and in both places it is waiting for answers
    have phase : (w.tasks.hear request bytes
        (stamp.getD (w.now + after) - w.sentAt)).listener.phase = 1 := by
      rw [State.listener_hear request bytes _ receiving]
      cases (Inbound.classify request bytes).reply? _ <;> rfl
    refine ⟨reachable, ?_, ?_, ?_, ?_⟩
    · intro unsent
      have both := phase.symm.trans unsent
      cases both
    · intro phase collecting
      -- a frame moves from what is to be heard to what came in
      rw [ending, World.prospect, World.prospect, listen_of_frame received early, State.answers_hear]
      apply ending_conclude_eq
      · simp
      · simp
    · intro error failing
      exact absurd failing (not_failing_of_phase reachable (phase ▸ Nat.one_ne_zero))
    · intro outcome settled
      rw [State.collector_hear, outcome?_of_isCollecting collecting] at settled
      cases settled
  | @receiveFails after error next rest receiving received early =>
    have collecting := collecting_of_atRest rest (by simp [receiving])
    have ending := before.waiting (by rw [receiving]; rfl) collecting
    apply foretold_of_fault reachable collecting
    rw [ending, World.prospect, listen_of_failure received early]
    rfl
  | expire rest collecting quiet =>
    have ending := ending_of_expire before rest collecting quiet
    -- the collector has left, so all that is foretold is what the call returns
    refine ⟨reachable, ?_, ?_, ?_, ?_⟩
    · intro phase collecting
      cases collecting
    · intro phase collecting
      cases collecting
    · intro error failing collecting
      cases collecting
    · intro outcome settled
      obtain rfl : w.tasks.verdict = outcome := by
        simpa [State.leave, Collector.outcome?] using settled
      exact ending

/-- So does every run. -/
lemma foretold_of_turns (turns : Turns link request window (World.start s) w) :
    Foretold link request verbose window s w := by
  induction turns with
  | refl => exact foretold_start s
  | tail _ turn ih => exact foretold_of_turn ih turn

/-- Before the window closes, the link has its say, unless it breaks down. -/
lemma exists_turn_of_not_quiet (before : Foretold link request verbose window s w)
    {outcome : Except Error (List Reply)} {elapsed : Nat}
    (finishes : (exchange link request verbose window s).ending = .finished outcome elapsed)
    (rest : AtRest request w.tasks) (collecting : w.tasks.collector.isCollecting)
    (loud : ¬ Quiet link request window w) : ∃ w', Turn link request window w w' := by
  by_cases sending : w.tasks.listener = .sending
  · have early : w.now + (link.send request.toBytes w.link).after < window := by
      by_contra late
      exact loud ⟨fun _ => by omega, fun receiving => by simp [sending] at receiving⟩
    cases sent : (link.send request.toBytes w.link).outcome with
    | ok => exact ⟨_, .sent rest sending early sent⟩
    | error error => exact ⟨_, .sendFails rest sending early sent⟩
  · by_contra stuck
    apply loud
    refine ⟨fun listener => absurd listener sending, fun receiving after event next received => ?_⟩
    by_contra late
    have early : w.now + after < window := by omega
    cases event with
    | frame bytes stamp => exact stuck ⟨_, .receive rest receiving received early⟩
    | failure error => exact stuck ⟨_, .receiveFails rest receiving received early⟩
    | crash text =>
      have ending := before.waiting (by rw [receiving]; rfl) collecting
      rw [finishes, World.prospect, listen_of_crash received early] at ending
      cases ending

/-- A run goes on until the call has returned, unless the link breaks down. -/
lemma exists_turn (before : Foretold link request verbose window s w)
    {outcome : Except Error (List Reply)} {elapsed : Nat}
    (finishes : (exchange link request verbose window s).ending = .finished outcome elapsed)
    (running : ∀ outcome, w.tasks.collector ≠ .returned outcome) :
    ∃ w', Turn link request window w w' := by
  by_contra stuck
  have rest : AtRest request w.tasks := fun t own => stuck ⟨_, .own own⟩
  have collecting : w.tasks.collector.isCollecting := by
    cases collector : w.tasks.collector with
    | collecting => rfl
    | leaving outcome =>
      exact absurd (returned_of_atRest (by rw [collector]; rfl) rest) (running outcome)
    | returned outcome => exact absurd collector (running outcome)
  by_cases quiet : Quiet link request window w
  · exact stuck ⟨_, .expire rest collecting quiet⟩
  · exact stuck (exists_turn_of_not_quiet before finishes rest collecting quiet)

/-- However the tasks take turns, their runs on the clock come to an end, and unless the link breaks
down the call has then returned what `exchange` says, after the time that it says. -/
theorem returned_of_turns {outcome : Except Error (List Reply)} {elapsed : Nat}
    (finishes : (exchange link request verbose window s).ending = .finished outcome elapsed) :
    Acc (fun w' w => Turn link request window w w') (World.start s) ∧
      ∀ w, Turns link request window (World.start s) w →
        (∀ w', ¬ Turn link request window w w') →
          w.tasks.collector = .returned outcome ∧ w.now = elapsed := by
  refine ⟨(wellFounded_turn link request window).apply _, fun w turns last => ?_⟩
  have foretold : Foretold link request verbose window s w := foretold_of_turns turns
  by_cases returned : ∃ outcome, w.tasks.collector = .returned outcome
  · obtain ⟨outcome', returned⟩ := returned
    have ending := foretold.settled outcome' (by rw [returned]; rfl)
    obtain ⟨rfl, rfl⟩ := Ending.finished.inj (finishes.symm.trans ending)
    exact ⟨returned, rfl⟩
  · obtain ⟨w', turn⟩ := exists_turn foretold finishes fun outcome same => returned ⟨outcome, same⟩
    exact absurd turn (last w')

end

end ArpProbe.Ping.Interleaving
