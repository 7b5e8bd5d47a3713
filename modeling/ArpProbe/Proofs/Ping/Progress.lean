import ArpProbe.Ping.Interleaving
import Mathlib.Logic.Relation
import Mathlib.Tactic.Lemma

/-!
# Left to themselves

The steps that the two tasks of a ping take without the link and without the clock. Each of them uses
up some of a state's effort, so they come to an end by themselves, and `returned_of_atRest` says that
they end with the return of the call once the collector has left.
-/

namespace ArpProbe.Ping.Interleaving

variable {request : Arp} {s t : State}

/-- A step that one of the tasks takes by itself. -/
def Own (request : Arp) (s t : State) : Prop :=
  Step request .listener s t ∨ Step request .collector s t

/-- Steps that the tasks take by themselves, one after another. -/
abbrev Owns (request : Arp) : State → State → Prop :=
  Relation.ReflTransGen (Own request)

/-- Neither task can take a step by itself. -/
def AtRest (request : Arp) (s : State) : Prop :=
  ∀ t, ¬ Own request s t

/-! ## Effort -/

def Listener.effort : Listener → Nat
  | starting => 6
  | sending => 5
  | receiving => 4
  -- more than the place in the queue that the reply is going to take
  | delivering _ => 6
  | closing _ => 3
  | reporting _ => 2
  | done => 0

def Collector.effort : Collector → Nat
  | collecting true => 3
  | collecting false => 2
  | leaving _ => 1
  | returned _ => 0

/-- A bound on the number of steps that the tasks can still take by themselves. -/
def State.effort (s : State) : Nat :=
  s.listener.effort + s.collector.effort + s.queue.length

/-- A collector that still takes results has two steps to go. -/
lemma Collector.one_lt_effort {collector : Collector} (collecting : collector.isCollecting) :
    1 < collector.effort := by
  cases collector with
  | collecting listening => cases listening <;> decide
  | leaving => simp [isCollecting] at collecting
  | returned => simp [isCollecting] at collecting

lemma Listener.closing_effort_lt {s : State} (waiting : s.interruptible) :
    3 < s.listener.effort := by
  cases listener : s.listener <;> simp_all [State.interruptible, effort]

/-- Every step of a task leaves less effort. -/
lemma effort_lt_of_own (own : Own request s t) : t.effort < s.effort := by
  -- what the listener puts into the queue costs less than the wait that it ends
  rcases own with step | step
  · cases step with
    | begin at_start => simp [State.effort, at_start, Listener.effort]
    | deliver reply delivering =>
      simp only [State.effort, delivering, Listener.effort, List.length_append,
        List.length_singleton]
      omega
    | interrupt _ waiting =>
      have := Listener.closing_effort_lt waiting
      show 3 + s.collector.effort + s.queue.length < s.listener.effort + _ + _
      omega
    | close fault closing => cases fault <;> simp [State.effort, closing, Listener.effort]
    | report error reporting =>
      simp only [State.effort, reporting, Listener.effort, List.length_append,
        List.length_singleton]
      omega
    | drop error reporting => simp [State.effort, reporting, Listener.effort]
  · cases step with
    | collect reply rest _ first => simp [State.effort, first]
    | fail error rest collecting =>
      have := Collector.one_lt_effort collecting
      show s.listener.effort + 1 + 0 < _ + s.collector.effort + s.queue.length
      omega
    | notice collecting => simp [State.effort, collecting, Collector.effort]
    | finish outcome leaving => simp [State.effort, leaving, Collector.effort]

/-- The tasks cannot go on by themselves for ever. -/
theorem wellFounded_own (request : Arp) : WellFounded fun t s => Own request s t :=
  Subrelation.wf effort_lt_of_own (measure State.effort).wf

/-- By themselves the tasks come to rest. -/
theorem exists_atRest (s : State) : ∃ t, Owns request s t ∧ AtRest request t := by
  induction s using (wellFounded_own request).induction with
  | _ s ih =>
    by_cases moves : ∃ next, Own request s next
    · obtain ⟨next, own⟩ := moves
      obtain ⟨t, owns, rest⟩ := ih next own
      exact ⟨t, .head own owns, rest⟩
    · exact ⟨s, .refl, fun next own => moves ⟨next, own⟩⟩

/-! ## What they leave alone -/

/-- No frames come in while the tasks take steps by themselves. -/
lemma received_of_owns (owns : Owns request s t) : t.received = s.received := by
  induction owns with
  | refl => rfl
  | tail _ own ih =>
    rw [← ih]
    rcases own with step | step <;> cases step <;> rfl

lemma Reachable.owns (reachable : Reachable request s) (owns : Owns request s t) :
    Reachable request t := by
  induction owns with
  | refl => exact reachable
  | tail _ own ih => exact own.elim ih.step ih.step

/-- What the call returns does not change any more. -/
lemma outcome?_of_owns {outcome : Except Error (List Reply)} (owns : Owns request s t)
    (settled : s.collector.outcome? = some outcome) : t.collector.outcome? = some outcome := by
  have left : ∀ {collector : Collector}, collector.outcome? = some outcome →
      collector.isCollecting = false := by
    intro collector settled
    cases collector <;> simp_all [Collector.outcome?, Collector.isCollecting]
  induction owns with
  | refl => exact settled
  | tail _ own ih =>
    have gone := left ih
    rcases own with step | step
    · cases step <;> exact ih
    · cases step with
      | collect _ _ collecting => simp [gone] at collecting
      | fail _ _ collecting => simp [gone] at collecting
      | notice collecting => simp [collecting, Collector.isCollecting] at gone
      | finish outcome' leaving =>
        rw [leaving] at ih
        exact ih

/-! ## Rest -/

/-- Once the collector has left, the listener gets out of any wait by itself, until it has ended. -/
lemma listener_of_left (left : s.collector.isCollecting = false) (running : s.listener ≠ .done) :
    ∃ t, Step request .listener s t := by
  cases listener : s.listener with
  | starting | sending | receiving | delivering =>
    exact ⟨_, .interrupt left (by simp [State.interruptible, listener])⟩
  | closing fault => exact ⟨_, .close fault listener⟩
  | reporting error => exact ⟨_, .drop error listener left⟩
  | done => exact absurd listener running

/-- Once what a call returns is settled, the tasks rest only when it has returned. -/
theorem returned_of_atRest {outcome : Except Error (List Reply)}
    (settled : s.collector.outcome? = some outcome) (rest : AtRest request s) :
    s.collector = .returned outcome := by
  cases collector : s.collector with
  | collecting => simp [collector, Collector.outcome?] at settled
  | leaving outcome' =>
    have left : s.collector.isCollecting = false := by rw [collector]; rfl
    by_cases done : s.listener = .done
    · exact absurd (.inr (.finish outcome' collector done)) (rest _)
    · obtain ⟨t, step⟩ := listener_of_left left done
      exact absurd (.inl step) (rest t)
  | returned outcome' =>
    obtain rfl : outcome' = outcome := by simpa [collector, Collector.outcome?] using settled
    rfl

end ArpProbe.Ping.Interleaving
