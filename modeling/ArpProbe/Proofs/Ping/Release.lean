import ArpProbe.Proofs.Ping.Delivery

/-!
# Giving the channel up

What a ping does with its channel, in whatever order its tasks take turns: it sends once, receives
only what comes after that, and closes the channel once, as the last thing that it does with it. And
when the collector has left, the listener always gets there by itself.
-/

namespace ArpProbe.Ping.Interleaving

/-! ## What is done with the channel -/

/-- The request has been sent, and frames are received. -/
def Receiving (actions : List Action) : Prop :=
  ∃ n, actions = .send :: .sent :: List.replicate (n + 1) .receive

lemma Receiving.again {actions : List Action} (receiving : Receiving actions) :
    Receiving (actions ++ [.receive]) := by
  obtain ⟨n, rfl⟩ := receiving
  refine ⟨n + 1, ?_⟩
  show Action.send :: .sent :: (List.replicate (n + 1) .receive ++ [.receive]) = _
  rw [← List.replicate_succ']

/-- What is done with a channel before a call on it fails or it is closed. -/
def InUse (actions : List Action) : Prop :=
  actions = [] ∨ actions = [.send] ∨ Receiving actions

/-- The record of a failure, if there was one. -/
def failures : Option IoError → List Action
  | none => []
  | some error => [.failed error]

/-- What has been done with the channel when the listener is at some place. -/
def Listener.Follows (actions : List Action) : Listener → Prop
  | starting => actions = []
  | sending => actions = [.send]
  | receiving | delivering _ => Receiving actions
  | closing fault => ∃ before, InUse before ∧ actions = before ++ failures fault
  | reporting error => ∃ before, InUse before ∧ actions = before ++ failures (some error) ++ [.close]
  | done => ∃ before fault, InUse before ∧
    actions = before ++ failures fault ++ [.close]

/-- In the waits that can be interrupted the channel is in use. -/
lemma inUse_of_interruptible {s : State} (waiting : s.interruptible)
    (follows : s.listener.Follows s.actions) : InUse s.actions := by
  cases listener : s.listener with
  | starting => rw [listener] at follows; exact .inl follows
  | sending => rw [listener] at follows; exact .inr (.inl follows)
  | receiving => rw [listener] at follows; exact .inr (.inr follows)
  | delivering => rw [listener] at follows; exact .inr (.inr follows)
  | closing => simp [State.interruptible, listener] at waiting
  | reporting => simp [State.interruptible, listener] at waiting
  | done => simp [State.interruptible, listener] at waiting

section

variable {request : Arp} {actor : Actor} {s t : State}

/-- Every step records what it does with the channel. -/
lemma follows_of_step (before : s.listener.Follows s.actions) (step : Step request actor s t) :
    t.listener.Follows t.actions := by
  -- each step starts from the record that the listener's place before it allows
  cases step with
  | begin at_start =>
    rw [at_start] at before
    exact congrArg (· ++ [Action.send]) before
  | sent sending =>
    rw [sending] at before
    exact ⟨0, congrArg (· ++ [Action.sent, .receive]) before⟩
  | sendFails error sending =>
    rw [sending] at before
    exact ⟨s.actions, .inr (.inl before), rfl⟩
  | receive bytes duration receiving =>
    rw [receiving] at before
    unfold State.hear
    split
    · exact before
    · rw [receiving]
      exact before.again
  | receiveFails error receiving =>
    rw [receiving] at before
    exact ⟨s.actions, .inr (.inr before), rfl⟩
  | deliver reply delivering =>
    rw [delivering] at before
    exact before.again
  -- an interruption can come in several places, and in all of them the channel is in use
  | interrupt left waiting =>
    exact ⟨s.actions, inUse_of_interruptible waiting before, (List.append_nil _).symm⟩
  | close fault closing =>
    rw [closing] at before
    obtain ⟨used, inUse, actions⟩ := before
    cases fault with
    | none => exact ⟨used, none, inUse, congrArg (· ++ [Action.close]) actions⟩
    | some error => exact ⟨used, inUse, congrArg (· ++ [Action.close]) actions⟩
  | report error reporting | drop error reporting =>
    rw [reporting] at before
    obtain ⟨used, inUse, actions⟩ := before
    exact ⟨used, some error, inUse, actions⟩
  -- the other steps leave the listener and the record alone
  | collect | fail | notice | expire | finish => exact before

/-- Wherever a ping gets, the record of the channel fits the place of the listener. -/
theorem Reachable.follows (reachable : Reachable request s) : s.listener.Follows s.actions := by
  induction reachable with
  | start => rfl
  | step _ step before => exact follows_of_step before step

/-- The record of a channel: it is used, a call may fail, and it may be closed. -/
def Recorded (actions : List Action) (closed : Bool) : Prop :=
  ∃ used fault, InUse used ∧
    actions = used ++ failures fault ++ if closed then [.close] else []

/-- The record of a channel is one of use, at most one failure, and at most one close at its end. -/
theorem Reachable.recorded (reachable : Reachable request s) :
    ∃ closed, Recorded s.actions closed ∧ (s.listener = .done → closed = true) := by
  have follows := reachable.follows
  -- in the waits that can be interrupted no call has failed, and elsewhere the record is split already
  by_cases waiting : s.interruptible
  · refine ⟨false, ⟨s.actions, none, inUse_of_interruptible waiting follows, by simp [failures]⟩, ?_⟩
    intro done
    simp [State.interruptible, done] at waiting
  · cases listener : s.listener <;> rw [listener] at follows
    case closing fault =>
      obtain ⟨used, inUse, actions⟩ := follows
      exact ⟨false, ⟨used, fault, inUse, by simpa using actions⟩, fun done => by cases done⟩
    case reporting error =>
      obtain ⟨used, inUse, actions⟩ := follows
      exact ⟨true, ⟨used, some error, inUse, actions⟩, fun done => by cases done⟩
    case done =>
      obtain ⟨used, fault, inUse, actions⟩ := follows
      exact ⟨true, ⟨used, fault, inUse, actions⟩, fun _ => rfl⟩
    all_goals simp [State.interruptible, listener] at waiting

end

/-! ## Reading the record -/

/-- A split at a member that is not in the front falls into the tail. -/
lemma eq_append_of_notMem_left {α : Type} {x : α} {front tail before after : List α}
    (absent : x ∉ front) (split : front ++ tail = before ++ x :: after) :
    ∃ middle, before = front ++ middle ∧ tail = middle ++ x :: after := by
  rcases List.append_eq_append_iff.1 split with found | ⟨middle, rfl, rest⟩
  · exact found
  · cases middle with
    | nil => exact ⟨[], by simp, rest.symm⟩
    | cons y middle =>
      obtain ⟨rfl, -⟩ := List.cons.inj rest
      simp at absent

lemma eq_append_of_notMem_right {α : Type} {x : α} {front tail before after : List α}
    (absent : x ∉ tail) (split : front ++ tail = before ++ x :: after) :
    ∃ rest, front = before ++ x :: rest := by
  rcases List.append_eq_append_iff.1 split with ⟨middle, -, rfl⟩ | ⟨middle, rfl, rest⟩
  · simp at absent
  · cases middle with
    | nil =>
      rw [List.nil_append] at rest
      simp [← rest] at absent
    | cons y middle =>
      obtain ⟨rfl, -⟩ := List.cons.inj rest
      exact ⟨middle, rfl⟩

section

variable {actions used : List Action} {closed : Bool}

lemma InUse.close_notMem (inUse : InUse used) : .close ∉ used := by
  rcases inUse with rfl | rfl | ⟨n, rfl⟩ <;> simp

lemma InUse.count_send_le (inUse : InUse used) : used.count .send ≤ 1 := by
  rcases inUse with rfl | rfl | ⟨n, rfl⟩
  · decide
  · decide
  · rw [List.count_cons_self, List.count_cons_of_ne (by decide), List.count_replicate]
    simp

/-- Every call to receive starts after the request has been sent. -/
lemma InUse.sent_of_receive (inUse : InUse used) {before after : List Action}
    (split : used = before ++ .receive :: after) : .sent ∈ before := by
  rcases inUse with rfl | rfl | ⟨n, rfl⟩
  · simp at split
  · cases before <;> simp at split
  · -- the first two actions are no calls to receive
    match before, split with
    | first :: second :: before, split =>
      simp only [List.cons_append, List.cons.injEq] at split
      rw [← split.2.1]
      simp

lemma notMem_failures {action : Action} (fault : Option IoError)
    (other : ∀ error, action ≠ .failed error) : action ∉ failures fault := by
  cases fault with
  | none => simp [failures]
  | some error => simp [failures, other error]

/-- The channel is closed at most once. -/
lemma Recorded.count_close (recorded : Recorded actions closed) :
    actions.count .close = if closed then 1 else 0 := by
  obtain ⟨used, fault, inUse, rfl⟩ := recorded
  have unfailed : .close ∉ failures fault := notMem_failures fault fun _ => nofun
  rw [List.count_append, List.count_append, List.count_eq_zero.2 inUse.close_notMem,
    List.count_eq_zero.2 unfailed]
  cases closed <;> rfl

lemma Recorded.count_send_le (recorded : Recorded actions closed) : actions.count .send ≤ 1 := by
  obtain ⟨used, fault, inUse, rfl⟩ := recorded
  have unfailed : .send ∉ failures fault := notMem_failures fault fun _ => nofun
  have := inUse.count_send_le
  rw [List.count_append, List.count_append, List.count_eq_zero.2 unfailed]
  cases closed <;> simpa

/-- Nothing is done with the channel after it was closed. -/
lemma Recorded.eq_nil_of_close (recorded : Recorded actions closed) {before after : List Action}
    (split : actions = before ++ .close :: after) : after = [] := by
  obtain ⟨used, fault, inUse, rfl⟩ := recorded
  have unclosed : .close ∉ used ++ failures fault := by
    rw [List.mem_append, not_or]
    exact ⟨inUse.close_notMem, notMem_failures fault fun _ => nofun⟩
  -- all that is left for the call to close is the end of the record
  obtain ⟨middle, -, rest⟩ := eq_append_of_notMem_left unclosed split
  cases closed with
  | false => simp at rest
  | true =>
    cases middle with
    | nil => simpa using rest.symm
    | cons action middle => simp at rest

/-- Nothing is received before the request is out. -/
lemma Recorded.sent_of_receive (recorded : Recorded actions closed) {before after : List Action}
    (split : actions = before ++ .receive :: after) : .sent ∈ before := by
  obtain ⟨used, fault, inUse, rfl⟩ := recorded
  rw [List.append_assoc] at split
  have later : .receive ∉ failures fault ++ if closed then [.close] else [] := by
    rw [List.mem_append, not_or]
    refine ⟨notMem_failures fault fun _ => nofun, ?_⟩
    cases closed <;> simp
  obtain ⟨rest, used_eq⟩ := eq_append_of_notMem_right later split
  exact inUse.sent_of_receive used_eq

end

/-! ## The end of the call -/

section

variable {request : Arp} {s t : State}

/-- The call returns only after the listener has ended. -/
lemma Reachable.done_of_returned (reachable : Reachable request s)
    {outcome : Except Error (List Reply)} (returned : s.collector = .returned outcome) :
    s.listener = .done := by
  induction reachable with
  | start => simp [State.start] at returned
  | @step actor s t _ step ih =>
    cases step with
    | begin at_start => simp [ih returned] at at_start
    | sent sending => simp [ih returned] at sending
    | sendFails _ sending => simp [ih returned] at sending
    | receive bytes duration receiving =>
      rw [State.collector_hear] at returned
      simp [ih returned] at receiving
    | receiveFails _ receiving => simp [ih returned] at receiving
    | deliver _ delivering => simp [ih returned] at delivering
    | interrupt _ waiting => simp [State.interruptible, ih returned] at waiting
    | close _ closing => simp [ih returned] at closing
    | report | drop => rfl
    | collect => exact ih returned
    | fail | notice | expire => simp [State.leave] at returned
    | finish _ _ done => exact done

/-- A call returns replies, a timeout, or an error of the link. -/
lemma Accounted.outcome_cases (accounted : Accounted request s)
    {outcome : Except Error (List Reply)} (settled : s.collector.outcome? = some outcome) :
    (∃ replies, outcome = .ok replies) ∨ outcome = .error .timeout ∨
      ∃ error, outcome = .error (.transport error) := by
  rcases accounted.outcome outcome settled with rfl | ⟨error, rfl, -⟩
  · unfold State.verdict verdict
    split
    · exact .inr (.inl rfl)
    · exact .inl ⟨_, rfl⟩
  · exact .inr (.inr ⟨error, rfl⟩)

/-- An error of the link is on its way to the collector. -/
def Failing (error : IoError) (s : State) : Prop :=
  s.listener.fault? = some error ∨ .error error ∈ s.entered

/-- There is one error at most. -/
lemma Accounted.eq_of_failing (accounted : Accounted request s) {error error' : IoError}
    (failing : Failing error s) (mem : .error error' ∈ s.entered) : error = error' := by
  obtain ⟨done, entered, -⟩ := accounted.final error' mem
  rcases failing with fault | mem
  · simp [done, Listener.fault?] at fault
  · rw [entered] at mem
    simpa using mem

/-- By themselves, the tasks bring an error of the link to the caller. -/
lemma failing_of_owns {error : IoError} (reachable : Reachable request s)
    (collecting : s.collector.isCollecting) (failing : Failing error s)
    (owns : Owns request s t) :
    (t.collector.isCollecting ∧ Failing error t) ∨
      t.collector.outcome? = some (.error (.transport error)) := by
  induction owns with
  | refl => exact .inl ⟨collecting, failing⟩
  | @tail s' t owns own ih =>
    rcases ih with ⟨collecting, failing⟩ | settled
    · -- a step of the listener moves the error on, one of the collector may take it
      rcases own with step | step
      · refine .inl ⟨by cases step <;> exact collecting, ?_⟩
        rcases failing with fault | mem
        · cases step with
          | begin at_start => simp [at_start, Listener.fault?] at fault
          | deliver _ delivering => simp [delivering, Listener.fault?] at fault
          | interrupt left => simp [left] at collecting
          | close _ closing =>
            obtain rfl : _ = some error := by simpa [closing, Listener.fault?] using fault
            exact .inl rfl
          | report _ reporting =>
            obtain rfl : _ = error := by simpa [reporting, Listener.fault?] using fault
            exact .inr (by simp)
          | drop _ _ left => simp [left] at collecting
        · right
          cases step with
          | deliver | report => exact List.mem_append_left _ mem
          | _ => exact mem
      · cases step with
        | collect => exact .inl ⟨collecting, failing⟩
        | fail error' rest _ first =>
          have accounted := (reachable.owns owns).accounted
          obtain ⟨left, entered, -, queue⟩ := accounted.taken
          have mem : .error error' ∈ s'.entered := by
            rw [entered, queue collecting, first]
            simp
          -- there is no other error that could have been taken
          rw [accounted.eq_of_failing failing mem]
          exact .inr rfl
        | notice => exact .inl ⟨rfl, failing⟩
        | finish _ leaving => simp [leaving, Collector.isCollecting] at collecting
    · exact .inr (outcome?_of_owns (.single own) settled)

/-- An error of the link is returned, unless the collector left before it. -/
lemma returned_of_failing {error : IoError} (reachable : Reachable request s)
    (collecting : s.collector.isCollecting) (failing : Failing error s) (owns : Owns request s t)
    (rest : AtRest request t) : t.collector = .returned (.error (.transport error)) := by
  rcases failing_of_owns reachable collecting failing owns with ⟨collecting, failing⟩ | settled
  · exfalso
    -- an error on its way leaves some step to take, and at rest there is none
    obtain ⟨queue, -⟩ := queue_of_atRest collecting rest
    rcases failing with fault | mem
    · cases listener : t.listener with
      | closing fault => exact rest _ (.inl (.close fault listener))
      | reporting error =>
        exact rest _ (.inl (.report error listener collecting (by rw [queue]; decide)))
      | _ => simp [listener, Listener.fault?] at fault
    · obtain ⟨left, entered, -, left_eq⟩ := (reachable.owns owns).accounted.taken
      rw [entered, left_eq collecting, queue] at mem
      simp at mem
  · exact returned_of_atRest settled rest

/-- The channel is used in order and given up once, whatever the order of steps, and the call never
waits for the listener in vain.

The channel is closed once at most, and no call on it starts after that; the request is sent once at
most, and no call to receive starts before it has been sent. When the call has returned, with
replies, a timeout or an error of the link, the channel has been closed exactly once. Once the
collector has left, the listener gets out of any wait by itself, and the tasks alone, however they
take turns, come to an end, which is the return of the call; the same holds once an error of the link
is on its way to the collector. -/
theorem channel_released (reachable : Reachable request s) :
    s.actions.count .close ≤ 1 ∧
    (∀ before after, s.actions = before ++ .close :: after →
      .send ∉ after ∧ .receive ∉ after) ∧
    s.actions.count .send ≤ 1 ∧
    (∀ before after, s.actions = before ++ .receive :: after → .sent ∈ before) ∧
    (∀ outcome, s.collector = .returned outcome →
      s.actions.count .close = 1 ∧ ((∃ replies, outcome = .ok replies) ∨
        outcome = .error .timeout ∨ ∃ error, outcome = .error (.transport error))) ∧
    (s.collector.isCollecting = false → s.listener ≠ .done →
      ∃ t, Step request .listener s t) ∧
    (∀ outcome, s.collector.outcome? = some outcome ∨
      (s.collector.isCollecting ∧
        ∃ error, Failing error s ∧ outcome = .error (.transport error)) →
      Acc (fun u t => Own request t u) s ∧
      (∃ t, Owns request s t ∧ t.collector = .returned outcome) ∧
      ∀ t, Owns request s t → AtRest request t → t.collector = .returned outcome) := by
  -- all that is said about the channel is read off its record
  obtain ⟨closed, recorded, ended⟩ := reachable.recorded
  refine ⟨?_, ?_, recorded.count_send_le, ?_, ?_, listener_of_left, ?_⟩
  · rw [recorded.count_close]
    cases closed <;> decide
  · intro before after split
    rw [recorded.eq_nil_of_close split]
    exact ⟨List.not_mem_nil, List.not_mem_nil⟩
  · intro before after split
    exact recorded.sent_of_receive split
  · intro outcome returned
    have settled : s.collector.outcome? = some outcome := by rw [returned]; rfl
    refine ⟨?_, reachable.accounted.outcome_cases settled⟩
    rw [recorded.count_close, ended (reachable.done_of_returned returned)]
    rfl
  · intro outcome settled
    -- what is settled stays settled, and at rest it is returned; by themselves the tasks come to
    -- rest
    have returns : ∀ t, Owns request s t → AtRest request t → t.collector = .returned outcome := by
      intro t owns rest
      rcases settled with settled | ⟨collecting, error, failing, rfl⟩
      · exact returned_of_atRest (outcome?_of_owns owns settled) rest
      · exact returned_of_failing reachable collecting failing owns rest
    obtain ⟨t, owns, rest⟩ := exists_atRest s
    exact ⟨(wellFounded_own request).apply s, ⟨t, owns, returns t owns rest⟩, returns⟩

/-- The window closes while the queue is full of answers and one more waits: the call times out, and
the channel has been closed by then. -/
theorem channel_released_of_burst :
    let mac : Mac := ⟨2, 0, 0, 0, 0, 1⟩
    let request := Arp.request mac ⟨10, 0, 0, 1⟩ ⟨10, 0, 0, 2⟩
    let frame := (Arp.ofFields .reply ⟨2, 0, 0, 0, 0, 7⟩ ⟨10, 0, 0, 2⟩ mac ⟨10, 0, 0, 1⟩).toBytes
    let s := ((burst (frame, 5) ⟨⟨2, 0, 0, 0, 0, 7⟩, 5⟩ 16).hear request frame 5).leave
      (.error .timeout)
    Reachable request s ∧ s.actions.count .close = 0 ∧
      ∃ t, Owns request s t ∧ t.collector = .returned (.error .timeout) ∧
        t.actions.count .close = 1 := by
  intro mac request frame s
  have answer : (Inbound.classify request frame).reply? 5 = some ⟨⟨2, 0, 0, 0, 0, 7⟩, 5⟩ := by
    decide
  have heard : s = State.leave (.error .timeout)
      { burst (frame, 5) ⟨⟨2, 0, 0, 0, 0, 7⟩, 5⟩ 16 with
        listener := .delivering ⟨⟨2, 0, 0, 0, 0, 7⟩, 5⟩
        received := List.replicate 16 (frame, 5) ++ [(frame, 5)] } :=
    congrArg (State.leave (.error .timeout)) (hear_burst answer 16)
  have full := Reachable.step (reachable_burst answer (Nat.le_refl 16)) (.receive frame 5 rfl)
  have reachable : Reachable request s := by
    rw [hear_burst answer] at full
    rw [heard]
    exact full.step (.expire rfl)
  obtain ⟨-, -, -, -, -, -, ends⟩ := channel_released reachable
  obtain ⟨-, ⟨t, owns, returned⟩, -⟩ := ends (.error .timeout) (.inl (by rw [heard]; rfl))
  obtain ⟨-, -, -, -, closed, -⟩ := channel_released (reachable.owns owns)
  exact ⟨reachable, by rw [heard]; rfl, t, owns, returned, (closed _ returned).1⟩

end

end ArpProbe.Ping.Interleaving
