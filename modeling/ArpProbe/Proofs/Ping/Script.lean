import ArpProbe.Link.Wire
import ArpProbe.Proofs.Ping.Overtime
import Mathlib.Algebra.Ring.Nat
import Mathlib.Data.List.Basic

/-!
# Listening to a script

The steps of a script happen at fixed instants, whatever is done about them. `Wire.timeline` lists
the events with their instants, and listening to the ideal link is read off it: the frames in time
are heard in order, until the first event that is no frame.
-/

namespace ArpProbe

/-- The event is a frame that comes in. -/
def Event.isFrame : Event → Bool
  | .frame _ _ => true
  | _ => false

namespace Wire

/-- The instant of the step of index `i`, when the wait for the first one starts at `now`. -/
def arrival (now : Nat) (steps : List Step) (i : Nat) : Nat :=
  now + ((steps.take (i + 1)).map Step.after).sum

/-- The events of a script with their instants. -/
def timeline (now : Nat) (steps : List Step) : List (Nat × Event) :=
  steps.mapIdx fun i step => (arrival now steps i, step.event)

lemma arrival_cons_zero (now : Nat) (step : Step) (steps : List Step) :
    arrival now (step :: steps) 0 = now + step.after := by
  simp [arrival]

lemma arrival_cons_succ (now : Nat) (step : Step) (steps : List Step) (i : Nat) :
    arrival now (step :: steps) (i + 1) = arrival (now + step.after) steps i := by
  simp only [arrival, List.take_succ_cons, List.map_cons, List.sum_cons]
  omega

@[simp] lemma timeline_nil (now : Nat) : timeline now [] = [] := rfl

@[simp] lemma timeline_cons (now : Nat) (step : Step) (steps : List Step) :
    timeline now (step :: steps) =
      (now + step.after, step.event) :: timeline (now + step.after) steps := by
  simp only [timeline, List.mapIdx_cons, arrival_cons_zero]
  congr 2
  funext i step'
  rw [arrival_cons_succ]

/-- Nothing happens before the first wait starts. -/
lemma le_of_mem_timeline {now : Nat} {steps : List Step} {entry : Nat × Event}
    (mem : entry ∈ timeline now steps) : now ≤ entry.1 := by
  induction steps generalizing now with
  | nil => simp at mem
  | cons step steps ih =>
    rw [timeline_cons, List.mem_cons] at mem
    rcases mem with rfl | mem
    · simp
    · have := ih mem
      omega

/-- Once one step is too late, all that follow are. -/
lemma filter_timeline_of_late {now window : Nat} (late : window ≤ now) (steps : List Step) :
    (timeline now steps).filter (fun entry => entry.1 < window) = [] := by
  rw [List.filter_eq_nil_iff]
  intro entry mem
  have := le_of_mem_timeline mem
  simp only [decide_eq_true_eq]
  omega

end Wire

namespace Ping

/-- The reply that an event at an instant is for a request sent at `sentAt`. -/
def answer? (request : Arp) (sentAt : Nat) : Nat × Event → Option Reply
  | (instant, .frame bytes stamp) =>
    (Inbound.classify request bytes).reply? (stamp.getD instant - sentAt)
  | _ => none

/-- The answers among the events before the window closes. -/
def answersIn (request : Arp) (window sentAt : Nat) (timeline : List (Nat × Event)) :
    List Reply :=
  (timeline.filter fun entry => entry.1 < window).filterMap (answer? request sentAt)

section

variable {request : Arp} {verbose : Bool} {window sentAt now : Nat} {wire : Wire}
  {step : Wire.Step} {steps : List Wire.Step}

/-- A frame in time comes before all that follows it. -/
lemma answersIn_cons_frame {instant : Nat} {bytes : Bytes} {stamp : Option Nat}
    {rest : List (Nat × Event)} (early : instant < window) :
    answersIn request window sentAt ((instant, .frame bytes stamp) :: rest) =
      ((Inbound.classify request bytes).reply? (stamp.getD instant - sentAt)).toList ++
        answersIn request window sentAt rest := by
  rw [answersIn, answersIn, List.filter_cons_of_pos (by simpa using early), List.filterMap_cons]
  cases reply : answer? request sentAt (instant, .frame bytes stamp) with
  | none => simp_all [answer?]
  | some reply => simp_all [answer?]

lemma receive_nil (script : wire.steps = []) : Wire.link.receive wire = .silence wire := by
  show wire.receive = _
  rw [Wire.receive, script]

lemma receive_cons (script : wire.steps = step :: steps) :
    Wire.link.receive wire = .event step.after step.event { wire with steps } := by
  show wire.receive = _
  rw [Wire.receive, script]

/-- Listening uses up a part of the script and does nothing else to the link. -/
lemma link_of_hears_wire {hearing : Hearing Wire}
    (hears : Hears Wire.link request verbose window sentAt now wire hearing) :
    ∃ rest, hearing.link = { wire with steps := rest } := by
  -- the script may change from wait to wait, and nothing else does
  refine link_of_hears (P := fun next : Wire => ∃ rest, next = { wire with steps := rest }) ?_ hears
    ⟨wire.steps, rfl⟩
  rintro _ ⟨rest, rfl⟩
  cases rest with
  | nil => exact ⟨[], by rw [receive_nil rfl]; rfl⟩
  | cons step rest => exact ⟨rest, by rw [receive_cons rfl]; rfl⟩

lemma link_listen_wire :
    ∃ rest, (listen Wire.link request verbose window sentAt now wire).link =
      { wire with steps := rest } :=
  link_of_hears_wire hears_listen

/-- If only frames come in before the window closes, it is they that are heard. -/
lemma listen_of_frames (script : wire.steps = steps)
    (frames : ∀ entry ∈ Wire.timeline now steps, entry.1 < window → entry.2.isFrame) :
    (listen Wire.link request verbose window sentAt now wire).stop = .windowClosed ∧
      (listen Wire.link request verbose window sentAt now wire).replies =
        answersIn request window sentAt (Wire.timeline now steps) := by
  induction steps generalizing now wire with
  | nil =>
    rw [listen_of_silence (receive_nil script)]
    exact ⟨rfl, rfl⟩
  -- the first step is late, and then all are, or it is a frame that is heard
  | cons step steps ih =>
    have received := receive_cons script
    rw [Wire.timeline_cons] at frames ⊢
    by_cases late : window ≤ now + step.after
    · -- the steps that follow are late as well
      rw [listen_of_late received late]
      refine ⟨rfl, ?_⟩
      rw [answersIn, List.filter_cons_of_neg (by simpa using late),
        Wire.filter_timeline_of_late late]
      rfl
    · rw [Nat.not_le] at late
      have frame := frames _ (List.mem_cons_self ..) late
      cases event : step.event with
      | failure error => simp [event, Event.isFrame] at frame
      | crash text => simp [event, Event.isFrame] at frame
      | frame bytes stamp =>
        rw [event] at received
        have rest := @ih (now + step.after) { wire with steps } rfl
          fun entry mem => frames entry (List.mem_cons_of_mem _ mem)
        rw [listen_of_frame received late, Hearing.stop_heard, Hearing.replies_heard, rest.1, rest.2,
          answersIn_cons_frame late]
        exact ⟨rfl, rfl⟩

end

end Ping

end ArpProbe
