import ArpProbe.Proofs.Call.Admission
import ArpProbe.Proofs.Call.Opening
import ArpProbe.Proofs.Frame.Correlation
import ArpProbe.Proofs.Ping.Simulation

/-!
# Foreign traffic

A ping does not notice traffic that is no answer to its request. `Wire.Inserted` says that one
script is another one with such frames in between, and `outcome_of_inserted` that a ping comes to
the same over both: the same end after the same time, and the same things done to the link.
-/

namespace ArpProbe

namespace Wire

/-- The second timeline is the first with foreign frames inserted, in any number and at any places.
What was there before happens at the same instants. -/
inductive Inserted (foreign : Bytes → Prop) : List (Nat × Event) → List (Nat × Event) → Prop
  | done : Inserted foreign [] []
  | keep (entry : Nat × Event) {quiet noisy : List (Nat × Event)}
      (rest : Inserted foreign quiet noisy) : Inserted foreign (entry :: quiet) (entry :: noisy)
  | insert (instant : Nat) {bytes : Bytes} (stamp : Option Nat) {quiet noisy : List (Nat × Event)}
      (noise : foreign bytes) (rest : Inserted foreign quiet noisy) :
      Inserted foreign quiet ((instant, .frame bytes stamp) :: noisy)

variable {foreign : Bytes → Prop} {quiet noisy : List (Nat × Event)}

/-- What frames are inserted into is still there, in order. -/
lemma Inserted.sublist (inserted : Inserted foreign quiet noisy) : quiet.Sublist noisy := by
  induction inserted with
  | done => exact .slnil
  | keep entry _ ih => exact .cons_cons entry ih
  | insert instant stamp _ _ ih => exact .cons _ ih

lemma Inserted.mono {foreign' : Bytes → Prop} (inserted : Inserted foreign quiet noisy)
    (le : ∀ bytes, foreign bytes → foreign' bytes) : Inserted foreign' quiet noisy := by
  induction inserted with
  | done => exact .done
  | keep entry _ ih => exact .keep entry ih
  | insert instant stamp noise _ ih => exact .insert instant stamp (le _ noise) ih

lemma timeline_eq_nil {now : Nat} {steps : List Step} (empty : timeline now steps = []) :
    steps = [] := by
  cases steps with
  | nil => rfl
  | cons step steps => simp at empty

/-- The first event is that of the first step, and the others follow it. -/
lemma timeline_eq_cons {now : Nat} {steps : List Step} {entry : Nat × Event}
    {line : List (Nat × Event)} (cons : timeline now steps = entry :: line) :
    ∃ step rest, steps = step :: rest ∧ entry = (now + step.after, step.event) ∧
      timeline (now + step.after) rest = line := by
  cases steps with
  | nil => simp at cons
  | cons step rest =>
    rw [timeline_cons, List.cons.injEq] at cons
    exact ⟨step, rest, rfl, cons.1.symm, cons.2⟩

end Wire

/-- The frame is no answer to the request that a ping for `dst` over the interface sends, if it
sends one. -/
def Interface.Foreign (iface : Interface) (dst : Ipv4) (bytes : Bytes) : Prop :=
  ∀ mac src, Ping.sender iface dst = .ok (mac, src) → ¬ Arp.Answers src dst bytes

/-- A frame that is no answer makes no reply. -/
lemma Inbound.reply?_classify_of_not_answers {mac : Mac} {src dst : Ipv4} {bytes : Bytes}
    (foreign : ¬ Arp.Answers src dst bytes) (duration : Nat) :
    (classify (.request mac src dst) bytes).reply? duration = none := by
  rw [← kind_classify_eq_reply_iff mac] at foreign
  generalize classify (.request mac src dst) bytes = inbound at foreign ⊢
  cases inbound with
  | reply m => exact absurd rfl foreign
  | unrelated m => rfl
  | notArp => rfl

namespace Ping

section

variable {request : Arp} {verbose : Bool} {window sentAt now now' : Nat} {wire wire' : Wire}

/-- Once all that is left of a script is late, nothing more is heard. -/
lemma listen_of_all_late (late : ∀ entry ∈ Wire.timeline now wire.steps, window ≤ entry.1) :
    (listen Wire.link request verbose window sentAt now wire).replies = [] ∧
      (listen Wire.link request verbose window sentAt now wire).stop = .windowClosed := by
  cases script : wire.steps with
  | nil =>
    rw [listen_of_silence (receive_nil script)]
    exact ⟨rfl, rfl⟩
  | cons step steps =>
    rw [script, Wire.timeline_cons] at late
    rw [listen_of_late (receive_cons script) (late _ List.mem_cons_self)]
    exact ⟨rfl, rfl⟩

/-- What is heard does not change when frames are inserted that are no answers. -/
lemma listen_inserted {foreign : Bytes → Prop} {quiet noisy : List (Nat × Event)}
    (silent : ∀ bytes, foreign bytes →
      ∀ duration, (Inbound.classify request bytes).reply? duration = none)
    (inserted : Wire.Inserted foreign quiet noisy) (line : Wire.timeline now wire.steps = quiet)
    (line' : Wire.timeline now' wire'.steps = noisy) :
    (listen Wire.link request verbose window sentAt now wire).replies =
        (listen Wire.link request verbose window sentAt now' wire').replies ∧
      (listen Wire.link request verbose window sentAt now wire).stop =
        (listen Wire.link request verbose window sentAt now' wire').stop := by
  -- the two runs wait for different times between their steps, so each has a clock of its own
  induction inserted generalizing now now' wire wire' with
  | done =>
    rw [listen_of_silence (receive_nil (Wire.timeline_eq_nil line)),
      listen_of_silence (receive_nil (Wire.timeline_eq_nil line'))]
    exact ⟨rfl, rfl⟩
  -- an entry that both scripts have comes at the same instant on both clocks
  | keep entry rest ih =>
    obtain ⟨step, steps, script, rfl, left⟩ := Wire.timeline_eq_cons line
    obtain ⟨step', steps', script', same, left'⟩ := Wire.timeline_eq_cons line'
    obtain ⟨instant, event⟩ := Prod.mk.inj same
    have received := receive_cons script
    have received' := receive_cons script'
    by_cases late : window ≤ now + step.after
    · have late' : window ≤ now' + step'.after := by omega
      rw [listen_of_late received late, listen_of_late received' late']
      exact ⟨rfl, rfl⟩
    have early : now + step.after < window := Nat.not_le.1 late
    have early' : now' + step'.after < window := by omega
    rw [← event] at received'
    cases kind : step.event with
    | frame bytes stamp =>
      rw [kind] at received received'
      have later := @ih _ _ { wire with steps } { wire' with steps := steps' } left left'
      rw [listen_of_frame received early, listen_of_frame received' early', Hearing.replies_heard,
        Hearing.replies_heard, Hearing.stop_heard, Hearing.stop_heard, later.1, later.2, instant]
      exact ⟨rfl, rfl⟩
    | failure error =>
      rw [kind] at received received'
      rw [listen_of_failure received early, listen_of_failure received' early', instant]
      exact ⟨rfl, rfl⟩
    | crash text =>
      rw [kind] at received received'
      rw [listen_of_crash received early, listen_of_crash received' early']
      exact ⟨rfl, rfl⟩
  -- a frame that only one script has takes no step of the other
  | insert instant stamp noise rest ih =>
    obtain ⟨step', steps', script', same, left'⟩ := Wire.timeline_eq_cons line'
    obtain ⟨rfl, event⟩ := Prod.mk.inj same
    have received' := receive_cons script'
    by_cases late : window ≤ now' + step'.after
    · -- the steps of the quiet script are among those that follow, and so they are late as well
      rw [listen_of_late received' late]
      apply listen_of_all_late
      intro entry member
      rw [line] at member
      have follows := rest.sublist.subset member
      rw [← left'] at follows
      exact Nat.le_trans late (Wire.le_of_mem_timeline follows)
    · rw [← event] at received'
      have later := @ih _ _ wire { wire' with steps := steps' } line left'
      rw [listen_of_frame received' (Nat.not_le.1 late), Hearing.replies_heard, Hearing.stop_heard,
        silent _ noise]
      exact later

end

section

variable {iface : Interface} {mac : Mac} {src dst : Ipv4} {verbose : Bool}
  {window sendDelay : Nat} {sendError : Option IoError} {quiet noisy : List Wire.Step}

/-- Over an open channel, inserted frames change nothing. -/
lemma exchange_inserted
    (inserted : Wire.Inserted (¬ Arp.Answers src dst ·) (Wire.timeline sendDelay quiet)
      (Wire.timeline sendDelay noisy)) :
    let call := fun steps => exchange Wire.link (.request mac src dst) verbose window
      (openWire iface sendDelay sendError steps)
    (call noisy).ending = (call quiet).ending ∧ (call noisy).link.sent = (call quiet).link.sent ∧
      (call noisy).link.closes = (call quiet).link.closes := by
  intro call
  let request := Arp.request mac src dst
  -- before the listener is at work the steps make no difference
  by_cases late : window ≤ sendDelay
  · have given_up := fun steps =>
      @exchange_script_late iface request verbose window sendDelay sendError steps late
    obtain ⟨ending, sent, closes⟩ := given_up quiet
    obtain ⟨ending', sent', closes'⟩ := given_up noisy
    exact ⟨ending'.trans ending.symm, sent'.trans sent.symm, closes'.trans closes.symm⟩
  have early : sendDelay < window := Nat.not_le.1 late
  cases sendError with
  | some error =>
    have unsent := fun steps =>
      @exchange_script_unsent iface request verbose window sendDelay steps error early
    obtain ⟨ending, sent, closes⟩ := unsent quiet
    obtain ⟨ending', sent', closes'⟩ := unsent noisy
    exact ⟨ending'.trans ending.symm, sent'.trans sent.symm, closes'.trans closes.symm⟩
  | none =>
    have exchanged : ∀ steps, call steps = conclude Wire.link window (listen Wire.link request
        verbose window sendDelay sendDelay (sentWire iface request sendDelay steps)) :=
      fun steps => exchange_script_sent early
    have record := fun steps =>
      @record_of_hears iface request verbose window sendDelay steps sendDelay _ hears_listen
    obtain ⟨replies, stop⟩ := @listen_inserted request verbose window sendDelay sendDelay sendDelay
      (sentWire iface request sendDelay quiet) (sentWire iface request sendDelay noisy) _ _ _
      (fun bytes foreign => Inbound.reply?_classify_of_not_answers foreign) inserted rfl rfl
    rw [exchanged, exchanged]
    refine ⟨ending_conclude_eq replies.symm stop.symm, ?_, ?_⟩
    · rw [(record noisy).1, (record quiet).1]
    · rw [(record noisy).2, (record quiet).2, stop]

end

/-- Foreign traffic cannot influence a ping. If a script is another one with frames inserted that
are no answers to the request, in any number, of any bytes and at any times, then a ping ends in the
same way and at the same time over both, and has opened, sent and closed the same. -/
theorem outcome_of_inserted (iface : Interface) (dst : Ipv4) (config : Config)
    (start : Nat) (openError : Option IoError) (sendDelay : Nat) (sendError : Option IoError)
    (quiet noisy : List Wire.Step)
    (inserted : Wire.Inserted (iface.Foreign dst) (Wire.timeline sendDelay quiet)
      (Wire.timeline sendDelay noisy)) :
    let call := fun steps => overInterface Wire.link config start
      (.ofScript openError sendDelay sendError steps) dst iface
    (call noisy).ending = (call quiet).ending ∧
      (call noisy).link.opened = (call quiet).link.opened ∧
        (call noisy).link.sent = (call quiet).link.sent ∧
          (call noisy).link.closes = (call quiet).link.closes := by
  intro call
  -- the steps matter only to a call that has its addresses and its channel
  cases addressed : sender iface dst with
  | error error =>
    have refused : ∀ steps, call steps =
        .refused error (.ofScript openError sendDelay sendError steps) :=
      fun steps => overInterface_of_refused addressed
    rw [refused, refused]
    exact ⟨rfl, rfl, rfl, rfl⟩
  | ok addresses =>
    obtain ⟨mac, src⟩ := addresses
    cases openError with
    | some error =>
      have unopened : ∀ steps, call steps = .refused (.openFailed iface.name error)
          { Wire.ofScript (some error) sendDelay sendError steps with opened := [iface.name] } :=
        fun steps => overInterface_of_unopened addressed rfl
      rw [unopened, unopened]
      exact ⟨rfl, rfl, rfl, rfl⟩
    | none =>
      have exchanged : ∀ steps, call steps = .reporting ([] ++ [.pinging dst iface.name src])
          (exchange Wire.link (.request mac src dst) config.verbose (config.window start)
            (openWire iface sendDelay sendError steps)) :=
        fun steps => overInterface_of_attach addressed rfl
      have foreign : ∀ bytes, iface.Foreign dst bytes → ¬ Arp.Answers src dst bytes :=
        fun bytes foreign => foreign mac src addressed
      obtain ⟨ending, sent, closes⟩ := @exchange_inserted iface mac src dst config.verbose
        (config.window start) sendDelay sendError quiet noisy (inserted.mono foreign)
      have opened := fun steps => (@record_exchange iface sendDelay sendError steps
        (.request mac src dst) config.verbose (config.window start)).1
      rw [exchanged, exchanged]
      exact ⟨ending, (opened noisy).trans (opened quiet).symm, sent, closes⟩

/-- A ping for 192.168.1.1 that is answered after ten milliseconds. Three bytes come in before the
answer, and after it a reply from another host and the ping's own request. -/
theorem outcome_of_inserted_around_answer :
    let own : LocalAddress := ⟨⟨192, 168, 1, 10⟩, ⟨255, 255, 255, 0⟩⟩
    let target : Ipv4 := ⟨192, 168, 1, 1⟩
    let mac : Mac := ⟨2, 0, 0, 0, 0, 1⟩
    let eth0 : Interface := ⟨"eth0", 2, some mac, [own], true⟩
    let reply (src : Ipv4) := (Arp.ofFields .reply ⟨2, 0, 0, 0, 0, 7⟩ src mac own.ip).toBytes
    let request := (Arp.request mac own.ip target).toBytes
    let quiet : List Wire.Step := [⟨10000000, .frame (reply target) none⟩]
    let noisy : List Wire.Step :=
      [⟨4000000, .frame [1, 2, 3] none⟩, ⟨6000000, .frame (reply target) none⟩,
        ⟨2000000, .frame (reply ⟨192, 168, 1, 2⟩) none⟩, ⟨0, .frame request (some 0)⟩]
    let call := fun steps => overInterface Wire.link .default 0
      (.ofScript none 1000000 none steps) target eth0
    Wire.Inserted (eth0.Foreign target) (Wire.timeline 1000000 quiet)
        (Wire.timeline 1000000 noisy) ∧
      (call noisy).ending = (call quiet).ending ∧
        (call noisy).link.sent = (call quiet).link.sent := by
  intro own target mac eth0 reply request quiet noisy call
  have asks : sender eth0 target = .ok (mac, own.ip) := by decide
  have foreign : ∀ bytes, ¬ Arp.Answers own.ip target bytes → eth0.Foreign target bytes := by
    intro bytes unanswering mac' src addressed
    rw [asks] at addressed
    cases addressed
    exact unanswering
  have short : ¬ Arp.Answers own.ip target [1, 2, 3] :=
    fun answers => absurd answers.whole (by decide)
  have stranger : ¬ Arp.Answers own.ip target (reply ⟨192, 168, 1, 2⟩) :=
    fun answers => absurd answers.sender (by decide)
  have question : ¬ Arp.Answers own.ip target request :=
    fun answers => absurd answers.reply (by decide)
  have inserted : Wire.Inserted (eth0.Foreign target) (Wire.timeline 1000000 quiet)
      (Wire.timeline 1000000 noisy) := by
    simp only [quiet, noisy, Wire.timeline_cons, Wire.timeline_nil]
    exact .insert _ _ (foreign _ short) <| .keep _ <| .insert _ _ (foreign _ stranger) <|
      .insert _ _ (foreign _ question) .done
  obtain ⟨ending, -, sent, -⟩ :=
    outcome_of_inserted eth0 target .default 0 none 1000000 none quiet noisy inserted
  exact ⟨inserted, ending, sent⟩

end Ping

end ArpProbe
