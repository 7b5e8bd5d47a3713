import ArpProbe.Proofs.Call.Admission
import ArpProbe.Proofs.Call.Opening

/-!
# Longer timeouts

A ping with more time hears all that it hears with less, and perhaps more behind it:
`outcome_of_longer_timeout` compares two pings over one script. Where the window of the shorter call
closes, the two part; up to there they are the same.
-/

namespace ArpProbe

lemma Time.ceilMilliseconds_mono {time time' : Nat} (le : time ≤ time') :
    ceilMilliseconds time ≤ ceilMilliseconds time' := by
  unfold ceilMilliseconds
  have quotient : (time + (perMillisecond - 1)) / perMillisecond ≤
      (time' + (perMillisecond - 1)) / perMillisecond := Nat.div_le_div_right (by omega)
  exact Nat.mul_le_mul_right perMillisecond quotient

/-- With more time before the end of all instants, the window is open for longer. -/
lemma Config.window_mono {config config' : Config} {start : Nat}
    (le : config.timeout ≤ config'.timeout) (fits : start + config'.timeout < Time.horizon) :
    config.window start ≤ config'.window start := by
  have fits' : start + config.timeout < Time.horizon := by omega
  rw [window_of_lt fits, window_of_lt fits']
  exact Time.ceilMilliseconds_mono le

namespace Ending

/-- The channel failed. -/
def Failed {α : Type} (ending : Ending α) : Prop :=
  ∃ failure elapsed, ending = .finished (.error (.transport failure)) elapsed

/-- The replies that a call returns; one that times out has none. -/
def replies? : Ending (List Reply) → Option (List Reply)
  | finished (.ok replies) _ => some replies
  | finished (.error .timeout) _ => some []
  | _ => none

/-- What a call with more time comes to. A failure of the channel is the same, after the same time;
else the channel may still fail later, or there are more replies after the same ones. -/
structure Continued (ending longer : Ending (List Reply)) : Prop where
  failed : ending.Failed → longer = ending
  heard : ¬ ending.Failed → ∃ heard, ending.replies? = some heard ∧
    (longer.Failed ∨ ∃ all, longer.replies? = some all ∧ heard <+: all)

lemma not_failed_of_replies? {ending : Ending (List Reply)} {replies : List Reply}
    (returns : ending.replies? = some replies) : ¬ ending.Failed := by
  rintro ⟨failure, elapsed, rfl⟩
  cases returns

lemma Continued.of_failed {ending : Ending (List Reply)} (failed : ending.Failed) :
    ending.Continued ending :=
  ⟨fun _ => rfl, fun sound => absurd failed sound⟩

/-- Replies are followed by more of them, or by a failure. -/
lemma Continued.of_replies? {ending longer : Ending (List Reply)} {heard : List Reply}
    (returns : ending.replies? = some heard)
    (goes_on : longer.Failed ∨ ∃ all, longer.replies? = some all ∧ heard <+: all) :
    ending.Continued longer :=
  ⟨fun failed => absurd failed (not_failed_of_replies? returns), fun _ => ⟨heard, returns, goes_on⟩⟩

end Ending

namespace Ping

section

variable {σ : Type} {link : Link σ} {request : Arp} {verbose : Bool}
  {window window' sentAt now : Nat} {s : σ}

/-- Listening for longer comes to the same, unless the shorter window closes; then what was heard by
that time comes first. -/
lemma listen_longer (le : window ≤ window') :
    let heard := listen link request verbose window sentAt now s
    let longer := listen link request verbose window' sentAt now s
    longer = heard ∨ heard.stop = .windowClosed ∧ heard.replies <+: longer.replies := by
  intro heard longer
  -- frames leave fewer pending, so the induction is on what the link still has to say
  induction pending : link.pending s using Nat.strongRecOn generalizing now s with
  | ind count ih =>
    cases received : link.receive s with
    | silence next =>
      left
      rw [show heard = _ from listen_of_silence received,
        show longer = _ from listen_of_silence received]
    | event after event next =>
      by_cases late : window ≤ now + after
      · -- the shorter window closes first, and so it has heard a part at most
        right
        rw [show heard = _ from listen_of_late received late]
        exact ⟨rfl, List.nil_prefix⟩
      have early : now + after < window := Nat.not_le.1 late
      have early' : now + after < window' := Nat.lt_of_lt_of_le early le
      cases event with
      | failure error =>
        left
        rw [show heard = _ from listen_of_failure received early,
          show longer = _ from listen_of_failure received early']
      | crash text =>
        left
        rw [show heard = _ from listen_of_crash received early,
          show longer = _ from listen_of_crash received early']
      | frame bytes stamp =>
        have fewer := link.pending_lt received
        rw [pending] at fewer
        rw [show heard = _ from listen_of_frame received early,
          show longer = _ from listen_of_frame received early']
        rcases ih _ fewer rfl with same | ⟨closed, first⟩
        · left
          rw [same]
        · right
          rw [Hearing.stop_heard, Hearing.replies_heard, Hearing.replies_heard]
          exact ⟨closed, (List.prefix_append_right_inj _).2 first⟩

/-- What a call returns when its window closes is what it heard. -/
lemma replies?_finished_verdict (replies : List Reply) (elapsed : Nat) :
    (Ending.finished (verdict replies) elapsed).replies? = some replies := by
  cases replies with
  | nil => rfl
  | cons reply replies => rfl

/-- A call over an open channel that does not break down fails with the channel or returns replies. -/
lemma failed_or_replies?_conclude {hearing : Hearing σ} (lasts : ∀ text, hearing.stop ≠ .crashed text) :
    (conclude link window hearing).ending.Failed ∨
      hearing.stop = .windowClosed ∧
        (conclude link window hearing).ending.replies? = some hearing.replies := by
  cases stop : hearing.stop with
  | windowClosed =>
    rw [conclude_of_windowClosed stop]
    exact .inr ⟨rfl, replies?_finished_verdict _ _⟩
  | failed error time =>
    rw [conclude_of_failed stop]
    exact .inl ⟨error, time, rfl⟩
  | crashed text => exact absurd stop (lasts text)

/-- What comes of listening with more time, unless the link breaks down. -/
lemma continued_conclude {heard longer : Hearing σ} (lasts : ∀ text, longer.stop ≠ .crashed text)
    (goes_on : longer = heard ∨
      heard.stop = .windowClosed ∧ heard.replies <+: longer.replies) :
    (conclude link window heard).ending.Continued (conclude link window' longer).ending := by
  have ends := @failed_or_replies?_conclude _ link window' longer lasts
  cases stop : heard.stop with
  | windowClosed =>
    have first : heard.replies <+: longer.replies := by
      rcases goes_on with rfl | ⟨-, first⟩
      · exact List.prefix_rfl
      · exact first
    rw [conclude_of_windowClosed stop]
    refine .of_replies? (replies?_finished_verdict _ _) ?_
    exact ends.imp_right fun returns => ⟨_, returns.2, first⟩
  | failed error time =>
    rcases goes_on with rfl | ⟨closed, -⟩
    · rw [conclude_of_failed stop, conclude_of_failed stop]
      exact .of_failed ⟨error, time, rfl⟩
    · rw [stop] at closed
      cases closed
  | crashed text =>
    rcases goes_on with rfl | ⟨closed, -⟩
    · exact absurd stop (lasts text)
    · rw [stop] at closed
      cases closed

/-- What comes of an exchange with more time, if the link does not break down while it listens. -/
lemma continued_exchange (le : window ≤ window')
    (lasts : let sending := link.send request.toBytes s
      ∀ text, (listen link request verbose window' sending.after sending.after
        sending.next).stop ≠ .crashed text) :
    (exchange link request verbose window s).ending.Continued
      (exchange link request verbose window' s).ending := by
  let sending := link.send request.toBytes s
  by_cases late : window ≤ sending.after
  · -- the shorter call has heard nobody when it gives up, so that anything may follow
    rw [exchange_of_late late]
    have nobody : (Ending.finished (.error .timeout) window).replies? = some [] := rfl
    refine .of_replies? nobody ?_
    by_cases late' : window' ≤ sending.after
    · rw [exchange_of_late late']
      exact .inr ⟨[], rfl, List.prefix_rfl⟩
    have early' : sending.after < window' := Nat.not_le.1 late'
    cases outcome : sending.outcome with
    | error error =>
      rw [exchange_of_unsent early' outcome]
      exact .inl ⟨error, _, rfl⟩
    | ok =>
      rw [exchange_of_sent early' outcome]
      exact (failed_or_replies?_conclude lasts).imp_right
        fun returns => ⟨_, returns.2, List.nil_prefix⟩
  have early : sending.after < window := Nat.not_le.1 late
  have early' : sending.after < window' := Nat.lt_of_lt_of_le early le
  cases outcome : sending.outcome with
  | error error =>
    rw [exchange_of_unsent early outcome, exchange_of_unsent early' outcome]
    exact .of_failed ⟨error, _, rfl⟩
  | ok =>
    rw [exchange_of_sent early outcome, exchange_of_sent early' outcome]
    exact continued_conclude lasts (listen_longer le)

end

/-- If only frames come in before the window closes, the answers among them are returned. -/
lemma ending_exchange_of_frames {iface : Interface} {request : Arp} {verbose : Bool}
    {window sendDelay : Nat} {steps : List Wire.Step} (early : sendDelay < window)
    (frames : ∀ entry ∈ Wire.timeline sendDelay steps, entry.1 < window → entry.2.isFrame) :
    (exchange Wire.link request verbose window (openWire iface sendDelay none steps)).ending =
      .finished (verdict (answersIn request window sendDelay (Wire.timeline sendDelay steps)))
        window := by
  obtain ⟨stop, replies⟩ := @listen_of_frames request verbose window sendDelay sendDelay
    (sentWire iface request sendDelay steps) steps rfl frames
  rw [exchange_script_sent early, conclude_of_windowClosed stop, replies]

/-- An interface without an address to ask from refuses a ping. -/
lemma exists_early_of_unfit {iface : Interface} {dst : Ipv4}
    (unfit : iface.mac = none ∨ ¬ iface.Covers dst) :
    ∃ error, error.Early ∧ sender iface dst = .error error := by
  cases hardware : iface.mac with
  | none => exact ⟨_, .inr rfl, sender_of_bare hardware⟩
  | some mac =>
    have outside : ¬ iface.Covers dst := by
      rw [hardware] at unfit
      exact unfit.resolve_left nofun
    exact ⟨_, .inr rfl, sender_of_not_covers hardware outside⟩

/-- A longer timeout never loses an answer. Let two pings over a script differ in nothing but the
timeout, and let the link open and not break down.

If the channel fails before the shorter call is over, both calls fail with the same error after the
same time. Otherwise the longer call returns the replies of the shorter one, each after the same
time, and perhaps more behind them, unless the channel fails later; a call that times out returns no
replies. An interface that cannot ask for the address refuses both calls for the same reason. -/
theorem outcome_of_longer_timeout (iface : Interface) (dst : Ipv4) (verbose : Bool)
    {shorter longer start : Nat} (le : shorter ≤ longer) (fits : start + longer < Time.horizon)
    (sendDelay : Nat) (sendError : Option IoError) {steps : List Wire.Step}
    (calm : (Wire.ofScript none sendDelay sendError steps).Calm) :
    let ending := fun timeout => (overInterface Wire.link ⟨timeout, verbose⟩ start
      (.ofScript none sendDelay sendError steps) dst iface).ending
    (∀ mac, iface.mac = some mac → iface.Covers dst →
      (ending shorter).Continued (ending longer)) ∧
    (iface.mac = none ∨ ¬ iface.Covers dst →
      ∃ error, error.Early ∧ ∀ timeout, ending timeout = .finished (.error error) 0) := by
  intro ending
  constructor
  · intro mac hardware covers
    obtain ⟨address, own⟩ := Interface.exists_address_of_covers covers
    have addressed := sender_eq_ok hardware own
    let request := Arp.request mac address.ip dst
    let wire := openWire iface sendDelay sendError steps
    have exchanged : ∀ timeout, ending timeout = (exchange Wire.link request verbose
        (Config.window ⟨timeout, verbose⟩ start) wire).ending :=
      fun timeout => ending_overInterface addressed rfl
    have lasts : let sending := Wire.link.send request.toBytes wire
        ∀ text, (listen Wire.link request verbose (Config.window ⟨longer, verbose⟩ start)
          sending.after sending.after sending.next).stop ≠ .crashed text := by
      intro sending
      apply stop_listen_ne_crashed
      cases sendError <;> exact calm
    rw [exchanged, exchanged]
    exact continued_exchange (Config.window_mono le fits) lasts
  · intro unfit
    obtain ⟨error, early, refused⟩ := exists_early_of_unfit unfit
    refine ⟨error, early, fun timeout => ?_⟩
    rw [show ending timeout = _ from congrArg Call.ending (overInterface_of_refused refused)]
    rfl

/-- Two hosts answer after 10 and 33 milliseconds. A ping with 20 milliseconds hears the first of
them, and one with half a second returns what the other ping did and perhaps more. -/
theorem outcome_of_longer_timeout_after_first_answer :
    let own : LocalAddress := ⟨⟨192, 168, 1, 10⟩, ⟨255, 255, 255, 0⟩⟩
    let target : Ipv4 := ⟨192, 168, 1, 1⟩
    let mac : Mac := ⟨2, 0, 0, 0, 0, 1⟩
    let eth0 : Interface := ⟨"eth0", 2, some mac, [own], true⟩
    let answer (from_mac : Mac) := (Arp.ofFields .reply from_mac target mac own.ip).toBytes
    let steps : List Wire.Step :=
      [⟨10000000, .frame (answer ⟨2, 0, 0, 0, 0, 7⟩) none⟩,
        ⟨23000000, .frame (answer ⟨2, 0, 0, 0, 0, 9⟩) none⟩, ⟨600000000, .failure (.os 100)⟩]
    let ending := fun timeout => (overInterface Wire.link ⟨timeout, false⟩ 0
      (.ofScript none 1000000 none steps) target eth0).ending
    (Wire.ofScript none 1000000 none steps).Calm ∧ eth0.Covers target ∧
      (ending 20000000).replies? = some [⟨⟨2, 0, 0, 0, 0, 7⟩, 10000000⟩] ∧
      (ending 20000000).Continued (ending 500000000) := by
  intro own target mac eth0 answer steps ending
  have calm : (Wire.ofScript none 1000000 none steps).Calm := by
    intro step member text
    simp only [Wire.ofScript, steps, List.mem_cons, List.not_mem_nil, or_false] at member
    rcases member with rfl | rfl | rfl <;> nofun
  have covers : eth0.Covers target := ⟨own, List.mem_singleton.2 rfl, by decide⟩
  obtain ⟨continued, -⟩ := outcome_of_longer_timeout eth0 target false
    (show 20000000 ≤ 500000000 by decide) (show 0 + 500000000 < Time.horizon by decide)
    1000000 none calm
  have asks : sender eth0 target = .ok (mac, own.ip) := by decide
  have first : answersIn (.request mac own.ip target) (Config.window ⟨20000000, false⟩ 0) 1000000
      (Wire.timeline 1000000 steps) = [⟨⟨2, 0, 0, 0, 0, 7⟩, 10000000⟩] := by decide
  have heard : ending 20000000 = .finished (.ok [⟨⟨2, 0, 0, 0, 0, 7⟩, 10000000⟩]) 20000000 := by
    rw [show ending 20000000 = _ from ending_overInterface asks rfl]
    refine (ending_exchange_of_frames (by decide) (by decide)).trans ?_
    rw [first]
    rfl
  exact ⟨calm, covers, by rw [heard]; rfl, continued mac rfl covers⟩

end Ping

end ArpProbe
