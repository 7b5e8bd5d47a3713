import ArpProbe.Announcement
import ArpProbe.Proofs.Call.Selection
import ArpProbe.Proofs.Ping.Outcome

/-!
# Nothing is opened on bad input

A call either is refused by its checks and leaves the link as it was, or it asks for a channel once,
on the interface that was selected, and closes the channel that it got. `admission` says so of pings
and announcements over any link that follows a script.
-/

namespace ArpProbe

/-! ## Calls that open a channel -/

/-- The script does not break the link down. -/
def Wire.Calm (script : Wire) : Prop :=
  ∀ step ∈ script.steps, ∀ text, step.event ≠ .crash text

/-- The error is found before a channel is opened. -/
def Error.Early (error : Error) : Prop :=
  error.category = .validation ∨ error.category = .resolution

/-- What a call does that gets to open a channel on the interface. -/
structure Released {α : Type} (iface : Interface) (script : Wire) (call : Call α Wire) : Prop where
  opened : call.link.opened = [iface.name]
  closed : script.openError = none → script.Calm → call.link.closes = 1
  /-- Nothing is done with a channel that does not open. -/
  failed : ∀ error, script.openError = some error → call.link.sent = [] ∧ call.link.closes = 0 ∧
    call.ending = .finished (.error (.openFailed iface.name error)) 0
  sent : call.link.sent.length ≤ 1
  late : ∀ error elapsed, call.ending = .finished (.error error) elapsed → ¬ error.Early

namespace Released

variable {α : Type} {iface : Interface} {script : Wire} {call : Call α Wire}

lemma reporting (released : Released iface script call) (log : List LogEntry) :
    Released iface script (call.reporting log) :=
  ⟨released.opened, released.closed, released.failed, released.sent, released.late⟩

end Released

/-- What goes wrong with the channel or with time comes after the checks. -/
lemma Error.not_early {error : Error}
    (late : error.category = .transport ∨ error.category = .timeout) : ¬ error.Early := by
  rw [Early]
  rcases late with late | late <;> simp [late]

lemma Error.category_openFailed (iface : String) (source : IoError) :
    (openFailed iface source).category = .transport := by
  rw [openFailed]
  split <;> rfl

lemma Error.not_early_openFailed (iface : String) (source : IoError) :
    ¬ (Error.openFailed iface source).Early :=
  not_early (.inl (category_openFailed iface source))

/-- A call that gets no channel is over. -/
lemma released_of_unopened {α : Type} {iface : Interface} {error : IoError} {sendDelay : Nat}
    {sendError : Option IoError} {steps : List Wire.Step} :
    Released iface (.ofScript (some error) sendDelay sendError steps)
      (.refused (.openFailed iface.name error)
        { Wire.ofScript (some error) sendDelay sendError steps with opened := [iface.name] } :
          Call α Wire) := by
  refine ⟨rfl, nofun, ?_, Nat.zero_le 1, ?_⟩
  · intro other same
    obtain rfl : error = other := Option.some.inj same
    exact ⟨rfl, rfl, rfl⟩
  · rintro _ _ ⟨⟩
    exact Error.not_early_openFailed _ _

/-! ## Announcements -/

section

variable {iface : Interface} {mac : Mac} {src : Ipv4} {openError : Option IoError}
  {sendDelay : Nat} {sendError : Option IoError} {steps : List Wire.Step}

/-- An announcement opens one channel, sends at most once, and closes what it opened. -/
lemma released_announcement (hardware : iface.mac = some mac) :
    Released iface (.ofScript openError sendDelay sendError steps)
      (Announcement.overInterface Wire.link (.ofScript openError sendDelay sendError steps) src
        iface) := by
  rw [Announcement.overInterface, Interface.hardwareAddress_eq_ok_iff.2 hardware]
  cases openError with
  | some error => exact released_of_unopened
  | none =>
    cases sendError with
    | some error =>
      refine ⟨rfl, fun _ _ => rfl, nofun, Nat.zero_le 1, ?_⟩
      rintro _ _ ⟨⟩
      exact Error.not_early (.inl rfl)
    | none => exact ⟨rfl, fun _ _ => rfl, nofun, Nat.le_refl 1, nofun⟩

end

/-! ## Pings -/

namespace Ping

section

variable {σ : Type} {link : Link σ} {request : Arp} {verbose : Bool} {window : Nat} {s : σ}

/-- Over an open channel only the channel and the time can make a ping fail. -/
lemma not_early_of_exchange {error : Error} {elapsed : Nat}
    (ending : (exchange link request verbose window s).ending = .finished (.error error) elapsed) :
    ¬ error.Early := by
  have verdict_late (replies : List Reply) (given : verdict replies = .error error) :
      ¬ error.Early := by
    rw [verdict] at given
    split at given
    · cases given
      exact Error.not_early (.inr rfl)
    · cases given
  by_cases late : window ≤ (link.send request.toBytes s).after
  · rw [exchange_of_late late] at ending
    cases ending
    exact Error.not_early (.inr rfl)
  rw [Nat.not_le] at late
  cases sent : (link.send request.toBytes s).outcome with
  | error failure =>
    rw [exchange_of_unsent late sent] at ending
    cases ending
    exact Error.not_early (.inl rfl)
  | ok =>
    rw [exchange_of_sent late sent, conclude] at ending
    split at ending
    · exact verdict_late _ (Ending.finished.inj ending).1
    · cases ending
      exact Error.not_early (.inl rfl)
    · cases ending

end

section

variable {request : Arp} {verbose : Bool} {window sentAt now : Nat} {steps : List Wire.Step}
  {wire : Wire}

/-- Only a script that breaks the link down does so while a call listens. -/
lemma stop_listen_ne_crashed (calm : wire.Calm) (text : String) :
    (listen Wire.link request verbose window sentAt now wire).stop ≠ .crashed text := by
  induction script : wire.steps generalizing now wire with
  | nil =>
    rw [listen_of_silence (receive_nil script)]
    nofun
  -- a calm script has no crash in front, and the rest of it is calm as well
  | cons step steps ih =>
    have received := receive_cons script
    by_cases late : window ≤ now + step.after
    · rw [listen_of_late received late]
      nofun
    rw [Nat.not_le] at late
    cases event : step.event with
    | frame bytes stamp =>
      rw [event] at received
      rw [listen_of_frame received late, Hearing.stop_heard]
      refine ih (fun later member => calm later ?_) rfl
      rw [script]
      exact List.mem_cons_of_mem _ member
    | failure error =>
      rw [event] at received
      rw [listen_of_failure received late]
      nofun
    | crash text' =>
      refine absurd event (calm step ?_ text')
      rw [script]
      exact List.mem_cons_self

end

section

variable {iface : Interface} {mac : Mac} {dst : Ipv4} {openError : Option IoError}
  {sendDelay : Nat} {sendError : Option IoError} {steps : List Wire.Step}

/-- The record of what was done with the link during an exchange. -/
lemma record_exchange {request : Arp} {verbose : Bool} {window : Nat} :
    let call := exchange Wire.link request verbose window
      (openWire iface sendDelay sendError steps)
    call.link.opened = [iface.name] ∧ call.link.sent.length ≤ 1 ∧
      ((Wire.ofScript none sendDelay sendError steps).Calm → call.link.closes = 1) := by
  intro call
  by_cases late : window ≤ sendDelay
  · rw [show call = _ from exchange_of_late (by rwa [after_send_openWire])]
    exact ⟨rfl, Nat.zero_le 1, fun _ => rfl⟩
  rw [Nat.not_le] at late
  cases sendError with
  | some error =>
    rw [show call = _ from exchange_of_unsent late rfl]
    exact ⟨rfl, Nat.zero_le 1, fun _ => rfl⟩
  | none =>
    -- listening leaves the record as it was, so it is the one of sending and closing
    have exchanged : call = _ := exchange_script_sent late
    obtain ⟨rest, link⟩ := @link_listen_wire request verbose window sendDelay sendDelay
      (sentWire iface request sendDelay steps)
    obtain ⟨sent, closes⟩ := @record_of_hears iface request verbose window sendDelay steps
      sendDelay _ hears_listen
    rw [exchanged]
    refine ⟨?_, ?_, fun calm => ?_⟩
    · rw [conclude]
      split <;> simp only [link] <;> rfl
    · rw [sent]
      exact Nat.le_refl 1
    · rw [closes]
      have goes_on := @stop_listen_ne_crashed request verbose window sendDelay sendDelay
        (sentWire iface request sendDelay steps) calm
      generalize Hearing.stop _ = stop at goes_on ⊢
      cases stop with
      | windowClosed => rfl
      | failed => rfl
      | crashed text => exact absurd rfl (goes_on text)

/-- A ping that has an address to ask from opens one channel, sends at most once, and closes what it
opened unless the link breaks down. -/
lemma released (hardware : iface.mac = some mac) (covers : iface.Covers dst) (config : Config)
    (start : Nat) :
    Released iface (.ofScript openError sendDelay sendError steps)
      (overInterface Wire.link config start (.ofScript openError sendDelay sendError steps) dst
        iface) := by
  obtain ⟨address, own⟩ := Interface.exists_address_of_covers covers
  have addressed := sender_eq_ok hardware own
  cases openError with
  | some error =>
    rw [overInterface, addressed]
    exact released_of_unopened
  | none =>
    have opens : Wire.link.attach iface (.ofScript none sendDelay sendError steps) =
        (.ok [], openWire iface sendDelay sendError steps) := rfl
    rw [overInterface_of_attach addressed opens]
    apply Released.reporting
    obtain ⟨opened, sent, closes⟩ := @record_exchange iface sendDelay sendError steps
      (.request mac address.ip dst) config.verbose (config.window start)
    exact ⟨opened, fun _ => closes, by rintro _ ⟨⟩, sent, fun _ _ => not_early_of_exchange⟩

end

end Ping

/-! ## Every call -/

/-- How a call treats bad input and what it opens, when the link has nothing on record before. -/
structure Orderly {α : Type} (host : List Interface) (route : Route) (networked : Bool) (ip : Ip)
    (script : Wire) (call : Call α Wire) : Prop where
  decided : (∃ error, Refused host route networked ip error) ∨
    ∃ dst iface mac, Admitted host route networked ip dst iface mac
  refused : ∀ error, Refused host route networked ip error →
    call.ending = .finished (.error error) 0 ∧ call.link = script
  admitted : ∀ dst iface mac, Admitted host route networked ip dst iface mac →
    Released iface script call
  unopened : call.link.opened = [] ↔
    ∃ error elapsed, call.ending = .finished (.error error) elapsed ∧ error.Early
  untouched : call.link.opened = [] → call.link = script ∧ call.ending.elapsed = 0
  sent : call.link.sent.length ≤ 1

/-- What a call is refused with is an error of its checks. -/
lemma Refused.early {host : List Interface} {route : Route} {networked : Bool} {ip : Ip}
    {error : Error} (refused : Refused host route networked ip error) : error.Early := by
  cases refused with
  | address => exact .inl rfl
  | route stands fails => cases fails <;> exact .inr rfl
  | hardware => exact .inr rfl
  | network => exact .inr rfl

/-- A call that asks for no network cannot miss one. -/
lemma not_refused_unreachable {host : List Interface} {route : Route} {ip : Ip} {name : String}
    {dst : Ipv4} : ¬ Refused host route false ip (.unreachable name dst) := by
  intro refused
  cases refused with
  | route stands fails => cases fails
  | network stands selects hardware needed => cases needed

/-- A call is orderly if it checks the interface before it opens a channel on it. -/
lemma orderly_call {α : Type} {host : List Interface} {route : Route} {networked : Bool} {ip : Ip}
    {script : Wire} {make : Ipv4 → Interface → Call α Wire}
    (unused : script.opened = [] ∧ script.sent = [])
    (bare : ∀ dst iface, iface.mac = none →
      make dst iface = .refused (.noHardwareAddress iface.name) script)
    (outside : ∀ dst iface mac, iface.mac = some mac → networked = true → ¬ iface.Covers dst →
      make dst iface = .refused (.unreachable iface.name dst) script)
    (opens : ∀ dst iface mac, iface.mac = some mac → (networked = true → iface.Covers dst) →
      Released iface script (make dst iface)) :
    Orderly host route networked ip script (route.call host ip script make) := by
  -- a call is refused by its checks, or admitted and then over an interface that fits
  have refused : ∀ error, Refused host route networked ip error →
      (route.call host ip script make).ending = .finished (.error error) 0 ∧
        (route.call host ip script make).link = script :=
    fun error fails => fails.call bare outside
  have admitted : ∀ dst iface mac, Admitted host route networked ip dst iface mac →
      Released iface script (route.call host ip script make) := by
    intro dst iface mac passes
    rw [Route.call_of_selects passes.stands passes.selects]
    exact (opens dst iface mac passes.hardware passes.network).reporting _
  have decided := refused_or_admitted host route networked ip
  obtain ⟨error, fails⟩ | ⟨dst, iface, mac, passes⟩ := refused_or_admitted host route networked ip
  · obtain ⟨ending, link⟩ := refused error fails
    refine ⟨decided, refused, admitted, ?_, fun _ => ⟨link, by rw [ending]; rfl⟩, ?_⟩
    · rw [link]
      exact iff_of_true unused.1 ⟨error, 0, ending, fails.early⟩
    · rw [link, unused.2]
      exact Nat.zero_le 1
  · have released := admitted dst iface mac passes
    have asked : (route.call host ip script make).link.opened ≠ [] := by
      rw [released.opened]
      exact List.cons_ne_nil _ _
    refine ⟨decided, refused, admitted, iff_of_false asked ?_,
      fun unopened => absurd unopened asked, released.sent⟩
    rintro ⟨error, elapsed, ending, early⟩
    exact released.late error elapsed ending early

/-- Nothing is opened on bad input, and what is opened is released.

A ping and an announcement ask for a channel exactly if their checks pass, once and on the interface
that was selected. They close the channel that they get exactly once, if the script does not break
the link down. A ping asks for a network with the address, an announcement does not: it goes out for
an address of any network, and never fails for one. -/
theorem admission (host : List Interface) (route : Route) (ip : Ip) (config : Config) (start : Nat)
    (openError : Option IoError) (sendDelay : Nat) (sendError : Option IoError)
    (steps : List Wire.Step) :
    let script := Wire.ofScript openError sendDelay sendError steps
    let announced := announce Wire.link host route ip script
    Orderly host route true ip script (ping Wire.link host config route ip start script) ∧
    Orderly host route false ip script announced ∧
    (∀ name dst elapsed, announced.ending ≠ .finished (.error (.unreachable name dst)) elapsed) ∧
    (∀ dst iface mac, Admitted host route false ip dst iface mac → openError = none →
      sendError = none → announced.link.sent = [(Arp.request mac dst dst).toBytes] ∧
        announced.ending = .finished (.ok ()) sendDelay) := by
  intro script announced
  -- both operations are calls over a route, with different checks of the interface
  have orderly : Orderly host route false ip script announced := by
    apply orderly_call ⟨rfl, rfl⟩
    · intro dst iface bare
      rw [Announcement.overInterface, Interface.hardwareAddress_of_none bare]
    · nofun
    · intro dst iface mac hardware _
      exact released_announcement hardware
  refine ⟨?_, orderly, ?_, ?_⟩
  · apply orderly_call ⟨rfl, rfl⟩
    · intro dst iface bare
      rw [Ping.overInterface, Ping.sender, Interface.hardwareAddress_of_none bare]
      rfl
    · intro dst iface mac hardware _ outside
      rw [Ping.overInterface, Ping.sender, Interface.hardwareAddress, hardware,
        Interface.addressFor_of_not_covers outside]
      rfl
    · intro dst iface mac hardware network
      exact Ping.released hardware (network rfl) config start
  · intro name dst elapsed ending
    obtain ⟨error, refused⟩ | ⟨dst, iface, mac, admitted⟩ := orderly.decided
    · rw [(orderly.refused error refused).1] at ending
      obtain rfl : error = .unreachable name dst := Except.error.inj (Ending.finished.inj ending).1
      exact not_refused_unreachable refused
    · exact (orderly.admitted dst iface mac admitted).late _ _ ending (.inr rfl)
  · rintro dst iface mac admitted rfl rfl
    rw [show announced = _ from Route.call_of_selects admitted.stands admitted.selects,
      Announcement.overInterface, Interface.hardwareAddress_eq_ok_iff.2 admitted.hardware]
    exact ⟨rfl, rfl⟩

end ArpProbe
