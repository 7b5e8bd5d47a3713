import ArpProbe.Command
import ArpProbe.Proofs.Call.Watching
import ArpProbe.Proofs.Frame.Correlation

/-!
# What announcements do

An announcement opens a channel, sends one request for its own address and closes the channel. It
never waits for a frame, so what comes in and for how long a ping would listen have no part in it:
`announcement_exact` says so for any link that follows a script, and what the request looks like to
others.
-/

namespace ArpProbe

/-! ## Notes of what is done with a link -/

/-- What can be done with a link. -/
inductive Deed
  | attach (iface : String)
  | send (frame : Bytes)
  | receive
  | close
deriving DecidableEq, Repr

section

variable {σ : Type} {link : Link σ} {s next : σ} {iface : Interface} {mac : Mac} {src : Ipv4}
  {failure : IoError} {log : List LogEntry}

/-- The link, with a note of everything that is done with it, in order. -/
def Link.noting (link : Link σ) : Link (σ × List Deed) where
  attach iface s :=
    ((link.attach iface s.1).1, (link.attach iface s.1).2, s.2 ++ [.attach iface.name])
  send frame s :=
    let sending := link.send frame s.1
    ⟨sending.after, sending.outcome, (sending.next, s.2 ++ [.send frame])⟩
  receive s := (link.receive s.1).map (·, s.2 ++ [.receive])
  close s := (link.close s.1, s.2 ++ [.close])
  pending s := link.pending s.1
  pending_lt {s next after bytes stamp} h := by
    cases received : link.receive s.1 with
    | silence => simp [received, Reception.map] at h
    | event after' event next' =>
      simp only [received, Reception.map, Reception.event.injEq] at h
      obtain ⟨rfl, rfl, rfl⟩ := h
      exact link.pending_lt received

lemma Link.attach_noting {result : Except IoError (List LogEntry)}
    (opens : link.attach iface s = (result, next)) :
    link.noting.attach iface (s, []) = (result, next, [Deed.attach iface.name]) := by
  show ((link.attach iface s).1, (link.attach iface s).2, [Deed.attach iface.name]) = _
  rw [opens]

namespace Announcement

/-- A channel that does not open is not used. -/
lemma overInterface_noting_of_unopened (hardware : iface.mac = some mac)
    (fails : link.attach iface s = (.error failure, next)) :
    overInterface link.noting (s, []) src iface =
      .refused (.openFailed iface.name failure) (next, [.attach iface.name]) :=
  overInterface_of_unopened hardware (Link.attach_noting fails)

/-- Over a channel that opens one frame is sent, and then it is closed. -/
lemma overInterface_noting_of_attach (hardware : iface.mac = some mac)
    (opens : link.attach iface s = (.ok log, next)) :
    let frame := (Arp.request mac src src).toBytes
    overInterface link.noting (s, []) src iface =
      (overInterface link s src iface).mapLink
        (·, [.attach iface.name, .send frame, .close]) := by
  intro frame
  rw [overInterface_of_attach hardware (Link.attach_noting opens),
    overInterface_of_attach hardware opens]
  rfl

end Announcement

end

/-! ## The request that announces an address -/

namespace Inbound

/-- No request answers anything. -/
lemma kind_classify_of_request {bytes : Bytes} {m : Arp} (read : Arp.decode? bytes = some m)
    (question : m.op? = some .request) (request : Arp) :
    (classify request bytes).kind = .unrelated := by
  have unanswering : m.isResponseOf request = false := by
    rw [Arp.isResponseOf, question]
    rfl
  rw [classify, read]
  simp only [unanswering, Bool.false_eq_true, if_false]
  rfl

end Inbound

namespace Announcement

/-- The frame is 60 bytes long and asks everybody who has `src`, from `src` itself at `mac`. -/
structure Announces (mac : Mac) (src : Ipv4) (frame : Bytes) (m : Arp) : Prop where
  length : frame.length = 60
  read : Arp.decode? frame = some m
  question : m.op? = some .request
  senderMac : m.senderMac = mac
  senderIp : m.senderIp = src
  targetMac : m.targetMac = .broadcast
  targetIp : m.targetIp = src
  dest : m.frame.dest? = some .broadcast
  source : m.frame.src? = some mac

lemma exists_announces (mac : Mac) (src : Ipv4) :
    ∃ m, Announces mac src (Arp.request mac src src).toBytes m := by
  obtain ⟨m, fields, canonical⟩ := Arp.exists_canonical_toBytes ⟨.request, mac, src, .broadcast, src⟩
  obtain ⟨op, senderMac, senderIp, targetMac, targetIp⟩ := Arp.fields?_eq_some_iff.1 fields
  exact ⟨m, canonical.length, canonical.read, Arp.op?_eq_some_iff.2 op, senderMac, senderIp,
    targetMac, targetIp, canonical.dest.trans (congrArg some targetMac),
    canonical.src.trans (congrArg some senderMac)⟩

/-! ## Announcements over a script -/

/-- How an announcement ends, and what it has done with a link that follows the script. -/
inductive Goes (iface : Interface) (frame : Bytes) (script : Wire) :
    Ending Unit → List Deed → Prop
  | unopened {error : IoError} (fails : script.openError = some error) :
      Goes iface frame script (.finished (.error (.openFailed iface.name error)) 0)
        [.attach iface.name]
  | unsent {error : IoError} (opens : script.openError = none)
      (fails : script.sendError = some error) :
      Goes iface frame script (.finished (.error (.transport error)) script.sendDelay)
        [.attach iface.name, .send frame, .close]
  | sent (opens : script.openError = none) (sends : script.sendError = none) :
      Goes iface frame script (.finished (.ok ()) script.sendDelay)
        [.attach iface.name, .send frame, .close]

/-- An announcement succeeds exactly if the channel opens and the frame is sent. -/
lemma Goes.ok_iff {iface : Interface} {frame : Bytes} {script : Wire} {ending : Ending Unit}
    {deeds : List Deed} (goes : Goes iface frame script ending deeds) :
    (∃ elapsed, ending = .finished (.ok ()) elapsed) ↔
      script.openError = none ∧ script.sendError = none := by
  cases goes with
  | unopened fails => simp [fails]
  | unsent opens fails => simp [fails]
  | sent opens sends => simp [opens, sends]

section

variable {iface : Interface} {mac : Mac} {src : Ipv4} {openError sendError : Option IoError}
  {sendDelay : Nat} {steps : List Wire.Step}

/-- An announcement over a script goes one of the three ways, by what of it fails. -/
lemma goes_overInterface (hardware : iface.mac = some mac) :
    let script := Wire.ofScript openError sendDelay sendError steps
    let noted := overInterface Wire.link.noting (script, []) src iface
    noted.mapLink Prod.fst = overInterface Wire.link script src iface ∧
      Goes iface (Arp.request mac src src).toBytes script noted.ending noted.link.2 := by
  intro script noted
  cases openError with
  | some error =>
    have fails : Wire.link.attach iface script =
        (.error error, { script with opened := [iface.name] }) := rfl
    rw [show noted = _ from overInterface_noting_of_unopened hardware fails,
      overInterface_of_unopened hardware fails]
    exact ⟨rfl, .unopened rfl⟩
  | none =>
    have opens : Wire.link.attach iface script =
        (.ok [], { script with opened := [iface.name] }) := rfl
    rw [show noted = _ from overInterface_noting_of_attach hardware opens,
      overInterface_of_attach hardware opens]
    refine ⟨rfl, ?_⟩
    cases sendError with
    | some error => exact .unsent rfl rfl
    | none => exact .sent rfl rfl

/-- What may come in makes no difference. -/
lemma overInterface_of_steps (hardware : iface.mac = some mac) (others : List Wire.Step) :
    let call := overInterface Wire.link (.ofScript openError sendDelay sendError steps) src iface
    let other := overInterface Wire.link (.ofScript openError sendDelay sendError others) src iface
    other.ending = call.ending ∧ other.log = call.log := by
  intro call other
  rw [show call = overInterface .. from rfl, show other = overInterface .. from rfl, overInterface,
    overInterface, Interface.hardwareAddress_eq_ok_iff.2 hardware]
  cases openError with
  | some error => exact ⟨rfl, rfl⟩
  | none => cases sendError <;> exact ⟨rfl, rfl⟩

end

end Announcement

/-- What announcements do.

An announcement for an address that stands for `src`, over an interface with hardware address `mac`,
ends when its request is sent, and well exactly if the channel opens and the request goes out;
otherwise with the error of whichever failed. All that is done with the link is to open a channel,
to send the request, and to close the channel that was opened, whether or not the request went out:
no frame is waited for, so it makes no difference what would have come in, and neither do the timeout
and the verbosity that a command is given. The request is a frame of 60 bytes to everybody, from `mac`
and about `src` as its sender and its target, and answers nobody's question. -/
theorem announcement_exact {host : List Interface} {route : Route} {ip : Ip} {src : Ipv4}
    {iface : Interface} {mac : Mac} (stands : ip.StandsFor src)
    (selects : route.Selects host src iface) (hardware : iface.mac = some mac)
    (openError : Option IoError) (sendDelay : Nat) (sendError : Option IoError)
    (steps : List Wire.Step) :
    let frame := (Arp.request mac src src).toBytes
    let script := Wire.ofScript openError sendDelay sendError steps
    let call := announce Wire.link host route ip script
    let noted := announce Wire.link.noting host route ip (script, [])
    noted.mapLink Prod.fst = call ∧
      Announcement.Goes iface frame script call.ending noted.link.2 ∧
      ((∃ elapsed, call.ending = .finished (.ok ()) elapsed) ↔
        openError = none ∧ sendError = none) ∧
      (∀ others,
        let other := announce Wire.link host route ip
          (.ofScript openError sendDelay sendError others)
        other.ending = call.ending ∧ other.log = call.log) ∧
      (∀ (options : CommandLine.Options) (start : Nat), options.gratuitous = true →
        options.ip = src → options.route = route →
          options.execute Wire.link host start script = call.map fun _ => []) ∧
      (∃ m, Announcement.Announces mac src frame m) ∧
      ∀ request, (Inbound.classify request frame).kind = .unrelated := by
  intro frame script call noted
  have through {σ : Type} (link : Link σ) (s : σ) : announce link host route ip s =
      .reporting (route.log host src) (Announcement.overInterface link s src iface) :=
    Route.call_of_selects stands selects
  obtain ⟨same, goes⟩ : noted.mapLink Prod.fst = call ∧
      Announcement.Goes iface frame script noted.ending noted.link.2 := by
    obtain ⟨same, goes⟩ := @Announcement.goes_overInterface iface mac src openError sendError
      sendDelay steps hardware
    rw [show noted = _ from through _ _, show call = _ from through _ _]
    exact ⟨congrArg (Call.reporting (route.log host src)) same, goes⟩
  have goes : Announcement.Goes iface frame script call.ending noted.link.2 := same ▸ goes
  obtain ⟨m, announces⟩ := Announcement.exists_announces mac src
  refine ⟨same, goes, goes.ok_iff, fun others => ?_, fun options start gratuitous given asked => ?_,
    ⟨m, announces⟩, Inbound.kind_classify_of_request announces.read announces.question⟩
  · intro other
    rw [show other = _ from through _ _, show call = _ from through _ _]
    obtain ⟨ending, log⟩ := @Announcement.overInterface_of_steps iface mac src openError sendError
      sendDelay steps hardware others
    exact ⟨ending, congrArg (route.log host src ++ ·) log⟩
  · rw [CommandLine.Options.execute, if_pos gratuitous, given, asked, show call = _ from through _ _,
      announce, Route.call_of_selects (.v4 src) selects]

/-- An address in its IPv6 form is announced over an interface that is down, and the channel fails
before the request is out. -/
theorem announcement_exact_of_unsent :
    let src : Ipv4 := ⟨192, 168, 1, 9⟩
    let mac : Mac := ⟨2, 0, 0, 0, 0, 1⟩
    let iface : Interface := ⟨"eth0", 2, some mac, [], false⟩
    let broken : IoError := .plain .brokenPipe
    let script := Wire.ofScript none 3000000 (some broken) [⟨0, .crash "gone"⟩]
    let call := announce Wire.link [] (.given iface) (.v6 (.ofIpv4 src)) script
    let noted := announce Wire.link.noting [] (.given iface) (.v6 (.ofIpv4 src)) (script, [])
    Ip.StandsFor (.v6 (.ofIpv4 src)) src ∧ Route.Selects [] src (.given iface) iface ∧
      iface.mac = some mac ∧
      Announcement.Goes iface (Arp.request mac src src).toBytes script call.ending noted.link.2 ∧
      call.ending = .finished (.error (.transport broken)) 3000000 := by
  intro src mac iface broken script call noted
  have mapped : (Ipv6.ofIpv4 ⟨192, 168, 1, 9⟩).mapped? = some ⟨192, 168, 1, 9⟩ := by decide
  have stands : Ip.StandsFor (.v6 (.ofIpv4 src)) src := .mapped mapped
  have selects : Route.Selects [] src (.given iface) iface := .given iface
  obtain ⟨-, goes, -⟩ := announcement_exact stands selects rfl none 3000000 (some broken)
    [⟨0, .crash "gone"⟩]
  exact ⟨stands, selects, rfl, goes, rfl⟩

end ArpProbe
