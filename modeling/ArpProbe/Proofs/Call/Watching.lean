import ArpProbe.Proofs.Call.Opening

/-!
# What calls send

A watched link works as it did before, and also notes every frame that goes out over it.
`overInterface_watched`, `ping_watched` and `announce_watched` say that watching changes nothing
else, and which frames a call can send: requests that come from the interface of the call.
-/

namespace ArpProbe

variable {α σ τ : Type}

/-- The wait, with the state of the link seen in another way. -/
def Reception.map (f : σ → τ) : Reception σ → Reception τ
  | silence next => .silence (f next)
  | event after outcome next => .event after outcome (f next)

/-- The link, with a note of each frame that it has taken to send. -/
def Link.watched (link : Link σ) : Link (σ × List Bytes) where
  attach iface s := ((link.attach iface s.1).1, (link.attach iface s.1).2, s.2)
  send frame s :=
    let sending := link.send frame s.1
    ⟨sending.after, sending.outcome, (sending.next, s.2 ++ [frame])⟩
  receive s := (link.receive s.1).map (·, s.2)
  close s := (link.close s.1, s.2)
  pending s := link.pending s.1
  pending_lt {s next after bytes stamp} h := by
    cases received : link.receive s.1 with
    | silence => simp [received, Reception.map] at h
    | event after' event next' =>
      simp only [received, Reception.map, Reception.event.injEq] at h
      obtain ⟨rfl, rfl, rfl⟩ := h
      exact link.pending_lt received

lemma Link.attach_watched {link : Link σ} {iface : Interface} {s next : σ}
    {result : Except IoError (List LogEntry)} (noted : List Bytes)
    (opens : link.attach iface s = (result, next)) :
    link.watched.attach iface (s, noted) = (result, next, noted) := by
  show ((link.attach iface s).1, (link.attach iface s).2, noted) = _
  rw [opens]

/-- The call, with the state of the link seen in another way. -/
def Call.mapLink (f : σ → τ) (call : Call α σ) : Call α τ :=
  { call with link := f call.link }

/-- Over a watched link the call does what it does unwatched, and all frames that it sends have a
property. -/
def Call.Sends (call : Call α (σ × List Bytes)) (unwatched : Call α σ) (P : Bytes → Prop) : Prop :=
  ∃ frames, call = unwatched.mapLink (·, frames) ∧ ∀ frame ∈ frames, P frame

namespace Call.Sends

variable {call : Call α (σ × List Bytes)} {unwatched : Call α σ} {P Q : Bytes → Prop}

lemma mono (sends : call.Sends unwatched P) (le : ∀ frame, P frame → Q frame) :
    call.Sends unwatched Q := by
  obtain ⟨frames, same, all⟩ := sends
  exact ⟨frames, same, fun frame member => le frame (all frame member)⟩

lemma reporting (sends : call.Sends unwatched P) (log : List LogEntry) :
    (call.reporting log).Sends (unwatched.reporting log) P := by
  obtain ⟨frames, rfl, all⟩ := sends
  exact ⟨frames, rfl, all⟩

/-- A refused call sends nothing. -/
lemma refused (error : Error) (s : σ) :
    (Call.refused error (s, []) : Call α (σ × List Bytes)).Sends (.refused error s) P :=
  ⟨[], rfl, nofun⟩

end Call.Sends

namespace Ping

/-- What was heard, with the state of the link seen in another way. -/
def Hearing.mapLink (f : σ → τ) (hearing : Hearing σ) : Hearing τ :=
  { hearing with link := f hearing.link }

/-- A frame is heard in the same way, however the link is seen. -/
lemma Hearing.mapLink_heard (f : σ → τ) (verbose : Bool) (bytes : Bytes) (duration : Nat)
    (hearing : Hearing σ) (inbound : Inbound) :
    (hearing.heard verbose bytes duration inbound).mapLink f =
      (hearing.mapLink f).heard verbose bytes duration inbound := by
  cases inbound <;> rfl

section

variable {link : Link σ} {request : Arp} {verbose : Bool} {window sentAt now : Nat} {s : σ}

/-- Listening sends nothing. -/
lemma listen_watched (noted : List Bytes) :
    listen link.watched request verbose window sentAt now (s, noted) =
      (listen link request verbose window sentAt now s).mapLink (·, noted) := by
  -- frames leave fewer pending, so the induction is on what the link still has to say
  induction pending : link.pending s using Nat.strongRecOn generalizing now s with
  | ind count ih =>
    have watched : link.watched.receive (s, noted) = (link.receive s).map (·, noted) := rfl
    cases received : link.receive s with
    | silence next =>
      rw [received] at watched
      rw [listen_of_silence watched, listen_of_silence received]
      rfl
    | event after event next =>
      rw [received] at watched
      by_cases late : window ≤ now + after
      · rw [listen_of_late watched late, listen_of_late received late]
        rfl
      · rw [Nat.not_le] at late
        cases event with
        | frame bytes stamp =>
          have fewer := link.pending_lt received
          rw [pending] at fewer
          rw [listen_of_frame watched late, listen_of_frame received late, ih _ fewer rfl,
            Hearing.mapLink_heard]
        | failure error =>
          rw [listen_of_failure watched late, listen_of_failure received late]
          rfl
        | crash text =>
          rw [listen_of_crash watched late, listen_of_crash received late]
          rfl

lemma conclude_watched (hearing : Hearing σ) (noted : List Bytes) :
    conclude link.watched window (hearing.mapLink (·, noted)) =
      (conclude link window hearing).mapLink (·, noted) := by
  rw [conclude, conclude, Hearing.mapLink]
  cases hearing.stop <;> rfl

/-- An exchange sends its request and nothing else. -/
lemma exchange_watched :
    (exchange link.watched request verbose window (s, [])).Sends
      (exchange link request verbose window s) (· = request.toBytes) := by
  let sending := link.send request.toBytes s
  by_cases late : window ≤ sending.after
  · have watched : window ≤ (link.watched.send request.toBytes (s, [])).after := late
    rw [exchange_of_late watched, exchange_of_late late]
    exact ⟨[], rfl, nofun⟩
  have early : sending.after < window := Nat.not_le.1 late
  have watched : (link.watched.send request.toBytes (s, [])).after < window := early
  refine ⟨[request.toBytes], ?_, by simp⟩
  cases outcome : sending.outcome with
  | error error =>
    rw [exchange_of_unsent watched outcome, exchange_of_unsent early outcome]
    rfl
  | ok =>
    rw [exchange_of_sent watched outcome, exchange_of_sent early outcome, ← conclude_watched,
      ← listen_watched]
    rfl

end

/-- A ping sends at most the request for its destination, from the addresses that the interface has
for it. -/
lemma overInterface_watched (link : Link σ) (config : Config) (start : Nat) (s : σ) (dst : Ipv4)
    (iface : Interface) :
    (overInterface link.watched config start (s, []) dst iface).Sends
      (overInterface link config start s dst iface)
      fun frame => ∃ mac src, sender iface dst = .ok (mac, src) ∧
        frame = (Arp.request mac src dst).toBytes := by
  cases addressed : sender iface dst with
  | error error =>
    rw [overInterface_of_refused addressed, overInterface_of_refused addressed]
    exact .refused error s
  | ok addresses =>
    obtain ⟨mac, src⟩ := addresses
    rcases opens : link.attach iface s with ⟨result, next⟩
    have watched := Link.attach_watched [] opens
    cases result with
    | error error =>
      rw [overInterface_of_unopened addressed watched, overInterface_of_unopened addressed opens]
      exact .refused _ _
    | ok log =>
      rw [overInterface_of_attach addressed watched, overInterface_of_attach addressed opens]
      apply Call.Sends.reporting
      exact exchange_watched.mono fun frame sent => ⟨mac, src, rfl, sent⟩

end Ping

namespace Announcement

/-- An announcement sends at most one request, for its own address. -/
lemma overInterface_watched (link : Link σ) (s : σ) (src : Ipv4) (iface : Interface) :
    (overInterface link.watched (s, []) src iface).Sends (overInterface link s src iface)
      fun frame => ∃ mac, iface.mac = some mac ∧ frame = (Arp.request mac src src).toBytes := by
  cases hardware : iface.mac with
  | none =>
    rw [overInterface_of_bare hardware, overInterface_of_bare hardware]
    exact .refused _ _
  | some mac =>
    rcases opens : link.attach iface s with ⟨result, next⟩
    have watched := Link.attach_watched [] opens
    cases result with
    | error error =>
      rw [overInterface_of_unopened hardware watched, overInterface_of_unopened hardware opens]
      exact .refused _ _
    | ok log =>
      rw [overInterface_of_attach hardware watched, overInterface_of_attach hardware opens]
      refine ⟨[(Arp.request mac src src).toBytes], rfl, ?_⟩
      intro frame sent
      exact ⟨mac, rfl, List.mem_singleton.1 sent⟩

end Announcement

/-! ## Calls over a route -/

section

variable {host : List Interface} {route : Route} {ip : Ip} {s : σ}

/-- What a call over the interface of a route sends is what it sends over that interface. -/
lemma Route.call_watched {P : Ipv4 → Interface → Bytes → Prop}
    {make : Ipv4 → Interface → Call α σ} {watched : Ipv4 → Interface → Call α (σ × List Bytes)}
    (sends : ∀ dst iface, (watched dst iface).Sends (make dst iface) (P dst iface)) :
    (route.call host ip (s, []) watched).Sends (route.call host ip s make)
      fun frame => ∃ dst iface, ip.toIpv4 = .ok dst ∧ route.resolve host dst = .ok iface ∧
        P dst iface frame := by
  unfold Route.call
  cases valid : ip.toIpv4 with
  | error error => exact .refused _ _
  | ok dst =>
    apply Call.Sends.reporting
    cases chosen : route.resolve host dst with
    | error error => exact .refused _ _
    | ok iface =>
      exact (sends dst iface).mono fun frame sent => ⟨dst, iface, rfl, chosen, sent⟩

end

/-- A ping sends no frame but its request, with the addresses of the interface that it goes over. -/
lemma ping_watched (link : Link σ) (host : List Interface) (config : Config) (route : Route)
    (ip : Ip) (start : Nat) (s : σ) :
    (ping link.watched host config route ip start (s, [])).Sends
      (ping link host config route ip start s)
      fun frame => ∃ dst iface, ip.toIpv4 = .ok dst ∧ route.resolve host dst = .ok iface ∧
        ∃ mac src, Ping.sender iface dst = .ok (mac, src) ∧
          frame = (Arp.request mac src dst).toBytes :=
  Route.call_watched fun dst iface => Ping.overInterface_watched link config start s dst iface

/-- An announcement sends no frame but the request for its own address. -/
lemma announce_watched (link : Link σ) (host : List Interface) (route : Route) (ip : Ip) (s : σ) :
    (announce link.watched host route ip (s, [])).Sends (announce link host route ip s)
      fun frame => ∃ src iface, ip.toIpv4 = .ok src ∧ route.resolve host src = .ok iface ∧
        ∃ mac, iface.mac = some mac ∧ frame = (Arp.request mac src src).toBytes :=
  Route.call_watched fun src iface => Announcement.overInterface_watched link s src iface

end ArpProbe
