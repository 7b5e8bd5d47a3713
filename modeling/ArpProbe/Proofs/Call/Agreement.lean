import ArpProbe.Proofs.Call.Admission
import ArpProbe.Proofs.Call.Opening
import ArpProbe.Proofs.Host.Folding

/-!
# The ways to choose an interface agree

Whether an interface is found for an address, named, or given makes no difference to a call:
`routes_agree` says so of pings and announcements over any link. It rests on the names of interfaces
being unique, and on the search and the call asking for the same network.
-/

namespace ArpProbe

variable {α σ : Type}

/-! ## Errors of the automatic choice -/

/-- The errors of an interface that does not exist or does not fit. -/
inductive Error.Misfit : Error → Prop
  | notFound (name : String) : Misfit (.interfaceNotFound name)
  | unreachable (name : String) (dst : Ipv4) : Misfit (.unreachable name dst)

/-- The call does not end with an error of the choice of an interface. -/
def Call.Fitting (call : Call α σ) : Prop :=
  ∀ error elapsed, call.ending = .finished (.error error) elapsed → ¬ error.Misfit

/-- An interface that does not fit is noticed in the checks. -/
lemma Error.Misfit.early {error : Error} (misfit : error.Misfit) : error.Early := by
  cases misfit with
  | notFound name => exact .inr rfl
  | unreachable name dst => exact .inr rfl

/-- The interface that is found is there, and has a network with the address. -/
lemma Refused.not_misfit {host : List Interface} {networked : Bool} {ip : Ip} {error : Error}
    (refused : Refused host .automatic networked ip error) : ¬ error.Misfit := by
  intro misfit
  cases refused with
  | address => cases misfit
  | route stands fails =>
    cases fails
    cases misfit
  | hardware => cases misfit
  | network stands selects hardware needed outside =>
    cases selects with
    | automatic first => exact outside first.1.2

section

variable {link : Link σ} {s : σ} {host : List Interface} {route : Route} {ip : Ip} {dst : Ipv4}
  {iface : Interface} {mac : Mac} {error : Error} {elapsed : Nat}

/-- A ping that got past its checks fails for other reasons. -/
lemma not_early_of_ping {config : Config} {start : Nat}
    (admitted : Admitted host route true ip dst iface mac)
    (ending : (ping link host config route ip start s).ending = .finished (.error error) elapsed) :
    ¬ error.Early := by
  obtain ⟨address, own⟩ := Interface.exists_address_of_covers (admitted.network rfl)
  rcases opens : link.attach iface s with ⟨failure | log, next⟩
  · rw [ending_ping_of_unopened admitted own opens] at ending
    cases ending
    exact Error.not_early_openFailed _ _
  · rw [ending_ping_of_attach admitted own opens] at ending
    exact Ping.not_early_of_exchange ending

/-- And so does an announcement, which waits for nobody. -/
lemma category_of_announce (admitted : Admitted host route false ip dst iface mac)
    (ending : (announce link host route ip s).ending = .finished (.error error) elapsed) :
    error.category = .transport := by
  rcases opens : link.attach iface s with ⟨failure | log, next⟩
  · rw [ending_announce_of_unopened admitted opens] at ending
    cases ending
    exact Error.category_openFailed _ _
  · rw [ending_announce_of_attach admitted opens] at ending
    cases sent : (link.send (Arp.request mac dst dst).toBytes next).outcome with
    | error failure =>
      rw [sent] at ending
      cases ending
      rfl
    | ok =>
      rw [sent] at ending
      cases ending

end

/-- A ping that chooses its interface never finds that it does not fit. -/
lemma fitting_ping (link : Link σ) (host : List Interface) (config : Config) (ip : Ip)
    (start : Nat) (s : σ) : (ping link host config .automatic ip start s).Fitting := by
  intro error elapsed ending misfit
  obtain ⟨cause, refused⟩ | ⟨dst, iface, mac, admitted⟩ :=
    refused_or_admitted host .automatic true ip
  · rw [(ping_of_refused refused).1] at ending
    obtain rfl : cause = error := Except.error.inj (Ending.finished.inj ending).1
    exact refused.not_misfit misfit
  · exact not_early_of_ping admitted ending misfit.early

lemma fitting_announce (link : Link σ) (host : List Interface) (ip : Ip) (s : σ) :
    (announce link host .automatic ip s).Fitting := by
  intro error elapsed ending misfit
  obtain ⟨cause, refused⟩ | ⟨dst, iface, mac, admitted⟩ :=
    refused_or_admitted host .automatic false ip
  · rw [(announce_of_refused refused).1] at ending
    obtain rfl : cause = error := Except.error.inj (Ending.finished.inj ending).1
    exact refused.not_misfit misfit
  · exact Error.not_early (.inl (category_of_announce admitted ending)) misfit.early

/-! ## One interface, three ways to it -/

section

variable {links : List HostLink} {dst : Ipv4} {iface : Interface} {ip : Ip} (s : σ)
  (make : Ipv4 → Interface → Call α σ)

lemma Interface.mem_of_usableFor {host : List Interface}
    (usable : usableFor host dst = .ok iface) : iface ∈ host := by
  have selects : Route.automatic.Selects host dst iface := Route.selects_of_resolve usable
  cases selects with
  | automatic first =>
    obtain ⟨-, before, after, split, -⟩ := first
    rw [split]
    exact List.mem_append_right before List.mem_cons_self

/-- The name of the interface that is found leads to that interface, and so the calls differ only in
what is reported about the search. -/
lemma Route.call_of_usableFor (stands : ip.StandsFor dst)
    (usable : Interface.usableFor (Interface.enumerate links) dst = .ok iface) :
    let call := fun route : Route => route.call (Interface.enumerate links) ip s make
    call (.named iface.name) = call (.given iface) ∧
      call .automatic =
        .reporting (Route.automatic.log (Interface.enumerate links) dst) (call (.given iface)) := by
  intro call
  have named := Interface.byName_of_mem (Interface.mem_of_usableFor usable)
  have resolves : ∀ route : Route, route.resolve (Interface.enumerate links) dst = .ok iface →
      call route = .reporting (route.log (Interface.enumerate links) dst) (make dst iface) :=
    fun route resolved => call_of_selects stands (selects_of_resolve resolved)
  rw [resolves (.named iface.name) named, resolves .automatic usable, resolves (.given iface) rfl]
  exact ⟨rfl, rfl⟩

/-- Without an interface for the address, the automatic choice is refused. -/
lemma Route.call_of_unusable {host : List Interface} {error : Error} (stands : ip.StandsFor dst)
    (unusable : Interface.usableFor host dst = .error error) :
    error = .noUsableInterface dst ∧
      Route.automatic.call host ip s make =
        .reporting (Route.automatic.log host dst) (.refused (.noUsableInterface dst) s) := by
  have fails : Route.automatic.Fails host dst error := fails_of_resolve unusable
  have cause : error = .noUsableInterface dst := by
    cases fails with
    | automatic nobody => rfl
  subst cause
  exact ⟨rfl, call_of_fails stands fails⟩

end

/-- The three ways to choose an interface agree, on every host, for every address and over every
link.

If an interface is found for the address, its name leads to that same interface, and a ping over the
interface found, named or given is one and the same call, except that the search is reported first
where there is one. The same holds of announcements. If none is found, the automatic calls are
refused for just that reason, at once and without touching the link. So they never fail because an
interface does not exist, or has no network with the address. -/
theorem routes_agree (link : Link σ) (links : List HostLink) (config : Config) (ip : Ip)
    (start : Nat) (s : σ) :
    let host := Interface.enumerate links
    let pinged := fun route => ping link host config route ip start s
    let announced := fun route => announce link host route ip s
    (∀ dst iface, ip.StandsFor dst → Interface.usableFor host dst = .ok iface →
      Interface.byName host iface.name = .ok iface ∧
      pinged (.named iface.name) = pinged (.given iface) ∧
      pinged .automatic = .reporting (Route.automatic.log host dst) (pinged (.given iface)) ∧
      announced (.named iface.name) = announced (.given iface) ∧
      announced .automatic =
        .reporting (Route.automatic.log host dst) (announced (.given iface))) ∧
    (∀ dst error, ip.StandsFor dst → Interface.usableFor host dst = .error error →
      error = .noUsableInterface dst ∧
      pinged .automatic =
        .reporting (Route.automatic.log host dst) (.refused (.noUsableInterface dst) s) ∧
      announced .automatic =
        .reporting (Route.automatic.log host dst) (.refused (.noUsableInterface dst) s)) ∧
    (∀ name dst elapsed,
      (pinged .automatic).ending ≠ .finished (.error (.interfaceNotFound name)) elapsed ∧
      (pinged .automatic).ending ≠ .finished (.error (.unreachable name dst)) elapsed ∧
      (announced .automatic).ending ≠ .finished (.error (.interfaceNotFound name)) elapsed ∧
      (announced .automatic).ending ≠ .finished (.error (.unreachable name dst)) elapsed) := by
  intro host pinged announced
  refine ⟨?_, ?_, ?_⟩
  · intro dst iface stands usable
    have named := Interface.byName_of_mem (Interface.mem_of_usableFor usable)
    obtain ⟨ping_named, ping_found⟩ :=
      Route.call_of_usableFor s (Ping.overInterface link config start s) stands usable
    obtain ⟨announce_named, announce_found⟩ :=
      Route.call_of_usableFor s (Announcement.overInterface link s) stands usable
    exact ⟨named, ping_named, ping_found, announce_named, announce_found⟩
  · intro dst error stands unusable
    obtain ⟨cause, ping_refused⟩ :=
      Route.call_of_unusable s (Ping.overInterface link config start s) stands unusable
    obtain ⟨-, announce_refused⟩ :=
      Route.call_of_unusable s (Announcement.overInterface link s) stands unusable
    exact ⟨cause, ping_refused, announce_refused⟩
  · intro name dst elapsed
    have fits : (pinged .automatic).Fitting := fitting_ping link host config ip start s
    have fits' : (announced .automatic).Fitting := fitting_announce link host ip s
    exact ⟨fun ending => fits _ _ ending (.notFound name),
      fun ending => fits _ _ ending (.unreachable name dst),
      fun ending => fits' _ _ ending (.notFound name),
      fun ending => fits' _ _ ending (.unreachable name dst)⟩

end ArpProbe
