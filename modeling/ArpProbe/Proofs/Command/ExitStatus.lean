import ArpProbe.Command
import ArpProbe.Proofs.Call.Agreement
import ArpProbe.Proofs.Packet.Collection
import ArpProbe.Proofs.Report.ReadBack

/-!
# The exit status

Scripts tell by the exit status whether a host answered, stayed silent, or could not be asked.
`exit_status` says for all arguments and kernels which of these it is, and what is printed with it.
-/

namespace ArpProbe

open CommandLine Packet

/-! ## Announcements -/

section

variable {σ : Type} {link : Link σ} {s : σ} {host : List Interface} {route : Route} {ip : Ip}

/-- An announcement goes out: its checks pass, the channel opens, and the request is sent. -/
inductive Announcement.GoesOut (link : Link σ) (host : List Interface) (route : Route) (ip : Ip)
    (s : σ) : Prop
  | intro {src : Ipv4} {iface : Interface} {mac : Mac} {log : List LogEntry} {next : σ}
      (admitted : Admitted host route false ip src iface mac)
      (opens : link.attach iface s = (.ok log, next))
      (sent : (link.send (Arp.request mac src src).toBytes next).outcome = .ok ())

lemma ending_announce_eq_ok_iff :
    (∃ elapsed, (announce link host route ip s).ending = .finished (.ok ()) elapsed) ↔
      Announcement.GoesOut link host route ip s := by
  constructor
  · rintro ⟨elapsed, ending⟩
    obtain ⟨error, refused⟩ | ⟨src, iface, mac, admitted⟩ :=
      refused_or_admitted host route false ip
    · rw [(announce_of_refused refused).1] at ending
      cases ending
    rcases opens : link.attach iface s with ⟨failure | log, next⟩
    · rw [ending_announce_of_unopened admitted opens] at ending
      cases ending
    refine .intro admitted opens ?_
    rw [ending_announce_of_attach admitted opens] at ending
    cases sent : (link.send (Arp.request mac src src).toBytes next).outcome with
    | error failure =>
      rw [sent] at ending
      cases ending
    | ok => rfl
  · rintro ⟨admitted, opens, sent⟩
    exact ⟨_, (ending_announce_of_attach admitted opens).trans (by rw [sent]; rfl)⟩

/-- Nobody is waited for. -/
lemma ending_announce_ne_timeout (elapsed : Nat) :
    (announce link host route ip s).ending ≠ .finished (.error .timeout) elapsed := by
  intro ending
  obtain ⟨error, refused⟩ | ⟨src, iface, mac, admitted⟩ := refused_or_admitted host route false ip
  · rw [(announce_of_refused refused).1] at ending
    obtain rfl : error = .timeout := Except.error.inj (Ending.finished.inj ending).1
    exact Error.not_early (.inr rfl) refused.early
  · cases category_of_announce admitted ending

/-- No link breaks down before it is listened to. -/
lemma ending_announce_ne_crashed (text : String) (elapsed : Nat) :
    (announce link host route ip s).ending ≠ .crashed text elapsed := by
  obtain ⟨error, refused⟩ | ⟨src, iface, mac, admitted⟩ := refused_or_admitted host route false ip
  · rw [(announce_of_refused refused).1]
    nofun
  rcases opens : link.attach iface s with ⟨failure | log, next⟩
  · rw [ending_announce_of_unopened admitted opens]
    nofun
  · rw [ending_announce_of_attach admitted opens]
    nofun

end

/-! ## Reports -/

/-- All errors but silence count as faults. -/
lemma Error.exitCode_of_ne_timeout {error : Error} (loud : error ≠ .timeout) :
    error.exitCode = 2 := by
  rw [exitCode, isTimeout, if_neg (by simpa using loud)]

namespace Report

/-- The exit status for how a call ends. -/
inductive Exits : Ending (List Reply) → Option Nat → Prop
  | replies (replies : List Reply) (elapsed : Nat) : Exits (.finished (.ok replies) elapsed) (some 0)
  | timeout (elapsed : Nat) : Exits (.finished (.error .timeout) elapsed) (some 1)
  | failed {error : Error} (loud : error ≠ .timeout) (elapsed : Nat) :
      Exits (.finished (.error error) elapsed) (some 2)
  | crashed (text : String) (elapsed : Nat) : Exits (.crashed text elapsed) none

lemma exit_ofEnding_iff {ip : Ipv4} {ending : Ending (List Reply)} {exit : Option Nat} :
    (ofEnding ip ending).exit = exit ↔ Exits ending exit := by
  constructor
  · rintro rfl
    cases ending with
    | finished result elapsed =>
      cases result with
      | ok replies => exact .replies replies elapsed
      | error error =>
        by_cases silent : error = .timeout
        · rw [silent]
          exact .timeout elapsed
        · rw [ofEnding, ofResult, Error.exitCode_of_ne_timeout silent]
          exact .failed silent elapsed
    | crashed text elapsed => exact .crashed text elapsed
  · intro exits
    cases exits with
    | replies | timeout | crashed => rfl
    | failed loud => rw [ofEnding, ofResult, Error.exitCode_of_ne_timeout loud]

end Report

/-! ## The call that was asked for -/

namespace Ending

variable {α β : Type} {f : α → β} {ending : Ending α} {elapsed : Nat}

lemma map_eq_ok_iff {b : β} :
    ending.map f = .finished (.ok b) elapsed ↔ ∃ a, ending = .finished (.ok a) elapsed ∧ f a = b := by
  cases ending with
  | finished result time => cases result <;> simp [map, Except.map, and_comm]
  | crashed text time => simp [map]

/-- Another value changes no error. -/
lemma map_eq_error_iff {error : Error} :
    ending.map f = .finished (.error error) elapsed ↔ ending = .finished (.error error) elapsed := by
  cases ending with
  | finished result time => cases result <;> simp [map, Except.map]
  | crashed text time => simp [map]

lemma map_eq_crashed_iff {text : String} :
    ending.map f = .crashed text elapsed ↔ ending = .crashed text elapsed := by
  cases ending <;> simp [map]

end Ending

namespace CommandLine.Options

variable {options : Options} {host : List Interface} {start : Nat}

/-- A call has these replies to report: a ping those that it collected, if any, and an announcement
that went out none. -/
inductive Succeeds (options : Options) (host : List Interface) (start : Nat) (k : Kernel) :
    List Reply → Prop
  | announced (asked : options.gratuitous = true)
      (out : Announcement.GoesOut Channel.link host options.route (.v4 options.ip) ⟨k, none⟩) :
      Succeeds options host start k []
  | collected {replies : List Reply} (asked : options.gratuitous = false)
      (collects : Collects host options.config options.route (.v4 options.ip) start k replies)
      (some : replies ≠ []) : Succeeds options host start k replies

section

variable {σ : Type} {link : Link σ} {s : σ}

/-- With the flag for it the call is an announcement, which has no replies to report. -/
lemma execute_of_announcement (asked : options.gratuitous = true) :
    options.execute link host start s =
      (announce link host options.route (.v4 options.ip) s).map fun _ => [] :=
  if_pos asked

lemma execute_of_ping (asked : options.gratuitous = false) :
    options.execute link host start s =
      ping link host options.config options.route (.v4 options.ip) start s := by
  rw [execute, asked]
  rfl

/-- Only a ping can time out. -/
lemma ending_execute_eq_timeout_iff {elapsed : Nat} :
    (options.execute link host start s).ending = .finished (.error .timeout) elapsed ↔
      options.gratuitous = false ∧
        (ping link host options.config options.route (.v4 options.ip) start s).ending =
          .finished (.error .timeout) elapsed := by
  cases asked : options.gratuitous with
  | true =>
    rw [execute_of_announcement asked, Call.map, Ending.map_eq_error_iff]
    exact iff_of_false (ending_announce_ne_timeout elapsed) nofun
  | false =>
    rw [execute_of_ping asked]
    exact (and_iff_right rfl).symm

/-- Nothing is done with the link if the address or the interface is at fault. -/
lemma link_execute_of_early {error : Error} {elapsed : Nat}
    (ending : (options.execute link host start s).ending = .finished (.error error) elapsed)
    (early : error.Early) : (options.execute link host start s).link = s := by
  cases asked : options.gratuitous with
  | true =>
    rw [execute_of_announcement asked] at ending ⊢
    have ending := Ending.map_eq_error_iff.1 ending
    obtain ⟨cause, refused⟩ | ⟨src, iface, mac, admitted⟩ :=
      refused_or_admitted host options.route false (.v4 options.ip)
    · exact (announce_of_refused refused).2
    · exact absurd early (Error.not_early (.inl (category_of_announce admitted ending)))
  | false =>
    rw [execute_of_ping asked] at ending ⊢
    obtain ⟨cause, refused⟩ | ⟨dst, iface, mac, admitted⟩ :=
      refused_or_admitted host options.route true (.v4 options.ip)
    · exact (ping_of_refused refused).2
    · exact absurd early (not_early_of_ping admitted ending)

end

section

variable {k : Kernel}

/-- The call returns replies exactly if it succeeds with them. -/
lemma ending_execute_eq_ok_iff {replies : List Reply} :
    (∃ elapsed, (options.execute Channel.link host start ⟨k, none⟩).ending =
      .finished (.ok replies) elapsed) ↔ options.Succeeds host start k replies := by
  constructor
  · rintro ⟨elapsed, ending⟩
    cases asked : options.gratuitous with
    | true =>
      rw [execute_of_announcement asked, Call.map, Ending.map_eq_ok_iff] at ending
      obtain ⟨⟨⟩, announced, rfl⟩ := ending
      exact .announced asked (ending_announce_eq_ok_iff.1 ⟨elapsed, announced⟩)
    | false =>
      rw [execute_of_ping asked, ending_ping_eq_ok_iff] at ending
      exact .collected asked ending.1 ending.2.1
  · intro succeeds
    cases succeeds with
    | announced asked out =>
      obtain ⟨elapsed, announced⟩ := ending_announce_eq_ok_iff.2 out
      rw [execute_of_announcement asked]
      exact ⟨elapsed, Ending.map_eq_ok_iff.2 ⟨(), announced, rfl⟩⟩
    | collected asked collects some =>
      rw [execute_of_ping asked]
      exact ⟨_, ending_ping_eq_ok_iff.2 ⟨collects, some, rfl⟩⟩

/-- Over packet sockets no call breaks down. -/
lemma ending_execute_ne_crashed (text : String) (elapsed : Nat) :
    (options.execute Channel.link host start ⟨k, none⟩).ending ≠ .crashed text elapsed := by
  cases asked : options.gratuitous with
  | true =>
    rw [execute_of_announcement asked, Call.map, Ne, Ending.map_eq_crashed_iff]
    exact ending_announce_ne_crashed text elapsed
  | false =>
    rw [execute_of_ping asked]
    exact ending_ping_ne_crashed text elapsed

end

end CommandLine.Options

/-! ## The whole command -/

namespace Command

section

variable {σ : Type} {arguments : List Bytes} {links : List HostLink} {link : Link σ} {start : Nat}
  {s : σ}

lemma run_of_refusal {refusal : Refusal} (parsed : parse arguments = .error refusal) :
    run arguments links link start s = (refuse refusal, s) := by
  rw [run, parsed]

/-- Help is a kind of failure to the one who reads the exit status. -/
lemma run_of_help (parsed : parse arguments = .ok .help) :
    run arguments links link start s = (⟨some 2, Report.lines [help]⟩, s) := by
  rw [run, parsed]

lemma run_of_options {options : Options} (parsed : parse arguments = .ok (.run options)) :
    let call := options.execute link (Interface.enumerate links) start s
    run arguments links link start s =
      ({ Report.ofEnding options.ip call.ending with
          stdout := shownLog options.verbose call.log ++
            (Report.ofEnding options.ip call.ending).stdout }, call.link) := by
  intro call
  rw [run, parsed]

/-- Where the exit status comes from: the refusal of the arguments, the help, or the report. -/
lemma exit_run_iff {exit : Option Nat} :
    (run arguments links link start s).1.exit = exit ↔
      (∃ cause, parse arguments = .error (.breakdown cause) ∧ exit = none) ∨
      ((∃ fault, parse arguments = .error (.fault fault)) ∨ parse arguments = .ok .help) ∧
        exit = some 2 ∨
      ∃ options, parse arguments = .ok (.run options) ∧
        Report.Exits (options.execute link (Interface.enumerate links) start s).ending exit := by
  rcases parsed : parse arguments with ⟨fault | cause⟩ | ⟨_ | options⟩
  · rw [run_of_refusal parsed]
    cases fault <;> simp [refuse, eq_comm]
  · rw [run_of_refusal parsed]
    simp [refuse, eq_comm]
  · rw [run_of_help parsed]
    simp [eq_comm]
  · rw [run_of_options parsed]
    simp [← @Report.exit_ofEnding_iff options.ip]

end

section

variable {arguments : List Bytes} {links : List HostLink} {start : Nat} {k : Kernel}
  {options : Options} {replies : List Reply}

/-! ### The four ways to exit -/

/-- A command breaks down over its arguments only, for no call over packet sockets does. -/
lemma exit_run_eq_none_iff :
    (run arguments links Channel.link start ⟨k, none⟩).1.exit = none ↔
      ∃ cause, parse arguments = .error (.breakdown cause) := by
  rw [exit_run_iff]
  constructor
  · rintro (⟨cause, parsed, -⟩ | ⟨-, ⟨⟩⟩ | ⟨options, parsed, exits⟩)
    · exact ⟨cause, parsed⟩
    · generalize ended : Call.ending _ = ending at exits
      cases exits with
      | crashed text elapsed => exact absurd ended (Options.ending_execute_ne_crashed text elapsed)
  · rintro ⟨cause, parsed⟩
    exact .inl ⟨cause, parsed, rfl⟩

/-- The status 0 means that the call succeeds. -/
lemma exit_run_eq_zero_iff :
    (run arguments links Channel.link start ⟨k, none⟩).1.exit = some 0 ↔
      ∃ options, parse arguments = .ok (.run options) ∧
        ∃ replies, options.Succeeds (Interface.enumerate links) start k replies := by
  rw [exit_run_iff]
  constructor
  · rintro (⟨cause, -, ⟨⟩⟩ | ⟨-, ⟨⟩⟩ | ⟨options, parsed, exits⟩)
    generalize ended : Call.ending _ = ending at exits
    cases exits with
    | replies replies elapsed =>
      exact ⟨options, parsed, replies, Options.ending_execute_eq_ok_iff.1 ⟨elapsed, ended⟩⟩
  · rintro ⟨options, parsed, replies, succeeds⟩
    obtain ⟨elapsed, ended⟩ := Options.ending_execute_eq_ok_iff.2 succeeds
    refine .inr (.inr ⟨options, parsed, ?_⟩)
    rw [ended]
    exact .replies replies elapsed

/-- The status 1 means that a ping heard nobody in time. -/
lemma exit_run_eq_one_iff :
    (run arguments links Channel.link start ⟨k, none⟩).1.exit = some 1 ↔
      ∃ options, parse arguments = .ok (.run options) ∧ options.gratuitous = false ∧ ∃ elapsed,
        (ping Channel.link (Interface.enumerate links) options.config options.route
          (.v4 options.ip) start ⟨k, none⟩).ending = .finished (.error .timeout) elapsed := by
  rw [exit_run_iff]
  constructor
  · rintro (⟨cause, -, ⟨⟩⟩ | ⟨-, ⟨⟩⟩ | ⟨options, parsed, exits⟩)
    generalize ended : Call.ending _ = ending at exits
    cases exits with
    | timeout elapsed =>
      obtain ⟨asked, ended⟩ := Options.ending_execute_eq_timeout_iff.1 ended
      exact ⟨options, parsed, asked, elapsed, ended⟩
  · rintro ⟨options, parsed, asked, elapsed, ended⟩
    refine .inr (.inr ⟨options, parsed, ?_⟩)
    rw [Options.ending_execute_eq_timeout_iff.2 ⟨asked, ended⟩]
    exact .timeout elapsed

/-- The status 2 means a refusal, help, or a call that failed for another reason. -/
lemma exit_run_eq_two_iff :
    (run arguments links Channel.link start ⟨k, none⟩).1.exit = some 2 ↔
      (∃ fault, parse arguments = .error (.fault fault)) ∨ parse arguments = .ok .help ∨
        ∃ options, parse arguments = .ok (.run options) ∧ ∃ error elapsed,
          (options.execute Channel.link (Interface.enumerate links) start ⟨k, none⟩).ending =
            .finished (.error error) elapsed ∧ error ≠ .timeout := by
  rw [exit_run_iff]
  constructor
  · rintro (⟨cause, -, ⟨⟩⟩ | ⟨fault | help, -⟩ | ⟨options, parsed, exits⟩)
    · exact .inl fault
    · exact .inr (.inl help)
    · generalize ended : Call.ending _ = ending at exits
      cases exits with
      | failed loud elapsed => exact .inr (.inr ⟨options, parsed, _, elapsed, ended, loud⟩)
  · rintro (fault | help | ⟨options, parsed, error, elapsed, ended, loud⟩)
    · exact .inr (.inl ⟨.inl fault, rfl⟩)
    · exact .inr (.inl ⟨.inr help, rfl⟩)
    · refine .inr (.inr ⟨options, parsed, ?_⟩)
      rw [ended]
      exact .failed loud elapsed

/-- There is no fifth way. -/
lemma exit_run_mem :
    (run arguments links Channel.link start ⟨k, none⟩).1.exit ∈ [none, some 0, some 1, some 2] := by
  generalize status : (run arguments links Channel.link start ⟨k, none⟩).1.exit = exit
  rcases exit_run_iff.1 status with ⟨-, -, rfl⟩ | ⟨-, rfl⟩ | ⟨options, -, exits⟩
  · decide
  · decide
  · -- however a call ends, its report has one of these
    generalize Call.ending _ = ending at exits
    cases exits <;> decide

/-! ### What is printed and done -/

/-- A call that succeeds is reported line by line, after the log if that is shown. -/
lemma stdout_of_succeeds (parsed : parse arguments = .ok (.run options))
    (succeeds : options.Succeeds (Interface.enumerate links) start k replies) :
    (run arguments links Channel.link start ⟨k, none⟩).1.stdout =
      shownLog options.verbose
          (options.execute Channel.link (Interface.enumerate links) start ⟨k, none⟩).log ++
        Report.lines (replies.map (Report.line options.ip)) := by
  obtain ⟨elapsed, ending⟩ := Options.ending_execute_eq_ok_iff.2 succeeds
  rw [run_of_options parsed, ending]
  rfl

/-- The lines of a quiet run are those of the replies, and nothing else. -/
lemma fields_stdout (parsed : parse arguments = .ok (.run options))
    (succeeds : options.Succeeds (Interface.enumerate links) start k replies)
    (quiet : options.verbose = false) :
    Text.fields '\n' (run arguments links Channel.link start ⟨k, none⟩).1.stdout.toList =
      replies.map (fun reply => (Report.line options.ip reply).toList) ++ [[]] := by
  have silent : shownLog options.verbose
      (options.execute Channel.link (Interface.enumerate links) start ⟨k, none⟩).log = "" := by
    rw [quiet]
    rfl
  rw [stdout_of_succeeds parsed succeeds, silent, String.empty_append, Report.fields_lines_line]

/-- A ping that succeeds has something to say. -/
lemma stdout_ne_empty (parsed : parse arguments = .ok (.run options))
    (succeeds : options.Succeeds (Interface.enumerate links) start k replies)
    (asked : options.gratuitous = false) :
    (run arguments links Channel.link start ⟨k, none⟩).1.stdout ≠ "" := by
  rw [stdout_of_succeeds parsed succeeds]
  cases succeeds with
  | announced asked' => exact absurd (asked.symm.trans asked') (by decide)
  | collected _ _ some =>
    -- the line of the first reply ends with a line end
    obtain ⟨reply, replies, rfl⟩ := List.exists_cons_of_ne_nil some
    intro empty
    have empty := congrArg String.toList empty
    rw [String.toList_append, List.map_cons, Report.lines_cons] at empty
    simp at empty

/-- Without a call to make, or with one that is refused, nothing is done with the link. -/
lemma link_run {σ : Type} {link : Link σ} {s : σ}
    (idle : (∃ refusal, parse arguments = .error refusal) ∨ parse arguments = .ok .help ∨
      ∃ options, parse arguments = .ok (.run options) ∧ ∃ error elapsed,
        (options.execute link (Interface.enumerate links) start s).ending =
          .finished (.error error) elapsed ∧ error.Early) :
    (run arguments links link start s).2 = s := by
  rcases idle with ⟨refusal, parsed⟩ | parsed | ⟨options, parsed, error, elapsed, ending, early⟩
  · rw [run_of_refusal parsed]
  · rw [run_of_help parsed]
  · rw [run_of_options parsed]
    exact Options.link_execute_of_early ending early

end

/-- What the exit status says, for all arguments, hosts and kernels.

It is 0 if an announcement went out or a ping collected replies, which are printed in order of
arrival, each in a line that says who answered and after how long; it is 1 if a ping was not answered
in time, and 2 for help, for arguments that are not understood, and for any other failure of a call.
There is none only if reading the arguments breaks down. No system call is made for help, for bad arguments, or where no interface fits. -/
theorem exit_status (arguments : List Bytes) (links : List HostLink) (start : Nat) (k : Kernel) :
    let host := Interface.enumerate links
    let final := run arguments links Channel.link start ⟨k, none⟩
    let ending := fun options : Options =>
      (options.execute Channel.link host start ⟨k, none⟩).ending
    (final.1.exit = none ↔ ∃ cause, parse arguments = .error (.breakdown cause)) ∧
    (final.1.exit = some 0 ↔ ∃ options, parse arguments = .ok (.run options) ∧
      ∃ replies, options.Succeeds host start k replies) ∧
    (final.1.exit = some 1 ↔ ∃ options, parse arguments = .ok (.run options) ∧
      options.gratuitous = false ∧ ∃ elapsed,
        (ping Channel.link host options.config options.route (.v4 options.ip) start
          ⟨k, none⟩).ending = .finished (.error .timeout) elapsed) ∧
    (final.1.exit = some 2 ↔ (∃ fault, parse arguments = .error (.fault fault)) ∨
      parse arguments = .ok .help ∨ ∃ options, parse arguments = .ok (.run options) ∧
        ∃ error elapsed, ending options = .finished (.error error) elapsed ∧ error ≠ .timeout) ∧
    final.1.exit ∈ [none, some 0, some 1, some 2] ∧
    (∀ options replies, parse arguments = .ok (.run options) →
      options.Succeeds host start k replies →
      (options.verbose = false →
        let lines := replies.map fun reply => (Report.line options.ip reply).toList
        Text.fields '\n' final.1.stdout.toList = lines ++ [[]] ∧
          List.Forall₂ (Report.Tells options.ip) lines replies) ∧
      (options.gratuitous = false → final.1.stdout ≠ "")) ∧
    ((∃ refusal, parse arguments = .error refusal) ∨ parse arguments = .ok .help ∨
      (∃ options, parse arguments = .ok (.run options) ∧
        ∃ error elapsed, ending options = .finished (.error error) elapsed ∧ error.Early) →
      final.2 = ⟨k, none⟩) := by
  intro host final ending
  exact ⟨exit_run_eq_none_iff, exit_run_eq_zero_iff, exit_run_eq_one_iff, exit_run_eq_two_iff,
    exit_run_mem, fun options replies parsed succeeds =>
      ⟨fun quiet => ⟨fields_stdout parsed succeeds quiet, Report.forall₂_tells options.ip replies⟩,
        stdout_ne_empty parsed succeeds⟩, link_run⟩

end Command

end ArpProbe
