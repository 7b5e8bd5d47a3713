import ArpProbe.Announcement
import ArpProbe.CommandLine.Arguments
import ArpProbe.Report

/-!
# The command

From arguments to exit status: the arguments are read, the call they ask for is made over a link, and
its outcome is reported.
-/

namespace ArpProbe

namespace CommandLine.Options

/-- The interface that was asked for, or else the first that can be used. -/
def route (options : Options) : Route :=
  match options.interface with
  | some name => .named name
  | none => .automatic

/-- The settings of the ping. -/
def config (options : Options) : Config :=
  ⟨options.timeout, options.verbose⟩

/-- The call that was asked for, made at the instant `start`. An announcement has no replies. -/
def execute {σ : Type} (options : Options) (link : Link σ) (host : List Interface) (start : Nat)
    (s : σ) : Call (List Reply) σ :=
  if options.gratuitous then
    (announce link host options.route (.v4 options.ip) s).map fun _ => []
  else ping link host options.config options.route (.v4 options.ip) start s

end CommandLine.Options

namespace Command

open CommandLine

/-- What is printed for arguments that ask for no call. -/
def refuse : Refusal → Output
  | .fault .missingIp => ⟨some 2, Report.lines [Fault.message .missingIp, help]⟩
  | .fault fault => ⟨some 2, Report.lines [fault.message]⟩
  | .breakdown _ => ⟨none, ""⟩

/-- The log that is shown while a call runs: none of it, or in a verbose call all but traces. -/
def shownLog (verbose : Bool) (log : List LogEntry) : String :=
  if verbose then
    Report.lines ((log.filter (·.level == .debug)).map LogEntry.terminalLine)
  else ""

/-- Runs the command on a host with the given links at the instant `start`, and returns its output
and the link as it was left. -/
def run {σ : Type} (arguments : List Bytes) (links : List HostLink) (link : Link σ) (start : Nat)
    (s : σ) : Output × σ :=
  match parse arguments with
  | .error refusal => (refuse refusal, s)
  | .ok .help => (⟨some 2, Report.lines [help]⟩, s)
  | .ok (.run options) =>
    let call := options.execute link (Interface.enumerate links) start s
    let report := Report.ofEnding options.ip call.ending
    ({ report with stdout := shownLog options.verbose call.log ++ report.stdout }, call.link)

end Command

end ArpProbe
