import ArpProbe.Address.Input
import ArpProbe.CommandLine.Usage
import ArpProbe.Config

/-!
# Arguments

Arguments are bytes, read from left to right. One that starts with a dash holds switches, the last of
which may take its value from what follows in the argument, or else the next argument. All others are
addresses, of which there is place for one, and so is everything after two dashes alone. Only when all
are read are they checked.
-/

namespace ArpProbe.CommandLine

/-- What the arguments ask for. -/
structure Options where
  ip : Ipv4
  verbose : Bool
  gratuitous : Bool
  interface : Option String
  timeout : Nat
deriving DecidableEq, Repr

/-- What a call of the command asks for. -/
inductive Invocation
  | help
  | run (options : Options)
deriving DecidableEq, Repr

/-- What the reading of arguments breaks down at. -/
inductive Breakdown
  /-- A text is needed, and the bytes are none. -/
  | undecodable
  /-- A term of the timeout leaves its word. -/
  | overflow
deriving DecidableEq, Repr

def Breakdown.message : Breakdown → String
  | undecodable => "unexpected invalid UTF-8 code point"
  | overflow => Duration.overflowMessage

/-- Why the arguments are not understood. -/
inductive Refusal
  | fault (fault : Fault)
  | breakdown (cause : Breakdown)
deriving DecidableEq, Repr

/-- The refusal of a timeout. -/
def Refusal.ofTimeout (given : String) : Duration.Fault → Refusal
  | .invalid => .fault (.invalidTimeout given)
  | .overflow => .breakdown .overflow

/-- The text of bytes that have to be one. -/
def textOf (bytes : Bytes) : Except Refusal String :=
  match Utf8.decode? bytes with
  | some text => .ok text
  | none => .error (.breakdown .undecodable)

/-! ## Reading -/

/-- What was read so far. -/
structure Taken where
  /-- The switches, the latest first. -/
  switches : List Switch
  /-- The values of switches, in order. -/
  values : List (Switch × Bytes)
  ip : Option Bytes
deriving DecidableEq, Repr

namespace Taken

/-- Nothing was read. -/
def none : Taken := ⟨[], [], .none⟩

def addSwitch (taken : Taken) (switch : Switch) : Taken :=
  { taken with switches := switch :: taken.switches }

def addValue (taken : Taken) (switch : Switch) (value : Bytes) : Taken :=
  { taken with values := taken.values ++ [(switch, value)] }

/-- The switch was given. -/
def has (taken : Taken) (switch : Switch) : Bool :=
  taken.switches.contains switch

/-- The values of a switch, in order. -/
def valuesOf (taken : Taken) (switch : Switch) : List Bytes :=
  taken.values.filterMap fun (given, value) => if given = switch then some value else .none

end Taken

/-- The fault of an argument that nothing is known about. -/
def unknown (name : String) (taken : Taken) (argument : String) : Refusal :=
  .fault (.unknownArgument argument ⟨name, taken.switches⟩)

/-- Reads an argument that is no switch. -/
def readAddress (name : String) (taken : Taken) (argument : Bytes) : Except Refusal Taken :=
  match taken.ip with
  | .none => .ok { taken with ip := some argument }
  | some _ => .error (unknown name taken (Utf8.decodeLossy argument))

/-- Reads the letters after a dash. Also returns the switch that waits for a value. -/
def readLetters (name : String) (taken : Taken) : Bytes → Except Refusal (Taken × Option Switch)
  | [] => .ok (taken, none)
  | letter :: letters =>
    match Switch.ofLetter? letter with
    | none =>
      let shown := (Utf8.decodeLossy (letter :: letters)).toList.take 1
      .error (unknown name taken (String.ofList ('-' :: shown)))
    | some switch =>
      let taken := taken.addSwitch switch
      if switch.takesValue then
        if letters = [] then .ok (taken, some switch)
        else .ok (taken.addValue switch (letters.dropWhile (· = '='.toUInt8)), none)
      else readLetters name taken letters

/-- Refuses an argument with two dashes, which is shown up to an equals sign. The arguments after it
have to be texts. -/
def refuseLong (name : String) (taken : Taken) (argument : Bytes) (others : List Bytes) : Refusal :=
  let long := (argument.dropWhile (· = '-'.toUInt8)).takeWhile (· ≠ '='.toUInt8)
  match textOf long, others.mapM textOf with
  | .ok long, .ok _ => unknown name taken ("--" ++ long)
  | _, _ => .breakdown .undecodable

/-- Reads all arguments. A switch may wait for a value, which the next argument is unless it starts
with a dash and goes on. -/
def readAll (name : String) (taken : Taken) (waiting : Option Switch) :
    List Bytes → Except Refusal Taken
  | [] => .ok taken
  | argument :: arguments =>
    match argument with
    | [0x2d, 0x2d] => arguments.foldlM (readAddress name) taken
    | 0x2d :: 0x2d :: _ => .error (refuseLong name taken argument arguments)
    | 0x2d :: letter :: letters => do
      let (taken, waiting) ← readLetters name taken (letter :: letters)
      readAll name taken waiting arguments
    | _ =>
      match waiting with
      | some switch => readAll name (taken.addValue switch argument) none arguments
      | none => do readAll name (← readAddress name taken argument) none arguments

/-! ## Checking -/

/-- The timeout that holds unless another is given. -/
def defaultTimeout : String := "500ms"

/-- Every timeout given has to be a length of time. -/
def checkTimeouts (taken : Taken) : Except Refusal Unit :=
  (taken.valuesOf .timeout).forM fun value =>
    match Duration.parse (Utf8.decodeLossy value) with
    | .ok _ => .ok ()
    | .error fault => .error (.ofTimeout (Utf8.decodeLossy value) fault)

/-- No switch is given twice. -/
def checkRepeats (usage : Usage) (taken : Taken) : Except Refusal Unit :=
  Switch.all.forM fun switch =>
    if 1 < taken.switches.count switch then .error (.fault (.repeated switch usage)) else .ok ()

/-- The checks after reading. The timeout has a default, so it counts as given. -/
def check (name : String) (taken : Taken) : Except Refusal Unit := do
  let usage : Usage := ⟨name, .timeout :: taken.switches⟩
  if taken.has .interface ∧ taken.valuesOf .interface = [] then
    throw (.fault (.missingValue .interface usage))
  checkTimeouts taken
  checkRepeats usage taken

/-- The options that were given. -/
def options (taken : Taken) : Except Refusal Options := do
  let given ← match taken.ip with
    | some ip => textOf ip
    | none => throw (.fault .missingIp)
  let limit ← match (taken.valuesOf .timeout).head? with
    | some value => textOf value
    | none => pure defaultTimeout
  let timeout ← (Duration.parse limit).mapError (.ofTimeout limit)
  let ip ← (Ipv4.ofInput given).mapError (.fault ∘ .address)
  let interface ← match (taken.valuesOf .interface).head? with
    | some value => some <$> textOf value
    | none => pure none
  return ⟨ip, taken.has .verbose, taken.has .gratuitous, interface, timeout⟩

/-- What the arguments ask for, the path of the command first. Help is given whatever else is asked
for, as long as the arguments pass their checks. -/
def parse (arguments : List Bytes) : Except Refusal Invocation := do
  let name := match arguments.head? with
    | some path => calledName path
    | none => commandName
  let taken ← readAll name .none none arguments.tail
  check name taken
  if taken.has .help then return .help
  return .run (← options taken)

end ArpProbe.CommandLine
