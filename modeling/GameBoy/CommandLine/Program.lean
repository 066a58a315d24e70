import GameBoy.CommandLine.Arguments
import GameBoy.CommandLine.Help
import GameBoy.CommandLine.TickCount
import GameBoy.Session

/-!
# The program

The program runs a cartridge without a screen. Serial output goes to the terminal unless that is
switched off, log records go to the error stream, and the exit code tells whether the session
reached its tick limit.
-/

namespace GameBoy.CommandLine

/-- What a finished program leaves behind. -/
structure Report where
  exitCode : Nat
  stdout : String := ""
  stderr : String := ""
  deriving DecidableEq, Repr

/-- The text that reports an error by the texts of the error and its causes. -/
def errorText : List String → String
  | [] => ""
  | [text] => s!"Error: {text}\n"
  | text :: causes =>
    s!"Error: {text}\n\nCaused by:\n" ++ String.join (causes.map fun cause => s!"    {cause}\n")

/-- The configuration that the arguments give. -/
def Reading.config (r : Reading) : Config where
  rom := r.rom.getD ""
  boot := r.value .boot
  strict := r.has .strict
  echo := !r.has .quietSerial

/-- The tick limit that the arguments give, if any. -/
def Reading.ticks (r : Reading) : Except TickError (Option Nat) :=
  match r.value .ticks with
  | none => .ok none
  | some text => (readTicks text).map some

/-- The filter in force: tracing lets everything pass. -/
def Reading.filter (r : Reading) (filter : Filter) : Filter :=
  if r.has .trace then some .trace else filter

/-- How long the session runs. -/
def duration (ticks : Option Nat) (patience : Nat) : Duration :=
  match ticks with
  | some n => .ticks n
  | none => .untilFailure patience

/-- The session that a configuration describes. -/
def start (files : FileStore) (clock : Clock) (config : Config) :
    Outcome (Session Headless) Unit :=
  let setup := Bus.configure files config (Bus.new clock)
  ⟨(), { machine := Machine.new setup.state, video := {} }, setup.events⟩

/-- The line end behind the serial output, if there is any. -/
def closing (config : Config) (bus : Bus) : String :=
  if config.echo && !bus.sent.isEmpty then "\n" else ""

/-- The record with which every session ends. -/
def farewell (screen : Headless) : Event := .notice (.framesCounted screen.frames)

/-- The bytes that events copy to the terminal, as text. -/
def echoText (events : List Event) : String :=
  String.ofList <| events.filterMap fun
    | .echo byte => some (Char.ofNat byte.toNat)
    | _ => none

/-- The log records that pass a filter, as the log shows them. -/
def logText (filter : Filter) (events : List Event) : String :=
  String.join <| events.filterMap fun
    | .notice n => if filter.passes n.level then some n.entry else none
    | _ => none

/-- Runs a cartridge with accepted arguments; there is no report if a session without a limit did
not fail within the patience. -/
def runCartridge (files : FileStore) (filter : Filter) (clock : Clock) (patience : Nat)
    (r : Reading) : Option Report :=
  match r.ticks with
  | .error e => some { exitCode := 1, stderr := errorText e.chain }
  | .ok ticks =>
    let started := start files clock r.config
    let done := Session.run (duration ticks patience) started.state
    let events := started.events ++ done.events ++ [farewell done.state.video]
    let stdout := echoText events ++ closing r.config done.state.machine.bus
    let log := logText (r.filter filter) events
    match done.value with
    | .completed _ => some { exitCode := 0, stdout, stderr := log }
    | .failed failure => some { exitCode := 1, stdout, stderr := log ++ errorText failure.chain }
    | .givenUp => none

/-- Runs the program. -/
def execute (files : FileStore) (filter : Filter) (clock : Clock) (patience : Nat)
    (args : List String) : Option Report :=
  match parse args with
  | none =>
    some { exitCode := 1, stderr := "error: the arguments are not accepted\n\n" ++ usageText }
  | some .help => some { exitCode := 0, stdout := helpText }
  | some .version => some { exitCode := 0, stdout := versionText }
  | some (.run r) => runCartridge files filter clock patience r

end GameBoy.CommandLine
