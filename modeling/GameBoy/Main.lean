import GameBoy.CommandLine.Program

/-!
# The command line

The outer layer of the program: it reads files, the clock and the environment, and prints what the
session reports. Before every turn the scanline counter gets the current time.
-/

namespace GameBoy.CommandLine

/-- Reads a whole file. A failure while a path is followed names the path; a directory is found out
only when it is read, which does not. -/
def readImage (path : String) : IO (Except ReadError Image) := do
  if path.contains '\x00' then return .error .zeroInName
  try
    let bytes ← IO.FS.readBinFile path
    return .ok bytes.data
  catch
    | .inappropriateType (some _) _ _ => return .error .notDirectory
    | .inappropriateType none _ _ => return .error .isDirectory
    | .permissionDenied _ _ _ => return .error .permissionDenied
    | .invalidArgument _ _ _ => return .error .nameTooLong
    | _ => return .error .notFound

/-- The files that a configuration names. -/
def readFiles (config : Config) : IO FileStore := do
  let rom ← readImage config.rom
  let boot ← readImage (config.boot.getD "")
  return fun path => if path == config.rom then rom else boot

/-- Shows what is meant for the user. -/
def showEvents (filter : Filter) (events : List Event) : IO Unit := do
  for e in events do
    match e with
    | .echo byte =>
      IO.print (String.singleton (Char.ofNat byte.toNat))
      (← IO.getStdout).flush
    | .notice n => if filter.passes n.level then IO.eprint n.entry
    | _ => pure ()

/-- Sets the clock of a session. -/
def setTime (s : Session Headless) (now : Nat) : Session Headless :=
  { s with machine.bus.scanline.clock := Clock.steady now 0 }

/-- Runs a session turn by turn. -/
partial def follow (filter : Filter) (started : Nat) (limit : Option Nat) (ticks : Nat)
    (s : Session Headless) : IO (Session Headless × Tally) := do
  if limit == some ticks then return (s, ⟨ticks, false⟩)
  let now ← IO.monoNanosNow
  let done := (Session.turn.keeping Event.isReport) (setTime s (now - started))
  showEvents filter done.events
  match done.value with
  | .again => follow filter started limit (ticks + 1) done.state
  | _ => return (done.state, ⟨ticks + 1, true⟩)

/-- Runs the program on accepted arguments and answers with its exit code. -/
def runProgram (filter : Filter) (r : Reading) : IO UInt32 := do
  match r.ticks with
  | .error e =>
    IO.eprint (errorText e.chain)
    return 1
  | .ok limit =>
    let files ← readFiles r.config
    let started ← IO.monoNanosNow
    let setup := start files (Clock.steady 0 0) r.config
    showEvents filter setup.events
    let (session, tally) ← follow filter started limit 0 setup.state
    let finished := Session.conclude (duration limit 0) tally session
    showEvents filter finished.events
    IO.print (closing r.config session.machine.bus)
    showEvents filter [farewell session.video]
    match finished.value with
    | .failed failure =>
      IO.eprint (errorText failure.chain)
      return 1
    | _ => return 0

end GameBoy.CommandLine

open GameBoy.CommandLine

/-- Runs the program and hands its exit code to the operating system. -/
def main (args : List String) : IO UInt32 := do
  match parse args with
  | some (.run r) =>
    let name := (← IO.getEnv "DMG_LOG").getD "info"
    runProgram (r.filter ((GameBoy.Filter.ofName? name).getD none)) r
  | _ =>
    let report := execute (GameBoy.Directory.read []) none (GameBoy.Clock.steady 0 0) 0 args
    IO.print ((report.map (·.stdout)).getD "")
    IO.eprint ((report.map (·.stderr)).getD "")
    return UInt32.ofNat ((report.map (·.exitCode)).getD 1)
