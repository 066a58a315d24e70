import GameBoy.Bus.Loading
import GameBoy.Machine.Tick
import GameBoy.Video

/-!
# Sessions

A session alternates ticks of a machine and turns of a video collaborator until one of them stops
for good or a number of ticks is reached. A session that fails says which component stopped, after
how many ticks, and why.
-/

namespace GameBoy

/-- What a session is started with. -/
structure Config where
  rom : String
  boot : Option String := none
  strict : Bool := false
  echo : Bool := true
  deriving DecidableEq, Repr

/-- The failure of a session after a number of ticks. -/
inductive Failure where
  | cpu (fault : Fault) (ticks : Nat)
  | bus (fault : Fault) (ticks : Nat)
  | video (ticks : Nat)
  deriving DecidableEq, Repr

namespace Failure

/-- The fault behind a failure. -/
def fault? : Failure → Option Fault
  | cpu fault _ | bus fault _ => some fault
  | video _ => none

/-- The texts of the failure and its cause, the outermost first. -/
def chain : Failure → List String
  | cpu fault ticks => [s!"CPU panicked after {ticks} ticks", fault.message]
  | bus fault ticks => [s!"memory bus panicked after {ticks} ticks", fault.message]
  | video ticks => [s!"video panicked after {ticks} ticks"]

end Failure

/-- How long a session runs: for a number of ticks, or until something fails, where the patience
says when to give up. -/
inductive Duration where
  | ticks (n : Nat)
  | untilFailure (patience : Nat)
  deriving DecidableEq, Repr

/-- The greatest number of turns in a run. -/
def Duration.turns : Duration → Nat
  | .ticks n => n
  | .untilFailure patience => patience

/-- How a run ends: after all its ticks, by a failure, or because the patience was at an end. -/
inductive Ending where
  | completed (ticks : Nat)
  | failed (failure : Failure)
  | givenUp
  deriving DecidableEq, Repr

/-- A bus set up as configured. An image that cannot be opened is reported and left out. -/
def Bus.configure (files : FileStore) (config : Config) : Action Bus Unit := do
  .modify fun bus => { bus with strict := config.strict, echo := config.echo }
  if let some path := config.boot then
    if let .error e ← openImage files .boot path then .note (.bootMissing e.message)
  if let .error e ← openImage files .cartridge config.rom then .note (.cartridgeMissing e.message)

/-- A machine and the video collaborator that follows it. -/
structure Session (ν : Type) where
  machine : Machine
  video : ν

namespace Session

variable {ν : Type} [Video ν]

/-- Why the session cannot go on after a number of ticks: the processor comes first, then the bus,
then the video. -/
def failure? (s : Session ν) (ticks : Nat) : Option Failure :=
  match s.machine.cpu.fault, s.machine.bus.fault with
  | some fault, _ => some (.cpu fault ticks)
  | none, some fault => some (.bus fault ticks)
  | none, none => if Video.isPanicked s.video then some (.video ticks) else none

/-- An action on the machine as one on the session. -/
@[inline] def onMachine {α : Type} (act : Action Machine α) : Action (Session ν) α := fun s =>
  let done := act s.machine
  ⟨done.value, { s with machine := done.state }, done.events⟩

/-- A turn of the video. -/
def videoTurn : Action (Session ν) Unit := fun s =>
  let done := Video.turn s.video s.machine.bus
  ⟨(), { machine := { s.machine with bus := done.state }, video := done.value }, done.events⟩

/-- A tick and a turn of the video. A failure is the last thing that happens; the state of the
processor is reported unless the processor did so itself. -/
def turn : Action (Session ν) Verdict := do
  discard (onMachine Machine.tick)
  videoTurn
  let s ← .get
  match s.failure? 0 with
  | none => return .again
  | some failure =>
    match failure with
    | .cpu _ _ => return .last
    | .bus _ _ | .video _ =>
      .note (.dump .session s.machine.cpu.dump)
      return .last

/-- How a run ended that took the given turns. -/
def ending (s : Session ν) (duration : Duration) (tally : Tally) : Ending :=
  match (if tally.ended then s.failure? tally.count else none), duration with
  | some failure, _ => .failed failure
  | none, .ticks _ => .completed tally.count
  | none, .untilFailure _ => .givenUp

/-- Ends a run that took the given turns; only a run that completes says so. -/
def conclude (duration : Duration) (tally : Tally) : Action (Session ν) Ending := do
  let s ← .get
  let ending := s.ending duration tally
  if let .completed ticks := ending then
    .note (.runEnded ticks s.machine.cpu.instructions s.machine.cpu.cycles)
  return ending

/-- Runs the session. Of the events only the reports are kept. -/
def run (duration : Duration) : Action (Session ν) Ending := do
  let tally ← Action.upTo duration.turns (turn.keeping Event.isReport)
  conclude duration tally

end Session

end GameBoy
