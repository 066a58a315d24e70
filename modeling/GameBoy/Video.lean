import GameBoy.Bus.Access

/-!
# The picture side

A video collaborator gets a turn after every tick and sees the bus only during its turn. `Headless`
draws nothing and counts frames. `Scripted` performs given actions at given turns before it does as
`Headless`.
-/

namespace GameBoy

/-- What can follow a machine tick by tick. -/
class Video (ν : Type) where
  /-- One turn, with access to the bus. -/
  turn : ν → Action Bus ν
  /-- Whether the collaborator stopped for good. -/
  isPanicked : ν → Bool

/-- The number of frames seen so far and whether the last line seen was in the vertical blank. -/
structure Headless where
  frames : Nat := 0
  inBlank : Bool := false
  deriving DecidableEq, Repr

/-- Looks at the current line if the screen is on, and counts a frame when the vertical blank
begins. -/
def Headless.turn (screen : Headless) : Action Bus Headless := do
  let bus ← .get
  if bus.io .lcdc &&& 0x80 == 0 then return screen
  else
    let line ← Bus.read IoRegister.ly.addr
    let inBlank : Bool := line ≥ firstBlankLine
    if inBlank && !screen.inBlank then
      .note (.frame (screen.frames + 1))
      return { frames := screen.frames + 1, inBlank }
    else return { screen with inBlank }

instance : Video Headless where
  turn := Headless.turn
  isPanicked _ := false

/-- What a scripted collaborator can do in a turn. -/
inductive Act where
  | interrupt (i : Interrupt)
  | press (key : Key)
  | release (key : Key)
  | write (addr : UInt16) (value : UInt8)
  | panic
  deriving DecidableEq, Repr

/-- What an act does to the bus. -/
def Act.perform : Act → Action Bus Unit
  | .interrupt i => Bus.requestInterrupt i
  | .press key => Bus.press key
  | .release key => Bus.release key
  | .write addr value => Bus.write addr value
  | .panic => pure ()

/-- A collaborator with a script: acts with the turns, counted from 1, at which they happen. -/
structure Scripted where
  script : List (Nat × Act)
  turns : Nat := 0
  panicked : Bool := false
  screen : Headless := {}

/-- Does the acts of this turn in their order and then looks at the screen. -/
def Scripted.turn (v : Scripted) : Action Bus Scripted := do
  let turns := v.turns + 1
  let acts := (v.script.filter (·.1 == turns)).map (·.2)
  acts.forM Act.perform
  let screen ← v.screen.turn
  return { v with turns, screen, panicked := v.panicked || acts.contains .panic }

instance : Video Scripted where
  turn := Scripted.turn
  isPanicked := Scripted.panicked

end GameBoy
