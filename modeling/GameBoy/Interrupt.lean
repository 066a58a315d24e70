/-!
# Interrupt sources

Five sources share the request and enable registers, one bit each; a lower bit has priority. The
service routines lie eight bytes apart, in the same order.
-/

namespace GameBoy

/-- The sources of interrupts. -/
inductive Interrupt where
  | vblank | lcdStat | timer | serial | joypad
  deriving DecidableEq, Repr

namespace Interrupt

/-- All sources, the most urgent first. -/
def byPriority : List Interrupt := [.vblank, .lcdStat, .timer, .serial, .joypad]

/-- The bit of a source in the request and enable registers. -/
def bit : Interrupt → UInt8
  | .vblank => 0x01 | .lcdStat => 0x02 | .timer => 0x04 | .serial => 0x08 | .joypad => 0x10

/-- The address of the service routine. -/
def vector : Interrupt → UInt16
  | .vblank => 0x40 | .lcdStat => 0x48 | .timer => 0x50 | .serial => 0x58 | .joypad => 0x60

/-- The name in log records. -/
def name : Interrupt → String
  | .vblank => "VBlank" | .lcdStat => "LcdStat" | .timer => "Timer" | .serial => "Serial"
  | .joypad => "Joypad"

/-- The most urgent source among the pending bits; bits above the five sources are ignored. -/
def highest (pending : UInt8) : Option Interrupt :=
  byPriority.find? fun i => pending &&& i.bit != 0

end Interrupt

end GameBoy
