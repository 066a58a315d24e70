import GameBoy.Bus.Cartridge
import GameBoy.Bus.IoRegister
import GameBoy.Bus.Joypad
import GameBoy.Cpu.LastInstruction
import GameBoy.Fault
import GameBoy.Interrupt
import GameBoy.Log.Level
import GameBoy.Text.Terminal

/-!
# Log records

A notice says what happened; its level, the component that reports it and its text follow from
that.
-/

namespace GameBoy

open Text

/-- What a log record reports, with the values that its text shows. -/
inductive Notice where
  | bootTruncated (size : Nat)
  | bootLoaded (size : Nat)
  | bootEnabled
  | bootDisabled
  | cartridgeLarge
  | cartridgeLoaded (header : Header) (size : Nat)
  | joypadRead (value : UInt8)
  | unhandledRead (r : IoRegister)
  | unhandledWrite (r : IoRegister) (value : UInt8)
  | registerWritten (r : IoRegister) (value : UInt8)
  | bankSelected (value : UInt8)
  | busFault (fault : Fault)
  | groupSelected (group : KeyGroup)
  | pressed (key : Key) (pad : Joypad)
  | released (key : Key) (pad : Joypad)
  | stopped (addr : UInt16)
  | halted (addr : UInt16)
  | interruptsDisabled
  | interruptsEnabled
  | executed (last : LastInstruction)
  | haltLeft (pending : Interrupt)
  | serviced (interrupt : Interrupt) (pc : UInt16)
  | cpuFault (fault : Fault)
  /-- The state of the processor, reported by the component that stops. -/
  | dump (reporter : Component) (text : String)
  | frame (count : Nat)
  | bootMissing (cause : String)
  | cartridgeMissing (cause : String)
  | runEnded (ticks instructions cycles : Nat)
  | framesCounted (count : Nat)
  deriving DecidableEq, Repr

namespace Notice

/-- How severe a record is; only the dumps and faults are errors. -/
def level : Notice → Level
  | busFault _ | cpuFault _ | dump _ _ => .error
  | bootTruncated _ | cartridgeLarge | bootMissing _ | cartridgeMissing _ => .warn
  | bootLoaded _ | bootDisabled | cartridgeLoaded _ _ | runEnded _ _ _ | framesCounted _ => .info
  | bootEnabled | joypadRead _ | unhandledRead _ | unhandledWrite _ _ | registerWritten _ _
  | bankSelected _ | groupSelected _ | pressed _ _ | released _ _ | stopped _ | halted _
  | interruptsDisabled | interruptsEnabled | haltLeft _ | serviced _ _ | frame _ => .debug
  | executed _ => .trace

/-- The component that reports a record. -/
def component : Notice → Component
  | bootTruncated _ | bootLoaded _ | bootEnabled | bootDisabled | cartridgeLarge
  | cartridgeLoaded _ _ | joypadRead _ | unhandledRead _ | unhandledWrite _ _
  | registerWritten _ _ | bankSelected _ | busFault _ => .bus
  | groupSelected _ | pressed _ _ | released _ _ => .joypad
  | stopped _ | halted _ | interruptsDisabled | interruptsEnabled => .instructions
  | executed _ | haltLeft _ | serviced _ _ | cpuFault _ => .cpu
  | dump reporter _ => reporter
  | frame _ => .video
  | bootMissing _ | cartridgeMissing _ | runEnded _ _ _ => .session
  | framesCounted _ => .program

/-- The text of a record, without level and component. -/
def text : Notice → String
  | bootTruncated size => s!"Boot image is {size} bytes, only the first 256 are used"
  | bootLoaded size => s!"Loaded boot ROM ({size} bytes)"
  | bootEnabled => "Enabling boot ROM."
  | bootDisabled => "Disabling boot ROM."
  | cartridgeLarge => "Warning, rom bigger than 0x8000"
  | cartridgeLoaded header size => s!"Loaded rom {header.text} (size: {size})"
  | joypadRead value => s!"P1 (Joypad) read: {hexByte value}"
  | unhandledRead r => s!"{r.name} read unhandled"
  | unhandledWrite r value => s!"{r.name} write unhandled {hexByte value}"
  | registerWritten r value => s!"{r.name} write: {hexByte value}"
  | bankSelected value => s!"Memory mode write {hexByte value}"
  | busFault fault => s!"Memory bus panicked: {fault.message}"
  | groupSelected .directions => "P1 (Joypad) selected direction keys"
  | groupSelected .buttons => "P1 (Joypad) selected button keys"
  | pressed key pad => s!"Pressed {key.name}. Key = {pad.text}"
  | released key pad => s!"Released {key.name}. Key = {pad.text}"
  | stopped addr => s!"STOP at 0x{hexWord addr}"
  | halted addr => s!"HALT at 0x{hexWord addr}"
  | interruptsDisabled => "DI"
  | interruptsEnabled => "EI"
  | executed last => s!"{hexWord last.addr}: {last.mnemonic}"
  | haltLeft pending => s!"Leaving HALT, {pending.name} pending with IME clear"
  | serviced i pc => s!"Servicing {i.name} interrupt: 0x{hexWord pc} -> 0x{hexWord i.vector}"
  | cpuFault fault => s!"CPU panicked: {fault.message}"
  | dump _ text => text
  | frame count => s!"Frame {count}"
  | bootMissing cause => s!"{cause}; starting without a boot ROM"
  | cartridgeMissing cause => s!"{cause}; continuing with an empty cartridge"
  | runEnded ticks instructions cycles =>
    s!"Stopped after {ticks} ticks: {instructions} instructions, {cycles} cycles"
  | framesCounted count => s!"{count} frames"

/-- The record as a log file shows it: level, component and text, ended by a line end. Later lines
of a text of several lines are indented, and nothing in it commands a terminal. -/
def entry (n : Notice) : String :=
  let level := n.level.name
  let blanks := String.ofList (List.replicate (5 - level.length) ' ')
  plain (s!"[{level}{blanks} {n.component.path}] " ++ "\n    ".intercalate (n.text.splitOn "\n")
    ++ "\n")

end Notice

end GameBoy
