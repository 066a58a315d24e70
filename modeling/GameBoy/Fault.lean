import GameBoy.Text.Hex

/-!
# Faults

A fault is a condition from which the emulated hardware does not recover. The component that raises
one keeps it and stops working.
-/

namespace GameBoy

open Text

/-- The conditions from which nothing recovers, each with the address that it concerns. -/
inductive Fault where
  /-- An opcode that no table knows. -/
  | unknownOpcode (addr : UInt16) (opcode : UInt8)
  /-- An opcode that this processor does not have. -/
  | removedOpcode (addr : UInt16) (opcode : UInt8)
  /-- The stop instruction, which is not emulated. -/
  | stop (addr : UInt16)
  /-- A write into the cartridge area while such writes are forbidden. -/
  | romWrite (addr : UInt16) (value : UInt8)
  /-- A fetch from above the area in which code may run. -/
  | pcOverflow (addr : UInt16)
  deriving DecidableEq, Repr

namespace Fault

/-- The address that a fault names. -/
def addr : Fault → UInt16
  | unknownOpcode addr _ | removedOpcode addr _ | stop addr | romWrite addr _ | pcOverflow addr =>
    addr

/-- The opcode or the written value, for the faults that have one. -/
def byte? : Fault → Option UInt8
  | unknownOpcode _ byte | removedOpcode _ byte | romWrite _ byte => some byte
  | stop _ | pcOverflow _ => none

/-- The text of a fault, which names its address and byte. -/
def message : Fault → String
  | unknownOpcode addr opcode => s!"unknown opcode 0x{hexByte opcode} at 0x{hexWord addr}"
  | removedOpcode addr opcode => s!"removed opcode 0x{hexByte opcode} at 0x{hexWord addr}"
  | stop addr => s!"STOP at 0x{hexWord addr}"
  | romWrite addr value => s!"write of 0x{hexByte value} to ROM at 0x{hexWord addr}"
  | pcOverflow addr => s!"program counter overflowed to 0x{hexWord addr}"

end Fault

end GameBoy
