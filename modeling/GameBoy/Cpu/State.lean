import GameBoy.Cpu.LastInstruction
import GameBoy.Cpu.Registers
import GameBoy.Fault

/-!
# The processor

Besides its registers the processor keeps what it owes: an instruction takes effect at once, and
its price is paid in the following ticks, one clock cycle each. What is owed is a word of 32 bits,
`debt`; as a number it is `owed`.
-/

namespace GameBoy

open Text

/-- The state of the processor. -/
structure Cpu where
  registers : Registers := {}
  /-- Interrupt master enable. -/
  ime : Bool := false
  halted : Bool := false
  /-- The clock cycles still to be paid, in a word of 32 bits. -/
  debt : UInt32 := 0
  last : LastInstruction := {}
  /-- The price of the last executed instruction. -/
  lastCost : Nat := 0
  fault : Option Fault := none
  /-- All clock cycles charged so far, dispatches included. -/
  cycles : Nat := 0
  /-- How many instructions were executed. -/
  instructions : Nat := 0
  deriving DecidableEq, Repr

namespace Cpu

/-- Where a cartridge is entered without a boot image. -/
def cartridgeEntry : UInt16 := 0x100

/-- A processor about to enter the boot image, or the cartridge. -/
def new (bootMapped : Bool) : Cpu :=
  { registers := { pc := if bootMapped then 0 else cartridgeEntry } }

/-- Whether the processor stopped for good. -/
def isPanicked (cpu : Cpu) : Bool := cpu.fault.isSome

/-- The number of clock cycles still to be paid. -/
def owed (cpu : Cpu) : Nat := cpu.debt.toNat

/-- Whether the next tick executes an instruction. -/
def isReady (cpu : Cpu) : Bool := !cpu.halted && cpu.debt == 0

/-- Whether the processor is halted and owes nothing, so that only an interrupt moves it on. -/
def isIdle (cpu : Cpu) : Bool := cpu.halted && cpu.debt == 0

/-- The processor after executing an instruction of the given price. -/
def charge (cpu : Cpu) (cost : Nat) : Cpu :=
  { cpu with
    debt := UInt32.ofNat cost, lastCost := cost, cycles := cpu.cycles + cost
    instructions := cpu.instructions + 1 }

/-- The processor after paying one cycle, if it owes any. -/
def pay (cpu : Cpu) : Cpu :=
  { cpu with debt := if cpu.debt > 0 then cpu.debt - 1 else cpu.debt }

/-- Nothing is owed in a word if and only if nothing is owed as a number. -/
theorem debt_eq_zero_iff {cpu : Cpu} : cpu.debt = 0 ↔ cpu.owed = 0 :=
  UInt32.toNat_inj.symm

/-- An instruction is due if the processor is not halted and owes nothing. -/
theorem isReady_iff {cpu : Cpu} : cpu.isReady = true ↔ cpu.halted = false ∧ cpu.owed = 0 := by
  simp [isReady, debt_eq_zero_iff]

/-- A halted processor that owes nothing is idle. -/
theorem isIdle_iff {cpu : Cpu} : cpu.isIdle = true ↔ cpu.halted = true ∧ cpu.owed = 0 := by
  simp [isIdle, debt_eq_zero_iff]

/-- A payment that nothing is owed for is none. -/
theorem owed_pay (cpu : Cpu) : cpu.pay.owed = cpu.owed - 1 := by
  simp only [owed, pay]
  split
  · next h => exact UInt32.toNat_sub_of_le _ _ (UInt32.lt_iff_toNat_lt.mp h)
  · next h =>
    have h0 : ¬0 < cpu.debt.toNat := fun hlt => h (UInt32.lt_iff_toNat_lt.mpr hlt)
    omega

/-- A payment changes what is owed and nothing else. -/
theorem pay_eq (cpu : Cpu) : cpu.pay = { cpu with debt := UInt32.ofNat (cpu.owed - 1) } := by
  rw [← owed_pay, owed, UInt32.ofNat_toNat]
  rfl

/-- A truth value as a digit. -/
def digitOf (b : Bool) : String := if b then "1" else "0"

/-- The full state of the registers and the last instruction, in several lines. -/
def dump (cpu : Cpu) : String :=
  let r := cpu.registers
  let byteLine (which : ByteRegister) : String :=
    let v := r.byte which
    s!"{which.name}: {padLeft 3 v.toNat} 0x{hexByte v} 0b{binByte v}\n"
  let wordText (which : WordRegister) : String := s!"{which.name}: 0x{hexWord (r.word which)}"
  let f := r.flags
  String.join (ByteRegister.all.map byteLine)
    ++ " ".intercalate (WordRegister.all.map wordText) ++ "\n"
    ++ s!"Z: {digitOf f.zero} N: {digitOf f.subtract} H: {digitOf f.halfCarry} "
    ++ s!"C: {digitOf f.carry} IME: {digitOf cpu.ime} HALT: {digitOf cpu.halted}\n"
    ++ s!"Last instruction 0x{hexByte cpu.last.opcode} at adr 0x{hexWord cpu.last.addr}: "
    ++ cpu.last.mnemonic

end Cpu

end GameBoy
