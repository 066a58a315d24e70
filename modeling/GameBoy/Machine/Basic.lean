import GameBoy.Bus.Access
import GameBoy.Cpu.Handler
import GameBoy.Cpu.State

/-!
# Processor and bus together

The machine joins a processor to a bus. Here are the actions that instructions are made of:
fetching immediates, reading and writing operands, and the stack, which grows downwards and holds
words with the high byte at the higher address.
-/

namespace GameBoy

/-- A processor and the bus that it works on. -/
structure Machine where
  cpu : Cpu
  bus : Bus

namespace Machine

/-- The machine that a bus makes with a new processor. -/
def new (bus : Bus) : Machine := { cpu := Cpu.new bus.bootMapped, bus }

/-- An action on the bus as one on the machine. -/
@[inline] def onBus {α : Type} (act : Action Bus α) : Action Machine α := fun m =>
  let done := act m.bus
  ⟨done.value, { m with bus := done.state }, done.events⟩

/-- Changes the processor alone. -/
@[inline] def modifyCpu (f : Cpu → Cpu) : Action Machine Unit :=
  .modify fun m => { m with cpu := f m.cpu }

/-- The registers. -/
@[inline] def registers : Action Machine Registers := fun m => ⟨m.cpu.registers, m, []⟩

/-- Changes the registers alone. -/
@[inline] def modifyRegisters (f : Registers → Registers) : Action Machine Unit :=
  modifyCpu fun cpu => { cpu with registers := f cpu.registers }

/-- Reads a byte from the bus. -/
def readByte (addr : UInt16) : Action Machine UInt8 := onBus (Bus.read addr)

/-- Writes a byte to the bus. -/
def writeByte (addr : UInt16) (v : UInt8) : Action Machine Unit := onBus (Bus.write addr v)

/-- Replaces the flags. -/
def setFlags (f : Flags) : Action Machine Unit := modifyRegisters fun r => { r with flags := f }

/-- Sets the accumulator and the flags together. -/
def setResult (result : UInt8 × Flags) : Action Machine Unit :=
  modifyRegisters fun r => { r with a := result.1, flags := result.2 }

/-- Goes on at an address. -/
def jumpTo (addr : UInt16) : Action Machine Unit := modifyRegisters fun r => { r with pc := addr }

/-- Reads the immediate byte at the program counter and records it. -/
def fetchByte : Action Machine UInt8 := do
  let pc := (← registers).pc
  let v ← readByte pc
  modifyCpu fun cpu =>
    { cpu with
      registers := { cpu.registers with pc := pc + 1 }
      last := { cpu.last with byte := some v } }
  return v

/-- Reads the immediate word at the program counter and records it. -/
def fetchWord : Action Machine UInt16 := do
  let pc := (← registers).pc
  let v ← onBus (Bus.readWord pc)
  modifyCpu fun cpu =>
    { cpu with
      registers := { cpu.registers with pc := pc + 2 }
      last := { cpu.last with word := some v } }
  return v

/-- The value of an operand. -/
def readOperand : Operand → Action Machine UInt8
  | .reg r => return (← registers).byte r
  | .atHl => do readByte (← registers).hl

/-- Replaces the value of an operand. -/
def writeOperand (operand : Operand) (v : UInt8) : Action Machine Unit :=
  match operand with
  | .reg r => modifyRegisters fun regs => regs.setByte r v
  | .atHl => do writeByte (← registers).hl v

/-- Pushes a word, its high byte first. -/
def push (v : UInt16) : Action Machine Unit := do
  let sp := (← registers).sp
  writeByte (sp - 1) (Word.high v)
  writeByte (sp - 2) (Word.low v)
  modifyRegisters fun r => { r with sp := sp - 2 }

/-- Pops the word that was pushed last. -/
def pop : Action Machine UInt16 := do
  let sp := (← registers).sp
  let v ← onBus (Bus.readWord sp)
  modifyRegisters fun r => { r with sp := sp + 2 }
  return v

/-- The address held in a pair, which may move HL. -/
def follow : Pointer → Action Machine UInt16
  | .bc => return (← registers).bc
  | .de => return (← registers).de
  | .hlInc => do
    let hl := (← registers).hl
    modifyRegisters Registers.incrementHl
    return hl
  | .hlDec => do
    let hl := (← registers).hl
    modifyRegisters Registers.decrementHl
    return hl

end Machine

end GameBoy
