import GameBoy.Cpu.Mnemonic

/-!
# The record of the last instruction
-/

namespace GameBoy

/-- The instruction fetched last, with the immediates read for it. For an extended instruction the
byte is its second opcode. -/
structure LastInstruction where
  addr : UInt16 := 0
  opcode : UInt8 := 0
  byte : Option UInt8 := none
  word : Option UInt16 := none
  deriving DecidableEq, Repr

/-- The text of the recorded instruction, in which an immediate that was not read is zero. -/
def LastInstruction.mnemonic (last : LastInstruction) : String :=
  GameBoy.mnemonic last.addr last.opcode (last.byte.getD 0) (last.word.getD 0)

end GameBoy
