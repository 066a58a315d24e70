import GameBoy.Cpu.Instruction

/-!
# Opcodes

An opcode stands for an instruction, or for a family of them that the byte or the word behind it
selects from. It is read as three fields: its upper two bits give the block, the middle three bits
`y` and the lower three bits `z` select within the block. Eleven opcodes stand for nothing. The
processor decodes by its tables of handlers and the listing by its names; this reading is what both
are compared with.
-/

namespace GameBoy

/-- What an opcode stands for: nothing that is known, nothing on this processor, or an instruction
with the immediates that select it. -/
inductive Encoding where
  | unknown
  | removed
  | bare (i : Instruction)
  | withByte (f : UInt8 → Instruction)
  | withWord (f : UInt16 → Instruction)

/-- The operand that a field of three bits names. -/
def Operand.ofIndex : Nat → Operand
  | 0 => .reg .b | 1 => .reg .c | 2 => .reg .d | 3 => .reg .e
  | 4 => .reg .h | 5 => .reg .l | 6 => .atHl | _ => .reg .a

/-- The condition that a field of two bits names. -/
def Condition.ofIndex : Nat → Condition
  | 0 => .nz | 1 => .z | 2 => .nc | _ => .c

/-- The pointer that a field of two bits names. -/
def Pointer.ofIndex : Nat → Pointer
  | 0 => .bc | 1 => .de | 2 => .hlInc | _ => .hlDec

/-- The operation that a field of three bits names. -/
def AluOp.ofIndex : Nat → AluOp
  | 0 => .add | 1 => .adc | 2 => .sub | 3 => .sbc
  | 4 => .and | 5 => .xor | 6 => .or | _ => .cp

/-- The shift that a field of three bits names. -/
def ShiftOp.ofIndex : Nat → ShiftOp
  | 0 => .rlc | 1 => .rrc | 2 => .rl | 3 => .rr
  | 4 => .sla | 5 => .sra | 6 => .swap | _ => .srl

namespace Encoding

/-- The pairs of arithmetic and word loads. -/
def pair : Nat → WordRegister
  | 0 => .bc | 1 => .de | 2 => .hl | _ => .sp

/-- The pairs that can be pushed and popped. -/
def stackPair : Nat → WordRegister
  | 0 => .bc | 1 => .de | 2 => .hl | _ => .af

/-- The instruction behind the extension opcode: shifts, then bit tests, resets and sets. -/
def extended (byte : UInt8) : Instruction :=
  let y := byte.toNat / 8 % 8
  let r := Operand.ofIndex (byte.toNat % 8)
  match byte.toNat / 64 with
  | 0 => .shift (ShiftOp.ofIndex y) r
  | 1 => .bit (UInt8.ofNat y) r
  | 2 => .res (UInt8.ofNat y) r
  | _ => .set (UInt8.ofNat y) r

/-- Block 0: loads of pairs and immediates, counting, word arithmetic, relative jumps. -/
def block0 (y z : Nat) : Encoding :=
  match z, y with
  | 0, 0 => bare .nop
  | 0, 1 => withWord .storeSp
  | 0, 2 => bare .stop
  | 0, 3 => withByte (.jumpRelative none)
  | 0, _ => withByte (.jumpRelative (some (Condition.ofIndex (y - 4))))
  | 1, _ => if y % 2 = 0 then withWord (.loadWord (pair (y / 2))) else bare (.addHl (pair (y / 2)))
  | 2, _ =>
    let p := Pointer.ofIndex (y / 2)
    if y % 2 = 0 then bare (.storeIndirect p) else bare (.loadIndirect p)
  | 3, _ => if y % 2 = 0 then bare (.incWord (pair (y / 2))) else bare (.decWord (pair (y / 2)))
  | 4, _ => bare (.inc (Operand.ofIndex y))
  | 5, _ => bare (.dec (Operand.ofIndex y))
  | 6, _ => withByte (.loadImmediate (Operand.ofIndex y))
  | _, 4 => bare .daa
  | _, 5 => bare .cpl
  | _, 6 => bare .scf
  | _, 7 => bare .ccf
  | _, _ => bare (.shiftA (ShiftOp.ofIndex y))

/-- Block 3: transfers of control, the stack, the last page, arithmetic on an immediate. -/
def block3 (y z : Nat) : Encoding :=
  match z, y with
  | 0, 4 => withByte .storeHigh
  | 0, 5 => withByte .addSp
  | 0, 6 => withByte .loadHigh
  | 0, 7 => withByte .hlFromSp
  | 0, _ => bare (.ret (some (Condition.ofIndex y)))
  | 1, 1 => bare (.ret none)
  | 1, 3 => bare .reti
  | 1, 5 => bare .jumpHl
  | 1, 7 => bare .spFromHl
  | 1, _ => bare (.pop (stackPair (y / 2)))
  | 2, 4 => bare .storeHighC
  | 2, 5 => withWord .storeAbsolute
  | 2, 6 => bare .loadHighC
  | 2, 7 => withWord .loadAbsolute
  | 2, _ => withWord (.jump (some (Condition.ofIndex y)))
  | 3, 0 => withWord (.jump none)
  | 3, 1 => withByte extended
  | 3, 6 => bare .di
  | 3, 7 => bare .ei
  | 3, _ => removed
  | 4, _ => if y < 4 then withWord (.call (some (Condition.ofIndex y))) else removed
  | 5, 1 => withWord (.call none)
  | 5, _ => if y % 2 = 0 then bare (.push (stackPair (y / 2))) else removed
  | 6, _ => withByte (.aluImmediate (AluOp.ofIndex y))
  | _, _ => bare (.restart (UInt8.ofNat (8 * y)))

/-- What an opcode stands for, by its fields. Copying the cell at HL onto itself is halting. -/
def ofOpcode (opcode : UInt8) : Encoding :=
  let y := opcode.toNat / 8 % 8
  let z := opcode.toNat % 8
  match opcode.toNat / 64 with
  | 0 => block0 y z
  | 1 => bare (if y = 6 ∧ z = 6 then .halt else .load (Operand.ofIndex y) (Operand.ofIndex z))
  | 2 => bare (.alu (AluOp.ofIndex y) (Operand.ofIndex z))
  | _ => block3 y z

/-- The instruction that the immediates select, if the opcode stands for any. -/
def complete (encoding : Encoding) (byte : UInt8) (word : UInt16) : Option Instruction :=
  match encoding with
  | unknown | removed => none
  | bare i => some i
  | withByte f => some (f byte)
  | withWord f => some (f word)

end Encoding

end GameBoy
