import GameBoy.Cpu.Alu

/-!
# Instructions

An instruction names what it works on and carries its immediates. `cost` is its price in clock
cycles, where the conditional ones are cheaper if their condition fails.
-/

namespace GameBoy

/-- What a byte instruction works on: a register, or the memory cell that HL points to. -/
inductive Operand where
  | reg (r : ByteRegister)
  | atHl
  deriving DecidableEq, Repr

/-- A condition on the flags. -/
inductive Condition where
  | nz | z | nc | c
  deriving DecidableEq, Repr

/-- An address held in a pair; the last two move HL on or back after it is used. -/
inductive Pointer where
  | bc | de | hlInc | hlDec
  deriving DecidableEq, Repr

/-- An instruction with its operands and immediates. -/
inductive Instruction where
  | nop
  | stop
  | halt
  | di
  | ei
  /-- Copies a byte operand. -/
  | load (dst src : Operand)
  | loadImmediate (dst : Operand) (n : UInt8)
  /-- The accumulator to and from an address held in a pair. -/
  | storeIndirect (target : Pointer)
  | loadIndirect (source : Pointer)
  /-- The accumulator to and from the last page, at an offset given or held in C. -/
  | storeHigh (n : UInt8)
  | loadHigh (n : UInt8)
  | storeHighC
  | loadHighC
  /-- The accumulator to and from a given address. -/
  | storeAbsolute (nn : UInt16)
  | loadAbsolute (nn : UInt16)
  | loadWord (r : WordRegister) (nn : UInt16)
  | storeSp (nn : UInt16)
  | spFromHl
  | hlFromSp (e : UInt8)
  | push (r : WordRegister)
  | pop (r : WordRegister)
  | alu (op : AluOp) (src : Operand)
  | aluImmediate (op : AluOp) (n : UInt8)
  | inc (r : Operand)
  | dec (r : Operand)
  | daa
  | cpl
  | scf
  | ccf
  /-- Shifts the accumulator without setting the zero flag. -/
  | shiftA (op : ShiftOp)
  | incWord (r : WordRegister)
  | decWord (r : WordRegister)
  | addHl (r : WordRegister)
  | addSp (e : UInt8)
  /-- Jumps by a displacement from the next instruction. -/
  | jumpRelative (cc : Option Condition) (e : UInt8)
  | jump (cc : Option Condition) (nn : UInt16)
  | jumpHl
  | call (cc : Option Condition) (nn : UInt16)
  | ret (cc : Option Condition)
  | reti
  /-- Calls one of the eight fixed addresses. -/
  | restart (target : UInt8)
  | shift (op : ShiftOp) (r : Operand)
  | bit (i : UInt8) (r : Operand)
  | res (i : UInt8) (r : Operand)
  | set (i : UInt8) (r : Operand)
  deriving DecidableEq, Repr

/-- Whether the flags meet a condition. -/
def Condition.holds (cc : Condition) (flags : Flags) : Bool :=
  match cc with
  | .nz => !flags.zero
  | .z => flags.zero
  | .nc => !flags.carry
  | .c => flags.carry

/-- Whether the flags let a transfer of control happen; one without a condition always does. -/
def Condition.allows (cc : Option Condition) (flags : Flags) : Bool :=
  match cc with
  | none => true
  | some cc => cc.holds flags

/-- One of two prices, the second for the memory cell. -/
def Operand.price (r : Operand) (register memory : Nat) : Nat :=
  match r with
  | .reg _ => register
  | .atHl => memory

/-- The price of an instruction under the flags it meets. -/
def Instruction.cost (i : Instruction) (flags : Flags) : Nat :=
  match i with
  | nop | stop | halt | di | ei => 4
  | load dst src => max (dst.price 4 8) (src.price 4 8)
  | loadImmediate dst _ => dst.price 8 12
  | storeIndirect _ | loadIndirect _ | storeHighC | loadHighC => 8
  | storeHigh _ | loadHigh _ => 12
  | storeAbsolute _ | loadAbsolute _ => 16
  | loadWord _ _ => 12
  | storeSp _ => 20
  | spFromHl => 8
  | hlFromSp _ => 12
  | push _ => 16
  | pop _ => 12
  | alu _ src => src.price 4 8
  | aluImmediate _ _ => 8
  | inc r | dec r => r.price 4 12
  | daa | cpl | scf | ccf | shiftA _ => 4
  | incWord _ | decWord _ | addHl _ => 8
  | addSp _ => 16
  | jumpRelative cc _ => if Condition.allows cc flags then 12 else 8
  | jump cc _ => if Condition.allows cc flags then 16 else 12
  | jumpHl => 4
  | call cc _ => if Condition.allows cc flags then 24 else 12
  | ret none | reti => 16
  | ret (some cc) => if cc.holds flags then 20 else 8
  | restart _ => 16
  | shift _ r | res _ r | set _ r => r.price 8 16
  | bit _ r => r.price 8 12

end GameBoy
