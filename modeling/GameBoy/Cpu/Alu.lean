import GameBoy.Cpu.Registers

/-!
# Arithmetic and logic

Every operation returns its result together with all four flags; one that keeps a flag takes the
old flags and hands that one on. Half carry is the carry out of, or the borrow into, the low nibble
of the byte that an operation works on, and for word additions that of the high byte.
-/

namespace GameBoy

/-- The operations between the accumulator and an operand. -/
inductive AluOp where
  | add | adc | sub | sbc | and | xor | or | cp
  deriving DecidableEq, Repr

/-- The rotations and shifts of a byte. -/
inductive ShiftOp where
  | rlc | rrc | rl | rr | sla | sra | swap | srl
  deriving DecidableEq, Repr

namespace Alu

/-- Carry as a summand. -/
def carryIn (carry : Bool) : UInt8 := if carry then 1 else 0

/-- Adds two bytes and the carry. -/
def add (a n : UInt8) (carry : Bool) : UInt8 × Flags :=
  let c := carryIn carry
  let result := a + n + c
  (result, {
    zero := result == 0
    halfCarry := (a &&& 0xf) + (n &&& 0xf) + c > 0xf
    carry := a.toUInt16 + n.toUInt16 + c.toUInt16 > 0xff })

/-- Subtracts a byte and the carry; both carries tell of a borrow. -/
def sub (a n : UInt8) (carry : Bool) : UInt8 × Flags :=
  let c := carryIn carry
  let result := a - n - c
  (result, {
    zero := result == 0
    subtract := true
    halfCarry := (a &&& 0xf) < (n &&& 0xf) + c
    carry := a.toUInt16 < n.toUInt16 + c.toUInt16 })

/-- Joins two bytes bit by bit; half carry is always set. -/
def and (a n : UInt8) : UInt8 × Flags :=
  (a &&& n, { zero := a &&& n == 0, halfCarry := true })

def xor (a n : UInt8) : UInt8 × Flags := (a ^^^ n, { zero := a ^^^ n == 0 })

def or (a n : UInt8) : UInt8 × Flags := (a ||| n, { zero := a ||| n == 0 })

/-- Adds one and keeps the carry. -/
def inc (v : UInt8) (flags : Flags) : UInt8 × Flags :=
  (v + 1, { zero := v + 1 == 0, halfCarry := v &&& 0xf == 0xf, carry := flags.carry })

/-- Subtracts one and keeps the carry. -/
def dec (v : UInt8) (flags : Flags) : UInt8 × Flags :=
  (v - 1, {
    zero := v - 1 == 0, subtract := true, halfCarry := v &&& 0xf == 0, carry := flags.carry })

/-- Adds two words; zero is kept, and half carry is the carry out of bit 11. -/
def addWord (m n : UInt16) (flags : Flags) : UInt16 × Flags :=
  (m + n, {
    zero := flags.zero
    halfCarry := (m &&& 0xfff) + (n &&& 0xfff) > 0xfff
    carry := m.toUInt32 + n.toUInt32 > 0xffff })

/-- Adds a displacement to a stack pointer; the flags are those of the unsigned addition of the
low bytes, with zero clear. -/
def addDisplacement (sp : UInt16) (e : UInt8) : UInt16 × Flags :=
  (sp + Word.signed e, {
    halfCarry := (sp &&& 0xf) + (e.toUInt16 &&& 0xf) > 0xf
    carry := (sp &&& 0xff) + e.toUInt16 > 0xff })

/-- Corrects the result of a decimal addition or subtraction: the flags tell which one it was and
which digits overflowed. -/
def daa (a : UInt8) (flags : Flags) : UInt8 × Flags :=
  let high := if flags.subtract then flags.carry else flags.carry || a > 0x99
  let low := if flags.subtract then flags.halfCarry else flags.halfCarry || a &&& 0xf > 0x9
  let adjust : UInt8 := (if high then 0x60 else 0) ||| (if low then 0x06 else 0)
  let result := if flags.subtract then a - adjust else a + adjust
  (result, { zero := result == 0, subtract := flags.subtract, carry := high })

/-- Tests a bit: zero tells that it is clear, and carry is kept. -/
def testBit (bit v : UInt8) (flags : Flags) : Flags :=
  { zero := v &&& (1 <<< bit) == 0, halfCarry := true, carry := flags.carry }

end Alu

/-- The new accumulator and flags; a comparison leaves the accumulator alone. -/
def AluOp.apply (op : AluOp) (a n : UInt8) (carry : Bool) : UInt8 × Flags :=
  match op with
  | .add => Alu.add a n false
  | .adc => Alu.add a n carry
  | .sub => Alu.sub a n false
  | .sbc => Alu.sub a n carry
  | .and => Alu.and a n
  | .xor => Alu.xor a n
  | .or => Alu.or a n
  | .cp => (a, (Alu.sub a n false).2)

namespace ShiftOp

/-- The shifted byte and the bit that leaves it; a swap loses none. -/
def move (op : ShiftOp) (v : UInt8) (carry : Bool) : UInt8 × Bool :=
  let c := Alu.carryIn carry
  match op with
  | .rlc => ((v <<< 1) ||| (v >>> 7), v >>> 7 == 1)
  | .rrc => ((v >>> 1) ||| (v <<< 7), v &&& 1 == 1)
  | .rl => ((v <<< 1) ||| c, v >>> 7 == 1)
  | .rr => ((v >>> 1) ||| (c <<< 7), v &&& 1 == 1)
  | .sla => (v <<< 1, v >>> 7 == 1)
  | .sra => ((v >>> 1) ||| (v &&& 0x80), v &&& 1 == 1)
  | .swap => ((v <<< 4) ||| (v >>> 4), false)
  | .srl => (v >>> 1, v &&& 1 == 1)

/-- Shifts a byte; carry is the bit that leaves it. -/
def apply (op : ShiftOp) (v : UInt8) (carry : Bool) : UInt8 × Flags :=
  let (result, out) := op.move v carry
  (result, { zero := result == 0, carry := out })

/-- Shifts the accumulator: as `apply`, with zero always clear. -/
def applyToA (op : ShiftOp) (a : UInt8) (carry : Bool) : UInt8 × Flags :=
  let (result, flags) := op.apply a carry
  (result, { flags with zero := false })

end ShiftOp

end GameBoy
