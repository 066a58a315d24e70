import GameBoy.Word

/-!
# Register file

Seven byte registers, the four flags and two word registers. The byte registers pair up into words,
and the flags, packed into a byte, are the low half of AF: the first letter of a pair's name is its
high byte. Of the packed flags only the upper nibble exists, so a byte written there keeps only its
upper nibble (`Flags.toByte_ofByte`).
-/

namespace GameBoy

/-- The flags: zero, subtraction, carry out of the low nibble, carry out of the whole. -/
structure Flags where
  zero : Bool := false
  subtract : Bool := false
  halfCarry : Bool := false
  carry : Bool := false
  deriving DecidableEq, Repr

namespace Flags

/-- The flags as a byte: zero in bit 7, then subtract, half carry and carry. -/
def toByte (f : Flags) : UInt8 :=
  (if f.zero then 0x80 else 0) ||| (if f.subtract then 0x40 else 0) |||
    (if f.halfCarry then 0x20 else 0) ||| (if f.carry then 0x10 else 0)

/-- The flags held in the upper nibble of a byte. -/
def ofByte (b : UInt8) : Flags where
  zero := b &&& 0x80 != 0
  subtract := b &&& 0x40 != 0
  halfCarry := b &&& 0x20 != 0
  carry := b &&& 0x10 != 0

/-- Packing the flags loses none of them. -/
@[simp] theorem ofByte_toByte (f : Flags) : ofByte f.toByte = f := by
  obtain ⟨z, n, h, c⟩ := f
  cases z <;> cases n <;> cases h <;> cases c <;> rfl

/-- Of a byte of flags only the upper nibble exists. -/
theorem toByte_ofByte (b : UInt8) : (ofByte b).toByte = b &&& 0xf0 := by
  revert b
  exact Word.forall_byte (by decide +kernel)

end Flags

/-- The registers of one byte; `f` stands for the packed flags. -/
inductive ByteRegister where
  | a | f | b | c | d | e | h | l
  deriving DecidableEq, Repr

namespace ByteRegister

/-- All byte registers, pair by pair. -/
def all : List ByteRegister := [.a, .f, .b, .c, .d, .e, .h, .l]

/-- The name in dumps. -/
def name : ByteRegister → String
  | .a => "A" | .f => "F" | .b => "B" | .c => "C"
  | .d => "D" | .e => "E" | .h => "H" | .l => "L"

end ByteRegister

/-- The registers of one word: the four pairs, the stack pointer and the program counter. -/
inductive WordRegister where
  | af | bc | de | hl | sp | pc
  deriving DecidableEq, Repr

namespace WordRegister

/-- All word registers, the pairs first. -/
def all : List WordRegister := [.af, .bc, .de, .hl, .sp, .pc]

/-- The name in dumps. -/
def name : WordRegister → String
  | .af => "AF" | .bc => "BC" | .de => "DE" | .hl => "HL" | .sp => "SP" | .pc => "PC"

end WordRegister

/-- The contents of the register file. -/
structure Registers where
  a : UInt8 := 0
  flags : Flags := {}
  b : UInt8 := 0
  c : UInt8 := 0
  d : UInt8 := 0
  e : UInt8 := 0
  h : UInt8 := 0
  l : UInt8 := 0
  sp : UInt16 := 0
  pc : UInt16 := 0
  deriving DecidableEq, Repr

namespace Registers

/-- The value of a byte register. -/
def byte (r : Registers) : ByteRegister → UInt8
  | .a => r.a | .f => r.flags.toByte | .b => r.b | .c => r.c
  | .d => r.d | .e => r.e | .h => r.h | .l => r.l

/-- Replaces a byte register; of the packed flags only the upper nibble is taken. -/
def setByte (r : Registers) (which : ByteRegister) (v : UInt8) : Registers :=
  match which with
  | .a => { r with a := v }
  | .f => { r with flags := Flags.ofByte v }
  | .b => { r with b := v }
  | .c => { r with c := v }
  | .d => { r with d := v }
  | .e => { r with e := v }
  | .h => { r with h := v }
  | .l => { r with l := v }

def af (r : Registers) : UInt16 := Word.join r.a r.flags.toByte
def bc (r : Registers) : UInt16 := Word.join r.b r.c
def de (r : Registers) : UInt16 := Word.join r.d r.e
def hl (r : Registers) : UInt16 := Word.join r.h r.l

/-- The value of a word register. -/
def word (r : Registers) : WordRegister → UInt16
  | .af => r.af | .bc => r.bc | .de => r.de | .hl => r.hl | .sp => r.sp | .pc => r.pc

/-- Replaces HL. -/
def setHl (r : Registers) (v : UInt16) : Registers :=
  { r with h := Word.high v, l := Word.low v }

/-- Replaces a word register; the low half of AF is taken as packed flags. -/
def setWord (r : Registers) (which : WordRegister) (v : UInt16) : Registers :=
  match which with
  | .af => { r with a := Word.high v, flags := Flags.ofByte (Word.low v) }
  | .bc => { r with b := Word.high v, c := Word.low v }
  | .de => { r with d := Word.high v, e := Word.low v }
  | .hl => r.setHl v
  | .sp => { r with sp := v }
  | .pc => { r with pc := v }

/-- Replaces the high byte of a word register. -/
def setHigh (r : Registers) (which : WordRegister) (v : UInt8) : Registers :=
  r.setWord which (Word.join v (Word.low (r.word which)))

/-- Replaces the low byte of a word register; the low byte of AF is the packed flags. -/
def setLow (r : Registers) (which : WordRegister) (v : UInt8) : Registers :=
  r.setWord which (Word.join (Word.high (r.word which)) v)

/-- Moves HL on to the next address, from the last one to the first. -/
def incrementHl (r : Registers) : Registers := r.setHl (r.hl + 1)

/-- Moves HL back to the previous address, from the first one to the last. -/
def decrementHl (r : Registers) : Registers := r.setHl (r.hl - 1)

end Registers

end GameBoy
