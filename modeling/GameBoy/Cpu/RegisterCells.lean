import GameBoy.Cpu.Registers

/-!
# Register cells

The register file as it is stored: six cells of one word each, whose halves are registers as well.
The low half of AF is the byte of the flags, of which only the upper nibble is backed by hardware.
So writes that reach it clear its lower nibble, whether they are for the whole cell, for its low half
or for the flags by name; a write to the high half of AF leaves the low one as it is.
-/

namespace GameBoy

/-- The bits of the flags that exist. -/
def Flags.mask : UInt8 := 0xf0

/-- The two bytes of a word. -/
inductive Half where
  | high | low
  deriving DecidableEq, Repr

/-- A byte of a word. -/
def Word.half (w : UInt16) : Half → UInt8
  | .high => high w
  | .low => low w

/-- A half of a word register. -/
abbrev Place := WordRegister × Half

/-- The half that a byte register is. -/
def ByteRegister.place : ByteRegister → Place
  | a => (.af, .high) | f => (.af, .low)
  | b => (.bc, .high) | c => (.bc, .low)
  | d => (.de, .high) | e => (.de, .low)
  | h => (.hl, .high) | l => (.hl, .low)

/-- The cell that a word register is. -/
def WordRegister.cell : WordRegister → Fin 6
  | af => ⟨0, by decide⟩
  | bc => ⟨1, by decide⟩
  | de => ⟨2, by decide⟩
  | hl => ⟨3, by decide⟩
  | sp => ⟨4, by decide⟩
  | pc => ⟨5, by decide⟩

/-- The stored words. -/
structure RegisterCells where
  cells : Vector UInt16 6
  deriving DecidableEq, Repr

namespace RegisterCells

/-- The cells of a new register file. -/
def new : RegisterCells := ⟨Vector.replicate 6 0⟩

/-- The content of a cell. -/
def word (r : RegisterCells) (q : WordRegister) : UInt16 := r.cells.get q.cell

/-- Replaces the content of a cell, whatever the word is. -/
def store (r : RegisterCells) (q : WordRegister) (v : UInt16) : RegisterCells :=
  ⟨r.cells.set q.cell v q.cell.isLt⟩

/-- Replaces a word register; the flags keep the bits that exist. -/
def setWord (r : RegisterCells) (q : WordRegister) (v : UInt16) : RegisterCells :=
  r.store q (if q = .af then v &&& (0xff00 ||| Flags.mask.toUInt16) else v)

/-- The high byte of a cell. -/
def high (r : RegisterCells) (q : WordRegister) : UInt8 := (r.word q >>> 8).toUInt8

/-- The low byte of a cell. -/
def low (r : RegisterCells) (q : WordRegister) : UInt8 := (r.word q &&& 0xff).toUInt8

/-- Replaces the high byte of a cell. -/
def setHigh (r : RegisterCells) (q : WordRegister) (v : UInt8) : RegisterCells :=
  r.store q ((r.word q &&& (0x00ff : UInt16)) ||| (v.toUInt16 <<< 8))

/-- Replaces the low byte of a cell; the flags keep the bits that exist. -/
def setLow (r : RegisterCells) (q : WordRegister) (v : UInt8) : RegisterCells :=
  let v := if q = .af then v &&& Flags.mask else v
  r.store q ((r.word q &&& 0xff00) ||| v.toUInt16)

/-- A half of a cell. -/
def half (r : RegisterCells) : Place → UInt8
  | (q, .high) => r.high q
  | (q, .low) => r.low q

/-- Replaces a half of a cell. -/
def setHalf (r : RegisterCells) (x : Place) (v : UInt8) : RegisterCells :=
  match x with
  | (q, .high) => r.setHigh q v
  | (q, .low) => r.setLow q v

/-- The value of a byte register. -/
def byte (r : RegisterCells) (q : ByteRegister) : UInt8 := r.half q.place

/-- Replaces a byte register. -/
def setByte (r : RegisterCells) (q : ByteRegister) (v : UInt8) : RegisterCells :=
  r.setHalf q.place v

/-- The accumulator. -/
def a (r : RegisterCells) : UInt8 := r.high .af

/-- Replaces the accumulator. -/
def setA (r : RegisterCells) (v : UInt8) : RegisterCells := r.setHigh .af v

/-- The flags, in one byte. -/
def f (r : RegisterCells) : UInt8 := r.low .af

/-- Replaces the flags by those of a byte. -/
def setF (r : RegisterCells) (v : UInt8) : RegisterCells := r.setLow .af v

def hl (r : RegisterCells) : UInt16 := r.word .hl

/-- Moves HL on to the next address, from the last one to the first. -/
def incrementHl (r : RegisterCells) : RegisterCells := r.setWord .hl (r.hl + 1)

/-- Moves HL back to the previous address, from the first one to the last. -/
def decrementHl (r : RegisterCells) : RegisterCells := r.setWord .hl (r.hl - 1)

/-- The zero flag. -/
def zero (r : RegisterCells) : Bool := r.f &&& 0x80 != 0

/-- The flag of a subtraction. -/
def subtract (r : RegisterCells) : Bool := r.f &&& 0x40 != 0

/-- The flag of a carry out of the low nibble. -/
def halfCarry (r : RegisterCells) : Bool := r.f &&& 0x20 != 0

/-- The flag of a carry out of the whole. -/
def carry (r : RegisterCells) : Bool := r.f &&& 0x10 != 0

end RegisterCells

/-- The cells in which a register file is stored. -/
def Registers.cells (r : Registers) : RegisterCells :=
  ⟨#v[r.af, r.bc, r.de, r.hl, r.sp, r.pc]⟩

end GameBoy
