import GameBoy.Cells
import GameBoy.Cpu.Encoding

/-!
# Opcode tables

The processor finds out what to do in two tables of handlers, one for the opcodes and one for the
bytes behind the extension opcode. A table starts with the same handler in every slot and is filled
by loops over slots. The first table starts with a handler that knows no instruction: a loop fills
in the families that take up whole blocks, single assignments follow, and the slots of the removed
opcodes come last. A handler serves several opcodes, so that it reads the fields of the one that
selected it: `y` from bits 5 to 3, `z` from bits 2 to 0, and `p` from bits 5 and 4.
-/

namespace GameBoy

/-- A table with one slot for each byte. -/
abbrev ByteTable (α : Type) : Type := Store α 8

namespace ByteTable

variable {α : Type}

/-- The entry in the slot of a byte. -/
def slot (t : ByteTable α) (b : UInt8) : α := t.get b.toNat

/-- Goes over slots in order and fills those that `f` has an entry for. -/
def sweep (t : ByteTable α) (slots : List Nat) (f : Nat → Option α) : ByteTable α :=
  slots.foldl (fun t n => match f n with
    | some a => t.set n a
    | none => t) t

/-- Fills several slots with one entry. -/
def assign (t : ByteTable α) (slots : List Nat) (a : α) : ByteTable α := sweep t slots fun _ => some a

end ByteTable

/-- The three bits of an opcode that select the first operand, the operation or the condition. -/
def fieldY (opcode : UInt8) : Nat := ((opcode >>> 3) &&& 7).toNat

/-- The three lowest bits of an opcode, which select the source. -/
def fieldZ (opcode : UInt8) : Nat := (opcode &&& 7).toNat

/-- The two bits of an opcode that select a pair or a pointer. -/
def fieldP (opcode : UInt8) : Nat := ((opcode >>> 4) &&& 3).toNat

/-- The handlers of the opcodes. -/
inductive Handler where
  | unknown | removed
  | nop | stop | halt | di | ei
  | load | loadImmediate | storeIndirect | loadIndirect
  | storeHigh | loadHigh | storeHighC | loadHighC | storeAbsolute | loadAbsolute
  | loadWord | storeSp | spFromHl | hlFromSp | push | pop
  | alu | aluImmediate | inc | dec | daa | cpl | scf | ccf | shiftA
  | incWord | decWord | addHl | addSp
  | jumpRelative | jumpRelativeIf | jump | jumpIf | jumpHl
  | call | callIf | ret | retIf | reti | restart
  | extension
  deriving DecidableEq, Repr

/-- The handlers of the bytes behind the extension opcode. -/
inductive ExtendedHandler where
  | shift | bit | res | set
  deriving DecidableEq, Repr

namespace ExtendedHandler

/-- The instruction that a handler makes of the byte that selected it. -/
def instruction (handler : ExtendedHandler) (byte : UInt8) : Instruction :=
  let r := Operand.ofIndex (fieldZ byte)
  match handler with
  | shift => .shift (ShiftOp.ofIndex (fieldY byte)) r
  | bit => .bit ((byte >>> 3) &&& 7) r
  | res => .res ((byte >>> 3) &&& 7) r
  | set => .set ((byte >>> 3) &&& 7) r

/-- The handler of a block behind the first. -/
def family (byte : Nat) : ExtendedHandler :=
  match byte >>> 6 with
  | 1 => bit
  | 2 => res
  | _ => set

/-- The table of the bytes behind the extension opcode. -/
def table : ByteTable ExtendedHandler :=
  ByteTable.sweep (.fill 8 shift) (List.range' 0x40 0xc0) fun n => some (family n)

end ExtendedHandler

namespace Handler

/-- The handlers of the families that share a layout of fields. -/
def family (opcode : Nat) : Option Handler :=
  match opcode >>> 6, opcode &&& 7 with
  | 0, 4 => some inc
  | 0, 5 => some dec
  | 0, 6 => some loadImmediate
  | 0, _ => none
  | 1, _ => some load
  | 2, _ => some alu
  | _, 6 => some aluImmediate
  | _, 7 => some restart
  | _, _ => none

/-- The handlers of single opcodes, in the order of their assignment. -/
def assignments : List (List Nat × Handler) :=
  [([0x00], nop), ([0x08], storeSp), ([0x10], stop), ([0x18], jumpRelative),
    ([0x20, 0x28, 0x30, 0x38], jumpRelativeIf),
    ([0x01, 0x11, 0x21, 0x31], loadWord), ([0x09, 0x19, 0x29, 0x39], addHl),
    ([0x02, 0x12, 0x22, 0x32], storeIndirect), ([0x0a, 0x1a, 0x2a, 0x3a], loadIndirect),
    ([0x03, 0x13, 0x23, 0x33], incWord), ([0x0b, 0x1b, 0x2b, 0x3b], decWord),
    ([0x07, 0x0f, 0x17, 0x1f], shiftA),
    ([0x27], daa), ([0x2f], cpl), ([0x37], scf), ([0x3f], ccf), ([0x76], halt),
    ([0xc0, 0xc8, 0xd0, 0xd8], retIf),
    ([0xe0], storeHigh), ([0xe8], addSp), ([0xf0], loadHigh), ([0xf8], hlFromSp),
    ([0xc1, 0xd1, 0xe1, 0xf1], pop),
    ([0xc9], ret), ([0xd9], reti), ([0xe9], jumpHl), ([0xf9], spFromHl),
    ([0xc2, 0xca, 0xd2, 0xda], jumpIf),
    ([0xe2], storeHighC), ([0xea], storeAbsolute), ([0xf2], loadHighC), ([0xfa], loadAbsolute),
    ([0xc3], jump), ([0xcb], extension), ([0xf3], di), ([0xfb], ei),
    ([0xc4, 0xcc, 0xd4, 0xdc], callIf),
    ([0xc5, 0xd5, 0xe5, 0xf5], push), ([0xcd], call)]

/-- The opcodes that this processor does not have. -/
def removedSlots : List Nat :=
  [0xd3, 0xdb, 0xdd, 0xe3, 0xe4, 0xeb, 0xec, 0xed, 0xf4, 0xfc, 0xfd]

/-- The condition in a field, of which only the two lower bits count. -/
def condition (y : Nat) : Condition := Condition.ofIndex (y &&& 3)

/-- The table of the opcodes. -/
def table : ByteTable Handler :=
  let families := ByteTable.sweep (.fill 8 unknown) (List.range 256) family
  let singles := assignments.foldl (fun t a => ByteTable.assign t a.1 a.2) families
  ByteTable.assign singles removedSlots removed

/-- What a handler makes of the opcode that selected it. -/
def encoding (handler : Handler) (opcode : UInt8) : Encoding :=
  let y := fieldY opcode
  let z := fieldZ opcode
  let p := fieldP opcode
  match handler with
  | unknown => .unknown
  | removed => .removed
  | nop => .bare .nop
  | stop => .bare .stop
  | halt => .bare .halt
  | di => .bare .di
  | ei => .bare .ei
  | load => .bare (.load (Operand.ofIndex y) (Operand.ofIndex z))
  | loadImmediate => .withByte (.loadImmediate (Operand.ofIndex y))
  | storeIndirect => .bare (.storeIndirect (Pointer.ofIndex p))
  | loadIndirect => .bare (.loadIndirect (Pointer.ofIndex p))
  | storeHigh => .withByte .storeHigh
  | loadHigh => .withByte .loadHigh
  | storeHighC => .bare .storeHighC
  | loadHighC => .bare .loadHighC
  | storeAbsolute => .withWord .storeAbsolute
  | loadAbsolute => .withWord .loadAbsolute
  | loadWord => .withWord (.loadWord (Encoding.pair p))
  | storeSp => .withWord .storeSp
  | spFromHl => .bare .spFromHl
  | hlFromSp => .withByte .hlFromSp
  | push => .bare (.push (Encoding.stackPair p))
  | pop => .bare (.pop (Encoding.stackPair p))
  | alu => .bare (.alu (AluOp.ofIndex y) (Operand.ofIndex z))
  | aluImmediate => .withByte (.aluImmediate (AluOp.ofIndex y))
  | inc => .bare (.inc (Operand.ofIndex y))
  | dec => .bare (.dec (Operand.ofIndex y))
  | daa => .bare .daa
  | cpl => .bare .cpl
  | scf => .bare .scf
  | ccf => .bare .ccf
  | shiftA => .bare (.shiftA (ShiftOp.ofIndex y))
  | incWord => .bare (.incWord (Encoding.pair p))
  | decWord => .bare (.decWord (Encoding.pair p))
  | addHl => .bare (.addHl (Encoding.pair p))
  | addSp => .withByte .addSp
  | jumpRelative => .withByte (.jumpRelative none)
  | jumpRelativeIf => .withByte (.jumpRelative (some (condition y)))
  | jump => .withWord (.jump none)
  | jumpIf => .withWord (.jump (some (condition y)))
  | jumpHl => .bare .jumpHl
  | call => .withWord (.call none)
  | callIf => .withWord (.call (some (condition y)))
  | ret => .bare (.ret none)
  | retIf => .bare (.ret (some (condition y)))
  | reti => .bare .reti
  | restart => .bare (.restart (UInt8.ofNat (8 * y)))
  | extension => .withByte fun byte => (ByteTable.slot ExtendedHandler.table byte).instruction byte

/-- What an opcode stands for, by the handler in its slot. -/
@[irreducible] def decode (opcode : UInt8) : Encoding := (ByteTable.slot table opcode).encoding opcode

end Handler

end GameBoy
