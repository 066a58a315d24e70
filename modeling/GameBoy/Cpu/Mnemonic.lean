import GameBoy.Text.Hex

/-!
# Mnemonics

The text of an instruction, read off its bytes without executing it. The opcode is taken apart into
its fields once more, into `x`, `y` and `z` and for some `y` into `p` and `q`, and the fields select
from tables of names. Immediates are shown with all their digits, displacements of the stack pointer in
decimal, and a relative jump by its target, which is counted from the end of the two bytes of the
jump.
-/

namespace GameBoy

open Text

namespace Names

/-- The byte operands. -/
def operands : List String := ["B", "C", "D", "E", "H", "L", "(HL)", "A"]

/-- The pairs of arithmetic and word loads. -/
def pairs : List String := ["BC", "DE", "HL", "SP"]

/-- The pairs that can be pushed and popped. -/
def stackPairs : List String := ["BC", "DE", "HL", "AF"]

/-- The conditions of jumps, calls and returns. -/
def conditions : List String := ["NZ", "Z", "NC", "C"]

/-- The operations with what stands before their operand; some name the accumulator. -/
def operations : List String :=
  ["ADD A, ", "ADC A, ", "SUB ", "SBC A, ", "AND ", "XOR ", "OR ", "CP "]

/-- The shifts behind the extension opcode. -/
def shifts : List String := ["RLC", "RRC", "RL", "RR", "SLA", "SRA", "SWAP", "SRL"]

/-- The shifts of the accumulator. -/
def shiftsOfA : List String := ["RLCA", "RRCA", "RLA", "RRA"]

/-- The other operations on the accumulator and the flags. -/
def adjustments : List String := ["DAA", "CPL", "SCF", "CCF"]

/-- The pairs that point to a cell. -/
def pointers : List String := ["(BC)", "(DE)", "(HL+)", "(HL-)"]

/-- A name by its number. -/
def pick (names : List String) (i : Nat) : String := names.getD i ""

end Names

/-- The target of a relative jump that stands at `addr`. -/
def relativeTarget (addr : UInt16) (e : UInt8) : UInt16 := addr + 2 + Word.signed e

/-- The text of an opcode that stands for nothing. -/
def unknownText (opcode : UInt8) : String := "unknown instruction 0x" ++ hexByte opcode

open Names

/-- The text of the byte behind the extension opcode. -/
def extendedText (byte : UInt8) : String :=
  let y := ((byte >>> 3) &&& 7).toNat
  let r := pick operands (byte &&& 7).toNat
  match (byte >>> 6).toNat with
  | 0 => pick shifts y ++ " " ++ r
  | 1 => "BIT " ++ toString y ++ ", " ++ r
  | 2 => "RES " ++ toString y ++ ", " ++ r
  | _ => "SET " ++ toString y ++ ", " ++ r

/-- The mnemonic of an opcode fetched at `addr`, with the byte and the word that may follow it. -/
def mnemonic (addr : UInt16) (opcode byte : UInt8) (word : UInt16) : String :=
  if opcode == 0xcb then extendedText byte
  else
    let x := (opcode >>> 6).toNat
    let y := ((opcode >>> 3) &&& 7).toNat
    let z := (opcode &&& 7).toNat
    let p := y >>> 1
    let q := y &&& 1 == 1
    let n := "0x" ++ hexByte byte
    let nn := "0x" ++ hexWord word
    let target := "0x" ++ hexWord (relativeTarget addr byte)
    match x, z with
    | 0, 0 =>
      match y with
      | 0 => "NOP"
      | 1 => "LD (" ++ nn ++ "), SP"
      | 2 => "STOP"
      | 3 => "JR " ++ target
      | _ => "JR " ++ pick conditions (y - 4) ++ ", " ++ target
    | 0, 1 =>
      if q then "ADD HL, " ++ pick pairs p
      else "LD " ++ pick pairs p ++ ", " ++ nn
    | 0, 2 =>
      if q then "LD A, " ++ pick pointers p
      else "LD " ++ pick pointers p ++ ", A"
    | 0, 3 =>
      if q then "DEC " ++ pick pairs p
      else "INC " ++ pick pairs p
    | 0, 4 => "INC " ++ pick operands y
    | 0, 5 => "DEC " ++ pick operands y
    | 0, 6 => "LD " ++ pick operands y ++ ", " ++ n
    | 0, _ => if y < 4 then pick shiftsOfA y else pick adjustments (y - 4)
    | 1, _ =>
      if z == 6 && y == 6 then "HALT"
      else "LD " ++ pick operands y ++ ", " ++ pick operands z
    | 2, _ => pick operations y ++ pick operands z
    | _, 0 =>
      match y with
      | 4 => "LDH (0xff" ++ hexByte byte ++ "), A"
      | 5 => "ADD SP, " ++ displacement byte
      | 6 => "LDH A, (0xff" ++ hexByte byte ++ ")"
      | 7 => "LD HL, SP" ++ signedDisplacement byte
      | _ => "RET " ++ pick conditions y
    | _, 1 =>
      if !q then "POP " ++ pick stackPairs p
      else
        match p with
        | 0 => "RET"
        | 1 => "RETI"
        | 2 => "JP HL"
        | _ => "LD SP, HL"
    | _, 2 =>
      match y with
      | 4 => "LD (C), A"
      | 5 => "LD (" ++ nn ++ "), A"
      | 6 => "LD A, (C)"
      | 7 => "LD A, (" ++ nn ++ ")"
      | _ => "JP " ++ pick conditions y ++ ", " ++ nn
    | _, 3 =>
      match y with
      | 0 => "JP " ++ nn
      | 6 => "DI"
      | 7 => "EI"
      | _ => unknownText opcode
    | _, 4 => if y < 4 then "CALL " ++ pick conditions y ++ ", " ++ nn else unknownText opcode
    | _, 5 =>
      if !q then "PUSH " ++ pick stackPairs p
      else if p == 0 then "CALL " ++ nn
      else unknownText opcode
    | _, 6 => pick operations y ++ n
    | _, _ => "RST 0x" ++ hexByte (UInt8.ofNat (y * 8))

end GameBoy
