import GameBoy.Cpu.Encoding
import GameBoy.Cpu.Mnemonic
import Mathlib.Tactic.IntervalCases
import Mathlib.Tactic.Lemma

/-!
# The texts of instructions

The text of an instruction shows everything that the instruction carries. A mnemonic, which is read
off the fields of an opcode without decoding it, is the text of the instruction that the opcode
stands for with the immediates behind it, and an unknown text if it stands for none (`mnemonic_eq`).
-/

namespace GameBoy

open Text

/-- What is printed of an operand. -/
def Operand.text : Operand → String
  | .reg r => r.name
  | .atHl => "(HL)"

/-- What is printed of a condition. -/
def Condition.text : Condition → String
  | .nz => "NZ" | .z => "Z" | .nc => "NC" | .c => "C"

/-- What is printed of a pointer. -/
def Pointer.text : Pointer → String
  | .bc => "(BC)" | .de => "(DE)" | .hlInc => "(HL+)" | .hlDec => "(HL-)"

/-- The operation with what stands before its operand; some name the accumulator. -/
def AluOp.text : AluOp → String
  | .add => "ADD A, " | .adc => "ADC A, " | .sub => "SUB " | .sbc => "SBC A, "
  | .and => "AND " | .xor => "XOR " | .or => "OR " | .cp => "CP "

/-- What is printed of a shift. -/
def ShiftOp.text : ShiftOp → String
  | .rlc => "RLC" | .rrc => "RRC" | .rl => "RL" | .rr => "RR"
  | .sla => "SLA" | .sra => "SRA" | .swap => "SWAP" | .srl => "SRL"

/-- An operation, its condition if it has one, and its target. -/
def transferText (operation : String) (cc : Option Condition) (target : String) : String :=
  match cc with
  | none => operation ++ target
  | some cc => operation ++ cc.text ++ ", " ++ target

/-- The text of an instruction that stands at `addr`. -/
def Instruction.text (addr : UInt16) : Instruction → String
  | nop => "NOP"
  | stop => "STOP"
  | halt => "HALT"
  | di => "DI"
  | ei => "EI"
  | load dst src => "LD " ++ dst.text ++ ", " ++ src.text
  | loadImmediate dst n => "LD " ++ dst.text ++ ", " ++ ("0x" ++ hexByte n)
  | storeIndirect p => "LD " ++ p.text ++ ", A"
  | loadIndirect p => "LD A, " ++ p.text
  | storeHigh n => "LDH (0xff" ++ hexByte n ++ "), A"
  | loadHigh n => "LDH A, (0xff" ++ hexByte n ++ ")"
  | storeHighC => "LD (C), A"
  | loadHighC => "LD A, (C)"
  | storeAbsolute nn => "LD (" ++ ("0x" ++ hexWord nn) ++ "), A"
  | loadAbsolute nn => "LD A, (" ++ ("0x" ++ hexWord nn) ++ ")"
  | loadWord r nn => "LD " ++ r.name ++ ", " ++ ("0x" ++ hexWord nn)
  | storeSp nn => "LD (" ++ ("0x" ++ hexWord nn) ++ "), SP"
  | spFromHl => "LD SP, HL"
  | hlFromSp e => "LD HL, SP" ++ signedDisplacement e
  | push r => "PUSH " ++ r.name
  | pop r => "POP " ++ r.name
  | alu op src => op.text ++ src.text
  | aluImmediate op n => op.text ++ ("0x" ++ hexByte n)
  | inc r => "INC " ++ r.text
  | dec r => "DEC " ++ r.text
  | daa => "DAA"
  | cpl => "CPL"
  | scf => "SCF"
  | ccf => "CCF"
  | shiftA op => op.text ++ "A"
  | incWord r => "INC " ++ r.name
  | decWord r => "DEC " ++ r.name
  | addHl r => "ADD HL, " ++ r.name
  | addSp e => "ADD SP, " ++ displacement e
  | jumpRelative cc e => transferText "JR " cc ("0x" ++ hexWord (relativeTarget addr e))
  | jump cc nn => transferText "JP " cc ("0x" ++ hexWord nn)
  | jumpHl => "JP HL"
  | call cc nn => transferText "CALL " cc ("0x" ++ hexWord nn)
  | ret none => "RET"
  | ret (some cc) => "RET " ++ cc.text
  | reti => "RETI"
  | restart target => "RST 0x" ++ hexByte target
  | shift op r => op.text ++ " " ++ r.text
  | bit i r => "BIT " ++ toString i.toNat ++ ", " ++ r.text
  | res i r => "RES " ++ toString i.toNat ++ ", " ++ r.text
  | set i r => "SET " ++ toString i.toNat ++ ", " ++ r.text

/-- The text behind the extension opcode. -/
lemma extendedText_eq (addr : UInt16) (byte : UInt8) :
    extendedText byte = (Encoding.extended byte).text addr := by
  revert byte
  refine Word.forall_byte fun n hn => ?_
  interval_cases n <;> rfl

/-- The mnemonic of an opcode is the text of what it stands for. -/
theorem mnemonic_eq (addr : UInt16) (opcode byte : UInt8) (word : UInt16) :
    mnemonic addr opcode byte word =
      match (Encoding.ofOpcode opcode).complete byte word with
      | some i => i.text addr
      | none => unknownText opcode := by
  revert opcode
  refine Word.forall_byte fun n hn => ?_
  -- behind the extension opcode the byte decides, and behind all others it is only shown
  by_cases hn' : n = 0xcb
  · subst hn'
    exact extendedText_eq addr byte
  · interval_cases n <;> first | exact absurd rfl hn' | rfl

end GameBoy
