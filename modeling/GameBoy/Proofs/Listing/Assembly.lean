import GameBoy.Proofs.Listing.Meaning

/-!
# Assembling listings

A line of a listing at a known address can be assembled again: its operation and its operands tell the
instruction (`instruction_line`), relative jumps by the way to their target. So different instructions
have different texts (`text_injective`).
-/

namespace GameBoy

namespace Listing

namespace Part

/-- The operand of a byte instruction. -/
def operand : Part → Option Operand
  | name s => (byteRegister s).map .reg
  | cell (name "HL") => some .atHl
  | _ => none

/-- The pair that points to a cell. -/
def pointer : Part → Option Pointer
  | cell (name "BC") => some .bc
  | cell (name "DE") => some .de
  | cell (name "HL+") => some .hlInc
  | cell (name "HL-") => some .hlDec
  | _ => none

end Part

/-- How far a relative jump at `addr` leads that leads to `target`. -/
def displacementTo (addr target : UInt16) : UInt8 := Word.low (target - (addr + 2))

/-- A jump or a call, perhaps on a condition. -/
def assembleTransfer (addr : UInt16) (cc : Option Condition) : String → Part → Option Instruction
  | "JR", .word nn => some (.jumpRelative cc (displacementTo addr nn))
  | "JP", .word nn => some (.jump cc nn)
  | "CALL", .word nn => some (.call cc nn)
  | _, _ => none

/-- An operation with the accumulator. -/
def assembleAlu (op : AluOp) : Part → Option Instruction
  | .byte n => some (.aluImmediate op n)
  | x => x.operand.map (.alu op)

/-- A load, whose operands tell which one it is. -/
def assembleLoad : Part → Part → Option Instruction
  | .cell (.word nn), .name "SP" => some (.storeSp nn)
  | .cell (.word nn), _ => some (.storeAbsolute nn)
  | _, .cell (.word nn) => some (.loadAbsolute nn)
  | .cell (.name "C"), _ => some .storeHighC
  | _, .cell (.name "C") => some .loadHighC
  | _, .displaced e => some (.hlFromSp e)
  | .name "SP", .name "HL" => some .spFromHl
  | x, .word nn => x.pair.map (.loadWord · nn)
  | x, .byte n => x.operand.map (.loadImmediate · n)
  | x, y =>
    match x.pointer, y.pointer with
    | some p, _ => some (.storeIndirect p)
    | none, some p => some (.loadIndirect p)
    | none, none => do return .load (← x.operand) (← y.operand)

/-- A pair is counted as a whole. -/
def assembleCount (word : WordRegister → Instruction) (byte : Operand → Instruction) (x : Part) :
    Option Instruction :=
  match x.pair with
  | some r => some (word r)
  | none => x.operand.map byte

/-- An operation without operands. A shift of the accumulator has it as its last letter. -/
def assembleBare : String → Option Instruction
  | "NOP" => some .nop
  | "STOP" => some .stop
  | "HALT" => some .halt
  | "DI" => some .di
  | "EI" => some .ei
  | "DAA" => some .daa
  | "CPL" => some .cpl
  | "SCF" => some .scf
  | "CCF" => some .ccf
  | "RET" => some (.ret none)
  | "RETI" => some .reti
  | s => (shiftOp (String.ofList s.toList.dropLast)).map .shiftA

/-- An operation with one operand. -/
def assembleUnary (addr : UInt16) : String → Part → Option Instruction
  | "PUSH", x => x.pair.map .push
  | "POP", x => x.pair.map .pop
  | "INC", x => assembleCount .incWord .inc x
  | "DEC", x => assembleCount .decWord .dec x
  | "JP", .name "HL" => some .jumpHl
  | "RET", x => x.cc.map fun cc => .ret (some cc)
  | "RST", .byte n => some (.restart n)
  | s, x =>
    match aluOp s, shiftOp s with
    | some op, _ => assembleAlu op x
    | none, some op => x.operand.map (.shift op)
    | none, none => assembleTransfer addr none s x

/-- An operation with two operands. -/
def assembleBinary (addr : UInt16) : String → Part → Part → Option Instruction
  | "LD", x, y => assembleLoad x y
  | "LDH", .cell (.word nn), _ => some (.storeHigh (Word.low nn))
  | "LDH", _, .cell (.word nn) => some (.loadHigh (Word.low nn))
  | "ADD", .name "HL", x => x.pair.map .addHl
  | "ADD", .name "SP", .decimal e => some (.addSp e)
  | "ADD", _, x => assembleAlu .add x
  | "ADC", _, x => assembleAlu .adc x
  | "SBC", _, x => assembleAlu .sbc x
  | "BIT", .decimal i, x => x.operand.map (.bit i)
  | "RES", .decimal i, x => x.operand.map (.res i)
  | "SET", .decimal i, x => x.operand.map (.set i)
  | s, x, y => x.cc.bind fun cc => assembleTransfer addr (some cc) s y

/-- The instruction of a line at `addr`. -/
def Line.instruction (addr : UInt16) (line : Line) : Option Instruction :=
  match line.parts with
  | [] => assembleBare line.operation
  | [x] => assembleUnary addr line.operation x
  | [x, y] => assembleBinary addr line.operation x y
  | _ => none

variable {addr : UInt16}

/-- The way to the target of a relative jump is its displacement. -/
lemma displacementTo_relativeTarget (addr : UInt16) (e : UInt8) :
    displacementTo addr (relativeTarget addr e) = e := by
  have hlow : ∀ e, Word.low (Word.signed e) = e := Word.forall_byte (by decide +kernel)
  have hway : relativeTarget addr e - (addr + 2) = Word.signed e := by
    rw [relativeTarget, UInt16.add_comm, UInt16.add_sub_cancel]
  rw [displacementTo, hway, hlow]

/-- An operand is assembled from what is printed of it. -/
lemma operand_part (r : Operand) : r.part.operand = some r := by
  cases r with
  | reg r => cases r <;> rfl
  | atHl => rfl

/-- An operation with the accumulator is assembled from its operand. -/
lemma assembleAlu_operand (op : AluOp) (r : Operand) : assembleAlu op r.part = some (.alu op r) := by
  have h : assembleAlu op r.part = r.part.operand.map (.alu op) := by
    cases r with
    | reg r => rfl
    | atHl => rfl
  rw [h, operand_part]
  rfl

/-- Counting a byte is assembled from the operand. -/
lemma assembleCount_operand (word : WordRegister → Instruction) (byte : Operand → Instruction)
    (r : Operand) : assembleCount word byte r.part = some (byte r) := by
  rw [assembleCount, pair_operand, operand_part]
  rfl

/-- No operand of a byte instruction shows a number. -/
lemma assembleLoad_operands (dst src : Operand) :
    assembleLoad dst.part src.part = some (.load dst src) := by
  have h : assembleLoad dst.part src.part =
      (do return .load (← dst.part.operand) (← src.part.operand)) := by
    cases dst with
    | reg r =>
      cases src with
      | reg r' => cases r <;> cases r' <;> rfl
      | atHl => cases r <;> rfl
    | atHl =>
      cases src with
      | reg r' => cases r' <;> rfl
      | atHl => rfl
  rw [h, operand_part, operand_part]
  rfl

/-- The line of an operation with the accumulator, whether the accumulator is printed or not. -/
lemma instruction_alu (op : AluOp) (x : Part) : (op.line x).instruction addr = assembleAlu op x := by
  cases op <;> rfl

/-- A transfer of control is assembled with its condition and without one. -/
lemma instruction_transfer (cc : Option Condition) {operation : String} {i : Instruction}
    {parts : List Part} (hnone : cc = none → Line.instruction addr ⟨operation, parts⟩ = some i)
    (hsome : ∀ cc' : Condition, cc = some cc' →
      Line.instruction addr ⟨operation, .name cc'.text :: parts⟩ = some i) :
    (transferLine operation cc parts).instruction addr = some i := by
  cases cc with
  | none => exact hnone rfl
  | some cc' => exact hsome cc' rfl

/-- The line of an instruction is assembled to the instruction. -/
lemma instruction_line (addr : UInt16) (i : Instruction) :
    (i.line addr).instruction addr = some i := by
  cases i with
  | nop | stop | halt | di | ei | daa | cpl | scf | ccf | reti | jumpHl | spFromHl | storeHighC
  | loadHighC => rfl
  | load dst src => exact assembleLoad_operands dst src
  | loadImmediate dst n =>
    cases dst with
    | reg r => cases r <;> rfl
    | atHl => rfl
  | storeIndirect p | loadIndirect p => cases p <;> rfl
  | storeHigh n | loadHigh n =>
    simp [Instruction.line, Line.instruction, assembleBinary]
  | storeAbsolute nn | loadAbsolute nn | storeSp nn | hlFromSp nn | addSp nn | restart nn => rfl
  | loadWord r nn | push r | pop r | incWord r | decWord r | addHl r => cases r <;> rfl
  | alu op src => exact (instruction_alu op _).trans (assembleAlu_operand op src)
  | aluImmediate op n => exact instruction_alu op _
  | inc r | dec r => exact assembleCount_operand _ _ r
  | shiftA op =>
    change assembleBare (op.text ++ "A") = _
    cases op <;> rfl
  | jumpRelative cc e =>
    have he := displacementTo_relativeTarget addr e
    refine instruction_transfer cc ?_ ?_
    · rintro rfl
      simp [Line.instruction, assembleUnary, aluOp, shiftOp, assembleTransfer, he]
    · rintro cc' rfl
      cases cc' <;>
        simp [Line.instruction, assembleBinary, Part.cc, condition, Condition.text,
          assembleTransfer, he]
  | jump cc nn | call cc nn | ret cc =>
    refine instruction_transfer cc ?_ ?_
    · rintro rfl
      rfl
    · rintro cc' rfl
      cases cc' <;> rfl
  | shift op r =>
    have h : Line.instruction addr ⟨op.text, [r.part]⟩ = r.part.operand.map (.shift op) := by
      cases op <;> rfl
    exact h.trans (by rw [operand_part]; rfl)
  | bit i r | res i r | set i r => exact congrArg (Option.map _) (operand_part r)

/-- Different instructions at an address have different texts. -/
theorem text_injective (addr : UInt16) : Function.Injective (Instruction.text addr) := by
  intro i i' h
  have hline : i.line addr = i'.line addr := by rw [← ofText_text, h, ofText_text]
  have hi := instruction_line addr i
  rw [hline, instruction_line] at hi
  exact (Option.some.inj hi).symm

end Listing

end GameBoy
