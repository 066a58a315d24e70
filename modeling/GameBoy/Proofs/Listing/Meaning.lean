import GameBoy.Machine.Execution
import GameBoy.Proofs.Listing.Reading

/-!
# What listings mean

A line of a listing says what it works on: the destination before the source, registers, pairs and
conditions by their names, the accumulator where it is printed, and cells by what stands in
parentheses. Its meaning follows from that alone, and it is what the instruction does that the line
shows (`meaning_line`).
-/

namespace GameBoy.Listing

open Machine

/-! ## Names -/

/-- The byte register of a name. -/
def byteRegister : String → Option ByteRegister
  | "A" => some .a | "F" => some .f | "B" => some .b | "C" => some .c
  | "D" => some .d | "E" => some .e | "H" => some .h | "L" => some .l
  | _ => none

/-- The word register of a name. -/
def wordRegister : String → Option WordRegister
  | "AF" => some .af | "BC" => some .bc | "DE" => some .de
  | "HL" => some .hl | "SP" => some .sp | "PC" => some .pc
  | _ => none

/-- The condition of a name. -/
def condition : String → Option Condition
  | "NZ" => some .nz | "Z" => some .z | "NC" => some .nc | "C" => some .c
  | _ => none

/-- The shift of a name. -/
def shiftOp : String → Option ShiftOp
  | "RLC" => some .rlc | "RRC" => some .rrc | "RL" => some .rl | "RR" => some .rr
  | "SLA" => some .sla | "SRA" => some .sra | "SWAP" => some .swap | "SRL" => some .srl
  | _ => none

/-- The operations that do not name the accumulator. -/
def aluOp : String → Option AluOp
  | "SUB" => some .sub | "AND" => some .and | "XOR" => some .xor | "OR" => some .or
  | "CP" => some .cp
  | _ => none

/-! ## Parts -/

namespace Part

/-- The pair that a part names. -/
def pair : Part → Option WordRegister
  | name s => wordRegister s
  | _ => none

/-- The condition that a part names. -/
def cc : Part → Option Condition
  | name s => condition s
  | _ => none

/-- The address that a part shows. -/
def target : Part → Option UInt16
  | word nn => some nn
  | _ => none

/-- The address that is printed in parentheses; HL moves after it was used. -/
def address : Part → Option (Action Machine UInt16)
  | word nn => some (return nn)
  | name "C" => some do return Word.join 0xff (← registers).c
  | name "HL+" => some do
    let hl := (← registers).hl
    modifyRegisters Registers.incrementHl
    return hl
  | name "HL-" => some do
    let hl := (← registers).hl
    modifyRegisters Registers.decrementHl
    return hl
  | name s => (wordRegister s).map fun p => do return (← registers).word p
  | _ => none

/-- The byte that a source stands for. -/
def load : Part → Option (Action Machine UInt8)
  | byte n => some (return n)
  | name s => (byteRegister s).map fun r => do return (← registers).byte r
  | cell x => x.address.map fun address => do readByte (← address)
  | _ => none

/-- How a byte gets to a destination. -/
def store : Part → Option (UInt8 → Action Machine Unit)
  | name s => (byteRegister s).map fun r v => modifyRegisters fun regs => regs.setByte r v
  | cell x => x.address.map fun address v => do writeByte (← address) v
  | _ => none

/-- The word that a source stands for. -/
def loadWord : Part → Option (Registers → UInt16)
  | word nn => some fun _ => nn
  | name s => (wordRegister s).map fun p r => r.word p
  | _ => none

/-- Replaces what a part stands for, and the flags, by a function of both. -/
def change (x : Part) (f : UInt8 → Flags → UInt8 × Flags) : Option (Action Machine Unit) :=
  match x.load, x.store with
  | some load, some store => some do
    let v ← load
    let (v, flags) := f v (← registers).flags
    store v
    setFlags flags
  | _, _ => none

/-- Replaces what a part stands for by a function of it. -/
def replace (x : Part) (f : UInt8 → UInt8) : Option (Action Machine Unit) :=
  match x.load, x.store with
  | some load, some store => some do store (f (← load))
  | _, _ => none

end Part

/-! ## Lines -/

/-- Copies a byte from the second part to the first. -/
def copyByte (x y : Part) : Option (Action Machine Unit) :=
  match x.store, y.load with
  | some store, some load => some do store (← load)
  | _, _ => none

/-- Copies a byte or a word, as the registers in it tell. -/
def copy (x y : Part) : Option (Action Machine Unit) :=
  match x, y with
  | .cell (.word nn), .name "SP" => some do onBus (Bus.writeWord nn (← registers).sp)
  | .name "HL", .displaced e => some <| modifyRegisters fun r =>
    let (v, flags) := Alu.addDisplacement r.sp e
    { r.setHl v with flags }
  | x, y =>
    match x.pair, y.loadWord with
    | some p, some w => some (modifyRegisters fun r => r.setWord p (w r))
    | _, _ => copyByte x y

/-- Counts a pair or a byte. -/
def count (x : Part) (f : UInt16 → UInt16) (g : UInt8 → Flags → UInt8 × Flags) :
    Option (Action Machine Unit) :=
  match x.pair with
  | some p => some (modifyRegisters fun r => r.setWord p (f (r.word p)))
  | none => x.change g

/-- Combines the accumulator with a part. -/
def combineWith (op : AluOp) (x : Part) : Option (Action Machine Unit) :=
  x.load.map fun load => do combine op (← load)

/-- Adds to HL, to the stack pointer or to the accumulator. -/
def add (x y : Part) : Option (Action Machine Unit) :=
  match x, y with
  | .name "HL", y => y.pair.map fun p => modifyRegisters fun r =>
    let (v, flags) := Alu.addWord r.hl (r.word p) r.flags
    { r.setHl v with flags }
  | .name "SP", .decimal e => some <| modifyRegisters fun r =>
    let (v, flags) := Alu.addDisplacement r.sp e
    { r with sp := v, flags }
  | .name "A", y => combineWith .add y
  | _, _ => none

/-- Goes to the target in the second part, on the condition in the first. -/
def goIf (go : UInt16 → Action Machine Unit) (x y : Part) : Option (Action Machine Unit) := do
  let cc ← x.cc
  let nn ← y.target
  return guarded (some cc) (go nn)

/-- What an operation without operands means. A shift of the accumulator has it as its last letter. -/
def bare : String → Option (Action Machine Unit)
  | "NOP" => some (return)
  | "HALT" => some (modifyCpu fun cpu => { cpu with halted := true })
  | "DI" => some (modifyCpu fun cpu => { cpu with ime := false })
  | "EI" => some (modifyCpu fun cpu => { cpu with ime := true })
  | "DAA" => some do
    let r ← registers
    setResult (Alu.daa r.a r.flags)
  | "CPL" => some <| modifyRegisters fun r =>
    { r with a := ~~~r.a, flags := { r.flags with subtract := true, halfCarry := true } }
  | "SCF" => some <| modifyRegisters fun r =>
    { r with flags := { zero := r.flags.zero, carry := true } }
  | "CCF" => some <| modifyRegisters fun r =>
    { r with flags := { zero := r.flags.zero, carry := !r.flags.carry } }
  | "RET" => some returnToCaller
  | "RETI" => some do
    modifyCpu fun cpu => { cpu with ime := true }
    returnToCaller
  | s => if s.toList.getLast? = some 'A' then
      (shiftOp (String.ofList s.toList.dropLast)).map fun op => do
        let r ← registers
        setResult (op.applyToA r.a r.flags.carry)
    else none

/-- What an operation with one operand means. -/
def unary : String → Part → Option (Action Machine Unit)
  | "PUSH", x => x.pair.map fun p => do push ((← registers).word p)
  | "POP", x => x.pair.map fun p => do
    let v ← pop
    modifyRegisters fun r => r.setWord p v
  | "INC", x => count x (· + 1) Alu.inc
  | "DEC", x => count x (· - 1) Alu.dec
  | "JP", .name "HL" => some (modifyRegisters fun r => { r with pc := r.hl })
  | "JR", x | "JP", x => x.target.map jumpTo
  | "CALL", x => x.target.map callTo
  | "RET", x => x.cc.map fun cc => guarded (some cc) returnToCaller
  | "RST", .byte n => some (callTo n.toUInt16)
  | s, x =>
    match aluOp s, shiftOp s with
    | some op, _ => combineWith op x
    | none, some op => x.change fun v flags => op.apply v flags.carry
    | none, none => none

/-- What an operation with two operands means. -/
def binary : String → Part → Part → Option (Action Machine Unit)
  | "LD", x, y => copy x y
  | "LDH", x, y => copyByte x y
  | "ADD", x, y => add x y
  | "ADC", .name "A", x => combineWith .adc x
  | "SBC", .name "A", x => combineWith .sbc x
  | "BIT", .decimal i, x => x.load.map fun load => do
    let v ← load
    setFlags (Alu.testBit i v (← registers).flags)
  | "RES", .decimal i, x => x.replace (· &&& ~~~(1 <<< i))
  | "SET", .decimal i, x => x.replace (· ||| (1 <<< i))
  | "JR", x, y | "JP", x, y => goIf jumpTo x y
  | "CALL", x, y => goIf callTo x y
  | _, _, _ => none

/-- What a line means. -/
def Line.meaning (line : Line) : Option (Action Machine Unit) :=
  match line.parts with
  | [] => bare line.operation
  | [x] => unary line.operation x
  | [x, y] => binary line.operation x y
  | _ => none

/-- Where a jump or a call goes that shows its target, and on which condition. -/
def Line.target (line : Line) : Option (Option Condition × UInt16) :=
  match line.operation, line.parts with
  | "JR", [x] | "JP", [x] | "CALL", [x] => x.target.map (none, ·)
  | "JR", [x, y] | "JP", [x, y] | "CALL", [x, y] => do return (some (← x.cc), ← y.target)
  | "RST", [.byte n] => some (none, n.toUInt16)
  | _, _ => none

/-- Only a word is a target. -/
lemma Part.eq_word_of_target {x : Part} {nn : UInt16} (h : x.target = some nn) : x = .word nn := by
  cases x <;> cases h
  rfl

/-- Without a condition an action is carried out as it is. -/
lemma guarded_none (act : Action Machine Unit) : guarded none act = act := rfl

/-- A line with a target means to go there, on its condition. -/
lemma meaning_of_target {line : Line} {cc : Option Condition} {nn : UInt16}
    (h : line.target = some (cc, nn)) :
    ∃ act, line.meaning = some (guarded cc act) ∧
      ∀ m, (act m).state.cpu.registers.pc = nn := by
  have hone {x : Part} (h : x.target.map (none, ·) = some (cc, nn)) : cc = none ∧ x = .word nn := by
    obtain ⟨nn', hx, e⟩ := Option.map_eq_some_iff.mp h
    cases e
    exact ⟨rfl, Part.eq_word_of_target hx⟩
  have htwo {x y : Part} (h : (do return (some (← x.cc), ← y.target)) = some (cc, nn))
      (go : UInt16 → Action Machine Unit) : goIf go x y = some (guarded cc (go nn)) := by
    obtain ⟨cc', hx, h⟩ := Option.bind_eq_some_iff.mp h
    obtain ⟨nn', hy, e⟩ := Option.bind_eq_some_iff.mp h
    cases e
    rw [goIf, hx, hy]
    rfl
  obtain ⟨operation, parts⟩ := line
  dsimp only [Line.target] at h
  split at h
  · obtain ⟨rfl, rfl⟩ := hone h
    exact ⟨jumpTo nn, rfl, fun _ => rfl⟩
  · obtain ⟨rfl, rfl⟩ := hone h
    exact ⟨jumpTo nn, rfl, fun _ => rfl⟩
  · obtain ⟨rfl, rfl⟩ := hone h
    exact ⟨callTo nn, by rw [guarded_none]; rfl, fun _ => rfl⟩
  · exact ⟨jumpTo nn, htwo h jumpTo, fun _ => rfl⟩
  · exact ⟨jumpTo nn, htwo h jumpTo, fun _ => rfl⟩
  · exact ⟨callTo nn, htwo h callTo, fun _ => rfl⟩
  · cases h
    exact ⟨callTo _, by rw [guarded_none]; rfl, fun _ => rfl⟩
  · cases h

/-! ## Instructions -/

/-- What is printed of an operand says where to read it. -/
lemma load_operand (r : Operand) : r.part.load = some (readOperand r) := by
  cases r with
  | reg r => cases r <;> rfl
  | atHl => rfl

/-- What is printed of an operand says where to write it. -/
lemma store_operand (r : Operand) : r.part.store = some (writeOperand r) := by
  cases r with
  | reg r => cases r <;> rfl
  | atHl => rfl

/-- A printed operand is changed like the operand. -/
lemma change_operand (r : Operand) (f : UInt8 → Flags → UInt8 × Flags) :
    r.part.change f = some (update r f) := by
  rw [Part.change, load_operand, store_operand]
  rfl

/-- A printed operand is replaced like the operand. -/
lemma replace_operand (r : Operand) (f : UInt8 → UInt8) :
    r.part.replace f = some (do writeOperand r (f (← readOperand r))) := by
  rw [Part.replace, load_operand, store_operand]

/-- No operand is a pair. -/
lemma pair_operand (r : Operand) : r.part.pair = none := by
  cases r with
  | reg r => cases r <;> rfl
  | atHl => rfl

/-- A byte is copied between printed operands like between the operands. -/
lemma copyByte_operands (dst src : Operand) :
    copyByte dst.part src.part = some (do writeOperand dst (← readOperand src)) := by
  rw [copyByte, load_operand, store_operand]

/-- Whether the accumulator is printed makes no difference to the meaning. -/
lemma meaning_alu (op : AluOp) (x : Part) : (op.line x).meaning = combineWith op x := by
  cases op <;> rfl

/-- The line of an operation with an operand means what the instruction does. -/
lemma meaning_aluOperand (op : AluOp) (src : Operand) :
    (op.line src.part).meaning = some (perform (.alu op src)) := by
  rw [meaning_alu, combineWith, load_operand]
  rfl

/-- The line of an operation with a byte means what the instruction does. -/
lemma meaning_aluImmediate (op : AluOp) (n : UInt8) :
    (op.line (.byte n)).meaning = some (perform (.aluImmediate op n)) :=
  meaning_alu op (.byte n)

/-- The line of a shift means to change its operand. -/
lemma meaning_shift (op : ShiftOp) (x : Part) :
    Line.meaning ⟨op.text, [x]⟩ = x.change fun v flags => op.apply v flags.carry := by
  cases op <;> rfl

/-- The line of a shift of the accumulator means what the instruction does. -/
lemma meaning_shiftA (op : ShiftOp) :
    Line.meaning ⟨op.text ++ "A", []⟩ = some (perform (.shiftA op)) := by
  cases op <;> rfl

/-- A printed operand is counted as a byte. -/
lemma count_operand (r : Operand) (f : UInt16 → UInt16) (g : UInt8 → Flags → UInt8 × Flags) :
    count r.part f g = some (update r g) := by
  rw [count, pair_operand, ← change_operand]

/-- The line that counts an operand up means what the instruction does. -/
lemma meaning_inc (r : Operand) :
    Line.meaning ⟨"INC", [r.part]⟩ = some (perform (.inc r)) := by
  have h : ∀ x, Line.meaning ⟨"INC", [x]⟩ = count x (· + 1) Alu.inc := fun _ => rfl
  rw [h, count_operand]
  rfl

/-- The line that counts an operand down means what the instruction does. -/
lemma meaning_dec (r : Operand) :
    Line.meaning ⟨"DEC", [r.part]⟩ = some (perform (.dec r)) := by
  have h : ∀ x, Line.meaning ⟨"DEC", [x]⟩ = count x (· - 1) Alu.dec := fun _ => rfl
  rw [h, count_operand]
  rfl

/-- The line that shifts an operand means what the instruction does. -/
lemma meaning_shiftOperand (op : ShiftOp) (r : Operand) :
    Line.meaning ⟨op.text, [r.part]⟩ = some (perform (.shift op r)) := by
  rw [meaning_shift, change_operand]
  rfl

/-- The line that loads an operand means what the instruction does. -/
lemma meaning_load (dst src : Operand) :
    Line.meaning ⟨"LD", [dst.part, src.part]⟩ = some (perform (.load dst src)) := by
  have h : Line.meaning ⟨"LD", [dst.part, src.part]⟩ = copyByte dst.part src.part := by
    cases dst with
    | reg r => cases r <;> rfl
    | atHl => rfl
  rw [h, copyByte_operands]
  rfl

/-- The line that loads a byte means what the instruction does. -/
lemma meaning_loadImmediate (dst : Operand) (n : UInt8) :
    Line.meaning ⟨"LD", [dst.part, .byte n]⟩ = some (perform (.loadImmediate dst n)) := by
  cases dst with
  | reg r => cases r <;> rfl
  | atHl => rfl

/-- The line that tests a bit means what the instruction does. -/
lemma meaning_bit (i : UInt8) (r : Operand) :
    Line.meaning ⟨"BIT", [.decimal i, r.part]⟩ = some (perform (.bit i r)) := by
  change Option.map _ r.part.load = _
  rw [load_operand]
  rfl

/-- The line that resets a bit means what the instruction does. -/
lemma meaning_res (i : UInt8) (r : Operand) :
    Line.meaning ⟨"RES", [.decimal i, r.part]⟩ = some (perform (.res i r)) :=
  replace_operand r _

/-- The line that sets a bit means what the instruction does. -/
lemma meaning_set (i : UInt8) (r : Operand) :
    Line.meaning ⟨"SET", [.decimal i, r.part]⟩ = some (perform (.set i r)) :=
  replace_operand r _

/-- A jump, a call or a return, with or without a condition. -/
lemma meaning_transfer (operation : String) (parts : List Part) (act : Action Machine Unit)
    (hnone : Line.meaning ⟨operation, parts⟩ = some act)
    (hsome : ∀ cc : Condition, Line.meaning ⟨operation, .name cc.text :: parts⟩ =
      some (guarded (some cc) act)) (cc : Option Condition) :
    (transferLine operation cc parts).meaning = some (guarded cc act) := by
  cases cc with
  | none => exact hnone
  | some cc => exact hsome cc

/-- The line of a relative jump means to go on at the target that it shows. -/
lemma meaning_jumpRelative (cc : Option Condition) (nn : UInt16) :
    (transferLine "JR" cc [.word nn]).meaning = some (guarded cc (jumpTo nn)) :=
  meaning_transfer "JR" _ _ rfl (fun cc => by cases cc <;> rfl) cc

/-- The line of a jump means what the instruction does. -/
lemma meaning_jump (cc : Option Condition) (nn : UInt16) :
    (transferLine "JP" cc [.word nn]).meaning = some (perform (.jump cc nn)) :=
  meaning_transfer "JP" _ _ rfl (fun cc => by cases cc <;> rfl) cc

/-- The line of a call means what the instruction does. -/
lemma meaning_call (cc : Option Condition) (nn : UInt16) :
    (transferLine "CALL" cc [.word nn]).meaning = some (perform (.call cc nn)) :=
  meaning_transfer "CALL" _ _ rfl (fun cc => by cases cc <;> rfl) cc

/-- The line of a return means what the instruction does. -/
lemma meaning_ret (cc : Option Condition) :
    (transferLine "RET" cc []).meaning = some (perform (.ret cc)) :=
  meaning_transfer "RET" _ _ rfl (fun cc => by cases cc <;> rfl) cc

/-- The line of an instruction means what the instruction does. -/
lemma meaning_line (addr : UInt16) {i : Instruction}
    (h : i ∉ [.stop, .halt, .di, .ei]) (hj : ∀ cc e, i ≠ .jumpRelative cc e) :
    (i.line addr).meaning = some (perform i) := by
  have hhigh : highPage = Word.join 0xff := funext (Word.forall_byte (by decide +kernel))
  cases i with
  | stop | halt | di | ei => exact absurd (by decide) h
  | jumpRelative cc e => exact absurd rfl (hj cc e)
  | nop | daa | cpl | scf | ccf | reti | jumpHl | spFromHl => rfl
  | storeHighC | loadHighC | storeHigh n | loadHigh n =>
    rw [perform, hhigh]
    rfl
  | load dst src => exact meaning_load dst src
  | loadImmediate dst n => exact meaning_loadImmediate dst n
  | storeIndirect p | loadIndirect p => cases p <;> rfl
  | storeAbsolute nn | loadAbsolute nn | storeSp nn | hlFromSp nn | addSp nn => rfl
  | loadWord r nn | push r | pop r | incWord r | decWord r | addHl r => cases r <;> rfl
  | alu op src => exact meaning_aluOperand op src
  | aluImmediate op n => exact meaning_aluImmediate op n
  | inc r => exact meaning_inc r
  | dec r => exact meaning_dec r
  | shiftA op => exact meaning_shiftA op
  | jump cc nn => exact meaning_jump cc nn
  | call cc nn => exact meaning_call cc nn
  | ret cc => exact meaning_ret cc
  | restart target => rfl
  | shift op r => exact meaning_shiftOperand op r
  | bit i r => exact meaning_bit i r
  | res i r => exact meaning_res i r
  | set i r => exact meaning_set i r

end GameBoy.Listing
