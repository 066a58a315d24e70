import GameBoy.Proofs.Machine.RegisterFile

/-!
# What runs write to the register file

Every instruction changes the register file by a few writes (`perform_registers`), and so do fetches
and dispatches. What a run leaves there is what its writes leave (`run_registers`), so that the cells
after a run are those after a history of writes, and the laws of the register file hold after every
instruction (`register_laws`).
-/

namespace GameBoy

variable {m m' : Machine} {ms : List Machine} {es : List Event}

/-! ## Instructions -/

/-- An operand that is a cell is not in the register file. -/
def Operand.writes (o : Operand) (v : UInt8) : List RegisterWrite :=
  match o with
  | .reg r => [.byte r v]
  | .atHl => []

/-- Following the last two pointers moves HL. -/
def Pointer.writes : Pointer → List RegisterWrite
  | .bc | .de => []
  | .hlInc => [.incrementHl]
  | .hlDec => [.decrementHl]

namespace RegisterWrite

/-- Flags are written as a byte. -/
def flags (f : Flags) : RegisterWrite := .f f.toByte

/-- A result in the accumulator. -/
def result (done : UInt8 × Flags) : List RegisterWrite := [.a done.1, flags done.2]

/-- A word and the flags that it was computed with. -/
def wordResult (q : WordRegister) (done : UInt16 × Flags) : List RegisterWrite :=
  [.word q done.1, flags done.2]

/-- An operand and the flags, both replaced by a function of both. -/
def update (m : Machine) (o : Operand) (f : UInt8 → Flags → UInt8 × Flags) : List RegisterWrite :=
  let done := f (Machine.readOperand o m).value m.cpu.registers.flags
  o.writes done.1 ++ [flags done.2]

/-- A call pushes a word and goes on at an address. -/
def callTo (r : Registers) (addr : UInt16) : List RegisterWrite :=
  [.word .sp (r.sp - 2), .word .pc addr]

/-- A pop moves the stack pointer before the word gets to its register. -/
def popTo (m : Machine) (q : WordRegister) : List RegisterWrite :=
  let sp := m.cpu.registers.sp
  [.word .sp (sp + 2), .word q (Machine.onBus (Bus.readWord sp) m).value]

end RegisterWrite

open RegisterWrite in
/-- What an instruction writes to the register file, behind its own bytes. -/
def Instruction.writes (m : Machine) (i : Instruction) : List RegisterWrite :=
  let r := m.cpu.registers
  let onlyIf (cc : Option Condition) (ws : List RegisterWrite) : List RegisterWrite :=
    if Condition.allows cc r.flags then ws else []
  let loadA (addr : UInt16) : List RegisterWrite := [.a (Machine.readByte addr m).value]
  match i with
  | nop | stop | halt | di | ei => []
  | .load dst src => dst.writes (Machine.readOperand src m).value
  | loadImmediate dst n => dst.writes n
  | storeIndirect p => p.writes
  | loadIndirect p => p.writes ++ loadA (Machine.follow p m).value
  | storeHigh _ | storeHighC | storeAbsolute _ | storeSp _ => []
  | loadHigh n => loadA (Machine.highPage n)
  | loadHighC => loadA (Machine.highPage r.c)
  | loadAbsolute nn => loadA nn
  | loadWord q nn => [.word q nn]
  | spFromHl => [.word .sp r.hl]
  | hlFromSp e => wordResult .hl (Alu.addDisplacement r.sp e)
  | push _ => [.word .sp (r.sp - 2)]
  | pop q => popTo m q
  | alu op src => result (op.apply r.a (Machine.readOperand src m).value r.flags.carry)
  | aluImmediate op n => result (op.apply r.a n r.flags.carry)
  | inc o => update m o Alu.inc
  | dec o => update m o Alu.dec
  | daa => result (Alu.daa r.a r.flags)
  | cpl => result (~~~r.a, { r.flags with subtract := true, halfCarry := true })
  | scf => [flags { zero := r.flags.zero, carry := true }]
  | ccf => [flags { zero := r.flags.zero, carry := !r.flags.carry }]
  | shiftA op => result (op.applyToA r.a r.flags.carry)
  | incWord q => [.word q (r.word q + 1)]
  | decWord q => [.word q (r.word q - 1)]
  | addHl q => wordResult .hl (Alu.addWord r.hl (r.word q) r.flags)
  | addSp e => wordResult .sp (Alu.addDisplacement r.sp e)
  | jumpRelative cc e => onlyIf cc [.word .pc (r.pc + Word.signed e)]
  | jump cc nn => onlyIf cc [.word .pc nn]
  | jumpHl => [.word .pc r.hl]
  | call cc nn => onlyIf cc (callTo r nn)
  | ret cc => onlyIf cc (popTo m .pc)
  | reti => popTo m .pc
  | restart target => callTo r target.toUInt16
  | shift op o => update m o fun v flags => op.apply v flags.carry
  | bit i o => [flags (Alu.testBit i (Machine.readOperand o m).value r.flags)]
  | res i o => o.writes ((Machine.readOperand o m).value &&& ~~~(1 <<< i))
  | set i o => o.writes ((Machine.readOperand o m).value ||| (1 <<< i))

namespace Machine

open Registers

/-- Writing flags as a byte replaces the flags. -/
lemma write_flags (r : Registers) (f : Flags) : r.write (.flags f) = { r with flags := f } := by
  rw [RegisterWrite.flags, write, Flags.ofByte_toByte]

/-- A result replaces the accumulator and the flags. -/
lemma writeAll_result (r : Registers) (done : UInt8 × Flags) :
    r.writeAll (RegisterWrite.result done) = { r with a := done.1, flags := done.2 } := by
  rw [RegisterWrite.result, writeAll_cons, writeAll_cons, write_flags]
  rfl

/-- A result of a word replaces its register and the flags. -/
lemma writeAll_wordResult (r : Registers) (q : WordRegister) (done : UInt16 × Flags) :
    r.writeAll (RegisterWrite.wordResult q done) = { r.setWord q done.1 with flags := done.2 } := by
  rw [RegisterWrite.wordResult, writeAll_cons, writeAll_cons, write_flags]
  rfl

/-- Writing an operand is a write if it is a register, and none if it is a cell. -/
lemma writeOperand_registers (o : Operand) (v : UInt8) (m : Machine) :
    (writeOperand o v m).state.cpu.registers = m.cpu.registers.writeAll (o.writes v) := by
  cases o <;> rfl

/-- Reading an operand leaves the register file as it is. -/
lemma writeOperand_readOperand_registers (o o' : Operand) (v : UInt8) (m : Machine) :
    (writeOperand o v (readOperand o' m).state).state.cpu.registers =
      m.cpu.registers.writeAll (o.writes v) := by
  rw [writeOperand_registers, readOperand_cpu]

/-- Following a pointer does what its writes do. -/
lemma follow_registers (p : Pointer) (m : Machine) :
    (follow p m).state.cpu.registers = m.cpu.registers.writeAll p.writes := by
  cases p <;> rfl

/-- Changing an operand does what its writes do. -/
lemma update_registers (o : Operand) (f : UInt8 → Flags → UInt8 × Flags) (m : Machine) :
    (update o f m).state.cpu.registers = m.cpu.registers.writeAll (RegisterWrite.update m o f) := by
  rw [RegisterWrite.update, writeAll_append, ← writeOperand_registers, writeAll_cons, write_flags]
  cases o <;> rfl

/-- What is done on a condition writes only if it is met. -/
lemma guarded_registers (cc : Option Condition) {act : Action Machine Unit}
    {ws : List RegisterWrite} (h : (act m).state.cpu.registers = m.cpu.registers.writeAll ws) :
    (guarded cc act m).state.cpu.registers =
      m.cpu.registers.writeAll (if Condition.allows cc m.cpu.registers.flags then ws else []) := by
  cases hcc : Condition.allows cc m.cpu.registers.flags with
  | false => simp [guarded, registers, hcc]
  | true => simpa [guarded, registers, hcc] using h

/-- An instruction does to the register file what its writes do. -/
lemma perform_registers (i : Instruction) (m : Machine) :
    (perform i m).state.cpu.registers = m.cpu.registers.writeAll (i.writes m) := by
  cases i with
  | nop | stop | halt | di | ei | storeHigh | storeHighC | storeAbsolute | storeSp => rfl
  | loadHigh | loadHighC | loadAbsolute | loadWord | spFromHl | push | pop | incWord | decWord
  | jumpHl | reti | restart => rfl
  | load dst src => exact writeOperand_readOperand_registers dst src _ m
  | res i o | set i o => exact writeOperand_readOperand_registers o o _ m
  | loadImmediate dst n => exact writeOperand_registers dst n m
  | storeIndirect p => exact follow_registers p m
  | loadIndirect p => cases p <;> rfl
  | hlFromSp e =>
    exact (writeAll_wordResult _ .hl (Alu.addDisplacement m.cpu.registers.sp e)).symm
  | addSp e => exact (writeAll_wordResult _ .sp (Alu.addDisplacement m.cpu.registers.sp e)).symm
  | addHl q =>
    exact (writeAll_wordResult _ .hl
      (Alu.addWord m.cpu.registers.hl (m.cpu.registers.word q) m.cpu.registers.flags)).symm
  | alu op src => cases src <;> exact (writeAll_result _ _).symm
  | aluImmediate op n | daa | shiftA op => exact (writeAll_result _ _).symm
  | cpl =>
    let flags := { m.cpu.registers.flags with subtract := true, halfCarry := true }
    exact (writeAll_result _ (~~~m.cpu.registers.a, flags)).symm
  | scf | ccf => exact (write_flags _ _).symm
  | inc o => exact update_registers o Alu.inc m
  | dec o => exact update_registers o Alu.dec m
  | shift op o => exact update_registers o (fun v flags => op.apply v flags.carry) m
  | bit i o => cases o <;> exact (write_flags _ _).symm
  | jumpRelative cc e | jump cc nn => exact guarded_registers cc rfl
  | call cc nn | ret cc => exact guarded_registers cc rfl

/-! ## Ticks and runs -/

/-- What an execution writes: the address behind its bytes, and then what its instruction writes. -/
def executionWrites (m : Machine) : List RegisterWrite :=
  if pcLimit < m.cpu.registers.pc then []
  else .word .pc m.listed.cpu.registers.pc :: m.instructionAhead.elim [] (·.writes m.listed)

/-- What a look at the interrupts writes: a dispatch is a call. -/
def settleWrites (m : Machine) : List RegisterWrite :=
  match m.pending with
  | some i => if m.cpu.ime then RegisterWrite.callTo m.cpu.registers i.vector else []
  | none => []

/-- What a tick writes behind an execution, which a fault ends. -/
def chargedWrites (m : Machine) : Except Fault Nat → List RegisterWrite
  | .error _ => []
  | .ok cost => ((execute m).state.charged cost).settleWrites

/-- What a tick writes. -/
def tickWrites (m : Machine) : List RegisterWrite :=
  if m.cpu.isPanicked then []
  else if m.cpu.isReady then m.executionWrites ++ m.chargedWrites (execute m).value
  else m.settleWrites

/-- Reading the bytes of an instruction moves the program counter. -/
lemma listed_registers (m : Machine) :
    m.listed.cpu.registers =
      m.cpu.registers.write (.word .pc m.listed.cpu.registers.pc) :=
  rfl

/-- An execution does to the register file what its writes do. -/
lemma execute_registers (m : Machine) :
    (execute m).state.cpu.registers = m.cpu.registers.writeAll m.executionWrites := by
  unfold executionWrites
  by_cases hpc : pcLimit < m.cpu.registers.pc
  · rw [execute_of_lt hpc, if_pos hpc]
    rfl
  · rw [if_neg hpc, writeAll_cons, ← listed_registers]
    obtain ⟨⟨hi, -⟩ | ⟨hi, -⟩, hstate, -⟩ | ⟨i, _, hi, -, -, hstate, -⟩ :=
      execute_listed (UInt16.not_lt.mp hpc)
    · rw [hstate, hi]
      rfl
    · rw [hstate, hi]
      rfl
    · rw [hstate, hi]
      exact perform_registers i m.listed

/-- A look at the interrupts does to the register file what its writes do. -/
lemma Settled.registers_eq (h : Settled m m' es) :
    m'.cpu.registers = m.cpu.registers.writeAll m.settleWrites := by
  unfold settleWrites
  cases h with
  | quiet hp =>
    rw [hp]
    rfl
  | woken hp hi _ =>
    rw [hp, hi]
    rfl
  | dispatched hp hi =>
    rw [hp, hi]
    rfl

/-- A tick does to the register file what its writes do. -/
lemma Ticked.registers_eq {b : Bool} (h : Ticked m b m' es) :
    m'.cpu.registers = m.cpu.registers.writeAll m.tickWrites := by
  cases h with
  | panicked hp =>
    have hwrites : m.tickWrites = [] := by simp [tickWrites, hp]
    rw [hwrites, writeAll_nil]
  | faulted hp hr hv _ =>
    have hwrites : m.tickWrites = m.executionWrites := by
      simp [tickWrites, chargedWrites, hp, hr, hv]
    rw [hwrites, ← execute_registers]
    rfl
  | @executed cost _ _ hp hr hv hs =>
    have hwrites : m.tickWrites =
        m.executionWrites ++ ((execute m).state.charged cost).settleWrites := by
      simp [tickWrites, chargedWrites, hp, hr, hv]
    rw [hwrites, writeAll_append, ← execute_registers]
    exact hs.registers_eq
  | waited hp hr hs =>
    have hwrites : m.tickWrites = m.settleWrites := by simp [tickWrites, hp, hr]
    rw [hwrites]
    exact hs.registers_eq

/-- A run does to the register file what the writes of its ticks do, in their order. -/
lemma run_registers (h : Run m ms m') :
    m'.cpu.registers = m.cpu.registers.writeAll (ms.flatMap tickWrites) := by
  induction h with
  | nil m => rfl
  | @cons m ms _ bus _ ih =>
    -- what happens to the bus between two ticks leaves the processor alone
    rw [List.flatMap_cons, writeAll_append, ← (ticked m).registers_eq]
    exact ih

/-- The laws of the register file over histories. After every history of writes to the cells of a new
register file its laws hold: the flags have no lower nibble, all views agree, a write is read back, and
changes nothing that it is not for. A half that no write is for is zero, and any other holds what the
last write for it has put there. The registers of the processor are stored in such cells: views and
writes are the same in both, and the cells that histories reach are those of exactly one register file
each. A new processor begins with one write. A run goes on with the writes of its instructions and
dispatches and with no others, from wherever a history has led, and so the laws hold after every
instruction of every run. -/
theorem register_laws :
    (∀ ws : List RegisterWrite,
      let r := RegisterCells.new.writeAll ws
      r.Lawful ∧
      ∀ x : Place,
        ((∀ w ∈ ws, x ∉ w.places) → r.half x = 0) ∧
        ∀ ws₁ w ws₂, ws = ws₁ ++ w :: ws₂ → x ∈ w.places → (∀ w' ∈ ws₂, x ∉ w'.places) →
          r.half x = x.keep (w.value (RegisterCells.new.writeAll ws₁) x.2)) ∧
    (∀ r : Registers, r.Refines r.cells) ∧
    (∀ c, (∃! r : Registers, r.cells = c) ↔ ∃ ws, RegisterCells.new.writeAll ws = c) ∧
    (∀ mapped, (Cpu.new mapped).registers.cells =
      RegisterCells.new.writeAll [.word .pc (if mapped then 0 else 0x100)]) ∧
    ∀ m ms m', Run m ms m' →
      m'.cpu.registers.cells = m.cpu.registers.cells.writeAll (ms.flatMap tickWrites) ∧
      m'.cpu.registers.cells.Lawful := by
  refine ⟨fun ws => ?_, refines, fun _ => existsUnique_cells_eq_iff, fun mapped => ?_,
    fun m ms m' h => ?_⟩
  · intro r
    refine ⟨RegisterCells.lawful (RegisterCells.tidy_new.writeAll ws), fun x => ⟨fun h => ?_, ?_⟩⟩
    · have hnew : RegisterCells.new.half x = 0 := by
        obtain ⟨q, y⟩ := x
        cases q <;> cases y <;> rfl
      exact (RegisterCells.half_writeAll_of_not_mem h).trans hnew
    · rintro ws₁ w ws₂ rfl h h'
      exact RegisterCells.half_writeAll_last h h'
  · exact cells_writeAll {} [.word .pc (if mapped then 0 else 0x100)]
  · rw [run_registers h, cells_writeAll]
    exact ⟨rfl, RegisterCells.lawful (m.cpu.registers.cells_tidy.writeAll _)⟩

/-- A pop of AF, whose low byte has all bits, and the interrupt that is dispatched behind it. -/
theorem register_laws_pop :
    let bus := { Bus.new (Clock.steady 0 0) with
      map := (((((Store.fill 16 0).set 0xc000 0xf1).set 0xd000 0xff).set 0xd001 0x12).set 0xff0f 1).set
        0xffff 1 }
    let m : Machine :=
      ⟨{ Cpu.new false with ime := true, registers := { pc := 0xc000, sp := 0xd000 } }, bus⟩
    let writes : List RegisterWrite :=
      [.word .pc 0xc001, .word .sp 0xd002, .word .af 0x12ff, .word .sp 0xd000, .word .pc 0x40]
    Run m [m] (m.after 1) ∧ [m].flatMap tickWrites = writes ∧
      (m.after 1).cpu.registers.cells = m.cpu.registers.cells.writeAll writes ∧
      (m.after 1).cpu.registers.cells.word .af = 0x12f0 ∧
      (m.after 1).cpu.registers.cells.Lawful := by
  intro bus m writes
  have hrun : Run m [m] (m.after 1) := run_after m 1
  obtain ⟨hwrites, haf⟩ : [m].flatMap tickWrites = writes ∧
      (m.after 1).cpu.registers.cells.word .af = 0x12f0 := by
    decide +kernel
  obtain ⟨-, -, -, -, hlaws⟩ := register_laws
  obtain ⟨hcells, hlawful⟩ := hlaws m [m] (m.after 1) hrun
  rw [hwrites] at hcells
  exact ⟨hrun, hwrites, hcells, haf, hlawful⟩

end Machine

end GameBoy
