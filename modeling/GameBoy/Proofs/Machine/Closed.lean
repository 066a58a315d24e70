import GameBoy.Machine.Execution
import GameBoy.Proofs.Ensures
import GameBoy.Proofs.Machine.OpcodeTables

/-!
# Properties of all instructions

Every instruction is made of readings, writes, log records and changes of the processor
(`Made.perform`), so that a property of all of them is proved of these parts, without a look at the
single instructions. A relation that the parts respect is respected by what is made of them
(`Made.ensures`), and by fetching and executing an instruction if lifting the boot image respects it
too (`execute_ensures`). What an execution answers with is said by `execute_value`.
-/

namespace GameBoy

/-- The part of the processor that instructions do not touch. -/
def Cpu.ledger (cpu : Cpu) : UInt32 × Nat × Option Fault × Nat × Nat :=
  (cpu.debt, cpu.lastCost, cpu.fault, cpu.cycles, cpu.instructions)

/-- Whether a record tells of a dispatch, which no instruction does. -/
def Notice.isDispatch : Notice → Bool
  | .serviced _ _ => true
  | _ => false

namespace Machine

/-- A relation that everything that instructions are made of respects. -/
structure Closed (R : Machine → List Event → Machine → Prop) : Prop extends Composes R where
  cpu (m : Machine) (cpu : Cpu) (h : cpu.ledger = m.cpu.ledger) : R m [] { m with cpu }
  note (m : Machine) (n : Notice) (h : n.isDispatch = false) : R m [.notice n] m
  read (addr : UInt16) : (readByte addr).Ensures R
  write (addr : UInt16) (v : UInt8) : (writeByte addr v).Ensures R

variable {R : Machine → List Event → Machine → Prop}

/-- A word is read as two bytes, the low one first. -/
lemma onBus_readWord (addr : UInt16) :
    onBus (Bus.readWord addr) =
      (do
        let lo ← readByte addr
        let hi ← readByte (addr + 1)
        return Word.join hi lo) :=
  rfl

/-- A word is written as two bytes, the low one first. -/
lemma onBus_writeWord (addr v : UInt16) :
    onBus (Bus.writeWord addr v) =
      (do
        writeByte addr (Word.low v)
        writeByte (addr + 1) (Word.high v)) :=
  rfl

/-- What instructions tell of is no dispatch. -/
lemma not_isDispatch_of_component {n : Notice} (h : n.component = .instructions) :
    n.isDispatch = false := by
  cases n <;> first | rfl | cases h

/-- Actions made of what instructions are made of: readings, writes, their own log records, changes
of the processor and looks at it. -/
inductive Made : {α : Type} → Action Machine α → Prop where
  | pure {α : Type} (a : α) : Made (Pure.pure a)
  | bind {α β : Type} {x : Action Machine α} {f : α → Action Machine β} :
    Made x → (∀ a, Made (f a)) → Made (x >>= f)
  | ask {α : Type} {f : Cpu → Action Machine α} :
    (∀ cpu, Made (f cpu)) → Made (Action.get >>= fun m => f m.cpu)
  | modifyCpu {f : Cpu → Cpu} : (∀ cpu, (f cpu).ledger = cpu.ledger) → Made (modifyCpu f)
  | note {n : Notice} : n.component = .instructions → Made (Action.note n)
  | read (addr : UInt16) : Made (readByte addr)
  | write (addr : UInt16) (v : UInt8) : Made (writeByte addr v)

namespace Made

variable {α : Type}

/-- What is made of such parts respects what they respect. -/
theorem ensures (hR : Closed R) {x : Action Machine α} (h : Made x) : x.Ensures R := by
  induction h with
  | pure a => exact .pure hR.toComposes a
  | bind _ _ ihx ihf => exact .bind hR.toComposes ihx ihf
  | ask _ ih => exact .bind hR.toComposes (.get hR.toComposes) fun m => ih m.cpu
  | modifyCpu h => exact fun m => hR.cpu m _ (h m.cpu)
  | note h => exact fun m => hR.note m _ (not_isDispatch_of_component h)
  | read addr => exact hR.read addr
  | write addr v => exact hR.write addr v

/-- A choice between actions of such parts is made of them too. -/
lemma ite {c : Prop} [Decidable c] {x y : Action Machine α} (hx : Made x) (hy : Made y) :
    Made (if c then x else y) := by
  split
  · exact hx
  · exact hy

/-- Registers are changed as parts of the processor. -/
lemma modifyRegisters (f : Registers → Registers) : Made (modifyRegisters f) :=
  .modifyCpu fun _ => rfl

/-- Registers are read as parts of the processor. -/
lemma registers : Made registers := .ask fun cpu => .pure cpu.registers

/-- A word is read from the bus. -/
lemma readWord (addr : UInt16) : Made (onBus (Bus.readWord addr)) := by
  rw [onBus_readWord]
  exact .bind (.read _) fun _ => .bind (.read _) fun _ => .pure _

/-- A word is written to the bus. -/
lemma writeWord (addr v : UInt16) : Made (onBus (Bus.writeWord addr v)) := by
  rw [onBus_writeWord]
  exact .bind (.write _ _) fun _ => .write _ _

/-- The byte behind the opcode is read from the bus and recorded. -/
lemma fetchByte : Made fetchByte :=
  .bind registers fun _ => .bind (.read _) fun _ => .bind (.modifyCpu fun _ => rfl) fun _ => .pure _

/-- The word behind the opcode is read from the bus and recorded. -/
lemma fetchWord : Made fetchWord :=
  .bind registers fun _ => .bind (readWord _) fun _ => .bind (.modifyCpu fun _ => rfl) fun _ =>
    .pure _

/-- The opcode is read from the bus and recorded. -/
lemma fetchOpcode : Made fetchOpcode :=
  .bind registers fun _ => .bind (.read _) fun _ => .bind (.modifyCpu fun _ => rfl) fun _ => .pure _

/-- An operand is a register or is read from the bus. -/
lemma readOperand (operand : Operand) : Made (readOperand operand) := by
  cases operand with
  | reg r => exact .bind registers fun _ => .pure _
  | atHl => exact .bind registers fun _ => .read _

/-- An operand is a register or is written to the bus. -/
lemma writeOperand (operand : Operand) (v : UInt8) : Made (writeOperand operand v) := by
  cases operand with
  | reg r =>
    rw [Machine.writeOperand]
    exact modifyRegisters _
  | atHl => exact .bind registers fun _ => .write _ _

/-- A push writes to the bus. -/
lemma push (v : UInt16) : Made (push v) :=
  .bind registers fun _ => .bind (.write _ _) fun _ => .bind (.write _ _) fun _ => modifyRegisters _

/-- A pop reads from the bus. -/
lemma pop : Made pop :=
  .bind registers fun _ => .bind (readWord _) fun _ => .bind (modifyRegisters _) fun _ => .pure _

/-- Following a pointer may move HL. -/
lemma follow (p : Pointer) : Made (follow p) := by
  cases p with
  | bc | de => exact .bind registers fun _ => .pure _
  | hlInc | hlDec => exact .bind registers fun _ => .bind (modifyRegisters _) fun _ => .pure _

/-- What is done on a condition. -/
lemma guarded (cc : Option Condition) {act : Action Machine Unit} (h : Made act) :
    Made (guarded cc act) :=
  .bind registers fun _ => .ite h (.pure _)

/-- The accumulator is loaded from the bus. -/
lemma loadA (addr : UInt16) : Made (loadA addr) := .bind (.read _) fun _ => modifyRegisters _

/-- The accumulator is stored on the bus. -/
lemma storeA (addr : UInt16) : Made (storeA addr) := .bind registers fun _ => .write _ _

/-- The accumulator is combined with a byte. -/
lemma combine (op : AluOp) (n : UInt8) : Made (combine op n) :=
  .bind registers fun _ => modifyRegisters _

/-- An operand is read, and then written with the flags. -/
lemma update (operand : Operand) (f : UInt8 → Flags → UInt8 × Flags) : Made (update operand f) :=
  .bind (readOperand _) fun _ => .bind registers fun _ => .bind (writeOperand _ _) fun _ =>
    modifyRegisters _

/-- A call pushes and jumps. -/
lemma callTo (addr : UInt16) : Made (callTo addr) :=
  .bind registers fun _ => .bind (push _) fun _ => modifyRegisters _

/-- A return pops and jumps. -/
lemma returnToCaller : Made returnToCaller := .bind pop fun _ => modifyRegisters _

/-- Every instruction is made of such parts. -/
theorem perform (i : Instruction) : Made (perform i) := by
  cases i with
  | nop | stop => exact .pure _
  | halt =>
    refine .ask (f := fun cpu => do
      .note (.halted cpu.last.addr)
      Machine.modifyCpu fun cpu => { cpu with halted := true }) fun cpu => ?_
    exact .bind (.note rfl) fun _ => .modifyCpu fun _ => rfl
  | di | ei => exact .bind (.note rfl) fun _ => .modifyCpu fun _ => rfl
  | load dst src => exact .bind (readOperand _) fun _ => writeOperand _ _
  | loadImmediate dst n => exact writeOperand _ _
  | storeIndirect p => exact .bind (follow _) fun _ => storeA _
  | loadIndirect p => exact .bind (follow _) fun _ => loadA _
  | storeHigh n | storeAbsolute n => exact storeA _
  | loadHigh n | loadAbsolute n => exact loadA _
  | storeHighC => exact .bind registers fun _ => storeA _
  | loadHighC => exact .bind registers fun _ => loadA _
  | storeSp nn => exact .bind registers fun _ => writeWord _ _
  | push r => exact .bind registers fun _ => push _
  | pop r => exact .bind pop fun _ => modifyRegisters _
  | alu op src => exact .bind (readOperand _) fun _ => combine _ _
  | aluImmediate op n => exact combine _ _
  | inc r => exact update r Alu.inc
  | dec r => exact update r Alu.dec
  | shift op r => exact update r fun v flags => op.apply v flags.carry
  | daa | shiftA op => exact .bind registers fun _ => modifyRegisters _
  | loadWord r nn | spFromHl | hlFromSp e | cpl | scf | ccf | incWord r | decWord r | addHl r | addSp e
  | jumpHl =>
    rw [Machine.perform]
    exact modifyRegisters _
  | jumpRelative cc e | jump cc nn => exact guarded _ (modifyRegisters _)
  | call cc nn => exact guarded _ (callTo _)
  | ret cc => exact guarded _ returnToCaller
  | reti => exact .bind (.modifyCpu fun _ => rfl) fun _ => returnToCaller
  | restart target => exact callTo _
  | bit i r =>
    exact .bind (readOperand _) fun _ => .bind registers fun _ => modifyRegisters _
  | res i r | set i r => exact .bind (readOperand _) fun _ => writeOperand _ _

/-- Completing an instruction reads what is behind its opcode. -/
lemma completeInstruction (encoding : Encoding) : Made (completeInstruction encoding) := by
  cases encoding with
  | unknown | removed | bare i => exact .pure _
  | withByte f => exact .bind fetchByte fun _ => .pure _
  | withWord f => exact .bind fetchWord fun _ => .pure _

end Made

/-- Lifts the boot image before a fetch behind its page. -/
def liftBoot (pc : UInt16) : Action Machine Unit := do
  if pc ≥ Bus.bootEnd && (← .get).bus.bootMapped then onBus Bus.disableBoot

/-- What is left of an execution when the opcode is fetched. -/
def executeOpcode (pc : UInt16) (opcode : UInt8) : Action Machine (Except Fault Nat) :=
  executeEncoding pc opcode (Handler.decode opcode)

/-- The slots of the table decide no opcode to be unknown. -/
lemma opcodeFault_decode (pc : UInt16) (opcode : UInt8) :
    opcodeFault pc opcode (Handler.decode opcode) = .removedOpcode pc opcode := by
  cases h : Handler.decode opcode with
  | unknown => exact absurd h (Handler.decode_ne_unknown opcode)
  | _ => rfl

/-- An execution in its stages. -/
lemma execute_eq :
    execute =
      (do
        let r ← registers
        if r.pc > pcLimit then return .error (.pcOverflow r.pc)
        else
          liftBoot r.pc
          let opcode ← fetchOpcode
          executeOpcode r.pc opcode) := by
  refine bind_congr fun r => ?_
  dsimp only
  by_cases h : r.pc > pcLimit
  · rw [if_pos h, if_pos h]
  · rw [if_neg h, if_neg h, liftBoot, bind_assoc]
    refine bind_congr fun m => ?_
    split
    · rfl
    · rw [pure_bind]
      rfl

/-- The fault of an opcode names its address. -/
lemma opcodeFault_addr (pc : UInt16) (opcode : UInt8) (encoding : Encoding) :
    (opcodeFault pc opcode encoding).addr = pc := by
  cases encoding <;> rfl

/-- Behind the fetch, an execution answers with a fault at its opcode or with the price of an
instruction. -/
lemma executeOpcode_value (pc : UInt16) (opcode : UInt8) (m : Machine) :
    (∃ fault, (executeOpcode pc opcode m).value = .error fault ∧ fault.addr = pc) ∨
      ∃ (i : Instruction) (flags : Flags), (executeOpcode pc opcode m).value = .ok (i.cost flags) := by
  rw [executeOpcode, executeEncoding, Action.bind_apply]
  generalize completeInstruction (Handler.decode opcode) m = done
  obtain ⟨i?, m', es⟩ := done
  dsimp only
  split
  · exact .inl ⟨_, rfl, opcodeFault_addr _ _ _⟩
  · exact .inl ⟨_, rfl, rfl⟩
  · exact .inr ⟨_, _, rfl⟩

/-- A whole execution answers with a price, or with a fault that names the program counter. -/
lemma execute_value (m : Machine) :
    (∃ fault, (execute m).value = .error fault ∧ fault.addr = m.cpu.registers.pc) ∨
      ∃ (i : Instruction) (flags : Flags), (execute m).value = .ok (i.cost flags) := by
  rw [execute_eq, Action.bind_apply]
  dsimp only
  split
  · exact .inl ⟨_, rfl, rfl⟩
  · exact executeOpcode_value _ _ _

/-- Behind the fetch, an execution is made of such parts, but for the record of its instruction. -/
lemma executeOpcode_ensures (hR : Closed R) (pc : UInt16) (opcode : UInt8) :
    (executeOpcode pc opcode).Ensures R := by
  have hC := hR.toComposes
  refine .bind hC ((Made.completeInstruction _).ensures hR) fun i? => ?_
  split
  · exact .pure hC _
  · exact .bind hC (fun m => hR.note m _ rfl) fun _ => .pure hC _
  · exact .bind hC (Made.registers.ensures hR) fun _ => .bind hC ((Made.perform _).ensures hR) fun _ =>
      .bind hC (.get hC) fun _ => .bind hC (fun m => hR.note m _ rfl) fun _ => .pure hC _

/-- Fetching and executing an instruction ensures every closed relation that lifting the boot image
ensures. -/
theorem execute_ensures (hR : Closed R) (hlift : (onBus Bus.disableBoot).Ensures R) :
    execute.Ensures R := by
  have hC := hR.toComposes
  rw [execute_eq]
  refine .bind hC (Made.registers.ensures hR) fun r => .ite (fun _ => .pure hC _) fun _ => ?_
  have hboot : (liftBoot r.pc).Ensures R :=
    .bind hC (.get hC) fun _ => .ite (fun _ => hlift) fun _ => .pure hC _
  exact .bind hC hboot fun _ => .bind hC (Made.fetchOpcode.ensures hR) fun _ =>
    executeOpcode_ensures hR _ _

end Machine

end GameBoy
