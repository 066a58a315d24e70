import GameBoy.Machine.Basic

/-!
# Executing an instruction

`perform` is the effect of an instruction whose immediates have been read, `execute` fetches one,
performs it and answers with its price. Everything that can fail does so right after the fetch:
`perform` is total, and an instruction that cannot be executed changes nothing but the program
counter, the record of the last instruction and the boot mapping.
-/

namespace GameBoy.Machine

/-- The address of an offset in the last page. -/
def highPage (n : UInt8) : UInt16 := 0xff00 ||| n.toUInt16

/-- Does something if a condition on the flags is absent or holds. -/
def guarded (cc : Option Condition) (act : Action Machine Unit) : Action Machine Unit := do
  if Condition.allows cc (← registers).flags then act

/-- Loads the accumulator from an address. -/
def loadA (addr : UInt16) : Action Machine Unit := do
  let v ← readByte addr
  modifyRegisters fun r => { r with a := v }

/-- Stores the accumulator to an address. -/
def storeA (addr : UInt16) : Action Machine Unit := do writeByte addr (← registers).a

/-- Combines the accumulator with a value. -/
def combine (op : AluOp) (n : UInt8) : Action Machine Unit := do
  let r ← registers
  setResult (op.apply r.a n r.flags.carry)

/-- Replaces an operand and all flags by a function of the operand and the flags. -/
def update (operand : Operand) (f : UInt8 → Flags → UInt8 × Flags) : Action Machine Unit := do
  let v ← readOperand operand
  let (v, flags) := f v (← registers).flags
  writeOperand operand v
  setFlags flags

/-- Saves the program counter on the stack and goes to an address. -/
def callTo (addr : UInt16) : Action Machine Unit := do
  push (← registers).pc
  jumpTo addr

/-- Goes back to the address on the stack. -/
def returnToCaller : Action Machine Unit := do jumpTo (← pop)

/-- The effect of an instruction. -/
def perform : Instruction → Action Machine Unit
  | .nop | .stop => return
  | .halt => do
    .note (.halted (← .get).cpu.last.addr)
    modifyCpu fun cpu => { cpu with halted := true }
  | .di => do
    .note .interruptsDisabled
    modifyCpu fun cpu => { cpu with ime := false }
  | .ei => do
    .note .interruptsEnabled
    modifyCpu fun cpu => { cpu with ime := true }
  | .load dst src => do writeOperand dst (← readOperand src)
  | .loadImmediate dst n => writeOperand dst n
  | .storeIndirect p => do storeA (← follow p)
  | .loadIndirect p => do loadA (← follow p)
  | .storeHigh n => storeA (highPage n)
  | .loadHigh n => loadA (highPage n)
  | .storeHighC => do storeA (highPage (← registers).c)
  | .loadHighC => do loadA (highPage (← registers).c)
  | .storeAbsolute nn => storeA nn
  | .loadAbsolute nn => loadA nn
  | .loadWord which nn => modifyRegisters fun r => r.setWord which nn
  | .storeSp nn => do onBus (Bus.writeWord nn (← registers).sp)
  | .spFromHl => modifyRegisters fun r => { r with sp := r.hl }
  | .hlFromSp e => modifyRegisters fun r =>
    let (v, flags) := Alu.addDisplacement r.sp e
    { r.setHl v with flags }
  | .push which => do push ((← registers).word which)
  | .pop which => do
    let v ← pop
    modifyRegisters fun r => r.setWord which v
  | .alu op src => do combine op (← readOperand src)
  | .aluImmediate op n => combine op n
  | .inc operand => update operand Alu.inc
  | .dec operand => update operand Alu.dec
  | .daa => do
    let r ← registers
    setResult (Alu.daa r.a r.flags)
  | .cpl => modifyRegisters fun r =>
    { r with a := ~~~r.a, flags := { r.flags with subtract := true, halfCarry := true } }
  | .scf => modifyRegisters fun r => { r with flags := { zero := r.flags.zero, carry := true } }
  | .ccf => modifyRegisters fun r =>
    { r with flags := { zero := r.flags.zero, carry := !r.flags.carry } }
  | .shiftA op => do
    let r ← registers
    setResult (op.applyToA r.a r.flags.carry)
  | .incWord which => modifyRegisters fun r => r.setWord which (r.word which + 1)
  | .decWord which => modifyRegisters fun r => r.setWord which (r.word which - 1)
  | .addHl which => modifyRegisters fun r =>
    let (v, flags) := Alu.addWord r.hl (r.word which) r.flags
    { r.setHl v with flags }
  | .addSp e => modifyRegisters fun r =>
    let (v, flags) := Alu.addDisplacement r.sp e
    { r with sp := v, flags }
  | .jumpRelative cc e =>
    guarded cc (modifyRegisters fun r => { r with pc := r.pc + Word.signed e })
  | .jump cc nn => guarded cc (jumpTo nn)
  | .jumpHl => modifyRegisters fun r => { r with pc := r.hl }
  | .call cc nn => guarded cc (callTo nn)
  | .ret cc => guarded cc returnToCaller
  | .reti => do
    modifyCpu fun cpu => { cpu with ime := true }
    returnToCaller
  | .restart target => callTo target.toUInt16
  | .shift op operand => update operand fun v flags => op.apply v flags.carry
  | .bit i operand => do
    let v ← readOperand operand
    setFlags (Alu.testBit i v (← registers).flags)
  | .res i operand => do writeOperand operand ((← readOperand operand) &&& ~~~(1 <<< i))
  | .set i operand => do writeOperand operand ((← readOperand operand) ||| (1 <<< i))

/-- Instructions are fetched from no address above this one. -/
def pcLimit : UInt16 := 0xff00

/-- Fetches an opcode, which starts a new record of the last instruction. -/
def fetchOpcode : Action Machine UInt8 := do
  let pc := (← registers).pc
  let opcode ← readByte pc
  modifyCpu fun cpu =>
    { cpu with
      registers := { cpu.registers with pc := pc + 1 }
      last := { addr := pc, opcode } }
  return opcode

/-- Reads the immediates that an opcode calls for. -/
def completeInstruction : Encoding → Action Machine (Option Instruction)
  | .unknown | .removed => return none
  | .bare i => return some i
  | .withByte f => return some (f (← fetchByte))
  | .withWord f => return some (f (← fetchWord))

/-- The fault of an opcode at `pc` that stands for no instruction. -/
def opcodeFault (pc : UInt16) (opcode : UInt8) : Encoding → Fault
  | .unknown => .unknownOpcode pc opcode
  | _ => .removedOpcode pc opcode

/-- Executes what an opcode fetched at `pc` stands for and answers with the price. -/
def executeEncoding (pc : UInt16) (opcode : UInt8) (encoding : Encoding) :
    Action Machine (Except Fault Nat) := do
  match ← completeInstruction encoding with
  | none => return .error (opcodeFault pc opcode encoding)
  | some .stop =>
    .note (.stopped pc)
    return .error (.stop pc)
  | some i =>
    let cost := i.cost (← registers).flags
    perform i
    .note (.executed (← .get).cpu.last)
    return .ok cost

/-- Fetches and executes one instruction and answers with its price. A fetch behind the boot page
lifts the boot image first. The table of handlers decides what the opcode stands for. -/
def execute : Action Machine (Except Fault Nat) := do
  let pc := (← registers).pc
  if pc > pcLimit then return .error (.pcOverflow pc)
  else
    if pc ≥ Bus.bootEnd && (← .get).bus.bootMapped then onBus Bus.disableBoot
    let opcode ← fetchOpcode
    executeEncoding pc opcode (Handler.decode opcode)

end GameBoy.Machine
