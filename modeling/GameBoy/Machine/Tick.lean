import GameBoy.Machine.Execution

/-!
# Ticks and steps

A tick is one clock cycle: it executes the next instruction if nothing is owed, pays one cycle, and
then looks at the interrupts. A step is as many ticks as it takes to execute an instruction.
-/

namespace GameBoy.Machine

/-- The price of a dispatch. -/
def dispatchCost : Nat := 20

/-- The most urgent interrupt that is both requested and enabled. -/
def pending (m : Machine) : Option Interrupt :=
  Interrupt.highest (m.bus.io .interruptEnable &&& m.bus.io .interruptFlag)

/-- Clears a requested interrupt and calls its service routine. The price is added in the word of what
is owed: over the end of the word only the remainder stays owed. -/
def dispatch (i : Interrupt) : Action Machine Unit := do
  onBus (.modify fun bus => bus.setIo .interruptFlag (bus.io .interruptFlag &&& ~~~i.bit))
  modifyCpu fun cpu => { cpu with ime := false, halted := false }
  let pc := (← registers).pc
  push pc
  jumpTo i.vector
  modifyCpu fun cpu =>
    { cpu with
      debt := cpu.debt + UInt32.ofNat dispatchCost
      cycles := cpu.cycles + dispatchCost }
  .note (.serviced i pc)

/-- Dispatches the most urgent pending interrupt if interrupts are enabled at all. If they are not,
a pending interrupt only ends a halt. -/
def serviceInterrupts : Action Machine (Option Interrupt) := do
  let m ← .get
  match m.pending with
  | none => return none
  | some i =>
    if m.cpu.ime then
      dispatch i
      return some i
    else
      if m.cpu.halted then
        .note (.haltLeft i)
        modifyCpu fun cpu => { cpu with halted := false }
      return none

/-- Stops the processor for good. -/
def latch (fault : Fault) : Action Machine Unit := do
  .note (.cpuFault fault)
  .note (.dump .cpu (← .get).cpu.dump)
  modifyCpu fun cpu => { cpu with fault := some fault }

/-- The part of a tick behind the execution of an instruction. -/
def settle : Action Machine Unit := do
  modifyCpu Cpu.pay
  discard serviceInterrupts

/-- One clock cycle; the answer tells whether an instruction was executed. A processor with a fault
does nothing. -/
def tick : Action Machine Bool := do
  let m ← .get
  if m.cpu.isPanicked then return false
  else if m.cpu.isReady then
    match ← execute with
    | .error fault =>
      latch fault
      return false
    | .ok cost =>
      modifyCpu fun cpu => cpu.charge cost
      settle
      return true
  else
    settle
    return false

/-- Ticks until an instruction is executed, at most `limit` times, and answers with its price. The
answer is 0 if the processor stops or waits for an interrupt. -/
def stepWithin : Nat → Action Machine Nat
  | 0 => return 0
  | limit + 1 => do
    let executed ← tick
    let m ← .get
    if executed then return m.cpu.lastCost
    else if m.cpu.isPanicked || m.cpu.isIdle then return 0
    else stepWithin limit

/-- Ticks until an instruction is executed. What is owed, one dispatch and the ticks that begin and
end the wait bound their number. -/
def step : Action Machine Nat := do stepWithin ((← .get).cpu.owed + dispatchCost + 2)

end GameBoy.Machine
