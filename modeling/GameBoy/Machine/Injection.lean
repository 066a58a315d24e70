import GameBoy.Machine.Tick

/-!
# Injected code

Code can be run in the middle of a program without being kept: the bytes that it replaces, the
program counter, the halt, the owed cycles and the boot mapping are put back afterwards. It runs
below the boot image, for a given number of instructions or until one of them does nothing.
-/

namespace GameBoy.Machine

/-- How long injected code runs: for a number of instructions, or until the opcode of no operation
is executed, where the patience says when to give up. -/
inductive InjectionLimit where
  | instructions (n : Nat)
  | untilNop (patience : Nat)
  deriving DecidableEq, Repr

/-- One step of injected code. -/
def injectedStep (stopAtNop : Bool) : Action Machine Verdict := do
  let cost ← step
  if cost = 0 then return .refused
  else if stopAtNop && (← .get).cpu.last.opcode == 0 then return .last
  else return .again

/-- Runs injected code and answers with the number of instructions executed, or with none if the
patience was at an end. -/
def runInjected : InjectionLimit → Action Machine (Option Nat)
  | .instructions n => return some (← Action.upTo n (injectedStep false)).count
  | .untilNop patience => do
    let tally ← Action.upTo patience (injectedStep true)
    return if tally.ended then some tally.count else none

/-- Replaces the bytes behind an address and gives what was there. -/
def patch (addr : UInt16) (bytes : List UInt8) : Action Machine (List UInt8) := fun m =>
  let (old, bus) := m.bus.patch addr bytes
  ⟨old, { m with bus }, []⟩

/-- Runs `code` at `addr` and puts everything back. -/
def inject (code : List UInt8) (addr : UInt16) (limit : InjectionLimit) :
    Action Machine (Option Nat) := do
  let before ← .get
  onBus Bus.disableBoot
  let saved ← patch addr code
  modifyCpu fun cpu =>
    { cpu with registers := { cpu.registers with pc := addr }, debt := 0, halted := false }
  let executed ← runInjected limit
  let _ ← patch addr saved
  modifyCpu fun cpu =>
    { cpu with
      registers := { cpu.registers with pc := before.cpu.registers.pc }
      debt := before.cpu.debt
      halted := before.cpu.halted }
  if before.bus.bootMapped then onBus Bus.enableBoot
  return executed

end GameBoy.Machine
