import GameBoy.Proofs.Lockstep
import GameBoy.Proofs.Machine.Respected

/-!
# Machines in lockstep

Two machines with the same processor go the same way, tick by tick, if their buses answer alike and
hold the same in the two interrupt registers (`Coupled`), until the first does something that the
relation between the buses does not allow for (`tick_lockstep`).
-/

namespace GameBoy

open GameBoy.Action (Lockstep)

variable {S : Bus → Bus → Prop} {bad : Event → Prop}

/-- A relation between buses that everything keeps up that a machine does to its bus, and by which the
processor cannot tell the buses apart, as long as nothing bad happens. -/
structure Bus.Coupled (S : Bus → Bus → Prop) (bad : Event → Prop) : Prop where
  read (addr : UInt16) : Lockstep S bad (read addr) (read addr)
  write (addr : UInt16) (v : UInt8) : Lockstep S bad (write addr v) (write addr v)
  lift : Lockstep S bad disableBoot disableBoot
  flag {s t : Bus} (h : S s t) (v : UInt8) :
    S (s.setIo .interruptFlag v) (t.setIo .interruptFlag v)
  requested {s t : Bus} (h : S s t) : t.io .interruptFlag = s.io .interruptFlag
  enabled {s t : Bus} (h : S s t) : t.io .interruptEnable = s.io .interruptEnable
  mapped {s t : Bus} (h : S s t) : t.bootMapped = s.bootMapped

namespace Machine

/-- Two machines with the same processor and related buses. -/
structure Paired (S : Bus → Bus → Prop) (m m' : Machine) : Prop where
  cpu : m'.cpu = m.cpu
  bus : S m.bus m'.bus

variable {α : Type}

/-- What goes the same way on two buses goes the same way on their machines. -/
lemma onBus_lockstep {x y : Action Bus α} (h : Lockstep S bad x y) :
    Lockstep (Paired S) bad (onBus x) (onBus y) := by
  intro m m' hm hgood
  obtain ⟨hv, he, hs⟩ := h m.bus m'.bus hm.bus hgood
  exact ⟨hv, he, hm.cpu, hs⟩

/-- Changes of the processor go the same way. -/
lemma modifyCpu_lockstep (f : Cpu → Cpu) :
    Lockstep (Paired S) bad (modifyCpu f) (modifyCpu f) :=
  .modify fun _ _ hm => ⟨congrArg f hm.cpu, hm.bus⟩

/-- What depends on the processor alone goes the same way. -/
lemma ask_lockstep {f : Cpu → Action Machine α} (h : ∀ cpu, Lockstep (Paired S) bad (f cpu) (f cpu)) :
    Lockstep (Paired S) bad (Action.get >>= fun m => f m.cpu) (Action.get >>= fun m => f m.cpu) := by
  refine .get fun m m' hm => ?_
  rw [hm.cpu]
  exact h m.cpu

/-- Instructions, and everything else that is made of what they are made of. -/
lemma Made.lockstep (hS : Bus.Coupled S bad) {x : Action Machine α} (h : Made x) :
    Lockstep (Paired S) bad x x := by
  induction h with
  | pure a => exact .pure a
  | bind _ _ ihx ihf => exact .bind ihx ihf
  | ask _ ih => exact ask_lockstep ih
  | modifyCpu _ => exact modifyCpu_lockstep _
  | note _ => exact .emit _
  | read addr => exact onBus_lockstep (hS.read addr)
  | write addr v => exact onBus_lockstep (hS.write addr v)

/-! ## The parts of a tick -/

/-- The boot image is lifted the same way. -/
lemma liftBoot_lockstep (hS : Bus.Coupled S bad) (pc : UInt16) :
    Lockstep (Paired S) bad (liftBoot pc) (liftBoot pc) := by
  refine .get fun m m' hm => ?_
  rw [hS.mapped hm.bus]
  exact .ite (onBus_lockstep hS.lift) (.pure _)

/-- An opcode is executed the same way. -/
lemma executeOpcode_lockstep (hS : Bus.Coupled S bad) (pc : UInt16) (opcode : UInt8) :
    Lockstep (Paired S) bad (executeOpcode pc opcode) (executeOpcode pc opcode) := by
  refine .bind ((Made.completeInstruction _).lockstep hS) fun i? => ?_
  split
  · exact .pure _
  · exact .bind (.emit _) fun _ => .pure _
  · next i _ =>
    refine .bind (Made.registers.lockstep hS) fun r => .bind ((Made.perform _).lockstep hS) fun _ => ?_
    refine ask_lockstep (f := fun cpu => do
      .note (.executed cpu.last)
      return Except.ok (i.cost r.flags)) fun cpu => ?_
    exact .bind (.emit _) fun _ => .pure _

/-- Instructions are fetched and executed the same way. -/
lemma execute_lockstep (hS : Bus.Coupled S bad) : Lockstep (Paired S) bad execute execute := by
  rw [execute_eq]
  refine .bind (Made.registers.lockstep hS) fun r => .ite (.pure _) ?_
  exact .bind (liftBoot_lockstep hS _) fun _ => .bind (Made.fetchOpcode.lockstep hS) fun _ =>
    executeOpcode_lockstep hS _ _

/-- Interrupts are dispatched the same way. -/
lemma dispatch_lockstep (hS : Bus.Coupled S bad) (i : Interrupt) :
    Lockstep (Paired S) bad (dispatch i) (dispatch i) := by
  refine .bind (onBus_lockstep (.modify fun s t h => ?_)) fun _ => ?_
  · rw [hS.requested h]
    exact hS.flag h _
  · exact .bind (modifyCpu_lockstep _) fun _ => .bind (Made.registers.lockstep hS) fun _ =>
      .bind ((Made.push _).lockstep hS) fun _ => .bind (modifyCpu_lockstep _) fun _ =>
        .bind (modifyCpu_lockstep _) fun _ => .emit _

/-- The same interrupt is pending in both machines. -/
lemma pending_congr (hS : Bus.Coupled S bad) {m m' : Machine} (h : Paired S m m') :
    m'.pending = m.pending := by
  rw [pending, pending, hS.enabled h.bus, hS.requested h.bus]

/-- A look at the interrupts goes the same way. -/
lemma serviceInterrupts_lockstep (hS : Bus.Coupled S bad) :
    Lockstep (Paired S) bad serviceInterrupts serviceInterrupts := by
  refine .get fun m m' hm => ?_
  rw [pending_congr hS hm, hm.cpu]
  split
  · exact .pure _
  · refine .ite (.bind (dispatch_lockstep hS _) fun _ => .pure _) ?_
    exact .ite (.bind (.emit _) fun _ => .bind (modifyCpu_lockstep _) fun _ => .pure _) (.pure _)

/-- What follows an execution goes the same way. -/
lemma settle_lockstep (hS : Bus.Coupled S bad) : Lockstep (Paired S) bad settle settle :=
  .bind (modifyCpu_lockstep _) fun _ => .bind (serviceInterrupts_lockstep hS) fun _ => .pure _

/-- Faults are latched the same way. -/
lemma latch_lockstep (fault : Fault) : Lockstep (Paired S) bad (latch fault) (latch fault) := by
  refine .bind (.emit _) fun _ => ask_lockstep (f := fun cpu => do
    .note (.dump .cpu cpu.dump)
    modifyCpu fun cpu => { cpu with fault := some fault }) fun cpu => ?_
  exact .bind (.emit _) fun _ => modifyCpu_lockstep _

/-- What follows the answer of an execution goes the same way. -/
lemma finish_lockstep (hS : Bus.Coupled S bad) (done : Except Fault Nat) :
    Lockstep (Paired S) bad (finish done) (finish done) := by
  cases done with
  | error fault => exact .bind (latch_lockstep fault) fun _ => .pure _
  | ok cost =>
    exact .bind (modifyCpu_lockstep _) fun _ => .bind (settle_lockstep hS) fun _ => .pure _

/-- Two such machines stay alike in a tick. -/
theorem tick_lockstep (hS : Bus.Coupled S bad) : Lockstep (Paired S) bad tick tick := by
  refine .get fun m m' hm => ?_
  rw [hm.cpu]
  refine .ite (.pure _) (.ite ?_ (.bind (settle_lockstep hS) fun _ => .pure _))
  refine .bind (execute_lockstep hS) fun done => ?_
  cases done with
  | error fault => exact finish_lockstep hS (.error fault)
  | ok cost => exact finish_lockstep hS (.ok cost)

end Machine

end GameBoy
