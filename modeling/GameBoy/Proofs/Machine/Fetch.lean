import GameBoy.Proofs.Bus.ReadOverWrite
import GameBoy.Proofs.Machine.Closed

/-!
# Fetching

Code runs below the limit of the program counter, where no fetch disturbs the bus: the scanline
counter, whose reading counts, lies too high. So a fetch leaves nothing but its own traces
(`fetched`), and an execution is the fetch of an opcode and what the opcode stands for
(`execute_of_le`).
-/

namespace GameBoy

namespace Bus

/-- The bus with the boot image lifted, unless the address lies in its page. -/
def liftedAt (bus : Bus) (addr : UInt16) : Bus :=
  { bus with bootMapped := bus.bootMapped && addr < bootEnd }

/-- Lifting the boot image does not show from the address on at which it is lifted. -/
lemma shown_liftedAt (bus : Bus) {addr a : UInt16} (h : a < bootEnd → addr < bootEnd) :
    (bus.liftedAt addr).shown a = bus.shown a := by
  refine shown_congr rfl (fun _ => rfl) rfl (fun ha => ⟨?_, rfl⟩) rfl fun _ => rfl
  rw [liftedAt, decide_eq_true (h ha), Bool.and_true]

/-- Below the scanline counter a reading changes nothing. -/
lemma read_state_of_lt (bus : Bus) {addr : UInt16} (h : addr < 0xff44) :
    (read addr bus).state = bus := by
  rw [read_state]
  exact if_neg fun e => absurd (e ▸ h) (by decide)

end Bus

namespace Machine

/-- The machine behind the fetch of an opcode, which lifts the boot image behind its page. -/
def fetched (m : Machine) : Machine where
  cpu := { m.cpu with
    registers := { m.cpu.registers with pc := m.cpu.registers.pc + 1 }
    last := { addr := m.cpu.registers.pc, opcode := m.bus.shown m.cpu.registers.pc } }
  bus := m.bus.liftedAt m.cpu.registers.pc

/-- Lifting the boot image for a fetch touches nothing but its mapping. -/
lemma liftBoot_state (m : Machine) (pc : UInt16) :
    (liftBoot pc m).state = { m with bus := m.bus.liftedAt pc } := by
  have hpc : pc ≥ Bus.bootEnd ↔ ¬pc < Bus.bootEnd := UInt16.not_lt.symm
  by_cases h : pc < Bus.bootEnd
  · simp [liftBoot, Bus.liftedAt, hpc, h]
  · cases hb : m.bus.bootMapped with
    | false =>
      -- there is no boot image to lift
      have hbus : ({ m.bus with bootMapped := false } : Bus) = m.bus := by rw [← hb]
      simp [liftBoot, Bus.liftedAt, hb, hbus]
    | true => simp [liftBoot, Bus.liftedAt, hpc, h, hb, onBus, Bus.disableBoot_state]

/-- A fetch reads the opcode that the bus shows and leaves nothing but its own traces. -/
lemma fetchOpcode_lifted {m : Machine} (hpc : m.cpu.registers.pc ≤ pcLimit) :
    (fetchOpcode (liftBoot m.cpu.registers.pc m).state).value =
        m.bus.shown m.cpu.registers.pc ∧
      (fetchOpcode (liftBoot m.cpu.registers.pc m).state).state = m.fetched := by
  have hlt : m.cpu.registers.pc < 0xff44 := UInt16.lt_of_le_of_lt hpc (by decide)
  have hv : (Bus.read m.cpu.registers.pc (m.bus.liftedAt m.cpu.registers.pc)).value =
      m.bus.shown m.cpu.registers.pc := by
    rw [Bus.read_value, Bus.shown_liftedAt _ id]
  rw [liftBoot_state]
  refine ⟨hv, ?_⟩
  simp only [fetchOpcode, registers, readByte, modifyCpu, onBus, Action.bind_apply,
    Action.modify_apply, Action.pure_apply, hv, Bus.read_state_of_lt _ hlt]
  rfl

/-- The events of a fetch, which lifting the boot image may come before. -/
def fetchEvents (m : Machine) : List Event :=
  (liftBoot m.cpu.registers.pc m).events ++
    (fetchOpcode (liftBoot m.cpu.registers.pc m).state).events

/-- An execution below the limit fetches an opcode and goes on as the opcode says. -/
lemma execute_of_le {m : Machine} (hpc : m.cpu.registers.pc ≤ pcLimit) :
    let rest := executeOpcode m.cpu.registers.pc (m.bus.shown m.cpu.registers.pc) m.fetched
    execute m = ⟨rest.value, rest.state, m.fetchEvents ++ rest.events⟩ := by
  obtain ⟨hv, hm⟩ := fetchOpcode_lifted hpc
  have hlimit : ¬m.cpu.registers.pc > pcLimit := UInt16.not_lt.mpr hpc
  simp +instances only [execute_eq, registers, Action.bind_apply, Action.ite_apply, if_neg hlimit, hv, hm,
    fetchEvents, List.nil_append, List.append_assoc]

/-- Above the limit nothing is fetched. -/
lemma execute_of_lt {m : Machine} (hpc : pcLimit < m.cpu.registers.pc) :
    execute m = ⟨.error (.pcOverflow m.cpu.registers.pc), m, []⟩ := by
  have hlimit : m.cpu.registers.pc > pcLimit := hpc
  simp +instances only [execute_eq, registers, Action.bind_apply, Action.ite_apply, if_pos hlimit]
  rfl

end Machine

end GameBoy
