import GameBoy.Proofs.Machine.Fetch
import GameBoy.Proofs.Machine.Ticked
import GameBoy.Proofs.Reference.Agreement
import Mathlib.Tactic.FinCases

/-!
# Faults of the processor

A fault is found at a fetch or not at all: the program counter is too high, or the opcode is STOP or
one that the processor lacks (`faultAhead`). It leaves the traces of the fetch and nothing else
(`arrested`), and it is final.
-/

namespace GameBoy

/-- The opcodes that the processor lacks. -/
def Encoding.lacking : List UInt8 :=
  [0xd3, 0xdb, 0xdd, 0xe3, 0xe4, 0xeb, 0xec, 0xed, 0xf4, 0xfc, 0xfd]

/-- The opcodes that the processor lacks stand for removed instructions. -/
lemma Encoding.ofOpcode_of_mem {opcode : UInt8} (h : opcode ∈ lacking) :
    ofOpcode opcode = .removed := by
  fin_cases h <;> rfl

/-- An opcode is lacking, is STOP, is the prefix, or stands for an operation. -/
lemma Encoding.opcode_cases (opcode : UInt8) :
    opcode ∈ lacking ∨ opcode = 0x10 ∨ opcode = 0xcb ∨
      ∃ op, Reference.decode opcode.toNat = some op := by
  have hall : ∀ opcode : UInt8, opcode.toNat ∈
      [0x10, 0xcb, 0xd3, 0xdb, 0xdd, 0xe3, 0xe4, 0xeb, 0xec, 0xed, 0xf4, 0xfc, 0xfd] →
        opcode ∈ lacking ∨ opcode = 0x10 ∨ opcode = 0xcb :=
    Word.forall_byte (by decide +kernel)
  by_cases h : opcode ∈ lacking ∨ opcode = 0x10 ∨ opcode = 0xcb
  · obtain h | h | h := h
    · exact .inl h
    · exact .inr (.inl h)
    · exact .inr (.inr (.inl h))
  · exact .inr (.inr (.inr (Reference.decode_isSome opcode.toNat_lt fun hm => h (hall opcode hm))))

/-- The slots of the removed opcodes are those of the opcodes that the processor lacks. -/
lemma Handler.slot_eq_removed_iff (opcode : UInt8) :
    ByteTable.slot table opcode = removed ↔ opcode ∈ Encoding.lacking := by
  have hall : ∀ opcode : UInt8, entry opcode.toNat = removed ↔ opcode ∈ Encoding.lacking :=
    Word.forall_byte (by decide +kernel)
  rw [slot_table]
  exact hall opcode

namespace Machine

variable {m m' : Machine} {b : Bool} {es : List Event} {ms : List Machine} {fault : Fault}

/-- The fault that the next fetch finds, if it finds one. -/
def faultAhead (m : Machine) : Option Fault :=
  let pc := m.cpu.registers.pc
  let opcode := (Bus.read pc m.bus).value
  if 0xff00 < pc then some (.pcOverflow pc)
  else if opcode = 0x10 then some (.stop pc)
  else if opcode ∈ Encoding.lacking then some (.removedOpcode pc opcode)
  else none

/-- The machine that a fault stops at a fetch. Below the limit the opcode has been read, and behind
the boot page the boot image has been lifted. -/
def arrested (m : Machine) (fault : Fault) : Machine :=
  let pc := m.cpu.registers.pc
  if 0xff00 < pc then { m with cpu := { m.cpu with fault := some fault } }
  else {
    cpu := { m.cpu with
      registers := { m.cpu.registers with pc := pc + 1 }
      last := { addr := pc, opcode := (Bus.read pc m.bus).value, byte := none, word := none }
      fault := some fault }
    bus := { m.bus with bootMapped := m.bus.bootMapped && pc < 0x100 } }

/-- Beyond the limit the processor stops before it has fetched anything. -/
lemma arrested_of_lt (fault : Fault) (hpc : pcLimit < m.cpu.registers.pc) :
    m.arrested fault = m.stopped fault :=
  if_pos hpc

/-- Below the limit the processor stops behind the fetch. -/
lemma arrested_of_le (fault : Fault) (hpc : m.cpu.registers.pc ≤ pcLimit) :
    m.arrested fault = m.fetched.stopped fault := by
  have hlimit : ¬0xff00 < m.cpu.registers.pc := UInt16.not_lt.mpr hpc
  rw [arrested, if_neg hlimit, Bus.read_value]
  rfl

/-! ## Executions -/

/-- An opcode that the processor lacks is a fault, and does nothing. -/
lemma executeOpcode_removed {opcode : UInt8} (pc : UInt16) (h : opcode ∈ Encoding.lacking) :
    executeOpcode pc opcode m = ⟨.error (.removedOpcode pc opcode), m, []⟩ := by
  rw [executeOpcode, Handler.decode_eq, Encoding.ofOpcode_of_mem h]
  rfl

/-- STOP is a fault, which it tells of. -/
lemma executeOpcode_stop (pc : UInt16) :
    executeOpcode pc 0x10 m = ⟨.error (.stop pc), m, [.notice (.stopped pc)]⟩ := by
  rw [executeOpcode, Handler.decode_eq]
  rfl

/-- All other opcodes are executed. -/
lemma executeOpcode_ok {opcode : UInt8} (pc : UInt16) (hs : opcode ≠ 0x10)
    (hl : opcode ∉ Encoding.lacking) : ∃ cost, (executeOpcode pc opcode m).value = .ok cost := by
  obtain h | h | rfl | ⟨op, hop⟩ := Encoding.opcode_cases opcode
  · exact absurd h hl
  · exact absurd h hs
  · exact ⟨_, (Reference.executePrefix_agrees pc m).1⟩
  · exact ⟨_, (Reference.executeOpcode_agrees hop m).1⟩

/-- What the next fetch can come to. -/
lemma faultAhead_cases (m : Machine) :
    let pc := m.cpu.registers.pc
    let opcode := m.bus.shown pc
    (pcLimit < pc ∧ m.faultAhead = some (.pcOverflow pc)) ∨
      pc ≤ pcLimit ∧
        ((opcode = 0x10 ∧ m.faultAhead = some (.stop pc)) ∨
          (opcode ∈ Encoding.lacking ∧ m.faultAhead = some (.removedOpcode pc opcode)) ∨
          (opcode ≠ 0x10 ∧ opcode ∉ Encoding.lacking ∧ m.faultAhead = none)) := by
  dsimp only [faultAhead]
  rw [Bus.read_value]
  by_cases hpc : 0xff00 < m.cpu.registers.pc
  · exact .inl ⟨hpc, if_pos hpc⟩
  · refine .inr ⟨UInt16.not_lt.mp hpc, ?_⟩
    rw [if_neg hpc]
    by_cases hs : m.bus.shown m.cpu.registers.pc = 0x10
    · exact .inl ⟨hs, if_pos hs⟩
    · rw [if_neg hs]
      by_cases hl : m.bus.shown m.cpu.registers.pc ∈ Encoding.lacking
      · exact .inr (.inl ⟨hl, if_pos hl⟩)
      · exact .inr (.inr ⟨hs, hl, if_neg hl⟩)

/-- The fault ahead is what the execution ends with, in the state that is said. -/
lemma execute_of_faultAhead (h : m.faultAhead = some fault) :
    (execute m).value = .error fault ∧ (execute m).state.stopped fault = m.arrested fault := by
  obtain ⟨hpc, ha⟩ | ⟨hpc, ⟨hop, ha⟩ | ⟨hop, ha⟩ | ⟨-, -, ha⟩⟩ := m.faultAhead_cases
  · cases h.symm.trans ha
    rw [execute_of_lt hpc, arrested_of_lt _ hpc]
    exact ⟨rfl, rfl⟩
  · cases h.symm.trans ha
    rw [execute_of_le hpc, arrested_of_le _ hpc, hop, executeOpcode_stop]
    exact ⟨rfl, rfl⟩
  · cases h.symm.trans ha
    rw [execute_of_le hpc, arrested_of_le _ hpc, executeOpcode_removed _ hop]
    exact ⟨rfl, rfl⟩
  · cases h.symm.trans ha

/-- Without a fault ahead the execution succeeds. -/
lemma execute_of_no_faultAhead (h : m.faultAhead = none) :
    m.cpu.registers.pc ≤ pcLimit ∧ ∃ cost, (execute m).value = .ok cost := by
  obtain ⟨-, ha⟩ | ⟨hpc, ⟨-, ha⟩ | ⟨-, ha⟩ | ⟨hs, hl, -⟩⟩ := m.faultAhead_cases
  · cases h.symm.trans ha
  · cases h.symm.trans ha
  · cases h.symm.trans ha
  · rw [execute_of_le hpc]
    exact ⟨hpc, executeOpcode_ok _ hs hl⟩

/-- An execution finds the fault ahead of it, and no other. -/
lemma execute_error_iff : (execute m).value = .error fault ↔ m.faultAhead = some fault := by
  constructor
  · intro hv
    cases h : m.faultAhead with
    | none =>
      obtain ⟨-, cost, hok⟩ := execute_of_no_faultAhead h
      cases hv.symm.trans hok
    | some fault' =>
      obtain ⟨he, -⟩ := execute_of_faultAhead h
      cases hv.symm.trans he
      rfl
  · exact fun h => (execute_of_faultAhead h).1

/-- No opcode is unknown, so that the fault ahead is of another kind. -/
lemma faultAhead_ne_unknown (addr : UInt16) (opcode : UInt8) :
    m.faultAhead ≠ some (.unknownOpcode addr opcode) := by
  obtain ⟨-, ha⟩ | ⟨-, ⟨-, ha⟩ | ⟨-, ha⟩ | ⟨-, -, ha⟩⟩ := m.faultAhead_cases
  all_goals
    rw [ha]
    nofun

/-! ## Ticks -/

/-- A tick finds the fault ahead of it if it comes to a fetch. -/
lemma Ticked.fault_iff (h : Ticked m b m' es) (hp : m.cpu.isPanicked = false) :
    m'.cpu.fault = some fault ↔ m.cpu.isReady = true ∧ m.faultAhead = some fault := by
  cases h with
  | panicked h => cases h.symm.trans hp
  | @faulted found _ _ hr hv _ =>
    rw [← execute_error_iff, hv]
    constructor
    · intro h
      exact ⟨hr, congrArg _ (Option.some.inj h)⟩
    · rintro ⟨-, h⟩
      exact congrArg _ (Except.error.inj h)
  | executed _ _ hv hs =>
    rw [← execute_error_iff, hv, hs.fault]
    constructor
    · intro h
      cases h.symm.trans ((execute_fault_eq m).trans (fault_of_isPanicked hp))
    · rintro ⟨-, h⟩
      cases h
  | waited _ hr hs =>
    rw [hs.fault, hr, fault_of_isPanicked hp]
    constructor
    · intro h
      cases h
    · rintro ⟨h, -⟩
      cases h

/-- What a tick that finds a fault leaves behind. -/
lemma Ticked.arrested (h : Ticked m b m' es) (hp : m.cpu.isPanicked = false)
    (hf : m'.cpu.fault = some fault) :
    b = false ∧ m' = m.arrested fault ∧ dispatches es = [] := by
  cases h with
  | panicked h => cases h.symm.trans hp
  | faulted _ _ hv hes =>
    cases hf
    refine ⟨rfl, (execute_of_faultAhead (execute_error_iff.mp hv)).2, ?_⟩
    rw [dispatches_append, execute_dispatches, hes]
    rfl
  | executed _ _ _ hs =>
    rw [hs.fault] at hf
    cases hf.symm.trans ((execute_fault_eq m).trans (fault_of_isPanicked hp))
  | waited _ _ hs =>
    rw [hs.fault, fault_of_isPanicked hp] at hf
    cases hf

/-- Nothing is executed from above the limit. -/
lemma Ticked.pc_le (h : Ticked m true m' es) : m.cpu.registers.pc ≤ pcLimit := by
  cases h with
  | executed _ _ hv _ =>
    cases h : m.faultAhead with
    | none => exact (execute_of_no_faultAhead h).1
    | some fault => cases hv.symm.trans (execute_of_faultAhead h).1

/-- A step of a processor that has stopped for good does nothing. -/
lemma step_of_isPanicked (hp : m.cpu.isPanicked = true) : step m = ⟨0, m, []⟩ := by
  simp [step, stepWithin, tick_of_isPanicked hp, hp]

/-- Along a run the only faults are those found at fetches. -/
lemma Run.fault_ne_unknown (h : Run m ms m') (hf : m.cpu.fault = none) (addr : UInt16)
    (opcode : UInt8) : m'.cpu.fault ≠ some (.unknownOpcode addr opcode) := by
  induction h with
  | nil m =>
    rw [hf]
    nofun
  | @cons m ms m' bus h ih =>
    cases hf' : (tick m).state.cpu.fault with
    | none => exact ih hf'
    | some fault =>
      -- from here on the fault stays
      obtain ⟨-, ha⟩ := ((ticked m).fault_iff (isPanicked_of_none hf)).mp hf'
      rw [h.panicked_cpu (isPanicked_of_some hf'), hf', ← ha]
      exact faultAhead_ne_unknown addr opcode

/-- Faults are found at fetches. A tick of a working processor ends in a fault exactly if it comes to
a fetch that the program counter or the opcode forbids; then it leaves the traces of the fetch and
changes nothing else, dispatches included. No slot of the opcode table is left with the handler that
knows nothing, so that no opcode is unknown; nothing is executed from above the limit, and after a
fault neither ticks nor steps change anything. -/
theorem faults_found_at_fetch :
    (∀ m, m.cpu.isPanicked = false →
      (∀ fault, (tick m).state.cpu.fault = some fault ↔
        m.cpu.halted = false ∧ m.cpu.owed = 0 ∧ m.faultAhead = some fault) ∧
      (∀ fault, (tick m).state.cpu.fault = some fault →
        (tick m).value = false ∧ (tick m).state = m.arrested fault ∧
          dispatches (tick m).events = []) ∧
      ((tick m).value = true → m.cpu.registers.pc ≤ 0xff00)) ∧
    (∀ opcode, ByteTable.slot Handler.table opcode ≠ .unknown ∧
      (ByteTable.slot Handler.table opcode = .removed ↔ opcode ∈ Encoding.lacking)) ∧
    (∀ m ms m', Run m ms m' → m.cpu.fault = none →
      ∀ addr opcode, m'.cpu.fault ≠ some (.unknownOpcode addr opcode)) ∧
    (∀ m fault, m.cpu.fault = some fault →
      tick m = ⟨false, m, []⟩ ∧ step m = ⟨0, m, []⟩ ∧
        ∀ ms m', Run m ms m' → m'.cpu.fault = some fault) := by
  refine ⟨fun m hp => ⟨fun fault => ?_, fun fault => (ticked m).arrested hp, fun hv => ?_⟩,
    fun opcode => ⟨Handler.slot_ne_unknown opcode, Handler.slot_eq_removed_iff opcode⟩,
    fun m ms m' h hf => h.fault_ne_unknown hf, fun m fault hf => ?_⟩
  · rw [(ticked m).fault_iff hp, Cpu.isReady_iff, and_assoc]
  · have ht := ticked m
    rw [hv] at ht
    exact ht.pc_le
  · have hp : m.cpu.isPanicked = true := by rw [Cpu.isPanicked, hf]; rfl
    refine ⟨tick_of_isPanicked hp, step_of_isPanicked hp, fun ms m' h => ?_⟩
    rw [h.panicked_cpu hp, hf]

/-- An opcode that the processor lacks stands at the cartridge entry, below a boot image that the
fetch lifts. -/
theorem faults_found_at_fetch_removed :
    let bus := { Bus.new (Clock.steady 0 0) with
      map := (Store.fill 16 0).set 0x100 0xfd, bootMapped := true }
    let m : Machine := ⟨Cpu.new false, bus⟩
    let fault := Fault.removedOpcode 0x100 0xfd
    (tick m).state.cpu.fault = some fault ∧ (tick m).state = m.arrested fault ∧
      (m.arrested fault).bus.bootMapped = false ∧
      tick (tick m).state = ⟨false, (tick m).state, []⟩ := by
  intro bus m fault
  obtain ⟨hp, hh, ho, ha, hb⟩ : m.cpu.isPanicked = false ∧ m.cpu.halted = false ∧
      m.cpu.owed = 0 ∧ m.faultAhead = some fault ∧ (m.arrested fault).bus.bootMapped = false := by
    decide +kernel
  obtain ⟨hticks, -, -, hfinal⟩ := faults_found_at_fetch
  obtain ⟨hiff, harrested, -⟩ := hticks m hp
  have hf := (hiff fault).mpr ⟨hh, ho, ha⟩
  exact ⟨hf, (harrested fault hf).2.1, hb, (hfinal _ fault hf).1⟩

end Machine

end GameBoy
