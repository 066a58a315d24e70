import GameBoy.Proofs.Machine.Accounting
import GameBoy.Proofs.Machine.Interrupts
import GameBoy.Proofs.Machine.Stack

/-!
# Dispatching an interrupt

Servicing the interrupts calls the processor to the lowest-numbered source of those that are
requested and enabled, if interrupts are enabled at all (`lowest_pending_dispatched`). The source is
chosen and its request is cleared before the program counter is pushed. So a push that hits the
request register or the enable register decides what these hold afterwards, but not where the
processor goes on.
-/

namespace GameBoy

namespace Interrupt

/-- The service routines lie eight bytes apart. -/
lemma vector_eq (i : Interrupt) : i.vector = UInt16.ofNat (0x40 + 8 * i.number) := by
  cases i <;> rfl

/-- No two interrupts share a number. -/
lemma number_injective {i j : Interrupt} (h : i.number = j.number) : i = j := by
  cases i <;> cases j <;> first | rfl | cases h

/-- There is only one lowest bit. -/
lemma IsLowest.unique {i j : Interrupt} {bits : UInt8} (hi : i.IsLowest bits)
    (hj : j.IsLowest bits) : i = j := by
  obtain hlt | heq | hlt := Nat.lt_trichotomy i.number j.number
  · cases hi.1.symm.trans (hj.2 _ hlt)
  · exact number_injective heq
  · cases hj.1.symm.trans (hi.2 _ hlt)

/-- The lowest of some bits is one of them. -/
lemma IsLowest.ne_zero {i : Interrupt} {bits : UInt8} (h : i.IsLowest bits) : bits ≠ 0 := by
  rintro rfl
  cases (Nat.zero_testBit i.number).symm.trans h.1

/-- The most urgent source is the one with the lowest of the five bits. -/
lemma highest_eq_some_iff {i : Interrupt} {bits : UInt8} :
    highest bits = some i ↔ i.IsLowest (bits &&& 0x1f) := by
  refine ⟨(highest_spec bits).1 i, fun h => ?_⟩
  cases hj : highest bits with
  | none => exact absurd ((highest_spec bits).2 hj) h.ne_zero
  | some j => rw [((highest_spec bits).1 j hj).unique h]

/-- No interrupt is the first one if and only if none of the five bits is set. -/
lemma highest_eq_none_iff {bits : UInt8} : highest bits = none ↔ bits &&& 0x1f = 0 := by
  refine ⟨(highest_spec bits).2, fun h => ?_⟩
  cases hj : highest bits with
  | none => rfl
  | some j => exact absurd h ((highest_spec bits).1 j hj).ne_zero

end Interrupt

namespace Bus

variable {r : IoRegister}

/-- A register holds the value that was written to it, unless it is that of the boot image. -/
lemma write_io_self (bus : Bus) (hr : r ≠ .boot) (v : UInt8) :
    (write r.addr v bus).state.io r = v := by
  rw [write_register, if_neg hr]
  exact Store.get_set_self _ _ _

/-- A write shows in a register if it is one to its address. -/
lemma write_io_eq (bus : Bus) (hr : r ≠ .boot) (addr : UInt16) (v : UInt8) :
    (write addr v bus).state.io r = if addr = r.addr then v else bus.io r := by
  by_cases h : addr = r.addr
  · rw [if_pos h, h, write_io_self bus hr]
  · rw [if_neg h, write_io bus v h]

end Bus

/-- The processor that a source has called to its service routine. What is owed is 20 more in a word
of 32 bits. -/
def Cpu.called (cpu : Cpu) (i : Interrupt) : Cpu :=
  { cpu with
    registers := { cpu.registers with
      sp := cpu.registers.sp - 2
      pc := UInt16.ofNat (0x40 + 8 * i.number) }
    ime := false
    halted := false
    debt := cpu.debt + 20
    cycles := cpu.cycles + 20 }

namespace Machine

variable {m m' : Machine} {i : Interrupt}

/-- An interrupt is pending if it is the lowest one that waits. -/
lemma pending_eq_some_iff : m.pending = some i ↔ i.IsLowest m.bus.waiting :=
  Interrupt.highest_eq_some_iff

/-- No interrupt is pending if and only if none waits. -/
lemma pending_eq_none_iff : m.pending = none ↔ m.bus.waiting = 0 :=
  Interrupt.highest_eq_none_iff

/-! ## The machine after a dispatch -/

/-- What a dispatch makes of the processor. -/
lemma dispatch_called (i : Interrupt) (m : Machine) : (dispatch i m).state.cpu = m.cpu.called i := by
  rw [dispatch_cpu, i.vector_eq]
  rfl

/-- What a dispatch leaves in a register, which the stack may hit: the low byte is pushed last, and
the request is cleared before. -/
lemma dispatch_io {r : IoRegister} (hr : r ≠ .boot) (i : Interrupt) (m : Machine) :
    (dispatch i m).state.bus.io r =
      if m.cpu.registers.sp - 2 = r.addr then Word.low m.cpu.registers.pc
      else if m.cpu.registers.sp - 1 = r.addr then Word.high m.cpu.registers.pc
      else (m.acknowledged i).bus.io r := by
  rw [dispatch_bus]
  change (Bus.write _ _ (Bus.write _ _ (m.acknowledged i).bus).state).state.io r = _
  rw [Bus.write_io_eq _ hr, Bus.write_io_eq _ hr]
  rfl

/-- A dispatch acknowledges its own interrupt and leaves the others. -/
lemma acknowledged_requests (i : Interrupt) (m : Machine) (n : Nat) :
    (m.acknowledged i).bus.requests n = (m.bus.requests n && n != i.number) := by
  rw [Bus.requests, acknowledged, Bus.io, Bus.setIo, Store.get_set_self]
  exact Interrupt.testBit_clear i _ n

/-- A machine has pushed its program counter on a plain stack and taken back one request, and
nothing else happened to its bus. -/
structure Saved (m : Machine) (i : Interrupt) (m' : Machine) : Prop where
  high : m'.bus.peek (m.cpu.registers.sp - 1) = Word.high m.cpu.registers.pc
  low : m'.bus.peek (m.cpu.registers.sp - 2) = Word.low m.cpu.registers.pc
  requests : ∀ n, m'.bus.requests n = (m.bus.requests n && n != i.number)
  map : ∀ a : UInt16, a ≠ 0xff0f → a ≠ m.cpu.registers.sp - 1 → a ≠ m.cpu.registers.sp - 2 →
    m'.bus.map.get a.toNat = m.bus.map.get a.toNat
  rest : m'.bus = { m.bus with map := m'.bus.map }

/-- In plain cells a dispatch saves the program counter on the stack. -/
lemma dispatch_saved (h₁ : Bus.IsPlain (m.cpu.registers.sp - 1))
    (h₂ : Bus.IsPlain (m.cpu.registers.sp - 2)) (i : Interrupt) :
    Saved m i (dispatch i m).state := by
  have hpushed := dispatch_pushed h₁ h₂ i
  constructor
  · exact hpushed.peek_high h₁
  · exact hpushed.peek_low h₂
  · intro n
    rw [Bus.requests, dispatch_io (by decide), if_neg (h₂.ne_register _), if_neg (h₁.ne_register _)]
    exact acknowledged_requests i m n
  · intro a hflag ha₁ ha₂
    rw [hpushed.stored]
    exact (Store.get_set_word _ _ ha₂).trans
      ((Store.get_set_word _ _ ha₁).trans (Store.get_set_word _ _ hflag))
  · rw [hpushed.stored]
    rfl

/-- What calling a machine to a source leaves: the processor on its way to the service routine, and
the program counter on the stack. Where the stack hits a register, the pushed byte stays there. -/
structure Called (m : Machine) (i : Interrupt) (m' : Machine) : Prop where
  cpu : m'.cpu = m.cpu.called i
  owed : m'.cpu.owed = m.cpu.owed + 20 ↔ m.cpu.owed + 20 < 2 ^ 32
  high : ∀ r, r ≠ IoRegister.boot → m.cpu.registers.sp - 1 = r.addr →
    m'.bus.io r = Word.high m.cpu.registers.pc
  low : ∀ r, r ≠ IoRegister.boot → m.cpu.registers.sp - 2 = r.addr →
    m'.bus.io r = Word.low m.cpu.registers.pc
  saved : Bus.IsPlain (m.cpu.registers.sp - 1) → Bus.IsPlain (m.cpu.registers.sp - 2) →
    Saved m i m'

/-- What is owed is 20 more exactly if that fits into the word. -/
lemma dispatch_owed_eq_iff (i : Interrupt) (m : Machine) :
    (dispatch i m).state.cpu.owed = m.cpu.owed + 20 ↔ m.cpu.owed + 20 < 2 ^ 32 := by
  rw [dispatch_owed]
  exact ⟨fun h => h ▸ Nat.mod_lt _ (by decide), Nat.mod_eq_of_lt⟩

/-- What every dispatch does. -/
lemma dispatch_effect (i : Interrupt) (m : Machine) : Called m i (dispatch i m).state where
  cpu := dispatch_called i m
  owed := dispatch_owed_eq_iff i m
  high r hr h := by
    have hne : ¬m.cpu.registers.sp - 2 = r.addr := by
      rw [← h]
      grind
    rw [dispatch_io hr, if_neg hne, if_pos h]
  low r hr h := by rw [dispatch_io hr, if_pos h]
  saved h₁ h₂ := dispatch_saved h₁ h₂ i

end Machine

end GameBoy
