import GameBoy.Proofs.Bus.Plain
import GameBoy.Proofs.Listing.Agreement

/-!
# The instruction ahead

What executing the instruction at the program counter comes to, said of the instruction alone: the
machine goes on behind as many bytes as the instruction has (`size_eq_length`), performs it there,
and answers with its price (`execute_ahead`). A tick executes nothing else (`Ticked.executes`).
-/

namespace GameBoy

/-- How many bytes an instruction has. -/
def Instruction.length : Instruction → Nat
  | loadImmediate .. | storeHigh _ | loadHigh _ | hlFromSp _ | aluImmediate .. | addSp _
  | jumpRelative .. | shift .. | bit .. | res .. | set .. => 2
  | storeAbsolute _ | loadAbsolute _ | loadWord .. | storeSp _ | jump .. | call .. => 3
  | _ => 1

/-- What is behind the prefix has two bytes. -/
lemma Encoding.length_extended (byte : UInt8) : (extended byte).length = 2 := by
  unfold extended
  dsimp only
  split <;> rfl

/-- The length of an instruction is the size that its text shows. -/
lemma Listing.size_eq_length {addr : UInt16} {opcode byte : UInt8} {word : UInt16} {i : Instruction}
    (h : (Encoding.ofOpcode opcode).complete byte word = some i) : size addr opcode = i.length := by
  simp only [size, dependsOnByte_iff, dependsOnWord_iff]
  obtain hl | rfl | rfl | ⟨op, hop⟩ := Encoding.opcode_cases opcode
  · rw [Encoding.ofOpcode_of_mem hl] at h
    cases h
  · cases h
    rfl
  · obtain rfl : Encoding.extended byte = i := Option.some.inj h
    exact (Encoding.length_extended byte).symm
  · rw [Reference.ofOpcode_eq hop] at h ⊢
    cases op <;> cases h <;> rfl

namespace Machine

open Listing

variable {m : Machine} {i : Instruction}

/-! ## Behind the instruction -/

/-- The bus that an instruction finds is that of its fetch. -/
@[simp] lemma listed_bus (m : Machine) : m.listed.bus = m.bus.liftedAt m.cpu.registers.pc := rfl

/-- The bytes of an instruction are no flags. -/
@[simp] lemma listed_flags (m : Machine) : m.listed.cpu.registers.flags = m.cpu.registers.flags :=
  rfl

/-- The stack pointer stays while the bytes of an instruction are read. -/
@[simp] lemma listed_sp (m : Machine) : m.listed.cpu.registers.sp = m.cpu.registers.sp := rfl

/-- HL stays while the bytes of an instruction are read. -/
@[simp] lemma listed_hl (m : Machine) : m.listed.cpu.registers.hl = m.cpu.registers.hl := rfl

/-- Byte registers stay while the bytes of an instruction are read. -/
@[simp] lemma listed_byte (m : Machine) (r : ByteRegister) :
    m.listed.cpu.registers.byte r = m.cpu.registers.byte r := by
  cases r <;> rfl

/-- Of the word registers only the program counter moves while the bytes are read. -/
lemma listed_word (m : Machine) {r : WordRegister} (h : r ≠ .pc) :
    m.listed.cpu.registers.word r = m.cpu.registers.word r := by
  cases r with
  | pc => exact absurd rfl h
  | _ => rfl

/-- An instruction finds the program counter behind its bytes. -/
lemma listed_pc (h : m.instructionAhead = some i) :
    m.listed.cpu.registers.pc = m.cpu.registers.pc + UInt16.ofNat i.length := by
  rw [← size_eq_length h]
  rfl

/-- An execution of an instruction that can be executed. -/
lemma execute_ahead (hpc : m.cpu.registers.pc ≤ pcLimit) (h : m.instructionAhead = some i)
    (hs : i ≠ .stop) :
    (execute m).value = .ok (i.cost m.cpu.registers.flags) ∧
      (execute m).state = (perform i m.listed).state ∧
      accesses (execute m).events = m.readsOf i.length ++ accesses (perform i m.listed).events := by
  have hvalue : (execute m).value = .ok (i.cost m.cpu.registers.flags) := by
    obtain ⟨hv, hlisted, -⟩ := completeInstruction_fetched hpc
    rw [execute_of_le hpc, executeOpcode, executeEncoding, Handler.decode_eq, Action.bind_apply]
    dsimp only
    rw [hv, hlisted, ← instructionAhead]
    generalize m.instructionAhead = i? at h
    split
    · cases h
    · exact absurd (Option.some.inj h).symm hs
    · cases h
      rfl
  obtain ⟨⟨hi, -⟩ | ⟨hi, -⟩, -⟩ | ⟨i', cost, hi, -, -, hstate, hreads⟩ := execute_listed hpc
  · cases hi.symm.trans h
  · exact absurd (Option.some.inj (hi.symm.trans h)).symm hs
  · obtain rfl : i' = i := Option.some.inj (hi.symm.trans h)
    rw [size_eq_length h] at hreads
    exact ⟨hvalue, hstate, hreads⟩

/-- A machine executes an instruction: it reads the bytes of the instruction, performs it behind them
and answers with its price. -/
structure Executes (i : Instruction) (m : Machine) : Prop where
  ahead : m.instructionAhead = some i
  reads : accesses (execute m).events = m.readsOf i.length ++ accesses (perform i m.listed).events
  behind : m.listed.cpu.registers.pc = m.cpu.registers.pc + UInt16.ofNat i.length
  state : (execute m).state = (perform i m.listed).state
  price : (execute m).value = .ok (i.cost m.cpu.registers.flags)

/-- A tick that executes anything executes the instruction ahead. -/
lemma Ticked.executes {m' : Machine} {es : List Event} (h : Ticked m true m' es) :
    ∃ i, Executes i m := by
  have hpc := h.pc_le
  cases h with
  | executed _ _ hv _ =>
    obtain ⟨⟨-, hv'⟩ | ⟨-, hv'⟩, -⟩ | ⟨i, _, hi, hs, -⟩ := execute_listed hpc
    · cases hv.symm.trans hv'
    · cases hv.symm.trans hv'
    · obtain ⟨hprice, hstate, hreads⟩ := execute_ahead hpc hi hs
      exact ⟨i, hi, hreads, listed_pc hi, hstate, hprice⟩

end Machine

end GameBoy
