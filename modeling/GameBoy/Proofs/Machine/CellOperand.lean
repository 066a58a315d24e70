import GameBoy.Proofs.Machine.Ahead

/-!
# The cell at HL as an operand

A field of three bits names the operand of many instructions: one of seven registers, or the cell
that HL points to. An instruction does the same with the cell as with a register (`effect`, of which
both `perform_form_atHl` and `perform_form_reg` are made), apart from the accesses to the bus and
their price (`cell_as_operand`).
-/

namespace GameBoy

/-- The numbers of the operands that are registers. -/
abbrev RegisterIndex := { j : Fin 8 // j.val ≠ 6 }

/-- The register of a number. -/
def RegisterIndex.register (j : RegisterIndex) : ByteRegister :=
  match Operand.ofIndex j.1 with
  | .reg r => r
  | .atHl => .a

/-- An index other than 6 stands for a register. -/
lemma RegisterIndex.ofIndex_eq (j : RegisterIndex) : Operand.ofIndex j.1 = .reg j.register := by
  obtain ⟨j, hj⟩ := j
  revert j
  decide

/-- No index stands for the flags. -/
lemma RegisterIndex.register_ne_f (j : RegisterIndex) : j.register ≠ .f := by
  obtain ⟨j, hj⟩ := j
  revert j
  decide

namespace Registers

/-- A byte written to a register is read there. -/
lemma byte_setByte_self {q : ByteRegister} (h : q ≠ .f) (v : UInt8) (r : Registers) :
    (r.setByte q v).byte q = v := by
  cases q with
  | f => exact absurd rfl h
  | _ => rfl

/-- Writing a register leaves the other ones alone. -/
lemma byte_setByte_of_ne {q q' : ByteRegister} (h : q' ≠ q) (hf : q ≠ .f) (v : UInt8)
    (r : Registers) : (r.setByte q v).byte q' = r.byte q' := by
  cases q <;> cases q' <;> first | exact absurd rfl h | exact absurd rfl hf | rfl

/-- Writing another register leaves the flags alone. -/
lemma setByte_flags {q : ByteRegister} (h : q ≠ .f) (v : UInt8) (r : Registers) :
    (r.setByte q v).flags = r.flags := by
  cases q with
  | f => exact absurd rfl h
  | _ => rfl

/-- Writing a byte register leaves the stack pointer alone. -/
lemma setByte_sp (q : ByteRegister) (v : UInt8) (r : Registers) : (r.setByte q v).sp = r.sp := by
  cases q <;> rfl

end Registers

namespace Encoding

/-- The prefix carries the byte that tells the instruction. -/
lemma ofOpcode_extension : ofOpcode 0xcb = withByte extended := rfl

/-- The opcodes of the first block by their fields. -/
lemma ofOpcode_block0 {y z : Nat} (hy : y < 8) (hz : z < 8) :
    ofOpcode (ofFields 0 y z) = block0 y z := by
  simp [ofOpcode, hy, hz]

end Encoding

/-- An instruction with an operand that a field of three bits names, by its kind and by what else
it names. -/
inductive Indexed where
  | load (dst : RegisterIndex)
  | store (src : RegisterIndex)
  | immediate (n : UInt8)
  | alu (op : Fin 8)
  | inc
  | dec
  | shift (op : Fin 8)
  | bit (i : Fin 8)
  | res (i : Fin 8)
  | set (i : Fin 8)

namespace Indexed

/-- The instruction with an operand. -/
def form (k : Indexed) (o : Operand) : Instruction :=
  match k with
  | load dst => .load (.reg dst.register) o
  | store src => .load o (.reg src.register)
  | immediate n => .loadImmediate o n
  | alu op => .alu (AluOp.ofIndex op) o
  | inc => .inc o
  | dec => .dec o
  | shift op => .shift (ShiftOp.ofIndex op) o
  | bit i => .bit (UInt8.ofNat i) o
  | res i => .res (UInt8.ofNat i) o
  | set i => .set (UInt8.ofNat i) o

/-- The bytes of the instruction whose operand has the number `j`. -/
def code (k : Indexed) (j : Fin 8) : List UInt8 :=
  match k with
  | load dst => [Encoding.ofFields 1 dst.1 j]
  | store src => [Encoding.ofFields 1 j src.1]
  | immediate n => [Encoding.ofFields 0 j 6, n]
  | alu op => [Encoding.ofFields 2 op j]
  | inc => [Encoding.ofFields 0 j 4]
  | dec => [Encoding.ofFields 0 j 5]
  | shift op => [0xcb, Encoding.ofFields 0 op j]
  | bit i => [0xcb, Encoding.ofFields 1 i j]
  | res i => [0xcb, Encoding.ofFields 2 i j]
  | set i => [0xcb, Encoding.ofFields 3 i j]

/-- Whether the operand is read. -/
def reads : Indexed → Bool
  | store _ | immediate _ => false
  | _ => true

/-- Whether the operand is replaced. -/
def writes : Indexed → Bool
  | load _ | alu _ | bit _ => false
  | _ => true

/-- Whether the flags are replaced. -/
def setsFlags : Indexed → Bool
  | alu _ | inc | dec | shift _ | bit _ => true
  | _ => false

/-- The register besides the operand that is an input. -/
def source : Indexed → Option ByteRegister
  | store src => some src.register
  | alu _ => some .a
  | _ => none

/-- The register besides the operand that is replaced. -/
def target : Indexed → Option ByteRegister
  | load dst => some dst.register
  | alu _ => some .a
  | _ => none

/-- What becomes of the registers if the operand has the value `v`, and the byte that replaces the
operand, if one does. -/
def effect (k : Indexed) (v : UInt8) (r : Registers) : Registers × Option UInt8 :=
  match k with
  | load dst => (r.setByte dst.register v, none)
  | store src => (r, some (r.byte src.register))
  | immediate n => (r, some n)
  | alu op =>
    let (a, flags) := (AluOp.ofIndex op).apply r.a v r.flags.carry
    ({ r with a, flags }, none)
  | inc => ({ r with flags := (Alu.inc v r.flags).2 }, some (Alu.inc v r.flags).1)
  | dec => ({ r with flags := (Alu.dec v r.flags).2 }, some (Alu.dec v r.flags).1)
  | shift op =>
    let (w, flags) := (ShiftOp.ofIndex op).apply v r.flags.carry
    ({ r with flags }, some w)
  | bit i => ({ r with flags := Alu.testBit (UInt8.ofNat i) v r.flags }, none)
  | res i => (r, some (v &&& ~~~(1 <<< UInt8.ofNat i)))
  | set i => (r, some (v ||| (1 <<< UInt8.ofNat i)))

/-! ## Opcodes -/

/-- The bytes stand for the instruction. -/
lemma complete_code (k : Indexed) (j : Fin 8) {byte : UInt8} (word : UInt16)
    (h : ∀ b ∈ (k.code j)[1]?, byte = b) :
    (Encoding.ofOpcode ((k.code j).headD 0)).complete byte word =
      some (k.form (Operand.ofIndex j)) := by
  cases k with
  | load dst =>
    simp [code, form, Encoding.ofOpcode, Encoding.complete, dst.2, dst.ofIndex_eq]
  | store src =>
    simp [code, form, Encoding.ofOpcode, Encoding.complete, src.2, src.ofIndex_eq]
  | immediate n =>
    obtain rfl := h n rfl
    exact congrArg (·.complete byte word) (Encoding.ofOpcode_block0 (z := 6) j.2 (by decide))
  | alu op => simp [code, form, Encoding.ofOpcode, Encoding.complete]
  | inc => exact congrArg (·.complete byte word) (Encoding.ofOpcode_block0 (z := 4) j.2 (by decide))
  | dec => exact congrArg (·.complete byte word) (Encoding.ofOpcode_block0 (z := 5) j.2 (by decide))
  | shift op | bit i | res i | set i =>
    obtain rfl := h _ rfl
    simp [code, form, Encoding.ofOpcode_extension, Encoding.complete, Encoding.extended]

/-- The first byte of an encoding is its opcode. -/
lemma headD_code (k : Indexed) (j : Fin 8) : (k.code j)[0]? = some ((k.code j).headD 0) := by
  cases k <;> rfl

/-- An instruction is as long as its encoding, whatever its operand is. -/
lemma length_code (k : Indexed) (j : Fin 8) (o : Operand) : (k.code j).length = (k.form o).length := by
  cases k <;> rfl

/-- An instruction with an operand is not STOP. -/
lemma form_ne_stop (k : Indexed) (o : Operand) : k.form o ≠ .stop := by
  cases k <;> exact nofun

/-! ## Effects -/

section Effects

open Machine

variable {m : Machine} {r : ByteRegister}

/-- Reading a register operand. -/
lemma readOperand_reg (r : ByteRegister) (m : Machine) :
    readOperand (.reg r) m = ⟨m.cpu.registers.byte r, m, []⟩ := rfl

/-- Writing a register operand. -/
lemma writeOperand_reg (r : ByteRegister) (w : UInt8) (m : Machine) :
    writeOperand (.reg r) w m =
      ⟨(), { m with cpu := { m.cpu with registers := m.cpu.registers.setByte r w } }, []⟩ := rfl

/-- Reading the cell at HL, if it is plain. -/
lemma readOperand_atHl (h : Bus.IsPlain m.cpu.registers.hl) :
    readOperand .atHl m =
      ⟨m.bus.peek m.cpu.registers.hl, m,
        [.read m.cpu.registers.hl (m.bus.peek m.cpu.registers.hl)]⟩ := by
  simp [readOperand, registers, readByte, onBus, Bus.read_of_isPlain m.bus h]

/-- Writing the cell at HL, if it is plain. -/
lemma writeOperand_atHl (h : Bus.IsPlain m.cpu.registers.hl) (w : UInt8) :
    writeOperand .atHl w m =
      ⟨(), { m with bus := m.bus.stored m.cpu.registers.hl w }, [.write m.cpu.registers.hl w]⟩ := by
  simp [writeOperand, registers, writeByte, onBus, Bus.write_of_isPlain m.bus h]

/-- What an instruction does with the cell at HL. -/
lemma perform_form_atHl (k : Indexed) (h : Bus.IsPlain m.cpu.registers.hl) :
    let hl := m.cpu.registers.hl
    let v := m.bus.peek hl
    let done := k.effect v m.cpu.registers
    perform (k.form .atHl) m =
      ⟨(), ⟨{ m.cpu with registers := done.1 }, done.2.elim m.bus (m.bus.stored hl)⟩,
        (if k.reads then [.read hl v] else []) ++ done.2.elim [] fun w => [.write hl w]⟩ := by
  cases k <;>
    simp [form, effect, reads, perform, update, combine, registers, setFlags, setResult,
      modifyRegisters, modifyCpu, readOperand_reg, writeOperand_reg, readOperand_atHl h,
      writeOperand_atHl h]

/-- What it does with a register. -/
lemma perform_form_reg (k : Indexed) (h : r ≠ .f) :
    let done := k.effect (m.cpu.registers.byte r) m.cpu.registers
    perform (k.form (.reg r)) m =
      ⟨(), { m with cpu := { m.cpu with registers := done.2.elim done.1 (done.1.setByte r) } },
        []⟩ := by
  cases k with
  | inc | dec | shift op =>
    -- the flags, which are replaced behind the operand, are none of it
    cases r with
    | f => exact absurd rfl h
    | _ => rfl
  | _ => rfl

end Effects

/-! ## Inputs and results -/

variable {k : Indexed}

/-- An instruction has a result for its operand if and only if it writes it. -/
lemma isSome_effect (k : Indexed) (v : UInt8) (r : Registers) :
    (k.effect v r).2.isSome = k.writes := by
  cases k <;> rfl

/-- An operand that is only replaced does not matter. -/
lemma effect_of_reads (k : Indexed) {v v' : UInt8} (h : k.reads = true → v' = v) (r : Registers) :
    k.effect v' r = k.effect v r := by
  cases k with
  | store | immediate => rfl
  | _ => rw [h rfl]

/-- The results depend on the operand, the flags and the source alone. -/
lemma effect_congr (k : Indexed) (v : UInt8) {r r' : Registers} (hflags : r'.flags = r.flags)
    (hsource : ∀ q ∈ k.source, r'.byte q = r.byte q) :
    (k.effect v r').1.flags = (k.effect v r).1.flags ∧ (k.effect v r').2 = (k.effect v r).2 ∧
      ∀ q ∈ k.target, (k.effect v r').1.byte q = (k.effect v r).1.byte q := by
  cases k with
  | load dst =>
    have hdst := dst.register_ne_f
    refine ⟨?_, rfl, fun q hq => ?_⟩
    · simp only [effect, Registers.setByte_flags hdst, hflags]
    · obtain rfl := Option.mem_some_iff.mp hq
      simp only [effect, Registers.byte_setByte_self hdst]
  | store src => exact ⟨hflags, congrArg some (hsource _ rfl), nofun⟩
  | alu op =>
    have ha : r'.a = r.a := hsource .a rfl
    refine ⟨?_, rfl, fun q hq => ?_⟩
    · simp only [effect, hflags, ha]
    · obtain rfl := Option.mem_some_iff.mp hq
      simp only [effect, Registers.byte, hflags, ha]
  | immediate | res | set => exact ⟨hflags, rfl, nofun⟩
  | inc | dec | shift | bit =>
    simp only [effect, hflags]
    exact ⟨trivial, trivial, nofun⟩

/-- What an instruction leaves alone. -/
lemma effect_frame (k : Indexed) (v : UInt8) (r : Registers) :
    (k.effect v r).1.sp = r.sp ∧ (k.effect v r).1.pc = r.pc ∧
      (k.setsFlags = false → (k.effect v r).1.flags = r.flags) ∧
      ∀ q ≠ .f, q ∉ k.target → (k.effect v r).1.byte q = r.byte q := by
  cases k with
  | load dst =>
    have hdst := dst.register_ne_f
    refine ⟨Registers.setByte_sp _ _ _, Machine.setByte_pc _ _ _,
      fun _ => Registers.setByte_flags hdst _ _,
      fun q _ hq => Registers.byte_setByte_of_ne ?_ hdst v r⟩
    rintro rfl
    exact hq rfl
  | alu op =>
    refine ⟨rfl, rfl, nofun, fun q hf hq => ?_⟩
    cases q with
    | a => exact absurd rfl hq
    | f => exact absurd rfl hf
    | _ => rfl
  | inc | dec | shift | bit =>
    refine ⟨rfl, rfl, nofun, fun q hf _ => ?_⟩
    cases q with
    | f => exact absurd rfl hf
    | _ => rfl
  | _ => exact ⟨rfl, rfl, fun _ => rfl, fun _ _ _ => rfl⟩

/-- An instruction that replaces its operand has no other target. -/
lemma target_of_writes (h : k.writes = true) : k.target = none := by
  cases k <;> first | rfl | cases h

/-- Where a register is the operand, the results are found in the registers. -/
lemma replaced (k : Indexed) {q : ByteRegister} (hq : q ≠ .f) (v : UInt8) (r : Registers) :
    let done := k.effect v r
    let after := done.2.elim done.1 (done.1.setByte q)
    after.flags = done.1.flags ∧ (∀ t ∈ k.target, after.byte t = done.1.byte t) ∧
      done.2 = if k.writes then some (after.byte q) else none := by
  intro done after
  have hsome : done.2.isSome = k.writes := k.isSome_effect v r
  cases hdone : done.2 with
  | none =>
    have hafter : after = done.1 := congrArg (·.elim done.1 (done.1.setByte q)) hdone
    rw [hdone] at hsome
    rw [hafter, ← hsome]
    exact ⟨rfl, fun _ _ => rfl, rfl⟩
  | some w =>
    have hafter : after = done.1.setByte q w := congrArg (·.elim done.1 (done.1.setByte q)) hdone
    rw [hdone] at hsome
    rw [hafter, Registers.setByte_flags hq, Registers.byte_setByte_self hq,
      target_of_writes hsome.symm, ← hsome]
    exact ⟨rfl, nofun, rfl⟩

/-- The cell is read or replaced at 4 cycles each. -/
lemma cost_form_atHl (k : Indexed) (q : ByteRegister) (f : Flags) :
    (k.form .atHl).cost f = (k.form (.reg q)).cost f + 4 * (k.reads.toNat + k.writes.toNat) := by
  cases k <;> rfl

end Indexed

namespace Machine

open Indexed

variable {m : Machine}

/-- Whether some bytes are the code at the program counter. -/
structure Holds (m : Machine) (code : List UInt8) : Prop where
  limit : m.cpu.registers.pc ≤ pcLimit
  shown {i : Nat} {b : UInt8} : code[i]? = some b →
    m.bus.shown (m.cpu.registers.pc + UInt16.ofNat i) = b

/-- The instruction ahead is the one whose encoding is in memory. -/
lemma Holds.instructionAhead {k : Indexed} {j : Fin 8} (h : m.Holds (k.code j)) :
    m.instructionAhead = some (k.form (Operand.ofIndex j)) := by
  have hopcode := h.shown (k.headD_code j)
  have hbyte := k.complete_code j m.wordBehind fun b hb => h.shown hb
  have hzero : m.cpu.registers.pc + UInt16.ofNat 0 = m.cpu.registers.pc := UInt16.add_zero _
  rw [← hopcode, hzero] at hbyte
  exact hbyte

/-- Executing an instruction on the cell at HL. -/
lemma Holds.execute_cell {k : Indexed} (h : m.Holds (k.code 6))
    (hplain : Bus.IsPlain m.cpu.registers.hl) :
    let hl := m.cpu.registers.hl
    let bus := m.bus.liftedAt m.cpu.registers.pc
    let done := k.effect (m.bus.peek hl) m.listed.cpu.registers
    (execute m).value = .ok ((k.form .atHl).cost m.cpu.registers.flags) ∧
      (execute m).state =
        ⟨{ m.listed.cpu with registers := done.1 }, done.2.elim bus (bus.stored hl)⟩ ∧
      accesses (execute m).events =
        m.readsOf (k.code 6).length ++
          accesses ((if k.reads then [.read hl (m.bus.peek hl)] else []) ++
            done.2.elim [] fun w => [.write hl w]) := by
  intro hl bus done
  obtain ⟨hv, hs, he⟩ := execute_ahead h.limit h.instructionAhead (k.form_ne_stop _)
  have hcell := k.perform_form_atHl (m := m.listed) hplain
  simp only [listed_hl, listed_bus, Bus.peek_liftedAt _ _ hplain] at hcell
  rw [show Operand.ofIndex (6 : Fin 8) = .atHl from rfl] at hv hs he
  rw [hcell] at hs he
  exact ⟨hv, hs, (k.length_code 6 .atHl) ▸ he⟩

/-- Executing it on a register. -/
lemma Holds.execute_register {k : Indexed} {j : RegisterIndex} (h : m.Holds (k.code j.1)) :
    let done := k.effect (m.cpu.registers.byte j.register) m.listed.cpu.registers
    (execute m).value = .ok ((k.form (.reg j.register)).cost m.cpu.registers.flags) ∧
      (execute m).state.cpu.registers = done.2.elim done.1 (done.1.setByte j.register) := by
  intro done
  have hahead := h.instructionAhead
  rw [j.ofIndex_eq] at hahead
  obtain ⟨hv, hs, -⟩ := execute_ahead h.limit hahead (k.form_ne_stop _)
  have hregister := k.perform_form_reg (m := m.listed) j.register_ne_f
  rw [listed_byte] at hregister
  rw [hregister] at hs
  exact ⟨hv, congrArg (·.cpu.registers) hs⟩

/-- An instruction that works on the cell at HL is the same as with a register, which holds the same
byte if it is read: it costs 4 cycles more for each access, it makes the same of its operand, its
target and the flags, and it leaves all else alone. -/
theorem cell_as_operand (k : Indexed) (j : RegisterIndex) (m m' : Machine)
    (hcode : m.Holds (k.code 6)) (hcode' : m'.Holds (k.code j.1))
    (hplain : Bus.IsPlain m.cpu.registers.hl)
    (hoperand : k.reads = true →
      m'.cpu.registers.byte j.register = m.bus.peek m.cpu.registers.hl)
    (hflags : m'.cpu.registers.flags = m.cpu.registers.flags)
    (hsource : ∀ q ∈ k.source, m'.cpu.registers.byte q = m.cpu.registers.byte q) :
    let before := m.cpu.registers
    let after := (execute m).state.cpu.registers
    let after' := (execute m').state.cpu.registers
    let result := after'.byte j.register
    (∃ cost, (execute m').value = .ok cost ∧
      (execute m).value = .ok (cost + 4 * (k.reads.toNat + k.writes.toNat))) ∧
    -- what it makes
    after.flags = after'.flags ∧
    (∀ q ∈ k.target, after.byte q = after'.byte q) ∧
    (execute m).state.bus =
      (if k.writes then (m.bus.liftedAt before.pc).stored before.hl result
        else m.bus.liftedAt before.pc) ∧
    accesses (execute m).events =
      m.readsOf (k.code 6).length ++
        (if k.reads then [.read before.hl (m.bus.peek before.hl)] else []) ++
        (if k.writes then [.write before.hl result] else []) ∧
    -- what it leaves alone
    (∀ q ≠ .f, q ∉ k.target → after.byte q = before.byte q) ∧
    (k.setsFlags = false → after.flags = before.flags) ∧
    after.sp = before.sp ∧
    after.pc = before.pc + UInt16.ofNat (k.code 6).length ∧
    (execute m).state.cpu =
      { m.cpu with registers := after, last := (execute m).state.cpu.last } := by
  intro before after after' result
  -- both are made of the same effect
  obtain ⟨hv, hs, he⟩ := hcode.execute_cell hplain
  obtain ⟨hv', hafter'⟩ := hcode'.execute_register
  rw [k.effect_of_reads hoperand] at hafter'
  have hflags' : m'.listed.cpu.registers.flags = m.listed.cpu.registers.flags := hflags
  obtain ⟨hf, hdone, htarget⟩ := k.effect_congr (m.bus.peek m.cpu.registers.hl) hflags'
    fun q hq => by rw [listed_byte, listed_byte, hsource q hq]
  obtain ⟨hf', htarget', hresult⟩ := k.replaced j.register_ne_f (m.bus.peek m.cpu.registers.hl)
    m'.listed.cpu.registers
  rw [← hafter'] at hf' htarget' hresult
  rw [← hdone, hresult] at hs he
  have hafter : after = (k.effect (m.bus.peek m.cpu.registers.hl) m.listed.cpu.registers).1 :=
    congrArg (·.cpu.registers) hs
  obtain ⟨hsp, hpc, hkeep, hrest⟩ := k.effect_frame (m.bus.peek m.cpu.registers.hl)
    m.listed.cpu.registers
  refine ⟨⟨_, hv', ?_⟩, ?_, fun q hq => ?_, ?_, ?_, fun q hq hq' => ?_, fun hk => ?_, ?_, ?_, ?_⟩
  · rw [hv, k.cost_form_atHl j.register, hflags]
  · rw [hafter, ← hf, ← hf']
  · rw [hafter, ← htarget q hq, ← htarget' q hq]
  · rw [hs]
    cases k.writes <;> rfl
  · rw [he, List.append_assoc]
    refine congrArg (m.readsOf _ ++ ·) ?_
    cases k.reads <;> cases k.writes <;> rfl
  · rw [hafter, hrest q hq hq', listed_byte]
  · rw [hafter, hkeep hk, listed_flags]
  · rw [hafter, hsp, listed_sp]
  · rw [hafter, hpc, listed_pc hcode.instructionAhead, k.length_code]
  · rw [hafter, hs]
    rfl

/-- Counting up the cell at HL, and B with the same byte. -/
theorem cell_as_operand_inc :
    let cells := ((Store.fill 16 0).set 0x100 0x34).set 0x101 0x04
    let bus := { Bus.new (Clock.steady 0 0) with map := cells.set 0xc000 0x0f }
    let m : Machine := ⟨{ registers := { h := 0xc0, pc := 0x100 } }, bus⟩
    let m' : Machine := ⟨{ registers := { b := 0x0f, pc := 0x101 } }, bus⟩
    m.Holds (inc.code 6) ∧ m'.Holds (inc.code 0) ∧
      (execute m').value = .ok 4 ∧ (execute m).value = .ok (4 + 4 * 2) ∧
      (execute m).state.cpu.registers.flags = (execute m').state.cpu.registers.flags ∧
      (execute m).state.bus.peek 0xc000 = 0x10 := by
  intro cells bus m m'
  have hholds : m.Holds (inc.code 6) := by
    refine ⟨by decide, fun {i b} h => ?_⟩
    cases i with
    | zero =>
      cases h
      decide +kernel
    | succ i => cases h
  have hholds' : m'.Holds (inc.code 0) := by
    refine ⟨by decide, fun {i b} h => ?_⟩
    cases i with
    | zero =>
      cases h
      decide +kernel
    | succ i => cases h
  have hv' : (execute m').value = .ok 4 := by decide +kernel
  obtain ⟨⟨cost, hcost, hv⟩, hf, -, hbus, -⟩ := cell_as_operand .inc ⟨0, by decide⟩ m m' hholds
    hholds' (by decide) (fun _ => by decide +kernel) rfl nofun
  cases hv'.symm.trans hcost
  refine ⟨hholds, hholds', hv', hv, hf, ?_⟩
  rw [hbus]
  decide +kernel

end Machine

end GameBoy
