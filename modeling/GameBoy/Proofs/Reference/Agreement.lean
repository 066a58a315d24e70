import GameBoy.Proofs.Bus.Effects
import GameBoy.Proofs.Machine.Closed
import GameBoy.Proofs.Reference.Arithmetic
import GameBoy.Proofs.Reference.Decoding

/-!
# Instructions and the reference interpreter

`Agrees` says that an action and a program of the reference interpreter do the same to every
machine. It is shown for the parts that instructions are made of, and from them for each operation
(`eval_agrees`). What remains is the fetch, and the instructions behind the prefix.
-/

namespace GameBoy.Reference

variable {α β γ δ : Type}

/-- An action does to every machine what a program does, and answers with what stands for the
program's answer. -/
def Agrees (x : Action Machine α) (y : StateM Machine β) (f : α → β) : Prop :=
  ∀ m, y m = (f (x m).value, (x m).state)

namespace Agrees

/-- The same answers agree. -/
protected lemma pure {a : α} {b : β} {f : α → β} (h : b = f a) : Agrees (pure a) (pure b) f := by
  rw [h]
  exact fun _ => rfl

/-- Programs that agree step by step agree. -/
protected lemma bind {x : Action Machine α} {y : StateM Machine β} {f : α → β}
    {x' : α → Action Machine γ} {y' : β → StateM Machine δ} {f' : γ → δ} (h : Agrees x y f)
    (h' : ∀ a, Agrees (x' a) (y' (f a)) f') : Agrees (x >>= x') (y >>= y') f' := by
  intro m
  change y' (y m).1 (y m).2 = _
  rw [h m]
  exact h' _ _

end Agrees

/-- The machine and its reference look at the same registers. -/
lemma registers_agree : Agrees Machine.registers registers id := fun _ => rfl

/-- Changing the processor in the same way agrees. -/
lemma modifyCpu_agrees {g g' : Cpu → Cpu} (h : ∀ cpu, g' cpu = g cpu) :
    Agrees (Machine.modifyCpu g) (modifyCpu g') id := by
  obtain rfl : g' = g := funext h
  exact fun _ => rfl

/-- Changing the registers in the same way agrees. -/
lemma modifyRegisters_agrees {g g' : Registers → Registers} (h : ∀ r, g' r = g r) :
    Agrees (Machine.modifyRegisters g) (modifyRegisters g') id := by
  obtain rfl : g' = g := funext h
  exact fun _ => rfl

/-! ## Memory -/

/-- Readings of a byte agree. -/
lemma load_agrees (addr : UInt16) : Agrees (Machine.readByte addr) (load addr.toNat) UInt8.toNat := by
  intro m
  rw [load, UInt16.ofNat_toNat]
  rfl

/-- Writings of a number as a byte agree. -/
lemma store_agrees (addr : UInt16) (v : Nat) :
    Agrees (Machine.writeByte addr (UInt8.ofNat v)) (store addr.toNat v) id := by
  intro m
  rw [store, UInt16.ofNat_toNat]
  rfl

/-- Writings of a byte agree. -/
lemma storeByte_agrees (addr : UInt16) (v : UInt8) :
    Agrees (Machine.writeByte addr v) (store addr.toNat v.toNat) id := by
  have h := store_agrees addr v.toNat
  rwa [UInt8.ofNat_toNat] at h

/-- The next address, as a number. -/
lemma toNat_succ (addr : UInt16) : (addr + 1).toNat = (addr.toNat + 1) % 65536 := by simp

/-- The previous address, as a number. -/
lemma toNat_pred (addr : UInt16) : (addr - 1).toNat = (addr.toNat + 65535) % 65536 := by
  rw [UInt16.toNat_sub, Nat.add_comm]
  rfl

/-- Readings of a word agree. -/
lemma loadPair_agrees (addr : UInt16) :
    Agrees (Machine.onBus (Bus.readWord addr)) (loadPair addr.toNat) UInt16.toNat := by
  rw [Machine.onBus_readWord, loadPair, ← toNat_succ]
  refine (load_agrees addr).bind fun lo => (load_agrees (addr + 1)).bind fun hi => ?_
  exact .pure (Word.toNat_join hi lo).symm

/-- The bytes behind the opcode agree. -/
lemma immediate_agrees : Agrees Machine.fetchByte immediate UInt8.toNat := by
  refine registers_agree.bind fun r => (load_agrees r.pc).bind fun n =>
    (modifyCpu_agrees fun cpu => ?_).bind fun _ => .pure rfl
  rw [← toNat_succ, UInt16.ofNat_toNat, UInt8.ofNat_toNat]
  rfl

/-- The words behind the opcode agree. -/
lemma immediatePair_agrees : Agrees Machine.fetchWord immediatePair UInt16.toNat := by
  refine registers_agree.bind fun r => (loadPair_agrees r.pc).bind fun nn =>
    (modifyCpu_agrees fun cpu => ?_).bind fun _ => .pure rfl
  have hpc : (r.pc + 2).toNat = (r.pc.toNat + 2) % 65536 := by simp
  rw [UInt16.ofNat_toNat]
  change { cpu with
    registers := { cpu.registers with pc := UInt16.ofNat ((r.pc.toNat + 2) % 65536) }
    last := _ } = _
  rw [← hpc, UInt16.ofNat_toNat]

/-! ## Registers -/

/-- The high byte of a word, computed from its number. -/
lemma ofNat_high (v : UInt16) : UInt8.ofNat (v.toNat / 256) = Word.high v := by
  rw [← Word.toNat_high, UInt8.ofNat_toNat]

/-- The low byte of a word, computed from its number. -/
lemma ofNat_low (v : UInt16) : UInt8.ofNat (v.toNat % 256) = Word.low v := by
  rw [← Word.toNat_low, UInt8.ofNat_toNat]

/-- HL as a number. -/
lemma hl_eq (r : Registers) : hl r = r.hl.toNat := (Word.toNat_join r.h r.l).symm

/-- The pairs that a field names, the stack pointer among them. -/
lemma pair_eq (r : Registers) (p : Nat) : pair r p = (r.word (Encoding.pair p)).toNat := by
  match p with
  | 0 => exact (Word.toNat_join r.b r.c).symm
  | 1 => exact (Word.toNat_join r.d r.e).symm
  | 2 => exact hl_eq r
  | p + 3 => rfl

/-- The pairs that a field names, the stack pointer among them, are replaced alike. -/
lemma setPair_eq (v : UInt16) (r : Registers) (p : Nat) :
    setPair v.toNat r p = r.setWord (Encoding.pair p) v := by
  match p with
  | 0 | 1 | 2 =>
    simp only [setPair, ofNat_high, ofNat_low]
    rfl
  | p + 3 =>
    simp only [setPair, UInt16.ofNat_toNat]
    rfl

/-- The pairs that a field names are replaced alike by the number of a word. -/
lemma setPair_ofNat {v : Nat} (hv : v < 65536) (r : Registers) (p : Nat) :
    setPair v r p = r.setWord (Encoding.pair p) (UInt16.ofNat v) := by
  have h := setPair_eq (UInt16.ofNat v) r p
  rwa [UInt16.toNat_ofNat', Nat.mod_eq_of_lt hv] at h

/-- The pairs that a field names, AF among them. -/
lemma stackPair_eq (r : Registers) (p : Nat) :
    stackPair r p = (r.word (Encoding.stackPair p)).toNat := by
  match p with
  | 0 => exact pair_eq r 0
  | 1 => exact pair_eq r 1
  | 2 => exact pair_eq r 2
  | p + 3 =>
    rw [stackPair, if_neg (by omega), ← pack_eq]
    exact (Word.toNat_join r.a r.flags.toByte).symm

/-- The pairs that a field names, AF among them, are replaced alike. -/
lemma setStackPair_eq (v : UInt16) (r : Registers) (p : Nat) :
    setStackPair v.toNat r p = r.setWord (Encoding.stackPair p) v := by
  match p with
  | 0 => exact setPair_eq v r 0
  | 1 => exact setPair_eq v r 1
  | 2 => exact setPair_eq v r 2
  | p + 3 =>
    rw [setStackPair, if_neg (by omega), ofNat_high, ← Word.toNat_low, ← unpack_eq]
    rfl

/-- The operands that a field names are read alike. -/
lemma get_agrees (y : Nat) : Agrees (Machine.readOperand (.ofIndex y)) (get y) UInt8.toNat := by
  match y with
  | 0 | 1 | 2 | 3 | 4 | 5 => exact fun _ => rfl
  | 6 =>
    refine registers_agree.bind fun r => ?_
    change Agrees _ (load (hl r)) _
    rw [hl_eq]
    exact load_agrees r.hl
  | y + 7 => exact fun _ => rfl

/-- The operands that a field names are written alike. -/
lemma put_agrees (y v : Nat) :
    Agrees (Machine.writeOperand (.ofIndex y) (UInt8.ofNat v)) (put y v) id := by
  match y with
  | 0 | 1 | 2 | 3 | 4 | 5 => exact fun _ => rfl
  | 6 =>
    refine registers_agree.bind fun r => ?_
    change Agrees _ (store (hl r) v) _
    rw [hl_eq]
    exact store_agrees r.hl v
  | y + 7 => exact fun _ => rfl

/-- The operands that a field names are written alike, with a byte. -/
lemma putByte_agrees (y : Nat) (v : UInt8) :
    Agrees (Machine.writeOperand (.ofIndex y) v) (put y v.toNat) id := by
  have h := put_agrees y v.toNat
  rwa [UInt8.ofNat_toNat] at h

/-! ## Parts of instructions -/

/-- The pointers that a field names lead to the same addresses, and HL moves alike. -/
lemma address_agrees (p : Nat) :
    Agrees (Machine.follow (.ofIndex p)) (address p) UInt16.toNat := by
  match p with
  | 0 => exact registers_agree.bind fun r => .pure (pair_eq r 0)
  | 1 => exact registers_agree.bind fun r => .pure (pair_eq r 1)
  -- the address is the one in HL before it is moved
  | 2 =>
    refine registers_agree.bind fun r => (modifyRegisters_agrees fun r => ?_).bind fun _ =>
      .pure (hl_eq r)
    have h : (hl r + 1) % 65536 = (r.hl + 1).toNat := by rw [hl_eq, toNat_succ]
    rw [h]
    exact setPair_eq _ r 2
  | p + 3 =>
    refine registers_agree.bind fun r => (modifyRegisters_agrees fun r => ?_).bind fun _ =>
      .pure (hl_eq r)
    have h : (hl r + 65535) % 65536 = (r.hl - 1).toNat := by rw [hl_eq, toNat_pred]
    rw [h]
    exact setPair_eq _ r 2

/-- Stores of the accumulator agree. -/
lemma storeA_agrees (addr : UInt16) : Agrees (Machine.storeA addr) (storeA addr.toNat) id :=
  registers_agree.bind fun r => storeByte_agrees addr r.a

/-- Loads of the accumulator agree. -/
lemma loadA_agrees (addr : UInt16) : Agrees (Machine.loadA addr) (loadA addr.toNat) id := by
  refine (load_agrees addr).bind fun v => modifyRegisters_agrees fun r => ?_
  rw [UInt8.ofNat_toNat]

/-- Pushes agree. -/
lemma pushPair_agrees (v : UInt16) : Agrees (Machine.push v) (pushPair v.toNat) id := by
  refine registers_agree.bind fun r => ?_
  have h2 : (r.sp.toNat + 65534) % 65536 = (r.sp - 2).toNat := by
    rw [UInt16.toNat_sub, Nat.add_comm]
    rfl
  change Agrees _ (do
    store ((r.sp.toNat + 65535) % 65536) (v.toNat / 256)
    store ((r.sp.toNat + 65534) % 65536) (v.toNat % 256)
    modifyRegisters fun r' => { r' with sp := UInt16.ofNat ((r.sp.toNat + 65534) % 65536) }) _
  rw [← toNat_pred, h2, ← Word.toNat_high, ← Word.toNat_low, UInt16.ofNat_toNat]
  exact (storeByte_agrees _ _).bind fun _ => (storeByte_agrees _ _).bind fun _ =>
    modifyRegisters_agrees fun _ => rfl

/-- Pops agree. -/
lemma popPair_agrees : Agrees Machine.pop popPair UInt16.toNat := by
  refine registers_agree.bind fun r => (loadPair_agrees r.sp).bind fun v =>
    (modifyRegisters_agrees fun r' => ?_).bind fun _ => .pure rfl
  have h : (r.sp.toNat + 2) % 65536 = (r.sp + 2).toNat := by simp
  change { r' with sp := UInt16.ofNat ((r.sp.toNat + 2) % 65536) } = _
  rw [h, UInt16.ofNat_toNat]

/-- Jumps agree. -/
lemma jumpTo_agrees (addr : UInt16) : Agrees (Machine.jumpTo addr) (jumpTo addr.toNat) id := by
  refine modifyRegisters_agrees fun r => ?_
  rw [UInt16.ofNat_toNat]

/-- Calls agree. -/
lemma callTo_agrees (addr : UInt16) : Agrees (Machine.callTo addr) (callTo addr.toNat) id :=
  registers_agree.bind fun r => (pushPair_agrees r.pc).bind fun _ => jumpTo_agrees addr

/-- Returns agree. -/
lemma returnToCaller_agrees : Agrees Machine.returnToCaller returnToCaller id :=
  popPair_agrees.bind jumpTo_agrees

/-- Operations on the accumulator agree if their results do. -/
lemma accumulate_agrees {g : Registers → UInt8 × Flags} {g' : Nat → Flags → Nat × Flags}
    (h : ∀ r, g r = asByte (g' r.a.toNat r.flags)) :
    Agrees (do Machine.setResult (g (← Machine.registers))) (accumulate g') id := by
  intro m
  have hm := h m.cpu.registers
  simp only [Machine.setResult, Action.bind_apply]
  change _ = ((), ({ m with cpu := { m.cpu with registers := { m.cpu.registers with
    a := (g m.cpu.registers).1, flags := (g m.cpu.registers).2 } } } : Machine))
  rw [hm]
  rfl

/-- Changes of an operand agree if their results do. -/
lemma alter_agrees (y : Nat) {g : UInt8 → Flags → UInt8 × Flags} {g' : Nat → Flags → Nat × Flags}
    (h : ∀ v f, g v f = asByte (g' v.toNat f)) :
    Agrees (Machine.update (.ofIndex y) g) (alter y g') id := by
  refine (get_agrees y).bind fun v => registers_agree.bind fun r => ?_
  rw [h v r.flags]
  exact (put_agrees y _).bind fun _ => modifyRegisters_agrees fun _ => rfl

/-- Conditions are met alike. -/
lemma taken_eq (f : Flags) (cc : Option Nat) :
    taken f cc = Condition.allows (cc.map .ofIndex) f := by
  cases cc with
  | none => rfl
  | some y =>
    match y with
    | 0 | 1 | 2 => rfl
    | y + 3 => rfl

/-- What happens under a condition agrees. -/
lemma provided_agrees (cc : Option Nat) {x : Action Machine Unit} {y : StateM Machine Unit}
    (h : Agrees x y id) : Agrees (Machine.guarded (cc.map .ofIndex) x) (provided cc y) id := by
  refine registers_agree.bind fun r => ?_
  change Agrees _ (if taken r.flags cc then y else pure ()) _
  rw [taken_eq]
  split
  · exact h
  · exact fun _ => rfl

/-! ## Operations -/

/-- Reads the immediates of an instruction and performs it. -/
def effect : Encoding → Action Machine Unit
  | .unknown | .removed => return
  | .bare i => Machine.perform i
  | .withByte f => do Machine.perform (f (← Machine.fetchByte))
  | .withWord f => do Machine.perform (f (← Machine.fetchWord))

theorem eval_agrees (op : Op) (h : op.fits = true) : Agrees (effect op.encoding) (eval op) id := by
  cases op with
  | nop | halt | di | ei => exact fun _ => rfl
  | copy y z => exact (get_agrees z).bind (putByte_agrees y)
  | loadByte y => exact immediate_agrees.bind (putByte_agrees y)
  | storeAt p => exact (address_agrees p).bind storeA_agrees
  | loadAt p => exact (address_agrees p).bind loadA_agrees
  | storeHigh =>
    refine immediate_agrees.bind fun n => ?_
    rw [← highPage_eq]
    exact storeA_agrees _
  | loadHigh =>
    refine immediate_agrees.bind fun n => ?_
    rw [← highPage_eq]
    exact loadA_agrees _
  | storeHighC =>
    refine registers_agree.bind fun r => ?_
    change Agrees _ (storeA (0xff00 + r.c.toNat)) _
    rw [← highPage_eq]
    exact storeA_agrees _
  | loadHighC =>
    refine registers_agree.bind fun r => ?_
    change Agrees _ (loadA (0xff00 + r.c.toNat)) _
    rw [← highPage_eq]
    exact loadA_agrees _
  | storeFar => exact immediatePair_agrees.bind storeA_agrees
  | loadFar => exact immediatePair_agrees.bind loadA_agrees
  | loadWord p =>
    exact immediatePair_agrees.bind fun nn => modifyRegisters_agrees fun r => setPair_eq nn r p
  | storeSp =>
    refine immediatePair_agrees.bind fun nn => registers_agree.bind fun r => ?_
    change Agrees _ (do
      store nn.toNat (r.sp.toNat % 256)
      store ((nn.toNat + 1) % 65536) (r.sp.toNat / 256)) _
    rw [Machine.onBus_writeWord, ← Word.toNat_low, ← Word.toNat_high, ← toNat_succ]
    exact (storeByte_agrees _ _).bind fun _ => storeByte_agrees _ _
  | spFromHl =>
    rw [Op.encoding, effect, Machine.perform, eval]
    refine modifyRegisters_agrees fun r => ?_
    rw [hl_eq, UInt16.ofNat_toNat]
  | hlFromSp =>
    refine immediate_agrees.bind fun e => modifyRegisters_agrees fun r => ?_
    have hlt : (displace r.sp.toNat e.toNat).1 < 65536 := by
      rw [displace]
      omega
    rw [displace_eq, setPair_ofNat hlt]
    rfl
  | push p =>
    refine registers_agree.bind fun r => ?_
    change Agrees _ (pushPair (stackPair r p)) _
    rw [stackPair_eq]
    exact pushPair_agrees _
  | pop p => exact popPair_agrees.bind fun v => modifyRegisters_agrees fun r => setStackPair_eq v r p
  | combine y z =>
    refine (get_agrees z).bind fun n => accumulate_agrees fun r => ?_
    exact combine_eq y r.a n r.flags.carry
  | combineByte y =>
    refine immediate_agrees.bind fun n => accumulate_agrees fun r => ?_
    exact combine_eq y r.a n r.flags.carry
  | inc y =>
    rw [Op.encoding, effect, Machine.perform, eval]
    exact alter_agrees y inc_eq
  | dec y =>
    rw [Op.encoding, effect, Machine.perform, eval]
    exact alter_agrees y dec_eq
  | daa => exact accumulate_agrees fun r => daa_eq r.a r.flags
  | cpl =>
    rw [Op.encoding, effect, Machine.perform, eval]
    refine modifyRegisters_agrees fun r => ?_
    rw [cpl_eq]
  | scf | ccf =>
    rw [Op.encoding, effect, Machine.perform, eval]
    refine modifyRegisters_agrees fun r => ?_
    rw [UInt8.ofNat_toNat]
  | rotateA y =>
    rw [Op.encoding, effect, Machine.perform, eval]
    exact accumulate_agrees fun r => rotateA_eq y r.a r.flags.carry
  | incWord p =>
    rw [Op.encoding, effect, Machine.perform, eval]
    refine modifyRegisters_agrees fun r => ?_
    rw [pair_eq, ← toNat_succ, setPair_eq]
  | decWord p =>
    rw [Op.encoding, effect, Machine.perform, eval]
    refine modifyRegisters_agrees fun r => ?_
    rw [pair_eq, ← toNat_pred, setPair_eq]
  | addHl p =>
    rw [Op.encoding, effect, Machine.perform, eval]
    refine modifyRegisters_agrees fun r => ?_
    have hlt : (addWord r.hl.toNat (r.word (Encoding.pair p)).toNat r.flags).1 < 65536 :=
      Nat.mod_lt _ (by omega)
    rw [hl_eq, pair_eq, addWord_eq, setPair_ofNat hlt]
    rfl
  | addSp =>
    refine immediate_agrees.bind fun e => modifyRegisters_agrees fun r => ?_
    rw [displace_eq]
    rfl
  | jumpRelative cc =>
    refine immediate_agrees.bind fun e => provided_agrees cc (modifyRegisters_agrees fun r => ?_)
    rw [← toNat_add_signed, UInt16.ofNat_toNat]
  | jump cc => exact immediatePair_agrees.bind fun nn => provided_agrees cc (jumpTo_agrees nn)
  | jumpHl =>
    have heval : eval .jumpHl = modifyRegisters fun r => { r with pc := UInt16.ofNat (hl r) } := rfl
    rw [Op.encoding, effect, Machine.perform, heval]
    refine modifyRegisters_agrees fun r => ?_
    rw [hl_eq, UInt16.ofNat_toNat]
  | call cc => exact immediatePair_agrees.bind fun nn => provided_agrees cc (callTo_agrees nn)
  | ret cc => exact provided_agrees cc returnToCaller_agrees
  | reti => exact (modifyCpu_agrees fun _ => rfl).bind fun _ => returnToCaller_agrees
  | restart y =>
    have hy : y < 8 := of_decide_eq_true h
    have htarget : (UInt8.ofNat (8 * y)).toUInt16.toNat = 8 * y := by
      rw [UInt8.toNat_toUInt16, UInt8.toNat_ofNat', Nat.mod_eq_of_lt (by omega)]
    have hcall := callTo_agrees (UInt8.ofNat (8 * y)).toUInt16
    rw [htarget] at hcall
    exact hcall

/-- The instructions behind the prefix and their evaluation agree. -/
theorem evalPrefixed_agrees (byte : UInt8) :
    Agrees (Machine.perform (Encoding.extended byte)) (evalPrefixed byte.toNat) id := by
  have hy : byte.toNat / 8 % 8 < 8 := Nat.mod_lt _ (by omega)
  unfold Encoding.extended evalPrefixed
  dsimp only
  generalize byte.toNat / 8 % 8 = y at hy
  match byte.toNat / 64 with
  | 0 =>
    change Agrees (Machine.perform (.shift _ _)) (alter _ _) _
    rw [Machine.perform]
    exact alter_agrees _ fun v f => rotate_eq y v f.carry
  | 1 =>
    refine (get_agrees _).bind fun v m => ?_
    change _ = ((), ({ m with cpu := { m.cpu with registers := { m.cpu.registers with
      flags := Alu.testBit (UInt8.ofNat y) v m.cpu.registers.flags } } } : Machine))
    rw [testBit_eq hy]
    rfl
  | 2 =>
    refine (get_agrees _).bind fun v => ?_
    rw [(reset_set_eq hy v).1]
    exact put_agrees _ _
  | x + 3 =>
    refine (get_agrees _).bind fun v => ?_
    rw [(reset_set_eq hy v).2]
    exact put_agrees _ _

/-! ## Fetching -/

/-- The boot image is lifted alike. -/
lemma liftBoot_eq (m : Machine) :
    liftBoot m = ((), (Machine.liftBoot m.cpu.registers.pc m).state) := by
  have hpc : m.cpu.registers.pc ≥ Bus.bootEnd ↔ 0x100 ≤ m.cpu.registers.pc.toNat :=
    UInt16.le_iff_toNat_le
  by_cases h : 0x100 ≤ m.cpu.registers.pc.toNat
  · cases hb : m.bus.bootMapped with
    | false =>
      -- lifting it twice is lifting it once
      have hbus : ({ m.bus with bootMapped := false } : Bus) = m.bus := by rw [← hb]
      simp [liftBoot, Machine.liftBoot, hpc, h, hb, hbus]
    | true => simp [liftBoot, Machine.liftBoot, hpc, h, hb, Machine.onBus, Bus.disableBoot_state]
  · simp [liftBoot, Machine.liftBoot, hpc, h]

/-- Fetches of the opcode agree. -/
lemma fetchOpcode_agrees : Agrees Machine.fetchOpcode fetchOpcode UInt8.toNat := by
  refine registers_agree.bind fun r => (load_agrees r.pc).bind fun n =>
    (modifyCpu_agrees fun cpu => ?_).bind fun _ => .pure rfl
  rw [← toNat_succ, UInt16.ofNat_toNat, UInt8.ofNat_toNat]
  change { cpu with registers := _, last := { addr := UInt16.ofNat r.pc.toNat, opcode := n } } = _
  rw [UInt16.ofNat_toNat]
  rfl

/-- A fetch, behind the lifting of the boot image. -/
lemma fetch_eq (m : Machine) :
    fetch m = fetchOpcode (Machine.liftBoot m.cpu.registers.pc m).state := by
  change fetchOpcode (liftBoot m).2 = _
  rw [liftBoot_eq]

/-- What is left of the execution of an opcode that stands for an instruction. -/
lemma executeOpcode_eq (pc : UInt16) {opcode : UInt8} {m : Machine} {i : Instruction}
    (h : (Machine.completeInstruction (Encoding.ofOpcode opcode) m).value = some i)
    (hs : i ≠ .stop) :
    (Machine.executeOpcode pc opcode m).value = .ok (i.cost m.cpu.registers.flags) ∧
      (Machine.executeOpcode pc opcode m).state = (effect (Encoding.ofOpcode opcode) m).state := by
  -- the price is that of the flags before the instruction, which the immediates do not touch
  have hflags : (Machine.completeInstruction (Encoding.ofOpcode opcode) m).state.cpu.registers.flags =
      m.cpu.registers.flags := by cases Encoding.ofOpcode opcode <;> rfl
  have heffect : (effect (Encoding.ofOpcode opcode) m).state = (Machine.perform i
      (Machine.completeInstruction (Encoding.ofOpcode opcode) m).state).state := by
    generalize Encoding.ofOpcode opcode = e at h
    cases e <;> cases h <;> rfl
  rw [heffect, ← hflags, Machine.executeOpcode, Handler.decode_eq, Machine.executeEncoding,
    Action.bind_apply]
  generalize Machine.completeInstruction (Encoding.ofOpcode opcode) m = done at h
  obtain ⟨i?, m', es⟩ := done
  obtain rfl : i? = some i := h
  cases i with
  | stop => exact absurd rfl hs
  | _ => exact ⟨rfl, rfl⟩

/-- Every operation that is documented completes to an instruction, which is not STOP. -/
lemma complete_encoding (op : Op) (m : Machine) :
    ∃ i byte word, (Machine.completeInstruction op.encoding m).value = some i ∧ i ≠ .stop ∧
      op.encoding.complete byte word = some i := by
  let byte := (Machine.fetchByte m).value
  let word := (Machine.fetchWord m).value
  cases op <;> exact ⟨_, byte, word, rfl, nofun, rfl⟩

/-- Behind the fetch, the execution of an opcode and its evaluation agree. -/
lemma executeOpcode_agrees {pc : UInt16} {opcode : UInt8} {op : Op}
    (h : decode opcode.toNat = some op) (m : Machine) :
    (Machine.executeOpcode pc opcode m).value = .ok (run opcode.toNat m).1 ∧
      (Machine.executeOpcode pc opcode m).state = (run opcode.toNat m).2 := by
  obtain ⟨i, byte, word, hi, hs, hc⟩ := complete_encoding op m
  have hne : opcode.toNat ≠ 0xcb := by
    intro hcb
    rw [hcb] at h
    cases h
  have hrun : run opcode.toNat m =
      (price opcode.toNat + surcharge m.cpu.registers.flags op, (eval op m).2) := by
    rw [run, if_neg hne, h]
    rfl
  rw [← ofOpcode_eq h] at hi
  obtain ⟨hv, hm⟩ := executeOpcode_eq pc hi hs
  rw [hv, hm, hrun, cost_eq opcode.toNat_lt h hc, ofOpcode_eq h,
    eval_agrees op (decode_fits opcode.toNat_lt h) m]
  exact ⟨rfl, rfl⟩

/-- Behind the fetch of the prefix, the execution of the byte behind it and its evaluation agree. -/
lemma executePrefix_agrees (pc : UInt16) (m : Machine) :
    (Machine.executeOpcode pc 0xcb m).value = .ok (run 0xcb m).1 ∧
      (Machine.executeOpcode pc 0xcb m).state = (run 0xcb m).2 := by
  let byte := (Machine.fetchByte m).value
  have hi : (Machine.completeInstruction (Encoding.ofOpcode 0xcb) m).value =
      some (Encoding.extended byte) :=
    rfl
  have hs : Encoding.extended byte ≠ .stop := by
    unfold Encoding.extended
    dsimp only
    split <;> nofun
  have hrun : run 0xcb m =
      (prefixedPrice (immediate m).1, (evalPrefixed (immediate m).1 (immediate m).2).2) :=
    rfl
  obtain ⟨hv, hm⟩ := executeOpcode_eq pc hi hs
  rw [hv, hm, hrun, immediate_agrees, cost_extended, evalPrefixed_agrees]
  exact ⟨rfl, rfl⟩

/-- An execution up to the fetch, below the limit of the program counter. -/
lemma execute_fetched {m : Machine} (hpc : m.cpu.registers.pc ≤ Machine.pcLimit) :
    ∃ opcode : UInt8, (fetch m).1 = opcode.toNat ∧
      (Machine.execute m).value =
        (Machine.executeOpcode m.cpu.registers.pc opcode (fetch m).2).value ∧
      (Machine.execute m).state =
        (Machine.executeOpcode m.cpu.registers.pc opcode (fetch m).2).state := by
  have hlimit : ¬m.cpu.registers.pc > Machine.pcLimit := UInt16.not_lt.mpr hpc
  rw [fetch_eq, fetchOpcode_agrees, Machine.execute_eq, Action.bind_apply]
  refine ⟨_, rfl, ?_, ?_⟩
  · change ((if m.cpu.registers.pc > Machine.pcLimit then _ else _ : Action Machine _) m).value = _
    rw [if_neg hlimit]
    rfl
  · change ((if m.cpu.registers.pc > Machine.pcLimit then _ else _ : Action Machine _) m).state = _
    rw [if_neg hlimit]
    rfl

/-- The instruction set is the documented one: fetching and executing an instruction does to every
machine what the reference interpreter does, and at the same price, whatever the bus shows, unless
the program counter is too high or the opcode is STOP or one that the processor lacks. -/
theorem execute_eq_step (m : Machine) (hpc : m.cpu.registers.pc ≤ 0xff00)
    (hop : nextOpcode m ∉ [0x10, 0xd3, 0xdb, 0xdd, 0xe3, 0xe4, 0xeb, 0xec, 0xed, 0xf4, 0xfc, 0xfd]) :
    (Machine.execute m).value = .ok (step m).1 ∧ (Machine.execute m).state = (step m).2 := by
  obtain ⟨opcode, hfetch, hv, hm⟩ := execute_fetched hpc
  rw [hv, hm]
  have hstep : step m = run opcode.toNat (fetch m).2 := by
    rw [← hfetch]
    rfl
  rw [hstep]
  by_cases hcb : opcode = 0xcb
  · rw [hcb]
    exact executePrefix_agrees _ _
  · have hne : opcode.toNat ≠ 0xcb := fun h => hcb (UInt8.toNat_inj.mp h)
    obtain ⟨op, hdecode⟩ : ∃ op, decode opcode.toNat = some op := by
      refine decode_isSome opcode.toNat_lt ?_
      rw [nextOpcode, hfetch] at hop
      simp only [List.mem_cons, List.not_mem_nil, or_false] at hop ⊢
      omega
    exact executeOpcode_agrees hdecode _

/-- A call under a condition that is met. -/
theorem execute_eq_step_call :
    let map := (((Store.fill 16 0).set 0x100 0xc4).set 0x101 0x34).set 0x102 0x12
    let m := Machine.new { Bus.new (Clock.steady 0 0) with map }
    (Machine.execute m).value = .ok 24 ∧
      (Machine.execute m).state.cpu.registers.pc = 0x1234 := by
  intro map m
  obtain ⟨hpc, hop, hcost, htarget⟩ : m.cpu.registers.pc ≤ 0xff00 ∧
      nextOpcode m ∉ [0x10, 0xd3, 0xdb, 0xdd, 0xe3, 0xe4, 0xeb, 0xec, 0xed, 0xf4, 0xfc, 0xfd] ∧
      (step m).1 = 24 ∧ (step m).2.cpu.registers.pc = 0x1234 := by decide +kernel
  obtain ⟨hv, hm⟩ := execute_eq_step m hpc hop
  exact ⟨hv.trans (congrArg _ hcost), (congrArg (·.cpu.registers.pc) hm).trans htarget⟩

end GameBoy.Reference
