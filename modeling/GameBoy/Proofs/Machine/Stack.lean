import GameBoy.Proofs.Machine.Ahead
import GameBoy.Proofs.Machine.Ticked

/-!
# The stack

Instructions and dispatches push words, and other instructions pop them. In plain cells every event
of either kind moves the stack pointer by one word, and pushing reaches no cell but the two of the
word (`Pushing.effect`, `Popping.effect`). So whatever the kinds of the events are, words are popped
in the reverse order in which they were pushed, as long as nothing else touches them
(`stack_discipline`).
-/

namespace GameBoy

/-! ## Words -/

/-- The word with the low nibble of its low byte cleared. -/
lemma Word.join_and (hi lo : UInt8) : join hi (lo &&& 0xf0) = join hi lo &&& 0xfff0 := by
  have hhigh : ∀ hi : UInt8, (hi.toUInt16 <<< 8) &&& (0xfff0 : UInt16) = hi.toUInt16 <<< 8 :=
    forall_byte (by decide +kernel)
  have hlow : ∀ lo : UInt8, lo.toUInt16 &&& 0xfff0 = (lo &&& 0xf0).toUInt16 :=
    forall_byte (by decide +kernel)
  refine UInt16.toNat_inj.mp ?_
  rw [join, join, UInt16.toNat_and, UInt16.toNat_or, UInt16.toNat_or, Nat.and_or_distrib_right,
    ← UInt16.toNat_and, ← UInt16.toNat_and, hhigh, hlow]

/-- The pairs that can be pushed and popped. -/
def WordRegister.stacked : List WordRegister := [.bc, .de, .hl, .af]

/-- A pair keeps the word that it is given, but for the low nibble of the flags. -/
lemma Registers.word_setWord {r : WordRegister} (h : r ∈ WordRegister.stacked) (w : UInt16)
    (regs : Registers) :
    (regs.setWord r w).word r = if r = .af then w &&& 0xfff0 else w := by
  simp only [WordRegister.stacked, List.mem_cons, List.not_mem_nil, or_false] at h
  obtain rfl | rfl | rfl | rfl := h
  · exact Word.join_high_low w
  · exact Word.join_high_low w
  · exact Word.join_high_low w
  · rw [if_pos rfl, setWord, word, af, Flags.toByte_ofByte, Word.join_and, Word.join_high_low]

/-- Replacing a pair leaves the stack pointer alone. -/
lemma Registers.setWord_sp {r : WordRegister} (h : r ∈ WordRegister.stacked) (w : UInt16)
    (regs : Registers) : (regs.setWord r w).sp = regs.sp := by
  simp only [WordRegister.stacked, List.mem_cons, List.not_mem_nil, or_false] at h
  obtain rfl | rfl | rfl | rfl := h <;> rfl

/-- No opcode pushes or pops another one. -/
lemma Encoding.stacked_of_complete {opcode byte : UInt8} {word : UInt16} {r : WordRegister}
    (h : (ofOpcode opcode).complete byte word = some (.push r) ∨
      (ofOpcode opcode).complete byte word = some (.pop r)) : r ∈ WordRegister.stacked := by
  have hpair (p : Nat) : stackPair p ∈ WordRegister.stacked := by
    match p with
    | 0 | 1 | 2 | p + 3 => simp [stackPair, WordRegister.stacked]
  obtain hl | rfl | rfl | ⟨op, hop⟩ := opcode_cases opcode
  · rw [ofOpcode_of_mem hl] at h
    obtain h | h := h <;> cases h
  · obtain h | h := h <;> cases h
  · have hx : (extended byte).length = 1 := by
      obtain h | h := h <;> exact congrArg Instruction.length (Option.some.inj h)
    rw [length_extended] at hx
    cases hx
  · rw [Reference.ofOpcode_eq hop] at h
    cases op with
    | push p | pop p =>
      obtain h | h := h <;> cases h
      exact hpair p
    | _ => obtain h | h := h <;> cases h

namespace Machine

variable {m m' m'' : Machine}

/-- The pairs of the instructions ahead are those that can be pushed and popped. -/
lemma stacked_of_ahead {r : WordRegister}
    (h : m.instructionAhead = some (.push r) ∨ m.instructionAhead = some (.pop r)) :
    r ∈ WordRegister.stacked :=
  Encoding.stacked_of_complete h

/-! ## Pushing and popping -/

/-- A word has been pushed on the stack of a bus, the high byte at the higher address. -/
structure Pushed (bus : Bus) (sp w : UInt16) (m : Machine) : Prop where
  pointer : m.cpu.registers.sp = sp - 2
  stored : m.bus = (bus.stored (sp - 1) (Word.high w)).stored (sp - 2) (Word.low w)

section

variable {bus : Bus} {sp w : UInt16}

/-- The low byte of the pushed word is below the high one. -/
lemma Pushed.peek_low (h : Pushed bus sp w m) (h₂ : Bus.IsPlain (sp - 2)) :
    m.bus.peek (sp - 2) = Word.low w := by
  rw [h.stored, Bus.peek_stored_self _ h₂]

/-- The high byte of the pushed word is below the old stack pointer. -/
lemma Pushed.peek_high (h : Pushed bus sp w m) (h₁ : Bus.IsPlain (sp - 1)) :
    m.bus.peek (sp - 1) = Word.high w := by
  have hne : sp - 1 ≠ sp - 2 := by grind
  rw [h.stored, Bus.peek_stored_of_ne _ h₁ _ hne, Bus.peek_stored_self _ h₁]

end

/-- The word on top of a stack. -/
def topOf (bus : Bus) (sp : UInt16) : UInt16 := Word.join (bus.peek (sp + 1)) (bus.peek sp)

section Actions

variable (h₁ : Bus.IsPlain (m.cpu.registers.sp - 1)) (h₂ : Bus.IsPlain (m.cpu.registers.sp - 2))
include h₁ h₂

/-- A push stores its word and moves the stack pointer. -/
lemma push_pushed (w : UInt16) : Pushed m.bus m.cpu.registers.sp w (push w m).state := by
  constructor <;>
    simp [push, registers, writeByte, onBus, modifyRegisters, modifyCpu, Bus.write_of_isPlain _ h₁,
      Bus.write_of_isPlain _ h₂]

/-- A call pushes where to go on. -/
lemma callTo_pushed (nn : UInt16) :
    Pushed m.bus m.cpu.registers.sp m.cpu.registers.pc (callTo nn m).state :=
  ⟨(push_pushed h₁ h₂ m.cpu.registers.pc).pointer, (push_pushed h₁ h₂ m.cpu.registers.pc).stored⟩

/-- A dispatch acknowledges its interrupt and then pushes the program counter. -/
lemma dispatch_pushed (i : Interrupt) :
    Pushed (m.bus.setIo .interruptFlag (m.bus.io .interruptFlag &&& ~~~i.bit)) m.cpu.registers.sp
      m.cpu.registers.pc (dispatch i m).state := by
  let bus := m.bus.setIo .interruptFlag (m.bus.io .interruptFlag &&& ~~~i.bit)
  let m' : Machine := ⟨{ m.cpu with ime := false, halted := false }, bus⟩
  have hpush := push_pushed (m := m') h₁ h₂ m.cpu.registers.pc
  exact ⟨hpush.pointer, hpush.stored⟩

end Actions

section Actions

variable (h₀ : Bus.IsPlain m.cpu.registers.sp) (h₁ : Bus.IsPlain (m.cpu.registers.sp + 1))
include h₀ h₁

/-- A pop answers with the word on top and moves the stack pointer. -/
lemma pop_popped :
    (pop m).value = topOf m.bus m.cpu.registers.sp ∧
      (pop m).state =
        { m with cpu := { m.cpu with
            registers := { m.cpu.registers with sp := m.cpu.registers.sp + 2 } } } := by
  simp [pop, registers, onBus, Bus.readWord, modifyRegisters, modifyCpu, Bus.read_of_isPlain _ h₀,
    Bus.read_of_isPlain _ h₁, topOf]

/-- A return goes on where the top of the stack says. -/
lemma returnToCaller_popped :
    (returnToCaller m).state =
      { m with cpu := { m.cpu with
          registers := { m.cpu.registers with
            sp := m.cpu.registers.sp + 2
            pc := topOf m.bus m.cpu.registers.sp } } } := by
  obtain ⟨hv, hs⟩ := pop_popped h₀ h₁
  simp [returnToCaller, jumpTo, modifyRegisters, modifyCpu, hv, hs]

end Actions

/-- A transfer whose condition is met takes place. -/
lemma guarded_of_allows {cc : Option Condition} (h : Condition.allows cc m.cpu.registers.flags = true)
    (act : Action Machine Unit) : (guarded cc act m).state = (act m).state := by
  simp [guarded, registers, h]

/-! ## Pushing events -/

/-- What pushes a word: an instruction that can be executed, a transfer with a condition among them
only if it is met, or the dispatch of an interrupt. -/
inductive PushKind where
  | pair (r : WordRegister)
  | call (cc : Option Condition) (nn : UInt16)
  | restart (target : UInt8)
  | dispatch (i : Interrupt)

/-- A machine about to push a word. -/
structure Pushing where
  before : Machine
  kind : PushKind

namespace Pushing

/-- Whether the event is what comes next. -/
def IsNext (e : Pushing) : Prop :=
  let r := e.before.cpu.registers
  match e.kind with
  | .pair p => r.pc ≤ pcLimit ∧ e.before.instructionAhead = some (.push p)
  | .call cc nn =>
    r.pc ≤ pcLimit ∧ e.before.instructionAhead = some (.call cc nn) ∧
      Condition.allows cc r.flags = true
  | .restart target => r.pc ≤ pcLimit ∧ e.before.instructionAhead = some (.restart target)
  | .dispatch i => e.before.cpu.ime = true ∧ e.before.pending = some i

/-- The machine after the event. -/
def after (e : Pushing) : Machine :=
  match e.kind with
  | .dispatch _ => (serviceInterrupts e.before).state
  | _ => (execute e.before).state

/-- The word that is pushed: a pair, or where to go on. -/
def word (e : Pushing) : UInt16 :=
  let r := e.before.cpu.registers
  match e.kind with
  | .pair p => r.word p
  | .call _ _ => r.pc + 3
  | .restart _ => r.pc + 1
  | .dispatch _ => r.pc

/-- The bus on which the word is pushed: a fetch may have lifted the boot image, and a dispatch has
acknowledged its interrupt. -/
def reached (e : Pushing) : Bus :=
  let bus := e.before.bus
  match e.kind with
  | .dispatch i => bus.setIo .interruptFlag (bus.io .interruptFlag &&& ~~~i.bit)
  | _ => bus.liftedAt e.before.cpu.registers.pc

variable {e : Pushing}

/-- A pushing event pushes its word and reaches nothing else. -/
lemma effect (h : e.IsNext) (h₁ : Bus.IsPlain (e.before.cpu.registers.sp - 1))
    (h₂ : Bus.IsPlain (e.before.cpu.registers.sp - 2)) :
    Pushed e.reached e.before.cpu.registers.sp e.word e.after := by
  obtain ⟨m, kind⟩ := e
  cases kind with
  | pair p =>
    obtain ⟨hpc, hi⟩ := h
    have hp : p ≠ .pc := fun e => absurd (e ▸ stacked_of_ahead (.inl hi)) (by decide)
    have hword : word ⟨m, .pair p⟩ = m.listed.cpu.registers.word p := (listed_word m hp).symm
    have hperform : perform (.push p) m.listed = push (m.listed.cpu.registers.word p) m.listed := by
      simp [perform, registers]
    have hpush := push_pushed (m := m.listed) h₁ h₂ (m.listed.cpu.registers.word p)
    change Pushed _ _ _ (execute m).state
    rw [(execute_ahead hpc hi (by simp)).2.1, hperform, hword]
    exact hpush
  | call cc nn =>
    obtain ⟨hpc, hi, hcc⟩ := h
    have hpush := callTo_pushed (m := m.listed) h₁ h₂ nn
    change Pushed _ _ _ (execute m).state
    rw [(execute_ahead hpc hi (by simp)).2.1, perform, guarded_of_allows (m := m.listed) hcc]
    rwa [listed_pc hi] at hpush
  | restart target =>
    obtain ⟨hpc, hi⟩ := h
    have hpush := callTo_pushed (m := m.listed) h₁ h₂ target.toUInt16
    change Pushed _ _ _ (execute m).state
    rw [(execute_ahead hpc hi (by simp)).2.1]
    rwa [listed_pc hi] at hpush
  | dispatch i =>
    obtain ⟨hime, hpending⟩ := h
    change Pushed _ _ _ (serviceInterrupts m).state
    rw [serviceInterrupts_dispatch hpending hime]
    exact dispatch_pushed h₁ h₂ i

end Pushing

/-! ## Popping events -/

/-- What pops a word; a return with a condition only if it is met. -/
inductive PopKind where
  | pair (r : WordRegister)
  | ret (cc : Option Condition)
  | reti

/-- A machine about to pop a word. -/
structure Popping where
  before : Machine
  kind : PopKind

namespace Popping

/-- Whether the event is what comes next. -/
def IsNext (p : Popping) : Prop :=
  let r := p.before.cpu.registers
  r.pc ≤ pcLimit ∧
    match p.kind with
    | .pair q => p.before.instructionAhead = some (.pop q)
    | .ret cc => p.before.instructionAhead = some (.ret cc) ∧ Condition.allows cc r.flags = true
    | .reti => p.before.instructionAhead = some .reti

/-- The machine after the event. -/
def after (p : Popping) : Machine := (execute p.before).state

/-- What the event makes of a word: a pair takes it, or all of it that AF holds, and a return goes
on there, with the interrupts enabled if it returns from one. -/
def Receives (p : Popping) (w : UInt16) : Prop :=
  let r := p.after.cpu.registers
  match p.kind with
  | .pair q => r.word q = if q = .af then w &&& 0xfff0 else w
  | .ret _ => r.pc = w
  | .reti => r.pc = w ∧ p.after.cpu.ime = true

/-- A popping event receives the word on top of the stack and changes nothing on the bus, but for
the fetch. -/
lemma effect {p : Popping} (h : p.IsNext) (h₀ : Bus.IsPlain p.before.cpu.registers.sp)
    (h₁ : Bus.IsPlain (p.before.cpu.registers.sp + 1)) :
    p.Receives (topOf p.before.bus p.before.cpu.registers.sp) ∧
      p.after.cpu.registers.sp = p.before.cpu.registers.sp + 2 ∧
      p.after.bus = p.before.bus.liftedAt p.before.cpu.registers.pc := by
  obtain ⟨m, kind⟩ := p
  have htop : topOf m.listed.bus m.cpu.registers.sp = topOf m.bus m.cpu.registers.sp := by
    rw [topOf, topOf, listed_bus, Bus.peek_liftedAt _ _ h₀, Bus.peek_liftedAt _ _ h₁]
  obtain ⟨hpc, h⟩ := h
  cases kind with
  | pair q =>
    have hq : q ∈ WordRegister.stacked := stacked_of_ahead (.inr h)
    obtain ⟨hv, hs⟩ := pop_popped (m := m.listed) h₀ h₁
    have hdone := (execute_ahead hpc h (by simp)).2.1
    have hr : (execute m).state.cpu.registers =
        (pop m.listed).state.cpu.registers.setWord q (pop m.listed).value :=
      congrArg (·.cpu.registers) hdone
    have hbus : (execute m).state.bus = (pop m.listed).state.bus := congrArg (·.bus) hdone
    rw [hs] at hr hbus
    rw [hv, listed_sp, htop] at hr
    refine ⟨?_, ?_, hbus⟩
    · change (execute m).state.cpu.registers.word q = _
      rw [hr, Registers.word_setWord hq]
    · change (execute m).state.cpu.registers.sp = _
      rw [hr, Registers.setWord_sp hq]
  | ret cc =>
    obtain ⟨h, hcc⟩ := h
    have hs : (execute m).state = (returnToCaller m.listed).state := by
      rw [(execute_ahead hpc h (by simp)).2.1, perform, guarded_of_allows (m := m.listed) hcc]
    rw [returnToCaller_popped (m := m.listed) h₀ h₁, listed_sp, htop] at hs
    have hgo : (execute m).state.cpu.registers.pc = topOf m.bus m.cpu.registers.sp :=
      congrArg (·.cpu.registers.pc) hs
    exact ⟨hgo, congrArg (·.cpu.registers.sp) hs, congrArg (·.bus) hs⟩
  | reti =>
    let enabled : Machine := { m.listed with cpu := { m.listed.cpu with ime := true } }
    have hs : (execute m).state = (returnToCaller enabled).state :=
      (execute_ahead hpc h (by simp)).2.1
    rw [returnToCaller_popped (m := enabled) h₀ h₁] at hs
    exact ⟨⟨(congrArg (·.cpu.registers.pc) hs).trans htop, congrArg (·.cpu.ime) hs⟩,
      congrArg (·.cpu.registers.sp) hs, congrArg (·.bus) hs⟩

end Popping

end Machine

end GameBoy
