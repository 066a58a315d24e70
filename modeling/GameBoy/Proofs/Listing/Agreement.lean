import GameBoy.Proofs.Listing.Dependence
import GameBoy.Proofs.Listing.Meaning
import GameBoy.Proofs.Machine.Respected

/-!
# Executing what is listed

Executing the instruction at the program counter and printing it describe the same instruction: the
machine reads as many bytes as the text depends on, and behind them (`listed`) does what the text
means (`execution_matches_listing`). The two take the opcode apart on their own: the processor looks
up a handler in its tables, which reads its operands from the fields (`Handler.decode`), and the
mnemonic selects names by the fields (`mnemonic`). They meet because each agrees with the blocks of
the opcodes (`Handler.decode_eq`, `mnemonic_eq`).
-/

namespace GameBoy

open Listing Text

/-! ## Accesses -/

/-- The accesses to the bus among some events. -/
def accesses (es : List Event) : List Event := es.filter fun e => !e.isReport

/-- The accesses of two stretches follow each other. -/
lemma accesses_append (es es' : List Event) : accesses (es ++ es') = accesses es ++ accesses es' :=
  List.filter_append ..

/-- Reports are no accesses. -/
lemma accesses_of_reports {es : List Event} (h : ∀ e ∈ es, Bus.isOwnReport e = true) :
    accesses es = [] := by
  refine List.filter_eq_nil_iff.mpr fun e he => ?_
  have hr := h e he
  cases e with
  | read | write => cases hr
  | notice | echo => simp [Event.isReport]

/-- A reading of the bus is one access. -/
lemma accesses_read (bus : Bus) (addr : UInt16) :
    accesses (Bus.read addr bus).events = [.read addr (bus.shown addr)] := by
  obtain ⟨es, hes, h⟩ := bus.read_events_eq addr
  rw [h, accesses_append, accesses_of_reports hes]
  rfl

/-! ## Opcodes -/

/-- The pair that an instruction counts or loads, if there is one. -/
def Instruction.pair : Instruction → Option WordRegister
  | loadWord r _ | pop r | incWord r | decWord r => some r
  | _ => none

/-- No opcode calls the program counter a pair. -/
lemma Encoding.pair_ne_pc {opcode byte : UInt8} {word : UInt16} {i : Instruction}
    (h : (ofOpcode opcode).complete byte word = some i) : i.pair ≠ some .pc := by
  obtain hl | rfl | rfl | ⟨op, hop⟩ := opcode_cases opcode
  · rw [ofOpcode_of_mem hl] at h
    cases h
  · cases h
    simp [Instruction.pair]
  · obtain rfl : extended byte = i := Option.some.inj h
    unfold extended
    dsimp only
    split <;> simp [Instruction.pair]
  · rw [Reference.ofOpcode_eq hop] at h
    cases op with
    | loadWord p | incWord p | decWord p | pop p =>
      cases h
      match p with
      | 0 | 1 | 2 | p + 3 => simp [Instruction.pair, pair, stackPair]
    | _ =>
      cases h
      simp [Instruction.pair]

/-- A relative jump has its displacement behind it. -/
lemma Encoding.takesByte_of_jumpRelative {opcode byte e : UInt8} {word : UInt16}
    {cc : Option Condition} (h : (ofOpcode opcode).complete byte word = some (.jumpRelative cc e)) :
    (ofOpcode opcode).takesByte = true := by
  obtain hl | rfl | rfl | ⟨op, hop⟩ := opcode_cases opcode
  · rw [ofOpcode_of_mem hl] at h
    cases h
  · cases h
  · rfl
  · rw [Reference.ofOpcode_eq hop] at h ⊢
    cases op <;> cases h
    rfl

namespace Machine

variable {m : Machine}

/-! ## Meanings -/

/-- Two actions do the same to a machine, and report what they like. -/
structure Alike (act act' : Action Machine Unit) (m : Machine) : Prop where
  state : (act m).state = (act' m).state
  accesses : accesses (act m).events = accesses (act' m).events

/-- Every line of an instruction means what the instruction does. A relative jump shows its target,
which it reaches from the end of its two bytes. -/
lemma meaning_alike (addr : UInt16) {i : Instruction} (h : i ≠ .stop) :
    ∃ act, (i.line addr).meaning = some act ∧
      ∀ m, (∀ cc e, i = .jumpRelative cc e → m.cpu.registers.pc = addr + 2) →
        Alike act (perform i) m := by
  by_cases hi : i ∈ [.halt, .di, .ei]
  · -- these report what they do, which their lines do not tell
    simp only [List.mem_cons, List.not_mem_nil, or_false] at hi
    obtain rfl | rfl | rfl := hi
    all_goals exact ⟨_, rfl, fun _ _ => ⟨rfl, rfl⟩⟩
  by_cases hj : ∃ cc e, i = .jumpRelative cc e
  · obtain ⟨cc, e, rfl⟩ := hj
    refine ⟨_, meaning_jumpRelative cc _, fun m hm => ?_⟩
    have hpc : m.cpu.registers.pc + Word.signed e = relativeTarget addr e := by
      rw [hm cc e rfl]
      rfl
    cases hcc : Condition.allows cc m.cpu.registers.flags with
    | false => constructor <;> simp [perform, guarded, registers, hcc]
    | true =>
      constructor <;>
        simp [perform, guarded, registers, hcc, jumpTo, modifyRegisters, modifyCpu, hpc]
  · have hi' : i ∉ [.stop, .halt, .di, .ei] := fun hm => hi ((List.mem_cons.mp hm).resolve_left h)
    exact ⟨_, meaning_line addr hi' fun cc e he => hj ⟨cc, e, he⟩, fun _ _ => ⟨rfl, rfl⟩⟩

/-! ## Fetching -/

/-- The word behind the opcode at the program counter, whose low byte is the byte behind it. -/
def wordBehind (m : Machine) : UInt16 :=
  Word.join (m.bus.shown (m.cpu.registers.pc + 2)) (m.bus.shown (m.cpu.registers.pc + 1))

/-- The machine behind a fetch of `n` bytes, with the immediates that it has recorded. -/
def behind (m : Machine) (n : Nat) (byte : Option UInt8) (word : Option UInt16) : Machine :=
  let addr := m.cpu.registers.pc
  { cpu := { m.cpu with
      registers := { m.cpu.registers with pc := addr + UInt16.ofNat n }
      last := { addr, opcode := m.bus.shown addr, byte, word } }
    bus := m.bus.liftedAt addr }

/-- The readings of a fetch of `n` bytes. -/
def readsOf (m : Machine) (n : Nat) : List Event :=
  (List.range n).map fun k =>
    let addr := m.cpu.registers.pc + UInt16.ofNat k
    .read addr (m.bus.shown addr)

/-- The machine behind the instruction at its program counter, as far as the text shows it. -/
def listed (m : Machine) : Machine :=
  let addr := m.cpu.registers.pc
  let opcode := m.bus.shown addr
  m.behind (size addr opcode)
    (if DependsOnByte addr opcode then some (m.bus.shown (addr + 1)) else none)
    (if DependsOnWord addr opcode then some m.wordBehind else none)

/-- A fetch is one access, the reading of the opcode. -/
lemma accesses_fetchEvents (m : Machine) :
    accesses m.fetchEvents = [.read m.cpu.registers.pc (m.bus.shown m.cpu.registers.pc)] := by
  have hfetch (m : Machine) : (fetchOpcode m).events = (Bus.read m.cpu.registers.pc m.bus).events := by
    simp [fetchOpcode, registers, readByte, modifyCpu, onBus]
  rw [fetchEvents, accesses_append, accesses_of_reports (liftBoot_reports m _), List.nil_append,
    liftBoot_state, hfetch, accesses_read, Bus.shown_liftedAt _ id]

/-- The bus behind a fetch shows the immediates, and reading them changes nothing. -/
lemma read_behind (hpc : m.cpu.registers.pc ≤ pcLimit) {addr : UInt16}
    (h : addr = m.cpu.registers.pc + 1 ∨ addr = m.cpu.registers.pc + 2) :
    (Bus.read addr m.fetched.bus).value = m.bus.shown addr ∧
      (Bus.read addr m.fetched.bus).state = m.fetched.bus ∧
      accesses (Bus.read addr m.fetched.bus).events = [.read addr (m.bus.shown addr)] := by
  have hpc' : m.cpu.registers.pc.toNat ≤ 0xff00 := UInt16.le_iff_toNat_le.mp hpc
  have haddr : m.cpu.registers.pc.toNat < addr.toNat ∧ addr.toNat < 0xff44 := by
    obtain rfl | rfl := h <;> simp only [UInt16.toNat_add, UInt16.reduceToNat] <;> omega
  have hshown : m.fetched.bus.shown addr = m.bus.shown addr :=
    Bus.shown_liftedAt _ fun h => UInt16.lt_trans (UInt16.lt_iff_toNat_lt.mpr haddr.1) h
  rw [Bus.read_value, accesses_read, hshown,
    Bus.read_state_of_lt _ (UInt16.lt_iff_toNat_lt.mpr haddr.2)]
  exact ⟨rfl, rfl, rfl⟩

/-- The byte behind an opcode that was just fetched. -/
lemma fetchByte_fetched (hpc : m.cpu.registers.pc ≤ pcLimit) :
    let v := m.bus.shown (m.cpu.registers.pc + 1)
    (fetchByte m.fetched).value = v ∧
      (fetchByte m.fetched).state = m.behind 2 (some v) none ∧
      accesses (m.fetchEvents ++ (fetchByte m.fetched).events) = m.readsOf 2 := by
  intro v
  obtain ⟨hv, hs, he⟩ := read_behind hpc (.inl rfl)
  have hfpc : m.fetched.cpu.registers.pc = m.cpu.registers.pc + 1 := rfl
  have hpc2 : m.cpu.registers.pc + 1 + 1 = m.cpu.registers.pc + 2 := UInt16.add_assoc _ 1 1
  simp only [fetchByte, registers, readByte, modifyCpu, onBus, Action.bind_apply,
    Action.modify_apply, Action.pure_apply, List.nil_append, List.append_nil, hfpc, hpc2]
  rw [hs, hv, accesses_append, accesses_fetchEvents, he]
  refine ⟨rfl, rfl, ?_⟩
  simp [readsOf, List.range_succ]

/-- The word behind an opcode that was just fetched. -/
lemma fetchWord_fetched (hpc : m.cpu.registers.pc ≤ pcLimit) :
    (fetchWord m.fetched).value = m.wordBehind ∧
      (fetchWord m.fetched).state = m.behind 3 none (some m.wordBehind) ∧
      accesses (m.fetchEvents ++ (fetchWord m.fetched).events) = m.readsOf 3 := by
  obtain ⟨hlo, hs, he⟩ := read_behind hpc (.inl rfl)
  obtain ⟨hhi, hs', he'⟩ := read_behind hpc (.inr rfl)
  have hfpc : m.fetched.cpu.registers.pc = m.cpu.registers.pc + 1 := rfl
  have hpc2 : m.cpu.registers.pc + 1 + 1 = m.cpu.registers.pc + 2 := UInt16.add_assoc _ 1 1
  have hpc3 : m.cpu.registers.pc + 1 + 2 = m.cpu.registers.pc + 3 := UInt16.add_assoc _ 1 2
  simp only [fetchWord, registers, Bus.readWord, modifyCpu, onBus, Action.bind_apply,
    Action.modify_apply, Action.pure_apply, List.nil_append, List.append_nil, hfpc, hpc2, hpc3]
  rw [hs, hs', hlo, hhi, accesses_append, accesses_append, accesses_fetchEvents, he, he']
  refine ⟨rfl, rfl, ?_⟩
  simp [readsOf, List.range_succ]

/-- Completing an instruction reads what its text depends on. -/
lemma completeInstruction_fetched (hpc : m.cpu.registers.pc ≤ pcLimit) :
    let pc := m.cpu.registers.pc
    let encoding := Encoding.ofOpcode (m.bus.shown pc)
    let done := completeInstruction encoding m.fetched
    done.value = encoding.complete (m.bus.shown (pc + 1)) m.wordBehind ∧
      done.state = m.listed ∧
      accesses (m.fetchEvents ++ done.events) = m.readsOf (size pc (m.bus.shown pc)) := by
  dsimp only
  simp only [listed, size, dependsOnByte_iff, dependsOnWord_iff]
  cases Encoding.ofOpcode (m.bus.shown m.cpu.registers.pc) with
  | unknown | removed | bare i =>
    refine ⟨rfl, rfl, ?_⟩
    rw [accesses_append, accesses_fetchEvents]
    simp [readsOf, List.range_succ, Encoding.takesByte, Encoding.takesWord, completeInstruction,
      accesses]
  | withByte f =>
    obtain ⟨hv, hs, he⟩ := fetchByte_fetched hpc
    refine ⟨congrArg (fun v => some (f v)) hv, hs, ?_⟩
    rw [completeInstruction, Action.bind_apply, Action.pure_apply, List.append_nil]
    exact he
  | withWord f =>
    obtain ⟨hv, hs, he⟩ := fetchWord_fetched hpc
    refine ⟨congrArg (fun v => some (f v)) hv, hs, ?_⟩
    rw [completeInstruction, Action.bind_apply, Action.pure_apply, List.append_nil]
    exact he

/-- The instruction at the program counter. -/
def instructionAhead (m : Machine) : Option Instruction :=
  let addr := m.cpu.registers.pc
  (Encoding.ofOpcode (m.bus.shown addr)).complete (m.bus.shown (addr + 1)) m.wordBehind

/-- An execution below the limit reads what the text depends on and does what the instruction does,
unless it is STOP or the opcode stands for none. -/
lemma execute_listed (hpc : m.cpu.registers.pc ≤ pcLimit) :
    let pc := m.cpu.registers.pc
    let opcode := m.bus.shown pc
    let reads := m.readsOf (size pc opcode)
    (((m.instructionAhead = none ∧ (execute m).value = .error (.removedOpcode pc opcode)) ∨
        (m.instructionAhead = some .stop ∧ (execute m).value = .error (.stop pc))) ∧
      (execute m).state = m.listed ∧ accesses (execute m).events = reads) ∨
    ∃ i cost, m.instructionAhead = some i ∧ i ≠ .stop ∧ (execute m).value = .ok cost ∧
      (execute m).state = (perform i m.listed).state ∧
      accesses (execute m).events = reads ++ accesses (perform i m.listed).events := by
  obtain ⟨hv, hs, he⟩ := completeInstruction_fetched hpc
  dsimp only at hv hs he ⊢
  rw [execute_of_le hpc, executeOpcode, executeEncoding, opcodeFault_decode, Handler.decode_eq,
    Action.bind_apply]
  dsimp only
  rw [← List.append_assoc, accesses_append, he, hs, hv]
  -- what is left depends on the instruction alone
  rw [← instructionAhead]
  generalize m.instructionAhead = i?
  split
  · exact .inl ⟨.inl ⟨rfl, rfl⟩, rfl, List.append_nil _⟩
  · exact .inl ⟨.inr ⟨rfl, rfl⟩, rfl, List.append_nil _⟩
  · next i hi =>
    refine .inr ⟨i, _, rfl, fun e => hi (e ▸ rfl), rfl, rfl, ?_⟩
    simp only [Action.bind_apply, Action.get_apply, Action.note_apply, Action.pure_apply, registers,
      List.nil_append, accesses_append]
    simp [accesses, Event.isReport]

/-! ## The program counter -/

/-- No byte register is part of the program counter. -/
lemma setByte_pc (r : ByteRegister) (v : UInt8) (regs : Registers) :
    (regs.setByte r v).pc = regs.pc := by
  cases r <;> rfl

/-- Of the word registers only the program counter itself is. -/
lemma setWord_pc {r : WordRegister} (h : r ≠ .pc) (v : UInt16) (regs : Registers) :
    (regs.setWord r v).pc = regs.pc := by
  cases r with
  | pc => exact absurd rfl h
  | _ => rfl

/-- Reading an operand leaves the processor as it is. -/
lemma readOperand_cpu (r : Operand) (m : Machine) : (readOperand r m).state.cpu = m.cpu := by
  cases r <;> rfl

/-- Writing an operand does not move the program counter. -/
lemma writeOperand_pc (r : Operand) (v : UInt8) (m : Machine) :
    (writeOperand r v m).state.cpu.registers.pc = m.cpu.registers.pc := by
  cases r with
  | reg r => exact setByte_pc r v _
  | atHl => rfl

/-- Following a pointer does not move the program counter. -/
lemma follow_pc (p : Pointer) (m : Machine) :
    (follow p m).state.cpu.registers.pc = m.cpu.registers.pc := by
  cases p <;> rfl

/-- The operations that transfer control. -/
def transfers : List String := ["JR", "JP", "CALL", "RST", "RET", "RETI"]

/-- All others leave the program counter alone, unless they work on it as a pair. -/
lemma perform_pc (addr : UInt16) {i : Instruction} (hp : i.pair ≠ some .pc)
    (ht : (i.line addr).operation ∉ transfers) (m : Machine) :
    (perform i m).state.cpu.registers.pc = m.cpu.registers.pc := by
  cases i with
  | jumpRelative | jump | jumpHl | call | ret | reti | restart =>
    exact absurd (by simp [transfers, Instruction.line, transferLine]) ht
  | loadWord r | pop r | incWord r | decWord r => exact setWord_pc (fun e => hp (e ▸ rfl)) _ _
  | load dst src | res i dst | set i dst =>
    exact (writeOperand_pc dst _ _).trans (congrArg (·.registers.pc) (readOperand_cpu _ m))
  | loadImmediate dst n => exact writeOperand_pc dst n m
  | inc r | dec r | shift op r =>
    exact (writeOperand_pc r _ _).trans (congrArg (·.registers.pc) (readOperand_cpu r m))
  | bit i r | alu op r => exact congrArg (·.registers.pc) (readOperand_cpu r m)
  | storeIndirect p | loadIndirect p => exact follow_pc p m
  | _ => rfl

/-- Jumps, calls and restarts show where they go, unless HL holds it. -/
lemma target_line (addr : UInt16) (i : Instruction)
    (h : (i.line addr).operation ∈ ["JR", "JP", "CALL", "RST"])
    (hhl : i.line addr ≠ ⟨"JP", [.name "HL"]⟩) :
    ∃ cc target, (i.line addr).target = some (cc, target) := by
  cases i with
  | jumpRelative cc | jump cc | call cc =>
    cases cc with
    | none => exact ⟨_, _, rfl⟩
    | some cc => cases cc <;> exact ⟨_, _, rfl⟩
  | restart target => exact ⟨_, _, rfl⟩
  | jumpHl => exact absurd rfl hhl
  | alu op | aluImmediate op | shiftA op | shift op =>
    cases op <;> simp [Instruction.line, AluOp.line, ShiftOp.text] at h
  | _ => simp [Instruction.line, transferLine] at h

/-- A transfer with a condition goes there or goes on. -/
lemma guarded_pc (cc : Option Condition) {act : Action Machine Unit} {nn : UInt16}
    (h : ∀ m, (act m).state.cpu.registers.pc = nn) (m : Machine) :
    (guarded cc act m).state.cpu.registers.pc =
      if Condition.allows cc m.cpu.registers.flags then nn else m.cpu.registers.pc := by
  cases hcc : Condition.allows cc m.cpu.registers.flags with
  | false => simp [guarded, registers, hcc]
  | true => simpa [guarded, registers, hcc] using h m

/-! ## Executing what is listed -/

/-- There is no instruction ahead if and only if the opcode is a removed one. -/
lemma instructionAhead_eq_none_iff (hpc : m.cpu.registers.pc ≤ pcLimit) :
    m.instructionAhead = none ↔ (execute m).value =
      .error (.removedOpcode m.cpu.registers.pc (m.bus.shown m.cpu.registers.pc)) := by
  obtain ⟨⟨hi, hv⟩ | ⟨hi, hv⟩, -⟩ | ⟨i, cost, hi, -, hv, -⟩ := execute_listed hpc
  all_goals simp [hi, hv]

/-- The text of the instruction ahead is that of its bytes. -/
lemma mnemonic_ahead {i : Instruction} (h : m.instructionAhead = some i) :
    mnemonic m.cpu.registers.pc (m.bus.shown m.cpu.registers.pc)
      (m.bus.shown (m.cpu.registers.pc + 1)) m.wordBehind = i.text m.cpu.registers.pc := by
  unfold instructionAhead at h
  dsimp only at h
  rw [mnemonic_eq, h]

/-- Behind the bytes that its text depends on, an instruction does what its line means. -/
lemma alike_ahead {i : Instruction} (h : m.instructionAhead = some i) (hs : i ≠ .stop) :
    ∃ act, (i.line m.cpu.registers.pc).meaning = some act ∧ Alike act (perform i) m.listed := by
  obtain ⟨act, hact, halike⟩ := meaning_alike m.cpu.registers.pc hs
  refine ⟨act, hact, halike _ fun cc e hi => ?_⟩
  -- a relative jump has two bytes
  have hb : (Encoding.ofOpcode (m.bus.shown m.cpu.registers.pc)).takesByte = true :=
    Encoding.takesByte_of_jumpRelative (hi ▸ h)
  have hw : (Encoding.ofOpcode (m.bus.shown m.cpu.registers.pc)).takesWord = false := by
    cases he : Encoding.ofOpcode (m.bus.shown m.cpu.registers.pc) with
    | withWord f =>
      rw [he] at hb
      cases hb
    | _ => rfl
  simp [listed, behind, size, dependsOnByte_iff, dependsOnWord_iff, hb, hw]

/-- Where an instruction leads that shows its target. -/
lemma target_ahead {i : Instruction} (h : m.instructionAhead = some i) (hs : i ≠ .stop)
    (ht : (i.line m.cpu.registers.pc).operation ∈ ["JR", "JP", "CALL", "RST"])
    (hhl : i.line m.cpu.registers.pc ≠ ⟨"JP", [.name "HL"]⟩) :
    ∃ cc target, (i.line m.cpu.registers.pc).target = some (cc, target) ∧
      (perform i m.listed).state.cpu.registers.pc =
        if Condition.allows cc m.cpu.registers.flags then target
        else m.listed.cpu.registers.pc := by
  obtain ⟨cc, target, ht⟩ := target_line m.cpu.registers.pc i ht hhl
  obtain ⟨act, hact, halike⟩ := alike_ahead h hs
  obtain ⟨go, hgo, hpc⟩ := meaning_of_target ht
  cases hact.symm.trans hgo
  have hgo := guarded_pc cc hpc m.listed
  rw [halike.state] at hgo
  exact ⟨cc, target, ht, hgo⟩

/-- Executing the instruction at the program counter and printing it describe the same instruction.
The text is that of an unknown instruction exactly if the execution ends in the fault of a removed
opcode. Every execution reads the opcode and the immediates that the text depends on, and these
alone say where the next instruction stands. What it does from there is what the text means: it goes
to the target that is printed if the condition that is printed holds, and all other operations go
on behind the instruction. -/
theorem execution_matches_listing (m : Machine) (hpc : m.cpu.registers.pc ≤ 0xff00) :
    let addr := m.cpu.registers.pc
    let opcode := m.bus.shown addr
    let byte := m.bus.shown (addr + 1)
    let word := Word.join (m.bus.shown (addr + 2)) byte
    let text := mnemonic addr opcode byte word
    let line := Line.ofText text
    let next := addr + UInt16.ofNat (size addr opcode)
    let done := execute m
    -- what cannot be executed
    (∀ digits, text = "unknown instruction 0x" ++ digits ↔
      digits = hexByte opcode ∧ done.value = .error (.removedOpcode addr opcode)) ∧
    (∀ fault, done.value = .error fault →
      (fault = .removedOpcode addr opcode ∨ fault = .stop addr ∧ text = "STOP") ∧
        done.state = m.listed ∧ m.listed.cpu.registers.pc = next ∧
        accesses done.events = m.readsOf (size addr opcode)) ∧
    -- what is executed, and where that leads
    (∀ cost, done.value = .ok cost →
      (∃ act, line.meaning = some act ∧ m.listed.cpu.registers.pc = next ∧
        done.state = (act m.listed).state ∧
        accesses done.events = m.readsOf (size addr opcode) ++ accesses (act m.listed).events) ∧
      (line.operation ∈ ["JR", "JP", "CALL", "RST"] → line ≠ ⟨"JP", [.name "HL"]⟩ →
        ∃ cc target, line.target = some (cc, target) ∧
          done.state.cpu.registers.pc =
            if Condition.allows cc m.cpu.registers.flags then target else next) ∧
      (line.operation ∉ transfers → done.state.cpu.registers.pc = next)) := by
  intro addr opcode byte word text line next done
  have hunknown (digits : String) : text = "unknown instruction 0x" ++ digits ↔
      digits = hexByte opcode ∧ m.instructionAhead = none := mnemonic_eq_unknown_iff
  refine ⟨fun digits => ?_, fun fault hf => ?_, fun cost hv => ?_⟩
  · rw [hunknown, instructionAhead_eq_none_iff hpc]
  · obtain ⟨hcase, hstate, hreads⟩ | ⟨i, cost, -, -, hv, -⟩ := execute_listed hpc
    · refine ⟨?_, hstate, rfl, hreads⟩
      obtain ⟨-, hv⟩ | ⟨hi, hv⟩ := hcase
      · cases hf.symm.trans hv
        exact .inl rfl
      · cases hf.symm.trans hv
        exact .inr ⟨rfl, mnemonic_ahead hi⟩
    · cases hf.symm.trans hv
  · obtain ⟨⟨-, hv'⟩ | ⟨-, hv'⟩, -⟩ | ⟨i, -, hi, hs, -, hstate, hreads⟩ := execute_listed hpc
    · cases hv.symm.trans hv'
    · cases hv.symm.trans hv'
    · have hline : line = i.line addr := by
        rw [← ofText_text]
        exact congrArg Line.ofText (mnemonic_ahead hi)
      obtain ⟨act, hact, halike⟩ := alike_ahead hi hs
      rw [hline, hstate, hreads]
      refine ⟨⟨act, hact, rfl, halike.state.symm, by rw [halike.accesses]⟩, target_ahead hi hs, ?_⟩
      exact fun ht => perform_pc addr (Encoding.pair_ne_pc hi) ht m.listed

/-- A conditional call whose immediates lie behind the boot image. -/
theorem execution_matches_listing_call :
    let bus := { Bus.new (Clock.steady 0 0) with
      map := ((Store.fill 16 0).set 0x100 0x34).set 0x101 0x12
      boot := (Store.fill 8 0).set 0xff 0xc4
      bootMapped := true }
    let m : Machine := ⟨{ Cpu.new true with registers := { pc := 0xff } }, bus⟩
    mnemonic 0xff 0xc4 0x34 0x1234 = "CALL NZ, 0x1234" ∧
      (Line.ofText "CALL NZ, 0x1234").target = some (some .nz, 0x1234) ∧
      (execute m).state.cpu.registers.pc = 0x1234 := by
  intro bus m
  have htext : mnemonic 0xff 0xc4 0x34 0x1234 = "CALL NZ, 0x1234" := by decide +kernel
  have htarget : (Line.ofText "CALL NZ, 0x1234").target = some (some .nz, 0x1234) := by
    rw [← htext]
    exact congrArg Line.target (ofText_text 0xff (.call (some .nz) 0x1234))
  obtain ⟨hpc, hv⟩ : m.cpu.registers.pc ≤ 0xff00 ∧ (execute m).value = .ok 24 := by
    decide +kernel
  obtain ⟨-, -, hok⟩ := execution_matches_listing m hpc
  obtain ⟨-, hgo, -⟩ := hok 24 hv
  have hline : Line.ofText (mnemonic m.cpu.registers.pc (m.bus.shown m.cpu.registers.pc)
      (m.bus.shown (m.cpu.registers.pc + 1)) (Word.join (m.bus.shown (m.cpu.registers.pc + 2))
        (m.bus.shown (m.cpu.registers.pc + 1)))) = Instruction.line 0xff (.call (some .nz) 0x1234) :=
    (congrArg Line.ofText (by decide +kernel)).trans (ofText_text 0xff (.call (some .nz) 0x1234))
  rw [hline] at hgo
  obtain ⟨cc, target, ht, h⟩ := hgo (by decide) (by decide)
  cases ht
  exact ⟨htext, htarget, h.trans (by decide +kernel)⟩

end Machine

end GameBoy
