import GameBoy.Proofs.Machine.ExactSteps
import GameBoy.Proofs.Machine.Swallowing

/-!
# What an injection answers and what it costs

Injected code runs in steps on end, until as many instructions are executed as it is given, or until
the opcode of no operation is executed, or until the machine has come to rest (`Injected`). However
it ends, the instructions and the cycles are those of its ticks, and the program counter, the halt,
what is owed and the boot mapping are what they were before (`inject_accounts`).
-/

namespace GameBoy.Machine

/-- Steps of injected code on end, with the machines in which their ticks begin, the number of them
that execute an instruction, and whether they have come to an end or only been cut off. -/
inductive Injected (stopAtNop : Bool) :
    Machine → List Machine → Nat → Bool → List Event → Machine → Prop where
  | cut (m : Machine) : Injected stopAtNop m [] 0 false [] m
  | rested {m ms es m'} : Stepped m ms 0 es m' → Injected stopAtNop m ms 0 true es m'
  | stopped {m ms n es m'} : Stepped m ms n es m' → n ≠ 0 →
    stopAtNop = true → m'.cpu.last.opcode = 0 → Injected stopAtNop m ms 1 true es m'
  | again {m ms n es m' ms' k ended es' m''} : Stepped m ms n es m' → n ≠ 0 →
    ¬(stopAtNop = true ∧ m'.cpu.last.opcode = 0) → Injected stopAtNop m' ms' k ended es' m'' →
    Injected stopAtNop m (ms ++ ms') (k + 1) ended (es ++ es') m''

variable {m m' : Machine} {es : List Event} {ms : List Machine} {stopAtNop ended : Bool}
variable {n k : Nat}

/-! ## The opcode of no operation -/

/-- A tick executes the opcode of no operation. -/
def ExecutesNop (m : Machine) : Prop :=
  (tick m).value = true ∧ m.bus.shown m.cpu.registers.pc = 0

/-- A tick that executes nothing executes no operation that does nothing. -/
lemma not_executesNop (h : (tick m).value = false) : ¬ExecutesNop m := fun hnop =>
  Bool.false_ne_true (h.symm.trans hnop.1)

/-- Whether a step has executed the opcode of no operation is seen from the record of the last
instruction. -/
lemma Stepped.executesNop (h : Stepped m ms n es m') (hn : n ≠ 0) :
    ∃ waits x, ms = waits ++ [x] ∧ (∀ y ∈ waits, ¬ExecutesNop y) ∧
      (ExecutesNop x ↔ m'.cpu.last.opcode = 0) := by
  obtain ⟨waits, _, x, rfl, -, -, rfl, hwaits, ⟨hv, -⟩ | ⟨-, h0, -⟩⟩ := h.last
  · refine ⟨waits, x, rfl, fun y hy => not_executesNop (hwaits y hy), ?_⟩
    rw [(ticked_of_value hv).last_executed, ExecutesNop]
    exact and_iff_right hv
  · exact absurd h0 hn

/-! ## Steps of injected code -/

/-- What one step of an injection does, and what it says about the next one. -/
lemma injectedStep_apply (stopAtNop : Bool) (m : Machine) :
    injectedStep stopAtNop m =
      ⟨if (step m).value = 0 then .refused
        else if stopAtNop = true ∧ (step m).state.cpu.last.opcode = 0 then .last else .again,
        (step m).state, (step m).events⟩ := by
  by_cases h : (step m).value = 0
  · simp [injectedStep, h]
  · by_cases h' : stopAtNop = true ∧ (step m).state.cpu.last.opcode = 0
    · simp [injectedStep, h, h']
    · simp [injectedStep, h, h']

/-- However few steps are allowed, they are steps of injected code on end. -/
lemma upTo_injected (stopAtNop : Bool) (limit : Nat) (m : Machine) :
    let run := Action.upTo limit (injectedStep stopAtNop) m
    (∃ ms, Injected stopAtNop m ms run.value.count run.value.ended run.events run.state) ∧
      run.value.count ≤ limit ∧ (run.value.ended = false → run.value.count = limit) := by
  induction limit generalizing m with
  | zero => exact ⟨⟨[], .cut m⟩, Nat.le_refl 0, fun _ => rfl⟩
  | succ limit ih =>
    obtain ⟨ms, h⟩ := step_stepped m
    rw [Action.upTo_succ, injectedStep_apply]
    by_cases h0 : (step m).value = 0
    · rw [h0] at h
      rw [if_pos h0]
      exact ⟨⟨ms, .rested h⟩, Nat.zero_le _, nofun⟩
    · by_cases hnop : stopAtNop = true ∧ (step m).state.cpu.last.opcode = 0
      · rw [if_neg h0, if_pos hnop]
        exact ⟨⟨ms, .stopped h h0 hnop.1 hnop.2⟩, Nat.le_add_left 1 limit, nofun⟩
      · obtain ⟨⟨ms', h'⟩, hle, heq⟩ := ih (step m).state
        rw [if_neg h0, if_neg hnop]
        exact ⟨⟨ms ++ ms', .again h h0 hnop h'⟩, Nat.succ_le_succ hle,
          fun he => congrArg (· + 1) (heq he)⟩

/-- More steps than it takes to come to an end make no difference. -/
lemma Injected.upTo_eq (h : Injected stopAtNop m ms k ended es m') (he : ended = true) {limit : Nat}
    (hl : k < limit) :
    Action.upTo limit (injectedStep stopAtNop) m = ⟨⟨k, true⟩, m', es⟩ := by
  induction h generalizing limit with
  | cut m => cases he
  | rested h =>
    cases limit with
    | zero => cases hl
    | succ limit => simp [Action.upTo_succ, injectedStep_apply, h.step_eq]
  | stopped h hn hs ho =>
    cases limit with
    | zero => cases hl
    | succ limit => simp [Action.upTo_succ, injectedStep_apply, h.step_eq, hn, hs, ho]
  | again h hn hs _ ih =>
    cases limit with
    | zero => cases hl
    | succ limit =>
      have hrest := ih he (Nat.lt_of_succ_lt_succ hl)
      simp only [Action.upTo_succ, injectedStep_apply, h.step_eq, hn, hs, if_false, hrest]

namespace Injected

/-- The steps of an injection are ticks. -/
lemma ticks (h : Injected stopAtNop m ms k ended es m') : Ticks m ms es m' := by
  induction h with
  | cut m => exact .nil m
  | rested h | stopped h _ _ _ => exact h.ticks
  | again h _ _ _ ih => exact h.ticks.append ih

/-- An injection counts the instructions of its ticks. -/
lemma count (h : Injected stopAtNop m ms k ended es m') :
    (ms.countP fun x => (tick x).value) = k := by
  induction h with
  | cut m => rfl
  | rested h => exact h.charges.2
  | stopped h hn _ _ => exact h.charges.2.trans (if_neg hn)
  | again h hn _ _ ih =>
    rw [List.countP_append, h.charges.2, if_neg hn, ih]
    exact Nat.add_comm 1 _

/-- Code that does not wait for the opcode of no operation comes to an end only at rest. -/
lemma atRest (h : Injected false m ms k ended es m') (he : ended = true) : AtRest m' := by
  induction h with
  | cut m => cases he
  | rested h => exact h.exact.rest rfl
  | stopped _ _ hs _ => cases hs
  | again _ _ _ _ ih => exact ih he

/-- Code that waits for it comes to an end with the first tick that executes it, or at rest. -/
lemma nops (h : Injected true m ms k ended es m') :
    (∃ before x, ms = before ++ [x] ∧ ExecutesNop x ∧ ∀ y ∈ before, ¬ExecutesNop y) ∨
      (ended = true → AtRest m') ∧ ∀ x ∈ ms, ¬ExecutesNop x := by
  induction h with
  | cut m => exact .inr ⟨nofun, fun x hx => absurd hx List.not_mem_nil⟩
  | rested h =>
    have hms := List.countP_eq_zero.mp (h.exact.none.mp rfl)
    exact .inr ⟨fun _ => h.exact.rest rfl, fun x hx hnop => hms x hx hnop.1⟩
  | stopped h hn _ ho =>
    obtain ⟨waits, x, hms, hwaits, hx⟩ := h.executesNop hn
    exact .inl ⟨waits, x, hms, hx.mpr ho, hwaits⟩
  | @again _ ms _ _ _ ms' _ _ _ _ h hn hs _ ih =>
    have hms : ∀ x ∈ ms, ¬ExecutesNop x := by
      obtain ⟨waits, x, rfl, hwaits, hx⟩ := h.executesNop hn
      refine List.forall_mem_append.mpr ⟨hwaits, List.forall_mem_singleton.mpr ?_⟩
      exact fun hnop => hs ⟨rfl, hx.mp hnop⟩
    obtain ⟨before, x, rfl, hx, hbefore⟩ | ⟨hend, hms'⟩ := ih
    · exact .inl ⟨ms ++ before, x, (List.append_assoc ..).symm, hx,
        List.forall_mem_append.mpr ⟨hms, hbefore⟩⟩
    · exact .inr ⟨hend, List.forall_mem_append.mpr ⟨hms, hms'⟩⟩

end Injected

/-! ## Injections -/

/-- Whether code that runs so long waits for the opcode of no operation. -/
def InjectionLimit.stopsAtNop : InjectionLimit → Bool
  | .instructions _ => false
  | .untilNop _ => true

/-- How many steps code takes that runs so long. -/
def InjectionLimit.steps : InjectionLimit → Nat
  | .instructions n => n
  | .untilNop patience => patience

/-- The answer of code that runs so long, by the number of instructions and whether it has come to
an end. -/
def InjectionLimit.answer (limit : InjectionLimit) (k : Nat) (ended : Bool) : Option Nat :=
  if limit.stopsAtNop && !ended then none else some k

/-- The number that an injection answers with is that of its instructions. -/
lemma InjectionLimit.of_answer {limit : InjectionLimit} {k' : Nat}
    (h : limit.answer k ended = some k') : k = k' ∧ (limit.stopsAtNop = true → ended = true) := by
  unfold answer at h
  split at h
  · cases h
  · next hanswers => exact ⟨Option.some.inj h, fun hs => by simpa [hs] using hanswers⟩

/-- An injection is a repetition of its steps. -/
lemma runInjected_apply (limit : InjectionLimit) (m : Machine) :
    let run := Action.upTo limit.steps (injectedStep limit.stopsAtNop) m
    runInjected limit m =
      ⟨limit.answer run.value.count run.value.ended, run.state, run.events⟩ := by
  cases limit with
  | instructions n =>
    simp [runInjected, InjectionLimit.answer, InjectionLimit.steps, InjectionLimit.stopsAtNop]
  | untilNop patience =>
    cases h : (Action.upTo patience (injectedStep true) m).value.ended <;>
      simp [runInjected, InjectionLimit.answer, InjectionLimit.steps, InjectionLimit.stopsAtNop, h]

/-- Every injection runs, and ends for one of its reasons. -/
lemma runInjected_injected (limit : InjectionLimit) (m : Machine) :
    ∃ ms k ended, Injected limit.stopsAtNop m ms k ended (runInjected limit m).events
        (runInjected limit m).state ∧
      (runInjected limit m).value = limit.answer k ended ∧ k ≤ limit.steps ∧
      (ended = false → k = limit.steps) := by
  obtain ⟨⟨ms, h⟩, hle, heq⟩ := upTo_injected limit.stopsAtNop limit.steps m
  rw [runInjected_apply]
  exact ⟨ms, _, _, h, rfl, hle, heq⟩

/-- Code that comes to an end does so with any patience that is larger. -/
lemma Injected.runInjected_eq (h : Injected true m ms k true es m') {patience : Nat}
    (hk : k < patience) : runInjected (.untilNop patience) m = ⟨some k, m', es⟩ := by
  have hrun := h.upTo_eq rfl hk
  rw [runInjected_apply]
  simp only [InjectionLimit.steps, InjectionLimit.stopsAtNop, hrun]
  rfl

/-- On a stopped processor no code runs. -/
lemma runInjected_of_isPanicked (limit : InjectionLimit) (hp : m.cpu.isPanicked = true) :
    runInjected limit m = ⟨if limit = .untilNop 0 then none else some 0, m, []⟩ := by
  have hrefused (stopAtNop : Bool) : injectedStep stopAtNop m = ⟨.refused, m, []⟩ := by
    rw [injectedStep_apply, step_of_isPanicked hp]
    rfl
  rw [runInjected_apply]
  cases limit with
  | instructions n | untilNop n =>
    cases n with
    | zero => rfl
    | succ n =>
      simp only [InjectionLimit.steps, Action.upTo_succ, hrefused]
      rfl

/-- An injection into a processor that has stopped for good leaves the bus as it was, but that the
cartridge image may have grown by bytes 0xff. -/
lemma inject_bus_of_isPanicked (code : List UInt8) (addr : UInt16) (limit : InjectionLimit)
    (hp : m.cpu.isPanicked = true) :
    ∃ n, (inject code addr limit m).state.bus =
      { m.bus with cartridge := m.bus.cartridge ++ Array.replicate n 0xff } := by
  have hmapped : (m.patched code addr).bus.bootMapped = false :=
    (Bus.patch.go_frame m.bus.lifted addr.toNat code).2.1
  obtain ⟨n, hundone⟩ := m.bus.lifted.patch_undone addr code
  have hrun := runInjected_of_isPanicked (m := m.patched code addr) limit hp
  rw [inject_state, hrun, restore_bus m addr _ hmapped]
  exact ⟨n, congrArg (fun bus : Bus => { bus with bootMapped := m.bus.bootMapped }) hundone⟩

/-- What an injection comes to that finds the machine `m`, when its code has run from `start`, by the
machines in which the ticks of the code begin. -/
structure Accounted (m start : Machine) (limit : InjectionLimit)
    (run done : Outcome Machine (Option Nat)) (ms : List Machine) : Prop where
  ticks : Ticks start ms run.events run.state
  cpu : done.state.cpu =
    { run.state.cpu with
      registers := { run.state.cpu.registers with pc := m.cpu.registers.pc }
      debt := m.cpu.debt
      halted := m.cpu.halted }
  overlay : done.state.bus.bootMapped = m.bus.bootMapped
  charged : done.state.cpu.cycles =
    m.cpu.cycles + (ms.map price).sum + 20 * (dispatches done.events).length
  counted {k : Nat} : done.value = some k → (ms.countP fun x => (tick x).value) = k ∧
    done.state.cpu.instructions = m.cpu.instructions + k
  instructions {n : Nat} : limit = .instructions n →
    ∃ k, done.value = some k ∧ k ≤ n ∧ (k < n → AtRest run.state)
  untilNop {patience k : Nat} : limit = .untilNop patience → done.value = some k →
    (∃ before x, ms = before ++ [x] ∧ ExecutesNop x ∧ ∀ y ∈ before, ¬ExecutesNop y) ∨
      AtRest run.state ∧ ∀ x ∈ ms, ¬ExecutesNop x

/-- What a whole injection adds up to. -/
lemma inject_accounted (m : Machine) (code : List UInt8) (addr : UInt16) (limit : InjectionLimit) :
    ∃ ms, Accounted m (m.patched code addr) limit (runInjected limit (m.patched code addr))
      (inject code addr limit m) ms := by
  obtain ⟨ms, k, ended, h, hanswer, hle, heq⟩ := runInjected_injected limit (m.patched code addr)
  obtain ⟨hvalue, lift, map, hes, hlift, hmap, -, -⟩ := inject_run m code addr limit
  obtain ⟨hcycles, hinstructions⟩ := h.ticks.charges
  have hcpu := inject_cpu m code addr limit
  have hvalue := hvalue.trans hanswer
  have hdispatches : dispatches (inject code addr limit m).events =
      dispatches (runInjected limit (m.patched code addr)).events := by
    rw [hes, dispatches_append, dispatches_append, hlift, hmap, List.nil_append, List.append_nil]
  refine ⟨ms, h.ticks, hcpu, (inject_bytes m code addr limit).2.2.2.1, ?_, ?_, ?_, ?_⟩
  · rw [hcpu, hdispatches]
    exact hcycles
  · intro k' hk'
    obtain ⟨rfl, -⟩ := InjectionLimit.of_answer (hvalue.symm.trans hk')
    refine ⟨h.count, ?_⟩
    rw [hcpu, ← h.count]
    exact hinstructions
  · rintro n rfl
    refine ⟨k, hvalue, hle, fun hlt => ?_⟩
    cases ended with
    | true => exact h.atRest rfl
    | false => exact absurd (heq rfl) (Nat.ne_of_lt hlt)
  · rintro patience k' rfl hk'
    obtain ⟨-, hended⟩ := InjectionLimit.of_answer (hvalue.symm.trans hk')
    exact h.nops.imp_right fun ⟨hrest, hms⟩ => ⟨hrest (hended rfl), hms⟩

/-- Whatever code is injected, and however long it runs, the processor goes on where it was, the
instructions and cycles are those of the code, and the code ends where it is to end or at rest. The
patience does not matter if the code comes to an end. On a stopped processor nothing happens at
all. -/
theorem inject_accounts (m : Machine) (code : List UInt8) (addr : UInt16) :
    (∀ limit, ∃ ms, Accounted m (m.patched code addr) limit
      (runInjected limit (m.patched code addr)) (inject code addr limit m) ms) ∧
    (∀ k, (∃ patience, (inject code addr (.untilNop patience) m).value = some k) ↔
      ∃ ms es m', Injected true (m.patched code addr) ms k true es m') ∧
    (∀ ms k es m', Injected true (m.patched code addr) ms k true es m' → ∀ patience > k,
      runInjected (.untilNop patience) (m.patched code addr) = ⟨some k, m', es⟩) ∧
    (m.cpu.isPanicked = true → ∀ limit,
      let done := inject code addr limit m
      done.value = (if limit = .untilNop 0 then none else some 0) ∧
        ∀ a, (Bus.read a done.state.bus).value = (Bus.read a m.bus).value) := by
  have hvalue (limit : InjectionLimit) := (inject_run m code addr limit).1
  refine ⟨inject_accounted m code addr, fun k => ⟨?_, ?_⟩,
    fun ms k es m' h patience hk => h.runInjected_eq hk, fun hp limit => ⟨?_, fun a => ?_⟩⟩
  · rintro ⟨patience, hk⟩
    obtain ⟨ms, _, ended, h, hanswer, -, -⟩ :=
      runInjected_injected (.untilNop patience) (m.patched code addr)
    obtain ⟨rfl, hended⟩ := InjectionLimit.of_answer (((hvalue _).trans hanswer).symm.trans hk)
    rw [hended rfl] at h
    exact ⟨ms, _, _, h⟩
  · rintro ⟨ms, es, m', h⟩
    exact ⟨k + 1, (hvalue _).trans (congrArg Outcome.value (h.runInjected_eq (Nat.lt_succ_self k)))⟩
  · have hrun := runInjected_of_isPanicked (m := m.patched code addr) limit hp
    exact (hvalue limit).trans (congrArg Outcome.value hrun)
  · obtain ⟨n, hbus⟩ := inject_bus_of_isPanicked code addr limit hp
    rw [Bus.read_value, Bus.read_value, hbus, Bus.shown_grown]

/-- Injected code that halts ends before its five instructions, at rest; code that waits for the
opcode of no operation ends behind it; and no code is run or kept on a processor that has stopped. -/
theorem inject_accounts_exits :
    let m : Machine := ⟨{ Cpu.new false with debt := 3 }, Bus.new (Clock.steady 0 0)⟩
    let stopped : Machine := { m with cpu := { m.cpu with fault := some (.stop 0x100) } }
    let halt := inject [0x76] 0xc000 (.instructions 5)
    let nop := inject [0x3c, 0x00] 0xc000 (.untilNop 9)
    let start := m.patched [0x3c, 0x00] 0xc000
    let run := runInjected (.untilNop 9) start
    ((halt m).value = some 1 ∧
      AtRest (runInjected (.instructions 5) (m.patched [0x76] 0xc000)).state) ∧
    ((nop m).value = some 2 ∧ (nop m).state.cpu.instructions = 2 ∧
      ∃ before x, Ticks start (before ++ [x]) run.events run.state ∧ ExecutesNop x) ∧
    (nop stopped).value = some 0 ∧
      (Bus.read 0xc000 (nop stopped).state.bus).value = (Bus.read 0xc000 stopped.bus).value := by
  intro m stopped halt nop start run
  obtain ⟨hhalt, hnop, hlive⟩ : (halt m).value = some 1 ∧ (nop m).value = some 2 ∧
      run.state.cpu.isPanicked = false ∧ run.state.cpu.halted = false := by decide +kernel
  obtain ⟨haccounts, -⟩ := inject_accounts m [0x76] 0xc000
  obtain ⟨haccounts', -⟩ := inject_accounts m [0x3c, 0x00] 0xc000
  obtain ⟨-, -, -, hstopped⟩ := inject_accounts stopped [0x3c, 0x00] 0xc000
  obtain ⟨_, hms⟩ := haccounts (.instructions 5)
  obtain ⟨ms, hms'⟩ := haccounts' (.untilNop 9)
  obtain ⟨k, hk, -, hrest⟩ := hms.instructions rfl
  obtain rfl : 1 = k := Option.some.inj (hhalt.symm.trans hk)
  obtain ⟨hvalue, hreads⟩ := hstopped rfl (.untilNop 9)
  obtain ⟨before, x, rfl, hx, -⟩ | ⟨hp | ⟨hh, -⟩, -⟩ := hms'.untilNop rfl hnop
  · exact ⟨⟨hhalt, hrest (by decide)⟩,
      ⟨hnop, (hms'.counted hnop).2, before, x, hms'.ticks, hx⟩, hvalue, hreads 0xc000⟩
  · cases hlive.1.symm.trans hp
  · cases hlive.2.symm.trans hh

end GameBoy.Machine
