import GameBoy.Proofs.Machine.Dispatching

/-!
# Halting

A halted processor pays what it owes and does nothing else (`tick_asleep`), until a tick finds an
interrupt that is requested and enabled. That tick ends the halt: it dispatches the interrupt, or it
only wakes the processor if interrupts are disabled (`Wakes`), which then goes on behind the halt
(`NextAt`). It makes no difference whether the interrupt arrives during the halt or was there when
the halt was executed (`halt_ends_at_interrupt`).
-/

namespace GameBoy

/-- A write to the bus is one access. -/
lemma accesses_write (bus : Bus) (addr : UInt16) (v : UInt8) :
    accesses (Bus.write addr v bus).events = [.write addr v] := by
  obtain ⟨es, hes, h⟩ := bus.write_events_eq addr v
  rw [h, ← List.singleton_append, accesses_append, accesses_of_reports hes]
  rfl

namespace Machine

variable {m m' : Machine} {ms : List Machine} {addr : UInt16}

/-! ## The instruction at an address -/

/-- The next instruction is the one at an address, whatever happens to the bus on the way to it. It
is executed as soon as nothing is owed any more, unless fetching it is a fault. -/
structure NextAt (addr : UInt16) (m : Machine) : Prop where
  executed {bus ms m'} : Run { m with bus } ms m' → (∀ x ∈ ms, (tick x).value = false) →
    (tick m').value = true →
    m'.cpu.registers.pc = addr ∧ ms.length = m.cpu.owed ∧ ∃ i, Executes i m'
  faulted {bus ms m' fault} : Run { m with bus } ms m' → (∀ x ∈ ms, (tick x).value = false) →
    (tick m').state.cpu.fault = some fault → fault.addr = addr
  comes {bus ms m'} : Run { m with bus } ms m' → (∀ x ∈ ms, (tick x).value = false) →
    m.cpu.owed ≤ ms.length → (tick m').value = true ∨ (tick m').state.cpu.isPanicked = true

/-- A processor on the way to an address executes next there. -/
lemma Headed.nextAt (h : Headed addr m.cpu) : NextAt addr m where
  executed hrun hv htick := by
    obtain ⟨hnext, -, -⟩ := hrun.reaches h hv
    obtain ⟨hpc, howed⟩ := hnext htick
    exact ⟨hpc, howed, (ticked_of_value htick).executes⟩
  faulted hrun hv hfault := by
    obtain ⟨-, hnext, -⟩ := hrun.reaches h hv
    exact hnext _ hfault
  comes hrun hv howed := by
    obtain ⟨-, -, hnext⟩ := hrun.reaches h hv
    exact hnext howed

/-! ## During a halt -/

/-- The processor halts and no fault has stopped it. -/
structure IsHalting (m : Machine) : Prop where
  halted : m.cpu.halted = true
  fault : m.cpu.fault = none

/-- The machine some ticks further into a halt. -/
def rested (m : Machine) (n : Nat) : Machine :=
  { m with cpu := { m.cpu with debt := UInt32.ofNat (m.cpu.owed - n) } }

/-- A rest of no ticks changes nothing. -/
lemma rested_zero (m : Machine) : m.rested 0 = m := by
  rw [rested, Nat.sub_zero, Cpu.owed, UInt32.ofNat_toNat]

/-- Every tick of a rest pays one cycle, as long as any is owed. -/
lemma rested_owed (m : Machine) (n : Nat) : (m.rested n).cpu.owed = m.cpu.owed - n :=
  UInt32.toNat_ofNat_of_lt' (Nat.lt_of_le_of_lt (Nat.sub_le _ n) m.cpu.owed_lt)

/-- Rests add up. -/
lemma rested_rested (m : Machine) (n k : Nat) : (m.rested n).rested k = m.rested (n + k) := by
  rw [rested, rested_owed, Nat.sub_sub]
  rfl

/-- A payment is a rest of one tick. -/
lemma paid_eq_rested (m : Machine) : m.paid = m.rested 1 := by
  rw [paid, Cpu.pay_eq, rested]

/-- A rest wakes nobody. -/
lemma IsHalting.rested (h : IsHalting m) (n : Nat) : IsHalting (m.rested n) := ⟨h.halted, h.fault⟩

/-- A tick of a halted processor pays a cycle and looks at the interrupts. -/
lemma tick_halting (h : IsHalting m) : tick m = ⟨false, (settle m).state, (settle m).events⟩ := by
  have hr : m.cpu.isReady = false := by rw [Cpu.isReady, h.halted]; rfl
  exact tick_of_waiting (isPanicked_of_none h.fault) hr

/-- A tick of a halted processor without an interrupt is a rest. -/
lemma tick_asleep (h : IsHalting m) (hw : m.bus.waiting = 0) :
    tick m = ⟨false, m.rested 1, []⟩ := by
  have hpending : m.paid.pending = none := pending_eq_none_iff.mpr hw
  rw [tick_halting h, settle_apply, serviceInterrupts_none hpending, paid_eq_rested]

/-- As long as no interrupt waits, whatever else happens on the bus, a halt goes on. -/
lemma Run.asleep (h : Run m ms m') (hm : IsHalting m) (hw : ∀ x ∈ ms, x.bus.waiting = 0) :
    (∀ x ∈ ms, tick x = ⟨false, x.rested 1, []⟩) ∧ m'.cpu = (m.rested ms.length).cpu := by
  induction h with
  | nil m =>
    refine ⟨fun x hx => (List.not_mem_nil hx).elim, ?_⟩
    rw [List.length_nil, rested_zero]
  | @cons m ms m' bus _ ih =>
    have htick : tick m = ⟨false, m.rested 1, []⟩ := tick_asleep hm (hw m (.head _))
    rw [htick] at ih
    obtain ⟨hms, hcpu⟩ := ih ⟨hm.halted, hm.fault⟩ fun x hx => hw x (.tail _ hx)
    refine ⟨fun x hx => ?_, ?_⟩
    · obtain rfl | hx := List.mem_cons.mp hx
      · exact htick
      · exact hms x hx
    · rw [hcpu, List.length_cons, Nat.add_comm, ← rested_rested]
      rfl

/-- So many ticks without an interrupt are a rest of that length. -/
lemma after_asleep (hm : IsHalting m) (hw : m.bus.waiting = 0) (k : Nat) :
    m.after k = m.rested k := by
  induction k with
  | zero => rw [after, rested_zero]
  | succ k ih =>
    rw [after, ih, tick_asleep (hm.rested k) hw]
    exact rested_rested m k 1

/-! ## The end of a halt -/

/-- A tick ends a halt. With interrupts enabled it dispatches the most urgent one, and the return
address is where the halted processor would have gone on. With interrupts disabled it changes
nothing but the halt and what is owed, and the processor goes on there. -/
structure Wakes (m : Machine) : Prop where
  waits : (tick m).value = false
  awake : (tick m).state.cpu.halted = false
  called : m.cpu.ime = true → ∃ i, i.IsLowest m.bus.waiting ∧ dispatches (tick m).events = [i] ∧
    Called m.paid i (tick m).state ∧
    accesses (tick m).events =
      [.write (m.cpu.registers.sp - 1) (Word.high m.cpu.registers.pc),
        .write (m.cpu.registers.sp - 2) (Word.low m.cpu.registers.pc)]
  resumed : m.cpu.ime = false →
    (tick m).state = { m.rested 1 with cpu := { (m.rested 1).cpu with halted := false } } ∧
    dispatches (tick m).events = [] ∧ accesses (tick m).events = [] ∧
    NextAt m.cpu.registers.pc (tick m).state

/-- A dispatch reaches the bus with the two bytes of the program counter. -/
lemma dispatch_accesses (i : Interrupt) (m : Machine) :
    accesses (dispatch i m).events =
      [.write (m.cpu.registers.sp - 1) (Word.high m.cpu.registers.pc),
        .write (m.cpu.registers.sp - 2) (Word.low m.cpu.registers.pc)] := by
  have hpush (w : UInt16) (m : Machine) : (push w m).events =
      (Bus.write (m.cpu.registers.sp - 1) (Word.high w) m.bus).events ++
        (Bus.write (m.cpu.registers.sp - 2) (Word.low w)
          (Bus.write (m.cpu.registers.sp - 1) (Word.high w) m.bus).state).events := by
    simp [push, registers, writeByte, onBus, modifyRegisters, modifyCpu]
  rw [dispatch_events, accesses_append, hpush, accesses_append, accesses_write, accesses_write]
  rfl

/-- An interrupt is dispatched by the first tick that finds it, if the master enable is set. -/
lemma tick_called {i : Interrupt} (h : IsHalting m) (hi : m.pending = some i)
    (hime : m.cpu.ime = true) :
    tick m = ⟨false, (dispatch i m.paid).state, (dispatch i m.paid).events⟩ := by
  rw [tick_halting h, settle_apply, serviceInterrupts_dispatch (m := m.paid) hi hime]

/-- Without the master enable an interrupt ends the halt and is not dispatched. -/
lemma tick_resumed {i : Interrupt} (h : IsHalting m) (hi : m.pending = some i)
    (hime : m.cpu.ime = false) :
    tick m = ⟨false, { m.rested 1 with cpu := { (m.rested 1).cpu with halted := false } },
      [.notice (.haltLeft i)]⟩ := by
  rw [tick_halting h, settle_apply, serviceInterrupts_halted (m := m.paid) hi hime h.halted,
    paid_eq_rested]

/-- A halted processor with an interrupt wakes. -/
lemma IsHalting.wakes (h : IsHalting m) (hw : m.bus.waiting ≠ 0) : Wakes m := by
  obtain ⟨i, hi⟩ : ∃ i, m.pending = some i :=
    Option.ne_none_iff_exists'.mp fun hnone => hw (pending_eq_none_iff.mp hnone)
  cases hime : m.cpu.ime with
  | true =>
    have htick := tick_called h hi hime
    constructor
    · rw [htick]
    · rw [htick, dispatch_called]
      rfl
    · rw [htick]
      exact fun _ => ⟨i, pending_eq_some_iff.mp hi, dispatch_dispatches i m.paid,
        dispatch_effect i m.paid, dispatch_accesses i m.paid⟩
    · exact fun hoff => absurd (hoff.symm.trans hime) nofun
  | false =>
    have htick := tick_resumed h hi hime
    have hheaded : Headed m.cpu.registers.pc (tick m).state.cpu := by
      rw [htick]
      exact ⟨rfl, hime, rfl, h.fault⟩
    constructor
    · rw [htick]
    · exact hheaded.halted
    · exact fun hon => absurd (hon.symm.trans hime) nofun
    · refine fun _ => ⟨?_, ?_, ?_, hheaded.nextAt⟩
      · rw [htick]
      · rw [htick]
        rfl
      · rw [htick]
        rfl

/-! ## The instruction that halts -/

/-- The machine that has executed the instruction to halt and is about to look at the interrupts. -/
def halting (m : Machine) : Machine where
  cpu := { m.cpu with
    registers := { m.cpu.registers with pc := m.cpu.registers.pc + 1 }
    halted := true
    last := { addr := m.cpu.registers.pc, opcode := 0x76 }
    debt := 4
    lastCost := 4
    cycles := m.cpu.cycles + 4
    instructions := m.cpu.instructions + 1 }
  bus := m.bus.liftedAt m.cpu.registers.pc

/-- HALT is executed like any other instruction, and leaves the processor halted. -/
lemma execute_halt (hpc : m.cpu.registers.pc ≤ pcLimit)
    (h : m.bus.shown m.cpu.registers.pc = 0x76) :
    (execute m).value = .ok 4 ∧ (execute m).state.charged 4 = m.halting ∧
      accesses (execute m).events = [.read m.cpu.registers.pc 0x76] := by
  have hfetch := accesses_fetchEvents m
  rw [h] at hfetch
  have hrest : execute m = ⟨_, _, _⟩ := execute_of_le hpc
  rw [hrest, accesses_append, hfetch, h, fetched, h, executeOpcode, Handler.decode_eq]
  exact ⟨rfl, rfl, rfl⟩

/-- A tick that executes the instruction to halt ends as a tick of a halted processor does. -/
lemma tick_halt (hf : m.cpu.fault = none) (hr : m.cpu.isReady = true)
    (hpc : m.cpu.registers.pc ≤ pcLimit) (h : m.bus.shown m.cpu.registers.pc = 0x76) :
    tick m =
      ⟨true, (tick m.halting).state, (execute m).events ++ (tick m.halting).events⟩ := by
  obtain ⟨hv, hs, -⟩ := execute_halt hpc h
  rw [tick_of_ok (isPanicked_of_none hf) hr hv, hs, tick_halting (m := m.halting) ⟨rfl, hf⟩]

/-- A halt lasts as long as no interrupt waits, and the first tick that finds one ends it, also if
that is the tick that executes the halt. -/
theorem halt_ends_at_interrupt :
    (∀ m ms m', IsHalting m → Run m ms m' → (∀ x ∈ ms, x.bus.waiting = 0) →
      (∀ x ∈ ms, tick x = ⟨false, x.rested 1, []⟩) ∧ m'.cpu = (m.rested ms.length).cpu ∧
        (m'.bus.waiting ≠ 0 → Wakes m')) ∧
    (∀ m k, IsHalting m → m.bus.waiting = 0 → m.after k = m.rested k) ∧
    ∀ m, m.cpu.fault = none → m.cpu.isReady = true → m.cpu.registers.pc ≤ pcLimit →
      m.bus.shown m.cpu.registers.pc = 0x76 →
      accesses (execute m).events = [.read m.cpu.registers.pc 0x76] ∧
      tick m = ⟨true, (tick m.halting).state, (execute m).events ++ (tick m.halting).events⟩ ∧
      IsHalting m.halting ∧ (m.bus.waiting ≠ 0 → Wakes m.halting) := by
  refine ⟨fun m ms m' hm hrun hw => ?_, fun m k hm hw => after_asleep hm hw k,
    fun m hf hr hpc h => ?_⟩
  · obtain ⟨hms, hcpu⟩ := hrun.asleep hm hw
    have hm' : IsHalting m' := ⟨by rw [hcpu]; exact hm.halted, by rw [hcpu]; exact hm.fault⟩
    exact ⟨hms, hcpu, hm'.wakes⟩
  · have hm : IsHalting m.halting := ⟨rfl, hf⟩
    exact ⟨(execute_halt hpc h).2.2, tick_halt hf hr hpc h, hm, hm.wakes⟩

/-- A processor halts at 0xc000. A key that is pressed ten ticks later ends the halt, and a key that
was pressed before ends it in the tick that began it. -/
theorem halt_ends_at_interrupt_joypad :
    let bus := ((Bus.new (Clock.steady 0 0)).stored 0xc000 0x76).setIo .interruptEnable 0x10
    let m : Machine := ⟨{ Cpu.new false with registers := { pc := 0xc000, sp := 0xdffe } }, bus⟩
    let later := { m.halting.after 10 with bus := (m.halting.after 10).bus.request .joypad }
    let before := { m with bus := bus.request .joypad }
    later.cpu = (m.halting.rested 10).cpu ∧ Wakes later ∧
      (tick before).state = (tick before.halting).state ∧ Wakes before.halting := by
  intro bus m later before
  obtain ⟨hidle, -, hhalt⟩ := halt_ends_at_interrupt
  have hready : m.cpu.isReady = true := by decide
  obtain ⟨hasleep, hlater⟩ : (∀ x ∈ (List.range 10).map m.halting.after, x.bus.waiting = 0) ∧
      later.bus.waiting ≠ 0 := by decide +kernel
  obtain ⟨hshown, hbefore⟩ : before.bus.shown 0xc000 = 0x76 ∧ before.bus.waiting ≠ 0 := by
    decide +kernel
  have hrun : Run m.halting ((List.range 10).map m.halting.after) later := by
    rw [List.range_succ, List.map_append]
    exact (run_after m.halting 9).snoc later.bus
  obtain ⟨-, hcpu, hwakes⟩ := hidle _ _ _ ⟨rfl, rfl⟩ hrun hasleep
  obtain ⟨-, htick, -, hwakes'⟩ := hhalt before rfl hready (by decide) hshown
  exact ⟨hcpu, hwakes hlater, by rw [htick], hwakes' hbefore⟩

end Machine

end GameBoy
