import GameBoy.Proofs.Machine.Interrupts
import GameBoy.Proofs.Machine.Stepping

/-!
# Interrupts that injected code swallows

Wherever injected code is called to a service routine, the next instruction is the one at the
vector, as in every run. But a dispatch in the tick of the last instruction finds no next one: the
program counter is put back, and the routine never runs although its request is taken back, further
interrupts are off and the return address is on the stack (`inject_swallows_last_dispatch`).
-/

namespace GameBoy

namespace Machine

variable {m m' : Machine} {b : Bool} {es es₁ es₂ : List Event} {ms : List Machine}
variable {i : Interrupt} {pc : UInt16}

/-! ## The place of a dispatch -/

/-- An interrupt whose dispatch is told of is dispatched. -/
lemma mem_dispatches (h : es = es₁ ++ .notice (.serviced i pc) :: es₂) : i ∈ dispatches es := by
  rw [h, dispatches_append]
  exact List.mem_append_right _ (.head _)

/-- An event of two stretches on end is in one of them. -/
lemma append_eq_append_cons {es es' es₁ es₂ : List Event} {e : Event}
    (h : es ++ es' = es₁ ++ e :: es₂) :
    (∃ rest, es = es₁ ++ e :: rest ∧ es₂ = rest ++ es') ∨ ∃ rest, es' = rest ++ e :: es₂ := by
  obtain ⟨rest, -, h⟩ | ⟨rest, h, h'⟩ := List.append_eq_append_iff.mp h
  · exact .inr ⟨rest, h⟩
  · cases rest with
    | nil => exact .inr ⟨[], h'.symm⟩
    | cons e' rest =>
      obtain ⟨rfl, hrest⟩ := List.cons.inj h'
      exact .inl ⟨rest, h, hrest⟩

/-- A dispatch is the last thing that happens in a tick. -/
lemma Settled.dispatch_last (h : Settled m m' es) :
    dispatches es = [] ∨ ∃ before e, es = before ++ [e] ∧ dispatches before = [] := by
  cases h with
  | quiet _ => exact .inl rfl
  | woken _ _ hes => exact .inl hes
  | @dispatched i _ _ =>
    exact .inr ⟨_, _, dispatch_events i m.paid, (Made.push _).ensures dispatchless _⟩

/-- A dispatch is the last event of its tick. -/
lemma Ticked.dispatch_last (h : Ticked m b m' es) :
    dispatches es = [] ∨ ∃ before e, es = before ++ [e] ∧ dispatches before = [] := by
  cases h with
  | panicked _ => exact .inl rfl
  | faulted _ _ _ hes =>
    rw [dispatches_append, execute_dispatches, hes]
    exact .inl rfl
  | executed _ _ _ hs =>
    obtain hes | ⟨before, e, hes, hbefore⟩ := hs.dispatch_last
    · rw [dispatches_append, execute_dispatches, hes]
      exact .inl rfl
    · refine .inr ⟨(execute m).events ++ before, e, by rw [hes, List.append_assoc], ?_⟩
      rw [dispatches_append, execute_dispatches, hbefore]
      rfl
  | waited _ _ hs => exact hs.dispatch_last

/-- Nothing follows a dispatch in its tick. -/
lemma Ticked.nothing_behind (h : Ticked m b m' es)
    (he : es = es₁ ++ .notice (.serviced i pc) :: es₂) : es₂ = [] := by
  obtain hes | ⟨before, e, hes, hbefore⟩ := h.dispatch_last
  · exact absurd (mem_dispatches he) (hes ▸ List.not_mem_nil)
  · obtain h | ⟨rest, e', rfl⟩ := List.eq_nil_or_concat es₂
    · exact h
    · -- otherwise the dispatch would be among what comes before the last event
      have hsplit : before ++ [e] = (es₁ ++ .notice (.serviced i pc) :: rest) ++ [e'] := by
        rw [← hes, he, List.append_assoc, List.cons_append, List.concat_eq_append]
      have hmem := mem_dispatches (List.append_inj' hsplit rfl).1
      exact absurd hmem (hbefore ▸ List.not_mem_nil)

/-- The tick of a dispatch among ticks on end. -/
lemma Ticks.at_dispatch (h : Ticks m ms es m')
    (he : es = es₁ ++ .notice (.serviced i pc) :: es₂) :
    ∃ ms₁ x ms₂ before, ms = ms₁ ++ x :: ms₂ ∧ es = before ++ ((tick x).events ++ es₂) ∧
      i ∈ dispatches (tick x).events ∧ Ticks (tick x).state ms₂ es₂ m' := by
  induction h generalizing es₁ with
  | nil _ => exact absurd he.symm (List.append_ne_nil_of_right_ne_nil _ (List.cons_ne_nil _ _))
  | @cons m ms es m' h ih =>
    obtain ⟨rest, hm, rfl⟩ | ⟨rest, hrest⟩ := append_eq_append_cons he
    · obtain rfl := (ticked m).nothing_behind hm
      exact ⟨[], m, ms, [], rfl, rfl, mem_dispatches hm, h⟩
    · -- it is in one of the later ticks
      obtain ⟨ms₁, x, ms₂, before, rfl, hes, hx, hms₂⟩ := ih hrest
      refine ⟨m :: ms₁, x, ms₂, (tick m).events ++ before, rfl, ?_, hx, hms₂⟩
      rw [hes, List.append_assoc]

/-! ## Behind a dispatch -/

/-- Ticks of a processor that is bound for a service routine: the first instruction is the one at
the vector, or fetching it is a fault, or it is still bound for it. -/
lemma Ticks.first_executed (h : Ticks m ms es m') (hb : Headed i.vector m.cpu) :
    (∃ last rest, executions es = last :: rest ∧ last.addr = i.vector) ∨
      executions es = [] ∧
        (Headed i.vector m'.cpu ∨ ∃ fault, m'.cpu.fault = some fault ∧ fault.addr = i.vector) := by
  induction h with
  | nil _ => exact .inr ⟨rfl, .inl hb⟩
  | @cons m _ _ _ h ih =>
    have ht := ticked m
    rw [executions_append, executions_tick]
    cases hv : (tick m).value with
    | true => exact .inl ⟨_, _, rfl, hb.pc⟩
    | false =>
      rw [hv] at ht
      obtain ⟨hb', -⟩ | ⟨fault, hf, ha⟩ := ht.headed_wait hb
      · exact ih hb'
      · -- nothing happens after the fault
        obtain ⟨rfl, rfl⟩ := h.of_isPanicked (isPanicked_of_some hf)
        exact .inr ⟨rfl, .inr ⟨fault, hf, ha⟩⟩

/-- Ticks in whole steps end behind a dispatch only if it was in the very last of them. -/
lemma Paced.first_executed (h : Paced m es m')
    (he : es = es₁ ++ .notice (.serviced i pc) :: es₂) :
    (∃ last rest, executions es₂ = last :: rest ∧ last.addr = i.vector) ∨
      executions es₂ = [] ∧ ((∃ fault, m'.cpu.fault = some fault ∧ fault.addr = i.vector) ∨
        Headed i.vector m'.cpu ∧ (m'.bus.requests i.number = false ∨ WritesFlag es)) := by
  obtain ⟨ms, ht, hlast⟩ := h
  obtain ⟨ms₁, x, ms₂, before, rfl, hes, hx, hms₂⟩ := ht.at_dispatch he
  obtain hfirst | ⟨hnone, hb | hf⟩ := hms₂.first_executed ((ticked x).headed hx)
  · exact .inl hfirst
  · refine .inr ⟨hnone, .inr ⟨hb, ?_⟩⟩
    obtain rfl | ⟨rest, y, rfl⟩ := List.eq_nil_or_concat ms₂
    · cases hms₂
      obtain h | h := (ticked x).clears hx
      · exact .inl h
      · rw [hes]
        exact .inr (.append (.inr (.append (.inl h))))
    · -- a last tick that executes nothing would have left the processor stopped or at rest
      have hy : (tick y).value = false := hms₂.waited hnone y (by simp)
      have hy' : (ms₁ ++ x :: rest.concat y).getLast? = some y := by
        rw [List.concat_eq_append, ← List.cons_append, ← List.append_assoc, List.getLast?_concat]
      obtain h | h := hlast y hy' hy
      · cases h.symm.trans (isPanicked_of_none hb.fault)
      · rw [Cpu.isIdle, hb.halted] at h
        cases h
  · exact .inr ⟨hnone, .inl hf⟩

/-! ## Injections -/

/-- Of the processor an injection puts back the program counter, the halt and what is owed. -/
lemma inject_cpu (m : Machine) (code : List UInt8) (addr : UInt16) (limit : InjectionLimit) :
    let ran := (runInjected limit (m.patched code addr)).state.cpu
    (inject code addr limit m).state.cpu =
      { ran with
        registers := { ran.registers with pc := m.cpu.registers.pc }
        debt := m.cpu.debt
        halted := m.cpu.halted } := by
  rw [inject_state]
  unfold restore
  cases m.bus.bootMapped <;> rfl

/-- An injection answers with what the run of its code answers, and around that run nothing is
dispatched or executed. -/
lemma inject_run (m : Machine) (code : List UInt8) (addr : UInt16) (limit : InjectionLimit) :
    let run := runInjected limit (m.patched code addr)
    (inject code addr limit m).value = run.value ∧
      ∃ lift map, (inject code addr limit m).events = lift ++ (run.events ++ map) ∧
        dispatches lift = [] ∧ dispatches map = [] ∧
          executions lift = [] ∧ executions map = [] := by
  have hlift : (onBus Bus.disableBoot m).state = { m with bus := m.bus.lifted } := by
    simp only [onBus, Bus.disableBoot_state, Bus.lifted]
  have hreports : ∀ e ∈ (onBus Bus.disableBoot m).events, Bus.isOwnReport e = true :=
    Bus.disableBoot_reports m.bus
  have hecho : dispatches [.echo 0] = [] := rfl
  intro run
  unfold inject
  rw [Action.bind_apply, Action.get_apply]
  dsimp only
  rw [Action.bind_apply, hlift]
  refine ⟨?_, (onBus Bus.disableBoot m).events,
    if m.bus.bootMapped then [.notice .bootEnabled] else [], ?_,
    dispatches_bus hecho fun e he => .inl (hreports e he), ?_, executions_of_reports hreports, ?_⟩
  all_goals cases m.bus.bootMapped <;> rfl

/-- A register that the code does not cover keeps what the run of the code leaves in it. -/
lemma inject_io (m : Machine) {code : List UInt8} {addr : UInt16} (limit : InjectionLimit)
    {r : IoRegister} (h : ∀ j < code.length, addr.toNat + j ≠ r.addr.toNat) :
    (inject code addr limit m).state.bus.io r =
      (runInjected limit (m.patched code addr)).state.bus.io r := by
  have hbus := (runInjected_inserted limit (m.patched code addr)).lifted
    (Bus.patch.go_frame m.bus.lifted addr.toNat code).2.1
  rw [inject_state, restore_bus m addr _ hbus]
  exact (Bus.byte_patch_saved addr code rfl hbus).2 (.map r.addr) fun j hj haj =>
    BankWindow.map_ne_cell haj (h j hj)

/-- The processor goes on where it was before, as if nothing had been dispatched, but takes no
further interrupts. -/
structure Resumed (before after : Cpu) : Prop where
  pc : after.registers.pc = before.registers.pc
  halted : after.halted = before.halted
  ime : after.ime = false
  fault : after.fault = none

/-- Behind a dispatch during an injection, the first instruction is the one at the vector, or
fetching it is a fault. If the injection ends there, the routine is not called at all. -/
lemma inject_dispatched {code : List UInt8} {addr : UInt16} {limit : InjectionLimit}
    (he : (inject code addr limit m).events = es₁ ++ .notice (.serviced i pc) :: es₂) :
    let done := inject code addr limit m
    (∃ last rest, executions es₂ = last :: rest ∧ last.addr = i.vector) ∨
      executions es₂ = [] ∧
        ((∃ fault, done.state.cpu.fault = some fault ∧ fault.addr = i.vector) ∨
          Resumed m.cpu done.state.cpu ∧
            ((∀ j < code.length, addr.toNat + j ≠ 0xff0f) →
              done.state.bus.requests i.number = false ∨ WritesFlag done.events)) := by
  intro done
  obtain ⟨-, lift, map, hes, hlift, hmap, -, hmap'⟩ := inject_run m code addr limit
  have hcpu := inject_cpu m code addr limit
  rw [hes] at he
  -- the dispatch is one of the run
  obtain ⟨rest, hrest, -⟩ | ⟨rest, hrest⟩ := append_eq_append_cons he
  · exact absurd (mem_dispatches hrest) (hlift ▸ List.not_mem_nil)
  obtain ⟨behind, hrun, rfl⟩ | ⟨rest, hrest⟩ := append_eq_append_cons hrest
  swap
  · exact absurd (mem_dispatches hrest) (hmap ▸ List.not_mem_nil)
  rw [executions_append, hmap', List.append_nil]
  obtain hfirst | ⟨hnone, ⟨fault, hf, ha⟩ | ⟨hb, hreq⟩⟩ :=
    (runInjected_paced limit (m.patched code addr)).first_executed hrun
  · exact .inl hfirst
  · exact .inr ⟨hnone, .inl ⟨fault, (congrArg Cpu.fault hcpu).trans hf, ha⟩⟩
  · have hresumed : Resumed m.cpu done.state.cpu := by
      rw [hcpu]
      exact ⟨rfl, rfl, hb.ime, hb.fault⟩
    refine .inr ⟨hnone, .inr ⟨hresumed, fun hcode => ?_⟩⟩
    obtain hreq | hreq := hreq
    · refine .inl ?_
      rw [Bus.requests, inject_io (r := .interruptFlag) m limit hcode]
      exact hreq
    · exact .inr (hes ▸ .append (.inr (.append (.inl hreq))))

/-! ## Injecting nothing -/

/-- Code that reaches no register leaves the registers as they were. -/
lemma patched_io (m : Machine) {code : List UInt8} {addr : UInt16} {r : IoRegister}
    (h : ∀ j < code.length, addr.toNat + j ≠ r.addr.toNat) :
    (m.patched code addr).bus.io r = m.bus.io r := by
  have hlifted : m.bus.lifted.bootMapped = false := rfl
  exact Bus.patch.byte_go_outside (c := .map r.addr) hlifted fun j hj haj =>
    BankWindow.map_ne_cell haj (h j hj)

/-- Below the registers, the bus shows the code that is injected. -/
lemma patched_shown (m : Machine) (opcode : UInt8) {addr : UInt16} (h : addr < 0xff00) :
    (m.patched [opcode] addr).bus.shown addr = opcode := by
  obtain ⟨hwindow, hmapped, -⟩ := Bus.patch.go_frame m.bus.lifted addr.toNat [opcode]
  have hreg : IoRegister.ofAddr? addr = none := if_pos h
  have haddr : UInt16.ofNat (addr.toNat + 0) = addr := UInt16.ofNat_toNat
  have hlifted : m.bus.lifted.bootMapped = false := rfl
  have hfirst : 0 < [opcode].length := Nat.zero_lt_one
  have hlt : addr.toNat + 0 < 0x10000 := addr.toNat_lt
  have hbyte := Bus.patch.byte_go_inside hlifted hfirst hlt
  rw [haddr, ← hwindow, ← Bus.peek_eq_byte hmapped] at hbyte
  rw [Bus.shown, hreg]
  exact hbyte

/-- The operation that does nothing is fetched, and nothing more. -/
lemma execute_nop (hpc : m.cpu.registers.pc ≤ pcLimit) (h : m.bus.shown m.cpu.registers.pc = 0) :
    (execute m).value = .ok 4 ∧ (execute m).state = m.fetched := by
  rw [execute_of_le hpc, h, executeOpcode, Handler.decode_eq]
  exact ⟨rfl, rfl⟩

/-- A tick that executes the opcode of no operation does nothing else than the fetch before it looks
at the interrupts. -/
lemma Ticked.nop (h : Ticked m b m' es) (hp : m.cpu.isPanicked = false) (hr : m.cpu.isReady = true)
    (hpc : m.cpu.registers.pc ≤ pcLimit) (hs : m.bus.shown m.cpu.registers.pc = 0) :
    b = true ∧ ∃ es', Settled (m.fetched.charged 4) m' es' ∧ es = (execute m).events ++ es' := by
  obtain ⟨hv, hm⟩ := execute_nop hpc hs
  cases h with
  | panicked h => cases h.symm.trans hp
  | faulted _ _ h _ => cases h.symm.trans hv
  | waited _ h _ => cases h.symm.trans hr
  | executed _ _ h hsettled =>
    cases h.symm.trans hv
    rw [hm] at hsettled
    exact ⟨rfl, _, hsettled, rfl⟩

/-- The opcode of no operation ends an injection that waits for it, as the number of instructions
ends an injection of one instruction. -/
lemma runInjected_once {limit : InjectionLimit}
    (hlimit : limit = .instructions 1 ∨ ∃ n, limit = .untilNop (n + 1))
    (hv : (tick m).value = true) (hc : (tick m).state.cpu.lastCost ≠ 0)
    (ho : (tick m).state.cpu.last.opcode = 0) :
    runInjected limit m = ⟨some 1, (tick m).state, (tick m).events⟩ := by
  have hstep := (Stepped.executed hv).step_eq
  obtain rfl | ⟨n, rfl⟩ := hlimit
  · have h : injectedStep false m = ⟨.again, (tick m).state, (tick m).events⟩ := by
      simp [injectedStep, hstep, hc]
    rw [runInjected, Action.bind_apply]
    simp [Action.upTo, Action.repeatFrom, h]
  · have h : injectedStep true m = ⟨.last, (tick m).state, (tick m).events⟩ := by
      simp [injectedStep, hstep, hc, ho]
    rw [runInjected, Action.bind_apply]
    simp [Action.upTo, Action.repeatFrom, h]

/-- An injected opcode of no operation is executed in one tick, and nothing else happens in it
before the interrupts are looked at. -/
lemma runInjected_nop {addr : UInt16} {limit : InjectionLimit}
    (hlimit : limit = .instructions 1 ∨ ∃ n, limit = .untilNop (n + 1))
    (hp : m.cpu.isPanicked = false) (ha : addr < 0xff00) :
    let run := runInjected limit (m.patched [0] addr)
    run.value = some 1 ∧ executions run.events = [{ addr, opcode := 0 }] ∧
      ∃ es es', run.events = es ++ es' ∧ dispatches es = [] ∧
        Settled ((m.patched [0] addr).fetched.charged 4) run.state es' := by
  have hpc : (m.patched [0] addr).cpu.registers.pc ≤ pcLimit := UInt16.le_of_lt ha
  have hs := m.patched_shown 0 ha
  have ht := ticked (m.patched [0] addr)
  obtain ⟨hv, es, hsettled, hes⟩ := ht.nop hp rfl hpc hs
  rw [hv] at ht
  have hlast : (tick (m.patched [0] addr)).state.cpu.last = { addr, opcode := 0 } :=
    hsettled.last.trans (congrArg (LastInstruction.mk addr · none none) hs)
  rw [runInjected_once hlimit hv (hsettled.lastCost.trans_ne (Nat.succ_ne_zero 3))
    (congrArg LastInstruction.opcode hlast)]
  refine ⟨rfl, ?_, _, es, hes, execute_dispatches _, hsettled⟩
  rw [executions_tick, hv, if_pos rfl, ← ht.last_executed, hlast]

/-- An opcode below the registers covers none of them. -/
lemma not_covered {addr : UInt16} (h : addr < 0xff00) (opcode : UInt8) (r : IoRegister) :
    ∀ j < [opcode].length, addr.toNat + j ≠ r.addr.toNat := by
  intro j hj
  have hr : 0xff00 ≤ r.addr := by cases r <;> decide
  have hlt := UInt16.lt_iff_toNat_lt.mp (UInt16.lt_of_lt_of_le h hr)
  rw [List.length_singleton] at hj
  omega

/-- An injected opcode below the last page leaves the same interrupt pending. -/
lemma patched_pending (m : Machine) (opcode : UInt8) {addr : UInt16} (h : addr < 0xff00) :
    (m.patched [opcode] addr).pending = m.pending := by
  rw [pending, pending, m.patched_io (not_covered h opcode .interruptEnable),
    m.patched_io (not_covered h opcode .interruptFlag)]

/-- What looking at the interrupts changes in the registers and in the requests: nothing, unless it
dispatches one. -/
lemma Settled.undisturbed (h : Settled m m' es) (hm : m.cpu.ime = false ∨ m.pending = none) :
    m'.cpu.registers = m.cpu.registers ∧ m'.cpu.ime = m.cpu.ime ∧ m'.bus = m.bus := by
  cases h with
  | quiet _ | woken _ _ _ => exact ⟨rfl, rfl, rfl⟩
  | dispatched hp hi =>
    obtain hm | hm := hm
    · cases hm.symm.trans hi
    · cases hm.symm.trans hp

/-- With interrupts enabled, settling calls the routine of the one that is pending. -/
lemma Settled.disturbed (h : Settled m m' es) (hi : m.cpu.ime = true) (hp : m.pending = some i) :
    m'.cpu.registers = { m.cpu.registers with sp := m.cpu.registers.sp - 2, pc := i.vector } ∧
      m'.cpu.ime = false ∧ dispatches es = [i] := by
  cases h with
  | quiet h => cases hp.symm.trans h
  | woken _ h _ => cases hi.symm.trans h
  | dispatched h _ =>
    cases hp.symm.trans h
    exact ⟨rfl, rfl, dispatch_dispatches i m.paid⟩

/-- Injected code and the interrupts that are dispatched while it runs. Either the first instruction
behind a dispatch is the one at the vector, or fetching that one is a fault, or the dispatch is the
last thing that happens and the interrupt is swallowed: the processor goes on where it was before,
without the request and with interrupts off. So an opcode of no operation, injected where code can
run, leaves the registers, the interrupt enable and the requests as they are unless an interrupt is
due, which it swallows. -/
theorem inject_swallows_last_dispatch (m : Machine) (addr : UInt16) (limit : InjectionLimit) :
    -- whatever is injected
    (∀ code es₁ i pc es₂,
      let done := inject code addr limit m
      done.events = es₁ ++ .notice (.serviced i pc) :: es₂ →
        (∃ last rest, executions es₂ = last :: rest ∧ last.addr = i.vector) ∨
        executions es₂ = [] ∧
          ((∃ fault, done.state.cpu.fault = some fault ∧ fault.addr = i.vector) ∨
            Resumed m.cpu done.state.cpu ∧
              ((∀ j < code.length, addr.toNat + j ≠ 0xff0f) →
                done.state.bus.requests i.number = false ∨ WritesFlag done.events))) ∧
    -- a single opcode of no operation
    ((limit = .instructions 1 ∨ ∃ n, limit = .untilNop (n + 1)) → addr < 0xff00 →
      let done := inject [0] addr limit m
      (m.cpu.isPanicked = false →
        done.value = some 1 ∧ executions done.events = [{ addr, opcode := 0 }]) ∧
      (m.cpu.isPanicked = true ∨ m.cpu.ime = false ∨ m.pending = none →
        done.state.cpu.registers = m.cpu.registers ∧ done.state.cpu.ime = m.cpu.ime ∧
          done.state.bus.io .interruptFlag = m.bus.io .interruptFlag) ∧
      ∀ i, m.cpu.isPanicked = false → m.cpu.ime = true → m.pending = some i →
        done.state.cpu.registers = { m.cpu.registers with sp := m.cpu.registers.sp - 2 } ∧
          dispatches done.events = [i] ∧ Resumed m.cpu done.state.cpu ∧
          (done.state.bus.requests i.number = false ∨ WritesFlag done.events)) := by
  refine ⟨fun code es₁ i pc es₂ => inject_dispatched, fun hlimit ha => ?_⟩
  intro done
  obtain ⟨hvalue, lift, map, hes, hlift, hmap, hlift', hmap'⟩ := inject_run m [0] addr limit
  have hcpu := inject_cpu m [0] addr limit
  have hio := m.inject_io limit (not_covered ha 0 .interruptFlag)
  have hpending := m.patched_pending 0 ha
  refine ⟨fun hp => ?_, fun h => ?_, fun i hp hi hdue => ?_⟩
  · obtain ⟨hv, hrun, -⟩ := runInjected_nop hlimit hp ha
    refine ⟨hvalue.trans hv, ?_⟩
    rw [hes, executions_append, executions_append, hlift', hrun, hmap']
    rfl
  · have hpatched := m.patched_io (not_covered ha 0 .interruptFlag)
    cases hp : m.cpu.isPanicked with
    | true =>
      -- nothing runs at all
      obtain ⟨ms, ht, -⟩ := runInjected_paced limit (m.patched [0] addr)
      obtain ⟨hrun, -⟩ := ht.of_isPanicked hp
      rw [hrun] at hcpu hio
      rw [hcpu, hio]
      exact ⟨rfl, rfl, hpatched⟩
    | false =>
      obtain ⟨-, -, _, _, -, -, hs⟩ := runInjected_nop hlimit hp ha
      obtain ⟨hregs, hime, hbus⟩ := hs.undisturbed
        ((h.resolve_left (by simp [hp])).imp id hpending.trans)
      rw [hcpu, hio, hregs, hime, hbus]
      exact ⟨rfl, rfl, hpatched⟩
  · obtain ⟨-, -, es, es', hrun, hquiet, hs⟩ := runInjected_nop hlimit hp ha
    obtain ⟨hregs, hime, hserved⟩ := hs.disturbed hi (hpending.trans hdue)
    have hdispatches : dispatches done.events = [i] := by
      rw [hes, hrun]
      simp only [dispatches_append, hlift, hquiet, hserved, hmap, List.nil_append, List.append_nil]
    have hclears := hs.clears (hserved ▸ List.mem_singleton_self i)
    rw [hcpu, hregs]
    refine ⟨rfl, hdispatches, ⟨rfl, rfl, hime, hs.fault.trans (fault_of_isPanicked hp)⟩, ?_⟩
    rw [Bus.requests, hio]
    exact hclears.imp_right fun h => hes ▸ hrun ▸ .append (.inr (.append (.inl (.append (.inr h)))))

/-- A request for the vertical blank while one injected operation does nothing: it is taken back,
and the routine never runs. -/
theorem inject_swallows_last_dispatch_nop :
    let m : Machine :=
      { cpu := { registers := { sp := 0xfffe, pc := 0x100 }, ime := true }
        bus := ((Bus.new (.steady 0 0)).setIo .interruptEnable 1).setIo .interruptFlag 1 }
    let done := inject [0] 0xc000 (.instructions 1) m
    done.events = done.events.dropLast ++ [.notice (.serviced .vblank 0xc001)] ∧
      Resumed m.cpu done.state.cpu ∧
      (done.state.bus.requests Interrupt.vblank.number = false ∨ WritesFlag done.events) ∧
      m.pending = some .vblank ∧ done.value = some 1 ∧
      done.state.cpu.registers = { m.cpu.registers with sp := 0xfffe - 2 } := by
  intro m done
  have hes : done.events = done.events.dropLast ++ [.notice (.serviced .vblank 0xc001)] := by
    decide +kernel
  have hpending : m.pending = some .vblank := by decide +kernel
  have hfault : done.state.cpu.fault = none := by decide +kernel
  obtain ⟨hany, hnop⟩ := inject_swallows_last_dispatch m 0xc000 (.instructions 1)
  obtain ⟨hone, -, hdue⟩ := hnop (.inl rfl) (by decide)
  obtain ⟨_, _, h, -⟩ | ⟨-, ⟨_, h, -⟩ | ⟨hresumed, hreq⟩⟩ := hany [0] _ _ _ [] hes
  · cases h
  · cases hfault.symm.trans h
  · exact ⟨hes, hresumed, hreq (by decide), hpending, (hone rfl).1, (hdue _ rfl rfl hpending).1⟩

/-- A single opcode of no operation that is injected while the vertical blank is due: its routine is
not called, neither is the request back nor the program counter at the routine, and the registers
and the interrupt enable are not what they were. -/
theorem nop_swallows_vblank :
    let m : Machine :=
      { cpu := { registers := { sp := 0xfffe, pc := 0x100 }, ime := true }
        bus := ((Bus.new (.steady 0 0)).setIo .interruptEnable 1).setIo .interruptFlag 1 }
    let done := inject [0] 0xc000 (.instructions 1) m
    done.value = some 1 ∧ dispatches done.events = [.vblank] ∧
      (∀ last ∈ executions done.events, last.addr ≠ Interrupt.vblank.vector) ∧
      done.state.bus.requests Interrupt.vblank.number = false ∧
      done.state.cpu.registers.pc ≠ Interrupt.vblank.vector ∧
      done.state.cpu.registers ≠ m.cpu.registers ∧ done.state.cpu.ime ≠ m.cpu.ime := by
  decide +kernel

end Machine

end GameBoy
